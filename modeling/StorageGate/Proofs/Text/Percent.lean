import StorageGate.Proofs.Text.Utf8
import StorageGate.Text.Percent
/-!
# Percent-encoding and back

Reading an encoded text gives the bytes of the text (`decode_encode`), whatever is kept, as long as `%` is not.  A text of
kept characters is its own encoding (`encode_eq_self`), and an encoding holds nothing but kept characters and escapes
(`forall_mem_encode`).
-/
namespace StorageGate
namespace Percent

/-! ## Digits -/

theorem forall_lt_sixteen {P : Nat → Prop} [DecidablePred P] (h : ∀ n ∈ List.range 16, P n) {n : Nat} (hn : n < 16) : P n :=
  h n (List.mem_range.2 hn)

theorem digitValue?_upperDigit {n : Nat} (hn : n < 16) : digitValue? (upperDigit n) = some n :=
  forall_lt_sixteen (P := fun n => digitValue? (upperDigit n) = some n) (by decide) hn

theorem nibbles_lt {b : UInt8} : b.toNat / 16 < 16 ∧ b.toNat % 16 < 16 := by
  have : b.toNat < 256 := UInt8.toNat_lt_size b
  omega

/-! ## One byte -/

theorem utf8EncodeChar_ofNat {b : UInt8} (h : b < 0x80) : String.utf8EncodeChar (Char.ofNat b.toNat) = [b] := by
  have hlt : b.toNat < 0x80 := UInt8.lt_iff_toNat_lt.1 h
  have hv : (Char.ofNat b.toNat).toNat = b.toNat := Utf8.toNat_ofNat_ascii hlt
  rw [Utf8.utf8EncodeChar_ascii (by rw [hv]; exact hlt), hv, UInt8.ofNat_toNat]

theorem scan_cons_of_ne {c : Char} (h : c ≠ '%') (read : List UInt8) (r : List Char) :
    scan read (c :: r) = scan ((String.utf8EncodeChar c).reverse ++ read) r := by
  rw [scan]
  intro a b s hc
  exact absurd hc h

theorem scan_escape (b : UInt8) (read : List UInt8) (r : List Char) :
    scan read ('%' :: upperDigit (b.toNat / 16) :: upperDigit (b.toNat % 16) :: r) = scan (b :: read) r := by
  have h16 : 16 * (b.toNat / 16) + b.toNat % 16 = b.toNat := Nat.div_add_mod b.toNat 16
  rw [scan, digitValue?_upperDigit nibbles_lt.1, digitValue?_upperDigit nibbles_lt.2]
  dsimp only
  rw [h16, UInt8.ofNat_toNat]

/-- **A byte is read back**, kept or escaped. -/
theorem scan_encodeByte {keep : Char → Bool} (hkeep : keep '%' = false) (b : UInt8) (read : List UInt8)
    (r : List Char) : scan read (encodeByte keep b ++ r) = scan (b :: read) r := by
  unfold encodeByte
  split
  · rename_i h
    simp only [Bool.and_eq_true, decide_eq_true_eq] at h
    have hne : Char.ofNat b.toNat ≠ '%' := fun he => by
      rw [he, hkeep] at h
      exact absurd h.2 Bool.false_ne_true
    rw [List.cons_append, List.nil_append, scan_cons_of_ne hne, utf8EncodeChar_ofNat h.1]
    rfl
  · exact scan_escape b read r

/-! ## A text -/

theorem scan_flatMap_encodeByte {keep : Char → Bool} (hkeep : keep '%' = false) :
    ∀ (bytes read : List UInt8) (r : List Char),
      scan read (bytes.flatMap (encodeByte keep) ++ r) = scan (bytes.reverse ++ read) r
  | [], _, _ => rfl
  | b :: bytes, read, r => by
    rw [List.flatMap_cons, List.append_assoc, scan_encodeByte hkeep, scan_flatMap_encodeByte hkeep bytes]
    simp

/-- **Reading an encoded text gives its bytes.** -/
theorem decode_encode {keep : Char → Bool} (hkeep : keep '%' = false) (text : List Char) :
    decode (encode keep text) = Utf8.encode text := by
  have h := scan_flatMap_encodeByte hkeep (Utf8.encode text) [] []
  rw [List.append_nil] at h
  rw [decode, encode, h, scan, List.append_nil, List.reverse_reverse]

theorem encode_cons (keep : Char → Bool) (c : Char) (text : List Char) :
    encode keep (c :: text) = (String.utf8EncodeChar c).flatMap (encodeByte keep) ++ encode keep text := by
  rw [encode, Utf8.encode_cons, List.flatMap_append, ← encode]

@[simp] theorem encode_nil (keep : Char → Bool) : encode keep [] = [] := rfl

theorem encode_append (keep : Char → Bool) (s t : List Char) : encode keep (s ++ t) = encode keep s ++ encode keep t := by
  rw [encode, Utf8.encode_append, List.flatMap_append, ← encode, ← encode]

theorem encode_cons_of_keep {keep : Char → Bool} {c : Char} (hc : c.toNat < 0x80) (hkeep : keep c = true)
    (text : List Char) : encode keep (c :: text) = c :: encode keep text := by
  have hb : (UInt8.ofNat c.toNat).toNat = c.toNat := by
    rw [UInt8.toNat_ofNat']
    exact Nat.mod_eq_of_lt (by omega)
  have hlt : UInt8.ofNat c.toNat < 0x80 := by
    rw [UInt8.lt_iff_toNat_lt, hb]
    exact hc
  have hof : Char.ofNat (UInt8.ofNat c.toNat).toNat = c := by rw [hb, Char.ofNat_toNat]
  rw [encode_cons, Utf8.utf8EncodeChar_ascii hc, List.flatMap_cons, List.flatMap_nil, List.append_nil, encodeByte,
    hof, if_pos (by simp [hlt, hkeep])]
  rfl

/-- **A text of kept characters is its own encoding.** -/
theorem encode_eq_self {keep : Char → Bool} :
    ∀ {text : List Char}, (∀ c ∈ text, c.toNat < 0x80 ∧ keep c = true) → encode keep text = text
  | [], _ => rfl
  | c :: text, h => by
    obtain ⟨hc, hkeep⟩ := h c List.mem_cons_self
    rw [encode_cons_of_keep hc hkeep, encode_eq_self fun d hd => h d (List.mem_cons_of_mem _ hd)]

/-- An encoding asks of its text only which characters of ASCII are kept. -/
theorem encode_congr {keep keep' : Char → Bool} {text : List Char}
    (h : ∀ c ∈ text, c.toNat < 0x80 → keep c = keep' c) : encode keep text = encode keep' text := by
  have hbyte : ∀ b ∈ Utf8.encode text, encodeByte keep b = encodeByte keep' b := fun b hb => by
    obtain ⟨c, hc, hbc⟩ := List.mem_flatMap.1 hb
    unfold encodeByte
    by_cases hlt : b < 0x80
    · have hb' : b.toNat < 0x80 := UInt8.lt_iff_toNat_lt.1 hlt
      have hcb := Utf8.toNat_of_mem_utf8EncodeChar hbc hb'
      rw [← hcb, Char.ofNat_toNat, h c hc (by omega)]
    · rw [decide_eq_false hlt, Bool.false_and, Bool.false_and]
  rw [encode, encode, List.flatMap_def, List.flatMap_def, List.map_congr_left hbyte]

/-- Of what a byte is written with: its character if that is kept, else `%` and digits. -/
theorem forall_mem_encodeByte {keep : Char → Bool} {P : Char → Prop} {b : UInt8}
    (hkeep : b.toNat < 0x80 → keep (Char.ofNat b.toNat) = true → P (Char.ofNat b.toNat)) (hpercent : P '%')
    (hdigit : ∀ n ∈ List.range 16, P (upperDigit n)) : ∀ c ∈ encodeByte keep b, P c := by
  intro c hc
  unfold encodeByte at hc
  split at hc
  · rename_i h
    simp only [Bool.and_eq_true, decide_eq_true_eq] at h
    rw [List.mem_singleton.1 hc]
    exact hkeep (UInt8.lt_iff_toNat_lt.1 h.1) h.2
  · simp only [List.mem_cons, List.not_mem_nil, or_false] at hc
    rcases hc with rfl | rfl | rfl
    · exact hpercent
    · exact hdigit _ (List.mem_range.2 nibbles_lt.1)
    · exact hdigit _ (List.mem_range.2 nibbles_lt.2)

/-- **Of what an encoding holds**: a property of the characters that are kept, of `%` and of the digits. -/
theorem forall_mem_encode {keep : Char → Bool} {P : Char → Prop} {text : List Char}
    (hkeep : ∀ c ∈ text, keep c = true → c.toNat < 0x80 → P c) (hpercent : P '%')
    (hdigit : ∀ n ∈ List.range 16, P (upperDigit n)) : ∀ c ∈ encode keep text, P c := by
  intro c hc
  obtain ⟨b, hb, hcb⟩ := List.mem_flatMap.1 hc
  obtain ⟨d, hd, hbd⟩ := List.mem_flatMap.1 hb
  refine forall_mem_encodeByte (fun hlt hk => ?_) hpercent hdigit c hcb
  have hdb := Utf8.toNat_of_mem_utf8EncodeChar hbd hlt
  rw [← hdb, Char.ofNat_toNat] at hk ⊢
  exact hkeep d hd hk (by omega)

theorem forall_mem_lowerHex {P : Char → Prop} (h : ∀ n ∈ List.range 16, P (lowerDigit n)) (bytes : List UInt8) :
    ∀ c ∈ lowerHex bytes, P c := by
  intro c hc
  obtain ⟨b, _, hc⟩ := List.mem_flatMap.1 hc
  simp only [List.mem_cons, List.not_mem_nil, or_false] at hc
  rcases hc with rfl | rfl
  · exact h _ (List.mem_range.2 nibbles_lt.1)
  · exact h _ (List.mem_range.2 nibbles_lt.2)

end Percent
end StorageGate
