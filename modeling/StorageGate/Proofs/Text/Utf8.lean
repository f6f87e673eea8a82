import StorageGate.Text.Utf8
/-!
# Text through UTF-8 and back

Reading the bytes of a text gives the text (`decodeLossy_encode`).  The scanner takes the bytes of one character as one
unit (`scan_utf8EncodeChar`), by one law for each length of sequence; the run over a text is an induction on it.  What is
read without a malformed part is a text again, so strict reading takes the bytes of texts and no others
(`decode?_eq_some_iff`).
-/
namespace StorageGate
namespace Utf8

/-! ## One unit -/

theorem scan_one {b : UInt8} {read : List (Option Char)} {r : List UInt8} (h : b.toNat < 0x80) :
    scan read (b :: r) = scan (some (Char.ofNat b.toNat) :: read) r := by
  have hb : b < 0x80 := by rw [UInt8.lt_iff_toNat_lt]; exact h
  rw [scan.eq_def]
  dsimp only
  rw [if_pos hb]

theorem isContinuation_of_toNat {b : UInt8} (h : 0x80 ≤ b.toNat ∧ b.toNat ≤ 0xBF) : isContinuation b = true := by
  simp only [isContinuation, Bool.and_eq_true, decide_eq_true_eq, UInt8.le_iff_toNat_le]
  exact h

theorem scan_two {b b₁ : UInt8} {read : List (Option Char)} {r : List UInt8}
    (h : 0xC2 ≤ b.toNat ∧ b.toNat ≤ 0xDF) (h₁ : 0x80 ≤ b₁.toNat ∧ b₁.toNat ≤ 0xBF) :
    scan read (b :: b₁ :: r) = scan (some (Char.ofNat (b.toNat % 32 * 64 + payload b₁)) :: read) r := by
  have hlt : ¬ b < 0x80 := by rw [UInt8.lt_iff_toNat_lt]; show ¬ b.toNat < 0x80; omega
  have htwo : (decide (0xC2 ≤ b) && decide (b ≤ 0xDF)) = true := by
    simp only [Bool.and_eq_true, decide_eq_true_eq, UInt8.le_iff_toNat_le]; exact h
  rw [scan.eq_def]
  dsimp only
  rw [if_neg hlt, if_pos htwo]
  simp only [isContinuation_of_toNat h₁, if_true]

theorem scan_three {b b₁ b₂ : UInt8} {read : List (Option Char)} {r : List UInt8}
    (h : 0xE0 ≤ b.toNat ∧ b.toNat ≤ 0xEF) (h₁ : isSecondOfThree b b₁ = true)
    (h₂ : 0x80 ≤ b₂.toNat ∧ b₂.toNat ≤ 0xBF) :
    scan read (b :: b₁ :: b₂ :: r)
      = scan (some (Char.ofNat (b.toNat % 16 * 4096 + payload b₁ * 64 + payload b₂)) :: read) r := by
  have hlt : ¬ b < 0x80 := by rw [UInt8.lt_iff_toNat_lt]; show ¬ b.toNat < 0x80; omega
  have htwo : ¬ (decide (0xC2 ≤ b) && decide (b ≤ 0xDF)) = true := by
    simp only [Bool.and_eq_true, decide_eq_true_eq, UInt8.le_iff_toNat_le]
    show ¬ (0xC2 ≤ b.toNat ∧ b.toNat ≤ 0xDF); omega
  have hthree : (decide (0xE0 ≤ b) && decide (b ≤ 0xEF)) = true := by
    simp only [Bool.and_eq_true, decide_eq_true_eq, UInt8.le_iff_toNat_le]; exact h
  rw [scan.eq_def]
  dsimp only
  rw [if_neg hlt, if_neg htwo, if_pos hthree]
  simp only [h₁, isContinuation_of_toNat h₂, if_true]

theorem scan_four {b b₁ b₂ b₃ : UInt8} {read : List (Option Char)} {r : List UInt8}
    (h : 0xF0 ≤ b.toNat ∧ b.toNat ≤ 0xF4) (h₁ : isSecondOfFour b b₁ = true)
    (h₂ : 0x80 ≤ b₂.toNat ∧ b₂.toNat ≤ 0xBF) (h₃ : 0x80 ≤ b₃.toNat ∧ b₃.toNat ≤ 0xBF) :
    scan read (b :: b₁ :: b₂ :: b₃ :: r)
      = scan (some (Char.ofNat
          (b.toNat % 8 * 262144 + payload b₁ * 4096 + payload b₂ * 64 + payload b₃)) :: read) r := by
  have hlt : ¬ b < 0x80 := by rw [UInt8.lt_iff_toNat_lt]; show ¬ b.toNat < 0x80; omega
  have htwo : ¬ (decide (0xC2 ≤ b) && decide (b ≤ 0xDF)) = true := by
    simp only [Bool.and_eq_true, decide_eq_true_eq, UInt8.le_iff_toNat_le]
    show ¬ (0xC2 ≤ b.toNat ∧ b.toNat ≤ 0xDF); omega
  have hthree : ¬ (decide (0xE0 ≤ b) && decide (b ≤ 0xEF)) = true := by
    simp only [Bool.and_eq_true, decide_eq_true_eq, UInt8.le_iff_toNat_le]
    show ¬ (0xE0 ≤ b.toNat ∧ b.toNat ≤ 0xEF); omega
  have hfour : (decide (0xF0 ≤ b) && decide (b ≤ 0xF4)) = true := by
    simp only [Bool.and_eq_true, decide_eq_true_eq, UInt8.le_iff_toNat_le]; exact h
  rw [scan.eq_def]
  dsimp only
  rw [if_neg hlt, if_neg htwo, if_neg hthree, if_pos hfour]
  simp only [h₁, isContinuation_of_toNat h₂, isContinuation_of_toNat h₃, if_true]

theorem isSecondOfThree_of_toNat {b b₁ : UInt8} (h₁ : 0x80 ≤ b₁.toNat ∧ b₁.toNat ≤ 0xBF)
    (hlow : b.toNat = 0xE0 → 0xA0 ≤ b₁.toNat) (hhigh : b.toNat = 0xED → b₁.toNat ≤ 0x9F) :
    isSecondOfThree b b₁ = true := by
  have e0 : b = 0xE0 ↔ b.toNat = 0xE0 := by rw [← UInt8.toNat_inj]; rfl
  have eD : b = 0xED ↔ b.toNat = 0xED := by rw [← UInt8.toNat_inj]; rfl
  simp only [isSecondOfThree, Bool.and_eq_true, decide_eq_true_eq, UInt8.le_iff_toNat_le]
  by_cases h0 : b = 0xE0
  · have hD : ¬ b = 0xED := by rw [h0]; decide
    rw [if_pos h0, if_neg hD]
    exact ⟨hlow (e0.1 h0), h₁.2⟩
  · rw [if_neg h0]
    by_cases hD : b = 0xED
    · rw [if_pos hD]; exact ⟨h₁.1, hhigh (eD.1 hD)⟩
    · rw [if_neg hD]; exact h₁

theorem isSecondOfFour_of_toNat {b b₁ : UInt8} (h₁ : 0x80 ≤ b₁.toNat ∧ b₁.toNat ≤ 0xBF)
    (hlow : b.toNat = 0xF0 → 0x90 ≤ b₁.toNat) (hhigh : b.toNat = 0xF4 → b₁.toNat ≤ 0x8F) :
    isSecondOfFour b b₁ = true := by
  have e0 : b = 0xF0 ↔ b.toNat = 0xF0 := by rw [← UInt8.toNat_inj]; rfl
  have e4 : b = 0xF4 ↔ b.toNat = 0xF4 := by rw [← UInt8.toNat_inj]; rfl
  simp only [isSecondOfFour, Bool.and_eq_true, decide_eq_true_eq, UInt8.le_iff_toNat_le]
  by_cases h0 : b = 0xF0
  · have h4 : ¬ b = 0xF4 := by rw [h0]; decide
    rw [if_pos h0, if_neg h4]
    exact ⟨hlow (e0.1 h0), h₁.2⟩
  · rw [if_neg h0]
    by_cases h4 : b = 0xF4
    · rw [if_pos h4]; exact ⟨h₁.1, hhigh (e4.1 h4)⟩
    · rw [if_neg h4]; exact h₁

/-! ## A text -/

theorem toNat_valid (c : Char) : c.toNat < 0xD800 ∨ 0xDFFF < c.toNat ∧ c.toNat < 0x110000 := c.valid

/-- **The bytes of a character are one unit.** -/
theorem scan_utf8EncodeChar (c : Char) (read : List (Option Char)) (rest : List UInt8) :
    scan read (String.utf8EncodeChar c ++ rest) = scan (some c :: read) rest := by
  have hv := toNat_valid c
  have hofNat : ∀ n, n < 256 → (UInt8.ofNat n).toNat = n := fun n hn => by
    rw [UInt8.toNat_ofNat']; exact Nat.mod_eq_of_lt hn
  have hc : ∀ n, n = c.toNat → Char.ofNat n = c := fun n hn => by rw [hn]; exact Char.ofNat_toNat c
  simp only [String.utf8EncodeChar, Char.toNat_val]
  split
  · rename_i h
    have h0 := hofNat c.toNat (by omega)
    rw [List.cons_append, List.nil_append, scan_one (by rw [h0]; omega), hc _ h0]
  · split
    · rename_i h
      have h0 := hofNat (c.toNat / 64 % 32 + 192) (by omega)
      have h1 := hofNat (c.toNat % 64 + 128) (by omega)
      rw [List.cons_append, List.cons_append, List.nil_append, scan_two (by rw [h0]; omega) (by rw [h1]; omega),
        hc _ (by rw [payload, h0, h1]; omega)]
    · split
      · rename_i h
        have h0 := hofNat (c.toNat / 4096 % 16 + 224) (by omega)
        have h1 := hofNat (c.toNat / 64 % 64 + 128) (by omega)
        have h2 := hofNat (c.toNat % 64 + 128) (by omega)
        rw [List.cons_append, List.cons_append, List.cons_append, List.nil_append,
          scan_three (by rw [h0]; omega)
            (isSecondOfThree_of_toNat (by rw [h1]; omega) (by rw [h0, h1]; omega) (by rw [h0, h1]; omega))
            (by rw [h2]; omega),
          hc _ (by rw [payload, payload, h0, h1, h2]; omega)]
      · have h0 := hofNat (c.toNat / 262144 % 8 + 240) (by omega)
        have h1 := hofNat (c.toNat / 4096 % 64 + 128) (by omega)
        have h2 := hofNat (c.toNat / 64 % 64 + 128) (by omega)
        have h3 := hofNat (c.toNat % 64 + 128) (by omega)
        rw [List.cons_append, List.cons_append, List.cons_append, List.cons_append, List.nil_append,
          scan_four (by rw [h0]; omega)
            (isSecondOfFour_of_toNat (by rw [h1]; omega) (by rw [h0, h1]; omega) (by rw [h0, h1]; omega))
            (by rw [h2]; omega) (by rw [h3]; omega),
          hc _ (by rw [payload, payload, payload, h0, h1, h2, h3]; omega)]

theorem scan_encode : ∀ (text : List Char) (read : List (Option Char)),
    scan read (encode text) = read.reverse ++ text.map some
  | [], read => by simp [encode, scan]
  | c :: text, read => by
    rw [encode, List.flatMap_cons, scan_utf8EncodeChar, ← encode, scan_encode text]
    simp

theorem units_encode (text : List Char) : units (encode text) = text.map some := by
  rw [units, scan_encode]; rfl

/-- **Reading the bytes of a text gives the text.** -/
@[simp] theorem decodeLossy_encode (text : List Char) : decodeLossy (encode text) = text := by
  rw [decodeLossy, units_encode, List.map_map]
  exact List.map_id' text

theorem encode_injective {s t : List Char} (h : encode s = encode t) : s = t := by
  rw [← decodeLossy_encode s, h, decodeLossy_encode]

@[simp] theorem encode_nil : encode [] = [] := rfl

theorem encode_append (s t : List Char) : encode (s ++ t) = encode s ++ encode t := List.flatMap_append

theorem encode_cons (c : Char) (t : List Char) : encode (c :: t) = String.utf8EncodeChar c ++ encode t := rfl

theorem toNat_ofNat_ascii {n : Nat} (h : n < 0x80) : (Char.ofNat n).toNat = n := by
  have hn : n.isValidChar := Or.inl (by omega)
  rw [Char.ofNat, dif_pos hn]
  rfl

theorem forall_ascii {P : Char → Prop} (h : ∀ n ∈ List.range 0x80, P (Char.ofNat n)) {c : Char} (hc : c.toNat < 0x80) :
    P c := by
  have hn := h c.toNat (List.mem_range.2 hc)
  rwa [Char.ofNat_toNat] at hn

theorem utf8EncodeChar_ascii {c : Char} (h : c.toNat < 0x80) : String.utf8EncodeChar c = [UInt8.ofNat c.toNat] := by
  simp only [String.utf8EncodeChar, Char.toNat_val]
  rw [if_pos (by omega)]

theorem toNat_of_mem_utf8EncodeChar {c : Char} {b : UInt8} (hb : b ∈ String.utf8EncodeChar c) (h : b.toNat < 0x80) :
    c.toNat = b.toNat := by
  have hhigh : ∀ n, 0x80 ≤ n → n < 256 → b = UInt8.ofNat n → c.toNat = b.toNat := fun n hn hlt he => by
    rw [he, UInt8.toNat_ofNat', Nat.mod_eq_of_lt hlt] at h
    omega
  simp only [String.utf8EncodeChar, Char.toNat_val] at hb
  split at hb
  · rw [List.mem_singleton.1 hb, UInt8.toNat_ofNat', Nat.mod_eq_of_lt (by omega)]
  · split at hb
    · simp only [List.mem_cons, List.not_mem_nil, or_false] at hb
      rcases hb with hb | hb <;> exact hhigh _ (by omega) (by omega) hb
    · split at hb
      · simp only [List.mem_cons, List.not_mem_nil, or_false] at hb
        rcases hb with hb | hb | hb <;> exact hhigh _ (by omega) (by omega) hb
      · simp only [List.mem_cons, List.not_mem_nil, or_false] at hb
        rcases hb with hb | hb | hb | hb <;> exact hhigh _ (by omega) (by omega) hb

/-! ## Well-formed sequences -/

theorem toNat_of_isContinuation {b : UInt8} (h : isContinuation b = true) : 0x80 ≤ b.toNat ∧ b.toNat ≤ 0xBF := by
  simpa [isContinuation, UInt8.le_iff_toNat_le] using h

theorem toNat_of_isSecondOfThree {b b₁ : UInt8} (h : isSecondOfThree b b₁ = true) : (0x80 ≤ b₁.toNat ∧ b₁.toNat ≤ 0xBF) ∧
    (b.toNat = 0xE0 → 0xA0 ≤ b₁.toNat) ∧ (b.toNat = 0xED → b₁.toNat ≤ 0x9F) := by
  have e0 : b = 0xE0 ↔ b.toNat = 0xE0 := by rw [← UInt8.toNat_inj]; rfl
  have eD : b = 0xED ↔ b.toNat = 0xED := by rw [← UInt8.toNat_inj]; rfl
  simp only [isSecondOfThree, Bool.and_eq_true, decide_eq_true_eq, e0, eD, UInt8.le_iff_toNat_le] at h
  by_cases h0 : b.toNat = 0xE0 <;> by_cases hD : b.toNat = 0xED <;> simp [h0, hD] at h ⊢ <;> omega

theorem toNat_of_isSecondOfFour {b b₁ : UInt8} (h : isSecondOfFour b b₁ = true) : (0x80 ≤ b₁.toNat ∧ b₁.toNat ≤ 0xBF) ∧
    (b.toNat = 0xF0 → 0x90 ≤ b₁.toNat) ∧ (b.toNat = 0xF4 → b₁.toNat ≤ 0x8F) := by
  have e0 : b = 0xF0 ↔ b.toNat = 0xF0 := by rw [← UInt8.toNat_inj]; rfl
  have e4 : b = 0xF4 ↔ b.toNat = 0xF4 := by rw [← UInt8.toNat_inj]; rfl
  simp only [isSecondOfFour, Bool.and_eq_true, decide_eq_true_eq, e0, e4, UInt8.le_iff_toNat_le] at h
  by_cases h0 : b.toNat = 0xF0 <;> by_cases h4 : b.toNat = 0xF4 <;> simp [h0, h4] at h ⊢ <;> omega

theorem toNat_ofNat {n : Nat} (h : n < 0xD800 ∨ 0xDFFF < n ∧ n < 0x110000) : (Char.ofNat n).toNat = n := by
  rw [Char.ofNat, dif_pos h]
  rfl

theorem ofNat_eq {n : Nat} {b : UInt8} (h : n = b.toNat) : UInt8.ofNat n = b := by
  rw [h, UInt8.ofNat_toNat]

theorem utf8EncodeChar_one {b : UInt8} (h : b.toNat < 0x80) : String.utf8EncodeChar (Char.ofNat b.toNat) = [b] := by
  have hn := toNat_ofNat_ascii h
  rw [utf8EncodeChar_ascii (by rwa [hn]), hn, ofNat_eq rfl]

theorem utf8EncodeChar_two {b b₁ : UInt8} (h : 0xC2 ≤ b.toNat ∧ b.toNat ≤ 0xDF) (h₁ : 0x80 ≤ b₁.toNat ∧ b₁.toNat ≤ 0xBF) :
    String.utf8EncodeChar (Char.ofNat (b.toNat % 32 * 64 + payload b₁)) = [b, b₁] := by
  unfold payload
  have hn := toNat_ofNat (n := b.toNat % 32 * 64 + b₁.toNat % 64) (by omega)
  simp only [String.utf8EncodeChar, Char.toNat_val, hn]
  rw [if_neg (by omega), if_pos (by omega), ofNat_eq (b := b) (by omega), ofNat_eq (b := b₁) (by omega)]

theorem utf8EncodeChar_three {b b₁ b₂ : UInt8} (h : 0xE0 ≤ b.toNat ∧ b.toNat ≤ 0xEF) (h₁ : isSecondOfThree b b₁ = true)
    (h₂ : 0x80 ≤ b₂.toNat ∧ b₂.toNat ≤ 0xBF) :
    String.utf8EncodeChar (Char.ofNat (b.toNat % 16 * 4096 + payload b₁ * 64 + payload b₂)) = [b, b₁, b₂] := by
  obtain ⟨hrange, hlow, hhigh⟩ := toNat_of_isSecondOfThree h₁
  unfold payload
  have hn := toNat_ofNat (n := b.toNat % 16 * 4096 + b₁.toNat % 64 * 64 + b₂.toNat % 64) (by omega)
  simp only [String.utf8EncodeChar, Char.toNat_val, hn]
  rw [if_neg (by omega), if_neg (by omega), if_pos (by omega), ofNat_eq (b := b) (by omega), ofNat_eq (b := b₁) (by omega),
    ofNat_eq (b := b₂) (by omega)]

theorem utf8EncodeChar_four {b b₁ b₂ b₃ : UInt8} (h : 0xF0 ≤ b.toNat ∧ b.toNat ≤ 0xF4) (h₁ : isSecondOfFour b b₁ = true)
    (h₂ : 0x80 ≤ b₂.toNat ∧ b₂.toNat ≤ 0xBF) (h₃ : 0x80 ≤ b₃.toNat ∧ b₃.toNat ≤ 0xBF) :
    String.utf8EncodeChar (Char.ofNat (b.toNat % 8 * 262144 + payload b₁ * 4096 + payload b₂ * 64 + payload b₃))
      = [b, b₁, b₂, b₃] := by
  obtain ⟨hrange, hlow, hhigh⟩ := toNat_of_isSecondOfFour h₁
  unfold payload
  have hn := toNat_ofNat
    (n := b.toNat % 8 * 262144 + b₁.toNat % 64 * 4096 + b₂.toNat % 64 * 64 + b₃.toNat % 64) (by omega)
  simp only [String.utf8EncodeChar, Char.toNat_val, hn]
  rw [if_neg (by omega), if_neg (by omega), if_neg (by omega), ofNat_eq (b := b) (by omega), ofNat_eq (b := b₁) (by omega),
    ofNat_eq (b := b₂) (by omega), ofNat_eq (b := b₃) (by omega)]

/-- Before a text whose bytes are all read, a character that is read leaves a text. -/
theorem exists_encode_cons {c : Char} {bytes r : List UInt8} (hc : String.utf8EncodeChar c = bytes) {read : List (Option Char)}
    (h : none ∉ some c :: read ∧ ∃ text, r = encode text) : none ∉ read ∧ ∃ text, bytes ++ r = encode text := by
  obtain ⟨hread, text, rfl⟩ := h
  exact ⟨fun hnone => hread (List.mem_cons_of_mem _ hnone), c :: text, by rw [encode_cons, hc]⟩

/-- **What is read without a malformed part is a text.** -/
theorem exists_encode_of_scan {bytes : List UInt8} {read : List (Option Char)} : none ∉ scan read bytes →
    none ∉ read ∧ ∃ text, bytes = encode text := by
  -- A malformed part stays in what is read, so only the cases of whole characters are left.
  fun_induction scan read bytes <;> intro h
  case case1 => exact ⟨by simpa using h, [], rfl⟩
  case case2 hb ih =>
    have hb := UInt8.lt_iff_toNat_lt.1 hb
    exact exists_encode_cons (utf8EncodeChar_one hb) (ih h)
  case case4 hb _ _ h₁ ih =>
    simp only [Bool.and_eq_true, decide_eq_true_eq, UInt8.le_iff_toNat_le] at hb
    exact exists_encode_cons (utf8EncodeChar_two hb (toNat_of_isContinuation h₁)) (ih h)
  case case8 hb _ h₁ _ _ h₂ ih =>
    simp only [Bool.and_eq_true, decide_eq_true_eq, UInt8.le_iff_toNat_le] at hb
    exact exists_encode_cons (utf8EncodeChar_three hb h₁ (toNat_of_isContinuation h₂)) (ih h)
  case case14 hb _ h₁ _ h₂ _ _ h₃ ih =>
    simp only [Bool.and_eq_true, decide_eq_true_eq, UInt8.le_iff_toNat_le] at hb
    exact exists_encode_cons
      (utf8EncodeChar_four hb h₁ (toNat_of_isContinuation h₂) (toNat_of_isContinuation h₃)) (ih h)
  all_goals first
    | rename_i ih; exact absurd List.mem_cons_self (ih h).1
    | simp at h

theorem decode?_encode (text : List Char) : decode? (encode text) = some text := by
  unfold decode?
  simp [units_encode, List.filterMap_map]

/-- **Strict reading takes the bytes of a text** and no others. -/
theorem decode?_eq_some_iff {bytes : List UInt8} {text : List Char} : decode? bytes = some text ↔ encode text = bytes := by
  refine ⟨fun h => ?_, fun h => h ▸ decode?_encode text⟩
  by_cases hnone : none ∈ units bytes
  · simp [decode?, hnone] at h
  · obtain ⟨-, read, rfl⟩ := exists_encode_of_scan hnone
    rw [decode?_encode] at h
    rw [Option.some.inj h]

end Utf8

theorem toLower_toLower (c : Char) : c.toLower.toLower = c.toLower := by
  by_cases hascii : c.toNat < 0x80
  · exact Utf8.forall_ascii (P := fun c => c.toLower.toLower = c.toLower) (by decide +kernel) hascii
  · have hsame : c.toLower = c := by
      unfold Char.toLower
      refine dif_neg fun h => hascii ?_
      have hz : c.val.toNat ≤ 'Z'.val.toNat := UInt32.le_iff_toNat_le.1 h.2
      exact Nat.lt_of_le_of_lt hz (by decide)
    rw [hsame, hsame]

end StorageGate
