import Mathlib.Tactic.SplitIfs
import StorageGate.Proofs.Text.Percent
/-!
# The order of encoded texts

Percent-encoding does not keep the order of texts.  UTF-8 does, and so do escapes among themselves, but an escape begins with
`%`, which is before every character that may be kept.  So two texts change places exactly if, where they first differ, the
smaller character is kept and the other is escaped (`encode_lt_encode`, `encode_lt_of_isOvertaken`).
-/
namespace StorageGate

/-! ## Lists that differ -/

/-- At the first place where the lists differ both have a member, and the first has the smaller one. -/
def DiffersBelow {α : Type} [LT α] : List α → List α → Prop
  | x :: l, y :: l' => x < y ∨ x = y ∧ DiffersBelow l l'
  | _, _ => False

namespace DiffersBelow

variable {α β : Type} [LT α] [LT β]

/-- What follows the lists has no part in their order. -/
theorem append_lt : ∀ {l l' : List α}, DiffersBelow l l' → ∀ s t, l ++ s < l' ++ t
  | _ :: _, _ :: _, .inl h, _, _ => List.cons_lt_cons_iff.2 (.inl h)
  | _ :: _, _ :: _, .inr ⟨he, h⟩, s, t => List.cons_lt_cons_iff.2 (.inr ⟨he, append_lt h s t⟩)

theorem append : ∀ {l l' : List α}, DiffersBelow l l' → ∀ s t, DiffersBelow (l ++ s) (l' ++ t)
  | _ :: _, _ :: _, .inl h, _, _ => .inl h
  | _ :: _, _ :: _, .inr ⟨he, h⟩, s, t => .inr ⟨he, append h s t⟩

theorem append_left : ∀ (s : List α) {l l' : List α}, DiffersBelow l l' → DiffersBelow (s ++ l) (s ++ l')
  | [], _, _, h => h
  | _ :: s, _, _, h => .inr ⟨rfl, append_left s h⟩

theorem flatMap {f : α → List β} (hf : ∀ x y, x < y → DiffersBelow (f x) (f y)) :
    ∀ {l l' : List α}, DiffersBelow l l' → DiffersBelow (l.flatMap f) (l'.flatMap f)
  | x :: l, y :: l', .inl h => (hf x y h).append (l.flatMap f) (l'.flatMap f)
  | x :: _, _ :: _, .inr ⟨rfl, h⟩ => append_left (f x) (flatMap hf h)

end DiffersBelow

/-! ## UTF-8 -/

/-- **UTF-8 keeps the order of characters.** -/
theorem Utf8.differsBelow_utf8EncodeChar {c d : Char} (h : c < d) :
    DiffersBelow (String.utf8EncodeChar c) (String.utf8EncodeChar d) := by
  have hcd : c.toNat < d.toNat := h
  have hd := toNat_valid d
  have hlt {m n : Nat} (hm : m < 256) (hn : n < 256) : UInt8.ofNat m < UInt8.ofNat n ↔ m < n :=
    UInt8.ofNat_lt_iff_lt hm hn
  have heq {m n : Nat} (hm : m < 256) (hn : n < 256) : UInt8.ofNat m = UInt8.ofNat n ↔ m = n := by
    rw [← UInt8.toNat_inj, UInt8.toNat_ofNat_of_lt' hm, UInt8.toNat_ofNat_of_lt' hn]
  -- The payload of a byte is a digit of the number in base 64, and without its last digits a number keeps its order.
  have hle (k : Nat) : c.toNat / k ≤ d.toNat / k := Nat.div_le_div_right (Nat.le_of_lt hcd)
  have hdigits (n : Nat) : n / 64 / 64 = n / 4096 ∧ n / 4096 / 64 = n / 262144 := by
    rw [Nat.div_div_eq_div_mul, Nat.div_div_eq_div_mul]
    exact ⟨rfl, rfl⟩
  have hone := hle 64
  have htwo := hle 4096
  have hthree := hle 262144
  have hcdigits := hdigits c.toNat
  have hddigits := hdigits d.toNat
  have hcfirst : c.toNat / 262144 % 8 = c.toNat / 262144 := Nat.mod_eq_of_lt (by omega)
  have hdfirst : d.toNat / 262144 % 8 = d.toNat / 262144 := Nat.mod_eq_of_lt (by omega)
  simp only [String.utf8EncodeChar, Char.toNat_val]
  split_ifs <;> simp (disch := omega) only [DiffersBelow, hlt, heq] <;> omega

namespace Percent

/-! ## Escapes -/

/-- A byte as it is escaped. -/
def escape (b : UInt8) : List Char := ['%', upperDigit (b.toNat / 16), upperDigit (b.toNat % 16)]

theorem upperDigit_lt {m n : Nat} (h : m < n) (hn : n < 16) : upperDigit m < upperDigit n :=
  forall_lt_sixteen (P := fun n => ∀ m < n, upperDigit m < upperDigit n) (by decide) hn m h

/-- **Escapes are in the order of their bytes.** -/
theorem differsBelow_escape {b b' : UInt8} (h : b < b') : DiffersBelow (escape b) (escape b') := by
  have hlt : b.toNat < b'.toNat := UInt8.lt_iff_toNat_lt.1 h
  refine .inr ⟨rfl, ?_⟩
  rcases Nat.lt_or_eq_of_le (Nat.div_le_div_right (c := 16) (Nat.le_of_lt hlt)) with hhigh | hhigh
  · exact .inl (upperDigit_lt hhigh nibbles_lt.1)
  · exact .inr ⟨by rw [hhigh], .inl (upperDigit_lt (by omega) nibbles_lt.2)⟩

variable {keep : Char → Bool}

theorem encode_cons_append (keep : Char → Bool) (c : Char) (text : List Char) :
    encode keep (c :: text) = encode keep [c] ++ encode keep text :=
  encode_append keep [c] text

theorem encode_singleton_of_keep {c : Char} (hascii : c.toNat < 0x80) (hc : keep c = true) : encode keep [c] = [c] :=
  encode_cons_of_keep hascii hc []

/-- **A character that is not kept is a run of escapes**, whatever its length. -/
theorem encode_singleton_of_not_keep {c : Char} (hc : keep c = false) :
    encode keep [c] = (String.utf8EncodeChar c).flatMap escape := by
  have hbyte : ∀ b ∈ String.utf8EncodeChar c, encodeByte keep b = escape b := fun b hb => by
    refine if_neg fun h => ?_
    simp only [Bool.and_eq_true, decide_eq_true_eq] at h
    have hb' := Utf8.toNat_of_mem_utf8EncodeChar hb (UInt8.lt_iff_toNat_lt.1 h.1)
    rw [← hb', Char.ofNat_toNat, hc] at h
    exact absurd h.2 Bool.false_ne_true
  rw [encode, Utf8.encode, List.flatMap_singleton, List.flatMap_def, List.flatMap_def,
    List.map_congr_left hbyte]

theorem exists_encode_singleton_eq_cons {c : Char} (hc : keep c = false) : ∃ r, encode keep [c] = '%' :: r := by
  have hne : String.utf8EncodeChar c ≠ [] := String.utf8EncodeChar_ne_nil
  obtain ⟨b, bytes, hbytes⟩ := List.exists_cons_of_ne_nil hne
  exact ⟨_, by rw [encode_singleton_of_not_keep hc, hbytes, List.flatMap_cons]; rfl⟩

/-! ## Texts -/

/-- The encoded texts are in the other order: where the texts first differ, the first has the smaller character, which is
kept, and the second one that is escaped. -/
def isOvertaken (keep : Char → Bool) : List Char → List Char → Bool
  | c :: s, d :: t => if c = d then isOvertaken keep s t else c < d && keep c && !keep d
  | _, _ => false

theorem lt_of_isOvertaken : ∀ {s t : List Char}, isOvertaken keep s t = true → s < t
  | c :: s, d :: t, h => by
    rw [isOvertaken] at h
    by_cases hcd : c = d
    · subst hcd
      rw [if_pos rfl] at h
      exact List.cons_lt_cons_iff.2 (.inr ⟨rfl, lt_of_isOvertaken h⟩)
    · rw [if_neg hcd] at h
      simp only [Bool.and_eq_true, decide_eq_true_eq] at h
      exact List.cons_lt_cons_iff.2 (.inl h.1.1)

theorem exists_of_isOvertaken : ∀ {s t : List Char}, isOvertaken keep s t = true → ∃ d ∈ t, keep d = false
  | c :: s, d :: t, h => by
    rw [isOvertaken] at h
    by_cases hcd : c = d
    · rw [if_pos hcd] at h
      obtain ⟨e, he, hescaped⟩ := exists_of_isOvertaken h
      exact ⟨e, List.mem_cons_of_mem d he, hescaped⟩
    · rw [if_neg hcd] at h
      simp only [Bool.and_eq_true, Bool.not_eq_true'] at h
      exact ⟨d, List.mem_cons_self, h.2⟩

section Order

variable (hkeep : ∀ c, keep c = true → c.toNat < 0x80 ∧ '%' < c)

include hkeep

theorem differsBelow_encode {c d : Char} (h : c < d) (hcd : keep c = true → keep d = true) :
    DiffersBelow (encode keep [c]) (encode keep [d]) := by
  cases hd : keep d with
  | true =>
    obtain ⟨hascii, hpercent⟩ := hkeep d hd
    rw [encode_singleton_of_keep hascii hd]
    cases hc : keep c with
    | true =>
      rw [encode_singleton_of_keep (hkeep c hc).1 hc]
      exact .inl h
    | false =>
      obtain ⟨r, hr⟩ := exists_encode_singleton_eq_cons hc
      rw [hr]
      exact .inl hpercent
  | false =>
    have hc : keep c = false := Bool.eq_false_iff.2 fun hc => by simp [hcd hc] at hd
    rw [encode_singleton_of_not_keep hc, encode_singleton_of_not_keep hd]
    exact (Utf8.differsBelow_utf8EncodeChar h).flatMap fun _ _ => differsBelow_escape

theorem differsBelow_encode_of_keep {c d : Char} (hc : keep c = true) (hd : keep d = false) :
    DiffersBelow (encode keep [d]) (encode keep [c]) := by
  obtain ⟨hascii, hpercent⟩ := hkeep c hc
  obtain ⟨r, hr⟩ := exists_encode_singleton_eq_cons hd
  rw [hr, encode_singleton_of_keep hascii hc]
  exact .inl hpercent

/-- **Texts keep their order when they are encoded**, if the first is not overtaken. -/
theorem encode_lt_encode : ∀ {s t : List Char}, s < t → isOvertaken keep s t = false → encode keep s < encode keep t
  | [], d :: t, _, _ => by
    have hne : encode keep [d] ≠ [] := by
      cases hd : keep d with
      | true => simp [encode_singleton_of_keep (hkeep d hd).1 hd]
      | false =>
        obtain ⟨r, hr⟩ := exists_encode_singleton_eq_cons hd
        simp [hr]
    obtain ⟨x, r, hx⟩ := List.exists_cons_of_ne_nil hne
    rw [encode_cons_append keep d t, hx]
    exact List.nil_lt_cons _ _
  | c :: s, d :: t, h, hover => by
    rw [encode_cons_append keep c s, encode_cons_append keep d t]
    rw [isOvertaken] at hover
    rcases List.cons_lt_cons_iff.1 h with hlt | ⟨rfl, hst⟩
    · have hcd : keep c = true → keep d = true := by
        simpa [Char.ne_of_lt hlt, hlt] using hover
      exact (differsBelow_encode hkeep hlt hcd).append_lt _ _
    · rw [if_pos rfl] at hover
      exact List.append_left_lt (encode_lt_encode hst hover)

/-- **They change places** if it is. -/
theorem encode_lt_of_isOvertaken : ∀ {s t : List Char}, isOvertaken keep s t = true → encode keep t < encode keep s
  | c :: s, d :: t, h => by
    rw [encode_cons_append keep c s, encode_cons_append keep d t]
    rw [isOvertaken] at h
    by_cases hcd : c = d
    · subst hcd
      rw [if_pos rfl] at h
      exact List.append_left_lt (encode_lt_of_isOvertaken h)
    · rw [if_neg hcd] at h
      simp only [Bool.and_eq_true, decide_eq_true_eq, Bool.not_eq_true'] at h
      exact (differsBelow_encode_of_keep hkeep h.1.2 h.2).append_lt _ _

end Order

end Percent
end StorageGate
