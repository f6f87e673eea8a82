import StorageGate.Text.Numeral
/-!
# Numerals and back

A number below the bound is read from its own numeral, by the canonical reader (`canonical?_write`) and by the lenient one
(`lenient?_write`): a written numeral is a nonempty run of digits, and zero leads it only where it stands alone.  The
canonical reader reads nothing else (`canonical?_eq_some_iff`), and what the lenient one reads is written as itself without a
plus and without zeros in front (`write_of_lenient?`).
-/
namespace StorageGate
namespace Numeral

theorem write_ne_nil (n : Nat) : write n ≠ [] := Nat.toDigits_ne_nil

theorem isDigit_of_mem_write {n : Nat} {c : Char} (h : c ∈ write n) : c.isDigit = true :=
  Nat.isDigit_of_mem_toDigits (by decide) (by decide) h

theorem not_mem_write {c : Char} (hc : c.isDigit = false) (n : Nat) : c ∉ write n := fun h => by
  rw [isDigit_of_mem_write h] at hc
  cases hc

theorem write_of_le {n : Nat} (h : 10 ≤ n) : write n = write (n / 10) ++ [(n % 10).digitChar] :=
  Nat.toDigits_of_base_le (by decide) h

theorem head?_write_ne_zero {n : Nat} (h : 0 < n) : (write n).head? ≠ some '0' := by
  by_cases hn : n < 10
  · rw [write, Nat.toDigits_of_lt_base hn]
    have hall : ∀ m ∈ List.range 10, 0 < m → [m.digitChar].head? ≠ some '0' := by decide
    exact hall n (List.mem_range.2 hn) h
  · have ih := head?_write_ne_zero (n := n / 10) (by omega)
    obtain ⟨c, r, hw⟩ := List.exists_cons_of_ne_nil (write_ne_nil (n / 10))
    rw [write_of_le (by omega), hw]
    rw [hw] at ih
    exact ih
termination_by n

theorem write_ne_zero_cons (n : Nat) (c : Char) (r : List Char) : write n ≠ '0' :: c :: r := by
  intro h
  rcases Nat.eq_zero_or_pos n with rfl | hn
  · rw [write, Nat.toDigits_zero] at h
    cases h
  · exact head?_write_ne_zero hn (by rw [h]; rfl)

theorem digits?_write (n : Nat) : digits? (write n) = some n := by
  have hall : (write n).all Char.isDigit = true := List.all_eq_true.2 fun _ => isDigit_of_mem_write
  rw [digits?, if_pos ⟨write_ne_nil n, hall⟩, write, Nat.ofDigitChars_ten_toDigits]

theorem write_injective {m n : Nat} (h : write m = write n) : m = n := by
  have hm := digits?_write m
  rw [h, digits?_write n] at hm
  exact (Option.some.inj hm).symm

/-- **The canonical reader reads a numeral back.** -/
theorem canonical?_write {bound n : Nat} (h : n < bound) : canonical? bound (write n) = some n := by
  unfold canonical?
  split
  · rename_i c r hw
    exact absurd hw (write_ne_zero_cons n c r)
  · rw [digits?_write, Option.filter_some, if_pos (by simpa using h)]

/-- **The lenient reader reads a numeral back.** -/
theorem lenient?_write {bound n : Nat} (h : n < bound) : lenient? bound (write n) = some n := by
  unfold lenient?
  split
  · rename_i r hw
    exact absurd (hw ▸ List.mem_cons_self) (not_mem_write (c := '+') (by decide) n)
  · dsimp only
    rw [digits?_write, Option.filter_some, if_pos (by simpa using h)]

/-! ## Every numeral is a written one -/

theorem digitChar_of_isDigit {c : Char} (h : c.isDigit = true) :
    c.toNat - '0'.toNat < 10 ∧ (c.toNat - '0'.toNat).digitChar = c := by
  have hc : 48 ≤ c.toNat ∧ c.toNat ≤ 57 := by
    simp only [Char.isDigit, Bool.and_eq_true, decide_eq_true_eq] at h
    exact ⟨h.1, h.2⟩
  have hall : ∀ n ∈ List.range 10, (n.digitChar).toNat = 48 + n := by decide
  have hzero : '0'.toNat = 48 := rfl
  have hlt : c.toNat - '0'.toNat < 10 := by omega
  have htoNat : (c.toNat - '0'.toNat).digitChar.toNat = c.toNat := by
    rw [hall _ (List.mem_range.2 hlt)]
    omega
  exact ⟨hlt, Char.ext (UInt32.toNat_inj.1 htoNat)⟩

/-- Digits behind a number go behind its numeral. -/
theorem write_ofDigitChars_of_pos {n : Nat} (hn : 0 < n) : ∀ {ds : List Char}, (∀ c ∈ ds, c.isDigit = true) →
    write (Nat.ofDigitChars 10 ds n) = write n ++ ds
  | [], _ => by rw [Nat.ofDigitChars_nil, List.append_nil]
  | c :: ds, h => by
    obtain ⟨hlt, hc⟩ := digitChar_of_isDigit (h c List.mem_cons_self)
    have hwrite : write (10 * n + (c.toNat - '0'.toNat)) = write n ++ [c] := by
      rw [write, ← Nat.toDigits_append_toDigits (by decide) hn hlt, Nat.toDigits_of_lt_base hlt, hc]
      rfl
    rw [Nat.ofDigitChars_cons, write_ofDigitChars_of_pos (by omega) fun d hd => h d (List.mem_cons_of_mem _ hd), hwrite]
    simp

/-- **Digits without a zero in front are the numeral of their value.** -/
theorem write_ofDigitChars {ds : List Char} (hne : ds ≠ []) (hall : ∀ c ∈ ds, c.isDigit = true)
    (hlead : ∀ c r, ds ≠ '0' :: c :: r) : write (Nat.ofDigitChars 10 ds 0) = ds := by
  cases ds with
  | nil => exact absurd rfl hne
  | cons c ds =>
    obtain ⟨hlt, hc⟩ := digitChar_of_isDigit (hall c List.mem_cons_self)
    have hone : write (c.toNat - '0'.toNat) = [c] := by rw [write, Nat.toDigits_of_lt_base hlt, hc]
    rw [Nat.ofDigitChars_cons, Nat.mul_zero, Nat.zero_add]
    rcases Nat.eq_zero_or_pos (c.toNat - '0'.toNat) with hzero | hpos
    · have hds : ds = [] := by
        cases ds with
        | nil => rfl
        | cons d r =>
          rw [hzero] at hc
          exact absurd (by rw [← hc]; rfl) (hlead d r)
      rw [hds, Nat.ofDigitChars_nil, hone]
    · rw [write_ofDigitChars_of_pos hpos fun d hd => hall d (List.mem_cons_of_mem _ hd), hone]
      rfl

theorem digits?_eq_some_iff {text : List Char} {n : Nat} :
    digits? text = some n ↔ text ≠ [] ∧ (∀ c ∈ text, c.isDigit = true) ∧ Nat.ofDigitChars 10 text 0 = n := by
  unfold digits?
  split
  · rename_i h
    rw [List.all_eq_true] at h
    simpa [h.1] using fun _ => h.2
  · rename_i h
    rw [List.all_eq_true] at h
    constructor
    · exact nofun
    · rintro ⟨hne, hall, -⟩
      exact absurd ⟨hne, hall⟩ h

/-- **The canonical reader reads written numerals only.** -/
theorem canonical?_eq_some_iff {bound : Nat} {text : List Char} {n : Nat} :
    canonical? bound text = some n ↔ n < bound ∧ text = write n := by
  constructor
  · intro h
    unfold canonical? at h
    split at h
    · cases h
    · rename_i hlead
      obtain ⟨hdigits, hlt⟩ := Option.filter_eq_some_iff.1 h
      obtain ⟨hne, hall, rfl⟩ := digits?_eq_some_iff.1 hdigits
      exact ⟨by simpa using hlt, (write_ofDigitChars hne hall fun c r => hlead c r).symm⟩
  · rintro ⟨hlt, rfl⟩
    exact canonical?_write hlt

/-- A numeral without the plus in front of it. -/
def unsigned : List Char → List Char
  | '+' :: ds => ds
  | ds => ds

/-- The lenient reader reads digits, behind a plus or not. -/
theorem lenient?_eq_some_iff {bound : Nat} {text : List Char} {n : Nat} :
    lenient? bound text = some n ↔ unsigned text ≠ [] ∧ (∀ c ∈ unsigned text, c.isDigit = true) ∧
      Nat.ofDigitChars 10 (unsigned text) 0 = n ∧ n < bound := by
  have hunsigned : lenient? bound text = (digits? (unsigned text)).filter (· < bound) := by
    cases text with
    | nil => rfl
    | cons c ds =>
      by_cases hc : c = '+'
      · subst hc
        rfl
      · simp [lenient?, unsigned, hc]
  rw [hunsigned, Option.filter_eq_some_iff, digits?_eq_some_iff]
  simp [and_assoc]

/-- The only written form of a numeral: no plus, and no zero in front of another digit. -/
def canonicalForm (text : List Char) : List Char :=
  match (unsigned text).dropWhile (· == '0') with
  | [] => ['0']
  | ds => ds

theorem ofDigitChars_dropWhile_zero : ∀ ds : List Char,
    Nat.ofDigitChars 10 (ds.dropWhile (· == '0')) 0 = Nat.ofDigitChars 10 ds 0
  | [] => rfl
  | c :: ds => by
    by_cases hc : c = '0'
    · subst hc
      rw [List.dropWhile_cons_of_pos (by decide), ofDigitChars_dropWhile_zero ds, Nat.ofDigitChars_cons]
      rfl
    · rw [List.dropWhile_cons_of_neg (by simpa using hc)]

/-- **A numeral that is read leniently is written in its canonical form.** -/
theorem write_of_lenient? {bound : Nat} {text : List Char} {n : Nat} (h : lenient? bound text = some n) :
    write n = canonicalForm text := by
  obtain ⟨-, hall, rfl, -⟩ := lenient?_eq_some_iff.1 h
  rw [← ofDigitChars_dropWhile_zero]
  unfold canonicalForm
  split
  · rename_i hds
    rw [hds, Nat.ofDigitChars_nil]
    exact Nat.toDigits_zero 10
  · rename_i hne
    have hmem : ∀ c ∈ (unsigned text).dropWhile (· == '0'), c.isDigit = true :=
      fun c hc => hall c ((List.dropWhile_sublist _).subset hc)
    refine write_ofDigitChars hne hmem fun c r hds => ?_
    have hhead := List.head?_dropWhile_not (· == '0') (unsigned text)
    simp [hds] at hhead

end Numeral
end StorageGate
