import Mathlib.Tactic.IntervalCases
import StorageGate.Instant
import StorageGate.Proofs.Text.Numeral
/-!
# Dates and back

A day of the calendar is counted back to the number of days it was made from (`toDays_ofDays`): with years that begin in March
the count is the sum of the years before, the months before and the day.  A text such as `20130524T000000Z` is read from its
end, since only the year has no fixed width, and shows the second that its instant falls in (`ofBasicText?_basicText`); the
part of a second is lost.  Both hold for every instant, before 1970 and in years of any number of digits.
-/
namespace StorageGate

/-! ## Days -/

namespace CalendarDay

/-- The days in all years before a year that begins in March. -/
def daysBefore (year : Int) : Int := 365 * year + year / 4 - year / 100 + year / 400

/-- The days from 1970-01-01 to a day. -/
def toDays (d : CalendarDay) : Int :=
  let year := if d.month ≤ 2 then d.year - 1 else d.year
  let month := if d.month ≤ 2 then d.month + 9 else d.month - 3
  daysBefore year + (153 * month + 2) / 5 + d.day - 1 - 719468

theorem daysBefore_era (era : Int) {year : Nat} (h : year < 400) :
    daysBefore (era * 400 + year) = 146097 * era + (365 * year + year / 4 - year / 100 : Nat) := by
  have hfour : (era * 400 + year) / 4 = 100 * era + (year / 4 : Nat) := by omega
  have hhundred : (era * 400 + year) / 100 = 4 * era + (year / 100 : Nat) := by omega
  have hera : (era * 400 + year) / 400 = era := by omega
  rw [daysBefore, hfour, hhundred, hera]
  omega

/-- **The year of a day of an era** is the one that the day lies in: its first day is not behind the day, and at most 365
days before it. -/
theorem yearOfEra_bounds {day year : Nat} (h : day < 146097)
    (hyear : year = (day - day / 1460 + day / 36524 - day / 146096) / 365) :
    year < 400 ∧ 365 * year + year / 4 - year / 100 ≤ day ∧ day ≤ 365 * year + year / 4 - year / 100 + 365 := by
  by_cases hlast : day = 146096
  · subst hlast
    subst hyear
    decide
  -- Any other day lies in one of four centuries.  Spans of 1460 days fall a day short of four years, so that of the years up
  -- to the day as many have a leap day as spans are past, or one less.
  obtain ⟨century, hcentury⟩ : ∃ century, century = day / 36524 := ⟨_, rfl⟩
  obtain ⟨spans, hspans⟩ : ∃ spans, spans = day / 1460 := ⟨_, rfl⟩
  have hfour : century ≤ 3 := by omega
  have hera : day / 146096 = 0 := by omega
  rw [hera, ← hcentury, ← hspans] at hyear
  have hlow : 4 * spans ≤ year + 1 := by interval_cases century <;> omega
  have hhigh : year ≤ 4 * spans + 3 := by interval_cases century <;> omega
  have hhundred : year / 100 = century := by interval_cases century <;> omega
  refine ⟨by omega, ?_⟩
  rw [hhundred]
  obtain ⟨hbefore, hleaps⟩ | hleaps : (year + 1 = 4 * spans ∧ year / 4 + 1 = spans) ∨ year / 4 = spans := by omega
  · interval_cases century <;> omega
  · rw [hleaps]
    interval_cases century <;> omega

/-- **A day is as many days away as it was made from.** -/
theorem toDays_ofDays (days : Int) : (ofDays days).toDays = days := by
  unfold ofDays
  extract_lets shifted dayOfEra yearOfEra dayOfYear month
  have hday : dayOfEra < 146097 := by omega
  obtain ⟨hyear, hpast, hleft⟩ := yearOfEra_bounds hday (rfl : yearOfEra = _)
  have hshifted : shifted = 146097 * (shifted / 146097) + dayOfEra := by omega
  have hera := daysBefore_era (shifted / 146097) hyear
  have hdays : dayOfEra = (365 * yearOfEra + yearOfEra / 4 - yearOfEra / 100) + dayOfYear := by omega
  have hmonth : month ≤ 11 := by omega
  have hmonths : (153 * month + 2) / 5 ≤ dayOfYear := by omega
  unfold toDays
  by_cases h : month < 10
  · simp only [if_pos h]
    rw [if_neg (by omega), if_neg (by omega), Int.add_zero, hera]
    omega
  · simp only [if_neg h]
    rw [if_pos (by omega), if_pos (by omega), Int.add_sub_cancel, hera]
    omega

example : ofDays 11016 = { year := 2000, month := 2, day := 29 } ∧ toDays { year := 2000, month := 2, day := 29 } = 11016 := by
  decide

theorem ofDays_lt (days : Int) : (ofDays days).month < 13 ∧ (ofDays days).day < 32 := by
  unfold ofDays
  extract_lets shifted dayOfEra yearOfEra dayOfYear month
  have hday : dayOfEra < 146097 := by omega
  obtain ⟨-, hpast, hleft⟩ := yearOfEra_bounds hday (rfl : yearOfEra = _)
  have hyear : dayOfYear ≤ 365 := by omega
  by_cases h : month < 10
  · simp only [if_pos h]
    omega
  · simp only [if_neg h]
    omega

end CalendarDay

/-! ## Texts -/

namespace Instant

/-- The year of a text. -/
def yearOf? : List Char → Option Int
  | '-' :: ds => (Numeral.digits? ds).map fun n => -(n : Int)
  | ds => (Numeral.digits? (Numeral.unsigned ds)).map fun n => (n : Int)

/-- The instant of a text such as `20130524T000000Z`. -/
def ofBasicText? (text : List Char) : Option Instant := do
  let year ← yearOf? (text.take (text.length - 12))
  match text.drop (text.length - 12) with
  | [m₁, m₂, d₁, d₂, 'T', h₁, h₂, n₁, n₂, s₁, s₂, 'Z'] =>
    let month ← Numeral.digits? [m₁, m₂]
    let day ← Numeral.digits? [d₁, d₂]
    let hour ← Numeral.digits? [h₁, h₂]
    let minute ← Numeral.digits? [n₁, n₂]
    let second ← Numeral.digits? [s₁, s₂]
    return .ofSeconds (86400 * CalendarDay.toDays { year, month, day } + 3600 * hour + 60 * minute + second) 0
  | _ => none

theorem padded_two {n : Nat} (h : n < 100) : ∃ a b, padded 2 n = [a, b] ∧ Numeral.digits? [a, b] = some n := by
  have hall : ∀ n ∈ List.range 100, padded 2 n = [(n / 10).digitChar, (n % 10).digitChar] ∧
      Numeral.digits? [(n / 10).digitChar, (n % 10).digitChar] = some n := by decide +kernel
  exact ⟨_, _, hall n (List.mem_range.2 h)⟩

theorem digits?_padded (width n : Nat) : Numeral.digits? (padded width n) = some n := by
  have hzeros : ∀ k, Nat.ofDigitChars 10 (List.replicate k '0' ++ Numeral.write n) 0 = n := by
    intro k
    induction k with
    | zero => exact (Numeral.digits?_eq_some_iff.1 (Numeral.digits?_write n)).2.2
    | succ k ih => exact ih
  refine Numeral.digits?_eq_some_iff.2 ⟨?_, ?_, hzeros _⟩
  · simp [padded, Numeral.write_ne_nil]
  · intro c hc
    rcases List.mem_append.1 hc with hc | hc
    · rw [(List.mem_replicate.1 hc).2]
      decide
    · exact Numeral.isDigit_of_mem_write hc

theorem yearOf?_padded (width n : Nat) : yearOf? (padded width n) = some (n : Int) := by
  have hdigits := digits?_padded width n
  obtain ⟨hne, hall, -⟩ := Numeral.digits?_eq_some_iff.1 hdigits
  cases h : padded width n with
  | nil => exact absurd h hne
  | cons c ds =>
    have hdigit : c.isDigit = true := hall c (h ▸ List.mem_cons_self)
    have hsign : c ≠ '-' ∧ c ≠ '+' := by constructor <;> (rintro rfl; exact absurd hdigit (by decide))
    have hunsigned : Numeral.unsigned (c :: ds) = c :: ds := by simp [Numeral.unsigned, hsign.2]
    rw [yearOf?, hunsigned, ← h, hdigits]
    · rfl
    · exact fun _ hc => hsign.1 (List.cons.inj hc).1

theorem yearOf?_yearText (year : Int) : yearOf? (yearText year) = some year := by
  unfold yearText
  split
  · have habs : -((year.natAbs : Nat) : Int) = year := by omega
    rw [yearOf?, digits?_padded]
    exact congrArg some habs
  · have habs : ((year.natAbs : Nat) : Int) = year := by omega
    split
    · rw [yearOf?_padded, habs]
    · have hplus : Numeral.unsigned ('+' :: padded 4 year.natAbs) = padded 4 year.natAbs := rfl
      rw [yearOf?, hplus, digits?_padded]
      · exact congrArg some habs
      · exact fun _ hc => absurd (List.cons.inj hc).1 (by decide)

/-- **A text shows the second that its instant falls in.** -/
theorem ofBasicText?_basicText (t : Instant) : ofBasicText? t.basicText = some (.ofSeconds t.seconds 0) := by
  obtain ⟨hlastMonth, hlastDay⟩ := CalendarDay.ofDays_lt (t.seconds / 86400)
  have hlastSecond : t.secondOfDay < 86400 := by
    unfold secondOfDay
    omega
  obtain ⟨m₁, m₂, hmonth, hmonth'⟩ := padded_two (n := t.day.month) (Nat.lt_trans hlastMonth (by decide))
  obtain ⟨d₁, d₂, hday, hday'⟩ := padded_two (n := t.day.day) (Nat.lt_trans hlastDay (by decide))
  obtain ⟨h₁, h₂, hhour, hhour'⟩ := padded_two (n := t.secondOfDay / 3600) (by omega)
  obtain ⟨n₁, n₂, hminute, hminute'⟩ := padded_two (n := t.secondOfDay / 60 % 60) (by omega)
  obtain ⟨s₁, s₂, hsecond, hsecond'⟩ := padded_two (n := t.secondOfDay % 60) (by omega)
  have htext : t.basicText
      = yearText t.day.year ++ [m₁, m₂, d₁, d₂, 'T', h₁, h₂, n₁, n₂, s₁, s₂, 'Z'] := by
    simp [basicText, hmonth, hday, hhour, hminute, hsecond]
  have hlength : t.basicText.length - 12 = (yearText t.day.year).length := by simp [htext]
  have hseconds : 86400 * t.day.toDays + 3600 * (t.secondOfDay / 3600 : Nat) + 60 * (t.secondOfDay / 60 % 60 : Nat)
      + (t.secondOfDay % 60 : Nat) = t.seconds := by
    rw [day, CalendarDay.toDays_ofDays, secondOfDay]
    omega
  rw [ofBasicText?, hlength, htext, List.take_left, List.drop_left, yearOf?_yearText]
  simp only [Option.bind_eq_bind, Option.bind_some, hmonth', hday', hhour', hminute', hsecond', ← hseconds]
  rfl

end Instant
end StorageGate
