import StorageGate.Text.Numeral
/-!
# Instants

A point in time is a count of nanoseconds from the start of 1970, in either direction.  Its texts are those of the
Gregorian calendar, carried on before its introduction and with a year zero.
-/
namespace StorageGate

/-- Nanoseconds in a second. -/
def nanosPerSecond : Int := 1000000000

/-- A point in time. -/
structure Instant where
  /-- Nanoseconds since 1970-01-01T00:00:00Z. -/
  nanos : Int
deriving DecidableEq, Repr, Inhabited

/-- A day of the calendar. -/
structure CalendarDay where
  year : Int
  month : Nat
  day : Nat
deriving DecidableEq, Repr

/-- The day that lies `days` after 1970-01-01.  The calendar repeats after 400 years, which have 146097 days.  Within
them a year is counted from March, so that a leap day is its last and five months always have 153 days. -/
def CalendarDay.ofDays (days : Int) : CalendarDay :=
  let shifted := days + 719468
  let dayOfEra := (shifted % 146097).toNat
  let yearOfEra := (dayOfEra - dayOfEra / 1460 + dayOfEra / 36524 - dayOfEra / 146096) / 365
  let dayOfYear := dayOfEra - (365 * yearOfEra + yearOfEra / 4 - yearOfEra / 100)
  let month := (5 * dayOfYear + 2) / 153
  { year := shifted / 146097 * 400 + yearOfEra + (if month < 10 then 0 else 1)
    month := if month < 10 then month + 3 else month - 9
    day := dayOfYear - (153 * month + 2) / 5 + 1 }

namespace Instant

/-- The first instant there is: the start of the year -262143. -/
def earliest : Instant := ⟨-8334601228800 * nanosPerSecond⟩

/-- The last instant there is: the end of the year 262142. -/
def latest : Instant := ⟨8210266876799 * nanosPerSecond + 999999999⟩

/-- The instant of whole seconds and a part of a second. -/
def ofSeconds (seconds : Int) (nanos : Nat) : Instant := ⟨seconds * nanosPerSecond + nanos⟩

/-- The whole seconds since 1970 that are past. -/
def seconds (t : Instant) : Int := t.nanos / nanosPerSecond

/-- The nanoseconds past since the last whole second. -/
def subsecond (t : Instant) : Nat := (t.nanos % nanosPerSecond).toNat

/-- The milliseconds past since 1970. -/
def milliseconds (t : Instant) : Int := t.nanos / 1000000

/-- One more than the largest number of 64 bits with a sign. -/
def signedSize64 : Nat := Nat.pow 2 63

/-- The longest span of whole seconds: it is counted in milliseconds with a sign. -/
def longestSpan : Int := ((signedSize64 : Int) - 1) / 1000

/-- A span of whole seconds in nanoseconds, in either direction, if there is one so long. -/
def span? (seconds : Int) : Option Int :=
  if -longestSpan ≤ seconds ∧ seconds ≤ longestSpan then some (seconds * nanosPerSecond) else none

/-- The instant a span away, if there is one. -/
def moved? (t : Instant) (span : Int) : Option Instant :=
  if earliest.nanos ≤ t.nanos + span ∧ t.nanos + span ≤ latest.nanos then some ⟨t.nanos + span⟩ else none

/-- A number as one with a sign, if it fits into the 64 bits of those. -/
def signed? (n : Nat) : Option Int := if n < signedSize64 then some n else none

/-- The instant so many seconds later, or the last one if the number, the span or the sum is too large. -/
def after (t : Instant) (seconds : Nat) : Instant :=
  (do t.moved? (← span? (← signed? seconds))).getD latest

/-- The day on which an instant falls. -/
def day (t : Instant) : CalendarDay := .ofDays (t.seconds / 86400)

/-- The seconds past since midnight. -/
def secondOfDay (t : Instant) : Nat := (t.seconds % 86400).toNat

/-! ## Texts -/

/-- A number in decimal with zeros in front up to a width. -/
def padded (width n : Nat) : List Char :=
  let digits := Numeral.write n
  List.replicate (width - digits.length) '0' ++ digits

/-- A year in four digits; a year outside 0 to 9999 has a sign, and more digits if it needs them. -/
def yearText (year : Int) : List Char :=
  if year < 0 then '-' :: padded 4 year.natAbs
  else if year ≤ 9999 then padded 4 year.natAbs
  else '+' :: padded 4 year.natAbs

/-- A part of a second after its point, in the fewest of no, three, six and nine digits that lose nothing. -/
def subsecondText (nanos : Nat) : List Char :=
  if nanos = 0 then []
  else if nanos % 1000000 = 0 then '.' :: padded 3 (nanos / 1000000)
  else if nanos % 1000 = 0 then '.' :: padded 6 (nanos / 1000)
  else '.' :: padded 9 nanos

/-- An instant as `2013-05-24T00:00:00+00:00`. -/
def extendedText (t : Instant) : List Char :=
  let d := t.day
  let s := t.secondOfDay
  yearText d.year ++ '-' :: padded 2 d.month ++ '-' :: padded 2 d.day
    ++ 'T' :: padded 2 (s / 3600) ++ ':' :: padded 2 (s / 60 % 60) ++ ':' :: padded 2 (s % 60)
    ++ subsecondText t.subsecond ++ "+00:00".toList

/-- The second of an instant as `20130524T000000Z`. -/
def basicText (t : Instant) : List Char :=
  let d := t.day
  let s := t.secondOfDay
  yearText d.year ++ padded 2 d.month ++ padded 2 d.day
    ++ 'T' :: padded 2 (s / 3600) ++ padded 2 (s / 60 % 60) ++ padded 2 (s % 60) ++ ['Z']

end Instant
end StorageGate
