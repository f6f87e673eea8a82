import StorageGate.Text.Numeral
/-!
# Binary floating point

The nonnegative finite numbers of the 64-bit format, in exact arithmetic: rounding a quotient to the nearest of them, a
tie going to the even mantissa, reading a decimal, and writing the fewest digits that read back.
-/
namespace StorageGate

/-- The number `mantissa * 2 ^ exponent`.  A mantissa has at most 53 bits, and all 53 unless the exponent is the least;
zero has exponent 0. -/
structure Binary64 where
  mantissa : Nat
  exponent : Int
deriving DecidableEq, Repr

namespace Binary64

/-- The number as a numerator and a denominator. -/
def ratio (x : Binary64) : Nat × Nat :=
  if 0 ≤ x.exponent then (x.mantissa * Nat.pow 2 x.exponent.toNat, 1) else (x.mantissa, Nat.pow 2 (-x.exponent).toNat)

/-- A quotient rounded to the nearest whole number, a half to the even one. -/
def roundDiv (num den : Nat) : Nat :=
  let q := num / den
  let r := num % den
  if 2 * r < den then q else if den < 2 * r then q + 1 else q + q % 2

/-- A quotient times a power of two, in numerator and denominator. -/
def shifted (num den : Nat) (e : Int) : Nat × Nat :=
  if 0 ≤ e then (num * Nat.pow 2 e.toNat, den) else (num, den * Nat.pow 2 (-e).toNat)

/-- The exponent for a positive quotient: such that its mantissa has 53 bits, but not below the least one. -/
def exponentFor (num den : Nat) : Int :=
  let l : Int := (num.log2 : Int) - den.log2
  let s := shifted num den (-l)
  max (-1074) (if s.2 ≤ s.1 then l - 52 else l - 53)

/-- The nearest number to a quotient, unless that is infinite. -/
def nearest? (num den : Nat) : Option Binary64 :=
  let e := exponentFor num den
  let s := shifted num den (-e)
  let m := roundDiv s.1 s.2
  let x : Binary64 := if m = 0 then ⟨0, 0⟩ else if m = Nat.pow 2 53 then ⟨Nat.pow 2 52, e + 1⟩ else ⟨m, e⟩
  if 971 < x.exponent then none else some x

/-- A product, rounded. -/
def times? (x y : Binary64) : Option Binary64 :=
  nearest? (x.ratio.1 * y.ratio.1) (x.ratio.2 * y.ratio.2)

/-- A quotient, rounded. -/
def over? (x y : Binary64) : Option Binary64 :=
  nearest? (x.ratio.1 * y.ratio.2) (x.ratio.2 * y.ratio.1)

/-- The number of a decimal `significand * 10 ^ exponent`: its digits, and then its scale, each step rounded.  A scale
beyond the range of the format is applied in two steps downwards and refused upwards. -/
def ofDecimal? (significand : Nat) (exponent : Int) : Option Binary64 := do
  let x ← nearest? significand 1
  let ten (k : Nat) : Option Binary64 := nearest? (Nat.pow 10 k) 1
  if x.mantissa = 0 then return x
  else if 308 < exponent then none
  else if 0 ≤ exponent then x.times? (← ten exponent.toNat)
  else
    let k := (-exponent).toNat
    if k ≤ 308 then x.over? (← ten k)
    else if k ≤ 616 then (← x.over? (← ten 308)).over? (← ten (k - 308))
    else return ⟨0, 0⟩

/-- The place of the first digit of a positive quotient: how many digits stand before the point, or, less than zero, how
many zeros after it. -/
def place (num den : Nat) : Int :=
  if den ≤ num then (Numeral.write (num / den)).length
  else 1 - ((Numeral.write ((den - 1) / num)).length : Int)

/-- The decimal `digits * 10 ^ exponent` in numerator and denominator. -/
def decimal (digits : Nat) (exponent : Int) : Nat × Nat :=
  if 0 ≤ exponent then (digits * Nat.pow 10 exponent.toNat, 1) else (digits, Nat.pow 10 (-exponent).toNat)

/-- The decimal with so many digits, or a power of ten, that reads back as a positive number, if there is one; the nearer
if there are two. -/
def withDigits? (x : Binary64) (count : Nat) : Option (Nat × Int) :=
  let (num, den) := x.ratio
  let exponent := place num den - count
  let unit := decimal 1 exponent
  let low := num * unit.2 / (den * unit.1)
  let isRead (digits : Nat) : Bool := nearest? (decimal digits exponent).1 (decimal digits exponent).2 == some x
  let found := match isRead low, isRead (low + 1) with
    | true, true => some (roundDiv (num * unit.2) (den * unit.1))
    | true, false => some low
    | false, true => some (low + 1)
    | false, false => none
  found.map fun digits => if digits = Nat.pow 10 count then (1, exponent + count) else (digits, exponent)

/-- The shortest decimal that reads back as a positive number, as digits and exponent. -/
def shortest (x : Binary64) : Nat × Int :=
  ((List.range' 1 17).findSome? x.withDigits?).getD (0, 0)

end Binary64
end StorageGate
