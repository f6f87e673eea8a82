import StorageGate.Text.Binary64
/-!
# JSON numbers

A literal is read as a whole number if it is one of 64 bits, signed or not, and as a floating-point number otherwise.
The text of a floating-point number has a point or an exponent, so no whole number is written like it.
-/
namespace StorageGate
namespace Json

/-- A literal in its parts. -/
structure Literal where
  isNegative : Bool
  whole : List Char
  /-- The digits after the point, if there is one. -/
  fraction : Option (List Char) := none
  exponent : Option Int := none
deriving DecidableEq, Repr

namespace Literal

/-- A sign and digits, after the letter of an exponent. -/
def cutExponent? (text : List Char) : Option (Int × List Char) :=
  let signed (digits : List Char) (sign : Int) : Option (Int × List Char) :=
    (Numeral.digits? (digits.takeWhile Char.isDigit)).map fun n => (sign * n, digits.dropWhile Char.isDigit)
  match text with
  | '+' :: digits => signed digits 1
  | '-' :: digits => signed digits (-1)
  | digits => signed digits 1

/-- The literal at the front of a text, and what follows it. -/
def cut? (text : List Char) : Option (Literal × List Char) := do
  let (isNegative, text) := match text with
    | '-' :: rest => (true, rest)
    | _ => (false, text)
  let (whole, rest) ← match text with
    | '0' :: rest => some (['0'], rest)
    | _ =>
      let digits := text.takeWhile Char.isDigit
      if digits.isEmpty then none else some (digits, text.dropWhile Char.isDigit)
  let (fraction, rest) ← match rest with
    | '.' :: after =>
      let digits := after.takeWhile Char.isDigit
      if digits.isEmpty then none else some (some digits, after.dropWhile Char.isDigit)
    | _ => some (none, rest)
  match rest with
  | 'e' :: after | 'E' :: after =>
    let (exponent, rest) ← cutExponent? after
    return ({ isNegative, whole, fraction, exponent := some exponent }, rest)
  | _ => return ({ isNegative, whole, fraction }, rest)

/-- Digits read into a number of 64 bits: the number, and how many digits no longer fit from the first that did not. -/
def accumulate (start : Nat) (digits : List Char) : Nat × Nat :=
  digits.foldl (fun (n, dropped) c =>
    let next := n * 10 + (c.toNat - 48)
    if dropped = 0 ∧ next < size64 then (next, 0) else (n, dropped + 1)) (start, 0)

/-- The floating-point number of the literal, without its sign. -/
def float? (l : Literal) : Option Binary64 :=
  let (n, dropped) := accumulate 0 l.whole
  let digits := l.fraction.getD []
  let (n, unused) := accumulate n digits
  Binary64.ofDecimal? n (dropped - (digits.length - unused : Nat) + l.exponent.getD 0)

/-- The text of digits with a decimal exponent: in positions from five zeros after the point to sixteen digits before it,
with an exponent beyond. -/
def decimalText (digits : Nat) (exponent : Int) : List Char :=
  let ds := Numeral.write digits
  let point := ds.length + exponent
  if 0 ≤ exponent ∧ point ≤ 16 then ds ++ List.replicate exponent.toNat '0' ++ ['.', '0']
  else if 0 < point ∧ point ≤ 16 then ds.take point.toNat ++ '.' :: ds.drop point.toNat
  else if -5 < point ∧ point ≤ 0 then '0' :: '.' :: List.replicate (-point).toNat '0' ++ ds
  else
    let e := point - 1
    let exponentText := (if e < 0 then ['-'] else []) ++ Numeral.write e.natAbs
    ds.take 1 ++ (if ds.length = 1 then [] else '.' :: ds.drop 1) ++ 'e' :: exponentText

/-- The text of the number that the literal stands for, unless that is infinite. -/
def text? (l : Literal) : Option (List Char) :=
  let value := Nat.ofDigitChars 10 l.whole 0
  let sign := if l.isNegative then ['-'] else []
  let isWhole := l.fraction.isNone && l.exponent.isNone
  if isWhole ∧ (if l.isNegative then value ≠ 0 ∧ value ≤ size64 / 2 else value < size64) then
    some (sign ++ Numeral.write value)
  else do
    let x ← l.float?
    if x.mantissa = 0 then return sign ++ ['0', '.', '0']
    else return sign ++ decimalText x.shortest.1 x.shortest.2

end Literal
end Json
end StorageGate
