/-!
# Decimal numerals

Two readings of digits as a natural number below a bound: the canonical one, which takes a numeral only as it would be
written, and the lenient one, which also takes a leading `+` and leading zeros.
-/
namespace StorageGate
namespace Numeral

/-- The numeral of a number, as it is written everywhere. -/
def write (n : Nat) : List Char := Nat.toDigits 10 n

/-- The value of a nonempty run of digits. -/
def digits? (text : List Char) : Option Nat :=
  if text ≠ [] ∧ text.all Char.isDigit then some (Nat.ofDigitChars 10 text 0) else none

/-- A numeral below `bound`; a leading `+` and leading zeros are accepted. -/
def lenient? (bound : Nat) (text : List Char) : Option Nat :=
  let unsigned := match text with
    | '+' :: r => r
    | _ => text
  (digits? unsigned).filter (· < bound)

/-- A numeral below `bound` in its only written form: no sign, and no zero in front of another digit. -/
def canonical? (bound : Nat) (text : List Char) : Option Nat :=
  match text with
  | '0' :: _ :: _ => none
  | _ => (digits? text).filter (· < bound)

end Numeral

/-- One more than the largest 64-bit number. -/
def size64 : Nat := Nat.pow 2 64

/-- One more than the largest 32-bit number. -/
def size32 : Nat := Nat.pow 2 32

end StorageGate
