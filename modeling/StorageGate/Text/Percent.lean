import StorageGate.Text.Utf8
/-!
# Percent-encoding

A byte is written as itself when its character is kept, and as `%` with two upper-case hexadecimal digits otherwise.
Which characters are kept is the caller's choice and never includes a character beyond ASCII.  Reading takes either
case of digit, and a `%` without two digits after it stands for itself.
-/
namespace StorageGate
namespace Percent

/-- An upper-case hexadecimal digit. -/
def upperDigit (n : Nat) : Char :=
  if n < 10 then Char.ofNat (48 + n) else Char.ofNat (55 + n)

/-- A lower-case hexadecimal digit. -/
def lowerDigit (n : Nat) : Char :=
  if n < 10 then Char.ofNat (48 + n) else Char.ofNat (87 + n)

/-- The value of a hexadecimal digit of either case. -/
def digitValue? (c : Char) : Option Nat :=
  if '0' ≤ c ∧ c ≤ '9' then some (c.toNat - 48)
  else if 'A' ≤ c ∧ c ≤ 'F' then some (c.toNat - 55)
  else if 'a' ≤ c ∧ c ≤ 'f' then some (c.toNat - 87)
  else none

/-- Bytes as lower-case hexadecimal digits, two for each. -/
def lowerHex (bytes : List UInt8) : List Char :=
  bytes.flatMap fun b => [lowerDigit (b.toNat / 16), lowerDigit (b.toNat % 16)]

/-- One byte, kept or escaped. -/
def encodeByte (keep : Char → Bool) (b : UInt8) : List Char :=
  if b < 0x80 && keep (Char.ofNat b.toNat) then [Char.ofNat b.toNat]
  else ['%', upperDigit (b.toNat / 16), upperDigit (b.toNat % 16)]

/-- A text with every byte of its UTF-8 form kept or escaped. -/
def encode (keep : Char → Bool) (text : List Char) : List Char :=
  (Utf8.encode text).flatMap (encodeByte keep)

/-- The bytes a percent-encoded text stands for, after those already `read` (last first). -/
def scan (read : List UInt8) : List Char → List UInt8
  | [] => read.reverse
  | '%' :: a :: b :: r =>
    match digitValue? a, digitValue? b with
    | some x, some y => scan (UInt8.ofNat (16 * x + y) :: read) r
    | _, _ => scan (0x25 :: read) (a :: b :: r)
  | c :: r => scan ((String.utf8EncodeChar c).reverse ++ read) r

/-- The bytes a percent-encoded text stands for. -/
def decode (text : List Char) : List UInt8 := scan [] text

/-- The characters that need no escape anywhere in a URL: letters, digits and `-`, `_`, `.`, `~`. -/
def isUnreserved (c : Char) : Bool :=
  c.isAlphanum || c == '-' || c == '_' || c == '.' || c == '~'

end Percent
end StorageGate
