import StorageGate.Text.Percent
/-!
# Form-encoded pairs

The text form of a list of pairs: `name=value` pieces joined by `&`.  Inside a piece a space is written `+`, letters,
digits and `*`, `-`, `.`, `_` stand for themselves, and every other byte is percent-encoded, so that `&`, `=`, `+` and
`%` are delimiters wherever they occur.  Reading skips empty pieces, gives a piece without `=` an empty value, and
splits at the first `=` only.
-/
namespace StorageGate
namespace Form

/-- The characters that stand for themselves. -/
def isKept (c : Char) : Bool :=
  c.isAlphanum || c == '*' || c == '-' || c == '.' || c == '_'

/-- One byte as it is written. -/
def encodeByte (b : UInt8) : List Char :=
  if b = 0x20 then ['+'] else Percent.encodeByte isKept b

/-- A name or a value as it is written. -/
def encode (text : List Char) : List Char :=
  (Utf8.encode text).flatMap encodeByte

/-- A name or a value as it is read; malformed UTF-8 becomes U+FFFD. -/
def decode (text : List Char) : List Char :=
  Utf8.decodeLossy (Percent.decode (text.map fun c => if c = '+' then ' ' else c))

/-- A piece cut at its first `=`. -/
def cut (piece : List Char) : List Char × List Char :=
  (piece.takeWhile (· != '='), (piece.dropWhile (· != '=')).drop 1)

/-- The pairs of a text. -/
def parse (text : List Char) : List (List Char × List Char) :=
  ((text.splitOn '&').filter (· != [])).map fun piece => (decode (cut piece).1, decode (cut piece).2)

/-- The text of a list of pairs. -/
def write (pairs : List (List Char × List Char)) : List Char :=
  ['&'].intercalate (pairs.map fun p => encode p.1 ++ '=' :: encode p.2)

end Form
end StorageGate
