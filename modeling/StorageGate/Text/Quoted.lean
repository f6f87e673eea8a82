import StorageGate.Text.Hidden
import StorageGate.Text.Percent
/-!
# Quoted text

A text between double quotes, for messages that show a value.  A quote, a backslash and the usual controls take a
backslash and a letter; any other hidden character is written `\u` with its code point in lower-case hexadecimal
between braces; all else, the apostrophe included, stands for itself.
-/
namespace StorageGate
namespace Quoted

/-- One character inside the quotes. -/
def escape (c : Char) : List Char :=
  if c = '"' then ['\\', '"']
  else if c = '\\' then ['\\', '\\']
  else if c = '\n' then ['\\', 'n']
  else if c = '\r' then ['\\', 'r']
  else if c = '\t' then ['\\', 't']
  else if c.toNat = 0 then ['\\', '0']
  else if isHidden c then '\\' :: 'u' :: '\x7b' :: Nat.toDigits 16 c.toNat ++ ['\x7d']
  else [c]

/-- A text between quotes. -/
def write (text : String) : String :=
  String.ofList ('"' :: text.toList.flatMap escape ++ ['"'])

end Quoted
end StorageGate
