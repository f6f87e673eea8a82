import StorageGate.Json.Number
import StorageGate.Json.Value
/-!
# The tokens of a JSON text

Brackets, commas, colons and scalars; white space between them leaves nothing behind.  The escapes of a string give code
units, which are joined in pairs afterwards.  After something that is no token nothing is read.
-/
namespace StorageGate
namespace Json

/-- A token. -/
inductive Token where
  | openArray
  | closeArray
  | openObject
  | closeObject
  | comma
  | colon
  /-- A string, unless its escapes stand for no text. -/
  | string (text : Option String)
  /-- A scalar that is no string. -/
  | scalar (value : Value)
  | malformed
deriving Repr, Inhabited

/-- Code points with the two halves of each pair of surrogates joined; fails on a half alone. -/
def joinSurrogates : List Nat → Option (List Char)
  | [] => some []
  | high :: rest =>
    if 0xD800 ≤ high ∧ high < 0xDC00 then
      match rest with
      | low :: rest =>
        if 0xDC00 ≤ low ∧ low < 0xE000 then
          (joinSurrogates rest).map (Char.ofNat (0x10000 + (high - 0xD800) * 0x400 + (low - 0xDC00)) :: ·)
        else none
      | [] => none
    else if 0xDC00 ≤ high ∧ high < 0xE000 then none
    else (joinSurrogates rest).map (Char.ofNat high :: ·)

/-- The character of an escape of one letter. -/
def simpleEscape? (c : Char) : Option Char :=
  [('"', '"'), ('\\', '\\'), ('/', '/'), ('b', '\x08'), ('f', '\x0c'), ('n', '\n'), ('r', '\r'), ('t', '\t')].lookup c

/-- The code points of a string up to its closing quote, after those already `read` (last first), and what follows the
quote. -/
def cutString? (read : List Nat) : List Char → Option (List Nat × List Char)
  | [] => none
  | '"' :: rest => some (read.reverse, rest)
  | '\\' :: 'u' :: a :: b :: c :: d :: rest =>
    match [a, b, c, d].mapM Percent.digitValue? with
    | some [a, b, c, d] => cutString? ((((a * 16 + b) * 16 + c) * 16 + d) :: read) rest
    | _ => none
  | '\\' :: c :: rest =>
    match simpleEscape? c with
    | some c => cutString? (c.toNat :: read) rest
    | none => none
  | c :: rest => if c.toNat < 0x20 || c == '\\' then none else cutString? (c.toNat :: read) rest

/-- The token at the front of a text, and what follows it. -/
def Token.cut (text : List Char) : Token × List Char :=
  match text with
  | [] => (.malformed, [])
  | '[' :: rest => (.openArray, rest)
  | ']' :: rest => (.closeArray, rest)
  | '\x7b' :: rest => (.openObject, rest)
  | '\x7d' :: rest => (.closeObject, rest)
  | ',' :: rest => (.comma, rest)
  | ':' :: rest => (.colon, rest)
  | '"' :: rest =>
    match cutString? [] rest with
    | some (codes, after) => (.string ((joinSurrogates codes).map String.ofList), after)
    | none => (.malformed, [])
  | 'n' :: 'u' :: 'l' :: 'l' :: rest => (.scalar .null, rest)
  | 't' :: 'r' :: 'u' :: 'e' :: rest => (.scalar (.bool true), rest)
  | 'f' :: 'a' :: 'l' :: 's' :: 'e' :: rest => (.scalar (.bool false), rest)
  | _ =>
    match Literal.cut? text with
    | some (literal, after) =>
      match literal.text? with
      | some number => (.scalar (.number (String.ofList number)), after)
      | none => (.scalar .unreadable, after)
    | none => (.malformed, [])

/-- Whether a character stands between tokens. -/
def isSpace (c : Char) : Bool := c == ' ' || c == '\t' || c == '\n' || c == '\r'

/-- The tokens of a text, after those already `read` (last first).  A token takes at least one character, so the length
of the text bounds their number. -/
def scan (fuel : Nat) (read : List Token) (text : List Char) : List Token :=
  match fuel, text.dropWhile isSpace with
  | _, [] => read.reverse
  | 0, _ => (.malformed :: read).reverse
  | n + 1, rest =>
    match Token.cut rest with
    | (.malformed, _) => (.malformed :: read).reverse
    | (token, after) => scan n (token :: read) after

/-- The tokens of a text. -/
def tokens (text : List Char) : List Token := scan text.length [] text

end Json
end StorageGate
