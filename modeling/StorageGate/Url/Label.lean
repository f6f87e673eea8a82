import StorageGate.Text.Direction
import StorageGate.Text.Hidden
import StorageGate.Text.Joining
import StorageGate.Text.Variant
import StorageGate.Url.Punycode
/-!
# Labels of domains

A domain is a row of labels.  Variants in a label are replaced by what they stand for, characters that only guide the
display are left out, and the rest is composed.  A label beyond ASCII is written in ASCII with `xn--` in front of its
Punycode.  Such a label may also come written so; then it has to be in that form to begin with, so that every label has
one text and one form in ASCII.
-/
namespace StorageGate
namespace Label

/-- What an ASCII label begins with that stands for another. -/
def mark : List Char := ['x', 'n', '-', '-']

/-- The most characters of a label that is written in Punycode. -/
def longestWritten : Nat := 1000

/-- The most characters of Punycode that are read. -/
def longestRead : Nat := 2000

/-- Printed characters that no label holds though they are no variants: a full stop, the marks of what could not be
shown, and the descriptions of ideographs. -/
def refused : List (Nat × Nat) :=
  [(0x2FF0, 0x2FFF), (0x3002, 0x3002), (0x31EF, 0x31EF), (0xFFFC, 0xFFFD)]

/-- Characters that are left out: hyphens and breaks that show only at the end of a line, fillers, what picks one of
the shapes of a character, and what is not seen of formulas and of music. -/
def leftOut : List (Nat × Nat) :=
  [(0xAD, 0xAD), (0x34F, 0x34F), (0x115F, 0x1160), (0x17B4, 0x17B5), (0x180B, 0x180F), (0x200B, 0x200B),
   (0x2060, 0x2064), (0x206A, 0x206F), (0x3164, 0x3164), (0xFE00, 0xFE0F), (0xFEFF, 0xFEFF), (0xFFA0, 0xFFA0),
   (0x1BCA0, 0x1BCA3), (0x1D173, 0x1D17A), (0xE0100, 0xE01EF)]

/-- Whether a character may stand in a label. -/
def mayStand (c : Char) : Bool :=
  c == Joining.joiner || c == Joining.parter || !isUnprinted c && !isVariant c && !inRanges refused c

/-- What a character of a label is replaced by.  No variant may stand for a text with a dot, which divides labels. -/
def plain? (c : Char) : Option (List Char) :=
  if inRanges leftOut c then some []
  else match Variant.text? c with
    | some text => if text.contains '.' then none else some text
    | none => if mayStand c then some [c] else none

/-- A label without variants, composed, with its letters of ASCII in lower case. -/
def normalize? (label : List Char) : Option (List Char) :=
  if label.all Punycode.isBasic then some label
  else (label.mapM plain?).map fun texts => (compose texts.flatten).map Char.toLower

/-- Whether a text may stand in a label of its own, beyond ASCII. -/
def isNormal (text : List Char) : Bool :=
  text.all mayStand && !text.head?.any isMark && Joining.areMeant [] text && isComposed text

/-- The text that is written with the Punycode of `tail`, if that is its one form in ASCII. -/
def written? (tail : List Char) : Option (List Char) :=
  match Punycode.decode? tail with
  | none => none
  | some text =>
    if tail.length ≤ longestRead && !text.all Punycode.isBasic && isNormal text && Punycode.encode text == tail then
      some text
    else none

/-- The text of a label, whose letters of ASCII are in lower case. -/
def text? (label : List Char) : Option (List Char) :=
  match normalize? label with
  | none => none
  | some text =>
    if mark.isPrefixOf text then written? (text.drop mark.length)
    else if text.all Punycode.isBasic || isNormal text && text.length ≤ longestWritten then some text
    else none

/-- The text of a label in ASCII. -/
def ascii (text : List Char) : List Char :=
  if text.all Punycode.isBasic then text else mark ++ Punycode.encode text

/-- The labels of a domain in ASCII, in any case; their directions of writing must agree. -/
def toAscii? (labels : List (List Char)) : Option (List (List Char)) := do
  let texts ← labels.mapM fun label => text? (label.map Char.toLower)
  guard (Direction.agree texts)
  return texts.map ascii

end Label
end StorageGate
