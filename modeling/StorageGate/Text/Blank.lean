import StorageGate.Text.CodePoints
/-!
# White space

The 25 characters with the Unicode property `White_Space`, as closed ranges, and the trimming of a text by them.
-/
namespace StorageGate
namespace Blank

/-- The ranges of the property, ascending and apart. -/
def ranges : List (Nat × Nat) :=
  [(0x09, 0x0D), (0x20, 0x20), (0x85, 0x85), (0xA0, 0xA0), (0x1680, 0x1680), (0x2000, 0x200A), (0x2028, 0x2029),
   (0x202F, 0x202F), (0x205F, 0x205F), (0x3000, 0x3000)]

end Blank

/-- Whether a character is white space. -/
def isBlank (c : Char) : Bool := inRanges Blank.ranges c

/-- A text without the characters of a class at either end. -/
def trimBy (p : Char → Bool) (text : List Char) : List Char :=
  ((text.dropWhile p).reverse.dropWhile p).reverse

/-- A text without white space at either end. -/
def trimBlank (text : List Char) : List Char := trimBy isBlank text

end StorageGate
