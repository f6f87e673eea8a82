import StorageGate.Text.Mark
/-!
# Directions of writing

The direction of each printed character, and the rule for a piece of text that must read the same wherever it stands
beside others (the Unicode property `Bidi_Class`; the rule for names of hosts).  Such a piece begins with a letter, keeps
to the letter's direction, and ends in a letter or a digit; from right to left, it does not mix digits of two kinds.  The
data are those of Unicode 17; a range may run over characters that are never printed.
-/
namespace StorageGate

/-- How a character takes part in the direction of its line. -/
inductive Direction where
  | left
  | right
  | arabicLetter
  | arabicNumber
  | number
  | sign
  | separator
  | unit
  | neutral
  | nonspacing
deriving DecidableEq, Repr

namespace Direction

/-- Letters of scripts written from right to left, but for those of the Arabic script and its kin. -/
def rights : List (Nat × Nat) :=
  [(0x5BE, 0x5F4), (0x7C0, 0x7F5), (0x7FA, 0x85E), (0xFB1D, 0xFB28), (0xFB2A, 0xFB4F), (0x10800, 0x1091B),
   (0x10920, 0x10B35), (0x10B40, 0x10CFF), (0x10D4A, 0x10D65), (0x10D6F, 0x10D8F), (0x10E80, 0x10EB1),
   (0x10F00, 0x10F27), (0x10F70, 0x10FF6), (0x1E800, 0x1E95F)]

/-- Letters of the Arabic script and its kin. -/
def arabicLetters : List (Nat × Nat) :=
  [(0x608, 0x608), (0x60B, 0x60B), (0x60D, 0x60D), (0x61B, 0x64A), (0x66D, 0x6D5), (0x6E5, 0x6E6),
   (0x6EE, 0x6EF), (0x6FA, 0x7B1), (0x860, 0x8C9), (0xFB50, 0xFBC2), (0xFBD3, 0xFD3D), (0xFD50, 0xFD8F),
   (0xFD92, 0xFDC7), (0xFDF0, 0xFDFC), (0xFE70, 0xFEFC), (0x10D00, 0x10D23), (0x10EC2, 0x10EC7),
   (0x10F30, 0x10F59), (0x1EC71, 0x1EEBB)]

/-- Digits of the Arabic script and of some that are written like it. -/
def arabicNumbers : List (Nat × Nat) :=
  [(0x660, 0x669), (0x66B, 0x66C), (0x10D30, 0x10D39), (0x10D40, 0x10D49), (0x10E60, 0x10E7E)]

/-- European digits. -/
def numbers : List (Nat × Nat) :=
  [(0x30, 0x39), (0xB2, 0xB3), (0xB9, 0xB9), (0x6F0, 0x6F9), (0x2070, 0x2070), (0x2074, 0x2079), (0x2080, 0x2089),
   (0x2488, 0x249B), (0xFF10, 0xFF19), (0x102E1, 0x102FB), (0x1CCF0, 0x1CCF9), (0x1D7CE, 0x1D7FF),
   (0x1F100, 0x1F10A), (0x1FBF0, 0x1FBF9)]

/-- Signs before numbers. -/
def signs : List (Nat × Nat) :=
  [(0x2B, 0x2B), (0x2D, 0x2D), (0x207A, 0x207B), (0x208A, 0x208B), (0x2212, 0x2212), (0xFB29, 0xFB29),
   (0xFE62, 0xFE63), (0xFF0B, 0xFF0B), (0xFF0D, 0xFF0D)]

/-- Separators inside numbers. -/
def separators : List (Nat × Nat) :=
  [(0x2C, 0x2C), (0x2E, 0x2F), (0x3A, 0x3A), (0x60C, 0x60C), (0x2044, 0x2044), (0xFE50, 0xFE50), (0xFE52, 0xFE52),
   (0xFE55, 0xFE55), (0xFF0C, 0xFF0C), (0xFF0E, 0xFF0F), (0xFF1A, 0xFF1A)]

/-- Units and currencies beside numbers. -/
def units : List (Nat × Nat) :=
  [(0x23, 0x25), (0xA2, 0xA5), (0xB0, 0xB1), (0x58F, 0x58F), (0x609, 0x60A), (0x66A, 0x66A), (0x9F2, 0x9F3),
   (0x9FB, 0x9FB), (0xAF1, 0xAF1), (0xBF9, 0xBF9), (0xE3F, 0xE3F), (0x17DB, 0x17DB), (0x2030, 0x2034),
   (0x20A0, 0x20C1), (0x212E, 0x212E), (0x2213, 0x2213), (0xA838, 0xA839), (0xFE5F, 0xFE5F), (0xFE69, 0xFE6A),
   (0xFF03, 0xFF05), (0xFFE0, 0xFFE1), (0xFFE5, 0xFFE6), (0x11FDD, 0x11FE0), (0x1E2FF, 0x1E2FF)]

/-- Symbols and punctuation without a direction. -/
def neutrals : List (Nat × Nat) :=
  [(0x21, 0x22), (0x26, 0x2A), (0x3B, 0x40), (0x5B, 0x60), (0x7B, 0xA1), (0xA6, 0xA9), (0xAB, 0xAF),
   (0xB4, 0xB4), (0xB6, 0xB8), (0xBB, 0xBF), (0xD7, 0xD7), (0xF7, 0xF7), (0x2B9, 0x2BA), (0x2C2, 0x2CF),
   (0x2D2, 0x2DF), (0x2E5, 0x2ED), (0x2EF, 0x2FF), (0x374, 0x375), (0x37E, 0x37E), (0x384, 0x385),
   (0x387, 0x387), (0x3F6, 0x3F6), (0x58A, 0x58E), (0x606, 0x607), (0x60E, 0x60F), (0x6DE, 0x6DE),
   (0x6E9, 0x6E9), (0x7F6, 0x7F9), (0xBF3, 0xBF8), (0xBFA, 0xBFA), (0xC78, 0xC7E), (0xF3A, 0xF3D),
   (0x1390, 0x1399), (0x1400, 0x1400), (0x169B, 0x169C), (0x17F0, 0x180A), (0x1940, 0x1945), (0x19DE, 0x19FF),
   (0x1FBD, 0x1FBD), (0x1FBF, 0x1FC1), (0x1FCD, 0x1FCF), (0x1FDD, 0x1FDF), (0x1FED, 0x1FEF), (0x1FFD, 0x2027),
   (0x2035, 0x2043), (0x2045, 0x205E), (0x207C, 0x207E), (0x208C, 0x208E), (0x2100, 0x2101), (0x2103, 0x2106),
   (0x2108, 0x2109), (0x2114, 0x2114), (0x2116, 0x2118), (0x211E, 0x2123), (0x2125, 0x2125), (0x2127, 0x2127),
   (0x2129, 0x2129), (0x213A, 0x213B), (0x2140, 0x2144), (0x214A, 0x214D), (0x2150, 0x215F), (0x2189, 0x2211),
   (0x2214, 0x2335), (0x237B, 0x2394), (0x2396, 0x2487), (0x24EA, 0x26AB), (0x26AD, 0x27FF), (0x2900, 0x2BFF),
   (0x2CE5, 0x2CEA), (0x2CF9, 0x2CFF), (0x2E00, 0x3004), (0x3008, 0x3020), (0x3030, 0x3030), (0x3036, 0x3037),
   (0x303D, 0x303F), (0x309B, 0x309C), (0x30A0, 0x30A0), (0x30FB, 0x30FB), (0x31C0, 0x31EF), (0x321D, 0x321E),
   (0x3250, 0x325F), (0x327C, 0x327E), (0x32B1, 0x32BF), (0x32CC, 0x32CF), (0x3377, 0x337A), (0x33DE, 0x33DF),
   (0x33FF, 0x33FF), (0x4DC0, 0x4DFF), (0xA490, 0xA4C6), (0xA60D, 0xA60F), (0xA673, 0xA67F), (0xA700, 0xA721),
   (0xA788, 0xA788), (0xA828, 0xA82B), (0xA874, 0xA877), (0xAB6A, 0xAB6B), (0xFBC3, 0xFBD2), (0xFD3E, 0xFD4F),
   (0xFD90, 0xFD91), (0xFDC8, 0xFDCF), (0xFDFD, 0xFE4F), (0xFE51, 0xFE51), (0xFE54, 0xFE54), (0xFE56, 0xFE5E),
   (0xFE60, 0xFE61), (0xFE64, 0xFE68), (0xFE6B, 0xFE6B), (0xFF01, 0xFF02), (0xFF06, 0xFF0A), (0xFF1B, 0xFF20),
   (0xFF3B, 0xFF40), (0xFF5B, 0xFF65), (0xFFE2, 0xFFE4), (0xFFE8, 0xFFFD), (0x10101, 0x10101),
   (0x10140, 0x1018C), (0x10190, 0x101A0), (0x1091F, 0x1091F), (0x10B39, 0x10B3F), (0x10D6E, 0x10D6E),
   (0x10ED0, 0x10ED8), (0x11052, 0x11065), (0x11660, 0x1166C), (0x11FD5, 0x11FDC), (0x11FE1, 0x11FF1),
   (0x16FE2, 0x16FE2), (0x1CC00, 0x1CCEF), (0x1CCFA, 0x1CEF0), (0x1D1E9, 0x1D245), (0x1D300, 0x1D356),
   (0x1D6DB, 0x1D6DB), (0x1D715, 0x1D715), (0x1D74F, 0x1D74F), (0x1D789, 0x1D789), (0x1D7C3, 0x1D7C3),
   (0x1EEF0, 0x1F0F5), (0x1F10B, 0x1F10F), (0x1F12F, 0x1F12F), (0x1F16A, 0x1F16F), (0x1F1AD, 0x1F1AD),
   (0x1F260, 0x1FBEF), (0x1FBFA, 0x1FBFA)]

/-- Nonspacing marks that count as letters from left to right. -/
def leftMarks : List (Nat × Nat) :=
  [(0xCBF, 0xCBF), (0xCC6, 0xCC6), (0x11A07, 0x11A08), (0x11C3F, 0x11C3F)]

/-- The direction of a printed character. -/
def ofChar (c : Char) : Direction :=
  if isNonspacingMark c then if inRanges leftMarks c then .left else .nonspacing
  else
    let tables := [(rights, right), (arabicLetters, arabicLetter), (arabicNumbers, arabicNumber), (numbers, number),
      (signs, sign), (separators, separator), (units, unit), (neutrals, neutral)]
    ((tables.find? fun t => inRanges t.1 c).map (·.2)).getD .left

/-- Whether a direction makes its line one from right to left. -/
def isRightward (d : Direction) : Bool := [right, arabicLetter, arabicNumber].contains d

/-- Whether a direction has no say of its own. -/
def isWeak (d : Direction) : Bool := [number, sign, separator, unit, neutral, nonspacing].contains d

/-- Whether the directions of a piece of text keep the rule. -/
def isSteady : List Direction → Bool
  | [] => true
  | first :: rest =>
    match rest.reverse.dropWhile (· == nonspacing) with
    | [] => [left, right, arabicLetter].contains first
    | last :: middle =>
      if first = left then [left, number].contains last && middle.all fun d => d == left || d.isWeak
      else
        [right, arabicLetter].contains first && (last == number || last.isRightward)
          && middle.all (fun d => d.isRightward || d.isWeak)
          && !((last :: middle).contains number && (last :: middle).contains arabicNumber)

/-- Whether pieces of text may stand beside one another: each keeps the rule if a character of any makes it needed. -/
def agree (pieces : List (List Char)) : Bool :=
  let directions := pieces.map fun piece => piece.map ofChar
  !directions.any (fun piece => piece.any isRightward) || directions.all isSteady

end Direction
end StorageGate
