/-!
# Variants of characters

The characters beyond ASCII that are another way to write others: capital letters, letters of other width or shape,
ligatures, and characters that equal a sequence of others (the Unicode property `NFKC_Casefold`).  Sharp s and final
sigma count as letters of their own.  The data are those of Unicode 17.
-/
namespace StorageGate
namespace Variant

/-- Variants at equal steps, from `first` to `last`, that stand for characters at equal steps from `text` on. -/
structure Run where
  first : Nat
  last : Nat
  step : Nat
  text : Nat
  textStep : Nat

/-- The variants that come in runs. -/
def runs : List Run :=
  [⟨0xC0, 0xD6, 1, 0xE0, 1⟩, ⟨0xD8, 0xDE, 1, 0xF8, 1⟩, ⟨0x100, 0x12E, 2, 0x101, 2⟩, ⟨0x139, 0x13D, 2, 0x13A, 2⟩,
   ⟨0x141, 0x147, 2, 0x142, 2⟩, ⟨0x14A, 0x176, 2, 0x14B, 2⟩, ⟨0x179, 0x17D, 2, 0x17A, 2⟩,
   ⟨0x1A0, 0x1A4, 2, 0x1A1, 2⟩, ⟨0x1CD, 0x1DB, 2, 0x1CE, 2⟩, ⟨0x1DE, 0x1EE, 2, 0x1DF, 2⟩,
   ⟨0x1F8, 0x21E, 2, 0x1F9, 2⟩, ⟨0x222, 0x232, 2, 0x223, 2⟩, ⟨0x246, 0x24E, 2, 0x247, 2⟩,
   ⟨0x388, 0x38A, 1, 0x3AD, 1⟩, ⟨0x391, 0x3A1, 1, 0x3B1, 1⟩, ⟨0x3A3, 0x3AB, 1, 0x3C3, 1⟩,
   ⟨0x3D8, 0x3EE, 2, 0x3D9, 2⟩, ⟨0x3FD, 0x3FF, 1, 0x37B, 1⟩, ⟨0x400, 0x40F, 1, 0x450, 1⟩,
   ⟨0x410, 0x42F, 1, 0x430, 1⟩, ⟨0x460, 0x480, 2, 0x461, 2⟩, ⟨0x48A, 0x4BE, 2, 0x48B, 2⟩,
   ⟨0x4C1, 0x4CD, 2, 0x4C2, 2⟩, ⟨0x4D0, 0x52E, 2, 0x4D1, 2⟩, ⟨0x531, 0x556, 1, 0x561, 1⟩,
   ⟨0x10A0, 0x10C5, 1, 0x2D00, 1⟩, ⟨0x13F8, 0x13FD, 1, 0x13F0, 1⟩, ⟨0x1C90, 0x1CBA, 1, 0x10D0, 1⟩,
   ⟨0x1CBD, 0x1CBF, 1, 0x10FD, 1⟩, ⟨0x1D31, 0x1D39, 2, 0x65, 2⟩, ⟨0x1D34, 0x1D3A, 2, 0x68, 2⟩,
   ⟨0x1D5D, 0x1D5F, 1, 0x3B2, 1⟩, ⟨0x1DA4, 0x1DA6, 1, 0x268, 1⟩, ⟨0x1DAE, 0x1DB1, 1, 0x272, 1⟩,
   ⟨0x1DBC, 0x1DBE, 1, 0x290, 1⟩, ⟨0x1E00, 0x1E94, 2, 0x1E01, 2⟩, ⟨0x1EA0, 0x1EFE, 2, 0x1EA1, 2⟩,
   ⟨0x1F08, 0x1F0F, 1, 0x1F00, 1⟩, ⟨0x1F18, 0x1F1D, 1, 0x1F10, 1⟩, ⟨0x1F28, 0x1F2F, 1, 0x1F20, 1⟩,
   ⟨0x1F38, 0x1F3F, 1, 0x1F30, 1⟩, ⟨0x1F48, 0x1F4D, 1, 0x1F40, 1⟩, ⟨0x1F59, 0x1F5F, 2, 0x1F51, 2⟩,
   ⟨0x1F68, 0x1F6F, 1, 0x1F60, 1⟩, ⟨0x1F71, 0x1F77, 2, 0x3AC, 1⟩, ⟨0x1F79, 0x1F7D, 2, 0x3CC, 1⟩,
   ⟨0x2074, 0x2079, 1, 0x34, 1⟩, ⟨0x2080, 0x2089, 1, 0x30, 1⟩, ⟨0x2096, 0x2099, 1, 0x6B, 1⟩,
   ⟨0x210B, 0x210E, 1, 0x68, 0⟩, ⟨0x2119, 0x211B, 1, 0x70, 1⟩, ⟨0x2135, 0x2138, 1, 0x5D0, 1⟩,
   ⟨0x2460, 0x2468, 1, 0x31, 1⟩, ⟨0x24B6, 0x24CF, 1, 0x61, 1⟩, ⟨0x24D0, 0x24E9, 1, 0x61, 1⟩,
   ⟨0x2C00, 0x2C2F, 1, 0x2C30, 1⟩, ⟨0x2C67, 0x2C6B, 2, 0x2C68, 2⟩, ⟨0x2C80, 0x2CE2, 2, 0x2C81, 2⟩,
   ⟨0x3137, 0x3139, 1, 0x1103, 1⟩, ⟨0x313A, 0x313F, 1, 0x11B0, 1⟩, ⟨0x3141, 0x3143, 1, 0x1106, 1⟩,
   ⟨0x3145, 0x314E, 1, 0x1109, 1⟩, ⟨0x314F, 0x3163, 1, 0x1161, 1⟩, ⟨0x3178, 0x317C, 1, 0x112B, 1⟩,
   ⟨0x3184, 0x3186, 1, 0x1157, 1⟩, ⟨0x3194, 0x3198, 2, 0x4E09, 1⟩, ⟨0x3263, 0x3265, 1, 0x1105, 1⟩,
   ⟨0x3269, 0x326D, 1, 0x110E, 1⟩, ⟨0x32E4, 0x32E9, 1, 0x30CA, 1⟩, ⟨0x32EE, 0x32F2, 1, 0x30DE, 1⟩,
   ⟨0x32F5, 0x32FA, 1, 0x30E8, 1⟩, ⟨0x32FB, 0x32FE, 1, 0x30EF, 1⟩, ⟨0xA640, 0xA66C, 2, 0xA641, 2⟩,
   ⟨0xA680, 0xA69A, 2, 0xA681, 2⟩, ⟨0xA722, 0xA72E, 2, 0xA723, 2⟩, ⟨0xA732, 0xA76E, 2, 0xA733, 2⟩,
   ⟨0xA77E, 0xA786, 2, 0xA77F, 2⟩, ⟨0xA796, 0xA7A8, 2, 0xA797, 2⟩, ⟨0xA7B4, 0xA7C2, 2, 0xA7B5, 2⟩,
   ⟨0xA7CC, 0xA7DA, 2, 0xA7CD, 2⟩, ⟨0xAB70, 0xABBF, 1, 0x13A0, 1⟩, ⟨0xFB24, 0xFB26, 1, 0x5DB, 1⟩,
   ⟨0xFB52, 0xFB55, 1, 0x67B, 0⟩, ⟨0xFB56, 0xFB59, 1, 0x67E, 0⟩, ⟨0xFB5A, 0xFB5D, 1, 0x680, 0⟩,
   ⟨0xFB5E, 0xFB61, 1, 0x67A, 0⟩, ⟨0xFB62, 0xFB65, 1, 0x67F, 0⟩, ⟨0xFB66, 0xFB69, 1, 0x679, 0⟩,
   ⟨0xFB6A, 0xFB6D, 1, 0x6A4, 0⟩, ⟨0xFB6E, 0xFB71, 1, 0x6A6, 0⟩, ⟨0xFB72, 0xFB75, 1, 0x684, 0⟩,
   ⟨0xFB76, 0xFB79, 1, 0x683, 0⟩, ⟨0xFB7A, 0xFB7D, 1, 0x686, 0⟩, ⟨0xFB7E, 0xFB81, 1, 0x687, 0⟩,
   ⟨0xFB8E, 0xFB91, 1, 0x6A9, 0⟩, ⟨0xFB92, 0xFB95, 1, 0x6AF, 0⟩, ⟨0xFB96, 0xFB99, 1, 0x6B3, 0⟩,
   ⟨0xFB9A, 0xFB9D, 1, 0x6B1, 0⟩, ⟨0xFBA0, 0xFBA3, 1, 0x6BB, 0⟩, ⟨0xFBA6, 0xFBA9, 1, 0x6C1, 0⟩,
   ⟨0xFBAA, 0xFBAD, 1, 0x6BE, 0⟩, ⟨0xFBD3, 0xFBD6, 1, 0x6AD, 0⟩, ⟨0xFBE4, 0xFBE7, 1, 0x6D0, 0⟩,
   ⟨0xFBFC, 0xFBFF, 1, 0x6CC, 0⟩, ⟨0xFE41, 0xFE44, 1, 0x300C, 1⟩, ⟨0xFE4D, 0xFE4F, 1, 0x5F, 0⟩,
   ⟨0xFE80, 0xFE8A, 2, 0x621, 1⟩, ⟨0xFE81, 0xFE89, 2, 0x622, 1⟩, ⟨0xFE8B, 0xFE8F, 2, 0x626, 1⟩,
   ⟨0xFE8C, 0xFE90, 2, 0x626, 1⟩, ⟨0xFE91, 0xFE95, 2, 0x628, 1⟩, ⟨0xFE92, 0xFE96, 2, 0x628, 1⟩,
   ⟨0xFE99, 0xFE9C, 1, 0x62B, 0⟩, ⟨0xFE9D, 0xFEA0, 1, 0x62C, 0⟩, ⟨0xFEA1, 0xFEA4, 1, 0x62D, 0⟩,
   ⟨0xFEA5, 0xFEA8, 1, 0x62E, 0⟩, ⟨0xFEA9, 0xFEB1, 2, 0x62F, 1⟩, ⟨0xFEAA, 0xFEB2, 2, 0x62F, 1⟩,
   ⟨0xFEB5, 0xFEB8, 1, 0x634, 0⟩, ⟨0xFEB9, 0xFEBC, 1, 0x635, 0⟩, ⟨0xFEBD, 0xFEC0, 1, 0x636, 0⟩,
   ⟨0xFEC1, 0xFEC4, 1, 0x637, 0⟩, ⟨0xFEC5, 0xFEC8, 1, 0x638, 0⟩, ⟨0xFEC9, 0xFECC, 1, 0x639, 0⟩,
   ⟨0xFECD, 0xFED0, 1, 0x63A, 0⟩, ⟨0xFED1, 0xFED4, 1, 0x641, 0⟩, ⟨0xFED5, 0xFED8, 1, 0x642, 0⟩,
   ⟨0xFED9, 0xFEDC, 1, 0x643, 0⟩, ⟨0xFEDD, 0xFEE0, 1, 0x644, 0⟩, ⟨0xFEE1, 0xFEE4, 1, 0x645, 0⟩,
   ⟨0xFEE5, 0xFEE8, 1, 0x646, 0⟩, ⟨0xFEE9, 0xFEEC, 1, 0x647, 0⟩, ⟨0xFEED, 0xFEF1, 2, 0x648, 1⟩,
   ⟨0xFEEE, 0xFEF2, 2, 0x648, 1⟩, ⟨0xFF01, 0xFF20, 1, 0x21, 1⟩, ⟨0xFF21, 0xFF3A, 1, 0x61, 1⟩,
   ⟨0xFF3B, 0xFF5E, 1, 0x5B, 1⟩, ⟨0xFF85, 0xFF8A, 1, 0x30CA, 1⟩, ⟨0xFF8F, 0xFF93, 1, 0x30DE, 1⟩,
   ⟨0xFF96, 0xFF9B, 1, 0x30E8, 1⟩, ⟨0xFFA7, 0xFFA9, 1, 0x1103, 1⟩, ⟨0xFFAA, 0xFFAF, 1, 0x11B0, 1⟩,
   ⟨0xFFB1, 0xFFB3, 1, 0x1106, 1⟩, ⟨0xFFB5, 0xFFBE, 1, 0x1109, 1⟩, ⟨0xFFC2, 0xFFC7, 1, 0x1161, 1⟩,
   ⟨0xFFCA, 0xFFCF, 1, 0x1167, 1⟩, ⟨0xFFD2, 0xFFD7, 1, 0x116D, 1⟩, ⟨0xFFDA, 0xFFDC, 1, 0x1173, 1⟩,
   ⟨0xFFE9, 0xFFEC, 1, 0x2190, 1⟩, ⟨0x10400, 0x10427, 1, 0x10428, 1⟩, ⟨0x104B0, 0x104D3, 1, 0x104D8, 1⟩,
   ⟨0x10570, 0x10594, 2, 0x10597, 2⟩, ⟨0x10571, 0x10579, 2, 0x10598, 2⟩, ⟨0x1057D, 0x10589, 2, 0x105A4, 2⟩,
   ⟨0x1058D, 0x10591, 2, 0x105B4, 2⟩, ⟨0x107B6, 0x107B8, 1, 0x1C0, 1⟩, ⟨0x10C80, 0x10CB2, 1, 0x10CC0, 1⟩,
   ⟨0x10D50, 0x10D65, 1, 0x10D70, 1⟩, ⟨0x118A0, 0x118BF, 1, 0x118C0, 1⟩, ⟨0x16E40, 0x16E5F, 1, 0x16E60, 1⟩,
   ⟨0x16EA0, 0x16EB8, 1, 0x16EBB, 1⟩, ⟨0x1CCD6, 0x1CCEF, 1, 0x61, 1⟩, ⟨0x1CCF0, 0x1CCF9, 1, 0x30, 1⟩,
   ⟨0x1D400, 0x1D419, 1, 0x61, 1⟩, ⟨0x1D41A, 0x1D433, 1, 0x61, 1⟩, ⟨0x1D434, 0x1D44D, 1, 0x61, 1⟩,
   ⟨0x1D44E, 0x1D466, 2, 0x61, 2⟩, ⟨0x1D44F, 0x1D453, 2, 0x62, 2⟩, ⟨0x1D457, 0x1D467, 2, 0x6A, 2⟩,
   ⟨0x1D468, 0x1D481, 1, 0x61, 1⟩, ⟨0x1D482, 0x1D49B, 1, 0x61, 1⟩, ⟨0x1D4A9, 0x1D4AC, 1, 0x6E, 1⟩,
   ⟨0x1D4AE, 0x1D4B5, 1, 0x73, 1⟩, ⟨0x1D4B6, 0x1D4B9, 1, 0x61, 1⟩, ⟨0x1D4BB, 0x1D4CF, 2, 0x66, 2⟩,
   ⟨0x1D4BE, 0x1D4C2, 2, 0x69, 2⟩, ⟨0x1D4C6, 0x1D4CE, 2, 0x71, 2⟩, ⟨0x1D4D0, 0x1D4E9, 1, 0x61, 1⟩,
   ⟨0x1D4EA, 0x1D503, 1, 0x61, 1⟩, ⟨0x1D505, 0x1D509, 2, 0x62, 2⟩, ⟨0x1D50D, 0x1D514, 1, 0x6A, 1⟩,
   ⟨0x1D516, 0x1D51C, 1, 0x73, 1⟩, ⟨0x1D51E, 0x1D537, 1, 0x61, 1⟩, ⟨0x1D539, 0x1D53D, 2, 0x62, 2⟩,
   ⟨0x1D53C, 0x1D546, 2, 0x65, 2⟩, ⟨0x1D54A, 0x1D550, 1, 0x73, 1⟩, ⟨0x1D552, 0x1D56B, 1, 0x61, 1⟩,
   ⟨0x1D56C, 0x1D585, 1, 0x61, 1⟩, ⟨0x1D586, 0x1D59F, 1, 0x61, 1⟩, ⟨0x1D5A0, 0x1D5B9, 1, 0x61, 1⟩,
   ⟨0x1D5BA, 0x1D5D3, 1, 0x61, 1⟩, ⟨0x1D5D4, 0x1D5ED, 1, 0x61, 1⟩, ⟨0x1D5EE, 0x1D607, 1, 0x61, 1⟩,
   ⟨0x1D608, 0x1D621, 1, 0x61, 1⟩, ⟨0x1D622, 0x1D63B, 1, 0x61, 1⟩, ⟨0x1D63C, 0x1D655, 1, 0x61, 1⟩,
   ⟨0x1D656, 0x1D66F, 1, 0x61, 1⟩, ⟨0x1D670, 0x1D689, 1, 0x61, 1⟩, ⟨0x1D68A, 0x1D6A3, 1, 0x61, 1⟩,
   ⟨0x1D6A8, 0x1D6B8, 1, 0x3B1, 1⟩, ⟨0x1D6BA, 0x1D6C0, 1, 0x3C3, 1⟩, ⟨0x1D6C2, 0x1D6D2, 1, 0x3B1, 1⟩,
   ⟨0x1D6D4, 0x1D6DA, 1, 0x3C3, 1⟩, ⟨0x1D6E2, 0x1D6F2, 1, 0x3B1, 1⟩, ⟨0x1D6F4, 0x1D6FA, 1, 0x3C3, 1⟩,
   ⟨0x1D6FC, 0x1D70C, 1, 0x3B1, 1⟩, ⟨0x1D70E, 0x1D714, 1, 0x3C3, 1⟩, ⟨0x1D71C, 0x1D72C, 1, 0x3B1, 1⟩,
   ⟨0x1D72E, 0x1D734, 1, 0x3C3, 1⟩, ⟨0x1D736, 0x1D746, 1, 0x3B1, 1⟩, ⟨0x1D748, 0x1D74E, 1, 0x3C3, 1⟩,
   ⟨0x1D756, 0x1D766, 1, 0x3B1, 1⟩, ⟨0x1D768, 0x1D76E, 1, 0x3C3, 1⟩, ⟨0x1D770, 0x1D780, 1, 0x3B1, 1⟩,
   ⟨0x1D782, 0x1D788, 1, 0x3C3, 1⟩, ⟨0x1D790, 0x1D7A0, 1, 0x3B1, 1⟩, ⟨0x1D7A2, 0x1D7A8, 1, 0x3C3, 1⟩,
   ⟨0x1D7AA, 0x1D7BA, 1, 0x3B1, 1⟩, ⟨0x1D7BC, 0x1D7C2, 1, 0x3C3, 1⟩, ⟨0x1D7CE, 0x1D7D7, 1, 0x30, 1⟩,
   ⟨0x1D7D8, 0x1D7E1, 1, 0x30, 1⟩, ⟨0x1D7E2, 0x1D7EB, 1, 0x30, 1⟩, ⟨0x1D7EC, 0x1D7F5, 1, 0x30, 1⟩,
   ⟨0x1D7F6, 0x1D7FF, 1, 0x30, 1⟩, ⟨0x1E030, 0x1E038, 1, 0x430, 1⟩, ⟨0x1E039, 0x1E03B, 1, 0x43A, 1⟩,
   ⟨0x1E03C, 0x1E046, 1, 0x43E, 1⟩, ⟨0x1E051, 0x1E059, 1, 0x430, 1⟩, ⟨0x1E05F, 0x1E064, 1, 0x443, 1⟩,
   ⟨0x1E900, 0x1E921, 1, 0x1E922, 1⟩, ⟨0x1EE0A, 0x1EE0D, 1, 0x643, 1⟩, ⟨0x1EE2A, 0x1EE2D, 1, 0x643, 1⟩,
   ⟨0x1EE8B, 0x1EE8D, 1, 0x644, 1⟩, ⟨0x1EEAB, 0x1EEAD, 1, 0x644, 1⟩, ⟨0x1F130, 0x1F149, 1, 0x61, 1⟩,
   ⟨0x1FBF0, 0x1FBF9, 1, 0x30, 1⟩, ⟨0x2F831, 0x2F833, 1, 0x537F, 0⟩]

/-- All other variants: a code point, and what it and its followers stand for, between bars.  Where nothing is between
two bars stands no variant of this table. -/
def rows : List (Nat × String) :=
  [(0xA8, " \u0308||a||||| \u0304|||2|3| \u0301|μ||| \u0327|1|o||1⁄4|1⁄2|3⁄4"),
   (0x130, "i\u0307||ij|ij|ĵ||ķ"),
   (0x13F, "l·|l·"),
   (0x149, "ʼn"),
   (0x178, "ÿ"),
   (0x17F, "s||ɓ|ƃ||ƅ||ɔ|ƈ||ɖ|ɗ|ƌ|||ǝ|ə|ɛ|ƒ||ɠ|ɣ||ɩ|ɨ|ƙ||||ɯ|ɲ||ɵ"),
   (0x1A6, "ʀ|ƨ||ʃ|||ƭ||ʈ|ư||ʊ|ʋ|ƴ||ƶ||ʒ|ƹ||||ƽ"),
   (0x1C4, "dž|dž|dž|lj|lj|lj|nj|nj|nj"),
   (0x1F1, "dz|dz|dz|ǵ||ƕ|ƿ"),
   (0x220, "ƞ"),
   (0x23A, "ⱥ|ȼ||ƚ|ⱦ|||ɂ||ƀ|ʉ|ʌ"),
   (0x2B0, "h|ɦ|j|r|ɹ|ɻ|ʁ|w|y"),
   (0x2D8, " \u0306| \u0307| \u030A| \u0328| \u0303| \u030B|||ɣ|l|s|x|ʕ"),
   (0x340, "\u0300|\u0301||\u0313|\u0308\u0301|ι"),
   (0x370, "ͱ||ͳ||ʹ||ͷ|||| ι||||;|ϳ||||| \u0301| \u0308\u0301|ά|·|||||ό||ύ|ώ"),
   (0x3CF, "ϗ|β|θ|υ|ύ|ϋ|φ|π"),
   (0x3F0, "κ|ρ|σ||θ|ε||ϸ||σ|ϻ"),
   (0x4C0, "ӏ"),
   (0x587, "եւ"),
   (0x675, "\u0627\u0674|\u0648\u0674|\u06C7\u0674|\u064A\u0674"),
   (0x958, "क\u093C|ख\u093C|ग\u093C|ज\u093C|ड\u093C|ढ\u093C|फ\u093C|य\u093C"),
   (0x9DC, "ড\u09BC|ঢ\u09BC||য\u09BC"),
   (0xA33, "ਲ\u0A3C|||ਸ\u0A3C"),
   (0xA59, "ਖ\u0A3C|ਗ\u0A3C|ਜ\u0A3C|||ਫ\u0A3C"),
   (0xB5C, "ଡ\u0B3C|ଢ\u0B3C"),
   (0xE33, "\u0E4Dา"),
   (0xEB3, "\u0ECDາ"),
   (0xEDC, "ຫນ|ຫມ"),
   (0xF0C, "་"),
   (0xF43, "ག\u0FB7"),
   (0xF4D, "ཌ\u0FB7|||||ད\u0FB7|||||བ\u0FB7|||||ཛ\u0FB7"),
   (0xF69, "ཀ\u0FB5"),
   (0xF73, "\u0F71\u0F72||\u0F71\u0F74|\u0FB2\u0F80|\u0FB2\u0F71\u0F80|\u0FB3\u0F80|\u0FB3\u0F71\u0F80"),
   (0xF81, "\u0F71\u0F80"),
   (0xF93, "\u0F92\u0FB7"),
   (0xF9D, "\u0F9C\u0FB7|||||\u0FA1\u0FB7|||||\u0FA6\u0FB7|||||\u0FAB\u0FB7"),
   (0xFB9, "\u0F90\u0FB5"),
   (0x10C7, "ⴧ||||||ⴭ"),
   (0x10FC, "ნ"),
   (0x1C80, "в|д|о|с|т|т|ъ|ѣ|ꙋ|ᲊ"),
   (0x1D2C, "a|æ|b||d||ǝ"),
   (0x1D3C, "o|ȣ|p|r|t|u|w|a|ɐ|ɑ|ᴂ|b|d|e|ə|ɛ|ɜ|g||k|m|ŋ|o|ɔ|ᴖ|ᴗ|p|t|u|ᴝ|ɯ|v|ᴥ||||φ|χ|i|r|u|v|β|γ|ρ|φ|χ"),
   (0x1D78, "н"),
   (0x1D9B, "ɒ|c|ɕ|ð|ɜ|f|ɟ|ɡ|ɥ||||ᵻ|ʝ|ɭ|ᶅ|ʟ|ɱ|ɰ|||||ɸ|ʂ|ʃ|ƫ|ʉ|ʊ|ᴜ|ʋ|ʌ|z||||θ"),
   (0x1E9A, "aʾ|ṡ|||ß"),
   (0x1F80, "ἀι|ἁι|ἂι|ἃι|ἄι|ἅι|ἆι|ἇι|ἀι|ἁι|ἂι|ἃι|ἄι|ἅι|ἆι|ἇι|ἠι|ἡι|ἢι|ἣι|ἤι|ἥι|ἦι|ἧι|ἠι|ἡι|ἢι|ἣι|ἤι|ἥι|ἦι|ἧι|ὠι"),
   (0x1FA1, "ὡι|ὢι|ὣι|ὤι|ὥι|ὦι|ὧι|ὠι|ὡι|ὢι|ὣι|ὤι|ὥι|ὦι|ὧι|||ὰι|αι|άι|||ᾶι|ᾰ|ᾱ|ὰ|ά|αι| \u0313|ι| \u0313| \u0342"),
   (0x1FC1, " \u0308\u0342|ὴι|ηι|ήι|||ῆι|ὲ|έ|ὴ|ή|ηι| \u0313\u0300| \u0313\u0301| \u0313\u0342||||ΐ|||||ῐ|ῑ|ὶ|ί"),
   (0x1FDD, " \u0314\u0300| \u0314\u0301| \u0314\u0342||||ΰ|||||ῠ|ῡ|ὺ|ύ|ῥ| \u0308\u0300| \u0308\u0301|`|||ὼι|ωι"),
   (0x1FF4, "ώι|||ῶι|ὸ|ό|ὼ|ώ|ωι| \u0301| \u0314"),
   (0x2011, "‐|||||| \u0333"),
   (0x2024, ".|..|..."),
   (0x2033, "′′|′′′||‵‵|‵‵‵|||||!!|| \u0305"),
   (0x2047, "??|?!|!?"),
   (0x2057, "′′′′"),
   (0x2070, "0|i"),
   (0x207A, "+|−|=|(|)|n"),
   (0x208A, "+|−|=|(|)||a|e|o|x|ə|h|||||p|s|t"),
   (0x20A8, "rs"),
   (0x2100, "a/c|a/s|c|°c||c/o|c/u|ɛ||°f|g|||||ħ|i|i|l|l||n|no||||||r|r|||sm|tel|tm||z||ω||z||k|å|b|c||e|e|f|ⅎ|m"),
   (0x2134, "o|||||i||fax|π|γ|γ|π|∑|||||d|d|e|i|j"),
   (0x2150, "1⁄7|1⁄9|1⁄10|1⁄3|2⁄3|1⁄5|2⁄5|3⁄5|4⁄5|1⁄6|5⁄6|1⁄8|3⁄8|5⁄8|7⁄8|1⁄|i|ii|iii|iv|v|vi|vii|viii|ix|x|xi"),
   (0x216B, "xii|l|c|d|m|i|ii|iii|iv|v|vi|vii|viii|ix|x|xi|xii|l|c|d|m||||ↄ||||||0⁄3"),
   (0x222C, "∫∫|∫∫∫||∮∮|∮∮∮"),
   (0x2329, "〈|〉"),
   (0x2469, "10|11|12|13|14|15|16|17|18|19|20|(1)|(2)|(3)|(4)|(5)|(6)|(7)|(8)|(9)|(10)|(11)|(12)|(13)|(14)|(15)"),
   (0x2483, "(16)|(17)|(18)|(19)|(20)|1.|2.|3.|4.|5.|6.|7.|8.|9.|10.|11.|12.|13.|14.|15.|16.|17.|18.|19.|20.|(a)"),
   (0x249D, "(b)|(c)|(d)|(e)|(f)|(g)|(h)|(i)|(j)|(k)|(l)|(m)|(n)|(o)|(p)|(q)|(r)|(s)|(t)|(u)|(v)|(w)|(x)|(y)|(z)"),
   (0x24EA, "0"),
   (0x2A0C, "∫∫∫∫"),
   (0x2A74, "::=|==|==="),
   (0x2ADC, "⫝\u0338"),
   (0x2C60, "ⱡ||ɫ|ᵽ|ɽ"),
   (0x2C6D, "ɑ|ɱ|ɐ|ɒ||ⱳ|||ⱶ"),
   (0x2C7C, "j|v|ȿ|ɀ"),
   (0x2CEB, "ⳬ||ⳮ|||||ⳳ"),
   (0x2D6F, "ⵡ"),
   (0x2E9F, "母"),
   (0x2EF3, "龟"),
   (0x2F00, "一|丨|丶|丿|乙|亅|二|亠|人|儿|入|八|冂|冖|冫|几|凵|刀|力|勹|匕|匚|匸|十|卜|卩|厂|厶|又|口|囗|土|士"),
   (0x2F21, "夂|夊|夕|大|女|子|宀|寸|小|尢|尸|屮|山|巛|工|己|巾|干|幺|广|廴|廾|弋|弓|彐|彡|彳|心|戈|戶|手|支|攴"),
   (0x2F42, "文|斗|斤|方|无|日|曰|月|木|欠|止|歹|殳|毋|比|毛|氏|气|水|火|爪|父|爻|爿|片|牙|牛|犬|玄|玉|瓜|瓦|甘"),
   (0x2F63, "生|用|田|疋|疒|癶|白|皮|皿|目|矛|矢|石|示|禸|禾|穴|立|竹|米|糸|缶|网|羊|羽|老|而|耒|耳|聿|肉|臣|自"),
   (0x2F84, "至|臼|舌|舛|舟|艮|色|艸|虍|虫|血|行|衣|襾|見|角|言|谷|豆|豕|豸|貝|赤|走|足|身|車|辛|辰|辵|邑|酉|釆"),
   (0x2FA5, "里|金|長|門|阜|隶|隹|雨|靑|非|面|革|韋|韭|音|頁|風|飛|食|首|香|馬|骨|高|髟|鬥|鬯|鬲|鬼|魚|鳥|鹵|鹿"),
   (0x2FC6, "麥|麻|黃|黍|黑|黹|黽|鼎|鼓|鼠|鼻|齊|齒|龍|龜|龠"),
   (0x3036, "〒||十|卄|卅"),
   (0x309B, " \u3099| \u309A|||より"),
   (0x30FF, "コト"),
   (0x3131, "\u1100|\u1101|\u11AA|\u1102|\u11AC|\u11AD"),
   (0x3140, "\u111A||||\u1121"),
   (0x3165, "\u1114|\u1115|\u11C7|\u11C8|\u11CC|\u11CE|\u11D3|\u11D7|\u11D9|\u111C|\u11DD|\u11DF|\u111D|\u111E"),
   (0x3173, "\u1120|\u1122|\u1123|\u1127|\u1129||||||\u1132|\u1136|\u1140|\u1147|\u114C|\u11F1|\u11F2||||\u1184"),
   (0x3188, "\u1185|\u1188|\u1191|\u1192|\u1194|\u119E|\u11A1||||一|二||四||中||甲|乙|丙|丁|天|地|人"),
   (0x3200, "(\u1100)|(\u1102)|(\u1103)|(\u1105)|(\u1106)|(\u1107)|(\u1109)|(\u110B)|(\u110C)|(\u110E)|(\u110F)"),
   (0x320B, "(\u1110)|(\u1111)|(\u1112)|(가)|(나)|(다)|(라)|(마)|(바)|(사)|(아)|(자)|(차)|(카)|(타)|(파)|(하)"),
   (0x321C, "(주)|(오전)|(오후)||(一)|(二)|(三)|(四)|(五)|(六)|(七)|(八)|(九)|(十)|(月)|(火)|(水)|(木)|(金)|(土)"),
   (0x3230, "(日)|(株)|(有)|(社)|(名)|(特)|(財)|(祝)|(労)|(代)|(呼)|(学)|(監)|(企)|(資)|(協)|(祭)|(休)|(自)|(至)"),
   (0x3244, "問|幼|文|箏"),
   (0x3250, "pte|21|22|23|24|25|26|27|28|29|30|31|32|33|34|35|\u1100|\u1102|\u1103||||\u1109|\u110B|\u110C"),
   (0x326E, "가|나|다|라|마|바|사|아|자|차|카|타|파|하|참고|주의|우||一|二|三|四|五|六|七|八|九|十|月|火|水|木|金"),
   (0x328F, "土|日|株|有|社|名|特|財|祝|労|秘|男|女|適|優|印|注|項|休|写|正|上|中|下|左|右|医|宗|学|監|企|資|協"),
   (0x32B0, "夜|36|37|38|39|40|41|42|43|44|45|46|47|48|49|50|1月|2月|3月|4月|5月|6月|7月|8月|9月|10月|11月|12月"),
   (0x32CC, "hg|erg|ev|ltd|ア|イ|ウ|エ|オ|カ|キ|ク|ケ|コ|サ|シ|ス|セ|ソ|タ|チ|ツ|テ|ト"),
   (0x32EA, "ヒ|フ|ヘ|ホ||||||ヤ|ユ"),
   (0x32FF, "令和|アパート|アルファ|アンペア|アール|イニング|インチ|ウォン|エスクード|エーカー|オンス|オーム"),
   (0x330B, "カイリ|カラット|カロリー|ガロン|ガンマ|ギガ|ギニー|キュリー|ギルダー|キロ|キログラム|キロメートル"),
   (0x3317, "キロワット|グラム|グラムトン|クルゼイロ|クローネ|ケース|コルナ|コーポ|サイクル|サンチーム|シリング"),
   (0x3322, "センチ|セント|ダース|デシ|ドル|トン|ナノ|ノット|ハイツ|パーセント|パーツ|バーレル|ピアストル|ピクル"),
   (0x3330, "ピコ|ビル|ファラッド|フィート|ブッシェル|フラン|ヘクタール|ペソ|ペニヒ|ヘルツ|ペンス|ページ|ベータ"),
   (0x333D, "ポイント|ボルト|ホン|ポンド|ホール|ホーン|マイクロ|マイル|マッハ|マルク|マンション|ミクロン|ミリ"),
   (0x334A, "ミリバール|メガ|メガトン|メートル|ヤード|ヤール|ユアン|リットル|リラ|ルピー|ルーブル|レム|レントゲン"),
   (0x3357, "ワット|0点|1点|2点|3点|4点|5点|6点|7点|8点|9点|10点|11点|12点|13点|14点|15点|16点|17点|18点|19点"),
   (0x336C, "20点|21点|22点|23点|24点|hpa|da|au|bar|ov|pc|dm|dm2|dm3|iu|平成|昭和|大正|明治|株式会社|pa|na|μa|ma"),
   (0x3384, "ka|kb|mb|gb|cal|kcal|pf|nf|μf|μg|mg|kg|hz|khz|mhz|ghz|thz|μl|ml|dl|kl|fm|nm|μm|mm|cm|km|mm2|cm2|m2"),
   (0x33A2, "km2|mm3|cm3|m3|km3|m∕s|m∕s2|pa|kpa|mpa|gpa|rad|rad∕s|rad∕s2|ps|ns|μs|ms|pv|nv|μv|mv|kv|mv|pw|nw|μw"),
   (0x33BD, "mw|kw|mw|kω|mω|a.m.|bq|cc|cd|c∕kg|co.|db|gy|ha|hp|in|kk|km|kt|lm|ln|log|lx|mb|mil|mol|ph|p.m.|ppm|pr"),
   (0x33DB, "sr|sv|wb|v∕m|a∕m|1日|2日|3日|4日|5日|6日|7日|8日|9日|10日|11日|12日|13日|14日|15日|16日|17日|18日"),
   (0x33F2, "19日|20日|21日|22日|23日|24日|25日|26日|27日|28日|29日|30日|31日|gal"),
   (0xA69C, "ъ|ь"),
   (0xA770, "ꝯ"),
   (0xA779, "ꝺ||ꝼ||ᵹ"),
   (0xA78B, "ꞌ||ɥ|||ꞑ||ꞓ"),
   (0xA7AA, "ɦ|ɜ|ɡ|ɬ|ɪ||ʞ|ʇ|ʝ|ꭓ"),
   (0xA7C4, "ꞔ|ʂ|ᶎ|ꟈ||ꟊ||ɤ"),
   (0xA7DC, "ƛ"),
   (0xA7F1, "s|c|f|q|ꟶ|||ħ|œ"),
   (0xAB5C, "ꜧ|ꬷ|ɫ|ꭒ"),
   (0xAB69, "ʍ"),
   (0xF900, "豈|更|車|賈|滑|串|句|龜|龜|契|金|喇|奈|懶|癩|羅|蘿|螺|裸|邏|樂|洛|烙|珞|落|酪|駱|亂|卵|欄|爛|蘭|鸞"),
   (0xF921, "嵐|濫|藍|襤|拉|臘|蠟|廊|朗|浪|狼|郎|來|冷|勞|擄|櫓|爐|盧|老|蘆|虜|路|露|魯|鷺|碌|祿|綠|菉|錄|鹿|論"),
   (0xF942, "壟|弄|籠|聾|牢|磊|賂|雷|壘|屢|樓|淚|漏|累|縷|陋|勒|肋|凜|凌|稜|綾|菱|陵|讀|拏|樂|諾|丹|寧|怒|率|異"),
   (0xF963, "北|磻|便|復|不|泌|數|索|參|塞|省|葉|說|殺|辰|沈|拾|若|掠|略|亮|兩|凉|梁|糧|良|諒|量|勵|呂|女|廬|旅"),
   (0xF984, "濾|礪|閭|驪|麗|黎|力|曆|歷|轢|年|憐|戀|撚|漣|煉|璉|秊|練|聯|輦|蓮|連|鍊|列|劣|咽|烈|裂|說|廉|念|捻"),
   (0xF9A5, "殮|簾|獵|令|囹|寧|嶺|怜|玲|瑩|羚|聆|鈴|零|靈|領|例|禮|醴|隸|惡|了|僚|寮|尿|料|樂|燎|療|蓼|遼|龍|暈"),
   (0xF9C6, "阮|劉|杻|柳|流|溜|琉|留|硫|紐|類|六|戮|陸|倫|崙|淪|輪|律|慄|栗|率|隆|利|吏|履|易|李|梨|泥|理|痢|罹"),
   (0xF9E7, "裏|裡|里|離|匿|溺|吝|燐|璘|藺|隣|鱗|麟|林|淋|臨|立|笠|粒|狀|炙|識|什|茶|刺|切|度|拓|糖|宅|洞|暴|輻"),
   (0xFA08, "行|降|見|廓|兀|嗀|||塚||晴|||凞|猪|益|礼|神|祥|福|靖|精|羽||蘒||諸|||逸|都||||飯|飼|館|鶴|郞|隷|侮"),
   (0xFA31, "僧|免|勉|勤|卑|喝|嘆|器|塀|墨|層|屮|悔|慨|憎|懲|敏|既|暑|梅|海|渚|漢|煮|爫|琢|碑|社|祉|祈|祐|祖|祝"),
   (0xFA52, "禍|禎|穀|突|節|練|縉|繁|署|者|臭|艹|艹|著|褐|視|謁|謹|賓|贈|辶|逸|難|響|頻|恵|𤋮|舘|||並|况|全|侀|充"),
   (0xFA75, "冀|勇|勺|喝|啕|喙|嗢|塚|墳|奄|奔|婢|嬨|廒|廙|彩|徭|惘|慎|愈|憎|慠|懲|戴|揄|搜|摒|敖|晴|朗|望|杖|歹"),
   (0xFA96, "殺|流|滛|滋|漢|瀞|煮|瞧|爵|犯|猪|瑱|甆|画|瘝|瘟|益|盛|直|睊|着|磌|窱|節|类|絛|練|缾|者|荒|華|蝹|襁"),
   (0xFAB7, "覆|視|調|諸|請|謁|諾|諭|謹|變|贈|輸|遲|醙|鉶|陼|難|靖|韛|響|頋|頻|鬒|龜|𢡊|𢡄|𣏕|㮝|䀘|䀹|𥉉|𥳐|𧻓"),
   (0xFAD8, "齃|龎"),
   (0xFB00, "ff|fi|fl|ffi|ffl|st|st"),
   (0xFB13, "մն|մե|մի|վն|մխ||||||\u05D9\u05B4||\u05F2\u05B7|\u05E2|\u05D0|\u05D3|\u05D4||||\u05E8|\u05EA|+"),
   (0xFB2A, "\u05E9\u05C1|\u05E9\u05C2|\u05E9\u05BC\u05C1|\u05E9\u05BC\u05C2|\u05D0\u05B7|\u05D0\u05B8"),
   (0xFB30, "\u05D0\u05BC|\u05D1\u05BC|\u05D2\u05BC|\u05D3\u05BC|\u05D4\u05BC|\u05D5\u05BC|\u05D6\u05BC"),
   (0xFB38, "\u05D8\u05BC|\u05D9\u05BC|\u05DA\u05BC|\u05DB\u05BC|\u05DC\u05BC||\u05DE\u05BC||\u05E0\u05BC"),
   (0xFB41, "\u05E1\u05BC||\u05E3\u05BC|\u05E4\u05BC||\u05E6\u05BC|\u05E7\u05BC|\u05E8\u05BC|\u05E9\u05BC"),
   (0xFB4A, "\u05EA\u05BC|\u05D5\u05B9|\u05D1\u05BF|\u05DB\u05BF|\u05E4\u05BF|\u05D0\u05DC|\u0671|\u0671"),
   (0xFB82, "\u068D|\u068D|\u068C|\u068C|\u068E|\u068E|\u0688|\u0688|\u0698|\u0698|\u0691|\u0691"),
   (0xFB9E, "\u06BA|\u06BA|||||\u06C0|\u06C0"),
   (0xFBAE, "\u06D2|\u06D2|\u06D3|\u06D3"),
   (0xFBD7, "\u06C7|\u06C7|\u06C6|\u06C6|\u06C8|\u06C8|\u06C7\u0674|\u06CB|\u06CB|\u06C5|\u06C5|\u06C9|\u06C9"),
   (0xFBE8, "\u0649|\u0649|\u0626\u0627|\u0626\u0627|\u0626\u06D5|\u0626\u06D5|\u0626\u0648|\u0626\u0648"),
   (0xFBF0, "\u0626\u06C7|\u0626\u06C7|\u0626\u06C6|\u0626\u06C6|\u0626\u06C8|\u0626\u06C8|\u0626\u06D0"),
   (0xFBF7, "\u0626\u06D0|\u0626\u06D0|\u0626\u0649|\u0626\u0649|\u0626\u0649|||||\u0626\u062C|\u0626\u062D"),
   (0xFC02, "\u0626\u0645|\u0626\u0649|\u0626\u064A|\u0628\u062C|\u0628\u062D|\u0628\u062E|\u0628\u0645"),
   (0xFC09, "\u0628\u0649|\u0628\u064A|\u062A\u062C|\u062A\u062D|\u062A\u062E|\u062A\u0645|\u062A\u0649"),
   (0xFC10, "\u062A\u064A|\u062B\u062C|\u062B\u0645|\u062B\u0649|\u062B\u064A|\u062C\u062D|\u062C\u0645"),
   (0xFC17, "\u062D\u062C|\u062D\u0645|\u062E\u062C|\u062E\u062D|\u062E\u0645|\u0633\u062C|\u0633\u062D"),
   (0xFC1E, "\u0633\u062E|\u0633\u0645|\u0635\u062D|\u0635\u0645|\u0636\u062C|\u0636\u062D|\u0636\u062E"),
   (0xFC25, "\u0636\u0645|\u0637\u062D|\u0637\u0645|\u0638\u0645|\u0639\u062C|\u0639\u0645|\u063A\u062C"),
   (0xFC2C, "\u063A\u0645|\u0641\u062C|\u0641\u062D|\u0641\u062E|\u0641\u0645|\u0641\u0649|\u0641\u064A"),
   (0xFC33, "\u0642\u062D|\u0642\u0645|\u0642\u0649|\u0642\u064A|\u0643\u0627|\u0643\u062C|\u0643\u062D"),
   (0xFC3A, "\u0643\u062E|\u0643\u0644|\u0643\u0645|\u0643\u0649|\u0643\u064A|\u0644\u062C|\u0644\u062D"),
   (0xFC41, "\u0644\u062E|\u0644\u0645|\u0644\u0649|\u0644\u064A|\u0645\u062C|\u0645\u062D|\u0645\u062E"),
   (0xFC48, "\u0645\u0645|\u0645\u0649|\u0645\u064A|\u0646\u062C|\u0646\u062D|\u0646\u062E|\u0646\u0645"),
   (0xFC4F, "\u0646\u0649|\u0646\u064A|\u0647\u062C|\u0647\u0645|\u0647\u0649|\u0647\u064A|\u064A\u062C"),
   (0xFC56, "\u064A\u062D|\u064A\u062E|\u064A\u0645|\u064A\u0649|\u064A\u064A|\u0630\u0670|\u0631\u0670"),
   (0xFC5D, "\u0649\u0670| \u064C\u0651| \u064D\u0651| \u064E\u0651| \u064F\u0651| \u0650\u0651| \u0651\u0670"),
   (0xFC64, "\u0626\u0631|\u0626\u0632|\u0626\u0645|\u0626\u0646|\u0626\u0649|\u0626\u064A|\u0628\u0631"),
   (0xFC6B, "\u0628\u0632|\u0628\u0645|\u0628\u0646|\u0628\u0649|\u0628\u064A|\u062A\u0631|\u062A\u0632"),
   (0xFC72, "\u062A\u0645|\u062A\u0646|\u062A\u0649|\u062A\u064A|\u062B\u0631|\u062B\u0632|\u062B\u0645"),
   (0xFC79, "\u062B\u0646|\u062B\u0649|\u062B\u064A|\u0641\u0649|\u0641\u064A|\u0642\u0649|\u0642\u064A"),
   (0xFC80, "\u0643\u0627|\u0643\u0644|\u0643\u0645|\u0643\u0649|\u0643\u064A|\u0644\u0645|\u0644\u0649"),
   (0xFC87, "\u0644\u064A|\u0645\u0627|\u0645\u0645|\u0646\u0631|\u0646\u0632|\u0646\u0645|\u0646\u0646"),
   (0xFC8E, "\u0646\u0649|\u0646\u064A|\u0649\u0670|\u064A\u0631|\u064A\u0632|\u064A\u0645|\u064A\u0646"),
   (0xFC95, "\u064A\u0649|\u064A\u064A|\u0626\u062C|\u0626\u062D|\u0626\u062E|\u0626\u0645|\u0626\u0647"),
   (0xFC9C, "\u0628\u062C|\u0628\u062D|\u0628\u062E|\u0628\u0645|\u0628\u0647|\u062A\u062C|\u062A\u062D"),
   (0xFCA3, "\u062A\u062E|\u062A\u0645|\u062A\u0647|\u062B\u0645|\u062C\u062D|\u062C\u0645|\u062D\u062C"),
   (0xFCAA, "\u062D\u0645|\u062E\u062C|\u062E\u0645|\u0633\u062C|\u0633\u062D|\u0633\u062E|\u0633\u0645"),
   (0xFCB1, "\u0635\u062D|\u0635\u062E|\u0635\u0645|\u0636\u062C|\u0636\u062D|\u0636\u062E|\u0636\u0645"),
   (0xFCB8, "\u0637\u062D|\u0638\u0645|\u0639\u062C|\u0639\u0645|\u063A\u062C|\u063A\u0645|\u0641\u062C"),
   (0xFCBF, "\u0641\u062D|\u0641\u062E|\u0641\u0645|\u0642\u062D|\u0642\u0645|\u0643\u062C|\u0643\u062D"),
   (0xFCC6, "\u0643\u062E|\u0643\u0644|\u0643\u0645|\u0644\u062C|\u0644\u062D|\u0644\u062E|\u0644\u0645"),
   (0xFCCD, "\u0644\u0647|\u0645\u062C|\u0645\u062D|\u0645\u062E|\u0645\u0645|\u0646\u062C|\u0646\u062D"),
   (0xFCD4, "\u0646\u062E|\u0646\u0645|\u0646\u0647|\u0647\u062C|\u0647\u0645|\u0647\u0670|\u064A\u062C"),
   (0xFCDB, "\u064A\u062D|\u064A\u062E|\u064A\u0645|\u064A\u0647|\u0626\u0645|\u0626\u0647|\u0628\u0645"),
   (0xFCE2, "\u0628\u0647|\u062A\u0645|\u062A\u0647|\u062B\u0645|\u062B\u0647|\u0633\u0645|\u0633\u0647"),
   (0xFCE9, "\u0634\u0645|\u0634\u0647|\u0643\u0644|\u0643\u0645|\u0644\u0645|\u0646\u0645|\u0646\u0647"),
   (0xFCF0, "\u064A\u0645|\u064A\u0647|\u0640\u064E\u0651|\u0640\u064F\u0651|\u0640\u0650\u0651|\u0637\u0649"),
   (0xFCF6, "\u0637\u064A|\u0639\u0649|\u0639\u064A|\u063A\u0649|\u063A\u064A|\u0633\u0649|\u0633\u064A"),
   (0xFCFD, "\u0634\u0649|\u0634\u064A|\u062D\u0649|\u062D\u064A|\u062C\u0649|\u062C\u064A|\u062E\u0649"),
   (0xFD04, "\u062E\u064A|\u0635\u0649|\u0635\u064A|\u0636\u0649|\u0636\u064A|\u0634\u062C|\u0634\u062D"),
   (0xFD0B, "\u0634\u062E|\u0634\u0645|\u0634\u0631|\u0633\u0631|\u0635\u0631|\u0636\u0631|\u0637\u0649"),
   (0xFD12, "\u0637\u064A|\u0639\u0649|\u0639\u064A|\u063A\u0649|\u063A\u064A|\u0633\u0649|\u0633\u064A"),
   (0xFD19, "\u0634\u0649|\u0634\u064A|\u062D\u0649|\u062D\u064A|\u062C\u0649|\u062C\u064A|\u062E\u0649"),
   (0xFD20, "\u062E\u064A|\u0635\u0649|\u0635\u064A|\u0636\u0649|\u0636\u064A|\u0634\u062C|\u0634\u062D"),
   (0xFD27, "\u0634\u062E|\u0634\u0645|\u0634\u0631|\u0633\u0631|\u0635\u0631|\u0636\u0631|\u0634\u062C"),
   (0xFD2E, "\u0634\u062D|\u0634\u062E|\u0634\u0645|\u0633\u0647|\u0634\u0647|\u0637\u0645|\u0633\u062C"),
   (0xFD35, "\u0633\u062D|\u0633\u062E|\u0634\u062C|\u0634\u062D|\u0634\u062E|\u0637\u0645|\u0638\u0645"),
   (0xFD3C, "\u0627\u064B|\u0627\u064B"),
   (0xFD50, "\u062A\u062C\u0645|\u062A\u062D\u062C|\u062A\u062D\u062C|\u062A\u062D\u0645|\u062A\u062E\u0645"),
   (0xFD55, "\u062A\u0645\u062C|\u062A\u0645\u062D|\u062A\u0645\u062E|\u062C\u0645\u062D|\u062C\u0645\u062D"),
   (0xFD5A, "\u062D\u0645\u064A|\u062D\u0645\u0649|\u0633\u062D\u062C|\u0633\u062C\u062D|\u0633\u062C\u0649"),
   (0xFD5F, "\u0633\u0645\u062D|\u0633\u0645\u062D|\u0633\u0645\u062C|\u0633\u0645\u0645|\u0633\u0645\u0645"),
   (0xFD64, "\u0635\u062D\u062D|\u0635\u062D\u062D|\u0635\u0645\u0645|\u0634\u062D\u0645|\u0634\u062D\u0645"),
   (0xFD69, "\u0634\u062C\u064A|\u0634\u0645\u062E|\u0634\u0645\u062E|\u0634\u0645\u0645|\u0634\u0645\u0645"),
   (0xFD6E, "\u0636\u062D\u0649|\u0636\u062E\u0645|\u0636\u062E\u0645|\u0637\u0645\u062D|\u0637\u0645\u062D"),
   (0xFD73, "\u0637\u0645\u0645|\u0637\u0645\u064A|\u0639\u062C\u0645|\u0639\u0645\u0645|\u0639\u0645\u0645"),
   (0xFD78, "\u0639\u0645\u0649|\u063A\u0645\u0645|\u063A\u0645\u064A|\u063A\u0645\u0649|\u0641\u062E\u0645"),
   (0xFD7D, "\u0641\u062E\u0645|\u0642\u0645\u062D|\u0642\u0645\u0645|\u0644\u062D\u0645|\u0644\u062D\u064A"),
   (0xFD82, "\u0644\u062D\u0649|\u0644\u062C\u062C|\u0644\u062C\u062C|\u0644\u062E\u0645|\u0644\u062E\u0645"),
   (0xFD87, "\u0644\u0645\u062D|\u0644\u0645\u062D|\u0645\u062D\u062C|\u0645\u062D\u0645|\u0645\u062D\u064A"),
   (0xFD8C, "\u0645\u062C\u062D|\u0645\u062C\u0645|\u0645\u062E\u062C|\u0645\u062E\u0645|||\u0645\u062C\u062E"),
   (0xFD93, "\u0647\u0645\u062C|\u0647\u0645\u0645|\u0646\u062D\u0645|\u0646\u062D\u0649|\u0646\u062C\u0645"),
   (0xFD98, "\u0646\u062C\u0645|\u0646\u062C\u0649|\u0646\u0645\u064A|\u0646\u0645\u0649|\u064A\u0645\u0645"),
   (0xFD9D, "\u064A\u0645\u0645|\u0628\u062E\u064A|\u062A\u062C\u064A|\u062A\u062C\u0649|\u062A\u062E\u064A"),
   (0xFDA2, "\u062A\u062E\u0649|\u062A\u0645\u064A|\u062A\u0645\u0649|\u062C\u0645\u064A|\u062C\u062D\u0649"),
   (0xFDA7, "\u062C\u0645\u0649|\u0633\u062E\u0649|\u0635\u062D\u064A|\u0634\u062D\u064A|\u0636\u062D\u064A"),
   (0xFDAC, "\u0644\u062C\u064A|\u0644\u0645\u064A|\u064A\u062D\u064A|\u064A\u062C\u064A|\u064A\u0645\u064A"),
   (0xFDB1, "\u0645\u0645\u064A|\u0642\u0645\u064A|\u0646\u062D\u064A|\u0642\u0645\u062D|\u0644\u062D\u0645"),
   (0xFDB6, "\u0639\u0645\u064A|\u0643\u0645\u064A|\u0646\u062C\u062D|\u0645\u062E\u064A|\u0644\u062C\u0645"),
   (0xFDBB, "\u0643\u0645\u0645|\u0644\u062C\u0645|\u0646\u062C\u062D|\u062C\u062D\u064A|\u062D\u062C\u064A"),
   (0xFDC0, "\u0645\u062C\u064A|\u0641\u0645\u064A|\u0628\u062D\u064A|\u0643\u0645\u0645|\u0639\u062C\u0645"),
   (0xFDC5, "\u0635\u0645\u0645|\u0633\u062E\u064A|\u0646\u062C\u064A"),
   (0xFDF0, "\u0635\u0644\u06D2|\u0642\u0644\u06D2|\u0627\u0644\u0644\u0647|\u0627\u0643\u0628\u0631"),
   (0xFDF4, "\u0645\u062D\u0645\u062F|\u0635\u0644\u0639\u0645|\u0631\u0633\u0648\u0644|\u0639\u0644\u064A\u0647"),
   (0xFDF8, "\u0648\u0633\u0644\u0645|\u0635\u0644\u0649"),
   (0xFDFA, "\u0635\u0644\u0649 \u0627\u0644\u0644\u0647 \u0639\u0644\u064A\u0647 \u0648\u0633\u0644\u0645"),
   (0xFDFB, "\u062C\u0644 \u062C\u0644\u0627\u0644\u0647|\u0631\u06CC\u0627\u0644"),
   (0xFE10, ",|、|。|:|;|!|?|〖|〗|..."),
   (0xFE30, "..|—|–|_|_|(|)|\x7b|\x7d|〔|〕|【|】|《|》|〈|〉"),
   (0xFE47, "[|]| \u0305| \u0305| \u0305| \u0305||||,|、|.||;|:|?|!|—|(|)|\x7b|\x7d|〔|〕|#|&|*|+|-|<|>|=||\\|$|%"),
   (0xFE6B, "@||||| \u064B|\u0640\u064B| \u064C|| \u064D|| \u064E|\u0640\u064E| \u064F|\u0640\u064F| \u0650"),
   (0xFE7B, "\u0640\u0650| \u0651|\u0640\u0651| \u0652|\u0640\u0652"),
   (0xFE97, "\u062A|\u062A"),
   (0xFEB3, "\u0633|\u0633"),
   (0xFEF3, "\u064A|\u064A|\u0644\u0622|\u0644\u0622|\u0644\u0623|\u0644\u0623|\u0644\u0625|\u0644\u0625"),
   (0xFEFB, "\u0644\u0627|\u0644\u0627"),
   (0xFF5F, "⦅|⦆|。|「|」|、|・|ヲ|ァ|ィ|ゥ|ェ|ォ|ャ|ュ|ョ|ッ|ー|ア|イ|ウ|エ|オ|カ|キ|ク|ケ|コ|サ|シ|ス|セ|ソ|タ"),
   (0xFF81, "チ|ツ|テ|ト"),
   (0xFF8B, "ヒ|フ|ヘ|ホ||||||ヤ|ユ"),
   (0xFF9C, "ワ|ン|\u3099|\u309A||\u1100|\u1101|\u11AA|\u1102|\u11AC|\u11AD"),
   (0xFFB0, "\u111A||||\u1121"),
   (0xFFE0, "¢|£|¬| \u0304|¦|¥|₩||│|||||■|○"),
   (0x10595, "𐖼"),
   (0x10781, "ː|ˑ|æ|ʙ|ɓ||ʣ|ꭦ|ʥ|ʤ|ɖ|ɗ|ᶑ|ɘ|ɞ|ʩ|ɤ|ɢ|ɠ|ʛ|ħ|ʜ|ɧ|ʄ|ʪ|ʫ|ɬ|𝼄|ꞎ|ɮ|𝼅|ʎ|𝼆|ø|ɶ|ɷ|q|ɺ|𝼈|ɽ|ɾ|ʀ|ʨ|ʦ|ꭧ|ʧ|ʈ"),
   (0x107B0, "ⱱ||ʏ|ʡ|ʢ|ʘ||||𝼊|𝼞"),
   (0x1D15E, "𝅗𝅥|𝅘𝅥|𝅘𝅥𝅮|𝅘𝅥𝅯|𝅘𝅥𝅰|𝅘𝅥𝅱|𝅘𝅥𝅲"),
   (0x1D1BB, "𝆹𝅥|𝆺𝅥|𝆹𝅥𝅮|𝆺𝅥𝅮|𝆹𝅥𝅯|𝆺𝅥𝅯"),
   (0x1D49C, "a||c|d|||g|||j|k"),
   (0x1D504, "a||||e||g"),
   (0x1D538, "a"),
   (0x1D541, "j||l"),
   (0x1D6A4, "ı|ȷ"),
   (0x1D6B9, "θ"),
   (0x1D6C1, "∇"),
   (0x1D6D3, "σ"),
   (0x1D6DB, "∂|ε|θ|κ|φ|ρ|π"),
   (0x1D6F3, "θ"),
   (0x1D6FB, "∇"),
   (0x1D70D, "σ"),
   (0x1D715, "∂|ε|θ|κ|φ|ρ|π"),
   (0x1D72D, "θ"),
   (0x1D735, "∇"),
   (0x1D747, "σ"),
   (0x1D74F, "∂|ε|θ|κ|φ|ρ|π"),
   (0x1D767, "θ"),
   (0x1D76F, "∇"),
   (0x1D781, "σ"),
   (0x1D789, "∂|ε|θ|κ|φ|ρ|π"),
   (0x1D7A1, "θ"),
   (0x1D7A9, "∇"),
   (0x1D7BB, "σ"),
   (0x1D7C3, "∂|ε|θ|κ|φ|ρ|π|ϝ|ϝ"),
   (0x1E047, "ы|э|ю|ꚉ|ә|і|ј|ө|ү|ӏ"),
   (0x1E05A, "к|л|о|п|с"),
   (0x1E065, "ъ|ы|ґ|і|ѕ|џ|ҫ|ꙑ|ұ"),
   (0x1EE00, "\u0627|\u0628|\u062C|\u062F||\u0648|\u0632|\u062D|\u0637|\u064A|||||\u0633|\u0639|\u0641|\u0635"),
   (0x1EE12, "\u0642|\u0631|\u0634|\u062A|\u062B|\u062E|\u0630|\u0636|\u0638|\u063A|\u066E|\u06BA|\u06A1|\u066F"),
   (0x1EE21, "\u0628|\u062C||\u0647|||\u062D||\u064A|||||\u0633|\u0639|\u0641|\u0635|\u0642||\u0634|\u062A|\u062B"),
   (0x1EE37, "\u062E||\u0636||\u063A"),
   (0x1EE42, "\u062C|||||\u062D||\u064A||\u0644||\u0646|\u0633|\u0639||\u0635|\u0642||\u0634|||\u062E||\u0636"),
   (0x1EE5B, "\u063A||\u06BA||\u066F||\u0628|\u062C||\u0647|||\u062D|\u0637|\u064A|\u0643||\u0645|\u0646|\u0633"),
   (0x1EE6F, "\u0639|\u0641|\u0635|\u0642||\u0634|\u062A|\u062B|\u062E||\u0636|\u0638|\u063A|\u066E||\u06A1"),
   (0x1EE80, "\u0627|\u0628|\u062C|\u062F|\u0647|\u0648|\u0632|\u062D|\u0637|\u064A|||||\u0633|\u0639|\u0641"),
   (0x1EE91, "\u0635|\u0642|\u0631|\u0634|\u062A|\u062B|\u062E|\u0630|\u0636|\u0638|\u063A||||||\u0628|\u062C"),
   (0x1EEA3, "\u062F||\u0648|\u0632|\u062D|\u0637|\u064A|||||\u0633|\u0639|\u0641|\u0635|\u0642|\u0631|\u0634"),
   (0x1EEB5, "\u062A|\u062B|\u062E|\u0630|\u0636|\u0638|\u063A"),
   (0x1F100, "0.|0,|1,|2,|3,|4,|5,|6,|7,|8,|9,||||||(a)|(b)|(c)|(d)|(e)|(f)|(g)|(h)|(i)|(j)|(k)|(l)|(m)|(n)|(o)"),
   (0x1F11F, "(p)|(q)|(r)|(s)|(t)|(u)|(v)|(w)|(x)|(y)|(z)|〔s〕|c|r|cd|wz"),
   (0x1F14A, "hv|mv|sd|ss|ppv|wc"),
   (0x1F16A, "mc|md|mr"),
   (0x1F190, "dj"),
   (0x1F200, "ほか|ココ|サ"),
   (0x1F210, "手|字|双|デ|二|多|解|天|交|映|無|料|前|後|再|新|初|終|生|販|声|吹|演|投|捕|一|三|遊|左|中|右|指|走"),
   (0x1F231, "打|禁|空|合|満|有|月|申|割|営|配|||||〔本〕|〔三〕|〔二〕|〔安〕|〔点〕|〔打〕|〔盗〕|〔勝〕|〔敗〕"),
   (0x1F250, "得|可"),
   (0x2F800, "丽|丸|乁|𠄢|你|侮|侻|倂|偺|備|僧|像|㒞|𠘺|免|兔|兤|具|𠔜|㒹|內|再|𠕋|冗|冤|仌|冬|况|𩇟|凵|刃|㓟|刻"),
   (0x2F821, "剆|割|剷|㔕|勇|勉|勤|勺|包|匆|北|卉|卑|博|即|卽||||𠨬|灰|及|叟|𠭣|叫|叱|吆|咞|吸|呈|周|咢|哶|唐|啓"),
   (0x2F844, "啣|善|善|喙|喫|喳|嗂|圖|嘆|圗|噑|噴|切|壮|城|埴|堍|型|堲|報|墬|𡓤|売|壷|夆|多|夢|奢|𡚨|𡛪|姬|娛|娧"),
   (0x2F865, "姘|婦|㛮|㛼|嬈|嬾|嬾|𡧈|寃|寘|寧|寳|𡬘|寿|将|当|尢|㞁|屠|屮|峀|岍|𡷤|嵃|𡷦|嵮|嵫|嵼|巡|巢|㠯|巽|帨"),
   (0x2F886, "帽|幩|㡢|𢆃|㡼|庰|庳|庶|廊|𪎒|廾|𢌱|𢌱|舁|弢|弢|㣇|𣊸|𦇚|形|彫|㣣|徚|忍|志|忹|悁|㤺|㤜|悔|𢛔|惇|慈"),
   (0x2F8A7, "慌|慎|慌|慺|憎|憲|憤|憯|懞|懲|懶|成|戛|扝|抱|拔|捐|𢬌|挽|拼|捨|掃|揤|𢯱|搢|揅|掩|㨮|摩|摾|撝|摷|㩬"),
   (0x2F8C8, "敏|敬|𣀊|旣|書|晉|㬙|暑|㬈|㫤|冒|冕|最|暜|肭|䏙|朗|望|朡|杞|杓|𣏃|㭉|柺|枅|桒|梅|𣑭|梎|栟|椔|㮝|楂"),
   (0x2F8E9, "榣|槪|檨|𣚣|櫛|㰘|次|𣢧|歔|㱎|歲|殟|殺|殻|𣪍|𡴋|𣫺|汎|𣲼|沿|泍|汧|洖|派|海|流|浩|浸|涅|𣴞|洴|港|湮"),
   (0x2F90A, "㴳|滋|滇|𣻑|淹|潮|𣽞|𣾎|濆|瀹|瀞|瀛|㶖|灊|災|灷|炭|𠔥|煅|𤉣|熜|𤎫|爨|爵|牐|𤘈|犀|犕|𤜵|𤠔|獺|王|㺬"),
   (0x2F92B, "玥|㺸|㺸|瑇|瑜|瑱|璅|瓊|㼛|甤|𤰶|甾|𤲒|異|𢆟|瘐|𤾡|𤾸|𥁄|㿼|䀈|直|𥃳|𥃲|𥄙|𥄳|眞|真|真|睊|䀹|瞋|䁆"),
   (0x2F94C, "䂖|𥐝|硎|碌|磌|䃣|𥘦|祖|𥚚|𥛅|福|秫|䄯|穀|穊|穏|𥥼|𥪧|𥪧|竮|䈂|𥮫|篆|築|䈧|𥲀|糒|䊠|糨|糣|紀|𥾆|絣"),
   (0x2F96D, "䌁|緇|縂|繅|䌴|𦈨|𦉇|䍙|𦋙|罺|𦌾|羕|翺|者|𦓚|𦔣|聠|𦖨|聰|𣍟|䏕|育|脃|䐋|脾|媵|𦞧|𦞵|𣎓|𣎜|舁|舄|辞"),
   (0x2F98E, "䑫|芑|芋|芝|劳|花|芳|芽|苦|𦬼|若|茝|荣|莭|茣|莽|菧|著|荓|菊|菌|菜|𦰶|𦵫|𦳕|䔫|蓱|蓳|蔖|𧏊|蕤|𦼬|䕝"),
   (0x2F9AF, "䕡|𦾱|𧃒|䕫|虐|虜|虧|虩|蚩|蚈|蜎|蛢|蝹|蜨|蝫|螆|䗗|蟡|蠁|䗹|衠|衣|𧙧|裗|裞|䘵|裺|㒻|𧢮|𧥦|䚾|䛇|誠"),
   (0x2F9D0, "諭|變|豕|𧲨|貫|賁|贛|起|𧼯|𠠄|跋|趼|跰|𠣞|軔|輸|𨗒|𨗭|邔|郱|鄑|𨜮|鄛|鈸|鋗|鋘|鉼|鏹|鐕|𨯺|開|䦕|閷"),
   (0x2F9F1, "𨵷|䧦|雃|嶲|霣|𩅅|𩈚|䩮|䩶|韠|𩐊|䪲|𩒖|頋|頋|頩|𩖶|飢|䬳|餩|馧|駂|駾|䯎|𩬰|鬒|鱀|鳽|䳎|䳭|鵧|𪃎|䳸"),
   (0x2FA12, "𪄅|𪈎|𪊑|麻|䵖|黹|黾|鼅|鼏|鼖|鼻|𪘀")]

/-- What a variant of the runs stands for. -/
def ofRuns? (code : Nat) : Option (List Char) :=
  (runs.find? fun r => r.first ≤ code && code ≤ r.last && (code - r.first) % r.step == 0).map fun r =>
    [Char.ofNat (r.text + (code - r.first) / r.step * r.textStep)]

/-- What a variant of the rows stands for. -/
def ofRows? (code : Nat) : Option (List Char) :=
  match (rows.takeWhile (·.1 ≤ code)).getLast? with
  | none => none
  | some (first, texts) => ((texts.toList.splitOn '|')[code - first]?).filter (!·.isEmpty)

/-- What a character stands for, if it is a variant. -/
def text? (c : Char) : Option (List Char) := ofRuns? c.toNat <|> ofRows? c.toNat

end Variant

/-- Whether a printed character is a variant of others. -/
def isVariant (c : Char) : Bool := (Variant.text? c).isSome

end StorageGate
