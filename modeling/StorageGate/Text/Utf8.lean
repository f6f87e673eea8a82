/-!
# UTF-8

Characters as byte sequences and back.  A sequence is cut into units: each unit is a well-formed character or a maximal
malformed part (the longest start of a character that the bytes allow, else one byte).  Strict reading refuses a
malformed part; lenient reading puts U+FFFD for each.  Both read the same units, so they differ only there.
-/
namespace StorageGate
namespace Utf8

/-- The bytes of a text. -/
def encode (text : List Char) : List UInt8 :=
  text.flatMap String.utf8EncodeChar

/-- The bytes `80` to `BF`, which never begin a character. -/
def isContinuation (b : UInt8) : Bool := 0x80 ≤ b && b ≤ 0xBF

/-- What may follow the first byte of a three-byte character: overlong forms and surrogates are shut out. -/
def isSecondOfThree (first b : UInt8) : Bool :=
  (if first = 0xE0 then 0xA0 else 0x80) ≤ b && b ≤ (if first = 0xED then 0x9F else 0xBF)

/-- What may follow the first byte of a four-byte character: overlong forms and code points past U+10FFFF are shut
out. -/
def isSecondOfFour (first b : UInt8) : Bool :=
  (if first = 0xF0 then 0x90 else 0x80) ≤ b && b ≤ (if first = 0xF4 then 0x8F else 0xBF)

/-- The six payload bits of a continuation byte. -/
def payload (b : UInt8) : Nat := b.toNat % 64

/-- The units of a byte sequence, in order, after those already `read` (last first): `none` stands for a maximal
malformed part. -/
def scan (read : List (Option Char)) : List UInt8 → List (Option Char)
  | [] => read.reverse
  | b :: r =>
    if b < 0x80 then scan (some (Char.ofNat b.toNat) :: read) r
    else if 0xC2 ≤ b && b ≤ 0xDF then
      match r with
      | [] => (none :: read).reverse
      | b₁ :: r₁ =>
        if isContinuation b₁ then scan (some (Char.ofNat (b.toNat % 32 * 64 + payload b₁)) :: read) r₁
        else scan (none :: read) (b₁ :: r₁)
    else if 0xE0 ≤ b && b ≤ 0xEF then
      match r with
      | [] => (none :: read).reverse
      | b₁ :: r₁ =>
        if isSecondOfThree b b₁ then
          match r₁ with
          | [] => (none :: read).reverse
          | b₂ :: r₂ =>
            if isContinuation b₂ then
              scan (some (Char.ofNat (b.toNat % 16 * 4096 + payload b₁ * 64 + payload b₂)) :: read) r₂
            else scan (none :: read) (b₂ :: r₂)
        else scan (none :: read) (b₁ :: r₁)
    else if 0xF0 ≤ b && b ≤ 0xF4 then
      match r with
      | [] => (none :: read).reverse
      | b₁ :: r₁ =>
        if isSecondOfFour b b₁ then
          match r₁ with
          | [] => (none :: read).reverse
          | b₂ :: r₂ =>
            if isContinuation b₂ then
              match r₂ with
              | [] => (none :: read).reverse
              | b₃ :: r₃ =>
                if isContinuation b₃ then
                  scan (some (Char.ofNat
                    (b.toNat % 8 * 262144 + payload b₁ * 4096 + payload b₂ * 64 + payload b₃)) :: read) r₃
                else scan (none :: read) (b₃ :: r₃)
            else scan (none :: read) (b₂ :: r₂)
        else scan (none :: read) (b₁ :: r₁)
    else scan (none :: read) r

/-- The units of a byte sequence, in order. -/
def units (bytes : List UInt8) : List (Option Char) := scan [] bytes

/-- The text of a byte sequence, if every unit is well formed. -/
def decode? (bytes : List UInt8) : Option (List Char) :=
  let found := units bytes
  if found.contains none then none else some (found.filterMap id)

/-- The text of a byte sequence, with U+FFFD for each malformed part. -/
def decodeLossy (bytes : List UInt8) : List Char :=
  (units bytes).map (·.getD '\uFFFD')

end Utf8
end StorageGate
