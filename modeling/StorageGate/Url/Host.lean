import StorageGate.Text.Numeral
import StorageGate.Text.Percent
import StorageGate.Url.Label
/-!
# Hosts

The host of a URL is a domain or an address.  A URL of a web scheme reads its host as a domain: percent-encoding is
undone, letters of ASCII are lower-cased, labels beyond ASCII are written in ASCII, and a domain whose last label is a
number must be an IPv4 address in one of its spellings.  A URL of any other scheme takes the host as it stands.
-/
namespace StorageGate

/-- Why a text is no URL. -/
inductive UrlError where
  | relativeWithoutBase
  | emptyHost
  | invalidPort
  | invalidIpv4
  | invalidIpv6
  | invalidDomain
  | invalidDomainCharacter
deriving DecidableEq, Repr

/-- The text of the error. -/
def UrlError.message : UrlError → String
  | relativeWithoutBase => "relative URL without a base"
  | emptyHost => "empty host"
  | invalidPort => "invalid port number"
  | invalidIpv4 => "invalid IPv4 address"
  | invalidIpv6 => "invalid IPv6 address"
  | invalidDomain => "invalid international domain name"
  | invalidDomainCharacter => "invalid domain character"

/-- The eight pieces of an IPv6 address. -/
structure Ipv6 where
  pieces : List UInt16
  length_pieces : pieces.length = 8
deriving DecidableEq, Repr

/-- The host of a URL with an authority. -/
inductive Host where
  /-- An authority that names no host. -/
  | empty
  /-- A domain; outside the web schemes, any host that is no IPv6 address. -/
  | domain (name : String)
  | ipv4 (address : UInt32)
  | ipv6 (address : Ipv6)
deriving DecidableEq, Repr

namespace Host

/-! ## IPv4 addresses -/

/-- A number of an IPv4 address: hexadecimal after `0x`, octal after `0`, decimal otherwise. -/
def ipv4Number? (text : List Char) : Option Nat :=
  let value? (base : Nat) (digits : List Char) : Option Nat :=
    digits.foldlM (fun n c => ((Percent.digitValue? c).filter (· < base)).map (n * base + ·)) 0
  match text with
  | [] => none
  | '0' :: 'x' :: digits | '0' :: 'X' :: digits => value? 16 digits
  | ['0'] => some 0
  | '0' :: digits => value? 8 digits
  | digits => value? 10 digits

/-- The labels of a domain without the empty one after a final dot. -/
def labels (name : List Char) : List (List Char) :=
  let all := name.splitOn '.'
  if all.getLast? = some [] then all.dropLast else all

/-- Whether a domain must be an IPv4 address: its last label is a number. -/
def endsInNumber (name : List Char) : Bool :=
  match (labels name).getLast? with
  | none | some [] => false
  | some last => last.all Char.isDigit || (ipv4Number? last).isSome

/-- The address of up to four numbers; the last fills all the bytes that are left. -/
def ipv4? (name : List Char) : Option UInt32 :=
  match (labels name).mapM ipv4Number? with
  | none => none
  | some numbers =>
    let parts := numbers.dropLast
    let last := numbers.getLast?.getD 0
    if 4 < numbers.length || parts.any (255 < ·) || Nat.pow 256 (4 - parts.length) ≤ last then none
    else some (UInt32.ofNat (parts.zipIdx.foldl (fun sum p => sum + p.1 * Nat.pow 256 (3 - p.2)) last))

/-- An IPv4 address as it is written. -/
def writeIpv4 (address : UInt32) : List Char :=
  ['.'].intercalate ([3, 2, 1, 0].map fun i => Numeral.write (address.toNat / Nat.pow 256 i % 256))

/-! ## IPv6 addresses -/

/-- A piece of one to four hexadecimal digits. -/
def ipv6Piece? (text : List Char) : Option UInt16 :=
  if text.isEmpty || 4 < text.length then none
  else (text.foldlM (fun n c => (Percent.digitValue? c).map (n * 16 + ·)) 0).map UInt16.ofNat

/-- The two pieces of an address in dotted decimal, without leading zeros. -/
def dottedPieces? (text : List Char) : Option (List UInt16) :=
  match (text.splitOn '.').mapM (Numeral.canonical? 256) with
  | some [a, b, c, d] => some [UInt16.ofNat (a * 256 + b), UInt16.ofNat (c * 256 + d)]
  | _ => none

/-- The pieces between colons; the last may stand in dotted decimal if `dotted` allows it. -/
def ipv6Pieces? (dotted : Bool) : List (List Char) → Option (List UInt16)
  | [] => some []
  | [last] =>
    match ipv6Piece? last with
    | some piece => some [piece]
    | none => if dotted then dottedPieces? last else none
  | piece :: rest => return (← ipv6Piece? piece) :: (← ipv6Pieces? dotted rest)

/-- What stands before and after the first double colon. -/
def cutDoubleColon? : List Char → Option (List Char × List Char)
  | ':' :: ':' :: rest => some ([], rest)
  | [] => none
  | c :: rest => (cutDoubleColon? rest).map fun p => (c :: p.1, p.2)

/-- The groups between colons; an empty text has none. -/
def groups (text : List Char) : List (List Char) :=
  if text.isEmpty then [] else text.splitOn ':'

/-- The address of a text.  A double colon stands for at least one piece of zero. -/
def ipv6? (text : List Char) : Option Ipv6 := do
  let pieces ← match cutDoubleColon? text with
    | none => ipv6Pieces? true (groups text)
    | some (before, after) => do
      let before ← ipv6Pieces? false (groups before)
      let after ← ipv6Pieces? true (groups after)
      if 7 < before.length + after.length then none
      else some (before ++ List.replicate (8 - before.length - after.length) 0 ++ after)
  if h : pieces.length = 8 then some ⟨pieces, h⟩ else none

/-- Where the first of the longest runs of at least two zero pieces starts, and its length. -/
def longestZeros? (pieces : List UInt16) : Option (Nat × Nat) :=
  let runs := (List.range pieces.length).map fun i => (i, ((pieces.drop i).takeWhile (· == 0)).length)
  runs.foldl (fun best run => if (best.map (·.2)).getD 1 < run.2 then some run else best) none

/-- Pieces between colons, in lower-case hexadecimal. -/
def writePieces (pieces : List UInt16) : List Char :=
  [':'].intercalate (pieces.map fun p => Nat.toDigits 16 p.toNat)

/-- An IPv6 address as it is written, without its brackets. -/
def writeIpv6 (address : Ipv6) : List Char :=
  match longestZeros? address.pieces with
  | none => writePieces address.pieces
  | some (start, length) =>
    writePieces (address.pieces.take start) ++ ':' :: ':' :: writePieces (address.pieces.drop (start + length))

/-! ## Domains -/

/-- The characters that no domain holds. -/
def isForbiddenInDomain (c : Char) : Bool :=
  c.toNat ≤ 0x20 || c.toNat == 0x7F || "%#/:<>?@[\\]^|".toList.contains c

/-- The characters that no host of another scheme holds. -/
def isForbidden (c : Char) : Bool :=
  "\x00\t\n\r #/:<>?@[\\]^|".toList.contains c

/-- Whether a character divides labels: the full stop, or one of its three ideographic forms. -/
def isDot (c : Char) : Bool :=
  c == '.' || c == '\u3002' || c == '\uFF0E' || c == '\uFF61'

/-- A domain in ASCII. -/
def asciiDomain? (text : List Char) : Option (List Char) := do
  let name := ['.'].intercalate (← Label.toAscii? (text.splitOnP isDot))
  if name.any isForbiddenInDomain then none else some name

/-! ## Reading and writing -/

/-- The address between brackets, of a text that starts with one. -/
def parseBracketed (rest : List Char) : Except UrlError Host :=
  if rest.getLast? = some ']' then
    match ipv6? rest.dropLast with
    | some address => .ok (.ipv6 address)
    | none => .error .invalidIpv6
  else .error .invalidIpv6

/-- The host of a web scheme. -/
def parse (text : List Char) : Except UrlError Host :=
  match text with
  | '[' :: rest => parseBracketed rest
  | _ =>
    match (Utf8.decode? (Percent.decode text)).bind asciiDomain? with
    | none => .error .invalidDomain
    | some name =>
      if name.isEmpty then .error .emptyHost
      else if endsInNumber name then
        match ipv4? name with
        | some address => .ok (.ipv4 address)
        | none => .error .invalidIpv4
      else .ok (.domain (String.ofList name))

/-- The host of any other scheme: taken as it stands, with controls and what lies beyond ASCII percent-encoded. -/
def parseVerbatim (text : List Char) : Except UrlError Host :=
  match text with
  | [] => .ok .empty
  | '[' :: rest => parseBracketed rest
  | _ =>
    if text.any isForbidden then .error .invalidDomainCharacter
    else .ok (.domain (String.ofList (Percent.encode (fun c => 0x20 ≤ c.toNat && c.toNat ≠ 0x7F) text)))

/-- A host as it is written. -/
def write : Host → List Char
  | empty => []
  | domain name => name.toList
  | ipv4 address => writeIpv4 address
  | ipv6 address => '[' :: writeIpv6 address ++ [']']

end Host
end StorageGate
