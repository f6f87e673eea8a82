import StorageGate.Url.Host
import StorageGate.Url.Path
/-!
# URLs

A URL in parts, its text, and the three changes that addressing an object needs: of the path, the host and the query.
The web schemes share rules of their own (a host is a domain, a path is never empty, a backslash is a slash).
-/
namespace StorageGate

/-- The path of a URL. -/
inductive UrlPath where
  /-- A text without inner structure, as after `mailto:`. -/
  | rootless (text : String)
  /-- A slash and a segment, any number of times. -/
  | rooted (segments : List String)
deriving DecidableEq, Repr

/-- The text of a path. -/
def UrlPath.write : UrlPath → List Char
  | rootless text => text.toList
  | rooted segments => segments.flatMap fun s => '/' :: s.toList

/-- A URL. -/
structure Url where
  scheme : String
  username : String := ""
  password : Option String := none
  /-- The host, of a URL that has an authority. -/
  host : Option Host := none
  /-- The port, where it is not the scheme's own. -/
  port : Option UInt16 := none
  path : UrlPath
  query : Option String := none
  fragment : Option String := none
deriving DecidableEq, Repr

namespace Url

/-- Whether a scheme is one of those with the web's rules. -/
def isWebScheme (scheme : String) : Bool :=
  ["http", "https", "ws", "wss", "ftp", "file"].contains scheme

/-- The port that goes without saying. -/
def defaultPort? (scheme : String) : Option UInt16 :=
  [("http", 80), ("https", 443), ("ws", 80), ("wss", 443), ("ftp", 21)].lookup scheme

/-- The text of the host, if there is one. -/
def hostText? (u : Url) : Option (List Char) :=
  match u.host with
  | none | some .empty => none
  | some host => some host.write

/-- The text of the path. -/
def pathText (u : Url) : List Char := u.path.write

/-- User and password, with the `@` after them. -/
def credentialsText (u : Url) : List Char :=
  if u.username = "" && u.password = none then []
  else u.username.toList ++ ((u.password.map fun p => ':' :: p.toList).getD []) ++ ['@']

/-- What stands between the scheme and the path.  Without an authority, a path that starts with two slashes gets a dot in
front, so that it is not read as one. -/
def authorityText (u : Url) : List Char :=
  match u.host with
  | some host =>
    '/' :: '/' :: u.credentialsText ++ host.write ++ ((u.port.map fun p => ':' :: Numeral.write p.toNat).getD [])
  | none => if ['/', '/'].isPrefixOf u.pathText then ['/', '.'] else []

/-- The text of a URL. -/
def write (u : Url) : List Char :=
  u.scheme.toList ++ ':' :: u.authorityText ++ u.pathText
    ++ ((u.query.map fun q => '?' :: q.toList).getD []) ++ ((u.fragment.map fun f => '#' :: f.toList).getD [])

/-- The text of a URL. -/
def toText (u : Url) : String := String.ofList u.write

/-! ## Characters that stand for themselves -/

/-- Printable ASCII other than the characters named. -/
def isPrintableBut (others : String) (c : Char) : Bool :=
  0x20 < c.toNat && c.toNat < 0x7F && !(others.toList.contains c)

/-- In a query. -/
def isKeptInQuery (isWeb : Bool) (c : Char) : Bool :=
  isPrintableBut "\"#<>" c && !(isWeb && c == '\'')

/-- In a fragment. -/
def isKeptInFragment (c : Char) : Bool := isPrintableBut "\"<>`" c

/-- In a user name or a password. -/
def isKeptInUser (c : Char) : Bool := isPrintableBut "\"<>`#?\x7b\x7d/:;=@[\\]^|" c

/-- In a path without structure. -/
def isKeptInRootless (c : Char) : Bool := 0x20 ≤ c.toNat && c.toNat < 0x7F

/-! ## Changes -/

/-- Replaces the path by that of a text which starts with a slash. -/
def setPath (u : Url) (text : List Char) : Url :=
  match u.path with
  | .rootless _ =>
    let escaped := match text with
      | '/' :: rest => "%2F".toList ++ Percent.encode isKeptInRootless rest
      | _ => Percent.encode isKeptInRootless text
    { u with path := .rootless (String.ofList escaped) }
  | .rooted _ =>
    { u with path := .rooted ((Path.segments (isWebScheme u.scheme) (u.scheme == "file") (text.drop 1)).map String.ofList) }

/-- Replaces the query by a text, or takes it out. -/
def setQuery (u : Url) (text : Option (List Char)) : Url :=
  { u with query := text.map fun t => String.ofList (Percent.encode (isKeptInQuery (isWebScheme u.scheme)) t) }

/-- Replaces the host by that of a text.  The text ends at its first colon, unless it stands in brackets. -/
def setHost (u : Url) (text : List Char) : Except UrlError Url :=
  let isBracketed := text.head? = some '[' ∧ text.getLast? = some ']'
  let name := if isBracketed then text else text.takeWhile (· != ':')
  if name.isEmpty then .error (if text.isEmpty then .emptyHost else .invalidDomainCharacter)
  else do
    let host ← if isWebScheme u.scheme then Host.parse name else Host.parseVerbatim name
    return { u with host := some host }

end Url
end StorageGate
