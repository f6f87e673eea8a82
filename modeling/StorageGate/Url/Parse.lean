import StorageGate.Text.Blank
import StorageGate.Url.Basic
/-!
# Reading URLs

A text is stripped of controls and spaces at its ends and of tabs and line breaks everywhere, and then cut: at the
colon of the scheme, at the first `#` and `?`, at the end of the authority, and inside the authority at the last `@` and
at the colon of the port.
-/
namespace StorageGate
namespace Url

/-- The parts before and after the first occurrence of a character. -/
def cutAt (mark : Char) (text : List Char) : List Char × Option (List Char) :=
  match text.dropWhile (· != mark) with
  | [] => (text, none)
  | _ :: rest => (text.takeWhile (· != mark), some rest)

/-- The scheme, in lower case, and what follows its colon. -/
def cutScheme? (text : List Char) : Option (String × List Char) :=
  match cutAt ':' text with
  | (first :: letters, some rest) =>
    if first.isAlpha && letters.all (fun c => c.isAlphanum || c == '+' || c == '-' || c == '.') then
      some (String.ofList ((first :: letters).map Char.toLower), rest)
    else none
  | _ => none

/-- Whether a character ends an authority. -/
def endsAuthority (isWeb : Bool) (c : Char) : Bool :=
  c == '/' || c == '?' || c == '#' || isWeb && c == '\\'

/-- User name and password. -/
def parseUser (text : List Char) : String × Option String :=
  let encode (part : List Char) : String := String.ofList (Percent.encode isKeptInUser part)
  match cutAt ':' text with
  | (name, some (c :: password)) => (encode name, some (encode (c :: password)))
  | (name, _) => (encode name, none)

/-- The host and what follows it: the end, or the colon of the port.  A colon between brackets belongs to the host. -/
def cutHost (inBrackets : Bool) : List Char → List Char × List Char
  | [] => ([], [])
  | c :: rest =>
    if c == ':' && !inBrackets then ([], c :: rest)
    else
      let cut := cutHost (if c == '[' then true else if c == ']' then false else inBrackets) rest
      (c :: cut.1, cut.2)

/-- The port after its colon, and what follows its digits, which is nothing or begins with a backslash.  There is no
port if no digit stands there or if it is the scheme's own. -/
def parsePort (scheme : String) (text : List Char) : Except UrlError (Option UInt16 × List Char) :=
  let digits := text.takeWhile (· != '\\')
  let rest := text.dropWhile (· != '\\')
  if digits.isEmpty then .ok (none, rest)
  else match (Numeral.digits? digits).filter (· < 65536) with
    | none => .error .invalidPort
    | some port =>
      let port := UInt16.ofNat port
      .ok (if defaultPort? scheme = some port then none else some port, rest)

/-- Path, query and fragment of what follows an authority or a scheme. -/
def withTail (u : Url) (path : List Char → UrlPath) (text : List Char) : Url :=
  let (beforeFragment, fragment) := cutAt '#' text
  let (pathText, query) := cutAt '?' beforeFragment
  { u with
    path := path pathText
    query := query.map fun q => String.ofList (Percent.encode (isKeptInQuery (isWebScheme u.scheme)) q)
    fragment := fragment.map fun f => String.ofList (Percent.encode isKeptInFragment f) }

/-- The path of a text after an authority. -/
def rootedPath (scheme : String) (text : List Char) : UrlPath :=
  let isWeb := isWebScheme scheme
  let segments (t : List Char) : UrlPath := .rooted ((Path.segments isWeb (scheme == "file") t).map String.ofList)
  match text with
  | '/' :: rest => segments rest
  | '\\' :: rest => segments (if isWeb then rest else text)
  | [] => if isWeb then segments [] else .rooted []
  | _ => segments text

/-- Reads what follows the two slashes of an authority. -/
def parseAuthority (scheme : String) (text : List Char) : Except UrlError Url := do
  let isWeb := isWebScheme scheme
  let authority := text.takeWhile fun c => !endsAuthority isWeb c
  let tail := text.dropWhile fun c => !endsAuthority isWeb c
  let hostAndPort := (authority.reverse.takeWhile (· != '@')).reverse
  let user := authority.take (authority.length - hostAndPort.length - 1)
  if user.isEmpty && authority.head? = some '@' && hostAndPort.isEmpty && !tail.isEmpty then
    throw UrlError.emptyHost
  let (username, password) := parseUser user
  let (name, afterHost) := cutHost false hostAndPort
  let host ← if isWeb then Host.parse name else Host.parseVerbatim name
  if host = .empty && (!afterHost.isEmpty || username ≠ "" || password ≠ none) then
    throw UrlError.emptyHost
  let (port, afterPort) ← parsePort scheme (afterHost.drop 1)
  return withTail { scheme, username, password, host := some host, port, path := .rooted [] } (rootedPath scheme)
    (afterPort ++ tail)

/-- Reads what follows the scheme of a file.  A drive in the place of the host is part of the path, a drive that begins
the path leaves no host, and `localhost` is no host. -/
def parseFile (text : List Char) : Except UrlError Url := do
  let isSlash (c : Char) : Bool := c == '/' || c == '\\'
  let file (host : Host) (tail : List Char) : Url :=
    let path := match (cutAt '?' (cutAt '#' tail).1).1 with
      | c :: rest => if isSlash c then rest else c :: rest
      | [] => []
    let host := if Path.beginsWithDrive path then .empty else host
    withTail { scheme := "file", host := some host, path := .rooted [] } (rootedPath "file") tail
  match text with
  | c₁ :: c₂ :: rest =>
    if isSlash c₁ && isSlash c₂ then
      let name := rest.takeWhile fun c => !endsAuthority true c
      if name.isEmpty || Path.isDrive name then return file .empty rest
      else
        let host ← Host.parse name
        return file (if host = .domain "localhost" then .empty else host) (rest.dropWhile fun c => !endsAuthority true c)
    else return file .empty text
  | _ => return file .empty text

/-- The URL of a text. -/
def parse (text : List Char) : Except UrlError Url :=
  let clean := (trimBy (fun c => c.toNat ≤ 0x20) text).filter fun c => c != '\t' && c != '\n' && c != '\r'
  match cutScheme? clean with
  | none => .error .relativeWithoutBase
  | some (scheme, rest) =>
    if scheme = "file" then parseFile rest
    else if isWebScheme scheme then parseAuthority scheme (rest.dropWhile fun c => c == '/' || c == '\\')
    else match rest with
      | '/' :: '/' :: authority => parseAuthority scheme authority
      | '/' :: _ => .ok (withTail { scheme, path := .rooted [] } (rootedPath scheme) rest)
      | _ =>
        let rootless (t : List Char) : UrlPath := .rootless (String.ofList (Percent.encode isKeptInRootless t))
        .ok (withTail { scheme, path := .rooted [] } rootless rest)

end Url
end StorageGate
