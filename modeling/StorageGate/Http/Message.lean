import StorageGate.SocketAddress
import StorageGate.Text.Utf8
/-!
# HTTP messages

Requests and responses, as far as this library sends, serves and reads them.  Names of headers are compared without
regard to case, and of several headers of a name the first counts.
-/
namespace StorageGate
namespace Http

/-- The type of documents. -/
def documentType : String := "application/x-www-form-urlencoded"

/-- A request. -/
structure Request where
  method : String := "POST"
  /-- A path with its query, or an absolute URL. -/
  target : String
  headers : List (String × List UInt8) := []
  /-- The other end of the connection. -/
  remote : Option SocketAddress := none
  body : List UInt8 := []
deriving DecidableEq, Repr

/-- A response. -/
structure Response where
  status : Nat := 200
  contentType : Option String := none
  /-- The methods that would be allowed. -/
  allow : Option String := none
  body : List UInt8 := []
deriving DecidableEq, Repr, Inhabited

/-- A name in lower case. -/
def lowerName (name : String) : String := String.ofList (name.toList.map Char.toLower)

/-- Whether a byte of a header is text: visible ASCII, a space or a tab. -/
def isTextByte (b : UInt8) : Bool := 0x20 ≤ b && b < 0x7F || b == 0x09

/-- The first header of a name, if it is text and not empty. -/
def Request.header? (r : Request) (name : String) : Option String :=
  match r.headers.find? (lowerName ·.1 == name) with
  | none => none
  | some (_, value) =>
    if value.isEmpty || !value.all isTextByte then none
    else some (String.ofList (value.map fun b => Char.ofNat b.toNat))

/-- What follows the scheme and the authority of an absolute URL. -/
def afterAuthority (target : List Char) : List Char :=
  match target.dropWhile (· != ':') with
  | ':' :: '/' :: '/' :: rest => rest.dropWhile fun c => c != '/' && c != '?' && c != '#'
  | _ => target

/-- The path of the target, without its query. -/
def Request.path (r : Request) : String :=
  let cs := r.target.toList
  let path := (if cs.head? = some '/' then cs else afterAuthority cs).takeWhile fun c => c != '?' && c != '#'
  if path.isEmpty then "/" else String.ofList path

end Http
end StorageGate
