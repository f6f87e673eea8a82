import StorageGate.Http.Message
import StorageGate.Http.Status
import StorageGate.Url.Parse
/-!
# Transports

A transport carries a document to a gate and brings back the document that answers it.  Over HTTP an answer is a document
if its status says so or its type does; a refusal of the client is told apart from other failures.
-/
namespace StorageGate

/-- Why no document came back. -/
inductive TransportError where
  | request (reason : String)
  | unauthorized
  | status (code : Nat)
deriving DecidableEq, Repr

/-- The text of the error. -/
def TransportError.message : TransportError → String
  | request reason => "Gatekeeper request failed: " ++ reason
  | unauthorized => "Gatekeeper rejected the client's credentials"
  | status code => "Gatekeeper responded with HTTP " ++ toString code ++ " and no document"

/-- Carries a document to a gate. -/
structure Transport (m : Type → Type) where
  exchange : String → m (Except TransportError String)

/-- Where and how a gate is reached over HTTP. -/
structure HttpTransport where
  endpoint : String := "http://localhost:8080/gatekeeper"
  /-- A token to be shown to the gate. -/
  bearer : Option String := none
  headers : List (String × String) := []
deriving DecidableEq, Repr

namespace HttpTransport

/-- Whether a character may stand in the name of a header. -/
def isNameChar (c : Char) : Bool :=
  c.isAlphanum || "!#$%&'*+-.^_|~".toList.contains c || c.toNat == 0x60

/-- Whether a header can be sent: its name is a token and its value holds no control but tabs. -/
def isSendable (h : String × String) : Bool :=
  !h.1.isEmpty && h.1.toList.all isNameChar
    && h.2.toList.all fun c => 0x20 ≤ c.toNat && c.toNat ≠ 0x7F || c == '\t'

/-- The endpoint, if it can be reached: a URL with a host, over HTTP. -/
def url? (t : HttpTransport) : Option Url :=
  match Url.parse t.endpoint.toList with
  | .ok url => if url.hostText?.isSome && (url.scheme == "http" || url.scheme == "https") then some url else none
  | .error _ => none

/-- All headers of a request. -/
def allHeaders (t : HttpTransport) : List (String × String) :=
  ("content-type", Http.documentType) :: (t.bearer.map fun b => ("authorization", "Bearer " ++ b)).toList
    ++ t.headers.map fun h => (Http.lowerName h.1, h.2)

/-- The request that carries a document, if it can be made. -/
def request? (t : HttpTransport) (document : String) : Option Http.Request :=
  match t.url? with
  | none => none
  | some url =>
    if t.allHeaders.all isSendable then
      some { target := url.toText
             headers := t.allHeaders.map fun h => (h.1, Utf8.encode h.2.toList)
             body := Utf8.encode document.toList }
    else none

/-- Whether a response says that it carries a document. -/
def carriesDocument (response : Http.Response) : Bool :=
  match response.contentType with
  | some type =>
    (Utf8.encode type.toList).all Http.isTextByte && Http.documentType.toList.isPrefixOf type.toList
  | none => false

/-- The document of a response. -/
def read (response : Http.Response) : Except TransportError String :=
  if response.status = 401 ∨ response.status = 403 then .error .unauthorized
  else if Http.isSuccess response.status || carriesDocument response then
    .ok (String.ofList (Utf8.decodeLossy response.body))
  else .error (.status response.status)

/-- The transport, over a way to send requests that may bring no response. -/
def transport {m : Type → Type} [Monad m] (t : HttpTransport) (send : Http.Request → m (Option Http.Response)) :
    Transport m where
  exchange document :=
    match t.request? document with
    | none => return .error (.request "the request cannot be made")
    | some request => do
      match ← send request with
      | none => return .error (.request "no answer")
      | some response => return read response

end HttpTransport
end StorageGate
