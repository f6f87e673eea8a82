import StorageGate.Gate
import StorageGate.Gate.Route
import StorageGate.Http.Message
/-!
# The gate over HTTP

One route: documents are posted to its paths, and the body of the response is a document too, whatever its status.  A body
that is too long or no text is answered like one that is no message, and a component that breaks down like any other
fault inside.
-/
namespace StorageGate

/-- A component stopped without a result. -/
structure Breakdown where
deriving DecidableEq, Repr

/-- The header with the authenticated principal. -/
def principalHeader : String := "x-gatekeeper-principal"

/-- The header with the caller's session. -/
def sessionHeader : String := "x-gatekeeper-session"

/-- The most bytes of a document. -/
def maxRequestBytes : Nat := 1024 * 1024

/-- What a request tells of its caller. -/
def Caller.ofRequest (r : Http.Request) : Caller where
  remote := r.remote
  principal := r.header? principalHeader
  userAgent := r.header? "user-agent"
  session := r.header? sessionHeader

/-- The document of a body. -/
def Http.Request.document? (r : Http.Request) : Option String :=
  if maxRequestBytes < r.body.length then none else (Utf8.decode? r.body).map String.ofList

/-- The response with an answer. -/
def Reply.toResponse (reply : Reply) : Http.Response where
  status := reply.status
  contentType := some Http.documentType
  body := Utf8.encode reply.body.toList

/-- A gate at a route. -/
structure Router (m : Type → Type) where
  gate : Gate m
  route : Route := .ofPath "/gatekeeper"

namespace Router

variable {m : Type → Type} [Monad m] [MonadExceptOf Breakdown m]

/-- Answers the posted document. -/
def answer (router : Router m) (moment : Moment) (r : Http.Request) : m Reply :=
  match r.document? with
  | none => return .ofError .malformedMessage
  | some document =>
    tryCatchThe Breakdown (router.gate.handle moment (Caller.ofRequest r) document)
      fun _ => return .ofError .internalError

/-- Responds to a request. -/
def respond (router : Router m) (moment : Moment) (r : Http.Request) : m Http.Response :=
  if !router.route.accepts r.path then return { status := 404 }
  else if r.method ≠ "POST" then return { status := 405, allow := some "POST" }
  else return (← router.answer moment r).toResponse

end Router
end StorageGate
