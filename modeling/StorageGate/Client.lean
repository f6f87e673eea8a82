import StorageGate.Client.Batch
import StorageGate.Client.Transport
import StorageGate.Document.Message
import StorageGate.Policy
/-!
# Clients

A client makes a message of its batch, gets it answered, and checks the answer against the batch: no error code, one
request for each operation, and every one of them signed.  Anything else rejects the batch as a whole.  A client with
credentials of its own answers its batches itself.
-/
namespace StorageGate

/-- Why a client does not get what it asks for. -/
inductive ClientError where
  | transport (cause : TransportError)
  | malformed (cause : DocumentError)
  /-- The answer does not fit what was sent. -/
  | mismatch (sent received : Nat)
  /-- The answer has an error code. -/
  | faulted (code : String)
  | rejected (reason : String)
  | missingTransactionId
  | selfSigning (cause : SigningFailure)
  | listingUnavailable
deriving DecidableEq, Repr

/-- The text of the error. -/
def ClientError.message : ClientError → String
  | transport cause => cause.message
  | malformed cause => "Malformed gatekeeper response: " ++ cause.message
  | mismatch sent received =>
    "Gatekeeper answered " ++ toString received ++ " requests for " ++ toString sent ++ " sent"
  | faulted code => "Gatekeeper reported error code " ++ code
  | rejected reason => "Batch rejected: " ++ reason
  | missingTransactionId => "Derived object requires the transaction id of its primary batch"
  | selfSigning cause => "Self-authorization failed: " ++ cause.message
  | listingUnavailable => "Bucket listing requires a remote gatekeeper"

/-! ## Checking an answer -/

/-- The reason given for a request on which the answer says nothing. -/
def undecidedReason : String := "Request was neither signed nor declined"

/-- The grant that a request of an answer gives for an operation, or the reason why not. -/
def Operation.grant (o : Operation) (r : Request) : Except String Grant :=
  match r.decision with
  | .signed url => .ok { action := o.action, url, key := r.key, bucket := r.bucket.or o.bucket, metadata := r.metadata }
  | .declined reason => .error reason
  | .pending => .error undecidedReason

/-- The grants that an answer gives for operations. -/
def Granted.ofAnswer (operations : List Operation) (answer : Message) : Except ClientError Granted :=
  match answer.errorCode? with
  | some code => .error (.faulted code)
  | none =>
    match answer.body with
    | .listing objects => .error (.mismatch operations.length objects.length)
    | .signing requests =>
      if requests.length ≠ operations.length then .error (.mismatch operations.length requests.length)
      else match (operations.zip requests).mapM fun p => p.1.grant p.2 with
        | .error reason => .error (.rejected reason)
        | .ok grants => .ok { transactionId := answer.transactionId?, grants }

/-- The objects of an answer to a listing. -/
def objectsOfAnswer (answer : Message) : Except ClientError (List ListedObject) :=
  match answer.errorCode? with
  | some code => .error (.faulted code)
  | none =>
    match answer.body with
    | .listing objects => .ok objects
    | .signing requests => .error (.mismatch 0 requests.length)

/-! ## Getting an answer -/

/-- The seconds for which a client's own URLs are good. -/
def ownWindow : Nat := 24 * 60 * 60

/-- Signs requests in order with a signer of the client's own. -/
def StorageSigner.signAll (s : StorageSigner) (e : Exchange) : List Request → Except ClientError (List Request)
  | [] => .ok []
  | r :: rest => do
    let signed ← (s.signedUrl e r).mapError fun cause => .selfSigning (.storage cause)
    let r ← (signed.apply r).done.mapError fun decided => .rejected decided.message
    return r :: (← s.signAll e rest)

/-- The answer that the holder of credentials gives itself. -/
def Credentials.answer (credentials : Credentials) (moment : Moment) (message : Message) :
    Except ClientError Message := do
  let e : Exchange := { message, moment }
  let e := e.withTransactionId (e.transactionId?.getD moment.freshId)
  match e.message.body with
  | .listing _ => return e.message.withBody (.signing [])
  | .signing requests =>
    let signer : StorageSigner := { credentials, expiresIn := ownWindow }
    return e.message.withBody (.signing (← signer.signAll e requests))

/-- The answer that comes back over a transport. -/
def Transport.answer {m : Type → Type} [Monad m] (t : Transport m) (message : Message) :
    m (Except ClientError Message) := do
  match ← t.exchange message.encode with
  | .error cause => return .error (.transport cause)
  | .ok document => return (Message.decode document).mapError .malformed

/-- Where a client gets its answers. -/
inductive Client (m : Type → Type) where
  /-- From itself. -/
  | own (credentials : Credentials)
  | remote (transport : Transport m)

namespace Client

variable {m : Type → Type}

/-- A client as messages show it. -/
def describe : Client m → String
  | own credentials => "SelfAuthorize(" ++ credentials.describe ++ ")"
  | remote _ => "Remote(..)"

variable [Monad m]

/-- The answer to a message. -/
def answer (client : Client m) (moment : Moment) (message : Message) : m (Except ClientError Message) :=
  match client with
  | own credentials => return credentials.answer moment message
  | remote transport => transport.answer message

/-- The grants for a batch. -/
def grants (client : Client m) (moment : Moment) (batch : Batch) : m (Except ClientError Granted) := do
  return (← client.answer moment batch.toMessage).bind (Granted.ofAnswer batch.operations)

/-- The grant for one object made from those of a granted batch, in the transaction of that batch. -/
def derivedGrants (client : Client m) (moment : Moment) (primary : Granted) (operation : Operation) :
    m (Except ClientError Granted) :=
  match primary.transactionId with
  | none => return .error .missingTransactionId
  | some id => do
    let operation := { operation with metadata := operation.metadata.insert manifestMetadata "true" }
    let batch : Batch := { operations := [operation] }
    let message := batch.toMessage.withProperty transactionIdProperty id
    return (← client.answer moment message).bind (Granted.ofAnswer batch.operations)

/-- The objects that the client may see. -/
def objects (client : Client m) (application : Fields) : m (Except ClientError (List ListedObject)) :=
  match client with
  | own _ => return .error .listingUnavailable
  | remote transport => do
    let message : Message := { application, body := .listing [] }
    return (← transport.answer (message.withApplication clientVersionProperty clientVersion)).bind objectsOfAnswer

end Client
end StorageGate
