import StorageGate.Config.Registry
import StorageGate.Document.Message
/-!
# The gate

Each exchange runs one way.  The message gets its transaction id; a listing is authorized and made; or every request, in
order and with whatever decision it came with taken back, is authorized and then signed or declined.  A fault stops the
exchange: the answer then has the error code and no decision at all.  A gate without a policy faults at once.
-/
namespace StorageGate

/-- The faults of an exchange. -/
inductive ErrorCode where
  | malformedMessage
  | initialization
  | signingFailure
  | listingFailure
  | internalError
deriving DecidableEq, Repr, Inhabited

namespace ErrorCode

/-- Every code. -/
def all : List ErrorCode := [malformedMessage, initialization, signingFailure, listingFailure, internalError]

/-- The name of a code in messages. -/
def name : ErrorCode → String
  | malformedMessage => "MalformedMessage"
  | initialization => "GatekeeperInitializationError"
  | signingFailure => "SigningFailure"
  | listingFailure => "ListingFailure"
  | internalError => "InternalError"

/-- The HTTP status that an answer with a code is sent with. -/
def status : ErrorCode → Nat
  | malformedMessage => 400
  | initialization => 200
  | signingFailure | listingFailure | internalError => 500

/-- The code of a name. -/
def ofName? (name : String) : Option ErrorCode := all.find? (·.name == name)

/-- The text that refuses a name of no code. -/
def unknownMessage (name : String) : String := "Unknown gatekeeper error code '" ++ name ++ "'"

end ErrorCode

/-- An answer: its status and its document. -/
structure Reply where
  status : Nat
  body : String
deriving DecidableEq, Repr, Inhabited

namespace Reply

/-- The answer that a message makes.  A known error code gives the status. -/
def ofMessage (m : Message) : Reply where
  status := ((m.errorCode?.bind ErrorCode.ofName?).map ErrorCode.status).getD 200
  body := m.encode

/-- The answer where there is no message to answer. -/
def ofError (code : ErrorCode) : Reply :=
  ofMessage (Message.withApplication {} errorCodeProperty code.name)

end Reply

/-- A gate: with a policy, or with the reason why it has none. -/
inductive Gate (m : Type → Type) where
  | ready (policy : Policy m)
  | failed (cause : InitializationError)

/-- The reason of a refusal for which none is given. -/
def unknownReason : String := "Unknown"

namespace Message

/-- The message as the exchange leaves it after a fault: no decision, no listed object, and the error code. -/
def faulted (m : Message) (code : ErrorCode) : Message :=
  let body := match m.body with
    | .signing requests => Body.signing (requests.map Request.undecided)
    | .listing _ => .listing []
  (m.withBody body).withApplication errorCodeProperty code.name

end Message

namespace Policy

variable {m : Type → Type} [Monad m]

/-- Decides one request. -/
def decideOne (p : Policy m) (e : Exchange) (r : Request) : m (Except ErrorCode Request) := do
  let r := r.undecided
  match ← p.authorizer.request e r with
  | .deny reason => return (r.decline (reason.getD unknownReason)).done.mapError fun _ => .internalError
  | .allow =>
    match ← p.signer.sign e r with
    | .error _ => return .error .signingFailure
    | .ok signed => return (signed.apply r).done.mapError fun _ => .internalError

/-- Decides requests in order, up to the first fault. -/
def decideAll (p : Policy m) (e : Exchange) : List Request → m (Except ErrorCode (List Request))
  | [] => return .ok []
  | r :: rest => do
    match ← p.decideOne e r with
    | .error code => return .error code
    | .ok decided =>
      match ← p.decideAll e rest with
      | .error code => return .error code
      | .ok others => return .ok (decided :: others)

/-- Makes the listing; one that is refused is empty. -/
def listing (p : Policy m) (e : Exchange) : m (Except ErrorCode (List ListedObject)) := do
  match ← p.authorizer.listing e with
  | .deny _ => return .ok []
  | .allow =>
    match ← p.lister.list e with
    | .error _ => return .error .listingFailure
    | .ok objects => return .ok objects

/-- The body of the answer. -/
def outcome (p : Policy m) (e : Exchange) : m (Except ErrorCode Body) :=
  match e.message.body with
  | .listing _ => do return (← p.listing e).map .listing
  | .signing requests => do return (← p.decideAll e requests).map .signing

/-- Runs an exchange. -/
def run (p : Policy m) (e : Exchange) : m Message := do
  let e := e.withTransactionId (← p.transactionIds.next e)
  match ← p.outcome e with
  | .ok body => return e.message.withBody body
  | .error code => return e.message.faulted code

end Policy

namespace Gate

variable {m : Type → Type} [Monad m]

/-- The gate of a configuration. -/
def ofConfig (registry : Registry m) (config : Config) : Gate m :=
  match registry.resolve config with
  | .ok policy => ready policy
  | .error cause => failed cause

/-- Why the gate has no policy. -/
def initializationError? : Gate m → Option InitializationError
  | ready _ => none
  | failed cause => some cause

/-- Answers a message.  An error code that the client put in is dropped first. -/
def process (g : Gate m) (moment : Moment) (caller : Caller) (inbound : Message) : m Message :=
  let e : Exchange := { message := inbound.withoutApplication errorCodeProperty, caller, moment }
  match g with
  | ready policy => policy.run e
  | failed _ => do
    let e := e.withTransactionId (← TransactionIds.ulids.next e)
    return e.message.faulted .initialization

/-- Answers a document. -/
def handle (g : Gate m) (moment : Moment) (caller : Caller) (document : String) : m Reply :=
  match Message.decode document with
  | .error _ => return .ofError .malformedMessage
  | .ok inbound => return .ofMessage (← g.process moment caller inbound)

end Gate
end StorageGate
