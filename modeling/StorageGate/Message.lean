import StorageGate.Request
/-!
# Messages

What client and gate exchange: application properties, which belong to the client, message properties, which belong to
the protocol, and a body that is either a batch of requests or a bucket listing.  A few names are reserved.
-/
namespace StorageGate

/-- One object of a bucket listing. -/
structure ListedObject where
  key : String
  size : Option UInt64 := none
  lastModified : Option String := none
  etag : Option String := none
deriving DecidableEq, Repr, Inhabited

/-- What a message is about. -/
inductive Body where
  | signing (requests : List Request)
  /-- Empty on the way to the gate. -/
  | listing (objects : List ListedObject)
deriving DecidableEq, Repr

instance : Inhabited Body := ⟨.signing []⟩

/-- The unit of exchange. -/
structure Message where
  application : Fields := .empty
  properties : Fields := .empty
  body : Body := .signing []
deriving DecidableEq, Repr, Inhabited

/-! ## Reserved names -/

/-- The message property with the transaction id. -/
def transactionIdProperty : String := "transactionId"

/-- The application property with the error code of a failed exchange. -/
def errorCodeProperty : String := "gatekeeperErrorCode"

/-- The application property with the version of the client. -/
def clientVersionProperty : String := "clientVersionId"

/-- The application property with the reason an earlier attempt failed. -/
def priorFailureProperty : String := "priorFailureMessage"

/-- The metadata name that marks an object derived from others of its transaction. -/
def manifestMetadata : String := "gatekeeper-manifest"

/-- The metadata name under which an upload carries its transaction id. -/
def transactionIdMetadata : String := "gatekeeper-transaction-id"

namespace Message

/-- Whether the message is about a listing. -/
def isListing (m : Message) : Bool :=
  match m.body with
  | .listing _ => true
  | .signing _ => false

/-- The value of an application property. -/
def application? (m : Message) (name : String) : Option String := m.application.get? name

/-- The transaction id; an empty one counts as none. -/
def transactionId? (m : Message) : Option String :=
  (m.properties.get? transactionIdProperty).filter (· != "")

/-- The error code, if the exchange failed. -/
def errorCode? (m : Message) : Option String := m.application? errorCodeProperty

/-- Sets an application property. -/
def withApplication (m : Message) (name value : String) : Message :=
  { m with application := m.application.insert name value }

/-- Takes an application property out. -/
def withoutApplication (m : Message) (name : String) : Message :=
  { m with application := m.application.erase name }

/-- Sets a message property. -/
def withProperty (m : Message) (name value : String) : Message :=
  { m with properties := m.properties.insert name value }

/-- Replaces the body. -/
def withBody (m : Message) (body : Body) : Message := { m with body }

end Message
end StorageGate
