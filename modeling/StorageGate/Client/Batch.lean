import StorageGate.Message
import StorageGate.Storage.Presign
/-!
# Batches

What a client wants to do, as a list of operations authorized together or not at all, and what it gets: for each operation
a URL and the object as it was finally determined.
-/
namespace StorageGate

/-- What a client calls itself. -/
def clientVersion : String := "gatekeeper-client/0.1.0"

/-- One wanted operation on one object. -/
structure Operation where
  action : Action
  key : String
  bucket : Option String := none
  metadata : Fields := .empty
deriving DecidableEq, Repr, Inhabited

/-- The request for an operation. -/
def Operation.toRequest (o : Operation) : Request where
  action := o.action
  key := o.key
  bucket := o.bucket
  metadata := o.metadata

/-- Operations that are authorized together. -/
structure Batch where
  operations : List Operation := []
  application : Fields := .empty
  /-- Why the last attempt failed. -/
  priorFailure : Option String := none
deriving DecidableEq, Repr, Inhabited

/-- The message that asks for a batch.  What the client says of itself takes the place of properties of those names. -/
def Batch.toMessage (b : Batch) : Message :=
  let m : Message := { application := b.application, body := .signing (b.operations.map Operation.toRequest) }
  let m := m.withApplication clientVersionProperty clientVersion
  match b.priorFailure with
  | some failure => m.withApplication priorFailureProperty failure
  | none => m

/-- The leave to carry one operation out. -/
structure Grant where
  action : Action
  url : String
  key : String
  bucket : Option String
  metadata : Fields
deriving DecidableEq, Repr

/-- The headers that the operation must carry for its URL to be good. -/
def Grant.headers (g : Grant) : Except SigningError (List (String × String)) :=
  match g.action with
  | .put | .writeAcl => metadataHeaders g.metadata
  | .get | .head | .delete | .readAcl => .ok []

/-- What an accepted batch gives: one grant for each operation, in order. -/
structure Granted where
  transactionId : Option String
  grants : List Grant
deriving DecidableEq, Repr

end StorageGate
