import StorageGate.Fields
import StorageGate.Text.Quoted
/-!
# Storage requests and their decisions

A request names one action on one object of a bucket.  It is decided at most once: signed with a URL that allows the
action, or declined for a reason.  Only `undecided` takes a decision back; the setters leave it alone.
-/
namespace StorageGate

/-- What may be done to a stored object. -/
inductive Action where
  | get
  | head
  | put
  | delete
  | readAcl
  | writeAcl
deriving DecidableEq, Repr, Inhabited

namespace Action

/-- Every action. -/
def all : List Action := [get, head, put, delete, readAcl, writeAcl]

/-- The name of an action in documents. -/
def name : Action → String
  | get => "GET"
  | head => "HEAD"
  | put => "PUT"
  | delete => "DELETE"
  | readAcl => "ACL_LOOKUP"
  | writeAcl => "ACL_UPDATE"

/-- The action of a name. -/
def ofName? (name : String) : Option Action := all.find? (·.name == name)

/-- The HTTP method that carries an action out. -/
def method : Action → String
  | get | readAcl => "GET"
  | head => "HEAD"
  | put | writeAcl => "PUT"
  | delete => "DELETE"

/-- Whether the action is on the object's access control list and not on the object. -/
def isAcl : Action → Bool
  | readAcl | writeAcl => true
  | _ => false

/-- The text that refuses a name of no action. -/
def unknownMessage (name : String) : String := "Unknown signature type '" ++ name ++ "'"

end Action

/-- Where a request stands. -/
inductive Decision where
  | pending
  /-- Allowed to whoever holds the URL. -/
  | signed (url : String)
  | declined (reason : String)
deriving DecidableEq, Repr, Inhabited

/-- A decision as error texts show it. -/
def Decision.describe : Decision → String
  | .pending => "Pending"
  | .signed url => "Signed \x7b url: " ++ Quoted.write url ++ " \x7d"
  | .declined reason => "Declined \x7b reason: " ++ Quoted.write reason ++ " \x7d"

/-- One action wanted on one object. -/
structure Request where
  action : Action
  key : String
  /-- The bucket, when it is not the default one. -/
  bucket : Option String := none
  metadata : Fields := .empty
  decision : Decision := .pending
deriving DecidableEq, Repr, Inhabited

/-- A request was decided a second time: its key and the decision that stays. -/
structure AlreadyDecided where
  key : String
  decision : Decision
deriving DecidableEq, Repr

/-- The text of the error. -/
def AlreadyDecided.message (e : AlreadyDecided) : String :=
  "Request for '" ++ e.key ++ "' was already decided as " ++ e.decision.describe

namespace Request

/-- The URL of a signed request. -/
def signedUrl? (r : Request) : Option String :=
  match r.decision with
  | .signed url => some url
  | _ => none

/-- The reason of a declined request. -/
def declineReason? (r : Request) : Option String :=
  match r.decision with
  | .declined reason => some reason
  | _ => none

/-- Whether the request is signed. -/
def isSigned (r : Request) : Bool := r.signedUrl?.isSome

/-- What comes of a step on a request: whether it failed, and the request that it leaves behind either way. -/
structure Step where
  result : Except AlreadyDecided Unit
  left : Request

namespace Step

/-- A step that did what it should. -/
def ok (left : Request) : Step := { result := .ok (), left }

/-- A step that failed. -/
def failed (cause : AlreadyDecided) (left : Request) : Step := { result := .error cause, left }

/-- The request that is left if the step did not fail. -/
def done (s : Step) : Except AlreadyDecided Request := s.result.map fun () => s.left

@[simp] theorem done_ok (left : Request) : (ok left).done = .ok left := rfl

@[simp] theorem done_failed (cause : AlreadyDecided) (left : Request) : (failed cause left).done = .error cause := rfl

end Step

/-- Decides a pending request. -/
def settle (r : Request) (decision : Decision) : Step :=
  match r.decision with
  | .pending => .ok { r with decision }
  | made => .failed { key := r.key, decision := made } r

theorem settle_of_pending {r : Request} (h : r.decision = .pending) (decision : Decision) :
    r.settle decision = .ok { r with decision } := by
  rw [settle, h]

theorem settle_of_ne_pending {r : Request} (h : r.decision ≠ .pending) (decision : Decision) :
    r.settle decision = .failed { key := r.key, decision := r.decision } r := by
  unfold settle
  split
  · exact absurd ‹_› h
  · rfl

/-- Signs a pending request. -/
def sign (r : Request) (url : String) : Step := r.settle (.signed url)

/-- Declines a pending request. -/
def decline (r : Request) (reason : String) : Step := r.settle (.declined reason)

/-- The request without its decision. -/
def undecided (r : Request) : Request := { r with decision := .pending }

end Request
end StorageGate
