import StorageGate.Exchange
import StorageGate.Storage.Listing
import StorageGate.Storage.Signature
/-!
# Listers

A lister makes the listing that a caller may see.  The storage lister asks the service for page after page, through
presigned URLs, until a page is the last one or it has as many objects as it returns.
-/
namespace StorageGate

/-- Why an allowed listing is not made. -/
inductive ListingFailure where
  | storage (cause : ListingError)
  | unavailable (reason : String)
deriving DecidableEq, Repr

/-- The text of the failure. -/
def ListingFailure.message : ListingFailure → String
  | storage cause => cause.message
  | unavailable reason => "Listing unavailable: " ++ reason

/-- Makes the listing of an exchange. -/
structure BucketLister (m : Type → Type) where
  list : Exchange → m (Except ListingFailure (List ListedObject))

/-- The application property with which a client narrows a listing. -/
def prefixProperty : String := "prefix"

/-- The objects in a listing if nothing else is set. -/
def defaultMaxKeys : Nat := 1000

/-- Lists the bucket of one account. -/
structure StorageLister where
  credentials : Credentials
  /-- How every key of a listing starts. -/
  lead : Option String := none
  /-- How many objects a listing has at most. -/
  maxKeys : Nat := defaultMaxKeys
deriving DecidableEq

/-- A listing as it went: what was asked for, in order, and what came of it. -/
structure ListingRun where
  requests : List Presign
  outcome : Except ListingError (List ListedObject)

namespace StorageLister

/-- How the keys of a listing start: as configured and then as the client asks, if either is given. -/
def leadFor (l : StorageLister) (message : Message) : Option String :=
  match l.lead, message.application? prefixProperty with
  | none, none => none
  | configured, requested => some (configured.getD "" ++ requested.getD "")

/-- The page of an answer.  What is neither a page nor an error of the service, under a status of failure, is reported by
that status. -/
def readPage (answer : Http.Response) : Except ListingError Page :=
  match Page.parse (Utf8.decodeLossy answer.body) with
  | .ok page => .ok page
  | .error cause =>
    .error (if (cause = .noListing ∨ cause = .malformedListing) ∧ !Http.isSuccess answer.status then
      .refused answer.status else cause)

/-- How many objects are wanted beyond those that were received.  They are counted in 32 bits. -/
def remaining (l : StorageLister) (received : Nat) : Nat := l.maxKeys - received % size32

/-- The run from the page with a token on, after the objects that were received, against the answers that are to come. -/
def runFrom (l : StorageLister) (now : Instant) (lead token : Option String) (received : List ListedObject)
    (answers : List Http.Response) : ListingRun :=
  let remaining := l.remaining received.length
  if remaining = 0 then { requests := [], outcome := .ok (received.take l.maxKeys) }
  else
    let request := Presign.list now lead token (some remaining)
    match l.credentials.presign request with
    | .error cause => { requests := [], outcome := .error (.signing cause) }
    | .ok _ =>
      match answers with
      | [] => { requests := [request], outcome := .error .noAnswer }
      | answer :: rest =>
        match readPage answer with
        | .error cause => { requests := [request], outcome := .error cause }
        | .ok page =>
          let received := received ++ page.objects
          match page.next? with
          | none => { requests := [request], outcome := .ok (received.take l.maxKeys) }
          | some next =>
            let run := runFrom l now lead (some next) received rest
            { run with requests := request :: run.requests }

/-- The run of an exchange. -/
def run (l : StorageLister) (e : Exchange) : ListingRun :=
  l.runFrom e.moment.now (l.leadFor e.message) none [] e.moment.answers

/-- The lister of the account. -/
def lister {m : Type → Type} [Monad m] (l : StorageLister) : BucketLister m where
  list e := pure ((l.run e).outcome.mapError .storage)

end StorageLister
end StorageGate
