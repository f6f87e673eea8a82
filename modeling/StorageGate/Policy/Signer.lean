import StorageGate.Exchange
import StorageGate.Storage.Signature
/-!
# Signers

A signer turns an allowed request into a URL, and may amend the request as it does.  The storage signer presigns URLs
for one account: it names the bucket where the request left it open, and stamps uploads with the transaction id.
-/
namespace StorageGate

/-- Why an allowed request is not signed. -/
inductive SigningFailure where
  | storage (cause : SigningError)
  | unsupported (what : String)
deriving DecidableEq, Repr

/-- The text of the failure. -/
def SigningFailure.message : SigningFailure → String
  | storage cause => cause.message
  | unsupported what => "Unsupported signature request: " ++ what

/-- A signed URL and what the signer changes in the request. -/
structure SignedUrl where
  url : String
  key : Option String := none
  bucket : Option String := none
  metadata : Option Fields := none
deriving DecidableEq, Repr

namespace SignedUrl

/-- The request with the changes. -/
def amend (u : SignedUrl) (r : Request) : Request :=
  { r with
    key := u.key.getD r.key
    bucket := u.bucket.or r.bucket
    metadata := u.metadata.getD r.metadata }

/-- Signs the request with the changes.  They are made in a copy, which takes the place of the request if it is signed. -/
def apply (u : SignedUrl) (r : Request) : Request.Step :=
  let copy := (u.amend r).sign u.url
  match copy.result with
  | .ok () => .ok copy.left
  | .error cause => .failed cause r

theorem apply_of_pending (u : SignedUrl) {r : Request} (h : r.decision = .pending) :
    u.apply r = .ok { u.amend r with decision := .signed u.url } := by
  have hpending : (u.amend r).decision = .pending := h
  rw [apply, Request.sign, Request.settle_of_pending hpending]
  rfl

/-- The request is named as the signer would have it. -/
theorem apply_of_ne_pending (u : SignedUrl) {r : Request} (h : r.decision ≠ .pending) :
    u.apply r = .failed { key := (u.amend r).key, decision := r.decision } r := by
  have hdecided : (u.amend r).decision ≠ .pending := h
  rw [apply, Request.sign, Request.settle_of_ne_pending hdecided]
  rfl

end SignedUrl

/-- Signs the requests of an exchange. -/
structure UrlSigner (m : Type → Type) where
  sign : Exchange → Request → m (Except SigningFailure SignedUrl)

/-- The seconds for which a URL is good if nothing else is set. -/
def defaultSignedWindow : Nat := 300

/-- Presigns URLs for one account. -/
structure StorageSigner where
  credentials : Credentials
  /-- The seconds for which a URL is good. -/
  expiresIn : Nat := defaultSignedWindow
deriving DecidableEq

namespace StorageSigner

/-- The metadata that is signed into the URL: for an upload the request's own and the transaction id, for a change of
access rights the request's own. -/
def signedMetadata? (e : Exchange) (r : Request) : Option Fields :=
  match r.action with
  | .put =>
    some (match e.transactionId? with
      | some id => r.metadata.insert transactionIdMetadata id
      | none => r.metadata)
  | .writeAcl => some r.metadata
  | .get | .head | .delete | .readAcl => none

/-- The bucket of the URL. -/
def bucketOf (s : StorageSigner) (r : Request) : String := r.bucket.getD s.credentials.bucket

/-- What is presigned for a request. -/
def presignFor (s : StorageSigner) (e : Exchange) (r : Request) : Except SigningError Presign := do
  let p : Presign :=
    { method := r.action.method, bucket := some (s.bucketOf r), key := r.key, time := e.moment.now }
  let p ← p.expiresAt (e.moment.now.after s.expiresIn)
  let p := if r.action.isAcl then p.withParam "acl" "" else p
  match signedMetadata? e r with
  | some metadata => p.withMetadata metadata
  | none => return p

/-- The signed URL for a request. -/
def signedUrl (s : StorageSigner) (e : Exchange) (r : Request) : Except SigningError SignedUrl := do
  let url ← s.credentials.presign (← s.presignFor e r)
  return { url := url.toText
           bucket := if r.bucket.isNone then some (s.bucketOf r) else none
           metadata := (signedMetadata? e r).filter (· ≠ r.metadata) }

/-- The signer of the account. -/
def signer {m : Type → Type} [Monad m] (s : StorageSigner) : UrlSigner m where
  sign e r := pure ((s.signedUrl e r).mapError .storage)

end StorageSigner
end StorageGate
