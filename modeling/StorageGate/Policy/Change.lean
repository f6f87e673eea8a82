import StorageGate.Policy.Signer
/-!
# Changes of a request

A request is changed one step at a time: it is decided, a decision is taken back, its parts are set, or what a signer gave is
put in.  A run goes on with the request that each step leaves behind, whether the step failed or not.
-/
namespace StorageGate
namespace Request

/-- What may be done to a request. -/
inductive Change where
  | sign (url : String)
  | decline (reason : String)
  | undecided
  | setKey (key : String)
  | setBucket (bucket : Option String)
  | setMetadata (metadata : Fields)
  | addMetadata (name value : String)
  /-- Puts in what a signer gave, its URL included. -/
  | apply (signed : SignedUrl)
deriving DecidableEq, Repr

/-- What comes of a change. -/
def attempt (r : Request) : Change → Step
  | .sign url => r.sign url
  | .decline reason => r.decline reason
  | .undecided => .ok r.undecided
  | .setKey key => .ok { r with key }
  | .setBucket bucket => .ok { r with bucket }
  | .setMetadata metadata => .ok { r with metadata }
  | .addMetadata name value => .ok { r with metadata := r.metadata.insert name value }
  | .apply signed => signed.apply r

/-- The request after a change. -/
def after (r : Request) (change : Change) : Request := (r.attempt change).left

/-- The request after changes, one behind the other. -/
def run (r : Request) (changes : List Change) : Request := changes.foldl after r

end Request
end StorageGate
