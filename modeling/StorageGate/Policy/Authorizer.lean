import StorageGate.Exchange
/-!
# Authorizers

An authorizer decides which requests may be signed and whether a listing may be made.  It is asked once for each and its
refusal is final.
-/
namespace StorageGate

/-- What an authorizer says. -/
inductive Verdict where
  | allow
  | deny (reason : Option String)
deriving DecidableEq, Repr, Inhabited

/-- Decides on the requests and the listing of an exchange. -/
structure Authorizer (m : Type → Type) where
  request : Exchange → Request → m Verdict
  listing : Exchange → m Verdict

/-- Allows everything. -/
def allowAll {m : Type → Type} [Monad m] : Authorizer m where
  request _ _ := pure .allow
  listing _ := pure .allow

/-- Refuses everything. -/
def denyAll {m : Type → Type} [Monad m] (reason : Option String) : Authorizer m where
  request _ _ := pure (.deny reason)
  listing _ := pure (.deny reason)

/-- Allows keys that start in certain ways. -/
structure KeyRules where
  /-- How an allowed key may start. -/
  prefixes : List String := []
  /-- The buckets that may be named; if there are none, any. -/
  buckets : List String := []
  allowsListing : Bool := false
deriving DecidableEq, Repr, Inhabited

namespace KeyRules

/-- The verdict on a request.  A request without a bucket is judged by its key alone. -/
def judge (rules : KeyRules) (r : Request) : Verdict :=
  if rules.prefixes.any fun p => p.toList.isPrefixOf r.key.toList then
    match r.bucket with
    | none => .allow
    | some bucket =>
      if rules.buckets.isEmpty || rules.buckets.contains bucket then .allow
      else .deny (some ("Bucket " ++ bucket ++ " is not permitted"))
  else .deny (some ("Key " ++ r.key ++ " is outside the permitted prefixes"))

/-- The authorizer that judges by the rules. -/
def authorizer {m : Type → Type} [Monad m] (rules : KeyRules) : Authorizer m where
  request _ r := pure (rules.judge r)
  listing _ := pure (if rules.allowsListing then .allow else .deny none)

end KeyRules
end StorageGate
