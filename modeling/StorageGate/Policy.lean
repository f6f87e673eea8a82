import StorageGate.Policy.Authorizer
import StorageGate.Policy.Lister
import StorageGate.Policy.Signer
import StorageGate.Policy.TransactionIds
/-!
# Policies

The four components to which a gate leaves every decision, with effects in a monad of their own.  A policy can be watched:
each call of a component is then recorded with its answer.
-/
namespace StorageGate

/-- The components of a gate. -/
structure Policy (m : Type → Type) where
  authorizer : Authorizer m
  signer : UrlSigner m
  lister : BucketLister m
  transactionIds : TransactionIds m

/-- A call of a component: what it is shown, and what it answers. -/
inductive PolicyCall where
  | transactionId (e : Exchange) (id : String)
  | authorize (e : Exchange) (r : Request) (verdict : Verdict)
  | authorizeListing (e : Exchange) (verdict : Verdict)
  | sign (e : Exchange) (r : Request) (result : Except SigningFailure SignedUrl)
  | list (e : Exchange) (result : Except ListingFailure (List ListedObject))

namespace Policy

variable {m : Type → Type} [Monad m]

/-- Makes a call and records it with its answer. -/
def recorded {α : Type} (call : α → PolicyCall) (step : m α) : StateT (List PolicyCall) m α := do
  let answer ← step
  modify (· ++ [call answer])
  return answer

/-- The policy, with its calls recorded in order. -/
def watched (p : Policy m) : Policy (StateT (List PolicyCall) m) where
  authorizer :=
    { request := fun e r => recorded (.authorize e r) (p.authorizer.request e r)
      listing := fun e => recorded (.authorizeListing e) (p.authorizer.listing e) }
  signer := { sign := fun e r => recorded (.sign e r) (p.signer.sign e r) }
  lister := { list := fun e => recorded (.list e) (p.lister.list e) }
  transactionIds := { next := fun e => recorded (.transactionId e) (p.transactionIds.next e) }

end Policy
end StorageGate
