import StorageGate.Proofs.Gate.Calls
/-!
# What becomes of requests

A batch that is decided has each of its requests in its place, declined, or signed with what the signer makes of it
(`DecidesAll.forall₂`).  So has its answer, unless a fault leaves them all undecided (`Makes.forall₂_answered`).  What a
storage signer makes is known (`StorageSigner.admits`).
-/
namespace StorageGate

/-- What becomes of a request: it is declined, or signed with something that the signer makes of it. -/
inductive Decided (Made : Request → SignedUrl → Prop) (r : Request) : Request → Prop
  | declined (reason : String) : Decided Made r { r with decision := .declined reason }
  | signed {u : SignedUrl} (made : Made r.undecided u) : Decided Made r { u.amend r with decision := .signed u.url }

/-- A batch that is decided has every request decided in its place. -/
theorem DecidesAll.forall₂ {e : Exchange} {requests : List Request} {calls : List PolicyCall}
    {result : Except ErrorCode (List Request)} (h : DecidesAll e requests calls result) {Made : Request → SignedUrl → Prop}
    (hmade : ∀ r u, .sign e r (.ok u) ∈ calls → Made r u) :
    ∀ decided, result = .ok decided → List.Forall₂ (Decided Made) requests decided := by
  induction h with
  | done =>
    intro decided hok
    cases hok
    exact .nil
  | stopped one => exact fun decided hok => by cases hok
  | @next r d rest calls others result one all ih =>
    intro decided hok
    have hone : Decided Made r d := by
      cases one with
      | refused reason => exact .declined _
      | signed u => exact .signed (hmade _ u (by simp))
    cases result with
    | error code => cases hok
    | ok ds =>
      cases hok
      exact .cons hone (ih (fun r u hc => hmade r u (List.mem_append_right _ hc)) ds rfl)

/-- **Each request of an answer is decided, or undecided after a fault.** -/
theorem Makes.forall₂_answered {e : Exchange} {calls : List PolicyCall} {result : Except ErrorCode Body}
    (h : Makes e calls result) {requests : List Request} (hbody : e.message.body = .signing requests)
    {Made : Request → SignedUrl → Prop} (hmade : ∀ r u, .sign e r (.ok u) ∈ calls → Made r u) :
    ∃ answered, (e.answered result).body = .signing answered ∧
      List.Forall₂ (fun r d => d = r.undecided ∨ Decided Made r d) requests answered := by
  obtain ⟨decided, hall, rfl⟩ := h.of_signing hbody
  cases decided with
  | error code =>
    have hfaulted : (e.message.faulted code).body = .signing (requests.map Request.undecided) := by
      rw [Message.faulted, hbody]
      rfl
    exact ⟨_, hfaulted, List.forall₂_map_right_iff.2 (List.forall₂_same.2 fun r _ => .inl rfl)⟩
  | ok answered => exact ⟨answered, rfl, (hall.forall₂ hmade answered rfl).imp fun r d hd => .inr hd⟩

theorem StorageSigner.signature_eq {p : Policy Id} {s : StorageSigner} (hs : p.signer = s.signer) (e : Exchange)
    (r : Request) : p.signature e r = (s.signedUrl e r.undecided).mapError .storage := by
  rw [Policy.signature, hs]
  rfl

/-- The calls that a policy makes whose signer signs with an account: its signatures are those of the account. -/
def StorageSigner.Makes (s : StorageSigner) : PolicyCall → Prop
  | .sign e r (.ok u) => s.signedUrl e r = .ok u
  | _ => True

theorem StorageSigner.admits {m : Type → Type} [Monad m] [LawfulMonad m] (s : StorageSigner) (authorizer : Authorizer m)
    (lister : BucketLister m) (transactionIds : TransactionIds m) :
    Policy.Admits { authorizer, signer := s.signer, lister, transactionIds } s.Makes where
  transactionId _ := .trivial
  authorize _ _ := .trivial
  authorizeListing _ := .trivial
  sign e r := .pure (by
    cases hs : s.signedUrl e r with
    | error cause => trivial
    | ok u => exact hs)
  list _ := .trivial

end StorageGate
