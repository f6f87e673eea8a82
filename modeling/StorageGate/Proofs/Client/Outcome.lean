import StorageGate.Proofs.Client.Direct
/-!
# What becomes of a batch

A batch goes one of three ways, in this order: it fails because a signature fails, it is rejected for its first refused
request, or every operation is granted.  Nothing else comes of it, since the text it travels in keeps it whole.
-/
namespace StorageGate

variable {p : Policy Id} {batch : Batch}

theorem grant_of_settle {e : Exchange} {o : Operation} {r : Request} (h : p.settle e o.toRequest = .ok r) :
    (∃ reason, p.verdict e o.toRequest = .deny reason ∧ o.grant r = .error (reason.getD unknownReason)) ∨
    (p.verdict e o.toRequest = .allow ∧ ∃ u, p.signature e o.toRequest = .ok u ∧ o.grant r = .ok (u.grant o)) := by
  rcases Policy.settle_eq_ok h with ⟨reason, hv, rfl⟩ | ⟨hv, u, hu, rfl⟩
  · exact .inl ⟨reason, hv, rfl⟩
  · exact .inr ⟨hv, u, hu, o.grant_of_signed u⟩

/-- If no signature fails that is asked for, every request of a batch is decided. -/
theorem exists_decided {moment : Moment} {caller : Caller}
    (hsigned : ∀ o ∈ batch.operations, p.verdict (batch.shown p moment caller) o.toRequest = .allow →
      ∃ u, p.signature (batch.shown p moment caller) o.toRequest = .ok u) :
    ∃ decided, batch.operations.mapM (fun o => p.settle (batch.shown p moment caller) o.toRequest) = .ok decided := by
  exact Traversal.exists_mapM_eq_ok fun o ho => Policy.exists_settle_eq_ok (hsigned o ho)

namespace Client

section Ways

variable (hb : batch.operations.length ≤ size64) (now moment : Moment) (caller : Caller)

include hb

/-- **First, a signature that fails**, at whatever place and whatever is said of the other requests. -/
theorem grants_of_failed_signature {o : Operation} {cause : SigningFailure} (ho : o ∈ batch.operations)
    (hv : p.verdict (batch.shown p moment caller) o.toRequest = .allow)
    (hs : p.signature (batch.shown p moment caller) o.toRequest = .error cause) :
    (Client.remote (Transport.direct (.ready p) moment caller)).grants now batch
      = .error (.faulted ErrorCode.signingFailure.name) := by
  obtain ⟨code, hd⟩ := Traversal.exists_mapM_eq_error
    (f := fun o : Operation => p.settle (batch.shown p moment caller) o.toRequest) ho (Policy.settle_of_error hv hs)
  exact grants_of_unsettled hb now moment caller hd

/-- **Then, the first refusal.** -/
theorem grants_of_refusal {i : Nat} {o : Operation} {reason : Option String}
    (hsigned : ∀ o ∈ batch.operations, p.verdict (batch.shown p moment caller) o.toRequest = .allow →
      ∃ u, p.signature (batch.shown p moment caller) o.toRequest = .ok u)
    (ho : batch.operations[i]? = some o) (hv : p.verdict (batch.shown p moment caller) o.toRequest = .deny reason)
    (hfirst : ∀ j o', j < i → batch.operations[j]? = some o' →
      p.verdict (batch.shown p moment caller) o'.toRequest = .allow) :
    (Client.remote (Transport.direct (.ready p) moment caller)).grants now batch
      = .error (.rejected (reason.getD unknownReason)) := by
  obtain ⟨decided, hd⟩ := exists_decided hsigned
  obtain ⟨r, hr, hri⟩ := (Traversal.getElem?_of_mapM hd).2 i o ho
  have hgrant : o.grant r = .error (reason.getD unknownReason) := by
    rcases grant_of_settle hr with ⟨reason', hv', hg⟩ | ⟨hv', _⟩
    · rw [hv] at hv'
      cases hv'
      exact hg
    · rw [hv] at hv'
      cases hv'
  have hbefore : ∀ j q, j < i → (batch.operations.zip decided)[j]? = some q → ∃ g, q.1.grant q.2 = .ok g := by
    intro j q hj hq
    have ho' := (List.getElem?_zip_eq_some.1 hq).1
    rcases grant_of_settle (Traversal.eq_ok_of_mem_zip hd (List.mem_of_getElem? hq)) with ⟨reason', hv', _⟩ | ⟨_, u, _, hg⟩
    · rw [hfirst j q.1 hj ho'] at hv'
      cases hv'
    · exact ⟨_, hg⟩
  rw [grants_of_settled hb now moment caller hd, Traversal.mapM_eq_error
    (List.getElem?_zip_eq_some.2 ⟨ho, hri⟩ : (batch.operations.zip decided)[i]? = some (o, r)) hgrant hbefore]

/-- **Otherwise, every operation is granted.** -/
theorem grants_of_signed
    (hsigned : ∀ o ∈ batch.operations, p.verdict (batch.shown p moment caller) o.toRequest = .allow ∧
      ∃ u, p.signature (batch.shown p moment caller) o.toRequest = .ok u) :
    ∃ granted, (Client.remote (Transport.direct (.ready p) moment caller)).grants now batch = .ok granted ∧
      granted.transactionId = (batch.shown p moment caller).transactionId? ∧
      granted.grants.length = batch.operations.length ∧
      ∀ (i : Nat) (o : Operation), batch.operations[i]? = some o →
        ∃ u, p.signature (batch.shown p moment caller) o.toRequest = .ok u ∧
          granted.grants[i]? = some (u.grant o) := by
  obtain ⟨decided, hd⟩ := exists_decided fun o ho _ => (hsigned o ho).2
  have hgranted : ∀ q ∈ batch.operations.zip decided, ∃ g, q.1.grant q.2 = .ok g := by
    intro q hq
    rcases grant_of_settle (Traversal.eq_ok_of_mem_zip hd hq) with ⟨reason, hv, _⟩ | ⟨_, u, _, hg⟩
    · rw [(hsigned q.1 (List.of_mem_zip hq).1).1] at hv
      cases hv
    · exact ⟨_, hg⟩
  obtain ⟨grants, hgrants⟩ := Traversal.exists_mapM_eq_ok hgranted
  have hlength : decided.length = batch.operations.length := (Traversal.getElem?_of_mapM hd).1
  refine ⟨{ transactionId := _, grants }, ?_, rfl, ?_, fun i o ho => ?_⟩
  · rw [grants_of_settled hb now moment caller hd, hgrants]
    rfl
  · rw [(Traversal.getElem?_of_mapM hgrants).1, List.length_zip, hlength, Nat.min_self]
  · obtain ⟨r, hr, hri⟩ := (Traversal.getElem?_of_mapM hd).2 i o ho
    obtain ⟨g, hg, hgi⟩ := (Traversal.getElem?_of_mapM hgrants).2 i (o, r) (List.getElem?_zip_eq_some.2 ⟨ho, hri⟩)
    rcases grant_of_settle hr with ⟨reason, hv, _⟩ | ⟨_, u, hu, hg'⟩
    · rw [(hsigned o (List.mem_of_getElem? ho)).1] at hv
      cases hv
    · rw [hg'] at hg
      cases hg
      exact ⟨u, hu, hgi⟩

/-- Whatever is rejected was refused, for that reason. -/
theorem refused_of_rejected {reason : String}
    (h : (Client.remote (Transport.direct (.ready p) moment caller)).grants now batch = .error (.rejected reason)) :
    ∃ o ∈ batch.operations, ∃ given, p.verdict (batch.shown p moment caller) o.toRequest = .deny given ∧
      reason = given.getD unknownReason := by
  cases hd : batch.operations.mapM (fun o => p.settle (batch.shown p moment caller) o.toRequest) with
  | error code => rw [grants_of_unsettled hb now moment caller hd] at h; cases h
  | ok decided =>
    rw [grants_of_settled hb now moment caller hd] at h
    cases hg : (batch.operations.zip decided).mapM fun q => q.1.grant q.2 with
    | ok grants => rw [hg] at h; cases h
    | error reason' =>
      rw [hg] at h
      cases h
      obtain ⟨q, hq, hr⟩ := Traversal.exists_of_mapM_eq_error hg
      have hsettle := Traversal.eq_ok_of_mem_zip hd hq
      rcases grant_of_settle hsettle with ⟨given, hv, hg'⟩ | ⟨_, u, _, hg'⟩
      · rw [hg'] at hr
        cases hr
        exact ⟨q.1, (List.of_mem_zip hq).1, given, hv, rfl⟩
      · rw [hg'] at hr
        cases hr

theorem grants_cases :
    (∃ granted, (Client.remote (Transport.direct (.ready p) moment caller)).grants now batch = .ok granted) ∨
    (∃ reason, (Client.remote (Transport.direct (.ready p) moment caller)).grants now batch
      = .error (.rejected reason)) ∨
    ∃ code, (Client.remote (Transport.direct (.ready p) moment caller)).grants now batch = .error (.faulted code) := by
  cases hd : batch.operations.mapM (fun o => p.settle (batch.shown p moment caller) o.toRequest) with
  | error code => exact .inr (.inr ⟨_, grants_of_unsettled hb now moment caller hd⟩)
  | ok decided =>
    rw [grants_of_settled hb now moment caller hd]
    cases (batch.operations.zip decided).mapM fun q => q.1.grant q.2 with
    | ok grants => exact .inl ⟨_, rfl⟩
    | error reason => exact .inr (.inl ⟨_, rfl⟩)

end Ways

/-- **What becomes of a batch**, to its end.  A signature that fails is a fault, whatever else was refused; then the first
refusal rejects the batch with its reason; otherwise each operation has its grant, with what the signer changes, in the
transaction that the policy names.  The answer is never malformed and never of another length, and the reason of an
undecided request is given only if the authorizer gives it. -/
theorem outcome_of_batch (p : Policy Id) (batch : Batch) (now moment : Moment) (caller : Caller)
    (hb : batch.operations.length ≤ size64) :
    let e := batch.shown p moment caller
    let id := p.assignedId (batch.exchange moment caller)
    let result := (Client.remote (Transport.direct (.ready p) moment caller)).grants now batch
    ((∃ o ∈ batch.operations, p.verdict e o.toRequest = .allow ∧ ∃ cause, p.signature e o.toRequest = .error cause) →
      result = .error (.faulted "SigningFailure")) ∧
    ((∀ o ∈ batch.operations, p.verdict e o.toRequest = .allow → ∃ u, p.signature e o.toRequest = .ok u) →
      ∀ (i : Nat) (o : Operation) (reason : Option String), batch.operations[i]? = some o →
        p.verdict e o.toRequest = .deny reason →
        (∀ (j : Nat) (o' : Operation), j < i → batch.operations[j]? = some o' → p.verdict e o'.toRequest = .allow) →
          result = .error (.rejected (reason.getD "Unknown"))) ∧
    ((∀ o ∈ batch.operations, p.verdict e o.toRequest = .allow ∧ ∃ u, p.signature e o.toRequest = .ok u) →
      ∃ granted, result = .ok granted ∧ granted.transactionId = (if id = "" then none else some id) ∧
        granted.grants.length = batch.operations.length ∧
        ∀ (i : Nat) (o : Operation), batch.operations[i]? = some o → ∃ u, p.signature e o.toRequest = .ok u ∧
          granted.grants[i]? = some
            { action := o.action, url := u.url, key := u.key.getD o.key, bucket := u.bucket.or o.bucket
              metadata := u.metadata.getD o.metadata }) ∧
    (∀ cause, result ≠ .error (.malformed cause)) ∧
    (∀ sent received, result ≠ .error (.mismatch sent received)) ∧
    (result = .error (.rejected undecidedReason) →
      ∃ o ∈ batch.operations, p.verdict e o.toRequest = .deny (some undecidedReason)) := by
  refine ⟨?_, ?_, ?_, ?_, ?_, ?_⟩
  · rintro ⟨o, ho, hv, cause, hs⟩
    exact grants_of_failed_signature hb now moment caller ho hv hs
  · intro hsigned i o reason ho hv hfirst
    exact grants_of_refusal hb now moment caller hsigned ho hv hfirst
  · intro hsigned
    obtain ⟨granted, hresult, hid, hlength, hgrants⟩ := grants_of_signed hb now moment caller hsigned
    rw [batch.shown_transactionId?] at hid
    exact ⟨granted, hresult, hid, hlength, hgrants⟩
  · intro cause h
    rcases grants_cases (p := p) hb now moment caller with ⟨_, h'⟩ | ⟨_, h'⟩ | ⟨_, h'⟩ <;>
      · rw [h'] at h; cases h
  · intro sent received h
    rcases grants_cases (p := p) hb now moment caller with ⟨_, h'⟩ | ⟨_, h'⟩ | ⟨_, h'⟩ <;>
      · rw [h'] at h; cases h
  · intro h
    obtain ⟨o, ho, given, hv, hreason⟩ := refused_of_rejected hb now moment caller h
    cases given with
    | none => exact absurd hreason (by decide)
    | some reason =>
      cases hreason
      exact ⟨o, ho, hv⟩

/-- A policy by keys alone: `no` is refused without a reason, `bad` cannot be signed, and every other key is its URL. -/
def byKey : Policy Id where
  authorizer :=
    { request := fun _ r => if r.key = "no" then .deny none else .allow
      listing := fun _ => .allow }
  signer := { sign := fun _ r => if r.key = "bad" then .error (.unsupported "bad") else .ok { url := r.key } }
  lister := { list := fun _ => .ok [] }
  transactionIds := .untracked

/-- The three ways of a batch under that policy: a late signature that fails comes before an early refusal. -/
theorem outcome_of_batch_byKey :
    let result (operations : List Operation) : Except ClientError Granted :=
      (Client.remote (Transport.direct (.ready byKey) default default)).grants default { operations }
    result [⟨.get, "no", none, .empty⟩, ⟨.put, "bad", none, .empty⟩] = .error (.faulted "SigningFailure") ∧
    result [⟨.get, "a", none, .empty⟩, ⟨.put, "no", none, .empty⟩] = .error (.rejected "Unknown") ∧
    ∃ granted, result [⟨.get, "a", some "b", .empty⟩] = .ok granted ∧ granted.transactionId = none ∧
      granted.grants[0]? = some ⟨.get, "a", "a", some "b", .empty⟩ := by
  have outcome (operations : List Operation) (h : operations.length ≤ size64) :=
    outcome_of_batch byKey { operations } default default default h
  refine ⟨?_, ?_, ?_⟩
  · exact (outcome _ (by decide)).1 ⟨⟨.put, "bad", none, .empty⟩, by simp, by decide, .unsupported "bad", rfl⟩
  · refine (outcome _ (by decide)).2.1 ?_ 1 ⟨.put, "no", none, .empty⟩ none rfl (by decide) ?_
    · intro o ho hv
      simp only [List.mem_cons, List.not_mem_nil, or_false] at ho
      rcases ho with rfl | rfl
      · exact ⟨_, rfl⟩
      · exact absurd hv (by decide)
    · intro j o hj ho
      obtain rfl : j = 0 := by omega
      cases ho
      decide
  · obtain ⟨granted, hresult, hid, _, hgrants⟩ := (outcome [⟨.get, "a", some "b", .empty⟩] (by decide)).2.2.1
      (fun o ho => by rw [List.mem_singleton.1 ho]; exact ⟨by decide, _, rfl⟩)
    obtain ⟨u, hu, hg⟩ := hgrants 0 _ rfl
    cases hu
    exact ⟨granted, hresult, hid, hg⟩

end Client
end StorageGate
