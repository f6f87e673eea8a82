import StorageGate.Proofs.Client.Direct
/-!
# The verdict on an answer

Whatever text comes back over a transport, a client takes it as a whole or not at all.  It is taken exactly if it is a
message without an error code that has a signed request for each operation (`Message.Fulfils`), and each grant is then told
by the operation and the request at its place (`Granted.Tells`).  Otherwise there is one reason, the first that applies
(`Refuses`): no case of it overlaps another, since each says that those before it do not apply, and among requests that are
not signed the first is named.
-/
namespace StorageGate

/-- What an answer must be to be taken: it has no error code, and a signed request for each operation. -/
structure Message.Fulfils (answer : Message) (operations : List Operation) (requests : List Request) : Prop where
  noCode : answer.application.get? "gatekeeperErrorCode" = none
  body : answer.body = .signing requests
  length : requests.length = operations.length
  signed : ∀ r ∈ requests, ∃ url, r.decision = .signed url

/-- What is granted for operations by an answer with these requests. -/
structure Granted.Tells (granted : Granted) (answer : Message) (operations : List Operation) (requests : List Request) :
    Prop where
  transactionId : granted.transactionId = (answer.properties.get? "transactionId").filter (· != "")
  length : granted.grants.length = operations.length
  grant : ∀ (i : Nat) (o : Operation) (r : Request) (url : String), operations[i]? = some o → requests[i]? = some r →
    r.decision = .signed url → granted.grants[i]? =
      some { action := o.action, url, key := r.key, bucket := r.bucket.or o.bucket, metadata := r.metadata }

/-- Why a request that is not signed refuses its batch. -/
def Request.refusal? (r : Request) : Option String :=
  match r.decision with
  | .signed _ => none
  | .declined reason => some reason
  | .pending => some "Request was neither signed nor declined"

/-- Why a text is refused as an answer to operations. -/
inductive Refuses (operations : List Operation) (text : String) : ClientError → Prop
  | malformed {cause : DocumentError} (h : Message.decode text = .error cause) : Refuses operations text (.malformed cause)
  | faulted {answer : Message} {code : String} (h : Message.decode text = .ok answer)
      (hcode : answer.application.get? "gatekeeperErrorCode" = some code) : Refuses operations text (.faulted code)
  | listing {answer : Message} {objects : List ListedObject} (h : Message.decode text = .ok answer)
      (hcode : answer.application.get? "gatekeeperErrorCode" = none) (hbody : answer.body = .listing objects) :
      Refuses operations text (.mismatch operations.length objects.length)
  | count {answer : Message} {requests : List Request} (h : Message.decode text = .ok answer)
      (hcode : answer.application.get? "gatekeeperErrorCode" = none) (hbody : answer.body = .signing requests)
      (hlength : requests.length ≠ operations.length) :
      Refuses operations text (.mismatch operations.length requests.length)
  | rejected {answer : Message} {requests : List Request} {i : Nat} {r : Request} {reason : String}
      (h : Message.decode text = .ok answer) (hcode : answer.application.get? "gatekeeperErrorCode" = none)
      (hbody : answer.body = .signing requests) (hlength : requests.length = operations.length)
      (hr : requests[i]? = some r) (hreason : r.refusal? = some reason)
      (hfirst : ∀ (j : Nat) (s : Request), j < i → requests[j]? = some s → ∃ url, s.decision = .signed url) :
      Refuses operations text (.rejected reason)

/-- What a client makes of what comes back over a transport. -/
def Client.judge (operations : List Operation) : Except TransportError String → Except ClientError Granted
  | .error cause => .error (.transport cause)
  | .ok text => ((Message.decode text).mapError .malformed).bind (Granted.ofAnswer operations)

/-! ## One request -/

section Grant

variable {o : Operation} {r : Request}

theorem Operation.grant_of_decision {url : String} (h : r.decision = .signed url) : o.grant r =
    .ok { action := o.action, url, key := r.key, bucket := r.bucket.or o.bucket, metadata := r.metadata } := by
  rw [grant, h]

theorem Operation.exists_grant_iff : (∃ g, o.grant r = .ok g) ↔ ∃ url, r.decision = .signed url := by
  unfold grant
  cases r.decision <;> simp

theorem Operation.grant_eq_error_iff {reason : String} : o.grant r = .error reason ↔ r.refusal? = some reason := by
  unfold grant Request.refusal?
  cases r.decision <;> simp [undecidedReason]

end Grant

/-! ## All requests -/

section Answer

variable {operations : List Operation} {answer : Message} {requests : List Request}

theorem grants_eq_ok_iff {grants : List Grant} (hlength : requests.length = operations.length) :
    (operations.zip requests).mapM (fun p => p.1.grant p.2) = .ok grants ↔
      (∀ r ∈ requests, ∃ url, r.decision = .signed url) ∧ grants.length = operations.length ∧
        ∀ (i : Nat) (o : Operation) (r : Request) (url : String), operations[i]? = some o → requests[i]? = some r →
          r.decision = .signed url → grants[i]? =
            some { action := o.action, url, key := r.key, bucket := r.bucket.or o.bucket, metadata := r.metadata } := by
  have hzip : (operations.zip requests).length = operations.length := by
    rw [List.length_zip, hlength, Nat.min_self]
  rw [Traversal.mapM_eq_ok_iff, hzip]
  constructor
  · rintro ⟨hcount, hget⟩
    refine ⟨fun r hr => ?_, hcount, fun i o r url ho hr hurl => ?_⟩
    · obtain ⟨i, hi⟩ := List.mem_iff_getElem?.1 hr
      have hlt : i < operations.length := hlength ▸ (List.getElem?_eq_some_iff.1 hi).1
      have hq : (operations.zip requests)[i]? = some (operations[i], r) :=
        List.getElem?_zip_eq_some.2 ⟨List.getElem?_eq_getElem hlt, hi⟩
      obtain ⟨g, hg, -⟩ := hget i _ hq
      exact Operation.exists_grant_iff.1 ⟨g, hg⟩
    · obtain ⟨g, hg, hgi⟩ := hget i (o, r) (List.getElem?_zip_eq_some.2 ⟨ho, hr⟩)
      rw [Operation.grant_of_decision hurl] at hg
      rw [hgi, Except.ok.inj hg]
  · rintro ⟨hsigned, hcount, hget⟩
    refine ⟨hcount, fun i q hq => ?_⟩
    obtain ⟨ho, hr⟩ := List.getElem?_zip_eq_some.1 hq
    obtain ⟨url, hurl⟩ := hsigned q.2 (List.mem_of_getElem? hr)
    exact ⟨_, Operation.grant_of_decision hurl, hget i q.1 q.2 url ho hr hurl⟩

theorem grants_eq_error_iff {reason : String} (hlength : requests.length = operations.length) :
    (operations.zip requests).mapM (fun p => p.1.grant p.2) = .error reason ↔
      ∃ i r, requests[i]? = some r ∧ r.refusal? = some reason ∧
        ∀ (j : Nat) (s : Request), j < i → requests[j]? = some s → ∃ url, s.decision = .signed url := by
  -- The lists are as long as each other, so every request has its operation.
  have hpair : ∀ {i : Nat} {r : Request}, requests[i]? = some r →
      ∃ o, (operations.zip requests)[i]? = some (o, r) := by
    intro i r hr
    have hlt : i < operations.length := hlength ▸ (List.getElem?_eq_some_iff.1 hr).1
    exact ⟨operations[i], List.getElem?_zip_eq_some.2 ⟨List.getElem?_eq_getElem hlt, hr⟩⟩
  rw [Traversal.mapM_eq_error_iff]
  constructor
  · rintro ⟨i, q, hq, he, hfirst⟩
    refine ⟨i, q.2, (List.getElem?_zip_eq_some.1 hq).2, Operation.grant_eq_error_iff.1 he, fun j s hj hs => ?_⟩
    obtain ⟨o, ho⟩ := hpair hs
    exact Operation.exists_grant_iff.1 (hfirst j _ hj ho)
  · rintro ⟨i, r, hr, hreason, hfirst⟩
    obtain ⟨o, ho⟩ := hpair hr
    refine ⟨i, (o, r), ho, Operation.grant_eq_error_iff.2 hreason, fun j q hj hq => ?_⟩
    exact Operation.exists_grant_iff.2 (hfirst j q.2 hj (List.getElem?_zip_eq_some.1 hq).2)

theorem ofAnswer_eq_ok_iff {granted : Granted} : Granted.ofAnswer operations answer = .ok granted ↔
    ∃ requests, answer.Fulfils operations requests ∧ granted.Tells answer operations requests := by
  constructor
  · intro h
    cases hcode : answer.errorCode? with
    | some code => rw [Granted.ofAnswer_of_errorCode hcode] at h; cases h
    | none =>
      cases hbody : answer.body with
      | listing objects => rw [Granted.ofAnswer, hcode, hbody] at h; cases h
      | signing requests =>
        by_cases hlength : requests.length = operations.length
        · rw [Granted.ofAnswer_of_signing hcode hbody hlength] at h
          cases hgrants : (operations.zip requests).mapM fun p => p.1.grant p.2 with
          | error reason => rw [hgrants] at h; cases h
          | ok grants =>
            rw [hgrants] at h
            cases h
            obtain ⟨hsigned, hcount, hget⟩ := (grants_eq_ok_iff hlength).1 hgrants
            exact ⟨requests, ⟨hcode, hbody, hlength, hsigned⟩, ⟨rfl, hcount, hget⟩⟩
        · rw [Granted.ofAnswer, hcode, hbody] at h
          simp [hlength] at h
  · rintro ⟨requests, ⟨hcode, hbody, hlength, hsigned⟩, hid, hcount, hget⟩
    rw [Granted.ofAnswer_of_signing hcode hbody hlength, (grants_eq_ok_iff hlength).2 ⟨hsigned, hcount, hget⟩]
    obtain ⟨id, grants⟩ := granted
    exact congrArg (fun id => Except.ok (Granted.mk id grants)) hid.symm

/-- An answer that has a signed request for each operation is taken. -/
theorem exists_ofAnswer_of_fulfils (h : answer.Fulfils operations requests) :
    ∃ granted, Granted.ofAnswer operations answer = .ok granted := by
  rw [Granted.ofAnswer_of_signing h.noCode h.body h.length]
  have hgrants : ∀ q ∈ operations.zip requests, ∃ g, q.1.grant q.2 = .ok g := fun q hq =>
    Operation.exists_grant_iff.2 (h.signed q.2 (List.of_mem_zip hq).2)
  obtain ⟨grants, hgrants⟩ := Traversal.exists_mapM_eq_ok hgrants
  rw [hgrants]
  exact ⟨_, rfl⟩

end Answer

/-! ## All texts -/

namespace Client

variable {operations : List Operation} {text : String}

theorem judge_of_error {cause : DocumentError} (h : Message.decode text = .error cause) :
    judge operations (.ok text) = .error (.malformed cause) := by
  rw [judge, h]
  rfl

theorem judge_of_ok {answer : Message} (h : Message.decode text = .ok answer) :
    judge operations (.ok text) = Granted.ofAnswer operations answer := by
  rw [judge, h]
  rfl

theorem judge_eq_ok_iff {granted : Granted} : judge operations (.ok text) = .ok granted ↔ ∃ answer requests,
    Message.decode text = .ok answer ∧ answer.Fulfils operations requests ∧
      granted.Tells answer operations requests := by
  cases h : Message.decode text with
  | error cause => simp [judge_of_error h]
  | ok answer => simp [judge_of_ok h, ofAnswer_eq_ok_iff]

/-- **Every reason is given where it applies.** -/
theorem judge_of_refuses {e : ClientError} (h : Refuses operations text e) : judge operations (.ok text) = .error e := by
  cases h with
  | malformed h => exact judge_of_error h
  | faulted h hcode => rw [judge_of_ok h, Granted.ofAnswer_of_errorCode hcode]
  | listing h hcode hbody =>
    rw [judge_of_ok h, Granted.ofAnswer, Message.errorCode?, Message.application?, errorCodeProperty, hcode, hbody]
  | count h hcode hbody hlength =>
    rw [judge_of_ok h, Granted.ofAnswer, Message.errorCode?, Message.application?, errorCodeProperty, hcode, hbody]
    exact if_pos hlength
  | rejected h hcode hbody hlength hr hreason hfirst =>
    rw [judge_of_ok h, Granted.ofAnswer_of_signing hcode hbody hlength,
      (grants_eq_error_iff hlength).2 ⟨_, _, hr, hreason, hfirst⟩]

/-- **No text is neither taken nor refused for one of the reasons.** -/
theorem exists_granted_or_refuses (operations : List Operation) (text : String) :
    (∃ granted, judge operations (.ok text) = .ok granted) ∨ ∃ e, Refuses operations text e := by
  cases h : Message.decode text with
  | error cause => exact .inr ⟨_, .malformed h⟩
  | ok answer =>
    cases hcode : answer.application.get? "gatekeeperErrorCode" with
    | some code => exact .inr ⟨_, .faulted h hcode⟩
    | none =>
      cases hbody : answer.body with
      | listing objects => exact .inr ⟨_, .listing h hcode hbody⟩
      | signing requests =>
        by_cases hlength : requests.length = operations.length
        · cases hgrants : (operations.zip requests).mapM fun p => p.1.grant p.2 with
          | ok grants =>
            have hsigned := ((grants_eq_ok_iff hlength).1 hgrants).1
            rw [judge_of_ok h]
            exact .inl (exists_ofAnswer_of_fulfils ⟨hcode, hbody, hlength, hsigned⟩)
          | error reason =>
            obtain ⟨i, r, hr, hreason, hfirst⟩ := (grants_eq_error_iff hlength).1 hgrants
            exact .inr ⟨_, .rejected h hcode hbody hlength hr hreason hfirst⟩
        · exact .inr ⟨_, .count h hcode hbody hlength⟩

theorem judge_eq_error_iff {e : ClientError} : judge operations (.ok text) = .error e ↔ Refuses operations text e := by
  refine ⟨fun h => ?_, judge_of_refuses⟩
  rcases exists_granted_or_refuses operations text with ⟨granted, hgranted⟩ | ⟨e', he'⟩
  · rw [hgranted] at h
    cases h
  · rw [judge_of_refuses he'] at h
    cases h
    exact he'

variable {m : Type → Type} [Monad m] [LawfulMonad m]

/-- **A client takes the whole answer or refuses it for the first reason that applies**, whatever text comes back. -/
theorem grants_remote (t : Transport m) (now : Moment) (batch : Batch) :
    (Client.remote t).grants now batch = judge batch.operations <$> t.exchange batch.toMessage.encode ∧
    (∀ cause, judge batch.operations (.error cause) = .error (.transport cause)) ∧
    ∀ text : String,
      ((∃ granted, judge batch.operations (.ok text) = .ok granted) ↔
        ∃ answer requests, Message.decode text = .ok answer ∧ answer.Fulfils batch.operations requests) ∧
      (∀ granted, judge batch.operations (.ok text) = .ok granted ↔ ∃ answer requests,
        Message.decode text = .ok answer ∧ answer.Fulfils batch.operations requests ∧
          granted.Tells answer batch.operations requests) ∧
      ∀ e, judge batch.operations (.ok text) = .error e ↔ Refuses batch.operations text e := by
  refine ⟨?_, fun _ => rfl, fun text => ⟨⟨?_, ?_⟩, fun _ => judge_eq_ok_iff, fun _ => judge_eq_error_iff⟩⟩
  · rw [grants, answer, Transport.answer, bind_assoc, map_eq_pure_bind]
    refine bind_congr fun sent => ?_
    cases sent with
    | error cause => rw [pure_bind]; rfl
    | ok text => rw [pure_bind]; rfl
  · rintro ⟨granted, hgranted⟩
    obtain ⟨answer, requests, h, hfulfils, -⟩ := judge_eq_ok_iff.1 hgranted
    exact ⟨answer, requests, h, hfulfils⟩
  · rintro ⟨answer, requests, h, hfulfils⟩
    rw [judge_of_ok h]
    exact exists_ofAnswer_of_fulfils hfulfils

/-- An answer that signs a first request and declines a second. -/
def halfDeclined : Message where
  body := .signing [{ action := .get, key := "a", decision := .signed "https://h/a" },
    { action := .put, key := "b", decision := .declined "no" }]

/-- The half declined answer rejects its batch, whatever was granted before. -/
theorem grants_remote_halfDeclined :
    (Client.remote (m := Id) { exchange := fun _ => .ok halfDeclined.encode }).grants
      default { operations := [{ action := .get, key := "a" }, { action := .put, key := "b" }] }
        = .error (.rejected "no") := by
  obtain ⟨hgrants, -, hjudge⟩ := grants_remote (m := Id) { exchange := fun _ => .ok halfDeclined.encode } default
    { operations := [{ action := .get, key := "a" }, { action := .put, key := "b" }] }
  have hdecode : Message.decode halfDeclined.encode = .ok halfDeclined := Message.decode_of_encode (by decide)
  have hfirst : ∀ (j : Nat) (s : Request), j < 1 → [({ action := .get, key := "a", decision := .signed "https://h/a" } :
      Request), { action := .put, key := "b", decision := .declined "no" }][j]? = some s →
      ∃ url, s.decision = .signed url := by
    intro j s hj hs
    obtain rfl : j = 0 := by omega
    cases hs
    exact ⟨_, rfl⟩
  rw [hgrants]
  exact ((hjudge halfDeclined.encode).2.2 _).2 (.rejected (i := 1) hdecode rfl rfl rfl rfl rfl hfirst)

end Client
end StorageGate
