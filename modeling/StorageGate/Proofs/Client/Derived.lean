import StorageGate.Proofs.Client.Verdict
import StorageGate.Proofs.Client.Verified
import StorageGate.Proofs.Gate.Untracked
import StorageGate.Proofs.Storage.Stamp
/-!
# Derived objects

An object that is made from those of a granted batch is asked for alone, with a mark in its metadata and under the id of
that batch.  A gate that goes on with the ids it is shown answers under this id, and so does a client that signs for itself,
so the id and the mark are in whatever is granted (`derivedGrants_in_transaction`).
-/
namespace StorageGate

/-- The operation on a derived object as it is asked for. -/
def Operation.marked (o : Operation) : Operation :=
  { o with metadata := o.metadata.insert manifestMetadata "true" }

/-- The message that asks for a derived object. -/
def Operation.derivedMessage (o : Operation) (id : String) : Message :=
  ({ operations := [o.marked] } : Batch).toMessage.withProperty transactionIdProperty id

/-- What must be granted for a derived object: itself and nothing else, in the transaction, with its mark, and with the stamp
of the transaction if it is an upload. -/
structure Granted.IsDerived (granted : Granted) (id : String) (o : Operation) : Prop where
  transactionId : granted.transactionId = some id
  grant : ∃ g, granted.grants = [g] ∧ g.action = o.action ∧ g.metadata.get? "gatekeeper-manifest" = some "true" ∧
    (o.action = .put → g.metadata.get? "gatekeeper-transaction-id" = some id)

/-- The clients for which an account signs, in transactions: their own, or one at a gate. -/
inductive Client.StorageSigned {m : Type → Type} [Monad m] : Client m → Prop
  | own (credentials : Credentials) : StorageSigned (.own credentials)
  | remote (s : StorageSigner) (authorizer : Authorizer m) (lister : BucketLister m) (moment : Moment) (caller : Caller) :
    StorageSigned (.remote (Transport.direct
      (.ready { authorizer, signer := s.signer, lister, transactionIds := .ulids }) moment caller))

namespace Operation

variable (o : Operation) {id : String}

theorem derivedMessage_body : (o.derivedMessage id).body = .signing [o.marked.toRequest] := Batch.toMessage_body _

theorem derivedMessage_transactionId? (hid : id ≠ "") : (o.derivedMessage id).transactionId? = some id :=
  Message.transactionId?_withProperty _ hid

end Operation

/-! ## What is signed in a transaction -/

namespace StorageSigner

variable {s : StorageSigner} {r : Request} {u : SignedUrl} {id : String}

/-- Whether a URL is signed for a request in a transaction. -/
def SignsIn (s : StorageSigner) (id : String) (r : Request) (u : SignedUrl) : Prop :=
  ∃ e : Exchange, e.transactionId? = some id ∧ s.signedUrl e r = .ok u

theorem SignsIn.stamp (h : s.SignsIn id r u) (hput : r.action = .put) :
    (u.amend r).metadata.get? transactionIdMetadata = some id := by
  obtain ⟨e, hid, h⟩ := h
  rw [metadata_amend_of_signedUrl h (signedMetadata?_of_put hid hput)]
  exact Fields.get?_insert_self _ _ _

/-- **Nothing but the stamp is changed in metadata.** -/
theorem SignsIn.get?_of_ne (h : s.SignsIn id r u) {name : String} (hname : name ≠ transactionIdMetadata) :
    (u.amend r).metadata.get? name = r.metadata.get? name := by
  obtain ⟨e, hid, h⟩ := h
  rw [metadata_amend h]
  by_cases hput : r.action = .put
  · rw [signedMetadata?_of_put hid hput]
    exact Fields.get?_insert_of_ne _ _ hname
  · have hsame : (signedMetadata? e r).getD r.metadata = r.metadata := by
      unfold signedMetadata?
      split <;> simp_all
    rw [hsame]

end StorageSigner

/-- Whether an answer is in a transaction, with each request as it came or decided there. -/
structure Message.AnswersIn (answer : Message) (s : StorageSigner) (id : String) (requests : List Request) : Prop where
  transactionId : answer.transactionId? = some id
  answered : ∃ answered, answer.body = .signing answered ∧
    List.Forall₂ (fun r d => d = r.undecided ∨ Decided (s.SignsIn id) r d) requests answered

/-- **Whatever such an answer grants is the derived object**, since it grants nothing that is not signed. -/
theorem Granted.isDerived_of_answersIn {s : StorageSigner} {id : String} {o : Operation} {answer : Message}
    {granted : Granted} (h : answer.AnswersIn s id [o.marked.toRequest])
    (hgranted : ofAnswer [o.marked] answer = .ok granted) : granted.IsDerived id o := by
  obtain ⟨requests, hfulfils, htells⟩ := ofAnswer_eq_ok_iff.1 hgranted
  obtain ⟨answered, hbody, hall⟩ := h.answered
  cases hfulfils.body.symm.trans hbody
  obtain ⟨d, hd, rfl⟩ : ∃ d, (d = o.marked.toRequest.undecided ∨ Decided (s.SignsIn id) o.marked.toRequest d) ∧
      requests = [d] := by
    cases hall with
    | cons hd hnil => cases hnil; exact ⟨_, hd, rfl⟩
  obtain ⟨url, hurl⟩ := hfulfils.signed d List.mem_cons_self
  have hgrant := htells.grant 0 o.marked d url rfl rfl hurl
  obtain ⟨g, hone⟩ := List.length_eq_one_iff.1 htells.length
  rw [hone] at hgrant
  obtain rfl := Option.some.inj hgrant
  refine ⟨htells.transactionId.trans h.transactionId, _, hone, rfl, ?_⟩
  rcases hd with rfl | hd
  · cases hurl
  · cases hd with
    | declined reason => cases hurl
    | signed made =>
      have hname : manifestMetadata ≠ transactionIdMetadata := by decide
      exact ⟨(made.get?_of_ne hname).trans (Fields.get?_insert_self _ _ _), fun hput => made.stamp hput⟩

/-! ## Answers in the transaction of the message -/

/-- The calls of a policy that signs with an account and goes on with the ids it is shown. -/
def PolicyCall.Continues (s : StorageSigner) : PolicyCall → Prop
  | .transactionId e id => id = e.transactionId?.getD e.moment.freshId
  | call => s.Makes call

theorem Policy.admits_continues {m : Type → Type} [Monad m] [LawfulMonad m] (s : StorageSigner) (authorizer : Authorizer m)
    (lister : BucketLister m) :
    Policy.Admits { authorizer, signer := s.signer, lister, transactionIds := .ulids } (PolicyCall.Continues s) where
  transactionId _ := .pure rfl
  authorize _ _ := .trivial
  authorizeListing _ := .trivial
  sign := (s.admits authorizer lister .ulids).sign
  list _ := .trivial

/-- **A message is answered in its own transaction.** -/
theorem Runs.answersIn {s : StorageSigner} {inbound answer : Message} {moment : Moment} {caller : Caller}
    {calls : List PolicyCall} (h : Runs (inbound.received moment caller) calls answer)
    (hcalls : ∀ call ∈ calls, call.Continues s) {id : String} (hid : inbound.transactionId? = some id)
    {requests : List Request} (hbody : inbound.body = .signing requests) : answer.AnswersIn s id requests := by
  cases h with
  | @opened id' calls result makes =>
    have hgiven : id' = id := by
      have hfirst : id' = (inbound.received moment caller).transactionId?.getD _ := hcalls _ List.mem_cons_self
      rw [hfirst]
      show inbound.transactionId?.getD _ = id
      rw [hid]
      rfl
    subst hgiven
    have hne : id' ≠ "" := by simpa using (Option.filter_eq_some_iff.1 hid).2
    have hshown := (inbound.received moment caller).transactionId?_given hne
    refine ⟨(Exchange.transactionId?_answered _ _).trans hshown, ?_⟩
    exact makes.forall₂_answered ((Exchange.withTransactionId_body _ _).trans hbody) fun r u hc =>
      ⟨_, hshown, hcalls _ (List.mem_cons_of_mem _ hc)⟩

namespace Client

variable {m : Type → Type} [Monad m]

theorem derivedGrants_of_id (client : Client m) (now : Moment) {primary : Granted} {id : String}
    (h : primary.transactionId = some id) (o : Operation) : client.derivedGrants now primary o = (do
      return (← client.answer now (o.derivedMessage id)).bind (Granted.ofAnswer [o.marked])) := by
  unfold derivedGrants
  rw [h]
  rfl

variable [LawfulMonad m]

/-- A client that an account signs for is answered in the transaction of its message. -/
theorem StorageSigned.answersIn {client : Client m} (h : client.StorageSigned) (now : Moment) {message : Message}
    {id : String} (hid : message.transactionId? = some id) {r : Request} (hpending : r.decision = .pending)
    (hbody : message.body = .signing [r]) :
    SatisfiesM (fun result => ∀ answer, result = .ok answer → ∃ s, answer.AnswersIn s id [r])
      (client.answer now message) := by
  cases h with
  | remote s authorizer lister moment caller =>
    have hlength : message.body.length ≤ size64 := by rw [hbody]; exact Nat.succ_le_of_lt (by decide)
    have hprocess := (Policy.always_run (Policy.admits_continues s authorizer lister) (message.received moment caller)).imp
      fun {answer} ⟨_, hcalls, hruns⟩ => Runs.answersIn hruns hcalls hid hbody
    refine (Transport.always_direct hlength hprocess fun answer hanswer => ?_).imp fun {result} hresult answer hanswer => ?_
    · obtain ⟨answered, hanswered, hall⟩ := hanswer.answered
      rw [hanswered, Body.length, ← hall.length_eq]
      exact Nat.succ_le_of_lt (by decide)
    · obtain ⟨_, rfl, hanswers⟩ := hresult
      cases hanswer
      exact ⟨s, hanswers⟩
  | own credentials =>
    refine .pure fun answer hanswer => ⟨credentials.ownSigner, ?_⟩
    have hne : id ≠ "" := by simpa using (Option.filter_eq_some_iff.1 hid).2
    let e : Exchange := Exchange.withTransactionId { message, moment := now } id
    have he : e = Exchange.withTransactionId { message, moment := now } (message.transactionId?.getD now.freshId) := by
      rw [hid]
      rfl
    have hshown : e.transactionId? = some id := Exchange.transactionId?_given _ hne
    rw [credentials.answer_of_signing now he ((Exchange.withTransactionId_body _ _).trans hbody),
      credentials.ownSigner.signAll_eq_mapM e (by simpa using hpending)] at hanswer
    cases hs : credentials.ownSigner.signedUrl e r with
    | error cause =>
      rw [Traversal.mapM_cons_of_error (StorageSigner.settleOwn_of_error _ hs)] at hanswer
      cases hanswer
    | ok u =>
      rw [Traversal.mapM_cons_of_ok (StorageSigner.settleOwn_of_ok _ hs)] at hanswer
      cases hanswer
      have hundecided : r.undecided = r := by rw [Request.undecided, ← hpending]
      have hmade : credentials.ownSigner.SignsIn id r.undecided u := ⟨e, hshown, hundecided.symm ▸ hs⟩
      exact ⟨hshown, _, rfl, .cons (.inr (.signed hmade)) .nil⟩

/-- **Derived objects stay in the transaction.**  Of whatever was granted before: if it has a transaction id and a client
that an account signs for is granted a derived object, that is the object alone, in this transaction, with its mark, and with
the stamp of the transaction if it is an upload.  If it has none, no client does anything: nothing is sent or signed. -/
theorem derivedGrants_in_transaction {operations : List Operation} {answer : Message} {primary : Granted}
    (hprimary : Granted.ofAnswer operations answer = .ok primary) (client : Client m) (now : Moment)
    (operation : Operation) :
    (∀ id, client.StorageSigned → primary.transactionId = some id →
      SatisfiesM (fun result => ∀ granted, result = .ok granted → granted.IsDerived id operation)
        (client.derivedGrants now primary operation)) ∧
    (primary.transactionId = none → client.derivedGrants now primary operation = pure (.error .missingTransactionId)) := by
  constructor
  · intro id hclient hid
    have hne : id ≠ "" := by
      obtain ⟨requests, -, htells⟩ := ofAnswer_eq_ok_iff.1 hprimary
      simpa using (Option.filter_eq_some_iff.1 (htells.transactionId.symm.trans hid)).2
    rw [derivedGrants_of_id client now hid]
    have hanswer := hclient.answersIn now (operation.derivedMessage_transactionId? hne) rfl operation.derivedMessage_body
    refine hanswer.bind fun result hresult => .pure fun granted hgranted => ?_
    cases result with
    | error cause => cases hgranted
    | ok answer =>
      obtain ⟨s, hanswers⟩ := hresult answer rfl
      exact Granted.isDerived_of_answersIn hanswers hgranted
  · intro hnone
    unfold derivedGrants
    rw [hnone]

/-- A manifest whose metadata denies its mark and claims another transaction, for a client of its own account and at an open
gate. -/
theorem derivedGrants_in_transaction_denied :
    let primary : Granted := { transactionId := some "t", grants := [] }
    let manifest : Operation :=
      ⟨.put, "m", none, .ofList [("gatekeeper-manifest", "false"), ("gatekeeper-transaction-id", "x")]⟩
    let own : Client Id := .own .test
    let policy : Policy Id := Credentials.test.openPolicy { list := fun _ => .ok [] }
    let remote : Client Id := .remote (Transport.direct (.ready policy) default default)
    (∃ granted, own.derivedGrants default primary manifest = .ok granted ∧ granted.IsDerived "t" manifest) ∧
    (∃ granted, remote.derivedGrants default primary manifest = .ok granted ∧ granted.IsDerived "t" manifest) ∧
    own.derivedGrants default { primary with transactionId := none } manifest = .error .missingTransactionId := by
  intro primary manifest own policy remote
  have hprimary : Granted.ofAnswer [] { properties := .ofList [("transactionId", "t")] } = .ok primary := by decide
  have hnone : Granted.ofAnswer [] {} = .ok { primary with transactionId := none } := by decide
  obtain ⟨granted, hown⟩ : ∃ granted, own.derivedGrants default primary manifest = .ok granted :=
    Traversal.exists_of_isSome_toOption (by decide +kernel)
  obtain ⟨granted', hremote⟩ : ∃ granted, remote.derivedGrants default primary manifest = .ok granted := by
    have hanswer : remote.answer default (manifest.derivedMessage "t")
        = .ok (policy.run ((manifest.derivedMessage "t").received default default)) :=
      Transport.answer_direct manifest.derivedMessage_body (Nat.succ_le_of_lt (by decide)) default default
    have hid : primary.transactionId = some "t" := rfl
    rw [(derivedGrants_of_id remote default hid manifest).trans (Traversal.bind_of_eq hanswer _)]
    exact Traversal.exists_of_isSome_toOption (by decide +kernel)
  refine ⟨⟨granted, hown, ?_⟩, ⟨granted', hremote, ?_⟩, ?_⟩
  · exact SatisfiesM_Id_eq.1 ((derivedGrants_in_transaction hprimary own default manifest).1 "t" (.own _) rfl) granted hown
  · exact SatisfiesM_Id_eq.1 ((derivedGrants_in_transaction hprimary remote default manifest).1 "t" (.remote _ _ _ _ _) rfl)
      granted' hremote
  · exact (derivedGrants_in_transaction hnone own default manifest).2 rfl

end Client
end StorageGate
