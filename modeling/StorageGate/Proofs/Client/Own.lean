import StorageGate.Proofs.Client.Outcome
import StorageGate.Proofs.Storage.ObjectUrl
/-!
# Clients that sign for themselves

A client with credentials of its own answers its batch as a gate would that allows everything and signs with the same
credentials: both sign the same requests of the same exchange, as far as a signature can see it (`signedUrl_congr`).  They
differ in one thing.  The gate drops an error code that the batch brings along; the client keeps it and takes it for a
fault of its own answer.
-/
namespace StorageGate

/-- The signer that a client is to itself. -/
def Credentials.ownSigner (credentials : Credentials) : StorageSigner := { credentials, expiresIn := ownWindow }

/-- The policy that allows everything and signs as a client with the credentials does for itself. -/
def Credentials.openPolicy (credentials : Credentials) (lister : BucketLister Id) : Policy Id where
  authorizer := allowAll
  signer := credentials.ownSigner.signer
  lister
  transactionIds := .ulids

namespace StorageSigner

variable (s : StorageSigner)

/-- What becomes of a request that a client signs for itself. -/
def settleOwn (e : Exchange) (r : Request) : Except ClientError Request :=
  match s.signedUrl e r with
  | .error cause => .error (.selfSigning (.storage cause))
  | .ok u => .ok { u.amend r with decision := .signed u.url }

theorem settleOwn_of_ok {e : Exchange} {r : Request} {u : SignedUrl} (h : s.signedUrl e r = .ok u) :
    s.settleOwn e r = .ok { u.amend r with decision := .signed u.url } := by
  rw [settleOwn, h]

theorem settleOwn_of_error {e : Exchange} {r : Request} {cause : SigningError} (h : s.signedUrl e r = .error cause) :
    s.settleOwn e r = .error (.selfSigning (.storage cause)) := by
  rw [settleOwn, h]

/-- **Pending requests are signed in order**, up to the first that cannot be. -/
theorem signAll_eq_mapM (e : Exchange) : ∀ {requests : List Request}, (∀ r ∈ requests, r.decision = .pending) →
    s.signAll e requests = requests.mapM (s.settleOwn e)
  | [], _ => rfl
  | r :: rest, h => by
    have hrest := signAll_eq_mapM e fun r' hr' => h r' (List.mem_cons_of_mem _ hr')
    rw [signAll]
    cases hr : s.signedUrl e r with
    | error cause =>
      rw [Traversal.mapM_cons_of_error (s.settleOwn_of_error hr)]
      rfl
    | ok u =>
      have happly := u.apply_of_pending (h r List.mem_cons_self)
      rw [Traversal.mapM_cons_of_ok (s.settleOwn_of_ok hr)]
      show ((u.apply r).done.mapError _ >>= _ : Except ClientError _) = _
      rw [happly, ← hrest]
      show (s.signAll e rest >>= _ : Except ClientError _) = _
      cases s.signAll e rest <;> rfl

end StorageSigner

/-! ## The two exchanges of a batch -/

/-- The exchange that a client makes of its batch to answer it. -/
def Batch.ownExchange (batch : Batch) (moment : Moment) : Exchange := { message := batch.toMessage, moment }

/-- That exchange with its transaction id. -/
def Batch.ownShown (batch : Batch) (moment : Moment) : Exchange :=
  (batch.ownExchange moment).withTransactionId moment.freshId

theorem Batch.ownExchange_transactionId? (batch : Batch) (moment : Moment) :
    (batch.ownExchange moment).transactionId? = none :=
  batch.toMessage_transactionId?

/-- An error code of the batch stays in the client's own answer. -/
theorem Batch.ownShown_errorCode? (batch : Batch) (moment : Moment) :
    (batch.ownShown moment).message.errorCode? = batch.application.get? errorCodeProperty :=
  (Exchange.withTransactionId_errorCode? _ _).trans batch.toMessage_errorCode?

section Agreement

variable (credentials : Credentials) (lister : BucketLister Id) (batch : Batch) (moment : Moment) (caller : Caller)

theorem ownShown_transactionId? : (batch.ownShown moment).transactionId?
    = (batch.shown (credentials.openPolicy lister) moment caller).transactionId? := by
  have hid : (credentials.openPolicy lister).assignedId (batch.exchange moment caller) = moment.freshId := by
    show (batch.exchange moment caller).transactionId?.getD moment.freshId = _
    rw [batch.exchange_transactionId? moment caller]
    rfl
  rw [batch.shown_transactionId?, hid]
  exact Exchange.transactionId?_withTransactionId (batch.ownExchange_transactionId? moment) _

theorem openPolicy_verdict (e : Exchange) (r : Request) : (credentials.openPolicy lister).verdict e r = .allow := rfl

/-- **What a client signs for itself the open policy signs**, and what it cannot sign neither can the policy. -/
theorem openPolicy_signature (r : Request) (hr : r.decision = .pending) :
    (credentials.openPolicy lister).signature (batch.shown (credentials.openPolicy lister) moment caller) r
      = (credentials.ownSigner.signedUrl (batch.ownShown moment) r).mapError SigningFailure.storage := by
  have hundecided : r.undecided = r := by rw [Request.undecided, ← hr]
  have hnow : (batch.shown (credentials.openPolicy lister) moment caller).moment.now
      = (batch.ownShown moment).moment.now := by
    rw [Batch.shown, Policy.opened, Batch.ownShown, Exchange.withTransactionId_moment,
      Exchange.withTransactionId_moment]
    rfl
  have hid := ownShown_transactionId? credentials lister batch moment caller
  show (credentials.ownSigner.signedUrl _ r.undecided).mapError SigningFailure.storage = _
  rw [hundecided, credentials.ownSigner.signedUrl_congr hnow hid.symm]

/-! ## The client's own answer -/

theorem Credentials.answer_of_signing {message : Message} {requests : List Request} {e : Exchange}
    (he : e = Exchange.withTransactionId { message, moment } (message.transactionId?.getD moment.freshId))
    (h : e.message.body = .signing requests) : credentials.answer moment message
      = (credentials.ownSigner.signAll e requests).map fun signed => e.message.withBody (.signing signed) := by
  subst he
  unfold Credentials.answer
  dsimp only [Exchange.transactionId?]
  rw [h]
  show (credentials.ownSigner.signAll _ requests >>= _ : Except ClientError Message) = _
  cases credentials.ownSigner.signAll _ requests <;> rfl

theorem Credentials.answer_batch : credentials.answer moment batch.toMessage
    = (batch.operations.mapM fun o => credentials.ownSigner.settleOwn (batch.ownShown moment) o.toRequest).map
        fun signed => (batch.ownShown moment).message.withBody (.signing signed) := by
  have hshown : batch.ownShown moment
      = Exchange.withTransactionId { message := batch.toMessage, moment }
          (batch.toMessage.transactionId?.getD moment.freshId) := by
    rw [batch.toMessage_transactionId?]
    rfl
  have hbody : (batch.ownShown moment).message.body = .signing (batch.operations.map Operation.toRequest) := by
    rw [Batch.ownShown, Exchange.withTransactionId_body]
    exact batch.toMessage_body
  have hpending : ∀ r ∈ batch.operations.map Operation.toRequest, r.decision = .pending := fun r hr => by
    obtain ⟨o, _, rfl⟩ := List.mem_map.1 hr
    rfl
  rw [credentials.answer_of_signing moment hshown hbody, credentials.ownSigner.signAll_eq_mapM _ hpending, List.mapM_map]
  rfl

theorem Client.grants_own : (Client.own credentials : Client Id).grants moment batch
    = (credentials.answer moment batch.toMessage).bind (Granted.ofAnswer batch.operations) := rfl

theorem Client.grants_own_of_error {cause : ClientError}
    (hd : batch.operations.mapM (fun o => credentials.ownSigner.settleOwn (batch.ownShown moment) o.toRequest)
      = .error cause) :
    (Client.own credentials : Client Id).grants moment batch = .error cause := by
  rw [Client.grants_own, Credentials.answer_batch, hd]
  rfl

/-- Requests that are signed grant their operations, unless the batch brought an error code along. -/
theorem Client.grants_own_of_ok {signed : List Request}
    (hd : batch.operations.mapM (fun o => credentials.ownSigner.settleOwn (batch.ownShown moment) o.toRequest)
      = .ok signed) :
    (Client.own credentials : Client Id).grants moment batch
      = (match batch.application.get? errorCodeProperty with
        | some code => .error (.faulted code)
        | none =>
          match (batch.operations.zip signed).mapM fun q => q.1.grant q.2 with
          | .error reason => .error (.rejected reason)
          | .ok grants => .ok { transactionId := (batch.ownShown moment).transactionId?, grants }) := by
  rw [Client.grants_own, Credentials.answer_batch, hd, ← batch.ownShown_errorCode? moment, Except.map, Except.bind]
  cases hcode : (batch.ownShown moment).message.errorCode? with
  | some code => exact Granted.ofAnswer_of_errorCode ((Message.errorCode?_withBody _ _).trans hcode)
  | none =>
    exact Granted.ofAnswer_of_signing ((Message.errorCode?_withBody _ _).trans hcode) (Message.withBody_body _ _)
      (Traversal.getElem?_of_mapM hd).1

/-! ## Both answers side by side -/

variable (hb : batch.operations.length ≤ size64)

include hb

/-- **When every signature is made**, the remote client is granted the batch, one grant for each operation in its place, and
the client's own answer is the same unless the batch brought an error code along. -/
theorem Client.own_of_signed (hsigned : ∀ o ∈ batch.operations,
      ∃ u, credentials.ownSigner.signedUrl (batch.ownShown moment) o.toRequest = .ok u) :
    ∃ granted,
      (Client.remote (Transport.direct (.ready (credentials.openPolicy lister)) moment caller)).grants moment batch
        = .ok granted ∧
      (Client.own credentials : Client Id).grants moment batch
        = (match batch.application.get? errorCodeProperty with
          | some code => .error (.faulted code)
          | none => .ok granted) ∧
      granted.grants.length = batch.operations.length ∧
      ∀ (i : Nat) (o : Operation), batch.operations[i]? = some o →
        ∃ u, credentials.ownSigner.signedUrl (batch.ownShown moment) o.toRequest = .ok u ∧
          granted.grants[i]? = some (u.grant o) := by
  have hsignature : ∀ o ∈ batch.operations, ∃ u,
      (credentials.openPolicy lister).signature (batch.shown (credentials.openPolicy lister) moment caller) o.toRequest
        = .ok u ∧ credentials.ownSigner.signedUrl (batch.ownShown moment) o.toRequest = .ok u := fun o ho => by
    obtain ⟨u, hu⟩ := hsigned o ho
    refine ⟨u, ?_, hu⟩
    rw [openPolicy_signature credentials lister batch moment caller o.toRequest rfl, hu, Except.mapError]
  have hsettled : ∀ o ∈ batch.operations,
      ∃ r, credentials.ownSigner.settleOwn (batch.ownShown moment) o.toRequest = .ok r := fun o ho => by
    obtain ⟨u, hu⟩ := hsigned o ho
    exact ⟨_, credentials.ownSigner.settleOwn_of_ok hu⟩
  obtain ⟨signed, hown⟩ := Traversal.exists_mapM_eq_ok hsettled
  have hremote : batch.operations.mapM (fun o => (credentials.openPolicy lister).settle
      (batch.shown (credentials.openPolicy lister) moment caller) o.toRequest) = .ok signed := by
    refine Traversal.mapM_eq_ok_of_imp (fun o ho r hr => ?_) hown
    obtain ⟨u, hu, hu'⟩ := hsignature o ho
    rw [credentials.ownSigner.settleOwn_of_ok hu'] at hr
    cases hr
    exact Policy.settle_of_ok (openPolicy_verdict credentials lister _ _) hu
  obtain ⟨granted, hgranted, -, hlength, hgrants⟩ := Client.grants_of_signed (p := credentials.openPolicy lister) hb moment
    moment caller fun o ho => by
      obtain ⟨u, hu, _⟩ := hsignature o ho
      exact ⟨openPolicy_verdict credentials lister _ _, u, hu⟩
  refine ⟨granted, hgranted, ?_, hlength, fun i o ho => ?_⟩
  · rw [Client.grants_of_settled hb moment moment caller hremote] at hgranted
    rewrite [Client.grants_own_of_ok credentials batch moment hown, ← hgranted,
      ownShown_transactionId? credentials lister batch moment caller]
    cases batch.application.get? errorCodeProperty <;> rfl
  · obtain ⟨u, hu, hgrant⟩ := hgrants i o ho
    rw [openPolicy_signature credentials lister batch moment caller o.toRequest rfl, Traversal.mapError_eq_ok_iff] at hu
    exact ⟨u, hu, hgrant⟩

/-- **When a signature fails**, both fail: the client with the cause of the first, the gate with its fault. -/
theorem Client.own_of_unsigned {i : Nat} {o : Operation} {cause : SigningError} (ho : batch.operations[i]? = some o)
    (hs : credentials.ownSigner.signedUrl (batch.ownShown moment) o.toRequest = .error cause)
    (hfirst : ∀ (j : Nat) (o' : Operation), j < i → batch.operations[j]? = some o' →
      ∃ u, credentials.ownSigner.signedUrl (batch.ownShown moment) o'.toRequest = .ok u) :
    (Client.own credentials : Client Id).grants moment batch = .error (.selfSigning (.storage cause)) ∧
      (Client.remote (Transport.direct (.ready (credentials.openPolicy lister)) moment caller)).grants moment batch
        = .error (.faulted "SigningFailure") := by
  constructor
  · refine Client.grants_own_of_error credentials batch moment (Traversal.mapM_eq_error ho
      (credentials.ownSigner.settleOwn_of_error hs) fun j o' hj ho' => ?_)
    obtain ⟨u, hu⟩ := hfirst j o' hj ho'
    exact ⟨_, credentials.ownSigner.settleOwn_of_ok hu⟩
  · have hfails : (credentials.openPolicy lister).signature
        (batch.shown (credentials.openPolicy lister) moment caller) o.toRequest = .error (.storage cause) := by
      rw [openPolicy_signature credentials lister batch moment caller o.toRequest rfl, hs, Except.mapError]
    exact Client.grants_of_failed_signature hb moment moment caller (List.mem_of_getElem? ho)
      (openPolicy_verdict credentials lister _ _) hfails

end Agreement

/-- **A client that signs for itself against a gate that allows everything.**  They agree, with the same grants in the same
transaction or each with its own name for a failed signature, exactly if the batch brings no error code along or a signature
fails.  A signature that fails is the first one's cause here and the fault of a signature there.  A batch with an error code
whose signatures are all made is granted by the gate, and fails with that code where the client answers itself. -/
theorem Client.own_agrees_iff (credentials : Credentials) (lister : BucketLister Id) (batch : Batch) (moment : Moment)
    (caller : Caller) (hb : batch.operations.length ≤ size64) :
    let sign (o : Operation) := credentials.ownSigner.signedUrl (batch.ownShown moment) o.toRequest
    let own := (Client.own credentials : Client Id).grants moment batch
    let gate : Gate Id := .ready (credentials.openPolicy lister)
    let remote := (Client.remote (Transport.direct gate moment caller)).grants moment batch
    ((∃ granted, own = .ok granted ∧ remote = .ok granted) ∨
        (∃ cause, own = .error (.selfSigning cause) ∧ remote = .error (.faulted "SigningFailure")) ↔
      batch.application.get? errorCodeProperty = none ∨ ∃ o ∈ batch.operations, ∃ cause, sign o = .error cause) ∧
    (∀ (i : Nat) (o : Operation) (cause : SigningError), batch.operations[i]? = some o → sign o = .error cause →
      (∀ (j : Nat) (o' : Operation), j < i → batch.operations[j]? = some o' → ∃ u, sign o' = .ok u) →
        own = .error (.selfSigning (.storage cause)) ∧ remote = .error (.faulted "SigningFailure")) ∧
    (∀ code, batch.application.get? errorCodeProperty = some code → (∀ o ∈ batch.operations, ∃ u, sign o = .ok u) →
      own = .error (.faulted code) ∧ ∃ granted, remote = .ok granted) := by
  intro sign own gate remote
  have hcases : (∀ o ∈ batch.operations, ∃ u, sign o = .ok u) ∨
      ∃ (i : Nat) (o : Operation) (cause : SigningError), batch.operations[i]? = some o ∧ sign o = .error cause ∧
        ∀ (j : Nat) (o' : Operation), j < i → batch.operations[j]? = some o' → ∃ u, sign o' = .ok u :=
    Traversal.all_ok_or_first_error sign batch.operations
  refine ⟨⟨fun hagree => ?_, fun hcondition => ?_⟩, fun i o cause ho hs hfirst => ?_, fun code hcode hsigned => ?_⟩
  · rcases hcases with hsigned | ⟨i, o, cause, ho, hs, _⟩
    · obtain ⟨granted, hremote, hown, -⟩ := Client.own_of_signed credentials lister batch moment caller hb hsigned
      cases hcode : batch.application.get? errorCodeProperty with
      | none => exact .inl rfl
      | some code =>
        have hown : own = .error (.faulted code) := by rw [hcode] at hown; exact hown
        rcases hagree with ⟨_, h, _⟩ | ⟨_, h, _⟩ <;> · rw [hown] at h; cases h
    · exact .inr ⟨o, List.mem_of_getElem? ho, cause, hs⟩
  · rcases hcases with hsigned | ⟨i, o, cause, ho, hs, hfirst⟩
    · obtain ⟨granted, hremote, hown, -⟩ := Client.own_of_signed credentials lister batch moment caller hb hsigned
      rcases hcondition with hcode | ⟨o, ho, cause, hs⟩
      · exact .inl ⟨granted, by rw [hcode] at hown; exact hown, hremote⟩
      · obtain ⟨u, hu⟩ := hsigned o ho
        rw [hs] at hu
        cases hu
    · obtain ⟨hown, hremote⟩ := Client.own_of_unsigned credentials lister batch moment caller hb ho hs hfirst
      exact .inr ⟨_, hown, hremote⟩
  · exact Client.own_of_unsigned credentials lister batch moment caller hb ho hs hfirst
  · obtain ⟨granted, hremote, hown, -⟩ := Client.own_of_signed credentials lister batch moment caller hb hsigned
    rw [hcode] at hown
    exact ⟨hown, granted, hremote⟩

/-- A batch with an error code of its own is granted by the open gate, and the client that signs it for itself faults. -/
theorem Client.own_agrees_iff_reserved :
    let batch : Batch := { operations := [⟨.get, "a.txt", none, .empty⟩]
                           application := Fields.ofList [(errorCodeProperty, "X")] }
    let gate : Gate Id := .ready (Credentials.test.openPolicy { list := fun _ => .ok [] })
    batch.operations.length ≤ size64 ∧
    (Client.own .test : Client Id).grants default batch = .error (.faulted "X") ∧
    ∃ granted, (Client.remote (Transport.direct gate default default)).grants default batch = .ok granted := by
  intro batch gate
  have hb : batch.operations.length ≤ size64 := by decide
  have hsigned : (Credentials.test.ownSigner.signedUrl (batch.ownShown default)
      (Operation.toRequest ⟨.get, "a.txt", none, .empty⟩)).toOption.isSome = true := by decide +kernel
  obtain ⟨_, _, hcode⟩ := Client.own_agrees_iff .test { list := fun _ => .ok [] } batch default default hb
  refine ⟨hb, hcode "X" (by decide) fun o ho => ?_⟩
  rw [List.mem_singleton.1 ho]
  cases h : Credentials.test.ownSigner.signedUrl (batch.ownShown default)
      (Operation.toRequest ⟨.get, "a.txt", none, .empty⟩) with
  | error cause => rw [h] at hsigned; cases hsigned
  | ok u => exact ⟨u, h⟩

end StorageGate
