import StorageGate.Gate
import StorageGate.Proofs.Fields
import StorageGate.Proofs.Traversal
/-!
# Runs of a gate without effects

Over components that are functions of what they are shown, deciding a request is one function of the exchange and the
request (`settle`), and deciding all of them walks over it (`decideAll_eq_mapM`).  A request is always pending when it is
decided, so no decision is refused and the only fault of a batch is a signature that fails.
-/
namespace StorageGate

/-! ## Setting and reading messages -/

namespace Message

@[simp] theorem withBody_body (m : Message) (body : Body) : (m.withBody body).body = body := rfl

@[simp] theorem errorCode?_withBody (m : Message) (body : Body) : (m.withBody body).errorCode? = m.errorCode? := rfl

@[simp] theorem errorCode?_withoutApplication (m : Message) : (m.withoutApplication errorCodeProperty).errorCode? = none :=
  Fields.get?_erase_self _ _

@[simp] theorem errorCode?_withApplication (m : Message) (name : String) :
    (m.withApplication errorCodeProperty name).errorCode? = some name :=
  Fields.get?_insert_self _ _ _

@[simp] theorem errorCode?_faulted (m : Message) (code : ErrorCode) : (m.faulted code).errorCode? = some code.name :=
  errorCode?_withApplication _ _

theorem transactionId?_withProperty (m : Message) {id : String} (h : id ≠ "") :
    (m.withProperty transactionIdProperty id).transactionId? = some id := by
  rw [transactionId?, withProperty, Fields.get?_insert_self, Option.filter_some, if_pos (bne_iff_ne.2 h)]

end Message

theorem ErrorCode.ofName?_name (code : ErrorCode) : ofName? code.name = some code := by
  cases code <;> decide

/-- An answer is sent with the status that goes with its error code. -/
theorem Reply.ofMessage_of_errorCode {answer : Message} {code : ErrorCode} (h : answer.errorCode? = some code.name) :
    ofMessage answer = { status := code.status, body := answer.encode } := by
  simp [ofMessage, h, ErrorCode.ofName?_name]

namespace Exchange

@[simp] theorem withTransactionId_body (e : Exchange) (id : String) :
    (e.withTransactionId id).message.body = e.message.body := by
  unfold withTransactionId
  split <;> rfl

@[simp] theorem withTransactionId_errorCode? (e : Exchange) (id : String) :
    (e.withTransactionId id).message.errorCode? = e.message.errorCode? := by
  unfold withTransactionId
  split <;> rfl

@[simp] theorem withTransactionId_moment (e : Exchange) (id : String) : (e.withTransactionId id).moment = e.moment := by
  unfold withTransactionId
  split <;> rfl

/-- The message of an exchange that is given an id: its transaction id is that, unless it is empty. -/
theorem withTransactionId_message (e : Exchange) (id : String) : (e.withTransactionId id).message = { e.message with
    properties := if id = "" then e.message.properties else e.message.properties.insert transactionIdProperty id } := by
  unfold withTransactionId
  split <;> rfl

theorem transactionId?_given (e : Exchange) {id : String} (h : id ≠ "") :
    (e.withTransactionId id).transactionId? = some id := by
  unfold withTransactionId
  rw [if_neg h]
  exact Message.transactionId?_withProperty _ h

/-- What an exchange without an id has for one once it is given: the id, unless it is empty. -/
theorem transactionId?_withTransactionId {e : Exchange} (he : e.transactionId? = none) (id : String) :
    (e.withTransactionId id).transactionId? = if id = "" then none else some id := by
  by_cases h : id = ""
  · rw [if_pos h, withTransactionId, if_pos h]
    exact he
  · rw [if_neg h, transactionId?_given e h]

end Exchange

/-- The exchange that a message makes at a gate, without an error code that the client put in. -/
def Message.received (inbound : Message) (moment : Moment) (caller : Caller) : Exchange :=
  { message := inbound.withoutApplication errorCodeProperty, caller, moment }

theorem Message.received_withTransactionId (inbound : Message) (moment : Moment) (caller : Caller) (id : String) :
    (inbound.received moment caller).withTransactionId id =
      { message :=
          { application := inbound.application.erase errorCodeProperty
            properties := if id = "" then inbound.properties else inbound.properties.insert transactionIdProperty id
            body := inbound.body }
        caller
        moment } := by
  unfold Exchange.withTransactionId
  split <;> rfl

theorem Message.errorCode?_received (inbound : Message) (moment : Moment) (caller : Caller) (id : String) :
    ((inbound.received moment caller).withTransactionId id).message.errorCode? = none := by
  rw [Exchange.withTransactionId_errorCode?]
  exact errorCode?_withoutApplication _

/-! ## Deciding -/

namespace Policy

variable (p : Policy Id) (e : Exchange)

/-- What the authorizer says of a request, which it is shown undecided. -/
def verdict (r : Request) : Verdict := p.authorizer.request e r.undecided

/-- What the signer makes of a request, which it is shown undecided. -/
def signature (r : Request) : Except SigningFailure SignedUrl := p.signer.sign e r.undecided

/-- What becomes of a request: it is declined, or signed with the changes of the signer, or cannot be signed. -/
def settle (r : Request) : Except ErrorCode Request :=
  match p.verdict e r with
  | .deny reason => .ok { r with decision := .declined (reason.getD unknownReason) }
  | .allow =>
    match p.signature e r with
    | .error _ => .error .signingFailure
    | .ok signed => .ok { signed.amend r with decision := .signed signed.url }

variable {p e}

theorem settle_of_deny {r : Request} {reason : Option String} (h : p.verdict e r = .deny reason) :
    p.settle e r = .ok { r with decision := .declined (reason.getD unknownReason) } := by
  rw [settle, h]

theorem settle_of_error {r : Request} {cause : SigningFailure} (hv : p.verdict e r = .allow)
    (hs : p.signature e r = .error cause) : p.settle e r = .error .signingFailure := by
  rw [settle, hv]
  dsimp only
  rw [hs]

theorem settle_of_ok {r : Request} {signed : SignedUrl} (hv : p.verdict e r = .allow)
    (hs : p.signature e r = .ok signed) :
    p.settle e r = .ok { signed.amend r with decision := .signed signed.url } := by
  rw [settle, hv]
  dsimp only
  rw [hs]

/-- **Nothing but a signature fails**, and only one that is asked for. -/
theorem settle_eq_error {r : Request} {code : ErrorCode} (h : p.settle e r = .error code) :
    code = .signingFailure ∧ p.verdict e r = .allow ∧ ∃ cause, p.signature e r = .error cause := by
  cases hv : p.verdict e r with
  | deny reason => rw [settle_of_deny hv] at h; cases h
  | allow =>
    cases hs : p.signature e r with
    | ok signed => rw [settle_of_ok hv hs] at h; cases h
    | error cause =>
      rw [settle_of_error hv hs] at h
      cases h
      exact ⟨rfl, rfl, cause, rfl⟩

/-- **What is decided was refused or signed**, with nothing changed but the decision in the one case, and what the signer
changes in the other. -/
theorem settle_eq_ok {r d : Request} (h : p.settle e r = .ok d) :
    (∃ reason, p.verdict e r = .deny reason ∧ d = { r with decision := .declined (reason.getD unknownReason) }) ∨
    (p.verdict e r = .allow ∧ ∃ u, p.signature e r = .ok u ∧ d = { u.amend r with decision := .signed u.url }) := by
  cases hv : p.verdict e r with
  | deny reason =>
    rw [settle_of_deny hv] at h
    cases h
    exact .inl ⟨reason, rfl, rfl⟩
  | allow =>
    cases hs : p.signature e r with
    | error cause => rw [settle_of_error hv hs] at h; cases h
    | ok u =>
      rw [settle_of_ok hv hs] at h
      cases h
      exact .inr ⟨rfl, u, rfl, rfl⟩

theorem exists_settle_eq_ok {r : Request} (h : p.verdict e r = .allow → ∃ u, p.signature e r = .ok u) :
    ∃ d, p.settle e r = .ok d := by
  cases hv : p.verdict e r with
  | deny reason => exact ⟨_, settle_of_deny hv⟩
  | allow =>
    obtain ⟨u, hu⟩ := h hv
    exact ⟨_, settle_of_ok hv hu⟩

variable (p e)

/-- **One decision**: the request is pending when it is decided, so its decision stands. -/
theorem decideOne_eq_settle (r : Request) : p.decideOne e r = p.settle e r := by
  rw [decideOne]
  cases hv : p.verdict e r with
  | deny reason =>
    rw [settle_of_deny hv]
    exact Traversal.bind_of_eq hv _
  | allow =>
    refine (Traversal.bind_of_eq hv _).trans ?_
    cases hs : p.signature e r with
    | error cause =>
      rw [settle_of_error hv hs]
      exact Traversal.bind_of_eq hs _
    | ok signed =>
      rw [settle_of_ok hv hs]
      exact Traversal.bind_of_eq hs _

/-- **All decisions**, in order and up to the first fault. -/
theorem decideAll_eq_mapM : ∀ requests : List Request, p.decideAll e requests = requests.mapM (p.settle e)
  | [] => rfl
  | r :: rest => by
    have hone := decideOne_eq_settle p e r
    have hrest := decideAll_eq_mapM rest
    rw [decideAll]
    cases hr : p.settle e r with
    | error code =>
      rw [Traversal.mapM_cons_of_error hr]
      exact Traversal.bind_of_eq (hone.trans hr) _
    | ok decided =>
      rw [Traversal.mapM_cons_of_ok hr]
      refine (Traversal.bind_of_eq (hone.trans hr) _).trans ((Traversal.bind_of_eq hrest _).trans ?_)
      cases rest.mapM (p.settle e) <;> rfl

/-! ## Whole runs -/

/-- The id that the policy gives an exchange. -/
def assignedId : String := p.transactionIds.next e

/-- The exchange as every component after the first is shown it. -/
def opened : Exchange := e.withTransactionId (p.assignedId e)

theorem opened_body : (p.opened e).message.body = e.message.body := Exchange.withTransactionId_body _ _

variable {p e}

theorem run_of_outcome_ok {body : Body} (h : p.outcome (p.opened e) = .ok body) :
    p.run e = (p.opened e).message.withBody body :=
  (Traversal.bind_of_eq rfl _).trans (Traversal.bind_of_eq h _)

theorem run_of_outcome_error {code : ErrorCode} (h : p.outcome (p.opened e) = .error code) :
    p.run e = (p.opened e).message.faulted code :=
  (Traversal.bind_of_eq rfl _).trans (Traversal.bind_of_eq h _)

theorem outcome_of_signing {requests : List Request} (h : e.message.body = .signing requests) :
    p.outcome e = (requests.mapM (p.settle e)).map .signing := by
  unfold outcome
  rw [h]
  exact Traversal.bind_of_eq (decideAll_eq_mapM p e requests) _

/-- **A batch that is decided** is answered with its decided requests. -/
theorem run_of_settled {requests decided : List Request} (h : e.message.body = .signing requests)
    (hd : requests.mapM (p.settle (p.opened e)) = .ok decided) :
    p.run e = (p.opened e).message.withBody (.signing decided) := by
  refine run_of_outcome_ok ?_
  rw [outcome_of_signing ((opened_body p e).trans h), hd]
  rfl

/-- **A batch that is not decided** is answered with the fault that a signature is. -/
theorem run_of_unsettled {requests : List Request} {code : ErrorCode} (h : e.message.body = .signing requests)
    (hd : requests.mapM (p.settle (p.opened e)) = .error code) :
    p.run e = (p.opened e).message.faulted .signingFailure := by
  obtain ⟨r, _, hr⟩ := Traversal.exists_of_mapM_eq_error hd
  obtain ⟨rfl, _⟩ := settle_eq_error hr
  refine run_of_outcome_error ?_
  rw [outcome_of_signing ((opened_body p e).trans h), hd]
  rfl

end Policy
end StorageGate
