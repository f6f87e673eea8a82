import StorageGate.Proofs.Gate.Run
/-!
# What a gate decides

A batch is answered by the message that came in, with another body or with a fault (`process_cases`).  So its properties are
kept but for two, and if no signature fails, every request is decided in its place (`process_decides`).
-/
namespace StorageGate

namespace Gate

section Endings

variable (p : Policy Id) (moment : Moment) (caller : Caller) (inbound : Message)

/-- **A run leaves its message with another body, or with a fault.** -/
theorem process_cases :
    (∃ body, (Gate.ready p).process moment caller inbound
      = (p.opened (inbound.received moment caller)).message.withBody body) ∨
    ∃ code, (Gate.ready p).process moment caller inbound
      = (p.opened (inbound.received moment caller)).message.faulted code := by
  cases h : p.outcome (p.opened (inbound.received moment caller)) with
  | ok body => exact .inl ⟨body, Policy.run_of_outcome_ok h⟩
  | error code => exact .inr ⟨code, Policy.run_of_outcome_error h⟩

/-- **Of the application properties only the error code is touched**, however the exchange ends. -/
theorem application?_process {name : String} (h : name ≠ errorCodeProperty) :
    ((Gate.ready p).process moment caller inbound : Message).application? name = inbound.application? name := by
  have hopened : (p.opened (inbound.received moment caller)).message.application? name = inbound.application? name := by
    rw [Policy.opened, Exchange.withTransactionId_message]
    exact (Fields.get?_erase _ _ _).trans (if_neg h)
  rcases process_cases p moment caller inbound with ⟨body, heq⟩ | ⟨code, heq⟩
  · rw [heq]
    exact hopened
  · rw [heq]
    exact (Fields.get?_insert_of_ne _ _ h).trans hopened

/-- **Of the message properties only the transaction id is touched**, however the exchange ends. -/
theorem property?_process {name : String} (h : name ≠ transactionIdProperty) :
    ((Gate.ready p).process moment caller inbound : Message).properties.get? name = inbound.properties.get? name := by
  have hopened : (p.opened (inbound.received moment caller)).message.properties.get? name
      = inbound.properties.get? name := by
    rw [Policy.opened, Exchange.withTransactionId_message]
    dsimp only
    split
    · rfl
    · exact Fields.get?_insert_of_ne _ _ h
  rcases process_cases p moment caller inbound with ⟨body, heq⟩ | ⟨code, heq⟩ <;>
    · rw [heq]
      exact hopened

/-- **The only error code of a batch is that of a signature that failed.** -/
theorem errorCode?_process {requests : List Request} (h : inbound.body = .signing requests) (code : String) :
    ((Gate.ready p).process moment caller inbound : Message).errorCode? = some code ↔ code = "SigningFailure" ∧
      ∃ r ∈ requests, p.verdict (p.opened (inbound.received moment caller)) r = .allow ∧
        ∃ cause, p.signature (p.opened (inbound.received moment caller)) r = .error cause := by
  have hbody : (inbound.received moment caller).message.body = .signing requests := h
  have hprocess : (Gate.ready p).process moment caller inbound = p.run (inbound.received moment caller) := rfl
  cases hd : requests.mapM (p.settle (p.opened (inbound.received moment caller))) with
  | ok decided =>
    have hopened : (p.opened (inbound.received moment caller)).message.errorCode? = none :=
      Message.errorCode?_received inbound moment caller _
    rw [hprocess, Policy.run_of_settled hbody hd, Message.errorCode?_withBody, hopened]
    constructor
    · exact nofun
    · rintro ⟨-, r, hr, hv, cause, hs⟩
      obtain ⟨_, hfail⟩ := Traversal.exists_mapM_eq_error hr (Policy.settle_of_error hv hs)
      rw [hd] at hfail
      cases hfail
  | error fault =>
    rw [hprocess, Policy.run_of_unsettled hbody hd, Message.errorCode?_faulted]
    obtain ⟨r, hr, hfail⟩ := Traversal.exists_of_mapM_eq_error hd
    obtain ⟨-, hv, cause, hs⟩ := Policy.settle_eq_error hfail
    constructor
    · intro hcode
      exact ⟨(Option.some.inj hcode).symm, r, hr, hv, cause, hs⟩
    · rintro ⟨rfl, -⟩
      rfl

end Endings

/-! ## What is in the answer -/

/-- **A batch is answered in full.**  If every signature is made that the authorizer allows, each request is answered in its
place: signed with the URL and the changes of the signer if it was allowed, declined and otherwise as it came if it was not,
whatever decision it came with.  However the exchange ends, the properties of the message are kept but for the error code and
the transaction id, and the only error code is that of a signature that failed. -/
theorem process_decides (p : Policy Id) (moment : Moment) (caller : Caller) (inbound : Message) (requests : List Request)
    (h : inbound.body = .signing requests) :
    let e := p.opened (inbound.received moment caller)
    let answer : Message := (Gate.ready p).process moment caller inbound
    ((∀ r ∈ requests, p.verdict e r = .allow → ∃ u, p.signature e r = .ok u) →
      answer.errorCode? = none ∧ ∃ decided, answer.body = .signing decided ∧ decided.length = requests.length ∧
        ∀ (i : Nat) (r : Request), requests[i]? = some r → ∃ d, decided[i]? = some d ∧ d.action = r.action ∧
          d.decision ≠ .pending ∧ (d.isSigned = true ↔ p.verdict e r = .allow) ∧
          (∀ reason, p.verdict e r = .deny reason →
            d = { r with decision := .declined (reason.getD "Unknown") }) ∧
          (p.verdict e r = .allow → ∃ u, p.signature e r = .ok u ∧
            d = { action := r.action, key := u.key.getD r.key, bucket := u.bucket.or r.bucket
                  metadata := u.metadata.getD r.metadata, decision := .signed u.url })) ∧
    (∀ name, name ≠ errorCodeProperty → answer.application? name = inbound.application? name) ∧
    (∀ name, name ≠ transactionIdProperty → answer.properties.get? name = inbound.properties.get? name) ∧
    (∀ code, answer.errorCode? = some code ↔ code = "SigningFailure" ∧
      ∃ r ∈ requests, p.verdict e r = .allow ∧ ∃ cause, p.signature e r = .error cause) := by
  intro e answer
  refine ⟨fun hsigned => ?_, fun name => application?_process p moment caller inbound,
    fun name => property?_process p moment caller inbound, errorCode?_process p moment caller inbound h⟩
  · obtain ⟨decided, hd⟩ := Traversal.exists_mapM_eq_ok fun r hr => Policy.exists_settle_eq_ok (hsigned r hr)
    have hanswer : answer = e.message.withBody (.signing decided) :=
      Policy.run_of_settled (e := inbound.received moment caller) h hd
    obtain ⟨hlength, hget⟩ := Traversal.getElem?_of_mapM hd
    rw [hanswer, Message.errorCode?_withBody]
    refine ⟨Message.errorCode?_received inbound moment caller _, decided, rfl, hlength, fun i r hr => ?_⟩
    obtain ⟨d, hsettle, hdi⟩ := hget i r hr
    refine ⟨d, hdi, ?_⟩
    rcases Policy.settle_eq_ok hsettle with ⟨reason, hv, rfl⟩ | ⟨hv, u, hu, rfl⟩
    · rw [hv]
      exact ⟨rfl, nofun, ⟨nofun, nofun⟩, fun _ hreason => by cases hreason; rfl, nofun⟩
    · rw [hv]
      exact ⟨rfl, nofun, ⟨fun _ => rfl, fun _ => rfl⟩, nofun, fun _ => ⟨u, hu, rfl⟩⟩

/-- A policy by keys alone: `no` is refused without a reason, `bad` cannot be signed, and every other key is signed as the
object of that key in the bucket `vault`. -/
def storing : Policy Id where
  authorizer :=
    { request := fun _ r => if r.key = "no" then .deny none else .allow
      listing := fun _ => .allow }
  signer :=
    { sign := fun _ r => if r.key = "bad" then .error (.unsupported "bad") else .ok { url := r.key, bucket := some "vault" } }
  lister := { list := fun _ => .error (.unavailable "closed") }
  transactionIds := { next := fun _ => "t" }

/-- Decisions that the client sent along are none: what was declined is signed, and what was signed is declined. -/
theorem process_decides_forged :
    let inbound : Message :=
      { application := .ofList [(errorCodeProperty, "X")]
        body := .signing [{ action := .get, key := "a", bucket := some "b", decision := .declined "forged" },
                          { action := .put, key := "no", decision := .signed "forged" }] }
    let answer : Message := (Gate.ready storing).process default default inbound
    answer.errorCode? = none ∧ ∃ decided, answer.body = .signing decided ∧ decided.length = 2 ∧
      decided[0]? = some { action := .get, key := "a", bucket := some "vault", decision := .signed "a" } ∧
      decided[1]? = some { action := .put, key := "no", decision := .declined "Unknown" } := by
  intro inbound answer
  obtain ⟨hdecides, -⟩ := process_decides storing default default inbound _ rfl
  obtain ⟨hcode, decided, hbody, hlength, hget⟩ := hdecides fun r hr hv => by
    simp only [List.mem_cons, List.not_mem_nil, or_false] at hr
    rcases hr with rfl | rfl
    · exact ⟨_, rfl⟩
    · exact absurd hv (by decide)
  obtain ⟨d₀, hd₀, -, -, -, -, hsigned⟩ := hget 0 _ rfl
  obtain ⟨d₁, hd₁, -, -, -, hdeclined, -⟩ := hget 1 _ rfl
  obtain ⟨u, hu, rfl⟩ := hsigned (by decide)
  cases hu
  rw [hdeclined none (by decide)] at hd₁
  exact ⟨hcode, decided, hbody, hlength, hd₀, hd₁⟩

end Gate
end StorageGate
