import StorageGate.Proofs.Client.Direct
import StorageGate.Proofs.Config.Resolution
import StorageGate.Proofs.Gate.Fault
import StorageGate.Proofs.Storage.ObjectUrl
/-!
# Gates that are not configured

A gate whose configuration leaves one role without a component has no policy at all.  It answers every message, with the
fault of its initialization and a transaction id, and puts nothing into service: whatever was asked is undecided, and no
component is called (`ofConfig_fails_closed`).
-/
namespace StorageGate

theorem Moment.freshId_ne (moment : Moment) : moment.freshId ≠ "" := by
  intro h
  have hlength := congrArg (·.toList.length) h
  simp [freshId, Ulid.text, Ulid.digits] at hlength

theorem Message.length_le_of_decode {text : String} {m : Message} (h : decode text = .ok m) : m.body.length ≤ size64 :=
  length_le_of_ofDocument h

/-- A fault leaves no more parts than there were. -/
theorem Message.length_faulted_le (m : Message) (code : ErrorCode) : (m.faulted code).body.length ≤ m.body.length := by
  unfold faulted
  cases h : m.body <;> simp [withApplication, Body.length]

namespace Gate

variable {m : Type → Type} [Monad m] [LawfulMonad m]

theorem process_failed (cause : InitializationError) (moment : Moment) (caller : Caller) (inbound : Message) :
    (Gate.failed cause : Gate m).process moment caller inbound = pure (((inbound.received moment caller).withTransactionId
      (inbound.transactionId?.getD moment.freshId)).message.faulted .initialization) := by
  unfold process TransactionIds.ulids
  dsimp only
  rw [pure_bind]
  rfl

theorem handle_failed (cause : InitializationError) (moment : Moment) (caller : Caller) {document : String}
    {inbound : Message} (h : Message.decode document = .ok inbound) :
    (Gate.failed cause : Gate m).handle moment caller document = pure (.ofMessage (((inbound.received moment
      caller).withTransactionId (inbound.transactionId?.getD moment.freshId)).message.faulted .initialization)) := by
  unfold handle
  rw [h]
  dsimp only
  rw [process_failed, pure_bind]

/-- **A misconfigured gate fails closed**, whatever is registered and configured.  A configuration is not resolved exactly if
some role lacks its component, and the error is what the first such role lacks.  The gate is then out of service as a whole:
every document that is a message is answered at once, without a call of any component, with status 200, the error code of
the initialization, a transaction id that is the message's own if it has one, and every request pending or no object. -/
theorem ofConfig_fails_closed (steps : List (Registration m)) (config : Config) :
    let registry := Registry.ofRegistrations steps
    ((∃ e, registry.resolve config = .error e) ↔ ∃ role e, Registry.Lacks steps config role e) ∧
    (∀ e, registry.resolve config = .error e ↔ ∃ role, Registry.Lacks steps config role e ∧
      ∀ earlier : Role, earlier.rank < role.rank → ∀ e', ¬ Registry.Lacks steps config earlier e') ∧
    ∀ role e, Registry.Lacks steps config role e → ∀ (moment : Moment) (caller : Caller) (document : String)
      (inbound : Message), Message.decode document = .ok inbound → ∃ answer id,
        (Gate.ofConfig registry config).handle moment caller document = pure { status := 200, body := answer.encode } ∧
        Message.decode answer.encode = .ok answer ∧
        answer.application.get? "gatekeeperErrorCode" = some "GatekeeperInitializationError" ∧
        answer.transactionId? = some id ∧ id ≠ "" ∧ (∀ own, inbound.transactionId? = some own → id = own) ∧
        answer.body = match inbound.body with
          | .signing requests => .signing (requests.map fun r => { r with decision := .pending })
          | .listing _ => .listing [] := by
  intro registry
  refine ⟨Registry.exists_resolve_eq_error_iff, fun e => Registry.resolve_eq_error_iff, ?_⟩
  intro role e hlacks moment caller document inbound hinbound
  obtain ⟨cause, hcause⟩ : ∃ cause, registry.resolve config = .error cause :=
    Registry.exists_resolve_eq_error_iff.2 ⟨role, e, hlacks⟩
  let id := inbound.transactionId?.getD moment.freshId
  let shown := (inbound.received moment caller).withTransactionId id
  have hid : id ≠ "" := by
    cases hown : inbound.transactionId? with
    | none => simpa [id, hown] using moment.freshId_ne
    | some own => simpa [id, hown] using (Option.filter_eq_some_iff.1 hown).2
  have hreply : Reply.ofMessage (shown.message.faulted .initialization)
      = { status := 200, body := (shown.message.faulted .initialization).encode } :=
    Reply.ofMessage_of_errorCode (Message.errorCode?_faulted _ .initialization)
  have hhandle : (Gate.ofConfig registry config).handle moment caller document
      = pure (Reply.ofMessage (shown.message.faulted .initialization)) := by
    rw [ofConfig, hcause]
    exact handle_failed cause moment caller hinbound
  have hlength : (shown.message.faulted .initialization).body.length ≤ size64 := by
    refine (Message.length_faulted_le _ _).trans ?_
    rw [Exchange.withTransactionId_body]
    exact Message.length_le_of_decode (m := inbound) hinbound
  refine ⟨shown.message.faulted .initialization, id, hhandle.trans (congrArg pure hreply), Message.decode_of_encode hlength,
    Message.errorCode?_faulted _ _, Exchange.transactionId?_given _ hid, hid, ?_, ?_⟩
  · intro own hown
    simp [id, hown]
  · refine (congrArg Message.body (Message.received_faulted inbound moment caller id .initialization)).trans ?_
    cases inbound.body <;> rfl

/-- A lister that is not registered: the gate has all it needs to sign, and signs nothing. -/
theorem ofConfig_fails_closed_lister :
    let config : Config := { credentials := some .test, bucketLister := { name := "local" } }
    let gate : Gate Id := Gate.ofConfig Registry.standard config
    let inbound : Message :=
      { properties := .ofList [("transactionId", "t")]
        body := .signing [{ action := .put, key := "a", decision := .signed "forged" }] }
    (Registry.standard : Registry Id).resolve config = .error (.unknownComponent .bucketLister "local") ∧
    ∃ answer, gate.handle default default inbound.encode = { status := 200, body := answer.encode } ∧
      Message.decode answer.encode = .ok answer ∧
      answer.application.get? "gatekeeperErrorCode" = some "GatekeeperInitializationError" ∧
      answer.transactionId? = some "t" ∧ answer.body = .signing [{ action := .put, key := "a" }] := by
  intro config gate inbound
  have hlacks : Registry.Lacks (Registry.standardRegistrations (m := Id)) config .bucketLister
      (.unknownComponent .bucketLister "local") := .unknown (by simp [Registry.Absent, Registry.standardRegistrations, config, Config.component])
  have hinbound : Message.decode inbound.encode = .ok inbound := Message.decode_of_encode (by decide)
  obtain ⟨-, hresolve, hanswers⟩ := ofConfig_fails_closed (Registry.standardRegistrations (m := Id)) config
  rw [Registry.ofRegistrations_standard] at hresolve hanswers
  obtain ⟨answer, id, hhandle, hdecode, hcode, hid, -, hown, hbody⟩ := hanswers _ _ hlacks default default _ inbound hinbound
  obtain rfl := hown "t" (by decide)
  refine ⟨(hresolve _).2 ⟨_, hlacks, fun earlier hlt => ?_⟩, answer, hhandle, hdecode, hcode, hid, hbody⟩
  refine Registry.exists_component_iff.1 ?_
  rw [Registry.ofRegistrations_standard]
  cases earlier <;> first | exact ⟨_, rfl⟩ | exact absurd hlt (by decide)

end Gate
end StorageGate
