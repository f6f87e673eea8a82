import StorageGate.Proofs.Gate.Answer
import StorageGate.Proofs.Gate.Calls
/-!
# What a fault leaves behind

An exchange stops with a fault exactly if its gate has no policy or a call of its policy fails (`Gate.StoppedBy`).  The answer
is then the message that came in with the id and the error code and with nothing decided, neither by the policy before it
stopped nor by the client (`process_faults`).
-/
namespace StorageGate

/-- The fault that a call is, if it fails. -/
def PolicyCall.fault? : PolicyCall → Option ErrorCode
  | .sign _ _ (.error _) => some .signingFailure
  | .list _ (.error _) => some .listingFailure
  | _ => none

/-! ## Faults are calls that fail -/

section Calls

variable {e : Exchange} {calls : List PolicyCall}

theorem DecidesOne.error_iff {r : Request} {result : Except ErrorCode Request} (h : DecidesOne e r calls result)
    (fault : ErrorCode) : result = .error fault ↔ ∃ call ∈ calls, call.fault? = some fault := by
  cases h <;> simp [PolicyCall.fault?]

theorem Lists.error_iff {result : Except ErrorCode (List ListedObject)} (h : Lists e calls result) (fault : ErrorCode) :
    result = .error fault ↔ ∃ call ∈ calls, call.fault? = some fault := by
  cases h <;> simp [PolicyCall.fault?]

theorem map_eq_error_iff {ε α β : Type} {f : α → β} {x : Except ε α} {fault : ε} :
    x.map f = .error fault ↔ x = .error fault := by
  cases x <;> simp [Except.map]

theorem DecidesAll.error_iff {requests : List Request} {result : Except ErrorCode (List Request)}
    (h : DecidesAll e requests calls result) (fault : ErrorCode) :
    result = .error fault ↔ ∃ call ∈ calls, call.fault? = some fault := by
  induction h with
  | done => simp
  | stopped one =>
    rw [← one.error_iff fault]
    simp
  | next one all ih =>
    -- A request that is decided had no call that failed, so the call that fails is about the rest.
    have hone : ¬ ∃ call ∈ _, PolicyCall.fault? call = some fault := fun h => nomatch (one.error_iff fault).2 h
    rw [map_eq_error_iff, ih]
    constructor
    · rintro ⟨call, hc, hfault⟩
      exact ⟨call, List.mem_append_right _ hc, hfault⟩
    · rintro ⟨call, hc, hfault⟩
      rcases List.mem_append.1 hc with hc | hc
      · exact absurd ⟨call, hc, hfault⟩ hone
      · exact ⟨call, hc, hfault⟩

/-- **The body of an exchange fails exactly with a call that fails.** -/
theorem Makes.error_iff {result : Except ErrorCode Body} (h : Makes e calls result) (fault : ErrorCode) :
    result = .error fault ↔ ∃ call ∈ calls, call.fault? = some fault := by
  cases h with
  | signing _ all => rw [map_eq_error_iff, all.error_iff]
  | listing _ lists => rw [map_eq_error_iff, lists.error_iff]

end Calls

theorem Exchange.errorCode?_answered {e : Exchange} (he : e.message.errorCode? = none) (result : Except ErrorCode Body)
    (code : String) : (e.answered result).errorCode? = some code ↔ ∃ fault, result = .error fault ∧ fault.name = code := by
  cases result with
  | ok body =>
    rw [answered, Message.errorCode?_withBody, he]
    simp
  | error fault =>
    rw [answered, Message.errorCode?_faulted]
    simp

section Runs

variable {inbound answer : Message} {moment : Moment} {caller : Caller} {calls : List PolicyCall}

/-- **The error code of an answer** is the name of a call that failed. -/
theorem Runs.errorCode?_eq_some_iff (h : Runs (inbound.received moment caller) calls answer) (code : String) :
    answer.errorCode? = some code ↔ ∃ fault, (∃ call ∈ calls, call.fault? = some fault) ∧ fault.name = code := by
  cases h with
  | @opened id calls result makes =>
    refine (Exchange.errorCode?_answered (Message.errorCode?_received _ _ _ id) result code).trans ?_
    refine exists_congr fun fault => and_congr_left fun _ => ?_
    rw [makes.error_iff]
    simp [PolicyCall.fault?]

/-- An answer with an error code is the message that came in, with the id and a fault. -/
theorem Runs.eq_faulted (h : Runs (inbound.received moment caller) calls answer) {code : String}
    (hcode : answer.errorCode? = some code) :
    ∃ id fault, calls.head? = some (.transactionId (inbound.received moment caller) id) ∧ fault.name = code ∧
      answer = ((inbound.received moment caller).withTransactionId id).message.faulted fault := by
  cases h with
  | @opened id calls result makes =>
    obtain ⟨fault, rfl, hname⟩ :=
      (Exchange.errorCode?_answered (Message.errorCode?_received _ _ _ id) result code).1 hcode
    exact ⟨id, fault, rfl, hname, rfl⟩

end Runs

/-- The message that came in, with an id and a fault, and nothing decided. -/
theorem Message.received_faulted (inbound : Message) (moment : Moment) (caller : Caller) (id : String) (fault : ErrorCode) :
    ((inbound.received moment caller).withTransactionId id).message.faulted fault =
      { application := (inbound.application.erase errorCodeProperty).insert errorCodeProperty fault.name
        properties := if id = "" then inbound.properties else inbound.properties.insert transactionIdProperty id
        body := match inbound.body with
          | .signing requests => .signing (requests.map fun r => { r with decision := .pending })
          | .listing _ => .listing [] } := by
  rw [Message.received_withTransactionId]
  cases inbound with
  | mk application properties body => cases body <;> rfl

namespace Gate

variable {m : Type → Type} [Monad m]

/-- What stops an exchange: a gate without a policy, or a call that fails. -/
def StoppedBy (g : Gate m) (calls : List PolicyCall) (fault : ErrorCode) : Prop :=
  match g with
  | .ready _ => ∃ call ∈ calls, call.fault? = some fault
  | .failed _ => fault = .initialization

/-- Whether an exchange is given an id: by the first call of the policy, or, without one, its own or a new one. -/
def Assigns (g : Gate m) (e : Exchange) (calls : List PolicyCall) (id : String) : Prop :=
  match g with
  | .ready _ => calls.head? = some (.transactionId e id)
  | .failed _ => id = e.transactionId?.getD e.moment.freshId

variable [LawfulMonad m]

theorem watches_process (g : Gate m) (moment : Moment) (caller : Caller) (inbound : Message) :
    Watches (g.watched.process moment caller inbound) (g.process moment caller inbound) := by
  cases g with
  | ready p => exact Policy.watches_run _
  | failed cause =>
    intro before
    rw [watched, run_process_failed]
    simp

/-- **An answer with an error code decides nothing**, whatever effects the components have.  It is the message that came in,
with the transaction id, with the error code in place of the client's, and with every request as it came but undecided or no
object listed.  There is such a code exactly if the exchange was stopped, and it is the name of what stopped it. -/
theorem process_faults (g : Gate m) (moment : Moment) (caller : Caller) (inbound : Message) :
    let before := inbound.received moment caller
    let run : m (Message × List PolicyCall) := (g.watched.process moment caller inbound).run []
    Prod.fst <$> run = g.process moment caller inbound ∧
    SatisfiesM (fun out =>
      (∀ code, out.1.errorCode? = some code → ∃ id, g.Assigns before out.2 id ∧ out.1 =
        { application := (inbound.application.erase errorCodeProperty).insert errorCodeProperty code
          properties := if id = "" then inbound.properties else inbound.properties.insert transactionIdProperty id
          body := match inbound.body with
            | .signing requests => .signing (requests.map fun r => { r with decision := .pending })
            | .listing _ => .listing [] }) ∧
      ∀ code, out.1.errorCode? = some code ↔ ∃ fault, g.StoppedBy out.2 fault ∧ fault.name = code) run := by
  intro before run
  refine ⟨watches_process g moment caller inbound [], ?_⟩
  cases g with
  | failed cause =>
    have hrun : run = pure ((before.withTransactionId (before.transactionId?.getD before.moment.freshId)).message.faulted
        .initialization, []) := by
      simp only [run, watched, process, TransactionIds.ulids, pure_bind, StateT.run_pure]
      rfl
    rw [hrun]
    refine .pure ⟨fun code hcode => ?_, fun code => ?_⟩
    · cases Option.some.inj ((Message.errorCode?_faulted _ _).symm.trans hcode)
      exact ⟨_, rfl, Message.received_faulted inbound moment caller _ .initialization⟩
    · simp [StoppedBy, Message.errorCode?_faulted]
  | ready p =>
    refine (Policy.records_run (Policy.admits_all p) before []).imp fun {out} hout => ?_
    obtain ⟨answer, all⟩ := out
    obtain ⟨calls, hcalls, -, hruns⟩ := hout
    cases hcalls
    refine ⟨fun code hcode => ?_, hruns.errorCode?_eq_some_iff⟩
    obtain ⟨id, fault, hid, rfl, hanswer⟩ := hruns.eq_faulted hcode
    exact ⟨id, hid, hanswer.trans (Message.received_faulted inbound moment caller id fault)⟩

/-- A signature that fails after one was made and one refused: neither is in the answer, nor what the client sent along. -/
theorem process_faults_late :
    let bad : Request := { action := .head, key := "bad", decision := .signed "forged" }
    let inbound : Message :=
      { application := .ofList [(errorCodeProperty, "X"), ("a", "b")]
        body := .signing [{ action := .get, key := "a", decision := .declined "forged" }, { action := .put, key := "no" }, bad] }
    let answer : Message := (Gate.ready storing).process default default inbound
    answer =
      { application := .ofList [(errorCodeProperty, "SigningFailure"), ("a", "b")]
        properties := .ofList [(transactionIdProperty, "t")]
        body := .signing [{ action := .get, key := "a" }, { action := .put, key := "no" },
                          { action := .head, key := "bad" }] } := by
  intro bad inbound answer
  obtain ⟨hrun, halways⟩ := process_faults (.ready storing) default default inbound
  obtain ⟨hanswer, hcode⟩ := SatisfiesM_Id_eq.1 halways
  have hstopped : (Gate.ready storing).StoppedBy
      (((Gate.ready storing).watched.process default default inbound).run [] : Id _).2 .signingFailure := by
    refine ⟨.sign ((inbound.received default default).withTransactionId "t") bad.undecided (.error (.unsupported "bad")),
      ?_, rfl⟩
    exact List.mem_of_getLast? rfl
  obtain ⟨id, hid, hfaulted⟩ := hanswer "SigningFailure" ((hcode _).2 ⟨_, hstopped, rfl⟩)
  have hid' : "t" = id := by cases hid; rfl
  subst hid'
  have hout : answer = _ := hrun.symm.trans hfaulted
  exact hout.trans (by decide)

end Gate
end StorageGate
