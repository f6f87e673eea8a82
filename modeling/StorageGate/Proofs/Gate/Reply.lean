import StorageGate.Gate.Router
import StorageGate.Proofs.Gate.Decided
import StorageGate.Proofs.Gate.Misconfigured
/-!
# Replies over HTTP

Whatever is posted to a gate, the body of the response is a document that can be read, and its status goes with the error
code in it.  The code says that the message is malformed exactly if no message was posted, so no client can bring it about
with an error code of its own (`respond_consistent`).
-/
namespace StorageGate

theorem ErrorCode.name_inj {code other : ErrorCode} : code.name = other.name ↔ code = other := by
  refine ⟨fun h => ?_, fun h => h ▸ rfl⟩
  have hname := code.ofName?_name
  rw [h, other.ofName?_name] at hname
  exact (Option.some.inj hname).symm

theorem PolicyCall.fault?_ne_malformed (call : PolicyCall) : call.fault? ≠ some .malformedMessage := by
  unfold fault?
  split <;> simp

namespace Reply

@[simp] theorem toResponse_body (reply : Reply) : reply.toResponse.body = Utf8.encode reply.body.toList := rfl

@[simp] theorem ofMessage_body (answer : Message) : (ofMessage answer).body = answer.encode := rfl

theorem status_of_errorCode? {answer : Message} {code : ErrorCode} (h : answer.errorCode? = some code.name) :
    (ofMessage answer).status = code.status := by
  rw [ofMessage_of_errorCode h]

theorem status_of_none {answer : Message} (h : answer.errorCode? = none) : (ofMessage answer).status = 200 := by
  simp [ofMessage, h]

/-- A reply that can be read, and has no error code but those of some faults. -/
def Tells (Faults : ErrorCode → Prop) (reply : Reply) : Prop :=
  ∃ answer : Message, reply = ofMessage answer ∧ answer.body.length ≤ size64 ∧
    ∀ name, answer.errorCode? = some name → ∃ code, Faults code ∧ code.name = name

theorem tells_ofError (code : ErrorCode) {Faults : ErrorCode → Prop} (h : Faults code) : (ofError code).Tells Faults := by
  refine ⟨_, rfl, Nat.zero_le _, fun name hname => ⟨code, h, ?_⟩⟩
  exact Option.some.inj ((Message.errorCode?_withApplication _ _).symm.trans hname)

end Reply

/-! ## Answers that can be numbered -/

/-- The calls in which no more objects are listed than there are numbers. -/
def PolicyCall.ListsNumbered : PolicyCall → Prop
  | .list _ (.ok objects) => objects.length ≤ size64
  | _ => True

theorem Makes.length_le {e : Exchange} {calls : List PolicyCall} {body : Body} (h : Makes e calls (.ok body))
    (hcalls : ∀ call ∈ calls, call.ListsNumbered) (he : e.message.body.length ≤ size64) : body.length ≤ size64 := by
  cases hbody : e.message.body with
  | signing requests =>
    obtain ⟨decided, hall, hmade⟩ := h.of_signing hbody
    cases decided with
    | error code => cases hmade
    | ok decided =>
      cases hmade
      have hdecided : List.Forall₂ (Decided fun _ _ => True) requests decided :=
        hall.forall₂ (fun _ _ _ => trivial) decided rfl
      rw [hbody, Body.length, hdecided.length_eq] at he
      exact he
  | listing objects =>
    obtain ⟨listed, hlists, hmade⟩ := h.of_listing hbody
    cases hlists with
    | refused reason =>
      cases hmade
      exact Nat.zero_le _
    | listed objects =>
      cases hmade
      exact hcalls (.list e (.ok objects)) (by simp)
    | failed cause => cases hmade

theorem Runs.length_le {e : Exchange} {calls : List PolicyCall} {answer : Message} (h : Runs e calls answer)
    (hcalls : ∀ call ∈ calls, call.ListsNumbered) (he : e.message.body.length ≤ size64) : answer.body.length ≤ size64 := by
  cases h with
  | @opened id others result makes =>
    have hopened : (e.withTransactionId id).message.body.length ≤ size64 := by rwa [Exchange.withTransactionId_body]
    cases result with
    | ok body => exact makes.length_le (fun call hc => hcalls call (List.mem_cons_of_mem _ hc)) hopened
    | error code => exact (Message.length_faulted_le _ code).trans hopened

namespace Gate

variable {m : Type → Type} [Monad m]

/-- Whether the lister of a gate lists no more objects than there are numbers, which is more than are ever held. -/
def ListsNumbered : Gate m → Prop
  | .ready p => ∀ e, SatisfiesM (fun result => ∀ objects, result = .ok objects → objects.length ≤ size64) (p.lister.list e)
  | .failed _ => True

variable [LawfulMonad m]

theorem admits_listsNumbered {p : Policy m} (h : (Gate.ready p).ListsNumbered) : p.Admits PolicyCall.ListsNumbered where
  transactionId _ := .trivial
  authorize _ _ := .trivial
  authorizeListing _ := .trivial
  sign _ _ := .trivial
  list e := (h e).imp fun {result} hresult => by
    cases result with
    | error cause => trivial
    | ok objects => exact hresult objects rfl

/-- **A message is not answered as malformed**, whatever it says. -/
theorem tells_process (g : Gate m) (h : g.ListsNumbered) (moment : Moment) (caller : Caller) {inbound : Message}
    (hinbound : inbound.body.length ≤ size64) :
    SatisfiesM (fun answer => (Reply.ofMessage answer).Tells (· ≠ .malformedMessage)) (g.process moment caller inbound) := by
  cases g with
  | failed cause =>
    rw [process_failed]
    refine .pure ⟨_, rfl, ?_, fun name hname => ⟨.initialization, by simp, ?_⟩⟩
    · refine (Message.length_faulted_le _ _).trans ?_
      rwa [Exchange.withTransactionId_body]
    · exact Option.some.inj ((Message.errorCode?_faulted _ _).symm.trans hname)
  | ready p =>
    refine (Policy.always_run (admits_listsNumbered h) (inbound.received moment caller)).imp fun {answer} hanswer => ?_
    obtain ⟨calls, hcalls, hruns⟩ := hanswer
    refine ⟨answer, rfl, hruns.length_le hcalls hinbound, fun name hname => ?_⟩
    obtain ⟨code, ⟨call, -, hfault⟩, rfl⟩ := (hruns.errorCode?_eq_some_iff name).1 hname
    exact ⟨code, fun he => call.fault?_ne_malformed (he ▸ hfault), rfl⟩

end Gate

/-! ## What is posted -/

namespace Http

theorem Request.document?_eq_some_iff {r : Request} {document : String} : r.document? = some document ↔
    r.body.length ≤ maxRequestBytes ∧ Utf8.encode document.toList = r.body := by
  unfold document?
  by_cases hlong : maxRequestBytes < r.body.length
  · simp [hlong]
  · rw [if_neg hlong, Option.map_eq_some_iff]
    constructor
    · rintro ⟨text, htext, rfl⟩
      exact ⟨Nat.le_of_not_lt hlong, by rw [String.toList_ofList]; exact Utf8.decode?_eq_some_iff.1 htext⟩
    · rintro ⟨-, htext⟩
      exact ⟨document.toList, Utf8.decode?_eq_some_iff.2 htext, String.ofList_toList⟩

/-- Whether a request brings no message: its body is too long, or no text, or the text of no message. -/
def Request.IsMalformed (r : Request) : Prop :=
  maxRequestBytes < r.body.length ∨ (∀ document : String, Utf8.encode document.toList ≠ r.body) ∨
    ∃ (document : String) (cause : DocumentError), Utf8.encode document.toList = r.body ∧
      Message.decode document = .error cause

theorem Request.not_isMalformed {r : Request} {document : String} {inbound : Message} (hdocument : r.document? = some document)
    (hinbound : Message.decode document = .ok inbound) : ¬ r.IsMalformed := by
  obtain ⟨hlength, htext⟩ := document?_eq_some_iff.1 hdocument
  rintro (hlong | hnone | ⟨other, cause, hother, hcause⟩)
  · omega
  · exact hnone document htext
  · obtain rfl := String.toList_inj.1 (Utf8.encode_injective (hother.trans htext.symm))
    rw [hinbound] at hcause
    cases hcause

theorem Request.isMalformed_of_none {r : Request} (h : r.document? = none) : r.IsMalformed := by
  by_cases hlong : maxRequestBytes < r.body.length
  · exact .inl hlong
  · refine .inr (.inl fun document htext => ?_)
    rw [document?_eq_some_iff.2 ⟨Nat.le_of_not_lt hlong, htext⟩] at h
    cases h

/-- Whether a response has an answer that can be read, and the status that goes with its error code. -/
structure Response.Tells (response : Response) (answer : Message) : Prop where
  contentType : response.contentType = some documentType
  body : ∃ text : String, Utf8.decode? response.body = some text.toList ∧ Message.decode text = .ok answer
  ok : answer.application.get? "gatekeeperErrorCode" = none → response.status = 200
  fault : ∀ name, answer.application.get? "gatekeeperErrorCode" = some name →
    ∃ code : ErrorCode, code.name = name ∧ response.status = code.status

end Http

theorem Reply.tells_toResponse {answer : Message} (hlength : answer.body.length ≤ size64)
    (hcodes : ∀ name, answer.errorCode? = some name → ∃ code : ErrorCode, code.name = name) :
    (ofMessage answer).toResponse.Tells answer where
  contentType := rfl
  body := by
    refine ⟨answer.encode, ?_, Message.decode_of_encode hlength⟩
    rw [toResponse_body, ofMessage_body, Utf8.decode?_encode]
  ok := status_of_none
  fault name hname := by
    obtain ⟨code, rfl⟩ := hcodes name hname
    exact ⟨code, rfl, status_of_errorCode? hname⟩

/-- Whether a reply tells what it must of what was posted. -/
def Reply.Answers (reply : Reply) (r : Http.Request) : Prop :=
  ∃ answer, reply.toResponse.Tells answer ∧ (answer.errorCode? = some ErrorCode.malformedMessage.name ↔ r.IsMalformed)

theorem Reply.answers_of_malformed {r : Http.Request} (h : r.IsMalformed) : (ofError .malformedMessage).Answers r := by
  have hcode := Message.errorCode?_withApplication {} ErrorCode.malformedMessage.name
  refine ⟨_, tells_toResponse (Nat.zero_le _) fun name hname => ⟨.malformedMessage, ?_⟩, iff_of_true hcode h⟩
  exact Option.some.inj (hcode.symm.trans hname)

theorem Reply.Tells.answers {reply : Reply} {r : Http.Request} (hreply : reply.Tells (· ≠ .malformedMessage))
    (h : ¬ r.IsMalformed) : reply.Answers r := by
  obtain ⟨answer, rfl, hlength, hcodes⟩ := hreply
  refine ⟨answer, tells_toResponse hlength fun name hname => ?_, iff_of_false (fun hcode => ?_) h⟩
  · obtain ⟨code, -, rfl⟩ := hcodes name hname
    exact ⟨code, rfl⟩
  · obtain ⟨code, hother, hname⟩ := hcodes _ hcode
    exact hother (ErrorCode.name_inj.1 hname)

/-! ## The router -/

namespace Breakdown

variable {n : Type → Type} [Monad n] [LawfulMonad n] {α β : Type}

theorem run_tryCatch (x : ExceptT Breakdown n α) (a : α) :
    (tryCatchThe Breakdown x fun _ => return a).run = (fun outcome => .ok (outcome.toOption.getD a)) <$> x.run := by
  rw [map_eq_pure_bind]
  refine bind_congr fun outcome => ?_
  cases outcome <;> rfl

end Breakdown

namespace Router

section

variable {m : Type → Type} [Monad m] [MonadExceptOf Breakdown m] (router : Router m) (moment : Moment) {r : Http.Request}

/-- A component that breaks down is answered like any other fault inside. -/
theorem answer_of_document {document : String} (h : r.document? = some document) : router.answer moment r =
    tryCatchThe Breakdown (router.gate.handle moment (Caller.ofRequest r) document) fun _ => return .ofError .internalError := by
  unfold answer
  rw [h]

theorem respond_of_posted [LawfulMonad m] (hroute : router.route.accepts r.path = true) (hmethod : r.method = "POST") :
    router.respond moment r = Reply.toResponse <$> router.answer moment r := by
  unfold respond
  rw [hroute]
  simp [hmethod]

end

variable {n : Type → Type} [Monad n] [LawfulMonad n] (router : Router (ExceptT Breakdown n)) (moment : Moment)
  {r : Http.Request}

/-- Every document gets a reply, also one at which a component breaks down. -/
theorem handle_answers (hlists : router.gate.ListsNumbered) {document : String} (hdocument : r.document? = some document) :
    SatisfiesM (fun outcome => (outcome.toOption.getD (Reply.ofError .internalError)).Answers r)
      (router.gate.handle moment (Caller.ofRequest r) document).run := by
  unfold Gate.handle
  cases hinbound : Message.decode document with
  | error cause =>
    exact .pure (Reply.answers_of_malformed
      (.inr (.inr ⟨document, cause, (Http.Request.document?_eq_some_iff.1 hdocument).2, hinbound⟩)))
  | ok inbound =>
    have hr : ¬ r.IsMalformed := Http.Request.not_isMalformed hdocument hinbound
    have hprocess := router.gate.tells_process hlists moment (Caller.ofRequest r) (Message.length_le_of_decode hinbound)
    have hhandle := SatisfiesM_ExceptT_eq.1 (hprocess.bind fun answer hanswer => .pure hanswer)
    refine hhandle.imp fun {outcome} houtcome => ?_
    cases outcome with
    | ok reply => exact (houtcome reply rfl).answers hr
    | error breakdown => exact (Reply.tells_ofError .internalError (by simp)).answers hr

theorem answer_answers (hlists : router.gate.ListsNumbered) :
    SatisfiesM (fun result => ∃ reply, result = .ok reply ∧ reply.Answers r) (router.answer moment r).run := by
  cases hdocument : r.document? with
  | none =>
    unfold answer
    rw [hdocument]
    exact .pure ⟨_, rfl, Reply.answers_of_malformed (Http.Request.isMalformed_of_none hdocument)⟩
  | some document =>
    rw [answer_of_document router moment hdocument, Breakdown.run_tryCatch]
    exact (handle_answers router moment hlists hdocument).map fun {outcome} hanswer => ⟨_, rfl, hanswer⟩

/-- **Every exchange gets an answer that can be read.**  Whatever is posted to a route of a gate, the response is a document;
its status is 200 if the message in it has no error code, and otherwise that of the code, which is one of the gate's own.  The
code says that the message is malformed exactly if the body was too long, no text or no message. -/
theorem respond_consistent (hlists : router.gate.ListsNumbered) (hroute : router.route.accepts r.path = true)
    (hmethod : r.method = "POST") :
    SatisfiesM (fun result => ∃ response, result = .ok response ∧ ∃ answer, response.Tells answer ∧
        (answer.application.get? "gatekeeperErrorCode" = some "MalformedMessage" ↔ r.IsMalformed))
      (router.respond moment r).run := by
  rw [respond_of_posted router moment hroute hmethod, ExceptT.run_map]
  refine (answer_answers router moment hlists).map fun {result} hresult => ?_
  obtain ⟨reply, rfl, hanswer⟩ := hresult
  exact ⟨reply.toResponse, rfl, hanswer⟩

/-- A message that calls itself malformed is not answered as one, and a byte that begins no character is. -/
theorem respond_consistent_claimed :
    let policy : Policy (ExceptT Breakdown Id) :=
      { authorizer := denyAll none, signer := { sign := fun _ _ => throw ⟨⟩ }, lister := { list := fun _ => return .ok [] }
        transactionIds := .ulids }
    let router : Router (ExceptT Breakdown Id) := { gate := .ready policy }
    let inbound : Message :=
      { application := .ofList [("gatekeeperErrorCode", "MalformedMessage")], body := .signing [{ action := .get, key := "a" }] }
    let claimed : Http.Request := { target := "/gatekeeper", body := Utf8.encode inbound.encode.toList }
    let garbage : Http.Request := { target := "/gatekeeper", body := [0xFF] }
    (∃ response answer, Id.run (router.respond default claimed).run = .ok response ∧ response.Tells answer ∧
      answer.application.get? "gatekeeperErrorCode" ≠ some "MalformedMessage") ∧
    ∃ response answer, Id.run (router.respond default garbage).run = .ok response ∧ response.Tells answer ∧
      answer.application.get? "gatekeeperErrorCode" = some "MalformedMessage" := by
  intro policy router inbound claimed garbage
  have hlists : router.gate.ListsNumbered := fun e => .pure fun objects hobjects => by
    cases hobjects
    exact Nat.zero_le _
  have hpath : ({ target := "/gatekeeper" } : Http.Request).path = "/gatekeeper" := by decide
  have hroute (body : List UInt8) : router.route.accepts ({ target := "/gatekeeper", body } : Http.Request).path = true :=
    Route.accepts_ofPath.2 hpath
  have hposted (text : String) (hlength : (Utf8.encode text.toList).length ≤ maxRequestBytes) :
      ({ target := "/gatekeeper", body := Utf8.encode text.toList } : Http.Request).document? = some text :=
    Http.Request.document?_eq_some_iff.2 ⟨hlength, rfl⟩
  have hlength : (Utf8.encode inbound.encode.toList).length ≤ maxRequestBytes := by decide +kernel
  have hdocument : claimed.document? = some inbound.encode := hposted _ hlength
  have hclaimed : ¬ claimed.IsMalformed :=
    Http.Request.not_isMalformed hdocument (Message.decode_of_encode (by decide))
  have hgarbage : garbage.IsMalformed := Http.Request.isMalformed_of_none (by decide +kernel)
  obtain ⟨response, hresponse, answer, htells, hiff⟩ :=
    SatisfiesM_Id_eq.1 (respond_consistent router default (r := claimed) hlists (hroute _) rfl)
  obtain ⟨response', hresponse', answer', htells', hiff'⟩ :=
    SatisfiesM_Id_eq.1 (respond_consistent router default (r := garbage) hlists (hroute _) rfl)
  exact ⟨⟨response, answer, hresponse, htells, fun hcode => hclaimed (hiff.1 hcode)⟩,
    response', answer', hresponse', htells', hiff'.2 hgarbage⟩

end Router
end StorageGate
