import StorageGate.Client
import StorageGate.Proofs.Document.RoundTrip
import StorageGate.Proofs.Gate.Effects
import StorageGate.Proofs.Gate.Run
/-!
# A client and a gate at hand

Over a transport that hands the document straight to a gate, a batch makes two trips through text and is judged between
them.  Both trips keep the message (`answer_direct`), so what the client gets is its own check of what the gate decided:
the fault (`grants_of_unsettled`), or what the decided requests grant (`grants_of_settled`).
-/
namespace StorageGate

/-- The transport that hands a document to a gate and brings back the body of the reply. -/
def Transport.direct {m : Type → Type} [Monad m] (g : Gate m) (moment : Moment) (caller : Caller) : Transport m where
  exchange document := do return .ok (← g.handle moment caller document).body

namespace Batch

variable (batch : Batch)

@[simp] theorem toMessage_body : batch.toMessage.body = .signing (batch.operations.map Operation.toRequest) := by
  unfold toMessage
  cases batch.priorFailure <;> rfl

@[simp] theorem toMessage_transactionId? : batch.toMessage.transactionId? = none := by
  unfold toMessage
  cases batch.priorFailure <;> rfl

/-- What a client says of itself is said under names of its own, so an error code in a batch is the caller's. -/
theorem toMessage_errorCode? : batch.toMessage.errorCode? = batch.application.get? errorCodeProperty := by
  have hversion : errorCodeProperty ≠ clientVersionProperty := by decide
  have hprior : errorCodeProperty ≠ priorFailureProperty := by decide
  unfold toMessage
  cases batch.priorFailure with
  | none => exact Fields.get?_insert_of_ne _ _ hversion
  | some failure => exact (Fields.get?_insert_of_ne _ _ hprior).trans (Fields.get?_insert_of_ne _ _ hversion)

/-- The exchange that a batch makes at a gate. -/
def exchange (moment : Moment) (caller : Caller) : Exchange :=
  { message := batch.toMessage.withoutApplication errorCodeProperty, caller, moment }

/-- That exchange as the components of a policy are shown it, with its transaction id. -/
def shown (p : Policy Id) (moment : Moment) (caller : Caller) : Exchange := p.opened (batch.exchange moment caller)

theorem exchange_body (moment : Moment) (caller : Caller) :
    (batch.exchange moment caller).message.body = .signing (batch.operations.map Operation.toRequest) :=
  batch.toMessage_body

theorem exchange_transactionId? (moment : Moment) (caller : Caller) :
    (batch.exchange moment caller).transactionId? = none :=
  batch.toMessage_transactionId?

theorem shown_transactionId? (p : Policy Id) (moment : Moment) (caller : Caller) :
    (batch.shown p moment caller).transactionId?
      = if p.assignedId (batch.exchange moment caller) = "" then none
        else some (p.assignedId (batch.exchange moment caller)) :=
  Exchange.transactionId?_withTransactionId (batch.exchange_transactionId? moment caller) _

end Batch

/-! ## The two trips -/

theorem Policy.length_run_body (p : Policy Id) {e : Exchange} {requests : List Request}
    (h : e.message.body = .signing requests) : (p.run e).body.length = requests.length := by
  cases hd : requests.mapM (p.settle (p.opened e)) with
  | ok decided =>
    rw [Policy.run_of_settled h hd]
    exact (Traversal.getElem?_of_mapM hd).1
  | error code =>
    rw [Policy.run_of_unsettled h hd, Message.faulted]
    simp [Policy.opened, h, Message.withApplication, Body.length]

theorem Message.decode_of_encode {m : Message} (h : m.body.length ≤ size64) : decode m.encode = .ok m := by
  rw [decode, encode, Document.parse_text, ofDocument_toDocument h]

/-- **Both trips keep the message**: the answer is one that the gate makes of the message itself. -/
theorem Transport.always_direct {m : Type → Type} [Monad m] [LawfulMonad m] {g : Gate m} {message : Message}
    {P : Message → Prop} (hmessage : message.body.length ≤ size64) {moment : Moment} {caller : Caller}
    (hg : SatisfiesM P (g.process moment caller message)) (hlength : ∀ answer, P answer → answer.body.length ≤ size64) :
    SatisfiesM (fun result => ∃ answer, result = .ok answer ∧ P answer) ((Transport.direct g moment caller).answer message) := by
  have hreply : SatisfiesM (fun reply => ∃ answer, reply = Reply.ofMessage answer ∧ P answer)
      (g.handle moment caller message.encode) := by
    rw [Gate.handle, Message.decode_of_encode hmessage]
    exact hg.bind fun answer h => .pure ⟨answer, rfl, h⟩
  have hsent : SatisfiesM (fun sent => ∃ answer : Message, sent = .ok answer.encode ∧ P answer)
      ((Transport.direct g moment caller).exchange message.encode) :=
    hreply.bind fun reply h => by
      obtain ⟨answer, rfl, h⟩ := h
      exact .pure ⟨answer, rfl, h⟩
  refine hsent.bind ?_
  rintro _ ⟨answer, rfl, h⟩
  refine .pure ⟨answer, ?_, h⟩
  rw [Message.decode_of_encode (hlength answer h)]
  rfl

/-- Over components without effects that is one answer. -/
theorem Transport.answer_of_length {p : Policy Id} {message : Message} {moment : Moment} {caller : Caller}
    (hmessage : message.body.length ≤ size64)
    (hanswer : (p.run (message.received moment caller)).body.length ≤ size64) :
    (Transport.direct (.ready p) moment caller).answer message = .ok (p.run (message.received moment caller)) := by
  have hprocess : SatisfiesM (· = p.run (message.received moment caller)) ((Gate.ready p).process moment caller message) :=
    SatisfiesM_Id_eq.2 rfl
  obtain ⟨answer, hanswer, rfl⟩ := SatisfiesM_Id_eq.1
    (Transport.always_direct hmessage hprocess fun answer h => by rwa [h])
  exact hanswer

theorem Transport.answer_direct {p : Policy Id} {message : Message} {requests : List Request}
    (h : message.body = .signing requests) (hlength : requests.length ≤ size64) (moment : Moment) (caller : Caller) :
    (Transport.direct (.ready p) moment caller).answer message = .ok (p.run (message.received moment caller)) := by
  refine answer_of_length (by rw [h]; exact hlength) ?_
  rwa [p.length_run_body (e := message.received moment caller) h]

/-! ## What an answer grants -/

namespace Granted

variable {operations : List Operation} {answer : Message}

theorem ofAnswer_of_errorCode {code : String} (h : answer.errorCode? = some code) :
    ofAnswer operations answer = .error (.faulted code) := by
  rw [ofAnswer, h]

theorem ofAnswer_of_signing {requests : List Request} (hcode : answer.errorCode? = none)
    (hbody : answer.body = .signing requests) (hlength : requests.length = operations.length) :
    ofAnswer operations answer = (match (operations.zip requests).mapM fun p => p.1.grant p.2 with
      | .error reason => .error (.rejected reason)
      | .ok grants => .ok { transactionId := answer.transactionId?, grants }) := by
  rw [ofAnswer, hcode]
  dsimp only
  rw [hbody]
  dsimp only
  rewrite [if_neg (not_not_intro hlength)]
  rfl

end Granted

/-- The grant of a signed URL for an operation: what the signer changes, and the operation's own where it does not. -/
def SignedUrl.grant (u : SignedUrl) (o : Operation) : Grant where
  action := o.action
  url := u.url
  key := u.key.getD o.key
  bucket := u.bucket.or o.bucket
  metadata := u.metadata.getD o.metadata

theorem Operation.grant_of_signed (o : Operation) (u : SignedUrl) :
    o.grant { u.amend o.toRequest with decision := .signed u.url } = .ok (u.grant o) := by
  have hbucket : (u.bucket.or o.bucket).or o.bucket = u.bucket.or o.bucket := by
    cases u.bucket <;> cases o.bucket <;> rfl
  show Except.ok _ = Except.ok _
  rw [SignedUrl.grant]
  congr 2

section Grants

variable {p : Policy Id} {batch : Batch} (hb : batch.operations.length ≤ size64) (now moment : Moment) (caller : Caller)

include hb

theorem Client.grants_direct : (Client.remote (Transport.direct (.ready p) moment caller)).grants now batch
    = Granted.ofAnswer batch.operations (p.run (batch.exchange moment caller)) := by
  have hanswer := Transport.answer_direct (p := p) batch.toMessage_body (by rw [List.length_map]; exact hb) moment caller
  rw [Client.grants, Client.answer, hanswer]
  rfl

theorem Client.grants_of_unsettled {code : ErrorCode}
    (hd : batch.operations.mapM (fun o => p.settle (batch.shown p moment caller) o.toRequest) = .error code) :
    (Client.remote (Transport.direct (.ready p) moment caller)).grants now batch
      = .error (.faulted ErrorCode.signingFailure.name) := by
  rw [Client.grants_direct hb, Policy.run_of_unsettled (batch.exchange_body moment caller) (by rw [List.mapM_map]; exact hd)]
  exact Granted.ofAnswer_of_errorCode (Message.errorCode?_faulted _ _)

theorem Client.grants_of_settled {decided : List Request}
    (hd : batch.operations.mapM (fun o => p.settle (batch.shown p moment caller) o.toRequest) = .ok decided) :
    (Client.remote (Transport.direct (.ready p) moment caller)).grants now batch
      = (match (batch.operations.zip decided).mapM fun q => q.1.grant q.2 with
        | .error reason => .error (.rejected reason)
        | .ok grants => .ok { transactionId := (batch.shown p moment caller).transactionId?, grants }) := by
  rw [Client.grants_direct hb, Policy.run_of_settled (batch.exchange_body moment caller) (by rw [List.mapM_map]; exact hd)]
  refine (Granted.ofAnswer_of_signing ?_ rfl (Traversal.getElem?_of_mapM hd).1).trans rfl
  rw [Message.errorCode?_withBody]
  exact Message.errorCode?_received batch.toMessage moment caller _

end Grants

/-! ## What an answer lists -/

/-- The message that asks for a listing. -/
def Client.listingMessage (application : Fields) : Message :=
  Message.withApplication { application, body := .listing [] } clientVersionProperty clientVersion

theorem objectsOfAnswer_of_errorCode {answer : Message} {code : String} (h : answer.errorCode? = some code) :
    objectsOfAnswer answer = .error (.faulted code) := by
  rw [objectsOfAnswer, h]

theorem objectsOfAnswer_of_listing {answer : Message} {objects : List ListedObject} (hcode : answer.errorCode? = none)
    (hbody : answer.body = .listing objects) : objectsOfAnswer answer = .ok objects := by
  rw [objectsOfAnswer, hcode, hbody]

end StorageGate
