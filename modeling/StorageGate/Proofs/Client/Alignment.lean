import StorageGate.Proofs.Client.Verdict
/-!
# Answers out of order

An answer is checked by the number of its requests and by what was decided, and not by their actions.  So a client reads
every answer as it reads the one whose requests have the actions of its operations (`ofAnswer_realigned`): an answer in
which the requests stand in another order, or are of another kind, is refused only for what would refuse it in order too.
Whatever it grants puts the action of an operation beside the URL at its place, for whatever action that was signed.
-/
namespace StorageGate

/-- Requests with the actions of the operations at their places; those without an operation stay as they are. -/
def realigned : List Operation → List Request → List Request
  | o :: operations, r :: requests => { r with action := o.action } :: realigned operations requests
  | [], requests => requests
  | _ :: _, [] => []

namespace Message

/-- An answer with the actions of the operations at their places. -/
def realigned (answer : Message) (operations : List Operation) : Message :=
  match answer.body with
  | .signing requests => answer.withBody (.signing (StorageGate.realigned operations requests))
  | .listing _ => answer

/-- Whether every request of an answer has the action of the operation at its place. -/
def Aligned (answer : Message) (operations : List Operation) : Prop :=
  ∀ (requests : List Request) (i : Nat) (o : Operation) (r : Request), answer.body = .signing requests →
    operations[i]? = some o → requests[i]? = some r → r.action = o.action

end Message

/-! ## Actions set right -/

theorem length_realigned : ∀ (operations : List Operation) (requests : List Request),
    (realigned operations requests).length = requests.length
  | [], _ => rfl
  | _ :: _, [] => rfl
  | _ :: operations, _ :: requests => congrArg (· + 1) (length_realigned operations requests)

theorem action_of_realigned : ∀ {operations : List Operation} {requests : List Request} {i : Nat} {o : Operation}
    {r : Request}, operations[i]? = some o → (realigned operations requests)[i]? = some r → r.action = o.action
  | [], _, i, _, _, ho, _ => by cases i <;> cases ho
  | _ :: _, [], i, _, _, _, hr => by cases i <;> cases hr
  | _ :: _, _ :: _, 0, _, _, ho, hr => by
    cases ho
    cases hr
    rfl
  | _ :: operations, _ :: requests, i + 1, o, r, ho, hr => @action_of_realigned operations requests i o r ho hr

theorem Message.aligned_realigned (answer : Message) (operations : List Operation) :
    (answer.realigned operations).Aligned operations := by
  intro requests i o r hbody ho hr
  unfold realigned at hbody
  cases hanswer : answer.body with
  | listing objects =>
    rw [hanswer] at hbody
    cases hanswer.symm.trans hbody
  | signing given =>
    rw [hanswer] at hbody
    cases hbody
    exact action_of_realigned ho hr

/-- The grant of an operation does not show the action of the request that it is made of. -/
theorem Operation.grant_withAction (o : Operation) (r : Request) (action : Action) :
    o.grant { r with action } = o.grant r := by
  unfold grant
  cases r.decision <;> rfl

theorem mapM_grant_realigned : ∀ (operations : List Operation) (requests : List Request),
    (operations.zip (realigned operations requests)).mapM (fun p => p.1.grant p.2)
      = (operations.zip requests).mapM fun p => p.1.grant p.2
  | [], _ => rfl
  | _ :: _, [] => rfl
  | o :: operations, r :: requests => by
    have hrest := mapM_grant_realigned operations requests
    have hone : o.grant { r with action := o.action } = o.grant r := o.grant_withAction r o.action
    simp only [realigned, List.zip_cons_cons, List.mapM_cons, hone, hrest]

/-- **An answer is read as if its actions were set right.** -/
theorem Granted.ofAnswer_realigned (operations : List Operation) (answer : Message) :
    ofAnswer operations (answer.realigned operations) = ofAnswer operations answer := by
  unfold Message.realigned
  cases hbody : answer.body with
  | listing objects => rfl
  | signing requests =>
    have hcode := answer.errorCode?_withBody (.signing (StorageGate.realigned operations requests))
    have hid : (answer.withBody (.signing (StorageGate.realigned operations requests))).transactionId?
        = answer.transactionId? := rfl
    simp only [ofAnswer, hcode, hid, Message.withBody_body, hbody, length_realigned, mapM_grant_realigned]

/-! ## Misaligned answers -/

namespace Client

theorem grants_of_sent {t : Transport Id} {batch : Batch} {text : String} {answer : Message}
    (hsent : t.exchange batch.toMessage.encode = .ok text) (hdecode : Message.decode text = .ok answer) (now : Moment) :
    (Client.remote t).grants now batch = Granted.ofAnswer batch.operations answer := by
  have hanswer : t.answer batch.toMessage = .ok answer := by
    refine (Traversal.bind_of_eq hsent _).trans ?_
    dsimp only
    rw [hdecode]
    rfl
  exact Traversal.bind_of_eq hanswer _

/-- **When a misaligned answer is refused**: only if it does not fulfil the batch in what is checked, its error code, its
length and its decisions.  It gets the very verdict of the answer whose actions are set right, and if that is a grant, each
operation is granted with its own action the URL that was signed for the request at its place. -/
theorem refuses_misaligned_iff (t : Transport Id) (now : Moment) (batch : Batch) {text : String} {answer : Message}
    (hsent : t.exchange batch.toMessage.encode = .ok text) (hdecode : Message.decode text = .ok answer) :
    let result := (Client.remote t).grants now batch
    ((¬ answer.Aligned batch.operations → ∀ granted, result ≠ .ok granted) ↔
      answer.Aligned batch.operations ∨ ∀ requests, ¬ answer.Fulfils batch.operations requests) ∧
    (result = Granted.ofAnswer batch.operations (answer.realigned batch.operations) ∧
      (answer.realigned batch.operations).Aligned batch.operations) ∧
    ∀ (granted : Granted) (requests : List Request) (i : Nat) (o : Operation) (r : Request), result = .ok granted →
      answer.body = .signing requests → batch.operations[i]? = some o → requests[i]? = some r →
      ∃ url, r.decision = .signed url ∧ granted.grants[i]? =
        some { action := o.action, url, key := r.key, bucket := r.bucket.or o.bucket, metadata := r.metadata } := by
  intro result
  have hresult : result = Granted.ofAnswer batch.operations answer := grants_of_sent hsent hdecode now
  refine ⟨⟨fun hrefused => ?_, fun hcondition hmisaligned granted hgranted => ?_⟩, ⟨?_, ?_⟩, ?_⟩
  · by_cases haligned : answer.Aligned batch.operations
    · exact .inl haligned
    · refine .inr fun requests hfulfils => ?_
      obtain ⟨granted, hgranted⟩ := exists_ofAnswer_of_fulfils hfulfils
      exact hrefused haligned granted (hresult.trans hgranted)
  · obtain ⟨requests, hfulfils, -⟩ := ofAnswer_eq_ok_iff.1 (hresult.symm.trans hgranted)
    rcases hcondition with haligned | hunfulfilled
    · exact hmisaligned haligned
    · exact hunfulfilled requests hfulfils
  · rw [hresult, Granted.ofAnswer_realigned]
  · exact answer.aligned_realigned batch.operations
  · intro granted requests i o r hgranted hbody ho hr
    obtain ⟨given, hfulfils, htells⟩ := ofAnswer_eq_ok_iff.1 (hresult.symm.trans hgranted)
    cases hbody.symm.trans hfulfils.body
    obtain ⟨url, hurl⟩ := hfulfils.signed r (List.mem_of_getElem? hr)
    exact ⟨url, hurl, htells.grant i o r url ho hr hurl⟩

/-- An answer that signs an upload and a download in the wrong order. -/
def swapped : Message where
  body := .signing [{ action := .put, key := "b", decision := .signed "https://h/b" },
    { action := .get, key := "a", decision := .signed "https://h/a" }]

/-- The swapped answer is taken: the download is granted the URL of the upload, and the upload that of the download. -/
theorem refuses_misaligned_iff_swapped :
    let t : Transport Id := { exchange := fun _ => .ok swapped.encode }
    let batch : Batch := { operations := [{ action := .get, key := "a" }, { action := .put, key := "b" }] }
    Message.decode swapped.encode = .ok swapped ∧ ¬ swapped.Aligned batch.operations ∧
    ∃ granted, (Client.remote t).grants default batch = .ok granted ∧
      granted.grants[0]? = some { action := .get, url := "https://h/b", key := "b", bucket := none, metadata := .empty } ∧
      granted.grants[1]? = some { action := .put, url := "https://h/a", key := "a", bucket := none, metadata := .empty } := by
  intro t batch
  have hdecode : Message.decode swapped.encode = .ok swapped := Message.decode_of_encode (by decide)
  obtain ⟨hrefuses, -, hgrant⟩ := refuses_misaligned_iff t default batch rfl hdecode
  have hmisaligned : ¬ swapped.Aligned batch.operations := fun h => absurd (h _ 0 _ _ rfl rfl rfl) (by decide)
  have hfulfils : swapped.Fulfils batch.operations _ := ⟨rfl, rfl, rfl, by simp⟩
  have htaken : ∃ granted, (Client.remote t).grants default batch = .ok granted := by
    by_contra hnone
    rcases hrefuses.1 fun _ granted hgranted => hnone ⟨granted, hgranted⟩ with haligned | hunfulfilled
    · exact hmisaligned haligned
    · exact hunfulfilled _ hfulfils
  obtain ⟨granted, hgranted⟩ := htaken
  obtain ⟨url₀, hurl₀, h₀⟩ := hgrant granted _ 0 _ _ hgranted rfl rfl rfl
  obtain ⟨url₁, hurl₁, h₁⟩ := hgrant granted _ 1 _ _ hgranted rfl rfl rfl
  cases hurl₀
  cases hurl₁
  exact ⟨hdecode, hmisaligned, granted, hgranted, h₀, h₁⟩

end Client
end StorageGate
