import StorageGate.Proofs.Gate.Decided
import StorageGate.Proofs.Storage.Presigned
/-!
# Exchanges that are not tracked

A provider that gives no ids leaves an exchange with the id that its message brings.  So the answer has an id, and the
uploads that are signed have its stamp, exactly if the client put one in (`process_untracked`).
-/
namespace StorageGate

/-- The metadata of an upload in an exchange with an id, or in one without. -/
def stampedMetadata (id? : Option String) (metadata : Fields) : Fields :=
  match id? with
  | some id => metadata.insert transactionIdMetadata id
  | none => metadata

/-- Whether a provider gives no exchange an id. -/
def TransactionIds.GivesNone {m : Type → Type} [Monad m] (transactionIds : TransactionIds m) : Prop :=
  ∀ e, SatisfiesM (· = "") (transactionIds.next e)

theorem TransactionIds.untracked_givesNone {m : Type → Type} [Monad m] [LawfulMonad m] :
    (untracked : TransactionIds m).GivesNone := fun _ => .pure rfl

/-- The calls of a policy that gives no ids, whose signatures are those that `Made` says. -/
def PolicyCall.IsUntracked (Made : Exchange → Request → SignedUrl → Prop) : PolicyCall → Prop
  | .transactionId _ id => id = ""
  | .sign e r (.ok u) => Made e r u
  | _ => True

theorem Exchange.transactionId?_answered (e : Exchange) (result : Except ErrorCode Body) :
    (e.answered result).transactionId? = e.transactionId? := by
  cases result <;> rfl

/-- Where no id is given, all calls are shown the exchange as it is. -/
theorem Runs.of_untracked {e : Exchange} {calls : List PolicyCall} {answer : Message} (h : Runs e calls answer)
    {Made : Exchange → Request → SignedUrl → Prop} (hcalls : ∀ call ∈ calls, call.IsUntracked Made) :
    ∃ others result, (∀ call ∈ others, call.IsUntracked Made) ∧ Makes e others result ∧ answer = e.answered result := by
  cases h with
  | @opened id others result makes =>
    have hid : id = "" := hcalls _ List.mem_cons_self
    have hsame : e.withTransactionId id = e := if_pos hid
    rw [hsame] at makes ⊢
    exact ⟨others, result, fun call hc => hcalls call (List.mem_cons_of_mem _ hc), makes, rfl⟩

/-- An upload that is decided has the stamp of the exchange if it is signed. -/
theorem Decided.metadata_of_put {s : StorageSigner} {e : Exchange} {r d : Request}
    (h : Decided (s.signedUrl e · = .ok ·) r d) (hput : r.action = .put) (hsigned : d.isSigned = true) :
    d.metadata = stampedMetadata e.transactionId? r.metadata := by
  cases h with
  | declined reason => cases hsigned
  | @signed u made =>
    have hmetadata : StorageSigner.signedMetadata? e r.undecided = some (stampedMetadata e.transactionId? r.metadata) := by
      show StorageSigner.signedMetadata? e { r with decision := .pending } = _
      rw [StorageSigner.signedMetadata?, hput]
      rfl
    exact StorageSigner.metadata_amend_of_signedUrl made hmetadata

namespace Policy

variable {m : Type → Type} [Monad m] {p : Policy m} {Made : Exchange → Request → SignedUrl → Prop}

theorem admits_untracked [LawfulMonad m] (hnone : p.transactionIds.GivesNone)
    (hmade : ∀ e r, SatisfiesM (fun result => ∀ u, result = .ok u → Made e r u) (p.signer.sign e r)) :
    p.Admits (PolicyCall.IsUntracked Made) where
  transactionId := hnone
  authorize _ _ := .trivial
  authorizeListing _ := .trivial
  sign e r := (hmade e r).imp fun {result} hresult => by
    cases result with
    | error cause => trivial
    | ok u => exact hresult u rfl
  list _ := .trivial

end Policy

namespace Gate

variable {m : Type → Type} [Monad m] [LawfulMonad m]

/-- **Without tracking, what the client says of the transaction stands.**  If the provider of a policy gives no ids, the
answer has the transaction id that the message brings, or none.  If its signer is the one of an account, the metadata of
every upload that is signed is what was asked, with the stamp of that id, or without any. -/
theorem process_untracked {p : Policy m} (hnone : p.transactionIds.GivesNone) (moment : Moment) (caller : Caller)
    (inbound : Message) :
    SatisfiesM (fun answer => answer.transactionId? = inbound.transactionId?)
      ((Gate.ready p).process moment caller inbound) ∧
    ∀ s : StorageSigner, p.signer = s.signer → SatisfiesM (fun answer => ∀ requests, inbound.body = .signing requests →
        ∃ answered, answer.body = .signing answered ∧ List.Forall₂ (fun r d => r.action = .put → d.isSigned = true →
          d.metadata = stampedMetadata inbound.transactionId? r.metadata) requests answered)
      ((Gate.ready p).process moment caller inbound) := by
  let e := inbound.received moment caller
  constructor
  · have hp : p.Admits (PolicyCall.IsUntracked fun _ _ _ => True) :=
      Policy.admits_untracked hnone fun e r => SatisfiesM.trivial.imp fun _ _ _ => trivial
    refine (Policy.always_run hp e).imp fun {answer} hanswer => ?_
    obtain ⟨calls, hcalls, hruns⟩ := hanswer
    obtain ⟨others, result, -, -, rfl⟩ := hruns.of_untracked hcalls
    exact Exchange.transactionId?_answered e result
  · intro s hs
    have hp : p.Admits (PolicyCall.IsUntracked (s.signedUrl · · = .ok ·)) :=
      Policy.admits_untracked hnone fun e r => by
        rw [hs]
        refine .pure fun u hu => ?_
        cases hsigned : s.signedUrl e r with
        | error cause => rw [hsigned] at hu; cases hu
        | ok u' => rw [hsigned] at hu; exact congrArg Except.ok (Except.ok.inj hu)
    refine (Policy.always_run hp e).imp fun {answer} hanswer requests hbody => ?_
    obtain ⟨calls, hcalls, hruns⟩ := hanswer
    obtain ⟨others, result, hothers, hmakes, rfl⟩ := hruns.of_untracked hcalls
    have hsigned : ∀ r u, .sign e r (.ok u) ∈ others → s.signedUrl e r = .ok u := fun r u hc => hothers _ hc
    obtain ⟨answered, hanswered, hall⟩ := hmakes.forall₂_answered hbody hsigned
    refine ⟨answered, hanswered, hall.imp fun r d hd hput hsigned => ?_⟩
    rcases hd with rfl | hd
    · cases hsigned
    · exact hd.metadata_of_put hput hsigned

/-- The client puts an id into its message and asks for an upload at an open gate that gives no ids: the answer has the id,
and the upload its stamp. -/
theorem process_untracked_claimed :
    let s : StorageSigner := { credentials := .test }
    let p : Policy Id :=
      { authorizer := allowAll, signer := s.signer, lister := { list := fun _ => .ok [] }, transactionIds := .untracked }
    let inbound : Message :=
      { properties := .ofList [("transactionId", "claimed")], body := .signing [{ action := .put, key := "a" }] }
    let answer : Message := (Gate.ready p).process default default inbound
    p.transactionIds.GivesNone ∧ answer.transactionId? = some "claimed" ∧
      ∃ d, answer.body = .signing [d] ∧ d.isSigned = true ∧
        d.metadata = .ofList [("gatekeeper-transaction-id", "claimed")] := by
  intro s p inbound answer
  have hnone : p.transactionIds.GivesNone := TransactionIds.untracked_givesNone
  obtain ⟨hkept, hstamped⟩ := process_untracked hnone default default inbound
  have hid := SatisfiesM_Id_eq.1 hkept
  obtain ⟨answered, hbody, hall⟩ := SatisfiesM_Id_eq.1 (hstamped s rfl) _ rfl
  have hclaimed : inbound.transactionId? = some "claimed" := by decide
  have hmetadata : stampedMetadata (some "claimed") .empty = .ofList [("gatekeeper-transaction-id", "claimed")] := by decide
  -- The upload is signed.
  let e := p.opened (inbound.received default default)
  let r : Request := { action := .put, key := "a" }
  obtain ⟨u, hu⟩ : ∃ u, s.signedUrl e r = .ok u := Traversal.exists_of_isSome_toOption (by decide +kernel)
  have hsignature : p.signature e r = .ok u := by
    rw [StorageSigner.signature_eq rfl, Request.undecided, hu]
    rfl
  have hsettled : [r].mapM (p.settle e) = .ok [{ u.amend r with decision := .signed u.url }] := by
    rw [Traversal.mapM_cons_of_ok (Policy.settle_of_ok rfl hsignature), List.mapM_nil]
    rfl
  have hrun : answer = e.message.withBody (.signing [{ u.amend r with decision := .signed u.url }]) :=
    Policy.run_of_settled (p := p) (e := inbound.received default default) rfl hsettled
  have hsigned : answer.body = .signing [{ u.amend r with decision := .signed u.url }] := by rw [hrun]; rfl
  have hbody : answer.body = .signing answered := hbody
  cases hsigned.symm.trans hbody
  obtain ⟨hstamp, -⟩ := List.forall₂_cons.1 hall
  rw [hclaimed] at hid hstamp
  exact ⟨hnone, hid, _, hsigned, rfl, (hstamp rfl rfl).trans hmetadata⟩

end Gate
end StorageGate
