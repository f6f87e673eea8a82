import StorageGate.Client
import StorageGate.Proofs.Gate.Redacted
/-!
# The storage secret

Of the secret of an account nobody learns more than the signatures that are made with it.  Gates of accounts that differ in
their secrets alone reply alike, up to the signatures, and so do the accounts to themselves: with the same grants or for the
same reason (`secret_in_signatures`).
-/
namespace StorageGate

/-- A grant without the value of the signature in its URL. -/
def Grant.redacted (g : Grant) : Grant := { g with url := redactedUrl g.url }

/-- What is granted without the values of the signatures. -/
def Granted.redacted (granted : Granted) : Granted := { granted with grants := granted.grants.map Grant.redacted }

/-- The lister with another secret. -/
def StorageLister.withSecret (l : StorageLister) (secret : String) : StorageLister :=
  { l with credentials := l.credentials.withSecret secret }

/-! ## Grants -/

theorem Operation.map_redacted_grant (o : Operation) (r : Request) :
    (o.grant r).map Grant.redacted = o.grant r.redacted := by
  unfold grant Request.redacted
  cases r.decision <;> rfl

/-- **What an answer grants is redacted as the answer is.** -/
theorem Granted.map_redacted_ofAnswer (operations : List Operation) (answer : Message) :
    (ofAnswer operations answer).map Granted.redacted = ofAnswer operations answer.redacted := by
  have hcode : answer.redacted.errorCode? = answer.errorCode? := rfl
  unfold ofAnswer
  rw [hcode]
  cases answer.errorCode? with
  | some code => rfl
  | none =>
    unfold Message.redacted Message.withBody
    cases answer.body with
    | listing objects => rfl
    | signing requests =>
      dsimp only [Body.redacted]
      rw [List.length_map]
      by_cases hlength : requests.length = operations.length
      · let grant (p : Operation × Request) : Except String Grant := p.1.grant p.2
        have hgrants : (operations.zip (requests.map Request.redacted)).mapM grant
            = ((operations.zip requests).mapM grant).map (List.map Grant.redacted) := by
          have hgrant : (grant ∘ Prod.map id Request.redacted) = fun p => (grant p).map Grant.redacted :=
            funext fun p => (p.1.map_redacted_grant p.2).symm
          rw [Traversal.map_mapM, List.zip_map_right, List.mapM_map, ← hgrant]
        rw [if_neg (not_not_intro hlength), if_neg (not_not_intro hlength), hgrants]
        cases (operations.zip requests).mapM grant <;> rfl
      · rw [if_pos hlength, if_pos hlength]
        rfl

/-! ## An account that answers itself -/

/-- What a signer changes in a request does not depend on the signature. -/
theorem SignedUrl.map_redacted_apply {u u' : SignedUrl} (h : u.redacted = u'.redacted) (r : Request) :
    (u.apply r).done.map Request.redacted = (u'.apply r).done.map Request.redacted := by
  have hamend : u.redacted.amend r = u'.redacted.amend r := by rw [h]
  have hamend : u.amend r = u'.amend r := hamend
  have hurl : redactedUrl u.url = redactedUrl u'.url := congrArg url h
  by_cases hpending : r.decision = .pending
  · rw [u.apply_of_pending hpending, u'.apply_of_pending hpending, hamend, Request.Step.done_ok, Request.Step.done_ok]
    show Except.ok (Request.redacted _) = .ok (Request.redacted _)
    simp only [Request.redacted, Decision.redacted, hurl]
  · rw [u.apply_of_ne_pending hpending, u'.apply_of_ne_pending hpending, hamend]

theorem StorageSigner.map_redacted_signAll (s : StorageSigner) (secret : String) (e : Exchange) : ∀ requests : List Request,
    ((s.withSecret secret).signAll e requests).map (List.map Request.redacted)
      = (s.signAll e requests).map (List.map Request.redacted)
  | [] => rfl
  | r :: rest => by
    unfold signAll
    refine Traversal.map_bind_congr (f := SignedUrl.redacted) ?_ fun u u' hu => ?_
    · rw [Traversal.map_mapError, Traversal.map_mapError, s.map_redacted_signedUrl]
    refine Traversal.map_bind_congr (f := Request.redacted) ?_ fun signed signed' hsigned => ?_
    · rw [Traversal.map_mapError, Traversal.map_mapError, SignedUrl.map_redacted_apply hu]
    refine Traversal.map_bind_congr (s.map_redacted_signAll secret e rest) fun others others' hothers => ?_
    show Except.ok (signed.redacted :: others.map Request.redacted) = .ok (signed'.redacted :: others'.map Request.redacted)
    rw [hsigned, hothers]

theorem Credentials.map_redacted_answer (c : Credentials) (secret : String) (moment : Moment) (message : Message) :
    ((c.withSecret secret).answer moment message).map Message.redacted
      = (c.answer moment message).map Message.redacted := by
  unfold answer
  dsimp only
  split
  · rfl
  · rename_i requests _
    refine Traversal.map_bind_congr (StorageSigner.map_redacted_signAll { credentials := c, expiresIn := ownWindow } secret _
      requests) fun signed signed' hsigned => ?_
    show Except.ok (Message.withBody _ (.signing (signed.map Request.redacted)))
      = .ok (Message.withBody _ (.signing (signed'.map Request.redacted)))
    rw [hsigned]
    rfl

theorem Credentials.map_redacted_granted (c : Credentials) (secret : String) (moment : Moment) (message : Message)
    (operations : List Operation) :
    (((c.withSecret secret).answer moment message).bind (Granted.ofAnswer operations)).map Granted.redacted
      = ((c.answer moment message).bind (Granted.ofAnswer operations)).map Granted.redacted :=
  Traversal.map_bind_congr (c.map_redacted_answer secret moment message) fun answer answer' h => by
    rw [Granted.map_redacted_ofAnswer, Granted.map_redacted_ofAnswer, h]

/-! ## Listings -/

/-- Whether a URL is signed does not depend on the secret, nor why not. -/
theorem Credentials.presign_withSecret (c : Credentials) (secret : String) (p : Presign) :
    (∃ url url', c.presign p = .ok url ∧ (c.withSecret secret).presign p = .ok url') ∨
      ∃ cause, c.presign p = .error cause ∧ (c.withSecret secret).presign p = .error cause := by
  have hsame := c.map_redacted_presign_withSecret secret p
  cases h : c.presign p with
  | ok url =>
    cases h' : (c.withSecret secret).presign p with
    | ok url' => exact .inl ⟨url, url', rfl, rfl⟩
    | error cause => rw [h, h'] at hsame; cases hsame
  | error cause =>
    cases h' : (c.withSecret secret).presign p with
    | ok url' => rw [h, h'] at hsame; cases hsame
    | error cause' => rw [h, h'] at hsame; cases hsame; exact .inr ⟨cause, rfl, rfl⟩

namespace StorageLister

variable (l : StorageLister) (secret : String)

/-- Whether a page can be asked for does not depend on the secret, nor why not. -/
theorem presign_withSecret (now : Instant) (lead token : Option String) (received : List ListedObject) :
    let request (l : StorageLister) := Presign.list now lead token (some (l.remaining received.length))
    let other := l.withSecret secret
    (∃ url url', l.credentials.presign (request l) = .ok url ∧ other.credentials.presign (request other) = .ok url') ∨
      ∃ cause, l.credentials.presign (request l) = .error cause ∧ other.credentials.presign (request other) = .error cause :=
  l.credentials.presign_withSecret secret _

/-- **A listing is made without the secret**, with signatures that are sent to the service alone. -/
theorem runFrom_withSecret (now : Instant) (lead : Option String) :
    ∀ (answers : List Http.Response) (token : Option String) (received : List ListedObject),
      (l.withSecret secret).runFrom now lead token received answers = l.runFrom now lead token received answers := by
  intro answers
  induction answers with
  | nil =>
    intro token received
    unfold runFrom
    rcases l.presign_withSecret secret now lead token received with ⟨url, url', h, h'⟩ | ⟨cause, h, h'⟩
    all_goals
      dsimp only
      rw [h, h']
      rfl
  | cons answer rest ih =>
    intro token received
    unfold runFrom
    rcases l.presign_withSecret secret now lead token received with ⟨url, url', h, h'⟩ | ⟨cause, h, h'⟩
    all_goals
      dsimp only
      rw [h, h']
    · simp only [ih]
      rfl
    · rfl

theorem lister_withSecret {m : Type → Type} [Monad m] : ((l.withSecret secret).lister : BucketLister m) = l.lister := by
  have hrun (e : Exchange) : (l.withSecret secret).run e = l.run e := l.runFrom_withSecret secret _ _ _ _ _
  unfold lister
  simp only [hrun]

end StorageLister

/-- **The secret reaches a client in signatures alone.**  Take two accounts that differ in their secrets, with one authorizer,
one lister and one provider of ids, whatever these do and however often they are asked.  Their gates reply to every document
alike, in status and in body, up to the values of the signatures in signed URLs; and in place of a lister of their own each
may have that of the other.  Where the accounts answer themselves, a batch gives the same grants up to those values, or fails
for the same reason, and so does an object derived from it. -/
theorem Credentials.secret_in_signatures {m : Type → Type} [Monad m] [LawfulMonad m] (c : Credentials) (secret : String)
    (expiresIn : Nat) (authorizer : Authorizer m) (lister : BucketLister m) (transactionIds : TransactionIds m) :
    let gate (c : Credentials) : Gate m :=
      .ready { authorizer, signer := StorageSigner.signer { credentials := c, expiresIn }, lister, transactionIds }
    let own (c : Credentials) : Client m := .own c
    let other := c.withSecret secret
    (∀ moment caller document,
      Reply.redacted <$> (gate other).handle moment caller document
        = Reply.redacted <$> (gate c).handle moment caller document) ∧
    (∀ lead maxKeys, (StorageLister.lister { credentials := other, lead, maxKeys } : BucketLister m)
        = StorageLister.lister { credentials := c, lead, maxKeys }) ∧
    (∀ moment batch, Except.map Granted.redacted <$> (own other).grants moment batch
        = Except.map Granted.redacted <$> (own c).grants moment batch) ∧
    ∀ moment primary operation, Except.map Granted.redacted <$> (own other).derivedGrants moment primary operation
        = Except.map Granted.redacted <$> (own c).derivedGrants moment primary operation := by
  intro gate own other
  have hgranted (moment : Moment) (message : Message) (operations : List Operation) :
      Except.map Granted.redacted <$> ((own other).answer moment message >>= fun answer =>
          pure (answer.bind (Granted.ofAnswer operations)) : m (Except ClientError Granted))
        = Except.map Granted.redacted <$> ((own c).answer moment message >>= fun answer =>
          pure (answer.bind (Granted.ofAnswer operations))) := by
    show Except.map Granted.redacted <$> ((pure _ : m _) >>= _) = Except.map Granted.redacted <$> ((pure _ : m _) >>= _)
    rw [pure_bind, pure_bind, map_pure, map_pure, c.map_redacted_granted]
  refine ⟨fun moment caller document => ?_, fun lead maxKeys => ?_, fun moment batch => hgranted _ _ _,
    fun moment primary operation => ?_⟩
  · have hsigner := StorageSigner.redacted_signer (m := m) { credentials := c, expiresIn } secret
    have hgate : (gate other).redacted = (gate c).redacted :=
      congrArg (fun signer => Gate.ready { authorizer, signer, lister, transactionIds }) hsigner
    rw [Gate.redacted_handle, Gate.redacted_handle, hgate]
  · exact StorageLister.lister_withSecret { credentials := c, lead, maxKeys } secret
  · unfold Client.derivedGrants
    cases primary.transactionId with
    | none => rfl
    | some id => exact hgranted _ _ _

/-- The replies of two accounts to one document are the same, up to the signatures. -/
theorem Credentials.secret_in_signatures_get :
    let gate (c : Credentials) : Gate Id :=
      .ready { authorizer := allowAll, signer := StorageSigner.signer { credentials := c, expiresIn := 300 }
               lister := { list := fun _ => pure (.ok []) }, transactionIds := .ulids }
    let reply (c : Credentials) : Reply := (gate c).handle default {} "sigreq.0.type=GET&sigreq.0.key=a.txt"
    LawfulMonad Id ∧ (reply (Credentials.test.withSecret "other")).redacted = (reply .test).redacted := by
  intro gate reply
  obtain ⟨hreply, -⟩ := secret_in_signatures (m := Id) .test "other" 300 allowAll { list := fun _ => pure (.ok []) } .ulids
  exact ⟨inferInstance, hreply default {} _⟩

end StorageGate
