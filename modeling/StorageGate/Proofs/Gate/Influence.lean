import StorageGate.Proofs.Gate.Run
import StorageGate.Proofs.Storage.ObjectUrl
/-!
# What a client says of decisions

A client may put into its message what only the gate decides: decisions on its requests, an error code, listed objects.
The gate itself takes no notice (`process_eq_of_asked`): it drops the error code before any component is asked, asks about
requests without their decisions, and answers with nothing of the body but what was asked (`Message.asked`).  The body as it
came is shown to the components of a policy, so they must not look at the decisions and the objects in it (`Policy.Blind`), as
none does that comes with a gate (`Gate.blind_ofConfig`).  A component that reads the decisions is swayed by them, and the
answer then follows the client (`process_of_trusting`).
-/
namespace StorageGate

/-! ## What is asked -/

/-- A body as it is asked: no request is decided and nothing is listed. -/
def Body.asked : Body → Body
  | signing requests => signing (requests.map Request.undecided)
  | listing _ => listing []

/-- A message without what only a gate decides. -/
def Message.asked (m : Message) : Message :=
  (m.withoutApplication errorCodeProperty).withBody m.body.asked

theorem Message.asked_eq_iff {a b : Message} : a.asked = b.asked ↔
    a.application.erase errorCodeProperty = b.application.erase errorCodeProperty ∧ a.properties = b.properties ∧
      a.body.asked = b.body.asked := by
  simp [asked, withBody, withoutApplication]

theorem Message.faulted_eq_of_asked {a b : Message} (happlication : a.application = b.application)
    (hproperties : a.properties = b.properties) (hbody : a.body.asked = b.body.asked) (code : ErrorCode) :
    a.faulted code = b.faulted code := by
  have hfaulted : ∀ m : Message, m.faulted code = (m.withBody m.body.asked).withApplication errorCodeProperty code.name := by
    intro m
    rw [faulted]
    cases m.body <;> rfl
  rw [hfaulted, hfaulted, hbody]
  simp [withBody, withApplication, happlication, hproperties]

/-- Exchanges that differ in nothing but the decisions and the listed objects in the bodies of their messages. -/
structure Exchange.AsksLike (e e' : Exchange) : Prop where
  application : e.message.application = e'.message.application
  properties : e.message.properties = e'.message.properties
  body : e.message.body.asked = e'.message.body.asked
  caller : e.caller = e'.caller
  moment : e.moment = e'.moment

variable {m : Type → Type}

/-- Whether an authorizer answers alike what is asked alike. -/
structure Authorizer.Blind (a : Authorizer m) : Prop where
  request : ∀ {e e' : Exchange}, e.AsksLike e' → ∀ r, a.request e r = a.request e' r
  listing : ∀ {e e' : Exchange}, e.AsksLike e' → a.listing e = a.listing e'

/-- Whether a signer does. -/
def UrlSigner.Blind (s : UrlSigner m) : Prop := ∀ {e e' : Exchange}, e.AsksLike e' → ∀ r, s.sign e r = s.sign e' r

/-- Whether a lister does. -/
def BucketLister.Blind (l : BucketLister m) : Prop := ∀ {e e' : Exchange}, e.AsksLike e' → l.list e = l.list e'

/-- Whether a provider of ids does. -/
def TransactionIds.Blind (t : TransactionIds m) : Prop := ∀ {e e' : Exchange}, e.AsksLike e' → t.next e = t.next e'

/-- Whether all components of a policy do. -/
structure Policy.Blind (p : Policy m) : Prop where
  authorizer : p.authorizer.Blind
  signer : p.signer.Blind
  lister : p.lister.Blind
  transactionIds : p.transactionIds.Blind

/-- Whether a gate has a policy whose components answer alike what is asked alike, if it has one. -/
def Gate.Blind : Gate m → Prop
  | ready p => p.Blind
  | failed _ => True

variable [Monad m]

/-! ## Steps on what is asked -/

namespace Policy

variable {p : Policy m} (hp : p.Blind) {e e' : Exchange} (h : e.AsksLike e')

include hp h

theorem decideOne_congr {r s : Request} (hr : r.undecided = s.undecided) : p.decideOne e r = p.decideOne e' s := by
  rw [decideOne, decideOne, hr, hp.authorizer.request h]
  refine bind_congr fun verdict => ?_
  cases verdict with
  | deny reason => rfl
  | allow =>
    dsimp only
    rw [hp.signer h]

theorem decideAll_congr : ∀ {requests others : List Request},
    requests.map Request.undecided = others.map Request.undecided → p.decideAll e requests = p.decideAll e' others
  | [], [], _ => rfl
  | [], _ :: _, hr => by cases hr
  | _ :: _, [], hr => by cases hr
  | r :: requests, s :: others, hr => by
    obtain ⟨hone, hrest⟩ := List.cons.inj hr
    rw [decideAll, decideAll, decideOne_congr hp h hone]
    refine bind_congr fun decided => ?_
    cases decided with
    | error code => rfl
    | ok decided =>
      dsimp only
      rw [decideAll_congr hrest]

theorem listing_congr : p.listing e = p.listing e' := by
  rw [Policy.listing, Policy.listing, hp.authorizer.listing h, hp.lister h]

theorem outcome_congr : p.outcome e = p.outcome e' := by
  have hbody := h.body
  unfold outcome
  cases hb : e.message.body with
  | listing objects =>
    cases hb' : e'.message.body with
    | listing others =>
      dsimp only
      rw [listing_congr hp h]
    | signing others => rw [hb, hb'] at hbody; cases hbody
  | signing requests =>
    cases hb' : e'.message.body with
    | listing others => rw [hb, hb'] at hbody; cases hbody
    | signing others =>
      rw [hb, hb'] at hbody
      dsimp only
      rw [decideAll_congr hp h (Body.signing.inj hbody)]

end Policy

/-! ## Components that come with a gate -/

theorem Exchange.AsksLike.transactionId? {e e' : Exchange} (h : e.AsksLike e') : e.transactionId? = e'.transactionId? := by
  rw [Exchange.transactionId?, Exchange.transactionId?, Message.transactionId?, Message.transactionId?, h.properties]

theorem TransactionIds.blind_ulids : (ulids : TransactionIds m).Blind := fun {e e'} h => by
  have hid : e.transactionId?.getD e.moment.freshId = e'.transactionId?.getD e'.moment.freshId := by
    rw [h.transactionId?, h.moment]
  exact congrArg pure hid

theorem StorageSigner.blind_signer (s : StorageSigner) : (s.signer : UrlSigner m).Blind := fun {e e'} h r => by
  have hurl : s.signedUrl e r = s.signedUrl e' r := s.signedUrl_congr (congrArg Moment.now h.moment) h.transactionId? r
  show (pure (Except.mapError SigningFailure.storage _) : m _) = _
  rw [hurl]
  rfl

theorem StorageLister.blind_lister (l : StorageLister) : (l.lister : BucketLister m).Blind := fun {e e'} h => by
  have hlead : l.leadFor e.message = l.leadFor e'.message := by
    rw [leadFor, leadFor, Message.application?, Message.application?, h.application]
  have hrun : l.run e = l.run e' := by
    unfold run
    rw [hlead, h.moment]
  show (pure (Except.mapError ListingFailure.storage _) : m _) = _
  rw [hrun]
  rfl

/-- What a registry makes of a configuration is made by one of its constructors. -/
theorem Registry.exists_of_construct {α : Type} {table : List (String × Constructor α)} {config : Config} {role : Role} {x : α}
    (h : construct table config role = .ok x) : ∃ entry ∈ table, ∃ s, entry.2 s = .ok x := by
  unfold construct at h
  dsimp only at h
  split at h
  · cases h
  · rename_i make hmake
    obtain ⟨before, after, htable, -⟩ := List.lookup_eq_some_iff.1 hmake
    exact ⟨((config.component role).name, make), by simp [htable], _, h⟩

namespace Registry

variable {s : ComponentSettings}

theorem blind_of_denyAll {a : Authorizer m} (h : (s.read none readReason).map denyAll = .ok a) : a.Blind := by
  obtain ⟨reason, -, rfl⟩ := Traversal.map_eq_ok_iff.1 h
  exact ⟨fun _ _ => rfl, fun _ => rfl⟩

theorem blind_of_makeKeyRules {a : Authorizer m} (h : makeKeyRules s = .ok a) : a.Blind := by
  obtain ⟨rules, -, h⟩ := Traversal.exists_of_bind_eq_ok h
  split at h
  · cases h
  · cases h
    exact ⟨fun _ _ => rfl, fun _ => rfl⟩

theorem blind_of_makeSigner {signer : UrlSigner m} (h : makeSigner s = .ok signer) : signer.Blind := by
  obtain ⟨settings, -, h⟩ := Traversal.exists_of_bind_eq_ok h
  obtain ⟨credentials, -, h⟩ := Traversal.exists_of_bind_eq_ok h
  cases h
  exact StorageSigner.blind_signer _

theorem blind_of_makeLister {lister : BucketLister m} (h : makeLister s = .ok lister) : lister.Blind := by
  obtain ⟨settings, -, h⟩ := Traversal.exists_of_bind_eq_ok h
  obtain ⟨credentials, -, h⟩ := Traversal.exists_of_bind_eq_ok h
  cases h
  exact StorageLister.blind_lister _

/-- **No component that comes with a gate looks at what only the gate decides.** -/
theorem blind_of_resolve {config : Config} {p : Policy m} (h : (standard : Registry m).resolve config = .ok p) :
    p.Blind := by
  obtain ⟨authorizer, hauthorizer, h⟩ := Traversal.exists_of_bind_eq_ok h
  obtain ⟨signer, hsigner, h⟩ := Traversal.exists_of_bind_eq_ok h
  obtain ⟨lister, hlister, h⟩ := Traversal.exists_of_bind_eq_ok h
  obtain ⟨ids, hids, h⟩ := Traversal.exists_of_bind_eq_ok h
  cases h
  constructor
  · obtain ⟨entry, hentry, s, hs⟩ := exists_of_construct hauthorizer
    simp only [standard, List.mem_cons, List.not_mem_nil, or_false] at hentry
    rcases hentry with rfl | rfl | rfl
    · cases hs
      exact ⟨fun _ _ => rfl, fun _ => rfl⟩
    · exact blind_of_denyAll hs
    · exact blind_of_makeKeyRules hs
  · obtain ⟨entry, hentry, s, hs⟩ := exists_of_construct hsigner
    obtain rfl := List.mem_singleton.1 hentry
    exact blind_of_makeSigner hs
  · obtain ⟨entry, hentry, s, hs⟩ := exists_of_construct hlister
    obtain rfl := List.mem_singleton.1 hentry
    exact blind_of_makeLister hs
  · obtain ⟨entry, hentry, s, hs⟩ := exists_of_construct hids
    simp only [standard, List.mem_cons, List.not_mem_nil, or_false] at hentry
    rcases hentry with rfl | rfl
    · cases hs
      exact TransactionIds.blind_ulids
    · cases hs
      exact fun _ => rfl

end Registry

/-- The gate of a configuration is one of them, whether it has a policy or not. -/
theorem Gate.blind_ofConfig (config : Config) : (Gate.ofConfig (Registry.standard : Registry m) config).Blind := by
  unfold ofConfig
  cases h : (Registry.standard : Registry m).resolve config with
  | error cause => trivial
  | ok p => exact Registry.blind_of_resolve h

/-! ## Whole exchanges -/

theorem Exchange.AsksLike.withTransactionId {e e' : Exchange} (h : e.AsksLike e') (id : String) :
    (e.withTransactionId id).AsksLike (e'.withTransactionId id) := by
  unfold Exchange.withTransactionId
  by_cases hid : id = ""
  · rw [if_pos hid, if_pos hid]
    exact h
  · rw [if_neg hid, if_neg hid]
    exact { h with properties := congrArg (·.insert transactionIdProperty id) h.properties }

section Exchanges

variable {a b : Message} (h : a.asked = b.asked) (moment : Moment) (caller : Caller)

include h

/-- Received without their error codes, the messages differ in their bodies alone. -/
theorem Message.asksLike_received : (a.received moment caller).AsksLike (b.received moment caller) := by
  obtain ⟨happlication, hproperties, hbody⟩ := asked_eq_iff.1 h
  exact ⟨happlication, hproperties, hbody, rfl, rfl⟩

/-- What an answer keeps of the message is what was asked. -/
theorem Message.answered_congr (id : String) :
    (∀ body, ((a.received moment caller).withTransactionId id).message.withBody body
        = ((b.received moment caller).withTransactionId id).message.withBody body) ∧
    ∀ code, ((a.received moment caller).withTransactionId id).message.faulted code
        = ((b.received moment caller).withTransactionId id).message.faulted code := by
  obtain ⟨happlication, hproperties, hbody⟩ := asked_eq_iff.1 h
  rw [received_withTransactionId, received_withTransactionId, happlication, hproperties]
  exact ⟨fun _ => rfl, faulted_eq_of_asked rfl rfl hbody⟩

theorem Policy.run_congr {p : Policy m} (hp : p.Blind) : p.run (a.received moment caller) = p.run (b.received moment caller) := by
  -- The provider of ids is shown the messages before they have one, every other component after.
  have hreceived := Message.asksLike_received h moment caller
  rw [run, run, hp.transactionIds hreceived]
  refine bind_congr fun id => ?_
  obtain ⟨hbody, hfault⟩ := Message.answered_congr h moment caller id
  dsimp only
  rw [outcome_congr hp (hreceived.withTransactionId id)]
  refine bind_congr fun outcome => ?_
  cases outcome with
  | ok body => exact congrArg pure (hbody body)
  | error code => exact congrArg pure (hfault code)

/-- **What a client says of decisions has no influence**, if no component looks at the decisions and the listed objects in
the body it is shown.  The error code needs no such care. -/
theorem Gate.process_eq_of_asked {g : Gate m} (hg : g.Blind) : g.process moment caller a = g.process moment caller b := by
  cases g with
  | ready p => exact Policy.run_congr h moment caller hg
  | failed cause =>
    -- Such a gate still gives an id, the one the message has or a new one.
    have hnext : TransactionIds.ulids.next (a.received moment caller)
        = (TransactionIds.ulids.next (b.received moment caller) : m String) :=
      TransactionIds.blind_ulids (Message.asksLike_received h moment caller)
    show (TransactionIds.ulids.next (a.received moment caller) >>= fun id => _ : m Message) = _
    rw [hnext]
    exact bind_congr fun id => congrArg pure ((Message.answered_congr h moment caller id).2 .initialization)

end Exchanges

/-- A message that comes with a decision and an error code. -/
def prejudged : Message where
  application := Fields.ofList [("gatekeeperErrorCode", "SigningFailure"), ("user", "u")]
  body := .signing [{ action := .put, key := "private/a", decision := .signed "https://elsewhere/a" }]

/-- The same message without them. -/
def unjudged : Message where
  application := Fields.ofList [("user", "u")]
  body := .signing [{ action := .put, key := "private/a" }]

/-- A policy that judges requests by their keys, but refuses all where it is shown an error code. -/
def waryPolicy : Policy Id where
  authorizer :=
    { request := fun e r =>
        if e.message.errorCode?.isSome then .deny (some "faulted") else KeyRules.judge { prefixes := ["private/"] } r
      listing := fun _ => .deny none }
  signer := { sign := fun _ r => .ok { url := "https://h/" ++ r.key } }
  lister := { list := fun _ => .ok [] }
  transactionIds := .ulids

/-- Judged by their keys, both messages are answered alike: the code of the one is shown to no component. -/
theorem Gate.process_prejudged : (Gate.ready waryPolicy).Blind ∧ prejudged.asked = unjudged.asked ∧
    (Gate.ready waryPolicy).process default {} prejudged = (Gate.ready waryPolicy).process default {} unjudged ∧
    ((Gate.ready waryPolicy).process default {} prejudged).body
      = .signing [{ action := .put, key := "private/a", decision := .signed "https://h/private/a" }] := by
  have hrequest {e e' : Exchange} (h : e.AsksLike e') (r : Request) :
      waryPolicy.authorizer.request e r = waryPolicy.authorizer.request e' r := by
    have hcode : e.message.errorCode? = e'.message.errorCode? := congrArg (·.get? errorCodeProperty) h.application
    show (if e.message.errorCode?.isSome then _ else _) = _
    rw [hcode]
    rfl
  have hblind : (Gate.ready waryPolicy).Blind :=
    ⟨⟨hrequest, fun _ => rfl⟩, fun _ _ => rfl, fun _ => rfl, TransactionIds.blind_ulids⟩
  have hasked : prejudged.asked = unjudged.asked := by decide
  exact ⟨hblind, hasked, Gate.process_eq_of_asked hasked default {} hblind, by rfl⟩

/-- A policy whose authorizer takes the client's word: it allows every request of a message with a signed one. -/
def trustingPolicy : Policy Id where
  authorizer :=
    { request := fun e _ =>
        match e.message.body with
        | .signing requests => if requests.any Request.isSigned then .allow else .deny none
        | .listing _ => .deny none
      listing := fun _ => .deny none }
  signer := { sign := fun _ r => .ok { url := "https://h/" ++ r.key } }
  lister := { list := fun _ => .ok [] }
  transactionIds := .untracked

/-- **A component that reads the decisions in a message is swayed by them**: components are functions of what they are
shown, and that is the whole message. -/
theorem Gate.process_of_trusting : ¬ ∀ (p : Policy Id) (moment : Moment) (caller : Caller) (a b : Message),
    a.asked = b.asked → (Gate.ready p).process moment caller a = (Gate.ready p).process moment caller b := by
  intro h
  have hasked : prejudged.asked = unjudged.asked := by decide
  have hprocess := congrArg Message.body (h trustingPolicy default {} prejudged unjudged hasked)
  have hsigned : ((Gate.ready trustingPolicy).process default {} prejudged).body
      = .signing [{ action := .put, key := "private/a", decision := .signed "https://h/private/a" }] := by rfl
  have hdeclined : ((Gate.ready trustingPolicy).process default {} unjudged).body
      = .signing [{ action := .put, key := "private/a", decision := .declined "Unknown" }] := by rfl
  rw [hsigned, hdeclined] at hprocess
  cases hprocess

end StorageGate
