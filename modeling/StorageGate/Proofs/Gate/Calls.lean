import StorageGate.Proofs.Gate.Effects
import StorageGate.Proofs.Gate.Run
/-!
# What a gate calls

What an exchange comes to is said from the calls that are made in it and their answers: about one request
(`DecidesOne`), about all of them in order and no further than the first signature that fails (`DecidesAll`), about a listing
(`Lists`), and about the whole (`Runs`).  Every run of a watched policy is one of these, whatever effects its components have
(`records_run`), and to be watched changes nothing (`watches_run`).
-/
namespace StorageGate

/-- The calls that decide a request, and what they decide: the authorizer's, and right after it the signer's if the request is
allowed. -/
inductive DecidesOne (e : Exchange) (r : Request) : List PolicyCall → Except ErrorCode Request → Prop
  | refused (reason : Option String) : DecidesOne e r [.authorize e r.undecided (.deny reason)]
      (.ok { r with decision := .declined (reason.getD unknownReason) })
  | signed (u : SignedUrl) : DecidesOne e r [.authorize e r.undecided .allow, .sign e r.undecided (.ok u)]
      (.ok { u.amend r with decision := .signed u.url })
  | failed (cause : SigningFailure) :
      DecidesOne e r [.authorize e r.undecided .allow, .sign e r.undecided (.error cause)] (.error .signingFailure)

/-- The calls that decide requests in order: none after a signature that fails. -/
inductive DecidesAll (e : Exchange) : List Request → List PolicyCall → Except ErrorCode (List Request) → Prop
  | done : DecidesAll e [] [] (.ok [])
  | stopped {r : Request} {rest : List Request} {calls : List PolicyCall} {code : ErrorCode}
      (one : DecidesOne e r calls (.error code)) : DecidesAll e (r :: rest) calls (.error code)
  | next {r d : Request} {rest : List Request} {calls others : List PolicyCall} {result : Except ErrorCode (List Request)}
      (one : DecidesOne e r calls (.ok d)) (all : DecidesAll e rest others result) :
      DecidesAll e (r :: rest) (calls ++ others) (result.map (d :: ·))

/-- The calls that make a listing: the authorizer's, and the lister's if the listing is allowed. -/
inductive Lists (e : Exchange) : List PolicyCall → Except ErrorCode (List ListedObject) → Prop
  | refused (reason : Option String) : Lists e [.authorizeListing e (.deny reason)] (.ok [])
  | listed (objects : List ListedObject) : Lists e [.authorizeListing e .allow, .list e (.ok objects)] (.ok objects)
  | failed (cause : ListingFailure) :
      Lists e [.authorizeListing e .allow, .list e (.error cause)] (.error .listingFailure)

/-- The calls that the body of an exchange is made with. -/
inductive Makes (e : Exchange) : List PolicyCall → Except ErrorCode Body → Prop
  | signing {requests : List Request} {calls : List PolicyCall} {result : Except ErrorCode (List Request)}
      (body : e.message.body = .signing requests) (all : DecidesAll e requests calls result) :
      Makes e calls (result.map .signing)
  | listing {objects : List ListedObject} {calls : List PolicyCall} {result : Except ErrorCode (List ListedObject)}
      (body : e.message.body = .listing objects) (lists : Lists e calls result) : Makes e calls (result.map .listing)

/-- The message of an exchange with its body, or with its fault. -/
def Exchange.answered (e : Exchange) : Except ErrorCode Body → Message
  | .ok body => e.message.withBody body
  | .error code => e.message.faulted code

/-- The calls of an exchange and its answer: the id is given first, and all others are shown the exchange with it. -/
inductive Runs (e : Exchange) : List PolicyCall → Message → Prop
  | opened {id : String} {calls : List PolicyCall} {result : Except ErrorCode Body}
      (makes : Makes (e.withTransactionId id) calls result) :
      Runs e (.transactionId e id :: calls) ((e.withTransactionId id).answered result)

namespace Policy

variable {m : Type → Type} [Monad m]

/-- Whether every call of a policy, with its answer, is one of those `Admitted`. -/
structure Admits (p : Policy m) (Admitted : PolicyCall → Prop) : Prop where
  transactionId (e : Exchange) : SatisfiesM (fun id => Admitted (.transactionId e id)) (p.transactionIds.next e)
  authorize (e : Exchange) (r : Request) : SatisfiesM (fun v => Admitted (.authorize e r v)) (p.authorizer.request e r)
  authorizeListing (e : Exchange) : SatisfiesM (fun v => Admitted (.authorizeListing e v)) (p.authorizer.listing e)
  sign (e : Exchange) (r : Request) : SatisfiesM (fun result => Admitted (.sign e r result)) (p.signer.sign e r)
  list (e : Exchange) : SatisfiesM (fun result => Admitted (.list e result)) (p.lister.list e)

variable [LawfulMonad m] {p : Policy m} {Admitted : PolicyCall → Prop}

theorem admits_all (p : Policy m) : p.Admits fun _ => True :=
  ⟨fun _ => .trivial, fun _ _ => .trivial, fun _ => .trivial, fun _ _ => .trivial, fun _ => .trivial⟩

/-! ## Every run is one of these -/

section Records

variable (hp : p.Admits Admitted)

include hp

theorem records_decideOne (e : Exchange) (r : Request) :
    Records Admitted (DecidesOne e r) (p.watched.decideOne e r) := by
  unfold decideOne
  refine (Records.recorded (hp.authorize e r.undecided)).bind fun calls verdict hcalls => ?_
  subst hcalls
  cases verdict with
  | deny reason => exact .pure (.refused reason)
  | allow =>
    refine (Records.recorded (hp.sign e r.undecided)).bind fun calls result hcalls => ?_
    subst hcalls
    cases result with
    | error cause => exact .pure (.failed cause)
    | ok u => exact .pure (.signed u)

theorem records_decideAll (e : Exchange) : ∀ requests : List Request,
    Records Admitted (DecidesAll e requests) (p.watched.decideAll e requests)
  | [] => .pure .done
  | r :: rest => by
    unfold decideAll
    refine (records_decideOne hp e r).bind fun calls result hone => ?_
    cases result with
    | error code => exact .pure (by rw [List.append_nil]; exact .stopped hone)
    | ok d =>
      refine (records_decideAll e rest).bind fun others result hall => ?_
      have hnext := DecidesAll.next hone hall
      cases result <;> exact .pure (by rw [List.append_nil]; exact hnext)

theorem records_listing (e : Exchange) : Records Admitted (Lists e) (p.watched.listing e) := by
  unfold listing
  refine (Records.recorded (hp.authorizeListing e)).bind fun calls verdict hcalls => ?_
  subst hcalls
  cases verdict with
  | deny reason => exact .pure (.refused reason)
  | allow =>
    refine (Records.recorded (hp.list e)).bind fun calls result hcalls => ?_
    subst hcalls
    cases result with
    | error cause => exact .pure (.failed cause)
    | ok objects => exact .pure (.listed objects)

theorem records_outcome (e : Exchange) : Records Admitted (Makes e) (p.watched.outcome e) := by
  unfold outcome
  cases hbody : e.message.body with
  | signing requests =>
    refine (records_decideAll hp e requests).bind fun calls result hall => .pure ?_
    rw [List.append_nil]
    exact .signing hbody hall
  | listing objects =>
    refine (records_listing hp e).bind fun calls result hlists => .pure ?_
    rw [List.append_nil]
    exact .listing hbody hlists

/-- **Every run of a watched policy** is said by its calls. -/
theorem records_run (e : Exchange) : Records Admitted (Runs e) (p.watched.run e) := by
  unfold run
  refine (Records.recorded (hp.transactionId e)).bind fun calls id hcalls => ?_
  subst hcalls
  refine (records_outcome hp (e.withTransactionId id)).bind fun calls result hmakes => ?_
  have hruns := Runs.opened hmakes
  cases result <;> exact .pure (by rw [List.append_nil]; exact hruns)

end Records

/-! ## To be watched changes nothing -/

theorem watches_decideOne (e : Exchange) (r : Request) : Watches (p.watched.decideOne e r) (p.decideOne e r) := by
  unfold decideOne
  refine (Watches.recorded _ _).bind fun verdict => ?_
  cases verdict with
  | deny reason => exact .pure _
  | allow => exact (Watches.recorded _ _).bind fun result => by cases result <;> exact .pure _

theorem watches_decideAll (e : Exchange) : ∀ requests : List Request,
    Watches (p.watched.decideAll e requests) (p.decideAll e requests)
  | [] => .pure _
  | r :: rest => by
    unfold decideAll
    refine (watches_decideOne e r).bind fun result => ?_
    cases result with
    | error code => exact .pure _
    | ok d => exact (watches_decideAll e rest).bind fun result => by cases result <;> exact .pure _

theorem watches_outcome (e : Exchange) : Watches (p.watched.outcome e) (p.outcome e) := by
  unfold outcome
  cases e.message.body with
  | signing requests => exact (watches_decideAll e requests).bind fun result => .pure _
  | listing objects =>
    unfold listing
    refine Watches.bind ((Watches.recorded _ _).bind fun verdict => ?_) fun result => .pure _
    cases verdict with
    | deny reason => exact .pure _
    | allow => exact (Watches.recorded _ _).bind fun result => by cases result <;> exact .pure _

/-- **A run is the same when it is watched.** -/
theorem watches_run (e : Exchange) : Watches (p.watched.run e) (p.run e) := by
  unfold run
  refine (Watches.recorded _ _).bind fun id => (watches_outcome _).bind fun result => ?_
  cases result <;> exact .pure _

/-- Every run of a policy is said by calls that it may make. -/
theorem always_run (hp : p.Admits Admitted) (e : Exchange) :
    SatisfiesM (fun answer => ∃ calls, (∀ call ∈ calls, Admitted call) ∧ Runs e calls answer) (p.run e) := by
  rw [← watches_run e []]
  refine (records_run hp e []).map fun {out} hout => ?_
  obtain ⟨calls, -, hadmitted, hruns⟩ := hout
  exact ⟨calls, hadmitted, hruns⟩

end Policy

theorem Makes.of_signing {e : Exchange} {calls : List PolicyCall} {result : Except ErrorCode Body} (h : Makes e calls result)
    {requests : List Request} (hbody : e.message.body = .signing requests) :
    ∃ decided, DecidesAll e requests calls decided ∧ result = decided.map .signing := by
  cases h with
  | signing body all =>
    cases body.symm.trans hbody
    exact ⟨_, all, rfl⟩
  | listing body lists => cases body.symm.trans hbody

theorem Makes.of_listing {e : Exchange} {calls : List PolicyCall} {result : Except ErrorCode Body} (h : Makes e calls result)
    {objects : List ListedObject} (hbody : e.message.body = .listing objects) :
    ∃ listed, Lists e calls listed ∧ result = listed.map .listing := by
  cases h with
  | signing body all => cases body.symm.trans hbody
  | listing body lists => exact ⟨_, lists, rfl⟩

namespace Gate

variable {m : Type → Type} [Monad m]

/-- A gate whose policy is watched. -/
def watched : Gate m → Gate (StateT (List PolicyCall) m)
  | ready p => ready p.watched
  | failed cause => failed cause

variable [LawfulMonad m]

theorem run_process_failed (cause : InitializationError) (moment : Moment) (caller : Caller) (inbound : Message)
    (before : List PolicyCall) :
    ((Gate.failed cause).process moment caller inbound : StateT (List PolicyCall) m Message).run before
      = (·, before) <$> (Gate.failed cause : Gate m).process moment caller inbound := by
  simp [process, TransactionIds.ulids]

/-- **The calls of an exchange, in order**, whatever effects the components have.  First the id.  Then, for a batch, the calls
about one request after the other, about all of them or up to and with the first whose signature fails; for a listing, the
authorizer's and, if that allows it, the lister's.  Every call after the first is shown the message with the id and without an
error code of the client.  A gate without a policy makes none, and to be watched changes nothing. -/
theorem process_calls (p : Policy m) (moment : Moment) (caller : Caller) (inbound : Message) :
    let before := inbound.received moment caller
    let run : m (Message × List PolicyCall) := ((Gate.ready p.watched).process moment caller inbound).run []
    Prod.fst <$> run = (Gate.ready p).process moment caller inbound ∧
    SatisfiesM (fun out => ∃ id calls, out.2 = .transactionId before id :: calls ∧
      let e : Exchange :=
        { message :=
            { application := inbound.application.erase errorCodeProperty
              properties := if id = "" then inbound.properties else inbound.properties.insert transactionIdProperty id
              body := inbound.body }
          caller
          moment }
      (∀ requests, inbound.body = .signing requests → ∃ result, DecidesAll e requests calls result) ∧
      ∀ objects, inbound.body = .listing objects → ∃ result, Lists e calls result) run ∧
    ∀ cause, ((Gate.failed cause).process moment caller inbound : StateT (List PolicyCall) m Message).run []
      = (·, []) <$> (Gate.failed cause : Gate m).process moment caller inbound := by
  intro before run
  refine ⟨Policy.watches_run before [], ?_, fun cause => run_process_failed cause moment caller inbound []⟩
  refine (Policy.records_run (Policy.admits_all p) before []).imp fun {out} hout => ?_
  obtain ⟨answer, all⟩ := out
  obtain ⟨calls, hcalls, -, hruns⟩ := hout
  cases hcalls
  cases hruns with
  | @opened id calls result makes =>
    refine ⟨id, calls, rfl, ?_⟩
    rw [Message.received_withTransactionId] at makes
    refine ⟨fun requests hbody => ?_, fun objects hbody => ?_⟩
    · obtain ⟨decided, hall, -⟩ := makes.of_signing hbody
      exact ⟨decided, hall⟩
    · obtain ⟨listed, hlists, -⟩ := makes.of_listing hbody
      exact ⟨listed, hlists⟩

/-- A policy that counts down: it allows as many requests as are left, whatever they are.  The key `bad` cannot be signed. -/
def rationed : Policy (StateM Nat) where
  authorizer :=
    { request := fun _ _ => modifyGet fun left => (if left = 0 then .deny none else .allow, left - 1)
      listing := fun _ => return .allow }
  signer := { sign := fun _ r => return if r.key = "bad" then .error (.unsupported "bad") else .ok { url := r.key } }
  lister := { list := fun _ => return .ok [] }
  transactionIds := { next := fun _ => return "t" }

/-- The same request twice where one is left, and one behind them that is still asked about. -/
theorem process_calls_rationed :
    let a : Request := { action := .get, key := "a" }
    let inbound : Message := { body := .signing [{ a with decision := .signed "forged" }, a, { a with key := "bad" }] }
    let before := inbound.received default default
    let e := before.withTransactionId "t"
    let out := (((Gate.ready rationed.watched).process default default inbound).run []).run 1
    let calls : List PolicyCall :=
      [.authorize e a .allow, .sign e a (.ok { url := "a" }), .authorize e a (.deny none),
       .authorize e { a with key := "bad" } (.deny none)]
    out.1.2 = .transactionId before "t" :: calls ∧ ∃ result,
      DecidesAll e [{ a with decision := .signed "forged" }, a, { a with key := "bad" }] calls result := by
  intro a inbound before e out calls
  have hout : out.1.2 = .transactionId before "t" :: calls := rfl
  obtain ⟨-, halways, -⟩ := process_calls rationed default default inbound
  obtain ⟨id, calls', hcalls, hsigning, -⟩ := SatisfiesM_Id_eq.1 (SatisfiesM_StateT_eq.1 halways 1)
  cases hout.symm.trans hcalls
  exact ⟨hout, hsigning _ rfl⟩

end Gate
end StorageGate
