import StorageGate.Proofs.Client.Direct
/-!
# What becomes of a listing

A listing goes one of three ways: it is empty if it is refused, it is what the lister makes if it is allowed, and it fails if
the lister fails (`Policy.listed`).  What the caller puts into it reaches the policy as it is, but for what a client says of
itself and for an error code (`application?_listingShown`), so neither can be mistaken for a way that the listing went.
-/
namespace StorageGate

namespace Policy

variable (p : Policy Id) (e : Exchange)

/-- What a listing comes to. -/
def listed : Except ErrorCode (List ListedObject) :=
  match p.authorizer.listing e with
  | .deny _ => .ok []
  | .allow => (p.lister.list e).mapError fun _ => .listingFailure

variable {p e}

theorem listed_of_deny {reason : Option String} (h : p.authorizer.listing e = .deny reason) : p.listed e = .ok [] := by
  rw [listed, h]

theorem listed_of_allow (h : p.authorizer.listing e = .allow) :
    p.listed e = (p.lister.list e).mapError fun _ => .listingFailure := by
  rw [listed, h]

/-- **Nothing but the lister fails.** -/
theorem listed_eq_error {code : ErrorCode} (h : p.listed e = .error code) : code = .listingFailure := by
  cases hv : p.authorizer.listing e with
  | deny reason => rw [listed_of_deny hv] at h; cases h
  | allow =>
    rw [listed_of_allow hv] at h
    cases hl : p.lister.list e with
    | ok objects => rw [hl] at h; cases h
    | error cause => rw [hl] at h; cases h; rfl

variable (p e)

theorem listing_eq_listed : p.listing e = p.listed e := by
  rw [listing, listed]
  cases p.authorizer.listing e with
  | deny reason => rfl
  | allow => cases p.lister.list e <;> rfl

variable {p e}

theorem outcome_eq_listed {objects : List ListedObject} (h : e.message.body = .listing objects) :
    p.outcome e = (p.listed e).map .listing := by
  unfold outcome
  rw [h]
  exact Traversal.bind_of_eq (p.listing_eq_listed e) _

/-- **A listing that is made, or refused,** is answered with its objects. -/
theorem run_of_listed {objects listed : List ListedObject} (h : e.message.body = .listing objects)
    (hl : p.listed (p.opened e) = .ok listed) : p.run e = (p.opened e).message.withBody (.listing listed) := by
  refine run_of_outcome_ok ?_
  rw [outcome_eq_listed ((opened_body p e).trans h), hl]
  rfl

/-- **A listing that fails** is answered with its fault. -/
theorem run_of_unlisted {objects : List ListedObject} {code : ErrorCode} (h : e.message.body = .listing objects)
    (hl : p.listed (p.opened e) = .error code) : p.run e = (p.opened e).message.faulted .listingFailure := by
  obtain rfl := listed_eq_error hl
  refine run_of_outcome_error ?_
  rw [outcome_eq_listed ((opened_body p e).trans h), hl]
  rfl

end Policy

namespace Client

/-- The exchange that a listing makes at a gate, as the provider of ids is shown it. -/
def listingExchange (application : Fields) (moment : Moment) (caller : Caller) : Exchange :=
  (listingMessage application).received moment caller

/-- That exchange as the other components are shown it, with its transaction id. -/
def listingShown (p : Policy Id) (application : Fields) (moment : Moment) (caller : Caller) : Exchange :=
  p.opened (listingExchange application moment caller)

section

variable (p : Policy Id) (application : Fields) (moment : Moment) (caller : Caller)

/-- **What a caller puts into a listing is shown as it is**, but for an error code and the version of the client. -/
theorem application?_listingExchange (name : String) :
    (listingExchange application moment caller).message.application? name
      = if name = errorCodeProperty then none
        else if name = clientVersionProperty then some clientVersion else application.get? name := by
  show ((application.insert clientVersionProperty clientVersion).erase errorCodeProperty).get? name = _
  rw [Fields.get?_erase, Fields.get?_insert]

theorem application?_listingShown (name : String) :
    (listingShown p application moment caller).message.application? name
      = (listingExchange application moment caller).message.application? name := by
  rw [listingShown, Policy.opened, Exchange.withTransactionId_message]
  rfl

theorem listingShown_body : (listingShown p application moment caller).message.body = .listing [] :=
  Policy.opened_body _ _

/-- **A listing that is made, or refused,** is what the client gets, if its objects can be numbered. -/
theorem objects_of_listed {listed : List ListedObject} (hlength : listed.length ≤ size64)
    (hl : p.listed (listingShown p application moment caller) = .ok listed) :
    (Client.remote (Transport.direct (.ready p) moment caller)).objects application = .ok listed := by
  have hrun := Policy.run_of_listed (e := listingExchange application moment caller) rfl hl
  have hanswer : (Transport.direct (.ready p) moment caller).answer (listingMessage application)
      = .ok (p.run (listingExchange application moment caller)) :=
    Transport.answer_of_length (Nat.zero_le _) (by rw [← listingExchange, hrun]; exact hlength)
  refine (Traversal.bind_of_eq hanswer _).trans ?_
  rw [hrun]
  exact objectsOfAnswer_of_listing (Message.errorCode?_received _ _ _ _) rfl

/-- **A listing that fails** is a fault. -/
theorem objects_of_unlisted {code : ErrorCode} (hl : p.listed (listingShown p application moment caller) = .error code) :
    (Client.remote (Transport.direct (.ready p) moment caller)).objects application
      = .error (.faulted ErrorCode.listingFailure.name) := by
  have hrun := Policy.run_of_unlisted (e := listingExchange application moment caller) rfl hl
  have hbody : (p.run (listingExchange application moment caller)).body = .listing [] := by
    rw [hrun, Message.faulted, Policy.opened_body]
    rfl
  have hanswer : (Transport.direct (.ready p) moment caller).answer (listingMessage application)
      = .ok (p.run (listingExchange application moment caller)) :=
    Transport.answer_of_length (Nat.zero_le _) (by rw [← listingExchange, hbody]; exact Nat.zero_le _)
  refine (Traversal.bind_of_eq hanswer _).trans ?_
  rw [hrun]
  exact objectsOfAnswer_of_errorCode (Message.errorCode?_faulted _ _)

end

/-- **What becomes of a listing**, to its end.  The client gets the objects of the lister, in order and with all they say, if
the listing is allowed; none if it is refused, for whatever reason; and a fault if the lister fails, whatever the caller put
into the listing.  Every component of the policy is shown what the caller put in, of several values under a name the last,
but no error code and the client's own version.  The answer is never malformed and never of another kind. -/
theorem outcome_of_listing (p : Policy Id) (properties : List (String × String)) (moment : Moment) (caller : Caller)
    (hlisted : ∀ e objects, p.lister.list e = .ok objects → objects.length ≤ size64) :
    let before : Exchange :=
      { message :=
          { application := ((Fields.ofList properties).insert "clientVersionId" clientVersion).erase "gatekeeperErrorCode"
            body := .listing [] }
        caller
        moment }
    let e := before.withTransactionId (p.transactionIds.next before)
    let result := (Client.remote (Transport.direct (.ready p) moment caller)).objects (Fields.ofList properties)
    (∀ objects, p.authorizer.listing e = .allow → p.lister.list e = .ok objects → result = .ok objects) ∧
    (∀ reason, p.authorizer.listing e = .deny reason → result = .ok []) ∧
    (∀ cause, p.authorizer.listing e = .allow → p.lister.list e = .error cause →
      result = .error (.faulted "ListingFailure")) ∧
    (∀ shown ∈ [before, e], shown.message.body = .listing [] ∧ ∀ name, shown.message.application? name =
      if name = "gatekeeperErrorCode" then none
      else if name = "clientVersionId" then some clientVersion
      else properties.reverse.lookup name) ∧
    (∀ cause, result ≠ .error (.malformed cause)) ∧ ∀ sent received, result ≠ .error (.mismatch sent received) := by
  intro before e result
  have hallowed {objects : List ListedObject} (hv : p.authorizer.listing e = .allow) (hl : p.lister.list e = .ok objects) :
      result = .ok objects := by
    have hmade : p.listed e = .ok objects := by rw [Policy.listed_of_allow hv, hl, Except.mapError]
    exact objects_of_listed p _ moment caller (hlisted e objects hl) hmade
  have hrefused {reason : Option String} (hv : p.authorizer.listing e = .deny reason) : result = .ok [] :=
    objects_of_listed p _ moment caller (Nat.zero_le _) (Policy.listed_of_deny hv)
  have hfailed {cause : ListingFailure} (hv : p.authorizer.listing e = .allow) (hl : p.lister.list e = .error cause) :
      result = .error (.faulted "ListingFailure") := by
    have hmade : p.listed e = .error .listingFailure := by rw [Policy.listed_of_allow hv, hl, Except.mapError]
    exact objects_of_unlisted p _ moment caller hmade
  have hcases : (∃ objects, result = .ok objects) ∨ result = .error (.faulted "ListingFailure") := by
    cases hv : p.authorizer.listing e with
    | deny reason => exact .inl ⟨[], hrefused hv⟩
    | allow =>
      cases hl : p.lister.list e with
      | ok objects => exact .inl ⟨objects, hallowed hv hl⟩
      | error cause => exact .inr (hfailed hv hl)
  refine ⟨fun _ => hallowed, fun _ => hrefused, fun _ => hfailed, fun shown hshown => ?_, fun cause h => ?_,
    fun sent received h => ?_⟩
  · have hbefore (name : String) := application?_listingExchange (Fields.ofList properties) moment caller name
    simp only [Fields.get?_ofList] at hbefore
    simp only [List.mem_cons, List.not_mem_nil, or_false] at hshown
    rcases hshown with rfl | rfl
    · exact ⟨rfl, hbefore⟩
    · exact ⟨listingShown_body p _ moment caller, fun name =>
        (application?_listingShown p _ moment caller name).trans (hbefore name)⟩
  · rcases hcases with ⟨_, h'⟩ | h' <;> · rw [h'] at h; cases h
  · rcases hcases with ⟨_, h'⟩ | h' <;> · rw [h'] at h; cases h

/-- A policy that lists one object for those who ask for `a/`, as the last of what they ask for, and fails for those who ask
for `b/`; the others are refused. -/
def byLead : Policy Id where
  authorizer :=
    { request := fun _ _ => .deny none
      listing := fun e => if (e.message.application? prefixProperty).isSome then .allow else .deny (some "no lead") }
  signer := { sign := fun _ _ => .error (.unsupported "none") }
  lister :=
    { list := fun e =>
        if e.message.application? prefixProperty = some "a/" then .ok [{ key := "a/=&", size := some 0, etag := some "" }]
        else .error (.unavailable "b/") }
  transactionIds := { next := fun _ => "t" }

/-- The three ways of a listing under that policy, with an error code that the caller brings along. -/
theorem outcome_of_listing_byLead :
    let result (properties : List (String × String)) : Except ClientError (List ListedObject) :=
      (Client.remote (Transport.direct (.ready byLead) default default)).objects
        (Fields.ofList (("gatekeeperErrorCode", "ListingFailure") :: properties))
    (∀ e objects, byLead.lister.list e = .ok objects → objects.length ≤ size64) ∧
    result [("prefix", "b/"), ("prefix", "a/")] = .ok [{ key := "a/=&", size := some 0, etag := some "" }] ∧
    result [] = .ok [] ∧
    result [("prefix", "b/")] = .error (.faulted "ListingFailure") := by
  intro result
  have hlisted : ∀ e objects, byLead.lister.list e = .ok objects → objects.length ≤ size64 := fun e objects h => by
    change (if e.message.application? prefixProperty = some "a/" then _ else _) = _ at h
    split at h
    · cases h
      decide
    · cases h
  have outcome (properties : List (String × String)) :=
    outcome_of_listing byLead (("gatekeeperErrorCode", "ListingFailure") :: properties) default default hlisted
  exact ⟨hlisted, (outcome _).1 _ rfl rfl, (outcome _).2.1 (some "no lead") rfl,
    (outcome _).2.2.1 (.unavailable "b/") rfl rfl⟩

end Client
end StorageGate
