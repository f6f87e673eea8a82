import StorageGate.Policy.Change
/-!
# Decisions stand

A request is decided once.  Three changes decide: to sign, to decline, and to put in what a signer gave, which amends a copy
of the request first.  Each of them fails on a request that is decided, names its key as amended and the decision that stands,
and leaves the request as it is (`attempt_of_ne_pending`).  Over a run this makes the first decision since the last one was
taken back the decision at its end (`decisions_stand`).
-/
namespace StorageGate
namespace Request

/-- The decision that a change makes. -/
def Change.made? : Change → Option Decision
  | .sign url => some (.signed url)
  | .decline reason => some (.declined reason)
  | .apply signed => some (.signed signed.url)
  | .undecided | .setKey _ | .setBucket _ | .setMetadata _ | .addMetadata _ _ => none

/-- The request that a change decides: with what a signer amends. -/
def Change.amended (r : Request) : Change → Request
  | .apply signed => signed.amend r
  | _ => r

/-! ## One change -/

variable {r : Request} {change : Change} {changes : List Change}

/-- **A change that decides a pending request** leaves it amended and decided. -/
theorem attempt_of_pending {decision : Decision} (h : change.made? = some decision) (hpending : r.decision = .pending) :
    r.attempt change = .ok { change.amended r with decision } := by
  cases change with
  | sign | decline => cases h; exact settle_of_pending hpending _
  | apply signed => cases h; exact signed.apply_of_pending hpending
  | undecided | setKey | setBucket | setMetadata | addMetadata => cases h

/-- **A change that decides what is decided** fails, and leaves the request as it is. -/
theorem attempt_of_ne_pending (h : change.made?.isSome) (hmade : r.decision ≠ .pending) :
    r.attempt change = .failed { key := (change.amended r).key, decision := r.decision } r := by
  cases change with
  | sign | decline => exact settle_of_ne_pending hmade _
  | apply signed => exact signed.apply_of_ne_pending hmade
  | undecided | setKey | setBucket | setMetadata | addMetadata => cases h

/-- A change that neither decides nor takes a decision back succeeds, and the decision stays. -/
theorem exists_attempt_of_unmade (h : change.made? = none) (hkept : change ≠ .undecided) :
    ∃ s, r.attempt change = .ok s ∧ s.decision = r.decision := by
  cases change with
  | undecided => exact absurd rfl hkept
  | sign | decline | apply => cases h
  | setKey | setBucket | setMetadata | addMetadata => exact ⟨_, rfl, rfl⟩

theorem after_of_ok {s : Request} (h : r.attempt change = .ok s) : r.after change = s := congrArg Step.left h

theorem after_of_ne_pending (h : change.made?.isSome) (hmade : r.decision ≠ .pending) : r.after change = r :=
  congrArg Step.left (attempt_of_ne_pending h hmade)

theorem decision_after_of_pending (hpending : r.decision = .pending) (hkept : change ≠ .undecided) :
    (r.after change).decision = change.made?.getD .pending := by
  cases hmade : change.made? with
  | some decision => rw [after_of_ok (attempt_of_pending hmade hpending)]; rfl
  | none =>
    obtain ⟨s, hs, hdecision⟩ := exists_attempt_of_unmade (r := r) hmade hkept
    rw [after_of_ok hs, hdecision, hpending]
    rfl

theorem decision_after_of_ne_pending (hdecided : r.decision ≠ .pending) (hkept : change ≠ .undecided) :
    (r.after change).decision = r.decision := by
  cases hmade : change.made? with
  | some decision => rw [after_of_ne_pending (Option.isSome_of_mem hmade) hdecided]
  | none =>
    obtain ⟨s, hs, hdecision⟩ := exists_attempt_of_unmade (r := r) hmade hkept
    rw [after_of_ok hs, hdecision]

/-- A request is pending, or signed, or declined. -/
theorem count_standing (r : Request) :
    [decide (r.decision = .pending), r.signedUrl?.isSome, r.declineReason?.isSome].count true = 1 := by
  cases h : r.decision <;> simp [signedUrl?, declineReason?, h]

/-! ## A run -/

theorem run_append (r : Request) (before rest : List Change) : r.run (before ++ rest) = (r.run before).run rest :=
  List.foldl_append

/-- **A decision stands** as long as it is not taken back. -/
theorem decision_run_of_ne_pending : ∀ {changes : List Change} {r : Request}, r.decision ≠ .pending →
    .undecided ∉ changes → (r.run changes).decision = r.decision
  | [], _, _, _ => rfl
  | change :: changes, r, hdecided, hkept => by
    obtain ⟨hchange, hchanges⟩ := not_or.1 (mt List.mem_cons.2 hkept)
    have hafter := decision_after_of_ne_pending hdecided (Ne.symm hchange)
    exact (decision_run_of_ne_pending (hafter ▸ hdecided) hchanges).trans hafter

/-- **Where nothing is decided, the first decision of a run is the one at its end.** -/
theorem decision_run_of_pending : ∀ {changes : List Change} {r : Request}, r.decision = .pending →
    .undecided ∉ changes → (r.run changes).decision = (changes.findSome? Change.made?).getD .pending
  | [], _, hpending, _ => hpending
  | change :: changes, r, hpending, hkept => by
    obtain ⟨hchange, hchanges⟩ := not_or.1 (mt List.mem_cons.2 hkept)
    have hafter := decision_after_of_pending hpending (Ne.symm hchange)
    rw [List.findSome?_cons]
    show ((r.after change).run changes).decision = _
    -- A change that makes no decision leaves the request pending; the first that makes one is made for the rest.
    cases hmade : change.made? with
    | none =>
      rw [hmade] at hafter
      exact decision_run_of_pending hafter hchanges
    | some decision =>
      rw [hmade] at hafter
      have hdecided : decision ≠ .pending := by
        cases change <;> cases hmade <;> nofun
      exact (decision_run_of_ne_pending (hafter ▸ hdecided) hchanges).trans hafter

/-- **Decisions stand over every run of changes.**  At the end stands the first decision since the last one was taken back, or
where none was taken back the one at the start; at each step a change that decides fails on what is decided and leaves it as it
is; and at each point a request is pending, or signed, or declined. -/
theorem decisions_stand (r : Request) (changes : List Change) :
    (∀ before since, changes = before ++ .undecided :: since → .undecided ∉ since →
      (r.run changes).decision = (since.findSome? Change.made?).getD .pending) ∧
    (.undecided ∉ changes → (r.run changes).decision =
      if r.decision = .pending then (changes.findSome? Change.made?).getD .pending else r.decision) ∧
    (∀ before change rest, changes = before ++ change :: rest →
      let s := r.run before
      (∀ decision, change.made? = some decision → s.decision = .pending →
        s.attempt change = .ok { change.amended s with decision }) ∧
      (change.made?.isSome → s.decision ≠ .pending →
        s.attempt change = .failed { key := (change.amended s).key, decision := s.decision } s ∧ s.after change = s) ∧
      (change.made? = none → change ≠ .undecided → ∃ t, s.attempt change = .ok t ∧ t.decision = s.decision)) ∧
    ∀ before rest, changes = before ++ rest →
      let s := r.run before
      [decide (s.decision = .pending), s.signedUrl?.isSome, s.declineReason?.isSome].count true = 1 := by
  refine ⟨?_, ?_, ?_, ?_⟩
  · rintro before since rfl hkept
    rw [run_append]
    exact decision_run_of_pending (r := (r.run before).undecided) rfl hkept
  · intro hkept
    split
    · exact decision_run_of_pending ‹_› hkept
    · exact decision_run_of_ne_pending ‹_› hkept
  · rintro before change rest -
    refine ⟨fun decision h hpending => attempt_of_pending h hpending, fun h hdecided => ?_, exists_attempt_of_unmade⟩
    exact ⟨attempt_of_ne_pending h hdecided, after_of_ne_pending h hdecided⟩
  · rintro before rest -
    exact count_standing (r.run before)

/-- A URL whose signer renames the request, once the first decision is taken back: a later change fails and names both. -/
theorem decisions_stand_taken_back :
    let r : Request := { action := .get, key := "a" }
    let before : List Change := [.decline "no", .sign "first", .undecided, .setKey "b", .apply { url := "last", key := some "c" }]
    let again : Change := .apply { url := "later", key := some "d", bucket := some "other" }
    .undecided ∉ [.setKey "b", .apply { url := "last", key := some "c" }, again] ∧
      (r.run (before ++ [again])).decision = .signed "last" ∧
      (r.run before).attempt again = .failed { key := "d", decision := .signed "last" } (r.run before) ∧
      (r.run (before ++ [again])).key = "c" := by
  intro r before again
  obtain ⟨hlast, -, hsteps, -⟩ := decisions_stand r (before ++ [again])
  have hkept : .undecided ∉ [.setKey "b", .apply { url := "last", key := some "c" }, again] := by decide
  have hend := hlast [.decline "no", .sign "first"] _ rfl hkept
  obtain ⟨hfailed, hsame⟩ := (hsteps before again [] rfl).2.1 rfl (by decide)
  have hrun : r.run (before ++ [again]) = r.run before := (run_append r before [again]).trans hsame
  exact ⟨hkept, hend, hfailed, congrArg key hrun⟩

end Request
end StorageGate
