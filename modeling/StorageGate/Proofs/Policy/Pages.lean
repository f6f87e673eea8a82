import StorageGate.Policy.Lister
import StorageGate.Proofs.Storage.ObjectUrl
/-!
# Listings page by page

What a listing does at a page follows from the pages before it: it asks with the token of the one before for what is still
wanted, and goes on if the page names the one after it (`Passes`).  So the pages that are asked for are those behind pages
that it passes, and the outcome is that of the last of them (`runFrom_asked`).  With fewer objects than are counted in 32
bits, that is the first page without a next one, or with an error, or with the last object that is wanted
(`run_of_pages`).
-/
namespace StorageGate

/-- What a service says of each page of a listing, by number. -/
abbrev Pages : Type := Nat → Except ListingError Page

namespace Pages

/-- The pages in a list of answers; behind them there is no answer. -/
def ofAnswers (answers : List Http.Response) : Pages := fun j =>
  match answers[j]? with
  | some answer => StorageLister.readPage answer
  | none => .error .noAnswer

theorem ofAnswers_drop (answers : List Http.Response) (k : Nat) : ofAnswers (answers.drop k) 0 = ofAnswers answers k := by
  simp only [ofAnswers, List.getElem?_drop, Nat.add_zero]

variable (pages : Pages)

/-- The objects of a page; of an error there are none. -/
def objectsAt (j : Nat) : List ListedObject :=
  match pages j with
  | .ok page => page.objects
  | .error _ => []

/-- The objects of all pages before a page. -/
def objectsBefore (j : Nat) : List ListedObject := (List.range j).flatMap pages.objectsAt

/-- The token that a page is asked for with: that of the page before it. -/
def tokenFor : Nat → Option String
  | 0 => none
  | j + 1 =>
    match pages j with
    | .ok page => page.token
    | .error _ => none

@[simp] theorem objectsBefore_zero : pages.objectsBefore 0 = [] := rfl

theorem objectsBefore_succ (j : Nat) : pages.objectsBefore (j + 1) = pages.objectsBefore j ++ pages.objectsAt j := by
  rw [objectsBefore, List.range_succ, List.flatMap_append, List.flatMap_singleton, ← objectsBefore]

theorem length_objectsBefore_mono {i j : Nat} (h : i ≤ j) :
    (pages.objectsBefore i).length ≤ (pages.objectsBefore j).length := by
  induction h with
  | refl => exact Nat.le_refl _
  | step _ ih => rw [objectsBefore_succ, List.length_append]; omega

/-- Behind the answers there are no objects. -/
theorem length_objectsBefore_le (answers : List Http.Response) (j : Nat) :
    (objectsBefore (.ofAnswers answers) j).length ≤ (objectsBefore (.ofAnswers answers) answers.length).length := by
  induction j with
  | zero => exact Nat.zero_le _
  | succ j ih =>
    rcases Nat.lt_or_ge j answers.length with hj | hj
    · exact length_objectsBefore_mono _ hj
    · have hnone : objectsAt (.ofAnswers answers) j = [] := by
        rw [objectsAt, ofAnswers, List.getElem?_eq_none hj]
      rwa [objectsBefore_succ, hnone, List.append_nil]

variable {pages}

theorem objectsAt_of_ok {j : Nat} {page : Page} (h : pages j = .ok page) : pages.objectsAt j = page.objects := by
  rw [objectsAt, h]

theorem tokenFor_of_next {j : Nat} {page : Page} {token : String} (h : pages j = .ok page) (hnext : page.next? = some token) :
    pages.tokenFor (j + 1) = some token := by
  rw [tokenFor, h]
  unfold Page.next? at hnext
  split at hnext
  · exact hnext
  · cases hnext

end Pages

/-- A page names the one after it if there are more objects and it has a token. -/
theorem Page.isSome_next?_iff {page : Page} : page.next?.isSome ↔ page.isTruncated = true ∧ ∃ token, page.token = some token := by
  unfold next?
  cases page.isTruncated <;> simp [Option.isSome_iff_exists]

/-- Where one URL can be signed, every other with the same bucket and key can be. -/
theorem Credentials.exists_presign {c : Credentials} {p q : Presign} {url : Url} (h : c.presign p = .ok url)
    (hbucket : q.bucket = p.bucket) (hkey : q.key = p.key) : ∃ url', c.presign q = .ok url' := by
  obtain ⟨base, header, -, hbase, hheader, -, -⟩ := presign_eq_ok h
  unfold presign canonicalRequest
  rw [hbucket, hkey, hbase]
  dsimp only [bind, Except.bind]
  rw [hheader]
  exact ⟨_, rfl⟩

namespace StorageLister

section Steps

variable (l : StorageLister) (pages : Pages)

/-- Whether a listing goes on behind a page: objects are wanted when it is asked for, and it names the one after it. -/
def Passes (j : Nat) : Prop :=
  l.remaining (pages.objectsBefore j).length ≠ 0 ∧ ∃ page, pages j = .ok page ∧ page.next?.isSome

/-- Whether a page is asked for: objects are wanted then, and the listing passes all pages before it. -/
def Asks (j : Nat) : Prop := l.remaining (pages.objectsBefore j).length ≠ 0 ∧ ∀ i < j, l.Passes pages i

/-- What a page is asked for with. -/
def requestFor (now : Instant) (lead : Option String) (j : Nat) : Presign :=
  .list now lead (pages.tokenFor j) (some (l.remaining (pages.objectsBefore j).length))

/-- What comes of a listing that asked for so many pages: the error of the last one, or as many objects of all as are
wanted. -/
def outcomeAfter : Nat → Except ListingError (List ListedObject)
  | 0 => .ok []
  | j + 1 => (pages j).map fun _ => (pages.objectsBefore (j + 1)).take l.maxKeys

variable {l pages} {k : Nat} (hpassed : ∀ i < k, l.Passes pages i)

include hpassed

/-- A listing that wants nothing more asked for the pages that it passed. -/
theorem asks_iff_of_full (hfull : l.remaining (pages.objectsBefore k).length = 0) (j : Nat) : j < k ↔ l.Asks pages j := by
  refine ⟨fun hj => ⟨(hpassed j hj).1, fun i hi => hpassed i (Nat.lt_trans hi hj)⟩, fun ⟨hwanted, hbefore⟩ => ?_⟩
  rcases Nat.lt_trichotomy j k with hj | rfl | hj
  · exact hj
  · exact absurd hfull hwanted
  · exact absurd hfull (hbefore k hj).1

/-- One that does not pass the page it asks for asks for no other. -/
theorem asks_iff_of_stop (hwanted : l.remaining (pages.objectsBefore k).length ≠ 0) (hstop : ¬ l.Passes pages k) (j : Nat) :
    j < k + 1 ↔ l.Asks pages j := by
  refine ⟨fun hj => ?_, fun ⟨_, hbefore⟩ => ?_⟩
  · rcases Nat.lt_succ_iff_lt_or_eq.1 hj with hj | rfl
    · exact ⟨(hpassed j hj).1, fun i hi => hpassed i (Nat.lt_trans hi hj)⟩
    · exact ⟨hwanted, hpassed⟩
  · rcases Nat.lt_or_ge k j with hj | hj
    · exact absurd (hbefore k hj) hstop
    · exact Nat.lt_succ_of_le hj

/-- What is received behind the pages that a listing passed. -/
theorem outcomeAfter_of_passed : l.outcomeAfter pages k = .ok ((pages.objectsBefore k).take l.maxKeys) := by
  cases k with
  | zero => simp [outcomeAfter]
  | succ j =>
    obtain ⟨-, page, hpage, -⟩ := hpassed j (Nat.lt_succ_self j)
    rw [outcomeAfter, hpage, Except.map]

theorem passes_of_next {page : Page} {token : String} (hwanted : l.remaining (pages.objectsBefore k).length ≠ 0)
    (hpage : pages k = .ok page) (hnext : page.next? = some token) : ∀ i < k + 1, l.Passes pages i := by
  intro i hi
  rcases Nat.lt_succ_iff_lt_or_eq.1 hi with hi | rfl
  · exact hpassed i hi
  · exact ⟨hwanted, page, hpage, by rw [hnext]; rfl⟩

end Steps

variable {l : StorageLister} {now : Instant} {lead token : Option String} {received : List ListedObject}
  {answers : List Http.Response} {url : Url}

/-! ## One step -/

theorem runFrom_of_full (h : l.remaining received.length = 0) :
    l.runFrom now lead token received answers = { requests := [], outcome := .ok (received.take l.maxKeys) } := by
  unfold runFrom
  exact if_pos h

section Asking

variable (hwanted : l.remaining received.length ≠ 0)
  (hurl : l.credentials.presign (.list now lead token (some (l.remaining received.length))) = .ok url)

include hwanted hurl

/-- The last page that is asked for: there is none behind it, or it is an error. -/
theorem runFrom_of_stop (h : ∀ page, Pages.ofAnswers answers 0 = .ok page → page.next? = none) :
    l.runFrom now lead token received answers
      = { requests := [.list now lead token (some (l.remaining received.length))]
          outcome := (Pages.ofAnswers answers 0).map fun page => (received ++ page.objects).take l.maxKeys } := by
  unfold runFrom
  dsimp only
  rw [if_neg hwanted, hurl]
  cases answers with
  | nil => rfl
  | cons answer rest =>
    have hfirst : Pages.ofAnswers (answer :: rest) 0 = readPage answer := rfl
    rw [hfirst] at h ⊢
    dsimp only
    cases hpage : readPage answer with
    | error cause => rfl
    | ok page =>
      dsimp only
      rw [h page hpage]
      rfl

/-- A page behind which there is another. -/
theorem runFrom_of_next {answer : Http.Response} {page : Page} {next : String} (hpage : readPage answer = .ok page)
    (hnext : page.next? = some next) (rest : List Http.Response) :
    l.runFrom now lead token received (answer :: rest)
      = { requests := .list now lead token (some (l.remaining received.length))
            :: (l.runFrom now lead (some next) (received ++ page.objects) rest).requests
          outcome := (l.runFrom now lead (some next) (received ++ page.objects) rest).outcome } := by
  rw [runFrom]
  dsimp only
  rw [if_neg hwanted, hurl, hpage]
  simp only [hnext]

end Asking

/-! ## The whole run -/

section Run

variable (hsigned : l.credentials.presign (.list now none none none) = .ok url)

include hsigned

/-- **A run ends at a page that it does not pass**: it does not ask for the page, or for no other. -/
theorem runFrom_of_not_passes {k : Nat} (hpassed : ∀ i < k, l.Passes (.ofAnswers answers) i)
    (hstop : ¬ l.Passes (.ofAnswers answers) k) :
    let pages : Pages := .ofAnswers answers
    ∃ asked, k ≤ asked ∧ (∀ j, j < asked ↔ l.Asks pages j) ∧
      l.runFrom now lead (pages.tokenFor k) (pages.objectsBefore k) (answers.drop k)
        = { requests := (List.range' k (asked - k)).map (l.requestFor pages now lead)
            outcome := l.outcomeAfter pages asked } := by
  intro pages
  by_cases hfull : l.remaining (pages.objectsBefore k).length = 0
  · refine ⟨k, Nat.le_refl k, asks_iff_of_full hpassed hfull, ?_⟩
    rw [runFrom_of_full hfull, outcomeAfter_of_passed hpassed, Nat.sub_self]
    rfl
  · obtain ⟨url', hurl⟩ := Credentials.exists_presign hsigned (q := l.requestFor pages now lead k) rfl rfl
    have hpage : Pages.ofAnswers (answers.drop k) 0 = pages k := Pages.ofAnswers_drop answers k
    have hlast : ∀ page, Pages.ofAnswers (answers.drop k) 0 = .ok page → page.next? = none := fun page h => by
      refine Option.not_isSome_iff_eq_none.1 fun hnext => hstop ⟨hfull, page, ?_, hnext⟩
      rw [← h, hpage]
    refine ⟨k + 1, Nat.le_succ k, asks_iff_of_stop hpassed hfull hstop, ?_⟩
    rw [runFrom_of_stop hfull hurl hlast, hpage, outcomeAfter, Pages.objectsBefore_succ, Pages.objectsAt,
      Nat.add_sub_cancel_left]
    cases pages k <;> rfl

variable (lead)

/-- **A run from a page on**, behind pages that it passed: it asks for the pages there are to ask for, in order, and gives
what comes of the last. -/
theorem runFrom_asked (rest : List Http.Response) :
    let pages : Pages := .ofAnswers answers
    ∀ k, answers.drop k = rest → (∀ i < k, l.Passes pages i) →
      ∃ asked, k ≤ asked ∧ (∀ j, j < asked ↔ l.Asks pages j) ∧
        l.runFrom now lead (pages.tokenFor k) (pages.objectsBefore k) rest
          = { requests := (List.range' k (asked - k)).map (l.requestFor pages now lead)
              outcome := l.outcomeAfter pages asked } := by
  intro pages
  -- What the loop holds at a page is what the pages before it left, and `rest` is what is still to come.
  induction rest with
  | nil =>
    intro k hrest hpassed
    rw [← hrest]
    refine runFrom_of_not_passes hsigned hpassed fun ⟨_, page, hpage, _⟩ => ?_
    rw [← Pages.ofAnswers_drop answers k, hrest] at hpage
    cases hpage
  | cons answer rest ih =>
    intro k hrest hpassed
    by_cases hpasses : l.Passes pages k
    · obtain ⟨hwanted, page, hpage, hsome⟩ := hpasses
      obtain ⟨next, hnext⟩ := Option.isSome_iff_exists.1 hsome
      obtain ⟨url', hurl⟩ := Credentials.exists_presign hsigned (q := l.requestFor pages now lead k) rfl rfl
      have hanswer : readPage answer = .ok page := by
        have hfirst : Pages.ofAnswers (answers.drop k) 0 = .ok page := (Pages.ofAnswers_drop answers k).trans hpage
        rwa [hrest] at hfirst
      have hdrop : answers.drop (k + 1) = rest := by
        rw [← List.drop_drop, hrest, List.drop_one, List.tail_cons]
      have hpassed' : ∀ i < k + 1, l.Passes pages i := passes_of_next hpassed hwanted hpage hnext
      obtain ⟨asked, hle, hasked, hrun⟩ := ih (k + 1) hdrop hpassed'
      have hrange : List.range' k (asked - k) = k :: List.range' (k + 1) (asked - (k + 1)) := by
        rw [show asked - k = asked - (k + 1) + 1 by omega, List.range'_succ]
      rw [Pages.tokenFor_of_next hpage hnext, Pages.objectsBefore_succ, Pages.objectsAt_of_ok hpage] at hrun
      refine ⟨asked, Nat.le_of_succ_le hle, hasked, ?_⟩
      rw [runFrom_of_next hwanted hurl hanswer hnext, hrun, hrange]
      rfl
    · rw [← hrest]
      exact runFrom_of_not_passes hsigned hpassed hpasses

variable (answers)

/-- **A run asks for the pages there are to ask for**, in order, and gives what comes of the last. -/
theorem exists_asked : ∃ asked, (∀ j, j < asked ↔ l.Asks (.ofAnswers answers) j) ∧
    l.runFrom now lead none [] answers
      = { requests := (List.range asked).map (l.requestFor (.ofAnswers answers) now lead)
          outcome := l.outcomeAfter (.ofAnswers answers) asked } := by
  obtain ⟨asked, -, hasked, hrun⟩ := runFrom_asked lead hsigned answers 0 List.drop_zero fun i hi => nomatch hi
  rw [Nat.sub_zero, ← List.range_eq_range'] at hrun
  exact ⟨asked, hasked, hrun⟩

end Run

/-! ## What comes of the last page -/

section Outcome

variable {pages : Pages} {asked : Nat} (hasked : ∀ j, j < asked ↔ l.Asks pages j)

include hasked

theorem asked_eq_zero_iff : asked = 0 ↔ l.maxKeys = 0 := by
  have hzero : l.Asks pages 0 ↔ l.maxKeys ≠ 0 := by simp [Asks, remaining]
  rw [← hasked] at hzero
  omega

theorem asked_eq_succ_iff (j : Nat) : asked = j + 1 ↔ l.Asks pages j ∧ ¬ l.Asks pages (j + 1) := by
  rw [← hasked, ← hasked]
  omega

theorem outcomeAfter_eq_ok_iff (objects : List ListedObject) : l.outcomeAfter pages asked = .ok objects ↔
    (l.maxKeys = 0 ∧ objects = []) ∨ ∃ j page, (l.Asks pages j ∧ ¬ l.Asks pages (j + 1)) ∧ pages j = .ok page ∧
      objects = (pages.objectsBefore (j + 1)).take l.maxKeys := by
  simp only [← asked_eq_zero_iff hasked, ← asked_eq_succ_iff hasked]
  cases asked with
  | zero => simp [outcomeAfter, eq_comm]
  | succ j => cases hpage : pages j <;> simp [outcomeAfter, hpage, Except.map, eq_comm]

/-- A listing fails with the error of a page that it asks for; behind that it asks for none. -/
theorem outcomeAfter_eq_error_iff (cause : ListingError) : l.outcomeAfter pages asked = .error cause ↔
    ∃ j, l.Asks pages j ∧ pages j = .error cause := by
  have hlast (j : Nat) (hpage : pages j = .error cause) : ¬ l.Asks pages (j + 1) := fun ⟨_, hpassed⟩ => by
    obtain ⟨-, page, hok, -⟩ := hpassed j (Nat.lt_succ_self j)
    rw [hpage] at hok
    cases hok
  have hiff : (∃ j, l.Asks pages j ∧ pages j = .error cause) ↔ ∃ j, asked = j + 1 ∧ pages j = .error cause := by
    simp only [asked_eq_succ_iff hasked]
    exact exists_congr fun j => ⟨fun ⟨h, hpage⟩ => ⟨⟨h, hlast j hpage⟩, hpage⟩, fun ⟨⟨h, _⟩, hpage⟩ => ⟨h, hpage⟩⟩
  rw [hiff]
  cases asked with
  | zero => simp [outcomeAfter]
  | succ j => cases hpage : pages j <;> simp [outcomeAfter, hpage, Except.map]

end Outcome

/-! ## Fewer objects than are counted in 32 bits -/

section Counted

variable {pages : Pages} (hcounted : ∀ j, (pages.objectsBefore j).length < size32)

include hcounted

theorem remaining_of_counted (j : Nat) :
    l.remaining (pages.objectsBefore j).length = l.maxKeys - (pages.objectsBefore j).length := by
  rw [remaining, Nat.mod_eq_of_lt (hcounted j)]

/-- **A page is asked for** as long as fewer objects were received than are wanted and every page before it named the one
after it. -/
theorem asks_iff (j : Nat) : l.Asks pages j ↔ (pages.objectsBefore j).length < l.maxKeys ∧
    ∀ i < j, ∃ page token, pages i = .ok page ∧ page.isTruncated = true ∧ page.token = some token := by
  have hwanted (j : Nat) : l.remaining (pages.objectsBefore j).length ≠ 0 ↔ (pages.objectsBefore j).length < l.maxKeys := by
    rw [remaining_of_counted hcounted]
    omega
  unfold Asks Passes
  simp only [hwanted, Page.isSome_next?_iff]
  refine and_congr_right fun hj => forall₂_congr fun i hi => ⟨fun ⟨_, page, hpage, htruncated, token, htoken⟩ => ?_,
    fun ⟨page, token, hpage, htruncated, htoken⟩ => ⟨?_, page, hpage, htruncated, token, htoken⟩⟩
  · exact ⟨page, token, hpage, htruncated, htoken⟩
  · exact Nat.lt_of_le_of_lt (pages.length_objectsBefore_mono (Nat.le_of_lt hi)) hj

/-- **It is the last one** if there are no more objects, or no token, or none is wanted beyond those that were received. -/
theorem last_iff {j : Nat} {page : Page} (hasks : l.Asks pages j) (hpage : pages j = .ok page) : ¬ l.Asks pages (j + 1) ↔
    page.isTruncated = false ∨ page.token = none ∨ l.maxKeys ≤ (pages.objectsBefore (j + 1)).length := by
  rw [asks_iff hcounted] at hasks ⊢
  constructor
  · intro hnot
    by_contra hmore
    simp only [not_or] at hmore
    obtain ⟨htruncated, htoken, hcount⟩ := hmore
    obtain ⟨token, htoken⟩ := Option.ne_none_iff_exists'.1 htoken
    refine hnot ⟨Nat.lt_of_not_le hcount, fun i hi => ?_⟩
    rcases Nat.lt_succ_iff_lt_or_eq.1 hi with hi | rfl
    · exact hasks.2 i hi
    · exact ⟨page, token, hpage, by simpa using htruncated, htoken⟩
  · rintro hlast ⟨hcount, hnamed⟩
    obtain ⟨page', token, hpage', htruncated, htoken⟩ := hnamed j (Nat.lt_succ_self j)
    rw [hpage] at hpage'
    cases hpage'
    rcases hlast with h | h | h
    · rw [h] at htruncated
      cases htruncated
    · rw [h] at htoken
      cases htoken
    · omega

end Counted

theorem leadFor_eq (l : StorageLister) (message : Message) : l.leadFor message
    = if l.lead = none ∧ message.application? prefixProperty = none then none
      else some (l.lead.getD "" ++ (message.application? prefixProperty).getD "") := by
  unfold leadFor
  cases l.lead <;> cases message.application? prefixProperty <;> simp

/-- **A listing gives the right objects.**  A page is asked for if fewer objects were received before it than are wanted and
every page before it is truncated and has a token.  It is asked for in the bucket of the account, with what the configuration
and then the client have keys start with, with the token of the page before it and for the objects that are still wanted.
The listing is as many objects as are wanted of all pages up to the last one: the first that is asked for and is not
truncated, has no token, or brings all that are wanted.  It fails with the error of a page exactly if that page is asked for,
and where nothing is wanted nothing is asked. -/
theorem list_of_pages (l : StorageLister) (e : Exchange) {url : Url}
    (hsigned : l.credentials.presign (.list e.moment.now none none none) = .ok url)
    (htotal : (Pages.objectsBefore (.ofAnswers e.moment.answers) e.moment.answers.length).length < size32) :
    let pages : Pages := .ofAnswers e.moment.answers
    let received (j : Nat) := (pages.objectsBefore j).length
    let requested := e.message.application? "prefix"
    let lead := if l.lead = none ∧ requested = none then none else some (l.lead.getD "" ++ requested.getD "")
    let Asked (j : Nat) : Prop := received j < l.maxKeys ∧
      ∀ i < j, ∃ page token, pages i = .ok page ∧ page.isTruncated = true ∧ page.token = some token
    let Last (j : Nat) (page : Page) : Prop :=
      page.isTruncated = false ∨ page.token = none ∨ l.maxKeys ≤ received (j + 1)
    let request (j : Nat) : Presign :=
      { method := "GET"
        bucket := none
        key := ""
        params := [("list-type", "2")] ++ (lead.map ("prefix", ·)).toList
          ++ ((pages.tokenFor j).map ("continuation-token", ·)).toList
          ++ [("max-keys", String.ofList (Numeral.write (l.maxKeys - received j)))]
        time := e.moment.now }
    let listed := (l.lister : BucketLister Id).list e
    (l.maxKeys = 0 → (l.run e).requests = [] ∧ listed = .ok []) ∧
    (∀ j r, (l.run e).requests[j]? = some r ↔ Asked j ∧ r = request j) ∧
    (∀ objects, listed = .ok objects ↔ (l.maxKeys = 0 ∧ objects = []) ∨ ∃ j page, Asked j ∧ pages j = .ok page ∧
      Last j page ∧ objects = (pages.objectsBefore (j + 1)).take l.maxKeys) ∧
    ∀ failure, listed = .error failure ↔ ∃ j cause, Asked j ∧ pages j = .error cause ∧ failure = .storage cause := by
  intro pages received requested lead Asked Last request listed
  have hcounted (j : Nat) : received j < size32 := Nat.lt_of_le_of_lt (Pages.length_objectsBefore_le _ j) htotal
  obtain ⟨asked, hasked, hrun⟩ := exists_asked (l.leadFor e.message) e.moment.answers hsigned
  have hAsked (j : Nat) : l.Asks pages j ↔ Asked j := asks_iff hcounted j
  have hrequest : l.requestFor pages e.moment.now (l.leadFor e.message) = request := funext fun j => by
    rw [requestFor, remaining_of_counted hcounted, leadFor_eq]
    rfl
  have hrequests : (l.run e).requests = (List.range asked).map request := by
    rw [← hrequest]
    exact congrArg ListingRun.requests hrun
  have hlisted : listed = (l.outcomeAfter pages asked).mapError .storage :=
    congrArg (fun run => run.outcome.mapError ListingFailure.storage) hrun
  refine ⟨fun hzero => ?_, fun j r => ?_, fun objects => ?_, fun failure => ?_⟩
  · obtain rfl := (asked_eq_zero_iff hasked).2 hzero
    exact ⟨hrequests, hlisted⟩
  · rw [← hAsked, ← hasked, hrequests, List.getElem?_map]
    by_cases hj : j < asked
    · rw [List.getElem?_range hj]
      simp [hj, eq_comm]
    · rw [List.getElem?_eq_none (by simpa using hj)]
      simp [hj]
  · have hstop (j : Nat) (page : Page) (hpage : pages j = .ok page) :
        l.Asks pages j ∧ ¬ l.Asks pages (j + 1) ↔ Asked j ∧ Last j page := by
      rw [← hAsked]
      exact and_congr_right fun hasks => last_iff hcounted hasks hpage
    rw [hlisted, Traversal.mapError_eq_ok_iff, outcomeAfter_eq_ok_iff hasked]
    refine or_congr_right (exists₂_congr fun j page => ⟨fun ⟨hend, hpage, hobjects⟩ => ?_,
      fun ⟨hj, hpage, hlast, hobjects⟩ => ⟨(hstop j page hpage).2 ⟨hj, hlast⟩, hpage, hobjects⟩⟩)
    obtain ⟨hj, hlast⟩ := (hstop j page hpage).1 hend
    exact ⟨hj, hpage, hlast, hobjects⟩
  · rw [hlisted, Traversal.mapError_eq_error_iff]
    constructor
    · rintro ⟨cause, houtcome, hfailure⟩
      obtain ⟨j, hj, hpage⟩ := (outcomeAfter_eq_error_iff hasked cause).1 houtcome
      exact ⟨j, cause, (hAsked j).1 hj, hpage, hfailure⟩
    · rintro ⟨j, cause, hj, hpage, hfailure⟩
      exact ⟨cause, (outcomeAfter_eq_error_iff hasked cause).2 ⟨j, (hAsked j).2 hj, hpage⟩, hfailure⟩

/-- A response with a text in its body. -/
def response (text : String) : Http.Response := { status := 200, body := Utf8.encode text.toList }

/-- Of two pages with two objects each a lister of three objects gives the first three. -/
theorem list_of_pages_capped :
    let l : StorageLister := { credentials := .test, maxKeys := 3 }
    let answers := [
      response ("<ListBucketResult><IsTruncated>true</IsTruncated><NextContinuationToken>t</NextContinuationToken>" ++
        "<Contents><Key>a</Key></Contents><Contents><Key>b</Key></Contents></ListBucketResult>"),
      response ("<ListBucketResult><IsTruncated>true</IsTruncated><NextContinuationToken>u</NextContinuationToken>" ++
        "<Contents><Key>c</Key></Contents><Contents><Key>d</Key></Contents></ListBucketResult>")]
    let e : Exchange := { message := { body := .listing [] }, moment := { now := default, answers } }
    (∃ url, l.credentials.presign (.list e.moment.now none none none) = .ok url) ∧
    (Pages.objectsBefore (.ofAnswers answers) answers.length).length < size32 ∧
    (l.lister : BucketLister Id).list e = .ok [{ key := "a" }, { key := "b" }, { key := "c" }] := by
  intro l answers e
  obtain ⟨url, hsigned⟩ := Traversal.exists_of_isSome_toOption
    (x := l.credentials.presign (.list e.moment.now none none none)) (by decide +kernel)
  have hfirst : Pages.ofAnswers answers 0
      = .ok { objects := [{ key := "a" }, { key := "b" }], isTruncated := true, token := some "t" } :=
    Traversal.eq_ok_of_toOption (by decide +kernel)
  have hsecond : Pages.ofAnswers answers 1
      = .ok { objects := [{ key := "c" }, { key := "d" }], isTruncated := true, token := some "u" } :=
    Traversal.eq_ok_of_toOption (by decide +kernel)
  have hreceived : Pages.objectsBefore (.ofAnswers answers) 1 = [{ key := "a" }, { key := "b" }] := by
    rw [Pages.objectsBefore_succ, Pages.objectsAt_of_ok hfirst]
    rfl
  have hall : Pages.objectsBefore (.ofAnswers answers) 2
      = [{ key := "a" }, { key := "b" }, { key := "c" }, { key := "d" }] := by
    rw [Pages.objectsBefore_succ, hreceived, Pages.objectsAt_of_ok hsecond]
    rfl
  have htotal : (Pages.objectsBefore (.ofAnswers answers) answers.length).length < size32 := by
    show (Pages.objectsBefore (.ofAnswers answers) 2).length < size32
    rw [hall]
    decide
  have hwanted : (Pages.objectsBefore (.ofAnswers answers) 1).length < l.maxKeys := by rw [hreceived]; decide
  have henough : l.maxKeys ≤ (Pages.objectsBefore (.ofAnswers answers) 2).length := by rw [hall]; decide
  have hcut : [{ key := "a" }, { key := "b" }, { key := "c" }]
      = (Pages.objectsBefore (.ofAnswers answers) 2).take l.maxKeys := by rw [hall]; rfl
  obtain ⟨-, -, hlisted, -⟩ := list_of_pages l e hsigned htotal
  refine ⟨⟨url, hsigned⟩, htotal, (hlisted _).2 (.inr ⟨1, _, ⟨hwanted, fun i hi => ?_⟩, hsecond, .inr (.inr henough), hcut⟩)⟩
  obtain rfl : i = 0 := by omega
  exact ⟨_, "t", hfirst, rfl, rfl⟩

end StorageLister
end StorageGate
