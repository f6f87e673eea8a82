import StorageGate.Proofs.Policy.Pages
/-!
# Listings without end

How long a listing goes on is up to the service.  All that a listing counts is the objects that it still wants, and a page
need not bring any: a service that answers every request alike, with a token and no objects, is asked for ever.  So the
number of requests has a bound for one service exactly if there is a page that the listing does not pass, and a bound for
all of them exactly if nothing is wanted (`bounded_iff`).  Pages that bring objects, and no more than they are asked for, are
as many as the objects at most.
-/
namespace StorageGate

/-- The exchange in the course of which a service gives its first answers, so many of them. -/
def Exchange.answeredBy (e : Exchange) (service : Nat → Http.Response) (count : Nat) : Exchange :=
  { e with moment := { e.moment with answers := (List.range count).map service } }

/-- The pages of a service that always answers. -/
def Pages.ofService (service : Nat → Http.Response) : Pages := fun j => StorageLister.readPage (service j)

namespace StorageLister

variable {l : StorageLister} {pages : Pages}

/-! ## The first answers of a service -/

section Service

variable (service : Nat → Http.Response) {count j : Nat}

theorem ofAnswers_of_lt (h : j < count) :
    Pages.ofAnswers ((List.range count).map service) j = Pages.ofService service j := by
  rw [Pages.ofAnswers, List.getElem?_map, List.getElem?_range h]
  rfl

theorem objectsBefore_of_le (h : j ≤ count) :
    Pages.objectsBefore (.ofAnswers ((List.range count).map service)) j = Pages.objectsBefore (.ofService service) j := by
  refine List.flatMap_congr fun i hi => ?_
  rw [Pages.objectsAt, Pages.objectsAt, ofAnswers_of_lt service (Nat.lt_of_lt_of_le (List.mem_range.1 hi) h)]

theorem passes_iff_of_lt (h : j < count) :
    l.Passes (.ofAnswers ((List.range count).map service)) j ↔ l.Passes (.ofService service) j := by
  rw [Passes, Passes, ofAnswers_of_lt service h, objectsBefore_of_le service (Nat.le_of_lt h)]

/-- **Of the first answers of a service a listing asks for the pages that it would ask the service for**, and for one more
behind them. -/
theorem asks_iff_of_service : l.Asks (.ofAnswers ((List.range count).map service)) j ↔
    j ≤ count ∧ l.Asks (.ofService service) j := by
  have hsame (h : j ≤ count) : l.Asks (.ofAnswers ((List.range count).map service)) j ↔ l.Asks (.ofService service) j := by
    rw [Asks, Asks, objectsBefore_of_le service h]
    exact and_congr_right fun _ => forall₂_congr fun i hi => passes_iff_of_lt service (Nat.lt_of_lt_of_le hi h)
  refine ⟨fun hasks => ?_, fun h => (hsame h.1).2 h.2⟩
  have hle : j ≤ count := Nat.le_of_not_lt fun hlt => by
    obtain ⟨-, page, hpage, -⟩ := hasks.2 count hlt
    rw [Pages.ofAnswers, List.getElem?_eq_none (by simp)] at hpage
    cases hpage
  exact ⟨hle, (hsame hle).1 hasks⟩

end Service

/-! ## How many requests -/

/-- Behind a page that it does not pass a listing asks for none. -/
theorem le_of_asks {stop j : Nat} (hstop : ¬ l.Passes pages stop) (h : l.Asks pages j) : j ≤ stop :=
  Nat.le_of_not_lt fun hlt => hstop (h.2 stop hlt)

/-- Pages that bring objects, and no more than they are asked for, bring at least as many as they are and at most as many as
are wanted. -/
theorem length_objectsBefore_of_progress (hmax : l.maxKeys < size32)
    (hprogress : ∀ j page, pages j = .ok page → page.next?.isSome →
      0 < page.objects.length ∧ page.objects.length ≤ l.remaining (pages.objectsBefore j).length) :
    ∀ j, (∀ i < j, l.Passes pages i) → j ≤ (pages.objectsBefore j).length ∧ (pages.objectsBefore j).length ≤ l.maxKeys
  | 0, _ => ⟨Nat.le_refl 0, Nat.zero_le _⟩
  | j + 1, hpassed => by
    obtain ⟨hle, hmost⟩ := length_objectsBefore_of_progress hmax hprogress j fun i hi => hpassed i (Nat.lt_succ_of_lt hi)
    obtain ⟨-, page, hpage, hnext⟩ := hpassed j (Nat.lt_succ_self j)
    obtain ⟨hsome, hfew⟩ := hprogress j page hpage hnext
    rw [remaining, Nat.mod_eq_of_lt (Nat.lt_of_le_of_lt hmost hmax)] at hfew
    rw [Pages.objectsBefore_succ, Pages.objectsAt_of_ok hpage, List.length_append]
    omega

/-- An answer without objects that names a page after it. -/
def endlessAnswer : Http.Response := response
  "<ListBucketResult><IsTruncated>true</IsTruncated><NextContinuationToken>t</NextContinuationToken></ListBucketResult>"

theorem readPage_endlessAnswer : readPage endlessAnswer = .ok { isTruncated := true, token := some "t" } :=
  Traversal.eq_ok_of_toOption (by decide +kernel)

/-- Of a service that gives this answer and no other a listing passes every page. -/
theorem passes_endless (hmax : l.maxKeys ≠ 0) (j : Nat) : l.Passes (.ofService fun _ => endlessAnswer) j := by
  have hpage (i : Nat) : Pages.ofService (fun _ => endlessAnswer) i = .ok { isTruncated := true, token := some "t" } :=
    readPage_endlessAnswer
  have hnone : Pages.objectsBefore (.ofService fun _ => endlessAnswer) j = [] :=
    List.flatMap_eq_nil_iff.2 fun i _ => Pages.objectsAt_of_ok (hpage i)
  refine ⟨?_, _, readPage_endlessAnswer, rfl⟩
  rw [hnone]
  exact hmax

section Requests

variable {e : Exchange} {url : Url} (hsigned : l.credentials.presign (.list e.moment.now none none none) = .ok url)
  (service : Nat → Http.Response)

include hsigned

/-- The requests against the first answers of a service are those for the pages that are asked for. -/
theorem lt_length_requests_iff (count j : Nat) :
    j < (l.run (e.answeredBy service count)).requests.length ↔ j ≤ count ∧ l.Asks (.ofService service) j := by
  obtain ⟨asked, hasked, hrun⟩ := exists_asked (l.leadFor e.message) ((List.range count).map service) hsigned
  have hlength : (l.run (e.answeredBy service count)).requests.length = asked := by
    have hrequests := congrArg (·.requests.length) hrun
    simp only [List.length_map, List.length_range] at hrequests
    exact hrequests
  rw [hlength, hasked, asks_iff_of_service]

/-- **A service that is passed page after page is asked once more than it answers**, however often that is. -/
theorem length_requests_of_passes (h : ∀ j, l.Passes (.ofService service) j) (count : Nat) :
    (l.run (e.answeredBy service count)).requests.length = count + 1 := by
  have hlt := lt_length_requests_iff hsigned service count
  have hasks (j : Nat) : l.Asks (.ofService service) j := ⟨(h j).1, fun i _ => h i⟩
  have hin := (hlt count).2 ⟨Nat.le_refl count, hasks count⟩
  have hout := fun h => ((hlt (count + 1)).1 h).1
  omega

end Requests

/-- **How long a listing goes on.**  There is a number of requests that it does not exceed, whatever the service answers,
exactly if it wants no object at all.  A lister that wants some is asked for more by one service that always gives the same
answer, once after every answer.  For one service there is such a number exactly if the listing does not pass some page: none
is wanted when it would be asked for, or it is an error, or it does not name a page after it.  If every page that names one
brings an object at least and no more than it is asked for, no more pages are asked for than objects are wanted. -/
theorem bounded_iff (l : StorageLister) (e : Exchange) {url : Url}
    (hsigned : l.credentials.presign (.list e.moment.now none none none) = .ok url) :
    let asked (service : Nat → Http.Response) (count : Nat) := (l.run (e.answeredBy service count)).requests.length
    ((∃ bound, ∀ service count, asked service count ≤ bound) ↔ l.maxKeys = 0) ∧
    (l.maxKeys ≠ 0 → ∃ answer, ∀ count, asked (fun _ => answer) count = count + 1) ∧
    (∀ service, (∃ bound, ∀ count, asked service count ≤ bound) ↔ ∃ j, ¬ l.Passes (.ofService service) j) ∧
    (l.maxKeys < size32 → ∀ service,
      (∀ j page, Pages.ofService service j = .ok page → page.next?.isSome → 0 < page.objects.length ∧
        page.objects.length ≤ l.remaining (Pages.objectsBefore (.ofService service) j).length) →
      ∀ count, asked service count ≤ l.maxKeys) := by
  intro asked
  have hlt (service : Nat → Http.Response) (count j : Nat) :
      j < asked service count ↔ j ≤ count ∧ l.Asks (.ofService service) j := lt_length_requests_iff hsigned service count j
  have hendless (hmax : l.maxKeys ≠ 0) (count : Nat) : asked (fun _ => endlessAnswer) count = count + 1 :=
    length_requests_of_passes hsigned _ (passes_endless hmax) count
  refine ⟨⟨fun ⟨bound, hbound⟩ => ?_, fun hzero => ⟨0, fun service count => ?_⟩⟩, fun hmax => ⟨_, hendless hmax⟩,
    fun service => ⟨fun ⟨bound, hbound⟩ => ?_, fun ⟨stop, hstop⟩ => ⟨stop + 1, fun count => ?_⟩⟩,
    fun hmax service hprogress count => ?_⟩
  · by_contra hmax
    have h := hbound (fun _ => endlessAnswer) bound
    rw [hendless hmax] at h
    omega
  · refine Nat.le_of_not_lt fun hsome => ?_
    obtain ⟨-, hwanted, -⟩ := (hlt service count 0).1 hsome
    exact hwanted hzero
  · by_contra hnone
    have hlength : asked service bound = bound + 1 :=
      length_requests_of_passes hsigned service (not_exists_not.1 hnone) bound
    have h := hbound bound
    omega
  · refine Nat.le_of_not_lt fun hmore => ?_
    have hle := le_of_asks hstop ((hlt service count (stop + 1)).1 hmore).2
    omega
  · refine Nat.le_of_not_lt fun hmore => ?_
    obtain ⟨-, hwanted, hpassed⟩ := (hlt service count l.maxKeys).1 hmore
    obtain ⟨hleast, hmost⟩ := length_objectsBefore_of_progress hmax hprogress l.maxKeys hpassed
    have hcounted : (Pages.objectsBefore (.ofService service) l.maxKeys).length < size32 := Nat.lt_of_le_of_lt hmost hmax
    rw [remaining, Nat.mod_eq_of_lt hcounted] at hwanted
    omega

/-- A lister that wants one object is asked to go on without end, by a service that has none. -/
theorem bounded_iff_one :
    let l : StorageLister := { credentials := .test, maxKeys := 1 }
    let e : Exchange := { message := { body := .listing [] }, moment := default }
    (∃ url, l.credentials.presign (.list e.moment.now none none none) = .ok url) ∧
    (∃ answer, ∀ count, (l.run (e.answeredBy (fun _ => answer) count)).requests.length = count + 1) ∧
    ¬ ∃ bound, ∀ service count, (l.run (e.answeredBy service count)).requests.length ≤ bound := by
  intro l e
  obtain ⟨url, hsigned⟩ := Traversal.exists_of_isSome_toOption
    (x := l.credentials.presign (.list e.moment.now none none none)) (by decide +kernel)
  obtain ⟨hbounded, hendless, -, -⟩ := bounded_iff l e hsigned
  exact ⟨⟨url, hsigned⟩, hendless (by decide), fun h => absurd (hbounded.1 h) (by decide)⟩

end StorageLister
end StorageGate
