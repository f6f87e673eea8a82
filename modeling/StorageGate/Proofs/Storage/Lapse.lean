import StorageGate.Proofs.Calendar
import StorageGate.Proofs.Storage.Presigned
/-!
# When a URL lapses

A URL states the second in which it was signed and a window of whole seconds, and lapses at the end of that window.  Two parts
of a second are lost on the way: that of the time of signing in the date, and that of the wanted span in the window, which is
lengthened to a second if nothing is left of it.  So the URL lapses less than two seconds before the instant that was asked
for, never before it is signed, and behind that instant only if it is less than a second away (`lapse_of_expiresAt`).
-/
namespace StorageGate

/-- Whether a parameter states when a URL was signed, or for how long. -/
def statesWindow (param : String × String) : Bool := param.1 == "X-Amz-Date" || param.1 == "X-Amz-Expires"

/-- The parameters with which a URL states its window. -/
def Presign.stated (p : Presign) : List (String × String) :=
  [("X-Amz-Date", String.ofList p.time.basicText), ("X-Amz-Expires", String.ofList (Numeral.write p.expires))]

/-- The instant at which a URL with these parameters lapses: the seconds of its window after its date. -/
def lapse? (params : List (String × String)) : Option Instant := do
  let date ← Instant.ofBasicText? (← params.lookup "X-Amz-Date").toList
  let seconds ← Numeral.digits? (← params.lookup "X-Amz-Expires").toList
  return ⟨date.nanos + seconds * nanosPerSecond⟩

theorem lookup_filter_statesWindow {name : String} (h : ∀ value, statesWindow (name, value) = true) :
    ∀ params : List (String × String), (params.filter statesWindow).lookup name = params.lookup name
  | [] => rfl
  | (other, value) :: params => by
    by_cases hstates : statesWindow (other, value) = true
    · rw [List.filter_cons_of_pos hstates, List.lookup_cons, List.lookup_cons, lookup_filter_statesWindow h params]
    · have hname : name ≠ other := fun he => hstates (he ▸ h value)
      rw [List.filter_cons_of_neg hstates, Fields.lookup_cons_of_ne hname, lookup_filter_statesWindow h params]

theorem lapse?_filter (params : List (String × String)) : lapse? (params.filter statesWindow) = lapse? params := by
  rw [lapse?, lookup_filter_statesWindow fun _ => rfl, lookup_filter_statesWindow fun _ => rfl]
  rfl

namespace Presign

theorem lapse?_stated (p : Presign) :
    lapse? p.stated = some ⟨p.time.seconds * nanosPerSecond + p.expires * nanosPerSecond⟩ := by
  have hdate : p.stated.lookup "X-Amz-Date" = some (String.ofList p.time.basicText) := rfl
  have hwindow : p.stated.lookup "X-Amz-Expires" = some (String.ofList (Numeral.write p.expires)) := rfl
  have hseconds : (Instant.ofSeconds p.time.seconds 0).nanos = p.time.seconds * nanosPerSecond := Int.add_zero _
  rw [lapse?, hdate, hwindow]
  simp only [Option.bind_eq_bind, Option.bind_some, String.toList_ofList, Instant.ofBasicText?_basicText, Numeral.digits?_write,
    hseconds]
  rfl

theorem lapse?_of_perm {p : Presign} {params : List (String × String)} (h : (params.filter statesWindow).Perm p.stated) :
    lapse? params = lapse? p.stated := by
  have hapart : p.stated.Pairwise fun e f => e.1 ≠ f.1 := by simp [stated]
  have hlookup (name : String) := (Fields.lookup_perm h.symm hapart name).symm
  rw [← lapse?_filter, lapse?, hlookup, hlookup]
  rfl

theorem expiresAt_signedAt {p : Presign} {time expiry : Instant} (h : time.nanos < expiry.nanos) :
    (p.signedAt time).expiresAt expiry
      = .ok ((p.signedAt time).expiresIn (max 1 ((expiry.nanos - time.nanos) / nanosPerSecond).toNat)) := by
  have hlater : ¬ expiry.nanos ≤ (p.signedAt time).time.nanos := Int.not_le.2 h
  rw [expiresAt_eq, windowUntil, if_neg hlater]
  rfl

/-- The two roundings: of the time of signing down to its second, and of the span to whole seconds, at least one. -/
theorem lapse_bounds {time expiry : Instant} (h : time.nanos < expiry.nanos) {lapse : Int} (hlapse : lapse
      = time.seconds * nanosPerSecond + (max 1 ((expiry.nanos - time.nanos) / nanosPerSecond).toNat : Nat) * nanosPerSecond) :
    time.nanos < lapse ∧ expiry.nanos - 2 * nanosPerSecond < lapse ∧
      (nanosPerSecond ≤ expiry.nanos - time.nanos → lapse ≤ expiry.nanos) := by
  unfold Instant.seconds nanosPerSecond at *
  omega

end Presign

/-- **A presigned URL states its window once**, besides what the request gives under the same names. -/
theorem Credentials.stated_of_presign {c : Credentials} {p : Presign} {url : Url} (h : c.presign p = .ok url) :
    ((Url.shownParams url.write).filter statesWindow).Perm (p.stated ++ p.params.filter statesWindow) := by
  obtain ⟨base, header, r, hbase, hheader, hr, rfl⟩ := presign_eq_ok h
  obtain ⟨host, hhost, -, hplain, hmarks⟩ := plain_of_hostHeader hbase hheader
  have hperm : r.params.Perm (c.signatureParams p r.headers ++ p.params) := by
    rw [hr]
    exact List.mergeSort_perm _ _
  have hnil : r.params ≠ [] := fun he => by
    have hlength := hperm.length_eq
    simp [he, signatureParams] at hlength
  have hsignature (text : String) : ¬ statesWindow (signatureParam, text) = true := Bool.false_ne_true
  have hown : (c.signatureParams p r.headers).filter statesWindow = p.stated := rfl
  rw [Url.shownParams, shownQuery_signed hplain hhost hmarks hnil, CanonicalRequest.parse_queryOf, List.filter_append,
    List.filter_cons_of_neg (hsignature _), List.filter_nil, List.append_nil, ← hown, ← List.filter_append]
  exact hperm.filter _

namespace Presign

/-- **When a URL lapses that is to be good until an instant.**  It can be signed just if the instant is behind the time of
signing.  Its window is then at least a second, and from its date on it is good until after the time of signing and until less
than two seconds before the instant, but not longer than until the instant if that is a second away. -/
theorem lapse_of_expiresAt (p : Presign) (time expiry : Instant) :
    ((p.signedAt time).expiresAt expiry = .error (.expired expiry) ↔ expiry.nanos ≤ time.nanos) ∧
    (time.nanos < expiry.nanos → ∃ q lapse, (p.signedAt time).expiresAt expiry = .ok q ∧ 1 ≤ q.expires ∧
      lapse? q.stated = some lapse ∧ time.nanos < lapse.nanos ∧ expiry.nanos - 2 * nanosPerSecond < lapse.nanos ∧
      (nanosPerSecond ≤ expiry.nanos - time.nanos → lapse.nanos ≤ expiry.nanos) ∧
      ∀ (c : Credentials) (url : Url), c.presign q = .ok url →
        ((Url.shownParams url.write).filter statesWindow).Perm (q.stated ++ p.params.filter statesWindow) ∧
        (p.params.filter statesWindow = [] → lapse? (Url.shownParams url.write) = some lapse)) := by
  constructor
  · constructor
    · intro h
      by_contra hlater
      cases h.symm.trans (expiresAt_signedAt (Int.not_le.1 hlater))
    · intro h
      have hpast : expiry.nanos ≤ (p.signedAt time).time.nanos := h
      rw [expiresAt_eq, windowUntil, if_pos hpast]
      rfl
  · intro h
    have hstated := lapse?_stated ((p.signedAt time).expiresIn (max 1 ((expiry.nanos - time.nanos) / nanosPerSecond).toNat))
    obtain ⟨hsigned, hnear, hbound⟩ := lapse_bounds h rfl
    refine ⟨_, _, expiresAt_signedAt h, Nat.le_max_left _ _, hstated, hsigned, hnear, hbound, fun c url hurl => ?_⟩
    have hperm := Credentials.stated_of_presign hurl
    refine ⟨hperm, fun hnone => ?_⟩
    have hown : p.params.filter statesWindow = [] := hnone
    rw [← hstated]
    refine lapse?_of_perm (hperm.trans (.of_eq ?_))
    exact (congrArg _ hown).trans (List.append_nil _)

/-- A second and nine tenths that begin before 1970: the date is half a second early, and the window nine tenths short. -/
theorem lapse_of_expiresAt_early :
    let p : Presign := { method := "GET", key := "a", time := default }
    let time : Instant := ⟨-1500000000⟩
    let expiry : Instant := ⟨400000000⟩
    time.nanos < expiry.nanos ∧ ∃ q url, (p.signedAt time).expiresAt expiry = .ok q ∧ Credentials.test.presign q = .ok url ∧
      q.stated = [("X-Amz-Date", "19691231T235958Z"), ("X-Amz-Expires", "1")] ∧
      lapse? (Url.shownParams url.write) = some ⟨-1000000000⟩ := by
  intro p time expiry
  have hlater : time.nanos < expiry.nanos := by decide
  obtain ⟨q, lapse, hq, -, hlapse, -, -, -, hshown⟩ := (lapse_of_expiresAt p time expiry).2 hlater
  have hone : (p.signedAt time).expiresAt expiry = .ok ((p.signedAt time).expiresIn 1) := rfl
  cases hq.symm.trans hone
  have hstated : lapse? ((p.signedAt time).expiresIn 1).stated = some ⟨-1000000000⟩ := by decide +kernel
  cases hlapse.symm.trans hstated
  obtain ⟨url, hurl⟩ : ∃ url, Credentials.test.presign ((p.signedAt time).expiresIn 1) = .ok url :=
    Traversal.exists_of_isSome_toOption (by decide +kernel)
  exact ⟨hlater, _, url, hone, hurl, by decide +kernel, (hshown .test url hurl).2 rfl⟩

end Presign
end StorageGate
