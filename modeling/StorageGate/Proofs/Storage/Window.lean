import StorageGate.Proofs.Storage.Presigned
/-!
# How long a URL is good

The seconds of a signer pass four limits on their way into a URL: they become a number with a sign, a span, an instant, and a
span again.  Each limit lies behind the last instant there is, so the end of the window is the last instant where the sum is
behind it (`nanos_after`).  Short of that the URL states the seconds that were asked for (`window_of_signedUrl`).
-/
namespace StorageGate

namespace Instant

/-- **An instant so many seconds later is their sum, or the last instant**, whichever comes first. -/
theorem nanos_after {t : Instant} (h : earliest.nanos ≤ t.nanos) (seconds : Nat) :
    (t.after seconds).nanos = min (t.nanos + seconds * nanosPerSecond) latest.nanos := by
  have hspans : longestSpan = 9223372036854775 := rfl
  have hsigned : signedSize64 = 9223372036854775808 := rfl
  -- What is no span, or no number with a sign, is behind the last instant.
  have hfar (hlong : longestSpan < seconds) : latest.nanos ≤ t.nanos + seconds * nanosPerSecond := by
    simp only [earliest, latest, nanosPerSecond] at *
    omega
  unfold after signed?
  by_cases hnumber : seconds < signedSize64
  · rw [if_pos hnumber]
    show ((span? seconds >>= t.moved?).getD latest).nanos = _
    unfold span?
    by_cases hspan : (seconds : Int) ≤ longestSpan
    · rw [if_pos ⟨by omega, hspan⟩]
      show ((t.moved? _).getD latest).nanos = _
      unfold moved?
      by_cases hsum : t.nanos + seconds * nanosPerSecond ≤ latest.nanos
      · rw [if_pos ⟨by unfold nanosPerSecond; omega, hsum⟩, Int.min_eq_left hsum]
        rfl
      · rw [if_neg fun hboth => hsum hboth.2, Int.min_eq_right (by omega)]
        rfl
    · rw [if_neg fun hboth => hspan hboth.2, Int.min_eq_right (hfar (by omega))]
      rfl
  · rw [if_neg hnumber, Int.min_eq_right (hfar (by omega))]
    rfl

example : latest.extendedText = "+262142-12-31T23:59:59.999999999+00:00".toList := by decide +kernel

/-- The whole seconds left until the last instant. -/
def secondsLeft (t : Instant) : Nat := ((latest.nanos - t.nanos) / nanosPerSecond).toNat

end Instant

/-- **The window of so many seconds**: it ends before the last instant, and it has seconds at all. -/
theorem Presign.windowUntil_after {now : Instant} (hsince : 0 ≤ now.nanos)
    (hroom : now.nanos + nanosPerSecond ≤ Instant.latest.nanos) (n : Nat) :
    windowUntil now (now.after n) = if n = 0 then .error (.expired now) else .ok (min n now.secondsLeft) := by
  have hfirst : Instant.earliest.nanos ≤ now.nanos := Int.le_trans (by decide) hsince
  have hafter := Instant.nanos_after hfirst n
  unfold windowUntil
  unfold nanosPerSecond at hroom hafter
  by_cases hn : n = 0
  · have hnanos : (now.after n).nanos = now.nanos := by omega
    have hsame : now.after n = now := congrArg Instant.mk hnanos
    rw [if_pos hn, if_pos (Int.le_of_eq hnanos), hsame]
  · have hseconds : max 1 (((now.after n).nanos - now.nanos) / nanosPerSecond).toNat = min n now.secondsLeft := by
      unfold Instant.secondsLeft nanosPerSecond
      omega
    rw [if_neg hn, if_neg (by omega), hseconds]

theorem Credentials.presign_of_host {c : Credentials} {p : Presign} {url : Url} {host : String}
    (hurl : c.objectUrl (p.bucket.getD c.bucket) p.key = .ok url) (hhost : hostHeader url = .ok host) :
    ∃ signed, c.presign p = .ok signed := by
  unfold presign
  rw [hurl]
  show ∃ signed, (c.canonicalRequest p url >>= _) = .ok signed
  unfold canonicalRequest
  rw [hhost]
  exact ⟨_, rfl⟩

namespace StorageSigner

variable {s : StorageSigner} {e : Exchange} {r : Request}

section Window

variable (hsince : 0 ≤ e.moment.now.nanos) (hroom : e.moment.now.nanos + nanosPerSecond ≤ Instant.latest.nanos)

include hsince hroom

theorem presignFor_eq_ite (n : Nat) : { s with expiresIn := n }.presignFor e r =
    if n = 0 then .error (.expired e.moment.now)
    else (signedHeaders e r).map fun headers => s.presignWith e r headers (min n e.moment.now.secondsLeft) := by
  rw [presignFor_eq, Presign.windowUntil_after hsince hroom]
  split <;> rfl

/-- A request that is signed with some window is signed with every other, for as many seconds as there are. -/
theorem exists_signedUrl_of_window {m : Nat} {u : SignedUrl} (h : { s with expiresIn := m }.signedUrl e r = .ok u) {n : Nat}
    (hn : n ≠ 0) : ∃ u, { s with expiresIn := n }.signedUrl e r = .ok u ∧
      (Url.shownParams u.url.toList).lookup "X-Amz-Expires" = some (toString (min n e.moment.now.secondsLeft)) := by
  obtain ⟨p, hp, h⟩ := Traversal.exists_of_bind_eq_ok h
  obtain ⟨url, hurl, -⟩ := Traversal.exists_of_bind_eq_ok h
  obtain ⟨headers, expires, hheaders, rfl⟩ := presignFor_eq_ok hp
  obtain ⟨base, host, -, hbase, hhost, -⟩ := Credentials.presign_eq_ok hurl
  have hpresign := presignFor_eq_ite (s := s) (r := r) hsince hroom n
  rw [if_neg hn, hheaders] at hpresign
  let q : Presign := s.presignWith e r headers (min n e.moment.now.secondsLeft)
  have hq : { s with expiresIn := n }.presignFor e r = .ok q := hpresign
  obtain ⟨u, hu⟩ : ∃ u, { s with expiresIn := n }.signedUrl e r = .ok u := by
    obtain ⟨signed, hsigned⟩ : ∃ signed, s.credentials.presign q = .ok signed := Credentials.presign_of_host hbase hhost
    unfold signedUrl
    rw [hq]
    show ∃ u, (s.credentials.presign q >>= _) = .ok u
    rw [hsigned]
    exact ⟨_, rfl⟩
  obtain ⟨q', c, hq', -, hshown⟩ := shown_of_signedUrl hu
  cases hq.symm.trans hq'
  refine ⟨u, hu, ?_⟩
  rw [hshown.signature, hshown.params]
  rfl

end Window

/-- **A URL is good for the seconds that were asked for**, or for those that are left until the last instant.  This holds at any
time but before 1970 and in the last second, for any number of seconds, and for any request that can be signed at all. -/
theorem window_of_signedUrl (hsince : 0 ≤ e.moment.now.nanos)
    (hroom : e.moment.now.nanos + nanosPerSecond ≤ Instant.latest.nanos) (n : Nat) :
    ((e.moment.now.after n).nanos = min (e.moment.now.nanos + n * nanosPerSecond) Instant.latest.nanos ∧
      e.moment.now.nanos ≤ (e.moment.now.after n).nanos ∧
      ∀ m, n ≤ m → (e.moment.now.after n).nanos ≤ (e.moment.now.after m).nanos) ∧
    ((∃ m u, { s with expiresIn := m }.signedUrl e r = .ok u) →
      ((∃ expiry, { s with expiresIn := n }.signedUrl e r = .error (.expired expiry)) ↔ n = 0) ∧
      (n ≠ 0 → ∃ u, { s with expiresIn := n }.signedUrl e r = .ok u ∧ ∃ window : Nat,
        (Url.shownParams u.url.toList).lookup "X-Amz-Expires" = some (toString window) ∧
        window = min n ((Instant.latest.nanos - e.moment.now.nanos) / nanosPerSecond).toNat ∧ 0 < window ∧ window ≤ n)) := by
  have hafter (n : Nat) := Instant.nanos_after (Int.le_trans (by decide) hsince) n
  constructor
  · refine ⟨hafter n, ?_, fun m hm => ?_⟩
    · rw [hafter]
      unfold nanosPerSecond at *
      omega
    · rw [hafter, hafter]
      unfold nanosPerSecond at *
      omega
  · rintro ⟨m, u, hu⟩
    have hsigned (hn : n ≠ 0) := exists_signedUrl_of_window hsince hroom hu hn
    refine ⟨⟨fun ⟨expiry, hexpired⟩ => ?_, fun hn => ⟨e.moment.now, ?_⟩⟩, fun hn => ?_⟩
    · by_contra hn
      obtain ⟨u, hu, -⟩ := hsigned hn
      cases hexpired.symm.trans hu
    · have hpresign := presignFor_eq_ite (s := s) (r := r) hsince hroom n
      rw [if_pos hn] at hpresign
      unfold signedUrl
      rw [hpresign]
      rfl
    · obtain ⟨u, hu, hlookup⟩ := hsigned hn
      refine ⟨u, hu, _, hlookup, rfl, ?_, Nat.min_le_left _ _⟩
      unfold Instant.secondsLeft nanosPerSecond at *
      omega

/-- Two and a half seconds before the last instant, for no seconds and for as many as there are numbers of 64 bits. -/
theorem window_of_signedUrl_last :
    let s : StorageSigner := { credentials := .test }
    let now : Instant := ⟨Instant.latest.nanos - 2500000000⟩
    let e : Exchange := { message := {}, moment := { now } }
    let r : Request := { action := .get, key := "a" }
    (0 ≤ now.nanos ∧ now.nanos + nanosPerSecond ≤ Instant.latest.nanos ∧
      ∃ m u, { s with expiresIn := m }.signedUrl e r = .ok u) ∧
    (now.after (size64 - 1)).nanos = Instant.latest.nanos ∧
    (∃ expiry, { s with expiresIn := 0 }.signedUrl e r = .error (.expired expiry)) ∧
    ∃ u, { s with expiresIn := size64 - 1 }.signedUrl e r = .ok u ∧
      (Url.shownParams u.url.toList).lookup "X-Amz-Expires" = some "2" := by
  intro s now e r
  have hsince : 0 ≤ e.moment.now.nanos := by decide
  have hroom : e.moment.now.nanos + nanosPerSecond ≤ Instant.latest.nanos := by decide
  obtain ⟨u, hu⟩ : ∃ u, { s with expiresIn := 1 }.signedUrl e r = .ok u :=
    Traversal.exists_of_isSome_toOption (by decide +kernel)
  obtain ⟨-, hnever⟩ := window_of_signedUrl (s := s) (r := r) hsince hroom 0
  obtain ⟨⟨hend, -⟩, hlong⟩ := window_of_signedUrl (s := s) (r := r) hsince hroom (size64 - 1)
  obtain ⟨u', hu', window, hlookup, hwindow, -⟩ := (hlong ⟨1, u, hu⟩).2 (by decide)
  have htwo : window = 2 := hwindow.trans (by decide)
  refine ⟨⟨hsince, hroom, 1, u, hu⟩, hend.trans (by decide), (hnever ⟨1, u, hu⟩).1.2 rfl, u', hu', ?_⟩
  rw [hlookup, htwo]
  decide

end StorageSigner
end StorageGate
