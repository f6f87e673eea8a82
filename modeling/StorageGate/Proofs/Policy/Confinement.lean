import StorageGate.Policy.Authorizer
import StorageGate.Proofs.Storage.ObjectUrl
/-!
# What a signed URL addresses

Key rules judge the key of a request as it stands; the service reads the key off the path of the signed URL, where the dots
are collapsed (`addressedKey_signedUrl`).  So the rules confine what is addressed exactly as long as the key as it stands
leads the key that is addressed (`confined_iff_prefix`), which is so of the keys without segments of dots
(`prefix_iff_no_dots`).
-/
namespace StorageGate

/-- The key that the text of a URL addresses, as the service reads it: the path after its first slash, and in path style
after its first segment, with the percent-encoding undone. -/
def addressedKey (pathStyle : Bool) (text : List Char) : List Char :=
  let path := (Url.shownPath text).drop 1
  Utf8.decodeLossy (Percent.decode (if pathStyle then (path.dropWhile (· != '/')).drop 1 else path))

namespace StorageSigner

/-- The key that a URL signed for a request addresses: what is left of its segments, after the bucket in path style. -/
def resolvedKey (s : StorageSigner) (r : Request) : List Char :=
  ['/'].intercalate (if s.credentials.pathStyle then (s.segments r).tail else s.segments r)

/-! ## Reading the key -/

theorem drop_one_flatMap : ∀ l : List (List Char), (l.flatMap fun s => '/' :: s).drop 1 = ['/'].intercalate l
  | [] => rfl
  | [s] => by simp
  | s :: t :: l => by
    have ih := drop_one_flatMap (t :: l)
    rw [List.intercalate_cons_cons, ← ih]
    simp

theorem drop_first_intercalate {l : List (List Char)} (h : ∀ s ∈ l, '/' ∉ s) :
    ((['/'].intercalate l).dropWhile (· != '/')).drop 1 = ['/'].intercalate l.tail := by
  have hpass : ∀ s ∈ l, ∀ c ∈ s, (c != '/') = true := fun s hs c hc => bne_iff_ne.2 fun he => h s hs (he ▸ hc)
  match l with
  | [] => rfl
  | [s] =>
    have hdrop : (s ++ []).dropWhile (· != '/') = [] := List.dropWhile_append_of_pos (hpass s List.mem_cons_self)
    rw [List.append_nil] at hdrop
    rw [List.intercalate_singleton, hdrop]
    rfl
  | s :: t :: l =>
    rw [List.intercalate_cons_cons, List.append_assoc,
      List.dropWhile_append_of_pos (hpass s List.mem_cons_self)]
    rfl

theorem decode_intercalate {l : List (List Char)} (h : ∀ s ∈ l, '/' ∉ s) :
    Utf8.decodeLossy (Percent.decode (['/'].intercalate (l.map Path.encodeSegment))) = ['/'].intercalate l := by
  rw [← Path.encodeText_intercalate h, Path.encodeText, Percent.decode_encode (by decide), Utf8.decodeLossy_encode]

/-- **What a signed URL addresses** is the resolved key. -/
theorem addressedKey_signedUrl {s : StorageSigner} {e : Exchange} {r : Request} {u : SignedUrl}
    (h : s.signedUrl e r = .ok u) : addressedKey s.credentials.pathStyle u.url.toList = s.resolvedKey r := by
  have hslash : ∀ segment ∈ s.segments r, '/' ∉ segment := Path.slash_not_mem_collapsed _ _
  have hencoded : ∀ t ∈ (s.segments r).map Path.encodeSegment, '/' ∉ t := fun t ht => by
    obtain ⟨segment, _, rfl⟩ := List.mem_map.1 ht
    exact Path.slash_not_mem_encodeSegment segment
  have hpath : (Url.shownPath u.url.toList).drop 1 = ['/'].intercalate ((s.segments r).map Path.encodeSegment) := by
    rw [shownPath_signedUrl h, ← drop_one_flatMap, List.flatMap_map]
  rw [addressedKey, hpath, resolvedKey]
  cases s.credentials.pathStyle with
  | false => exact decode_intercalate hslash
  | true =>
    rw [if_pos rfl, if_pos rfl, drop_first_intercalate hencoded, ← List.map_tail]
    exact decode_intercalate fun segment hs => hslash segment (List.mem_of_mem_tail hs)

/-! ## Leading the addressed key -/

/-- Whether a bucket is one segment of a path, and none of dots. -/
def IsOneSegment (bucket : String) : Prop := '/' ∉ bucket.toList ∧ bucket ≠ "." ∧ bucket ≠ ".."

theorem segments_of_web {s : StorageSigner} (hscheme : s.credentials.endpoint.scheme ≠ "file") (r : Request) :
    s.segments r = Path.collapse [] ((s.credentials.objectPath (s.bucketOf r) r.key).splitOn '/') := by
  rw [segments, Credentials.objectSegments, Path.collapsed, beq_false_of_ne hscheme, if_neg Bool.false_ne_true]

/-- **A key leads the key that its URL addresses exactly if it has no segment of dots.** -/
theorem prefix_iff_no_dots {s : StorageSigner} {r : Request} (hscheme : s.credentials.endpoint.scheme ≠ "file")
    (hbucket : s.credentials.pathStyle = true → IsOneSegment (s.bucketOf r)) :
    r.key.toList <+: s.resolvedKey r ↔ ∀ segment ∈ r.key.toList.splitOn '/', Path.isDots segment = false := by
  rw [resolvedKey, segments_of_web hscheme, Credentials.objectPath]
  cases hstyle : s.credentials.pathStyle with
  | false =>
    rw [if_neg Bool.false_ne_true, if_neg Bool.false_ne_true]
    refine ⟨fun hlead => Path.no_dots_of_prefix ?_ hlead, fun hdots => ?_⟩
    · have hle := Path.extent_collapse_le (r.key.toList.splitOn '/') []
      rwa [Path.extent_nil, Nat.zero_add] at hle
    · rewrite [Path.collapse_of_no_dots hdots, List.reverse_nil, List.nil_append, List.intercalate_splitOn]
      exact List.prefix_refl _
  | true =>
    obtain ⟨hslash, hdot, hdots⟩ := hbucket hstyle
    have hone : (s.bucketOf r).toList ≠ ['.'] := fun h => hdot (String.toList_inj.1 h)
    have htwo : (s.bucketOf r).toList ≠ ['.', '.'] := fun h => hdots (String.toList_inj.1 h)
    rw [if_pos rfl, if_pos rfl, List.splitOn_append_cons_self_of_not_mem hslash, Path.collapse, if_neg htwo, if_neg hone]
    refine ⟨fun hlead => Path.no_dots_of_prefix ?_ hlead, fun hdots => ?_⟩
    · have hle := Path.extent_tail_collapse_le (s.bucketOf r).toList (r.key.toList.splitOn '/') []
      rwa [Path.extent_nil, Nat.zero_add] at hle
    · rewrite [Path.collapse_of_no_dots hdots, List.reverse_singleton, List.singleton_append, List.tail_cons,
        List.intercalate_splitOn]
      exact List.prefix_refl _

end StorageSigner

/-! ## Confinement -/

namespace KeyRules

/-- Whether a key starts in one of the ways that are allowed. -/
def Covers (rules : KeyRules) (key : List Char) : Prop := ∃ p ∈ rules.prefixes, p.toList <+: key

theorem covers_of_allow {rules : KeyRules} {r : Request} (h : rules.judge r = .allow) : rules.Covers r.key.toList := by
  unfold judge at h
  split at h
  · rename_i hany
    obtain ⟨p, hp, hlead⟩ := List.any_eq_true.1 hany
    exact ⟨p, hp, List.isPrefixOf_iff_prefix.1 hlead⟩
  · cases h

theorem allow_of_own_key (r : Request) : judge { prefixes := [r.key] } r = .allow := by
  have hany : ([r.key].any fun p => p.toList.isPrefixOf r.key.toList) = true :=
    List.any_eq_true.2 ⟨r.key, List.mem_singleton.2 rfl, List.isPrefixOf_iff_prefix.2 (List.prefix_refl _)⟩
  unfold judge
  rw [if_pos hany]
  cases r.bucket <;> rfl

/-- **Rules that allow a request confine another key exactly if the key of the request leads it.** -/
theorem confined_iff_prefix (r : Request) (key : List Char) :
    (∀ rules : KeyRules, rules.judge r = .allow → rules.Covers key) ↔ r.key.toList <+: key := by
  refine ⟨fun h => ?_, fun hlead rules hallow => ?_⟩
  · obtain ⟨p, hp, hlead⟩ := h _ (allow_of_own_key r)
    rwa [List.mem_singleton.1 hp] at hlead
  · obtain ⟨p, hp, hstart⟩ := covers_of_allow hallow
    exact ⟨p, hp, hstart.trans hlead⟩

end KeyRules

/-- **What prefix rules confine.**  A signed URL addresses the resolved key of its request, and every rules that allow the
request confine that key exactly if the key as it stands leads it.  With one segment of a path for a bucket, or the bucket in
the host, that is so of the keys without segments of dots and of no others. -/
theorem StorageSigner.confined_iff {s : StorageSigner} {e : Exchange} {r : Request} {u : SignedUrl}
    (h : s.signedUrl e r = .ok u) :
    let addressed := addressedKey s.credentials.pathStyle u.url.toList
    addressed = s.resolvedKey r ∧
    ((∀ rules : KeyRules, rules.judge r = .allow → rules.Covers addressed) ↔ r.key.toList <+: s.resolvedKey r) ∧
    (s.credentials.endpoint.scheme ≠ "file" → (s.credentials.pathStyle = true → IsOneSegment (s.bucketOf r)) →
      ((∀ rules : KeyRules, rules.judge r = .allow → rules.Covers addressed) ↔
        ∀ segment ∈ r.key.toList.splitOn '/', segment ≠ ['.'] ∧ segment ≠ ['.', '.'])) := by
  intro addressed
  have haddressed : addressed = s.resolvedKey r := addressedKey_signedUrl h
  have hconfined := KeyRules.confined_iff_prefix r (s.resolvedKey r)
  rw [haddressed]
  refine ⟨rfl, hconfined, fun hscheme hbucket => hconfined.trans ?_⟩
  rw [prefix_iff_no_dots hscheme hbucket]
  simp only [Path.isDots_eq_false]

/-- Rules for a prefix allow a key that climbs out of it, and the URL that is signed addresses what lies outside. -/
theorem StorageSigner.confined_iff_climbing :
    let s : StorageSigner := { credentials := .test }
    let r : Request := { action := .get, key := "public/../private.txt" }
    let rules : KeyRules := { prefixes := ["public/"] }
    ∃ u, s.signedUrl default r = .ok u ∧ rules.judge r = .allow ∧
      addressedKey s.credentials.pathStyle u.url.toList = "private.txt".toList ∧
      ¬ rules.Covers (addressedKey s.credentials.pathStyle u.url.toList) := by
  intro s r rules
  have hsigned : (s.signedUrl default r).toOption.isSome = true := by decide +kernel
  cases h : s.signedUrl default r with
  | error cause => rw [h] at hsigned; cases hsigned
  | ok u =>
    obtain ⟨haddressed, _⟩ := StorageSigner.confined_iff h
    have hkey : s.resolvedKey r = "private.txt".toList := by decide +kernel
    refine ⟨u, rfl, by decide +kernel, haddressed.trans hkey, ?_⟩
    rw [haddressed, hkey]
    rintro ⟨p, hp, hlead⟩
    rw [List.mem_singleton.1 hp] at hlead
    exact absurd (List.isPrefixOf_iff_prefix.2 hlead) (by decide +kernel)

end StorageGate
