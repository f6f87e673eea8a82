import StorageGate.Proofs.Traversal
import StorageGate.Proofs.Url.Host
import StorageGate.Url.Parse
/-!
# The text of a URL and its parts

The parts of a URL with an authority can be found again in its text: the host behind the user (`shownHost_write`), the path
where the authority ends (`shownPath_write`) and the query behind it (`shownQuery_write`).  That holds as long as no part
holds a character that would end it, which is so of every URL that is read (`isPlain_of_parse`) and stays so when its path,
host or query is replaced.
-/
namespace StorageGate
namespace Url

/-- The path that a text shows: after the scheme, two slashes and the authority, and before a query or a fragment. -/
def shownPath (text : List Char) : List Char :=
  (((text.dropWhile (· != ':')).drop 3).dropWhile fun c => !Host.isEnd c).takeWhile fun c => c != '?' && c != '#'

/-- The authority that a text shows: after the scheme and two slashes. -/
def shownAuthority (text : List Char) : List Char :=
  ((text.dropWhile (· != ':')).drop 3).takeWhile fun c => !Host.isEnd c

/-- What a text shows after the authority. -/
def shownTail (text : List Char) : List Char :=
  ((text.dropWhile (· != ':')).drop 3).dropWhile fun c => !Host.isEnd c

/-- The host that a text shows, with the port if there is one: what follows the user in the authority. -/
def shownHost (text : List Char) : List Char :=
  ((shownAuthority text).reverse.takeWhile (· != '@')).reverse

/-- The query that a text shows: after the path and before a fragment. -/
def shownQuery (text : List Char) : List Char :=
  match (shownTail text).dropWhile fun c => c != '?' && c != '#' with
  | '?' :: rest => rest.takeWhile (· != '#')
  | _ => []

/-- Whether no part of a URL holds a character that would end it, and a URL with a host has a path of segments. -/
structure IsPlain (u : Url) : Prop where
  scheme : ':' ∉ u.scheme.toList
  username : ∀ c ∈ u.username.toList, Host.isEnd c = false
  password : ∀ p ∈ u.password, ∀ c ∈ p.toList, Host.isEnd c = false
  host : ∀ h ∈ u.host, h.IsPlain
  path : u.host.isSome → ∃ segments, u.path = .rooted segments

/-! ## Finding the path -/

theorem hostText?_eq_some {u : Url} {text : List Char} (h : u.hostText? = some text) :
    ∃ host, u.host = some host ∧ host ≠ .empty ∧ text = host.write := by
  unfold hostText? at h
  split at h
  · cases h
  · cases h
  · rename_i host hempty hhost
    cases h
    exact ⟨host, hhost, hempty, rfl⟩

theorem credentialsText_plain {u : Url} (hu : u.IsPlain) : ∀ c ∈ u.credentialsText, Host.isEnd c = false := by
  intro c hc
  unfold credentialsText at hc
  split at hc
  · cases hc
  · rcases List.mem_append.1 hc with hc | hc
    · rcases List.mem_append.1 hc with hc | hc
      · exact hu.username c hc
      · cases hp : u.password with
        | none => rw [hp] at hc; cases hc
        | some p =>
          rw [hp] at hc
          rcases List.mem_cons.1 hc with rfl | hc
          · decide
          · exact hu.password p hp c hc
    · rw [List.mem_singleton.1 hc]
      decide

/-- The port with its colon. -/
def portText (u : Url) : List Char := (u.port.map fun p => ':' :: Numeral.write p.toNat).getD []

theorem forall_mem_portText {P : Char → Prop} (hcolon : P ':') (hdigit : ∀ d ∈ List.range 10, P d.digitChar) (u : Url) :
    ∀ c ∈ u.portText, P c := by
  unfold portText
  cases u.port with
  | none => exact fun c hc => nomatch hc
  | some p =>
    intro c hc
    rcases List.mem_cons.1 hc with rfl | hc
    · exact hcolon
    · exact Host.forall_mem_toDigits (by decide) hdigit _ c hc

/-- The authority after its two slashes. -/
def authorityRest (u : Url) (host : Host) : List Char :=
  u.credentialsText ++ host.write ++ ((u.port.map fun p => ':' :: Numeral.write p.toNat).getD [])

theorem authorityRest_plain {u : Url} (hu : u.IsPlain) {host : Host} (hhost : u.host = some host) :
    ∀ c ∈ u.authorityRest host, Host.isEnd c = false := by
  intro c hc
  rcases List.mem_append.1 hc with hc | hc
  · rcases List.mem_append.1 hc with hc | hc
    · exact credentialsText_plain hu c hc
    · exact hu.host host hhost c hc
  · cases hp : u.port with
    | none => rw [hp] at hc; cases hc
    | some p =>
      rw [hp] at hc
      rcases List.mem_cons.1 hc with rfl | hc
      · decide
      · exact Host.forall_mem_toDigits (P := fun c => Host.isEnd c = false) (by decide) (by decide) _ c hc

/-- What follows the path. -/
def afterPath (u : Url) : List Char :=
  ((u.query.map fun q => '?' :: q.toList).getD []) ++ ((u.fragment.map fun f => '#' :: f.toList).getD [])

theorem afterPath_head (u : Url) : u.afterPath = [] ∨ ∃ c r, u.afterPath = c :: r ∧ (c = '?' ∨ c = '#') := by
  unfold afterPath
  cases u.query with
  | some q => exact .inr ⟨'?', _, rfl, .inl rfl⟩
  | none =>
    cases u.fragment with
    | some f => exact .inr ⟨'#', _, rfl, .inr rfl⟩
    | none => exact .inl rfl

theorem write_of_host {u : Url} {host : Host} (hhost : u.host = some host) :
    u.write = u.scheme.toList ++ ':' :: '/' :: '/' :: (u.authorityRest host ++ (u.pathText ++ u.afterPath)) := by
  rw [write, authorityText, hhost, authorityRest, afterPath]
  simp only [List.append_assoc, List.cons_append]

theorem dropWhile_path {u : Url} (hu : u.IsPlain) (hhost : u.host.isSome) :
    (u.pathText ++ u.afterPath).dropWhile (fun c => !Host.isEnd c) = u.pathText ++ u.afterPath := by
  obtain ⟨segments, hsegments⟩ := hu.path hhost
  rw [pathText, hsegments]
  cases segments with
  | cons s segments => rfl
  | nil => rcases u.afterPath_head with h | ⟨c, r, h, rfl | rfl⟩ <;> rw [h] <;> rfl

/-- **The authority and what follows it are found in the text.** -/
theorem shownAuthority_write {u : Url} (hu : u.IsPlain) {host : Host} (hhost : u.host = some host) :
    shownAuthority u.write = u.authorityRest host ∧ shownTail u.write = u.pathText ++ u.afterPath := by
  have hscheme : ∀ c ∈ u.scheme.toList, (c != ':') = true := fun c hc => bne_iff_ne.2 fun he => hu.scheme (he ▸ hc)
  have hauthority : ∀ c ∈ u.authorityRest host, (!Host.isEnd c) = true := fun c hc => by
    rw [authorityRest_plain hu hhost c hc]; rfl
  have hafter : (u.write.dropWhile (· != ':')).drop 3 = u.authorityRest host ++ (u.pathText ++ u.afterPath) := by
    rw [write_of_host hhost, List.dropWhile_append_of_pos hscheme]
    rfl
  have htail := dropWhile_path hu (by rw [hhost]; rfl)
  have hnone : (u.pathText ++ u.afterPath).takeWhile (fun c => !Host.isEnd c) = [] := by
    have h := List.takeWhile_append_dropWhile (p := fun c => !Host.isEnd c) (l := u.pathText ++ u.afterPath)
    rw [htail] at h
    exact List.append_left_eq_self.1 h
  rw [shownAuthority, shownTail, hafter]
  exact ⟨by rw [List.takeWhile_append_of_pos hauthority, hnone, List.append_nil],
    by rw [List.dropWhile_append_of_pos hauthority, htail]⟩

theorem pathText_kept {u : Url} (hpath : ∀ c ∈ u.pathText, c ≠ '?' ∧ c ≠ '#') :
    ∀ c ∈ u.pathText, (c != '?' && c != '#') = true := fun c hc => by
  simpa using hpath c hc

/-- **The path is found in the text**, if it holds no mark of a query or a fragment. -/
theorem shownPath_write {u : Url} (hu : u.IsPlain) {host : Host} (hhost : u.host = some host)
    (hpath : ∀ c ∈ u.pathText, c ≠ '?' ∧ c ≠ '#') : shownPath u.write = u.pathText := by
  have htail : u.afterPath.takeWhile (fun c => c != '?' && c != '#') = [] := by
    rcases u.afterPath_head with h | ⟨c, r, h, rfl | rfl⟩ <;> rw [h] <;> rfl
  show (shownTail u.write).takeWhile _ = _
  rw [(shownAuthority_write hu hhost).2, List.takeWhile_append_of_pos (pathText_kept hpath), htail, List.append_nil]

/-- What follows the path is found where its first mark stands, if the path holds none. -/
theorem dropWhile_shownTail_write {u : Url} (hu : u.IsPlain) {host : Host} (hhost : u.host = some host)
    (hpath : ∀ c ∈ u.pathText, c ≠ '?' ∧ c ≠ '#') :
    (shownTail u.write).dropWhile (fun c => c != '?' && c != '#') = u.afterPath := by
  rw [(shownAuthority_write hu hhost).2, List.dropWhile_append_of_pos (pathText_kept hpath)]
  rcases u.afterPath_head with h | ⟨c, r, h, rfl | rfl⟩ <;> rw [h] <;> rfl

/-- The fragment with its mark. -/
def fragmentText (u : Url) : List Char := (u.fragment.map fun f => '#' :: f.toList).getD []

theorem afterPath_of_query {u : Url} {query : String} (hquery : u.query = some query) :
    u.afterPath = '?' :: (query.toList ++ u.fragmentText) := by
  rw [afterPath, hquery]
  rfl

/-- A query that does not hold the mark of a fragment ends where the fragment begins. -/
theorem span_fragmentText (u : Url) {query : List Char} (hmark : '#' ∉ query) :
    (query ++ u.fragmentText).takeWhile (· != '#') = query ∧
      (query ++ u.fragmentText).dropWhile (· != '#') = u.fragmentText := by
  have hkept : ∀ c ∈ query, (c != '#') = true := fun c hc => bne_iff_ne.2 fun he => hmark (he ▸ hc)
  rw [List.takeWhile_append_of_pos hkept, List.dropWhile_append_of_pos hkept, fragmentText]
  cases u.fragment with
  | none => exact ⟨List.append_nil _, rfl⟩
  | some f => exact ⟨List.append_nil _, rfl⟩

/-- **So is the query**, if it does not hold the mark of a fragment. -/
theorem shownQuery_write {u : Url} (hu : u.IsPlain) {host : Host} (hhost : u.host = some host)
    (hpath : ∀ c ∈ u.pathText, c ≠ '?' ∧ c ≠ '#') {query : String} (hquery : u.query = some query)
    (hmark : '#' ∉ query.toList) : shownQuery u.write = query.toList := by
  rw [shownQuery, dropWhile_shownTail_write hu hhost hpath, afterPath_of_query hquery]
  exact (u.span_fragmentText hmark).1

/-- **So is the host with its port**, behind the last `@` of the authority. -/
theorem shownHost_write {u : Url} (hu : u.IsPlain) {host : Host} (hhost : u.host = some host)
    (hat : '@' ∉ host.write) : shownHost u.write = host.write ++ u.portText := by
  have hport : '@' ∉ u.portText := fun h =>
    forall_mem_portText (P := fun c => c ≠ '@') (by decide) (by decide) u _ h rfl
  have hname : ∀ c ∈ (host.write ++ u.portText).reverse, (c != '@') = true := fun c hc =>
    bne_iff_ne.2 fun he => (List.mem_append.1 (List.mem_reverse.1 (he ▸ hc))).elim hat hport
  have huser : u.credentialsText.reverse.takeWhile (· != '@') = [] := by
    unfold credentialsText
    split
    · rfl
    · rw [List.reverse_append]
      rfl
  have hauthority : u.authorityRest host = u.credentialsText ++ (host.write ++ u.portText) := List.append_assoc _ _ _
  rw [shownHost, (shownAuthority_write hu hhost).1, hauthority, List.reverse_append,
    List.takeWhile_append_of_pos hname, huser, List.append_nil, List.reverse_reverse]

/-! ## Changes keep URLs plain -/

theorem isPlain_withQuery {u : Url} (hu : u.IsPlain) (query : Option String) : IsPlain { u with query } :=
  ⟨hu.scheme, hu.username, hu.password, hu.host, hu.path⟩

theorem isPlain_setQuery {u : Url} (hu : u.IsPlain) (text : Option (List Char)) : (u.setQuery text).IsPlain :=
  isPlain_withQuery hu _

theorem setPath_of_rooted {u : Url} {segments : List String} (hpath : u.path = .rooted segments) (text : List Char) :
    u.setPath text = { u with
      path := .rooted ((Path.segments (isWebScheme u.scheme) (u.scheme == "file") (text.drop 1)).map String.ofList) } := by
  unfold setPath
  rw [hpath]

theorem isPlain_setPath {u : Url} (hu : u.IsPlain) {segments : List String} (hpath : u.path = .rooted segments)
    (text : List Char) : (u.setPath text).IsPlain := by
  rw [setPath_of_rooted hpath]
  exact ⟨hu.scheme, hu.username, hu.password, hu.host, fun _ => ⟨_, rfl⟩⟩

theorem setHost_eq_ok {u v : Url} {text : List Char} (h : u.setHost text = .ok v) :
    ∃ host : Host, host.IsReadIn u.scheme ∧ v = { u with host := some host } := by
  unfold setHost at h
  extract_lets isBracketed name at h
  split at h
  · cases h
  · split at h
    · obtain ⟨host, hread, h⟩ := Traversal.exists_of_bind_eq_ok h
      cases h
      exact ⟨host, Host.isReadIn_of_parse ‹_› hread, rfl⟩
    · obtain ⟨host, hread, h⟩ := Traversal.exists_of_bind_eq_ok h
      cases h
      exact ⟨host, Host.isReadIn_of_parseVerbatim ‹_› hread, rfl⟩

theorem isPlain_setHost {u v : Url} (hu : u.IsPlain) (hhost : u.host.isSome) {text : List Char}
    (h : u.setHost text = .ok v) : v.IsPlain ∧ v.path = u.path ∧ v.scheme = u.scheme ∧ v.host.isSome := by
  obtain ⟨host, hread, rfl⟩ := setHost_eq_ok h
  refine ⟨⟨hu.scheme, hu.username, hu.password, fun h' hh' => ?_, fun _ => hu.path hhost⟩, rfl, rfl, rfl⟩
  cases hh'
  exact Host.isPlain_of_isRead (Host.isRead_of_isReadIn hread)

/-! ## URLs that are read are plain -/

theorem encode_user_plain (text : List Char) : ∀ c ∈ Percent.encode isKeptInUser text, Host.isEnd c = false :=
  Percent.forall_mem_encode (P := fun c => Host.isEnd c = false)
    (fun c _ hc hlt => Utf8.forall_ascii (P := fun c => isKeptInUser c = true → Host.isEnd c = false)
      (by decide +kernel) hlt hc) (by decide) (by decide)

theorem parseUser_plain (text : List Char) : (∀ c ∈ (parseUser text).1.toList, Host.isEnd c = false) ∧
    ∀ p ∈ (parseUser text).2, ∀ c ∈ p.toList, Host.isEnd c = false := by
  unfold parseUser
  extract_lets encode
  have hencode : ∀ part, ∀ c ∈ (encode part).toList, Host.isEnd c = false := fun part c hc => by
    rw [String.toList_ofList] at hc
    exact encode_user_plain part c hc
  split
  · refine ⟨hencode _, fun p hp => ?_⟩
    cases hp
    exact hencode _
  · exact ⟨hencode _, fun p hp => nomatch hp⟩

theorem rootedPath_rooted (scheme : String) (text : List Char) : ∃ segments, rootedPath scheme text = .rooted segments := by
  unfold rootedPath
  extract_lets isWeb segments
  split
  · exact ⟨_, rfl⟩
  · exact ⟨_, rfl⟩
  · split <;> exact ⟨_, rfl⟩
  · exact ⟨_, rfl⟩

/-- What stands in front of a path, plain, with a path after it that is one of segments if there is a host. -/
theorem isPlain_withTail {u : Url} (hu : u.IsPlain) {path : List Char → UrlPath}
    (hpath : u.host.isSome → ∀ text, ∃ segments, path text = .rooted segments) (text : List Char) :
    (u.withTail path text).IsPlain :=
  ⟨hu.scheme, hu.username, hu.password, hu.host, fun h => hpath h _⟩

theorem isPlain_bare {scheme : String} (hscheme : ':' ∉ scheme.toList) : IsPlain { scheme, path := .rooted [] } where
  scheme := hscheme
  username _ h := nomatch h
  password _ h := nomatch h
  host _ h := nomatch h
  path _ := ⟨_, rfl⟩

theorem parseAuthority_eq_ok {scheme : String} {text : List Char} {u : Url} (h : parseAuthority scheme text = .ok u) :
    ∃ user host port tail, Host.IsReadIn scheme host ∧
      u = withTail { scheme, username := (parseUser user).1, password := (parseUser user).2, host := some host, port,
                     path := .rooted [] } (rootedPath scheme) tail := by
  unfold parseAuthority at h
  extract_lets isWeb authority tail hostAndPort user rest at h
  split at h
  · cases h
  · clear_value tail hostAndPort user
    dsimp only [rest] at h
    split at h
    all_goals
      obtain ⟨host, hread, h⟩ := Traversal.exists_of_bind_eq_ok h
      have hhost : host.IsReadIn scheme := by
        first | exact Host.isReadIn_of_parse ‹_› hread | exact Host.isReadIn_of_parseVerbatim ‹_› hread
      split at h
      · obtain ⟨_, hthrow, _⟩ := Traversal.exists_of_bind_eq_ok h
        cases hthrow
      · obtain ⟨port, _, h⟩ := Traversal.exists_of_bind_eq_ok h
        cases h
        exact ⟨user, host, port.1, port.2 ++ tail, hhost, rfl⟩

theorem parseFile_eq_ok {text : List Char} {u : Url} (h : parseFile text = .ok u) : ∃ host tail, Host.IsReadIn "file" host ∧
    u = withTail { scheme := "file", host := some host, path := .rooted [] } (rootedPath "file") tail := by
  unfold parseFile at h
  extract_lets isSlash file at h
  have hfile : ∀ (host : Host) (tail : List Char), host.IsReadIn "file" → ∃ host' tail', Host.IsReadIn "file" host' ∧
      file host tail = withTail { scheme := "file", host := some host', path := .rooted [] } (rootedPath "file") tail' :=
    fun host tail hread => ⟨_, tail, Host.isReadIn_ite hread, rfl⟩
  clear_value file
  split at h
  · split at h
    · extract_lets name at h
      split at h
      · cases h
        exact hfile _ _ (.inl rfl)
      · obtain ⟨host, hread, h⟩ := Traversal.exists_of_bind_eq_ok h
        cases h
        exact hfile _ _ (Host.isReadIn_ite (Host.isReadIn_of_parse (by decide) hread))
    · cases h
      exact hfile _ _ (.inl rfl)
  · cases h
    exact hfile _ _ (.inl rfl)

theorem toNat_lt_of_isAlphanum {c : Char} (h : c.isAlphanum = true) : c.toNat < 0x80 := by
  change (decide (c.val ≥ 'A'.val ∧ c.val ≤ 'Z'.val) || (decide (c.val ≥ 'a'.val) && decide (c.val ≤ 'z'.val)) ||
    (decide (c.val ≥ '0'.val) && decide (c.val ≤ '9'.val))) = true at h
  simp only [Bool.or_eq_true, Bool.and_eq_true, decide_eq_true_eq, UInt32.le_iff_toNat_le, ge_iff_le] at h
  have hv : c.toNat = c.val.toNat := rfl
  have hz : 'z'.val.toNat < 0x80 ∧ 'Z'.val.toNat < 0x80 ∧ '9'.val.toNat < 0x80 := by decide
  omega

theorem cutScheme?_plain {text rest : List Char} {scheme : String} (h : cutScheme? text = some (scheme, rest)) :
    ':' ∉ scheme.toList := by
  unfold cutScheme? at h
  split at h
  · rename_i first letters rest' _
    split at h
    · rename_i hletters
      cases h
      rw [String.toList_ofList]
      intro hmem
      obtain ⟨c, hc, hlower⟩ := List.mem_map.1 hmem
      simp only [Bool.and_eq_true, List.all_eq_true] at hletters
      have hletter : (c.isAlphanum || c == '+' || c == '-' || c == '.') = true := by
        rcases List.mem_cons.1 hc with rfl | hc
        · simp [Char.isAlphanum, hletters.1]
        · exact hletters.2 c hc
      have hascii : c.toNat < 0x80 := by
        simp only [Bool.or_eq_true, beq_iff_eq] at hletter
        rcases hletter with ((hletter | rfl) | rfl) | rfl
        · exact toNat_lt_of_isAlphanum hletter
        all_goals decide
      have hcolon : ∀ n ∈ List.range 0x80, (Char.ofNat n).toLower = ':' →
          ((Char.ofNat n).isAlphanum || Char.ofNat n == '+' || Char.ofNat n == '-' || Char.ofNat n == '.') = false := by
        decide +kernel
      rw [Utf8.forall_ascii (P := fun c => c.toLower = ':' →
        (c.isAlphanum || c == '+' || c == '-' || c == '.') = false) hcolon hascii hlower] at hletter
      cases hletter
    · cases h
  · cases h

/-- **What a URL is read as**: an authority with a host that is read, or none, and a tail behind it. -/
theorem parse_eq_ok {text : List Char} {u : Url} (h : parse text = .ok u) :
    (∃ scheme user host port tail, ':' ∉ scheme.toList ∧ Host.IsReadIn scheme host ∧
      u = withTail { scheme, username := (parseUser user).1, password := (parseUser user).2, host := some host, port,
                     path := .rooted [] } (rootedPath scheme) tail) ∨
    ∃ scheme path tail, ':' ∉ scheme.toList ∧ ¬isWebScheme scheme = true ∧
      u = withTail { scheme, path := .rooted [] } path tail := by
  unfold parse at h
  extract_lets clean at h
  split at h
  · cases h
  · rename_i scheme rest hcut
    have hscheme := cutScheme?_plain hcut
    have hauthority {scheme : String} {text : List Char} (hscheme : ':' ∉ scheme.toList)
        (h : parseAuthority scheme text = .ok u) : ∃ scheme user host port tail, ':' ∉ scheme.toList ∧ Host.IsReadIn scheme host ∧
          u = withTail { scheme, username := (parseUser user).1, password := (parseUser user).2, host := some host, port,
                         path := .rooted [] } (rootedPath scheme) tail := by
      obtain ⟨user, host, port, tail, hread, hu⟩ := parseAuthority_eq_ok h
      exact ⟨scheme, user, host, port, tail, hscheme, hread, hu⟩
    split at h
    · obtain ⟨host, tail, hread, hu⟩ := parseFile_eq_ok h
      exact .inl ⟨"file", [], host, none, tail, by decide, hread, hu⟩
    · split at h
      · exact .inl (hauthority hscheme h)
      · rename_i hweb
        split at h
        · exact .inl (hauthority hscheme h)
        · cases h
          exact .inr ⟨scheme, _, _, hscheme, hweb, rfl⟩
        · cases h
          exact .inr ⟨scheme, _, _, hscheme, hweb, rfl⟩

/-- **A URL that is read is plain.** -/
theorem isPlain_of_parse {text : List Char} {u : Url} (h : parse text = .ok u) : u.IsPlain := by
  rcases parse_eq_ok h with ⟨scheme, user, host, port, tail, hscheme, hread, rfl⟩ | ⟨scheme, path, tail, hscheme, _, rfl⟩
  · refine isPlain_withTail ⟨hscheme, (parseUser_plain user).1, (parseUser_plain user).2, fun h' hh' => ?_, fun _ => ⟨_, rfl⟩⟩
      (fun _ => rootedPath_rooted scheme) _
    cases hh'
    exact Host.isPlain_of_isRead (Host.isRead_of_isReadIn hread)
  · exact isPlain_withTail (isPlain_bare hscheme) (fun h => nomatch h) _

/-- **The host of a URL that is read** is one that is read in its scheme. -/
theorem isReadIn_of_parse {text : List Char} {u : Url} (h : parse text = .ok u) : ∀ host ∈ u.host, host.IsReadIn u.scheme := by
  rcases parse_eq_ok h with ⟨scheme, user, host, port, tail, _, hread, rfl⟩ | ⟨scheme, path, tail, _, _, rfl⟩
  · intro host' h'
    cases h'
    exact hread
  · exact fun host' h' => nomatch h'

theorem exists_host_of_parse {text : List Char} {u : Url} (h : parse text = .ok u) (hweb : isWebScheme u.scheme = true) :
    ∃ host, u.host = some host := by
  rcases parse_eq_ok h with ⟨scheme, user, host, port, tail, _, _, rfl⟩ | ⟨scheme, path, tail, _, hother, rfl⟩
  · exact ⟨host, rfl⟩
  · exact absurd hweb hother

theorem isRead_of_parse {text : List Char} {u : Url} (h : parse text = .ok u) : ∀ host ∈ u.host, host.IsRead :=
  fun host hhost => Host.isRead_of_isReadIn (isReadIn_of_parse h host hhost)

end Url
end StorageGate
