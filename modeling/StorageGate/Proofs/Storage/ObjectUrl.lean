import StorageGate.Policy.Signer
import StorageGate.Proofs.Storage.Metadata
import StorageGate.Proofs.Url.Path
import StorageGate.Proofs.Url.Text
/-!
# The URL of an object

An object's URL has the segments of its key, behind the bucket in path style, encoded one by one with their dots collapsed
(`path_of_objectUrl`), and a host that is read (`isRead_of_objectUrl`).  A signature adds nothing but a query
(`presign_eq_ok`), so the path can be read off the signed text (`shownPath_signedUrl`).
-/
namespace StorageGate
namespace Credentials

/-- The text in the path of an object's URL, before it is encoded. -/
def objectPath (c : Credentials) (bucket key : String) : List Char :=
  if c.pathStyle then bucket.toList ++ '/' :: key.toList else key.toList

/-- Its segments as the URL has them. -/
def objectSegments (c : Credentials) (bucket key : String) : List (List Char) :=
  Path.collapsed (c.endpoint.scheme == "file") (c.objectPath bucket key)

theorem endpoint_isPlain (c : Credentials) : c.endpoint.IsPlain := Url.isPlain_of_parse c.endpoint_eq

theorem path_of_setPath {u : Url} (hu : u.IsPlain) (hhost : u.host.isSome) (text : List Char) :
    ((u.setPath ('/' :: Path.encodeText text)).setQuery none).IsPlain ∧
      (u.setPath ('/' :: Path.encodeText text)).path
        = .rooted (((Path.collapsed (u.scheme == "file") text).map Path.encodeSegment).map String.ofList) := by
  obtain ⟨segments, hpath⟩ := hu.path hhost
  refine ⟨Url.isPlain_setQuery (Url.isPlain_setPath hu hpath _) none, ?_⟩
  rw [Url.setPath_of_rooted hpath, List.drop_one, List.tail_cons, Path.segments_encodeText]

/-- Path and query do not move a URL. -/
theorem place_of_setPath (u : Url) (text : List Char) (query : Option (List Char)) :
    ((u.setPath text).setQuery query).host = u.host ∧ ((u.setPath text).setQuery query).port = u.port := by
  unfold Url.setPath
  split <;> exact ⟨rfl, rfl⟩

section Inversion

variable {c : Credentials} {bucket key : String} {url : Url}

/-- **An object's URL is placed first**, at the endpoint or at what it becomes with the bucket in front of its host; then the
path is set. -/
theorem objectUrl_eq_ok (h : c.objectUrl bucket key = .ok url) : ∃ placed : Url,
    url = (placed.setPath ('/' :: Path.encodeText (c.objectPath bucket key))).setQuery none ∧
      if c.pathStyle then placed = c.endpoint
      else ∃ base, c.endpoint.host = some base ∧ base ≠ .empty ∧
        c.endpoint.setHost (bucket.toList ++ '.' :: base.write) = .ok placed := by
  unfold objectUrl at h
  split at h
  · cases h
  · split at h
    · rename_i hstyle
      cases h
      rw [objectPath, if_pos hstyle]
      exact ⟨c.endpoint, rfl, by rw [if_pos hstyle]⟩
    · rename_i hstyle
      rw [objectPath, if_neg hstyle]
      split at h
      · cases h
      · rename_i text htext
        split at h
        · cases h
        · rename_i placed hset
          cases h
          obtain ⟨base, hbase, hempty, rfl⟩ := Url.hostText?_eq_some htext
          exact ⟨placed, rfl, by rw [if_neg hstyle]; exact ⟨base, hbase, hempty, hset⟩⟩

/-- **The path of an object's URL**, if it has a host. -/
theorem path_of_objectUrl (h : c.objectUrl bucket key = .ok url) (hhost : url.host.isSome) : url.IsPlain ∧
    url.path = .rooted (((c.objectSegments bucket key).map Path.encodeSegment).map String.ofList) := by
  obtain ⟨placed, rfl, hplaced⟩ := objectUrl_eq_ok h
  have hsome : placed.host.isSome := by rwa [(place_of_setPath placed _ _).1] at hhost
  split at hplaced
  · subst hplaced
    exact path_of_setPath c.endpoint_isPlain hsome _
  · obtain ⟨base, hbase, -, hset⟩ := hplaced
    obtain ⟨hplain, _, hscheme, _⟩ := Url.isPlain_setHost c.endpoint_isPlain (by rw [hbase]; rfl) hset
    rw [objectSegments, ← hscheme]
    exact path_of_setPath hplain hsome _

/-- It holds no mark of a query or a fragment. -/
theorem marks_of_objectUrl (h : c.objectUrl bucket key = .ok url) (hhost : url.host.isSome) :
    ∀ d ∈ url.pathText, d ≠ '?' ∧ d ≠ '#' := by
  intro d hd
  rw [Url.pathText, (path_of_objectUrl h hhost).2, UrlPath.write] at hd
  obtain ⟨text, htext, hd⟩ := List.mem_flatMap.1 hd
  obtain ⟨encoded, hencoded, rfl⟩ := List.mem_map.1 htext
  obtain ⟨segment, _, rfl⟩ := List.mem_map.1 hencoded
  rw [String.toList_ofList] at hd
  rcases List.mem_cons.1 hd with rfl | hd
  · decide
  · have hmark := Path.not_isMark_of_mem hd
    exact ⟨fun he => absurd (he ▸ hmark) (by decide), fun he => absurd (he ▸ hmark) (by decide)⟩

/-- **The host of an object's URL** is one that is read: the endpoint's, or one with the bucket in front. -/
theorem isRead_of_objectUrl (h : c.objectUrl bucket key = .ok url) : ∀ host ∈ url.host, host.IsRead := by
  obtain ⟨placed, rfl, hplaced⟩ := objectUrl_eq_ok h
  rw [(place_of_setPath placed _ _).1]
  split at hplaced
  · rw [hplaced]
    exact Url.isRead_of_parse c.endpoint_eq
  · obtain ⟨base, -, -, hset⟩ := hplaced
    obtain ⟨host, hread, rfl⟩ := Url.setHost_eq_ok hset
    rintro _ ⟨⟩
    exact Host.isRead_of_isReadIn hread

end Inversion

theorem hostHeader_eq_ok {url : Url} {header : String} (h : hostHeader url = .ok header) :
    ∃ host, url.host = some host ∧ header = String.ofList (host.write ++ url.portText) := by
  unfold hostHeader at h
  split at h
  · cases h
  · rename_i text htext
    cases h
    obtain ⟨host, hhost, _, rfl⟩ := Url.hostText?_eq_some htext
    exact ⟨host, hhost, rfl⟩

/-- **The URL of an object with a host** has parts that are found again in its text. -/
theorem plain_of_hostHeader {c : Credentials} {bucket key header : String} {url : Url} (h : c.objectUrl bucket key = .ok url)
    (hheader : hostHeader url = .ok header) : ∃ host, url.host = some host ∧
      header = String.ofList (host.write ++ url.portText) ∧ url.IsPlain ∧ ∀ d ∈ url.pathText, d ≠ '?' ∧ d ≠ '#' := by
  obtain ⟨host, hhost, rfl⟩ := hostHeader_eq_ok hheader
  have hsome : url.host.isSome := by rw [hhost]; rfl
  exact ⟨host, hhost, rfl, (path_of_objectUrl h hsome).1, marks_of_objectUrl h hsome⟩

/-- **A signature adds a query** to the URL of an object, which has a host: the parameters that are signed, and behind them
the signature. -/
theorem presign_eq_ok {c : Credentials} {p : Presign} {url : Url} (h : c.presign p = .ok url) :
    ∃ base header r, c.objectUrl (p.bucket.getD c.bucket) p.key = .ok base ∧ hostHeader base = .ok header ∧
      r = { method := p.method
            path := base.pathText
            params := (c.signatureParams p ((("host", header) :: p.headers).mergeSort headerLe) ++ p.params).mergeSort paramLe
            headers := (("host", header) :: p.headers).mergeSort headerLe } ∧
      url = base.setQuery (some (r.query ++ "&X-Amz-Signature=".toList
        ++ signatureText c.secretAccessKey c.region p.time.basicText r)) := by
  obtain ⟨base, hbase, h⟩ := Traversal.exists_of_bind_eq_ok h
  obtain ⟨r, hr, h⟩ := Traversal.exists_of_bind_eq_ok h
  obtain ⟨header, hheader, hr⟩ := Traversal.exists_of_bind_eq_ok hr
  cases h
  cases hr
  exact ⟨base, header, _, hbase, hheader, rfl, rfl⟩

end Credentials

/-! ## Signed URLs -/

namespace Presign

theorem foldl_withHeader : ∀ {headers : List (String × String)} (p : Presign),
    (∀ h ∈ headers, String.ofList (h.1.toList.map Char.toLower) = h.1) →
      headers.foldl (fun p h => p.withHeader h.1 h.2) p = { p with headers := p.headers ++ headers }
  | [], p, _ => by rw [List.append_nil, List.foldl_nil]
  | h :: headers, p, hlower => by
    have hname := hlower h List.mem_cons_self
    rw [List.foldl_cons, foldl_withHeader _ fun h' hh' => hlower h' (List.mem_cons_of_mem _ hh')]
    simp only [withHeader, hname, List.append_assoc, List.cons_append, List.nil_append]

/-- **Metadata appends its headers.** -/
theorem withMetadata_eq (p : Presign) (metadata : Fields) :
    p.withMetadata metadata = (metadataHeaders metadata).map fun headers => { p with headers := p.headers ++ headers } := by
  unfold withMetadata
  cases hheaders : metadataHeaders metadata with
  | error cause => rfl
  | ok headers => exact congrArg Except.ok (foldl_withHeader p (lower_of_metadataHeaders hheaders))

/-- The seconds from a time until an instant after it. -/
def windowUntil (time expiry : Instant) : Except SigningError Nat :=
  if expiry.nanos ≤ time.nanos then .error (.expired expiry)
  else .ok (max 1 ((expiry.nanos - time.nanos) / nanosPerSecond).toNat)

theorem expiresAt_eq (p : Presign) (expiry : Instant) :
    p.expiresAt expiry = (windowUntil p.time expiry).map p.expiresIn := by
  unfold expiresAt windowUntil
  extract_lets window
  by_cases hpast : expiry.nanos ≤ p.time.nanos
  · rw [if_pos hpast, if_pos (Int.sub_nonpos_of_le hpast)]
    rfl
  · rw [if_neg hpast, if_neg fun h => hpast (Int.le_of_sub_nonpos h)]
    rfl

end Presign

namespace StorageSigner

/-- Of an exchange a signature sees the time and the transaction id. -/
theorem signedUrl_congr (s : StorageSigner) {e e' : Exchange} (hnow : e.moment.now = e'.moment.now)
    (hid : e.transactionId? = e'.transactionId?) (r : Request) : s.signedUrl e r = s.signedUrl e' r := by
  have hmetadata : signedMetadata? e r = signedMetadata? e' r := by rw [signedMetadata?, signedMetadata?, hid]
  have hpresign : s.presignFor e r = s.presignFor e' r := by rw [presignFor, presignFor, hnow, hmetadata]
  rw [signedUrl, signedUrl, hpresign, hmetadata]

variable {s : StorageSigner} {e : Exchange} {r : Request}

/-- The headers of the metadata that is signed. -/
def signedHeaders (e : Exchange) (r : Request) : Except SigningError (List (String × String)) :=
  match signedMetadata? e r with
  | some metadata => metadataHeaders metadata
  | none => .ok []

/-- What is presigned for a request with these headers and this window. -/
def presignWith (s : StorageSigner) (e : Exchange) (r : Request) (headers : List (String × String)) (expires : Nat) :
    Presign where
  method := r.action.method
  bucket := some (s.bucketOf r)
  key := r.key
  params := if r.action.isAcl then [("acl", "")] else []
  headers
  time := e.moment.now
  expires

/-- **A request is presigned in two steps**: its window is found, and then the headers of the metadata that is signed. -/
theorem presignFor_eq (s : StorageSigner) (e : Exchange) (r : Request) :
    s.presignFor e r = Presign.windowUntil e.moment.now (e.moment.now.after s.expiresIn) >>= fun seconds =>
      (signedHeaders e r).map fun headers => s.presignWith e r headers seconds := by
  unfold presignFor
  extract_lets p
  rw [Presign.expiresAt_eq]
  show ((Presign.windowUntil e.moment.now (e.moment.now.after s.expiresIn)).map p.expiresIn >>= _) = _
  cases Presign.windowUntil e.moment.now (e.moment.now.after s.expiresIn) with
  | error cause => rfl
  | ok seconds =>
    unfold signedHeaders presignWith
    dsimp only [bind, Except.bind, Except.map]
    cases signedMetadata? e r with
    | none =>
      dsimp only
      split <;> rfl
    | some metadata =>
      dsimp only
      rw [Presign.withMetadata_eq]
      split <;> rfl

/-- **What is presigned for a request**: its method and key, the marker of an access list, and the headers of the metadata
that is signed. -/
theorem presignFor_eq_ok {p : Presign} (h : s.presignFor e r = .ok p) : ∃ headers expires,
    signedHeaders e r = .ok headers ∧
    p = { method := r.action.method
          bucket := some (s.bucketOf r)
          key := r.key
          params := if r.action.isAcl then [("acl", "")] else []
          headers
          time := e.moment.now
          expires } := by
  rw [presignFor_eq] at h
  obtain ⟨expires, -, h⟩ := Traversal.exists_of_bind_eq_ok h
  obtain ⟨headers, hheaders, rfl⟩ := Traversal.map_eq_ok_iff.1 h
  exact ⟨headers, expires, hheaders, rfl⟩

/-- The segments in the path of a signed URL, before they are encoded. -/
def segments (s : StorageSigner) (r : Request) : List (List Char) := s.credentials.objectSegments (s.bucketOf r) r.key

/-- **The path that a signed URL shows**: its segments, each encoded behind a slash. -/
theorem shownPath_signedUrl {u : SignedUrl} (h : s.signedUrl e r = .ok u) :
    Url.shownPath u.url.toList = (s.segments r).flatMap fun segment => '/' :: Path.encodeSegment segment := by
  obtain ⟨p, hp, h⟩ := Traversal.exists_of_bind_eq_ok h
  obtain ⟨url, hurl, h⟩ := Traversal.exists_of_bind_eq_ok h
  cases h
  obtain ⟨headers, expires, _, rfl⟩ := presignFor_eq_ok hp
  obtain ⟨base, header, r', hbase, hheader, _, rfl⟩ := Credentials.presign_eq_ok hurl
  obtain ⟨host, hhost, -, hplain, hmarks⟩ := Credentials.plain_of_hostHeader hbase hheader
  obtain ⟨-, hpath⟩ := Credentials.path_of_objectUrl hbase (by rw [hhost]; rfl)
  show Url.shownPath (String.ofList (base.setQuery _).write).toList = _
  rw [String.toList_ofList, Url.shownPath_write (Url.isPlain_setQuery hplain _) hhost hmarks]
  show base.path.write = _
  rw [hpath, UrlPath.write, List.flatMap_map, List.flatMap_map]
  simp only [String.toList_ofList]
  rfl

end StorageSigner

/-! ## An account to look at -/

theorem parse_testEndpoint : Url.parse "https://s3.test".toList
    = .ok { scheme := "https", host := some (.domain "s3.test"), path := .rooted [""] } := by
  exact Traversal.eq_ok_of_toOption (by decide +kernel)

/-- An account with the bucket in the host of its URLs. -/
def Credentials.test : Credentials where
  accessKeyId := "id"
  secretAccessKey := "secret"
  address := { endpoint := "https://s3.test", region := "us-east-1", bucket := "uploads" }
  endpoint := { scheme := "https", host := some (.domain "s3.test"), path := .rooted [""] }
  pathStyle := false
  endpoint_eq := parse_testEndpoint

end StorageGate
