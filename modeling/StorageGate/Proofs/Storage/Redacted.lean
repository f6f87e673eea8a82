import StorageGate.Policy.Signer
import StorageGate.Proofs.Storage.Presigned
/-!
# Signed URLs without their signatures

The secret of an account goes into the signatures of its URLs and into nothing else.  A URL without the value of its
signature can be told without the secret (`map_redacted_presign`), and so can whether there is one and why not; so accounts
that differ in their secrets alone sign the same requests, with the same changes and in URLs that differ in their signatures
alone (`map_redacted_signedUrl`).  Nothing else of a URL that is signed for a request is left out (`redacted_of_signedUrl`).
-/
namespace StorageGate

/-- How a signature begins in a query. -/
def signatureLead : List Char := signatureParam.toList ++ ['=']

/-- A parameter of a query without its value, if it is the signature. -/
def redactedParam (param : List Char) : List Char := if signatureLead.isPrefixOf param then signatureLead else param

/-- A query without the value of its signature. -/
def redactedQuery (query : List Char) : List Char := ['&'].intercalate ((query.splitOn '&').map redactedParam)

/-- The text of a URL without the value of the signature in its query. -/
def Url.redacted (text : List Char) : List Char :=
  match (shownTail text).dropWhile fun c => c != '?' && c != '#' with
  | '?' :: rest =>
    text.take (text.length - rest.length) ++ redactedQuery (rest.takeWhile (· != '#')) ++ rest.dropWhile (· != '#')
  | _ => text

/-- A URL without the value of its signature. -/
def redactedUrl (url : String) : String := String.ofList (Url.redacted url.toList)

/-- The signed URL without the value of its signature. -/
def SignedUrl.redacted (u : SignedUrl) : SignedUrl := { u with url := redactedUrl u.url }

/-- The account with another secret. -/
def Credentials.withSecret (c : Credentials) (secret : String) : Credentials := { c with secretAccessKey := secret }

/-! ## Queries -/

theorem redactedParam_signature (signature : List Char) : redactedParam (signatureLead ++ signature) = signatureLead := by
  rw [redactedParam, if_pos (List.isPrefixOf_iff_prefix.2 (List.prefix_append _ _))]

/-- **Of a query with a signature at its end only the value of the signature is missing**, and what is missing before. -/
theorem redactedQuery_signed (query : List Char) {signature : List Char} (h : '&' ∉ signature) :
    redactedQuery (query ++ "&X-Amz-Signature=".toList ++ signature)
      = redactedQuery query ++ "&X-Amz-Signature=".toList := by
  have hlead : "&X-Amz-Signature=".toList = '&' :: signatureLead := by decide
  have hparam : '&' ∉ signatureLead ++ signature := fun hmem => (List.mem_append.1 hmem).elim (by decide) h
  have hsplit : (query ++ "&X-Amz-Signature=".toList ++ signature).splitOn '&'
      = query.splitOn '&' ++ [signatureLead ++ signature] := by
    rw [hlead, List.append_assoc, List.cons_append, List.splitOn_append_cons_self, List.splitOn_eq_singleton hparam]
  rw [redactedQuery, hsplit, List.map_append, List.map_singleton, redactedParam_signature,
    CanonicalRequest.intercalate_concat (by simp), ← redactedQuery, List.append_assoc, hlead, List.singleton_append]

/-- Nothing is missing of a parameter that is not the signature. -/
theorem redactedParam_piece {p : List Char × List Char} (h : p.1 ≠ signatureParam.toList) :
    redactedParam (Form.piece (Percent.encode Percent.isUnreserved) p)
      = Form.piece (Percent.encode Percent.isUnreserved) p := by
  refine if_neg fun hlead => ?_
  obtain ⟨value, hvalue⟩ := List.isPrefixOf_iff_prefix.1 hlead
  have hpiece : Percent.encode Percent.isUnreserved p.1 ++ '=' :: Percent.encode Percent.isUnreserved p.2
      = signatureParam.toList ++ '=' :: value := by
    rw [← List.singleton_append (l := value), ← List.append_assoc]
    exact hvalue.symm
  have hequal (text : List Char) : '=' ∉ Percent.encode Percent.isUnreserved text := fun hmem =>
    (CanonicalRequest.ne_delimiter_of_mem_encode text _ hmem).2 rfl
  have hencoded : Percent.encode Percent.isUnreserved p.1 = Percent.encode Percent.isUnreserved signatureParam.toList :=
    calc Percent.encode Percent.isUnreserved p.1
      _ = signatureParam.toList := ((List.append_cons_inj_of_notMem (hequal _) (hequal _)).1 hpiece).1
      _ = _ := by decide
  have hbytes := congrArg Percent.decode hencoded
  rw [Percent.decode_encode (by decide), Percent.decode_encode (by decide)] at hbytes
  exact h (Utf8.encode_injective hbytes)

/-- **Nothing is missing of a query without a signature.** -/
theorem redactedQuery_queryOf {params : List (String × String)} (h : ∀ p ∈ params, p.1 ≠ signatureParam) :
    redactedQuery (CanonicalRequest.queryOf params) = CanonicalRequest.queryOf params := by
  cases params with
  | nil => decide
  | cons p params =>
    rw [redactedQuery, CanonicalRequest.queryOf_eq_pieces,
      Form.splitOn_pieces CanonicalRequest.ne_delimiter_of_mem_encode (by simp), List.map_map]
    refine congrArg _ (List.map_congr_left fun q hq => ?_)
    obtain ⟨r, hr, rfl⟩ := List.mem_map.1 hq
    exact redactedParam_piece fun hname => h r hr (String.toList_injective hname)

/-- What stands in front of a query in the text of a URL. -/
def Url.beforeQuery (u : Url) : List Char := u.scheme.toList ++ ':' :: u.authorityText ++ u.pathText ++ ['?']

theorem Url.write_withQuery (u : Url) (query : List Char) :
    { u with query := some (String.ofList query) }.write = u.beforeQuery ++ query ++ u.fragmentText := by
  simp [beforeQuery, write, fragmentText, authorityText, credentialsText, pathText]

/-- **A URL is redacted in its query.** -/
theorem Url.redacted_withQuery {u : Url} (hu : u.IsPlain) {host : Host} (hhost : u.host = some host)
    (hpath : ∀ c ∈ u.pathText, c ≠ '?' ∧ c ≠ '#') {query : List Char} (hmark : '#' ∉ query) :
    redacted { u with query := some (String.ofList query) }.write
      = { u with query := some (String.ofList (redactedQuery query)) }.write := by
  let asked : Url := { u with query := some (String.ofList query) }
  have hasked : asked.IsPlain := isPlain_withQuery hu _
  have hafter : (shownTail asked.write).dropWhile (fun c => c != '?' && c != '#') = '?' :: (query ++ u.fragmentText) := by
    rw [dropWhile_shownTail_write hasked hhost hpath, afterPath_of_query rfl, String.toList_ofList]
    rfl
  have hfront : asked.write.take (asked.write.length - (query ++ u.fragmentText).length) = u.beforeQuery := by
    rw [write_withQuery, List.append_assoc, List.length_append, Nat.add_sub_cancel, List.take_left]
  obtain ⟨htake, hdrop⟩ := u.span_fragmentText hmark
  rw [redacted, hafter, write_withQuery u (redactedQuery query)]
  show asked.write.take (asked.write.length - (query ++ u.fragmentText).length)
    ++ redactedQuery ((query ++ u.fragmentText).takeWhile (· != '#'))
    ++ (query ++ u.fragmentText).dropWhile (· != '#') = _
  rw [hfront, htake, hdrop]

example : redactedUrl "https://h/X-Amz-Signature=0?a=1&X-Amz-Signature=abc&b=2#f&X-Amz-Signature=3"
    = "https://h/X-Amz-Signature=0?a=1&X-Amz-Signature=&b=2#f&X-Amz-Signature=3" := by decide +kernel

/-! ## Presigned URLs -/

namespace Credentials

variable (c : Credentials)

/-- Nothing in a query with its signature is escaped when it is set. -/
theorem setQuery_signed (url : Url) (r : CanonicalRequest) (secret region : String) (timestamp : List Char) :
    url.setQuery (some (r.query ++ "&X-Amz-Signature=".toList ++ signatureText secret region timestamp r))
      = { url with query := some (String.ofList
            (r.query ++ "&X-Amz-Signature=".toList ++ signatureText secret region timestamp r)) } := by
  have hname (isWeb : Bool) :
      Percent.encode (Url.isKeptInQuery isWeb) "&X-Amz-Signature=".toList = "&X-Amz-Signature=".toList := by
    cases isWeb <;> decide
  have hsignature (isWeb : Bool) : Percent.encode (Url.isKeptInQuery isWeb) (signatureText secret region timestamp r)
      = signatureText secret region timestamp r :=
    Percent.encode_eq_self (Percent.forall_mem_lowerHex (by cases isWeb <;> decide) _)
  rw [Url.setQuery, Option.map_some, Percent.encode_append, Percent.encode_append, hname, hsignature,
    CanonicalRequest.query, CanonicalRequest.encode_queryOf]

/-- **A URL with a signature is redacted in its signature**, and in what the query before holds. -/
theorem redacted_setQuery_signed {bucket key header : String} {url : Url} (hurl : c.objectUrl bucket key = .ok url)
    (hheader : hostHeader url = .ok header) (r : CanonicalRequest) (secret region : String) (timestamp : List Char) :
    Url.redacted
        (url.setQuery (some (r.query ++ "&X-Amz-Signature=".toList ++ signatureText secret region timestamp r))).write
      = { url with query := some (String.ofList (redactedQuery r.query ++ "&X-Amz-Signature=".toList)) }.write := by
  obtain ⟨host, hhost, -, hplain, hmarks⟩ := plain_of_hostHeader hurl hheader
  have hsignature {d : Char} (hd : ∀ n ∈ List.range 16, Percent.lowerDigit n ≠ d) :
      d ∉ signatureText secret region timestamp r :=
    fun hmem => Percent.forall_mem_lowerHex (P := fun x => x ≠ d) hd _ d hmem rfl
  have hmark : '#' ∉ r.query ++ "&X-Amz-Signature=".toList ++ signatureText secret region timestamp r := by
    simp only [List.mem_append, not_or]
    exact ⟨⟨CanonicalRequest.not_mem_queryOf (by decide) (by decide) _, by decide⟩, hsignature (by decide)⟩
  rw [setQuery_signed, Url.redacted_withQuery hplain hhost hmarks hmark, redactedQuery_signed _ (hsignature (by decide))]

/-- **A presigned URL without the value of its signature**, told without the secret. -/
theorem map_redacted_presign (p : Presign) : (c.presign p).map (fun url => Url.redacted url.write) = (do
    let url ← c.objectUrl (p.bucket.getD c.bucket) p.key
    let r ← c.canonicalRequest p url
    return { url with query := some (String.ofList (redactedQuery r.query ++ "&X-Amz-Signature=".toList)) }.write) := by
  unfold presign
  cases hurl : c.objectUrl (p.bucket.getD c.bucket) p.key with
  | error cause => rfl
  | ok url =>
    show (c.canonicalRequest p url >>= _ : Except SigningError Url).map _ = (c.canonicalRequest p url >>= _)
    cases hr : c.canonicalRequest p url with
    | error cause => rfl
    | ok r =>
      obtain ⟨header, hheader, -⟩ := Traversal.exists_of_bind_eq_ok hr
      exact congrArg Except.ok (c.redacted_setQuery_signed hurl hheader r _ _ _)

/-- **Of a presigned URL exactly the signature is missing**, if no parameter of the request has its name. -/
theorem redacted_of_presign {c : Credentials} {p : Presign} {url : Url} (h : c.presign p = .ok url)
    (hnames : ∀ q ∈ p.params, q.1 ≠ signatureParam) :
    ∃ front back r, c.canonicalFor p = .ok r ∧
      url.write = front ++ signatureText c.secretAccessKey c.region p.time.basicText r ++ back ∧
      Url.redacted url.write = front ++ back := by
  obtain ⟨base, header, r, hbase, hheader, hr, rfl⟩ := presign_eq_ok h
  have hparams : ∀ q ∈ r.params, q.1 ≠ signatureParam := by
    intro q hq
    rw [hr, List.mem_mergeSort, List.mem_append] at hq
    rcases hq with hq | hq
    · have hname : q.1 ∈ signatureNames := List.mem_map_of_mem (f := Prod.fst) hq
      exact fun he => absurd (he ▸ hname) (by decide)
    · exact hnames q hq
  refine ⟨base.beforeQuery ++ r.query ++ "&X-Amz-Signature=".toList, base.fragmentText, r, ?_, ?_, ?_⟩
  · rw [hr, canonicalFor_of_host hbase hheader]
  · rw [setQuery_signed, Url.write_withQuery]
    simp only [List.append_assoc]
  · rw [c.redacted_setQuery_signed hbase hheader, CanonicalRequest.query, redactedQuery_queryOf hparams,
      Url.write_withQuery]
    simp only [List.append_assoc]

/-- **Accounts that differ in their secrets sign alike**, up to the signatures. -/
theorem map_redacted_presign_withSecret (secret : String) (p : Presign) :
    ((c.withSecret secret).presign p).map (fun url => Url.redacted url.write)
      = (c.presign p).map (fun url => Url.redacted url.write) := by
  rw [map_redacted_presign, map_redacted_presign]
  rfl

end Credentials

namespace StorageSigner

/-- The signer with another secret. -/
def withSecret (s : StorageSigner) (secret : String) : StorageSigner :=
  { s with credentials := s.credentials.withSecret secret }

/-- **What is signed for a request is told without the secret**, up to the signatures. -/
theorem map_redacted_signedUrl (s : StorageSigner) (secret : String) (e : Exchange) (r : Request) :
    ((s.withSecret secret).signedUrl e r).map SignedUrl.redacted = (s.signedUrl e r).map SignedUrl.redacted := by
  have hsame : (s.withSecret secret).presignFor e r = s.presignFor e r := rfl
  unfold signedUrl
  rw [hsame]
  refine Traversal.map_bind_congr (f := id) rfl fun p p' hp => ?_
  cases (id hp : p = p')
  refine Traversal.map_bind_congr (s.credentials.map_redacted_presign_withSecret secret p) fun url url' hurl => ?_
  show Except.ok (SignedUrl.redacted _) = .ok (SignedUrl.redacted _)
  simp only [SignedUrl.redacted, redactedUrl, Url.toText, String.toList_ofList, hurl]
  rfl

/-- **Of the URL that is signed for a request exactly the signature is missing** when it is redacted. -/
theorem redacted_of_signedUrl {s : StorageSigner} {e : Exchange} {r : Request} {u : SignedUrl} (h : s.signedUrl e r = .ok u) :
    ∃ front back p c, s.presignFor e r = .ok p ∧ s.canonical e r = .ok c ∧
      u.url.toList
        = front ++ signatureText s.credentials.secretAccessKey s.credentials.region p.time.basicText c ++ back ∧
      u.redacted.url.toList = front ++ back := by
  obtain ⟨p, hp, h⟩ := Traversal.exists_of_bind_eq_ok h
  obtain ⟨url, hurl, h⟩ := Traversal.exists_of_bind_eq_ok h
  cases h
  have hnames : ∀ q ∈ p.params, q.1 ≠ signatureParam := by
    obtain ⟨headers, expires, _, rfl⟩ := presignFor_eq_ok hp
    intro q hq
    exact ((names_in_order r.action.isAcl).2 q.1 (List.mem_append_right _ (List.mem_map_of_mem hq))).1
  obtain ⟨front, back, c, hc, hurl, hredacted⟩ := Credentials.redacted_of_presign hurl hnames
  refine ⟨front, back, p, c, hp, ?_, ?_, ?_⟩
  · show (s.presignFor e r >>= s.credentials.canonicalFor) = .ok c
    rw [hp]
    exact hc
  · exact String.toList_ofList.trans hurl
  · show (redactedUrl (String.ofList url.write)).toList = _
    rw [redactedUrl, String.toList_ofList, String.toList_ofList, hredacted]

end StorageSigner
end StorageGate
