import StorageGate.Proofs.Storage.ObjectUrl
import StorageGate.Proofs.Text.Joined
/-!
# What a presigned URL shows

From the text of a presigned URL alone its host, its path and its parameters can be read: it shows the canonical request that
is signed (`shown_of_presign`, and for a request of an exchange `shown_of_signedUrl`).  The parameters stand there in the
order in which they were signed, and the signature stands behind them.
-/
namespace StorageGate

/-- The parameters that the text of a URL shows. -/
def Url.shownParams (text : List Char) : List (String × String) :=
  (Form.parse (Url.shownQuery text)).map fun p => (String.ofList p.1, String.ofList p.2)

/-- A parameter as it is encoded. -/
def encodedParam (p : String × String) : String × String :=
  (String.ofList (CanonicalRequest.encode p.1), String.ofList (CanonicalRequest.encode p.2))

/-- The order of parameters as they are encoded: by name, then by value. -/
def encodedLe (a b : String × String) : Bool := paramLe (encodedParam a) (encodedParam b)

/-- The name of the parameter with the signature. -/
def signatureParam : String := "X-Amz-Signature"

/-! ## Times -/

namespace Instant

theorem forall_mem_padded {P : Char → Prop} (h : ∀ d ∈ List.range 10, P d.digitChar) (width n : Nat) :
    ∀ c ∈ padded width n, P c := by
  intro c hc
  rcases List.mem_append.1 hc with hc | hc
  · rw [List.eq_of_mem_replicate hc]
    exact h 0 (by decide)
  · exact Host.forall_mem_toDigits (by decide) h n c hc

theorem slash_not_mem_basicText (t : Instant) : '/' ∉ t.basicText := by
  have hpadded (width n : Nat) : '/' ∉ padded width n := fun h =>
    forall_mem_padded (P := fun c => c ≠ '/') (by decide) width n _ h rfl
  have hyear (year : Int) : '/' ∉ yearText year := by
    unfold yearText
    split
    · exact fun h => (List.mem_cons.1 h).elim (by decide) (hpadded _ _)
    · split
      · exact hpadded _ _
      · exact fun h => (List.mem_cons.1 h).elim (by decide) (hpadded _ _)
  unfold basicText
  extract_lets d s
  simp only [List.mem_append, List.mem_cons, hpadded, hyear, List.not_mem_nil, or_false, false_or]
  decide

end Instant

/-! ## Orders -/

theorem paramLe_of_lt {a b : String × String} (h : a.1 < b.1) : paramLe a b = true := by
  rw [paramLe, decide_eq_true h, Bool.true_or]

theorem mergeSort_paramLe {params : List (String × String)} (h : (params.map Prod.fst).Pairwise (· < ·)) :
    params.mergeSort paramLe = params :=
  List.mergeSort_of_pairwise ((List.pairwise_map.1 h).imp paramLe_of_lt)

/-- The parameters without the signature behind them. -/
theorem filter_signature_concat {params : List (String × String)} (h : ∀ p ∈ params, p.1 ≠ signatureParam)
    (signature : String) : (params ++ [(signatureParam, signature)]).filter (·.1 != signatureParam) = params := by
  have hkept : params.filter (·.1 != signatureParam) = params := List.filter_eq_self.2 fun p hp => bne_iff_ne.2 (h p hp)
  rw [List.filter_append, hkept, List.filter_cons_of_neg (by simp), List.filter_nil, List.append_nil]

theorem lookup_concat {params : List (String × String)} {name : String} (h : ∀ p ∈ params, p.1 ≠ name) (value : String) :
    (params ++ [(name, value)]).lookup name = some value := by
  have hnone : params.lookup name = none := List.lookup_eq_none_iff.2 fun p hp => by simpa using (h p hp).symm
  rw [List.lookup_append, hnone, List.lookup_cons_self]
  rfl

/-! ## Queries -/

namespace CanonicalRequest

theorem isAscii_of_isUnreserved {c : Char} (h : Percent.isUnreserved c = true) : c.toNat < 0x80 := by
  simp only [Percent.isUnreserved, Bool.or_eq_true, beq_iff_eq] at h
  rcases h with (((h | rfl) | rfl) | rfl) | rfl
  · exact Url.toNat_lt_of_isAlphanum h
  all_goals decide

/-- **Of what a query holds**: a property of what is never escaped and of `%`, `&` and `=`. -/
theorem forall_mem_queryOf {P : Char → Prop} (hkept : ∀ c, Percent.isUnreserved c = true → P c)
    (hpercent : P '%') (hand : P '&') (hequal : P '=') {params : List (String × String)} : ∀ c ∈ queryOf params, P c := by
  have hdigit : ∀ n ∈ List.range 16, Percent.isUnreserved (Percent.upperDigit n) = true := by decide
  have hencode (text : String) : ∀ c ∈ encode text, P c :=
    Percent.forall_mem_encode (fun c _ hc _ => hkept c hc) hpercent fun n hn => hkept _ (hdigit n hn)
  intro c hc
  rcases Form.mem_intercalate hc with rfl | ⟨l, hl, hc⟩
  · exact hand
  · obtain ⟨p, _, rfl⟩ := List.mem_map.1 hl
    rcases List.mem_append.1 hc with hc | hc
    · exact hencode _ c hc
    · rcases List.mem_cons.1 hc with rfl | hc
      · exact hequal
      · exact hencode _ c hc

/-- A query is kept as it is when it is set. -/
theorem encode_queryOf (isWeb : Bool) (params : List (String × String)) :
    Percent.encode (Url.isKeptInQuery isWeb) (queryOf params) = queryOf params := by
  refine Percent.encode_eq_self (forall_mem_queryOf (fun c hc => ?_) ?_ ?_ ?_)
  · have hascii := isAscii_of_isUnreserved hc
    refine ⟨hascii, Utf8.forall_ascii (P := fun c => Percent.isUnreserved c = true → Url.isKeptInQuery isWeb c = true)
      ?_ hascii hc⟩
    cases isWeb <;> decide +kernel
  all_goals cases isWeb <;> decide

theorem not_mem_queryOf {d : Char} (hescaped : Percent.isUnreserved d = false) (hd : d ≠ '%' ∧ d ≠ '&' ∧ d ≠ '=')
    (params : List (String × String)) : d ∉ queryOf params := by
  have hkept : ∀ c, Percent.isUnreserved c = true → c ≠ d := fun c hc he => by
    rw [he, hescaped] at hc
    cases hc
  exact fun h => forall_mem_queryOf hkept hd.1.symm hd.2.1.symm hd.2.2.symm d h rfl

/-- Nothing encoded holds a delimiter. -/
theorem ne_delimiter_of_mem_encode (text : List Char) :
    ∀ c ∈ Percent.encode Percent.isUnreserved text, c ≠ '&' ∧ c ≠ '=' := by
  refine Percent.forall_mem_encode (fun c _ hc _ => ?_) (by decide) (by decide)
  exact ⟨fun he => absurd (he ▸ hc) (by decide), fun he => absurd (he ▸ hc) (by decide)⟩

/-- A query is made of pieces. -/
theorem queryOf_eq_pieces (params : List (String × String)) :
    queryOf params = ['&'].intercalate ((params.map fun p => (p.1.toList, p.2.toList)).map
      (Form.piece (Percent.encode Percent.isUnreserved))) := by
  rw [List.map_map]
  rfl

/-- **The parameters are read from their query.** -/
theorem parse_queryOf (params : List (String × String)) :
    (Form.parse (queryOf params)).map (fun p => (String.ofList p.1, String.ofList p.2)) = params := by
  rw [queryOf_eq_pieces, Form.parse_pieces (Form.decode_percentEncode (by decide) (by decide)) ne_delimiter_of_mem_encode,
    List.map_map]
  refine (List.map_congr_left fun p _ => ?_).trans (List.map_id' _)
  simp only [Function.comp_apply, String.ofList_toList]

theorem intercalate_concat {sep : List Char} {ls : List (List Char)} (h : ls ≠ []) (l : List Char) :
    sep.intercalate (ls ++ [l]) = sep.intercalate ls ++ sep ++ l := by
  rw [Joined.intercalate_append h (List.cons_ne_nil l []), List.intercalate_singleton]

/-- A parameter of which nothing is escaped, at the end of a query. -/
theorem queryOf_concat {params : List (String × String)} (hparams : params ≠ []) {name value : String}
    (hname : encode name = name.toList) (hvalue : encode value = value.toList) :
    queryOf (params ++ [(name, value)]) = queryOf params ++ '&' :: name.toList ++ '=' :: value.toList := by
  rw [queryOf, List.map_append, List.map_cons, List.map_nil, intercalate_concat (by simpa using hparams), hname, hvalue,
    ← queryOf]
  simp only [List.append_assoc, List.cons_append, List.nil_append]

end CanonicalRequest

/-! ## What the text of a signed URL shows -/

namespace Credentials

/-- The names of the parameters that a signature describes itself with. -/
def signatureNames : List String :=
  ["X-Amz-Algorithm", "X-Amz-Credential", "X-Amz-Date", "X-Amz-Expires", "X-Amz-SignedHeaders"]

theorem names_signatureParams (c : Credentials) (p : Presign) (headers : List (String × String)) :
    (c.signatureParams p headers ++ p.params).map Prod.fst = signatureNames ++ p.params.map Prod.fst := by
  rw [List.map_append]
  rfl

theorem encode_signatureText (secret region : String) (timestamp : List Char) (r : CanonicalRequest) :
    CanonicalRequest.encode (String.ofList (signatureText secret region timestamp r))
      = signatureText secret region timestamp r := by
  rw [CanonicalRequest.encode, String.toList_ofList]
  exact Percent.encode_eq_self (Percent.forall_mem_lowerHex (by decide) _)

/-- The signature is a parameter behind those that are signed. -/
theorem query_signed {r : CanonicalRequest} (hparams : r.params ≠ []) (secret region : String) (timestamp : List Char) :
    r.query ++ "&X-Amz-Signature=".toList ++ signatureText secret region timestamp r
      = CanonicalRequest.queryOf
          (r.params ++ [(signatureParam, String.ofList (signatureText secret region timestamp r))]) := by
  have hvalue := encode_signatureText secret region timestamp r
  have hname : "&X-Amz-Signature=".toList = '&' :: (signatureParam.toList ++ ['=']) := by decide
  rw [CanonicalRequest.queryOf_concat hparams (by decide) (by rw [hvalue, String.toList_ofList]), hname,
    String.toList_ofList, CanonicalRequest.query]
  simp only [List.append_assoc, List.cons_append, List.nil_append]

/-- **The query that a signed URL shows** is that of the parameters with the signature behind them. -/
theorem shownQuery_signed {base : Url} (hplain : base.IsPlain) {host : Host} (hhost : base.host = some host)
    (hmarks : ∀ d ∈ base.pathText, d ≠ '?' ∧ d ≠ '#') {r : CanonicalRequest} (hparams : r.params ≠ [])
    (secret region : String) (timestamp : List Char) :
    Url.shownQuery (base.setQuery (some (r.query ++ "&X-Amz-Signature=".toList
        ++ signatureText secret region timestamp r))).write
      = CanonicalRequest.queryOf
          (r.params ++ [(signatureParam, String.ofList (signatureText secret region timestamp r))]) := by
  rw [query_signed hparams, Url.shownQuery_write (Url.isPlain_setQuery hplain _) hhost hmarks rfl]
  · rw [String.toList_ofList, CanonicalRequest.encode_queryOf]
  · rw [String.toList_ofList, CanonicalRequest.encode_queryOf]
    exact CanonicalRequest.not_mem_queryOf (by decide) (by decide) _

/-- The canonical request that is signed in a URL. -/
def canonicalFor (c : Credentials) (p : Presign) : Except SigningError CanonicalRequest := do
  c.canonicalRequest p (← c.objectUrl (p.bucket.getD c.bucket) p.key)

theorem canonicalFor_of_host {c : Credentials} {p : Presign} {url : Url} {host : String}
    (hurl : c.objectUrl (p.bucket.getD c.bucket) p.key = .ok url) (hhost : hostHeader url = .ok host) :
    c.canonicalFor p = .ok
      { method := p.method
        path := url.pathText
        params := (c.signatureParams p ((("host", host) :: p.headers).mergeSort headerLe) ++ p.params).mergeSort paramLe
        headers := (("host", host) :: p.headers).mergeSort headerLe } := by
  show (c.objectUrl (p.bucket.getD c.bucket) p.key >>= c.canonicalRequest p) = _
  rw [hurl]
  show (hostHeader url >>= _) = _
  rw [hhost]
  rfl

/-- How a canonical request stands in the text of its URL. -/
structure Shown (c : Credentials) (p : Presign) (text : List Char) (r : CanonicalRequest) : Prop where
  method : r.method = p.method
  path : r.path = Url.shownPath text
  params : r.params = c.signatureParams p r.headers ++ p.params
  headers : r.headers = (("host", String.ofList (Url.shownHost text)) :: p.headers).mergeSort headerLe
  /-- No white space is around the host, nor in it. -/
  host : ∀ c ∈ Url.shownHost text, isBlank c = false
  /-- The signature stands behind the parameters that are signed. -/
  signature : Url.shownParams text = r.params ++
    [(signatureParam, String.ofList (signatureText c.secretAccessKey c.region p.time.basicText r))]

/-- **A presigned URL shows the request that is signed**, if the parameters have names in order. -/
theorem shown_of_presign {c : Credentials} {p : Presign} {url : Url} (h : c.presign p = .ok url)
    (hnames : (signatureNames ++ p.params.map Prod.fst).Pairwise (· < ·)) :
    ∃ r, c.canonicalFor p = .ok r ∧ c.Shown p url.write r := by
  obtain ⟨base, header, r, hbase, hheader, hr, rfl⟩ := presign_eq_ok h
  have hcanonical : c.canonicalFor p = .ok r := by rw [hr, canonicalFor_of_host hbase hheader]
  obtain ⟨host, hhost, rfl, hplain, hmarks⟩ := plain_of_hostHeader hbase hheader
  have hat : '@' ∉ host.write :=
    Host.not_mem_of_isRead (isRead_of_objectUrl hbase host hhost) (by decide) (by decide) (by decide)
  rw [mergeSort_paramLe (by rw [names_signatureParams]; exact hnames)] at hr
  have hparams : r.params = c.signatureParams p r.headers ++ p.params := by rw [hr]
  have hnil : r.params ≠ [] := by rw [hparams]; simp [signatureParams]
  have hquery := shownQuery_signed hplain hhost hmarks hnil c.secretAccessKey c.region p.time.basicText
  have hshownHost (query : Option (List Char)) :
      Url.shownHost (base.setQuery query).write = host.write ++ base.portText :=
    Url.shownHost_write (Url.isPlain_setQuery hplain _) hhost hat
  have hblank : ∀ c ∈ host.write ++ base.portText, isBlank c = false := fun c hc =>
    (List.mem_append.1 hc).elim (Host.isBlank_of_isRead (isRead_of_objectUrl hbase host hhost) c)
      (Url.forall_mem_portText (P := fun c => isBlank c = false) (by decide) (by decide) base c)
  refine ⟨r, hcanonical, by rw [hr], ?_, hparams, ?_, ?_, by rw [Url.shownParams, hquery, CanonicalRequest.parse_queryOf]⟩
  · rw [Url.shownPath_write (Url.isPlain_setQuery hplain _) hhost hmarks, hr]
    rfl
  · rw [hshownHost, hr]
  · rw [hshownHost]
    exact hblank

end Credentials

namespace StorageSigner

variable {s : StorageSigner} {e : Exchange} {r : Request} {u : SignedUrl}

/-- The parameters that are signed have names in order, of which none is escaped and none is the signature's. -/
theorem names_in_order (isAcl : Bool) :
    (Credentials.signatureNames ++ (if isAcl then [("acl", "")] else []).map Prod.fst).Pairwise (· < ·) ∧
      ∀ name ∈ Credentials.signatureNames ++ (if isAcl then [("acl", "")] else []).map Prod.fst,
        name ≠ signatureParam ∧ String.ofList (CanonicalRequest.encode name) = name := by
  revert isAcl
  decide

/-- The canonical request that is signed for a request of an exchange. -/
def canonical (s : StorageSigner) (e : Exchange) (r : Request) : Except SigningError CanonicalRequest := do
  s.credentials.canonicalFor (← s.presignFor e r)

/-- **The URL that is signed for a request shows its canonical request.** -/
theorem shown_of_signedUrl (h : s.signedUrl e r = .ok u) : ∃ p c, s.presignFor e r = .ok p ∧ s.canonical e r = .ok c ∧
    s.credentials.Shown p u.url.toList c := by
  obtain ⟨p, hp, h⟩ := Traversal.exists_of_bind_eq_ok h
  obtain ⟨url, hurl, h⟩ := Traversal.exists_of_bind_eq_ok h
  cases h
  have hnames : (Credentials.signatureNames ++ p.params.map Prod.fst).Pairwise (· < ·) := by
    obtain ⟨headers, expires, _, rfl⟩ := presignFor_eq_ok hp
    exact (names_in_order r.action.isAcl).1
  obtain ⟨c, hc, hshown⟩ := Credentials.shown_of_presign hurl hnames
  refine ⟨p, c, hp, ?_, ?_⟩
  · show (s.presignFor e r >>= s.credentials.canonicalFor) = .ok c
    rw [hp]
    exact hc
  · show s.credentials.Shown p (String.ofList url.write).toList c
    rwa [String.toList_ofList]

/-- The metadata of a request that is signed is what was signed, or its own where none is. -/
theorem metadata_amend (h : s.signedUrl e r = .ok u) :
    (u.amend r).metadata = (signedMetadata? e r).getD r.metadata := by
  obtain ⟨p, _, h⟩ := Traversal.exists_of_bind_eq_ok h
  obtain ⟨url, _, h⟩ := Traversal.exists_of_bind_eq_ok h
  cases h
  show ((signedMetadata? e r).filter _).getD r.metadata = _
  cases signedMetadata? e r with
  | none => rfl
  | some metadata => by_cases hsame : metadata = r.metadata <;> simp [Option.filter_some, hsame]

theorem metadata_amend_of_signedUrl (h : s.signedUrl e r = .ok u) {metadata : Fields}
    (hmetadata : signedMetadata? e r = some metadata) : (u.amend r).metadata = metadata := by
  rw [metadata_amend h, hmetadata]
  rfl

end StorageSigner
end StorageGate
