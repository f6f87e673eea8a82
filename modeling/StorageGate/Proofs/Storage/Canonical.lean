import StorageGate.Proofs.Storage.Presigned
import StorageGate.Proofs.Text.Joined
/-!
# What a signature is good for

A signature is of the canonical text, into which the names and values of metadata are written as they are.  The text is
still good for one request only (`canonical_text_inj`).  Method, path and query hold no line break, so they can be cut off
in front.  The query names the headers, so the names can be cut off behind.  What is left are the lines of the headers: if
they are those of headers that can be sent, they are those of no others.
-/
namespace StorageGate

/-- A header that can be sent: the marks of lists of headers are not in its name, and its value is on one line. -/
def Sendable (header : String × String) : Prop :=
  ('\n' ∉ header.1.toList ∧ ':' ∉ header.1.toList ∧ ';' ∉ header.1.toList) ∧ '\n' ∉ header.2.toList

instance : DecidablePred Sendable := fun _ => inferInstanceAs (Decidable (_ ∧ _))

theorem mem_of_mem_trimBlank {text : List Char} {c : Char} (h : c ∈ trimBlank text) : c ∈ text := by
  have hdrop {l : List Char} (h : c ∈ l.dropWhile isBlank) : c ∈ l := (List.dropWhile_sublist isBlank).subset h
  exact hdrop (List.mem_reverse.1 (hdrop (List.mem_reverse.1 h)))

namespace CanonicalRequest

/-- The headers, white space around their values taken off. -/
def trimmed (r : CanonicalRequest) : List (String × List Char) := r.headers.map fun h => (h.1, trimBlank h.2.toList)

/-- The headers as they are joined. -/
def fields (r : CanonicalRequest) : List (List Char × List Char) := r.trimmed.map fun h => (h.1.toList, h.2)

theorem namesOf_eq (r : CanonicalRequest) : namesOf r.headers = [';'].intercalate (r.fields.map Prod.fst) := by
  rw [fields, trimmed, List.map_map, List.map_map]
  rfl

theorem linesOf_eq (r : CanonicalRequest) : linesOf r.headers = ['\n'].intercalate (r.fields.map (fieldLine ':')) := by
  rw [fields, trimmed, List.map_map, List.map_map]
  rfl

theorem text_eq (r : CanonicalRequest) : r.text = r.method.toList ++ '\n' :: (r.path ++ '\n' :: (r.query ++ '\n' ::
    (linesOf r.headers ++ '\n' :: '\n' :: (namesOf r.headers ++ "\nUNSIGNED-PAYLOAD".toList)))) := by
  simp only [text, List.append_assoc, List.cons_append]

theorem queryOf_inj {params params' : List (String × String)} (h : queryOf params = queryOf params') :
    params = params' := by
  rw [← parse_queryOf params, h, parse_queryOf]

/-- White space around the values of headers is not signed. -/
theorem text_congr {r r' : CanonicalRequest} (hmethod : r.method = r'.method) (hpath : r.path = r'.path)
    (hparams : r.params = r'.params) (htrimmed : r.trimmed = r'.trimmed) : r.text = r'.text := by
  have hlines : linesOf r.headers = linesOf r'.headers := by
    rw [linesOf_eq, linesOf_eq, fields, fields, htrimmed]
  have hnames : namesOf r.headers = namesOf r'.headers := by
    rw [namesOf_eq, namesOf_eq, fields, fields, htrimmed]
  rw [text, text, hmethod, hpath, query, query, hparams, hlines, hnames]

/-- **Headers that can be sent are told by their names and their lines.** -/
theorem trimmed_eq_of_lines {r r' : CanonicalRequest} (hr : r.headers ≠ []) (hr' : r'.headers ≠ [])
    (hsendable : ∀ h ∈ r'.headers, Sendable h) (hnames : namesOf r.headers = namesOf r'.headers)
    (hlines : linesOf r.headers = linesOf r'.headers) : r.trimmed = r'.trimmed := by
  have hclean : ∀ b ∈ r'.fields, ('\n' ∉ b.1 ∧ ':' ∉ b.1 ∧ ';' ∉ b.1) ∧ '\n' ∉ b.2 := by
    intro b hb
    rw [fields, trimmed, List.map_map] at hb
    obtain ⟨h, hh, rfl⟩ := List.mem_map.1 hb
    exact ⟨(hsendable h hh).1, fun hvalue => (hsendable h hh).2 (mem_of_mem_trimBlank hvalue)⟩
  have hfields : r.fields = r'.fields := by
    refine eq_of_joined (by decide) (by decide) ?_ ?_ hclean ?_ ?_
    · simpa [fields, trimmed] using hr
    · simpa [fields, trimmed] using hr'
    · rw [← namesOf_eq, hnames, namesOf_eq]
    · rw [← linesOf_eq, hlines, linesOf_eq]
  have hread (r : CanonicalRequest) : r.fields.map (fun h => (String.ofList h.1, h.2)) = r.trimmed := by
    rw [fields, List.map_map]
    refine (List.map_congr_left fun h _ => ?_).trans (List.map_id' _)
    exact congrArg (·, h.2) String.ofList_toList
  rw [← hread r, ← hread r', hfields]

end CanonicalRequest

namespace Credentials

variable {c c' : Credentials} {p p' : Presign} {text text' : List Char} {r r' : CanonicalRequest}

namespace Shown

theorem mem_headers_iff (h : c.Shown p text r) {header : String × String} :
    header ∈ r.headers ↔ header = ("host", String.ofList (Url.shownHost text)) ∨ header ∈ p.headers := by
  rw [h.headers, (List.mergeSort_perm _ _).mem_iff, List.mem_cons]

theorem headers_ne_nil (h : c.Shown p text r) : r.headers ≠ [] :=
  List.ne_nil_of_mem (h.mem_headers_iff.2 (.inl rfl))

theorem names_eq (h : c.Shown p text r) (h' : c'.Shown p' text' r') (hparams : r.params = r'.params) :
    CanonicalRequest.namesOf r.headers = CanonicalRequest.namesOf r'.headers ∧ p.params = p'.params := by
  rw [h.params, h'.params] at hparams
  obtain ⟨hsignature, hown⟩ := List.append_inj hparams rfl
  have hnames := congrArg (List.lookup "X-Amz-SignedHeaders") hsignature
  have hlookup (c : Credentials) (p : Presign) (headers : List (String × String)) :
      (c.signatureParams p headers).lookup "X-Amz-SignedHeaders"
        = some (String.ofList (CanonicalRequest.namesOf headers)) := rfl
  rw [hlookup, hlookup] at hnames
  exact ⟨String.ofList_injective (Option.some.inj hnames), hown⟩

theorem host_eq (h : c.Shown p text r) (h' : c'.Shown p' text' r') (hhost : ∀ header ∈ p'.headers, header.1 ≠ "host")
    (htrimmed : r.trimmed = r'.trimmed) : Url.shownHost text = Url.shownHost text' := by
  have hmem : ("host", trimBlank (String.ofList (Url.shownHost text)).toList) ∈ r'.trimmed := by
    rw [← htrimmed]
    exact List.mem_map.2 ⟨_, h.mem_headers_iff.2 (.inl rfl), rfl⟩
  obtain ⟨header, hheader, heq⟩ := List.mem_map.1 hmem
  obtain ⟨hname, hvalue⟩ := Prod.mk.injEq .. ▸ heq
  rcases h'.mem_headers_iff.1 hheader with rfl | hheader
  · rw [String.toList_ofList, String.toList_ofList, trimBlank_eq_self h.host, trimBlank_eq_self h'.host] at hvalue
    exact hvalue.symm
  · exact absurd hname (hhost header hheader)

end Shown

end Credentials

namespace StorageSigner

variable {s s' : StorageSigner} {e e' : Exchange} {r r' : Request} {u u' : SignedUrl}

theorem newline_not_mem_shownPath (h : s.signedUrl e r = .ok u) : '\n' ∉ Url.shownPath u.url.toList := by
  rw [shownPath_signedUrl h]
  intro hmem
  obtain ⟨segment, _, hsegment⟩ := List.mem_flatMap.1 hmem
  rcases List.mem_cons.1 hsegment with hslash | hsegment
  · exact absurd hslash (by decide)
  · have hkept := Path.forall_mem_encodeSegment (P := fun c => c != '\n') (by decide +kernel) segment _ hsegment
    exact absurd hkept (by decide)

theorem newline_not_mem_method (action : Action) : '\n' ∉ action.method.toList := by
  cases action <;> decide

theorem ne_host_of_signedHeaders {headers : List (String × String)} (h : signedHeaders e r = .ok headers) :
    ∀ header ∈ headers, header.1 ≠ "host" := by
  unfold signedHeaders at h
  split at h
  · obtain ⟨rfl, -⟩ := metadataHeaders_eq_ok_iff.1 h
    intro header hheader hhost
    obtain ⟨field, _, rfl⟩ := List.mem_map.1 hheader
    have hprefix := prefix_metadataHeaderName field.1
    have hname : metadataHeaderName field.1 = "host" := hhost
    rw [hname] at hprefix
    exact absurd hprefix (by decide)
  · cases h
    exact fun header hheader => nomatch hheader

/-- **What is signed determines the operation.**  Two requests are signed, by any signers and in any exchanges, and the
headers of the second are such that they can be sent.  If the texts are equal that are signed for the two, so are their
methods, whether they are on the access list, the host and the path of their URLs, and their headers, in order and up to
white space around the values. -/
theorem canonical_text_inj (h : s.signedUrl e r = .ok u) (h' : s'.signedUrl e' r' = .ok u') :
    ∃ c c', s.canonical e r = .ok c ∧ s'.canonical e' r' = .ok c' ∧
      ((∀ header ∈ c'.headers, Sendable header) → c.text = c'.text →
        r.action.method = r'.action.method ∧ r.action.isAcl = r'.action.isAcl ∧
        Url.shownHost u.url.toList = Url.shownHost u'.url.toList ∧
        Url.shownPath u.url.toList = Url.shownPath u'.url.toList ∧ c.trimmed = c'.trimmed) := by
  obtain ⟨p, c, hp, hc, hshown⟩ := shown_of_signedUrl h
  obtain ⟨p', c', hp', hc', hshown'⟩ := shown_of_signedUrl h'
  refine ⟨c, c', hc, hc', fun hsendable htext => ?_⟩
  obtain ⟨headers, expires, hheaders, rfl⟩ := presignFor_eq_ok hp
  obtain ⟨headers', expires', hheaders', rfl⟩ := presignFor_eq_ok hp'
  -- Method, path and query are cut off in front, one after another.
  have hmethod : c.method = r.action.method := hshown.method
  have hmethod' : c'.method = r'.action.method := hshown'.method
  rw [CanonicalRequest.text_eq, CanonicalRequest.text_eq, hmethod, hmethod', hshown.path, hshown'.path] at htext
  obtain ⟨hmethods, htext⟩ := append_cons_inj (newline_not_mem_method _) (newline_not_mem_method _) htext
  obtain ⟨hpaths, htext⟩ := append_cons_inj (newline_not_mem_shownPath h) (newline_not_mem_shownPath h') htext
  have hquery (c : CanonicalRequest) : '\n' ∉ c.query := CanonicalRequest.not_mem_queryOf (by decide) (by decide) _
  obtain ⟨hqueries, htext⟩ := append_cons_inj (hquery c) (hquery c') htext
  -- The query tells the names of the headers, so they can be cut off behind.
  obtain ⟨hnames, hown⟩ := hshown.names_eq hshown' (CanonicalRequest.queryOf_inj hqueries)
  rw [hnames] at htext
  have hlines := List.append_cancel_right htext
  have htrimmed := CanonicalRequest.trimmed_eq_of_lines hshown.headers_ne_nil hshown'.headers_ne_nil hsendable hnames hlines
  have hacl : r.action.isAcl = r'.action.isAcl := by
    have hmarkers : (if r.action.isAcl then [("acl", "")] else []) = (if r'.action.isAcl then [("acl", "")] else []) := hown
    revert hmarkers
    cases r.action.isAcl <;> cases r'.action.isAcl <;> simp
  have hhosts := hshown.host_eq hshown' (ne_host_of_signedHeaders hheaders') htrimmed
  exact ⟨String.toList_injective hmethods, hacl, hhosts, hpaths, htrimmed⟩

/-- An upload with white space around a value, and one without: the text that is signed is the same for both. -/
theorem canonical_text_inj_spaced :
    let s : StorageSigner := { credentials := .test }
    let e : Exchange := { message := {}, moment := default }
    let spaced : Request := { action := .put, key := "a b", metadata := .ofList [("Note", " x ")] }
    let plain : Request := { action := .put, key := "a b", metadata := .ofList [("note", "x")] }
    ∃ c c', s.canonical e spaced = .ok c ∧ s.canonical e plain = .ok c' ∧ c.headers ≠ c'.headers ∧
      (∀ header ∈ c'.headers, Sendable header) ∧ c.text = c'.text ∧ c.trimmed = c'.trimmed := by
  intro s e spaced plain
  obtain ⟨u, hu⟩ : ∃ u, s.signedUrl e spaced = .ok u := Traversal.exists_of_isSome_toOption (by decide +kernel)
  obtain ⟨u', hu'⟩ : ∃ u, s.signedUrl e plain = .ok u := Traversal.exists_of_isSome_toOption (by decide +kernel)
  obtain ⟨c, c', hc, hc', hinj⟩ := canonical_text_inj hu hu'
  let upload (value : String) : Presign :=
    { method := "PUT", bucket := some "uploads", key := "a b", headers := [("x-amz-meta-note", value)]
      time := e.moment.now, expires := 300 }
  have hpresign : s.presignFor e spaced = .ok (upload " x ") := Traversal.eq_ok_of_toOption (by decide +kernel)
  have hpresign' : s.presignFor e plain = .ok (upload "x") := Traversal.eq_ok_of_toOption (by decide +kernel)
  obtain ⟨url, hurl⟩ : ∃ url, s.credentials.objectUrl "uploads" "a b" = .ok url :=
    Traversal.exists_of_isSome_toOption (by decide +kernel)
  have hhost : hostHeader url = .ok "uploads.s3.test" := by
    have h : (s.credentials.objectUrl "uploads" "a b" >>= hostHeader) = .ok "uploads.s3.test" :=
      Traversal.eq_ok_of_toOption (by decide +kernel)
    rwa [hurl] at h
  -- The two differ in nothing but the value of their header.
  let signed (value : String) : CanonicalRequest :=
    { method := "PUT"
      path := url.pathText
      params := (s.credentials.signatureParams (upload "x") [("host", ""), ("x-amz-meta-note", "")]).mergeSort paramLe
      headers := [("host", "uploads.s3.test"), ("x-amz-meta-note", value)] }
  have hform (value : String) : s.credentials.canonicalFor (upload value) = .ok (signed value) := by
    have hsort : [("host", "uploads.s3.test"), ("x-amz-meta-note", value)].mergeSort headerLe
        = [("host", "uploads.s3.test"), ("x-amz-meta-note", value)] :=
      List.mergeSort_of_pairwise (List.pairwise_pair.2 (show (!("x-amz-meta-note" < "host" : Bool)) = true by decide))
    rw [Credentials.canonicalFor_of_host (p := upload value) hurl hhost]
    show Except.ok (CanonicalRequest.mk _ _ _
      ([("host", "uploads.s3.test"), ("x-amz-meta-note", value)].mergeSort headerLe)) = _
    rw [hsort]
    rfl
  have hread {value : String} {r : Request} {c : CanonicalRequest} (hp : s.presignFor e r = .ok (upload value))
      (hc : s.canonical e r = .ok c) : c = signed value := by
    have h : (s.presignFor e r >>= s.credentials.canonicalFor) = .ok c := hc
    rw [hp] at h
    exact Except.ok.inj (h.symm.trans (hform value))
  cases hread hpresign hc
  cases hread hpresign' hc'
  have hsendable : ∀ header ∈ (signed "x").headers, Sendable header := by
    show ∀ header ∈ [("host", "uploads.s3.test"), ("x-amz-meta-note", "x")], Sendable header
    decide
  have htext : (signed " x ").text = (signed "x").text := CanonicalRequest.text_congr rfl rfl rfl (by
    show [("host", "uploads.s3.test"), ("x-amz-meta-note", " x ")].map _
      = [("host", "uploads.s3.test"), ("x-amz-meta-note", "x")].map fun h => (h.1, trimBlank h.2.toList)
    decide)
  exact ⟨_, _, hc, hc', by show [_, _] ≠ [_, _]; decide, hsendable, htext, (hinj hsendable htext).2.2.2.2⟩

end StorageSigner
end StorageGate
