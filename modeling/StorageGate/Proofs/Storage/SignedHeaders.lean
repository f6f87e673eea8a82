import StorageGate.Proofs.Storage.Canonical
/-!
# The headers that are signed

Metadata becomes headers one to one or not at all (`signed_headers_of_metadata`).  Their names are in lower case and all begin
like those of the service, so the host stands before them when the headers are put in order, and the URL of an upload or of a
change of access rights names the host and then the headers of its metadata, each once.
-/
namespace StorageGate

/-! ## Headers of metadata -/

theorem exists_metadataHeaders_iff {metadata : Fields} : (∃ headers, metadataHeaders metadata = .ok headers) ↔
    ∀ f ∈ metadata.toList, ∀ g ∈ metadata.toList, metadataHeaderName f.1 = metadataHeaderName g.1 → f.1 = g.1 := by
  constructor
  · rintro ⟨headers, h⟩ f hf g hg hname
    obtain ⟨rfl, hdistinct⟩ := metadataHeaders_eq_ok_iff.1 h
    rw [List.map_map] at hdistinct
    exact congrArg Prod.fst (List.inj_on_of_nodup_map hdistinct hf hg hname)
  · intro h
    refine ⟨_, metadataHeaders_eq_ok_iff.2 ⟨rfl, ?_⟩⟩
    rw [List.map_map]
    exact metadata.nodup_entries.map_on fun f hf g hg hname => Fields.eq_of_name_eq hf hg (h f hf g hg hname)

theorem isUpper_toLower (c : Char) : c.toLower.isUpper = false := by
  by_cases hupper : c.val ≥ 'A'.val ∧ c.val ≤ 'Z'.val
  · have hz : c.val.toNat ≤ 'Z'.val.toNat := UInt32.le_iff_toNat_le.1 hupper.2
    have hascii : c.toNat < 0x80 := Nat.lt_of_le_of_lt hz (by decide)
    exact Utf8.forall_ascii (P := fun c => c.toLower.isUpper = false) (by decide +kernel) hascii
  · have hsame : c.toLower = c := dif_neg hupper
    rw [hsame]
    exact decide_eq_false hupper

theorem isUpper_of_mem_metadataHeaderName {name : String} : ∀ c ∈ (metadataHeaderName name).toList, c.isUpper = false := by
  intro c hc
  rw [← lower_metadataHeaderName, String.toList_ofList] at hc
  obtain ⟨d, -, rfl⟩ := List.mem_map.1 hc
  exact isUpper_toLower d

theorem host_lt_metadataHeaderName (name : String) : "host" < metadataHeaderName name := by
  obtain ⟨rest, hname⟩ := prefix_metadataHeaderName name
  rw [String.lt_iff, ← hname]
  exact List.Lex.rel (by decide)

/-! ## Headers in order -/

theorem headerLe_iff {a b : String × String} : headerLe a b = true ↔ a.1 ≤ b.1 := by
  rw [headerLe, Bool.not_eq_true', decide_eq_false_iff_not, String.not_lt]

theorem eq_of_perm_of_ascending {names names' : List String} (h : names.Perm names') (hnames : names.Pairwise (· < ·))
    (hnames' : names'.Pairwise (· < ·)) : names = names' :=
  h.eq_of_pairwise (fun _ _ _ _ hab hba => absurd hba (String.lt_asymm hab)) hnames hnames'

theorem names_mergeSort_headerLe {headers : List (String × String)} (h : (headers.map Prod.fst).Nodup) :
    ((headers.mergeSort headerLe).map Prod.fst).Pairwise (· < ·) := by
  have hsorted : (headers.mergeSort headerLe).Pairwise (headerLe · ·) := by
    apply List.pairwise_mergeSort
    · intro a b c hab hbc
      exact headerLe_iff.2 (String.le_trans (headerLe_iff.1 hab) (headerLe_iff.1 hbc))
    · intro a b
      rw [Bool.or_eq_true, headerLe_iff, headerLe_iff]
      exact String.le_total a.1 b.1
  have hle : ((headers.mergeSort headerLe).map Prod.fst).Pairwise (· ≤ ·) :=
    List.pairwise_map.2 (hsorted.imp headerLe_iff.1)
  have hdistinct : ((headers.mergeSort headerLe).map Prod.fst).Nodup :=
    ((List.mergeSort_perm headers headerLe).map Prod.fst).nodup_iff.2 h
  refine (hle.and hdistinct).imp fun {a b} ⟨hab, hne⟩ => ?_
  exact String.not_le.1 fun hba => hne (String.le_antisymm hab hba)

/-- Headers are put in order by names in strict order in one way. -/
theorem mergeSort_headerLe_of_perm {headers sorted : List (String × String)} (h : headers.Perm sorted)
    (hsorted : (sorted.map Prod.fst).Pairwise (· < ·)) : headers.mergeSort headerLe = sorted := by
  have hdistinct : (headers.map Prod.fst).Nodup := (h.map Prod.fst).nodup_iff.2 (hsorted.imp String.ne_of_lt)
  have hascending := List.pairwise_map.1 (names_mergeSort_headerLe hdistinct)
  exact ((List.mergeSort_perm headers headerLe).trans h).eq_of_pairwise
    (fun _ _ _ _ hab hba => absurd hba (String.lt_asymm hab)) hascending (List.pairwise_map.1 hsorted)

/-- A host that comes before all other headers is named first. -/
theorem names_mergeSort_host {headers : List (String × String)} (host : String)
    (hlater : ∀ h ∈ headers, "host" < h.1) (hdistinct : (headers.map Prod.fst).Nodup) :
    ((("host", host) :: headers).mergeSort headerLe).map Prod.fst
      = "host" :: (headers.mergeSort headerLe).map Prod.fst := by
  have hnames := (List.mergeSort_perm headers headerLe).map Prod.fst
  have hfirst : ∀ name ∈ headers.map Prod.fst, "host" < name := List.forall_mem_map.2 hlater
  have hnew : "host" ∉ headers.map Prod.fst := fun h => String.lt_irrefl _ (hfirst _ h)
  have hall : (((("host", host) :: headers).mergeSort headerLe).map Prod.fst).Pairwise (· < ·) :=
    names_mergeSort_headerLe (List.nodup_cons.2 ⟨hnew, hdistinct⟩)
  have hrest : ("host" :: (headers.mergeSort headerLe).map Prod.fst).Pairwise (· < ·) :=
    List.pairwise_cons.2 ⟨fun name h => hfirst name (hnames.mem_iff.1 h), names_mergeSort_headerLe hdistinct⟩
  have hperm := ((List.mergeSort_perm (("host", host) :: headers) headerLe).map Prod.fst).trans (hnames.symm.cons "host")
  exact eq_of_perm_of_ascending hperm hall hrest

theorem ofList_namesOf (headers : List (String × String)) :
    String.ofList (CanonicalRequest.namesOf headers) = ";".intercalate (headers.map Prod.fst) := by
  apply String.toList_injective
  rw [String.toList_ofList, String.toList_intercalate, List.map_map]
  rfl

namespace StorageSigner

variable {s : StorageSigner} {e : Exchange} {r : Request} {u : SignedUrl}

/-- **The headers that a signed URL names**, if metadata is signed. -/
theorem lookup_signedHeaders (h : s.signedUrl e r = .ok u) {metadata : Fields}
    (hmetadata : signedMetadata? e r = some metadata) :
    ∃ names : List String, names.Perm (metadata.toList.map fun f => metadataHeaderName f.1) ∧ names.Pairwise (· < ·) ∧
      (Url.shownParams u.url.toList).lookup "X-Amz-SignedHeaders" = some (";".intercalate ("host" :: names)) := by
  obtain ⟨p, c, hp, -, hshown⟩ := shown_of_signedUrl h
  obtain ⟨headers, expires, hheaders, rfl⟩ := presignFor_eq_ok hp
  rw [signedHeaders, hmetadata] at hheaders
  obtain ⟨rfl, hdistinct⟩ := metadataHeaders_eq_ok_iff.1 hheaders
  have hlater : ∀ h ∈ metadata.toList.map metadataHeader, "host" < h.1 :=
    List.forall_mem_map.2 fun f _ => host_lt_metadataHeaderName f.1
  refine ⟨_, ?_, names_mergeSort_headerLe hdistinct, ?_⟩
  · have hperm := (List.mergeSort_perm (metadata.toList.map metadataHeader) headerLe).map Prod.fst
    rwa [List.map_map] at hperm
  · rw [hshown.signature, hshown.params]
    show some (String.ofList (CanonicalRequest.namesOf c.headers)) = _
    rw [ofList_namesOf, hshown.headers, names_mergeSort_host _ hlater hdistinct]

/-- **Metadata becomes headers one to one or not at all**: one for each name in order, with its value, unless two names make the
same.  So the URL that is signed for an upload or a change of access rights names the host and then, in strict order, the
headers of the metadata that is signed; that of an upload has the transaction id. -/
theorem signed_headers_of_metadata (metadata : Fields) :
    ((∃ headers, metadataHeaders metadata = .ok headers) ↔ ∀ f ∈ metadata.toList, ∀ g ∈ metadata.toList,
      metadataHeaderName f.1 = metadataHeaderName g.1 → f.1 = g.1) ∧
    (∀ headers, metadataHeaders metadata = .ok headers →
      headers = metadata.toList.map (fun f => (metadataHeaderName f.1, f.2)) ∧ (headers.map Prod.fst).Nodup ∧
      ∀ h ∈ headers, (∀ c ∈ h.1.toList, c.isUpper = false) ∧ "x-amz-".toList <+: h.1.toList) ∧
    ∀ (s : StorageSigner) (e : Exchange) (r : Request) (u : SignedUrl),
      s.signedUrl e r = .ok u → r.action = .put ∨ r.action = .writeAcl → ∃ signed names,
        signedMetadata? e r = some signed ∧
        (r.action = .put → ∀ id, e.transactionId? = some id → signed.get? transactionIdMetadata = some id) ∧
        List.Perm names (signed.toList.map fun f => metadataHeaderName f.1) ∧ names.Pairwise (· < ·) ∧
        (Url.shownParams u.url.toList).lookup "X-Amz-SignedHeaders" = some (";".intercalate ("host" :: names)) := by
  refine ⟨exists_metadataHeaders_iff, fun headers h => ?_, fun s e r u h haction => ?_⟩
  · obtain ⟨rfl, hdistinct⟩ := metadataHeaders_eq_ok_iff.1 h
    refine ⟨rfl, hdistinct, List.forall_mem_map.2 fun f _ => ?_⟩
    exact ⟨isUpper_of_mem_metadataHeaderName, prefix_metadataHeaderName f.1⟩
  · obtain ⟨signed, hsigned⟩ : ∃ signed, signedMetadata? e r = some signed := by
      rcases haction with haction | haction <;> rw [signedMetadata?, haction] <;> exact ⟨_, rfl⟩
    obtain ⟨names, hnames⟩ := lookup_signedHeaders h hsigned
    refine ⟨signed, names, hsigned, fun hput id hid => ?_, hnames⟩
    rw [signedMetadata?, hput, hid] at hsigned
    cases hsigned
    exact Fields.get?_insert_self r.metadata _ id

/-- Names that collide only with the mark of metadata in front, and an upload whose headers are not in the order of its names. -/
theorem signed_headers_of_metadata_upload :
    let colliding : Fields := .ofList [("Note", "x"), ("x-amz-meta-note", "y")]
    let metadata : Fields := .ofList [("Zone", "z"), ("X-Amz-Acl", "private")]
    let s : StorageSigner := { credentials := .test }
    let e : Exchange := { message := { properties := .ofList [("transactionId", "t")] }, moment := default }
    let upload : Request := { action := .put, key := "a", metadata }
    (¬ ∃ headers, metadataHeaders colliding = .ok headers) ∧ (∃ headers, metadataHeaders metadata = .ok headers) ∧
    ∃ u, s.signedUrl e upload = .ok u ∧ (Url.shownParams u.url.toList).lookup "X-Amz-SignedHeaders"
      = some "host;x-amz-acl;x-amz-meta-gatekeeper-transaction-id;x-amz-meta-zone" := by
  intro colliding metadata s e upload
  obtain ⟨u, hu⟩ : ∃ u, s.signedUrl e upload = .ok u := Traversal.exists_of_isSome_toOption (by decide +kernel)
  refine ⟨fun h => ?_, (signed_headers_of_metadata metadata).1.2 (by decide), u, hu, ?_⟩
  · have hcollision := (signed_headers_of_metadata colliding).1.1 h
    exact absurd hcollision (by decide)
  · obtain ⟨signed, names, hsigned, -, hperm, hascending, hlookup⟩ :=
      (signed_headers_of_metadata metadata).2.2 s e upload u hu (.inl rfl)
    have hexpected : names = ["x-amz-acl", "x-amz-meta-gatekeeper-transaction-id", "x-amz-meta-zone"] := by
      have hgiven : (signed.toList.map fun f => metadataHeaderName f.1)
          = ["x-amz-acl", "x-amz-meta-zone", "x-amz-meta-gatekeeper-transaction-id"] := by
        rw [← Option.some.inj hsigned]
        decide
      exact eq_of_perm_of_ascending (hperm.trans (hgiven ▸ by decide)) hascending (by decide)
    rw [hlookup, hexpected]
    decide

end StorageSigner
end StorageGate
