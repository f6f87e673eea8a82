import StorageGate.Proofs.Document.RoundTrip
/-!
# Nothing is lost in reading

A message that was read from a document is written as that document, up to the order of pairs (`pairs_toDocument_perm`).
Two things are not kept as they were given: a listing flag that is not set is left out, and a size is written in canonical
form.  Both documents name every place once, so it is enough that they say the same at each place; this holds place by
place, since the entries of what was read under a number are those it was read from (`mem_requestEntries_iff`,
`mem_objectEntries_iff`).
-/
namespace StorageGate

/-- A pair as it is written again: a size in canonical form, any other as it is. -/
def Document.canonicalPair (p : String × String) : String × String :=
  match Slot.ofKey p.1 with
  | .ok (.object _ .size) => (p.1, String.ofList (Numeral.canonicalForm p.2.toList))
  | _ => p

namespace Message

/-! ## Entries of what was read -/

/-- **The entries of a request that was read are those it was read from.** -/
theorem mem_requestEntries_iff {index : Nat} {entries : List (RequestField × String)} {r : Request}
    (hr : readRequest index entries = .ok r) (h : entries.Pairwise fun f g => f.1 ≠ g.1) {f : RequestField}
    {value : String} : (f, value) ∈ requestEntries r ↔ (f, value) ∈ entries := by
  obtain ⟨haction, hkey, hbucket, hmetadata, hurl, hreason⟩ := readRequest_eq_ok_iff.1 hr
  by_cases hf : ∃ name, f = .metadata name
  · obtain ⟨name, rfl⟩ := hf
    rw [← mem_filterMap_metadataAt, filterMap_requestEntries, hmetadata,
      Fields.mem_ofList (pairwise_filterMap_metadataAt h), mem_filterMap_metadataAt]
  · rw [not_exists] at hf
    rw [← Fields.lookup_eq_some_iff (pairwise_requestEntries r), ← Fields.lookup_eq_some_iff h, lookup_requestEntries hf]
    cases f with
    | action => rw [haction]
    | key => rw [hkey]
    | bucket => rw [hbucket]
    | metadata name => exact absurd rfl (hf name)
    | signedUrl => rw [hurl]
    | declineReason => rw [hreason]

section ObjectEntries

variable {index : Nat} {entries : List (ObjectField × String)} {o : ListedObject}

/-- **So are those of a listed object**, its size apart. -/
theorem mem_objectEntries_iff (ho : readObject index entries = .ok o) (h : entries.Pairwise fun f g => f.1 ≠ g.1)
    {f : ObjectField} (hf : f ≠ .size) {value : String} : (f, value) ∈ objectEntries o ↔ (f, value) ∈ entries := by
  obtain ⟨hkey, -, htime, hetag⟩ := readObject_eq_ok_iff.1 ho
  rw [← Fields.lookup_eq_some_iff (pairwise_objectEntries o), ← Fields.lookup_eq_some_iff h, lookup_objectEntries]
  cases f with
  | key => rw [hkey]
  | size => exact absurd rfl hf
  | lastModified => rw [htime]
  | etag => rw [hetag]

/-- A size is written in canonical form. -/
theorem mem_objectEntries_size_iff (ho : readObject index entries = .ok o) (h : entries.Pairwise fun f g => f.1 ≠ g.1)
    (hread : ∀ given, (.size, given) ∈ entries → (Slot.object index .size).admits given = true) {value : String} :
    (.size, value) ∈ objectEntries o ↔
      ∃ given, (.size, given) ∈ entries ∧ String.ofList (Numeral.canonicalForm given.toList) = value := by
  obtain ⟨-, hsize, -, -⟩ := readObject_eq_ok_iff.1 ho
  simp only [← Fields.lookup_eq_some_iff h] at hread ⊢
  rw [← Fields.lookup_eq_some_iff (pairwise_objectEntries o), lookup_objectEntries, ← hsize]
  cases hgiven : entries.lookup .size with
  | none => simp
  | some given =>
    obtain ⟨n, hn⟩ := Option.isSome_iff_exists.1 (hread given hgiven)
    have hlt := (Numeral.lenient?_eq_some_iff.1 hn).2.2.2
    have hnat : (UInt64.ofNat n).toNat = n := UInt64.toNat_ofNat_of_lt hlt
    simp [hn, hnat, Numeral.write_of_lenient? hn]

end ObjectEntries

/-! ## The places of what was read -/

/-- What is written again at a place, given what was read there. -/
def canonicalSlot (s : Slot × String) : Slot × String :=
  match s.1 with
  | .object _ .size => (s.1, String.ofList (Numeral.canonicalForm s.2.toList))
  | _ => s

/-- What is written again of what was read. -/
def kept (slots : List (Slot × String)) : List (Slot × String) :=
  (slots.filter (· ≠ (.listing, "false"))).map canonicalSlot

theorem canonicalSlot_fst (s : Slot × String) : (canonicalSlot s).1 = s.1 := by
  unfold canonicalSlot
  split <;> rfl

theorem canonicalSlot_of_ne {s : Slot × String} (h : ∀ index, s.1 ≠ .object index .size) : canonicalSlot s = s := by
  unfold canonicalSlot
  split
  · rename_i index hs
    exact absurd hs (h index)
  · rfl

theorem apart_kept {slots : List (Slot × String)} (h : Apart slots) : Apart (kept slots) := by
  refine List.pairwise_map.2 ((h.filter _).imp fun hne he => hne ?_)
  rw [canonicalSlot_fst, canonicalSlot_fst] at he
  exact he

theorem nodup_of_apart {slots : List (Slot × String)} (h : Apart slots) : slots.Nodup :=
  h.imp fun hne he => hne (congrArg Prod.fst he)

theorem mem_kept {slots : List (Slot × String)} {slot : Slot} {value : String}
    (h : ∀ index, slot ≠ .object index .size) :
    (slot, value) ∈ kept slots ↔ (slot, value) ∈ slots ∧ (slot, value) ≠ (.listing, "false") := by
  rw [kept, List.mem_map]
  constructor
  · rintro ⟨s, hs, he⟩
    have hslot : s.1 = slot := by rw [← canonicalSlot_fst, he]
    rw [canonicalSlot_of_ne (hslot ▸ h)] at he
    subst he
    obtain ⟨hmem, hne⟩ := List.mem_filter.1 hs
    exact ⟨hmem, of_decide_eq_true hne⟩
  · rintro ⟨hmem, hne⟩
    exact ⟨(slot, value), List.mem_filter.2 ⟨hmem, decide_eq_true hne⟩, canonicalSlot_of_ne h⟩

theorem mem_kept_size {slots : List (Slot × String)} {index : Nat} {value : String} :
    (.object index .size, value) ∈ kept slots ↔ ∃ given, (.object index .size, given) ∈ slots ∧
      String.ofList (Numeral.canonicalForm given.toList) = value := by
  rw [kept, List.mem_map]
  constructor
  · rintro ⟨⟨slot, given⟩, hs, he⟩
    have hslot : slot = .object index .size := (canonicalSlot_fst (slot, given)).symm.trans (congrArg Prod.fst he)
    subst hslot
    exact ⟨given, (List.mem_filter.1 hs).1, congrArg Prod.snd he⟩
  · rintro ⟨given, hs, rfl⟩
    exact ⟨_, List.mem_filter.2 ⟨hs, by simp⟩, rfl⟩

section Read

variable {slots : List (Slot × String)} {m : Message} (hm : ofSlots slots = .ok m) (hapart : Apart slots)
  (hread : ∀ s ∈ slots, Readable s)

include hm hapart

theorem mem_slots_application {name value : String} :
    (.application name, value) ∈ m.slots ↔ (.application name, value) ∈ slots := by
  obtain ⟨happlication, -, -⟩ := ofSlots_eq_ok_iff.1 hm
  rw [← mem_filterMap_applicationAt, slots_application, happlication,
    Fields.mem_ofList (pairwise_filterMap_applicationAt hapart), mem_filterMap_applicationAt]

theorem mem_slots_property {name value : String} :
    (.property name, value) ∈ m.slots ↔ (.property name, value) ∈ slots := by
  obtain ⟨-, hproperties, -⟩ := ofSlots_eq_ok_iff.1 hm
  rw [← mem_filterMap_propertyAt, slots_property, hproperties,
    Fields.mem_ofList (pairwise_filterMap_propertyAt hapart), mem_filterMap_propertyAt]

theorem mem_slots_request {index : Nat} {f : RequestField} {value : String} :
    (.request index f, value) ∈ m.slots ↔ (.request index f, value) ∈ slots := by
  obtain ⟨-, -, hbody⟩ := ofSlots_eq_ok_iff.1 hm
  rw [← mem_filterMap_requestAt, ← mem_filterMap_requestAt]
  rcases readBody_eq_ok_iff.1 hbody with ⟨-, hnone, objects, hobjects, -⟩ | ⟨-, -, requests, hrequests, hparts⟩
  · rw [slots_request_of_listing hobjects, hnone]
  · have hentries := pairwise_entriesUnder_requestAt hapart index
    rw [slots_request_of_signing hrequests, mem_numberedEntries]
    constructor
    · rintro ⟨r, hr, hf⟩
      have hread := (readNumbered_eq_ok_iff.1 hparts).2 index r hr
      exact mem_entriesUnder.1 ((mem_requestEntries_iff hread hentries).1 hf)
    · intro hf
      obtain ⟨r, hr, hread⟩ := exists_getElem?_of_mem hparts hf
      exact ⟨r, hr, (mem_requestEntries_iff hread hentries).2 (mem_entriesUnder.2 hf)⟩

theorem mem_slots_object {index : Nat} {f : ObjectField} (hf : f ≠ .size) {value : String} :
    (.object index f, value) ∈ m.slots ↔ (.object index f, value) ∈ slots := by
  obtain ⟨-, -, hbody⟩ := ofSlots_eq_ok_iff.1 hm
  rw [← mem_filterMap_objectAt, ← mem_filterMap_objectAt]
  rcases readBody_eq_ok_iff.1 hbody with ⟨-, -, objects, hobjects, hparts⟩ | ⟨-, hnone, requests, hrequests, -⟩
  · have hentries := pairwise_entriesUnder_objectAt hapart index
    rw [slots_object_of_listing hobjects, mem_numberedEntries]
    constructor
    · rintro ⟨o, ho, hmem⟩
      have hread := (readNumbered_eq_ok_iff.1 hparts).2 index o ho
      exact mem_entriesUnder.1 ((mem_objectEntries_iff hread hentries hf).1 hmem)
    · intro hmem
      obtain ⟨o, ho, hread⟩ := exists_getElem?_of_mem hparts hmem
      exact ⟨o, ho, (mem_objectEntries_iff hread hentries hf).2 (mem_entriesUnder.2 hmem)⟩
  · rw [slots_object_of_signing hrequests, hnone]

include hread

theorem mem_slots_size {index : Nat} {value : String} :
    (.object index .size, value) ∈ m.slots ↔ ∃ given, (.object index .size, given) ∈ slots ∧
      String.ofList (Numeral.canonicalForm given.toList) = value := by
  obtain ⟨-, -, hbody⟩ := ofSlots_eq_ok_iff.1 hm
  simp only [← mem_filterMap_objectAt]
  rcases readBody_eq_ok_iff.1 hbody with ⟨-, -, objects, hobjects, hparts⟩ | ⟨-, hnone, requests, hrequests, -⟩
  · have hentries := pairwise_entriesUnder_objectAt hapart index
    have hadmits : ∀ given, (.size, given) ∈ entriesUnder index (slots.filterMap objectAt) →
        (Slot.object index .size).admits given = true := fun given hgiven =>
      (hread _ (mem_filterMap_objectAt.1 (mem_entriesUnder.1 hgiven))).2
    rw [slots_object_of_listing hobjects, mem_numberedEntries]
    constructor
    · rintro ⟨o, ho, hmem⟩
      have hone := (readNumbered_eq_ok_iff.1 hparts).2 index o ho
      obtain ⟨given, hgiven, hvalue⟩ := (mem_objectEntries_size_iff hone hentries hadmits).1 hmem
      exact ⟨given, mem_entriesUnder.1 hgiven, hvalue⟩
    · rintro ⟨given, hgiven, hvalue⟩
      obtain ⟨o, ho, hone⟩ := exists_getElem?_of_mem hparts hgiven
      exact ⟨o, ho, (mem_objectEntries_size_iff hone hentries hadmits).2 ⟨given, mem_entriesUnder.2 hgiven, hvalue⟩⟩
  · rw [slots_object_of_signing hrequests, hnone]
    simp

theorem mem_slots_listing {value : String} :
    (.listing, value) ∈ m.slots ↔ (.listing, value) ∈ slots ∧ value ≠ "false" := by
  obtain ⟨-, -, hbody⟩ := ofSlots_eq_ok_iff.1 hm
  rw [← lookup_listing (apart_slots m), ← lookup_listing hapart]
  have hadmits : ∀ v, slots.lookup .listing = some v → v = "true" ∨ v = "false" := fun v hv => by
    simpa [Slot.admits] using (hread _ ((lookup_listing hapart).1 hv)).2
  rcases readBody_eq_ok_iff.1 hbody with ⟨hflag, -, objects, hobjects, -⟩ | ⟨hflag, -, requests, hrequests, -⟩
  · rw [flag_of_listing hobjects, hflag]
    simp only [Option.some.injEq, iff_self_and]
    rintro rfl
    decide
  · rw [flag_of_signing hrequests]
    constructor
    · intro h
      cases h
    · rintro ⟨hv, hne⟩
      rcases hadmits value hv with rfl | rfl
      · exact absurd hv hflag
      · exact absurd rfl hne

/-- **What was read is written again**, up to order. -/
theorem slots_perm_kept : m.slots.Perm (kept slots) := by
  -- No place stands twice on either side, so it is enough that both have the same places with the same values.
  refine (List.perm_ext_iff_of_nodup (nodup_of_apart (apart_slots m)) (nodup_of_apart (apart_kept hapart))).2 ?_
  rintro ⟨slot, value⟩
  cases slot with
  | listing =>
    rw [mem_slots_listing hm hapart hread, mem_kept (by simp)]
    simp
  | application name =>
    rw [mem_slots_application hm hapart, mem_kept (by simp)]
    simp
  | property name =>
    rw [mem_slots_property hm hapart, mem_kept (by simp)]
    simp
  | request index f =>
    rw [mem_slots_request hm hapart, mem_kept (by simp)]
    simp
  | object index f =>
    by_cases hf : f = .size
    · subst hf
      rw [mem_slots_size hm hapart hread, mem_kept_size]
    · rw [mem_slots_object hm hapart hf, mem_kept (by simp [hf])]
      simp

end Read

/-- The pairs of what is kept of places are those kept of their pairs. -/
theorem map_kept {slots : List (Slot × String)} (hread : ∀ s ∈ slots, Readable s) :
    (kept slots).map (fun s => (s.1.key, s.2)) = ((slots.map fun s => (s.1.key, s.2)).filter
      (· ≠ ("listObjectsInBucket", "false"))).map Document.canonicalPair := by
  have hfilter : ∀ s ∈ slots, decide (s ≠ (.listing, "false")) =
      decide ((s.1.key, s.2) ≠ ("listObjectsInBucket", "false")) := by
    rintro ⟨slot, value⟩ hs
    have hkey : slot.key = "listObjectsInBucket" ↔ slot = .listing :=
      ⟨Slot.key_injOn (t := .listing) (hread _ hs).1 trivial, fun h => h ▸ rfl⟩
    simp [hkey]
  have hcanonical : ∀ s ∈ slots, ((canonicalSlot s).1.key, (canonicalSlot s).2) =
      Document.canonicalPair (s.1.key, s.2) := by
    intro s hs
    rw [Document.canonicalPair, Slot.ofKey_key (hread s hs).1, canonicalSlot_fst]
    unfold canonicalSlot
    split
    · rename_i index hsize
      rw [hsize]
    · rename_i hsize
      split
      · rename_i index he
        exact absurd (Except.ok.inj he) (hsize index)
      · rfl
  rw [kept, List.map_map, List.filter_map, List.map_map, List.filter_congr hfilter]
  refine List.map_congr_left fun s hs => hcanonical s (List.mem_filter.1 hs).1

/-- **Reading keeps every pair of a document**, but for a listing flag that is not set and the form of sizes. -/
theorem pairs_toDocument_perm {d : Document} {m : Message} (h : ofDocument d = .ok m) :
    m.toDocument.pairs.Perm
      ((d.pairs.filter (· ≠ ("listObjectsInBucket", "false"))).map Document.canonicalPair) := by
  obtain ⟨slots, hslots, hm⟩ := Traversal.exists_of_bind_eq_ok h
  obtain ⟨hpairs, hapart, hread, -⟩ := eq_map_of_readSlots hslots
  rw [hpairs, ← map_kept hread]
  exact (slots_perm_kept hm hapart hread).map _

/-- A listing with its pairs out of order and a size that is not written so. -/
def shuffledListing : Document where
  pairs := [("object.1.size", "+007"), ("app.prefix", "a/"), ("object.1.key", "b"), ("listObjectsInBucket", "true"),
    ("object.0.key", "a")]

/-- The shuffled listing is kept, its size as `7`. -/
theorem pairs_toDocument_perm_shuffled : ∃ m, ofDocument shuffledListing = .ok m ∧
    m.toDocument.pairs.Perm [("object.1.size", "7"), ("app.prefix", "a/"), ("object.1.key", "b"),
      ("listObjectsInBucket", "true"), ("object.0.key", "a")] := by
  let m : Message :=
    { application := Fields.ofList [("prefix", "a/")]
      body := .listing [{ key := "a" }, { key := "b", size := some 7 }] }
  have hm : ofDocument shuffledListing = .ok m := rfl
  exact ⟨m, hm, pairs_toDocument_perm hm⟩

end Message
end StorageGate
