import StorageGate.Proofs.Document.Kept
/-!
# The order of pairs

The pairs of a document may stand in any order (`ofDocument_perm`).  Where one fails the whole is refused, in whatever place the
pair stands, though not always for the same reason.  The places of the others are those of the same pairs, and what they say is
looked up by place: a property by its name, a field by its number, a number by whether it occurs at all.
-/
namespace StorageGate

namespace Message

/-! ## The places -/

/-- What stands at a place is told by the pairs alone, in whatever order. -/
theorem mem_readSlots_iff {pairs : List (String × String)} {slots : List (Slot × String)}
    (h : readSlots [] pairs = .ok slots) (s : Slot × String) :
    s ∈ slots ↔ s.1.InRange ∧ (s.1.key, s.2) ∈ pairs := by
  obtain ⟨rfl, -, hread, -⟩ := eq_map_of_readSlots h
  constructor
  · intro hs
    exact ⟨(hread s hs).1, List.mem_map.2 ⟨s, hs, rfl⟩⟩
  · rintro ⟨hrange, hmem⟩
    obtain ⟨t, ht, he⟩ := List.mem_map.1 hmem
    obtain ⟨hkey, hvalue⟩ := Prod.mk.inj he
    have hslot : t.1 = s.1 := Slot.key_injOn (hread t ht).1 hrange hkey
    exact Prod.ext hslot hvalue ▸ ht

/-- **Pairs in another order are read at the same places**, in another order. -/
theorem exists_readSlots_perm {pairs pairs' : List (String × String)} (h : pairs.Perm pairs') {slots : List (Slot × String)}
    (hslots : readSlots [] pairs = .ok slots) : ∃ slots', readSlots [] pairs' = .ok slots' ∧ slots.Perm slots' := by
  obtain ⟨hnodup, hall⟩ := exists_readSlots_iff.1 ⟨slots, hslots⟩
  obtain ⟨slots', hslots'⟩ := exists_readSlots_iff.2
    ⟨(h.map Prod.fst).nodup_iff.1 hnodup, fun p hp => hall p (h.mem_iff.2 hp)⟩
  have hapart := (eq_map_of_readSlots hslots).2.1
  have hapart' := (eq_map_of_readSlots hslots').2.1
  refine ⟨slots', hslots', (List.perm_ext_iff_of_nodup (nodup_of_apart hapart) (nodup_of_apart hapart')).2 fun s => ?_⟩
  rw [mem_readSlots_iff hslots, mem_readSlots_iff hslots', h.mem_iff]

/-! ## What the places describe -/

theorem readRequest_perm {index : Nat} {entries entries' : List (RequestField × String)} (h : entries.Perm entries')
    (hapart : entries.Pairwise fun f g => f.1 ≠ g.1) {r : Request} :
    readRequest index entries = .ok r ↔ readRequest index entries' = .ok r := by
  rw [readRequest_eq_ok_iff, readRequest_eq_ok_iff, Fields.ofList_perm (h.filterMap metadataAt)
    (pairwise_filterMap_metadataAt hapart)]
  simp only [Fields.lookup_perm h hapart]

theorem readObject_perm {index : Nat} {entries entries' : List (ObjectField × String)} (h : entries.Perm entries')
    (hapart : entries.Pairwise fun f g => f.1 ≠ g.1) {o : ListedObject} :
    readObject index entries = .ok o ↔ readObject index entries' = .ok o := by
  rw [readObject_eq_ok_iff, readObject_eq_ok_iff]
  simp only [Fields.lookup_perm h hapart]

theorem readNumbered_perm {α field : Type} {part : Section}
    {read : Nat → List (field × String) → Except DocumentError α} {entries entries' : List (Nat × field × String)}
    (h : entries.Perm entries')
    (hread : ∀ i x, read i (entriesUnder i entries) = .ok x ↔ read i (entriesUnder i entries') = .ok x) {xs : List α} :
    readNumbered part read entries = .ok xs ↔ readNumbered part read entries' = .ok xs := by
  rw [readNumbered_eq_ok_iff, readNumbered_eq_ok_iff]
  simp only [hread, (h.map (·.1)).mem_iff]

theorem entriesUnder_perm {field : Type} {entries entries' : List (Nat × field × String)} (h : entries.Perm entries')
    (i : Nat) : (entriesUnder i entries).Perm (entriesUnder i entries') :=
  (h.filter _).map _

/-- **What places describe does not depend on their order.** -/
theorem ofSlots_perm {slots slots' : List (Slot × String)} (h : slots.Perm slots') (hapart : Apart slots) {m : Message} :
    ofSlots slots = .ok m ↔ ofSlots slots' = .ok m := by
  have hrequests := h.filterMap requestAt
  have hobjects := h.filterMap objectAt
  have hreadRequests {requests : List Request} :
      readNumbered .request readRequest (slots.filterMap requestAt) = .ok requests ↔
        readNumbered .request readRequest (slots'.filterMap requestAt) = .ok requests :=
    readNumbered_perm hrequests fun i _ =>
      readRequest_perm (entriesUnder_perm hrequests i) (pairwise_entriesUnder_requestAt hapart i)
  have hreadObjects {objects : List ListedObject} :
      readNumbered .object readObject (slots.filterMap objectAt) = .ok objects ↔
        readNumbered .object readObject (slots'.filterMap objectAt) = .ok objects :=
    readNumbered_perm hobjects fun i _ =>
      readObject_perm (entriesUnder_perm hobjects i) (pairwise_entriesUnder_objectAt hapart i)
  have hnone {α : Type} {l l' : List α} (hl : l.Perm l') : l = [] ↔ l' = [] := by
    rw [← List.length_eq_zero_iff, hl.length_eq, List.length_eq_zero_iff]
  rw [ofSlots_eq_ok_iff, ofSlots_eq_ok_iff, readBody_eq_ok_iff, readBody_eq_ok_iff,
    Fields.ofList_perm (h.filterMap applicationAt) (pairwise_filterMap_applicationAt hapart),
    Fields.ofList_perm (h.filterMap propertyAt) (pairwise_filterMap_propertyAt hapart), Fields.lookup_perm h hapart]
  simp only [hreadRequests, hreadObjects, hnone hrequests, hnone hobjects]

theorem ofDocument_of_perm {d d' : Document} (h : d.pairs.Perm d'.pairs) {m : Message} (hm : ofDocument d = .ok m) :
    ofDocument d' = .ok m := by
  obtain ⟨slots, hslots, hof⟩ := Traversal.exists_of_bind_eq_ok hm
  obtain ⟨slots', hslots', hperm⟩ := exists_readSlots_perm h hslots
  have hapart := (eq_map_of_readSlots hslots).2.1
  rw [ofDocument, hslots']
  exact (ofSlots_perm hperm hapart).1 hof

/-! ## Numbers are places in the body -/

/-- Each part of the body is described under the number of its place, by the pairs it would be written as.  Of a size the
document may give another form. -/
structure InIndexOrder (d : Document) (m : Message) : Prop where
  requests : ∀ requests, m.body = .signing requests → ∀ i r, requests[i]? = some r →
    ∀ s ∈ requestSlots i r, (s.1.key, s.2) ∈ d.pairs
  objects : ∀ objects, m.body = .listing objects → ∀ i o, objects[i]? = some o →
    ∀ s ∈ objectSlots i o, ∃ p ∈ d.pairs, Document.canonicalPair p = (s.1.key, s.2)

theorem inIndexOrder_of_ofDocument {d : Document} {m : Message} (hm : ofDocument d = .ok m) : InIndexOrder d m := by
  obtain ⟨slots, hslots, hof⟩ := Traversal.exists_of_bind_eq_ok hm
  obtain ⟨hpairs, hapart, hread, -⟩ := eq_map_of_readSlots hslots
  constructor
  · intro requests hbody i r hr s hs
    rw [requestSlots_eq] at hs
    obtain ⟨f, hf, rfl⟩ := List.mem_map.1 hs
    have hentry : (i, f) ∈ m.slots.filterMap requestAt := by
      rw [slots_request_of_signing hbody]
      exact mem_numberedEntries.2 ⟨r, hr, hf⟩
    have hgiven := (mem_slots_request hof hapart).1 (mem_filterMap_requestAt.1 hentry)
    exact hpairs ▸ List.mem_map_of_mem hgiven
  · intro objects hbody i o ho s hs
    rw [objectSlots_eq] at hs
    obtain ⟨f, hf, rfl⟩ := List.mem_map.1 hs
    have hentry : (i, f) ∈ m.slots.filterMap objectAt := by
      rw [slots_object_of_listing hbody]
      exact mem_numberedEntries.2 ⟨o, ho, hf⟩
    -- What is written of an object is kept of what was given.
    have hkept := (slots_perm_kept hof hapart hread).mem_iff.1 (mem_filterMap_objectAt.1 hentry)
    have hwritten := List.mem_map_of_mem (f := fun s : Slot × String => (s.1.key, s.2)) hkept
    rw [map_kept hread, ← hpairs] at hwritten
    obtain ⟨p, hp, hcanonical⟩ := List.mem_map.1 hwritten
    exact ⟨p, (List.mem_filter.1 hp).1, hcanonical⟩

/-- **The order of pairs does not matter.**  A document is a message exactly if it is one with its pairs in any other order, and
then it is the same message, with the requests and objects in the order of their numbers. -/
theorem ofDocument_perm {d d' : Document} (h : d.pairs.Perm d'.pairs) :
    ((∃ m, ofDocument d = .ok m) ↔ ∃ m, ofDocument d' = .ok m) ∧
      ∀ m m', ofDocument d = .ok m → ofDocument d' = .ok m' → m = m' ∧ InIndexOrder d m := by
  refine ⟨⟨fun ⟨m, hm⟩ => ⟨m, ofDocument_of_perm h hm⟩, fun ⟨m, hm⟩ => ⟨m, ofDocument_of_perm h.symm hm⟩⟩, ?_⟩
  intro m m' hm hm'
  have hsame := (ofDocument_of_perm h hm).symm.trans hm'
  exact ⟨Except.ok.inj hsame, inIndexOrder_of_ofDocument hm⟩

/-- Two requests with their pairs mixed and the second first, and in the order in which they are written. -/
theorem ofDocument_perm_mixed :
    let mixed : Document := { pairs := [("sigreq.1.key", "b"), ("sigreq.0.key", "a"), ("app.x", "1"), ("sigreq.1.type", "GET"),
      ("sigreq.0.metadata.type", "y"), ("sigreq.0.type", "PUT")] }
    let written : Document := { pairs := [("app.x", "1"), ("sigreq.0.type", "PUT"), ("sigreq.0.key", "a"),
      ("sigreq.0.metadata.type", "y"), ("sigreq.1.type", "GET"), ("sigreq.1.key", "b")] }
    mixed.pairs.Perm written.pairs ∧ ∃ m, ofDocument mixed = .ok m ∧ ofDocument written = .ok m ∧ InIndexOrder mixed m := by
  intro mixed written
  have hperm : mixed.pairs.Perm written.pairs := by decide
  let m : Message :=
    { application := Fields.ofList [("x", "1")]
      body := .signing [{ action := .put, key := "a", metadata := Fields.ofList [("type", "y")] }, { action := .get, key := "b" }] }
  have hm : ofDocument mixed = .ok m := rfl
  obtain ⟨m', hm'⟩ := (ofDocument_perm hperm).1.1 ⟨m, hm⟩
  obtain ⟨rfl, hindex⟩ := (ofDocument_perm hperm).2 m m' hm hm'
  exact ⟨hperm, m, hm, hm', hindex⟩

end Message
end StorageGate
