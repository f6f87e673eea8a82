import StorageGate.Proofs.Document.Reading
import StorageGate.Proofs.Text.Form
/-!
# Messages through documents and back

A message is read from its own document (`ofDocument_toDocument`) and from its own text.  No pair is refused as it is read
(`readSlots_map`), and what stands at the places of a message is the message, part by part: its properties, and under each
number the entries of one request or object.
-/
namespace StorageGate
namespace Message

/-! ## Requests and objects from their entries -/

theorem lookup_metadata_entries {f : RequestField} (hf : ∀ name, f ≠ .metadata name) (metadata : Fields) :
    (metadata.toList.map fun e => (RequestField.metadata e.1, e.2)).lookup f = none := by
  rw [List.lookup_eq_none_iff]
  intro e he
  obtain ⟨n, _, rfl⟩ := List.mem_map.1 he
  exact bne_iff_ne.2 (hf n.1)

theorem lookup_requestEntries {f : RequestField} (hf : ∀ name, f ≠ .metadata name) (r : Request) :
    (requestEntries r).lookup f = (match f with
      | .action => some r.action.name
      | .key => some r.key
      | .bucket => r.bucket
      | .metadata _ => none
      | .signedUrl => r.signedUrl?
      | .declineReason => r.declineReason?) := by
  obtain ⟨action, key, bucket, metadata, decision⟩ := r
  rw [requestEntries, List.lookup_append, List.lookup_append, List.lookup_append, lookup_metadata_entries hf]
  cases f with
  | metadata name => exact absurd rfl (hf name)
  | _ => cases bucket <;> cases decision <;> rfl

theorem filterMap_requestEntries (r : Request) : (requestEntries r).filterMap metadataAt = r.metadata.toList := by
  obtain ⟨action, key, bucket, metadata, decision⟩ := r
  have hmetadata : (metadata.toList.map fun e => (RequestField.metadata e.1, e.2)).filterMap metadataAt
      = metadata.toList := by
    rw [List.filterMap_map]
    exact List.filterMap_some
  rw [requestEntries, List.filterMap_append, List.filterMap_append, List.filterMap_append, hmetadata]
  cases bucket <;> cases decision <;> simp [metadataAt, List.filterMap_cons]

/-- **A request is read from its entries.** -/
theorem readRequest_requestEntries (index : Nat) (r : Request) : readRequest index (requestEntries r) = .ok r := by
  refine readRequest_eq_ok_iff.2 ⟨lookup_requestEntries (by simp) r, lookup_requestEntries (by simp) r,
    lookup_requestEntries (by simp) r, ?_, lookup_requestEntries (by simp) r, lookup_requestEntries (by simp) r⟩
  rw [filterMap_requestEntries, Fields.ofList_toList]

theorem lookup_objectEntries (o : ListedObject) (f : ObjectField) : (objectEntries o).lookup f = (match f with
    | .key => some o.key
    | .size => o.size.map fun n => String.ofList (Numeral.write n.toNat)
    | .lastModified => o.lastModified
    | .etag => o.etag) := by
  obtain ⟨key, size, lastModified, etag⟩ := o
  cases f <;> cases size <;> cases lastModified <;> cases etag <;> rfl

theorem readSize_write (n : UInt64) :
    (Numeral.lenient? size64 (String.ofList (Numeral.write n.toNat)).toList).map UInt64.ofNat = some n := by
  have hn : n.toNat < size64 := n.toNat_lt_size
  rw [String.toList_ofList, Numeral.lenient?_write hn, Option.map_some, UInt64.ofNat_toNat]

/-- **A listed object is read from its entries.** -/
theorem readObject_objectEntries (index : Nat) (o : ListedObject) : readObject index (objectEntries o) = .ok o := by
  refine readObject_eq_ok_iff.2 ⟨lookup_objectEntries o .key, ?_, lookup_objectEntries o .lastModified,
    lookup_objectEntries o .etag⟩
  rw [lookup_objectEntries]
  cases o.size with
  | none => rfl
  | some n => exact readSize_write n

/-! ## Reading the pairs -/

/-- **The pairs of places that differ are read**, none of their keys being among those `seen`. -/
theorem readSlots_map : ∀ {slots : List (Slot × String)} {seen : List String}, Apart slots →
    (∀ s ∈ slots, Readable s) → (∀ s ∈ slots, s.1.key ∉ seen) →
      readSlots seen (slots.map fun s => (s.1.key, s.2)) = .ok slots
  | [], _, _, _, _ => rfl
  | (slot, value) :: slots, seen, hapart, hread, hseen => by
    obtain ⟨hne, hrest⟩ := List.pairwise_cons.1 hapart
    obtain ⟨hrange, hadmits⟩ := hread (slot, value) List.mem_cons_self
    have hrestSeen : ∀ s ∈ slots, s.1.key ∉ slot.key :: seen := fun s hs hmem => by
      rcases List.mem_cons.1 hmem with he | hmem
      · have hs' := (hread s (List.mem_cons_of_mem _ hs)).1
        exact hne s hs (Slot.key_injOn hrange hs' he.symm)
      · exact hseen s (List.mem_cons_of_mem _ hs) hmem
    have ih := readSlots_map hrest (fun s hs => hread s (List.mem_cons_of_mem _ hs)) hrestSeen
    exact readSlots_cons_eq_ok_iff.2
      ⟨hseen (slot, value) List.mem_cons_self, slot, slots, Slot.ofKey_key hrange, hadmits, ih, rfl⟩

/-! ## What stands at the places of a message -/

theorem filterMap_map_of_some {α β γ : Type} {f : α → β} {g : β → Option γ} {h : α → γ} (hg : ∀ x, g (f x) = some (h x))
    (l : List α) : (l.map f).filterMap g = l.map h := by
  rw [List.filterMap_map]
  exact (List.filterMap_congr fun x _ => hg x).trans (by rw [List.filterMap_eq_map'])

theorem filterMap_map_of_none {α β γ : Type} {f : α → β} {g : β → Option γ} (hg : ∀ x, g (f x) = none) (l : List α) :
    (l.map f).filterMap g = [] := by
  rw [List.filterMap_eq_nil_iff]
  intro y hy
  obtain ⟨x, _, rfl⟩ := List.mem_map.1 hy
  exact hg x

theorem filterMap_numberedSlots {α field : Type} {mk : Nat → field → Slot} {entries : α → List (field × String)}
    {g : Slot × String → Option (Nat × field × String)} (hg : ∀ i f value, g (mk i f, value) = some (i, f, value))
    (xs : List α) : (numberedSlots mk entries xs).filterMap g = numberedEntries entries xs := by
  rw [numberedSlots, numberedEntries, List.filterMap_flatMap]
  congr 1
  funext x
  exact filterMap_map_of_some (fun f => hg x.2 f.1 f.2) (entries x.1)

theorem filterMap_numberedSlots_of_none {α field γ : Type} {mk : Nat → field → Slot}
    {entries : α → List (field × String)} {g : Slot × String → Option γ} (hg : ∀ i f value, g (mk i f, value) = none)
    (xs : List α) : (numberedSlots mk entries xs).filterMap g = [] := by
  rw [List.filterMap_eq_nil_iff]
  intro s hs
  obtain ⟨x, _, i, _, f, _, rfl⟩ := mem_numberedSlots hs
  exact hg i f.1 f.2

section Projections

variable (m : Message)

theorem propertySlots_application : m.propertySlots.filterMap applicationAt = m.application.toList := by
  have ha : (m.application.toList.map fun e => (Slot.application e.1, e.2)).filterMap applicationAt
      = m.application.toList.map id := filterMap_map_of_some (by intro e; rfl) _
  have hp : (m.properties.toList.map fun e => (Slot.property e.1, e.2)).filterMap applicationAt = [] :=
    filterMap_map_of_none (fun _ => rfl) _
  rw [propertySlots, List.filterMap_append, ha, hp, List.append_nil, List.map_id]

theorem propertySlots_property : m.propertySlots.filterMap propertyAt = m.properties.toList := by
  have ha : (m.application.toList.map fun e => (Slot.application e.1, e.2)).filterMap propertyAt = [] :=
    filterMap_map_of_none (fun _ => rfl) _
  have hp : (m.properties.toList.map fun e => (Slot.property e.1, e.2)).filterMap propertyAt
      = m.properties.toList.map id := filterMap_map_of_some (by intro e; rfl) _
  rw [propertySlots, List.filterMap_append, ha, hp, List.nil_append, List.map_id]

theorem propertySlots_of_none {γ : Type} {g : Slot × String → Option γ}
    (hg : ∀ name value, g (.application name, value) = none ∧ g (.property name, value) = none) :
    m.propertySlots.filterMap g = [] := by
  have ha : (m.application.toList.map fun e => (Slot.application e.1, e.2)).filterMap g = [] :=
    filterMap_map_of_none (fun (e : String × String) => (hg e.1 e.2).1) _
  have hp : (m.properties.toList.map fun e => (Slot.property e.1, e.2)).filterMap g = [] :=
    filterMap_map_of_none (fun (e : String × String) => (hg e.1 e.2).2) _
  rw [propertySlots, List.filterMap_append, ha, hp, List.append_nil]

theorem slots_application : m.slots.filterMap applicationAt = m.application.toList := by
  cases h : m.body with
  | signing requests =>
    rw [slots_signing h, List.filterMap_append, propertySlots_application,
      filterMap_numberedSlots_of_none fun _ _ _ => rfl, List.append_nil]
  | listing objects =>
    rw [slots_listing h, List.filterMap_cons_none rfl, List.filterMap_append, propertySlots_application,
      filterMap_numberedSlots_of_none fun _ _ _ => rfl, List.append_nil]

theorem slots_property : m.slots.filterMap propertyAt = m.properties.toList := by
  cases h : m.body with
  | signing requests =>
    rw [slots_signing h, List.filterMap_append, propertySlots_property,
      filterMap_numberedSlots_of_none fun _ _ _ => rfl, List.append_nil]
  | listing objects =>
    rw [slots_listing h, List.filterMap_cons_none rfl, List.filterMap_append, propertySlots_property,
      filterMap_numberedSlots_of_none fun _ _ _ => rfl, List.append_nil]

end Projections

section Parts

variable {m : Message}

theorem slots_request_of_signing {requests : List Request} (h : m.body = .signing requests) :
    m.slots.filterMap requestAt = numberedEntries requestEntries requests := by
  rw [slots_signing h, List.filterMap_append, propertySlots_of_none _ fun _ _ => ⟨rfl, rfl⟩,
    filterMap_numberedSlots fun _ _ _ => rfl, List.nil_append]

theorem slots_object_of_signing {requests : List Request} (h : m.body = .signing requests) :
    m.slots.filterMap objectAt = [] := by
  rw [slots_signing h, List.filterMap_append, propertySlots_of_none _ fun _ _ => ⟨rfl, rfl⟩,
    filterMap_numberedSlots_of_none fun _ _ _ => rfl, List.append_nil]

theorem slots_request_of_listing {objects : List ListedObject} (h : m.body = .listing objects) :
    m.slots.filterMap requestAt = [] := by
  rw [slots_listing h, List.filterMap_cons_none rfl, List.filterMap_append,
    propertySlots_of_none _ fun _ _ => ⟨rfl, rfl⟩, filterMap_numberedSlots_of_none fun _ _ _ => rfl, List.append_nil]

theorem slots_object_of_listing {objects : List ListedObject} (h : m.body = .listing objects) :
    m.slots.filterMap objectAt = numberedEntries objectEntries objects := by
  rw [slots_listing h, List.filterMap_cons_none rfl, List.filterMap_append,
    propertySlots_of_none _ fun _ _ => ⟨rfl, rfl⟩, filterMap_numberedSlots fun _ _ _ => rfl, List.nil_append]

theorem flag_of_signing {requests : List Request} (h : m.body = .signing requests) : m.slots.lookup .listing = none := by
  rw [slots_signing h, List.lookup_eq_none_iff]
  intro s hs
  rcases List.mem_append.1 hs with hs | hs
  · rcases mem_propertySlots hs with ⟨name, h⟩ | ⟨name, h⟩ <;> · rw [h]; rfl
  · obtain ⟨x, _, i, _, f, _, rfl⟩ := mem_numberedSlots hs
    rfl

theorem flag_of_listing {objects : List ListedObject} (h : m.body = .listing objects) :
    m.slots.lookup .listing = some "true" := by
  rw [slots_listing h]
  rfl

end Parts

/-- **A message is read from its places.** -/
theorem ofSlots_slots (m : Message) : ofSlots m.slots = .ok m := by
  refine ofSlots_eq_ok_iff.2 ⟨?_, ?_, readBody_eq_ok_iff.2 ?_⟩
  · rw [slots_application, Fields.ofList_toList]
  · rw [slots_property, Fields.ofList_toList]
  · cases h : m.body with
    | signing requests =>
      refine .inr ⟨by rw [flag_of_signing h]; exact nofun, slots_object_of_signing h, requests, rfl, ?_⟩
      rw [slots_request_of_signing h]
      exact readNumbered_numberedEntries requestEntries_ne_nil readRequest_requestEntries requests
    | listing objects =>
      refine .inl ⟨flag_of_listing h, slots_request_of_listing h, objects, rfl, ?_⟩
      rw [slots_object_of_listing h]
      exact readNumbered_numberedEntries objectEntries_ne_nil readObject_objectEntries objects

/-! ## The round trip -/

/-- **A message is read from its document.** -/
theorem ofDocument_toDocument {m : Message} (hm : m.body.length ≤ size64) : ofDocument m.toDocument = .ok m := by
  rw [ofDocument, toDocument, readSlots_map (apart_slots m) (readable_slots hm) fun _ _ => List.not_mem_nil]
  exact ofSlots_slots m

/-- **A message is read from its text**, whatever its names and values, as long as its parts can be numbered: an index is a
64-bit number, and no more parts than that are ever held. -/
theorem decode_encode_eq_ok {m : Message} (hm : m.body.length ≤ size64) : decode m.encode = .ok m := by
  rw [decode, encode, Document.parse_text, ofDocument_toDocument hm]

/-- A message whose names and values look like what surrounds them in a document. -/
def lookalike : Message where
  application := Fields.ofList [("", ""), ("app.", "&"), ("a=b&c", " \t+%2B"), ("msg.listObjectsInBucket", "true")]
  properties := Fields.ofList [("sigreq.0.key", "é\uFFFD"), (".", "=")]
  body := .signing
    [{ action := .put, key := "", bucket := some "", metadata := Fields.ofList [("", "x"), ("key", "y"), ("a.b", "")] },
     { action := .readAcl, key := "a&b=c", decision := .signed "https://h/?a=1&b=%20" },
     { action := .get, key := "sigreq.1.type", metadata := Fields.ofList [("metadata.", " ")], decision := .declined "" }]

/-- The look-alike message is read from its text. -/
theorem decode_encode_lookalike : lookalike.body.length ≤ size64 ∧ decode lookalike.encode = .ok lookalike := by
  have hm : lookalike.body.length ≤ size64 := by decide
  exact ⟨hm, decode_encode_eq_ok hm⟩

end Message
end StorageGate
