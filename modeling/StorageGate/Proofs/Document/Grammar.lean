import StorageGate.Proofs.Document.Reading
/-!
# The grammar of documents

Which documents are messages, said of their pairs alone and of all of them at once, in whatever order they stand: keys are
different, each pair is one of a few forms, and one numbered part is complete while the other is absent
(`Document.IsGrammatical`).  Exactly these are read (`exists_ofDocument_iff_isGrammatical`).  The proof goes through the
places that the keys name: a pair has one of the forms exactly if its key names a place that takes its value
(`isPair_iff`), and what is given under a numbered key is what stands at that number's place (`NamesPlaces`, `mem_field`),
the two numbered parts being treated alike.
-/
namespace StorageGate
namespace Document

/-! ## Pairs -/

/-- The key of a field under a number. -/
def numberedKey (part : String) (index : Nat) (field : String) : String :=
  part ++ "." ++ toString index ++ "." ++ field

/-- A number of 64 bits in decimal; zeros may lead it, and one plus before them. -/
def IsNumber (text : String) : Prop :=
  Numeral.unsigned text.toList ≠ [] ∧ (∀ c ∈ Numeral.unsigned text.toList, c.isDigit = true) ∧
    Nat.ofDigitChars 10 (Numeral.unsigned text.toList) 0 < size64

/-- The forms of a pair. -/
inductive IsPair : String → String → Prop
  | flag {value : String} (h : value ∈ ["true", "false"]) : IsPair "listObjectsInBucket" value
  | application (name value : String) : IsPair ("app." ++ name) value
  | property (name value : String) : IsPair ("msg." ++ name) value
  | request {index : Nat} {field : String} (hindex : index < size64)
      (hfield : field ∈ ["type", "key", "bucket", "signedUrl", "declineReason"]) (value : String) :
      IsPair (numberedKey "sigreq" index field) value
  | metadata {index : Nat} (hindex : index < size64) (name value : String) :
      IsPair (numberedKey "sigreq" index ("metadata." ++ name)) value
  | object {index : Nat} {field : String} (hindex : index < size64) (hfield : field ∈ ["key", "lastModified", "etag"])
      (value : String) : IsPair (numberedKey "object" index field) value
  | size {index : Nat} {value : String} (hindex : index < size64) (hvalue : IsNumber value) :
      IsPair (numberedKey "object" index "size") value

variable (d : Document)

/-- Whether a key is given. -/
def Has (key : String) : Prop := ∃ value, (key, value) ∈ d.pairs

/-- The numbers of a part are those below `n`. -/
def Numbers (part : String) (n : Nat) : Prop := ∀ index, (∃ field, d.Has (numberedKey part index field)) ↔ index < n

/-- No key of a part is given. -/
def Lacks (part : String) : Prop := ∀ index field, ¬ d.Has (numberedKey part index field)

/-- A listing: objects under numbers without a gap, each with its key, and no request. -/
def IsListing : Prop := d.Lacks "sigreq" ∧
  ∃ n, d.Numbers "object" n ∧ ∀ i < n, d.Has (numberedKey "object" i "key")

/-- A batch: requests under numbers without a gap, each with its key, its action and at most one decision, and no object. -/
def IsBatch : Prop := d.Lacks "object" ∧
  ∃ n, d.Numbers "sigreq" n ∧ ∀ i < n, d.Has (numberedKey "sigreq" i "key") ∧
    (∃ type ∈ ["GET", "HEAD", "PUT", "DELETE", "ACL_LOOKUP", "ACL_UPDATE"], (numberedKey "sigreq" i "type", type) ∈ d.pairs) ∧
    ¬ (d.Has (numberedKey "sigreq" i "signedUrl") ∧ d.Has (numberedKey "sigreq" i "declineReason"))

/-- What a document must say to be a message. -/
structure IsGrammatical : Prop where
  /-- No key is given twice. -/
  distinct : (d.pairs.map Prod.fst).Nodup
  forms : ∀ p ∈ d.pairs, IsPair p.1 p.2
  listing : ("listObjectsInBucket", "true") ∈ d.pairs → d.IsListing
  batch : ("listObjectsInBucket", "true") ∉ d.pairs → d.IsBatch

/-! ## Numbered keys and their places -/

theorem toList_numberedKey (part : String) (index : Nat) (field : String) :
    (numberedKey part index field).toList = (part ++ ".").toList ++ (Numeral.write index ++ '.' :: field.toList) := by
  unfold numberedKey
  rw [String.toList_append, String.toList_append, String.toList_append]
  simp [Numeral.write]

theorem name_metadata (name : String) : (RequestField.metadata name).name = ("metadata." ++ name).toList :=
  String.toList_append.symm

/-- **The keys of a numbered part are those of its places**, and of no others. -/
structure NamesPlaces {field : Type} (part : String) (place : Nat → field → Slot) (name : field → List Char) : Prop where
  key : ∀ (f : field) (text : String), name f = text.toList → ∀ index, (place index f).key = numberedKey part index text
  place : ∀ {s : Slot} {index : Nat} {text : String}, s.InRange → s.key = numberedKey part index text →
    ∃ f, s = place index f ∧ name f = text.toList
  name_injective : ∀ {f g : field}, name f = name g → f = g

theorem namesPlaces_request : NamesPlaces "sigreq" .request RequestField.name where
  key f text hf index := by
    refine String.toList_inj.1 ?_
    rw [toList_numberedKey, ← hf]
    exact String.toList_ofList.trans (List.append_assoc ..)
  place := by
    intro s index text hs h
    have hok : Slot.ofKey (numberedKey "sigreq" index text) = .ok s := Slot.ofKey_eq_ok_iff.2 ⟨hs, h⟩
    rw [Slot.ofKey_request (toList_numberedKey _ _ _)] at hok
    split at hok
    · cases hok
    · rename_i n t hcut
      obtain ⟨rfl, rfl⟩ := Slot.eq_of_cutIndex?_write hcut
      split at hok
      · rename_i f hname
        cases hok
        exact ⟨f, rfl, RequestField.ofName?_eq_some_iff.1 hname⟩
      · cases hok
  name_injective := by
    intro f g h
    have hg := RequestField.ofName?_name g
    rw [← h, RequestField.ofName?_name] at hg
    exact Option.some.inj hg

theorem namesPlaces_object : NamesPlaces "object" .object ObjectField.name where
  key f text hf index := by
    refine String.toList_inj.1 ?_
    rw [toList_numberedKey, ← hf]
    exact String.toList_ofList.trans (List.append_assoc ..)
  place := by
    intro s index text hs h
    have hok : Slot.ofKey (numberedKey "object" index text) = .ok s := Slot.ofKey_eq_ok_iff.2 ⟨hs, h⟩
    rw [Slot.ofKey_object (toList_numberedKey _ _ _)] at hok
    split at hok
    · cases hok
    · rename_i n t hcut
      obtain ⟨rfl, rfl⟩ := Slot.eq_of_cutIndex?_write hcut
      split at hok
      · rename_i f hname
        cases hok
        exact ⟨f, rfl, ObjectField.ofName?_eq_some_iff.1 hname⟩
      · cases hok
  name_injective := by
    intro f g h
    have hg := ObjectField.ofName?_name g
    rw [← h, ObjectField.ofName?_name] at hg
    exact Option.some.inj hg

/-! ## The forms of pairs -/

theorem isNumber_iff {text : String} : IsNumber text ↔ (Numeral.lenient? size64 text.toList).isSome = true := by
  rw [Option.isSome_iff_exists]
  simp [IsNumber, Numeral.lenient?_eq_some_iff]

/-- **A pair has one of the forms** exactly if its key names a place that takes its value. -/
theorem isPair_iff {key value : String} :
    IsPair key value ↔ ∃ slot, Slot.ofKey key = .ok slot ∧ slot.admits value = true := by
  simp only [Slot.ofKey_eq_ok_iff, and_assoc]
  constructor
  · rintro (h | ⟨name⟩ | ⟨name⟩ | ⟨hindex, hfield⟩ | ⟨hindex, name⟩ | ⟨hindex, hfield⟩ | ⟨hindex, hvalue⟩)
    · exact ⟨.listing, trivial, rfl, by simpa [Slot.admits] using h⟩
    · exact ⟨.application name, trivial, rfl, rfl⟩
    · exact ⟨.property name, trivial, rfl, rfl⟩
    · simp only [List.mem_cons, List.not_mem_nil, or_false] at hfield
      rcases hfield with rfl | rfl | rfl | rfl | rfl
      · exact ⟨.request _ .action, hindex, namesPlaces_request.key .action _ rfl _, rfl⟩
      · exact ⟨.request _ .key, hindex, namesPlaces_request.key .key _ rfl _, rfl⟩
      · exact ⟨.request _ .bucket, hindex, namesPlaces_request.key .bucket _ rfl _, rfl⟩
      · exact ⟨.request _ .signedUrl, hindex, namesPlaces_request.key .signedUrl _ rfl _, rfl⟩
      · exact ⟨.request _ .declineReason, hindex, namesPlaces_request.key .declineReason _ rfl _, rfl⟩
    · exact ⟨.request _ (.metadata name), hindex, namesPlaces_request.key (.metadata name) _ (name_metadata name) _, rfl⟩
    · simp only [List.mem_cons, List.not_mem_nil, or_false] at hfield
      rcases hfield with rfl | rfl | rfl
      · exact ⟨.object _ .key, hindex, namesPlaces_object.key .key _ rfl _, rfl⟩
      · exact ⟨.object _ .lastModified, hindex, namesPlaces_object.key .lastModified _ rfl _, rfl⟩
      · exact ⟨.object _ .etag, hindex, namesPlaces_object.key .etag _ rfl _, rfl⟩
    · exact ⟨.object _ .size, hindex, namesPlaces_object.key .size _ rfl _, isNumber_iff.1 hvalue⟩
  · rintro ⟨slot, hrange, rfl, hadmits⟩
    cases slot with
    | listing => exact .flag (by simpa [Slot.admits] using hadmits)
    | application name => exact .application name value
    | property name => exact .property name value
    | request index f =>
      cases f with
      | action => exact namesPlaces_request.key .action "type" rfl index ▸ .request hrange (by simp) value
      | key => exact namesPlaces_request.key .key "key" rfl index ▸ .request hrange (by simp) value
      | bucket => exact namesPlaces_request.key .bucket "bucket" rfl index ▸ .request hrange (by simp) value
      | metadata name => exact namesPlaces_request.key (.metadata name) _ (name_metadata name) index ▸ .metadata hrange name value
      | signedUrl => exact namesPlaces_request.key .signedUrl "signedUrl" rfl index ▸ .request hrange (by simp) value
      | declineReason => exact namesPlaces_request.key .declineReason "declineReason" rfl index ▸ .request hrange (by simp) value
    | object index f =>
      cases f with
      | key => exact namesPlaces_object.key .key "key" rfl index ▸ .object hrange (by simp) value
      | size => exact namesPlaces_object.key .size "size" rfl index ▸ .size hrange (isNumber_iff.2 hadmits)
      | lastModified => exact namesPlaces_object.key .lastModified "lastModified" rfl index ▸ .object hrange (by simp) value
      | etag => exact namesPlaces_object.key .etag "etag" rfl index ▸ .object hrange (by simp) value

theorem mem_actionNames {text : String} :
    text ∈ ["GET", "HEAD", "PUT", "DELETE", "ACL_LOOKUP", "ACL_UPDATE"] ↔ ∃ action : Action, action.name = text := by
  constructor
  · intro h
    simp only [List.mem_cons, List.not_mem_nil, or_false] at h
    rcases h with rfl | rfl | rfl | rfl | rfl | rfl
    · exact ⟨.get, rfl⟩
    · exact ⟨.head, rfl⟩
    · exact ⟨.put, rfl⟩
    · exact ⟨.delete, rfl⟩
    · exact ⟨.readAcl, rfl⟩
    · exact ⟨.writeAcl, rfl⟩
  · rintro ⟨action, rfl⟩
    cases action <;> simp [Action.name]

/-! ## The pairs of places -/

section Places

variable {d : Document} {slots : List (Slot × String)} (hpairs : d.pairs = slots.map fun s => (s.1.key, s.2))
  (hread : ∀ s ∈ slots, Message.Readable s)

include hpairs in
theorem mem_pairs_iff {key value : String} : (key, value) ∈ d.pairs ↔ ∃ s, s.key = key ∧ (s, value) ∈ slots := by
  rw [hpairs, List.mem_map]
  constructor
  · rintro ⟨⟨s, v⟩, hs, he⟩
    cases he
    exact ⟨s, rfl, hs⟩
  · rintro ⟨s, rfl, hs⟩
    exact ⟨(s, value), hs, rfl⟩

include hpairs hread

theorem mem_flag {value : String} : ("listObjectsInBucket", value) ∈ d.pairs ↔ (.listing, value) ∈ slots := by
  rw [mem_pairs_iff hpairs]
  constructor
  · rintro ⟨s, hkey, hs⟩
    have hlisting : s = .listing := Slot.key_injOn (hread _ hs).1 trivial hkey
    exact hlisting ▸ hs
  · exact fun hs => ⟨.listing, rfl, hs⟩

section Part

variable {field : Type} {part : String} {place : Nat → field → Slot} {name : field → List Char}
  {entry : Slot × String → Option (Nat × field × String)} (hpart : NamesPlaces part place name)
  (hentry : ∀ {i f value}, (i, f, value) ∈ slots.filterMap entry ↔ (place i f, value) ∈ slots)

include hpart

theorem mem_numbered {index : Nat} {text value : String} :
    (numberedKey part index text, value) ∈ d.pairs ↔ ∃ f, name f = text.toList ∧ (place index f, value) ∈ slots := by
  rw [mem_pairs_iff hpairs]
  constructor
  · rintro ⟨s, hkey, hs⟩
    obtain ⟨f, rfl, hf⟩ := hpart.place (hread _ hs).1 hkey
    exact ⟨f, hf, hs⟩
  · rintro ⟨f, hf, hs⟩
    exact ⟨_, hpart.key f text hf index, hs⟩

/-- **One field under a number** is given exactly at its place. -/
theorem mem_field (f : field) (text : String) (hf : name f = text.toList) {index : Nat} {value : String} :
    (numberedKey part index text, value) ∈ d.pairs ↔ (place index f, value) ∈ slots := by
  rw [mem_numbered hpairs hread hpart, ← hf]
  constructor
  · -- No other field has the same name.
    rintro ⟨g, hg, hs⟩
    exact hpart.name_injective hg ▸ hs
  · exact fun hs => ⟨f, rfl, hs⟩

include hentry

/-- The numbers of a part are those of its places. -/
theorem exists_has_iff {index : Nat} :
    (∃ text, d.Has (numberedKey part index text)) ↔ index ∈ (slots.filterMap entry).map (·.1) := by
  rw [List.mem_map]
  constructor
  · rintro ⟨text, value, hmem⟩
    obtain ⟨f, -, hs⟩ := (mem_numbered hpairs hread hpart).1 hmem
    exact ⟨(index, f, value), hentry.2 hs, rfl⟩
  · rintro ⟨⟨i, f, value⟩, hs, rfl⟩
    exact ⟨String.ofList (name f), value,
      (mem_numbered hpairs hread hpart).2 ⟨f, String.toList_ofList.symm, hentry.1 hs⟩⟩

theorem lacks_iff : d.Lacks part ↔ slots.filterMap entry = [] := by
  constructor
  · intro h
    rw [List.eq_nil_iff_forall_not_mem]
    rintro ⟨i, f, value⟩ hmem
    have hhas : ∃ text, d.Has (numberedKey part i text) :=
      (exists_has_iff hpairs hread hpart hentry).2 (List.mem_map_of_mem hmem)
    exact hhas.elim (h i)
  · intro h i text hhas
    have hi := (exists_has_iff hpairs hread hpart hentry).1 ⟨text, hhas⟩
    rw [h] at hi
    cases hi

theorem numbers_iff {n : Nat} :
    d.Numbers part n ↔ ∀ i, i ∈ (slots.filterMap entry).map (·.1) ↔ i < n := by
  simp only [Numbers, exists_has_iff hpairs hread hpart hentry]

end Part

variable (hapart : Message.Apart slots)

include hapart

theorem isListing_iff : d.IsListing ↔ slots.filterMap Message.requestAt = [] ∧ ∃ objects,
    Message.readNumbered .object Message.readObject (slots.filterMap Message.objectAt) = .ok objects := by
  have hkey : ∀ i, (∃ o, Message.readObject i (Message.entriesUnder i (slots.filterMap Message.objectAt)) = .ok o) ↔
      d.Has (numberedKey "object" i "key") := by
    intro i
    rw [Message.exists_readObject_iff]
    simp only [Message.lookup_entriesUnder_objectAt hapart, Has,
      mem_field hpairs hread namesPlaces_object .key "key" rfl]
  rw [IsListing, lacks_iff hpairs hread namesPlaces_request Message.mem_filterMap_requestAt,
    Message.exists_readNumbered_iff]
  simp only [numbers_iff hpairs hread namesPlaces_object Message.mem_filterMap_objectAt, hkey]

theorem isBatch_iff : d.IsBatch ↔ slots.filterMap Message.objectAt = [] ∧ ∃ requests,
    Message.readNumbered .request Message.readRequest (slots.filterMap Message.requestAt) = .ok requests := by
  have hfield : ∀ (f : RequestField) (text : String), f.name = text.toList → ∀ i,
      d.Has (numberedKey "sigreq" i text) ↔
        (Message.entriesUnder i (slots.filterMap Message.requestAt)).lookup f ≠ none := by
    intro f text hf i
    simp only [Has, mem_field hpairs hread namesPlaces_request f text hf, Option.ne_none_iff_exists',
      Message.lookup_entriesUnder_requestAt hapart]
  have haction : ∀ i, (∃ action : Action,
      (Message.entriesUnder i (slots.filterMap Message.requestAt)).lookup .action = some action.name) ↔
      ∃ type ∈ ["GET", "HEAD", "PUT", "DELETE", "ACL_LOOKUP", "ACL_UPDATE"],
        (numberedKey "sigreq" i "type", type) ∈ d.pairs := by
    intro i
    simp only [Message.lookup_entriesUnder_requestAt hapart, mem_actionNames,
      mem_field hpairs hread namesPlaces_request .action "type" rfl, exists_exists_eq_and]
  have hone : ∀ i, (∃ r, Message.readRequest i (Message.entriesUnder i (slots.filterMap Message.requestAt)) = .ok r) ↔
      d.Has (numberedKey "sigreq" i "key") ∧
      (∃ type ∈ ["GET", "HEAD", "PUT", "DELETE", "ACL_LOOKUP", "ACL_UPDATE"],
        (numberedKey "sigreq" i "type", type) ∈ d.pairs) ∧
      ¬ (d.Has (numberedKey "sigreq" i "signedUrl") ∧ d.Has (numberedKey "sigreq" i "declineReason")) := by
    intro i
    rw [Message.exists_readRequest_iff, haction, hfield .key "key" rfl, hfield .signedUrl "signedUrl" rfl,
      hfield .declineReason "declineReason" rfl, ← Option.ne_none_iff_exists']
    tauto
  rw [IsBatch, lacks_iff hpairs hread namesPlaces_object Message.mem_filterMap_objectAt,
    Message.exists_readNumbered_iff]
  simp only [numbers_iff hpairs hread namesPlaces_request Message.mem_filterMap_requestAt, hone]

/-- **A body is read from the places** exactly if the pairs are a listing or a batch, as the flag asks. -/
theorem exists_readBody_iff : (∃ body, Message.readBody slots = .ok body) ↔
    (("listObjectsInBucket", "true") ∈ d.pairs → d.IsListing) ∧
      (("listObjectsInBucket", "true") ∉ d.pairs → d.IsBatch) := by
  rw [isListing_iff hpairs hread hapart, isBatch_iff hpairs hread hapart, mem_flag hpairs hread,
    ← Message.lookup_listing hapart]
  simp only [Message.readBody_eq_ok_iff]
  by_cases hflag : slots.lookup .listing = some "true"
  · simp [hflag]
  · simp [hflag]

end Places

/-- **A document is a message exactly if it is grammatical.** -/
theorem exists_ofDocument_iff_isGrammatical (d : Document) : (∃ m, Message.ofDocument d = .ok m) ↔ d.IsGrammatical := by
  rw [Message.exists_ofDocument_iff]
  constructor
  · rintro ⟨slots, hslots, hbody⟩
    obtain ⟨hnodup, hkeys⟩ := Message.exists_readSlots_iff.1 ⟨slots, hslots⟩
    obtain ⟨hpairs, hapart, hread, -⟩ := Message.eq_map_of_readSlots hslots
    obtain ⟨hlisting, hbatch⟩ := (exists_readBody_iff hpairs hread hapart).1 hbody
    exact ⟨hnodup, fun p hp => isPair_iff.2 (hkeys p hp).2, hlisting, hbatch⟩
  · intro h
    obtain ⟨slots, hslots⟩ := Message.exists_readSlots_iff.2
      ⟨h.distinct, fun p hp => ⟨List.not_mem_nil, isPair_iff.1 (h.forms p hp)⟩⟩
    obtain ⟨hpairs, hapart, hread, -⟩ := Message.eq_map_of_readSlots hslots
    exact ⟨slots, hslots, (exists_readBody_iff hpairs hread hapart).2 ⟨h.listing, h.batch⟩⟩

end Document
end StorageGate
