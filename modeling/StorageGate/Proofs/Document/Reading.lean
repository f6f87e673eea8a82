import StorageGate.Proofs.Document.Places
import StorageGate.Proofs.Fields
import StorageGate.Proofs.Traversal
/-!
# What a document must say to be read

A message is read from a document in two steps, and each is an equivalence.  The pairs are read exactly if every key is new
and names a place that takes its value, and then they are the pairs of those places (`eq_map_of_readSlots`,
`exists_readSlots_iff`).  The places describe a message exactly if its body is described by the one numbered part that the
listing flag asks for (`ofSlots_eq_ok_iff`), each request and each listed object by the entries under its number alone
(`readRequest_eq_ok_iff`, `readObject_eq_ok_iff`).  Since no place is given twice, what is said at a place is what stands
there (`lookup_entriesUnder_requestAt`).
-/
namespace StorageGate

theorem Action.ofName?_name (a : Action) : ofName? a.name = some a := by
  cases a <;> decide

theorem Action.ofName?_eq_some_iff {text : String} {action : Action} : ofName? text = some action ↔ action.name = text := by
  constructor
  · intro h
    have hname := List.find?_some h
    simpa using hname
  · rintro rfl
    exact ofName?_name action

namespace Message

/-! ## The pairs -/

/-- **One pair is read** if its key is new and names a place that takes its value. -/
theorem readSlots_cons_eq_ok_iff {seen : List String} {key value : String} {rest : List (String × String)}
    {slots : List (Slot × String)} : readSlots seen ((key, value) :: rest) = .ok slots ↔ key ∉ seen ∧
      ∃ slot others, Slot.ofKey key = .ok slot ∧ slot.admits value = true ∧ readSlots (key :: seen) rest = .ok others ∧
        slots = (slot, value) :: others := by
  rw [readSlots]
  by_cases hseen : key ∈ seen
  · simp [hseen]
  · have hcontains : seen.contains key = false := by simpa using hseen
    rw [hcontains, if_neg Bool.false_ne_true]
    cases hkey : Slot.ofKey key with
    | error e => simp [bind, Except.bind, hseen]
    | ok slot =>
      cases hadmits : slot.admits value with
      | false => simp [bind, Except.bind, hadmits]
      | true =>
        cases hrest : readSlots (key :: seen) rest with
        | error e => simp [bind, Except.bind, hadmits]
        | ok others =>
          simp only [bind, Except.bind, pure, Except.pure, hadmits, if_pos]
          constructor
          · intro h
            cases h
            exact ⟨hseen, slot, others, rfl, hadmits, rfl, rfl⟩
          · rintro ⟨-, slot', others', hslot, -, hothers, rfl⟩
            cases hslot
            cases hothers
            rfl

/-- **What is read is the pairs at their places**, which are new and all different. -/
theorem eq_map_of_readSlots : ∀ {pairs : List (String × String)} {seen : List String} {slots : List (Slot × String)},
    readSlots seen pairs = .ok slots → pairs = slots.map (fun s => (s.1.key, s.2)) ∧ Apart slots ∧
      (∀ s ∈ slots, Readable s) ∧ ∀ s ∈ slots, s.1.key ∉ seen
  | [], seen, slots, h => by
    cases h
    exact ⟨rfl, .nil, by simp, by simp⟩
  | (key, value) :: rest, seen, slots, h => by
    obtain ⟨hseen, slot, others, hkey, hadmits, hrest, rfl⟩ := readSlots_cons_eq_ok_iff.1 h
    obtain ⟨hrange, rfl⟩ := Slot.ofKey_eq_ok_iff.1 hkey
    obtain ⟨rfl, hapart, hread, hfresh⟩ := eq_map_of_readSlots hrest
    have hkeys : ∀ s ∈ others, s.1.key ≠ slot.key ∧ s.1.key ∉ seen := fun s hs => by simpa using hfresh s hs
    refine ⟨rfl, List.pairwise_cons.2 ⟨fun s hs he => (hkeys s hs).1 (by rw [← he]), hapart⟩, ?_, ?_⟩
    · simpa using ⟨⟨hrange, hadmits⟩, fun s v hs => hread (s, v) hs⟩
    · simpa using ⟨hseen, fun s v hs => (hkeys (s, v) hs).2⟩

/-- Pairs are read exactly if their keys are new and different and each names a place that takes its value. -/
theorem exists_readSlots_iff : ∀ {pairs : List (String × String)} {seen : List String},
    (∃ slots, readSlots seen pairs = .ok slots) ↔ (pairs.map Prod.fst).Nodup ∧ ∀ p ∈ pairs, p.1 ∉ seen ∧
      ∃ slot, Slot.ofKey p.1 = .ok slot ∧ slot.admits p.2 = true
  | [], seen => by simp [readSlots]
  | (key, value) :: rest, seen => by
    have ih := @exists_readSlots_iff rest (key :: seen)
    simp only [readSlots_cons_eq_ok_iff, List.map_cons, List.nodup_cons, List.forall_mem_cons]
    constructor
    · rintro ⟨slots, hseen, slot, others, hkey, hadmits, hrest, -⟩
      obtain ⟨hnodup, hall⟩ := ih.1 ⟨others, hrest⟩
      refine ⟨⟨fun hmem => ?_, hnodup⟩, ⟨hseen, slot, hkey, hadmits⟩, fun p hp => ?_⟩
      · obtain ⟨p, hp, rfl⟩ := List.mem_map.1 hmem
        exact (hall p hp).1 List.mem_cons_self
      · exact ⟨fun hmem => (hall p hp).1 (List.mem_cons_of_mem _ hmem), (hall p hp).2⟩
    · rintro ⟨⟨hnew, hnodup⟩, ⟨hseen, slot, hkey, hadmits⟩, hall⟩
      have hfresh : ∀ p ∈ rest, p.1 ∉ key :: seen := fun p hp hmem => by
        rcases List.mem_cons.1 hmem with he | hmem
        · exact hnew (List.mem_map.2 ⟨p, hp, he⟩)
        · exact (hall p hp).1 hmem
      obtain ⟨others, hrest⟩ := ih.2 ⟨hnodup, fun p hp => ⟨hfresh p hp, (hall p hp).2⟩⟩
      exact ⟨_, hseen, slot, others, hkey, hadmits, hrest, rfl⟩

/-! ## One request, one listed object -/

/-- The metadata that an entry gives. -/
def metadataAt (e : RequestField × String) : Option (String × String) :=
  match e.1 with
  | .metadata name => some (name, e.2)
  | _ => none

section Entries

variable {index : Nat}

/-- **A request is read** exactly if every entry says of it what it is. -/
theorem readRequest_eq_ok_iff {entries : List (RequestField × String)} {r : Request} :
    readRequest index entries = .ok r ↔
      entries.lookup .action = some r.action.name ∧ entries.lookup .key = some r.key ∧ entries.lookup .bucket = r.bucket ∧
      r.metadata = Fields.ofList (entries.filterMap metadataAt) ∧
      entries.lookup .signedUrl = r.signedUrl? ∧ entries.lookup .declineReason = r.declineReason? := by
  constructor
  · intro h
    unfold readRequest at h
    cases haction : entries.lookup .action with
    | none => rw [haction] at h; cases h
    | some type =>
      rw [haction] at h
      dsimp only at h
      cases htype : Action.ofName? type with
      | none => rw [htype] at h; cases h
      | some action =>
        rw [htype] at h
        dsimp only at h
        obtain rfl := Action.ofName?_eq_some_iff.1 htype
        cases hkey : entries.lookup .key with
        | none => rw [hkey] at h; cases h
        | some key =>
          rw [hkey] at h
          cases hurl : entries.lookup .signedUrl <;> cases hreason : entries.lookup .declineReason <;>
            rw [hurl, hreason] at h <;> cases h <;> exact ⟨rfl, rfl, rfl, rfl, rfl, rfl⟩
  · rintro ⟨haction, hkey, hbucket, hmetadata, hurl, hreason⟩
    obtain ⟨action, key, bucket, metadata, decision⟩ := r
    subst hmetadata
    unfold readRequest
    rw [haction, hkey, hbucket, hurl, hreason]
    dsimp only
    rw [Action.ofName?_name]
    cases decision <;> rfl

theorem exists_readRequest_iff {entries : List (RequestField × String)} : (∃ r, readRequest index entries = .ok r) ↔
    (∃ action : Action, entries.lookup .action = some action.name) ∧ (∃ key, entries.lookup .key = some key) ∧
      (entries.lookup .signedUrl = none ∨ entries.lookup .declineReason = none) := by
  constructor
  · rintro ⟨r, hr⟩
    obtain ⟨haction, hkey, -, -, hurl, hreason⟩ := readRequest_eq_ok_iff.1 hr
    refine ⟨⟨_, haction⟩, ⟨_, hkey⟩, ?_⟩
    rw [hurl, hreason, Request.signedUrl?, Request.declineReason?]
    cases r.decision <;> simp
  · rintro ⟨⟨action, haction⟩, ⟨key, hkey⟩, hone⟩
    -- The decision is the one that is given, if one is.
    let decision : Decision := match entries.lookup .signedUrl, entries.lookup .declineReason with
      | some url, _ => .signed url
      | none, some reason => .declined reason
      | none, none => .pending
    refine ⟨{ action, key, bucket := entries.lookup .bucket, metadata := .ofList (entries.filterMap metadataAt), decision },
      readRequest_eq_ok_iff.2 ⟨haction, hkey, rfl, rfl, ?_, ?_⟩⟩
    all_goals
      simp only [Request.signedUrl?, Request.declineReason?, decision]
      cases hurl : entries.lookup .signedUrl <;> cases hreason : entries.lookup .declineReason <;> simp_all

/-- **A listed object is read** exactly if every entry says of it what it is. -/
theorem readObject_eq_ok_iff {entries : List (ObjectField × String)} {o : ListedObject} :
    readObject index entries = .ok o ↔ entries.lookup .key = some o.key ∧
      (entries.lookup .size).bind (fun value => (Numeral.lenient? size64 value.toList).map UInt64.ofNat) = o.size ∧
      entries.lookup .lastModified = o.lastModified ∧ entries.lookup .etag = o.etag := by
  constructor
  · intro h
    unfold readObject at h
    cases hkey : entries.lookup .key with
    | none => rw [hkey] at h; cases h
    | some key =>
      rw [hkey] at h
      cases h
      exact ⟨rfl, rfl, rfl, rfl⟩
  · rintro ⟨hkey, hsize, htime, hetag⟩
    unfold readObject
    rw [hkey, hsize, htime, hetag]
    rfl

theorem exists_readObject_iff {entries : List (ObjectField × String)} :
    (∃ o, readObject index entries = .ok o) ↔ ∃ key, entries.lookup .key = some key := by
  constructor
  · rintro ⟨o, ho⟩
    exact ⟨o.key, (readObject_eq_ok_iff.1 ho).1⟩
  · rintro ⟨key, hkey⟩
    exact ⟨⟨key, _, _, _⟩, readObject_eq_ok_iff.2 ⟨hkey, rfl, rfl, rfl⟩⟩

end Entries

/-! ## What the places say together -/

/-- The application property at a place. -/
def applicationAt (s : Slot × String) : Option (String × String) :=
  match s.1 with
  | .application name => some (name, s.2)
  | _ => none

/-- The message property at a place. -/
def propertyAt (s : Slot × String) : Option (String × String) :=
  match s.1 with
  | .property name => some (name, s.2)
  | _ => none

/-- The entry of a request at a place. -/
def requestAt (s : Slot × String) : Option (Nat × RequestField × String) :=
  match s.1 with
  | .request index field => some (index, field, s.2)
  | _ => none

/-- The entry of a listed object at a place. -/
def objectAt (s : Slot × String) : Option (Nat × ObjectField × String) :=
  match s.1 with
  | .object index field => some (index, field, s.2)
  | _ => none

/-! ## What stands at a place -/

theorem mem_filterMap_iff {α γ : Type} {g : α → Option γ} {s : α} {x : γ} (hg : ∀ t, g t = some x ↔ t = s) {l : List α} :
    x ∈ l.filterMap g ↔ s ∈ l := by
  rw [List.mem_filterMap]
  constructor
  · rintro ⟨t, ht, h⟩
    rw [← (hg t).1 h]
    exact ht
  · exact fun hs => ⟨s, hs, (hg s).2 rfl⟩

theorem mem_filterMap_metadataAt {entries : List (RequestField × String)} {name value : String} :
    (name, value) ∈ entries.filterMap metadataAt ↔ (.metadata name, value) ∈ entries :=
  mem_filterMap_iff fun ⟨field, v⟩ => by cases field <;> simp [metadataAt]

/-- What is taken from things apart by name is apart, if it tells the name. -/
theorem pairwise_filterMap {α γ ι : Type} {g : α × String → Option γ} {key : γ → ι} (name : ι → α)
    (hg : ∀ s x, g s = some x → s.1 = name (key x)) {l : List (α × String)} (h : l.Pairwise fun s t => s.1 ≠ t.1) :
    (l.filterMap g).Pairwise fun x y => key x ≠ key y := by
  refine List.pairwise_filterMap.2 (h.imp ?_)
  intro s t hne x hx y hy hxy
  exact hne (by rw [hg s x hx, hg t y hy, hxy])

theorem pairwise_filterMap_metadataAt {entries : List (RequestField × String)}
    (h : entries.Pairwise fun f g => f.1 ≠ g.1) : (entries.filterMap metadataAt).Pairwise fun a b => a.1 ≠ b.1 :=
  pairwise_filterMap .metadata (by rintro ⟨f, v⟩ x hx; cases f <;> cases hx; rfl) h

section Places

variable {slots : List (Slot × String)}

theorem mem_filterMap_applicationAt {name value : String} :
    (name, value) ∈ slots.filterMap applicationAt ↔ (.application name, value) ∈ slots :=
  mem_filterMap_iff fun ⟨slot, v⟩ => by cases slot <;> simp [applicationAt]

theorem mem_filterMap_propertyAt {name value : String} :
    (name, value) ∈ slots.filterMap propertyAt ↔ (.property name, value) ∈ slots :=
  mem_filterMap_iff fun ⟨slot, v⟩ => by cases slot <;> simp [propertyAt]

theorem mem_filterMap_requestAt {i : Nat} {f : RequestField} {value : String} :
    (i, f, value) ∈ slots.filterMap requestAt ↔ (.request i f, value) ∈ slots :=
  mem_filterMap_iff fun ⟨slot, v⟩ => by cases slot <;> simp [requestAt, and_assoc]

theorem mem_filterMap_objectAt {i : Nat} {f : ObjectField} {value : String} :
    (i, f, value) ∈ slots.filterMap objectAt ↔ (.object i f, value) ∈ slots :=
  mem_filterMap_iff fun ⟨slot, v⟩ => by cases slot <;> simp [objectAt, and_assoc]

theorem pairwise_filterMap_applicationAt (h : Apart slots) :
    (slots.filterMap applicationAt).Pairwise fun a b => a.1 ≠ b.1 :=
  pairwise_filterMap .application (by rintro ⟨s, v⟩ x hx; cases s <;> cases hx; rfl) h

theorem pairwise_filterMap_propertyAt (h : Apart slots) :
    (slots.filterMap propertyAt).Pairwise fun a b => a.1 ≠ b.1 :=
  pairwise_filterMap .property (by rintro ⟨s, v⟩ x hx; cases s <;> cases hx; rfl) h

theorem pairwise_entriesUnder_requestAt (h : Apart slots) (i : Nat) :
    (entriesUnder i (slots.filterMap requestAt)).Pairwise fun f g => f.1 ≠ g.1 :=
  pairwise_entriesUnder (pairwise_filterMap (fun p => .request p.1 p.2)
    (by rintro ⟨s, v⟩ x hx; cases s <;> cases hx; rfl) h) i

theorem pairwise_entriesUnder_objectAt (h : Apart slots) (i : Nat) :
    (entriesUnder i (slots.filterMap objectAt)).Pairwise fun f g => f.1 ≠ g.1 :=
  pairwise_entriesUnder (pairwise_filterMap (fun p => .object p.1 p.2)
    (by rintro ⟨s, v⟩ x hx; cases s <;> cases hx; rfl) h) i

/-- **A field under a number is what stands at its place**, no place being given twice. -/
theorem lookup_entriesUnder_requestAt (h : Apart slots) {i : Nat} {f : RequestField} {value : String} :
    (entriesUnder i (slots.filterMap requestAt)).lookup f = some value ↔ (.request i f, value) ∈ slots := by
  rw [Fields.lookup_eq_some_iff (pairwise_entriesUnder_requestAt h i), mem_entriesUnder, mem_filterMap_requestAt]

theorem lookup_entriesUnder_objectAt (h : Apart slots) {i : Nat} {f : ObjectField} {value : String} :
    (entriesUnder i (slots.filterMap objectAt)).lookup f = some value ↔ (.object i f, value) ∈ slots := by
  rw [Fields.lookup_eq_some_iff (pairwise_entriesUnder_objectAt h i), mem_entriesUnder, mem_filterMap_objectAt]

theorem lookup_listing (h : Apart slots) {value : String} :
    slots.lookup .listing = some value ↔ (.listing, value) ∈ slots :=
  Fields.lookup_eq_some_iff h

end Places

/-! ## All places -/

/-- The body that the places describe: that of the one numbered part the listing flag asks for. -/
def readBody (slots : List (Slot × String)) : Except DocumentError Body :=
  if slots.lookup .listing = some "true" then
    if slots.filterMap requestAt = [] then
      Body.listing <$> readNumbered .object readObject (slots.filterMap objectAt)
    else .error .mixedModes
  else if slots.filterMap objectAt = [] then
    Body.signing <$> readNumbered .request readRequest (slots.filterMap requestAt)
  else .error .mixedModes

theorem ofSlots_eq (slots : List (Slot × String)) : ofSlots slots = (do
    let body ←
      if slots.lookup .listing = some "true" then
        if (slots.filterMap requestAt).isEmpty then do
          let parts ← numbered .object (slots.filterMap objectAt)
          Body.listing <$> parts.mapM fun part => readObject part.1 part.2
        else .error .mixedModes
      else if (slots.filterMap objectAt).isEmpty then do
        let parts ← numbered .request (slots.filterMap requestAt)
        Body.signing <$> parts.mapM fun part => readRequest part.1 part.2
      else .error .mixedModes
    return { application := Fields.ofList (slots.filterMap applicationAt)
             properties := Fields.ofList (slots.filterMap propertyAt)
             body }) := rfl

theorem ofSlots_eq_map (slots : List (Slot × String)) : ofSlots slots = (readBody slots).map fun body =>
    { application := Fields.ofList (slots.filterMap applicationAt)
      properties := Fields.ofList (slots.filterMap propertyAt)
      body } := by
  rw [ofSlots_eq, readBody, readNumbered, readNumbered]
  simp only [List.isEmpty_iff, map_bind]
  by_cases hflag : slots.lookup .listing = some "true"
  · by_cases hrequests : slots.filterMap requestAt = []
    · rw [if_pos hflag, if_pos hflag, if_pos hrequests, if_pos hrequests]
      cases numbered .object (slots.filterMap objectAt) <;> rfl
    · rw [if_pos hflag, if_pos hflag, if_neg hrequests, if_neg hrequests]
      rfl
  · by_cases hobjects : slots.filterMap objectAt = []
    · rw [if_neg hflag, if_neg hflag, if_pos hobjects, if_pos hobjects]
      cases numbered .request (slots.filterMap requestAt) <;> rfl
    · rw [if_neg hflag, if_neg hflag, if_neg hobjects, if_neg hobjects]
      rfl

theorem readBody_eq_ok_iff {slots : List (Slot × String)} {body : Body} : readBody slots = .ok body ↔
    (slots.lookup .listing = some "true" ∧ slots.filterMap requestAt = [] ∧ ∃ objects, body = .listing objects ∧
        readNumbered .object readObject (slots.filterMap objectAt) = .ok objects) ∨
     (slots.lookup .listing ≠ some "true" ∧ slots.filterMap objectAt = [] ∧ ∃ requests, body = .signing requests ∧
        readNumbered .request readRequest (slots.filterMap requestAt) = .ok requests) := by
  unfold readBody
  by_cases hflag : slots.lookup .listing = some "true"
  · rw [if_pos hflag]
    by_cases hrequests : slots.filterMap requestAt = []
    · rw [if_pos hrequests, Traversal.map_eq_ok_iff]
      simp [hflag, hrequests, and_comm, eq_comm]
    · simp [hflag, hrequests]
  · rw [if_neg hflag]
    by_cases hobjects : slots.filterMap objectAt = []
    · rw [if_pos hobjects, Traversal.map_eq_ok_iff]
      simp [hflag, hobjects, and_comm, eq_comm]
    · simp [hflag, hobjects]

/-- **A message is read from places** exactly if its properties are those given and its body is what they describe. -/
theorem ofSlots_eq_ok_iff {slots : List (Slot × String)} {m : Message} : ofSlots slots = .ok m ↔
    m.application = Fields.ofList (slots.filterMap applicationAt) ∧
    m.properties = Fields.ofList (slots.filterMap propertyAt) ∧ readBody slots = .ok m.body := by
  rw [ofSlots_eq_map]
  obtain ⟨application, properties, body⟩ := m
  cases readBody slots <;> simp [Except.map, eq_comm]

/-- **A document is read** exactly if its pairs are, at places that describe a message. -/
theorem exists_ofDocument_iff {d : Document} : (∃ m, ofDocument d = .ok m) ↔
    ∃ slots, readSlots [] d.pairs = .ok slots ∧ ∃ body, readBody slots = .ok body := by
  constructor
  · rintro ⟨m, hm⟩
    obtain ⟨slots, hslots, hof⟩ := Traversal.exists_of_bind_eq_ok hm
    exact ⟨slots, hslots, m.body, (ofSlots_eq_ok_iff.1 hof).2.2⟩
  · rintro ⟨slots, hslots, body, hbody⟩
    let m : Message := { application := Fields.ofList (slots.filterMap applicationAt)
                         properties := Fields.ofList (slots.filterMap propertyAt)
                         body }
    refine ⟨m, ?_⟩
    rw [ofDocument, hslots]
    exact ofSlots_eq_ok_iff.2 ⟨rfl, rfl, hbody⟩

/-- A message that is read has no more parts than there are numbers for them. -/
theorem length_le_of_ofDocument {d : Document} {m : Message} (h : ofDocument d = .ok m) : m.body.length ≤ size64 := by
  obtain ⟨slots, hslots, hm⟩ := Traversal.exists_of_bind_eq_ok h
  obtain ⟨-, -, hread, -⟩ := eq_map_of_readSlots hslots
  rcases readBody_eq_ok_iff.1 (ofSlots_eq_ok_iff.1 hm).2.2 with ⟨-, -, objects, hbody, hnumbered⟩ |
    ⟨-, -, requests, hbody, hnumbered⟩
  · rw [hbody]
    exact length_le_of_readNumbered hnumbered fun ⟨i, f, v⟩ hi => (hread _ (mem_filterMap_objectAt.1 hi)).1
  · rw [hbody]
    exact length_le_of_readNumbered hnumbered fun ⟨i, f, v⟩ hi => (hread _ (mem_filterMap_requestAt.1 hi)).1

end Message
end StorageGate
