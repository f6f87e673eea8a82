import StorageGate.Proofs.Document.Numbered
import StorageGate.Proofs.Document.Slot
import StorageGate.Proofs.Fields
/-!
# The places of a message

The places of a message are those of its properties and of its numbered parts.  No two are the same (`apart_slots`), and each
can be read back (`readable_slots`): it takes the value that is written there, and its number has 64 bits.  A body is held
to as many parts as that numbers; no list in memory has more.
-/
namespace StorageGate

/-- How many numbered parts a body has. -/
def Body.length : Body → Nat
  | signing requests => requests.length
  | listing objects => objects.length

namespace Message

/-! ## Requests and objects by their entries -/

/-- What is written of a request, without its number. -/
def requestEntries (r : Request) : List (RequestField × String) :=
  [(.action, r.action.name), (.key, r.key)]
    ++ (r.bucket.map (RequestField.bucket, ·)).toList
    ++ r.metadata.toList.map (fun e => (.metadata e.1, e.2))
    ++ match r.decision with
      | .pending => []
      | .signed url => [(.signedUrl, url)]
      | .declined reason => [(.declineReason, reason)]

/-- What is written of a listed object, without its number. -/
def objectEntries (o : ListedObject) : List (ObjectField × String) :=
  [(.key, o.key)]
    ++ (o.size.map fun size => (ObjectField.size, String.ofList (Numeral.write size.toNat))).toList
    ++ (o.lastModified.map (ObjectField.lastModified, ·)).toList
    ++ (o.etag.map (ObjectField.etag, ·)).toList

theorem requestEntries_ne_nil (r : Request) : requestEntries r ≠ [] := by simp [requestEntries]

theorem objectEntries_ne_nil (o : ListedObject) : objectEntries o ≠ [] := by simp [objectEntries]

theorem requestSlots_eq (index : Nat) (r : Request) :
    requestSlots index r = (requestEntries r).map fun f => (.request index f.1, f.2) := by
  unfold requestSlots requestEntries
  cases r.bucket <;> cases r.decision <;> simp [Function.comp_def]

theorem objectSlots_eq (index : Nat) (o : ListedObject) :
    objectSlots index o = (objectEntries o).map fun f => (.object index f.1, f.2) := by
  unfold objectSlots objectEntries
  cases o.size <;> cases o.lastModified <;> cases o.etag <;> rfl

/-! ## The places of a message -/

/-- Places of which no two are the same. -/
def Apart (slots : List (Slot × String)) : Prop := slots.Pairwise fun s t => s.1 ≠ t.1

/-- The places of things under their numbers. -/
def numberedSlots {α field : Type} (mk : Nat → field → Slot) (entries : α → List (field × String)) (xs : List α) :
    List (Slot × String) :=
  xs.zipIdx.flatMap fun x => (entries x.1).map fun f => (mk x.2 f.1, f.2)

/-- The places of the properties. -/
def propertySlots (m : Message) : List (Slot × String) :=
  m.application.toList.map (fun e => (.application e.1, e.2)) ++ m.properties.toList.map (fun e => (.property e.1, e.2))

theorem slots_signing {m : Message} {requests : List Request} (h : m.body = .signing requests) :
    m.slots = m.propertySlots ++ numberedSlots .request requestEntries requests := by
  unfold slots
  have hflag : m.isListing = false := by rw [isListing, h]
  rw [hflag, if_neg Bool.false_ne_true, h, List.nil_append]
  dsimp only
  simp only [requestSlots_eq]
  rfl

theorem slots_listing {m : Message} {objects : List ListedObject} (h : m.body = .listing objects) :
    m.slots = (.listing, "true") :: (m.propertySlots ++ numberedSlots .object objectEntries objects) := by
  unfold slots
  have hflag : m.isListing = true := by rw [isListing, h]
  rw [hflag, if_pos rfl, h]
  dsimp only
  simp only [objectSlots_eq]
  rfl

theorem mem_numberedSlots {α field : Type} {mk : Nat → field → Slot} {entries : α → List (field × String)} {xs : List α}
    {s : Slot × String} (h : s ∈ numberedSlots mk entries xs) :
    ∃ x ∈ xs, ∃ i < xs.length, ∃ f ∈ entries x, s = (mk i f.1, f.2) := by
  obtain ⟨x, hx, hs⟩ := List.mem_flatMap.1 h
  obtain ⟨f, hf, rfl⟩ := List.mem_map.1 hs
  exact ⟨x.1, List.fst_mem_of_mem_zipIdx hx, x.2, List.snd_lt_of_mem_zipIdx hx, f, hf, rfl⟩

theorem apart_numberedSlots {α field : Type} {mk : Nat → field → Slot} {entries : α → List (field × String)}
    (hmk : ∀ {i j f g}, mk i f = mk j g → i = j ∧ f = g) (hentries : ∀ x, (entries x).Pairwise fun f g => f.1 ≠ g.1)
    (xs : List α) : Apart (numberedSlots mk entries xs) := by
  refine List.pairwise_flatMap.2 ⟨fun x _ => ?_, ?_⟩
  · exact List.pairwise_map.2 ((hentries x.1).imp fun hne he => hne (hmk he).2)
  · have hindex : xs.zipIdx.Pairwise fun x y => x.2 ≠ y.2 := by
      have hrange : (xs.zipIdx.map Prod.snd).Pairwise (· ≠ ·) := by
        rw [List.zipIdx_map_snd]
        exact List.nodup_range'
      exact List.pairwise_map.1 hrange
    refine hindex.imp fun hne s hs t ht he => ?_
    obtain ⟨f, _, rfl⟩ := List.mem_map.1 hs
    obtain ⟨g, _, rfl⟩ := List.mem_map.1 ht
    exact hne (hmk he).1

/-- Where a field stands among those of its request. -/
def fieldRank : RequestField → Nat
  | .action => 0
  | .key => 1
  | .bucket => 2
  | .metadata _ => 3
  | .signedUrl | .declineReason => 4

theorem pairwise_append_of_rank {l₁ l₂ : List (RequestField × String)} (n : Nat)
    (h₁ : l₁.Pairwise fun f g => f.1 ≠ g.1) (h₂ : l₂.Pairwise fun f g => f.1 ≠ g.1)
    (hr₁ : ∀ f ∈ l₁, fieldRank f.1 < n) (hr₂ : ∀ f ∈ l₂, n ≤ fieldRank f.1) :
    (l₁ ++ l₂).Pairwise fun f g => f.1 ≠ g.1 := by
  refine List.pairwise_append.2 ⟨h₁, h₂, fun f hf g hg he => ?_⟩
  have hlt := hr₁ f hf
  have hle := hr₂ g hg
  rw [he] at hlt
  omega

theorem pairwise_requestEntries (r : Request) : (requestEntries r).Pairwise fun f g => f.1 ≠ g.1 := by
  obtain ⟨action, key, bucket, metadata, decision⟩ := r
  have hmeta : (metadata.toList.map fun e => (RequestField.metadata e.1, e.2)).Pairwise fun f g => f.1 ≠ g.1 := by
    refine List.pairwise_map.2 (metadata.ascending.imp fun hlt he => ?_)
    exact String.lt_irrefl _ (RequestField.metadata.inj he ▸ hlt)
  have hrank : ∀ f ∈ metadata.toList.map (fun e => (RequestField.metadata e.1, e.2)), fieldRank f.1 = 3 := by
    intro f hf
    obtain ⟨e, _, rfl⟩ := List.mem_map.1 hf
    rfl
  refine pairwise_append_of_rank 4 (pairwise_append_of_rank 3 (pairwise_append_of_rank 2 ?_ ?_ ?_ ?_) hmeta ?_ ?_) ?_ ?_ ?_
  · simp
  · cases bucket <;> simp
  · simp [fieldRank]
  · cases bucket <;> simp [fieldRank]
  · cases bucket <;> simp [fieldRank]
  · exact fun f hf => Nat.le_of_eq (hrank f hf).symm
  · cases decision <;> simp
  · intro f hf
    rcases List.mem_append.1 hf with h | h
    · clear hf
      revert f
      cases bucket <;> simp [fieldRank]
    · rw [hrank f h]
      decide
  · cases decision <;> simp [fieldRank]

theorem pairwise_objectEntries (o : ListedObject) : (objectEntries o).Pairwise fun f g => f.1 ≠ g.1 := by
  obtain ⟨key, size, lastModified, etag⟩ := o
  cases size <;> cases lastModified <;> cases etag <;> simp [objectEntries]

theorem mem_propertySlots {m : Message} {s : Slot × String} (h : s ∈ m.propertySlots) :
    (∃ name, s.1 = .application name) ∨ ∃ name, s.1 = .property name := by
  rcases List.mem_append.1 h with h | h
  · obtain ⟨e, _, rfl⟩ := List.mem_map.1 h
    exact .inl ⟨e.1, rfl⟩
  · obtain ⟨e, _, rfl⟩ := List.mem_map.1 h
    exact .inr ⟨e.1, rfl⟩

theorem apart_propertySlots (m : Message) : Apart m.propertySlots := by
  refine List.pairwise_append.2 ⟨?_, ?_, ?_⟩
  · refine List.pairwise_map.2 (m.application.ascending.imp fun hlt he => ?_)
    exact String.lt_irrefl _ (Slot.application.inj he ▸ hlt)
  · refine List.pairwise_map.2 (m.properties.ascending.imp fun hlt he => ?_)
    exact String.lt_irrefl _ (Slot.property.inj he ▸ hlt)
  · intro s hs t ht he
    obtain ⟨a, _, rfl⟩ := List.mem_map.1 hs
    obtain ⟨b, _, rfl⟩ := List.mem_map.1 ht
    cases he

/-- Behind the properties may come any places that are none of theirs. -/
theorem apart_append {m : Message} {rest : List (Slot × String)} (hrest : Apart rest)
    (hname : ∀ s ∈ rest, ∀ name, s.1 ≠ .application name ∧ s.1 ≠ .property name) :
    Apart (m.propertySlots ++ rest) := by
  refine List.pairwise_append.2 ⟨apart_propertySlots m, hrest, fun s hs t ht he => ?_⟩
  rcases mem_propertySlots hs with ⟨name, h⟩ | ⟨name, h⟩
  · exact (hname t ht name).1 (he ▸ h)
  · exact (hname t ht name).2 (he ▸ h)

/-- **No two places of a message are the same.** -/
theorem apart_slots (m : Message) : Apart m.slots := by
  cases h : m.body with
  | signing requests =>
    rw [slots_signing h]
    refine apart_append (apart_numberedSlots (fun he => ?_) pairwise_requestEntries requests) fun s hs name => ?_
    · injection he with hi hf
      exact ⟨hi, hf⟩
    · obtain ⟨x, _, i, _, f, _, rfl⟩ := mem_numberedSlots hs
      exact ⟨Slot.noConfusion, Slot.noConfusion⟩
  | listing objects =>
    rw [slots_listing h]
    refine List.pairwise_cons.2 ⟨fun s hs he => ?_, ?_⟩
    · rcases List.mem_append.1 hs with hs | hs
      · rcases mem_propertySlots hs with ⟨name, h⟩ | ⟨name, h⟩ <;> · rw [h] at he; cases he
      · obtain ⟨x, _, i, _, f, _, rfl⟩ := mem_numberedSlots hs
        cases he
    · refine apart_append (apart_numberedSlots (fun he => ?_) pairwise_objectEntries objects) fun s hs name => ?_
      · injection he with hi hf
        exact ⟨hi, hf⟩
      · obtain ⟨x, _, i, _, f, _, rfl⟩ := mem_numberedSlots hs
        exact ⟨Slot.noConfusion, Slot.noConfusion⟩

/-- A place that can be read back: its number is of 64 bits and it takes its value. -/
def Readable (s : Slot × String) : Prop := s.1.InRange ∧ s.1.admits s.2 = true

theorem admits_objectEntries {o : ListedObject} {f : ObjectField × String} (hf : f ∈ objectEntries o) (index : Nat) :
    (Slot.object index f.1).admits f.2 = true := by
  obtain ⟨key, size, lastModified, etag⟩ := o
  have hsize : ∀ n : UInt64, (Slot.object index .size).admits (String.ofList (Numeral.write n.toNat)) = true := fun n => by
    have hn : n.toNat < size64 := n.toNat_lt_size
    rw [Slot.admits, String.toList_ofList, Numeral.lenient?_write hn]
    rfl
  obtain ⟨f, value⟩ := f
  cases f with
  | size =>
    cases size with
    | none => cases lastModified <;> cases etag <;> simp [objectEntries] at hf
    | some n =>
      have hv : value = String.ofList (Numeral.write n.toNat) := by
        cases lastModified <;> cases etag <;> simpa [objectEntries] using hf
      rw [hv]
      exact hsize n
  | _ => rfl

theorem readable_propertySlots {m : Message} {s : Slot × String} (h : s ∈ m.propertySlots) : Readable s := by
  obtain ⟨slot, value⟩ := s
  rcases mem_propertySlots h with ⟨name, h⟩ | ⟨name, h⟩
  · cases h; exact ⟨trivial, rfl⟩
  · cases h; exact ⟨trivial, rfl⟩

/-- **Every place of a message can be read back.** -/
theorem readable_slots {m : Message} (hm : m.body.length ≤ size64) : ∀ s ∈ m.slots, Readable s := by
  cases h : m.body with
  | signing requests =>
    rw [h] at hm
    rw [slots_signing h]
    intro s hs
    rcases List.mem_append.1 hs with hs | hs
    · exact readable_propertySlots hs
    · obtain ⟨x, _, i, hi, f, _, rfl⟩ := mem_numberedSlots hs
      exact ⟨Nat.lt_of_lt_of_le hi hm, rfl⟩
  | listing objects =>
    rw [h] at hm
    rw [slots_listing h]
    intro s hs
    rcases List.mem_cons.1 hs with rfl | hs
    · exact ⟨trivial, rfl⟩
    · rcases List.mem_append.1 hs with hs | hs
      · exact readable_propertySlots hs
      · obtain ⟨x, _, i, hi, f, hf, rfl⟩ := mem_numberedSlots hs
        exact ⟨Nat.lt_of_lt_of_le hi hm, admits_objectEntries hf i⟩

end Message
end StorageGate
