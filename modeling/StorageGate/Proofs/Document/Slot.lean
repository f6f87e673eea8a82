import Mathlib.Logic.Basic
import StorageGate.Document.Slot
import StorageGate.Proofs.Text.Numeral
/-!
# Keys and their places

The key of a place names that place again (`ofKey_key`), as long as its number is one of 64 bits; so places that differ
have different keys (`key_injOn`).  One equation for each lead says what `ofKey` makes of a key that has it; no two leads
agree in their first character.  No other key names a place (`ofKey_eq_ok_iff`): a number is read from its numeral alone.
-/
namespace StorageGate

theorem afterLead?_append (lead text : List Char) : afterLead? lead (lead ++ text) = some text := by
  have h : lead.isPrefixOf (lead ++ text) = true := List.isPrefixOf_iff_prefix.2 (List.prefix_append lead text)
  rw [afterLead?, if_pos h, List.drop_left]

theorem afterLead?_eq_some_iff {lead text rest : List Char} : afterLead? lead text = some rest ↔ text = lead ++ rest := by
  constructor
  · intro h
    unfold afterLead? at h
    split at h
    · rename_i hlead
      obtain ⟨r, rfl⟩ := List.isPrefixOf_iff_prefix.1 hlead
      rw [List.drop_left] at h
      rw [Option.some.inj h]
    · cases h
  · rintro rfl
    exact afterLead?_append lead rest

/-- A text has a lead, and what is made of the rest counts, or what is made otherwise counts. -/
theorem lead_or_else {α : Type} {lead text : List Char} {f : List Char → α} {x y : α}
    (h : (match afterLead? lead text with | some rest => f rest | none => x) = y) :
    (∃ rest, text = lead ++ rest ∧ f rest = y) ∨ x = y := by
  cases hlead : afterLead? lead text with
  | none => exact .inr (by rw [hlead] at h; exact h)
  | some rest => exact .inl ⟨rest, afterLead?_eq_some_iff.1 hlead, by rw [hlead] at h; exact h⟩

theorem RequestField.ofName?_name (field : RequestField) : RequestField.ofName? field.name = some field := by
  unfold RequestField.name RequestField.ofName?
  cases field <;> simp [afterLead?]

theorem ObjectField.ofName?_name (field : ObjectField) : ObjectField.ofName? field.name = some field := by
  unfold ObjectField.name ObjectField.ofName?
  cases field <;> simp

theorem RequestField.ofName?_eq_some_iff {text : List Char} {field : RequestField} :
    ofName? text = some field ↔ field.name = text := by
  constructor
  · intro h
    unfold ofName? at h
    -- Every branch but the last is the text of one field.
    iterate 5
      rcases ite_eq_iff.1 h with ⟨htext, hfield⟩ | ⟨-, h⟩
      · cases hfield
        exact htext.symm
    obtain ⟨name, hname, rfl⟩ := Option.map_eq_some_iff.1 h
    rw [afterLead?_eq_some_iff.1 hname]
    exact congrArg ("metadata.".toList ++ ·) String.toList_ofList
  · rintro rfl
    exact ofName?_name field

theorem ObjectField.ofName?_eq_some_iff {text : List Char} {field : ObjectField} :
    ofName? text = some field ↔ field.name = text := by
  constructor
  · intro h
    unfold ofName? at h
    iterate 4
      rcases ite_eq_iff.1 h with ⟨htext, hfield⟩ | ⟨-, h⟩
      · cases hfield
        exact htext.symm
    cases h
  · rintro rfl
    exact ofName?_name field

namespace Slot

/-! ## One lead at a time -/

theorem ofKey_listing : ofKey "listObjectsInBucket" = .ok listing := by
  rw [ofKey, if_pos rfl]

theorem ofKey_application (name : String) : ofKey ("app." ++ name) = .ok (application name) := by
  have hne : "app." ++ name ≠ "listObjectsInBucket" := fun he => by
    have := congrArg String.toList he
    simp at this
  rw [ofKey, if_neg hne, String.toList_append, afterLead?_append]
  simp

theorem ofKey_property (name : String) : ofKey ("msg." ++ name) = .ok (property name) := by
  have hne : "msg." ++ name ≠ "listObjectsInBucket" := fun he => by
    have := congrArg String.toList he
    simp at this
  rw [ofKey, if_neg hne, String.toList_append, afterLead?_append]
  simp [afterLead?]

theorem ofKey_request {key : String} {rest : List Char} (h : key.toList = "sigreq.".toList ++ rest) :
    ofKey key = match cutIndex? rest with
      | none => .error (.invalidIndex key)
      | some (index, field) =>
        match RequestField.ofName? field with
        | some field => .ok (request index field)
        | none => .error (.unknownKey key) := by
  have hne : key ≠ "listObjectsInBucket" := fun he => by
    rw [he] at h
    simp at h
  have happ : afterLead? "app.".toList ("sigreq.".toList ++ rest) = none := by simp [afterLead?]
  have hmsg : afterLead? "msg.".toList ("sigreq.".toList ++ rest) = none := by simp [afterLead?]
  rewrite [ofKey, if_neg hne, h, happ, hmsg, afterLead?_append]
  rfl

theorem ofKey_object {key : String} {rest : List Char} (h : key.toList = "object.".toList ++ rest) :
    ofKey key = match cutIndex? rest with
      | none => .error (.invalidIndex key)
      | some (index, field) =>
        match ObjectField.ofName? field with
        | some field => .ok (object index field)
        | none => .error (.unknownKey key) := by
  have hne : key ≠ "listObjectsInBucket" := fun he => by
    rw [he] at h
    simp at h
  have happ : afterLead? "app.".toList ("object.".toList ++ rest) = none := by simp [afterLead?]
  have hmsg : afterLead? "msg.".toList ("object.".toList ++ rest) = none := by simp [afterLead?]
  have hreq : afterLead? "sigreq.".toList ("object.".toList ++ rest) = none := by simp [afterLead?]
  rewrite [ofKey, if_neg hne, h, happ, hmsg, hreq, afterLead?_append]
  rfl

/-! ## The key of a place -/

/-- The number in a key ends where the first dot stands. -/
theorem span_write_append (index : Nat) (field : List Char) :
    (Numeral.write index ++ '.' :: field).takeWhile (· != '.') = Numeral.write index ∧
      (Numeral.write index ++ '.' :: field).dropWhile (· != '.') = '.' :: field := by
  have hne : ∀ c ∈ Numeral.write index, (c != '.') = true := fun c hc => by
    have hdigit := Numeral.isDigit_of_mem_write hc
    rw [bne_iff_ne]
    rintro rfl
    exact absurd hdigit (by decide)
  rw [List.takeWhile_append_of_pos hne, List.dropWhile_append_of_pos hne]
  simp

theorem cutIndex?_write_append (index : Nat) (field : List Char) :
    cutIndex? (Numeral.write index ++ '.' :: field) = (Numeral.canonical? size64 (Numeral.write index)).map (·, field) := by
  obtain ⟨htake, hdrop⟩ := span_write_append index field
  rw [cutIndex?, hdrop, htake]

theorem cutIndex?_write {index : Nat} (h : index < size64) (field : List Char) :
    cutIndex? (Numeral.write index ++ '.' :: field) = some (index, field) := by
  rw [cutIndex?_write_append, Numeral.canonical?_write h]
  rfl

theorem cutIndex?_eq_some_iff {text field : List Char} {index : Nat} :
    cutIndex? text = some (index, field) ↔ index < size64 ∧ text = Numeral.write index ++ '.' :: field := by
  constructor
  · intro h
    unfold cutIndex? at h
    split at h
    · cases h
    · rename_i c rest hdrop
      obtain ⟨n, hn, he⟩ := Option.map_eq_some_iff.1 h
      cases he
      obtain ⟨hlt, htake⟩ := Numeral.canonical?_eq_some_iff.1 hn
      have hdot : c = '.' := by
        have hhead := List.head?_dropWhile_not (· != '.') text
        simpa [hdrop] using hhead
      have hsplit := List.takeWhile_append_dropWhile (p := (· != '.')) (l := text)
      rw [htake, hdrop, hdot] at hsplit
      exact ⟨hlt, hsplit.symm⟩
  · rintro ⟨hlt, rfl⟩
    exact cutIndex?_write hlt field

theorem eq_of_cutIndex?_write {index n : Nat} {field text : List Char}
    (h : cutIndex? (Numeral.write index ++ '.' :: field) = some (n, text)) : n = index ∧ text = field := by
  rw [cutIndex?_write_append] at h
  obtain ⟨m, hm, he⟩ := Option.map_eq_some_iff.1 h
  cases he
  exact ⟨(Numeral.write_injective (Numeral.canonical?_eq_some_iff.1 hm).2).symm, rfl⟩

/-- The number of a place, if it has one, is of 64 bits. -/
def InRange : Slot → Prop
  | request index _ => index < size64
  | object index _ => index < size64
  | _ => True

/-- **The key of a place names the place.** -/
theorem ofKey_key {slot : Slot} (h : slot.InRange) : ofKey slot.key = .ok slot := by
  cases slot with
  | listing => exact ofKey_listing
  | application name => exact ofKey_application name
  | property name => exact ofKey_property name
  | request index field =>
    have htext : (key (request index field)).toList
        = "sigreq.".toList ++ (Numeral.write index ++ '.' :: field.name) := by
      unfold key
      rw [String.toList_ofList, List.append_assoc]
    rw [ofKey_request htext, cutIndex?_write h]
    dsimp only
    rw [RequestField.ofName?_name]
  | object index field =>
    have htext : (key (object index field)).toList
        = "object.".toList ++ (Numeral.write index ++ '.' :: field.name) := by
      unfold key
      rw [String.toList_ofList, List.append_assoc]
    rw [ofKey_object htext, cutIndex?_write h]
    dsimp only
    rw [ObjectField.ofName?_name]

/-- **A key names a place exactly if it is the key of the place.** -/
theorem ofKey_eq_ok_iff {key : String} {slot : Slot} : ofKey key = .ok slot ↔ slot.InRange ∧ slot.key = key := by
  constructor
  · intro h
    unfold ofKey at h
    rcases ite_eq_iff.1 h with ⟨hlisting, hslot⟩ | ⟨-, h⟩
    · cases hslot
      exact ⟨trivial, hlisting.symm⟩
    rcases lead_or_else h with ⟨name, hname, hslot⟩ | h
    · cases hslot
      refine ⟨trivial, String.toList_inj.1 (String.toList_append.trans ?_)⟩
      rw [hname]
      exact congrArg ("app.".toList ++ ·) String.toList_ofList
    rcases lead_or_else h with ⟨name, hname, hslot⟩ | h
    · cases hslot
      refine ⟨trivial, String.toList_inj.1 (String.toList_append.trans ?_)⟩
      rw [hname]
      exact congrArg ("msg.".toList ++ ·) String.toList_ofList
    rcases lead_or_else h with ⟨rest, hrest, h⟩ | h
    · split at h
      · cases h
      rename_i index field hcut
      obtain ⟨hlt, htext⟩ := cutIndex?_eq_some_iff.1 hcut
      split at h
      · rename_i f hfield
        cases h
        refine ⟨hlt, String.toList_inj.1 (String.toList_ofList.trans ?_)⟩
        rw [hrest, htext, RequestField.ofName?_eq_some_iff.1 hfield, List.append_assoc]
      · cases h
    rcases lead_or_else h with ⟨rest, hrest, h⟩ | h
    · split at h
      · cases h
      rename_i index field hcut
      obtain ⟨hlt, htext⟩ := cutIndex?_eq_some_iff.1 hcut
      split at h
      · rename_i f hfield
        cases h
        refine ⟨hlt, String.toList_inj.1 (String.toList_ofList.trans ?_)⟩
        rw [hrest, htext, ObjectField.ofName?_eq_some_iff.1 hfield, List.append_assoc]
      · cases h
    · cases h
  · rintro ⟨hrange, rfl⟩
    exact ofKey_key hrange

/-- **Places with one key are one place.** -/
theorem key_injOn {s t : Slot} (hs : s.InRange) (ht : t.InRange) (h : s.key = t.key) : s = t := by
  have hok : (.ok s : Except DocumentError Slot) = .ok t := by rw [← ofKey_key hs, h, ofKey_key ht]
  exact Except.ok.inj hok

end Slot
end StorageGate
