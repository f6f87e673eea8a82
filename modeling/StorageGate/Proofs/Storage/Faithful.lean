import StorageGate.Proofs.Storage.WrittenPage
/-!
# Pages that are read back as they were

A page that was written is read back without what its texts begin and end with, where that is white space or, in a tag, a quote
(`parse_write_faithful`).  So it is read back as it was just if there is nothing of that kind, and an object whose key begins
with a blank is read as another object.
-/
namespace StorageGate

/-- Whether no character of a class stands at either end of a text. -/
def IsBare (p : Char → Bool) (text : String) : Prop :=
  (∀ c ∈ text.toList.head?, p c = false) ∧ ∀ c ∈ text.toList.getLast?, p c = false

section Bare

variable {p : Char → Bool}

theorem dropWhile_eq_self_iff : ∀ {text : List Char}, text.dropWhile p = text ↔ ∀ c ∈ text.head?, p c = false
  | [] => ⟨fun _ => fun _ h => (by cases h), fun _ => rfl⟩
  | c :: text => by
    constructor
    · intro h d hd
      cases hd
      refine eq_false_of_ne_true fun hc => ?_
      rw [List.dropWhile_cons_of_pos hc] at h
      have hlength := (List.dropWhile_suffix p (l := text)).length_le
      rw [h, List.length_cons] at hlength
      omega
    · intro h
      exact List.dropWhile_cons_of_neg (by rw [h c rfl]; exact Bool.false_ne_true)

theorem trimBy_eq_self_iff {text : String} : trimBy p text.toList = text.toList ↔ IsBare p text := by
  have hlast : (∀ c ∈ text.toList.getLast?, p c = false) ↔ text.toList.reverse.dropWhile p = text.toList.reverse := by
    rw [dropWhile_eq_self_iff, List.head?_reverse]
  rw [IsBare, hlast, ← dropWhile_eq_self_iff, trimBy]
  constructor
  · intro h
    have hstart : text.toList.dropWhile p = text.toList := by
      have hlength := (List.dropWhile_suffix p (l := (text.toList.dropWhile p).reverse)).length_le
      rw [← List.length_reverse, h, List.length_reverse] at hlength
      exact (List.dropWhile_suffix p).eq_of_length (Nat.le_antisymm (List.dropWhile_suffix p).length_le hlength)
    rw [hstart] at h
    exact ⟨hstart, List.reverse_eq_iff.1 h⟩
  · rintro ⟨hstart, hend⟩
    rw [hstart, hend, List.reverse_reverse]

end Bare

theorem ofList_eq_iff {chars : List Char} {text : String} : String.ofList chars = text ↔ chars = text.toList := by
  constructor
  · rintro rfl
    rw [String.toList_ofList]
  · rintro rfl
    rw [String.ofList_toList]

theorem trimmed_eq_self_iff {text : String} : trimmed text = text ↔ IsBare Xml.isSpace text :=
  ofList_eq_iff.trans trimBy_eq_self_iff

theorem map_eq_self_iff {f : String → String} {text : Option String} : text.map f = text ↔ ∀ t ∈ text, f t = t := by
  cases text <;> simp

/-- Whether nothing of an object is lost at the ends of its texts. -/
def ListedObject.IsBare (o : ListedObject) : Prop :=
  StorageGate.IsBare Xml.isSpace o.key ∧ (∀ t ∈ o.lastModified, StorageGate.IsBare Xml.isSpace t) ∧
    ∀ t ∈ o.etag, StorageGate.IsBare (· == '"') t

theorem ListedObject.trimmed_eq_self_iff {o : ListedObject} : o.trimmed = o ↔ o.IsBare := by
  have hunquote {t : String} : String.ofList (Page.unquote t.toList) = t ↔ StorageGate.IsBare (· == '"') t :=
    ofList_eq_iff.trans trimBy_eq_self_iff
  rw [IsBare, ← StorageGate.trimmed_eq_self_iff]
  simp only [← StorageGate.trimmed_eq_self_iff, ← hunquote, ← map_eq_self_iff]
  cases o
  simp [trimmed]

namespace Page

/-- Whether nothing of a page is lost at the ends of its texts. -/
def IsBare (p : Page) : Prop := (∀ o ∈ p.objects, o.IsBare) ∧ ∀ t ∈ p.token, StorageGate.IsBare Xml.isSpace t

theorem trimmed_eq_self_iff {p : Page} : p.trimmed = p ↔ p.IsBare := by
  have hobjects : p.objects.map ListedObject.trimmed = p.objects ↔ ∀ o ∈ p.objects, o.trimmed = o := by
    have hid := List.map_inj_left (l := p.objects) (f := ListedObject.trimmed) (g := id)
    rwa [List.map_id] at hid
  have htoken : p.token.map StorageGate.trimmed = p.token ↔ ∀ t ∈ p.token, StorageGate.IsBare Xml.isSpace t := by
    rw [map_eq_self_iff]
    simp only [StorageGate.trimmed_eq_self_iff]
  simp only [ListedObject.trimmed_eq_self_iff] at hobjects
  rw [IsBare, ← hobjects, ← htoken]
  cases p
  simp [trimmed]

/-- **What is read of a written page** is the page without what is dropped at the ends of its texts.  It is the page itself
just as long as no key, time or token begins or ends with white space and no tag with a quote. -/
theorem parse_write_faithful (p : Page) : parse p.write = .ok p.trimmed ∧ (parse p.write = .ok p ↔ p.IsBare) := by
  refine ⟨p.parse_write, ?_⟩
  rw [p.parse_write, ← trimmed_eq_self_iff]
  exact ⟨Except.ok.inj, congrArg Except.ok⟩

example : ListedObject.trimmed { key := " a.txt" } = { key := "a.txt" } := by decide

end Page
end StorageGate
