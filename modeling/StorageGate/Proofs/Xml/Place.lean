import StorageGate.Proofs.Xml.Element
import StorageGate.Proofs.Xml.Escape
import StorageGate.Proofs.Xml.Steps
/-!
# Reading written elements

Among tags without attributes no namespace is ever bound, and every place is given by the tokens ahead and the depth
(`place?`).  There, an element of characters is read as its text without white space at the ends (`text?_leaf`), and the
children of a record one after another, each by itself (`fieldsFrom?_children`).
-/
namespace StorageGate
namespace Xml

/-! ## No attributes -/

theorem attributesFrom_nil (mayRepeat : Bool) (read : List (Option Attribute)) (names : List (List Char)) :
    attributesFrom mayRepeat read names [] = read.reverse := by
  rw [attributesFrom]
  rfl

theorem hasAttributesOnly_nil : hasAttributesOnly [] = true := by
  rw [hasAttributesOnly, attributes, attributesFrom_nil]
  rfl

theorem enter_nil (depth : Nat) : Namespaces.enter { depth } [] = some { depth := depth + 1 } := by
  simp [Namespaces.enter, leadingAttributes, attributesFrom_nil]

theorem marksNil_nil (n : Namespaces) : n.marksNil [] = false := by
  rw [Namespaces.marksNil, attributes, attributesFrom_nil]
  rfl

namespace Cursor

/-! ## Places -/

/-- The place before tokens, inside as many elements, where no namespace is bound. -/
def place? (depth : Nat) (ahead : List Token) : Option Cursor := look? { depth } true ahead

theorem place?_opening (depth : Nat) (name : List Char) (rest : List Token) :
    place? depth (.opening ⟨name, []⟩ :: rest) = some ⟨.opening ⟨name, []⟩ :: rest, { depth := depth + 1 }, true⟩ := by
  rw [place?, look?, enter_nil, Option.map_some]

theorem place?_closing (depth : Nat) (name : List Char) (rest : List Token) :
    place? depth (.closing name :: rest) = some ⟨.closing name :: rest, { depth }, true⟩ := rfl

theorem next?_opening (depth : Nat) (name : List Char) (rest : List Token) :
    (place? depth (.opening ⟨name, []⟩ :: rest)).bind next?
      = (place? (depth + 1) rest).map fun c => (.opening ⟨name, []⟩, c) := by
  have hadvance : advance? ⟨.opening ⟨name, []⟩ :: rest, { depth := depth + 1 }, true⟩ = place? (depth + 1) rest := rfl
  rw [place?_opening, Option.bind_some]
  cases hafter : place? (depth + 1) rest with
  | none => exact next?_of_stuck (hadvance.trans hafter)
  | some after => exact next?_of_advance (hadvance.trans hafter)

theorem next?_closing (depth : Nat) (name : List Char) (rest : List Token) :
    (place? (depth + 1) (.closing name :: rest)).bind next? = (place? depth rest).map fun c => (.closing, c) := by
  have hadvance : advance? ⟨.closing name :: rest, { depth := depth + 1 }, true⟩ = place? depth rest := rfl
  rw [place?_closing, Option.bind_some]
  cases hafter : place? depth rest with
  | none => exact next?_of_stuck (hadvance.trans hafter)
  | some after => exact next?_of_advance (hadvance.trans hafter)

/-! ## Texts -/

theorem all_isSpace_of_trim {raw : List Char} (h : raw.all isSpace = true) : trim raw = [] := by
  rw [trim, List.dropWhile_eq_nil_iff.2 (List.all_eq_true.1 h)]
  rfl

/-- White space in an element is passed over. -/
theorem place?_space (depth : Nat) {raw : List Char} (h : raw.all isSpace = true) (rest : List Token) :
    place? depth (characterTokens raw ++ rest) = place? depth rest := by
  rw [characterTokens]
  split
  · rfl
  · rw [List.singleton_append, place?, look?]
    simp [h, place?]

theorem place?_characters (depth : Nat) {raw : List Char} (h : ¬raw.all isSpace = true) (rest : List Token) :
    place? depth (characterTokens raw ++ rest)
      = some ⟨.characters (raw.dropWhile isSpace) :: rest, { depth }, false⟩ := by
  have hne : raw ≠ [] := by
    rintro rfl
    exact h rfl
  rw [characterTokens, if_neg hne, List.singleton_append, place?, look?]
  simp [h]

/-- Characters in front of a closing tag are one text. -/
theorem next?_characters (depth : Nat) {raw : List Char} (h : ¬raw.all isSpace = true) (name : List Char) (rest : List Token) :
    (⟨.characters (raw.dropWhile isSpace) :: .closing name :: rest, { depth }, false⟩ : Cursor).next?
      = (resolve? (trim raw)).bind fun text => (place? depth (.closing name :: rest)).map fun c => (.text text, c) := by
  have hkept : (raw.dropWhile isSpace).all isSpace = false := by
    refine eq_false_of_ne_true fun hall => h ?_
    rw [← List.takeWhile_append_dropWhile (p := isSpace) (l := raw), List.all_append, hall, List.all_takeWhile]
    rfl
  have hadvance : advance? ⟨.characters (raw.dropWhile isSpace) :: .closing name :: rest, { depth }, false⟩
      = some ⟨.closing name :: rest, { depth }, true⟩ := rfl
  have hend : isAtText ⟨.closing name :: rest, { depth }, true⟩ = false := rfl
  rw [next?_of_advance hadvance]
  simp only [hkept, Bool.false_and, Bool.false_eq_true, if_false]
  rw [textFrom?_of_characters hadvance rfl, hend, if_neg Bool.false_ne_true, place?_closing, trim]
  cases resolve? (trimEnd (raw.dropWhile isSpace)) with
  | none => rfl
  | some text => exact congrArg (Option.map _) (textFrom?_of_other hend _)

/-- **An element of characters is read** as its text without white space at the ends, references resolved. -/
theorem text?_leaf (depth : Nat) (raw name : List Char) (rest : List Token) :
    (place? (depth + 1) (characterTokens raw ++ .closing name :: rest)).bind text?
      = (resolve? (trim raw)).bind fun text => (place? depth rest).map fun c => (text, c) := by
  have hclosing := next?_closing depth name rest
  rw [place?_closing, Option.bind_some] at hclosing
  by_cases h : raw.all isSpace
  · rw [place?_space _ h, all_isSpace_of_trim h, place?_closing, Option.bind_some, text?, hclosing]
    cases place? depth rest <;> rfl
  · rw [place?_characters _ h, Option.bind_some, text?, next?_characters _ h, place?_closing]
    cases resolve? (trim raw) with
    | none => rfl
    | some text =>
      show (next? _ >>= fun p => _) = _
      rw [hclosing]
      cases place? depth rest <;> rfl

/-! ## Records -/

section Records

variable {α : Type} {read : Tag → Cursor → Option (Option α × Cursor)}

theorem fieldsFrom?_opening (steps : Nat) (found : List α) (depth : Nat) (name : List Char) (rest : List Token) :
    (place? depth (.opening ⟨name, []⟩ :: rest)).bind (fieldsFrom? read (steps + 1) found)
      = ((place? (depth + 1) rest).bind (read ⟨name, []⟩)).bind fun p =>
          fieldsFrom? read steps (p.1.toList ++ found) p.2 := by
  have hnext := next?_opening depth name rest
  rw [place?_opening, Option.bind_some] at hnext
  rw [place?_opening, Option.bind_some]
  cases hinside : place? (depth + 1) rest with
  | none => exact fieldsFrom?_of_stuck (by rw [hnext, hinside, Option.map_none])
  | some c => exact fieldsFrom?_of_opening (by rw [hnext, hinside, Option.map_some])

theorem fieldsFrom?_closing (steps : Nat) (found : List α) (depth : Nat) (name : List Char) (rest : List Token) :
    (place? (depth + 1) (.closing name :: rest)).bind (fieldsFrom? read (steps + 1) found)
      = (place? depth rest).map fun c => (found.reverse, c) := by
  have hnext := next?_closing depth name rest
  rw [place?_closing, Option.bind_some] at hnext
  rw [place?_closing, Option.bind_some]
  cases hbehind : place? depth rest with
  | none => exact fieldsFrom?_of_stuck (by rw [hnext, hbehind, Option.map_none])
  | some c => exact fieldsFrom?_of_closing (by rw [hnext, hbehind, Option.map_some])

/-- Whether an element with a name and a content is read as a field, or passed over, wherever it stands. -/
def ReadsAs (read : Tag → Cursor → Option (Option α × Cursor)) (name : List Char) (content : List Token) (field : Option α) :
    Prop :=
  ∀ depth rest, (place? (depth + 1) (content ++ .closing name :: rest)).bind (read ⟨name, []⟩)
    = (place? depth rest).map fun c => (field, c)

theorem fieldsFrom?_child {name : List Char} {content : List Token} {field : Option α} (h : ReadsAs read name content field)
    (steps : Nat) (found : List α) (depth : Nat) (rest : List Token) :
    (place? depth (elementTokens name content ++ rest)).bind (fieldsFrom? read (steps + 1) found)
      = (place? depth rest).bind (fieldsFrom? read steps (field.toList ++ found)) := by
  rw [elementTokens, List.cons_append, List.append_assoc, List.singleton_append, fieldsFrom?_opening, h]
  cases place? depth rest <;> rfl

variable {β : Type} {name : β → List Char} {content : β → List Token} {field : β → Option α}

/-- **The children of a record are read one after another**, each as it is read by itself. -/
theorem fieldsFrom?_children : ∀ {l : List β}, (∀ b ∈ l, ReadsAs read (name b) (content b) (field b)) →
    ∀ (steps : Nat) (found : List α) (depth : Nat) (rest : List Token),
      (place? depth (l.flatMap (fun b => elementTokens (name b) (content b)) ++ rest)).bind
          (fieldsFrom? read (l.length + steps) found)
        = (place? depth rest).bind (fieldsFrom? read steps ((l.filterMap field).reverse ++ found))
  | [], _, steps, found, depth, rest => by simp
  | b :: l, h, steps, found, depth, rest => by
    obtain ⟨hb, hl⟩ := List.forall_mem_cons.1 h
    have hlength : (b :: l).length + steps = l.length + steps + 1 := by
      rw [List.length_cons]
      omega
    have hfound : (field b).toList ++ found = (field b).toList.reverse ++ found := by
      cases field b <;> rfl
    rw [List.flatMap_cons, List.append_assoc, hlength, fieldsFrom?_child hb, fieldsFrom?_children hl, hfound,
      ← List.append_assoc, ← List.reverse_append]
    congr 4
    cases hfield : field b <;> simp [hfield]

theorem fields?_eq {record : Tag} (hrecord : record.attributes = []) (depth : Nat) {ahead : List Token} {first : List Char}
    {rest : List Token} (h : ahead = .opening ⟨first, []⟩ :: rest) :
    (place? depth ahead).bind (fields? record read) = (place? depth ahead).bind (fieldsFrom? read ahead.length []) := by
  rw [h, place?_opening, Option.bind_some, Option.bind_some, fields?, hrecord, if_pos hasAttributesOnly_nil]

theorem length_le_elements (name : β → List Char) (content : β → List Token) : ∀ l : List β,
    l.length ≤ (l.flatMap fun b => elementTokens (name b) (content b)).length
  | [] => Nat.le_refl 0
  | b :: l => by
    have hrest := length_le_elements name content l
    rw [List.flatMap_cons, List.length_append, List.length_cons, elementTokens, List.length_cons]
    omega

/-- **A record with children is read to its end.** -/
theorem fields?_children {record : Tag} (hrecord : record.attributes = []) {l : List β} (hl : l ≠ [])
    (h : ∀ b ∈ l, ReadsAs read (name b) (content b) (field b)) (depth : Nat) (last : List Char) (rest : List Token) :
    (place? (depth + 1) (l.flatMap (fun b => elementTokens (name b) (content b)) ++ .closing last :: rest)).bind
        (fields? record read)
      = (place? depth rest).map fun c => (l.filterMap field, c) := by
  obtain ⟨steps, hsteps⟩ := Nat.exists_eq_add_of_le (length_le_elements name content l)
  obtain ⟨first, tail, hfirst⟩ : ∃ first tail,
      l.flatMap (fun b => elementTokens (name b) (content b)) ++ .closing last :: rest = .opening ⟨first, []⟩ :: tail := by
    cases l with
    | nil => exact absurd rfl hl
    | cons b l => exact ⟨name b, _, rfl⟩
  have hsum : (l.flatMap (fun b => elementTokens (name b) (content b)) ++ .closing last :: rest).length
      = l.length + (steps + rest.length + 1) := by
    rw [List.length_append, hsteps, List.length_cons]
    omega
  rw [fields?_eq hrecord (depth + 1) hfirst, hsum, fieldsFrom?_children h, List.append_nil, fieldsFrom?_closing,
    List.reverse_reverse]

end Records

end Cursor

/-! ## Leaves -/

/-- An element of characters: how they are written and what they are read as. -/
structure Leaf where
  name : String
  raw : List Char
  text : List Char
  isName : IsName name.toList
  lt_not_mem : '<' ∉ raw
  resolve_raw : resolve? (trim raw) = some text

namespace Leaf

/-- The element of an escaped text. -/
def ofText (name : String) (isName : IsName name.toList) (text : List Char) : Leaf where
  name
  raw := escape text
  text := trim text
  isName
  lt_not_mem := lt_not_mem_escape text
  resolve_raw := resolve?_trim_escape text

theorem trim_quoted (text : List Char) : trim ('"' :: (text ++ ['"'])) = '"' :: (text ++ ['"']) := by
  rw [trim, List.dropWhile_cons_of_neg (by decide), ← List.cons_append, trimEnd_concat (by decide)]

theorem resolve?_quoted (text : List Char) : resolve? ('"' :: (escape text ++ ['"'])) = some ('"' :: (text ++ ['"'])) := by
  rw [resolve?, resolveFrom]
  simp only [Char.reduceEq, if_false]
  rw [resolveFrom_escape]
  simp [resolveFrom]

/-- The element of an escaped text between quotes, which stand as they are. -/
def quoted (name : String) (isName : IsName name.toList) (text : List Char) : Leaf where
  name
  raw := '"' :: (escape text ++ ['"'])
  text := '"' :: (text ++ ['"'])
  isName
  lt_not_mem h := by
    simp only [List.mem_cons, List.mem_append, List.not_mem_nil, or_false, Char.reduceEq, false_or] at h
    exact lt_not_mem_escape text h
  resolve_raw := by rw [trim_quoted, resolve?_quoted]

/-- The text of the element. -/
def write (l : Leaf) : List Char := element l.name.toList l.raw

/-- The tokens of the element. -/
def tokens (l : Leaf) : List Token := elementTokens l.name.toList (characterTokens l.raw)

theorem isContent (l : Leaf) : IsContent l.write l.tokens := isContent_leaf l.isName l.lt_not_mem

/-- Whether an element of a name is a field of a record. -/
def IsField (texts unlessNil : List String) (name : String) : Prop :=
  texts.find? (Tag.isNamed ⟨name.toList, []⟩) = some name ∨
    texts.find? (Tag.isNamed ⟨name.toList, []⟩) = none ∧ unlessNil.find? (Tag.isNamed ⟨name.toList, []⟩) = some name

instance (texts unlessNil : List String) (name : String) : Decidable (IsField texts unlessNil name) :=
  inferInstanceAs (Decidable (_ ∨ _ ∧ _))

/-- **A leaf is read as a field** of a record without attributes, if it is one of the fields. -/
theorem readsAs {texts unlessNil : List String} {record : Tag} (hrecord : record.attributes = []) {l : Leaf}
    (h : IsField texts unlessNil l.name) :
    Cursor.ReadsAs (Cursor.field? texts unlessNil record) l.name.toList (characterTokens l.raw)
      (some (l.name, some l.text)) := by
  intro depth rest
  have htext := Cursor.text?_leaf depth l.raw l.name.toList rest
  rw [l.resolve_raw, Option.bind_some] at htext
  have hfield : Cursor.field? texts unlessNil record ⟨l.name.toList, []⟩
      = Option.map (fun p => (some (l.name, some p.1), p.2)) ∘ Cursor.text? := by
    funext c
    rw [Cursor.field?]
    rcases h with h | ⟨hnone, h⟩
    · rw [h]
      rfl
    · rw [hnone, h]
      have hnil : (c.namespaces.marksNil record.attributes || c.namespaces.marksNil []) = false := by
        rw [hrecord, marksNil_nil, Bool.or_self]
      simp only [Cursor.textUnlessNil?, hnil, Bool.false_eq_true, if_false, Option.map_map]
      rfl
  rw [hfield, ← Option.map_bind, htext, Option.map_map]
  rfl

end Leaf

end Xml
end StorageGate
