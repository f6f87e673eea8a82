import StorageGate.Xml.Cursor
/-!
# XML records

An element taken for a record: its children are read in order as fields, by their local names.  Some fields must be
texts, some may be nil instead, and what is no field is skipped, as is text between fields.
-/
namespace StorageGate
namespace Xml
namespace Cursor

/-- The text of a field, or nothing if it or its record is marked as nil. -/
def textUnlessNil? (record tag : Tag) (c : Cursor) : Option (Option (List Char) × Cursor) :=
  if c.namespaces.marksNil record.attributes || c.namespaces.marksNil tag.attributes then
    c.skip?.map fun after => (none, after)
  else c.text?.map fun p => (some p.1, p.2)

/-- The field of a record that was just opened, if its tag is one of a field. -/
def field? (texts unlessNil : List String) (record tag : Tag) (c : Cursor) :
    Option (Option (String × Option (List Char)) × Cursor) :=
  match texts.find? tag.isNamed, unlessNil.find? tag.isNamed with
  | some name, _ => c.text?.map fun p => (some (name, some p.1), p.2)
  | none, some name => (c.textUnlessNil? record tag).map fun p => (some (name, p.1), p.2)
  | none, none => c.skip?.map fun after => (none, after)

/-- Reads the fields of a record to its end in at most so many steps, after what is `found` (last first).  `read` is
given the tag of each and the place behind it. -/
def fieldsFrom? {α : Type} (read : Tag → Cursor → Option (Option α × Cursor)) :
    Nat → List α → Cursor → Option (List α × Cursor)
  | 0, _, _ => none
  | steps + 1, found, c =>
    match c.next? with
    | none => none
    | some (.closing, after) => some (found.reverse, after)
    | some (.text _, after) => fieldsFrom? read steps found after
    | some (.opening tag, after) =>
      match read tag after with
      | none => none
      | some (field, after) => fieldsFrom? read steps (field.toList ++ found) after

/-- What is read of the fields of a record that was just opened, and the place behind it.  The record's own attributes
must be well formed.  Every step passes a token. -/
def fields? {α : Type} (record : Tag) (read : Tag → Cursor → Option (Option α × Cursor)) (c : Cursor) :
    Option (List α × Cursor) :=
  if hasAttributesOnly record.attributes then fieldsFrom? read c.ahead.length [] c else none

/-- The tag of the root, and the place behind it. -/
def enterRoot? (c : Cursor) : Option (Tag × Cursor) := do
  match ← c.next? with
  | (.opening tag, after) => some (tag, after)
  | _ => none

end Cursor
end Xml
end StorageGate
