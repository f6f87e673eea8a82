import StorageGate.Http.Status
import StorageGate.Message
import StorageGate.Storage.Credentials
import StorageGate.Xml.Record
/-!
# Pages of a bucket listing

A page is an XML document with a flag, a token for the page after it, and one `Contents` element for each object.  Any
root with a readable `Code` is an error of the service.  Fields are found by their local names and stand at most once;
the `Contents` elements follow one another directly.  A field marked as nil counts as absent where it may be.
-/
namespace StorageGate

/-- Why there is no listing. -/
inductive ListingError where
  | service (code text : String)
  /-- The document is about something else. -/
  | noListing
  | malformedListing
  | noAnswer
  | refused (status : Nat)
  | signing (cause : SigningError)
deriving DecidableEq, Repr

/-- The text of the error. -/
def ListingError.message : ListingError → String
  | service code text => code ++ ": " ++ text
  | noListing => "Failed to parse listing: missing ListBucketResult element"
  | malformedListing => "Failed to parse listing: malformed document"
  | noAnswer => "Listing request failed: no answer"
  | refused status => "Listing request failed: HTTP " ++ Http.statusText status
  | signing cause => cause.message

/-- One page. -/
structure Page where
  objects : List ListedObject := []
  isTruncated : Bool := false
  /-- What to ask the next page with. -/
  token : Option String := none
deriving DecidableEq, Repr, Inhabited

namespace Page

/-- What the page after this one is asked with, if there is one. -/
def next? (p : Page) : Option String := if p.isTruncated then p.token else none

open Xml (Cursor Tag)

/-! ## Service errors -/

/-- The texts of fields by name; none stands for a field that is nil. -/
abbrev Texts := List (String × Option (List Char))

/-- The texts of a record with fields that must be texts and fields that may be nil; no field stands twice. -/
def texts? (texts unlessNil : List String) (record : Tag) (c : Cursor) : Option (Texts × Cursor) := do
  let (fields, after) ← c.fields? record (Cursor.field? texts unlessNil record)
  guard (fields.map Prod.fst).Nodup
  return (fields, after)

/-- The text of a field that is there and not nil. -/
def Texts.text? (fields : Texts) (name : String) : Option (List Char) := (fields.lookup name).join

/-- Code and text of a service error. -/
def serviceError? (document : Cursor) : Option (String × String) := do
  let (root, inside) ← document.enterRoot?
  let (fields, _) ← texts? ["Code"] ["Message"] root inside
  let code ← fields.text? "Code"
  return (String.ofList code, String.ofList ((fields.text? "Message").getD []))

/-! ## Pages -/

/-- Without the quotes at either end. -/
def unquote (text : List Char) : List Char := trimBy (· == '"') text

/-- The object of a `Contents` element that was just opened, and the place behind it. -/
def object? (tag : Tag) (c : Cursor) : Option (ListedObject × Cursor) := do
  let (fields, after) ← texts? ["Key"] ["Size", "LastModified", "ETag"] tag c
  let key ← fields.text? "Key"
  let size ← match fields.text? "Size" with
    | none => some none
    | some digits => (Numeral.lenient? size64 digits).map fun n => some (UInt64.ofNat n)
  return ({ key := String.ofList key
            size
            lastModified := (fields.text? "LastModified").map String.ofList
            etag := (fields.text? "ETag").map fun t => String.ofList (unquote t) }, after)

/-- Reads objects under one full name in at most so many steps, after what is `found` (last first), up to an element of
another name or the end; no text may stand behind them. -/
def objectsFrom? (name : List Char) : Nat → List ListedObject → Cursor → Option (List ListedObject × Cursor)
  | 0, _, _ => none
  | steps + 1, found, c =>
    match c.next? with
    | none | some (.text _, _) => none
    | some (.closing, _) => some (found.reverse, c)
    | some (.opening tag, after) =>
      if tag.name ≠ name then some (found.reverse, c)
      else
        match object? tag after with
        | none => none
        | some (object, after) => objectsFrom? name steps (object :: found) after

/-- The objects of `Contents` elements that follow one another directly; the first was just opened. -/
def objects? (tag : Tag) (c : Cursor) : Option (List ListedObject × Cursor) := do
  let (first, after) ← object? tag c
  objectsFrom? tag.name (after.ahead.length + 1) [first] after

/-- A part of a page. -/
inductive Part where
  | objects (objects : List ListedObject)
  | text (name : String) (text : Option (List Char))

/-- The name of the field that a part comes from. -/
def Part.name : Part → String
  | objects _ => "Contents"
  | text name _ => name

/-- The field that a part is, if it is a text. -/
def Part.field? : Part → Option (String × Option (List Char))
  | objects _ => none
  | text name content => some (name, content)

/-- The objects of a part. -/
def Part.listed : Part → List ListedObject
  | objects found => found
  | text _ _ => []

/-- The part that begins with a child of the root, if it is one. -/
def part? (root tag : Tag) (c : Cursor) : Option (Option Part × Cursor) :=
  if tag.isNamed "Contents" then (objects? tag c).map fun p => (some (.objects p.1), p.2)
  else (c.field? ["IsTruncated"] ["NextContinuationToken"] root tag).map fun p =>
    (p.1.map fun f => .text f.1 f.2, p.2)

/-- A truth value. -/
def flag? (text : List Char) : Option Bool :=
  if text = "true".toList ∨ text = "1".toList then some true
  else if text = "false".toList ∨ text = "0".toList then some false
  else none

/-- The page of its parts, none of which stands twice. -/
def ofParts? (parts : List Part) : Option Page := do
  guard (parts.map Part.name).Nodup
  let fields : Texts := parts.filterMap Part.field?
  let isTruncated ← match fields.text? "IsTruncated" with
    | none => some false
    | some text => flag? text
  return { objects := parts.flatMap Part.listed
           isTruncated
           token := (fields.text? "NextContinuationToken").map String.ofList }

/-- The page of a document. -/
def ofDocument? (document : Cursor) : Option Page := do
  let (root, inside) ← document.enterRoot?
  let (parts, _) ← inside.fields? root (part? root)
  ofParts? parts

/-- Whether a text occurs in another. -/
def occursIn (part : List Char) : List Char → Bool
  | [] => part.isEmpty
  | c :: rest => part.isPrefixOf (c :: rest) || occursIn part rest

/-- The page of a text. -/
def parse (text : List Char) : Except ListingError Page :=
  let document := Cursor.ofText? text
  match document.bind serviceError? with
  | some (code, message) => .error (.service code message)
  | none =>
    if occursIn "<ListBucketResult".toList text then
      match document.bind ofDocument? with
      | some page => .ok page
      | none => .error .malformedListing
    else .error .noListing

end Page
end StorageGate
