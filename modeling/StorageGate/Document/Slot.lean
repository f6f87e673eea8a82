import StorageGate.Text.Numeral
/-!
# The places of a message in a document

Every key of a document names one place of a message, and every place has one key.  Properties and metadata keep their
names verbatim after a fixed lead; requests and listed objects are numbered from zero, in decimal without leading
zeros.
-/
namespace StorageGate

/-- The numbered parts of a document. -/
inductive Section where
  | request
  | object
deriving DecidableEq, Repr

/-- The name of a numbered part, as it leads its keys. -/
def Section.name : Section → String
  | .request => "sigreq"
  | .object => "object"

/-- What is said of a request. -/
inductive RequestField where
  | action
  | key
  | bucket
  | metadata (name : String)
  | signedUrl
  | declineReason
deriving DecidableEq, Repr

/-- What is said of a listed object. -/
inductive ObjectField where
  | key
  | size
  | lastModified
  | etag
deriving DecidableEq, Repr

/-- A place of a message. -/
inductive Slot where
  /-- Whether the message is about a listing. -/
  | listing
  | application (name : String)
  | property (name : String)
  | request (index : Nat) (field : RequestField)
  | object (index : Nat) (field : ObjectField)
deriving DecidableEq, Repr

/-- Why a document is no message. -/
inductive DocumentError where
  | unknownKey (key : String)
  | duplicateKey (key : String)
  | invalidIndex (key : String)
  /-- The first number that is missing below the count of a part. -/
  | gap (part : Section) (index : Nat)
  | missingField (part : Section) (index : Nat) (field : String)
  | unknownAction (index : Nat) (value : String)
  | conflictingDecision (index : Nat)
  | invalidValue (key value : String)
  | mixedModes
deriving DecidableEq, Repr

/-- The text of the error. -/
def DocumentError.message : DocumentError → String
  | unknownKey key => "Unrecognized key '" ++ key ++ "'"
  | duplicateKey key => "Duplicate key '" ++ key ++ "'"
  | invalidIndex key => "Invalid index in key '" ++ key ++ "'"
  | gap part index => "Missing " ++ part.name ++ " entry at index " ++ toString index
  | missingField part index field =>
    "Entry " ++ part.name ++ "." ++ toString index ++ " is missing required field '" ++ field ++ "'"
  | unknownAction index value =>
    "Signature request " ++ toString index ++ " has unknown type '" ++ value ++ "'"
  | conflictingDecision index => "Signature request " ++ toString index ++ " is both signed and declined"
  | invalidValue key value => "Invalid value '" ++ value ++ "' for key '" ++ key ++ "'"
  | mixedModes => "Document mixes bucket listing and signature requests"

/-- What follows a lead at the front of a text. -/
def afterLead? (lead text : List Char) : Option (List Char) :=
  if lead.isPrefixOf text then some (text.drop lead.length) else none

namespace RequestField

/-- The end of the field's key. -/
def name : RequestField → List Char
  | action => "type".toList
  | key => "key".toList
  | bucket => "bucket".toList
  | metadata name => "metadata.".toList ++ name.toList
  | signedUrl => "signedUrl".toList
  | declineReason => "declineReason".toList

/-- The field of the end of a key. -/
def ofName? (text : List Char) : Option RequestField :=
  if text = "type".toList then some action
  else if text = "key".toList then some key
  else if text = "bucket".toList then some bucket
  else if text = "signedUrl".toList then some signedUrl
  else if text = "declineReason".toList then some declineReason
  else (afterLead? "metadata.".toList text).map fun name => metadata (String.ofList name)

end RequestField

namespace ObjectField

/-- The end of the field's key. -/
def name : ObjectField → List Char
  | key => "key".toList
  | size => "size".toList
  | lastModified => "lastModified".toList
  | etag => "etag".toList

/-- The field of the end of a key. -/
def ofName? (text : List Char) : Option ObjectField :=
  if text = "key".toList then some key
  else if text = "size".toList then some size
  else if text = "lastModified".toList then some lastModified
  else if text = "etag".toList then some etag
  else none

end ObjectField

namespace Slot

/-- The key of a place. -/
def key : Slot → String
  | listing => "listObjectsInBucket"
  | application name => "app." ++ name
  | property name => "msg." ++ name
  | request index field => String.ofList ("sigreq.".toList ++ Numeral.write index ++ '.' :: field.name)
  | object index field => String.ofList ("object.".toList ++ Numeral.write index ++ '.' :: field.name)

/-- The number at the front of a text and what follows the dot after it. -/
def cutIndex? (text : List Char) : Option (Nat × List Char) :=
  match text.dropWhile (· != '.') with
  | [] => none
  | _ :: field => (Numeral.canonical? size64 (text.takeWhile (· != '.'))).map (·, field)

/-- The place that a key names. -/
def ofKey (key : String) : Except DocumentError Slot :=
  if key = "listObjectsInBucket" then .ok listing
  else match afterLead? "app.".toList key.toList with
  | some name => .ok (application (String.ofList name))
  | none => match afterLead? "msg.".toList key.toList with
  | some name => .ok (property (String.ofList name))
  | none => match afterLead? "sigreq.".toList key.toList with
  | some rest =>
    match cutIndex? rest with
    | none => .error (.invalidIndex key)
    | some (index, field) =>
      match RequestField.ofName? field with
      | some field => .ok (request index field)
      | none => .error (.unknownKey key)
  | none => match afterLead? "object.".toList key.toList with
  | some rest =>
    match cutIndex? rest with
    | none => .error (.invalidIndex key)
    | some (index, field) =>
      match ObjectField.ofName? field with
      | some field => .ok (object index field)
      | none => .error (.unknownKey key)
  | none => .error (.unknownKey key)

/-- Whether a value may stand in a place: the listing flag is a truth value, a size is a 64-bit numeral, and every
other place takes any text. -/
def admits : Slot → String → Bool
  | listing, value => value == "true" || value == "false"
  | object _ .size, value => (Numeral.lenient? size64 value.toList).isSome
  | _, _ => true

end Slot
end StorageGate
