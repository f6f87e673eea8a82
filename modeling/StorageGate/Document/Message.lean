import StorageGate.Document
import StorageGate.Document.Slot
import StorageGate.Message
/-!
# Messages as documents

A message is written place by place: the listing flag, the properties by name, then the numbered parts in order.  Reading
goes over the pairs once, in order, and refuses the first that repeats a key, names no place or holds a value the place
does not admit; what the places say together is judged afterwards, so their order in the document does not matter.
-/
namespace StorageGate
namespace Message

/-! ## Writing -/

/-- The places of request number `index`. -/
def requestSlots (index : Nat) (r : Request) : List (Slot × String) :=
  [(.request index .action, r.action.name), (.request index .key, r.key)]
    ++ (r.bucket.map (Slot.request index .bucket, ·)).toList
    ++ r.metadata.toList.map (fun e => (.request index (.metadata e.1), e.2))
    ++ match r.decision with
      | .pending => []
      | .signed url => [(.request index .signedUrl, url)]
      | .declined reason => [(.request index .declineReason, reason)]

/-- The places of listed object number `index`. -/
def objectSlots (index : Nat) (o : ListedObject) : List (Slot × String) :=
  [(.object index .key, o.key)]
    ++ (o.size.map fun size => (Slot.object index .size, String.ofList (Numeral.write size.toNat))).toList
    ++ (o.lastModified.map (Slot.object index .lastModified, ·)).toList
    ++ (o.etag.map (Slot.object index .etag, ·)).toList

/-- The places of a message, in the order they are written. -/
def slots (m : Message) : List (Slot × String) :=
  (if m.isListing then [(.listing, "true")] else [])
    ++ m.application.toList.map (fun e => (.application e.1, e.2))
    ++ m.properties.toList.map (fun e => (.property e.1, e.2))
    ++ match m.body with
      | .signing requests => requests.zipIdx.flatMap fun r => requestSlots r.2 r.1
      | .listing objects => objects.zipIdx.flatMap fun o => objectSlots o.2 o.1

/-- The document of a message. -/
def toDocument (m : Message) : Document where
  pairs := m.slots.map fun s => (s.1.key, s.2)

/-- The text of a message. -/
def encode (m : Message) : String := m.toDocument.text

/-! ## Reading -/

/-- The places of a document's pairs, given the keys already `seen`. -/
def readSlots (seen : List String) : List (String × String) → Except DocumentError (List (Slot × String))
  | [] => .ok []
  | (key, value) :: rest =>
    if seen.contains key then .error (.duplicateKey key)
    else do
      let slot ← Slot.ofKey key
      if slot.admits value then
        return (slot, value) :: (← readSlots (key :: seen) rest)
      else .error (.invalidValue key value)

/-- The first number missing among `indices` below the count of different ones. -/
def firstGap? (indices : List Nat) : Option Nat :=
  (List.range indices.eraseDups.length).find? fun i => !indices.contains i

/-- The entries of one numbered part, each under its number: `0` to one below their count, without a gap. -/
def numbered {field : Type} (part : Section) (entries : List (Nat × field × String)) :
    Except DocumentError (List (Nat × List (field × String))) :=
  let indices := entries.map (·.1)
  match firstGap? indices with
  | some index => .error (.gap part index)
  | none => .ok ((List.range indices.eraseDups.length).map fun i =>
      (i, (entries.filter (·.1 == i)).map (·.2)))

/-- The request that its entries describe. -/
def readRequest (index : Nat) (entries : List (RequestField × String)) : Except DocumentError Request := do
  let some type := entries.lookup .action | .error (.missingField .request index "type")
  let some action := Action.ofName? type | .error (.unknownAction index type)
  let some key := entries.lookup .key | .error (.missingField .request index "key")
  let decision ← match entries.lookup .signedUrl, entries.lookup .declineReason with
    | some _, some _ => .error (.conflictingDecision index)
    | some url, none => .ok (.signed url)
    | none, some reason => .ok (.declined reason)
    | none, none => .ok .pending
  let metadata := entries.filterMap fun e =>
    match e.1 with
    | .metadata name => some (name, e.2)
    | _ => none
  return { action, key, bucket := entries.lookup .bucket, metadata := Fields.ofList metadata, decision }

/-- The listed object that its entries describe. -/
def readObject (index : Nat) (entries : List (ObjectField × String)) : Except DocumentError ListedObject := do
  let some key := entries.lookup .key | .error (.missingField .object index "key")
  let size := (entries.lookup .size).bind fun value => (Numeral.lenient? size64 value.toList).map UInt64.ofNat
  return { key, size, lastModified := entries.lookup .lastModified, etag := entries.lookup .etag }

/-- The message that its places describe. -/
def ofSlots (slots : List (Slot × String)) : Except DocumentError Message := do
  let application := slots.filterMap fun s => match s.1 with
    | .application name => some (name, s.2)
    | _ => none
  let properties := slots.filterMap fun s => match s.1 with
    | .property name => some (name, s.2)
    | _ => none
  let requests := slots.filterMap fun s => match s.1 with
    | .request index field => some (index, field, s.2)
    | _ => none
  let objects := slots.filterMap fun s => match s.1 with
    | .object index field => some (index, field, s.2)
    | _ => none
  let body ←
    if slots.lookup .listing = some "true" then
      if requests.isEmpty then do
        let parts ← numbered .object objects
        Body.listing <$> parts.mapM fun part => readObject part.1 part.2
      else .error .mixedModes
    else if objects.isEmpty then do
      let parts ← numbered .request requests
      Body.signing <$> parts.mapM fun part => readRequest part.1 part.2
    else .error .mixedModes
  return { application := Fields.ofList application, properties := Fields.ofList properties, body }

/-- The message of a document. -/
def ofDocument (d : Document) : Except DocumentError Message :=
  readSlots [] d.pairs >>= ofSlots

/-- The message of a text. -/
def decode (text : String) : Except DocumentError Message := ofDocument (Document.parse text)

end Message
end StorageGate
