import StorageGate.Fields
import StorageGate.Storage.Credentials
/-!
# Requests to be signed

What a presigned URL will allow: a method on a key, with parameters, headers and a window of time.  Parameters and headers
keep their order and repetitions; metadata becomes headers, each name one header.
-/
namespace StorageGate

/-- The seconds for which a URL is good if nothing else is asked. -/
def defaultWindow : Nat := 3600

/-- A request of which a signed URL is wanted. -/
structure Presign where
  method : String
  /-- The bucket, when it is not the one of the address. -/
  bucket : Option String := none
  key : String
  params : List (String × String) := []
  headers : List (String × String) := []
  time : Instant
  /-- The window, in seconds from the time of signing. -/
  expires : Nat := defaultWindow
deriving DecidableEq, Repr

/-- The name of the header for a name of metadata: in lower case, and marked as metadata unless it is a header of the
service itself. -/
def metadataHeaderName (name : String) : String :=
  let lower := name.toList.map Char.toLower
  if "x-amz-".toList.isPrefixOf lower then String.ofList lower
  else String.ofList ("x-amz-meta-".toList ++ lower)

/-- The headers of metadata, after those already `made`. -/
def metadataHeadersFrom (made : List (String × String)) :
    List (String × String) → Except SigningError (List (String × String))
  | [] => .ok []
  | (name, value) :: rest =>
    let header := metadataHeaderName name
    if made.any (·.1 == header) then .error (.repeatedHeader header)
    else do
      let more ← metadataHeadersFrom (made ++ [(header, value)]) rest
      return (header, value) :: more

/-- The headers of metadata, in its order. -/
def metadataHeaders (metadata : Fields) : Except SigningError (List (String × String)) :=
  metadataHeadersFrom [] metadata.toList

namespace Presign

/-- Appends a parameter. -/
def withParam (p : Presign) (name value : String) : Presign :=
  { p with params := p.params ++ [(name, value)] }

/-- Appends a header, its name in lower case. -/
def withHeader (p : Presign) (name value : String) : Presign :=
  { p with headers := p.headers ++ [(String.ofList (name.toList.map Char.toLower), value)] }

/-- Appends the headers of metadata. -/
def withMetadata (p : Presign) (metadata : Fields) : Except SigningError Presign :=
  return (← metadataHeaders metadata).foldl (fun p h => p.withHeader h.1 h.2) p

/-- Sets the time of signing. -/
def signedAt (p : Presign) (time : Instant) : Presign := { p with time }

/-- Sets the window. -/
def expiresIn (p : Presign) (seconds : Nat) : Presign := { p with expires := seconds }

/-- Lets the window end at an instant.  The window has whole seconds, at least one, so only an instant that is not after
the time of signing is refused. -/
def expiresAt (p : Presign) (expiry : Instant) : Except SigningError Presign :=
  let window := expiry.nanos - p.time.nanos
  if window ≤ 0 then .error (.expired expiry)
  else .ok (p.expiresIn (max 1 (window / nanosPerSecond).toNat))

/-- A page of a bucket listing. -/
def list (time : Instant) (lead token : Option String) (maxKeys : Option Nat) : Presign where
  method := "GET"
  key := ""
  params :=
    [("list-type", "2")] ++ (lead.map ("prefix", ·)).toList ++ (token.map ("continuation-token", ·)).toList
      ++ (maxKeys.map fun n => ("max-keys", String.ofList (Numeral.write n))).toList
  time

end Presign
end StorageGate
