import StorageGate.Instant
import StorageGate.Text.Quoted
import StorageGate.Url.Parse
/-!
# Credentials and addresses

Where a storage service is reached and as whom.  An object's URL puts the bucket in front of the host, or, in path style,
in front of the key; addresses and `localhost` have no names below them, so endpoints of that kind start in path style.
-/
namespace StorageGate

/-- Why no URL is signed. -/
inductive SigningError where
  | invalidEndpoint (cause : UrlError)
  | noBucket
  | endpointWithoutHost
  | invalidHost (cause : UrlError)
  | urlWithoutHost
  /-- Two names of metadata make the same header. -/
  | repeatedHeader (name : String)
  | expired (expiry : Instant)
deriving DecidableEq, Repr

/-- The text of the error. -/
def SigningError.message : SigningError → String
  | invalidEndpoint cause => "Invalid S3 configuration: " ++ cause.message
  | noBucket => "Invalid S3 configuration: Bucket name is empty"
  | endpointWithoutHost => "Invalid S3 configuration: Invalid endpoint: no host"
  | invalidHost cause => "Invalid S3 configuration: Invalid host: " ++ cause.message
  | urlWithoutHost => "Invalid S3 configuration: URL missing host"
  | repeatedHeader name => "Invalid S3 configuration: Metadata header '" ++ name ++ "' is given more than once"
  | expired expiry => "URL expiry " ++ String.ofList expiry.extendedText ++ " is not in the future"

/-- Where a bucket is. -/
structure Address where
  endpoint : String
  region : String
  bucket : String
deriving DecidableEq, Repr, Inhabited

/-- Whether URLs at an endpoint have the bucket in their path unless told otherwise. -/
def isPathStyleDefault (endpoint : Url) : Bool :=
  match endpoint.host with
  | some (.ipv4 _) | some (.ipv6 _) => true
  | some (.domain name) => name == "localhost"
  | some .empty | none => false

/-- An account at an address. -/
structure Credentials where
  accessKeyId : String
  secretAccessKey : String
  address : Address
  endpoint : Url
  pathStyle : Bool
  /-- The endpoint is the one that the address names. -/
  endpoint_eq : Url.parse address.endpoint.toList = .ok endpoint
deriving DecidableEq

namespace Credentials

/-- An account at an address whose endpoint can be read, in the endpoint's own style. -/
def ofAddress (address : Address) (accessKeyId secretAccessKey : String) : Except SigningError Credentials :=
  match h : Url.parse address.endpoint.toList with
  | .error cause => .error (.invalidEndpoint cause)
  | .ok endpoint =>
    .ok { accessKeyId, secretAccessKey, address, endpoint, pathStyle := isPathStyleDefault endpoint, endpoint_eq := h }

/-- The same account with a style of its own choice. -/
def withPathStyle (c : Credentials) (pathStyle : Bool) : Credentials := { c with pathStyle }

/-- The region of the address. -/
def region (c : Credentials) : String := c.address.region

/-- The bucket of the address. -/
def bucket (c : Credentials) : String := c.address.bucket

/-- Credentials as messages show them, without the secret. -/
def describe (c : Credentials) : String :=
  "Credentials \x7b access_key_id: " ++ Quoted.write c.accessKeyId ++ ", address: Address \x7b endpoint: "
    ++ Quoted.write c.address.endpoint ++ ", region: " ++ Quoted.write c.address.region ++ ", bucket: "
    ++ Quoted.write c.address.bucket ++ " \x7d, path_style: " ++ (if c.pathStyle then "true" else "false")
    ++ ", .. \x7d"

/-- A path percent-encoded segment by segment. -/
def encodePath (path : List Char) : List Char :=
  Percent.encode (fun c => Percent.isUnreserved c || c == '/') path

/-- The URL of an object, without a query. -/
def objectUrl (c : Credentials) (bucket key : String) : Except SigningError Url :=
  if bucket = "" then .error .noBucket
  else if c.pathStyle then
    .ok ((c.endpoint.setPath ('/' :: encodePath (bucket.toList ++ '/' :: key.toList))).setQuery none)
  else match c.endpoint.hostText? with
    | none => .error .endpointWithoutHost
    | some host =>
      match c.endpoint.setHost (bucket.toList ++ '.' :: host) with
      | .error cause => .error (.invalidHost cause)
      | .ok url => .ok ((url.setPath ('/' :: encodePath key.toList)).setQuery none)

end Credentials
end StorageGate
