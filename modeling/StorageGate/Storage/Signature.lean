import StorageGate.Hash.Hmac
import StorageGate.Storage.Presign
/-!
# Presigned URLs

A signature is a keyed digest of the request it allows, in one canonical text: method, path, parameters, headers and the
names of the headers, each on lines of its own.  The key is derived from the secret, the day, the region and the service,
so that none of them can be exchanged.  The URL carries the parameters that were signed and the signature after them.
-/
namespace StorageGate

/-- A request as it is signed. -/
structure CanonicalRequest where
  method : String
  path : List Char
  params : List (String × String)
  headers : List (String × String)
deriving DecidableEq, Repr

namespace CanonicalRequest

/-- A name or a value in a query. -/
def encode (text : String) : List Char := Percent.encode Percent.isUnreserved text.toList

/-- The query of a list of parameters. -/
def queryOf (params : List (String × String)) : List Char :=
  ['&'].intercalate (params.map fun p => encode p.1 ++ '=' :: encode p.2)

/-- The names of a list of headers. -/
def namesOf (headers : List (String × String)) : List Char :=
  [';'].intercalate (headers.map fun h => h.1.toList)

/-- The lines of a list of headers, white space around the values taken off. -/
def linesOf (headers : List (String × String)) : List Char :=
  ['\n'].intercalate (headers.map fun h => h.1.toList ++ ':' :: trimBlank h.2.toList)

/-- The query of the request, without the signature. -/
def query (r : CanonicalRequest) : List Char := queryOf r.params

/-- The canonical text. -/
def text (r : CanonicalRequest) : List Char :=
  r.method.toList ++ '\n' :: r.path ++ '\n' :: r.query ++ '\n' :: linesOf r.headers
    ++ '\n' :: '\n' :: namesOf r.headers ++ "\nUNSIGNED-PAYLOAD".toList

end CanonicalRequest

/-- The order of parameters: by name, then by value. -/
def paramLe (a b : String × String) : Bool :=
  a.1 < b.1 || a.1 == b.1 && !(b.2 < a.2)

/-- The order of headers: by name. -/
def headerLe (a b : String × String) : Bool := !(b.1 < a.1)

/-- Day, region and service that a key is derived for. -/
def scopeText (date : List Char) (region : String) : List Char :=
  date ++ '/' :: region.toList ++ "/s3/aws4_request".toList

/-- The key for a day and a region. -/
def signingKey (secret : String) (date : List Char) (region : String) : List UInt8 :=
  let k₁ := hmacSha256 (Utf8.encode ("AWS4".toList ++ secret.toList)) (Utf8.encode date)
  let k₂ := hmacSha256 k₁ (Utf8.encode region.toList)
  let k₃ := hmacSha256 k₂ (Utf8.encode "s3".toList)
  hmacSha256 k₃ (Utf8.encode "aws4_request".toList)

/-- What the keyed digest is taken of: the time, the scope and the digest of the canonical text. -/
def textToSign (timestamp scope canonical : List Char) : List Char :=
  "AWS4-HMAC-SHA256\n".toList ++ timestamp ++ '\n' :: scope
    ++ '\n' :: Percent.lowerHex (Sha256.digest (Utf8.encode canonical))

/-- The signature of a request by a secret, for a time and a region. -/
def signatureText (secret region : String) (timestamp : List Char) (r : CanonicalRequest) : List Char :=
  let date := timestamp.take 8
  Percent.lowerHex (hmacSha256 (signingKey secret date region)
    (Utf8.encode (textToSign timestamp (scopeText date region) r.text)))

/-- The host of a URL as a request names it, with the port if the URL shows one. -/
def hostHeader (url : Url) : Except SigningError String :=
  match url.hostText? with
  | none => .error .urlWithoutHost
  | some host => .ok (String.ofList (host ++ ((url.port.map fun p => ':' :: Numeral.write p.toNat).getD [])))

namespace Credentials

/-- The parameters that describe a signature, of a request with these headers. -/
def signatureParams (c : Credentials) (p : Presign) (headers : List (String × String)) : List (String × String) :=
  let timestamp := p.time.basicText
  [("X-Amz-Algorithm", "AWS4-HMAC-SHA256"),
   ("X-Amz-Credential", c.accessKeyId ++ "/" ++ String.ofList (scopeText (timestamp.take 8) c.region)),
   ("X-Amz-Date", String.ofList timestamp),
   ("X-Amz-Expires", String.ofList (Numeral.write p.expires)),
   ("X-Amz-SignedHeaders", String.ofList (CanonicalRequest.namesOf headers))]

/-- The canonical request for a URL. -/
def canonicalRequest (c : Credentials) (p : Presign) (url : Url) : Except SigningError CanonicalRequest := do
  let host ← hostHeader url
  let headers := (("host", host) :: p.headers).mergeSort headerLe
  return { method := p.method
           path := url.pathText
           params := (c.signatureParams p headers ++ p.params).mergeSort paramLe
           headers }

/-- The URL that allows a request. -/
def presign (c : Credentials) (p : Presign) : Except SigningError Url := do
  let url ← c.objectUrl (p.bucket.getD c.bucket) p.key
  let r ← c.canonicalRequest p url
  let signature := signatureText c.secretAccessKey c.region p.time.basicText r
  return url.setQuery (some (r.query ++ "&X-Amz-Signature=".toList ++ signature))

end Credentials
end StorageGate
