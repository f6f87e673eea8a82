import StorageGate.Json.Parse
import StorageGate.Storage.Credentials
/-!
# Configurations

A configuration names one component for each role of a gate and may give it settings; credentials can be shared by all
that need them.  Settings are kept as plain JSON until their component reads them.
-/
namespace StorageGate

/-- The roles of a gate, in the order in which they are filled. -/
inductive Role where
  | authorizer
  | urlSigner
  | bucketLister
  | transactionIds
deriving DecidableEq, Repr, Inhabited

/-- The name of a role. -/
def Role.name : Role → String
  | authorizer => "authorizer"
  | urlSigner => "url signer"
  | bucketLister => "bucket lister"
  | transactionIds => "transaction id provider"

/-- Why settings are refused. -/
inductive SettingsError where
  | malformed
  | storage (cause : SigningError)
  | noPrefixes
  /-- A reason of a component's own. -/
  | other (reason : String)
deriving DecidableEq, Repr

/-- The text of the error. -/
def SettingsError.message : SettingsError → String
  | malformed => "malformed settings"
  | storage cause => cause.message
  | noPrefixes => "at least one prefix is required"
  | other reason => reason

/-- Why a gate has no policy. -/
inductive InitializationError where
  | malformedConfig
  | missingFile (path : String)
  /-- There is no text to read at the path, for another reason than that nothing is there. -/
  | unreadableFile (path : String)
  | unknownComponent (role : Role) (name : String)
  | invalidSettings (role : Role) (name : String) (cause : SettingsError)
  | missingCredentials (role : Role) (name : String)
deriving DecidableEq, Repr

/-- The text of the error. -/
def InitializationError.message : InitializationError → String
  | malformedConfig => "Invalid gatekeeper configuration: malformed document"
  | missingFile path =>
    "Invalid gatekeeper configuration: " ++ path ++ ": No such file or directory (os error 2)"
  | unreadableFile path => "Invalid gatekeeper configuration: " ++ path ++ ": not a readable file"
  | unknownComponent role name => "No " ++ role.name ++ " named '" ++ name ++ "' is registered"
  | invalidSettings role name cause =>
    "Invalid settings for " ++ role.name ++ " '" ++ name ++ "': " ++ cause.message
  | missingCredentials role name => role.name ++ " '" ++ name ++ "' requires storage credentials"

open Json (Value)

/-! ## Credentials -/

/-- The address of a JSON value. -/
def Address.ofJson? (v : Value) : Option Address := do
  match ← v.record? ["endpoint", "region", "bucket"] with
  | [some endpoint, some region, some bucket] =>
    return { endpoint := ← endpoint.string?, region := ← region.string?, bucket := ← bucket.string? }
  | _ => none

/-- The JSON value of an address. -/
def Address.toJson (a : Address) : Value :=
  .object [("endpoint", .string a.endpoint), ("region", .string a.region), ("bucket", .string a.bucket)]

/-- The credentials of a JSON value, before the endpoint is read: address, key id, secret and style. -/
def Credentials.parts? (v : Value) : Option (Address × String × String × Option Bool) := do
  match ← v.record? ["address", "access_key_id", "secret_access_key", "path_style"] with
  | [some address, some id, some secret, style] =>
    return (← Address.ofJson? address, ← id.string?, ← secret.string?,
      ← Json.defaulted none (Json.nullable Value.bool?) style)
  | _ => none

/-- The credentials of a JSON value.  Its form is judged before its endpoint. -/
def Credentials.ofJson (v : Value) : Except SettingsError Credentials :=
  match Credentials.parts? v with
  | none => .error .malformed
  | some (address, id, secret, style) =>
    match Credentials.ofAddress address id secret with
    | .error cause => .error (.storage cause)
    | .ok c => .ok ((style.map c.withPathStyle).getD c)

/-- The JSON value of credentials. -/
def Credentials.toJson (c : Credentials) : Value :=
  .object [("address", c.address.toJson), ("access_key_id", .string c.accessKeyId),
    ("secret_access_key", .string c.secretAccessKey), ("path_style", .bool c.pathStyle)]

/-! ## Components -/

/-- The choice of a component: its name and its settings. -/
structure Component where
  name : String := "default"
  settings : Value := .null
deriving Repr, Inhabited

/-- How deep settings may nest, inside a configuration and a component. -/
def settingsDepth : Nat := Json.maxDepth - 2

/-- The choice that a JSON value makes. -/
def Component.ofJson? (v : Value) : Option Component := do
  match ← v.record? ["name", "settings"] with
  | [name, settings] =>
    return { name := ← Json.defaulted "default" Value.string? name
             settings := ← Json.defaulted .null (Value.plain? settingsDepth) settings }
  | _ => none

/-- The JSON value of a choice. -/
def Component.toJson (c : Component) : Value :=
  .object [("name", .string c.name), ("settings", c.settings)]

/-- A configuration. -/
structure Config where
  /-- For every component that needs some and has none of its own. -/
  credentials : Option Credentials := none
  authorizer : Component := {}
  urlSigner : Component := {}
  bucketLister : Component := {}
  transactionIds : Component := {}

namespace Config

instance : Inhabited Config := ⟨{}⟩

/-- The choice for a role. -/
def component (c : Config) : Role → Component
  | .authorizer => c.authorizer
  | .urlSigner => c.urlSigner
  | .bucketLister => c.bucketLister
  | .transactionIds => c.transactionIds

/-- The configuration of a JSON value. -/
def ofJson? (v : Value) : Option Config := do
  match ← v.record? ["credentials", "authorizer", "url_signer", "bucket_lister", "transaction_id_provider"] with
  | [credentials, authorizer, urlSigner, bucketLister, transactionIds] =>
    return { credentials := ← Json.defaulted none (Json.nullable fun v => (Credentials.ofJson v).toOption) credentials
             authorizer := ← Json.defaulted {} Component.ofJson? authorizer
             urlSigner := ← Json.defaulted {} Component.ofJson? urlSigner
             bucketLister := ← Json.defaulted {} Component.ofJson? bucketLister
             transactionIds := ← Json.defaulted {} Component.ofJson? transactionIds }
  | _ => none

/-- The configuration of a text. -/
def parse (text : List Char) : Except InitializationError Config :=
  match (Value.parse? text).bind ofJson? with
  | some config => .ok config
  | none => .error .malformedConfig

/-- The JSON value of a configuration. -/
def toJson (c : Config) : Value :=
  .object ((c.credentials.map fun x => ("credentials", x.toJson)).toList ++
    [("authorizer", c.authorizer.toJson), ("url_signer", c.urlSigner.toJson),
     ("bucket_lister", c.bucketLister.toJson), ("transaction_id_provider", c.transactionIds.toJson)])

end Config
end StorageGate
