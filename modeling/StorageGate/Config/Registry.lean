import StorageGate.Config
import StorageGate.Policy
/-!
# Registries

A registry knows how to make the components of each role, by name.  Resolving a configuration makes one for each role, in
the order of the roles, and fails with the first that is not known or cannot be made.
-/
namespace StorageGate

/-- What a component is made from. -/
structure ComponentSettings where
  role : Role
  name : String
  settings : Json.Value
  /-- The credentials that the configuration shares. -/
  shared : Option Credentials

namespace ComponentSettings

/-- Refuses the settings. -/
def refuse (s : ComponentSettings) (cause : SettingsError) : InitializationError :=
  .invalidSettings s.role s.name cause

/-- The settings as read, or those that hold when none are given. -/
def read {α : Type} (s : ComponentSettings) (absent : α) (read : Json.Value → Except SettingsError α) :
    Except InitializationError α :=
  match s.settings with
  | .null => .ok absent
  | v => (read v).mapError s.refuse

/-- The component's own credentials, or the shared ones. -/
def credentials (s : ComponentSettings) (own : Option Credentials) : Except InitializationError Credentials :=
  match own.or s.shared with
  | some c => .ok c
  | none => .error (.missingCredentials s.role s.name)

end ComponentSettings

/-- Makes a component. -/
def Constructor (α : Type) : Type := ComponentSettings → Except InitializationError α

/-- Constructors by name, for each role; of two under one name the first stands. -/
structure Registry (m : Type → Type) where
  authorizers : List (String × Constructor (Authorizer m)) := []
  urlSigners : List (String × Constructor (UrlSigner m)) := []
  bucketListers : List (String × Constructor (BucketLister m)) := []
  transactionIds : List (String × Constructor (TransactionIds m)) := []

namespace Registry

variable {m : Type → Type}

/-- Registers an authorizer, in place of one of its name. -/
def withAuthorizer (r : Registry m) (name : String) (make : Constructor (Authorizer m)) : Registry m :=
  { r with authorizers := (name, make) :: r.authorizers }

/-- Registers a signer, in place of one of its name. -/
def withUrlSigner (r : Registry m) (name : String) (make : Constructor (UrlSigner m)) : Registry m :=
  { r with urlSigners := (name, make) :: r.urlSigners }

/-- Registers a lister, in place of one of its name. -/
def withBucketLister (r : Registry m) (name : String) (make : Constructor (BucketLister m)) : Registry m :=
  { r with bucketListers := (name, make) :: r.bucketListers }

/-- Registers a provider of transaction ids, in place of one of its name. -/
def withTransactionIds (r : Registry m) (name : String) (make : Constructor (TransactionIds m)) : Registry m :=
  { r with transactionIds := (name, make) :: r.transactionIds }

/-- Makes the component of a role. -/
def construct {α : Type} (table : List (String × Constructor α)) (config : Config) (role : Role) :
    Except InitializationError α :=
  let choice := config.component role
  match table.lookup choice.name with
  | none => .error (.unknownComponent role choice.name)
  | some make => make { role, name := choice.name, settings := choice.settings, shared := config.credentials }

/-- The policy of a configuration. -/
def resolve (r : Registry m) (config : Config) : Except InitializationError (Policy m) := do
  let authorizer ← construct r.authorizers config .authorizer
  let signer ← construct r.urlSigners config .urlSigner
  let lister ← construct r.bucketListers config .bucketLister
  let transactionIds ← construct r.transactionIds config .transactionIds
  return { authorizer, signer, lister, transactionIds }

/-! ## The standard components -/

/-- A field, or malformed settings. -/
def field {α : Type} (value : Option α) : Except SettingsError α :=
  match value with
  | some v => .ok v
  | none => .error .malformed

/-- Credentials of a component's own, if given. -/
def ownCredentials (value : Option Json.Value) : Except SettingsError (Option Credentials) :=
  match value with
  | none | some .null => .ok none
  | some v => (Credentials.ofJson v).map some

/-- The reason with which everything is refused. -/
def readReason (v : Json.Value) : Except SettingsError (Option String) := do
  match ← field (v.record? ["reason"]) with
  | [reason] => field (Json.defaulted none (Json.nullable Json.Value.string?) reason)
  | _ => .error .malformed

/-- The rules for keys. -/
def readKeyRules (v : Json.Value) : Except SettingsError KeyRules := do
  match ← field (v.record? ["prefixes", "buckets", "allow_listing"]) with
  | [prefixes, buckets, allowsListing] =>
    return { prefixes := ← field (Json.defaulted [] Json.Value.strings? prefixes)
             buckets := ← field (Json.defaulted [] Json.Value.strings? buckets)
             allowsListing := ← field (Json.defaulted false Json.Value.bool? allowsListing) }
  | _ => .error .malformed

/-- A result, if a record has no more fields than those named. -/
def checked {α : Type} (names : List String) (v : Json.Value) (result : α) : Except SettingsError α :=
  if v.fits names then .ok result else .error .malformed

/-- Credentials and window of a signer.  Fields are judged before their number. -/
def readSigner (v : Json.Value) : Except SettingsError (Option Credentials × Nat) := do
  let names := ["credentials", "expires_in"]
  match ← field (v.fields? names) with
  | [credentials, expiresIn] =>
    let own ← ownCredentials credentials
    let window ← field (Json.defaulted defaultSignedWindow (Json.Value.natural? size64) expiresIn)
    checked names v (own, window)
  | _ => .error .malformed

/-- Credentials, lead and size of a lister.  Fields are judged before their number. -/
def readLister (v : Json.Value) : Except SettingsError (Option Credentials × Option String × Nat) := do
  let names := ["credentials", "prefix", "max_keys"]
  match ← field (v.fields? names) with
  | [credentials, lead, maxKeys] =>
    let own ← ownCredentials credentials
    let lead ← field (Json.defaulted none (Json.nullable Json.Value.string?) lead)
    let maxKeys ← field (Json.defaulted defaultMaxKeys (Json.Value.natural? size32) maxKeys)
    checked names v (own, lead, maxKeys)
  | _ => .error .malformed

variable [Monad m]

/-- Makes an authorizer for the rules in its settings. -/
def makeKeyRules : Constructor (Authorizer m) := fun s => do
  let rules ← s.read {} readKeyRules
  if rules.prefixes.isEmpty then .error (s.refuse .noPrefixes) else .ok rules.authorizer

/-- Makes a storage signer. -/
def makeSigner : Constructor (UrlSigner m) := fun s => do
  let (own, expiresIn) ← s.read (none, defaultSignedWindow) readSigner
  let credentials ← s.credentials own
  return StorageSigner.signer { credentials, expiresIn }

/-- Makes a storage lister. -/
def makeLister : Constructor (BucketLister m) := fun s => do
  let (own, lead, maxKeys) ← s.read (none, none, defaultMaxKeys) readLister
  let credentials ← s.credentials own
  return StorageLister.lister { credentials, lead, maxKeys }

/-- The registry of the components that come with a gate. -/
def standard : Registry m where
  authorizers :=
    [("default", fun _ => .ok allowAll),
     ("deny-all", fun s => (s.read none readReason).map denyAll),
     ("prefix", makeKeyRules)]
  urlSigners := [("default", makeSigner)]
  bucketListers := [("default", makeLister)]
  transactionIds := [("default", fun _ => .ok .ulids), ("none", fun _ => .ok .untracked)]

end Registry
end StorageGate
