import StorageGate.Json.Token
/-!
# Reading JSON

The tokens of a text are taken one by one against the arrays and objects that are open, so that nesting has no bound.
-/
namespace StorageGate
namespace Json

/-- An array or an object that is open: what it holds, last first.  A name that stands for no text is `none`. -/
inductive Frame where
  | array (items : List Value)
  | object (members : List (Option String × Value)) (name : Option String)

/-- What may come next. -/
inductive Expected where
  /-- A value, or, at the start of an array, its end. -/
  | value (orEnd : Bool)
  /-- A name, or, at the start of an object, its end. -/
  | name (orEnd : Bool)
  | colon
  /-- What follows a value: a comma, the end of what it is in, or, outside everything, nothing. -/
  | next (done : Value)

/-- An object of members (last first), if all its names are texts. -/
def objectOf (members : List (Option String × Value)) : Value :=
  match members.reverse.mapM fun m => m.1.map (·, m.2) with
  | some members => .object members
  | none => .unreadable

/-- The value of a sequence of tokens. -/
def build (frames : List Frame) (expected : Expected) : List Token → Option Value
  | [] =>
    match expected, frames with
    | .next done, [] => some done
    | _, _ => none
  | token :: rest =>
    match expected, token, frames with
    | .value _, .scalar v, _ => build frames (.next v) rest
    | .value _, .string text, _ => build frames (.next ((text.map Value.string).getD .unreadable)) rest
    | .value _, .openArray, _ => build (.array [] :: frames) (.value true) rest
    | .value _, .openObject, _ => build (.object [] none :: frames) (.name true) rest
    | .value true, .closeArray, .array _ :: outer => build outer (.next (.array [])) rest
    | .name _, .string name, .object members _ :: outer => build (.object members name :: outer) .colon rest
    | .name true, .closeObject, .object _ _ :: outer => build outer (.next (.object [])) rest
    | .colon, .colon, _ => build frames (.value false) rest
    | .next done, .comma, .array items :: outer => build (.array (done :: items) :: outer) (.value false) rest
    | .next done, .closeArray, .array items :: outer =>
      build outer (.next (.array (done :: items).reverse)) rest
    | .next done, .comma, .object members name :: outer =>
      build (.object ((name, done) :: members) none :: outer) (.name false) rest
    | .next done, .closeObject, .object members name :: outer =>
      build outer (.next (objectOf ((name, done) :: members))) rest
    | _, _, _ => none

/-- The value of a text. -/
def Value.parse? (text : List Char) : Option Value := build [] (.value false) (tokens text)

/-! ## Records -/

/-- How deep values may nest that are looked at. -/
def maxDepth : Nat := 127

/-- The fields of a record, by their names in order.  An object gives them by name, and a name at most once; an array
gives them by position, and may stop early.  Other members are passed over. -/
def Value.fields? (names : List String) : Value → Option (List (Option Value))
  | .object members => names.mapM fun name =>
    match members.filter (·.1 == name) with
    | [] => some none
    | [m] => some (some m.2)
    | _ => none
  | .array items => some (names.zipIdx.map fun n => items[n.2]?)
  | _ => none

/-- Whether a record has no more fields than there are names for; only an array can have more. -/
def Value.fits (names : List String) : Value → Bool
  | .array items => items.length ≤ names.length
  | _ => true

/-- The fields of a record that has no others by position. -/
def Value.record? (names : List String) (v : Value) : Option (List (Option Value)) :=
  if v.fits names then v.fields? names else none

/-- The text of a string. -/
def Value.string? : Value → Option String
  | .string text => some text
  | _ => none

/-- A truth value. -/
def Value.bool? : Value → Option Bool
  | .bool b => some b
  | _ => none

/-- A natural number below a bound, written without a point or an exponent. -/
def Value.natural? (bound : Nat) : Value → Option Nat
  | .number text => Numeral.canonical? bound text.toList
  | _ => none

/-- The strings of an array. -/
def Value.strings? : Value → Option (List String)
  | .array items => items.mapM Value.string?
  | _ => none

/-- A field that may be missing. -/
def defaulted {α : Type} (value : α) (read? : Value → Option α) : Option Value → Option α
  | none => some value
  | some v => read? v

/-- A field that may be null. -/
def nullable {α : Type} (read? : Value → Option α) : Value → Option (Option α)
  | .null => some none
  | v => (read? v).map some

end Json
end StorageGate
