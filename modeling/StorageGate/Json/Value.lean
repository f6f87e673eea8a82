import StorageGate.Text.Percent
/-!
# JSON values

The values of JSON and their compact text.  A string may be well formed and yet stand for no text, and a number for none
that is finite; such a value, or an object with such a name, is `unreadable`: it may be passed over but not looked at.
-/
namespace StorageGate
namespace Json

/-- A JSON value. -/
inductive Value where
  | null
  | bool (value : Bool)
  /-- A number, by its text. -/
  | number (text : String)
  | string (text : String)
  | array (items : List Value)
  /-- Members in the order in which they stand, repeated names included. -/
  | object (members : List (String × Value))
  | unreadable
deriving Repr, Inhabited

/-! ## Texts -/

/-- One character of a string. -/
def escape (c : Char) : List Char :=
  if c = '"' then ['\\', '"']
  else if c = '\\' then ['\\', '\\']
  else if c = '\n' then ['\\', 'n']
  else if c = '\r' then ['\\', 'r']
  else if c = '\t' then ['\\', 't']
  else if c.toNat = 8 then ['\\', 'b']
  else if c.toNat = 12 then ['\\', 'f']
  else if c.toNat < 0x20 then
    ['\\', 'u', '0', '0', Percent.lowerDigit (c.toNat / 16), Percent.lowerDigit (c.toNat % 16)]
  else [c]

/-- A string between quotes. -/
def writeString (text : String) : List Char :=
  '"' :: text.toList.flatMap escape ++ ['"']

namespace Value

mutual

/-- The compact text of a value. -/
def write : Value → List Char
  | null | unreadable => "null".toList
  | bool true => "true".toList
  | bool false => "false".toList
  | number text => text.toList
  | string text => writeString text
  | array items => '[' :: writeItems true items
  | object members => '\x7b' :: writeMembers true members

/-- The rest of an array. -/
def writeItems (isFirst : Bool) : List Value → List Char
  | [] => [']']
  | item :: rest => (if isFirst then [] else [',']) ++ item.write ++ writeItems false rest

/-- The rest of an object. -/
def writeMembers (isFirst : Bool) : List (String × Value) → List Char
  | [] => ['\x7d']
  | (name, value) :: rest =>
    (if isFirst then [] else [',']) ++ writeString name ++ ':' :: value.write ++ writeMembers false rest

end

/-! ## Plain values -/

/-- Puts a member in its place among members sorted by name, in place of one with its name. -/
def insertMember (name : String) (value : Value) : List (String × Value) → List (String × Value)
  | [] => [(name, value)]
  | e :: r =>
    if name < e.1 then (name, value) :: e :: r
    else if name = e.1 then (name, value) :: r
    else e :: insertMember name value r

/-- A value for use: nothing in it is unreadable, it nests no deeper than `depth`, and its members are sorted by name, the
last of a name standing for all. -/
def plain? (depth : Nat) (v : Value) : Option Value :=
  match depth, v with
  | _, null => some null
  | _, bool b => some (bool b)
  | _, number text => some (number text)
  | _, string text => some (string text)
  | _, unreadable => none
  | 0, array _ | 0, object _ => none
  | d + 1, array items => (items.mapM (plain? d)).map array
  | d + 1, object members => do
    let values ← members.mapM fun m => (plain? d m.2).map (m.1, ·)
    return object (values.foldl (fun sorted m => insertMember m.1 m.2 sorted) [])

end Value
end Json
end StorageGate
