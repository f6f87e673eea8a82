import StorageGate.Text.Percent
/-!
# XML references

A reference stands for a character, by its number or by one of five names, between `&` and `;`.
-/
namespace StorageGate
namespace Xml

/-- The character that a reference stands for. -/
def reference? (name : List Char) : Option Char :=
  let number? (base : Nat) (digits : List Char) : Option Char :=
    if digits.isEmpty then none
    else do
      let code ← digits.foldlM (fun n c => ((Percent.digitValue? c).filter (· < base)).map (n * base + ·)) 0
      if code ≠ 0 ∧ code.isValidChar then some (Char.ofNat code) else none
  match name with
  | '#' :: 'x' :: digits => number? 16 digits
  | '#' :: digits => number? 10 digits
  | _ =>
    [("lt", '<'), ("gt", '>'), ("amp", '&'), ("quot", '"'), ("apos", '\'')].findSome? fun e =>
      if name = e.1.toList then some e.2 else none

/-- Characters with their references resolved, given what is `read` (last first) and the reference that is open. -/
def resolveFrom (read : List Char) (reference : Option (List Char)) : List Char → Option (List Char)
  | [] => if reference.isNone then some read.reverse else none
  | c :: rest =>
    match reference with
    | none => if c = '&' then resolveFrom read (some []) rest else resolveFrom (c :: read) none rest
    | some name =>
      if c = ';' then
        match reference? name.reverse with
        | some d => resolveFrom (d :: read) none rest
        | none => none
      else if c = '&' then none
      else resolveFrom read (some (c :: name)) rest

/-- Characters with their references resolved. -/
def resolve? (raw : List Char) : Option (List Char) := resolveFrom [] none raw

end Xml
end StorageGate
