import StorageGate.Xml.Namespace
import StorageGate.Xml.Reference
import StorageGate.Xml.Root
/-!
# Places in an XML document

A document is read from front to back, and always one token ahead: at each place the token that comes next is looked at
already.  If it opens an element, its namespaces are in force; they end when the token after its closing tag is looked
at.  So what is read last is judged under the namespaces of what comes next.

The content of an element can also be left in one leap.  Nothing in it is judged then, and no namespace ends: those of
the last place stay in force.
-/
namespace StorageGate
namespace Xml

/-- A place in a document. -/
structure Cursor where
  /-- The tokens ahead. -/
  ahead : List Token
  /-- The namespaces in force, those of the next token among them. -/
  namespaces : Namespaces
  /-- Whether white space is dropped at the start of a text: it is, but for what follows other text. -/
  trims : Bool
deriving DecidableEq, Repr

/-- Characters without white space at their end. -/
def trimEnd (raw : List Char) : List Char := (raw.reverse.dropWhile isSpace).reverse

namespace Cursor

/-! ## Steps -/

/-- The place before some tokens, whose first is looked at.  White space that is dropped whole is passed over. -/
def look? (namespaces : Namespaces) (trims : Bool) : List Token → Option Cursor
  | .opening tag :: rest =>
    (namespaces.enter tag.attributes).map fun inside => ⟨.opening tag :: rest, inside, true⟩
  | .characters raw :: rest =>
    if !trims then some ⟨.characters raw :: rest, namespaces, false⟩
    else if raw.all isSpace then look? namespaces trims rest
    else some ⟨.characters (raw.dropWhile isSpace) :: rest, namespaces, false⟩
  | .verbatim text :: rest => some ⟨.verbatim text :: rest, namespaces, false⟩
  | tokens => some ⟨tokens, namespaces, true⟩

theorem length_of_look {namespaces : Namespaces} {trims : Bool} {c : Cursor} : ∀ {tokens : List Token},
    look? namespaces trims tokens = some c → c.ahead.length ≤ tokens.length
  | tokens, h => by
    fun_induction look? namespaces trims tokens with
    | case1 tag rest =>
      obtain ⟨inside, _, rfl⟩ := Option.map_eq_some_iff.1 h
      simp
    | case3 raw rest _ _ ih =>
      have := ih h
      simp only [List.length_cons]
      omega
    | _ => cases h; simp

/-- The place behind the next token. -/
def advance? (c : Cursor) : Option Cursor :=
  match c.ahead with
  | [] => none
  | .closing _ :: rest => look? c.namespaces.leave c.trims rest
  | _ :: rest => look? c.namespaces c.trims rest

theorem length_of_advance {c after : Cursor} (h : c.advance? = some after) : after.ahead.length < c.ahead.length := by
  unfold advance? at h
  split at h
  · cases h
  all_goals
    rename_i heq
    have := length_of_look h
    simp only [heq, List.length_cons]
    omega

/-- Whether a text comes next, or goes on. -/
def isAtText (c : Cursor) : Bool :=
  match c.ahead with
  | .characters _ :: _ | .verbatim _ :: _ => true
  | _ => false

/-- A text from here on, after what is `read`: characters and verbatim sections in a row.  White space is dropped at the
end of characters that nothing follows. -/
def textFrom? (read : List Char) (c : Cursor) : Option (List Char × Cursor) :=
  match _h : c.advance?, c.ahead with
  | some after, .characters raw :: _ =>
    match resolve? (if after.isAtText then raw else trimEnd raw) with
    | none => none
    | some text => textFrom? (read ++ text) after
  | some after, .verbatim text :: _ => textFrom? (read ++ text) after
  | none, .characters _ :: _ | none, .verbatim _ :: _ => none
  | _, _ => some (read, c)
termination_by c.ahead.length
decreasing_by all_goals exact length_of_advance ‹_›

/-- What is met between one place and the next. -/
inductive Step where
  | opening (tag : Tag)
  | closing
  | text (text : List Char)
deriving DecidableEq, Repr

/-- The next step, and the place behind it.  Document types and blank texts are no steps. -/
def next? (c : Cursor) : Option (Step × Cursor) :=
  match _h : c.advance? with
  | none => none
  | some after =>
    match c.ahead with
    | .opening tag :: _ => some (.opening tag, after)
    | .closing _ :: _ => some (.closing, after)
    | .characters raw :: _ =>
      if raw.all isSpace && !after.isAtText then next? after
      else (textFrom? [] c).map fun p => (.text p.1, p.2)
    | .verbatim _ :: _ => (textFrom? [] c).map fun p => (.text p.1, p.2)
    | _ => next? after
termination_by c.ahead.length
decreasing_by all_goals exact length_of_advance ‹_›

/-! ## Elements -/

/-- What follows the end of the element around, from inside as many elements more. -/
def afterElement : Nat → List Token → List Token
  | _, [] => []
  | depth, .opening _ :: rest => afterElement (depth + 1) rest
  | 0, .closing _ :: rest => rest
  | depth + 1, .closing _ :: rest => afterElement depth rest
  | depth, _ :: rest => afterElement depth rest

/-- The place behind the element around: by a step if its end comes next, by a leap otherwise. -/
def leave? (c : Cursor) : Option Cursor :=
  match c.ahead with
  | .closing _ :: _ => c.advance?
  | tokens => look? c.namespaces c.trims (afterElement 0 tokens)

/-- The place behind an element that was just opened, whatever it holds.  The first step into it is taken still. -/
def skip? (c : Cursor) : Option Cursor := do
  match ← c.next? with
  | (.closing, after) => some after
  | (.opening _, after) => (← after.leave?).leave?
  | (.text _, after) => after.leave?

/-- The text of an element that was just opened and holds nothing else, and the place behind it. -/
def text? (c : Cursor) : Option (List Char × Cursor) := do
  match ← c.next? with
  | (.closing, after) => some ([], after)
  | (.opening _, _) => none
  | (.text text, after) =>
    match ← after.next? with
    | (.closing, after) => some (text, after)
    | _ => none

/-- The place before the root of a document. -/
def ofText? (text : List Char) : Option Cursor := (root? text).bind (look? {} true)

end Cursor
end Xml
end StorageGate
