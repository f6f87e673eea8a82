import StorageGate.Proofs.Xml.Steps
/-!
# Names of closing tags

Once the tags of a document match, the names of those that close are not read any more: without them (`Cursor.blind`) every
step and every element is read as with them.
-/
namespace StorageGate
namespace Xml

/-- A token without the name that it closes. -/
def Token.blind : Token → Token
  | .closing _ => .closing []
  | token => token

namespace Cursor

/-- A place where no name of a closing tag can be seen. -/
def blind (c : Cursor) : Cursor := { c with ahead := c.ahead.map Token.blind }

/-- What is read, with the place behind it blind. -/
def blindBehind {α : Type} (p : α × Cursor) : α × Cursor := (p.1, p.2.blind)

/-! ## Steps -/

theorem look?_blind (n : Namespaces) (trims : Bool) : ∀ tokens : List Token,
    look? n trims (tokens.map Token.blind) = (look? n trims tokens).map blind
  | [] | .alone _ :: _ | .closing _ :: _ | .verbatim _ :: _ | .documentType :: _ | .malformed :: _ => rfl
  | .opening tag :: rest => by
    show look? n trims (.opening tag :: rest.map Token.blind) = _
    rw [look?, look?, Option.map_map]
    rfl
  | .characters raw :: rest => by
    have hrest := look?_blind n trims rest
    show look? n trims (.characters raw :: rest.map Token.blind) = _
    rw [look?, look?]
    split
    · rfl
    · split
      · exact hrest
      · rfl

theorem advance?_blind (c : Cursor) : c.blind.advance? = c.advance?.map blind := by
  rcases c with ⟨_ | ⟨token, rest⟩, n, trims⟩
  · rfl
  · cases token <;> exact look?_blind _ _ _

theorem isAtText_blind (c : Cursor) : c.blind.isAtText = c.isAtText := by
  rcases c with ⟨_ | ⟨token, rest⟩, n, trims⟩
  · rfl
  · cases token <;> rfl

theorem advance?_blind_eq_some {c after : Cursor} (h : c.advance? = some after) : c.blind.advance? = some after.blind := by
  rw [advance?_blind, h, Option.map_some]

theorem textFrom?_blind (read : List Char) (c : Cursor) : textFrom? read c.blind = (textFrom? read c).map blindBehind := by
  cases htext : c.isAtText with
  | false =>
    rw [textFrom?_of_other htext, textFrom?_of_other (c.isAtText_blind.trans htext)]
    rfl
  | true =>
    cases hafter : c.advance? with
    | none =>
      have hstuck : c.blind.advance? = none := by rw [advance?_blind, hafter, Option.map_none]
      rw [textFrom?_of_stuck hafter htext, textFrom?_of_stuck hstuck (c.isAtText_blind.trans htext)]
      rfl
    | some after =>
      have hblind := advance?_blind_eq_some hafter
      match hahead : c.ahead with
      | .characters raw :: rest =>
        have hahead' : c.blind.ahead = .characters raw :: rest.map Token.blind := by
          rw [blind, hahead]
          rfl
        rw [textFrom?_of_characters hafter hahead, textFrom?_of_characters hblind hahead', isAtText_blind]
        cases resolve? (if after.isAtText then raw else trimEnd raw) with
        | none => rfl
        | some text => exact textFrom?_blind (read ++ text) after
      | .verbatim text :: rest =>
        have hahead' : c.blind.ahead = .verbatim text :: rest.map Token.blind := by
          rw [blind, hahead]
          rfl
        rw [textFrom?_of_verbatim hafter hahead, textFrom?_of_verbatim hblind hahead']
        exact textFrom?_blind (read ++ text) after
      | [] | .opening _ :: _ | .alone _ :: _ | .closing _ :: _ | .documentType :: _ | .malformed :: _ =>
        rw [isAtText, hahead] at htext
        cases htext
termination_by c.ahead.length
decreasing_by all_goals exact length_of_advance ‹_›

theorem next?_blind (c : Cursor) : c.blind.next? = c.next?.map blindBehind := by
  cases hafter : c.advance? with
  | none =>
    have hstuck : c.blind.advance? = none := by rw [advance?_blind, hafter, Option.map_none]
    rw [next?_of_stuck hafter, next?_of_stuck hstuck, Option.map_none]
  | some after =>
    have htext : ((textFrom? [] c.blind).map fun p => (Step.text p.1, p.2))
        = ((textFrom? [] c).map fun p => (Step.text p.1, p.2)).map blindBehind := by
      rw [textFrom?_blind, Option.map_map, Option.map_map]
      rfl
    have hrest : after.blind.next? = after.next?.map blindBehind := next?_blind after
    have hblind : c.blind.ahead = c.ahead.map Token.blind := rfl
    rw [next?_of_advance hafter, next?_of_advance (advance?_blind_eq_some hafter), hblind]
    cases hahead : c.ahead with
    | nil => exact hrest
    | cons token rest =>
      cases token with
      | characters raw =>
        show (if raw.all isSpace && !after.blind.isAtText then _ else _)
          = (if raw.all isSpace && !after.isAtText then _ else _ : Option (Step × Cursor)).map blindBehind
        rw [isAtText_blind]
        split
        · exact hrest
        · exact htext
      | verbatim text => exact htext
      | opening tag => rfl
      | closing name => rfl
      | alone tag => exact hrest
      | documentType => exact hrest
      | malformed => exact hrest
termination_by c.ahead.length
decreasing_by all_goals exact length_of_advance ‹_›

theorem afterElement_blind : ∀ (depth : Nat) (tokens : List Token),
    afterElement depth (tokens.map Token.blind) = (afterElement depth tokens).map Token.blind
  | _, [] => by simp [afterElement]
  | depth, .opening _ :: rest => afterElement_blind (depth + 1) rest
  | 0, .closing _ :: rest => rfl
  | depth + 1, .closing _ :: rest => afterElement_blind depth rest
  | depth, .alone _ :: rest | depth, .characters _ :: rest | depth, .verbatim _ :: rest | depth, .documentType :: rest
  | depth, .malformed :: rest => by
    have hrest := afterElement_blind depth rest
    simpa [afterElement, Token.blind] using hrest

theorem leave?_blind (c : Cursor) : c.blind.leave? = c.leave?.map blind := by
  rcases c with ⟨_ | ⟨token, rest⟩, n, trims⟩
  · rfl
  · cases token
    case closing name => exact advance?_blind ⟨.closing name :: rest, n, trims⟩
    all_goals
      show look? n trims (afterElement 0 (List.map Token.blind (_ :: rest))) = _
      rw [afterElement_blind]
      exact look?_blind _ _ _

/-! ## Elements -/

theorem skip?_blind (c : Cursor) : c.blind.skip? = c.skip?.map blind := by
  rw [skip?, skip?, next?_blind]
  cases c.next? with
  | none => rfl
  | some p =>
    obtain ⟨step, after⟩ := p
    cases step with
    | closing => rfl
    | text text => exact leave?_blind after
    | opening tag =>
      show (after.blind.leave?.bind fun c => c.leave?) = (after.leave?.bind fun c => c.leave?).map blind
      rw [leave?_blind]
      cases after.leave? with
      | none => rfl
      | some behind => exact leave?_blind behind

theorem text?_blind (c : Cursor) : c.blind.text? = c.text?.map blindBehind := by
  rw [text?, text?, next?_blind]
  cases c.next? with
  | none => rfl
  | some p =>
    obtain ⟨step, after⟩ := p
    cases step with
    | closing => rfl
    | opening tag => rfl
    | text text =>
      have hnext := next?_blind after
      show (after.blind.next?.bind fun p => _) = (after.next?.bind fun p => _).map blindBehind
      rw [hnext]
      cases after.next? with
      | none => rfl
      | some q =>
        obtain ⟨step, behind⟩ := q
        cases step <;> rfl

theorem textUnlessNil?_blind (record tag : Tag) (c : Cursor) :
    c.blind.textUnlessNil? record tag = (c.textUnlessNil? record tag).map blindBehind := by
  rw [textUnlessNil?, textUnlessNil?]
  show (if c.namespaces.marksNil _ || c.namespaces.marksNil _ then _ else _) = _
  split
  · rw [skip?_blind, Option.map_map, Option.map_map]
    rfl
  · rw [text?_blind, Option.map_map, Option.map_map]
    rfl

theorem field?_blind (texts unlessNil : List String) (record tag : Tag) (c : Cursor) :
    c.blind.field? texts unlessNil record tag = (c.field? texts unlessNil record tag).map blindBehind := by
  rw [field?, field?]
  split
  · rw [text?_blind, Option.map_map, Option.map_map]
    rfl
  · rw [textUnlessNil?_blind, Option.map_map, Option.map_map]
    rfl
  · rw [skip?_blind, Option.map_map, Option.map_map]
    rfl

section Records

variable {α : Type} {read : Tag → Cursor → Option (Option α × Cursor)}

theorem fieldsFrom?_blind (hread : ∀ tag c, read tag c.blind = (read tag c).map blindBehind) : ∀ (steps : Nat)
    (found : List α) (c : Cursor), fieldsFrom? read steps found c.blind = (fieldsFrom? read steps found c).map blindBehind
  | 0, _, _ => rfl
  | steps + 1, found, c => by
    have hblind := c.next?_blind
    cases hnext : c.next? with
    | none =>
      rw [hnext] at hblind
      rw [fieldsFrom?_of_stuck hnext, fieldsFrom?_of_stuck hblind, Option.map_none]
    | some p =>
      obtain ⟨step, after⟩ := p
      rw [hnext] at hblind
      cases step with
      | closing =>
        rw [fieldsFrom?_of_closing hnext, fieldsFrom?_of_closing hblind]
        rfl
      | text text =>
        rw [fieldsFrom?_of_text hnext, fieldsFrom?_of_text hblind]
        exact fieldsFrom?_blind hread steps found after
      | opening tag =>
        rw [fieldsFrom?_of_opening hnext, fieldsFrom?_of_opening hblind, hread]
        cases read tag after with
        | none => rfl
        | some q => exact fieldsFrom?_blind hread steps _ q.2

/-- **A record is read alike**, whatever the names of closing tags in it. -/
theorem fields?_blind (hread : ∀ tag c, read tag c.blind = (read tag c).map blindBehind) (record : Tag) (c : Cursor) :
    c.blind.fields? record read = (c.fields? record read).map blindBehind := by
  have hlength : c.blind.ahead.length = c.ahead.length := List.length_map _
  rw [fields?, fields?, hlength]
  split
  · exact fieldsFrom?_blind hread _ _ c
  · rfl

end Records

end Cursor
end Xml
end StorageGate
