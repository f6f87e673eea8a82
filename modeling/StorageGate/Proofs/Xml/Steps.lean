import StorageGate.Xml.Record
/-!
# One step in a document

What is read at a place, told from the place behind its next token: the step (`next?_of_advance`), the text that goes on from it
(`textFrom?_of_characters`, `textFrom?_of_verbatim`), and the next field of a record (`fieldsFrom?_of_opening`).
-/
namespace StorageGate
namespace Xml
namespace Cursor

section Steps

variable {c after : Cursor} {raw : List Char} {rest : List Token}

theorem next?_of_stuck (h : c.advance? = none) : c.next? = none := by
  rw [next?]
  split
  · rfl
  · rename_i hafter
    rw [h] at hafter
    cases hafter

theorem next?_of_advance (h : c.advance? = some after) : c.next? = match c.ahead with
    | .opening tag :: _ => some (.opening tag, after)
    | .closing _ :: _ => some (.closing, after)
    | .characters raw :: _ =>
      if raw.all isSpace && !after.isAtText then next? after else (textFrom? [] c).map fun p => (.text p.1, p.2)
    | .verbatim _ :: _ => (textFrom? [] c).map fun p => (.text p.1, p.2)
    | _ => next? after := by
  rw [next?]
  split
  · rename_i hnone
    rw [h] at hnone
    cases hnone
  · rename_i after' hafter
    rw [h] at hafter
    cases hafter
    rfl

theorem textFrom?_of_characters (hafter : c.advance? = some after) (hahead : c.ahead = .characters raw :: rest)
    (read : List Char) : textFrom? read c
      = (resolve? (if after.isAtText then raw else trimEnd raw)).bind fun text => textFrom? (read ++ text) after := by
  rw [textFrom?]
  split
  · rename_i after' raw' _ hafter' hahead'
    rw [hafter] at hafter'
    rw [hahead] at hahead'
    cases hafter'
    cases hahead'
    cases resolve? (if after.isAtText then raw else trimEnd raw) <;> rfl
  all_goals simp_all

theorem textFrom?_of_verbatim (hafter : c.advance? = some after) (hahead : c.ahead = .verbatim raw :: rest)
    (read : List Char) : textFrom? read c = textFrom? (read ++ raw) after := by
  rw [textFrom?]
  split
  all_goals simp_all

theorem textFrom?_of_stuck (hafter : c.advance? = none) (htext : c.isAtText = true) (read : List Char) :
    textFrom? read c = none := by
  rw [textFrom?]
  split
  all_goals simp_all [isAtText]

theorem textFrom?_of_other (htext : c.isAtText = false) (read : List Char) : textFrom? read c = some (read, c) := by
  rw [textFrom?]
  split
  all_goals simp_all [isAtText]

end Steps

section Fields

variable {α : Type} {read : Tag → Cursor → Option (Option α × Cursor)} {steps : Nat} {found : List α} {c after : Cursor}

theorem fieldsFrom?_of_opening {tag : Tag} (h : c.next? = some (.opening tag, after)) :
    fieldsFrom? read (steps + 1) found c
      = (read tag after).bind fun p => fieldsFrom? read steps (p.1.toList ++ found) p.2 := by
  rw [fieldsFrom?, h]
  dsimp only
  cases read tag after <;> rfl

theorem fieldsFrom?_of_closing (h : c.next? = some (.closing, after)) :
    fieldsFrom? read (steps + 1) found c = some (found.reverse, after) := by
  rw [fieldsFrom?, h]

theorem fieldsFrom?_of_text {text : List Char} (h : c.next? = some (.text text, after)) :
    fieldsFrom? read (steps + 1) found c = fieldsFrom? read steps found after := by
  rw [fieldsFrom?, h]

theorem fieldsFrom?_of_stuck (h : c.next? = none) : fieldsFrom? read (steps + 1) found c = none := by
  rw [fieldsFrom?, h]

end Fields

end Cursor
end Xml
end StorageGate
