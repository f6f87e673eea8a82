/-!
# Named fields

`Fields` maps names to values and lists them by name in code point order.  The order is part of the type: properties and
metadata are printed, signed and sent in it.
-/
namespace StorageGate

/-- Values under distinct names. -/
structure Fields where
  /-- The names and values, by ascending name. -/
  entries : List (String × String)
  /-- Each name stands before every later one, so no name occurs twice. -/
  ascending : entries.Pairwise (fun a b => a.1 < b.1)
deriving DecidableEq, Repr

namespace Fields

/-- No fields. -/
def empty : Fields := ⟨[], .nil⟩

instance : Inhabited Fields := ⟨empty⟩

/-- Puts a value under a name, in its place among ascending entries. -/
def insertInto (name value : String) : List (String × String) → List (String × String)
  | [] => [(name, value)]
  | e :: r =>
    if name < e.1 then (name, value) :: e :: r
    else if name = e.1 then (name, value) :: r
    else e :: insertInto name value r

theorem mem_of_mem_insertInto {name value : String} {e : String × String} :
    ∀ {l : List (String × String)}, e ∈ insertInto name value l → e = (name, value) ∨ e ∈ l
  | [], h => by simpa [insertInto] using h
  | f :: r, h => by
    simp only [insertInto] at h
    split at h
    · simpa using h
    · split at h
      · simp only [List.mem_cons] at h ⊢
        exact h.imp_right Or.inr
      · simp only [List.mem_cons] at h ⊢
        rcases h with h | h
        · exact .inr (.inl h)
        · exact (mem_of_mem_insertInto h).imp_right Or.inr

theorem ascending_insertInto {name value : String} :
    ∀ {l : List (String × String)}, l.Pairwise (fun a b => a.1 < b.1) →
      (insertInto name value l).Pairwise (fun a b => a.1 < b.1)
  | [], _ => by simp [insertInto]
  | e :: r, h => by
    obtain ⟨he, hr⟩ := List.pairwise_cons.1 h
    simp only [insertInto]
    split
    · rename_i hlt
      refine List.pairwise_cons.2 ⟨fun f hf => ?_, h⟩
      rcases List.mem_cons.1 hf with rfl | hf
      · exact hlt
      · exact String.lt_trans hlt (he f hf)
    · rename_i hnlt
      split
      · rename_i heq
        exact List.pairwise_cons.2 ⟨fun f hf => by simpa [heq] using he f hf, hr⟩
      · rename_i hne
        refine List.pairwise_cons.2 ⟨fun f hf => ?_, ascending_insertInto hr⟩
        rcases mem_of_mem_insertInto hf with rfl | hf
        · exact Decidable.byContradiction fun hn =>
            hne (String.le_antisymm (String.not_lt.1 hn) (String.not_lt.1 hnlt))
        · exact he f hf

/-- Puts a value under a name, in place of the one that was there. -/
def insert (fields : Fields) (name value : String) : Fields where
  entries := insertInto name value fields.entries
  ascending := ascending_insertInto fields.ascending

/-- Takes a name out, if it is there. -/
def erase (fields : Fields) (name : String) : Fields where
  entries := fields.entries.filter (·.1 != name)
  ascending := fields.ascending.filter _

/-- The value under a name. -/
def get? (fields : Fields) (name : String) : Option String :=
  fields.entries.lookup name

/-- Inserts pairs in order, so that of two values under one name the later stays. -/
def insertAll (fields : Fields) (pairs : List (String × String)) : Fields :=
  pairs.foldl (fun f p => f.insert p.1 p.2) fields

/-- The fields given by a list of pairs. -/
def ofList (pairs : List (String × String)) : Fields := insertAll empty pairs

/-- The names and values, by ascending name. -/
def toList (fields : Fields) : List (String × String) := fields.entries

end Fields
end StorageGate
