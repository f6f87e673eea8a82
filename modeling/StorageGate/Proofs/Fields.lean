import StorageGate.Fields
/-!
# Laws of named fields

Fields are given back by their own list (`ofList_toList`), since a name behind all others is put at the end, and they have
what any list has in which no name occurs twice (`mem_ofList`).  What is read under a name after an insertion or an
erasure: the new value, or nothing, under that name, and what was there under every other.
-/
namespace StorageGate
namespace Fields

theorem ext {f g : Fields} (h : f.entries = g.entries) : f = g := by
  cases f; cases g; cases h; rfl

/-! ## From a list and back -/

theorem insertInto_of_forall_lt {name value : String} :
    ∀ {l : List (String × String)}, (∀ e ∈ l, e.1 < name) → insertInto name value l = l ++ [(name, value)]
  | [], _ => rfl
  | e :: r, h => by
    have he : e.1 < name := h e List.mem_cons_self
    have hlt : ¬ name < e.1 := String.lt_asymm he
    have hne : ¬ name = e.1 := fun heq => String.lt_irrefl _ (heq ▸ he)
    rw [insertInto, if_neg hlt, if_neg hne, insertInto_of_forall_lt fun f hf => h f (List.mem_cons_of_mem _ hf)]
    rfl

theorem entries_insertAll : ∀ (pairs : List (String × String)) (f : Fields),
    (f.entries ++ pairs).Pairwise (fun a b => a.1 < b.1) → (f.insertAll pairs).entries = f.entries ++ pairs
  | [], f, _ => (List.append_nil _).symm
  | p :: pairs, f, h => by
    have hlast : (f.insert p.1 p.2).entries = f.entries ++ [p] :=
      insertInto_of_forall_lt fun e he => (List.pairwise_append.1 h).2.2 e he p List.mem_cons_self
    have hrest : (f.insert p.1 p.2).entries ++ pairs = f.entries ++ p :: pairs := by
      rw [hlast, List.append_assoc]; rfl
    show ((f.insert p.1 p.2).insertAll pairs).entries = _
    rw [entries_insertAll pairs (f.insert p.1 p.2) (by rw [hrest]; exact h), hrest]

/-- **Fields are given back by their list.** -/
@[simp] theorem ofList_toList (f : Fields) : ofList f.toList = f :=
  ext (entries_insertAll f.entries empty f.ascending)

theorem mem_insertInto {name value : String} {e : String × String} : ∀ {l : List (String × String)},
    (∀ f ∈ l, f.1 ≠ name) → (e ∈ insertInto name value l ↔ e = (name, value) ∨ e ∈ l)
  | [], _ => by simp [insertInto]
  | f :: l, h => by
    have hne : ¬ name = f.1 := fun he => h f List.mem_cons_self he.symm
    have ih : e ∈ insertInto name value l ↔ e = (name, value) ∨ e ∈ l :=
      mem_insertInto fun g hg => h g (List.mem_cons_of_mem f hg)
    rw [insertInto, if_neg hne]
    split
    · rw [List.mem_cons]
    · rw [List.mem_cons, List.mem_cons, ih, or_left_comm]

theorem mem_insertAll {e : String × String} : ∀ {pairs : List (String × String)} {f : Fields},
    (∀ a ∈ f.entries, ∀ b ∈ pairs, a.1 ≠ b.1) → (pairs.Pairwise fun a b => a.1 ≠ b.1) →
      (e ∈ (f.insertAll pairs).entries ↔ e ∈ f.entries ∨ e ∈ pairs)
  | [], f, _, _ => by simp [insertAll]
  | p :: pairs, f, hf, hpairs => by
    obtain ⟨hp, hrest⟩ := List.pairwise_cons.1 hpairs
    have hmem : ∀ {a}, a ∈ (f.insert p.1 p.2).entries ↔ a = p ∨ a ∈ f.entries :=
      mem_insertInto fun a ha => hf a ha p List.mem_cons_self
    have hnew : ∀ a ∈ (f.insert p.1 p.2).entries, ∀ b ∈ pairs, a.1 ≠ b.1 := by
      intro a ha b hb
      rcases hmem.1 ha with rfl | ha
      · exact hp b hb
      · exact hf a ha b (List.mem_cons_of_mem p hb)
    show e ∈ ((f.insert p.1 p.2).insertAll pairs).entries ↔ _
    rw [mem_insertAll hnew hrest, hmem, List.mem_cons, or_left_comm, or_assoc]

/-! ## Entries -/

theorem nodup_entries (f : Fields) : f.entries.Nodup :=
  f.ascending.imp fun {a b} (hlt : a.1 < b.1) (he : a = b) => String.lt_irrefl b.1 (he ▸ hlt)

/-- **Fields with the same entries are the same**, since the entries of both are in order. -/
theorem ext_of_mem {f g : Fields} (h : ∀ e, e ∈ f.toList ↔ e ∈ g.toList) : f = g := by
  have hperm : f.entries.Perm g.entries := (List.perm_ext_iff_of_nodup f.nodup_entries g.nodup_entries).2 h
  exact ext (hperm.eq_of_pairwise (fun a b _ _ hab hba => absurd hba (String.lt_asymm hab)) f.ascending g.ascending)

/-- **Fields have what was put in**, if no name was put in twice. -/
theorem mem_ofList {pairs : List (String × String)} (h : pairs.Pairwise fun a b => a.1 ≠ b.1) {e : String × String} :
    e ∈ (ofList pairs).toList ↔ e ∈ pairs := by
  have hempty : ∀ a ∈ empty.entries, ∀ b ∈ pairs, a.1 ≠ b.1 := fun a ha => nomatch ha
  have hmem : e ∈ (ofList pairs).toList ↔ e ∈ empty.entries ∨ e ∈ pairs := mem_insertAll hempty h
  rw [hmem]
  simp [empty]

theorem ofList_perm {pairs pairs' : List (String × String)} (h : pairs.Perm pairs')
    (hapart : pairs.Pairwise fun a b => a.1 ≠ b.1) : ofList pairs = ofList pairs' := by
  apply ext_of_mem
  intro e
  rw [mem_ofList hapart, mem_ofList (h.pairwise hapart Ne.symm), h.mem_iff]

/-! ## Reading -/

theorem lookup_cons_of_ne {α : Type} {name : String} {e : String × α} (h : name ≠ e.1) (l : List (String × α)) :
    (e :: l).lookup name = l.lookup name := by
  rw [List.lookup_cons, beq_false_of_ne h]

/-- Where no name occurs twice, what is read under a name is what is there. -/
theorem lookup_eq_some_iff {α : Type} [DecidableEq α] {a : α} {value : String} : ∀ {l : List (α × String)},
    (l.Pairwise fun e f => e.1 ≠ f.1) → (l.lookup a = some value ↔ (a, value) ∈ l)
  | [], _ => by simp
  | (b, v) :: l, h => by
    obtain ⟨hb, hl⟩ := List.pairwise_cons.1 h
    by_cases hab : a = b
    · subst hab
      have hnot : (a, value) ∉ l := fun hmem => hb _ hmem rfl
      simp [hnot, eq_comm]
    · have hbeq : (a == b) = false := by simpa using hab
      simp [List.lookup_cons, hbeq, lookup_eq_some_iff hl, hab]

theorem lookup_perm {α : Type} [DecidableEq α] {l l' : List (α × String)} (h : l.Perm l')
    (hapart : l.Pairwise fun e f => e.1 ≠ f.1) (a : α) : l.lookup a = l'.lookup a := by
  have hapart' : l'.Pairwise fun e f => e.1 ≠ f.1 := h.pairwise hapart Ne.symm
  apply Option.ext
  intro value
  rw [lookup_eq_some_iff hapart, lookup_eq_some_iff hapart', h.mem_iff]

theorem get?_eq_some_iff {f : Fields} {name value : String} : f.get? name = some value ↔ (name, value) ∈ f.toList := by
  have hapart : f.entries.Pairwise fun a b => a.1 ≠ b.1 :=
    f.ascending.imp fun {a b} hlt (he : a.1 = b.1) => String.lt_irrefl b.1 (he ▸ hlt)
  exact lookup_eq_some_iff hapart

/-- A name has one entry. -/
theorem eq_of_name_eq {f : Fields} {a b : String × String} (ha : a ∈ f.toList) (hb : b ∈ f.toList) (h : a.1 = b.1) :
    a = b := by
  have hvalue := (get?_eq_some_iff.2 ha).symm.trans (h ▸ get?_eq_some_iff.2 hb)
  exact Prod.ext h (Option.some.inj hvalue)

theorem lookup_insertInto (name value name' : String) :
    ∀ {l : List (String × String)}, l.Pairwise (fun a b => a.1 < b.1) →
      (insertInto name value l).lookup name' = if name' = name then some value else l.lookup name'
  | [], _ => by
    by_cases h : name' = name
    · rw [insertInto, if_pos h, h, List.lookup_cons_self]
    · rw [insertInto, if_neg h, lookup_cons_of_ne h]
  | e :: r, h => by
    obtain ⟨he, hr⟩ := List.pairwise_cons.1 h
    rw [insertInto]
    split
    · by_cases hn : name' = name
      · rw [if_pos hn, hn, List.lookup_cons_self]
      · rw [if_neg hn, lookup_cons_of_ne hn]
    · split
      · rename_i heq
        by_cases hn : name' = name
        · rw [if_pos hn, hn, List.lookup_cons_self]
        · rw [if_neg hn, lookup_cons_of_ne hn, lookup_cons_of_ne (heq ▸ hn)]
      · rename_i hne
        by_cases hn : name' = e.1
        · rw [hn, if_neg (Ne.symm hne), List.lookup_cons_self, List.lookup_cons_self]
        · rw [lookup_cons_of_ne hn, lookup_cons_of_ne hn, lookup_insertInto name value name' hr]

theorem get?_insert (f : Fields) (name value name' : String) :
    (f.insert name value).get? name' = if name' = name then some value else f.get? name' :=
  lookup_insertInto name value name' f.ascending

@[simp] theorem get?_insert_self (f : Fields) (name value : String) : (f.insert name value).get? name = some value := by
  rw [get?_insert, if_pos rfl]

theorem get?_insert_of_ne (f : Fields) {name name' : String} (value : String) (h : name' ≠ name) :
    (f.insert name value).get? name' = f.get? name' := by
  rw [get?_insert, if_neg h]

theorem lookup_filter_ne (name name' : String) : ∀ (l : List (String × String)),
    (l.filter (·.1 != name)).lookup name' = if name' = name then none else l.lookup name'
  | [] => (ite_self none).symm
  | e :: r => by
    by_cases he : e.1 = name
    · rw [List.filter_cons_of_neg (by simpa using he), lookup_filter_ne name name' r]
      by_cases hn : name' = name
      · rw [if_pos hn, if_pos hn]
      · rw [if_neg hn, if_neg hn, lookup_cons_of_ne (he ▸ hn)]
    · rw [List.filter_cons_of_pos (by simpa using he)]
      by_cases hn : name' = e.1
      · rw [hn, if_neg he, List.lookup_cons_self, List.lookup_cons_self]
      · rw [lookup_cons_of_ne hn, lookup_cons_of_ne hn, lookup_filter_ne name name' r]

theorem get?_erase (f : Fields) (name name' : String) :
    (f.erase name).get? name' = if name' = name then none else f.get? name' :=
  lookup_filter_ne name name' f.entries

@[simp] theorem get?_erase_self (f : Fields) (name : String) : (f.erase name).get? name = none := by
  rw [get?_erase, if_pos rfl]

theorem get?_insertAll (name : String) : ∀ (pairs : List (String × String)) (f : Fields),
    (f.insertAll pairs).get? name = (pairs.reverse.lookup name).or (f.get? name)
  | [], f => rfl
  | p :: pairs, f => by
    have hlast : ([p].lookup name).or (f.get? name) = (f.insert p.1 p.2).get? name := by
      by_cases h : name = p.1
      · rw [h, List.lookup_cons_self, get?_insert_self]
        rfl
      · rw [lookup_cons_of_ne h, get?_insert_of_ne f p.2 h]
        rfl
    rw [List.reverse_cons, List.lookup_append, Option.or_assoc, hlast]
    exact get?_insertAll name pairs (f.insert p.1 p.2)

/-- **Of the values that were put under a name, the last stays.** -/
theorem get?_ofList (pairs : List (String × String)) (name : String) :
    (ofList pairs).get? name = pairs.reverse.lookup name :=
  (get?_insertAll name pairs empty).trans Option.or_none

end Fields
end StorageGate
