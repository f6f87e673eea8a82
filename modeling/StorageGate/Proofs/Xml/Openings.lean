import StorageGate.Proofs.Xml.Steps
/-!
# Where fields come from

Reading goes forward only: the elements that open behind a place are among those that open ahead of it (`Behind`).  So every
field that is read of a record comes from an element of its name (`exists_opening_of_fields?`).
-/
namespace StorageGate
namespace Xml
namespace Cursor

/-- Whether what opens ahead of a place opens ahead of another, too. -/
def Behind (after before : Cursor) : Prop := ∀ tag, .opening tag ∈ after.ahead → .opening tag ∈ before.ahead

theorem Behind.refl (c : Cursor) : Behind c c := fun _ h => h

theorem Behind.trans {a b c : Cursor} (h : Behind a b) (h' : Behind b c) : Behind a c := fun tag ht => h' tag (h tag ht)

/-! ## Steps -/

theorem opening_mem_of_look? {n : Namespaces} {trims : Bool} {tokens : List Token} {c : Cursor}
    (h : look? n trims tokens = some c) {tag : Tag} (htag : .opening tag ∈ c.ahead) : .opening tag ∈ tokens := by
  fun_induction look? n trims tokens with
  | case1 tag' rest =>
    obtain ⟨inside, _, rfl⟩ := Option.map_eq_some_iff.1 h
    exact htag
  | case3 raw rest _ _ ih => exact List.mem_cons_of_mem _ (ih h)
  | case4 raw rest _ _ =>
    cases h
    exact List.mem_cons_of_mem _ ((List.mem_cons.1 htag).resolve_left fun he => by cases he)
  | _ =>
    cases h
    exact htag

theorem behind_of_advance? {c after : Cursor} (h : c.advance? = some after) : Behind after c := by
  intro tag htag
  unfold advance? at h
  split at h
  · cases h
  all_goals
    rename_i heq
    rw [heq]
    exact List.mem_cons_of_mem _ (opening_mem_of_look? h htag)

theorem behind_of_textFrom? {read text : List Char} {c after : Cursor} (h : textFrom? read c = some (text, after)) :
    Behind after c := by
  fun_induction textFrom? read c with
  | case2 | case3 =>
    rename_i ih
    exact (ih h).trans (behind_of_advance? ‹advance? _ = some _›)
  | case6 =>
    cases h
    exact .refl _
  | _ => cases h

/-- **A step goes forward**, and what it opens was ahead. -/
theorem behind_of_next? {c after : Cursor} {step : Step} (h : c.next? = some (step, after)) :
    Behind after c ∧ ∀ tag, step = .opening tag → .opening tag ∈ c.ahead := by
  fun_induction next? c with
  | case1 => cases h
  | case2 =>
    cases h
    refine ⟨behind_of_advance? ‹_›, fun tag htag => ?_⟩
    cases htag
    rw [‹Cursor.ahead _ = _›]
    exact List.mem_cons_self
  | case3 =>
    cases h
    exact ⟨behind_of_advance? ‹_›, fun tag htag => nomatch htag⟩
  | case4 | case7 =>
    rename_i ih
    have hadvance := behind_of_advance? ‹advance? _ = some _›
    obtain ⟨hbehind, hopening⟩ := ih h
    exact ⟨hbehind.trans hadvance, fun tag htag => hadvance tag (hopening tag htag)⟩
  | case5 | case6 =>
    obtain ⟨p, hp, he⟩ := Option.map_eq_some_iff.1 h
    cases he
    exact ⟨behind_of_textFrom? hp, fun tag htag => nomatch htag⟩

theorem mem_of_mem_afterElement {token : Token} : ∀ {depth : Nat} {tokens : List Token},
    token ∈ afterElement depth tokens → token ∈ tokens
  | depth, tokens, h => by
    fun_induction afterElement depth tokens with
    | case1 => exact h
    | case3 => exact List.mem_cons_of_mem _ h
    | case2 | case4 | case5 =>
      rename_i ih
      exact List.mem_cons_of_mem _ (ih h)

theorem behind_of_leave? {c after : Cursor} (h : c.leave? = some after) : Behind after c := by
  unfold leave? at h
  split at h
  · exact behind_of_advance? h
  · exact fun tag htag => mem_of_mem_afterElement (opening_mem_of_look? h htag)

/-! ## Elements -/

theorem behind_of_skip? {c after : Cursor} (h : c.skip? = some after) : Behind after c := by
  obtain ⟨⟨step, inside⟩, hstep, h⟩ := Option.bind_eq_some_iff.1 h
  obtain ⟨hinside, _⟩ := behind_of_next? hstep
  cases step with
  | closing =>
    cases h
    exact hinside
  | opening tag =>
    obtain ⟨c', hc', h⟩ := Option.bind_eq_some_iff.1 h
    exact ((behind_of_leave? h).trans (behind_of_leave? hc')).trans hinside
  | text text => exact (behind_of_leave? h).trans hinside

theorem behind_of_text? {c after : Cursor} {text : List Char} (h : c.text? = some (text, after)) : Behind after c := by
  obtain ⟨⟨step, inside⟩, hstep, h⟩ := Option.bind_eq_some_iff.1 h
  obtain ⟨hinside, _⟩ := behind_of_next? hstep
  cases step with
  | closing =>
    cases h
    exact hinside
  | opening tag => cases h
  | text text =>
    obtain ⟨⟨step, behind⟩, hstep', h⟩ := Option.bind_eq_some_iff.1 h
    cases step with
    | closing =>
      cases h
      exact (behind_of_next? hstep').1.trans hinside
    | opening tag => cases h
    | text text => cases h

theorem behind_of_textUnlessNil? {record tag : Tag} {c after : Cursor} {text : Option (List Char)}
    (h : c.textUnlessNil? record tag = some (text, after)) : Behind after c := by
  unfold textUnlessNil? at h
  split at h
  · obtain ⟨_, hskip, he⟩ := Option.map_eq_some_iff.1 h
    cases he
    exact behind_of_skip? hskip
  · obtain ⟨_, htext, he⟩ := Option.map_eq_some_iff.1 h
    cases he
    exact behind_of_text? htext

/-- A field has the name of its element. -/
theorem behind_of_field? {texts unlessNil : List String} {record tag : Tag} {c after : Cursor}
    {field : Option (String × Option (List Char))} (h : c.field? texts unlessNil record tag = some (field, after)) :
    Behind after c ∧ ∀ f ∈ field, tag.isNamed f.1 = true := by
  unfold field? at h
  split at h
  · rename_i name _ hname
    obtain ⟨_, htext, he⟩ := Option.map_eq_some_iff.1 h
    cases he
    refine ⟨behind_of_text? htext, fun f hf => ?_⟩
    cases hf
    exact List.find?_some hname
  · rename_i name _ hname
    obtain ⟨_, htext, he⟩ := Option.map_eq_some_iff.1 h
    cases he
    refine ⟨behind_of_textUnlessNil? htext, fun f hf => ?_⟩
    cases hf
    exact List.find?_some hname
  · obtain ⟨_, hskip, he⟩ := Option.map_eq_some_iff.1 h
    cases he
    exact ⟨behind_of_skip? hskip, fun f hf => nomatch hf⟩

section Records

variable {α : Type} {read : Tag → Cursor → Option (Option α × Cursor)} {P : Tag → α → Prop}

theorem exists_opening_of_fieldsFrom? (hread : ∀ tag c field after, read tag c = some (field, after) →
    Behind after c ∧ ∀ a ∈ field, P tag a) : ∀ {steps : Nat} {found fields : List α} {c after : Cursor},
    fieldsFrom? read steps found c = some (fields, after) →
      ∀ a ∈ fields, a ∈ found ∨ ∃ tag, .opening tag ∈ c.ahead ∧ P tag a
  | 0, _, _, _, _, h => nomatch h
  | steps + 1, found, fields, c, after, h => by
    intro a ha
    cases hnext : c.next? with
    | none =>
      rw [fieldsFrom?_of_stuck hnext] at h
      cases h
    | some p =>
      obtain ⟨step, inside⟩ := p
      obtain ⟨hinside, hopening⟩ := behind_of_next? hnext
      cases step with
      | closing =>
        rw [fieldsFrom?_of_closing hnext] at h
        cases h
        exact .inl (List.mem_reverse.1 ha)
      | text text =>
        rw [fieldsFrom?_of_text hnext] at h
        refine (exists_opening_of_fieldsFrom? hread h a ha).imp id ?_
        rintro ⟨tag, htag, hP⟩
        exact ⟨tag, hinside tag htag, hP⟩
      | opening tag =>
        rw [fieldsFrom?_of_opening hnext] at h
        obtain ⟨⟨field, behind⟩, hfield, h⟩ := Option.bind_eq_some_iff.1 h
        obtain ⟨hbehind, hP⟩ := hread _ _ _ _ hfield
        rcases exists_opening_of_fieldsFrom? hread h a ha with hfound | ⟨tag', htag', hP'⟩
        · rcases List.mem_append.1 hfound with hnew | hfound
          · exact .inr ⟨tag, hopening tag rfl, hP a (Option.mem_toList.1 hnew)⟩
          · exact .inl hfound
        · exact .inr ⟨tag', hinside tag' (hbehind tag' htag'), hP'⟩

/-- **Every field comes from an element** that opens in the record. -/
theorem exists_opening_of_fields? (hread : ∀ tag c field after, read tag c = some (field, after) →
    Behind after c ∧ ∀ a ∈ field, P tag a) {record : Tag} {fields : List α} {c after : Cursor}
    (h : c.fields? record read = some (fields, after)) : ∀ a ∈ fields, ∃ tag, .opening tag ∈ c.ahead ∧ P tag a := by
  unfold fields? at h
  split at h
  · exact fun a ha => (exists_opening_of_fieldsFrom? hread h a ha).resolve_left List.not_mem_nil
  · cases h

end Records

end Cursor
end Xml
end StorageGate
