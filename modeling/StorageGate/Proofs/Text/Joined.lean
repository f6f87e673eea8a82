import StorageGate.Proofs.Text.Form
/-!
# Joined texts

Fields are written as two texts: their names, joined by one mark, and their lines, joined by another, each a name and a value
with a third between them.  Where no name holds any of the three marks and no value the one of the lines, nothing else is
written as these two texts (`eq_of_joined`).  Nothing has to be known of what is compared with it: a value there that breaks
its line makes one line too many for the names.
-/
namespace StorageGate

namespace Joined

variable {sep c : Char}

theorem mem_intercalate_of_mem : ∀ {ls : List (List Char)} {l : List Char}, l ∈ ls → c ∈ l → c ∈ [sep].intercalate ls
  | [_], l, hl, hc => by
    rw [List.mem_singleton] at hl
    rw [List.intercalate_singleton, ← hl]
    exact hc
  | first :: second :: ls, l, hl, hc => by
    rw [List.intercalate_cons_cons, List.mem_append, List.mem_append]
    rcases List.mem_cons.1 hl with rfl | hl
    · exact .inl (.inl hc)
    · exact .inr (mem_intercalate_of_mem hl hc)

/-- A text is made of its pieces and of what stands between them. -/
theorem forall_mem_of_splitOn (sep : Char) {P : Char → Prop} {text : List Char} (hsep : P sep)
    (h : ∀ piece ∈ text.splitOn sep, ∀ c ∈ piece, P c) : ∀ c ∈ text, P c := by
  intro c hc
  have hwhole : [sep].intercalate (text.splitOn sep) = text := List.intercalate_splitOn sep
  rw [← hwhole] at hc
  rcases Form.mem_intercalate hc with rfl | ⟨piece, hpiece, hc⟩
  · exact hsep
  · exact h piece hpiece c hc

theorem intercalate_append {sep : List Char} : ∀ {first second : List (List Char)}, first ≠ [] → second ≠ [] →
    sep.intercalate (first ++ second) = sep.intercalate first ++ sep ++ sep.intercalate second
  | [], _, h, _ => absurd rfl h
  | [l], m :: second, _, _ => by
    rw [List.singleton_append, List.intercalate_cons_cons, List.intercalate_singleton]
  | l :: l' :: first, second, _, hsecond => by
    have hrest : sep.intercalate ((l' :: first) ++ second)
        = sep.intercalate (l' :: first) ++ sep ++ sep.intercalate second :=
      intercalate_append (List.cons_ne_nil _ _) hsecond
    rw [List.cons_append, List.cons_append, List.intercalate_cons_cons, ← List.cons_append, hrest,
      List.intercalate_cons_cons]
    simp only [List.append_assoc]

/-- The pieces of joined texts are those of each of them, one after another. -/
theorem splitOn_intercalate_eq_flatMap : ∀ {ls : List (List Char)}, ls ≠ [] →
    ([sep].intercalate ls).splitOn sep = ls.flatMap (List.splitOn sep)
  | [], h => absurd rfl h
  | [l], _ => by rw [List.intercalate_singleton, List.flatMap_singleton]
  | l :: l' :: ls, _ => by
    have hrest : ([sep].intercalate (l' :: ls)).splitOn sep = (l' :: ls).flatMap (List.splitOn sep) :=
      splitOn_intercalate_eq_flatMap (List.cons_ne_nil _ _)
    rw [List.intercalate_cons_cons, List.append_assoc, List.singleton_append, List.splitOn_append_cons_self, hrest]
    rfl

theorem length_le_flatMap {f : List Char → List (List Char)} (hf : ∀ l, f l ≠ []) : ∀ ls : List (List Char),
    ls.length ≤ (ls.flatMap f).length
  | [] => Nat.zero_le _
  | l :: ls => by
    have hl : 0 < (f l).length := List.length_pos_iff.2 (hf l)
    have hrest := length_le_flatMap hf ls
    rw [List.flatMap_cons, List.length_append, List.length_cons]
    omega

/-- Texts that have no more pieces than they are themselves are not cut at all. -/
theorem not_mem_of_length_flatMap_le : ∀ {ls : List (List Char)},
    (ls.flatMap (List.splitOn sep)).length ≤ ls.length → ∀ l ∈ ls, sep ∉ l
  | [], _ => fun l hl => nomatch hl
  | l :: ls, h => by
    have hrest := length_le_flatMap (List.splitOn_ne_nil sep) ls
    rw [List.flatMap_cons, List.length_append, List.length_cons] at h
    have hl : 0 < (l.splitOn sep).length := List.length_pos_iff.2 (List.splitOn_ne_nil sep l)
    intro l' hl'
    rcases List.mem_cons.1 hl' with rfl | hl'
    · intro hmem
      obtain ⟨before, after, rfl, hbefore⟩ := List.eq_append_cons_of_mem hmem
      rw [List.splitOn_append_cons_self_of_not_mem hbefore, List.length_cons] at h
      have hafter : 0 < (after.splitOn sep).length := List.length_pos_iff.2 (List.splitOn_ne_nil sep after)
      omega
    · exact not_mem_of_length_flatMap_le (by omega) l' hl'

end Joined

/-- A field on a line: its name and its value with a mark between them. -/
def fieldLine (mark : Char) (field : List Char × List Char) : List Char := field.1 ++ mark :: field.2

/-- Wherever a value breaks its line, the name stands on the first piece. -/
theorem exists_mem_splitOn_fieldLine {sep mark : Char} (hmark : mark ≠ sep) {name : List Char} (hname : sep ∉ name)
    (value : List Char) : ∃ start, fieldLine mark (name, start) ∈ (fieldLine mark (name, value)).splitOn sep := by
  have hcut {start : List Char} (h : sep ∉ start) : sep ∉ fieldLine mark (name, start) := by
    simp [fieldLine, hname, h, hmark.symm]
  by_cases hvalue : sep ∈ value
  · obtain ⟨before, after, rfl, hbefore⟩ := List.eq_append_cons_of_mem hvalue
    have hline : fieldLine mark (name, before ++ sep :: after) = fieldLine mark (name, before) ++ sep :: after := by
      simp [fieldLine]
    refine ⟨before, ?_⟩
    rw [hline, List.splitOn_append_cons_self_of_not_mem (hcut hbefore)]
    exact List.mem_cons_self
  · refine ⟨value, ?_⟩
    rw [List.splitOn_eq_singleton (hcut hvalue)]
    exact List.mem_singleton_self _

theorem append_cons_inj {mark : Char} {a b x y : List Char} (ha : mark ∉ a) (hb : mark ∉ b)
    (h : a ++ mark :: x = b ++ mark :: y) : a = b ∧ x = y := by
  have hpieces := congrArg (List.splitOn mark) h
  rw [List.splitOn_append_cons_self_of_not_mem ha, List.splitOn_append_cons_self_of_not_mem hb] at hpieces
  obtain rfl : a = b := (List.cons_eq_cons.1 hpieces).1
  exact ⟨rfl, (List.cons_eq_cons.1 (List.append_cancel_left h)).2⟩

theorem fieldLine_inj {mark : Char} {a b : List Char × List Char} (ha : mark ∉ a.1) (hb : mark ∉ b.1)
    (h : fieldLine mark a = fieldLine mark b) : a = b := by
  obtain ⟨hname, hvalue⟩ := append_cons_inj ha hb h
  exact Prod.ext hname hvalue

theorem eq_of_map_eq {α β : Type} {f : α → β} : ∀ {as bs : List α}, (∀ a ∈ as, ∀ b ∈ bs, f a = f b → a = b) →
    as.map f = bs.map f → as = bs
  | [], [], _, _ => rfl
  | a :: as, b :: bs, hf, h => by
    obtain ⟨hfirst, hrest⟩ := List.cons_eq_cons.1 h
    have hsame : as = bs := eq_of_map_eq (fun a' ha' b' hb' =>
      hf a' (List.mem_cons_of_mem _ ha') b' (List.mem_cons_of_mem _ hb')) hrest
    rw [hf a List.mem_cons_self b List.mem_cons_self hfirst, hsame]

section Lines

variable {sep mark join : Char} {as bs : List (List Char × List Char)}

/-- What no name on one side holds, apart from what joins them, no name on the other holds either. -/
theorem not_mem_of_joinedNames
    (hnames : [join].intercalate (as.map Prod.fst) = [join].intercalate (bs.map Prod.fst)) {c : Char} (hc : c ≠ join)
    (hright : ∀ b ∈ bs, c ∉ b.1) : ∀ a ∈ as, c ∉ a.1 := by
  intro a ha hmem
  have hjoined : c ∈ [join].intercalate (bs.map Prod.fst) :=
    hnames ▸ Joined.mem_intercalate_of_mem (List.mem_map_of_mem ha) hmem
  rcases Form.mem_intercalate hjoined with he | ⟨name, hname, hc'⟩
  · exact hc he
  · obtain ⟨b, hb, rfl⟩ := List.mem_map.1 hname
    exact hright b hb hc'

theorem splitOn_joinedNames (has : as ≠ []) (h : ∀ a ∈ as, join ∉ a.1) :
    ([join].intercalate (as.map Prod.fst)).splitOn join = as.map Prod.fst := by
  refine List.splitOn_intercalate join (fun name hname => ?_) (by simpa using has)
  obtain ⟨a, ha, rfl⟩ := List.mem_map.1 hname
  exact h a ha

/-- Lines that are not broken are the pieces of whatever is joined to the same text. -/
theorem pieces_of_joinedLines (has : as ≠ []) (hbs : bs ≠ []) (hwhole : ∀ b ∈ bs, sep ∉ fieldLine mark b)
    (hlines : [sep].intercalate (as.map (fieldLine mark)) = [sep].intercalate (bs.map (fieldLine mark))) :
    (as.map (fieldLine mark)).flatMap (List.splitOn sep) = bs.map (fieldLine mark) := by
  rw [← Joined.splitOn_intercalate_eq_flatMap (by simpa using has), hlines]
  refine List.splitOn_intercalate sep (fun line hline => ?_) (by simpa using hbs)
  obtain ⟨b, hb, rfl⟩ := List.mem_map.1 hline
  exact hwhole b hb

/-- **Fields are told by their joined names and their joined lines**, if no name holds a mark and no value the one that joins
lines.  The fields on the other side can be any. -/
theorem eq_of_joined (hmark : mark ≠ sep) (hjoin : join ≠ sep ∧ join ≠ mark) (has : as ≠ []) (hbs : bs ≠ [])
    (hclean : ∀ b ∈ bs, (sep ∉ b.1 ∧ mark ∉ b.1 ∧ join ∉ b.1) ∧ sep ∉ b.2)
    (hnames : [join].intercalate (as.map Prod.fst) = [join].intercalate (bs.map Prod.fst))
    (hlines : [sep].intercalate (as.map (fieldLine mark)) = [sep].intercalate (bs.map (fieldLine mark))) : as = bs := by
  have hsepNames := not_mem_of_joinedNames hnames hjoin.1.symm fun b hb => (hclean b hb).1.1
  have hmarkNames := not_mem_of_joinedNames hnames hjoin.2.symm fun b hb => (hclean b hb).1.2.1
  have hwhole : ∀ b ∈ bs, sep ∉ fieldLine mark b := fun b hb => by
    simp [fieldLine, hclean b hb, hmark.symm]
  have hpieces := pieces_of_joinedLines has hbs hwhole hlines
  -- Every name on the left stands on a line of the right, so none holds what joins names.
  have hjoinNames : ∀ a ∈ as, join ∉ a.1 := by
    intro a ha
    obtain ⟨start, hstart⟩ := exists_mem_splitOn_fieldLine hmark (hsepNames a ha) a.2
    have hright : fieldLine mark (a.1, start) ∈ bs.map (fieldLine mark) :=
      hpieces ▸ List.mem_flatMap.2 ⟨_, List.mem_map_of_mem ha, hstart⟩
    obtain ⟨b, hb, hline⟩ := List.mem_map.1 hright
    have hsame : b = (a.1, start) := fieldLine_inj (hclean b hb).1.2.1 (hmarkNames a ha) hline
    have hfree := (hclean b hb).1.2.2
    rwa [hsame] at hfree
  have hsameNames : as.map Prod.fst = bs.map Prod.fst := by
    rw [← splitOn_joinedNames has hjoinNames, hnames, splitOn_joinedNames hbs fun b hb => (hclean b hb).1.2.2]
  have hlength : as.length = bs.length := by simpa using congrArg List.length hsameNames
  -- There are as many names as lines on the right, so no line on the left is broken.
  have hunbroken : ∀ line ∈ as.map (fieldLine mark), sep ∉ line := by
    refine Joined.not_mem_of_length_flatMap_le ?_
    rw [hpieces, List.length_map, List.length_map]
    exact Nat.le_of_eq hlength.symm
  have hsameLines : as.map (fieldLine mark) = bs.map (fieldLine mark) := by
    rw [← hpieces, ← Joined.splitOn_intercalate_eq_flatMap (by simpa using has),
      List.splitOn_intercalate sep hunbroken (by simpa using has)]
  exact eq_of_map_eq (fun a ha b hb => fieldLine_inj (hmarkNames a ha) (hclean b hb).1.2.1) hsameLines

end Lines

end StorageGate
