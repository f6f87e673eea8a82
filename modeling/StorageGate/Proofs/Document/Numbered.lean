import Mathlib.Data.List.Nodup
import Mathlib.Data.List.Perm.Basic
import StorageGate.Document.Message
import StorageGate.Proofs.Traversal
/-!
# Numbered parts

Numbered things can be read only if their numbers are those below a count, without a gap, and then thing by thing from the
entries under each number (`readNumbered_eq_ok_iff`).  Among the entries of a list of things, each under its number, those
under a number are the entries of the thing at that place (`entriesUnder_numberedEntries`); so the list is read again, if
each thing has an entry and is read from its own (`readNumbered_numberedEntries`).
-/
namespace StorageGate
namespace Message

variable {α field : Type}

/-- The entries of things under their numbers. -/
def numberedEntries (entries : α → List (field × String)) (xs : List α) : List (Nat × field × String) :=
  xs.zipIdx.flatMap fun x => (entries x.1).map (x.2, ·)

/-! ## Lists without repetitions -/

theorem nodup_eraseDups {β : Type} [DecidableEq β] : ∀ (l : List β), l.eraseDups.Nodup
  | [] => List.nodup_nil
  | a :: l => by
    rw [List.eraseDups_cons, List.nodup_cons]
    refine ⟨fun h => ?_, nodup_eraseDups (l.filter fun b => !b == a)⟩
    have hmem := (List.mem_filter.1 (List.mem_eraseDups.1 h)).2
    simp at hmem
termination_by l => l.length
decreasing_by
  exact Nat.lt_succ_of_le (List.length_filter_le _ l)

/-- A list whose members are the numbers below `n` has `n` different ones. -/
theorem length_eraseDups_of_mem_iff {l : List Nat} {n : Nat} (h : ∀ i, i ∈ l ↔ i < n) : l.eraseDups.length = n := by
  have hperm : l.eraseDups.Perm (List.range n) :=
    (List.perm_ext_iff_of_nodup (nodup_eraseDups l) List.nodup_range).2 fun i => by
      rw [List.mem_eraseDups, List.mem_range, h]
  rw [hperm.length_eq, List.length_range]

theorem firstGap?_eq_none {l : List Nat} {n : Nat} (h : ∀ i, i ∈ l ↔ i < n) : firstGap? l = none := by
  rw [firstGap?, length_eraseDups_of_mem_iff h, List.find?_eq_none]
  intro i hi
  have hmem : l.contains i = true := List.contains_iff_mem.2 ((h i).2 (List.mem_range.1 hi))
  rw [hmem]
  decide

/-! ## The numbers -/

theorem mem_numberedEntries {entries : α → List (field × String)} {xs : List α} {i : Nat} {f : field × String} :
    (i, f) ∈ numberedEntries entries xs ↔ ∃ x, xs[i]? = some x ∧ f ∈ entries x := by
  rw [numberedEntries, List.mem_flatMap]
  constructor
  · rintro ⟨x, hx, hf⟩
    obtain ⟨g, hg, he⟩ := List.mem_map.1 hf
    cases he
    exact ⟨x.1, List.mk_mem_zipIdx_iff_getElem?.1 hx, hg⟩
  · rintro ⟨x, hx, hf⟩
    exact ⟨(x, i), List.mk_mem_zipIdx_iff_getElem?.2 hx, List.mem_map_of_mem hf⟩

theorem mem_indices {entries : α → List (field × String)} (hne : ∀ x, entries x ≠ []) (xs : List α) (i : Nat) :
    i ∈ (numberedEntries entries xs).map (·.1) ↔ i < xs.length := by
  rw [List.mem_map]
  constructor
  · rintro ⟨⟨i, f⟩, hmem, rfl⟩
    obtain ⟨x, hx, -⟩ := mem_numberedEntries.1 hmem
    exact (List.getElem?_eq_some_iff.1 hx).1
  · intro hi
    obtain ⟨f, hf⟩ := List.exists_mem_of_ne_nil _ (hne xs[i])
    exact ⟨(i, f), mem_numberedEntries.2 ⟨xs[i], List.getElem?_eq_getElem hi, hf⟩, rfl⟩

/-! ## The entries under a number -/

theorem filter_map_pair (k i : Nat) (l : List (field × String)) :
    (l.map (k, ·)).filter (·.1 == i) = if k = i then l.map (k, ·) else [] := by
  by_cases h : k = i
  · rw [if_pos h, List.filter_eq_self]
    intro e he
    obtain ⟨f, _, rfl⟩ := List.mem_map.1 he
    simpa using h
  · rw [if_neg h, List.filter_eq_nil_iff]
    intro e he
    obtain ⟨f, _, rfl⟩ := List.mem_map.1 he
    simpa using h

theorem filter_zipIdx (entries : α → List (field × String)) (i : Nat) : ∀ (xs : List α) (k : Nat),
    (((xs.zipIdx k).flatMap fun x => (entries x.1).map (x.2, ·)).filter (·.1 == k + i)).map (·.2)
      = (xs[i]?.map entries).getD []
  | [], _ => rfl
  | x :: xs, k => by
    rw [List.zipIdx_cons, List.flatMap_cons, List.filter_append, List.map_append, filter_map_pair]
    cases i with
    | zero =>
      have hrest : ((xs.zipIdx (k + 1)).flatMap fun x => (entries x.1).map (x.2, ·)).filter (·.1 == k) = [] := by
        rw [List.filter_eq_nil_iff]
        intro e he
        obtain ⟨y, hy, hye⟩ := List.mem_flatMap.1 he
        obtain ⟨f, _, rfl⟩ := List.mem_map.1 hye
        have hle : k + 1 ≤ y.2 := List.le_snd_of_mem_zipIdx hy
        have hne : y.2 ≠ k := by omega
        simpa using hne
      rw [Nat.add_zero, if_pos rfl, hrest, List.map_nil, List.append_nil, List.map_map]
      exact List.map_id' _
    | succ i =>
      have hk : k + (i + 1) = k + 1 + i := by omega
      rw [if_neg (by omega), List.map_nil, List.nil_append, hk, filter_zipIdx entries i xs (k + 1),
        List.getElem?_cons_succ]

/-! ## Without a gap -/

/-- **No number is missing** exactly if the numbers are those below some count. -/
theorem firstGap?_eq_none_iff {l : List Nat} : firstGap? l = none ↔ ∃ n, ∀ i, i ∈ l ↔ i < n := by
  constructor
  · intro h
    have hall : ∀ i < l.eraseDups.length, i ∈ l := by
      rw [firstGap?, List.find?_eq_none] at h
      intro i hi
      simpa using h i (List.mem_range.2 hi)
    have hsubset : List.range l.eraseDups.length ⊆ l.eraseDups := fun i hi =>
      List.mem_eraseDups.2 (hall i (List.mem_range.1 hi))
    have hperm : (List.range l.eraseDups.length).Perm l.eraseDups :=
      (List.subperm_of_subset List.nodup_range hsubset).perm_of_length_le (by simp)
    refine ⟨l.eraseDups.length, fun i => ⟨fun hi => ?_, hall i⟩⟩
    exact List.mem_range.1 (hperm.mem_iff.2 (List.mem_eraseDups.2 hi))
  · rintro ⟨n, hn⟩
    exact firstGap?_eq_none hn

/-- The entries under a number. -/
def entriesUnder (i : Nat) (entries : List (Nat × field × String)) : List (field × String) :=
  (entries.filter (·.1 == i)).map (·.2)

theorem entriesUnder_numberedEntries {entries : α → List (field × String)} {xs : List α} {i : Nat} {x : α}
    (hx : xs[i]? = some x) : entriesUnder i (numberedEntries entries xs) = entries x := by
  have hfilter := filter_zipIdx entries i xs 0
  rw [Nat.zero_add, hx] at hfilter
  exact hfilter

theorem mem_entriesUnder {i : Nat} {entries : List (Nat × field × String)} {f : field × String} :
    f ∈ entriesUnder i entries ↔ (i, f) ∈ entries := by
  simp [entriesUnder]

theorem pairwise_entriesUnder {entries : List (Nat × field × String)}
    (h : entries.Pairwise fun a b => (a.1, a.2.1) ≠ (b.1, b.2.1)) (i : Nat) :
    (entriesUnder i entries).Pairwise fun f g => f.1 ≠ g.1 := by
  have hfilter : (entries.filter (·.1 == i)).Pairwise fun a b => a.2.1 ≠ b.2.1 := by
    refine List.Pairwise.imp_of_mem ?_ (h.filter _)
    intro a b ha hb hne hf
    have hai : a.1 = i := by simpa using (List.mem_filter.1 ha).2
    have hbi : b.1 = i := by simpa using (List.mem_filter.1 hb).2
    exact hne (Prod.ext (hai.trans hbi.symm) hf)
  exact List.pairwise_map.2 hfilter

theorem numbered_eq_ok_iff {part : Section} {entries : List (Nat × field × String)}
    {parts : List (Nat × List (field × String))} : numbered part entries = .ok parts ↔
      ∃ n, (∀ i, i ∈ entries.map (·.1) ↔ i < n) ∧ parts = (List.range n).map fun i => (i, entriesUnder i entries) := by
  unfold numbered
  constructor
  · intro h
    dsimp only at h
    split at h
    · cases h
    · rename_i hgap
      obtain ⟨n, hn⟩ := firstGap?_eq_none_iff.1 hgap
      rw [length_eraseDups_of_mem_iff hn] at h
      exact ⟨n, hn, (Except.ok.inj h).symm⟩
  · rintro ⟨n, hn, rfl⟩
    dsimp only
    rw [firstGap?_eq_none hn, length_eraseDups_of_mem_iff hn]
    rfl

/-- The things that numbered entries describe, each read from the entries under its number. -/
def readNumbered (part : Section) (read : Nat → List (field × String) → Except DocumentError α)
    (entries : List (Nat × field × String)) : Except DocumentError (List α) := do
  (← numbered part entries).mapM fun p => read p.1 p.2

section Reading

variable {part : Section} {read : Nat → List (field × String) → Except DocumentError α}
  {entries : List (Nat × field × String)}

/-- **Numbered things are read** exactly if their numbers are those below their count and each is read from the entries
under its number. -/
theorem readNumbered_eq_ok_iff {xs : List α} : readNumbered part read entries = .ok xs ↔
    (∀ i, i ∈ entries.map (·.1) ↔ i < xs.length) ∧
      ∀ i x, xs[i]? = some x → read i (entriesUnder i entries) = .ok x := by
  constructor
  · intro h
    obtain ⟨parts, hparts, hread⟩ := Traversal.exists_of_bind_eq_ok h
    obtain ⟨n, hn, rfl⟩ := numbered_eq_ok_iff.1 hparts
    obtain ⟨hlength, hget⟩ := Traversal.getElem?_of_mapM hread
    have hxs : xs.length = n := by simpa using hlength
    refine ⟨by rw [hxs]; exact hn, fun i x hx => ?_⟩
    have hi : i < n := hxs ▸ (List.getElem?_eq_some_iff.1 hx).1
    obtain ⟨y, hy, hiy⟩ := hget i (i, entriesUnder i entries) (by simp [hi])
    rw [hx] at hiy
    cases hiy
    exact hy
  · rintro ⟨hn, hread⟩
    rw [readNumbered, numbered_eq_ok_iff.2 ⟨_, hn, rfl⟩]
    refine Traversal.mapM_eq_ok_iff.2 ⟨by simp, fun i p hp => ?_⟩
    obtain ⟨hi, rfl⟩ := List.getElem?_eq_some_iff.1 hp
    have hx : i < xs.length := by simpa using hi
    have hxs := List.getElem?_eq_getElem hx
    exact ⟨xs[i], by simpa using hread i _ hxs, hxs⟩

theorem exists_getElem?_of_mem {xs : List α} (h : readNumbered part read entries = .ok xs) {i : Nat} {f : field × String}
    (hf : (i, f) ∈ entries) : ∃ x, xs[i]? = some x ∧ read i (entriesUnder i entries) = .ok x := by
  obtain ⟨hn, hread⟩ := readNumbered_eq_ok_iff.1 h
  have hx := List.getElem?_eq_getElem ((hn i).1 (List.mem_map_of_mem hf))
  exact ⟨_, hx, hread i _ hx⟩

theorem exists_readNumbered_iff : (∃ xs, readNumbered part read entries = .ok xs) ↔
    ∃ n, (∀ i, i ∈ entries.map (·.1) ↔ i < n) ∧ ∀ i < n, ∃ x, read i (entriesUnder i entries) = .ok x := by
  constructor
  · rintro ⟨xs, hxs⟩
    obtain ⟨hn, hread⟩ := readNumbered_eq_ok_iff.1 hxs
    exact ⟨xs.length, hn, fun i hi => ⟨_, hread i _ (List.getElem?_eq_getElem hi)⟩⟩
  · rintro ⟨n, hn, hread⟩
    choose x hx using hread
    refine ⟨List.ofFn fun i : Fin n => x i i.2, readNumbered_eq_ok_iff.2 ⟨by simpa using hn, fun i y hy => ?_⟩⟩
    obtain ⟨hi, rfl⟩ := List.getElem?_eq_some_iff.1 hy
    simpa using hx i (by simpa using hi)

theorem length_le_of_readNumbered {xs : List α} (h : readNumbered part read entries = .ok xs) {n : Nat}
    (hn : ∀ entry ∈ entries, entry.1 < n) : xs.length ≤ n := by
  by_contra hlt
  obtain ⟨entry, hentry, he⟩ := List.mem_map.1 (((readNumbered_eq_ok_iff.1 h).1 n).2 (Nat.lt_of_not_le hlt))
  exact absurd (hn entry hentry) (he ▸ Nat.lt_irrefl _)

/-- **Numbered things are read from their own entries.** -/
theorem readNumbered_numberedEntries {write : α → List (field × String)} (hne : ∀ x, write x ≠ [])
    (hread : ∀ i x, read i (write x) = .ok x) (xs : List α) :
    readNumbered part read (numberedEntries write xs) = .ok xs := by
  refine readNumbered_eq_ok_iff.2 ⟨mem_indices hne xs, fun i x hx => ?_⟩
  rw [entriesUnder_numberedEntries hx]
  exact hread i x

end Reading
end Message
end StorageGate
