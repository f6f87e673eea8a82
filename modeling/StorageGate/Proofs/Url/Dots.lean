import StorageGate.Url.Path
/-!
# Segments with their dots collapsed

A segment `..` takes away the one in front of it and a segment `.` only itself; the last of a path leaves an empty
segment behind.  That is what a URL makes of the segments of a path once encodings are out of the way (`collapse`,
`collapsed`).  What is left is never longer: counted with a slash for each, every segment of dots makes the whole shorter
by one at least (`extent_collapse_le`), so a text that still leads what is left of it had no such segment
(`no_dots_of_prefix`).
-/
namespace StorageGate
namespace Path

/-! ## Splitting -/

theorem not_mem_of_mem_splitOn {c : Char} : ∀ {text s : List Char}, s ∈ text.splitOn c → c ∉ s
  | [], s, h => by
    rw [List.splitOn_nil] at h
    rw [List.mem_singleton.1 h]
    exact List.not_mem_nil
  | d :: text, s, h => by
    obtain ⟨first, others, hsplit⟩ := List.exists_cons_of_ne_nil (List.splitOn_ne_nil c text)
    have hrest : ∀ t ∈ first :: others, c ∉ t := fun t ht => not_mem_of_mem_splitOn (hsplit ▸ ht)
    rw [List.splitOn_cons_eq_if_modifyHead, hsplit] at h
    by_cases hd : (d == c) = true
    · rw [if_pos hd] at h
      rcases List.mem_cons.1 h with rfl | h
      · exact List.not_mem_nil
      · exact hrest s h
    · rw [if_neg hd, List.modifyHead_cons] at h
      rcases List.mem_cons.1 h with rfl | h
      · rintro (_ | ⟨_, hmem⟩)
        · exact hd (beq_self_eq_true _)
        · exact hrest first List.mem_cons_self hmem
      · exact hrest s (List.mem_cons_of_mem _ h)

theorem splitOnP_congr {p q : Char → Bool} : ∀ {text : List Char}, (∀ c ∈ text, p c = q c) →
    text.splitOnP p = text.splitOnP q
  | [], _ => rfl
  | c :: text, h => by
    rw [List.splitOnP_cons_eq_if_modifyHead, List.splitOnP_cons_eq_if_modifyHead, h c List.mem_cons_self,
      splitOnP_congr fun d hd => h d (List.mem_cons_of_mem _ hd)]

/-! ## Collapsing -/

/-- Whether a segment is one of dots. -/
def isDots (s : List Char) : Bool := s = ['.'] || s = ['.', '.']

theorem isDots_eq_false {s : List Char} : isDots s = false ↔ s ≠ ['.'] ∧ s ≠ ['.', '.'] := by
  simp [isDots]

/-- What is `done` before `rest`: where nothing is left, an empty segment closes it. -/
def closed (rest done : List (List Char)) : List (List Char) := if rest.isEmpty then [] :: done else done

/-- Segments with `.` and `..` resolved as they stand, after those already `done` (last first). -/
def collapse (done : List (List Char)) : List (List Char) → List (List Char)
  | [] => done.reverse
  | s :: rest =>
    if s = ['.', '.'] then collapse (closed rest done.tail) rest
    else if s = ['.'] then collapse (closed rest done) rest
    else collapse (s :: done) rest

/-- The segments of a text as a URL has them: dots collapsed, and none that are empty in front of a file's. -/
def collapsed (isFile : Bool) (text : List Char) : List (List Char) :=
  if isFile then
    match (collapse [] (text.splitOn '/')).dropWhile List.isEmpty with
    | [] => [[]]
    | kept => kept
  else collapse [] (text.splitOn '/')

theorem mem_closed {P : List Char → Prop} (hnil : P []) (rest : List (List Char)) {done : List (List Char)}
    (hdone : ∀ s ∈ done, P s) : ∀ s ∈ closed rest done, P s := by
  unfold closed
  split
  · exact List.forall_mem_cons.2 ⟨hnil, hdone⟩
  · exact hdone

theorem collapse_of_no_dots : ∀ {segments done : List (List Char)}, (∀ s ∈ segments, isDots s = false) →
    collapse done segments = done.reverse ++ segments
  | [], done, _ => by rw [collapse, List.append_nil]
  | s :: rest, done, h => by
    obtain ⟨hone, htwo⟩ := isDots_eq_false.1 (h s List.mem_cons_self)
    rw [collapse, if_neg htwo, if_neg hone, collapse_of_no_dots fun t ht => h t (List.mem_cons_of_mem _ ht),
      List.reverse_cons, List.append_assoc]
    rfl

theorem mem_collapse {P : List Char → Prop} (hnil : P []) : ∀ {segments done : List (List Char)}, (∀ s ∈ done, P s) →
    (∀ s ∈ segments, P s) → ∀ s ∈ collapse done segments, P s
  | [], done, hdone, _, s, hs => hdone s (List.mem_reverse.1 hs)
  | t :: rest, done, hdone, hsegments, s, hs => by
    obtain ⟨ht, hrest⟩ := List.forall_mem_cons.1 hsegments
    rw [collapse] at hs
    split at hs
    · exact mem_collapse hnil (mem_closed hnil rest fun s hs => hdone s (List.mem_of_mem_tail hs)) hrest s hs
    · split at hs
      · exact mem_collapse hnil (mem_closed hnil rest hdone) hrest s hs
      · exact mem_collapse hnil (List.forall_mem_cons.2 ⟨ht, hdone⟩) hrest s hs

theorem collapse_ne_nil : ∀ {segments done : List (List Char)}, segments ≠ [] ∨ done ≠ [] → collapse done segments ≠ []
  | [], done, h => by
    rw [collapse]
    simpa using h
  | s :: rest, done, _ => by
    have hclosed (done : List (List Char)) : rest ≠ [] ∨ closed rest done ≠ [] := by
      cases rest <;> simp [closed]
    rw [collapse]
    split
    · exact collapse_ne_nil (hclosed _)
    · split
      · exact collapse_ne_nil (hclosed _)
      · exact collapse_ne_nil (.inr (List.cons_ne_nil _ _))

theorem collapsed_ne_nil (isFile : Bool) (text : List Char) : collapsed isFile text ≠ [] := by
  unfold collapsed
  split
  · split
    · exact List.cons_ne_nil _ _
    · assumption
  · exact collapse_ne_nil (.inl (List.splitOn_ne_nil _ _))

theorem slash_not_mem_collapsed (isFile : Bool) (text : List Char) : ∀ s ∈ collapsed isFile text, '/' ∉ s := by
  have hall : ∀ s ∈ collapse [] (text.splitOn '/'), '/' ∉ s :=
    mem_collapse List.not_mem_nil (fun _ h => nomatch h) fun _ => not_mem_of_mem_splitOn
  unfold collapsed
  split
  · split
    · intro s hs
      rw [List.mem_singleton.1 hs]
      exact List.not_mem_nil
    · exact fun s hs => hall s ((List.dropWhile_sublist _).mem hs)
  · exact hall

/-! ## Extent -/

/-- The length of segments with a slash for each. -/
def extent : List (List Char) → Nat
  | [] => 0
  | s :: l => s.length + 1 + extent l

@[simp] theorem extent_nil : extent [] = 0 := rfl

@[simp] theorem extent_cons (s : List Char) (l : List (List Char)) : extent (s :: l) = s.length + 1 + extent l := rfl

theorem extent_append : ∀ l l' : List (List Char), extent (l ++ l') = extent l + extent l'
  | [], l' => by rw [List.nil_append, extent_nil, Nat.zero_add]
  | s :: l, l' => by rw [List.cons_append, extent_cons, extent_cons, extent_append l l', ← Nat.add_assoc]

theorem extent_reverse (l : List (List Char)) : extent l.reverse = extent l := by
  induction l with
  | nil => rfl
  | cons s l ih => rw [List.reverse_cons, extent_append, ih, extent_cons, extent_cons, extent_nil]; omega

theorem extent_tail_le (l : List (List Char)) : extent l.tail ≤ extent l := by
  cases l with
  | nil => exact Nat.le_refl _
  | cons s l => rw [extent_cons]; exact Nat.le_add_left _ _

theorem length_intercalate : ∀ l : List (List Char), (['/'].intercalate l).length = extent l - 1
  | [] => rfl
  | [s] => by rw [List.intercalate_singleton, extent_cons, extent_nil]; omega
  | s :: t :: l => by
    have ih := length_intercalate (t :: l)
    rw [extent_cons] at ih
    rw [List.intercalate_cons_cons, List.length_append, List.length_append, ih, extent_cons, extent_cons,
      List.length_singleton]
    omega

theorem extent_closed_le (rest done : List (List Char)) : extent (closed rest done) ≤ extent done + 1 := by
  unfold closed
  split
  · rw [extent_cons, List.length_nil]
    omega
  · omega

/-- **Every segment of dots makes the whole shorter.** -/
theorem extent_collapse_le : ∀ segments done : List (List Char),
    extent (collapse done segments) + segments.countP isDots ≤ extent done + extent segments
  | [], done => by rw [collapse, extent_reverse]; exact Nat.le_refl _
  | s :: rest, done => by
    rw [collapse, extent_cons]
    split
    · rename_i htwo
      have ih := extent_collapse_le rest (closed rest done.tail)
      have hclosed := extent_closed_le rest done.tail
      have htail := extent_tail_le done
      rw [List.countP_cons_of_pos (by rw [htwo]; decide), htwo, List.length_cons, List.length_singleton]
      omega
    · rename_i htwo
      split
      · rename_i hone
        have ih := extent_collapse_le rest (closed rest done)
        have hclosed := extent_closed_le rest done
        rw [List.countP_cons_of_pos (by rw [hone]; decide), hone, List.length_singleton]
        omega
      · rename_i hone
        have ih := extent_collapse_le rest (s :: done)
        rw [extent_cons] at ih
        rw [List.countP_cons_of_neg (by simp [isDots, hone, htwo])]
        omega

theorem closed_append (rest done l : List (List Char)) : closed rest (done ++ l) = closed rest done ++ l := by
  unfold closed
  split <;> rfl

/-- **The same behind a first segment**, whether the dots take that segment away or not. -/
theorem extent_tail_collapse_le (first : List Char) : ∀ segments done : List (List Char),
    extent (collapse (done ++ [first]) segments).tail + segments.countP isDots ≤ extent done + extent segments
  | [], done => by
    rw [collapse, List.reverse_append, List.reverse_singleton, List.singleton_append, List.tail_cons, extent_reverse]
    exact Nat.le_refl _
  | s :: rest, done => by
    rw [collapse, extent_cons]
    split
    · rename_i htwo
      rw [List.countP_cons_of_pos (by rw [htwo]; decide), htwo, List.length_cons, List.length_singleton]
      cases done with
      | nil =>
        -- the dots take the first segment itself
        have hall := extent_collapse_le rest (closed rest [])
        have htail := extent_tail_le (collapse (closed rest []) rest)
        have hclosed := extent_closed_le rest []
        rw [extent_nil] at hclosed
        show extent (collapse (closed rest []) rest).tail + _ ≤ _
        omega
      | cons last done =>
        have ih := extent_tail_collapse_le first rest (closed rest done)
        have hclosed := extent_closed_le rest done
        rw [List.cons_append, List.tail_cons, closed_append, extent_cons]
        omega
    · rename_i htwo
      split
      · rename_i hone
        have ih := extent_tail_collapse_le first rest (closed rest done)
        have hclosed := extent_closed_le rest done
        rw [List.countP_cons_of_pos (by rw [hone]; decide), hone, List.length_singleton, closed_append]
        omega
      · rename_i hone
        have ih := extent_tail_collapse_le first rest (s :: done)
        rw [extent_cons] at ih
        rw [List.countP_cons_of_neg (by simp [isDots, hone, htwo]), ← List.cons_append]
        omega

theorem length_lt_extent {s : List Char} : ∀ {l : List (List Char)}, s ∈ l → s.length < extent l
  | t :: l, h => by
    rw [extent_cons]
    rcases List.mem_cons.1 h with rfl | h
    · omega
    · have ih := length_lt_extent h
      omega

/-- A text that leads what its segments shrink to has no segment of dots: it would be longer than that. -/
theorem no_dots_of_prefix {text : List Char} {left : List (List Char)}
    (hextent : extent left + (text.splitOn '/').countP isDots ≤ extent (text.splitOn '/'))
    (hlead : text <+: ['/'].intercalate left) : ∀ s ∈ text.splitOn '/', isDots s = false := by
  have hlength : text.length = extent (text.splitOn '/') - 1 := by
    rw [← length_intercalate, List.intercalate_splitOn]
  have hle := hlead.length_le
  rw [length_intercalate] at hle
  intro s hs
  cases hdots : isDots s with
  | false => rfl
  | true =>
    have hcount : 0 < (text.splitOn '/').countP isDots := List.countP_pos_iff.2 ⟨s, hs, hdots⟩
    have hlong : 0 < s.length := by
      cases s with
      | nil => exact absurd hdots (by decide)
      | cons c s => exact Nat.succ_pos _
    have hall := length_lt_extent hs
    omega

end Path
end StorageGate
