import StorageGate.Proofs.Text.Percent
import StorageGate.Proofs.Url.Dots
/-!
# Encoded paths as URLs keep them

A path that is percent-encoded segment by segment is split again at the same slashes, and its segments are not encoded
a second time.  What is left of a URL's reading of it is the dots: a segment `.` or `..` is resolved, and it is only one
that was written so, since `%2e` is nothing that an encoding writes (`isDoubleDot_encodeSegment`).  So the segments of the
URL are the segments of the text with the dots collapsed, each encoded (`segments_encodeText`).
-/
namespace StorageGate
namespace Path

/-! ## Encoding by segments -/

/-- A segment, percent-encoded. -/
def encodeSegment (segment : List Char) : List Char := Percent.encode Percent.isUnreserved segment

/-- A text, percent-encoded segment by segment. -/
def encodeText (text : List Char) : List Char := Percent.encode (fun c => Percent.isUnreserved c || c == '/') text

theorem encodeText_eq_encodeSegment {s : List Char} (hs : '/' ∉ s) : encodeText s = encodeSegment s :=
  Percent.encode_congr fun c hc _ => by
    have hne : (c == '/') = false := beq_false_of_ne fun he => hs (he ▸ hc)
    rw [hne, Bool.or_false]

theorem encodeText_intercalate : ∀ {segments : List (List Char)}, (∀ s ∈ segments, '/' ∉ s) →
    encodeText (['/'].intercalate segments) = ['/'].intercalate (segments.map encodeSegment)
  | [], _ => rfl
  | [s], h => by
    rw [List.intercalate_singleton, List.map_singleton, List.intercalate_singleton]
    exact encodeText_eq_encodeSegment (h s List.mem_cons_self)
  | s :: t :: segments, h => by
    have ih : encodeText (['/'].intercalate (t :: segments)) = _ :=
      encodeText_intercalate fun u hu => h u (List.mem_cons_of_mem _ hu)
    rw [List.intercalate_cons_cons, List.map_cons, List.map_cons, List.intercalate_cons_cons, ← List.map_cons, ← ih]
    rw [encodeText, Percent.encode_append, Percent.encode_append, ← encodeText, ← encodeText, ← encodeText,
      encodeText_eq_encodeSegment (h s List.mem_cons_self)]
    rfl

/-! ## What an encoded segment holds -/

/-- The characters of an encoded segment. -/
def isEncoded (c : Char) : Bool := Percent.isUnreserved c || c == '%'

theorem encodeSegment_isEncoded (s : List Char) : ∀ c ∈ encodeSegment s, c.toNat < 0x80 ∧ isEncoded c = true :=
  Percent.forall_mem_encode (P := fun c => c.toNat < 0x80 ∧ isEncoded c = true)
    (fun c _ hc hlt => ⟨hlt, by rw [isEncoded, hc, Bool.true_or]⟩) (by decide) (by decide)

/-- What holds of every character that an encoded segment may hold. -/
theorem forall_mem_encodeSegment {P : Char → Bool}
    (h : ∀ n ∈ List.range 0x80, isEncoded (Char.ofNat n) = true → P (Char.ofNat n) = true) (s : List Char) :
    ∀ c ∈ encodeSegment s, P c = true := fun c hc =>
  Utf8.forall_ascii (P := fun c => isEncoded c = true → P c = true) h (encodeSegment_isEncoded s c hc).1
    (encodeSegment_isEncoded s c hc).2

/-- The characters that mean something where a path is read: delimiters, and the marks of a drive. -/
def isMark (c : Char) : Bool := "/\\?#:|".toList.contains c

theorem not_isMark_of_mem {s : List Char} {c : Char} (hc : c ∈ encodeSegment s) : isMark c = false := by
  have h := forall_mem_encodeSegment (P := fun c => !isMark c) (by decide +kernel) s c hc
  simpa using h

theorem encode_encodeSegment (s : List Char) : Percent.encode isKept (encodeSegment s) = encodeSegment s :=
  Percent.encode_eq_self fun c hc =>
    ⟨(encodeSegment_isEncoded s c hc).1, forall_mem_encodeSegment (P := isKept) (by decide +kernel) s c hc⟩

theorem slash_not_mem_encodeSegment (s : List Char) : '/' ∉ encodeSegment s := fun h =>
  absurd (not_isMark_of_mem h) (by decide)

theorem isDrive_encodeSegment (s : List Char) : isDrive (encodeSegment s) = false := by
  have hmark : ∀ c ∈ encodeSegment s, isMark c = false := fun c hc => not_isMark_of_mem hc
  generalize encodeSegment s = t at hmark
  unfold isDrive
  split
  · rename_i letter mark
    have h := hmark mark (by simp)
    have hne : mark ≠ ':' ∧ mark ≠ '|' := ⟨fun he => absurd (he ▸ h) (by decide), fun he => absurd (he ▸ h) (by decide)⟩
    rw [beq_false_of_ne hne.1, beq_false_of_ne hne.2, Bool.or_self, Bool.and_false]
  · rfl

theorem decode_encodeSegment (s : List Char) : Percent.decode (encodeSegment s) = Utf8.encode s :=
  Percent.decode_encode (by decide) s

/-! ## Dots -/

/-- The texts of ASCII that have a text in lower case. -/
def casings : List Char → List (List Char)
  | [] => [[]]
  | c :: r => (casings r).flatMap fun t => [c :: t, c.toUpper :: t]

theorem mem_casings : ∀ {t : List Char}, (∀ c ∈ t, c.toNat < 0x80) → t ∈ casings (t.map Char.toLower)
  | [], _ => List.mem_singleton.2 rfl
  | c :: t, h => by
    have hc : c = c.toLower ∨ c = c.toLower.toUpper :=
      Utf8.forall_ascii (P := fun c => c = c.toLower ∨ c = c.toLower.toUpper) (by decide +kernel) (h c List.mem_cons_self)
    refine List.mem_flatMap.2 ⟨t, mem_casings fun d hd => h d (List.mem_cons_of_mem _ hd), ?_⟩
    rcases hc with hc | hc
    · rw [← hc]; exact List.mem_cons_self
    · rw [← hc]; exact List.mem_cons_of_mem _ List.mem_cons_self

/-- An encoded segment whose lower case is one way to write a text is the encoding of that text. -/
theorem eq_of_map_toLower {s text way : List Char} (h : (encodeSegment s).map Char.toLower = way)
    (hway : ∀ t ∈ casings way, Percent.decode t = Utf8.encode text) : s = text := by
  have hmem := mem_casings fun c hc => (encodeSegment_isEncoded s c hc).1
  rw [h] at hmem
  have hdecode := hway _ hmem
  rw [decode_encodeSegment] at hdecode
  exact Utf8.encode_injective hdecode

/-- **Two dots are read where two dots were written**, and nowhere else. -/
theorem isDoubleDot_encodeSegment (s : List Char) : isDoubleDot (encodeSegment s) = decide (s = ['.', '.']) := by
  by_cases hs : s = ['.', '.']
  · rw [hs]
    decide
  · rw [decide_eq_false hs, isDoubleDot, List.any_eq_false]
    intro way hway h
    have hall : ∀ w ∈ ["..", "%2e.", ".%2e", "%2e%2e"], ∀ t ∈ casings w.toList,
        Percent.decode t = Utf8.encode ['.', '.'] := by decide +kernel
    exact hs (eq_of_map_toLower (of_decide_eq_true h) (hall way hway))

/-- **One dot is read where one dot was written**, and nowhere else. -/
theorem isSingleDot_encodeSegment (s : List Char) : isSingleDot (encodeSegment s) = decide (s = ['.']) := by
  by_cases hs : s = ['.']
  · rw [hs]
    decide
  · have hway : ∀ t ∈ casings "%2e".toList, Percent.decode t = Utf8.encode ['.'] := by decide +kernel
    have hplain : encodeSegment s ≠ ['.'] := fun h => by
      have hdecode := decode_encodeSegment s
      rw [h] at hdecode
      exact hs (Utf8.encode_injective (hdecode.symm.trans (by decide)))
    rw [decide_eq_false hs, isSingleDot, decide_eq_false hplain, Bool.false_or]
    exact decide_eq_false fun h => hs (eq_of_map_toLower h hway)

theorem shorten_map_encodeSegment (done : List (List Char)) :
    shorten (done.map encodeSegment) = done.tail.map encodeSegment := by
  cases done with
  | nil => rfl
  | cons last done =>
    rw [List.map_cons, shorten, isDrive_encodeSegment, if_neg Bool.false_ne_true]
    rfl

/-- **Encoded segments are resolved as the segments themselves are.** -/
theorem resolve_map_encodeSegment (isFile : Bool) : ∀ (segments done : List (List Char)),
    resolve isFile (done.map encodeSegment) (segments.map encodeSegment) = (collapse done segments).map encodeSegment
  | [], done => by rw [collapse, List.map_reverse]; rfl
  | s :: rest, done => by
    have hclosed : ∀ l : List (List Char), (if (rest.map encodeSegment).isEmpty then [] :: l.map encodeSegment
        else l.map encodeSegment) = (closed rest l).map encodeSegment := fun l => by
      cases rest <;> rfl
    rw [List.map_cons, resolve, collapse, isDoubleDot_encodeSegment, isSingleDot_encodeSegment, isDrive_encodeSegment,
      Bool.and_false, if_neg Bool.false_ne_true]
    dsimp only
    by_cases hdouble : s = ['.', '.']
    · rw [if_pos hdouble, if_pos (decide_eq_true hdouble), shorten_map_encodeSegment, hclosed,
        resolve_map_encodeSegment isFile rest]
    · rw [if_neg hdouble, if_neg (by simpa using hdouble)]
      by_cases hsingle : s = ['.']
      · rw [if_pos hsingle, if_pos (decide_eq_true hsingle), hclosed, resolve_map_encodeSegment isFile rest]
      · rw [if_neg hsingle, if_neg (by simpa using hsingle)]
        exact resolve_map_encodeSegment isFile rest (s :: done)

theorem splitOnP_encodeText (isWeb : Bool) (text : List Char) :
    (encodeText text).splitOnP (fun c => c == '/' || isWeb && c == '\\') = (text.splitOn '/').map encodeSegment := by
  have hslash : ∀ s ∈ text.splitOn '/', '/' ∉ s := fun s => not_mem_of_mem_splitOn
  have hbackslash : ∀ c ∈ encodeText text, (c == '/' || isWeb && c == '\\') = (c == '/') := fun c hc => by
    have hne : c ≠ '\\' := Percent.forall_mem_encode (P := fun c => c ≠ '\\')
      (fun d _ hd _ he => by rw [he] at hd; exact absurd hd (by decide)) (by decide) (by decide) c hc
    rw [beq_false_of_ne hne, Bool.and_false, Bool.or_false]
  rw [splitOnP_congr hbackslash, ← List.splitOn_eq_splitOnP]
  have htext := encodeText_intercalate hslash
  rw [List.intercalate_splitOn] at htext
  rw [htext, List.splitOn_intercalate]
  · intro s hs
    obtain ⟨t, _, rfl⟩ := List.mem_map.1 hs
    exact slash_not_mem_encodeSegment t
  · exact fun h => List.splitOn_ne_nil '/' text (List.map_eq_nil_iff.1 h)

theorem isEmpty_encodeSegment (s : List Char) : (encodeSegment s).isEmpty = s.isEmpty := by
  cases s with
  | nil => rfl
  | cons c s =>
    have hne : encodeSegment (c :: s) ≠ [] := fun h => by
      have hdecode := decode_encodeSegment (c :: s)
      rw [h] at hdecode
      exact List.cons_ne_nil c s (Utf8.encode_injective hdecode.symm)
    cases h : encodeSegment (c :: s) with
    | nil => exact absurd h hne
    | cons _ _ => rfl

/-- **The segments of an encoded text are those of the text, collapsed and encoded.** -/
theorem segments_encodeText (isWeb isFile : Bool) (text : List Char) :
    segments isWeb isFile (encodeText text) = (collapsed isFile text).map encodeSegment := by
  have hresolved : resolved isWeb isFile (encodeText text) = (collapse [] (text.splitOn '/')).map encodeSegment := by
    rw [resolved, splitOnP_encodeText, List.map_map, ← resolve_map_encodeSegment isFile (text.splitOn '/') []]
    congr 1
    exact List.map_congr_left fun s _ => encode_encodeSegment s
  have hdrop : ∀ l : List (List Char),
      (l.map encodeSegment).dropWhile List.isEmpty = (l.dropWhile List.isEmpty).map encodeSegment := fun l => by
    rw [List.dropWhile_map]
    congr 2
    funext s
    exact isEmpty_encodeSegment s
  rw [segments, collapsed, hresolved]
  cases isFile with
  | false => rfl
  | true =>
    rw [if_pos rfl, if_pos rfl, hdrop]
    cases (collapse [] (text.splitOn '/')).dropWhile List.isEmpty <;> rfl

end Path
end StorageGate
