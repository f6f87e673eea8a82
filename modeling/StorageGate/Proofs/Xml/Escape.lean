import StorageGate.Xml.Cursor
/-!
# Escaped texts

A text is escaped where its characters mean something to XML, and read back by resolving references.  White space is dropped
from the ends of what is written before that, so what is read is the text without white space at its ends
(`resolve?_trim_escape`).
-/
namespace StorageGate
namespace Xml

/-- A text without white space at its ends. -/
def trim (text : List Char) : List Char := trimEnd (text.dropWhile isSpace)

/-- A character, or the reference for one that means something to XML. -/
def escapeChar : Char → List Char
  | '&' => "&amp;".toList
  | '<' => "&lt;".toList
  | '>' => "&gt;".toList
  | '"' => "&quot;".toList
  | '\'' => "&apos;".toList
  | c => [c]

/-- A text with references for what means something to XML. -/
def escape (text : List Char) : List Char := text.flatMap escapeChar

theorem escape_cons (c : Char) (text : List Char) : escape (c :: text) = escapeChar c ++ escape text := rfl

theorem escape_append (s t : List Char) : escape (s ++ t) = escape s ++ escape t := List.flatMap_append

/-- A character stands for itself, or it is none of white space and stands behind the `&` of a reference. -/
theorem escapeChar_cases (c : Char) : (escapeChar c = [c] ∧ c ≠ '&' ∧ c ≠ '<') ∨
    (isSpace c = false ∧ ∃ name, escapeChar c = '&' :: (name ++ [';']) ∧ reference? name = some c ∧
      ';' ∉ name ∧ '&' ∉ name ∧ '<' ∉ name) := by
  unfold escapeChar
  split
  · exact .inr ⟨rfl, "amp".toList, rfl, by decide, by decide⟩
  · exact .inr ⟨rfl, "lt".toList, rfl, by decide, by decide⟩
  · exact .inr ⟨rfl, "gt".toList, rfl, by decide, by decide⟩
  · exact .inr ⟨rfl, "quot".toList, rfl, by decide, by decide⟩
  · exact .inr ⟨rfl, "apos".toList, rfl, by decide, by decide⟩
  · rename_i hamp hlt _ _ _
    exact .inl ⟨rfl, hamp, hlt⟩

/-- **An escaped text opens no markup.** -/
theorem lt_not_mem_escape (text : List Char) : '<' ∉ escape text := by
  intro h
  obtain ⟨c, _, h⟩ := List.mem_flatMap.1 h
  rcases escapeChar_cases c with ⟨hc, _, hlt⟩ | ⟨_, name, hc, _, hname⟩
  · rw [hc, List.mem_singleton] at h
    exact hlt h.symm
  · rw [hc, List.mem_cons, List.mem_append, List.mem_singleton] at h
    rcases h with h | h | h
    · cases h
    · exact hname.2.2 h
    · cases h

/-! ## References -/

theorem resolveFrom_name {name : List Char} (hend : ';' ∉ name) (hstart : '&' ∉ name) (read open_ rest : List Char) :
    resolveFrom read (some open_) (name ++ rest) = resolveFrom read (some (name.reverse ++ open_)) rest := by
  induction name generalizing open_ with
  | nil => rfl
  | cons d name ih =>
    rw [List.mem_cons, not_or] at hend hstart
    rw [List.cons_append, resolveFrom]
    simp only [if_neg (Ne.symm hend.1), if_neg (Ne.symm hstart.1)]
    rw [ih hend.2 hstart.2, List.reverse_cons, List.append_assoc, List.singleton_append]

theorem resolveFrom_escapeChar (c : Char) (read rest : List Char) :
    resolveFrom read none (escapeChar c ++ rest) = resolveFrom (c :: read) none rest := by
  rcases escapeChar_cases c with ⟨hc, hamp, _⟩ | ⟨_, name, hc, hreference, hname⟩
  · rw [hc, List.singleton_append, resolveFrom]
    simp only [if_neg hamp]
  · rw [hc, List.cons_append, List.append_assoc, resolveFrom]
    simp only [if_true]
    rw [resolveFrom_name hname.1 hname.2.1, List.append_nil, List.singleton_append, resolveFrom]
    simp [hreference]

theorem resolveFrom_escape (text read rest : List Char) :
    resolveFrom read none (escape text ++ rest) = resolveFrom (text.reverse ++ read) none rest := by
  induction text generalizing read with
  | nil => rfl
  | cons c text ih =>
    rw [escape_cons, List.append_assoc, resolveFrom_escapeChar, ih, List.reverse_cons, List.append_assoc,
      List.singleton_append]

/-- **What is escaped is resolved.** -/
theorem resolve?_escape (text : List Char) : resolve? (escape text) = some text := by
  have h := resolveFrom_escape text [] []
  rw [List.append_nil, List.append_nil] at h
  rw [resolve?, h, resolveFrom]
  simp

/-! ## White space -/

/-- A text without white space stays as it is. -/
theorem trim_of_no_space {text : List Char} (h : ∀ c ∈ text, ¬isSpace c = true) : trim text = text := by
  have hdrop : ∀ {text : List Char}, (∀ c ∈ text, ¬isSpace c = true) → text.dropWhile isSpace = text
    | [], _ => rfl
    | c :: text, h => List.dropWhile_cons_of_neg (h c List.mem_cons_self)
  rw [trim, trimEnd, hdrop h, hdrop fun c hc => h c (List.mem_reverse.1 hc), List.reverse_reverse]

theorem dropWhile_escape (text : List Char) : (escape text).dropWhile isSpace = escape (text.dropWhile isSpace) := by
  induction text with
  | nil => rfl
  | cons c text ih =>
    by_cases hc : isSpace c
    · rcases escapeChar_cases c with ⟨hself, _⟩ | ⟨hspace, _⟩
      · rw [escape_cons, hself, List.singleton_append, List.dropWhile_cons_of_pos hc, List.dropWhile_cons_of_pos hc, ih]
      · rw [hc] at hspace
        cases hspace
    · rw [List.dropWhile_cons_of_neg hc, escape_cons]
      rcases escapeChar_cases c with ⟨hself, _⟩ | ⟨_, name, hname, _⟩
      · rw [hself, List.singleton_append, List.dropWhile_cons_of_neg hc]
      · rw [hname, List.cons_append, List.dropWhile_cons_of_neg (by decide)]

theorem trimEnd_concat_of_space {text : List Char} {c : Char} (hc : isSpace c = true) :
    trimEnd (text ++ [c]) = trimEnd text := by
  rw [trimEnd, List.reverse_append, List.reverse_singleton, List.singleton_append, List.dropWhile_cons_of_pos hc, trimEnd]

theorem trimEnd_concat {text : List Char} {c : Char} (hc : ¬isSpace c = true) : trimEnd (text ++ [c]) = text ++ [c] := by
  rw [trimEnd, List.reverse_append, List.reverse_singleton, List.singleton_append, List.dropWhile_cons_of_neg hc,
    List.reverse_cons, List.reverse_reverse]

theorem trimEnd_escape (text : List Char) : trimEnd (escape text) = escape (trimEnd text) := by
  suffices h : ∀ reversed : List Char, trimEnd (escape reversed.reverse) = escape (trimEnd reversed.reverse) by
    have h := h text.reverse
    rwa [List.reverse_reverse] at h
  intro reversed
  induction reversed with
  | nil => rfl
  | cons c reversed ih =>
    have hone : escape [c] = escapeChar c := List.append_nil _
    rw [List.reverse_cons, escape_append, hone]
    by_cases hc : isSpace c
    · rcases escapeChar_cases c with ⟨hself, _⟩ | ⟨hspace, _⟩
      · rw [hself, trimEnd_concat_of_space hc, trimEnd_concat_of_space hc, ih]
      · rw [hc] at hspace
        cases hspace
    · rw [trimEnd_concat hc, escape_append, hone]
      rcases escapeChar_cases c with ⟨hself, _⟩ | ⟨_, name, hname, _⟩
      · rw [hself, trimEnd_concat hc]
      · rw [hname, ← List.cons_append, ← List.append_assoc, trimEnd_concat (by decide)]

/-- **What is read of an escaped text** is the text without white space at its ends. -/
theorem resolve?_trim_escape (text : List Char) : resolve? (trim (escape text)) = some (trim text) := by
  rw [trim, dropWhile_escape, trimEnd_escape, resolve?_escape, trim]

end Xml
end StorageGate
