import Mathlib.Data.List.TakeWhile
import StorageGate.Xml.Root
/-!
# Written elements

A text of elements is cut into the tokens that it was written for (`IsContent`): tags of plain names, and characters in which
no markup begins.  Between its own tags such a text is the whole of a document (`root?_element`), whatever comments and
instructions stand in front.
-/
namespace StorageGate
namespace Xml

/-! ## Tags -/

/-- Whether a character may stand in the name of a written tag. -/
def isInName (c : Char) : Bool := !isSpace c && !("<>/!?\"'".toList.contains c)

/-- Whether a text is the name of a written tag. -/
def IsName (name : List Char) : Prop := name ≠ [] ∧ ∀ c ∈ name, isInName c = true

instance (name : List Char) : Decidable (IsName name) :=
  decidable_of_iff (name ≠ [] ∧ name.all isInName = true) (and_congr_right fun _ => List.all_eq_true)

theorem of_isInName {c : Char} (h : isInName c = true) : isSpace c = false ∧ c ≠ '<' ∧ c ≠ '>' ∧ c ≠ '/' ∧ c ≠ '!' ∧
    c ≠ '?' ∧ c ≠ '"' ∧ c ≠ '\'' := by
  simp [isInName] at h
  exact h

theorem seekTagEnd_name {name : List Char} (hname : ∀ c ∈ name, isInName c = true) (read rest : List Char) :
    seekTagEnd none read (name ++ '>' :: rest) = some (read.reverse ++ name, rest) := by
  induction name generalizing read with
  | nil => simp [seekTagEnd]
  | cons c name ih =>
    obtain ⟨hc, hname⟩ := List.forall_mem_cons.1 hname
    obtain ⟨_, _, hgt, _, _, _, hquote, happos⟩ := of_isInName hc
    rw [List.cons_append, seekTagEnd]
    simp only [if_neg hgt, hquote, happos, or_self, if_false]
    rw [ih hname, List.reverse_cons, List.append_assoc, List.singleton_append]

theorem scan_markup {rest after : List Char} {token : Option Token} (h : markup rest = some (token, after))
    (read : List Token) : scan read ('<' :: rest) = scan (token.toList ++ read) after := by
  rw [scan]
  split
  · rename_i hnone
    rw [h] at hnone
    cases hnone
  · rename_i token' after' hsome
    rw [h] at hsome
    cases hsome
    rfl

theorem markup_of_ne {c : Char} (hbang : c ≠ '!') (hquestion : c ≠ '?') (hslash : c ≠ '/') (text : List Char) :
    markup (c :: text) = (seekTagEnd none [] (c :: text)).map fun p => (some (.ofContent p.1), p.2) := by
  unfold markup
  split
  case h_8 => rfl
  case h_7 heq => cases heq
  all_goals
    rename_i heq
    cases heq
    first
      | exact absurd rfl hbang
      | exact absurd rfl hquestion
      | exact absurd rfl hslash

theorem span_name {name : List Char} (hname : ∀ c ∈ name, isInName c = true) :
    name.takeWhile (!isSpace ·) = name ∧ name.dropWhile (!isSpace ·) = [] := by
  have hkept : ∀ c ∈ name, (!isSpace c) = true := fun c hc => by simp [(of_isInName (hname c hc)).1]
  exact ⟨List.takeWhile_eq_self_iff.2 hkept, List.dropWhile_eq_nil_iff.2 hkept⟩

theorem markup_opening {name : List Char} (hname : IsName name) (rest : List Char) :
    markup (name ++ '>' :: rest) = some (some (.opening ⟨name, []⟩), rest) := by
  obtain ⟨hne, hall⟩ := hname
  have hseek := seekTagEnd_name hall [] rest
  have htag : Token.ofContent name = .opening ⟨name, []⟩ := by
    have hlast : ¬name.getLast? = some '/' := fun h =>
      (of_isInName (hall _ (List.mem_of_getLast? h))).2.2.2.1 rfl
    rw [Token.ofContent, if_neg hlast, Tag.ofContent, (span_name hall).1, (span_name hall).2]
  cases name with
  | nil => exact absurd rfl hne
  | cons c name =>
    obtain ⟨_, _, _, hslash, hbang, hquestion, _, _⟩ := of_isInName (hall c List.mem_cons_self)
    rw [List.cons_append] at hseek ⊢
    rw [markup_of_ne hbang hquestion hslash, hseek, Option.map_some, List.reverse_nil, List.nil_append, htag]

theorem markup_closing {name : List Char} (hname : IsName name) (rest : List Char) :
    markup ('/' :: (name ++ '>' :: rest)) = some (some (.closing name), rest) := by
  have hseek := seekTagEnd_name hname.2 [] rest
  have hclosing : closingName name = name := by
    rw [closingName]
    cases hreversed : name.reverse with
    | nil => exact absurd (List.reverse_eq_nil_iff.1 hreversed) hname.1
    | cons c reversed =>
      have hc : c ∈ name := List.mem_reverse.1 (hreversed ▸ List.mem_cons_self)
      rw [List.dropWhile_cons_of_neg (by rw [(of_isInName (hname.2 c hc)).1]; exact Bool.false_ne_true)]
      show (c :: reversed).reverse = name
      rw [← hreversed, List.reverse_reverse]
  show (seekTagEnd none [] (name ++ '>' :: rest)).map (fun p => (some (Token.closing (closingName p.1)), p.2)) = _
  rw [hseek, Option.map_some, List.reverse_nil, List.nil_append, hclosing]

/-! ## Content -/

/-- The text of an element with a content. -/
def element (name content : List Char) : List Char := '<' :: (name ++ '>' :: (content ++ '<' :: '/' :: (name ++ ['>'])))

/-- The tokens of an element with a content. -/
def elementTokens (name : List Char) (content : List Token) : List Token :=
  .opening ⟨name, []⟩ :: (content ++ [.closing name])

/-- The tokens of characters in an element: none, if there are no characters. -/
def characterTokens (raw : List Char) : List Token := if raw = [] then [] else [.characters raw]

/-- Whether a text is cut into these tokens wherever it stands, and they stay in every element. -/
structure IsContent (text : List Char) (content : List Token) : Prop where
  scan : ∀ read rest, scan read (text ++ rest) = scan (content.reverse ++ read) rest
  inside : ∀ inner outer read rest,
    rootFrom (inner :: outer) read (content ++ rest) = rootFrom (inner :: outer) (content.reverse ++ read) rest

namespace IsContent

theorem nil : IsContent [] [] := ⟨fun _ _ => rfl, fun _ _ _ _ => rfl⟩

theorem append {text text' : List Char} {content content' : List Token} (h : IsContent text content)
    (h' : IsContent text' content') : IsContent (text ++ text') (content ++ content') where
  scan read rest := by rw [List.append_assoc, h.scan, h'.scan, List.reverse_append, List.append_assoc]
  inside inner outer read rest := by
    rw [List.append_assoc, h.inside, h'.inside, List.reverse_append, List.append_assoc]

theorem flatMap {α : Type} {text : α → List Char} {content : α → List Token} {l : List α}
    (h : ∀ a ∈ l, IsContent (text a) (content a)) : IsContent (l.flatMap text) (l.flatMap content) := by
  induction l with
  | nil => exact nil
  | cons a l ih =>
    obtain ⟨ha, hl⟩ := List.forall_mem_cons.1 h
    exact ha.append (ih hl)

end IsContent

theorem scan_opening {name : List Char} (hname : IsName name) (read : List Token) (rest : List Char) :
    scan read ('<' :: (name ++ '>' :: rest)) = scan (.opening ⟨name, []⟩ :: read) rest :=
  scan_markup (markup_opening hname rest) read

theorem scan_closing {name : List Char} (hname : IsName name) (read : List Token) (rest : List Char) :
    scan read ('<' :: '/' :: (name ++ '>' :: rest)) = scan (.closing name :: read) rest :=
  scan_markup (markup_closing hname rest) read

theorem scan_character {c : Char} (hc : c ≠ '<') (read : List Token) (text : List Char) :
    scan read (c :: text) = scan (.characters (c :: text.takeWhile (· != '<')) :: read) (text.dropWhile (· != '<')) := by
  rw [scan]
  exact hc

theorem scan_characters {raw : List Char} (hraw : '<' ∉ raw) (read : List Token) (rest : List Char) :
    scan read (raw ++ '<' :: rest) = scan ((characterTokens raw).reverse ++ read) ('<' :: rest) := by
  cases raw with
  | nil => rfl
  | cons c raw =>
    have hc : c ≠ '<' := fun he => hraw (he ▸ List.mem_cons_self)
    have hkept : ∀ d ∈ raw, (d != '<') = true := fun d hd =>
      bne_iff_ne.2 fun he => hraw (he ▸ List.mem_cons_of_mem _ hd)
    rw [List.cons_append, scan_character hc, List.takeWhile_append_of_pos hkept, List.dropWhile_append_of_pos hkept]
    simp [characterTokens]

namespace IsContent

theorem scan_element {name text : List Char} {content : List Token} (hname : IsName name) (h : IsContent text content)
    (read : List Token) (rest : List Char) :
    Xml.scan read (element name text ++ rest) = Xml.scan ((elementTokens name content).reverse ++ read) rest := by
  have hsplit : element name text ++ rest = '<' :: (name ++ '>' :: (text ++ '<' :: '/' :: (name ++ '>' :: rest))) := by
    simp [element]
  rw [hsplit, scan_opening hname, h.scan, scan_closing hname]
  simp [elementTokens]

/-- **An element is content**, if what is in it is. -/
theorem element {name text : List Char} {content : List Token} (hname : IsName name) (h : IsContent text content) :
    IsContent (Xml.element name text) (elementTokens name content) where
  scan := h.scan_element hname
  inside inner outer read rest := by
    rw [elementTokens, List.cons_append, List.append_assoc, rootFrom, h.inside, List.singleton_append, rootFrom]
    simp

end IsContent

/-- An element of characters is content, if no markup begins in them. -/
theorem isContent_leaf {name raw : List Char} (hname : IsName name) (hraw : '<' ∉ raw) :
    IsContent (element name raw) (elementTokens name (characterTokens raw)) where
  scan read rest := by
    have hsplit : element name raw ++ rest = '<' :: (name ++ '>' :: (raw ++ '<' :: '/' :: (name ++ '>' :: rest))) := by
      simp [element]
    rw [hsplit, scan_opening hname, scan_characters hraw, scan_closing hname]
    simp [elementTokens]
  inside inner outer read rest := by
    have hinside (read rest) : rootFrom (name :: inner :: outer) read (characterTokens raw ++ rest)
        = rootFrom (name :: inner :: outer) ((characterTokens raw).reverse ++ read) rest := by
      rw [characterTokens]
      split
      · rfl
      · rw [List.singleton_append, rootFrom]
        simp
    rw [elementTokens, List.cons_append, List.append_assoc, rootFrom, hinside, List.singleton_append, rootFrom]
    simp

/-! ## What leaves nothing -/

theorem seek_of_not_mem {first : Char} {text : List Char} (h : first ∉ text) (mark read rest : List Char) :
    seek (first :: mark) read (text ++ first :: (mark ++ rest)) = some (read.reverse ++ text, rest) := by
  induction text generalizing read with
  | nil => simp [seek]
  | cons c text ih =>
    have hc : c ≠ first := fun he => h (he ▸ List.mem_cons_self)
    have hstart : (first :: mark).isPrefixOf (c :: (text ++ first :: (mark ++ rest))) = false := by
      simp [List.isPrefixOf, Ne.symm hc]
    rw [List.cons_append, seek]
    simp only [hstart, Bool.false_eq_true, if_false]
    rw [ih fun hmem => h (List.mem_cons_of_mem _ hmem), List.reverse_cons, List.append_assoc, List.singleton_append]

/-- A processing instruction. -/
def instruction (text : List Char) : List Char := '<' :: '?' :: (text ++ ['?', '>'])

/-- A comment. -/
def comment (text : List Char) : List Char := '<' :: '!' :: '-' :: '-' :: (text ++ ['-', '-', '>'])

theorem markup_instruction {text : List Char} (h : text.head? ≠ some '>') :
    markup ('?' :: text) = (seek "?>".toList [] text).map fun p => (none, p.2) := by
  unfold markup
  split
  case h_5 heq =>
    cases heq
    rfl
  case h_4 heq =>
    cases heq
    exact absurd rfl h
  case h_8 hother _ _ => exact absurd rfl (hother text)
  all_goals
    rename_i heq
    cases heq

theorem tokens_instruction {text : List Char} (h : '?' ∉ text) (hfirst : text.head? ≠ some '>') (rest : List Char) :
    tokens (instruction text ++ rest) = tokens rest := by
  have hseek := seek_of_not_mem h ['>'] [] rest
  have hhead : (text ++ '?' :: '>' :: rest).head? ≠ some '>' := by
    cases text with
    | nil => exact fun he => absurd (Option.some.inj he) (by decide)
    | cons c text => exact hfirst
  have hsplit : instruction text ++ rest = '<' :: '?' :: (text ++ '?' :: '>' :: rest) := by
    simp [instruction]
  rw [tokens, hsplit, scan_markup ((markup_instruction hhead).trans (congrArg (Option.map _) hseek))]
  rfl

theorem tokens_comment {text : List Char} (h : '-' ∉ text) (rest : List Char) :
    tokens (comment text ++ rest) = tokens rest := by
  have hseek := seek_of_not_mem h ['-', '>'] [] rest
  have hmarkup : markup ('!' :: '-' :: '-' :: (text ++ '-' :: '-' :: '>' :: rest)) = some (none, rest) :=
    congrArg (Option.map _) hseek
  have hsplit : comment text ++ rest = '<' :: '!' :: '-' :: '-' :: (text ++ '-' :: '-' :: '>' :: rest) := by
    simp [comment]
  rw [tokens, hsplit, scan_markup hmarkup]
  rfl

/-! ## Documents -/

/-- **An element of content is a document**, behind what leaves nothing. -/
theorem root?_element {lead name text : List Char} {content : List Token} (hlead : ∀ rest, tokens (lead ++ rest) = tokens rest)
    (hmark : lead.head? ≠ some '\uFEFF') (hname : IsName name) (h : IsContent text content) :
    root? (lead ++ element name text) = some (elementTokens name content) := by
  have htokens : tokens (element name text) = elementTokens name content := by
    have hscan := h.scan_element hname [] []
    rw [List.append_nil, List.append_nil, scan, List.reverse_reverse] at hscan
    exact hscan
  have hroot : rootFrom [] [] (elementTokens name content) = some (elementTokens name content) := by
    rw [elementTokens, rootFrom, h.inside, rootFrom]
    simp
  rw [root?, hlead, htokens, hroot]
  intro rest hrest
  cases lead with
  | nil => cases hrest
  | cons c lead =>
    cases hrest
    exact hmark rfl

end Xml
end StorageGate
