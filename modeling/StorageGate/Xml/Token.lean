/-!
# The tokens of an XML text

A text is cut into tags, runs of characters, verbatim sections and document types.  Comments and processing
instructions leave nothing behind.  Names are not judged, and a tag ends at the first `>` outside quotes; markup that
never ends is malformed, and nothing is read after it.
-/
namespace StorageGate
namespace Xml

/-- Whether a character is white space to XML. -/
def isSpace (c : Char) : Bool := c == ' ' || c == '\t' || c == '\n' || c == '\r'

/-- What stands in a tag: the name, and the text after it. -/
structure Tag where
  name : List Char
  attributes : List Char
deriving DecidableEq, Repr, Inhabited

/-- A name without the namespace in front of its first colon. -/
def Tag.localName (tag : Tag) : List Char :=
  match tag.name.dropWhile (· != ':') with
  | [] => tag.name
  | _ :: rest => rest

/-- Whether a tag has a local name. -/
def Tag.isNamed (tag : Tag) (name : String) : Bool := tag.localName == name.toList

/-- A piece of an XML text. -/
inductive Token where
  | opening (tag : Tag)
  /-- A tag that opens and closes an element. -/
  | alone (tag : Tag)
  | closing (name : List Char)
  /-- Characters with references in them. -/
  | characters (raw : List Char)
  /-- Characters as they stand. -/
  | verbatim (text : List Char)
  | documentType
  | malformed
deriving DecidableEq, Repr

/-- What stands before and after the first occurrence of a mark, after what was already `read` (last first). -/
def seek (mark read : List Char) : List Char → Option (List Char × List Char)
  | [] => none
  | c :: rest =>
    if mark.isPrefixOf (c :: rest) then some (read.reverse, (c :: rest).drop mark.length)
    else seek mark (c :: read) rest

theorem length_of_seek {mark before after : List Char} : ∀ {text read : List Char},
    seek mark read text = some (before, after) → after.length ≤ text.length
  | [], _, h => by simp [seek] at h
  | c :: rest, read, h => by
    simp only [seek] at h
    split at h
    · simp only [Option.some.injEq, Prod.mk.injEq] at h
      rw [← h.2, List.length_drop]
      omega
    · have := length_of_seek h
      simp only [List.length_cons]
      omega

/-- The content of a tag and what follows its end, given the quote that is open. -/
def seekTagEnd (quote : Option Char) (read : List Char) : List Char → Option (List Char × List Char)
  | [] => none
  | c :: rest =>
    match quote with
    | some q => seekTagEnd (if c = q then none else quote) (c :: read) rest
    | none =>
      if c = '>' then some (read.reverse, rest)
      else seekTagEnd (if c = '"' ∨ c = '\'' then some c else none) (c :: read) rest

theorem length_of_seekTagEnd {content after : List Char} : ∀ {text read : List Char} {quote : Option Char},
    seekTagEnd quote read text = some (content, after) → after.length ≤ text.length
  | [], _, _, h => by simp [seekTagEnd] at h
  | c :: rest, read, quote, h => by
    simp only [seekTagEnd] at h
    simp only [List.length_cons]
    split at h
    · have := length_of_seekTagEnd h
      omega
    · split at h
      · simp only [Option.some.injEq, Prod.mk.injEq] at h
        rw [h.2]
        omega
      · have := length_of_seekTagEnd h
        omega

/-- What follows a document type, whose `<` and `>` balance. -/
def afterDoctype (depth : Nat) : List Char → Option (List Char)
  | [] => none
  | '>' :: rest => match depth with
    | 0 => some rest
    | d + 1 => afterDoctype d rest
  | '<' :: rest => afterDoctype (depth + 1) rest
  | _ :: rest => afterDoctype depth rest

theorem length_of_afterDoctype {after : List Char} {text : List Char} {depth : Nat}
    (h : afterDoctype depth text = some after) : after.length ≤ text.length := by
  fun_induction afterDoctype depth text <;> simp_all <;> omega

/-- A tag from its content. -/
def Tag.ofContent (content : List Char) : Tag where
  name := content.takeWhile (!isSpace ·)
  attributes := content.dropWhile (!isSpace ·)

/-- A tag from its content, which ends in a slash if it stands alone. -/
def Token.ofContent (content : List Char) : Token :=
  if content.getLast? = some '/' then .alone (.ofContent content.dropLast) else .opening (.ofContent content)

/-- The name of a closing tag, without white space after it; white space alone stays. -/
def closingName (content : List Char) : List Char :=
  match content.reverse.dropWhile isSpace with
  | [] => content
  | kept => kept.reverse

/-- What a `<` begins, if it leaves something behind, and what follows it. -/
def markup (text : List Char) : Option (Option Token × List Char) :=
  match text with
  | '!' :: '-' :: '-' :: rest => (seek "-->".toList [] rest).map fun p => (none, p.2)
  | '!' :: '[' :: 'C' :: 'D' :: 'A' :: 'T' :: 'A' :: '[' :: rest =>
    (seek "]]>".toList [] rest).map fun p => (some (.verbatim p.1), p.2)
  | '!' :: rest =>
    if (rest.take 7).map Char.toUpper = "DOCTYPE".toList ∧ (rest.drop 7).find? (!isSpace ·) ≠ some '>' then
      (afterDoctype 0 (rest.drop 7)).map fun after => (some .documentType, after)
    else none
  | '?' :: '>' :: _ => none
  | '?' :: rest => (seek "?>".toList [] rest).map fun p => (none, p.2)
  | '/' :: rest => (seekTagEnd none [] rest).map fun p => (some (.closing (closingName p.1)), p.2)
  | [] => none
  | _ => (seekTagEnd none [] text).map fun p => (some (.ofContent p.1), p.2)

theorem length_of_markup {text after : List Char} {token : Option Token} (h : markup text = some (token, after)) :
    after.length ≤ text.length := by
  unfold markup at h
  split at h
  · obtain ⟨p, hp, hq⟩ := Option.map_eq_some_iff.1 h
    have := length_of_seek hp
    simp_all
    omega
  · obtain ⟨p, hp, hq⟩ := Option.map_eq_some_iff.1 h
    have := length_of_seek hp
    simp_all
    omega
  · split at h
    · obtain ⟨p, hp, hq⟩ := Option.map_eq_some_iff.1 h
      have := length_of_afterDoctype hp
      simp_all
      omega
    · simp at h
  · simp at h
  · obtain ⟨p, hp, hq⟩ := Option.map_eq_some_iff.1 h
    have := length_of_seek hp
    simp_all
    omega
  · obtain ⟨p, hp, hq⟩ := Option.map_eq_some_iff.1 h
    have := length_of_seekTagEnd hp
    simp_all
    omega
  · simp at h
  · obtain ⟨p, hp, hq⟩ := Option.map_eq_some_iff.1 h
    have := length_of_seekTagEnd hp
    simp_all

/-- The tokens of a text, after those already `read` (last first). -/
def scan (read : List Token) (text : List Char) : List Token :=
  match text with
  | [] => read.reverse
  | '<' :: rest =>
    match _h : markup rest with
    | none => (.malformed :: read).reverse
    | some (token, after) => scan (token.toList ++ read) after
  | c :: rest => scan (.characters (c :: rest.takeWhile (· != '<')) :: read) (rest.dropWhile (· != '<'))
termination_by text.length
decreasing_by
  · have := length_of_markup ‹_›
    simp only [List.length_cons]
    omega
  · have : (rest.dropWhile (· != '<')).length ≤ rest.length := (List.dropWhile_suffix _).length_le
    simp only [List.length_cons]
    omega

/-- The tokens of a text. -/
def tokens (text : List Char) : List Token := scan [] text

end Xml
end StorageGate
