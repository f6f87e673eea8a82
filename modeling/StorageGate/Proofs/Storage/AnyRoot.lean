import StorageGate.Proofs.Storage.WrittenPage
import StorageGate.Proofs.Xml.Blind
/-!
# Roots of any name

Of the root of a document a page is read by its attributes and its content.  What the root is called, in its opening tag and in
its closing one, is never looked at (`ofDocument?_nameless`, `serviceError?_nameless`), so a text is a page if a listing is
mentioned in it anywhere and what any root holds can be read as one (`parse_eq_ok_iff`).
-/
namespace StorageGate

open Xml (Cursor Tag Token)

namespace Xml

/-! ## The shape of a document -/

/-- Whether the tokens read so far (last first) begin with the tag of the outermost element around. -/
def BeginsAround (around : List (List Char)) (read : List Token) : Prop :=
  around = [] ∧ read = [] ∨ ∃ tag rest, read = rest ++ [.opening tag] ∧ around.getLast? = some tag.name

theorem BeginsAround.push {around : List (List Char)} {read : List Token} (h : BeginsAround around read)
    (hne : ¬around.isEmpty = true) (token : Token) : BeginsAround around (token :: read) := by
  rcases h with ⟨rfl, _⟩ | ⟨tag, rest, rfl, hlast⟩
  · exact absurd rfl hne
  · exact .inr ⟨tag, token :: rest, rfl, hlast⟩

theorem BeginsAround.enter {around : List (List Char)} {read : List Token} (h : BeginsAround around read) (tag : Tag) :
    BeginsAround (tag.name :: around) (.opening tag :: read) := by
  rcases h with ⟨rfl, rfl⟩ | ⟨first, rest, rfl, hlast⟩
  · exact .inr ⟨tag, [], rfl, rfl⟩
  · refine .inr ⟨first, .opening tag :: rest, rfl, ?_⟩
    rw [List.getLast?_cons, hlast]
    rfl

theorem BeginsAround.leave {inner : List Char} {outer : List (List Char)} {read : List Token}
    (h : BeginsAround (inner :: outer) read) (hne : ¬outer.isEmpty = true) (token : Token) :
    BeginsAround outer (token :: read) := by
  rcases h with ⟨he, _⟩ | ⟨tag, rest, rfl, hlast⟩
  · cases he
  · refine .inr ⟨tag, token :: rest, rfl, ?_⟩
    cases outer with
    | nil => exact absurd rfl hne
    | cons next outer => rwa [List.getLast?_cons_cons] at hlast

/-- **The tokens of a root begin with its tag and end with the closing tag of that name.** -/
theorem exists_content_of_rootFrom {around : List (List Char)} {read tokens out : List Token} (hbegins : BeginsAround around read)
    (h : rootFrom around read tokens = some out) : ∃ tag content, out = .opening tag :: (content ++ [.closing tag.name]) := by
  fun_induction rootFrom around read tokens with
  | case1 | case2 | case6 | case7 | case12 | case13 => cases h
  | case3 around read tag rest ih => exact ih (hbegins.enter tag) h
  | case4 around read tag rest _ halone =>
    rcases hbegins with ⟨_, rfl⟩ | ⟨_, _, _, hlast⟩
    · cases h
      exact ⟨tag, [], rfl⟩
    · rw [List.isEmpty_iff.1 halone] at hlast
      cases hlast
  | case5 around read tag rest _ hinside ih => exact ih ((hbegins.push hinside _).push hinside _) h
  | case8 read name rest inner outer hname houter =>
    obtain rfl : outer = [] := List.isEmpty_iff.1 houter
    rcases hbegins with ⟨hnone, _⟩ | ⟨tag, rest, rfl, hlast⟩
    · cases hnone
    · have hinner : inner = tag.name := Option.some.inj hlast
      rw [not_not.1 hname, hinner] at h
      cases h
      exact ⟨tag, rest.reverse, by rw [List.reverse_cons, List.reverse_append]; rfl⟩
  | case9 read name rest inner outer hname houter ih => exact ih (hbegins.leave houter _) h
  | case10 around read raw rest hinside ih => exact ih (hbegins.push (by simpa using hinside) _) h
  | case11 around read raw rest _ _ ih => exact ih hbegins h
  | case14 around read text rest hinside ih => exact ih (hbegins.push hinside _) h
  | case15 around read rest ih =>
    refine ih ?_ h
    split
    · exact hbegins
    · exact hbegins.push ‹_› _

theorem exists_content_of_root? {text : List Char} {out : List Token} (h : root? text = some out) :
    ∃ tag content, out = .opening tag :: (content ++ [.closing tag.name]) :=
  exists_content_of_rootFrom (.inl ⟨rfl, rfl⟩) h

/-! ## What is read behind the tag of the root -/

namespace Cursor

theorem enterRoot?_look (tag : Tag) (rest : List Token) : (look? {} true (.opening tag :: rest)).bind enterRoot?
    = (Namespaces.enter {} tag.attributes).bind fun inside => (look? inside true rest).map fun after => (tag, after) := by
  cases hinside : Namespaces.enter {} tag.attributes with
  | none =>
    rw [look?, hinside]
    rfl
  | some inside =>
    have hadvance : advance? ⟨.opening tag :: rest, inside, true⟩ = look? inside true rest := rfl
    rw [look?, hinside, Option.map_some, Option.bind_some, Option.bind_some, enterRoot?]
    cases hafter : look? inside true rest with
    | none =>
      rw [next?_of_stuck (hadvance.trans hafter)]
      rfl
    | some after =>
      rw [next?_of_advance (hadvance.trans hafter)]
      rfl

/-- What looks neither at the name of the root nor at those of closing tags reads the same behind any other name. -/
theorem bind_look?_nameless {β : Type} {read : Cursor → Option β} (inside : Tag × Cursor → Option β)
    (hread : ∀ document, read document = document.enterRoot?.bind inside)
    (hname : ∀ root attributes c, inside (⟨root, attributes⟩, c) = inside (⟨[], attributes⟩, c))
    (hblind : ∀ tag c, inside (tag, c.blind) = inside (tag, c)) (root attributes : List Char) (content : List Token) :
    (look? {} true (.opening ⟨root, attributes⟩ :: (content ++ [.closing root]))).bind read
      = (look? {} true (.opening ⟨[], attributes⟩ :: (content ++ [.closing []]))).bind read := by
  have hinside (root name : List Char) (n : Namespaces) :
      (((look? n true (content ++ [Token.closing name])).map fun after => (⟨root, attributes⟩, after)).bind inside)
        = (look? n true ((content ++ [Token.closing name]).map Token.blind)).bind fun c => inside (⟨[], attributes⟩, c) := by
    rw [look?_blind]
    cases look? n true (content ++ [Token.closing name]) with
    | none => rfl
    | some after => exact (hname root attributes after).trans (hblind _ after).symm
  have hend : (content ++ [Token.closing root]).map Token.blind = (content ++ [Token.closing []]).map Token.blind := by
    rw [List.map_append, List.map_append]
    rfl
  rw [funext hread, ← Option.bind_assoc, ← Option.bind_assoc, enterRoot?_look, enterRoot?_look]
  cases Namespaces.enter {} attributes with
  | none => rfl
  | some n => rw [Option.bind_some, Option.bind_some, hinside, hinside, hend]

end Cursor
end Xml

namespace Page

open Xml.Cursor (blindBehind)

/-! ## Parts without names of closing tags -/

theorem texts?_blind (texts unlessNil : List String) (record : Tag) (c : Cursor) :
    texts? texts unlessNil record c.blind = (texts? texts unlessNil record c).map blindBehind := by
  rw [texts?, texts?, Cursor.fields?_blind (Cursor.field?_blind texts unlessNil record)]
  cases c.fields? record (Cursor.field? texts unlessNil record) with
  | none => rfl
  | some p =>
    show ((guard (p.1.map Prod.fst).Nodup : Option Unit).bind fun _ => _)
      = ((guard (p.1.map Prod.fst).Nodup : Option Unit).bind fun _ => _).map blindBehind
    cases (guard (p.1.map Prod.fst).Nodup : Option Unit) <;> rfl

theorem object?_blind (tag : Tag) (c : Cursor) : object? tag c.blind = (object? tag c).map blindBehind := by
  rw [object?, object?, texts?_blind]
  cases texts? ["Key"] ["Size", "LastModified", "ETag"] tag c with
  | none => rfl
  | some p =>
    obtain ⟨fields, after⟩ := p
    simp only [Option.map_some, Option.bind_eq_bind, Option.bind_some, blindBehind]
    cases fields.text? "Key" with
    | none => rfl
    | some key =>
      simp only [Option.bind_some]
      split
      · rfl
      · rename_i digits _
        cases Numeral.lenient? size64 digits <;> rfl

theorem objectsFrom?_blind (name : List Char) : ∀ (steps : Nat) (found : List ListedObject) (c : Cursor),
    objectsFrom? name steps found c.blind = (objectsFrom? name steps found c).map blindBehind
  | 0, _, _ => rfl
  | steps + 1, found, c => by
    have hblind := c.next?_blind
    cases hnext : c.next? with
    | none =>
      rw [hnext] at hblind
      rw [objectsFrom?_of_stuck hnext, objectsFrom?_of_stuck hblind, Option.map_none]
    | some p =>
      obtain ⟨step, after⟩ := p
      rw [hnext] at hblind
      cases step with
      | closing =>
        rw [objectsFrom?_of_closing hnext, objectsFrom?_of_closing hblind]
        rfl
      | text text => rw [objectsFrom?_of_text hnext, objectsFrom?_of_text hblind, Option.map_none]
      | opening tag =>
        by_cases hname : tag.name = name
        · rw [objectsFrom?_of_opening hnext hname, objectsFrom?_of_opening hblind hname, object?_blind]
          cases object? tag after with
          | none => rfl
          | some q => exact objectsFrom?_blind name steps _ q.2
        · rw [objectsFrom?_of_other hnext hname, objectsFrom?_of_other hblind hname]
          rfl

theorem objects?_blind (tag : Tag) (c : Cursor) : objects? tag c.blind = (objects? tag c).map blindBehind := by
  rw [objects?, objects?, object?_blind]
  cases object? tag c with
  | none => rfl
  | some p =>
    have hlength : p.2.blind.ahead.length = p.2.ahead.length := List.length_map _
    show objectsFrom? tag.name (p.2.blind.ahead.length + 1) [p.1] p.2.blind = _
    rw [hlength]
    exact objectsFrom?_blind _ _ _ p.2

theorem part?_blind (root tag : Tag) (c : Cursor) : part? root tag c.blind = (part? root tag c).map blindBehind := by
  rw [part?, part?]
  split
  · rw [objects?_blind, Option.map_map, Option.map_map]
    rfl
  · rw [Cursor.field?_blind, Option.map_map, Option.map_map]
    rfl

/-! ## The name of the root -/

/-- A root without its name, around what it holds. -/
def nameless? (attributes : List Char) (content : List Token) : Option Cursor :=
  Cursor.look? {} true (.opening ⟨[], attributes⟩ :: (content ++ [.closing []]))

/-- The page that a root with these attributes and this content is, if it is no error of the service. -/
def ofContent? (attributes : List Char) (content : List Token) : Option Page :=
  match (nameless? attributes content).bind serviceError? with
  | some _ => none
  | none => (nameless? attributes content).bind ofDocument?

section Root

variable (root attributes : List Char) (content : List Token)

theorem ofDocument?_nameless :
    (Cursor.look? {} true (.opening ⟨root, attributes⟩ :: (content ++ [.closing root]))).bind ofDocument?
      = (nameless? attributes content).bind ofDocument? := by
  refine Cursor.bind_look?_nameless (fun p => (p.2.fields? p.1 (part? p.1)).bind fun q => ofParts? q.1) (fun _ => rfl)
    (fun _ _ _ => rfl) (fun tag c => ?_) root attributes content
  rw [Cursor.fields?_blind (part?_blind tag)]
  exact Option.bind_map

theorem serviceError?_nameless :
    (Cursor.look? {} true (.opening ⟨root, attributes⟩ :: (content ++ [.closing root]))).bind serviceError?
      = (nameless? attributes content).bind serviceError? := by
  refine Cursor.bind_look?_nameless (fun p => (texts? ["Code"] ["Message"] p.1 p.2).bind fun q =>
      (q.1.text? "Code").bind fun code => some (String.ofList code, String.ofList ((q.1.text? "Message").getD [])))
    (fun _ => rfl) (fun _ _ _ => rfl) (fun tag c => ?_) root attributes content
  rw [texts?_blind]
  exact Option.bind_map

end Root

/-- Whether a listing is mentioned in a text. -/
def mentionsListing (text : List Char) : Bool := occursIn "<ListBucketResult".toList text

variable {text : List Char} {page : Page}

theorem ofContent?_eq_some_iff {attributes : List Char} {content : List Token} : ofContent? attributes content = some page ↔
    (nameless? attributes content).bind serviceError? = none ∧ (nameless? attributes content).bind ofDocument? = some page := by
  rw [ofContent?]
  cases (nameless? attributes content).bind serviceError? with
  | none => simp
  | some e => simp

theorem parse_eq_ok_iff_of_document : parse text = .ok page ↔ mentionsListing text = true ∧
    (Cursor.ofText? text).bind serviceError? = none ∧ (Cursor.ofText? text).bind ofDocument? = some page := by
  rw [parse, ← mentionsListing]
  cases (Cursor.ofText? text).bind serviceError? with
  | some e => simp
  | none =>
    cases mentionsListing text with
    | false => simp
    | true => cases (Cursor.ofText? text).bind ofDocument? <;> simp

/-- **The texts that are pages**: a listing is mentioned in them, and what their root holds is a page.  Of the root nothing
else is asked. -/
theorem parse_eq_ok_iff : parse text = .ok page ↔ mentionsListing text = true ∧
    ∃ root attributes content, Xml.root? text = some (.opening ⟨root, attributes⟩ :: (content ++ [.closing root])) ∧
      ofContent? attributes content = some page := by
  rw [parse_eq_ok_iff_of_document, Cursor.ofText?]
  refine and_congr_right fun _ => ?_
  cases hroot : Xml.root? text with
  | none => simp
  | some tokens =>
    obtain ⟨⟨root, attributes⟩, content, rfl⟩ := Xml.exists_content_of_root? hroot
    rw [Option.bind_some, serviceError?_nameless, ofDocument?_nameless, ← ofContent?_eq_some_iff]
    refine ⟨fun h => ⟨root, attributes, content, rfl, h⟩, ?_⟩
    rintro ⟨root', attributes', content', heq, h⟩
    obtain ⟨htag, hcontent⟩ := List.cons.inj (Option.some.inj heq)
    cases htag
    rwa [← List.append_cancel_right hcontent] at h

end Page
end StorageGate
