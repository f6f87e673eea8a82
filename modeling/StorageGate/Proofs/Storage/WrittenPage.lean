import StorageGate.Proofs.Text.Numeral
import StorageGate.Proofs.Traversal
import StorageGate.Proofs.Xml.Openings
import StorageGate.Proofs.Xml.Place
import StorageGate.Storage.Listing
/-!
# Pages as they are written

A page is written with its flag, its token and an element for each object, all texts escaped.  Its objects are read back one
by one (`object?_tokens`), and the page from its parts (`ofDocument?_tokens`): with the white space at the ends of its keys,
times and token gone, and the quotes at the ends of its tags.  What its root is called does not matter (`parse_writeAs`).
-/
namespace StorageGate

open Xml (Leaf IsContent Cursor Tag Token element elementTokens characterTokens trim)

/-- A text without white space at its ends. -/
def trimmed (text : String) : String := String.ofList (trim text.toList)

namespace ListedObject

/-- The fields of an object as they are written. -/
def leaves (o : ListedObject) : List Leaf :=
  .ofText "Key" (by decide) o.key.toList ::
    (o.size.toList.map (fun n => .ofText "Size" (by decide) (Numeral.write n.toNat))
      ++ o.lastModified.toList.map (fun t => .ofText "LastModified" (by decide) t.toList)
      ++ o.etag.toList.map fun t => .quoted "ETag" (by decide) t.toList)

/-- An object as it is written. -/
def write (o : ListedObject) : List Char := element "Contents".toList (o.leaves.flatMap Leaf.write)

/-- The tokens of an object. -/
def tokens (o : ListedObject) : List Token := elementTokens "Contents".toList (o.leaves.flatMap Leaf.tokens)

/-- An object as it is read back. -/
def trimmed (o : ListedObject) : ListedObject where
  key := StorageGate.trimmed o.key
  size := o.size
  lastModified := o.lastModified.map StorageGate.trimmed
  etag := o.etag.map fun t => String.ofList (Page.unquote t.toList)

theorem isContent (o : ListedObject) : IsContent o.write o.tokens :=
  IsContent.element (by decide) (IsContent.flatMap fun l _ => l.isContent)

/-- The tag of an object. -/
def tag : Tag := ⟨"Contents".toList, []⟩

end ListedObject

namespace Page

theorem trimBy_surrounded {p : Char → Bool} {c : Char} (hc : p c = true) (text : List Char) :
    trimBy p (c :: (text ++ [c])) = trimBy p text := by
  have hend : (text ++ [c]).dropWhile p = if text.dropWhile p = [] then [] else text.dropWhile p ++ [c] := by
    induction text with
    | nil => simp [hc]
    | cons d text ih =>
      by_cases hd : p d
      · rw [List.cons_append, List.dropWhile_cons_of_pos hd, List.dropWhile_cons_of_pos hd, ih]
      · rw [List.cons_append, List.dropWhile_cons_of_neg hd, List.dropWhile_cons_of_neg hd, if_neg (List.cons_ne_nil _ _),
          List.cons_append]
  rw [trimBy, trimBy, List.dropWhile_cons_of_pos hc, hend]
  split
  · rename_i hnil
    rw [hnil]
  · rw [List.reverse_append, List.reverse_singleton, List.singleton_append, List.dropWhile_cons_of_pos hc]

/-- The texts of a record of leaves. -/
def textsOf (leaves : List Leaf) : Texts := leaves.map fun l => (l.name, some l.text)

/-- **A record of leaves is read** as the texts of its leaves, if all are fields and none stands twice. -/
theorem texts?_leaves {texts unlessNil : List String} {record : Tag} (hrecord : record.attributes = []) {leaves : List Leaf}
    (hne : leaves ≠ []) (hfields : ∀ l ∈ leaves, Leaf.IsField texts unlessNil l.name)
    (hnodup : (leaves.map Leaf.name).Nodup) (depth : Nat) (last : List Char) (rest : List Token) :
    (Cursor.place? (depth + 1) (leaves.flatMap Leaf.tokens ++ .closing last :: rest)).bind (texts? texts unlessNil record)
      = (Cursor.place? depth rest).map fun c => (textsOf leaves, c) := by
  have hread := Cursor.fields?_children hrecord hne (fun l hl => Leaf.readsAs hrecord (hfields l hl)) depth last rest
  have hmap : leaves.filterMap (fun l => some (l.name, some l.text)) = textsOf leaves :=
    congrFun List.filterMap_eq_map leaves
  have hnames : ((textsOf leaves).map Prod.fst).Nodup := by
    rw [textsOf, List.map_map]
    exact hnodup
  rw [hmap] at hread
  have htexts : texts? texts unlessNil record = fun c => (c.fields? record (Cursor.field? texts unlessNil record)).bind
      fun p => (guard (p.1.map Prod.fst).Nodup : Option Unit).bind fun _ => some p := rfl
  calc (Cursor.place? (depth + 1) (leaves.flatMap Leaf.tokens ++ .closing last :: rest)).bind (texts? texts unlessNil record)
    _ = ((Cursor.place? depth rest).map fun c => (textsOf leaves, c)).bind fun p =>
          (guard (p.1.map Prod.fst).Nodup : Option Unit).bind fun _ => some p := by
      rw [htexts, ← Option.bind_assoc]
      exact congrArg (Option.bind · _) hread
    _ = (Cursor.place? depth rest).map fun c => (textsOf leaves, c) := by
      cases Cursor.place? depth rest with
      | none => rfl
      | some c => rw [Option.map_some, Option.bind_some, Traversal.guard_of hnames, Option.bind_some]

end Page

namespace ListedObject

theorem names_sublist (o : ListedObject) : (o.leaves.map Leaf.name).Sublist ["Key", "Size", "LastModified", "ETag"] := by
  rcases o with ⟨key, _ | size, _ | time, _ | etag⟩ <;> simp [leaves, Leaf.ofText, Leaf.quoted]

/-- What is read of the fields of an object. -/
theorem texts?_tokens (o : ListedObject) (depth : Nat) (rest : List Token) :
    (Cursor.place? (depth + 1) (o.leaves.flatMap Leaf.tokens ++ .closing "Contents".toList :: rest)).bind
        (Page.texts? ["Key"] ["Size", "LastModified", "ETag"] tag)
      = (Cursor.place? depth rest).map fun c => (Page.textsOf o.leaves, c) := by
  have hfields : ∀ name ∈ ["Key", "Size", "LastModified", "ETag"], Leaf.IsField ["Key"] ["Size", "LastModified", "ETag"] name := by
    decide
  refine Page.texts?_leaves rfl (List.cons_ne_nil _ _) (fun l hl => hfields _ ?_) ?_ depth _ rest
  · exact o.names_sublist.subset (List.mem_map_of_mem hl)
  · exact o.names_sublist.nodup (by decide)

theorem trim_write (n : Nat) : trim (Numeral.write n) = Numeral.write n := by
  refine Xml.trim_of_no_space fun c hc => ?_
  obtain ⟨hlt, hdigit⟩ := Numeral.digitChar_of_isDigit (Numeral.isDigit_of_mem_write hc)
  rw [← hdigit]
  exact (by decide : ∀ d < 10, ¬Xml.isSpace (Nat.digitChar d) = true) _ hlt

theorem text?_leaves (o : ListedObject) : (Page.textsOf o.leaves).text? "Key" = some (trim o.key.toList) ∧
    (Page.textsOf o.leaves).text? "Size" = o.size.map (fun n => Numeral.write n.toNat) ∧
    (Page.textsOf o.leaves).text? "LastModified" = o.lastModified.map (fun t => trim t.toList) ∧
    (Page.textsOf o.leaves).text? "ETag" = o.etag.map fun t => '"' :: (t.toList ++ ['"']) := by
  rcases o with ⟨key, _ | size, _ | time, _ | etag⟩ <;>
    simp [Page.textsOf, Page.Texts.text?, leaves, Leaf.ofText, Leaf.quoted, List.lookup_cons, trim_write]

theorem trimmed_eq (o : ListedObject) : o.trimmed =
    { key := String.ofList (trim o.key.toList)
      size := o.size
      lastModified := (o.lastModified.map fun t => trim t.toList).map String.ofList
      etag := (o.etag.map fun t => '"' :: (t.toList ++ ['"'])).map fun t => String.ofList (Page.unquote t) } := by
  have hquoted (text : List Char) : Page.unquote ('"' :: (text ++ ['"'])) = Page.unquote text :=
    Page.trimBy_surrounded (by decide) text
  simp only [trimmed, Option.map_map, Function.comp_def, hquoted]
  rfl

/-- **An object is read back.** -/
theorem object?_tokens (o : ListedObject) (depth : Nat) (rest : List Token) :
    (Cursor.place? (depth + 1) (o.leaves.flatMap Leaf.tokens ++ .closing "Contents".toList :: rest)).bind
        (Page.object? tag) = (Cursor.place? depth rest).map fun c => (o.trimmed, c) := by
  obtain ⟨hkey, hsize, htime, hetag⟩ := o.text?_leaves
  have hnumber : ∀ n : UInt64, Numeral.lenient? size64 (Numeral.write n.toNat) = some n.toNat := fun n =>
    Numeral.lenient?_write n.toNat_lt
  have htexts := o.texts?_tokens depth rest
  cases hplace : Cursor.place? (depth + 1) (o.leaves.flatMap Leaf.tokens ++ .closing "Contents".toList :: rest) with
  | none =>
    rw [hplace] at htexts
    rw [Option.map_eq_none_iff.1 htexts.symm]
    rfl
  | some c =>
    rw [hplace, Option.bind_some] at htexts
    rw [Option.bind_some, Page.object?, htexts]
    cases Cursor.place? depth rest with
    | none => rfl
    | some after =>
      simp only [Option.map_some, Option.bind_eq_bind, Option.bind_some, hkey, hsize, htime, hetag]
      rw [o.trimmed_eq]
      cases o.size with
      | none => rfl
      | some n => simp [hnumber]

end ListedObject

namespace Page

/-! ## Objects in a row -/

/-- The tokens of objects in front of a closing tag are looked at as they are. -/
theorem place?_objects (objects : List ListedObject) (depth : Nat) (last : List Char) (rest : List Token) :
    ∃ c, Cursor.place? depth (objects.flatMap ListedObject.tokens ++ .closing last :: rest) = some c ∧
      c.ahead = objects.flatMap ListedObject.tokens ++ .closing last :: rest := by
  cases objects with
  | nil => exact ⟨_, rfl, rfl⟩
  | cons o objects => exact ⟨_, Cursor.place?_opening _ _ _, rfl⟩

theorem length_le_tokens (objects : List ListedObject) :
    objects.length ≤ (objects.flatMap ListedObject.tokens).length :=
  Cursor.length_le_elements (fun _ => "Contents".toList) (fun o : ListedObject => o.leaves.flatMap Leaf.tokens) objects

/-- An object in front of another place is opened and read. -/
theorem exists_object (o : ListedObject) (depth : Nat) {rest : List Token} {after : Cursor}
    (h : Cursor.place? depth rest = some after) : ∃ c inside, Cursor.place? depth (o.tokens ++ rest) = some c ∧
      c.next? = some (.opening ListedObject.tag, inside) ∧ object? ListedObject.tag inside = some (o.trimmed, after) := by
  have hobject := o.object?_tokens depth rest
  rw [h, Option.map_some] at hobject
  obtain ⟨inside, hinside, hobject⟩ := Option.bind_eq_some_iff.1 hobject
  have hnext := Cursor.next?_opening depth "Contents".toList (o.leaves.flatMap Leaf.tokens ++ .closing "Contents".toList :: rest)
  rw [hinside, Option.map_some] at hnext
  obtain ⟨c, hc, hnext⟩ := Option.bind_eq_some_iff.1 hnext
  refine ⟨c, inside, ?_, hnext, hobject⟩
  rw [← hc, ListedObject.tokens, elementTokens, List.cons_append, List.append_assoc, List.singleton_append]

section Step

variable {name : List Char} {steps : Nat} {found : List ListedObject} {c after : Cursor}

theorem objectsFrom?_of_opening {tag : Tag} (h : c.next? = some (.opening tag, after)) (hname : tag.name = name) :
    objectsFrom? name (steps + 1) found c
      = (object? tag after).bind fun p => objectsFrom? name steps (p.1 :: found) p.2 := by
  rw [objectsFrom?, h]
  dsimp only
  rw [if_neg (not_not_intro hname)]
  cases object? tag after <;> rfl

theorem objectsFrom?_of_other {tag : Tag} (h : c.next? = some (.opening tag, after)) (hname : tag.name ≠ name) :
    objectsFrom? name (steps + 1) found c = some (found.reverse, c) := by
  rw [objectsFrom?, h]
  exact if_pos hname

theorem objectsFrom?_of_closing (h : c.next? = some (.closing, after)) :
    objectsFrom? name (steps + 1) found c = some (found.reverse, c) := by
  rw [objectsFrom?, h]

theorem objectsFrom?_of_text {text : List Char} (h : c.next? = some (.text text, after)) :
    objectsFrom? name (steps + 1) found c = none := by
  rw [objectsFrom?, h]

theorem objectsFrom?_of_stuck (h : c.next? = none) : objectsFrom? name (steps + 1) found c = none := by
  rw [objectsFrom?, h]

end Step

/-- **Objects are read one after another**, up to the end of the page. -/
theorem objectsFrom?_tokens (last : List Char) : ∀ (objects : List ListedObject) (steps : Nat) (found : List ListedObject)
    {c : Cursor}, Cursor.place? 1 (objects.flatMap ListedObject.tokens ++ [.closing last]) = some c →
    objectsFrom? "Contents".toList (objects.length + (steps + 1)) found c
      = (Cursor.place? 1 [.closing last]).map fun c => (found.reverse ++ objects.map ListedObject.trimmed, c)
  | [], steps, found, c, h => by
    have hnext := Cursor.next?_closing 0 last []
    rw [Cursor.place?_closing, Option.bind_some] at hnext
    cases h
    show objectsFrom? _ (0 + (steps + 1)) found _ = _
    rw [Nat.zero_add, objectsFrom?_of_closing hnext, Cursor.place?_closing, Option.map_some, List.map_nil, List.append_nil]
  | o :: objects, steps, found, c, h => by
    obtain ⟨after, hafter, _⟩ := place?_objects objects 1 last []
    obtain ⟨c', inside, hc', hnext, hobject⟩ := exists_object o 1 hafter
    rw [List.flatMap_cons, List.append_assoc, hc'] at h
    obtain rfl : c' = c := Option.some.inj h
    have hlength : (o :: objects).length + (steps + 1) = objects.length + (steps + 1) + 1 := by
      rw [List.length_cons]
      omega
    have hname : ListedObject.tag.name = "Contents".toList := rfl
    rw [hlength, objectsFrom?_of_opening hnext hname, hobject, Option.bind_some,
      objectsFrom?_tokens last objects steps (o.trimmed :: found) hafter, List.reverse_cons, List.append_assoc,
      List.singleton_append, List.map_cons]

/-! ## The page -/

/-- The leaves of a page, in front of its objects. -/
def leaves (p : Page) : List Leaf :=
  .ofText "IsTruncated" (by decide) (if p.isTruncated then "true" else "false").toList ::
    p.token.toList.map fun t => .ofText "NextContinuationToken" (by decide) t.toList

/-- What stands in the root of a page. -/
def content (p : Page) : List Char := p.leaves.flatMap Leaf.write ++ p.objects.flatMap ListedObject.write

/-- The tokens of what stands in the root of a page. -/
def tokens (p : Page) : List Token := p.leaves.flatMap Leaf.tokens ++ p.objects.flatMap ListedObject.tokens

/-- A page under a root of any name. -/
def writeAs (root : List Char) (p : Page) : List Char := element root p.content

/-- A page as it is read back. -/
def trimmed (p : Page) : Page where
  objects := p.objects.map ListedObject.trimmed
  isTruncated := p.isTruncated
  token := p.token.map StorageGate.trimmed

theorem isContent (p : Page) : IsContent p.content p.tokens :=
  (IsContent.flatMap fun l _ => l.isContent).append (IsContent.flatMap fun o _ => o.isContent)

theorem objects?_tokens (o : ListedObject) (objects : List ListedObject) (last : List Char) :
    ∃ c inside after, Cursor.place? 1 (o.tokens ++ (objects.flatMap ListedObject.tokens ++ [.closing last])) = some c ∧
      c.next? = some (.opening ListedObject.tag, inside) ∧ Cursor.place? 1 [.closing last] = some after ∧
      objects? ListedObject.tag inside = some ((o :: objects).map ListedObject.trimmed, after) := by
  obtain ⟨behind, hbehind, hahead⟩ := place?_objects objects 1 last []
  obtain ⟨c, inside, hc, hnext, hobject⟩ := exists_object o 1 hbehind
  obtain ⟨steps, hsteps⟩ := Nat.exists_eq_add_of_le (length_le_tokens objects)
  have hlength : behind.ahead.length + 1 = objects.length + (steps + 1 + 1) := by
    rw [hahead, List.length_append, hsteps, List.length_singleton]
    omega
  refine ⟨c, inside, _, hc, hnext, Cursor.place?_closing 1 last [], ?_⟩
  have hrow := objectsFrom?_tokens last objects (steps + 1) [o.trimmed] hbehind
  show (object? ListedObject.tag inside).bind (fun p => objectsFrom? ListedObject.tag.name (p.2.ahead.length + 1) [p.1] p.2) = _
  rw [hobject, Option.bind_some, hlength]
  exact hrow

theorem names_sublist (p : Page) : (p.leaves.map Leaf.name).Sublist ["IsTruncated", "NextContinuationToken"] := by
  rcases p with ⟨objects, isTruncated, _ | token⟩ <;> simp [leaves, Leaf.ofText]

/-- A leaf of a page is read as a part of it. -/
theorem readsAs_leaf (p : Page) (root : List Char) : ∀ l ∈ p.leaves,
    Cursor.ReadsAs (part? ⟨root, []⟩) l.name.toList (characterTokens l.raw) (some (Part.text l.name (some l.text))) := by
  intro l hl depth rest
  have hfields : ∀ name ∈ ["IsTruncated", "NextContinuationToken"],
      Leaf.IsField ["IsTruncated"] ["NextContinuationToken"] name ∧ Tag.isNamed ⟨name.toList, []⟩ "Contents" = false := by
    decide
  obtain ⟨hfield, hname⟩ := hfields _ (p.names_sublist.subset (List.mem_map_of_mem hl))
  have hread : Cursor.ReadsAs (Cursor.field? ["IsTruncated"] ["NextContinuationToken"] ⟨root, []⟩) l.name.toList
      (characterTokens l.raw) (some (l.name, some l.text)) := Leaf.readsAs rfl hfield
  have hpart : part? ⟨root, []⟩ ⟨l.name.toList, []⟩
      = Option.map (fun q => (q.1.map fun f => Part.text f.1 f.2, q.2))
        ∘ Cursor.field? ["IsTruncated"] ["NextContinuationToken"] ⟨root, []⟩ ⟨l.name.toList, []⟩ := by
    funext c
    rw [part?, hname]
    rfl
  rw [hpart, ← Option.map_bind, hread depth rest, Option.map_map]
  rfl

/-- What is read of the objects of a page, as the last of its parts. -/
theorem fieldsFrom?_objects (objects : List ListedObject) (root : List Char) (steps : Nat) (found : List Part) :
    (Cursor.place? 1 (objects.flatMap ListedObject.tokens ++ [.closing root])).bind
        (Cursor.fieldsFrom? (part? ⟨root, []⟩) (steps + objects.length + 1) found)
      = some (found.reverse ++ (if objects = [] then [] else [Part.objects (objects.map ListedObject.trimmed)]),
          ⟨[], {}, true⟩) := by
  have hend (steps : Nat) (found : List Part) : (Cursor.place? 1 [.closing root]).bind
      (Cursor.fieldsFrom? (part? ⟨root, []⟩) (steps + 1) found) = some (found.reverse, ⟨[], {}, true⟩) :=
    Cursor.fieldsFrom?_closing steps found 0 root []
  cases objects with
  | nil =>
    rw [if_pos rfl, List.append_nil]
    exact hend steps found
  | cons o objects =>
    obtain ⟨c, inside, after, hc, hnext, hafter, hobjects⟩ := objects?_tokens o objects root
    have hpart : part? ⟨root, []⟩ ListedObject.tag inside
        = some (some (.objects ((o :: objects).map ListedObject.trimmed)), after) := by
      rw [part?, if_pos (by decide), hobjects]
      rfl
    have hafter' := hend (steps + objects.length) (.objects ((o :: objects).map ListedObject.trimmed) :: found)
    rw [hafter, Option.bind_some] at hafter'
    have hsteps : steps + (o :: objects).length + 1 = steps + objects.length + 1 + 1 := rfl
    rw [List.flatMap_cons, List.append_assoc, hc, Option.bind_some, hsteps, Cursor.fieldsFrom?, hnext]
    dsimp only
    rw [hpart]
    dsimp only [Option.toList_some, List.singleton_append]
    rw [hafter', List.reverse_cons, if_neg (List.cons_ne_nil _ _)]

/-- The parts that are read of a page: its leaves, and all of its objects as one part. -/
def parts (p : Page) : List Part :=
  p.leaves.map (fun l => Part.text l.name (some l.text)) ++
    if p.objects = [] then [] else [Part.objects (p.objects.map ListedObject.trimmed)]

/-- **The parts of a page are read** in order. -/
theorem parts_tokens (p : Page) (root : List Char) :
    (Cursor.place? 1 (p.tokens ++ [.closing root])).bind (Cursor.fields? ⟨root, []⟩ (part? ⟨root, []⟩))
      = some (p.parts, ⟨[], {}, true⟩) := by
  have hleaves : p.leaves.length ≤ (p.leaves.flatMap Leaf.tokens).length :=
    Cursor.length_le_elements (fun l : Leaf => l.name.toList) (fun l => characterTokens l.raw) p.leaves
  have hobjects := length_le_tokens p.objects
  obtain ⟨steps, hsteps⟩ : ∃ steps, (p.tokens ++ [Token.closing root]).length
      = p.leaves.length + (steps + p.objects.length + 1) := by
    refine ⟨(p.tokens ++ [Token.closing root]).length - (p.leaves.length + p.objects.length + 1), ?_⟩
    rw [tokens, List.length_append, List.length_append, List.length_singleton]
    omega
  have hrow := Cursor.fieldsFrom?_children (p.readsAs_leaf root) (steps + p.objects.length + 1) [] 1
    (p.objects.flatMap ListedObject.tokens ++ [.closing root])
  have hparts : p.leaves.filterMap (fun l => some (Part.text l.name (some l.text)))
      = p.leaves.map fun l => Part.text l.name (some l.text) := congrFun List.filterMap_eq_map p.leaves
  rw [fieldsFrom?_objects, List.append_nil, List.reverse_reverse, hparts] at hrow
  rw [Cursor.fields?_eq rfl 1 (by rfl), hsteps, tokens, List.append_assoc]
  exact hrow

theorem text?_leaves (p : Page) :
    (textsOf p.leaves).text? "IsTruncated" = some (if p.isTruncated then "true" else "false").toList ∧
      (textsOf p.leaves).text? "NextContinuationToken" = p.token.map fun t => trim t.toList := by
  have hflag : trim (if p.isTruncated then "true" else "false").toList = (if p.isTruncated then "true" else "false").toList := by
    cases p.isTruncated <;> rfl
  rcases p with ⟨objects, isTruncated, _ | token⟩ <;>
    simp [textsOf, Texts.text?, leaves, Leaf.ofText, List.lookup_cons, hflag]

theorem nodup_parts (p : Page) : (p.parts.map Part.name).Nodup := by
  have hnames : p.parts.map Part.name = p.leaves.map Leaf.name ++ if p.objects = [] then [] else ["Contents"] := by
    rw [parts, List.map_append, List.map_map]
    split <;> rfl
  have hsublist : (p.parts.map Part.name).Sublist (["IsTruncated", "NextContinuationToken"] ++ ["Contents"]) := by
    rw [hnames]
    refine p.names_sublist.append ?_
    split
    · exact List.nil_sublist _
    · exact List.Sublist.refl _
  exact hsublist.nodup (by decide)

theorem texts_parts (p : Page) : p.parts.filterMap Part.field? = textsOf p.leaves := by
  have hleaves : p.leaves.filterMap (Part.field? ∘ fun l => Part.text l.name (some l.text)) = textsOf p.leaves :=
    congrFun List.filterMap_eq_map p.leaves
  have hobjects : (if p.objects = [] then [] else [Part.objects (p.objects.map ListedObject.trimmed)]).filterMap Part.field?
      = [] := by
    split <;> rfl
  rw [parts, List.filterMap_append, List.filterMap_map, hleaves, hobjects, List.append_nil]

theorem listed_parts (p : Page) : p.parts.flatMap Part.listed = p.objects.map ListedObject.trimmed := by
  have hleaves : (p.leaves.map fun l => Part.text l.name (some l.text)).flatMap Part.listed = [] := by
    simp [Part.listed]
  rw [parts, List.flatMap_append, hleaves, List.nil_append]
  split
  · rename_i hobjects
    rw [hobjects]
    rfl
  · exact List.flatMap_singleton _ _

theorem ofParts?_parts (p : Page) : ofParts? p.parts = some p.trimmed := by
  obtain ⟨hflag, htoken⟩ := p.text?_leaves
  have hread : flag? (if p.isTruncated then "true" else "false").toList = some p.isTruncated := by
    cases p.isTruncated <;> rfl
  rw [ofParts?, Traversal.guard_of p.nodup_parts]
  simp only [Option.bind_eq_bind, Option.bind_some, texts_parts, listed_parts, hflag, htoken, hread, Option.map_map]
  rfl

/-- The place inside the root of a page. -/
theorem enterRoot?_tokens (p : Page) (root : List Char) : ∃ inside document,
    Cursor.place? 1 (p.tokens ++ [.closing root]) = some inside ∧
      Cursor.place? 0 (elementTokens root p.tokens) = some document ∧
      document.enterRoot? = some (⟨root, []⟩, inside) := by
  obtain ⟨inside, hinside, _⟩ := Option.bind_eq_some_iff.1 (p.parts_tokens root)
  have hnext := Cursor.next?_opening 0 root (p.tokens ++ [.closing root])
  rw [hinside, Option.map_some] at hnext
  obtain ⟨document, hdocument, hnext⟩ := Option.bind_eq_some_iff.1 hnext
  refine ⟨inside, document, hinside, hdocument, ?_⟩
  rw [Cursor.enterRoot?, hnext]
  rfl

/-- **A page is read back from its tokens**, whatever its root is called. -/
theorem ofDocument?_tokens (p : Page) (root : List Char) :
    (Cursor.place? 0 (elementTokens root p.tokens)).bind ofDocument? = some p.trimmed := by
  obtain ⟨inside, document, hinside, hdocument, hroot⟩ := p.enterRoot?_tokens root
  have hparts := p.parts_tokens root
  rw [hinside, Option.bind_some] at hparts
  rw [hdocument, Option.bind_some, ofDocument?, hroot]
  simp only [Option.bind_eq_bind, Option.bind_some, hparts, ofParts?_parts]

/-! ## No error of the service -/

/-- **An error of the service has a code**: an element of that name in the root. -/
theorem exists_code_of_serviceError? {document : Cursor} {e : String × String} (h : serviceError? document = some e) :
    ∃ root inside tag, document.enterRoot? = some (root, inside) ∧ .opening tag ∈ inside.ahead ∧
      tag.isNamed "Code" = true := by
  obtain ⟨⟨root, inside⟩, hroot, h⟩ := Option.bind_eq_some_iff.1 h
  obtain ⟨⟨fields, after⟩, htexts, h⟩ := Option.bind_eq_some_iff.1 h
  obtain ⟨code, hcode, _⟩ := Option.bind_eq_some_iff.1 h
  obtain ⟨⟨fields', after'⟩, hfields, htexts⟩ := Option.bind_eq_some_iff.1 htexts
  obtain ⟨_, _, he⟩ := Option.bind_eq_some_iff.1 htexts
  cases he
  have hlookup : fields.lookup "Code" = some (some code) := Option.join_eq_some_iff.1 hcode
  obtain ⟨before, behind, hsplit, _⟩ := List.lookup_eq_some_iff.1 hlookup
  have hmem : ("Code", some code) ∈ fields := hsplit ▸ List.mem_append_right _ List.mem_cons_self
  obtain ⟨tag, htag, hname⟩ := Cursor.exists_opening_of_fields? (fun _ _ _ _ h => Cursor.behind_of_field? h) hfields _ hmem
  exact ⟨root, inside, tag, hroot, htag, hname⟩

theorem opening_mem_leaf {l : Leaf} {tag : Tag} (h : .opening tag ∈ l.tokens) : tag = ⟨l.name.toList, []⟩ := by
  simp only [Leaf.tokens, elementTokens, characterTokens, List.mem_cons, List.mem_append, List.not_mem_nil, or_false] at h
  rcases h with h | h | h
  · cases h
    rfl
  · split at h <;> simp at h
  · cases h

/-- Nothing in a page opens under the name of an error's code. -/
theorem not_isNamed_code {p : Page} {tag : Tag} (h : .opening tag ∈ p.tokens) : tag.isNamed "Code" = false := by
  have hnames : ∀ name ∈ ["IsTruncated", "NextContinuationToken"] ++ ["Key", "Size", "LastModified", "ETag"],
      Tag.isNamed ⟨name.toList, []⟩ "Code" = false := by decide
  rcases List.mem_append.1 h with h | h
  · obtain ⟨l, hl, h⟩ := List.mem_flatMap.1 h
    rw [opening_mem_leaf h]
    exact hnames _ (List.mem_append_left _ (p.names_sublist.subset (List.mem_map_of_mem hl)))
  · obtain ⟨o, _, h⟩ := List.mem_flatMap.1 h
    simp only [ListedObject.tokens, elementTokens, List.mem_cons, List.mem_append, List.not_mem_nil, or_false] at h
    rcases h with h | h | h
    · cases h
      decide
    · obtain ⟨l, hl, h⟩ := List.mem_flatMap.1 h
      rw [opening_mem_leaf h]
      exact hnames _ (List.mem_append_right _ (o.names_sublist.subset (List.mem_map_of_mem hl)))
    · cases h

/-- **A page is no error of the service.** -/
theorem serviceError?_tokens (p : Page) (root : List Char) :
    (Cursor.place? 0 (elementTokens root p.tokens)).bind serviceError? = none := by
  obtain ⟨inside, document, hinside, hdocument, hroot⟩ := p.enterRoot?_tokens root
  rw [hdocument, Option.bind_some]
  cases herror : serviceError? document with
  | none => rfl
  | some e =>
    obtain ⟨root', inside', tag, hroot', htag, hname⟩ := exists_code_of_serviceError? herror
    rw [hroot] at hroot'
    cases hroot'
    have hmem := Cursor.opening_mem_of_look? hinside htag
    rcases List.mem_append.1 hmem with hmem | hmem
    · rw [not_isNamed_code hmem] at hname
      cases hname
    · cases List.mem_singleton.1 hmem

/-! ## Texts -/

theorem occursIn_append {part : List Char} (hpart : part ≠ []) (rest : List Char) : ∀ front : List Char,
    occursIn part (front ++ (part ++ rest)) = true
  | [] => by
    cases part with
    | nil => exact absurd rfl hpart
    | cons c part =>
      rw [List.nil_append, List.cons_append, occursIn, Bool.or_eq_true, List.isPrefixOf_iff_prefix]
      exact .inl (List.prefix_append _ _)
  | c :: front => by rw [List.cons_append, occursIn, occursIn_append hpart rest front, Bool.or_true]

/-- **A page under any root is read back**, behind what leaves nothing, if the text mentions a listing anywhere. -/
theorem parse_writeAs {lead root : List Char} (hlead : ∀ rest, Xml.tokens (lead ++ rest) = Xml.tokens rest)
    (hmark : lead.head? ≠ some '\uFEFF') (hroot : Xml.IsName root) (p : Page)
    (hmention : occursIn "<ListBucketResult".toList (lead ++ p.writeAs root) = true) : parse (lead ++ p.writeAs root) = .ok p.trimmed := by
  have hdocument : Cursor.ofText? (lead ++ p.writeAs root) = Cursor.place? 0 (elementTokens root p.tokens) := by
    rw [Cursor.ofText?, writeAs, Xml.root?_element hlead hmark hroot p.isContent]
    rfl
  rw [parse, hdocument, p.serviceError?_tokens root]
  dsimp only
  rw [if_pos hmention, p.ofDocument?_tokens root]

/-- The declaration in front of a document. -/
def declaration : List Char := Xml.instruction "xml version=\"1.0\" encoding=\"UTF-8\"".toList

/-- A page as it is written. -/
def write (p : Page) : List Char := declaration ++ p.writeAs "ListBucketResult".toList

theorem parse_write (p : Page) : parse p.write = .ok p.trimmed := by
  refine parse_writeAs (Xml.tokens_instruction (by decide) (by decide)) (by decide) (by decide) p ?_
  have hname : p.writeAs "ListBucketResult".toList = "<ListBucketResult".toList ++
      ('>' :: (p.content ++ '<' :: '/' :: ("ListBucketResult".toList ++ ['>']))) := rfl
  rw [hname]
  exact occursIn_append (by decide) _ _

end Page
end StorageGate
