import StorageGate.Json.Parse
import StorageGate.Proofs.Text.Percent
/-!
# JSON and back

A value without numbers is read from its own text (`parse?_write`).  The text of a string is read back character by character,
escaped or not (`cutString?_escape`), and a character is never half of a pair of surrogates.  The text of a value is cut into
its tokens (`isCutInto_write`), whatever follows it, and the tokens build the value again, whatever it is nested in
(`build_tokens`); both by recursion on the value, its items and its members.
-/
namespace StorageGate
namespace Json

/-! ## Strings -/

theorem digitValue?_lowerDigit {n : Nat} (hn : n < 16) : Percent.digitValue? (Percent.lowerDigit n) = some n :=
  Percent.forall_lt_sixteen (P := fun n => Percent.digitValue? (Percent.lowerDigit n) = some n) (by decide) hn

theorem cutString?_plain {c : Char} (hquote : c ≠ '"') (hslash : c ≠ '\\') (hcontrol : ¬ c.toNat < 0x20) (read : List Nat)
    (rest : List Char) : cutString? read (c :: rest) = cutString? (c.toNat :: read) rest := by
  have hread : (decide (c.toNat < 0x20) || c == '\\') = false := by simp [hcontrol, hslash]
  rw [cutString?, if_neg (by rw [hread]; exact Bool.false_ne_true)]
  · exact hquote
  · exact fun _ _ _ _ _ hc => absurd hc hslash
  · exact fun _ _ hc => absurd hc hslash

theorem cutString?_code {n : Nat} (hn : n < 0x20) (read : List Nat) (rest : List Char) :
    cutString? read ('\\' :: 'u' :: '0' :: '0' :: Percent.lowerDigit (n / 16) :: Percent.lowerDigit (n % 16) :: rest)
      = cutString? (n :: read) rest := by
  have hzero : Percent.digitValue? '0' = some 0 := by decide
  have hhigh := digitValue?_lowerDigit (n := n / 16) (by omega)
  have hlow := digitValue?_lowerDigit (n := n % 16) (by omega)
  have hdigits : ['0', '0', Percent.lowerDigit (n / 16), Percent.lowerDigit (n % 16)].mapM Percent.digitValue?
      = some [0, 0, n / 16, n % 16] := by
    simp [hzero, hhigh, hlow]
  have hcode : ((0 * 16 + 0) * 16 + n / 16) * 16 + n % 16 = n := by omega
  rw [cutString?, hdigits]
  dsimp only
  rw [hcode]

/-- **A character is read back**, escaped or not. -/
theorem cutString?_escape (c : Char) (read : List Nat) (rest : List Char) :
    cutString? read (escape c ++ rest) = cutString? (c.toNat :: read) rest := by
  -- One case for each letter that escapes a character, then its code, then the character itself.
  unfold escape
  split
  · subst c; rfl
  split
  · subst c; rfl
  split
  · subst c; rfl
  split
  · subst c; rfl
  split
  · subst c; rfl
  split
  · rename_i hcode; rw [hcode]; rfl
  split
  · rename_i hcode; rw [hcode]; rfl
  split
  · rename_i hcontrol; exact cutString?_code hcontrol read rest
  · exact cutString?_plain ‹_› ‹_› ‹_› read rest

theorem cutString?_flatMap : ∀ (text : List Char) (read : List Nat) (rest : List Char),
    cutString? read (text.flatMap escape ++ '"' :: rest) = some (read.reverse ++ text.map Char.toNat, rest)
  | [], read, rest => by simp [cutString?]
  | c :: text, read, rest => by
    rw [List.flatMap_cons, List.append_assoc, cutString?_escape, cutString?_flatMap text]
    simp

theorem joinSurrogates_map : ∀ text : List Char, joinSurrogates (text.map Char.toNat) = some text
  | [] => rfl
  | c :: text => by
    -- A character is no surrogate, so it stands for itself.
    have hvalid := Utf8.toNat_valid c
    rw [List.map_cons, joinSurrogates.eq_def]
    dsimp only
    rw [if_neg (by omega), if_neg (by omega), joinSurrogates_map text, Char.ofNat_toNat]
    rfl

/-- **A string is read back**, whatever follows its closing quote. -/
theorem cut_writeString (text : String) (rest : List Char) :
    Token.cut (writeString text ++ rest) = (.string (some text), rest) := by
  have hcut : cutString? [] (text.toList.flatMap escape ++ '"' :: rest) = some (text.toList.map Char.toNat, rest) :=
    cutString?_flatMap text.toList [] rest
  have hwritten : writeString text ++ rest = '"' :: (text.toList.flatMap escape ++ '"' :: rest) := by
    simp [writeString]
  rw [hwritten, Token.cut, hcut]
  simp [joinSurrogates_map]

/-! ## Tokens -/

/-- The text is cut into these tokens, whatever follows it. -/
structure IsCutInto (text : List Char) (tokens : List Token) : Prop where
  /-- A token takes at least a character, so that the fuel for a text is enough. -/
  length_le : tokens.length ≤ text.length
  scan_eq : ∀ (n : Nat) (read : List Token) (rest : List Char),
    scan (n + tokens.length) read (text ++ rest) = scan n (tokens.reverse ++ read) rest

namespace IsCutInto

theorem nil : IsCutInto [] [] := ⟨Nat.le_refl 0, fun _ _ _ => rfl⟩

theorem append {s t : List Char} {ts us : List Token} (hs : IsCutInto s ts) (ht : IsCutInto t us) :
    IsCutInto (s ++ t) (ts ++ us) where
  length_le := by
    rw [List.length_append, List.length_append]
    exact Nat.add_le_add hs.length_le ht.length_le
  scan_eq n read rest := by
    rw [List.append_assoc, List.length_append, Nat.add_comm ts.length, ← Nat.add_assoc, hs.scan_eq, ht.scan_eq,
      List.reverse_append, List.append_assoc]

theorem single {c : Char} {t : List Char} {token : Token} (hspace : isSpace c = false) (htoken : token ≠ .malformed)
    (hcut : ∀ rest, Token.cut (c :: t ++ rest) = (token, rest)) : IsCutInto (c :: t) [token] where
  length_le := Nat.succ_le_succ (Nat.zero_le _)
  scan_eq n read rest := by
    have hdrop : (c :: t ++ rest).dropWhile isSpace = c :: t ++ rest :=
      List.dropWhile_cons_of_neg (by rw [hspace]; exact Bool.false_ne_true)
    rw [List.length_singleton, scan.eq_def, hdrop, List.cons_append]
    dsimp only
    rw [← List.cons_append, hcut]
    cases token <;> first | rfl | exact absurd rfl htoken

theorem string (text : String) : IsCutInto (writeString text) [.string (some text)] :=
  single (by decide) (by simp) (cut_writeString text)

/-- The comma in front of all but the first. -/
theorem lead (isFirst : Bool) : IsCutInto (if isFirst then [] else [',']) (if isFirst then [] else [.comma]) := by
  cases isFirst
  · exact single (by decide) (by simp) fun _ => rfl
  · exact nil

end IsCutInto

namespace Value

mutual

/-- The value has no numbers in it, and nothing unreadable. -/
def IsTextual : Value → Prop
  | null | bool _ | string _ => True
  | number _ | unreadable => False
  | array items => AreTextual items
  | object members => HoldTextual members

def AreTextual : List Value → Prop
  | [] => True
  | item :: rest => item.IsTextual ∧ AreTextual rest

def HoldTextual : List (String × Value) → Prop
  | [] => True
  | (_, value) :: rest => value.IsTextual ∧ HoldTextual rest

end

mutual

/-- The tokens of the text of a value. -/
def tokens : Value → List Token
  | null | unreadable => [.scalar .null]
  | bool b => [.scalar (.bool b)]
  | number text => [.scalar (.number text)]
  | string text => [.string (some text)]
  | array items => .openArray :: itemTokens true items
  | object members => .openObject :: memberTokens true members

def itemTokens (isFirst : Bool) : List Value → List Token
  | [] => [.closeArray]
  | item :: rest => (if isFirst then [] else [.comma]) ++ item.tokens ++ itemTokens false rest

def memberTokens (isFirst : Bool) : List (String × Value) → List Token
  | [] => [.closeObject]
  | (name, value) :: rest =>
    (if isFirst then [] else [.comma]) ++ .string (some name) :: .colon :: value.tokens ++ memberTokens false rest

end

mutual

/-- **The text of a value is cut into its tokens.** -/
theorem isCutInto_write : ∀ v : Value, v.IsTextual → IsCutInto v.write v.tokens
  | null, _ => .single (by decide) (by simp) fun _ => rfl
  | .bool true, _ => .single (by decide) (by simp) fun _ => rfl
  | .bool false, _ => .single (by decide) (by simp) fun _ => rfl
  | .string text, _ => .string text
  | array items, h => by
    have hopen : IsCutInto ['['] [.openArray] := .single (by decide) (by simp) fun _ => rfl
    exact hopen.append (isCutInto_writeItems true items h)
  | object members, h => by
    have hopen : IsCutInto ['\x7b'] [.openObject] := .single (by decide) (by simp) fun _ => rfl
    exact hopen.append (isCutInto_writeMembers true members h)

theorem isCutInto_writeItems (isFirst : Bool) :
    ∀ items : List Value, AreTextual items → IsCutInto (writeItems isFirst items) (itemTokens isFirst items)
  | [], _ => .single (by decide) (by simp) fun _ => rfl
  | item :: items, h =>
    ((IsCutInto.lead isFirst).append (isCutInto_write item h.1)).append (isCutInto_writeItems false items h.2)

theorem isCutInto_writeMembers (isFirst : Bool) : ∀ members : List (String × Value), HoldTextual members →
    IsCutInto (writeMembers isFirst members) (memberTokens isFirst members)
  | [], _ => .single (by decide) (by simp) fun _ => rfl
  | (name, value) :: members, h => by
    have hcolon : IsCutInto [':'] [.colon] := .single (by decide) (by simp) fun _ => rfl
    have hmember := (IsCutInto.string name).append (hcolon.append (isCutInto_write value h.1))
    have hmembers := ((IsCutInto.lead isFirst).append hmember).append (isCutInto_writeMembers false members h.2)
    simpa [writeMembers, memberTokens] using hmembers

end

/-! ## Nesting -/

/-- A member whose name is a text. -/
def named (m : String × Value) : Option String × Value := (some m.1, m.2)

theorem objectOf_named (members : List (String × Value)) : objectOf (members.map named).reverse = .object members := by
  have hnames : (members.map named).mapM (fun m => m.1.map (·, m.2)) = some members := by
    rw [List.mapM_map]
    exact (List.mapM_pure (m := Option)).trans (by simp [named])
  rw [objectOf, List.reverse_reverse, hnames]

mutual

/-- **The value is built from its tokens**, whatever it is nested in. -/
theorem build_tokens (orEnd : Bool) : ∀ v : Value, v.IsTextual → ∀ (frames : List Frame) (rest : List Token),
    build frames (.value orEnd) (v.tokens ++ rest) = build frames (.next v) rest
  | null, _, _, _ => rfl
  | .bool _, _, _, _ => rfl
  | .string _, _, _, _ => rfl
  | array [], _, _, _ => rfl
  | array (item :: items), h, frames, rest => by
    have hitem := build_tokens true item h.1 (.array [] :: frames) (itemTokens false items ++ rest)
    have hitems := build_itemTokens items h.2 [] item frames rest
    rw [← List.append_assoc] at hitem
    exact hitem.trans hitems
  | object [], _, _, _ => rfl
  | object ((name, value) :: members), h, frames, rest => by
    have hvalue := build_tokens false value h.1 (.object [] (some name) :: frames) (memberTokens false members ++ rest)
    have hmembers := build_memberTokens members h.2 [] name value frames rest
    rw [← List.append_assoc] at hvalue
    exact hvalue.trans hmembers

/-- What is behind an item, in an array with items before it. -/
theorem build_itemTokens : ∀ items : List Value, AreTextual items →
    ∀ (before : List Value) (item : Value) (frames : List Frame) (rest : List Token),
      build (.array before.reverse :: frames) (.next item) (itemTokens false items ++ rest)
        = build frames (.next (.array (before ++ item :: items))) rest
  | [], _, before, item, frames, rest => by
    show build frames (.next (.array (item :: before.reverse).reverse)) rest = _
    rw [List.reverse_cons, List.reverse_reverse]
  | next :: items, h, before, item, frames, rest => by
    -- The item joins those before it, and the next takes its place.
    have hnext := build_tokens false next h.1 (.array (item :: before.reverse) :: frames) (itemTokens false items ++ rest)
    have hitems := build_itemTokens items h.2 (before ++ [item]) next frames rest
    rw [← List.append_assoc] at hnext
    rw [List.reverse_append, List.append_assoc] at hitems
    exact hnext.trans hitems

/-- What is behind a member, in an object with members before it. -/
theorem build_memberTokens : ∀ members : List (String × Value), HoldTextual members →
    ∀ (before : List (String × Value)) (name : String) (value : Value) (frames : List Frame) (rest : List Token),
      build (.object (before.map named).reverse (some name) :: frames) (.next value) (memberTokens false members ++ rest)
        = build frames (.next (.object (before ++ (name, value) :: members))) rest
  | [], _, before, name, value, frames, rest => by
    have hmembers := objectOf_named (before ++ [(name, value)])
    rw [List.map_append, List.reverse_append] at hmembers
    show build frames (.next (objectOf ((some name, value) :: (before.map named).reverse))) rest = _
    rw [← hmembers]
    rfl
  | (nextName, next) :: members, h, before, name, value, frames, rest => by
    have hnext := build_tokens false next h.1
      (.object ((some name, value) :: (before.map named).reverse) (some nextName) :: frames) (memberTokens false members ++ rest)
    have hmembers := build_memberTokens members h.2 (before ++ [(name, value)]) nextName next frames rest
    rw [← List.append_assoc] at hnext
    rw [List.map_append, List.reverse_append, List.append_assoc] at hmembers
    exact hnext.trans hmembers

end

/-- **A value is read from its own text**, if no numbers are in it. -/
theorem parse?_write {v : Value} (h : v.IsTextual) : parse? v.write = some v := by
  obtain ⟨hlength, hscan⟩ := isCutInto_write v h
  have htokens : Json.tokens v.write = v.tokens := by
    obtain ⟨n, hn⟩ : ∃ n, v.write.length = n + v.tokens.length := ⟨_, (Nat.sub_add_cancel hlength).symm⟩
    have hread := hscan n [] []
    rw [List.append_nil, List.append_nil] at hread
    rw [Json.tokens, hn, hread]
    cases n <;> exact List.reverse_reverse _
  have hbuild := build_tokens false v h [] []
  rw [List.append_nil] at hbuild
  rw [parse?, htokens, hbuild]
  rfl

end Value
end Json
end StorageGate
