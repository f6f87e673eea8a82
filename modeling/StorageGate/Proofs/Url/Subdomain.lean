import Mathlib.Data.List.Basic
import StorageGate.Proofs.Text.Joined
import StorageGate.Proofs.Text.Numeral
import StorageGate.Proofs.Url.Dots
import StorageGate.Proofs.Url.Host
/-!
# Names in front of a host

What is put in front of a host with a dot between them is read apart from it: undoing an encoding stops at the dot, labels are
cut at it, and the labels of a host that is written already stay as they are.  So a domain that is read from a text and a
domain behind it is that of the text, in front of the other as it stands (`parse_append_domain`), and nothing that stands in
front of an address makes a host of it (`parse_append_ipv4`, `parse_append_bracket`).
-/
namespace StorageGate

/-! ## Bytes in front of a dot -/

namespace Percent
theorem scan_append_first (read first : List UInt8) (text : List Char) :
    scan (read ++ first) text = first.reverse ++ scan read text := by
  fun_induction scan read text with
  | case1 read => simp [scan]
  | case2 read a b r x y hx hy ih => rw [scan, hx, hy]; exact ih
  | case3 read a b r hno ih =>
    rw [scan]
    split
    · exact absurd ‹_› (hno _ _ ‹_›)
    · exact ih
  | case4 read c r hno ih =>
    rw [scan, ← List.append_assoc]
    · exact ih
    · exact hno

theorem scan_percent_dot (read : List UInt8) (rest : List Char) :
    scan read ('%' :: '.' :: rest) = scan (0x25 :: read) ('.' :: rest) := by
  cases rest <;> rfl

theorem scan_percent_digit_dot (read : List UInt8) (a : Char) (rest : List Char) :
    scan read ('%' :: a :: '.' :: rest) = scan (0x25 :: read) (a :: '.' :: rest) := by
  have hdot : digitValue? '.' = none := by decide
  rw [scan, hdot]
  cases digitValue? a <;> rfl

/-- **Undoing an encoding stops at a dot.** -/
theorem decode_append_dot (text rest : List Char) : decode (text ++ '.' :: rest) = decode text ++ decode ('.' :: rest) := by
  have hscan (read : List UInt8) : scan read (text ++ '.' :: rest) = scan read text ++ decode ('.' :: rest) := by
    fun_induction scan read text with
    | case1 read => exact scan_append_first [] read ('.' :: rest)
    | case2 read a b r x y hx hy ih =>
      rw [List.cons_append, List.cons_append, List.cons_append, scan, hx, hy]
      exact ih
    | case3 read a b r hno ih =>
      rw [List.cons_append, List.cons_append, List.cons_append, scan]
      split
      · exact absurd ‹_› (hno _ _ ‹_›)
      · exact ih
    | case4 read c r hno ih =>
      by_cases hc : c = '%'
      · -- fewer than two characters stand between the `%` and the dot
        subst hc
        rcases r with _ | ⟨a, _ | ⟨b, r⟩⟩
        · exact (scan_percent_dot read rest).trans ih
        · exact (scan_percent_digit_dot read a rest).trans ih
        · exact absurd rfl (hno a b r rfl)
      · rw [List.cons_append, scan_cons_of_ne hc]
        exact ih
  exact hscan []

theorem decode_of_no_percent {text : List Char} (h : ∀ c ∈ text, c.toNat < 0x80 ∧ c ≠ '%') :
    decode text = Utf8.encode text := by
  have hsame : encode (· != '%') text = text := encode_eq_self fun c hc => ⟨(h c hc).1, bne_iff_ne.2 (h c hc).2⟩
  calc decode text
    _ = decode (encode (· != '%') text) := by rw [hsame]
    _ = Utf8.encode text := decode_encode (by decide) text

end Percent

namespace Utf8

/-- **A character of ASCII parts bytes**: in front of it is a text, too. -/
theorem exists_of_encode_eq_append {c : Char} (hc : c.toNat < 0x80) {rest : List Char} : ∀ {text : List Char}
    {bytes : List UInt8}, encode text = bytes ++ encode (c :: rest) → ∃ front, bytes = encode front ∧ text = front ++ c :: rest
  | text, [], h => ⟨[], rfl, encode_injective h⟩
  | [], b :: bytes, h => nomatch h
  | d :: text, b :: bytes, h => by
    rw [encode_cons] at h
    rcases List.append_eq_append_iff.1 h with ⟨left, hbytes, hrest⟩ | ⟨left, hchar, hrest⟩
    · obtain ⟨front, rfl, rfl⟩ := exists_of_encode_eq_append hc hrest
      exact ⟨d :: front, hbytes, rfl⟩
    · cases left with
      | nil =>
        have hrest : encode text = [] ++ encode (c :: rest) := hrest.symm
        obtain ⟨front, hfront, rfl⟩ := exists_of_encode_eq_append hc hrest
        exact ⟨d :: front, by rw [encode_cons, ← hfront, hchar, List.append_nil, List.append_nil], rfl⟩
      | cons x left =>
        -- the character of ASCII would begin inside of another
        have hx : UInt8.ofNat c.toNat = x := by
          rw [encode_cons, utf8EncodeChar_ascii hc] at hrest
          exact (List.cons_eq_cons.1 hrest).1
        have hxc : x.toNat = c.toNat := by
          rw [← hx, UInt8.toNat_ofNat']
          exact Nat.mod_eq_of_lt (by omega)
        have hd := toNat_of_mem_utf8EncodeChar (c := d) (b := x) (by rw [hchar]; simp) (by omega)
        have hlength := congrArg List.length hchar
        rw [utf8EncodeChar_ascii (by omega)] at hlength
        simp at hlength

theorem decode?_append {c : Char} (hc : c.toNat < 0x80) {rest text : List Char} {bytes : List UInt8}
    (h : decode? (bytes ++ encode (c :: rest)) = some text) :
    ∃ front, decode? bytes = some front ∧ text = front ++ c :: rest := by
  obtain ⟨front, rfl, rfl⟩ := exists_of_encode_eq_append hc (decode?_eq_some_iff.1 h)
  exact ⟨front, decode?_encode front, rfl⟩

end Utf8

/-! ## Labels in front of labels -/

namespace Direction

theorem agree_of_append {first second : List (List Char)} (h : agree (first ++ second) = true) : agree first = true := by
  simp only [agree, List.map_append, List.any_append, List.all_append, Bool.or_eq_true, Bool.not_eq_true',
    Bool.or_eq_false_iff, Bool.and_eq_true] at h ⊢
  exact h.imp And.left And.left

end Direction

namespace Label

/-- **Labels that are written already stay as they are** behind others. -/
theorem toAscii?_append {labels written texts : List (List Char)}
    (hwritten : ∀ label ∈ written, ∀ c ∈ label, c.toNat < 0x80 ∧ c.toLower = c)
    (h : toAscii? (labels ++ written) = some texts) : ∃ front, toAscii? labels = some front ∧ texts = front ++ written := by
  obtain ⟨plain, hplain, hagree, rfl⟩ := toAscii?_eq_some h
  obtain ⟨first, second, hfirst, hsecond, rfl⟩ := Traversal.mapM_append_eq_some_iff.1 hplain
  have hsame : second.map ascii = written := by
    refine Traversal.map_of_found (fun label hlabel text htext => ?_) hsecond
    have hlower : label.map Char.toLower = label :=
      (List.map_congr_left fun c hc => (hwritten label hlabel c hc).2).trans (List.map_id' _)
    rw [hlower] at htext
    refine ascii_of_text? (List.all_eq_true.2 fun c hc => ?_) htext
    exact decide_eq_true (hwritten label hlabel c hc).1
  refine ⟨first.map ascii, ?_, by rw [List.map_append, hsame]⟩
  have hguard : (guard (Direction.agree first = true) : Option Unit) = some () :=
    Traversal.guard_of (Direction.agree_of_append hagree)
  show ((labels.mapM fun label => text? (label.map Char.toLower)).bind fun texts =>
    (guard (Direction.agree texts = true) : Option Unit).bind fun _ => some (texts.map ascii)) = _
  rw [hfirst, Option.bind_some, hguard, Option.bind_some]

end Label

namespace Host

/-- The domain that a text names, its percent-encoding undone. -/
def named? (text : List Char) : Option (List Char) := (Utf8.decode? (Percent.decode text)).bind asciiDomain?

/-- Whether a text may stand in a host that is written. -/
def IsWritten (text : List Char) : Prop := ∀ c ∈ text, c.toNat < 0x80 ∧ c.toLower = c ∧ c ≠ '%'

theorem toAscii?_ne_nil {labels texts : List (List Char)} (hlabels : labels ≠ []) (h : Label.toAscii? labels = some texts) :
    texts ≠ [] := by
  obtain ⟨plain, hplain, _, rfl⟩ := Label.toAscii?_eq_some h
  cases labels with
  | nil => exact absurd rfl hlabels
  | cons label labels =>
    obtain ⟨text, texts, _, _, rfl⟩ := Traversal.mapM_cons_eq_some_iff.1 hplain
    simp

/-- **A domain in front of a text that is written** is read by itself, and the text stays. -/
theorem asciiDomain?_append {text name domain : List Char} (hname : IsWritten name)
    (h : asciiDomain? (text ++ '.' :: name) = some domain) :
    ∃ front, asciiDomain? text = some front ∧ domain = front ++ '.' :: name := by
  obtain ⟨labels, hlabels, rfl, hany⟩ := asciiDomain?_eq_some_iff.1 h
  have hdots : name.splitOnP isDot = name.splitOn '.' := by
    refine Path.splitOnP_congr fun c hc => ?_
    refine Utf8.forall_ascii (P := fun c => isDot c = (c == '.')) (by decide +kernel) (hname c hc).1
  rw [List.splitOnP_append_cons _ _ (by decide), hdots] at hlabels
  obtain ⟨front, hfront, rfl⟩ := Label.toAscii?_append (fun label hlabel c hc => by
    have hmem : c ∈ ['.'].intercalate (name.splitOn '.') := Joined.mem_intercalate_of_mem hlabel hc
    rw [List.intercalate_splitOn] at hmem
    exact ⟨(hname c hmem).1, (hname c hmem).2.1⟩) hlabels
  rw [Joined.intercalate_append (toAscii?_ne_nil (List.splitOnP_ne_nil _ _) hfront) (List.splitOn_ne_nil _ _),
    List.intercalate_splitOn, List.append_assoc, List.singleton_append] at hany ⊢
  rw [List.any_append, Bool.or_eq_false_iff] at hany
  exact ⟨_, asciiDomain?_eq_some_iff.2 ⟨front, hfront, rfl, hany.1⟩, rfl⟩

theorem named?_append {text name domain : List Char} (hname : IsWritten name)
    (h : named? (text ++ '.' :: name) = some domain) : ∃ front, named? text = some front ∧ domain = front ++ '.' :: name := by
  obtain ⟨decoded, hdecoded, hdomain⟩ := Option.bind_eq_some_iff.1 h
  have hwritten : ∀ c ∈ '.' :: name, c.toNat < 0x80 ∧ c ≠ '%' :=
    List.forall_mem_cons.2 ⟨by decide, fun c hc => ⟨(hname c hc).1, (hname c hc).2.2⟩⟩
  rw [Percent.decode_append_dot, Percent.decode_of_no_percent hwritten] at hdecoded
  obtain ⟨start, hstart, rfl⟩ := Utf8.decode?_append (by decide) hdecoded
  obtain ⟨front, hfront, rfl⟩ := asciiDomain?_append hname hdomain
  exact ⟨front, Option.bind_eq_some_iff.2 ⟨start, hstart, hfront⟩, rfl⟩

theorem named?_eq_some {text name : List Char} (h : named? text = some name) :
    IsWritten name ∧ ∀ c ∈ name, isForbiddenInDomain c = false := by
  obtain ⟨decoded, _, hdomain⟩ := Option.bind_eq_some_iff.1 h
  have hascii := of_mem_asciiDomain? hdomain
  refine ⟨fun c hc => ⟨(hascii c hc).1, lower_of_asciiDomain? hdomain c hc, ?_⟩, fun c hc => (hascii c hc).2⟩
  rintro rfl
  exact absurd (hascii _ hc).2 (by decide)

/-! ## Addresses -/

theorem isSome_of_foldlM {g : Char → Option Nat} {k : Nat → Nat → Nat} : ∀ {text : List Char} {n m : Nat},
    text.foldlM (fun n c => (g c).map (k n)) n = some m → ∀ c ∈ text, (g c).isSome = true
  | [], _, _, _, c, hc => nomatch hc
  | d :: text, n, m, h, c, hc => by
    rw [List.foldlM_cons] at h
    obtain ⟨n', hd, h⟩ := Option.bind_eq_some_iff.1 h
    obtain ⟨value, hvalue, _⟩ := Option.map_eq_some_iff.1 hd
    rcases List.mem_cons.1 hc with rfl | hc
    · exact Option.isSome_of_eq_some hvalue
    · exact isSome_of_foldlM h c hc

theorem digit_of_mem_ipv6Piece? {text : List Char} {piece : UInt16} (h : ipv6Piece? text = some piece) :
    ∀ c ∈ text, (Percent.digitValue? c).isSome = true := by
  unfold ipv6Piece? at h
  split at h
  · cases h
  · obtain ⟨value, hvalue, _⟩ := Option.map_eq_some_iff.1 h
    exact isSome_of_foldlM hvalue

/-- Whether a character may stand in the text of an IPv6 address. -/
def isInIpv6 (c : Char) : Bool := c == ':' || c == '.' || (Percent.digitValue? c).isSome

theorem isInIpv6_of_digit {c : Char} (h : (Percent.digitValue? c).isSome = true) : isInIpv6 c = true := by
  simp [isInIpv6, h]

theorem isInIpv6_of_isDigit {c : Char} (h : c.isDigit = true) : isInIpv6 c = true := by
  obtain ⟨hlt, hc⟩ := Numeral.digitChar_of_isDigit h
  rw [← hc]
  exact (by decide : ∀ d < 10, isInIpv6 (Nat.digitChar d) = true) _ hlt

theorem isInIpv6_of_dottedPieces? {text : List Char} {pieces : List UInt16} (h : dottedPieces? text = some pieces) :
    ∀ c ∈ text, isInIpv6 c = true := by
  unfold dottedPieces? at h
  split at h
  · rename_i a b c d hnumbers
    refine Joined.forall_mem_of_splitOn '.' (by decide) fun number hnumber x hx => ?_
    obtain ⟨n, hn⟩ := Traversal.exists_found_of_mem hnumbers number hnumber
    rw [(Numeral.canonical?_eq_some_iff.1 hn).2] at hx
    exact isInIpv6_of_isDigit (Numeral.isDigit_of_mem_write hx)
  · cases h

theorem isInIpv6_of_ipv6Pieces? {dotted : Bool} : ∀ {groups : List (List Char)} {pieces : List UInt16},
    ipv6Pieces? dotted groups = some pieces → ∀ group ∈ groups, ∀ c ∈ group, isInIpv6 c = true
  | [], _, _ => fun _ hgroup => nomatch hgroup
  | [last], _, h => by
    refine List.forall_mem_singleton.2 ?_
    unfold ipv6Pieces? at h
    split at h
    · rename_i piece hpiece
      exact fun c hc => isInIpv6_of_digit (digit_of_mem_ipv6Piece? hpiece c hc)
    · split at h
      · exact isInIpv6_of_dottedPieces? h
      · cases h
  | first :: second :: rest, _, h => by
    obtain ⟨piece, hpiece, h⟩ := Option.bind_eq_some_iff.1 h
    obtain ⟨pieces, hpieces, _⟩ := Option.bind_eq_some_iff.1 h
    refine List.forall_mem_cons.2 ⟨fun c hc => isInIpv6_of_digit (digit_of_mem_ipv6Piece? hpiece c hc), ?_⟩
    exact isInIpv6_of_ipv6Pieces? hpieces

theorem isInIpv6_of_groups {dotted : Bool} {text : List Char} {pieces : List UInt16}
    (h : ipv6Pieces? dotted (groups text) = some pieces) : ∀ c ∈ text, isInIpv6 c = true := by
  unfold groups at h
  split at h
  · rename_i hempty
    rw [List.isEmpty_iff.1 hempty]
    exact fun c hc => nomatch hc
  · exact Joined.forall_mem_of_splitOn ':' (by decide) (isInIpv6_of_ipv6Pieces? h)

theorem cutDoubleColon?_eq_some {text before after : List Char} (h : cutDoubleColon? text = some (before, after)) :
    text = before ++ ':' :: ':' :: after := by
  fun_induction cutDoubleColon? text generalizing before after with
  | case1 rest =>
    cases h
    rfl
  | case2 => cases h
  | case3 c rest _ ih =>
    obtain ⟨p, hp, he⟩ := Option.map_eq_some_iff.1 h
    cases he
    rw [ih hp, List.cons_append]

/-- **An IPv6 address is read of digits, dots and colons only.** -/
theorem isInIpv6_of_ipv6? {text : List Char} {address : Ipv6} (h : ipv6? text = some address) :
    ∀ c ∈ text, isInIpv6 c = true := by
  unfold ipv6? at h
  extract_lets build at h
  clear_value build
  split at h
  · obtain ⟨_, hpieces, _⟩ := Option.bind_eq_some_iff.1 h
    exact isInIpv6_of_groups hpieces
  · rename_i before after hcut
    obtain ⟨_, hbefore, h⟩ := Option.bind_eq_some_iff.1 h
    obtain ⟨_, hafter, _⟩ := Option.bind_eq_some_iff.1 h
    rw [cutDoubleColon?_eq_some hcut]
    intro c hc
    simp only [List.mem_append, List.mem_cons] at hc
    rcases hc with hc | rfl | rfl | hc
    · exact isInIpv6_of_groups hbefore c hc
    · rfl
    · rfl
    · exact isInIpv6_of_groups hafter c hc

/-! ## Hosts that are read -/

/-- **What a host is read of**: an address between brackets, or what names a domain, which is an address if it ends in a
number. -/
theorem parse_eq_ok {text : List Char} {host : Host} (h : parse text = .ok host) :
    (∃ inner address, text = '[' :: (inner ++ [']']) ∧ ipv6? inner = some address ∧ host = .ipv6 address) ∨
    ∃ name, named? text = some name ∧ name ≠ [] ∧
      ((∃ address, endsInNumber name = true ∧ ipv4? name = some address ∧ host = .ipv4 address) ∨
        endsInNumber name = false ∧ host = .domain (String.ofList name)) := by
  unfold parse at h
  split at h
  · rename_i rest
    unfold parseBracketed at h
    split at h
    · rename_i hlast
      split at h
      · rename_i address haddress
        cases h
        obtain ⟨inner, rfl⟩ := List.getLast?_eq_some_iff.1 hlast
        rw [List.dropLast_concat] at haddress
        exact .inl ⟨inner, address, rfl, haddress, rfl⟩
      · cases h
    · cases h
  · split at h
    · cases h
    · rename_i name hname
      split at h
      · cases h
      · rename_i hempty
        refine .inr ⟨name, hname, by simpa using hempty, ?_⟩
        split at h
        · rename_i hnumber
          split at h
          · rename_i address haddress
            cases h
            exact .inl ⟨address, hnumber, haddress, rfl⟩
          · cases h
        · rename_i hnumber
          cases h
          exact .inr ⟨eq_false_of_ne_true hnumber, rfl⟩

theorem labels_append (front name : List Char) : labels (front ++ '.' :: name) = front.splitOn '.' ++ labels name := by
  have hne : name.splitOn '.' ≠ [] := List.splitOn_ne_nil _ _
  simp only [labels, List.splitOn_append_cons_self, List.getLast?_append_of_ne_nil _ hne, List.dropLast_append_of_ne_nil hne]
  split <;> rfl

theorem labels_ne_nil {name : List Char} (h : name ≠ []) : labels name ≠ [] := by
  unfold labels
  dsimp only
  split
  · rename_i hlast
    intro hnil
    have hall : name.splitOn '.' = [[]] := by
      obtain ⟨init, hinit⟩ := List.getLast?_eq_some_iff.1 hlast
      rw [hinit, List.dropLast_concat] at hnil
      rw [hinit, hnil, List.nil_append]
    have hname : ['.'].intercalate (name.splitOn '.') = name := List.intercalate_splitOn '.'
    rw [hall] at hname
    exact h hname.symm
  · exact List.splitOn_ne_nil _ _

theorem endsInNumber_append (front : List Char) {name : List Char} (h : name ≠ []) :
    endsInNumber (front ++ '.' :: name) = endsInNumber name := by
  rw [endsInNumber, endsInNumber, labels_append, List.getLast?_append_of_ne_nil _ (labels_ne_nil h)]

/-! ## What stands in front of a host -/

theorem of_parse_eq_domain {text : List Char} {name : String} (h : parse text = .ok (.domain name)) :
    named? text = some name.toList ∧ name.toList ≠ [] ∧ endsInNumber name.toList = false := by
  rcases parse_eq_ok h with ⟨_, _, _, _, he⟩ | ⟨domain, hdomain, hne, ⟨_, _, _, he⟩ | ⟨hnumber, he⟩⟩
  · cases he
  · cases he
  · cases he
    rw [String.toList_ofList]
    exact ⟨hdomain, hne, hnumber⟩

theorem isWritten_of_mem_addressChars (c : Char) (h : c ∈ addressChars) : c.toNat < 0x80 ∧ c.toLower = c ∧ c ≠ '%' := by
  have hall : addressChars.all (fun c => decide (c.toNat < 0x80 ∧ c.toLower = c ∧ c ≠ '%')) = true := by decide
  exact of_decide_eq_true (List.all_eq_true.1 hall c h)

/-- **A host that is read is written** in ASCII, in lower case and with nothing encoded. -/
theorem isWritten_write {text : List Char} {host : Host} (h : parse text = .ok host) : IsWritten host.write := by
  rcases parse_eq_ok h with ⟨_, address, _, _, rfl⟩ | ⟨name, hname, _, ⟨address, _, _, rfl⟩ | ⟨_, rfl⟩⟩
  · exact forall_mem_ipv6 isWritten_of_mem_addressChars address
  · exact forall_mem_ipv4 isWritten_of_mem_addressChars address
  · rw [write, String.toList_ofList]
    exact (named?_eq_some hname).1

/-- A text with a dot in it whose host is read holds a domain in front of the dot, unless it stands in brackets. -/
theorem parse_append {text name : List Char} {host : Host} (hname : IsWritten name)
    (h : parse (text ++ '.' :: name) = .ok host) :
    (∃ inner address, text ++ '.' :: name = '[' :: (inner ++ [']']) ∧ ipv6? inner = some address) ∨
    ∃ front, named? text = some front ∧ (∀ c ∈ name, isForbiddenInDomain c = false) ∧
      ((∃ address, endsInNumber (front ++ '.' :: name) = true ∧ ipv4? (front ++ '.' :: name) = some address) ∨
        endsInNumber (front ++ '.' :: name) = false ∧ host = .domain (String.ofList (front ++ '.' :: name))) := by
  rcases parse_eq_ok h with ⟨inner, address, htext, haddress, _⟩ | ⟨whole, hwhole, _, hhost⟩
  · exact .inl ⟨inner, address, htext, haddress⟩
  · obtain ⟨front, hfront, rfl⟩ := named?_append hname hwhole
    refine .inr ⟨front, hfront, fun c hc => ?_, hhost.imp (fun ⟨address, hnumber, haddress, _⟩ => ⟨address, hnumber, haddress⟩) id⟩
    exact (named?_eq_some hwhole).2 c (List.mem_append_right _ (List.mem_cons_of_mem _ hc))

theorem getLast?_append_ne (text : List Char) {name : List Char} (hname : name ≠ []) (hbracket : ']' ∉ name) :
    (text ++ '.' :: name).getLast? ≠ some ']' := by
  rw [List.getLast?_append_of_ne_nil _ (List.cons_ne_nil _ _), List.getLast?_cons_of_ne_nil hname]
  exact fun hlast => hbracket (List.mem_of_getLast? hlast)

/-- **A name in front of a domain** is read as one, and the domain stands behind it. -/
theorem parse_append_domain {origin text : List Char} {name : String} {host : Host} (hname : parse origin = .ok (.domain name))
    (h : parse (text ++ '.' :: name.toList) = .ok host) :
    ∃ front, named? text = some front ∧ host = .domain (String.ofList (front ++ '.' :: name.toList)) := by
  obtain ⟨hdomain, hne, hnumber⟩ := of_parse_eq_domain hname
  obtain ⟨hwritten, hallowed⟩ := named?_eq_some hdomain
  have hbracket : ']' ∉ name.toList := fun hmem => absurd (hallowed _ hmem) (by decide)
  rcases parse_append hwritten h with ⟨inner, _, he, _⟩ | ⟨front, hfront, _, ⟨_, hends, _⟩ | ⟨_, hhost⟩⟩
  · refine absurd ?_ (getLast?_append_ne text hne hbracket)
    rw [he, ← List.cons_append, List.getLast?_concat]
  · rw [endsInNumber_append front hne, hnumber] at hends
    cases hends
  · exact ⟨front, hfront, hhost⟩

theorem labels_writeIpv4 (address : UInt32) : labels (writeIpv4 address)
    = [3, 2, 1, 0].map fun i => Numeral.write (address.toNat / Nat.pow 256 i % 256) := by
  have hsplit : (writeIpv4 address).splitOn '.'
      = [3, 2, 1, 0].map fun i => Numeral.write (address.toNat / Nat.pow 256 i % 256) := by
    refine List.splitOn_intercalate '.' (fun numeral hnumeral => ?_) (List.cons_ne_nil _ _)
    obtain ⟨i, _, rfl⟩ := List.mem_map.1 hnumeral
    exact Numeral.not_mem_write (by decide) _
  rw [labels, hsplit]
  exact if_neg fun he => Numeral.write_ne_nil _ (Option.some.inj he)

theorem not_mem_writeIpv4 {c : Char} (hdot : c ≠ '.') (hdigit : c.isDigit = false) (address : UInt32) :
    c ∉ writeIpv4 address := fun hmem => by
  rcases Form.mem_intercalate hmem with he | ⟨numeral, hnumeral, hmem⟩
  · exact hdot he
  · obtain ⟨i, _, rfl⟩ := List.mem_map.1 hnumeral
    exact Numeral.not_mem_write hdigit _ hmem

theorem length_labels_of_ipv4? {name : List Char} {address : UInt32} (h : ipv4? name = some address) :
    (labels name).length ≤ 4 := by
  unfold ipv4? at h
  split at h
  · cases h
  · rename_i numbers hnumbers
    dsimp only at h
    split at h
    · cases h
    · rename_i hbounds
      simp only [Bool.or_eq_true, decide_eq_true_eq, not_or, Nat.not_lt] at hbounds
      rw [← Traversal.length_of_found hnumbers]
      exact hbounds.1.1

/-- **Nothing in front of an IPv4 address** makes a host of it: there are numbers too many. -/
theorem parse_append_ipv4 (text : List Char) (address : UInt32) (host : Host) :
    parse (text ++ '.' :: write (.ipv4 address)) ≠ .ok host := by
  intro h
  have hwritten : IsWritten (write (.ipv4 address)) := forall_mem_ipv4 isWritten_of_mem_addressChars address
  have hbracket : ']' ∉ write (.ipv4 address) := not_mem_writeIpv4 (by decide) (by decide) address
  have hlabels : labels (write (.ipv4 address)) = _ := labels_writeIpv4 address
  have hne : write (.ipv4 address) ≠ [] := fun he => by
    rw [he] at hlabels
    cases hlabels
  rcases parse_append hwritten h with ⟨inner, _, he, _⟩ | ⟨front, _, _, ⟨_, _, hfour⟩ | ⟨hends, _⟩⟩
  · refine getLast?_append_ne text hne hbracket ?_
    rw [he, ← List.cons_append, List.getLast?_concat]
  · have hlength := length_labels_of_ipv4? hfour
    have hfront : 0 < (front.splitOn '.').length := List.length_pos_iff.2 (List.splitOn_ne_nil _ _)
    rw [labels_append, hlabels, List.length_append, List.length_map] at hlength
    simp only [List.length_cons, List.length_nil] at hlength
    omega
  · rw [endsInNumber_append front hne, endsInNumber, hlabels] at hends
    simp only [List.map_cons, List.map_nil, List.getLast?_cons_cons, List.getLast?_singleton] at hends
    split at hends
    · cases ‹some _ = none›
    · exact Numeral.write_ne_nil _ (Option.some.inj ‹_›)
    · cases Option.some.inj ‹_›
      rw [List.all_eq_true.2 fun c hc => Numeral.isDigit_of_mem_write hc] at hends
      cases hends

/-- **Nothing in front of an IPv6 address** makes a host of it, nor of a part of it that begins with its bracket. -/
theorem parse_append_bracket (text : List Char) {part : List Char} (hpart : IsWritten part) (host : Host) :
    parse (text ++ '.' :: '[' :: part) ≠ .ok host := by
  intro h
  rcases parse_append (List.forall_mem_cons.2 ⟨by decide, hpart⟩) h with ⟨inner, _, he, haddress⟩ | ⟨_, _, hallowed, _⟩
  · have hmem : '[' ∈ inner := by
      cases text with
      | nil => cases he
      | cons c text =>
        have hmem : '[' ∈ inner ++ [']'] := by
          rw [← (List.cons_eq_cons.1 he).2]
          simp
        simpa using hmem
    exact absurd (isInIpv6_of_ipv6? haddress _ hmem) (by decide)
  · exact absurd (hallowed _ List.mem_cons_self) (by decide)

end Host
end StorageGate
