import StorageGate.Document
import StorageGate.Proofs.Text.Percent
/-!
# Form encoding and back

A document is read from its own text (`parse_text`).  A name or a value is read back after the plus signs are made spaces
again (`decode_encode`).  What it is written with is known byte by byte (`forall_mem_encode`) and is no delimiter, so the pieces
are found again at `&` and cut again at `=`; and none of it is white space, so nothing is trimmed from the whole
(`text_lossless`).
-/
namespace StorageGate
namespace Form

/-! ## A name or a value -/

/-- The spaces that plus signs stand for. -/
def unplus (c : Char) : Char := if c = '+' then ' ' else c

theorem unplus_of_ne {c : Char} (h : c ≠ '+') : unplus c = c := if_neg h

theorem encodeByte_no_plus (b : UInt8) : ∀ c ∈ Percent.encodeByte isKept b, c ≠ '+' :=
  Percent.forall_mem_encodeByte (P := fun c => c ≠ '+') (fun _ hc he => by rw [he] at hc; exact absurd hc (by decide))
    (by decide) (by decide)

theorem map_unplus_of_no_plus {text : List Char} (h : ∀ c ∈ text, c ≠ '+') : text.map unplus = text :=
  (List.map_congr_left fun c hc => unplus_of_ne (h c hc)).trans (List.map_id' _)

theorem map_unplus_encodeByte (b : UInt8) :
    (Percent.encodeByte isKept b).map unplus = Percent.encodeByte isKept b :=
  map_unplus_of_no_plus (encodeByte_no_plus b)

theorem scan_map_encodeByte (b : UInt8) (read : List UInt8) (r : List Char) :
    Percent.scan read ((encodeByte b).map unplus ++ r) = Percent.scan (b :: read) r := by
  unfold encodeByte
  split
  · rename_i h
    rw [h]
    exact Percent.scan_cons_of_ne (by decide) read r
  · rw [map_unplus_encodeByte, Percent.scan_encodeByte (by decide)]

theorem scan_map_flatMap : ∀ (bytes read : List UInt8),
    Percent.scan read ((bytes.flatMap encodeByte).map unplus) = read.reverse ++ bytes
  | [], read => by simp [Percent.scan]
  | b :: bytes, read => by
    rw [List.flatMap_cons, List.map_append, scan_map_encodeByte, scan_map_flatMap bytes]
    simp

/-- **A name or a value is read back.** -/
@[simp] theorem decode_encode (text : List Char) : decode (encode text) = text := by
  show Utf8.decodeLossy (Percent.scan [] ((encode text).map unplus)) = text
  rw [encode, scan_map_flatMap, List.reverse_nil, List.nil_append, Utf8.decodeLossy_encode]

/-- A percent-encoded text is read back too, if plus signs are escaped in it. -/
theorem decode_percentEncode {keep : Char → Bool} (hpercent : keep '%' = false) (hplus : keep '+' = false)
    (text : List Char) : decode (Percent.encode keep text) = text := by
  have hno : ∀ c ∈ Percent.encode keep text, c ≠ '+' :=
    Percent.forall_mem_encode (P := fun c => c ≠ '+') (fun c _ hc _ he => by rw [he, hplus] at hc; cases hc) (by decide)
      (by decide)
  show Utf8.decodeLossy (Percent.decode ((Percent.encode keep text).map unplus)) = text
  rw [map_unplus_of_no_plus hno, Percent.decode_encode hpercent, Utf8.decodeLossy_encode]

/-- **Of what a name or a value is written with**: what is kept, `+`, and escapes. -/
theorem forall_mem_encode {P : Char → Prop}
    (hkept : ∀ n ∈ List.range 0x80, isKept (Char.ofNat n) = true → P (Char.ofNat n)) (hplus : P '+') (hpercent : P '%')
    (hdigit : ∀ n ∈ List.range 16, P (Percent.upperDigit n)) (text : List Char) : ∀ c ∈ encode text, P c := by
  intro c hc
  obtain ⟨b, _, hb⟩ := List.mem_flatMap.1 hc
  unfold encodeByte at hb
  split at hb
  · rw [List.mem_singleton.1 hb]
    exact hplus
  · exact Percent.forall_mem_encodeByte (fun hlt hk => hkept b.toNat (List.mem_range.2 hlt) hk) hpercent hdigit c hb

theorem encode_no_delimiter (text : List Char) : ∀ c ∈ encode text, c ≠ '&' ∧ c ≠ '=' :=
  forall_mem_encode (P := fun c => c ≠ '&' ∧ c ≠ '=') (by decide +kernel) (by decide) (by decide) (by decide) text

/-! ## The pieces

A piece is read back from any encoding that is read back itself and holds neither `&` nor `=`. -/

section Pieces

variable {enc : List Char → List Char} (hread : ∀ text, decode (enc text) = text)
  (hclean : ∀ text, ∀ c ∈ enc text, c ≠ '&' ∧ c ≠ '=')

/-- The piece of a pair. -/
def piece (enc : List Char → List Char) (p : List Char × List Char) : List Char := enc p.1 ++ '=' :: enc p.2

theorem piece_ne_nil (p : List Char × List Char) : piece enc p ≠ [] := by
  simp [piece]

theorem mem_piece {p : List Char × List Char} {c : Char} (h : c ∈ piece enc p) :
    c ∈ enc p.1 ∨ c = '=' ∨ c ∈ enc p.2 := by
  rcases List.mem_append.1 h with h | h
  · exact .inl h
  · exact .inr (List.mem_cons.1 h)

include hclean

theorem piece_no_ampersand (p : List Char × List Char) : '&' ∉ piece enc p := fun h => by
  rcases mem_piece h with h | h | h
  · exact (hclean _ _ h).1 rfl
  · exact absurd h (by decide)
  · exact (hclean _ _ h).1 rfl

/-- **A piece is cut into what was joined.** -/
theorem cut_piece (p : List Char × List Char) : cut (piece enc p) = (enc p.1, enc p.2) := by
  have hne : ∀ c ∈ enc p.1, (c != '=') = true := fun c hc => bne_iff_ne.2 (hclean _ c hc).2
  have htake : (piece enc p).takeWhile (· != '=') = enc p.1 := by
    rw [piece, List.takeWhile_append_of_pos hne]
    simp
  have hdrop : (piece enc p).dropWhile (· != '=') = '=' :: enc p.2 := by
    rw [piece, List.dropWhile_append_of_pos hne]
    simp
  rw [cut, htake, hdrop]
  rfl

/-- Joined pieces are split again. -/
theorem splitOn_pieces {pairs : List (List Char × List Char)} (h : pairs ≠ []) :
    (['&'].intercalate (pairs.map (piece enc))).splitOn '&' = pairs.map (piece enc) := by
  refine List.splitOn_intercalate '&' (fun l hl => ?_) (by simpa using h)
  obtain ⟨q, _, rfl⟩ := List.mem_map.1 hl
  exact piece_no_ampersand hclean q

include hread

/-- **The pairs are read from their pieces.** -/
theorem parse_pieces (pairs : List (List Char × List Char)) :
    parse (['&'].intercalate (pairs.map (piece enc))) = pairs := by
  cases pairs with
  | nil => rfl
  | cons p pairs =>
    have hkept : ((p :: pairs).map (piece enc)).filter (· != []) = (p :: pairs).map (piece enc) := by
      refine List.filter_eq_self.2 fun l hl => ?_
      obtain ⟨q, _, rfl⟩ := List.mem_map.1 hl
      simpa using piece_ne_nil q
    rw [parse, splitOn_pieces hclean (List.cons_ne_nil p pairs), hkept, List.map_map]
    refine (List.map_congr_left fun q _ => ?_).trans (List.map_id' _)
    simp only [Function.comp_apply, cut_piece hclean, hread]

end Pieces

/-! ## A list of pairs -/

/-- **The pairs are read from their text.** -/
theorem parse_write (pairs : List (List Char × List Char)) : parse (write pairs) = pairs :=
  parse_pieces decode_encode encode_no_delimiter pairs

theorem mem_intercalate {sep : Char} {c : Char} : ∀ {ls : List (List Char)},
    c ∈ [sep].intercalate ls → c = sep ∨ ∃ l ∈ ls, c ∈ l
  | [], h => by simp at h
  | [l], h => .inr ⟨l, by simp, by simpa using h⟩
  | l :: l' :: ls, h => by
    rw [List.intercalate_cons_cons] at h
    simp only [List.mem_append, List.mem_singleton] at h
    rcases h with (h | h) | h
    · exact .inr ⟨l, List.mem_cons_self, h⟩
    · exact .inl h
    · rcases mem_intercalate h with h | ⟨m, hm, hc⟩
      · exact .inl h
      · exact .inr ⟨m, List.mem_cons_of_mem _ hm, hc⟩

/-- **Of what a text is written with**: what names and values are, `&` and `=`. -/
theorem forall_mem_write {P : Char → Prop} (hencode : ∀ text, ∀ c ∈ encode text, P c) (hand : P '&') (hequal : P '=')
    (pairs : List (List Char × List Char)) : ∀ c ∈ write pairs, P c := by
  intro c hc
  obtain rfl | ⟨l, hl, hc⟩ : c = '&' ∨ ∃ l ∈ pairs.map (piece encode), c ∈ l := mem_intercalate hc
  · exact hand
  · obtain ⟨q, _, rfl⟩ := List.mem_map.1 hl
    rcases mem_piece hc with h | rfl | h
    · exact hencode _ c h
    · exact hequal
    · exact hencode _ c h

theorem write_no_blank (pairs : List (List Char × List Char)) : ∀ c ∈ write pairs, isBlank c = false :=
  forall_mem_write (P := fun c => isBlank c = false)
    (forall_mem_encode (by decide +kernel) (by decide) (by decide) (by decide)) (by decide) (by decide) pairs

end Form

theorem trimBlank_eq_self {text : List Char} (h : ∀ c ∈ text, isBlank c = false) : trimBlank text = text := by
  have hdrop : ∀ l : List Char, (∀ c ∈ l, isBlank c = false) → l.dropWhile isBlank = l := by
    intro l hl
    cases l with
    | nil => rfl
    | cons c l => rw [List.dropWhile_cons_of_neg (by rw [hl c List.mem_cons_self]; decide)]
  rw [trimBlank, trimBy, hdrop text h, hdrop text.reverse fun c hc => h c (List.mem_reverse.1 hc), List.reverse_reverse]

namespace Document

/-- **A document is read from its own text.** -/
theorem parse_text (d : Document) : parse d.text = d := by
  have hchars : d.text.toList = Form.write (d.pairs.map fun p => (p.1.toList, p.2.toList)) := String.toList_ofList
  rw [parse, hchars, trimBlank_eq_self (Form.write_no_blank _), Form.parse_write, List.map_map]
  have hid : ((fun p : List Char × List Char => (String.ofList p.1, String.ofList p.2)) ∘
      fun p : String × String => (p.1.toList, p.2.toList)) = id := by
    funext p
    simp [String.ofList_toList]
  rw [hid, List.map_id]

/-- **The text of a document loses nothing.**  Whatever names and values the pairs have, and however often, they are read again
in their order; and the text has characters of ASCII only, none of which is trimmed. -/
theorem text_lossless (pairs : List (String × String)) :
    (parse (text { pairs })).pairs = pairs ∧
    (∀ c ∈ (text { pairs }).toList, c.isAlphanum = true ∨ c ∈ "*-._+%=&".toList) ∧
    trimBlank (text { pairs }).toList = (text { pairs }).toList := by
  have hchars : (text { pairs }).toList = Form.write (pairs.map fun p => (p.1.toList, p.2.toList)) := String.toList_ofList
  rw [parse_text, hchars]
  refine ⟨rfl, ?_, trimBlank_eq_self (Form.write_no_blank _)⟩
  exact Form.forall_mem_write (P := fun c => c.isAlphanum = true ∨ c ∈ "*-._+%=&".toList)
    (Form.forall_mem_encode (by decide +kernel) (by decide) (by decide) (by decide)) (by decide) (by decide) _

example : text { pairs := [("", ""), ("é +", "&="), ("", "")] } = "=&%C3%A9+%2B=%26%3D&=" := by decide +kernel

end Document
end StorageGate
