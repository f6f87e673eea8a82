import StorageGate.Proofs.Text.Form
import StorageGate.Proofs.Traversal
import StorageGate.Url.Host
/-!
# Domains are ASCII

Whatever a domain is made of, it is written in ASCII and in lower case (`of_mem_asciiDomain?`, `lower_of_asciiDomain?`): a
label beyond ASCII as its Punycode, which holds what was ASCII in the label and the digits of its integers.  So a label of a
domain is its own form in ASCII (`ascii_of_text?`).
-/
namespace StorageGate
namespace Punycode

theorem threshold_bounds (bias k : Nat) : 1 ≤ threshold bias k ∧ threshold bias k ≤ 26 := by
  unfold threshold
  omega

section Written

variable {P : Char → Prop} (hdigit : ∀ value ∈ List.range 36, P (digit value))

include hdigit

theorem forall_mem_integer (bias k value : Nat) : ∀ c ∈ integer bias k value, P c := by
  intro c hc
  have hbounds := threshold_bounds bias k
  rw [integer] at hc
  split at hc
  · rename_i hlast
    rw [List.mem_singleton.1 hc]
    exact hdigit _ (List.mem_range.2 (by omega))
  · rename_i hlast
    have hle : (value - threshold bias k) / (36 - threshold bias k) ≤ value - threshold bias k := Nat.div_le_self _ _
    have hmod : (value - threshold bias k) % (36 - threshold bias k) < 36 - threshold bias k :=
      Nat.mod_lt _ (by omega)
    rcases List.mem_cons.1 hc with rfl | hc
    · exact hdigit _ (List.mem_range.2 (by omega))
    · exact forall_mem_integer bias (k + 36) _ c hc
termination_by value

theorem forall_mem_pass (basics code : Nat) {w : Writer} (h : ∀ c ∈ w.written, P c) (d : Char) :
    ∀ c ∈ (w.pass basics code d).written, P c := by
  unfold Writer.pass
  split
  · exact h
  · split
    · intro c hc
      rcases List.mem_append.1 hc with hc | hc
      · exact h c hc
      · exact forall_mem_integer hdigit _ _ _ c hc
    · exact h

theorem forall_mem_foldl (basics code : Nat) : ∀ (label : List Char) {w : Writer},
    (∀ c ∈ w.written, P c) → ∀ c ∈ (label.foldl (Writer.pass basics code) w).written, P c
  | [], _, h => h
  | d :: label, _, h => forall_mem_foldl basics code label (forall_mem_pass hdigit basics code h d)

theorem forall_mem_rounds (label : List Char) (basics : Nat) : ∀ (codes : List Nat) (next : Nat) {w : Writer},
    (∀ c ∈ w.written, P c) → ∀ c ∈ (rounds label basics next w codes).written, P c
  | [], _, _, h => h
  | code :: codes, _, _, h => by
    unfold rounds
    refine forall_mem_rounds label basics codes (code + 1) ?_
    exact forall_mem_foldl hdigit basics code label h

/-- **Of what Punycode holds**: a property of its digits, of the hyphen, and of what is ASCII in the label. -/
theorem forall_mem_encode (hhyphen : P '-') {label : List Char} (hbasic : ∀ c ∈ label, isBasic c = true → P c) :
    ∀ c ∈ encode label, P c := by
  intro c hc
  unfold encode at hc
  extract_lets basic codes lead at hc
  rcases List.mem_append.1 hc with hc | hc
  · have hlead : c ∈ basic ++ ['-'] := by
      by_cases hempty : basic.isEmpty
      · simp [lead, hempty] at hc
      · simpa [lead, hempty] using hc
    rcases List.mem_append.1 hlead with hc | hc
    · exact hbasic c (List.mem_filter.1 hc).1 (List.mem_filter.1 hc).2
    · rw [List.mem_singleton.1 hc]
      exact hhyphen
  · exact forall_mem_rounds hdigit label basic.length codes 128 (w := ⟨[], 0, 72, basic.length⟩)
      (fun d hd => nomatch hd) c hc

end Written

end Punycode

namespace Label

/-- **Of what a label holds in ASCII**: a property of the digits of Punycode, of the hyphen and of what is ASCII in it. -/
theorem forall_mem_ascii {P : Char → Prop} (hdigit : ∀ value ∈ List.range 36, P (Punycode.digit value)) (hhyphen : P '-')
    {text : List Char} (hbasic : ∀ c ∈ text, Punycode.isBasic c = true → P c) : ∀ c ∈ ascii text, P c := by
  intro c hc
  unfold ascii at hc
  split at hc
  · rename_i hall
    exact hbasic c hc (List.all_eq_true.1 hall c hc)
  · rcases List.mem_append.1 hc with hc | hc
    · simp only [mark, List.mem_cons, List.not_mem_nil, or_false] at hc
      rcases hc with rfl | rfl | rfl | rfl
      · exact hdigit 23 (by decide)
      · exact hdigit 13 (by decide)
      · exact hhyphen
      · exact hhyphen
    · exact Punycode.forall_mem_encode hdigit hhyphen hbasic c hc

theorem isBasic_of_mem_ascii (text : List Char) : ∀ c ∈ ascii text, Punycode.isBasic c = true :=
  forall_mem_ascii (P := fun c => Punycode.isBasic c = true) (by decide) (by decide) fun _ _ h => h

/-! ## What a label is read as -/

theorem written?_eq_some {tail text : List Char} (h : written? tail = some text) :
    text.all Punycode.isBasic = false ∧ Punycode.encode text = tail := by
  unfold written? at h
  split at h
  · cases h
  · split at h
    · rename_i hform
      cases h
      simp only [Bool.and_eq_true, Bool.not_eq_true', beq_iff_eq] at hform
      exact ⟨hform.1.1.2, hform.2⟩
    · cases h

/-- **The text of a label** is that of the label without variants, or what this stands for in Punycode; in ASCII both are
one, but for a text beyond ASCII that was not written in Punycode. -/
theorem text?_eq_some {label text : List Char} (h : text? label = some text) : ∃ plain, normalize? label = some plain ∧
    (ascii text = plain ∨ text = plain ∧ plain.all Punycode.isBasic = false) := by
  unfold text? at h
  split at h
  · cases h
  · rename_i plain hplain
    refine ⟨plain, hplain, ?_⟩
    split at h
    · rename_i hmark
      obtain ⟨hbeyond, hencode⟩ := written?_eq_some h
      obtain ⟨tail, rfl⟩ := List.isPrefixOf_iff_prefix.1 hmark
      rw [List.drop_left] at hencode
      exact .inl (by rw [ascii, if_neg (by simp [hbeyond]), hencode])
    · split at h
      · cases h
        by_cases hall : text.all Punycode.isBasic
        · exact .inl (by rw [ascii, if_pos hall])
        · exact .inr ⟨rfl, by simpa using hall⟩
      · cases h

/-- **A label of ASCII is its own form in ASCII**, if it is one at all. -/
theorem ascii_of_text? {label text : List Char} (hbasic : label.all Punycode.isBasic = true) (h : text? label = some text) :
    ascii text = label := by
  obtain ⟨plain, hplain, hform⟩ := text?_eq_some h
  rw [normalize?, if_pos hbasic] at hplain
  cases hplain
  exact hform.resolve_right fun h => by rw [hbasic] at h; cases h.2

/-- **A label is in lower case in ASCII.** -/
theorem lower_of_text? {label text : List Char} (hlower : ∀ c ∈ label, c.toLower = c) (h : text? label = some text) :
    ∀ c ∈ ascii text, c.toLower = c := by
  obtain ⟨plain, hplain, hform⟩ := text?_eq_some h
  have hlower : ∀ c ∈ plain, c.toLower = c := by
    unfold normalize? at hplain
    split at hplain
    · cases hplain
      exact hlower
    · obtain ⟨texts, _, rfl⟩ := Option.map_eq_some_iff.1 hplain
      intro c hc
      obtain ⟨d, _, rfl⟩ := List.mem_map.1 hc
      exact toLower_toLower d
  rcases hform with hform | ⟨rfl, _⟩
  · rw [hform]
    exact hlower
  · exact forall_mem_ascii (P := fun c => c.toLower = c) (by decide) (by decide) fun c hc _ => hlower c hc

theorem toAscii?_eq_some {labels texts : List (List Char)} (h : toAscii? labels = some texts) :
    ∃ plain, labels.mapM (fun label => text? (label.map Char.toLower)) = some plain ∧ Direction.agree plain = true ∧
      texts = plain.map ascii := by
  obtain ⟨plain, hplain, h⟩ := Option.bind_eq_some_iff.1 h
  obtain ⟨_, hagree, h⟩ := Option.bind_eq_some_iff.1 h
  cases h
  exact ⟨plain, hplain, Traversal.of_guard hagree, rfl⟩

end Label

namespace Host

theorem asciiDomain?_eq_some_iff {text name : List Char} : asciiDomain? text = some name ↔
    ∃ labels, Label.toAscii? (text.splitOnP isDot) = some labels ∧ name = ['.'].intercalate labels ∧
      name.any isForbiddenInDomain = false := by
  unfold asciiDomain?
  cases Label.toAscii? (text.splitOnP isDot) with
  | none => simp
  | some labels =>
    by_cases hany : (['.'].intercalate labels).any isForbiddenInDomain = true
    · simp only [Option.bind_eq_bind, Option.bind_some, if_pos hany]
      constructor
      · intro h
        cases h
      · rintro ⟨_, h, rfl, hnone⟩
        cases h
        rw [hany] at hnone
        cases hnone
    · simp only [Option.bind_eq_bind, Option.bind_some, if_neg hany, Option.some.injEq]
      constructor
      · rintro rfl
        exact ⟨labels, rfl, rfl, eq_false_of_ne_true hany⟩
      · rintro ⟨_, rfl, rfl, _⟩
        rfl

/-- **A domain is ASCII**, and holds nothing that no domain holds. -/
theorem of_mem_asciiDomain? {text name : List Char} (h : asciiDomain? text = some name) :
    ∀ c ∈ name, c.toNat < 0x80 ∧ isForbiddenInDomain c = false := by
  obtain ⟨labels, hlabels, rfl, hany⟩ := asciiDomain?_eq_some_iff.1 h
  obtain ⟨plain, _, _, rfl⟩ := Label.toAscii?_eq_some hlabels
  refine fun c hc => ⟨?_, eq_false_of_ne_true (List.any_eq_false.1 hany c hc)⟩
  rcases Form.mem_intercalate hc with rfl | ⟨label, hlabel, hc⟩
  · decide
  · obtain ⟨text, _, rfl⟩ := List.mem_map.1 hlabel
    exact of_decide_eq_true (Label.isBasic_of_mem_ascii text c hc)

/-- **A domain is in lower case.** -/
theorem lower_of_asciiDomain? {text name : List Char} (h : asciiDomain? text = some name) :
    ∀ c ∈ name, c.toLower = c := by
  obtain ⟨labels, hlabels, rfl, _⟩ := asciiDomain?_eq_some_iff.1 h
  obtain ⟨plain, hplain, _, rfl⟩ := Label.toAscii?_eq_some hlabels
  intro c hc
  rcases Form.mem_intercalate hc with rfl | ⟨label, hlabel, hc⟩
  · decide
  · obtain ⟨text, htext, rfl⟩ := List.mem_map.1 hlabel
    obtain ⟨raw, _, hraw⟩ := Traversal.exists_of_mem_found hplain htext
    refine Label.lower_of_text? (fun d hd => ?_) hraw c hc
    obtain ⟨d', _, rfl⟩ := List.mem_map.1 hd
    exact toLower_toLower d'

end Host
end StorageGate
