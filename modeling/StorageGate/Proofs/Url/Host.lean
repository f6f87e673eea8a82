import StorageGate.Proofs.Text.Numeral
import StorageGate.Proofs.Url.Domain
import StorageGate.Url.Basic
/-!
# Hosts as they are written

No host that is read holds a character that is forbidden in hosts of every kind (`not_mem_of_isRead`): a domain is refused for
it, and an address is written in digits, dots, colons and brackets.  So none holds a character that would end the authority
of a URL.  Nor does any hold white space (`isBlank_of_isRead`), since all are written in ASCII.
-/
namespace StorageGate
namespace Host

/-- Whether a character ends an authority, in every scheme. -/
def isEnd (c : Char) : Bool := c == '/' || c == '?' || c == '#'

/-- Whether a host holds nothing that ends an authority. -/
def IsPlain (host : Host) : Prop := ∀ c ∈ host.write, isEnd c = false

/-! ## Addresses -/

theorem forall_mem_toDigits {P : Char → Prop} {base : Nat} (hbase : 1 < base)
    (h : ∀ d ∈ List.range base, P d.digitChar) (n : Nat) : ∀ c ∈ Nat.toDigits base n, P c := by
  intro c hc
  by_cases hn : n < base
  · rw [Nat.toDigits_of_lt_base hn, List.mem_singleton] at hc
    rw [hc]
    exact h n (List.mem_range.2 hn)
  · have hlt : n / base < n := Nat.div_lt_self (by omega) hbase
    rw [Nat.toDigits_of_base_le hbase (by omega)] at hc
    rcases List.mem_append.1 hc with hc | hc
    · exact forall_mem_toDigits hbase h (n / base) c hc
    · rw [List.mem_singleton.1 hc]
      exact h _ (List.mem_range.2 (Nat.mod_lt n (by omega)))
termination_by n

/-- The characters of addresses. -/
def addressChars : List Char := "0123456789abcdef.:[]".toList

section Addresses

variable {P : Char → Prop} (hP : ∀ c ∈ addressChars, P c)

include hP

theorem forall_mem_digits {base : Nat} (hbase : base = 10 ∨ base = 16) (n : Nat) : ∀ c ∈ Nat.toDigits base n, P c := by
  have hdigit : ∀ d ∈ List.range 16, d.digitChar ∈ addressChars := by decide
  refine forall_mem_toDigits (by omega) (fun d hd => hP _ (hdigit d ?_)) n
  rw [List.mem_range] at hd ⊢
  omega

theorem forall_mem_ipv4 (address : UInt32) : ∀ c ∈ write (.ipv4 address), P c := by
  intro c hc
  rcases Form.mem_intercalate hc with rfl | ⟨l, hl, hc⟩
  · exact hP _ (by decide)
  · obtain ⟨i, _, rfl⟩ := List.mem_map.1 hl
    exact forall_mem_digits hP (.inl rfl) _ c hc

theorem forall_mem_writePieces {pieces : List UInt16} : ∀ c ∈ writePieces pieces, P c := by
  intro c hc
  rcases Form.mem_intercalate hc with rfl | ⟨l, hl, hc⟩
  · exact hP _ (by decide)
  · obtain ⟨p, _, rfl⟩ := List.mem_map.1 hl
    exact forall_mem_digits hP (.inr rfl) _ c hc

theorem forall_mem_ipv6 (address : Ipv6) : ∀ c ∈ write (.ipv6 address), P c := by
  have hwrite : ∀ c ∈ writeIpv6 address, P c := by
    unfold writeIpv6
    split
    · exact forall_mem_writePieces hP
    · intro c hc
      rcases List.mem_append.1 hc with hc | hc
      · exact forall_mem_writePieces hP c hc
      · simp only [List.mem_cons] at hc
        rcases hc with rfl | rfl | hc
        · exact hP _ (by decide)
        · exact hP _ (by decide)
        · exact forall_mem_writePieces hP c hc
  intro c hc
  simp only [write, List.mem_append, List.mem_cons, List.not_mem_nil, or_false] at hc
  rcases hc with (rfl | hc) | rfl
  · exact hP _ (by decide)
  · exact hwrite c hc
  · exact hP _ (by decide)

/-! ## Reading -/

theorem forall_mem_of_parseBracketed {rest : List Char} {host : Host} (h : parseBracketed rest = .ok host) :
    ∀ c ∈ host.write, P c := by
  unfold parseBracketed at h
  split at h
  · split at h
    · cases h
      exact forall_mem_ipv6 hP _
    · cases h
  · cases h

/-- **Of what a host of a web scheme holds**: a property of all of ASCII that is not forbidden in a domain. -/
theorem forall_mem_of_parse (hdomain : ∀ c, c.toNat < 0x80 → isForbiddenInDomain c = false → P c) {text : List Char}
    {host : Host} (h : parse text = .ok host) : ∀ c ∈ host.write, P c := by
  unfold parse at h
  split at h
  · exact forall_mem_of_parseBracketed hP h
  · split at h
    · cases h
    · rename_i name hname
      split at h
      · cases h
      · split at h
        · split at h
          · cases h
            exact forall_mem_ipv4 hP _
          · cases h
        · cases h
          obtain ⟨bytes, _, hname⟩ := Option.bind_eq_some_iff.1 hname
          intro c hc
          rw [write, String.toList_ofList] at hc
          obtain ⟨hascii, hallowed⟩ := of_mem_asciiDomain? hname c hc
          exact hdomain c hascii hallowed

/-- **Of what any other host holds**: a property of all of ASCII from the space on that is not forbidden in it. -/
theorem forall_mem_of_parseVerbatim
    (hother : ∀ c, c.toNat < 0x80 → 0x20 ≤ c.toNat ∧ isForbidden c = false → P c) {text : List Char} {host : Host}
    (h : parseVerbatim text = .ok host) : ∀ c ∈ host.write, P c := by
  have hdigit : ∀ n ∈ List.range 16, (Percent.upperDigit n).toNat < 0x80 ∧ 0x20 ≤ (Percent.upperDigit n).toNat ∧
      isForbidden (Percent.upperDigit n) = false := by decide
  unfold parseVerbatim at h
  split at h
  · cases h
    exact fun c hc => nomatch hc
  · exact forall_mem_of_parseBracketed hP h
  · split at h
    · cases h
    · rename_i hforbidden
      cases h
      intro c hc
      rw [write, String.toList_ofList] at hc
      refine Percent.forall_mem_encode (P := P) (fun d hd hkeep hascii => hother d hascii ⟨?_, ?_⟩)
        (hother _ (by decide) (by decide)) (fun n hn => hother _ (hdigit n hn).1 (hdigit n hn).2) c hc
      · simp only [Bool.and_eq_true, decide_eq_true_eq] at hkeep
        exact hkeep.1
      · exact eq_false_of_ne_true (List.any_eq_false.1 (eq_false_of_ne_true hforbidden) d hd)

end Addresses

/-- Whether a host is one that is read in a URL, or none. -/
def IsRead (host : Host) : Prop := host = .empty ∨ (∃ text, parse text = .ok host) ∨ ∃ text, parseVerbatim text = .ok host

/-- Whether a host is one that is read in a URL of a scheme, or none. -/
def IsReadIn (scheme : String) (host : Host) : Prop :=
  host = .empty ∨ ∃ text, (if Url.isWebScheme scheme then parse text else parseVerbatim text) = .ok host

theorem isReadIn_of_parse {scheme : String} (hweb : Url.isWebScheme scheme = true) {text : List Char} {host : Host}
    (h : parse text = .ok host) : IsReadIn scheme host :=
  .inr ⟨text, (if_pos hweb).trans h⟩

theorem isReadIn_of_parseVerbatim {scheme : String} (hweb : ¬Url.isWebScheme scheme = true) {text : List Char} {host : Host}
    (h : parseVerbatim text = .ok host) : IsReadIn scheme host :=
  .inr ⟨text, (if_neg hweb).trans h⟩

theorem isRead_of_isReadIn {scheme : String} {host : Host} (h : IsReadIn scheme host) : IsRead host := by
  rcases h with rfl | ⟨text, h⟩
  · exact .inl rfl
  · split at h
    · exact .inr (.inl ⟨text, h⟩)
    · exact .inr (.inr ⟨text, h⟩)

theorem isReadIn_ite {scheme : String} {host : Host} (h : IsReadIn scheme host) {c : Prop} [Decidable c] :
    IsReadIn scheme (if c then .empty else host) := by
  split
  · exact .inl rfl
  · exact h

/-- What is forbidden in a domain and in every other host, and stands in no address, stands in no host that is read. -/
theorem not_mem_of_isRead {host : Host} (h : IsRead host) {d : Char} (hdomain : isForbiddenInDomain d = true)
    (hother : isForbidden d = true) (haddress : d ∉ addressChars) : d ∉ host.write := by
  have hP : ∀ c ∈ addressChars, c ≠ d := fun c hc he => haddress (he ▸ hc)
  have hne {forbidden : Char → Bool} (hd : forbidden d = true) (c : Char) (hc : forbidden c = false) : c ≠ d :=
    fun he => by rw [he, hd] at hc; cases hc
  rcases h with rfl | ⟨text, h⟩ | ⟨text, h⟩
  · exact List.not_mem_nil
  · exact fun hd => forall_mem_of_parse hP (fun c _ => hne hdomain c) h d hd rfl
  · exact fun hd => forall_mem_of_parseVerbatim hP (fun c _ hc => hne hother c hc.2) h d hd rfl

/-- **No host that is read holds white space.** -/
theorem isBlank_of_isRead {host : Host} (h : IsRead host) : ∀ c ∈ host.write, isBlank c = false := by
  have haddress : addressChars.all (fun c => !isBlank c) = true := by decide
  have hP : ∀ c ∈ addressChars, isBlank c = false := fun c hc => by simpa using List.all_eq_true.1 haddress c hc
  have hdomain : ∀ c, c.toNat < 0x80 → isForbiddenInDomain c = false → isBlank c = false := fun c hc =>
    Utf8.forall_ascii (P := fun c => isForbiddenInDomain c = false → isBlank c = false) (by decide +kernel) hc
  have hother : ∀ c, c.toNat < 0x80 → 0x20 ≤ c.toNat ∧ isForbidden c = false → isBlank c = false := fun c hc =>
    Utf8.forall_ascii (P := fun c => 0x20 ≤ c.toNat ∧ isForbidden c = false → isBlank c = false) (by decide +kernel) hc
  rcases h with rfl | ⟨text, h⟩ | ⟨text, h⟩
  · exact fun c hc => nomatch hc
  · exact forall_mem_of_parse hP hdomain h
  · exact forall_mem_of_parseVerbatim hP hother h

/-- **A host that is read is plain.** -/
theorem isPlain_of_isRead {host : Host} (h : IsRead host) : IsPlain host := by
  intro c hc
  cases hend : isEnd c with
  | false => rfl
  | true =>
    simp only [isEnd, Bool.or_eq_true, beq_iff_eq] at hend
    rcases hend with (rfl | rfl) | rfl
    all_goals exact absurd hc (not_mem_of_isRead h (by decide) (by decide) (by decide))

end Host
end StorageGate
