import Mathlib.Data.List.Pairwise
import StorageGate.Proofs.Storage.Presigned
import StorageGate.Proofs.Text.EncodedOrder
/-!
# The order of a signed query

A signature asks for parameters in the order of their encoded names and values.  They are put in order before they are encoded,
and encoding does not keep that order.  What is signed is in the order that is asked for exactly if no parameter overtakes
another (`query_in_order_iff`): where two names first differ, or two values under one name, the smaller character is plain and
the other is escaped.  Plain and distinct names are never overtaken, whatever the values are (`paramOvertaken_of_plain`); so
listings are signed in order (`paramOvertaken_list`).
-/
namespace StorageGate

/-- The parameters of a query as they are encoded. -/
def encodedPairs (query : List Char) : List (String × String) :=
  (query.splitOn '&').map fun piece => (String.ofList (Form.cut piece).1, String.ofList (Form.cut piece).2)

/-- As encoded, the second text comes before the first, though it comes after it as given. -/
def textOvertaken (a b : String) : Bool := Percent.isOvertaken Percent.isUnreserved a.toList b.toList

def paramOvertaken (a b : String × String) : Bool := textOvertaken a.1 b.1 || a.1 == b.1 && textOvertaken a.2 b.2

/-! ## Two texts -/

theorem percent_lt_of_isUnreserved {c : Char} (hc : Percent.isUnreserved c = true) : c.toNat < 0x80 ∧ '%' < c := by
  have hascii := CanonicalRequest.isAscii_of_isUnreserved hc
  refine ⟨hascii, ?_⟩
  exact Utf8.forall_ascii (P := fun c => Percent.isUnreserved c = true → '%' < c) (by decide +kernel) hascii hc

section Texts

variable {a b : String}

theorem encoded_lt (h : a < b) (hover : textOvertaken a b = false) :
    String.ofList (CanonicalRequest.encode a) < String.ofList (CanonicalRequest.encode b) := by
  rw [String.lt_iff, String.toList_ofList, String.toList_ofList]
  exact Percent.encode_lt_encode (fun _ => percent_lt_of_isUnreserved) (String.lt_iff.1 h) hover

theorem encoded_lt_of_overtaken (h : textOvertaken a b = true) :
    String.ofList (CanonicalRequest.encode b) < String.ofList (CanonicalRequest.encode a) := by
  rw [String.lt_iff, String.toList_ofList, String.toList_ofList]
  exact Percent.encode_lt_of_isOvertaken (fun _ => percent_lt_of_isUnreserved) h

theorem lt_of_overtaken (h : textOvertaken a b = true) : a < b :=
  String.lt_iff.2 (Percent.lt_of_isOvertaken h)

theorem encode_eq_iff : CanonicalRequest.encode a = CanonicalRequest.encode b ↔ a = b := by
  refine ⟨fun h => ?_, fun h => h ▸ rfl⟩
  have hdecode (text : String) : Percent.decode (CanonicalRequest.encode text) = Utf8.encode text.toList :=
    Percent.decode_encode (by decide) text.toList
  exact String.toList_injective (Utf8.encode_injective (by rw [← hdecode, h, hdecode]))

end Texts

/-! ## Two parameters -/

section Params

variable {a b : String × String}

theorem paramLe_iff : paramLe a b = true ↔ a.1 < b.1 ∨ a.1 = b.1 ∧ a.2 ≤ b.2 := by
  simp only [paramLe, Bool.or_eq_true, Bool.and_eq_true, beq_iff_eq, Bool.not_eq_true', decide_eq_true_iff,
    decide_eq_false_iff_not, String.not_lt]

theorem paramLe_total (a b : String × String) : (paramLe a b || paramLe b a) = true := by
  rw [Bool.or_eq_true, paramLe_iff, paramLe_iff]
  by_cases hlt : a.1 < b.1
  · exact .inl (.inl hlt)
  · by_cases hgt : b.1 < a.1
    · exact .inr (.inl hgt)
    · have heq : a.1 = b.1 := String.le_antisymm (String.not_lt.1 hgt) (String.not_lt.1 hlt)
      rcases String.le_total a.2 b.2 with hle | hle
      · exact .inl (.inr ⟨heq, hle⟩)
      · exact .inr (.inr ⟨heq.symm, hle⟩)

theorem paramLe_trans (a b c : String × String) (hab : paramLe a b = true) (hbc : paramLe b c = true) :
    paramLe a c = true := by
  rw [paramLe_iff] at hab hbc ⊢
  rcases hab with hab | ⟨hab, hab'⟩
  · rcases hbc with hbc | ⟨hbc, -⟩
    · exact .inl (String.lt_trans hab hbc)
    · exact .inl (hbc ▸ hab)
  · rw [hab]
    exact hbc.imp_right fun ⟨hbc, hbc'⟩ => ⟨hbc, String.le_trans hab' hbc'⟩

theorem encodedLe_iff : encodedLe a b = true ↔ (encodedParam a).1 < (encodedParam b).1 ∨
    a.1 = b.1 ∧ (encodedParam a).2 ≤ (encodedParam b).2 := by
  rw [encodedLe, paramLe_iff]
  simp only [encodedParam, String.ofList_inj, encode_eq_iff]

theorem encodedLe_of_paramLe (h : paramLe a b = true) (hover : paramOvertaken a b = false) : encodedLe a b = true := by
  rw [paramOvertaken, Bool.or_eq_false_iff] at hover
  rw [encodedLe_iff]
  rcases paramLe_iff.1 h with hlt | ⟨heq, hle⟩
  · exact .inl (encoded_lt hlt hover.1)
  · have hvalue : textOvertaken a.2 b.2 = false := by simpa [heq] using hover.2
    refine .inr ⟨heq, ?_⟩
    by_cases hlt : a.2 < b.2
    · exact String.not_lt.1 (String.lt_asymm (encoded_lt hlt hvalue))
    · have hsame : a.2 = b.2 := String.le_antisymm hle (String.not_lt.1 hlt)
      have hencoded : (encodedParam a).2 = (encodedParam b).2 := by rw [encodedParam, encodedParam, hsame]
      exact hencoded ▸ String.le_refl _

theorem not_encodedLe_of_overtaken (h : paramOvertaken a b = true) : encodedLe a b ≠ true := by
  rw [Ne, encodedLe_iff]
  rw [paramOvertaken, Bool.or_eq_true, Bool.and_eq_true, beq_iff_eq] at h
  rcases h with h | ⟨heq, h⟩
  · rintro (hlt | ⟨heq, -⟩)
    · exact String.lt_asymm (encoded_lt_of_overtaken h) hlt
    · exact String.lt_irrefl _ (heq ▸ lt_of_overtaken h)
  · rintro (hlt | ⟨-, hle⟩)
    · rw [encodedParam, encodedParam, heq] at hlt
      exact String.lt_irrefl _ hlt
    · exact String.not_lt.2 hle (encoded_lt_of_overtaken h)

theorem not_paramLe_of_overtaken (h : paramOvertaken a b = true) : paramLe b a ≠ true := by
  rw [Ne, paramLe_iff]
  rw [paramOvertaken, Bool.or_eq_true, Bool.and_eq_true, beq_iff_eq] at h
  rcases h with h | ⟨heq, h⟩
  · rintro (hlt | ⟨heq, -⟩)
    · exact String.lt_asymm (lt_of_overtaken h) hlt
    · exact String.lt_irrefl _ (heq ▸ lt_of_overtaken h)
  · rintro (hlt | ⟨-, hle⟩)
    · exact String.lt_irrefl _ (heq ▸ hlt)
    · exact String.not_lt.2 hle (lt_of_overtaken h)

end Params

/-! ## Parameters put in order -/

/-- **Parameters put in order as given are in order as encoded** exactly if none is overtaken by another. -/
theorem pairwise_encodedLe_iff {params : List (String × String)} : (params.mergeSort paramLe).Pairwise (encodedLe · ·) ↔
    ∀ a ∈ params, ∀ b ∈ params, paramOvertaken a b = false := by
  have hmem {p : String × String} : p ∈ params.mergeSort paramLe ↔ p ∈ params := (List.mergeSort_perm _ _).mem_iff
  have hsorted := List.pairwise_mergeSort paramLe_trans paramLe_total params
  constructor
  · intro hencoded a ha b hb
    by_contra hover
    have hover : paramOvertaken a b = true := by simpa using hover
    have hne : a ≠ b := by
      rintro rfl
      exact not_paramLe_of_overtaken hover (by simpa using paramLe_total a a)
    -- One of the two stands before the other, in an order that is both.
    let ordered (x y : String × String) : Prop := paramLe x y = true ∧ encodedLe x y = true
    have : Std.Symm fun x y => ordered x y ∨ ordered y x := ⟨fun _ _ => Or.symm⟩
    have hboth : (params.mergeSort paramLe).Pairwise fun x y => ordered x y ∨ ordered y x :=
      (hsorted.and hencoded).imp .inl
    rcases hboth.forall (hmem.2 ha) (hmem.2 hb) hne with ⟨-, h⟩ | ⟨h, -⟩
    · exact not_encodedLe_of_overtaken hover h
    · exact not_paramLe_of_overtaken hover h
  · intro hover
    refine hsorted.imp_of_mem fun ha hb h => ?_
    exact encodedLe_of_paramLe h (hover _ (hmem.1 ha) _ (hmem.1 hb))

/-- **Plain and distinct names are not overtaken**, whatever the values are. -/
theorem paramOvertaken_of_plain {params : List (String × String)} (hdistinct : (params.map Prod.fst).Nodup)
    (hplain : ∀ name ∈ params.map Prod.fst, name.toList.all Percent.isUnreserved = true) :
    ∀ a ∈ params, ∀ b ∈ params, paramOvertaken a b = false := by
  intro a ha b hb
  by_contra hover
  have hover : paramOvertaken a b = true := by simpa using hover
  rw [paramOvertaken, Bool.or_eq_true, Bool.and_eq_true, beq_iff_eq] at hover
  rcases hover with hname | ⟨heq, hvalue⟩
  · obtain ⟨d, hd, hescaped⟩ := Percent.exists_of_isOvertaken hname
    have hkept := List.all_eq_true.1 (hplain b.1 (List.mem_map_of_mem hb)) d hd
    simp [hkept] at hescaped
  · have hsame : a = b := List.inj_on_of_nodup_map hdistinct ha hb heq
    exact String.lt_irrefl _ (hsame ▸ lt_of_overtaken hvalue)

theorem encodedPairs_queryOf {params : List (String × String)} (h : params ≠ []) :
    encodedPairs (CanonicalRequest.queryOf params) = params.map encodedParam := by
  rw [encodedPairs, CanonicalRequest.queryOf_eq_pieces,
    Form.splitOn_pieces CanonicalRequest.ne_delimiter_of_mem_encode (by simpa using h), List.map_map, List.map_map]
  refine List.map_congr_left fun p _ => ?_
  simp only [Function.comp_apply, Form.cut_piece CanonicalRequest.ne_delimiter_of_mem_encode]
  rfl

namespace Credentials

/-- **When a signed query is in order.**  The query of a presigned URL is what is signed, with the signature behind it.  Its
encoded names, and under one name its encoded values, are in order exactly if none of the parameters is overtaken by another,
neither of those that describe the signature nor of those of the request. -/
theorem query_in_order_iff {c : Credentials} {p : Presign} {url : Url} (h : c.presign p = .ok url) :
    ∃ r, c.canonicalFor p = .ok r ∧
      Url.shownQuery url.write = r.query ++ "&X-Amz-Signature=".toList
        ++ signatureText c.secretAccessKey c.region p.time.basicText r ∧
      ((encodedPairs r.query).Pairwise (fun a b => a.1 < b.1 ∨ a.1 = b.1 ∧ a.2 ≤ b.2) ↔
        ∀ a ∈ c.signatureParams p r.headers ++ p.params, ∀ b ∈ c.signatureParams p r.headers ++ p.params,
          paramOvertaken a b = false) := by
  obtain ⟨base, header, r, hbase, hheader, hr, rfl⟩ := presign_eq_ok h
  obtain ⟨host, hhost, -, hplain, hmarks⟩ := plain_of_hostHeader hbase hheader
  have hparams : r.params = (c.signatureParams p r.headers ++ p.params).mergeSort paramLe := by rw [hr]
  have hnil : r.params ≠ [] := by
    rw [hparams, Ne, ← List.length_eq_zero_iff, List.length_mergeSort]
    simp [signatureParams]
  refine ⟨r, by rw [hr, canonicalFor_of_host hbase hheader], ?_, ?_⟩
  · rw [shownQuery_signed hplain hhost hmarks hnil, query_signed hnil]
  · rw [CanonicalRequest.query, encodedPairs_queryOf hnil, List.pairwise_map, hparams, ← pairwise_encodedLe_iff]
    simp only [encodedLe, paramLe_iff]

/-- A name beyond ASCII is signed behind the others and would have to come first. -/
theorem query_in_order_iff_accented :
    let p : Presign := { method := "GET", key := "a", params := [("é", "1")], time := default }
    ∃ url r, Credentials.test.presign p = .ok url ∧ Credentials.test.canonicalFor p = .ok r ∧
      ¬ (encodedPairs r.query).Pairwise fun a b => a.1 < b.1 ∨ a.1 = b.1 ∧ a.2 ≤ b.2 := by
  intro p
  obtain ⟨url, hurl⟩ : ∃ url, Credentials.test.presign p = .ok url := Traversal.exists_of_isSome_toOption (by decide +kernel)
  obtain ⟨r, hr, -, horder⟩ := query_in_order_iff hurl
  refine ⟨url, r, hurl, hr, fun hordered => ?_⟩
  have hfirst : ("X-Amz-Algorithm", "AWS4-HMAC-SHA256") ∈ Credentials.test.signatureParams p r.headers ++ p.params :=
    List.mem_append_left _ List.mem_cons_self
  have hlast : ("é", "1") ∈ Credentials.test.signatureParams p r.headers ++ p.params :=
    List.mem_append_right _ List.mem_cons_self
  exact absurd (horder.1 hordered _ hfirst _ hlast) (by decide)

/-- **A listing is signed in order**, whatever its lead and its token hold. -/
theorem paramOvertaken_list (c : Credentials) (time : Instant) (lead token : Option String) (maxKeys : Option Nat)
    (headers : List (String × String)) : let p := Presign.list time lead token maxKeys
    ∀ a ∈ c.signatureParams p headers ++ p.params, ∀ b ∈ c.signatureParams p headers ++ p.params,
      paramOvertaken a b = false := by
  intro p
  let names := signatureNames ++ ["list-type", "prefix", "continuation-token", "max-keys"]
  have hsublist : ((c.signatureParams p headers ++ p.params).map Prod.fst).Sublist names := by
    rw [names_signatureParams]
    refine (List.Sublist.refl signatureNames).append ?_
    cases lead <;> cases token <;> cases maxKeys <;> simp [p, Presign.list]
  have hplain : ∀ name ∈ names, name.toList.all Percent.isUnreserved = true := by decide
  have hdistinct : names.Nodup := by decide
  exact paramOvertaken_of_plain (hdistinct.sublist hsublist) fun name hname => hplain name (hsublist.subset hname)

end Credentials
end StorageGate
