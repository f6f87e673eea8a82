import Mathlib.Data.List.Nodup
import StorageGate.Proofs.Fields
import StorageGate.Proofs.Text.Utf8
import StorageGate.Proofs.Traversal
import StorageGate.Storage.Presign
/-!
# Headers of metadata

Metadata makes one header of each of its names, in its order, unless two of them make the same one
(`metadataHeaders_eq_ok_iff`).  The names of the headers are in lower case and begin like those of the service, so no
metadata makes a header of another kind.
-/
namespace StorageGate

/-! ## Names -/

theorem lower_metadataHeaderName (name : String) :
    String.ofList ((metadataHeaderName name).toList.map Char.toLower) = metadataHeaderName name := by
  have hlower : (name.toList.map Char.toLower).map Char.toLower = name.toList.map Char.toLower := by
    rw [List.map_map]
    exact List.map_congr_left fun c _ => toLower_toLower c
  unfold metadataHeaderName
  extract_lets lower
  split
  · rw [String.toList_ofList, hlower]
  · rw [String.toList_ofList, List.map_append, hlower]
    rfl

theorem prefix_metadataHeaderName (name : String) : "x-amz-".toList <+: (metadataHeaderName name).toList := by
  unfold metadataHeaderName
  extract_lets lower
  by_cases hservice : "x-amz-".toList.isPrefixOf lower = true
  · rw [if_pos hservice, @String.toList_ofList lower]
    exact List.isPrefixOf_iff_prefix.1 hservice
  · rw [if_neg hservice, @String.toList_ofList ("x-amz-meta-".toList ++ lower)]
    exact ⟨"meta-".toList ++ lower, rfl⟩

/-- The header of a name with its value. -/
def metadataHeader (field : String × String) : String × String := (metadataHeaderName field.1, field.2)

theorem metadataHeadersFrom_eq_ok_iff : ∀ {fields made headers : List (String × String)},
    metadataHeadersFrom made fields = .ok headers ↔ headers = fields.map metadataHeader ∧
      (headers.map Prod.fst).Nodup ∧ ∀ h ∈ headers, h.1 ∉ made.map Prod.fst
  | [], made, headers => by
    rw [metadataHeadersFrom, List.map_nil]
    constructor
    · rintro ⟨⟩
      exact ⟨rfl, List.nodup_nil, fun h hh => nomatch hh⟩
    · rintro ⟨rfl, -, -⟩
      rfl
  | (name, value) :: fields, made, headers => by
    let header := metadataHeaderName name
    have ih (more : List (String × String)) := @metadataHeadersFrom_eq_ok_iff fields (made ++ [(header, value)]) more
    have hmade : made.any (·.1 == header) = true ↔ header ∈ made.map Prod.fst := by simp
    rw [metadataHeadersFrom, List.map_cons]
    by_cases hrepeated : made.any (·.1 == header) = true
    · rw [if_pos hrepeated]
      constructor
      · rintro ⟨⟩
      · rintro ⟨rfl, -, hnew⟩
        exact absurd (hmade.1 hrepeated) (hnew _ List.mem_cons_self)
    · have hnew : header ∉ made.map Prod.fst := fun h => hrepeated (hmade.2 h)
      rw [if_neg hrepeated]
      constructor
      · intro h
        obtain ⟨more, hmore, h⟩ := Traversal.exists_of_bind_eq_ok h
        cases h
        obtain ⟨rfl, hdistinct, hother⟩ := (ih more).1 hmore
        have hfirst : header ∉ (fields.map metadataHeader).map Prod.fst := fun h => by
          obtain ⟨other, hmem, he⟩ := List.mem_map.1 h
          exact hother other hmem (by rw [List.map_append, he]; exact List.mem_append_right _ List.mem_cons_self)
        refine ⟨rfl, List.nodup_cons.2 ⟨hfirst, hdistinct⟩, fun h hh => ?_⟩
        rcases List.mem_cons.1 hh with rfl | hh
        · exact hnew
        · exact fun hm => hother h hh (by rw [List.map_append]; exact List.mem_append_left _ hm)
      · rintro ⟨rfl, hdistinct, hother⟩
        obtain ⟨hfirst, hdistinct⟩ := List.nodup_cons.1 hdistinct
        have hmore := (ih (fields.map metadataHeader)).2 ⟨rfl, hdistinct, fun h hh hm => ?_⟩
        · show (metadataHeadersFrom (made ++ [(header, value)]) fields >>= _) = _
          rw [hmore]
          rfl
        · rw [List.map_append, List.mem_append, List.map_singleton, List.mem_singleton] at hm
          rcases hm with hm | hm
          · exact hother h (List.mem_cons_of_mem _ hh) hm
          · exact hfirst (List.mem_map.2 ⟨h, hh, hm⟩)

/-- **The headers of metadata**: one for each name in order, if all are different. -/
theorem metadataHeaders_eq_ok_iff {metadata : Fields} {headers : List (String × String)} :
    metadataHeaders metadata = .ok headers ↔
      headers = metadata.toList.map metadataHeader ∧ (headers.map Prod.fst).Nodup := by
  rw [metadataHeaders, metadataHeadersFrom_eq_ok_iff]
  simp

theorem lower_of_metadataHeaders {metadata : Fields} {headers : List (String × String)}
    (h : metadataHeaders metadata = .ok headers) : ∀ p ∈ headers, String.ofList (p.1.toList.map Char.toLower) = p.1 := by
  obtain ⟨rfl, -⟩ := metadataHeaders_eq_ok_iff.1 h
  intro p hp
  obtain ⟨field, _, rfl⟩ := List.mem_map.1 hp
  exact lower_metadataHeaderName field.1

end StorageGate
