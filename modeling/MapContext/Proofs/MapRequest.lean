import MapContext.Context.Batch
import MapContext.Proofs.Url.Query

/-!
# Merged map requests

The layers that a request names are the entries of its list of layers that are not empty. Merging
two requests appends the entries, so it appends the named layers too.
-/

namespace MapContext.MapRequest

open Text Batch

/-- Entries joined by commas are cut again into the same entries. -/
theorem splitAtChar_intercalate {first : String} {others : List String}
    (h : ∀ s ∈ first :: others, ',' ∉ s.toList) :
    splitAtChar ',' (",".intercalate (first :: others)) = first :: others := by
  have hfree : ∀ cs ∈ (first :: others).map String.toList, ∀ c ∈ cs, (c == ',') = false := by
    intro cs hcs c hc
    obtain ⟨s, hs, rfl⟩ := List.mem_map.mp hcs
    rw [beq_eq_false_iff_ne]
    rintro rfl
    exact h s hs hc
  have hcut : pieces (· == ',') (",".intercalate (first :: others)).toList =
      (first :: others).map String.toList := by
    rw [String.toList_intercalate]
    exact (congrArg _ (intercalate_cons ',' first.toList (others.map String.toList))).trans
      (pieces_joined (by decide) hfree)
  rw [splitAtChar, hcut, List.map_map]
  refine (List.map_congr_left fun s _ => ?_).trans (List.map_id _)
  exact String.ofList_toList

/-- The entries of a list contain no comma. -/
theorem not_mem_of_mem_entries {value : Option String} {s : String} (hs : s ∈ entries value) :
    ',' ∉ s.toList := by
  cases value with
  | none => cases hs
  | some v =>
      rw [entries] at hs
      split at hs
      · cases hs
      · obtain ⟨piece, hpiece, rfl⟩ := List.mem_map.mp hs
        intro hcomma
        rw [String.toList_ofList] at hcomma
        have := pieces_free _ _ piece hpiece _ hcomma
        exact absurd this (by decide)

/-- The named layers are the entries that are not empty. -/
theorem namedLayers_eq_filter (u : Url) : namedLayers u = (layers u).filter (! ·.isEmpty) := by
  rw [namedLayers, layers]
  cases u.param? "LAYERS" with
  | none => rfl
  | some v =>
      by_cases hempty : v.isEmpty = true
      · rw [String.isEmpty_iff.mp hempty]
        rfl
      · rw [entries, if_neg hempty]

/-- A merged request names the layers of both. -/
theorem namedLayers_merge (u other : Url) :
    namedLayers (merge u other) = namedLayers u ++ namedLayers other := by
  have hvalue : (merge u other).param? "LAYERS" =
      some (",".intercalate (layers u ++ layers other)) := by
    rw [merge, Url.param?_setParam, if_neg (by decide), Url.param?_setParam, if_pos (by decide)]
  have hentries : ∀ s ∈ layers u ++ layers other, ',' ∉ s.toList := by
    intro s hs
    rcases List.mem_append.mp hs with hs | hs
    · exact not_mem_of_mem_entries hs
    · exact not_mem_of_mem_entries hs
  rw [namedLayers_eq_filter u, namedLayers_eq_filter other, ← List.filter_append, namedLayers,
    hvalue]
  cases hall : layers u ++ layers other with
  | nil => rfl
  | cons first others =>
      rw [hall] at hentries
      exact congrArg (List.filter (! ·.isEmpty)) (splitAtChar_intercalate hentries)

end MapContext.MapRequest
