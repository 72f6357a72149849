import MapContext.Proofs.MapRequest
import MapContext.Proofs.MapRequest.Parameters

/-!
# Layers and styles of merged requests

A request pairs each layer with the style at the same position of its other list, whose length may
differ. Merging requests joins these pairs one request after another; nothing else of the first
request changes, so the result can be answered where the first one could.
-/

namespace MapContext.MapRequest

open Text Url

/-! ### Joined entries -/

theorem pieces_ne_empty {p : Char → Bool} {cs : List Char} (h : cs ≠ []) :
    pieces p cs ≠ [[]] := by
  cases cs with
  | nil => exact absurd rfl h
  | cons c cs =>
      by_cases hc : p c = true
      · simp [pieces, cut, hc]
      · simp [pieces, cut, hc]

/-- A list is never read as one empty entry. -/
theorem entries_ne_empty (value : Option String) : entries value ≠ [""] := by
  cases value with
  | none => simp [entries]
  | some v =>
      rw [entries]
      split
      · simp
      · next hv =>
          intro h
          have htext : v.toList ≠ [] := by simpa using hv
          apply pieces_ne_empty htext
          exact List.map_injective_iff.mpr (fun _ _ => String.ofList_injective) h

/-- Entries are read back from their joined text, except for one empty entry, which leaves no
text. -/
theorem entries_intercalate {xs : List String} (h : ∀ s ∈ xs, ',' ∉ s.toList) :
    entries (some (",".intercalate xs)) = if xs = [""] then [] else xs := by
  cases xs with
  | nil => rfl
  | cons first others =>
      have hsplit := splitAtChar_intercalate h
      by_cases hempty : first :: others = [""]
      · rw [hempty]
        rfl
      · have htext : ¬(",".intercalate (first :: others)).isEmpty = true := by
          intro htext
          rw [String.isEmpty_iff.mp htext] at hsplit
          exact hempty hsplit.symm
        rw [entries, if_neg htext, if_neg hempty, hsplit]

/-! ### Aligned styles -/

/-- The layers of a request, each with the style at its position, or the default style. -/
def styledLayers (u : Url) : List (String × String) :=
  (layers u).mapIdx fun i layer => (layer, (styles u)[i]?.getD "")

theorem length_alignedStyles (u : Url) : (alignedStyles u).length = (layers u).length := by
  simp only [alignedStyles, List.length_append, List.length_take, List.length_replicate]
  omega

theorem getElem?_alignedStyles (u : Url) {i : Nat} (h : i < (layers u).length) :
    (alignedStyles u)[i]? = some ((styles u)[i]?.getD "") := by
  by_cases hi : i < (styles u).length
  · have htake : i < ((styles u).take (layers u).length).length := by
      rw [List.length_take]
      omega
    rw [alignedStyles, List.getElem?_append_left htake, List.getElem?_take_of_lt h,
      List.getElem?_eq_getElem hi, Option.getD_some]
  · have htake : (styles u).take (layers u).length = styles u :=
      List.take_of_length_le (by omega)
    rw [alignedStyles, htake, List.getElem?_append_right (by omega),
      List.getElem?_replicate_of_lt (by omega), List.getElem?_eq_none (by omega), Option.getD_none]

theorem styledLayers_eq_zip (u : Url) : styledLayers u = (layers u).zip (alignedStyles u) := by
  apply List.ext_getElem?
  intro i
  rw [styledLayers, List.getElem?_mapIdx, List.zip_eq_zipWith, List.getElem?_zipWith]
  by_cases hi : i < (layers u).length
  · rw [getElem?_alignedStyles u hi, List.getElem?_eq_getElem hi]
    rfl
  · have hnone : (layers u)[i]? = none := List.getElem?_eq_none (by omega)
    rw [hnone]
    rfl

/-! ### Merging two requests -/

theorem merge_eq_setAll (u other : Url) :
    merge u other = setAll u [("LAYERS", ",".intercalate (layers u ++ layers other)),
      ("STYLES", ",".intercalate (alignedStyles u ++ alignedStyles other))] := rfl

/-- Whether a pair is no list of layers or styles. -/
def isBeside (q : String × String) : Bool := isOther [("LAYERS", ""), ("STYLES", "")] q

/-- A request that differs from another one in its layers and styles only. -/
structure SameBeside (u v : Url) : Prop where
  /-- All other pairs are the same in the same order. -/
  pairs : v.pairs.filter isBeside = u.pairs.filter isBeside
  /-- Apart from the query it is the same address. -/
  address : v = { u with query := v.query }

theorem merge_carries (u other : Url) :
    Carries [("LAYERS", ",".intercalate (layers u ++ layers other)),
      ("STYLES", ",".intercalate (alignedStyles u ++ alignedStyles other))] u (merge u other) := by
  have hnames : ["LAYERS", "STYLES"].Pairwise fun a b => sameIgnoringCase b a = false := by decide
  rw [merge_eq_setAll]
  apply carries_setAll
  exact hnames

theorem sameBeside_merge (u other : Url) : SameBeside u (merge u other) :=
  ⟨(merge_carries u other).others, (merge_carries u other).address⟩

/-- The endpoint is not told by layers and styles. -/
theorem endpoint_merge (u other : Url) : Endpoint.of (merge u other) = Endpoint.of u := by
  have hvalue {name : String} (hlayers : sameIgnoringCase "LAYERS" name = false)
      (hstyles : sameIgnoringCase "STYLES" name = false) :
      (merge u other).param? name = u.param? name := by
    rw [merge, param?_setParam, hstyles, param?_setParam, hlayers]
    rfl
  rw [Endpoint.of, hvalue (by decide) (by decide), hvalue (by decide) (by decide)]
  rfl

theorem layers_merge (u other : Url) : layers (merge u other) = layers u ++ layers other := by
  have hvalue := (merge_carries u other).values _ List.mem_cons_self "LAYERS"
    (sameIgnoringCase_iff.mpr rfl)
  have hfree : ∀ s ∈ layers u ++ layers other, ',' ∉ s.toList := by
    intro s hs
    rcases List.mem_append.mp hs with hs | hs
    · exact not_mem_of_mem_entries hs
    · exact not_mem_of_mem_entries hs
  have hne : layers u ++ layers other ≠ [""] := by
    intro h
    rcases List.append_eq_singleton_iff.mp h with ⟨-, h⟩ | ⟨h, -⟩
    · exact entries_ne_empty _ h
    · exact entries_ne_empty _ h
  rw [layers, hvalue, entries_intercalate hfree, if_neg hne]

theorem not_mem_of_mem_alignedStyles {u : Url} {s : String} (hs : s ∈ alignedStyles u) :
    ',' ∉ s.toList := by
  rcases List.mem_append.mp hs with hs | hs
  · exact not_mem_of_mem_entries (List.mem_of_mem_take hs)
  · rw [List.eq_of_mem_replicate hs]
    decide

/-- The styles stay aligned with the layers. One default style alone leaves no text, and no text
aligns as one default style. -/
theorem alignedStyles_merge (u other : Url) :
    alignedStyles (merge u other) = alignedStyles u ++ alignedStyles other := by
  have hvalue := (merge_carries u other).values _ (List.mem_cons_of_mem _ List.mem_cons_self)
    "STYLES" (sameIgnoringCase_iff.mpr rfl)
  have hfree : ∀ s ∈ alignedStyles u ++ alignedStyles other, ',' ∉ s.toList := by
    intro s hs
    rcases List.mem_append.mp hs with hs | hs
    · exact not_mem_of_mem_alignedStyles hs
    · exact not_mem_of_mem_alignedStyles hs
  have hlength : (layers (merge u other)).length =
      (alignedStyles u ++ alignedStyles other).length := by
    rw [layers_merge, List.length_append, List.length_append, length_alignedStyles,
      length_alignedStyles]
  have hstyles : styles (merge u other) = if alignedStyles u ++ alignedStyles other = [""] then []
      else alignedStyles u ++ alignedStyles other := by
    rw [styles, hvalue, entries_intercalate hfree]
  rw [alignedStyles, hlength, hstyles]
  split
  · next hsingle =>
      rw [hsingle]
      rfl
  · rw [List.take_length, Nat.sub_self]
    exact List.append_nil _

theorem styledLayers_merge (u other : Url) :
    styledLayers (merge u other) = styledLayers u ++ styledLayers other := by
  rw [styledLayers_eq_zip, styledLayers_eq_zip, styledLayers_eq_zip, layers_merge,
    alignedStyles_merge, List.zip_append (length_alignedStyles u).symm]

/-! ### Merging many requests -/

theorem SameBeside.trans {u v w : Url} (h : SameBeside u v) (h' : SameBeside v w) :
    SameBeside u w :=
  ⟨h'.pairs.trans h.pairs, by rw [h'.address, h.address]⟩

/-- Requests that are merged one after another name their layers with their styles one after
another. All other pairs of the first request stay in their order, and so do its origin, path and
fragment, and with them its endpoint. -/
theorem merged_requests (u : Url) (others : List Url) :
    styledLayers (others.foldl merge u) = styledLayers u ++ others.flatMap styledLayers ∧
      (others.foldl merge u).pairs.filter isBeside = u.pairs.filter isBeside ∧
      (others.foldl merge u).origin = u.origin ∧ (others.foldl merge u).path = u.path ∧
      (others.foldl merge u).fragment = u.fragment ∧
      Endpoint.of (others.foldl merge u) = Endpoint.of u := by
  have hrun : styledLayers (others.foldl merge u) = styledLayers u ++ others.flatMap styledLayers ∧
      SameBeside u (others.foldl merge u) ∧
      Endpoint.of (others.foldl merge u) = Endpoint.of u := by
    induction others generalizing u with
    | nil => exact ⟨by simp, ⟨rfl, rfl⟩, rfl⟩
    | cons other others ih =>
        obtain ⟨hlayers, hbeside, hendpoint⟩ := ih (merge u other)
        rw [List.foldl_cons]
        refine ⟨?_, (sameBeside_merge u other).trans hbeside,
          hendpoint.trans (endpoint_merge u other)⟩
        rw [hlayers, styledLayers_merge, List.flatMap_cons, List.append_assoc]
  obtain ⟨hlayers, hbeside, hendpoint⟩ := hrun
  refine ⟨hlayers, hbeside.pairs, congrArg Endpoint.origin hendpoint,
    congrArg Endpoint.path hendpoint, ?_, hendpoint⟩
  rw [hbeside.address]

/-- Missing styles are default styles, and styles without a layer are dropped. -/
example :
    (Url.read "map://city/wms?map=a&LAYERS=roads,rails" >>= fun u =>
      Url.read "map://city/wms?layers=paths&styles=thin,bold" >>= fun v =>
        Except.ok (styledLayers u, styledLayers v, (merge u v).display)).toOption =
      some ([("roads", ""), ("rails", "")], [("paths", "thin")],
        "map://city/wms?map=a&LAYERS=roads%2Crails%2Cpaths&STYLES=%2C%2Cthin") := by
  decide +kernel

end MapContext.MapRequest
