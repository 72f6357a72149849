import MapContext.Proofs.MapRequest.Parameters
import MapContext.Proofs.Url.Display

/-!
# Requests are read back from their text

The parameters of a request stand in the text of its address, so they are found by whoever looks at
the query of the text, and by whoever reads the text as an address.
-/

namespace MapContext.MapRequest

open Text Url

/-- The parameters can be read from a text, whatever the case of their names. -/
structure ReadBack (params : List (String × String)) (href : String) : Prop where
  /-- They stand in the query of the text. -/
  text : ∀ p ∈ params, ∀ name, sameIgnoringCase p.1 name = true →
    lookup? (textPairs href) name = some p.2
  /-- They are parameters of the address that is read from the text. -/
  address : ∀ v, Url.read href = .ok v → ∀ p ∈ params, ∀ name,
    sameIgnoringCase p.1 name = true → v.param? name = some p.2

variable {params : List (String × String)} {u request : Url}

theorem ReadBack.of_subset {some : List (String × String)} {href : String}
    (h : ReadBack params href) (hsome : some ⊆ params) : ReadBack some href :=
  ⟨fun p hp => h.text p (hsome hp), fun v hv p hp => h.address v hv p (hsome hp)⟩

/-- The query of a request is written from its pairs. -/
theorem query_setAll (u : Url) (p : String × String) (params : List (String × String)) :
    (setAll u (p :: params)).query = some (writePairs (setAll u (p :: params)).pairs) := by
  induction params generalizing u p with
  | nil =>
      rw [setAll_cons, setAll, List.foldl_nil, pairs_setParam]
      rfl
  | cons q params ih =>
      rw [setAll_cons]
      exact ih (u.setParam p.1 p.2) q

/-- The query has no part in whether an address is tidy. -/
theorem Carries.tidy (h : Carries params u request) (hu : u.Tidy) : request.Tidy := by
  rw [h.address]
  exact ⟨hu.scheme, hu.front, hu.fragment⟩

theorem Carries.readBack (h : Carries params u request) (hu : u.Tidy)
    (hquery : request.query = some (writePairs request.pairs)) :
    ReadBack params request.display := by
  refine ⟨fun p hp name hname => ?_, fun v hv p hp name hname => ?_⟩
  · rw [textPairs_display (h.tidy hu) hquery]
    exact h.values p hp name hname
  · rw [param?, pairs_of_read_display (h.tidy hu) hquery hv]
    exact h.values p hp name hname

/-- A request for a map is read back from its text. -/
theorem readBack_mapUrl {base version layer format : String} {style : Option String}
    (h : mapUrl base version layer style format = .ok request) :
    ReadBack (mapParams version layer style format) request.display := by
  obtain ⟨u, hread, hrequest⟩ := bind_eq_ok_iff.mp h
  obtain rfl := Except.ok.inj hrequest
  exact (carries_mapParams u version layer style format).readBack (tidy_read hread)
    (query_setAll u _ _)

end MapContext.MapRequest
