import MapContext.MapRequest
import MapContext.Proofs.Result
import MapContext.Proofs.Url.Parameters

/-!
# Parameters of requests

A request sets several parameters of different names one after another. Each of them is read back
with its value, and whatever else the query of the address had is kept.
-/

namespace MapContext.MapRequest

open Text Url

/-- Whether a pair has none of the names of parameters. -/
def isOther (params : List (String × String)) (q : String × String) : Bool :=
  params.all fun p => !isNamed p.1 q

/-- A request to an address that has parameters. -/
structure Carries (params : List (String × String)) (address request : Url) : Prop where
  /-- The parameters are read back, whatever the case of their names. -/
  values : ∀ p ∈ params, ∀ name, sameIgnoringCase p.1 name = true →
    request.param? name = some p.2
  /-- The pairs of other names are those of the address in the same order. -/
  others : request.pairs.filter (isOther params) = address.pairs.filter (isOther params)
  /-- Apart from the query it is the address. -/
  address : request = { address with query := request.query }

variable {params : List (String × String)}

theorem setAll_cons (u : Url) (p : String × String) (params : List (String × String)) :
    setAll u (p :: params) = setAll (u.setParam p.1 p.2) params := rfl

/-- Parameters of other names keep their values. -/
theorem param?_setAll_of_ne {name : String} (h : ∀ p ∈ params, sameIgnoringCase p.1 name = false)
    (u : Url) : (setAll u params).param? name = u.param? name := by
  induction params generalizing u with
  | nil => rfl
  | cons p params ih =>
      rw [setAll_cons, ih fun q hq => h q (List.mem_cons_of_mem p hq), param?_setParam,
        h p List.mem_cons_self]
      rfl

/-- Parameters of different names are all carried. -/
theorem carries_setAll
    (h : (params.map (·.1)).Pairwise fun a b => sameIgnoringCase b a = false) (u : Url) :
    Carries params u (setAll u params) := by
  induction params generalizing u with
  | nil => exact ⟨by simp, rfl, rfl⟩
  | cons p params ih =>
      obtain ⟨hp, hparams⟩ := List.pairwise_cons.mp (List.map_cons ▸ h)
      have hrest := ih hparams (u.setParam p.1 p.2)
      have hsplit : isOther (p :: params) = fun q => !isNamed p.1 q && isOther params q := rfl
      rw [setAll_cons]
      constructor
      case values =>
        intro q hq name hname
        rcases List.mem_cons.mp hq with rfl | hq
        · have hne : ∀ p ∈ params, sameIgnoringCase p.1 name = false := by
            intro p hmem
            have hpq := hp p.1 (List.mem_map_of_mem hmem)
            rw [← Bool.not_eq_true, sameIgnoringCase_iff] at hpq ⊢
            rwa [← sameIgnoringCase_iff.mp hname]
          rw [param?_setAll_of_ne hne, param?_setParam, if_pos hname]
        · exact hrest.values q hq name hname
      case others =>
        rw [hsplit, ← List.filter_filter, ← List.filter_filter, hrest.others, List.filter_comm,
          (put_setParam u p.1 p.2).others, List.filter_comm]
      case address =>
        rw [hrest.address]
        rfl

/-- The parameters of a request for a map. -/
def mapParams (version layer : String) (style : Option String) (format : String) :
    List (String × String) :=
  [("SERVICE", "WMS"), ("VERSION", version), ("REQUEST", "GetMap"), ("LAYERS", layer),
   ("STYLES", style.getD ""), ("FORMAT", format), ("TRANSPARENT", "TRUE")]

/-- The parameters of a request for the description of a service. -/
def capabilitiesParams (version : String) : List (String × String) :=
  [("SERVICE", "WMS"), ("VERSION", version), ("REQUEST", "GetCapabilities")]

theorem mapUrl_of_read {base : String} {u : Url} (h : Url.read base = .ok u)
    (version layer : String) (style : Option String) (format : String) :
    mapUrl base version layer style format =
      .ok (setAll u (mapParams version layer style format)) := by
  rw [mapUrl, h, ok_bind]
  rfl

theorem capabilitiesUrl_of_read {base : String} {u : Url} (h : Url.read base = .ok u)
    (version : String) :
    capabilitiesUrl base version = .ok (setAll u (capabilitiesParams version)) := by
  rw [capabilitiesUrl, h, ok_bind]
  rfl

theorem carries_mapParams (u : Url) (version layer : String) (style : Option String)
    (format : String) :
    Carries (mapParams version layer style format) u
      (setAll u (mapParams version layer style format)) := by
  have hnames : ["SERVICE", "VERSION", "REQUEST", "LAYERS", "STYLES", "FORMAT",
      "TRANSPARENT"].Pairwise fun a b => sameIgnoringCase b a = false := by decide
  apply carries_setAll
  exact hnames

theorem carries_capabilitiesParams (u : Url) (version : String) :
    Carries (capabilitiesParams version) u (setAll u (capabilitiesParams version)) := by
  have hnames : ["SERVICE", "VERSION", "REQUEST"].Pairwise
      fun a b => sameIgnoringCase b a = false := by decide
  apply carries_setAll
  exact hnames

/-- After a parameter was set it is read back, it stands once, where the first one of its name stood
or last, all pairs of other names are kept, and setting it again replaces it. So a request for a map
or for capabilities carries all of its parameters, and the other ones that its address had. -/
theorem requests_carry_parameters :
    (∀ (u : Url) (name value : String),
      (∀ other, (u.setParam name value).param? other =
        if sameIgnoringCase name other then some value else u.param? other) ∧
      Put name value u.pairs (u.setParam name value).pairs ∧
      ∀ other later, sameIgnoringCase name other = true →
        (u.setParam name value).setParam other later = u.setParam other later) ∧
    ∀ base u, Url.read base = .ok u →
      (∀ version layer style format, ∃ request,
        mapUrl base version layer style format = .ok request ∧
        Carries [("SERVICE", "WMS"), ("VERSION", version), ("REQUEST", "GetMap"),
          ("LAYERS", layer), ("STYLES", style.getD ""), ("FORMAT", format),
          ("TRANSPARENT", "TRUE")] u request) ∧
      ∀ version, ∃ request, capabilitiesUrl base version = .ok request ∧
        Carries [("SERVICE", "WMS"), ("VERSION", version), ("REQUEST", "GetCapabilities")] u
          request := by
  constructor
  · intro u name value
    exact ⟨fun other => param?_setParam u name value other, put_setParam u name value,
      fun other later h => setParam_setParam h u value later⟩
  · intro base u hread
    constructor
    · intro version layer style format
      exact ⟨_, mapUrl_of_read hread version layer style format, carries_mapParams u _ _ _ _⟩
    · intro version
      exact ⟨_, capabilitiesUrl_of_read hread version, carries_capabilitiesParams u version⟩

/-- A request for rails keeps the parameter that the address had. -/
theorem rails_requested :
    ∃ u request, Url.read "map://city/wms?map=rail&layers=all" = .ok u ∧
      mapUrl "map://city/wms?map=rail&layers=all" "1.3.0" "rails" none "image/png" =
        .ok request ∧
      request.param? "layers" = some "rails" ∧ request.param? "STYLES" = some "" ∧
      ("map", "rail") ∈ request.pairs := by
  have hread : ((Url.read "map://city/wms?map=rail&layers=all").toOption.any fun u =>
      u.pairs == [("map", "rail"), ("layers", "all")]) = true := by decide +kernel
  obtain ⟨u, hu, hpairs⟩ := exists_eq_ok_of_any hread
  obtain ⟨request, hrequest, hcarries⟩ :=
    (requests_carry_parameters.2 _ u hu).1 "1.3.0" "rails" none "image/png"
  refine ⟨u, request, hu, hrequest, ?_, ?_, ?_⟩
  · exact hcarries.values ("LAYERS", "rails") (by simp) "layers" (by decide)
  · exact hcarries.values ("STYLES", "") (by simp) "STYLES" (by decide)
  · have hkept := hcarries.others
    rw [beq_iff_eq.mp hpairs] at hkept
    apply List.mem_of_mem_filter
    rw [hkept]
    decide

end MapContext.MapRequest
