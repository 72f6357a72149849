import MapContext.Capabilities.Reading
import MapContext.Proofs.Context.Batches
import MapContext.Proofs.Context.Reachable

/-!
# Layers that reach the map

Of the resources at or above an active one with a map request, one is drawn, and no other. Its
batch asks for the layers that it names. So the layers of an active resource reach the map, either
themselves or by a layer above that stands for them, unless the drawn resource names no layer at
all. The description of a service can give rise to such a silent resource.
-/

namespace MapContext

namespace Context

open FolderPath Batch

/-- The layers that the map request of a resource names. An address that cannot be read names
none. -/
def requestedLayers (r : Resource) : List String :=
  match r.mapHref? with
  | none => []
  | some href =>
    match Url.read href with
    | .ok u => namedLayers u
    | .error _ => []

/-- Layers stand next to each other, in their order, in a batch of the root above a resource. -/
def Requested (features : List Resource) (batches : List Batch) (r : Resource)
    (names : List String) : Prop :=
  ∃ top ∈ features, top.depth = 0 ∧ r.folder.startsWith top.folder = true ∧
    ∃ b ∈ batches, b.root = top.id ∧ names <:+: b.layers

variable {c : Context} {features : List Resource} {batches : List Batch} {a d e r : Resource}
  {names : List String}

theorem requestedLayers_of_read {href : String} {u : Url} (hhref : r.mapHref? = some href)
    (hread : Url.read href = .ok u) : requestedLayers r = namedLayers u := by
  simp only [requestedLayers, hhref, hread]

theorem isSome_mapHref?_of_requestedLayers (h : requestedLayers r ≠ []) :
    r.mapHref?.isSome = true := by
  rw [requestedLayers] at h
  split at h
  · exact absurd rfl h
  · next href hhref => rw [hhref, Option.isSome_some]

/-- What is requested above a resource is requested in the tree of the resource. -/
theorem Requested.below (h : Requested features batches a names) (har : a.isAncestorOf r = true) :
    Requested features batches r names := by
  obtain ⟨top, hmem, hdepth, hbelow, hbatch⟩ := h
  exact ⟨top, hmem, hdepth, startsWith_trans (isAncestorOf_iff_startsWith.mp har).2 hbelow, hbatch⟩

/-! ### The drawn resource at or above a resource -/

/-- Drawn resources are not above each other. -/
theorem not_draws_above (ha : a ∈ features) (hdrawn : draws features a = true)
    (har : a.isAncestorOf r = true) : draws features r = false := by
  rw [← Bool.not_eq_true]
  intro hr
  exact (draws_iff.mp hr).2.2 a ha har hdrawn

/-- An active resource with a map request is drawn, or one above it is. -/
theorem draws_or_exists_above (hactive : r.isActive = true) (hhref : r.mapHref?.isSome = true) :
    draws features r = true ∨
      ∃ a ∈ features, a.isAncestorOf r = true ∧ draws features a = true := by
  by_cases h : ∃ a ∈ features, a.isAncestorOf r = true ∧ draws features a = true
  · exact .inr h
  · refine .inl (draws_iff.mpr ⟨hactive, hhref, ?_⟩)
    intro a ha har hdrawn
    exact h ⟨a, ha, har, hdrawn⟩

/-- At most one resource above another one is drawn. -/
theorem eq_of_draws_above (hnodup : (features.map (·.folder)).Nodup) (hd : d ∈ features)
    (he : e ∈ features) (hdr : d.isAncestorOf r = true) (her : e.isAncestorOf r = true)
    (hdrawn : draws features d = true) (hdrawn' : draws features e = true) : d = e := by
  have hfolder : d.folder = e.folder := by
    by_contra hne
    have hbelow := startsWith_or_startsWith (isAncestorOf_iff_startsWith.mp hdr).2
      (isAncestorOf_iff_startsWith.mp her).2
    rcases hbelow with hbelow | hbelow
    · have habove : e.isAncestorOf d = true := isAncestorOf_iff_startsWith.mpr ⟨hne, hbelow⟩
      rw [not_draws_above he hdrawn' habove] at hdrawn
      cases hdrawn
    · have habove : d.isAncestorOf e = true :=
        isAncestorOf_iff_startsWith.mpr ⟨Ne.symm hne, hbelow⟩
      rw [not_draws_above hd hdrawn habove] at hdrawn'
      cases hdrawn'
  exact List.inj_on_of_nodup_map hnodup hd he hfolder

/-! ### The batch of a drawn resource -/

/-- The batch that serves a drawn resource asks for its layers. -/
theorem requested_of_draws (hvalid : validate c.features = .ok ())
    (hbatches : c.batches = .ok batches) (hd : d ∈ c.features) (hdrawn : draws c.features d = true) :
    Requested c.features batches d (requestedLayers d) := by
  have hstart : Met c.features [] [] ⟨none, none, none⟩ := ⟨rfl, rfl, .idle none⟩
  have hanswers := answers_collect (Forest.contiguous_of_validate hvalid) rfl hstart
  rw [← Context.batches, hbatches] at hanswers
  cases hrequests : (drawn c.features c.features).mapM readRequest with
  | error e =>
      rw [hrequests] at hanswers
      cases hanswers.eq_error
  | ok requests =>
      rw [hrequests] at hanswers
      obtain ⟨runs, bs, hbs, hruns, hserves⟩ := hanswers.exists_runs
      obtain rfl : batches = bs := Except.ok.inj hbs
      obtain ⟨href, hhref⟩ := Option.isSome_iff_exists.mp (draws_iff.mp hdrawn).2.1
      have haddress : address? c.features d = some href := (if_pos hdrawn).trans hhref
      have hmem : (d, href) ∈ drawn c.features c.features :=
        List.mem_filterMap.mpr ⟨d, hd, by rw [haddress]; rfl⟩
      obtain ⟨⟨d', u⟩, hq, hread⟩ := exists_of_mem_forall₂ (forall₂_of_mapM hrequests) hmem
      obtain ⟨rfl, hurl⟩ : d' = d ∧ Url.read href = .ok u := readRequest_eq_ok_iff.mp hread
      rw [List.nil_append] at hruns
      rw [← hruns.flatten_eq] at hq
      obtain ⟨run, hrun, hq⟩ := List.mem_flatten.mp hq
      obtain ⟨b, hb, hserve⟩ := exists_of_mem_forall₂ hserves hrun
      obtain ⟨top, htop, hdepth, hid, hbelow⟩ := hserve.root
      refine ⟨top, htop, hdepth, hbelow _ hq, b, hb, hid.symm, ?_⟩
      have hlayers : namedLayers u ∈ run.map fun q => namedLayers q.2 :=
        List.mem_map.mpr ⟨_, hq, rfl⟩
      rw [requestedLayers_of_read hhref hurl, hserve.layers, List.flatMap_def]
      exact List.infix_of_mem_flatten hlayers

/-- In a reachable context with batches, the layers of an active resource are drawn by its own
request, or a resource above it that names layers is drawn in its place, exactly if no drawn
resource above it names no layer. -/
theorem Reachable.layers_drawn_iff_no_silent_above (h : Reachable c)
    (hbatches : c.batches = .ok batches) (hr : r ∈ c.features) (hactive : r.isActive = true)
    (hnames : requestedLayers r ≠ []) :
    (draws c.features r = true ∧ Requested c.features batches r (requestedLayers r)) ∨
      (∃ a ∈ c.features, a.isAncestorOf r = true ∧ draws c.features a = true ∧
        requestedLayers a ≠ [] ∧ Requested c.features batches r (requestedLayers a)) ↔
    ∀ a ∈ c.features, a.isAncestorOf r = true → draws c.features a = true →
      requestedLayers a ≠ [] := by
  have hnodup := (Forest.contiguous_of_validate h.valid).nodup
  constructor
  · rintro (⟨hdrawn, -⟩ | ⟨d, hd, hdr, hdrawn, hnamed, -⟩) a ha har hdrawn'
    · rw [not_draws_above ha hdrawn' har] at hdrawn
      cases hdrawn
    · rw [eq_of_draws_above hnodup ha hd har hdr hdrawn' hdrawn]
      exact hnamed
  · intro hloud
    rcases draws_or_exists_above hactive (isSome_mapHref?_of_requestedLayers hnames) with
      hdrawn | ⟨a, ha, har, hdrawn⟩
    · exact .inl ⟨hdrawn, requested_of_draws h.valid hbatches hr hdrawn⟩
    · exact .inr ⟨a, ha, har, hdrawn, hloud a ha har hdrawn,
        (requested_of_draws h.valid hbatches ha hdrawn).below har⟩

/-- The bridges are covered by the roads, whose request names layers, so the roads are drawn in
their place. -/
theorem roads_drawn_for_bridges :
    ∃ c batches r, Reachable c ∧ c.batches = .ok batches ∧ r ∈ c.features ∧ r.isActive = true ∧
      requestedLayers r = ["bridges"] ∧
      (∀ a ∈ c.features, a.isAncestorOf r = true → draws c.features a = true →
        requestedLayers a ≠ []) ∧
      Requested c.features batches r ["roads", "rails"] := by
  let streets : FolderPath := .root 0
  let roads := mapLayer "roads" (streets.child 0) "LAYERS=roads,,rails"
  let bridges := mapLayer "bridges" ((streets.child 0).child 0) "LAYERS=bridges"
  let c : Context := { Context.empty "city" with features := cityMap.features }.refreshCrs
  have hnew : Context.new "city" cityMap.features = .ok c := by rfl
  have hread : (c.batches.toOption.any fun _ => true) = true := by decide +kernel
  obtain ⟨batches, hbatches, -⟩ := exists_eq_ok_of_any hread
  have hroads : roads ∈ c.features := by simp [c, cityMap, refreshCrs, roads, streets]
  have hbridges : bridges ∈ c.features := by simp [c, cityMap, refreshCrs, bridges, streets]
  have hnames : requestedLayers bridges = ["bridges"] := by decide +kernel
  have habove : ∀ a ∈ c.features, a.isAncestorOf bridges = true → a.mapHref?.isSome = true →
      requestedLayers a = ["roads", "rails"] := by decide +kernel
  have hfree : ∀ a ∈ c.features, a.isAncestorOf roads = true → a.mapHref?.isSome = false := by
    decide
  have hloud : ∀ a ∈ c.features, a.isAncestorOf bridges = true → draws c.features a = true →
      requestedLayers a ≠ [] := by
    intro a ha har hdrawn
    rw [habove a ha har (draws_iff.mp hdrawn).2.1]
    decide
  have hdrawn : draws c.features roads = true := by
    refine draws_iff.mpr ⟨by decide, by decide, fun a ha har hdrawn => ?_⟩
    have hhref := (draws_iff.mp hdrawn).2.1
    rw [hfree a ha har] at hhref
    cases hhref
  refine ⟨c, batches, bridges, .new hnew, hbatches, hbridges, by decide, hnames, hloud, ?_⟩
  rcases (Reachable.layers_drawn_iff_no_silent_above (.new hnew) hbatches hbridges (by decide)
    (by rw [hnames]; decide)).mpr hloud with ⟨hself, -⟩ | ⟨a, ha, har, hdraws, -, hrequested⟩
  · rw [not_draws_above hroads hdrawn (by decide)] at hself
    cases hself
  · rw [habove a ha har (draws_iff.mp hdraws).2.1] at hrequested
    exact hrequested

/-- A service whose outermost layer has an empty name. -/
def namelessGroup : String :=
  "<WMS_Capabilities><Layer><Name></Name><Layer><Name>roads</Name></Layer></Layer>" ++
    "</WMS_Capabilities>"

/-- Identifiers for the two layers. -/
def groupAndRoads (i : Nat) : Resource.Id := if i = 0 then "group" else "roads"

/-- An empty map to which resources of a service were appended. -/
def mapOf (capabilities : Capabilities) (rs : List Resource) : Context :=
  { Context.empty "map" with
    features := rs
    services := [("map://city/wms", ⟨capabilities, rs.map Resource.id⟩)] }.refreshCrs

/-- Whether the roads are active, but no batch names a layer, and nothing above the roads does. -/
def hidesRoads (c : Context) : Bool :=
  (c.batches.toOption.any fun batches => batches.all (·.layers.isEmpty)) &&
    c.features.any fun r => r.isActive && requestedLayers r == ["roads"] &&
      c.features.all fun a => !a.isAncestorOf r || (requestedLayers a).isEmpty

/-- The group is drawn without naming a layer, so its active layer does not reach the map. -/
theorem nameless_group_hides_roads :
    ∃ capabilities appended ids c batches r, Capabilities.read namelessGroup = .ok capabilities ∧
      (Context.empty "map").append "map://city/wms" capabilities groupAndRoads =
        .ok (appended, ids) ∧
      appended.activate "group" true = .ok c ∧ Reachable c ∧ c.batches = .ok batches ∧
      r ∈ c.features ∧ r.isActive = true ∧ requestedLayers r = ["roads"] ∧
      ¬(Requested c.features batches r (requestedLayers r) ∨
        ∃ a ∈ c.features, a.isAncestorOf r = true ∧ requestedLayers a ≠ [] ∧
          Requested c.features batches r (requestedLayers a)) := by
  have hhides : ((Capabilities.read namelessGroup).toOption.any fun capabilities =>
      (resourcesOf "map://city/wms" capabilities 0 groupAndRoads).toOption.any fun rs =>
        ((validate rs).toOption.any fun _ => true) &&
        ((mapOf capabilities rs).activate "group" true).toOption.any hidesRoads) = true := by
    decide +kernel
  obtain ⟨capabilities, hcapabilities, hhides⟩ := exists_eq_ok_of_any hhides
  obtain ⟨rs, hrs, hhides⟩ := exists_eq_ok_of_any hhides
  obtain ⟨hvalid, hhides⟩ := Bool.and_eq_true_iff.mp hhides
  obtain ⟨_, hvalid, -⟩ := exists_eq_ok_of_any hvalid
  obtain ⟨c, hactivate, hhides⟩ := exists_eq_ok_of_any hhides
  obtain ⟨hsilent, hroads⟩ := Bool.and_eq_true_iff.mp hhides
  obtain ⟨batches, hbatches, hsilent⟩ := exists_eq_ok_of_any hsilent
  obtain ⟨r, hr, hroads⟩ := List.any_eq_true.mp hroads
  simp only [Bool.and_eq_true, beq_iff_eq, List.all_eq_true, Bool.or_eq_true,
    Bool.not_eq_true', List.isEmpty_iff] at hsilent hroads
  obtain ⟨⟨hactive, hnames⟩, habove⟩ := hroads
  have happend : (Context.empty "map").append "map://city/wms" capabilities groupAndRoads =
      .ok (mapOf capabilities rs, rs.map Resource.id) := by
    have hroot : (Context.empty "map").nextRoot = 0 := rfl
    simp only [append, hroot, hrs, ok_bind]
    rw [show (Context.empty "map").features ++ rs = rs from rfl, commit_of_validate hvalid]
    rfl
  have happly : (Edit.append "map://city/wms" capabilities groupAndRoads).apply
      (Context.empty "map") = .ok (mapOf capabilities rs) :=
    map_eq_ok_iff.mpr ⟨_, happend, rfl⟩
  have hreachable : Reachable c :=
    .edit (.activate "group" true) (.edit _ (.empty "map") happly) hactivate
  refine ⟨capabilities, _, _, c, batches, r, hcapabilities, happend, hactivate, hreachable,
    hbatches, hr, hactive, hnames, ?_⟩
  rintro (⟨top, -, -, -, b, hb, -, hinfix⟩ | ⟨a, ha, har, hnamed, -⟩)
  · rw [hsilent b hb, hnames] at hinfix
    simp at hinfix
  · rcases habove a ha with hnot | hnone
    · rw [hnot] at har
      cases har
    · exact hnamed hnone

end Context

end MapContext
