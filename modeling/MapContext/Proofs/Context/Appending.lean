import MapContext.Proofs.Capabilities.Places
import MapContext.Proofs.Context.Editing

/-!
# Appending a service

The layers of a service are listed in document order with their depths, so the resources built
from them list a tree. Appending can fail only where an address does not parse.
-/

namespace MapContext

namespace Layer

open FolderPath

mutual

/-- Resources at the depths of a layer tree list one tree, and numbering gives them the places of
the layers. -/
theorem exists_forest_at (d : Nat) : (layer : Layer) → {rs : List Resource} →
    rs.map (·.depth) = (layer.preorderAt d).map (·.1) →
    ∃ g : Forest, g.Leveled d ∧ g.flatten = rs ∧ g.width = 1 ∧
      ∀ parent i, (g.numbered parent i).flatten.map (·.folder.segments) =
        (layer.placesAt (segmentsOf parent ++ [i])).map (·.1)
  | ⟨_, _, _, _, _, _, _, _, _, layers⟩, rs, h => by
      rw [preorderAt, List.map_cons, List.map_eq_cons_iff] at h
      obtain ⟨r, below, rfl, hr, hbelow⟩ := h
      obtain ⟨g, hg, rfl, hplaces⟩ := exists_forest_all (d + 1) layers hbelow
      refine ⟨.tree r g .nil, ⟨hr, hg, trivial⟩, by simp, rfl, fun parent i => ?_⟩
      rw [placesAt, List.map_cons, ← segments_under, ← segmentsOf_some, ← hplaces]
      simp

/-- Resources at the depths of several layer trees list a forest, and numbering gives them the
places of the layers. -/
theorem exists_forest_all (d : Nat) : (layers : List Layer) → {rs : List Resource} →
    rs.map (·.depth) = (preorderAll d layers).map (·.1) →
    ∃ g : Forest, g.Leveled d ∧ g.flatten = rs ∧
      ∀ parent i, (g.numbered parent i).flatten.map (·.folder.segments) =
        (placesAll (segmentsOf parent) i layers).map (·.1)
  | [], rs, h => by
      obtain rfl : rs = [] := by simpa [preorderAll] using h
      exact ⟨.nil, trivial, rfl, fun _ _ => rfl⟩
  | layer :: rest, rs, h => by
      rw [preorderAll, List.map_append, List.map_eq_append_iff] at h
      obtain ⟨first, others, rfl, hfirst, hothers⟩ := h
      obtain ⟨g, hg, rfl, hwidth, hplaces⟩ := exists_forest_at d layer hfirst
      obtain ⟨g', hg', rfl, hplaces'⟩ := exists_forest_all d rest hothers
      refine ⟨g ++ g', hg.append hg', Forest.flatten_append g g', fun parent i => ?_⟩
      rw [Forest.numbered_append, Forest.flatten_append, List.map_append, hwidth, hplaces, hplaces',
        placesAll, List.map_append]

end

mutual

theorem length_preorderAt (d : Nat) : (layer : Layer) → (layer.preorderAt d).length = layer.count
  | ⟨_, _, _, _, _, _, _, _, _, layers⟩ => by
      rw [preorderAt, count, List.length_cons, length_preorderAll]

theorem length_preorderAll (d : Nat) : (layers : List Layer) →
    (preorderAll d layers).length = countAll layers
  | [] => rfl
  | layer :: rest => by
      rw [preorderAll, countAll, List.length_append, length_preorderAt, length_preorderAll]

end

end Layer

namespace Context

open FolderPath

variable {href capabilitiesHref : String} {caps : Capabilities} {layer : Layer}
  {fresh : Nat → Resource.Id}

/-! ### The resources of layers -/

@[simp] theorem depth_layerResource (id : Resource.Id) (d : Nat) (layer : Layer) :
    (layerResource id d layer).depth = d := by
  unfold layerResource
  cases layer.bbox <;> simp [Resource.depth, Resource.folder, Resource.withBox, Resource.withCrs,
    Resource.new, depth]

@[simp] theorem id_layerResource (id : Resource.Id) (d : Nat) (layer : Layer) :
    (layerResource id d layer).id = id := by
  unfold layerResource
  cases layer.bbox <;> rfl

/-- The address does not parse, and the error says so. -/
def Unreadable (address : String) (e : Context.Error) : Prop :=
  ∃ fault, Url.read address = .error fault ∧ e = .invalidUrl address fault

theorem Unreadable.unique {address : String} {e e' : Context.Error} (h : Unreadable address e)
    (h' : Unreadable address e') : e = e' := by
  obtain ⟨fault, hfault, rfl⟩ := h
  obtain ⟨fault', hfault', rfl⟩ := h'
  rw [hfault] at hfault'
  rw [Except.error.inj hfault']

/-- A layer gets no offering only if it has a name and the address for maps does not parse. -/
theorem layerOffering_eq_error_iff {e : Context.Error} :
    layerOffering href caps capabilitiesHref layer = .error e ↔
      layer.name.isSome ∧ Unreadable (caps.mapHref.getD href) e := by
  cases hname : layer.name with
  | none => simp [layerOffering, hname]
  | some name =>
      cases hread : Url.read (caps.mapHref.getD href) with
      | error fault =>
          simp only [layerOffering, hname, MapRequest.mapUrl, hread, error_bind, addressed]
          simp [Unreadable, hread, eq_comm]
      | ok u =>
          simp only [layerOffering, hname, MapRequest.mapUrl, hread, ok_bind, addressed]
          simp [Unreadable, hread, pure, Except.pure]

/-- The resources of layers have their depths and the identifiers that are supplied. -/
theorem layerResources_eq_ok {index : Nat} {layers : List (Nat × Layer)} {rs : List Resource}
    (h : layerResources href caps capabilitiesHref fresh index layers = .ok rs) :
    rs.map (·.depth) = layers.map (·.1) ∧
      rs.map (·.id) = (List.range' index layers.length).map fresh := by
  induction layers generalizing index rs with
  | nil =>
      obtain rfl : [] = rs := Except.ok.inj h
      exact ⟨rfl, rfl⟩
  | cons entry rest ih =>
      obtain ⟨d, layer⟩ := entry
      cases hoffering : layerOffering href caps capabilitiesHref layer with
      | error e => simp [layerResources, hoffering] at h
      | ok offering =>
          cases hrest : layerResources href caps capabilitiesHref fresh (index + 1) rest with
          | error e => simp [layerResources, hoffering, hrest] at h
          | ok others =>
              obtain ⟨hdepths, hids⟩ := ih hrest
              simp only [layerResources, hoffering, hrest, ok_bind] at h
              obtain rfl := Except.ok.inj h
              cases offering with
              | none => simp [hdepths, hids, List.range'_succ]
              | some o =>
                  have hdepth : ((layerResource (fresh index) d layer).withOffering o).depth = d :=
                    depth_layerResource (fresh index) d layer
                  have hid : ((layerResource (fresh index) d layer).withOffering o).id =
                      fresh index := id_layerResource (fresh index) d layer
                  simp [hdepths, hids, List.range'_succ, hdepth, hid]

theorem layerResources_eq_error_iff {index : Nat} {layers : List (Nat × Layer)}
    {e : Context.Error} :
    layerResources href caps capabilitiesHref fresh index layers = .error e ↔
      (∃ entry ∈ layers, entry.2.name.isSome) ∧ Unreadable (caps.mapHref.getD href) e := by
  induction layers generalizing index with
  | nil => simp [layerResources]
  | cons entry rest ih =>
      obtain ⟨d, layer⟩ := entry
      simp only [layerResources]
      cases hoffering : layerOffering href caps capabilitiesHref layer with
      | error e' =>
          obtain ⟨hname, hbad⟩ := layerOffering_eq_error_iff.mp hoffering
          rw [error_bind, Except.error.injEq]
          constructor
          · rintro rfl
            exact ⟨⟨_, List.mem_cons_self, hname⟩, hbad⟩
          · rintro ⟨-, hbad'⟩
            exact hbad.unique hbad'
      | ok offering =>
          have hhere : ¬(layer.name.isSome ∧ Unreadable (caps.mapHref.getD href) e) := by
            rw [← layerOffering_eq_error_iff, hoffering]
            exact fun h => nomatch h
          rw [ok_bind, bind_pure_eq_error_iff, ih]
          constructor
          · rintro ⟨⟨entry, hentry, hname⟩, hbad⟩
            exact ⟨⟨entry, List.mem_cons_of_mem _ hentry, hname⟩, hbad⟩
          · rintro ⟨⟨entry, hentry, hname⟩, hbad⟩
            rcases List.mem_cons.mp hentry with rfl | hentry
            · exact absurd ⟨hname, hbad⟩ hhere
            · exact ⟨⟨entry, hentry, hname⟩, hbad⟩

/-- Resources built from the layers of a service can be renumbered, which gives them the places of
the layers below a root. -/
theorem renumbered_layerResources {staged : List Resource} (root : Nat)
    (h : layerResources href caps capabilitiesHref fresh 0 caps.rootLayer.preorder = .ok staged) :
    ∃ g : Forest, renumbered none root staged = .ok (g.numbered none root).flatten ∧
      g.ids = (List.range caps.rootLayer.count).map fresh ∧
      (g.numbered none root).flatten.map (·.folder.segments) =
        (caps.rootLayer.placesAt [root]).map (·.1) := by
  obtain ⟨hdepths, hids⟩ := layerResources_eq_ok h
  obtain ⟨g, hg, rfl, -, hplaces⟩ := Layer.exists_forest_at 0 caps.rootLayer hdepths
  refine ⟨g, Forest.renumbered_flatten hg none root, ?_, hplaces none root⟩
  rw [Forest.ids, hids, Layer.preorder, Layer.length_preorderAt, List.range_eq_range']

/-- The resources of a service list one tree, numbered as the given root. -/
theorem resourcesOf_eq_ok {root : Nat} {rs : List Resource}
    (h : resourcesOf href caps root fresh = .ok rs) :
    ∃ g : Forest, rs = (g.numbered none root).flatten ∧
      g.ids = (List.range caps.rootLayer.count).map fresh := by
  unfold resourcesOf at h
  cases hurl : addressed (caps.capabilitiesHref.getD href)
      (MapRequest.capabilitiesUrl (caps.capabilitiesHref.getD href) caps.version) with
  | error e => simp [hurl] at h
  | ok u =>
      cases hlayers : layerResources href caps u.display fresh 0 caps.rootLayer.preorder with
      | error e => simp [hurl, hlayers] at h
      | ok staged =>
          obtain ⟨g, hg, hids, -⟩ := renumbered_layerResources root hlayers
          simp only [hurl, hlayers, ok_bind, hg] at h
          exact ⟨g, (Except.ok.inj h).symm, hids⟩

/-- Resources are not built only if an address that is used does not parse: that for capabilities,
or, where a layer has a name, that for maps. -/
theorem resourcesOf_eq_error_iff {root : Nat} {e : Context.Error} :
    resourcesOf href caps root fresh = .error e ↔
      Unreadable (caps.capabilitiesHref.getD href) e ∨
      ((∃ u, Url.read (caps.capabilitiesHref.getD href) = .ok u) ∧
        (∃ entry ∈ caps.rootLayer.preorder, entry.2.name.isSome) ∧
        Unreadable (caps.mapHref.getD href) e) := by
  unfold resourcesOf
  cases hread : Url.read (caps.capabilitiesHref.getD href) with
  | error fault =>
      have hbad : Unreadable (caps.capabilitiesHref.getD href)
          (.invalidUrl (caps.capabilitiesHref.getD href) fault) := ⟨fault, hread, rfl⟩
      simp only [MapRequest.capabilitiesUrl, hread, error_bind, addressed, Except.error.injEq,
        reduceCtorEq, exists_false, false_and, or_false]
      constructor
      · rintro rfl
        exact hbad
      · exact hbad.unique
  | ok u =>
      have hgood : ¬Unreadable (caps.capabilitiesHref.getD href) e := by
        rintro ⟨fault, hfault, -⟩
        rw [hread] at hfault
        cases hfault
      obtain ⟨u', hurl⟩ : ∃ u', MapRequest.capabilitiesUrl (caps.capabilitiesHref.getD href)
          caps.version = .ok u' := ⟨_, by rw [MapRequest.capabilitiesUrl, hread]; rfl⟩
      simp only [hurl, ok_bind, addressed, hgood, false_or, Except.ok.injEq, exists_eq', true_and]
      rw [← @layerResources_eq_error_iff href u'.display caps fresh 0]
      cases hlayers : layerResources href caps u'.display fresh 0 caps.rootLayer.preorder with
      | error e' => simp
      | ok staged =>
          obtain ⟨g, hg, -⟩ := renumbered_layerResources root hlayers
          simp [hg]

variable {c : Context} {f : Forest}

/-- If the resources of a service can be built and their identifiers are new, they are appended as
one more tree. -/
theorem Lists.exists_append (h : c.Lists f) {rs : List Resource}
    (hrs : resourcesOf href caps c.nextRoot fresh = .ok rs)
    (hnew : ∀ i < caps.rootLayer.count, fresh i ∉ c.features.map (·.id))
    (hfresh : ∀ i < caps.rootLayer.count, ∀ j < caps.rootLayer.count, fresh i = fresh j → i = j) :
    ∃ g : Forest, c.append href caps fresh =
      .ok ({ c with
          features := ((f ++ g).numbered none 0).flatten
          services := addService href caps (rs.map Resource.id) c.services }.refreshCrs,
        rs.map Resource.id) := by
  obtain ⟨g, hg, hids⟩ := resourcesOf_eq_ok hrs
  have hnodup : (f ++ g).ids.Nodup := by
    rw [Forest.ids_append, hids]
    refine h.nodup.append ?_ ?_
    · refine List.Nodup.map_on ?_ List.nodup_range
      intro i hi j hj
      exact hfresh i (List.mem_range.mp hi) j (List.mem_range.mp hj)
    · intro a ha hmem
      obtain ⟨i, hi, rfl⟩ := List.mem_map.mp hmem
      rw [h.ids_eq] at ha
      exact hnew i (List.mem_range.mp hi) ha
  have hlisting : c.features ++ rs = ((f ++ g).numbered none 0).flatten := by
    rw [hg, h.nextRoot_eq, Forest.numbered_append, Forest.flatten_append, h.flatten_eq,
      Nat.zero_add]
  have hcommit := commit_of_perm (c := c) hnodup (List.Perm.of_eq hlisting)
  refine ⟨g, ?_⟩
  simp only [append, hrs, ok_bind, hcommit]
  rfl

end Context

end MapContext
