import MapContext.Proofs.Context.Contents
import MapContext.Proofs.MapRequest.ReadBack

/-!
# The resources of a service mirror its layers

Each layer of a service becomes one resource. Its folder is the place of the layer below the new
root, it carries what the service says about the layer, and its map request asks for the layer.
-/

namespace MapContext.Context

open FolderPath MapRequest Text

variable {href capabilitiesHref : String} {caps : Capabilities} {layer : Layer}
  {fresh : Nat → Resource.Id} {r : Resource}

/-- The format in which maps are requested from a service that names formats. -/
inductive Chosen : List String → String → Prop
  /-- PNG where it is named. -/
  | named {formats : List String} : "image/png" ∈ formats → Chosen formats "image/png"
  /-- PNG where no format is named. -/
  | silent : Chosen [] "image/png"
  /-- The first format where only others are named. -/
  | first {format : String} {rest : List String} :
      "image/png" ∉ format :: rest → Chosen (format :: rest) format

/-- A service has exactly one chosen format. -/
theorem chosen_iff {format : String} :
    Chosen caps.mapFormats format ↔ format = mapFormat caps := by
  unfold mapFormat preferredFormat
  generalize caps.mapFormats = formats
  constructor
  · intro h
    cases h with
    | named hnamed =>
        obtain ⟨first, rest, rfl⟩ := List.exists_cons_of_ne_nil (List.ne_nil_of_mem hnamed)
        exact (if_pos (List.contains_iff_mem.mpr hnamed)).symm
    | silent => rfl
    | first hnot => exact (if_neg fun hnamed => hnot (List.contains_iff_mem.mp hnamed)).symm
  · rintro rfl
    cases formats with
    | nil => exact .silent
    | cons first rest =>
        dsimp only
        split
        · next hnamed => exact .named (List.contains_iff_mem.mp hnamed)
        · next hnot => exact .first fun hnamed => hnot (List.contains_iff_mem.mpr hnamed)

/-- What the resource of a layer shows of it. -/
structure Shows (caps : Capabilities) (layer : Layer) (r : Resource) : Prop where
  /-- The reference systems. -/
  crs : r.properties.crs = layer.crs
  /-- The extent. -/
  bbox : r.bbox = layer.bbox
  /-- The description. -/
  description : r.properties.description = layer.description
  /-- The least scale denominator. -/
  minScale : r.properties.minScale = layer.minScale
  /-- The greatest scale denominator. -/
  maxScale : r.properties.maxScale = layer.maxScale
  /-- Only a layer with a name is offered. -/
  offered : r.wmsOffering?.isSome = layer.name.isSome
  /-- The map request of a layer with a name asks for it, in its first style if it has any, in the
  chosen format and by the version of the service. -/
  request : ∀ name, layer.name = some name → ∃ address format,
    r.mapHref? = some address ∧ Chosen caps.mapFormats format ∧
      ReadBack
        [("LAYERS", name), ("STYLES", layer.styles.head?.getD ""), ("FORMAT", format),
          ("VERSION", caps.version)] address

/-- What is shown of a layer does not depend on the folder. -/
theorem shows_atFolder {p : FolderPath} :
    Shows caps layer (r.atFolder p) ↔ Shows caps layer r := by
  constructor
  · intro h
    exact ⟨h.crs, h.bbox, h.description, h.minScale, h.maxScale, h.offered, h.request⟩
  · intro h
    exact ⟨h.crs, h.bbox, h.description, h.minScale, h.maxScale, h.offered, h.request⟩

/-! ### One layer -/

theorem addressed_eq_ok {α : Type} {href : String} {read : Except Url.Error α} {a : α}
    (h : addressed href read = .ok a) : read = .ok a := by
  cases read with
  | ok b => exact congrArg Except.ok (Except.ok.inj h)
  | error fault => cases h

theorem offerings_layerResource (id : Resource.Id) (d : Nat) (layer : Layer) :
    (layerResource id d layer).properties.offerings = [] := by
  unfold layerResource
  cases layer.bbox with
  | none => rfl
  | some b => rfl

theorem wmsOffering?_layerResource (id : Resource.Id) (d : Nat) (layer : Layer) :
    (layerResource id d layer).wmsOffering? = none := by
  rw [Resource.wmsOffering?, offerings_layerResource, List.find?_nil]

theorem wmsOffering?_withOffering (id : Resource.Id) (d : Nat) (layer : Layer)
    (capabilitiesHref mapHref format : String) :
    ((layerResource id d layer).withOffering
      (.wms capabilitiesHref mapHref format)).wmsOffering? =
        some (.wms capabilitiesHref mapHref format) := by
  simp [Resource.wmsOffering?, Resource.withOffering, offerings_layerResource, Offering.wms]

theorem operation?_wms (capabilitiesHref mapHref format : String) :
    (Offering.wms capabilitiesHref mapHref format).operation? "GetMap" =
      some (.get "GetMap" mapHref (some format)) := by
  have hother : sameIgnoringCase "GetCapabilities" "GetMap" = false := by decide
  have hsame : sameIgnoringCase "GetMap" "GetMap" = true := by decide
  simp [Offering.operation?, Offering.wms, Operation.get, hother, hsame]

theorem isSome_of_layerOffering {offering : Option Offering}
    (h : layerOffering href caps capabilitiesHref layer = .ok offering) :
    offering.isSome = layer.name.isSome := by
  rw [layerOffering] at h
  split at h
  · next hname =>
      obtain rfl := Except.ok.inj h
      rw [hname, Option.isSome_none, Option.isSome_none]
  · next name hname =>
      obtain ⟨u, -, h⟩ := bind_eq_ok_iff.mp h
      obtain rfl := Except.ok.inj h
      rw [hname, Option.isSome_some, Option.isSome_some]

theorem shows_layerResource (hname : layer.name = none) (id : Resource.Id) (d : Nat) :
    Shows caps layer (layerResource id d layer) := by
  constructor
  case offered => rw [wmsOffering?_layerResource, hname]; rfl
  case request => simp [hname]
  all_goals
    unfold layerResource
    cases layer.bbox <;> rfl

theorem shows_withOffering {name : String} {offering : Offering} (hname : layer.name = some name)
    (hoffering : layerOffering href caps capabilitiesHref layer = .ok (some offering))
    (id : Resource.Id) (d : Nat) :
    Shows caps layer ((layerResource id d layer).withOffering offering) := by
  rw [layerOffering, hname] at hoffering
  obtain ⟨u, hu, hoffering⟩ := bind_eq_ok_iff.mp hoffering
  obtain rfl := Option.some.inj (Except.ok.inj hoffering)
  constructor
  case offered => rw [wmsOffering?_withOffering, hname]; rfl
  case request =>
    intro name' hname'
    obtain rfl : name = name' := Option.some.inj (hname.symm.trans hname')
    refine ⟨u.display, mapFormat caps, ?_, chosen_iff.mpr rfl, ?_⟩
    · rw [Resource.mapHref?, Resource.wmsHref?, wmsOffering?_withOffering, Option.bind_some,
        operation?_wms]
      rfl
    · exact (readBack_mapUrl (addressed_eq_ok hu)).of_subset fun p hp => by
        simp only [List.mem_cons, List.not_mem_nil, or_false] at hp
        rcases hp with rfl | rfl | rfl | rfl <;> simp [mapParams]
  all_goals
    unfold layerResource
    cases layer.bbox <;> rfl

/-! ### All layers -/

theorem shows_layerResources {index : Nat} {layers : List (Nat × Layer)} {rs : List Resource}
    (h : layerResources href caps capabilitiesHref fresh index layers = .ok rs) :
    List.Forall₂ (fun entry r => Shows caps entry.2 r) layers rs := by
  induction layers generalizing index rs with
  | nil =>
      obtain rfl : [] = rs := Except.ok.inj h
      exact .nil
  | cons entry rest ih =>
      obtain ⟨d, layer⟩ := entry
      rw [layerResources] at h
      obtain ⟨offering, hoffering, h⟩ := bind_eq_ok_iff.mp h
      obtain ⟨others, hothers, h⟩ := bind_eq_ok_iff.mp h
      obtain rfl := Except.ok.inj h
      refine .cons ?_ (ih hothers)
      have hsome := isSome_of_layerOffering hoffering
      cases offering with
      | none =>
          have hname := Option.isSome_eq_false_iff.mp hsome.symm
          exact shows_layerResource (Option.isNone_iff_eq_none.mp hname) _ _
      | some o =>
          obtain ⟨name, hname⟩ := Option.isSome_iff_exists.mp hsome.symm
          exact shows_withOffering hname hoffering _ _

/-- The resources of a service are those of its layers, at the places of the layers. -/
theorem shows_resourcesOf {root : Nat} {rs : List Resource}
    (h : resourcesOf href caps root fresh = .ok rs) :
    List.Forall₂ (fun entry r => r.folder.segments = root :: entry.1 ∧ Shows caps entry.2 r)
      caps.rootLayer.places rs := by
  obtain ⟨u, -, h⟩ := bind_eq_ok_iff.mp h
  obtain ⟨staged, hstaged, h⟩ := bind_eq_ok_iff.mp h
  obtain ⟨g, hg, -, hfolders⟩ := renumbered_layerResources root hstaged
  have hplaced := map_atFolder_renumbered h (.root 0)
  obtain rfl := Except.ok.inj (hg.symm.trans h)
  -- The folders are those of the places, and renumbering changes nothing else.
  have hfolder : List.Forall₂ (fun entry r => r.folder.segments = root :: entry.1)
      caps.rootLayer.places (g.numbered none root).flatten := by
    rw [Layer.placesAt_singleton, List.map_map, ← List.forall₂_eq_eq_eq,
      List.forall₂_map_left_iff, List.forall₂_map_right_iff] at hfolders
    exact hfolders.flip
  have hshown : List.Forall₂ (fun entry r => Shows caps entry.2 r) caps.rootLayer.places
      (g.numbered none root).flatten := by
    have hkept : List.Forall₂ (fun entry r => Shows caps entry.2 r) caps.rootLayer.places
        (staged.map (·.atFolder (.root 0))) := by
      have hstaged := shows_layerResources hstaged
      rw [← Layer.map_places, List.forall₂_map_left_iff] at hstaged
      rw [List.forall₂_map_right_iff]
      exact hstaged.imp fun _ _ hs => shows_atFolder.mpr hs
    rw [← hplaced, List.forall₂_map_right_iff] at hkept
    exact hkept.imp fun _ _ hr => shows_atFolder.mp hr
  exact List.Forall₂.mp (fun _ _ => And.intro) hfolder hshown

/-- The layers in document order are those at the places, so either has one with a name. -/
theorem exists_named_iff (layer : Layer) :
    (∃ entry ∈ layer.preorder, entry.2.name.isSome = true) ↔
      ∃ path inner, layer.at? path = some inner ∧ inner.name.isSome = true := by
  have hmem := (Layer.inDocumentOrder_places layer).mem
  rw [← Layer.map_places]
  constructor
  · rintro ⟨entry, hentry, hname⟩
    obtain ⟨⟨path, inner⟩, hplace, rfl⟩ := List.mem_map.mp hentry
    exact ⟨path, inner, (hmem path inner).mp hplace, hname⟩
  · rintro ⟨path, inner, hat, hname⟩
    exact ⟨_, List.mem_map_of_mem ((hmem path inner).mpr hat), hname⟩

/-- An address that the resources of a service need does not parse: that for capabilities, or, if
some layer has a name, that for maps. -/
def Unaddressed (href : String) (caps : Capabilities) : Prop :=
  (∃ fault, Url.read (caps.capabilitiesHref.getD href) = .error fault) ∨
    (∃ path layer, caps.rootLayer.at? path = some layer ∧ layer.name.isSome = true) ∧
      ∃ fault, Url.read (caps.mapHref.getD href) = .error fault

/-- Resources are not built only if an address that they need does not parse, and the error is about
such an address. Otherwise there is one resource for each layer, in document order, with the place
of the layer below the given root as its folder. It is offered only if the layer has a name, its map
request is read back with the name, the first style, the format and the version, and it shows the
other fields of the layer. -/
theorem resources_mirror_layers (href : String) (caps : Capabilities) (root : Nat)
    (fresh : Nat → Resource.Id) :
    ((∃ e, resourcesOf href caps root fresh = .error e) ↔ Unaddressed href caps) ∧
    (∀ e, resourcesOf href caps root fresh = .error e →
      Unreadable (caps.capabilitiesHref.getD href) e ∨ Unreadable (caps.mapHref.getD href) e) ∧
    Layer.InDocumentOrder caps.rootLayer caps.rootLayer.places ∧
    (¬Unaddressed href caps → ∃ rs, resourcesOf href caps root fresh = .ok rs ∧
      List.Forall₂ (fun entry r => r.folder.segments = root :: entry.1 ∧ Shows caps entry.2 r)
        caps.rootLayer.places rs) := by
  have hfails : (∃ e, resourcesOf href caps root fresh = .error e) ↔ Unaddressed href caps := by
    constructor
    · rintro ⟨e, he⟩
      rcases resourcesOf_eq_error_iff.mp he with ⟨fault, hfault, -⟩ | ⟨-, hnamed, hbad⟩
      · exact .inl ⟨fault, hfault⟩
      · obtain ⟨fault, hfault, -⟩ := hbad
        exact .inr ⟨(exists_named_iff caps.rootLayer).mp hnamed, fault, hfault⟩
    · rintro hbad
      cases hread : Url.read (caps.capabilitiesHref.getD href) with
      | error fault => exact ⟨_, resourcesOf_eq_error_iff.mpr (.inl ⟨fault, hread, rfl⟩)⟩
      | ok u =>
          rcases hbad with ⟨fault, hfault⟩ | ⟨hnamed, fault, hfault⟩
          · exact absurd (hread.symm.trans hfault) (fun h => nomatch h)
          · exact ⟨_, resourcesOf_eq_error_iff.mpr (.inr ⟨⟨u, hread⟩,
              (exists_named_iff caps.rootLayer).mpr hnamed, fault, hfault, rfl⟩)⟩
  refine ⟨hfails, fun e he => ?_, Layer.inDocumentOrder_places caps.rootLayer, fun hgood => ?_⟩
  · rcases resourcesOf_eq_error_iff.mp he with hbad | ⟨-, -, hbad⟩
    · exact .inl hbad
    · exact .inr hbad
  · cases hrs : resourcesOf href caps root fresh with
    | error e => exact absurd (hfails.mp ⟨e, hrs⟩) hgood
    | ok rs => exact ⟨rs, rfl, shows_resourcesOf hrs⟩

/-- A service with a group of rails and stations, and a layer of roads beside the group. -/
def traffic : Capabilities where
  version := "1.3.0"
  serviceTitle := none
  serviceDescription := none
  capabilitiesHref := none
  mapHref := some "map://city/wms?map=traffic"
  mapFormats := ["image/jpeg"]
  rootLayer :=
    { layers :=
        [{ layers := [{ name := some "rails", styles := ["thin", "bold"] },
            { name := some "stations" }] },
          { name := some "roads" }] }

/-- The rails are at their place below the root. Their first style is requested, in the only format
that the service names. -/
theorem traffic_mirrored :
    ∃ rs, resourcesOf "map://city/wms" traffic 2 (fun _ => "layer") = .ok rs ∧
      rs.map (·.folder.segments) = [[2], [2, 0], [2, 0, 0], [2, 0, 1], [2, 1]] ∧
      ∃ r ∈ rs, r.folder.segments = [2, 0, 0] ∧ ∃ address, r.mapHref? = some address ∧
        Url.lookup? (Url.textPairs address) "layers" = some "rails" ∧
        Url.lookup? (Url.textPairs address) "styles" = some "thin" ∧
        Url.lookup? (Url.textPairs address) "format" = some "image/jpeg" ∧
        Url.lookup? (Url.textPairs address) "version" = some "1.3.0" := by
  have hreads : ((Url.read "map://city/wms").toOption.isSome &&
      (Url.read "map://city/wms?map=traffic").toOption.isSome) = true := by decide +kernel
  have hgood : ¬Unaddressed "map://city/wms" traffic := by
    rintro (⟨fault, hfault⟩ | ⟨-, fault, hfault⟩)
    · rw [show traffic.capabilitiesHref.getD "map://city/wms" = "map://city/wms" from rfl]
        at hfault
      rw [hfault] at hreads
      cases hreads
    · rw [show traffic.mapHref.getD "map://city/wms" = "map://city/wms?map=traffic" from rfl]
        at hfault
      rw [hfault, Bool.and_comm] at hreads
      cases hreads
  obtain ⟨-, -, -, hmirror⟩ :=
    resources_mirror_layers "map://city/wms" traffic 2 fun _ => "layer"
  obtain ⟨rs, hrs, hall⟩ := hmirror hgood
  have hfolders : rs.map (·.folder.segments) = traffic.rootLayer.places.map fun p => 2 :: p.1 := by
    rw [← List.forall₂_eq_eq_eq, List.forall₂_map_left_iff, List.forall₂_map_right_iff]
    exact (hall.imp fun _ _ h => h.1).flip
  refine ⟨rs, hrs, hfolders.trans rfl, ?_⟩
  have hrails : (([0, 0], { name := some "rails", styles := ["thin", "bold"] }) :
      List Nat × Layer) ∈ traffic.rootLayer.places :=
    List.mem_of_getElem? (i := 2) rfl
  obtain ⟨r, hr, hfolder, hshows⟩ := exists_of_mem_forall₂ hall hrails
  obtain ⟨address, format, haddress, hformat, hback⟩ := hshows.request "rails" rfl
  obtain rfl : format = "image/jpeg" := chosen_iff.mp hformat
  refine ⟨r, hr, hfolder, address, haddress, ?_, ?_, ?_, ?_⟩
  · exact hback.text ("LAYERS", "rails") (by simp) "layers" (by decide)
  · exact hback.text ("STYLES", "thin") (by simp) "styles" (by decide)
  · exact hback.text ("FORMAT", "image/jpeg") (by simp) "format" (by decide)
  · exact hback.text ("VERSION", "1.3.0") (by simp [traffic]) "version" (by decide)

end MapContext.Context
