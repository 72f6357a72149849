import MapContext.Capabilities.Reading
import MapContext.Proofs.Context.Contents
import MapContext.Proofs.Context.Saving

/-!
# Authored contexts

A context is authored if it was begun empty or loaded from a text and then edited, with resources
that were built and services that were read. Such a context is as proper as one that was just
loaded, so it can be saved and loaded back exactly if it is durable. It need not be: the description
of a service may give a layer an infinite extent.
-/

namespace MapContext

open Json

namespace Resource

/-- The resources that are built in a program, from any data. -/
inductive Built : Resource → Prop
  /-- A resource without services at a folder. -/
  | new (id : Id) (folder : FolderPath) (title : String) : Built (.new id folder title)
  /-- An extent is set. -/
  | withBox {r : Resource} (h : Built r) (b : BoundingBox) : Built (r.withBox b)
  /-- A service is added; its other members are sorted, as all members in memory are. -/
  | withOffering {r : Resource} (h : Built r) {o : Offering} (ho : o.extension.Sorted) :
      Built (r.withOffering o)
  /-- Reference systems are set. -/
  | withCrs {r : Resource} (h : Built r) (crs : List String) : Built (r.withCrs crs)
  /-- The resource is switched. -/
  | switched {r : Resource} (h : Built r) (active : Bool) : Built (r.switched active)

variable {r s : Resource}

/-- Whether a resource is proper depends neither on its place nor on its switch. -/
theorem proper_content_iff : r.content.Proper ↔ r.Proper := by
  constructor
  · rintro ⟨hkind, hupdated, hofferings, hsorted, hunknown⟩
    exact ⟨hkind, hupdated, hofferings, hsorted, hunknown⟩
  · rintro ⟨hkind, hupdated, hofferings, hsorted, hunknown⟩
    exact ⟨hkind, hupdated, hofferings, hsorted, hunknown⟩

theorem forall_proper_iff {rs : List Resource} :
    (∀ x ∈ rs.map content, x.Proper) ↔ ∀ r ∈ rs, r.Proper := by
  simp only [List.forall_mem_map, proper_content_iff]

theorem Proper.withOffering (h : r.Proper) {o : Offering} (ho : o.extension.Sorted) :
    (r.withOffering o).Proper := by
  refine ⟨h.kind, h.properties.updated, ?_, h.properties.sorted, h.properties.unknown⟩
  intro o' ho'
  rcases List.mem_append.mp ho' with ho' | ho'
  · exact h.properties.offerings o' ho'
  · rw [List.mem_singleton.mp ho']
    exact ho

theorem Built.proper (h : r.Built) : r.Proper := by
  induction h with
  | new id folder title => exact ⟨rfl, Properties.proper_new folder title⟩
  | withBox _ b ih => exact ⟨ih.kind, ih.properties⟩
  | withOffering _ ho ih => exact ih.withOffering ho
  | withCrs _ crs ih =>
      exact ⟨ih.kind, ih.properties.updated, ih.properties.offerings, ih.properties.sorted,
        ih.properties.unknown⟩
  | @switched r _ active ih =>
      rw [← proper_content_iff, content_switched, proper_content_iff]
      exact ih

end Resource

namespace Context

variable {c c' : Context}

/-! ### The resources of a service are proper -/

theorem proper_layerResource (id : Resource.Id) (depth : Nat) (layer : Layer) :
    (layerResource id depth layer).Proper := by
  have hnew := Resource.Properties.proper_new ⟨List.replicate (depth + 1) 0, by simp⟩
    (if layer.title.isEmpty then layer.name.getD "" else layer.title)
  unfold layerResource
  cases layer.bbox with
  | none => exact ⟨rfl, hnew.updated, hnew.offerings, hnew.sorted, hnew.unknown⟩
  | some b => exact ⟨rfl, hnew.updated, hnew.offerings, hnew.sorted, hnew.unknown⟩

theorem layerOffering_sorted {href capabilitiesHref : String} {capabilities : Capabilities}
    {layer : Layer} {o : Offering}
    (h : layerOffering href capabilities capabilitiesHref layer = .ok (some o)) :
    o.extension.Sorted := by
  unfold layerOffering at h
  split at h
  · cases h
  · obtain ⟨u, -, h⟩ := bind_eq_ok_iff.mp h
    cases h
    exact ⟨by simp [Offering.wms, Members.Ascending], by simp [Offering.wms]⟩

theorem proper_layerResources {href capabilitiesHref : String} {capabilities : Capabilities}
    {fresh : Nat → Resource.Id} {index : Nat} {layers : List (Nat × Layer)} {rs : List Resource}
    (h : layerResources href capabilities capabilitiesHref fresh index layers = .ok rs) :
    ∀ r ∈ rs, r.Proper := by
  induction layers generalizing index rs with
  | nil =>
      cases h
      simp
  | cons entry layers ih =>
      obtain ⟨depth, layer⟩ := entry
      obtain ⟨offering, hoffering, h⟩ := bind_eq_ok_iff.mp h
      obtain ⟨others, hothers, h⟩ := bind_eq_ok_iff.mp h
      have hlayer := proper_layerResource (fresh index) depth layer
      cases offering with
      | none =>
          cases h
          exact List.forall_mem_cons.mpr ⟨hlayer, ih hothers⟩
      | some o =>
          cases h
          exact List.forall_mem_cons.mpr
            ⟨hlayer.withOffering (layerOffering_sorted hoffering), ih hothers⟩

/-! ### Edits keep contexts proper -/

/-- An edit with a resource that was built or a service that was read. -/
def Edit.Authored : Edit → Prop
  | .insert _ resource _ => resource.Built
  | .append _ capabilities _ => ∃ text, Capabilities.read text = .ok capabilities
  | _ => True

/-- The contexts that are authored: begun empty or loaded, and then edited. -/
inductive Authored : Context → Prop
  /-- An empty context. -/
  | empty (id : String) : Authored (Context.empty id)
  /-- A context that is loaded. -/
  | load {text : String} {c : Context} : Context.read text = .ok c → Authored c
  /-- A context after one more edit. -/
  | edit {c c' : Context} (e : Edit) : Authored c → e.Authored → e.apply c = .ok c' → Authored c'

theorem properties_of_commit {staged : List Resource} (h : c.commit staged = .ok c') :
    c'.properties = c.properties := by
  obtain ⟨-, rfl⟩ := commit_eq_ok_iff.mp h
  rfl

/-- No edit touches the metadata. -/
theorem properties_of_apply {e : Edit} (h : e.apply c = .ok c') :
    c'.properties = c.properties := by
  cases e with
  | move source target position =>
      obtain ⟨⟨_, outcome⟩, hmove, rfl⟩ := map_eq_ok_iff.mp h
      rcases move_eq_ok_cases hmove with rfl | ⟨_, _, _, _, _, _, -, hcommit⟩
      · rfl
      · exact properties_of_commit hcommit
  | insert target resource position =>
      obtain ⟨_, _, _, c₁, -, hcommit, rfl⟩ := insert_eq_ok_cases h
      have hsame := properties_of_commit hcommit
      exact hsame
  | remove target =>
      obtain ⟨⟨_, removed⟩, hremove, rfl⟩ := map_eq_ok_iff.mp h
      obtain ⟨_, _, c₁, -, -, hcommit, rfl⟩ := remove_eq_ok_cases hremove
      have hsame := properties_of_commit hcommit
      exact hsame
  | activate target active =>
      obtain ⟨t, -, rfl⟩ := activate_eq_ok_cases h
      rfl
  | append href capabilities fresh =>
      obtain ⟨⟨_, ids⟩, happend, rfl⟩ := map_eq_ok_iff.mp h
      obtain ⟨_, c₁, -, -, hcommit, rfl⟩ := append_eq_ok_cases happend
      have hsame := properties_of_commit hcommit
      exact hsame

/-- An edit leaves resources proper if those that it brings along are. -/
theorem Edit.Authored.features_proper {e : Edit} (he : e.Authored)
    (hc : ∀ r ∈ c.features, r.Proper) (h : e.apply c = .ok c') : ∀ r ∈ c'.features, r.Proper := by
  rw [← Resource.forall_proper_iff] at hc ⊢
  cases e with
  | move source target position =>
      obtain ⟨⟨_, outcome⟩, hmove, rfl⟩ := map_eq_ok_iff.mp h
      intro x hx
      exact hc x ((map_content_of_move hmove).mem_iff.mp hx)
  | insert target resource position =>
      intro x hx
      rcases List.mem_cons.mp ((map_content_of_insert h).mem_iff.mp hx) with rfl | hx
      · exact Resource.proper_content_iff.mpr he.proper
      · exact hc x hx
  | remove target =>
      obtain ⟨⟨_, removed⟩, hremove, rfl⟩ := map_eq_ok_iff.mp h
      intro x hx
      exact hc x ((map_content_of_remove hremove).mem_iff.mp (List.mem_append_left _ hx))
  | activate target active =>
      rw [map_content_of_activate h]
      exact hc
  | append href capabilities fresh =>
      obtain ⟨⟨_, ids⟩, happend, rfl⟩ := map_eq_ok_iff.mp h
      obtain ⟨rs, hrs, hperm⟩ := map_content_of_append happend
      obtain ⟨_, layers, hlayers, hcontent⟩ := map_content_of_resourcesOf hrs
      intro x hx
      rcases List.mem_append.mp (hperm.mem_iff.mp hx) with hx | hx
      · exact hc x hx
      · rw [hcontent] at hx
        exact Resource.forall_proper_iff.mpr (proper_layerResources hlayers) x hx

/-- Every authored context is proper. -/
theorem Authored.proper (h : Authored c) : c.Proper := by
  induction h with
  | empty id =>
      have hproperties : (Context.empty id).properties.Proper :=
        ⟨by simp [Context.empty], by simp [Context.empty]⟩
      exact ⟨rfl, by simp [Context.empty], hproperties⟩
  | load h => exact proper_of_read h
  | edit e _ he happly ih =>
      refine ⟨validate_of_apply ih.valid happly, he.features_proper ih.features happly, ?_⟩
      rw [properties_of_apply happly]
      exact ih.properties

/-- An authored context can be saved and loaded back, with the same identifier and the same
resources, exactly if it is durable. -/
theorem Authored.reload_iff_durable (h : Authored c) :
    (∃ d, Context.read c.text = .ok d ∧ d.id = c.id ∧ d.features = c.features) ↔ c.Durable :=
  h.proper.read_text_iff

/-- The box around the world. -/
def worldBox : BoundingBox := ⟨-180, -90, 180, 90⟩

/-- The opacity with which a layer is drawn. -/
def opacity : Members := [("opacity", .number (.float ⟨0.5, by decide +kernel⟩))]

/-- A layer of the world that is half transparent. -/
def worldLayer : Resource :=
  ((Resource.new "world" (.root 0) "World").withBox worldBox).withOffering ⟨"tiles", [], opacity⟩

theorem durable_worldLayer : worldLayer.Durable 125 := by
  have hwest : DurableFloat worldBox.minX := ⟨by decide +kernel, by rfl⟩
  have hsouth : DurableFloat worldBox.minY := ⟨by decide +kernel, by rfl⟩
  have heast : DurableFloat worldBox.maxX := ⟨by decide +kernel, by rfl⟩
  have hnorth : DurableFloat worldBox.maxY := ⟨by decide +kernel, by rfl⟩
  have hopacity : ∀ m ∈ opacity, m.2.Fits Number.Durable 122 := by
    simp only [opacity, List.forall_mem_singleton, Value.fits_number]
    rfl
  have hoffering : Offering.Durable ⟨"tiles", [], opacity⟩ 122 := ⟨by decide, hopacity⟩
  have hbox := BoundingBox.durable_iff.mpr ⟨hwest, hsouth, heast, hnorth⟩
  have hscale : ∀ x ∈ (none : Option Float), DurableFloat x := fun _ hx => nomatch hx
  have hextension : ∀ m ∈ ([] : Members), m.2.Fits Number.Durable 124 := fun _ hm => nomatch hm
  refine ⟨⟨?_, ?_, hscale, hscale, hextension⟩, ?_, ?_⟩
  · intro i hi
    cases List.mem_singleton.mp hi
    decide
  · intro o ho
    cases List.mem_singleton.mp ho
    exact hoffering
  · intro b hb
    cases hb
    exact hbox
  · intro g hg
    cases hg
    exact Geometry.durable_ofBox hbox

/-- A map of the world can be saved and loaded back. -/
theorem world_reloads :
    ∃ c, Authored c ∧ c.Durable ∧ c.features ≠ [] ∧
      ∃ d, Context.read c.text = .ok d ∧ d.id = c.id ∧ d.features = c.features := by
  let c : Context := { Context.empty "map" with features := [worldLayer] }.refreshCrs
  have hsorted : opacity.Sorted :=
    ⟨by simp [opacity, Members.Ascending], by simpa [opacity] using .number _⟩
  have hbuilt : worldLayer.Built := .withOffering (.withBox (.new _ _ _) _) hsorted
  have hcommit : (Context.empty "map").commit [worldLayer] =
      .ok { Context.empty "map" with features := [worldLayer] } :=
    commit_of_perm (f := .tree worldLayer .nil .nil) (by decide) (.refl _)
  have hinsert : (Edit.insert none worldLayer .lastChild).apply (Context.empty "map") = .ok c :=
    congrArg (fun x : Except Error Context => x >>= fun c => pure c.refreshCrs) hcommit
  have hauthored : Authored c :=
    .edit (.insert none worldLayer .lastChild) (.empty "map") hbuilt hinsert
  have hdurable : c.Durable := by
    refine ⟨?_, ?_⟩
    · intro r hr
      cases List.mem_singleton.mp hr
      exact durable_worldLayer
    · intro m hm
      cases hm
  exact ⟨c, hauthored, hdurable, List.cons_ne_nil _ _, hauthored.reload_iff_durable.mpr hdurable⟩

/-- A service whose only layer extends without end to the west. -/
def endlessService : String :=
  "<WMS_Capabilities><Layer><Title>All</Title>" ++
    "<LatLonBoundingBox minx=\"-inf\" miny=\"0\" maxx=\"1\" maxy=\"1\"/>" ++
    "</Layer></WMS_Capabilities>"

/-- Whether the western edge of a resource is not finite. -/
def isEndless (r : Resource) : Bool := r.bbox.any fun b => !b.minX.isFinite

/-- The layer of such a service is appended, and the saved context cannot be loaded any more. -/
theorem endless_layer_not_reloaded :
    ∃ capabilities c, Capabilities.read endlessService = .ok capabilities ∧
      (Edit.append "a:b" capabilities fun _ => "layer").apply (Context.empty "map") = .ok c ∧
      Authored c ∧ ∀ d, Context.read c.text ≠ .ok d := by
  have hservice : ((Capabilities.read endlessService).toOption.any fun capabilities =>
      capabilities.rootLayer.count == 1 &&
      (resourcesOf "a:b" capabilities 0 fun _ => "layer").toOption.any (·.any isEndless)) =
      true := by
    decide +kernel
  obtain ⟨capabilities, hread, hlayer⟩ := exists_eq_ok_of_any hservice
  rw [Bool.and_eq_true, beq_iff_eq] at hlayer
  obtain ⟨hcount, hlayer⟩ := hlayer
  obtain ⟨rs, hrs, hendless⟩ := exists_eq_ok_of_any hlayer
  have hempty : (Context.empty "map").Lists .nil := ⟨rfl, List.nodup_nil⟩
  obtain ⟨g, happend⟩ := hempty.exists_append hrs (by simp [Context.empty]) (by omega)
  obtain ⟨rs', hrs', hperm⟩ := map_content_of_append happend
  obtain rfl : rs = rs' := Except.ok.inj (hrs.symm.trans hrs')
  have happly := congrArg (Except.map (·.1)) happend
  refine ⟨capabilities, _, hread, happly, ?_, ?_⟩
  · exact .edit (.append "a:b" capabilities fun _ => "layer") (.empty "map") ⟨_, hread⟩ happly
  · intro d hd
    obtain ⟨r, hr, hr'⟩ := List.any_eq_true.mp hendless
    have hmem := hperm.mem_iff.mpr (List.mem_append_right _ (List.mem_map_of_mem hr))
    obtain ⟨s, hs, hcontent⟩ := List.mem_map.mp hmem
    have hbbox : s.content.bbox = r.content.bbox := congrArg Resource.bbox hcontent
    obtain ⟨b, hb, hwest⟩ := (Option.any_eq_true _ _).mp hr'
    have hfinite := isFinite_of_read_text hd s hs b (hbbox.trans hb) b.minX List.mem_cons_self
    rw [hfinite] at hwest
    cases hwest

end Context

end MapContext
