import MapContext.Proofs.Context.Removing
import MapContext.Proofs.Context.ServiceHistory
import MapContext.Proofs.Forest.Planting

/-!
# Insertions and how they are taken back

An insertion plants one resource into the forest as a leaf. Of the other resources it changes
nothing but folders, and removing the new resource right away gives back the resources and the
services as they were.
-/

namespace MapContext

namespace Forest

variable {f : Forest} {r : Resource} {target : Option Resource.Id}

theorem detach_plant (h : r.id ∉ f.ids) (target : Option Resource.Id) (position : Position) :
    (f.plant r target position).detach r.id = f := by
  cases target with
  | none => rw [plant, detach_append h, detach_root, append_nil]
  | some id => exact detach_graft h nil id position

theorem branch_plant (h : r.id ∉ f.ids) (hids : f.ids.Nodup)
    (htarget : ∀ id, target = some id → id ∈ f.ids) (position : Position) :
    (f.plant r target position).branch r.id = tree r nil nil := by
  cases target with
  | none => rw [plant, branch_append h, branch_root]
  | some id => exact branch_graft h nil (htarget id rfl) hids position

/-- Planting adds one edge. -/
theorem exists_edges_plant (hids : f.ids.Nodup) (r : Resource)
    (htarget : ∀ id, target = some id → id ∈ f.ids) (position : Position) :
    ∃ new, ((f.plant r target position).edges none).Perm (f.edges none ++ [(r.id, new)]) := by
  cases target with
  | none => exact ⟨none, .of_eq (edges_append none f _)⟩
  | some id => exact exists_edges_graft (tree r nil nil) (htarget id rfl) hids position none

end Forest

namespace Context

open FolderPath Forest

variable {c c' : Context} {f : Forest} {r t : Resource} {target : Option Resource.Id}
  {position : Position}

/-! ### Services -/

theorem Service.without_eq_self_iff {s : Service} {removed : List Resource} :
    s.without removed = s ↔ ∀ id ∈ s.resources, id ∉ removed.map (·.id) := by
  have hfilter : s.without removed = s ↔
      s.resources.filter (fun id => !removed.any (·.id == id)) = s.resources := by
    constructor
    · exact congrArg Service.resources
    · exact fun h => congrArg (Service.mk s.capabilities) h
  rw [hfilter, List.filter_eq_self]
  simp

theorem length_dropFromServices_le (removed : List Resource) (services : List (String × Service)) :
    (dropFromServices removed services).length ≤ services.length := by
  rw [dropFromServices]
  exact (List.length_filter_le _ _).trans (by simp)

/-- A removal leaves the services alone exactly if every entry names some resource and none names
one that is removed. -/
theorem dropFromServices_eq_self_iff {removed : List Resource}
    {services : List (String × Service)} :
    dropFromServices removed services = services ↔
      ∀ entry ∈ services, entry.2.resources ≠ [] ∧
        ∀ id ∈ entry.2.resources, id ∉ removed.map (·.id) := by
  induction services with
  | nil => simp [dropFromServices]
  | cons entry services ih =>
      obtain ⟨first, s⟩ := entry
      rw [dropFromServices_cons, List.forall_mem_cons, ← ih]
      constructor
      · intro heq
        split at heq
        · have := length_dropFromServices_le removed services
          have := congrArg List.length heq
          simp only [List.length_cons] at this
          omega
        · next hleft =>
            obtain ⟨hs, hservices⟩ := List.cons.inj heq
            have hs : s.without removed = s := congrArg Prod.snd hs
            rw [hs] at hleft
            exact ⟨⟨hleft, Service.without_eq_self_iff.mp hs⟩, hservices⟩
      · rintro ⟨⟨hleft, hids⟩, hservices⟩
        have hleft : s.resources ≠ [] := hleft
        rw [Service.without_eq_self_iff.mpr hids, if_neg hleft, hservices]

/-- Every entry of a reachable context names some of its resources, and no others. -/
theorem Reachable.services_named (h : Reachable c) :
    ∀ entry ∈ c.services, entry.2.resources ≠ [] ∧
      ∀ id ∈ entry.2.resources, id ∈ c.features.map (·.id) := by
  obtain ⟨_, _, -, -, hrecords⟩ := h.exists_records
  rintro ⟨href, s⟩ hentry
  obtain ⟨hresources, hne⟩ :=
    hrecords.resources href s (lookup_eq_some_of_mem hrecords.addresses hentry)
  refine ⟨hne, fun id hid => hrecords.present href id ?_⟩
  rwa [← hresources]

/-! ### Where a resource is planted -/

/-- Whether the list is split where a resource is to be added: at its position relative to the
target, or at the end. -/
def Gap (c : Context) (target : Option Resource.Id) (position : Position)
    (before after : List Resource) : Prop :=
  match target with
  | none => after = []
  | some id => ∃ t, c.get? id = some t ∧
      position.Splits t (c.descendants t false) before after

/-- The parent that a position asks for: that of the target, or the target itself. -/
def parentAt? (c : Context) (target : Option Resource.Id) (position : Position) :
    Option Resource.Id :=
  match target with
  | none => none
  | some id =>
      if position = .left ∨ position = .right then ((c.get? id).bind c.parent?).map (·.id)
      else some id

theorem Lists.exists_gap (h : c.Lists f) (hf : f.numbered none 0 = f) (r : Resource)
    (htarget : ∀ id, target = some id → id ∈ f.ids) (position : Position) :
    ∃ before after, c.features = before ++ after ∧ c.Gap target position before after ∧
      (f.plant r target position).flatten = before ++ r :: after := by
  have hflatten : f.flatten = c.features := hf ▸ h.flatten_eq
  cases target with
  | none => exact ⟨f.flatten, [], by simp [hflatten], rfl, by simp [plant]⟩
  | some id =>
      obtain ⟨t, below, before, after, rfl, hbranch, hsplit, hgraft, hsplits⟩ :=
        exists_split_graft (tree r nil nil) (htarget id rfl) h.nodup position
      have ht : t ∈ c.features := by
        have hperm := detach_append_branch_perm (htarget t.id rfl) h.nodup
        rw [← hflatten]
        exact hperm.subset (by simp [hbranch])
      have hbelow : c.descendants t false = below.flatten := by
        have hall := h.descendants_eq ht
        rw [hf, hbranch] at hall
        simpa [descendants] using hall
      refine ⟨before, after, hflatten ▸ hsplit, ⟨t, ?_, ?_⟩, hgraft⟩
      · exact h.get?_eq_some_iff.mpr ⟨ht, rfl⟩
      · rw [hbelow]
        exact hsplits

/-- The edge above the new resource leads to the parent that its position asks for. -/
theorem Lists.mem_edges_plant (h : c.Lists f) (r : Resource)
    (htarget : ∀ id, target = some id → id ∈ f.ids) (position : Position) :
    (r.id, c.parentAt? target position) ∈ (f.plant r target position).edges none := by
  cases target with
  | none => simp [plant, edges_append, edges, parentAt?]
  | some id =>
      obtain ⟨t, ht, rfl, hget, -⟩ := h.exists_get? (h.mem_ids_iff.mp (htarget id rfl))
      have hparent : ((c.get? t.id).bind c.parent?).map (·.id) = (c.parent? t).map (·.id) := by
        rw [hget, Option.bind_some]
      rw [parentAt?, hparent]
      exact mem_edges_graft_leaf h.nodup (h.parent_mem_edges ht) r position

/-- What an insertion of the resource `r` makes of a context with the forest `f`. -/
structure Planted (c : Context) (f : Forest) (r : Resource) (target : Option Resource.Id)
    (position : Position) (c' : Context) (folder : FolderPath) : Prop where
  /-- The new resources describe the forest with the resource planted into it. -/
  forest : ((f.plant r target position).numbered none 0).Describes c'.features
  /-- Apart from the resources only the shared reference systems are computed anew. -/
  rest : c' = { c with features := c'.features, crs := c'.crs }
  /-- The resource is added at its position. The others keep their order, and nothing changes but
  folders. -/
  resources : ∃ before after, c.features = before ++ after ∧ c.Gap target position before after ∧
    ∀ p, c'.features.map (·.atFolder p) = (before ++ r :: after).map (·.atFolder p)
  /-- It is found under its identifier. -/
  added : c'.get? r.id = some (r.atFolder folder)
  /-- Nothing is below it. -/
  leaf : c'.isLeaf (r.atFolder folder) = true
  /-- It has the parent that its position asks for. -/
  parent : (c'.parent? (r.atFolder folder)).map (·.id) = c.parentAt? target position
  /-- The others keep their parents. -/
  parents (a a' : Resource) : a ∈ c.features → a' ∈ c'.features → a'.id = a.id →
    (c'.parent? a').map (·.id) = (c.parent? a).map (·.id)

/-- What a removal right after an insertion gives back of the context before both. -/
structure TakenBack (c : Context) (id : Resource.Id) (c' : Context) : Prop where
  /-- The resources are the old ones. -/
  features : c'.features = c.features
  /-- So are the services exactly if every entry names some resource, and none the new one. -/
  services_iff : c'.services = c.services ↔
    ∀ entry ∈ c.services, entry.2.resources ≠ [] ∧ id ∉ entry.2.resources
  /-- In contexts that a client can come to that is so. -/
  services : c.Reachable → c'.services = c.services

/-- Only the new resource itself stands at or below its place. -/
theorem Lists.branch_planted (h' : c'.Lists (f.plant r target position)) (hr : r.id ∉ f.ids)
    (hids : f.ids.Nodup) (htarget : ∀ id, target = some id → id ∈ f.ids) {p : FolderPath}
    (hp : r.atFolder p ∈ c'.features) :
    (((f.plant r target position).numbered none 0).branch r.id).flatten = [r.atFolder p] := by
  obtain ⟨_, _, _, below, -, -, hbranch, -, -⟩ := h'.exists_cut hp
  rw [Resource.id_atFolder] at hbranch
  have hsize : (((f.plant r target position).numbered none 0).branch r.id).size = 1 := by
    rw [← size_numbered none 0, numbered_branch, size_numbered, branch_plant hr hids htarget]
    rfl
  rw [hbranch] at hsize ⊢
  cases below with
  | nil => rfl
  | tree a inner rest => simp at hsize

theorem Lists.planted (h : c.Lists f) (hf : f.numbered none 0 = f) (hr : r.id ∉ f.ids)
    (htarget : ∀ id, target = some id → id ∈ f.ids) (h' : c'.Lists (f.plant r target position))
    (hrest : c' = { c with features := c'.features, crs := c'.crs }) {p : FolderPath}
    (hp : r.atFolder p ∈ c'.features) : Planted c f r target position c' p := by
  have hbranch := h'.branch_planted hr h.nodup htarget hp
  constructor
  case forest => exact h'.flatten_eq ▸ describes_numbered _
  case rest => exact hrest
  case resources =>
    obtain ⟨before, after, hsplit, hgap, hplant⟩ := h.exists_gap hf r htarget position
    refine ⟨before, after, hsplit, hgap, fun p => ?_⟩
    rw [← h'.flatten_eq, map_atFolder_numbered, hplant]
  case added => exact h'.get?_eq_some_iff.mpr ⟨hp, rfl⟩
  case leaf =>
    have hself := (h'.filter_startsWith hp).1.trans hbranch
    have hnone : ¬c'.features.any (r.atFolder p).isAncestorOf = true := by
      rw [List.any_eq_true]
      rintro ⟨a, ha, hbelow⟩
      obtain ⟨hne, hstarts⟩ := isAncestorOf_iff_startsWith.mp hbelow
      have hmem := hself ▸ List.mem_filter.mpr ⟨ha, hstarts⟩
      exact hne (congrArg (·.folder) (List.mem_singleton.mp hmem))
    simp [isLeaf, hnone]
  case parent =>
    have hkeys : (((f.plant r target position).edges none).map (·.1)).Nodup := by
      rw [map_fst_edges]
      exact h'.nodup
    have heq := List.inj_on_of_nodup_map hkeys (h'.parent_mem_edges hp)
      (h.mem_edges_plant r htarget position) rfl
    exact congrArg Prod.snd heq
  case parents =>
    intro a a' ha ha' hid
    obtain ⟨new, hedges⟩ := exists_edges_plant h.nodup r htarget position
    apply h.parent_congr h' ha ha' hid
    intro above habove
    have hne : a.id ≠ r.id := by
      rintro heq
      exact hr (heq ▸ h.ids_eq ▸ List.mem_map_of_mem ha)
    have hold := hedges.subset habove
    simpa [hne] using hold

/-- Every resource of the forest stands in the list at some folder. -/
theorem Lists.exists_folder (h : c.Lists f) (hr : r ∈ f.flatten) :
    ∃ p, r.atFolder p ∈ c.features := by
  have hmem : r.atFolder (.root 0) ∈ c.features.map (·.atFolder (.root 0)) := by
    rw [← h.flatten_eq, map_atFolder_numbered]
    exact List.mem_map_of_mem hr
  obtain ⟨a, ha, heq⟩ := List.mem_map.mp hmem
  have hself : a = r.atFolder a.folder := congrArg (·.atFolder a.folder) heq
  exact ⟨a.folder, hself ▸ ha⟩

/-- A new resource is planted as a leaf, and removing it right away takes that back. -/
theorem insert_plants_leaf (hvalid : validate c.features = .ok ()) (hfits : c.Fits)
    (hfresh : c.get? r.id = none) (htarget : ∀ id, target = some id → ∃ t, c.get? id = some t)
    (position : Position) :
    ∃ f c' folder c'', (f.Describes c.features ∧ ∀ g : Forest, g.Describes c.features → g = f) ∧
      c.insert target r position = .ok c' ∧ Planted c f r target position c' folder ∧
      c'.remove r.id = .ok (c'', [r.atFolder folder]) ∧ TakenBack c r.id c'' := by
  obtain ⟨f₀, h₀⟩ := (validate_eq_ok_iff_lists c).mp hvalid
  let f := f₀.numbered none 0
  have hf : f.Describes c.features := h₀.flatten_eq ▸ describes_numbered f₀
  have h : c.Lists f := .of_describes hf hvalid
  have hr : r.id ∉ c.features.map (·.id) := get?_eq_none_iff.mp hfresh
  have hknown : ∀ id, target = some id → id ∈ c.features.map (·.id) := by
    intro id hid
    obtain ⟨t, ht⟩ := htarget id hid
    obtain ⟨hfeature, rfl⟩ := h.get?_eq_some_iff.mp ht
    exact List.mem_map_of_mem hfeature
  have hr' : r.id ∉ f.ids := h.ids_eq ▸ hr
  have hknown' : ∀ id, target = some id → id ∈ f.ids := h.ids_eq ▸ hknown
  obtain ⟨c', hinsert, hfeatures, hrest⟩ : ∃ c', c.insert target r position = .ok c' ∧
      ((f.plant r target position).numbered none 0).flatten = c'.features ∧
      c' = { c with features := c'.features, crs := c'.crs } :=
    ⟨_, h.insert_eq hfits hr hknown position, rfl, rfl⟩
  have h' : c'.Lists (f.plant r target position) :=
    ⟨hfeatures, nodup_ids_plant hr' h.nodup hknown' position⟩
  obtain ⟨p, hp⟩ : ∃ p, r.atFolder p ∈ c'.features := by
    apply h'.exists_folder
    exact (plant_perm h.nodup r hknown' position).symm.subset (by simp)
  -- the branch of the new resource in the planted forest is a leaf, and without it that is `f`
  have hremove := h'.remove_eq hp
  rw [Resource.id_atFolder, h'.branch_planted hr' h.nodup hknown' hp, detach_plant hr',
    h.flatten_eq] at hremove
  refine ⟨f, c', p, _, ⟨hf, fun g hg => hg.unique hf⟩, hinsert,
    h.planted hf.1 hr' hknown' h' hrest hp, hremove, ?_⟩
  have hservices : c'.services = c.services := by rw [hrest]
  have hiff : dropFromServices [r.atFolder p] c'.services = c.services ↔
      ∀ entry ∈ c.services, entry.2.resources ≠ [] ∧ r.id ∉ entry.2.resources := by
    rw [hservices, dropFromServices_eq_self_iff]
    simp [List.forall_mem_ne']
  constructor
  case features => rfl
  case services_iff => exact hiff
  case services =>
    intro hreachable
    apply hiff.mpr
    intro entry hentry
    obtain ⟨hne, hids⟩ := hreachable.services_named entry hentry
    exact ⟨hne, fun hid => hr (hids r.id hid)⟩

/-- A second layer of the group is added and removed again. -/
theorem rails_planted :
    ∃ (f : Forest) (c' : Context) (folder : FolderPath) (c'' : Context),
      f.Describes groupAndLayer ∧
      insert { empty "map" with features := groupAndLayer } (some "group")
        (.new "rails" (.root 7) "Rails") .lastChild = .ok c' ∧
      Planted { empty "map" with features := groupAndLayer } f (.new "rails" (.root 7) "Rails")
        (some "group") .lastChild c' folder ∧
      c'.remove "rails" = .ok (c'', [.new "rails" folder "Rails"]) ∧
      c''.features = groupAndLayer ∧ c''.services = [] := by
  let c : Context := { empty "map" with features := groupAndLayer }
  let rails : Resource := .new "rails" (.root 7) "Rails"
  have htarget : ∀ id, some "group" = some id → ∃ t, c.get? id = some t := by
    rintro _ ⟨⟩
    exact ⟨_, rfl⟩
  obtain ⟨f, c', folder, c'', ⟨hf, -⟩, hinsert, hplanted, hremove, hback⟩ :=
    insert_plants_leaf (c := c) (r := rails) (by decide) (show 3 ≤ maxIndex by decide) rfl htarget
      .lastChild
  exact ⟨f, c', folder, c'', hf, hinsert, hplanted, hremove, hback.features,
    hback.services_iff.mpr (fun _ h => nomatch h)⟩

end Context

end MapContext
