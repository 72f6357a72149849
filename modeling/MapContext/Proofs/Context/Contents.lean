import MapContext.Proofs.Context.SharedCrs

/-!
# What the edits keep of the resources

Apart from its place in the layer tree and its switch, no edit changes a resource. A move and a
switch keep all resources in this sense, a removal keeps some of them, an insertion adds one, and an
append adds those of the layers of a service.
-/

namespace MapContext

/-- A resource without its place and its switch. -/
def Resource.content (r : Resource) : Resource := (r.atFolder (.root 0)).switched false

@[simp] theorem Resource.content_atFolder (r : Resource) (p : FolderPath) :
    (r.atFolder p).content = r.content := rfl

@[simp] theorem Resource.content_switched (r : Resource) (active : Bool) :
    (r.switched active).content = r.content := rfl

namespace Context

open Resource

variable {c c' : Context}

/-- Resources that differ in their places only have the same contents. -/
theorem map_content_congr {rs ss : List Resource}
    (h : rs.map (·.atFolder (.root 0)) = ss.map (·.atFolder (.root 0))) :
    rs.map content = ss.map content := by
  have hmap (ts : List Resource) :
      ts.map content = (ts.map (·.atFolder (.root 0))).map (·.switched false) := by
    rw [List.map_map]
    rfl
  rw [hmap, hmap, h]

theorem map_content_shiftSiblings (shift : Shift) (slot : Option FolderPath) (k : Nat)
    (rs : List Resource) : (shiftSiblings shift slot k rs).map content = rs.map content :=
  map_content_congr (map_atFolder_shiftSiblings shift slot k rs (.root 0))

theorem map_content_renumbered {parent : Option FolderPath} {start : Nat} {rs ss : List Resource}
    (h : renumbered parent start rs = .ok ss) : ss.map content = rs.map content :=
  map_content_congr (map_atFolder_renumbered h (.root 0))

/-- A commit keeps the contents of the staged resources. -/
theorem map_content_of_commit {staged : List Resource} (h : c.commit staged = .ok c') :
    (c'.features.map content).Perm (staged.map content) := by
  obtain ⟨-, rfl⟩ := commit_eq_ok_iff.mp h
  exact (List.mergeSort_perm _ _).map content

theorem map_content_of_move {source : Resource.Id} {target : Option Resource.Id}
    {position : Position} {outcome : MoveOutcome}
    (h : c.move source target position = .ok (c', outcome)) :
    (c'.features.map content).Perm (c.features.map content) := by
  have hplaced := ((move_keeps h (.root 0)).1).map (·.switched false)
  rw [List.map_map, List.map_map] at hplaced
  exact hplaced

theorem map_content_of_insert {target : Option Resource.Id} {resource : Resource}
    {position : Position} (h : c.insert target resource position = .ok c') :
    (c'.features.map content).Perm (resource.content :: c.features.map content) := by
  obtain ⟨slot, k, staged, c₁, hstaged, hcommit, rfl⟩ := insert_eq_ok_cases h
  refine (map_content_of_commit hcommit).trans ((hstaged.map content).trans (.of_eq ?_))
  rw [List.map_cons, content_atFolder, map_content_shiftSiblings]

theorem map_content_of_remove {target : Resource.Id} {removed : List Resource}
    (h : c.remove target = .ok (c', removed)) :
    (c'.features.map content ++ removed.map content).Perm (c.features.map content) := by
  obtain ⟨place, staged, c₁, rfl, hstaged, hcommit, rfl⟩ := remove_eq_ok_cases h
  refine ((map_content_of_commit hcommit).append_right _).trans ?_
  rw [map_content_renumbered hstaged, ← List.map_append]
  exact (cutSubtree_perm c.features place).map content

theorem map_content_of_activate {target : Resource.Id} {active : Bool}
    (h : c.activate target active = .ok c') :
    c'.features.map content = c.features.map content := by
  obtain ⟨t, -, rfl⟩ := activate_eq_ok_cases h
  exact map_activated content_switched t.folder active c.features

theorem map_content_of_resourcesOf {href : String} {capabilities : Capabilities} {root : Nat}
    {fresh : Nat → Resource.Id} {rs : List Resource}
    (h : resourcesOf href capabilities root fresh = .ok rs) :
    ∃ capabilitiesHref layers, layerResources href capabilities capabilitiesHref fresh 0
        capabilities.rootLayer.preorder = .ok layers ∧
      rs.map content = layers.map content := by
  obtain ⟨u, -, h⟩ := bind_eq_ok_iff.mp h
  obtain ⟨layers, hlayers, h⟩ := bind_eq_ok_iff.mp h
  exact ⟨u.display, layers, hlayers, map_content_renumbered h⟩

theorem map_content_of_append {href : String} {capabilities : Capabilities}
    {fresh : Nat → Resource.Id} {ids : List Resource.Id}
    (h : c.append href capabilities fresh = .ok (c', ids)) :
    ∃ rs, resourcesOf href capabilities c.nextRoot fresh = .ok rs ∧
      (c'.features.map content).Perm (c.features.map content ++ rs.map content) := by
  obtain ⟨rs, c₁, hrs, -, hcommit, rfl⟩ := append_eq_ok_cases h
  refine ⟨rs, hrs, (map_content_of_commit hcommit).trans (.of_eq ?_)⟩
  rw [List.map_append]

end Context

end MapContext
