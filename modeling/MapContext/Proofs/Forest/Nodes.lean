import Mathlib.Algebra.GroupWithZero.Nat
import MapContext.Context.Forest
import MapContext.Proofs.Forest.Leaves

/-!
# The nested view of a listing

A listing in document order is nested by hanging one resource after another into the forest. Every
resource comes to hang at its right end: below the last node of each level, down to its parent. So
the listing of a numbered forest is nested into that forest.
-/

namespace MapContext

namespace FolderPath

/-- An optional folder with those above it, outermost first. -/
def lineage : Option FolderPath → List FolderPath
  | none => []
  | some p => p.ancestors.reverse ++ [p]

theorem reverse_ancestors_under (parent : Option FolderPath) (i : Nat) :
    (under parent i).ancestors.reverse = lineage parent := by
  cases parent with
  | none => rfl
  | some p => rw [ancestors_under_some, List.reverse_cons, lineage]

theorem lineage_under (parent : Option FolderPath) (i : Nat) :
    lineage (some (under parent i)) = lineage parent ++ [under parent i] := by
  rw [lineage, reverse_ancestors_under]

end FolderPath

namespace Node

open FolderPath

@[simp] theorem resource_mk (r : Resource) (ns : List Node) : (mk r ns).resource = r := rfl

@[simp] theorem children_mk (r : Resource) (ns : List Node) : (mk r ns).children = ns := rfl

theorem flatten_eq (n : Node) : n.flatten = n.resource :: flattenAll n.children := by
  cases n
  rfl

theorem flattenAll_eq_flatMap (ns : List Node) : flattenAll ns = ns.flatMap flatten := by
  induction ns with
  | nil => rfl
  | cons n ns ih => rw [flattenAll, ih, List.flatMap_cons]

theorem flattenAll_append (ns ms : List Node) :
    flattenAll (ns ++ ms) = flattenAll ns ++ flattenAll ms := by
  simp only [flattenAll_eq_flatMap, List.flatMap_append]

theorem countAll_eq_sum (ns : List Node) : countAll ns = (ns.map count).sum := by
  induction ns with
  | nil => rfl
  | cons n ns ih => rw [countAll, ih, List.map_cons, List.sum_cons]

theorem splitLast?_concat (p : Node → Bool) (ns : List Node) {n : Node} (h : p n = true) :
    splitLast? p (ns ++ [n]) = some (ns, n, []) := by
  induction ns with
  | nil => simp [splitLast?, h]
  | cons m ns ih => simp [splitLast?, ih]

/-- The right end of a forest, outermost level first: on each level the nodes before the last one
and the resource of the last one. -/
abbrev Spine := List (List Node × Resource)

/-- The forest with a given right end, whose innermost node has the given children. -/
def hang : Spine → List Node → List Node
  | [], level => level
  | (before, r) :: spine, level => before ++ [mk r (hang spine level)]

theorem hang_concat (spine : Spine) (before : List Node) (r : Resource) (level : List Node) :
    hang (spine ++ [(before, r)]) level = hang spine (before ++ [mk r level]) := by
  induction spine with
  | nil => rfl
  | cons first spine ih =>
      obtain ⟨ns, a⟩ := first
      simp only [List.cons_append, hang, ih]

/-- A resource is put at the right end of the forest if the folders above it are those of that
end. -/
theorem place_hang (index : Nat) (r : Resource) (spine : Spine) (level : List Node) :
    place index r (spine.map (·.2.folder)) (hang spine level) =
      .ok (hang spine (level ++ [mk r []])) := by
  induction spine with
  | nil => rfl
  | cons first spine ih =>
      obtain ⟨ns, a⟩ := first
      have hlast := splitLast?_concat (·.resource.folder == a.folder) ns
        (n := mk a (hang spine level)) (beq_self_eq_true a.folder)
      simp only [List.map_cons, hang, place, hlast]
      show (place index r _ (hang spine level) >>= _) = _
      rw [ih]
      rfl

end Node

namespace Forest

open FolderPath

/-- The trees of a forest as nodes. -/
def nodes : Forest → List Node
  | nil => []
  | tree r below rest => .mk r below.nodes :: rest.nodes

@[simp] theorem nodes_nil : nil.nodes = [] := rfl

@[simp] theorem nodes_tree (r : Resource) (below rest : Forest) :
    (tree r below rest).nodes = .mk r below.nodes :: rest.nodes := rfl

@[simp] theorem flattenAll_nodes (f : Forest) : Node.flattenAll f.nodes = f.flatten := by
  induction f with
  | nil => rfl
  | tree r below rest ihb ihr => simp [Node.flattenAll, Node.flatten, ihb, ihr]

@[simp] theorem length_nodes (f : Forest) : f.nodes.length = f.width := by
  induction f with
  | nil => rfl
  | tree r below rest _ ih => simp [ih]

theorem countAll_nodes (f : Forest) : Node.countAll f.nodes = f.size := by
  induction f with
  | nil => rfl
  | tree r below rest ihb ihr =>
      rw [nodes_tree, Node.countAll, Node.count, ihb, ihr, size_tree]
      omega

/-- The places below a parent come to hang below its node, one after another. -/
theorem placeAll_flatten (f : Forest) {parent : Option FolderPath} {spine : Node.Spine}
    (hspine : spine.map (·.2.folder) = lineage parent) (i index : Nat) (level : List Node)
    (others : List Resource) :
    Node.placeAll index (Node.hang spine level) ((f.numbered parent i).flatten ++ others) =
      Node.placeAll (index + f.size)
        (Node.hang spine (level ++ (f.numbered parent i).nodes)) others := by
  -- the spine leads to the parent, and `level` are the children that it has so far
  induction f generalizing parent spine i index level others with
  | nil => simp
  | tree r below rest ihb ihr =>
      let p := under parent i
      have hroot : Node.place index (r.atFolder p) p.ancestors.reverse (Node.hang spine level) =
          .ok (Node.hang (spine ++ [(level, r.atFolder p)]) []) := by
        rw [reverse_ancestors_under, ← hspine, Node.place_hang, Node.hang_concat]
      have hinner : (spine ++ [(level, r.atFolder p)]).map (·.2.folder) = lineage (some p) := by
        rw [lineage_under, ← hspine, List.map_append]
        rfl
      simp only [numbered_tree, flatten_tree, List.cons_append, List.append_assoc, Node.placeAll]
      show (Node.place index (r.atFolder p) p.ancestors.reverse _ >>= _) = _
      rw [hroot]
      show Node.placeAll (index + 1) _ _ = _
      rw [ihb hinner, Node.hang_concat, ihr hspine, List.nil_append, nodes_tree,
        List.append_assoc, List.singleton_append, size_tree]
      congr 1
      omega

/-- The listing of a numbered forest is nested into that forest. -/
theorem forest_numbered (f : Forest) :
    Node.forest (f.numbered none 0).flatten = .ok (f.numbered none 0).nodes := by
  have hspine : ([] : Node.Spine).map (·.2.folder) = lineage none := rfl
  have h := placeAll_flatten f hspine 0 0 [] []
  rw [List.append_nil] at h
  exact h

/-- The roots are the resources on the level of the parent's children. -/
theorem filter_depth_numbered (f : Forest) (parent : Option FolderPath) (i : Nat) :
    (f.numbered parent i).flatten.filter (·.depth == (segmentsOf parent).length) =
      (f.numbered parent i).nodes.map (·.resource) := by
  induction f generalizing i with
  | nil => rfl
  | tree r below rest _ ih =>
      have hself : (r.atFolder (under parent i)).depth = (segmentsOf parent).length := by
        simp [Resource.depth]
      have hbelow : (below.numbered (some (under parent i)) 0).flatten.filter
          (·.depth == (segmentsOf parent).length) = [] := by
        rw [List.filter_eq_nil_iff]
        intro a ha hdepth
        obtain ⟨j, tail, -, hj⟩ := within_of_mem ha
        have hlength := congrArg List.length hj
        rw [beq_iff_eq, Resource.depth, depth] at hdepth
        simp only [segmentsOf_some, segments_under, List.length_append, List.length_cons,
          List.length_nil] at hlength
        omega
      rw [numbered_tree, flatten_tree, List.filter_cons_of_pos (by simpa using hself),
        List.filter_append, hbelow, List.nil_append, ih]
      rfl

/-- A node of a numbered forest is the root of one of its trees. -/
theorem exists_of_nodes_eq {g : Forest} {parent : Option FolderPath} {i : Nat}
    {before after : List Node} {n : Node} (h : (g.numbered parent i).nodes = before ++ n :: after) :
    ∃ (g₁ below g₂ : Forest) (t : Resource),
      (g.numbered parent i).flatten = (g₁.numbered parent i).flatten ++
        t :: ((below.numbered (some t.folder) 0).flatten ++
          (g₂.numbered parent (i + g₁.width + 1)).flatten) ∧
      t.folder = under parent (i + g₁.width) ∧
      before = (g₁.numbered parent i).nodes ∧
      n = .mk t (below.numbered (some t.folder) 0).nodes ∧
      after = (g₂.numbered parent (i + g₁.width + 1)).nodes := by
  induction g generalizing i before with
  | nil => simp at h
  | tree r below rest _ ih =>
      cases before with
      | nil =>
          simp only [numbered_tree, nodes_tree, List.nil_append, List.cons.injEq] at h
          obtain ⟨rfl, rfl⟩ := h
          exact ⟨nil, below, rest, r.atFolder (under parent i), rfl, rfl, rfl, rfl, rfl⟩
      | cons first before =>
          simp only [numbered_tree, nodes_tree, List.cons_append, List.cons.injEq] at h
          obtain ⟨rfl, h⟩ := h
          obtain ⟨g₁, inner, g₂, t, hflatten, hfolder, rfl, rfl, rfl⟩ := ih h
          have hwidth : i + (tree r below g₁).width = i + 1 + g₁.width := by
            rw [width_tree]
            omega
          refine ⟨tree r below g₁, inner, g₂, t, ?_, by rw [hwidth]; exact hfolder, rfl, rfl,
            by rw [hwidth]⟩
          rw [hwidth]
          simp [hflatten]

end Forest

end MapContext
