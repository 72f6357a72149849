import MapContext.Proofs.Context.Levels

/-!
# Questions about the layer tree

A question about a resource filters the flat list by folders and identifiers. On a valid list the
answer is what the nested view shows at the node of the resource: the node with those below it, its
children, the nodes above it, and the level that it lives on.
-/

namespace MapContext

namespace Node

theorem flattenAll_eq_nil_iff (ns : List Node) : flattenAll ns = [] ↔ ns = [] := by
  cases ns with
  | nil => exact iff_of_true rfl rfl
  | cons n ns => simp [flattenAll, flatten_eq n]

end Node

namespace Forest

open FolderPath

/-- The sibling index of a place, or of what is above it on its level. -/
theorem exists_segment_of_mem {f : Forest} {parent : Option FolderPath} {i : Nat} {r : Resource}
    (h : r ∈ (f.numbered parent i).flatten) :
    ∃ j, i ≤ j ∧ j < i + f.width ∧ r.folder.segment? (segmentsOf parent).length = some j := by
  obtain ⟨j, rest, hij, hr⟩ := within_of_mem h
  exact ⟨j, hij, segment_lt_of_mem h hr, by simp [segment?, hr]⟩

end Forest

namespace Context

open FolderPath Node

/-- A node of the layer tree between those before and after it on its level, as the filters find
it in the list. -/
structure Standing (features : List Resource) (above before : List Node) (n : Node)
    (after : List Node) (g₁ below g₂ : Forest) (parent : Option FolderPath) : Prop where
  /-- Its index is the number of nodes before it. -/
  folder : n.resource.folder = under parent g₁.width
  /-- The nodes before it. -/
  before_eq : before = (g₁.numbered parent 0).nodes
  /-- The node itself. -/
  node_eq : [n] = ((Forest.tree n.resource below .nil).numbered parent g₁.width).nodes
  /-- The nodes after it. -/
  after_eq : after = (g₂.numbered parent (g₁.width + 1)).nodes
  /-- What lies below the parent. -/
  level_eq : features.filter (fun r => isBelow parent r.folder) =
    (g₁.numbered parent 0).flatten ++ (n.flatten ++ (g₂.numbered parent (g₁.width + 1)).flatten)
  /-- What lies below the node. -/
  below_eq : features.filter n.resource.isAncestorOf = flattenAll n.children
  /-- What lies above the node. -/
  above_eq : features.filter (·.isAncestorOf n.resource) = above.map (·.resource)
  /-- The parent is the innermost node above. -/
  parent_eq : above.getLast?.map (·.resource.folder) = parent
  /-- The node and what lies below it stand together. -/
  block : ∃ earlier later, features = earlier ++ n.flatten ++ later

variable {f g : Forest} {above before after : List Node} {n : Node}
  {parent : Option FolderPath} {earlier later : List Resource}

theorem Located.exists_standing
    (h : Located f above (before ++ n :: after) g parent earlier later) :
    ∃ g₁ below g₂,
      Standing (f.numbered none 0).flatten above before n after g₁ below g₂ parent := by
  obtain ⟨inner, _, _, hchildren⟩ := h.children
  obtain ⟨g₁, below, g₂, t, hflatten, hfolder, rfl, rfl, rfl⟩ :=
    Forest.exists_of_nodes_eq h.nodes.symm
  rw [Nat.zero_add] at hflatten hfolder
  have hnode : (Node.mk t (below.numbered (some t.folder) 0).nodes).flatten =
      t :: (below.numbered (some t.folder) 0).flatten := by
    rw [Node.flatten_eq, children_mk, Forest.flattenAll_nodes, resource_mk]
  refine ⟨g₁, below, g₂, hfolder, ?_, ?_, ?_, ?_, ?_, ?_, h.parent_eq, ?_⟩
  · rfl
  · simp [← hfolder]
  · rw [Nat.zero_add]
  · rw [h.filter_isBelow, hflatten, hnode]
    rfl
  · rw [hchildren.nodes, Forest.flattenAll_nodes, ← hchildren.filter_isBelow]
    rfl
  · rw [← h.above_eq]
    simp only [resource_mk, Resource.isAncestorOf, hfolder,
      isAncestorOf_under_congr _ parent g₁.width 0]
  · refine ⟨earlier ++ (g₁.numbered parent 0).flatten,
      (g₂.numbered parent (g₁.width + 1)).flatten ++ later, ?_⟩
    rw [h.flatten_eq, hflatten, hnode]
    simp

/-- The answers about the resource of a node are what the nested view shows at the node. -/
structure Agrees (c : Context) (above before : List Node) (n : Node) (after : List Node) :
    Prop where
  /-- What lies below the resource, after itself on request. -/
  descendants (includeSelf : Bool) : c.descendants n.resource includeSelf =
    if includeSelf then n.flatten else flattenAll n.children
  /-- It stands together in the flat list. -/
  block : ∃ earlier later, c.features = earlier ++ n.flatten ++ later
  /-- The children. -/
  children : c.children n.resource = n.children.map (·.resource)
  /-- The first child. -/
  firstChild? : c.firstChild? n.resource = n.children.head?.map (·.resource)
  /-- The last child. -/
  lastChild? : c.lastChild? n.resource = n.children.getLast?.map (·.resource)
  /-- The place of the first child. -/
  firstChildPosition? : c.firstChildPosition? n.resource =
    n.children.head?.bind fun m => c.position? m.resource.id
  /-- The place of the last child. -/
  lastChildPosition? : c.lastChildPosition? n.resource =
    n.children.getLast?.bind fun m => c.position? m.resource.id
  /-- What lies above the resource, from the root down. -/
  ancestors : c.ancestors n.resource = above.map (·.resource)
  /-- The parent. -/
  parent? : c.parent? n.resource = above.getLast?.map (·.resource)
  /-- Whether nothing lies below the resource. -/
  isLeaf : c.isLeaf n.resource = n.children.isEmpty
  /-- The level of the node, with itself and with what is below it on request. -/
  siblings (includeSelf withSubtrees : Bool) :
    c.siblings n.resource includeSelf withSubtrees =
      listing withSubtrees (before ++ (if includeSelf then [n] else []) ++ after)
  /-- The nodes after it, with itself and with what is below them on request. -/
  rightSiblings (includeSelf withSubtrees : Bool) :
    c.rightSiblings n.resource includeSelf withSubtrees =
      listing withSubtrees ((if includeSelf then [n] else []) ++ after)

namespace Standing

variable {c : Context} {g₁ below g₂ : Forest}
  (h : Standing c.features above before n after g₁ below g₂ parent)

include h

theorem flatten_eq :
    n.flatten = ((Forest.tree n.resource below .nil).numbered parent g₁.width).flatten := by
  rw [← Forest.flattenAll_nodes, ← h.node_eq]
  simp [flattenAll]

theorem descendants (includeSelf : Bool) : c.descendants n.resource includeSelf =
    if includeSelf then n.flatten else flattenAll n.children := by
  rw [Context.descendants, h.below_eq]
  cases includeSelf with
  | false => rfl
  | true => exact (Node.flatten_eq n).symm

theorem children : c.children n.resource = n.children.map (·.resource) := by
  have hchildren : n.children = (below.numbered (some n.resource.folder) 0).nodes := by
    have hnode := congrArg (List.map Node.children) h.node_eq
    rw [h.folder]
    simpa using hnode
  have hsplit : c.children n.resource =
      (c.features.filter n.resource.isAncestorOf).filter
        (·.depth == (segmentsOf (some n.resource.folder)).length) := by
    have hdepth : n.resource.depth + 1 = n.resource.folder.segments.length := by
      have := List.length_pos_iff.mpr n.resource.folder.nonempty
      rw [Resource.depth, depth]
      omega
    rw [List.filter_filter, Context.children, segmentsOf_some, ← hdepth]
    apply List.filter_congr
    intro r _
    exact Bool.and_comm _ _
  rw [hsplit, h.below_eq, hchildren, Forest.flattenAll_nodes, Forest.filter_depth_numbered]

theorem firstChild? : c.firstChild? n.resource = n.children.head?.map (·.resource) := by
  rw [Context.firstChild?, ← List.head?_filter, ← List.head?_map, ← h.children]
  rfl

theorem lastChild? : c.lastChild? n.resource = n.children.getLast?.map (·.resource) := by
  rw [Context.lastChild?, ← List.head?_filter, ← List.getLast?_map, ← h.children,
    List.filter_reverse, List.head?_reverse]
  rfl

theorem firstChildPosition? (hids : (c.features.map (·.id)).Nodup) :
    c.firstChildPosition? n.resource =
      n.children.head?.bind fun m => c.position? m.resource.id := by
  have hplace : c.firstChildPosition? n.resource =
      (c.firstChild? n.resource).bind fun r => c.position? r.id := by
    cases hfirst : c.firstChild? n.resource with
    | none => simpa [Context.firstChildPosition?, Context.firstChild?] using hfirst
    | some r =>
        obtain ⟨hr, earlier, later, hsplit, hearlier⟩ := List.find?_eq_some_iff_append.mp hfirst
        have hnone : earlier.findIdx? (·.isChildOf n.resource) = none := by simpa using hearlier
        rw [Option.bind_some, position?_of_split hsplit hids, Context.firstChildPosition?, hsplit,
          List.findIdx?_append, hnone, List.findIdx?_cons, hr]
        simp
  rw [hplace, h.firstChild?, Option.bind_map]
  rfl

theorem lastChildPosition? (hids : (c.features.map (·.id)).Nodup) :
    c.lastChildPosition? n.resource =
      n.children.getLast?.bind fun m => c.position? m.resource.id := by
  have hplace : c.lastChildPosition? n.resource =
      (c.lastChild? n.resource).bind fun r => c.position? r.id := by
    cases hlast : c.lastChild? n.resource with
    | none => simpa [Context.lastChildPosition?, Context.lastChild?] using hlast
    | some r =>
        obtain ⟨hr, later, earlier, hsplit, hlater⟩ := List.find?_eq_some_iff_append.mp hlast
        have hnone : later.findIdx? (·.isChildOf n.resource) = none := by simpa using hlater
        have horder : c.features = earlier.reverse ++ r :: later.reverse := by
          rw [← List.reverse_reverse c.features, hsplit]
          simp
        rw [Option.bind_some, position?_of_split horder hids, Context.lastChildPosition?, hsplit,
          List.findIdx?_append, hnone, List.findIdx?_cons, hr, horder]
        simp
  rw [hplace, h.lastChild?, Option.bind_map]
  rfl

theorem isLeaf : c.isLeaf n.resource = n.children.isEmpty := by
  have hnone : c.features.any n.resource.isAncestorOf = false ↔ n.children = [] := by
    rw [← flattenAll_eq_nil_iff, ← h.below_eq, List.filter_eq_nil_iff, List.any_eq_false]
  rw [Bool.eq_iff_iff, Context.isLeaf, Bool.not_eq_true', hnone, List.isEmpty_iff]

theorem ancestors : c.ancestors n.resource = above.map (·.resource) := h.above_eq

theorem parent? (hf : c.Lists f) : c.parent? n.resource = above.getLast?.map (·.resource) := by
  rw [Context.parent?, Resource.parentFolder?, h.folder, parent?_under, ← h.parent_eq]
  cases hlast : above.getLast? with
  | none => rfl
  | some m =>
      have hm : m.resource ∈ above.map (·.resource) :=
        List.mem_map_of_mem (List.mem_of_getLast? hlast)
      rw [← h.above_eq] at hm
      exact hf.atFolder?_eq (List.mem_of_mem_filter hm)

/-- Nothing beside the node lies below it. -/
theorem not_isAncestorOf_beside {r : Resource} (hr : r ∈ (g₁.numbered parent 0).flatten ∨
    r ∈ (g₂.numbered parent (g₁.width + 1)).flatten) : ¬n.resource.isAncestorOf r = true := by
  rw [Resource.isAncestorOf, isAncestorOf_iff, h.folder]
  rcases hr with hr | hr
  · exact Forest.not_within_of_mem_earlier hr
  · exact Forest.not_within_of_mem_later hr

/-- Nothing beside the node has its identifier. -/
theorem id_ne_beside (hids : (c.features.map (·.id)).Nodup) {r : Resource}
    (hr : r ∈ (g₁.numbered parent 0).flatten ∨
      r ∈ (g₂.numbered parent (g₁.width + 1)).flatten) : r.id ≠ n.resource.id := by
  have hlevel : ((c.features.filter fun r => isBelow parent r.folder).map (·.id)).Nodup :=
    hids.sublist (List.filter_sublist.map _)
  rw [h.level_eq, Node.flatten_eq, List.map_append, List.nodup_append, List.cons_append,
    List.map_cons, List.nodup_cons] at hlevel
  obtain ⟨-, ⟨hlater, -⟩, hearlier⟩ := hlevel
  rcases hr with hr | hr
  · exact hearlier _ (List.mem_map_of_mem hr) _ List.mem_cons_self
  · intro heq
    exact hlater (heq ▸ List.mem_map_of_mem (List.mem_append_right _ hr))

/-- The level without a node is what stands beside it. -/
theorem filter_level (hids : (c.features.map (·.id)).Nodup) (includeSelf : Bool) :
    (c.features.filter fun r => isBelow parent r.folder).filter
        (fun r => includeSelf || (r.id != n.resource.id && !n.resource.isAncestorOf r)) =
      (g₁.numbered parent 0).flatten ++ ((if includeSelf then n.flatten else []) ++
        (g₂.numbered parent (g₁.width + 1)).flatten) := by
  rw [h.level_eq]
  cases includeSelf with
  | true => exact List.filter_eq_self.mpr fun _ _ => rfl
  | false =>
      have hbeside {r : Resource} (hr : r ∈ (g₁.numbered parent 0).flatten ∨
          r ∈ (g₂.numbered parent (g₁.width + 1)).flatten) :
          (r.id != n.resource.id && !n.resource.isAncestorOf r) = true := by
        simp [h.id_ne_beside hids hr, h.not_isAncestorOf_beside hr]
      have hnode : n.flatten.filter
          (fun r => r.id != n.resource.id && !n.resource.isAncestorOf r) = [] := by
        rw [Node.flatten_eq, ← h.below_eq, List.filter_eq_nil_iff]
        intro r hr
        rcases List.mem_cons.mp hr with rfl | hr
        · simp
        · simp [(List.mem_filter.mp hr).2]
      simp only [Bool.false_or, Bool.false_eq_true, if_false]
      rw [List.filter_append, List.filter_append, hnode,
        List.filter_eq_self.mpr fun r hr => hbeside (.inl hr),
        List.filter_eq_self.mpr fun r hr => hbeside (.inr hr)]

theorem depth_eq : n.resource.depth = (segmentsOf parent).length := by
  rw [Resource.depth, h.folder, depth_under]

/-- The resources of the node that are on its level, or all of them. -/
theorem listing_node (includeSelf withSubtrees : Bool) :
    (if includeSelf then n.flatten else []).filter
        (fun r => withSubtrees || r.depth == n.resource.depth) =
      listing withSubtrees (if includeSelf then [n] else []) := by
  cases includeSelf with
  | false => cases withSubtrees <;> rfl
  | true =>
      simp only [if_true]
      rw [h.node_eq, Forest.listing_numbered, h.flatten_eq, h.depth_eq]

/-- The siblings are the level with or without the node, and of it the right depth. -/
theorem siblings_eq (hids : (c.features.map (·.id)).Nodup) (includeSelf withSubtrees : Bool) :
    c.siblings n.resource includeSelf withSubtrees =
      ((g₁.numbered parent 0).flatten ++ ((if includeSelf then n.flatten else []) ++
        (g₂.numbered parent (g₁.width + 1)).flatten)).filter
          (fun r => withSubtrees || r.depth == n.resource.depth) := by
  rw [← h.filter_level hids, List.filter_filter, List.filter_filter, Context.siblings,
    Resource.parentFolder?, h.folder, parent?_under]
  apply List.filter_congr
  intro r _
  rw [Bool.and_comm _ (isBelow parent r.folder), ← Bool.and_assoc]
  rfl

theorem siblings (hids : (c.features.map (·.id)).Nodup) (includeSelf withSubtrees : Bool) :
    c.siblings n.resource includeSelf withSubtrees =
      listing withSubtrees (before ++ (if includeSelf then [n] else []) ++ after) := by
  rw [h.siblings_eq hids, List.filter_append, List.filter_append, h.listing_node,
    List.append_assoc, listing_append, listing_append, h.before_eq, h.after_eq,
    Forest.listing_numbered, Forest.listing_numbered, h.depth_eq]

/-- The places from the node on, or behind it, are told by the index on its level. -/
theorem filter_right (includeSelf : Bool) :
    ((g₁.numbered parent 0).flatten ++ ((if includeSelf then n.flatten else []) ++
        (g₂.numbered parent (g₁.width + 1)).flatten)).filter (fun r =>
      let index := (r.folder.segment? n.resource.depth).getD 0
      if includeSelf then n.resource.index ≤ index else n.resource.index < index) =
      (if includeSelf then n.flatten else []) ++
        (g₂.numbered parent (g₁.width + 1)).flatten := by
  have hindex : n.resource.index = g₁.width := by rw [Resource.index, h.folder, index_under]
  -- the earlier nodes, the node and the later ones are three runs of indices on the level
  have hplace {g : Forest} {i : Nat} {r : Resource} (hr : r ∈ (g.numbered parent i).flatten) :
      i ≤ (r.folder.segment? n.resource.depth).getD 0 ∧
        (r.folder.segment? n.resource.depth).getD 0 < i + g.width := by
    obtain ⟨j, hij, hj, hsegment⟩ := Forest.exists_segment_of_mem hr
    rw [h.depth_eq, hsegment]
    exact ⟨hij, hj⟩
  rw [List.filter_append, hindex]
  have hbefore : (g₁.numbered parent 0).flatten.filter (fun r =>
      let index := (r.folder.segment? n.resource.depth).getD 0
      if includeSelf then g₁.width ≤ index else g₁.width < index) = [] := by
    rw [List.filter_eq_nil_iff]
    intro r hr
    have := (hplace hr).2
    cases includeSelf <;> simp <;> omega
  rw [hbefore, List.nil_append, List.filter_eq_self]
  intro r hr
  rcases List.mem_append.mp hr with hr | hr
  · cases includeSelf with
    | false => cases hr
    | true =>
        have hr : r ∈ n.flatten := hr
        rw [h.flatten_eq] at hr
        simpa using (hplace hr).1
  · have := (hplace hr).1
    cases includeSelf <;> simp <;> omega

theorem rightSiblings (hids : (c.features.map (·.id)).Nodup) (includeSelf withSubtrees : Bool) :
    c.rightSiblings n.resource includeSelf withSubtrees =
      listing withSubtrees ((if includeSelf then [n] else []) ++ after) := by
  rw [Context.rightSiblings, h.siblings_eq hids, List.filter_comm, h.filter_right,
    List.filter_append, h.listing_node, listing_append, h.after_eq, Forest.listing_numbered,
    h.depth_eq]

end Standing

/-- On a valid list every question about the resource of a node has the answer that the nested view
shows, and every resource has a node. -/
theorem queries_agree_with_forest (c : Context) (hvalid : validate c.features = .ok ()) :
    ∃ roots, c.forest = .ok roots ∧ c.nextRoot = roots.length ∧
      (∀ t ∈ c.features, ∃ above before n after,
        Level roots above (before ++ n :: after) ∧ n.resource = t) ∧
      ∀ above before n after, Level roots above (before ++ n :: after) →
        c.Agrees above before n after := by
  obtain ⟨f, hf⟩ := (validate_eq_ok_iff_lists c).mp hvalid
  have hids : (c.features.map (·.id)).Nodup := hf.ids_eq ▸ hf.nodup
  refine ⟨(f.numbered none 0).nodes, ?_, ?_, ?_, ?_⟩
  · rw [forest, ← hf.flatten_eq, Forest.forest_numbered]
  · rw [hf.nextRoot_eq, Forest.length_nodes, Forest.width_numbered]
  · intro t ht
    rw [← hf.flatten_eq] at ht
    have hroots : Level (f.numbered none 0).nodes [] ([] ++ (f.numbered none 0).nodes) := .roots
    exact exists_level hroots ht
  · intro above before n after hlevel
    obtain ⟨g, parent, earlier, later, hlocated⟩ := exists_located hlevel
    obtain ⟨g₁, below, g₂, h⟩ := hlocated.exists_standing
    rw [hf.flatten_eq] at h
    exact {
      descendants := h.descendants
      block := h.block
      children := h.children
      firstChild? := h.firstChild?
      lastChild? := h.lastChild?
      firstChildPosition? := h.firstChildPosition? hids
      lastChildPosition? := h.lastChildPosition? hids
      ancestors := h.ancestors
      parent? := h.parent? hf
      isLeaf := h.isLeaf
      siblings := h.siblings hids
      rightSiblings := h.rightSiblings hids }

/-- Streets with two layers, the first of them above a third one, and a root beside them. -/
def cityTree : Context :=
  let streets : FolderPath := .root 0
  { empty "city" with
    features := [.new "streets" streets "Streets", .new "roads" (streets.child 0) "Roads",
      .new "bridges" ((streets.child 0).child 0) "Bridges", .new "paths" (streets.child 1) "Paths",
      .new "water" (.root 1) "Water"] }

/-- The roads lie below the streets, above the bridges and before the paths. -/
theorem cityTree_roads_agree :
    ∃ streets roads bridges paths water, cityTree.forest = .ok [streets, water] ∧
      streets.children = [roads, paths] ∧ roads.children = [bridges] ∧
      [streets, roads, bridges, paths, water].map (·.resource) = cityTree.features ∧
      cityTree.Agrees [streets] [] roads [paths] := by
  obtain ⟨roots, hroots, -, -, hagrees⟩ := queries_agree_with_forest cityTree (by decide)
  have hforest : ∃ streets roads bridges paths water, cityTree.forest = .ok [streets, water] ∧
      streets.children = [roads, paths] ∧ roads.children = [bridges] ∧
      [streets, roads, bridges, paths, water].map (·.resource) = cityTree.features :=
    ⟨_, _, _, _, _, rfl, rfl, rfl, rfl⟩
  obtain ⟨streets, roads, bridges, paths, water, hcity, hstreets, hroads, hlist⟩ := hforest
  obtain rfl : [streets, water] = roots := Except.ok.inj (hcity.symm.trans hroots)
  have hlevel : Level [streets, water] ([] ++ [streets]) ([] ++ roads :: [paths]) := by
    rw [List.nil_append [roads, paths], ← hstreets]
    exact .children .roots List.mem_cons_self
  exact ⟨streets, roads, bridges, paths, water, hcity, hstreets, hroads, hlist,
    hagrees _ _ _ _ hlevel⟩

end Context

end MapContext
