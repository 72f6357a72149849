import MapContext.Proofs.Context.Listed
import MapContext.Proofs.Forest.Nodes

/-!
# The flat list answers for the nested view

Questions about the layer tree are answered by filters on the flat list, which look at folders and
identifiers only. On a valid list they give what the nested view shows: a node with those below it,
its children, the nodes above it, and the level that it lives on.
-/

namespace MapContext

namespace Node

/-- A level of a forest, with the nodes above it from the root down: the roots, or the children of a
node on another level. -/
inductive Level (roots : List Node) : List Node → List Node → Prop
  | roots : Level roots [] roots
  | children {above level : List Node} {n : Node} :
      Level roots above level → n ∈ level → Level roots (above ++ [n]) n.children

/-- The resources of nodes, on request with those below them. -/
def listing (withSubtrees : Bool) (ns : List Node) : List Resource :=
  if withSubtrees then flattenAll ns else ns.map (·.resource)

theorem listing_append (withSubtrees : Bool) (ns ms : List Node) :
    listing withSubtrees (ns ++ ms) = listing withSubtrees ns ++ listing withSubtrees ms := by
  cases withSubtrees with
  | false => exact List.map_append
  | true => exact flattenAll_append ns ms

/-- Every resource of a forest has a node on some level. -/
theorem exists_level {f : Forest} {roots above before : List Node} {t : Resource}
    (h : Level roots above (before ++ f.nodes)) (ht : t ∈ f.flatten) :
    ∃ above before n after, Level roots above (before ++ n :: after) ∧ n.resource = t := by
  induction f generalizing above before with
  | nil => cases ht
  | tree r below rest ihb ihr =>
      rw [Forest.nodes_tree] at h
      rw [Forest.flatten_tree, List.mem_cons, List.mem_append] at ht
      rcases ht with rfl | ht | ht
      · exact ⟨above, before, _, _, h, rfl⟩
      · have hbelow : Level roots (above ++ [mk r below.nodes]) ([] ++ below.nodes) :=
          h.children (List.mem_append_right _ List.mem_cons_self)
        exact ihb hbelow ht
      · rw [List.append_cons] at h
        exact ihr h ht

end Node

namespace FolderPath

/-- Siblings have the same folders above them. -/
theorem isAncestorOf_under_congr (p : FolderPath) (parent : Option FolderPath) (i j : Nat) :
    p.isAncestorOf (under parent i) = p.isAncestorOf (under parent j) := by
  rw [Bool.eq_iff_iff]
  cases parent with
  | none => exact iff_of_false (not_isAncestorOf_root p i) (not_isAncestorOf_root p j)
  | some q => rw [isAncestorOf_under_some, isAncestorOf_under_some]

/-- Whether a folder lies below an optional parent. -/
def isBelow (parent : Option FolderPath) (p : FolderPath) : Bool :=
  match parent with
  | some q => q.isAncestorOf p
  | none => true

theorem isBelow_iff {parent : Option FolderPath} {p : FolderPath} :
    isBelow parent p = true ↔ Within parent 0 p := by
  cases parent with
  | none => exact iff_of_true rfl (within_none p)
  | some q => exact isAncestorOf_iff

end FolderPath

namespace Forest

open FolderPath

variable {f : Forest} {parent : Option FolderPath} {i k : Nat} {r : Resource}

/-- Nothing of the earlier trees lies below a later one. -/
theorem not_within_of_mem_earlier (h : r ∈ (f.numbered parent 0).flatten) :
    ¬Within (some (under parent f.width)) 0 r.folder := by
  rintro ⟨j, rest, -, hr⟩
  have hr : r.folder.segments = segmentsOf parent ++ f.width :: j :: rest := by simpa using hr
  have hlt := segment_lt_of_mem h hr
  omega

/-- Nothing of the later trees lies below an earlier one. -/
theorem not_within_of_mem_later (h : r ∈ (f.numbered parent (k + 1)).flatten) :
    ¬Within (some (under parent k)) 0 r.folder :=
  not_within_of_child_later (within_under _ (Nat.le_refl 0)) (within_of_mem h)

theorem listing_numbered (withSubtrees : Bool) (f : Forest) (parent : Option FolderPath) (i : Nat) :
    Node.listing withSubtrees (f.numbered parent i).nodes =
      (f.numbered parent i).flatten.filter
        fun r => withSubtrees || r.depth == (segmentsOf parent).length := by
  cases withSubtrees with
  | false => exact (filter_depth_numbered f parent i).symm
  | true =>
      rw [Node.listing, if_pos rfl, flattenAll_nodes]
      exact (List.filter_eq_self.mpr fun _ _ => rfl).symm

/-- The folders at or above a place of a sorted list are those above it and its own. -/
theorem filter_at_or_above {before after : List Resource}
    (hsorted : (before ++ r :: after).Pairwise fun a b => a.folder < b.folder) :
    (before ++ r :: after).filter (fun a => r.folder.startsWith a.folder) =
      (before ++ r :: after).filter (·.isAncestorOf r) ++ [r] := by
  rw [List.pairwise_append, List.pairwise_cons] at hsorted
  obtain ⟨-, ⟨hlater, -⟩, hearlier⟩ := hsorted
  have hafter : ∀ a ∈ after, ¬r.folder.startsWith a.folder = true := by
    intro a ha hstarts
    rcases startsWith_iff.mp hstarts with heq | hw
    · exact FolderPath.lt_irrefl _ (heq ▸ hlater a ha)
    · exact FolderPath.lt_irrefl _ (List.lt_trans (hlater a ha) (lt_of_within hw))
  have hstarts : after.filter (fun a => r.folder.startsWith a.folder) = [] :=
    List.filter_eq_nil_iff.mpr hafter
  have habove : (r :: after).filter (·.isAncestorOf r) = [] := by
    rw [List.filter_eq_nil_iff, List.forall_mem_cons]
    exact ⟨fun h => (isAncestorOf_iff_startsWith.mp h).1 rfl,
      fun a ha h => hafter a ha (isAncestorOf_iff_startsWith.mp h).2⟩
  have hself : (r :: after).filter (fun a => r.folder.startsWith a.folder) = [r] := by
    rw [List.filter_cons_of_pos (by simp), hstarts]
  have hbefore : before.filter (fun a => r.folder.startsWith a.folder) =
      before.filter (·.isAncestorOf r) := by
    apply List.filter_congr
    intro a ha
    rw [Bool.eq_iff_iff]
    refine Iff.trans ?_ isAncestorOf_iff_startsWith.symm
    refine ⟨fun h => ⟨fun heq => ?_, h⟩, And.right⟩
    exact FolderPath.lt_irrefl _ (heq ▸ hearlier a ha r List.mem_cons_self)
  rw [List.filter_append, List.filter_append, hself, habove, hbefore, List.append_nil]

end Forest

namespace Context

open FolderPath Node

/-- A level of the layer tree as it stands in the listing of a forest. -/
structure Located (f : Forest) (above level : List Node) (g : Forest) (parent : Option FolderPath)
    (earlier later : List Resource) : Prop where
  /-- The nodes are the trees of a forest below the parent. -/
  nodes : level = (g.numbered parent 0).nodes
  /-- They stand together. -/
  flatten_eq : (f.numbered none 0).flatten = earlier ++ (g.numbered parent 0).flatten ++ later
  /-- Nothing else lies below the parent. -/
  apart : ∀ r ∈ earlier ++ later, ¬Within parent 0 r.folder
  /-- The parent is the innermost node above. -/
  parent_eq : above.getLast?.map (·.resource.folder) = parent
  /-- The resources above the level are those of the nodes above. -/
  above_eq : (f.numbered none 0).flatten.filter (·.folder.isAncestorOf (under parent 0)) =
    above.map (·.resource)

variable {f g : Forest} {above level before after : List Node} {n : Node}
  {parent : Option FolderPath} {earlier later : List Resource}

/-- What lies below the parent of a level is the level with what is below it. -/
theorem Located.filter_isBelow (h : Located f above level g parent earlier later) :
    (f.numbered none 0).flatten.filter (fun r => isBelow parent r.folder) =
      (g.numbered parent 0).flatten := by
  have hnone {rs : List Resource} (hrs : ∀ r ∈ rs, r ∈ earlier ++ later) :
      rs.filter (fun r => isBelow parent r.folder) = [] :=
    List.filter_eq_nil_iff.mpr fun r hr hbelow => h.apart r (hrs r hr) (isBelow_iff.mp hbelow)
  have hall : (g.numbered parent 0).flatten.filter (fun r => isBelow parent r.folder) =
      (g.numbered parent 0).flatten :=
    List.filter_eq_self.mpr fun r hr => isBelow_iff.mpr (Forest.within_of_mem hr)
  rw [h.flatten_eq, List.filter_append, List.filter_append, hall,
    hnone fun r hr => List.mem_append_left _ hr, hnone fun r hr => List.mem_append_right _ hr,
    List.nil_append, List.append_nil]

/-- The children of a node stand behind it. -/
theorem Located.children (h : Located f above (before ++ n :: after) g parent earlier later) :
    ∃ below earlier' later', Located f (above ++ [n]) n.children below (some n.resource.folder)
      earlier' later' := by
  obtain ⟨g₁, below, g₂, t, hflatten, hfolder, rfl, rfl, rfl⟩ :=
    Forest.exists_of_nodes_eq h.nodes.symm
  rw [Nat.zero_add] at hflatten hfolder
  simp only [resource_mk, children_mk]
  have hsplit : (f.numbered none 0).flatten = (earlier ++ (g₁.numbered parent 0).flatten) ++
      t :: ((below.numbered (some t.folder) 0).flatten ++
        ((g₂.numbered parent (g₁.width + 1)).flatten ++ later)) := by
    rw [h.flatten_eq, hflatten]
    simp
  refine ⟨below, earlier ++ (g₁.numbered parent 0).flatten ++ [t],
    (g₂.numbered parent (g₁.width + 1)).flatten ++ later, rfl, ?_, ?_, by simp, ?_⟩
  · rw [hsplit]
    simp
  · -- what is below the node is below the parent of its level, so only that level needs a look
    intro r hr hw
    have hlevel : Within parent 0 r.folder := (hfolder ▸ hw).of_child.mono (Nat.zero_le _)
    simp only [List.mem_append, List.mem_singleton] at hr
    rcases hr with ((hr | hr) | rfl) | hr | hr
    · exact h.apart r (List.mem_append_left _ hr) hlevel
    · exact Forest.not_within_of_mem_earlier hr (hfolder ▸ hw)
    · exact FolderPath.lt_irrefl _ (lt_of_within hw)
    · exact Forest.not_within_of_mem_later hr (hfolder ▸ hw)
    · exact h.apart r (List.mem_append_right _ hr) hlevel
  · have hsorted := Forest.pairwise_folder_lt f none 0
    have habove : (f.numbered none 0).flatten.filter (·.isAncestorOf t) =
        above.map (·.resource) := by
      rw [← h.above_eq]
      simp only [Resource.isAncestorOf, hfolder, isAncestorOf_under_congr _ parent g₁.width 0]
    have hat : (f.numbered none 0).flatten.filter
        (·.folder.isAncestorOf (under (some t.folder) 0)) =
          (f.numbered none 0).flatten.filter (fun r => t.folder.startsWith r.folder) := by
      apply List.filter_congr
      intro r _
      rw [Bool.eq_iff_iff, isAncestorOf_under_some]
    rw [hat, hsplit, Forest.filter_at_or_above (hsplit ▸ hsorted), ← hsplit, habove]
    simp

/-- Every level of the nested view is found in the listing. -/
theorem exists_located (h : Level (f.numbered none 0).nodes above level) :
    ∃ g parent earlier later, Located f above level g parent earlier later := by
  induction h with
  | roots =>
      refine ⟨f, none, [], [], rfl, by simp, by simp, rfl, ?_⟩
      exact List.filter_eq_nil_iff.mpr fun r _ => not_isAncestorOf_root r.folder 0
  | children _ hn ih =>
      obtain ⟨g, parent, earlier, later, hlocated⟩ := ih
      obtain ⟨before, after, rfl⟩ := List.append_of_mem hn
      obtain ⟨below, earlier', later', hchildren⟩ := hlocated.children
      exact ⟨below, _, earlier', later', hchildren⟩

end Context

end MapContext
