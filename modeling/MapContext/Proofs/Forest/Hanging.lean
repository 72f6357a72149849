import MapContext.Proofs.Forest.Nodes
import MapContext.Proofs.Result

/-!
# Hanging a resource into a forest

A resource goes down from the roots along the folders above it. It is hung in behind the children
that its parent has by then, or refused where a folder on the way has not been met. Where folders
differ, every level of the forest holds the resources with one parent in the order in which they
came, and hanging in one more keeps that.
-/

namespace MapContext

namespace FolderPath

variable {parent slot : Option FolderPath} {p q : FolderPath} {ps : List FolderPath}

theorem mem_ancestors_iff : p ∈ q.ancestors ↔ p.isAncestorOf q = true := by
  induction q using induction_under with
  | root i => simpa [ancestors_under_none] using not_isAncestorOf_root p i
  | child q i ih =>
      rw [ancestors_under_some, List.mem_cons, ih, isAncestorOf_under_some, startsWith_iff,
        isAncestorOf_iff, eq_comm]

/-- What lies below a child is no child itself. -/
theorem parent_ne_of_within {i : Nat} (h : Within (some (under parent i)) 0 q) :
    q.parent? ≠ parent := by
  intro heq
  rw [← under_parent?_index q, heq] at h
  have hlength := (prefix_of_within_child h).length_le
  simp only [List.length_append, List.length_singleton] at hlength
  omega

/-- What lies below a child lies below no other child. -/
theorem index_eq_of_within {i j : Nat} (hi : Within (some (under parent i)) 0 q)
    (hj : Within (some (under parent j)) 0 q) : i = j := by
  have hbegins := List.prefix_of_prefix_length_le hi.prefix_child hj.prefix_child (by simp)
  simpa using hbegins.eq_of_length (by simp)

/-- The folders on the way down from the children of one folder to those of another. -/
inductive Descends : Option FolderPath → List FolderPath → Option FolderPath → Prop
  /-- The way ends. -/
  | here (parent : Option FolderPath) : Descends parent [] parent
  /-- The way goes on below a child. -/
  | child {parent slot : Option FolderPath} {i : Nat} {ps : List FolderPath} :
      Descends (some (under parent i)) ps slot → Descends parent (under parent i :: ps) slot

theorem Descends.concat {i : Nat} (h : Descends parent ps slot) :
    Descends parent (ps ++ [under slot i]) (some (under slot i)) := by
  induction h with
  | here parent => exact .child (.here _)
  | child _ ih => exact .child ih

/-- The folders above a place lead down to it. -/
theorem descends_lineage (slot : Option FolderPath) : Descends none (lineage slot) slot := by
  cases slot with
  | none => exact .here none
  | some p =>
      induction p using induction_under with
      | root i =>
          rw [lineage_under]
          exact (Descends.here none).concat
      | child p i ih =>
          rw [lineage_under]
          exact ih.concat

theorem Descends.segments_prefix (h : Descends parent ps slot) :
    segmentsOf parent <+: segmentsOf slot := by
  induction h with
  | here parent => exact List.prefix_rfl
  | child _ ih => exact (List.prefix_append _ _).trans ih

/-- Every place at the end of the way lies below the first folder on it. -/
theorem Descends.within {i j : Nat} (h : Descends (some (under parent i)) ps slot) :
    Within (some (under parent i)) 0 (under slot j) := by
  obtain ⟨rest, hrest⟩ := h.segments_prefix
  cases rest with
  | nil => exact ⟨j, [], Nat.zero_le j, by simp [← hrest]⟩
  | cons k rest => exact ⟨k, rest ++ [j], Nat.zero_le k, by simp [← hrest]⟩

theorem Descends.depth_le (h : Descends parent ps slot) :
    ∀ p ∈ ps, (segmentsOf parent).length ≤ p.depth := by
  induction h with
  | here parent => simp
  | child _ ih =>
      rw [List.forall_mem_cons]
      refine ⟨by simp, fun p hp => ?_⟩
      have := ih p hp
      simp only [segmentsOf_some, segments_under, List.length_append] at this
      omega

/-- Each folder on the way is deeper than the one before. -/
theorem Descends.pairwise_depth (h : Descends parent ps slot) :
    ps.Pairwise fun p q => p.depth < q.depth := by
  induction h with
  | here parent => exact .nil
  | @child parent _ i _ hps ih =>
      refine List.pairwise_cons.mpr ⟨fun q hq => ?_, ih⟩
      have := hps.depth_le q hq
      simp only [segmentsOf_some, segments_under, List.length_append, List.length_singleton,
        depth_under] at this ⊢
      omega

end FolderPath

namespace Node

open FolderPath

variable {rs : List Resource} {r : Resource} {parent slot : Option FolderPath}
  {ps : List FolderPath}
  {p : FolderPath} {ns level : List Node} {index : Nat}

/-! ### The resources of a forest -/

theorem mem_flattenAll_iff {a : Resource} : a ∈ flattenAll ns ↔ ∃ n ∈ ns, a ∈ n.flatten := by
  rw [flattenAll_eq_flatMap, List.mem_flatMap]

theorem splitLast?_eq_none_iff {f : Node → Bool} :
    splitLast? f ns = none ↔ ∀ n ∈ ns, f n = false := by
  induction ns with
  | nil => simp [splitLast?]
  | cons n ns ih =>
      rw [splitLast?, List.forall_mem_cons, ← ih]
      cases splitLast? f ns with
      | none => simp
      | some found => simp

theorem eq_append_of_splitLast? {f : Node → Bool} {before after : List Node} {n : Node}
    (h : splitLast? f ns = some (before, n, after)) : ns = before ++ n :: after ∧ f n = true := by
  induction ns generalizing before with
  | nil => cases h
  | cons m ns ih =>
      rw [splitLast?] at h
      split at h
      · next hsplit =>
          cases h
          obtain ⟨rfl, hn⟩ := ih hsplit
          exact ⟨rfl, hn⟩
      · split at h
        · next hm =>
            cases h
            exact ⟨rfl, hm⟩
        · cases h

/-- A resource that is hung in is the only one that is added. -/
theorem flattenAll_place_perm {level' : List Node} (h : place index r ps level = .ok level') :
    (flattenAll level').Perm (flattenAll level ++ [r]) := by
  induction ps generalizing level level' with
  | nil =>
      cases h
      rw [flattenAll_append]
      exact .refl _
  | cons p ps ih =>
      rw [place] at h
      split at h
      · cases h
      · next before n after hsplit =>
          obtain ⟨rfl, -⟩ := eq_append_of_splitLast? hsplit
          obtain ⟨inner, hinner, h⟩ := bind_eq_ok_iff.mp h
          cases h
          simp only [flattenAll_append, flattenAll, flatten_eq, resource_mk, children_mk,
            List.cons_append, List.append_assoc]
          refine ((((ih hinner).append_right _).cons _).append_left _).trans ?_
          rw [List.append_assoc]
          exact ((List.perm_append_comm.append_left _).cons _).append_left _

/-! ### Levels of a list -/

/-- The nodes are the resources with one parent, in the order of the list, and so are the nodes
below each of them. -/
inductive Nests (rs : List Resource) : Option FolderPath → List Node → Prop
  /-- A level with those below it. -/
  | level {parent : Option FolderPath} {ns : List Node} :
      ns.map (·.resource) = rs.filter (·.folder.parent? == parent) →
      (∀ n ∈ ns, Nests rs (some n.resource.folder) n.children) → Nests rs parent ns

namespace Nests

theorem resources (h : Nests rs parent ns) :
    ns.map (·.resource) = rs.filter (·.folder.parent? == parent) := by
  cases h
  assumption

theorem children {n : Node} (h : Nests rs parent ns) (hn : n ∈ ns) :
    Nests rs (some n.resource.folder) n.children := by
  cases h with
  | level _ h => exact h n hn

theorem parent_of_mem {n : Node} (h : Nests rs parent ns) (hn : n ∈ ns) :
    n.resource.folder.parent? = parent := by
  have hmem := List.mem_map_of_mem (f := (·.resource)) hn
  rw [h.resources] at hmem
  simpa using (List.mem_filter.mp hmem).2

theorem exists_of_mem {n : Node} (h : Nests rs parent ns) (hn : n ∈ ns) :
    ∃ i, n.resource.folder = under parent i :=
  ⟨n.resource.folder.index, by rw [← h.parent_of_mem hn, under_parent?_index]⟩

/-- Without resources there are no nodes. -/
theorem nil (parent : Option FolderPath) : Nests [] parent [] :=
  .level rfl (by simp)

/-- Everything on a level and below it lies below the parent. -/
theorem within_of_mem {a : Resource} (h : Nests rs parent ns) (ha : a ∈ flattenAll ns) :
    Within parent 0 a.folder := by
  induction h with
  | level hns hchildren ih =>
      obtain ⟨n, hn, ha⟩ := mem_flattenAll_iff.mp ha
      obtain ⟨i, hi⟩ := (Nests.level hns hchildren).exists_of_mem hn
      rw [flatten_eq, List.mem_cons] at ha
      rcases ha with rfl | ha
      · rw [hi]
        exact within_under _ (Nat.zero_le i)
      · have hbelow := ih n hn ha
        rw [hi] at hbelow
        exact hbelow.of_child.mono (Nat.zero_le i)

/-- A resource that does not lie below the parent of a level changes nothing on it. -/
theorem append_of_not_within (h : Nests rs parent ns) (hr : ¬Within parent 0 r.folder) :
    Nests (rs ++ [r]) parent ns := by
  induction h with
  | @level parent ns hns hchildren ih =>
      have hparent : r.folder.parent? ≠ parent := by
        intro heq
        apply hr
        rw [← under_parent?_index r.folder, heq]
        exact within_under _ (Nat.zero_le _)
      refine .level ?_ fun n hn => ih n hn fun hw => ?_
      · rw [List.filter_append, hns, List.filter_cons_of_neg (by simpa using hparent)]
        simp
      · obtain ⟨i, hi⟩ := (Nests.level hns hchildren).exists_of_mem hn
        rw [hi] at hw
        exact hr (hw.of_child.mono (Nat.zero_le i))

/-- On a level there are no two nodes with one folder. -/
theorem nodup (h : Nests rs parent ns) (hrs : (rs.map (·.folder)).Nodup) :
    (ns.map (·.resource.folder)).Nodup := by
  have hsub : ((ns.map (·.resource)).map (·.folder)).Sublist (rs.map (·.folder)) := by
    rw [h.resources]
    exact List.filter_sublist.map _
  rw [List.map_map] at hsub
  exact hrs.sublist hsub

theorem folder_mem {n : Node} (h : Nests rs parent ns) (hn : n ∈ ns) :
    n.resource.folder ∈ rs.map (·.folder) := by
  have hmem := List.mem_map_of_mem (f := (·.resource)) hn
  rw [h.resources] at hmem
  exact List.mem_map_of_mem (List.mem_of_mem_filter hmem)

/-- A child of the parent that is in the list has its node. -/
theorem exists_node {i : Nat} (h : Nests rs parent ns) (hi : under parent i ∈ rs.map (·.folder)) :
    ∃ n ∈ ns, n.resource.folder = under parent i := by
  obtain ⟨a, ha, hfolder⟩ := List.mem_map.mp hi
  have hmem : a ∈ ns.map (·.resource) := by
    rw [h.resources, List.mem_filter, hfolder, parent?_under]
    exact ⟨ha, beq_self_eq_true parent⟩
  obtain ⟨n, hn, rfl⟩ := List.mem_map.mp hmem
  exact ⟨n, hn, hfolder⟩

/-- A resource is hung in behind the children that its parent has, if nothing before it in the list
is one of its own children. -/
theorem concat (h : Nests rs parent level) (hr : r.folder.parent? = parent)
    (hfresh : ∀ a ∈ rs, a.folder.parent? ≠ some r.folder) :
    Nests (rs ++ [r]) parent (level ++ [mk r []]) := by
  refine .level ?_ fun n hn => ?_
  · rw [List.map_append, h.resources, List.filter_append,
      List.filter_cons_of_pos (by simpa using hr)]
    rfl
  · rcases List.mem_append.mp hn with hn | hn
    · refine (h.children hn).append_of_not_within fun hw => ?_
      obtain ⟨i, hi⟩ := h.exists_of_mem hn
      rw [hi] at hw
      exact parent_ne_of_within hw hr
    · obtain rfl := List.mem_singleton.mp hn
      refine .level ?_ (by simp)
      rw [children_mk, resource_mk, List.map_nil, eq_comm, List.filter_eq_nil_iff]
      intro a ha hparent
      rw [beq_iff_eq] at hparent
      rcases List.mem_append.mp ha with ha | ha
      · exact hfresh a ha hparent
      · obtain rfl := List.mem_singleton.mp ha
        have hdepth := congrArg List.length (congrArg segmentsOf hparent)
        have := List.length_pos_iff.mpr a.folder.nonempty
        rw [segmentsOf_parent?, segmentsOf_some, List.length_dropLast] at hdepth
        omega

/-- A resource that is hung in below one node of a level changes nothing else on it. -/
theorem exchange {before after inner : List Node} {n : Node} {i : Nat}
    (h : Nests rs parent (before ++ n :: after)) (hrs : (rs.map (·.folder)).Nodup)
    (hn : n.resource.folder = under parent i) (hr : Within (some (under parent i)) 0 r.folder)
    (hinner : Nests (rs ++ [r]) (some n.resource.folder) inner) :
    Nests (rs ++ [r]) parent (before ++ mk n.resource inner :: after) := by
  have hparent : ¬r.folder.parent? = parent := parent_ne_of_within hr
  -- nothing changes below the other nodes, since none of them has the same folder
  have hother : ∀ m ∈ before ++ after, Nests (rs ++ [r]) (some m.resource.folder) m.children := by
    intro m hm
    have hlevel : m ∈ before ++ n :: after := by
      rw [List.mem_append, List.mem_cons]
      exact (List.mem_append.mp hm).imp_right .inr
    refine (h.children hlevel).append_of_not_within fun hw => ?_
    obtain ⟨j, hj⟩ := h.exists_of_mem hlevel
    rw [hj] at hw
    have hsame : m.resource.folder = n.resource.folder := by
      rw [hj, hn, index_eq_of_within hw hr]
    have hnodup := h.nodup hrs
    rw [List.map_append, List.map_cons, List.nodup_append_comm, List.cons_append,
      List.nodup_cons, ← List.map_append, ← hsame] at hnodup
    exact hnodup.1 (List.mem_map_of_mem (List.perm_append_comm.subset hm))
  refine .level ?_ fun m hm => ?_
  · rw [List.filter_append, List.filter_cons_of_neg (by simpa using hparent), List.filter_nil,
      List.append_nil, ← h.resources]
    simp
  · rcases List.mem_append.mp hm with hm | hm
    · exact hother m (List.mem_append_left _ hm)
    · rcases List.mem_cons.mp hm with rfl | hm
      · exact hinner
      · exact hother m (List.mem_append_right _ hm)

/-- A resource goes down along the folders above it. It is hung in if all of them have been met;
otherwise the first of them that has not is reported. -/
theorem place_cases (h : Nests rs parent level) (hrs : (rs.map (·.folder)).Nodup)
    (hps : Descends parent ps slot) (hr : r.folder.parent? = slot)
    (hfresh : ∀ a ∈ rs, a.folder.parent? ≠ some r.folder) (index : Nat) :
    (∃ level', place index r ps level = .ok level' ∧ (∀ p ∈ ps, p ∈ rs.map (·.folder)) ∧
        Nests (rs ++ [r]) parent level') ∨
      ∃ above p below, ps = above ++ p :: below ∧ (∀ q ∈ above, q ∈ rs.map (·.folder)) ∧
        p ∉ rs.map (·.folder) ∧
        place index r ps level = .error (.parentNotFound index r.folder p) := by
  induction hps generalizing level with
  | here parent => exact .inl ⟨_, rfl, by simp, h.concat hr hfresh⟩
  | @child parent slot i ps hps ih =>
      have hwithin : Within (some (under parent i)) 0 r.folder := by
        rw [← under_parent?_index r.folder, hr]
        exact hps.within
      rw [place]
      cases hsplit : splitLast? (·.resource.folder == under parent i) level with
      | none =>
          refine .inr ⟨[], under parent i, ps, rfl, by simp, fun hmem => ?_, rfl⟩
          obtain ⟨n, hn, hfolder⟩ := h.exists_node hmem
          have hnone := splitLast?_eq_none_iff.mp hsplit n hn
          simp [hfolder] at hnone
      | some found =>
          obtain ⟨before, n, after⟩ := found
          obtain ⟨rfl, hn⟩ := eq_append_of_splitLast? hsplit
          rw [beq_iff_eq] at hn
          have hmem : n ∈ before ++ n :: after := List.mem_append_right _ List.mem_cons_self
          have hknown := h.folder_mem hmem
          have hchildren := h.children hmem
          rw [hn] at hknown hchildren
          simp only
          rcases ih hchildren hr with ⟨inner, hplace, hall, hinner⟩ |
            ⟨above, p, below, rfl, habove, hp, hplace⟩
          · refine .inl ⟨before ++ mk n.resource inner :: after, ?_, ?_, ?_⟩
            · rw [hplace]
              rfl
            · exact List.forall_mem_cons.mpr ⟨hknown, hall⟩
            · exact h.exchange hrs hn hwithin (hn ▸ hinner)
          · refine .inr ⟨under parent i :: above, p, below, rfl, ?_, hp, ?_⟩
            · exact List.forall_mem_cons.mpr ⟨hknown, habove⟩
            · rw [hplace]
              rfl

/-- On every level a node stands before what is below it, and what is below one node is not above
anything below another one. -/
theorem pairwise_flattenAll (h : Nests rs parent ns) (hrs : (rs.map (·.folder)).Nodup) :
    (flattenAll ns).Pairwise fun a b => ¬b.isAncestorOf a = true := by
  induction h with
  | @level parent ns hns hchildren ih =>
      have hlevel : Nests rs parent ns := .level hns hchildren
      -- everything of a node is at or below its folder
      have hbegins {n : Node} {a : Resource} (hn : n ∈ ns) (ha : a ∈ n.flatten) :
          a.folder.startsWith n.resource.folder = true := by
        rw [flatten_eq, List.mem_cons] at ha
        rw [startsWith_iff]
        rcases ha with rfl | ha
        · exact .inl rfl
        · exact .inr ((hchildren n hn).within_of_mem ha)
      rw [flattenAll_eq_flatMap, List.pairwise_flatMap]
      constructor
      · intro n hn
        rw [flatten_eq, List.pairwise_cons]
        refine ⟨fun a ha habove => ?_, ih n hn⟩
        have hbelow := isAncestorOf_iff.mpr ((hchildren n hn).within_of_mem ha)
        exact not_startsWith_of_isAncestorOf hbelow (isAncestorOf_iff_startsWith.mp habove).2
      · have hnodup := hlevel.nodup hrs
        rw [List.Nodup, List.pairwise_map] at hnodup
        refine hnodup.imp_of_mem fun {n m} hn hm hne a ha b hb habove => ?_
        have hb' := startsWith_trans (isAncestorOf_iff_startsWith.mp habove).2 (hbegins hm hb)
        obtain ⟨i, hi⟩ := hlevel.exists_of_mem hn
        obtain ⟨j, hj⟩ := hlevel.exists_of_mem hm
        have ha' := hbegins hn ha
        rw [startsWith_iff_segments] at ha' hb'
        have heq := List.prefix_of_prefix_length_le ha' hb' (by simp [hi, hj])
        exact hne (eq_of_segments (heq.eq_of_length (by simp [hi, hj])))

end Nests

end Node

end MapContext
