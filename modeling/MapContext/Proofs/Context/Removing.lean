import MapContext.Proofs.Context.Editing
import MapContext.Proofs.Context.Surgery

/-!
# Removals close one gap

A removal cuts a resource off with everything below it and numbers all others anew. The numbers
only change where the gap is: among the later siblings of the resource and below them, and there
only the index on the level of the resource.
-/

namespace MapContext

namespace Context

open FolderPath Forest

variable {c c' : Context} {f : Forest} {r s t : Resource}

/-- The resource is a later sibling of another one, or a later root if that is a root, or it stands
below one. -/
def IsBehind (c : Context) (t r : Resource) : Prop :=
  ∃ s ∈ c.features, s.parentFolder? = t.parentFolder? ∧ t.index < s.index ∧
    r.folder.startsWith s.folder = true

/-- What stands behind a resource are the places below its parent from the next index on. -/
theorem isBehind_iff (hc : Contiguous (c.features.map (·.folder))) (hr : r ∈ c.features) :
    c.IsBehind t r ↔ Within t.folder.parent? (t.folder.index + 1) r.folder := by
  constructor
  · rintro ⟨s, -, hparent, hindex, hstarts⟩
    have hs : s.folder = under t.folder.parent? s.index := by
      have hparent : s.folder.parent? = t.folder.parent? := hparent
      rw [← hparent]
      exact (under_parent?_index s.folder).symm
    rw [hs, startsWith_iff] at hstarts
    rcases hstarts with heq | hw
    · rw [heq]
      exact within_under _ hindex
    · exact hw.of_child.mono hindex
  · rintro ⟨j, rest, hj, hfolder⟩
    have hstarts : r.folder.startsWith (under t.folder.parent? j) = true := by
      rw [startsWith_iff_segments, hfolder, segments_under]
      exact ⟨rest, by simp⟩
    have hmem : under t.folder.parent? j ∈ c.features.map (·.folder) := by
      have hr : r.folder ∈ c.features.map (·.folder) := List.mem_map_of_mem hr
      rcases startsWith_iff.mp hstarts with heq | hw
      · rwa [← heq]
      · exact hc.mem_of_within hr hw
    obtain ⟨s, hs, hsfolder⟩ := List.mem_map.mp hmem
    refine ⟨s, hs, ?_, ?_, hsfolder ▸ hstarts⟩
    · rw [Resource.parentFolder?, hsfolder, parent?_under]
      rfl
    · rw [Resource.index, Resource.index, hsfolder, index_under]
      exact hj

/-- What the removal of a resource makes of one that is left. -/
structure Closes (c : Context) (t : Resource) (c' : Context) (r r' : Resource) : Prop where
  /-- Nothing but the folder changes. -/
  content : r' = r.atFolder r'.folder
  /-- Behind the removed resource the index on its level goes down by one. -/
  behind : c.IsBehind t r → ∃ i, r.folder.segment? t.depth = some (i + 1) ∧
    r'.folder = r.folder.withSegment t.depth i
  /-- Elsewhere the folder stays as well. -/
  elsewhere : ¬c.IsBehind t r → r' = r
  /-- The depth stays. -/
  depth : r'.depth = r.depth
  /-- The parent stays. -/
  parent : (c'.parent? r').map (·.id) = (c.parent? r).map (·.id)

/-- What is left when a branch is cut off keeps its parents. -/
theorem Lists.parent_detach (h : c.Lists f) (ht : t ∈ c.features)
    (h' : c'.Lists (f.detach t.id)) {r' : Resource} (hr : r ∈ c.features) (hr' : r' ∈ c'.features)
    (hid : r'.id = r.id) : (c'.parent? r').map (·.id) = (c.parent? r).map (·.id) := by
  have hmem := h.mem_ids ht
  obtain ⟨old, hedges⟩ := exists_edges_branch hmem h.nodup none
  apply h.parent_congr h' hr hr' hid
  intro above habove
  exact hedges.symm.subset (List.mem_append_left _ habove)

theorem depth_eq_length_parent (p : FolderPath) : p.depth = (segmentsOf p.parent?).length := by
  rw [segmentsOf_parent?, List.length_dropLast, depth]

/-- Closing the gap moves a resource behind it down by one, and leaves the others where they
are. -/
theorem shift_closes (hc : Contiguous (c.features.map (·.folder))) (hr : r ∈ c.features)
    {r' : Resource}
    (hshift : shiftSiblings .down t.folder.parent? (t.folder.index + 1) [r] = [r']) :
    (c.IsBehind t r → ∃ i, r.folder.segment? t.depth = some (i + 1) ∧
      r' = r.atFolder (r.folder.withSegment t.depth i)) ∧ (¬c.IsBehind t r → r' = r) := by
  rw [isBehind_iff hc hr]
  constructor
  · rintro ⟨j, rest, hj, hfolder⟩
    obtain ⟨i, rfl⟩ : ∃ i, j = i + 1 := ⟨j - 1, by omega⟩
    have hdepth : t.depth = (segmentsOf t.folder.parent?).length := depth_eq_length_parent t.folder
    let q : FolderPath := ⟨segmentsOf t.folder.parent? ++ i :: rest, by simp⟩
    have hpath : r.folder.withSegment t.depth i = q := by
      apply eq_of_segments
      simp [withSegment, hfolder, hdepth, q]
    have hmoved : shiftSiblings .down t.folder.parent? (t.folder.index + 1)
        [r.atFolder r.folder] = [r.atFolder q] :=
      shiftSiblings_singleton hfolder hj rfl
    rw [Resource.atFolder_self, hshift] at hmoved
    refine ⟨i, by simp [segment?, hfolder, hdepth], ?_⟩
    rw [hpath]
    exact List.singleton_inj.mp hmoved
  · intro hnot
    have hkept : shiftSiblings .down t.folder.parent? (t.folder.index + 1) [r] = [r] :=
      shiftSiblings_of_not_within (by simpa using hnot)
    rw [hshift] at hkept
    exact List.singleton_inj.mp hkept

/-- A shift pairs every resource with what it makes of it. -/
theorem forall₂_shiftSiblings {R : Resource → Resource → Prop} {shift : Shift}
    {slot : Option FolderPath} {k : Nat} {rs : List Resource}
    (h : ∀ r ∈ rs, ∀ r' ∈ shiftSiblings shift slot k rs,
      shiftSiblings shift slot k [r] = [r'] → R r r') :
    List.Forall₂ R rs (shiftSiblings shift slot k rs) := by
  rw [shiftSiblings, List.forall₂_map_right_iff, List.forall₂_same]
  intro r hr
  exact h r hr _ (List.mem_map_of_mem hr) rfl

/-- A removal gives the resource and what is below it, as they stood, and closes the gap that they
leave. -/
theorem remove_closes_gap (hvalid : validate c.features = .ok ()) {id : Resource.Id}
    (ht : c.get? id = some t) :
    ∃ c', c.remove id = .ok (c', c.features.filter (·.folder.startsWith t.folder)) ∧
      List.Forall₂ (Closes c t c') (c.features.filter (!·.folder.startsWith t.folder))
        c'.features := by
  obtain ⟨f, h⟩ := (validate_eq_ok_iff_lists c).mp hvalid
  have hc := contiguous_of_validate hvalid
  obtain ⟨hfeature, rfl⟩ := h.get?_eq_some_iff.mp ht
  obtain ⟨hremoved, hrest⟩ := h.filter_startsWith hfeature
  have hmem := h.mem_ids hfeature
  obtain ⟨c', hremove, hfeatures⟩ : ∃ c', c.remove t.id =
      .ok (c', c.features.filter (·.folder.startsWith t.folder)) ∧
      c'.features = ((f.detach t.id).numbered none 0).flatten :=
    ⟨_, hremoved ▸ h.remove_eq hfeature, rfl⟩
  have h' : c'.Lists (f.detach t.id) := ⟨hfeatures.symm, nodup_ids_detach hmem h.nodup⟩
  have hgap : c'.features = shiftSiblings .down t.folder.parent? (t.folder.index + 1)
      (c.features.filter (!·.folder.startsWith t.folder)) := by
    rw [hrest, shiftSiblings_down_detach (h.flatten_eq ▸ hfeature) h.nodup, hfeatures]
  refine ⟨c', hremove, ?_⟩
  rw [hgap]
  apply forall₂_shiftSiblings
  intro r hr r' hr' hshift
  have hr := List.mem_of_mem_filter hr
  obtain ⟨hbehind, helsewhere⟩ := shift_closes hc hr hshift
  have hcases : r' = r.atFolder r'.folder ∧ r'.depth = r.depth := by
    by_cases hgone : c.IsBehind t r
    · obtain ⟨i, -, rfl⟩ := hbehind hgone
      exact ⟨rfl, by simp [Resource.depth, depth, withSegment]⟩
    · rw [helsewhere hgone]
      exact ⟨rfl, rfl⟩
  have hid : r'.id = r.id := congrArg (·.id) hcases.1
  constructor
  case content => exact hcases.1
  case behind =>
    intro hgone
    obtain ⟨i, hsegment, hfolder⟩ := hbehind hgone
    exact ⟨i, hsegment, congrArg (·.folder) hfolder⟩
  case elsewhere => exact helsewhere
  case depth => exact hcases.2
  case parent => exact h.parent_detach hfeature h' hr (hgap ▸ hr') hid

/-- The group goes with its layer, and the layer beside it becomes the first root. -/
theorem group_removed :
    ∃ c', remove { empty "map" with features := groupAndLayer } "group" =
        .ok (c', groupAndLayer.take 2) ∧
      List.Forall₂ (Closes { empty "map" with features := groupAndLayer }
        (.new "group" (.root 0) "Group") c') (groupAndLayer.drop 2) c'.features ∧
      c'.features = [.new "base" (.root 0) "Base"] := by
  let c : Context := { empty "map" with features := groupAndLayer }
  let group : Resource := .new "group" (.root 0) "Group"
  let base : Resource := .new "base" (.root 1) "Base"
  obtain ⟨c', hremove, hcloses⟩ :=
    remove_closes_gap (c := c) (t := group) (by decide) (show c.get? "group" = some group from rfl)
  refine ⟨c', hremove, hcloses, ?_⟩
  have hbehind : c.IsBehind group base :=
    ⟨base, by simp [c, base, groupAndLayer], rfl, by decide, by decide⟩
  have hcloses : List.Forall₂ (Closes c group c') [base] c'.features := hcloses
  obtain ⟨r', others, hbase, hothers, hfeatures⟩ := List.forall₂_cons_left_iff.mp hcloses
  obtain ⟨i, hi, hfolder⟩ := hbase.behind hbehind
  have hsegment : base.folder.segment? group.depth = some 1 := rfl
  obtain rfl : i = 0 := by simpa [hsegment] using hi.symm
  rw [hfeatures, List.forall₂_nil_left_iff.mp hothers, hbase.content, hfolder]
  rfl

end Context

end MapContext
