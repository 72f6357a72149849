import MapContext.Proofs.Context.Reachable
import MapContext.Proofs.Forest.Leaves

/-!
# Switching as marking leaves

In a consistent context a resource that has children is active if and only if all of them are, so
the switches of all resources follow from those of the leaves. A switch then marks or unmarks the
leaves at or below its target, and the cascades downwards and upwards show nothing but the new
marks.
-/

namespace MapContext.Context

open FolderPath

variable {rs : List Resource} {c c' : Context} {flags flags' marks : FolderPath → Bool}
  {p t : FolderPath}

/-! ### Resources with given switches -/

/-- The resources with the switches that belong to their folders. -/
def flagged (flags : FolderPath → Bool) (rs : List Resource) : List Resource :=
  rs.map fun r => r.switched (flags r.folder)

theorem flagged_congr (h : ∀ p ∈ rs.map (·.folder), flags p = flags' p) :
    flagged flags rs = flagged flags' rs := by
  apply List.map_congr_left
  intro r hr
  rw [h r.folder (List.mem_map_of_mem hr)]

/-- The resources with the switches that show marks on the leaves. -/
def shown (marks : FolderPath → Bool) (rs : List Resource) : List Resource :=
  flagged (summary (rs.map (·.folder)) marks) rs

theorem map_folder_flagged (flags : FolderPath → Bool) (rs : List Resource) :
    (flagged flags rs).map (·.folder) = rs.map (·.folder) := by
  rw [flagged, List.map_map]
  rfl

theorem switchSubtree_flagged (active : Bool) (t : FolderPath) (flags : FolderPath → Bool)
    (rs : List Resource) :
    switchSubtree active t (flagged flags rs) = flagged (mark t active flags) rs := by
  rw [switchSubtree, flagged, List.map_map]
  apply List.map_congr_left
  intro r _
  have hfolder : (r.switched (flags r.folder)).folder = r.folder := rfl
  rw [Function.comp_apply, hfolder, mark]
  split <;> rfl

theorem demote_flagged (t : FolderPath) (flags : FolderPath → Bool) (rs : List Resource) :
    demote t (flagged flags rs) =
      flagged (fun p => if p.isAncestorOf t then false else flags p) rs := by
  rw [demote, flagged, List.map_map]
  apply List.map_congr_left
  intro r _
  show (if r.folder.isAncestorOf t then (r.switched (flags r.folder)).switched false
    else r.switched (flags r.folder)) =
      r.switched (if r.folder.isAncestorOf t then false else flags r.folder)
  split <;> rfl

theorem allChildrenActive_flagged (p : FolderPath) (flags : FolderPath → Bool)
    (rs : List Resource) :
    allChildrenActive p (flagged flags rs) = true ↔
      ∀ i, under (some p) i ∈ rs.map (·.folder) → flags (under (some p) i) = true := by
  rw [allChildrenActive, List.all_eq_true]
  constructor
  · intro h i hi
    obtain ⟨r, hr, hfolder⟩ := List.mem_map.mp hi
    have hchild := isChild_iff.mpr ⟨i, hfolder⟩
    rw [← hfolder]
    exact h (r.switched (flags r.folder))
      (List.mem_filter.mpr ⟨List.mem_map_of_mem (f := fun r => r.switched (flags r.folder)) hr,
        hchild⟩)
  · intro h s hs
    obtain ⟨hs, hchild⟩ := List.mem_filter.mp hs
    obtain ⟨r, hr, rfl⟩ := List.mem_map.mp hs
    obtain ⟨i, hi⟩ := isChild_iff.mp hchild
    have hfolder : r.folder = under (some p) i := hi
    show flags r.folder = true
    rw [hfolder]
    apply h i
    rw [← hfolder]
    exact List.mem_map_of_mem hr

/-! ### One switch -/

/-- Going upwards from a folder, exactly those above it are switched on whose leaves are all
marked, provided the switches elsewhere show the marks already. -/
theorem promote_flagged (h : Contiguous (rs.map (·.folder))) (t : FolderPath)
    (ht : t ∈ rs.map (·.folder))
    (haside : ∀ p ∈ rs.map (·.folder), ¬p.isAncestorOf t = true →
      flags p = summary (rs.map (·.folder)) marks p)
    (habove : ∀ p, flags p = true → summary (rs.map (·.folder)) marks p = true) :
    promote (flagged flags rs) t.ancestors = shown marks rs := by
  induction t using induction_under generalizing flags with
  | root i =>
      rw [ancestors_under_none, promote]
      apply flagged_congr
      intro p hp
      exact haside p hp (not_isAncestorOf_root p i)
  | child parent i ih =>
      have hparent : parent ∈ rs.map (·.folder) :=
        h.parent_mem _ ht parent (parent?_under (some parent) i)
      have hinner : parent ∉ leaves (rs.map (·.folder)) := by
        intro hleaf
        exact (mem_leaves_iff.mp hleaf).2 _ ht (isAncestorOf_under parent i)
      have hall : allChildrenActive parent (flagged flags rs) = true ↔
          summary (rs.map (·.folder)) marks parent = true := by
        rw [allChildrenActive_flagged, h.summary_iff_children hinner]
        apply forall₂_congr
        intro j hj
        rw [haside _ hj]
        rw [isAncestorOf_under_some]
        exact not_startsWith_of_isAncestorOf (isAncestorOf_under parent j)
      rw [ancestors_under_some, promote]
      by_cases hsummary : summary (rs.map (·.folder)) marks parent = true
      · rw [if_pos (hall.mpr hsummary), switchSubtree_flagged]
        apply ih hparent
        · intro p hp hnot
          rw [mark]
          split
          · next hstarts => exact (summary_of_startsWith hstarts hsummary).symm
          · next hstarts =>
            apply haside p hp
            rw [isAncestorOf_under_some]
            exact fun hback => hnot (isAncestorOf_of_startsWith hback hstarts)
        · intro p hp
          rw [mark] at hp
          split at hp
          · next hstarts => exact summary_of_startsWith hstarts hsummary
          · exact habove p hp
      · -- the parent stays inactive, and so must everything above it
        rw [if_neg (fun hactive => hsummary (hall.mp hactive))]
        apply flagged_congr
        intro p hp
        by_cases hancestor : p.isAncestorOf (under (some parent) i) = true
        · have hnot : ¬summary (rs.map (·.folder)) marks p = true := fun hp' =>
            hsummary (summary_of_startsWith (isAncestorOf_under_some.mp hancestor) hp')
          rw [Bool.eq_false_iff.mpr hnot, Bool.eq_false_iff]
          exact fun hflag => hnot (habove p hflag)
        · exact haside p hp hancestor

/-- A switch shows the marks that are set or removed at and below its target. -/
theorem activated_shown (h : Contiguous (rs.map (·.folder))) (ht : t ∈ rs.map (·.folder))
    (active : Bool) :
    activated t active (shown marks rs) = shown (mark t active marks) rs := by
  rw [activated, shown, switchSubtree_flagged]
  cases active with
  | true =>
      rw [if_pos rfl]
      apply promote_flagged h t ht
      · intro p hp hnot
        rw [mark]
        split
        · next hstarts => exact (summary_mark_true hstarts).symm
        · next hstarts =>
          have habove : ¬t.startsWith p = true := fun hback =>
            hnot (isAncestorOf_of_startsWith hback hstarts)
          exact (summary_mark_of_not true hstarts habove).symm
      · intro p hp
        rw [mark] at hp
        split at hp
        · next hstarts => exact summary_mark_true hstarts
        · refine summary_mono ?_ hp
          intro l _ hl
          rw [mark, hl, ite_self]
  | false =>
      rw [if_neg Bool.false_ne_true, demote_flagged]
      apply flagged_congr
      intro p hp
      by_cases hbelow : p.startsWith t = true
      · rw [summary_mark_false hp ht (.inl hbelow), mark, if_pos hbelow, ite_self]
      · by_cases habove : t.startsWith p = true
        · have hancestor := isAncestorOf_of_startsWith habove hbelow
          rw [summary_mark_false hp ht (.inr habove), if_pos hancestor]
        · have hancestor : ¬p.isAncestorOf t = true := fun hancestor =>
            habove (isAncestorOf_iff_startsWith.mp hancestor).2
          rw [if_neg hancestor, mark, if_neg hbelow, summary_mark_of_not false hbelow habove]

/-! ### Consistent contexts -/

/-- Every resource that has children is active if and only if all of its children are. -/
def Consistent (c : Context) : Prop :=
  ∀ r ∈ c.features, c.children r ≠ [] →
    (r.isActive = true ↔ ∀ s ∈ c.children r, s.isActive = true)

theorem mem_children_iff {r s : Resource} :
    s ∈ c.children r ↔ s ∈ c.features ∧ ∃ i, s.folder = under (some r.folder) i := by
  rw [children, List.mem_filter, ← isChild_iff, Bool.and_comm]
  rfl

theorem isLeaf_iff {r : Resource} (hr : r ∈ c.features) :
    c.isLeaf r = true ↔ r.folder ∈ leaves (c.features.map (·.folder)) := by
  rw [mem_leaves_iff, and_iff_right (List.mem_map_of_mem hr), isLeaf, Bool.not_eq_true',
    List.any_eq_false, List.forall_mem_map]
  rfl

/-- A resource has children exactly if something is below it. -/
theorem children_ne_nil_iff (h : Contiguous (c.features.map (·.folder))) {r : Resource}
    (hr : r ∈ c.features) : c.children r ≠ [] ↔ r.folder ∉ leaves (c.features.map (·.folder)) := by
  rw [mem_leaves_iff, and_iff_right (List.mem_map_of_mem hr)]
  push Not
  constructor
  · intro hne
    obtain ⟨s, hs⟩ := List.exists_mem_of_ne_nil _ hne
    obtain ⟨hs, i, hfolder⟩ := mem_children_iff.mp hs
    refine ⟨s.folder, List.mem_map_of_mem hs, ?_⟩
    rw [hfolder]
    exact isAncestorOf_under r.folder i
  · rintro ⟨q, hq, hbelow⟩
    obtain ⟨i, hi, -⟩ := h.exists_child hq hbelow
    obtain ⟨s, hs, hfolder⟩ := List.mem_map.mp hi
    exact List.ne_nil_of_mem (mem_children_iff.mpr ⟨hs, i, hfolder⟩)

/-- The switches by the folders of the resources. -/
def switches (rs : List Resource) (p : FolderPath) : Bool :=
  rs.any fun r => r.folder == p && r.isActive

theorem switches_eq (h : Contiguous (rs.map (·.folder))) {r : Resource} (hr : r ∈ rs) :
    switches rs r.folder = r.isActive := by
  rw [Bool.eq_iff_iff, switches, List.any_eq_true]
  constructor
  · rintro ⟨s, hs, hmatch⟩
    rw [Bool.and_eq_true, beq_iff_eq] at hmatch
    rw [← List.inj_on_of_nodup_map h.nodup hs hr hmatch.1]
    exact hmatch.2
  · intro hactive
    exact ⟨r, hr, by rw [hactive, beq_self_eq_true]; rfl⟩

/-- In a consistent context all switches follow from those of the leaves. -/
theorem Consistent.isActive_eq (hc : c.Consistent) (h : Contiguous (c.features.map (·.folder)))
    {r : Resource} (hr : r ∈ c.features) :
    r.isActive = summary (c.features.map (·.folder)) (switches c.features) r.folder := by
  have hall : ∀ p ∈ c.features.map (·.folder), ∀ r ∈ c.features, r.folder = p →
      r.isActive = summary (c.features.map (·.folder)) (switches c.features) p := by
    apply induction_below
    rintro p hp ih r hr rfl
    by_cases hleaf : r.folder ∈ leaves (c.features.map (·.folder))
    · rw [summary_leaf hleaf, switches_eq h hr]
    · rw [Bool.eq_iff_iff, hc r hr ((children_ne_nil_iff h hr).mpr hleaf),
        h.summary_iff_children hleaf]
      constructor
      · intro hactive i hi
        obtain ⟨s, hs, hfolder⟩ := List.mem_map.mp hi
        rw [← ih _ hi (isAncestorOf_under r.folder i) s hs hfolder]
        exact hactive s (mem_children_iff.mpr ⟨hs, i, hfolder⟩)
      · intro hsummary s hs
        obtain ⟨hs, i, hfolder⟩ := mem_children_iff.mp hs
        have hi : under (some r.folder) i ∈ c.features.map (·.folder) :=
          hfolder ▸ List.mem_map_of_mem hs
        rw [ih _ hi (isAncestorOf_under r.folder i) s hs hfolder]
        exact hsummary i hi
  exact hall r.folder (List.mem_map_of_mem hr) r hr rfl

theorem flagged_eq_self (h : ∀ r ∈ rs, r.isActive = flags r.folder) : flagged flags rs = rs := by
  rw [flagged]
  refine (List.map_congr_left fun r hr => ?_).trans (List.map_id rs)
  rw [← h r hr]
  rfl

theorem isActive_of_mem_flagged {r : Resource} (hr : r ∈ flagged flags rs) :
    r.isActive = flags r.folder := by
  obtain ⟨r, -, rfl⟩ := List.mem_map.mp hr
  rfl

/-- Switches that follow from marks on the leaves are consistent. -/
theorem consistent_of_shown (h : Contiguous (rs.map (·.folder)))
    (hc : c.features = shown marks rs) : c.Consistent := by
  have hfolders : c.features.map (·.folder) = rs.map (·.folder) := by
    rw [hc, shown, map_folder_flagged]
  have hactive : ∀ r ∈ c.features, r.isActive = summary (rs.map (·.folder)) marks r.folder :=
    fun r hr => isActive_of_mem_flagged (hc ▸ hr)
  rw [← hfolders] at h hactive
  intro r hr hchildren
  rw [hactive r hr, h.summary_iff_children ((children_ne_nil_iff h hr).mp hchildren)]
  constructor
  · intro hsummary s hs
    obtain ⟨hs, i, hfolder⟩ := mem_children_iff.mp hs
    rw [hactive s hs, hfolder]
    exact hsummary i (hfolder ▸ List.mem_map_of_mem hs)
  · intro hall i hi
    obtain ⟨s, hs, hfolder⟩ := List.mem_map.mp hi
    rw [← hfolder, ← hactive s hs]
    exact hall s (mem_children_iff.mpr ⟨hs, i, hfolder⟩)

end MapContext.Context
