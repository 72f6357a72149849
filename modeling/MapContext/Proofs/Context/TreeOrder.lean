import MapContext.Proofs.Context.Listed
import MapContext.Proofs.Forest.Leaves

/-!
# Sorted paths walk through the tree

Between a path and one below it stand only paths below it. So in a sorted list what lies below a
path is one block behind the path, and the blocks of siblings follow each other in the order of
their indices. Edits of the layer tree rest on this: the subtree of a resource is cut out of a
valid list as the run behind it.
-/

namespace MapContext

namespace FolderPath

variable {p q : FolderPath} {parent : Option FolderPath} {i j : Nat} {l : List FolderPath}

theorem le_of_startsWith (h : q.startsWith p = true) : p ≤ q := by
  rcases startsWith_iff.mp h with rfl | hw
  · exact List.le_refl q.segments
  · exact le_of_lt (lt_of_within hw)

/-- What is at or below a child stands before what is at or below a later one. -/
theorem lt_of_siblings (hij : i < j) (hp : p.startsWith (under parent i) = true)
    (hq : q.startsWith (under parent j) = true) : p < q := by
  obtain ⟨t, ht⟩ := startsWith_iff_segments.mp hq
  refine lt_of_within_later (startsWith_iff_segments.mp hp) ⟨j, t, hij, ?_⟩
  rw [← ht, segments_under, List.append_assoc, List.singleton_append]

/-- Indices count as numbers: `/0/2` and what lies below it stand before `/0/10`. -/
example (h : p.startsWith (under (some (root 0)) 2) = true) : p < under (some (root 0)) 10 :=
  lt_of_siblings (j := 10) (by decide) h (by decide)

/-- A list is cut where a property ends that never begins again. -/
theorem exists_cut {α : Type} {P : α → Prop} {as : List α}
    (h : as.Pairwise fun a b => P b → P a) :
    ∃ front back, as = front ++ back ∧ (∀ a ∈ front, P a) ∧ ∀ a ∈ back, ¬P a := by
  induction as with
  | nil => exact ⟨[], [], rfl, by simp, by simp⟩
  | cons a as ih =>
      rw [List.pairwise_cons] at h
      by_cases ha : P a
      · obtain ⟨front, back, rfl, hfront, hback⟩ := ih h.2
        exact ⟨a :: front, back, rfl, List.forall_mem_cons.mpr ⟨ha, hfront⟩, hback⟩
      · refine ⟨[], a :: as, rfl, by simp, List.forall_mem_cons.mpr ⟨ha, fun b hb hPb => ?_⟩⟩
        exact ha (h.1 b hb hPb)

theorem lt_of_ne_of_le (hne : p ≠ q) (hle : p ≤ q) : p < q :=
  Decidable.byContradiction fun hlt => hne (le_antisymm hle hlt)

/-- A sorted list has the smaller paths first, then the copies of a path, then what lies below it,
and the rest behind. -/
theorem exists_block (h : l.Pairwise (· ≤ ·)) (p : FolderPath) :
    ∃ before below after, l = before ++ List.replicate (l.count p) p ++ below ++ after ∧
      (∀ q ∈ before, q < p) ∧ (∀ q ∈ below, p.isAncestorOf q = true) ∧
      ∀ q ∈ after, p < q ∧ ¬p.isAncestorOf q = true := by
  obtain ⟨before, l₁, rfl, hbefore, hl₁⟩ :=
    exists_cut (P := (· < p)) (h.imp fun hab hb => List.lt_of_le_of_lt hab hb)
  have h₁ := (List.pairwise_append.mp h).2.1
  obtain ⟨copies, l₂, rfl, hcopies, hl₂⟩ := exists_cut (P := (· = p)) (h₁.imp_of_mem
    fun ha _ hab hb => le_antisymm (hb ▸ hab) (hl₁ _ ha))
  have h₂ := (List.pairwise_append.mp h₁).2.1
  have hlater : ∀ q ∈ l₂, p < q := fun q hq =>
    lt_of_ne_of_le (Ne.symm (hl₂ q hq)) (hl₁ q (List.mem_append_right _ hq))
  obtain ⟨below, after, rfl, hbelow, hafter⟩ :=
    exists_cut (P := (p.isAncestorOf · = true)) (h₂.imp_of_mem fun ha _ hab hb =>
      isAncestorOf_of_between hb (hlater _ ha) hab)
  have hcount : (before ++ (copies ++ (below ++ after))).count p = copies.length := by
    have hbefore' : p ∉ before := fun hp => lt_irrefl p (hbefore p hp)
    have hlater' : p ∉ below ++ after := fun hp => lt_irrefl p (hlater p hp)
    rw [List.count_append, List.count_append, List.count_eq_zero.mpr hbefore',
      List.count_eq_zero.mpr hlater', List.count_eq_length.mpr fun q hq => (hcopies q hq).symm]
    omega
  refine ⟨before, below, after, ?_, hbefore, hbelow, fun q hq =>
    ⟨hlater q (List.mem_append_right _ hq), hafter q hq⟩⟩
  rw [hcount, ← List.eq_replicate_iff.mpr ⟨rfl, hcopies⟩]
  simp

/-- A list of paths as a walk through the tree meets them. -/
structure TreeOrdered (l : List FolderPath) : Prop where
  /-- A path stands before what lies below it. -/
  topDown : l.Pairwise fun a b => ¬b.isAncestorOf a = true
  /-- What lies below a path is one block, directly behind the last copy of the path. -/
  block (p : FolderPath) : ∃ before below after,
    l = before ++ List.replicate (l.count p) p ++ below ++ after ∧
      (∀ q ∈ below, p.isAncestorOf q = true) ∧ ∀ q ∈ before ++ after, ¬q.startsWith p = true
  /-- A child and what lies below it stand before the children with greater indices and what lies
  below those. -/
  siblings (parent : Option FolderPath) (i j : Nat) : i < j → l.Pairwise fun a b =>
    ¬(a.startsWith (under parent j) = true ∧ b.startsWith (under parent i) = true)

theorem treeOrdered_of_sorted (h : l.Pairwise (· ≤ ·)) : TreeOrdered l where
  topDown := by
    refine h.imp fun {a b} hab habove => ?_
    exact hab (lt_of_isAncestorOf habove)
  block p := by
    obtain ⟨before, below, after, hsplit, hbefore, hbelow, hafter⟩ := exists_block h p
    refine ⟨before, below, after, hsplit, hbelow, fun q hq hstarts => ?_⟩
    rcases List.mem_append.mp hq with hq | hq
    · exact le_of_startsWith hstarts (hbefore q hq)
    · obtain ⟨hlt, hnot⟩ := hafter q hq
      refine hnot (isAncestorOf_iff_startsWith.mpr ⟨?_, hstarts⟩)
      rintro rfl
      exact lt_irrefl q hlt
  siblings parent i j hij := h.imp fun hab ⟨ha, hb⟩ => hab (lt_of_siblings hij hb ha)

end FolderPath

namespace Context

open FolderPath

variable {rs before after : List Resource} {r : Resource}

/-- In a list in ascending order of folders, the run behind a resource is everything below it. -/
theorem cutSubtree_of_ascending
    (h : (before ++ r :: after).Pairwise fun a b => a.folder < b.folder) :
    cutSubtree (before ++ r :: after) before.length =
      (before, r :: after.filter r.isAncestorOf,
        after.drop (after.filter r.isAncestorOf).length) := by
  have hr := (List.pairwise_append.mp h).2.1
  rw [List.pairwise_cons] at hr
  obtain ⟨hlater, hafter⟩ := hr
  obtain ⟨below, rest, rfl, hbelow, hrest⟩ :=
    exists_cut (P := (r.isAncestorOf · = true)) (hafter.imp_of_mem fun ha _ hab hb =>
      isAncestorOf_of_between hb (hlater _ ha) (le_of_lt hab))
  have hfilter : (below ++ rest).filter r.isAncestorOf = below := by
    rw [List.filter_append, List.filter_eq_self.mpr hbelow, List.filter_eq_nil_iff.mpr hrest,
      List.append_nil]
  rw [hfilter, List.drop_left]
  exact cutSubtree_split (fun s hs => isAncestorOf_iff.mp (hbelow s hs))
    fun s hs hw => hrest s hs (isAncestorOf_iff.mpr hw)

/-- Nothing lies below a resource that stands before it. -/
theorem filter_isAncestorOf_of_ascending
    (h : (before ++ r :: after).Pairwise fun a b => a.folder < b.folder) :
    (before ++ r :: after).filter r.isAncestorOf = after.filter r.isAncestorOf := by
  have hbefore : ∀ s ∈ before, ¬r.isAncestorOf s = true := by
    intro s hs habove
    refine lt_irrefl s.folder (List.lt_trans ?_ (lt_of_isAncestorOf habove))
    exact (List.pairwise_append.mp h).2.2 s hs r List.mem_cons_self
  have hself : ¬r.isAncestorOf r = true := fun habove =>
    lt_irrefl r.folder (lt_of_isAncestorOf habove)
  rw [List.filter_append, List.filter_eq_nil_iff.mpr hbefore, List.nil_append,
    List.filter_cons_of_neg hself]

/-- In a valid list the subtree at a place is the resource there with everything below it. -/
theorem cutSubtree_of_validate (hvalid : validate rs = .ok ()) {place : Nat}
    (hr : rs[place]? = some r) :
    cutSubtree rs place = (rs.take place, r :: rs.filter r.isAncestorOf,
      rs.drop (place + 1 + (rs.filter r.isAncestorOf).length)) := by
  have hascending : rs.Pairwise fun a b => a.folder < b.folder :=
    List.pairwise_map.mp (Forest.contiguous_of_validate hvalid).ascending
  obtain ⟨hplace, rfl⟩ := List.getElem?_eq_some_iff.mp hr
  have hsplit : rs = rs.take place ++ rs[place] :: rs.drop (place + 1) := by
    rw [List.getElem_cons_drop, List.take_append_drop]
  have hlength : (rs.take place).length = place := List.length_take_of_le hplace.le
  rw [hsplit] at hascending
  have hcut := cutSubtree_of_ascending hascending
  rwa [← filter_isAncestorOf_of_ascending hascending, List.drop_drop, ← hsplit, hlength] at hcut

/-- Sorted paths are a walk through the tree, top down and from the first sibling to the last:
between a path and one at or below it stand only paths at or below it. So in a valid list the
subtree of a resource is cut out with everything below the resource, and with nothing else. -/
theorem sort_treeOrdered (paths : List FolderPath) :
    (sort paths).Perm paths ∧ (sort paths).Pairwise (· ≤ ·) ∧ TreeOrdered (sort paths) ∧
    (∀ a b c : FolderPath, a ≤ b → b ≤ c → c.startsWith a = true → b.startsWith a = true) ∧
    ∀ rs, validate rs = .ok () → ∀ place r, rs[place]? = some r →
      cutSubtree rs place = (rs.take place, r :: rs.filter r.isAncestorOf,
        rs.drop (place + 1 + (rs.filter r.isAncestorOf).length)) := by
  have hsorted : (sort paths).Pairwise (· ≤ ·) := pairwise_mergeSort (fun p => p) paths
  exact ⟨List.mergeSort_perm _ _, hsorted, treeOrdered_of_sorted hsorted,
    fun a b c hab hbc hstarts => startsWith_of_between hstarts hab hbc,
    fun rs hvalid place r => cutSubtree_of_validate hvalid⟩

end Context

end MapContext
