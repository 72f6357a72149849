import MapContext.Proofs.Forest.Basic
import Mathlib.Data.List.Nodup

/-!
# The document order of a numbered forest

A numbered forest lists its resources in strictly ascending order of their folders. Sorting a
list that holds the same resources in any order gives back that listing, so an edit may put
resources into a list wherever it likes.
-/

namespace MapContext

namespace FolderPath

variable {p q : FolderPath} {parent : Option FolderPath} {i : Nat}

theorem lt_iff_segments : p < q ↔ p.segments < q.segments := Iff.rfl

theorem lt_irrefl (p : FolderPath) : ¬p < p := List.lt_irrefl p.segments

theorem le_of_lt (h : p < q) : p ≤ q := List.le_of_lt h

theorem le_trans {r : FolderPath} (h₁ : p ≤ q) (h₂ : q ≤ r) : p ≤ r :=
  List.le_trans h₁ h₂

theorem le_total (p q : FolderPath) : p ≤ q ∨ q ≤ p := List.le_total p.segments q.segments

theorem le_antisymm (h₁ : p ≤ q) (h₂ : q ≤ p) : p = q :=
  eq_of_segments (List.le_antisymm h₁ h₂)

/-- A path stands before everything below it. -/
theorem lt_of_within (h : Within (some p) 0 q) : p < q := by
  obtain ⟨j, rest, _, hq⟩ := h
  have hlt : p.segments ++ [] < p.segments ++ j :: rest :=
    List.append_left_lt (List.nil_lt_cons j rest)
  rw [lt_iff_segments, hq]
  simpa using hlt

/-- A child, and all below it, stand before the later children. -/
theorem lt_of_within_later (hp : segmentsOf parent ++ [i] <+: p.segments)
    (hq : Within parent (i + 1) q) : p < q := by
  obtain ⟨t, ht⟩ := hp
  obtain ⟨j, rest, hj, hq⟩ := hq
  rw [lt_iff_segments, hq, ← ht, List.append_assoc]
  exact List.append_left_lt (List.cons_lt_cons_iff.mpr (.inl hj))

/-- What lies below a child has the child's path as a beginning. -/
theorem Within.prefix_child (h : Within (some (under parent i)) 0 q) :
    segmentsOf parent ++ [i] <+: q.segments := by
  obtain ⟨j, rest, _, hq⟩ := h
  exact ⟨j :: rest, hq.symm⟩

/-- What is sorted by paths stands in ascending order. -/
theorem pairwise_mergeSort {α : Type} (path : α → FolderPath) (as : List α) :
    (as.mergeSort fun a b => decide (path a ≤ path b)).Pairwise (fun a b => path a ≤ path b) := by
  have hsorted : (as.mergeSort fun a b => decide (path a ≤ path b)).Pairwise
      (fun a b => decide (path a ≤ path b) = true) := by
    apply List.pairwise_mergeSort
    · intro a b c hab hbc
      exact decide_eq_true (le_trans (of_decide_eq_true hab) (of_decide_eq_true hbc))
    · intro a b
      simpa using le_total (path a) (path b)
  exact hsorted.imp of_decide_eq_true

end FolderPath

namespace Forest

theorem pairwise_folder_lt (f : Forest) (parent : Option FolderPath) (i : Nat) :
    (f.numbered parent i).flatten.Pairwise (fun a b => a.folder < b.folder) := by
  induction f generalizing parent i with
  | nil => exact List.Pairwise.nil
  | tree r below rest ihb ihr =>
      simp only [numbered_tree, flatten_tree, List.pairwise_cons, List.pairwise_append,
        List.mem_append]
      refine ⟨?_, ihb _ _, ihr _ _, ?_⟩
      · rintro b (hb | hb)
        · exact FolderPath.lt_of_within (within_of_mem hb)
        · exact FolderPath.lt_of_within_later List.prefix_rfl (within_of_mem hb)
      · intro a ha b hb
        exact FolderPath.lt_of_within_later (within_of_mem ha).prefix_child (within_of_mem hb)

theorem nodup_folders (f : Forest) (parent : Option FolderPath) (i : Nat) :
    ((f.numbered parent i).flatten.map (·.folder)).Nodup := by
  rw [List.Nodup, List.pairwise_map]
  refine (pairwise_folder_lt f parent i).imp ?_
  intro a b h heq
  exact FolderPath.lt_irrefl _ (heq ▸ h)

/-- In a numbered forest a folder names one resource. -/
theorem eq_of_folder_eq {f : Forest} {parent : Option FolderPath} {i : Nat} {a b : Resource}
    (ha : a ∈ (f.numbered parent i).flatten) (hb : b ∈ (f.numbered parent i).flatten)
    (h : a.folder = b.folder) : a = b :=
  List.inj_on_of_nodup_map (nodup_folders f parent i) ha hb h

/-- Sorting by folders restores the listing of a numbered forest. -/
theorem mergeSort_of_perm {f : Forest} {parent : Option FolderPath} {i : Nat}
    {staged : List Resource} (h : staged.Perm (f.numbered parent i).flatten) :
    (staged.mergeSort fun a b => decide (a.folder ≤ b.folder)) =
      (f.numbered parent i).flatten := by
  have hperm := (List.mergeSort_perm staged fun a b => decide (a.folder ≤ b.folder)).trans h
  have hlisting : (f.numbered parent i).flatten.Pairwise (fun a b => a.folder ≤ b.folder) :=
    (pairwise_folder_lt f parent i).imp FolderPath.le_of_lt
  refine hperm.eq_of_pairwise ?_ (FolderPath.pairwise_mergeSort (·.folder) staged) hlisting
  intro a b ha hb hab hba
  exact eq_of_folder_eq (hperm.subset ha) hb (FolderPath.le_antisymm hab hba)

end Forest

end MapContext
