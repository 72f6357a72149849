import MapContext.Proofs.Forest.Listing
import MapContext.Proofs.Forest.Transplant

/-!
# Renumbering a listing

Renumbering looks only at the depths of the resources. Where they are the depths of a forest it
succeeds, and its result is the listing of that forest numbered at the new place.
-/

namespace MapContext

namespace FolderPath

/-- Where a child may follow a path, it is the successor of the path at the child's depth. -/
theorem successorAt_of_precedes {p : FolderPath} {parent : Option FolderPath} {i : Nat}
    (h : Precedes (some p) parent i) :
    (segmentsOf parent).length ≤ p.depth + 1 ∧
      p.successorAt (segmentsOf parent).length = under parent i := by
  have hlen := List.length_pos_iff.mpr p.nonempty
  rcases (precedes_some_iff p parent i).mp h with ⟨hp, rfl⟩ | ⟨htake, j, hget, rfl⟩
  · constructor
    · simp only [depth, ← hp]
      omega
    · apply eq_of_segments
      simp [successorAt, ← hp, child]
  · constructor
    · have hlt := (List.getElem?_eq_some_iff.mp hget).1
      simp only [depth]
      omega
    · apply eq_of_segments
      simp [successorAt, hget, htake]

end FolderPath

namespace Forest

open Context FolderPath

/-- Every resource is as deep as its place asks for, where the roots have depth `d`. -/
def Leveled : Nat → Forest → Prop
  | _, nil => True
  | d, tree r below rest => r.depth = d ∧ below.Leveled (d + 1) ∧ rest.Leveled d

theorem leveled_numbered (f : Forest) (parent : Option FolderPath) (i : Nat) :
    (f.numbered parent i).Leveled (segmentsOf parent).length := by
  induction f generalizing parent i with
  | nil => trivial
  | tree r below rest ihb ihr =>
      refine ⟨?_, ?_, ihr parent (i + 1)⟩
      · simp [Resource.depth]
      · simpa using ihb (some (under parent i)) 0

theorem Leveled.append {f g : Forest} {d : Nat} (hf : f.Leveled d) (hg : g.Leveled d) :
    (f ++ g).Leveled d := by
  induction f with
  | nil => exact hg
  | tree r below rest _ ih =>
      obtain ⟨hr, hbelow, hrest⟩ := hf
      exact ⟨hr, hbelow, ih hrest⟩

/-- Cutting off a branch leaves the depths of the others as they were. -/
theorem Leveled.detach {f : Forest} {d : Nat} (h : f.Leveled d) (id : Resource.Id) :
    (f.detach id).Leveled d := by
  induction f generalizing d with
  | nil => trivial
  | tree r below rest ihb ihr =>
      obtain ⟨hr, hbelow, hrest⟩ := h
      by_cases hid : r.id = id
      · simpa [Forest.detach, hid] using hrest
      · rw [Forest.detach, if_neg hid]
        exact ⟨hr, ihb hbelow, ihr hrest⟩

/-- The resources of a branch are as deep as the places below its root ask for. -/
theorem Leveled.exists_branch {f : Forest} {d : Nat} {id : Resource.Id} (h : f.Leveled d)
    (hmem : id ∈ f.ids) (hids : f.ids.Nodup) : ∃ e, (f.branch id).Leveled e := by
  induction f generalizing d with
  | nil => simp at hmem
  | tree r below rest ihb ihr =>
      obtain ⟨hr, hbelow, hrest⟩ := h
      rcases mem_ids_cases hids hmem with rfl | ⟨hne, hb, hn⟩ | ⟨hne, hb, hn⟩
      · refine ⟨d, ?_⟩
        rw [branch, if_pos rfl]
        exact ⟨hr, hbelow, trivial⟩
      · obtain ⟨e, he⟩ := ihb hbelow hb (nodup_ids_below hids)
        exact ⟨e, by simpa [branch, hne, branch_of_not_mem hn] using he⟩
      · obtain ⟨e, he⟩ := ihr hrest hn (nodup_ids_rest hids)
        exact ⟨e, by simpa [branch, hne, branch_of_not_mem hb] using he⟩

/-- The trees of a forest are numbered one after another, and renumbering goes on behind them. -/
theorem renumberFrom_flatten (h : Forest) {base d : Nat} {top previous : FolderPath}
    {parent : Option FolderPath} {i offset : Nat} {others others' : List Resource}
    {e : Option Context.Error} (hd : h.Leveled d) (hbase : base ≤ d)
    (hlen : (segmentsOf parent).length = top.depth + (d - base))
    (hprevious : Precedes (some previous) parent i)
    (hothers : ∀ p', lastFolder (some previous) (h.numbered parent i).flatten = some p' →
      renumberFrom base top p' (offset + h.size) others = (others', e)) :
    renumberFrom base top previous offset (h.flatten ++ others) =
      ((h.numbered parent i).flatten ++ others', e) := by
  induction h generalizing d previous parent i offset others others' with
  | nil => simpa using hothers previous rfl
  | tree r below rest ihb ihr =>
      obtain ⟨hr, hbelow, hrest⟩ := hd
      obtain ⟨hle, hnext⟩ := successorAt_of_precedes hprevious
      have hfirst : ¬r.depth < base := by omega
      have hdepth : top.depth + (r.depth - base) = (segmentsOf parent).length := by
        rw [hr, hlen]
      have hlevel : ¬previous.depth + 1 < (segmentsOf parent).length := by omega
      have hin : (segmentsOf (some (under parent i))).length = top.depth + (d + 1 - base) := by
        simp only [segmentsOf_some, segments_under, List.length_append, List.length_singleton]
        omega
      have htail : renumberFrom base top (under parent i) (offset + 1)
          (below.flatten ++ (rest.flatten ++ others)) =
            ((below.numbered (some (under parent i)) 0).flatten ++
              ((rest.numbered parent (i + 1)).flatten ++ others'), e) := by
        refine ihb hbelow (by omega) hin (precedes_first _) ?_
        intro p hp
        have hp' := precedes_lastFolder below (precedes_first (some (under parent i)))
        rw [hp] at hp'
        refine ihr hrest hbase hlen hp'.next ?_
        intro p' hp'
        have hend := hothers p' (by simpa [hp] using hp')
        rw [← hend]
        congr 1
        simp only [size_tree]
        omega
      simp only [flatten_tree, List.cons_append, List.append_assoc, renumberFrom, if_neg hfirst,
        hdepth, if_neg hlevel, hnext, htail, numbered_tree]

/-- Renumbering a listing of the right depths numbers its forest at the new place. -/
theorem renumbered_flatten {h : Forest} {d : Nat} (hd : h.Leveled d)
    (parent : Option FolderPath) (start : Nat) :
    renumbered parent start h.flatten = .ok (h.numbered parent start).flatten := by
  cases h with
  | nil => rfl
  | tree r below rest =>
      obtain ⟨hr, hbelow, hrest⟩ := hd
      let top := under parent start
      have hin : (segmentsOf (some top)).length = top.depth + (d + 1 - d) := by
        simp [top]
      have hbeside : (segmentsOf parent).length = top.depth + (d - d) := by
        simp [top]
      have htail : renumberFrom d top top 1 (below.flatten ++ (rest.flatten ++ [])) =
          ((below.numbered (some top) 0).flatten ++
            ((rest.numbered parent (start + 1)).flatten ++ []), none) := by
        refine renumberFrom_flatten below hbelow (Nat.le_succ d) hin (precedes_first _) ?_
        intro p hp
        have hp' := precedes_lastFolder below (precedes_first (some top))
        rw [hp] at hp'
        exact renumberFrom_flatten rest hrest (Nat.le_refl d) hbeside hp'.next fun _ _ => rfl
      simp only [List.append_nil] at htail
      simp only [renumbered, renumber, flatten_tree, hr]
      rw [show under parent start = top from rfl, htail]
      rfl

end Forest

end MapContext
