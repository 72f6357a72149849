import MapContext.Proofs.Forest.Surgery

/-!
# Destinations and grafting

The destination relative to a resource is a parent and a child index. Opening a place there and
putting a tree into it gives the listing of the forest with that tree grafted on.
-/

namespace MapContext

namespace Context

open FolderPath

variable {rs ss : List Resource} {p : FolderPath} {position : Position}

theorem childCount_append : childCount (rs ++ ss) p = childCount rs p + childCount ss p :=
  List.countP_append

theorem childCount_cons (r : Resource) :
    childCount (r :: rs) p = childCount [r] p + childCount rs p := by
  rw [← List.singleton_append, childCount_append]

theorem childCount_eq_zero (h : ∀ r ∈ rs, ¬Within (some p) 0 r.folder) : childCount rs p = 0 := by
  apply List.countP_eq_zero.mpr
  intro r hr hchild
  rw [Bool.and_eq_true, isAncestorOf_iff] at hchild
  exact h r hr hchild.2

/-- Below a child only what is below it counts. -/
theorem childCount_in_below {parent : Option FolderPath} {i : Nat} {r : Resource}
    (hp : Within (some (under parent i)) 0 (under (some p) 0))
    (hss : ∀ s ∈ ss, Within parent (i + 1) s.folder) :
    childCount (r.atFolder (under parent i) :: (rs ++ ss)) p = childCount rs p := by
  have hr : childCount [r.atFolder (under parent i)] p = 0 := by
    apply childCount_eq_zero
    simpa using not_within_of_child_self hp
  have hss : childCount ss p = 0 :=
    childCount_eq_zero fun s hs => not_within_of_child_later hp (hss s hs)
  rw [childCount_cons, childCount_append, hr, hss, Nat.zero_add, Nat.add_zero]

/-- Below the later children only they and what is below them count. -/
theorem childCount_in_rest {parent : Option FolderPath} {i : Nat} {r : Resource}
    (hp : Within parent (i + 1) (under (some p) 0))
    (hrs : ∀ a ∈ rs, Within (some (under parent i)) 0 a.folder) :
    childCount (r.atFolder (under parent i) :: (rs ++ ss)) p = childCount ss p := by
  have hr : childCount [r.atFolder (under parent i)] p = 0 := by
    apply childCount_eq_zero
    simpa using not_within_of_later hp List.prefix_rfl
  have hrs : childCount rs p = 0 :=
    childCount_eq_zero fun a ha => not_within_of_later hp (hrs a ha).prefix_child
  rw [childCount_cons, childCount_append, hr, hrs, Nat.zero_add, Nat.zero_add]

/-- Only the children of the target count. -/
theorem destination_congr (h : childCount rs p = childCount ss p) :
    destination rs p position = destination ss p position := by
  cases position <;> simp [destination, h]

/-- A destination lies where its target lies. -/
theorem within_destination {parent : Option FolderPath} {i : Nat} (h : Within parent i p)
    (rs : List Resource) (position : Position) :
    Within parent i (under (destination rs p position).1 (destination rs p position).2) := by
  have hself : under p.parent? p.index = p := under_parent?_index p
  cases position with
  | left => exact hself.symm ▸ h
  | right => exact Within.sibling (hself.symm ▸ h)
  | firstChild => exact h.child
  | lastChild => exact h.child

end Context

namespace Forest

open Context FolderPath

/-- The children of a parent are the roots of the forest below it. -/
theorem childCount_numbered (f : Forest) (p : FolderPath) (i : Nat) :
    childCount (f.numbered (some p) i).flatten p = f.width := by
  induction f generalizing i with
  | nil => rfl
  | tree r below rest _ ih =>
      have hlen := List.length_pos_iff.mpr p.nonempty
      have hroot : childCount [r.atFolder (under (some p) i)] p = 1 := by
        have hw : p.isAncestorOf (under (some p) i) = true :=
          isAncestorOf_iff.mpr (within_under _ (Nat.zero_le i))
        have hdepth : (under (some p) i).depth = p.depth + 1 := by
          simp [depth]
          omega
        simp [childCount, Resource.depth, hw, hdepth]
      have hbelow : childCount (below.numbered (some (under (some p) i)) 0).flatten p = 0 := by
        apply List.countP_eq_zero.mpr
        intro a ha hchild
        obtain ⟨j, tail, _, hj⟩ := within_of_mem ha
        have := congrArg List.length hj
        simp [Resource.depth, depth] at hchild this
        omega
      simp only [numbered_tree, flatten_tree, width_tree]
      rw [childCount_cons, childCount_append, hroot, hbelow, ih]
      omega

theorem append_swap {α : Type} (rs ss ts : List α) : (rs ++ ss ++ ts).Perm (rs ++ ts ++ ss) := by
  rw [List.append_assoc, List.append_assoc]
  exact List.perm_append_comm.append_left rs

/-- Opening the destination next to or directly below the first root. -/
theorem shiftSiblings_up_graft_root {g : Forest} {parent : Option FolderPath} {i : Nat}
    {a : Resource} {below rest : Forest} (hg : g.width = 1)
    (hsize : i + (tree a below rest).size ≤ maxIndex) {position : Position}
    {slot : Option FolderPath} {k : Nat}
    (hslot : destination ((tree a below rest).numbered parent i).flatten (under parent i) position =
      (slot, k)) :
    (shiftSiblings .up slot k ((tree a below rest).numbered parent i).flatten ++
        (g.numbered slot k).flatten).Perm
      (((tree a below rest).graft a.id position g).numbered parent i).flatten := by
  have hwidth := (tree a below rest).width_le_size
  have hwidth' := below.width_le_size
  simp only [size_tree, width_tree] at hsize hwidth
  have hself : Within (some (under parent i)) 0 (under (some (under parent i)) 0) :=
    within_under _ (Nat.le_refl 0)
  have hlater : ∀ s ∈ (rest.numbered parent (i + 1)).flatten, Within parent (i + 1) s.folder :=
    fun s hs => within_of_mem hs
  have hbelow : ∀ s ∈ (below.numbered (some (under parent i)) 0).flatten,
      Within (some (under parent i)) 0 s.folder := fun s hs => within_of_mem hs
  cases position with
  | left =>
      obtain ⟨rfl, rfl⟩ : parent = slot ∧ i = k := by simpa [destination] using hslot
      rw [shiftSiblings_up _ (Nat.le_refl i) (by simp only [width_tree]; omega)]
      simp only [graft, if_true, numbered_append, hg, flatten_append]
      exact List.perm_append_comm
  | right =>
      obtain ⟨rfl, rfl⟩ : parent = slot ∧ i + 1 = k := by simpa [destination] using hslot
      simp only [graft, if_true, numbered_tree, numbered_append, hg, flatten_tree, flatten_append]
      rw [shiftSiblings_in_rest (within_under _ (Nat.le_refl _)) hbelow,
        shiftSiblings_up rest (Nat.le_refl _) (by omega)]
      simp only [List.cons_append, List.append_assoc]
      exact ((List.perm_append_comm).append_left _).cons _
  | firstChild =>
      obtain ⟨rfl, rfl⟩ : some (under parent i) = slot ∧ 0 = k := by
        simpa [destination] using hslot
      simp only [graft, if_true, numbered_tree, numbered_append, hg, flatten_tree, flatten_append]
      rw [shiftSiblings_in_below hself hlater, shiftSiblings_up below (Nat.le_refl 0) (by omega),
        List.cons_append, List.append_assoc (g.numbered _ 0).flatten]
      exact List.perm_append_comm.cons _
  | lastChild =>
      have hcount : childCount ((tree a below rest).numbered parent i).flatten (under parent i) =
          below.width := by
        rw [numbered_tree, flatten_tree, childCount_in_below hself hlater, childCount_numbered]
      have hslot : (some (under parent i), _) = (slot, k) := hslot
      rw [hcount, Prod.mk.injEq] at hslot
      obtain ⟨rfl, rfl⟩ := hslot
      have hpast := shiftSiblings_past .up (some (under parent i)) below 0
      rw [Nat.zero_add] at hpast
      simp only [graft, if_true, numbered_tree, numbered_append, flatten_tree, flatten_append]
      rw [shiftSiblings_in_below (within_under _ (Nat.zero_le _)) hlater, hpast, Nat.zero_add,
        List.cons_append]
      exact (append_swap _ _ _).cons _

/-- Opening the destination for a tree and putting it there grafts it on. -/
theorem shiftSiblings_up_graft {f g : Forest} {parent : Option FolderPath} {i : Nat}
    {t : Resource} (ht : t ∈ (f.numbered parent i).flatten) (hids : f.ids.Nodup)
    (hg : g.width = 1) (hsize : i + f.size ≤ maxIndex) {position : Position}
    {slot : Option FolderPath} {k : Nat}
    (hslot : destination (f.numbered parent i).flatten t.folder position = (slot, k)) :
    (shiftSiblings .up slot k (f.numbered parent i).flatten ++ (g.numbered slot k).flatten).Perm
      ((f.graft t.id position g).numbered parent i).flatten := by
  induction f generalizing parent i with
  | nil => simp at ht
  | tree a below rest ihb ihr =>
      rcases mem_flatten_cases ht hids with rfl | ⟨ht, hne, hnot⟩ | ⟨ht, hne, hnot⟩
      · exact shiftSiblings_up_graft_root hg hsize hslot
      · simp only [size_tree] at hsize
        have hw := within_of_mem ht
        rw [numbered_tree, flatten_tree,
          destination_congr (childCount_in_below hw.child fun s hs => within_of_mem hs)] at hslot
        have hplace := within_destination hw (below.numbered (some (under parent i)) 0).flatten
          position
        rw [hslot] at hplace
        have hperm := ihb ht (nodup_ids_below hids) (by omega) hslot
        simp only [numbered_tree, graft, hne, if_false, flatten_tree, graft_of_not_mem hnot]
        rw [shiftSiblings_in_below hplace fun r hr => within_of_mem hr, List.cons_append]
        exact ((append_swap _ _ _).trans (hperm.append_right _)).cons _
      · simp only [size_tree] at hsize
        have hw := within_of_mem ht
        rw [numbered_tree, flatten_tree,
          destination_congr (childCount_in_rest hw.child fun s hs => within_of_mem hs)] at hslot
        have hplace := within_destination hw (rest.numbered parent (i + 1)).flatten position
        rw [hslot] at hplace
        have hperm := ihr ht (nodup_ids_rest hids) (by omega) hslot
        simp only [numbered_tree, graft, hne, if_false, flatten_tree, graft_of_not_mem hnot]
        rw [shiftSiblings_in_rest hplace fun r hr => within_of_mem hr]
        simp only [List.cons_append, List.append_assoc]
        exact (hperm.append_left _).cons _

end Forest

end MapContext
