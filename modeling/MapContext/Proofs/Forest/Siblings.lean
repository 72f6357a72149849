import MapContext.Proofs.Forest.Order

/-!
# Shifting siblings

A shift changes the folders below one parent, from one child on, and no others. On the listing of
a numbered forest it is the same as numbering the trees from another index on.
-/

namespace MapContext

namespace Context

open FolderPath

variable {shift : Shift} {slot : Option FolderPath} {k : Nat} {r : Resource} {rs ss : List Resource}

@[simp] theorem shiftSiblings_nil : shiftSiblings shift slot k [] = [] := rfl

@[simp] theorem shiftSiblings_append :
    shiftSiblings shift slot k (rs ++ ss) =
      shiftSiblings shift slot k rs ++ shiftSiblings shift slot k ss :=
  List.map_append

theorem shiftSiblings_cons :
    shiftSiblings shift slot k (r :: rs) =
      shiftSiblings shift slot k [r] ++ shiftSiblings shift slot k rs := by
  rw [← List.singleton_append, shiftSiblings_append]

theorem shiftSiblings_of_not_within (h : ∀ r ∈ rs, ¬Within slot k r.folder) :
    shiftSiblings shift slot k rs = rs := by
  calc
    shiftSiblings shift slot k rs = rs.map fun r => r := by
      apply List.map_congr_left
      intro r hr
      have hw : ¬isAtOrAfter slot k r.folder = true := fun hw => h r hr (isAtOrAfter_iff.mp hw)
      exact if_neg hw
    _ = rs := List.map_id' rs

/-- A shift below a child changes neither that child nor the later ones. -/
theorem shiftSiblings_in_below {parent : Option FolderPath} {i : Nat}
    (hslot : Within (some (under parent i)) 0 (under slot k))
    (hss : ∀ s ∈ ss, Within parent (i + 1) s.folder) :
    shiftSiblings shift slot k (r.atFolder (under parent i) :: (rs ++ ss)) =
      r.atFolder (under parent i) :: (shiftSiblings shift slot k rs ++ ss) := by
  have hr : shiftSiblings shift slot k [r.atFolder (under parent i)] =
      [r.atFolder (under parent i)] := by
    apply shiftSiblings_of_not_within
    simpa using not_within_of_child_self hslot
  have hss : shiftSiblings shift slot k ss = ss :=
    shiftSiblings_of_not_within fun s hs => not_within_of_child_later hslot (hss s hs)
  rw [shiftSiblings_cons, shiftSiblings_append, hr, hss]
  rfl

/-- A shift among or below the later children changes neither a child nor what is below it. -/
theorem shiftSiblings_in_rest {parent : Option FolderPath} {i : Nat}
    (hslot : Within parent (i + 1) (under slot k))
    (hrs : ∀ a ∈ rs, Within (some (under parent i)) 0 a.folder) :
    shiftSiblings shift slot k (r.atFolder (under parent i) :: (rs ++ ss)) =
      r.atFolder (under parent i) :: (rs ++ shiftSiblings shift slot k ss) := by
  have hr : shiftSiblings shift slot k [r.atFolder (under parent i)] =
      [r.atFolder (under parent i)] := by
    apply shiftSiblings_of_not_within
    simpa using not_within_of_later hslot List.prefix_rfl
  have hrs : shiftSiblings shift slot k rs = rs :=
    shiftSiblings_of_not_within fun a ha => not_within_of_later hslot (hrs a ha).prefix_child
  rw [shiftSiblings_cons, shiftSiblings_append, hr, hrs]
  rfl

/-- A resource below the parent gets another index at the depth of the siblings. -/
theorem shiftSiblings_singleton {j : Nat} {rest : List Nat} {p q : FolderPath}
    (hp : p.segments = segmentsOf slot ++ j :: rest) (hk : k ≤ j)
    (hq : q.segments = segmentsOf slot ++ shift.apply j :: rest) :
    shiftSiblings shift slot k [r.atFolder p] = [r.atFolder q] := by
  have hw : isAtOrAfter slot k p = true := isAtOrAfter_iff.mpr ⟨j, rest, hk, hp⟩
  have hpath : p.withSegment (segmentsOf slot).length
      (shift.apply ((p.segment? (segmentsOf slot).length).getD 0)) = q := by
    apply eq_of_segments
    simp [withSegment, segment?, hp, hq]
  simp only [shiftSiblings, List.map_cons, List.map_nil, Resource.folder_atFolder, hw, if_true,
    hpath, Resource.atFolder_atFolder]

/-- Closing a place and opening it again changes nothing, if nothing has its index. -/
theorem shiftSiblings_up_down
    (h : ∀ r ∈ rs, ∀ j rest, r.folder.segments = segmentsOf slot ++ j :: rest →
      j ≠ k ∧ j ≤ maxIndex) :
    shiftSiblings .up slot k (shiftSiblings .down slot (k + 1) rs) = rs := by
  induction rs with
  | nil => rfl
  | cons r rs ih =>
      obtain ⟨hr, hrs⟩ := List.forall_mem_cons.mp h
      rw [shiftSiblings_cons, shiftSiblings_append, ih hrs]
      suffices shiftSiblings .up slot k (shiftSiblings .down slot (k + 1) [r]) = [r] by
        rw [this, List.singleton_append]
      by_cases hw : Within slot k r.folder
      · obtain ⟨j, rest, hkj, hj⟩ := hw
        obtain ⟨hne, hmax⟩ := hr j rest hj
        let p : FolderPath := ⟨segmentsOf slot ++ (j - 1) :: rest, by simp⟩
        have hdown : shiftSiblings .down slot (k + 1) [r.atFolder r.folder] = [r.atFolder p] :=
          shiftSiblings_singleton hj (by omega) rfl
        have hup : shiftSiblings .up slot k [r.atFolder p] = [r.atFolder r.folder] := by
          refine shiftSiblings_singleton (show p.segments = _ from rfl) (by omega) ?_
          rw [hj]
          congr 2
          simp only [Shift.apply]
          omega
        rw [Resource.atFolder_self] at hdown hup
        rw [hdown, hup]
      · have hw' : ¬Within slot (k + 1) r.folder := fun hw' => hw (hw'.mono (Nat.le_succ k))
        have hdown : shiftSiblings .down slot (k + 1) [r] = [r] :=
          shiftSiblings_of_not_within (by simpa using hw')
        rw [hdown, shiftSiblings_of_not_within (by simpa using hw)]

end Context

namespace Forest

open Context FolderPath

variable {shift : Shift} {slot : Option FolderPath} {k : Nat}

/-- A shift of a child moves everything below it along. -/
theorem shiftSiblings_below (f : Forest) {a i : Nat} {tail : List Nat} {p q : FolderPath}
    (hp : p.segments = segmentsOf slot ++ a :: tail) (hk : k ≤ a)
    (hq : q.segments = segmentsOf slot ++ shift.apply a :: tail) :
    shiftSiblings shift slot k (f.numbered (some p) i).flatten =
      (f.numbered (some q) i).flatten := by
  induction f generalizing i tail p q with
  | nil => rfl
  | tree r below rest ihb ihr =>
      have hp' : (under (some p) i).segments = segmentsOf slot ++ a :: (tail ++ [i]) := by simp [hp]
      have hq' : (under (some q) i).segments =
          segmentsOf slot ++ shift.apply a :: (tail ++ [i]) := by
        simp [hq]
      simp only [numbered_tree, flatten_tree]
      rw [shiftSiblings_cons, shiftSiblings_append, shiftSiblings_singleton hp' hk hq',
        ihb hp' hq', ihr hp hq]
      rfl

/-- A shift of all trees numbers them from another index on. -/
theorem shiftSiblings_numbered (f : Forest) {a b : Nat} (hk : k ≤ a)
    (hshift : ∀ j < f.width, shift.apply (a + j) = b + j) :
    shiftSiblings shift slot k (f.numbered slot a).flatten = (f.numbered slot b).flatten := by
  induction f generalizing a b with
  | nil => rfl
  | tree r below rest _ ih =>
      have hfirst : shift.apply a = b := hshift 0 (by simp)
      have hp : (under slot a).segments = segmentsOf slot ++ a :: [] := rfl
      have hq : (under slot b).segments = segmentsOf slot ++ shift.apply a :: [] := by
        rw [hfirst]
        rfl
      have hrest : ∀ j < rest.width, shift.apply (a + 1 + j) = b + 1 + j := by
        intro j hj
        have := hshift (j + 1) (by simpa using hj)
        rw [Nat.add_right_comm a, Nat.add_right_comm b]
        exact this
      simp only [numbered_tree, flatten_tree]
      rw [shiftSiblings_cons, shiftSiblings_append, shiftSiblings_singleton hp hk hq,
        shiftSiblings_below below hp hk hq, ih (Nat.le_succ_of_le hk) hrest]
      rfl

/-- Opening a place before the trees. -/
theorem shiftSiblings_up (f : Forest) {a : Nat} (hk : k ≤ a) (h : a + f.width ≤ maxIndex) :
    shiftSiblings .up slot k (f.numbered slot a).flatten = (f.numbered slot (a + 1)).flatten := by
  apply shiftSiblings_numbered f hk
  intro j hj
  simp only [Shift.apply]
  omega

/-- Closing a place before the trees. -/
theorem shiftSiblings_down (f : Forest) {a : Nat} (hk : k ≤ a + 1) :
    shiftSiblings .down slot k (f.numbered slot (a + 1)).flatten = (f.numbered slot a).flatten := by
  apply shiftSiblings_numbered f hk
  intro j _
  simp only [Shift.apply]
  omega

/-- A shift past the last tree changes nothing. -/
theorem shiftSiblings_past (shift : Shift) (slot : Option FolderPath) (f : Forest) (a : Nat) :
    shiftSiblings shift slot (a + f.width) (f.numbered slot a).flatten =
      (f.numbered slot a).flatten := by
  apply shiftSiblings_of_not_within
  rintro r hr ⟨j, rest, hj, hfolder⟩
  have := segment_lt_of_mem hr hfolder
  omega

end Forest

end MapContext
