import MapContext.Context.Edit
import Mathlib.Data.List.Basic

/-!
# Places in the layer tree

A path determines its parent and its sibling index, and both determine the path. What lies below
a parent, from a child index on, is one predicate on paths; it says which paths a shift of
siblings changes.
-/

namespace MapContext.FolderPath

theorem eq_of_segments {p q : FolderPath} (h : p.segments = q.segments) : p = q := by
  cases p
  cases q
  simpa using h

@[simp] theorem segmentsOf_some (p : FolderPath) : segmentsOf (some p) = p.segments := rfl

@[simp] theorem segmentsOf_none : segmentsOf none = [] := rfl

@[simp] theorem segments_under (parent : Option FolderPath) (i : Nat) :
    (under parent i).segments = segmentsOf parent ++ [i] := rfl

theorem ofSegments?_segmentsOf (parent : Option FolderPath) :
    ofSegments? (segmentsOf parent) = parent := by
  cases parent with
  | none => rfl
  | some p => simp [ofSegments?, p.nonempty]

theorem segmentsOf_injective {a b : Option FolderPath} (h : segmentsOf a = segmentsOf b) :
    a = b := by
  rw [← ofSegments?_segmentsOf a, h, ofSegments?_segmentsOf b]

theorem segmentsOf_parent? (p : FolderPath) : segmentsOf p.parent? = p.segments.dropLast := by
  unfold parent? ofSegments?
  split
  · next h => simp [h]
  · rfl

@[simp] theorem parent?_under (parent : Option FolderPath) (i : Nat) :
    (under parent i).parent? = parent := by
  apply segmentsOf_injective
  simp [segmentsOf_parent?]

@[simp] theorem index_under (parent : Option FolderPath) (i : Nat) :
    (under parent i).index = i := by
  simp [index, under]

/-- A path is the child of its parent with its own index. -/
theorem under_parent?_index (p : FolderPath) : under p.parent? p.index = p := by
  apply eq_of_segments
  simp only [segments_under, segmentsOf_parent?]
  exact List.dropLast_concat_getLast p.nonempty

theorem exists_under (p : FolderPath) : ∃ parent i, p = under parent i :=
  ⟨p.parent?, p.index, (under_parent?_index p).symm⟩

theorem depth_add_one (p : FolderPath) : p.depth + 1 = p.segments.length := by
  have hlength := List.length_pos_iff.mpr p.nonempty
  rw [depth]
  omega

@[simp] theorem depth_under (parent : Option FolderPath) (i : Nat) :
    (under parent i).depth = (segmentsOf parent).length := by
  simp [depth]

/-- The path lies below a parent, or anywhere if there is none, at a child index of at least `i`. -/
def Within (parent : Option FolderPath) (i : Nat) (q : FolderPath) : Prop :=
  ∃ j rest, i ≤ j ∧ q.segments = segmentsOf parent ++ j :: rest

theorem within_under (parent : Option FolderPath) {i j : Nat} (h : i ≤ j) :
    Within parent i (under parent j) :=
  ⟨j, [], h, rfl⟩

/-- Every path lies below the top. -/
theorem within_none (q : FolderPath) : Within none 0 q := by
  obtain ⟨j, rest, h⟩ := List.exists_cons_of_ne_nil q.nonempty
  exact ⟨j, rest, Nat.zero_le j, by simpa using h⟩

theorem Within.mono {parent : Option FolderPath} {i j : Nat} {q : FolderPath}
    (h : Within parent j q) (hij : i ≤ j) : Within parent i q := by
  obtain ⟨k, rest, hk, hq⟩ := h
  exact ⟨k, rest, Nat.le_trans hij hk, hq⟩

/-- What is below a child is below its parent. -/
theorem Within.of_child {parent : Option FolderPath} {i k : Nat} {q : FolderPath}
    (h : Within (some (under parent i)) k q) : Within parent i q := by
  obtain ⟨j, rest, _, hq⟩ := h
  exact ⟨i, j :: rest, Nat.le_refl i, by simpa using hq⟩

/-- A child lies where its parent lies. -/
theorem Within.child {parent : Option FolderPath} {i k : Nat} {p : FolderPath}
    (h : Within parent i p) : Within parent i (under (some p) k) := by
  obtain ⟨j, rest, hj, hp⟩ := h
  exact ⟨j, rest ++ [k], hj, by simp [hp]⟩

/-- The next sibling lies where a path lies. -/
theorem Within.sibling {parent slot : Option FolderPath} {i k : Nat}
    (h : Within parent i (under slot k)) : Within parent i (under slot (k + 1)) := by
  obtain ⟨j, rest, hj, hp⟩ := h
  have hp : segmentsOf slot ++ [k] = segmentsOf parent ++ j :: rest := hp
  rcases List.eq_nil_or_concat rest with rfl | ⟨init, last, rfl⟩
  · obtain ⟨hslot, hk⟩ := List.append_inj' hp rfl
    refine ⟨k + 1, [], ?_, by simp [hslot]⟩
    rw [(List.cons.inj hk).1]
    exact Nat.le_succ_of_le hj
  · have hslot : segmentsOf slot = segmentsOf parent ++ j :: init := by
      have := congrArg List.dropLast hp
      simpa [List.dropLast_append_of_ne_nil, List.dropLast_cons_of_ne_nil] using this
    exact ⟨j, init ++ [k + 1], hj, by simp [hslot]⟩

theorem isAncestorOf_iff {p q : FolderPath} :
    p.isAncestorOf q = true ↔ Within (some p) 0 q := by
  simp only [isAncestorOf, Bool.and_eq_true, decide_eq_true_eq, List.isPrefixOf_iff_prefix, Within,
    segmentsOf_some, Nat.zero_le, true_and]
  constructor
  · rintro ⟨hlt, t, ht⟩
    cases t with
    | nil => simp [← ht] at hlt
    | cons j rest => exact ⟨j, rest, ht.symm⟩
  · rintro ⟨j, rest, h⟩
    exact ⟨by simp [h], j :: rest, h.symm⟩

theorem startsWith_iff {p q : FolderPath} :
    p.startsWith q = true ↔ p = q ∨ Within (some q) 0 p := by
  simp only [startsWith, List.isPrefixOf_iff_prefix, Within, segmentsOf_some, Nat.zero_le, true_and]
  constructor
  · rintro ⟨t, ht⟩
    cases t with
    | nil => exact .inl (eq_of_segments (by simpa using ht.symm))
    | cons j rest => exact .inr ⟨j, rest, ht.symm⟩
  · rintro (rfl | ⟨j, rest, h⟩)
    · exact List.prefix_rfl
    · exact ⟨j :: rest, h.symm⟩

theorem isAtOrAfter_iff {parent : Option FolderPath} {i : Nat} {q : FolderPath} :
    Context.isAtOrAfter parent i q = true ↔ Within parent i q := by
  have hsplit : Context.isAtOrAfter parent i q = true ↔
      Within parent 0 q ∧ (q.segment? (segmentsOf parent).length).any (i ≤ ·) = true := by
    refine (Bool.and_eq_true _ _).to_iff.trans (and_congr ?_ Iff.rfl)
    cases parent with
    | some p => exact isAncestorOf_iff
    | none => exact iff_of_true rfl (within_none q)
  rw [hsplit]
  constructor
  · rintro ⟨⟨j, rest, -, hq⟩, hi⟩
    refine ⟨j, rest, ?_, hq⟩
    simpa [segment?, hq] using hi
  · rintro ⟨j, rest, hij, hq⟩
    exact ⟨⟨j, rest, Nat.zero_le _, hq⟩, by simpa [segment?, hq] using hij⟩

/-! ### Separate places -/

variable {parent slot : Option FolderPath} {i k : Nat} {q : FolderPath}

/-- A place below a child has that child above or as its own parent. -/
theorem prefix_of_within_child (h : Within (some (under parent i)) 0 (under slot k)) :
    segmentsOf parent ++ [i] <+: segmentsOf slot := by
  obtain ⟨j, rest, _, h⟩ := h
  have hq : segmentsOf slot ++ [k] = (segmentsOf parent ++ [i]) ++ j :: rest := h
  have hle : (segmentsOf parent ++ [i]).length ≤ (segmentsOf slot).length := by
    have := congrArg List.length hq
    simp at this ⊢
    omega
  exact List.prefix_of_prefix_length_le ⟨j :: rest, hq.symm⟩ (List.prefix_append _ _) hle

/-- A shift below a child leaves the child itself where it is. -/
theorem not_within_of_child_self (h : Within (some (under parent i)) 0 (under slot k)) :
    ¬Within slot k (under parent i) := by
  rintro ⟨j, rest, _, hq⟩
  have hle := (prefix_of_within_child h).length_le
  have := congrArg List.length hq
  simp at this hle
  omega

/-- A shift below a child leaves the later children where they are. -/
theorem not_within_of_child_later (h : Within (some (under parent i)) 0 (under slot k))
    (hq : Within parent (i + 1) q) : ¬Within slot k q := by
  rintro ⟨j, rest, _, hj⟩
  obtain ⟨j', rest', hle, hq⟩ := hq
  obtain ⟨t, ht⟩ := prefix_of_within_child h
  rw [← ht, hq, List.append_assoc, List.append_assoc, List.append_cancel_left_eq] at hj
  simp at hj
  omega

/-- A shift among later children leaves a child, and all below it, where it is. -/
theorem not_within_of_later (h : Within parent (i + 1) (under slot k))
    (hq : segmentsOf parent ++ [i] <+: q.segments) : ¬Within slot k q := by
  rintro ⟨j, rest, hkj, hj⟩
  obtain ⟨j', rest', hle, hs⟩ := h
  obtain ⟨t, ht⟩ := hq
  have hs : segmentsOf slot ++ [k] = segmentsOf parent ++ j' :: rest' := hs
  rcases List.eq_nil_or_concat rest' with rfl | ⟨init, last, rfl⟩
  · obtain ⟨hslot, hk⟩ := List.append_inj' hs rfl
    rw [← ht, hslot, List.append_assoc, List.append_cancel_left_eq] at hj
    simp at hj hk
    omega
  · have hslot : segmentsOf slot = segmentsOf parent ++ j' :: init := by
      have := congrArg List.dropLast hs
      simpa [List.dropLast_append_of_ne_nil, List.dropLast_cons_of_ne_nil] using this
    rw [← ht, hslot, List.append_assoc, List.append_assoc, List.append_cancel_left_eq] at hj
    simp at hj
    omega

end MapContext.FolderPath
