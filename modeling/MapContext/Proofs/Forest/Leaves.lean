import Mathlib.Data.Finset.Dedup
import Mathlib.Data.Finset.Order
import MapContext.Proofs.Forest.Contiguity

/-!
# Leaves of a layer tree

A leaf is a folder with nothing below it. Marks on the leaves are summed up for every folder: the
folder is marked if all leaves at or below it are. Summing up can be done step by step, since the
leaves below a folder are those at or below its children.
-/

namespace MapContext.FolderPath

variable {p q r t : FolderPath}

/-! ### At or below -/

theorem startsWith_iff_segments : p.startsWith q = true ↔ q.segments <+: p.segments :=
  List.isPrefixOf_iff_prefix

@[simp] theorem startsWith_self (p : FolderPath) : p.startsWith p = true :=
  startsWith_iff_segments.mpr List.prefix_rfl

theorem startsWith_trans (hp : p.startsWith q = true) (hq : q.startsWith r = true) :
    p.startsWith r = true :=
  startsWith_iff_segments.mpr
    ((startsWith_iff_segments.mp hq).trans (startsWith_iff_segments.mp hp))

/-- Of two folders above a third one, one is at or below the other. -/
theorem startsWith_or_startsWith (hq : p.startsWith q = true) (hr : p.startsWith r = true) :
    q.startsWith r = true ∨ r.startsWith q = true := by
  rw [startsWith_iff_segments] at hq hr ⊢
  rw [startsWith_iff_segments]
  exact (List.prefix_or_prefix_of_prefix hq hr).symm

theorem isAncestorOf_iff_startsWith :
    p.isAncestorOf q = true ↔ q ≠ p ∧ q.startsWith p = true := by
  rw [isAncestorOf_iff, startsWith_iff]
  constructor
  · intro h
    refine ⟨?_, .inr h⟩
    rintro rfl
    exact lt_irrefl q (lt_of_within h)
  · rintro ⟨hne, heq | h⟩
    · exact absurd heq hne
    · exact h

/-- What stands between a folder and one at or below it is at or below it too. -/
theorem startsWith_of_between (hr : r.startsWith p = true) (hp : p ≤ q) (hq : q ≤ r) :
    q.startsWith p = true := by
  by_cases hlt : q < r
  · rw [startsWith_iff_segments] at hr ⊢
    obtain ⟨t, ht⟩ := hr
    have hp : ¬q.segments < p.segments ++ [] := by
      rw [List.append_nil]
      exact hp
    obtain ⟨u, hu, -, -⟩ := exists_append_of_between hp (ht ▸ hlt : q.segments < p.segments ++ t)
    exact ⟨u, hu.symm⟩
  · rw [le_antisymm hq hlt]
    exact hr

/-- What stands behind a folder, up to one below it, is below it too. -/
theorem isAncestorOf_of_between (hr : p.isAncestorOf r = true) (hp : p < q) (hq : q ≤ r) :
    p.isAncestorOf q = true := by
  have hstarts := (isAncestorOf_iff_startsWith.mp hr).2
  refine isAncestorOf_iff_startsWith.mpr ⟨?_, startsWith_of_between hstarts (le_of_lt hp) hq⟩
  rintro rfl
  exact lt_irrefl q hp

theorem lt_of_isAncestorOf (h : p.isAncestorOf q = true) : p < q :=
  lt_of_within (isAncestorOf_iff.mp h)

/-- A proper ancestor is not below. -/
theorem not_startsWith_of_isAncestorOf (h : p.isAncestorOf q = true) : ¬p.startsWith q = true := by
  obtain ⟨hne, hstarts⟩ := isAncestorOf_iff_startsWith.mp h
  rw [startsWith_iff_segments] at hstarts ⊢
  intro hback
  exact hne (eq_of_segments (hback.eq_of_length_le hstarts.length_le))

theorem isAncestorOf_of_startsWith (h : q.startsWith p = true) (hne : ¬p.startsWith q = true) :
    p.isAncestorOf q = true := by
  refine isAncestorOf_iff_startsWith.mpr ⟨?_, h⟩
  rintro rfl
  exact hne (startsWith_self _)

/-- What is above a folder is above everything below it. -/
theorem isAncestorOf_of_isAncestorOf (h : p.isAncestorOf q = true)
    (hr : r.startsWith q = true) : p.isAncestorOf r = true := by
  apply isAncestorOf_of_startsWith
  · exact startsWith_trans hr (isAncestorOf_iff_startsWith.mp h).2
  · intro hback
    exact not_startsWith_of_isAncestorOf h (startsWith_trans hback hr)

theorem isAncestorOf_under (p : FolderPath) (i : Nat) : p.isAncestorOf (under (some p) i) = true :=
  isAncestorOf_iff.mpr (within_under _ (Nat.zero_le i))

/-- Nothing is above a root. -/
theorem not_isAncestorOf_root (p : FolderPath) (i : Nat) :
    ¬p.isAncestorOf (under none i) = true := by
  rw [isAncestorOf, Bool.and_eq_true, decide_eq_true_eq]
  rintro ⟨hlt, -⟩
  have := List.length_pos_iff.mpr p.nonempty
  simp only [segments_under, segmentsOf_none, List.nil_append, List.length_singleton] at hlt
  omega

/-- Whether a folder is directly below another one, as it is tested. -/
theorem isChild_iff : (q.depth == p.depth + 1 && p.isAncestorOf q) = true ↔
    ∃ i, q = under (some p) i := by
  rw [Bool.and_eq_true, beq_iff_eq, isAncestorOf_iff]
  have hlength := List.length_pos_iff.mpr p.nonempty
  constructor
  · rintro ⟨hdepth, i, rest, -, hq⟩
    simp only [depth, hq, segmentsOf_some, List.length_append, List.length_cons] at hdepth
    obtain rfl : rest = [] := List.length_eq_zero_iff.mp (by omega)
    exact ⟨i, eq_of_segments hq⟩
  · rintro ⟨i, rfl⟩
    refine ⟨?_, within_under _ (Nat.zero_le i)⟩
    rw [depth_under, segmentsOf_some, depth]
    omega

/-- A path is a root or a child. -/
theorem induction_under {motive : FolderPath → Prop} (root : ∀ i, motive (under none i))
    (child : ∀ p i, motive p → motive (under (some p) i)) (p : FolderPath) : motive p := by
  induction hn : p.segments.length using Nat.strongRecOn generalizing p with
  | ind n ih =>
      obtain ⟨parent, i, rfl⟩ := exists_under p
      cases parent with
      | none => exact root i
      | some q => exact child q i (ih _ (by simp [← hn]) q rfl)

@[simp] theorem segments_upTo (p : FolderPath) (k : Nat) :
    (p.upTo k).segments = p.segments.take (k + 1) := rfl

theorem ancestors_under_none (i : Nat) : (under none i).ancestors = [] := rfl

theorem ancestors_under_some (p : FolderPath) (i : Nat) :
    (under (some p) i).ancestors = p :: p.ancestors := by
  have hdepth := depth_add_one p
  have hself : (under (some p) i).upTo p.depth = p := by
    apply eq_of_segments
    rw [segments_upTo, hdepth, segments_under, segmentsOf_some, List.take_left]
  have habove : (List.range p.depth).map (under (some p) i).upTo =
      (List.range p.depth).map p.upTo := by
    apply List.map_congr_left
    intro k hk
    apply eq_of_segments
    have hk' : k + 1 ≤ p.segments.length := by
      have := List.mem_range.mp hk
      omega
    rw [segments_upTo, segments_upTo, segments_under, segmentsOf_some,
      List.take_append_of_le_length hk']
  rw [ancestors, depth_under, segmentsOf_some, ← hdepth, List.range_succ, List.map_append,
    List.reverse_append, habove, ancestors]
  simp [hself]

/-- The folders above a child are its parent and those above the parent. -/
theorem isAncestorOf_under_some {i : Nat} :
    q.isAncestorOf (under (some p) i) = true ↔ p.startsWith q = true := by
  rw [isAncestorOf_iff_startsWith, startsWith_iff_segments, startsWith_iff_segments, segments_under,
    segmentsOf_some, List.prefix_concat_iff]
  constructor
  · rintro ⟨hne, heq | h⟩
    · exact absurd (eq_of_segments heq.symm) hne
    · exact h
  · intro h
    refine ⟨?_, .inr h⟩
    rintro rfl
    exact absurd h.length_le (by simp)

/-! ### Leaves -/

/-- The folders with nothing below them. -/
def leaves (folders : List FolderPath) : List FolderPath :=
  folders.filter fun p => !folders.any p.isAncestorOf

/-- Whether all leaves at or below a folder are marked. -/
def summary (folders : List FolderPath) (marks : FolderPath → Bool) (p : FolderPath) : Bool :=
  ((leaves folders).filter (·.startsWith p)).all marks

/-- Marks or unmarks everything at or below a folder. -/
def mark (t : FolderPath) (value : Bool) (marks : FolderPath → Bool) (p : FolderPath) : Bool :=
  if p.startsWith t then value else marks p

variable {folders : List FolderPath} {marks : FolderPath → Bool}

theorem mem_leaves_iff :
    p ∈ leaves folders ↔ p ∈ folders ∧ ∀ q ∈ folders, ¬p.isAncestorOf q = true := by
  simp [leaves]

theorem summary_eq_true_iff :
    summary folders marks p = true ↔
      ∀ l ∈ leaves folders, l.startsWith p = true → marks l = true := by
  simp only [summary, List.all_eq_true, List.mem_filter, and_imp]

/-- What holds of a folder whenever it holds of everything below it holds of all folders. -/
theorem induction_below {motive : FolderPath → Prop}
    (step : ∀ p ∈ folders, (∀ q ∈ folders, p.isAncestorOf q = true → motive q) → motive p) :
    ∀ p ∈ folders, motive p := by
  obtain ⟨bound, hbound⟩ := (folders.map (·.segments.length)).toFinset.exists_le
  replace hbound : ∀ q ∈ folders, q.segments.length ≤ bound := fun q hq =>
    hbound _ (List.mem_toFinset.mpr (List.mem_map_of_mem hq))
  intro p hp
  induction hn : bound - p.segments.length using Nat.strongRecOn generalizing p with
  | ind n ih =>
      apply step p hp
      intro q hq hpq
      obtain ⟨j, rest, -, hsegments⟩ := isAncestorOf_iff.mp hpq
      have hlonger : p.segments.length < q.segments.length := by simp [hsegments]
      have := hbound q hq
      exact ih _ (by omega) q hq rfl

/-- Every folder has a leaf at or below it. -/
theorem exists_leaf (hp : p ∈ folders) : ∃ l ∈ leaves folders, l.startsWith p = true := by
  revert p
  apply induction_below
  intro p hp ih
  by_cases hleaf : ∀ q ∈ folders, ¬p.isAncestorOf q = true
  · exact ⟨p, mem_leaves_iff.mpr ⟨hp, hleaf⟩, startsWith_self p⟩
  · push Not at hleaf
    obtain ⟨q, hq, hpq⟩ := hleaf
    obtain ⟨l, hl, hlq⟩ := ih q hq hpq
    exact ⟨l, hl, startsWith_trans hlq (isAncestorOf_iff_startsWith.mp hpq).2⟩

/-! ### Summing up -/

/-- Only the leaf itself is at or below a leaf. -/
theorem summary_leaf (hp : p ∈ leaves folders) : summary folders marks p = marks p := by
  rw [Bool.eq_iff_iff, summary_eq_true_iff]
  constructor
  · intro h
    exact h p hp (startsWith_self p)
  · intro hmark l hl hlp
    have heq : l = p := by
      by_contra hne
      exact (mem_leaves_iff.mp hp).2 l (mem_leaves_iff.mp hl).1
        (isAncestorOf_iff_startsWith.mpr ⟨hne, hlp⟩)
    rw [heq]
    exact hmark

/-- Below a folder all of whose leaves are marked the same holds. -/
theorem summary_of_startsWith (hqp : q.startsWith p = true)
    (h : summary folders marks p = true) : summary folders marks q = true := by
  rw [summary_eq_true_iff] at h ⊢
  intro l hl hlq
  exact h l hl (startsWith_trans hlq hqp)

theorem summary_mono {marks' : FolderPath → Bool}
    (hle : ∀ l ∈ leaves folders, marks l = true → marks' l = true)
    (h : summary folders marks p = true) : summary folders marks' p = true := by
  rw [summary_eq_true_iff] at h ⊢
  intro l hl hlp
  exact hle l hl (h l hl hlp)

/-- A folder that is no leaf has a child. -/
theorem Contiguous.exists_child (h : Contiguous folders) (hq : q ∈ folders)
    (hpq : p.isAncestorOf q = true) :
    ∃ i, under (some p) i ∈ folders ∧ q.startsWith (under (some p) i) = true := by
  obtain ⟨i, rest, -, hq'⟩ := isAncestorOf_iff.mp hpq
  have hstarts : q.startsWith (under (some p) i) = true := by
    rw [startsWith_iff_segments, hq', segments_under]
    exact ⟨rest, by simp⟩
  refine ⟨i, ?_, hstarts⟩
  rcases startsWith_iff.mp hstarts with heq | hwithin
  · rw [← heq]
    exact hq
  · exact h.mem_of_within hq hwithin

/-- The leaves below a folder are those at or below its children. -/
theorem Contiguous.summary_iff_children (h : Contiguous folders) (hp : p ∉ leaves folders) :
    summary folders marks p = true ↔
      ∀ i, under (some p) i ∈ folders → summary folders marks (under (some p) i) = true := by
  constructor
  · intro hall i _
    refine summary_of_startsWith ?_ hall
    exact startsWith_iff.mpr (.inr (within_under _ (Nat.zero_le i)))
  · intro hchildren
    rw [summary_eq_true_iff]
    intro l hl hlp
    have hne : l ≠ p := by
      rintro rfl
      exact hp hl
    obtain ⟨i, hi, hli⟩ := h.exists_child (mem_leaves_iff.mp hl).1
      (isAncestorOf_iff_startsWith.mpr ⟨hne, hlp⟩)
    exact summary_eq_true_iff.mp (hchildren i hi) l hl hli

/-! ### Marking -/

/-- Marking changes nothing at folders that are neither above nor below. -/
theorem summary_mark_of_not (value : Bool) (hpt : ¬p.startsWith t = true)
    (htp : ¬t.startsWith p = true) :
    summary folders (mark t value marks) p = summary folders marks p := by
  rw [Bool.eq_iff_iff, summary_eq_true_iff, summary_eq_true_iff]
  apply forall₃_congr
  intro l hl hlp
  have hlt : ¬l.startsWith t = true := by
    intro hlt
    rcases startsWith_or_startsWith hlp hlt with hpt' | htp'
    · exact hpt hpt'
    · exact htp htp'
  rw [mark, if_neg hlt]

/-- What is at or below a marked folder is marked. -/
theorem summary_mark_true (hpt : p.startsWith t = true) :
    summary folders (mark t true marks) p = true := by
  rw [summary_eq_true_iff]
  intro l _ hlp
  exact if_pos (startsWith_trans hlp hpt)

/-- A folder that has an unmarked one at, above or below it is not marked. -/
theorem summary_mark_false (hp : p ∈ folders) (ht : t ∈ folders)
    (h : p.startsWith t = true ∨ t.startsWith p = true) :
    summary folders (mark t false marks) p = false := by
  obtain ⟨l, hl, hlp, hlt⟩ : ∃ l ∈ leaves folders, l.startsWith p = true ∧
      l.startsWith t = true := by
    rcases h with hpt | htp
    · obtain ⟨l, hl, hlp⟩ := exists_leaf hp
      exact ⟨l, hl, hlp, startsWith_trans hlp hpt⟩
    · obtain ⟨l, hl, hlt⟩ := exists_leaf ht
      exact ⟨l, hl, startsWith_trans hlt htp, hlt⟩
  rw [Bool.eq_false_iff]
  intro hall
  have hmarked := summary_eq_true_iff.mp hall l hl hlp
  rw [mark, if_pos hlt] at hmarked
  exact Bool.false_ne_true hmarked

end MapContext.FolderPath
