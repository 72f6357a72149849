import Mathlib.Data.List.Chain
import Mathlib.Order.Bounds.Basic
import MapContext.Proofs.Context.SharedCrs
import MapContext.Proofs.Context.Validity

/-!
# Renumbering follows the depths

Of the old folders renumbering uses the depths alone. A pass over the resources goes on as long as
none is above the first one and none skips a level, and it puts each resource behind the one before:
as its first child, or as the next sibling of it or of one of its ancestors. These are the folders
that two stacks of counters give, one of the next free indices and one of the indices in use.
-/

namespace MapContext

namespace FolderPath

variable {p : FolderPath} {k i : Nat}

theorem segments_successorAt_of_some (h : p.segments[k]? = some i) :
    (p.successorAt k).segments = p.segments.take k ++ [i + 1] := by
  rw [successorAt, h]

theorem segments_successorAt_of_none (h : p.segments[k]? = none) :
    (p.successorAt k).segments = p.segments ++ [0] := by
  rw [successorAt, h, child]

/-- The successor at a depth has that depth, unless levels are missing in between. -/
theorem depth_successorAt (h : k ≤ p.depth + 1) : (p.successorAt k).depth = k := by
  rw [depth_add_one] at h
  cases hget : p.segments[k]? with
  | some i =>
      rw [depth, segments_successorAt_of_some hget, List.length_append, List.length_take_of_le h,
        List.length_singleton, Nat.add_sub_cancel]
  | none =>
      have hk := List.getElem?_eq_none_iff.mp hget
      rw [depth, segments_successorAt_of_none hget, List.length_append, List.length_singleton,
        Nat.add_sub_cancel]
      omega

/-- The second folder is the first child of the first one, or the next sibling of it or of one of
its ancestors, as the depths tell. -/
def Follows (p q : FolderPath) : Prop :=
  (q.depth = p.depth + 1 ∧ q = p.child 0) ∨
    ∃ a, p.startsWith a = true ∧ a.depth = q.depth ∧ q = under a.parent? (a.index + 1)

theorem follows_successorAt (h : k ≤ p.depth + 1) : p.Follows (p.successorAt k) := by
  have hdepth := depth_successorAt h
  rw [depth_add_one] at h
  cases hget : p.segments[k]? with
  | none =>
      have hk := List.getElem?_eq_none_iff.mp hget
      refine .inl ⟨?_, eq_of_segments (segments_successorAt_of_none hget)⟩
      rw [hdepth, depth_add_one]
      omega
  | some i =>
      have hupTo : (p.upTo k).segments = p.segments.take k ++ [i] := by
        rw [segments_upTo, List.take_add_one, hget, Option.toList_some]
      refine .inr ⟨p.upTo k, startsWith_iff_segments.mpr (List.take_prefix _ _), ?_, ?_⟩
      · rw [hdepth, depth, hupTo, List.length_append, List.length_take_of_le h,
          List.length_singleton, Nat.add_sub_cancel]
      · apply eq_of_segments
        have hindex : (p.upTo k).index = i := by
          simp only [index, hupTo, List.getLast_append_singleton]
        rw [segments_under, segmentsOf_parent?, hupTo, hindex, List.dropLast_concat,
          segments_successorAt_of_some hget]

end FolderPath

namespace Context

open FolderPath

/-! ### Depths in the order of a tree -/

/-- No depth is smaller than the first, and none is greater by more than one than the one before. -/
def Climbs (depths : List Nat) : Prop :=
  (∀ first ∈ depths.head?, ∀ d ∈ depths, first ≤ d) ∧ depths.IsChain fun d e => e ≤ d + 1

/-- The same of the depths behind a depth `d`, where the first one was `base`. -/
def ClimbsFrom (base d : Nat) (depths : List Nat) : Prop :=
  (∀ e ∈ depths, base ≤ e) ∧ (d :: depths).IsChain fun d e => e ≤ d + 1

variable {base d e : Nat} {ds es : List Nat}

theorem climbsFrom_nil (base d : Nat) : ClimbsFrom base d [] := by
  simp [ClimbsFrom]

theorem climbsFrom_cons :
    ClimbsFrom base d (e :: ds) ↔ base ≤ e ∧ e ≤ d + 1 ∧ ClimbsFrom base e ds := by
  simp only [ClimbsFrom, List.forall_mem_cons, List.isChain_cons_cons]
  tauto

theorem climbsFrom_singleton : ClimbsFrom base d [e] ↔ base ≤ e ∧ e ≤ d + 1 := by
  rw [climbsFrom_cons, and_iff_left (climbsFrom_nil base e)]

theorem climbs_cons : Climbs (d :: ds) ↔ ClimbsFrom d d ds := by
  simp [Climbs, ClimbsFrom]

/-- The beginning of depths in order is in order. -/
theorem Climbs.of_prefix (h : ds <+: es) (hes : Climbs es) : Climbs ds := by
  cases ds with
  | nil => simp [Climbs]
  | cons d ds =>
      obtain ⟨others, rfl⟩ := h
      refine ⟨?_, List.IsChain.left_of_append hes.2⟩
      intro first hfirst x hx
      exact hes.1 first hfirst x (List.mem_append_left _ hx)

/-! ### Where a pass stops -/

variable {top previous p : FolderPath} {parent : Option FolderPath} {start : Nat}
  {rs rs' ss : List Resource}

/-- Why a resource cannot follow those before it; the first one had the given depth. -/
def subtreeFault (base : Nat) (r : Resource) : SubtreeFault :=
  if r.depth < base then .aboveFirst r.folder else .skipsLevel r.folder

/-- A resource that is not above the first one and skips no level is put behind the one before. -/
theorem renumberFrom_cons_of_le {r : Resource} (habove : base ≤ r.depth)
    (hskips : top.depth + (r.depth - base) ≤ previous.depth + 1) (offset : Nat)
    (rs : List Resource) :
    renumberFrom base top previous offset (r :: rs) =
      let folder := previous.successorAt (top.depth + (r.depth - base))
      let rest := renumberFrom base top folder (offset + 1) rs
      (r.atFolder folder :: rest.1, rest.2) := by
  rw [renumberFrom, if_neg (Nat.not_lt.mpr habove)]
  exact if_neg (Nat.not_lt.mpr hskips)

/-- Any other resource ends the pass. -/
theorem renumberFrom_cons_of_not {r : Resource}
    (h : base ≤ r.depth → previous.depth + 1 < top.depth + (r.depth - base)) (offset : Nat)
    (rs : List Resource) :
    renumberFrom base top previous offset (r :: rs) =
      (r :: rs, some (.invalidSubtree offset (subtreeFault base r))) := by
  rw [renumberFrom, subtreeFault]
  by_cases habove : r.depth < base
  · rw [if_pos habove, if_pos habove]
  · rw [if_neg habove, if_neg habove]
    exact if_pos (h (Nat.le_of_not_lt habove))

/-- A pass gets to the end if the depths are in order. Otherwise it stops at the first resource
whose depth is not. -/
theorem renumberFrom_cases (top previous : FolderPath) (offset : Nat) (rs : List Resource)
    (hd : previous.depth + base = top.depth + d) (hbase : base ≤ d) :
    (ClimbsFrom base d (rs.map (·.depth)) ∧
        (renumberFrom base top previous offset rs).2 = none) ∨
      ∃ before r after, rs = before ++ r :: after ∧
        ClimbsFrom base d (before.map (·.depth)) ∧
        ¬ClimbsFrom base d ((before ++ [r]).map (·.depth)) ∧
        (renumberFrom base top previous offset rs).2 =
          some (.invalidSubtree (offset + before.length) (subtreeFault base r)) := by
  induction rs generalizing d previous offset with
  | nil => exact .inl ⟨climbsFrom_nil base d, rfl⟩
  | cons r rs ih =>
      by_cases hr : base ≤ r.depth ∧ r.depth ≤ d + 1
      · obtain ⟨habove, hnext⟩ := hr
        have hskips : top.depth + (r.depth - base) ≤ previous.depth + 1 := by omega
        let folder := previous.successorAt (top.depth + (r.depth - base))
        -- the new folder lies as deep below the top as the resource lay below the first one
        have hfolder : folder.depth + base = top.depth + r.depth := by
          rw [depth_successorAt hskips]
          omega
        have hstep (ds : List Nat) :
            ClimbsFrom base d (r.depth :: ds) ↔ ClimbsFrom base r.depth ds := by
          rw [climbsFrom_cons, and_iff_right habove, and_iff_right hnext]
        rw [renumberFrom_cons_of_le habove hskips, List.map_cons, hstep]
        rcases ih folder (offset + 1) hfolder habove with ⟨hclimbs, hend⟩ |
          ⟨before, s, after, rfl, hbefore, hstop, hend⟩
        · exact .inl ⟨hclimbs, hend⟩
        · refine .inr ⟨r :: before, s, after, rfl, (hstep _).mpr hbefore, ?_, ?_⟩
          · intro h
            exact hstop ((hstep _).mp h)
          · rw [List.length_cons, ← Nat.add_assoc, Nat.add_right_comm]
            exact hend
      · refine .inr ⟨[], r, rs, rfl, climbsFrom_nil base d, ?_, ?_⟩
        · exact fun h => hr (climbsFrom_singleton.mp h)
        · rw [renumberFrom_cons_of_not (by omega)]
          rfl

/-- Renumbering succeeds if the depths are in order. Otherwise it stops at the first resource whose
depth is not. -/
theorem renumbered_cases (parent : Option FolderPath) (start : Nat) (rs : List Resource) :
    (Climbs (rs.map (·.depth)) ∧ ∃ rs', renumbered parent start rs = .ok rs') ∨
      ∃ first before r after, rs = first :: before ++ r :: after ∧
        Climbs ((first :: before).map (·.depth)) ∧
        ¬Climbs ((first :: before ++ [r]).map (·.depth)) ∧
        renumbered parent start rs =
          .error (.invalidSubtree (before.length + 1) (subtreeFault first.depth r)) := by
  cases rs with
  | nil => exact .inl ⟨by simp [Climbs], [], rfl⟩
  | cons first rs =>
      have hpass := renumberFrom_cases (under parent start) (under parent start) 1 rs rfl
        (Nat.le_refl first.depth)
      rcases hpass with ⟨hclimbs, hend⟩ | ⟨before, r, after, rfl, hbefore, hstop, hend⟩
      · refine .inl ⟨climbs_cons.mpr hclimbs, ?_⟩
        simp only [renumbered, renumber, hend]
        exact ⟨_, rfl⟩
      · refine .inr ⟨first, before, r, after, rfl, climbs_cons.mpr hbefore, ?_, ?_⟩
        · intro h
          exact hstop (climbs_cons.mp h)
        · simp only [renumbered, renumber, hend, Nat.add_comm 1]

/-- Renumbering succeeds exactly on depths in order. -/
theorem exists_renumbered_iff :
    (∃ rs', renumbered parent start rs = .ok rs') ↔ Climbs (rs.map (·.depth)) := by
  rcases renumbered_cases parent start rs with ⟨hclimbs, hok⟩ |
    ⟨first, before, r, after, rfl, -, hstop, herror⟩
  · exact iff_of_true hok hclimbs
  · refine iff_of_false ?_ fun h => hstop (h.of_prefix ?_)
    · rintro ⟨rs', hok⟩
      rw [herror] at hok
      cases hok
    · apply List.IsPrefix.map
      exact ⟨after, by simp⟩

/-- The error names the first resource with which the depths are no longer in order. -/
theorem renumbered_eq_error_iff {e : Error} :
    renumbered parent start rs = .error e ↔
      ∃ first i r, rs.head? = some first ∧ rs[i]? = some r ∧
        IsLeast {j | ¬Climbs ((rs.take (j + 1)).map (·.depth))} i ∧
        e = .invalidSubtree i (subtreeFault first.depth r) := by
  rcases renumbered_cases parent start rs with ⟨hclimbs, rs', hok⟩ |
    ⟨first, before, r, after, rfl, hbefore, hstop, herror⟩
  · rw [hok]
    refine iff_of_false (by simp) ?_
    rintro ⟨first, i, r, -, -, hleast, -⟩
    exact hleast.1 (hclimbs.of_prefix ((List.take_prefix _ _).map _))
  · have hleast : IsLeast {j | ¬Climbs (((first :: before ++ r :: after).take (j + 1)).map
        (·.depth))} (first :: before).length := by
      constructor
      · have htake : (first :: before ++ r :: after).take ((first :: before).length + 1) =
            first :: before ++ [r] := List.take_length_add_append 1
        show ¬Climbs (((first :: before ++ r :: after).take _).map (·.depth))
        rwa [htake]
      · -- what ends before the fault is a beginning of what is in order
        intro j hj
        by_contra hlt
        have hinitial : (first :: before ++ r :: after).take (j + 1) <+: first :: before := by
          rw [List.take_append_of_le_length (by omega)]
          exact List.take_prefix _ _
        exact hj (hbefore.of_prefix (hinitial.map _))
    have hr : (first :: before ++ r :: after)[(first :: before).length]? = some r := by simp
    rw [herror, Except.error.injEq]
    constructor
    · rintro rfl
      exact ⟨first, _, r, rfl, hr, hleast, rfl⟩
    · rintro ⟨first', i, r', hfirst', hr', hi, rfl⟩
      obtain rfl := hi.unique hleast
      obtain rfl : first = first' := Option.some.inj hfirst'
      obtain rfl : r = r' := Option.some.inj (hr.symm.trans hr')
      rfl

/-! ### What a pass makes of the folders -/

/-- A pass that gets to the end: every resource is put at the successor of the folder before. -/
inductive Pass (base : Nat) (top : FolderPath) :
    FolderPath → List Resource → List Resource → Prop
  /-- There is nothing left. -/
  | nil (previous : FolderPath) : Pass base top previous [] []
  /-- The next resource is not above the first one and skips no level. -/
  | cons {previous : FolderPath} {r : Resource} {rs rs' : List Resource} :
      base ≤ r.depth → top.depth + (r.depth - base) ≤ previous.depth + 1 →
      Pass base top (previous.successorAt (top.depth + (r.depth - base))) rs rs' →
      Pass base top previous (r :: rs)
        (r.atFolder (previous.successorAt (top.depth + (r.depth - base))) :: rs')

theorem renumberFrom_eq_iff_pass (offset : Nat) :
    renumberFrom base top previous offset rs = (rs', none) ↔ Pass base top previous rs rs' := by
  constructor
  · intro h
    induction rs generalizing previous offset rs' with
    | nil =>
        cases h
        exact .nil previous
    | cons r rs ih =>
        by_cases hr : base ≤ r.depth ∧ top.depth + (r.depth - base) ≤ previous.depth + 1
        · rw [renumberFrom_cons_of_le hr.1 hr.2] at h
          obtain ⟨rfl, hend⟩ := Prod.mk.inj h
          exact .cons hr.1 hr.2 (ih (offset + 1) (Prod.ext rfl hend))
        · rw [renumberFrom_cons_of_not (by omega)] at h
          cases h
  · intro h
    induction h generalizing offset with
    | nil previous => rfl
    | cons habove hskips _ ih =>
        rw [renumberFrom_cons_of_le habove hskips]
        simp only [ih]

theorem renumbered_cons_eq_ok_iff {first : Resource} :
    renumbered parent start (first :: rs) = .ok ss ↔
      ∃ rs', ss = first.atFolder (under parent start) :: rs' ∧
        Pass first.depth (under parent start) (under parent start) rs rs' := by
  simp only [← renumberFrom_eq_iff_pass 1, renumbered, renumber]
  rcases renumberFrom first.depth (under parent start) (under parent start) 1 rs with
    ⟨rest, _ | e⟩ <;> simp [eq_comm]

/-- Depths relative to the first one are kept. -/
theorem Pass.depths (h : Pass base top previous rs rs') :
    List.Forall₂ (fun r r' => base ≤ r.depth ∧ r'.depth + base = top.depth + r.depth) rs rs' := by
  induction h with
  | nil previous => exact .nil
  | cons habove hskips _ ih =>
      refine .cons ⟨habove, ?_⟩ ih
      rw [Resource.depth, Resource.folder_atFolder, depth_successorAt hskips]
      omega

/-- Every folder follows the one before. -/
theorem Pass.follows (h : Pass base top previous rs rs') :
    (previous :: rs'.map (·.folder)).IsChain Follows := by
  induction h with
  | nil previous => exact .singleton previous
  | cons _ hskips _ ih =>
      rw [List.map_cons, List.isChain_cons_cons]
      exact ⟨follows_successorAt hskips, ih⟩

/-- A second pass over the result gives what it gives without the first one. -/
theorem Pass.again {top₂ previous₂ : FolderPath} (h : Pass base top previous rs rs')
    (h₂ : Pass base top₂ previous₂ rs ss) : Pass top.depth top₂ previous₂ rs' ss := by
  induction h generalizing previous₂ ss with
  | nil previous =>
      cases h₂
      exact .nil previous₂
  | @cons previous r rs rs' habove hskips _ ih =>
      cases h₂ with
      | cons _ hskips₂ hrest₂ =>
          -- the second pass finds the same level, now below the new top
          let r' := r.atFolder (previous.successorAt (top.depth + (r.depth - base)))
          have hdepth : r'.depth = top.depth + (r.depth - base) := depth_successorAt hskips
          have hrelative : r'.depth - top.depth = r.depth - base := by omega
          rw [← hrelative] at hskips₂ hrest₂
          have hpass := Pass.cons (r := r') (hdepth ▸ Nat.le_add_right _ _) hskips₂ (ih hrest₂)
          rw [hrelative] at hpass
          exact hpass

/-! ### The counters of a pass -/

/-- The two stacks of a pass: the next free index at every level, and the indices in use from the
first level down to the resource that was reached. -/
structure Counters where
  /-- The next free indices. -/
  free : List Nat
  /-- The indices in use. -/
  current : List Nat

namespace Counters

variable {c : Counters} {level : Nat}

/-- One more resource at a level: both stacks are cut off there, a missing counter starts anew, and
the index is taken. -/
def next (start level : Nat) (c : Counters) : Counters :=
  let kept := c.free.take (level + 1)
  let free := if kept.length = level then kept ++ [if level = 0 then start else 0] else kept
  let index := free.getD level 0
  { free := free.set level (index + 1), current := c.current.take level ++ [index] }

/-- The indices in use at each of the resources, given their levels. -/
def paths (start : Nat) (c : Counters) : List Nat → List (List Nat)
  | [] => []
  | level :: levels =>
    let c := c.next start level
    c.current :: c.paths start levels

/-- The index that is taken next at a level, given the indices in use. -/
def taken (start level : Nat) (current : List Nat) : Nat :=
  match current[level]? with
  | some i => i + 1
  | none => if level = 0 then start else 0

/-- The counters down to a level: those of the levels above it and its own, which is new if the
level is one deeper than all before. -/
theorem kept_eq (h : c.free = c.current.map (· + 1)) (hlevel : level ≤ c.current.length) :
    (if (c.free.take (level + 1)).length = level then
      c.free.take (level + 1) ++ [if level = 0 then start else 0] else c.free.take (level + 1)) =
        (c.current.take level).map (· + 1) ++ [taken start level c.current] := by
  rw [h, ← List.map_take, List.take_add_one, taken]
  cases hget : c.current[level]? with
  | none => simp [hlevel]
  | some i => simp [hlevel]

/-- The free indices are those after the indices in use, and the next resource leaves it so. -/
theorem next_eq (h : c.free = c.current.map (· + 1)) (hlevel : level ≤ c.current.length) :
    c.next start level =
      let current := c.current.take level ++ [taken start level c.current]
      ⟨current.map (· + 1), current⟩ := by
  have hlength : ((c.current.take level).map (· + 1)).length = level := by
    simpa using hlevel
  have hindex : ((c.current.take level).map (· + 1) ++ [taken start level c.current]).getD level 0 =
      taken start level c.current := by
    rw [List.getD_eq_getElem?_getD, List.getElem?_append_right hlength.le, hlength]
    simp
  simp only [next, kept_eq h hlevel, hindex]
  rw [List.set_append_right _ _ hlength.le, hlength]
  simp

/-- No index is more than one greater than those in use. -/
theorem taken_lt {current : List Nat} {bound : Nat} (hstart : start < bound)
    (h : ∀ i ∈ current, i + 1 < bound) : taken start level current < bound := by
  unfold taken
  split
  · next i hget => exact h i (List.mem_of_getElem? hget)
  · split
    · exact hstart
    · exact Nat.zero_lt_of_lt hstart

/-- The counters are those of a pass below a parent that has come to a folder. -/
structure Counts (parent : Option FolderPath) (c : Counters) (p : FolderPath) : Prop where
  /-- The folder is put together from the indices in use. -/
  path : p.segments = segmentsOf parent ++ c.current
  /-- The free indices are those after them. -/
  free : c.free = c.current.map (· + 1)
  /-- At least one is in use. -/
  used : c.current ≠ []

theorem counts_first (parent : Option FolderPath) (start : Nat) :
    Counts parent (next start 0 ⟨[], []⟩) (under parent start) := by
  rw [next_eq rfl (Nat.le_refl 0)]
  exact { path := rfl, free := rfl, used := by simp }

/-- The counters go on to the successor of the folder. -/
theorem Counts.next (h : Counts parent c p) (start : Nat) (hlevel : level ≤ c.current.length) :
    Counts parent (c.next start level) (p.successorAt ((segmentsOf parent).length + level)) := by
  rw [next_eq h.free hlevel]
  refine { path := ?_, free := rfl, used := by simp }
  have hget : p.segments[(segmentsOf parent).length + level]? = c.current[level]? := by
    rw [h.path, List.getElem?_append_right (Nat.le_add_right _ _), Nat.add_sub_cancel_left]
  cases hcurrent : c.current[level]? with
  | some i =>
      rw [segments_successorAt_of_some (hget.trans hcurrent), h.path, List.take_length_add_append,
        taken, hcurrent, List.append_assoc]
  | none =>
      have hall : c.current.length ≤ level := List.getElem?_eq_none_iff.mp hcurrent
      have hdeeper : level ≠ 0 := by
        have := List.length_pos_iff.mpr h.used
        omega
      rw [segments_successorAt_of_none (hget.trans hcurrent), h.path, List.take_of_length_le hall,
        taken, hcurrent, if_neg hdeeper, List.append_assoc]

/-- A level that is not skipped has its counters. -/
theorem Counts.level_le (h : Counts parent c p)
    (hskips : (segmentsOf parent).length + level ≤ p.depth + 1) : level ≤ c.current.length := by
  rw [depth_add_one, h.path, List.length_append] at hskips
  omega

end Counters

/-- The folders are those that the counters give. -/
theorem Pass.counted {c : Counters} (h : Pass base top previous rs rs')
    (htop : top.depth = (segmentsOf parent).length) (hc : c.Counts parent previous) (start : Nat) :
    rs'.map (·.folder.segments) =
      (c.paths start (rs.map (·.depth - base))).map (segmentsOf parent ++ ·) := by
  induction h generalizing c with
  | nil previous => rfl
  | cons _ hskips _ ih =>
      rw [htop] at hskips ih
      have hnext := hc.next start (hc.level_le hskips)
      simp only [List.map_cons, Counters.paths, Resource.folder_atFolder, htop]
      rw [ih hnext, hnext.path]

/-- No index is greater than the greatest in use and the number of resources ask for. -/
theorem Pass.bounded {c : Counters} {bound : Nat} (h : Pass base top previous rs rs')
    (htop : top.depth = (segmentsOf parent).length) (hc : c.Counts parent previous)
    (hstart : start < bound) (hbound : ∀ i ∈ c.current, i < bound) :
    ∀ path ∈ c.paths start (rs.map (·.depth - base)), ∀ i ∈ path, i < bound + rs.length := by
  induction h generalizing c bound with
  | nil previous => simp [Counters.paths]
  | @cons previous r rs rs' _ hskips _ ih =>
      rw [htop] at hskips ih
      have hlevel := hc.level_le hskips
      have hnext : ∀ i ∈ (c.next start (r.depth - base)).current, i < bound + 1 := by
        rw [Counters.next_eq hc.free hlevel]
        intro i hi
        rcases List.mem_append.mp hi with hold | hnew
        · exact Nat.lt_succ_of_lt (hbound i (List.mem_of_mem_take hold))
        · rw [List.mem_singleton.mp hnew]
          exact Counters.taken_lt (Nat.lt_succ_of_lt hstart) fun j hj =>
            Nat.succ_lt_succ (hbound j hj)
      have hrest := ih (hc.next start hlevel) (Nat.lt_succ_of_lt hstart) hnext
      rw [List.length_cons, Nat.add_comm rs.length, ← Nat.add_assoc]
      intro path hpath i hi
      rcases List.mem_cons.mp hpath with rfl | hpath
      · exact Nat.lt_of_lt_of_le (hnext i hi) (Nat.le_add_right _ _)
      · exact hrest path hpath i hi

/-! ### The result -/

/-- Depths relative to the first one. -/
def levels : List Resource → List Nat
  | [] => []
  | first :: rs => (first :: rs).map (·.depth - first.depth)

/-- What renumbering keeps, and what it makes of the folders. -/
structure Renumbered (parent : Option FolderPath) (start : Nat) (rs rs' : List Resource) :
    Prop where
  /-- The resources are the same but for their folders. -/
  content : ∀ p, rs'.map (·.atFolder p) = rs.map (·.atFolder p)
  /-- The first one is the child, or root, of the given index. -/
  first : ∀ r ∈ rs'.head?, r.folder = under parent start
  /-- Each is as much deeper than the first one as before. -/
  depths : ∀ first ∈ rs.head?, List.Forall₂
    (fun r r' => r'.depth + first.depth = (segmentsOf parent).length + r.depth) rs rs'
  /-- Each next folder is the first child of the one before when it is one level deeper, otherwise
  the next sibling of it or of its ancestor at that level. -/
  follows : (rs'.map (·.folder)).IsChain Follows
  /-- The levels alone decide about the folders: they are those that the counters give. -/
  counted : rs'.map (·.folder.segments) =
    (Counters.paths start ⟨[], []⟩ (levels rs)).map (segmentsOf parent ++ ·)
  /-- The counters stay within the starting index and the number of resources. -/
  bounded : ∀ path ∈ Counters.paths start ⟨[], []⟩ (levels rs), ∀ i ∈ path,
    i < start + rs.length

/-- What is renumbered successfully. -/
theorem Renumbered.of_eq_ok (h : renumbered parent start rs = .ok rs') :
    Renumbered parent start rs rs' := by
  cases rs with
  | nil =>
      cases h
      exact {
        content := fun _ => rfl
        first := by simp
        depths := by simp
        follows := .nil
        counted := rfl
        bounded := by simp [levels, Counters.paths] }
  | cons first rs =>
      obtain ⟨rs', rfl, hpass⟩ := renumbered_cons_eq_ok_iff.mp h
      have htop : (under parent start).depth = (segmentsOf parent).length := depth_under _ _
      have hcounts := Counters.counts_first parent start
      have hlevels : levels (first :: rs) = 0 :: rs.map (·.depth - first.depth) := by
        simp [levels]
      exact {
        content := map_atFolder_renumbered h
        first := by simp
        depths := by
          rintro r ⟨⟩
          refine .cons ?_ (hpass.depths.imp fun r r' hr => ?_)
          · rw [Resource.depth, Resource.folder_atFolder, htop]
          · rw [hr.2, htop]
        follows := hpass.follows
        counted := by
          rw [hlevels, Counters.paths, List.map_cons, List.map_cons,
            hpass.counted htop hcounts start, ← hcounts.path, Resource.folder_atFolder]
        bounded := by
          rw [hlevels]
          intro path hpath i hi
          have hfirst : ∀ i ∈ (Counters.next start 0 ⟨[], []⟩).current, i < start + 1 := by
            simp [Counters.next]
          rw [List.length_cons, Nat.add_comm rs.length, ← Nat.add_assoc]
          rcases List.mem_cons.mp hpath with rfl | hpath
          · exact Nat.lt_of_lt_of_le (hfirst i hi) (Nat.le_add_right _ _)
          · exact hpass.bounded htop hcounts (Nat.lt_succ_self start) hfirst path hpath i hi }

/-- What was renumbered before is renumbered as if it had not been. -/
theorem renumbered_again {parent₂ : Option FolderPath} {start₂ : Nat}
    (h : renumbered parent start rs = .ok rs') :
    renumbered parent₂ start₂ rs' = renumbered parent₂ start₂ rs := by
  obtain ⟨ss, hss⟩ : ∃ ss, renumbered parent₂ start₂ rs = .ok ss :=
    exists_renumbered_iff.mpr (exists_renumbered_iff.mp ⟨rs', h⟩)
  rw [hss]
  cases rs with
  | nil =>
      cases h
      exact hss
  | cons first rs =>
      obtain ⟨rs', rfl, hpass⟩ := renumbered_cons_eq_ok_iff.mp h
      obtain ⟨ss, rfl, hpass₂⟩ := renumbered_cons_eq_ok_iff.mp hss
      exact renumbered_cons_eq_ok_iff.mpr ⟨ss, rfl, hpass.again hpass₂⟩

/-- A valid list is numbered already. -/
theorem renumbered_of_valid (h : validate rs = .ok ()) : renumbered none 0 rs = .ok rs := by
  obtain ⟨-, f, rfl⟩ := (validate_eq_ok_iff_exists_forest rs).mp h
  have hf := Forest.renumbered_flatten (f.leveled_numbered none 0) none 0
  rwa [Forest.numbered_numbered] at hf

/-- Resources are renumbered exactly if none is above the first one and none is more than one level
deeper than the one before. Otherwise the error names the first offset at which this fails. What
succeeds keeps everything but the folders, which follow the old depths alone; renumbering the result
gives what renumbering the resources gives, and valid resources stay as they are. -/
theorem renumbered_follows_depths (parent : Option FolderPath) (start : Nat)
    (rs : List Resource) :
    ((∃ rs', renumbered parent start rs = .ok rs') ↔ Climbs (rs.map (·.depth))) ∧
    (∀ e, renumbered parent start rs = .error e ↔
      ∃ first i r, rs.head? = some first ∧ rs[i]? = some r ∧
        IsLeast {j | ¬Climbs ((rs.take (j + 1)).map (·.depth))} i ∧
        e = .invalidSubtree i (subtreeFault first.depth r)) ∧
    (∀ rs', renumbered parent start rs = .ok rs' →
      Renumbered parent start rs rs' ∧
        ∀ parent₂ start₂, renumbered parent₂ start₂ rs' = renumbered parent₂ start₂ rs) ∧
    (validate rs = .ok () → renumbered none 0 rs = .ok rs) := by
  refine ⟨exists_renumbered_iff, fun e => renumbered_eq_error_iff, ?_, renumbered_of_valid⟩
  intro rs' h
  exact ⟨.of_eq_ok h, fun parent₂ start₂ => renumbered_again h⟩

/-- Two groups with gaps among the siblings. -/
def gapped : List Resource :=
  [.new "a" (.root 0) "Base", .new "b" ((FolderPath.root 0).child 2) "Terrain",
    .new "c" (((FolderPath.root 0).child 2).child 1) "Relief", .new "d" (.root 3) "Roads",
    .new "e" ((FolderPath.root 3).child 0) "Bridges"]

/-- The same groups without gaps. -/
def compacted : List Resource :=
  [.new "a" (.root 0) "Base", .new "b" ((FolderPath.root 0).child 0) "Terrain",
    .new "c" (((FolderPath.root 0).child 0).child 0) "Relief", .new "d" (.root 1) "Roads",
    .new "e" ((FolderPath.root 1).child 0) "Bridges"]

/-- Gaps close, and then nothing is left to do. -/
theorem gapped_compacted :
    renumbered none 0 gapped = .ok compacted ∧ Renumbered none 0 gapped compacted ∧
      renumbered none 0 compacted = .ok compacted := by
  have hok : renumbered none 0 gapped = .ok compacted := by rfl
  obtain ⟨-, -, hresult, -⟩ := renumbered_follows_depths none 0 gapped
  obtain ⟨-, -, -, hvalid⟩ := renumbered_follows_depths none 0 compacted
  exact ⟨hok, (hresult compacted hok).1, hvalid (by decide)⟩

end Context

end MapContext
