import MapContext.Proofs.Context.Depths
import MapContext.Proofs.Context.Reachable

/-!
# Indices of valid lists

Folders of documents may have any indices that the machine can hold. But in a valid list a folder
has no greater indices, and no more of them, than there are resources up to it, since each is the
successor of one before. What edits make of a valid list stays near its length.
-/

namespace MapContext

namespace FolderPath

/-- A path as it can stand among the first `n` resources of a valid list. -/
structure Below (n : Nat) (p : FolderPath) : Prop where
  /-- All indices are less. -/
  segments : ∀ i ∈ p.segments, i < n
  /-- There are no more indices than that. -/
  length : p.segments.length ≤ n

namespace Below

variable {n m k : Nat} {p q : FolderPath} {previous : Option FolderPath}

theorem mono (h : p.Below n) (hnm : n ≤ m) : p.Below m :=
  ⟨fun i hi => Nat.lt_of_lt_of_le (h.segments i hi) hnm, h.length.trans hnm⟩

theorem index_lt (h : p.Below n) : p.index < n := h.segments _ (List.getLast_mem p.nonempty)

theorem get_lt {i : Nat} (h : p.Below n) (hi : p.segments[k]? = some i) : i < n :=
  h.segments i (List.mem_of_getElem? hi)

theorem depth_lt (h : p.Below n) : p.depth < n := by
  have hlength := h.length
  rw [← depth_add_one] at hlength
  exact hlength

/-- Another index at a depth leaves the path below, if it is small enough. -/
theorem withSegment {value : Nat} (h : p.Below n) (hvalue : value < n) (k : Nat) :
    (p.withSegment k value).Below n := by
  constructor
  · intro i hi
    rcases List.mem_or_eq_of_mem_set hi with hi | rfl
    · exact h.segments i hi
    · exact hvalue
  · rw [FolderPath.withSegment, List.length_set]
    exact h.length

/-- The successor of a path has room in a list that is longer by one. -/
theorem successorAt (h : p.Below n) (k : Nat) : (p.successorAt k).Below (n + 1) := by
  have hlength := h.length
  cases hget : p.segments[k]? with
  | some i =>
      constructor
      · rw [segments_successorAt_of_some hget]
        intro j hj
        rcases List.mem_append.mp hj with hj | hj
        · exact Nat.lt_succ_of_lt (h.segments j (List.mem_of_mem_take hj))
        · rw [List.mem_singleton.mp hj]
          exact Nat.succ_lt_succ (h.get_lt hget)
      · have hk := (List.getElem?_eq_some_iff.mp hget).1
        rw [segments_successorAt_of_some hget, List.length_append, List.length_take,
          List.length_singleton]
        omega
  | none =>
      constructor
      · rw [segments_successorAt_of_none hget]
        intro j hj
        rcases List.mem_append.mp hj with hj | hj
        · exact Nat.lt_succ_of_lt (h.segments j hj)
        · rw [List.mem_singleton.mp hj]
          exact Nat.succ_pos n
      · rw [segments_successorAt_of_none hget, List.length_append, List.length_singleton]
        exact Nat.succ_le_succ hlength

/-- What may follow a path has room in a list that is longer by one. -/
theorem of_misplaced? (h : Context.misplaced? previous q = none)
    (hprevious : ∀ p ∈ previous, p.Below n) : q.Below (n + 1) := by
  rw [← under_parent?_index q, misplaced?_eq_none_iff] at h
  cases previous with
  | none =>
      cases hindex : q.index with
      | succ i =>
          rw [hindex] at h
          have hprefix : segmentsOf q.parent? ++ [i] <+: [] := h
          simp at hprefix
      | zero =>
          rw [hindex] at h
          have hparent : none = q.parent? := h
          have hq : q = root 0 := by
            rw [← under_parent?_index q, ← hparent, hindex]
            rfl
          rw [hq]
          exact ⟨by simp [root], by simp [root]⟩
  | some p =>
      obtain ⟨-, hq⟩ := successorAt_of_precedes h
      rw [← under_parent?_index q, ← hq]
      exact (hprevious p rfl).successorAt _

end Below

end FolderPath

namespace Context

open FolderPath

variable {n start index : Nat} {p : FolderPath} {parent : Option FolderPath}
  {rs rs' : List Resource}

/-! ### Valid lists -/

/-- The folders of a valid list stand below its length. -/
theorem below_of_validateFrom {seen : List Resource.Id} {previous : Option FolderPath}
    (h : validateFrom seen previous index rs = .ok ())
    (hprevious : ∀ p ∈ previous, p.Below index) :
    ∀ r ∈ rs, r.folder.Below (index + rs.length) := by
  induction rs generalizing seen previous index with
  | nil => simp
  | cons r rs ih =>
      unfold validateFrom at h
      split at h
      · cases h
      · split at h
        · cases h
        · next hplace =>
            have hr := Below.of_misplaced? hplace hprevious
            have hrest := ih h fun p hp => Option.some.inj hp ▸ hr
            rw [List.length_cons, Nat.add_comm rs.length, ← Nat.add_assoc]
            exact List.forall_mem_cons.mpr ⟨hr.mono (Nat.le_add_right _ _), hrest⟩

theorem below_of_validate (h : validate rs = .ok ()) :
    ∀ r ∈ rs, r.folder.Below rs.length := by
  have hbelow := below_of_validateFrom h (fun _ hp => nomatch hp)
  rwa [Nat.zero_add] at hbelow

theorem nextRoot_le {c : Context} (h : validate c.features = .ok ()) :
    c.nextRoot ≤ c.features.length := by
  obtain ⟨f, hf⟩ := (validate_eq_ok_iff_lists c).mp h
  rw [hf.nextRoot_eq, ← hf.size_eq]
  exact f.width_le_size

/-! ### What edits make of them -/

/-- Beside or below a resource there is no greater index than the number of resources. -/
theorem index_destination_le (features : List Resource) (h : p.Below n)
    (hfeatures : features.length ≤ n) (position : Position) :
    (destination features p position).2 ≤ n := by
  cases position with
  | left => exact Nat.le_of_lt h.index_lt
  | right => exact h.index_lt
  | firstChild => exact Nat.zero_le n
  | lastChild => exact List.countP_le_length.trans hfeatures

theorem length_shiftSiblings (direction : Shift) (parent : Option FolderPath) (index : Nat)
    (rs : List Resource) :
    (shiftSiblings direction parent index rs).length = rs.length :=
  List.length_map ..

theorem below_shiftDown (parent : Option FolderPath) (index : Nat)
    (h : ∀ r ∈ rs, r.folder.Below n) :
    ∀ r ∈ shiftSiblings .down parent index rs, r.folder.Below n := by
  intro r hr
  obtain ⟨s, hs, rfl⟩ := List.mem_map.mp hr
  have hbelow := h s hs
  split
  · rw [Resource.folder_atFolder]
    apply hbelow.withSegment
    have hpos : 0 < n := Nat.zero_lt_of_lt hbelow.index_lt
    rw [Shift.apply, segment?]
    cases hget : s.folder.segments[(segmentsOf parent).length]? with
    | none => exact hpos
    | some i => exact Nat.lt_of_le_of_lt (Nat.sub_le i 1) (hbelow.get_lt hget)
  · exact hbelow

theorem length_of_renumbered (h : renumbered parent start rs = .ok rs') :
    rs'.length = rs.length := by
  have hcontent := congrArg List.length (map_atFolder_renumbered h (.root 0))
  rwa [List.length_map, List.length_map] at hcontent

section Service

variable {href capabilitiesHref : String} {capabilities : Capabilities} {fresh : Nat → Resource.Id}

theorem length_of_layerResources
    (h : layerResources href capabilities capabilitiesHref fresh 0 capabilities.rootLayer.preorder =
      .ok rs) : rs.length = capabilities.rootLayer.count := by
  have hdepths := congrArg List.length (layerResources_eq_ok h).1
  rwa [List.length_map, List.length_map, Layer.preorder, Layer.length_preorderAt] at hdepths

theorem length_of_resourcesOf (h : resourcesOf href capabilities start fresh = .ok rs) :
    rs.length = capabilities.rootLayer.count := by
  obtain ⟨u, -, h⟩ := bind_eq_ok_iff.mp h
  obtain ⟨staged, hstaged, h⟩ := bind_eq_ok_iff.mp h
  rw [length_of_renumbered h, length_of_layerResources hstaged]

end Service

end Context

end MapContext
