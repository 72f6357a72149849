import MapContext.Proofs.Forest.Contiguity
import MapContext.Proofs.Result
import Mathlib.Order.Bounds.Defs

/-!
# What validation accepts and what it reports

Validation looks at one resource after another. It accepts the listings of forests whose
identifiers differ, and where it stops, the resources before are still valid. The error names the
resource at which it stops: by its index and folder, or by its identifier if that is taken.
-/

namespace MapContext

namespace Context

open FolderPath

variable {rs ss before : List Resource} {r : Resource} {e : Error}

theorem validateFrom_append (seen : List Resource.Id) (previous : Option FolderPath) (index : Nat)
    (rs ss : List Resource) :
    validateFrom seen previous index (rs ++ ss) =
      (validateFrom seen previous index rs >>= fun _ =>
        validateFrom ((rs.map (·.id)).reverse ++ seen) (lastFolder previous rs)
          (index + rs.length) ss) := by
  induction rs generalizing seen previous index with
  | nil => rfl
  | cons r rs ih =>
      rw [List.cons_append, validateFrom, validateFrom]
      split
      · rfl
      · split
        · rfl
        · rw [ih, List.map_cons, List.reverse_cons, List.append_assoc, List.singleton_append,
            List.length_cons, Nat.add_right_comm, Nat.add_assoc, lastFolder_cons]

/-- What is wrong with a resource behind others: its identifier is taken, or it cannot stand
there. -/
def defect? (before : List Resource) (r : Resource) : Option Error :=
  if r.id ∈ before.map (·.id) then some (.duplicateId r.id)
  else
    (misplaced? (lastFolder none before) r.folder).map
      (.invalidStructure before.length r.folder)

theorem defect?_eq_some_iff :
    defect? before r = some e ↔
      (r.id ∈ before.map (·.id) ∧ e = .duplicateId r.id) ∨
        (r.id ∉ before.map (·.id) ∧ ∃ fault, misplaced? (lastFolder none before) r.folder =
          some fault ∧ e = .invalidStructure before.length r.folder fault) := by
  unfold defect?
  split
  · next hid => simp only [Option.some.injEq, hid, true_and, not_true, false_and, or_false, eq_comm]
  · next hid =>
      simp only [Option.map_eq_some_iff, hid, false_and, not_false_iff, true_and, false_or,
        eq_comm (a := e)]

/-- One more resource is checked against those before it. -/
theorem validate_concat (before : List Resource) (r : Resource) :
    validate (before ++ [r]) = (validate before >>= fun _ => (defect? before r).elim (.ok ())
      .error) := by
  have hlast : validateFrom ((before.map (·.id)).reverse ++ []) (lastFolder none before)
      (0 + before.length) [r] = (defect? before r).elim (.ok ()) .error := by
    simp only [validateFrom, defect?, List.append_nil, List.contains_iff_mem, List.mem_reverse,
      Nat.zero_add]
    split
    · rfl
    · cases misplaced? (lastFolder none before) r.folder <;> rfl
  rw [validate, validateFrom_append, hlast, validate]

theorem validate_append_of_error (h : validate rs = .error e) (ss : List Resource) :
    validate (rs ++ ss) = .error e := by
  have hrs : validateFrom [] none 0 rs = .error e := h
  rw [validate, validateFrom_append, hrs, error_bind]

/-- The beginning of a valid list is valid. -/
theorem validate_of_initial (h : rs <+: ss) (hss : validate ss = .ok ()) :
    validate rs = .ok () := by
  obtain ⟨others, rfl⟩ := h
  cases hrs : validate rs with
  | ok => rfl
  | error e =>
      rw [validate_append_of_error hrs] at hss
      cases hss

/-- Validation fails at the first resource with which something is wrong. -/
theorem validate_eq_error_iff :
    validate rs = .error e ↔
      ∃ before r after, rs = before ++ r :: after ∧ validate before = .ok () ∧
        defect? before r = some e := by
  constructor
  · intro h
    induction rs using List.reverseRecOn with
    | nil => cases h
    | append_singleton rs r ih =>
        rw [validate_concat] at h
        cases hrs : validate rs with
        | error e' =>
            rw [hrs, error_bind, ← hrs] at h
            obtain ⟨before, r', after, rfl, hbefore, hdefect⟩ := ih h
            exact ⟨before, r', after ++ [r], by simp, hbefore, hdefect⟩
        | ok =>
            rw [hrs, ok_bind] at h
            cases hdefect : defect? rs r with
            | none =>
                rw [hdefect] at h
                cases h
            | some e' =>
                rw [hdefect] at h
                cases h
                exact ⟨rs, r, [], rfl, hrs, hdefect⟩
  · rintro ⟨before, r, after, rfl, hbefore, hdefect⟩
    have hstop : validate (before ++ [r]) = .error e := by
      rw [validate_concat, hbefore, ok_bind, hdefect]
      rfl
    rw [← List.singleton_append, ← List.append_assoc]
    exact validate_append_of_error hstop after

/-- The first `i` resources are accepted, but not one more. -/
def StopsAt (rs : List Resource) (i : Nat) : Prop :=
  validate (rs.take i) = .ok () ∧ validate (rs.take (i + 1)) ≠ .ok ()

/-- There is one index only at which validation stops. -/
theorem StopsAt.isLeast {i : Nat} (h : StopsAt rs i) : IsLeast {j | StopsAt rs j} i := by
  refine ⟨h, fun j hj => ?_⟩
  by_contra hlt
  have hprefix : rs.take (j + 1) <+: rs.take i := List.take_prefix_take_left (by omega)
  exact hj.2 (validate_of_initial hprefix h.1)

/-- The index of the resource at fault, where the error gives one. -/
def Error.index? : Error → Option Nat
  | .invalidStructure index _ _ => some index
  | .parentNotFound index _ _ => some index
  | _ => none

/-- Resources are accepted exactly if their identifiers differ and their folders are those of a
forest, in other words contiguous. They are refused with an error about the resource at the least
index up to which they are accepted. The error gives that index with the folder and the fault,
unless the identifier is taken: then it gives the identifier alone. -/
theorem validate_refuses_first_defect (rs : List Resource) :
    (validate rs = .ok () ↔
      (rs.map (·.id)).Nodup ∧ ∃ f : Forest, f.folders = rs.map (·.folder)) ∧
    ((∃ f : Forest, f.folders = rs.map (·.folder)) ↔ Contiguous (rs.map (·.folder))) ∧
    ∀ e, validate rs = .error e ↔
      ∃ i r, IsLeast {j | StopsAt rs j} i ∧ rs[i]? = some r ∧
        ((r.id ∈ (rs.take i).map (·.id) ∧ e = .duplicateId r.id) ∨
          (r.id ∉ (rs.take i).map (·.id) ∧ ∃ fault,
            misplaced? (lastFolder none (rs.take i)) r.folder = some fault ∧
              e = .invalidStructure i r.folder fault)) := by
  refine ⟨?_, Forest.exists_folders_eq_iff rs, fun e => ?_⟩
  · rw [validate_eq_ok_iff_exists_forest]
    refine and_congr_right fun _ => ⟨?_, ?_⟩
    · rintro ⟨f, rfl⟩
      exact ⟨f, rfl⟩
    · intro h
      have hcontiguous : Contiguous (([] ++ rs).map Resource.folder) :=
        (Forest.exists_folders_eq_iff rs).mp h
      exact Forest.exists_flatten_eq (Forest.ordered_of_contiguous hcontiguous)
  · simp only [validate_eq_error_iff, defect?_eq_some_iff]
    constructor
    · rintro ⟨before, r, after, rfl, hbefore, hreport⟩
      have htake : (before ++ r :: after).take before.length = before := List.take_left
      have hnext : (before ++ r :: after).take (before.length + 1) = before ++ [r] :=
        List.take_length_add_append 1
      have hstops : StopsAt (before ++ r :: after) before.length := by
        rw [StopsAt, htake, hnext]
        refine ⟨hbefore, ?_⟩
        rw [validate_concat, hbefore, ok_bind, defect?_eq_some_iff.mpr hreport]
        exact fun h => nomatch h
      refine ⟨before.length, r, hstops.isLeast, by simp, ?_⟩
      rw [htake]
      exact hreport
    · rintro ⟨i, r, ⟨hstops, -⟩, hr, hreport⟩
      obtain ⟨hi, rfl⟩ := List.getElem?_eq_some_iff.mp hr
      refine ⟨rs.take i, rs[i], rs.drop (i + 1), ?_, hstops.1, ?_⟩
      · rw [List.getElem_cons_drop, List.take_append_drop]
      · rw [List.length_take_of_le (Nat.le_of_lt hi)]
        exact hreport

/-- A group and a layer with one identifier. -/
def namesakes : List Resource :=
  [.new "a" (.root 0) "Group", .new "a" ((FolderPath.root 0).child 0) "Layer"]

/-- An error about a taken identifier does not tell the index of the second resource. -/
theorem namesakes_refused_without_index :
    ∃ e, validate namesakes = .error e ∧ IsLeast {j | StopsAt namesakes j} 1 ∧
      e.index? = none := by
  have hstops : StopsAt namesakes 1 := ⟨by decide, by decide⟩
  exact ⟨.duplicateId "a", by decide, hstops.isLeast, rfl⟩

end Context

end MapContext
