import MapContext.Context.Activation
import MapContext.Proofs.Context.Moving

/-!
# What the edits do to the forest

An inserted resource is planted into the forest, a removed one is cut off with its branch, and an
appended service adds one tree behind the others. Switching resources on and off leaves their
places alone. None of these edits can be stopped by the order of the resources.
-/

namespace MapContext

namespace Forest

/-- The forest with one more resource: relative to a target, or as the last root. -/
def plant (r : Resource) (target : Option Resource.Id) (position : Position) (f : Forest) :
    Forest :=
  match target with
  | none => f ++ tree r nil nil
  | some target => f.graft target position (tree r nil nil)

theorem plant_perm {f : Forest} (hids : f.ids.Nodup) (r : Resource) {target : Option Resource.Id}
    (htarget : ∀ id, target = some id → id ∈ f.ids) (position : Position) :
    (f.plant r target position).flatten.Perm (f.flatten ++ [r]) := by
  cases target with
  | none => simp [plant]
  | some id => exact graft_perm (tree r nil nil) (htarget id rfl) hids position

theorem nodup_ids_plant {f : Forest} {r : Resource} (h : r.id ∉ f.ids) (hids : f.ids.Nodup)
    {target : Option Resource.Id} (htarget : ∀ id, target = some id → id ∈ f.ids)
    (position : Position) : (f.plant r target position).ids.Nodup := by
  have hplant := (plant_perm hids r htarget position).map fun r : Resource => r.id
  rw [List.map_append] at hplant
  refine hplant.nodup_iff.mpr (hids.append (List.nodup_singleton _) ?_)
  simpa using h

end Forest

namespace Context

open FolderPath

variable {c : Context} {f : Forest} {r s : Resource} {id : Resource.Id}

theorem Lists.mem_ids_iff (h : c.Lists f) : id ∈ f.ids ↔ id ∈ c.features.map (·.id) := by
  rw [h.ids_eq]

theorem Lists.exists_get? (h : c.Lists f) (hid : id ∈ c.features.map (·.id)) :
    ∃ r ∈ c.features, r.id = id ∧ c.get? id = some r ∧ c.require id = .ok r := by
  obtain ⟨r, hr, rfl⟩ := List.mem_map.mp hid
  have hget := h.get?_eq_some_iff.mpr ⟨hr, rfl⟩
  exact ⟨r, hr, rfl, hget, require_eq_ok_iff.mpr hget⟩

/-! ### Inserting -/

/-- The place of an inserted resource. -/
def landing (c : Context) (target : Option Resource.Id) (position : Position) :
    Except Error (Option FolderPath × Nat) :=
  match target with
  | none => .ok (none, c.nextRoot)
  | some id => do
    let t ← c.require id
    return destination c.features t.folder position

/-- An insertion finds its place first. -/
theorem insert_eq_landing (hr : r.id ∉ c.features.map (·.id)) (target : Option Resource.Id)
    (position : Position) :
    c.insert target r position = (do
      let (slot, k) ← c.landing target position
      let staged := shiftSiblings .up slot k c.features
      let before (a : Resource) : Bool := a.folder < under slot k
      let c ← c.commit
        (staged.takeWhile before ++ r.atFolder (under slot k) :: staged.dropWhile before)
      return c.refreshCrs) := by
  cases target with
  | none => simp only [insert, get?_eq_none_iff.mpr hr, landing, pure_bind, ok_bind]
  | some id =>
      simp only [insert, get?_eq_none_iff.mpr hr, landing]
      cases c.require id <;> rfl

/-- There is a place for the new resource, and opening it makes room for it. -/
theorem Lists.exists_landing (h : c.Lists f) (hfits : c.Fits) (r : Resource)
    {target : Option Resource.Id} (htarget : ∀ id, target = some id → id ∈ c.features.map (·.id))
    (position : Position) :
    ∃ slot k, c.landing target position = .ok (slot, k) ∧
      (shiftSiblings .up slot k c.features ++ [r.atFolder (under slot k)]).Perm
        ((f.plant r target position).numbered none 0).flatten := by
  cases target with
  | none =>
      refine ⟨none, f.width, congrArg (fun k => Except.ok (none, k)) h.nextRoot_eq, ?_⟩
      have hpast := Forest.shiftSiblings_past .up none f 0
      rw [Nat.zero_add] at hpast
      rw [← h.flatten_eq, hpast, Forest.plant, Forest.numbered_append, Nat.zero_add]
      simp
  | some id =>
      obtain ⟨t, ht, rfl, -, hrequire⟩ := h.exists_get? (htarget id rfl)
      obtain ⟨slot, k, hslot⟩ : ∃ slot k, destination c.features t.folder position = (slot, k) :=
        ⟨_, _, rfl⟩
      refine ⟨slot, k, ?_, ?_⟩
      · simp only [landing, hrequire, ok_bind, hslot]
        rfl
      · rw [← h.flatten_eq] at ht hslot ⊢
        have hsize : 0 + f.size ≤ maxIndex := by
          rw [Nat.zero_add, h.size_eq]
          exact hfits
        exact Forest.shiftSiblings_up_graft (g := .tree r .nil .nil) ht h.nodup rfl hsize hslot

/-- An inserted resource is planted into the forest. -/
theorem Lists.insert_eq (h : c.Lists f) (hfits : c.Fits) (hr : r.id ∉ c.features.map (·.id))
    {target : Option Resource.Id} (htarget : ∀ id, target = some id → id ∈ c.features.map (·.id))
    (position : Position) :
    c.insert target r position =
      .ok { c with
        features := ((f.plant r target position).numbered none 0).flatten }.refreshCrs := by
  obtain ⟨slot, k, hlanding, hperm⟩ := h.exists_landing hfits r htarget position
  have htarget' : ∀ id, target = some id → id ∈ f.ids := fun id hid =>
    h.mem_ids_iff.mpr (htarget id hid)
  have hnodup := Forest.nodup_ids_plant (h.ids_eq ▸ hr) h.nodup htarget' position
  let folder := under slot k
  let staged := shiftSiblings .up slot k c.features
  let before (a : Resource) : Bool := a.folder < folder
  have hstaged : (staged.takeWhile before ++ r.atFolder folder :: staged.dropWhile before).Perm
      ((f.plant r target position).numbered none 0).flatten := by
    refine .trans ?_ hperm
    refine List.perm_middle.trans ?_
    rw [List.takeWhile_append_dropWhile]
    exact (List.perm_append_singleton _ _).symm
  have hcommit := commit_of_perm (c := c) hnodup hstaged
  rw [insert_eq_landing hr, hlanding, ok_bind]
  exact congrArg (fun e => e >>= fun c => pure c.refreshCrs) hcommit

/-! ### Removing -/

/-- A removed resource is cut off with everything below it. -/
theorem Lists.remove_eq (h : c.Lists f) (hs : s ∈ c.features) :
    c.remove s.id =
      .ok ({ c with
          features := ((f.detach s.id).numbered none 0).flatten
          services := dropFromServices ((f.numbered none 0).branch s.id).flatten
            c.services }.refreshCrs,
        ((f.numbered none 0).branch s.id).flatten) := by
  obtain ⟨place, before, after, below, hplace, hcut, -, hrest, -⟩ := h.exists_cut hs
  have hmem := h.mem_ids hs
  have hrenumbered : renumbered none 0 (before ++ after) =
      .ok ((f.detach s.id).numbered none 0).flatten := by
    rw [hrest, Forest.renumbered_flatten ((Forest.leveled_numbered f none 0).detach s.id),
      Forest.numbered_detach]
  have hcommit := commit_of_perm (c := c) (Forest.nodup_ids_detach hmem h.nodup) (List.Perm.refl _)
  simp only [remove, hplace, hcut, hrenumbered, ok_bind, hcommit]
  rfl

/-! ### Switching -/

/-- Validity looks at identifiers and folders only. -/
theorem validateFrom_congr {rs ss : List Resource}
    (h : rs.map (fun r => (r.id, r.folder)) = ss.map fun r => (r.id, r.folder))
    (seen : List Resource.Id) (previous : Option FolderPath) (index : Nat) :
    validateFrom seen previous index rs = validateFrom seen previous index ss := by
  induction rs generalizing ss seen previous index with
  | nil =>
      obtain rfl : ss = [] := by simpa using h.symm
      rfl
  | cons r rs ih =>
      cases ss with
      | nil => simp at h
      | cons s ss =>
          simp only [List.map_cons, List.cons.injEq, Prod.mk.injEq] at h
          obtain ⟨⟨hid, hfolder⟩, htail⟩ := h
          simp only [validateFrom, hid, hfolder, ih htail]

section Switched

variable {β : Type} {g : Resource → β} (hg : ∀ r active, g (r.switched active) = g r)

include hg

theorem map_switchSubtree (active : Bool) (folder : FolderPath) (rs : List Resource) :
    (switchSubtree active folder rs).map g = rs.map g := by
  rw [switchSubtree, List.map_map]
  apply List.map_congr_left
  intro r _
  simp only [Function.comp_apply]
  split
  · exact hg r active
  · rfl

theorem map_promote (rs : List Resource) (folders : List FolderPath) :
    (promote rs folders).map g = rs.map g := by
  induction folders generalizing rs with
  | nil => rfl
  | cons p ps ih =>
      simp only [promote]
      split
      · rw [ih, map_switchSubtree hg]
      · rfl

theorem map_demote (folder : FolderPath) (rs : List Resource) :
    (demote folder rs).map g = rs.map g := by
  rw [demote, List.map_map]
  apply List.map_congr_left
  intro r _
  simp only [Function.comp_apply]
  split
  · exact hg r false
  · rfl

/-- Switching leaves everything alone but the switches. -/
theorem map_activated (folder : FolderPath) (active : Bool) (rs : List Resource) :
    (activated folder active rs).map g = rs.map g := by
  simp only [activated]
  split
  · rw [map_promote hg, map_switchSubtree hg]
  · rw [map_demote hg, map_switchSubtree hg]

end Switched

theorem validate_activated (folder : FolderPath) (active : Bool) (rs : List Resource) :
    validate (activated folder active rs) = validate rs :=
  validateFrom_congr (map_activated (fun _ _ => rfl) folder active rs) [] none 0

end Context

end MapContext
