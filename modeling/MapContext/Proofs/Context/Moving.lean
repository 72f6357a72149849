import MapContext.Proofs.Context.Listed

/-!
# A move is surgery on the forest

A move closes the place that the branch leaves, opens another one and renumbers the branch. Its
result is the listing of the forest after the branch was transplanted; nothing happens exactly if
that is the forest it started from.
-/

namespace MapContext

namespace Context

open FolderPath

variable {c : Context} {f : Forest} {s t : Resource} {position : Position}

/-- What is not below the source stays when the source is cut off. -/
theorem Lists.mem_detach_ids (h : c.Lists f) (hs : s ∈ c.features) (ht : t ∈ c.features)
    (hne : t.id ≠ s.id) (hbelow : ¬Within (some s.folder) 0 t.folder) :
    t.id ∈ (f.detach s.id).ids := by
  obtain ⟨-, -, -, below, -, -, hbranch, -⟩ := h.exists_cut hs
  have hparts := Forest.detach_append_branch_perm (h.mem_numbered_ids hs) h.numbered_nodup
  rw [h.flatten_eq, hbranch, Forest.flatten_tree, Forest.flatten_nil, List.append_nil] at hparts
  rcases List.mem_append.mp (hparts.mem_iff.mpr ht) with hin | hin
  · rw [← Forest.ids_numbered_detach f s.id none 0]
    exact Forest.id_mem_ids hin
  · rcases List.mem_cons.mp hin with rfl | hin
    · exact absurd rfl hne
    · exact absurd (Forest.within_of_mem hin) hbelow

theorem Lists.detach_size_le (h : c.Lists f) (hs : s ∈ c.features) :
    (f.detach s.id).size ≤ c.features.length := by
  have hmem := h.mem_ids hs
  have hparts := (Forest.detach_append_branch_perm hmem h.nodup).length_eq
  rw [← h.size_eq, Forest.size_eq_length, Forest.size_eq_length, ← hparts, List.length_append]
  exact Nat.le_add_right _ _

theorem Lists.nodup_transplant (h : c.Lists f) (hs : s ∈ c.features)
    (ht : t.id ∈ (f.detach s.id).ids) (position : Position) :
    (f.transplant s.id t.id position).ids.Nodup := by
  have hmem := h.mem_ids hs
  have hperm := (Forest.transplant_perm hmem ht h.nodup position).map fun r : Resource => r.id
  exact hperm.nodup_iff.mpr h.nodup

/-- Opening a place for the branch and putting it there lists the forest after surgery. -/
theorem Lists.staged_perm (h : c.Lists f) (hfits : c.Fits)
    (hs : s ∈ c.features) {t' : Resource}
    (ht : t' ∈ ((f.detach s.id).numbered none 0).flatten) {slot : Option FolderPath} {k : Nat}
    (hslot : destination ((f.detach s.id).numbered none 0).flatten t'.folder position = (slot, k)) :
    (shiftSiblings .up slot k ((f.detach s.id).numbered none 0).flatten ++
        ((f.branch s.id).numbered slot k).flatten).Perm
      ((f.transplant s.id t'.id position).numbered none 0).flatten := by
  have hmem := h.mem_ids hs
  have hwidth : (f.branch s.id).width = 1 := by
    obtain ⟨r, below, -, hbranch⟩ := Forest.exists_branch_eq hmem h.nodup
    simp [hbranch]
  have hsize := Nat.le_trans (h.detach_size_le hs) hfits
  exact Forest.shiftSiblings_up_graft ht (Forest.nodup_ids_detach hmem h.nodup) hwidth (by omega)
    hslot

/-- If the branch gets the place that it had, the forest after surgery is the one before. -/
theorem Lists.transplant_eq_self (h : c.Lists f) (hfits : c.Fits)
    (hs : s ∈ c.features) {t' : Resource}
    (ht : t' ∈ ((f.detach s.id).numbered none 0).flatten) {slot : Option FolderPath} {k : Nat}
    (hslot : destination ((f.detach s.id).numbered none 0).flatten t'.folder position = (slot, k))
    (hplace : under slot k = s.folder) :
    (f.transplant s.id t'.id position).numbered none 0 = f.numbered none 0 := by
  obtain ⟨-, before, after, below, -, -, hbranch, hrest, hout⟩ := h.exists_cut hs
  have hmem := h.mem_numbered_ids hs
  have hold := Forest.detach_append_branch_perm hmem h.numbered_nodup
  -- the place that was closed is opened again
  have hreopen : shiftSiblings .up slot k ((f.detach s.id).numbered none 0).flatten =
      ((f.numbered none 0).detach s.id).flatten := by
    have hdown := Forest.shiftSiblings_down_detach (h.flatten_eq ▸ hs) h.nodup
    rw [← hdown, ← hplace, parent?_under, index_under]
    apply shiftSiblings_up_down
    intro r hr j rest hj
    constructor
    · rintro rfl
      obtain ⟨hne, hbelow⟩ := hout r (hrest ▸ hr)
      rw [← hplace] at hne hbelow
      cases rest with
      | nil => exact hne (eq_of_segments hj)
      | cons i rest => exact hbelow ⟨i, rest, Nat.zero_le i, by simp [hj]⟩
    · have hfeature := hold.subset (List.mem_append_left _ hr)
      have hsegment : j ∈ r.folder.segments := by simp [hj]
      rcases Forest.mem_segments_of_mem hfeature hsegment with h' | h'
      · simp at h'
      · rw [Nat.zero_add, h.size_eq] at h'
        exact Nat.le_trans (Nat.le_of_lt h') hfits
  have hbranch : ((f.branch s.id).numbered slot k).flatten =
      ((f.numbered none 0).branch s.id).flatten := by
    rw [← Forest.numbered_branch f s.id slot none k 0, hbranch, Forest.numbered_tree,
      Forest.numbered_numbered, hplace]
    rfl
  have hperm := h.staged_perm hfits hs ht hslot
  rw [hreopen, hbranch] at hperm
  apply Forest.numbered_eq_of_flatten_eq
  rw [← Forest.mergeSort_of_perm hperm, Forest.mergeSort_of_perm hold]

/-- Renumbering the branch never fails. -/
theorem Lists.renumbered_branch (h : c.Lists f) (hs : s ∈ c.features) (slot : Option FolderPath)
    (k : Nat) :
    renumbered slot k ((f.numbered none 0).branch s.id).flatten =
      .ok ((f.branch s.id).numbered slot k).flatten := by
  obtain ⟨d, hd⟩ := (Forest.leveled_numbered f none 0).exists_branch (h.mem_numbered_ids hs)
    h.numbered_nodup
  rw [Forest.renumbered_flatten hd, Forest.numbered_branch]

/-- The result of a move, in terms of the new folder of the source. -/
theorem Lists.exists_moveSubtree (h : c.Lists f) (hfits : c.Fits)
    (hs : s ∈ c.features) {target : Resource.Id} (ht : target ∈ (f.detach s.id).ids)
    {place : Nat} (hplace : c.position? s.id = some place) (position : Position) :
    ∃ result : FolderPath,
      s.atFolder result ∈ ((f.transplant s.id target position).numbered none 0).flatten ∧
      (result = s.folder →
        (f.transplant s.id target position).numbered none 0 = f.numbered none 0) ∧
      c.moveSubtree place s target position =
        if result = s.folder then .ok (c, .unchanged)
        else
          .ok ({ c with
              features := ((f.transplant s.id target position).numbered none 0).flatten },
            .moved s.folder result) := by
  obtain ⟨place', before, after, below, hplace', hcut, hbranch, hrest, -⟩ := h.exists_cut hs
  obtain rfl : place' = place := Option.some.inj (hplace'.symm.trans hplace)
  have hdown := Forest.shiftSiblings_down_detach (h.flatten_eq ▸ hs) h.nodup
  rw [← hrest] at hdown
  -- the target is still there
  obtain ⟨t, hfind⟩ : ∃ t, ((f.detach s.id).numbered none 0).flatten.find? (·.id == target) =
      some t := by
    rw [← Option.isSome_iff_exists, List.find?_isSome]
    rw [← Forest.ids_numbered none 0, Forest.ids, List.mem_map] at ht
    obtain ⟨t, hmem, hid⟩ := ht
    exact ⟨t, hmem, by simpa using hid⟩
  have htmem := List.mem_of_find?_eq_some hfind
  obtain rfl : t.id = target := by simpa using List.find?_some hfind
  obtain ⟨slot, k, hslot⟩ : ∃ slot k,
      destination ((f.detach s.id).numbered none 0).flatten t.folder position = (slot, k) :=
    ⟨_, _, rfl⟩
  have hperm := h.staged_perm hfits hs htmem hslot
  refine ⟨under slot k, ?_, h.transplant_eq_self hfits hs htmem hslot, ?_⟩
  · apply hperm.subset
    rw [← Forest.numbered_branch f s.id slot none k 0, hbranch]
    simp
  · have hcommit := commit_of_perm (c := c) (h.nodup_transplant hs ht position) hperm
    simp only [moveSubtree, hcut, hdown, hfind, hslot, h.renumbered_branch hs, ok_bind, hcommit]
    rfl

end Context

end MapContext
