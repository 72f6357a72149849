import MapContext.Proofs.Forest.Grafting

/-!
# Transplanted branches

Surgery keeps every resource as it is: it only takes a contiguous part out of the listing and puts
it back elsewhere. The edges of the forest stay the same but for the one above the branch.
-/

namespace MapContext

/-- Whether a listing is split at a position relative to a resource: right before it, after it and
everything below it, or right after it. -/
def Position.Splits (position : Position) (t : Resource) (below before after : List Resource) :
    Prop :=
  match position with
  | .left => ∃ rest, after = t :: (below ++ rest)
  | .firstChild => ∃ front, before = front ++ [t]
  | .right | .lastChild => ∃ front, before = front ++ t :: below

namespace Position.Splits

variable {position : Position} {t : Resource} {below before after : List Resource}

theorem prepend (h : position.Splits t below before after) (front : List Resource) :
    position.Splits t below (front ++ before) after := by
  cases position with
  | left => exact h
  | right | firstChild | lastChild =>
      obtain ⟨first, rfl⟩ := h
      exact ⟨front ++ first, (List.append_assoc _ _ _).symm⟩

theorem append (h : position.Splits t below before after) (rest : List Resource) :
    position.Splits t below before (after ++ rest) := by
  cases position with
  | left =>
      obtain ⟨last, rfl⟩ := h
      exact ⟨last ++ rest, by simp⟩
  | right | firstChild | lastChild => exact h

end Position.Splits

namespace Forest

open Context FolderPath

variable {f g : Forest} {id source target : Resource.Id}

/-- Numbering does not interfere with taking a branch. -/
theorem numbered_branch (f : Forest) (id : Resource.Id) (parent parent' : Option FolderPath)
    (i i' : Nat) :
    ((f.numbered parent' i').branch id).numbered parent i = (f.branch id).numbered parent i := by
  induction f generalizing parent parent' i i' with
  | nil => rfl
  | tree r below rest ihb ihr =>
      by_cases hr : r.id = id
      · simp [branch, hr]
      · have hwidth : ((below.numbered (some (under parent' i')) 0).branch id).width =
            (below.branch id).width := by
          rw [← width_numbered parent i, ihb, width_numbered]
        simp [branch, hr, numbered_append, ihb, ihr, hwidth]

theorem ids_numbered_detach (f : Forest) (id : Resource.Id) (parent : Option FolderPath)
    (i : Nat) : ((f.numbered parent i).detach id).ids = (f.detach id).ids := by
  rw [← ids_numbered parent i, numbered_detach, ids_numbered]

/-! ### Listings -/

/-- A branch is a contiguous part of the listing, and cutting it off takes that part out. -/
theorem exists_flatten_branch (h : id ∈ f.ids) (hids : f.ids.Nodup) :
    ∃ before after, f.flatten = before ++ (f.branch id).flatten ++ after ∧
      (f.detach id).flatten = before ++ after := by
  induction f with
  | nil => simp at h
  | tree r below rest ihb ihr =>
      rcases mem_ids_cases hids h with rfl | ⟨hr, hb, hn⟩ | ⟨hr, hb, hn⟩
      · exact ⟨[], rest.flatten, by simp [branch], by simp [detach]⟩
      · obtain ⟨before, after, hsplit, hdetach⟩ := ihb hb (nodup_ids_below hids)
        refine ⟨r :: before, after ++ rest.flatten, ?_, ?_⟩
        · simp [branch, hr, branch_of_not_mem hn, hsplit]
        · simp [detach, hr, detach_of_not_mem hn, hdetach]
      · obtain ⟨before, after, hsplit, hdetach⟩ := ihr hn (nodup_ids_rest hids)
        refine ⟨r :: (below.flatten ++ before), after, ?_, ?_⟩
        · simp [branch, hr, branch_of_not_mem hb, hsplit]
        · simp [detach, hr, detach_of_not_mem hb, hdetach]

/-- Grafting splits the listing at the position, and puts the listing of the new trees there. -/
theorem exists_split_graft (g : Forest) (h : target ∈ f.ids) (hids : f.ids.Nodup)
    (position : Position) :
    ∃ t below before after, t.id = target ∧ f.branch target = tree t below nil ∧
      f.flatten = before ++ after ∧
      (f.graft target position g).flatten = before ++ (g.flatten ++ after) ∧
      position.Splits t below.flatten before after := by
  induction f with
  | nil => simp at h
  | tree r below rest ihb ihr =>
      rcases mem_ids_cases hids h with rfl | ⟨hr, hb, hn⟩ | ⟨hr, hb, hn⟩
      · have hbranch : (tree r below rest).branch r.id = tree r below nil := if_pos rfl
        cases position with
        | left =>
            exact ⟨r, below, [], r :: (below.flatten ++ rest.flatten), rfl, hbranch, rfl,
              by simp [graft], rest.flatten, rfl⟩
        | right =>
            exact ⟨r, below, r :: below.flatten, rest.flatten, rfl, hbranch, rfl,
              by simp [graft], [], rfl⟩
        | firstChild =>
            exact ⟨r, below, [r], below.flatten ++ rest.flatten, rfl, hbranch, rfl,
              by simp [graft], [], rfl⟩
        | lastChild =>
            exact ⟨r, below, r :: below.flatten, rest.flatten, rfl, hbranch, rfl,
              by simp [graft], [], rfl⟩
      · obtain ⟨t, inner, before, after, ht, hbranch, hflatten, hgraft, hsplits⟩ :=
          ihb hb (nodup_ids_below hids)
        refine ⟨t, inner, r :: before, after ++ rest.flatten, ht, ?_, ?_, ?_, ?_⟩
        · simp [branch, hr, hbranch, branch_of_not_mem hn]
        · simp [hflatten]
        · simp [graft, hr, graft_of_not_mem hn, hgraft]
        · exact (hsplits.append _).prepend [r]
      · obtain ⟨t, inner, before, after, ht, hbranch, hflatten, hgraft, hsplits⟩ :=
          ihr hn (nodup_ids_rest hids)
        refine ⟨t, inner, r :: below.flatten ++ before, after, ht, ?_, ?_, ?_, ?_⟩
        · simp [branch, hr, hbranch, branch_of_not_mem hb]
        · simp [hflatten]
        · simp [graft, hr, graft_of_not_mem hb, hgraft]
        · exact hsplits.prepend (r :: below.flatten)

theorem exists_flatten_graft (g : Forest) (h : target ∈ f.ids) (hids : f.ids.Nodup)
    (position : Position) :
    ∃ before after, f.flatten = before ++ after ∧
      (f.graft target position g).flatten = before ++ g.flatten ++ after := by
  obtain ⟨-, -, before, after, -, -, hflatten, hgraft, -⟩ := exists_split_graft g h hids position
  exact ⟨before, after, hflatten, by rw [hgraft, List.append_assoc]⟩

theorem detach_append_branch_perm (h : id ∈ f.ids) (hids : f.ids.Nodup) :
    ((f.detach id).flatten ++ (f.branch id).flatten).Perm f.flatten := by
  obtain ⟨before, after, hsplit, hdetach⟩ := exists_flatten_branch h hids
  rw [hsplit, hdetach]
  exact append_swap before after _

theorem graft_perm (g : Forest) (h : target ∈ f.ids) (hids : f.ids.Nodup) (position : Position) :
    (f.graft target position g).flatten.Perm (f.flatten ++ g.flatten) := by
  obtain ⟨before, after, hsplit, hgraft⟩ := exists_flatten_graft g h hids position
  rw [hsplit, hgraft]
  exact append_swap before _ after

theorem nodup_ids_detach (h : id ∈ f.ids) (hids : f.ids.Nodup) : (f.detach id).ids.Nodup := by
  have hparts := (detach_append_branch_perm h hids).map fun r : Resource => r.id
  rw [List.map_append] at hparts
  exact (hparts.nodup_iff.mpr hids).of_append_left

/-- Surgery loses no resource, adds none and changes none. -/
theorem transplant_perm (hsource : source ∈ f.ids) (htarget : target ∈ (f.detach source).ids)
    (hids : f.ids.Nodup) (position : Position) :
    (f.transplant source target position).flatten.Perm f.flatten :=
  (graft_perm _ htarget (nodup_ids_detach hsource hids) position).trans
    (detach_append_branch_perm hsource hids)

/-- A part with members of its own can be told from what is around it. -/
theorem filter_part {before part after : List Resource.Id}
    (h : (before ++ after).Disjoint part) :
    (before ++ part ++ after).filter (· ∉ part) = before ++ after ∧
      (before ++ part ++ after).filter (· ∈ part) = part := by
  have hout : (before ++ after).filter (· ∉ part) = before ++ after :=
    List.filter_eq_self.mpr fun a ha => decide_eq_true (h ha)
  have hin : (before ++ after).filter (· ∈ part) = [] :=
    List.filter_eq_nil_iff.mpr fun a ha => by simpa using h ha
  have hself : part.filter (· ∉ part) = [] := List.filter_eq_nil_iff.mpr (by simp)
  have hself' : part.filter (· ∈ part) = part := List.filter_eq_self.mpr (by simp)
  rw [List.filter_append] at hout hin
  rw [List.append_eq_nil_iff] at hin
  simp only [List.filter_append, hself, hself', hin.1, hin.2, List.append_nil, List.nil_append,
    hout, and_self]

/-- What is not in the branch keeps its order, and so does what is in it. -/
theorem transplant_order (hsource : source ∈ f.ids) (htarget : target ∈ (f.detach source).ids)
    (hids : f.ids.Nodup) (position : Position) :
    (f.transplant source target position).ids.filter (· ∉ (f.branch source).ids) =
        f.ids.filter (· ∉ (f.branch source).ids) ∧
      (f.transplant source target position).ids.filter (· ∈ (f.branch source).ids) =
        f.ids.filter (· ∈ (f.branch source).ids) := by
  obtain ⟨before, after, hsplit, hdetach⟩ := exists_flatten_branch hsource hids
  obtain ⟨before', after', hsplit', hgraft⟩ := exists_flatten_graft (f.branch source) htarget
    (nodup_ids_detach hsource hids) position
  have hdisjoint : ((f.detach source).ids).Disjoint (f.branch source).ids := by
    have hparts := (detach_append_branch_perm hsource hids).map fun r : Resource => r.id
    rw [List.map_append] at hparts
    exact List.disjoint_of_nodup_append (hparts.nodup_iff.mpr hids)
  have hold : f.ids = before.map (·.id) ++ (f.branch source).ids ++ after.map (·.id) := by
    simp [ids, hsplit]
  have hnew : (f.transplant source target position).ids =
      before'.map (·.id) ++ (f.branch source).ids ++ after'.map (·.id) := by
    simp [ids, transplant, hgraft]
  have houter : (f.detach source).ids = before.map (·.id) ++ after.map (·.id) := by
    simp [ids, hdetach]
  have houter' : (f.detach source).ids = before'.map (·.id) ++ after'.map (·.id) := by
    simp [ids, hsplit']
  obtain ⟨hout, hin⟩ := filter_part (houter ▸ hdisjoint)
  obtain ⟨hout', hin'⟩ := filter_part (houter' ▸ hdisjoint)
  rw [hold, hnew, hout, hin, hout', hin', ← houter, ← houter']
  exact ⟨rfl, rfl⟩

/-! ### Edges -/

/-- Every resource with the one above it, in document order. -/
def edges (above : Option Resource.Id) : Forest → List (Resource.Id × Option Resource.Id)
  | nil => []
  | tree r below rest => (r.id, above) :: (below.edges (some r.id) ++ rest.edges above)

theorem edges_append (above : Option Resource.Id) (f g : Forest) :
    (f ++ g).edges above = f.edges above ++ g.edges above := by
  induction f with
  | nil => rfl
  | tree r below rest _ ih => simp [edges, ih]

theorem map_fst_edges (above : Option Resource.Id) (f : Forest) :
    (f.edges above).map (·.1) = f.ids := by
  induction f generalizing above with
  | nil => rfl
  | tree r below rest ihb ihr => simp [edges, ihb, ihr]

/-- Cutting off takes the edges of the branch away. -/
theorem exists_edges_branch (h : id ∈ f.ids) (hids : f.ids.Nodup) (above : Option Resource.Id) :
    ∃ old, (f.edges above).Perm ((f.detach id).edges above ++ (f.branch id).edges old) := by
  induction f generalizing above with
  | nil => simp at h
  | tree r below rest ihb ihr =>
      rcases mem_ids_cases hids h with rfl | ⟨hr, hb, hn⟩ | ⟨hr, hb, hn⟩
      · refine ⟨above, ?_⟩
        simp only [branch, detach, if_true, edges, List.append_nil]
        rw [← List.cons_append]
        exact List.perm_append_comm
      · obtain ⟨old, hold⟩ := ihb hb (nodup_ids_below hids) (some r.id)
        refine ⟨old, ?_⟩
        simp only [branch, hr, if_false, detach, detach_of_not_mem hn, branch_of_not_mem hn,
          append_nil, edges, List.cons_append]
        have := (hold.append_right (rest.edges above)).trans (append_swap _ _ _)
        exact this.cons _
      · obtain ⟨old, hold⟩ := ihr hn (nodup_ids_rest hids) above
        refine ⟨old, ?_⟩
        simp only [branch, hr, if_false, detach, detach_of_not_mem hb, branch_of_not_mem hb,
          nil_append, edges, List.cons_append, List.append_assoc]
        exact (hold.append_left _).cons _

/-- Grafting adds the edges of the new trees below one resource. -/
theorem exists_edges_graft (g : Forest) (h : target ∈ f.ids) (hids : f.ids.Nodup)
    (position : Position) (above : Option Resource.Id) :
    ∃ new, ((f.graft target position g).edges above).Perm (f.edges above ++ g.edges new) := by
  induction f generalizing above with
  | nil => simp at h
  | tree r below rest ihb ihr =>
      rcases mem_ids_cases hids h with rfl | ⟨hr, hb, hn⟩ | ⟨hr, hb, hn⟩
      · cases position with
        | left =>
            refine ⟨above, ?_⟩
            simp only [graft, if_true, edges_append]
            exact List.perm_append_comm
        | right =>
            refine ⟨above, ?_⟩
            simp only [graft, if_true, edges, edges_append, List.cons_append, List.append_assoc]
            exact (List.perm_append_comm.append_left _).cons _
        | firstChild =>
            refine ⟨some r.id, ?_⟩
            simp only [graft, if_true, edges, edges_append, List.cons_append]
            rw [List.append_assoc]
            exact List.perm_append_comm.cons _
        | lastChild =>
            refine ⟨some r.id, ?_⟩
            simp only [graft, if_true, edges, edges_append, List.cons_append]
            exact (append_swap _ _ _).cons _
      · obtain ⟨new, hnew⟩ := ihb hb (nodup_ids_below hids) (some r.id)
        refine ⟨new, ?_⟩
        simp only [graft, hr, if_false, graft_of_not_mem hn, edges, List.cons_append]
        exact ((hnew.append_right _).trans (append_swap _ _ _)).cons _
      · obtain ⟨new, hnew⟩ := ihr hn (nodup_ids_rest hids) above
        refine ⟨new, ?_⟩
        simp only [graft, hr, if_false, graft_of_not_mem hb, edges, List.cons_append,
          List.append_assoc]
        exact (hnew.append_left _).cons _

/-- A branch is one tree. -/
theorem exists_branch_eq (h : id ∈ f.ids) (hids : f.ids.Nodup) :
    ∃ r below, r.id = id ∧ f.branch id = tree r below nil := by
  induction f with
  | nil => simp at h
  | tree r below rest ihb ihr =>
      rcases mem_ids_cases hids h with rfl | ⟨hr, hb, hn⟩ | ⟨hr, hb, hn⟩
      · exact ⟨r, below, rfl, by simp [branch]⟩
      · obtain ⟨s, inner, hs, hbranch⟩ := ihb hb (nodup_ids_below hids)
        exact ⟨s, inner, hs, by simp [branch, hr, hbranch, branch_of_not_mem hn]⟩
      · obtain ⟨s, inner, hs, hbranch⟩ := ihr hn (nodup_ids_rest hids)
        exact ⟨s, inner, hs, by simp [branch, hr, hbranch, branch_of_not_mem hb]⟩

/-- Surgery changes no edge but the one above the branch. -/
theorem transplant_edges (hsource : source ∈ f.ids) (htarget : target ∈ (f.detach source).ids)
    (hids : f.ids.Nodup) (position : Position) :
    (((f.transplant source target position).edges none).filter (·.1 ≠ source)).Perm
      ((f.edges none).filter (·.1 ≠ source)) := by
  obtain ⟨old, hold⟩ := exists_edges_branch hsource hids none
  obtain ⟨new, hnew⟩ := exists_edges_graft (f.branch source) htarget
    (nodup_ids_detach hsource hids) position none
  obtain ⟨r, below, rfl, hbranch⟩ := exists_branch_eq hsource hids
  have hinner (above : Option Resource.Id) :
      ((f.branch r.id).edges above).filter (·.1 ≠ r.id) =
        (below.edges (some r.id)).filter (·.1 ≠ r.id) := by
    simp [hbranch, edges]
  calc
    (((f.transplant r.id target position).edges none).filter (·.1 ≠ r.id)).Perm
        (((f.detach r.id).edges none ++ (f.branch r.id).edges new).filter (·.1 ≠ r.id)) :=
      hnew.filter _
    _ = ((f.detach r.id).edges none ++ (f.branch r.id).edges old).filter (·.1 ≠ r.id) := by
      rw [List.filter_append, List.filter_append, hinner, hinner]
    List.Perm _ ((f.edges none).filter (·.1 ≠ r.id)) := (hold.filter _).symm

end Forest

end MapContext
