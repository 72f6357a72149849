import MapContext.Proofs.Forest.Transplant

/-!
# Grafting one tree

Cutting off a tree that was grafted on gives back the forest and the tree, so a branch that was
transplanted can be transplanted again as if it had not been. A resource without anything below it
is grafted on as a leaf, and has the parent that its position asks for.
-/

namespace MapContext

namespace Forest

open Context FolderPath

variable {f g : Forest} {r : Resource} {id source target : Resource.Id} {position : Position}

theorem graft_of_ne {below rest : Forest} (h : r.id ≠ target) :
    (tree r below rest).graft target position g =
      tree r (below.graft target position g) (rest.graft target position g) := by
  simp [graft, h]

/-! ### Cutting off again -/

theorem detach_append (h : id ∉ f.ids) (g : Forest) :
    (f ++ g).detach id = f ++ g.detach id := by
  induction f with
  | nil => rfl
  | tree r below rest _ ih =>
      simp only [ids_tree, List.mem_cons, List.mem_append, not_or] at h
      obtain ⟨hr, hb, hn⟩ := h
      simp [detach, Ne.symm hr, detach_of_not_mem hb, ih hn]

theorem branch_append (h : id ∉ f.ids) (g : Forest) : (f ++ g).branch id = g.branch id := by
  induction f with
  | nil => rfl
  | tree r below rest _ ih =>
      simp only [ids_tree, List.mem_cons, List.mem_append, not_or] at h
      obtain ⟨hr, hb, hn⟩ := h
      simp [branch, Ne.symm hr, branch_of_not_mem hb, ih hn]

@[simp] theorem detach_root (r : Resource) (below rest : Forest) :
    (tree r below rest).detach r.id = rest := if_pos rfl

@[simp] theorem branch_root (r : Resource) (below rest : Forest) :
    (tree r below rest).branch r.id = tree r below nil := if_pos rfl

/-- Cutting a grafted tree off again undoes the graft, also where the target is not found. -/
theorem detach_graft (h : r.id ∉ f.ids) (inner : Forest) (target : Resource.Id)
    (position : Position) : (f.graft target position (tree r inner nil)).detach r.id = f := by
  induction f with
  | nil => rfl
  | tree a below rest ihb ihr =>
      simp only [ids_tree, List.mem_cons, List.mem_append, not_or] at h
      obtain ⟨ha, hb, hn⟩ := h
      have ha : a.id ≠ r.id := Ne.symm ha
      by_cases htarget : a.id = target
      · subst htarget
        cases position with
        | left => simp [graft]
        | right => simp [graft, detach, ha, detach_of_not_mem hb]
        | firstChild => simp [graft, detach, ha, detach_of_not_mem hn]
        | lastChild => simp [graft, detach, ha, detach_append hb, detach_of_not_mem hn]
      · rw [graft_of_ne htarget, detach, if_neg ha, ihb hb, ihr hn]

/-- A grafted tree is a branch of its own. -/
theorem branch_graft (h : r.id ∉ f.ids) (inner : Forest) (htarget : target ∈ f.ids)
    (hids : f.ids.Nodup) (position : Position) :
    (f.graft target position (tree r inner nil)).branch r.id = tree r inner nil := by
  induction f with
  | nil => simp at htarget
  | tree a below rest ihb ihr =>
      simp only [ids_tree, List.mem_cons, List.mem_append, not_or] at h
      obtain ⟨ha, hb, hn⟩ := h
      have ha : a.id ≠ r.id := Ne.symm ha
      rcases mem_ids_cases hids htarget with rfl | ⟨hne, hin, hnot⟩ | ⟨hne, hnot, hin⟩
      · cases position with
        | left => simp [graft]
        | right => simp [graft, branch, ha, branch_of_not_mem hb]
        | firstChild => simp [graft, branch, ha, branch_of_not_mem hn]
        | lastChild => simp [graft, branch, ha, branch_append hb, branch_of_not_mem hn]
      · rw [graft_of_ne hne, branch, if_neg ha, ihb hb hin (nodup_ids_below hids),
          graft_of_not_mem hnot, branch_of_not_mem hn, append_nil]
      · rw [graft_of_ne hne, branch, if_neg ha, ihr hn hin (nodup_ids_rest hids),
          graft_of_not_mem hnot, branch_of_not_mem hb, nil_append]

/-! ### Transplanting again -/

theorem not_mem_ids_detach (h : id ∈ f.ids) (hids : f.ids.Nodup) : id ∉ (f.detach id).ids := by
  obtain ⟨r, below, rfl, hbranch⟩ := exists_branch_eq h hids
  have hparts := (detach_append_branch_perm h hids).map fun r : Resource => r.id
  have hnodup := hparts.nodup_iff.mpr hids
  rw [List.map_append, hbranch, List.nodup_append] at hnodup
  intro hmem
  exact hnodup.2.2 _ hmem _ (by simp) rfl

theorem detach_transplant (hsource : source ∈ f.ids) (hids : f.ids.Nodup) (target : Resource.Id)
    (position : Position) : (f.transplant source target position).detach source =
      f.detach source := by
  have hnot := not_mem_ids_detach hsource hids
  obtain ⟨r, below, rfl, hbranch⟩ := exists_branch_eq hsource hids
  rw [transplant, hbranch]
  exact detach_graft hnot below target position

theorem branch_transplant (hsource : source ∈ f.ids) (htarget : target ∈ (f.detach source).ids)
    (hids : f.ids.Nodup) (position : Position) :
    (f.transplant source target position).branch source = f.branch source := by
  have hnot := not_mem_ids_detach hsource hids
  have hnodup := nodup_ids_detach hsource hids
  obtain ⟨r, below, rfl, hbranch⟩ := exists_branch_eq hsource hids
  rw [transplant, hbranch]
  exact branch_graft hnot below htarget hnodup position

/-- Of two transplantations of one branch only the last one counts. -/
theorem transplant_transplant (hsource : source ∈ f.ids) (htarget : target ∈ (f.detach source).ids)
    (hids : f.ids.Nodup) (position : Position) (target' : Resource.Id) (position' : Position) :
    (f.transplant source target position).transplant source target' position' =
      f.transplant source target' position' := by
  rw [transplant, detach_transplant hsource hids, branch_transplant hsource htarget hids]
  rfl

/-! ### The parent -/

/-- Beside a resource a leaf has the parent of that resource, and below it that resource. -/
theorem mem_edges_graft_leaf {above parent : Option Resource.Id} (hids : f.ids.Nodup)
    (h : (target, parent) ∈ f.edges above) (r : Resource) (position : Position) :
    (r.id, if position = .left ∨ position = .right then parent else some target) ∈
      (f.graft target position (tree r nil nil)).edges above := by
  induction f generalizing above with
  | nil => cases h
  | tree a below rest ihb ihr =>
      have hmem : target ∈ (tree a below rest).ids := by
        rw [← map_fst_edges above]
        exact List.mem_map_of_mem h
      have hkeys : (((tree a below rest).edges above).map (·.1)).Nodup := by
        rw [map_fst_edges]
        exact hids
      have hnone {g : Forest} {above : Option Resource.Id} (hg : target ∉ g.ids) :
          (target, parent) ∉ g.edges above := by
        intro hin
        rw [← map_fst_edges above] at hg
        exact hg (List.mem_map_of_mem hin)
      rcases mem_ids_cases hids hmem with rfl | ⟨hne, -, hnot⟩ | ⟨hne, hnot, -⟩
      · have hroot := List.inj_on_of_nodup_map hkeys h List.mem_cons_self rfl
        obtain rfl : parent = above := congrArg Prod.snd hroot
        cases position <;> simp [graft, edges, edges_append]
      · have hin : (target, parent) ∈ below.edges (some a.id) := by
          simpa [edges, Ne.symm hne, hnone hnot] using h
        rw [graft_of_ne hne, edges, List.mem_cons, List.mem_append]
        exact .inr (.inl (ihb (nodup_ids_below hids) hin))
      · have hin : (target, parent) ∈ rest.edges above := by
          simpa [edges, Ne.symm hne, hnone hnot] using h
        rw [graft_of_ne hne, edges, List.mem_cons, List.mem_append]
        exact .inr (.inr (ihr (nodup_ids_rest hids) hin))

end Forest

end MapContext
