import MapContext.Proofs.Forest.Siblings

/-!
# Surgery on forests

A branch is cut off with everything below it, and grafted on at a position relative to another
resource. Nothing here looks at folders: they are assigned afterwards, by numbering.
-/

namespace MapContext

namespace Forest

open Context FolderPath

/-- The tree of a resource, with everything below it. -/
def branch (id : Resource.Id) : Forest → Forest
  | nil => nil
  | tree r below rest =>
      if r.id = id then tree r below nil else below.branch id ++ rest.branch id

/-- The forest without the tree of a resource. -/
def detach (id : Resource.Id) : Forest → Forest
  | nil => nil
  | tree r below rest =>
      if r.id = id then rest else tree r (below.detach id) (rest.detach id)

/-- The forest with further trees at a position relative to a resource. -/
def graft (target : Resource.Id) (position : Position) : Forest → Forest → Forest
  | nil, _ => nil
  | tree r below rest, g =>
      if r.id = target then
        match position with
        | .left => g ++ tree r below rest
        | .right => tree r below (g ++ rest)
        | .firstChild => tree r (g ++ below) rest
        | .lastChild => tree r (below ++ g) rest
      else tree r (below.graft target position g) (rest.graft target position g)

/-- The forest after the tree of a resource was cut off and grafted on elsewhere. -/
def transplant (source target : Resource.Id) (position : Position) (f : Forest) : Forest :=
  (f.detach source).graft target position (f.branch source)

@[simp] theorem ids_nil : nil.ids = [] := rfl

@[simp] theorem ids_tree (r : Resource) (below rest : Forest) :
    (tree r below rest).ids = r.id :: (below.ids ++ rest.ids) := by
  simp [ids]

@[simp] theorem ids_append (f g : Forest) : (f ++ g).ids = f.ids ++ g.ids := by
  simp [ids]

theorem id_mem_ids {f : Forest} {r : Resource} (h : r ∈ f.flatten) : r.id ∈ f.ids :=
  List.mem_map_of_mem h

/-- Where identifiers differ, an identifier is that of the first root, or below it, or beside
it. -/
theorem mem_ids_cases {r : Resource} {below rest : Forest} {id : Resource.Id}
    (hids : (tree r below rest).ids.Nodup) (h : id ∈ (tree r below rest).ids) :
    r.id = id ∨ (r.id ≠ id ∧ id ∈ below.ids ∧ id ∉ rest.ids) ∨
      (r.id ≠ id ∧ id ∉ below.ids ∧ id ∈ rest.ids) := by
  simp only [ids_tree, List.mem_cons, List.mem_append] at h
  simp only [ids_tree, List.nodup_cons, List.mem_append, not_or, List.nodup_append] at hids
  obtain ⟨⟨hbelow, hrest⟩, -, -, hdisjoint⟩ := hids
  rcases h with rfl | h | h
  · exact .inl rfl
  · exact .inr (.inl ⟨fun heq => hbelow (heq ▸ h), h, fun h' => hdisjoint _ h _ h' rfl⟩)
  · exact .inr (.inr ⟨fun heq => hrest (heq ▸ h), fun h' => hdisjoint _ h' _ h rfl, h⟩)

theorem nodup_ids_below {r : Resource} {below rest : Forest}
    (hids : (tree r below rest).ids.Nodup) : below.ids.Nodup := by
  rw [ids_tree, List.nodup_cons] at hids
  exact hids.2.of_append_left

theorem nodup_ids_rest {r : Resource} {below rest : Forest}
    (hids : (tree r below rest).ids.Nodup) : rest.ids.Nodup := by
  rw [ids_tree, List.nodup_cons] at hids
  exact hids.2.of_append_right

/-- Where identifiers differ, a numbered resource is the first root, or stands below it, or beside
it. -/
theorem mem_flatten_cases {a s : Resource} {below rest : Forest} {parent : Option FolderPath}
    {i : Nat} (hs : s ∈ ((tree a below rest).numbered parent i).flatten)
    (hids : (tree a below rest).ids.Nodup) :
    s = a.atFolder (under parent i) ∨
      (s ∈ (below.numbered (some (under parent i)) 0).flatten ∧ a.id ≠ s.id ∧ s.id ∉ rest.ids) ∨
      (s ∈ (rest.numbered parent (i + 1)).flatten ∧ a.id ≠ s.id ∧ s.id ∉ below.ids) := by
  simp only [ids_tree, List.nodup_cons, List.mem_append, not_or, List.nodup_append] at hids
  obtain ⟨⟨hbelow, hrest⟩, -, -, hdisjoint⟩ := hids
  simp only [numbered_tree, flatten_tree, List.mem_cons, List.mem_append] at hs
  rcases hs with rfl | hs | hs
  · exact .inl rfl
  · have hmem : s.id ∈ below.ids := by simpa using id_mem_ids hs
    exact .inr (.inl ⟨hs, fun heq => hbelow (heq ▸ hmem), fun h => hdisjoint _ hmem _ h rfl⟩)
  · have hmem : s.id ∈ rest.ids := by simpa using id_mem_ids hs
    exact .inr (.inr ⟨hs, fun heq => hrest (heq ▸ hmem), fun h => hdisjoint _ h _ hmem rfl⟩)

theorem detach_of_not_mem {f : Forest} {id : Resource.Id} (h : id ∉ f.ids) : f.detach id = f := by
  induction f with
  | nil => rfl
  | tree r below rest ihb ihr =>
      simp only [ids_tree, List.mem_cons, List.mem_append, not_or] at h
      obtain ⟨hr, hb, hn⟩ := h
      simp [detach, Ne.symm hr, ihb hb, ihr hn]

theorem branch_of_not_mem {f : Forest} {id : Resource.Id} (h : id ∉ f.ids) : f.branch id = nil := by
  induction f with
  | nil => rfl
  | tree r below rest ihb ihr =>
      simp only [ids_tree, List.mem_cons, List.mem_append, not_or] at h
      obtain ⟨hr, hb, hn⟩ := h
      simp [branch, Ne.symm hr, ihb hb, ihr hn]

theorem graft_of_not_mem {f g : Forest} {target : Resource.Id} {position : Position}
    (h : target ∉ f.ids) : f.graft target position g = f := by
  induction f with
  | nil => rfl
  | tree r below rest ihb ihr =>
      simp only [ids_tree, List.mem_cons, List.mem_append, not_or] at h
      obtain ⟨hr, hb, hn⟩ := h
      simp [graft, Ne.symm hr, ihb hb, ihr hn]

/-- Numbering does not interfere with cutting off. -/
theorem numbered_detach (f : Forest) (id : Resource.Id) (parent parent' : Option FolderPath)
    (i i' : Nat) :
    ((f.numbered parent' i').detach id).numbered parent i = (f.detach id).numbered parent i := by
  induction f generalizing parent parent' i i' with
  | nil => rfl
  | tree r below rest ihb ihr =>
      by_cases hr : r.id = id
      · simp [detach, hr]
      · simp [detach, hr, ihb, ihr]

/-- The listing splits at a resource into what stands before it, its branch, and what stands
after it; nothing after it lies below it. -/
theorem exists_split {f : Forest} {parent : Option FolderPath} {i : Nat} {s : Resource}
    (hs : s ∈ (f.numbered parent i).flatten) (hids : f.ids.Nodup) :
    ∃ (before after : List Resource) (below : Forest),
      (f.numbered parent i).branch s.id = tree s (below.numbered (some s.folder) 0) nil ∧
      (f.numbered parent i).flatten =
        before ++ s :: ((below.numbered (some s.folder) 0).flatten ++ after) ∧
      ((f.numbered parent i).detach s.id).flatten = before ++ after ∧
      (∀ r ∈ after, ¬Within (some s.folder) 0 r.folder) := by
  induction f generalizing parent i with
  | nil => simp at hs
  | tree a below rest ihb ihr =>
      rcases mem_flatten_cases hs hids with rfl | ⟨hs, hne, hnot⟩ | ⟨hs, hne, hnot⟩
      · refine ⟨[], (rest.numbered parent (i + 1)).flatten, below, ?_, ?_, ?_, ?_⟩
        · simp [branch]
        · simp
        · simp [detach]
        · intro r hr
          exact not_within_of_child_later (within_under _ (Nat.le_refl 0)) (within_of_mem hr)
      · obtain ⟨before, after, inner, hbranch, hsplit, hdetach, hafter⟩ :=
          ihb hs (nodup_ids_below hids)
        refine ⟨a.atFolder (under parent i) :: before,
          after ++ (rest.numbered parent (i + 1)).flatten, inner, ?_, ?_, ?_, ?_⟩
        · rw [← ids_numbered parent (i + 1)] at hnot
          simp [branch, hne, hbranch, branch_of_not_mem hnot]
        · simp [hsplit]
        · rw [← ids_numbered parent (i + 1)] at hnot
          simp [detach, hne, hdetach, detach_of_not_mem hnot]
        · intro r hr
          rcases List.mem_append.mp hr with hr | hr
          · exact hafter r hr
          · exact not_within_of_child_later (within_of_mem hs).child (within_of_mem hr)
      · obtain ⟨before, after, inner, hbranch, hsplit, hdetach, hafter⟩ :=
          ihr hs (nodup_ids_rest hids)
        rw [← ids_numbered (some (under parent i)) 0] at hnot
        refine ⟨a.atFolder (under parent i) ::
          ((below.numbered (some (under parent i)) 0).flatten ++ before), after, inner, ?_, ?_, ?_,
          hafter⟩
        · simp [branch, hne, hbranch, branch_of_not_mem hnot]
        · simp [hsplit]
        · simp [detach, hne, hdetach, detach_of_not_mem hnot]

/-- Cutting off a branch and closing its place among the siblings leaves a numbered forest. -/
theorem shiftSiblings_down_detach {f : Forest} {parent : Option FolderPath} {i : Nat}
    {s : Resource} (hs : s ∈ (f.numbered parent i).flatten) (hids : f.ids.Nodup) :
    shiftSiblings .down s.folder.parent? (s.folder.index + 1)
        ((f.numbered parent i).detach s.id).flatten =
      ((f.detach s.id).numbered parent i).flatten := by
  induction f generalizing parent i with
  | nil => simp at hs
  | tree a below rest ihb ihr =>
      rcases mem_flatten_cases hs hids with rfl | ⟨hs, hne, hnot⟩ | ⟨hs, hne, hnot⟩
      · simp only [numbered_tree, detach, Resource.id_atFolder, Resource.folder_atFolder, if_true,
          parent?_under, index_under]
        exact shiftSiblings_down rest (Nat.le_refl _)
      · have hplace : Within (some (under parent i)) 0
            (under s.folder.parent? (s.folder.index + 1)) := by
          apply Within.sibling
          rw [under_parent?_index]
          exact within_of_mem hs
        have hnot' : s.id ∉ (rest.numbered parent (i + 1)).ids := by simpa using hnot
        simp only [numbered_tree, detach, Resource.id_atFolder, hne, if_false, flatten_tree,
          detach_of_not_mem hnot', detach_of_not_mem hnot]
        rw [shiftSiblings_in_below hplace fun r hr => within_of_mem hr,
          ihb hs (nodup_ids_below hids)]
      · have hplace : Within parent (i + 1) (under s.folder.parent? (s.folder.index + 1)) := by
          apply Within.sibling
          rw [under_parent?_index]
          exact within_of_mem hs
        have hnot' : s.id ∉ (below.numbered (some (under parent i)) 0).ids := by simpa using hnot
        simp only [numbered_tree, detach, Resource.id_atFolder, hne, if_false, flatten_tree,
          detach_of_not_mem hnot', detach_of_not_mem hnot]
        rw [shiftSiblings_in_rest hplace fun r hr => within_of_mem hr, ihr hs (nodup_ids_rest hids)]

end Forest

end MapContext
