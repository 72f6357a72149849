import MapContext.Context.Append
import MapContext.Proofs.Forest.Renumbering
import MapContext.Proofs.Forest.Transplant
import MapContext.Proofs.Result

/-!
# Contexts that list a forest

A context is valid exactly if its resources are the listing of a forest under different
identifiers. What the edits share is read off that forest: the resource of an identifier, the part
of the list below it, the next free root, and that putting resources into the context only needs
the right resources in any order.
-/

namespace MapContext

namespace Context

open FolderPath

/-- The resources are held in memory: there are no more of them than indices of the machine. -/
def Fits (c : Context) : Prop := c.features.length ≤ maxIndex

/-- The resources of a context are the listing of a forest, under different identifiers. -/
structure Lists (c : Context) (f : Forest) : Prop where
  /-- The listing. -/
  flatten_eq : (f.numbered none 0).flatten = c.features
  /-- No identifier is used twice. -/
  nodup : f.ids.Nodup

theorem Lists.ids_eq {c : Context} {f : Forest} (h : c.Lists f) :
    f.ids = c.features.map (·.id) := by
  rw [← h.flatten_eq, ← Forest.ids_numbered none 0 f, Forest.ids]

theorem validate_eq_ok_iff_lists (c : Context) :
    validate c.features = .ok () ↔ ∃ f : Forest, c.Lists f := by
  rw [validate_eq_ok_iff_exists_forest]
  constructor
  · rintro ⟨hids, f, hf⟩
    refine ⟨f, hf, ?_⟩
    rw [← Forest.ids_numbered none 0 f, Forest.ids, hf]
    exact hids
  · rintro ⟨f, h⟩
    exact ⟨h.ids_eq ▸ h.nodup, f, h.flatten_eq⟩

variable {c : Context} {f : Forest} {id : Resource.Id} {r s : Resource}

theorem Lists.size_eq (h : c.Lists f) : f.size = c.features.length := by
  rw [← h.flatten_eq, ← Forest.size_eq_length, Forest.size_numbered]

/-! ### Identifiers -/

theorem get?_eq_none_iff : c.get? id = none ↔ id ∉ c.features.map (·.id) := by
  simp [get?]

theorem Lists.get?_eq_some_iff (h : c.Lists f) :
    c.get? id = some r ↔ r ∈ c.features ∧ r.id = id := by
  constructor
  · intro hr
    exact ⟨List.mem_of_find?_eq_some hr, by simpa using List.find?_some hr⟩
  · rintro ⟨hr, rfl⟩
    cases hs : c.get? r.id with
    | none => exact absurd (List.mem_map_of_mem hr) (get?_eq_none_iff.mp hs)
    | some s =>
        have hid : s.id = r.id := by simpa using List.find?_some hs
        rw [List.inj_on_of_nodup_map (h.ids_eq ▸ h.nodup) (List.mem_of_find?_eq_some hs) hr hid]

theorem require_eq_ok_iff : c.require id = .ok r ↔ c.get? id = some r := by
  unfold require
  split <;> simp_all

theorem require_eq_error (h : id ∉ c.features.map (·.id)) :
    c.require id = .error (.resourceNotFound id) := by
  simp [require, get?_eq_none_iff.mpr h]

theorem position?_eq_none_iff : c.position? id = none ↔ id ∉ c.features.map (·.id) := by
  simp [position?]

theorem position?_of_split {before after : List Resource}
    (h : c.features = before ++ s :: after) (hids : (c.features.map (·.id)).Nodup) :
    c.position? s.id = some before.length := by
  have hbefore : before.findIdx? (·.id == s.id) = none := by
    rw [h, List.map_append, List.map_cons, List.nodup_append] at hids
    rw [List.findIdx?_eq_none_iff]
    intro r hr
    simpa using hids.2.2 _ (List.mem_map_of_mem hr) _ List.mem_cons_self
  rw [position?, h, List.findIdx?_append, hbefore]
  simp [List.findIdx?_cons]

/-! ### Cutting -/

/-- Cutting loses no resource and keeps their order. -/
theorem cutSubtree_parts (rs : List Resource) (place : Nat) :
    (cutSubtree rs place).1 ++ ((cutSubtree rs place).2.1 ++ (cutSubtree rs place).2.2) = rs := by
  unfold cutSubtree
  split
  · simp
  · next root rest hdrop =>
      rw [List.cons_append, List.takeWhile_append_dropWhile, ← hdrop, List.take_append_drop]

theorem cutSubtree_split {before below after : List Resource}
    (hbelow : ∀ r ∈ below, Within (some s.folder) 0 r.folder)
    (hafter : ∀ r ∈ after, ¬Within (some s.folder) 0 r.folder) :
    cutSubtree (before ++ s :: (below ++ after)) before.length = (before, s :: below, after) := by
  have hin : ∀ r ∈ below, s.isAncestorOf r = true := fun r hr =>
    isAncestorOf_iff.mpr (hbelow r hr)
  have htake : after.takeWhile s.isAncestorOf = [] := by
    cases after with
    | nil => rfl
    | cons a after =>
        have ha : ¬s.isAncestorOf a = true := fun ha =>
          hafter a List.mem_cons_self (isAncestorOf_iff.mp ha)
        exact List.takeWhile_cons_of_neg ha
  have hdrop : after.dropWhile s.isAncestorOf = after := by
    have := List.takeWhile_append_dropWhile (p := s.isAncestorOf) (l := after)
    rwa [htake, List.nil_append] at this
  have hcut : (before ++ s :: (below ++ after)).drop before.length = s :: (below ++ after) :=
    List.drop_left
  have hfirst : (before ++ s :: (below ++ after)).take before.length = before :=
    List.take_left
  simp only [cutSubtree, hcut, hfirst, List.takeWhile_append_of_pos hin,
    List.dropWhile_append_of_pos hin, htake, hdrop, List.append_nil]

/-- The resource of an identifier is cut off as its branch of the forest, and the others are what
is left of the forest, none of them at its folder or below it. -/
theorem Lists.exists_cut (h : c.Lists f) (hs : s ∈ c.features) :
    ∃ (place : Nat) (before after : List Resource) (below : Forest),
      c.position? s.id = some place ∧
      cutSubtree c.features place =
        (before, ((f.numbered none 0).branch s.id).flatten, after) ∧
      (f.numbered none 0).branch s.id = .tree s (below.numbered (some s.folder) 0) .nil ∧
      before ++ after = ((f.numbered none 0).detach s.id).flatten ∧
      (∀ r ∈ before ++ after, r.folder ≠ s.folder ∧ ¬Within (some s.folder) 0 r.folder) := by
  rw [← h.flatten_eq] at hs
  obtain ⟨before, after, below, hbranch, hsplit, hdetach, hafter⟩ :=
    Forest.exists_split hs h.nodup
  have hbelow : ∀ r ∈ (below.numbered (some s.folder) 0).flatten,
      Within (some s.folder) 0 r.folder :=
    fun r hr => Forest.within_of_mem hr
  have hsorted := Forest.pairwise_folder_lt f none 0
  rw [hsplit, List.pairwise_append, List.pairwise_cons] at hsorted
  obtain ⟨-, ⟨hlater, -⟩, hearlier⟩ := hsorted
  refine ⟨before.length, before, after, below, ?_, ?_, hbranch, hdetach.symm, ?_⟩
  · exact position?_of_split (h.flatten_eq ▸ hsplit) (h.ids_eq ▸ h.nodup)
  · rw [← h.flatten_eq, hsplit, hbranch, cutSubtree_split hbelow hafter]
    simp
  · intro r hr
    rcases List.mem_append.mp hr with hr | hr
    · have hlt := hearlier r hr s List.mem_cons_self
      refine ⟨fun heq => FolderPath.lt_irrefl _ (heq ▸ hlt), fun hw => ?_⟩
      exact FolderPath.lt_irrefl _ (List.lt_trans hlt (lt_of_within hw))
    · have hlt := hlater r (List.mem_append_right _ hr)
      exact ⟨fun heq => FolderPath.lt_irrefl _ (heq ▸ hlt), hafter r hr⟩

theorem Lists.numbered_nodup (h : c.Lists f) : (f.numbered none 0).ids.Nodup := by
  rw [Forest.ids_numbered]
  exact h.nodup

theorem Lists.mem_numbered_ids (h : c.Lists f) (hs : s ∈ c.features) :
    s.id ∈ (f.numbered none 0).ids :=
  Forest.id_mem_ids (h.flatten_eq ▸ hs)

theorem Lists.mem_ids (h : c.Lists f) (hs : s ∈ c.features) : s.id ∈ f.ids := by
  rw [← Forest.ids_numbered none 0 f]
  exact h.mem_numbered_ids hs

/-! ### Committing -/

/-- A commit puts the sorted resources into the context, if they are valid. -/
theorem commit_eq_ok_iff {c' : Context} {staged : List Resource} :
    c.commit staged = .ok c' ↔
      validate (staged.mergeSort fun a b => decide (a.folder ≤ b.folder)) = .ok () ∧
        c' = { c with features := staged.mergeSort fun a b => decide (a.folder ≤ b.folder) } := by
  rw [commit, bind_eq_ok_iff]
  constructor
  · rintro ⟨_, hvalid, hc⟩
    exact ⟨hvalid, (Except.ok.inj hc).symm⟩
  · rintro ⟨hvalid, rfl⟩
    exact ⟨(), hvalid, rfl⟩

/-- Any list of the resources of a forest can be committed. -/
theorem commit_of_perm {staged : List Resource} (hids : f.ids.Nodup)
    (h : staged.Perm (f.numbered none 0).flatten) :
    c.commit staged = .ok { c with features := (f.numbered none 0).flatten } := by
  have hvalid : validate (f.numbered none 0).flatten = .ok () := by
    rw [validate_eq_ok_iff_exists_forest]
    refine ⟨?_, f, rfl⟩
    rwa [← Forest.ids_numbered none 0 f, Forest.ids] at hids
  rw [commit_eq_ok_iff, Forest.mergeSort_of_perm h]
  exact ⟨hvalid, rfl⟩

/-- Resources that already stand in a valid order are committed as they are. -/
theorem commit_of_validate {staged : List Resource} (h : validate staged = .ok ()) :
    c.commit staged = .ok { c with features := staged } := by
  obtain ⟨hids, f, hf⟩ := (validate_eq_ok_iff_exists_forest staged).mp h
  have hnodup : f.ids.Nodup := by
    rwa [← Forest.ids_numbered none 0 f, Forest.ids, hf]
  rw [commit_of_perm hnodup (.of_eq hf.symm), hf]

/-! ### Roots and parents -/

/-- The greatest index of a root is that of the last tree. -/
theorem foldl_index_roots (f : Forest) (i : Nat) :
    (((f.numbered none i).flatten.filter (·.depth == 0)).map (·.index + 1)).foldl max i =
      i + f.width := by
  induction f generalizing i with
  | nil => rfl
  | tree r below rest _ ih =>
      have hbelow :
          (below.numbered (some (under none i)) 0).flatten.filter (·.depth == 0) = [] := by
        rw [List.filter_eq_nil_iff]
        intro a ha hdepth
        obtain ⟨j, tail, _, hj⟩ := Forest.within_of_mem ha
        have := congrArg List.length hj
        simp [Resource.depth, depth] at hdepth this
        omega
      have hself : (r.atFolder (under none i)).depth = 0 := by simp [Resource.depth]
      have hindex : (r.atFolder (under none i)).index = i := by simp [Resource.index]
      have hmax : max i (i + 1) = i + 1 := by omega
      simp only [Forest.numbered_tree, Forest.flatten_tree, List.filter_cons, hself,
        List.filter_append, hbelow, List.nil_append, beq_self_eq_true, if_true, List.map_cons,
        List.foldl_cons, hindex, hmax, ih, Forest.width_tree]
      omega

/-- The next root comes after the trees of the forest. -/
theorem Lists.nextRoot_eq (h : c.Lists f) : c.nextRoot = f.width := by
  rw [nextRoot, roots, ← h.flatten_eq, foldl_index_roots, Nat.zero_add]

theorem mem_of_atFolder? {p : FolderPath} (h : c.atFolder? p = some r) :
    r ∈ c.features ∧ r.folder = p :=
  ⟨List.mem_of_find?_eq_some h, by simpa using List.find?_some h⟩

theorem exists_atFolder? {p : FolderPath} (h : p ∈ c.features.map (·.folder)) :
    ∃ r, c.atFolder? p = some r := by
  obtain ⟨r, hr, hfolder⟩ := List.mem_map.mp h
  rw [← Option.isSome_iff_exists, atFolder?, List.find?_isSome]
  exact ⟨r, hr, by simpa using hfolder⟩

theorem Lists.atFolder?_eq (h : c.Lists f) (hr : r ∈ c.features) :
    c.atFolder? r.folder = some r := by
  cases hs : c.atFolder? r.folder with
  | none =>
      have := List.find?_eq_none.mp hs r hr
      simp at this
  | some s =>
      have hs' := List.mem_of_find?_eq_some hs
      have hfolder : s.folder = r.folder := by simpa using List.find?_some hs
      rw [← h.flatten_eq] at hs' hr
      rw [Forest.eq_of_folder_eq hs' hr hfolder]

/-- Inside of a part of the forest the edges give every resource its parent, if the roots of the
part have the one that is given for them. -/
theorem Lists.parent_mem_edges_part (h : c.Lists f) {g : Forest} {parent : Option FolderPath}
    {i : Nat} {above : Option Resource.Id}
    (hpart : ∀ a ∈ (g.numbered parent i).flatten, a ∈ c.features)
    (habove : (parent.bind c.atFolder?).map (·.id) = above)
    (hr : r ∈ (g.numbered parent i).flatten) :
    (r.id, (c.parent? r).map (·.id)) ∈ g.edges above := by
  induction g generalizing parent i above with
  | nil => simp at hr
  | tree a below rest ihb ihr =>
      simp only [Forest.numbered_tree, Forest.flatten_tree, List.mem_cons, List.mem_append] at hr
      simp only [Forest.numbered_tree, Forest.flatten_tree, List.mem_cons, List.mem_append,
        forall_eq_or_imp] at hpart
      simp only [Forest.edges, List.mem_cons, List.mem_append]
      rcases hr with rfl | hr | hr
      · left
        have hparent : c.parent? (a.atFolder (under parent i)) = parent.bind c.atFolder? := by
          simp [parent?, Resource.parentFolder?]
        rw [hparent, habove, Resource.id_atFolder]
      · right
        left
        refine ihb (fun b hb => hpart.2 b (.inl hb)) ?_ hr
        have hroot := h.atFolder?_eq hpart.1
        simp only [Resource.folder_atFolder] at hroot
        simp [hroot]
      · right
        right
        exact ihr (fun b hb => hpart.2 b (.inr hb)) habove hr

/-- The edges of the forest give every resource its parent. -/
theorem Lists.parent_mem_edges (h : c.Lists f) (hr : r ∈ c.features) :
    (r.id, (c.parent? r).map (·.id)) ∈ f.edges none := by
  rw [← h.flatten_eq] at hr
  exact h.parent_mem_edges_part (fun a ha => h.flatten_eq ▸ ha) rfl hr

end Context

end MapContext
