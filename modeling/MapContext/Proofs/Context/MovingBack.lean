import MapContext.Proofs.Context.Reachable
import MapContext.Proofs.Forest.Planting

/-!
# Moves are taken back by moves

Where a resource stands is told by one neighbour: its next sibling, or else its parent, or else the
root before it. Moved relative to that neighbour the resource comes back from wherever it was moved
to, and everything else stands where it stood.
-/

namespace MapContext

namespace Context

open FolderPath Forest

variable {c c' : Context} {f : Forest} {r s t u : Resource} {position back : Position}

/-! ### Neighbours -/

/-- The sibling right after a resource; after a root the next root. -/
def nextSibling? (c : Context) (s : Resource) : Option Resource :=
  c.atFolder? (.under s.parentFolder? (s.index + 1))

/-- The sibling right before a resource; before a root the root before it. -/
def previousSibling? (c : Context) (s : Resource) : Option Resource :=
  match s.index with
  | 0 => none
  | i + 1 => c.atFolder? (.under s.parentFolder? i)

/-- Where a resource has to be moved to stand where it does. -/
def wayBack? (c : Context) (s : Resource) : Option (Resource × Position) :=
  match c.nextSibling? s, c.parent? s with
  | some next, _ => some (next, .left)
  | none, some parent => some (parent, .lastChild)
  | none, none => (c.previousSibling? s).map (·, .right)

/-- Without a next sibling nothing stands behind a resource on its level. -/
theorem not_within_of_nextSibling?_eq_none (hc : Contiguous (c.features.map (·.folder)))
    (h : c.nextSibling? s = none) (hr : r ∈ c.features) :
    ¬Within s.folder.parent? (s.folder.index + 1) r.folder := by
  rintro ⟨j, rest, hj, hfolder⟩
  have hchild : under s.folder.parent? j ∈ c.features.map (·.folder) := by
    have hr : r.folder ∈ c.features.map (·.folder) := List.mem_map_of_mem hr
    cases rest with
    | nil =>
        have heq : r.folder = under s.folder.parent? j := eq_of_segments hfolder
        rwa [← heq]
    | cons i rest => exact hc.mem_of_within hr ⟨i, rest, Nat.zero_le i, by simp [hfolder]⟩
  obtain ⟨n, hn⟩ := hc.indices s.folder.parent?
  have hnext : under s.folder.parent? (s.folder.index + 1) ∈ c.features.map (·.folder) := by
    apply (hn _).mpr
    exact Nat.lt_of_le_of_lt hj ((hn j).mp hchild)
  obtain ⟨next, hnext⟩ := exists_atFolder? hnext
  exact Option.some_ne_none next (hnext.symm.trans h)

/-- Without a next sibling a resource is the last one on its level below the parent. -/
theorem mem_siblings_iff (hc : Contiguous (c.features.map (·.folder))) (hs : s ∈ c.features)
    (h : c.nextSibling? s = none) (i : Nat) :
    under s.folder.parent? i ∈ c.features.map (·.folder) ↔ i < s.folder.index + 1 := by
  obtain ⟨n, hn⟩ := hc.indices s.folder.parent?
  have hin : s.folder.index < n := by
    apply (hn _).mp
    rw [under_parent?_index]
    exact List.mem_map_of_mem hs
  have hout : ¬s.folder.index + 1 < n := by
    intro hlt
    obtain ⟨r, hr, hfolder⟩ := List.mem_map.mp ((hn _).mpr hlt)
    apply not_within_of_nextSibling?_eq_none hc h hr
    rw [hfolder]
    exact within_under _ (Nat.le_refl _)
  rw [hn i]
  omega

/-- A resource that is not the first one on its level below the parent has a sibling before it. -/
theorem exists_previousSibling? (hc : Contiguous (c.features.map (·.folder)))
    (hs : s ∈ c.features) (h : s.folder.index ≠ 0) : ∃ u, c.previousSibling? s = some u := by
  obtain ⟨i, hi⟩ := Nat.exists_eq_succ_of_ne_zero h
  obtain ⟨n, hn⟩ := hc.indices s.folder.parent?
  have hmem : under s.folder.parent? i ∈ c.features.map (·.folder) := by
    apply (hn i).mpr
    apply Nat.lt_of_succ_lt
    apply (hn (i + 1)).mp
    rw [← Nat.succ_eq_add_one, ← hi, under_parent?_index]
    exact List.mem_map_of_mem hs
  obtain ⟨u, hu⟩ := exists_atFolder? hmem
  refine ⟨u, ?_⟩
  rw [previousSibling?, Resource.index, hi]
  exact hu

/-- Only roots have no parent. -/
theorem parentFolder?_eq_none (hc : Contiguous (c.features.map (·.folder))) (hs : s ∈ c.features)
    (h : c.parent? s = none) : s.folder.parent? = none := by
  cases hfolder : s.folder.parent? with
  | none => rfl
  | some p =>
      obtain ⟨a, ha⟩ := exists_atFolder? (hc.parent_mem _ (List.mem_map_of_mem hs) p hfolder)
      rw [parent?, Resource.parentFolder?, hfolder, Option.bind_some, ha] at h
      cases h

/-- A resource beside which something else stands has a neighbour that tells where it stands. -/
theorem exists_wayBack? (hc : Contiguous (c.features.map (·.folder))) (hs : s ∈ c.features)
    (ht : t ∈ c.features) (hbeside : ¬t.folder.startsWith s.folder = true) :
    ∃ u back, c.wayBack? s = some (u, back) := by
  rw [wayBack?]
  cases hnext : c.nextSibling? s with
  | some next => exact ⟨next, .left, rfl⟩
  | none =>
      cases hparent : c.parent? s with
      | some parent => exact ⟨parent, .lastChild, rfl⟩
      | none =>
          -- everything stands below the first root, if there is no other one
          have hnotFirst : s.folder.index ≠ 0 := by
            intro hzero
            have hself := under_parent?_index s.folder
            have hlast := not_within_of_nextSibling?_eq_none hc hnext ht
            rw [parentFolder?_eq_none hc hs hparent, hzero] at hself hlast
            obtain ⟨j, rest, hj, hfolder⟩ := within_none t.folder
            obtain rfl : j = 0 := by
              by_contra hne
              exact hlast ⟨j, rest, by omega, hfolder⟩
            apply hbeside
            rw [← hself, startsWith_iff_segments, hfolder]
            exact ⟨rest, rfl⟩
          obtain ⟨previous, hprevious⟩ := exists_previousSibling? hc hs hnotFirst
          exact ⟨previous, .right, by simp [hprevious]⟩

/-! ### The place that was left -/

/-- Children of a contiguous list are counted by the first index that is missing. -/
theorem childCount_of_contiguous {rs : List Resource} (hc : Contiguous (rs.map (·.folder)))
    {p : FolderPath} {n : Nat} (hn : ∀ i, under (some p) i ∈ rs.map (·.folder) ↔ i < n) :
    childCount rs p = n := by
  have hchildren : ((rs.map (·.folder)).filter fun q =>
      q.depth == p.depth + 1 && p.isAncestorOf q).Perm
        ((List.range n).map fun i => under (some p) i) := by
    refine (List.perm_ext_iff_of_nodup (hc.nodup.filter _) ?_).mpr ?_
    · refine List.nodup_range.map ?_
      intro i j hij
      simpa using congrArg FolderPath.index hij
    · intro q
      rw [List.mem_filter, isChild_iff]
      constructor
      · rintro ⟨hq, i, rfl⟩
        exact List.mem_map_of_mem (List.mem_range.mpr ((hn i).mp hq))
      · intro hq
        obtain ⟨i, hi, rfl⟩ := List.mem_map.mp hq
        exact ⟨(hn i).mpr (List.mem_range.mp hi), i, rfl⟩
  calc
    childCount rs p = ((rs.map (·.folder)).filter fun q =>
        q.depth == p.depth + 1 && p.isAncestorOf q).length := by
      rw [childCount, List.countP_eq_length_filter, List.filter_map, List.length_map]
      rfl
    _ = n := by rw [hchildren.length_eq, List.length_map, List.length_range]

/-- What stands beside the branch that is cut off is shifted to close its place. -/
theorem Lists.mem_closed (h : c.Lists f) (hs : s ∈ c.features) (hr : r ∈ c.features)
    (hbeside : ¬r.folder.startsWith s.folder = true) {r' : Resource}
    (hshift : shiftSiblings .down s.folder.parent? (s.folder.index + 1) [r] = [r']) :
    r' ∈ ((f.detach s.id).numbered none 0).flatten := by
  have hrest : r ∈ ((f.numbered none 0).detach s.id).flatten := by
    rw [← (h.filter_startsWith hs).2]
    exact List.mem_filter.mpr ⟨hr, by simpa using hbeside⟩
  rw [← shiftSiblings_down_detach (h.flatten_eq ▸ hs) h.nodup]
  exact List.mem_map.mpr ⟨r, hrest, List.singleton_inj.mp hshift⟩

/-- A sibling does not stand below another one. -/
theorem not_startsWith_sibling (parent : Option FolderPath) {i k : Nat} (h : i ≠ k) :
    ¬(under parent i).startsWith (under parent k) = true := by
  rw [startsWith_iff_segments]
  intro hinitial
  have heq : under parent k = under parent i := eq_of_segments (hinitial.eq_of_length (by simp))
  apply h
  simpa using (congrArg FolderPath.index heq).symm

/-- The next sibling moves up to the place. -/
theorem Lists.destination_next (h : c.Lists f) (hs : s ∈ c.features)
    (hnext : c.nextSibling? s = some t) :
    ∃ t' ∈ ((f.detach s.id).numbered none 0).flatten, t'.id = t.id ∧
      destination ((f.detach s.id).numbered none 0).flatten t'.folder .left =
        (s.folder.parent?, s.folder.index) := by
  obtain ⟨ht, hfolder⟩ := mem_of_atFolder? hnext
  have hfolder : t.folder = under s.folder.parent? (s.folder.index + 1) := hfolder
  have hself : under s.folder.parent? s.folder.index = s.folder := under_parent?_index s.folder
  have hbeside : ¬t.folder.startsWith s.folder = true := by
    rw [hfolder, ← hself, parent?_under, index_under]
    exact not_startsWith_sibling _ (Nat.succ_ne_self _)
  have hshift : shiftSiblings .down s.folder.parent? (s.folder.index + 1) [t.atFolder t.folder] =
      [t.atFolder (under s.folder.parent? s.folder.index)] :=
    shiftSiblings_singleton (congrArg segments hfolder) (Nat.le_refl _) rfl
  refine ⟨_, h.mem_closed hs ht hbeside hshift, rfl, ?_⟩
  simp [destination]

/-- Without a next sibling nothing is shifted to close the place. -/
theorem Lists.closed_of_last (h : c.Lists f) (hs : s ∈ c.features)
    (hnext : c.nextSibling? s = none) :
    ((f.detach s.id).numbered none 0).flatten =
      c.features.filter (!·.folder.startsWith s.folder) := by
  have hc : Contiguous (c.features.map (·.folder)) := h.flatten_eq ▸ f.contiguous_folders
  rw [← shiftSiblings_down_detach (h.flatten_eq ▸ hs) h.nodup, ← (h.filter_startsWith hs).2]
  apply shiftSiblings_of_not_within
  intro r hr
  exact not_within_of_nextSibling?_eq_none hc hnext (List.mem_of_mem_filter hr)

/-- Then the siblings that are left are those before. -/
theorem Lists.mem_siblings_closed_iff (h : c.Lists f) (hs : s ∈ c.features)
    (hnext : c.nextSibling? s = none) (i : Nat) :
    under s.folder.parent? i ∈ ((f.detach s.id).numbered none 0).flatten.map (·.folder) ↔
      i < s.folder.index := by
  have hc : Contiguous (c.features.map (·.folder)) := h.flatten_eq ▸ f.contiguous_folders
  have hself : under s.folder.parent? s.folder.index = s.folder := under_parent?_index s.folder
  rw [h.closed_of_last hs hnext]
  constructor
  · intro hi
    obtain ⟨r, hr, hfolder⟩ := List.mem_map.mp hi
    obtain ⟨hr, hstarts⟩ := List.mem_filter.mp hr
    have hle := (mem_siblings_iff hc hs hnext i).mp (hfolder ▸ List.mem_map_of_mem hr)
    have hne : i ≠ s.folder.index := by
      rintro rfl
      rw [hfolder, hself, startsWith_self] at hstarts
      cases hstarts
    omega
  · intro hi
    obtain ⟨r, hr, hfolder⟩ := List.mem_map.mp ((mem_siblings_iff hc hs hnext i).mpr (by omega))
    refine List.mem_map.mpr ⟨r, List.mem_filter.mpr ⟨hr, ?_⟩, hfolder⟩
    have hstarts := not_startsWith_sibling s.folder.parent? (Nat.ne_of_lt hi)
    rw [hself, ← hfolder] at hstarts
    simpa using hstarts

/-- Without a next sibling the place is the last one below the parent. -/
theorem Lists.destination_parent (h : c.Lists f) (hs : s ∈ c.features)
    (hnext : c.nextSibling? s = none) (hparent : c.parent? s = some t) :
    ∃ t' ∈ ((f.detach s.id).numbered none 0).flatten, t'.id = t.id ∧
      destination ((f.detach s.id).numbered none 0).flatten t'.folder .lastChild =
        (s.folder.parent?, s.folder.index) := by
  obtain ⟨p, hp, hat⟩ := Option.bind_eq_some_iff.mp hparent
  obtain ⟨ht, rfl⟩ := mem_of_atFolder? hat
  have hp : s.folder.parent? = some t.folder := hp
  have hbeside : ¬t.folder.startsWith s.folder = true := by
    rw [← under_parent?_index s.folder, hp]
    exact not_startsWith_of_isAncestorOf (isAncestorOf_under t.folder _)
  refine ⟨t, ?_, rfl, ?_⟩
  · rw [h.closed_of_last hs hnext]
    exact List.mem_filter.mpr ⟨ht, by simpa using hbeside⟩
  · rw [destination, hp, Prod.mk.injEq]
    refine ⟨rfl, childCount_of_contiguous (f.detach s.id).contiguous_folders ?_⟩
    rw [← hp]
    exact h.mem_siblings_closed_iff hs hnext

/-- The place is the one after the sibling before it. -/
theorem Lists.destination_previous (h : c.Lists f) (hs : s ∈ c.features)
    (hprevious : c.previousSibling? s = some t) :
    ∃ t' ∈ ((f.detach s.id).numbered none 0).flatten, t'.id = t.id ∧
      destination ((f.detach s.id).numbered none 0).flatten t'.folder .right =
        (s.folder.parent?, s.folder.index) := by
  rw [previousSibling?] at hprevious
  split at hprevious
  · cases hprevious
  · next i hi =>
      obtain ⟨ht, hfolder⟩ := mem_of_atFolder? hprevious
      have hi : s.folder.index = i + 1 := hi
      have hfolder : t.folder = under s.folder.parent? i := hfolder
      have hself : under s.folder.parent? (i + 1) = s.folder := by
        rw [← hi]
        exact under_parent?_index s.folder
      have hbeside : ¬t.folder.startsWith s.folder = true := by
        rw [hfolder, ← hself, parent?_under]
        exact not_startsWith_sibling _ (Nat.ne_of_lt (Nat.lt_succ_self i))
      have hkept : shiftSiblings .down s.folder.parent? (s.folder.index + 1) [t] = [t] := by
        apply shiftSiblings_of_not_within
        simp only [List.mem_singleton, forall_eq, hfolder]
        rintro ⟨j, rest, hj, hsegments⟩
        have hij : i = j := by
          simpa using congrArg (·[(segmentsOf s.folder.parent?).length]?) hsegments
        omega
      refine ⟨t, h.mem_closed hs ht hbeside hkept, rfl, ?_⟩
      simp [destination, hfolder, hi]

/-- Moved back, the branch gets the place that it had. -/
theorem Lists.destination_wayBack (h : c.Lists f) (hs : s ∈ c.features)
    (hback : c.wayBack? s = some (t, back)) :
    ∃ t' ∈ ((f.detach s.id).numbered none 0).flatten, t'.id = t.id ∧
      destination ((f.detach s.id).numbered none 0).flatten t'.folder back =
        (s.folder.parent?, s.folder.index) := by
  rw [wayBack?] at hback
  split at hback
  · next next _ hnext =>
      cases hback
      exact h.destination_next hs hnext
  · next hnext hparent =>
      cases hback
      exact h.destination_parent hs hnext hparent
  · obtain ⟨previous, hprevious, heq⟩ := Option.map_eq_some_iff.mp hback
    cases heq
    exact h.destination_previous hs hprevious

/-! ### Moving there and back -/

/-- What is left when a branch is cut off stands beside it. -/
theorem Lists.beside_of_mem_detach (h : c.Lists f) (hs : s ∈ c.features) (ht : t ∈ c.features)
    (hleft : t.id ∈ (f.detach s.id).ids) :
    t.id ≠ s.id ∧ ¬t.folder.startsWith s.folder = true := by
  have hids : (c.features.map (·.id)).Nodup := h.ids_eq ▸ h.nodup
  rw [← ids_numbered_detach f s.id none 0, Forest.ids, ← (h.filter_startsWith hs).2] at hleft
  obtain ⟨r, hr, hid⟩ := List.mem_map.mp hleft
  obtain ⟨hr, hstarts⟩ := List.mem_filter.mp hr
  obtain rfl : r = t := List.inj_on_of_nodup_map hids hr ht hid
  have hbeside : ¬r.folder.startsWith s.folder = true := by simpa using hstarts
  refine ⟨?_, hbeside⟩
  intro heq
  apply hbeside
  rw [List.inj_on_of_nodup_map hids hr hs heq]
  exact startsWith_self s.folder

/-- A move to a resource beside the branch, in terms of the new folder. -/
theorem Lists.exists_move (h : c.Lists f) (hfits : c.Fits) (hs : s ∈ c.features)
    (ht : t ∈ c.features) (hleft : t.id ∈ (f.detach s.id).ids) (position : Position) :
    ∃ result : FolderPath,
      s.atFolder result ∈ ((f.transplant s.id t.id position).numbered none 0).flatten ∧
      c.move s.id (some t.id) position =
        if result = s.folder then .ok (c, .unchanged)
        else
          .ok ({ c with
              features := ((f.transplant s.id t.id position).numbered none 0).flatten },
            .moved s.folder result) := by
  obtain ⟨hne, hbeside⟩ := h.beside_of_mem_detach hs ht hleft
  have hbelow : ¬t.isDescendantOf s = true := fun hbelow =>
    hbeside (isAncestorOf_iff_startsWith.mp hbelow).2
  have hget {r : Resource} (hr : r ∈ c.features) : c.get? r.id = some r :=
    h.get?_eq_some_iff.mpr ⟨hr, rfl⟩
  obtain ⟨place, hplace, hmove⟩ := h.exists_move_eq (hget hs) hne position
  obtain ⟨result, hresult, -, hsubtree⟩ := h.exists_moveSubtree hfits hs hleft hplace position
  refine ⟨result, hresult, ?_⟩
  rw [hmove, require_of_get? (hget ht), ok_bind, if_neg hbelow, hsubtree]

/-- Something is moved only to a resource beside its branch. -/
theorem Lists.beside_of_moved (h : c.Lists f) {source : Resource.Id}
    {target : Option Resource.Id} {p q : FolderPath}
    (hmove : c.move source target position = .ok (c', .moved p q)) :
    ∃ s t, s ∈ c.features ∧ t ∈ c.features ∧ t.id ∈ (f.detach s.id).ids ∧ source = s.id ∧
      target = some t.id := by
  cases target with
  | none => simp [move] at hmove
  | some target =>
      by_cases hne : target = source
      · simp [move, hne] at hmove
      cases hsource : c.get? source with
      | none => simp [move, Ne.symm hne, position?_of_get?_none hsource] at hmove
      | some s =>
          obtain ⟨place, -, heq⟩ := h.exists_move_eq hsource hne position
          rw [heq] at hmove
          obtain ⟨t, hrequire, hmove⟩ := bind_eq_ok_iff.mp hmove
          obtain ⟨hs, rfl⟩ := h.get?_eq_some_iff.mp hsource
          obtain ⟨ht, rfl⟩ := h.get?_eq_some_iff.mp (require_eq_ok_iff.mp hrequire)
          split at hmove
          · cases hmove
          · next hbelow =>
              have hnot : ¬Within (some s.folder) 0 t.folder := fun hw =>
                hbelow (isAncestorOf_iff.mpr hw)
              exact ⟨s, t, hs, ht, h.mem_detach_ids hs ht hne hnot, rfl, rfl⟩

/-- From wherever a branch was transplanted to, moving it to its former neighbour brings it back. -/
theorem Lists.move_to_wayBack (h : c.Lists f) (hfits : c.Fits) (hs : s ∈ c.features)
    {target : Resource.Id} (hleft : target ∈ (f.detach s.id).ids)
    (h' : c'.Lists (f.transplant s.id target position))
    (hrest : c' = { c with features := c'.features }) {q : FolderPath}
    (hq : s.atFolder q ∈ c'.features) (hchanged : q ≠ s.folder)
    (hback : c.wayBack? s = some (u, back)) :
    c'.move s.id (some u.id) back = .ok (c, .moved q s.folder) := by
  have hmem := h.mem_ids hs
  have hperm := transplant_perm hmem hleft h.nodup position
  have hfits' : c'.Fits := by
    rw [Fits, ← h'.size_eq, size_eq_length, hperm.length_eq, ← size_eq_length, h.size_eq]
    exact hfits
  -- the neighbour is still there, beside the branch
  obtain ⟨u', hu', hid, hplace⟩ := h.destination_wayBack hs hback
  have hleft' : u'.id ∈ (f.detach s.id).ids := by
    rw [← ids_numbered none 0]
    exact id_mem_ids hu'
  obtain ⟨a, ha, haid⟩ : ∃ a ∈ c'.features, a.id = u'.id := by
    apply List.mem_map.mp
    rw [← h'.ids_eq, Forest.ids, (hperm.map _).mem_iff]
    have hparts := (detach_append_branch_perm hmem h.nodup).map fun r : Resource => r.id
    rw [List.map_append] at hparts
    exact hparts.subset (List.mem_append_left _ hleft')
  have hbeside : a.id ∈ ((f.transplant s.id target position).detach s.id).ids := by
    rw [detach_transplant hmem h.nodup, haid]
    exact hleft'
  have hforest : ((f.transplant s.id target position).transplant s.id u'.id back).numbered none 0 =
      f.numbered none 0 := by
    rw [transplant_transplant hmem hleft h.nodup]
    exact h.transplant_eq_self hfits hs hu' hplace (under_parent?_index s.folder)
  obtain ⟨result, hresult, hrun⟩ := h'.exists_move hfits' hq ha hbeside back
  simp only [Resource.id_atFolder, Resource.atFolder_atFolder, Resource.folder_atFolder, haid,
    hforest, h.flatten_eq] at hresult hrun
  have hsame : result = s.folder := by
    have hids : (c.features.map (·.id)).Nodup := h.ids_eq ▸ h.nodup
    exact congrArg Resource.folder (List.inj_on_of_nodup_map hids hresult hs rfl)
  have hcontext : { c' with features := c.features } = c := by rw [hrest]
  rw [hsame, if_neg (Ne.symm hchanged), hcontext] at hrun
  rw [← hid]
  exact hrun

/-- A move is taken back by one move: to the left of the former next sibling, or else below the
former parent as its last child, or else to the right of the former previous root, which is there.
That move names the two folders the other way round. -/
theorem move_taken_back (hvalid : validate c.features = .ok ()) (hfits : c.Fits)
    {source : Resource.Id} {target : Option Resource.Id} {p q : FolderPath}
    (hmove : c.move source target position = .ok (c', .moved p q)) :
    ∃ s t back, c.get? source = some s ∧ c.wayBack? s = some (t, back) ∧
      c'.move source (some t.id) back = .ok (c, .moved q p) := by
  obtain ⟨f, h⟩ := (validate_eq_ok_iff_lists c).mp hvalid
  have hc : Contiguous (c.features.map (·.folder)) := contiguous_of_validate hvalid
  obtain ⟨s, t, hs, ht, hleft, rfl, rfl⟩ := h.beside_of_moved hmove
  obtain ⟨result, hresult, hrun⟩ := h.exists_move hfits hs ht hleft position
  rw [hrun] at hmove
  split at hmove
  · cases hmove
  · next hchanged =>
      cases hmove
      obtain ⟨u, back, hback⟩ := exists_wayBack? hc hs ht (h.beside_of_mem_detach hs ht hleft).2
      refine ⟨s, u, back, h.get?_eq_some_iff.mpr ⟨hs, rfl⟩, hback, ?_⟩
      exact h.move_to_wayBack hfits hs hleft ⟨rfl, h.nodup_transplant hs hleft position⟩ rfl
        hresult hchanged hback

/-- The group is moved below its next sibling, which becomes the first root, and back again. -/
theorem group_moved_back :
    ∃ c', move { empty "map" with features := groupAndLayer } "group" (some "base") .firstChild =
        .ok (c', .moved (.root 0) ((FolderPath.root 0).child 0)) ∧
      c'.move "group" (some "base") .left = .ok ({ empty "map" with features := groupAndLayer },
        .moved ((FolderPath.root 0).child 0) (.root 0)) := by
  let c : Context := { empty "map" with features := groupAndLayer }
  let group : Resource := .new "group" ((FolderPath.root 0).child 0) "Group"
  let roads : Resource := .new "roads" (((FolderPath.root 0).child 0).child 0) "Roads"
  let base : Resource := .new "base" (.root 0) "Base"
  let c' : Context := { c with features := [base, group, roads] }
  have hcommit : c.commit [base, group, roads] = .ok c' :=
    commit_of_perm (f := .tree base (.tree group (.tree roads .nil .nil) .nil) .nil) (by decide)
      (.refl _)
  let outcome : MoveOutcome := .moved (.root 0) ((FolderPath.root 0).child 0)
  have hmove : c.move "group" (some "base") .firstChild = .ok (c', outcome) :=
    congrArg (fun committed => committed >>= fun c => pure (c, outcome)) hcommit
  obtain ⟨s, t, back, hs, hback, hreturn⟩ :=
    move_taken_back (c := c) (by decide) (show 3 ≤ maxIndex by decide) hmove
  have hs : some (.new "group" (.root 0) "Group") = some s := hs
  cases hs
  have hback : some (.new "base" (.root 1) "Base", .left) = some (t, back) := hback
  cases hback
  exact ⟨c', hmove, hreturn⟩

end Context

end MapContext
