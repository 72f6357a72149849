import MapContext.Proofs.Context.Levels
import MapContext.Proofs.Forest.Hanging

/-!
# Nesting resources in any order

A list of resources is nested by hanging in one after another, so they need not stand in document
order: it is enough that every parent comes first. Then the forest is the one that the folders
describe. Otherwise the first resource without its parent stops the nesting, whatever comes behind
it.
-/

namespace MapContext

namespace Node

open FolderPath

variable {rs : List Resource} {r : Resource} {p : FolderPath} {ns level : List Node}

/-! ### The forest of a list -/

theorem placeAll_append (index : Nat) (ns : List Node) (rs ss : List Resource) :
    placeAll index ns (rs ++ ss) =
      (placeAll index ns rs >>= fun ms => placeAll (index + rs.length) ms ss) := by
  induction rs generalizing index ns with
  | nil => rfl
  | cons r rs ih =>
      simp only [List.cons_append, placeAll]
      cases place index r r.folder.ancestors.reverse ns with
      | error e => rfl
      | ok ms =>
          rw [ok_bind, ok_bind, ih, List.length_cons]
          congr 1
          funext ms
          congr 1
          omega

/-- One more resource is hung into the forest of those before it. -/
theorem forest_concat (rs : List Resource) (r : Resource) :
    forest (rs ++ [r]) =
      (forest rs >>= fun ns => place rs.length r r.folder.ancestors.reverse ns) := by
  rw [forest, placeAll_append, Nat.zero_add, forest]
  congr 1
  funext ns
  cases h : place rs.length r r.folder.ancestors.reverse ns <;> simp [placeAll, h]

theorem forest_append_of_error {e : Context.Error} (h : forest rs = .error e)
    (ss : List Resource) : forest (rs ++ ss) = .error e := by
  rw [forest] at h
  rw [forest, placeAll_append, h, error_bind]

/-- The parent of every resource belongs to an earlier one. -/
def ParentsFirst (rs : List Resource) : Prop :=
  ∀ before r after, rs = before ++ r :: after →
    ∀ p, r.folder.parent? = some p → p ∈ before.map (·.folder)

theorem parentsFirst_concat_iff :
    ParentsFirst (rs ++ [r]) ↔
      ParentsFirst rs ∧ ∀ p, r.folder.parent? = some p → p ∈ rs.map (·.folder) := by
  constructor
  · intro h
    refine ⟨fun before a after hsplit => ?_, h rs r [] rfl⟩
    exact h before a (after ++ [r]) (by simp [hsplit])
  · rintro ⟨hrs, hr⟩ before a after hsplit
    rcases List.eq_nil_or_concat' after with rfl | ⟨init, last, rfl⟩
    · obtain ⟨rfl, hlast⟩ := List.append_inj' hsplit rfl
      obtain rfl : r = a := List.singleton_inj.mp hlast
      exact hr
    · rw [← List.cons_append, ← List.append_assoc] at hsplit
      obtain ⟨rfl, -⟩ := List.append_inj' hsplit rfl
      exact hrs before a init rfl

theorem ParentsFirst.parent_mem (h : ParentsFirst rs) :
    ∀ q ∈ rs.map (·.folder), ∀ p, q.parent? = some p → p ∈ rs.map (·.folder) := by
  intro q hq p hp
  obtain ⟨r, hr, rfl⟩ := List.mem_map.mp hq
  obtain ⟨before, after, rfl⟩ := List.append_of_mem hr
  rw [List.map_append]
  exact List.mem_append_left _ (h before r after rfl p hp)

/-- The first resource whose parent does not come before it, and the resources before it. -/
structure FirstOrphan (rs before : List Resource) (r : Resource) : Prop where
  /-- It stands behind these resources. -/
  split : ∃ after, rs = before ++ r :: after
  /-- They have their parents before them. -/
  parentsFirst : ParentsFirst before
  /-- Its own parent is not among them. -/
  missing : ∃ p, r.folder.parent? = some p ∧ p ∉ before.map (·.folder)

theorem exists_firstOrphan (h : ¬ParentsFirst rs) : ∃ before r, FirstOrphan rs before r := by
  induction rs using List.reverseRecOn with
  | nil =>
      refine absurd (fun before r after hsplit => ?_) h
      simp at hsplit
  | append_singleton rs r ih =>
      by_cases hrs : ParentsFirst rs
      · rw [parentsFirst_concat_iff, not_and] at h
        have hr := h hrs
        push Not at hr
        exact ⟨rs, r, ⟨[], rfl⟩, hrs, hr⟩
      · obtain ⟨before, a, ⟨after, rfl⟩, hbefore, ha⟩ := ih hrs
        exact ⟨before, a, ⟨after ++ [r], by simp⟩, hbefore, ha⟩

/-- The folder above `q` that is nearest to the root among those that are not known. -/
structure ShallowestMissing (known : List FolderPath) (q p : FolderPath) : Prop where
  /-- It is above. -/
  above : p.isAncestorOf q = true
  /-- It is not known. -/
  missing : p ∉ known
  /-- None that is not known is nearer to the root. -/
  least : ∀ a : FolderPath, a.isAncestorOf q = true → a ∉ known → p.depth ≤ a.depth

theorem ShallowestMissing.unique {known : List FolderPath} {q a : FolderPath}
    (hp : ShallowestMissing known q p) (ha : ShallowestMissing known q a) : p = a := by
  have hdepth := Nat.le_antisymm (hp.least a ha.above ha.missing) (ha.least p hp.above hp.missing)
  have hlength : p.segments.length = a.segments.length := by
    rw [← depth_add_one, ← depth_add_one, hdepth]
  have hp' := startsWith_iff_segments.mp (isAncestorOf_iff_startsWith.mp hp.above).2
  have ha' := startsWith_iff_segments.mp (isAncestorOf_iff_startsWith.mp ha.above).2
  have hbegins := List.prefix_of_prefix_length_le hp' ha' hlength.le
  exact eq_of_segments (hbegins.eq_of_length hlength)

/-- The first folder on the way down that is not known is the shallowest one. -/
theorem shallowestMissing_of_split {known above below : List FolderPath} {q : FolderPath}
    (hsplit : q.ancestors.reverse = above ++ p :: below) (habove : ∀ a ∈ above, a ∈ known)
    (hp : p ∉ known) : ShallowestMissing known q p := by
  have hmem (a : FolderPath) : a ∈ above ++ p :: below ↔ a.isAncestorOf q = true := by
    rw [← hsplit, List.mem_reverse, mem_ancestors_iff]
  have hdepth : (above ++ p :: below).Pairwise fun a b => a.depth < b.depth := by
    rw [← hsplit, ← under_parent?_index q, reverse_ancestors_under]
    exact (descends_lineage _).pairwise_depth
  rw [List.pairwise_append, List.pairwise_cons] at hdepth
  refine ⟨(hmem p).mp (by simp), hp, fun a ha hmissing => ?_⟩
  rcases List.mem_append.mp ((hmem a).mpr ha) with h | h
  · exact absurd (habove a h) hmissing
  · rcases List.mem_cons.mp h with rfl | h
    · exact Nat.le_refl _
    · exact (hdepth.2.1.1 a h).le

/-- While parents come first, a resource whose parent is known is hung in, and for any other one the
shallowest missing folder is reported. -/
theorem Nests.step (h : Nests rs none ns) (hrs : ParentsFirst rs)
    (hdistinct : ((rs ++ [r]).map (·.folder)).Nodup) :
    ((∀ p, r.folder.parent? = some p → p ∈ rs.map (·.folder)) →
      ∃ ms, place rs.length r r.folder.ancestors.reverse ns = .ok ms ∧
        Nests (rs ++ [r]) none ms) ∧
    ((∃ p, r.folder.parent? = some p ∧ p ∉ rs.map (·.folder)) →
      ∃ p, ShallowestMissing (rs.map (·.folder)) r.folder p ∧
        place rs.length r r.folder.ancestors.reverse ns =
          .error (.parentNotFound rs.length r.folder p)) := by
  rw [List.map_append, List.map_singleton, List.nodup_append] at hdistinct
  obtain ⟨hnodup, -, hnew⟩ := hdistinct
  have hfresh : ∀ a ∈ rs, a.folder.parent? ≠ some r.folder := fun a ha hparent =>
    hnew _ (hrs.parent_mem _ (List.mem_map_of_mem ha) _ hparent) _ List.mem_cons_self rfl
  have hlineage : r.folder.ancestors.reverse = lineage r.folder.parent? := by
    conv_lhs => rw [← under_parent?_index r.folder, reverse_ancestors_under]
  have habove {p q : FolderPath} (hp : r.folder.parent? = some p) :
      q.isAncestorOf r.folder = true ↔ p.startsWith q = true := by
    rw [← under_parent?_index r.folder, hp, isAncestorOf_under_some]
  have hcases := h.place_cases hnodup (descends_lineage r.folder.parent?) rfl hfresh rs.length
  rw [← hlineage] at hcases
  rcases hcases with ⟨ms, hplace, hall, hms⟩ | ⟨above, p, below, hsplit, hall, hp, hplace⟩
  · refine ⟨fun _ => ⟨ms, hplace, hms⟩, ?_⟩
    rintro ⟨p, hparent, hp⟩
    refine absurd (hall p ?_) hp
    rw [List.mem_reverse, mem_ancestors_iff, habove hparent]
    exact startsWith_self p
  · have hmissing := shallowestMissing_of_split hsplit hall hp
    refine ⟨fun hknown => absurd ?_ hp, fun _ => ⟨p, hmissing, hplace⟩⟩
    -- with the parent all folders above the resource are known
    cases hparent : r.folder.parent? with
    | none =>
        have hroot := hmissing.above
        rw [← under_parent?_index r.folder, hparent] at hroot
        exact absurd hroot (not_isAncestorOf_root p _)
    | some q =>
        rcases startsWith_iff.mp ((habove hparent).mp hmissing.above) with rfl | hw
        · exact hknown q hparent
        · exact mem_of_within hrs.parent_mem (hknown q hparent) hw

/-- Resources with different folders are nested if parents come first. -/
theorem forest_of_parentsFirst (hdistinct : (rs.map (·.folder)).Nodup) (h : ParentsFirst rs) :
    ∃ ns, forest rs = .ok ns ∧ Nests rs none ns := by
  induction rs using List.reverseRecOn with
  | nil => exact ⟨[], rfl, .nil none⟩
  | append_singleton rs r ih =>
      obtain ⟨hrs, hr⟩ := parentsFirst_concat_iff.mp h
      have hnodup := hdistinct
      rw [List.map_append, List.nodup_append] at hnodup
      obtain ⟨ns, hforest, hns⟩ := ih hnodup.1 hrs
      obtain ⟨ms, hplace, hms⟩ := (hns.step hrs hdistinct).1 hr
      refine ⟨ms, ?_, hms⟩
      rw [forest_concat, hforest, ok_bind, hplace]

/-- Otherwise the first resource without its parent is reported. -/
theorem forest_of_firstOrphan {before : List Resource} (hdistinct : (rs.map (·.folder)).Nodup)
    (h : FirstOrphan rs before r) :
    ∃ p, ShallowestMissing (before.map (·.folder)) r.folder p ∧
      forest rs = .error (.parentNotFound before.length r.folder p) := by
  obtain ⟨⟨after, rfl⟩, hbefore, hr⟩ := h
  rw [List.append_cons] at hdistinct ⊢
  rw [List.map_append, List.nodup_append] at hdistinct
  have hnodup := hdistinct.1
  rw [List.map_append, List.nodup_append] at hnodup
  obtain ⟨ns, hforest, hns⟩ := forest_of_parentsFirst hnodup.1 hbefore
  obtain ⟨p, hp, hplace⟩ := (hns.step hbefore hdistinct.1).2 hr
  refine ⟨p, hp, forest_append_of_error ?_ after⟩
  rw [forest_concat, hforest, ok_bind, hplace]

/-- No resource is lost and none is added. -/
theorem flattenAll_forest_perm (h : forest rs = .ok ns) : (flattenAll ns).Perm rs := by
  induction rs using List.reverseRecOn generalizing ns with
  | nil =>
      cases h
      exact .nil
  | append_singleton rs r ih =>
      rw [forest_concat] at h
      obtain ⟨ms, hforest, hplace⟩ := bind_eq_ok_iff.mp h
      exact (flattenAll_place_perm hplace).trans ((ih hforest).append_right _)

/-- Resources with different folders are nested exactly if parents come first. -/
theorem exists_forest_iff (hdistinct : (rs.map (·.folder)).Nodup) :
    (∃ ns, forest rs = .ok ns) ↔ ParentsFirst rs := by
  constructor
  · rintro ⟨ns, hns⟩
    by_contra h
    obtain ⟨before, r, horphan⟩ := exists_firstOrphan h
    obtain ⟨p, -, herror⟩ := forest_of_firstOrphan hdistinct horphan
    rw [hns] at herror
    cases herror
  · intro h
    obtain ⟨ns, hns, -⟩ := forest_of_parentsFirst hdistinct h
    exact ⟨ns, hns⟩

theorem forest_eq_error_iff (hdistinct : (rs.map (·.folder)).Nodup) {e : Context.Error} :
    forest rs = .error e ↔
      ∃ before r p, FirstOrphan rs before r ∧
        ShallowestMissing (before.map (·.folder)) r.folder p ∧
        e = .parentNotFound before.length r.folder p := by
  constructor
  · intro he
    have h : ¬ParentsFirst rs := by
      rw [← exists_forest_iff hdistinct, he]
      simp
    obtain ⟨before, r, horphan⟩ := exists_firstOrphan h
    obtain ⟨p, hp, herror⟩ := forest_of_firstOrphan hdistinct horphan
    rw [he] at herror
    exact ⟨before, r, p, horphan, hp, Except.error.inj herror⟩
  · rintro ⟨before, r, p, horphan, hp, rfl⟩
    obtain ⟨q, hq, herror⟩ := forest_of_firstOrphan hdistinct horphan
    rw [herror, hp.unique hq]

/-- A layer whose group is missing is reported with the group. -/
example : forest [.new "streets" (.root 0) "Streets",
      .new "bridges" ((((FolderPath.root 0).child 3).child 1).child 0) "Bridges"] =
    .error (.parentNotFound 1 ((((FolderPath.root 0).child 3).child 1).child 0)
      ((FolderPath.root 0).child 3)) := rfl

/-- A forest is the tree that the folders of resources describe. -/
structure TreeOf (rs : List Resource) (ns : List Node) : Prop where
  /-- Every resource has one node. -/
  perm : (flattenAll ns).Perm rs
  /-- The roots are the resources at depth zero, in the order of the list. -/
  roots : ns.map (·.resource) = rs.filter (·.depth == 0)
  /-- The children of a node are the resources whose parent is at the folder of the node, in the
  order of the list. -/
  children : ∀ above level, Level ns above level → ∀ n ∈ level,
    n.children.map (·.resource) = rs.filter (·.folder.parent? == some n.resource.folder)
  /-- The listing of the forest has nothing before a resource above it. -/
  topDown : (flattenAll ns).Pairwise fun a b => ¬b.isAncestorOf a = true

/-- Every level of the forest is one of the list. -/
theorem Nests.of_level {roots above : List Node} (h : Nests rs none roots)
    (hlevel : Level roots above level) : ∃ parent, Nests rs parent level := by
  induction hlevel with
  | roots => exact ⟨none, h⟩
  | children _ hn ih =>
      obtain ⟨parent, hparent⟩ := ih
      exact ⟨_, hparent.children hn⟩

theorem depth_eq_zero_iff : p.depth = 0 ↔ p.parent? = none := by
  obtain ⟨parent, i, rfl⟩ := exists_under p
  rw [depth_under, parent?_under, List.length_eq_zero_iff]
  exact ⟨fun h => segmentsOf_injective h, fun h => by rw [h, segmentsOf_none]⟩

theorem Nests.treeOf (h : Nests rs none ns) (hdistinct : (rs.map (·.folder)).Nodup)
    (hperm : (flattenAll ns).Perm rs) : TreeOf rs ns where
  perm := hperm
  roots := by
    rw [h.resources]
    apply List.filter_congr
    intro r _
    rw [Bool.eq_iff_iff, beq_iff_eq, beq_iff_eq, Resource.depth, depth_eq_zero_iff]
  children above level hlevel n hn := by
    obtain ⟨parent, hparent⟩ := h.of_level hlevel
    exact (hparent.children hn).resources
  topDown := h.pairwise_flattenAll hdistinct

/-- On every level of a numbered forest the sibling index of a node is its place. -/
theorem index_of_level {f : Forest} {above : List Node} {n : Node} {k : Nat}
    (h : Level (f.numbered none 0).nodes above level) (hn : level[k]? = some n) :
    n.resource.index = k := by
  obtain ⟨g, parent, earlier, later, hlocated⟩ := Context.exists_located h
  obtain ⟨hk, rfl⟩ := List.getElem?_eq_some_iff.mp hn
  have hsplit : (g.numbered parent 0).nodes = level.take k ++ level[k] :: level.drop (k + 1) := by
    rw [← hlocated.nodes, List.getElem_cons_drop, List.take_append_drop]
  obtain ⟨g₁, below, g₂, t, -, hfolder, hbefore, hnode, -⟩ := Forest.exists_of_nodes_eq hsplit
  have hwidth : k = g₁.width := by
    have hlength := congrArg List.length hbefore
    rwa [Forest.length_nodes, Forest.width_numbered, List.length_take_of_le hk.le] at hlength
  rw [hnode, resource_mk, Resource.index, hfolder, index_under, Nat.zero_add, hwidth]

/-- Resources with different folders are nested exactly if every parent comes before its children.
The forest is then the tree that the folders describe; otherwise the error names the first resource
whose parent is missing, and the shallowest missing folder above it. A valid list is the listing of
its forest, and the sibling index of a node is its place on its level. -/
theorem forest_follows_folders (rs : List Resource) (hdistinct : (rs.map (·.folder)).Nodup) :
    ((∃ ns, forest rs = .ok ns) ↔ ParentsFirst rs) ∧
    (∀ ns, forest rs = .ok ns → TreeOf rs ns) ∧
    (∀ e, forest rs = .error e ↔
      ∃ before r p, FirstOrphan rs before r ∧
        ShallowestMissing (before.map (·.folder)) r.folder p ∧
        e = .parentNotFound before.length r.folder p) ∧
    (Context.validate rs = .ok () →
      ∃ ns, forest rs = .ok ns ∧ flattenAll ns = rs ∧ (ns.map count).sum = rs.length ∧
        ∀ above level k (n : Node), Level ns above level → level[k]? = some n →
          n.resource.index = k) := by
  refine ⟨exists_forest_iff hdistinct, fun ns hns => ?_, fun e => forest_eq_error_iff hdistinct,
    fun hvalid => ?_⟩
  · have hfirst := (exists_forest_iff hdistinct).mp ⟨ns, hns⟩
    obtain ⟨ms, hms, hnests⟩ := forest_of_parentsFirst hdistinct hfirst
    obtain rfl : ns = ms := Except.ok.inj (hns.symm.trans hms)
    exact hnests.treeOf hdistinct (flattenAll_forest_perm hns)
  · obtain ⟨-, f, rfl⟩ := (Context.validate_eq_ok_iff_exists_forest rs).mp hvalid
    refine ⟨(f.numbered none 0).nodes, Forest.forest_numbered f, Forest.flattenAll_nodes _, ?_,
      fun above level k n => index_of_level⟩
    rw [← countAll_eq_sum, Forest.countAll_nodes, Forest.size_eq_length]

/-- Two roots, then what is below the first one: the layers stand behind the second root. -/
def scattered : List Resource :=
  let streets : FolderPath := .root 0
  [.new "streets" streets "Streets", .new "water" (.root 1) "Water",
    .new "roads" (streets.child 0) "Roads", .new "paths" (streets.child 1) "Paths",
    .new "bridges" ((streets.child 0).child 0) "Bridges"]

/-- The scattered layers are brought together, each below its parent. -/
theorem scattered_nested :
    (scattered.map (·.folder)).Nodup ∧ ∃ ns, forest scattered = .ok ns ∧ TreeOf scattered ns ∧
      (flattenAll ns).map (·.id) = ["streets", "roads", "bridges", "paths", "water"] := by
  have hdistinct : (scattered.map (·.folder)).Nodup := by decide
  have hforest : ∃ ns, forest scattered = .ok ns ∧
      (flattenAll ns).map (·.id) = ["streets", "roads", "bridges", "paths", "water"] :=
    ⟨_, rfl, rfl⟩
  obtain ⟨ns, hns, hids⟩ := hforest
  obtain ⟨-, htree, -, -⟩ := forest_follows_folders scattered hdistinct
  exact ⟨hdistinct, ns, hns, htree ns hns, hids⟩

end Node

end MapContext
