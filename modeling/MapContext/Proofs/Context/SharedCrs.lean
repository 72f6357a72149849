import MapContext.Proofs.Context.Reachable

/-!
# The cached reference systems

A context keeps the reference systems that its active resources share. They are computed when a
context is made and by every edit but a move; a move may change which resource comes first, and
the order of the codes is that of the first resource. The cached codes are those of the resources
as they stood before the moves since.
-/

namespace MapContext

namespace Context

open FolderPath

variable {rs ss : List Resource} {p : FolderPath}

/-- The codes of the active resources that declare any, in canonical spelling. -/
def declared (rs : List Resource) : List (List String) :=
  (rs.filter fun r => r.isActive && !r.properties.crs.isEmpty).map
    fun r => r.properties.crs.map Crs.normalize

/-- The codes of the first active resource that declares any. -/
def leading (rs : List Resource) : List String :=
  match declared rs with
  | [] => []
  | first :: _ => first.eraseDups

/-- Every active resource that declares codes declares this one. -/
def isShared (rs : List Resource) (code : String) : Bool :=
  (declared rs).all (·.contains code)

theorem foldl_filter_contains (first : List String) (rest : List (List String)) :
    rest.foldl (fun acc codes => acc.filter codes.contains) first =
      first.filter fun code => rest.all (·.contains code) := by
  induction rest generalizing first with
  | nil => simp
  | cons codes rest ih =>
      rw [List.foldl_cons, ih, List.filter_filter]
      apply List.filter_congr
      intro code _
      simp [Bool.and_comm]

/-- The shared codes are those of the first resource that all others declare too. -/
theorem sharedCrs_eq_filter (rs : List Resource) :
    sharedCrs rs = (leading rs).filter (isShared rs) := by
  have hcases : sharedCrs rs = match declared rs with
      | [] => []
      | first :: rest => rest.foldl (fun acc codes => acc.filter codes.contains) first.eraseDups :=
    rfl
  cases h : declared rs with
  | nil => simp [hcases, leading, h]
  | cons first rest =>
      simp only [hcases, leading, h, foldl_filter_contains]
      apply List.filter_congr
      intro code hcode
      have hfirst : first.contains code = true := by
        simpa using List.mem_eraseDups.mp hcode
      simp only [isShared, h, List.all_cons, hfirst, Bool.true_and]

/-! ### What a move keeps -/

theorem map_declared (rs : List Resource) (p : FolderPath) :
    declared (rs.map (·.atFolder p)) = declared rs := by
  simp only [declared, List.filter_map, List.map_map]
  rfl

/-- Which codes are shared depends neither on folders nor on the order of the resources. -/
theorem isShared_congr (h : (rs.map (·.atFolder p)).Perm (ss.map (·.atFolder p))) :
    isShared rs = isShared ss := by
  funext code
  rw [isShared, isShared, ← map_declared rs p, ← map_declared ss p]
  exact ((h.filter _).map _).all_eq

theorem map_atFolder_shiftSiblings (shift : Shift) (slot : Option FolderPath) (k : Nat)
    (rs : List Resource) (p : FolderPath) :
    (shiftSiblings shift slot k rs).map (·.atFolder p) = rs.map (·.atFolder p) := by
  rw [shiftSiblings, List.map_map]
  apply List.map_congr_left
  intro r _
  simp only [Function.comp_apply]
  split <;> rfl

theorem map_atFolder_renumberFrom (base : Nat) (top previous : FolderPath) (offset : Nat)
    (rs : List Resource) (p : FolderPath) :
    (renumberFrom base top previous offset rs).1.map (·.atFolder p) = rs.map (·.atFolder p) := by
  induction rs generalizing previous offset with
  | nil => rfl
  | cons r rs ih =>
      simp only [renumberFrom]
      split
      · rfl
      · split
        · rfl
        · simp [ih]

theorem map_atFolder_renumbered {parent : Option FolderPath} {start : Nat}
    (h : renumbered parent start rs = .ok ss) (p : FolderPath) :
    ss.map (·.atFolder p) = rs.map (·.atFolder p) := by
  have hfst : ss = (renumber parent start rs).1 := by
    unfold renumbered at h
    split at h
    · next heq =>
        rw [heq]
        exact (Except.ok.inj h).symm
    · cases h
  rw [hfst]
  cases rs with
  | nil => rfl
  | cons r rs => simp [renumber, map_atFolder_renumberFrom]

theorem cutSubtree_perm (rs : List Resource) (place : Nat) :
    ((cutSubtree rs place).1 ++ (cutSubtree rs place).2.2 ++ (cutSubtree rs place).2.1).Perm
      rs := by
  refine (Forest.append_swap _ _ _).trans (.of_eq ?_)
  rw [List.append_assoc, cutSubtree_parts]

/-- A move keeps the resources but for their folders and order, and it keeps the cached codes. -/
theorem move_keeps {c c' : Context} {source : Resource.Id} {target : Option Resource.Id}
    {position : Position} {outcome : MoveOutcome}
    (h : c.move source target position = .ok (c', outcome)) (p : FolderPath) :
    (c'.features.map (·.atFolder p)).Perm (c.features.map (·.atFolder p)) ∧ c'.crs = c.crs := by
  rcases move_eq_ok_cases h with rfl | ⟨place, old, slot, i, k, branch, hbranch, hcommit⟩
  · exact ⟨.refl _, rfl⟩
  · obtain ⟨-, rfl⟩ := commit_eq_ok_iff.mp hcommit
    refine ⟨?_, rfl⟩
    refine ((List.mergeSort_perm _ _).map _).trans ?_
    rw [List.map_append, map_atFolder_shiftSiblings, map_atFolder_shiftSiblings,
      map_atFolder_renumbered hbranch, ← List.map_append]
    exact (cutSubtree_perm c.features place).map _

/-! ### When the cached codes are right -/

/-- The context, and the resources from which its cached codes were computed last. -/
inductive Cached : List Resource → Context → Prop
  /-- An empty context has no codes. -/
  | empty (id : String) : Cached [] (Context.empty id)
  /-- The codes are computed when a context is made of resources. -/
  | new {id : String} {features : List Resource} {c : Context} :
      Context.new id features = .ok c → Cached c.features c
  /-- The codes are computed when a document is loaded. -/
  | document {d : Document} {c : Context} : ofDocument d = .ok c → Cached c.features c
  /-- A move keeps the codes. -/
  | move {basis : List Resource} {c c' : Context} {source : Resource.Id}
      {target : Option Resource.Id} {position : Position} :
      Cached basis c → Edit.apply c (.move source target position) = .ok c' → Cached basis c'
  /-- Every other edit computes them anew. -/
  | edit {basis : List Resource} {c c' : Context} {e : Edit} :
      Cached basis c → (∀ source target position, e ≠ .move source target position) →
      e.apply c = .ok c' → Cached c'.features c'

/-- Every reachable context has cached codes from some time. -/
theorem reachable_iff_cached {c : Context} : Reachable c ↔ ∃ basis, Cached basis c := by
  constructor
  · intro h
    induction h with
    | empty id => exact ⟨[], .empty id⟩
    | new h => exact ⟨_, .new h⟩
    | document h => exact ⟨_, .document h⟩
    | edit e _ he ih =>
        obtain ⟨basis, hbasis⟩ := ih
        cases e with
        | move source target position => exact ⟨basis, .move hbasis he⟩
        | insert target resource position => exact ⟨_, .edit hbasis (by simp) he⟩
        | remove target => exact ⟨_, .edit hbasis (by simp) he⟩
        | activate target active => exact ⟨_, .edit hbasis (by simp) he⟩
        | append href capabilities fresh => exact ⟨_, .edit hbasis (by simp) he⟩
  · rintro ⟨basis, h⟩
    induction h with
    | empty id => exact .empty id
    | new h => exact .new h
    | document h => exact .document h
    | move _ h ih => exact .edit _ ih h
    | edit _ _ h ih => exact .edit _ ih h

/-- Every edit but a move leaves the codes of the new resources. -/
theorem crs_of_apply {c c' : Context} {e : Edit}
    (hmove : ∀ source target position, e ≠ .move source target position)
    (h : e.apply c = .ok c') : c'.crs = sharedCrs c'.features := by
  cases e with
  | move source target position => exact absurd rfl (hmove source target position)
  | insert target resource position =>
      obtain ⟨_, _, _, c₁, -, -, rfl⟩ := insert_eq_ok_cases h
      rfl
  | remove target =>
      obtain ⟨⟨_, removed⟩, hremove, rfl⟩ := map_eq_ok_iff.mp h
      obtain ⟨_, _, c₁, -, -, -, rfl⟩ := remove_eq_ok_cases hremove
      rfl
  | activate target active =>
      obtain ⟨t, -, rfl⟩ := activate_eq_ok_cases h
      rfl
  | append href capabilities fresh =>
      obtain ⟨⟨_, ids⟩, happend, rfl⟩ := map_eq_ok_iff.mp h
      obtain ⟨_, c₁, -, -, -, rfl⟩ := append_eq_ok_cases happend
      rfl

/-- The cached codes are those of the resources from which they were computed, and these are the
resources of the context but for their folders and their order. -/
theorem Cached.crs_eq {basis : List Resource} {c : Context} (h : Cached basis c) (p : FolderPath) :
    c.crs = sharedCrs basis ∧ (c.features.map (·.atFolder p)).Perm (basis.map (·.atFolder p)) := by
  induction h with
  | empty id => exact ⟨rfl, .refl _⟩
  | new h =>
      obtain ⟨-, rfl⟩ := new_eq_ok_iff.mp h
      exact ⟨rfl, .refl _⟩
  | document h =>
      obtain ⟨-, -, -, rfl⟩ := ofDocument_eq_ok_iff.mp h
      exact ⟨rfl, .refl _⟩
  | move _ h ih =>
      obtain ⟨⟨_, outcome⟩, hmove, rfl⟩ := map_eq_ok_iff.mp h
      obtain ⟨hperm, hcrs⟩ := move_keeps hmove p
      exact ⟨hcrs.trans ih.1, hperm.trans ih.2⟩
  | edit _ hne h _ => exact ⟨crs_of_apply hne h, .refl _⟩

/-- The first resources that declare codes, among the earlier ones and among the present ones, list
the shared codes in the same order. -/
def SameLead (basis rs : List Resource) : Prop :=
  (leading basis).filter (isShared rs) = (leading rs).filter (isShared rs)

/-- A valid context can be loaded from its document if every resource says that it is one. -/
theorem ofDocument_toDocument_eq_ok_iff {c c' : Context} (hvalid : validate c.features = .ok ()) :
    ofDocument c.toDocument = .ok c' ↔
      (∀ r ∈ c.features, r.kind = resourceKind) ∧
        c' = { c with
          properties := c.toDocument.properties
          services := []
          crs := sharedCrs c.features } := by
  rw [ofDocument_eq_ok_iff]
  constructor
  · rintro ⟨-, hkinds, -, rfl⟩
    exact ⟨hkinds, rfl⟩
  · rintro ⟨hkinds, rfl⟩
    exact ⟨rfl, hkinds, hvalid, rfl⟩

/-- The cached codes are those of the present resources exactly if the moves since they were
computed left the shared codes in the order of the first resource. Loading the saved context gives
the same codes and the same preferred one exactly if, besides, it can be loaded. -/
theorem crs_eq_sharedCrs_iff {basis : List Resource} {c : Context} (h : Cached basis c) :
    (c.crs = sharedCrs c.features ↔ SameLead basis c.features) ∧
      ((∃ c', ofDocument c.toDocument = .ok c' ∧ c'.crs = c.crs ∧
          c'.preferredCrs? = c.preferredCrs?) ↔
        (∀ r ∈ c.features, r.kind = resourceKind) ∧ SameLead basis c.features) := by
  obtain ⟨hcrs, hperm⟩ := h.crs_eq (.root 0)
  have hvalid := (reachable_iff_cached.mpr ⟨basis, h⟩).valid
  have hlead : c.crs = sharedCrs c.features ↔ SameLead basis c.features := by
    rw [hcrs, sharedCrs_eq_filter, sharedCrs_eq_filter, ← isShared_congr hperm, SameLead]
  refine ⟨hlead, ?_⟩
  rw [← hlead]
  simp only [ofDocument_toDocument_eq_ok_iff hvalid]
  constructor
  · rintro ⟨c', ⟨hkinds, rfl⟩, hsame, -⟩
    exact ⟨hkinds, hsame.symm⟩
  · rintro ⟨hkinds, hsame⟩
    exact ⟨_, ⟨hkinds, rfl⟩, hsame.symm, by rw [preferredCrs?, preferredCrs?, hsame]⟩

/-- An active layer with codes. -/
def layer (id : Resource.Id) (index : Nat) (crs : List String) : Resource :=
  .switched (.withCrs (.new id ((FolderPath.root 0).child index) id) crs) true

/-- Two layers of a group that list the same codes in different orders. -/
def crossed : List Resource :=
  [.new "group" (.root 0) "Group", layer "a" 0 ["EPSG:4326", "EPSG:3857"],
    layer "b" 1 ["EPSG:3857", "EPSG:4326"]]

/-- A map of them, with its codes. -/
def crossedMap : Context := { Context.empty "map" with features := crossed }.refreshCrs

theorem new_crossed : Context.new "map" crossed = .ok crossedMap := by rfl

/-- The second layer in front of the first one. -/
def swapped : List Resource :=
  [.new "group" (.root 0) "Group", layer "b" 0 ["EPSG:3857", "EPSG:4326"],
    layer "a" 1 ["EPSG:4326", "EPSG:3857"]]

/-- The second layer as a root beside the group. -/
def parted : List Resource :=
  [.new "group" (.root 0) "Group", layer "a" 0 ["EPSG:4326", "EPSG:3857"],
    (layer "b" 1 ["EPSG:3857", "EPSG:4326"]).atFolder (.root 1)]

/-- Moving the second layer out of the group leaves the codes right, since the first one still comes
first. -/
theorem crs_eq_sharedCrs_parted :
    ∃ c, (Edit.move "b" (some "group") .right).apply crossedMap = .ok c ∧ Cached crossed c ∧
      c.features = parted ∧ c.crs = sharedCrs c.features ∧
      ∃ c', ofDocument c.toDocument = .ok c' ∧ c'.crs = c.crs ∧
        c'.preferredCrs? = c.preferredCrs? := by
  let c : Context := { crossedMap with features := parted }
  have hcommit : crossedMap.commit parted = .ok c :=
    commit_of_perm (f := .tree (.new "group" (.root 0) "Group")
        (.tree (layer "a" 0 ["EPSG:4326", "EPSG:3857"]) .nil .nil)
        (.tree (layer "b" 1 ["EPSG:3857", "EPSG:4326"]) .nil .nil))
      (by decide) (.refl _)
  let outcome : MoveOutcome := .moved ((FolderPath.root 0).child 1) (.root 1)
  have hmove : (Edit.move "b" (some "group") .right).apply crossedMap = .ok c :=
    congrArg (fun committed => (committed >>= fun c => pure (c, outcome)).map (·.1)) hcommit
  have hcached : Cached crossed c := .move (.new new_crossed) hmove
  have hkinds : ∀ r ∈ c.features, r.kind = resourceKind := by decide
  obtain ⟨hcrs, hreload⟩ := crs_eq_sharedCrs_iff hcached
  exact ⟨c, hmove, hcached, rfl, hcrs.mpr rfl, hreload.mpr ⟨hkinds, rfl⟩⟩

/-- Moving the second layer in front of the first one leaves the codes in the old order; loading
the saved context gives the other order and prefers another code. -/
theorem stale_crs_after_move :
    ∃ c c' : Context, Reachable c ∧ c.crs ≠ sharedCrs c.features ∧
      ofDocument c.toDocument = .ok c' ∧ c'.crs ≠ c.crs ∧
      c'.preferredCrs? ≠ c.preferredCrs? := by
  let c : Context := { crossedMap with features := swapped }
  -- the moved layer is appended last and sorted into its place
  have hcommit : crossedMap.commit
      [.new "group" (.root 0) "Group", layer "a" 1 ["EPSG:4326", "EPSG:3857"],
        layer "b" 0 ["EPSG:3857", "EPSG:4326"]] = .ok c :=
    commit_of_perm (f := .tree (.new "group" (.root 0) "Group")
        (.tree (layer "b" 0 ["EPSG:3857", "EPSG:4326"]) .nil
          (.tree (layer "a" 1 ["EPSG:4326", "EPSG:3857"]) .nil .nil)) .nil)
      (by decide) ((List.Perm.swap _ _ _).cons _)
  let outcome : MoveOutcome :=
    .moved ((FolderPath.root 0).child 1) ((FolderPath.root 0).child 0)
  have hmove : (Edit.move "b" (some "a") .left).apply crossedMap = .ok c :=
    congrArg (fun committed => (committed >>= fun c => pure (c, outcome)).map (·.1)) hcommit
  have hreachable : Reachable c := .edit _ (.new new_crossed) hmove
  have hcached : c.crs = ["EPSG:4326", "EPSG:3857"] := by decide +kernel
  have hshared : sharedCrs c.features = ["EPSG:3857", "EPSG:4326"] := by decide +kernel
  have hkinds : ∀ r ∈ c.features, r.kind = resourceKind := by decide
  refine ⟨c, _, hreachable, ?_,
    (ofDocument_toDocument_eq_ok_iff hreachable.valid).mpr ⟨hkinds, rfl⟩, ?_, ?_⟩
  · rw [hcached, hshared]
    decide
  · show sharedCrs c.features ≠ c.crs
    rw [hcached, hshared]
    decide
  · show (sharedCrs c.features).findSome? Crs.native? ≠ c.crs.findSome? Crs.native?
    rw [hcached, hshared]
    decide +kernel

end Context

end MapContext
