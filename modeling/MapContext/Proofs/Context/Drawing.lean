import MapContext.Context.Batch
import MapContext.Proofs.Forest.Leaves

/-!
# Drawn resources

A resource is drawn if it is active, has a map request, and nothing above it is drawn. In document
order the last one of all earlier resources of a kind stands between an earlier one above a
resource and the resource itself, so it lies at or below the former. Hence one folder tells whether
something above a resource is drawn, and the last root that was met is the root above it.
-/

namespace MapContext

namespace FolderPath

variable {p q r t : FolderPath}

/-- A folder lies in the tree of one root. -/
theorem rootPath_eq_iff (ht : t.depth = 0) : p.rootPath = t ↔ p.startsWith t = true := by
  have hlength := List.length_pos_iff.mpr t.nonempty
  rw [depth] at ht
  obtain ⟨i, hi⟩ := List.length_eq_one_iff.mp (by omega : t.segments.length = 1)
  obtain ⟨j, rest, hj⟩ := List.exists_cons_of_ne_nil p.nonempty
  have hroot : p.rootPath.segments = [j] := by simp [rootPath, root, hj]
  rw [startsWith_iff_segments, hi, hj, List.cons_prefix_cons]
  constructor
  · rintro rfl
    exact ⟨(List.cons.inj (hi.symm.trans hroot)).1, List.nil_prefix⟩
  · rintro ⟨rfl, -⟩
    exact eq_of_segments (hroot.trans hi.symm)

@[simp] theorem depth_rootPath (p : FolderPath) : p.rootPath.depth = 0 := rfl

theorem startsWith_rootPath (p : FolderPath) : p.startsWith p.rootPath = true :=
  (rootPath_eq_iff (depth_rootPath p)).mp rfl

theorem rootPath_of_depth_eq_zero (h : p.depth = 0) : p.rootPath = p :=
  (rootPath_eq_iff h).mpr (startsWith_self p)

end FolderPath

namespace Context

open FolderPath

/-- Whether a resource is drawn by a request for itself: it is active, has a map request, and no
resource above it is drawn. -/
def draws (features : List Resource) (r : Resource) : Bool :=
  r.isActive && r.mapHref?.isSome &&
    features.all fun a => if _ : a.isAncestorOf r = true then !draws features a else true
termination_by r.folder.segments.length
decreasing_by
  next h =>
    rw [Resource.isAncestorOf, isAncestorOf, Bool.and_eq_true, decide_eq_true_eq] at h
    exact h.1

/-- The address of the map request by which a resource is drawn. -/
def address? (features : List Resource) (r : Resource) : Option String :=
  if draws features r then r.mapHref? else none

/-- The drawn ones among resources, with the addresses of their map requests. -/
def drawn (features rs : List Resource) : List (Resource × String) :=
  rs.filterMap fun r => (address? features r).map (r, ·)

variable {features before rest : List Resource} {a r s t : Resource}

theorem draws_iff : draws features r = true ↔
    r.isActive = true ∧ r.mapHref?.isSome = true ∧
      ∀ a ∈ features, a.isAncestorOf r = true → ¬draws features a = true := by
  rw [draws, Bool.and_eq_true, Bool.and_eq_true, and_assoc, List.all_eq_true]
  refine and_congr_right fun _ => and_congr_right fun _ => forall₂_congr fun a _ => ?_
  by_cases h : a.isAncestorOf r = true
  · simp [h]
  · simp [h]

theorem isSome_address? (features : List Resource) (r : Resource) :
    (address? features r).isSome = draws features r := by
  rw [address?]
  split
  · next hdraws =>
      rw [hdraws]
      exact (draws_iff.mp hdraws).2.1
  · next hdraws => exact (Bool.not_eq_true _ ▸ hdraws).symm

theorem drawn_cons_of_none (h : address? features r = none) :
    drawn features (r :: rest) = drawn features rest := by
  simp [drawn, h]

theorem drawn_cons_of_some {href : String} (h : address? features r = some href) :
    drawn features (r :: rest) = (r, href) :: drawn features rest := by
  simp [drawn, h]

/-! ### The last resource of a kind -/

/-- The last one of a kind among resources. -/
def last? (kind : Resource → Bool) (rs : List Resource) : Option Resource :=
  (rs.filter kind).getLast?

variable {kind : Resource → Bool}

theorem last?_concat (kind : Resource → Bool) (rs : List Resource) (r : Resource) :
    last? kind (rs ++ [r]) = if kind r then some r else last? kind rs := by
  rw [last?, List.filter_append]
  by_cases hkind : kind r = true
  · rw [if_pos hkind, List.filter_cons_of_pos hkind, List.filter_nil, List.getLast?_concat]
  · rw [if_neg hkind, List.filter_cons_of_neg hkind, List.filter_nil, List.append_nil, last?]

theorem mem_of_last? (h : last? kind before = some t) : t ∈ before ∧ kind t = true :=
  List.mem_filter.mp (List.mem_of_getLast? h)

/-- If one of a kind is above a resource, the last one before the resource is at or below it. -/
theorem exists_last?_below (hlt : ((before ++ r :: rest).map (·.folder)).Pairwise (· < ·))
    (ha : a ∈ before ++ r :: rest) (hkind : kind a = true) (habove : a.isAncestorOf r = true) :
    ∃ l, last? kind before = some l ∧ l.folder.startsWith a.folder = true := by
  have hkept : a ∈ before.filter kind ++ r :: rest := by
    rcases List.mem_append.mp ha with ha | ha
    · exact List.mem_append_left _ (List.mem_filter.mpr ⟨ha, hkind⟩)
    · exact List.mem_append_right _ ha
  have hsub : (before.filter kind ++ r :: rest).Sublist (before ++ r :: rest) :=
    List.filter_sublist.append_right _
  have hfiltered := hlt.sublist (hsub.map (·.folder))
  have hmem := List.mem_map_of_mem (f := (·.folder)) hkept
  rw [List.map_append, List.map_cons] at hfiltered hmem
  obtain ⟨last, hlast, hle, hnext⟩ :=
    exists_last_before hfiltered hmem (lt_of_isAncestorOf habove)
  rw [List.getLast?_map, Option.map_eq_some_iff] at hlast
  obtain ⟨l, hl, rfl⟩ := hlast
  exact ⟨l, hl,
    startsWith_of_between (isAncestorOf_iff_startsWith.mp habove).2 hle (le_of_lt hnext)⟩

/-! ### The last drawn resource -/

/-- The last drawn resource tells whether one is drawn that is above. -/
theorem covered_iff (hlt : (features.map (·.folder)).Pairwise (· < ·))
    (hfeatures : features = before ++ r :: rest) :
    (((last? (draws features) before).map (·.folder)).any (·.isAncestorOf r.folder)) = true ↔
      ∃ a ∈ features, a.isAncestorOf r = true ∧ draws features a = true := by
  constructor
  · intro hcovered
    cases hl : last? (draws features) before with
    | none =>
        rw [hl] at hcovered
        cases hcovered
    | some l =>
        rw [hl] at hcovered
        obtain ⟨hmem, hdrawn⟩ := mem_of_last? hl
        refine ⟨l, ?_, hcovered, hdrawn⟩
        rw [hfeatures]
        exact List.mem_append_left _ hmem
  · rintro ⟨a, ha, habove, hdrawn⟩
    obtain ⟨l, hl, hbelow⟩ := exists_last?_below (hfeatures ▸ hlt) (hfeatures ▸ ha) hdrawn habove
    -- two drawn resources are never above each other
    have hfolder : l.folder = a.folder := by
      by_contra hne
      have hal : a.isAncestorOf l = true := isAncestorOf_iff_startsWith.mpr ⟨hne, hbelow⟩
      exact (draws_iff.mp (mem_of_last? hl).2).2.2 a ha hal hdrawn
    rw [hl, Option.map_some, Option.any_some, hfolder]
    exact habove

/-- Looking at the last drawn resource only, resources are drawn as they should be. -/
theorem drawnFrom?_eq (hlt : (features.map (·.folder)).Pairwise (· < ·))
    (hfeatures : features = before ++ r :: rest) :
    Batch.drawnFrom? ((last? (draws features) before).map (·.folder)) r = address? features r := by
  have hcovered := covered_iff hlt hfeatures
  rw [Batch.drawnFrom?, address?]
  by_cases hdraws : draws features r = true
  · obtain ⟨hactive, -, habove⟩ := draws_iff.mp hdraws
    rw [if_pos hdraws, if_neg]
    rw [Bool.or_eq_true, hcovered, hactive]
    rintro (⟨a, ha, har, hdrawn⟩ | hinactive)
    · exact habove a ha har hdrawn
    · cases hinactive
  · rw [if_neg hdraws]
    split
    · rfl
    · next hfree =>
        rw [Bool.or_eq_true, not_or, hcovered] at hfree
        obtain ⟨habove, hactive⟩ := hfree
        by_contra hsome
        refine hdraws (draws_iff.mpr ⟨?_, Option.isSome_iff_ne_none.mpr hsome, ?_⟩)
        · simpa using hactive
        · intro a ha har hdrawn
          exact habove ⟨a, ha, har, hdrawn⟩

theorem covered_concat (features before : List Resource) (r : Resource) :
    (last? (draws features) (before ++ [r])).map (·.folder) =
      if (address? features r).isSome then some r.folder
      else (last? (draws features) before).map (·.folder) := by
  rw [last?_concat, isSome_address?]
  split <;> rfl

/-! ### The last root -/

/-- The last root among resources. -/
def lastRoot? (rs : List Resource) : Option Resource := last? (·.depth == 0) rs

theorem lastRoot?_concat (rs : List Resource) (r : Resource) :
    lastRoot? (rs ++ [r]) = if r.depth == 0 then some r else lastRoot? rs :=
  last?_concat (·.depth == 0) rs r

theorem mem_of_lastRoot? (h : lastRoot? before = some t) : t ∈ before ∧ t.depth = 0 := by
  obtain ⟨hmem, hroot⟩ := mem_of_last? h
  exact ⟨hmem, beq_iff_eq.mp hroot⟩

/-- The last root up to a resource is the root above it, or the resource itself. -/
theorem exists_lastRoot? (h : Contiguous ((before ++ r :: rest).map (·.folder))) :
    ∃ t, lastRoot? (before ++ [r]) = some t ∧ r.folder.rootPath = t.folder := by
  rw [lastRoot?_concat]
  by_cases hroot : r.depth = 0
  · exact ⟨r, if_pos (beq_iff_eq.mpr hroot), rootPath_of_depth_eq_zero hroot⟩
  · have hne : r.folder ≠ r.folder.rootPath := by
      intro heq
      apply hroot
      rw [Resource.depth, heq, depth_rootPath]
    have habove := isAncestorOf_iff_startsWith.mpr ⟨hne, startsWith_rootPath r.folder⟩
    have hself : r.folder ∈ (before ++ r :: rest).map (·.folder) :=
      List.mem_map_of_mem (List.mem_append_right _ List.mem_cons_self)
    obtain ⟨a, ha, hfolder⟩ :=
      List.mem_map.mp (h.mem_of_within hself (isAncestorOf_iff.mp habove))
    have hdepth : (a.depth == 0) = true := by
      rw [beq_iff_eq, Resource.depth, hfolder, depth_rootPath]
    have har : a.isAncestorOf r = true := by
      rw [Resource.isAncestorOf, hfolder]
      exact habove
    obtain ⟨l, hl, hbelow⟩ : ∃ l, lastRoot? before = some l ∧ _ :=
      exists_last?_below h.ascending ha hdepth har
    refine ⟨l, (if_neg (mt beq_iff_eq.mp hroot)).trans hl, ?_⟩
    -- a root at or below the root above is this root
    have hlroot := (mem_of_lastRoot? hl).2
    have hlfolder := (rootPath_eq_iff (depth_rootPath r.folder)).mpr (hfolder ▸ hbelow)
    rw [← hlfolder, rootPath_of_depth_eq_zero hlroot]

/-- Nothing from a later root on lies in the tree of a root. -/
theorem rootPath_ne_of_later (hlt : ((before ++ r :: rest).map (·.folder)).Pairwise (· < ·))
    (ht : lastRoot? before = some t) (hr : r.depth = 0) (hs : s ∈ r :: rest) :
    s.folder.rootPath ≠ t.folder := by
  obtain ⟨hmem, htroot⟩ := mem_of_lastRoot? ht
  rw [List.pairwise_map] at hlt
  obtain ⟨-, hafter, hacross⟩ := List.pairwise_append.mp hlt
  have htr := hacross t hmem r List.mem_cons_self
  have hrs : r.folder ≤ s.folder := by
    rcases List.mem_cons.mp hs with rfl | hs
    · exact lt_irrefl s.folder
    · exact le_of_lt ((List.pairwise_cons.mp hafter).1 s hs)
  intro hsame
  have hrt := startsWith_of_between ((rootPath_eq_iff htroot).mp hsame) (le_of_lt htr) hrs
  have heq := (rootPath_eq_iff htroot).mpr hrt
  rw [rootPath_of_depth_eq_zero hr] at heq
  rw [heq] at htr
  exact lt_irrefl _ htr

end Context

end MapContext
