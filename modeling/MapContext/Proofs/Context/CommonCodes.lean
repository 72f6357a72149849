import MapContext.Proofs.Context.SharedCrs

/-!
# Which reference systems resources share

The shared codes are computed by a walk through the resources: the first that declares codes gives
the list, every later one strikes out what it does not declare. Which codes stay does not depend on
where the walk began; the first resource decides in which order they stand.
-/

namespace MapContext

namespace Resource

/-- The resource is active and declares codes. -/
def Declares (r : Resource) : Prop := r.isActive = true ∧ r.properties.crs ≠ []

instance (r : Resource) : Decidable r.Declares :=
  inferInstanceAs (Decidable (r.isActive = true ∧ r.properties.crs ≠ []))

/-- The declared codes as they are compared: without blanks at the ends and in capitals. -/
def codes (r : Resource) : List String :=
  r.properties.crs.map fun code => Text.upper (Text.trim code)

end Resource

namespace Context

variable {rs ss before after : List Resource} {first : Resource} {code : String}

/-- Without its repetitions a list keeps the order in which its members first occur. -/
theorem pairwise_idxOf_eraseDups (l : List String) :
    l.eraseDups.Pairwise fun a b => l.idxOf a < l.idxOf b := by
  induction l using List.reverseRecOn with
  | nil => exact List.Pairwise.nil
  | append_singleton l code ih =>
      have hsame : ∀ a ∈ l, (l ++ [code]).idxOf a = l.idxOf a := fun a ha => by
        rw [List.idxOf_append, if_pos ha]
      have hkept : l.eraseDups.Pairwise fun a b =>
          (l ++ [code]).idxOf a < (l ++ [code]).idxOf b := by
        refine ih.imp_of_mem fun {a b} ha hb hab => ?_
        rwa [hsame a (List.mem_eraseDups.mp ha), hsame b (List.mem_eraseDups.mp hb)]
      rw [List.eraseDups_append]
      by_cases hcode : code ∈ l
      · simpa [List.removeAll, hcode] using hkept
      · have hnew : ([code].removeAll l).eraseDups = [code] := by
          simp [List.removeAll, hcode, List.eraseDups_cons]
        rw [hnew, List.pairwise_append]
        refine ⟨hkept, List.pairwise_singleton _ _, fun a ha b hb => ?_⟩
        obtain rfl := List.mem_singleton.mp hb
        have hmem := List.mem_eraseDups.mp ha
        rw [hsame a hmem, List.idxOf_append, if_neg hcode]
        exact (List.idxOf_lt_length_of_mem hmem).trans_le (Nat.le_add_left _ _)

theorem declared_eq (rs : List Resource) :
    declared rs = (rs.filter fun r => decide r.Declares).map Resource.codes := by
  have hdeclares : (fun r : Resource => r.isActive && !r.properties.crs.isEmpty) =
      fun r => decide r.Declares := by
    funext r
    rw [Bool.eq_iff_iff, decide_eq_true_iff]
    simp [Resource.Declares]
  rw [declared, hdeclares]
  rfl

theorem declared_ne_nil_iff : declared rs ≠ [] ↔ ∃ r ∈ rs, r.Declares := by
  simp [declared_eq]

theorem isShared_iff : isShared rs code = true ↔ ∀ r ∈ rs, r.Declares → code ∈ r.codes := by
  simp [isShared, declared_eq, imp_iff_not_or]

theorem leading_of_first (hbefore : ∀ r ∈ before, ¬r.Declares) (hfirst : first.Declares) :
    leading (before ++ first :: after) = first.codes.eraseDups := by
  have hnone : (before.filter fun r => decide r.Declares) = [] :=
    List.filter_eq_nil_iff.mpr fun r hr => by simpa using hbefore r hr
  simp [leading, declared_eq, hnone, hfirst]

/-- Once every resource that declares codes declares this one, the first of them does. -/
theorem mem_leading (hsome : ∃ r ∈ rs, r.Declares) (h : isShared rs code = true) :
    code ∈ leading rs := by
  have hne := declared_ne_nil_iff.mpr hsome
  unfold leading
  unfold isShared at h
  cases hcodes : declared rs with
  | nil => exact absurd hcodes hne
  | cons first rest =>
      rw [hcodes, List.all_cons, Bool.and_eq_true] at h
      simpa using h.1

theorem declares_of_mem_leading (h : code ∈ leading rs) : ∃ r ∈ rs, r.Declares := by
  rw [← declared_ne_nil_iff]
  intro hnil
  simp [leading, hnil] at h

theorem mem_sharedCrs_iff : code ∈ sharedCrs rs ↔
    (∃ r ∈ rs, r.Declares) ∧ ∀ r ∈ rs, r.Declares → code ∈ r.codes := by
  rw [sharedCrs_eq_filter, List.mem_filter, ← isShared_iff]
  exact ⟨fun ⟨hlead, hshared⟩ => ⟨declares_of_mem_leading hlead, hshared⟩,
    fun ⟨hsome, hshared⟩ => ⟨mem_leading hsome hshared, hshared⟩⟩

theorem nodup_leading (rs : List Resource) : (leading rs).Nodup := by
  unfold leading
  split
  · exact List.nodup_nil
  · next codes _ _ =>
      refine (pairwise_idxOf_eraseDups codes).imp ?_
      rintro a _ hlt rfl
      exact hlt.ne rfl

theorem nodup_sharedCrs (rs : List Resource) : (sharedCrs rs).Nodup := by
  rw [sharedCrs_eq_filter]
  exact (nodup_leading rs).filter _

/-- Only the resources that declare codes are looked at. -/
theorem sharedCrs_congr
    (h : (rs.filter fun r => decide r.Declares) = ss.filter fun r => decide r.Declares) :
    sharedCrs rs = sharedCrs ss := by
  have hdeclared : declared rs = declared ss := by rw [declared_eq, declared_eq, h]
  rw [sharedCrs_eq_filter, sharedCrs_eq_filter, leading, leading, hdeclared]
  congr 1
  funext code
  rw [isShared, isShared, hdeclared]

/-- Blanks and capitals make no difference, and an inactive resource takes no code away. -/
example (r : Resource) :
    let declaring (active : Bool) (crs : List String) : Resource :=
      { r with properties := { r.properties with active, crs } }
    sharedCrs [declaring true ["EPSG:4326", "epsg:25832 ", "EPSG:3857"],
      declaring true ["EPSG:3857", "EPSG:25832"], declaring false ["EPSG:4326"]] =
        ["EPSG:25832", "EPSG:3857"] := by cbv

/-- The shared codes are those that every active resource with codes declares. Each stands once,
and they stand as they first occur in the first such resource. -/
theorem sharedCrs_intersection (rs : List Resource) :
    (∀ code, code ∈ sharedCrs rs ↔
      (∃ r ∈ rs, r.Declares) ∧ ∀ r ∈ rs, r.Declares → code ∈ r.codes) ∧
    (sharedCrs rs).Nodup ∧
    (∀ before first after, rs = before ++ first :: after → (∀ r ∈ before, ¬r.Declares) →
      first.Declares →
      (sharedCrs rs).Pairwise fun a b => first.codes.idxOf a < first.codes.idxOf b) ∧
    (∀ ss, (rs.filter fun r => decide r.Declares) = (ss.filter fun r => decide r.Declares) →
      sharedCrs rs = sharedCrs ss) ∧
    ∀ ss, ss.Perm rs → (sharedCrs ss).Perm (sharedCrs rs) := by
  refine ⟨fun code => mem_sharedCrs_iff, nodup_sharedCrs rs, ?_, fun ss => sharedCrs_congr, ?_⟩
  · rintro before first after rfl hbefore hfirst
    rw [sharedCrs_eq_filter, leading_of_first hbefore hfirst]
    exact (pairwise_idxOf_eraseDups first.codes).filter _
  · intro ss hperm
    rw [List.perm_ext_iff_of_nodup (nodup_sharedCrs ss) (nodup_sharedCrs rs)]
    intro code
    simp only [mem_sharedCrs_iff, hperm.mem_iff]

end Context

end MapContext
