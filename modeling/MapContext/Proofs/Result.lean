import Mathlib.Data.List.Forall2

/-!
# Steps that may fail

How a sequence of steps comes out is read off its first step, and how a lookup comes out is read off
the first pair.
-/

namespace MapContext

variable {ε α β : Type} {x : Except ε α} {e : ε}

@[simp] theorem ok_bind (a : α) (f : α → Except ε β) : (Except.ok a >>= f) = f a := rfl

@[simp] theorem error_bind (e : ε) (f : α → Except ε β) : (Except.error e >>= f) = .error e := rfl

@[simp] theorem map_ok (f : α → β) (a : α) : (Except.ok a : Except ε α).map f = .ok (f a) := rfl

@[simp] theorem map_error (f : α → β) (e : ε) :
    (Except.error e : Except ε α).map f = .error e := rfl

theorem map_map {γ : Type} (f : α → β) (g : β → γ) : (x.map f).map g = x.map (g ∘ f) := by
  cases x with
  | error e => rfl
  | ok a => rfl

/-- A sequence succeeds if each of its steps does. -/
theorem bind_eq_ok_iff {f : α → Except ε β} {b : β} :
    (x >>= f) = .ok b ↔ ∃ a, x = .ok a ∧ f a = .ok b := by
  cases x with
  | error e => simp
  | ok a => simp

theorem map_eq_ok_iff {f : α → β} {b : β} : x.map f = .ok b ↔ ∃ a, x = .ok a ∧ f a = b := by
  cases x with
  | error e => simp
  | ok a => simp

theorem map_eq_error_iff {f : α → β} : x.map f = .error e ↔ x = .error e := by
  cases x with
  | error e' => rw [map_error, Except.error.injEq, Except.error.injEq]
  | ok a => simp only [map_ok, reduceCtorEq]

theorem exists_eq_ok_of_any {p : α → Bool} (h : x.toOption.any p = true) :
    ∃ a, x = .ok a ∧ p a = true := by
  cases x with
  | error e => cases h
  | ok a => exact ⟨a, rfl, h⟩

theorem bind_pure_eq_map (f : α → β) : (x >>= fun a => pure (f a)) = x.map f := by
  cases x with
  | error e => rfl
  | ok a => rfl

/-- What follows a step and cannot fail does not fail. -/
theorem bind_pure_eq_error_iff {f : α → β} :
    (x >>= fun a => pure (f a)) = .error e ↔ x = .error e := by
  rw [bind_pure_eq_map, map_eq_error_iff]

/-- Steps over a list give the images of its members if each of them does. -/
theorem mapM_of_forall {f : α → Except ε β} {g : α → β} {as : List α}
    (h : ∀ a ∈ as, f a = .ok (g a)) : as.mapM f = .ok (as.map g) := by
  induction as with
  | nil => rfl
  | cons a as ih =>
      rw [List.forall_mem_cons] at h
      rw [List.mapM_cons, h.1, ok_bind, ih h.2, ok_bind, List.map_cons]
      rfl

/-- Steps over a list reproduce it if each of them reproduces its member. -/
theorem mapM_eq_ok_iff {γ : Type} {f : γ → Except ε α} {g : α → γ} {as : List α} :
    (as.map g).mapM f = .ok as ↔ ∀ a ∈ as, f (g a) = .ok a := by
  induction as with
  | nil => simp [pure, Except.pure]
  | cons a as ih =>
      rw [List.map_cons, List.mapM_cons, bind_eq_ok_iff]
      simp only [bind_eq_ok_iff, List.forall_mem_cons]
      constructor
      · rintro ⟨b, hb, bs, hbs, heq⟩
        cases heq
        exact ⟨hb, ih.mp hbs⟩
      · rintro ⟨ha, has⟩
        exact ⟨a, ha, as, ih.mpr has, rfl⟩

/-- Steps over a list succeed if each of them does. -/
theorem exists_mapM_eq_ok_iff {f : α → Except ε β} {as : List α} :
    (∃ bs, as.mapM f = .ok bs) ↔ ∀ a ∈ as, ∃ b, f a = .ok b := by
  induction as with
  | nil => simp [pure, Except.pure]
  | cons a as ih =>
      rw [List.mapM_cons]
      simp only [bind_eq_ok_iff, List.forall_mem_cons, ← ih]
      constructor
      · rintro ⟨_, b, hb, bs, hbs, -⟩
        exact ⟨⟨b, hb⟩, ⟨bs, hbs⟩⟩
      · rintro ⟨⟨b, hb⟩, ⟨bs, hbs⟩⟩
        exact ⟨b :: bs, b, hb, bs, hbs, rfl⟩

/-- Steps over a list give one result for each member. -/
theorem forall₂_of_mapM {f : α → Except ε β} {as : List α} {bs : List β}
    (h : as.mapM f = .ok bs) : List.Forall₂ (fun a b => f a = .ok b) as bs := by
  induction as generalizing bs with
  | nil =>
      cases h
      exact .nil
  | cons a as ih =>
      rw [List.mapM_cons] at h
      obtain ⟨b, hb, h⟩ := bind_eq_ok_iff.mp h
      obtain ⟨cs, hcs, h⟩ := bind_eq_ok_iff.mp h
      cases h
      exact .cons hb (ih hcs)

/-- Steps over a list give as many results as there are members. -/
theorem length_of_mapM {f : α → Except ε β} {as : List α} {bs : List β}
    (h : as.mapM f = .ok bs) : bs.length = as.length :=
  (forall₂_of_mapM h).length_eq.symm

/-- In lists that correspond, each member of the first one has a counterpart. -/
theorem exists_of_mem_forall₂ {R : α → β → Prop} {as : List α} {bs : List β} {a : α}
    (h : List.Forall₂ R as bs) (ha : a ∈ as) : ∃ b ∈ bs, R a b := by
  induction h with
  | nil => cases ha
  | cons hfirst _ ih =>
      rcases List.mem_cons.mp ha with rfl | ha
      · exact ⟨_, List.mem_cons_self, hfirst⟩
      · obtain ⟨b, hb, hrel⟩ := ih ha
        exact ⟨b, List.mem_cons_of_mem _ hb, hrel⟩

/-- Steps over a list give nothing but results for its members. -/
theorem exists_of_mem_mapM {f : α → Except ε β} {as : List α} {bs : List β} {b : β}
    (h : as.mapM f = .ok bs) (hb : b ∈ bs) : ∃ a ∈ as, f a = .ok b :=
  exists_of_mem_forall₂ (forall₂_of_mapM h).flip hb

/-- Steps over a list fail with the first of them that does. -/
theorem exists_of_mapM_eq_error {f : α → Except ε β} {as : List α} (h : as.mapM f = .error e) :
    ∃ before a after, as = before ++ a :: after ∧ (∀ b ∈ before, ∃ c, f b = .ok c) ∧
      f a = .error e := by
  induction as with
  | nil => cases h
  | cons a as ih =>
      rw [List.mapM_cons] at h
      cases ha : f a with
      | error e' =>
          rw [ha] at h
          cases h
          exact ⟨[], a, as, rfl, by simp, ha⟩
      | ok b =>
          rw [ha, ok_bind, bind_pure_eq_error_iff] at h
          obtain ⟨before, a', after, rfl, hbefore, ha'⟩ := ih h
          exact ⟨a :: before, a', after, rfl, List.forall_mem_cons.mpr ⟨⟨b, ha⟩, hbefore⟩, ha'⟩

/-! ### Lookups -/

section Lookup

variable {key first : String} {pairs : List (String × α)}

theorem lookup_cons_of_ne (h : key ≠ first) (a : α) (pairs : List (String × α)) :
    ((first, a) :: pairs).lookup key = pairs.lookup key := by
  rw [List.lookup_cons, beq_false_of_ne h]

theorem lookup_eq_none_of_not_mem (h : key ∉ pairs.map (·.1)) : pairs.lookup key = none := by
  apply List.lookup_eq_none_iff.mpr
  intro pair hpair
  rw [bne_iff_ne]
  rintro rfl
  exact h (List.mem_map_of_mem hpair)

theorem lookup_eq_some_of_mem {a : α} (hnodup : (pairs.map (·.1)).Nodup) (h : (key, a) ∈ pairs) :
    pairs.lookup key = some a := by
  obtain ⟨before, after, rfl⟩ := List.append_of_mem h
  rw [List.map_append, List.map_cons, List.nodup_append] at hnodup
  refine List.lookup_eq_some_iff.mpr ⟨before, after, rfl, ?_⟩
  intro pair hpair
  rw [bne_iff_ne]
  exact (hnodup.2.2 _ (List.mem_map_of_mem hpair) _ List.mem_cons_self).symm

end Lookup

end MapContext
