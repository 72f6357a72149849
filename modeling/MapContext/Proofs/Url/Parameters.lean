import MapContext.Proofs.Url.Query

/-!
# Setting parameters

A parameter that is set stands in the query once: where the first one of its name stood, whatever
its spelling, or last. All pairs of other names are kept as they stand. Only the latest value of a
parameter counts.
-/

namespace MapContext.Url

open Text

/-- Whether a pair has a name, in any case of ASCII letters. -/
def isNamed (name : String) (p : String × String) : Bool := sameIgnoringCase p.1 name

/-- Pairs after a parameter was set. -/
structure Put (name value : String) (old new : Pairs) : Prop where
  /-- One pair has the name, in the given spelling, with the value. -/
  single : new.filter (isNamed name) = [(name, value)]
  /-- It stands where the first pair of the name stood, or last. -/
  place : new.findIdx (isNamed name) = old.findIdx (isNamed name)
  /-- The pairs of other names are the same in the same order. -/
  others : new.filter (! isNamed name ·) = old.filter (! isNamed name ·)

variable {name other : String}

/-- Names in different case name the same pairs. -/
theorem isNamed_congr (h : sameIgnoringCase name other = true) : isNamed name = isNamed other := by
  funext p
  rw [isNamed, isNamed, Bool.eq_iff_iff, sameIgnoringCase_iff, sameIgnoringCase_iff,
    sameIgnoringCase_iff.mp h]

theorem isNamed_self (name value : String) : isNamed name (name, value) = true :=
  sameIgnoringCase_iff.mpr rfl

theorem putPair_eq (name value : String) (ps : Pairs) :
    putPair name value ps = ps.takeWhile (! isNamed name ·) ++
      (name, value) :: (ps.dropWhile (! isNamed name ·)).filter (! isNamed name ·) := rfl

theorem putPair_nil (name value : String) : putPair name value [] = [(name, value)] := rfl

theorem putPair_cons_of_named {p : String × String} (h : isNamed name p = true) (value : String)
    (ps : Pairs) :
    putPair name value (p :: ps) = (name, value) :: ps.filter (! isNamed name ·) := by
  simp [putPair_eq, h]

theorem putPair_cons_of_not_named {p : String × String} (h : isNamed name p = false)
    (value : String) (ps : Pairs) :
    putPair name value (p :: ps) = p :: putPair name value ps := by
  simp [putPair_eq, h]

/-- A pair is put in the place of the first one of its name, and no other pair changes. -/
theorem put_putPair (name value : String) (ps : Pairs) :
    Put name value ps (putPair name value ps) := by
  have hself := isNamed_self name value
  induction ps with
  | nil =>
      rw [putPair_nil]
      exact ⟨by simp [hself], by simp [hself], by simp [hself]⟩
  | cons p ps ih =>
      cases hp : isNamed name p with
      | true =>
          rw [putPair_cons_of_named hp]
          exact ⟨by simp [hself], by simp [hself, hp, List.findIdx_cons], by simp [hself, hp]⟩
      | false =>
          rw [putPair_cons_of_not_named hp]
          refine ⟨?_, ?_, ?_⟩
          · simpa [hp] using ih.single
          · simpa [hp, List.findIdx_cons] using ih.place
          · simpa [hp] using ih.others

/-- The later of two values counts, and its name gives the spelling. -/
theorem putPair_putPair (h : sameIgnoringCase name other = true) (value later : String)
    (ps : Pairs) : putPair other later (putPair name value ps) = putPair other later ps := by
  have hsame := isNamed_congr h
  have hself : isNamed other (name, value) = true := hsame ▸ isNamed_self name value
  induction ps with
  | nil => rw [putPair_nil, putPair_cons_of_named hself]; rfl
  | cons p ps ih =>
      cases hp : isNamed name p with
      | true =>
          rw [putPair_cons_of_named hp, putPair_cons_of_named hself,
            putPair_cons_of_named (hsame ▸ hp), hsame, List.filter_filter]
          simp
      | false =>
          rw [putPair_cons_of_not_named hp, putPair_cons_of_not_named (hsame ▸ hp), ih,
            putPair_cons_of_not_named (hsame ▸ hp)]

theorem put_setParam (u : Url) (name value : String) :
    Put name value u.pairs (u.setParam name value).pairs := by
  rw [pairs_setParam]
  exact put_putPair name value u.pairs

/-- Setting a parameter again is setting it once. -/
theorem setParam_setParam (h : sameIgnoringCase name other = true) (u : Url)
    (value later : String) :
    (u.setParam name value).setParam other later = u.setParam other later := by
  rw [setParam, pairs_setParam, putPair_putPair h]
  rfl

end MapContext.Url
