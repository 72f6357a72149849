import MapContext.Decimal.Layout

/-!
# The shortest decimal of a number other than zero

Zero rounds to no other number, so that the decimal chosen for a number other than zero is not
zero either.
-/

namespace MapContext.Decimal

/-- A number other than zero, with the gap below it that its format has. -/
structure Binary.Proper (b : Binary) : Prop where
  /-- It is not zero. -/
  significand_ne_zero : b.significand ≠ 0
  /-- The gap below is at most the gap above. -/
  lowGap_le : b.lowGap ≤ 2

section Grid

variable {b : Binary} {tie : Tie} {grid : Int} {n : Nat}

/-- Zero does not round to the number. -/
theorem Binary.Proper.ne_zero_of_roundsFrom (hb : b.Proper) (h : b.roundsFrom grid n = true) :
    n ≠ 0 := by
  rintro rfl
  obtain ⟨hne, hgap⟩ := hb
  have hlow : 0 < scaledQuarters b grid (4 * b.significand - b.lowGap) := by
    apply Nat.mul_pos
    · apply Nat.mul_pos
      · omega
      · exact Nat.pow_pos (by decide)
    · exact Nat.pow_pos (by decide)
  simp only [Binary.roundsFrom, scaledGrid, Nat.mul_zero, Nat.zero_mul] at h
  split at h
  · rw [Bool.and_eq_true, decide_eq_true_eq] at h
    omega
  · rw [Bool.and_eq_true, decide_eq_true_eq] at h
    omega

theorem Binary.Proper.ne_zero_of_onGrid? (hb : b.Proper) (h : b.onGrid? tie grid = some n) :
    n ≠ 0 := by
  simp only [Binary.onGrid?] at h
  split at h
  · next hbelow habove =>
      split at h
      · cases h
        exact hb.ne_zero_of_roundsFrom hbelow
      · cases h
        exact hb.ne_zero_of_roundsFrom habove
  · next hbelow _ =>
      cases h
      exact hb.ne_zero_of_roundsFrom hbelow
  · next _ habove =>
      cases h
      exact hb.ne_zero_of_roundsFrom habove
  · cases h

theorem Binary.Proper.search_significand (hb : b.Proper) (tie : Tie) (grid : Int) (steps : Nat) :
    (b.search tie grid steps).significand ≠ 0 := by
  induction steps generalizing grid with
  | zero => exact hb.significand_ne_zero
  | succ steps ih =>
      rw [Binary.search]
      split
      · next hgrid => exact hb.ne_zero_of_onGrid? hgrid
      · exact ih (grid - 1)

theorem Digits.strip_significand {d : Digits} (h : d.significand ≠ 0) (steps : Nat) :
    (d.strip steps).significand ≠ 0 := by
  induction steps generalizing d with
  | zero => exact h
  | succ steps ih =>
      rw [Digits.strip]
      split
      · apply ih
        simp only
        omega
      · exact h

theorem Binary.Proper.shortest_significand (hb : b.Proper) (tie : Tie) :
    (b.shortest tie).significand ≠ 0 :=
  Digits.strip_significand (hb.search_significand tie b.magnitude 18) 18

end Grid

theorem eq_of_toBits {x y : Float} (h : x.toBits = y.toBits) : x = y := by
  obtain ⟨⟨_, _⟩⟩ := x
  obtain ⟨⟨_, _⟩⟩ := y
  cases h
  rfl

/-- Only the zeros of both signs have no binary digits. -/
theorem proper_ofBits {x : Float} (h : (x == 0) = false) : (Binary.ofBits x.toBits).Proper := by
  have hbits : ¬(x.toBits.toNat % Nat.pow 2 52 = 0 ∧
      x.toBits.toNat / Nat.pow 2 52 % Nat.pow 2 11 = 0) := by
    rintro ⟨hfraction, hscale⟩
    have hcases : x.toBits = 0 ∨ x.toBits = 9223372036854775808 := by
      have hlt := x.toBits.toNat_lt
      have hnat : x.toBits.toNat = 0 ∨ x.toBits.toNat = 9223372036854775808 := by
        simp only [Nat.pow_eq, Nat.reducePow] at hfraction hscale
        omega
      exact hnat.imp UInt64.toNat.inj UInt64.toNat.inj
    have hzero : (x == 0) = true := by
      rcases hcases with hcase | hcase
      · rw [eq_of_toBits (y := Float.ofBits 0) (hcase.trans (by decide))]
        decide
      · rw [eq_of_toBits (y := Float.ofBits 9223372036854775808) (hcase.trans (by decide))]
        decide
    rw [h] at hzero
    cases hzero
  simp only [Binary.ofBits]
  split
  · exact ⟨by simp only; omega, Nat.le_refl 2⟩
  · refine ⟨?_, ?_⟩
    · have hpos : 0 < Nat.pow 2 52 := by decide
      simp only
      omega
    · simp only
      split <;> decide

end MapContext.Decimal
