import MapContext.Text.Blank
import Mathlib.Algebra.Group.Nat.Defs
import Mathlib.Data.List.Induction

/-!
# Decimal digits and pieces of text

The digits of a number are read back as the number, also behind zeros. A run of characters of one
class ends where the next character is of another class, and texts joined by a separator are cut
again into the same texts.
-/

namespace MapContext.Text

/-- The text does not begin with a character of the class. -/
def Stops (p : Char → Bool) (cs : List Char) : Prop := ∀ c ∈ cs.head?, p c = false

section Runs

variable {p : Char → Bool} {cs rest : List Char}

theorem stops_nil (p : Char → Bool) : Stops p [] := by
  intro c hc
  cases hc

theorem stops_cons {c : Char} (h : p c = false) (rest : List Char) : Stops p (c :: rest) := by
  intro d hd
  cases Option.some.inj hd
  exact h

theorem takeWhile_of_stops (hrest : Stops p rest) : rest.takeWhile p = [] := by
  cases rest with
  | nil => rfl
  | cons c rest => simp [hrest c rfl]

theorem dropWhile_of_stops (hrest : Stops p rest) : rest.dropWhile p = rest := by
  cases rest with
  | nil => rfl
  | cons c rest => simp [hrest c rfl]

theorem takeWhile_run (hcs : ∀ c ∈ cs, p c = true) (hrest : Stops p rest) :
    (cs ++ rest).takeWhile p = cs := by
  rw [List.takeWhile_append_of_pos hcs, takeWhile_of_stops hrest, List.append_nil]

theorem dropWhile_run (hcs : ∀ c ∈ cs, p c = true) (hrest : Stops p rest) :
    (cs ++ rest).dropWhile p = rest := by
  rw [List.dropWhile_append_of_pos hcs, dropWhile_of_stops hrest]

end Runs

/-! ### Digits -/

theorem isDigit_of_mem_digits {n : Nat} {c : Char} (h : c ∈ Nat.toDigits 10 n) :
    c.isDigit = true :=
  Nat.isDigit_of_mem_toDigits (by decide) (by decide) h

theorem digitsValue_digits (n : Nat) : digitsValue (Nat.toDigits 10 n) = n :=
  Nat.ofDigitChars_ten_toDigits

theorem digitsValue_append (cs ds : List Char) :
    digitsValue (cs ++ ds) = 10 ^ ds.length * digitsValue cs + digitsValue ds := by
  rw [digitsValue, List.foldl_append]
  exact Nat.ofDigitChars_eq_ofDigitChars_zero

theorem digitsValue_zeros (n : Nat) (ds : List Char) :
    digitsValue (List.replicate n '0' ++ ds) = digitsValue ds := by
  have hzeros : digitsValue (List.replicate n '0') = 0 :=
    Nat.ofDigitChars_replicate_zero.trans (Nat.mul_zero _)
  rw [digitsValue_append, hzeros, Nat.mul_zero, Nat.zero_add]

theorem isDigit_iff {c : Char} :
    c.isDigit = true ↔ '0'.toNat ≤ c.toNat ∧ c.toNat ≤ '9'.toNat := by
  simp [Char.isDigit, UInt32.le_iff_toNat_le]

/-- A digit has a value below ten. -/
theorem digit_lt {c : Char} (h : c.isDigit = true) : c.toNat - '0'.toNat < 10 := by
  have hc := isDigit_iff.mp h
  have h0 : '0'.toNat = 48 := rfl
  have h9 : '9'.toNat = 57 := rfl
  omega

/-- A digit is written for its value. -/
theorem digitChar_digit {c : Char} (h : c.isDigit = true) :
    Nat.digitChar (c.toNat - '0'.toNat) = c := by
  have hc := (isDigit_iff.mp h).1
  apply Char.toNat_inj.mp
  rw [Nat.toNat_digitChar_of_lt_ten (digit_lt h)]
  have h0 : '0'.toNat = 48 := rfl
  omega

theorem digitsValue_lt {ds : List Char} (h : ∀ c ∈ ds, c.isDigit = true) :
    digitsValue ds < 10 ^ ds.length := by
  induction ds with
  | nil => exact Nat.one_pos
  | cons d ds ih =>
      have hd := digit_lt (h d List.mem_cons_self)
      have hds := ih fun c hc => h c (List.mem_cons_of_mem _ hc)
      have hsplit := digitsValue_append [d] ds
      have hone : digitsValue [d] = d.toNat - '0'.toNat := by simp [digitsValue]
      rw [hone] at hsplit
      calc digitsValue (d :: ds) = 10 ^ ds.length * (d.toNat - '0'.toNat) + digitsValue ds := hsplit
        _ < 10 ^ ds.length * (d.toNat - '0'.toNat) + 10 ^ ds.length := by omega
        _ = 10 ^ ds.length * (d.toNat - '0'.toNat + 1) := by rw [Nat.mul_add, Nat.mul_one]
        _ ≤ 10 ^ ds.length * 10 := Nat.mul_le_mul_left _ hd
        _ = 10 ^ (d :: ds).length := by rw [List.length_cons, Nat.pow_succ]

/-- Only zero begins with a zero. -/
theorem head?_digits_eq_zero {n : Nat} (h : (Nat.toDigits 10 n).head? = some '0') : n = 0 := by
  induction n using Nat.strongRecOn with
  | ind n ih =>
      rw [Nat.toDigits_eq_if (by decide)] at h
      split at h
      · simpa using h
      · next hn =>
          obtain ⟨d, ds, hds⟩ := List.exists_cons_of_ne_nil (Nat.toDigits_ne_nil (n := n / 10))
          rw [hds, List.cons_append, List.head?_cons] at h
          have hdiv := ih (n / 10) (by omega) (by rw [hds, List.head?_cons, h])
          omega

/-- Digits that begin with no zero are those of their number. -/
theorem digits_digitsValue {ds : List Char} (hne : ds ≠ []) (h : ∀ c ∈ ds, c.isDigit = true)
    (hhead : ds.head? ≠ some '0') : Nat.toDigits 10 (digitsValue ds) = ds := by
  induction ds using List.reverseRecOn with
  | nil => exact absurd rfl hne
  | append_singleton ds c ih =>
      obtain ⟨hds, hc⟩ := List.forall_mem_append.mp h
      have hc := hc c (List.mem_singleton_self c)
      have hlast : Nat.toDigits 10 (c.toNat - '0'.toNat) = [c] := by
        rw [Nat.toDigits_of_lt_base (digit_lt hc), digitChar_digit hc]
      have hvalue : digitsValue (ds ++ [c]) = 10 * digitsValue ds + (c.toNat - '0'.toNat) := by
        simp [digitsValue]
      rw [hvalue]
      cases ds with
      | nil => simpa [digitsValue] using hlast
      | cons d ds =>
          have hdigits := ih (List.cons_ne_nil d ds) hds hhead
          have hpos : 0 < digitsValue (d :: ds) := by
            refine Nat.pos_of_ne_zero fun hzero => hhead ?_
            rw [hzero] at hdigits
            exact congrArg List.head? hdigits.symm
          rw [← Nat.toDigits_append_toDigits (by decide) hpos (digit_lt hc), hdigits, hlast]

/-! ### Pieces -/

theorem cut_of_free {p : Char → Bool} {cs : List Char} (h : ∀ c ∈ cs, p c = false) :
    cut p cs = (cs, []) := by
  induction cs with
  | nil => rfl
  | cons c cs ih =>
      have hc := h c List.mem_cons_self
      simp [cut, ih fun d hd => h d (List.mem_cons_of_mem _ hd), hc]

theorem cut_append {p : Char → Bool} {cs : List Char} {c : Char} (h : ∀ d ∈ cs, p d = false)
    (hc : p c = true) (rest : List Char) :
    cut p (cs ++ c :: rest) = (cs, pieces p rest) := by
  induction cs with
  | nil => simp [cut, hc, pieces]
  | cons d cs ih =>
      have hd := h d List.mem_cons_self
      simp [cut, ih fun e he => h e (List.mem_cons_of_mem _ he), hd]

/-- Pieces free of the separator are cut where they were joined. -/
theorem pieces_joined {p : Char → Bool} {separator : Char} {first : List Char}
    {others : List (List Char)} (hseparator : p separator = true)
    (h : ∀ cs ∈ first :: others, ∀ c ∈ cs, p c = false) :
    pieces p (first ++ others.flatMap (separator :: ·)) = first :: others := by
  induction others generalizing first with
  | nil =>
      have hfirst := cut_of_free (h first List.mem_cons_self)
      simp [pieces, hfirst]
  | cons second others ih =>
      have hrest := ih fun cs hcs => h cs (List.mem_cons_of_mem _ hcs)
      have hcut := cut_append (h first List.mem_cons_self) hseparator
        (second ++ others.flatMap (separator :: ·))
      rw [List.flatMap_cons, List.cons_append, pieces, hcut, hrest]

theorem intercalate_cons (separator : Char) (first : List Char) (others : List (List Char)) :
    [separator].intercalate (first :: others) = first ++ others.flatMap (separator :: ·) := by
  induction others generalizing first with
  | nil => simp
  | cons second others ih =>
      rw [List.intercalate_cons_cons, ih, List.flatMap_cons, List.append_assoc]
      rfl

/-- Pieces contain no separator. -/
theorem pieces_free (p : Char → Bool) (cs : List Char) :
    ∀ piece ∈ pieces p cs, ∀ c ∈ piece, p c = false := by
  rw [pieces]
  induction cs with
  | nil => simp [cut]
  | cons c cs ih =>
      by_cases hc : p c = true
      · simpa [cut, hc] using ih
      · simpa [cut, hc] using ih

theorem cut_join (separator : Char) (cs : List Char) :
    (cut (· == separator) cs).1 ++ (cut (· == separator) cs).2.flatMap (separator :: ·) = cs := by
  induction cs with
  | nil => rfl
  | cons c cs ih =>
      by_cases hc : c = separator
      · simp [cut, hc, ih]
      · simp [cut, hc, ih]

/-- Pieces are the only texts free of the separator that, each behind a separator, make up the
text behind a separator. -/
theorem pieces_eq_iff {separator : Char} {cs : List Char} {groups : List (List Char)}
    (h : ∀ group ∈ groups, separator ∉ group) :
    pieces (· == separator) cs = groups ↔ separator :: cs = groups.flatMap (separator :: ·) := by
  constructor
  · rintro rfl
    rw [pieces, List.flatMap_cons, List.cons_append, cut_join]
  · intro hcs
    cases groups with
    | nil => cases hcs
    | cons first others =>
        rw [List.flatMap_cons, List.cons_append, List.cons_inj_right] at hcs
        rw [hcs]
        refine pieces_joined (beq_self_eq_true separator) fun group hgroup c hc => ?_
        exact beq_false_of_ne fun heq => h group hgroup (heq ▸ hc)

/-- Texts free of the separator are told apart behind separators. -/
theorem flatMap_separator_inj {separator : Char} {groups others : List (List Char)}
    (h : ∀ group ∈ groups, separator ∉ group) (h' : ∀ group ∈ others, separator ∉ group) :
    groups.flatMap (separator :: ·) = others.flatMap (separator :: ·) ↔ groups = others := by
  refine ⟨fun heq => ?_, fun heq => heq ▸ rfl⟩
  cases groups with
  | nil =>
      cases others with
      | nil => rfl
      | cons other others => cases heq
  | cons group groups =>
      rw [List.flatMap_cons, List.cons_append] at heq
      rw [← (pieces_eq_iff h').mpr heq]
      exact ((pieces_eq_iff h).mpr (by rw [List.flatMap_cons, List.cons_append])).symm

/-- Pieces are parts of the text. -/
theorem pieces_subset (p : Char → Bool) (cs : List Char) : ∀ piece ∈ pieces p cs, piece ⊆ cs := by
  rw [pieces]
  induction cs with
  | nil => simp [cut]
  | cons c cs ih =>
      obtain ⟨hfirst, hothers⟩ := List.forall_mem_cons.mp ih
      have hothers' : ∀ piece ∈ (cut p cs).2, piece ⊆ c :: cs :=
        fun piece hpiece => List.Subset.trans (hothers piece hpiece) (List.subset_cons_self c cs)
      by_cases hc : p c = true
      · simp only [cut, hc, if_true, List.forall_mem_cons]
        exact ⟨List.nil_subset _, List.Subset.trans hfirst (List.subset_cons_self c cs), hothers'⟩
      · simp only [cut, hc, Bool.false_eq_true, if_false, List.forall_mem_cons]
        exact ⟨List.cons_subset_cons c hfirst, hothers'⟩

end MapContext.Text
