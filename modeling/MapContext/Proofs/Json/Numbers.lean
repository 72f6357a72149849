import MapContext.Json.Printing
import MapContext.Json.Reading
import MapContext.Proofs.Decimal.Shortest
import MapContext.Proofs.Text.Digits

/-!
# Numbers in JSON text

The text of a number is a numeral. A numeral is read up to its end, wherever it stands, and what is
read depends on the numeral alone: the number is read back as itself or as another number, or it
is out of range.
-/

namespace MapContext.Json

open Text

/-- A numeral of JSON: an optional sign, digits, digits after an optional point, and an optional
power of ten. -/
structure Numeral where
  /-- Whether there is a sign. -/
  negative : Bool
  /-- The digits before the point. -/
  whole : List Char
  /-- The digits after the point; without any there is no point. -/
  fraction : List Char
  /-- The power of ten. -/
  power : Option Int
  /-- There is a digit before the point. -/
  whole_ne_nil : whole ≠ []
  /-- Digits stand before the point. -/
  isDigit_whole : ∀ c ∈ whole, c.isDigit = true
  /-- A zero stands alone before the point. -/
  leading : whole.head? = some '0' → whole.length = 1
  /-- Digits stand after the point. -/
  isDigit_fraction : ∀ c ∈ fraction, c.isDigit = true

namespace Numeral

/-- The text of an optional power of ten. -/
def powerText : Option Int → List Char
  | none => []
  | some p => 'e' :: Decimal.signedDigits true p

/-- The text after the digits before the point. -/
def tail (n : Numeral) : List Char :=
  (if n.fraction.isEmpty then [] else '.' :: n.fraction) ++ powerText n.power

/-- The text of a numeral. -/
def text (n : Numeral) : List Char :=
  (if n.negative then ['-'] else []) ++ n.whole ++ n.tail

/-- The digits of a numeral before the power of ten is added. -/
def scaled (n : Numeral) : Scaled :=
  if n.fraction.isEmpty then Scaled.ofWhole n.whole
  else (Scaled.ofWhole n.whole).addFraction n.fraction

/-- Neither point nor power of ten. -/
def isPlain (n : Numeral) : Bool := n.fraction.isEmpty && n.power.isNone

/-- What a numeral stands for. -/
def tree (n : Numeral) : Tree :=
  if n.isPlain then integerTree n.negative n.whole
  else floatTree n.negative
    { n.scaled with exponent := n.scaled.exponent + n.power.getD 0 }.float?

end Numeral

/-- A character that could continue a number. -/
def isNumeric (c : Char) : Bool := c.isDigit || c == '.' || c == 'e' || c == 'E'

section Reading

variable {rest : List Char}

theorem stops_isDigit (h : Stops isNumeric rest) : Stops Char.isDigit rest := by
  intro c hc
  have hnumeric := h c hc
  simp only [isNumeric, Bool.or_eq_false_iff] at hnumeric
  exact hnumeric.1.1.1

theorem stops_powerText (power : Option Int) (h : Stops isNumeric rest) :
    Stops Char.isDigit (Numeral.powerText power ++ rest) := by
  cases power with
  | none => exact stops_isDigit h
  | some p => exact stops_cons (by decide) _

/-- An optional power of ten is read up to its end. -/
theorem readPower_powerText (negative : Bool) (s : Scaled) (power : Option Int)
    (h : Stops isNumeric rest) :
    readPower negative s (Numeral.powerText power ++ rest) =
      (floatTree negative { s with exponent := s.exponent + power.getD 0 }.float?, some rest) := by
  cases power with
  | none =>
      rw [Numeral.powerText, List.nil_append, Option.getD_none, Int.add_zero]
      cases rest with
      | nil => rfl
      | cons c rest =>
          have hc := h c rfl
          simp only [isNumeric, Bool.or_eq_false_iff] at hc
          simp [readPower, hc.1.2, hc.2]
  | some p =>
      have htake : (Nat.toDigits 10 p.natAbs ++ rest).takeWhile Char.isDigit =
          Nat.toDigits 10 p.natAbs :=
        takeWhile_run (fun _ => isDigit_of_mem_digits) (stops_isDigit h)
      have hdrop : (Nat.toDigits 10 p.natAbs ++ rest).dropWhile Char.isDigit = rest :=
        dropWhile_run (fun _ => isDigit_of_mem_digits) (stops_isDigit h)
      rw [Numeral.powerText, Decimal.signedDigits, Option.getD_some]
      generalize hk : p.natAbs = k at htake hdrop
      by_cases hp : p < 0
      · have hpower : s.exponent - (k : Int) = s.exponent + p := by omega
        simp [readPower, hp, htake, hdrop, digitsValue_digits, hpower]
      · have hpower : s.exponent + (k : Int) = s.exponent + p := by omega
        simp [readPower, hp, htake, hdrop, digitsValue_digits, hpower]

/-- A numeral is read up to its end. -/
theorem readNumber_numeral (n : Numeral) (h : Stops isNumeric rest) :
    readNumber n.negative (n.whole ++ (n.tail ++ rest)) = (n.tree, some rest) := by
  have hstops : Stops Char.isDigit (n.tail ++ rest) := by
    rw [Numeral.tail]
    split
    · exact stops_powerText n.power h
    · exact stops_cons (by decide) _
  have htake := takeWhile_run n.isDigit_whole hstops
  have hdrop := dropWhile_run n.isDigit_whole hstops
  have hleading : ¬((n.whole.head? == some '0' && decide (1 < n.whole.length)) = true) := by
    simp only [Bool.and_eq_true, beq_iff_eq, decide_eq_true_eq, not_and]
    intro hzero
    rw [n.leading hzero]
    decide
  have hne : ¬(n.whole.isEmpty = true) := by simp [n.whole_ne_nil]
  rw [readNumber]
  simp only [htake, hdrop]
  rw [if_neg hne, if_neg hleading, Numeral.tail, Numeral.tree, Numeral.isPlain, Numeral.scaled]
  cases hfraction : n.fraction with
  | nil =>
      have hread := readPower_powerText n.negative (Scaled.ofWhole n.whole) n.power h
      cases hpower : n.power with
      | none =>
          have hother : ∀ c ∈ rest.head?, c ≠ '.' ∧ c ≠ 'e' ∧ c ≠ 'E' := by
            intro c hc
            have hnone := h c hc
            simp only [isNumeric, Bool.or_eq_false_iff, beq_eq_false_iff_ne] at hnone
            exact ⟨hnone.1.1.2, hnone.1.2, hnone.2⟩
          simp only [List.isEmpty_nil, if_true, Numeral.powerText, List.append_nil,
            List.nil_append, Option.isNone_none, Bool.and_self]
          split
          · exact absurd rfl (hother '.' rfl).1
          · exact absurd rfl (hother 'e' rfl).2.1
          · exact absurd rfl (hother 'E' rfl).2.2
          · rfl
      | some p =>
          rw [hpower] at hread
          simpa [Numeral.powerText] using hread
  | cons d ds =>
      have hdigits : ∀ c ∈ d :: ds, c.isDigit = true := hfraction ▸ n.isDigit_fraction
      have htake := takeWhile_run hdigits (stops_powerText n.power h)
      have hdrop := dropWhile_run hdigits (stops_powerText n.power h)
      have hread := readPower_powerText n.negative
        ((Scaled.ofWhole n.whole).addFraction (d :: ds)) n.power h
      simp only [List.isEmpty_cons, Bool.false_eq_true, if_false, Bool.false_and,
        List.cons_append, List.append_assoc] at htake hdrop hread ⊢
      rw [htake, hdrop, List.isEmpty_cons, if_neg Bool.false_ne_true, hread]

theorem readValue_numeral (n : Numeral) (fuel room : Nat) (h : Stops isNumeric rest) :
    readValue (fuel + 1) room (n.text ++ rest) = (n.tree, some rest) := by
  have hread := readNumber_numeral n h
  obtain ⟨c, cs, hwhole⟩ := List.exists_cons_of_ne_nil n.whole_ne_nil
  have hc : c.isDigit = true := n.isDigit_whole c (hwhole ▸ List.mem_cons_self)
  rw [hwhole, List.cons_append] at hread
  rw [Numeral.text, hwhole]
  cases hnegative : n.negative with
  | true =>
      rw [hnegative] at hread
      simpa [readValue, skipSpace, isSpace] using hread
  | false =>
      rw [hnegative] at hread
      have hdigit : ∀ d : Char, d.isDigit = false → c ≠ d := by
        rintro d hd rfl
        rw [hc] at hd
        cases hd
      have hspace : isSpace c = false := by
        simp only [isSpace, Bool.or_eq_false_iff, beq_eq_false_iff_ne]
        refine ⟨⟨⟨?_, ?_⟩, ?_⟩, ?_⟩ <;> exact hdigit _ (by decide)
      have hskip : skipSpace (c :: (cs ++ (n.tail ++ rest))) = c :: (cs ++ (n.tail ++ rest)) :=
        dropWhile_of_stops (stops_cons hspace _)
      simp only [Bool.false_eq_true, if_false, List.nil_append, List.cons_append,
        List.append_assoc, readValue, hskip]
      split
      case h_9 heq =>
          obtain ⟨rfl, rfl⟩ := List.cons.inj heq
          rw [if_pos hc, hread]
      case h_1 heq => cases heq
      all_goals
        next heq => exact absurd (List.cons.inj heq).1 (hdigit _ (by decide))

end Reading

/-! ### Numbers as numerals -/

section Printing

open Decimal

variable {digits : List Char}

/-- Digits of a number other than zero do not begin with a zero. -/
structure Leads (digits : List Char) : Prop where
  /-- There is a digit. -/
  ne_nil : digits ≠ []
  /-- There are only digits. -/
  isDigit : ∀ c ∈ digits, c.isDigit = true
  /-- The first digit is no zero. -/
  head : digits.head? ≠ some '0'

theorem leads_digits {n : Nat} (hn : n ≠ 0) : Leads (Nat.toDigits 10 n) :=
  ⟨Nat.toDigits_ne_nil, fun _ => isDigit_of_mem_digits, fun h => hn (head?_digits_eq_zero h)⟩

theorem isDigit_zeros {k : Nat} {ds : List Char} (h : ∀ c ∈ ds, c.isDigit = true) :
    ∀ c ∈ List.replicate k '0' ++ ds, c.isDigit = true := by
  intro c hc
  rcases List.mem_append.mp hc with hc | hc
  · rw [List.eq_of_mem_replicate hc]
    rfl
  · exact h c hc

/-- A number written with a point has digits on both sides of it. -/
theorem exists_positional (h : Leads digits) (point : Int) :
    ∃ whole fraction, positional digits point = whole ++ '.' :: fraction ∧ whole ≠ [] ∧
      fraction ≠ [] ∧ (∀ c ∈ whole, c.isDigit = true) ∧ (∀ c ∈ fraction, c.isDigit = true) ∧
      (whole.head? = some '0' → whole.length = 1) := by
  obtain ⟨hne, hdigit, hhead⟩ := h
  obtain ⟨d, ds, rfl⟩ := List.exists_cons_of_ne_nil hne
  have hd : ¬(some d = some '0') := hhead
  rw [positional]
  split
  · exact ⟨['0'], List.replicate (-point).toNat '0' ++ d :: ds, by simp, by simp, by simp,
      by simp, isDigit_zeros hdigit, fun _ => rfl⟩
  · next hpoint =>
      obtain ⟨k, hk⟩ : ∃ k, point.toNat = k + 1 := ⟨point.toNat - 1, by omega⟩
      simp only [hk]
      split
      · next hshort =>
          refine ⟨(d :: ds).take (k + 1), (d :: ds).drop (k + 1), rfl, by simp, ?_,
            fun c hc => hdigit c (List.mem_of_mem_take hc),
            fun c hc => hdigit c (List.mem_of_mem_drop hc), fun hzero => absurd hzero hd⟩
          intro hnil
          rw [List.drop_eq_nil_iff] at hnil
          omega
      · refine ⟨d :: ds ++ List.replicate (k + 1 - (d :: ds).length) '0', ['0'], by simp, by simp,
          by simp, ?_, by simp, fun hzero => absurd hzero hd⟩
        intro c hc
        rcases List.mem_append.mp hc with hc | hc
        · exact hdigit c hc
        · rw [List.eq_of_mem_replicate hc]
          rfl

/-- A number written with a power of ten has one digit before the point. -/
theorem exists_scientific (h : Leads digits) (point : Int) :
    ∃ d fraction, scientific true digits point = d :: ((if fraction.isEmpty then []
        else '.' :: fraction) ++ Numeral.powerText (some (point - 1))) ∧
      d.isDigit = true ∧ ∀ c ∈ fraction, c.isDigit = true := by
  obtain ⟨d, ds, rfl⟩ := List.exists_cons_of_ne_nil h.ne_nil
  refine ⟨d, ds, ?_, h.isDigit d List.mem_cons_self,
    fun c hc => h.isDigit c (List.mem_cons_of_mem _ hc)⟩
  cases ds with
  | nil => simp [scientific, Numeral.powerText]
  | cons e es => simp [scientific, Numeral.powerText]

/-- A number other than zero is written with a point or a power of ten. -/
theorem exists_numeral_digitsText (negative : Bool) {d : Decimal.Digits} (h : d.significand ≠ 0) :
    ∃ n : Numeral, n.text = (if negative then ['-'] else []) ++ layout.digitsText d ∧
      n.isPlain = false := by
  have hleads := leads_digits h
  suffices hparts : ∃ n : Numeral, n.negative = negative ∧
      n.whole ++ n.tail = layout.digitsText d ∧ n.isPlain = false by
    obtain ⟨n, rfl, hn, hplain⟩ := hparts
    exact ⟨n, by rw [Numeral.text, List.append_assoc, hn], hplain⟩
  simp only [Decimal.Layout.digitsText]
  generalize ((Nat.toDigits 10 d.significand).length + d.exponent : Int) = point
  by_cases hpoint :
      (decide (layout.leastPoint ≤ point) && decide (point ≤ layout.greatestPoint)) = true
  · rw [if_pos hpoint]
    obtain ⟨whole, fraction, htext, hwhole, hfraction, hwholeDigit, hfractionDigit, hleading⟩ :=
      exists_positional hleads point
    exact ⟨⟨negative, whole, fraction, none, hwhole, hwholeDigit, hleading, hfractionDigit⟩, rfl,
      by simp [Numeral.tail, Numeral.powerText, htext, hfraction],
      by simp [Numeral.isPlain, hfraction]⟩
  · rw [if_neg hpoint]
    obtain ⟨first, fraction, htext, hfirst, hfraction⟩ := exists_scientific hleads point
    exact ⟨⟨negative, [first], fraction, _, by simp, by simpa using hfirst, fun _ => rfl,
      hfraction⟩, rfl, htext.symm, Bool.and_false _⟩

theorem exists_numeral_float (x : FiniteFloat) :
    ∃ n : Numeral, n.text = (layout.text x.value).toList ∧ n.isPlain = false := by
  have hzero : ∀ negative : Bool,
      ∃ n : Numeral, n.text = (if negative then ['-'] else []) ++ ['0', '.', '0'] ∧
        n.isPlain = false := by
    intro negative
    exact ⟨⟨negative, ['0'], ['0'], none, by simp, by simp, fun _ => rfl, by simp⟩,
      by simp [Numeral.text, Numeral.tail, Numeral.powerText], rfl⟩
  have hbody : ∀ negative : Bool, ∃ n : Numeral, n.text = (if negative then ['-'] else []) ++
      (if x.value.abs == 0 then ['0', '.', '0']
        else layout.digitsText ((Binary.ofBits x.value.abs.toBits).shortest layout.tie)) ∧
        n.isPlain = false := by
    intro negative
    cases h : x.value.abs == 0 with
    | true => exact hzero negative
    | false =>
        exact exists_numeral_digitsText negative
          ((proper_ofBits h).shortest_significand layout.tie)
  obtain ⟨n, hn, hplain⟩ := hbody (!decide (x.value.toBits = x.value.abs.toBits))
  refine ⟨n, ?_, hplain⟩
  rw [hn, Decimal.Layout.text, String.toList_ofList]
  congr 1
  simp only [Bool.not_eq_true', decide_eq_false_iff_not, ite_not]

theorem exists_numeral_integer (n : Int) : ∃ m : Numeral, m.text = (toString n).toList := by
  refine ⟨⟨decide (n < 0), Nat.toDigits 10 n.natAbs, [], none, Nat.toDigits_ne_nil,
    fun _ => isDigit_of_mem_digits, ?_, by simp⟩, ?_⟩
  · intro hzero
    rw [head?_digits_eq_zero hzero]
    rfl
  · rw [Int.toString_eq_repr, Int.repr_eq_if]
    by_cases hn : 0 ≤ n
    · have hnat : n.natAbs = n.toNat := by omega
      simp [Numeral.text, Numeral.tail, Numeral.powerText, hn, hnat]
    · have hnat : n.natAbs = (-n).toNat := by omega
      have hneg : n < 0 := by omega
      simp [Numeral.text, Numeral.tail, Numeral.powerText, hn, hneg, hnat]

theorem Number.exists_numeral (x : Number) : ∃ n : Numeral, n.text = x.print.toList := by
  cases x with
  | integer n => exact exists_numeral_integer n
  | float x =>
      obtain ⟨m, htext, -⟩ := exists_numeral_float x
      exact ⟨m, htext⟩

end Printing

/-! ### What is read back -/

/-- What is read from the text of a number. -/
def Number.reread (x : Number) : Tree := (readValue 1 0 x.print.toList).1

/-- The text of a number is read up to its end, wherever it stands. -/
theorem readValue_print (x : Number) (fuel room : Nat) {rest : List Char}
    (h : Stops isNumeric rest) :
    readValue (fuel + 1) room (x.print.toList ++ rest) = (x.reread, some rest) := by
  obtain ⟨n, htext⟩ := x.exists_numeral
  have hreread : x.reread = n.tree := by
    have hread := readValue_numeral n 0 0 (stops_nil isNumeric)
    rw [List.append_nil] at hread
    rw [Number.reread, ← htext, hread]
  rw [hreread, ← htext, readValue_numeral n fuel room h]

/-- A number whose text is read back as the number. -/
def Number.Durable (x : Number) : Prop := x.reread = .number x

theorem floatTree_cases (negative : Bool) (x? : Option Float) :
    (∃ y, floatTree negative x? = .number (.float y)) ∨
      floatTree negative x? = .blocked .malformed .null := by
  rw [floatTree]
  split
  · split
    · exact .inl ⟨_, rfl⟩
    · exact .inr rfl
  · exact .inr rfl

/-- The text of a number is read as a number or is out of range. -/
theorem Number.reread_cases (x : Number) :
    (∃ y, x.reread = .number y) ∨ x.reread = .blocked .malformed .null := by
  have hfloat : ∀ (negative : Bool) (x? : Option Float),
      (∃ y, floatTree negative x? = .number y) ∨
        floatTree negative x? = .blocked .malformed .null := by
    intro negative x?
    exact (floatTree_cases negative x?).imp_left fun ⟨y, hy⟩ => ⟨.float y, hy⟩
  obtain ⟨n, htext⟩ := x.exists_numeral
  have hread := readValue_numeral n 0 0 (stops_nil isNumeric)
  rw [List.append_nil, htext] at hread
  rw [Number.reread, hread, Numeral.tree]
  split
  · rw [integerTree]
    repeat' split
    all_goals first
      | exact .inl ⟨_, rfl⟩
      | exact hfloat _ _
  · exact hfloat _ _

/-- The text of a floating-point number is never read as an integer. -/
theorem Number.reread_float_cases (x : FiniteFloat) :
    (∃ y, (Number.float x).reread = .number (.float y)) ∨
      (Number.float x).reread = .blocked .malformed .null := by
  obtain ⟨n, htext, hplain⟩ := exists_numeral_float x
  have hread := readValue_numeral n 0 0 (stops_nil isNumeric)
  rw [List.append_nil, htext] at hread
  rw [Number.reread, Number.print, hread, Numeral.tree, hplain]
  exact floatTree_cases _ _

end MapContext.Json
