import MapContext.Proofs.Instant.Calendar
import MapContext.Proofs.Text.Digits

/-!
# Instants as text

An instant that was read from a text is written as a date and a time of the calendar, and is read
back from what is written.
-/

namespace MapContext.Instant

open Text

/-- An instant that a text can stand for: its second lies within the day, a leap second is the last
one of a minute, and its year can be written. -/
structure Valid (t : Instant) : Prop where
  /-- The second lies within the day. -/
  second_lt : t.second < 86400
  /-- A leap second lasts one second. -/
  nanosecond_lt : t.nanosecond < 2000000000
  /-- A leap second follows the last second of a minute. -/
  leap : 1000000000 ≤ t.nanosecond → t.second % 60 = 59
  /-- The year is not too early. -/
  le_year : leastYear ≤ (dateOfDays t.day).1
  /-- The year is not too late. -/
  year_le : (dateOfDays t.day).1 ≤ greatestYear

/-! ### Numbers of a given width -/

section Numbers

variable {width n : Nat} {rest : List Char}

theorem isDigit_of_mem_padded {c : Char} (h : c ∈ padded width n) : c.isDigit = true := by
  simp only [padded, List.mem_append] at h
  rcases h with h | h
  · rw [List.eq_of_mem_replicate h]
    rfl
  · exact isDigit_of_mem_digits h

theorem padded_ne_nil (width n : Nat) : padded width n ≠ [] := by
  simp [padded]

theorem digitsValue_padded : digitsValue (padded width n) = n := by
  simp only [padded, digitsValue_zeros, digitsValue_digits]

theorem length_padded (hn : n < 10 ^ width) (hwidth : 0 < width) :
    (padded width n).length = width := by
  have hle := (Nat.length_toDigits_le_iff (by decide) hwidth).mpr hn
  simp only [padded, List.length_append, List.length_replicate]
  omega

theorem isBlank_of_isDigit {c : Char} (h : c.isDigit = true) : isBlank c = false := by
  have hc : 48 ≤ c.toNat ∧ c.toNat ≤ 57 := by
    simpa [Char.isDigit, UInt32.le_iff_toNat_le] using h
  simp [isBlank, blankRanges]
  omega

theorem stops_padded (p : Char → Bool) (hp : ∀ c : Char, c.isDigit = true → p c = false) :
    Stops p (padded width n ++ rest) := by
  obtain ⟨c, cs, hcs⟩ := List.exists_cons_of_ne_nil (padded_ne_nil width n)
  rw [hcs]
  apply stops_cons
  apply hp
  exact isDigit_of_mem_padded (hcs ▸ List.mem_cons_self)

/-- A run of digits that fits is read as a whole. -/
theorem digits_run {ds : List Char} (hne : ds ≠ []) (hds : ∀ c ∈ ds, c.isDigit = true)
    (hlength : ds.length ≤ width) (hrest : Stops Char.isDigit rest) :
    digits width (ds ++ rest) = some (digitsValue ds, rest) := by
  have htake : (ds ++ rest).take width = ds ++ rest.take (width - ds.length) := by
    rw [List.take_append, List.take_of_length_le hlength]
  have hstops : Stops Char.isDigit (rest.take (width - ds.length)) := by
    intro c hc
    cases h : width - ds.length with
    | zero => simp [h] at hc
    | succ k =>
        cases rest with
        | nil => simp at hc
        | cons d rest =>
            rw [h, List.take_succ_cons] at hc
            exact hrest c hc
  have hrun : ((ds ++ rest).take width).takeWhile Char.isDigit = ds := by
    rw [htake, takeWhile_run hds hstops]
  simp [digits, hrun, hne]

theorem digits_padded {most : Nat} (hlength : (padded width n).length ≤ most)
    (hrest : Stops Char.isDigit rest) : digits most (padded width n ++ rest) = some (n, rest) := by
  rw [digits_run (padded_ne_nil _ _) (fun _ => isDigit_of_mem_padded) hlength hrest,
    digitsValue_padded]

theorem number_padded (hn : n < 10 ^ width) (hwidth : 0 < width)
    (hrest : Stops Char.isDigit rest) :
    number width (padded width n ++ rest) = some (n, rest) := by
  have hskip : skipBlanks (padded width n ++ rest) = padded width n ++ rest :=
    dropWhile_of_stops (stops_padded isBlank fun _ => isBlank_of_isDigit)
  rw [number, hskip, digits_padded (Nat.le_of_eq (length_padded hn hwidth)) hrest]

theorem mark_cons {c : Char} (h : isBlank c = false) : mark c (c :: rest) = some ((), rest) := by
  have hskip : skipBlanks (c :: rest) = c :: rest := dropWhile_of_stops (stops_cons h rest)
  simp [mark, hskip]

end Numbers

/-! ### Years and fractions -/

theorem year_yearText {y : Int} {rest : List Char} (hrest : Stops Char.isDigit rest) :
    year (yearText y ++ rest) = some (y, rest) := by
  rw [yearText]
  split
  · next hfour =>
      simp only [Bool.and_eq_true, decide_eq_true_eq] at hfour
      have hskip : skipBlanks (padded 4 y.toNat ++ rest) = padded 4 y.toNat ++ rest :=
        dropWhile_of_stops (stops_padded isBlank fun _ => isBlank_of_isDigit)
      have hread : digits 4 (padded 4 y.toNat ++ rest) = some (y.toNat, rest) :=
        digits_padded (Nat.le_of_eq (length_padded (by omega) (by decide))) hrest
      obtain ⟨c, cs, hcs⟩ :=
        List.exists_cons_of_ne_nil (padded_ne_nil 4 y.toNat)
      have hc : c.isDigit = true := isDigit_of_mem_padded (hcs ▸ List.mem_cons_self)
      rw [hcs, List.cons_append] at hskip hread ⊢
      simp only [year, hskip]
      split
      · next heq =>
          rw [List.cons.injEq] at heq
          rw [heq.1] at hc
          cases hc
      · next heq =>
          rw [List.cons.injEq] at heq
          rw [heq.1] at hc
          cases hc
      · rw [hread]
        simp [Int.toNat_of_nonneg hfour.1]
  · have hread : digits (padded 4 y.natAbs ++ rest).length (padded 4 y.natAbs ++ rest)
        = some (y.natAbs, rest) := by
      apply digits_padded _ hrest
      rw [List.length_append]
      omega
    by_cases hy : y < 0
    · have hsign : skipBlanks ('-' :: padded 4 y.natAbs ++ rest)
          = '-' :: (padded 4 y.natAbs ++ rest) :=
        dropWhile_of_stops (stops_cons (by decide) _)
      rw [if_pos hy]
      simp only [year, hsign, hread, Option.map_some]
      congr 2
      omega
    · have hsign : skipBlanks ('+' :: padded 4 y.natAbs ++ rest)
          = '+' :: (padded 4 y.natAbs ++ rest) :=
        dropWhile_of_stops (stops_cons (by decide) _)
      rw [if_neg hy]
      simp only [year, hsign, hread, Option.map_some]
      congr 2
      omega

theorem fraction_padded {width n : Nat} {rest : List Char} (hn : n < 10 ^ width)
    (hwidth : 0 < width) (hnine : width ≤ 9) (hrest : Stops Char.isDigit rest) :
    fraction ('.' :: (padded width n ++ rest)) = some (n * 10 ^ (9 - width), rest) := by
  have hrun : (padded width n ++ rest).takeWhile Char.isDigit = padded width n :=
    takeWhile_run (fun _ => isDigit_of_mem_padded) hrest
  have hlength := length_padded hn hwidth
  have hkept : (padded width n).take 9 = padded width n :=
    List.take_of_length_le (by omega)
  simp [fraction, hrun, padded_ne_nil width n, hkept, digitsValue_padded, hlength]

theorem fraction_fractionText {n : Nat} (h : n < 1000000000) :
    fraction (fractionText n ++ ['Z']) = some (n, ['Z']) := by
  have hrest : Stops Char.isDigit ['Z'] := stops_cons (by decide) []
  rw [fractionText]
  split
  · next hzero =>
      rw [hzero]
      rfl
  · split
    · rw [List.cons_append, fraction_padded (by omega) (by decide) (by decide) hrest]
      congr 2
      omega
    · split
      · rw [List.cons_append, fraction_padded (by omega) (by decide) (by decide) hrest]
        congr 2
        omega
      · rw [List.cons_append, fraction_padded (by omega) (by decide) (by decide) hrest]
        simp

/-! ### Whole texts -/

theorem bind_of_eq_some {α β : Type} {x : Option α} {f : α → Option β} {a : α} (h : x = some a) :
    (x >>= f) = f a := by
  rw [h]
  rfl

theorem exists_of_bind_eq_some {α β : Type} {x : Option α} {f : α → Option β} {b : β}
    (h : (x >>= f) = some b) : ∃ a, x = some a ∧ f a = some b :=
  Option.bind_eq_some_iff.mp h

/-- The date, the time of day and the fraction that a text states. -/
theorem read?_of_parts {year : Int} {month day hour minute second nanosecond : Nat}
    (hmonth : month < 100) (hday : day < 100) (hhour : hour < 100) (hminute : minute < 100)
    (hsecond : second < 100) (hnanosecond : nanosecond < 1000000000) :
    read? (String.ofList (yearText year ++ '-' :: padded 2 month ++ '-' :: padded 2 day
        ++ 'T' :: padded 2 hour ++ ':' :: padded 2 minute ++ ':' :: padded 2 second
        ++ fractionText nanosecond ++ ['Z'])) =
      ofLocal? year month day hour minute second nanosecond 0 := by
  have hfraction : Stops Char.isDigit (fractionText nanosecond ++ ['Z']) := by
    rw [fractionText]
    repeat' split
    all_goals exact stops_cons (by decide) _
  simp only [read?, String.toList_ofList, List.append_assoc, List.cons_append]
  refine (bind_of_eq_some (year_yearText (stops_cons (by decide) _))).trans ?_
  refine (bind_of_eq_some (mark_cons (by decide))).trans ?_
  refine (bind_of_eq_some (number_padded hmonth (by decide) (stops_cons (by decide) _))).trans ?_
  refine (bind_of_eq_some (mark_cons (by decide))).trans ?_
  refine (bind_of_eq_some (number_padded hday (by decide) (stops_cons (by decide) _))).trans ?_
  refine (bind_of_eq_some (number_padded hhour (by decide) (stops_cons (by decide) _))).trans ?_
  refine (bind_of_eq_some (mark_cons (by decide))).trans ?_
  refine (bind_of_eq_some (number_padded hminute (by decide) (stops_cons (by decide) _))).trans ?_
  refine (bind_of_eq_some (mark_cons (by decide))).trans ?_
  refine (bind_of_eq_some (number_padded hsecond (by decide) hfraction)).trans ?_
  refine (bind_of_eq_some (fraction_fractionText hnanosecond)).trans ?_
  rfl

theorem daysInMonth_le (year : Int) (month : Nat) : daysInMonth year month ≤ 31 := by
  simp only [daysInMonth]
  repeat' split
  all_goals omega

/-- A date and a time of day in universal time; a leap second is counted to the second before. -/
theorem ofLocal?_eq {year day : Int} {month dayOfMonth hour minute second nanosecond leap : Nat}
    (hmonth : 1 ≤ month ∧ month ≤ 12)
    (hday : 1 ≤ dayOfMonth ∧ dayOfMonth ≤ daysInMonth year month)
    (hhour : hour ≤ 23) (hminute : minute ≤ 59) (hsecond : second ≤ 59)
    (hleap : leap = 0 ∨ leap = 1 ∧ second = 59) (hyear : leastYear ≤ year ∧ year ≤ greatestYear)
    (hdays : daysOfDate year month dayOfMonth = day) (hdate : (dateOfDays day).1 = year) :
    ofLocal? year month dayOfMonth hour minute (second + leap) nanosecond 0 =
      some ⟨day, hour * 3600 + minute * 60 + second, nanosecond + leap * 1000000000⟩ := by
  have hproper : ¬((decide (month < 1) || decide (12 < month) || decide (dayOfMonth < 1)
      || decide (daysInMonth year month < dayOfMonth) || decide (23 < hour)
      || decide (59 < minute) || decide (60 < second + leap) || decide (year < leastYear)
      || decide (greatestYear < year)) = true) := by
    simp only [Bool.or_eq_true, decide_eq_true_eq]
    omega
  have hcounted : (if second + leap = 60 then 59 else second + leap) = second := by
    split <;> omega
  have hnanosecond : (if second + leap = 60 then nanosecond + 1000000000 else nanosecond)
      = nanosecond + leap * 1000000000 := by
    split <;> omega
  generalize htime : hour * 3600 + minute * 60 + second = time
  have hquotient : (day * 86400 + (time : Int) - 0 * 60) / 86400 = day := by omega
  have hrest : ((day * 86400 + (time : Int) - 0 * 60) % 86400).toNat = time := by omega
  rw [ofLocal?, if_neg hproper]
  simp only [hdays, hcounted, hnanosecond, htime, hquotient, hrest, hdate]
  rw [if_neg]
  simp only [Bool.or_eq_true, decide_eq_true_eq]
  omega

/-- An instant is read back from its text. -/
theorem read?_display {t : Instant} (h : t.Valid) : read? t.display = some t := by
  obtain ⟨hmonth1, hmonth12, hday1, hdayn⟩ := dateOfDays_valid t.day
  have hdays := daysOfDate_dateOfDays t.day
  have hmost := daysInMonth_le (dateOfDays t.day).1 (dateOfDays t.day).2.1
  have hsecond := h.second_lt
  have hnanosecond := h.nanosecond_lt
  have hleap := h.leap
  simp only [display]
  generalize hk : (if 1000000000 ≤ t.nanosecond then 1 else 0 : Nat) = leap
  have hleap' : leap = 0 ∧ t.nanosecond < 1000000000 ∨
      leap = 1 ∧ 1000000000 ≤ t.nanosecond ∧ t.second % 60 = 59 := by
    split at hk <;> omega
  rw [read?_of_parts (Nat.lt_of_le_of_lt hmonth12 (by decide)) (by
    refine Nat.lt_of_le_of_lt (Nat.le_trans hdayn hmost) (by decide)) (by omega) (by omega)
    (by omega) (by omega)]
  rw [ofLocal?_eq ⟨hmonth1, hmonth12⟩ ⟨hday1, hdayn⟩ (by omega) (by omega) (by omega) (by omega)
    ⟨h.le_year, h.year_le⟩ hdays rfl]
  obtain ⟨day, second, nanosecond⟩ := t
  simp only at *
  congr 2 <;> omega

/-! ### What can be read -/

theorem fraction_lt {cs rest : List Char} {n : Nat} (h : fraction cs = some (n, rest)) :
    n < 1000000000 := by
  unfold fraction at h
  split at h
  · next digits =>
      simp only at h
      split at h
      · cases h
      · cases h
        have hdigits : ∀ c ∈ (digits.takeWhile Char.isDigit).take 9, c.isDigit = true := by
          intro c hc
          exact List.all_eq_true.mp List.all_takeWhile c (List.mem_of_mem_take hc)
        have hlt := digitsValue_lt hdigits
        have hlength := List.length_take_le 9 (digits.takeWhile Char.isDigit)
        generalize (digits.takeWhile Char.isDigit).take 9 = ds at *
        calc digitsValue ds * 10 ^ (9 - ds.length)
            < 10 ^ ds.length * 10 ^ (9 - ds.length) :=
              Nat.mul_lt_mul_of_pos_right hlt (Nat.pow_pos (by decide))
          _ = 10 ^ 9 := by rw [← Nat.pow_add]; congr 1; omega
  · cases h
    decide

theorem valid_of_ofLocal? {year minutes : Int} {month day hour minute second nanosecond : Nat}
    {t : Instant} (hnanosecond : nanosecond < 1000000000)
    (h : ofLocal? year month day hour minute second nanosecond minutes = some t) : t.Valid := by
  simp only [ofLocal?] at h
  split at h
  · cases h
  · generalize hcounted : (if second = 60 then 59 else second) = counted at h
    generalize hlong : (if second = 60 then nanosecond + 1000000000 else nanosecond) = long at h
    split at h
    · cases h
    · next hyear =>
        cases h
        simp only [Bool.or_eq_true, decide_eq_true_eq, not_or, Int.not_lt] at hyear
        refine ⟨by simp only; omega, ?_, ?_, hyear.1, hyear.2⟩
        · simp only
          split at hlong <;> omega
        · simp only
          intro hleap
          split at hlong
          · next hsixty =>
              rw [if_pos hsixty] at hcounted
              omega
          · omega

/-- What is read can be written. -/
theorem valid_of_read? {text : String} {t : Instant} (h : read? text = some t) : t.Valid := by
  obtain ⟨_, -, h⟩ := exists_of_bind_eq_some h
  obtain ⟨_, -, h⟩ := exists_of_bind_eq_some h
  obtain ⟨_, -, h⟩ := exists_of_bind_eq_some h
  obtain ⟨_, -, h⟩ := exists_of_bind_eq_some h
  obtain ⟨⟨_, cs⟩, -, h⟩ := exists_of_bind_eq_some h
  cases cs with
  | nil => cases h
  | cons c rest =>
      dsimp only at h
      split at h
      · obtain ⟨_, -, h⟩ := exists_of_bind_eq_some h
        obtain ⟨_, -, h⟩ := exists_of_bind_eq_some h
        obtain ⟨_, -, h⟩ := exists_of_bind_eq_some h
        obtain ⟨_, -, h⟩ := exists_of_bind_eq_some h
        obtain ⟨_, -, h⟩ := exists_of_bind_eq_some h
        obtain ⟨_, -, h⟩ := exists_of_bind_eq_some h
        obtain ⟨_, hfraction, h⟩ := exists_of_bind_eq_some h
        obtain ⟨⟨minutes, cs⟩, -, h⟩ := exists_of_bind_eq_some h
        dsimp only at h
        split at h
        · exact valid_of_ofLocal? (fraction_lt hfraction) h
        · cases h
      · cases h

end MapContext.Instant
