import MapContext.FolderPath
import MapContext.Proofs.Result
import MapContext.Proofs.Text.Digits
import Mathlib.Data.Nat.Digits.Defs

/-!
# Folder paths as text

The text of a path is one or more groups of a slash and a numeral. Reading accepts exactly these
texts and otherwise names the first segment that is no numeral. A path is read back from its text
exactly if none of its segments is beyond the greatest index, and a text is written again as it was
exactly if no numeral in it begins with a zero that could be left out.
-/

namespace MapContext.FolderPath

open Text

/-! ### Numerals -/

/-- The characters are one or more ASCII digits that write a number of 64 bits. -/
structure Numeral (cs : List Char) (n : Nat) : Prop where
  /-- There is a digit. -/
  ne_nil : cs ≠ []
  /-- There is nothing but digits. -/
  digit : ∀ c ∈ cs, '0' ≤ c ∧ c ≤ '9'
  /-- The last digit counts once, the one before it ten times, and so on. -/
  value : n = Nat.ofDigits 10 (cs.reverse.map fun c => c.toNat - '0'.toNat)
  /-- The number has at most 64 bits. -/
  lt : n < 2 ^ 64

/-- The numeral begins with a zero that could be left out. -/
def Padded (cs : List Char) : Prop := 1 < cs.length ∧ cs.head? = some '0'

variable {cs bad : List Char} {n m : Nat} {groups : List (List Char)}
  {segments : List Nat}

theorem digitsValue_eq_ofDigits (cs : List Char) :
    digitsValue cs = Nat.ofDigits 10 (cs.reverse.map fun c => c.toNat - '0'.toNat) := by
  rw [Nat.ofDigits_eq_foldr, List.foldr_map, List.foldr_reverse, digitsValue]
  simp only [Nat.cast_id, Nat.add_comm]

theorem digit_iff : (∀ c ∈ cs, c.isDigit = true) ↔ ∀ c ∈ cs, '0' ≤ c ∧ c ≤ '9' := by
  simp only [isDigit_iff]
  rfl

theorem readSegment?_eq_some_iff : readSegment? cs = some n ↔ Numeral cs n := by
  have hread : readSegment? cs = some n ↔ (cs ≠ [] ∧ ∀ c ∈ cs, c.isDigit = true) ∧
      digitsValue cs ≤ maxIndex ∧ digitsValue cs = n := by
    simp [readSegment?]
  have hmax : digitsValue cs ≤ maxIndex ↔ digitsValue cs < 2 ^ 64 := Nat.lt_succ_iff.symm
  rw [hread, digit_iff, hmax, digitsValue_eq_ofDigits]
  constructor
  · rintro ⟨⟨hne, hdigit⟩, hlt, rfl⟩
    exact ⟨hne, hdigit, rfl, hlt⟩
  · rintro ⟨hne, hdigit, rfl, hlt⟩
    exact ⟨⟨hne, hdigit⟩, hlt, rfl⟩

theorem readSegment?_eq_none_iff : readSegment? cs = none ↔ ∀ n, ¬Numeral cs n := by
  rw [Option.eq_none_iff_forall_ne_some]
  exact forall_congr' fun n => not_congr readSegment?_eq_some_iff

theorem Numeral.not_mem (h : Numeral cs n) : '/' ∉ cs := fun hc =>
  absurd (h.digit '/' hc) (by decide)

theorem numeral_digits_iff : Numeral (Nat.toDigits 10 n) m ↔ m = n ∧ n < 2 ^ 64 := by
  have hdigit : ∀ c ∈ Nat.toDigits 10 n, '0' ≤ c ∧ c ≤ '9' :=
    digit_iff.mp fun _ => isDigit_of_mem_digits
  have hvalue := (digitsValue_eq_ofDigits _).symm.trans (digitsValue_digits n)
  constructor
  · intro h
    obtain rfl := h.value.trans hvalue
    exact ⟨rfl, h.lt⟩
  · rintro ⟨rfl, hlt⟩
    exact ⟨Nat.toDigits_ne_nil, hdigit, hvalue.symm, hlt⟩

/-- The digits of a number are its only numeral that is not padded. -/
theorem Numeral.eq_digits_iff (h : Numeral cs n) : cs = Nat.toDigits 10 n ↔ ¬Padded cs := by
  constructor
  · rintro rfl ⟨hlong, hhead⟩
    rw [head?_digits_eq_zero hhead] at hlong
    exact absurd hlong (by decide)
  · intro hpadded
    have hvalue : digitsValue cs = n := (digitsValue_eq_ofDigits cs).trans h.value.symm
    by_cases hhead : cs.head? = some '0'
    · obtain ⟨c, ds, rfl⟩ := List.exists_cons_of_ne_nil h.ne_nil
      obtain rfl : c = '0' := Option.some.inj hhead
      cases ds with
      | nil => rw [← hvalue]; rfl
      | cons d ds => exact absurd ⟨by simp, hhead⟩ hpadded
    · rw [← hvalue, digits_digitsValue h.ne_nil (digit_iff.mpr h.digit) hhead]

/-! ### Segments -/

theorem readSegments_eq_ok_iff :
    readSegments groups = .ok segments ↔ List.Forall₂ Numeral groups segments := by
  induction groups generalizing segments with
  | nil => simp [readSegments, eq_comm]
  | cons cs groups ih =>
      rw [readSegments, List.forall₂_cons_left_iff]
      cases hread : readSegment? cs with
      | none =>
          refine ⟨fun h => (by cases h), ?_⟩
          rintro ⟨n, _, hn, -, -⟩
          exact absurd hn (readSegment?_eq_none_iff.mp hread n)
      | some n =>
          have hn := readSegment?_eq_some_iff.mp hread
          simp only [map_eq_ok_iff, ih]
          constructor
          · rintro ⟨rest, hrest, rfl⟩
            exact ⟨n, rest, hn, hrest, rfl⟩
          · rintro ⟨m, rest, hm, hrest, rfl⟩
            rw [readSegment?_eq_some_iff.mpr hm] at hread
            exact ⟨rest, hrest, by rw [Option.some.inj hread]⟩

theorem readSegments_eq_error_iff : readSegments groups = .error bad ↔
    ∃ good others, groups = good ++ bad :: others ∧ (∀ cs ∈ good, ∃ n, Numeral cs n) ∧
      ∀ n, ¬Numeral bad n := by
  constructor
  · intro h
    induction groups with
    | nil => cases h
    | cons cs groups ih =>
        rw [readSegments] at h
        split at h
        · next hnone =>
            cases h
            exact ⟨[], groups, rfl, by simp, readSegment?_eq_none_iff.mp hnone⟩
        · next n hn =>
            obtain ⟨good, others, rfl, hgood, hbad⟩ := ih (map_eq_error_iff.mp h)
            refine ⟨cs :: good, others, rfl, List.forall_mem_cons.mpr ⟨?_, hgood⟩, hbad⟩
            exact ⟨n, readSegment?_eq_some_iff.mp hn⟩
  · rintro ⟨good, others, rfl, hgood, hbad⟩
    induction good with
    | nil => simp only [List.nil_append, readSegments, readSegment?_eq_none_iff.mpr hbad]
    | cons cs good ih =>
        obtain ⟨⟨n, hn⟩, hgood⟩ := List.forall_mem_cons.mp hgood
        rw [List.cons_append, readSegments, readSegment?_eq_some_iff.mpr hn]
        exact map_eq_error_iff.mpr (ih hgood)

/-! ### Reading -/

/-- The text is made of groups of a slash and a numeral for each segment of the path. -/
structure Spelling (text : String) (groups : List (List Char)) (p : FolderPath) : Prop where
  /-- Each group stands behind a slash, and nothing else is there. -/
  text : text.toList = groups.flatMap ('/' :: ·)
  /-- The groups write the segments. -/
  numerals : List.Forall₂ Numeral groups p.segments

/-- Why a text that spells no path is refused. -/
inductive Refused : String → Error → Prop
  /-- There is no text. -/
  | empty : Refused "" .empty
  /-- It begins with another character than a slash. -/
  | missingSlash {text : String} : text ≠ "" → text.toList.head? ≠ some '/' →
      Refused text (.missingSlash text)
  /-- Behind some numerals, or none, comes a group that is none; what follows does not count. -/
  | badSegment {text : String} {good others : List (List Char)} {bad : List Char} :
      text.toList = (good ++ bad :: others).flatMap ('/' :: ·) →
      (∀ cs ∈ good ++ bad :: others, '/' ∉ cs) → (∀ cs ∈ good, ∃ n, Numeral cs n) →
      (∀ n, ¬Numeral bad n) → Refused text (.badSegment text (String.ofList bad))

variable {text : String} {rest : List Char} {p q : FolderPath}

theorem Spelling.not_mem (h : Spelling text groups p) : ∀ cs ∈ groups, '/' ∉ cs := by
  intro cs hcs
  obtain ⟨n, -, hn⟩ := exists_of_mem_forall₂ h.numerals hcs
  exact hn.not_mem

theorem slash_not_mem_pieces (rest : List Char) :
    ∀ cs ∈ pieces (· == '/') rest, '/' ∉ cs := by
  intro cs hcs hslash
  exact absurd (pieces_free _ rest cs hcs '/' hslash) (by decide)

theorem segments_of_ofSegments? (h : ofSegments? segments = some p) : p.segments = segments := by
  rw [ofSegments?] at h
  split at h
  · cases h
  · cases h
    rfl

theorem exists_slash (h : groups ≠ []) :
    ∃ rest, groups.flatMap ('/' :: ·) = '/' :: rest := by
  obtain ⟨cs, groups, rfl⟩ := List.exists_cons_of_ne_nil h
  exact ⟨_, List.flatMap_cons⟩

theorem read_of_spelling (h : Spelling text groups p) : read text = .ok p := by
  have hne : groups ≠ [] := by
    rintro rfl
    exact p.nonempty (List.forall₂_nil_left_iff.mp h.numerals)
  obtain ⟨rest, hrest⟩ := exists_slash hne
  have hpieces : pieces (· == '/') rest = groups :=
    (pieces_eq_iff h.not_mem).mpr hrest.symm
  have hpath : ofSegments? p.segments = some p := by simp [ofSegments?, p.nonempty]
  rw [read, h.text, hrest]
  simp only [if_pos, hpieces, readSegments_eq_ok_iff.mpr h.numerals, hpath]

theorem read_of_refused {e : Error} (h : Refused text e) : read text = .error e := by
  cases h with
  | empty => rfl
  | missingSlash hne hhead =>
      rw [read]
      split
      · next hnil => exact absurd (String.toList_eq_nil_iff.mp hnil) hne
      · next c rest htext =>
          rw [htext] at hhead
          rw [if_neg fun hc => hhead (congrArg some hc)]
  | badSegment htext hfree hgood hbad =>
      obtain ⟨rest, hrest⟩ :=
        exists_slash (List.append_ne_nil_of_right_ne_nil _ (List.cons_ne_nil _ _))
      have hpieces := (pieces_eq_iff hfree).mpr hrest.symm
      have hread := readSegments_eq_error_iff.mpr ⟨_, _, hpieces, hgood, hbad⟩
      rw [read, htext, hrest]
      simp only [if_pos, hread]

/-- Every text spells a path or is refused for a reason. -/
theorem spelled_or_refused (text : String) :
    (∃ p groups, Spelling text groups p) ∨ ∃ e, Refused text e := by
  cases htext : text.toList with
  | nil =>
      obtain rfl := String.toList_eq_nil_iff.mp htext
      exact .inr ⟨_, .empty⟩
  | cons c rest =>
      by_cases hc : c = '/'
      · subst hc
        have hfree := slash_not_mem_pieces rest
        have hjoined := htext.trans ((pieces_eq_iff hfree).mp rfl)
        cases hread : readSegments (pieces (· == '/') rest) with
        | ok segments =>
            have hnumerals := readSegments_eq_ok_iff.mp hread
            have hne : segments ≠ [] := by
              rintro rfl
              cases hnumerals
            exact .inl ⟨⟨segments, hne⟩, _, hjoined, hnumerals⟩
        | error bad =>
            obtain ⟨good, others, hpieces, hgood, hbad⟩ := readSegments_eq_error_iff.mp hread
            rw [hpieces] at hfree hjoined
            exact .inr ⟨_, .badSegment hjoined hfree hgood hbad⟩
      · refine .inr ⟨_, .missingSlash ?_ ?_⟩
        · rintro rfl
          cases htext
        · rw [htext]
          exact fun heq => hc (Option.some.inj heq)

theorem read_eq_ok_iff : read text = .ok p ↔ ∃ groups, Spelling text groups p := by
  refine ⟨fun h => ?_, fun ⟨groups, h⟩ => read_of_spelling h⟩
  obtain ⟨q, groups, hq⟩ | ⟨e, he⟩ := spelled_or_refused text
  · cases h.symm.trans (read_of_spelling hq)
    exact ⟨groups, hq⟩
  · cases h.symm.trans (read_of_refused he)

theorem read_eq_error_iff {e : Error} : read text = .error e ↔ Refused text e := by
  refine ⟨fun h => ?_, read_of_refused⟩
  obtain ⟨p, groups, hp⟩ | ⟨e', he⟩ := spelled_or_refused text
  · cases h.symm.trans (read_of_spelling hp)
  · cases h.symm.trans (read_of_refused he)
    exact he

/-- A sign is no digit. -/
example : read "/0/+1" = .error (.badSegment "/0/+1" "+1") := by decide

/-- The first index that is too great is refused before what follows. -/
example : read "/7/18446744073709551616/x" =
  .error (.badSegment "/7/18446744073709551616/x" "18446744073709551616") := rfl

/-! ### Writing -/

/-- The path can be written and read again. -/
def Legible (p : FolderPath) : Prop := ∀ i ∈ p.segments, i ≤ maxIndex

theorem toList_display (p : FolderPath) :
    p.display.toList = (p.segments.map (Nat.toDigits 10)).flatMap ('/' :: ·) := by
  rw [display, String.toList_join, List.flatMap_map, List.flatMap_map]
  congr 1
  funext i
  simp

theorem slash_not_mem_digits (segments : List Nat) :
    ∀ cs ∈ segments.map (Nat.toDigits 10), '/' ∉ cs := by
  intro cs hcs hslash
  obtain ⟨n, -, rfl⟩ := List.mem_map.mp hcs
  exact absurd (isDigit_of_mem_digits hslash) (by decide)

theorem spelling_display (h : p.Legible) :
    Spelling p.display (p.segments.map (Nat.toDigits 10)) p where
  text := toList_display p
  numerals := List.forall₂_map_left_iff.mpr <| List.forall₂_same.mpr fun i hi =>
    numeral_digits_iff.mpr ⟨rfl, Nat.lt_succ_iff.mpr (h i hi)⟩

/-- A path is read back from its text if its segments are small enough, and nothing else is. -/
theorem read_display_eq_ok_iff : read p.display = .ok q ↔ q = p ∧ p.Legible := by
  constructor
  · intro h
    obtain ⟨groups, hq⟩ := read_eq_ok_iff.mp h
    have hgroups : p.segments.map (Nat.toDigits 10) = groups :=
      (flatMap_separator_inj (slash_not_mem_digits p.segments) hq.not_mem).mp
        ((toList_display p).symm.trans hq.text)
    have hlegible : p.Legible := fun i hi => by
      obtain ⟨n, -, hn⟩ := exists_of_mem_forall₂ hq.numerals (hgroups ▸ List.mem_map_of_mem hi)
      exact Nat.lt_succ_iff.mp (numeral_digits_iff.mp hn).2
    exact ⟨Except.ok.inj (h.symm.trans (read_of_spelling (spelling_display hlegible))), hlegible⟩
  · rintro ⟨rfl, hlegible⟩
    exact read_of_spelling (spelling_display hlegible)

/-- A path that was read can be written and read again. -/
theorem legible_of_read (h : read text = .ok p) : p.Legible := by
  obtain ⟨groups, hp⟩ := read_eq_ok_iff.mp h
  intro i hi
  obtain ⟨cs, -, hn⟩ := exists_of_mem_forall₂ (R := flip Numeral) hp.numerals.flip hi
  exact Nat.lt_succ_iff.mp hn.lt

theorem map_digits_eq_iff (h : List.Forall₂ Numeral groups segments) :
    segments.map (Nat.toDigits 10) = groups ↔ ∀ cs ∈ groups, ¬Padded cs := by
  induction h with
  | nil => simp
  | cons hn _ ih => rw [List.map_cons, List.cons.injEq, ih, eq_comm, hn.eq_digits_iff,
      List.forall_mem_cons]

/-- A text is written again as it was if no zero in it could be left out. -/
theorem Spelling.display_eq_iff (h : Spelling text groups p) :
    p.display = text ↔ ∀ cs ∈ groups, ¬Padded cs := by
  rw [← String.toList_inj, toList_display, h.text,
    flatMap_separator_inj (slash_not_mem_digits p.segments) h.not_mem, map_digits_eq_iff h.numerals]

/-! ### Questions about texts -/

theorem toOption_read_eq_some_iff : (read text).toOption = some p ↔ read text = .ok p := by
  cases read text with
  | error e => simp [Except.toOption]
  | ok q => simp [Except.toOption]

theorem Legible.parent (h : p.Legible) (hq : p.parent? = some q) : q.Legible := by
  intro i hi
  rw [segments_of_ofSegments? hq] at hi
  exact h i ((List.dropLast_sublist p.segments).subset hi)

/-- The parent of a text that spells a path is a text that spells the parent of the path. -/
theorem parentOfText?_eq_some_iff {parent : String} : parentOfText? text = some parent ↔
    ∃ p q, read text = .ok p ∧ p.parent? = some q ∧ parent = q.display ∧
      read parent = .ok q := by
  simp only [parentOfText?, Option.bind_eq_some_iff, toOption_read_eq_some_iff,
    Option.map_eq_some_iff]
  constructor
  · rintro ⟨p, hp, q, hq, rfl⟩
    have hlegible := (legible_of_read hp).parent hq
    exact ⟨p, q, hp, hq, rfl, read_display_eq_ok_iff.mpr ⟨rfl, hlegible⟩⟩
  · rintro ⟨p, q, hp, hq, rfl, -⟩
    exact ⟨p, hp, q, hq, rfl⟩

theorem isDescendantText_iff {above : String} : isDescendantText above text = true ↔
    ∃ p q, read above = .ok p ∧ read text = .ok q ∧ p.isAncestorOf q = true := by
  unfold isDescendantText
  split
  · next p q hp hq => simp [hp, hq]
  · next hno =>
      simp only [Bool.false_eq_true, false_iff]
      rintro ⟨p, q, hp, hq, -⟩
      exact hno p q hp hq

/-- A text is read as the path that it spells or else refused, for the leftmost reason; what is
written is read back, and it is the text that was read unless that had zeros to leave out. -/
theorem read_iff_spelled (text : String) :
    (∀ p, read text = .ok p ↔ ∃ groups, Spelling text groups p) ∧
    (∀ e, read text = .error e ↔ Refused text e) ∧
    (∀ p : FolderPath, (∀ i ∈ p.segments, i < 2 ^ 64) → read p.display = .ok p) ∧
    (∀ p, read text = .ok p → read p.display = .ok p) ∧
    (∀ p groups, Spelling text groups p → (p.display = text ↔ ∀ cs ∈ groups, ¬Padded cs)) ∧
    (∀ parent, parentOfText? text = some parent ↔
      ∃ p q, read text = .ok p ∧ p.parent? = some q ∧ parent = q.display ∧
        read parent = .ok q) ∧
    (∀ i, indexOfText? text = some i ↔ ∃ p, read text = .ok p ∧ p.index = i) ∧
    (∀ d, depthOfText? text = some d ↔ ∃ p, read text = .ok p ∧ p.depth = d) ∧
    ∀ above, isDescendantText above text = true ↔
      ∃ p q, read above = .ok p ∧ read text = .ok q ∧ p.isAncestorOf q = true := by
  refine ⟨fun p => read_eq_ok_iff, fun e => read_eq_error_iff, fun p hp => ?_, fun p hp => ?_,
    fun p groups h => h.display_eq_iff, fun parent => parentOfText?_eq_some_iff, fun i => ?_,
    fun d => ?_, fun above => isDescendantText_iff⟩
  · exact read_display_eq_ok_iff.mpr ⟨rfl, fun i hi => Nat.lt_succ_iff.mp (hp i hi)⟩
  · exact read_display_eq_ok_iff.mpr ⟨rfl, legible_of_read hp⟩
  · simp only [indexOfText?, Option.map_eq_some_iff, toOption_read_eq_some_iff]
  · simp only [depthOfText?, Option.map_eq_some_iff, toOption_read_eq_some_iff]

end MapContext.FolderPath
