import MapContext.Proofs.Json.Numbers
import MapContext.Proofs.Json.Strings

/-!
# Reading the text of a value

The text of a value over several lines is read up to its end. What is read is the value itself,
except that its numbers are read back from their texts and that containers nested too deep can only
be passed over.
-/

namespace MapContext.Json

open Text

mutual

/-- What is read from the text of a value at the given remaining depth. -/
def Value.reread (room : Nat) : Value → Tree
  | .null => .null
  | .boolean b => .boolean b
  | .number n => n.reread
  | .text s => .text s
  | .array items => nested room (.array (Value.rereadItems (room - 1) items) .closed)
  | .object members => nested room (.object (Value.rereadMembers (room - 1) members) none)
termination_by structural v => v

/-- What is read from the texts of items. -/
def Value.rereadItems (room : Nat) : List Value → List Tree
  | [] => []
  | v :: vs => v.reread room :: Value.rereadItems room vs
termination_by structural vs => vs

/-- What is read from the texts of members. -/
def Value.rereadMembers (room : Nat) : List (String × Value) → TreeMembers
  | [] => []
  | (k, v) :: vs => (some k, v.reread room) :: Value.rereadMembers room vs
termination_by structural vs => vs

end

/-! ### White space -/

section Space

variable {rest : List Char} {fuel room : Nat}

theorem skipSpace_cons {c : Char} (h : isSpace c = false) (rest : List Char) :
    skipSpace (c :: rest) = c :: rest :=
  dropWhile_of_stops (stops_cons h rest)

theorem toList_newLine (level : Nat) :
    (newLine level).toList = '\n' :: List.replicate (2 * level) ' ' := by
  simp [newLine]

theorem skipSpace_newLine (level : Nat) (rest : List Char) :
    skipSpace ((newLine level).toList ++ rest) = skipSpace rest := by
  rw [skipSpace, toList_newLine, List.dropWhile_append_of_pos]
  · rfl
  · intro c hc
    rcases List.mem_cons.mp hc with rfl | hc
    · rfl
    · rw [List.eq_of_mem_replicate hc]
      rfl

theorem skipSpace_blank (rest : List Char) : skipSpace (' ' :: rest) = skipSpace rest :=
  rfl

theorem stops_newLine (level : Nat) (rest : List Char) :
    Stops isNumeric ((newLine level).toList ++ rest) := by
  rw [toList_newLine]
  exact stops_cons (by decide) _

theorem readValue_congr {cs ds : List Char} (h : skipSpace cs = skipSpace ds) :
    readValue fuel room cs = readValue fuel room ds := by
  cases fuel with
  | zero => rfl
  | succ fuel => rw [readValue, readValue, h]

end Space

/-! ### Lines -/

/-- The lines after the first one, each behind a comma. -/
def linesText (level : Nat) (lines : List String) : List Char :=
  lines.flatMap fun line => ',' :: ((newLine level).toList ++ line.toList)

theorem linesText_cons (level : Nat) (line : String) (lines : List String) :
    linesText level (line :: lines) =
      ',' :: ((newLine level).toList ++ line.toList) ++ linesText level lines :=
  List.flatMap_cons

theorem toList_intercalate (separator first : String) (others : List String) :
    (separator.intercalate (first :: others)).toList =
      first.toList ++ others.flatMap fun t => separator.toList ++ t.toList := by
  induction others generalizing first with
  | nil => simp
  | cons second others ih =>
      rw [String.intercalate_cons_cons, String.toList_append, String.toList_append, ih,
        List.flatMap_cons, List.append_assoc, List.append_assoc]

theorem toList_block_cons (opening closing : String) (level : Nat) (line : String)
    (lines : List String) :
    (block opening closing level (line :: lines)).toList =
      opening.toList ++ ((newLine (level + 1)).toList ++ (line.toList
        ++ (linesText (level + 1) lines ++ ((newLine level).toList ++ closing.toList)))) := by
  have hsome : ¬((line :: lines).isEmpty = true) := by simp
  have hcomma : (",").toList = [','] := rfl
  rw [block, if_neg hsome]
  simp only [String.toList_append, toList_intercalate, linesText, hcomma, List.append_assoc,
    List.cons_append, List.nil_append]

/-! ### One item or member -/

section Steps

variable {fuel room : Nat} {cs more rest rest' : List Char} {c : Char} {t : Tree}

theorem readItems_close (first : Bool) (h : skipSpace cs = ']' :: rest) :
    readItems (fuel + 1) room first cs = ([], .closed, some rest) := by
  simp only [readItems, h]

theorem readItems_first {result : List Tree × ListEnding × Option (List Char)}
    (h : skipSpace cs = c :: more) (hclose : c ≠ ']') (hcomma : c ≠ ',')
    (hvalue : readValue fuel room (c :: more) = (t, some rest))
    (hitems : readItems fuel room false rest = result) :
    readItems (fuel + 1) room true cs = (t :: result.1, result.2) := by
  simp only [readItems, h]
  split
  · next heq => cases heq
  · next heq => exact absurd (List.cons.inj heq).1 hclose
  · next heq => exact absurd (List.cons.inj heq).1 hcomma
  · simp only [if_true, hvalue, hitems]

theorem readItems_next {result : List Tree × ListEnding × Option (List Char)}
    (h : skipSpace cs = ',' :: rest') (h' : skipSpace rest' = c :: more) (hclose : c ≠ ']')
    (hvalue : readValue fuel room (c :: more) = (t, some rest))
    (hitems : readItems fuel room false rest = result) :
    readItems (fuel + 1) room false cs = (t :: result.1, result.2) := by
  simp only [readItems, h, h', Bool.false_eq_true, if_false]
  split
  · next heq => cases heq
  · next heq => exact absurd (List.cons.inj heq).1 hclose
  · simp only [hvalue, hitems]

theorem readMembers_close (first : Bool) (h : skipSpace cs = '}' :: rest) :
    readMembers (fuel + 1) room first cs = ([], none, some rest) := by
  simp only [readMembers, h]

theorem readMembers_first {key : Option String} {colon : List Char}
    {result : TreeMembers × Option Problem × Option (List Char)}
    (h : skipSpace cs = '"' :: more) (hkey : readString true [] more = .closed key colon)
    (hcolon : skipSpace colon = ':' :: rest')
    (hvalue : readValue fuel room rest' = (t, some rest))
    (hmembers : readMembers fuel room false rest = result) :
    readMembers (fuel + 1) room true cs = ((key, t) :: result.1, result.2) := by
  simp only [readMembers, h, if_true, hkey, hcolon, hvalue, hmembers]

theorem readMembers_next {key : Option String} {colon comma : List Char}
    {result : TreeMembers × Option Problem × Option (List Char)}
    (h : skipSpace cs = ',' :: comma) (h' : skipSpace comma = '"' :: more)
    (hkey : readString true [] more = .closed key colon)
    (hcolon : skipSpace colon = ':' :: rest')
    (hvalue : readValue fuel room rest' = (t, some rest))
    (hmembers : readMembers fuel room false rest = result) :
    readMembers (fuel + 1) room false cs = ((key, t) :: result.1, result.2) := by
  simp only [readMembers, h, h', Bool.false_eq_true, if_false, hkey, hcolon, hvalue, hmembers]

end Steps

/-! ### Values -/

theorem Number.exists_print_cons (x : Number) :
    ∃ c cs, x.print.toList = c :: cs ∧ (c = '-' ∨ c.isDigit = true) := by
  obtain ⟨n, htext⟩ := x.exists_numeral
  obtain ⟨c, cs, hwhole⟩ := List.exists_cons_of_ne_nil n.whole_ne_nil
  have hc : c.isDigit = true := n.isDigit_whole c (hwhole ▸ List.mem_cons_self)
  rw [← htext, Numeral.text, hwhole]
  cases n.negative with
  | true => exact ⟨'-', _, rfl, .inl rfl⟩
  | false => exact ⟨c, _, rfl, .inr hc⟩

theorem exists_block_cons (opening : Char) (closing : String) (level : Nat)
    (lines : List String) :
    ∃ cs, (block (String.singleton opening) closing level lines).toList = opening :: cs := by
  cases lines with
  | nil => exact ⟨closing.toList, by simp [block]⟩
  | cons line lines =>
      rw [toList_block_cons, String.toList_singleton]
      exact ⟨_, List.singleton_append⟩

/-- The text of a value begins with a character that neither is white space nor ends or separates
items. -/
theorem exists_prettyAt_cons (v : Value) (level : Nat) :
    ∃ c cs, (v.prettyAt level).toList = c :: cs ∧ isSpace c = false ∧ c ≠ ']' ∧ c ≠ ',' := by
  cases v with
  | null => exact ⟨'n', ['u', 'l', 'l'], by simp [Value.prettyAt], by decide⟩
  | boolean b =>
      cases b with
      | true => exact ⟨'t', ['r', 'u', 'e'], by simp [Value.prettyAt], by decide⟩
      | false => exact ⟨'f', ['a', 'l', 's', 'e'], by simp [Value.prettyAt], by decide⟩
  | number n =>
      obtain ⟨c, cs, htext, hc⟩ := n.exists_print_cons
      refine ⟨c, cs, htext, ?_⟩
      rcases hc with rfl | hc
      · decide
      · have hne : ∀ d : Char, d.isDigit = false → c ≠ d := by
          rintro d hd rfl
          rw [hc] at hd
          cases hd
        simp only [isSpace, Bool.or_eq_false_iff, beq_eq_false_iff_ne]
        refine ⟨⟨⟨⟨?_, ?_⟩, ?_⟩, ?_⟩, ?_, ?_⟩ <;> exact hne _ (by decide)
  | text s =>
      exact ⟨'"', s.toList.flatMap escapedChar ++ ['"'], by simp [Value.prettyAt, printText],
        by decide⟩
  | array items =>
      obtain ⟨cs, htext⟩ := exists_block_cons '[' "]" level (Value.prettyItems (level + 1) items)
      exact ⟨'[', cs, htext, by decide⟩
  | object members =>
      obtain ⟨cs, htext⟩ :=
        exists_block_cons '\x7b' "\x7d" level (Value.prettyMembers (level + 1) members)
      exact ⟨'\x7b', cs, htext, by decide⟩

theorem stops_linesText (level level' : Nat) (lines : List String) (rest : List Char) :
    Stops isNumeric (linesText level lines ++ ((newLine level').toList ++ rest)) := by
  cases lines with
  | nil => exact stops_newLine level' rest
  | cons line lines => exact stops_cons (by decide) _

theorem length_newLine (level : Nat) : (newLine level).toList.length = 2 * level + 1 := by
  simp [toList_newLine]

theorem exists_succ_of_lt {m n : Nat} (h : m < n) : ∃ k, n = k + 1 :=
  ⟨n - 1, by omega⟩

mutual

/-- The text of a value is read up to its end. -/
theorem readValue_prettyAt (v : Value) (level fuel room : Nat) (rest : List Char)
    (hfuel : (v.prettyAt level).toList.length ≤ fuel) (hrest : Stops isNumeric rest) :
    readValue fuel room ((v.prettyAt level).toList ++ rest) = (v.reread room, some rest) := by
  obtain ⟨c, cs, hcons, -⟩ := exists_prettyAt_cons v level
  obtain ⟨fuel, rfl⟩ : ∃ f, fuel = f + 1 := by
    rw [hcons] at hfuel
    exact exists_succ_of_lt hfuel
  cases v with
  | null => simp [Value.prettyAt, readValue, skipSpace, isSpace, readWord, Value.reread]
  | boolean b =>
      cases b with
      | true => simp [Value.prettyAt, readValue, skipSpace, isSpace, readWord, Value.reread]
      | false => simp [Value.prettyAt, readValue, skipSpace, isSpace, readWord, Value.reread]
  | number n => exact readValue_print n fuel room hrest
  | text s =>
      obtain ⟨body, htext, hread⟩ := readString_printText s rest
      rw [Value.prettyAt, htext, List.cons_append, readValue, skipSpace_cons (by decide)]
      simp only [hread, Scanned.step, Value.reread]
  | array items =>
      rw [Value.prettyAt] at hfuel ⊢
      obtain ⟨body, hbody, hread⟩ := readItems_block items level fuel (room - 1) rest hfuel
      rw [hbody, List.cons_append, readValue, skipSpace_cons (by decide)]
      simp only [hread, Value.reread]
  | object members =>
      rw [Value.prettyAt] at hfuel ⊢
      obtain ⟨body, hbody, hread⟩ := readMembers_block members level fuel (room - 1) rest hfuel
      rw [hbody, List.cons_append, readValue, skipSpace_cons (by decide)]
      simp only [hread, Value.reread]
termination_by structural v

/-- Items between their brackets are read up to the closing one. -/
theorem readItems_block (vs : List Value) (level fuel room : Nat) (rest : List Char)
    (hfuel : (block "[" "]" level (Value.prettyItems (level + 1) vs)).toList.length ≤ fuel + 1) :
    ∃ body, (block "[" "]" level (Value.prettyItems (level + 1) vs)).toList = '[' :: body ∧
      readItems fuel room true (body ++ rest) =
        (Value.rereadItems room vs, .closed, some rest) := by
  cases vs with
  | nil =>
      obtain ⟨fuel, rfl⟩ : ∃ f, fuel = f + 1 := by
        simp [block, Value.prettyItems] at hfuel
        exact exists_succ_of_lt hfuel
      exact ⟨[']'], by simp [block, Value.prettyItems],
        readItems_close true (skipSpace_cons (by decide) rest)⟩
  | cons v vs =>
      obtain ⟨c, cs, hcons, hspace, hclose, hcomma⟩ := exists_prettyAt_cons v (level + 1)
      rw [Value.prettyItems, toList_block_cons] at hfuel ⊢
      simp only [String.reduceToList, List.length_append, length_newLine, List.length_cons,
        List.length_nil] at hfuel
      obtain ⟨fuel, rfl⟩ : ∃ f, fuel = f + 1 := ⟨fuel - 1, by omega⟩
      simp only [String.reduceToList, List.cons_append, List.nil_append]
      refine ⟨_, rfl, ?_⟩
      simp only [List.append_assoc, List.cons_append, List.nil_append]
      have hvalue := readValue_prettyAt v (level + 1) fuel room
        (linesText (level + 1) (Value.prettyItems (level + 1) vs)
          ++ ((newLine level).toList ++ ']' :: rest)) (by omega) (stops_linesText _ _ _ _)
      have hitems := readItems_prettyItems vs level fuel room rest (by omega)
      rw [hcons, List.cons_append] at hvalue
      rw [hcons, List.cons_append, readItems_first _ hclose hcomma hvalue hitems,
        Value.rereadItems]
      rw [skipSpace_newLine, skipSpace_cons hspace]
termination_by structural vs

/-- The items after the first one are read up to the closing bracket. -/
theorem readItems_prettyItems (vs : List Value) (level fuel room : Nat) (rest : List Char)
    (hfuel : (linesText (level + 1) (Value.prettyItems (level + 1) vs)).length < fuel) :
    readItems fuel room false (linesText (level + 1) (Value.prettyItems (level + 1) vs)
      ++ ((newLine level).toList ++ ']' :: rest)) =
      (Value.rereadItems room vs, .closed, some rest) := by
  obtain ⟨fuel, rfl⟩ := exists_succ_of_lt hfuel
  cases vs with
  | nil =>
      have hskip : skipSpace ((newLine level).toList ++ ']' :: rest) = ']' :: rest := by
        rw [skipSpace_newLine, skipSpace_cons (by decide)]
      exact readItems_close false hskip
  | cons v vs =>
      obtain ⟨c, cs, hcons, hspace, hclose, -⟩ := exists_prettyAt_cons v (level + 1)
      rw [Value.prettyItems, linesText_cons] at hfuel ⊢
      simp only [List.length_cons, List.length_append, length_newLine] at hfuel
      simp only [List.append_assoc, List.cons_append]
      have hvalue := readValue_prettyAt v (level + 1) fuel room
        (linesText (level + 1) (Value.prettyItems (level + 1) vs)
          ++ ((newLine level).toList ++ ']' :: rest)) (by omega) (stops_linesText _ _ _ _)
      have hitems := readItems_prettyItems vs level fuel room rest (by omega)
      rw [hcons, List.cons_append] at hvalue
      rw [hcons, List.cons_append, readItems_next (skipSpace_cons (by decide) _) _ hclose hvalue
        hitems, Value.rereadItems]
      rw [skipSpace_newLine, skipSpace_cons hspace]
termination_by structural vs

/-- Members between their brackets are read up to the closing one. -/
theorem readMembers_block (ms : List (String × Value)) (level fuel room : Nat) (rest : List Char)
    (hfuel : (block "\x7b" "\x7d" level (Value.prettyMembers (level + 1) ms)).toList.length
      ≤ fuel + 1) :
    ∃ body, (block "\x7b" "\x7d" level (Value.prettyMembers (level + 1) ms)).toList
        = '{' :: body ∧
      readMembers fuel room true (body ++ rest) =
        (Value.rereadMembers room ms, none, some rest) := by
  cases ms with
  | nil =>
      obtain ⟨fuel, rfl⟩ : ∃ f, fuel = f + 1 := by
        simp [block, Value.prettyMembers] at hfuel
        exact exists_succ_of_lt hfuel
      exact ⟨['}'], by simp [block, Value.prettyMembers],
        readMembers_close true (skipSpace_cons (by decide) rest)⟩
  | cons m ms =>
      obtain ⟨k, v⟩ := m
      rw [Value.prettyMembers, toList_block_cons] at hfuel ⊢
      simp only [String.reduceToList, String.toList_append, List.length_append, length_newLine,
        List.length_cons, List.length_nil] at hfuel
      obtain ⟨fuel, rfl⟩ : ∃ f, fuel = f + 1 := ⟨fuel - 1, by omega⟩
      simp only [String.reduceToList, List.cons_append, List.nil_append]
      refine ⟨_, rfl, ?_⟩
      obtain ⟨text, htext, hkey⟩ := readString_printText k (':' :: ' ' ::
        ((v.prettyAt (level + 1)).toList ++ (linesText (level + 1)
          (Value.prettyMembers (level + 1) ms) ++ ((newLine level).toList ++ '}' :: rest))))
      simp only [String.reduceToList, String.toList_append, htext, List.append_assoc,
        List.cons_append, List.nil_append]
      have hvalue := readValue_prettyAt v (level + 1) fuel room
        (linesText (level + 1) (Value.prettyMembers (level + 1) ms)
          ++ ((newLine level).toList ++ '}' :: rest)) (by omega) (stops_linesText _ _ _ _)
      have hmembers := readMembers_prettyMembers ms level fuel room rest (by omega)
      rw [← readValue_congr (skipSpace_blank _)] at hvalue
      rw [readMembers_first _ hkey (skipSpace_cons (by decide) _) hvalue hmembers,
        Value.rereadMembers]
      rw [skipSpace_newLine, skipSpace_cons (by decide)]
termination_by structural ms

/-- The members after the first one are read up to the closing bracket. -/
theorem readMembers_prettyMembers (ms : List (String × Value)) (level fuel room : Nat)
    (rest : List Char)
    (hfuel : (linesText (level + 1) (Value.prettyMembers (level + 1) ms)).length < fuel) :
    readMembers fuel room false (linesText (level + 1) (Value.prettyMembers (level + 1) ms)
      ++ ((newLine level).toList ++ '}' :: rest)) =
      (Value.rereadMembers room ms, none, some rest) := by
  obtain ⟨fuel, rfl⟩ := exists_succ_of_lt hfuel
  cases ms with
  | nil =>
      have hskip : skipSpace ((newLine level).toList ++ '}' :: rest) = '}' :: rest := by
        rw [skipSpace_newLine, skipSpace_cons (by decide)]
      exact readMembers_close false hskip
  | cons m ms =>
      obtain ⟨k, v⟩ := m
      rw [Value.prettyMembers, linesText_cons] at hfuel ⊢
      simp only [String.reduceToList, String.toList_append, List.length_cons, List.length_append,
        length_newLine, List.length_nil] at hfuel
      obtain ⟨text, htext, hkey⟩ := readString_printText k (':' :: ' ' ::
        ((v.prettyAt (level + 1)).toList ++ (linesText (level + 1)
          (Value.prettyMembers (level + 1) ms) ++ ((newLine level).toList ++ '}' :: rest))))
      simp only [String.reduceToList, String.toList_append, htext, List.append_assoc,
        List.cons_append, List.nil_append]
      have hvalue := readValue_prettyAt v (level + 1) fuel room
        (linesText (level + 1) (Value.prettyMembers (level + 1) ms)
          ++ ((newLine level).toList ++ '}' :: rest)) (by omega) (stops_linesText _ _ _ _)
      have hmembers := readMembers_prettyMembers ms level fuel room rest (by omega)
      rw [← readValue_congr (skipSpace_blank _)] at hvalue
      rw [readMembers_next (skipSpace_cons (by decide) _) _ hkey (skipSpace_cons (by decide) _)
        hvalue hmembers, Value.rereadMembers]
      rw [skipSpace_newLine, skipSpace_cons (by decide)]
termination_by structural ms

end

/-- The text of a value is read as a whole. -/
theorem readText_pretty (v : Value) : readText v.pretty = (v.reread 128, none) := by
  have hread := readValue_prettyAt v 0 (2 * v.pretty.toList.length + 3) 128 []
    (by rw [Value.pretty]; omega) (stops_nil _)
  rw [List.append_nil, ← Value.pretty] at hread
  rw [readText]
  simp only [hread]
  rfl

end MapContext.Json
