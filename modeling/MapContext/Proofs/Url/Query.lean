import MapContext.Proofs.Text.Digits
import MapContext.Proofs.Text.Utf8
import MapContext.Url.Query

/-!
# Queries read back

A name or a value is read back from its form encoding: encoded bytes give the bytes of the
characters, and no separator stands in what is written. So pairs are read back from the query that
they are written to, and a parameter that is set can be looked up.
-/

namespace MapContext.Url

open Text

/-! ### Form encoding -/

/-- How a character is written. -/
def formChar (c : Char) : List Char :=
  if isFormChar c then [c]
  else if c = ' ' then ['+']
  else (String.utf8EncodeChar c).flatMap encodeByte

theorem encodeForm_eq (s : String) : encodeForm s = s.toList.flatMap formChar := rfl

/-- What is read for a character before percent signs are. -/
def unplus (c : Char) : Char := if c = '+' then ' ' else c

theorem hexDigit?_toUpper_digitChar :
    ∀ n < 16, hexDigit? (Nat.digitChar n).toUpper = some n := by
  decide

/-- Two capital digits give the byte that was written. -/
theorem hexValue?_hexByte (b : UInt8) : hexValue? (hexByte b) = some b.toNat := by
  have hb : b.toNat < 256 := b.toNat_lt
  have hhigh := hexDigit?_toUpper_digitChar (b.toNat / 16) (by omega)
  have hlow := hexDigit?_toUpper_digitChar (b.toNat % 16) (by omega)
  simp only [hexByte, hexValue?, List.map_cons, List.map_nil, List.foldlM_cons, List.foldlM_nil,
    hhigh, hlow, Option.map_some, Option.bind_eq_bind, Option.bind_some, Option.pure_def]
  congr 1
  omega

theorem decodeBytes_encodeByte (b : UInt8) (rest : List Char) :
    decodeBytes (encodeByte b ++ rest) = b :: decodeBytes rest := by
  have hvalue := hexValue?_hexByte b
  simp only [hexByte, List.map_cons, List.map_nil] at hvalue
  simp only [encodeByte, hexByte, List.map_cons, List.map_nil, List.cons_append, List.nil_append]
  rw [decodeBytes, hvalue]
  simp

/-- Any other character gives its own bytes. -/
theorem decodeBytes_cons {c : Char} (hc : c ≠ '%') (rest : List Char) :
    decodeBytes (c :: rest) = String.utf8EncodeChar c ++ decodeBytes rest := by
  rw [decodeBytes]
  all_goals simp [hc]

theorem decodeBytes_encodeBytes (bs : List UInt8) (rest : List Char) :
    decodeBytes (bs.flatMap encodeByte ++ rest) = bs ++ decodeBytes rest := by
  induction bs with
  | nil => rfl
  | cons b bs ih =>
      rw [List.flatMap_cons, List.append_assoc, decodeBytes_encodeByte, ih, List.cons_append]

theorem isFormChar_toUpper_digitChar :
    ∀ n < 16, isFormChar (Nat.digitChar n).toUpper = true := by
  decide

theorem mem_encodeByte {b : UInt8} {d : Char} (h : d ∈ encodeByte b) :
    d = '%' ∨ isFormChar d = true := by
  have hb : b.toNat < 256 := b.toNat_lt
  rcases List.mem_cons.mp h with rfl | h
  · exact .inl rfl
  · simp only [hexByte, List.map_cons, List.map_nil, List.mem_cons, List.not_mem_nil,
      or_false] at h
    rcases h with rfl | rfl
    · exact .inr (isFormChar_toUpper_digitChar (b.toNat / 16) (by omega))
    · exact .inr (isFormChar_toUpper_digitChar (b.toNat % 16) (by omega))

theorem mem_encodeBytes {bs : List UInt8} {d : Char} (h : d ∈ bs.flatMap encodeByte) :
    d = '%' ∨ isFormChar d = true := by
  obtain ⟨b, -, hd⟩ := List.mem_flatMap.mp h
  exact mem_encodeByte hd

/-- No separator of queries is written. -/
theorem not_mem_encodeForm {separator : Char} (hpercent : separator ≠ '%')
    (hplus : separator ≠ '+') (hform : isFormChar separator = false) (s : String) :
    separator ∉ encodeForm s := by
  rw [encodeForm_eq]
  intro h
  obtain ⟨c, -, hc⟩ := List.mem_flatMap.mp h
  rw [formChar] at hc
  split at hc
  · next hchar =>
      rw [List.mem_singleton.mp hc, hchar] at hform
      exact Bool.noConfusion hform
  · split at hc
    · exact hplus (List.mem_singleton.mp hc)
    · rcases mem_encodeBytes hc with heq | hchar
      · exact hpercent heq
      · exact Bool.false_ne_true (hform.symm.trans hchar)

/-- What is written for a character gives the bytes of the character. -/
theorem decodeBytes_formChar (c : Char) (rest : List Char) :
    decodeBytes ((formChar c).map unplus ++ rest) =
      String.utf8EncodeChar c ++ decodeBytes rest := by
  rw [formChar]
  split
  · next hchar =>
      have hplus : c ≠ '+' := by
        rintro rfl
        exact absurd hchar (by decide)
      have hpercent : c ≠ '%' := by
        rintro rfl
        exact absurd hchar (by decide)
      rw [List.map_singleton, unplus, if_neg hplus, List.singleton_append,
        decodeBytes_cons hpercent]
  · split
    · next hblank =>
        rw [hblank, List.map_singleton, unplus, if_pos rfl, List.singleton_append,
          decodeBytes_cons (by decide)]
    · have hsame : ((String.utf8EncodeChar c).flatMap encodeByte).map unplus =
          (String.utf8EncodeChar c).flatMap encodeByte := by
        refine (List.map_congr_left fun d hd => ?_).trans (List.map_id _)
        have hplus : d ≠ '+' := by
          rintro rfl
          rcases mem_encodeBytes hd with heq | hchar
          · exact absurd heq (by decide)
          · exact absurd hchar (by decide)
        exact if_neg hplus
      rw [hsame, decodeBytes_encodeBytes]

/-- A name or a value is read back from its form encoding. -/
theorem decodeForm_encodeForm (s : String) : decodeForm (encodeForm s) = s := by
  have hbytes : ∀ cs : List Char, decodeBytes ((cs.flatMap formChar).map unplus) =
      cs.flatMap String.utf8EncodeChar := by
    intro cs
    induction cs with
    | nil => rfl
    | cons c cs ih =>
        rw [List.flatMap_cons, List.map_append, decodeBytes_formChar, ih, List.flatMap_cons]
  calc decodeForm (encodeForm s)
      = ofUtf8 (decodeBytes ((s.toList.flatMap formChar).map unplus)) := rfl
    _ = ofUtf8 (s.toList.flatMap String.utf8EncodeChar) := by rw [hbytes]
    _ = String.ofList s.toList := ofUtf8_utf8EncodeChar s.toList
    _ = s := String.ofList_toList

/-! ### Pairs -/

/-- A pair is read back from its piece of a query. -/
theorem readPair_piece (p : String × String) :
    readPair (encodeForm p.1 ++ '=' :: encodeForm p.2) = p := by
  have hname : ∀ c ∈ encodeForm p.1, (c != '=') = true := by
    intro c hc
    rw [bne_iff_ne]
    rintro rfl
    exact not_mem_encodeForm (by decide) (by decide) (by decide) p.1 hc
  have hstops : Stops (· != '=') ('=' :: encodeForm p.2) := stops_cons (by decide) _
  rw [readPair, takeWhile_run hname hstops, dropWhile_run hname hstops, decodeForm_encodeForm,
    List.drop_one, List.tail_cons, decodeForm_encodeForm]

/-- Pairs are read back from the query that they are written to. -/
theorem readPairs_writePairs (ps : Pairs) : readPairs (writePairs ps) = ps := by
  let piece (p : String × String) : List Char := encodeForm p.1 ++ '=' :: encodeForm p.2
  have hpieces : (pieces (· == '&') (writePairs ps).toList).filter (! ·.isEmpty) =
      ps.map piece := by
    cases ps with
    | nil => rfl
    | cons p ps =>
        have hfree : ∀ cs ∈ piece p :: ps.map piece, ∀ c ∈ cs, (c == '&') = false := by
          intro cs hcs c hc
          rw [← List.map_cons (f := piece)] at hcs
          obtain ⟨q, -, rfl⟩ := List.mem_map.mp hcs
          rw [beq_eq_false_iff_ne]
          rintro rfl
          rcases List.mem_append.mp hc with hc | hc
          · exact not_mem_encodeForm (by decide) (by decide) (by decide) q.1 hc
          · rcases List.mem_cons.mp hc with heq | hc
            · exact absurd heq (by decide)
            · exact not_mem_encodeForm (by decide) (by decide) (by decide) q.2 hc
        rw [writePairs, String.toList_ofList, List.map_cons, intercalate_cons,
          pieces_joined (by decide) hfree, ← List.map_cons (f := piece)]
        apply List.filter_eq_self.mpr
        intro cs hcs
        obtain ⟨q, -, rfl⟩ := List.mem_map.mp hcs
        simp [piece]
  rw [readPairs, hpieces, List.map_map]
  refine (List.map_congr_left fun p _ => ?_).trans (List.map_id ps)
  exact readPair_piece p

@[simp] theorem pairs_setParam (u : Url) (name value : String) :
    (u.setParam name value).pairs = putPair name value u.pairs :=
  readPairs_writePairs _

/-! ### Parameters -/

theorem sameIgnoringCase_iff {a b : String} :
    sameIgnoringCase a b = true ↔ a.toList.map Char.toLower = b.toList.map Char.toLower := by
  rw [sameIgnoringCase, beq_iff_eq]

/-- What is kept before the first failure and filtered after it is what is filtered. -/
theorem takeWhile_append_filter (keep : String × String → Bool) (ps : Pairs) :
    ps.takeWhile keep ++ (ps.dropWhile keep).filter keep = ps.filter keep := by
  induction ps with
  | nil => rfl
  | cons p ps ih =>
      by_cases hp : keep p = true
      · rw [List.takeWhile_cons_of_pos hp, List.dropWhile_cons_of_pos hp,
          List.filter_cons_of_pos hp, List.cons_append, ih]
      · rw [List.takeWhile_cons_of_neg hp, List.dropWhile_cons_of_neg hp, List.nil_append]

/-- The pair that is put stands among all pairs of other names. -/
theorem exists_putPair_eq (name value : String) (ps : Pairs) :
    ∃ before after, putPair name value ps = before ++ (name, value) :: after ∧
      before ++ after = ps.filter fun p => !sameIgnoringCase p.1 name :=
  ⟨_, _, rfl, takeWhile_append_filter (fun p => !sameIgnoringCase p.1 name) ps⟩

/-- A parameter that is set has its value; parameters of other names keep theirs. -/
theorem param?_setParam (u : Url) (name value other : String) :
    (u.setParam name value).param? other =
      if sameIgnoringCase name other then some value else u.param? other := by
  obtain ⟨before, after, hput, hothers⟩ := exists_putPair_eq name value u.pairs
  rw [param?, pairs_setParam, lookup?, hput, List.find?_append, List.find?_cons]
  by_cases hsame : sameIgnoringCase name other = true
  · have hbefore : before.find? (fun p => sameIgnoringCase p.1 other) = none := by
      rw [List.find?_eq_none]
      intro p hp hother
      have hmem : p ∈ u.pairs.filter fun p => !sameIgnoringCase p.1 name :=
        hothers ▸ List.mem_append_left after hp
      have hname : sameIgnoringCase p.1 name = true := by
        rw [sameIgnoringCase_iff] at hsame hother ⊢
        rw [hother, hsame]
      simp [hname] at hmem
    rw [hbefore, hsame]
    rfl
  · have hfind : u.pairs.find? (fun p => sameIgnoringCase p.1 other) =
        (before ++ after).find? fun p => sameIgnoringCase p.1 other := by
      rw [hothers, List.find?_filter]
      congr 1
      funext p
      by_cases hother : sameIgnoringCase p.1 other = true
      · have hname : ¬sameIgnoringCase p.1 name = true := by
          intro hname
          apply hsame
          rw [sameIgnoringCase_iff] at hname hother ⊢
          rw [← hname, hother]
        simp [hother, hname]
      · simp [hother]
    rw [param?, lookup?, hfind, List.find?_append, Bool.eq_false_iff.mpr hsame]
    rfl

end MapContext.Url
