import MapContext.Proofs.Url.Front

/-!
# Queries of written addresses

The query of a text stands after its first question mark and ends before its fragment. Reading
passes over nothing else, so the query of an address is found again in the text that is written for
it, both in the text as it stands and when the text is read as an address.
-/

namespace MapContext.Url

open Text

variable {cs rest : List Char} {scheme : String}

/-! ### Queries of texts -/

/-- The query of an address in a text as it stands. -/
def queryOf (cs : List Char) : Option (List Char) :=
  match (cs.takeWhile (· != '#')).dropWhile (· != '?') with
  | [] => none
  | _ :: query => some query

/-- The names and values in the query of a text. -/
def textPairs (text : String) : Pairs :=
  readPairs (((queryOf text.toList).map String.ofList).getD "")

/-- What follows some characters of which none begins a query or a fragment. -/
def Skips (cs rest : List Char) : Prop :=
  ∃ passed, cs = passed ++ rest ∧ ∀ c ∈ passed, c ≠ '?' ∧ c ≠ '#'

theorem Skips.refl (cs : List Char) : Skips cs cs := ⟨[], rfl, fun _ hc => nomatch hc⟩

theorem Skips.trans {after : List Char} (h : Skips cs after) (h' : Skips after rest) :
    Skips cs rest := by
  obtain ⟨passed, rfl, hpassed⟩ := h
  obtain ⟨passed', rfl, hpassed'⟩ := h'
  exact ⟨passed ++ passed', (List.append_assoc ..).symm,
    List.forall_mem_append.mpr ⟨hpassed, hpassed'⟩⟩

theorem Skips.cons {c : Char} (hc : c ≠ '?' ∧ c ≠ '#') (h : Skips cs rest) :
    Skips (c :: cs) rest := by
  obtain ⟨passed, rfl, hpassed⟩ := h
  exact ⟨c :: passed, rfl, List.forall_mem_cons.mpr ⟨hc, hpassed⟩⟩

theorem skips_dropWhile {p : Char → Bool} (h : ∀ c, p c = true → c ≠ '?' ∧ c ≠ '#')
    (cs : List Char) : Skips cs (cs.dropWhile p) :=
  ⟨cs.takeWhile p, List.takeWhile_append_dropWhile.symm,
    fun c hc => h c (List.mem_takeWhile_imp hc)⟩

theorem skips_drop {p : Char → Bool} (h : ∀ c, p c = true → c ≠ '?' ∧ c ≠ '#') {n : Nat}
    (hn : n ≤ (cs.takeWhile p).length) : Skips cs (cs.drop n) := by
  refine ⟨cs.take n, (List.take_append_drop n cs).symm, fun c hc => h c ?_⟩
  have htake : cs.take n = (cs.takeWhile p).take n := by
    conv_lhs => rw [← List.takeWhile_append_dropWhile (p := p) (l := cs)]
    exact List.take_append_of_le_length hn
  rw [htake] at hc
  exact List.mem_takeWhile_imp (List.mem_of_mem_take hc)

/-- Text that is passed over has no part in the query. -/
theorem Skips.queryOf_eq (h : Skips cs rest) : queryOf cs = queryOf rest := by
  obtain ⟨passed, rfl, hpassed⟩ := h
  have htake : (passed ++ rest).takeWhile (· != '#') =
      passed ++ rest.takeWhile (· != '#') :=
    List.takeWhile_append_of_pos fun c hc => bne_iff_ne.mpr (hpassed c hc).2
  have hdrop : (passed ++ rest.takeWhile (· != '#')).dropWhile (· != '?') =
      (rest.takeWhile (· != '#')).dropWhile (· != '?') :=
    List.dropWhile_append_of_pos fun c hc => bne_iff_ne.mpr (hpassed c hc).1
  rw [queryOf, htake, hdrop, queryOf]

theorem Plain.skips (h : Plain cs) (rest : List Char) : Skips (cs ++ rest) rest :=
  ⟨cs, rfl, fun c hc => (isPlain_iff.mp (h c hc)).1⟩

theorem queryOf_fragment (cs : List Char) : queryOf ('#' :: cs) = none := by
  simp [queryOf]

theorem queryOf_mark (cs : List Char) :
    queryOf ('?' :: cs) = some (cs.takeWhile (· != '#')) := by
  simp [queryOf]

/-! ### Reading queries -/

/-- The query that is read for the query of a text. -/
def encodedQuery (scheme : String) (query : List Char) : String :=
  String.ofList (encode (if isSpecial scheme then inWebQuery else inQuery) query)

/-- Where an address is read, its query is that of the text. -/
def Keeps (cs : List Char) (u : Url) : Prop :=
  u.query = (queryOf cs).map (encodedQuery u.scheme)

theorem Keeps.of_skips {u : Url} (h : Skips cs rest) (hkeeps : Keeps rest u) : Keeps cs u := by
  rw [Keeps, h.queryOf_eq]
  exact hkeeps

/-- Query and fragment are read where a mark begins them. -/
theorem keeps_withEnding (u : Url) (h : ∀ c ∈ cs.head?, c = '?' ∨ c = '#') :
    Keeps cs (withEnding u cs) := by
  cases cs with
  | nil => rfl
  | cons c cs =>
      rcases h c rfl with rfl | rfl
      · rw [Keeps, queryOf_mark]
        simp [withEnding, cutBefore, encodedQuery, bne]
      · rw [Keeps, queryOf_fragment]
        simp [withEnding, cutBefore]

theorem keeps_cut (u : Url) (cs : List Char) :
    Keeps cs (withEnding u (cutBefore (fun c => c == '?' || c == '#') cs).2) := by
  refine Keeps.of_skips (skips_dropWhile (fun c hc => ?_) cs) (keeps_withEnding u fun c hc => ?_)
  · simpa using hc
  · have hmark := List.head?_dropWhile_not (fun c => !(c == '?' || c == '#')) cs
    rw [Option.mem_def.mp hc] at hmark
    simpa [or_iff_not_imp_left] using hmark

theorem not_mark_of_isSlash {special : Bool} {c : Char} (h : isSlash special c = true) :
    c ≠ '?' ∧ c ≠ '#' := by
  simp only [isSlash, Bool.or_eq_true, Bool.and_eq_true, beq_iff_eq] at h
  rcases h with rfl | ⟨-, rfl⟩
  · decide
  · decide

theorem not_mark_of_inside {special : Bool} {c : Char}
    (h : (!endsAuthority special c) = true) : c ≠ '?' ∧ c ≠ '#' := by
  simp only [endsAuthority, Bool.not_eq_true', Bool.or_eq_false_iff, beq_eq_false_iff_ne] at h
  exact ⟨h.1.2, h.2⟩

theorem skips_readScheme (h : readScheme? cs = some (scheme, rest)) : Skips cs rest := by
  rw [readScheme?] at h
  split at h
  · next first after _ hdrop =>
      split at h
      · obtain ⟨-, rfl⟩ := Prod.mk.inj (Option.some.inj h)
        refine Skips.trans (hdrop ▸ skips_dropWhile (fun c hc => ?_) cs)
          (Skips.cons (by decide) (Skips.refl _))
        exact (isPlain_iff.mp (schemePart_facts hc).1).1
      · cases h
  · cases h

theorem skips_dropSlash (special : Bool) (cs : List Char) : Skips cs (dropSlash special cs) := by
  rw [dropSlash.eq_def]
  split
  · split
    · next hslash => exact Skips.cons (not_mark_of_isSlash hslash) (Skips.refl _)
    · exact Skips.refl _
  · exact Skips.refl _

theorem skips_readUserInfo {special : Bool} {username password : String}
    (h : readUserInfo special cs = .ok (username, password, rest)) : Skips cs rest := by
  rw [readUserInfo] at h
  dsimp only at h
  split at h
  · next hat =>
      split at h
      · cases h
      · cases h
        refine skips_drop (p := (! endsAuthority special ·)) (fun c => not_mark_of_inside) ?_
        -- The user name, the password and the mark after them are a part of the authority.
        have hpos := List.length_pos_of_mem (List.contains_iff_mem.mp hat)
        rw [List.length_take]
        omega
  · cases h
    exact Skips.refl _

theorem skips_cutHost {special inBrackets : Bool} {name : List Char}
    (h : cutHost special inBrackets cs = (name, rest)) : Skips cs rest := by
  induction cs generalizing inBrackets name with
  | nil =>
      cases h
      exact Skips.refl _
  | cons c cs ih =>
      rw [cutHost] at h
      split at h
      · cases h
        exact Skips.refl _
      · next hinside =>
          obtain ⟨-, rfl⟩ := Prod.mk.inj h
          simp only [Bool.or_eq_true, not_or, Bool.not_eq_true] at hinside
          exact Skips.cons (not_mark_of_inside (by rw [hinside.2]; rfl)) (ih rfl)

theorem skips_readPortNumber {number : Option Nat}
    (h : readPortNumber scheme cs = .ok (number, rest)) : Skips cs rest := by
  have hdigits : Skips cs (cs.dropWhile Char.isDigit) := by
    refine skips_dropWhile (fun c hc => ?_) cs
    constructor
    · rintro rfl
      exact absurd hc (by decide)
    · rintro rfl
      exact absurd hc (by decide)
  rw [readPortNumber] at h
  split at h
  · cases h
  · split at h
    · cases h
      exact hdigits
    · cases h
      exact hdigits

theorem skips_readAuthority {a : Authority} (h : readAuthority scheme cs = .ok (a, rest)) :
    Skips cs rest := by
  obtain ⟨after, hinfo, name, ending, hcut, -, hnumber⟩ := readAuthority_eq_ok h
  refine (skips_readUserInfo hinfo).trans ((skips_cutHost hcut).trans ?_)
  rcases hnumber with rfl | ⟨more, rfl, hnumber⟩
  · exact Skips.refl _
  · exact Skips.cons (by decide) (skips_readPortNumber hnumber)

theorem keeps_readFile {u : Url} (h : readFile cs = .ok u) : Keeps cs u := by
  unfold readFile at h
  split at h
  · next a b rest =>
      split at h
      · next hslashes =>
          obtain ⟨ha, hb⟩ := Bool.and_eq_true_iff.mp hslashes
          have hskips : Skips (a :: b :: rest) rest :=
            Skips.cons (not_mark_of_isSlash ha)
              (Skips.cons (not_mark_of_isSlash hb) (Skips.refl _))
          dsimp only at h
          split at h
          · obtain rfl := Except.ok.inj h
            exact (keeps_cut _ rest).of_skips hskips
          · obtain ⟨host, -, h⟩ := bind_eq_ok_iff.mp h
            obtain rfl := Except.ok.inj h
            have hname : Skips rest (rest.drop (rest.takeWhile (! endsAuthority true ·)).length) :=
              skips_drop (fun c => not_mark_of_inside) (Nat.le_refl _)
            refine (keeps_cut _ _).of_skips (hskips.trans (hname.trans ?_))
            split
            · exact Skips.refl _
            · exact skips_dropSlash _ _
      · obtain rfl := Except.ok.inj h
        exact (keeps_cut _ _).of_skips (skips_dropSlash _ _)
  · obtain rfl := Except.ok.inj h
    exact (keeps_cut _ _).of_skips (skips_dropSlash _ _)

theorem keeps_readAfterScheme {u : Url} (h : readAfterScheme scheme cs = .ok u) : Keeps cs u := by
  have hread {after : List Char} (hskips : Skips cs after)
      (h : (readAuthority scheme after >>= fun read =>
        pure (withPath scheme (some read.1) read.2)) = .ok u) : Keeps cs u := by
    obtain ⟨⟨a, rest⟩, ha, h⟩ := bind_eq_ok_iff.mp h
    obtain rfl := Except.ok.inj h
    exact (keeps_cut _ rest).of_skips (hskips.trans (skips_readAuthority ha))
  unfold readAfterScheme at h
  split at h
  · exact keeps_readFile h
  · split at h
    · exact hread (skips_dropWhile (fun c => not_mark_of_isSlash) cs) h
    · split at h
      · exact hread (Skips.cons (by decide) (Skips.cons (by decide) (Skips.refl _))) h
      · obtain rfl := Except.ok.inj h
        exact keeps_cut _ _
      · obtain rfl := Except.ok.inj h
        exact keeps_cut _ _

/-- The query of an address is that of the text from which the address was read. -/
theorem keeps_read {text : String} {u : Url} (h : read text = .ok u) : Keeps (clean text) u := by
  rw [read] at h
  split at h
  · next scheme rest hscheme =>
      exact (keeps_readAfterScheme h).of_skips (skips_readScheme hscheme)
  · cases h

/-! ### Written queries -/

/-- A character of a query that was written from pairs. -/
def isWritten (c : Char) : Bool := isFormChar c || ['%', '+', '=', '&'].contains c

theorem isWritten_of_mem_encodeForm {s : String} {c : Char} (h : c ∈ encodeForm s) :
    isWritten c = true := by
  rw [isWritten, Bool.or_eq_true, List.contains_iff_mem]
  obtain ⟨d, -, hc⟩ := List.mem_flatMap.mp h
  split at hc
  · next hform =>
      rw [List.mem_singleton.mp hc]
      exact .inl hform
  · split at hc
    · rw [List.mem_singleton.mp hc]
      exact .inr (by decide)
    · rcases mem_encodeBytes hc with rfl | hform
      · exact .inr (by decide)
      · exact .inl hform

theorem isWritten_of_mem_writePairs (ps : Pairs) :
    ∀ c ∈ (writePairs ps).toList, isWritten c = true := by
  rw [writePairs, String.toList_ofList]
  refine forall_mem_intercalate (List.forall_mem_singleton.mpr (by decide)) fun part hpart => ?_
  obtain ⟨p, -, rfl⟩ := List.mem_map.mp hpart
  exact List.forall_mem_append.mpr ⟨fun c => isWritten_of_mem_encodeForm,
    List.forall_mem_cons.mpr ⟨by decide, fun c => isWritten_of_mem_encodeForm⟩⟩

theorem isWritten_facts {c : Char} (h : isWritten c = true) :
    c ≠ '#' ∧ 0x20 < c.toNat ∧ inQuery c = false ∧ inWebQuery c = false := by
  have hascii : c.toNat < 128 := by
    rw [isWritten, isFormChar, Bool.or_eq_true, Bool.or_eq_true, List.contains_iff_mem,
      List.contains_iff_mem] at h
    rcases h with (halnum | hmem) | hmem
    · exact toNat_lt_of_isAlphanum halnum
    all_goals
      simp only [List.mem_cons, List.not_mem_nil, or_false] at hmem
      rcases hmem with rfl | rfl | rfl | rfl
      all_goals decide
  exact of_ascii (fun c => isWritten c = true →
    c ≠ '#' ∧ 0x20 < c.toNat ∧ inQuery c = false ∧ inWebQuery c = false) (by decide) hascii h

theorem encode_of_free {p : Char → Bool} (h : ∀ c ∈ cs, p c = false) : encode p cs = cs := by
  induction cs with
  | nil => rfl
  | cons c cs ih =>
      obtain ⟨hc, hcs⟩ := List.forall_mem_cons.mp h
      have hcons : encode p (c :: cs) = c :: encode p cs := by
        simp [encode, hc]
      rw [hcons, ih hcs]

/-- What is written is not encoded again. -/
theorem encodedQuery_writePairs (scheme : String) (ps : Pairs) :
    encodedQuery scheme (writePairs ps).toList = writePairs ps := by
  rw [encodedQuery, encode_of_free, String.ofList_toList]
  intro c hc
  obtain ⟨-, -, hquery, hweb⟩ := isWritten_facts (isWritten_of_mem_writePairs ps c hc)
  split
  · exact hweb
  · exact hquery

variable {u v : Url} {ps : Pairs}

/-- The text of a written query and of a fragment with their marks. -/
def ending (ps : Pairs) (fragment : Option String) : List Char :=
  '?' :: ((writePairs ps).toList ++ (fragment.map fun f => '#' :: f.toList).getD [])

theorem queryOf_ending (ps : Pairs) (fragment : Option String) :
    queryOf (ending ps fragment) = some (writePairs ps).toList := by
  have hfree : ∀ c ∈ (writePairs ps).toList, (c != '#') = true := fun c hc =>
    bne_iff_ne.mpr (isWritten_facts (isWritten_of_mem_writePairs ps c hc)).1
  rw [ending, queryOf_mark, List.takeWhile_append_of_pos hfree]
  cases fragment with
  | none => simp
  | some fragment => simp

/-- The text of an address with a written query. -/
theorem toList_display (hquery : u.query = some (writePairs ps)) :
    u.display.toList = u.front.toList ++ ending ps u.fragment := by
  have hmark : "?".toList = ['?'] := rfl
  have hnumber : "#".toList = ['#'] := rfl
  rw [display_eq_front, hquery, String.toList_append, String.toList_append, Option.map_some,
    Option.getD_some, String.toList_append, hmark, ending]
  cases u.fragment with
  | none => simp
  | some fragment => simp [hnumber]

/-- The query of an address stands in its text. -/
theorem queryOf_display (h : u.Tidy) (hquery : u.query = some (writePairs ps)) :
    queryOf u.display.toList = some (writePairs ps).toList := by
  rw [toList_display hquery, (h.front.skips _).queryOf_eq, queryOf_ending]

/-! ### Reading what was written -/

theorem trimBoth_eq_self {p : Char → Bool} (hhead : ∀ c ∈ cs.head?, p c = false)
    (hlast : ∀ c ∈ cs.getLast?, p c = false) : Text.trimBoth p cs = cs := by
  have hdrop {cs : List Char} (h : ∀ c ∈ cs.head?, p c = false) : cs.dropWhile p = cs := by
    cases cs with
    | nil => rfl
    | cons c cs => rw [List.dropWhile_cons_of_neg (by simp [h c rfl])]
  rw [Text.trimBoth, hdrop hhead, hdrop (by rwa [List.head?_reverse]), List.reverse_reverse]

/-- Text counts as a whole if it has no controls, and no blanks at its ends. -/
theorem clean_eq_self {text : String} (h : ∀ c ∈ text.toList, 0x20 ≤ c.toNat)
    (hhead : ∀ c ∈ text.toList.head?, 0x20 < c.toNat)
    (hlast : ∀ c ∈ text.toList.getLast?, 0x20 < c.toNat) : clean text = text.toList := by
  rw [clean, trimBoth_eq_self]
  · refine List.filter_eq_self.mpr fun c hc => ?_
    have hcontrol := h c hc
    simp only [Bool.and_eq_true, bne_iff_ne]
    refine ⟨⟨?_, ?_⟩, ?_⟩
    all_goals
      rintro rfl
      exact absurd hcontrol (by decide)
  · exact fun c hc => decide_eq_false (Nat.not_le.mpr (hhead c hc))
  · exact fun c hc => decide_eq_false (Nat.not_le.mpr (hlast c hc))

theorem Tidy.blank_lt_ending (h : u.Tidy) (ps : Pairs) :
    ∀ c ∈ ending ps u.fragment, 0x20 < c.toNat := by
  refine List.forall_mem_cons.mpr ⟨by decide, List.forall_mem_append.mpr ⟨fun c hc => ?_, ?_⟩⟩
  · exact (isWritten_facts (isWritten_of_mem_writePairs ps c hc)).2.1
  · cases hfragment : u.fragment with
    | none => exact fun c hc => nomatch hc
    | some fragment =>
        exact List.forall_mem_cons.mpr ⟨by decide, h.fragment fragment hfragment⟩

/-- An address begins with its scheme or with the colon after it. -/
theorem Tidy.blank_lt_head (h : u.Tidy) : ∀ c ∈ u.display.toList.head?, 0x20 < c.toNat := by
  have hcolon : ":".toList = [':'] := rfl
  have hscheme := List.forall_mem_append.mpr
    ⟨h.scheme, List.forall_mem_singleton.mpr (show 0x20 < ':'.toNat by decide)⟩
  have hdisplay : ∃ tail, u.display.toList = (u.scheme.toList ++ [':']) ++ tail := by
    simp only [display, String.toList_append, hcolon, List.append_assoc]
    exact ⟨_, rfl⟩
  obtain ⟨tail, htail⟩ := hdisplay
  intro c hc
  rw [htail, List.head?_append_of_ne_nil _ (by simp)] at hc
  exact hscheme c (List.mem_of_mem_head? hc)

/-- Nothing is passed over when the text of an address is read. -/
theorem clean_display (h : u.Tidy) (hquery : u.query = some (writePairs ps)) :
    clean u.display = u.display.toList := by
  have hending := h.blank_lt_ending ps
  refine clean_eq_self ?_ h.blank_lt_head fun c hc => ?_
  · rw [toList_display hquery]
    exact List.forall_mem_append.mpr
      ⟨fun c hc => (isPlain_iff.mp (h.front c hc)).2, fun c hc => (hending c hc).le⟩
  · rw [toList_display hquery, ending, List.getLast?_append_cons] at hc
    exact hending c (List.mem_of_getLast? hc)

/-- Pairs that were written stand in the text of the address. -/
theorem textPairs_display (h : u.Tidy) (hquery : u.query = some (writePairs ps)) :
    textPairs u.display = ps := by
  rw [textPairs, queryOf_display h hquery, Option.map_some, Option.getD_some,
    String.ofList_toList, readPairs_writePairs]

/-- If the text of an address is read, the address has the pairs that were written. -/
theorem pairs_of_read_display (h : u.Tidy) (hquery : u.query = some (writePairs ps))
    (hread : read u.display = .ok v) : v.pairs = ps := by
  have hkeeps := keeps_read hread
  rw [Keeps, clean_display h hquery, queryOf_display h hquery, Option.map_some,
    encodedQuery_writePairs] at hkeeps
  rw [pairs, hkeeps, Option.getD_some, readPairs_writePairs]

end MapContext.Url
