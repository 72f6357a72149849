import MapContext.Proofs.Url.Plain
import MapContext.Url.Domain

/-!
# Text of domain names

A domain name is folded, composed and encoded, and none of these steps brings in a mark that begins
a query or a fragment, or a control character.
-/

namespace MapContext

/-! ### Composed text -/

namespace Text

open Url

variable {c : Char} {cs : List Char}

theorem isPlain_ofNat {n : Nat} (h : 0x40 ≤ n) (h' : n < 0xD800) :
    isPlain (Char.ofNat n) = true := by
  have hvalid : n.isValidChar := .inl h'
  have hn : (Char.ofNat n).toNat = n := by
    rw [Char.ofNat, dif_pos hvalid]
    rfl
  have hne {d : Char} (hd : d.toNat < 0x40) : Char.ofNat n ≠ d := by
    rintro rfl
    omega
  exact isPlain_iff.mpr ⟨⟨hne (by decide), hne (by decide)⟩, by omega⟩

/-- The expansions of a table are those of its words. -/
theorem expansionsOf_eq (table : String) :
    expansionsOf table =
      ((pieces isBlank table.toList).filter (! ·.isEmpty)).map expansionOf := by
  rw [expansionsOf, words, List.map_map]
  refine List.map_congr_left fun w _ => ?_
  rw [Function.comp_apply, String.toList_ofList]

/-- An expansion of a single character in which all characters are plain. -/
def Expansion.isPlain (e : Expansion) : Bool :=
  e.first == e.last && Url.isPlain (Char.ofNat e.first) &&
    e.target.all fun n => Url.isPlain (Char.ofNat n)

set_option maxRecDepth 100000 in
theorem composites_isPlain : composites.all Expansion.isPlain = true := by
  rw [composites, expansionsOf_eq, String.toList_ofList]
  decide +kernel

/-- Characters are plain in all expansions of a table. -/
def PlainTable (table : List Expansion) : Prop := ∀ e ∈ table, e.isPlain = true

theorem plainTable_composites : PlainTable composites := List.all_eq_true.mp composites_isPlain

theorem PlainTable.plain_expand {table : List Expansion} (h : PlainTable table)
    {parts : List Char} (hparts : expand? table c = some parts) : Plain parts := by
  obtain ⟨e, he, hexpand⟩ := List.exists_of_findSome?_eq_some hparts
  have hplain := h e he
  simp only [Expansion.isPlain, Bool.and_eq_true, beq_iff_eq, List.all_eq_true] at hplain
  obtain ⟨⟨hsingle, -⟩, htarget⟩ := hplain
  simp only [Expansion.expand?] at hexpand
  split at hexpand
  · next hrange =>
      simp only [Bool.and_eq_true, decide_eq_true_eq] at hrange
      have hfirst : c.toNat - e.first = 0 := by omega
      split at hexpand
      · obtain rfl := Option.some.inj hexpand
        exact plain_nil
      · next code codes hcodes =>
          rw [hfirst, Nat.add_zero, ← hcodes] at hexpand
          obtain rfl := Option.some.inj hexpand
          intro d hd
          obtain ⟨n, hn, rfl⟩ := List.mem_map.mp hd
          exact htarget n hn
  · cases hexpand

theorem plain_syllableParts {parts : List Char} (h : syllableParts? c = some parts) :
    Plain parts := by
  rw [syllableParts?] at h
  split at h
  · cases h
  · dsimp only at h
    split at h
    · cases h
    · next hn =>
        obtain rfl := Option.some.inj h
        have hlead : (c.toNat - firstSyllable) / (vowelCount * trailCount) < leadCount := by
          rw [Nat.div_lt_iff_lt_mul (by decide), ← Nat.mul_assoc]
          exact Nat.lt_of_not_le hn
        have hvowel := Nat.mod_lt ((c.toNat - firstSyllable) / trailCount)
          (show 0 < vowelCount by decide)
        have htrail := Nat.mod_lt (c.toNat - firstSyllable) (show 0 < trailCount by decide)
        have hplain {base n : Nat} (hbase : 0x40 ≤ base) (hbase' : base < 0xD000)
            (hn : n < 100) : isPlain (Char.ofNat (base + n)) = true := by
          apply isPlain_ofNat
          all_goals omega
        refine Plain.append (plain_cons ?_ (plain_cons ?_ plain_nil)) ?_
        · exact hplain (by decide) (by decide) (Nat.lt_of_lt_of_le hlead (by decide))
        · exact hplain (by decide) (by decide) (Nat.lt_of_lt_of_le hvowel (by decide))
        · split
          · exact plain_nil
          · refine plain_cons (hplain (by decide) (by decide) ?_) plain_nil
            exact Nat.lt_of_lt_of_le htrail (by decide)

theorem PlainTable.plain_splitChar {table : List Expansion} (h : PlainTable table) (fuel : Nat)
    (hc : isPlain c = true) : Plain (splitChar table fuel c) := by
  induction fuel generalizing c with
  | zero => exact plain_cons hc plain_nil
  | succ fuel ih =>
      rw [splitChar]
      split
      · next parts hparts => exact plain_syllableParts hparts
      · split
        · next a rest hrest =>
            obtain ⟨ha, hrest⟩ := List.forall_mem_cons.mp (h.plain_expand hrest)
            exact (ih ha).append hrest
        · exact plain_cons hc plain_nil

theorem isPlain_of_syllable {a b : Char} (h : syllable? a b = some c) : isPlain c = true := by
  rw [syllable?] at h
  split at h
  · next hrange =>
      simp only [Bool.and_eq_true, decide_eq_true_eq] at hrange
      obtain rfl := Option.some.inj h
      simp only [leadCount, vowelCount, trailCount, firstLead, firstVowel, firstSyllable] at *
      apply isPlain_ofNat
      all_goals omega
  · split at h
    · next hrange =>
        simp only [Bool.and_eq_true, decide_eq_true_eq, beq_iff_eq] at hrange
        obtain rfl := Option.some.inj h
        simp only [leadCount, vowelCount, trailCount, firstSyllable, beforeTrail] at *
        apply isPlain_ofNat
        all_goals omega
    · cases h

theorem isPlain_of_join {a b : Char} (h : join? a b = some c) : isPlain c = true := by
  rw [join?] at h
  split at h
  · next d hd =>
      obtain rfl := Option.some.inj h
      exact isPlain_of_syllable hd
  · obtain ⟨e, he, rfl⟩ := Option.map_eq_some_iff.mp h
    have hplain := plainTable_composites e (List.mem_of_find?_eq_some he)
    simp only [Expansion.isPlain, Bool.and_eq_true] at hplain
    exact hplain.1.2

/-- Characters with classes of which all are plain. -/
def PlainParts (ms : List (Char × Nat)) : Prop := ∀ m ∈ ms, isPlain m.1 = true

theorem mem_sink {m n : Char × Nat} {ns : List (Char × Nat)} (h : n ∈ sink m ns) :
    n = m ∨ n ∈ ns := by
  induction ns with
  | nil => exact .inl (List.mem_singleton.mp h)
  | cons first ns ih =>
      rw [sink] at h
      split at h
      · rcases List.mem_cons.mp h with rfl | h
        · exact .inr List.mem_cons_self
        · exact (ih h).imp_right (List.mem_cons_of_mem _)
      · exact List.mem_cons.mp h

theorem plainParts_splitText (h : Plain cs) : PlainParts (splitText cs) := by
  have hfold : ∀ ms done : List (Char × Nat), PlainParts ms → PlainParts done →
      PlainParts (ms.foldl (fun done m => sink m done) done) := by
    intro ms
    induction ms with
    | nil => exact fun done _ hdone => hdone
    | cons m ms ih =>
        intro done hms hdone
        obtain ⟨hm, hms⟩ := List.forall_mem_cons.mp hms
        refine ih _ hms fun n hn => ?_
        rcases mem_sink hn with rfl | hn
        · exact hm
        · exact hdone n hn
  intro m hm
  refine hfold _ _ (fun n hn => ?_) (fun n hn => absurd hn List.not_mem_nil) m
    (List.mem_reverse.mp hm)
  obtain ⟨d, hd, rfl⟩ := List.mem_map.mp hn
  exact plain_flatMap (fun c hc => plainTable_composites.plain_splitChar mostMarks (h c hc)) d hd

theorem plain_joinFrom {start : Char} {waiting ms : List (Char × Nat)}
    (hstart : isPlain start = true) (hwaiting : PlainParts waiting) (hms : PlainParts ms) :
    Plain (joinFrom start waiting ms) := by
  have hreversed {waiting : List (Char × Nat)} (h : PlainParts waiting) :
      Plain (waiting.reverse.map (·.1)) := by
    intro c hc
    obtain ⟨m, hm, rfl⟩ := List.mem_map.mp hc
    exact h m (List.mem_reverse.mp hm)
  induction ms generalizing start waiting with
  | nil => exact plain_cons hstart (hreversed hwaiting)
  | cons m ms ih =>
      obtain ⟨hm, hms⟩ := List.forall_mem_cons.mp hms
      unfold joinFrom
      dsimp only
      split
      · next d hd =>
          exact ih (isPlain_of_join ((Option.ite_none_right_eq_some.mp hd).2)) hwaiting hms
      · split
        · exact plain_cons hstart
            ((hreversed hwaiting).append (ih hm (fun n hn => absurd hn List.not_mem_nil) hms))
        · exact ih hstart (List.forall_mem_cons.mpr ⟨hm, hwaiting⟩) hms

theorem plain_joinText {ms : List (Char × Nat)} (h : PlainParts ms) : Plain (joinText ms) := by
  induction ms with
  | nil => exact plain_nil
  | cons m ms ih =>
      obtain ⟨hm, hms⟩ := List.forall_mem_cons.mp h
      rw [joinText]
      split
      · exact plain_joinFrom hm (fun n hn => absurd hn List.not_mem_nil) hms
      · exact plain_cons hm (ih hms)

/-- Composed text is plain if the text is. -/
theorem plain_compose (h : Plain cs) : Plain (compose cs) := by
  rw [compose]
  split
  · exact h
  · exact plain_joinText (plainParts_splitText h)

end Text

/-! ### Encoded labels -/

namespace Url.Punycode

open Text

theorem threshold_le (place bias : Nat) : threshold place bias ≤ 26 := by
  rw [threshold]
  split
  · omega
  · split
    · omega
    · omega

theorem isPlain_digitChar {d : Nat} (h : d < 36) : isPlain (digitChar d) = true := by
  have hall : ∀ d < 36, isPlain (digitChar d) = true := by decide
  exact hall d h

theorem plain_numberDigits (bias place q n : Nat) : Plain (numberDigits bias place q n) := by
  induction n generalizing place q with
  | zero => exact plain_nil
  | succ n ih =>
      have ht := threshold_le place bias
      rw [numberDigits]
      split
      · exact plain_cons (isPlain_digitChar (by omega)) plain_nil
      · have hmod := Nat.mod_lt (q - threshold place bias)
          (show 0 < 36 - threshold place bias by omega)
        exact plain_cons (isPlain_digitChar (by omega)) (ih _ _)

theorem plain_meet {w : Writing} (h : Plain w.out) (basic m : Nat) (c : Char) :
    Plain (w.meet basic m c).out := by
  rw [Writing.meet]
  split
  · exact h
  · split
    · exact h.append (plain_numberDigits _ _ _ _)
    · exact h

theorem plain_writeCodes (name : List Char) (basic : Nat) {codes : List Nat} {n : Nat}
    {w : Writing} (h : Plain w.out) : Plain (writeCodes name basic codes n w).out := by
  have hfold : ∀ (cs : List Char) (m : Nat) (w : Writing), Plain w.out →
      Plain (cs.foldl (Writing.meet basic m) w).out := by
    intro cs m
    induction cs with
    | nil => exact fun _ h => h
    | cons c cs ih => exact fun w h => ih _ (plain_meet h basic m c)
  induction codes generalizing n w with
  | nil => exact h
  | cons m codes ih =>
      rw [writeCodes]
      exact ih (hfold name m _ h)

theorem plain_encode {name : List Char} (h : Plain name) : Plain (encode name) := by
  rw [encode]
  refine ((h.of_subset List.filter_sublist.subset).append ?_).append
    (plain_writeCodes _ _ plain_nil)
  split
  · exact plain_nil
  · exact plain_cons (by decide) plain_nil

end Url.Punycode

/-! ### Domain names -/

namespace Url

open Text

theorem isPlain_of_not_isForbidden {c : Char} (h : isForbidden c = false) : isPlain c = true := by
  simp only [isForbidden, List.contains_eq_mem, Bool.or_eq_false_iff, decide_eq_false_iff_not,
    List.mem_cons, not_or] at h
  obtain ⟨⟨hcontrol, -⟩, -, hnumber, -, -, -, -, hquestion, -⟩ := h
  exact isPlain_iff.mpr ⟨⟨hquestion, hnumber⟩, by omega⟩

theorem plain_foldChar {c : Char} {folded : List Char} (h : foldChar? c = some folded) :
    Plain folded := by
  rw [foldChar?] at h
  split at h
  · next hascii =>
      split at h
      · cases h
      · next hallowed =>
          obtain rfl := Option.some.inj h
          refine plain_cons ?_ plain_nil
          exact of_ascii (fun c => isForbidden c = false → isPlain c.toLower = true) (by decide)
            hascii (Bool.eq_false_iff.mpr hallowed)
  · split at h
    · cases h
    · split at h
      · obtain rfl := Option.some.inj h
        exact plain_nil
      · dsimp only at h
        split at h
        · cases h
        · next hallowed =>
            obtain rfl := Option.some.inj h
            intro d hd
            rw [Bool.not_eq_true, List.any_eq_false] at hallowed
            exact isPlain_of_not_isForbidden (Bool.eq_false_iff.mpr (hallowed d hd))

/-- What is put together from readings of members was read from one of them. -/
theorem exists_of_mem_mapM {α β : Type} {f : α → Option β} {as : List α} {bs : List β} {b : β}
    (h : as.mapM f = some bs) (hb : b ∈ bs) : ∃ a ∈ as, f a = some b := by
  induction as generalizing bs with
  | nil =>
      obtain rfl := Option.some.inj h
      cases hb
  | cons a as ih =>
      rw [List.mapM_cons] at h
      obtain ⟨first, hfirst, h⟩ := Option.bind_eq_some_iff.mp h
      obtain ⟨others, hothers, h⟩ := Option.bind_eq_some_iff.mp h
      obtain rfl := Option.some.inj h
      rcases List.mem_cons.mp hb with rfl | hb
      · exact ⟨a, List.mem_cons_self, hfirst⟩
      · obtain ⟨a', ha', hfa'⟩ := ih hothers hb
        exact ⟨a', List.mem_cons_of_mem a ha', hfa'⟩

theorem plain_foldName {cs folded : List Char} (h : foldName? cs = some folded) :
    Plain folded := by
  obtain ⟨parts, hparts, rfl⟩ := Option.map_eq_some_iff.mp h
  apply plain_compose
  intro c hc
  obtain ⟨part, hpart, hc⟩ := List.mem_flatten.mp hc
  obtain ⟨d, -, hd⟩ := exists_of_mem_mapM hparts hpart
  exact plain_foldChar hd c hc

theorem plain_codeMark : Plain codeMark := by
  have hmark : codeMark = ['x', 'n', '-', '-'] := by rfl
  rw [hmark]
  exact plain_cons (by decide) (plain_cons (by decide) (plain_cons (by decide)
    (plain_cons (by decide) plain_nil)))

theorem plain_labelForms {label : List Char} {forms : List Char × List Char}
    (h : labelForms? label = some forms) (hlabel : Plain label) : Plain forms.2 := by
  have hlast {label ascii : List Char} {refused : Bool} (hascii : Plain ascii)
      (h : (if refused = true then none else some (label, ascii)) = some forms) :
      Plain forms.2 := by
    obtain ⟨-, h⟩ := Option.ite_none_left_eq_some.mp h
    obtain rfl := Option.some.inj h
    exact hascii
  rw [labelForms?] at h
  dsimp only at h
  split at h
  · split at h
    · obtain ⟨read, hread, h⟩ := Option.bind_eq_some_iff.mp h
      obtain ⟨decoded, -, rfl⟩ := Option.map_eq_some_iff.mp hread
      exact hlast hlabel h
    · cases h
  · refine hlast ?_ h
    split
    · exact hlabel
    · exact Plain.append plain_codeMark (Punycode.plain_encode hlabel)

/-- A domain name in ASCII is plain. -/
theorem plain_domainToAscii {bytes : List UInt8} {name : List Char}
    (h : domainToAscii? bytes = some name) : Plain name := by
  obtain ⟨folded, hfolded, h⟩ := Option.bind_eq_some_iff.mp h
  obtain ⟨forms, hforms, h⟩ := Option.bind_eq_some_iff.mp h
  split at h
  · obtain rfl := Option.some.inj h
    refine plain_intercalate (plain_cons (by decide) plain_nil) fun part hpart => ?_
    obtain ⟨form, hform, rfl⟩ := List.mem_map.mp hpart
    obtain ⟨label, hlabel, hread⟩ := exists_of_mem_mapM hforms hform
    have hfolded := plain_foldName hfolded
    exact plain_labelForms hread (hfolded.of_subset (pieces_subset _ _ label hlabel))
  · cases h

end Url

end MapContext
