import MapContext.Proofs.Url.Query
import MapContext.Url.Reading
import Mathlib.Data.List.Basic

/-!
# Text before the query

Whatever an address is read from, the parts that stand before its query contain neither a mark that
would begin the query or the fragment nor a control character: those that could do so are encoded
or refused.
-/

namespace MapContext.Url

open Text

/-- A character that begins no other part of an address and is not passed over. -/
def isPlain (c : Char) : Bool := c != '?' && c != '#' && 0x20 ≤ c.toNat

theorem isPlain_iff {c : Char} : isPlain c = true ↔ (c ≠ '?' ∧ c ≠ '#') ∧ 0x20 ≤ c.toNat := by
  rw [isPlain, Bool.and_eq_true, Bool.and_eq_true, bne_iff_ne, bne_iff_ne, decide_eq_true_eq]

/-- Text of such characters. -/
def Plain (cs : List Char) : Prop := ∀ c ∈ cs, isPlain c = true

variable {cs ds : List Char} {c : Char}

theorem plain_nil : Plain [] := by
  intro c hc
  cases hc

theorem plain_cons (hc : isPlain c = true) (h : Plain cs) : Plain (c :: cs) :=
  List.forall_mem_cons.mpr ⟨hc, h⟩

theorem Plain.append (h : Plain cs) (h' : Plain ds) : Plain (cs ++ ds) :=
  List.forall_mem_append.mpr ⟨h, h'⟩

theorem Plain.of_subset (h : Plain cs) (hsub : ds ⊆ cs) : Plain ds :=
  fun c hc => h c (hsub hc)

theorem plain_flatMap {α : Type} {f : α → List Char} {as : List α} (h : ∀ a ∈ as, Plain (f a)) :
    Plain (as.flatMap f) := by
  intro c hc
  obtain ⟨a, ha, hc⟩ := List.mem_flatMap.mp hc
  exact h a ha c hc

/-- What holds of all characters of ASCII holds of a character of ASCII. -/
theorem of_ascii (p : Char → Prop) (h : ∀ n < 128, p (Char.ofNat n)) (hc : c.toNat < 128) : p c :=
  Char.ofNat_toNat c ▸ h c.toNat hc

theorem toNat_lt_of_isAlphanum (h : c.isAlphanum = true) : c.toNat < 128 := by
  have h : (decide ('A'.val ≤ c.val ∧ c.val ≤ 'Z'.val) ||
      (decide ('a'.val ≤ c.val) && decide (c.val ≤ 'z'.val)) ||
      (decide ('0'.val ≤ c.val) && decide (c.val ≤ '9'.val))) = true := h
  simp only [UInt32.le_iff_toNat_le, Bool.or_eq_true, decide_eq_true_eq, Bool.and_eq_true] at h
  have hval : c.toNat = c.val.toNat := rfl
  have h9 : '9'.val.toNat = 57 := rfl
  have hZ : 'Z'.val.toNat = 90 := rfl
  have hz : 'z'.val.toNat = 122 := rfl
  omega

theorem isPlain_of_isAlphanum (h : c.isAlphanum = true) : isPlain c = true := by
  exact of_ascii (fun c => c.isAlphanum = true → isPlain c = true) (by decide)
    (toNat_lt_of_isAlphanum h) h

theorem isPlain_of_isFormChar (h : isFormChar c = true) : isPlain c = true := by
  rw [isFormChar, Bool.or_eq_true] at h
  rcases h with h | h
  · exact isPlain_of_isAlphanum h
  · simp only [List.contains_eq_mem, decide_eq_true_eq, List.mem_cons, List.not_mem_nil,
      or_false] at h
    rcases h with rfl | rfl | rfl | rfl <;> decide

theorem blank_lt_of_isFormChar (h : isFormChar c = true) : 0x20 < c.toNat := by
  rw [isFormChar, Bool.or_eq_true] at h
  rcases h with h | h
  · exact of_ascii (fun c => c.isAlphanum = true → 0x20 < c.toNat) (by decide)
      (toNat_lt_of_isAlphanum h) h
  · simp only [List.contains_eq_mem, decide_eq_true_eq, List.mem_cons, List.not_mem_nil,
      or_false] at h
    rcases h with rfl | rfl | rfl | rfl <;> decide

/-! ### Encoded text -/

theorem mem_encode {p : Char → Bool} (h : c ∈ encode p cs) :
    (c ∈ cs ∧ p c = false) ∨ c = '%' ∨ isFormChar c = true := by
  obtain ⟨d, hd, hc⟩ := List.mem_flatMap.mp h
  split at hc
  · exact .inr (mem_encodeBytes hc)
  · next hp =>
      rw [List.mem_singleton.mp hc]
      exact .inl ⟨hd, Bool.eq_false_iff.mpr hp⟩

/-- Encoded text is plain if the characters that stay are. -/
theorem plain_encode {p : Char → Bool} (h : ∀ c ∈ cs, p c = false → isPlain c = true) :
    Plain (encode p cs) := by
  intro c hc
  rcases mem_encode hc with ⟨hmem, hp⟩ | rfl | hform
  · exact h c hmem hp
  · decide
  · exact isPlain_of_isFormChar hform

theorem isPlain_of_not_inPath (h : inPath c = false) : isPlain c = true := by
  simp only [inPath, inFragment, isControl, List.contains_eq_mem, Bool.or_eq_false_iff,
    decide_eq_false_iff_not, List.mem_cons, not_or] at h
  obtain ⟨⟨⟨hcontrol, -⟩, -⟩, hnumber, hquestion, -⟩ := h
  exact isPlain_iff.mpr ⟨⟨hquestion, hnumber⟩, by omega⟩

theorem isPlain_of_not_inUserInfo (h : inUserInfo c = false) : isPlain c = true := by
  rw [inUserInfo, Bool.or_eq_false_iff] at h
  exact isPlain_of_not_inPath h.1

/-- Where a part has neither mark, encoding its controls makes it plain. -/
theorem plain_encode_isControl (h : ∀ c ∈ cs, c ≠ '?' ∧ c ≠ '#') : Plain (encode isControl cs) := by
  refine plain_encode fun c hc hcontrol => ?_
  simp only [isControl, Bool.or_eq_false_iff, decide_eq_false_iff_not] at hcontrol
  exact isPlain_iff.mpr ⟨h c hc, by omega⟩

/-! ### Numeric hosts -/

theorem plain_toDigits {b : Nat} (hb : 1 < b) (hb' : b ≤ 16) (n : Nat) :
    Plain (Nat.toDigits b n) := by
  have hall : ∀ d < 16, isPlain (Nat.digitChar d) = true := by decide
  induction n using Nat.strongRecOn with
  | ind n ih =>
      rw [Nat.toDigits_eq_if hb]
      split
      · exact plain_cons (hall n (by omega)) plain_nil
      · have hmod := Nat.mod_lt n (Nat.lt_trans Nat.one_pos hb)
        exact (ih _ (Nat.div_lt_self (by omega) hb)).append
          (plain_cons (hall _ (by omega)) plain_nil)

theorem forall_mem_intercalate {p : Char → Prop} {separator : List Char}
    (h : ∀ c ∈ separator, p c) {parts : List (List Char)}
    (hparts : ∀ part ∈ parts, ∀ c ∈ part, p c) : ∀ c ∈ separator.intercalate parts, p c := by
  induction parts with
  | nil => exact fun c hc => nomatch hc
  | cons first others ih =>
      obtain ⟨hfirst, hothers⟩ := List.forall_mem_cons.mp hparts
      cases others with
      | nil => simpa using hfirst
      | cons second others =>
          rw [List.intercalate_cons_cons]
          exact List.forall_mem_append.mpr ⟨List.forall_mem_append.mpr ⟨hfirst, h⟩, ih hothers⟩

theorem plain_intercalate {separator : List Char} (h : Plain separator)
    {parts : List (List Char)} (hparts : ∀ part ∈ parts, Plain part) :
    Plain (separator.intercalate parts) :=
  forall_mem_intercalate h hparts

theorem plain_ipv4Text (address : Nat) : Plain (ipv4Text address) := by
  refine plain_intercalate (plain_cons (by decide) plain_nil) fun part hpart => ?_
  obtain ⟨i, -, rfl⟩ := List.mem_map.mp hpart
  exact plain_toDigits (by decide) (by decide) _

theorem plain_ipv6Text (pieces : List Nat) : Plain (ipv6Text pieces) := by
  have hjoin (ps : List Nat) : Plain (":".toList.intercalate (ps.map (Nat.toDigits 16))) := by
    refine plain_intercalate (plain_cons (by decide) plain_nil) fun part hpart => ?_
    obtain ⟨n, -, rfl⟩ := List.mem_map.mp hpart
    exact plain_toDigits (by decide) (by decide) n
  rw [ipv6Text]
  split
  split
  · exact hjoin _
  · exact ((hjoin _).append (plain_cons (by decide) (plain_cons (by decide) plain_nil))).append
      (hjoin _)

/-! ### Paths -/

theorem plain_closedText {done : List (List Char)} (h : ∀ s ∈ done, Plain s) :
    Plain (closedText done) := by
  refine plain_flatMap fun s hs => ?_
  exact (h s (List.mem_reverse.mp hs)).append (plain_cons (by decide) plain_nil)

theorem goUp_subset (done : List (List Char)) : goUp done ⊆ done := by
  cases done with
  | nil => exact fun _ h => h
  | cons last before =>
      rw [goUp]
      split
      · exact fun _ h => h
      · exact List.subset_cons_self _ _

/-- Resolving dots and drives leaves plain segments plain. -/
theorem plain_resolve (file onDrive : Bool) {done raw : List (List Char)}
    (hdone : ∀ s ∈ done, Plain s) (hraw : ∀ s ∈ raw, Plain s) :
    Plain (resolve file onDrive done raw).text := by
  induction raw generalizing done onDrive with
  | nil => exact plain_closedText hdone
  | cons segment rest ih =>
      have hrest : ∀ s ∈ rest, Plain s := fun s hs => hraw s (List.mem_cons_of_mem _ hs)
      have hsegment := hraw segment List.mem_cons_self
      have hdrive : Plain (segment.take 1 ++ [':']) :=
        (hsegment.of_subset (List.take_subset 1 segment)).append
          (plain_cons (by decide) plain_nil)
      rw [resolve]
      split
      · exact ih onDrive (fun s hs => hdone s (goUp_subset done hs)) hrest
      · split
        · exact ih onDrive hdone hrest
        · have hplain : Plain (if (file && done.length == 1 && isDrive segment) = true then
              segment.take 1 ++ [':'] else segment) := by
            split
            · exact hdrive
            · exact hsegment
          dsimp only
          split
          · exact (plain_closedText hdone).append hplain
          · exact ih _ (List.forall_mem_cons.mpr ⟨hplain, hdone⟩) hrest

theorem plain_pathOf (scheme : String) (cs : List Char) : Plain (pathOf scheme cs).text := by
  have hraw : ∀ s ∈ (pieces (isSlash (isSpecial scheme)) cs).map (encode inPath), Plain s := by
    intro s hs
    obtain ⟨piece, -, rfl⟩ := List.mem_map.mp hs
    exact plain_encode fun c _ => isPlain_of_not_inPath
  have hresolved := plain_resolve (scheme == "file") false
    (List.forall_mem_singleton.mpr plain_nil) hraw
  rw [pathOf]
  split
  · exact plain_cons (by decide) (hresolved.of_subset (List.dropWhile_sublist _).subset)
  · exact hresolved

theorem plain_readPath (scheme : String) (cs : List Char) : Plain (readPath scheme cs).toList := by
  rw [readPath]
  split
  · exact plain_nil
  · rw [String.toList_ofList]
    exact plain_pathOf scheme _

end MapContext.Url
