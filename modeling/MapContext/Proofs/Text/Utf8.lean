import Mathlib.Data.List.Basic
import MapContext.Text.Utf8

/-!
# Text read back from its bytes

The bytes of a character are read as that character, whatever follows. The first byte says how many
more there are and leaves out the numbers that need fewer bytes or are no characters; every further
byte contributes six bits.
-/

namespace MapContext.Text

variable {low high bits x : Nat}

/-! ### One byte -/

/-- A further byte within the bounds adds six bits. -/
theorem decodeBytes_next (owed : Nat) (hlow : low ≤ x + 128) (hhigh : x + 128 ≤ high)
    (bs : List Nat) :
    decodeBytes (some ⟨owed + 2, low, high, bits⟩) ((x + 128) :: bs) =
      decodeBytes (some ⟨owed + 1, 0x80, 0xBF, 64 * bits + x⟩) bs := by
  have hbounds : (decide (low ≤ x + 128) && decide (x + 128 ≤ high)) = true := by
    simp [hlow, hhigh]
  have howed : ¬owed + 2 ≤ 1 := by omega
  rw [decodeBytes]
  simp only [hbounds, if_true, howed, if_false, Nat.add_sub_cancel]
  rfl

/-- The last byte gives the character. -/
theorem decodeBytes_last (hlow : low ≤ x + 128) (hhigh : x + 128 ≤ high) (bs : List Nat) :
    decodeBytes (some ⟨1, low, high, bits⟩) ((x + 128) :: bs) =
      Char.ofNat (64 * bits + x) :: decodeBytes none bs := by
  have hbounds : (decide (low ≤ x + 128) && decide (x + 128 ≤ high)) = true := by
    simp [hlow, hhigh]
  rw [decodeBytes]
  simp only [hbounds, if_true, Nat.le_refl, Nat.add_sub_cancel]

theorem decodeBytes_lead {b : Nat} {p : PartialChar} (h : leadByte b = ([], some p))
    (bs : List Nat) : decodeBytes none (b :: bs) = decodeBytes (some p) bs := by
  rw [decodeBytes, h, List.nil_append]

/-- The first of two bytes. -/
theorem leadByte_two {a : Nat} (hlow : 2 ≤ a) (hhigh : a < 32) :
    leadByte (a + 192) = ([], some ⟨1, 0x80, 0xBF, a⟩) := by
  simp only [leadByte, Bool.and_eq_true, decide_eq_true_eq]
  rw [if_neg (by omega), if_pos (by omega), Nat.add_sub_cancel]

/-- The first of three bytes. After the least one the numbers below 0x800 are left out, and after
0xED those of surrogates. -/
theorem leadByte_three {a : Nat} (ha : a < 16) :
    ∃ low high, leadByte (a + 224) = ([], some ⟨2, low, high, a⟩) ∧
      ∀ x < 64, (a = 0 → 32 ≤ x) → (a = 13 → x < 32) → low ≤ x + 128 ∧ x + 128 ≤ high := by
  by_cases hleast : a = 0
  · subst hleast
    refine ⟨0xA0, 0xBF, rfl, fun x hx hmore _ => ?_⟩
    have := hmore rfl
    omega
  · by_cases hsurrogates : a = 13
    · subst hsurrogates
      refine ⟨0x80, 0x9F, rfl, fun x hx _ hless => ?_⟩
      have := hless rfl
      omega
    · refine ⟨0x80, 0xBF, ?_, fun x hx _ _ => by omega⟩
      simp only [leadByte, Bool.and_eq_true, decide_eq_true_eq]
      rw [if_neg (by omega), if_neg (by omega), if_neg (by omega), if_neg (by omega),
        if_pos (by omega), Nat.add_sub_cancel]

/-- The first of four bytes. After the least one the numbers below 0x10000 are left out, and after
0xF4 those above 0x10FFFF. -/
theorem leadByte_four {a : Nat} (ha : a < 5) :
    ∃ low high, leadByte (a + 240) = ([], some ⟨3, low, high, a⟩) ∧
      ∀ x < 64, (a = 0 → 16 ≤ x) → (a = 4 → x < 16) → low ≤ x + 128 ∧ x + 128 ≤ high := by
  by_cases hleast : a = 0
  · subst hleast
    refine ⟨0x90, 0xBF, rfl, fun x hx hmore _ => ?_⟩
    have := hmore rfl
    omega
  · by_cases hgreatest : a = 4
    · subst hgreatest
      refine ⟨0x80, 0x8F, rfl, fun x hx _ hless => ?_⟩
      have := hless rfl
      omega
    · refine ⟨0x80, 0xBF, ?_, fun x hx _ _ => by omega⟩
      simp only [leadByte, Bool.and_eq_true, decide_eq_true_eq]
      rw [if_neg (by omega), if_neg (by omega), if_neg (by omega), if_neg (by omega),
        if_neg (by omega), if_neg (by omega), if_neg (by omega), if_pos (by omega),
        Nat.add_sub_cancel]

/-! ### Characters -/

theorem toNat_ofNat_of_lt {n : Nat} (h : n < 256) : (UInt8.ofNat n).toNat = n := by
  rw [UInt8.toNat_ofNat']
  exact Nat.mod_eq_of_lt h

/-- The bytes of a character are read as the character. -/
theorem decodeBytes_utf8EncodeChar (c : Char) (bs : List Nat) :
    decodeBytes none ((String.utf8EncodeChar c).map UInt8.toNat ++ bs) =
      c :: decodeBytes none bs := by
  have hchar : Char.ofNat c.val.toNat = c := Char.ofNat_toNat c
  have hvalid : c.val.toNat < 0xD800 ∨ 0xDFFF < c.val.toNat ∧ c.val.toNat < 0x110000 := c.valid
  rw [String.utf8EncodeChar.eq_1]
  generalize c.val.toNat = v at hchar hvalid
  subst hchar
  by_cases hone : v ≤ 127
  · rw [if_pos hone, List.map_singleton, toNat_ofNat_of_lt (by omega), List.singleton_append,
      decodeBytes, leadByte, if_pos (by omega)]
    rfl
  rw [if_neg hone]
  by_cases htwo : v ≤ 2047
  · rw [if_pos htwo]
    simp only [List.map_cons, List.map_nil, List.cons_append, List.nil_append]
    rw [toNat_ofNat_of_lt (by omega), toNat_ofNat_of_lt (by omega),
      decodeBytes_lead (leadByte_two (by omega) (by omega)),
      decodeBytes_last (by omega) (by omega)]
    congr 2
    omega
  rw [if_neg htwo]
  by_cases hthree : v ≤ 65535
  · rw [if_pos hthree]
    simp only [List.map_cons, List.map_nil, List.cons_append, List.nil_append]
    rw [toNat_ofNat_of_lt (by omega), toNat_ofNat_of_lt (by omega), toNat_ofNat_of_lt (by omega)]
    obtain ⟨low, high, hlead, hbounds⟩ := leadByte_three (a := v / 4096 % 16) (by omega)
    obtain ⟨hlow, hhigh⟩ := hbounds (v / 64 % 64) (by omega) (by omega) (by omega)
    rw [decodeBytes_lead hlead, decodeBytes_next 0 hlow hhigh,
      decodeBytes_last (by omega) (by omega)]
    congr 2
    omega
  · rw [if_neg hthree]
    simp only [List.map_cons, List.map_nil, List.cons_append, List.nil_append]
    rw [toNat_ofNat_of_lt (by omega), toNat_ofNat_of_lt (by omega), toNat_ofNat_of_lt (by omega),
      toNat_ofNat_of_lt (by omega)]
    obtain ⟨low, high, hlead, hbounds⟩ := leadByte_four (a := v / 262144 % 8) (by omega)
    obtain ⟨hlow, hhigh⟩ := hbounds (v / 4096 % 64) (by omega) (by omega) (by omega)
    rw [decodeBytes_lead hlead, decodeBytes_next 1 hlow hhigh,
      decodeBytes_next 0 (by omega) (by omega), decodeBytes_last (by omega) (by omega)]
    congr 2
    omega

/-- Text is read back from its bytes. -/
theorem ofUtf8_utf8EncodeChar (cs : List Char) :
    ofUtf8 (cs.flatMap String.utf8EncodeChar) = String.ofList cs := by
  rw [ofUtf8]
  congr 1
  induction cs with
  | nil => rfl
  | cons c cs ih =>
      rw [List.flatMap_cons, List.map_append, decodeBytes_utf8EncodeChar, ih]

end MapContext.Text
