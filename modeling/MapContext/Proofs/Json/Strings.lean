import MapContext.Json.Printing
import MapContext.Json.Reading

/-!
# Strings in JSON text

Every string is read back from between its quotes, whatever characters it has.
-/

namespace MapContext.Json

theorem hexValue?_control : ∀ n < 32,
    Text.hexValue? ['0', '0', Nat.digitChar (n / 16), Nat.digitChar (n % 16)] = some n := by
  decide

/-- A character is read back from its escape. -/
theorem readString_escapedChar (c : Char) (done rest : List Char) :
    readString true done (escapedChar c ++ rest) = readString true (c :: done) rest := by
  unfold escapedChar
  split
  case h_8 hquote hbackslash _ _ _ _ _ =>
      split
      · next hcontrol =>
          have hhex := hexValue?_control c.toNat hcontrol
          have hlow : isLowHalf c.toNat = false := by
            simp only [isLowHalf, Bool.and_eq_false_iff, decide_eq_false_iff_not]
            omega
          have hhigh : isHighHalf c.toNat = false := by
            simp only [isHighHalf, Bool.and_eq_false_iff, decide_eq_false_iff_not]
            omega
          simp [readString, hhex, hlow, hhigh]
      · next hcontrol =>
          rw [List.singleton_append, readString.eq_def]
          split
          case h_7 heq =>
              obtain ⟨rfl, rfl⟩ := List.cons.inj heq
              rw [if_neg hcontrol]
          all_goals simp_all
  all_goals simp [readString, shortEscape?]

theorem readString_escaped (cs done rest : List Char) :
    readString true done (cs.flatMap escapedChar ++ '"' :: rest) =
      .closed (some (String.ofList (done.reverse ++ cs))) rest := by
  induction cs generalizing done with
  | nil => simp [readString]
  | cons c cs ih =>
      rw [List.flatMap_cons, List.append_assoc, readString_escapedChar, ih, List.reverse_cons,
        List.append_assoc, List.singleton_append]

/-- A string is read back from its text. -/
theorem readString_printText (s : String) (rest : List Char) :
    ∃ body, (printText s).toList = '"' :: body ∧
      readString true [] (body ++ rest) = .closed (some s) rest := by
  refine ⟨s.toList.flatMap escapedChar ++ ['"'], by simp [printText], ?_⟩
  rw [List.append_assoc, List.singleton_append, readString_escaped]
  simp

end MapContext.Json
