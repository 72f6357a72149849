import MapContext.Text.CaseTable

/-!
# Capital letters

Full case mapping without regard to language: `ß` becomes `SS`. ASCII letters are decided without
the table.
-/

namespace MapContext.Text

/-- The capital form of a character. -/
def capital (c : Char) : List Char :=
  if c.toNat < 128 then [c.toUpper] else (expand? capitals c).getD [c]

/-- The text in capitals. -/
def upper (s : String) : String :=
  String.ofList (s.toList.flatMap capital)

end MapContext.Text
