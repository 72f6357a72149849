import MapContext.Context.Query
import MapContext.Decimal.Layout
import MapContext.Text.Quoted

/-!
# Checks

Expectations about folders and numbers; a check that fails says what was found.
-/

namespace MapContext.Check

/-- The folder of a resource is as expected. -/
def folder (c : Context) (id : Resource.Id) (expected : String) : Except String Unit :=
  match c.get? id with
  | none => .error ("resource '" ++ id ++ "' not found")
  | some r =>
    if r.folder.display = expected then .ok ()
    else .error ("assertion `left == right` failed: folder of resource '" ++ id ++ "'\n  left: "
      ++ Text.quoted r.folder.display ++ "\n right: " ++ Text.quoted expected)

/-- The folders of resources are as expected; the first one that is not is reported. -/
def folders (c : Context) (expected : List (Resource.Id × String)) : Except String Unit :=
  expected.forM fun e => folder c e.1 e.2

/-- Numbers are shown with a power of ten below `1e-4` and from `1e16` on, without a plus sign, and
a tie between two shortest decimals goes up. -/
def layout : Decimal.Layout := ⟨-3, 16, false, .up⟩

/-- The text of a number. -/
def numberText (x : Float) : String :=
  if x.isNaN then "NaN"
  else if x.isInf then (if x < 0 then "-inf" else "inf")
  else layout.text x

/-- Two numbers differ by at most `epsilon`. -/
def approximately (left right epsilon : Float) : Except String Unit :=
  let diff := (left - right).abs
  if epsilon < diff then
    .error ("assertion failed: `(left ≈ right)`\n  left: `" ++ numberText left ++ "`,\n right: `"
      ++ numberText right ++ "`,\n  diff: `" ++ numberText diff ++ "` > epsilon `"
      ++ numberText epsilon ++ "`")
  else .ok ()

end MapContext.Check
