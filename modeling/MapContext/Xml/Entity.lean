import MapContext.Text.Blank

/-!
# Entities

Five named entities and characters by their number. An ampersand without its semicolon, an
unknown name and a number that is no character are errors.
-/

namespace MapContext.Xml

/-- The named entities. -/
def namedEntities : List (String × Char) :=
  [("lt", '<'), ("gt", '>'), ("amp", '&'), ("apos", '\''), ("quot", '"')]

/-- The character of a number other than zero. -/
def characterOf? (n : Nat) : Option Char :=
  if n = 0 then none
  else if h : n.isValidChar then some (Char.ofNatAux n h) else none

/-- The character of an entity, given between ampersand and semicolon. -/
def entity? (name : List Char) : Option Char :=
  match name with
  | '#' :: 'x' :: digits =>
    if 6 < digits.length then none else (Text.hexValue? digits).bind characterOf?
  | '#' :: digits =>
    if 7 < digits.length || !digits.all Char.isDigit then none
    else characterOf? (Text.digitsValue digits)
  | name => namedEntities.lookup (String.ofList name)

/-- Replaces entities. Inside an entity `pending` holds its name so far, last character first. -/
def unescape : Option (List Char) → List Char → Option (List Char)
  | none, [] => some []
  | some _, [] => none
  | none, c :: cs =>
    if c = '&' then unescape (some []) cs else (unescape none cs).map (c :: ·)
  | some pending, c :: cs =>
    if c = '&' then none
    else if c = ';' then
      match entity? pending.reverse with
      | some d => (unescape none cs).map (d :: ·)
      | none => none
    else unescape (some (c :: pending)) cs

end MapContext.Xml
