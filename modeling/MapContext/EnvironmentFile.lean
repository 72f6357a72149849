import MapContext.Text.LetterTable

/-!
# Files of variables

A file assigns values to variables, one assignment per line. Values may be quoted, may run over
several lines within quotes, and may refer to variables. The first malformed line ends the file.
-/

namespace MapContext.EnvironmentFile

/-! ## Lines -/

/-- Where a character stands in a line. -/
inductive Place where
  /-- Outside of quotes. -/
  | outside
  /-- After a blank. -/
  | afterBlank
  /-- After a backslash outside of quotes. -/
  | escaped
  /-- Within the given quotes. -/
  | within (quote : Char)
  /-- After a backslash within the given quotes. -/
  | escapedWithin (quote : Char)
  deriving DecidableEq

/-- The place after a character outside of quotes. -/
def Place.afterOutside (c : Char) : Place :=
  if c = '\\' then .escaped else if c = '"' || c = '\'' then .within c else .outside

/-- The place after a character. -/
def Place.after (c : Char) : Place → Place
  | .outside =>
    if Text.isBlank c && c != '\n' && c != '\r' then .afterBlank else afterOutside c
  | .afterBlank => afterOutside c
  | .escaped => .outside
  | .within quote =>
    if c = '\\' then .escapedWithin quote else if c = quote then .outside else .within quote
  | .escapedWithin quote => .within quote

/-- A line without its line break. -/
def withoutBreak (line : List Char) : List Char :=
  match line.reverse with
  | '\n' :: '\r' :: cs => cs.reverse
  | '\n' :: cs => cs.reverse
  | _ => line

/-- The lines of a file; a line that is not complete at the end is missing. A comment is dropped
with the rest of its line. -/
def lines (place : Place) (comment : Bool) (line : List Char) :
    List Char → List (Option (List Char))
  | [] =>
    if comment then [some line]
    else if line.isEmpty then []
    else if place = .outside then [some line]
    else [none]
  | c :: cs =>
    if comment then
      if c = '\n' then some line :: lines .outside false [] cs else lines place true line cs
    else if c = '#' && (line.all Text.isBlank && !line.contains '\n') then lines place true [] cs
    else if c = '#' && place = .afterBlank then lines place true line cs
    else
      let place := place.after c
      if c = '\n' && place = .outside then
        some (withoutBreak (line ++ [c])) :: lines .outside false [] cs
      else lines place false (line ++ [c]) cs

/-! ## Assignments -/

/-- A part of a value. -/
inductive Fragment where
  /-- A character. -/
  | char (c : Char)
  /-- The value of a variable. -/
  | reference (name : String)
  deriving DecidableEq

/-- An assignment to a variable. -/
structure Assignment where
  /-- The variable. -/
  name : String
  /-- The parts of its value. -/
  value : List Fragment
  deriving DecidableEq

/-- How characters of a value are read. -/
inductive Mode where
  /-- As they stand, outside of quotes or within double ones. -/
  | open (quoted : Bool)
  /-- After a backslash. -/
  | escaped (quoted : Bool)
  /-- Within single quotes. -/
  | literal
  /-- After the value. -/
  | ended
  /-- As the name of a variable. -/
  | name (quoted : Bool) (letters : List Char)
  /-- As the name of a variable within braces. -/
  | braced (quoted : Bool) (letters : List Char)

/-- A reference to the variable with the given name, of which the letters are reversed. -/
def reference (letters : List Char) : Fragment :=
  .reference (String.ofList letters.reverse)

/-- The fragments of a value; none if it is malformed. -/
def fragments : Mode → List Char → Option (List Fragment)
  | .open quoted, [] => if quoted then none else some []
  | .escaped quoted, [] => if quoted then none else some []
  | .literal, [] => none
  | .ended, [] => some []
  | .name quoted letters, [] => if quoted then none else some [reference letters]
  | .braced _ _, [] => none
  | .open quoted, c :: cs =>
    if c = '$' then fragments (.name quoted []) cs
    else if c = '\\' then fragments (.escaped quoted) cs
    else if c = '"' then fragments (.open (!quoted)) cs
    else if quoted then (fragments (.open quoted) cs).map (.char c :: ·)
    else if c = '\'' then fragments .literal cs
    else if c = ' ' || c = '\t' then fragments .ended cs
    else (fragments (.open quoted) cs).map (.char c :: ·)
  | .escaped quoted, c :: cs =>
    if ['\\', '\'', '"', '$', ' '].contains c then
      (fragments (.open quoted) cs).map (.char c :: ·)
    else if c = 'n' then (fragments (.open quoted) cs).map (.char '\n' :: ·)
    else none
  | .literal, c :: cs =>
    if c = '\'' then fragments (.open false) cs
    else (fragments .literal cs).map (.char c :: ·)
  | .ended, c :: cs =>
    if c = ' ' || c = '\t' then fragments .ended cs else if c = '#' then some [] else none
  | .name quoted letters, c :: cs =>
    if Text.isAlphanumeric c then fragments (.name quoted (c :: letters)) cs
    else if c = '\x7b' && letters.isEmpty then fragments (.braced quoted []) cs
    else if c = '$' then (fragments (.name quoted []) cs).map (reference letters :: ·)
    else (fragments (.open quoted) cs).map fun fs => reference letters :: .char c :: fs
  | .braced quoted letters, c :: cs =>
    if c = '\x7d' then (fragments (.open quoted) cs).map (reference letters :: ·)
    else fragments (.braced quoted (c :: letters)) cs

/-- The name at the beginning, and what follows it. -/
def name? (cs : List Char) : Option (String × List Char) :=
  match cs with
  | [] => none
  | c :: _ =>
    if c.isAlpha || c = '_' then
      let inName (d : Char) : Bool := d.isAlphanum || d == '_' || d == '.'
      some (String.ofList (cs.takeWhile inName), cs.dropWhile inName)
    else none

/-- The characters after an equals sign. -/
def afterEquals? : List Char → Option (List Char)
  | '=' :: cs => some cs
  | _ => none

/-- The characters without blanks before them. -/
def skipBlanks (cs : List Char) : List Char := cs.dropWhile Text.isBlank

/-- The assigned name, and what follows the equals sign. The word `export` may stand before the
name. -/
def target? (cs : List Char) : Option (String × List Char) := do
  let (name, rest) ← name? cs
  let rest := skipBlanks rest
  match afterEquals? rest with
  | some value => some (name, value)
  | none =>
    if name = "export" then
      let (name, rest) ← name? rest
      (afterEquals? (skipBlanks rest)).map (name, ·)
    else none

/-- Whether nothing or only a comment follows. -/
def isVacant (cs : List Char) : Bool :=
  cs.isEmpty || cs.head? == some '#'

/-- The assignment of a line: nothing for an empty line, none for a malformed one. -/
def assignment? (line : List Char) : Option (Option Assignment) :=
  let line := Text.trimBoth Text.isBlank line
  if isVacant line then some none
  else
    (target? line).bind fun (name, rest) =>
      let rest := skipBlanks rest
      if isVacant rest then some (some ⟨name, []⟩)
      else (fragments (.open false) rest).map fun value => some ⟨name, value⟩

/-- The assignments of lines up to the first malformed one. -/
def assignmentsOf : List (Option (List Char)) → List Assignment
  | [] => []
  | none :: _ => []
  | some line :: rest =>
    match assignment? line with
    | none => []
    | some none => assignmentsOf rest
    | some (some a) => a :: assignmentsOf rest

/-- The assignments of a file. -/
def read (text : String) : List Assignment :=
  let cs := text.toList
  let cs := if cs.head? == some '\uFEFF' then cs.tail else cs
  assignmentsOf (lines .outside false [] cs)

/-! ## Values -/

/-- Values of variables. -/
abbrev Variables := List (String × String)

/-- The value of fragments; a variable without a value is empty. -/
def valueOf (known : Variables) (fs : List Fragment) : String :=
  String.join <| fs.map fun
    | .char c => c.toString
    | .reference name => (known.lookup name).getD ""

/-- Assigns values, except to variables that have one. -/
def assign (known : Variables) : List Assignment → Variables
  | [] => known
  | a :: rest =>
    let known :=
      match known.lookup a.name with
      | some _ => known
      | none => known ++ [(a.name, valueOf known a.value)]
    assign known rest

/-- The variables that assignments mention. -/
def mentioned (as : List Assignment) : List String :=
  as.flatMap fun a =>
    a.name :: a.value.filterMap fun
      | .reference name => some name
      | .char _ => none

end MapContext.EnvironmentFile
