import MapContext.Command.Basic
import MapContext.CommandLine.Form

/-!
# Commands from arguments

Every command has a name and a form. The words and options that are read by the form make the
command.
-/

namespace MapContext.Command

open CommandLine

/-- A position. -/
def positionKind : Kind := .checked fun s => (Position.read? s).isSome

/-- The options that say where an edited context goes. -/
def outputParameters : List Parameter :=
  [⟨"output", some 'o', some .path⟩, ⟨"in-place", none, none⟩]

/-- The form of a report. -/
def reportForm (parameters : List Parameter) : Form :=
  ⟨[.path], parameters, []⟩

/-- The form of an edit that needs one more word. -/
def editForm (parameters : List Parameter) : Form :=
  ⟨[.path, .text], parameters ++ outputParameters, [("output", "in-place")]⟩

/-- The options that place a resource. -/
def placeParameters : List Parameter :=
  [⟨"target", some 't', some .text⟩, ⟨"position", some 'p', some positionKind⟩]

/-- The names of commands with their forms. -/
def forms : List (String × Form) :=
  [("validate", reportForm []),
   ("tree", reportForm [⟨"json", none, none⟩]),
   ("move", editForm placeParameters),
   ("insert", editForm (⟨"id", none, some .text⟩ :: placeParameters)),
   ("remove", editForm []),
   ("activate", editForm [⟨"off", none, none⟩]),
   ("getmap-urls", reportForm [⟨"json", none, none⟩]),
   ("append-wms", editForm [⟨"href", none, some .text⟩]),
   ("crs", reportForm [⟨"preferred", none, none⟩])]

/-- The names of commands. -/
def names : List String := forms.map (·.1)

/-- Where an edited context goes. -/
def destinationOf (p : Progress) : Destination :=
  match p.value? "output" with
  | some path => .file path
  | none => if p.has "in-place" then .inPlace else .output

/-- The position that is given, or another one. -/
def positionOf (p : Progress) (otherwise : Position) : Position :=
  ((p.value? "position").bind Position.read?).getD otherwise

/-- The report of a name. -/
def reportOf (name : String) (p : Progress) : Report :=
  match name with
  | "tree" => .tree (p.has "json")
  | "getmap-urls" => .mapRequests (p.has "json")
  | "crs" => .referenceSystems (p.has "preferred")
  | _ => .summary

/-- The edit of a name with its second word. -/
def editOf (name word : String) (p : Progress) : Edit :=
  match name with
  | "move" => .move word (p.value? "target") (positionOf p .right)
  | "insert" => .insert word (p.value? "id") (p.value? "target") (positionOf p .lastChild)
  | "remove" => .remove word
  | "activate" => .activate word (!p.has "off")
  | _ => .append word (p.value? "href")

/-- The command of a name with what is read by its form. -/
def ofProgress (name : String) (p : Progress) : Except Misuse Command :=
  match p.words with
  | [document] => .ok (.report document (reportOf name p))
  | [document, word] => .ok (.edit document (editOf name word p) (destinationOf p))
  | _ => .error .missingWord

/-- Reads the arguments after the name of a command. Options beside its own ones may stand among
them. -/
def readNamed (beside : List Parameter) (name : String) (arguments : List String) :
    Except Misuse (Progress × Command) :=
  match forms.lookup name with
  | none => .error .unknownCommand
  | some f => do
    let p ← { f with parameters := f.parameters ++ beside ++ [help] }.read arguments
    let c ← ofProgress name p
    return (p, c)

/-- Reads a command with its arguments. -/
def read (arguments : List String) : Except Misuse Command := do
  let (_, name, rest) ← readCommand [help] names false .start arguments
  let (_, c) ← readNamed [] name rest
  return c

end MapContext.Command
