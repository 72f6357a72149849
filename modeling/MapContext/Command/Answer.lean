import MapContext.Command.Basic
import MapContext.Command.Failure
import MapContext.Context.Batch
import MapContext.Context.Forest
import MapContext.Context.Query
import MapContext.Resource.Json

/-!
# Answers to reports

What is printed about a context. No answer depends on anything but the context and the path of its
document.
-/

namespace MapContext

mutual

/-- A node with the nodes below it as JSON. -/
def Node.toJson : Node → Json.Value
  | .mk r ns => .object [("resource", r.toJson), ("children", .array (Node.allToJson ns))]
termination_by structural n => n

/-- Nodes as JSON. -/
def Node.allToJson : List Node → List Json.Value
  | [] => []
  | n :: ns => n.toJson :: Node.allToJson ns
termination_by structural ns => ns

end

/-- A batch as JSON. -/
def Batch.toJson (b : Batch) : Json.Value :=
  .object [("root", .text b.root), ("url", .text b.url.display), ("layers", .texts b.layers)]

/-- How a resource is marked: as active, as inactive above something active, or as inactive. -/
def Context.mark (c : Context) (r : Resource) : String :=
  if r.isActive then "[x]" else if c.isIndeterminate r then "[-]" else "[ ]"

/-- The line of a resource, indented by its depth. -/
def Context.line (c : Context) (r : Resource) : String :=
  String.ofList (List.replicate (2 * r.depth) ' ')
    ++ c.mark r ++ " " ++ r.folder.display ++ " " ++ r.title ++ " (" ++ r.id ++ ")"

/-- The lines of resources, without blanks at the end. -/
def Context.outline (c : Context) (rs : List Resource) : String :=
  Text.trimEnd (String.join (rs.map fun r => c.line r ++ "\n"))

/-- An operation on a context as part of a command. -/
def Failure.ofContext {α : Type} : Except Context.Error α → Except Failure α
  | .ok a => .ok a
  | .error e => .error (.context e)

/-- The answer to a report on a context. -/
def Report.answer (document : String) (c : Context) : Report → Except Failure String
  | .summary =>
    .ok (document ++ ": " ++ toString c.features.length ++ " resources in "
      ++ toString c.roots.length ++ " trees")
  | .tree json => do
    let nodes ← Failure.ofContext c.forest
    return if json then (Json.Value.array (Node.allToJson nodes)).pretty
      else c.outline (Node.flattenAll nodes)
  | .mapRequests json => do
    let batches ← Failure.ofContext c.batches
    return if json then (Json.Value.array (batches.map Batch.toJson)).pretty
      else "\n".intercalate (batches.map (·.url.display))
  | .referenceSystems false => .ok ("\n".intercalate c.crs)
  | .referenceSystems true =>
    match c.preferredCrs? with
    | some crs => .ok crs.code
    | none => .error .noPreferredCrs

end MapContext
