import MapContext.Program
import MapContext.Resource.Generated

/-!
# The command line

Runs the program on the machine: with its files, its variables and random identifiers. There is no
network; services are never reached.
-/

namespace MapContext.Machine

/-- The fault of a failed access. The system numbers a directory at the place of a file 21, and a
malformed argument 22. -/
def fault : IO.Error → FileFault
  | .noFileOrDirectory .. => .notFound
  | .permissionDenied .. => .denied
  | .inappropriateType _ code _ => if code = 21 then .isDirectory else .notDirectory
  | .invalidArgument _ code _ => if code = 22 then .invalidName else .nameTooLong
  | .userError _ => .notText
  | _ => .other

/-- Tries an access to a file. -/
def attempt {α : Type} (access : IO α) : IO (Except FileFault α) := do
  try
    return .ok (← access)
  catch e =>
    return .error (fault e)

/-- The machine as surroundings. -/
def host : Host IO where
  read path := attempt (IO.FS.readFile path)
  write path text := attempt (IO.FS.writeFile path text)
  getVariable name := IO.getEnv name
  send _ := pure .unreachable

/-- A random number. -/
def randomSeed : IO Nat := do
  let bytes ← IO.getRandomBytes 16
  return bytes.toList.foldl (fun n b => 256 * n + b.toNat) 0

/-- What is said about the use of the program. -/
def usage : String :=
  "Usage: owc [OPTIONS] <COMMAND>\n\nCommands: " ++ ", ".intercalate Command.names

end MapContext.Machine

open MapContext in
/-- Runs the program with the given arguments. -/
def main (arguments : List String) : IO UInt32 := do
  let seed ← Machine.randomSeed
  let outcome ← Program.run Machine.host (Resource.Id.supply seed) arguments
  IO.print outcome.printed
  match outcome with
  | .done _ => pure ()
  | .failed f => IO.eprintln ("Error: " ++ f.message)
  | .misused .help => IO.println Machine.usage
  | .misused _ => IO.eprintln Machine.usage
  return outcome.exitCode.toUInt32
