import MapContext.Command.Reading
import MapContext.Command.Run
import MapContext.EnvironmentFile

/-!
# The program

A run takes its settings from a file, from variables and from its arguments, in this order, and
then runs the command that the arguments name.
-/

namespace MapContext.Program

open CommandLine

/-- What the arguments of the program say. -/
structure Invocation where
  /-- The path of a settings file. -/
  settingsFile : Option String
  /-- The least important level that is logged. -/
  logLevel : Option String
  /-- Whether log lines are JSON. -/
  logJson : Bool
  /-- The command. -/
  command : Command
  deriving DecidableEq

/-- The options that stand before or after the name of a command. -/
def globals : List Parameter :=
  [⟨"config", some 'c', some .path⟩, ⟨"log-level", none, some .text⟩, ⟨"log-json", none, none⟩]

/-- Reads the arguments of the program. An option after the name of the command wins over the same
one before it. -/
def Invocation.read (arguments : List String) : Except Misuse Invocation := do
  let (before, name, rest) ←
    readCommand (globals ++ [help]) Command.names false .start arguments
  let (after, command) ← Command.readNamed globals name rest
  let value? (option : String) : Option String := (after.value? option).or (before.value? option)
  return {
    settingsFile := value? "config"
    logLevel := value? "log-level"
    logJson := before.has "log-json" || after.has "log-json"
    command }

/-- How a run ends. -/
inductive Outcome where
  /-- With something to print. -/
  | done (text : String)
  /-- With a failure. -/
  | failed (f : Failure)
  /-- Without a command. -/
  | misused (u : Misuse)
  deriving DecidableEq

/-- The exit code of a run. -/
def Outcome.exitCode : Outcome → Nat
  | .done _ => 0
  | .failed _ => 1
  | .misused .help => 0
  | .misused _ => 2

/-- What a run prints; help aside, a misuse prints nothing here. -/
def Outcome.printed : Outcome → String
  | .done text => if text.isEmpty then "" else text ++ "\n"
  | _ => ""

/-- The file with variables that are not set otherwise. -/
def variableFile : String := ".env"

variable {m : Type → Type} [Monad m]

/-- The values of variables that are set. -/
def setVariables (host : Host m) : List String → m EnvironmentFile.Variables
  | [] => pure []
  | name :: rest => do
    let value ← host.getVariable name
    let more ← setVariables host rest
    return (value.map (name, ·)).toList ++ more

/-- The variables of a run: those that are set, and others from a file. -/
def environment (host : Host m) : m EnvironmentFile.Variables := do
  let assignments :=
    match ← host.read variableFile with
    | .ok text => EnvironmentFile.read text
    | .error _ => []
  let known ← setVariables host (Settings.variableNames ++ EnvironmentFile.mentioned assignments)
  return EnvironmentFile.assign known assignments

/-- The settings of a file, or the defaults without one. -/
def fileSettings (host : Host m) : Option String → ExceptT Failure m Settings
  | none => return {}
  | some path => do
    match ← host.read path with
    | .error fault => throw (.unusableSettings path (some fault))
    | .ok text =>
      match Settings.read? text with
      | some s => return s
      | none => throw (.unusableSettings path none)

/-- A check of settings as part of a run. -/
def checked {α : Type} : Except Settings.BadValue α → Except Failure α
  | .ok a => .ok a
  | .error b => .error (.badSetting b)

/-- The valid settings of a run. -/
def settings (host : Host m) (environment : EnvironmentFile.Variables) (i : Invocation) :
    ExceptT Failure m Settings := do
  let s ← fileSettings host i.settingsFile
  let s ← checked (s.override fun name => environment.lookup name)
  let s := { s with logLevel := i.logLevel.getD s.logLevel, logJson := i.logJson || s.logJson }
  checked s.validate
  return s

/-- Runs what the arguments say. -/
def Invocation.run (host : Host m) (fresh : Nat → Resource.Id)
    (environment : EnvironmentFile.Variables) (i : Invocation) : ExceptT Failure m String := do
  let s ← settings host environment i
  i.command.run host s fresh

/-- A run of the program. -/
def run (host : Host m) (fresh : Nat → Resource.Id) (arguments : List String) : m Outcome := do
  let environment ← environment host
  match Invocation.read arguments with
  | .error u => return .misused u
  | .ok i =>
    match ← (i.run host fresh environment).run with
    | .ok text => return .done text
    | .error f => return .failed f

end MapContext.Program
