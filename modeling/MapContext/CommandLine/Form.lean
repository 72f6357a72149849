/-!
# Forms of arguments

A form names the words that a command needs and the options that it knows. Arguments are read from
left to right; what is missing or contradictory is noticed at the end.
-/

namespace MapContext.CommandLine

/-- Why arguments are no use of a form. -/
inductive Misuse where
  /-- Help is asked for. -/
  | help
  /-- There are no arguments. -/
  | nothing
  /-- There is no command. -/
  | missingCommand
  /-- There is no such command. -/
  | unknownCommand
  /-- A word is missing. -/
  | missingWord
  /-- There is no such option, or a word too many. -/
  | unknownArgument
  /-- An option is repeated, or it excludes another one. -/
  | conflict
  /-- An option that takes no value has one. -/
  | needlessValue
  /-- A value is missing or empty. -/
  | missingValue
  /-- A value is not among the possible ones. -/
  | rejectedValue
  deriving DecidableEq

/-- What a value may be. -/
inductive Kind where
  /-- Any text. -/
  | text
  /-- The path of a file, which is not empty. -/
  | path
  /-- A text that satisfies a test. -/
  | checked (accepts : String → Bool)

/-- Checks a value. -/
def Kind.check : Kind → String → Except Misuse Unit
  | .text, _ => .ok ()
  | .path, v => if v.isEmpty then .error .missingValue else .ok ()
  | .checked accepts, v => if accepts v then .ok () else .error .rejectedValue

/-- An option. -/
structure Parameter where
  /-- The name after two hyphens. -/
  name : String
  /-- The letter after one hyphen. -/
  letter : Option Char
  /-- What its value may be, if it takes one. -/
  takes : Option Kind

/-- The option that asks for help. -/
def help : Parameter := ⟨"help", some 'h', none⟩

/-- The words and options of a command. -/
structure Form where
  /-- The kinds of the words that are needed. -/
  words : List Kind
  /-- The options. -/
  parameters : List Parameter
  /-- Pairs of options that exclude each other. -/
  exclusive : List (String × String)

/-- What is read last and not yet checked. -/
inductive Pending where
  /-- A word. -/
  | word (kind : Kind) (text : String)
  /-- An option whose value is still missing or just read. -/
  | option (name : String) (kind : Kind) (value : Option String)

/-- What is read of arguments. -/
structure Progress where
  /-- The words. -/
  words : List String
  /-- The options with their values. -/
  given : List (String × Option String)
  /-- What is read last. -/
  pending : Option Pending

namespace Progress

/-- Nothing is read. -/
def start : Progress := ⟨[], [], none⟩

/-- Whether an option is given. -/
def has (p : Progress) (name : String) : Bool :=
  p.given.any (·.1 == name)

/-- The value of an option. -/
def value? (p : Progress) (name : String) : Option String :=
  (p.given.lookup name).bind id

/-- Adds an option, which may be given once. -/
def give (p : Progress) (name : String) (value : Option String) : Except Misuse Progress :=
  if p.has name then .error .conflict else .ok { p with given := p.given ++ [(name, value)] }

/-- Checks what is read last. -/
def settle (p : Progress) : Except Misuse Progress :=
  let done : Progress := { p with pending := none }
  match p.pending with
  | none => .ok p
  | some (.word kind text) => do
    kind.check text
    return { done with words := done.words ++ [text] }
  | some (.option _ _ none) => .error .missingValue
  | some (.option name kind (some value)) => do
    let next ← done.give name (some value)
    kind.check value
    return next

/-- Whether the next argument can be the value of an option. -/
def awaitsValue (p : Progress) : Bool :=
  match p.pending with
  | some (.option _ _ none) => true
  | _ => false

/-- Reads an argument as the awaited value. -/
def fill (p : Progress) (value : String) : Progress :=
  match p.pending with
  | some (.option name kind none) => { p with pending := some (.option name kind (some value)) }
  | _ => p

/-- Reads an option without a value of its own argument. -/
def take (p : Progress) (parameter : Parameter) (attached : Option String) :
    Except Misuse Progress :=
  match parameter.takes, attached with
  | none, some _ => .error .needlessValue
  | none, none => do
    let p ← p.settle
    if parameter.name = help.name then .error .help else p.give parameter.name none
  | some kind, some value => do
    let p ← p.settle
    let p ← p.give parameter.name (some value)
    kind.check value
    return p
  | some kind, none => do
    let p ← p.settle
    return { p with pending := some (.option parameter.name kind none) }

/-- Reads the letters after one hyphen; what follows the letter of an option with a value is its
value. -/
def takeLetters (parameters : List Parameter) (p : Progress) :
    List Char → Except Misuse Progress
  | [] => .ok p
  | c :: cs =>
    match parameters.find? (·.letter == some c) with
    | none => .error .unknownArgument
    | some parameter =>
      match parameter.takes with
      | none => do
        let p ← p.take parameter none
        takeLetters parameters p cs
      | some _ =>
        match cs with
        | [] => p.take parameter none
        | '=' :: value => p.take parameter (some (String.ofList value))
        | value => p.take parameter (some (String.ofList value))

/-- Reads a name after two hyphens; what follows an equals sign is its value. -/
def takeName (parameters : List Parameter) (p : Progress) (cs : List Char) :
    Except Misuse Progress :=
  let name := String.ofList (cs.takeWhile (· != '='))
  match parameters.find? (·.name == name) with
  | none => .error .unknownArgument
  | some parameter =>
    match cs.dropWhile (· != '=') with
    | [] => p.take parameter none
    | _ :: value => p.take parameter (some (String.ofList value))

/-- Reads an argument if it begins with a hyphen and goes on. -/
def takeOption? (parameters : List Parameter) (p : Progress) (argument : String) :
    Option (Except Misuse Progress) :=
  match argument.toList with
  | '-' :: '-' :: cs => some (p.takeName parameters cs)
  | '-' :: c :: cs => some (p.takeLetters parameters (c :: cs))
  | _ => none

end Progress

/-- Reads a word, if one more is needed. -/
def Form.takeWord (f : Form) (count : Nat) (p : Progress) (argument : String) :
    Except Misuse Progress :=
  match f.words[count]? with
  | none => .error .unknownArgument
  | some kind => do
    let p ← p.settle
    return { p with pending := some (.word kind argument) }

/-- Reads arguments after `count` words; after two hyphens alone all of them are words. -/
def Form.readFrom (f : Form) (onlyWords : Bool) (count : Nat) (p : Progress) :
    List String → Except Misuse Progress
  | [] => p.settle
  | a :: rest => do
    if !onlyWords && a == "--" then f.readFrom true count p rest
    else
      match if onlyWords then none else p.takeOption? f.parameters a with
      | some step => do
        let p ← step
        f.readFrom onlyWords count p rest
      | none =>
        if !onlyWords && p.awaitsValue then f.readFrom onlyWords count (p.fill a) rest
        else do
          let p ← f.takeWord count p a
          f.readFrom onlyWords (count + 1) p rest

/-- Reads the arguments of a command. -/
def Form.read (f : Form) (arguments : List String) : Except Misuse Progress := do
  let p ← f.readFrom false 0 .start arguments
  if f.exclusive.any fun (a, b) => p.has a && p.has b then .error .conflict
  else if p.words.length < f.words.length then .error .missingWord
  else return p

/-- The word that asks for help on commands. -/
def helpWord : String := "help"

/-- What is answered to a request for help on the given words. -/
def helpOn (commands : List String) : List String → Misuse
  | [] => .help
  | [name] => if (helpWord :: commands).contains name then .help else .unknownCommand
  | _ => .unknownCommand

/-- Reads the options before a command; gives the command and what follows it. -/
def readCommand (parameters : List Parameter) (commands : List String) (onlyWords : Bool)
    (p : Progress) : List String → Except Misuse (Progress × String × List String)
  | [] => do
    let p ← p.settle
    .error (if p.given.isEmpty then .nothing else .missingCommand)
  | a :: rest =>
    let isCommand := (helpWord :: commands).contains a
    if onlyWords then .error (if isCommand then .unknownArgument else .unknownCommand)
    else if isCommand && !p.awaitsValue then
      if a = helpWord then .error (helpOn commands rest)
      else do
        let p ← p.settle
        return (p, a, rest)
    else if a = "--" then readCommand parameters commands true p rest
    else
      match p.takeOption? parameters a with
      | some step => do
        let p ← step
        readCommand parameters commands false p rest
      | none =>
        if p.awaitsValue then readCommand parameters commands false (p.fill a) rest
        else .error .unknownCommand

end MapContext.CommandLine
