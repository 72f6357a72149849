import MapContext.Json.Numeral

/-!
# Reading JSON text

Text is read into a tree in document order. Containers may be nested 127 deep; a deeper one can
only be passed over.
-/

namespace MapContext.Json

/-- White space of JSON. -/
def isSpace (c : Char) : Bool :=
  c == ' ' || c == '\n' || c == '\t' || c == '\r'

/-- The text after leading white space. -/
def skipSpace (cs : List Char) : List Char :=
  cs.dropWhile isSpace

/-- A string as met by a reader. A string with half a surrogate pair has no text. -/
inductive Scanned where
  /-- Closed by its quote. -/
  | closed (s? : Option String) (rest : List Char)
  /-- Stopped by a problem, after a part with or without text. -/
  | stopped (readable : Bool) (p : Problem)

/-- The problem where four hexadecimal digits are missing: their place is four bytes long. -/
def missingHex (rest : List Char) : Problem :=
  if (String.ofList rest).utf8ByteSize < 4 then .endOfInput else .malformed

/-- A code that begins a surrogate pair. -/
def isHighHalf (n : Nat) : Bool := 0xD800 ≤ n && n < 0xDC00

/-- A code that ends a surrogate pair. -/
def isLowHalf (n : Nat) : Bool := 0xDC00 ≤ n && n < 0xE000

/-- The character of a surrogate pair. -/
def joinHalves (high low : Nat) : Char :=
  Char.ofNat (0x10000 + (high - 0xD800) * 0x400 + (low - 0xDC00))

/-- The character of an escape of two characters. -/
def shortEscape? (c : Char) : Option Char :=
  match c with
  | '"' => some '"'
  | '\\' => some '\\'
  | '/' => some '/'
  | 'b' => some '\x08'
  | 'f' => some '\x0c'
  | 'n' => some '\n'
  | 'r' => some '\r'
  | 't' => some '\t'
  | _ => none

/-- Reads a string after its opening quote; `done` holds the characters so far, last one first. -/
def readString (readable : Bool) (done : List Char) : List Char → Scanned
  | [] => .stopped readable .endOfInput
  | '"' :: rest =>
    .closed (if readable then some (String.ofList done.reverse) else none) rest
  | ['\\'] => .stopped readable .endOfInput
  | '\\' :: 'u' :: a :: b :: c :: d :: rest =>
    match Text.hexValue? [a, b, c, d] with
    | none => .stopped readable .malformed
    | some n =>
      if isLowHalf n then readString false done rest
      else if isHighHalf n then
        match rest with
        | '\\' :: 'u' :: e :: f :: g :: h :: more =>
          match Text.hexValue? [e, f, g, h] with
          | none => .stopped readable .malformed
          | some m =>
            if isLowHalf m then readString readable (joinHalves n m :: done) more
            else readString false done ('\\' :: 'u' :: e :: f :: g :: h :: more)
        | '\\' :: 'u' :: more => .stopped readable (missingHex more)
        | ['\\'] => .stopped readable .endOfInput
        | [] => .stopped readable .endOfInput
        | c :: more => readString false done (c :: more)
      else readString readable (Char.ofNat n :: done) rest
  | '\\' :: 'u' :: rest => .stopped readable (missingHex rest)
  | '\\' :: c :: rest =>
    match shortEscape? c with
    | some e => readString readable (e :: done) rest
    | none => .stopped readable .malformed
  | c :: rest =>
    if c.toNat < 0x20 then .stopped readable .malformed
    else readString readable (c :: done) rest

/-- A string as a tree. -/
def Scanned.step : Scanned → Step
  | .closed (some s) rest => (.text s, some rest)
  | .closed none rest => (.blocked .malformed .null, some rest)
  | .stopped true p => (.broken p, none)
  | .stopped false p => (.blocked .malformed (.broken p), none)

/-- Reads the rest of a fixed word. -/
def readWord (value : Tree) : List Char → List Char → Step
  | [], rest => (value, some rest)
  | _ :: _, [] => (.broken .endOfInput, none)
  | w :: ws, c :: cs => if w == c then readWord value ws cs else (.broken .malformed, none)

/-- A container at the given remaining depth. -/
def nested (room : Nat) (t : Tree) : Tree :=
  if room ≤ 1 then .blocked .malformed t else t

mutual

/-- Reads a value. -/
def readValue (fuel room : Nat) (cs : List Char) : Step :=
  match fuel with
  | 0 => (.broken .endOfInput, none)
  | fuel + 1 =>
    match skipSpace cs with
    | [] => (.broken .endOfInput, none)
    | '"' :: rest => (readString true [] rest).step
    | '[' :: rest =>
      let (items, ending, rest?) := readItems fuel (room - 1) true rest
      (nested room (.array items ending), rest?)
    | '{' :: rest =>
      let (members, ending, rest?) := readMembers fuel (room - 1) true rest
      (nested room (.object members ending), rest?)
    | 'n' :: rest => readWord .null ['u', 'l', 'l'] rest
    | 't' :: rest => readWord (.boolean true) ['r', 'u', 'e'] rest
    | 'f' :: rest => readWord (.boolean false) ['a', 'l', 's', 'e'] rest
    | '-' :: rest => readNumber true rest
    | c :: rest =>
      if c.isDigit then readNumber false (c :: rest) else (.broken .malformed, none)
termination_by structural fuel

/-- Reads the items of an array up to its end. -/
def readItems (fuel room : Nat) (first : Bool) (cs : List Char) :
    List Tree × ListEnding × Option (List Char) :=
  match fuel with
  | 0 => ([], .afterItem .endOfInput, none)
  | fuel + 1 =>
    let item (cs : List Char) : List Tree × ListEnding × Option (List Char) :=
      match readValue fuel room cs with
      | (t, none) => ([t], .closed, none)
      | (t, some rest) =>
        let (ts, ending, rest?) := readItems fuel room false rest
        (t :: ts, ending, rest?)
    match skipSpace cs with
    | [] => ([], .afterItem .endOfInput, none)
    | ']' :: rest => ([], .closed, some rest)
    | ',' :: rest =>
      if first then ([], .afterItem .malformed, none)
      else match skipSpace rest with
        | [] => ([], .afterComma .endOfInput, none)
        | ']' :: _ => ([], .afterComma .malformed, none)
        | more => item more
    | more => if first then item more else ([], .afterItem .malformed, none)
termination_by structural fuel

/-- Reads the members of an object up to its end. -/
def readMembers (fuel room : Nat) (first : Bool) (cs : List Char) :
    TreeMembers × Option Problem × Option (List Char) :=
  match fuel with
  | 0 => ([], some .endOfInput, none)
  | fuel + 1 =>
    let member (cs : List Char) : TreeMembers × Option Problem × Option (List Char) :=
      match readString true [] cs with
      | .stopped true p => ([], some p, none)
      | .stopped false p => ([(none, .broken p)], none, none)
      | .closed key rest =>
        match skipSpace rest with
        | [] => ([(key, .broken .endOfInput)], none, none)
        | ':' :: rest =>
          match readValue fuel room rest with
          | (t, none) => ([(key, t)], none, none)
          | (t, some rest) =>
            let (ms, ending, rest?) := readMembers fuel room false rest
            ((key, t) :: ms, ending, rest?)
        | _ => ([(key, .broken .malformed)], none, none)
    match skipSpace cs with
    | [] => ([], some .endOfInput, none)
    | '}' :: rest => ([], none, some rest)
    | ',' :: rest =>
      if first then ([], some .malformed, none)
      else match skipSpace rest with
        | [] => ([], some .endOfInput, none)
        | '"' :: more => member more
        | _ => ([], some .malformed, none)
    | '"' :: more => if first then member more else ([], some .malformed, none)
    | _ => ([], some .malformed, none)
termination_by structural fuel

end

/-- A text as a tree, and the problem of what follows the value. -/
def readText (s : String) : Tree × Option Problem :=
  let cs := s.toList
  match readValue (2 * cs.length + 3) 128 cs with
  | (t, none) => (t, none)
  | (t, some rest) => (t, if (skipSpace rest).isEmpty then none else some .malformed)

end MapContext.Json
