import MapContext.Text.Utf8
import MapContext.Yaml.Spot

/-!
# Tags and directives of YAML text

A tag is written in full, or with a handle that stands for its beginning. Directives before a
document say which handles there are.
-/

namespace MapContext.Yaml

/-! ## Addresses -/

/-- The number of bytes after the first byte of a character. -/
def bytesAfter? (byte : Nat) : Option Nat :=
  if byte < 0x80 then some 0
  else if byte / 0x20 = 0b110 then some 1
  else if byte / 0x10 = 0b1110 then some 2
  else if byte / 0x8 = 0b11110 then some 3
  else none

/-- Whether a character of an address stands for itself. Commas and brackets do so only where the
address is delimited. -/
def isAddressChar (delimited : Bool) (c : Char) : Bool :=
  isWordChar c
    || [';', '/', '?', ':', '@', '&', '=', '+', '$', '.', '!', '~', '*', '\'', '(', ')'].contains c
    || (delimited && [',', '[', ']'].contains c)

/-- The bytes of an address and the text after it. A percent sign and two digits stand for a byte;
of a character that is begun in this way, `owed` bytes are missing. -/
def address? (delimited : Bool) (owed : Nat) : List Spot → Option (List UInt8 × List Spot)
  | p :: a :: b :: rest =>
    if p.char = '%' then do
      let byte ← Text.hexValue? [a.char, b.char]
      let owed ← if owed = 0 then bytesAfter? byte
        else if byte / 0x40 = 0b10 then some (owed - 1) else none
      let (more, rest) ← address? delimited owed rest
      return (byte.toUInt8 :: more, rest)
    else if owed ≠ 0 then none
    else if isAddressChar delimited p.char then
      (address? delimited 0 (a :: b :: rest)).map fun (more, rest) =>
        (p.char.toNat.toUInt8 :: more, rest)
    else some ([], p :: a :: b :: rest)
  | p :: rest =>
    if p.char = '%' || owed ≠ 0 then none
    else if isAddressChar delimited p.char then
      (address? delimited 0 rest).map fun (more, rest) => (p.char.toNat.toUInt8 :: more, rest)
    else some ([], p :: rest)
  | [] => if owed = 0 then some ([], []) else none

/-- The text of bytes, which a zero byte ends. -/
def addressText (bytes : List UInt8) : String :=
  Text.ofUtf8 (bytes.takeWhile (· != 0))

/-! ## Tags -/

/-- A tag as it is written: the text of its handle, and the text after that. A tag without a
handle is complete. -/
structure WrittenTag where
  /-- The handle with its marks. -/
  handle : String
  /-- The text after the handle. -/
  suffix : String
  deriving DecidableEq

/-- The word between exclamation marks, or after one of them, and the text after it. -/
structure HandleReading where
  /-- The characters of the word. -/
  word : List Char
  /-- Whether a second mark stands after it. -/
  closed : Bool
  /-- What comes after it. -/
  rest : List Spot

/-- Reads a handle after its first exclamation mark. -/
def handle (s : List Spot) : HandleReading :=
  let (word, rest) := splitAt (! isWordChar ·) s
  if nextChar rest = '!' then ⟨chars word, true, rest.drop 1⟩ else ⟨chars word, false, rest⟩

/-- The text of a handle with two marks. -/
def HandleReading.text (h : HandleReading) : String :=
  String.ofList ('!' :: h.word ++ ['!'])

/-- A tag after its exclamation mark, and what comes after it. -/
def tag? (s : List Spot) : Option (WrittenTag × List Spot) := do
  if nextChar s = '<' then
    let (bytes, rest) ← address? true 0 (s.drop 1)
    if bytes.isEmpty || nextChar rest != '>' then none
    else return (⟨"", addressText bytes⟩, rest.drop 1)
  else
    let h := handle s
    let (bytes, rest) ← address? false 0 h.rest
    if h.closed then
      if bytes.isEmpty then none else return (⟨h.text, addressText bytes⟩, rest)
    else
      let suffix := String.ofList h.word ++ addressText bytes
      return (if suffix.isEmpty then ⟨"", "!"⟩ else ⟨"!", suffix⟩, rest)

/-- The handles that need no directive. -/
def usualHandles : List (String × String) :=
  [("!", "!"), ("!!", "tag:yaml.org,2002:")]

/-- The full text of a tag; its handle has to be known. -/
def WrittenTag.full? (t : WrittenTag) (handles : List (String × String)) : Option String :=
  if t.handle.isEmpty then some t.suffix
  else (handles.lookup t.handle).map (· ++ t.suffix)

/-! ## Directives -/

/-- What a line with a percent sign says. -/
inductive Directive where
  /-- The version of the document. -/
  | version
  /-- What a handle stands for. -/
  | handle (text meaning : String)
  deriving DecidableEq

/-- A number of at most nine digits, and what comes after it. -/
def versionNumber? (s : List Spot) : Option (Nat × List Spot) :=
  let (digits, rest) := splitAt (! ·.isDigit) s
  if digits.isEmpty || 9 < digits.length then none
  else some (Text.digitsValue (chars digits), rest)

/-- A version, which has to be a known one. -/
def version? (s : List Spot) : Option (Directive × List Spot) := do
  let (major, rest) ← versionNumber? s
  if nextChar rest != '.' then none
  else
    let (minor, rest) ← versionNumber? (rest.drop 1)
    if major = 1 && (minor = 1 || minor = 2) then return (.version, rest) else none

/-- A handle and what it stands for. -/
def handleMeaning? (s : List Spot) : Option (Directive × List Spot) := do
  if nextChar s != '!' then none
  else
    let h := handle (s.drop 1)
    if (!h.closed && !h.word.isEmpty) || !isSpace (nextChar h.rest) then none
    else
      let (bytes, rest) ← address? true 0 (h.rest.dropWhile (isSpace ·.char))
      if bytes.isEmpty || !endsWord (nextChar rest) then none
      else return (.handle (if h.closed then h.text else "!") (addressText bytes), rest)

/-- A directive after its percent sign, and the lines after it. -/
def directive? (s : List Spot) : Option (Directive × List Spot) := do
  let (name, rest) := splitAt (! isWordChar ·) s
  if !endsWord (nextChar rest) then none
  else
    let rest := rest.dropWhile (isSpace ·.char)
    let (directive, rest) ←
      match String.ofList (chars name) with
      | "YAML" => version? rest
      | "TAG" => handleMeaning? rest
      | _ => none
    return (directive, ← restOfLine? rest)

end MapContext.Yaml
