import MapContext.Url.Basic
import MapContext.Url.Domain

/-!
# Reading addresses

Text is read as web browsers read it: controls and blanks at its ends, tabs and line breaks are
passed over, backslashes count as slashes where hosts are addressed, dots in paths are resolved,
and characters that may not stand in a part are encoded.
-/

namespace MapContext.Url

/-- Cuts before the first character that satisfies `p`. -/
def cutBefore (p : Char → Bool) (cs : List Char) : List Char × List Char :=
  (cs.takeWhile (! p ·), cs.dropWhile (! p ·))

/-- The text that counts: without controls and blanks at the ends, without tabs and line breaks. -/
def clean (text : String) : List Char :=
  (Text.trimBoth (·.toNat ≤ 0x20) text.toList).filter fun c =>
    c != '\t' && c != '\n' && c != '\r'

/-- The scheme in small letters, and the text after its colon. -/
def readScheme? (cs : List Char) : Option (String × List Char) :=
  let isPart (c : Char) : Bool := c.isAlphanum || c == '+' || c == '-' || c == '.'
  match cs.head?, cs.dropWhile isPart with
  | some first, ':' :: rest =>
    if first.isAlpha then
      some (String.ofList ((cs.takeWhile isPart).map Char.toLower), rest)
    else none
  | _, _ => none

/-- A slash, or a backslash where it counts as one. -/
def isSlash (special : Bool) (c : Char) : Bool := c == '/' || (special && c == '\\')

/-- The end of the authority. -/
def endsAuthority (special : Bool) (c : Char) : Bool :=
  isSlash special c || c == '?' || c == '#'

/-- User name, password and the text after them. -/
def readUserInfo (special : Bool) (cs : List Char) :
    Except Error (String × String × List Char) :=
  let authority := cs.takeWhile (! endsAuthority special ·)
  if authority.contains '@' then
    let host := (authority.reverse.takeWhile (· != '@')).reverse
    let info := authority.take (authority.length - host.length - 1)
    let rest := cs.drop (info.length + 1)
    if info.isEmpty && !rest.isEmpty && host.isEmpty then .error .emptyHost
    else
      let (username, password) := cutBefore (· == ':') info
      let text (cs : List Char) : String := String.ofList (encode inUserInfo cs)
      .ok (text username, text (password.drop 1), rest)
  else .ok ("", "", cs)

/-- The host up to a colon outside of brackets. -/
def cutHost (special inBrackets : Bool) : List Char → List Char × List Char
  | [] => ([], [])
  | c :: cs =>
    if (c == ':' && !inBrackets) || endsAuthority special c then ([], c :: cs)
    else
      let inside := if c == '[' then true else if c == ']' then false else inBrackets
      let (host, rest) := cutHost special inside cs
      (c :: host, rest)

/-- An address of version 6 in brackets. -/
def readBrackets (cs : List Char) : Except Error Host :=
  if cs.getLast? == some ']' then
    match ipv6? (cs.drop 1).dropLast with
    | some pieces => .ok (.ipv6 pieces)
    | none => .error .badIpv6
  else .error .badIpv6

/-- A host of a special scheme: an address or a domain name. -/
def readSpecialHost (cs : List Char) : Except Error Host :=
  if cs.head? == some '[' then readBrackets cs
  else
    match domainToAscii? (decodeBytes cs) with
    | none => .error .badDomain
    | some [] => .error .emptyHost
    | some name =>
      if endsInNumber name then
        match ipv4? name with
        | some address => .ok (.ipv4 address)
        | none => .error .badIpv4
      else .ok (.name (String.ofList name))

/-- A host of another scheme, which is kept as it is. -/
def readPlainHost (cs : List Char) : Except Error Host :=
  if cs.head? == some '[' then readBrackets cs
  else if cs.any fun c =>
      ['\x00', '\t', '\n', '\r', ' ', '#', '/', ':', '<', '>', '?', '@', '[', '\\', ']', '^',
        '|'].contains c then
    .error .badHostCharacter
  else .ok (.name (String.ofList (encode isControl cs)))

/-- A socket number after its colon, and the text after it. -/
def readPortNumber (scheme : String) (cs : List Char) :
    Except Error (Option Nat × List Char) :=
  let digits := cs.takeWhile Char.isDigit
  let rest := cs.dropWhile Char.isDigit
  let n := Text.digitsValue digits
  if 65535 < n || !(rest.isEmpty || rest.head?.any (['/', '\\', '?', '#'].contains ·)) then
    .error .badPortNumber
  else if digits.isEmpty || usualNumbers.lookup scheme == some n then .ok (none, rest)
  else .ok (some n, rest)

/-- The authority after its slashes, and the text after it. -/
def readAuthority (scheme : String) (cs : List Char) :
    Except Error (Authority × List Char) := do
  let special := isSpecial scheme
  let (username, password, cs) ← readUserInfo special cs
  let (name, rest) := cutHost special false cs
  if name.isEmpty && (special || rest.head? == some ':') then .error .emptyHost
  else
    let host ← if special then readSpecialHost name else readPlainHost name
    if host = .name "" && !(username.isEmpty && password.isEmpty) then .error .emptyHost
    else
      let (portNumber, rest) ←
        match rest with
        | ':' :: more => readPortNumber scheme more
        | _ => pure (none, rest)
      return (⟨username, password, host, portNumber⟩, rest)

/-- Segments that stay where they are. -/
def isSingleDot (segment : List Char) : Bool :=
  [".", "%2e"].contains (String.ofList (segment.map Char.toLower))

/-- Segments that go up. -/
def isDoubleDot (segment : List Char) : Bool :=
  ["..", "%2e.", ".%2e", "%2e%2e"].contains (String.ofList (segment.map Char.toLower))

/-- A letter and a colon or bar, which name a drive. -/
def isDrive (segment : List Char) : Bool :=
  match segment with
  | [c, d] => c.isAlpha && (d == ':' || d == '|')
  | _ => false

/-- Whether text begins with a drive that ends there or before a mark. -/
def beginsWithDrive (cs : List Char) : Bool :=
  isDrive (cs.take 2) && (cs.drop 2).head?.all ['/', '\\', '?', '#'].contains

/-- The path without its last segment; the segments before a slash each, last one first. The first
segment stays, and so does one that begins with a drive. -/
def goUp : List (List Char) → List (List Char)
  | last :: before =>
    if before.isEmpty || beginsWithDrive (last ++ ['/']) then last :: before else before
  | [] => []

/-- The text of segments before a slash each, last one first. -/
def closedText (done : List (List Char)) : List Char :=
  done.reverse.flatMap (· ++ ['/'])

/-- A path, and whether it leads to a drive. -/
structure PathReading where
  /-- The text of the path. -/
  text : List Char
  /-- Whether its first segment is a drive of a file path. -/
  onDrive : Bool

/-- Adds raw segments to those before a slash each, last one first. Dots are resolved, and a bar
after the letter of the first drive becomes a colon. -/
def resolve (file onDrive : Bool) (done : List (List Char)) : List (List Char) → PathReading
  | [] => ⟨closedText done, onDrive⟩
  | segment :: rest =>
    if isDoubleDot segment then resolve file onDrive (goUp done) rest
    else if isSingleDot segment then resolve file onDrive done rest
    else
      let atDrive := file && done.length == 1 && isDrive segment
      let segment := if atDrive then segment.take 1 ++ [':'] else segment
      if rest.isEmpty then ⟨closedText done ++ segment, onDrive || atDrive⟩
      else resolve file (onDrive || atDrive) (segment :: done) rest

/-- The path of text after its leading slash. File paths have one leading slash. -/
def pathOf (scheme : String) (cs : List Char) : PathReading :=
  let file := scheme == "file"
  let raw := (Text.pieces (isSlash (isSpecial scheme)) cs).map (encode inPath)
  let r := resolve file false [[]] raw
  if file then { r with text := '/' :: r.text.dropWhile (· == '/') } else r

/-- Text without the slash that it begins with. -/
def dropSlash (special : Bool) (cs : List Char) : List Char :=
  match cs with
  | c :: rest => if isSlash special c then rest else c :: rest
  | [] => []

/-- The path of an address with an authority. -/
def readPath (scheme : String) (cs : List Char) : String :=
  if cs.isEmpty && !isSpecial scheme then ""
  else String.ofList (pathOf scheme (dropSlash (isSpecial scheme) cs)).text

/-- Adds query and fragment. -/
def withEnding (u : Url) (cs : List Char) : Url :=
  let (before, after) := cutBefore (· == '#') cs
  let mustEncode := if isSpecial u.scheme then inWebQuery else inQuery
  let query :=
    match before with
    | [] => none
    | _ :: query => some (String.ofList (encode mustEncode query))
  let fragment :=
    match after with
    | [] => none
    | _ :: fragment => some (String.ofList (encode inFragment fragment))
  { u with query, fragment }

/-- An address whose path begins here. -/
def withPath (scheme : String) (authority : Option Authority) (cs : List Char) : Url :=
  let (path, ending) := cutBefore (fun c => c == '?' || c == '#') cs
  withEnding ⟨scheme, authority, readPath scheme path, none, none⟩ ending

/-- The address of a file on a host, whose path is the text after its leading slash. A drive is
always one of the own machine. -/
def fileOn (host : Host) (cs : List Char) : Url :=
  let (path, ending) := cutBefore (fun c => c == '?' || c == '#') cs
  let r := pathOf "file" path
  let host := if r.onDrive || host = .name "localhost" then .name "" else host
  withEnding ⟨"file", some ⟨"", "", host, none⟩, String.ofList r.text, none, none⟩ ending

/-- The address of a file after its scheme. The path of a file of the own machine begins with the
slash after the empty host, which is part of it. -/
def readFile (cs : List Char) : Except Error Url :=
  match cs with
  | a :: b :: rest =>
    if isSlash true a && isSlash true b then
      let name := rest.takeWhile (! endsAuthority true ·)
      if name.isEmpty || isDrive name then .ok (fileOn (.name "") rest)
      else do
        let host ← readSpecialHost name
        let path := rest.drop name.length
        return fileOn host (if host = .name "localhost" then path else dropSlash true path)
    else .ok (fileOn (.name "") (dropSlash true cs))
  | cs => .ok (fileOn (.name "") (dropSlash true cs))

/-- The address after its scheme. -/
def readAfterScheme (scheme : String) (cs : List Char) : Except Error Url :=
  if scheme = "file" then readFile cs
  else if isSpecial scheme then do
    let (authority, rest) ← readAuthority scheme (cs.dropWhile (isSlash true))
    return withPath scheme (some authority) rest
  else
    match cs with
    | '/' :: '/' :: rest => do
      let (authority, rest) ← readAuthority scheme rest
      return withPath scheme (some authority) rest
    | '/' :: _ => .ok (withPath scheme none cs)
    | _ =>
      let (path, ending) := cutBefore (fun c => c == '?' || c == '#') cs
      .ok (withEnding ⟨scheme, none, String.ofList (encode isControl path), none, none⟩ ending)

/-- Reads an address. -/
def read (text : String) : Except Error Url :=
  match readScheme? (clean text) with
  | some (scheme, rest) => readAfterScheme scheme rest
  | none => .error .noScheme

end MapContext.Url
