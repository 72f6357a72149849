import MapContext.Xml.Entity
import MapContext.Xml.Event

/-!
# Reading XML

Text is trimmed at both ends and kept if something is left. End tags must match. Markup that the
document ends in is read as if it were closed; elements may be left open.
-/

namespace MapContext.Xml

/-- White space of XML. -/
def isSpace (c : Char) : Bool :=
  c == ' ' || c == '\t' || c == '\r' || c == '\n'

/-- Reads attributes; `names` are those met before. The fuel is the length of the text. -/
def readAttributes (names : List (List Char)) (fuel : Nat) (cs : List Char) :
    List Attribute × Option Defect :=
  match fuel, cs.dropWhile isSpace with
  | 0, _ => ([], none)
  | _, [] => ([], none)
  | fuel + 1, c :: cs =>
    let inName (c : Char) : Bool := c != '=' && !isSpace c
    let name := c :: cs.takeWhile inName
    match (cs.dropWhile inName).dropWhile isSpace with
    | '=' :: rest =>
      if names.contains name then ([], some .duplicate)
      else match rest.dropWhile isSpace with
        | [] => ([], some .missingValue)
        | quote :: body =>
          if quote != '"' && quote != '\'' then ([], some .unquoted)
          else match body.dropWhile (· != quote) with
            | [] => ([], some .unclosed)
            | _ :: rest =>
              let value := (unescape none (body.takeWhile (· != quote))).map String.ofList
              let (more, defect) := readAttributes (name :: names) fuel rest
              (⟨String.ofList name, value⟩ :: more, defect)
    | _ => ([], some .missingValue)

/-- The tag between its brackets, without the slash of an empty element. -/
def readTag (cs : List Char) : Tag :=
  let rest := cs.dropWhile fun c => !isSpace c
  let (attributes, defect) := readAttributes [] rest.length rest
  ⟨String.ofList (cs.takeWhile fun c => !isSpace c), attributes, defect⟩

/-- Cuts at the first closing bracket outside of quotes; the bracket is dropped. -/
def cutTag : Option Char → List Char → List Char × List Char
  | _, [] => ([], [])
  | none, c :: cs =>
    if c = '>' then ([], cs)
    else
      let quote := if c == '"' || c == '\'' then some c else none
      let (inside, rest) := cutTag quote cs
      (c :: inside, rest)
  | some quote, c :: cs =>
    let (inside, rest) := cutTag (if c = quote then none else some quote) cs
    (c :: inside, rest)

/-- Cuts at the first closing bracket before which the text, last character first, is complete;
the bracket is dropped. -/
def cutWhen? (complete : List Char → Bool) (done : List Char) :
    List Char → Option (List Char × List Char)
  | [] => none
  | c :: cs =>
    if c = '>' && complete done then some (done.reverse, cs)
    else cutWhen? complete (c :: done) cs

/-- What markup after `<!` gives: an optional event and the text after it. -/
abbrev Declared := Except Fault (Option Event × List Char)

/-- A character section. -/
def readSection (cs : List Char) : Declared :=
  match cutWhen? (fun done => [']', ']'].isPrefixOf done) [] cs with
  | none => .error .unexpectedEnd
  | some (inside, rest) =>
    if (inside.take 7).map Char.toLower == "[cdata[".toList then
      .ok (some (.characters (String.ofList ((inside.drop 7).dropLast.dropLast))), rest)
    else .error .unexpectedEnd

/-- A comment. -/
def readComment (cs : List Char) : Declared :=
  match cutWhen? (fun done => ['-', '-'].isPrefixOf done && 4 ≤ done.length) [] cs with
  | none => .error .unexpectedEnd
  | some (inside, rest) =>
    if ['-', '-'].isPrefixOf inside then .ok (none, rest) else .error .unexpectedEnd

/-- A document type. -/
def readDoctype (cs : List Char) : Declared :=
  match cutWhen? (fun done => done.count '<' == done.count '>') [] cs with
  | none => .error .unexpectedEnd
  | some (inside, rest) =>
    if (inside.take 7).map Char.toLower == "doctype".toList then
      if (inside.drop 7).all isSpace then .error .emptyDoctype else .ok (none, rest)
    else .error .unexpectedEnd

/-- Markup after `<!`. -/
def readDeclared (cs : List Char) : Declared :=
  match cs with
  | '[' :: _ => readSection cs
  | '-' :: _ => readComment cs
  | 'D' :: _ => readDoctype cs
  | 'd' :: _ => readDoctype cs
  | [] => .error .unexpectedEnd
  | _ => .error .unexpectedBang

/-- An event before those of a stream. -/
def Stream.cons (e : Event) (s : Stream) : Stream := { s with events := e :: s.events }

/-- A stream that ends with a fault. -/
def Stream.stop (f : Fault) : Stream := ⟨[], some f⟩

/-- Reads events inside of open elements, innermost first. Every step takes a character, so the
length of the text is enough fuel. -/
def readEvents (fuel : Nat) (opened : List (List Char)) (cs : List Char) : Stream :=
  match fuel with
  | 0 => ⟨[], none⟩
  | fuel + 1 =>
    match cs.dropWhile isSpace with
    | [] => ⟨[], none⟩
    | ['<'] => ⟨[], none⟩
    | '<' :: '!' :: cs =>
      match readDeclared cs with
      | .error f => .stop f
      | .ok (none, rest) => readEvents fuel opened rest
      | .ok (some e, rest) => .cons e (readEvents fuel opened rest)
    | '<' :: '/' :: cs =>
      let name := (cs.takeWhile (· != '>'))
      let trimmed := (name.reverse.dropWhile isSpace).reverse
      let name := if trimmed.isEmpty then name else trimmed
      match opened with
      | [] => .stop .mismatchedEnd
      | inner :: outer =>
        if inner = name then
          .cons .finish (readEvents fuel outer ((cs.dropWhile (· != '>')).drop 1))
        else .stop .mismatchedEnd
    | '<' :: '?' :: cs =>
      let inside := cs.takeWhile (· != '>')
      if 2 ≤ inside.length && inside.getLast? == some '?' then
        readEvents fuel opened ((cs.dropWhile (· != '>')).drop 1)
      else .stop .unexpectedEnd
    | '<' :: cs =>
      let (inside, rest) := cutTag none cs
      if inside.getLast? == some '/' then
        .cons (.empty (readTag inside.dropLast)) (readEvents fuel opened rest)
      else
        let name := inside.takeWhile fun c => !isSpace c
        .cons (.start (readTag inside)) (readEvents fuel (name :: opened) rest)
    | cs =>
      let inside := cs.takeWhile (· != '<')
      match unescape none (Text.trimBoth isSpace inside) with
      | none => .stop .badEntity
      | some s =>
        .cons (.text (String.ofList s)) (readEvents fuel opened (cs.dropWhile (· != '<')))

/-- The events of a document; a byte order mark at its beginning is passed over. -/
def read (document : String) : Stream :=
  let cs := document.toList
  let cs := if cs.head? == some '\uFEFF' then cs.tail else cs
  readEvents (cs.length + 1) [] cs

end MapContext.Xml
