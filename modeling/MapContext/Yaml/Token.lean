import MapContext.Yaml.Scalar
import MapContext.Yaml.Tag

/-!
# Tokens of YAML text

The columns in which words stand and the keys that a colon reveals only later become tokens too.
-/

namespace MapContext.Yaml

/-- A token of a text. -/
inductive Token where
  /-- A directive. -/
  | directive (d : Directive)
  /-- The mark before a document. -/
  | documentStart
  /-- The mark after a document. -/
  | documentEnd
  /-- A sequence in a column begins. -/
  | blockSequence
  /-- A mapping in a column begins. -/
  | blockMapping
  /-- A collection in a column ends. -/
  | blockEnd
  /-- A bracket that opens a sequence. -/
  | openSequence
  /-- A bracket that closes a sequence. -/
  | closeSequence
  /-- A brace that opens a mapping. -/
  | openMapping
  /-- A brace that closes a mapping. -/
  | closeMapping
  /-- The mark before an item. -/
  | item
  /-- The mark between entries in brackets. -/
  | comma
  /-- A key begins. -/
  | key
  /-- A value begins. -/
  | value
  /-- The name of a node that stands here again. -/
  | alias (name : String)
  /-- The name of the node that follows. -/
  | anchor (name : String)
  /-- The tag of the node that follows. -/
  | tag (t : WrittenTag)
  /-- A scalar. -/
  | scalar (s : Scalar)
  deriving DecidableEq

/-- A word that may turn out to be a key. -/
structure Candidate where
  /-- Where it begins. -/
  spot : Spot
  /-- The number of tokens before it. -/
  tokensBefore : Nat
  /-- Whether it stands where nothing but a key can stand. -/
  required : Bool

/-- The most bytes from a key to its colon. -/
def longestKey : Nat := 1024

/-- The word, as long as it may be a key: it stands in the same line and not too far away. One that
has to be a key may not cease to be one. -/
def Candidate.review? (here : Spot) (c : Candidate) : Option (Option Candidate) :=
  if c.spot.line < here.line || c.spot.offset + longestKey < here.offset then
    if c.required then none else some none
  else some (some c)

/-- The tokens up to a spot, and what is open there. -/
structure Outline where
  /-- The tokens. -/
  tokens : Array Token := #[]
  /-- The columns of open collections, innermost first. -/
  columns : List Nat := []
  /-- The word within the innermost brackets that may be a key. -/
  candidate : Option Candidate := none
  /-- The same for each pair of brackets around them, and outside of all. -/
  outer : List (Option Candidate) := []
  /-- Whether a key may begin. -/
  keyAllowed : Bool := true

namespace Outline

/-- Whether brackets are open. -/
def inBrackets (o : Outline) : Bool := !o.outer.isEmpty

/-- The first column right of the innermost collection. -/
def least (o : Outline) : Nat := (o.columns.head?.map (· + 1)).getD 0

/-- Adds a token. -/
def push (o : Outline) (t : Token) : Outline := { o with tokens := o.tokens.push t }

/-- Gives up the words that can be no keys any more. -/
def review? (o : Outline) (here : Spot) : Option Outline := do
  let review (c : Option Candidate) : Option (Option Candidate) :=
    match c with
    | none => some none
    | some c => c.review? here
  return { o with candidate := ← review o.candidate, outer := ← o.outer.mapM review }

/-- Gives up the word that may be a key, unless it has to be one. -/
def giveUp? (o : Outline) : Option Outline :=
  if o.candidate.any (·.required) then none else some { o with candidate := none }

/-- The word that begins here may be a key. -/
def propose? (o : Outline) (here : Spot) : Option Outline := do
  if o.keyAllowed then
    let required := !o.inBrackets && o.columns.head? == some here.column
    let o ← o.giveUp?
    return { o with candidate := some ⟨here, o.tokens.size, required⟩ }
  else return o

/-- Adds a token after the given number of tokens. -/
def insert (o : Outline) (tokensBefore : Nat) (t : Token) : Outline :=
  { o with tokens := o.tokens.insertIdxIfInBounds tokensBefore t }

/-- Closes the collections from a column on; brackets keep them open. -/
def closeFrom (o : Outline) (column : Nat) : Outline :=
  if o.inBrackets then o
  else
    let (closed, columns) := o.columns.span (column ≤ ·)
    { o with tokens := o.tokens ++ closed.map fun _ => Token.blockEnd, columns }

/-- Opens a collection in a column, unless one is open there or brackets are. Its token stands
after the given number of tokens. -/
def openAt (o : Outline) (column tokensBefore : Nat) (t : Token) : Outline :=
  if o.inBrackets || column < o.least then o
  else { o.insert tokensBefore t with columns := column :: o.columns }

/-- Goes on after a token, where a key may begin or not. -/
def follow (o : Outline) (t : Token) (keyAllowed : Bool) : Outline :=
  { o.push t with keyAllowed }

/-- The mark before an item or a key outside of all brackets. -/
def mark? (o : Outline) (here : Spot) (collection t : Token) : Option Outline := do
  if !o.inBrackets && !o.keyAllowed then none
  else
    let o ← (o.openAt here.column o.tokens.size collection).giveUp?
    return o.follow t (t = .item || !o.inBrackets)

/-- The mark before a value. The word that may be a key is one. -/
def value? (o : Outline) (here : Spot) : Option Outline :=
  match o.candidate with
  | some c =>
    let o := { o.insert c.tokensBefore .key with candidate := none }
    some ((o.openAt c.spot.column c.tokensBefore .blockMapping).follow .value false)
  | none =>
    if !o.inBrackets && !o.keyAllowed then none
    else
      let o := o.openAt here.column o.tokens.size .blockMapping
      some (o.follow .value (!o.inBrackets))

/-- A bracket that opens a collection. -/
def enter? (o : Outline) (here : Spot) (t : Token) : Option Outline := do
  let o ← o.propose? here
  return { o.follow t true with candidate := none, outer := o.candidate :: o.outer }

/-- A bracket that closes a collection. -/
def leave? (o : Outline) (t : Token) : Option Outline := do
  let o ← o.giveUp?
  match o.outer with
  | [] => return o.follow t false
  | candidate :: outer => return { o.follow t false with candidate, outer }

/-- A line that begins or ends a document or holds a directive. -/
def boundary? (o : Outline) (t : Token) : Option Outline := do
  return (← (o.closeFrom 0).giveUp?).follow t false

/-- A word that may be a key or belong to one. -/
def word? (o : Outline) (here : Spot) (t : Token) : Option Outline := do
  return (← o.propose? here).follow t false

end Outline

/-- The name of an anchor after its mark, and what comes after it. -/
def anchorName? (s : List Spot) : Option (String × List Spot) :=
  let (name, rest) := splitAt (! isWordChar ·) s
  let next := nextChar rest
  if name.isEmpty then none
  else if endsWord next || ['?', ':', ',', ']', '}', '%', '@', '\u0060'].contains next then
    some (String.ofList (chars name), rest)
  else none

/-- The outline after the token that begins with the spot `p`, and what comes after that token. -/
def Outline.next? (o : Outline) (p : Spot) (ps : List Spot) : Option (Outline × List Spot) := do
  let s := p :: ps
  let next := nextChar ps
  let marks := o.inBrackets || endsWord next
  if p.column = 0 && p.char = '%' then
    let (d, rest) ← directive? ps
    return (← o.boundary? (.directive d), rest)
  else if atMarker s then
    return (← o.boundary? (if p.char = '-' then .documentStart else .documentEnd), s.drop 3)
  else if p.char = '[' then return (← o.enter? p .openSequence, ps)
  else if p.char = '{' then return (← o.enter? p .openMapping, ps)
  else if p.char = ']' then return (← o.leave? .closeSequence, ps)
  else if p.char = '}' then return (← o.leave? .closeMapping, ps)
  else if p.char = ',' then return ((← o.giveUp?).follow .comma true, ps)
  else if p.char = '-' && endsWord next then return (← o.mark? p .blockSequence .item, ps)
  else if p.char = '?' && marks then return (← o.mark? p .blockMapping .key, ps)
  else if p.char = ':' && marks then return (← o.value? p, ps)
  else if p.char = '*' then
    let (name, rest) ← anchorName? ps
    return (← o.word? p (.alias name), rest)
  else if p.char = '&' then
    let (name, rest) ← anchorName? ps
    return (← o.word? p (.anchor name), rest)
  else if p.char = '!' then
    let (t, rest) ← tag? ps
    if endsWord (nextChar rest) || (o.inBrackets && nextChar rest = ',') then
      return (← o.word? p (.tag t), rest)
    else none
  else if (p.char = '|' || p.char = '>') && !o.inBrackets then
    let folds := p.char = '>'
    let (text, rest) ← block? folds o.least ps
    let scalar : Scalar := ⟨text, if folds then .folded else .literal, none⟩
    return ((← o.giveUp?).follow (.scalar scalar) true, rest)
  else if p.char = '\'' || p.char = '"' then
    let (text, rest) ← quoted? (p.char = '\'') s.length ps
    return (← o.word? p (.scalar ⟨String.ofList text, .quoted, none⟩), rest)
  else if beginsPlain o.inBrackets s then
    let r ← plain? o.inBrackets o.least s.length [] s
    let o ← o.propose? p
    return (o.follow (.scalar ⟨String.ofList r.text, .plain, none⟩) r.wraps, r.rest)
  else none

/-- The tokens of an outline and those of at most `fuel` tokens after it. -/
def Outline.tokens? (fuel : Nat) (o : Outline) (s : List Spot) : Option (List Token) :=
  let (keyAllowed, s) := skipGap o.inBrackets false o.keyAllowed s
  let o := { o with keyAllowed }
  match fuel, s with
  | 0, _ | _, [] => none
  | fuel + 1, p :: ps => do
    let o ← o.review? p
    if p.char = ending then
      let o ← (o.closeFrom 0).giveUp?
      return o.tokens.toList
    else
      let (o, rest) ← (o.closeFrom (p.column + 1)).next? p ps
      tokens? fuel o rest

/-- The tokens of a text. -/
def tokens? (text : String) : Option (List Token) := do
  let s ← spots? text
  Outline.tokens? s.length {} s

end MapContext.Yaml
