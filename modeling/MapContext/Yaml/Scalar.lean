import MapContext.Yaml.Spot

/-!
# Scalars of YAML text

Plain and quoted scalars may run over several lines; line breaks in them are folded to spaces.
Block scalars consist of the lines of one indentation.
-/

namespace MapContext.Yaml

/-- How a scalar is written. -/
inductive Style where
  /-- Without marks. -/
  | plain
  /-- Between quotes. -/
  | quoted
  /-- As a block of lines. -/
  | literal
  /-- As a block of lines that are folded. -/
  | folded
  deriving DecidableEq

/-- A scalar. -/
structure Scalar where
  /-- Its text. -/
  text : String
  /-- How it is written. -/
  style : Style
  /-- The tag before it. -/
  tag : Option String := none
  deriving DecidableEq

/-! ## Gaps within scalars -/

/-- What is written for a gap within a scalar: the spaces of a line, a space for a single line
break, or the line breaks after the first one. A first line break that separates lines or
paragraphs is kept. -/
def gapText (gap : List Char) : List Char :=
  match gap.filter isBreak with
  | [] => gap
  | '\n' :: more => if more.isEmpty then [' '] else more
  | breaks => breaks

/-! ## Quoted scalars -/

/-- The characters for which a letter stands after a backslash. -/
def letterEscapes : List (Char × Char) :=
  [('0', '\u0000'), ('a', '\u0007'), ('b', '\u0008'), ('t', '\t'), ('\t', '\t'), ('n', '\n'),
   ('v', '\u000B'), ('f', '\u000C'), ('r', '\r'), ('e', '\u001B'), (' ', ' '), ('"', '"'),
   ('/', '/'), ('\\', '\\'), ('N', '\u0085'), ('_', '\u00A0'), ('L', '\u2028'), ('P', '\u2029')]

/-- The number of hexadecimal digits after a letter that announces a code point. -/
def codeDigits? : Char → Option Nat
  | 'x' => some 2
  | 'u' => some 4
  | 'U' => some 8
  | _ => none

/-- The character of a code point, unless it is a surrogate or too great. -/
def character? (n : Nat) : Option Char :=
  if h : n.isValidChar then some (Char.ofNatAux n h) else none

/-- The character for which the text after a backslash stands, and the text after that. -/
def escape? (s : List Spot) : Option (Char × List Spot) :=
  let letter := nextChar s
  match codeDigits? letter with
  | some n => do
    let digits := chars ((s.drop 1).take n)
    let code ← Text.hexValue? digits
    let c ← character? code
    return (c, s.drop (n + 1))
  | none => (letterEscapes.lookup letter).map fun c => (c, s.drop 1)

/-- The characters up to the quote that ends a scalar, and the text after it; at most `fuel` steps
are made. In single quotes a doubled quote stands for one, in double quotes a backslash begins an
escape, or joins two lines. -/
def quoted? (isSingle : Bool) (fuel : Nat) (s : List Spot) : Option (List Char × List Spot) :=
  match fuel, s with
  | 0, _ | _, [] => none
  | fuel + 1, p :: ps => do
    let go (cs : List Char) (rest : List Spot) : Option (List Char × List Spot) :=
      (quoted? isSingle fuel rest).map fun (more, rest) => (cs ++ more, rest)
    if atMarker (p :: ps) || p.char = ending then none
    else if isGap p.char then
      let (gap, rest) := splitAt (! isGap ·) (p :: ps)
      go (gapText (chars gap)) rest
    else if isSingle && p.char = '\'' then
      if nextChar ps = '\'' then go ['\''] (ps.drop 1) else some ([], ps)
    else if !isSingle && p.char = '"' then some ([], ps)
    else if !isSingle && p.char = '\\' then
      if isBreak (nextChar ps) then
        let (gap, rest) := splitAt (! isGap ·) (ps.drop 1)
        go ((chars gap).filter isBreak) rest
      else
        let (c, rest) ← escape? ps
        go [c] rest
    else go [p.char] ps

/-! ## Plain scalars -/

/-- Characters with which no plain scalar begins, unless a word follows the first three. -/
def indicators : List Char :=
  ['-', '?', ':', ',', '[', ']', '{', '}', '#', '&', '*', '!', '|', '>', '\'', '"', '%', '@',
   '\u0060']

/-- Characters that end a plain scalar within brackets. -/
def brackets : List Char := [',', '[', ']', '{', '}']

/-- Whether a plain scalar begins here. -/
def beginsPlain (inBrackets : Bool) (s : List Spot) : Bool :=
  let c := nextChar s
  let next := nextChar (s.drop 1)
  (!endsWord c && !indicators.contains c) || (c == '-' && !isSpace next)
    || (!inBrackets && (c == '?' || c == ':') && !endsWord next)

/-- The characters of a plain scalar up to the next gap or its end. A colon within brackets may
not stand before one of them. -/
def plainWord? (inBrackets : Bool) : List Spot → Option (List Char × List Spot)
  | [] => some ([], [])
  | p :: ps =>
    let next := nextChar ps
    if endsWord p.char then some ([], p :: ps)
    else if inBrackets && p.char = ':' && (next = '?' || brackets.contains next) then none
    else if (p.char = ':' && endsWord next) || (inBrackets && brackets.contains p.char) then
      some ([], p :: ps)
    else (plainWord? inBrackets ps).map fun (cs, rest) => (p.char :: cs, rest)

/-- A plain scalar and the text after it and the gap that follows. -/
structure PlainReading where
  /-- The text of the scalar. -/
  text : List Char
  /-- Whether a line break stands in the gap. -/
  wraps : Bool
  /-- What comes after the gap. -/
  rest : List Spot

/-- Whether a tab stands in the indentation of a later line of a gap. -/
def hasTabIndentation (least : Nat) (gap : List Spot) : Bool :=
  (gap.dropWhile (isSpace ·.char)).any fun p => p.char == '\t' && p.column < least

/-- Reads a plain scalar after a gap of the given characters. On later lines it goes on from column
`least`, or anywhere within brackets; at most `fuel` gaps are crossed. -/
def plain? (inBrackets : Bool) (least fuel : Nat) (gap : List Char) (s : List Spot) :
    Option PlainReading :=
  let ended : PlainReading := ⟨[], gap.any isBreak, s⟩
  match fuel with
  | 0 => none
  | fuel + 1 =>
    if atMarker s || nextChar s = '#' || (!inBrackets && nextColumn s < least && !gap.isEmpty) then
      some ended
    else do
      let (word, rest) ← plainWord? inBrackets s
      let before := if word.isEmpty then [] else gapText gap ++ word
      let (gap', after) := splitAt (! isGap ·) rest
      if hasTabIndentation least gap' then none
      else if gap'.isEmpty then some (if word.isEmpty then ended else ⟨before, false, rest⟩)
      else
        let more ← plain? inBrackets least fuel (chars gap') after
        return { more with text := before ++ more.text }

/-! ## Block scalars -/

/-- What happens to line breaks at the end of a block scalar. -/
inductive Chomping where
  /-- All are dropped. -/
  | strip
  /-- One is kept. -/
  | clip
  /-- All are kept. -/
  | keep
  deriving DecidableEq

/-- What is said about a block scalar in its first line. -/
structure BlockHeader where
  /-- What happens to line breaks at the end. -/
  chomping : Chomping
  /-- The indentation beyond that of the surroundings. -/
  indentation : Option Nat

/-- The chomping for which a character stands. -/
def chomping? : Char → Option Chomping
  | '+' => some .keep
  | '-' => some .strip
  | _ => none

/-- An indentation of one digit, if there is a digit, and the text after it. It may not be zero. -/
def indentation? (s : List Spot) : Option (Option Nat × List Spot) :=
  let c := nextChar s
  if c = '0' then none
  else if c.isDigit then some (some (c.toNat - '0'.toNat), s.drop 1)
  else some (none, s)

/-- The header of a block scalar after its indicator, and the lines after it. Chomping and
indentation stand in either order. -/
def blockHeader? (s : List Spot) : Option (BlockHeader × List Spot) := do
  let (header, rest) ←
    match chomping? (nextChar s) with
    | some chomping => do
      let (indentation, rest) ← indentation? (s.drop 1)
      pure (BlockHeader.mk chomping indentation, rest)
    | none => do
      let (indentation, rest) ← indentation? s
      match indentation, chomping? (nextChar rest) with
      | some _, some chomping => pure (⟨chomping, indentation⟩, rest.drop 1)
      | _, _ => pure (⟨.clip, indentation⟩, rest)
  return (header, ← restOfLine? rest)

/-- The blank lines before a line of a block scalar. -/
structure BlankLines where
  /-- Their line breaks. -/
  breaks : List Char
  /-- The greatest column that was reached. -/
  deepest : Nat
  /-- What comes after them and the indentation of the line. -/
  rest : List Spot

/-- Reads blank lines and the indentation after them. Spaces belong to it left of column `indent`,
or everywhere as long as `indent` is not known; tabs may not stand in it. -/
def blankLines? (indent : Option Nat) (fuel deepest : Nat) (s : List Spot) : Option BlankLines :=
  let indents (p : Spot) : Bool := indent.all (p.column < ·)
  let s := s.dropWhile fun p => p.char == ' ' && indents p
  let deepest := max deepest (nextColumn s)
  match fuel, s with
  | 0, _ | _, [] => some ⟨[], deepest, s⟩
  | fuel + 1, p :: ps =>
    if p.char = '\t' && indents p then none
    else if isBreak p.char then
      (blankLines? indent fuel deepest ps).map fun b => { b with breaks := p.char :: b.breaks }
    else some ⟨[], deepest, p :: ps⟩

/-- What stands between two lines of a block scalar. A line feed that ends a line becomes a space
where lines are folded, unless one of the two begins with a space or blank lines follow. -/
def lineJoint (folds afterBlank beforeBlank : Bool) (lineBreak blank : List Char) : List Char :=
  if folds && lineBreak == ['\n'] && !afterBlank && !beforeBlank then
    if blank.isEmpty then [' '] else blank
  else lineBreak ++ blank

/-- The line breaks that are kept at the end of a block scalar. -/
def Chomping.apply (chomping : Chomping) (lineBreak blank : List Char) : List Char :=
  match chomping with
  | .strip => []
  | .clip => lineBreak
  | .keep => lineBreak ++ blank

/-- The text of the lines that begin in column `indent`, and what comes after them. Before them
stand the break of a line, which began with a space or not, and the breaks of blank lines. -/
def blockLines? (folds : Bool) (chomping : Chomping) (indent fuel : Nat) (afterBlank : Bool)
    (lineBreak blank : List Char) (s : List Spot) : Option (List Char × List Spot) :=
  match fuel with
  | 0 => none
  | fuel + 1 =>
    if nextColumn s ≠ indent || nextChar s = ending then
      some (chomping.apply lineBreak blank, s)
    else do
      let beforeBlank := isSpace (nextChar s)
      let (line, rest) := splitAt endsLine s
      let (lineBreak', rest) := rest.splitAt (if isBreak (nextChar rest) then 1 else 0)
      let b ← blankLines? (some indent) rest.length 0 rest
      let (more, rest) ←
        blockLines? folds chomping indent fuel beforeBlank (chars lineBreak') b.breaks b.rest
      return (lineJoint folds afterBlank beforeBlank lineBreak blank ++ chars line ++ more, rest)

/-- A block scalar after its indicator, and what comes after it; its lines stand from column `least`
on. An indentation that is not given is the deepest one up to the first line that is not blank. -/
def block? (folds : Bool) (least : Nat) (s : List Spot) : Option (String × List Spot) := do
  let (header, rest) ← blockHeader? s
  let given := header.indentation.map fun n => least - 1 + n
  let b ← blankLines? given rest.length 0 rest
  let indent := given.getD (max (max b.deepest least) 1)
  let (text, rest) ←
    blockLines? folds header.chomping indent (rest.length + 1) false [] b.breaks b.rest
  return (String.ofList text, rest)

end MapContext.Yaml
