import MapContext.Text.Blank

/-!
# Spots of YAML text

A text is read as characters that know their place. Line breaks of all forms but the separators of
lines and paragraphs become line feeds, and the end of a text is a spot of its own.
-/

namespace MapContext.Yaml

/-- A character of a text with its place. -/
structure Spot where
  /-- The character. -/
  char : Char
  /-- The number of bytes before it. -/
  offset : Nat
  /-- The number of lines before its line. -/
  line : Nat
  /-- The number of characters before it in its line. -/
  column : Nat
  deriving DecidableEq

/-! ## Classes of characters -/

/-- Characters that a text may contain. -/
def isAllowed (c : Char) : Bool :=
  c == '\t' || c == '\n' || c == '\r' || (' ' ≤ c && c ≤ '~') || c == '\u0085'
    || ('\u00A0' ≤ c && c != '\uFFFE' && c != '\uFFFF')

/-- Stands at the end of a text; no text contains it. -/
def ending : Char := '\u0000'

/-- May stand at the beginning of a line, where it is passed over. -/
def byteOrderMark : Char := '\uFEFF'

/-- A character that ends a line. -/
def isBreak (c : Char) : Bool :=
  c == '\n' || c == '\r' || c == '\u0085' || c == '\u2028' || c == '\u2029'

/-- A space or a tab. -/
def isSpace (c : Char) : Bool := c == ' ' || c == '\t'

/-- A space, a tab or a line break. -/
def isGap (c : Char) : Bool := isSpace c || isBreak c

/-- A line break or the end of the text. -/
def endsLine (c : Char) : Bool := isBreak c || c == ending

/-- A gap or the end of the text. -/
def endsWord (c : Char) : Bool := isGap c || c == ending

/-- Characters of names. -/
def isWordChar (c : Char) : Bool := c.isAlphanum || c == '_' || c == '-'

/-! ## Spots of a text -/

/-- The spots of characters from the given place on. -/
def spotsFrom (offset line column : Nat) : List Char → List Spot
  | [] => [⟨ending, offset, line, column⟩]
  | '\r' :: '\n' :: cs => ⟨'\n', offset, line, column⟩ :: spotsFrom (offset + 2) (line + 1) 0 cs
  | c :: cs =>
    let after := offset + c.utf8Size
    if isBreak c then
      let lineBreak := if c = '\r' || c = '\u0085' then '\n' else c
      ⟨lineBreak, offset, line, column⟩ :: spotsFrom after (line + 1) 0 cs
    else ⟨c, offset, line, column⟩ :: spotsFrom after line (column + 1) cs

/-- The spots of a text, if it may contain all its characters. -/
def spots? (text : String) : Option (List Spot) :=
  if text.toList.all isAllowed then some (spotsFrom 0 0 0 text.toList) else none

/-- The characters of spots. -/
def chars (s : List Spot) : List Char := s.map (·.char)

/-- The next character. -/
def nextChar (s : List Spot) : Char := (s.head?.map (·.char)).getD ending

/-- The column of the next character. -/
def nextColumn (s : List Spot) : Nat := (s.head?.map (·.column)).getD 0

/-- Whether a line here begins or ends a document. -/
def atMarker (s : List Spot) : Bool :=
  nextColumn s == 0 && ["---".toList, "...".toList].contains (chars (s.take 3))
    && endsWord (nextChar (s.drop 3))

/-- The spots before the first one that satisfies `p`, and those from it on. -/
def splitAt (p : Char → Bool) (s : List Spot) : List Spot × List Spot :=
  s.span (! p ·.char)

/-- What follows a line that holds nothing more than a comment. -/
def restOfLine? (s : List Spot) : Option (List Spot) :=
  let s := s.dropWhile (isSpace ·.char)
  let s := if nextChar s = '#' then s.dropWhile (! endsLine ·.char) else s
  if isBreak (nextChar s) then some (s.drop 1)
  else if nextChar s = ending then some s
  else none

/-- Skips spaces, comments and line breaks, and says whether a key may begin there. A line break
outside of brackets allows it; where it is allowed, no tab may stand before a key. -/
def skipGap (inBrackets inComment keyAllowed : Bool) : List Spot → Bool × List Spot
  | [] => (keyAllowed, [])
  | p :: ps =>
    if isBreak p.char then skipGap inBrackets false (keyAllowed || !inBrackets) ps
    else if p.char = ending then (keyAllowed, p :: ps)
    else if inComment || p.char = '#' then skipGap inBrackets true keyAllowed ps
    else if p.char = ' ' || (p.char = '\t' && (inBrackets || !keyAllowed))
        || (p.char = byteOrderMark && p.column = 0) then
      skipGap inBrackets false keyAllowed ps
    else (keyAllowed, p :: ps)

end MapContext.Yaml
