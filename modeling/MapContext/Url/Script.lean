import MapContext.Text.MarkTable
import MapContext.Url.ScriptTable

/-!
# Labels of several scripts

A label of a domain name has to be readable: its characters run in one direction, it does not begin
with a mark, and a joiner stands only where it changes how letters are joined.
-/

namespace MapContext.Url

/-! ## Directions -/

/-- The direction of a character. -/
inductive Direction where
  /-- A letter written from left to right. -/
  | leftToRight
  /-- A letter written from right to left. -/
  | rightToLeft
  /-- A number of an Arabic script. -/
  | arabicNumber
  /-- A number of a European script. -/
  | europeanNumber
  /-- A mark, which goes with the character before it. -/
  | mark
  /-- A sign without a direction. -/
  | neutral
  deriving DecidableEq

/-- The direction of a character. -/
def directionOf (c : Char) : Direction :=
  if Text.inRanges rightToLeftRanges c then .rightToLeft
  else if Text.inRanges arabicNumberRanges c then .arabicNumber
  else if Text.inRanges europeanNumberRanges c then .europeanNumber
  else if Text.inRanges directionlessMarkRanges c then .mark
  else if Text.inRanges neutralRanges c then .neutral
  else .leftToRight

/-- A direction that only scripts written from right to left have. -/
def Direction.isRightward : Direction → Bool
  | .leftToRight | .europeanNumber | .mark | .neutral => true
  | .rightToLeft | .arabicNumber => false

/-- Whether directions suit a label: a letter comes first, all others go with it, a letter or a
number comes last, and numbers are of one kind. -/
def isOneWay : List Direction → Bool
  | [] => true
  | first :: rest =>
    let rest := (rest.reverse.dropWhile (· == .mark)).reverse
    match first with
    | .leftToRight =>
      rest.all (·.isRightward)
        && rest.getLast?.all fun d => d == .leftToRight || d == .europeanNumber
    | .rightToLeft =>
      !rest.contains .leftToRight
        && !(rest.contains .europeanNumber && rest.contains .arabicNumber)
        && rest.getLast?.all fun d => d != .neutral
    | _ => false

/-- Whether labels suit each other: with a character that is written from right to left, every one
of them runs in one direction. -/
def areOneWay (labels : List (List Char)) : Bool :=
  let directions := labels.map (·.map directionOf)
  directions.all (·.all (·.isRightward)) || directions.all isOneWay

/-! ## Joints -/

/-- The character that keeps letters apart. -/
def nonJoiner : Char := '\u200C'

/-- The character that joins letters. -/
def joiner : Char := '\u200D'

/-- The combining class of the marks that suppress a vowel. -/
def vowelKillerClass : Nat := 9

/-- Whether the first letter, apart from marks over which letters join, is of one of the given
ranges or joins both neighbours. -/
def meetsJoint (ranges : List (Nat × Nat)) (cs : List Char) : Bool :=
  ((cs.dropWhile (Text.inRanges transparentRanges)).head?).any fun c =>
    Text.inRanges ranges c || Text.inRanges dualJoiningRanges c

/-- Whether joiners stand where they have an effect; the characters before are reversed. After a
mark that suppresses a vowel both may stand; else only the one that keeps letters apart which would
be joined. -/
def joinersFit (before : List Char) : List Char → Bool
  | [] => true
  | c :: cs =>
    (if c == nonJoiner || c == joiner then
        before.head?.any fun b =>
          Text.combiningClass b == vowelKillerClass
            || (c == nonJoiner && meetsJoint forwardJoiningRanges before
              && meetsJoint backwardJoiningRanges cs)
      else true)
      && joinersFit (c :: before) cs

/-- Whether a label can be read. -/
def isReadable (label : List Char) : Bool :=
  !label.head?.any Text.isMark && joinersFit [] label

end MapContext.Url
