import MapContext.Text.CompositeTable
import MapContext.Text.MarkTable

/-!
# Composition of characters

One character with marks can be written in several ways. A text is composed by splitting its
composites into parts, putting the marks after each character in order, and joining all that can be
joined. Characters that stand for one other character and composites that are never preferred to
their parts are left alone.
-/

namespace MapContext.Text

/-! ## Syllables of Hangul -/

/-- The first syllable. -/
def firstSyllable : Nat := 0xAC00

/-- The first leading consonant. -/
def firstLead : Nat := 0x1100

/-- The first vowel. -/
def firstVowel : Nat := 0x1161

/-- The code point before the first trailing consonant. -/
def beforeTrail : Nat := 0x11A7

/-- The number of leading consonants. -/
def leadCount : Nat := 19

/-- The number of vowels. -/
def vowelCount : Nat := 21

/-- The number of trailing consonants, of which one is none. -/
def trailCount : Nat := 28

/-- The consonants and the vowel of a syllable. -/
def syllableParts? (c : Char) : Option (List Char) :=
  if c.toNat < firstSyllable then none
  else
    let n := c.toNat - firstSyllable
    if leadCount * vowelCount * trailCount ≤ n then none
    else
      let lead := firstLead + n / (vowelCount * trailCount)
      let vowel := firstVowel + n / trailCount % vowelCount
      let trail := beforeTrail + n % trailCount
      some ([lead, vowel].map Char.ofNat
        ++ if n % trailCount = 0 then [] else [Char.ofNat trail])

/-- The syllable of two characters. -/
def syllable? (a b : Char) : Option Char :=
  if firstLead ≤ a.toNat && a.toNat < firstLead + leadCount
      && firstVowel ≤ b.toNat && b.toNat < firstVowel + vowelCount then
    let lead := a.toNat - firstLead
    let vowel := b.toNat - firstVowel
    some (Char.ofNat (firstSyllable + (lead * vowelCount + vowel) * trailCount))
  else if firstSyllable ≤ a.toNat
      && a.toNat < firstSyllable + leadCount * vowelCount * trailCount
      && (a.toNat - firstSyllable) % trailCount == 0
      && beforeTrail < b.toNat && b.toNat < beforeTrail + trailCount then
    some (Char.ofNat (a.toNat + (b.toNat - beforeTrail)))
  else none

/-! ## Splitting -/

/-- The parts of a character by a table of composites, of which the first is split in turn; the
fuel bounds how often. -/
def splitChar (table : List Expansion) : Nat → Char → List Char
  | 0, c => [c]
  | fuel + 1, c =>
    match syllableParts? c with
    | some parts => parts
    | none =>
      match expand? table c with
      | some (a :: rest) => splitChar table fuel a ++ rest
      | _ => [c]

/-- How many marks a composite has at most. -/
def mostMarks : Nat := 3

/-- Puts a mark before the ones of greater class at the end of a text that is reversed. -/
def sink (m : Char × Nat) : List (Char × Nat) → List (Char × Nat)
  | [] => [m]
  | n :: ns => if m.2 != 0 && m.2 < n.2 then n :: sink m ns else m :: n :: ns

/-- The parts of a text with their classes, marks in order. -/
def splitText (cs : List Char) : List (Char × Nat) :=
  let parts := cs.flatMap (splitChar composites mostMarks)
  ((parts.map fun c => (c, combiningClass c)).foldl (fun done m => sink m done) []).reverse

/-! ## Joining -/

/-- The composite of two characters. -/
def join? (a b : Char) : Option Char :=
  match syllable? a b with
  | some c => some c
  | none =>
    (composites.find? fun e => e.target == [a.toNat, b.toNat]).map fun e => Char.ofNat e.first

/-- Joins marks to a character. Marks that could not be joined wait in reverse order; a mark joins
if none of those has its class or a greater one. -/
def joinFrom (start : Char) (waiting : List (Char × Nat)) : List (Char × Nat) → List Char
  | [] => start :: waiting.reverse.map (·.1)
  | m :: ms =>
    let free := match waiting with
      | [] => true
      | w :: _ => w.2 < m.2
    match if free then join? start m.1 else none with
    | some c => joinFrom c waiting ms
    | none =>
      if m.2 = 0 then start :: waiting.reverse.map (·.1) ++ joinFrom m.1 [] ms
      else joinFrom start (m :: waiting) ms

/-- The characters before the first one that is no mark stay as they are. -/
def joinText : List (Char × Nat) → List Char
  | [] => []
  | m :: ms => if m.2 = 0 then joinFrom m.1 [] ms else m.1 :: joinText ms

/-- The composed form of a text. -/
def compose (cs : List Char) : List Char :=
  if cs.all fun c => c.toNat < 128 then cs else joinText (splitText cs)

end MapContext.Text
