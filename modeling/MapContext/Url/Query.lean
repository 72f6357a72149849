import MapContext.Url.Basic
import MapContext.Url.Encoding

/-!
# Parameters in queries

A query is a list of names and values in form encoding. Names are compared without regard to the
case of ASCII letters. Setting a parameter leaves the other ones and their order as they are.
-/

namespace MapContext.Url

/-- Names and values in order. -/
abbrev Pairs := List (String × String)

/-- A piece of a query: the value stands after the first equals sign. -/
def readPair (cs : List Char) : String × String :=
  (decodeForm (cs.takeWhile (· != '=')), decodeForm ((cs.dropWhile (· != '=')).drop 1))

/-- The pairs of a query; empty pieces are none. -/
def readPairs (query : String) : Pairs :=
  ((Text.pieces (· == '&') query.toList).filter (! ·.isEmpty)).map readPair

/-- Pairs as a query. -/
def writePairs (pairs : Pairs) : String :=
  String.ofList (['&'].intercalate
    (pairs.map fun p => encodeForm p.1 ++ '=' :: encodeForm p.2))

/-- The pairs of an address. -/
def pairs (u : Url) : Pairs := readPairs (u.query.getD "")

/-- The value of the first pair of a name. -/
def lookup? (pairs : Pairs) (name : String) : Option String :=
  (pairs.find? fun p => Text.sameIgnoringCase p.1 name).map (·.2)

/-- The value of a parameter. -/
def param? (u : Url) (name : String) : Option String := lookup? u.pairs name

/-- Puts a pair in the place of the first one of the same name and drops the later ones; without
any it comes last. -/
def putPair (name value : String) (pairs : Pairs) : Pairs :=
  let same (p : String × String) : Bool := Text.sameIgnoringCase p.1 name
  pairs.takeWhile (! same ·) ++ (name, value) :: (pairs.dropWhile (! same ·)).filter (! same ·)

/-- Sets a parameter. The whole query is written anew. -/
def setParam (u : Url) (name value : String) : Url :=
  { u with query := some (writePairs (putPair name value u.pairs)) }

end MapContext.Url
