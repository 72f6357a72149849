import MapContext.Text.Blank
import MapContext.Text.Utf8

/-!
# Percent encoding

Characters that may not stand in a part of an address are written as their bytes, each as a
percent sign and two hexadecimal digits. Which ones these are depends on the part; controls and
characters outside of ASCII are always among them. Form encoding is the encoding of names and
values in queries: blanks are plus signs, and all but letters, digits and four marks are encoded.
-/

namespace MapContext.Url

/-- Controls and characters outside of ASCII. -/
def isControl (c : Char) : Bool := c.toNat < 0x20 || 0x7E < c.toNat

/-- Characters encoded in fragments. -/
def inFragment (c : Char) : Bool := isControl c || [' ', '"', '<', '>', '\x60'].contains c

/-- Characters encoded in paths. -/
def inPath (c : Char) : Bool := inFragment c || ['#', '?', '\x7b', '\x7d'].contains c

/-- Characters encoded in user names and passwords. -/
def inUserInfo (c : Char) : Bool :=
  inPath c || ['/', ':', ';', '=', '@', '[', '\\', ']', '^', '|'].contains c

/-- Characters encoded in queries. -/
def inQuery (c : Char) : Bool := isControl c || [' ', '"', '#', '<', '>'].contains c

/-- Characters encoded in queries of web addresses. -/
def inWebQuery (c : Char) : Bool := inQuery c || c == '\''

/-- A byte as a percent sign and two hexadecimal digits. -/
def encodeByte (b : UInt8) : List Char := '%' :: Text.hexByte b

/-- Encodes the characters of a class. -/
def encode (mustEncode : Char → Bool) (cs : List Char) : List Char :=
  cs.flatMap fun c => if mustEncode c then (String.utf8EncodeChar c).flatMap encodeByte else [c]

/-- The bytes of text whose encoded bytes are replaced; a percent sign that is not followed by two
hexadecimal digits stands for itself. -/
def decodeBytes : List Char → List UInt8
  | [] => []
  | ['%'] => [37]
  | ['%', a] => 37 :: String.utf8EncodeChar a
  | '%' :: a :: b :: rest =>
    match Text.hexValue? [a, b] with
    | some n => UInt8.ofNat n :: decodeBytes rest
    | none => 37 :: decodeBytes (a :: b :: rest)
  | c :: rest => String.utf8EncodeChar c ++ decodeBytes rest

/-- Characters that stand for themselves in form encoding. -/
def isFormChar (c : Char) : Bool :=
  c.isAlphanum || ['*', '-', '.', '_'].contains c

/-- A name or value in form encoding. -/
def encodeForm (s : String) : List Char :=
  s.toList.flatMap fun c =>
    if isFormChar c then [c]
    else if c = ' ' then ['+']
    else (String.utf8EncodeChar c).flatMap encodeByte

/-- The name or value of a form-encoded text. -/
def decodeForm (cs : List Char) : String :=
  Text.ofUtf8 (decodeBytes (cs.map fun c => if c = '+' then ' ' else c))

end MapContext.Url
