import MapContext.Text.Composition
import MapContext.Text.Utf8
import MapContext.Url.Encoding
import MapContext.Url.FoldingTable
import MapContext.Url.Punycode
import MapContext.Url.Script

/-!
# Domain names

The name of a host is folded character by character and composed, and every label with characters
outside of ASCII is written in ASCII. Characters that have a meaning elsewhere in addresses are
refused, and so are labels that cannot be read.
-/

namespace MapContext.Url

/-- ASCII characters that a domain name may not contain. -/
def isForbidden (c : Char) : Bool :=
  c.toNat ≤ 0x20 || c.toNat == 0x7F
    || ['%', '#', '/', ':', '<', '>', '?', '@', '[', '\\', ']', '^', '|'].contains c

/-- What a character of a name is folded to, unless it is refused. -/
def foldChar? (c : Char) : Option (List Char) :=
  if c.toNat < 128 then (if isForbidden c then none else some [c.toLower])
  else if Text.inRanges refusedRanges c then none
  else if Text.inRanges droppedRanges c then some []
  else
    let folded := (Text.expand? foldings c).getD [c]
    if folded.any isForbidden then none else some folded

/-- The folded and composed form of a name, unless a character of it is refused. -/
def foldName? (cs : List Char) : Option (List Char) :=
  (cs.mapM foldChar?).map fun folded => Text.compose folded.flatten

/-- How long a label with characters outside of ASCII may be. -/
def longestLabel : Nat := 1000

/-- How long the encoded part of a label in ASCII may be. -/
def longestCode : Nat := 2000

/-- What stands before the encoded part of a label. -/
def codeMark : List Char := "xn--".toList

/-- The label that is encoded in ASCII; it has to be folded and composed already. -/
def decodeLabel? (code : List Char) : Option (List Char) :=
  if code.isEmpty || code.getLast? == some '-' || longestCode < code.length then none
  else do
    let label ← Punycode.decode? code
    let folded ← foldName? label
    if folded = label then return label else none

/-- A folded label with its form in ASCII, if the label can be read. -/
def labelForms? (label : List Char) : Option (List Char × List Char) := do
  let isAscii := label.all fun c => c.toNat < 128
  let (label, ascii) ←
    if codeMark.isPrefixOf label then
      if isAscii then (decodeLabel? (label.drop 4)).map (·, label) else none
    else some (label, if isAscii then label else codeMark ++ Punycode.encode label)
  if !isReadable label || (longestLabel < label.length && label != ascii) then none
  else return (label, ascii)

/-- The bytes of a host as a domain name in ASCII. -/
def domainToAscii? (bytes : List UInt8) : Option (List Char) := do
  let name ← foldName? (Text.ofUtf8 bytes).toList
  let forms ← (Text.pieces (· == '.') name).mapM labelForms?
  if areOneWay (forms.map (·.1)) then return ['.'].intercalate (forms.map (·.2)) else none

end MapContext.Url
