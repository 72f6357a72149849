import MapContext.Url.Host

/-!
# Addresses

An address has a scheme and a path, and may have an authority, a query and a fragment. Its parts
are kept in the encoded form in which they are written.
-/

namespace MapContext

/-- Whom an address speaks to. -/
structure Url.Authority where
  /-- The user name. -/
  username : String
  /-- The password. -/
  password : String
  /-- The host. -/
  host : Url.Host
  /-- The number of the socket, unless it is the usual one of the scheme. -/
  portNumber : Option Nat
  deriving DecidableEq

/-- An address. -/
structure Url where
  /-- The scheme in small letters. -/
  scheme : String
  /-- Whom the address speaks to. -/
  authority : Option Url.Authority
  /-- The path. -/
  path : String
  /-- The query without its mark. -/
  query : Option String
  /-- The fragment without its mark. -/
  fragment : Option String
  deriving DecidableEq

namespace Url

/-- Why a text is no address. -/
inductive Error where
  /-- There is no scheme. -/
  | noScheme
  /-- The host is empty. -/
  | emptyHost
  /-- The number of the socket is no number of 16 bits. -/
  | badPortNumber
  /-- An address of version 6 is malformed. -/
  | badIpv6
  /-- An address of version 4 is malformed. -/
  | badIpv4
  /-- A domain name has a forbidden character or a malformed label. -/
  | badDomain
  /-- A host of an unknown scheme has a forbidden character. -/
  | badHostCharacter
  deriving DecidableEq

/-- A sentence about the error. -/
def Error.message : Error → String
  | .noScheme => "relative URL without a base"
  | .emptyHost => "empty host"
  | .badPortNumber => "invalid port number"
  | .badIpv6 => "invalid IPv6 address"
  | .badIpv4 => "invalid IPv4 address"
  | .badDomain => "invalid international domain name"
  | .badHostCharacter => "invalid domain character"

/-- The usual socket numbers of the schemes that address hosts. -/
def usualNumbers : List (String × Nat) :=
  [("http", 80), ("https", 443), ("ws", 80), ("wss", 443), ("ftp", 21)]

/-- Schemes whose addresses always have a host and treat backslashes as slashes. -/
def isSpecial (scheme : String) : Bool :=
  scheme == "file" || (usualNumbers.lookup scheme).isSome

/-- User name and password with their marks. -/
def Authority.userInfo (a : Authority) : String :=
  if a.username.isEmpty && a.password.isEmpty then ""
  else a.username ++ (if a.password.isEmpty then "" else ":" ++ a.password) ++ "@"

/-- Host and socket number. -/
def Authority.place (a : Authority) : String :=
  a.host.text ++ (a.portNumber.map fun n => ":" ++ toString n).getD ""

/-- The address as text. A path that begins with two slashes is kept apart from an authority. -/
def display (u : Url) : String :=
  u.scheme ++ ":"
    ++ (match u.authority with
      | some a => "//" ++ a.userInfo ++ a.place
      | none => if "//".toList.isPrefixOf u.path.toList then "/." else "")
    ++ u.path
    ++ (u.query.map ("?" ++ ·)).getD "" ++ (u.fragment.map ("#" ++ ·)).getD ""

instance : ToString Url := ⟨display⟩

end Url

end MapContext
