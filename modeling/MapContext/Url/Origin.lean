import MapContext.Url.Reading

/-!
# Origins

Addresses of web services that share scheme, host and socket number have one origin. The path of a
`blob` address is an address, whose origin it has. All other addresses share the origin `null`.
-/

namespace MapContext.Url

/-- The origin of an address within at most the given number of others. -/
def originWithin : Nat → Url → String
  | 0, _ => "null"
  | depth + 1, u =>
    if u.scheme = "blob" then
      match read u.path with
      | .ok inner => originWithin depth inner
      | .error _ => "null"
    else
      match u.authority, usualNumbers.lookup u.scheme with
      | some a, some _ => u.scheme ++ "://" ++ a.place
      | _, _ => "null"

/-- The origin of an address. Every address within another one is shorter. -/
def origin (u : Url) : String := originWithin (u.path.length + 1) u

end MapContext.Url
