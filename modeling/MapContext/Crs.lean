import MapContext.Text.Blank
import MapContext.Text.Casing

/-!
# Reference systems

Services spell the same code in different ways; codes are compared in capitals and without blanks
at the ends. A client draws only some of them natively.
-/

namespace MapContext.Crs

/-- The canonical spelling of a code: trimmed and in capitals. -/
def normalize (code : String) : String :=
  Text.upper (Text.trim code)

/-- A reference system that a client draws natively. -/
inductive Native where
  /-- Degrees of latitude and longitude on WGS 84. -/
  | epsg4326
  /-- Web Mercator. -/
  | epsg3857
  /-- UTM zone 32 North. -/
  | epsg25832
  /-- UTM zone 33 North. -/
  | epsg25833
  /-- Equal-area projection of Europe. -/
  | epsg3035
  deriving DecidableEq

/-- The code of a native reference system. -/
def Native.code : Native → String
  | .epsg4326 => "EPSG:4326"
  | .epsg3857 => "EPSG:3857"
  | .epsg25832 => "EPSG:25832"
  | .epsg25833 => "EPSG:25833"
  | .epsg3035 => "EPSG:3035"

/-- The codes under which native reference systems are known, in canonical spelling. -/
def nativeCodes : List (String × Native) :=
  [("EPSG:4326", .epsg4326), ("CRS:84", .epsg4326), ("EPSG:3857", .epsg3857),
   ("EPSG:900913", .epsg3857), ("EPSG:25832", .epsg25832), ("EPSG:25833", .epsg25833),
   ("EPSG:3035", .epsg3035)]

/-- The native reference system of a code in any spelling. -/
def native? (code : String) : Option Native :=
  nativeCodes.lookup (normalize code)

/-- A sentence about a code that is not native. -/
def unsupported (code : String) : String :=
  "Unsupported CRS: " ++ code

end MapContext.Crs
