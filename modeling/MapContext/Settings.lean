import MapContext.Text.Blank
import MapContext.Yaml.Document

/-!
# Settings

Settings have defaults, which a YAML file overrides, which variables override, which options of a
command line override. Only the result has to be valid.
-/

namespace MapContext

/-- The settings of the program. -/
structure Settings where
  /-- The least important level that is logged. -/
  logLevel : String := "warn"
  /-- Whether log lines are JSON. -/
  logJson : Bool := false
  /-- How long a request may take. -/
  timeoutSeconds : Nat := 30
  /-- How the program calls itself in requests. -/
  userAgent : String := "owc/0.1.0"
  /-- The protocol version in requests for capabilities. -/
  protocolVersion : String := "1.3.0"
  deriving DecidableEq

namespace Settings

/-- A value that a setting cannot have. -/
structure BadValue where
  /-- The setting or variable. -/
  key : String
  /-- What is wrong with the value. -/
  reason : String
  deriving DecidableEq

/-- A sentence about the value. -/
def BadValue.message (b : BadValue) : String :=
  "Invalid value for " ++ b.key ++ ": " ++ b.reason

/-- The names of the log levels. -/
def logLevels : List String := ["trace", "debug", "info", "warn", "error"]

/-- The protocol versions that can be requested. -/
def protocolVersions : List String := ["1.1.1", "1.3.0"]

/-- A phrase about a value that is not among the known ones. -/
def unknownAmong (value : String) (known : List String) : String :=
  "'" ++ value ++ "' is not one of " ++ ", ".intercalate known

/-- Checks the settings, of which the first bad one is reported. No capital beyond ASCII has a
small letter that occurs in a log level. -/
def validate (s : Settings) : Except BadValue Unit :=
  if !logLevels.contains (Text.lowerAscii s.logLevel) then
    .error ⟨"log_level", unknownAmong s.logLevel logLevels⟩
  else if s.timeoutSeconds = 0 then .error ⟨"http_timeout_secs", "must be greater than 0"⟩
  else if !protocolVersions.contains s.protocolVersion then
    .error ⟨"default_wms_version", unknownAmong s.protocolVersion protocolVersions⟩
  else .ok ()

/-! ## Variables -/

/-- The variables that override settings. -/
def variableNames : List String :=
  ["OWC_LOG_LEVEL", "OWC_LOG_JSON", "OWC_HTTP_TIMEOUT_SECS", "OWC_USER_AGENT",
   "OWC_DEFAULT_WMS_VERSION"]

/-- A truth value in one of its spellings; an empty text is false. -/
def truth? (value : String) : Option Bool :=
  let word := Text.lowerAscii (Text.trim value)
  if ["1", "true", "yes", "on"].contains word then some true
  else if ["0", "false", "no", "off", ""].contains word then some false
  else none

/-- The greatest number of seconds. -/
def maxSeconds : Nat := 18446744073709551615

/-- A number of decimal digits in range. -/
def decimal? (cs : List Char) : Option Nat :=
  if cs.isEmpty || !cs.all Char.isDigit then none
  else if Text.digitsValue cs ≤ maxSeconds then some (Text.digitsValue cs) else none

/-- The characters without a plus sign before them. -/
def withoutPlus (cs : List Char) : List Char :=
  if cs.head? == some '+' then cs.tail else cs

/-- A number of seconds with blanks around it. -/
def seconds? (value : String) : Option Nat :=
  decimal? (withoutPlus (Text.trim value).toList)

/-- The value of a variable that is set, as far as it can be read. -/
def overridden {α : Type} (value? : String → Option String) (key kind : String)
    (read? : String → Option α) (old : α) : Except BadValue α :=
  match value? key with
  | none => .ok old
  | some value =>
    match read? value with
    | some a => .ok a
    | none => .error ⟨key, "'" ++ value ++ "' is not a " ++ kind⟩

/-- The settings with those of variables, of which the first unreadable one is reported. -/
def override (s : Settings) (value? : String → Option String) : Except BadValue Settings := do
  let logJson ← overridden value? "OWC_LOG_JSON" "boolean" truth? s.logJson
  let timeoutSeconds ←
    overridden value? "OWC_HTTP_TIMEOUT_SECS" "number of seconds" seconds? s.timeoutSeconds
  return {
    logLevel := (value? "OWC_LOG_LEVEL").getD s.logLevel
    logJson
    timeoutSeconds
    userAgent := (value? "OWC_USER_AGENT").getD s.userAgent
    protocolVersion := (value? "OWC_DEFAULT_WMS_VERSION").getD s.protocolVersion }

/-! ## Files -/

/-- The text of a scalar that may be a truth value or number: a plain one, or a block with the tag
of such values. -/
def bareText? (tag : String) (value : Yaml.Scalar) : Option String :=
  match value.style with
  | .plain => some value.text
  | .literal => if value.tag = some tag then some value.text else none
  | _ => none

/-- The truth value of a scalar. -/
def boolOf? (value : Yaml.Scalar) : Option Bool := do
  let text ← bareText? "tag:yaml.org,2002:bool" value
  if ["true", "True", "TRUE"].contains text then return true
  else if ["false", "False", "FALSE"].contains text then return false
  else none

/-- The digit value of a character in a base of at most sixteen. -/
def digitIn? (base : Nat) (c : Char) : Option Nat :=
  (Text.hexDigit? c).filter (· < base)

/-- A number of digits in a base, in range. -/
def numeral? (base : Nat) (cs : List Char) : Option Nat :=
  if cs.isEmpty then none
  else (cs.foldlM (fun n c => (digitIn? base c).map (base * n + ·)) 0).filter (· ≤ maxSeconds)

/-- The number of a scalar: decimal without needless zeros, or in another base. -/
def numberOf? (value : Yaml.Scalar) : Option Nat := do
  let text ← bareText? "tag:yaml.org,2002:int" value
  match withoutPlus text.toList with
  | '0' :: 'x' :: cs => numeral? 16 cs
  | '0' :: 'o' :: cs => numeral? 8 cs
  | '0' :: 'b' :: cs => numeral? 2 cs
  | '0' :: _ :: _ => none
  | cs => decimal? cs

/-- The names of the settings in a file. -/
def names : List String :=
  ["log_level", "log_json", "http_timeout_secs", "user_agent", "default_wms_version"]

/-- The settings with one of a file. A text may look like a number. -/
def withEntry (s : Settings) (key : String) (value : Yaml.Scalar) : Option Settings :=
  match key with
  | "log_level" => some { s with logLevel := value.text }
  | "log_json" => (boolOf? value).map fun v => { s with logJson := v }
  | "http_timeout_secs" => (numberOf? value).map fun v => { s with timeoutSeconds := v }
  | "user_agent" => some { s with userAgent := value.text }
  | "default_wms_version" => some { s with protocolVersion := value.text }
  | _ => some s

/-- The settings with those of the entries of a mapping up to its end. None may be set twice;
unknown ones are passed over. At most `fuel` entries are read. -/
def withEntries (d : Yaml.Document) (fuel : Nat) (seen : List String) (s : Settings)
    (events : List (Yaml.Event Nat)) : Option Settings :=
  match fuel, events with
  | 0, _ | _, [] => none
  | _, .ends :: _ => some s
  | fuel + 1, key :: rest => do
    let key := (← d.scalar? key).text
    if !names.contains key then withEntries d fuel seen s (Yaml.skipNode 0 rest)
    else if seen.contains key then none
    else
      let s ← s.withEntry key (← d.scalar? (← rest.head?))
      withEntries d fuel (key :: seen) s (rest.drop 1)

/-- Reads the settings of a file; those that it does not set have their defaults. -/
def read? (text : String) : Option Settings := do
  let d ← Yaml.read? text
  match d.events with
  | [] => some {}
  | .begins _ true :: rest => withEntries d rest.length [] {} rest
  | [.scalar _ ⟨"", .plain, _⟩] => some {}
  | _ => none

end Settings

end MapContext
