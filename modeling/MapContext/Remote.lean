import MapContext.Capabilities.Reading
import MapContext.Host
import MapContext.MapRequest
import MapContext.Settings

/-!
# Capabilities from a service

A service is asked for its capabilities with one request. Only a successful answer is read.
-/

namespace MapContext.Remote

/-- Whether a source is the address of a service and not a file. -/
def isAddress (source : String) : Bool :=
  let s := Text.lowerAscii source
  s.startsWith "http://" || s.startsWith "https://"

/-- Whether a text can be sent as a header: it has no control characters but tabs. -/
def isHeaderValue (text : String) : Bool :=
  text.toUTF8.toList.all fun b => b == 9 || (32 ≤ b && b != 127)

/-- The phrases of statuses. -/
def phrases : List (Nat × String) :=
  [(100, "Continue"), (101, "Switching Protocols"), (102, "Processing"), (200, "OK"),
   (201, "Created"), (202, "Accepted"), (203, "Non Authoritative Information"),
   (204, "No Content"), (205, "Reset Content"), (206, "Partial Content"), (207, "Multi-Status"),
   (208, "Already Reported"), (226, "IM Used"), (300, "Multiple Choices"),
   (301, "Moved Permanently"), (302, "Found"), (303, "See Other"), (304, "Not Modified"),
   (305, "Use Proxy"), (307, "Temporary Redirect"), (308, "Permanent Redirect"),
   (400, "Bad Request"), (401, "Unauthorized"), (402, "Payment Required"), (403, "Forbidden"),
   (404, "Not Found"), (405, "Method Not Allowed"), (406, "Not Acceptable"),
   (407, "Proxy Authentication Required"), (408, "Request Timeout"), (409, "Conflict"),
   (410, "Gone"), (411, "Length Required"), (412, "Precondition Failed"),
   (413, "Payload Too Large"), (414, "URI Too Long"), (415, "Unsupported Media Type"),
   (416, "Range Not Satisfiable"), (417, "Expectation Failed"), (418, "I'm a teapot"),
   (421, "Misdirected Request"), (422, "Unprocessable Entity"), (423, "Locked"),
   (424, "Failed Dependency"), (426, "Upgrade Required"), (428, "Precondition Required"),
   (429, "Too Many Requests"), (431, "Request Header Fields Too Large"),
   (451, "Unavailable For Legal Reasons"), (500, "Internal Server Error"),
   (501, "Not Implemented"), (502, "Bad Gateway"), (503, "Service Unavailable"),
   (504, "Gateway Timeout"), (505, "HTTP Version Not Supported"),
   (506, "Variant Also Negotiates"), (507, "Insufficient Storage"), (508, "Loop Detected"),
   (510, "Not Extended"), (511, "Network Authentication Required")]

/-- A status with its phrase. -/
def statusText (status : Nat) : String :=
  toString status ++ " " ++ (phrases.lookup status).getD "<unknown status code>"

/-- Whether a status announces success. -/
def isSuccess (status : Nat) : Bool :=
  200 ≤ status && status < 300

/-- The error of a status without success. -/
def refusal (url : Url) (status : Nat) : ServiceError :=
  .unavailable (url.display ++ " returned HTTP " ++ statusText status)

/-- The error of a request without an answer. -/
def silence (url : Url) (reason : String) : ServiceError :=
  .unavailable
    (url.display ++ ": error sending request for url (" ++ url.display ++ "): " ++ reason)

/-- The capabilities that a reply gives. -/
def received (url : Url) : Reply → Except ServiceError Capabilities
  | .none reason => .error (silence url reason)
  | .brokenOff status reason =>
    .error (if isSuccess status then .unavailable (url.display ++ ": " ++ reason)
      else refusal url status)
  | .answer status body =>
    if !isSuccess status then .error (refusal url status)
    else match Capabilities.read body with
      | .ok c => .ok c
      | .error e => .error e.toService

/-- The request for the capabilities of the service at an address. -/
def request (settings : Settings) (href : String) : Except ServiceError Request :=
  if !isHeaderValue settings.userAgent then
    .error (.internal
      "HTTP client setup failed: builder error: failed to parse header value")
  else match MapRequest.capabilitiesUrl href settings.protocolVersion with
    | .error e => .error (.invalidParameter "href" (href ++ ": " ++ e.message))
    | .ok url => .ok ⟨url, settings.userAgent, settings.timeoutSeconds⟩

/-- Asks the service at an address for its capabilities. -/
def capabilities {m : Type → Type} [Monad m] (host : Host m) (settings : Settings)
    (href : String) : m (Except ServiceError Capabilities) :=
  match request settings href with
  | .error e => pure (.error e)
  | .ok r => do
    let reply ← host.send r
    return received r.url reply

end MapContext.Remote
