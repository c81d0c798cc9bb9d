import TrafficSteering.Json.Basic
import TrafficSteering.Net.Url

namespace TrafficSteering.Net.Http

inductive Method where
  | get
  | post
  | put
  | delete
deriving DecidableEq, Inhabited

def Method.name : Method → String
  | get => "GET"
  | post => "POST"
  | put => "PUT"
  | delete => "DELETE"

/-- A request; its body, if it has one, is sent as the text of a JSON document. -/
structure Request where
  method : Method
  url : Url
  token : Option String := none
  body : Option Json := none
deriving DecidableEq, Inhabited

def Request.contentType (r : Request) : Option String := r.body.map fun _ ↦ "application/json"

def withoutOrderMark (text : String) : String :=
  match text.toList with
  | c :: rest => if c.toNat = 0xFEFF then String.ofList rest else text
  | [] => text

structure Response where
  status : Nat
  headers : List (String × String) := []
  body : String := ""
deriving DecidableEq, Inhabited

namespace Response

def text (r : Response) : String := withoutOrderMark r.body

def isSuccess (r : Response) : Bool := 200 ≤ r.status && r.status < 300

def lowerCase (text : String) : String := String.ofList (text.toList.map Char.toLower)

def header? (r : Response) (name : String) : Option String :=
  (r.headers.find? fun h ↦ lowerCase h.1 == lowerCase name).map Prod.snd

end Response

/-- Answers requests one by one. -/
structure Peer (π : Type) where
  exchange : Request → π → Option Response × π

namespace Peer

variable {π : Type}

def unreachable : Peer π := ⟨fun _ s ↦ (none, s)⟩

def recorded (p : Peer π) : Peer (π × List Request) where
  exchange r s :=
    let (answer, s') := p.exchange r s.1
    (answer, s', r :: s.2)

end Peer

def isVisible (text : String) : Bool :=
  text.toList.all fun c ↦ (0x20 ≤ c.toNat && c.toNat < 0x7F) || c == '\t'

/-- Whether a text can stand as the value of a header: control characters cannot. -/
def isHeaderValue (text : String) : Bool :=
  text.toList.all fun c ↦ (0x20 ≤ c.toNat && c.toNat != 0x7F) || c == '\t'

def trimHeader (text : String) : String :=
  let outer (c : Char) : Bool := c == ' ' || c == '\t'
  String.ofList ((text.toList.dropWhile outer).reverse.dropWhile outer).reverse

def reasonPhrase? : Nat → Option String
  | 100 => some "Continue"
  | 101 => some "Switching Protocols"
  | 102 => some "Processing"
  | 200 => some "OK"
  | 201 => some "Created"
  | 202 => some "Accepted"
  | 203 => some "Non Authoritative Information"
  | 204 => some "No Content"
  | 205 => some "Reset Content"
  | 206 => some "Partial Content"
  | 207 => some "Multi-Status"
  | 208 => some "Already Reported"
  | 226 => some "IM Used"
  | 300 => some "Multiple Choices"
  | 301 => some "Moved Permanently"
  | 302 => some "Found"
  | 303 => some "See Other"
  | 304 => some "Not Modified"
  | 305 => some "Use Proxy"
  | 307 => some "Temporary Redirect"
  | 308 => some "Permanent Redirect"
  | 400 => some "Bad Request"
  | 401 => some "Unauthorized"
  | 402 => some "Payment Required"
  | 403 => some "Forbidden"
  | 404 => some "Not Found"
  | 405 => some "Method Not Allowed"
  | 406 => some "Not Acceptable"
  | 407 => some "Proxy Authentication Required"
  | 408 => some "Request Timeout"
  | 409 => some "Conflict"
  | 410 => some "Gone"
  | 411 => some "Length Required"
  | 412 => some "Precondition Failed"
  | 413 => some "Payload Too Large"
  | 414 => some "URI Too Long"
  | 415 => some "Unsupported Media Type"
  | 416 => some "Range Not Satisfiable"
  | 417 => some "Expectation Failed"
  | 418 => some "I'm a teapot"
  | 421 => some "Misdirected Request"
  | 422 => some "Unprocessable Entity"
  | 423 => some "Locked"
  | 424 => some "Failed Dependency"
  | 426 => some "Upgrade Required"
  | 428 => some "Precondition Required"
  | 429 => some "Too Many Requests"
  | 431 => some "Request Header Fields Too Large"
  | 451 => some "Unavailable For Legal Reasons"
  | 500 => some "Internal Server Error"
  | 501 => some "Not Implemented"
  | 502 => some "Bad Gateway"
  | 503 => some "Service Unavailable"
  | 504 => some "Gateway Timeout"
  | 505 => some "HTTP Version Not Supported"
  | 506 => some "Variant Also Negotiates"
  | 507 => some "Insufficient Storage"
  | 508 => some "Loop Detected"
  | 510 => some "Not Extended"
  | 511 => some "Network Authentication Required"
  | _ => none

end TrafficSteering.Net.Http
