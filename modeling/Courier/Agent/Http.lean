import Courier.Failure
import Courier.Json.Parser
import Courier.Text.Encoding
import Courier.Url.Parser

/-!
# HTTP exchanges

What goes out, what comes back, and what an exchange amounts to. Any status is an
answer; only a failure of the transport is none.
-/

namespace Courier

/-- The method of a request; any name will do. -/
inductive HttpMethod where
  | get
  | post
  | put
  | delete
  | other (name : String)
  deriving DecidableEq, Repr

namespace HttpMethod

/-- The name of a method on the wire. -/
def name : HttpMethod → String
  | .get => "GET"
  | .post => "POST"
  | .put => "PUT"
  | .delete => "DELETE"
  | .other name => name

/-- The method of a name. -/
def ofName : String → HttpMethod
  | "GET" => .get
  | "POST" => .post
  | "PUT" => .put
  | "DELETE" => .delete
  | name => .other name

/-- The methods the Agent knows. -/
def isSupported : HttpMethod → Bool
  | .other _ => false
  | _ => true

end HttpMethod

/-- A request to the Agent. -/
structure HttpRequest where
  method : HttpMethod
  url : Url
  /-- The value of the authorization header. -/
  token : Option String
  body : Option Json

namespace HttpRequest

/-- A header value has no control characters but the tab. -/
def isHeaderValue (s : String) : Bool :=
  s.toList.all fun c => c == '\t' || (0x20 ≤ c.toNat && c.toNat != 0x7f)

/-- A host in whose text each character may stand in a request. -/
def isSendableHost (s : String) : Bool :=
  s.toList.all fun c => c != '"' && c != '`' && c != '\x7b' && c != '\x7d'

/-- Whether the request can be sent at all. -/
def isSendable (r : HttpRequest) : Bool :=
  (r.url.scheme == "http" || r.url.scheme == "https") && isSendableHost (r.url.hostText?.getD "") &&
    isHeaderValue (r.token.getD "")

end HttpRequest

/-- An answer as it came over the connection. -/
structure HttpAnswer where
  status : Nat
  body : List UInt8
  /-- The body broke off before its end. -/
  truncated : Bool

namespace HttpAnswer

/-- The status says that the request has been granted. -/
def isSuccess (a : HttpAnswer) : Bool := 200 ≤ a.status && a.status < 300

/-- The body as a text, bad bytes replaced. -/
def text (a : HttpAnswer) : String := String.ofList (Text.ofMarkedBytes a.body)

/-- The body as a text, if it is all there. -/
def text? (a : HttpAnswer) : Except TransportFault String :=
  if a.truncated then .error ⟨"error decoding response body", false⟩ else .ok a.text

end HttpAnswer

/-- The reasons that go with statuses. -/
def statusReasons : List (Nat × String) :=
  [(100, "Continue"), (101, "Switching Protocols"), (102, "Processing"), (200, "OK"),
   (201, "Created"), (202, "Accepted"), (203, "Non Authoritative Information"),
   (204, "No Content"), (205, "Reset Content"), (206, "Partial Content"),
   (207, "Multi-Status"), (208, "Already Reported"), (226, "IM Used"),
   (300, "Multiple Choices"), (301, "Moved Permanently"), (302, "Found"), (303, "See Other"),
   (304, "Not Modified"), (305, "Use Proxy"), (307, "Temporary Redirect"),
   (308, "Permanent Redirect"), (400, "Bad Request"), (401, "Unauthorized"),
   (402, "Payment Required"), (403, "Forbidden"), (404, "Not Found"),
   (405, "Method Not Allowed"), (406, "Not Acceptable"),
   (407, "Proxy Authentication Required"), (408, "Request Timeout"), (409, "Conflict"),
   (410, "Gone"), (411, "Length Required"), (412, "Precondition Failed"),
   (413, "Payload Too Large"), (414, "URI Too Long"), (415, "Unsupported Media Type"),
   (416, "Range Not Satisfiable"), (417, "Expectation Failed"), (418, "I'm a teapot"),
   (421, "Misdirected Request"), (422, "Unprocessable Entity"), (423, "Locked"),
   (424, "Failed Dependency"), (425, "Too Early"), (426, "Upgrade Required"),
   (428, "Precondition Required"), (429, "Too Many Requests"),
   (431, "Request Header Fields Too Large"), (451, "Unavailable For Legal Reasons"),
   (500, "Internal Server Error"), (501, "Not Implemented"), (502, "Bad Gateway"),
   (503, "Service Unavailable"), (504, "Gateway Timeout"), (505, "HTTP Version Not Supported"),
   (506, "Variant Also Negotiates"), (507, "Insufficient Storage"), (508, "Loop Detected"),
   (510, "Not Extended"), (511, "Network Authentication Required")]

/-- The reason that goes with a status, or nothing. -/
def statusReason (status : Nat) : String := (statusReasons.lookup status).getD ""

/-- What an exchange with the Agent amounts to. -/
structure OperationResult where
  passed : Bool
  status : Nat
  message : String
  /-- The body, if it is the text of a JSON value. -/
  data : Option Json

namespace OperationResult

/-- A member of the body. -/
def field? (r : OperationResult) (name : String) : Option Json := r.data.bind (·.get? name)

/-- What an answer with this status and this body amounts to. An answer that is no
success has a message: its own, or else the reason that goes with its status. -/
def ofAnswer (a : HttpAnswer) (text : String) : OperationResult :=
  let data := Json.parse? text
  if a.isSuccess then ⟨true, a.status, "", data⟩
  else
    let own := (data.bind (·.get? "message")).bind Json.asString?
    ⟨false, a.status, own.getD (statusReason a.status), data⟩

end OperationResult
end Courier
