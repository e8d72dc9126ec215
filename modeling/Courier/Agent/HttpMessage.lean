import Courier.Agent.Http
import Courier.Json.Printer
import Courier.Text.Blank
import Courier.Text.Case
import Courier.Text.Digit

/-!
# HTTP messages

The bytes of a request, and the answer that the bytes of a response amount to. A
connection serves one exchange, so that a response ends with the connection unless
it says before that where it ends.
-/

namespace Courier

namespace HttpRequest

/-- The host and the port, if it is not the usual one. -/
def authority (r : HttpRequest) : String :=
  (r.url.hostText?.getD "") ++ (match r.url.port with
    | some p => ":" ++ toString p
    | none => "")

/-- The path with the query. -/
def target (r : HttpRequest) : String :=
  r.url.pathText ++ (match r.url.query with
    | some q => "?" ++ q
    | none => "")

/-- The bytes of the body. -/
def bodyBytes (r : HttpRequest) : List UInt8 :=
  match r.body with
  | some v => Text.utf8 v.text.toList
  | none => []

/-- The headers of a request, in the order in which they are sent. -/
def headers (r : HttpRequest) : List (String × String) :=
  [("host", r.authority), ("accept", "*/*"), ("connection", "close")] ++
    (match r.token with
      | some token => [("authorization", token)]
      | none => []) ++
    (if r.body.isSome then
      [("content-type", "application/json"), ("content-length", toString r.bodyBytes.length)]
    else [])

/-- The text before the body. -/
def head (r : HttpRequest) : String :=
  r.method.name ++ " " ++ r.target ++ " HTTP/1.1\r\n" ++
    String.join (r.headers.map fun (name, value) => name ++ ": " ++ value ++ "\r\n") ++ "\r\n"

/-- The request as it goes over the connection. -/
def bytes (r : HttpRequest) : List UInt8 := Text.utf8 r.head.toList ++ r.bodyBytes

end HttpRequest

namespace HttpAnswer

/-- What stands before an empty line, and what stands after it. -/
def splitHead : List UInt8 → Option (List UInt8 × List UInt8)
  | 13 :: 10 :: 13 :: 10 :: rest => some ([], rest)
  | b :: rest => (splitHead rest).map fun (head, body) => (b :: head, body)
  | [] => none

/-- The first line, and what stands after it. -/
def splitLine : List UInt8 → Option (List UInt8 × List UInt8)
  | 13 :: 10 :: rest => some ([], rest)
  | b :: rest => (splitLine rest).map fun (line, more) => (b :: line, more)
  | [] => none

/-- Bytes read as text, whatever they are. -/
def textOf (bs : List UInt8) : String := String.ofList (Text.ofUtf8Lenient bs)

/-- The number in the first line. -/
def statusOf (line : String) : Option Nat :=
  match line.splitOn " " with
  | _ :: code :: _ => Text.decimalValue? code.toList
  | _ => none

/-- The name of a header in lower case, and its value. -/
def headerOf (line : String) : String × String :=
  match line.splitOn ":" with
  | name :: value => (Text.lower (Text.trim name), Text.trim (":".intercalate value))
  | [] => ("", "")

/-- A number in hexadecimal digits. -/
def hexNumber? (cs : List Char) : Option Nat :=
  if cs.isEmpty then none
  else cs.foldlM (fun n c => (Text.hexValue? c).map fun d => n * 16 + d) 0

/-- The bytes of the chunks, and whether they break off before the last one. -/
def unchunk : Nat → List UInt8 → List UInt8 × Bool
  | 0, _ => ([], true)
  | fuel + 1, bs =>
      match splitLine bs with
      | none => ([], true)
      | some (line, rest) =>
          let digits := (Text.trim (((textOf line).splitOn ";").headD "")).toList
          match hexNumber? digits with
          | none => ([], true)
          | some 0 => ([], false)
          | some size =>
              let (more, broken) := unchunk fuel (rest.drop (size + 2))
              (rest.take size ++ more, broken || rest.length < size)

/-- The body that follows these headers. -/
def bodyOf (status : Nat) (headers : List (String × String)) (rest : List UInt8) :
    List UInt8 × Bool :=
  if status == 204 || status == 304 then ([], false)
  else if headers.lookup "transfer-encoding" == some "chunked" then unchunk rest.length rest
  else
    match (headers.lookup "content-length").bind fun v => Text.decimalValue? v.toList with
    | some size => (rest.take size, rest.length < size)
    | none => (rest, false)

/-- The answer that the bytes of a response amount to. -/
def ofBytes? (bs : List UInt8) : Option HttpAnswer := do
  let (head, rest) ← splitHead bs
  match (textOf head).splitOn "\r\n" with
  | [] => none
  | first :: lines =>
      let status ← statusOf first
      let (body, truncated) := bodyOf status (lines.map headerOf) rest
      return { status, body, truncated }

end HttpAnswer
end Courier
