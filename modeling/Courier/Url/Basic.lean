import Courier.Url.Host

/-!
# URLs

A URL in parts, and its text. The path is a list of segments, or, under a scheme
without a hierarchy, a text that no other URL can be resolved against.
-/

namespace Courier

namespace Url

/-- The path of an address, in segments or as it stands. -/
inductive Path where
  | segments (parts : List String)
  | verbatim (text : String)
  deriving DecidableEq, Repr

end Url

/-- An address, taken apart. -/
structure Url where
  scheme : String
  username : String
  password : String
  host : Option Url.Host
  port : Option Nat
  path : Url.Path
  query : Option String
  fragment : Option String
  deriving DecidableEq, Repr

namespace Url

/-- The port a special scheme uses when none is given. -/
def defaultPort? : String → Option Nat
  | "http" | "ws" => some 80
  | "https" | "wss" => some 443
  | "ftp" => some 21
  | _ => none

/-- The schemes whose URLs always have a host and a path. -/
def isSpecial (scheme : String) : Bool := (defaultPort? scheme).isSome || scheme == "file"

/-- The path as it is written. -/
def pathText (u : Url) : String :=
  match u.path with
  | .verbatim text => text
  | .segments parts => String.join (parts.map ("/" ++ ·))

/-- The host, unless it is empty. -/
def hostText? (u : Url) : Option String :=
  match u.host with
  | some h => if h.text.isEmpty then none else some h.text
  | none => none

/-- The user and the password with the mark after them, if there are any. -/
def credentials (u : Url) : String :=
  if u.username.isEmpty && u.password.isEmpty then ""
  else u.username ++ (if u.password.isEmpty then "" else ":" ++ u.password) ++ "@"

/-- The host with what stands around it. A path that begins with two slashes is kept
apart from a host that is not there. -/
def authorityText (u : Url) : String :=
  match u.host with
  | some h =>
      "//" ++ u.credentials ++ h.text ++ (match u.port with
        | some p => ":" ++ toString p
        | none => "")
  | none =>
      match u.path with
      | .segments ("" :: _ :: _) => "/."
      | _ => ""

/-- The address as it is written. -/
def text (u : Url) : String :=
  u.scheme ++ ":" ++ u.authorityText ++ u.pathText ++
    (match u.query with
      | some q => "?" ++ q
      | none => "") ++
    (match u.fragment with
      | some f => "#" ++ f
      | none => "")

/-- The URL with these names and values at the end of its query. -/
def appendQuery (u : Url) (pairs : List (String × String)) : Url :=
  if pairs.isEmpty then u
  else
    let added := formQuery pairs
    match u.query with
    | some q => { u with query := some (if q.isEmpty then added else q ++ "&" ++ added) }
    | none => { u with query := some added }

end Url
end Courier
