import Courier.Text.Case
import Courier.Text.Split
import Courier.Url.Path

/-!
# Reading URLs

A text is read on its own or against a base. Blanks and control characters at its
ends, and tabs and line breaks anywhere, do not count. A special scheme takes a
backslash for a slash and any number of slashes before the host.
-/

namespace Courier.Url

/-- What stands in the text after the authority. -/
structure Tail where
  path : List Char
  query : Option (List Char)
  fragment : Option (List Char)

/-- Cuts off the fragment, then the query. -/
def tail (cs : List Char) : Tail :=
  let (front, fragment) := Text.cut '#' cs
  let (path, query) := Text.cut '?' front
  ⟨path, query, fragment⟩

/-- A query with escapes for what cannot stand in one. -/
def queryText (scheme : String) (cs : List Char) : String :=
  String.ofList (encode (if isSpecial scheme then specialQuerySet else querySet) cs)

/-- A fragment with escapes for what cannot stand in one. -/
def fragmentText (cs : List Char) : String := String.ofList (encode fragmentSet cs)

/-! ## Authority -/

/-- The text up to the path, the query or the fragment, and the rest. -/
def cutAuthority (special : Bool) (cs : List Char) : List Char × List Char :=
  let ends (c : Char) : Bool := isSlash special c || c == '?' || c == '#'
  (cs.takeWhile fun c => !ends c, cs.dropWhile fun c => !ends c)

/-- User and password before the last at sign, and what follows it. -/
def cutUserinfo (cs : List Char) : Option (List Char) × List Char :=
  if cs.contains '@' then
    let host := (cs.reverse.takeWhile (· != '@')).reverse
    (some (cs.take (cs.length - host.length - 1)), host)
  else (none, cs)

/-- The host before the first colon outside brackets, and the port after it. -/
def cutPort (bracket : Bool) : List Char → List Char × Option (List Char)
  | [] => ([], none)
  | ':' :: rest =>
      if bracket then
        let (host, port) := cutPort bracket rest
        (':' :: host, port)
      else ([], some rest)
  | c :: rest =>
      let inside := c = '[' || (bracket && c != ']')
      let (host, port) := cutPort inside rest
      (c :: host, port)

/-- A port of digits below `2 ^ 16`; none if it is empty or the scheme's own. -/
def readPort (scheme : String) (cs : List Char) : Except ParseError (Option Nat) :=
  if cs.isEmpty then .ok none
  else
    match Text.decimalValue? cs with
    | some n =>
        if 65535 < n then .error .port
        else .ok (if defaultPort? scheme = some n then none else some n)
    | none => .error .port

/-- The address with a query and a fragment put to it. -/
def withTail (u : Url) (t : Tail) : Url :=
  { u with
    query := t.query.map (queryText u.scheme)
    fragment := t.fragment.map fragmentText }

/-- Reads what follows the two slashes. A user or a password needs a host, and so does a port. -/
def afterSlashes (scheme : String) (cs : List Char) : Except ParseError Url := do
  let special := isSpecial scheme
  let (authority, rest) := cutAuthority special cs
  let (userinfo, hostAndPort) := cutUserinfo authority
  -- An at sign alone says nothing, but something has to follow it.
  if userinfo == some [] && hostAndPort.isEmpty && !rest.isEmpty then throw .emptyHost
  let (hostChars, portChars) := cutPort false hostAndPort
  if hostChars.isEmpty && (special || portChars.isSome) then throw .emptyHost
  let host ← if special then Host.parse hostChars else Host.parsePlain hostChars
  let (port, rest) ← match portChars with
    | some cs => do
        -- A port ends at a backslash under any scheme.
        let (digits, more) := cutAuthority true cs
        pure (← readPort scheme digits, more ++ rest)
    | none => pure (none, rest)
  let (user, password) := Text.cut ':' (userinfo.getD [])
  let username := String.ofList (encode userinfoSet user)
  let password := String.ofList (encode userinfoSet (password.getD []))
  if hostChars.isEmpty && !(username.isEmpty && password.isEmpty) then throw .emptyHost
  let t := tail rest
  return withTail
    { scheme, username, password, host := some host, port
      path := pathOf scheme (segmentsAfterHost scheme t.path), query := none, fragment := none } t

/-! ## Relative texts -/

/-- The base with the path, the query or the fragment of a text in the place of its own.
What comes before them in the text takes the place of what comes after them in the base. -/
def merge (base : Url) (cs : List Char) : Url :=
  let t := tail cs
  if t.path.isEmpty then
    match t.query with
    | some _ => withTail base t
    | none => { base with fragment := t.fragment.map fragmentText }
  else withTail { base with path := resolvePath base.scheme base.directory t.path } t

/-- Reads a text against a base with a hierarchy. Slashes at its start may be backslashes
under any scheme; all of them are skipped unless the first two are slashes indeed. -/
def relative (base : Url) (cs : List Char) : Except ParseError Url :=
  match cs with
  | '/' :: '/' :: rest => afterSlashes base.scheme rest
  | c :: rest =>
      if !isSlash true c then .ok (merge base cs)
      else if rest.head?.any (isSlash true) then
        afterSlashes base.scheme (rest.dropWhile (isSlash true))
      else
        let t := tail rest
        .ok (withTail { base with path := resolvePath base.scheme [] t.path } t)
  | [] => .ok (merge base [])

/-! ## Files -/

/-- A file on this machine. -/
def localFile (front : List String) (cs : List Char) : Url :=
  let t := tail cs
  withTail
    { scheme := "file", username := "", password := "", host := some (.domain ""), port := none
      path := resolvePath "file" front t.path, query := none, fragment := none } t

/-- Reads what follows `file://`: a host, if it is neither empty nor this machine, and a path.
Where the path begins with a drive there is no host. -/
def fileAfterSlashes (cs : List Char) : Except ParseError Url := do
  let (authority, rest) := cutAuthority true cs
  if isDrive authority then return localFile [] cs
  else if authority.isEmpty then return localFile [] rest
  else
    let host ← Host.parse authority
    if host = .domain "localhost" then return localFile [] rest
    else
      let t := tail rest
      let parts := segmentsAfterHost "file" t.path
      let u := localFile [] rest
      return { u with
        host := if parts.head?.any isNormalDrive then u.host else some host
        path := pathOf "file" parts }

/-- Reads what follows `file:/`, with the drive or the host of the base. -/
def fileAfterSlash (base : Option Url) (cs : List Char) : Url :=
  match base with
  | none => localFile [] cs
  | some b =>
      if startsWithDrive cs then localFile [] cs
      else
        match b.path with
        | .segments (first :: _) =>
            if isNormalDrive first then localFile [first] cs
            else { localFile [] cs with host := b.host }
        | _ => { localFile [] cs with host := b.host }

/-- Reads what follows `file:`. -/
def file (base : Option Url) (cs : List Char) : Except ParseError Url :=
  match cs with
  | c :: rest =>
      if !isSlash true c then .ok path
      else
        match rest with
        | d :: more =>
            if isSlash true d then fileAfterSlashes more else .ok (fileAfterSlash base rest)
        | [] => .ok (fileAfterSlash base [])
  | [] => .ok path
where
  /-- Reads a path without a slash before it. -/
  path : Url :=
    match base with
    | none => localFile [] cs
    | some b => if startsWithDrive cs then localFile [] cs else merge b cs

/-! ## Whole texts -/

/-- The scheme before a colon, in lower case. -/
def scheme? (cs : List Char) : Option (String × List Char) :=
  let inScheme (c : Char) : Bool := c.isAlphanum || c == '+' || c == '-' || c == '.'
  match cs with
  | c :: _ =>
      if !c.isAlpha then none
      else
        match cs.dropWhile inScheme with
        | ':' :: rest => some (Text.lower (String.ofList (cs.takeWhile inScheme)), rest)
        | _ => none
  | [] => none

/-- Reads a text without a hierarchy or without a host. -/
def notSpecial (scheme : String) (cs : List Char) : Except ParseError Url :=
  match cs with
  | '/' :: '/' :: rest => afterSlashes scheme rest
  | _ =>
      let t := tail cs
      let path := match t.path with
        | '/' :: rest => resolvePath scheme [] rest
        | other => .verbatim (String.ofList (encode controls other))
      .ok (withTail
        { scheme, username := "", password := "", host := none, port := none, path
          query := none, fragment := none } t)

/-- The characters that count. -/
def significant (s : String) : List Char :=
  let edge (c : Char) : Bool := c.toNat ≤ 0x20
  let cs := ((s.toList.dropWhile edge).reverse.dropWhile edge).reverse
  cs.filter fun c => c != '\t' && c != '\n' && c != '\r'

/-- Reads a text, against a base if there is one. -/
def parseWith (base : Option Url) (s : String) : Except ParseError Url :=
  let cs := significant s
  match scheme? cs with
  | some (scheme, rest) =>
      let sameScheme := base.filter (·.scheme == scheme)
      if scheme == "file" then file sameScheme rest
      else if isSpecial scheme then
        let slashes := rest.takeWhile (isSlash true)
        match sameScheme with
        | some b =>
            if slashes.length < 2 then relative b rest
            else afterSlashes scheme (rest.dropWhile (isSlash true))
        | none => afterSlashes scheme (rest.dropWhile (isSlash true))
      else notSpecial scheme rest
  | none =>
      match base with
      | none => .error .noBase
      | some b =>
          match b.path, cs with
          | .verbatim _, '#' :: rest => .ok { b with fragment := some (fragmentText rest) }
          | .verbatim _, _ => .error .baseCannotBeBase
          | .segments _, _ => if b.scheme == "file" then file (some b) cs else relative b cs

/-- Reads an address that stands by itself. -/
def parse (s : String) : Except ParseError Url := parseWith none s

/-- The URL a text denotes when it is read at this one. -/
def join (base : Url) (s : String) : Except ParseError Url := parseWith (some base) s

/-- The URL with another host; unchanged if it can have none or the host is not one for it. -/
def withHost (u : Url) (host : String) : Url :=
  match u.path with
  | .verbatim _ => u
  | .segments _ =>
      let cs := host.toList
      let cs := if cs.head? = some '[' then cs else cs.takeWhile (· != ':')
      match if isSpecial u.scheme then Host.parse cs else Host.parsePlain cs with
      | .ok h => { u with host := some h }
      | .error _ => u

end Courier.Url
