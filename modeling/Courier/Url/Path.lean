import Courier.Url.Basic

/-!
# Paths

A path is read segment by segment. A single dot adds nothing, and two dots take the
last segment away; a dot may be written as it is or as its code. A segment that
looks like a drive is never taken away, whatever the scheme.

Under `file` the first segment is made to look like a drive in one way if it looks
like one at all, and slashes at the start of a path count for nothing.
-/

namespace Courier.Url

/-- A slash, or a backslash under a special scheme. -/
def isSlash (special : Bool) (c : Char) : Bool := c == '/' || (special && c == '\\')

/-- The number of dots in a segment that has nothing else in it. -/
def dotsOf : List Char → Option Nat
  | [] => some 0
  | '.' :: rest => (dotsOf rest).map (· + 1)
  | '%' :: '2' :: 'e' :: rest => (dotsOf rest).map (· + 1)
  | '%' :: '2' :: 'E' :: rest => (dotsOf rest).map (· + 1)
  | _ => none

/-! ## Drives -/

/-- A letter and a colon, or the bar that may stand for it. -/
def isDrive (cs : List Char) : Bool :=
  match cs with
  | [a, b] => a.isAlpha && (b == ':' || b == '|')
  | _ => false

/-- The segment is a drive, written with a colon. -/
def isNormalDrive (segment : String) : Bool :=
  match segment.toList with
  | [a, ':'] => a.isAlpha
  | _ => false

/-- The drive with a colon after its letter. -/
def normalDrive (cs : List Char) : List Char := cs.take 1 ++ [':']

/-- The first segment of a text is a drive. -/
def startsWithDrive (cs : List Char) : Bool :=
  isDrive (cs.takeWhile fun c => !isSlash true c && c != '?' && c != '#')

/-! ## Segments -/

/-- Takes the last segment away, unless it is a drive. -/
def goUp (parts : List String) : List String :=
  match parts.getLast? with
  | some last => if isDrive last.toList then parts else parts.dropLast
  | none => []

/-- Adds one segment; `last` when no slash follows it. -/
def addSegment (file : Bool) (parts : List String) (segment : List Char) (last : Bool) :
    List String :=
  match dotsOf segment with
  | some 2 => goUp parts ++ (if last then [""] else [])
  | some 1 => parts ++ (if last then [""] else [])
  | _ =>
      let isRoot := file && parts.isEmpty && isDrive segment
      parts ++ [String.ofList (encode pathSet (if isRoot then normalDrive segment else segment))]

/-- Adds the segments of a text that has no slash before the first; `segment` is what has
been read of one, from the last character to the first. -/
def addSegments (special file : Bool) (parts : List String) (segment : List Char) :
    List Char → List String
  | [] => addSegment file parts segment.reverse true
  | c :: rest =>
      if isSlash special c then
        addSegments special file (addSegment file parts segment.reverse false) [] rest
      else addSegments special file parts (c :: segment) rest

/-- The segments of a text after those of `front`. -/
def segmentsAfter (scheme : String) (front : List String) (cs : List Char) : List String :=
  addSegments (isSpecial scheme) (scheme == "file") front [] cs

/-- The path with these segments, without empty ones at the start under `file`. -/
def pathOf (scheme : String) (parts : List String) : Path :=
  if scheme == "file" then
    match parts.dropWhile String.isEmpty with
    | [] => .segments [""]
    | parts => .segments parts
  else .segments parts

/-- The path of a text after the segments of `front`. -/
def resolvePath (scheme : String) (front : List String) (cs : List Char) : Path :=
  pathOf scheme (segmentsAfter scheme front cs)

/-- The segments after an authority: none only where the scheme is not special. -/
def segmentsAfterHost (scheme : String) (cs : List Char) : List String :=
  match cs with
  | [] => if isSpecial scheme then [""] else []
  | c :: rest =>
      segmentsAfter scheme [] (if isSlash (isSpecial scheme) c then rest else cs)

/-- The segments of a URL up to its last slash; a drive stays under `file`. -/
def directory (u : Url) : List String :=
  match u.path with
  | .segments parts =>
      if u.scheme == "file" && parts.getLast?.any isNormalDrive then parts else parts.dropLast
  | .verbatim _ => []

end Courier.Url
