import Courier.Url.Domain

/-!
# Hosts

A domain in its ASCII form, an address of four or of sixteen bytes, or, under a
scheme that is not special, a name that is only percent-encoded. A domain whose
last label is a number has to be an address.
-/

namespace Courier.Url

/-- Why a text is no URL. -/
inductive ParseError where
  | emptyHost
  | domainName
  | port
  | ipv4
  | ipv6
  | domainCharacter
  | noBase
  | baseCannotBeBase
  deriving DecidableEq, Repr

/-- What is said of an address that is none. -/
def ParseError.message : ParseError → String
  | .emptyHost => "empty host"
  | .domainName => "invalid international domain name"
  | .port => "invalid port number"
  | .ipv4 => "invalid IPv4 address"
  | .ipv6 => "invalid IPv6 address"
  | .domainCharacter => "invalid domain character"
  | .noBase => "relative URL without a base"
  | .baseCannotBeBase => "relative URL with a cannot-be-a-base base"

/-- The host of an address. -/
inductive Host where
  | domain (name : String)
  | ipv4 (address : Nat)
  | ipv6 (pieces : List Nat)
  /-- A host under a scheme that is not special; empty where only slashes stand. -/
  | plain (name : String)
  deriving DecidableEq, Repr

namespace Host

/-! ## Four bytes -/

/-- A number in decimal, in octal after `0`, in base sixteen after `0x`; nothing after
the mark is zero. -/
def number? (cs : List Char) : Option Nat :=
  let read (base : Nat) (ds : List Char) : Option Nat :=
    ds.foldl (fun acc c => do
      let n ← acc
      let d ← Text.hexValue? c
      if d < base then some (n * base + d) else none) (some 0)
  match cs with
  | [] => none
  | '0' :: 'x' :: ds | '0' :: 'X' :: ds => read 16 ds
  | '0' :: d :: ds => read 8 (d :: ds)
  | ds => read 10 ds

/-- The labels without an empty one at the end. -/
def addressParts (name : List Char) : List (List Char) :=
  let parts := Text.split '.' name
  if parts.length > 1 ∧ parts.getLast? = some [] then parts.dropLast else parts

/-- The last label is a number, or all digits. -/
def endsInNumber (name : List Char) : Bool :=
  let parts := Text.split '.' name
  let parts := if parts.getLast? = some [] then parts.dropLast else parts
  match parts.getLast? with
  | none => false
  | some last =>
      (!last.isEmpty && last.all fun c => '0' ≤ c && c ≤ '9') ||
        (last != [] && (number? last).isSome)

/-- Up to four parts; the last fills the bytes that are left. -/
def ipv4? (name : List Char) : Option Nat := do
  let parts := addressParts name
  if 4 < parts.length then none
  else
    let numbers ← parts.mapM number?
    let last ← numbers.getLast?
    let front := numbers.dropLast
    if front.any (255 < ·) || Nat.pow 256 (5 - numbers.length) ≤ last then none
    else return last + ((front.zipIdx.map fun (n, i) => n * Nat.pow 256 (3 - i)).foldl (· + ·) 0)

/-- The four numbers of an address of four bytes. -/
def ipv4Text (address : Nat) : String :=
  String.intercalate "." <| [3, 2, 1, 0].map fun i => toString (address / Nat.pow 256 i % 256)

/-! ## Sixteen bytes -/

/-- A part of one to four digits. -/
def piece? (cs : List Char) : Option Nat :=
  if cs.isEmpty || 4 < cs.length then none
  else cs.foldl (fun acc c => do return (← acc) * 16 + (← Text.hexValue? c)) (some 0)

/-- A decimal byte without leading zeros. -/
def byte? (cs : List Char) : Option Nat := do
  let n ← Text.decimalValue? cs
  if 255 < n || (1 < cs.length && cs.head? == some '0') then none else return n

/-- The two pieces of four dotted bytes. -/
def dotted? (cs : List Char) : Option (List Nat) := do
  match ← (Text.split '.' cs).mapM byte? with
  | [a, b, c, d] => return [a * 256 + b, c * 256 + d]
  | _ => none

/-- The pieces between colons; the last may be four dotted bytes. -/
def pieces? : List (List Char) → Option (List Nat)
  | [] => some []
  | [last] => if last.contains '.' then dotted? last else (piece? last).map ([·])
  | p :: rest => do
      let n ← piece? p
      let rest ← pieces? rest
      return n :: rest

/-- The pieces of one side of a double colon. -/
def side? (cs : List Char) : Option (List Nat) :=
  if cs.isEmpty then some [] else pieces? (Text.split ':' cs)

/-- The text before and after the first double colon. -/
def splitDouble : List Char → Option (List Char × List Char)
  | ':' :: ':' :: rest => some ([], rest)
  | c :: rest => (splitDouble rest).map fun (a, b) => (c :: a, b)
  | [] => none

/-- The eight pieces of an address of sixteen bytes, of which a row of zeros may be left
out. -/
def ipv6? (cs : List Char) : Option (List Nat) := do
  match splitDouble cs with
  | some (before, after) =>
      if before.contains '.' then none
      else
        let a ← side? before
        let b ← side? after
        if 7 < a.length + b.length then none
        else return a ++ List.replicate (8 - a.length - b.length) 0 ++ b
  | none =>
      let ps ← pieces? (Text.split ':' cs)
      if ps.length = 8 then return ps else none

/-- The length of the run of zeros at the head. -/
def zeros (ps : List Nat) : Nat := (ps.takeWhile (· == 0)).length

/-- Where the first of the longest runs of at least two zeros begins, and its length. -/
def longestZeros (ps : List Nat) : Option (Nat × Nat) :=
  (List.range ps.length).foldl (fun best i =>
    let n := zeros (ps.drop i)
    if n < 2 then best
    else
      match best with
      | some (_, m) => if m < n then some (i, n) else best
      | none => some (i, n)) none

/-- A piece without the zeros in front. -/
def hexPiece (n : Nat) : String :=
  let ds := [n / 4096 % 16, n / 256 % 16, n / 16 % 16].dropWhile (· == 0)
  String.ofList ((ds ++ [n % 16]).map Text.hexDigit)

/-- The pieces of an address, without the longest row of zeros. -/
def ipv6Text (ps : List Nat) : String :=
  let join (qs : List Nat) := String.intercalate ":" (qs.map hexPiece)
  match longestZeros ps with
  | some (i, n) => join (ps.take i) ++ "::" ++ join (ps.drop (i + n))
  | none => join ps

/-! ## Reading and writing -/

/-- The text inside square brackets. -/
def bracketed? (cs : List Char) : Option (List Char) :=
  if cs.getLast? = some ']' then some (cs.drop 1).dropLast else none

/-- A host under a special scheme. -/
def parse (cs : List Char) : Except ParseError Host :=
  if cs.head? = some '[' then
    match (bracketed? cs).bind ipv6? with
    | some ps => .ok (.ipv6 ps)
    | none => .error .ipv6
  else
    match Domain.ofBytes? (decodeBytes cs) with
    | none => .error .domainName
    | some name =>
        if name.isEmpty then .error .emptyHost
        else if endsInNumber name.toList then
          match ipv4? name.toList with
          | some address => .ok (.ipv4 address)
          | none => .error .ipv4
        else .ok (.domain name)

/-- A host under any other scheme. -/
def parsePlain (cs : List Char) : Except ParseError Host :=
  if cs.head? = some '[' then
    match (bracketed? cs).bind ipv6? with
    | some ps => .ok (.ipv6 ps)
    | none => .error .ipv6
  else if cs.any fun c =>
      ['\x00', '\t', '\n', '\r', ' ', '#', '/', ':', '<', '>', '?', '@', '[', '\\', ']', '^',
        '|'].contains c then .error .domainCharacter
  else .ok (.plain (String.ofList (encode controls cs)))

/-- The host as it is written. -/
def text : Host → String
  | .domain name => name
  | .ipv4 address => ipv4Text address
  | .ipv6 ps => "[" ++ ipv6Text ps ++ "]"
  | .plain name => name

end Host
end Courier.Url
