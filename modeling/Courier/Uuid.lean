import Courier.Text.Digit

/-!
# UUIDs

Sixteen bytes. Four texts denote one: 32 hexadecimal digits, the five groups of
8, 4, 4, 4 and 12 digits with hyphens between them, and the groups in braces or
after `urn:uuid:`. Either case of a digit is read, the lower case is written.
-/

namespace Courier

/-- An identifier of sixteen bytes. -/
structure Uuid where
  bytes : List UInt8
  length_eq : bytes.length = 16
  deriving DecidableEq

namespace Uuid

/-- What is wrong with a text that denotes no UUID. -/
inductive Flaw where
  | character (c : Char) (position : Nat)
  | simpleLength (length : Nat)
  | groupCount (count : Nat)
  | groupLength (group : Nat) (length : Nat)
  deriving DecidableEq, Repr

/-- The number of digits in each group. -/
def groupSizes : List Nat := [8, 4, 4, 4, 12]

/-- What is said of a text that is no UUID. -/
def Flaw.message : Flaw → String
  | .character c position =>
      "invalid character: expected an optional prefix of `urn:uuid:` followed by [0-9a-fA-F-], " ++
        "found `" ++ String.singleton c ++ "` at " ++ toString position
  | .simpleLength length =>
      "invalid length: expected length 32 for simple format, found " ++ toString length
  | .groupCount count => "invalid group count: expected 5, found " ++ toString count
  | .groupLength group length =>
      "invalid group length in group " ++ toString group ++ ": expected " ++
        toString (groupSizes.getD group 0) ++ ", found " ++ toString length

/-- The bytes of pairs of hexadecimal digits. -/
def hexBytes? : List Char → Option (List UInt8)
  | [] => some []
  | a :: b :: rest => do
      let hi ← Text.hexValue? a
      let lo ← Text.hexValue? b
      let rest ← hexBytes? rest
      return UInt8.ofNat (hi * 16 + lo) :: rest
  | _ => none

/-- The UUID of these bytes, if they are sixteen. -/
def ofBytes? (bytes : List UInt8) : Option Uuid :=
  if h : bytes.length = 16 then some ⟨bytes, h⟩ else none

/-- The UUID of 32 digits. -/
def ofDigits? (cs : List Char) : Option Uuid := (hexBytes? cs).bind ofBytes?

/-- The UUID of 36 characters with hyphens at places 8, 13, 18 and 23. -/
def ofGroups? (cs : List Char) : Option Uuid :=
  if cs.length = 36 ∧ [8, 13, 18, 23].all (fun i => cs[i]? == some '-') then
    ofDigits? (cs.filter (· != '-'))
  else none

/-- The prefix of a UUID that is written as a name. -/
def urn : List Char := "urn:uuid:".toList

/-- The text inside braces or after `urn:uuid:`, with the number of characters before it. -/
def unwrap (cs : List Char) : List Char × Nat × Bool :=
  if cs.head? = some '\x7b' ∧ 2 ≤ cs.length ∧ cs.getLast? = some '\x7d' then
    ((cs.drop 1).dropLast, 1, false)
  else if urn.isPrefixOf cs then (cs.drop urn.length, urn.length, false)
  else (cs, 0, true)

/-- The UUID a text denotes. -/
def parse? (s : String) : Option Uuid :=
  let cs := s.toList
  if cs.length = 32 then ofDigits? cs
  else
    let (inner, before, plain) := unwrap cs
    if plain ∨ (before = 1 ∧ cs.length = 38) ∨ (before = urn.length ∧ cs.length = 45) then
      ofGroups? inner
    else none

/-- The first character that is neither a digit nor a hyphen, with its place in bytes. -/
def firstStray? (place : Nat) : List Char → Option (Char × Nat)
  | [] => none
  | c :: rest =>
      if c = '-' ∨ (Text.hexValue? c).isSome then firstStray? (place + c.utf8Size) rest
      else some (c, place)

/-- The places of the hyphens. -/
def hyphens (place : Nat) : List Char → List Nat
  | [] => []
  | c :: rest =>
      if c = '-' then place :: hyphens (place + 1) rest else hyphens (place + c.utf8Size) rest

/-- Where each group begins in the hyphenated text. -/
def groupStarts : List Nat := [0, 9, 14, 19, 24]

/-- Why a text that `parse?` refuses is refused. -/
def flaw (s : String) : Flaw :=
  let (inner, before, plain) := unwrap s.toList
  match firstStray? 0 inner with
  | some (c, place) => .character c (place + before + 1)
  | none =>
      let marks := hyphens 0 inner
      if marks.isEmpty && plain then .simpleLength s.utf8ByteSize
      else if marks.length != 4 then .groupCount (marks.length + 1)
      else
        let misplaced := (List.range 4).find? fun i =>
          marks.getD i 0 != groupStarts.getD (i + 1) 0 - 1
        match misplaced with
        | some i => .groupLength i (marks.getD i 0 - groupStarts.getD i 0)
        | none => .groupLength 4 (s.utf8ByteSize - groupStarts.getD 4 0)

/-- The UUID a text denotes, or the reason why it denotes none. -/
def parse (s : String) : Except Flaw Uuid :=
  match parse? s with
  | some id => .ok id
  | none => .error (flaw s)

/-- Bytes as digits of the base sixteen, two for each. -/
def hexText (bytes : List UInt8) : List Char :=
  bytes.flatMap fun b => [Text.hexDigit (b.toNat / 16), Text.hexDigit (b.toNat % 16)]

/-- The five groups with hyphens between them. -/
def text (id : Uuid) : String :=
  let cs := hexText id.bytes
  String.ofList <| cs.take 8 ++ '-' :: (cs.drop 8).take 4 ++ '-' :: (cs.drop 12).take 4 ++
    '-' :: (cs.drop 16).take 4 ++ '-' :: cs.drop 20

end Uuid
end Courier
