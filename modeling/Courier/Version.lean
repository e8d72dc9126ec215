import Courier.Failure
import Courier.Number.Word
import Courier.Text.Blank
import Courier.Text.Digit
import Courier.Text.Split

/-!
# Agent versions

A version is a tag that begins with numbers between dots. Two versions compare by
their numbers alone, a missing one counting as zero. Features of the Agent are
gated by the least version that has them.
-/

namespace Courier

/-- A version: what it was read from, and its numbers. -/
structure Version where
  tag : String
  parts : List Nat
  deriving Repr

namespace Version

/-- The version of an Agent that reports none. -/
def unknown : Version := ⟨"0.0.0", [0]⟩

/-- The longest run of digits and dots at the head with digits on both sides of each dot. -/
def numberRun (cs : List Char) : List Char :=
  match cs with
  | [] => []
  | c :: rest =>
      if Text.isDecimal c then c :: numberRun rest
      else if c = '.' then
        match rest with
        | d :: _ => if Text.isDecimal d then '.' :: numberRun rest else []
        | [] => []
      else []

/-- The text after blanks and one `v` of either case. -/
def body (cs : List Char) : List Char :=
  match cs.dropWhile Text.isBlank with
  | 'v' :: rest => rest
  | 'V' :: rest => rest
  | rest => rest

/-- The numbers at the head of a text: at least one digit, then as much as fits. -/
def head? (cs : List Char) : Option (List Char) :=
  match body cs with
  | c :: rest => if Text.isDecimal c then some (numberRun (c :: rest)) else none
  | [] => none

/-- A component in ASCII digits that fits 64 bits. -/
def component? (cs : List Char) : Option Nat :=
  (Text.decimalValue? cs).filter (· < wordBound)

/-- The numbers of a tag, if it has them and each can be represented. -/
def parts? (cs : List Char) : Option (List Nat) :=
  (head? cs).bind fun run => (Text.split '.' run).mapM component?

/-- The version that a text is, if it is one. -/
def parse? (s : String) : Option Version :=
  (parts? s.toList).map fun parts => ⟨Text.trim s, parts⟩

/-- The version that a text is, or the complaint that it is none. -/
def parse (s : String) : Except Failure Version :=
  match parse? s with
  | some v => .ok v
  | none => .error (.general ("Could not parse Agent version [" ++ s ++ "]"))

/-- Compares number by number, the shorter list continued with zeros. -/
def compareParts : List Nat → List Nat → Ordering
  | [], [] => .eq
  | a :: as, [] => (compare a 0).then (compareParts as [])
  | [], b :: bs => (compare 0 b).then (compareParts [] bs)
  | a :: as, b :: bs => (compare a b).then (compareParts as bs)
termination_by as bs => as.length + bs.length

instance : Ord Version := ⟨fun a b => compareParts a.parts b.parts⟩

/-- Equal versions may have different tags. -/
instance : BEq Version := ⟨fun a b => (compare a b).isEq⟩

/-- No version is satisfied by a minimum that is no version. -/
def atLeast (v : Version) (minimum : String) : Bool :=
  match parse? minimum with
  | some least => (compare v least).isGE
  | none => false

/-- The first version in which sessions can be taken up again. -/
def sessionReuse : String := "0.64.20"

/-- The first version that writes reports on the disk. -/
def localReport : String := "2.1.0"

/-- The first version that takes reports in batches. -/
def batchReport : String := "3.1.0"

/-- The greater of two versions, the second if they are equal. -/
def max (a b : Version) : Version := if (compare a b).isGT then a else b

/-- The versions in order, equal ones as they came. -/
def sort (vs : List Version) : List Version := vs.mergeSort fun a b => (compare a b).isLE

end Version
end Courier
