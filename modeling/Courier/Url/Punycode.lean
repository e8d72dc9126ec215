/-!
# Punycode

The code for a label with characters beyond ASCII: the ASCII characters first,
then the others in the order of their code points, each as the distance from the
one before in a base 36 number of variable length. The weights adapt to the
distances, so that a label of one script stays short.
-/

namespace Courier.Url.Punycode

/-- The digit of a value below thirty-six. -/
def digit (n : Nat) : Char :=
  if n < 26 then Char.ofNat ('a'.toNat + n) else Char.ofNat ('0'.toNat + (n - 26))

/-- The value of a digit, either case. -/
def digitValue? (c : Char) : Option Nat :=
  if 'a' ≤ c ∧ c ≤ 'z' then some (c.toNat - 'a'.toNat)
  else if 'A' ≤ c ∧ c ≤ 'Z' then some (c.toNat - 'A'.toNat)
  else if '0' ≤ c ∧ c ≤ '9' then some (c.toNat - '0'.toNat + 26)
  else none

/-- The weight of the digit at place `k`, at least 1 and at most 26. -/
def threshold (k bias : Nat) : Nat := min 26 (max 1 (k - bias))

/-- Divides until at most 455 is left; 35 is the base less the least threshold. -/
def shrink (delta k : Nat) : Nat × Nat :=
  if 455 < delta then shrink (delta / 35) (k + 36) else (delta, k)
termination_by delta
decreasing_by exact Nat.div_lt_self (by omega) (by omega)

/-- The bias after a step, from how far it went. -/
def adapt (delta points : Nat) (first : Bool) : Nat :=
  let d := if first then delta / 700 else delta / 2
  let (d, k) := shrink (d + d / points) 0
  k + 36 * d / (d + 38)

theorem threshold_bounds (k bias : Nat) : 1 ≤ threshold k bias ∧ threshold k bias ≤ 26 := by
  unfold threshold
  omega

/-- The digits of a distance. -/
def distance (bias k q : Nat) : List Char :=
  let t := threshold k bias
  if q < t then [digit q]
  else digit (t + (q - t) % (36 - t)) :: distance bias (k + 36) ((q - t) / (36 - t))
termination_by q
decreasing_by
  have := threshold_bounds k bias
  exact Nat.lt_of_le_of_lt (Nat.div_le_self _ _) (by omega)

/-- How far the encoder has come. -/
structure State where
  written : List Char
  delta : Nat
  bias : Nat
  count : Nat

/-- Passes over one character of the label while code point `n` is written. -/
def visit (basic n : Nat) (st : State) (c : Char) : State :=
  if c.toNat < n then { st with delta := st.delta + 1 }
  else if c.toNat = n then
    { written := st.written ++ distance st.bias 36 st.delta
      delta := 0
      bias := adapt st.delta (st.count + 1) (st.count == basic)
      count := st.count + 1 }
  else st

/-- Writes the code points `ns`, which are in order and all at least `n`. -/
def writeAll (label : List Char) (basic : Nat) : List Nat → Nat → State → State
  | [], _, st => st
  | m :: rest, n, st =>
      let st := { st with delta := st.delta + (m - n) * (st.count + 1) }
      let st := label.foldl (visit basic m) st
      writeAll label basic rest (m + 1) { st with delta := st.delta + 1 }

/-- Puts a code point into a sorted list, once. -/
def insertPoint (n : Nat) : List Nat → List Nat
  | [] => [n]
  | m :: rest =>
      if n < m then n :: m :: rest else if n = m then m :: rest else m :: insertPoint n rest

/-- The code of a label. -/
def encode (label : List Char) : List Char :=
  let basic := label.filter fun c => c.toNat < 0x80
  let beyond := (label.map Char.toNat).filter (0x80 ≤ ·)
  let points := beyond.foldl (fun ns n => insertPoint n ns) []
  let start : State := ⟨[], 0, 72, basic.length⟩
  basic ++ (if basic.isEmpty then [] else ['-']) ++
    (writeAll label basic.length points 0x80 start).written

/-- A distance read from the digits, with what follows it. -/
def readDistance (bias : Nat) : List Char → Nat → Nat → Nat → Option (Nat × List Char)
  | [], _, _, _ => none
  | c :: rest, k, weight, sum => do
      let d ← digitValue? c
      let t := threshold k bias
      if d < t then return (sum + d * weight, rest)
      else readDistance bias rest (k + 36) (weight * (36 - t)) (sum + d * weight)

/-- Reads distances and puts each character in its place; fuel for each digit. -/
def readAll : Nat → List Char → List Char → Nat → Nat → Nat → Option (List Char)
  | _, [], label, _, _, _ => some label
  | 0, _, _, _, _, _ => none
  | fuel + 1, cs, label, n, i, bias => do
      let (j, rest) ← readDistance bias cs 36 1 i
      let count := label.length + 1
      let n := n + j / count
      let place := j % count
      if 0x10ffff < n ∨ (0xd800 ≤ n ∧ n ≤ 0xdfff) then none
      else
        readAll fuel rest (label.take place ++ Char.ofNat n :: label.drop place) n (place + 1)
          (adapt (j - i) count (i == 0))

/-- The label of a code. -/
def decode? (code : List Char) : Option (List Char) :=
  let tail := (code.reverse.takeWhile (· != '-')).reverse
  let basic := if tail.length < code.length then code.take (code.length - tail.length - 1) else []
  if basic.all fun c => c.toNat < 0x80 then readAll tail.length tail basic 0x80 0 72 else none

end Courier.Url.Punycode
