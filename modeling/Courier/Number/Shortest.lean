import Courier.Number.Double

/-!
# The shortest decimal that reads back

Among the decimals that lie nearer to a double than to its neighbours, the ones
with the fewest digits are the shortest, and of several the nearest is taken. The
two points of a decimal grid around the double decide whether the grid has one
at all, so grids of one, two, up to seventeen digits are tried in order.
-/

namespace Courier.Double

/-- A positive decimal `0.d₁d₂… * 10 ^ point`, its digits most significant first. -/
structure Decimal where
  digits : List Nat
  point : Int
  deriving DecidableEq, Repr

/-- The bounds of the numbers that round to a double, in quarters of its last place. -/
structure Reach where
  low : Nat
  value : Nat
  high : Nat
  /-- The bounds themselves round to the double. -/
  closed : Bool
  /-- The power of two that a quarter stands for. -/
  scale : Int

/-- A power of two has a nearer neighbour below than above. -/
def reach (d : Double) : Reach :=
  let m := d.mantissa
  let low := if m = pow2 52 ∧ leastExponent < d.exponent then 4 * m - 1 else 4 * m - 2
  ⟨low, 4 * m, 4 * m + 2, m % 2 == 0, d.exponent - 2⟩

/-- Numerator and denominator of `x * 2 ^ scale / 10 ^ grid`. -/
def onGrid (x : Nat) (scale grid : Int) : Nat × Nat :=
  (x * pow2 scale.toNat * Nat.pow 10 (-grid).toNat,
    pow2 (-scale).toNat * Nat.pow 10 grid.toNat)

/-- The multiple of the grid nearest to the value among those that read back. -/
def pointOnGrid? (r : Reach) (grid : Int) : Option Nat :=
  let (v, den) := onGrid r.value r.scale grid
  let (lo, _) := onGrid r.low r.scale grid
  let (hi, _) := onGrid r.high r.scale grid
  let inside (k : Nat) : Bool :=
    if r.closed then lo ≤ k * den && k * den ≤ hi else lo < k * den && k * den < hi
  let below := v / den
  let above := below + 1
  let belowIsNearer := 2 * (v % den) < den || (2 * (v % den) == den && below % 2 == 0)
  match inside below, inside above with
  | true, true => some (if belowIsNearer then below else above)
  | true, false => some below
  | false, true => some above
  | false, false => none

/-- The decimal digits of a number, most significant first; none for zero. -/
def digitsOf (n : Nat) : List Nat :=
  if n = 0 then [] else digitsOf (n / 10) ++ [n % 10]
termination_by n
decreasing_by exact Nat.div_lt_self (by omega) (by omega)

/-- The greatest `k` with `10 ^ k ≤ x * 2 ^ scale`, for positive `x`. -/
def floorLog10 (x : Nat) (scale : Int) : Int :=
  let guess := ((x.log2 + scale) * 30103).fdiv 100000
  let le (k : Int) : Bool := let (n, den) := onGrid x scale k; den ≤ n
  if le (guess + 1) then guess + 1 else if le guess then guess else guess - 1

/-- Drops zeros at the end. -/
def dropTrailingZeros (ds : List Nat) : List Nat :=
  (ds.reverse.dropWhile (· == 0)).reverse

/-- The shortest decimal of a double that is not zero. -/
def shortest (d : Double) : Decimal :=
  let r := d.reach
  let top := floorLog10 r.value r.scale
  let found := (List.range 17).findSome? fun (n : Nat) =>
    let grid : Int := top - (n : Nat)
    (pointOnGrid? r grid).map fun k => (digitsOf k, grid)
  match found with
  | some (ds, grid) => ⟨dropTrailingZeros ds, grid + ds.length⟩
  | none => ⟨[], 0⟩

/-- How far positional notation goes: from `10 ^ lowest` up to, not including, `10 ^ highest`. -/
structure PositionalRange where
  lowest : Int
  highest : Int

/-- Positional from `1e-5` up to `1e16`, with at least one digit on either side of the point. -/
def jsonRange : PositionalRange := ⟨-5, 16⟩

/-- Digits of the base ten as text. -/
def digitText (ds : List Nat) : String :=
  String.ofList (ds.map fun k => Char.ofNat ('0'.toNat + k))

/-- The digits with the point `point` places after the first one's left edge. -/
def positional (ds : List Nat) (point : Int) : String :=
  if point ≤ 0 then "0." ++ digitText (List.replicate (-point).toNat 0 ++ ds)
  else
    let whole := point.toNat
    if ds.length ≤ whole then
      digitText (ds ++ List.replicate (whole - ds.length) 0) ++ ".0"
    else digitText (ds.take whole) ++ "." ++ digitText (ds.drop whole)

/-- A power of ten, which always has a sign. -/
def signedText (e : Int) : String := (if e < 0 then "" else "+") ++ toString e

/-- One digit before the point, and the power of ten after an `e`. -/
def scientific (ds : List Nat) (point : Int) : String :=
  let fraction := if ds.length ≤ 1 then "" else "." ++ digitText (ds.drop 1)
  digitText (ds.take 1) ++ fraction ++ "e" ++ signedText (point - 1)

/-- The text of a double: its shortest decimal, positional or not by its size. -/
def text (d : Double) : String :=
  let sign := if d.negative then "-" else ""
  if d.isZero then sign ++ "0.0"
  else
    let s := d.shortest
    let body :=
      if jsonRange.lowest < s.point ∧ s.point ≤ jsonRange.highest then
        positional s.digits s.point
      else scientific s.digits s.point
    sign ++ body

end Courier.Double
