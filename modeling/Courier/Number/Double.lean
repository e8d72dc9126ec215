/-!
# Doubles in exact arithmetic

A finite double of the binary interchange format with 64 bits, kept as a sign, a
whole mantissa and a power of two, so that every operation is a statement about
whole numbers. A result is the exact one rounded to the nearest double, and of
two equally near ones to the one with the even mantissa.

The normal form is `mantissa < 2 ^ 53` with the largest mantissa the exponent
range allows: below `2 ^ 52` only at the least exponent. Zero has a sign.
-/

namespace Courier

/-- The number `± mantissa * 2 ^ exponent`. -/
structure Double where
  negative : Bool
  mantissa : Nat
  exponent : Int
  deriving DecidableEq, Repr

namespace Double

/-- Powers of two. -/
def pow2 (k : Nat) : Nat := Nat.pow 2 k

/-- The exponent of the numbers nearest to zero. -/
def leastExponent : Int := -1074

/-- The exponent of the largest numbers. -/
def greatestExponent : Int := 971

/-- Zero, of either sign. -/
def zero (negative : Bool) : Double := ⟨negative, 0, leastExponent⟩

/-- A double is zero, of whichever sign. -/
def isZero (d : Double) : Bool := d.mantissa == 0

/-- The whole number nearest to `num / den`, an exact half going to the even one. -/
def nearest (num den : Nat) : Nat :=
  let q := num / den
  let r := num % den
  if 2 * r < den then q
  else if den < 2 * r then q + 1
  else if q % 2 = 0 then q else q + 1

/-- The greatest `k` with `2 ^ k ≤ num / den`, for positive `num` and `den`. -/
def floorLog2 (num den : Nat) : Int :=
  let k : Int := num.log2 - den.log2
  let fits := if 0 ≤ k then den * pow2 k.toNat ≤ num else den ≤ num * pow2 (-k).toNat
  if fits then k else k - 1

/-- The double nearest to `num / den`, and none if that is out of range. -/
def ofRatio? (negative : Bool) (num den : Nat) : Option Double :=
  if num = 0 then some (zero negative)
  else
    let q := max (floorLog2 num den - 52) leastExponent
    let m := if 0 ≤ q then nearest num (den * pow2 q.toNat) else nearest (num * pow2 (-q).toNat) den
    let d : Double := if m = pow2 53 then ⟨negative, pow2 52, q + 1⟩ else ⟨negative, m, q⟩
    if greatestExponent < d.exponent then none else some d

/-- The absolute value as a quotient of whole numbers. -/
def ratio (d : Double) : Nat × Nat :=
  if 0 ≤ d.exponent then (d.mantissa * pow2 d.exponent.toNat, 1)
  else (d.mantissa, pow2 (-d.exponent).toNat)

/-- The product of two doubles, if it is finite. -/
def mul? (a b : Double) : Option Double :=
  ofRatio? (a.negative != b.negative) (a.ratio.1 * b.ratio.1) (a.ratio.2 * b.ratio.2)

/-- The quotient, for a divisor that is not zero. -/
def div? (a b : Double) : Option Double :=
  ofRatio? (a.negative != b.negative) (a.ratio.1 * b.ratio.2) (a.ratio.2 * b.ratio.1)

/-- The double nearest to a whole number of at most 1024 bits. -/
def ofInt (i : Int) : Double :=
  (ofRatio? (decide (i < 0)) i.natAbs 1).getD (zero false)

/-- The double nearest to a power of ten, `k` at most 308. -/
def powerOfTen (k : Nat) : Double := ofInt (Nat.pow 10 k)

/-- Divides by the greatest power of ten until the exponent is in reach of one
more division; three rounds bring every 64-bit number to zero. -/
def scaleDown : Nat → Double → Nat → Option Double
  | 0, d, _ => some (zero d.negative)
  | rounds + 1, d, k =>
      if k ≤ 308 then d.div? (powerOfTen k)
      else if d.isZero then some d
      else (d.div? (powerOfTen 308)).bind fun d => scaleDown rounds d (k - 308)

/-- The number with these leading digits and this power of ten, as a reader forms
it: the digits rounded to a double, then one rounded product or quotient. None if
it is out of range. -/
def ofDigits? (negative : Bool) (digits : Nat) (exponent : Int) : Option Double := do
  let d ← ofRatio? negative digits 1
  if exponent < 0 then scaleDown 4 d exponent.natAbs
  else if exponent ≤ 308 then d.mul? (powerOfTen exponent.toNat)
  else if d.isZero then some d else none

end Double
end Courier
