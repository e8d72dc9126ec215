/-!
# Words

The numbers that fit a machine word, with and without a sign.
-/

namespace Courier

/-- The least number that has more than 64 bits. -/
def wordBound : Nat := 0x10000000000000000

/-- The least number that has more than 63 bits. -/
def signedBound : Nat := 0x8000000000000000

end Courier
