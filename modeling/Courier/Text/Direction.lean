import Courier.Text.Marks

/-!
# Writing direction

Letters are written from left to right or from right to left, and so are digits in
their own way; punctuation follows what it stands next to, and a mark the character
it is put on.
-/

namespace Courier.Text

/-- The direction in which a character is written, as far as host names go. -/
inductive Direction where
  | left
  | right
  /-- European digits. -/
  | european
  /-- Arabic digits. -/
  | arabic
  | mark
  | neutral
  deriving DecidableEq, Repr

/-- Letters run to the left for `R`, digits are `EN` and `AN`, `O` is neutral. -/
def Direction.ofChars : List Char → Direction
  | ['R'] => .right
  | ['E', 'N'] => .european
  | ['A', 'N'] => .arabic
  | ['O'] => .neutral
  | _ => .left

/-- The characters other than marks and letters that run to the right. -/
def directions : Table Direction := .ofLines .ofChars
  ["21-2f:O 30-39:EN 3a-40:O 5b-60:O 7b-d7:O f7:O 2b9-2ba:O 2c2-2cf:O 2d2-2ed:O 2ef-2ff:O 375:O",
   "3f6:O 58a-58f:O 5be-5f4:R 606-607:O 608:R 609-60a:O 60b:R 60c:O 60d:R 60e-60f:O 61b-64a:R",
   "660-669:AN 66a:O 66b-66c:AN 66d-6d5:R 6de:O 6e5-6e6:R 6e9:O 6ee-6ef:R 6f0-6f9:EN 6fa-7f5:R",
   "7f6-7f9:O 7fa-8c9:R 9f2-9f3:O 9fb:O af1:O bf3-bfa:O c78-c7e:O e3f:O f3a-f3d:O 1390-1399:O",
   "1400:O 169b-169c:O 17db:O 17f0-180a:O 1940-1945:O 19de-19ff:O 200c-214d:O 218a-2335:O",
   "237b-2394:O 2396-26ab:O 26ad-27ff:O 2900-2bff:O 2ce5-2cea:O 2cf9-2cff:O 2e00-3004:O",
   "3008-3020:O 3030:O 3037:O 303d-303f:O 30a0:O 30fb:O 31c0-31e5:O 4dc0-4dff:O a490-a4c6:O",
   "a60d-a60f:O a673-a67f:O a700-a721:O a788:O a828-a82b:O a838-a839:O a874-a877:O ab6a-ab6b:O",
   "fbb2-fbc2:R fbc3-fe46:O fe73:R 10101:O 10140-1018c:O 10190-101a0:O 102e1-102fb:EN",
   "10800-1091b:R 1091f:O 10920-10b35:R 10b39-10b3f:O 10b40-10d23:R 10d30-10d39:AN 10d40-10d4f:R",
   "10d6e:O 10d6f-10d8f:R 10e60-10e7e:AN 10e80-10ec7:R 10ed0-10ed8:O 10f00-10ff6:R 11052-11065:O",
   "11660-1166c:O 11fd5-11ff1:O 16fe2:O 1cc00-1cef0:O 1d1e9-1d245:O 1d300-1d356:O 1e2ff:O",
   "1e800-1ed3d:R 1eef0-1f12f:O 1f16d-1f16f:O 1f1ad:O 1f260-1fbfa:O"]

/-- Marks that count as letters. -/
def letterMarks : CharSet := .ofLines ["cbf cc6 11a07 11a08 11c3f"]

/-- The direction of a character. -/
def direction (c : Char) : Direction :=
  if letterMarks.has c then .left
  else if isNonspacing c then .mark
  else (directions.get? c).getD .left

/-- Whether a character makes a text run from right to left, in part at least. -/
def Direction.isRightToLeft : Direction → Bool
  | .right | .arabic => true
  | _ => false

end Courier.Text
