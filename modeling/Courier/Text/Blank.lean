/-!
# Blank characters and trimming

A character is blank when it has the Unicode property `White_Space`. Trimming
removes the blanks at both ends of a text and touches nothing between the first
and the last character that is not blank.
-/

namespace Courier.Text

/-- The Unicode property `White_Space`. -/
def isBlank (c : Char) : Bool :=
  let n := c.toNat
  (0x9 ≤ n && n ≤ 0xd) || n == 0x20 || n == 0x85 || n == 0xa0 || n == 0x1680 ||
    (0x2000 ≤ n && n ≤ 0x200a) || n == 0x2028 || n == 0x2029 || n == 0x202f ||
    n == 0x205f || n == 0x3000

/-- Removes the characters that satisfy `p` from both ends. -/
def strip (p : Char → Bool) (cs : List Char) : List Char :=
  ((cs.dropWhile p).reverse.dropWhile p).reverse

/-- The text without the blanks at its ends. -/
def trim (s : String) : String :=
  String.ofList (strip isBlank s.toList)

theorem dropWhile_eq_nil {p : Char → Bool} {cs : List Char} :
    cs.dropWhile p = [] ↔ ∀ c ∈ cs, p c = true := by
  induction cs with
  | nil => simp
  | cons c rest ih =>
      by_cases h : p c = true
      · simp [h, ih]
      · simp [h]

/-- Nothing is left of a text exactly when all of it is dropped. -/
theorem strip_eq_nil {p : Char → Bool} {cs : List Char} :
    strip p cs = [] ↔ ∀ c ∈ cs, p c = true := by
  unfold strip
  rw [List.reverse_eq_nil_iff, dropWhile_eq_nil]
  simp only [List.mem_reverse]
  constructor
  · intro h
    refine dropWhile_eq_nil.1 ?_
    cases hd : cs.dropWhile p with
    | nil => rfl
    | cons c rest =>
        have hn := List.head_dropWhile_not p (l := cs) (by rw [hd]; simp)
        simp only [hd, List.head_cons] at hn
        rw [h c (by rw [hd]; simp)] at hn
        exact absurd hn (by simp)
  · intro h c hc
    exact h c ((List.dropWhile_sublist p).mem hc)

end Courier.Text
