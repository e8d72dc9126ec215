/-!
# Cutting texts

A text is cut once, at the first mark, or at every mark. The marks are not part of
what is left.
-/

namespace Courier.Text

/-- The parts before and after the first `mark`. -/
def cut (mark : Char) (cs : List Char) : List Char × Option (List Char) :=
  match cs.dropWhile (· != mark) with
  | _ :: rest => (cs.takeWhile (· != mark), some rest)
  | [] => (cs, none)

/-- The parts between the marks, one more than there are marks. -/
def split (mark : Char) : List Char → List (List Char)
  | [] => [[]]
  | c :: rest =>
      if c = mark then [] :: split mark rest
      else
        match split mark rest with
        | part :: parts => (c :: part) :: parts
        | [] => [[c]]

theorem split_ne_nil (mark : Char) (cs : List Char) : split mark cs ≠ [] := by
  cases cs with
  | nil => simp [split]
  | cons c rest =>
      rw [split]
      split
      · simp
      · split <;> simp

end Courier.Text
