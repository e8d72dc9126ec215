import Courier.Text.Combining
import Courier.Text.Decomposed

/-!
# Composed texts

Texts that look the same can be spelled in several ways: with letters that have
their marks or with letters and marks apart, and with marks in this order or that.
The composed form is one spelling for all of them (NFC): everything is taken apart,
the marks are put in order, and then each letter takes up the marks that there is a
character for.
-/

namespace Courier.Text

/-! ## Order -/

/-- Puts a mark of the class `k` before marks that are in order, behind those of lower class. -/
def placeMark (c : Char) (k : Nat) : List Char → List Char
  | [] => [c]
  | d :: rest =>
      let l := combiningClass d
      if 0 < l ∧ l < k then d :: placeMark c k rest else c :: d :: rest

/-- Puts each run of marks in the order of their classes; marks of one class stay as they are. -/
def orderMarks : List Char → List Char
  | [] => []
  | c :: rest =>
      let k := combiningClass c
      if k = 0 then c :: orderMarks rest else placeMark c k (orderMarks rest)

/-! ## Composition -/

/-- Two letters of a syllable, or a syllable without a trailing consonant and one, in one. -/
def composeSyllable? (a b : Char) : Option Char :=
  let m := a.toNat
  let n := b.toNat
  if firstLeading ≤ m ∧ m < firstLeading + leadings ∧ firstVowel ≤ n ∧ n < firstVowel + vowels then
    some (Char.ofNat
      (firstSyllable + ((m - firstLeading) * vowels + (n - firstVowel)) * trailings))
  else if isSyllable a ∧ (m - firstSyllable) % trailings = 0 ∧ noTrailing < n ∧
      n < noTrailing + trailings then
    some (Char.ofNat (m + (n - noTrailing)))
  else none

/-- The character that is made up of what `a` is made up of, and `b`. -/
def composePair? (a b : Char) : Option Char :=
  let parts := (decompose a ++ [b]).map Char.toNat
  (decompositions.ranges.find? fun r => !r.value.final && r.value.parts == parts).map fun r =>
    Char.ofNat r.first

/-- The character that two characters make up, if they do. -/
def compose? (a b : Char) : Option Char :=
  if isAscii b then none else (composeSyllable? a b).orElse fun _ => composePair? a b

/-- Goes on after a letter with the marks it could not take up, the last of the class `last`.
A mark reaches the letter only past marks of lower class. -/
def composeFrom (letter : Char) (held : List Char) (last : Nat) : List Char → List Char
  | [] => letter :: held
  | c :: rest =>
      let k := combiningClass c
      let whole := if held.isEmpty || last < k then compose? letter c else none
      match whole with
      | some d => composeFrom d held last rest
      | none =>
          if k = 0 then letter :: held ++ composeFrom c [] 0 rest
          else composeFrom letter (held ++ [c]) k rest

/-- Puts together what can be. -/
def composeAll : List Char → List Char
  | [] => []
  | c :: rest => if combiningClass c = 0 then composeFrom c [] 0 rest else c :: composeAll rest

/-- The composed form of a text. -/
def composed (cs : List Char) : List Char :=
  if cs.all isAscii then cs else composeAll (orderMarks (cs.flatMap decompose))

end Courier.Text
