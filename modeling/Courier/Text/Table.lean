import Courier.Text.Digit
import Courier.Text.Split

/-!
# Tables of characters

What is known of single characters is kept in tables, written as text: entries
between blanks, code points to the base sixteen. An entry is one code point or a
range of them, `300-36f`, of which every second counts if it ends in `/2`; after a
colon comes what the table says of it.

The tables hold version 17 of the character properties.
-/

namespace Courier.Text

/-- Code points of which a table says the same. -/
structure CodeRange (α : Type) where
  first : Nat
  last : Nat
  /-- From one that counts to the next. -/
  step : Nat
  value : α

/-- A table of characters, by ranges. -/
structure Table (α : Type) where
  ranges : List (CodeRange α)

/-- The number a text of digits to the base sixteen stands for. -/
def hexNumber (cs : List Char) : Nat :=
  cs.foldl (fun n c => n * 16 + (hexValue? c).getD 0) 0

/-- The numbers between dots; none in an empty text. -/
def hexNumbers (cs : List Char) : List Nat :=
  if cs.isEmpty then [] else (split '.' cs).map hexNumber

variable {α : Type}

/-- The range has this code point in it; it may hold only every other one. -/
def CodeRange.contains (r : CodeRange α) (n : Nat) : Bool :=
  r.first ≤ n && n ≤ r.last && (n - r.first) % r.step == 0

/-- Reads an entry, and what it says with `read`. -/
def CodeRange.ofChars (read : List Char → α) (cs : List Char) : CodeRange α :=
  let (span, note) := cut ':' cs
  let (span, step) := cut '/' span
  let (first, last) := cut '-' span
  { first := hexNumber first
    last := hexNumber (last.getD first)
    step := (step.map hexNumber).getD 1
    value := read (note.getD []) }

namespace Table

/-- The table that is written on these lines, with blanks between the ranges. -/
def ofLines (read : List Char → α) (lines : List String) : Table α :=
  ⟨lines.flatMap fun line => (split ' ' line.toList).map (CodeRange.ofChars read)⟩

/-- What is said of a character, and how far it is from the first of its range. -/
def find? (t : Table α) (c : Char) : Option (α × Nat) :=
  (t.ranges.find? (·.contains c.toNat)).map fun r => (r.value, c.toNat - r.first)

/-- The entry of a character, if it has one. -/
def get? (t : Table α) (c : Char) : Option α := (t.find? c).map Prod.fst

/-- The table has an entry for the character. -/
def has (t : Table α) (c : Char) : Bool := (t.find? c).isSome

end Table

/-- A table that only says which characters it has. -/
abbrev CharSet := Table Unit

/-- The characters that are written on these lines. -/
def CharSet.ofLines (lines : List String) : CharSet := Table.ofLines (fun _ => ()) lines

/-- The characters so far behind the given ones. -/
def shifted (codes : List Nat) (distance : Nat) : List Char :=
  codes.map fun n => Char.ofNat (n + distance)

/-- Before the first character that has any of the properties in the tables. -/
def isAscii (c : Char) : Bool := c.toNat < 0x80

end Courier.Text
