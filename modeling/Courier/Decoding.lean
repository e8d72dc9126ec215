import Courier.Json.Printer
import Courier.Number.Word
import Courier.Text.Quoted

/-!
# Decoding

Reading a value of a domain type from JSON. A record is read from an object, its
members in any order and unknown ones ignored, or from an array of its fields in
their order. A choice is read from its name, or from an object with the name as
its only key and null as its value.

Of several faults in an object the first by key order is reported, and a missing
field only if there is no other fault.
-/

namespace Courier

/-- A value, or the text that says why there is none. -/
abbrev Decoded (α : Type) := Except String α

namespace Decoding

/-- How a value is named in a message. -/
def describe : Json → String
  | .null => "null"
  | .bool b => "boolean `" ++ (if b then "true" else "false") ++ "`"
  | .num (.int i) => "integer `" ++ toString i ++ "`"
  | .num (.double d) => "floating point `" ++ d.text ++ "`"
  | .str s => "string " ++ Text.quoted s
  | .arr _ => "sequence"
  | .obj _ => "map"

/-- The complaint about a value of the wrong kind. -/
def mismatch {α : Type} (v : Json) (expected : String) : Decoded α :=
  .error ("invalid type: " ++ describe v ++ ", expected " ++ expected)

/-- Reads a text. -/
def string : Json → Decoded String
  | .str s => .ok s
  | v => mismatch v "a string"

/-- Reads a truth value. -/
def bool : Json → Decoded Bool
  | .bool b => .ok b
  | v => mismatch v "a boolean"

/-- A whole number between two bounds. -/
def integer (name : String) (low high : Int) : Json → Decoded Int
  | .num (.int i) =>
      if low ≤ i ∧ i ≤ high then .ok i
      else .error ("invalid value: integer `" ++ toString i ++ "`, expected " ++ name)
  | v => mismatch v name

/-- A whole number below a bound. -/
def natural (name : String) (bound : Nat) (v : Json) : Decoded Nat :=
  (integer name 0 (bound - 1) v).map Int.toNat

/-- Reads an unsigned number of sixteen bits. -/
def word16 : Json → Decoded Nat := natural "u16" 0x10000

/-- Reads an unsigned number of sixty-four bits. -/
def word64 : Json → Decoded Nat := natural "u64" wordBound

/-- Reads a size, which has sixty-four bits too. -/
def size : Json → Decoded Nat := natural "usize" wordBound

/-- Reads a signed number of sixty-four bits. -/
def int64 : Json → Decoded Int := integer "i64" (-signedBound) (signedBound - 1)

/-- Null for an absent value. -/
def optional {α : Type} (read : Json → Decoded α) : Json → Decoded (Option α)
  | .null => .ok none
  | v => (read v).map some

/-- Reads a list, element by element. -/
def list {α : Type} (read : Json → Decoded α) : Json → Decoded (List α)
  | .arr items => items.mapM read
  | v => mismatch v "a sequence"

/-- Reads an object, whatever is in it. -/
def object : Json → Decoded Object
  | .obj o => .ok o
  | v => mismatch v "a map"

/-- Reads anything. -/
def any (v : Json) : Decoded Json := .ok v

/-! ## Choices -/

/-- The names between backticks, with the words that a message puts around them. -/
def alternatives : List String → String
  | [] => "there are no variants"
  | [a] => "expected `" ++ a ++ "`"
  | [a, b] => "expected `" ++ a ++ "` or `" ++ b ++ "`"
  | names => "expected one of " ++ String.intercalate ", " (names.map fun n => "`" ++ n ++ "`")

/-- The choice under a name, or the complaint that lists the names. -/
def named {α : Type} (choices : List (String × α)) (name : String) : Decoded α :=
  match choices.lookup name with
  | some a => .ok a
  | none => .error ("unknown variant `" ++ name ++ "`, " ++ alternatives (choices.map Prod.fst))

/-- One of several names. -/
def choice {α : Type} (choices : List (String × α)) : Json → Decoded α
  | .str name => named choices name
  | .obj [(name, v)] => do
      let a ← named choices name
      match v with
      | .null => return a
      | v => mismatch v "unit"
  | .obj _ => .error "invalid value: map, expected map with a single key"
  | v => mismatch v "string or map"

/-! ## Records -/

/-- A field of a record: its name, how it is read, and what stands in for it. -/
structure Field (α : Type) where
  name : String
  read : Json → Decoded α
  /-- The value when an object has no such member. -/
  absent : Option α
  /-- The value when an array ends before the field. -/
  cutOff : Option α

/-- A field that has to be there. -/
def required {α : Type} (name : String) (read : Json → Decoded α) : Field α :=
  ⟨name, read, none, none⟩

/-- A field that an object may leave out. -/
def maybe {α : Type} (name : String) (read : Json → Decoded α) : Field (Option α) :=
  ⟨name, optional read, some none, none⟩

/-- A field with a value of its own where it is left out. -/
def defaulted {α : Type} (name : String) (read : Json → Decoded α) (value : α) : Field α :=
  ⟨name, read, some value, some value⟩

/-- What a record is read from. -/
inductive Source where
  | members (o : Object)
  | items (vs : List Json)

/-- The name of a record and the number of its fields. -/
structure Shape where
  name : String
  fields : Nat

/-- What a record of this shape is called in complaints. -/
def Shape.expected (s : Shape) : String := "struct " ++ s.name

/-- The complaint about an array that ends before this field. -/
def Shape.tooShort {α : Type} (s : Shape) (i : Nat) : Decoded α :=
  .error ("invalid length " ++ toString i ++ ", expected " ++ s.expected ++ " with " ++
    toString s.fields ++ (if s.fields = 1 then " element" else " elements"))

/-- Reads field `i`. -/
def Source.take {α : Type} (src : Source) (s : Shape) (i : Nat) (f : Field α) : Decoded α :=
  match src with
  | .members o =>
      match Object.get? o f.name, f.absent with
      | some v, _ => f.read v
      | none, some a => .ok a
      | none, none => .error ("missing field `" ++ f.name ++ "`")
  | .items vs =>
      match vs[i]?, f.cutOff with
      | some v, _ => f.read v
      | none, some a => .ok a
      | none, none => s.tooShort i

/-- What is wrong with the value of a field, by the field's name. -/
abbrev Check := String × (Json → Option String)

/-- Whether a value will do for a field, checked when it is met. -/
def Field.check {α : Type} (f : Field α) : Check :=
  (f.name, fun v =>
    match f.read v with
    | .ok _ => none
    | .error e => some e)

/-- The first fault among the members of an object. -/
def firstFault (checks : List Check) (o : Object) : Option String :=
  o.findSome? fun m => (checks.lookup m.1).bind fun fault => fault m.2

/-- Reads a record whose fields are read by `build`. -/
def record {α : Type} (s : Shape) (checks : List Check) (build : Source → Decoded α)
    (v : Json) : Decoded α :=
  match v with
  | .obj o =>
      match firstFault checks o with
      | some e => .error e
      | none => build (.members o)
  | .arr vs => do
      let a ← build (.items vs)
      if s.fields < vs.length then
        .error ("invalid length " ++ toString vs.length ++ ", expected fewer elements in array")
      else return a
  | v => mismatch v s.expected

end Decoding
end Courier
