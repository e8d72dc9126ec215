import Courier.Number.Double

/-!
# JSON values

A number that is written without a fraction and without an exponent stays a whole
number; any other is a double. The members of an object are kept in the order of
their keys, each key once, so that two objects with the same members are the same
value whatever order they were built in.
-/

namespace Courier

/-- Integers are kept apart from all other numbers. -/
inductive Number where
  | int (value : Int)
  | double (value : Double)
  deriving DecidableEq, Repr

/-- A JSON value. -/
inductive Json where
  | null
  | bool (value : Bool)
  | num (value : Number)
  | str (value : String)
  | arr (items : List Json)
  | obj (members : List (String × Json))
  deriving Repr, Inhabited

/-- The members of an object in the order of their keys. -/
abbrev Object := List (String × Json)

namespace Object

/-- The value of a key. -/
def get? : Object → String → Option Json
  | [], _ => none
  | (k, v) :: rest, key => if k = key then some v else get? rest key

/-- Sets the value of a key, in place if it is there and by key order if it is not. -/
def insert : Object → String → Json → Object
  | [], key, value => [(key, value)]
  | (k, v) :: rest, key, value =>
      if k = key then (key, value) :: rest
      else if key < k then (key, value) :: (k, v) :: rest
      else (k, v) :: insert rest key value

/-- The object with these members; of two with one key the later counts. -/
def ofList (members : List (String × Json)) : Object :=
  members.foldl (fun o m => o.insert m.1 m.2) []

/-- The keys of an object, in their order. -/
def keys (o : Object) : List String := o.map Prod.fst

@[simp] theorem get?_insert_self (o : Object) (key : String) (value : Json) :
    (o.insert key value).get? key = some value := by
  induction o with
  | nil => simp [insert, get?]
  | cons m rest ih =>
      obtain ⟨k, v⟩ := m
      unfold insert
      split
      · simp [get?]
      · split
        · simp [get?]
        · simp [get?, *]

theorem get?_insert_of_ne {key other : String} (h : key ≠ other) (o : Object) (value : Json) :
    (o.insert key value).get? other = o.get? other := by
  induction o with
  | nil => simp [insert, get?, h]
  | cons m rest ih =>
      obtain ⟨k, v⟩ := m
      unfold insert
      split
      · rename_i hk
        subst hk
        simp [get?, h]
      · split
        · simp [get?, h]
        · simp [get?, ih]

end Object

namespace Json

/-- An integer as a value. -/
def ofInt (i : Int) : Json := .num (.int i)

/-- A natural number as a value. -/
def ofNat (n : Nat) : Json := .num (.int n)

/-- The object with these members. -/
def object (members : List (String × Json)) : Json := .obj (Object.ofList members)

/-- Null for an absent value. -/
def orNull {α : Type} (write : α → Json) : Option α → Json
  | some a => write a
  | none => .null

/-- The member of an object; none for any other value. -/
def get? : Json → String → Option Json
  | .obj o, key => Object.get? o key
  | _, _ => none

/-- The text that a value is, if it is one. -/
def asString? : Json → Option String
  | .str s => some s
  | _ => none

/-- The truth value that a value is, if it is one. -/
def asBool? : Json → Option Bool
  | .bool b => some b
  | _ => none

/-- The integer that a value is, if it is one. -/
def asInt? : Json → Option Int
  | .num (.int i) => some i
  | _ => none

/-- The elements of a value that is an array. -/
def asArray? : Json → Option (List Json)
  | .arr items => some items
  | _ => none

/-- The members of a value that is an object. -/
def asObject? : Json → Option Object
  | .obj o => some o
  | _ => none

end Json
end Courier
