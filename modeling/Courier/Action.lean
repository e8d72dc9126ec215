import Courier.Locator

/-!
# Addon actions and codeblocks

Code that the Agent runs for a test: the actions of an installed addon, with
parameters that may come back changed, and codeblocks of the account.
-/

namespace Courier

/-- How the Agent says an execution ended. -/
inductive Verdict where
  | passed
  | failed
  | noResult
  deriving DecidableEq, Repr

namespace Verdict

/-- The name of a verdict in answers of the Agent. -/
def name : Verdict → String
  | .passed => "Passed"
  | .failed => "Failed"
  | .noResult => "NoResult"

/-- Every verdict there is, in the order in which a reader is told of them. -/
def all : List Verdict := [.passed, .failed, .noResult]

/-- A verdict is written as its name. -/
def encode (v : Verdict) : Json := .str v.name

/-- Reads a verdict by its name. -/
def decode : Json → Decoded Verdict := Decoding.choice (all.map fun v => (v.name, v))

/-- Passed only if the Agent says so in as many words. -/
def ofAgent : Option String → Verdict
  | some "Passed" => .passed
  | _ => .failed

/-- Only a verdict of success counts as passed. -/
def isPassed : Verdict → Bool
  | .passed => true
  | _ => false

end Verdict

/-- A field that comes back from an addon action. -/
structure ResultField where
  name : String
  value : Json
  /-- The field is a result and not an echo of a parameter. -/
  output : Bool

namespace ResultField

/-- A result field as it is written into an answer. -/
def encode (f : ResultField) : Json :=
  .object [("name", .str f.name), ("value", f.value), ("output", .bool f.output)]

open Decoding in
/-- Reads a result field; only its name has to be there. -/
def decode : Json → Decoded ResultField :=
  let shape : Shape := ⟨"ResultField", 3⟩
  let name := required "name" string
  let value := defaulted "value" any .null
  let output := defaulted "output" bool false
  record shape [name.check, value.check, output.check] fun src => do
    return {
      name := ← src.take shape 0 name
      value := ← src.take shape 1 value
      output := ← src.take shape 2 output }

end ResultField

/-- What the Agent answers to an addon action. -/
structure AddonAnswer where
  verdict : Verdict
  message : String
  fields : List ResultField

/-- What the Agent answers to a codeblock. -/
structure CodeblockAnswer where
  verdict : Verdict
  message : String
  outputs : Option Object

/-- An action of an addon, its parameters and the element it works on. -/
structure AddonAction where
  guid : String
  className : String
  parameters : Object
  locator : Option Locator

namespace AddonAction

/-- The body of the request that runs the action. -/
def payload (a : AddonAction) : Json :=
  .object <|
    [("guid", .str a.guid), ("className", .str a.className), ("parameters", .obj a.parameters)] ++
      (match a.locator with
        | some l => [("by", l.addonForm)]
        | none => [])

/-- The fields that are results. -/
def outputs (fields : List ResultField) : List ResultField := fields.filter (·.output)

/-- Takes over a result for a parameter that the action has. -/
def assign (parameters : Object) (f : ResultField) : Object :=
  if (parameters.get? f.name).isSome then parameters.insert f.name f.value else parameters

/-- The action with the results in its parameters, later fields last. -/
def withOutputs (a : AddonAction) (fields : List ResultField) : AddonAction :=
  { a with parameters := (outputs fields).foldl assign a.parameters }

/-- The results for which the action has no parameter. -/
def unclaimed (a : AddonAction) (fields : List ResultField) : List ResultField :=
  (outputs fields).filter fun f => (a.parameters.get? f.name).isNone

end AddonAction
end Courier
