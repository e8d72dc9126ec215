import Courier.Decoding

/-!
# Step policies

How the next steps are timed, judged and pictured. A policy may leave the timing
of the sleep and the rule for pictures to the one around it; the policy in effect
never does.
-/

namespace Courier

/-- The side of a step. -/
inductive Phase where
  | before
  | after
  deriving DecidableEq, Repr

/-- When to sleep. -/
inductive SleepTiming where
  | before
  | after
  | inherit
  | never
  deriving DecidableEq, Repr

namespace SleepTiming

/-- The name of a timing. -/
def name : SleepTiming → String
  | .before => "Before"
  | .after => "After"
  | .inherit => "Inherit"
  | .never => "None"

/-- Every timing, in the order in which a reader is told of them. -/
def all : List SleepTiming := [.before, .after, .inherit, .never]

/-- A timing is written as its name. -/
def encode (t : SleepTiming) : Json := .str t.name

/-- Reads a timing by its name. -/
def decode : Json → Decoded SleepTiming := Decoding.choice (all.map fun t => (t.name, t))

/-- Whether to sleep on this side of a step. -/
def applies : SleepTiming → Phase → Bool
  | .before, .before => true
  | .after, .after => true
  | _, _ => false

/-- The timing of the policy around this one, where it is left to that. -/
def orInherit : SleepTiming → SleepTiming → SleepTiming
  | .inherit, outer => outer
  | t, _ => t

end SleepTiming

/-- When to take a picture of the screen. -/
inductive CaptureRule where
  | always
  | never
  | onSuccess
  | onFailure
  | inherit
  deriving DecidableEq, Repr

namespace CaptureRule

/-- The name of a rule. -/
def name : CaptureRule → String
  | .always => "Always"
  | .never => "Never"
  | .onSuccess => "Success"
  | .onFailure => "Failure"
  | .inherit => "Inherit"

/-- Every rule, in the order in which a reader is told of them. -/
def all : List CaptureRule := [.always, .never, .onSuccess, .onFailure, .inherit]

/-- A rule is written as its name. -/
def encode (r : CaptureRule) : Json := .str r.name

/-- Reads a rule by its name. -/
def decode : Json → Decoded CaptureRule := Decoding.choice (all.map fun r => (r.name, r))

/-- Whether a step with this outcome is pictured. -/
def applies : CaptureRule → Bool → Bool
  | .always, _ => true
  | .never, _ => false
  | .onSuccess, passed => passed
  | .onFailure, passed => !passed
  | .inherit, _ => false

/-- The rule of the policy around this one, where it is left to that. -/
def orInherit : CaptureRule → CaptureRule → CaptureRule
  | .inherit, outer => outer
  | r, _ => r

end CaptureRule

/-- What goes for steps and commands: sleeps, the implicit wait, the outcome and
pictures. -/
structure StepPolicy where
  /-- Milliseconds. -/
  sleep : Nat
  sleepTiming : SleepTiming
  /-- The implicit wait of the driver in milliseconds, left as it is unless positive. -/
  implicitWait : Int
  invert : Bool
  alwaysPass : Bool
  capture : CaptureRule
  deriving DecidableEq, Repr

namespace StepPolicy

/-- No sleep, no implicit wait, the outcome as it is, a picture of every failure. -/
def standard : StepPolicy := ⟨0, .never, -1, false, false, .onFailure⟩

/-- This policy inside another: what it leaves open is taken from there. -/
def within (p outer : StepPolicy) : StepPolicy :=
  { p with
    sleepTiming := p.sleepTiming.orInherit outer.sleepTiming
    capture := p.capture.orInherit outer.capture }

/-- A policy as it is written. -/
def encode (p : StepPolicy) : Json :=
  .object
    [("sleep_time_ms", .ofNat p.sleep),
     ("sleep_timing", p.sleepTiming.encode),
     ("timeout_ms", .ofInt p.implicitWait),
     ("invert_result", .bool p.invert),
     ("always_pass", .bool p.alwaysPass),
     ("screenshot_condition", p.capture.encode)]

open Decoding in
/-- Reads a policy. -/
def decode : Json → Decoded StepPolicy :=
  let shape : Shape := ⟨"StepSettings", 6⟩
  let sleep := required "sleep_time_ms" word64
  let sleepTiming := required "sleep_timing" SleepTiming.decode
  let implicitWait := required "timeout_ms" int64
  let invert := required "invert_result" bool
  let alwaysPass := required "always_pass" bool
  let capture := required "screenshot_condition" CaptureRule.decode
  record shape
    [sleep.check, sleepTiming.check, implicitWait.check, invert.check, alwaysPass.check,
     capture.check] fun src => do
    return {
      sleep := ← src.take shape 0 sleep
      sleepTiming := ← src.take shape 1 sleepTiming
      implicitWait := ← src.take shape 2 implicitWait
      invert := ← src.take shape 3 invert
      alwaysPass := ← src.take shape 4 alwaysPass
      capture := ← src.take shape 5 capture }

end StepPolicy

/-- The outcome that counts, and the text that says how it came about. -/
structure Resolution where
  passed : Bool
  message : String
  deriving DecidableEq, Repr

/-- Turns the outcome of a step round if asked to, and then passes it if asked to. -/
def resolve (passed invert alwaysPass : Bool) : Resolution :=
  ⟨alwaysPass || (passed != invert),
   (if passed then "Step Passed" else "Step Failed") ++
     (if invert then ". Step result inverted" else "") ++
     (if alwaysPass then ". Step marked as forced pass" else "")⟩

/-- The word for an outcome. -/
def outcomeWord (passed : Bool) : String := if passed then "Passed" else "Failed"

end Courier
