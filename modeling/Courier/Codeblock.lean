import Courier.Locator

/-!
# Codeblocks

The codeblocks that the Agent hosts. Each has an identifier and arguments, works
on an element or on the window, and answers with its verdict or with an output.
-/

namespace Courier

/-- The codeblocks that the Agent has built in, with what each of them asks for. -/
inductive Codeblock where
  | pause (ms : Nat)
  | click (l : Locator)
  | clickIfVisible (l : Locator)
  | typeText (text : String) (l : Locator)
  /-- Sends keys to the window that has the focus. -/
  | sendKeys (keys : List String)
  | clearContents (l : Locator)
  | containsText (text : String) (l : Locator)
  | isSelected (l : Locator)
  | isPresent (l : Locator)
  | isVisible (l : Locator)
  | isInvisible (l : Locator)
  | isClickable (l : Locator)
  | getText (l : Locator)
  | getTitle
  | moveMouseTo (l : Locator)
  | navigateForward
  | navigateBack
  | refresh
  | navigateTo (url : String)
  | getCurrentUrl
  | scrollWindow (x y : Int)
  | selectAllByValue (option : String) (l : Locator)
  | switchToWindow (index : Nat)
  | closeWindow (index : Nat)
  deriving DecidableEq, Repr

namespace Codeblock

/-- The identifier under which the Agent knows a codeblock. -/
def guid : Codeblock → String
  | .pause _ => "5ac5d621-7a53-45a6-94e5-a3348be3969e"
  | .click _ => "02d572b2-d610-4700-9ad3-40076ddb9807"
  | .clickIfVisible _ => "27fd3f33-9b63-4dc4-97e9-fcf494cbffdb"
  | .typeText _ _ => "6f94fdaa-0041-4265-b73b-ecfcbe702d66"
  | .sendKeys _ => "928bf14e-7a56-4371-b92a-9cb9de53f632"
  | .clearContents _ => "511ddb4e-210f-4f3f-9fb9-b766bb23ee6a"
  | .containsText _ _ => "85da72d0-c5a4-4587-be33-8cb3b5fa7910"
  | .isSelected _ => "2c399e26-8d02-41a7-a8d4-acfeda14fb5b"
  | .isPresent _ => "a9ab4ae7-38ca-4451-a636-1b801a774503"
  | .isVisible _ => "7314f516-588b-4dff-bf0e-7016c7e02a4b"
  | .isInvisible _ => "104373b7-868c-44ba-bbd2-e16089ad2e48"
  | .isClickable _ => "a59f3a20-d08d-4293-9add-b279f92e6c41"
  | .getText _ => "225caec3-3231-45d5-a3f3-c4c59b7ab385"
  | .getTitle => "c168339f-55c4-4c0d-91fc-cd9d4b8c7574"
  | .moveMouseTo _ => "631118c0-4828-42c8-aa69-0e6107d5956d"
  | .navigateForward => "664577f4-e1d2-4c46-b499-3934b447b478"
  | .navigateBack => "43b4408f-3fa1-4ec5-80cd-872d6dff7628"
  | .refresh => "3a06acbf-9138-4392-bca1-c1946886b65d"
  | .navigateTo _ => "49c5d8d8-4ba8-42f0-823d-702e6acfb23a"
  | .getCurrentUrl => "56a4ad1b-b563-4322-ba29-d165090302b2"
  | .scrollWindow _ _ => "a5d4eb31-51f0-4c62-8832-60c6bcd51a16"
  | .selectAllByValue _ _ => "45fdd921-b359-4d6a-b7c5-5f9a3612c0f2"
  | .switchToWindow _ => "3a7a12fb-66a4-47c2-aaf0-deeb7b1f748a"
  | .closeWindow _ => "6cc71ddb-1aaf-433c-aa94-56d944aac433"

/-- The element it works on. -/
def locator? : Codeblock → Option Locator
  | .click l | .clickIfVisible l | .typeText _ l | .clearContents l | .containsText _ l
  | .isSelected l | .isPresent l | .isVisible l | .isInvisible l | .isClickable l
  | .getText l | .moveMouseTo l | .selectAllByValue _ l => some l
  | _ => none

/-- The arguments in the body of its request. -/
def arguments : Codeblock → Object
  | .pause ms => [("milliseconds", .ofNat ms)]
  | .typeText text _ => [("keys", .str text)]
  | .sendKeys keys => [("text", .str (String.intercalate "," keys))]
  | .containsText text _ => [("text", .str text)]
  | .navigateTo url => [("url", .str url)]
  | .scrollWindow x y => [("x", .ofInt x), ("y", .ofInt y)]
  | .selectAllByValue option _ => [("value", .str option)]
  | .switchToWindow index => [("index", .ofNat index)]
  | .closeWindow index => [("index", .ofNat index)]
  | _ => []

/-- The output that is its value, where its verdict is not. -/
def output? : Codeblock → Option String
  | .getText _ => some "text"
  | .getTitle => some "title"
  | .getCurrentUrl => some "url"
  | _ => none

/-- How long the Agent may take unless said otherwise, in milliseconds. -/
def defaultTimeout : Nat := 10000

/-- The key of the time limit in a body. -/
def timeoutKey : String := "_timeout"

/-- The key of the element in a body. -/
def elementKey : String := "elementSearchCriteria"

/-- The body of a request: the entries given, the timeout, and the element if there is one. -/
def body (timeout : Nat) (entries : Object) (l : Option Locator) : Object :=
  let timed := entries.insert timeoutKey (.ofNat timeout)
  match l with
  | some l => timed.insert elementKey l.criteria.toJson
  | none => timed

/-- What a codeblock comes to. -/
inductive Value where
  | flag (passed : Bool)
  | output (text : Option String)
  deriving DecidableEq, Repr

end Codeblock
end Courier
