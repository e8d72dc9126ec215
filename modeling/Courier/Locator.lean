import Courier.Decoding

/-!
# Locators

How a test names an element of a page or an app, and the two forms in which the
Agent is told: as search criteria in reports and codeblocks, and as an object
with one member in addon actions.
-/

namespace Courier

/-- The strategies of the Agent. -/
inductive Strategy where
  | id
  | name
  | className
  | cssSelector
  | linkText
  | partialLinkText
  | tagName
  | xpath
  | accessibilityId
  | iosUiAutomation
  | androidUiAutomator
  | iosPredicate
  | iosClassChain
  deriving DecidableEq, Repr

namespace Strategy

/-- The name of a strategy in search criteria. -/
def wireName : Strategy → String
  | .id => "ID"
  | .name => "NAME"
  | .className => "CLASSNAME"
  | .cssSelector => "CSSSELECTOR"
  | .linkText => "LINKTEXT"
  | .partialLinkText => "PARTIALLINKTEXT"
  | .tagName => "TAG_NAME"
  | .xpath => "XPATH"
  | .accessibilityId => "ACCESSIBILITYID"
  | .iosUiAutomation => "IOSUIAUTOMATION"
  | .androidUiAutomator => "ANDROIDUIAUTOMATOR"
  | .iosPredicate => "IOSPREDICATE"
  | .iosClassChain => "IOSCLASSCHAIN"

/-- Every strategy there is, in the order in which a reader is told of them. -/
def all : List Strategy :=
  [.id, .name, .className, .cssSelector, .linkText, .partialLinkText, .tagName, .xpath,
   .accessibilityId, .iosUiAutomation, .androidUiAutomator, .iosPredicate, .iosClassChain]

/-- A strategy is written as its name. -/
def encode (s : Strategy) : Json := .str s.wireName

/-- Reads a strategy by its name. -/
def decode : Json → Decoded Strategy :=
  Decoding.choice (all.map fun s => (s.wireName, s))

end Strategy

/-- An element as the Agent searches it; a negative index stands for no index. -/
structure SearchCriteria where
  strategy : Strategy
  value : String
  index : Int
  deriving DecidableEq, Repr

namespace SearchCriteria

/-- Criteria without an index. -/
def unindexed (strategy : Strategy) (value : String) : SearchCriteria := ⟨strategy, value, -1⟩

/-- Search criteria as they are written into a request. -/
def encode (c : SearchCriteria) : Json :=
  .object [("byType", c.strategy.encode), ("byValue", .str c.value), ("index", .ofInt c.index)]

/-- The criteria as an argument of a codeblock, put together member by member. -/
def toJson (c : SearchCriteria) : Json :=
  let o := Object.insert [] "byType" c.strategy.encode
  let o := o.insert "byValue" (.str c.value)
  .obj (o.insert "index" (.ofInt c.index))

open Decoding in
/-- Reads search criteria; the index has to be there as well. -/
def decode : Json → Decoded SearchCriteria :=
  let shape : Shape := ⟨"ElementSearchCriteria", 3⟩
  let strategy := required "byType" Strategy.decode
  let value := required "byValue" string
  let index := required "index" int64
  record shape [strategy.check, value.check, index.check] fun src => do
    return {
      strategy := ← src.take shape 0 strategy
      value := ← src.take shape 1 value
      index := ← src.take shape 2 index }

end SearchCriteria

/-- The strategies of test code. -/
inductive By where
  | id
  | name
  | xpath
  | className
  | cssSelector
  | linkText
  | partialLinkText
  | tagName
  | accessibilityId
  | iosPredicate
  deriving DecidableEq, Repr

namespace By

/-- The strategy that finds elements by this. -/
def strategy : By → Strategy
  | .id => .id
  | .name => .name
  | .xpath => .xpath
  | .className => .className
  | .cssSelector => .cssSelector
  | .linkText => .linkText
  | .partialLinkText => .partialLinkText
  | .tagName => .tagName
  | .accessibilityId => .accessibilityId
  | .iosPredicate => .iosPredicate

/-- The key of the strategy in an addon locator. -/
def addonKey : By → String
  | .id => "id"
  | .name => "name"
  | .xpath => "xpath"
  | .className => "className"
  | .cssSelector => "cssSelector"
  | .linkText => "linkText"
  | .partialLinkText => "partialLinkText"
  | .tagName => "tagName"
  | .accessibilityId => "accessibilityId"
  | .iosPredicate => "iosPredicate"

end By

/-- A strategy of test code and its argument. -/
structure Locator where
  kind : By
  value : String
  deriving DecidableEq, Repr

namespace Locator

/-- The criteria that find the element of a locator. -/
def criteria (l : Locator) : SearchCriteria := .unindexed l.kind.strategy l.value

/-- The form in addon actions. -/
def addonForm (l : Locator) : Json := .object [(l.kind.addonKey, .str l.value)]

end Locator
end Courier
