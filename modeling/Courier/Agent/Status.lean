import Courier.Agent.Endpoint
import Courier.Agent.Network
import Courier.Config
import Courier.Version

/-!
# The status of the Agent

The Agent tells its version to anybody who asks, without a session.
-/

namespace Courier

/-- What the Agent says of itself. -/
structure AgentStatus where
  tag : String
  deriving DecidableEq, Repr

namespace AgentStatus

/-- The version in what the Agent says. -/
def version (s : AgentStatus) : Except Failure Version := Version.parse s.tag

/-- A status as the Agent writes it. -/
def encode (s : AgentStatus) : Json := .object [("tag", .str s.tag)]

open Decoding in
/-- Reads the status of the Agent. -/
def decode : Json → Decoded AgentStatus :=
  let shape : Shape := ⟨"AgentStatusResponse", 1⟩
  let tag := required "tag" string
  record shape [tag.check] fun src => return ⟨← src.take shape 0 tag⟩

/-- The status that the text of an answer tells. -/
def ofText (text : String) : Except Failure AgentStatus :=
  match Json.parse? text with
  | none =>
      .error (.general
        "Could not parse Agent status response: no JSON response body present")
  | some body =>
      match (body.get? "tag").bind Json.asString? with
      | some tag => .ok ⟨tag⟩
      | none =>
          .error (.general ("Could not parse Agent status response: element 'tag' not found " ++
            "in JSON response body"))

/-- Asks for the status. -/
def request {ω : Type} (config : Config) (token : Option String) : Talk ω AgentStatus := do
  let base ← Talk.parseUrl config.agentUrl
  let url ← Talk.resolve base Endpoint.status.path
  let answer ← Talk.send ⟨.get, url, token, none⟩
  if !answer.isSuccess then
    throw (.agentConnect ("Agent returned HTTP " ++ toString answer.status ++
      " when trying to retrieve Agent status"))
  match answer.text? with
  | .error fault => throw (.http fault)
  | .ok text =>
      match ofText text with
      | .ok status => return status
      | .error e => throw e

end AgentStatus
end Courier
