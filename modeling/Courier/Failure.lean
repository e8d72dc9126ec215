import Courier.Url.Host

/-!
# Failures

Every way in which an operation ends without its result, and the text that says
so. A failure of the transport counts as a connection failure only if the Agent
could not be reached at all.
-/

namespace Courier

/-- A failure of an exchange, or of a read or write. -/
structure TransportFault where
  text : String
  /-- The other side could not be reached. -/
  unreachable : Bool
  deriving DecidableEq, Repr

/-- What can go wrong. -/
inductive Failure where
  /-- The Agent could not be reached or gave an unusable answer. -/
  | agentConnect (text : String)
  | invalidToken (text : String)
  | sessionStart (text : String)
  | obsoleteVersion (text : String)
  | general (text : String)
  | addonNotInstalled (guid className : String)
  | unexpectedStatus (status : Nat) (body : String)
  | timeout (text : String)
  | http (fault : TransportFault)
  /-- A value is not the written form of what was asked for. -/
  | decoding (text : String)
  | io (text : String)
  | url (error : Url.ParseError)
  deriving DecidableEq, Repr

namespace Failure

/-- The text about an action that the account does not have. -/
def notInstalled (guid className : String) : String :=
  "Action [" ++ className ++ "] in addon [" ++ guid ++ "] is not installed in your account"

/-- What the user is told of a failure. -/
def message : Failure → String
  | .agentConnect text => "Agent connection failed: " ++ text
  | .invalidToken text => "Invalid developer token: " ++ text
  | .sessionStart text => "Session start failed: " ++ text
  | .obsoleteVersion text => "Obsolete version: " ++ text
  | .general text => text
  | .addonNotInstalled guid className => notInstalled guid className
  | .unexpectedStatus status body =>
      "Agent responded with an unexpected status " ++ toString status ++ ": " ++ body
  | .timeout text => "Timeout error: " ++ text
  | .http fault => "HTTP error: " ++ fault.text
  | .decoding text => "Serialization error: " ++ text
  | .io text => "IO error: " ++ text
  | .url error => "Invalid URL: " ++ error.message

/-- The Agent could not be reached, so that trying again later may help. -/
def isConnectionFailure : Failure → Bool
  | .http fault => fault.unreachable
  | .io _ => true
  | _ => false

/-- The text of the failure beneath, where there is one. -/
def cause? : Failure → Option String
  | .http fault => some fault.text
  | .decoding text => some text
  | .io text => some text
  | .url error => some error.message
  | _ => none

end Failure
end Courier
