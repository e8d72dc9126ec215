/-!
# Command line arguments

Two commands with options. An option takes the argument after it, unless that
looks like an option itself, or the text after an equals sign; it may be given
once before the command and, if the command has it too, once after it, where it
counts more. What is wrong first decides, and asking for help ends the reading.
-/

namespace Courier.Cli

/-- What the program is asked to do. -/
inductive Action where
  | status
  | ping (project job : String)
  deriving DecidableEq, Repr

/-- What a command line asks for. -/
structure Arguments where
  agentUrl : Option String
  action : Action
  deriving DecidableEq, Repr

/-- A part of the help. -/
inductive Topic where
  | all
  | status
  | ping
  | help
  deriving DecidableEq, Repr

/-- Why a command line is not run. -/
inductive Refusal where
  | help (topic : Topic)
  | usage (message : String)
  deriving DecidableEq, Repr

/-- The options read so far, with their values. -/
abbrev Values := List (String × String)

/-- What the arguments of a level come to. -/
inductive Level where
  | done (values : Values)
  | command (name : String) (values : Values) (rest : List String)
  deriving DecidableEq, Repr

/-- An argument that cannot be the value of the option before it. -/
def looksLikeOption (s : String) : Bool := s.startsWith "-" && s != "-"

/-- An argument that is not known is refused with the usage. -/
def unexpected {α : Type} (s : String) : Except Refusal α :=
  .error (.usage ("unexpected argument '" ++ s ++ "' found"))

/-- Takes in a value of an option that is known and has none yet. -/
def Values.add (values : Values) (known : List String) (name value : String) :
    Except Refusal Values :=
  if !known.contains name then unexpected ("--" ++ name)
  else if (values.lookup name).isSome then
    .error (.usage ("the argument '--" ++ name ++ "' cannot be used multiple times"))
  else .ok (values ++ [(name, value)])

/-- The name of a long option and the text after its equals sign. -/
def splitOption (cs : List Char) : String × Option String :=
  let name := String.ofList (cs.takeWhile (· != '='))
  match cs.dropWhile (· != '=') with
  | _ :: value => (name, some (String.ofList value))
  | [] => (name, none)

/-- Reads the arguments of a level with these options and commands. -/
def readLevel (topic : Topic) (known commands : List String) (values : Values) :
    List String → Except Refusal Level
  | [] => .ok (.done values)
  | arg :: rest =>
      if commands.contains arg then .ok (.command arg values rest)
      else
        match arg.toList with
        | ['-', '-'] =>
            match rest with
            | [] => .ok (.done values)
            | extra :: _ => unexpected extra
        | '-' :: '-' :: cs =>
            match splitOption cs with
            | ("help", none) => .error (.help topic)
            | (name, some value) =>
                match values.add known name value with
                | .ok values => readLevel topic known commands values rest
                | .error e => .error e
            | (name, none) =>
                match rest with
                | value :: rest =>
                    if looksLikeOption value then
                      .error (.usage ("a value is required for '--" ++ name ++
                        "' but none was supplied"))
                    else
                      match values.add known name value with
                      | .ok values => readLevel topic known commands values rest
                      | .error e => .error e
                | [] =>
                    .error (.usage ("a value is required for '--" ++ name ++
                      "' but none was supplied"))
        | '-' :: 'h' :: _ => .error (.help topic)
        | _ => unexpected arg

/-- The name of the option for the address of the Agent. -/
def urlOption : String := "agent-url"

/-- The commands there are, the one for help included. -/
def commandNames : List String := ["status", "ping", "help"]

/-- Reads the arguments of a command. -/
def readCommand (topic : Topic) (known : List String) (args : List String) :
    Except Refusal Values :=
  match readLevel topic known [] [] args with
  | .ok (.done values) => .ok values
  | .ok (.command _ values _) => .ok values
  | .error e => .error e

/-- The topic that help is asked for. -/
def readTopic : List String → Except Refusal Topic
  | [] => .ok .all
  | ["status"] => .ok .status
  | ["ping"] => .ok .ping
  | ["help"] => .ok .help
  | name :: _ => .error (.usage ("unrecognized subcommand '" ++ name ++ "'"))

/-- Reads a command line. -/
def Arguments.read (args : List String) : Except Refusal Arguments := do
  match ← readLevel .all [urlOption] commandNames [] args with
  | .done _ => throw (.usage "a subcommand is required but one was not provided")
  | .command "status" outer rest =>
      let inner ← readCommand .status [urlOption] rest
      return ⟨(inner.lookup urlOption).or (outer.lookup urlOption), .status⟩
  | .command "ping" outer rest =>
      let inner ← readCommand .ping [urlOption, "project", "job"] rest
      return ⟨(inner.lookup urlOption).or (outer.lookup urlOption),
        .ping ((inner.lookup "project").getD "agent-relay") ((inner.lookup "job").getD "ping")⟩
  | .command _ _ rest => throw (.help (← readTopic rest))

end Courier.Cli
