import Courier.Cli.Arguments

/-!
# Help texts
-/

namespace Courier.Cli

/-- The line on the option for the address. -/
def urlLine : String := "      --agent-url <agent-url>  Agent address, overrides TP_AGENT_URL\n"

/-- The line on the option for help. -/
def helpLine : String := "  -h, --help                   Print help\n"

/-- The help on a topic. -/
def Topic.text : Topic → String
  | .all =>
      "Probe a local Agent\n\nUsage: agent-relay [OPTIONS] <COMMAND>\n\nCommands:\n" ++
        "  status  Print the Agent version\n" ++
        "  ping    Open a development session and release it\n" ++
        "  help    Print this message or the help of the given subcommand(s)\n\nOptions:\n" ++
        urlLine ++ helpLine
  | .status =>
      "Print the Agent version\n\nUsage: agent-relay status [OPTIONS]\n\nOptions:\n" ++
        urlLine ++ helpLine
  | .ping =>
      "Open a development session and release it\n\nUsage: agent-relay ping [OPTIONS]\n\n" ++
        "Options:\n" ++
        urlLine ++
        "      --project <project>      [default: agent-relay]\n" ++
        "      --job <job>              [default: ping]\n" ++
        helpLine
  | .help =>
      "Print this message or the help of the given subcommand(s)\n\n" ++
        "Usage: agent-relay help [COMMAND]...\n\nArguments:\n" ++
        "  [COMMAND]...  Print help for the subcommand(s)\n"

end Courier.Cli
