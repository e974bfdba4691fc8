import Failover.CommandLine.Arguments

/-!
# Help texts
-/

namespace Failover.CommandLine

def lines (l : List String) : String := String.join (l.map (· ++ "\n"))

def versionText : String := "wolfha 0.3.1\n"

def helpText : Topic → String
  | .whole => lines
    ["High-availability MariaDB/MySQL client with transparent host failover",
      "",
      "Usage: wolfha [OPTIONS] <COMMAND>",
      "",
      "Commands:",
      "  init      Initialize a new configuration file",
      "  validate  Validate configuration file",
      "  status    Connect and show the elected hosts",
      "  query     Run one statement through a failover connection",
      "  help      Print this message or the help of the given subcommand(s)",
      "",
      "Options:",
      "  -c, --config <CONFIG>        Path to configuration file [default: wolfha.toml]",
      "  -l, --log-level <LOG_LEVEL>  Log level (trace, debug, info, warn, error), "
        ++ "overrides the config file",
      "  -h, --help                   Print help",
      "  -V, --version                Print version"]
  | .init => lines
    ["Initialize a new configuration file",
      "",
      "Usage: wolfha init [OPTIONS]",
      "",
      "Options:",
      "  -o, --output <OUTPUT>  Output path for configuration file [default: wolfha.toml]",
      "  -h, --help             Print help"]
  | .validate => lines
    ["Validate configuration file",
      "",
      "Usage: wolfha validate",
      "",
      "Options:",
      "  -h, --help  Print help"]
  | .status => lines
    ["Connect and show the elected hosts",
      "",
      "Usage: wolfha status [OPTIONS]",
      "",
      "Options:",
      "      --json  Print as JSON",
      "  -h, --help  Print help"]
  | .query => lines
    ["Run one statement through a failover connection",
      "",
      "Usage: wolfha query [OPTIONS] <SQL>",
      "",
      "Arguments:",
      "  <SQL>  SQL statement",
      "",
      "Options:",
      "      --read-only  Route the statement to a replica",
      "  -h, --help       Print help"]
  | .help => lines
    ["Print this message or the help of the given subcommand(s)",
      "",
      "Usage: wolfha help [COMMAND]...",
      "",
      "Arguments:",
      "  [COMMAND]...  Print help for the subcommand(s)"]

def usageText : String :=
  lines ["error: the command line does not fit", "", "Usage: wolfha [OPTIONS] <COMMAND>", "",
    "For more information, try '--help'."]

end Failover.CommandLine
