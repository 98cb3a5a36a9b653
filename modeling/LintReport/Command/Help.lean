import LintReport.Command.Usage

/-!
# Help texts

The texts that explain the command line.
-/

namespace LintReport.Command

/-- A text that explains something: the program, a command, in short or at length, or the command
that shows help. -/
inductive Help where
  | brief (scope : Scope)
  | full (scope : Scope)
  | ofHelp
  | version
  deriving DecidableEq, Repr

namespace Help

/-- The version of the program. -/
def programVersion : String := "0.1.0"

/-- Lines, each with its line feed. -/
def lines (all : List String) : String := String.join (all.map (· ++ "\n"))

/-- What the program can do. -/
def programText : String := lines [
  "Linter result reporter",
  "",
  "Usage: hintpane [OPTIONS] <COMMAND>",
  "",
  "Commands:",
  "  report        Order and render analyzer results",
  "  check-update  Check whether a newer release is available",
  "  help          Print this message or the help of the given subcommand(s)",
  "",
  "Options:",
  "  -q, --quiet            Suppress status output, and skip reports that have no errors or warnings",
  "  -v, --verbose          Enable verbose (debug-level) logging",
  "      --config <CONFIG>  Path to a custom `hintpane.toml` configuration file",
  "  -h, --help             Print help",
  "  -V, --version          Print version"]

/-- How to report, in short. -/
def reportBrief : String := lines [
  "Order and render analyzer results",
  "",
  "Usage: hintpane report [OPTIONS] [INPUT]",
  "",
  "Arguments:",
  "  [INPUT]  File holding a JSON array of analyzer results. Reads stdin if omitted or `-`",
  "",
  "Options:",
  "      --no-sort          Emit findings in analyzer order instead of sorting by position",
  "  -q, --quiet            Suppress status output, and skip reports that have no errors or warnings",
  "  -f, --format <FORMAT>  Output format for the report [possible values: json, text]",
  "  -v, --verbose          Enable verbose (debug-level) logging",
  "      --config <CONFIG>  Path to a custom `hintpane.toml` configuration file",
  "  -h, --help             Print help (see more with '--help')"]

/-- How to report, at length. -/
def reportFull : String := lines [
  "Order and render analyzer results",
  "",
  "Usage: hintpane report [OPTIONS] [INPUT]",
  "",
  "Arguments:",
  "  [INPUT]",
  "          File holding a JSON array of analyzer results. Reads stdin if omitted or `-`",
  "",
  "Options:",
  "      --no-sort",
  "          Emit findings in analyzer order instead of sorting by position",
  "",
  "  -q, --quiet",
  "          Suppress status output, and skip reports that have no errors or warnings",
  "",
  "  -f, --format <FORMAT>",
  "          Output format for the report",
  "",
  "          Possible values:",
  "          - json: Single-line JSON array",
  "          - text: Human-readable listing",
  "",
  "  -v, --verbose",
  "          Enable verbose (debug-level) logging",
  "",
  "      --config <CONFIG>",
  "          Path to a custom `hintpane.toml` configuration file",
  "",
  "  -h, --help",
  "          Print help (see a summary with '-h')"]

/-- How to check for updates. -/
def updateText : String := lines [
  "Check whether a newer release is available",
  "",
  "Usage: hintpane check-update [OPTIONS]",
  "",
  "Options:",
  "      --current <CURRENT>    The running version. Defaults to this binary's version",
  "  -q, --quiet                Suppress status output, and skip reports that have no errors or warnings",
  "      --latest <LATEST>      The latest release version, if already known",
  "  -v, --verbose              Enable verbose (debug-level) logging",
  "      --config <CONFIG>      Path to a custom `hintpane.toml` configuration file",
  "      --manifest <MANIFEST>  Path to a release manifest naming the latest version",
  "  -h, --help                 Print help"]

/-- How to get help. -/
def helpText : String := lines [
  "Print this message or the help of the given subcommand(s)",
  "",
  "Usage: hintpane help [COMMAND]...",
  "",
  "Arguments:",
  "  [COMMAND]...  Print help for the subcommand(s)"]

/-- The text that is shown. Only the help of the report has a longer form. -/
def text : Help → String
  | brief .program => programText
  | full .program => programText
  | brief .report => reportBrief
  | full .report => reportFull
  | brief .checkUpdate => updateText
  | full .checkUpdate => updateText
  | ofHelp => helpText
  | version => "hintpane " ++ programVersion ++ "\n"

end Help

end LintReport.Command
