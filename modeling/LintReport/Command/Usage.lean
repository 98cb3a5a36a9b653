import LintReport.Text.Terminal
import LintReport.Files.Path
import LintReport.Report.Format

/-!
# What can be asked for on the command line

The program has two commands, to report and to check for updates. Flags are given or not; options
have a value. Some flags and one option belong to the program, and may stand before or after the
name of a command.
-/

namespace LintReport.Command

/-- Where an argument stands: before the name of a command, or after it. -/
inductive Scope where
  | program
  | report
  | checkUpdate
  deriving DecidableEq, Repr

/-- A flag. -/
inductive Flag where
  | quiet
  | verbose
  | noSort
  | help
  | version
  deriving DecidableEq, Repr

/-- An argument with a value: an option, or the name of the input, which stands alone. -/
inductive Parameter where
  | config
  | format
  | current
  | latest
  | manifest
  | input
  deriving DecidableEq, Repr

/-- What a word or letter after dashes names. -/
inductive Item where
  | flag (flag : Flag)
  | parameter (parameter : Parameter)
  deriving DecidableEq, Repr

/-- A flag as it is shown. -/
def Flag.shown : Flag → String
  | quiet => "--quiet"
  | verbose => "--verbose"
  | noSort => "--no-sort"
  | help => "--help"
  | version => "--version"

/-- An argument with a value as it is shown. -/
def Parameter.shown : Parameter → String
  | config => "--config <CONFIG>"
  | format => "--format <FORMAT>"
  | current => "--current <CURRENT>"
  | latest => "--latest <LATEST>"
  | manifest => "--manifest <MANIFEST>"
  | input => "[INPUT]"

namespace Scope

/-- The name of a command. -/
def name : Scope → String
  | program => "hintpane"
  | report => "report"
  | checkUpdate => "check-update"

/-- What a word after two dashes names. -/
def longItem? (scope : Scope) (word : String) : Option Item :=
  match word, scope with
  | "quiet", _ => some (.flag .quiet)
  | "verbose", _ => some (.flag .verbose)
  | "help", _ => some (.flag .help)
  | "version", program => some (.flag .version)
  | "config", _ => some (.parameter .config)
  | "no-sort", report => some (.flag .noSort)
  | "format", report => some (.parameter .format)
  | "current", checkUpdate => some (.parameter .current)
  | "latest", checkUpdate => some (.parameter .latest)
  | "manifest", checkUpdate => some (.parameter .manifest)
  | _, _ => none

/-- What a letter after one dash names. -/
def shortItem? (scope : Scope) (letter : Char) : Option Item :=
  match letter, scope with
  | 'q', _ => some (.flag .quiet)
  | 'v', _ => some (.flag .verbose)
  | 'h', _ => some (.flag .help)
  | 'V', program => some (.flag .version)
  | 'f', report => some (.parameter .format)
  | _, _ => none

end Scope

/-- What is wrong with a command line. -/
inductive UsageError where
  | nothingAsked
  | commandMissing
  | unknownCommand (name : String)
  | unexpected (argument : String)
  | valueMissing (parameter : Parameter)
  | invalidValue (value : String) (parameter : Parameter)
  | unneededValue (value : String) (flag : Flag)
  | repeatedFlag (flag : Flag)
  | repeatedParameter (parameter : Parameter)
  | conflict (first second : Parameter)
  deriving DecidableEq, Repr

/-- Something that was typed, as it is shown in a message. -/
def quoteTyped (typed : String) : String := "'" ++ Terminal.visible typed ++ "'"

/-- The line that says what is wrong. Who asks for nothing is told what the program is. -/
def UsageError.message : UsageError → String
  | nothingAsked => "Linter result reporter"
  | commandMissing => "error: 'hintpane' requires a subcommand but one was not provided"
  | unknownCommand name => "error: unrecognized subcommand " ++ quoteTyped name
  | unexpected argument => "error: unexpected argument " ++ quoteTyped argument ++ " found"
  | valueMissing parameter =>
    "error: a value is required for '" ++ parameter.shown ++ "' but none was supplied"
  | invalidValue value parameter =>
    "error: invalid value " ++ quoteTyped value ++ " for '" ++ parameter.shown ++ "'"
  | unneededValue value flag =>
    "error: unexpected value " ++ quoteTyped value ++ " for '" ++ flag.shown ++
      "' found; no more were expected"
  | repeatedFlag flag =>
    "error: the argument '" ++ flag.shown ++ "' cannot be used multiple times"
  | repeatedParameter parameter =>
    "error: the argument '" ++ parameter.shown ++ "' cannot be used multiple times"
  | conflict first second =>
    "error: the argument '" ++ first.shown ++ "' cannot be used with '" ++ second.shown ++ "'"

end LintReport.Command
