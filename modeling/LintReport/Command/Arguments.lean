import LintReport.Command.Help

/-!
# Reading the command line

Arguments are read from left to right, first those of the program and then those of its command.
The value of an option is looked at only when the next argument has been recognized, so an
argument that nobody knows is reported before a value that will not do. Two dashes end the
options: whatever follows them stands for itself.
-/

namespace LintReport.Command

/-- What has been read of one scope: the flags and values that are settled, in their order, and the
one whose value is still to be looked at, or still to come. -/
structure Given where
  flags : List Flag
  values : List (Parameter × String)
  pending : Option (Parameter × Option String)
  deriving DecidableEq, Repr

/-- Reading stops early because a text is to be shown, or because something is wrong. -/
inductive Stop where
  | show (help : Help)
  | refuse (error : UsageError)
  deriving DecidableEq, Repr

/-- Whether an argument takes any value, the empty one too. -/
def Parameter.takesAny : Parameter → Bool
  | current => true
  | latest => true
  | _ => false

/-- What is wrong with the value of an argument, if anything is. -/
def Parameter.objection? (parameter : Parameter) (value : String) : Option UsageError :=
  if value.isEmpty && !parameter.takesAny then some (.valueMissing parameter)
  else if parameter = .format ∧ (Format.ofWord? value).isNone then
    some (.invalidValue value parameter)
  else none

namespace Given

/-- Nothing has been read. -/
def empty : Given := ⟨[], [], none⟩

/-- Whether an option still has to get its value. -/
def awaits (given : Given) : Bool :=
  match given.pending with
  | some (_, none) => true
  | _ => false

/-- The value of an argument. -/
def value? (given : Given) (parameter : Parameter) : Option String :=
  given.values.lookup parameter

/-- Whether anything was given at all. -/
def isEmpty (given : Given) : Bool := given.flags.isEmpty && given.values.isEmpty

/-- Takes a value over, unless the argument has one or the value will not do. -/
def take (given : Given) (parameter : Parameter) (value : String) : Except Stop Given :=
  if (given.value? parameter).isSome then .error (.refuse (.repeatedParameter parameter))
  else
    match parameter.objection? value with
    | some error => .error (.refuse error)
    | none => .ok ⟨given.flags, given.values ++ [(parameter, value)], none⟩

/-- Looks at the value that has been put off. -/
def settle (given : Given) : Except Stop Given :=
  match given.pending with
  | none => .ok given
  | some (parameter, none) => .error (.refuse (.valueMissing parameter))
  | some (parameter, some value) => take { given with pending := none } parameter value

/-- Takes a flag over; a flag that asks for a text stops the reading. -/
def addFlag (given : Given) (flag : Flag) (help : Help) : Except Stop Given := do
  let given ← given.settle
  match flag with
  | .help => .error (.show help)
  | .version => .error (.show .version)
  | flag =>
    if flag ∈ given.flags then .error (.refuse (.repeatedFlag flag))
    else return { given with flags := given.flags ++ [flag] }

/-- Takes an argument over whose value is written right after it. -/
def attach (given : Given) (parameter : Parameter) (value : String) : Except Stop Given := do
  let given ← given.settle
  given.take parameter value

/-- Takes an argument over whose value is put off. -/
def defer (given : Given) (parameter : Parameter) (value : Option String) :
    Except Stop Given := do
  let given ← given.settle
  return { given with pending := some (parameter, value) }

end Given

/-- A word after two dashes: its name, and what follows an equals sign if there is one. -/
def splitLong (chars : List Char) : String × Option String :=
  let name := chars.takeWhile (· != '=')
  match chars.drop name.length with
  | [] => (String.ofList name, none)
  | _ :: value => (String.ofList name, some (String.ofList value))

/-- Reads an argument with two dashes. -/
def readLong (scope : Scope) (given : Given) (chars : List Char) : Except Stop Given :=
  let (name, value) := splitLong chars
  match scope.longItem? name, value with
  | none, _ => .error (.refuse (.unexpected ("--" ++ name)))
  | some (.flag flag), none => given.addFlag flag (.full scope)
  | some (.flag flag), some value => .error (.refuse (.unneededValue value flag))
  | some (.parameter parameter), none => given.defer parameter none
  | some (.parameter parameter), some value => given.attach parameter value

/-- Reads the letters after one dash. What follows the letter of an option is its value. -/
def readShort (scope : Scope) (given : Given) : List Char → Except Stop Given
  | [] => .ok given
  | letter :: rest =>
    match scope.shortItem? letter with
    | none => .error (.refuse (.unexpected (String.ofList ['-', letter])))
    | some (.flag flag) => do
      let given ← given.addFlag flag (.brief scope)
      readShort scope given rest
    | some (.parameter parameter) =>
      match rest with
      | [] => given.defer parameter none
      | '=' :: value => given.attach parameter (String.ofList value)
      | value => given.attach parameter (String.ofList value)

/-- Reads an argument that stands for itself: the input of a report, and nothing else. -/
def readPlain (scope : Scope) (given : Given) (argument : String) : Except Stop Given :=
  match scope with
  | .program => .error (.refuse (.unknownCommand argument))
  | .checkUpdate => .error (.refuse (.unexpected argument))
  | .report =>
    if (given.value? .input).isSome ∨ given.pending.map Prod.fst = some .input then
      .error (.refuse (.unexpected argument))
    else given.defer .input (some argument)

/-- Reads one argument before two dashes alone. -/
def readArgument (scope : Scope) (given : Given) (argument : String) : Except Stop Given :=
  match argument.toList with
  | '-' :: '-' :: chars => readLong scope given chars
  | '-' :: letter :: chars => readShort scope given (letter :: chars)
  | _ =>
    match given.pending with
    | some (parameter, none) =>
      .ok { given with pending := some (parameter, some argument) }
    | _ => readPlain scope given argument

/-- Reads the arguments of a command. -/
def readScope (scope : Scope) : (plain : Bool) → Given → List String → Except Stop Given
  | _, given, [] => given.settle
  | plain, given, argument :: rest =>
    if plain then do
      let given ← readPlain scope given argument
      readScope scope true given rest
    else if argument = "--" then readScope scope true given rest
    else do
      let given ← readArgument scope given argument
      readScope scope false given rest

/-- The command of a name. -/
def commandOf? : String → Option Scope
  | "report" => some .report
  | "check-update" => some .checkUpdate
  | _ => none

/-- What to show when help is asked for by its own command. -/
def helpStop : List String → Stop
  | [] => .show (.full .program)
  | [name] =>
    if name = "help" then .show .ofHelp
    else
      match commandOf? name with
      | some scope => .show (.full scope)
      | none => .refuse (.unknownCommand name)
  | name :: second :: _ =>
    if name = "help" ∨ (commandOf? name).isSome then .refuse (.unknownCommand second)
    else .refuse (.unknownCommand name)

/-- The first of what may not stand before a command once two dashes have been read. -/
def plainStop (argument : String) : Stop :=
  if argument = "help" ∨ (commandOf? argument).isSome then .refuse (.unexpected argument)
  else .refuse (.unknownCommand argument)

/-- Reads the arguments of the program up to its command: what was given, and the command with its
arguments if there is one. -/
def readProgram : (plain : Bool) → Given → List String →
    Except Stop (Given × Option (Scope × List String))
  | _, given, [] => .ok (given, none)
  | plain, given, argument :: rest =>
    if plain then .error (plainStop argument)
    else if !given.awaits && argument = "help" then .error (helpStop rest)
    else
      match if given.awaits then none else commandOf? argument with
      | some scope => .ok (given, some (scope, rest))
      | none =>
        if argument = "--" then readProgram true given rest
        else do
          let given ← readArgument .program given argument
          readProgram false given rest

/-- What holds for every command. -/
structure Globals where
  quiet : Bool
  verbose : Bool
  config : Option Path
  deriving DecidableEq, Repr

/-- What a report is asked for with. -/
structure ReportRequest where
  input : Option Path
  noSort : Bool
  format : Option Format
  deriving DecidableEq, Repr

/-- What a check for updates is asked for with. -/
structure UpdateRequest where
  current : Option String
  latest : Option String
  manifest : Option Path
  deriving DecidableEq, Repr

/-- A command with what it is asked for with. -/
inductive Request where
  | report (request : ReportRequest)
  | checkUpdate (request : UpdateRequest)
  deriving DecidableEq, Repr

/-- A command line that is in order. -/
structure Invocation where
  globals : Globals
  request : Request
  deriving DecidableEq, Repr

/-- Two options that exclude each other, the one given first named first. -/
def conflict? (given : Given) : Option UsageError :=
  match (given.values.map Prod.fst).filter (· ∈ [Parameter.latest, Parameter.manifest]) with
  | first :: second :: _ => some (.conflict first second)
  | _ => none

/-- What holds for the command, from what was given before its name and after it. -/
def globalsOf (before after : Given) : Globals where
  quiet := Flag.quiet ∈ before.flags ++ after.flags
  verbose := Flag.verbose ∈ before.flags ++ after.flags
  config := ((after.value? .config).or (before.value? .config)).map Path.ofString

/-- The command from what was given after its name. -/
def requestOf (scope : Scope) (given : Given) : Request :=
  match scope with
  | .checkUpdate =>
    .checkUpdate ⟨given.value? .current, given.value? .latest,
      (given.value? .manifest).map Path.ofString⟩
  | _ =>
    .report ⟨(given.value? .input).map Path.ofString, Flag.noSort ∈ given.flags,
      (given.value? .format).bind Format.ofWord?⟩

/-- What a command line asks for. -/
def read (arguments : List String) : Except Stop Invocation := do
  let (before, command) ← readProgram false .empty arguments
  match command with
  | none =>
    let before ← before.settle
    .error (.refuse (if before.isEmpty then .nothingAsked else .commandMissing))
  | some (scope, rest) =>
    let after ← readScope scope false .empty rest
    match conflict? after with
    | some error => .error (.refuse error)
    | none =>
      let before ← before.settle
      return ⟨globalsOf before after, requestOf scope after⟩

end LintReport.Command
