import DeployBoard.Text.Numeral

/-!
# `CommandLine` — the program's options

Every option has a long name. One is a switch; the others take a value, which follows as the next argument or after an equals
sign. An argument that begins with a dash is a value only after an equals sign; a lone dash is a value. Two dashes end
the options, and nothing may come after them, because the program takes no other arguments.

The value of an option is read when the option is complete, that is, at the next option or at the end. So an unknown
argument is reported before a bad value that stands just before it.
-/

namespace DeployBoard

open Text

/-- **The options as given.** -/
structure CommandLine where
  noTui : Bool := false
  serverUrl : Option String := none
  updateFrequencyMs : Option Nat := none
  theme : Option String := none
  logLevel : Option String := none
  logFile : Option String := none
  deriving DecidableEq, Repr, Inhabited

/-- **Why the arguments are refused**, or that a text was asked for instead of a run. -/
inductive UsageError where
  /-- The argument is not an option. -/
  | unknownArgument
  /-- The option has no value. -/
  | invalidValue
  /-- The value is not a number. -/
  | valueValidation
  /-- The option was given before. -/
  | argumentConflict
  /-- The switch was given a value. -/
  | tooManyValues
  | displayHelp
  | displayVersion
  deriving DecidableEq, Repr

/-- The name of the reason. -/
def UsageError.name : UsageError → String
  | .unknownArgument => "UnknownArgument"
  | .invalidValue => "InvalidValue"
  | .valueValidation => "ValueValidation"
  | .argumentConflict => "ArgumentConflict"
  | .tooManyValues => "TooManyValues"
  | .displayHelp => "DisplayHelp"
  | .displayVersion => "DisplayVersion"

/-- The program ends with success when a text was asked for, and otherwise reports wrong usage. -/
def UsageError.exitCode : UsageError → Nat
  | .displayHelp | .displayVersion => 0
  | _ => 2

namespace CommandLine

/-- The options that take a value. -/
inductive ValueOption where
  | serverUrl | updateFrequencyMs | theme | logLevel | logFile
  deriving DecidableEq, Repr

/-- What a long name stands for. -/
inductive Name where
  | value (option : ValueOption)
  | noTui
  | help
  | version

/-- The long names. -/
def name? : String → Option Name
  | "no-tui" => some .noTui
  | "server-url" => some (.value .serverUrl)
  | "update-frequency-ms" => some (.value .updateFrequencyMs)
  | "theme" => some (.value .theme)
  | "log-level" => some (.value .logLevel)
  | "log-file" => some (.value .logFile)
  | "help" => some .help
  | "version" => some .version
  | _ => none

/-- Gives an option its text, once. -/
def setText (old : Option String) (value : String) : Except UsageError (Option String) :=
  if old.isSome then .error .argumentConflict else .ok (some value)

/-- **Gives an option its value.** The name of a file may not be empty. -/
def set (given : CommandLine) (option : ValueOption) (value : String) : Except UsageError CommandLine :=
  match option with
  | .serverUrl => (setText given.serverUrl value).map fun v => { given with serverUrl := v }
  | .theme => (setText given.theme value).map fun v => { given with theme := v }
  | .logLevel => (setText given.logLevel value).map fun v => { given with logLevel := v }
  | .logFile =>
    (setText given.logFile value).bind fun v =>
      if value = "" then .error .invalidValue else .ok { given with logFile := v }
  | .updateFrequencyMs =>
    if given.updateFrequencyMs.isSome then .error .argumentConflict
    else
      match readUnsigned64 value with
      | .ok n => .ok { given with updateFrequencyMs := some n }
      | .error _ => .error .valueValidation

/-- An option whose name has been read, and its value if that has been read too. -/
structure Open where
  option : ValueOption
  value : Option String

/-- Completes the open option. -/
def close (given : CommandLine) : Option Open → Except UsageError CommandLine
  | none => .ok given
  | some ⟨_, none⟩ => .error .invalidValue
  | some ⟨option, some value⟩ => given.set option value

/-- Cuts a long option at its first equals sign. -/
def splitLong (cs : List Char) : String × Option String :=
  match cs.span (· ≠ '=') with
  | (name, _ :: value) => (String.ofList name, some (String.ofList value))
  | (name, []) => (String.ofList name, none)

/-- A long option, after its two dashes. -/
def readLong (given : CommandLine) (opened : Option Open) (cs : List Char) :
    Except UsageError (CommandLine × Option Open) :=
  match splitLong cs with
  | (name, value) =>
    match name? name, value with
    | none, _ => .error .unknownArgument
    | some (.value option), none => (given.close opened).map fun g => (g, some ⟨option, none⟩)
    | some (.value option), some v => (given.close opened).bind fun g => (g.set option v).map fun g => (g, none)
    | some _, some _ => .error .tooManyValues
    | some .noTui, none =>
      (given.close opened).bind fun g =>
        if g.noTui then .error .argumentConflict else .ok ({ g with noTui := true }, none)
    | some .help, none => (given.close opened).bind fun _ => .error .displayHelp
    | some .version, none => (given.close opened).bind fun _ => .error .displayVersion

/-- A short option, after its dash: two letters are known. -/
def readShort (given : CommandLine) (opened : Option Open) (c : Char) : Except UsageError Unit :=
  if c = 'h' then (given.close opened).bind fun _ => .error .displayHelp
  else if c = 'V' then (given.close opened).bind fun _ => .error .displayVersion
  else .error .unknownArgument

/-- Reads the arguments from left to right. -/
def parseFrom (given : CommandLine) (opened : Option Open) : List String → Except UsageError CommandLine
  | [] => given.close opened
  | arg :: rest =>
    match arg.toList with
    | ['-', '-'] => if rest = [] then given.close opened else .error .unknownArgument
    | '-' :: '-' :: cs => (readLong given opened cs).bind fun (g, o) => parseFrom g o rest
    | '-' :: c :: _ => (readShort given opened c).bind fun _ => .error .unknownArgument
    | _ =>
      match opened with
      | some ⟨option, none⟩ => parseFrom given (some ⟨option, some arg⟩) rest
      | _ => .error .unknownArgument

/-- The text about the program's version. -/
def versionText : String := "rdash 0.1.0\n"

/-- The text about the program's options. -/
def helpText : String :=
  String.join
    ["Terminal dashboard for the registry watcher: browse repositories, pick tags, deploy\n\n",
     "Usage: rdash [OPTIONS]\n\nOptions:\n",
     "      --no-tui                       Use plain line mode (disable TUI)\n",
     "      --server-url <URL>             Registry watcher base URL\n",
     "      --update-frequency-ms <MS>     Poll interval in milliseconds\n",
     "      --theme <THEME>                UI theme (dark, light)\n",
     "      --log-level <LEVEL>            Log level or filter directive\n",
     "      --log-file <FILE>              Log file used in TUI mode\n",
     "  -h, --help                         Print help\n",
     "  -V, --version                      Print version\n"]

/-- **Reads the program's arguments.** -/
def parse (args : List String) : Except UsageError CommandLine := parseFrom {} none args

end CommandLine

end DeployBoard
