import AuthSigner.Command.EnvironmentFile
import AuthSigner.Command.Run
import AuthSigner.Command.Version
import AuthSigner.Console.Filter

/-! The program: a run from the arguments, the environment and the files, with the
log beside it, and how it ends. -/
namespace AuthSigner

namespace UsageError

/-- The long name of a setting. -/
def settingName : Setting → String
  | .secretKey => "--secret-key"
  | .networkPassphrase => "--network-passphrase"
  | .network => "--network"
  | .expiration => "--signature-expiration-ledger"
  | .logFilter => "--filter-logs"

/-- The long name of a flag. -/
def flagName : Flag → String
  | .verify => "--verify"
  | .quiet => "--quiet"
  | .verbose => "--verbose"
  | .veryVerbose => "--very-verbose"

def message : UsageError → String
  | .unknownArgument argument => s!"unexpected argument '{argument}'"
  | .valueMissing setting => s!"a value is required for '{settingName setting}'"
  | .valueUnneeded argument => s!"no value is expected in '{argument}'"
  | .flagRepeated flag => s!"'{flagName flag}' cannot be used more than once"
  | .settingRepeated setting => s!"'{settingName setting}' cannot be used more than once"
  | .valueInvalid setting => s!"the value of '{settingName setting}' is not valid"
  | .settingMissing setting => s!"'{settingName setting}' is required"

end UsageError

/-- How the program ends. -/
inductive Ending where
  /-- The command line gives no options. -/
  | halted (halt : Halt)
  /-- There is a failure, after the user was told this. -/
  | failed (told : String)
  /-- The output is written, and the user was told this. -/
  | done (output told : String)
deriving DecidableEq

namespace Ending

/-- The name of the program, as it is called. -/
def programName : String := "stellar-sign-auth-ed25519"

/-- How to call the program. -/
def usage : String := "Usage: " ++ programName ++ " --secret-key <SECRET_KEY> --signature-expiration-ledger <LEDGER> [OPTIONS] [TX_XDR]\n"

/-- The exit code. -/
def code : Ending → Nat
  | .halted (.usage _) => 2
  | .halted _ => 0
  | .failed _ => 1
  | .done _ _ => 0

/-- What is written to standard output. -/
def stdout : Ending → String
  | .halted (.help _) => usage
  | .halted (.version full) =>
    programName ++ " " ++ (if full then "\n".intercalate Version.long else Version.short) ++ "\n"
  | .halted (.usage _) => ""
  | .failed _ => ""
  | .done output _ => output

/-- What is written to standard error. -/
def stderr : Ending → String
  | .halted (.usage e) => s!"error: {e.message}\n\n{usage}"
  | .halted _ => ""
  | .failed told => told
  | .done _ told => told

end Ending

namespace Program

/-- The variable with directives for the log. -/
def logVariable : String := "RUST_LOG"

/-- The variables that the program looks at. -/
def variableNames : List String :=
  [Surroundings.terminalVariable, logVariable] ++ RenamedVariable.all.flatMap fun v => v.name :: v.formerNames

/-- The name of the file of settings in a directory, which is given by its place. -/
def settingsName (place : List Bytes) : Bytes :=
  (place ++ [Bytes.ofString ".env"]).flatMap (FileTree.slash :: ·)

/-- What comes of reading the file of settings in a directory, or `none` if it has none and those
above it are to be searched. -/
def settingsIn (s : Surroundings) (place : List Bytes) : Option (Except SystemError Bytes) :=
  match s.find (settingsName place) with
  | .ok node => if node.kind = .regular then some node.content else none
  | .error cause => if cause = .missing then none else some (.error cause)

/-- A directory and those above it, the nearest first. -/
def upward (place : List Bytes) : List (List Bytes) :=
  (List.range (place.length + 1)).reverse.map place.take

/-- The file of settings: the one in the working directory or in the nearest above it. -/
def settings (s : Surroundings) : Except SystemError Bytes :=
  match s.working with
  | none => .error .missing
  | some place => ((upward place).findSome? (settingsIn s)).getD (.error .missing)

/-- The environment at the start: the given one, what the file of settings adds to it, and then
the present names of the variables. It does not matter why there is no file of settings. -/
def environment (s : Surroundings) : Environment :=
  let loaded := match settings s with
    | .ok content => EnvironmentFile.load s.environment content
    | .error _ => s.environment
  loaded.withPresentNames

/-- The report of a failure, which a quiet run makes too. -/
def report (s : Surroundings) (message : String) : String :=
  (Printer.mk false s.terminal).messageLine .error s!"error: {message}"

/-- The end of a run of which the user sees these records. -/
def conclude (s : Surroundings) (outcome : RunOutcome) (passes : LogRecord → Bool) (before : String) :
    Ending :=
  let told := before ++ outcome.transcript.shown passes
  match outcome.result with
  | .ok _ => .done outcome.output told
  | .error e => .failed (told ++ report s e.message)

/-- Runs with options in surroundings that are set up, with the log unless the user
wants quiet. -/
def perform (s : Surroundings) (o : Options) : Ending :=
  match o.logLevel with
  | none => conclude s (o.run s) (fun _ => false) ""
  | some level =>
    let ambient := s.environment logVariable
    let remarks := LogFilter.remarks (ambient.getD "")
    match LogFilter.ofRun ambient level o.filters with
    | .error (e, text) => .failed (remarks ++ report s s!"{e.message}: {text}")
    | .ok filter => conclude s (o.run s) filter.passes remarks

/-- Runs the program with these arguments, the name of the program not among them. -/
def start (given : Surroundings) (arguments : List String) : Ending :=
  let s := { given with environment := environment given }
  match Options.ofArguments s.environment arguments with
  | .error halt => .halted halt
  | .ok o => perform s o

end Program
end AuthSigner
