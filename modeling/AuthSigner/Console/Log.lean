/-! Log records, and the transcript of a run: what was printed and what was
logged, in one order, since both go to the same place. -/
namespace AuthSigner

/-- How much a record matters. -/
inductive LogLevel where
  | error | warn | info | debug | trace
deriving DecidableEq

namespace LogLevel

/-- The more a level lets through, the higher it ranks. -/
def rank : LogLevel → Nat
  | .error => 1
  | .warn => 2
  | .info => 3
  | .debug => 4
  | .trace => 5

def name : LogLevel → String
  | .error => "ERROR"
  | .warn => "WARN"
  | .info => "INFO"
  | .debug => "DEBUG"
  | .trace => "TRACE"

end LogLevel

/-- A record of something that happened in a part of the program. -/
structure LogRecord where
  level : LogLevel
  /-- The part of the program, from the outside in. -/
  target : String
  message : String
  fields : List (String × String)
deriving DecidableEq

/-- The line of a record: its level to the right of five columns, the target, the
message and the fields. -/
def LogRecord.line (r : LogRecord) : String :=
  String.ofList (List.replicate (5 - r.level.name.length) ' ') ++ r.level.name ++ " " ++ r.target ++
    ": " ++ r.message ++ String.join (r.fields.map fun (name, value) => " " ++ name ++ "=" ++ value) ++ "\n"

/-- One thing that a run tells the user. -/
inductive Report where
  | printed (text : String)
  | logged (record : LogRecord)
deriving DecidableEq

/-- What a run tells the user, in order. -/
abbrev Transcript := List Report

namespace Transcript

/-- What was printed. -/
def printed (t : Transcript) : String :=
  String.join (t.map fun | .printed text => text | .logged _ => "")

/-- What is shown where the records that pass are shown too. -/
def shown (t : Transcript) (passes : LogRecord → Bool) : String :=
  String.join (t.map fun
    | .printed text => text
    | .logged r => if passes r then r.line else "")

end Transcript
end AuthSigner
