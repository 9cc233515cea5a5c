import AuthSigner.Command.Environment
import AuthSigner.Command.Files
import AuthSigner.Ledger.Transaction
import AuthSigner.Xdr.Text

/-! Where an envelope comes from: standard input, a file, or the argument itself. What
the argument names goes before the text that the argument is. -/
namespace AuthSigner

/-- All that a run reads. -/
structure Surroundings where
  environment : Environment
  /-- What comes of reading standard input to its end. -/
  stdin : Except SystemError Bytes
  /-- What names stand for, or why they cannot be looked up, if only since there is
  nothing of the name. -/
  find : Bytes → Except SystemError FileNode
  /-- The place of the working directory, by the names on the way to it from the root, if
  the system tells it. -/
  working : Option (List Bytes)

/-- The variable that names the terminal. -/
def Surroundings.terminalVariable : String := "TERM_PROGRAM"

/-- The name of the terminal, if it is known. -/
def Surroundings.terminal (s : Surroundings) : Option String := s.environment terminalVariable

/-- Why there is no envelope. -/
inductive InputError where
  | unread (cause : SystemError)
  | malformed (cause : Xdr.DecodeError)
deriving DecidableEq

def InputError.message : InputError → String
  | .unread cause => s!"failed to read transaction envelope: {cause.message}"
  | .malformed cause => s!"failed to decode transaction envelope: {cause.message}"

/-- The envelope that a text spells. -/
def Envelope.ofText (text : Bytes) : Except InputError Envelope :=
  (Envelope.codec.ofText text).mapError .malformed

/-- The text of the envelope that is meant: standard input where there is no
argument, else what the argument names, else the argument, also if it is such that it
cannot be looked up. -/
def Surroundings.input (s : Surroundings) : Option Bytes → Except InputError Bytes
  | none => s.stdin.mapError .unread
  | some argument =>
    match s.find argument with
    | .ok node => node.content.mapError .unread
    | .error _ => .ok argument

/-- The envelope that is meant. -/
def Surroundings.envelope (s : Surroundings) (argument : Option Bytes) : Except InputError Envelope := do
  Envelope.ofText (← s.input argument)

end AuthSigner
