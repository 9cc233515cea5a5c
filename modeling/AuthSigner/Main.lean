import AuthSigner.Command.Program

/-! The program as it is called: reads what the run may need, runs, and writes what
comes of it. -/
namespace AuthSigner

/-- A failure in the words of the system. -/
def systemError : IO.Error → SystemError
  | .noFileOrDirectory .. => .missing
  | .alreadyExists _ code text | .interrupted _ code text | .invalidArgument _ code text
  | .permissionDenied _ code text | .resourceExhausted _ code text | .inappropriateType _ code text
  | .noSuchThing _ code text | .otherError code text | .resourceBusy code text
  | .resourceVanished code text | .unsupportedOperation code text | .hardwareFault code text
  | .unsatisfiedConstraints code text | .illegalOperation code text | .protocolError code text
  | .timeExpired code text => .ofCode text code.toNat
  | .unexpectedEof => ⟨"unexpected end of file"⟩
  | .userError text => ⟨text⟩

/-- What comes of reading a file to its end. -/
def readContent (name : String) : IO (Except SystemError Bytes) := do
  match ← (IO.FS.readBinFile name).toBaseIO with
  | .ok content => return .ok content.toList
  | .error e => return .error (systemError e)

def fileKind : IO.FS.FileType → FileKind
  | .file => .regular
  | .dir => .directory
  | .symlink | .other => .special

/-- What a name stands for in the file system. -/
def readNode (name : String) : IO (Except SystemError FileNode) := do
  match ← (do (← IO.FS.realPath name).metadata).toBaseIO with
  | .ok found => return .ok ⟨fileKind found.type, ← readContent name⟩
  | .error e => return .error (systemError e)

/-- The place of the working directory. -/
def readWorking : IO (Option (List Bytes)) := do
  match ← IO.currentDir.toBaseIO with
  | .ok path =>
    return some ((FileTree.parts (Bytes.ofString path.toString)).filter fun part => !part.isEmpty)
  | .error _ => return none

/-- What these names stand for. -/
def readNodes (names : List Bytes) : IO (Bytes → Except SystemError FileNode) := do
  let nodes ← (names.filterMap Bytes.toString?).mapM fun name => do
    return (Bytes.ofString name, ← readNode name)
  return fun name => (nodes.lookup name).getD (.error .missing)

/-- The variables of the environment that the program may look at: its own, and those
that a file of settings may name. -/
def readEnvironment (settings : Except SystemError Bytes) : IO Environment := do
  let named := match settings with
    | .ok content => EnvironmentFile.mentioned content
    | .error _ => []
  let pairs ← (Program.variableNames ++ named).filterMapM fun name => do
    return (← IO.getEnv name).map fun value => (name, value)
  return .ofList pairs

/-- Reads the surroundings of a run. Standard input is read only if the run will, and of the
file system only the files of settings and what the input names. -/
def readSurroundings (arguments : List String) : IO Surroundings := do
  let working ← readWorking
  let settingsNames := ((working.map Program.upward).getD []).map Program.settingsName
  let bare : Surroundings := ⟨fun _ => none, .ok [], ← readNodes settingsNames, working⟩
  let s := { bare with environment := ← readEnvironment (Program.settings bare) }
  match Options.ofArguments (Program.environment s) arguments with
  | .error _ => return s
  | .ok options =>
    match options.input with
    | none => return { s with stdin := ← readContent "/dev/stdin" }
    | some input => return { s with find := ← readNodes (input :: settingsNames) }

end AuthSigner

def main (arguments : List String) : IO UInt32 := do
  let ending := AuthSigner.Program.start (← AuthSigner.readSurroundings arguments) arguments
  IO.eprint ending.stderr
  IO.print ending.stdout
  return UInt32.ofNat ending.code
