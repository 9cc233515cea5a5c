import AuthSigner.Command.Environment
import AuthSigner.Console.Log
import AuthSigner.Network
import AuthSigner.Secret
import AuthSigner.Text.Digits
import AuthSigner.Text.WhiteSpace

/-! The options of a run, read from the arguments of the command line and, for those
that are not given there, from the environment. Arguments are read from left to
right, and the first fault ends the reading. The value of an option may follow
as an argument of its own; it is looked at only when the next option or the
input is met, or the end, so that a fault in the argument after it is reported
first. The arguments are taken to be texts, as the values of all options must be; the
input is handed on as bytes, and a run takes any. -/
namespace AuthSigner

/-- Options without a value. -/
inductive Flag where
  | verify | quiet | verbose | veryVerbose
deriving DecidableEq

/-- Options with a value. -/
inductive Setting where
  | secretKey | networkPassphrase | network | expiration | logFilter
deriving DecidableEq

/-- What the name of an option asks for. -/
inductive OptionName where
  | flag (flag : Flag)
  | setting (setting : Setting)
  | help
  | version
deriving DecidableEq

namespace OptionName

/-- The options by their long names. -/
def ofLong? : String → Option OptionName
  | "verify" => some (.flag .verify)
  | "quiet" => some (.flag .quiet)
  | "verbose" => some (.flag .verbose)
  | "very-verbose" | "vv" => some (.flag .veryVerbose)
  | "secret-key" => some (.setting .secretKey)
  | "network-passphrase" => some (.setting .networkPassphrase)
  | "network" => some (.setting .network)
  | "signature-expiration-ledger" => some (.setting .expiration)
  | "filter-logs" => some (.setting .logFilter)
  | "help" => some .help
  | "version" => some .version
  | _ => none

/-- The options by their letters. -/
def ofLetter? : Char → Option OptionName
  | 'q' => some (.flag .quiet)
  | 'v' => some (.flag .verbose)
  | 'f' => some (.setting .logFilter)
  | 'h' => some .help
  | 'V' => some .version
  | _ => none

end OptionName

/-- The variable that stands in for an option that is not given. -/
def Setting.variable? : Setting → Option RenamedVariable
  | .secretKey => some .secretKey
  | .networkPassphrase => some .networkPassphrase
  | .network => some .network
  | .expiration => some .expiration
  | .logFilter => none

/-- What is wrong with a command line. -/
inductive UsageError where
  /-- There is no such option, or the input is given already. -/
  | unknownArgument (argument : String)
  | valueMissing (setting : Setting)
  /-- An option without a value was given one. -/
  | valueUnneeded (argument : String)
  | flagRepeated (flag : Flag)
  | settingRepeated (setting : Setting)
  | valueInvalid (setting : Setting)
  | settingMissing (setting : Setting)
deriving DecidableEq

/-- Why there are no options: a fault, or the user asks for something else. The long
names of help and version ask for more than their letters. -/
inductive Halt where
  | help (full : Bool)
  | version (full : Bool)
  | usage (error : UsageError)
deriving DecidableEq

/-- The ledger that a text names: an ASCII number, perhaps with a sign, that fits. -/
def ledger? (text : String) : Option UInt32 :=
  let (negative, digits) := match text.toList with
    | '-' :: rest => (true, rest)
    | '+' :: rest => (false, rest)
    | digits => (false, digits)
  match Text.natural? digits with
  | none => none
  | some n => if n < UInt32.size ∧ (negative → n = 0) then some (UInt32.ofNat n) else none

/-- What is given so far. -/
structure Draft where
  flags : List Flag
  secret : Option Secret
  passphrase : Option String
  network : Option String
  expiration : Option UInt32
  filters : List String
  input : Option String
deriving DecidableEq

namespace Draft

/-- Nothing is given. -/
def blank : Draft := ⟨[], none, none, none, none, [], none⟩

/-- The setting is given, and may not be given again. -/
def has (d : Draft) : Setting → Bool
  | .secretKey => d.secret.isSome
  | .networkPassphrase => d.passphrase.isSome
  | .network => d.network.isSome
  | .expiration => d.expiration.isSome
  | .logFilter => false

/-- Takes in the value of a setting. -/
def put (d : Draft) (setting : Setting) (value : String) : Except UsageError Draft :=
  match setting with
  | .secretKey =>
    match Secret.parse value with
    | .ok secret => .ok { d with secret := some secret }
    | .error _ => .error (.valueInvalid .secretKey)
  | .networkPassphrase => .ok { d with passphrase := some value }
  | .network => .ok { d with network := some value }
  | .expiration =>
    match ledger? value with
    | some ledger => .ok { d with expiration := some ledger }
    | none => .error (.valueInvalid .expiration)
  | .logFilter => .ok { d with filters := d.filters ++ [value] }

/-- Takes in the value of a setting on the command line. -/
def give (d : Draft) (setting : Setting) (value : String) : Except UsageError Draft :=
  if d.has setting then .error (.settingRepeated setting) else d.put setting value

/-- Takes in a flag. -/
def raise (d : Draft) (flag : Flag) : Except UsageError Draft :=
  if d.flags.contains flag then .error (.flagRepeated flag)
  else .ok { d with flags := d.flags ++ [flag] }

/-- Takes in the variable of a setting that is not given. -/
def fallBack (env : Environment) (d : Draft) (setting : Setting) : Except UsageError Draft :=
  if d.has setting then .ok d
  else match setting.variable?.bind fun v => env v.name with
    | some value => d.put setting value
    | none => .ok d

end Draft

/-- The state between two arguments. -/
structure Reading where
  draft : Draft
  /-- The setting whose value is not looked at yet, or is still to come. -/
  pending : Option (Setting × Option String)
  /-- Two dashes have been met, after which every argument is the input. -/
  literal : Bool
deriving DecidableEq

namespace Reading

/-- Looks at the value of the setting before. -/
def settle (r : Reading) : Except Halt Draft :=
  match r.pending with
  | none => .ok r.draft
  | some (setting, none) => .error (.usage (.valueMissing setting))
  | some (setting, some value) => (r.draft.give setting value).mapError .usage

/-- The state with this given and nothing pending. -/
def resume (r : Reading) (draft : Except UsageError Draft) : Except Halt Reading :=
  match draft with
  | .ok draft => .ok { r with draft := draft, pending := none }
  | .error e => .error (.usage e)

/-- Reads the input. -/
def word (r : Reading) (argument : String) : Except Halt Reading :=
  if r.draft.input.isSome then .error (.usage (.unknownArgument argument))
  else do
    let draft ← r.settle
    r.resume (.ok { draft with input := some argument })

/-- Reads an option by its long name, with the value after an equals sign. -/
def long (r : Reading) (argument : String) (chars : List Char) : Except Halt Reading :=
  let name := String.ofList (chars.takeWhile (· ≠ '='))
  match OptionName.ofLong? name, chars.dropWhile (· ≠ '=') with
  | none, _ => .error (.usage (.unknownArgument argument))
  | some (.setting setting), _ :: value => do
    r.resume ((← r.settle).give setting (String.ofList value))
  | some (.setting setting), [] => do
    return { r with draft := ← r.settle, pending := some (setting, none) }
  | some _, _ :: _ => .error (.usage (.valueUnneeded argument))
  | some (.flag flag), [] => do r.resume ((← r.settle).raise flag)
  | some .help, [] => do
    let _ ← r.settle
    .error (.help true)
  | some .version, [] => do
    let _ ← r.settle
    .error (.version true)

/-- Reads options by their letters. What follows the letter of a setting is its
value, perhaps after an equals sign. -/
def letters (argument : String) : Reading → List Char → Except Halt Reading
  | r, [] => .ok r
  | r, c :: rest =>
    match OptionName.ofLetter? c with
    | none => .error (.usage (.unknownArgument argument))
    | some (.flag flag) => do letters argument (← r.resume ((← r.settle).raise flag)) rest
    | some .help => do
      let _ ← r.settle
      .error (.help false)
    | some .version => do
      let _ ← r.settle
      .error (.version false)
    | some (.setting setting) => do
      let draft ← r.settle
      match rest with
      | [] => .ok { r with draft := draft, pending := some (setting, none) }
      | '=' :: value => r.resume (draft.give setting (String.ofList value))
      | value => r.resume (draft.give setting (String.ofList value))

/-- Reads one argument. A single dash is a value like any other. -/
def step (r : Reading) (argument : String) : Except Halt Reading :=
  if r.literal then r.word argument
  else match argument.toList with
    | ['-', '-'] => .ok { r with literal := true }
    | '-' :: '-' :: chars => r.long argument chars
    | '-' :: c :: chars => letters argument r (c :: chars)
    | _ =>
      match r.pending with
      | some (setting, none) => .ok { r with pending := some (setting, some argument) }
      | _ => r.word argument

end Reading

/-- What a command line gives. -/
def Draft.ofArguments (arguments : List String) : Except Halt Draft := do
  (← arguments.foldlM Reading.step ⟨.blank, none, false⟩).settle

/-- The options of a run. -/
structure Options where
  quiet : Bool
  verbose : Bool
  veryVerbose : Bool
  verify : Bool
  filters : List String
  secret : Secret
  network : Network.Choice
  expiration : UInt32
  /-- The argument that is the input or names it. -/
  input : Option Bytes
deriving DecidableEq

namespace Options

/-- The options of a draft, if it has those that must be given. -/
def ofDraft (d : Draft) : Except UsageError Options :=
  match d.secret, d.expiration with
  | none, _ => .error (.settingMissing .secretKey)
  | _, none => .error (.settingMissing .expiration)
  | some secret, some expiration => .ok {
      quiet := d.flags.contains .quiet
      verbose := d.flags.contains .verbose
      veryVerbose := d.flags.contains .veryVerbose
      verify := d.flags.contains .verify
      filters := d.filters
      secret := secret
      network := ⟨d.passphrase, d.network⟩
      expiration := expiration
      input := d.input.map Bytes.ofString }

/-- The settings that fall back on the environment. -/
def variableSettings : List Setting := [.secretKey, .networkPassphrase, .network, .expiration]

/-- The options that the arguments of a command line and the environment give. -/
def ofArguments (env : Environment) (arguments : List String) : Except Halt Options := do
  let given ← Draft.ofArguments arguments
  let full ← (variableSettings.foldlM (Draft.fallBack env) given).mapError .usage
  (ofDraft full).mapError .usage

/-- The options of a command, whose first word is the name of the program. -/
def ofCommand (env : Environment) (command : List String) : Except Halt Options :=
  ofArguments env command.tail

/-- The options of a command in one line, whose words white space separates. -/
def ofLine (env : Environment) (line : String) : Except Halt Options :=
  ofCommand env (Text.words line)

/-- The level down to which the user wants to see the log, if at all. -/
def logLevel (o : Options) : Option LogLevel :=
  if o.quiet then none
  else if o.veryVerbose then some .trace
  else if o.verbose then some .debug
  else some .info

end Options
end AuthSigner
