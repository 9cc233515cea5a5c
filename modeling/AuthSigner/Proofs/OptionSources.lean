import AuthSigner.Proofs.AmbientItems
import AuthSigner.Proofs.NetworkChoice

/-! Where each option of a run comes from. Each place of the draft of all items holds what the sources of
its setting give, so that a draft is complete exactly if its options are given. The main theorem states
all sources of all options, and the network that comes of them. -/
namespace AuthSigner

/-- The value of a setting, from the command line if it is given there and else from the environment. -/
def Setting.source (env : Environment) (items : List Item) (setting : Setting) : Option String :=
  (Item.values setting items).head?.or (setting.ambient env)

/-- The options of a run in an environment, with these items on the command line. -/
structure Options.Given (o : Options) (env : Environment) (items : List Item) : Prop where
  flags : (Item.flags items).Nodup
  quiet : o.quiet = true ↔ .quiet ∈ Item.flags items
  verbose : o.verbose = true ↔ .verbose ∈ Item.flags items
  veryVerbose : o.veryVerbose = true ↔ .veryVerbose ∈ Item.flags items
  verify : o.verify = true ↔ .verify ∈ Item.flags items
  filters : o.filters = Item.values .logFilter items
  input : (Item.inputs items).map Bytes.ofString = o.input.toList
  settings : ∀ setting, setting ≠ .logFilter → (Item.values setting items).length ≤ 1
  secret : ∃ text, Setting.secretKey.source env items = some text ∧ Secret.parse text = .ok o.secret
  passphrase : Setting.networkPassphrase.source env items = o.network.passphrase
  name : Setting.network.source env items = o.network.name
  expiration : ∃ text, Setting.expiration.source env items = some text ∧ ledger? text = some o.expiration

variable {env : Environment} {items : List Item} {setting : Setting} {d : Draft} {value : String} {o : Options}

/-! ## The options of all items -/

theorem Draft.secret?_eq_some_iff {secret : Secret} :
    Draft.secret? value = some secret ↔ Secret.parse value = .ok secret := by
  unfold Draft.secret?
  cases Secret.parse value with
  | error e => exact ⟨nofun, nofun⟩
  | ok other =>
    constructor
    · rintro ⟨⟩
      rfl
    · rintro ⟨⟩
      rfl

/-- A place of the draft of all items holds what the sources of its setting give. -/
theorem Filled.given_iff {read : String → Option α} {after : Option α} :
    Filled read none (Item.values setting (items ++ Item.added env items)) after ↔
      (Item.values setting items).length ≤ 1 ∧ (setting.source env items).map read = after.map some := by
  rw [Item.values_append, Item.values_added]
  exact source_iff

theorem contains_iff {raised : Bool} {flag : Flag} {flags : List Flag} :
    raised = flags.contains flag ↔ (raised = true ↔ flag ∈ flags) :=
  Bool.eq_iff_iff.trans (iff_congr Iff.rfl List.contains_iff_mem)

theorem Options.ofDraft_eq_ok_iff : Options.ofDraft d = .ok o ↔
    d.secret = some o.secret ∧ d.expiration = some o.expiration ∧ d.passphrase = o.network.passphrase ∧
      d.network = o.network.name ∧ d.filters = o.filters ∧ d.input.map Bytes.ofString = o.input ∧
      o.quiet = d.flags.contains .quiet ∧ o.verbose = d.flags.contains .verbose ∧
      o.veryVerbose = d.flags.contains .veryVerbose ∧ o.verify = d.flags.contains .verify := by
  obtain ⟨flags, secret, passphrase, network, expiration, filters, input⟩ := d
  cases secret with
  | none => exact ⟨nofun, nofun⟩
  | some secret =>
    cases expiration with
    | none =>
      constructor
      · rintro ⟨⟩
      · rintro ⟨-, ⟨⟩, -⟩
    | some expiration =>
      constructor
      · rintro ⟨⟩
        exact ⟨rfl, rfl, rfl, rfl, rfl, rfl, rfl, rfl, rfl, rfl⟩
      · obtain ⟨quiet, verbose, veryVerbose, verify, filters', secret', ⟨passphrase', name⟩, expiration', input'⟩ := o
        dsimp only
        rintro ⟨⟨⟩, ⟨⟩, ⟨⟩, ⟨⟩, ⟨⟩, ⟨⟩, rfl, rfl, rfl, rfl⟩
        rfl

theorem Filled.input_iff {texts : List String} {after : Option String} :
    Filled some none texts after ↔ texts = after.toList := by
  constructor
  · rintro (_ | ⟨⟨⟩⟩)
    · rfl
    · rfl
  · rintro rfl
    cases after with
    | none => exact .kept
    | some text => exact .filled rfl

/-- In a draft of all items that is complete each option has its source. -/
theorem Options.given_of_draft (taken : Draft.blank.takeAll (items ++ Item.added env items) = .ok d)
    (complete : Options.ofDraft d = .ok o) : o.Given env items := by
  have gathered := Draft.takeAll_eq_ok_iff.mp taken
  obtain ⟨secret, expiration, passphrase, name, filters, input, quiet, verbose, veryVerbose, verify⟩ :=
    Options.ofDraft_eq_ok_iff.mp complete
  obtain ⟨secretOnce, secretSource⟩ := Filled.given_iff.mp gathered.secret
  obtain ⟨passphraseOnce, passphraseSource⟩ := Filled.given_iff.mp gathered.passphrase
  obtain ⟨nameOnce, nameSource⟩ := Filled.given_iff.mp gathered.network
  obtain ⟨expirationOnce, expirationSource⟩ := Filled.given_iff.mp gathered.expiration
  have raised : d.flags = Item.flags items := gathered.flags.trans Item.flags_all
  have texts : Item.inputs items = d.input.toList := Item.inputs_all.symm.trans (Filled.input_iff.mp gathered.input)
  have inputs : (Item.inputs items).map Bytes.ofString = o.input.toList := by
    rw [texts, ← input, Option.toList_map]
  have once : ∀ setting, setting ≠ .logFilter → (Item.values setting items).length ≤ 1 := by
    intro setting ambient
    cases setting with
    | secretKey => exact secretOnce
    | networkPassphrase => exact passphraseOnce
    | network => exact nameOnce
    | expiration => exact expirationOnce
    | logFilter => exact absurd rfl ambient
  have same_source {source place : Option String} (same : source.map some = place.map some) : source = place :=
    Option.map_injective (fun _ _ => Option.some.inj) same
  rw [raised] at quiet verbose veryVerbose verify
  rw [secret] at secretSource
  rw [expiration] at expirationSource
  obtain ⟨text, source, valid⟩ := Option.map_eq_some_iff.mp secretSource
  exact {
    flags := Item.flags_all ▸ gathered.once
    quiet := contains_iff.mp quiet
    verbose := contains_iff.mp verbose
    veryVerbose := contains_iff.mp veryVerbose
    verify := contains_iff.mp verify
    filters := filters.symm.trans (gathered.filters.trans Item.filters_all)
    input := inputs
    settings := once
    secret := ⟨text, source, Draft.secret?_eq_some_iff.mp valid⟩
    passphrase := (same_source passphraseSource).trans passphrase
    name := (same_source nameSource).trans name
    expiration := Option.map_eq_some_iff.mp expirationSource }

/-- The draft that options come from, with its flags as they were raised and its input as it was given. -/
def Options.toDraft (o : Options) (flags : List Flag) (input : Option String) : Draft where
  flags := flags
  secret := some o.secret
  passphrase := o.network.passphrase
  network := o.network.name
  expiration := some o.expiration
  filters := o.filters
  input := input

/-- What is given at most once as a text is the bytes of that text. -/
theorem exists_input {texts : List String} {input : Option Bytes} (same : texts.map Bytes.ofString = input.toList) :
    ∃ text : Option String, texts = text.toList ∧ text.map Bytes.ofString = input := by
  cases input with
  | none => exact ⟨none, List.map_eq_nil_iff.mp same, rfl⟩
  | some bytes =>
    obtain ⟨text, rfl, spelled⟩ := List.map_eq_singleton_iff.mp same
    exact ⟨some text, rfl, congrArg some spelled⟩

/-- Options that are given are those of a draft of all items. -/
theorem Options.draft_of_given (given : o.Given env items) :
    ∃ full, Draft.blank.takeAll (items ++ Item.added env items) = .ok full ∧ Options.ofDraft full = .ok o := by
  obtain ⟨text, source, valid⟩ := given.secret
  obtain ⟨number, expirationSource, ledger⟩ := given.expiration
  obtain ⟨input, texts, spelled⟩ := exists_input given.input
  have secret : (Setting.secretKey.source env items).map Draft.secret? = some (some o.secret) := by
    rw [source]
    exact congrArg some (Draft.secret?_eq_some_iff.mpr valid)
  have expiration : (Setting.expiration.source env items).map ledger? = some (some o.expiration) := by
    rw [expirationSource]
    exact congrArg some ledger
  have gathered : Draft.blank.Gathers (items ++ Item.added env items) (o.toDraft (Item.flags items) input) := {
    secret := Filled.given_iff.mpr ⟨given.settings _ nofun, secret⟩
    passphrase := Filled.given_iff.mpr ⟨given.settings _ nofun, congrArg _ given.passphrase⟩
    network := Filled.given_iff.mpr ⟨given.settings _ nofun, congrArg _ given.name⟩
    expiration := Filled.given_iff.mpr ⟨given.settings _ nofun, expiration⟩
    input := Filled.input_iff.mpr (Item.inputs_all.trans texts)
    filters := given.filters.trans Item.filters_all.symm
    flags := Item.flags_all.symm
    fresh := nofun
    once := by rw [Item.flags_all]; exact given.flags }
  refine ⟨_, Draft.takeAll_eq_ok_iff.mpr gathered, Options.ofDraft_eq_ok_iff.mpr ?_⟩
  exact ⟨rfl, rfl, rfl, rfl, rfl, spelled, contains_iff.mpr given.quiet, contains_iff.mpr given.verbose,
    contains_iff.mpr given.veryVerbose, contains_iff.mpr given.verify⟩

/-! ## All sources -/

/-- Under its present name a variable has the value of the latest of its names that is set, if only to
the empty text. No other variable changes, none looks at the names of another, and neither the order
nor the number of times matters in which they are renamed. The options are those of the items on the
command line, and of the environment for what is not there; and the network is that of the passphrase
and the name that come of this. -/
theorem options_take_their_sources (env : Environment) (arguments : List String) :
    (∀ setting v, Setting.variable? setting = some v → env.withPresentNames v.name = setting.ambient env) ∧
      (∀ name, (∀ v ∈ RenamedVariable.all, name ≠ v.name) → env.withPresentNames name = env name) ∧
      (∀ v ∈ RenamedVariable.all, ∀ env' : Environment, (∀ name ∈ v.names, env' name = env name) →
        env'.withPresentNames v.name = env.withPresentNames v.name) ∧
      (∀ order : List RenamedVariable, order.Perm RenamedVariable.all →
        order.foldl RenamedVariable.adopt env = env.withPresentNames) ∧
      env.withPresentNames.withPresentNames = env.withPresentNames ∧
      (∀ items, Spells arguments items → ∀ o,
        Options.ofArguments env.withPresentNames arguments = .ok o ↔ o.Given env items) ∧
      ((∀ items, ¬ Spells arguments items) → ∀ o, Options.ofArguments env.withPresentNames arguments ≠ .ok o) ∧
      ∀ items (o : Options), o.Given env items → ∀ result, o.network.resolve = result ↔
        Network.Meant (Setting.networkPassphrase.source env items) (Setting.network.source env items) result := by
  have apart := RenamedVariable.all_apart
  refine ⟨?_, ?_, ?_, ?_, RenamedVariable.foldl_adopt_twice apart, ?_, ?_, ?_⟩
  · intro setting v own
    exact withPresentNames_name own
  · intro name other
    exact RenamedVariable.foldl_adopt_other other
  · intro v member env' same
    have value : v.value? env' = v.value? env := RenamedVariable.value_congr same
    calc env'.withPresentNames v.name
      _ = v.value? env' := RenamedVariable.foldl_adopt_name apart member
      _ = v.value? env := value
      _ = env.withPresentNames v.name := (RenamedVariable.foldl_adopt_name apart member).symm
  · intro order reordered
    exact RenamedVariable.foldl_adopt_perm apart reordered
  · intro items spelt o
    constructor
    · intro read
      obtain ⟨items', spelt', full, taken, complete⟩ := Options.ofArguments_eq_ok_iff.mp read
      exact spelt'.unique spelt ▸ Options.given_of_draft taken complete
    · intro given
      exact Options.ofArguments_eq_ok_iff.mpr ⟨items, spelt, Options.draft_of_given given⟩
  · intro unspelt o read
    obtain ⟨items, spelt, -⟩ := Options.ofArguments_eq_ok_iff.mp read
    exact unspelt items spelt
  · intro items o given result
    rw [given.passphrase, given.name]
    exact Network.resolve_iff

namespace Sample

/-- The passphrase is set under a former name, to the empty text; two variables have values under two
names. -/
def setVariables : Environment := .ofList
  [("SECRET_KEY", "0000000000000000000000000000000000000000000000000000000000000000"),
    ("SOROBAN_NETWORK_PASSPHRASE", ""), ("NETWORK_PASSPHRASE", "unused"),
    ("STELLAR_SIGNATURE_EXPIRATION_LEDGER", "7"), ("SOROBAN_SIGNATURE_EXPIRATION_LEDGER", "9")]

def commandLine : List String := ["--network=mainnet", "-qf", "debug", "-"]

def commandItems : List Item := [.setting .network "mainnet", .flag .quiet, .setting .logFilter "debug", .input "-"]

def chosen : Options where
  quiet := true
  verbose := false
  veryVerbose := false
  verify := false
  filters := ["debug"]
  secret := ⟨.zero 32⟩
  network := ⟨some "", some "mainnet"⟩
  expiration := 7
  input := some (Bytes.ofString "-")

theorem commandLine_spelt : Spells commandLine commandItems := by
  have network : OptionArgument "--network=mainnet".toList [.setting .network "mainnet"] none := by
    have shape : "--network=mainnet".toList = '-' :: '-' :: ("network".toList ++ '=' :: "mainnet".toList) := by
      decide +kernel
    have named : LongOption ("network".toList ++ '=' :: "mainnet".toList) [.setting .network "mainnet"] none :=
      .joined rfl
    exact shape ▸ .long named
  have letters : OptionArgument "-qf".toList [.flag .quiet] (some .logFilter) := by
    have shape : "-qf".toList = ['-', 'q', 'f'] := by decide +kernel
    exact shape ▸ .letters (.flag rfl (.awaiting rfl))
  have level : Plain "debug" := by
    intro c chars
    have shape : "debug".toList = ['d', 'e', 'b', 'u', 'g'] := by decide +kernel
    rw [shape]
    exact nofun
  have dash : Plain "-" := by
    intro c chars
    have shape : "-".toList = ['-'] := by decide +kernel
    rw [shape]
    exact nofun
  exact .option network (.parted letters level (.word dash .nothing))

theorem chosen_given : chosen.Given setVariables commandItems where
  flags := by decide
  quiet := iff_of_true rfl List.mem_cons_self
  verbose := by decide
  veryVerbose := by decide
  verify := by decide
  filters := rfl
  input := rfl
  settings := by
    intro setting _
    cases setting with
    | network | logFilter => exact Nat.le_refl 1
    | secretKey | networkPassphrase | expiration => exact Nat.zero_le 1
  secret := ⟨_, rfl, by decide +kernel⟩
  passphrase := rfl
  name := rfl
  expiration := ⟨_, rfl, by decide +kernel⟩

end Sample

/-- The empty passphrase of a former name goes before the name on the command line. -/
theorem options_take_their_sources_mixed :
    Spells Sample.commandLine Sample.commandItems ∧ Sample.chosen.Given Sample.setVariables Sample.commandItems ∧
      Options.ofArguments Sample.setVariables.withPresentNames Sample.commandLine = .ok Sample.chosen ∧
      Sample.chosen.network.resolve = .ok ⟨""⟩ ∧
      Sample.setVariables.withPresentNames RenamedVariable.expiration.name = some "7" ∧
      Sample.setVariables.withPresentNames "NETWORK_PASSPHRASE" = some "unused" ∧
      RenamedVariable.all.reverse.foldl RenamedVariable.adopt Sample.setVariables =
        Sample.setVariables.withPresentNames := by
  have spelt := Sample.commandLine_spelt
  have given := Sample.chosen_given
  obtain ⟨present, unchanged, -, reordered, -, read, -, network⟩ :=
    options_take_their_sources Sample.setVariables Sample.commandLine
  have meant : Network.Meant (Setting.networkPassphrase.source Sample.setVariables Sample.commandItems)
      (Setting.network.source Sample.setVariables Sample.commandItems) (.ok ⟨""⟩) := .passphrase
  refine ⟨spelt, given, (read _ spelt _).mpr given, (network _ _ given _).mpr meant, ?_, ?_, ?_⟩
  · exact present .expiration .expiration rfl
  · exact unchanged "NETWORK_PASSPHRASE" (by decide +kernel)
  · exact reordered _ (List.reverse_perm _)

end AuthSigner
