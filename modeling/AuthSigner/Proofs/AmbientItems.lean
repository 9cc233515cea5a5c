import Mathlib.Data.List.Basic
import AuthSigner.Proofs.CommandLine
import AuthSigner.Proofs.PresentNames

/-! What the environment adds to a command line. The variable of a setting that is not on the command
line is one more item, taken in after those of the command line. Falling back on one setting leaves
the others as they are, so that all that is added is told by the command line alone, and the options of
a run by one list of items. -/
namespace AuthSigner

/-- What an environment gives to a setting: under the present name of its variable, else under the
latest of its former names. -/
def Setting.ambient (env : Environment) : Setting → Option String
  | .secretKey => (env "STELLAR_SECRET_KEY").or ((env "SOROBAN_SECRET_KEY").or (env "SECRET_KEY"))
  | .networkPassphrase =>
    (env "STELLAR_NETWORK_PASSPHRASE").or ((env "SOROBAN_NETWORK_PASSPHRASE").or (env "NETWORK_PASSPHRASE"))
  | .network => (env "STELLAR_NETWORK").or (env "SOROBAN_NETWORK")
  | .expiration =>
    (env "STELLAR_SIGNATURE_EXPIRATION_LEDGER").or
      ((env "SOROBAN_SIGNATURE_EXPIRATION_LEDGER").or (env "SIGNATURE_EXPIRATION_LEDGER"))
  | .logFilter => none

/-- What an environment holds under the present name of the variable of a setting. -/
def Setting.present (env : Environment) (setting : Setting) : Option String :=
  setting.variable?.bind fun v => env v.name

variable {env : Environment} {items : List Item} {setting : Setting} {settings : List Setting} {v : RenamedVariable}
  {d d' : Draft} {value : String} {o : Options}

/-! ## The environment -/

theorem findSome?_cons_eq_or {f : α → Option β} {a : α} {later : List α} :
    (a :: later).findSome? f = (f a).or (later.findSome? f) := by
  rw [List.findSome?_cons]
  cases f a with
  | none => rfl
  | some b => rfl

theorem ambient_eq (own : setting.variable? = some v) : setting.ambient env = v.value? env := by
  cases setting with
  | logFilter => cases own
  | secretKey | networkPassphrase | network | expiration =>
    cases own
    simp only [Setting.ambient, RenamedVariable.value?, RenamedVariable.names, RenamedVariable.secretKey,
      RenamedVariable.networkPassphrase, RenamedVariable.network, RenamedVariable.expiration, findSome?_cons_eq_or,
      List.findSome?_nil, Option.or_none]

theorem variable_listed (own : setting.variable? = some v) : v ∈ RenamedVariable.all := by
  cases setting with
  | logFilter => cases own
  | secretKey | networkPassphrase | network | expiration =>
    cases own
    decide +kernel

/-- Every variable is found under its present name. -/
theorem withPresentNames_name (own : setting.variable? = some v) :
    env.withPresentNames v.name = setting.ambient env :=
  (RenamedVariable.foldl_adopt_name RenamedVariable.all_apart (variable_listed own)).trans (ambient_eq own).symm

theorem present_eq_ambient : setting.present env.withPresentNames = setting.ambient env := by
  unfold Setting.present
  cases own : setting.variable? with
  | none =>
    cases setting with
    | logFilter => rfl
    | secretKey | networkPassphrase | network | expiration => cases own
  | some v => exact withPresentNames_name own

/-! ## What the environment adds to a draft -/

namespace Draft

/-- What an environment adds to a draft, as items. -/
def lacking (env : Environment) (d : Draft) (settings : List Setting) : List Item :=
  settings.flatMap fun setting =>
    if d.has setting then [] else ((setting.present env).map (Item.setting setting)).toList

theorem fallBack_eq : fallBack env d setting = d.takeAll (d.lacking env [setting]) := by
  rw [lacking, List.flatMap_singleton, fallBack, Setting.present]
  by_cases given : d.has setting = true
  · rw [if_pos given, if_pos given]
    rfl
  · rw [if_neg given, if_neg given]
    cases setting.variable?.bind fun v => env v.name with
    | none => rfl
    | some value =>
      have free : d.take (.setting setting value) = d.put setting value := if_neg given
      rw [Option.map_some, Option.toList_some, takeAll_single, free]

theorem has_elsewhere {other : Setting} (read : fallBack env d setting = .ok d') (different : other ≠ setting) :
    d'.has other = d.has other := by
  unfold fallBack at read
  by_cases given : d.has setting = true
  · rw [if_pos given] at read
    cases read
    rfl
  · rw [if_neg given] at read
    cases found : setting.variable?.bind fun v => env v.name with
    | none =>
      rw [found] at read
      cases read
      rfl
    | some value =>
      rw [found] at read
      exact (put_elsewhere read).2 other different

/-- Falling back on the environment is taking in what it adds. -/
theorem foldlM_fallBack (distinct : settings.Nodup) :
    settings.foldlM (fallBack env) d = d.takeAll (d.lacking env settings) := by
  induction settings generalizing d with
  | nil => rfl
  | cons setting settings ih =>
    obtain ⟨single, distinct⟩ := List.nodup_cons.mp distinct
    have split : d.lacking env (setting :: settings) = d.lacking env [setting] ++ d.lacking env settings := by
      rw [lacking, List.flatMap_cons, lacking, List.flatMap_singleton, lacking]
    rw [List.foldlM_cons, split, takeAll_append, ← fallBack_eq]
    cases read : fallBack env d setting with
    | error e => rfl
    | ok d' =>
      have unchanged : d'.lacking env settings = d.lacking env settings := by
        apply List.flatMap_congr
        intro other member
        rw [has_elsewhere read (ne_of_mem_of_not_mem member single)]
      exact unchanged ▸ ih distinct

end Draft

/-- What an environment adds to the items of a command line. -/
def Item.added (env : Environment) (items : List Item) : List Item :=
  Options.variableSettings.flatMap fun setting =>
    if Item.values setting items = [] then ((setting.ambient env).map (Item.setting setting)).toList else []

namespace Filled

variable {read : String → Option α} {after : Option α} {texts : List String} {extra : Option String}

theorem isSome_of_none (filled : Filled read none texts after) : after.isSome = true ↔ texts ≠ [] := by
  cases filled with
  | kept => exact ⟨nofun, fun filled => absurd rfl filled⟩
  | filled valid => exact ⟨fun _ => List.cons_ne_nil _ _, fun _ => rfl⟩

theorem read_iff {text : String} : (∃ value, read text = some value ∧ Filled read (some value) [] after) ↔
    some (read text) = after.map some := by
  constructor
  · rintro ⟨value, valid, ⟨⟩⟩
    exact congrArg some valid
  · intro same
    cases after with
    | none => cases same
    | some value => exact ⟨value, Option.some.inj same, .kept⟩

/-- A place that may be filled from elsewhere. -/
theorem source_iff : Filled read none (texts ++ if texts = [] then extra.toList else []) after ↔
    texts.length ≤ 1 ∧ (texts.head?.or extra).map read = after.map some := by
  cases texts with
  | nil =>
    rw [if_pos rfl, List.nil_append, List.head?_nil, Option.none_or]
    cases extra with
    | none =>
      rw [Option.toList_none, nil_iff]
      constructor
      · rintro rfl
        exact ⟨Nat.zero_le 1, rfl⟩
      · rintro ⟨-, same⟩
        cases after with
        | none => rfl
        | some value => cases same
    | some text =>
      rw [Option.toList_some, cons_iff, read_iff]
      exact ⟨fun filled => ⟨Nat.zero_le 1, filled.2⟩, fun filled => ⟨rfl, filled.2⟩⟩
  | cons text texts =>
    rw [if_neg (List.cons_ne_nil _ _), List.append_nil, List.head?_cons, Option.some_or, cons_iff]
    cases texts with
    | nil =>
      rw [read_iff]
      exact ⟨fun filled => ⟨Nat.le_refl 1, filled.2⟩, fun filled => ⟨rfl, filled.2⟩⟩
    | cons second texts =>
      constructor
      · rintro ⟨-, value, valid, ⟨⟩⟩
      · rintro ⟨long, -⟩
        rw [List.length_cons, List.length_cons] at long
        omega

end Filled

namespace Item

theorem values_append (later : List Item) :
    Item.values setting (items ++ later) = Item.values setting items ++ Item.values setting later :=
  List.filterMap_append

theorem values_single {other : Setting} {value : Option String} :
    Item.values setting (value.map (Item.setting other)).toList = if other = setting then value.toList else [] := by
  cases value with
  | none => exact (ite_self []).symm
  | some text =>
    by_cases same : other = setting
    · rw [if_pos same]
      exact List.filterMap_cons_some (if_pos same)
    · rw [if_neg same]
      exact List.filterMap_cons_none (if_neg same)

theorem values_added : Item.values setting (Item.added env items) =
    if Item.values setting items = [] then (setting.ambient env).toList else [] := by
  have each : ∀ other : Setting, Item.values setting
      (if Item.values other items = [] then ((other.ambient env).map (Item.setting other)).toList else []) =
      if other = setting then (if Item.values other items = [] then (other.ambient env).toList else []) else [] := by
    intro other
    by_cases given : Item.values other items = []
    · rw [if_pos given, if_pos given, values_single]
    · rw [if_neg given, if_neg given, ite_self]
      rfl
  have spread : Item.values setting (Item.added env items) = Options.variableSettings.flatMap fun other =>
      if other = setting then (if Item.values other items = [] then (other.ambient env).toList else []) else [] :=
    List.filterMap_flatMap.trans (List.flatMap_congr fun other _ => each other)
  rw [spread]
  cases setting with
  | logFilter => exact (ite_self []).symm
  | secretKey | networkPassphrase | network | expiration => simp [Options.variableSettings]

theorem added_setting {item : Item} (member : item ∈ Item.added env items) :
    ∃ setting value, item = .setting setting value := by
  obtain ⟨setting, -, member⟩ := List.mem_flatMap.mp member
  by_cases given : Item.values setting items = []
  · rw [if_pos given] at member
    obtain ⟨value, -, rfl⟩ := Option.map_eq_some_iff.mp (Option.mem_toList.mp member)
    exact ⟨setting, value, rfl⟩
  · rw [if_neg given] at member
    cases member

/-- All flags, inputs and filters are those of the command line. -/
theorem flags_all : Item.flags (items ++ Item.added env items) = Item.flags items := by
  have none_added : Item.flags (Item.added env items) = [] := by
    apply List.filterMap_eq_nil_iff.mpr
    intro item member
    obtain ⟨setting, value, rfl⟩ := added_setting member
    rfl
  calc Item.flags (items ++ Item.added env items)
    _ = Item.flags items ++ Item.flags (Item.added env items) := List.filterMap_append
    _ = Item.flags items := by rw [none_added, List.append_nil]

theorem inputs_all : Item.inputs (items ++ Item.added env items) = Item.inputs items := by
  have none_added : Item.inputs (Item.added env items) = [] := by
    apply List.filterMap_eq_nil_iff.mpr
    intro item member
    obtain ⟨setting, value, rfl⟩ := added_setting member
    rfl
  calc Item.inputs (items ++ Item.added env items)
    _ = Item.inputs items ++ Item.inputs (Item.added env items) := List.filterMap_append
    _ = Item.inputs items := by rw [none_added, List.append_nil]

theorem filters_all : Item.values .logFilter (items ++ Item.added env items) = Item.values .logFilter items := by
  have none_added : Item.values .logFilter (Item.added env items) = [] := values_added.trans (ite_self [])
  rw [values_append, none_added, List.append_nil]

end Item

theorem Draft.has_iff (gathered : Draft.blank.Gathers items d) (ambient : setting ≠ .logFilter) :
    d.has setting = true ↔ Item.values setting items ≠ [] := by
  cases setting with
  | secretKey => exact gathered.secret.isSome_of_none
  | networkPassphrase => exact gathered.passphrase.isSome_of_none
  | network => exact gathered.network.isSome_of_none
  | expiration => exact gathered.expiration.isSome_of_none
  | logFilter => exact absurd rfl ambient

/-- What the present names of the variables add to a draft is what the environment adds to its items. -/
theorem Draft.lacking_eq (gathered : Draft.blank.Gathers items d) :
    d.lacking env.withPresentNames Options.variableSettings = Item.added env items := by
  apply List.flatMap_congr
  intro setting member
  have ambient : setting ≠ .logFilter := by
    rintro rfl
    revert member
    decide
  rw [present_eq_ambient]
  by_cases given : Item.values setting items = []
  · have free : ¬ d.has setting = true := fun has => (has_iff gathered ambient).mp has given
    rw [if_neg free, if_pos given]
  · rw [if_pos ((has_iff gathered ambient).mpr given), if_neg given]

theorem Options.ofArguments_eq_ok_iff {arguments : List String} :
    Options.ofArguments env.withPresentNames arguments = .ok o ↔
      ∃ items, Spells arguments items ∧
        ∃ full, Draft.blank.takeAll (items ++ Item.added env items) = .ok full ∧ Options.ofDraft full = .ok o := by
  unfold ofArguments
  rw [except_bind_eq_ok]
  constructor
  · rintro ⟨given, read, later⟩
    obtain ⟨items, spelt, taken⟩ := Draft.ofArguments_eq_ok_iff.mp read
    obtain ⟨full, filled, complete⟩ := except_bind_eq_ok.mp later
    have gathered := Draft.takeAll_eq_ok_iff.mp taken
    rw [mapError_eq_ok, Draft.foldlM_fallBack (by decide), Draft.lacking_eq gathered] at filled
    refine ⟨items, spelt, full, ?_, mapError_eq_ok.mp complete⟩
    rw [Draft.takeAll_append]
    exact except_bind_eq_ok.mpr ⟨given, taken, filled⟩
  · rintro ⟨items, spelt, full, taken, complete⟩
    rw [Draft.takeAll_append] at taken
    obtain ⟨given, taken, filled⟩ := except_bind_eq_ok.mp taken
    refine ⟨given, Draft.ofArguments_eq_ok_iff.mpr ⟨items, spelt, taken⟩, ?_⟩
    refine except_bind_eq_ok.mpr ⟨full, ?_, mapError_eq_ok.mpr complete⟩
    have gathered := Draft.takeAll_eq_ok_iff.mp taken
    rw [mapError_eq_ok, Draft.foldlM_fallBack (by decide), Draft.lacking_eq gathered]
    exact filled

end AuthSigner
