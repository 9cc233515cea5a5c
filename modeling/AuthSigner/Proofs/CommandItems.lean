import AuthSigner.Command.Options

/-! Items of a command line, and what a draft holds that takes them in. Taking in an item says all
that can go wrong: a flag that is raised already, a setting or an input that is given already, a
value that is not valid. From that `takeAll_eq_ok_iff` tells the draft of any list of items, place
by place. -/
namespace AuthSigner

theorem except_bind_eq_ok {x : Except ε α} {f : α → Except ε β} {b : β} :
    (x >>= f) = .ok b ↔ ∃ a, x = .ok a ∧ f a = .ok b := by
  constructor
  · cases x with
    | error e =>
      intro failed
      cases failed
    | ok a => exact fun passed => ⟨a, rfl, passed⟩
  · rintro ⟨a, rfl, passed⟩
    exact passed

theorem mapError_eq_ok {x : Except ε α} {f : ε → ε'} {a : α} : x.mapError f = .ok a ↔ x = .ok a := by
  cases x with
  | error e => exact ⟨nofun, nofun⟩
  | ok b =>
    constructor
    · rintro ⟨⟩
      rfl
    · rintro ⟨⟩
      rfl

/-- What an argument says, or a part of it, or two of them. -/
inductive Item where
  | flag (flag : Flag)
  | setting (setting : Setting) (value : String)
  | input (text : String)
deriving DecidableEq

namespace Item

def flag? : Item → Option Flag
  | .flag raised => some raised
  | .setting _ _ | .input _ => none

def value? (wanted : Setting) : Item → Option String
  | .setting other value => if other = wanted then some value else none
  | .flag _ | .input _ => none

def input? : Item → Option String
  | .input text => some text
  | .flag _ | .setting _ _ => none

/-- The flags among items. -/
def flags (items : List Item) : List Flag := items.filterMap flag?

/-- The values that items give to a setting. -/
def values (wanted : Setting) (items : List Item) : List String := items.filterMap (value? wanted)

/-- The inputs among items. -/
def inputs (items : List Item) : List String := items.filterMap input?

end Item

/-- A place that holds at most one value, before and after these texts are put into it. -/
inductive Filled (read : String → Option α) : Option α → List String → Option α → Prop where
  | kept : Filled read before [] before
  | filled : read text = some value → Filled read none [text] (some value)

namespace Filled

variable {read : String → Option α} {before after : Option α} {text : String} {texts : List String}

theorem nil_iff : Filled read before [] after ↔ before = after := by
  constructor
  · rintro ⟨⟩
    rfl
  · rintro rfl
    exact .kept

theorem cons_iff : Filled read before (text :: texts) after ↔
    before = none ∧ ∃ value, read text = some value ∧ Filled read (some value) texts after := by
  constructor
  · rintro (_ | valid)
    exact ⟨rfl, _, valid, .kept⟩
  · rintro ⟨rfl, value, valid, ⟨⟩⟩
    exact .filled valid

end Filled

namespace Draft

/-- Takes in an item. -/
def take (d : Draft) : Item → Except UsageError Draft
  | .flag flag => d.raise flag
  | .setting setting value => d.give setting value
  | .input text => if d.input.isSome then .error (.unknownArgument text) else .ok { d with input := some text }

/-- Takes in items from left to right. -/
def takeAll (d : Draft) (items : List Item) : Except UsageError Draft := items.foldlM take d

/-- The seed that the value of a setting gives. -/
def secret? (text : String) : Option Secret := (Secret.parse text).toOption

variable {d d' : Draft} {flag : Flag} {setting : Setting} {value text : String} {item : Item}
  {items later : List Item}

theorem takeAll_append : d.takeAll (items ++ later) = d.takeAll items >>= fun taken => taken.takeAll later :=
  List.foldlM_append

theorem takeAll_single : d.takeAll [item] = d.take item := bind_pure _

theorem takeAll_cons_eq_ok : d.takeAll (item :: items) = .ok d' ↔
    ∃ taken, d.take item = .ok taken ∧ taken.takeAll items = .ok d' := by
  unfold takeAll
  rw [List.foldlM_cons]
  exact except_bind_eq_ok

/-! ## One item -/

theorem take_flag : d.take (.flag flag) = .ok d' ↔
    flag ∉ d.flags ∧ d' = { d with flags := d.flags ++ [flag] } := by
  simp only [take, raise, List.contains_iff_mem]
  by_cases raised : flag ∈ d.flags
  · rw [if_pos raised]
    exact ⟨nofun, fun fresh => absurd raised fresh.1⟩
  · rw [if_neg raised, Except.ok.injEq]
    exact ⟨fun same => ⟨raised, same.symm⟩, fun fresh => fresh.2.symm⟩

theorem take_input : d.take (.input text) = .ok d' ↔ d.input = none ∧ d' = { d with input := some text } := by
  simp only [take]
  cases given : d.input with
  | none =>
    rw [Option.isSome_none, if_neg Bool.false_ne_true, Except.ok.injEq]
    exact ⟨fun same => ⟨rfl, same.symm⟩, fun free => free.2.symm⟩
  | some other => exact ⟨nofun, nofun⟩

theorem give_eq_ok : d.give setting value = .ok d' ↔ d.has setting = false ∧ d.put setting value = .ok d' := by
  unfold give
  cases given : d.has setting with
  | false =>
    rw [if_neg Bool.false_ne_true]
    exact ⟨fun put => ⟨rfl, put⟩, fun free => free.2⟩
  | true => exact ⟨nofun, nofun⟩

theorem put_secretKey : d.put .secretKey value = .ok d' ↔
    ∃ secret, secret? value = some secret ∧ d' = { d with secret := some secret } := by
  simp only [put, secret?]
  cases Secret.parse value with
  | error e => exact ⟨nofun, nofun⟩
  | ok secret =>
    constructor
    · rintro ⟨⟩
      exact ⟨secret, rfl, rfl⟩
    · rintro ⟨_, ⟨⟩, rfl⟩
      rfl

theorem put_expiration : d.put .expiration value = .ok d' ↔
    ∃ ledger, ledger? value = some ledger ∧ d' = { d with expiration := some ledger } := by
  simp only [put]
  cases ledger? value with
  | none => exact ⟨nofun, nofun⟩
  | some ledger =>
    constructor
    · rintro ⟨⟩
      exact ⟨ledger, rfl, rfl⟩
    · rintro ⟨_, ⟨⟩, rfl⟩
      rfl

/-- A setting is no other setting and no input. -/
theorem put_elsewhere (put : d.put setting value = .ok d') :
    d'.input = d.input ∧ ∀ other, other ≠ setting → d'.has other = d.has other := by
  cases setting with
  | secretKey =>
    obtain ⟨secret, -, rfl⟩ := put_secretKey.mp put
    exact ⟨rfl, fun other different => by cases other <;> first | rfl | exact absurd rfl different⟩
  | expiration =>
    obtain ⟨ledger, -, rfl⟩ := put_expiration.mp put
    exact ⟨rfl, fun other different => by cases other <;> first | rfl | exact absurd rfl different⟩
  | networkPassphrase | network | logFilter =>
    cases put
    exact ⟨rfl, fun other different => by cases other <;> first | rfl | exact absurd rfl different⟩

/-! ## Many items -/

/-- A draft after items are taken in, place by place. -/
structure Gathers (d : Draft) (items : List Item) (d' : Draft) : Prop where
  secret : Filled secret? d.secret (Item.values .secretKey items) d'.secret
  passphrase : Filled some d.passphrase (Item.values .networkPassphrase items) d'.passphrase
  network : Filled some d.network (Item.values .network items) d'.network
  expiration : Filled ledger? d.expiration (Item.values .expiration items) d'.expiration
  input : Filled some d.input (Item.inputs items) d'.input
  filters : d'.filters = d.filters ++ Item.values .logFilter items
  flags : d'.flags = d.flags ++ Item.flags items
  fresh : ∀ flag ∈ Item.flags items, flag ∉ d.flags
  once : (Item.flags items).Nodup

theorem gathers_nil : d.Gathers [] d' ↔ d = d' := by
  constructor
  · intro g
    obtain ⟨flags, secret, passphrase, network, expiration, filters, input⟩ := d
    obtain ⟨flags', secret', passphrase', network', expiration', filters', input'⟩ := d'
    obtain rfl : secret = secret' := Filled.nil_iff.mp g.secret
    obtain rfl : passphrase = passphrase' := Filled.nil_iff.mp g.passphrase
    obtain rfl : network = network' := Filled.nil_iff.mp g.network
    obtain rfl : expiration = expiration' := Filled.nil_iff.mp g.expiration
    obtain rfl : input = input' := Filled.nil_iff.mp g.input
    obtain rfl : filters' = filters := g.filters.trans (List.append_nil _)
    obtain rfl : flags' = flags := g.flags.trans (List.append_nil _)
    rfl
  · rintro rfl
    exact ⟨.kept, .kept, .kept, .kept, .kept, (List.append_nil _).symm, (List.append_nil _).symm, nofun, .nil⟩

theorem gathers_flag : d.Gathers (.flag flag :: items) d' ↔
    flag ∉ d.flags ∧ Gathers { d with flags := d.flags ++ [flag] } items d' := by
  constructor
  · intro g
    have raised : flag ∉ d.flags := g.fresh flag List.mem_cons_self
    obtain ⟨single, others⟩ := List.nodup_cons.mp g.once
    refine ⟨raised, g.secret, g.passphrase, g.network, g.expiration, g.input, g.filters, ?_, ?_, others⟩
    · exact g.flags.trans (List.append_cons _ _ _)
    · intro other member again
      rcases List.mem_append.mp again with before | same
      · exact g.fresh other (List.mem_cons_of_mem _ member) before
      · exact single (List.mem_singleton.mp same ▸ member)
  · rintro ⟨raised, g⟩
    refine ⟨g.secret, g.passphrase, g.network, g.expiration, g.input, g.filters, ?_, ?_, ?_⟩
    · exact g.flags.trans (List.append_cons _ _ _).symm
    · intro other member
      rcases List.mem_cons.mp member with rfl | member
      · exact raised
      · exact fun before => g.fresh other member (List.mem_append_left _ before)
    · have single : flag ∉ Item.flags items :=
        fun again => g.fresh flag again (List.mem_append_right _ List.mem_cons_self)
      exact List.nodup_cons.mpr ⟨single, g.once⟩

theorem gathers_input : d.Gathers (.input text :: items) d' ↔
    d.input = none ∧ Gathers { d with input := some text } items d' := by
  constructor
  · intro g
    obtain ⟨free, _, ⟨⟩, rest⟩ := Filled.cons_iff.mp g.input
    exact ⟨free, g.secret, g.passphrase, g.network, g.expiration, rest, g.filters, g.flags, g.fresh, g.once⟩
  · rintro ⟨free, g⟩
    have input := Filled.cons_iff.mpr ⟨free, text, rfl, g.input⟩
    exact ⟨g.secret, g.passphrase, g.network, g.expiration, input, g.filters, g.flags, g.fresh, g.once⟩

/-- A place is free as long as it holds nothing. -/
theorem isSome_eq_false {place : Option α} : place.isSome = false ↔ place = none :=
  Option.isSome_eq_false_iff.trans Option.isNone_iff_eq_none

theorem gathers_setting : d.Gathers (.setting setting value :: items) d' ↔
    d.has setting = false ∧ ∃ taken, d.put setting value = .ok taken ∧ taken.Gathers items d' := by
  cases setting with
  | secretKey =>
    constructor
    · intro g
      obtain ⟨free, secret, valid, rest⟩ := Filled.cons_iff.mp g.secret
      refine ⟨isSome_eq_false.mpr free, _, put_secretKey.mpr ⟨secret, valid, rfl⟩, ?_⟩
      exact ⟨rest, g.passphrase, g.network, g.expiration, g.input, g.filters, g.flags, g.fresh, g.once⟩
    · rintro ⟨free, _, put, g⟩
      obtain ⟨secret, valid, rfl⟩ := put_secretKey.mp put
      have filled := Filled.cons_iff.mpr ⟨isSome_eq_false.mp free, secret, valid, g.secret⟩
      exact ⟨filled, g.passphrase, g.network, g.expiration, g.input, g.filters, g.flags, g.fresh, g.once⟩
  | networkPassphrase =>
    constructor
    · intro g
      obtain ⟨free, _, ⟨⟩, rest⟩ := Filled.cons_iff.mp g.passphrase
      refine ⟨isSome_eq_false.mpr free, _, rfl, ?_⟩
      exact ⟨g.secret, rest, g.network, g.expiration, g.input, g.filters, g.flags, g.fresh, g.once⟩
    · rintro ⟨free, _, ⟨⟩, g⟩
      have filled := Filled.cons_iff.mpr ⟨isSome_eq_false.mp free, value, rfl, g.passphrase⟩
      exact ⟨g.secret, filled, g.network, g.expiration, g.input, g.filters, g.flags, g.fresh, g.once⟩
  | network =>
    constructor
    · intro g
      obtain ⟨free, _, ⟨⟩, rest⟩ := Filled.cons_iff.mp g.network
      refine ⟨isSome_eq_false.mpr free, _, rfl, ?_⟩
      exact ⟨g.secret, g.passphrase, rest, g.expiration, g.input, g.filters, g.flags, g.fresh, g.once⟩
    · rintro ⟨free, _, ⟨⟩, g⟩
      have filled := Filled.cons_iff.mpr ⟨isSome_eq_false.mp free, value, rfl, g.network⟩
      exact ⟨g.secret, g.passphrase, filled, g.expiration, g.input, g.filters, g.flags, g.fresh, g.once⟩
  | expiration =>
    constructor
    · intro g
      obtain ⟨free, ledger, valid, rest⟩ := Filled.cons_iff.mp g.expiration
      refine ⟨isSome_eq_false.mpr free, _, put_expiration.mpr ⟨ledger, valid, rfl⟩, ?_⟩
      exact ⟨g.secret, g.passphrase, g.network, rest, g.input, g.filters, g.flags, g.fresh, g.once⟩
    · rintro ⟨free, _, put, g⟩
      obtain ⟨ledger, valid, rfl⟩ := put_expiration.mp put
      have filled := Filled.cons_iff.mpr ⟨isSome_eq_false.mp free, ledger, valid, g.expiration⟩
      exact ⟨g.secret, g.passphrase, g.network, filled, g.input, g.filters, g.flags, g.fresh, g.once⟩
  | logFilter =>
    constructor
    · intro g
      refine ⟨rfl, _, rfl, g.secret, g.passphrase, g.network, g.expiration, g.input, ?_, g.flags, g.fresh, g.once⟩
      exact g.filters.trans (List.append_cons _ _ _)
    · rintro ⟨-, _, ⟨⟩, g⟩
      have filters := g.filters.trans (List.append_cons _ _ _).symm
      exact ⟨g.secret, g.passphrase, g.network, g.expiration, g.input, filters, g.flags, g.fresh, g.once⟩

/-- Items are taken in exactly if each place can hold what they give it. -/
theorem takeAll_eq_ok_iff : d.takeAll items = .ok d' ↔ d.Gathers items d' := by
  induction items generalizing d with
  | nil =>
    rw [gathers_nil]
    exact ⟨Except.ok.inj, congrArg Except.ok⟩
  | cons item items ih =>
    rw [takeAll_cons_eq_ok]
    cases item with
    | flag flag =>
      rw [gathers_flag]
      constructor
      · rintro ⟨taken, first, rest⟩
        obtain ⟨raised, rfl⟩ := take_flag.mp first
        exact ⟨raised, ih.mp rest⟩
      · rintro ⟨raised, g⟩
        exact ⟨_, take_flag.mpr ⟨raised, rfl⟩, ih.mpr g⟩
    | input text =>
      rw [gathers_input]
      constructor
      · rintro ⟨taken, first, rest⟩
        obtain ⟨free, rfl⟩ := take_input.mp first
        exact ⟨free, ih.mp rest⟩
      · rintro ⟨free, g⟩
        exact ⟨_, take_input.mpr ⟨free, rfl⟩, ih.mpr g⟩
    | setting setting value =>
      rw [gathers_setting]
      constructor
      · rintro ⟨taken, first, rest⟩
        obtain ⟨free, put⟩ := give_eq_ok.mp first
        exact ⟨free, taken, put, ih.mp rest⟩
      · rintro ⟨free, taken, put, g⟩
        exact ⟨taken, give_eq_ok.mpr ⟨free, put⟩, ih.mpr g⟩

end Draft
end AuthSigner
