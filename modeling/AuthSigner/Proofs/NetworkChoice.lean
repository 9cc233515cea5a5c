import AuthSigner.Network

/-! The network that is meant. The names of the well-known networks stand in a table; a passphrase
goes before a name, and a name before the network that is meant where nothing is said. -/
namespace AuthSigner.Network

/-- The names of the well-known networks, in lower case. -/
def wellKnown : List (String × Network) :=
  [("testnet", testnet), ("futurenet", futurenet), ("mainnet", mainnet), ("pubnet", mainnet), ("public", mainnet),
    ("local", standalone), ("standalone", standalone)]

/-- The network that a passphrase and a name stand for, or why there is none. -/
inductive Meant : Option String → Option String → Except NetworkError Network → Prop where
  | passphrase : Meant (some text) name (.ok ⟨text⟩)
  | known : (Text.lowercase name, network) ∈ wellKnown → Meant none (some name) (.ok network)
  | unknown : (∀ network, (Text.lowercase name, network) ∉ wellKnown) →
      Meant none (some name) (.error (.unknown name))
  | unsaid : Meant none none (.ok testnet)

variable {name : String} {network : Network}

theorem ofName_of_known (known : (Text.lowercase name, network) ∈ wellKnown) : ofName name = .ok network := by
  unfold ofName
  generalize Text.lowercase name = lowered at known
  simp only [wellKnown, List.mem_cons, Prod.mk.injEq, List.not_mem_nil, or_false] at known
  rcases known with ⟨rfl, rfl⟩ | ⟨rfl, rfl⟩ | ⟨rfl, rfl⟩ | ⟨rfl, rfl⟩ | ⟨rfl, rfl⟩ | ⟨rfl, rfl⟩ | ⟨rfl, rfl⟩
  all_goals rfl

theorem ofName_of_unknown (unknown : ∀ network, (Text.lowercase name, network) ∉ wellKnown) :
    ofName name = .error (.unknown name) := by
  unfold ofName
  generalize Text.lowercase name = lowered at unknown
  split
  case h_1 => exact absurd (by decide +kernel) (unknown testnet)
  case h_2 => exact absurd (by decide +kernel) (unknown futurenet)
  case h_3 => exact absurd (by decide +kernel) (unknown mainnet)
  case h_4 => exact absurd (by decide +kernel) (unknown mainnet)
  case h_5 => exact absurd (by decide +kernel) (unknown mainnet)
  case h_6 => exact absurd (by decide +kernel) (unknown standalone)
  case h_7 => exact absurd (by decide +kernel) (unknown standalone)
  case h_8 => rfl

/-- A choice resolves to what is meant by it, and to nothing else. -/
theorem resolve_iff {choice : Choice} {result : Except NetworkError Network} :
    choice.resolve = result ↔ Meant choice.passphrase choice.name result := by
  obtain ⟨passphrase, name⟩ := choice
  constructor
  · rintro rfl
    cases passphrase with
    | some text => exact .passphrase
    | none =>
      cases name with
      | none => exact .unsaid
      | some name =>
        by_cases known : ∃ network, (Text.lowercase name, network) ∈ wellKnown
        · obtain ⟨network, known⟩ := known
          have resolved : Choice.resolve ⟨none, some name⟩ = .ok network := ofName_of_known known
          exact resolved ▸ .known known
        · have unknown : ∀ network, (Text.lowercase name, network) ∉ wellKnown := not_exists.mp known
          have resolved : Choice.resolve ⟨none, some name⟩ = .error (.unknown name) := ofName_of_unknown unknown
          exact resolved ▸ .unknown unknown
  · rintro (_ | known | unknown | _)
    · rfl
    · exact ofName_of_known known
    · exact ofName_of_unknown unknown
    · rfl

end AuthSigner.Network
