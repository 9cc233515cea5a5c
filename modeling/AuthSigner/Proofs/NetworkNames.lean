import AuthSigner.Proofs.LowercaseLaws
import AuthSigner.Proofs.NetworkChoice
import AuthSigner.Text.WhiteSpace
import Mathlib.Data.Bool.AllAny

/-! The names of the well-known networks, as they may be written. Capitals do not matter, but only
those of ASCII: no look-alike from elsewhere, no white space and no part of a name selects a network. -/
namespace AuthSigner.Network

/-- A name written in ASCII, whichever of its letters are capitals. -/
structure Written (name written : String) : Prop where
  ascii : ∀ c ∈ written.toList, c.toNat < 128
  letters : written.toList.map Char.toLower = name.toList

/-- The names that stand for one network. -/
def sharedNames : List (List String) := [["mainnet", "pubnet", "public"], ["local", "standalone"]]

variable {name written : String} {network : Network}

/-! ## The table of names -/

private theorem names_plain : ∀ entry ∈ wellKnown, ∀ c ∈ entry.1.toList, c.toNat < 128 ∧ c ≠ 'k' := by
  have all : ∀ entry ∈ wellKnown, entry.1.toList.all fun c => c.toNat < 128 ∧ c ≠ 'k' := by decide +kernel
  exact fun entry known => List.all_iff_forall_prop.mp (all entry known)

private theorem names_solid : ∀ entry ∈ wellKnown, ∀ n < 128, Text.isWhiteSpace (Char.ofNat n) →
    (Char.ofNat n).toLower ∉ entry.1.toList := by
  decide +kernel

/-- No name is the beginning of another. -/
private theorem names_apart : ∀ entry ∈ wellKnown, ∀ other ∈ wellKnown,
    entry.1.toList <+: other.1.toList → entry.1.toList = other.1.toList := by
  decide +kernel

private theorem names_shared : ∀ names ∈ sharedNames, ∀ a ∈ names, ∀ b ∈ names, ∀ entry ∈ wellKnown,
    entry.1 = a → (b, entry.2) ∈ wellKnown := by
  decide +kernel

private theorem names_known : ∀ names ∈ sharedNames, ∀ a ∈ names, ∃ entry ∈ wellKnown, entry.1 = a := by
  decide +kernel

/-! ## What a name selects -/

/-- A text is lower-cased to a name exactly if it is a writing of it. -/
theorem lowercase_known_iff (known : (name, network) ∈ wellKnown) :
    Text.lowercase written = name ↔ Written name written := by
  rw [Text.lowercase_eq_iff (names_plain _ known)]
  exact ⟨fun ⟨ascii, letters⟩ => ⟨ascii, letters⟩, fun ⟨ascii, letters⟩ => ⟨ascii, letters⟩⟩

theorem ofName_of_written (known : (name, network) ∈ wellKnown) (spelt : Written name written) :
    ofName written = .ok network := by
  refine ofName_of_known ?_
  rw [(lowercase_known_iff known).mpr spelt]
  exact known

theorem ofName_of_unwritten (unwritten : ∀ name network, (name, network) ∈ wellKnown → ¬ Written name written) :
    ofName written = .error (.unknown written) :=
  ofName_of_unknown fun network known =>
    unwritten _ network known ((lowercase_known_iff known).mp rfl)

theorem ofName_eq_ok_iff :
    ofName written = .ok network ↔ ∃ name, (name, network) ∈ wellKnown ∧ Written name written := by
  constructor
  · intro selected
    by_cases any : ∃ name network, (name, network) ∈ wellKnown ∧ Written name written
    · obtain ⟨name, other, known, spelt⟩ := any
      rw [ofName_of_written known spelt] at selected
      cases selected
      exact ⟨name, known, spelt⟩
    · rw [ofName_of_unwritten fun name network known spelt => any ⟨name, network, known, spelt⟩] at selected
      cases selected
  · rintro ⟨name, known, spelt⟩
    exact ofName_of_written known spelt

/-! ## What selects nothing -/

theorem Written.no_white_space (spelt : Written name written) (known : (name, network) ∈ wellKnown) :
    ∀ c ∈ written.toList, ¬ Text.isWhiteSpace c := by
  intro c member blank
  have letter : c.toLower ∈ name.toList := spelt.letters ▸ List.mem_map_of_mem member
  have apart := names_solid _ known c.toNat (spelt.ascii c member)
  rw [Char.ofNat_toNat] at apart
  exact apart blank letter

/-- Of two writings, of whichever names, neither is the beginning of a longer one. -/
theorem Written.eq_length_of_prefix {other otherWritten : String} {otherNetwork : Network}
    (spelt : Written name written) (known : (name, network) ∈ wellKnown)
    (spelt' : Written other otherWritten) (known' : (other, otherNetwork) ∈ wellKnown)
    (begins : written.toList <+: otherWritten.toList) : written = otherWritten := by
  have names : name.toList <+: other.toList := by
    rw [← spelt.letters, ← spelt'.letters]
    exact begins.map Char.toLower
  have same := congrArg List.length (names_apart _ known _ known' names)
  rw [← spelt.letters, ← spelt'.letters, List.length_map, List.length_map] at same
  exact String.toList_inj.mp (begins.eq_of_length same)

/-- Only spellings in ASCII select a well-known network. A name selects a network exactly if it is one
of its names, up to the case of ASCII letters, and names that are shared select the same. Any other text
is reported as it is: one with a character beyond ASCII, one with white space, and one that goes on where
a name ends or ends before it does. -/
theorem ascii_names_select (written : String) :
    (∀ network, ofName written = .ok network ↔ ∃ name, (name, network) ∈ wellKnown ∧ Written name written) ∧
    ((∀ name network, (name, network) ∈ wellKnown → ¬ Written name written) →
      ofName written = .error (.unknown written)) ∧
    (∀ names ∈ sharedNames, ∀ a ∈ names, ∀ b ∈ names, ∀ other, Written a written → Written b other →
      ∃ network, ofName written = .ok network ∧ ofName other = .ok network) ∧
    ((∃ c ∈ written.toList, 128 ≤ c.toNat ∨ Text.isWhiteSpace c) →
      ofName written = .error (.unknown written)) ∧
    ∀ name network other, (name, network) ∈ wellKnown → Written name other → written ≠ other →
      written.toList <+: other.toList ∨ other.toList <+: written.toList →
      ofName written = .error (.unknown written) := by
  refine ⟨fun _ => ofName_eq_ok_iff, ofName_of_unwritten, ?_, ?_, ?_⟩
  · intro names shared a first b second other spelt spelt'
    obtain ⟨⟨_, network⟩, known, rfl⟩ := names_known names shared a first
    have known' := names_shared names shared _ first b second _ known rfl
    exact ⟨network, ofName_of_written known spelt, ofName_of_written known' spelt'⟩
  · rintro ⟨c, member, foreign⟩
    refine ofName_of_unwritten fun name network known spelt => ?_
    rcases foreign with beyond | blank
    · exact Nat.not_lt.mpr beyond (spelt.ascii c member)
    · exact spelt.no_white_space known c member blank
  · intro name network other known spelt different begins
    refine ofName_of_unwritten fun name' network' known' spelt' => different ?_
    rcases begins with begins | begins
    · exact spelt'.eq_length_of_prefix known' spelt known begins
    · exact (spelt.eq_length_of_prefix known spelt' known' begins).symm

/-- The main network by one of its names, in capitals and not; with a kelvin sign or a blank at the end
there is no such network. -/
theorem ascii_names_select_capitals :
    Written "pubnet" "PubNet" ∧ ofName "PubNet" = .ok mainnet ∧
      ofName "PubNet\u212a" = .error (.unknown "PubNet\u212a") ∧
      ofName "PubNet " = .error (.unknown "PubNet ") := by
  have ascii : "PubNet".toList.all fun c => c.toNat < 128 := by decide +kernel
  have spelt : Written "pubnet" "PubNet" := ⟨List.all_iff_forall_prop.mp ascii, by decide +kernel⟩
  have known : ("pubnet", mainnet) ∈ wellKnown := by decide +kernel
  obtain ⟨selects, _⟩ := ascii_names_select "PubNet"
  obtain ⟨_, _, _, foreign, _⟩ := ascii_names_select "PubNet\u212a"
  obtain ⟨_, _, _, _, parts⟩ := ascii_names_select "PubNet "
  refine ⟨spelt, (selects mainnet).mpr ⟨_, known, spelt⟩, ?_, ?_⟩
  · exact foreign ⟨'\u212a', by decide +kernel, .inl (by decide)⟩
  · exact parts _ _ _ known spelt (by decide +kernel) (.inr (by decide +kernel))

end AuthSigner.Network
