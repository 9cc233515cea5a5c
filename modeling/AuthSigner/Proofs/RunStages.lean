import AuthSigner.Proofs.SignedText

/-! The stages of a run that succeeds, and the line that it writes. A run gives an envelope
exactly if its network is known, its input is an envelope, that envelope is signed, and what is
signed verifies where this is asked for. The line is read as that envelope again. -/
namespace AuthSigner
open Xdr

variable {o : Options} {s : Surroundings} {printer : Printer} {network : Network} {envelope after : Envelope}

theorem check_eq_ok : (o.check printer network envelope).result = .ok after ↔
    envelope = after ∧ (o.verify = true → ∃ verified, after.verify network.id = .ok verified) := by
  simp only [Options.check]
  by_cases asked : o.verify = true
  · rw [if_pos asked]
    cases verified : (envelope.verification network.id).result with
    | error e =>
      constructor
      · intro failed
        cases failed
      · rintro ⟨rfl, verifies⟩
        obtain ⟨list, passed⟩ := verifies asked
        have none := verified.symm.trans passed
        cases none
    | ok list =>
      constructor
      · intro passed
        cases passed
        exact ⟨rfl, fun _ => ⟨list, verified⟩⟩
      · rintro ⟨rfl, _⟩
        rfl
  · rw [if_neg asked]
    constructor
    · intro kept
      cases kept
      exact ⟨rfl, fun verify => absurd verify asked⟩
    · rintro ⟨rfl, _⟩
      rfl

/-- What is signed in a run with these options. -/
def Options.signing (o : Options) (printer : Printer) (network : Network) (envelope : Envelope) :
    SigningOutcome Unit :=
  envelope.sign ⟨network, .ofSecret o.secret, o.expiration, printer⟩ ()

theorem signAndCheck_eq_ok : (o.signAndCheck printer network envelope).result = .ok after ↔
    (∃ list, (o.signing printer network envelope).result = .ok list) ∧
      (o.signing printer network envelope).envelope = after ∧
      (o.verify = true → ∃ verified, after.verify network.id = .ok verified) := by
  simp only [Options.signAndCheck, Options.signing]
  cases signed : (envelope.sign ⟨network, .ofSecret o.secret, o.expiration, printer⟩ ()).result with
  | error e =>
    constructor
    · intro failed
      cases failed
    · rintro ⟨⟨_, succeeded⟩, _⟩
      cases succeeded
  | ok list => exact check_eq_ok.trans ⟨fun passed => ⟨⟨list, rfl⟩, passed⟩, fun passed => passed.2⟩

theorem run_eq_ok : (o.run s).result = .ok after ↔
    ∃ network envelope, o.network.resolve = .ok network ∧ s.envelope o.input = .ok envelope ∧
      (o.signAndCheck ⟨o.quiet, s.terminal⟩ network envelope).result = .ok after := by
  simp only [Options.run]
  cases o.network.resolve with
  | error e =>
    constructor
    · intro failed
      cases failed
    · rintro ⟨_, _, resolved, _⟩
      cases resolved
  | ok network =>
    cases s.envelope o.input with
    | error e =>
      constructor
      · intro failed
        cases failed
      · rintro ⟨_, _, _, input, _⟩
        cases input
    | ok envelope =>
      constructor
      · intro passed
        exact ⟨network, envelope, rfl, rfl, passed⟩
      · rintro ⟨_, _, resolved, input, passed⟩
        cases resolved
        cases input
        exact passed

/-! ## The line that is written -/

theorem output_eq (came : (o.run s).result = .ok after) :
    (o.run s).output = Envelope.codec.toString after ++ "\n" := by
  simp only [RunOutcome.output, came]

theorem ofString_append (a b : String) : Bytes.ofString (a ++ b) = Bytes.ofString a ++ Bytes.ofString b := by
  change (a ++ b).toByteArray.data.toList = a.toByteArray.data.toList ++ b.toByteArray.data.toList
  rw [String.toByteArray_append, ByteArray.data_append, Array.toList_append]

/-- The line that shows an envelope is read as that envelope, also with other white space. -/
theorem ofText_of_line (fits : Envelope.codec.Fits envelope) {text : Bytes}
    (same : text.solid = (Bytes.ofString (Envelope.codec.toString envelope ++ "\n")).solid) :
    Envelope.ofText text = .ok envelope := by
  have ending : (Bytes.ofString "\n").solid = [] := by decide
  have solid : text.solid = Envelope.codec.toText envelope := by
    rw [same, ofString_append, Codec.bytes_of_toString, Bytes.solid, List.filter_append]
    change (Envelope.codec.toText envelope).solid ++ (Bytes.ofString "\n").solid = _
    rw [ending, List.append_nil]
    exact Base64.solid_encode _
  exact ofText_eq_ok.mpr (Codec.ofText_of_solid (fun _ => Envelope.lawful) fits solid)

end AuthSigner
