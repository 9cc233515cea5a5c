import AuthSigner.Proofs.VerificationMeaning

/-! Writing and reading of signature proofs. Every proof can be written, and the reader accepts the
values that are written and no others. So nothing is taken for a proof that a contract, which is as
strict, would not take for one. -/
namespace AuthSigner.Proof

variable {p : Proof} {v : Value}

theorem store_eq_ok_iff : p.store = .ok v ↔ v = p.toValue := by
  rw [store_eq]
  constructor
  · intro stored
    exact (Except.ok.inj stored).symm
  · rintro rfl
    rfl

theorem ofValue_eq_ok_iff : ofValue v = .ok p ↔ p.store = .ok v := by
  rw [store_eq_ok_iff, ← ofValue_eq_some_iff, ofValue]
  cases ofValue? v with
  | none => exact ⟨nofun, nofun⟩
  | some q =>
    constructor
    · intro read
      rw [Except.ok.inj read]
    · intro read
      rw [Option.some.inj read]

/-- What no proof is stored as is malformed. -/
theorem ofValue_eq_malformed_iff : ofValue v = .error .malformed ↔ ∀ p : Proof, p.store ≠ .ok v := by
  constructor
  · intro refused p stored
    rw [ofValue_eq_ok_iff.mpr stored] at refused
    cases refused
  · intro strange
    cases read : ofValue v with
    | ok p => exact absurd (ofValue_eq_ok_iff.mp read) (strange p)
    | error cause =>
      cases cause
      rfl

/-- Two entries are those of a proof. -/
structure Entries (first second : Value × Value) : Prop where
  firstKey : first.1 = symbol "public_key"
  secondKey : second.1 = symbol "signature"
  publicKey : ∃ bytes, first.2 = .scalar (.bytes bytes) ∧ bytes.length = 32
  signature : ∃ bytes, second.2 = .scalar (.bytes bytes) ∧ bytes.length = 64

theorem entries_of_stored {entries : Option (List (Value × Value))} (stored : p.store = .ok (.map entries)) :
    ∃ first second, entries = some [first, second] ∧ Entries first second := by
  cases store_eq_ok_iff.mp stored
  exact ⟨_, _, rfl, rfl, rfl, ⟨_, rfl, p.publicKey.length_toBytes⟩, ⟨_, rfl, p.signature.length_toBytes⟩⟩

/-- The reader of proofs accepts exactly what the writer writes. Every proof can be written; a value is
read as a proof if and only if it is what that proof is written as; and every value that no proof is
written as is malformed. Among these are all values that are not maps, the absent map, maps with more or
fewer than two entries, and maps of two entries whose keys are not the symbols of the two fields, in
their order, or whose contents are not byte strings of the two lengths. -/
theorem reader_accepts_written :
    (∀ p : Proof, ∃ v, p.store = .ok v) ∧
    (∀ (v : Value) (p : Proof), ofValue v = .ok p ↔ p.store = .ok v) ∧
    (∀ v : Value, ofValue v = .error .malformed ↔ ∀ p : Proof, p.store ≠ .ok v) ∧
    (∀ v : Value, (∀ entries, v ≠ .map entries) → ofValue v = .error .malformed) ∧
    ofValue (.map none) = .error .malformed ∧
    (∀ entries, entries.length ≠ 2 → ofValue (.map (some entries)) = .error .malformed) ∧
    ∀ first second : Value × Value,
      first.1 ≠ symbol "public_key" ∨ second.1 ≠ symbol "signature" ∨
        (∀ bytes, first.2 = .scalar (.bytes bytes) → bytes.length ≠ 32) ∨
        (∀ bytes, second.2 = .scalar (.bytes bytes) → bytes.length ≠ 64) →
      ofValue (.map (some [first, second])) = .error .malformed := by
  refine ⟨fun p => ⟨_, p.store_eq⟩, fun v p => ofValue_eq_ok_iff, fun v => ofValue_eq_malformed_iff,
    ?_, ?_, ?_, ?_⟩
  · intro v other
    apply ofValue_eq_malformed_iff.mpr
    intro p stored
    exact other _ (store_eq_ok_iff.mp stored)
  · apply ofValue_eq_malformed_iff.mpr
    intro p stored
    obtain ⟨_, _, present, _⟩ := entries_of_stored stored
    cases present
  · intro entries count
    apply ofValue_eq_malformed_iff.mpr
    intro p stored
    obtain ⟨_, _, two, _⟩ := entries_of_stored stored
    cases two
    exact count rfl
  · intro first second wrong
    apply ofValue_eq_malformed_iff.mpr
    intro p stored
    obtain ⟨_, _, same, shape⟩ := entries_of_stored stored
    cases same
    obtain ⟨key, spelledKey, keyLength⟩ := shape.publicKey
    obtain ⟨signature, spelled, signatureLength⟩ := shape.signature
    rcases wrong with otherKey | otherKey | otherLength | otherLength
    · exact otherKey shape.firstKey
    · exact otherKey shape.secondKey
    · exact otherLength key spelledKey keyLength
    · exact otherLength signature spelled signatureLength

/-- A proof of zero bytes. -/
def zeros : Proof := ⟨.zero 32, .zero 64⟩

/-- An entry of a map whose key is a string, with as many zero bytes. -/
def zeroString (name : String) (count : Nat) : Value × Value :=
  (.scalar (.string (nameBytes name)), .scalar (.bytes (List.replicate count 0)))

/-- The same with a symbol. -/
def zeroField (name : String) (count : Nat) : Value × Value :=
  (symbol name, .scalar (.bytes (List.replicate count 0)))

theorem reader_accepts_written_zeros :
    ofValue (.map (some [zeroField "public_key" 32, zeroField "signature" 64])) = .ok zeros ∧
    ofValue (.scalar .void) = .error .malformed ∧
    ofValue (.map (some [zeroField "public_key" 32])) = .error .malformed ∧
    ofValue (.map (some [zeroField "signature" 64, zeroField "public_key" 32])) = .error .malformed ∧
    ofValue (.map (some [zeroString "public_key" 32, zeroField "signature" 64])) = .error .malformed ∧
    ofValue (.map (some [zeroField "public_key" 32, zeroField "signature" 65])) = .error .malformed := by
  obtain ⟨_, reads, _, others, _, counts, shapes⟩ := reader_accepts_written
  have swapped : (zeroField "signature" 64).1 ≠ symbol "public_key" := by
    intro same
    injection same with scalar
    revert scalar
    decide
  refine ⟨(reads _ zeros).mpr zeros.store_eq, others _ nofun, counts _ (by decide), shapes _ _ (.inl swapped),
    shapes _ _ (.inl nofun), shapes _ _ (.inr (.inr (.inr ?_)))⟩
  rintro _ ⟨⟩
  decide

end AuthSigner.Proof
