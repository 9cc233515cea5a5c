/-! Computations that may fail without losing their state. -/
namespace AuthSigner

/-- A computation that keeps a state `σ`, also when it fails with `ε`. -/
abbrev Fallible (σ ε : Type) := ExceptT ε (StateM σ)

namespace Fallible

variable {σ ε α β : Type} {x : Fallible σ ε α} {s s' : σ}

theorem run_get_bind (f : σ → Fallible σ ε β) (s : σ) : (get >>= f).run.run s = (f s).run.run s := rfl

theorem run_bind_ok {a : α} (first : x.run.run s = (.ok a, s')) (f : α → Fallible σ ε β) :
    (x >>= f).run.run s = (f a).run.run s' := by
  change (ExceptT.bindCont f (x.run.run s).1).run (x.run.run s).2 = _
  rw [first]
  rfl

/-- After a failure nothing runs. -/
theorem run_bind_error {e : ε} (first : x.run.run s = (.error e, s')) (f : α → Fallible σ ε β) :
    (x >>= f).run.run s = (.error e, s') := by
  change (ExceptT.bindCont f (x.run.run s).1).run (x.run.run s).2 = _
  rw [first]
  rfl

/-- A success is one of both parts. -/
theorem run_bind_eq_ok {b : β} {s'' : σ} {f : α → Fallible σ ε β} :
    (x >>= f).run.run s = (.ok b, s'') ↔
      ∃ a s', x.run.run s = (.ok a, s') ∧ (f a).run.run s' = (.ok b, s'') := by
  rcases first : x.run.run s with ⟨outcome, s'⟩
  cases outcome with
  | ok a =>
    rw [run_bind_ok first]
    exact ⟨fun later => ⟨a, s', rfl, later⟩, fun ⟨_, _, same, later⟩ => by cases same; exact later⟩
  | error e =>
    rw [run_bind_error first]
    exact ⟨fun same => (nomatch same), fun ⟨_, _, same, _⟩ => nomatch same⟩

/-- A failure is one of the first part, or one of the second after the first. -/
theorem run_bind_eq_error {e : ε} {s'' : σ} {f : α → Fallible σ ε β} :
    (x >>= f).run.run s = (.error e, s'') ↔
      x.run.run s = (.error e, s'') ∨
        ∃ a s', x.run.run s = (.ok a, s') ∧ (f a).run.run s' = (.error e, s'') := by
  rcases first : x.run.run s with ⟨outcome, s'⟩
  cases outcome with
  | ok a =>
    rw [run_bind_ok first]
    exact ⟨fun later => .inr ⟨a, s', rfl, later⟩,
      fun | .inr ⟨_, _, same, later⟩ => by cases same; exact later⟩
  | error e' =>
    rw [run_bind_error first]
    constructor
    · intro same
      cases same
      exact .inl rfl
    · rintro (same | ⟨_, _, same, _⟩)
      · cases same
        rfl
      · cases same

end Fallible
end AuthSigner
