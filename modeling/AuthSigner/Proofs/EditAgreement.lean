import AuthSigner.Proofs.EditSemantics

/-! Two edits of one envelope, side by side. If two editors, called on the same entry in states that
agree, answer the same, leave the same credentials and leave states that agree again, then whole edits
answer the same and leave the same envelope. The proof goes up the nested lists, and asks nothing of
their lengths. -/
namespace AuthSigner

variable {σ τ ε α β : Type} {R : σ → τ → Prop}

/-- Two computations that give the same result where the states agree, and leave states that agree. -/
def Fallible.Agree (R : σ → τ → Prop) (first : Fallible σ ε α) (second : Fallible τ ε α) : Prop :=
  ∀ s t, R s t → (first.run.run s).1 = (second.run.run t).1 ∧ R (first.run.run s).2 (second.run.run t).2

/-- Two editors that do the same to an entry where their states agree. -/
def Editor.Agree (R : σ → τ → Prop) (first : Editor σ ε) (second : Editor τ ε) : Prop :=
  ∀ (x : LocatedEntry) s t, R s t → (first.call s x).outcome = (second.call t x).outcome ∧
    (first.call s x).left = (second.call t x).left ∧ R (first.call s x).state (second.call t x).state

namespace Fallible

theorem Agree.pure (a : α) : Agree R (Pure.pure a : Fallible σ ε α) (Pure.pure a) :=
  fun _ _ agree => ⟨rfl, agree⟩

theorem Agree.throw (cause : ε) : Agree R (throw cause : Fallible σ ε α) (throw cause) :=
  fun _ _ agree => ⟨rfl, agree⟩

theorem Agree.bind {first : Fallible σ ε α} {second : Fallible τ ε α} {next : α → Fallible σ ε β}
    {next' : α → Fallible τ ε β} (agree : Agree R first second) (later : ∀ a, Agree R (next a) (next' a)) :
    Agree R (first >>= next) (second >>= next') := by
  intro s t start
  obtain ⟨result, between⟩ := agree s t start
  rcases ran : first.run.run s with ⟨outcome, s'⟩
  rcases ran' : second.run.run t with ⟨outcome', t'⟩
  rw [ran, ran'] at result between
  cases result
  cases outcome with
  | ok a =>
    rw [run_bind_ok ran, run_bind_ok ran']
    exact later a s' t' between
  | error cause =>
    rw [run_bind_error ran, run_bind_error ran']
    exact ⟨rfl, between⟩

end Fallible

namespace Editor
open Fallible

variable {first : Editor σ ε} {second : Editor τ ε}

theorem Agree.onCredentials (agree : Agree R first second) (p : Position) (i : Invocation)
    (c : AddressCredentials) : Fallible.Agree R (first.onCredentials p i c) (second.onCredentials p i c) := by
  intro s t start
  let x : LocatedEntry := ⟨p, ⟨.address c, i⟩, c⟩
  obtain ⟨outcome, left, state⟩ := agree x s t start
  have ran : (first.onCredentials p i c).run.run s = _ := credentials_run first s x
  have ran' : (second.onCredentials p i c).run.run t = _ := credentials_run second t x
  rw [ran, ran', outcome, left]
  cases (second.call t x).outcome with
  | ok => exact ⟨rfl, state⟩
  | error cause => exact ⟨rfl, state⟩

theorem Agree.bounded (max : Nat) (items : List α) :
    Fallible.Agree R (bounded max items : Fallible σ (EditError ε) (List α)) (bounded max items) := by
  unfold Editor.bounded
  split
  · exact .pure _
  · exact .throw _

theorem Agree.onEntries (agree : Agree R first second) (operation entry : Nat) (es : List AuthorizationEntry) :
    Fallible.Agree R (first.onEntries operation entry es) (second.onEntries operation entry es) := by
  induction es generalizing entry with
  | nil => exact .pure _
  | cons e rest ih =>
    unfold Editor.onEntries
    cases e.credentials with
    | sourceAccount => exact (ih (entry + 1)).bind fun _ => .pure _
    | address c =>
      exact (agree.onCredentials _ _ c).bind fun _ => (ih (entry + 1)).bind fun _ => .pure _

theorem Agree.onOperation (agree : Agree R first second) (index : Nat) (o : Operation) :
    Fallible.Agree R (first.onOperation index o) (second.onOperation index o) := by
  unfold Editor.onOperation
  cases o.body with
  | invokeHostFunction invoke =>
    exact (agree.onEntries index 0 invoke.auth).bind fun _ => (Agree.bounded _ _).bind fun _ => .pure _
  | _ => exact .pure _

theorem Agree.onOperations (agree : Agree R first second) (index : Nat) (operations : List Operation) :
    Fallible.Agree R (first.onOperations index operations) (second.onOperations index operations) := by
  induction operations generalizing index with
  | nil => exact .pure _
  | cons o later ih =>
    exact (agree.onOperation index o).bind fun _ => (ih (index + 1)).bind fun _ => .pure _

theorem Agree.onTransaction (agree : Agree R first second) (t : Transaction) :
    Fallible.Agree R (first.onTransaction t) (second.onTransaction t) :=
  (agree.onOperations 0 t.operations).bind fun _ => (Agree.bounded _ _).bind fun _ => .pure _

/-- Edits with editors that agree answer the same, leave the same envelope, and leave states that agree. -/
theorem Agree.edit (agree : Agree R first second) (e : Envelope) {s : σ} {t : τ} (start : R s t) :
    ((Envelope.edit first).run.run (e, s)).1 = ((Envelope.edit second).run.run (e, t)).1 ∧
      ((Envelope.edit first).run.run (e, s)).2.1 = ((Envelope.edit second).run.run (e, t)).2.1 ∧
      R ((Envelope.edit first).run.run (e, s)).2.2 ((Envelope.edit second).run.run (e, t)).2.2 := by
  change (Envelope.edit first (e, s)).1 = (Envelope.edit second (e, t)).1 ∧
    (Envelope.edit first (e, s)).2.1 = (Envelope.edit second (e, t)).2.1 ∧
    R (Envelope.edit first (e, s)).2.2 (Envelope.edit second (e, t)).2.2
  unfold Envelope.edit
  dsimp only
  cases e.signed with
  | error kind => exact ⟨rfl, rfl, start⟩
  | ok signed =>
    obtain ⟨result, state⟩ := agree.onTransaction signed.transaction s t start
    dsimp only
    rcases ran : (first.onTransaction signed.transaction).run.run s with ⟨outcome, s'⟩
    rcases ran' : (second.onTransaction signed.transaction).run.run t with ⟨outcome', t'⟩
    rw [ran, ran'] at result state
    cases result
    cases outcome with
    | ok edited => exact ⟨rfl, rfl, state⟩
    | error cause => exact ⟨rfl, rfl, state⟩

end Editor
end AuthSigner
