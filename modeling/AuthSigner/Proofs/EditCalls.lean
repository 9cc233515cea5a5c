import AuthSigner.Entries.Edit
import AuthSigner.Proofs.CredentialUpdate

/-! The calls that an editor gets. `Editor.calls` says which they should be: one
for each located entry, in order, each in the state that the one before left, and
none after a failure. `Envelope.editCalls` says which they are, by editing with
an editor that keeps a list of its calls beside its own state. -/
namespace AuthSigner

/-- One call of an editor: what it was given, how it answered, and what it left. -/
structure Call (σ ε : Type) where
  /-- The position, the invocation and the credentials that the editor was given. -/
  given : LocatedEntry
  outcome : Except ε Unit
  /-- The credentials after the call, also after a failed one. -/
  left : AddressCredentials
  /-- The editor's state after the call. -/
  state : σ

variable {σ ε : Type}

/-- The call did not fail. -/
def Call.Succeeded (call : Call σ ε) : Prop := call.outcome = .ok ()

instance (call : Call σ ε) : Decidable call.Succeeded :=
  match answered : call.outcome with
  | .ok () => isTrue answered
  | .error _ => isFalse fun succeeded => by cases answered.symm.trans succeeded

/-- How calls end that start in this state: in which state, and whether by a failure. -/
def Call.ending (s : σ) : List (Call σ ε) → Except ε Unit × σ
  | [] => (.ok (), s)
  | call :: later =>
    match call.outcome with
    | .ok () => ending call.state later
    | .error cause => (.error cause, call.state)

theorem Call.ending_of_success {call : Call σ ε} (succeeded : call.Succeeded) (s : σ)
    (later : List (Call σ ε)) : ending s (call :: later) = ending call.state later := by
  rw [ending, show call.outcome = .ok () from succeeded]

theorem Call.ending_of_failure {call : Call σ ε} {cause : ε} (failed : call.outcome = .error cause)
    (s : σ) (later : List (Call σ ε)) : ending s (call :: later) = (.error cause, call.state) := by
  rw [ending, failed]

namespace Editor

/-- The editor's call on a located entry, in this state. -/
def call (edit : Editor σ ε) (s : σ) (x : LocatedEntry) : Call σ ε :=
  let (outcome, (left, state)) := (edit x.position x.entry.rootInvocation).run.run (x.credentials, s)
  ⟨x, outcome, left, state⟩

/-- The editor's calls on located entries, from this state on, up to the first that fails. -/
def calls (edit : Editor σ ε) : σ → List LocatedEntry → List (Call σ ε)
  | _, [] => []
  | s, x :: rest =>
    match (edit.call s x).outcome with
    | .ok () => edit.call s x :: calls edit (edit.call s x).state rest
    | .error _ => [edit.call s x]

/-- The same editor, with a list of its calls beside its state. -/
def recorded (edit : Editor σ ε) : Editor (σ × List (Call σ ε)) ε := fun p i (c, (s, before)) =>
  let call := edit.call s ⟨p, ⟨.address c, i⟩, c⟩
  (call.outcome, (call.left, (call.state, before ++ [call])))

end Editor

/-- The calls that an editor gets when it edits an envelope, starting in this state. -/
def Envelope.editCalls (e : Envelope) (edit : Editor σ ε) (s : σ) : List (Call σ ε) :=
  ((Envelope.edit edit.recorded).run.run (e, (s, []))).2.2.2

namespace Editor

variable {edit : Editor σ ε} {s s' : σ} {x : LocatedEntry} {xs ys : List LocatedEntry}

@[simp] theorem given_call : (edit.call s x).given = x := rfl

theorem calls_of_success (succeeded : (edit.call s x).Succeeded) :
    edit.calls s (x :: xs) = edit.call s x :: edit.calls (edit.call s x).state xs := by
  rw [calls, show (edit.call s x).outcome = .ok () from succeeded]

theorem calls_of_failure {cause : ε} (failed : (edit.call s x).outcome = .error cause) :
    edit.calls s (x :: xs) = [edit.call s x] := by
  rw [calls, failed]

/-- Calls that all succeed are followed by those on further entries. -/
theorem calls_append_of_success (ended : Call.ending s (edit.calls s xs) = (.ok (), s')) :
    edit.calls s (xs ++ ys) = edit.calls s xs ++ edit.calls s' ys := by
  induction xs generalizing s with
  | nil => cases ended; rfl
  | cons x xs ih =>
    cases outcome : (edit.call s x).outcome with
    | ok =>
      rw [calls_of_success outcome, Call.ending_of_success outcome] at ended
      rw [List.cons_append, calls_of_success outcome, calls_of_success outcome, List.cons_append,
        ih ended]
    | error cause =>
      rw [calls_of_failure outcome, Call.ending_of_failure outcome] at ended
      cases ended

/-- After a failed call no further entry matters. -/
theorem calls_append_of_failure {cause : ε}
    (ended : Call.ending s (edit.calls s xs) = (.error cause, s')) :
    edit.calls s (xs ++ ys) = edit.calls s xs := by
  induction xs generalizing s with
  | nil => cases ended
  | cons x xs ih =>
    cases outcome : (edit.call s x).outcome with
    | ok =>
      rw [calls_of_success outcome, Call.ending_of_success outcome] at ended
      rw [List.cons_append, calls_of_success outcome, calls_of_success outcome, ih ended]
    | error cause =>
      rw [List.cons_append, calls_of_failure outcome, calls_of_failure outcome]

/-- The ending of calls is that of the calls on the first entries, followed, if all
of these succeed, by those on the others. -/
theorem ending_append (s : σ) (xs ys : List LocatedEntry) :
    Call.ending s (edit.calls s (xs ++ ys)) =
      match Call.ending s (edit.calls s xs) with
      | (.ok (), s') => Call.ending s' (edit.calls s' ys)
      | (.error cause, s') => (.error cause, s') := by
  induction xs generalizing s with
  | nil => rfl
  | cons x xs ih =>
    cases outcome : (edit.call s x).outcome with
    | ok =>
      rw [List.cons_append, calls_of_success outcome, calls_of_success outcome,
        Call.ending_of_success outcome, Call.ending_of_success outcome]
      exact ih _
    | error cause =>
      rw [List.cons_append, calls_of_failure outcome, calls_of_failure outcome,
        Call.ending_of_failure outcome]

/-- The calls are on the first of the entries, one for each. -/
theorem given_front (edit : Editor σ ε) (s : σ) (xs : List LocatedEntry) :
    (edit.calls s xs).map (·.given) <+: xs := by
  induction xs generalizing s with
  | nil => exact List.prefix_rfl
  | cons x xs ih =>
    cases outcome : (edit.call s x).outcome with
    | ok =>
      rw [calls_of_success outcome, List.map_cons]
      exact (List.prefix_cons_inj x).mpr (ih _)
    | error cause =>
      rw [calls_of_failure outcome]
      exact ⟨xs, rfl⟩

/-- Calls that do not end with a failure are on all entries. -/
theorem given_of_success (ended : Call.ending s (edit.calls s xs) = (.ok (), s')) :
    (edit.calls s xs).map (·.given) = xs := by
  induction xs generalizing s with
  | nil => rfl
  | cons x xs ih =>
    cases outcome : (edit.call s x).outcome with
    | ok =>
      rw [calls_of_success outcome, Call.ending_of_success outcome] at ended
      rw [calls_of_success outcome, List.map_cons, ih ended]
      rfl
    | error cause =>
      rw [calls_of_failure outcome, Call.ending_of_failure outcome] at ended
      cases ended

/-- Calls end without a failure exactly if each of them succeeds. -/
theorem ending_success_iff :
    (Call.ending s (edit.calls s xs)).1 = .ok () ↔ ∀ call ∈ edit.calls s xs, call.Succeeded := by
  induction xs generalizing s with
  | nil => exact ⟨fun _ call member => (nomatch member), fun _ => rfl⟩
  | cons x xs ih =>
    cases outcome : (edit.call s x).outcome with
    | ok =>
      rw [calls_of_success outcome, Call.ending_of_success outcome, ih, List.forall_mem_cons]
      exact ⟨fun later => ⟨outcome, later⟩, And.right⟩
    | error cause =>
      rw [calls_of_failure outcome, Call.ending_of_failure outcome, List.forall_mem_singleton]
      simp only [Call.Succeeded, outcome, reduceCtorEq]

/-- A failed call is the last one. Those before it succeeded, and the calls end as it
ended. -/
theorem failed_call_last {call : Call σ ε} {cause : ε} (member : call ∈ edit.calls s xs)
    (failed : call.outcome = .error cause) :
    ∃ earlier later, edit.calls s xs = earlier ++ [call] ∧ (∀ before ∈ earlier, before.Succeeded) ∧
      xs = earlier.map (·.given) ++ call.given :: later ∧
      Call.ending s (edit.calls s xs) = (.error cause, call.state) := by
  induction xs generalizing s with
  | nil => cases member
  | cons x xs ih =>
    cases outcome : (edit.call s x).outcome with
    | ok =>
      rw [calls_of_success outcome] at member ⊢
      rcases List.mem_cons.mp member with rfl | member
      · cases outcome.symm.trans failed
      · obtain ⟨earlier, later, shape, succeeded, located, ended⟩ := ih member
        refine ⟨edit.call s x :: earlier, later, ?_, ?_, ?_, ?_⟩
        · rw [shape, List.cons_append]
        · exact List.forall_mem_cons.mpr ⟨outcome, succeeded⟩
        · rw [located, List.map_cons, List.cons_append, given_call]
        · rw [Call.ending_of_success outcome, ended]
    | error cause' =>
      rw [calls_of_failure outcome] at member ⊢
      rw [List.mem_singleton.mp member] at failed ⊢
      exact ⟨[], xs, rfl, fun _ none => (nomatch none), rfl, Call.ending_of_failure failed s []⟩

/-- Where no position comes twice, the credentials that the calls leave depend only
on the entry they were given. -/
theorem exists_left (edit : Editor σ ε) (s : σ) (distinct : (xs.map (·.position)).Nodup) :
    ∃ new : LocatedEntry → AddressCredentials, ∀ call ∈ edit.calls s xs, new call.given = call.left := by
  have own : ((edit.calls s xs).map (·.given) |>.map (·.position)).Nodup :=
    distinct.sublist ((given_front edit s xs).sublist.map _)
  obtain ⟨new, assigned⟩ := exists_assignment own
    (show ((edit.calls s xs).map (·.left)).length = _ by rw [List.length_map, List.length_map])
    (·.credentials)
  rw [List.map_map, List.map_inj_left] at assigned
  exact ⟨new, assigned⟩

/-! ## The recorded calls -/

private theorem call_recorded (edit : Editor σ ε) (s : σ) (faithful : x.Faithful) (before : List (Call σ ε)) :
    edit.recorded.call (s, before) x =
      ⟨x, (edit.call s x).outcome, (edit.call s x).left,
        ((edit.call s x).state, before ++ [edit.call s x])⟩ := by
  obtain ⟨position, ⟨credentials, rootInvocation⟩, given⟩ := x
  cases (show credentials = .address given from faithful)
  rfl

/-- The list that is kept beside the state grows by exactly the calls made. -/
theorem ending_recorded (edit : Editor σ ε) (s : σ) (faithful : ∀ x ∈ xs, x.Faithful)
    (before : List (Call σ ε)) :
    Call.ending (s, before) (edit.recorded.calls (s, before) xs) =
      ((Call.ending s (edit.calls s xs)).1,
        ((Call.ending s (edit.calls s xs)).2, before ++ edit.calls s xs)) := by
  induction xs generalizing s before with
  | nil => simp only [calls, Call.ending, List.append_nil]
  | cons x xs ih =>
    have same := call_recorded edit s (faithful x List.mem_cons_self) before
    have later := fun s before => ih s (fun y member => faithful y (List.mem_cons_of_mem x member)) before
    cases outcome : (edit.call s x).outcome with
    | ok =>
      have succeeded : (edit.recorded.call (s, before) x).Succeeded := by
        rw [Call.Succeeded, same]
        exact outcome
      rw [calls_of_success outcome, calls_of_success succeeded, Call.ending_of_success outcome,
        Call.ending_of_success succeeded]
      simp only [same, later, List.append_assoc, List.singleton_append]
    | error cause =>
      have failed : (edit.recorded.call (s, before) x).outcome = .error cause := by
        rw [same]
        exact outcome
      rw [calls_of_failure outcome, calls_of_failure failed, Call.ending_of_failure outcome,
        Call.ending_of_failure failed]
      simp only [same]

end Editor
end AuthSigner
