import AuthSigner.Entries.Position

/-! A walk over the address entries of a transaction that can stop anywhere and
be resumed, or copied and resumed twice. A cursor is the pair of indices where
the walk goes on. -/
namespace AuthSigner

/-- A walk over the entries of some operations, and where it goes on. -/
structure Cursor where
  operations : List Operation
  operation : Nat
  entry : Nat

namespace Cursor

/-- The walk over a transaction, at its start. -/
def ofTransaction (t : Transaction) : Cursor := ⟨t.operations, 0, 0⟩

/-- The operations that are not behind the cursor, and the entries of the current
one that are not. -/
def remaining (c : Cursor) : Nat × Nat :=
  (c.operations.length - c.operation, ((c.operations[c.operation]?).elim 0 (·.auth.length)) - c.entry)

theorem remaining_nextEntry {c : Cursor} {o : Operation} {e : AuthorizationEntry}
    (here : c.operations[c.operation]? = some o) (found : o.auth[c.entry]? = some e) :
    Prod.Lex (· < ·) (· < ·) ({ c with entry := c.entry + 1 } : Cursor).remaining c.remaining := by
  have bound : c.entry < o.auth.length := (List.getElem?_eq_some_iff.mp found).1
  have same : ({ c with entry := c.entry + 1 } : Cursor).remaining =
      (c.operations.length - c.operation, o.auth.length - (c.entry + 1)) := by simp [remaining, here]
  have before : c.remaining = (c.operations.length - c.operation, o.auth.length - c.entry) := by
    simp [remaining, here]
  rw [same, before]
  exact .right _ (by omega)

theorem remaining_nextOperation {c : Cursor} {o : Operation}
    (here : c.operations[c.operation]? = some o) :
    Prod.Lex (· < ·) (· < ·)
      ({ c with operation := c.operation + 1, entry := 0 } : Cursor).remaining c.remaining := by
  have bound : c.operation < c.operations.length := (List.getElem?_eq_some_iff.mp here).1
  exact .left _ _ (by simp only; omega)

/-- The next address entry, if there is one, and the cursor behind it. Other
entries and other operations are passed over. At the end the cursor stays. -/
def next (c : Cursor) : Option LocatedEntry × Cursor :=
  match _ : c.operations[c.operation]? with
  | none => (none, c)
  | some o =>
    match _ : o.auth[c.entry]? with
    | none => next { c with operation := c.operation + 1, entry := 0 }
    | some e =>
      match e.credentials with
      | .address credentials =>
        (some ⟨⟨c.operation, c.entry⟩, e, credentials⟩, { c with entry := c.entry + 1 })
      | .sourceAccount => next { c with entry := c.entry + 1 }
termination_by c.remaining
decreasing_by
  · exact remaining_nextOperation ‹_›
  · exact remaining_nextEntry ‹_› ‹_›

private theorem lex_trans {a b c : Nat × Nat} (first : Prod.Lex (· < ·) (· < ·) a b)
    (second : Prod.Lex (· < ·) (· < ·) b c) : Prod.Lex (· < ·) (· < ·) a c := by
  cases first with
  | left _ _ less =>
    cases second with
    | left _ _ less' => exact .left _ _ (Nat.lt_trans less less')
    | right _ _ => exact .left _ _ less
  | right _ less =>
    cases second with
    | left _ _ less' => exact .left _ _ less'
    | right _ less' => exact .right _ (Nat.lt_trans less less')

/-- An entry that was found is behind the cursor. -/
theorem remaining_next {c : Cursor} {x : LocatedEntry} (found : c.next.1 = some x) :
    Prod.Lex (· < ·) (· < ·) c.next.2.remaining c.remaining := by
  fun_induction next c with
  | case1 c here => cases found
  | case2 c o here _ ih => exact lex_trans (ih found) (remaining_nextOperation here)
  | case3 c o here e at_ credentials _ => exact remaining_nextEntry here at_
  | case4 c o here e at_ _ ih => exact lex_trans (ih found) (remaining_nextEntry here at_)

/-- Walks to the end: the entries that were still to come, and the cursor there. -/
def drain (c : Cursor) : List LocatedEntry × Cursor :=
  match _ : c.next with
  | (none, after) => ([], after)
  | (some x, after) =>
    let (xs, last) := drain after
    (x :: xs, last)
termination_by c.remaining
decreasing_by
  rename_i found
  have less := remaining_next (congrArg Prod.fst found)
  rwa [found] at less

/-- The entries still to come. -/
def rest (c : Cursor) : List LocatedEntry := c.drain.1

end Cursor

/-- The walk over an envelope's address entries. -/
def Envelope.locate (e : Envelope) : Except UnsupportedEnvelope Cursor := do
  return .ofTransaction (← e.signed).transaction

end AuthSigner
