import AuthSigner.Entries.Cursor

/-! What a cursor still has before it. The pair of indices where a walk goes on
stands for a suffix of the transaction's address entries, and one step takes the
head of that suffix, whatever it has to pass over on the way. -/
namespace AuthSigner

/-- The address entries of operations the first of which has the index `index`. -/
def addressEntriesIn (index : Nat) (operations : List Operation) : List LocatedEntry :=
  (operations.zipIdx index).flatMap fun (o, i) => addressEntriesFrom i 0 o.auth

@[simp] theorem addressEntriesIn_nil (index : Nat) : addressEntriesIn index [] = [] := rfl

@[simp] theorem addressEntriesIn_cons (index : Nat) (o : Operation) (later : List Operation) :
    addressEntriesIn index (o :: later) =
      addressEntriesFrom index 0 o.auth ++ addressEntriesIn (index + 1) later := rfl

theorem addressEntries_eq (t : Transaction) : t.addressEntries = addressEntriesIn 0 t.operations := rfl

namespace Cursor

/-- The entries that are not behind the cursor, told from its indices alone. -/
def ahead (c : Cursor) : List LocatedEntry :=
  match c.operations.drop c.operation with
  | [] => []
  | o :: later =>
    addressEntriesFrom c.operation c.entry (o.auth.drop c.entry) ++
      addressEntriesIn (c.operation + 1) later

private theorem drop_of_some {α : Type} {xs : List α} {i : Nat} {x : α} (here : xs[i]? = some x) :
    xs.drop i = x :: xs.drop (i + 1) := by
  obtain ⟨bound, rfl⟩ := List.getElem?_eq_some_iff.mp here
  exact List.drop_eq_getElem_cons bound

private theorem drop_of_none {α : Type} {xs : List α} {i : Nat} (past : xs[i]? = none) :
    xs.drop i = [] :=
  List.drop_eq_nil_of_le (List.getElem?_eq_none_iff.mp past)

theorem ahead_of_operation (c : Cursor) {o : Operation} (here : c.operations[c.operation]? = some o) :
    c.ahead = addressEntriesFrom c.operation c.entry (o.auth.drop c.entry) ++
      addressEntriesIn (c.operation + 1) (c.operations.drop (c.operation + 1)) := by
  simp only [ahead, drop_of_some here]

/-- At the start of an operation, all entries from that operation on are ahead. -/
theorem ahead_at_start (operations : List Operation) (index : Nat) :
    (⟨operations, index, 0⟩ : Cursor).ahead = addressEntriesIn index (operations.drop index) := by
  unfold ahead
  cases operations.drop index with
  | nil => rfl
  | cons o later => rfl

/-- A step gives the head of what is ahead and leaves its tail ahead. -/
theorem next_takes_head (c : Cursor) :
    c.next.1 = c.ahead.head? ∧ c.next.2.ahead = c.ahead.tail := by
  fun_induction next c with
  | case1 c past => simp [ahead, drop_of_none past]
  | case2 c o here exhausted ih =>
    -- the operation has no entries left, so the walk goes on at the start of the next one
    have same : c.ahead = ({ c with operation := c.operation + 1, entry := 0 } : Cursor).ahead := by
      rw [ahead_of_operation c here, ahead_at_start, drop_of_none exhausted]
      rfl
    rw [same]
    exact ih
  | case3 c o here e found credentials owner =>
    rw [ahead_of_operation c here, drop_of_some found,
      ahead_of_operation { c with entry := c.entry + 1 } here]
    simp [addressEntriesFrom, owner]
  | case4 c o here e found owner ih =>
    have same : c.ahead = ({ c with entry := c.entry + 1 } : Cursor).ahead := by
      rw [ahead_of_operation c here, drop_of_some found,
        ahead_of_operation { c with entry := c.entry + 1 } here]
      simp [addressEntriesFrom, owner]
    rw [same]
    exact ih

/-- Walking to the end gives all that is ahead. -/
theorem rest_eq_ahead (c : Cursor) : c.rest = c.ahead := by
  unfold rest
  fun_induction drain c with
  | case1 c after found =>
    have head := (next_takes_head c).1
    rw [found] at head
    exact (List.head?_eq_none_iff.mp head.symm).symm
  | case2 c x after found xs last walked ih =>
    obtain ⟨head, tail⟩ := next_takes_head c
    rw [found] at head tail
    rw [walked] at ih
    cases front : c.ahead with
    | nil => simp [front] at head
    | cons y later =>
      simp only [front, List.head?_cons, Option.some.injEq, List.tail_cons] at head tail
      rw [head, show xs = later from ih.trans tail]

/-- The walk over a transaction gives its address entries. -/
theorem rest_ofTransaction (t : Transaction) : (ofTransaction t).rest = t.addressEntries := by
  rw [rest_eq_ahead, ofTransaction, ahead_at_start, List.drop_zero, addressEntries_eq]

end Cursor

/-- An envelope of the supported kind is walked over its transaction. -/
theorem locate_v1 (signed : SignedTransaction) :
    (Envelope.v1 signed).locate = .ok (.ofTransaction signed.transaction) := rfl

end AuthSigner
