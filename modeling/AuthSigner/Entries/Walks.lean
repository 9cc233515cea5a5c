import AuthSigner.Entries.Cursor

/-! Several walks over the entries of one transaction. A walk can be copied wherever it stands,
and then there is one more, which is advanced on its own. Walks go by their numbers, in the
order in which they came about. -/
namespace AuthSigner

/-- What is done with a walk. -/
inductive WalkAction where
  /-- Take the next entry. -/
  | next
  /-- Take all entries that are left. -/
  | rest
  /-- Count the entries that are left, without taking them. -/
  | count
  /-- Copy the walk. -/
  | clone
deriving DecidableEq

/-- What is seen of it. -/
inductive WalkAnswer where
  | entry (next : Option LocatedEntry)
  | entries (rest : List LocatedEntry)
  | number (left : Nat)
  /-- The number of the copy. -/
  | copy (walk : Nat)

/-- An action on the walk with a number. -/
structure WalkStep where
  walk : Nat
  action : WalkAction
deriving DecidableEq

/-- Walks by their numbers. -/
abbrev Walks := List Cursor

namespace Walks

/-- One step, with its answer and the walks after it. No step is made on a walk that there is not. -/
def step (walks : Walks) (s : WalkStep) : Option (WalkAnswer × Walks) :=
  (walks[s.walk]?).map fun cursor =>
    match s.action with
    | .next => (.entry cursor.next.1, walks.set s.walk cursor.next.2)
    | .rest => (.entries cursor.drain.1, walks.set s.walk cursor.drain.2)
    | .count => (.number cursor.rest.length, walks)
    | .clone => (.copy walks.length, walks ++ [cursor])

/-- Steps in a row, with their answers and the walks after the last one. -/
def run (walks : Walks) : List WalkStep → Option (List WalkAnswer × Walks)
  | [] => some ([], walks)
  | s :: later => do
    let (answer, between) ← walks.step s
    let (answers, last) ← run between later
    return (answer :: answers, last)

end Walks
end AuthSigner
