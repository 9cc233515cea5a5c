import AuthSigner.Entries.Walks
import AuthSigner.Proofs.EditSemantics

/-! Walks that do not disturb each other. Each walk stands for the entries it has not given
yet, a suffix of all entries, and what a step shows and leaves is told by these lists alone.
Different pairs of indices may stand for the same suffix, so walks are compared by what is
ahead of them and not by where they stand. -/
namespace AuthSigner

/-- Of each walk the entries that it has not given yet. -/
abbrev Remainders := List (List LocatedEntry)

namespace Remainders

/-- What a step shows, and what it leaves. -/
def step (remainders : Remainders) (s : WalkStep) : Option (WalkAnswer × Remainders) :=
  (remainders[s.walk]?).map fun xs =>
    match s.action with
    | .next => (.entry xs.head?, remainders.set s.walk xs.tail)
    | .rest => (.entries xs, remainders.set s.walk [])
    | .count => (.number xs.length, remainders)
    | .clone => (.copy remainders.length, remainders ++ [xs])

/-- The same for steps in a row. -/
def run (remainders : Remainders) : List WalkStep → Option (List WalkAnswer × Remainders)
  | [] => some ([], remainders)
  | s :: later => do
    let (answer, between) ← remainders.step s
    let (answers, last) ← run between later
    return (answer :: answers, last)

variable {all : List LocatedEntry} {remainders after : Remainders}

/-- A step leaves suffixes where there were suffixes. -/
theorem suffix_of_step {s : WalkStep} {answer : WalkAnswer} (before : ∀ xs ∈ remainders, xs <:+ all)
    (stepped : remainders.step s = some (answer, after)) : ∀ xs ∈ after, xs <:+ all := by
  obtain ⟨own, found, outcome⟩ := Option.map_eq_some_iff.mp stepped
  have suffix : own <:+ all := before own (List.mem_of_getElem? found)
  intro xs member
  cases action : s.action <;> rw [action] at outcome <;> cases outcome
  case next =>
    rcases List.mem_or_eq_of_mem_set member with old | rfl
    · exact before xs old
    · exact (List.tail_suffix own).trans suffix
  case rest =>
    rcases List.mem_or_eq_of_mem_set member with old | rfl
    · exact before xs old
    · exact List.nil_suffix
  case count => exact before xs member
  case clone =>
    rcases List.mem_append.mp member with old | new
    · exact before xs old
    · rw [List.mem_singleton.mp new]
      exact suffix

theorem suffix_of_run {steps : List WalkStep} {answers : List WalkAnswer}
    (before : ∀ xs ∈ remainders, xs <:+ all) (ran : remainders.run steps = some (answers, after)) :
    ∀ xs ∈ after, xs <:+ all := by
  induction steps generalizing remainders answers with
  | nil =>
    cases ran
    exact before
  | cons s later ih =>
    obtain ⟨⟨answer, between⟩, first, ran⟩ := Option.bind_eq_some_iff.mp ran
    obtain ⟨⟨others, last⟩, second, made⟩ := Option.bind_eq_some_iff.mp ran
    cases made
    exact ih (suffix_of_step before first) second

end Remainders

/-- Taking all that is left leaves nothing ahead. -/
theorem Cursor.ahead_of_drained (c : Cursor) : c.drain.2.ahead = [] := by
  fun_induction drain c with
  | case1 c after found =>
    obtain ⟨head, tail⟩ := next_takes_head c
    rw [found] at head tail
    rw [tail, List.head?_eq_none_iff.mp head.symm]
    rfl
  | case2 c x after found xs last walked ih =>
    rw [walked] at ih
    exact ih

namespace Walks

/-- What the walks stand for. -/
def remainders (walks : Walks) : Remainders := walks.map Cursor.ahead

/-- A step of the walks is a step of what they stand for. -/
theorem step_remainders (walks : Walks) (s : WalkStep) :
    (walks.step s).map (Prod.map id remainders) = walks.remainders.step s := by
  unfold step Remainders.step remainders
  rw [List.getElem?_map]
  cases walks[s.walk]? with
  | none => rfl
  | some c =>
    obtain ⟨head, tail⟩ := c.next_takes_head
    have all : c.drain.1 = c.ahead := c.rest_eq_ahead
    have none := c.ahead_of_drained
    cases s.action with
    | next => simp only [Option.map_some, Prod.map_apply, id_eq, List.map_set, head, tail]
    | rest => simp only [Option.map_some, Prod.map_apply, id_eq, List.map_set, all, none]
    | count => simp only [Option.map_some, Prod.map_apply, id_eq, c.rest_eq_ahead]
    | clone => simp only [Option.map_some, Prod.map_apply, id_eq, List.length_map, List.map_append,
        List.map_cons, List.map_nil]

theorem run_remainders (walks : Walks) (steps : List WalkStep) :
    (walks.run steps).map (Prod.map id remainders) = walks.remainders.run steps := by
  induction steps generalizing walks with
  | nil => rfl
  | cons s later ih =>
    rw [run, Remainders.run, ← step_remainders]
    cases walks.step s with
    | none => rfl
    | some first =>
      obtain ⟨answer, between⟩ := first
      simp only [Option.map_some, Option.bind_eq_bind, Option.bind_some, Prod.map_apply, id_eq, ← ih]
      cases between.run later <;> rfl

/-- A step on one walk leaves every other one where it stands. -/
theorem step_elsewhere {walks after : Walks} {s : WalkStep} {answer : WalkAnswer} {c : Cursor} {i : Nat}
    (stepped : walks.step s = some (answer, after)) (other : i ≠ s.walk) (there : walks[i]? = some c) :
    after[i]? = some c := by
  obtain ⟨own, _, outcome⟩ := Option.map_eq_some_iff.mp stepped
  cases action : s.action <;> rw [action] at outcome <;> cases outcome
  case next => rwa [List.getElem?_set_ne other.symm]
  case rest => rwa [List.getElem?_set_ne other.symm]
  case count => exact there
  case clone =>
    have bound := (List.getElem?_eq_some_iff.mp there).1
    rwa [List.getElem?_append_left bound]

end Walks

/-- Walks over one envelope are independent. From the walk that locating gives, let steps be taken
in any order on it and on its copies. Whether they can be taken, what they show and what is left
of each walk is what it is for lists that begin with all address entries: a next entry is the
head of its list, which is dropped, and at the end there is none; taking the rest gives
the list and empties it; counting gives its length; and a copy has the same list. Every walk that is
reached stands for a suffix of the address entries, which it gives if it is walked to the end,
and no step moves any walk but its own. -/
theorem walks_stand_for_suffixes (signed : SignedTransaction) (steps : List WalkStep) :
    ∃ walk, (Envelope.v1 signed).locate = .ok walk ∧
      (Walks.run [walk] steps).map (Prod.map id Walks.remainders) =
        Remainders.run [signed.transaction.addressEntries] steps ∧
      ∀ answers walks, Walks.run [walk] steps = some (answers, walks) →
        (∀ c ∈ walks, c.ahead <:+ signed.transaction.addressEntries ∧ c.rest = c.ahead) ∧
        ∀ (s : WalkStep) answer after, Walks.step walks s = some (answer, after) →
          ∀ i c, i ≠ s.walk → walks[i]? = some c → after[i]? = some c := by
  refine ⟨_, locate_v1 signed, ?_⟩
  have start : Walks.remainders [.ofTransaction signed.transaction] = [signed.transaction.addressEntries] := by
    rw [← Cursor.rest_ofTransaction, Cursor.rest_eq_ahead]
    rfl
  have follows := Walks.run_remainders [.ofTransaction signed.transaction] steps
  rw [start] at follows
  refine ⟨follows, ?_⟩
  intro answers walks ran
  constructor
  · intro c member
    rw [ran] at follows
    have whole : ∀ xs ∈ [signed.transaction.addressEntries], xs <:+ signed.transaction.addressEntries :=
      List.forall_mem_singleton.mpr List.suffix_rfl
    have suffixes := Remainders.suffix_of_run whole follows.symm
    exact ⟨suffixes c.ahead (List.mem_map_of_mem member), c.rest_eq_ahead⟩
  · intro s answer after stepped i c other there
    exact Walks.step_elsewhere stepped other there

namespace Sample

/-- The address entry in the first operation. -/
def earlierEntry : LocatedEntry := ⟨⟨0, 1⟩, ⟨.address (unsigned 1), invocation⟩, unsigned 1⟩

/-- The address entry in the last operation. -/
def laterEntry : LocatedEntry := ⟨⟨2, 0⟩, ⟨.address (unsigned 2), invocation⟩, unsigned 2⟩

/-- A walk is copied after its first entry. It is walked to its end, and so is the copy. -/
def strolls : List WalkStep :=
  [⟨0, .next⟩, ⟨0, .clone⟩, ⟨0, .rest⟩, ⟨1, .count⟩, ⟨0, .next⟩, ⟨1, .next⟩, ⟨1, .next⟩]

end Sample

theorem walks_stand_for_suffixes_mixed :
    ∃ walk walks, (Envelope.v1 Sample.mixed).locate = .ok walk ∧
      Walks.run [walk] Sample.strolls =
        some ([.entry (some Sample.earlierEntry), .copy 1, .entries [Sample.laterEntry], .number 1, .entry none,
          .entry (some Sample.laterEntry), .entry none], walks) ∧
      walks.map Cursor.rest = [[], []] ∧
      ∃ c, walks[1]? = some c ∧
        ∀ answer after, Walks.step walks ⟨0, .rest⟩ = some (answer, after) → after[1]? = some c := by
  obtain ⟨walk, found, follows, reached⟩ := walks_stand_for_suffixes Sample.mixed Sample.strolls
  obtain ⟨⟨answers, walks⟩, ran, outcome⟩ := Option.map_eq_some_iff.mp follows
  obtain ⟨shown, left⟩ := Prod.mk.inj outcome
  cases (show _ = answers from shown.symm)
  obtain ⟨each, apart⟩ := reached _ _ ran
  have ended : walks.map Cursor.rest = [[], []] :=
    (List.map_congr_left fun c member => (each c member).2).trans left
  obtain ⟨c, later, rfl, _, more⟩ := List.map_eq_cons_iff.mp ended
  obtain ⟨d, none, rfl, _, _⟩ := List.map_eq_cons_iff.mp more
  refine ⟨walk, _, found, ran, ended, d, rfl, ?_⟩
  intro answer after stepped
  exact apart _ _ _ stepped 1 d (by decide) rfl

end AuthSigner
