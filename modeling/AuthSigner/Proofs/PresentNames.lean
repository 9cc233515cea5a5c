import Mathlib.Data.List.Pairwise
import AuthSigner.Command.Environment

/-! The present names of variables. A table of renamed variables whose names are all different can be
worked through in any order: each variable takes its value from its own names, the latest that is
set, and nothing else in the environment changes. -/
namespace AuthSigner

namespace RenamedVariable

/-- All names of a variable, the present one first and then the former ones, the latest first. -/
def names (v : RenamedVariable) : List String := v.name :: v.formerNames

/-- The value of a variable under the latest of its names that is set. -/
def value? (v : RenamedVariable) (env : Environment) : Option String := v.names.findSome? env

/-- Two variables have no name in common. -/
def Apart (v w : RenamedVariable) : Prop := ∀ name ∈ v.names, name ∉ w.names

instance (v w : RenamedVariable) : Decidable (v.Apart w) :=
  inferInstanceAs (Decidable (∀ name ∈ v.names, name ∉ w.names))

variable {env env' : Environment} {v w : RenamedVariable} {name : String} {table order : List RenamedVariable}

theorem Apart.symm (apart : v.Apart w) : w.Apart v := fun name own other => apart name other own

theorem name_mem_names (v : RenamedVariable) : v.name ∈ v.names := List.mem_cons_self

/-- The value depends on the names of the variable only. -/
theorem value_congr (same : ∀ name ∈ v.names, env' name = env name) : v.value? env' = v.value? env := by
  have alike : ∀ names : List String, (∀ name ∈ names, env' name = env name) →
      names.findSome? env' = names.findSome? env := by
    intro names
    induction names with
    | nil => exact fun _ => rfl
    | cons name names ih =>
      intro same
      have later := ih fun name member => same name (List.mem_cons_of_mem _ member)
      rw [List.findSome?_cons, List.findSome?_cons, same name List.mem_cons_self, later]
  exact alike v.names same

theorem value_eq_none_iff : v.value? env = none ↔ ∀ name ∈ v.names, env name = none :=
  List.findSome?_eq_none_iff

/-! ## One variable -/

theorem adopt_name (env : Environment) (v : RenamedVariable) : adopt env v v.name = v.value? env := by
  unfold adopt value? names
  rw [List.findSome?_cons]
  cases former : v.formerNames.findSome? env with
  | none =>
    cases present : env v.name with
    | none => exact present
    | some own => exact present
  | some value =>
    simp only [Environment.setDefault]
    cases present : env v.name with
    | none => exact if_pos rfl
    | some own => exact present

theorem adopt_other (other : name ≠ v.name) : adopt env v name = env name := by
  unfold adopt
  cases v.formerNames.findSome? env with
  | none => rfl
  | some value =>
    simp only [Environment.setDefault]
    by_cases present : (env v.name).isSome = true
    · rw [if_pos present]
    · rw [if_neg present]
      exact if_neg other

/-! ## A table of variables -/

theorem foldl_adopt_other (untouched : ∀ v ∈ table, name ≠ v.name) :
    table.foldl adopt env name = env name := by
  induction table generalizing env with
  | nil => rfl
  | cons w later ih =>
    rw [List.foldl_cons, ih fun v member => untouched v (List.mem_cons_of_mem _ member),
      adopt_other (untouched w List.mem_cons_self)]

/-- Each variable of a table ends up with its value in the environment at the start. -/
theorem foldl_adopt_name (apart : table.Pairwise Apart) (member : v ∈ table) :
    table.foldl adopt env v.name = v.value? env := by
  induction table generalizing env with
  | nil => cases member
  | cons w later ih =>
    obtain ⟨first, rest⟩ := List.pairwise_cons.mp apart
    rcases List.mem_cons.mp member with rfl | member
    · have untouched : ∀ u ∈ later, v.name ≠ u.name := by
        intro u listed same
        exact first u listed v.name v.name_mem_names (same ▸ u.name_mem_names)
      rw [List.foldl_cons, foldl_adopt_other untouched, adopt_name]
    · rw [List.foldl_cons, ih rest member]
      apply value_congr
      intro name own
      apply adopt_other
      rintro rfl
      exact first v member w.name w.name_mem_names own

/-- The order of a table does not matter. -/
theorem foldl_adopt_perm (apart : table.Pairwise Apart) (reordered : order.Perm table) :
    order.foldl adopt env = table.foldl adopt env := by
  have apart' : order.Pairwise Apart := (reordered.pairwise_iff fun {_ _} => Apart.symm).mpr apart
  funext name
  by_cases target : ∃ v ∈ table, name = v.name
  · obtain ⟨v, member, rfl⟩ := target
    rw [foldl_adopt_name apart member, foldl_adopt_name apart' (reordered.mem_iff.mpr member)]
  · have untouched : ∀ v ∈ table, name ≠ v.name := fun v member same => target ⟨v, member, same⟩
    rw [foldl_adopt_other untouched, foldl_adopt_other fun v member => untouched v (reordered.mem_iff.mp member)]

/-- A variable that has no value under its present name has none under its former ones. -/
theorem foldl_adopt_former (apart : table.Pairwise Apart) (member : v ∈ table) (unset : v.value? env = none)
    (own : name ∈ v.names) : table.foldl adopt env name = none := by
  have before : env name = none := value_eq_none_iff.mp unset name own
  by_cases target : ∃ w ∈ table, name = w.name
  · obtain ⟨w, listed, rfl⟩ := target
    rw [foldl_adopt_name apart listed]
    by_cases same : w = v
    · rw [same, unset]
    · have : Std.Symm Apart := ⟨fun _ _ => Apart.symm⟩
      have distinct : w.Apart v := apart.forall listed member same
      exact absurd own (distinct w.name w.name_mem_names)
  · rw [foldl_adopt_other fun w listed same => target ⟨w, listed, same⟩, before]

/-- A table that is worked through has nothing more to do. -/
theorem foldl_adopt_twice (apart : table.Pairwise Apart) :
    table.foldl adopt (table.foldl adopt env) = table.foldl adopt env := by
  funext name
  by_cases target : ∃ v ∈ table, name = v.name
  · obtain ⟨v, member, rfl⟩ := target
    have once : table.foldl adopt env v.name = v.value? env := foldl_adopt_name apart member
    have twice : table.foldl adopt (table.foldl adopt env) v.name = v.value? (table.foldl adopt env) :=
      foldl_adopt_name apart member
    rw [twice, once]
    cases value : v.value? env with
    | none => exact value_eq_none_iff.mpr fun name own => foldl_adopt_former apart member value own
    | some text =>
      have present : table.foldl adopt env v.name = some text := once.trans value
      rw [value?, names, List.findSome?_cons, present]
  · have untouched : ∀ v ∈ table, name ≠ v.name := fun v member same => target ⟨v, member, same⟩
    exact foldl_adopt_other untouched

theorem all_apart : all.Pairwise Apart := by decide +kernel

end RenamedVariable
end AuthSigner
