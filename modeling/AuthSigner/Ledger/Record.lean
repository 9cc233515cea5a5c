import AuthSigner.Ledger.Value
import AuthSigner.Xdr.Text

/-! Records, the way contracts keep them: maps from the names of their fields. The names are symbols,
which are short, and the fields stand in the order of their names, none of them twice. -/
namespace AuthSigner.Value
open Xdr

/-- The most bytes that a symbol has. -/
def symbolLimit : Nat := 32

/-- A byte string as a value, if it is not too long. -/
def ofBytes (data : Bytes) : Except DecodeError Value :=
  if data.length ≤ unbounded then .ok (.scalar (.bytes data)) else .error .lengthExceedsMax

/-- A field of a record as an entry of a map. -/
def fieldEntry (field : Bytes × Value) : Value × Value := (.scalar (.symbol field.1), field.2)

/-- The names of the fields ascend, byte by byte. -/
def Ascending (fields : List (Bytes × Value)) : Prop := fields.Pairwise fun f g => f.1 < g.1

instance (fields : List (Bytes × Value)) : Decidable (Ascending fields) :=
  inferInstanceAs (Decidable (fields.Pairwise _))

/-- The record of some fields, which may be given in any order. A name may not be too long and may not
come twice. -/
def record (fields : List (Bytes × Value)) : Except DecodeError Value :=
  if fields.any fun field => symbolLimit < field.1.length then .error .lengthExceedsMax
  else if unbounded < fields.length then .error .lengthExceedsMax
  else
    let sorted := fields.mergeSort fun f g => !decide (g.1 < f.1)
    if Ascending sorted then .ok (.map (some (sorted.map fieldEntry))) else .error .invalid

theorem ofBytes_of_short {data : Bytes} (short : data.length ≤ unbounded) :
    ofBytes data = .ok (.scalar (.bytes data)) := if_pos short

/-- Fields that are given in their order stay in it. -/
theorem record_of_ascending {fields : List (Bytes × Value)} (ascending : Ascending fields)
    (short : ∀ field ∈ fields, field.1.length ≤ symbolLimit) (few : fields.length ≤ unbounded) :
    record fields = .ok (.map (some (fields.map fieldEntry))) := by
  have named : ¬ (fields.any fun field => symbolLimit < field.1.length) = true := by
    intro long
    obtain ⟨field, member, exceeds⟩ := List.any_eq_true.mp long
    exact absurd (of_decide_eq_true exceeds) (Nat.not_lt.mpr (short field member))
  have sorted : fields.mergeSort (fun f g => !decide (g.1 < f.1)) = fields := by
    apply List.mergeSort_of_pairwise
    apply ascending.imp
    intro f g before
    rw [decide_eq_false (List.lt_asymm before), Bool.not_false]
  rw [record, if_neg named, if_neg (Nat.not_lt.mpr few)]
  simp only [sorted, if_pos ascending]

end AuthSigner.Value
