import AuthSigner.Ledger.Claim
import AuthSigner.Ledger.Invocation
import AuthSigner.Proofs.PlainFormats

/-! The laws of the formats that nest: contract values, invocations, and conditions of
claims. What each writes and what fits are told by recursion on the value itself; both
are those of one layer around the same format. -/
namespace AuthSigner
open Xdr

variable {depth bound : Nat} {α β : Type}

/-- Writing the values of a list one after the other. -/
theorem eq_flatMap {write : α → List β} {writeAll : List α → List β} (nil : writeAll [] = [])
    (cons : ∀ x xs, writeAll (x :: xs) = write x ++ writeAll xs) (xs : List α) :
    writeAll xs = xs.flatMap write := by
  induction xs with
  | nil => rw [nil, List.flatMap_nil]
  | cons x xs ih => rw [cons, ih, List.flatMap_cons]

/-- Bounding the values of a list one after the other. -/
theorem iff_forall_mem {Fits : α → Prop} {AllFit : List α → Prop} (nil : AllFit [])
    (cons : ∀ x xs, AllFit (x :: xs) ↔ Fits x ∧ AllFit xs) (xs : List α) :
    AllFit xs ↔ ∀ x ∈ xs, Fits x := by
  induction xs with
  | nil => exact ⟨fun _ => List.forall_mem_nil _, fun _ => nil⟩
  | cons x xs ih => rw [cons, ih, List.forall_mem_cons]

namespace Value

theorem writeItems_eq (items : List Value) : writeItems items = items.flatMap write :=
  eq_flatMap rfl (fun _ _ => by rw [writeItems]) items

theorem writeEntries_eq (entries : List (Value × Value)) :
    writeEntries entries = entries.flatMap fun x => x.1.write ++ x.2.write :=
  eq_flatMap rfl (fun _ _ => by rw [writeEntries]) entries

theorem itemsFit_iff (items : List Value) : ItemsFit items ↔ ∀ v ∈ items, v.Fits :=
  iff_forall_mem trivial (fun _ _ => by rw [ItemsFit]) items

theorem entriesFit_iff (entries : List (Value × Value)) :
    EntriesFit entries ↔ ∀ x ∈ entries, x.1.Fits ∧ x.2.Fits :=
  iff_forall_mem trivial (fun _ _ => by rw [EntriesFit, and_assoc]) entries

theorem layer_write (n : Nat) (v : Value) : (layer (codec.upTo n)).write v = v.write := by
  cases v with
  | scalar s => cases s <;> rfl
  | vec items =>
    cases items with
    | none => rfl
    | some items =>
      rw [write, writeItems_eq]
      rfl
  | map entries =>
    cases entries with
    | none => rfl
    | some entries =>
      rw [write, writeEntries_eq]
      rfl
  | contractInstance executable storage =>
    cases storage with
    | none => rfl
    | some entries =>
      rw [write, writeEntries_eq]
      rfl

theorem fits_scalarArms (v : Value) :
    (Codec.union scalarArms).Fits v ↔ ∃ s, v = .scalar s ∧ Scalar.codec.Fits s := by
  constructor
  · rintro ⟨_, member, belongs⟩
    obtain ⟨arm, plain, rfl⟩ := List.mem_map.mp member
    obtain ⟨s, taken, fits⟩ := belongs
    cases v with
    | scalar s' => exact ⟨s', rfl, arm, plain, Option.some.inj taken ▸ fits⟩
    | vec _ => cases taken
    | map _ => cases taken
    | contractInstance _ _ => cases taken
  · rintro ⟨s, rfl, arm, plain, fits⟩
    exact ⟨_, List.mem_map_of_mem plain, s, rfl, fits⟩

theorem layer_fits (n : Nat) (v : Value) : (layer (codec.upTo n)).Fits v ↔ v.Fits := by
  rw [layer, arms, Codec.union_fits_append, fits_scalarArms]
  simp only [Codec.union_fits_cons, Codec.union_fits_nil, Arm.of]
  cases v with
  | scalar s => simp [Fits]
  | vec items => cases items <;> simp [Fits, itemsFit_iff, Codec.option, Codec.list, Codec.upTo, codec]
  | map entries =>
    cases entries <;> simp [Fits, entriesFit_iff, Codec.option, Codec.list, Codec.pair, Codec.upTo, codec]
  | contractInstance executable storage =>
    cases storage <;> simp [Fits, entriesFit_iff, Codec.option, Codec.list, Codec.pair, Codec.upTo, codec]

theorem arms_exclusive (inner : Codec Value) (v : Value) : Codec.Exclusive (arms inner) v := by
  cases v with
  | scalar s => cases s <;> exact Nat.le_refl 1
  | vec _ => exact Nat.le_refl 1
  | map _ => exact Nat.le_refl 1
  | contractInstance _ _ => exact Nat.le_refl 1

theorem layer_lawful {inner : Codec Value} (lawful : inner.Lawful depth bound) :
    (layer inner).Lawful depth (bound + 4) := by
  have tagged : Codec.Tagged (arms codec) := by decide
  have items : (Codec.list unbounded inner).Lawful depth bound := lawful.list
  have entries : (Codec.list unbounded (inner.pair inner)).Lawful depth bound :=
    (lawful.pair lawful).list
  refine .union_deep (List.forall_mem_append.mpr ⟨?_, ?_⟩) tagged (arms_exclusive inner)
  · intro _ member
    obtain ⟨arm, plain, rfl⟩ := List.mem_map.mp member
    exact .within (Scalar.arms_lawful arm plain) ⟨fun _ => rfl, by rintro ⟨⟩ ⟨⟩; rfl⟩
  · simp only [List.forall_mem_cons]
    refine ⟨.of items.option ?_, .of entries.option ?_, .of (Executable.lawful.pair entries.option) ?_,
      List.forall_mem_nil _⟩
    all_goals exact ⟨by intros; rfl, by rintro ⟨⟩ ⟨⟩; rfl⟩

theorem write_nonempty (v : Value) : 0 < v.write.length := by
  cases v with
  | scalar s => cases s <;> exact Nat.succ_pos _
  | vec items => cases items <;> exact Nat.succ_pos _
  | map entries => cases entries <;> exact Nat.succ_pos _
  | contractInstance _ storage => cases storage <;> exact Nat.succ_pos _

theorem lawful : Value.codec.Lawful depth (4 * depth) :=
  .nested layer rfl (fun _ => Codec.union_read_congr rfl) layer_write layer_fits
    (fun v _ => write_nonempty v) fun _ _ => layer_lawful

end Value

namespace ClaimPredicate

theorem writeAll_eq (predicates : List ClaimPredicate) : writeAll predicates = predicates.flatMap write :=
  eq_flatMap rfl (fun _ _ => by rw [writeAll]) predicates

theorem allFit_iff (predicates : List ClaimPredicate) : AllFit predicates ↔ ∀ p ∈ predicates, p.Fits :=
  iff_forall_mem trivial (fun _ _ => by rw [AllFit]) predicates

theorem layer_write (n : Nat) (p : ClaimPredicate) : (layer (codec.upTo n)).write p = p.write := by
  cases p with
  | and predicates =>
    rw [write, writeAll_eq]
    rfl
  | or predicates =>
    rw [write, writeAll_eq]
    rfl
  | not predicate => cases predicate <;> rfl
  | _ => rfl

theorem layer_fits (n : Nat) (p : ClaimPredicate) : (layer (codec.upTo n)).Fits p ↔ p.Fits := by
  simp only [layer, arms, Codec.union_fits_cons, Codec.union_fits_nil, Arm.of, Arm.void]
  cases p with
  | not predicate => cases predicate <;> simp [Fits, Codec.option, Codec.upTo, codec]
  | _ => simp [Fits, allFit_iff, Codec.list, Codec.i64, Codec.u64, Codec.imap, Codec.upTo, codec]

theorem layer_lawful {inner : Codec ClaimPredicate} (lawful : inner.Lawful depth bound) :
    (layer inner).Lawful depth (bound + 4) := by
  have tagged : Codec.Tagged (arms codec) := by decide
  refine .union_deep ?_ tagged (by rintro ⟨⟩ <;> exact Nat.le_refl 1)
  simp only [arms, List.forall_mem_cons]
  refine ⟨.void ?_, .of lawful.list ?_, .of lawful.list ?_, .of lawful.option ?_,
    .of .i64 ?_, .of .i64 ?_, List.forall_mem_nil _⟩
  all_goals exact ⟨by intros; rfl, by rintro ⟨⟩ ⟨⟩; rfl⟩

theorem write_nonempty (p : ClaimPredicate) : 0 < p.write.length := by
  cases p with
  | not predicate => cases predicate <;> exact Nat.succ_pos _
  | _ => exact Nat.succ_pos _

theorem lawful : ClaimPredicate.codec.Lawful depth (4 * depth) :=
  .nested layer rfl (fun _ => Codec.union_read_congr rfl) layer_write layer_fits
    (fun p _ => write_nonempty p) fun _ _ => layer_lawful

end ClaimPredicate

theorem ContractCall.lawful : ContractCall.codec.Lawful depth (4 * depth) :=
  (Address.lawful.pair (.pair .bytes Value.lawful.list)).imap (fun _ => rfl) fun _ => rfl

theorem ContractIdPreimage.lawful : ContractIdPreimage.codec.Lawful depth bound := by
  refine .union ?_ (by decide) (by rintro ⟨⟩ <;> exact Nat.le_refl 1)
  simp only [List.forall_mem_cons]
  refine ⟨.of (Address.lawful.pair .octets) ?_, .of Asset.lawful ?_, List.forall_mem_nil _⟩
  all_goals exact ⟨by intros; rfl, by rintro ⟨⟩ ⟨⟩; rfl⟩

theorem ContractCreation.lawful : ContractCreation.codec.Lawful depth bound :=
  (ContractIdPreimage.lawful.pair Executable.lawful).imap (fun _ => rfl) fun _ => rfl

theorem ConstructedCreation.lawful : ConstructedCreation.codec.Lawful depth (4 * depth) :=
  (ContractIdPreimage.lawful.pair (Executable.lawful.pair Value.lawful.list)).imap
    (fun _ => rfl) fun _ => rfl

theorem HostFunction.lawful : HostFunction.codec.Lawful depth (4 * depth) := by
  refine .union ?_ (by decide) (by rintro ⟨⟩ <;> exact Nat.le_refl 1)
  simp only [List.forall_mem_cons]
  refine ⟨.of ContractCall.lawful ?_, .of ContractCreation.lawful ?_, .of .bytes ?_,
    .of ConstructedCreation.lawful ?_, List.forall_mem_nil _⟩
  all_goals exact ⟨by intros; rfl, by rintro ⟨⟩ ⟨⟩; rfl⟩

theorem AuthorizedFunction.lawful : AuthorizedFunction.codec.Lawful depth (4 * depth) := by
  refine .union ?_ (by decide) (by rintro ⟨⟩ <;> exact Nat.le_refl 1)
  simp only [List.forall_mem_cons]
  refine ⟨.of ContractCall.lawful ?_, .of ContractCreation.lawful ?_, .of ConstructedCreation.lawful ?_,
    List.forall_mem_nil _⟩
  all_goals exact ⟨by intros; rfl, by rintro ⟨⟩ ⟨⟩; rfl⟩

namespace Invocation

theorem writeAll_eq (subs : List Invocation) : writeAll subs = subs.flatMap write :=
  eq_flatMap rfl (fun _ _ => by rw [writeAll]) subs

theorem allFit_iff (subs : List Invocation) : AllFit subs ↔ ∀ i ∈ subs, i.Fits :=
  iff_forall_mem trivial (fun _ _ => by rw [AllFit]) subs

theorem layer_write (n : Nat) (i : Invocation) : (layer (codec.upTo n)).write i = i.write := by
  cases i with
  | node function subs =>
    rw [write, writeAll_eq]
    rfl

theorem layer_fits (n : Nat) (i : Invocation) : (layer (codec.upTo n)).Fits i ↔ i.Fits := by
  cases i with
  | node function subs =>
    rw [Fits, allFit_iff]
    exact Iff.rfl

/-- The function of a node leaves room for the count of the nodes below. -/
theorem layer_lawful {n : Nat} {inner : Codec Invocation} (lawful : inner.Lawful n (4 * n)) :
    (layer inner).Lawful n (4 * n + 4) := by
  refine (AuthorizedFunction.lawful.pair_long lawful.list_deep ?_).imap ?_ fun _ => rfl
  · intro subs
    change 4 ≤ (count subs.length ++ subs.flatMap inner.write).length
    rw [List.length_append, Reader.length_count]
    exact Nat.le_add_right 4 _
  · rintro ⟨⟩
    rfl

theorem write_nonempty (i : Invocation) : 0 < i.write.length := by
  cases i with
  | node function subs =>
    rw [write, List.length_append, List.length_append, Reader.length_count]
    omega

theorem lawful : Invocation.codec.Lawful depth (4 * depth) :=
  .nested layer rfl (fun _ => rfl) layer_write layer_fits (fun i _ => write_nonempty i)
    fun _ _ => layer_lawful

end Invocation
end AuthSigner
