import AuthSigner.Proofs.CanonicalLaws
import AuthSigner.Proofs.NestedFormats

/-! The formats of contract values and of invocations are canonical, and which booleans
those hold. Booleans are contract values only, so they stand in the arguments of calls
and constructors, in signatures, and in the keys of contract data. -/
namespace AuthSigner
open Xdr

theorem Hash.canonical : Hash.codec.Canonical fun _ => [] := .octets

theorem AccountId.canonical : AccountId.codec.Canonical fun _ => [] :=
  (Codec.Canonical.only .octets).imap (fun _ => rfl) fun _ => rfl

theorem MuxedAccount.canonical : MuxedAccount.codec.Canonical fun _ => [] := by
  refine .union ?_ (by rintro ⟨⟩ <;> exact Nat.le_refl 1)
  simp only [List.forall_mem_cons]
  refine ⟨.of .octets ?_, .of (.pair .u64 .octets) ?_, List.forall_mem_nil _⟩
  all_goals exact ⟨by intros; rfl, by intros; rfl⟩

theorem SignerKey.canonical : SignerKey.codec.Canonical fun _ => [] := by
  refine .union ?_ (by rintro ⟨⟩ <;> exact Nat.le_refl 1)
  simp only [List.forall_mem_cons]
  refine ⟨.of .octets ?_, .of .octets ?_, .of .octets ?_, .of (.pair .octets .bytes) ?_,
    List.forall_mem_nil _⟩
  all_goals exact ⟨by intros; rfl, by intros; rfl⟩

theorem WeightedSigner.canonical : WeightedSigner.codec.Canonical fun _ => [] :=
  (SignerKey.canonical.pair .u32).imap (fun _ => rfl) fun _ => rfl

theorem AlphaNum4.canonical : AlphaNum4.codec.Canonical fun _ => [] :=
  (Codec.Canonical.octets.pair AccountId.canonical).imap (fun _ => rfl) fun _ => rfl

theorem AlphaNum12.canonical : AlphaNum12.codec.Canonical fun _ => [] :=
  (Codec.Canonical.octets.pair AccountId.canonical).imap (fun _ => rfl) fun _ => rfl

theorem Asset.canonical : Asset.codec.Canonical fun _ => [] := by
  refine .union ?_ (by rintro ⟨⟩ <;> exact Nat.le_refl 1)
  simp only [List.forall_mem_cons]
  refine ⟨.void ?_, .of AlphaNum4.canonical ?_, .of AlphaNum12.canonical ?_, List.forall_mem_nil _⟩
  all_goals exact ⟨by intros; rfl, by intros; rfl⟩

theorem AssetCode.canonical : AssetCode.codec.Canonical fun _ => [] := by
  refine .union ?_ (by rintro ⟨⟩ <;> exact Nat.le_refl 1)
  simp only [List.forall_mem_cons]
  refine ⟨.of .octets ?_, .of .octets ?_, List.forall_mem_nil _⟩
  all_goals exact ⟨by intros; rfl, by intros; rfl⟩

theorem Price.canonical : Price.codec.Canonical fun _ => [] :=
  (Codec.Canonical.i32.pair .i32).imap (fun _ => rfl) fun _ => rfl

theorem ConstantProductPool.canonical : ConstantProductPool.codec.Canonical fun _ => [] :=
  (Codec.Canonical.only (Asset.canonical.pair (Asset.canonical.pair .i32))).imap
    (fun _ => rfl) fun _ => rfl

theorem ChangeTrustAsset.canonical : ChangeTrustAsset.codec.Canonical fun _ => [] := by
  refine .union ?_ (by rintro ⟨⟩ <;> exact Nat.le_refl 1)
  simp only [List.forall_mem_cons]
  refine ⟨.void ?_, .of AlphaNum4.canonical ?_, .of AlphaNum12.canonical ?_,
    .of ConstantProductPool.canonical ?_, List.forall_mem_nil _⟩
  all_goals exact ⟨by intros; rfl, by intros; rfl⟩

theorem TrustLineAsset.canonical : TrustLineAsset.codec.Canonical fun _ => [] := by
  refine .union ?_ (by rintro ⟨⟩ <;> exact Nat.le_refl 1)
  simp only [List.forall_mem_cons]
  refine ⟨.void ?_, .of AlphaNum4.canonical ?_, .of AlphaNum12.canonical ?_, .of Hash.canonical ?_,
    List.forall_mem_nil _⟩
  all_goals exact ⟨by intros; rfl, by intros; rfl⟩

theorem ClaimableBalanceId.canonical : ClaimableBalanceId.codec.Canonical fun _ => [] :=
  (Codec.Canonical.only Hash.canonical).imap (fun _ => rfl) fun _ => rfl

theorem Address.canonical : Address.codec.Canonical fun _ => [] := by
  refine .union ?_ (by rintro ⟨⟩ <;> exact Nat.le_refl 1)
  simp only [List.forall_mem_cons]
  refine ⟨.of AccountId.canonical ?_, .of Hash.canonical ?_, .of (.pair .u64 .octets) ?_,
    .of ClaimableBalanceId.canonical ?_, .of Hash.canonical ?_, List.forall_mem_nil _⟩
  all_goals exact ⟨by intros; rfl, by intros; rfl⟩

theorem Executable.canonical : Executable.codec.Canonical fun _ => [] := by
  refine .union ?_ (by rintro ⟨⟩ <;> exact Nat.le_refl 1)
  simp only [List.forall_mem_cons]
  refine ⟨.of Hash.canonical ?_, .void ?_, List.forall_mem_nil _⟩
  all_goals exact ⟨by intros; rfl, by intros; rfl⟩

theorem ErrorCode.canonical : ErrorCode.codec.Canonical fun _ => [] := .enumeration (by decide)

theorem ContractError.canonical : ContractError.codec.Canonical fun _ => [] := by
  refine .union ?_ ?_
  · intro arm member
    rcases List.mem_cons.mp member with rfl | member
    · exact .of .u32 ⟨fun _ => rfl, fun _ => rfl⟩
    · obtain ⟨i, inside, rfl⟩ := List.mem_mapIdx.mp member
      exact .of ErrorCode.canonical ⟨fun _ => if_pos rfl, fun _ => rfl⟩
  · rintro (_ | ⟨source, _⟩)
    · exact Nat.le_refl 1
    · cases source <;> exact Nat.le_refl 1

theorem Durability.canonical : Durability.codec.Canonical fun _ => [] := .enumeration (by decide)

theorem ConfigSetting.canonical : ConfigSetting.codec.Canonical fun _ => [] := .enumeration (by decide)

/-! ## Values -/

/-- The boolean that a scalar is. -/
def Scalar.booleans : Scalar → List Bool
  | .bool b => [b]
  | _ => []

/-- The alternatives of scalars are canonical, in whichever union they stand. -/
theorem Scalar.arms_canonical : ∀ arm ∈ Scalar.arms, arm.Canonical Scalar.booleans := by
  simp only [Scalar.arms, List.forall_mem_cons]
  refine ⟨.of .bool ?_, .void ?_, .of ContractError.canonical ?_, .of .u32 ?_, .of .i32 ?_, .of .u64 ?_,
    .of .i64 ?_, .of .u64 ?_, .of .u64 ?_, .of (.pair .u64 .u64) ?_, .of (.pair .i64 .u64) ?_,
    .of (.pair .u64 (.pair .u64 (.pair .u64 .u64))) ?_,
    .of (.pair .i64 (.pair .u64 (.pair .u64 .u64))) ?_, .of .bytes ?_, .of .bytes ?_, .of .bytes ?_,
    .of Address.canonical ?_, .void ?_, .of .i64 ?_, List.forall_mem_nil _⟩
  all_goals exact ⟨by intros; rfl, by intros; rfl⟩

namespace Value

mutual

/-- The booleans in a value, in the order in which they are written. -/
def booleans : Value → List Bool
  | .scalar s => s.booleans
  | .vec none => []
  | .vec (some items) => itemsBooleans items
  | .map none => []
  | .map (some entries) => entriesBooleans entries
  | .contractInstance _ none => []
  | .contractInstance _ (some entries) => entriesBooleans entries
termination_by structural v => v

def itemsBooleans : List Value → List Bool
  | [] => []
  | v :: rest => v.booleans ++ itemsBooleans rest
termination_by structural items => items

def entriesBooleans : List (Value × Value) → List Bool
  | [] => []
  | (k, v) :: rest => (k.booleans ++ v.booleans) ++ entriesBooleans rest
termination_by structural entries => entries

end

theorem itemsBooleans_eq (items : List Value) : itemsBooleans items = items.flatMap booleans :=
  eq_flatMap rfl (fun _ _ => by rw [itemsBooleans]) items

theorem entriesBooleans_eq (entries : List (Value × Value)) :
    entriesBooleans entries = entries.flatMap fun x => x.1.booleans ++ x.2.booleans :=
  eq_flatMap rfl (fun _ _ => by rw [entriesBooleans]) entries

theorem layer_canonical (inner : Codec Value) (canonical : inner.Canonical booleans) :
    (layer inner).Canonical booleans := by
  have items : (Codec.list unbounded inner).Canonical (·.flatMap booleans) := canonical.list
  have entries : (Codec.list unbounded (inner.pair inner)).Canonical
      (·.flatMap fun x => x.1.booleans ++ x.2.booleans) := (canonical.pair canonical).list
  refine .union (List.forall_mem_append.mpr ⟨?_, ?_⟩) (arms_exclusive inner)
  · intro _ member
    obtain ⟨arm, plain, rfl⟩ := List.mem_map.mp member
    exact .within (Scalar.arms_canonical arm plain) ⟨fun _ => rfl, fun _ => rfl⟩
  · simp only [List.forall_mem_cons]
    refine ⟨.of items.option ⟨fun _ => rfl, ?_⟩, .of entries.option ⟨fun _ => rfl, ?_⟩,
      .of (Executable.canonical.pair entries.option) ⟨fun _ => rfl, ?_⟩, List.forall_mem_nil _⟩
    · rintro (_ | items)
      · rfl
      · exact itemsBooleans_eq items
    · rintro (_ | entries)
      · rfl
      · exact entriesBooleans_eq entries
    · rintro ⟨executable, _ | entries⟩
      · rfl
      · exact entriesBooleans_eq entries

theorem canonical : Value.codec.Canonical booleans :=
  .nested layer rfl (fun _ => Codec.union_read_congr rfl) layer_write layer_canonical

end Value

namespace ClaimPredicate

theorem layer_canonical (inner : Codec ClaimPredicate) (canonical : inner.Canonical fun _ => []) :
    (layer inner).Canonical fun _ => [] := by
  refine .union ?_ (by rintro ⟨⟩ <;> exact Nat.le_refl 1)
  simp only [arms, List.forall_mem_cons]
  refine ⟨.void ?_, .of canonical.plain_list ?_, .of canonical.plain_list ?_,
    .of canonical.plain_option ?_, .of .i64 ?_, .of .i64 ?_, List.forall_mem_nil _⟩
  all_goals exact ⟨by intros; rfl, by intros; rfl⟩

theorem canonical : ClaimPredicate.codec.Canonical fun _ => [] :=
  .nested layer rfl (fun _ => Codec.union_read_congr rfl) layer_write layer_canonical

end ClaimPredicate

/-! ## Calls and creations of contracts -/

/-- The booleans in the arguments of a call. -/
def ContractCall.booleans (c : ContractCall) : List Bool := c.args.flatMap Value.booleans

/-- The booleans in the arguments of a constructor. -/
def ConstructedCreation.booleans (c : ConstructedCreation) : List Bool := c.args.flatMap Value.booleans

def HostFunction.booleans : HostFunction → List Bool
  | .invoke c => c.booleans
  | .create _ => []
  | .uploadWasm _ => []
  | .createConstructed c => c.booleans

def AuthorizedFunction.booleans : AuthorizedFunction → List Bool
  | .call c => c.booleans
  | .create _ => []
  | .createConstructed c => c.booleans

theorem ContractCall.canonical : ContractCall.codec.Canonical booleans :=
  (Address.canonical.pair (.pair .bytes Value.canonical.list)).imap (fun _ => rfl) fun _ => rfl

theorem ContractIdPreimage.canonical : ContractIdPreimage.codec.Canonical fun _ => [] := by
  refine .union ?_ (by rintro ⟨⟩ <;> exact Nat.le_refl 1)
  simp only [List.forall_mem_cons]
  refine ⟨.of (Address.canonical.pair .octets) ?_, .of Asset.canonical ?_, List.forall_mem_nil _⟩
  all_goals exact ⟨by intros; rfl, by intros; rfl⟩

theorem ContractCreation.canonical : ContractCreation.codec.Canonical fun _ => [] :=
  (ContractIdPreimage.canonical.pair Executable.canonical).imap (fun _ => rfl) fun _ => rfl

theorem ConstructedCreation.canonical : ConstructedCreation.codec.Canonical booleans :=
  (ContractIdPreimage.canonical.pair (Executable.canonical.pair Value.canonical.list)).imap
    (fun _ => rfl) fun _ => rfl

theorem HostFunction.canonical : HostFunction.codec.Canonical booleans := by
  refine .union ?_ (by rintro ⟨⟩ <;> exact Nat.le_refl 1)
  simp only [List.forall_mem_cons]
  refine ⟨.of ContractCall.canonical ?_, .of ContractCreation.canonical ?_, .of .bytes ?_,
    .of ConstructedCreation.canonical ?_, List.forall_mem_nil _⟩
  all_goals exact ⟨by intros; rfl, by intros; rfl⟩

theorem AuthorizedFunction.canonical : AuthorizedFunction.codec.Canonical booleans := by
  refine .union ?_ (by rintro ⟨⟩ <;> exact Nat.le_refl 1)
  simp only [List.forall_mem_cons]
  refine ⟨.of ContractCall.canonical ?_, .of ContractCreation.canonical ?_,
    .of ConstructedCreation.canonical ?_, List.forall_mem_nil _⟩
  all_goals exact ⟨by intros; rfl, by intros; rfl⟩

namespace Invocation

mutual

/-- The booleans in the arguments of all the calls of an invocation. -/
def booleans : Invocation → List Bool
  | .node function subs => function.booleans ++ allBooleans subs
termination_by structural i => i

def allBooleans : List Invocation → List Bool
  | [] => []
  | i :: rest => i.booleans ++ allBooleans rest
termination_by structural subs => subs

end

theorem allBooleans_eq (subs : List Invocation) : allBooleans subs = subs.flatMap booleans :=
  eq_flatMap rfl (fun _ _ => by rw [allBooleans]) subs

theorem layer_canonical (inner : Codec Invocation) (canonical : inner.Canonical booleans) :
    (layer inner).Canonical booleans := by
  refine (AuthorizedFunction.canonical.pair canonical.list).imap (fun _ => rfl) ?_
  rintro ⟨function, subs⟩
  rw [booleans, allBooleans_eq]

theorem canonical : Invocation.codec.Canonical booleans :=
  .nested layer rfl (fun _ => rfl) layer_write layer_canonical

end Invocation

end AuthSigner
