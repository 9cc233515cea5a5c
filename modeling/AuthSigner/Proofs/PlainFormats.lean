import AuthSigner.Ledger.LedgerKey
import AuthSigner.Proofs.CodecLaws

/-! The laws of the formats that do not nest. Each follows the description of its
format; only the sources of host errors, which are numbered by a list, take an
argument of their own. -/
namespace AuthSigner
open Xdr

variable {depth bound : Nat}

theorem Hash.lawful : Hash.codec.Lawful depth bound := .octets

theorem AccountId.lawful : AccountId.codec.Lawful depth bound :=
  (Codec.Lawful.only .octets).imap (fun _ => rfl) fun _ => rfl

theorem MuxedAccount.lawful : MuxedAccount.codec.Lawful depth bound := by
  refine .union ?_ (by decide) (by rintro ⟨⟩ <;> exact Nat.le_refl 1)
  simp only [List.forall_mem_cons]
  refine ⟨.of .octets ?_, .of (.pair .u64 .octets) ?_, List.forall_mem_nil _⟩
  all_goals exact ⟨by intros; rfl, by rintro ⟨⟩ ⟨⟩; rfl⟩

theorem SignerKey.lawful : SignerKey.codec.Lawful depth bound := by
  refine .union ?_ (by decide) (by rintro ⟨⟩ <;> exact Nat.le_refl 1)
  simp only [List.forall_mem_cons]
  refine ⟨.of .octets ?_, .of .octets ?_, .of .octets ?_, .of (.pair .octets .bytes) ?_,
    List.forall_mem_nil _⟩
  all_goals exact ⟨by intros; rfl, by rintro ⟨⟩ ⟨⟩; rfl⟩

theorem WeightedSigner.lawful : WeightedSigner.codec.Lawful depth bound :=
  (SignerKey.lawful.pair .u32).imap (fun _ => rfl) fun _ => rfl

theorem AlphaNum4.lawful : AlphaNum4.codec.Lawful depth bound :=
  (Codec.Lawful.octets.pair AccountId.lawful).imap (fun _ => rfl) fun _ => rfl

theorem AlphaNum12.lawful : AlphaNum12.codec.Lawful depth bound :=
  (Codec.Lawful.octets.pair AccountId.lawful).imap (fun _ => rfl) fun _ => rfl

theorem Asset.lawful : Asset.codec.Lawful depth bound := by
  refine .union ?_ (by decide) (by rintro ⟨⟩ <;> exact Nat.le_refl 1)
  simp only [List.forall_mem_cons]
  refine ⟨.void ?_, .of AlphaNum4.lawful ?_, .of AlphaNum12.lawful ?_, List.forall_mem_nil _⟩
  all_goals exact ⟨by intros; rfl, by rintro ⟨⟩ ⟨⟩; rfl⟩

theorem AssetCode.lawful : AssetCode.codec.Lawful depth bound := by
  refine .union ?_ (by decide) (by rintro ⟨⟩ <;> exact Nat.le_refl 1)
  simp only [List.forall_mem_cons]
  refine ⟨.of .octets ?_, .of .octets ?_, List.forall_mem_nil _⟩
  all_goals exact ⟨by intros; rfl, by rintro ⟨⟩ ⟨⟩; rfl⟩

theorem Price.lawful : Price.codec.Lawful depth bound :=
  (Codec.Lawful.i32.pair .i32).imap (fun _ => rfl) fun _ => rfl

theorem ConstantProductPool.lawful : ConstantProductPool.codec.Lawful depth bound :=
  (Codec.Lawful.only (Asset.lawful.pair (Asset.lawful.pair .i32))).imap (fun _ => rfl) fun _ => rfl

theorem ChangeTrustAsset.lawful : ChangeTrustAsset.codec.Lawful depth bound := by
  refine .union ?_ (by decide) (by rintro ⟨⟩ <;> exact Nat.le_refl 1)
  simp only [List.forall_mem_cons]
  refine ⟨.void ?_, .of AlphaNum4.lawful ?_, .of AlphaNum12.lawful ?_,
    .of ConstantProductPool.lawful ?_, List.forall_mem_nil _⟩
  all_goals exact ⟨by intros; rfl, by rintro ⟨⟩ ⟨⟩; rfl⟩

theorem TrustLineAsset.lawful : TrustLineAsset.codec.Lawful depth bound := by
  refine .union ?_ (by decide) (by rintro ⟨⟩ <;> exact Nat.le_refl 1)
  simp only [List.forall_mem_cons]
  refine ⟨.void ?_, .of AlphaNum4.lawful ?_, .of AlphaNum12.lawful ?_, .of Hash.lawful ?_,
    List.forall_mem_nil _⟩
  all_goals exact ⟨by intros; rfl, by rintro ⟨⟩ ⟨⟩; rfl⟩

theorem ClaimableBalanceId.lawful : ClaimableBalanceId.codec.Lawful depth bound :=
  (Codec.Lawful.only Hash.lawful).imap (fun _ => rfl) fun _ => rfl

theorem Address.lawful : Address.codec.Lawful depth bound := by
  refine .union ?_ (by decide) (by rintro ⟨⟩ <;> exact Nat.le_refl 1)
  simp only [List.forall_mem_cons]
  refine ⟨.of AccountId.lawful ?_, .of Hash.lawful ?_, .of (.pair .u64 .octets) ?_,
    .of ClaimableBalanceId.lawful ?_, .of Hash.lawful ?_, List.forall_mem_nil _⟩
  all_goals exact ⟨by intros; rfl, by rintro ⟨⟩ ⟨⟩; rfl⟩

theorem Executable.lawful : Executable.codec.Lawful depth bound := by
  refine .union ?_ (by decide) (by rintro ⟨⟩ <;> exact Nat.le_refl 1)
  simp only [List.forall_mem_cons]
  refine ⟨.of Hash.lawful ?_, .void ?_, List.forall_mem_nil _⟩
  all_goals exact ⟨by intros; rfl, by rintro ⟨⟩ ⟨⟩; rfl⟩

theorem ErrorCode.lawful : ErrorCode.codec.Lawful depth bound := .enumeration (by decide)

theorem ContractError.lawful : ContractError.codec.Lawful depth bound := by
  refine .union ?_ (by decide) ?_
  · intro arm member
    rcases List.mem_cons.mp member with rfl | member
    · exact .of .u32 ⟨fun _ => rfl, by rintro ⟨⟩ ⟨⟩; rfl⟩
    · obtain ⟨i, inside, rfl⟩ := List.mem_mapIdx.mp member
      refine .of ErrorCode.lawful ⟨fun _ => if_pos rfl, ?_⟩
      rintro (_ | ⟨source, code⟩) taken
      · cases taken
      · change (if source = ErrorSource.all[i] then some code else none).isSome at taken
        by_cases same : source = ErrorSource.all[i]
        · rw [same]
          exact congrArg (Option.map (ContractError.host ErrorSource.all[i])) (if_pos rfl)
        · rw [if_neg same] at taken
          cases taken
  · rintro (_ | ⟨source, _⟩)
    · exact Nat.le_refl 1
    · cases source <;> exact Nat.le_refl 1

/-- The alternatives of scalars obey the laws, in whichever union they stand. -/
theorem Scalar.arms_lawful : ∀ arm ∈ Scalar.arms, arm.Lawful depth bound := by
  simp only [Scalar.arms, List.forall_mem_cons]
  refine ⟨.of .bool ?_, .void ?_, .of ContractError.lawful ?_, .of .u32 ?_, .of .i32 ?_, .of .u64 ?_,
    .of .i64 ?_, .of .u64 ?_, .of .u64 ?_, .of (.pair .u64 .u64) ?_, .of (.pair .i64 .u64) ?_,
    .of (.pair .u64 (.pair .u64 (.pair .u64 .u64))) ?_, .of (.pair .i64 (.pair .u64 (.pair .u64 .u64))) ?_,
    .of .bytes ?_, .of .bytes ?_, .of .bytes ?_,
    .of Address.lawful ?_, .void ?_, .of .i64 ?_, List.forall_mem_nil _⟩
  all_goals exact ⟨by intros; rfl, by rintro ⟨⟩ ⟨⟩; rfl⟩

theorem Scalar.lawful : Scalar.codec.Lawful depth bound :=
  .union Scalar.arms_lawful (by decide) (by rintro ⟨⟩ <;> exact Nat.le_refl 1)

theorem Durability.lawful : Durability.codec.Lawful depth bound := .enumeration (by decide)

theorem ConfigSetting.lawful : ConfigSetting.codec.Lawful depth bound := .enumeration (by decide)

end AuthSigner
