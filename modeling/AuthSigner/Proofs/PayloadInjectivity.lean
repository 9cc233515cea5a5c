import AuthSigner.Auth.Payload
import AuthSigner.Proofs.EditSemantics
import AuthSigner.Proofs.SchemaBounds

/-! No two authorizations share a payload. A format that reads back what it wrote,
whatever follows, gives different values different bytes, and none of them begins with
those of another. Payloads have such a format. -/
namespace AuthSigner
open Xdr

namespace Xdr.Codec

variable {α : Type} {c : Codec α} {x y : α} {rest rest' : Bytes}

/-- What is written for a value that fits tells the value and where its bytes end. -/
theorem delimited (lawful : ∀ depth, c.Lawful depth (4 * depth)) (fits : c.Fits x) (fits' : c.Fits y)
    (same : c.write x ++ rest = c.write y ++ rest') : x = y ∧ rest = rest' := by
  -- Enough levels for either value.
  let depth := (c.write x).length + (c.write y).length
  have first := (lawful depth).read_write x rest fits (by omega)
  have second := (lawful depth).read_write y rest' fits' (by omega)
  rw [same, second] at first
  obtain ⟨rfl, rfl⟩ := Prod.mk.inj (Except.ok.inj first)
  exact ⟨rfl, rfl⟩

theorem write_injective (lawful : ∀ depth, c.Lawful depth (4 * depth)) (fits : c.Fits x) (fits' : c.Fits y)
    (same : c.write x = c.write y) : x = y := by
  have same' : c.write x ++ [] = c.write y ++ [] := by rw [same]
  exact (delimited lawful fits fits' same').1

theorem write_prefix_free (lawful : ∀ depth, c.Lawful depth (4 * depth)) (fits : c.Fits x)
    (fits' : c.Fits y) (begins : c.write x <+: c.write y) : c.write x = c.write y := by
  obtain ⟨rest, same⟩ := begins
  have same' : c.write x ++ rest = c.write y ++ [] := by rw [same, List.append_nil]
  rw [(delimited lawful fits fits' same').1]

end Xdr.Codec

instance : Expressible 9 := ⟨by decide⟩

theorem Payload.lawful {depth : Nat} : Payload.codec.Lawful depth (4 * depth) :=
  (Codec.Lawful.only (.pair .octets (.pair .i64 (.pair .u32 Invocation.lawful)))).imap
    (fun _ => rfl) fun _ => rfl

theorem Payload.fits {p : Payload} (fits : p.invocation.Fits) : Payload.codec.Fits p :=
  ⟨_, .head _, _, rfl, trivial, trivial, trivial, fits⟩

/-- The payload is injective: the bytes tell the network, the nonce, the expiration and
the whole tree of calls. And a payload that another one begins with is that other one. -/
theorem payload_injective {networkId networkId' : Octets 32} {nonce nonce' : Int64}
    {expiration expiration' : UInt32} {invocation invocation' : Invocation}
    (fits : invocation.Fits) (fits' : invocation'.Fits) :
    ((Payload.mk networkId nonce expiration invocation).bytes =
        (Payload.mk networkId' nonce' expiration' invocation').bytes →
      networkId = networkId' ∧ nonce = nonce' ∧ expiration = expiration' ∧ invocation = invocation') ∧
    ((Payload.mk networkId nonce expiration invocation).bytes <+:
        (Payload.mk networkId' nonce' expiration' invocation').bytes →
      (Payload.mk networkId nonce expiration invocation).bytes =
        (Payload.mk networkId' nonce' expiration' invocation').bytes) := by
  constructor
  · intro same
    have equal := Codec.write_injective (fun _ => Payload.lawful) (Payload.fits fits) (Payload.fits fits') same
    exact Payload.mk.inj equal
  · intro begins
    exact Codec.write_prefix_free (fun _ => Payload.lawful) (Payload.fits fits) (Payload.fits fits') begins

namespace Sample

theorem invocation_fits : invocation.Fits := by
  refine Invocation.fits_node.mpr ⟨⟨?_, ?_, nofun⟩, ?_, nofun⟩ <;> decide

/-- The same call as in `invocation`, which makes that call itself. -/
def nested : Invocation := .node (.call ⟨.contract (.zero 32), [105, 110, 99], []⟩) [invocation]

theorem nested_fits : nested.Fits := by
  have below : ∀ i ∈ [invocation], i.Fits := List.forall_mem_singleton.mpr invocation_fits
  refine Invocation.fits_node.mpr ⟨⟨?_, ?_, nofun⟩, ?_, below⟩ <;> decide

end Sample

theorem payload_injective_nested :
    Sample.invocation.Fits ∧ Sample.nested.Fits ∧
      ¬ (Payload.mk (.zero 32) 1 5 Sample.invocation).bytes <+:
        (Payload.mk (.zero 32) 1 5 Sample.nested).bytes := by
  obtain ⟨injective, prefix_free⟩ := payload_injective Sample.invocation_fits Sample.nested_fits
  refine ⟨Sample.invocation_fits, Sample.nested_fits, ?_⟩
  intro begins
  obtain ⟨_, _, _, same⟩ := injective (prefix_free begins)
  cases same

end AuthSigner
