import AuthSigner.Proofs.Arrangement
import AuthSigner.Proofs.SigningSemantics

/-! Entries are signed independently. What an entry gets is a function of its nonce and its
invocation, with the network, the key and the expiration that all share; so entries of
different envelopes get the same, and signing does not care in which order they stand. -/
namespace AuthSigner

/-- What is signed for an entry, wherever it stands and whatever else its credentials say. -/
def entryDigest (network : Network) (expiration : UInt32) (nonce : Int64) (invocation : Invocation) :
    Octets 32 :=
  sha256 (authorizationPreimage network nonce expiration invocation)

/-- The stored form of the signature that a secret makes for a digest. -/
def Secret.endorsement (secret : Secret) (digest : Octets 32) : Value :=
  (Proof.mk (Ed25519.publicKey secret.seed) (Ed25519.sign secret.seed digest.toBytes)).toValue

/-- What signing with a secret puts into the credentials of an entry. -/
def endorsed (network : Network) (secret : Secret) (expiration : UInt32) (x : LocatedEntry) :
    AddressCredentials :=
  { x.credentials with
    expiration
    signature := secret.endorsement
      (entryDigest network expiration x.credentials.nonce x.entry.rootInvocation) }

/-- What signing with a secret reports of an entry. -/
def signedNote (network : Network) (expiration : UInt32) (x : LocatedEntry) : Signed :=
  ⟨x.position, entryDigest network expiration x.credentials.nonce x.entry.rootInvocation⟩

section

variable {network : Network} {secret : Secret} {expiration : UInt32} {signed : SignedTransaction}
  {p : Position}

theorem endorsed_placeless : Placeless (endorsed network secret expiration) := fun _ _ => rfl

/-- Signing with a secret endorses every address entry, and reports each in its place. -/
theorem sign_endorses (bounded : signed.transaction.Bounded) (network : Network) (secret : Secret)
    (expiration : UInt32) (printer : Printer) :
    ∃ transcript, (Envelope.v1 signed).sign ⟨network, .ofSecret secret, expiration, printer⟩ () =
      ⟨.ok (signed.transaction.addressEntries.map (signedNote network expiration)),
        .v1 (signed.withCredentials (endorsed network secret expiration)), transcript, ()⟩ := by
  let r : SigningRequest Unit := ⟨network, .ofSecret secret, expiration, printer⟩
  obtain ⟨transcript, came⟩ := sign_of_secret (r := r) rfl bounded
  have digests : ∀ x, r.digest x =
      entryDigest network expiration x.credentials.nonce x.entry.rootInvocation := r.digest_eq
  have notes : r.note = signedNote network expiration := by
    funext x
    rw [SigningRequest.note, digests x]
    rfl
  have credentials : (fun x => r.completed x (Ed25519.sign secret.seed (r.digest x).toBytes)) =
      endorsed network secret expiration := by
    funext x
    rw [digests x]
    rfl
  rw [notes, credentials] at came
  exact ⟨transcript, came⟩

/-- The report of signed entries names no position twice. -/
theorem signed_positions_distinct (t : Transaction) :
    ((t.addressEntries.map (signedNote network expiration)).map (·.position)).Nodup := by
  have distinct := address_positions_distinct t
  rw [List.map_map]
  exact distinct

/-- At a position where an address authorizes, its credentials are endorsed, and this is reported. -/
theorem endorsed_at (network : Network) (secret : Secret) (expiration : UInt32) {c : AddressCredentials}
    {invocation : Invocation}
    (there : signed.transaction.entryAt? p = some ⟨.address c, invocation⟩) :
    ⟨p, entryDigest network expiration c.nonce invocation⟩ ∈
        signed.transaction.addressEntries.map (signedNote network expiration) ∧
      (signed.withCredentials (endorsed network secret expiration)).transaction.entryAt? p =
        some ⟨.address { c with
          expiration
          signature := secret.endorsement (entryDigest network expiration c.nonce invocation) },
          invocation⟩ := by
  have located : LocatedEntry.mk p ⟨.address c, invocation⟩ c ∈ signed.transaction.addressEntries :=
    mem_addressEntries_iff_entryAt.mpr ⟨there, rfl⟩
  constructor
  · exact List.mem_map_of_mem located
  · have updated := entryAt_withCredentials signed.transaction (endorsed network secret expiration) p
    rw [there] at updated
    exact updated

/-- A report in another order is the report, each position being the one from before. -/
theorem signed_rearranged {a : Arrangement} {t : Transaction} (suits : a.Suits t) :
    (((t.rearranged a).addressEntries.map (signedNote network expiration)).map
      fun s => { s with position := a.before s.position }).Perm
        (t.addressEntries.map (signedNote network expiration)) := by
  have moved := (addressEntries_rearranged suits).map (signedNote network expiration)
  rw [List.map_map] at moved ⊢
  exact moved

end

/-- Entries are signed independently of each other. Take two envelopes signed for the same network, with
the same secret and until the same ledger, and in each a position where an address authorizes: if
the entries there have the same nonce and the same invocation, both get the same signature and
expiration, and the same digest is reported for both, whatever the addresses, the old signatures
and expirations, the positions and all other entries and operations are. So signing an envelope
with its operations, and the entries in each of them, in another order gives the signed envelope
in that order, and what is reported for a position is what was reported for the position before. -/
theorem entries_signed_independently {signed : SignedTransaction} (bounded : signed.transaction.Bounded)
    (network : Network) (secret : Secret) (expiration : UInt32) (printer : Printer) :
    ∃ list after transcript,
      (Envelope.v1 signed).sign ⟨network, .ofSecret secret, expiration, printer⟩ () =
        ⟨.ok list, .v1 after, transcript, ()⟩ ∧
      (list.map (·.position)).Nodup ∧
      (∀ (other : SignedTransaction) (printer' : Printer), other.transaction.Bounded →
        ∃ list' after' transcript',
          (Envelope.v1 other).sign ⟨network, .ofSecret secret, expiration, printer'⟩ () =
            ⟨.ok list', .v1 after', transcript', ()⟩ ∧
          (list'.map (·.position)).Nodup ∧
          ∀ p p' c c' invocation,
            signed.transaction.entryAt? p = some ⟨.address c, invocation⟩ →
            other.transaction.entryAt? p' = some ⟨.address c', invocation⟩ → c.nonce = c'.nonce →
            ∃ digest signature, ⟨p, digest⟩ ∈ list ∧ ⟨p', digest⟩ ∈ list' ∧
              after.transaction.entryAt? p = some ⟨.address { c with expiration, signature }, invocation⟩ ∧
              after'.transaction.entryAt? p' =
                some ⟨.address { c' with expiration, signature }, invocation⟩) ∧
      ∀ (a : Arrangement) (printer' : Printer), a.Suits signed.transaction →
        ∃ list' transcript',
          (Envelope.v1 (signed.rearranged a)).sign ⟨network, .ofSecret secret, expiration, printer'⟩ () =
            ⟨.ok list', .v1 (after.rearranged a), transcript', ()⟩ ∧
          (list'.map (·.position)).Nodup ∧
          (list'.map fun s => { s with position := a.before s.position }).Perm list := by
  obtain ⟨transcript, came⟩ := sign_endorses bounded network secret expiration printer
  refine ⟨_, _, transcript, came, signed_positions_distinct _, ?_, ?_⟩
  · intro other printer' bounded'
    obtain ⟨transcript', came'⟩ := sign_endorses bounded' network secret expiration printer'
    refine ⟨_, _, transcript', came', signed_positions_distinct _, ?_⟩
    intro p p' c c' invocation there there' same
    obtain ⟨noted, stored⟩ := endorsed_at network secret expiration there
    obtain ⟨noted', stored'⟩ := endorsed_at network secret expiration there'
    have digests : entryDigest network expiration c'.nonce invocation =
        entryDigest network expiration c.nonce invocation := by rw [same]
    rw [digests] at noted' stored'
    exact ⟨_, _, noted, noted', stored, stored'⟩
  · intro a printer' suits
    have bounded' : (signed.rearranged a).transaction.Bounded := bounded_rearranged bounded suits
    obtain ⟨transcript', came'⟩ := sign_endorses bounded' network secret expiration printer'
    have ordered : (signed.rearranged a).withCredentials (endorsed network secret expiration) =
        (signed.withCredentials (endorsed network secret expiration)).rearranged a :=
      congrArg (SignedTransaction.mk · signed.signatures) (rearranged_updated endorsed_placeless suits)
    rw [ordered] at came'
    exact ⟨_, transcript', came', signed_positions_distinct _, signed_rearranged suits⟩

namespace Sample

/-- A single address entry. -/
def single : SignedTransaction := transaction [invoking [.address (unsigned 1)]]

/-- The outer operations change places, and so do the entries of the one that was first. -/
def turned : Arrangement where
  operation := .swap 0 2
  entry i := if i = 0 then .swap 0 1 else .refl Nat

theorem swap_within {i j bound : Nat} (first : i < bound) (second : j < bound) :
    Within (.swap i j) bound := by
  intro k past
  apply Equiv.swap_apply_of_ne_of_ne
  · omega
  · omega

theorem turned_suits : turned.Suits mixed.transaction := by
  constructor
  · exact swap_within (by decide) (by decide)
  · intro i o there
    by_cases first : i = 0
    · subst first
      cases there
      exact swap_within (by decide) (by decide)
    · intro j _
      simp only [turned, if_neg first, Equiv.refl_apply]

end Sample

theorem entries_signed_independently_turned :
    Sample.mixed.transaction.Bounded ∧ Sample.single.transaction.Bounded ∧
      Sample.turned.Suits Sample.mixed.transaction ∧
      ∃ list after transcript alone after' transcript' turned transcript'' digest,
        (Envelope.v1 Sample.mixed).sign Sample.request () = ⟨.ok list, .v1 after, transcript, ()⟩ ∧
        (Envelope.v1 Sample.single).sign Sample.request () = ⟨.ok alone, .v1 after', transcript', ()⟩ ∧
        (Envelope.v1 (Sample.mixed.rearranged Sample.turned)).sign Sample.request () =
          ⟨.ok turned, .v1 (after.rearranged Sample.turned), transcript'', ()⟩ ∧
        -- one call with one nonce: behind another entry, alone, and at the end
        ⟨⟨0, 1⟩, digest⟩ ∈ list ∧ ⟨⟨0, 0⟩, digest⟩ ∈ alone ∧ ⟨⟨2, 0⟩, digest⟩ ∈ turned := by
  have bounded' : Sample.single.transaction.Bounded := ⟨by decide, by decide⟩
  obtain ⟨list, after, transcript, came, _, alike, ordered⟩ :=
    entries_signed_independently Sample.mixed_bounded .testnet ⟨.zero 32⟩ 1000 ⟨true, none⟩
  obtain ⟨alone, after', transcript', came', _, same⟩ := alike Sample.single ⟨true, none⟩ bounded'
  obtain ⟨turned, transcript'', came'', _, moved⟩ := ordered Sample.turned ⟨true, none⟩ Sample.turned_suits
  obtain ⟨digest, _, noted, noted', _⟩ := same ⟨0, 1⟩ ⟨0, 0⟩ _ _ _ rfl rfl rfl
  have before : Sample.turned.before ⟨2, 0⟩ = ⟨0, 1⟩ := by decide
  obtain ⟨⟨p, digest⟩, reported, shown⟩ := List.mem_map.mp (moved.mem_iff.mpr noted)
  obtain ⟨position, rfl⟩ := Signed.mk.inj shown
  obtain rfl : p = ⟨2, 0⟩ := Sample.turned.before.injective (position.trans before.symm)
  exact ⟨Sample.mixed_bounded, bounded', Sample.turned_suits, list, after, transcript, alone, after',
    transcript', turned, transcript'', digest, came, came', came'', noted, noted', reported⟩

end AuthSigner
