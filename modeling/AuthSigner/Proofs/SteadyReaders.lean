import AuthSigner.Proofs.ReaderLaws

/-! Reading with more input. A reader that gave a value, or failed for another reason than a
lack of input, does the same when more bytes follow, and leaves those bytes. Formats of
compound values are steady because their parts are, so the instances below are all that a
format built from such formats needs. -/
namespace AuthSigner.Xdr

variable {α β : Type}

namespace Reader

/-- The second reader comes to the same as the first does on less input, if that was enough. -/
structure Extended (r r' : Reader α) : Prop where
  value : ∀ {input x rest}, r.run input = .ok (x, rest) →
    ∀ more, r'.run (input ++ more) = .ok (x, rest ++ more)
  failure : ∀ {input e}, r.run input = .error e → e ≠ .truncated →
    ∀ more, r'.run (input ++ more) = .error e

namespace Extended

variable {x x' : Reader α} {y y' : Reader β}

theorem pure (a : α) : (Pure.pure a : Reader α).Extended (Pure.pure a) where
  value same more := by
    cases same
    rfl
  failure same := nomatch same

theorem fail (e : ReadError) : (Reader.fail e : Reader α).Extended (Reader.fail e) where
  value same := nomatch same
  failure same _ _ := same

/-- A reader that has run out of levels, beside any other. -/
theorem truncated : (Reader.fail .truncated : Reader α).Extended x where
  value same := nomatch same
  failure same other := by
    cases same
    exact absurd rfl other

theorem bind {f f' : α → Reader β} (first : x.Extended x') (later : ∀ a, (f a).Extended (f' a)) :
    (x >>= f).Extended (x' >>= f') where
  value read more := by
    obtain ⟨a, middle, one, two⟩ := run_bind_eq_ok.mp read
    exact run_bind_eq_ok.mpr ⟨a, middle ++ more, first.value one more, (later a).value two more⟩
  failure failed other more := by
    rcases run_bind_eq_error.mp failed with one | ⟨a, middle, one, two⟩
    · exact run_bind_eq_error.mpr (.inl (first.failure one other more))
    · exact run_bind_eq_error.mpr
        (.inr ⟨a, middle ++ more, first.value one more, (later a).failure two other more⟩)

theorem map (f : α → β) (first : x.Extended x') : (f <$> x).Extended (f <$> x') := by
  rw [map_eq_pure_bind, map_eq_pure_bind]
  exact first.bind fun a => pure (f a)

/-! ## Bytes and numbers -/

theorem take (n : Nat) : (Reader.take n).Extended (Reader.take n) where
  value read more := by
    rw [append_of_take read, List.append_assoc]
    exact take_append (length_of_take read) _
  failure failed other := by
    change Reader.take n _ = _ at failed
    simp only [Reader.take] at failed
    split at failed
    · cases failed
    · cases failed
      exact absurd rfl other

theorem number (width : Nat) : (Reader.number width).Extended (Reader.number width) :=
  (take width).map ofBigEndian

theorem padded (n : Nat) : (Reader.padded n).Extended (Reader.padded n) := by
  refine (take n).bind fun bytes => (take _).bind fun zeros => ?_
  split
  · exact pure bytes
  · exact fail .nonZeroPadding

theorem length (max : Nat) : (Reader.length max).Extended (Reader.length max) := by
  refine (number 4).bind fun n => ?_
  split
  · exact pure n
  · exact fail .lengthExceedsMax

/-! ## Repetitions -/

theorem times (item : x.Extended x') (n : Nat) : (Reader.times x n).Extended (Reader.times x' n) := by
  induction n with
  | zero => exact pure []
  | succ n ih => exact item.bind fun first => ih.bind fun rest => pure (first :: rest)

theorem list (max : Nat) (item : x.Extended x') : (Reader.list max x).Extended (Reader.list max x') :=
  (length max).bind fun n => item.times n

theorem option (item : x.Extended x') : (Reader.option x).Extended (Reader.option x') := by
  refine (number 4).bind fun mark => ?_
  match mark with
  | 0 => exact pure none
  | 1 => exact item.map some
  | _ + 2 => exact fail .invalid

end Extended
end Reader

/-- Up to this limit, being allowed further down changes nothing that more input would not. -/
class Codec.Steady (c : Codec α) (limit : Nat) : Prop where
  extended : ∀ {depth deeper}, depth ≤ deeper → deeper ≤ limit → (c.read depth).Extended (c.read deeper)

class Arm.Steady (arm : Arm α) (limit : Nat) : Prop where
  extended : ∀ {depth deeper}, depth ≤ deeper → deeper ≤ limit → (arm.read depth).Extended (arm.read deeper)

/-- All these alternatives are steady. -/
class Arm.AllSteady (arms : List (Arm α)) (limit : Nat) : Prop where
  each : ∀ arm ∈ arms, arm.Steady limit

variable {limit : Nat}

namespace Codec.Steady

variable {c : Codec α} {d : Codec β}

/-! ## Plain formats -/

instance unit : Codec.unit.Steady limit := ⟨fun _ _ => .pure ()⟩

instance u32 : Codec.u32.Steady limit := ⟨fun _ _ => (Reader.Extended.number 4).map UInt32.ofNat⟩

instance u64 : Codec.u64.Steady limit := ⟨fun _ _ => (Reader.Extended.number 8).map UInt64.ofNat⟩

instance bool : Codec.bool.Steady limit := ⟨fun _ _ => (Reader.Extended.number 4).map (· == 1)⟩

instance octets {n : Nat} : (Codec.octets n).Steady limit where
  extended _ _ := by
    refine (Reader.Extended.padded n).bind fun bytes => ?_
    split
    · exact .pure _
    · exact .fail .truncated

instance bytes {max : Nat} : (Codec.bytes max).Steady limit :=
  ⟨fun _ _ => (Reader.Extended.length max).bind Reader.Extended.padded⟩

instance enumeration [BEq α] {values : List α} : (Codec.enumeration values).Steady limit where
  extended _ _ := by
    refine (Reader.Extended.number 4).bind fun n => ?_
    split
    · exact .pure _
    · exact .fail .invalid

/-! ## Formats of formats -/

instance imap [steady : c.Steady limit] {forth : α → β} {back : β → α} : (c.imap forth back).Steady limit :=
  ⟨fun deeper within => (steady.extended deeper within).map forth⟩

instance i32 : Codec.i32.Steady limit := imap

instance i64 : Codec.i64.Steady limit := imap

instance pair [first : c.Steady limit] [second : d.Steady limit] : (c.pair d).Steady limit where
  extended deeper within :=
    (first.extended deeper within).bind fun a => (second.extended deeper within).bind fun b => .pure (a, b)

instance list {max : Nat} [steady : c.Steady limit] : (Codec.list max c).Steady limit :=
  ⟨fun deeper within => (steady.extended deeper within).list max⟩

instance option [steady : c.Steady limit] : (Codec.option c).Steady limit :=
  ⟨fun deeper within => (steady.extended deeper within).option⟩

instance union {arms : List (Arm α)} [steady : Arm.AllSteady arms limit] : (Codec.union arms).Steady limit where
  extended deeper within := by
    refine (Reader.Extended.number 4).bind fun tag => ?_
    split
    · rename_i arm found
      exact (steady.each arm (List.mem_of_find?_eq_some found)).extended deeper within
    · exact .fail .invalid

end Codec.Steady

/-! ## Alternatives -/

namespace Arm

variable {tag : Nat} {inject : β → α} {project : α → Option β} {arms : List (Arm α)}

instance Steady.of {c : Codec β} [steady : c.Steady limit] : (Arm.of tag c inject project).Steady limit :=
  ⟨fun deeper within => (steady.extended deeper within).map inject⟩

instance Steady.void {value : α} {holds : α → Bool} : (Arm.void tag value holds).Steady limit :=
  ⟨fun _ _ => .pure value⟩

instance Steady.within {arm : Arm β} [steady : arm.Steady limit] :
    (Arm.within inject project arm).Steady limit :=
  ⟨fun deeper within => (steady.extended deeper within).map inject⟩

instance AllSteady.nil : AllSteady ([] : List (Arm α)) limit := ⟨List.forall_mem_nil _⟩

instance AllSteady.cons {arm : Arm α} [first : arm.Steady limit] [others : AllSteady arms limit] :
    AllSteady (arm :: arms) limit :=
  ⟨List.forall_mem_cons.mpr ⟨first, others.each⟩⟩

instance AllSteady.append {others : List (Arm α)} [front : AllSteady arms limit]
    [back : AllSteady others limit] : AllSteady (arms ++ others) limit :=
  ⟨List.forall_mem_append.mpr ⟨front.each, back.each⟩⟩

instance AllSteady.within {parts : List (Arm β)} [steady : AllSteady parts limit] :
    AllSteady (parts.map (Arm.within inject project)) limit where
  each := by
    intro _ member
    obtain ⟨arm, part, rfl⟩ := List.mem_map.mp member
    have first := steady.each arm part
    exact Steady.within

instance AllSteady.numbered {values : List β} {arm : Nat → β → Arm α}
    [steady : ∀ i value, (arm i value).Steady limit] : AllSteady (values.mapIdx arm) limit where
  each := by
    intro _ member
    obtain ⟨i, inside, rfl⟩ := List.mem_mapIdx.mp member
    exact steady i values[i]

end Arm

namespace Codec.Steady

instance only {c : Codec α} {tag : Nat} [c.Steady limit] : (Codec.only tag c).Steady limit := union

/-- A format that is one layer around itself is steady if its layer keeps that. With no levels
left it is out of input, and a level more is a level of the layer. -/
theorem nested {c : Codec α} (layer : Codec α → Codec α) (bottom : c.read 0 = Reader.fail .truncated)
    (step : ∀ n, c.read (n + 1) = (layer c).read n)
    (layers : ∀ limit, c.Steady limit → (layer c).Steady limit) : c.Steady limit := by
  induction limit with
  | zero =>
    constructor
    intro depth deeper less within
    obtain rfl : depth = 0 := by omega
    rw [bottom]
    exact .truncated
  | succ limit ih =>
    constructor
    intro depth deeper less within
    cases depth with
    | zero =>
      rw [bottom]
      exact .truncated
    | succ depth =>
      obtain ⟨deeper, rfl⟩ : ∃ n, deeper = n + 1 := ⟨deeper - 1, by omega⟩
      rw [step, step]
      exact (layers limit ih).extended (by omega) (by omega)

end Codec.Steady
end AuthSigner.Xdr
