import AuthSigner.Proofs.ReaderLaws

/-! When a format's two directions agree. Reading is allowed a number of levels, and
a written value is read back wherever its bytes are few enough for them. Formats of
compound values obey the laws because their parts do, so a format that is built from
such formats needs no proof of its own. -/
namespace AuthSigner.Xdr

variable {α β : Type}

/-- The laws of a format that may read so many levels down: what it writes for a value
that fits is read back as that value, with anything behind it and as long as it is
within the bound; and only values that fit are read. -/
structure Codec.Lawful (c : Codec α) (depth bound : Nat) : Prop where
  read_write : ∀ x rest, c.Fits x → (c.write x).length ≤ bound →
    (c.read depth).run (c.write x ++ rest) = .ok (x, rest)
  fits_of_read : ∀ input x rest, (c.read depth).run input = .ok (x, rest) → c.Fits x

/-- The laws of an alternative, which writes the values that belong to it. -/
structure Arm.Lawful (arm : Arm α) (depth bound : Nat) : Prop where
  read_write : ∀ x, arm.Fits x → ∃ bytes, arm.write? x = some bytes ∧
    ∀ rest, bytes.length ≤ bound → (arm.read depth).run (bytes ++ rest) = .ok (x, rest)
  fits_of_read : ∀ input x rest, (arm.read depth).run input = .ok (x, rest) → arm.Fits x

/-- A number that can be a length or a discriminant. -/
class Expressible (n : Nat) : Prop where
  le_unbounded : n ≤ unbounded

instance : Expressible 0 := ⟨by decide⟩
instance : Expressible 2 := ⟨by decide⟩
instance : Expressible 5 := ⟨by decide⟩
instance : Expressible 10 := ⟨by decide⟩
instance : Expressible 20 := ⟨by decide⟩
instance : Expressible 28 := ⟨by decide⟩
instance : Expressible 32 := ⟨by decide⟩
instance : Expressible 64 := ⟨by decide⟩
instance : Expressible unbounded := ⟨Nat.le_refl _⟩

namespace Codec.Lawful

variable {depth bound wider : Nat} {c : Codec α} {d : Codec β}

theorem mono (lawful : c.Lawful depth wider) (room : bound ≤ wider) : c.Lawful depth bound where
  read_write x rest fits short := lawful.read_write x rest fits (Nat.le_trans short room)
  fits_of_read := lawful.fits_of_read

/-! ## Formats of fixed size -/

protected theorem unit : Codec.unit.Lawful depth bound where
  read_write _ _ _ _ := rfl
  fits_of_read _ _ _ _ := trivial

protected theorem u32 : Codec.u32.Lawful depth bound where
  read_write n rest _ _ := by
    refine (Reader.run_map_ok (Reader.number_append n.toNat_lt rest) _).trans ?_
    rw [UInt32.ofNat_toNat]
  fits_of_read _ _ _ _ := trivial

protected theorem u64 : Codec.u64.Lawful depth bound where
  read_write n rest _ _ := by
    refine (Reader.run_map_ok (Reader.number_append n.toNat_lt rest) _).trans ?_
    rw [UInt64.ofNat_toNat]
  fits_of_read _ _ _ _ := trivial

protected theorem bool : Codec.bool.Lawful depth bound where
  read_write b rest _ _ := by
    cases b with
    | false => exact Reader.run_map_ok (Reader.count_append (by decide) rest) _
    | true => exact Reader.run_map_ok (Reader.count_append (by decide) rest) _
  fits_of_read _ _ _ _ := trivial

protected theorem octets {n : Nat} : (Codec.octets n).Lawful depth bound where
  read_write x rest _ _ := by
    have padded := Reader.padded_append x.toBytes rest
    rw [x.length_toBytes] at padded
    refine (Reader.run_bind_ok padded _).trans ?_
    rw [Octets.ofBytes?_toBytes]
    rfl
  fits_of_read _ _ _ _ := trivial

/-! ## Formats of varying size -/

protected theorem bytes {max : Nat} [small : Expressible max] : (Codec.bytes max).Lawful depth bound where
  read_write x rest fits _ := by
    change ((Reader.length max >>= Reader.padded).run (count x.length ++ _ ++ rest)) = _
    rw [List.append_assoc]
    refine (Reader.run_bind_ok (Reader.length_append fits (Nat.le_trans fits small.le_unbounded) _) _).trans ?_
    exact Reader.padded_append x rest
  fits_of_read input x rest read := by
    obtain ⟨n, middle, first, later⟩ := Reader.run_bind_eq_ok.mp read
    change x.length ≤ max
    rw [Reader.length_of_padded later]
    exact Reader.length_le first

theorem imap (lawful : c.Lawful depth bound) {forth : α → β} {back : β → α}
    (forth_back : ∀ b, forth (back b) = b) (back_forth : ∀ a, back (forth a) = a) :
    (c.imap forth back).Lawful depth bound where
  read_write b rest fits short := by
    refine (Reader.run_map_ok (lawful.read_write (back b) rest fits short) forth).trans ?_
    rw [forth_back]
  fits_of_read input b rest read := by
    obtain ⟨a, first, rfl⟩ := Reader.run_map_eq_ok.mp read
    change c.Fits (back (forth a))
    rw [back_forth]
    exact lawful.fits_of_read _ _ _ first

protected theorem i32 : Codec.i32.Lawful depth bound :=
  Lawful.u32.imap (fun n => n.toInt32_toUInt32) (fun n => n.toUInt32_toInt32)

protected theorem i64 : Codec.i64.Lawful depth bound :=
  Lawful.u64.imap (fun n => n.toInt64_toUInt64) (fun n => n.toUInt64_toInt64)

/-- Where the second part is never short, the first has as much less to itself. -/
theorem pair_long {least : Nat} (first : c.Lawful depth bound) (second : d.Lawful depth (bound + least))
    (long : ∀ y, least ≤ (d.write y).length) : (c.pair d).Lawful depth (bound + least) where
  read_write := by
    rintro ⟨x, y⟩ rest ⟨fits, fits'⟩ short
    change (c.write x ++ d.write y).length ≤ bound + least at short
    rw [List.length_append] at short
    have enough := long y
    change ((c.pair d).read depth).run (c.write x ++ d.write y ++ rest) = _
    rw [List.append_assoc]
    refine (Reader.run_bind_ok (first.read_write x _ fits (by omega)) _).trans ?_
    exact (Reader.run_bind_ok (second.read_write y rest fits' (by omega)) _).trans rfl
  fits_of_read := by
    intro input x rest read
    obtain ⟨a, middle, one, later⟩ := Reader.run_bind_eq_ok.mp read
    obtain ⟨b, last, two, same⟩ := Reader.run_bind_eq_ok.mp later
    cases same
    exact ⟨first.fits_of_read _ _ _ one, second.fits_of_read _ _ _ two⟩

theorem pair (first : c.Lawful depth bound) (second : d.Lawful depth bound) :
    (c.pair d).Lawful depth bound :=
  first.pair_long second fun _ => Nat.zero_le _

private theorem length_write_le {xs : List α} {x : α} (member : x ∈ xs) :
    (c.write x).length ≤ (xs.flatMap c.write).length := by
  obtain ⟨before, after, rfl⟩ := List.append_of_mem member
  simp only [List.flatMap_append, List.flatMap_cons, List.length_append]
  omega

/-- The items of a list are shorter than the list by its count, at least. -/
theorem list_deep {max : Nat} [small : Expressible max] (lawful : c.Lawful depth bound) :
    (Codec.list max c).Lawful depth (bound + 4) where
  read_write xs rest fits short := by
    obtain ⟨few, each⟩ := fits
    change ((Reader.length max >>= Reader.times (c.read depth)).run (count xs.length ++ _ ++ rest)) = _
    change (count xs.length ++ xs.flatMap c.write).length ≤ bound + 4 at short
    rw [List.length_append, Reader.length_count] at short
    rw [List.append_assoc]
    refine (Reader.run_bind_ok (Reader.length_append few (Nat.le_trans few small.le_unbounded) _) _).trans ?_
    refine Reader.times_append ?_ rest
    intro x member rest
    have part := length_write_le (c := c) member
    exact lawful.read_write x rest (each x member) (by omega)
  fits_of_read input xs rest read := by
    obtain ⟨n, middle, first, later⟩ := Reader.run_bind_eq_ok.mp read
    obtain ⟨counted, each⟩ := Reader.times_sound lawful.fits_of_read later
    exact ⟨counted ▸ Reader.length_le first, each⟩

theorem list {max : Nat} [Expressible max] (lawful : c.Lawful depth bound) :
    (Codec.list max c).Lawful depth bound :=
  lawful.list_deep.mono (Nat.le_add_right bound 4)

theorem option (lawful : c.Lawful depth bound) : (Codec.option c).Lawful depth bound where
  read_write x rest fits short := by
    cases x with
    | none => exact (Reader.run_bind_ok (Reader.count_append (by decide) rest) _).trans rfl
    | some a =>
      change (count 1 ++ c.write a).length ≤ bound at short
      rw [List.length_append, Reader.length_count] at short
      change ((Codec.option c).read depth).run (count 1 ++ c.write a ++ rest) = _
      rw [List.append_assoc]
      refine (Reader.run_bind_ok (Reader.count_append (by decide) _) _).trans ?_
      exact Reader.run_map_ok (lawful.read_write a rest (fits a rfl) (by omega)) _
  fits_of_read input x rest read := by
    obtain ⟨mark, middle, _, later⟩ := Reader.run_bind_eq_ok.mp read
    split at later
    · cases later
      exact fun _ none => nomatch none
    · obtain ⟨a, one, rfl⟩ := Reader.run_map_eq_ok.mp later
      intro b same
      cases same
      exact lawful.fits_of_read _ _ _ one
    · cases later

theorem enumeration [BEq α] [LawfulBEq α] {values : List α} (small : values.length ≤ unbounded) :
    (Codec.enumeration values).Lawful depth bound where
  read_write x rest fits _ := by
    have placed : values.idxOf x < values.length := List.idxOf_lt_length_of_mem fits
    refine (Reader.run_bind_ok (Reader.count_append (by omega) rest) _).trans ?_
    rw [List.getElem?_eq_getElem placed, List.getElem_idxOf]
    rfl
  fits_of_read input x rest read := by
    obtain ⟨n, middle, _, later⟩ := Reader.run_bind_eq_ok.mp read
    split at later
    · rename_i y found
      cases later
      exact List.mem_of_getElem? found
    · cases later

end Codec.Lawful

/-! ## Unions -/

/-- The values of an alternative, and those only, come apart into what they are made of. -/
structure Arm.Faithful (inject : β → α) (project : α → Option β) : Prop where
  project_inject : ∀ b, project (inject b) = some b
  inject_project : ∀ x, (project x).isSome → (project x).map inject = some x

theorem Arm.Faithful.inject_eq {inject : β → α} {project : α → Option β} (faithful : Faithful inject project)
    {x : α} {b : β} (taken : project x = some b) : inject b = x := by
  have back := faithful.inject_project x (taken ▸ rfl)
  rw [taken] at back
  exact Option.some.inj back

namespace Arm.Lawful

variable {depth bound : Nat} {tag : Nat} {inject : β → α} {project : α → Option β}

theorem of {c : Codec β} (lawful : c.Lawful depth bound) (faithful : Faithful inject project) :
    (Arm.of tag c inject project).Lawful depth bound where
  read_write := by
    rintro x ⟨b, taken, fits⟩
    refine ⟨c.write b, congrArg (Option.map c.write) taken, ?_⟩
    intro rest short
    refine (Reader.run_map_ok (lawful.read_write b rest fits short) inject).trans ?_
    rw [faithful.inject_eq taken]
  fits_of_read := by
    intro input x rest read
    obtain ⟨b, one, rfl⟩ := Reader.run_map_eq_ok.mp read
    exact ⟨b, faithful.project_inject b, lawful.fits_of_read _ _ _ one⟩

theorem void {value : α} {holds : α → Bool}
    (faithful : Faithful (fun _ => value) fun x => if holds x then some () else none) :
    (Arm.void tag value holds).Lawful depth bound where
  read_write := by
    intro x held
    have same : value = x := faithful.inject_eq (b := ()) (if_pos held)
    exact ⟨[], if_pos held, fun rest _ => by rw [← same]; rfl⟩
  fits_of_read := by
    intro input x rest read
    cases read
    change holds value = true
    have held := faithful.project_inject ()
    split at held
    · assumption
    · cases held

theorem within {arm : Arm β} (lawful : arm.Lawful depth bound) (faithful : Faithful inject project) :
    (Arm.within inject project arm).Lawful depth bound where
  read_write := by
    rintro x ⟨b, taken, fits⟩
    obtain ⟨bytes, written, reads⟩ := lawful.read_write b fits
    refine ⟨bytes, (congrArg (Option.bind · arm.write?) taken).trans written, ?_⟩
    intro rest short
    refine (Reader.run_map_ok (reads rest short) inject).trans ?_
    rw [faithful.inject_eq taken]
  fits_of_read := by
    intro input x rest read
    obtain ⟨b, one, rfl⟩ := Reader.run_map_eq_ok.mp read
    exact ⟨b, faithful.project_inject b, lawful.fits_of_read _ _ _ one⟩

end Arm.Lawful

namespace Codec

variable {depth bound : Nat} {arms : List (Arm α)}

/-- The discriminants can be written, and each leads to one alternative. -/
def Tagged (arms : List (Arm α)) : Prop :=
  (arms.map (·.tag)).Nodup ∧ ∀ tag ∈ arms.map (·.tag), tag ≤ unbounded

instance : Decidable (Tagged arms) := inferInstanceAs (Decidable (_ ∧ _))

/-- At most one alternative writes the value. -/
def Exclusive (arms : List (Arm α)) (x : α) : Prop :=
  (arms.filter fun arm => (arm.write? x).isSome).length ≤ 1

/-- A union writes what its one alternative for the value writes. -/
theorem union_write {arm : Arm α} {x : α} {bytes : Bytes} (member : arm ∈ arms)
    (written : arm.write? x = some bytes) (exclusive : Exclusive arms x) :
    (union arms).write x = count arm.tag ++ bytes := by
  suffices found : (arms.findSome? fun arm => (arm.write? x).map (count arm.tag ++ ·)) =
      some (count arm.tag ++ bytes) from congrArg (Option.getD · []) found
  induction arms with
  | nil => cases member
  | cons first arms ih =>
    cases own : first.write? x with
    | some bytes' =>
      -- no other alternative writes the value, so this one is the one that does
      have alone : arms.filter (fun arm => (arm.write? x).isSome) = [] := by
        rw [Exclusive, List.filter_cons_of_pos (by rw [own]; rfl), List.length_cons] at exclusive
        exact List.eq_nil_of_length_eq_zero (by omega)
      rcases List.mem_cons.mp member with rfl | member
      · rw [List.findSome?_cons, written]
        rfl
      · have other := List.filter_eq_nil_iff.mp alone arm member
        rw [written] at other
        exact absurd rfl other
    | none =>
      rcases List.mem_cons.mp member with rfl | member
      · rw [written] at own
        cases own
      · rw [Exclusive, List.filter_cons_of_neg (by rw [own]; exact Bool.false_ne_true)] at exclusive
        rw [List.findSome?_cons, own]
        exact ih member exclusive

theorem union_fits_nil {x : α} : (union ([] : List (Arm α))).Fits x ↔ False :=
  ⟨fun ⟨_, member, _⟩ => (nomatch member), False.elim⟩

theorem union_fits_cons {arm : Arm α} {x : α} :
    (union (arm :: arms)).Fits x ↔ arm.Fits x ∨ (union arms).Fits x := by
  simp only [union, List.mem_cons, exists_eq_or_imp]

theorem union_fits_append {others : List (Arm α)} {x : α} :
    (union (arms ++ others)).Fits x ↔ (union arms).Fits x ∨ (union others).Fits x := by
  simp only [union, List.mem_append, or_and_right, exists_or]

/-- The discriminant leads to its alternative. -/
theorem find_tag {arm : Arm α} (member : arm ∈ arms) (distinct : (arms.map (·.tag)).Nodup) :
    arms.find? (·.tag == arm.tag) = some arm := by
  induction arms with
  | nil => cases member
  | cons first arms ih =>
    rw [List.map_cons, List.nodup_cons] at distinct
    rcases List.mem_cons.mp member with rfl | member
    · exact List.find?_cons_of_pos (beq_self_eq_true _)
    · have other : first.tag ≠ arm.tag := fun same => distinct.1 (same ▸ List.mem_map_of_mem member)
      rw [List.find?_cons_of_neg (by simpa using other)]
      exact ih member distinct.2

/-- Reading a union depends on the discriminants and the readers of its alternatives. -/
theorem union_read_congr {others : List (Arm α)}
    (same : arms.map (fun arm => (arm.tag, arm.read depth)) =
      others.map fun arm => (arm.tag, arm.read depth)) :
    (union arms).read depth = (union others).read depth := by
  have found (tag : Nat) : (arms.find? (·.tag == tag)).map (·.read depth) =
      (others.find? (·.tag == tag)).map (·.read depth) := by
    have both := congrArg (fun pairs => (pairs.find? (·.1 == tag)).map Prod.snd) same
    simpa only [List.find?_map, Option.map_map, Function.comp_def] using both
  refine congrArg (Reader.number 4 >>= ·) (funext fun tag => ?_)
  have agree := found tag
  cases here : arms.find? (·.tag == tag) with
  | none =>
    cases there : others.find? (·.tag == tag) with
    | none => rfl
    | some arm => simp [here, there] at agree
  | some arm =>
    cases there : others.find? (·.tag == tag) with
    | none => simp [here, there] at agree
    | some arm' =>
      rw [here, there] at agree
      exact Option.some.inj agree

/-- The alternatives of a union are shorter than the union by its discriminant. -/
theorem Lawful.union_deep (each : ∀ arm ∈ arms, arm.Lawful depth bound)
    (tagged : Tagged arms) (exclusive : ∀ x, Exclusive arms x) :
    (Codec.union arms).Lawful depth (bound + 4) where
  read_write := by
    rintro x rest ⟨arm, member, fits⟩ short
    obtain ⟨bytes, written, reads⟩ := (each arm member).read_write x fits
    rw [union_write member written (exclusive x)] at short ⊢
    rw [List.length_append, Reader.length_count] at short
    rw [List.append_assoc]
    have small : arm.tag ≤ unbounded := tagged.2 _ (List.mem_map_of_mem member)
    refine (Reader.run_bind_ok (Reader.count_append small _) _).trans ?_
    rw [find_tag member tagged.1]
    exact reads rest (by omega)
  fits_of_read := by
    intro input x rest read
    obtain ⟨tag, middle, _, later⟩ := Reader.run_bind_eq_ok.mp read
    split at later
    · rename_i arm found
      have member := List.mem_of_find?_eq_some found
      exact ⟨arm, member, (each arm member).fits_of_read _ _ _ later⟩
    · cases later

theorem Lawful.union (each : ∀ arm ∈ arms, arm.Lawful depth bound)
    (tagged : Tagged arms) (exclusive : ∀ x, Exclusive arms x) : (Codec.union arms).Lawful depth bound :=
  (union_deep each tagged exclusive).mono (Nat.le_add_right bound 4)

theorem Lawful.only {c : Codec α} {tag : Nat} [small : Expressible tag] (lawful : c.Lawful depth bound) :
    (Codec.only tag c).Lawful depth bound := by
  have arm : (Arm.of tag c id some).Lawful depth bound := .of lawful ⟨fun _ => rfl, fun _ _ => rfl⟩
  have tagged : Tagged [Arm.of tag c id some] :=
    ⟨List.pairwise_singleton _ _, List.forall_mem_singleton.mpr small.le_unbounded⟩
  exact .union (List.forall_mem_singleton.mpr arm) tagged fun _ => Nat.le_refl 1

/-! ## Nested types -/

/-- The same format, but reading only so many levels down. -/
def upTo (c : Codec α) (levels : Nat) : Codec α := { c with read := fun _ => c.read levels }

/-- A format that is one layer around itself obeys the laws if its layer does. With
every level the bound grows by the four bytes that a layer writes of its own. -/
theorem Lawful.nested {c : Codec α} (layer : Codec α → Codec α)
    (bottom : c.read 0 = Reader.fail .truncated)
    (step : ∀ n, c.read (n + 1) = (layer (c.upTo n)).read n)
    (writes : ∀ n x, (layer (c.upTo n)).write x = c.write x)
    (fits : ∀ n x, (layer (c.upTo n)).Fits x ↔ c.Fits x)
    (nonempty : ∀ x, c.Fits x → 0 < (c.write x).length)
    (layers : ∀ n inner, Lawful inner n (4 * n) → (layer inner).Lawful n (4 * n + 4)) :
    c.Lawful depth (4 * depth) := by
  suffices limited : ∀ levels depth, (c.upTo levels).Lawful depth (4 * levels) from
    ⟨(limited depth depth).read_write, (limited depth depth).fits_of_read⟩
  intro levels
  induction levels with
  | zero =>
    intro depth
    constructor
    · intro x rest fit short
      exact absurd (nonempty x fit) (Nat.not_lt_of_le short)
    · intro input x rest read
      change (c.read 0).run input = _ at read
      rw [bottom] at read
      cases read
  | succ n ih =>
    intro depth
    have deep := layers n _ (ih n)
    constructor
    · intro x rest fit short
      have back := deep.read_write x rest ((fits n x).mpr fit) (by rw [writes]; exact short)
      rw [writes, ← step] at back
      exact back
    · intro input x rest read
      change (c.read (n + 1)).run input = _ at read
      rw [step] at read
      exact (fits n x).mp (deep.fits_of_read _ _ _ read)

end Codec
end AuthSigner.Xdr
