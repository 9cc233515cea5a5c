import AuthSigner.Proofs.CodecLaws

/-! How what is read may be spelled. Formats are strict: they read every value from the
bytes that they write for it, and from no others. The one exception are booleans, where
every word but one is read as false. So the bytes that were read agree word by word with
those that are written again, up to the words of booleans that are false. -/
namespace AuthSigner.Xdr

variable {α β : Type}

/-- The bytes that a value with these booleans was read from, beside the bytes that it is
written as. They agree word by word, but for the words of booleans: any number other than
one was taken for false there, and false is written as zero. -/
inductive Respelled : List Bool → Bytes → Bytes → Prop where
  | nil : Respelled [] [] []
  | same {booleans : List Bool} {w x y : Bytes} (sized : w.length = 4) (later : Respelled booleans x y) :
      Respelled booleans (w ++ x) (w ++ y)
  | boolean {booleans : List Bool} {n : Nat} {x y : Bytes} (small : n ≤ unbounded)
      (later : Respelled booleans x y) :
      Respelled ((n == 1) :: booleans) (count n ++ x) (count (if n == 1 then 1 else 0) ++ y)

namespace Respelled

variable {booleans others : List Bool} {x y x' y' : Bytes}

theorem append (first : Respelled booleans x y) (second : Respelled others x' y') :
    Respelled (booleans ++ others) (x ++ x') (y ++ y') := by
  induction first with
  | nil => exact second
  | same sized later ih =>
    simp only [List.append_assoc]
    exact .same sized ih
  | boolean small later ih =>
    simp only [List.append_assoc]
    exact .boolean small ih

/-- Whole words are a spelling of themselves. -/
theorem refl {words : Bytes} (whole : 4 ∣ words.length) : Respelled [] words words := by
  obtain ⟨n, sized⟩ := whole
  induction n generalizing words with
  | zero =>
    rw [List.eq_nil_of_length_eq_zero sized]
    exact .nil
  | succ n ih =>
    have head : (words.take 4).length = 4 := by
      rw [List.length_take]
      omega
    have tail : (words.drop 4).length = 4 * n := by
      rw [List.length_drop]
      omega
    rw [← List.take_append_drop 4 words]
    exact .same head (ih tail)

theorem count_append (n : Nat) (later : Respelled booleans x y) :
    Respelled booleans (Xdr.count n ++ x) (Xdr.count n ++ y) :=
  .same (Reader.length_count n) later

theorem length_eq (spelled : Respelled booleans x y) : x.length = y.length := by
  induction spelled with
  | nil => rfl
  | same sized later ih => simp only [List.length_append, ih]
  | boolean small later ih => simp only [List.length_append, Reader.length_count, ih]

theorem four_dvd (spelled : Respelled booleans x y) : 4 ∣ x.length := by
  induction spelled with
  | nil => exact Nat.dvd_zero 4
  | same sized later ih =>
    rw [List.length_append, sized]
    omega
  | boolean small later ih =>
    rw [List.length_append, Reader.length_count]
    omega

/-- Where every boolean is true, nothing is spelled in another way. -/
theorem eq_of_true (spelled : Respelled booleans x y) (none : false ∉ booleans) : x = y := by
  induction spelled with
  | nil => rfl
  | same sized later ih => rw [ih none]
  | @boolean _ n _ _ small later ih =>
    rw [List.mem_cons, not_or] at none
    have one : n = 1 := by simpa using none.1
    subst one
    rw [ih none.2]
    rfl

end Respelled

/-- The word at an index, if a byte string is cut into words of four bytes. -/
def word (i : Nat) (bytes : Bytes) : Bytes := (bytes.drop (4 * i)).take 4

theorem word_zero {w : Bytes} (sized : w.length = 4) (rest : Bytes) : word 0 (w ++ rest) = w := by
  simp [word, sized]

theorem word_succ {w : Bytes} (sized : w.length = 4) (rest : Bytes) (i : Nat) :
    word (i + 1) (w ++ rest) = word i rest := by
  have further : 4 * (i + 1) = w.length + 4 * i := by omega
  rw [word, further, List.drop_append, List.drop_eq_nil_of_le (by omega)]
  simp [word]

theorem count_inj {m n : Nat} (small : m ≤ unbounded) (small' : n ≤ unbounded) (same : count m = count n) :
    m = n := by
  have back := congrArg ofBigEndian same
  simp only [count, ofBigEndian_bigEndian] at back
  have less : m < Nat.pow 256 4 := Nat.lt_succ_of_le small
  have less' : n < Nat.pow 256 4 := Nat.lt_succ_of_le small'
  rwa [Nat.mod_eq_of_lt less, Nat.mod_eq_of_lt less'] at back

/-- Two spellings differ only in words that are zero in what is written, and neither zero
nor one in what was read. -/
theorem word_of_respelled {booleans : List Bool} {x y : Bytes} (spelled : Respelled booleans x y) (i : Nat) :
    word i x = word i y ∨
      word i y = count 0 ∧ word i x ≠ count 0 ∧ word i x ≠ count 1 := by
  induction spelled generalizing i with
  | nil => exact .inl rfl
  | same sized later ih =>
    cases i with
    | zero => exact .inl (by rw [word_zero sized, word_zero sized])
    | succ i => simpa only [word_succ sized] using ih i
  | @boolean _ n x y small later ih =>
    cases i with
    | zero =>
      rw [word_zero (Reader.length_count _), word_zero (Reader.length_count _)]
      by_cases one : n = 1
      · subst one
        exact .inl rfl
      · by_cases zero : n = 0
        · subst zero
          exact .inl rfl
        · have other : (n == 1) = false := by simpa using one
          refine .inr ⟨by rw [other]; rfl, fun same => ?_, fun same => ?_⟩
          · exact zero (count_inj small (by decide) same)
          · exact one (count_inj small (by decide) same)
    | succ i => simpa only [word_succ (Reader.length_count _)] using ih i

/-! ## Formats -/

/-- What such a format reads is spelled as the format writes it, but for the booleans that
the value holds. -/
def Codec.Canonical (c : Codec α) (booleans : α → List Bool) : Prop :=
  ∀ depth input x rest, (c.read depth).run input = .ok (x, rest) →
    ∃ bytes, input = bytes ++ rest ∧ Respelled (booleans x) bytes (c.write x)

/-- What such an alternative reads belongs to it and is spelled as it writes it, but for the
booleans. -/
def Arm.Canonical (arm : Arm α) (booleans : α → List Bool) : Prop :=
  ∀ depth input x rest, (arm.read depth).run input = .ok (x, rest) →
    ∃ bytes written, input = bytes ++ rest ∧ arm.write? x = some written ∧
      Respelled (booleans x) bytes written

namespace Codec.Canonical

variable {c : Codec α} {d : Codec β} {p : α → List Bool} {q : β → List Bool}

theorem congr (canonical : c.Canonical p) {p' : α → List Bool} (same : ∀ x, p' x = p x) :
    c.Canonical p' := by
  intro depth input x rest read
  rw [same]
  exact canonical depth input x rest read

/-! ## Formats of fixed size -/

protected theorem unit : Codec.unit.Canonical fun _ => [] := by
  intro depth input x rest read
  cases read
  exact ⟨[], rfl, .nil⟩

private theorem of_digits {n width : Nat} {input rest : Bytes} (whole : 4 ∣ width)
    (read : (Reader.number width).run input = .ok (n, rest)) :
    n < Nat.pow 256 width ∧
      ∃ bytes, input = bytes ++ rest ∧ Respelled [] bytes (bigEndian width n) := by
  obtain ⟨small, spelled⟩ := Reader.append_of_number read
  refine ⟨small, bigEndian width n, spelled, .refl ?_⟩
  rw [length_bigEndian]
  exact whole

protected theorem u32 : Codec.u32.Canonical fun _ => [] := by
  intro depth input x rest read
  obtain ⟨n, digits, rfl⟩ := Reader.run_map_eq_ok.mp read
  obtain ⟨small, spelled⟩ := of_digits (by decide) digits
  have back : (UInt32.ofNat n).toNat = n := UInt32.toNat_ofNat_of_lt' small
  change ∃ bytes, input = bytes ++ rest ∧ Respelled [] bytes (bigEndian 4 (UInt32.ofNat n).toNat)
  rw [back]
  exact spelled

protected theorem u64 : Codec.u64.Canonical fun _ => [] := by
  intro depth input x rest read
  obtain ⟨n, digits, rfl⟩ := Reader.run_map_eq_ok.mp read
  obtain ⟨small, spelled⟩ := of_digits (by decide) digits
  have back : (UInt64.ofNat n).toNat = n := UInt64.toNat_ofNat_of_lt' small
  change ∃ bytes, input = bytes ++ rest ∧ Respelled [] bytes (bigEndian 8 (UInt64.ofNat n).toNat)
  rw [back]
  exact spelled

/-- The one format that reads several words as the same value. -/
protected theorem bool : Codec.bool.Canonical fun b => [b] := by
  intro depth input x rest read
  obtain ⟨n, digits, rfl⟩ := Reader.run_map_eq_ok.mp read
  obtain ⟨small, spelled⟩ := Reader.append_of_number digits
  have word := Respelled.boolean (Nat.le_of_lt_succ small) .nil
  simp only [List.append_nil] at word
  exact ⟨count n, spelled, word⟩

protected theorem octets {n : Nat} : (Codec.octets n).Canonical fun _ => [] := by
  intro depth input x rest read
  obtain ⟨bytes, middle, first, later⟩ := Reader.run_bind_eq_ok.mp read
  have spelled := Reader.append_of_padded first
  split at later
  · rename_i taken
    cases later
    obtain rfl := Octets.ofBytes?_eq_some_iff.mp taken
    rw [x.length_toBytes] at spelled
    refine ⟨_, spelled, .refl ?_⟩
    rw [List.length_append, List.length_replicate, x.length_toBytes]
    exact Reader.four_dvd_padded n
  · cases later

/-! ## Formats of varying size -/

protected theorem bytes {max : Nat} : (Codec.bytes max).Canonical fun _ => [] := by
  intro depth input x rest read
  obtain ⟨n, middle, first, later⟩ := Reader.run_bind_eq_ok.mp read
  obtain rfl : x.length = n := Reader.length_of_padded later
  refine ⟨_, ?_, .count_append x.length (.refl ?_)⟩
  · rw [Reader.append_of_length first, Reader.append_of_padded later]
    simp only [List.append_assoc]
  · rw [List.length_append, List.length_replicate]
    exact Reader.four_dvd_padded x.length

theorem imap (canonical : c.Canonical p) {forth : α → β} {back : β → α}
    (back_forth : ∀ a, back (forth a) = a) (same : ∀ a, q (forth a) = p a) :
    (c.imap forth back).Canonical q := by
  intro depth input b rest read
  obtain ⟨a, first, rfl⟩ := Reader.run_map_eq_ok.mp read
  obtain ⟨bytes, spelled, respelled⟩ := canonical depth input a rest first
  refine ⟨bytes, spelled, ?_⟩
  change Respelled (q (forth a)) bytes (c.write (back (forth a)))
  rw [back_forth, same]
  exact respelled

protected theorem i32 : Codec.i32.Canonical fun _ => [] :=
  Canonical.u32.imap (fun n => n.toUInt32_toInt32) fun _ => rfl

protected theorem i64 : Codec.i64.Canonical fun _ => [] :=
  Canonical.u64.imap (fun n => n.toUInt64_toInt64) fun _ => rfl

theorem pair (first : c.Canonical p) (second : d.Canonical q) :
    (c.pair d).Canonical fun x => p x.1 ++ q x.2 := by
  intro depth input x rest read
  obtain ⟨a, middle, one, later⟩ := Reader.run_bind_eq_ok.mp read
  obtain ⟨b, last, two, same⟩ := Reader.run_bind_eq_ok.mp later
  cases same
  obtain ⟨bytes, spelled, respelled⟩ := first depth input a middle one
  obtain ⟨bytes', spelled', respelled'⟩ := second depth middle b rest two
  refine ⟨bytes ++ bytes', ?_, respelled.append respelled'⟩
  rw [spelled, spelled', List.append_assoc]

private theorem times (canonical : c.Canonical p) {depth n : Nat} {input rest : Bytes} {xs : List α}
    (read : (Reader.times (c.read depth) n).run input = .ok (xs, rest)) :
    ∃ bytes, input = bytes ++ rest ∧ Respelled (xs.flatMap p) bytes (xs.flatMap c.write) := by
  induction n generalizing input xs with
  | zero =>
    cases read
    exact ⟨[], rfl, .nil⟩
  | succ n ih =>
    obtain ⟨x, middle, one, more⟩ := Reader.run_bind_eq_ok.mp read
    obtain ⟨others, last, many, same⟩ := Reader.run_bind_eq_ok.mp more
    cases same
    obtain ⟨bytes, spelled, respelled⟩ := canonical depth input x middle one
    obtain ⟨bytes', spelled', respelled'⟩ := ih many
    refine ⟨bytes ++ bytes', ?_, ?_⟩
    · rw [spelled, spelled', List.append_assoc]
    · rw [List.flatMap_cons, List.flatMap_cons]
      exact respelled.append respelled'

theorem list {max : Nat} (canonical : c.Canonical p) : (Codec.list max c).Canonical (·.flatMap p) := by
  intro depth input xs rest read
  obtain ⟨n, middle, first, later⟩ := Reader.run_bind_eq_ok.mp read
  have counted : xs.length = n := (Reader.times_sound (P := fun _ => True) (fun _ _ _ _ => trivial) later).1
  obtain ⟨bytes, spelled, respelled⟩ := canonical.times later
  refine ⟨count xs.length ++ bytes, ?_, .count_append xs.length respelled⟩
  rw [Reader.append_of_length first, spelled, counted, List.append_assoc]

theorem option (canonical : c.Canonical p) :
    (Codec.option c).Canonical fun x => x.elim [] p := by
  intro depth input x rest read
  obtain ⟨mark, middle, first, later⟩ := Reader.run_bind_eq_ok.mp read
  have spelled := (Reader.append_of_number first).2
  split at later
  · cases later
    exact ⟨count 0, spelled, .refl (by simp)⟩
  · obtain ⟨a, one, rfl⟩ := Reader.run_map_eq_ok.mp later
    obtain ⟨bytes, spelled', respelled⟩ := canonical depth middle a rest one
    refine ⟨count 1 ++ bytes, ?_, .count_append 1 respelled⟩
    rw [spelled, spelled', List.append_assoc]
    rfl
  · cases later

/-- A list of values that hold no booleans holds none. -/
theorem plain_list {max : Nat} (canonical : c.Canonical fun _ => []) :
    (Codec.list max c).Canonical fun _ => [] :=
  canonical.list.congr fun _ => by simp

theorem plain_option (canonical : c.Canonical fun _ => []) : (Codec.option c).Canonical fun _ => [] :=
  canonical.option.congr fun x => by cases x <;> rfl

theorem enumeration [BEq α] [LawfulBEq α] {values : List α} (distinct : values.Nodup) :
    (Codec.enumeration values).Canonical fun _ => [] := by
  intro depth input x rest read
  obtain ⟨n, middle, first, later⟩ := Reader.run_bind_eq_ok.mp read
  split at later
  · rename_i y found
    cases later
    obtain ⟨inside, rfl⟩ := List.getElem?_eq_some_iff.mp found
    refine ⟨count n, (Reader.append_of_number first).2, ?_⟩
    change Respelled [] (count n) (count (values.idxOf values[n]))
    rw [distinct.idxOf_getElem n inside]
    exact .refl (by simp)
  · cases later

end Codec.Canonical

/-! ## Unions -/

namespace Arm.Canonical

variable {tag : Nat} {inject : β → α} {project : α → Option β} {p : α → List Bool} {q : β → List Bool}

theorem of {c : Codec β} (canonical : c.Canonical q)
    (made : (∀ b, project (inject b) = some b) ∧ ∀ b, p (inject b) = q b) :
    (Arm.of tag c inject project).Canonical p := by
  obtain ⟨project_inject, same⟩ := made
  intro depth input x rest read
  obtain ⟨b, one, rfl⟩ := Reader.run_map_eq_ok.mp read
  obtain ⟨bytes, spelled, respelled⟩ := canonical depth input b rest one
  refine ⟨bytes, c.write b, spelled, congrArg (Option.map c.write) (project_inject b), ?_⟩
  rw [same]
  exact respelled

theorem void {value : α} {holds : α → Bool} (plain : holds value = true ∧ p value = []) :
    (Arm.void tag value holds).Canonical p := by
  obtain ⟨held, same⟩ := plain
  intro depth input x rest read
  cases read
  refine ⟨[], [], rfl, if_pos held, ?_⟩
  rw [same]
  exact .nil

theorem within {arm : Arm β} (canonical : arm.Canonical q)
    (made : (∀ b, project (inject b) = some b) ∧ ∀ b, p (inject b) = q b) :
    (Arm.within inject project arm).Canonical p := by
  obtain ⟨project_inject, same⟩ := made
  intro depth input x rest read
  obtain ⟨b, one, rfl⟩ := Reader.run_map_eq_ok.mp read
  obtain ⟨bytes, written, spelled, writes, respelled⟩ := canonical depth input b rest one
  refine ⟨bytes, written, spelled, (congrArg (Option.bind · arm.write?) (project_inject b)).trans writes, ?_⟩
  rw [same]
  exact respelled

end Arm.Canonical

namespace Codec.Canonical

variable {arms : List (Arm α)} {p : α → List Bool}

theorem union (each : ∀ arm ∈ arms, arm.Canonical p) (exclusive : ∀ x, Exclusive arms x) :
    (Codec.union arms).Canonical p := by
  intro depth input x rest read
  obtain ⟨tag, middle, first, later⟩ := Reader.run_bind_eq_ok.mp read
  split at later
  · rename_i arm found
    have member := List.mem_of_find?_eq_some found
    have tagged : arm.tag = tag := by simpa using List.find?_some found
    obtain ⟨bytes, written, spelled, writes, respelled⟩ := each arm member depth middle x rest later
    rw [union_write member writes (exclusive x)]
    refine ⟨count arm.tag ++ bytes, ?_, .count_append arm.tag respelled⟩
    rw [(Reader.append_of_number first).2, spelled, tagged, List.append_assoc]
    rfl
  · cases later

theorem only {c : Codec α} {tag : Nat} (canonical : c.Canonical p) : (Codec.only tag c).Canonical p := by
  have arm : (Arm.of tag c id some).Canonical p := .of canonical ⟨fun _ => rfl, fun _ => rfl⟩
  exact .union (List.forall_mem_singleton.mpr arm) fun _ => Nat.le_refl 1

/-- A format that is one layer around itself is canonical if its layer makes it so. -/
theorem nested {c : Codec α} (layer : Codec α → Codec α)
    (bottom : c.read 0 = Reader.fail .truncated)
    (step : ∀ n, c.read (n + 1) = (layer (c.upTo n)).read n)
    (writes : ∀ n x, (layer (c.upTo n)).write x = c.write x)
    (layers : ∀ inner : Codec α, inner.Canonical p → (layer inner).Canonical p) : c.Canonical p := by
  suffices limited : ∀ levels, (c.upTo levels).Canonical p from
    fun depth => limited depth depth
  intro levels
  induction levels with
  | zero =>
    intro depth input x rest read
    change (c.read 0).run input = _ at read
    rw [bottom] at read
    cases read
  | succ n ih =>
    intro depth input x rest read
    change (c.read (n + 1)).run input = _ at read
    rw [step] at read
    obtain ⟨bytes, spelled, respelled⟩ := layers _ ih n input x rest read
    rw [writes] at respelled
    exact ⟨bytes, spelled, respelled⟩

end Codec.Canonical
end AuthSigner.Xdr
