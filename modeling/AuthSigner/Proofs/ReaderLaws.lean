import AuthSigner.Xdr.Codec

/-! Readers on the bytes that writers make, and what is known of a value that was
read. A reader takes from the front only what belongs to its value, so every law
holds with any bytes behind the written ones. -/
namespace AuthSigner.Xdr.Reader

variable {α β : Type} {x : Reader α} {input middle rest : Bytes}

theorem run_bind_ok {a : α} (first : x.run input = .ok (a, middle)) (f : α → Reader β) :
    (x >>= f).run input = (f a).run middle := by
  rw [StateT.run_bind, first]
  rfl

theorem run_bind_eq_ok {f : α → Reader β} {b : β} :
    (x >>= f).run input = .ok (b, rest) ↔
      ∃ a middle, x.run input = .ok (a, middle) ∧ (f a).run middle = .ok (b, rest) := by
  rw [StateT.run_bind]
  cases first : x.run input with
  | error e => exact ⟨fun same => (nomatch same), fun ⟨_, _, same, _⟩ => nomatch same⟩
  | ok taken =>
    obtain ⟨a, middle⟩ := taken
    exact ⟨fun later => ⟨a, middle, rfl, later⟩, fun ⟨_, _, same, later⟩ => by cases same; exact later⟩

theorem run_bind_eq_error {f : α → Reader β} {e : ReadError} :
    (x >>= f).run input = .error e ↔
      x.run input = .error e ∨ ∃ a middle, x.run input = .ok (a, middle) ∧ (f a).run middle = .error e := by
  rw [StateT.run_bind]
  cases first : x.run input with
  | error e' =>
    constructor
    · intro same
      cases same
      exact .inl rfl
    · rintro (same | ⟨_, _, same, _⟩)
      · cases same
        rfl
      · cases same
  | ok taken =>
    obtain ⟨a, middle⟩ := taken
    constructor
    · intro later
      exact .inr ⟨a, middle, rfl, later⟩
    · rintro (same | ⟨_, _, same, later⟩)
      · cases same
      · cases same
        exact later

theorem run_map_ok {a : α} (first : x.run input = .ok (a, rest)) (f : α → β) :
    (f <$> x).run input = .ok (f a, rest) := by
  rw [StateT.run_map, first]
  rfl

theorem run_map_eq_ok {f : α → β} {b : β} :
    (f <$> x).run input = .ok (b, rest) ↔ ∃ a, x.run input = .ok (a, rest) ∧ f a = b := by
  rw [StateT.run_map]
  cases first : x.run input with
  | error e => exact ⟨fun same => (nomatch same), fun ⟨_, same, _⟩ => nomatch same⟩
  | ok taken =>
    obtain ⟨a, middle⟩ := taken
    constructor
    · intro same
      cases same
      exact ⟨a, rfl, rfl⟩
    · rintro ⟨_, same, rfl⟩
      cases same
      rfl

/-! ## Bytes and numbers -/

theorem take_append {bytes : Bytes} {n : Nat} (sized : bytes.length = n) (rest : Bytes) :
    (take n).run (bytes ++ rest) = .ok (bytes, rest) := by
  subst sized
  change take bytes.length (bytes ++ rest) = _
  simp only [take, List.take_left, List.drop_left, ↓reduceIte]

theorem length_of_take {n : Nat} {bytes : Bytes} (taken : (take n).run input = .ok (bytes, rest)) :
    bytes.length = n := by
  change take n input = _ at taken
  simp only [take] at taken
  split at taken
  · rename_i enough
    cases taken
    exact enough
  · cases taken

theorem number_append {width n : Nat} (small : n < Nat.pow 256 width) (rest : Bytes) :
    (number width).run (bigEndian width n ++ rest) = .ok (n, rest) := by
  refine (run_map_ok (take_append (length_bigEndian width n) rest) ofBigEndian).trans ?_
  rw [ofBigEndian_bigEndian, Nat.mod_eq_of_lt small]

theorem count_append {n : Nat} (small : n ≤ unbounded) (rest : Bytes) :
    (number 4).run (count n ++ rest) = .ok (n, rest) :=
  number_append (Nat.lt_succ_of_le small) rest

@[simp] theorem length_count (n : Nat) : (count n).length = 4 := length_bigEndian 4 n

theorem padded_append (bytes rest : Bytes) :
    (padded bytes.length).run (bytes ++ List.replicate (padding bytes.length) 0 ++ rest) =
      .ok (bytes, rest) := by
  rw [List.append_assoc]
  refine (run_bind_ok (take_append rfl _) _).trans ?_
  refine (run_bind_ok (take_append List.length_replicate _) _).trans ?_
  have zeros : (List.replicate (padding bytes.length) (0 : UInt8)).all (· == 0) = true :=
    List.all_replicate.trans (by simp)
  rw [zeros]
  rfl

theorem length_of_padded {n : Nat} {bytes : Bytes} (read : (padded n).run input = .ok (bytes, rest)) :
    bytes.length = n := by
  obtain ⟨taken, middle, first, later⟩ := run_bind_eq_ok.mp read
  obtain ⟨zeros, last, _, kept⟩ := run_bind_eq_ok.mp later
  have same : taken = bytes := by
    split at kept
    · cases kept
      rfl
    · cases kept
  exact same ▸ length_of_take first

theorem length_append {max n : Nat} (bound : n ≤ max) (small : n ≤ unbounded) (rest : Bytes) :
    (length max).run (count n ++ rest) = .ok (n, rest) := by
  refine (run_bind_ok (count_append small rest) _).trans ?_
  rw [if_pos bound]
  rfl

theorem length_le {max n : Nat} (read : (length max).run input = .ok (n, rest)) : n ≤ max := by
  obtain ⟨read', middle, _, kept⟩ := run_bind_eq_ok.mp read
  split at kept
  · rename_i bound
    cases kept
    exact bound
  · cases kept

/-! ## What was read -/

theorem append_of_take {n : Nat} {bytes : Bytes} (taken : (take n).run input = .ok (bytes, rest)) :
    input = bytes ++ rest := by
  change take n input = _ at taken
  simp only [take] at taken
  split at taken
  · cases taken
    exact (List.take_append_drop n input).symm
  · cases taken

/-- A number was read from its digits. -/
theorem append_of_number {width n : Nat} (read : (number width).run input = .ok (n, rest)) :
    n < Nat.pow 256 width ∧ input = bigEndian width n ++ rest := by
  obtain ⟨bytes, taken, rfl⟩ := run_map_eq_ok.mp read
  have less := ofBigEndian_lt bytes
  have digits := bigEndian_ofBigEndian bytes
  rw [length_of_take taken] at less digits
  rw [digits]
  exact ⟨less, append_of_take taken⟩

theorem append_of_padded {n : Nat} {bytes : Bytes} (read : (padded n).run input = .ok (bytes, rest)) :
    input = bytes ++ List.replicate (padding bytes.length) 0 ++ rest := by
  rw [length_of_padded read]
  obtain ⟨taken, middle, first, later⟩ := run_bind_eq_ok.mp read
  obtain ⟨zeros, last, second, kept⟩ := run_bind_eq_ok.mp later
  split at kept
  · rename_i empty
    cases kept
    have filled : zeros = List.replicate (padding n) 0 := by
      refine List.eq_replicate_iff.mpr ⟨length_of_take second, fun b member => ?_⟩
      exact eq_of_beq (List.all_eq_true.mp empty b member)
    rw [append_of_take first, append_of_take second, filled, List.append_assoc]
  · cases kept

theorem append_of_length {max n : Nat} (read : (length max).run input = .ok (n, rest)) :
    input = count n ++ rest := by
  obtain ⟨read', middle, first, kept⟩ := run_bind_eq_ok.mp read
  split at kept
  · cases kept
    exact (append_of_number first).2
  · cases kept

/-- Data is filled up to whole words. -/
theorem four_dvd_padded (n : Nat) : 4 ∣ n + padding n := by
  unfold padding
  omega

/-! ## Repetitions -/

variable {item : Reader α}

theorem times_append {write : α → Bytes} {xs : List α}
    (each : ∀ x ∈ xs, ∀ rest, item.run (write x ++ rest) = .ok (x, rest)) (rest : Bytes) :
    (times item xs.length).run (xs.flatMap write ++ rest) = .ok (xs, rest) := by
  induction xs with
  | nil => rfl
  | cons x xs ih =>
    rw [List.forall_mem_cons] at each
    rw [List.flatMap_cons, List.append_assoc]
    refine (run_bind_ok (each.1 _) _).trans ?_
    exact (run_bind_ok (ih each.2) _).trans rfl

theorem times_sound {P : α → Prop} (each : ∀ input x rest, item.run input = .ok (x, rest) → P x)
    {n : Nat} {xs : List α} (read : (times item n).run input = .ok (xs, rest)) :
    xs.length = n ∧ ∀ x ∈ xs, P x := by
  induction n generalizing input xs with
  | zero =>
    cases read
    exact ⟨rfl, fun _ none => nomatch none⟩
  | succ n ih =>
    obtain ⟨first, middle, one, more⟩ := run_bind_eq_ok.mp read
    obtain ⟨others, last, many, same⟩ := run_bind_eq_ok.mp more
    cases same
    obtain ⟨count, all⟩ := ih many
    exact ⟨congrArg (· + 1) count, List.forall_mem_cons.mpr ⟨each _ _ _ one, all⟩⟩

end AuthSigner.Xdr.Reader
