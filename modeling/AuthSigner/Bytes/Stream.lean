import AuthSigner.Bytes.Compaction

/-! Reading a byte stream into buffers of a given size, with the ASCII white
space left out. A source delivers chunks, may fail in between, and is at its end
for ever once nothing is left. A read that got nothing but white space reads
again, so that zero bytes always mean what they mean for the source itself. -/
namespace AuthSigner

/-- What a source delivers next: some bytes, none, or a failure. -/
inductive Arrival (ε : Type) where
  | chunk (bytes : Bytes)
  | failure (cause : ε)

/-- What a source will deliver, in order. -/
abbrev Source (ε : Type) := List (Arrival ε)

namespace Source

variable {ε : Type}

/-- One read into a buffer of `size` bytes. What does not fit stays for the next
read; an empty chunk, and the end of the source, are reads of zero bytes. -/
def read (size : Nat) : Source ε → Except ε Bytes × Source ε
  | [] => (.ok [], [])
  | .failure cause :: rest => (.error cause, rest)
  | .chunk bytes :: rest =>
    if bytes.length ≤ size then (.ok bytes, rest)
    else (.ok (bytes.take size), .chunk (bytes.drop size) :: rest)

/-- How many reads of one byte the source can answer at most before its end. -/
def weight : Source ε → Nat
  | [] => 0
  | .failure _ :: rest => 1 + weight rest
  | .chunk bytes :: rest => 1 + bytes.length + weight rest

/-- No read adds to a source. -/
theorem weight_read_le (size : Nat) (source : Source ε) :
    weight (source.read size).2 ≤ weight source := by
  match source with
  | [] => exact Nat.le_refl _
  | .failure cause :: rest => simp only [read, weight]; omega
  | .chunk delivered :: rest =>
    simp only [read]
    split
    · simp only [weight]; omega
    · simp only [weight, List.length_drop]; omega

/-- A read that gives bytes leaves less behind. -/
theorem weight_read_of_ne_nil {size : Nat} {bytes : Bytes} (source : Source ε)
    (given : (source.read size).1 = .ok bytes) (nonempty : bytes ≠ []) :
    weight (source.read size).2 < weight source := by
  match source with
  | [] =>
    simp only [read, Except.ok.injEq] at given
    exact absurd given.symm nonempty
  | .failure cause :: rest => simp [read] at given
  | .chunk delivered :: rest =>
    simp only [read] at given ⊢
    split
    · simp only [weight]; omega
    · rename_i large
      rw [if_neg large] at given
      have size_pos : 0 < size := by
        rcases Nat.eq_zero_or_pos size with rfl | pos
        · simp only [List.take_zero, Except.ok.injEq] at given
          exact absurd given.symm nonempty
        · exact pos
      simp only [weight, List.length_drop]
      omega

/-- A read into a buffer that is not empty uses up a source that is not at its end. -/
theorem weight_read_of_pos {size : Nat} {source : Source ε} (pos : 0 < size) (left : source ≠ []) :
    weight (source.read size).2 < weight source := by
  match source with
  | [] => exact absurd rfl left
  | .failure cause :: rest => simp only [read, weight]; omega
  | .chunk delivered :: rest =>
    simp only [read]
    split
    · simp only [weight]; omega
    · simp only [weight, List.length_drop]; omega

/-- A failed read uses up the failure. -/
theorem weight_read_of_error {size : Nat} {cause : ε} (source : Source ε)
    (failed : (source.read size).1 = .error cause) : weight (source.read size).2 < weight source := by
  match source with
  | [] => simp [read] at failed
  | .failure _ :: rest => simp only [read, weight]; omega
  | .chunk delivered :: rest =>
    simp only [read] at failed
    split at failed <;> simp at failed

/-- One read of the stream without white space: what the source gives with the
blanks taken out of the buffer, reading again while only blanks arrive. -/
def readSolid (size : Nat) (source : Source ε) : Except ε Bytes × Source ε :=
  match _ : source.read size with
  | (.error cause, rest) => (.error cause, rest)
  | (.ok bytes, rest) =>
    if _ : bytes = [] then (.ok [], rest)
    else if bytes.compact = [] then readSolid size rest
    else (.ok bytes.compact, rest)
termination_by source.weight
decreasing_by
  rename_i came nonempty _
  have less := weight_read_of_ne_nil source (congrArg Prod.fst came) nonempty
  rwa [came] at less

theorem weight_readSolid_le (size : Nat) (source : Source ε) :
    weight (source.readSolid size).2 ≤ weight source := by
  fun_induction readSolid size source with
  | case1 source cause rest h => simpa [h] using weight_read_le size source
  | case2 source rest h => simpa [h] using weight_read_le size source
  | case3 source bytes rest h nothing blank ih =>
    exact Nat.le_trans ih (by simpa [h] using weight_read_le size source)
  | case4 source bytes rest h nothing solid => simpa [h] using weight_read_le size source

/-- Reading again makes progress, unless the source is at its end or the buffer is
empty and nothing but zero bytes can come of it. -/
theorem weight_readSolid_lt (size : Nat) (source : Source ε)
    (progress : (0 < size ∧ source ≠ []) ∨ (source.readSolid size).1 ≠ .ok []) :
    weight (source.readSolid size).2 < weight source := by
  rcases progress with ⟨pos, left⟩ | some
  · have less := weight_read_of_pos pos left
    rw [readSolid]
    split
    · rename_i h; simpa [h] using less
    · rename_i h
      split
      · simpa [h] using less
      · split
        · exact Nat.lt_of_le_of_lt (weight_readSolid_le _ _) (by simpa [h] using less)
        · simpa [h] using less
  · fun_induction readSolid size source with
    | case1 source cause rest h =>
      simpa [h] using weight_read_of_error source (congrArg Prod.fst h)
    | case2 source rest h => exact absurd rfl some
    | case3 source bytes rest h nothing blank ih =>
      exact Nat.lt_of_lt_of_le (ih some) (by simpa [h] using weight_read_le size source)
    | case4 source bytes rest h nothing solid =>
      simpa [h] using weight_read_of_ne_nil source (congrArg Prod.fst h) nothing

/-- Reads until the source is at its end and says so. An empty buffer gets zero
bytes for ever, so the first such read is the last. -/
def solidReads (size : Nat) (source : Source ε) : List (Except ε Bytes) :=
  match _ : source.readSolid size with
  | (.ok [], rest) =>
    if _ : rest = [] ∨ size = 0 then [.ok []] else .ok [] :: solidReads size rest
  | (.ok (b :: bytes), rest) => .ok (b :: bytes) :: solidReads size rest
  | (.error cause, rest) => .error cause :: solidReads size rest
termination_by source.weight
decreasing_by
  · rename_i came more
    have less := weight_readSolid_lt size source <| .inl <| by
      refine ⟨Nat.pos_of_ne_zero fun z => more (.inr z), fun nothing => more (.inl ?_)⟩
      subst nothing
      simp [readSolid, read] at came
      exact came
    rwa [came] at less
  · rename_i came
    have less := weight_readSolid_lt size source (.inr (by simp [came]))
    rwa [came] at less
  · rename_i came
    have less := weight_readSolid_lt size source (.inr (by simp [came]))
    rwa [came] at less

end Source
end AuthSigner
