import AuthSigner.Bytes.Blank

/-! Taking the white space out of a buffer in place. One index passes over the bytes of the
buffer, another counts those that are kept, and each byte that is kept moves to the front. What
is passed twice over is never read again, so the front ends up with the bytes that are not white
space, in their order. -/
namespace AuthSigner

/-- A buffer at some point of the passing over it. -/
structure Compaction where
  buffer : Array UInt8
  /-- How many bytes are kept. They are the front of the buffer. -/
  kept : Nat
  /-- How many bytes were passed. -/
  passed : Nat
  kept_le_passed : kept ≤ passed

namespace Compaction

theorem kept_lt_size {c : Compaction} (inside : c.passed < c.buffer.size) : c.kept < c.buffer.size :=
  Nat.lt_of_le_of_lt c.kept_le_passed inside

/-- Nothing is passed yet. -/
def start (buffer : Array UInt8) : Compaction := ⟨buffer, 0, 0, Nat.le_refl 0⟩

/-- Passes one byte, which moves to the front unless it is white space. -/
def step (c : Compaction) (inside : c.passed < c.buffer.size) : Compaction :=
  let b := c.buffer[c.passed]
  if isBlank b then ⟨c.buffer, c.kept, c.passed + 1, Nat.le_succ_of_le c.kept_le_passed⟩
  else ⟨c.buffer.set c.kept b (kept_lt_size inside), c.kept + 1, c.passed + 1,
    Nat.succ_le_succ c.kept_le_passed⟩

theorem size_step (c : Compaction) (inside : c.passed < c.buffer.size) :
    (c.step inside).buffer.size = c.buffer.size := by
  unfold step
  simp only
  split
  · rfl
  · exact Array.size_set (kept_lt_size inside)

theorem passed_step (c : Compaction) (inside : c.passed < c.buffer.size) :
    (c.step inside).passed = c.passed + 1 := by
  unfold step
  simp only
  split <;> rfl

/-- Passes all bytes that are left. -/
def finish (c : Compaction) : Compaction :=
  if inside : c.passed < c.buffer.size then (c.step inside).finish else c
termination_by c.buffer.size - c.passed
decreasing_by
  rw [size_step, passed_step]
  omega

/-- The bytes that are kept. -/
def front (c : Compaction) : Bytes := c.buffer.toList.take c.kept

/-- With these bytes in the buffer at the start, the front has what is solid of the passed ones, and
those that were not passed stand where they stood. -/
structure Of (bytes : Bytes) (c : Compaction) : Prop where
  size : c.buffer.size = bytes.length
  front : c.front = Bytes.solid (bytes.take c.passed)
  behind : ∀ i, c.passed ≤ i → c.buffer[i]? = bytes[i]?

variable {bytes : Bytes} {c : Compaction}

theorem of_start (bytes : Bytes) : Of bytes (start bytes.toArray) where
  size := List.size_toArray
  front := rfl
  behind _ _ := List.getElem?_toArray

theorem take_passed_succ (of : Of bytes c) (inside : c.passed < c.buffer.size) :
    bytes.take (c.passed + 1) = bytes.take c.passed ++ [c.buffer[c.passed]] := by
  have same := of.behind c.passed (Nat.le_refl _)
  rw [Array.getElem?_eq_getElem inside] at same
  rw [List.take_add_one, ← same]
  rfl

theorem front_step_of_blank {inside : c.passed < c.buffer.size} (blank : isBlank c.buffer[c.passed] = true) :
    (c.step inside).front = c.front := by
  simp only [step, if_pos blank, front]

theorem front_step_of_solid {inside : c.passed < c.buffer.size} (solid : ¬ isBlank c.buffer[c.passed] = true) :
    (c.step inside).front = c.front ++ [c.buffer[c.passed]] := by
  have apart : c.kept < c.buffer.toList.length := kept_lt_size inside
  simp only [step, if_neg solid, front, Array.toList_set]
  rw [List.take_add_one, List.take_set_of_le (Nat.le_refl _), List.getElem?_set_self apart]
  rfl

/-- A step writes only where it has passed. -/
theorem behind_step {inside : c.passed < c.buffer.size} {i : Nat} (behind : c.passed < i) :
    (c.step inside).buffer[i]? = c.buffer[i]? := by
  have other : c.kept ≠ i := Nat.ne_of_lt (Nat.lt_of_le_of_lt c.kept_le_passed behind)
  unfold step
  simp only
  split
  · rfl
  · exact Array.getElem?_set_ne (kept_lt_size inside) other

theorem of_step (of : Of bytes c) (inside : c.passed < c.buffer.size) : Of bytes (c.step inside) where
  size := (c.size_step inside).trans of.size
  front := by
    rw [passed_step, take_passed_succ of inside, Bytes.solid, List.filter_append]
    change _ = Bytes.solid (bytes.take c.passed) ++ _
    rw [← of.front]
    by_cases blank : isBlank c.buffer[c.passed] = true
    · rw [front_step_of_blank blank, List.filter_cons_of_neg (by simp [blank]), List.filter_nil,
        List.append_nil]
    · rw [front_step_of_solid blank, List.filter_cons_of_pos (by simpa using blank), List.filter_nil]
  behind i passed := by
    rw [passed_step] at passed
    rw [behind_step passed, of.behind i (Nat.le_of_succ_le passed)]

/-- Passing over all of a buffer keeps what is solid. -/
theorem front_finish (of : Of bytes c) : c.finish.front = bytes.solid := by
  fun_induction finish c with
  | case1 c inside ih => exact ih (of_step of inside)
  | case2 c past =>
    have all : bytes.length ≤ c.passed := by
      rw [← of.size]
      exact Nat.le_of_not_lt past
    rw [of.front, List.take_of_length_le all]

end Compaction

/-- The bytes that a buffer of these bytes has at its front after the passing over it. -/
def Bytes.compact (bytes : Bytes) : Bytes := (Compaction.start bytes.toArray).finish.front

/-- They are those that are not white space. -/
theorem Bytes.compact_eq_solid (bytes : Bytes) : bytes.compact = bytes.solid :=
  Compaction.front_finish (Compaction.of_start bytes)

end AuthSigner
