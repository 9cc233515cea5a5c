import AuthSigner.Bytes.Octets

/-! Bytes with places in them. A layout lists stretches of bytes that stay and slots that
pieces are put into. Whatever the pieces are, the same blocks stand between them, and a
block is all that stays from one slot to the next. -/
namespace AuthSigner

/-- A part of a layout: bytes that stay, or a slot for a piece. A slot is named, and its
name tells what stays just before and just behind the piece. -/
inductive Fragment (α : Type) where
  | kept (bytes : Bytes)
  | slot (name : α)

/-- A first block, and then a piece before every further block. -/
def splice (first : Bytes) (pieces later : List Bytes) : Bytes :=
  first ++ (List.zipWith (· ++ ·) pieces later).flatten

namespace Fragment

variable {α : Type} (before behind : α → Bytes)

/-- The names of the slots, in order. -/
def slots : List (Fragment α) → List α
  | [] => []
  | .kept _ :: rest => slots rest
  | .slot name :: rest => name :: slots rest

/-- The bytes with these pieces in the slots. -/
def spell (piece : α → Bytes) : List (Fragment α) → Bytes
  | [] => []
  | .kept bytes :: rest => bytes ++ spell piece rest
  | .slot name :: rest => (before name ++ piece name ++ behind name) ++ spell piece rest

/-- What stays up to the first slot, and after each slot up to the next. -/
def blocks : List (Fragment α) → Bytes × List Bytes
  | [] => ([], [])
  | .kept bytes :: rest => (bytes ++ (blocks rest).1, (blocks rest).2)
  | .slot name :: rest => (before name, (behind name ++ (blocks rest).1) :: (blocks rest).2)

theorem slots_append (layout layout' : List (Fragment α)) :
    slots (layout ++ layout') = slots layout ++ slots layout' := by
  induction layout with
  | nil => rfl
  | cons fragment rest ih => cases fragment <;> simp [slots, ih]

variable {before behind} {piece : α → Bytes}

theorem spell_append (layout layout' : List (Fragment α)) :
    spell before behind piece (layout ++ layout') =
      spell before behind piece layout ++ spell before behind piece layout' := by
  induction layout with
  | nil => rfl
  | cons fragment rest ih => cases fragment <;> simp [spell, ih]

/-- Spelling a layout is splicing the pieces in between its blocks. -/
theorem spell_eq_splice (layout : List (Fragment α)) : spell before behind piece layout =
    splice (blocks before behind layout).1 ((slots layout).map piece) (blocks before behind layout).2 := by
  induction layout with
  | nil => rfl
  | cons fragment rest ih => cases fragment <;> simp [spell, blocks, slots, splice, ih]

/-- There is one more block than there are slots. -/
theorem blocks_length (layout : List (Fragment α)) :
    (blocks before behind layout).2.length = (slots layout).length := by
  induction layout with
  | nil => rfl
  | cons fragment rest ih => cases fragment <;> simp [blocks, slots, ih]

/-- The block before a slot ends, and the one behind it begins, as the slot's name tells. -/
theorem block_around {layout : List (Fragment α)} {i : Nat} {name : α}
    (here : (slots layout)[i]? = some name) :
    ∃ left right, ((blocks before behind layout).1 :: (blocks before behind layout).2)[i]? =
        some (left ++ before name) ∧
      (blocks before behind layout).2[i]? = some (behind name ++ right) := by
  induction layout generalizing i with
  | nil => cases here
  | cons fragment rest ih =>
    cases fragment with
    | kept bytes =>
      obtain ⟨left, right, ends, begins⟩ := ih here
      cases i with
      | zero =>
        -- the bytes join the block before the slot
        rw [List.getElem?_cons_zero, Option.some.injEq] at ends
        refine ⟨bytes ++ left, right, ?_, begins⟩
        simp [blocks, ends]
      | succ i => exact ⟨left, right, ends, begins⟩
    | slot name' =>
      cases i with
      | zero =>
        obtain rfl : name' = name := Option.some.inj here
        exact ⟨[], (blocks before behind rest).1, rfl, rfl⟩
      | succ i =>
        obtain ⟨left, right, ends, begins⟩ := ih here
        cases i with
        | zero =>
          rw [List.getElem?_cons_zero, Option.some.injEq] at ends
          refine ⟨behind name' ++ left, right, ?_, begins⟩
          simp [blocks, ends]
        | succ i => exact ⟨left, right, ends, begins⟩

/-! ## Stretches without a slot -/

/-- These bytes are a part of the layout in which there is no slot. -/
def Stays (bytes : Bytes) (layout : List (Fragment α)) : Prop :=
  ∃ (front : List (Fragment α)) (stretch : List Bytes) (tail : List (Fragment α)),
    layout = front ++ (stretch.map .kept ++ tail) ∧ stretch.flatten = bytes

theorem Stays.left {bytes : Bytes} {layout : List (Fragment α)} (stays : Stays bytes layout)
    (further : List (Fragment α)) : Stays bytes (layout ++ further) := by
  obtain ⟨front, stretch, tail, rfl, flat⟩ := stays
  exact ⟨front, stretch, tail ++ further, by simp only [List.append_assoc], flat⟩

theorem Stays.right {bytes : Bytes} {layout : List (Fragment α)} (further : List (Fragment α))
    (stays : Stays bytes layout) : Stays bytes (further ++ layout) := by
  obtain ⟨front, stretch, tail, rfl, flat⟩ := stays
  exact ⟨further ++ front, stretch, tail, by simp only [List.append_assoc], flat⟩

theorem kept_of_no_slots {layout : List (Fragment α)} (none : slots layout = []) :
    ∃ stretch : List Bytes, layout = stretch.map .kept ∧
      stretch.flatten = spell before behind piece layout := by
  induction layout with
  | nil => exact ⟨[], rfl, rfl⟩
  | cons fragment rest ih =>
    cases fragment with
    | kept bytes =>
      obtain ⟨stretch, same, flat⟩ := ih none
      exact ⟨bytes :: stretch, by rw [same]; rfl, by rw [List.flatten_cons, flat]; rfl⟩
    | slot name => cases none

/-- A layout without a slot stays whole. -/
theorem stays_of_no_slots {layout : List (Fragment α)} (none : slots layout = []) :
    Stays (spell before behind piece layout) layout := by
  obtain ⟨stretch, same, flat⟩ := kept_of_no_slots none
  exact ⟨[], stretch, [], by rw [List.append_nil]; exact same, flat⟩

theorem blocks_kept (stretch : List Bytes) (tail : List (Fragment α)) :
    (blocks before behind (stretch.map .kept ++ tail)).1 =
      stretch.flatten ++ (blocks before behind tail).1 := by
  induction stretch with
  | nil => rfl
  | cons bytes stretch ih => simp [blocks, ih]

/-- A stretch without a slot is within one block. -/
theorem Stays.within_block {bytes : Bytes} {layout : List (Fragment α)} (stays : Stays bytes layout) :
    ∃ b ∈ (blocks before behind layout).1 :: (blocks before behind layout).2, bytes <:+: b := by
  obtain ⟨front, stretch, tail, rfl, rfl⟩ := stays
  induction front with
  | nil => exact ⟨_, .head _, [], _, (blocks_kept stretch tail).symm⟩
  | cons fragment front ih =>
    -- what is put in front either lengthens the first block or adds one before it
    obtain ⟨b, member, inside⟩ := ih
    rw [List.mem_cons] at member
    cases fragment with
    | kept bytes =>
      rcases member with rfl | later
      · exact ⟨_, .head _, inside.trans (List.suffix_append _ _).isInfix⟩
      · exact ⟨b, .tail _ later, inside⟩
    | slot name =>
      rcases member with rfl | later
      · exact ⟨_, .tail _ (.head _), inside.trans (List.suffix_append _ _).isInfix⟩
      · exact ⟨b, .tail _ (.tail _ later), inside⟩

end Fragment
end AuthSigner
