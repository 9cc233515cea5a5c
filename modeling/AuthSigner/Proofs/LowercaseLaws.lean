import AuthSigner.Text.Lowercase
import Mathlib

/-! Lower-casing and ASCII. A text in ASCII is put into lower case letter by letter. A character
beyond ASCII leaves its mark on the result: another one beyond ASCII, or the letter k, which is the
lower-case form of the kelvin sign. -/
namespace AuthSigner.Text

/-- Runs that reach beyond ASCII start beyond it and lead to characters beyond it, with one exception. -/
private theorem runs_beyond : ∀ r ∈ caseRuns, 128 ≤ r.last → r = ⟨0x212A, 0x212A, 1, 0x6B⟩ ∨
    128 ≤ r.lower ∧ (r.lower + (r.last - r.first) < 0xD800 ∨
      0xDFFF < r.lower ∧ r.lower + (r.last - r.first) < 0x110000) := by
  decide +kernel

private theorem simpleLower_code : ∀ n < 128, simpleLower (Char.ofNat n) = (Char.ofNat n).toLower := by
  decide +kernel

/-- In ASCII only the capital letters change. -/
theorem simpleLower_of_ascii {c : Char} (ascii : c.toNat < 128) : simpleLower c = c.toLower := by
  have lowered := simpleLower_code c.toNat ascii
  rwa [Char.ofNat_toNat] at lowered

theorem simpleLower_of_beyond {c : Char} (beyond : 128 ≤ c.toNat) :
    simpleLower c = 'k' ∨ 128 ≤ (simpleLower c).toNat := by
  unfold simpleLower
  dsimp only
  split
  · rename_i r found
    have listed := List.mem_of_find?_eq_some found
    have within := List.find?_some found
    simp only [Bool.and_eq_true, decide_eq_true_eq] at within
    obtain ⟨⟨first, last⟩, _⟩ := within
    rcases runs_beyond r listed (Nat.le_trans beyond last) with rfl | ⟨wide, valid⟩
    · -- the run of the kelvin sign has no other character
      have sign : c.toNat = 0x212A := Nat.le_antisymm last first
      rw [sign]
      exact .inl rfl
    · have valid : (r.lower + (c.toNat - r.first)).isValidChar := by
        unfold Nat.isValidChar
        omega
      rw [Char.toNat_ofNat, if_pos valid]
      exact .inr (by omega)
  · exact .inr beyond

variable {c : Char} {text : List Char}

/-- A text in ASCII is lower-cased letter by letter. -/
theorem lowerFrom_of_ascii (ascii : ∀ c ∈ text, c.toNat < 128) (before : List Char) :
    lowerFrom before text = text.map Char.toLower := by
  induction text generalizing before with
  | nil => rfl
  | cons c rest ih =>
    rw [List.forall_mem_cons] at ascii
    have noSigma : c ≠ 'Σ' := by
      rintro rfl
      exact absurd ascii.1 (by decide)
    have noDotted : c ≠ 'İ' := by
      rintro rfl
      exact absurd ascii.1 (by decide)
    rw [lowerFrom, if_neg noSigma, if_neg noDotted, simpleLower_of_ascii ascii.1, ih ascii.2]
    rfl

/-- The first character beyond ASCII leaves its mark, whatever stands around it. -/
private theorem lowerFrom_of_first (beyond : 128 ≤ c.toNat) (before rest : List Char) :
    ∃ d ∈ lowerFrom before (c :: rest), d = 'k' ∨ 128 ≤ d.toNat := by
  unfold lowerFrom
  dsimp only
  split
  · split
    · exact ⟨'ς', List.mem_cons_self, .inr (by decide)⟩
    · exact ⟨'σ', List.mem_cons_self, .inr (by decide)⟩
  · split
    · exact ⟨'\u0307', .tail _ List.mem_cons_self, .inr (by decide)⟩
    · exact ⟨simpleLower c, List.mem_cons_self, simpleLower_of_beyond beyond⟩

/-- A character beyond ASCII leaves its mark, wherever it stands. -/
theorem lowerFrom_of_beyond (member : c ∈ text) (beyond : 128 ≤ c.toNat) (before : List Char) :
    ∃ d ∈ lowerFrom before text, d = 'k' ∨ 128 ≤ d.toNat := by
  induction text generalizing before with
  | nil => cases member
  | cons first rest ih =>
    rcases List.mem_cons.mp member with rfl | later
    · exact lowerFrom_of_first beyond before rest
    · obtain ⟨d, mark, seen⟩ := ih later (first :: before)
      rw [lowerFrom]
      exact ⟨d, List.mem_append_right _ mark, seen⟩

/-- A word in ASCII without the letter k is the lower-case form of its own spellings in ASCII, and of
nothing else. -/
theorem lowercase_eq_iff {word : String} (plain : ∀ c ∈ word.toList, c.toNat < 128 ∧ c ≠ 'k') {name : String} :
    lowercase name = word ↔ (∀ c ∈ name.toList, c.toNat < 128) ∧ name.toList.map Char.toLower = word.toList := by
  have lowered : lowercase name = word ↔ lowerFrom [] name.toList = word.toList := by
    rw [← String.toList_inj, lowercase, String.toList_ofList]
  rw [lowered]
  constructor
  · intro same
    have ascii : ∀ c ∈ name.toList, c.toNat < 128 := by
      intro c member
      refine Nat.lt_of_not_le fun beyond => ?_
      obtain ⟨d, mark, seen⟩ := lowerFrom_of_beyond member beyond []
      obtain ⟨small, other⟩ := plain d (same ▸ mark)
      rcases seen with kelvin | beyond
      · exact other kelvin
      · omega
    exact ⟨ascii, (lowerFrom_of_ascii ascii []).symm.trans same⟩
  · rintro ⟨ascii, same⟩
    exact (lowerFrom_of_ascii ascii []).trans same

end AuthSigner.Text
