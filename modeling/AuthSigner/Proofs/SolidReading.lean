import AuthSigner.Bytes.Stream
import Mathlib.Algebra.BigOperators.Group.List.Basic

/-! Reading a source without its white space. A call reads the source until a read gives something
else than white space, and that read alone decides the answer. So nothing that is not white space
is lost or made up, the end is told where the source tells it and nowhere else, and all that comes
out in the end depends on the bytes of the source, not on where they were cut. -/
namespace AuthSigner

variable {ε : Type}

/-- The bytes that a read gave. -/
def delivered : Except ε Bytes → Bytes
  | .ok bytes => bytes
  | .error _ => []

/-- The bytes that several reads gave, one after the other. -/
def output (answers : List (Except ε Bytes)) : Bytes := answers.flatMap delivered

namespace Source

/-- All bytes that a source will give. -/
def content : Source ε → Bytes
  | [] => []
  | .failure _ :: rest => content rest
  | .chunk bytes :: rest => bytes ++ content rest

/-- Some reads in a row into buffers of the same size. -/
def reads (size : Nat) : Nat → Source ε → List (Except ε Bytes) × Source ε
  | 0, source => ([], source)
  | count + 1, source =>
    let (later, last) := reads size count (source.read size).2
    ((source.read size).1 :: later, last)

/-- Calls in a row that leave the white space out, each with a buffer of its own size. -/
def calls : List Nat → Source ε → List (Except ε Bytes) × Source ε
  | [], source => ([], source)
  | size :: sizes, source =>
    let (later, last) := calls sizes (source.readSolid size).2
    ((source.readSolid size).1 :: later, last)

/-- A source that gives bytes with every read until its end, and does not fail. -/
def Steady (source : Source ε) : Prop := ∀ arrival ∈ source, ∃ bytes, bytes ≠ [] ∧ arrival = .chunk bytes

/-- What a call does with a source: it reads, and it reads again as long as it gets white space and
nothing else. The last read is of another kind, and its bytes without white space, or its failure,
are the answer. -/
structure Call (size : Nat) (source : Source ε) (blanks : List Bytes) (last answer : Except ε Bytes)
    (rest : Source ε) : Prop where
  reads : source.reads size (blanks.length + 1) = (blanks.map .ok ++ [last], rest)
  blank : ∀ bytes ∈ blanks, bytes ≠ [] ∧ bytes.solid = []
  stops : ∀ bytes, last = .ok bytes → bytes.solid = [] → bytes = []
  answer : answer = last.map Bytes.solid

variable {source rest : Source ε} {size : Nat} {blanks : List Bytes} {last answer : Except ε Bytes}

/-! ## One read -/

theorem content_read (size : Nat) (source : Source ε) :
    source.content = delivered (source.read size).1 ++ (source.read size).2.content := by
  match source with
  | [] => rfl
  | .failure cause :: rest => rfl
  | .chunk bytes :: rest =>
    simp only [read]
    split
    · rfl
    · simp only [delivered, content]
      rw [← List.append_assoc, List.take_append_drop]

theorem length_read (size : Nat) (source : Source ε) : (delivered (source.read size).1).length ≤ size := by
  match source with
  | [] => exact Nat.zero_le _
  | .failure cause :: rest => exact Nat.zero_le _
  | .chunk bytes :: rest =>
    simp only [read]
    split
    · rename_i fits
      exact fits
    · exact List.length_take_le size bytes

/-- A steady source gives bytes and stays steady, or it is at its end. -/
theorem read_of_steady (steady : source.Steady) (pos : 0 < size) :
    source = [] ∨ ∃ bytes, bytes ≠ [] ∧ (source.read size).1 = .ok bytes ∧ (source.read size).2.Steady := by
  match source with
  | [] => exact .inl rfl
  | arrival :: rest =>
    right
    obtain ⟨bytes, nonempty, rfl⟩ := steady arrival List.mem_cons_self
    have later : Steady rest := fun a member => steady a (List.mem_cons_of_mem _ member)
    simp only [read]
    split
    · exact ⟨bytes, nonempty, rfl, later⟩
    · rename_i large
      have some : 0 < bytes.length := List.length_pos_iff.mpr nonempty
      refine ⟨bytes.take size, ?_, rfl, ?_⟩
      · apply List.ne_nil_of_length_pos
        rw [List.length_take]
        omega
      · intro a member
        rcases List.mem_cons.mp member with rfl | member
        · refine ⟨bytes.drop size, ?_, rfl⟩
          apply List.ne_nil_of_length_pos
          rw [List.length_drop]
          omega
        · exact later a member

/-! ## One call -/

theorem content_reads (size count : Nat) (source : Source ε) :
    source.content = output (source.reads size count).1 ++ (source.reads size count).2.content := by
  induction count generalizing source with
  | zero => rfl
  | succ count ih =>
    rw [content_read size source, ih (source.read size).2]
    simp only [reads, output, List.flatMap_cons, List.append_assoc]

theorem length_reads (size count : Nat) (source : Source ε) :
    ∀ given ∈ (source.reads size count).1, (delivered given).length ≤ size := by
  induction count generalizing source with
  | zero => exact List.forall_mem_nil _
  | succ count ih => exact List.forall_mem_cons.mpr ⟨length_read size source, ih (source.read size).2⟩

/-- Every call is one of reads of the source. -/
theorem call_made (size : Nat) (source : Source ε) :
    ∃ blanks last, source.Call size blanks last (source.readSolid size).1 (source.readSolid size).2 := by
  fun_induction readSolid size source with
  | case1 source cause rest given =>
    refine ⟨[], .error cause, ?_, List.forall_mem_nil _, ?_, rfl⟩
    · simp only [List.length_nil, reads, given, List.map_nil, List.nil_append]
    · intro bytes failed
      cases failed
  | case2 source rest given =>
    refine ⟨[], .ok [], ?_, List.forall_mem_nil _, fun _ same _ => (Except.ok.inj same).symm, rfl⟩
    simp only [List.length_nil, reads, given, List.map_nil, List.nil_append]
  | case3 source bytes rest given nonempty blank ih =>
    obtain ⟨blanks, last, made⟩ := ih
    rw [Bytes.compact_eq_solid] at blank
    refine ⟨bytes :: blanks, last, ?_, List.forall_mem_cons.mpr ⟨⟨nonempty, blank⟩, made.blank⟩, made.stops,
      made.answer⟩
    rw [List.length_cons, reads, given]
    simp only [made.reads, List.map_cons, List.cons_append]
  | case4 source bytes rest given nonempty solid =>
    rw [Bytes.compact_eq_solid] at solid ⊢
    refine ⟨[], .ok bytes, ?_, List.forall_mem_nil _, ?_, rfl⟩
    · simp only [List.length_nil, reads, given, List.map_nil, List.nil_append]
    · intro other same empty
      cases same
      exact absurd empty solid

namespace Call

variable (call : source.Call size blanks last answer rest)
include call

theorem content_eq : source.content = blanks.flatten ++ (delivered last ++ rest.content) := by
  have all := content_reads size (blanks.length + 1) source
  have given : output (blanks.map .ok : List (Except ε Bytes)) = blanks.flatten := by
    rw [output, List.flatMap_map]
    exact List.flatMap_id'
  rw [call.reads] at all
  simp only [output, List.flatMap_append, List.flatMap_cons, List.flatMap_nil, List.append_nil] at all
  rw [all, ← given, List.append_assoc, output]

theorem solid_blanks : Bytes.solid blanks.flatten = [] := by
  apply List.filter_eq_nil_iff.mpr
  intro b member
  obtain ⟨bytes, listed, inside⟩ := List.mem_flatten.mp member
  exact List.filter_eq_nil_iff.mp (call.blank bytes listed).2 b inside

/-- A call gives what it takes, without the white space. -/
theorem consumes : ∃ consumed, source.content = consumed ++ rest.content ∧ delivered answer = consumed.solid := by
  refine ⟨blanks.flatten ++ delivered last, ?_, ?_⟩
  · rw [call.content_eq, List.append_assoc]
  · rw [Bytes.solid, List.filter_append]
    have none : blanks.flatten.filter (fun b => !isBlank b) = [] := call.solid_blanks
    rw [none, call.answer]
    cases last <;> rfl

/-- A failed call has taken white space only. -/
theorem consumes_blanks {cause : ε} (failed : last = .error cause) :
    ∃ consumed, source.content = consumed ++ rest.content ∧ consumed.solid = [] := by
  refine ⟨blanks.flatten, ?_, call.solid_blanks⟩
  rw [call.content_eq, failed]
  rfl

theorem answer_eq_nil_iff : answer = .ok [] ↔ last = .ok [] := by
  rw [call.answer]
  cases last with
  | error cause => exact ⟨nofun, nofun⟩
  | ok bytes =>
    constructor
    · intro empty
      rw [call.stops bytes rfl (Except.ok.inj empty)]
    · rintro ⟨⟩
      rfl

theorem answer_eq_error_iff {cause : ε} : answer = .error cause ↔ last = .error cause := by
  rw [call.answer]
  cases last with
  | error other => exact Iff.rfl
  | ok bytes => exact ⟨nofun, nofun⟩

theorem length_last : (delivered last).length ≤ size := by
  apply length_reads size (blanks.length + 1) source
  rw [call.reads]
  exact List.mem_append_right _ (List.mem_singleton_self last)

theorem length_answer : (delivered answer).length ≤ size := by
  have bound := call.length_last
  rw [call.answer]
  cases last with
  | error cause => exact bound
  | ok bytes => exact Nat.le_trans (List.length_filter_le _ bytes) bound

/-- A call reads no more often than there are bytes, and once more. -/
theorem length_blanks : blanks.length ≤ source.content.length := by
  have each : ∀ n ∈ blanks.map List.length, 1 ≤ n := by
    intro n member
    obtain ⟨bytes, listed, rfl⟩ := List.mem_map.mp member
    exact List.length_pos_iff.mpr (call.blank bytes listed).1
  have sum := List.length_le_sum_of_one_le _ each
  rw [call.content_eq, List.length_append, List.length_flatten]
  rw [List.length_map] at sum
  omega

/-- Nothing is taken into an empty buffer. -/
theorem content_of_empty_buffer (empty : size = 0) : rest.content = source.content := by
  have short := call.length_last
  have none : blanks = [] := by
    apply List.eq_nil_iff_forall_not_mem.mpr
    intro bytes listed
    have bound : (delivered (.ok bytes : Except ε Bytes)).length ≤ size := by
      apply length_reads size (blanks.length + 1) source
      rw [call.reads]
      exact List.mem_append_left _ (List.mem_map_of_mem listed)
    rw [empty] at bound
    exact (call.blank bytes listed).1 (List.eq_nil_of_length_eq_zero (Nat.le_zero.mp bound))
  rw [empty] at short
  rw [call.content_eq, none, List.eq_nil_of_length_eq_zero (Nat.le_zero.mp short)]
  rfl

end Call

/-! ## Calls in a row -/

theorem length_calls (sizes : List Nat) (source : Source ε) : (source.calls sizes).1.length = sizes.length := by
  induction sizes generalizing source with
  | nil => rfl
  | cons size sizes ih => exact congrArg (· + 1) (ih (source.readSolid size).2)

/-- What calls give is what they take, without the white space. -/
theorem calls_consume (sizes : List Nat) (source : Source ε) :
    ∃ consumed, source.content = consumed ++ (source.calls sizes).2.content ∧
      output (source.calls sizes).1 = consumed.solid := by
  induction sizes generalizing source with
  | nil => exact ⟨[], rfl, rfl⟩
  | cons size sizes ih =>
    obtain ⟨_, _, call⟩ := call_made size source
    obtain ⟨first, taken, given⟩ := call.consumes
    obtain ⟨later, taken', given'⟩ := ih (source.readSolid size).2
    refine ⟨first ++ later, ?_, ?_⟩
    · rw [taken, taken', List.append_assoc]
      rfl
    · rw [Bytes.solid, List.filter_append]
      change _ = first.solid ++ later.solid
      rw [← given, ← given']
      rfl

/-! ## Steady sources -/

theorem readSolid_of_empty_buffer (steady : source.Steady) : source.readSolid 0 = (.ok [], source) := by
  have nothing : source.read 0 = (.ok [], source) := by
    match source with
    | [] => rfl
    | arrival :: rest =>
      obtain ⟨bytes, nonempty, rfl⟩ := steady arrival List.mem_cons_self
      have large : ¬ bytes.length ≤ 0 := fun none =>
        nonempty (List.eq_nil_of_length_eq_zero (Nat.le_zero.mp none))
      rw [read, if_neg large]
      rfl
  rw [readSolid]
  split
  · rename_i failed
    rw [nothing] at failed
    cases failed
  · rename_i given
    rw [nothing] at given
    cases given
    exact dif_pos rfl

/-- A call with room in its buffer gives bytes, or the source is at its end. -/
theorem readSolid_of_steady (steady : source.Steady) (pos : 0 < size) :
    (∃ bytes, bytes ≠ [] ∧ (source.readSolid size).1 = .ok bytes ∧ (source.readSolid size).2.Steady) ∨
      (source.readSolid size).1 = .ok [] ∧ (source.readSolid size).2 = [] := by
  fun_induction readSolid size source with
  | case1 source cause rest given =>
    rcases read_of_steady steady pos with rfl | ⟨bytes, _, read, _⟩
    · cases given
    · rw [given] at read
      cases read
  | case2 source rest given =>
    rcases read_of_steady steady pos with rfl | ⟨bytes, nonempty, read, _⟩
    · cases given
      exact .inr ⟨rfl, rfl⟩
    · rw [given] at read
      exact absurd (Except.ok.inj read).symm nonempty
  | case3 source bytes rest given nonempty blank ih =>
    rcases read_of_steady steady pos with rfl | ⟨_, _, _, later⟩
    · cases given
      exact absurd rfl nonempty
    · rw [given] at later
      exact ih later
  | case4 source bytes rest given nonempty solid =>
    rcases read_of_steady steady pos with rfl | ⟨_, _, _, later⟩
    · cases given
      exact absurd rfl nonempty
    · rw [given] at later
      exact .inl ⟨_, solid, rfl, later⟩

theorem steady_readSolid (steady : source.Steady) (size : Nat) : (source.readSolid size).2.Steady := by
  rcases Nat.eq_zero_or_pos size with rfl | pos
  · rw [readSolid_of_empty_buffer steady]
    exact steady
  · rcases readSolid_of_steady steady pos with ⟨_, _, _, later⟩ | ⟨_, ended⟩
    · exact later
    · rw [ended]
      exact List.forall_mem_nil _

theorem steady_calls (steady : source.Steady) (sizes : List Nat) : (source.calls sizes).2.Steady := by
  induction sizes generalizing source with
  | nil => exact steady
  | cons size sizes ih => exact ih (steady_readSolid steady size)

theorem content_of_call (size : Nat) (source : Source ε) :
    source.content.solid = delivered (source.readSolid size).1 ++ (source.readSolid size).2.content.solid := by
  obtain ⟨_, _, call⟩ := call_made size source
  obtain ⟨consumed, taken, given⟩ := call.consumes
  rw [given, taken]
  exact List.filter_append consumed _

theorem content_of_calls (sizes : List Nat) (source : Source ε) :
    source.content.solid = output (source.calls sizes).1 ++ (source.calls sizes).2.content.solid := by
  obtain ⟨consumed, taken, given⟩ := calls_consume sizes source
  rw [given, taken]
  exact List.filter_append consumed _

/-- Where a call with room in its buffer tells the end, all has been given. -/
theorem output_of_end (steady : source.Steady) {sizes : List Nat} (pos : 0 < size)
    (told : ((source.calls sizes).2.readSolid size).1 = .ok []) :
    output (source.calls sizes).1 = source.content.solid := by
  have left : (source.calls sizes).2.content.solid = [] := by
    rcases readSolid_of_steady (steady_calls steady sizes) pos with ⟨bytes, nonempty, given, _⟩ | ⟨_, ended⟩
    · rw [told] at given
      exact absurd (Except.ok.inj given).symm nonempty
    · rw [content_of_call size, told, ended]
      rfl
  rw [content_of_calls sizes source, left, List.append_nil]

/-- As many calls with room in their buffers as there are bytes to give, and one more, give all. -/
theorem output_of_enough (steady : source.Steady) {sizes : List Nat}
    (enough : source.content.solid.length < (sizes.filter (0 < ·)).length) :
    output (source.calls sizes).1 = source.content.solid := by
  induction sizes generalizing source with
  | nil => exact absurd enough (Nat.not_lt_zero _)
  | cons size sizes ih =>
    have whole := content_of_call size source
    have later : Steady (source.readSolid size).2 := steady_readSolid steady size
    change delivered (source.readSolid size).1 ++ output ((source.readSolid size).2.calls sizes).1 = _
    rcases Nat.eq_zero_or_pos size with rfl | pos
    · rw [List.filter_cons_of_neg (by decide)] at enough
      rw [readSolid_of_empty_buffer steady]
      exact ih steady enough
    · rcases readSolid_of_steady steady pos with ⟨bytes, nonempty, given, _⟩ | ⟨given, ended⟩
      · have some : 0 < bytes.length := List.length_pos_iff.mpr nonempty
        rw [List.filter_cons_of_pos (by simpa using pos), whole, given] at enough
        simp only [delivered, List.length_append, List.length_cons] at enough
        rw [whole, ih later (by omega)]
      · have rest := content_of_calls sizes ([] : Source ε)
        rw [whole, ended, given]
        exact (List.append_eq_nil_iff.mp rest.symm).1

end Source

/-- A source is read without its white space, however it is cut into chunks and however large the
buffers are. A call ends after a bounded number of reads of the source, all but the last of which
give white space. It answers with the end exactly if its last read gave no bytes, and with a
failure exactly if a read failed, in which case all that it had taken is white space; it
never gives more bytes than its buffer holds, and takes none into an empty one. At every point of
a row of calls, what they gave is what they took, without the white space. From a source that
gives bytes with every read until its end, all bytes but the white space have come when a call
with room in its buffer tells the end, which happens once there were enough of these. -/
theorem white_space_left_out (source : Source ε) :
    (∀ size, ∃ blanks last answer rest, source.readSolid size = (answer, rest) ∧
      source.Call size blanks last answer rest ∧ blanks.length ≤ source.content.length ∧
      (answer = .ok [] ↔ last = .ok []) ∧ (∀ cause, answer = .error cause ↔ last = .error cause) ∧
      (∀ cause, answer = .error cause →
        ∃ consumed, source.content = consumed ++ rest.content ∧ consumed.solid = []) ∧
      (delivered answer).length ≤ size ∧ (size = 0 → rest.content = source.content)) ∧
    (∀ sizes, ∃ answers rest, source.calls sizes = (answers, rest) ∧ answers.length = sizes.length ∧
      ∃ consumed, source.content = consumed ++ rest.content ∧ output answers = consumed.solid) ∧
    (source.Steady → ∀ sizes answers rest, source.calls sizes = (answers, rest) →
      (∀ size, 0 < size → (rest.readSolid size).1 = .ok [] → output answers = source.content.solid) ∧
      (source.content.solid.length < (sizes.filter (0 < ·)).length →
        output answers = source.content.solid)) := by
  refine ⟨?_, ?_, ?_⟩
  · intro size
    obtain ⟨blanks, last, call⟩ := Source.call_made size source
    have failed : ∀ cause, (source.readSolid size).1 = .error cause →
        ∃ consumed, source.content = consumed ++ (source.readSolid size).2.content ∧ consumed.solid = [] :=
      fun cause failed => call.consumes_blanks (call.answer_eq_error_iff.mp failed)
    exact ⟨blanks, last, _, _, rfl, call, call.length_blanks, call.answer_eq_nil_iff,
      fun cause => call.answer_eq_error_iff, failed, call.length_answer, call.content_of_empty_buffer⟩
  · intro sizes
    exact ⟨_, _, rfl, Source.length_calls sizes source, Source.calls_consume sizes source⟩
  · intro steady sizes answers rest made
    have given : (source.calls sizes).1 = answers := congrArg Prod.fst made
    have left : (source.calls sizes).2 = rest := congrArg Prod.snd made
    rw [← given, ← left]
    exact ⟨fun size pos told => Source.output_of_end steady pos told, Source.output_of_enough steady⟩

namespace Sample

/-- Two letters and a digit in three chunks, one of which is blank. -/
def torn : Source Unit := [.chunk [32, 65], .chunk [10, 9], .chunk [66, 13, 49]]

/-- A source that fails once, after a blank. -/
def interrupted : Source Unit := [.chunk [32], .failure (), .chunk [65]]

theorem torn_steady : torn.Steady := by
  simp [torn, Source.Steady]

theorem interrupted_fails : interrupted.readSolid 4 = (.error (), [.chunk [65]]) := by
  simp [interrupted, Source.readSolid, Source.read, Bytes.compact_eq_solid, Bytes.solid, isBlank]

theorem torn_calls : torn.calls [9, 9] = ([.ok [65], .ok [66, 49]], []) := by
  simp [torn, Source.calls, Source.readSolid, Source.read, Bytes.compact_eq_solid, Bytes.solid, isBlank]

end Sample

theorem white_space_left_out_torn :
    (∃ consumed, Sample.interrupted.content = consumed ++ [65] ∧ Bytes.solid consumed = []) ∧
      output (Sample.torn.calls [9, 9]).1 = [65, 66, 49] ∧
      ∃ answers rest, Sample.torn.calls [1, 0, 2, 2, 5] = (answers, rest) ∧ output answers = [65, 66, 49] := by
  obtain ⟨each, _, _⟩ := white_space_left_out Sample.interrupted
  obtain ⟨_, _, answer, rest, came, _, _, _, _, failed, _, _⟩ := each 4
  obtain ⟨rfl, rfl⟩ := Prod.mk.inj (came.symm.trans Sample.interrupted_fails)
  obtain ⟨_, _, total⟩ := white_space_left_out Sample.torn
  have ended : (Source.readSolid 9 ([] : Source Unit)).1 = .ok [] := by
    simp [Source.readSolid, Source.read]
  obtain ⟨told, _⟩ := total Sample.torn_steady [9, 9] _ _ Sample.torn_calls
  obtain ⟨_, enough⟩ := total Sample.torn_steady [1, 0, 2, 2, 5] _ _ rfl
  refine ⟨failed () rfl, ?_, _, _, rfl, enough (by decide)⟩
  rw [Sample.torn_calls]
  exact told 9 (by decide) ended

end AuthSigner
