import AuthSigner.Proofs.CommandSyntax

/-! What a command line gives. Arguments are read with a state between them, in which the value of an
option may still be pending; `Advances` tells what one argument makes of that state. Reading to the end
succeeds exactly if the arguments spell items that can all be taken in, one after the other. -/
namespace AuthSigner

namespace Reading

/-- The state after an option that gives a draft these items and leaves a setting awaited. -/
def after (r : Reading) (d : Draft) (awaited : Option Setting) : Reading :=
  ⟨d, awaited.map fun setting => (setting, none), r.literal⟩

/-- What an argument makes of a state in which options are still told from input. -/
inductive Advances (r : Reading) : String → Reading → Prop where
  | literal : Advances r "--" { r with literal := true }
  | value : Plain argument → r.pending = some (setting, none) →
      Advances r argument { r with pending := some (setting, some argument) }
  | word : Plain argument → r.settle = .ok d → d.take (.input argument) = .ok d' →
      Advances r argument (r.after d' none)
  | option : OptionArgument argument.toList items awaited → r.settle = .ok d → d.takeAll items = .ok d' →
      Advances r argument (r.after d' awaited)

/-- Reads the arguments that are left, and looks at the value that is pending at the end. -/
def finish (r : Reading) (arguments : List String) : Except Halt Draft := do
  (← arguments.foldlM Reading.step r).settle

/-- What the arguments that are left spell, together with what is pending. -/
inductive Resumes : Option (Setting × Option String) → List String → List Item → Prop where
  | clear : Spells arguments items → Resumes none arguments items
  | held : Spells arguments items → Resumes (some (setting, some value)) arguments (.setting setting value :: items)
  | awaited : Plain value → Spells arguments items →
      Resumes (some (setting, none)) (value :: arguments) (.setting setting value :: items)

variable {r r' : Reading} {d d' : Draft} {argument : String} {chars : List Char} {items : List Item}
  {awaited : Option Setting} {literal : Bool}

theorem resume_eq_ok {draft : Except UsageError Draft} :
    r.resume draft = .ok r' ↔ ∃ d, draft = .ok d ∧ r' = ⟨d, none, r.literal⟩ := by
  cases draft with
  | error e => exact ⟨nofun, nofun⟩
  | ok d =>
    constructor
    · rintro ⟨⟩
      exact ⟨d, rfl, rfl⟩
    · rintro ⟨_, ⟨⟩, rfl⟩
      rfl

theorem settle_held {setting : Setting} {value : String} :
    Reading.settle ⟨d, some (setting, some value), literal⟩ = .ok d' ↔ d.give setting value = .ok d' := mapError_eq_ok

theorem settle_input (settled : r.settle = .ok d) : d.input = r.draft.input := by
  obtain ⟨draft, pending, literal⟩ := r
  rcases pending with _ | ⟨setting, _ | value⟩
  · cases settled
    rfl
  · cases settled
  · obtain ⟨-, put⟩ := Draft.give_eq_ok.mp (settle_held.mp settled)
    exact (Draft.put_elsewhere put).1

/-! ## One argument -/

/-- The input is read once the value before it is looked at. -/
theorem word_eq_ok : r.word argument = .ok r' ↔
    ∃ d, r.settle = .ok d ∧ ∃ d', d.take (.input argument) = .ok d' ∧ r' = ⟨d', none, r.literal⟩ := by
  unfold word
  by_cases already : r.draft.input.isSome = true
  · rw [if_pos already]
    constructor
    · rintro ⟨⟩
    · rintro ⟨d, settled, d', taken, -⟩
      have given : d.input.isSome = true := settle_input settled ▸ already
      rw [Draft.take, if_pos given] at taken
      cases taken
  · rw [if_neg already, except_bind_eq_ok]
    refine exists_congr fun d => and_congr_right fun settled => ?_
    have free : ¬ d.input.isSome = true := settle_input settled ▸ already
    rw [resume_eq_ok, Draft.take, if_neg free]

theorem long_sound (read : r.long argument chars = .ok r') :
    ∃ d, r.settle = .ok d ∧ ∃ items awaited d', LongOption chars items awaited ∧ d.takeAll items = .ok d' ∧
      r' = r.after d' awaited := by
  simp only [long] at read
  cases named : OptionName.ofLong? (String.ofList (chars.takeWhile (· ≠ '='))) with
  | none =>
    rw [named] at read
    cases read
  | some option =>
    rw [named] at read
    cases rest : chars.dropWhile (· ≠ '=') with
    | nil =>
      rw [rest] at read
      cases option with
      | flag flag =>
        obtain ⟨d, settled, resumed⟩ := except_bind_eq_ok.mp read
        obtain ⟨d', raised, rfl⟩ := resume_eq_ok.mp resumed
        have spelt : LongOption chars [.flag flag] none := longOption_iff.mpr ⟨_, named, rest ▸ .flag⟩
        exact ⟨d, settled, _, _, d', spelt, Draft.takeAll_single.trans raised, rfl⟩
      | setting setting =>
        obtain ⟨d, settled, ⟨⟩⟩ := except_bind_eq_ok.mp read
        have spelt : LongOption chars [] (some setting) := longOption_iff.mpr ⟨_, named, rest ▸ .awaiting⟩
        exact ⟨d, settled, _, _, d, spelt, rfl, rfl⟩
      | help | version => obtain ⟨d, settled, ⟨⟩⟩ := except_bind_eq_ok.mp read
    | cons c value =>
      have equals : c = '=' := by
        have stopped := List.head?_dropWhile_not (· ≠ '=') chars
        rw [rest] at stopped
        simpa using stopped
      subst equals
      rw [rest] at read
      cases option with
      | setting setting =>
        obtain ⟨d, settled, resumed⟩ := except_bind_eq_ok.mp read
        obtain ⟨d', given, rfl⟩ := resume_eq_ok.mp resumed
        have spelt : LongOption chars [.setting setting (String.ofList value)] none :=
          longOption_iff.mpr ⟨_, named, rest ▸ .joined⟩
        exact ⟨d, settled, _, _, d', spelt, Draft.takeAll_single.trans given, rfl⟩
      | flag | help | version => cases read

theorem long_complete (spelt : LongOption chars items awaited) (settled : r.settle = .ok d)
    (taken : d.takeAll items = .ok d') : r.long argument chars = .ok (r.after d' awaited) := by
  obtain ⟨option, named, meant⟩ := longOption_iff.mp spelt
  simp only [long, named]
  generalize chars.dropWhile (· ≠ '=') = rest at meant
  cases meant with
  | flag =>
    have raised := Draft.takeAll_single.symm.trans taken
    exact except_bind_eq_ok.mpr ⟨d, settled, resume_eq_ok.mpr ⟨d', raised, rfl⟩⟩
  | joined =>
    have given := Draft.takeAll_single.symm.trans taken
    exact except_bind_eq_ok.mpr ⟨d, settled, resume_eq_ok.mpr ⟨d', given, rfl⟩⟩
  | awaiting =>
    cases taken
    exact except_bind_eq_ok.mpr ⟨d, settled, rfl⟩

theorem resume_settled {draft : Except UsageError Draft} :
    Reading.resume ⟨d, none, r.literal⟩ draft = r.resume draft := by
  cases draft with
  | error e => rfl
  | ok given => rfl

/-- The value before is looked at when the first letter is met. -/
theorem letters_settled {c : Char} : letters argument r (c :: chars) = .ok r' ↔
    ∃ d, r.settle = .ok d ∧ letters argument ⟨d, none, r.literal⟩ (c :: chars) = .ok r' := by
  simp only [letters]
  cases OptionName.ofLetter? c with
  | none => exact ⟨nofun, nofun⟩
  | some option =>
    cases option with
    | flag flag =>
      rw [except_bind_eq_ok]
      refine exists_congr fun d => and_congr_right fun settled => ?_
      rw [← resume_settled (d := d)]
      rfl
    | setting setting =>
      rw [except_bind_eq_ok]
      refine exists_congr fun d => and_congr_right fun settled => ?_
      simp only [settle, bind, Except.bind, resume_settled]
    | help | version =>
      rw [except_bind_eq_ok]
      refine exists_congr fun d => and_congr_right fun settled => ?_
      exact ⟨nofun, nofun⟩

/-- A value that follows the letter of a setting without an equals sign. -/
theorem letters_attached {c first : Char} {value : List Char} {setting : Setting}
    (named : OptionName.ofLetter? c = some (.setting setting)) (unequal : first ≠ '=') :
    letters argument r (c :: first :: value) =
      r.settle >>= fun d => r.resume (d.give setting (String.ofList (first :: value))) := by
  simp only [letters, named]
  split
  case h_1 empty => cases empty
  case h_2 equal =>
    obtain ⟨same, -⟩ := List.cons.inj equal
    exact absurd same unequal
  case h_3 => rfl

theorem letters_sound (read : letters argument ⟨d, none, r.literal⟩ chars = .ok r') :
    ∃ items awaited d', LetterOptions chars items awaited ∧ d.takeAll items = .ok d' ∧ r' = r.after d' awaited := by
  induction chars generalizing d with
  | nil =>
    cases read
    exact ⟨[], none, d, .done, rfl, rfl⟩
  | cons c rest ih =>
    cases named : OptionName.ofLetter? c with
    | none =>
      simp only [letters, named] at read
      cases read
    | some option =>
      cases option with
      | flag flag =>
        simp only [letters, named] at read
        obtain ⟨_, ⟨⟩, read⟩ := except_bind_eq_ok.mp read
        obtain ⟨next, resumed, read⟩ := except_bind_eq_ok.mp read
        obtain ⟨d₁, raised, rfl⟩ := resume_eq_ok.mp resumed
        obtain ⟨items, awaited, d', spelt, taken, rfl⟩ := ih read
        exact ⟨.flag flag :: items, awaited, d', .flag named spelt,
          Draft.takeAll_cons_eq_ok.mpr ⟨d₁, raised, taken⟩, rfl⟩
      | setting setting =>
        cases rest with
        | nil =>
          simp only [letters, named] at read
          obtain ⟨_, ⟨⟩, ⟨⟩⟩ := except_bind_eq_ok.mp read
          exact ⟨[], some setting, d, .awaiting named, rfl, rfl⟩
        | cons first value =>
          by_cases equals : first = '='
          · subst equals
            simp only [letters, named] at read
            obtain ⟨_, ⟨⟩, resumed⟩ := except_bind_eq_ok.mp read
            obtain ⟨d', given, rfl⟩ := resume_eq_ok.mp resumed
            exact ⟨[.setting setting (String.ofList value)], none, d', .joined named,
              Draft.takeAll_cons_eq_ok.mpr ⟨d', given, rfl⟩, rfl⟩
          · rw [letters_attached named equals] at read
            obtain ⟨_, ⟨⟩, resumed⟩ := except_bind_eq_ok.mp read
            obtain ⟨d', given, rfl⟩ := resume_eq_ok.mp resumed
            exact ⟨[.setting setting (String.ofList (first :: value))], none, d', .attached named equals,
              Draft.takeAll_cons_eq_ok.mpr ⟨d', given, rfl⟩, rfl⟩
      | help | version =>
        simp only [letters, named] at read
        obtain ⟨_, ⟨⟩, ⟨⟩⟩ := except_bind_eq_ok.mp read

theorem letters_complete (argument : String) (spelt : LetterOptions chars items awaited)
    (taken : d.takeAll items = .ok d') : letters argument ⟨d, none, r.literal⟩ chars = .ok (r.after d' awaited) := by
  induction spelt generalizing d with
  | done =>
    cases taken
    rfl
  | flag named later ih =>
    obtain ⟨d₁, raised, taken⟩ := Draft.takeAll_cons_eq_ok.mp taken
    simp only [letters, named]
    refine except_bind_eq_ok.mpr ⟨d, rfl, except_bind_eq_ok.mpr ⟨⟨d₁, none, r.literal⟩, ?_, ih taken⟩⟩
    exact resume_eq_ok.mpr ⟨d₁, raised, rfl⟩
  | joined named =>
    obtain ⟨_, given, ⟨⟩⟩ := Draft.takeAll_cons_eq_ok.mp taken
    simp only [letters, named]
    exact except_bind_eq_ok.mpr ⟨d, rfl, resume_eq_ok.mpr ⟨d', given, rfl⟩⟩
  | attached named unequal =>
    obtain ⟨_, given, ⟨⟩⟩ := Draft.takeAll_cons_eq_ok.mp taken
    rw [letters_attached named unequal]
    exact except_bind_eq_ok.mpr ⟨d, rfl, resume_eq_ok.mpr ⟨d', given, rfl⟩⟩
  | awaiting named =>
    cases taken
    simp only [letters, named]
    rfl

theorem advances_of_step (told : r.literal = false) (read : r.step argument = .ok r') : r.Advances argument r' := by
  have asked : ¬ r.literal = true := by rw [told]; exact Bool.false_ne_true
  unfold step at read
  rw [if_neg asked] at read
  split at read
  case h_1 shape =>
    cases read
    have dashes : argument = "--" := String.toList_inj.mp (shape.trans (by decide +kernel))
    exact dashes ▸ .literal
  case h_2 chars _ shape =>
    obtain ⟨d, settled, items, awaited, d', spelt, taken, rfl⟩ := long_sound read
    exact .option (shape ▸ .long spelt) settled taken
  case h_3 c chars _ _ shape =>
    obtain ⟨d, settled, read⟩ := letters_settled.mp read
    obtain ⟨items, awaited, d', spelt, taken, rfl⟩ := letters_sound read
    exact .option (shape ▸ .letters spelt) settled taken
  case h_4 _ _ option =>
    have plain : Plain argument := option
    split at read
    case h_1 setting awaited =>
      cases read
      exact .value plain awaited
    case h_2 =>
      obtain ⟨d, settled, d', taken, rfl⟩ := word_eq_ok.mp read
      exact .word plain settled taken

theorem step_of_advances (told : r.literal = false) (advances : r.Advances argument r') :
    r.step argument = .ok r' := by
  have asked : ¬ r.literal = true := by rw [told]; exact Bool.false_ne_true
  unfold step
  rw [if_neg asked]
  cases advances with
  | literal =>
    have shape : "--".toList = ['-', '-'] := by decide +kernel
    rw [shape]
    rfl
  | value plain awaited =>
    split
    case h_1 shape => exact absurd shape (plain _ _)
    case h_2 shape => exact absurd shape (plain _ _)
    case h_3 shape => exact absurd shape (plain _ _)
    case h_4 => rw [awaited]
  | word plain settled taken =>
    have read := word_eq_ok.mpr ⟨_, settled, _, taken, rfl⟩
    split
    case h_1 shape => exact absurd shape (plain _ _)
    case h_2 shape => exact absurd shape (plain _ _)
    case h_3 shape => exact absurd shape (plain _ _)
    case h_4 =>
      split
      case h_1 awaited =>
        simp only [settle, awaited] at settled
        cases settled
      case h_2 => exact read
  | option spelt settled taken =>
    rcases spelt.shape with ⟨c, rest, shape, named⟩ | ⟨c, rest, shape, letter, named⟩
    · rw [shape]
      -- The first character of the name keeps this apart from two dashes alone.
      exact long_complete named settled taken
    · have read := letters_settled.mpr ⟨_, settled, letters_complete argument named taken⟩
      rw [shape]
      split
      case h_1 dashes =>
        obtain ⟨same, -⟩ := List.cons.inj (List.cons.inj dashes).2
        exact absurd same letter
      case h_2 dashes =>
        obtain ⟨same, -⟩ := List.cons.inj (List.cons.inj dashes).2
        exact absurd same letter
      case h_3 same =>
        obtain ⟨rfl, rfl⟩ := List.cons.inj (List.cons.inj same).2
        exact read
      case h_4 other => exact absurd rfl (other c rest)

/-! ## All arguments -/

variable {arguments words : List String}

theorem finish_cons_eq_ok : r.finish (argument :: arguments) = .ok d ↔
    ∃ r', r.step argument = .ok r' ∧ r'.finish arguments = .ok d := by
  unfold finish
  rw [List.foldlM_cons, bind_assoc]
  exact except_bind_eq_ok

theorem step_literal (asked : r.literal = true) : r.step argument = r.word argument := if_pos asked

/-- After two dashes every argument is the input. -/
theorem finish_literal (asked : r.literal = true) : r.finish words = .ok d' ↔
    ∃ d, r.settle = .ok d ∧ d.takeAll (words.map .input) = .ok d' := by
  induction words generalizing r with
  | nil =>
    constructor
    · exact fun settled => ⟨d', settled, rfl⟩
    · rintro ⟨d, settled, ⟨⟩⟩
      exact settled
  | cons word words ih =>
    rw [finish_cons_eq_ok, step_literal asked]
    constructor
    · rintro ⟨r', read, finished⟩
      obtain ⟨d, settled, d₁, taken, rfl⟩ := word_eq_ok.mp read
      obtain ⟨_, ⟨⟩, rest⟩ := (ih (r := ⟨d₁, none, r.literal⟩) asked).mp finished
      exact ⟨d, settled, Draft.takeAll_cons_eq_ok.mpr ⟨d₁, taken, rest⟩⟩
    · rintro ⟨d, settled, taken⟩
      obtain ⟨d₁, first, rest⟩ := Draft.takeAll_cons_eq_ok.mp taken
      have finished := (ih (r := ⟨d₁, none, r.literal⟩) asked).mpr ⟨d₁, rfl, rest⟩
      exact ⟨_, word_eq_ok.mpr ⟨d, settled, d₁, first, rfl⟩, finished⟩

/-- What is settled and what is spelt after it. -/
theorem resumes_of_settle (settled : r.settle = .ok d) (spelt : Spells arguments items)
    (taken : d.takeAll items = .ok d') :
    ∃ items, Resumes r.pending arguments items ∧ r.draft.takeAll items = .ok d' := by
  obtain ⟨draft, pending, literal⟩ := r
  rcases pending with _ | ⟨setting, _ | value⟩
  · cases settled
    exact ⟨items, .clear spelt, taken⟩
  · cases settled
  · exact ⟨_, .held spelt, Draft.takeAll_cons_eq_ok.mpr ⟨d, settle_held.mp settled, taken⟩⟩

/-- Reading to the end, with options still told from input, shows what the arguments spell. -/
theorem resumes_of_finish (told : r.literal = false) (finished : r.finish arguments = .ok d') :
    ∃ items, Resumes r.pending arguments items ∧ r.draft.takeAll items = .ok d' := by
  -- Over the arguments; `Resumes` carries what is pending from one to the next.
  induction arguments generalizing r with
  | nil => exact resumes_of_settle finished .nothing rfl
  | cons argument arguments ih =>
    obtain ⟨r', read, finished⟩ := finish_cons_eq_ok.mp finished
    have later := ih (r := r')
    cases advances_of_step told read with
    | literal =>
      obtain ⟨d, settled, taken⟩ := (finish_literal rfl).mp finished
      exact resumes_of_settle settled .literal taken
    | value plain awaited =>
      obtain ⟨items, spelt, taken⟩ := later told finished
      cases spelt with
      | held spelt => exact ⟨_, awaited ▸ .awaited plain spelt, taken⟩
    | word plain settled first =>
      obtain ⟨items, spelt, taken⟩ := later told finished
      cases spelt with
      | clear spelt =>
        exact resumes_of_settle settled (.word plain spelt) (Draft.takeAll_cons_eq_ok.mpr ⟨_, first, taken⟩)
    | @option _ awaited _ _ _ option settled first =>
      obtain ⟨_, spelt, taken⟩ := later told finished
      cases awaited with
      | none =>
        cases spelt with
        | clear spelt =>
          refine resumes_of_settle settled (.option option spelt) ?_
          rw [Draft.takeAll_append]
          exact except_bind_eq_ok.mpr ⟨_, first, taken⟩
      | some setting =>
        cases spelt with
        | awaited plain spelt =>
          refine resumes_of_settle settled (.parted option plain spelt) ?_
          rw [Draft.takeAll_append]
          exact except_bind_eq_ok.mpr ⟨_, first, taken⟩

/-- Arguments are read to the end if what they spell can be taken in. -/
theorem finish_of_spells (told : r.literal = false) (spelt : Spells arguments items) (settled : r.settle = .ok d)
    (taken : d.takeAll items = .ok d') : r.finish arguments = .ok d' := by
  induction spelt generalizing r d with
  | nothing =>
    cases taken
    exact settled
  | literal =>
    have finished := (finish_literal (r := { r with literal := true }) rfl).mpr ⟨d, settled, taken⟩
    exact finish_cons_eq_ok.mpr ⟨_, step_of_advances told .literal, finished⟩
  | word plain _ ih =>
    obtain ⟨d₁, first, taken⟩ := Draft.takeAll_cons_eq_ok.mp taken
    have advances : r.Advances _ (r.after d₁ none) := .word plain settled first
    exact finish_cons_eq_ok.mpr ⟨_, step_of_advances told advances, ih (r := r.after d₁ none) told rfl taken⟩
  | option option _ ih =>
    rw [Draft.takeAll_append] at taken
    obtain ⟨d₁, first, taken⟩ := except_bind_eq_ok.mp taken
    have advances := Advances.option option settled first
    exact finish_cons_eq_ok.mpr ⟨_, step_of_advances told advances, ih (r := r.after d₁ none) told rfl taken⟩
  | @parted _ setting value _ _ _ option plain _ ih =>
    rw [Draft.takeAll_append] at taken
    obtain ⟨d₁, first, taken⟩ := except_bind_eq_ok.mp taken
    obtain ⟨d₂, given, taken⟩ := Draft.takeAll_cons_eq_ok.mp taken
    have advances := Advances.option option settled first
    have filled : (r.after d₁ (some setting)).Advances value ⟨d₁, some (setting, some value), r.literal⟩ :=
      .value plain rfl
    refine finish_cons_eq_ok.mpr ⟨_, step_of_advances told advances, ?_⟩
    refine finish_cons_eq_ok.mpr ⟨_, step_of_advances told filled, ?_⟩
    exact ih (r := ⟨d₁, some (setting, some value), r.literal⟩) told (settle_held.mpr given) taken

end Reading

/-- A command line gives a draft exactly if it spells items that can all be taken in. -/
theorem Draft.ofArguments_eq_ok_iff {arguments : List String} {d : Draft} : Draft.ofArguments arguments = .ok d ↔
    ∃ items, Spells arguments items ∧ Draft.blank.takeAll items = .ok d := by
  constructor
  · intro read
    obtain ⟨items, resumed, taken⟩ := Reading.resumes_of_finish rfl read
    cases resumed with
    | clear spelt => exact ⟨items, spelt, taken⟩
  · rintro ⟨items, spelt, taken⟩
    exact Reading.finish_of_spells rfl spelt rfl taken

end AuthSigner
