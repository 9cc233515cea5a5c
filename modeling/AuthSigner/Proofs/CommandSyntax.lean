import AuthSigner.Proofs.CommandItems

/-! The language of command lines. `Spells` tells which items the arguments of a command line stand
for, with no state between one argument and the next. What an option says hangs on its name, what
follows the name, and whether a value may still come, so that arguments stand for one list of items at
most. -/
namespace AuthSigner

/-- An argument that is no option: it does not start with a dash, or is a single one. -/
def Plain (argument : String) : Prop := ∀ c chars, argument.toList ≠ '-' :: c :: chars

/-- What the characters after two dashes say, and the setting whose value is still to come. -/
inductive LongOption : List Char → List Item → Option Setting → Prop where
  | flag : OptionName.ofLong? name = some (.flag flag) → LongOption name.toList [.flag flag] none
  | joined : OptionName.ofLong? name = some (.setting setting) →
      LongOption (name.toList ++ '=' :: value) [.setting setting (String.ofList value)] none
  | awaiting : OptionName.ofLong? name = some (.setting setting) → LongOption name.toList [] (some setting)

/-- What the letters after one dash say, and the setting whose value is still to come. -/
inductive LetterOptions : List Char → List Item → Option Setting → Prop where
  | done : LetterOptions [] [] none
  | flag : OptionName.ofLetter? c = some (.flag flag) → LetterOptions chars items awaited →
      LetterOptions (c :: chars) (.flag flag :: items) awaited
  | joined : OptionName.ofLetter? c = some (.setting setting) →
      LetterOptions (c :: '=' :: value) [.setting setting (String.ofList value)] none
  | attached : OptionName.ofLetter? c = some (.setting setting) → first ≠ '=' →
      LetterOptions (c :: first :: value) [.setting setting (String.ofList (first :: value))] none
  | awaiting : OptionName.ofLetter? c = some (.setting setting) → LetterOptions [c] [] (some setting)

/-- What an argument says that is an option, and the setting whose value is still to come. -/
inductive OptionArgument : List Char → List Item → Option Setting → Prop where
  | long : LongOption chars items awaited → OptionArgument ('-' :: '-' :: chars) items awaited
  | letters : LetterOptions (c :: chars) items awaited → OptionArgument ('-' :: c :: chars) items awaited

/-- The items that arguments stand for. After two dashes all is input; the value of an option may
be an argument of its own. -/
inductive Spells : List String → List Item → Prop where
  | nothing : Spells [] []
  | literal : Spells ("--" :: words) (words.map .input)
  | word : Plain text → Spells arguments items → Spells (text :: arguments) (.input text :: items)
  | option : OptionArgument argument.toList items none → Spells arguments later →
      Spells (argument :: arguments) (items ++ later)
  | parted : OptionArgument argument.toList items (some setting) → Plain value → Spells arguments later →
      Spells (argument :: value :: arguments) (items ++ .setting setting value :: later)

variable {chars rest : List Char} {items items' : List Item} {awaited awaited' : Option Setting}
  {arguments : List String} {argument name : String} {option : OptionName} {c : Char}

/-! ## Long names -/

/-- The names of options are not empty and contain no equals sign. -/
theorem OptionName.shape_of_long (named : ofLong? name = some option) :
    name.toList ≠ [] ∧ '=' ∉ name.toList := by
  unfold ofLong? at named
  split at named
  all_goals first | decide | cases named

/-- The name before the first equals sign is found again. -/
theorem OptionName.split_long (named : ofLong? name = some option) (rest : List Char) :
    (name.toList ++ rest).takeWhile (· ≠ '=') = name.toList ++ rest.takeWhile (· ≠ '=') ∧
      (name.toList ++ rest).dropWhile (· ≠ '=') = rest.dropWhile (· ≠ '=') := by
  have passed : ∀ c ∈ name.toList, decide (c ≠ '=') = true := by
    intro c member
    apply decide_eq_true
    rintro rfl
    exact (shape_of_long named).2 member
  exact ⟨List.takeWhile_append_of_pos passed, List.dropWhile_append_of_pos passed⟩

/-- What the name of a long option says together with the characters that follow it. -/
inductive LongMeaning : OptionName → List Char → List Item → Option Setting → Prop where
  | flag : LongMeaning (.flag flag) [] [.flag flag] none
  | joined : LongMeaning (.setting setting) ('=' :: value) [.setting setting (String.ofList value)] none
  | awaiting : LongMeaning (.setting setting) [] [] (some setting)

theorem LongMeaning.unique (meant : LongMeaning option rest items awaited)
    (other : LongMeaning option rest items' awaited') : items = items' ∧ awaited = awaited' := by
  cases meant with
  | flag | joined | awaiting =>
    cases other
    exact ⟨rfl, rfl⟩

/-- A long option is told by the name before the first equals sign. -/
theorem longOption_iff : LongOption chars items awaited ↔
    ∃ option, OptionName.ofLong? (String.ofList (chars.takeWhile (· ≠ '='))) = some option ∧
      LongMeaning option (chars.dropWhile (· ≠ '=')) items awaited := by
  constructor
  · rintro (@⟨name, flag, named⟩ | @⟨name, setting, value, named⟩ | @⟨name, setting, named⟩)
    · obtain ⟨front, rest⟩ := OptionName.split_long named []
      rw [List.append_nil] at front rest
      rw [front, rest, List.takeWhile_nil, List.append_nil, String.ofList_toList]
      exact ⟨_, named, .flag⟩
    · obtain ⟨front, rest⟩ := OptionName.split_long named ('=' :: value)
      rw [List.takeWhile_cons_of_neg (by decide), List.append_nil] at front
      rw [List.dropWhile_cons_of_neg (by decide)] at rest
      rw [front, rest, String.ofList_toList]
      exact ⟨_, named, .joined⟩
    · obtain ⟨front, rest⟩ := OptionName.split_long named []
      rw [List.append_nil] at front rest
      rw [front, rest, List.takeWhile_nil, List.append_nil, String.ofList_toList]
      exact ⟨_, named, .awaiting⟩
  · rintro ⟨option, named, meant⟩
    obtain ⟨name, spelt⟩ : ∃ name : String, name.toList = chars.takeWhile (· ≠ '=') :=
      ⟨String.ofList _, String.toList_ofList⟩
    have whole : name.toList ++ chars.dropWhile (· ≠ '=') = chars := spelt ▸ List.takeWhile_append_dropWhile
    rw [← spelt, String.ofList_toList] at named
    rw [← whole]
    generalize chars.dropWhile (· ≠ '=') = rest at meant
    cases meant with
    | flag => exact (List.append_nil name.toList).symm ▸ .flag named
    | joined => exact .joined named
    | awaiting => exact (List.append_nil name.toList).symm ▸ .awaiting named

theorem LongOption.ne_nil (spelt : LongOption chars items awaited) : chars ≠ [] := by
  cases spelt with
  | flag named => exact (OptionName.shape_of_long named).1
  | joined named => exact List.append_ne_nil_of_right_ne_nil _ (List.cons_ne_nil _ _)
  | awaiting named => exact (OptionName.shape_of_long named).1

theorem LongOption.unique (spelt : LongOption chars items awaited) (other : LongOption chars items' awaited') :
    items = items' ∧ awaited = awaited' := by
  obtain ⟨option, named, meant⟩ := longOption_iff.mp spelt
  obtain ⟨option', named', meant'⟩ := longOption_iff.mp other
  obtain rfl : option = option' := Option.some.inj (named.symm.trans named')
  exact meant.unique meant'

/-! ## Letters -/

theorem LetterOptions.named (spelt : LetterOptions (c :: chars) items awaited) :
    OptionName.ofLetter? c ≠ none := by
  cases spelt with
  | flag named => exact Option.ne_none_iff_exists'.mpr ⟨_, named⟩
  | joined named => exact Option.ne_none_iff_exists'.mpr ⟨_, named⟩
  | attached named => exact Option.ne_none_iff_exists'.mpr ⟨_, named⟩
  | awaiting named => exact Option.ne_none_iff_exists'.mpr ⟨_, named⟩

theorem LetterOptions.unique (spelt : LetterOptions chars items awaited)
    (other : LetterOptions chars items' awaited') : items = items' ∧ awaited = awaited' := by
  induction spelt generalizing items' awaited' with
  | done =>
    cases other
    exact ⟨rfl, rfl⟩
  | flag named _ ih => cases other <;> grind
  | joined named => cases other <;> grind
  | attached named unequal => cases other <;> grind
  | awaiting named => cases other <;> grind

/-! ## Arguments -/

/-- Some letter or name is there, and no letter is a dash. -/
theorem OptionArgument.shape (spelt : OptionArgument chars items awaited) :
    (∃ c rest, chars = '-' :: '-' :: c :: rest ∧ LongOption (c :: rest) items awaited) ∨
      ∃ c rest, chars = '-' :: c :: rest ∧ c ≠ '-' ∧ LetterOptions (c :: rest) items awaited := by
  cases spelt with
  | @long name _ _ named =>
    cases name with
    | nil => exact absurd rfl named.ne_nil
    | cons c rest => exact .inl ⟨c, rest, rfl, named⟩
  | @letters c rest _ _ named =>
    have letter : c ≠ '-' := by
      rintro rfl
      exact absurd rfl named.named
    exact .inr ⟨c, rest, rfl, letter, named⟩

theorem OptionArgument.unique (spelt : OptionArgument chars items awaited)
    (other : OptionArgument chars items' awaited') : items = items' ∧ awaited = awaited' := by
  cases spelt with
  | long named =>
    cases other with
    | long named' => exact named.unique named'
    | letters named' => exact absurd rfl named'.named
  | letters named =>
    cases other with
    | long named' => exact absurd rfl named.named
    | letters named' => exact named.unique named'

/-- An option is not plain, and neither is the mark after which all is input. -/
theorem OptionArgument.not_plain (spelt : OptionArgument argument.toList items awaited) : ¬ Plain argument := by
  intro plain
  rcases spelt.shape with ⟨c, rest, shape, -⟩ | ⟨c, rest, shape, -⟩
  · exact plain _ _ shape
  · exact plain _ _ shape

theorem dashes_not_plain : ¬ Plain "--" := fun plain => plain '-' [] (by decide +kernel)

theorem dashes_no_option : ¬ OptionArgument "--".toList items awaited := by
  have dashes : "--".toList = ['-', '-'] := by decide +kernel
  intro spelt
  rcases spelt.shape with ⟨c, rest, shape, -⟩ | ⟨c, rest, shape, letter, -⟩
  · have long := congrArg List.length (dashes.symm.trans shape)
    simp only [List.length_cons, List.length_nil] at long
    omega
  · obtain ⟨same, -⟩ := List.cons.inj (List.cons.inj (dashes.symm.trans shape)).2
    exact letter same.symm

/-- Arguments stand for one list of items only. -/
theorem Spells.unique (spelt : Spells arguments items) (other : Spells arguments items') : items = items' := by
  induction spelt generalizing items' with
  | nothing =>
    cases other
    rfl
  | literal =>
    cases other with
    | literal => rfl
    | word plain _ => exact absurd plain dashes_not_plain
    | option named _ => exact absurd named dashes_no_option
    | parted named _ _ => exact absurd named dashes_no_option
  | word plain _ ih =>
    cases other with
    | literal => exact absurd plain dashes_not_plain
    | word _ later => rw [ih later]
    | option named _ => exact absurd plain named.not_plain
    | parted named _ _ => exact absurd plain named.not_plain
  | option named _ ih =>
    cases other with
    | literal => exact absurd named dashes_no_option
    | word plain _ => exact absurd plain named.not_plain
    | option named' later => rw [ih later, (named.unique named').1]
    | parted named' _ _ => cases (named.unique named').2
  | parted named _ _ ih =>
    cases other with
    | literal => exact absurd named dashes_no_option
    | word plain _ => exact absurd plain named.not_plain
    | option named' _ => cases (named.unique named').2
    | parted named' _ later =>
      obtain ⟨same, awaited⟩ := named.unique named'
      rw [ih later, same, Option.some.inj awaited]

end AuthSigner
