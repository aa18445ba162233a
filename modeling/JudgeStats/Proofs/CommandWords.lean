import JudgeStats.Command.Run
import Mathlib.Data.List.Nodup
import Mathlib.Data.List.Perm.Basic
import Mathlib.Data.List.TakeWhile

/-! The words of a command that chooses operations and a database. An option may be cut short and may have its value behind
an equals sign or as the next word. However the choices are spelled, the command understands them: all operations, and of
the databases the last one. -/

namespace JudgeStats.Command

/-- An option, or a beginning of it that no other option has. -/
structure Abbreviates (start option : String) : Prop where
  beginning : start.toList <+: option.toList
  alone : ∀ other ∈ spellings, start.toList <+: other.1.toList → other.1 = option

instance (start option : String) : Decidable (Abbreviates start option) :=
  decidable_of_iff (start.toList <+: option.toList ∧ ∀ other ∈ spellings, start.toList <+: other.1.toList → other.1 = option)
    ⟨fun ⟨beginning, alone⟩ => ⟨beginning, alone⟩, fun ⟨beginning, alone⟩ => ⟨beginning, alone⟩⟩

theorem spellings_nodup : (spellings.map (·.1)).Nodup := by
  decide

theorem equals_not_mem_spelling : ∀ spelled ∈ spellings, '=' ∉ spelled.1.toList := by
  decide

section Long
variable {start option : String} {flag : Flag} (short : Abbreviates start option) (listed : (option, flag) ∈ spellings)
include short

/-- Two hyphens are the beginning of several options, and one or none of still more. -/
theorem Abbreviates.toList_eq (long : ['-', '-'] <+: option.toList) :
    ∃ letter rest, start.toList = '-' :: '-' :: letter :: rest := by
  have several : ¬ start.toList <+: ['-', '-'] := by
    intro few
    have help := short.alone ("--help", .help) (by decide) (few.trans (by decide))
    have version := short.alone ("--version", .version) (by decide) (few.trans (by decide))
    exact absurd (help.trans version.symm) (by decide)
  obtain ⟨more, split⟩ := (List.prefix_or_prefix_of_prefix short.beginning long).resolve_left several
  cases more with
  | nil => exact absurd ⟨[], (List.append_nil _).trans split.symm⟩ several
  | cons letter rest => exact ⟨letter, rest, split.symm⟩

include listed

theorem Abbreviates.equals_not_mem : '=' ∉ start.toList := fun member =>
  equals_not_mem_spelling _ listed (short.beginning.subset member)

theorem Abbreviates.lookup_eq : spellings.lookup start = none ∨ spellings.lookup start = some flag := by
  cases found : spellings.lookup start with
  | none => exact .inl rfl
  | some other =>
    obtain ⟨first, later, split, _⟩ := List.lookup_eq_some_iff.mp found
    have member : (start, other) ∈ spellings := split ▸ List.mem_append_right _ List.mem_cons_self
    have same : start = option := short.alone _ member (List.prefix_refl _)
    have equal := List.inj_on_of_nodup_map spellings_nodup member listed same
    exact .inr (congrArg (fun spelled => some spelled.2) equal)

theorem Abbreviates.filter_eq :
    (spellings.filter fun (spelling, _) => start.toList.isPrefixOf spelling.toList) = [(option, flag)] := by
  apply List.perm_singleton.mp
  have single : spellings.Nodup := spellings_nodup.of_map _
  apply (List.perm_ext_iff_of_nodup (single.filter _) (List.nodup_singleton _)).mpr
  intro spelled
  rw [List.mem_filter, List.isPrefixOf_iff_prefix, List.mem_singleton]
  constructor
  · rintro ⟨member, begins⟩
    exact List.inj_on_of_nodup_map spellings_nodup member listed (short.alone _ member begins)
  · rintro rfl
    exact ⟨listed, short.beginning⟩

end Long

theorem splitValue_of_not_mem {chars : List Char} (none : '=' ∉ chars) : splitValue chars = (chars, .none) := by
  have passed : chars.dropWhile (· != '=') = [] := by
    rw [List.dropWhile_eq_nil_iff]
    exact fun char member => bne_iff_ne.mpr fun same => none (same ▸ member)
  rw [splitValue, passed]

theorem splitValue_append {chars : List Char} (none : '=' ∉ chars) (value : List Char) :
    splitValue (chars ++ '=' :: value) = (chars, some (String.ofList value)) := by
  have passed : ∀ char ∈ chars, (char != '=') = true := fun char member => bne_iff_ne.mpr fun same => none (same ▸ member)
  rw [splitValue, List.dropWhile_append_of_pos passed, List.takeWhile_append_of_pos passed]
  simp

theorem classify_plain {word : String} (plain : word.toList.head? ≠ some '-') : classify word = .ok .plain := by
  rw [classify]
  simp only [bne_iff_ne.mpr plain, Bool.true_or, if_true]

section Option
variable {start option : String} {flag : Flag} (short : Abbreviates start option) (listed : (option, flag) ∈ spellings)
  (long : ['-', '-'] <+: option.toList)
include short listed long

theorem classify_apart : classify start = .ok (.flag flag none) := by
  obtain ⟨letter, rest, chars⟩ := short.toList_eq long
  have split := splitValue_of_not_mem (short.equals_not_mem listed)
  have found : candidates start.toList = [(option, flag, none)] := by
    have single := short.filter_eq listed
    rw [chars] at single split ⊢
    simp only [candidates, split, single, List.map_cons, List.map_nil]
  have looks : (start.toList.head? != some '-' || start.toList.length == 1) = false := by
    rw [chars]
    rfl
  rw [classify]
  simp only [looks, split, found]
  -- An option in full is found as it stands, one cut short by what it begins; that is the same flag.
  rcases short.lookup_eq listed with none | whole
  · simp [none]
  · simp [whole]

theorem classify_joined (value : String) : classify (start ++ "=" ++ value) = .ok (.flag flag (some value)) := by
  obtain ⟨letter, rest, chars⟩ := short.toList_eq long
  have word : (start ++ "=" ++ value).toList = start.toList ++ '=' :: value.toList := by
    rw [String.toList_append, String.toList_append, List.append_assoc]
    rfl
  have split := splitValue_append (short.equals_not_mem listed) value.toList
  rw [String.ofList_toList] at split
  have unlisted : spellings.lookup (start ++ "=" ++ value) = none := by
    rw [List.lookup_eq_none_iff]
    rintro spelled member
    apply bne_iff_ne.mpr
    rintro same
    apply equals_not_mem_spelling spelled member
    rw [← same, word]
    exact List.mem_append_right _ List.mem_cons_self
  have found : candidates (start.toList ++ '=' :: value.toList) = [(option, flag, some value)] := by
    have single := short.filter_eq listed
    rw [chars] at single split ⊢
    simp only [candidates, List.cons_append] at split ⊢
    simp only [split, single, List.map_cons, List.map_nil]
  have looks : ((start.toList ++ '=' :: value.toList).head? != some '-' ||
      (start.toList ++ '=' :: value.toList).length == 1) = false := by
    rw [chars]
    rfl
  rw [classify, unlisted, word]
  simp only [looks, split, found, String.ofList_toList]
  rcases short.lookup_eq listed with none | whole
  · simp [none]
  · simp [whole]

end Option

theorem classifyAll_cons {word : String} (other : word ≠ "--") {first : Word} {rest : List String}
    {others : List (String × Word)} (head : classify word = .ok first) (tail : classifyAll rest = .ok others) :
    classifyAll (word :: rest) = .ok ((word, first) :: others) := by
  rw [classifyAll, head, tail]
  · rfl
  · exact other

section Collect
variable {flag : Flag} {value : String} {arguments next : Arguments} (valued : flag.takesValue)
  (running : arguments.stop = false) (taken : arguments.takeValue flag value = .ok next)
include running taken

theorem take_of_takeValue : arguments.take ⟨[], flag, some value⟩ = .ok next := by
  simp only [Arguments.take, List.foldl_nil, running, Bool.false_eq_true, if_false, taken]

include valued

theorem collect_apart (word : String) (later : List (String × Word)) (strays : List String) :
    collect ((word, .flag flag none) :: (value, .plain) :: later) arguments strays = collect later next strays := by
  rw [collect, running, if_neg Bool.false_ne_true]
  simp only [Use.ofWord, Use.lacksValue, valued, bind, Except.bind, Option.isNone_none, Bool.and_self, if_true,
    take_of_takeValue running taken]

theorem collect_joined (word : String) (later : List (String × Word)) (strays : List String) :
    collect ((word, .flag flag (some value)) :: later) arguments strays = collect later next strays := by
  rw [collect, running, if_neg Bool.false_ne_true]
  simp only [Use.ofWord, Use.lacksValue, valued, bind, Except.bind, Option.isNone_some, Bool.and_false, Bool.false_eq_true,
    if_true, if_false, take_of_takeValue running taken]

end Collect

/-- What a command can be asked for: an operation to run, or a database to work on. -/
inductive Choice where
  | only (operation : Operation)
  | database (place : Alias)

namespace Choice

def flag : Choice → Flag
  | only _ => .only
  | database _ => .database

def option : Choice → String
  | only _ => "--only"
  | database _ => "--database"

def value : Choice → String
  | only operation => operation.name
  | database place => place.name

def operation? : Choice → Option Operation
  | only operation => some operation
  | database _ => none

def database? : Choice → Option Alias
  | only _ => none
  | database place => some place

variable (choice : Choice)

theorem option_listed : (choice.option, choice.flag) ∈ spellings := by
  have only : ("--only", Flag.only) ∈ spellings := by decide
  have database : ("--database", Flag.database) ∈ spellings := by decide
  cases choice with
  | only => exact only
  | database => exact database

theorem option_long : ['-', '-'] <+: choice.option.toList := by
  cases choice with
  | only =>
    have only : ['-', '-'] <+: "--only".toList := by decide
    exact only
  | database =>
    have database : ['-', '-'] <+: "--database".toList := by decide
    exact database

theorem flag_takesValue : choice.flag.takesValue := by
  cases choice <;> rfl

theorem value_plain : choice.value.toList.head? ≠ some '-' := by
  rcases choice with operation | place
  · cases operation <;> decide
  · cases place <;> decide

end Choice

/-- The operations that are chosen, in the order of the choices. -/
def operations (choices : List Choice) : List Operation :=
  choices.filterMap Choice.operation?

/-- The database that is chosen last, if one is, and the default one otherwise. -/
def place (choices : List Choice) : Alias :=
  (choices.filterMap Choice.database?).getLast?.getD .default

/-- Words that make some choices, one after the other. -/
inductive Spells : List Choice → List String → Prop where
  | nil : Spells [] []
  | apart {choice : Choice} {choices : List Choice} {start : String} {words : List String}
      (short : Abbreviates start choice.option) (others : Spells choices words) :
      Spells (choice :: choices) (start :: choice.value :: words)
  | joined {choice : Choice} {choices : List Choice} {start : String} {words : List String}
      (short : Abbreviates start choice.option) (others : Spells choices words) :
      Spells (choice :: choices) ((start ++ "=" ++ choice.value) :: words)

namespace Arguments

def choose (arguments : Arguments) : Choice → Arguments
  | .only operation => { arguments with only := arguments.only ++ [some operation] }
  | .database place => { arguments with database := some place.name }

theorem choose_stop (arguments : Arguments) (choice : Choice) : (arguments.choose choice).stop = arguments.stop := by
  cases choice <;> rfl

theorem takeValue_choice (arguments : Arguments) (choice : Choice) :
    arguments.takeValue choice.flag choice.value = .ok (arguments.choose choice) := by
  have said : said? choice.value = some choice.value := by
    rw [said?, if_neg]
    intro same
    apply choice.value_plain
    rw [beq_iff_eq.mp same]
    rfl
  cases choice with
  | only operation =>
    have named : Operation.ofName? operation.name = some operation := by
      cases operation <;> decide
    rw [Choice.value] at said ⊢
    simp only [Choice.flag, takeValue, said, named, choose]
  | database place => exact congrArg (fun name => Except.ok { arguments with database := name }) said

/-- Choices together add up to their operations, and the last database counts. -/
theorem foldl_choose (choices : List Choice) (arguments : Arguments) : choices.foldl choose arguments =
    { arguments with
      only := arguments.only ++ (operations choices).map some
      database := ((choices.filterMap Choice.database?).getLast?.map fun place => some place.name).getD arguments.database } := by
  induction choices generalizing arguments with
  | nil =>
    rw [operations, List.filterMap_nil, List.map_nil, List.append_nil]
    rfl
  | cons choice rest ih =>
    rw [List.foldl_cons, ih]
    cases choice with
    | only operation =>
      have added : operations (.only operation :: rest) = operation :: operations rest := rfl
      rw [added, List.map_cons, choose, List.append_assoc, List.singleton_append]
      rfl
    | database place =>
      have replaced : (Choice.database place :: rest).filterMap Choice.database? =
          place :: rest.filterMap Choice.database? := rfl
      rw [replaced, List.getLast?_cons]
      cases (rest.filterMap Choice.database?).getLast? <;> rfl

end Arguments

theorem Spells.understood {choices : List Choice} {words : List String} (spelled : Spells choices words) :
    ∃ classified, classifyAll words = .ok classified ∧ ∀ arguments : Arguments, arguments.stop = false →
      collect classified arguments [] = .ok (choices.foldl Arguments.choose arguments) := by
  induction spelled with
  | nil =>
    refine ⟨[], rfl, fun arguments running => ?_⟩
    rw [collect, running]
    rfl
  | @apart choice choices start words short others ih =>
    obtain ⟨classified, looks, collected⟩ := ih
    have first := classify_apart short choice.option_listed choice.option_long
    have second := classify_plain choice.value_plain
    refine ⟨_, classifyAll_cons ?_ first (classifyAll_cons ?_ second looks), fun arguments running => ?_⟩
    · rintro rfl
      obtain ⟨_, _, chars⟩ := short.toList_eq choice.option_long
      cases chars
    · intro same
      apply choice.value_plain
      rw [same]
      rfl
    · rw [collect_apart choice.flag_takesValue running (arguments.takeValue_choice choice)]
      exact collected _ ((arguments.choose_stop choice).trans running)
  | @joined choice choices start words short others ih =>
    obtain ⟨classified, looks, collected⟩ := ih
    have first := classify_joined short choice.option_listed choice.option_long choice.value
    refine ⟨_, classifyAll_cons ?_ first looks, fun arguments running => ?_⟩
    · intro same
      have plain : '=' ∉ "--".toList := by decide
      rw [← same, String.toList_append, String.toList_append] at plain
      exact plain (List.mem_append_left _ (List.mem_append_right _ List.mem_cons_self))
    · rw [collect_joined choice.flag_takesValue running (arguments.takeValue_choice choice)]
      exact collected _ ((arguments.choose_stop choice).trans running)

/-- A command understands the choices that its words make, however they are spelled. -/
theorem ofWords_of_spells {choices : List Choice} {words : List String} (spelled : Spells choices words) :
    Arguments.ofWords words =
      .ok { only := (operations choices).map some, database := some (place choices).name } := by
  obtain ⟨classified, looks, collected⟩ := spelled.understood
  rw [Arguments.ofWords, looks]
  refine (collected {} rfl).trans ?_
  rw [Arguments.foldl_choose, place]
  cases (choices.filterMap Choice.database?).getLast? <;> rfl

end JudgeStats.Command
