import JudgeStats.Refresh.Operation
import JudgeStats.Text.Digit

/-! The words after the name of the command. A long option may be cut short as long as no other option begins like it, and
may have its value behind an equals sign or as the next word. Nothing but options and their values is expected; other
words are complained about once all options have been understood. Options of one letter may share a word. -/

namespace JudgeStats.Command

inductive Flag where
  | help | version | verbosity | settings | searchPath | traceback | noColor | forceColor | skipChecks
  | only | database | list
deriving DecidableEq

/-- All spellings, in the order in which an ambiguous beginning lists them. -/
def spellings : List (String × Flag) :=
  [("-h", .help), ("--help", .help), ("--version", .version), ("-v", .verbosity), ("--verbosity", .verbosity),
    ("--settings", .settings), ("--pythonpath", .searchPath), ("--traceback", .traceback), ("--no-color", .noColor),
    ("--force-color", .forceColor), ("--skip-checks", .skipChecks), ("--only", .only), ("--database", .database),
    ("--list", .list)]

namespace Flag

def takesValue : Flag → Bool
  | verbosity | settings | searchPath | only | database => true
  | help | version | traceback | noColor | forceColor | skipChecks | list => false

/-- A flag as messages name it: all its spellings. -/
def name (flag : Flag) : String :=
  "/".intercalate ((spellings.filter (·.2 == flag)).map (·.1))

end Flag

inductive UsageError where
  | ambiguous (word : String) (candidates : List String)
  | expectedValue (flag : Flag)
  | unwantedValue (flag : Flag) (value : String)
  | unknownChoice (value : String)
  | notANumber (value : String)
  | levelOutOfRange (level : Int)
  | unrecognized (words : List String)
deriving DecidableEq

def UsageError.message : UsageError → String
  | ambiguous word candidates => s!"Error: ambiguous option: {word} could match " ++ ", ".intercalate candidates
  | expectedValue flag => s!"Error: argument {flag.name}: expected one argument"
  | unwantedValue flag value => s!"Error: argument {flag.name}: ignored explicit argument " ++ Text.quote value
  | unknownChoice value =>
    s!"Error: argument {Flag.only.name}: invalid choice: " ++ Text.quote value ++ " (choose from " ++
      Text.quoteAll (Operation.all.map (·.name)) ++ ")"
  | notANumber value => s!"Error: argument {Flag.verbosity.name}: invalid int value: " ++ Text.quote value
  | levelOutOfRange level => s!"Error: argument {Flag.verbosity.name}: invalid choice: {level} (choose from 0, 1, 2, 3)"
  | unrecognized words => "Error: unrecognized arguments: " ++ " ".intercalate words

/-- What a word is, by its looks alone. -/
inductive Word where
  /-- A value, or a word out of place. -/
  | plain
  | flag (flag : Flag) (value : Option String)
  | unknownFlag
deriving DecidableEq

/-- A beginning, and what is behind the first equals sign if there is one. -/
def splitValue (word : List Char) : List Char × Option String :=
  match word.dropWhile (· != '=') with
  | [] => (word, none)
  | _ :: value => (word.takeWhile (· != '='), some (String.ofList value))

/-- A minus sign before digits, with a point before some of them or without. A line may end after it. -/
def isNegativeNumber : List Char → Bool
  | '-' :: digits =>
    match digits.dropWhile Text.isDigit with
    | [] | ['\n'] => digits.any Text.isDigit
    | '.' :: fraction =>
      let rest := fraction.dropWhile Text.isDigit
      fraction.any Text.isDigit && (rest == [] || rest == ['\n'])
    | _ => false
  | _ => false

/-- The flags that a word may stand for, each with its spelling and the value that the word brings. -/
def candidates (word : List Char) : List (String × Flag × Option String) :=
  match word with
  | '-' :: '-' :: _ =>
    let (start, value) := splitValue word
    (spellings.filter fun (spelling, _) => start.isPrefixOf spelling.toList).map fun (spelling, flag) =>
      (spelling, flag, value)
  | '-' :: letter :: value =>
    (spellings.filter fun (spelling, _) => spelling.toList == ['-', letter]).map fun (spelling, flag) =>
      (spelling, flag, some (String.ofList value))
  | _ => []

def classify (word : String) : Except UsageError Word :=
  let chars := word.toList
  if chars.head? != some '-' || chars.length == 1 then .ok .plain
  else
    match spellings.lookup word with
    | some flag => .ok (.flag flag none)
    | none =>
      let (start, value) := splitValue chars
      match value, spellings.lookup (String.ofList start) with
      | some value, some flag => .ok (.flag flag (some value))
      | _, _ =>
        match candidates chars with
        | [] => .ok (if isNegativeNumber chars || chars.contains ' ' then .plain else .unknownFlag)
        | [(_, flag, value)] => .ok (.flag flag value)
        | several => .error (.ambiguous word (several.map (·.1)))

/-- What every word is. After two hyphens on their own all words are plain. -/
def classifyAll : List String → Except UsageError (List (String × Word))
  | [] => .ok []
  | "--" :: rest => .ok (("--", .unknownFlag) :: rest.map (·, .plain))
  | word :: rest => do
    let first ← classify word
    let others ← classifyAll rest
    return (word, first) :: others

/-- A flag as a word has it, with the flags before it in the same word, and its value if the word has one. -/
structure Use where
  before : List Flag
  flag : Flag
  value : Option String
deriving DecidableEq

namespace Use

/-- Letters behind a letter that takes no value are flags of their own, up to one that takes a value: the rest is its
value. -/
def ofLetters (before : List Flag) (flag : Flag) : List Char → Except UsageError Use
  | [] => .ok ⟨before, flag, none⟩
  | letter :: rest =>
    if flag.takesValue then .ok ⟨before, flag, some (String.ofList (letter :: rest))⟩
    else
      match spellings.lookup (String.ofList ['-', letter]) with
      | some next => ofLetters (before ++ [flag]) next rest
      | none => .error (.unwantedValue flag (String.ofList (letter :: rest)))

/-- What a word says that stands for a flag and has something attached to it or not. -/
def ofWord (word : String) (flag : Flag) : Option String → Except UsageError Use
  | none => .ok ⟨[], flag, none⟩
  | some value =>
    if flag.takesValue then .ok ⟨[], flag, some value⟩
    else if ['-', '-'].isPrefixOf word.toList || value.isEmpty then .error (.unwantedValue flag value)
    else ofLetters [] flag value.toList

def lacksValue (use : Use) : Bool :=
  use.flag.takesValue && use.value.isNone

end Use

/-- What the options ask for. -/
structure Arguments where
  /-- The chosen operations. A choice may say nothing. -/
  only : List (Option Operation) := []
  /-- The database to work on, unless an option for it says nothing. -/
  database : Option String := some "default"
  list : Bool := false
  noColor : Bool := false
  forceColor : Bool := false
  /-- Only help, or the version, was asked for. -/
  stop : Bool := false
deriving DecidableEq

/-- The most digits that a number may have. -/
def longestNumber : Nat :=
  4300

/-- A whole number, with blanks around it, a sign, and underscores between its digits allowed. -/
def readLevel? (value : String) : Option Int :=
  match ((value.toList.dropWhile Text.isBlank).reverse.dropWhile Text.isBlank).reverse with
  | '-' :: digits => (readDigits? digits).map fun level => -(level : Int)
  | '+' :: digits => (readDigits? digits).map Int.ofNat
  | digits => (readDigits? digits).map Int.ofNat
where
  readDigits? (digits : List Char) : Option Nat :=
    let groups := digits.splitOn '_'
    if groups.all (fun group => !group.isEmpty && group.all Text.isDigit) && groups.flatten.length ≤ longestNumber then
      some (Text.ofDigits groups.flatten)
    else none

/-- What a value says. Two hyphens on their own say nothing. -/
def said? (value : String) : Option String :=
  if value == "--" then none else some value

namespace Arguments

/-- Takes a flag with its value into account. A value that says nothing is not looked into. -/
def takeValue (arguments : Arguments) (flag : Flag) (value : String) : Except UsageError Arguments :=
  match flag, said? value with
  | .only, none => .ok { arguments with only := arguments.only ++ [none] }
  | .only, some name =>
    match Operation.ofName? name with
    | some operation => .ok { arguments with only := arguments.only ++ [some operation] }
    | none => .error (.unknownChoice name)
  | .database, name => .ok { arguments with database := name }
  | .verbosity, some level =>
    match readLevel? level with
    | none => .error (.notANumber level)
    | some level => if 0 ≤ level ∧ level ≤ 3 then .ok arguments else .error (.levelOutOfRange level)
  | _, _ => .ok arguments

/-- Takes a flag without a value into account. -/
def takeAlone (arguments : Arguments) : Flag → Arguments
  | .list => { arguments with list := true }
  | .noColor => { arguments with noColor := true }
  | .forceColor => { arguments with forceColor := true }
  | .help | .version => { arguments with stop := true }
  | _ => arguments

/-- Takes all flags of a word into account, up to one that asks for help alone. -/
def take (arguments : Arguments) (use : Use) : Except UsageError Arguments :=
  let earlier := use.before.foldl takeAlone arguments
  if earlier.stop then .ok earlier
  else
    match use.value with
    | some value => earlier.takeValue use.flag value
    | none => .ok (earlier.takeAlone use.flag)

end Arguments

/-- Goes through the words, up to a flag that asks for help alone. Words out of place are kept for the end. -/
def collect (words : List (String × Word)) (arguments : Arguments) (strays : List String) :
    Except UsageError Arguments :=
  if arguments.stop then .ok arguments
  else
    match words with
    | [] => if strays.isEmpty then .ok arguments else .error (.unrecognized strays)
    | (word, .plain) :: rest | (word, .unknownFlag) :: rest => collect rest arguments (strays ++ [word])
    | (word, .flag flag attached) :: rest => do
      let use ← Use.ofWord word flag attached
      if use.lacksValue then
        match rest with
        | (value, .plain) :: later => collect later (← arguments.take { use with value := some value }) strays
        | _ => throw (.expectedValue use.flag)
      else collect rest (← arguments.take use) strays

def Arguments.ofWords (words : List String) : Except UsageError Arguments := do
  collect (← classifyAll words) {} []

end JudgeStats.Command
