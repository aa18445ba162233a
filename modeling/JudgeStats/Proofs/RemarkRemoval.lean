import JudgeStats.Proofs.Patterns
import JudgeStats.Proofs.Remarks
import Mathlib.Order.Bounds.Basic

/-! What simplifying a name removes, told in three ways: as the first piece that a search for a pattern finds, as the leftmost
and longest reading of the name as text, version, remark and text, and by counting places in the name. All three tell the
same text for every name. -/

namespace JudgeStats.Language
open Text

/-- Digits that do not come right after Perl, or nothing. -/
def versionPattern : Pattern :=
  .either (.both (.notAfter perl) (.many Char.isDigit)) .nothing

/-- A blank, then anything in parentheses, line breaks too. -/
def bracketPattern : Pattern :=
  .both (.one (· == ' ')) (.both (.one (· == '(')) (.both (.many fun _ => true) (.one (· == ')'))))

/-- What is removed from a name. -/
def remarkPattern : Pattern :=
  .both versionPattern bracketPattern

/-- A way to read a name: text, digits that count as a version, a remark, and text. -/
structure Reading (name before digits inside after : List Char) : Prop where
  whole : name = before ++ digits ++ ' ' :: '(' :: (inside ++ ')' :: after)
  decimal : ∀ c ∈ digits, c.isDigit = true
  free : digits = [] ∨ ¬ perl <:+ before

/-- Of all readings one that begins furthest left, and of those one with the longest remark. -/
structure Leftmost (name before digits inside after : List Char) : Prop extends Reading name before digits inside after where
  shortest : ∀ {start version remark tail}, Reading name start version remark tail → before.length ≤ start.length
  longest : ∀ {version remark tail}, Reading name before version remark tail → remark.length ≤ inside.length

/-- What is left of a name without its version and remark. A name that cannot be read so is left as it is. -/
inductive Removes (name : List Char) : List Char → Prop
  | cut {before digits inside after : List Char} (leftmost : Leftmost name before digits inside after) :
      Removes name (before ++ after)
  | whole (unread : ∀ before digits inside after, ¬ Reading name before digits inside after) : Removes name name

/-- The same by places: the first where a remark may open, the last closing parenthesis, and where the digits begin that end
at the opening. After Perl the cut comes one place later, unless there are no digits. -/
inductive Cuts (name : List Char) : List Char → Prop
  | cut {opened closed digits start : Nat}
      (first : IsLeast {place | opening <+: name.drop place} opened)
      (last : IsGreatest {place | name[place]? = some ')'} closed)
      (apart : opened + 2 ≤ closed)
      (run : IsLeast {place | place ≤ opened ∧ ∀ c ∈ (name.take opened).drop place, c.isDigit = true} digits)
      (place : start = if digits = opened ∨ ¬ perl <:+ name.take digits then digits else digits + 1) :
      Cuts name (name.take start ++ name.drop (closed + 1))
  | whole (none : ∀ opened closed, IsLeast {place | opening <+: name.drop place} opened →
      IsGreatest {place | name[place]? = some ')'} closed → closed < opened + 2) : Cuts name name

section Readings
variable {name head remark tail before digits inside after : List Char}

/-- Digits end where a blank comes, so a text begins with one run of digits before a blank only. -/
theorem digits_unique {other rest more : List Char} (decimal : ∀ c ∈ digits, c.isDigit = true)
    (numeric : ∀ c ∈ other, c.isDigit = true) (same : digits ++ ' ' :: rest = other ++ ' ' :: more) :
    digits = other ∧ rest = more := by
  have run {found : List Char} (decimal : ∀ c ∈ found, c.isDigit = true) (later : List Char) :
      (found ++ ' ' :: later).takeWhile Char.isDigit = found := by
    rw [List.takeWhile_append_of_pos decimal]
    exact List.append_nil found
  have equal : digits = other := by rw [← run decimal rest, same, run numeric]
  subst equal
  exact ⟨rfl, (List.cons.inj (List.append_cancel_left same)).2⟩

/-- Readings that begin at one place have the same version. -/
theorem Reading.digits_eq {version note rest : List Char} (one : Reading name before digits inside after)
    (two : Reading name before version note rest) :
    digits = version ∧ inside ++ ')' :: after = note ++ ')' :: rest := by
  have same := one.whole.symm.trans two.whole
  rw [List.append_assoc before, List.append_assoc before] at same
  obtain ⟨equal, opened⟩ := digits_unique one.decimal two.decimal (List.append_cancel_left same)
  exact ⟨equal, (List.cons.inj opened).2⟩

/-- A reading begins no earlier than the remark opens, or its version ends there. -/
theorem Remarked.reading_cases (remarked : Remarked name head remark tail) (reading : Reading name before digits inside after) :
    head.length ≤ before.length ∨ head = before ++ digits := by
  have same := remarked.whole.symm.trans reading.whole
  obtain ⟨more, longer⟩ := exists_append_of_first remarked.first same
  rcases List.append_eq_append_iff.mp longer with ⟨others, _, split⟩ | ⟨others, rfl, _⟩
  · cases more with
    | nil => exact .inr (by rw [longer, List.append_nil])
    | cons c later =>
      rw [longer, List.append_assoc] at same
      obtain ⟨rfl, _⟩ := List.cons.inj (List.append_cancel_left same)
      exact absurd (reading.decimal ' ' (by simp [split])) (by decide)
  · exact .inl (by simp)

/-- Of a text whose version ends a reading no more is kept than the reading keeps. -/
theorem length_kept_le (decimal : ∀ c ∈ digits, c.isDigit = true) (free : digits = [] ∨ ¬ perl <:+ before) :
    (stem (before ++ digits) ++ keptDigit (before ++ digits)).length ≤ before.length := by
  have whole := stem_append_version before
  have sum := congrArg List.length whole
  rw [List.length_append] at sum
  rw [stem_append decimal, List.length_append]
  by_cases named : perl <:+ stem before
  · rw [keptDigit_of_perl (by rwa [stem_append decimal]), version_append decimal]
    cases glued : version before with
    | nil =>
      have plain : stem before = before := by simpa [glued] using whole
      have none : digits = [] := free.resolve_right (not_not_intro (by rwa [plain] at named))
      simp [none, plain]
    | cons c rest =>
      rw [glued, List.length_cons] at sum
      simp only [List.cons_append, List.take_succ_cons, List.take_zero, List.length_singleton]
      omega
  · rw [keptDigit_of_not_perl (by rwa [stem_append decimal]), List.length_nil]
    omega

theorem length_le_of_last (last : ')' ∉ tail) (same : remark ++ ')' :: tail = inside ++ ')' :: after) :
    inside.length ≤ remark.length := by
  rcases List.append_eq_append_iff.mp same with ⟨more, rfl, rest⟩ | ⟨more, rfl, _⟩
  · cases more with
    | nil => simp
    | cons c others =>
      obtain ⟨_, rfl⟩ := List.cons.inj rest
      exact absurd (by simp) last
  · simp

theorem Remarked.exists_leftmost (remarked : Remarked name head remark tail) :
    ∃ digits, Leftmost name (stem head ++ keptDigit head) digits remark tail := by
  obtain ⟨digits, split, decimal, free⟩ := exists_dropped head
  have reading : Reading name (stem head ++ keptDigit head) digits remark tail := ⟨split ▸ remarked.whole, decimal, free⟩
  refine ⟨digits, reading, ?_, ?_⟩
  · intro start version inside after other
    rcases remarked.reading_cases other with longer | whole
    · have sum := congrArg List.length split
      rw [List.length_append] at sum
      omega
    · rw [whole]
      exact length_kept_le other.decimal other.free
  · intro version inside after other
    exact length_le_of_last remarked.last (reading.digits_eq other).2

theorem Leftmost.unique {start version note rest : List Char} (one : Leftmost name before digits inside after)
    (two : Leftmost name start version note rest) : before = start ∧ after = rest := by
  have same := one.whole.symm.trans two.whole
  rw [List.append_assoc before, List.append_assoc start] at same
  have equal : before.length = start.length :=
    Nat.le_antisymm (one.shortest two.toReading) (two.shortest one.toReading)
  obtain ⟨rfl, _⟩ := List.append_inj same equal
  have long : inside.length = note.length := Nat.le_antisymm (two.longest one.toReading) (one.longest two.toReading)
  obtain ⟨_, closed⟩ := List.append_inj (one.digits_eq two.toReading).2 long
  exact ⟨rfl, (List.cons.inj closed).2⟩

theorem removes_iff {result : List Char} : Removes name result ↔ result = simplifyChars name := by
  rcases remarked_cases name with ⟨head, remark, tail, remarked⟩ | none
  · obtain ⟨digits, leftmost⟩ := remarked.exists_leftmost
    rw [remarked.simplifyChars_eq]
    constructor
    · intro removes
      cases removes with
      | cut other =>
        obtain ⟨rfl, rfl⟩ := leftmost.unique other
        rfl
      | whole unread => exact absurd leftmost.toReading (unread _ _ _ _)
    · rintro rfl
      exact .cut leftmost
  · have unread (before digits inside after : List Char) : ¬ Reading name before digits inside after :=
      fun reading => none _ _ _ reading.whole
    rw [simplifyChars_eq_self none]
    constructor
    · intro removes
      cases removes with
      | cut leftmost => exact absurd leftmost.toReading (unread _ _ _ _)
      | whole => rfl
    · rintro rfl
      exact .whole unread

end Readings

section Search
variable {name before rest piece digits inside after : List Char}

theorem versionPattern_allows_iff : versionPattern.Allows before piece ↔
    (∀ c ∈ piece, c.isDigit = true) ∧ (piece = [] ∨ ¬ perl <:+ before) := by
  simp only [versionPattern, Pattern.Allows]
  constructor
  · rintro (⟨_, digits, rfl, ⟨rfl, free⟩, decimal⟩ | rfl)
    · exact ⟨decimal, .inr free⟩
    · exact ⟨List.forall_mem_nil _, .inl rfl⟩
  · rintro ⟨decimal, rfl | free⟩
    · exact .inr rfl
    · exact .inl ⟨[], piece, rfl, ⟨rfl, free⟩, decimal⟩

theorem bracketPattern_allows_iff : bracketPattern.Allows before piece ↔
    ∃ inside, piece = ' ' :: '(' :: (inside ++ [')']) := by
  simp only [bracketPattern, Pattern.Allows, beq_iff_eq]
  constructor
  · rintro ⟨_, _, rfl, ⟨_, rfl, rfl⟩, _, _, rfl, ⟨_, rfl, rfl⟩, inside, _, rfl, _, _, rfl, rfl⟩
    exact ⟨inside, rfl⟩
  · rintro ⟨inside, rfl⟩
    exact ⟨[' '], _, rfl, ⟨' ', rfl, rfl⟩, ['('], _, rfl, ⟨'(', rfl, rfl⟩, inside, _, rfl, fun _ _ => trivial, ')', rfl, rfl⟩

theorem greedy_bracketPattern : bracketPattern.Greedy :=
  (Pattern.greedy_many _).both_one.one_both.one_both

/-- The ways to match at a place are the readings that begin there. -/
theorem mem_ways_iff_reading : (piece, after) ∈ remarkPattern.ways before rest ↔
    ∃ digits inside, piece = digits ++ ' ' :: '(' :: (inside ++ [')']) ∧ Reading (before ++ rest) before digits inside after := by
  rw [Pattern.mem_ways_iff, remarkPattern, Pattern.Allows]
  simp only [versionPattern_allows_iff, bracketPattern_allows_iff]
  constructor
  · rintro ⟨rfl, digits, _, rfl, ⟨decimal, free⟩, inside, rfl⟩
    exact ⟨digits, inside, rfl, by simp, decimal, free⟩
  · rintro ⟨digits, inside, rfl, whole, decimal, free⟩
    refine ⟨?_, digits, _, rfl, ⟨decimal, free⟩, inside, rfl⟩
    rw [List.append_assoc] at whole
    simpa using List.append_cancel_left whole

theorem Reading.exists_way (reading : Reading name before digits inside after) : ∃ rest, name = before ++ rest ∧
    (digits ++ ' ' :: '(' :: (inside ++ [')']), after) ∈ remarkPattern.ways before rest := by
  have split : name = before ++ (digits ++ ' ' :: '(' :: (inside ++ ')' :: after)) := by
    rw [reading.whole, List.append_assoc]
  exact ⟨_, split, mem_ways_iff_reading.mpr ⟨digits, inside, rfl, split ▸ reading⟩⟩

theorem blank_of_mem_ways {way : List Char × List Char} (member : way ∈ bracketPattern.ways before rest) :
    ∃ more, rest = ' ' :: more := by
  obtain ⟨piece, after⟩ := way
  obtain ⟨rfl, allowed⟩ := Pattern.mem_ways_iff.mp member
  obtain ⟨inside, rfl⟩ := bracketPattern_allows_iff.mp allowed
  exact ⟨_, rfl⟩

/-- Digits before a blank are one run, so a remark can follow only one of the ways to take a version. -/
theorem version_single {one other next last : List Char × List Char} (taken : one ∈ versionPattern.ways before rest)
    (chosen : other ∈ versionPattern.ways before rest) (follows : next ∈ bracketPattern.ways (before ++ one.1) one.2)
    (among : last ∈ bracketPattern.ways (before ++ other.1) other.2) : one = other := by
  obtain ⟨digits, text⟩ := one
  obtain ⟨version, note⟩ := other
  obtain ⟨more, rfl⟩ := blank_of_mem_ways follows
  obtain ⟨left, rfl⟩ := blank_of_mem_ways among
  obtain ⟨split, allowed⟩ := Pattern.mem_ways_iff.mp taken
  obtain ⟨apart, permitted⟩ := Pattern.mem_ways_iff.mp chosen
  obtain ⟨decimal, _⟩ := versionPattern_allows_iff.mp allowed
  obtain ⟨numeric, _⟩ := versionPattern_allows_iff.mp permitted
  obtain ⟨rfl, rfl⟩ := digits_unique decimal numeric (split.symm.trans apart)
  rfl

/-- The way tried first is the longest. -/
theorem length_le_of_ways {first way : List Char × List Char} {others : List (List Char × List Char)}
    (tried : remarkPattern.ways before rest = first :: others) (member : way ∈ remarkPattern.ways before rest) :
    way.1.length ≤ first.1.length := by
  have head : (remarkPattern.ways before rest).head? = some first := by
    rw [tried]
    rfl
  apply greedy_bracketPattern.length_le_of_both _ head member
  intro one taken other chosen next follows last among
  exact version_single taken chosen follows among

theorem removes_removeFirst (name : List Char) : Removes name (remarkPattern.removeFirst name) := by
  rcases remarkPattern.removeFirst_cases name with ⟨same, none⟩ | ⟨before, rest, piece, after, others, rfl, tried, cut, none⟩
  · rw [same]
    refine .whole fun before digits inside after reading => ?_
    obtain ⟨rest, split, member⟩ := reading.exists_way
    rw [none before rest split] at member
    cases member
  · rw [cut]
    obtain ⟨digits, inside, rfl, reading⟩ := mem_ways_iff_reading.mp (tried ▸ List.mem_cons_self)
    refine .cut ⟨reading, ?_, ?_⟩
    · intro start version remark tail other
      by_contra shorter
      obtain ⟨more, split, member⟩ := other.exists_way
      rw [none start more split (Nat.lt_of_not_le shorter)] at member
      cases member
    · intro version remark tail other
      obtain ⟨more, split, member⟩ := other.exists_way
      obtain rfl := List.append_cancel_left split
      have limited := length_le_of_ways tried member
      obtain ⟨rfl, _⟩ := reading.digits_eq other
      simp only [List.length_append, List.length_cons, List.length_nil] at limited
      omega

end Search

section Places
variable {name head remark tail : List Char}

theorem Remarked.isLeast_opened (remarked : Remarked name head remark tail) :
    IsLeast {place | opening <+: name.drop place} head.length := by
  constructor
  · change opening <+: name.drop head.length
    rw [remarked.whole, List.drop_left]
    exact ⟨remark ++ ')' :: tail, rfl⟩
  · intro place opened
    obtain ⟨rest, split⟩ := opened
    have same : head ++ ' ' :: '(' :: (remark ++ ')' :: tail) = name.take place ++ ' ' :: '(' :: rest := by
      rw [← remarked.whole]
      exact (List.take_append_drop place name).symm.trans (congrArg (name.take place ++ ·) split.symm)
    obtain ⟨more, longer⟩ := exists_append_of_first remarked.first same
    have sum := congrArg List.length longer
    have short := List.length_take_le place name
    rw [List.length_append] at sum
    omega

theorem Remarked.isGreatest_closed (remarked : Remarked name head remark tail) :
    IsGreatest {place | name[place]? = some ')'} (head.length + 2 + remark.length) := by
  have split : name = (head ++ ' ' :: '(' :: remark) ++ ')' :: tail := by simp [remarked.whole]
  have size : (head ++ ' ' :: '(' :: remark).length = head.length + 2 + remark.length := by
    simp only [List.length_append, List.length_cons]
    omega
  rw [split, ← size]
  generalize head ++ ' ' :: '(' :: remark = start
  constructor
  · change (start ++ ')' :: tail)[start.length]? = some ')'
    simp
  · intro place closed
    change (start ++ ')' :: tail)[place]? = some ')' at closed
    by_contra later
    obtain ⟨more, rfl⟩ : ∃ more, place = start.length + (more + 1) := ⟨place - start.length - 1, by omega⟩
    rw [List.getElem?_append_right (by omega), Nat.add_sub_cancel_left, List.getElem?_cons_succ] at closed
    exact remarked.last (List.mem_of_getElem? closed)

/-- The digits that end a text begin after its stem. -/
theorem isLeast_digits (head : List Char) :
    IsLeast {place | place ≤ head.length ∧ ∀ c ∈ head.drop place, c.isDigit = true} (stem head).length := by
  have beginning (text : List Char) : (stem text).length ≤ text.length :=
    List.IsPrefix.length_le ⟨version text, stem_append_version text⟩
  have glued : head.drop (stem head).length = version head := by
    have parted : (stem head ++ version head).drop (stem head).length = version head := List.drop_left
    rwa [stem_append_version] at parted
  refine ⟨⟨beginning head, fun c inside => isDigit_of_mem_version (glued ▸ inside)⟩, ?_⟩
  intro place ⟨_, decimal⟩
  calc (stem head).length
    _ = (stem (head.take place ++ head.drop place)).length := by rw [List.take_append_drop]
    _ = (stem (head.take place)).length := by rw [stem_append decimal]
    _ ≤ (head.take place).length := beginning _
    _ ≤ place := List.length_take_le place head

theorem length_keptDigit (head : List Char) : (keptDigit head).length =
    if (stem head).length = head.length ∨ ¬ perl <:+ stem head then 0 else 1 := by
  have sum := congrArg List.length (stem_append_version head)
  rw [List.length_append] at sum
  by_cases named : perl <:+ stem head
  · rw [keptDigit_of_perl named]
    cases glued : version head with
    | nil =>
      rw [glued, List.length_nil] at sum
      rw [if_pos (.inl (by omega))]
      rfl
    | cons c rest =>
      rw [glued, List.length_cons] at sum
      rw [if_neg (by simp only [named, not_true, or_false]; omega)]
      rfl
  · rw [keptDigit_of_not_perl named, if_pos (.inr named)]
    rfl

/-- The places of a remark tell where its name is cut. -/
theorem Remarked.cut_eq (remarked : Remarked name head remark tail) {start : Nat}
    (place : start = if (stem head).length = head.length ∨ ¬ perl <:+ name.take (stem head).length then (stem head).length
      else (stem head).length + 1) :
    name.take start ++ name.drop (head.length + 2 + remark.length + 1) = simplifyChars name := by
  obtain ⟨digits, whole, _⟩ := exists_dropped head
  have front : name = stem head ++ (keptDigit head ++ digits ++ ' ' :: '(' :: (remark ++ ')' :: tail)) := by
    rw [← List.append_assoc, ← List.append_assoc, ← whole]
    exact remarked.whole
  have back : name = (head ++ ' ' :: '(' :: (remark ++ [')'])) ++ tail := by simp [remarked.whole]
  have stemmed : name.take (stem head).length = stem head := by rw [front, List.take_left]
  have kept : start = (stem head ++ keptDigit head).length := by
    rw [place, stemmed, List.length_append, length_keptDigit]
    split <;> omega
  have size : head.length + 2 + remark.length + 1 = (head ++ ' ' :: '(' :: (remark ++ [')'])).length := by
    simp only [List.length_append, List.length_cons, List.length_nil]
    omega
  rw [remarked.simplifyChars_eq, kept, size]
  congr 1
  · rw [front, List.append_assoc, ← List.append_assoc, List.take_left]
  · rw [back, List.drop_left]

/-- A closing parenthesis after a place where a remark may open. -/
theorem exists_of_places {opened closed : Nat} (first : opening <+: name.drop opened) (last : name[closed]? = some ')')
    (apart : opened + 2 ≤ closed) : ∃ head remark tail, name = head ++ ' ' :: '(' :: (remark ++ ')' :: tail) := by
  obtain ⟨rest, split⟩ := first
  obtain ⟨more, rfl⟩ : ∃ more, closed = opened + (more + 2) := ⟨closed - opened - 2, by omega⟩
  rw [← List.getElem?_drop, ← split] at last
  change rest[more]? = some ')' at last
  obtain ⟨remark, tail, rfl⟩ := List.append_of_mem (List.mem_of_getElem? last)
  exact ⟨name.take opened, remark, tail,
    (List.take_append_drop opened name).symm.trans (congrArg (name.take opened ++ ·) split.symm)⟩

theorem cuts_iff {result : List Char} : Cuts name result ↔ result = simplifyChars name := by
  rcases remarked_cases name with ⟨head, remark, tail, remarked⟩ | none
  · have opened := remarked.isLeast_opened
    have closed := remarked.isGreatest_closed
    have run := isLeast_digits head
    have front : name.take head.length = head := by rw [remarked.whole, List.take_left]
    constructor
    · intro cuts
      cases cuts with
      | cut first last apart digits place =>
        obtain rfl := first.unique opened
        obtain rfl := last.unique closed
        rw [front] at digits
        obtain rfl := digits.unique run
        exact remarked.cut_eq place
      | whole none =>
        have missing := none _ _ opened closed
        omega
    · rintro rfl
      rw [← remarked.cut_eq rfl]
      exact .cut opened closed (by omega) (front.symm ▸ run) rfl
  · rw [simplifyChars_eq_self none]
    constructor
    · intro cuts
      cases cuts with
      | cut first last apart _ _ =>
        obtain ⟨head, remark, tail, whole⟩ := exists_of_places first.1 last.1 apart
        exact absurd whole (none head remark tail)
      | whole => rfl
    · rintro rfl
      refine .whole fun opened closed first last => ?_
      by_contra apart
      obtain ⟨head, remark, tail, whole⟩ := exists_of_places first.1 last.1 (Nat.le_of_not_lt apart)
      exact none head remark tail whole

end Places

/-- For every name the search for the pattern, the leftmost reading and the places tell the same text, and this is the
simplified name. -/
theorem simplifyLanguage_removes (name : String) :
    remarkPattern.removeFirst name.toList = (simplifyLanguage name).toList ∧
    (∀ result, Removes name.toList result ↔ result = (simplifyLanguage name).toList) ∧
    (∀ result, Cuts name.toList result ↔ result = (simplifyLanguage name).toList) ∧
    ∀ result, Removes name.toList result ↔ Cuts name.toList result := by
  rw [toList_simplifyLanguage]
  refine ⟨removes_iff.mp (removes_removeFirst name.toList), fun _ => removes_iff, fun _ => cuts_iff, fun result => ?_⟩
  rw [removes_iff, cuts_iff]

-- Parentheses within the remark do not end it, and text after it stays.
example : simplifyLanguage "C++17 (GCC (9.2.1) x64) beta" = "C++ beta" := by decide +kernel

end JudgeStats.Language
