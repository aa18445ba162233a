import JudgeStats.Language
import Mathlib.Data.List.Infix

/-! Where the remark of a name lies, and what is left of the name without it. A remark goes from the first opening to the
last closing parenthesis, so no opening is left before its place and no closing after it. Hence a name that was simplified
has no remark. -/

namespace JudgeStats.Language

/-- What a remark begins with. -/
def opening : List Char := [' ', '(']

def perl : List Char := ['P', 'e', 'r', 'l']

/-- A name taken apart at the first place where a remark may open and at the last closing parenthesis, which comes after it. -/
structure Remarked (name head remark tail : List Char) : Prop where
  whole : name = head ++ ' ' :: '(' :: (remark ++ ')' :: tail)
  first : ¬ opening <:+: head
  last : ')' ∉ tail

section Scan
variable {name head inside tail : List Char}

theorem splitRemark_eq_some (found : splitRemark name = some (head, inside)) :
    name = head ++ ' ' :: '(' :: inside ∧ ¬ opening <:+: head := by
  induction name using splitRemark.induct generalizing head with
  | case1 => cases found
  | case2 rest =>
    cases found
    exact ⟨rfl, by decide⟩
  | case3 c rest other ih =>
    rw [splitRemark.eq_3 c rest other] at found
    obtain ⟨⟨start, later⟩, deeper, same⟩ := Option.map_eq_some_iff.mp found
    cases same
    obtain ⟨rfl, none⟩ := ih deeper
    refine ⟨rfl, fun inside => ?_⟩
    rcases List.infix_cons_iff.mp inside with here | later
    · obtain ⟨after, same⟩ := here
      cases same
      exact other _ rfl rfl
    · exact none later

theorem splitRemark_append (first : ¬ opening <:+: head) :
    splitRemark (head ++ ' ' :: '(' :: inside) = some (head, inside) := by
  induction head with
  | nil => rfl
  | cons c rest ih =>
    have later : ¬ opening <:+: rest := fun inside => first (List.infix_cons inside)
    rw [List.cons_append, splitRemark.eq_3, ih later]
    · rfl
    intro next blank start
    subst blank
    cases rest with
    | nil => cases start
    | cons d more =>
      cases start
      exact first ⟨[], more, rfl⟩

theorem not_opening_of_eq_none (missing : splitRemark name = none) : ¬ opening <:+: name := by
  induction name using splitRemark.induct with
  | case1 => decide
  | case2 rest => cases missing
  | case3 c rest other ih =>
    rw [splitRemark.eq_3 c rest other] at missing
    intro inside
    rcases List.infix_cons_iff.mp inside with here | later
    · obtain ⟨after, same⟩ := here
      cases same
      exact other _ rfl rfl
    · exact ih (Option.map_eq_none_iff.mp missing) later

theorem afterClosing_eq_none_iff : afterClosing inside = none ↔ ')' ∉ inside := by
  induction inside with
  | nil => simp [afterClosing]
  | cons c rest ih =>
    rw [afterClosing]
    cases found : afterClosing rest with
    | some tail =>
      have later : ')' ∈ rest := by
        by_contra absent
        rw [ih.mpr absent] at found
        cases found
      simp [later]
    | none => simp [ih.mp found, eq_comm]

theorem afterClosing_eq_some (found : afterClosing inside = some tail) :
    ∃ remark, inside = remark ++ ')' :: tail ∧ ')' ∉ tail := by
  induction inside with
  | nil => cases found
  | cons c rest ih =>
    rw [afterClosing] at found
    cases deeper : afterClosing rest with
    | some later =>
      rw [deeper] at found
      cases found
      obtain ⟨remark, rfl, last⟩ := ih deeper
      exact ⟨c :: remark, rfl, last⟩
    | none =>
      simp only [deeper] at found
      split at found
      next closing =>
        cases found
        subst closing
        exact ⟨[], rfl, afterClosing_eq_none_iff.mp deeper⟩
      next => cases found

theorem afterClosing_append (last : ')' ∉ tail) (remark : List Char) : afterClosing (remark ++ ')' :: tail) = some tail := by
  induction remark with
  | nil => rw [List.nil_append, afterClosing, afterClosing_eq_none_iff.mpr last, if_pos rfl]
  | cons c rest ih => rw [List.cons_append, afterClosing, ih]

/-- No other place where a remark may open lies before the first one. -/
theorem exists_append_of_first {before rest : List Char} (first : ¬ opening <:+: head)
    (same : head ++ ' ' :: '(' :: inside = before ++ ' ' :: '(' :: rest) : ∃ more, before = head ++ more := by
  rcases List.append_eq_append_iff.mp same with ⟨more, longer, _⟩ | ⟨more, rfl, overlap⟩
  · exact ⟨more, longer⟩
  cases more with
  | nil => exact ⟨[], by simp⟩
  | cons c others =>
    cases others with
    | nil => cases overlap
    | cons d others =>
      cases overlap
      exact absurd ⟨before, others, by simp [opening]⟩ first

end Scan

section Digits
variable {digits : List Char} (decimal : ∀ c ∈ digits, c.isDigit = true)
include decimal

theorem stem_append (name : List Char) : stem (name ++ digits) = stem name := by
  rw [stem, List.reverse_append, List.dropWhile_append_of_pos fun c inside => decimal c (List.mem_reverse.mp inside), stem]

theorem version_append (name : List Char) : version (name ++ digits) = version name ++ digits := by
  rw [version, List.reverse_append, List.takeWhile_append_of_pos fun c inside => decimal c (List.mem_reverse.mp inside),
    List.reverse_append, List.reverse_reverse, version]

/-- A remark opens with no digit, so digits at the end of a text open none. -/
theorem not_opening_append {head : List Char} (first : ¬ opening <:+: head) : ¬ opening <:+: head ++ digits := by
  rintro ⟨before, after, same⟩
  have overlap : head ++ digits = before ++ ' ' :: '(' :: after := by simp [← same, opening]
  rcases List.append_eq_append_iff.mp overlap with ⟨more, _, inside⟩ | ⟨more, longer, rest⟩
  · exact absurd (decimal ' ' (by simp [inside])) (by decide)
  match more with
  | [] =>
    have within : ' ' ∈ digits := by simp [show digits = ' ' :: '(' :: after from rest.symm]
    exact absurd (decimal ' ' within) (by decide)
  | [_] =>
    have within : '(' ∈ digits := by simp [show digits = '(' :: after from (List.cons.inj rest).2.symm]
    exact absurd (decimal '(' within) (by decide)
  | _ :: _ :: others =>
    cases rest
    exact first ⟨before, others, by simp [longer, opening]⟩

end Digits

theorem stem_perl (start : List Char) : stem (start ++ perl) = start ++ perl := by
  rw [stem, List.reverse_append]
  change (perl.reverse ++ start.reverse).reverse = start ++ perl
  rw [List.reverse_append, List.reverse_reverse, List.reverse_reverse]

theorem version_perl (start : List Char) : version (start ++ perl) = [] := by
  rw [version, List.reverse_append]
  rfl

theorem keptDigit_of_perl {head : List Char} (named : perl <:+ stem head) : keptDigit head = (version head).take 1 :=
  if_pos (List.isSuffixOf_iff_suffix.mpr named)

theorem keptDigit_of_not_perl {head : List Char} (other : ¬ perl <:+ stem head) : keptDigit head = [] :=
  if_neg fun named => other (List.isSuffixOf_iff_suffix.mp named)

/-- What is dropped of the text before a remark: digits, and none of them right after Perl. -/
theorem exists_dropped (head : List Char) : ∃ digits, head = stem head ++ keptDigit head ++ digits ∧
    (∀ c ∈ digits, c.isDigit = true) ∧ (digits = [] ∨ ¬ perl <:+ stem head ++ keptDigit head) := by
  have whole := (stem_append_version head).symm
  have decimal : ∀ c ∈ version head, c.isDigit = true := fun c => isDigit_of_mem_version
  by_cases named : perl <:+ stem head
  · rw [keptDigit_of_perl named]
    cases glued : version head with
    | nil => exact ⟨[], by simpa [glued] using whole, List.forall_mem_nil _, .inl rfl⟩
    | cons c rest =>
      rw [glued] at whole decimal
      refine ⟨rest, by simpa using whole, (List.forall_mem_cons.mp decimal).2, .inr ?_⟩
      rintro ⟨start, same⟩
      have ends : 'l' = c := by simpa [perl] using congrArg List.getLast? same
      exact absurd (decimal c List.mem_cons_self) (ends ▸ by decide)
  · rw [keptDigit_of_not_perl named, List.append_nil]
    exact ⟨version head, whole, decimal, .inr named⟩

section Remarked
variable {name head remark tail : List Char}

theorem Remarked.simplifyChars_eq (remarked : Remarked name head remark tail) :
    simplifyChars name = stem head ++ keptDigit head ++ tail := by
  rw [remarked.whole, simplifyChars, splitRemark_append remarked.first]
  simp only [afterClosing_append remarked.last]

theorem simplifyChars_eq_self (none : ∀ head remark tail, name ≠ head ++ ' ' :: '(' :: (remark ++ ')' :: tail)) :
    simplifyChars name = name := by
  rw [simplifyChars]
  cases found : splitRemark name with
  | none => rfl
  | some parts =>
    obtain ⟨head, inside⟩ := parts
    obtain ⟨rfl, _⟩ := splitRemark_eq_some found
    cases closed : afterClosing inside with
    | none => simp only [closed]
    | some tail =>
      obtain ⟨remark, rfl, _⟩ := afterClosing_eq_some closed
      exact absurd rfl (none head remark tail)

/-- Wherever a remark may open and a closing parenthesis follows, there is a remark from the first to the last. -/
theorem exists_remarked (whole : name = head ++ ' ' :: '(' :: (remark ++ ')' :: tail)) :
    ∃ head remark tail, Remarked name head remark tail := by
  cases found : splitRemark name with
  | none =>
    refine absurd ?_ (not_opening_of_eq_none found)
    exact ⟨head, remark ++ ')' :: tail, by simp [whole, opening]⟩
  | some parts =>
    obtain ⟨start, inside⟩ := parts
    obtain ⟨rfl, first⟩ := splitRemark_eq_some found
    obtain ⟨more, rfl⟩ := exists_append_of_first first whole
    have rest : ' ' :: '(' :: inside = more ++ ' ' :: '(' :: (remark ++ ')' :: tail) := by simpa using whole
    have closing : ')' ∈ ' ' :: '(' :: inside := by simp [rest]
    cases closed : afterClosing inside with
    | none => exact absurd (by simpa using closing) (afterClosing_eq_none_iff.mp closed)
    | some tail =>
      obtain ⟨remark, rfl, last⟩ := afterClosing_eq_some closed
      exact ⟨start, remark, tail, rfl, first, last⟩

theorem remarked_cases (name : List Char) : (∃ head remark tail, Remarked name head remark tail) ∨
    ∀ head remark tail, name ≠ head ++ ' ' :: '(' :: (remark ++ ')' :: tail) := by
  by_cases found : ∃ head remark tail, name = head ++ ' ' :: '(' :: (remark ++ ')' :: tail)
  · obtain ⟨_, _, _, whole⟩ := found
    exact .inl (exists_remarked whole)
  · exact .inr fun head remark tail whole => found ⟨head, remark, tail, whole⟩

/-- Whatever is kept before the place of a remark and after it, no remark comes about where the two meet: a closing
parenthesis is left before that place only, and there no remark opens. -/
theorem Remarked.no_other (remarked : Remarked name head remark tail) {kept : List Char} (beginning : kept <+: head)
    (before inside after : List Char) : kept ++ tail ≠ before ++ ' ' :: '(' :: (inside ++ ')' :: after) := by
  intro whole
  have same : kept ++ tail = (before ++ opening ++ inside) ++ ')' :: after := by simpa [opening] using whole
  rcases List.append_eq_append_iff.mp same with ⟨more, _, rest⟩ | ⟨more, longer, _⟩
  · exact remarked.last (by simp [rest])
  · have opened : opening <:+: kept := ⟨before, inside ++ more, by simp [longer]⟩
    exact remarked.first (opened.trans beginning.isInfix)

theorem simplifyChars_simplifyChars (name : List Char) : simplifyChars (simplifyChars name) = simplifyChars name := by
  rcases remarked_cases name with ⟨head, remark, tail, remarked⟩ | none
  · rw [remarked.simplifyChars_eq]
    obtain ⟨digits, whole, _⟩ := exists_dropped head
    exact simplifyChars_eq_self (remarked.no_other ⟨digits, whole.symm⟩)
  · rw [simplifyChars_eq_self none, simplifyChars_eq_self none]

end Remarked

end JudgeStats.Language

namespace JudgeStats

theorem toList_simplifyLanguage (name : String) : (simplifyLanguage name).toList = Language.simplifyChars name.toList :=
  String.toList_ofList

theorem simplifyLanguage_simplifyLanguage (name : String) :
    simplifyLanguage (simplifyLanguage name) = simplifyLanguage name := by
  apply String.toList_inj.mp
  rw [toList_simplifyLanguage, toList_simplifyLanguage, Language.simplifyChars_simplifyChars]

end JudgeStats
