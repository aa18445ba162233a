/-! A language name carries its version glued to the name and a remark in parentheses, as in
C++17 (GCC 9.2.1). Simplifying drops both, so that all versions and compilers of a language count as one.
Names that end in Perl are an exception: there the first digit belongs to the name, for Perl6 is no version of Perl. -/

namespace JudgeStats.Language

/-- What stands before and after the first place where a blank and an opening parenthesis meet. -/
def splitRemark : List Char → Option (List Char × List Char)
  | [] => none
  | ' ' :: '(' :: rest => some ([], rest)
  | c :: rest => (splitRemark rest).map fun (head, inside) => (c :: head, inside)

/-- What follows the last closing parenthesis. -/
def afterClosing : List Char → Option (List Char)
  | [] => none
  | c :: rest =>
    match afterClosing rest with
    | some tail => some tail
    | none => if c = ')' then some rest else none

/-- The digits at the end of a name. -/
def version (name : List Char) : List Char :=
  (name.reverse.takeWhile Char.isDigit).reverse

/-- A name without the digits at its end. -/
def stem (name : List Char) : List Char :=
  (name.reverse.dropWhile Char.isDigit).reverse

theorem stem_append_version (name : List Char) : stem name ++ version name = name := by
  rw [stem, version, ← List.reverse_append, List.takeWhile_append_dropWhile, List.reverse_reverse]

theorem isDigit_of_mem_version {name : List Char} {c : Char} (inside : c ∈ version name) : c.isDigit = true :=
  List.all_eq_true.mp List.all_takeWhile c (List.mem_reverse.mp inside)

/-- The digit that a name ending in Perl keeps. -/
def keptDigit (name : List Char) : List Char :=
  if ['P', 'e', 'r', 'l'].isSuffixOf (stem name) then (version name).take 1 else []

/-- Drops the remark, from the first opening to the last closing parenthesis, and the version before it. Text after
the remark stays. Without a remark the name stays as it is, its digits included. -/
def simplifyChars (name : List Char) : List Char :=
  match splitRemark name with
  | none => name
  | some (head, inside) =>
    match afterClosing inside with
    | none => name
    | some tail => stem head ++ keptDigit head ++ tail

end JudgeStats.Language

namespace JudgeStats

def simplifyLanguage (name : String) : String :=
  String.ofList (Language.simplifyChars name.toList)

end JudgeStats
