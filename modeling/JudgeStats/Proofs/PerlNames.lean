import JudgeStats.Proofs.Remarks

/-! What becomes of digits glued to a name that ends in Perl. The first of them belongs to the name, as in Perl6; those
after it count as a version and are dropped with the remark. So two such names are told apart by their first digits only. -/

namespace JudgeStats

namespace Language

theorem remarked_perl {start digits : List Char} (plain : ¬ opening <:+: start ++ perl)
    (decimal : ∀ c ∈ digits, c.isDigit = true) (remark : List Char) :
    Remarked (start ++ perl ++ digits ++ ' ' :: '(' :: (remark ++ [')'])) (start ++ perl ++ digits) remark [] :=
  ⟨rfl, not_opening_append decimal plain, List.not_mem_nil⟩

theorem simplifyChars_perl {start digits : List Char} (plain : ¬ opening <:+: start ++ perl)
    (decimal : ∀ c ∈ digits, c.isDigit = true) (remark : List Char) :
    simplifyChars (start ++ perl ++ digits ++ ' ' :: '(' :: (remark ++ [')'])) = start ++ perl ++ digits.take 1 := by
  have named : stem (start ++ perl ++ digits) = start ++ perl := by rw [stem_append decimal, stem_perl]
  have glued : version (start ++ perl ++ digits) = digits := by rw [version_append decimal, version_perl, List.nil_append]
  have kept : keptDigit (start ++ perl ++ digits) = digits.take 1 := by
    rw [keptDigit_of_perl, glued]
    rw [named]
    exact List.suffix_append start perl
  rw [(remarked_perl plain decimal remark).simplifyChars_eq, named, kept, List.append_nil]

end Language

/-- A name that ends in Perl, with digits glued to it and a remark. -/
def perlName (start digits remark : String) : String :=
  start ++ "Perl" ++ digits ++ " (" ++ remark ++ ")"

section Perl
variable {start digits : String} (plain : ¬ Language.opening <:+: (start ++ "Perl").toList)
  (decimal : ∀ c ∈ digits.toList, c.isDigit = true)
include plain decimal

theorem toList_simplifyLanguage_perlName (remark : String) : (simplifyLanguage (perlName start digits remark)).toList =
    (start ++ "Perl").toList ++ digits.toList.take 1 := by
  have named : (start ++ "Perl").toList = start.toList ++ Language.perl := String.toList_append
  have whole : (perlName start digits remark).toList =
      start.toList ++ Language.perl ++ digits.toList ++ ' ' :: '(' :: (remark.toList ++ [')']) := by
    simp [perlName, Language.perl]
  rw [toList_simplifyLanguage, whole, Language.simplifyChars_perl (named ▸ plain) decimal, named]

/-- No more than one digit stays, so the whole version stays just where it has no second digit, and two versions become one
name just where they begin alike. -/
theorem perl_keeps_first_digit (remark : String) :
    simplifyLanguage (perlName start digits remark) = start ++ "Perl" ++ String.ofList (digits.toList.take 1) ∧
    (simplifyLanguage (perlName start digits remark) = start ++ "Perl" ++ digits ↔ digits.length ≤ 1) ∧
    ∀ other note : String, (∀ c ∈ other.toList, c.isDigit = true) →
      (simplifyLanguage (perlName start digits remark) = simplifyLanguage (perlName start other note) ↔
        digits.toList.head? = other.toList.head?) := by
  have kept := toList_simplifyLanguage_perlName plain decimal remark
  refine ⟨?_, ?_, ?_⟩
  · apply String.toList_inj.mp
    simp only [kept, String.toList_append, String.toList_ofList]
  · rw [← String.toList_inj, kept]
    simp only [String.toList_append, List.append_cancel_left_eq, List.take_eq_self_iff, String.length_toList]
  · intro other note numeric
    rw [← String.toList_inj, kept, toList_simplifyLanguage_perlName plain numeric note, List.append_cancel_left_eq]
    cases digits.toList <;> cases other.toList <;> simp

end Perl

/-- Of a version with two digits the second is dropped, whatever parentheses the remark has in it. -/
theorem perl_keeps_first_digit_of_two :
    ¬ Language.opening <:+: ("Inline::" ++ "Perl").toList ∧ (∀ c ∈ "61".toList, c.isDigit = true) ∧
    (∀ c ∈ "6".toList, c.isDigit = true) ∧ "61".toList.head? = "6".toList.head? ∧
    simplifyLanguage "Inline::Perl61 (Rakudo (v6) x64)" = "Inline::Perl6" ∧
    simplifyLanguage (perlName "Inline::" "61" "Rakudo (v6) x64") = simplifyLanguage (perlName "Inline::" "6" "") := by
  have plain : ¬ Language.opening <:+: ("Inline::" ++ "Perl").toList := by decide +kernel
  have decimal : ∀ c ∈ "61".toList, c.isDigit = true := List.all_eq_true.mp (by decide +kernel)
  have numeric : ∀ c ∈ "6".toList, c.isDigit = true := List.all_eq_true.mp (by decide +kernel)
  have alike : "61".toList.head? = "6".toList.head? := by decide +kernel
  obtain ⟨kept, _, merged⟩ := perl_keeps_first_digit plain decimal "Rakudo (v6) x64"
  have first : "Inline::" ++ "Perl" ++ String.ofList ("61".toList.take 1) = "Inline::Perl6" := by decide +kernel
  have spelled : perlName "Inline::" "61" "Rakudo (v6) x64" = "Inline::Perl61 (Rakudo (v6) x64)" := by decide +kernel
  exact ⟨plain, decimal, numeric, alike, by rw [← spelled, kept, first], (merged "6" "" numeric).mpr alike⟩

/-- A second digit does not stay, and names that differ in it become one. -/
theorem perl_loses_second_digit :
    simplifyLanguage "Perl12 (x)" ≠ "Perl12" ∧ simplifyLanguage "Perl12 (x)" = simplifyLanguage "Perl10 (x)" := by
  decide +kernel

end JudgeStats
