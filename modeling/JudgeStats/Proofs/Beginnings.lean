import JudgeStats.Text.Caseless

/-! When one text begins with another, character by character. A start that has no NUL and no unclear character in it is a
plain beginning, where only the case of ASCII letters may differ. No character stands for others. -/

namespace JudgeStats.Text

/-- What is read as U+FFFD: itself, and the two that are no characters. -/
def unclear : List Char :=
  ['\ufffd', '\ufffe', '\uffff']

/-- Characters that count as one: the two cases of an ASCII letter, and the unclear ones. -/
def Alike (a b : Char) : Prop :=
  a.toLower = b.toLower ∨ a ∈ unclear ∧ b ∈ unclear

/-- A text begins as another one does. What comes after a NUL of the start does not count, and there the text is over or
has a NUL as well. -/
inductive Begins : List Char → List Char → Prop
  | all (text : List Char) : Begins [] text
  | next {a b : Char} {start text : List Char} (more : a ≠ '\x00') (alike : Alike a b) (later : Begins start text) :
      Begins (a :: start) (b :: text)
  | ended (start : List Char) : Begins ('\x00' :: start) []
  | nul (start text : List Char) : Begins ('\x00' :: start) ('\x00' :: text)

section Characters
variable {a b c d : Char}

/-- Nothing but a letter of ASCII has another case. -/
theorem toLower_eq_iff (other : d.toNat < 65 ∨ 122 < d.toNat) : c.toLower = d ↔ c = d := by
  unfold Char.toLower
  split
  next letter =>
    obtain ⟨least, most⟩ := letter
    have low : 65 ≤ c.val.toNat := least
    have high : c.val.toNat ≤ 90 := most
    constructor
    · rintro rfl
      have moved : (c.val + ('a'.val - 'A'.val)).toNat = c.val.toNat + 32 := by
        rw [UInt32.toNat_add]
        exact Nat.mod_eq_of_lt (show c.val.toNat + 32 < 2 ^ 32 by omega)
      change (c.val + ('a'.val - 'A'.val)).toNat < 65 ∨ 122 < (c.val + ('a'.val - 'A'.val)).toNat at other
      omega
    · rintro rfl
      change c.val.toNat < 65 ∨ 122 < c.val.toNat at other
      omega
  next => rfl

theorem mem_unclear_iff : c ∈ unclear ↔ c = '\ufffd' ∨ c = '\ufffe' ∨ c = '\uffff' := by
  simp [unclear]

theorem toLower_mem_unclear_iff : c.toLower ∈ unclear ↔ c ∈ unclear := by
  have same : ∀ d ∈ unclear, c.toLower = d ↔ c = d := by
    intro d member
    apply toLower_eq_iff
    rcases mem_unclear_iff.mp member with rfl | rfl | rfl <;> exact .inr (by decide)
  refine ⟨fun member => ?_, fun member => ?_⟩
  · rwa [(same _ member).mp rfl]
  · rwa [(same c member).mpr rfl]

theorem foldCase_of_mem (member : c ∈ unclear) : foldCase c = '\ufffd' := by
  rcases mem_unclear_iff.mp member with rfl | rfl | rfl <;> decide

theorem foldCase_of_not_mem (clear : c ∉ unclear) : foldCase c = c.toLower := by
  simp only [mem_unclear_iff, not_or] at clear
  apply if_neg
  simp [clear]

theorem foldCase_mem_unclear_iff : foldCase c ∈ unclear ↔ c ∈ unclear := by
  by_cases member : c ∈ unclear
  · rw [foldCase_of_mem member]
    exact iff_of_true (by decide) member
  · rw [foldCase_of_not_mem member, toLower_mem_unclear_iff]

theorem foldCase_eq_iff : foldCase a = foldCase b ↔ Alike a b := by
  by_cases same : a ∈ unclear ↔ b ∈ unclear
  · by_cases left : a ∈ unclear
    · rw [foldCase_of_mem left, foldCase_of_mem (same.mp left)]
      exact iff_of_true rfl (.inr ⟨left, same.mp left⟩)
    · rw [foldCase_of_not_mem left, foldCase_of_not_mem (mt same.mpr left)]
      exact (or_iff_left fun both => left both.1).symm
  · refine iff_of_false (fun equal => same ?_) ?_
    · rw [← foldCase_mem_unclear_iff, equal, foldCase_mem_unclear_iff]
    · rintro (equal | both)
      · apply same
        rw [← toLower_mem_unclear_iff, equal, toLower_mem_unclear_iff]
      · exact same (iff_of_true both.1 both.2)

theorem foldCase_eq_nul_iff : foldCase c = '\x00' ↔ c = '\x00' := by
  by_cases member : c ∈ unclear
  · rw [foldCase_of_mem member]
    refine iff_of_false (by decide) ?_
    rintro rfl
    exact absurd member (by decide)
  · rw [foldCase_of_not_mem member]
    exact toLower_eq_iff (.inl (by decide))

theorem Alike.eq_nul (alike : Alike a '\x00') : a = '\x00' := by
  rw [← foldCase_eq_nul_iff, foldCase_eq_iff.mpr alike]
  rfl

end Characters

section Texts
variable {start text : List Char}

theorem compared_cons {c : Char} (more : c ≠ '\x00') (rest : List Char) : compared (c :: rest) = foldCase c :: compared rest := by
  simp [compared, more]

theorem compared_eq_nil_iff : compared text = [] ↔ text = [] ∨ ∃ rest, text = '\x00' :: rest := by
  cases text with
  | nil => exact iff_of_true rfl (.inl rfl)
  | cons c rest =>
    by_cases stop : c = '\x00'
    · subst stop
      exact iff_of_true rfl (.inr ⟨rest, rfl⟩)
    · rw [compared_cons stop]
      simp [stop]

theorem begins_nul_iff : Begins ('\x00' :: start) text ↔ text = [] ∨ ∃ rest, text = '\x00' :: rest := by
  constructor
  · intro begins
    cases begins with
    | next more => exact absurd rfl more
    | ended => exact .inl rfl
    | nul => exact .inr ⟨_, rfl⟩
  · rintro (rfl | ⟨rest, rfl⟩)
    · exact .ended start
    · exact .nul start rest

theorem begins_cons_iff {a : Char} (more : a ≠ '\x00') :
    Begins (a :: start) text ↔ ∃ b rest, text = b :: rest ∧ Alike a b ∧ Begins start rest := by
  constructor
  · intro begins
    cases begins with
    | next _ alike later => exact ⟨_, _, rfl, alike, later⟩
    | ended | nul => exact absurd rfl more
  · rintro ⟨b, rest, rfl, alike, later⟩
    exact .next more alike later

theorem beginsWith_nul : beginsWith ('\x00' :: start) text ↔ compared text = [] := by
  have found : ('\x00' :: start).contains '\x00' := by simp
  have nothing : compared ('\x00' :: start) = [] := rfl
  rw [beginsWith, if_pos found, nothing, beq_iff_eq, eq_comm]

theorem beginsWith_cons_iff {a : Char} (more : a ≠ '\x00') :
    beginsWith (a :: start) text ↔ ∃ b rest, text = b :: rest ∧ Alike a b ∧ beginsWith start rest := by
  have contains : (a :: start).contains '\x00' = start.contains '\x00' := by
    simp [more.symm]
  by_cases ended : compared text = []
  · rw [beginsWith, compared_cons more, ended]
    refine iff_of_false (by split <;> exact Bool.false_ne_true) ?_
    rintro ⟨b, rest, rfl, alike, _⟩
    -- Only a NUL is like a NUL.
    rcases compared_eq_nil_iff.mp ended with empty | ⟨_, stop⟩
    · cases empty
    · cases stop
      exact more alike.eq_nul
  · rw [compared_eq_nil_iff, not_or] at ended
    obtain ⟨b, rest, rfl⟩ := List.exists_cons_of_ne_nil ended.1
    have goes : b ≠ '\x00' := fun stop => ended.2 ⟨rest, stop ▸ rfl⟩
    have step : beginsWith (a :: start) (b :: rest) ↔ Alike a b ∧ beginsWith start rest := by
      rw [← foldCase_eq_iff, beginsWith, beginsWith, contains, compared_cons more, compared_cons goes]
      split <;> simp
    refine step.trans ⟨fun both => ⟨b, rest, rfl, both⟩, ?_⟩
    rintro ⟨_, _, ⟨⟩, both⟩
    exact both

theorem beginsWith_iff : beginsWith start text ↔ Begins start text := by
  induction start generalizing text with
  | nil => exact iff_of_true (beginsWith_nil text) (.all text)
  | cons a start ih =>
    by_cases stop : a = '\x00'
    · rw [stop, beginsWith_nul, begins_nul_iff, compared_eq_nil_iff]
    · simp only [beginsWith_cons_iff stop, begins_cons_iff stop, ih]

/-- A start without characters of a special kind is a plain beginning. -/
theorem begins_iff_of_plain (plain : ∀ c ∈ start, c ≠ '\x00' ∧ c ∉ unclear) : Begins start text ↔
    ∃ first rest, text = first ++ rest ∧ first.map Char.toLower = start.map Char.toLower := by
  induction start generalizing text with
  | nil => exact iff_of_true (.all text) ⟨[], text, rfl, rfl⟩
  | cons a start ih =>
    obtain ⟨⟨more, clear⟩, others⟩ := List.forall_mem_cons.mp plain
    rw [begins_cons_iff more]
    constructor
    · rintro ⟨b, _, rfl, alike, later⟩
      obtain ⟨first, rest, rfl, same⟩ := (ih others).mp later
      have letter := alike.resolve_right fun both => clear both.1
      exact ⟨b :: first, rest, rfl, List.cons_eq_cons.mpr ⟨letter.symm, same⟩⟩
    · rintro ⟨first, rest, rfl, same⟩
      cases first with
      | nil => cases same
      | cons b first =>
        obtain ⟨letter, later⟩ := List.cons.inj same
        exact ⟨b, first ++ rest, rfl, .inl letter.symm, (ih others).mpr ⟨first, rest, rfl, later⟩⟩

end Texts

end JudgeStats.Text
