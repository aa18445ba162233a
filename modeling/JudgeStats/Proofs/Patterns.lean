import Mathlib.Data.List.Infix

/-! Patterns of texts, and the search for a piece that matches one. At each place of a text there may be several ways to
match, and these are tried in order. The search goes from the left, and at the first place with a way to match it takes the
first way there. -/

namespace JudgeStats.Text

inductive Pattern where
  | nothing
  | one (allowed : Char → Bool)
  /-- As many characters as there are, then fewer. -/
  | many (allowed : Char → Bool)
  | notAfter (word : List Char)
  | both (first later : Pattern)
  /-- The second is tried after the first. -/
  | either (first second : Pattern)

namespace Pattern

/-- The ways to take allowed characters from the start of a text: what is taken and what comes after it. The longest comes
first. -/
def runs (allowed : Char → Bool) : List Char → List (List Char × List Char)
  | [] => [([], [])]
  | c :: rest =>
    if allowed c then (runs allowed rest).map (fun (piece, after) => (c :: piece, after)) ++ [([], c :: rest)]
    else [([], c :: rest)]

/-- The ways to take a piece that matches from the start of a text, in the order in which they are tried. What stands before
the text decides about `notAfter`. -/
def ways : Pattern → (before text : List Char) → List (List Char × List Char)
  | nothing, _, text => [([], text)]
  | one _, _, [] => []
  | one allowed, _, c :: rest => if allowed c then [([c], rest)] else []
  | many allowed, _, text => runs allowed text
  | notAfter word, before, text => if word.isSuffixOf before then [] else [([], text)]
  | both first later, before, text => (first.ways before text).flatMap fun (piece, rest) =>
      (later.ways (before ++ piece) rest).map fun (next, after) => (piece ++ next, after)
  | either first second, before, text => first.ways before text ++ second.ways before text

/-- Whether a piece matches, however it is found. -/
def Allows : Pattern → (before piece : List Char) → Prop
  | nothing, _, piece => piece = []
  | one allowed, _, piece => ∃ c, allowed c = true ∧ piece = [c]
  | many allowed, _, piece => ∀ c ∈ piece, allowed c = true
  | notAfter word, before, piece => piece = [] ∧ ¬ word <:+ before
  | both first later, before, piece =>
    ∃ start next, piece = start ++ next ∧ first.Allows before start ∧ later.Allows (before ++ start) next
  | either first second, before, piece => first.Allows before piece ∨ second.Allows before piece

/-- The first place of a text, counted from its start, where there is a way to match. -/
def place? (pattern : Pattern) (text : List Char) : Option Nat :=
  (List.range (text.length + 1)).find? fun place => !(pattern.ways (text.take place) (text.drop place)).isEmpty

/-- A text without the first piece that is found in it. -/
def removeFirst (pattern : Pattern) (text : List Char) : List Char :=
  match pattern.place? text with
  | none => text
  | some place =>
    match pattern.ways (text.take place) (text.drop place) with
    | [] => text
    | (_, after) :: _ => text.take place ++ after

section Ways
variable {allowed : Char → Bool} {pattern : Pattern} {before text piece after : List Char}

theorem mem_runs_iff : (piece, after) ∈ runs allowed text ↔ text = piece ++ after ∧ ∀ c ∈ piece, allowed c = true := by
  induction text generalizing piece with
  | nil =>
    rw [runs, List.mem_singleton, Prod.mk.injEq]
    constructor
    · rintro ⟨rfl, rfl⟩
      exact ⟨rfl, List.forall_mem_nil _⟩
    · intro ⟨whole, _⟩
      exact List.append_eq_nil_iff.mp whole.symm
  | cons c rest ih =>
    rw [runs]
    split
    next fits =>
      rw [List.mem_append, List.mem_map, List.mem_singleton]
      constructor
      · rintro (⟨⟨start, left⟩, member, same⟩ | same)
        · cases same
          obtain ⟨rfl, all⟩ := ih.mp member
          exact ⟨rfl, List.forall_mem_cons.mpr ⟨fits, all⟩⟩
        · cases same
          exact ⟨rfl, List.forall_mem_nil _⟩
      · intro ⟨whole, all⟩
        cases piece with
        | nil => exact .inr (by rw [whole]; rfl)
        | cons d others =>
          cases whole
          exact .inl ⟨(others, after), ih.mpr ⟨rfl, (List.forall_mem_cons.mp all).2⟩, rfl⟩
    next refused =>
      rw [List.mem_singleton]
      constructor
      · intro same
        cases same
        exact ⟨rfl, List.forall_mem_nil _⟩
      · intro ⟨whole, all⟩
        cases piece with
        | nil => rw [whole]; rfl
        | cons d others =>
          cases whole
          exact absurd (all c List.mem_cons_self) refused

/-- The ways that are tried are those that match, all of them and no others. -/
theorem mem_ways_iff : (piece, after) ∈ pattern.ways before text ↔ text = piece ++ after ∧ pattern.Allows before piece := by
  induction pattern generalizing before text piece after with
  | nothing =>
    rw [ways, Allows, List.mem_singleton, Prod.mk.injEq]
    constructor
    · rintro ⟨rfl, rfl⟩
      exact ⟨rfl, rfl⟩
    · rintro ⟨rfl, rfl⟩
      exact ⟨rfl, rfl⟩
  | one allowed =>
    rw [Allows]
    constructor
    · intro member
      cases text with
      | nil => cases member
      | cons c rest =>
        rw [ways] at member
        split at member
        next fits =>
          cases List.mem_singleton.mp member
          exact ⟨rfl, c, fits, rfl⟩
        next => cases member
    · rintro ⟨rfl, c, fits, rfl⟩
      rw [List.singleton_append, ways, if_pos fits]
      exact List.mem_singleton_self _
  | many allowed => exact mem_runs_iff
  | notAfter word =>
    rw [ways, Allows, ← List.isSuffixOf_iff_suffix]
    split
    next follows => simp [follows]
    next free =>
      rw [List.mem_singleton, Prod.mk.injEq]
      constructor
      · rintro ⟨rfl, rfl⟩
        exact ⟨rfl, rfl, free⟩
      · rintro ⟨rfl, rfl, _⟩
        exact ⟨rfl, rfl⟩
  | both first later ihFirst ihLater =>
    simp only [ways, Allows, List.mem_flatMap, List.mem_map, Prod.exists, Prod.mk.injEq]
    constructor
    · rintro ⟨start, rest, taken, next, left, more, rfl, rfl⟩
      obtain ⟨rfl, allowsFirst⟩ := ihFirst.mp taken
      obtain ⟨rfl, allowsLater⟩ := ihLater.mp more
      exact ⟨(List.append_assoc _ _ _).symm, start, next, rfl, allowsFirst, allowsLater⟩
    · rintro ⟨rfl, start, next, rfl, allowsFirst, allowsLater⟩
      exact ⟨start, next ++ after, ihFirst.mpr ⟨List.append_assoc _ _ _, allowsFirst⟩, next, after,
        ihLater.mpr ⟨rfl, allowsLater⟩, rfl, rfl⟩
  | either first second ihFirst ihSecond =>
    rw [ways, Allows, List.mem_append, ihFirst, ihSecond, and_or_left]

/-- What is removed is the first of the ways at a place before which there is none. -/
theorem removeFirst_cases (pattern : Pattern) (text : List Char) :
    (pattern.removeFirst text = text ∧ ∀ before rest, text = before ++ rest → pattern.ways before rest = []) ∨
    ∃ before rest piece after others, text = before ++ rest ∧ pattern.ways before rest = (piece, after) :: others ∧
      pattern.removeFirst text = before ++ after ∧
      ∀ less more, text = less ++ more → less.length < before.length → pattern.ways less more = [] := by
  have empty {place : Nat} (no : (!!(pattern.ways (text.take place) (text.drop place)).isEmpty) = true) {less more : List Char}
      (split : text = less ++ more) (counted : less.length = place) : pattern.ways less more = [] := by
    rwa [split, ← counted, List.take_left, List.drop_left, Bool.not_not, List.isEmpty_iff] at no
  rw [removeFirst]
  cases found : pattern.place? text with
  | none =>
    refine .inl ⟨rfl, fun before rest split => ?_⟩
    have inside : before.length < text.length + 1 := by simp only [split, List.length_append]; omega
    exact empty (List.find?_range_eq_none.mp found _ inside) split rfl
  | some place =>
    obtain ⟨here, _, none⟩ := List.find?_range_eq_some.mp found
    cases tried : pattern.ways (text.take place) (text.drop place) with
    | nil => simp [tried] at here
    | cons way others =>
      refine .inr ⟨_, _, way.1, way.2, others, (List.take_append_drop place text).symm, tried, by simp only [tried], ?_⟩
      intro less more split shorter
      exact empty (none _ (shorter.trans_le (List.length_take_le place text))) split rfl

end Ways

/-- At every place the longest way to match comes first, and each is followed by none that is longer. -/
def Greedy (pattern : Pattern) : Prop :=
  ∀ before text, (pattern.ways before text).Pairwise fun first later => later.1.length ≤ first.1.length

section Greedy
variable {allowed : Char → Bool} {pattern : Pattern}

theorem greedy_one (allowed : Char → Bool) : (one allowed).Greedy := by
  intro before text
  cases text with
  | nil => exact .nil
  | cons c rest =>
    rw [ways]
    split
    · exact List.pairwise_singleton _ _
    · exact .nil

theorem greedy_many (allowed : Char → Bool) : (many allowed).Greedy := by
  intro before text
  rw [ways]
  induction text with
  | nil => exact List.pairwise_singleton _ _
  | cons c rest ih =>
    rw [runs]
    split
    · refine List.pairwise_append.mpr ⟨?_, List.pairwise_singleton _ _, ?_⟩
      · exact List.pairwise_map.mpr (ih.imp fun shorter => Nat.succ_le_succ shorter)
      · intro first _ later single
        rw [List.mem_singleton.mp single]
        exact Nat.zero_le _
    · exact List.pairwise_singleton _ _

theorem Greedy.one_both (greedy : pattern.Greedy) : (both (one allowed) pattern).Greedy := by
  intro before text
  cases text with
  | nil => exact .nil
  | cons c rest =>
    rw [ways, ways]
    split
    · rw [List.flatMap_singleton]
      exact List.pairwise_map.mpr ((greedy _ rest).imp fun shorter => Nat.succ_le_succ shorter)
    · exact .nil

theorem Greedy.both_one (greedy : pattern.Greedy) : (both pattern (one allowed)).Greedy := by
  have single {before text : List Char} {way : List Char × List Char} (member : way ∈ (one allowed).ways before text) :
      way.1.length = 1 := by
    obtain ⟨_, c, _, same⟩ := mem_ways_iff.mp member
    rw [same]
    rfl
  intro before text
  refine List.pairwise_flatMap.mpr ⟨fun way _ => ?_, (greedy before text).imp ?_⟩
  · exact List.pairwise_map.mpr ((greedy_one allowed _ _).imp fun shorter => by simpa using shorter)
  · intro way other shorter first taken later dropped
    obtain ⟨next, inside, rfl⟩ := List.mem_map.mp taken
    obtain ⟨last, member, rfl⟩ := List.mem_map.mp dropped
    simp only [List.length_append, single inside, single member]
    omega

theorem Greedy.length_le (greedy : pattern.Greedy) {before text : List Char} {first way : List Char × List Char}
    (head : (pattern.ways before text).head? = some first) (member : way ∈ pattern.ways before text) :
    way.1.length ≤ first.1.length := by
  have sorted := greedy before text
  cases tried : pattern.ways before text with
  | nil => rw [tried] at member; cases member
  | cons next others =>
    rw [tried] at head member sorted
    cases head
    rcases List.mem_cons.mp member with rfl | later
    · exact Nat.le_refl _
    · exact (List.pairwise_cons.mp sorted).1 way later

/-- Where only one way of the first pattern can be gone on from, the longest way for both comes first. -/
theorem Greedy.length_le_of_both {first later : Pattern} (greedy : later.Greedy) {before text : List Char}
    (single : ∀ one ∈ first.ways before text, ∀ other ∈ first.ways before text,
      ∀ next ∈ later.ways (before ++ one.1) one.2, ∀ last ∈ later.ways (before ++ other.1) other.2, one = other)
    {top way : List Char × List Char} (head : ((both first later).ways before text).head? = some top)
    (member : way ∈ (both first later).ways before text) : way.1.length ≤ top.1.length := by
  rw [ways, List.head?_flatMap] at head
  obtain ⟨one, taken, found⟩ := List.exists_of_findSome?_eq_some head
  rw [List.head?_map] at found
  obtain ⟨next, foremost, rfl⟩ := Option.map_eq_some_iff.mp found
  obtain ⟨other, chosen, inside⟩ := List.mem_flatMap.mp member
  obtain ⟨last, among, rfl⟩ := List.mem_map.mp inside
  obtain rfl := single one taken other chosen next (List.mem_of_mem_head? foremost) last among
  have limited := greedy.length_le foremost among
  simp only [List.length_append]
  omega

end Greedy

end Pattern

end JudgeStats.Text
