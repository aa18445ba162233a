import JudgeStats.Ascending
import Mathlib.Data.Finset.Card
import Mathlib.Data.List.Nodup

/-! Ascending lists stand for finite sets of rows, at most one for each key. Two of them with the same members are the same
list, so whatever is kept ascending cannot show in which order it was put together. -/

namespace JudgeStats.Ascending

section Order
variable {ρ κ : Type} [Ord κ] {key : ρ → κ}

instance (rows : List ρ) : Decidable (Ascending key rows) :=
  inferInstanceAs (Decidable (List.Pairwise _ _))

theorem filter {rows : List ρ} (ordered : Ascending key rows) (kept : ρ → Bool) : Ascending key (rows.filter kept) :=
  List.Pairwise.filter kept ordered

theorem filterMap {ι ο : Type} [Ord ο] {place : ι → ο} {items : List ι} (ordered : Ascending place items)
    (row? : ι → Option ρ) (kept : ∀ first later row other, compare (place first) (place later) = .lt →
      row? first = some row → row? later = some other → compare (key row) (key other) = .lt) :
    Ascending key (items.filterMap row?) := by
  apply List.pairwise_filterMap.mpr
  apply List.Pairwise.imp _ ordered
  intro first later less row made other found
  exact kept first later row other less made found

theorem map {ι ο : Type} [Ord ο] {place : ι → ο} {items : List ι} (ordered : Ascending place items) (row : ι → ρ)
    (kept : ∀ first later, compare (place first) (place later) = .lt → compare (key (row first)) (key (row later)) = .lt) :
    Ascending key (items.map row) :=
  List.pairwise_map.mpr (List.Pairwise.imp (kept _ _) ordered)

/-- All rows of a list put one after the other among others. -/
def putAll (key : ρ → κ) (built kept : List ρ) : List ρ :=
  built.foldl (fun rows row => put key row rows) kept

variable [Std.TransOrd κ]

theorem ne_of_lt {first later : κ} (less : compare first later = .lt) : first ≠ later := by
  intro same
  rw [same, Std.ReflOrd.compare_self] at less
  cases less

theorem nodup_keys {rows : List ρ} (ordered : Ascending key rows) : (rows.map key).Nodup :=
  List.pairwise_map.mpr (List.Pairwise.imp ne_of_lt ordered)

/-- Where the key tells a name, no name occurs twice. -/
theorem nodup_names {ν : Type} {name : ρ → ν} {tell : ν → κ} (told : ∀ row, key row = tell (name row)) {rows : List ρ}
    (ordered : Ascending key rows) : (rows.map name).Nodup := by
  have keys : rows.map key = (rows.map name).map tell := by
    rw [List.map_map]
    exact List.map_congr_left fun row _ => told row
  exact List.Nodup.of_map tell (keys ▸ ordered.nodup_keys)

theorem nodup {rows : List ρ} (ordered : Ascending key rows) : rows.Nodup :=
  ordered.nodup_keys.of_map key

/-- An ascending list has no order of its own: its members determine it. -/
theorem eq_of_mem_iff {rows others : List ρ} (ordered : Ascending key rows) (sorted : Ascending key others)
    (same : ∀ row, row ∈ rows ↔ row ∈ others) : rows = others := by
  have permuted : rows.Perm others := (List.perm_ext_iff_of_nodup ordered.nodup sorted.nodup).mpr same
  apply permuted.eq_of_pairwise _ ordered sorted
  intro first second _ _ less more
  rw [Std.OrientedCmp.gt_of_lt less] at more
  cases more

theorem putAll_ascending {kept : List ρ} (ordered : Ascending key kept) (built : List ρ) :
    Ascending key (putAll key built kept) := by
  induction built generalizing kept with
  | nil => exact ordered
  | cons row rest ih => exact ih (put_ascending ordered row)

end Order

theorem mem_filter_congr {ι : Type} {items others : List ι} (same : ∀ item, item ∈ items ↔ item ∈ others)
    (kept : ι → Bool) (item : ι) : item ∈ items.filter kept ↔ item ∈ others.filter kept := by
  rw [List.mem_filter, List.mem_filter, same]

/-- Adding a row changes nothing about the presence of another key. -/
theorem any_put {ρ κ : Type} [Ord κ] [Std.LawfulEqOrd κ] [DecidableEq κ] {key : ρ → κ} {row : ρ} {sought : κ}
    (other : key row ≠ sought) (rows : List ρ) : (put key row rows).any (key · == sought) = rows.any (key · == sought) := by
  have absent : (key row == sought) = false := beq_eq_false_iff_ne.mpr other
  induction rows with
  | nil => rw [put, List.any_cons, absent, Bool.false_or]
  | cons next rest ih =>
    rw [put]
    split
    · rw [List.any_cons, absent, Bool.false_or]
    next same =>
      have equal : key row = key next := Std.LawfulEqOrd.eq_of_compare same
      rw [List.any_cons, List.any_cons, equal]
    · rw [List.any_cons, List.any_cons, ih]

section Members
variable {ρ κ : Type} [Ord κ] [Std.TransOrd κ] [Std.LawfulEqOrd κ] {key : ρ → κ}

theorem mem_put_iff {rows : List ρ} (ordered : Ascending key rows) {row member : ρ} :
    member ∈ put key row rows ↔ member = row ∨ member ∈ rows ∧ key member ≠ key row := by
  induction rows with
  | nil => simp [put]
  | cons next rest ih =>
    obtain ⟨before, tail⟩ := List.pairwise_cons.mp ordered
    rw [put]
    split
    next less =>
      have later : ∀ old ∈ next :: rest, key old ≠ key row := by
        intro old inside
        rcases List.mem_cons.mp inside with rfl | deep
        · exact (ne_of_lt less).symm
        · exact (ne_of_lt (Std.TransCmp.lt_trans less (before old deep))).symm
      rw [List.mem_cons]
      exact or_congr_right ⟨fun inside => ⟨inside, later member inside⟩, fun inside => inside.1⟩
    next same =>
      have equal : key row = key next := Std.LawfulEqOrd.eq_of_compare same
      rw [List.mem_cons, List.mem_cons]
      refine or_congr_right ⟨fun inside => ⟨.inr inside, ?_⟩, ?_⟩
      · rw [equal]
        exact (ne_of_lt (before member inside)).symm
      · rintro ⟨rfl | inside, apart⟩
        · exact absurd equal.symm apart
        · exact inside
    next more =>
      have apart : key next ≠ key row := ne_of_lt (Std.OrientedCmp.lt_of_gt more)
      rw [List.mem_cons, List.mem_cons, ih tail]
      constructor
      · rintro (rfl | rfl | ⟨inside, different⟩)
        · exact .inr ⟨.inl rfl, apart⟩
        · exact .inl rfl
        · exact .inr ⟨.inr inside, different⟩
      · rintro (rfl | ⟨rfl | inside, different⟩)
        · exact .inr (.inl rfl)
        · exact .inl rfl
        · exact .inr (.inr ⟨inside, different⟩)

/-- Rows that ascend do not replace each other, so all of them stay, and of the others those with other keys. -/
theorem mem_putAll_iff {built kept : List ρ} (sorted : Ascending key built) (ordered : Ascending key kept) {member : ρ} :
    member ∈ putAll key built kept ↔ member ∈ built ∨ member ∈ kept ∧ ∀ row ∈ built, key member ≠ key row := by
  induction built generalizing kept with
  | nil => simp [putAll]
  | cons row rest ih =>
    obtain ⟨before, tail⟩ := List.pairwise_cons.mp sorted
    have apart : ∀ later ∈ rest, key row ≠ key later := fun later inside => ne_of_lt (before later inside)
    change member ∈ putAll key rest (put key row kept) ↔ _
    rw [ih tail (put_ascending ordered row), mem_put_iff ordered]
    constructor
    · rintro (inside | ⟨rfl | ⟨old, different⟩, distinct⟩)
      · exact .inl (List.mem_cons_of_mem _ inside)
      · exact .inl List.mem_cons_self
      · exact .inr ⟨old, List.forall_mem_cons.mpr ⟨different, distinct⟩⟩
    · rintro (inside | ⟨old, distinct⟩)
      · rcases List.mem_cons.mp inside with rfl | deep
        · exact .inr ⟨.inl rfl, apart⟩
        · exact .inl deep
      · obtain ⟨different, others⟩ := List.forall_mem_cons.mp distinct
        exact .inr ⟨.inr ⟨old, different⟩, others⟩

theorem putAll_nil {built : List ρ} (sorted : Ascending key built) : putAll key built [] = built := by
  apply eq_of_mem_iff (putAll_ascending .nil built) sorted
  intro row
  rw [mem_putAll_iff sorted .nil]
  simp

/-- Putting the same rows once more among those that are kept of the outcome has no further effect. -/
theorem putAll_again {built old : List ρ} (sorted : Ascending key built) (ordered : Ascending key old) (kept : ρ → Bool) :
    putAll key built ((putAll key built (old.filter kept)).filter kept) = putAll key built (old.filter kept) := by
  have once : Ascending key (putAll key built (old.filter kept)) := putAll_ascending (ordered.filter kept) built
  apply eq_of_mem_iff (putAll_ascending (once.filter kept) built) once
  intro row
  rw [mem_putAll_iff sorted (once.filter kept), mem_putAll_iff sorted (ordered.filter kept), List.mem_filter,
    mem_putAll_iff sorted (ordered.filter kept)]
  constructor
  · rintro (inside | ⟨⟨inside | older, _⟩, apart⟩)
    · exact .inl inside
    · exact .inl inside
    · exact .inr older
  · rintro (inside | ⟨older, apart⟩)
    · exact .inl inside
    · exact .inr ⟨⟨.inr ⟨older, apart⟩, (List.mem_filter.mp older).2⟩, apart⟩

theorem distinct_congr {values others : List κ} (same : ∀ value, value ∈ values ↔ value ∈ others) :
    distinct values = distinct others := by
  apply eq_of_mem_iff (distinct_ascending values) (distinct_ascending others)
  intro value
  rw [mem_distinct, mem_distinct, same]

theorem distinct_map_congr {ι : Type} {items others : List ι} (same : ∀ item, item ∈ items ↔ item ∈ others)
    (value : ι → κ) : distinct (items.map value) = distinct (others.map value) := by
  apply distinct_congr
  intro found
  simp only [List.mem_map, same]

/-- Rows that have the different values of some items have a value just where an item has it. -/
theorem exists_iff_of_map_eq {ι : Type} {rows : List ρ} {name : ρ → κ} {items : List ι} {value : ι → κ}
    (names : rows.map name = distinct (items.map value)) {sought : κ} :
    (∃ row ∈ rows, name row = sought) ↔ ∃ item ∈ items, value item = sought := by
  rw [← List.mem_map, names, mem_distinct, List.mem_map]

theorem length_distinct [DecidableEq κ] (values : List κ) : (distinct values).length = values.toFinset.card := by
  rw [← List.toFinset_card_of_nodup (distinct_ascending values).nodup]
  congr 1
  ext value
  rw [List.mem_toFinset, List.mem_toFinset, mem_distinct]

end Members

end JudgeStats.Ascending
