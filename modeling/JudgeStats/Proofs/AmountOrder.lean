import JudgeStats.Cell
import Mathlib.Algebra.Order.Ring.Int

/-! The order of saved amounts. Floats as such are not in a total order: NaN compares with nothing, and two zeros are neither
less than each other nor the same. What is saved is neither NaN nor a negative zero, and there the place of a float among all
of them decides what is less, and two floats with one place are the same. -/

namespace JudgeStats.Amount
open Float.Model (Format UnpackedFloat)
open Float.Model.UnpackedFloat

/-- Counts the floats from zero on, downwards for negative ones. -/
def place : UnpackedFloat → Int
  | .infinity sign => sign.apply (2047 * 2 ^ 52)
  | .finite sign mantissa exponent _ => sign.apply ((exponent + 1074) * 2 ^ 52 + mantissa)
  | .zero _ | .notANumber => 0

/-- A number that has the digits and the exponent of one in 64 bits. -/
def IsRegular : UnpackedFloat → Prop
  | .finite _ mantissa exponent _ =>
    (exponent = -1074 ∨ -1074 < exponent ∧ exponent ≤ 971 ∧ 2 ^ 52 ≤ mantissa) ∧ mantissa < 2 ^ 53
  | .infinity _ | .zero _ => True
  | .notANumber => False

private theorem then_eq_lt {e₁ e₂ : Int} {m₁ m₂ : Nat} :
    (compare e₁ e₂).then (compare m₁ m₂) = .lt ↔ e₁ < e₂ ∨ e₁ = e₂ ∧ m₁ < m₂ := by
  rw [Ordering.then_eq_lt, Int.compare_eq_lt, Int.compare_eq_eq, Nat.compare_eq_lt]

private theorem swap_then_eq_lt {e₁ e₂ : Int} {m₁ m₂ : Nat} :
    ((compare e₁ e₂).then (compare m₁ m₂)).swap = .lt ↔ e₂ < e₁ ∨ e₁ = e₂ ∧ m₂ < m₁ := by
  rw [Ordering.swap_eq_lt, Ordering.then_eq_gt, Int.compare_eq_gt, Int.compare_eq_eq, Nat.compare_eq_gt]

private theorem compare_sign_eq_lt {s t : Sign} : compare s t = .lt ↔ s = .negative ∧ t = .positive := by
  cases s <;> cases t <;> simp only [compare, reduceCtorEq, and_true, and_false, and_self]

theorem compare_eq_lt_iff {a b : UnpackedFloat} (left : IsRegular a) (right : IsRegular b) :
    a.compare b = some .lt ↔ place a < place b := by
  rcases a with s | _ | s | ⟨s, m, e, _⟩
  case notANumber => cases left
  all_goals
    rcases b with t | _ | t | ⟨t, n, f, _⟩
    case notANumber => cases right
    all_goals
      dsimp only [IsRegular] at left right
      cases s <;> cases t <;> dsimp only [UnpackedFloat.compare, place, Sign.apply] <;>
        simp only [Option.some_inj, then_eq_lt, swap_then_eq_lt, compare_sign_eq_lt, reduceCtorEq, and_true, and_false,
          false_iff, true_iff] <;> omega

private theorem compare_self {a : UnpackedFloat} (number : a ≠ .notANumber) : a.compare a = some .eq := by
  cases a with
  | notANumber => exact absurd rfl number
  | infinity sign => cases sign <;> rfl
  | zero sign => rfl
  | finite sign mantissa exponent =>
    cases sign <;> dsimp only [UnpackedFloat.compare] <;> simp only [Std.ReflOrd.compare_self, Ordering.then, Ordering.swap]

section Bits
variable (bits : BitVec Format.binary64.numBits)

private theorem toNat_unpackExponent : (unpackExponent bits).toNat = bits.toNat / 2 ^ 52 % 2 ^ 11 := by
  change (bits.extractLsb 62 52).toNat = _
  rw [BitVec.extractLsb_toNat, Nat.shiftRight_eq_div_pow]

private theorem toNat_unpackMantissa : (unpackMantissa bits).toNat = bits.toNat % 2 ^ 52 := by
  change (bits.extractLsb 51 0).toNat = _
  rw [BitVec.extractLsb_toNat, Nat.shiftRight_zero]

private theorem apply_unpackSign (size : Int) :
    (Sign.ofBitVec (unpackSign bits)).apply size = if bits.toNat < 2 ^ 63 then size else -size := by
  have small : bits.toNat < 2 ^ 64 := bits.isLt
  have positive : unpackSign bits = 0#1 ↔ bits.toNat < 2 ^ 63 := by
    rw [← BitVec.toNat_inj]
    change (bits.extractLsb 63 63).toNat = 0 ↔ _
    rw [BitVec.extractLsb_toNat, Nat.shiftRight_eq_div_pow]
    omega
  unfold Sign.ofBitVec
  by_cases first : bits.toNat < 2 ^ 63
  · rw [if_pos (positive.mpr first), if_pos first]
    rfl
  · rw [if_neg (mt positive.mp first), if_neg first]
    rfl

private theorem unpackExponent_eq_ones_iff : unpackExponent bits = -1#_ ↔ bits.toNat / 2 ^ 52 % 2 ^ 11 = 2047 := by
  rw [← BitVec.toNat_inj, toNat_unpackExponent]
  rfl

private theorem unpackExponent_eq_zero_iff : unpackExponent bits = 0#_ ↔ bits.toNat / 2 ^ 52 % 2 ^ 11 = 0 := by
  rw [← BitVec.toNat_inj, toNat_unpackExponent]
  rfl

private theorem unpackMantissa_eq_zero_iff : unpackMantissa bits = 0#_ ↔ bits.toNat % 2 ^ 52 = 0 := by
  rw [← BitVec.toNat_inj, toNat_unpackMantissa]
  rfl

/-- A normal number has a leading bit that is not written. -/
private theorem toNat_leading : (1#1 ++ unpackMantissa bits).toNat = 2 ^ 52 + bits.toNat % 2 ^ 52 := by
  rw [BitVec.toNat_append, ← Nat.shiftLeft_add_eq_or_of_lt (unpackMantissa bits).isLt, toNat_unpackMantissa]
  rfl

/-- The place of a number can be read off its bits: they count the numbers of each sign. -/
theorem place_unpack (number : unpack Format.binary64 bits ≠ .notANumber) :
    IsRegular (unpack Format.binary64 bits) ∧ place (unpack Format.binary64 bits) =
      if bits.toNat < 2 ^ 63 then (bits.toNat % 2 ^ 63 : Int) else -(bits.toNat % 2 ^ 63 : Int) := by
  have bias : (Format.binary64.exponentBias + Format.binary64.mantissaBitsWithoutImplicit : Int) = 1075 := rfl
  rw [← apply_unpackSign]
  unfold unpack at number ⊢
  dsimp only at number ⊢
  by_cases ones : unpackExponent bits = -1#_
  · rw [if_pos ones] at number ⊢
    by_cases infinite : unpackMantissa bits = 0#_
    · rw [if_pos infinite]
      rw [unpackExponent_eq_ones_iff] at ones
      rw [unpackMantissa_eq_zero_iff] at infinite
      refine ⟨trivial, congrArg (Sign.apply _) ?_⟩
      omega
    · rw [if_neg infinite] at number
      exact absurd rfl number
  · rw [if_neg ones]
    by_cases least : unpackExponent bits = 0#_
    · rw [if_pos least]
      rw [unpackExponent_eq_zero_iff] at least
      by_cases none : unpackMantissa bits = 0#_
      · rw [dif_pos none]
        rw [unpackMantissa_eq_zero_iff] at none
        have zero : (bits.toNat % 2 ^ 63 : Int) = 0 := by omega
        rw [zero, apply_unpackSign]
        exact ⟨trivial, (ite_self _).symm⟩
      · rw [dif_neg none]
        dsimp only [IsRegular, place]
        simp only [bias, toNat_unpackExponent, toNat_unpackMantissa, least]
        refine ⟨by omega, congrArg (Sign.apply _) ?_⟩
        omega
    · rw [if_neg least]
      rw [unpackExponent_eq_ones_iff] at ones
      rw [unpackExponent_eq_zero_iff] at least
      dsimp only [IsRegular, place]
      simp only [bias, toNat_unpackExponent]
      rw [toNat_leading]
      refine ⟨by omega, congrArg (Sign.apply _) ?_⟩
      omega

/-- Among the bits of all floats those of the two zeros alone have the place of zero. -/
theorem eq_packedZero_of_unpack {sign : Sign} (zero : unpack Format.binary64 bits = .zero sign) :
    bits = packedZero Format.binary64 sign := by
  have number : unpack Format.binary64 bits ≠ .notANumber := by
    rw [zero]
    nofun
  have read := (place_unpack bits number).2
  have size : bits.toNat < 2 ^ 64 := bits.isLt
  have least : bits.toNat = 0 ∨ bits.toNat = 2 ^ 63 := by
    rw [zero] at read
    dsimp only [place] at read
    split at read <;> omega
  rcases least with none | first
  · obtain rfl : bits = packedZero Format.binary64 .positive := BitVec.eq_of_toNat_eq none
    cases sign with
    | positive => rfl
    | negative => cases zero
  · obtain rfl : bits = packedZero Format.binary64 .negative := BitVec.eq_of_toNat_eq first
    cases sign with
    | positive => cases zero
    | negative => rfl

end Bits

theorem eq_of_toBits {a b : Float} (same : a.toBits = b.toBits) : a = b := by
  obtain ⟨⟨bits, _⟩⟩ := a
  obtain ⟨⟨others, _⟩⟩ := b
  cases same
  rfl

/-- An amount in the form in which a table holds it. -/
def IsSaved (amount : Float) : Prop :=
  Cell.saved (.amount amount) = .amount amount

instance (amount : Float) : Decidable (IsSaved amount) :=
  inferInstanceAs (Decidable (_ = _))

/-- The place of a float among all floats. -/
def rank (amount : Float) : Int :=
  place amount.toModel.unpack

section Saved
variable {a b c : Float}

theorem IsSaved.number (saved : IsSaved a) : a.toModel.unpack ≠ .notANumber := by
  intro missing
  have nan : a.isNaN = true := by
    change a.toModel.unpack.isNaN = true
    rw [missing]
    rfl
  rw [IsSaved, Cell.saved, if_pos nan] at saved
  cases saved

theorem IsSaved.rank_eq (saved : IsSaved a) : rank a =
    if a.toBits.toNat < 2 ^ 63 then (a.toBits.toNat % 2 ^ 63 : Int) else -(a.toBits.toNat % 2 ^ 63 : Int) :=
  (place_unpack a.toModel.toBits.toBitVec saved.number).2

theorem IsSaved.lt_iff (saved : IsSaved a) (other : IsSaved b) : a < b ↔ rank a < rank b := by
  refine Iff.trans ?_ (compare_eq_lt_iff (place_unpack _ saved.number).1 (place_unpack _ other.number).1)
  change decide (a.toModel < b.toModel) = true ↔ _
  rw [decide_eq_true_iff]
  change (_ == _) = true ↔ _
  exact beq_iff_eq

theorem IsSaved.eq_zero (saved : IsSaved a) (zero : rank a = 0) : a = 0.0 := by
  have regular := (place_unpack _ saved.number).1
  have form : ∃ sign, a.toModel.unpack = .zero sign := by
    change IsRegular a.toModel.unpack at regular
    change place a.toModel.unpack = 0 at zero
    cases form : a.toModel.unpack with
    | notANumber => exact absurd form saved.number
    | infinity sign => rw [form] at zero; cases sign <;> cases zero
    | zero sign => exact ⟨sign, rfl⟩
    | finite sign mantissa exponent positive =>
      rw [form] at zero regular
      dsimp only [IsRegular] at regular
      cases sign <;> dsimp only [place, Sign.apply] at zero <;> omega
  obtain ⟨sign, form⟩ := form
  have same : (a == 0.0) = true := by
    change (a.toModel.unpack.compare (0.0 : Float).toModel.unpack == some .eq) = true
    rw [form]
    rfl
  have plain : a.isNaN ≠ true := by
    change a.toModel.unpack.isNaN ≠ true
    rw [form]
    exact Bool.false_ne_true
  rw [IsSaved, Cell.saved, if_neg plain, if_pos same] at saved
  exact (Cell.amount.inj saved).symm

theorem IsSaved.eq_of_rank_eq (saved : IsSaved a) (other : IsSaved b) (same : rank a = rank b) : a = b := by
  by_cases zero : rank a = 0
  · rw [saved.eq_zero zero, other.eq_zero (same ▸ zero)]
  · have small : a.toBits.toNat < 2 ^ 64 := a.toBits.toBitVec.isLt
    have bounded : b.toBits.toNat < 2 ^ 64 := b.toBits.toBitVec.isLt
    rw [saved.rank_eq, other.rank_eq] at same
    rw [saved.rank_eq] at zero
    apply eq_of_toBits
    apply UInt64.toNat_inj.mp
    split at same <;> split at same <;> split at zero <;> omega

theorem IsSaved.le_of_rank_le (saved : IsSaved a) (other : IsSaved b) (below : rank a ≤ rank b) :
    a ≤ b := by
  have ordered : a.toModel.unpack.compare b.toModel.unpack = some .lt ∨
      a.toModel.unpack.compare b.toModel.unpack = some .eq := by
    rcases below.lt_or_eq with less | same
    · exact .inl ((compare_eq_lt_iff (place_unpack _ saved.number).1 (place_unpack _ other.number).1).mpr less)
    · rw [saved.eq_of_rank_eq other same]
      exact .inr (compare_self other.number)
  apply decide_eq_true
  change (a.toModel.unpack.compare b.toModel.unpack).any (·.isLE) = true
  rcases ordered with less | same
  · rw [less]
    rfl
  · rw [same]
    rfl

end Saved

end JudgeStats.Amount
