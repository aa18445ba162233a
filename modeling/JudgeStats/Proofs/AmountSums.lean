import JudgeStats.Proofs.AmountOrder

/-! Sums of amounts. A sum may be NaN, as that of two opposite infinities is, but it is a negative zero only where both parts
are: opposite amounts leave the plain zero, and what other amounts leave is a multiple of the least one, which is not rounded
to zero. So the sum of saved amounts is a saved amount or NaN. -/

namespace JudgeStats.Amount
open Float.Model (Format UnpackedFloat totalExponent)
open Float.Model.UnpackedFloat

section Rounding
variable {mantissa : Nat} {exponent : Int}

private theorem mantissa_shiftRight (extended : ExtendedMantissa) (amount : Nat) :
    (extended >>> amount).mantissa = extended.mantissa / 2 ^ amount := by
  induction amount with
  | zero => exact (Nat.div_one _).symm
  | succ amount ih =>
    change (extended >>> amount).mantissa / 2 = _
    rw [ih, Nat.div_div_eq_div_mul, Nat.pow_succ]

private theorem mantissa_ofMantissaAndAccuracy (mantissa : Nat) (accuracy : Accuracy) :
    (ExtendedMantissa.ofMantissaAndAccuracy mantissa accuracy).mantissa = mantissa := by
  cases accuracy with
  | exact => rfl
  | inexact order => cases order <;> rfl

private theorem le_roundToNearestEven (mantissa : Nat) (accuracy : Accuracy) :
    mantissa ≤ accuracy.roundToNearestEven mantissa := by
  cases accuracy with
  | exact => exact Nat.le_refl _
  | inexact order =>
    cases order with
    | lt => exact Nat.le_refl _
    | eq => exact Nat.le_add_right _ _
    | gt => exact Nat.le_succ _

private theorem targetExponent_eq (total : Int) : Format.binary64.targetExponent total = max (total - 53) (-1074) :=
  rfl

/-- Shifting to the target exponent only takes away what is beyond 53 digits. -/
private theorem shiftToTargetExponent_bounds (accuracy : Accuracy) (positive : 0 < mantissa) (least : -1074 ≤ exponent) :
    let shifted := shiftToTargetExponent Format.binary64 mantissa exponent accuracy
    0 < shifted.1.mantissa ∧ shifted.1.mantissa < 2 ^ 53 ∧ -1074 ≤ shifted.2 := by
  have amount : (Format.binary64.targetExponent (totalExponent mantissa exponent) - exponent).toNat =
      mantissa.log2 - 52 := by
    rw [targetExponent_eq, totalExponent]
    omega
  simp only [shiftToTargetExponent, shiftToExponent, mantissa_shiftRight, mantissa_ofMantissaAndAccuracy, amount]
  refine ⟨Nat.div_pos ?_ (Nat.two_pow_pos _), Nat.div_lt_of_lt_mul ?_, by omega⟩
  · calc 2 ^ (mantissa.log2 - 52) ≤ 2 ^ mantissa.log2 := Nat.pow_le_pow_right Nat.two_pos (Nat.sub_le _ _)
      _ ≤ mantissa := Nat.log2_self_le positive.ne'
  · calc mantissa < 2 ^ (mantissa.log2 + 1) := Nat.lt_log2_self
      _ ≤ 2 ^ (mantissa.log2 - 52 + 53) := Nat.pow_le_pow_right Nat.two_pos (by omega)
      _ = 2 ^ (mantissa.log2 - 52) * 2 ^ 53 := Nat.pow_add ..

/-- A float that is no negative zero and has no more than 53 digits, from the least exponent on. -/
def IsPlain : UnpackedFloat → Prop
  | .finite _ mantissa exponent _ => mantissa < 2 ^ 53 ∧ -1074 ≤ exponent
  | .zero sign => sign = .positive
  | .infinity _ | .notANumber => True

private theorem isPlain_roundWithAccuracy (sign : Sign) (accuracy : Accuracy) (positive : 0 < mantissa)
    (least : -1074 ≤ exponent) : IsPlain (roundWithAccuracy Format.binary64 sign mantissa exponent accuracy) := by
  obtain ⟨some, _, above⟩ := shiftToTargetExponent_bounds accuracy positive least
  unfold roundWithAccuracy
  dsimp only
  generalize shiftToTargetExponent Format.binary64 mantissa exponent accuracy = first at some above ⊢
  have rounded : 0 < first.1.roundedMantissa := some.trans_le (le_roundToNearestEven _ _)
  -- Rounding up may give a digit too many, so what was rounded is shifted once more.
  obtain ⟨left, short, within⟩ := shiftToTargetExponent_bounds .exact rounded above
  rw [dif_neg left.ne']
  exact ⟨short, within⟩

private theorem isPlain_round (sign : Sign) (positive : 0 < mantissa) (least : -1074 ≤ exponent) :
    IsPlain (UnpackedFloat.round Format.binary64 sign mantissa exponent) := by
  apply isPlain_roundWithAccuracy
  · rw [Nat.shiftLeft_eq]
    exact Nat.mul_pos positive (Nat.two_pow_pos _)
  · rw [targetExponent_eq]
    omega

private theorem isPlain_normalize (sum : Int) (least : -1074 ≤ exponent) :
    IsPlain (UnpackedFloat.normalize Format.binary64 sum exponent .positive) := by
  unfold UnpackedFloat.normalize
  split
  next below => exact isPlain_round _ (by have := Int.compare_eq_lt.mp below; omega) least
  next => rfl
  next above => exact isPlain_round _ (by have := Int.compare_eq_gt.mp above; omega) least

end Rounding

section Unpacked
variable {a b : UnpackedFloat}

private theorem isPlain_add (left : IsPlain a) (right : IsPlain b) :
    IsPlain (UnpackedFloat.add Format.binary64 a b) := by
  cases a with
  | notANumber => cases b <;> trivial
  | infinity sign =>
    cases b with
    | infinity other => cases sign <;> cases other <;> trivial
    | _ => trivial
  | zero sign =>
    cases b with
    | zero other =>
      cases left
      cases right
      rfl
    | finite => exact right
    | _ => trivial
  | finite sign mantissa exponent =>
    cases b with
    | zero other => exact left
    | finite other digits place => exact isPlain_normalize _ (le_min left.2 right.2)
    | _ => trivial

/-- A finite float is not packed as a zero: it has an exponent, or else it has digits. -/
private theorem pack_finite_ne {sign other : Sign} {mantissa : Nat} {exponent : Int} {some : 0 < mantissa}
    (short : mantissa < 2 ^ 53) (least : -1074 ≤ exponent) :
    UnpackedFloat.pack Format.binary64 (.finite sign mantissa exponent some) ≠ packedZero Format.binary64 other := by
  intro packed
  have bias : (Format.binary64.exponentBias + Format.binary64.mantissaBitsWithoutImplicit : Int) = 1075 := rfl
  unfold UnpackedFloat.pack at packed
  dsimp only at packed
  rw [add_assoc, bias] at packed
  split at packed
  · have exponents := congrArg unpackExponent packed
    rw [packedInfinity, packedZero, unpackExponent_packComponents, unpackExponent_packComponents] at exponents
    cases exponents
  next small =>
    split at packed
    · have exponents := congrArg (BitVec.toNat ∘ unpackExponent) packed
      simp only [Function.comp_apply, packedZero, unpackExponent_packComponents, BitVec.toNat_ofNat] at exponents
      change _ = 0 at exponents
      omega
    next subnormal =>
      have mantissas := congrArg (BitVec.toNat ∘ unpackMantissa) packed
      simp only [Function.comp_apply, packedZero, unpackMantissa_packComponents, BitVec.toNat_ofNat] at mantissas
      change mantissa.log2 + 1 ≠ 53 at subnormal
      change _ = 0 at mantissas
      have digits := (Nat.log2_lt some.ne').mpr short
      have few : mantissa < 2 ^ 52 := (Nat.log2_lt some.ne').mp (by omega)
      omega

private theorem pack_ne_of_isPlain (plain : IsPlain a) :
    UnpackedFloat.pack Format.binary64 a ≠ packedZero Format.binary64 .negative := by
  cases a with
  | notANumber => decide
  | infinity sign => cases sign <;> decide
  | zero sign =>
    cases plain
    decide
  | finite sign mantissa exponent => exact pack_finite_ne plain.1 plain.2

end Unpacked

section Amounts
variable {a b : Float}

private theorem isPlain_unpack (plain : a.toModel.unpack ≠ .zero .negative) : IsPlain a.toModel.unpack := by
  by_cases number : a.toModel.unpack = .notANumber
  · rw [number]
    trivial
  · have regular := (place_unpack _ number).1
    change IsRegular a.toModel.unpack at regular
    cases form : a.toModel.unpack with
    | notANumber => trivial
    | infinity sign => trivial
    | zero sign =>
      cases sign with
      | positive => rfl
      | negative => exact absurd form plain
    | finite sign mantissa exponent =>
      rw [form] at regular
      dsimp only [IsRegular] at regular
      exact ⟨regular.2, by omega⟩

/-- Addition makes no negative zero from other amounts. -/
theorem add_ne_negativeZero (left : a.toModel.unpack ≠ .zero .negative) (right : b.toModel.unpack ≠ .zero .negative) :
    (a + b).toModel.unpack ≠ .zero .negative := by
  intro zero
  have packed : UnpackedFloat.pack Format.binary64 (UnpackedFloat.add Format.binary64 a.toModel.unpack b.toModel.unpack) =
      packedZero Format.binary64 .negative := eq_packedZero_of_unpack _ zero
  exact pack_ne_of_isPlain (isPlain_add (isPlain_unpack left) (isPlain_unpack right)) packed

/-- Of the two zeros that equal zero one is no negative zero. -/
private theorem eq_zero_of_beq (zero : (a == 0.0) = true) (plain : a.toModel.unpack ≠ .zero .negative) : a = 0.0 := by
  have compared : a.toModel.unpack.compare (.zero .positive) = some .eq := beq_iff_eq.mp zero
  have form : a.toModel.unpack = .zero .positive := by
    cases form : a.toModel.unpack with
    | zero sign =>
      cases sign with
      | positive => rfl
      | negative => exact absurd form plain
    | notANumber => rw [form] at compared; cases compared
    | infinity sign => rw [form] at compared; cases sign <;> cases compared
    | finite sign mantissa exponent => rw [form] at compared; cases sign <;> cases compared
  have bits : a.toBits.toBitVec = (0.0 : Float).toBits.toBitVec := eq_packedZero_of_unpack _ form
  exact eq_of_toBits (UInt64.toBitVec_inj.mp bits)

/-- Saving changes NaN and the negative zero, and nothing else. -/
theorem isSaved_iff : IsSaved a ↔ a.isNaN = false ∧ a.toModel.unpack ≠ .zero .negative := by
  constructor
  · intro saved
    constructor
    · change a.toModel.unpack.isNaN = false
      cases form : a.toModel.unpack with
      | notANumber => exact absurd form saved.number
      | _ => rfl
    · intro negative
      have zero : rank a = 0 := by
        rw [rank, negative]
        rfl
      rw [saved.eq_zero zero] at negative
      cases negative
  · rintro ⟨number, plain⟩
    rw [IsSaved, Cell.saved, if_neg (Bool.eq_false_iff.mp number)]
    split
    next zero => rw [eq_zero_of_beq zero plain]
    next => rfl

/-- A sum of saved amounts is a saved amount, unless it is NaN. -/
theorem isSaved_sum {amounts : List Float} (saved : ∀ amount ∈ amounts, IsSaved amount)
    (number : (amounts.foldl (· + ·) 0.0).isNaN = false) : IsSaved (amounts.foldl (· + ·) 0.0) := by
  have start : (0.0 : Float).toModel.unpack ≠ .zero .negative := nofun
  have plain := List.foldlRecOn amounts (· + ·) (motive := fun total : Float => total.toModel.unpack ≠ .zero .negative) start
    fun total sum amount member => add_ne_negativeZero sum (isSaved_iff.mp (saved amount member)).2
  exact isSaved_iff.mpr ⟨number, plain⟩

end Amounts

end JudgeStats.Amount
