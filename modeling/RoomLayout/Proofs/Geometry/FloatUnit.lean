import Mathlib
import RoomLayout.Proofs.Geometry.FloatOrder

/-!
# Floats and the number one

A finite float is its product with one and its quotient by one, and a positive one divided
by itself is one: in all three the exact result is a float, and rounding drops nothing of it
but zeros. Dividing by an infinite float leaves nothing, dividing by one that is not a
number leaves no number.
-/

namespace RoomLayout

open Float.Model (Format UnpackedFloat totalExponent)
open Float.Model.UnpackedFloat

/-! ## Rounding what is rounded -/

/-- A mantissa and an exponent as rounding leaves them. -/
structure IsRounded (mantissa : ℕ) (exponent : ℤ) : Prop where
  positive : 0 < mantissa
  exponent_eq : Format.binary64.targetExponent (totalExponent mantissa exponent) = exponent

/-- Shifting a mantissa over zeros loses nothing. -/
theorem shiftRight_scaled (mantissa shift : ℕ) :
    ExtendedMantissa.ofMantissaAndAccuracy (mantissa * 2 ^ shift) .exact >>> shift
      = ExtendedMantissa.ofMantissaAndAccuracy mantissa .exact := by
  induction shift generalizing mantissa with
  | zero =>
    rw [pow_zero, mul_one]
    rfl
  | succ shift inductionHypothesis =>
    have regroup : mantissa * 2 ^ (shift + 1) = mantissa * 2 * 2 ^ shift := by ring
    change ExtendedMantissa.shiftRightOne
      (ExtendedMantissa.ofMantissaAndAccuracy (mantissa * 2 ^ (shift + 1)) .exact >>> shift) = _
    rw [regroup, inductionHypothesis]
    simp [ExtendedMantissa.shiftRightOne, ExtendedMantissa.ofMantissaAndAccuracy]

/-- The first digit stays where it is when zeros are appended and the exponent is lowered. -/
theorem totalExponent_scaled {mantissa : ℕ} (positive : 0 < mantissa) (shift : ℕ) (exponent : ℤ) :
    totalExponent (mantissa * 2 ^ shift) (exponent - shift) = totalExponent mantissa exponent := by
  have nonzero : mantissa * 2 ^ shift ≠ 0 := (Nat.mul_pos positive (Nat.two_pow_pos shift)).ne'
  have digits : (mantissa * 2 ^ shift).log2 = mantissa.log2 + shift := by
    apply (Nat.log2_eq_iff nonzero).mpr
    obtain ⟨low, high⟩ := (Nat.log2_eq_iff positive.ne').mp rfl
    constructor
    · rw [pow_add]
      exact Nat.mul_le_mul_right _ low
    · rw [add_right_comm, pow_add]
      exact Nat.mul_lt_mul_of_pos_right high (Nat.two_pow_pos shift)
  rw [totalExponent, totalExponent, digits]
  push_cast
  ring

/-- Rounding a rounded number with zeros appended drops the zeros. -/
theorem IsRounded.round_scaled {mantissa : ℕ} {exponent : ℤ} (rounded : IsRounded mantissa exponent)
    (sign : Sign) (shift : ℕ) :
    roundWithAccuracy Format.binary64 sign (mantissa * 2 ^ shift) (exponent - shift) .exact
      = .finite sign mantissa exponent rounded.positive := by
  have dropZeros : shiftToTargetExponent Format.binary64 (mantissa * 2 ^ shift)
      (exponent - shift) .exact
        = (ExtendedMantissa.ofMantissaAndAccuracy mantissa .exact, exponent) := by
    have distance : (exponent - (exponent - shift)).toNat = shift := by omega
    rw [shiftToTargetExponent, totalExponent_scaled rounded.positive, rounded.exponent_eq,
      shiftToExponent, distance, shiftRight_scaled]
    simp
  have stay : shiftToTargetExponent Format.binary64 mantissa exponent .exact
      = (ExtendedMantissa.ofMantissaAndAccuracy mantissa .exact, exponent) := by
    rw [shiftToTargetExponent, rounded.exponent_eq, shiftToExponent, sub_self]
    simp only [Int.toNat_zero, Nat.cast_zero, add_zero]
    rfl
  have unchanged : (ExtendedMantissa.ofMantissaAndAccuracy mantissa .exact).roundedMantissa
      = mantissa := rfl
  rw [roundWithAccuracy, dropZeros]
  simp only [unchanged, stay]
  exact dif_neg rounded.positive.ne'

/-- Finite floats are rounded: the mantissa has all its bits, or the exponent is the least. -/
theorem isRounded_of_unpack {x : Float} {sign : Sign} {mantissa : ℕ} {exponent : ℤ}
    {positive : 0 < mantissa}
    (unpacked : x.toModel.unpack = .finite sign mantissa exponent positive) :
    IsRounded mantissa exponent := by
  refine ⟨positive, ?_⟩
  have target (total : ℤ) : Format.binary64.targetExponent total = max (total - 53) (-1074) := rfl
  have bias : (Format.binary64.exponentBias : ℤ) = 1023 := rfl
  have bounded : (@unpackMantissa Format.binary64 x.toModel.toBits.toBitVec).toNat
      < 2 ^ 52 := (@unpackMantissa Format.binary64 x.toModel.toBits.toBitVec).isLt
  rw [target, totalExponent]
  rw [Float.Model.unpack, unpack] at unpacked
  dsimp only at unpacked
  split at unpacked
  · split at unpacked <;> exact nomatch unpacked
  · split at unpacked
    · next least =>
      split at unpacked
      · exact nomatch unpacked
      · obtain ⟨-, rfl, rfl⟩ := finite.inj unpacked
        have short := (Nat.log2_lt positive.ne').mpr bounded
        simp only [least, bias, BitVec.toNat_ofNat, Nat.zero_mod]
        omega
    · next higher =>
      obtain ⟨-, rfl, rfl⟩ := finite.inj unpacked
      have all : (1#1 ++ @unpackMantissa Format.binary64
          x.toModel.toBits.toBitVec).toNat.log2 = 52 := by
        apply (Nat.log2_eq_iff positive.ne').mpr
        constructor
        · rw [BitVec.toNat_append]
          exact Nat.left_le_or
        · exact (1#1 ++ @unpackMantissa Format.binary64 x.toModel.toBits.toBitVec).isLt
      have nonzero : 0 < (@unpackExponent Format.binary64
          x.toModel.toBits.toBitVec).toNat := by
        rw [BitVec.toNat_pos, BitVec.pos_iff_ne_zero]
        exact higher
      rw [all, bias]
      omega

/-! ## Operations with one, zero and beyond -/

/-- Packing what was unpacked from a float gives the float. -/
theorem pack_eq_of_unpack_eq {x : Float} {unpacked : UnpackedFloat}
    (same : unpacked = x.toModel.unpack) : Float.ofModel (Float.Model.pack unpacked) = x := by
  apply Float.toBits_inj.mp
  apply UInt64.toBitVec_inj.mp
  rw [same]
  exact pack_unpack_of_valid x.toModel.valid

theorem unpack_one : (Coordinate.one : Float).toModel.unpack
    = .finite .positive (2 ^ 52) (-52) (by decide) := rfl

theorem unpack_zero : (Coordinate.zero : Float).toModel.unpack = .zero .positive := rfl

theorem isRounded_one : IsRounded (2 ^ 52) (-52) := isRounded_of_unpack unpack_one

theorem sign_mul_positive (sign : Sign) : sign * .positive = sign := by cases sign <;> rfl

theorem sign_div_positive (sign : Sign) : sign / .positive = sign := by cases sign <;> rfl

/-- A quotient without a remainder is exact. -/
theorem divCore_of_whole {mantissa divisor quotient : ℕ} {exponent exponent' target : ℤ}
    (positive : 0 < divisor)
    (low : min (exponent - exponent') (Format.binary64.targetExponent
      (totalExponent mantissa exponent - totalExponent divisor exponent')) = target)
    (whole : mantissa * 2 ^ (exponent - exponent' - target).toNat = quotient * divisor) :
    divCore Format.binary64 mantissa exponent divisor exponent' = (quotient, target, .exact) := by
  rw [divCore, low, Nat.shiftLeft_eq, whole, Nat.mul_div_cancel _ positive, Nat.mul_mod_left]
  rfl

/-- A finite float times one is the float. -/
theorem mul_one_of_isFinite {x : Float} (isFinite : Coordinate.isFinite x = true) :
    x * Coordinate.one = x := by
  apply pack_eq_of_unpack_eq
  change x.toModel.unpack.isFinite = true at isFinite
  rw [unpack_one]
  cases unpacked : x.toModel.unpack with
  | infinity sign => simp [UnpackedFloat.isFinite, unpacked] at isFinite
  | notANumber => simp [UnpackedFloat.isFinite, unpacked] at isFinite
  | zero sign => rw [UnpackedFloat.mul, sign_mul_positive]
  | finite sign mantissa exponent positive =>
    rw [UnpackedFloat.mul, sign_mul_positive]
    exact (isRounded_of_unpack unpacked).round_scaled sign 52

/-- A finite float divided by one is the float. -/
theorem div_one_of_isFinite {x : Float} (isFinite : Coordinate.isFinite x = true) :
    x / Coordinate.one = x := by
  apply pack_eq_of_unpack_eq
  change x.toModel.unpack.isFinite = true at isFinite
  rw [unpack_one]
  cases unpacked : x.toModel.unpack with
  | infinity sign => simp [UnpackedFloat.isFinite, unpacked] at isFinite
  | notANumber => simp [UnpackedFloat.isFinite, unpacked] at isFinite
  | zero sign => rw [UnpackedFloat.div, sign_div_positive]
  | finite sign mantissa exponent positive =>
    have rounded := isRounded_of_unpack unpacked
    -- One digit more is computed, unless the exponent is the least already.
    have atMost : min (exponent - -52) (Format.binary64.targetExponent
        (totalExponent mantissa exponent - totalExponent (2 ^ 52) (-52))) ≤ exponent := by
      have unit : totalExponent (2 ^ 52) (-52) = 1 := rfl
      have least := rounded.exponent_eq
      rw [Format.targetExponent] at least ⊢
      omega
    obtain ⟨shift, distance⟩ := Int.eq_ofNat_of_zero_le (Int.sub_nonneg.mpr atMost)
    have below := (Int.sub_sub_self exponent _).symm.trans (congrArg (exponent - ·) distance)
    have whole : mantissa * 2 ^ (exponent - -52 - (exponent - shift)).toNat
        = mantissa * 2 ^ shift * 2 ^ 52 := by
      have distance : (exponent - -52 - (exponent - shift)).toNat = shift + 52 := by omega
      rw [distance, pow_add, mul_assoc]
    rw [UnpackedFloat.div, sign_div_positive, divCore_of_whole (Nat.two_pow_pos 52) below whole]
    exact rounded.round_scaled sign shift

/-- A positive float. -/
theorem exists_unpack_of_positive {x : Float} (positive : Coordinate.lt Coordinate.zero x = true)
    (isFinite : Coordinate.isFinite x = true) :
    ∃ mantissa exponent nonzero,
      x.toModel.unpack = .finite .positive mantissa exponent nonzero := by
  change x.toModel.unpack.isFinite = true at isFinite
  have above : (Coordinate.zero : Float).toModel.unpack.lt x.toModel.unpack = true :=
    decide_eq_true_iff.mp (decide_eq_true_iff.mp positive)
  rw [unpack_zero] at above
  cases unpacked : x.toModel.unpack with
  | infinity sign => simp [UnpackedFloat.isFinite, unpacked] at isFinite
  | notANumber => simp [UnpackedFloat.isFinite, unpacked] at isFinite
  | zero sign => simp [unpacked, UnpackedFloat.lt, UnpackedFloat.compare] at above
  | finite sign mantissa exponent nonzero =>
    cases sign with
    | negative => simp [unpacked, UnpackedFloat.lt, UnpackedFloat.compare] at above
    | positive => exact ⟨mantissa, exponent, nonzero, rfl⟩

/-- A positive float divided by itself is one. -/
theorem div_self_of_positive {x : Float} (positive : Coordinate.lt Coordinate.zero x = true)
    (isFinite : Coordinate.isFinite x = true) : x / x = Coordinate.one := by
  apply pack_eq_of_unpack_eq
  obtain ⟨mantissa, exponent, nonzero, unpacked⟩ := exists_unpack_of_positive positive isFinite
  have below : min (exponent - exponent) (Format.binary64.targetExponent
      (totalExponent mantissa exponent - totalExponent mantissa exponent)) = -52 - (1 : ℕ) := by
    rw [sub_self, sub_self]
    rfl
  have whole : mantissa * 2 ^ (exponent - exponent - (-52 - (1 : ℕ))).toNat
      = 2 ^ 52 * 2 ^ 1 * mantissa := by
    rw [sub_self, mul_comm]
    rfl
  rw [unpacked, UnpackedFloat.div, divCore_of_whole nonzero below whole, unpack_one]
  exact isRounded_one.round_scaled _ 1

/-- Nothing is left of a positive float times zero. -/
theorem mul_zero_of_positive {x : Float} (positive : Coordinate.lt Coordinate.zero x = true)
    (isFinite : Coordinate.isFinite x = true) : x * Coordinate.zero = Coordinate.zero := by
  apply pack_eq_of_unpack_eq
  obtain ⟨mantissa, exponent, nonzero, unpacked⟩ := exists_unpack_of_positive positive isFinite
  rw [unpacked, unpack_zero]
  rfl

/-- Zero divided by a positive float is zero. -/
theorem zero_div_of_positive {x : Float} (positive : Coordinate.lt Coordinate.zero x = true)
    (isFinite : Coordinate.isFinite x = true) :
    Coordinate.zero / x = (Coordinate.zero : Float) := by
  apply pack_eq_of_unpack_eq
  obtain ⟨mantissa, exponent, nonzero, unpacked⟩ := exists_unpack_of_positive positive isFinite
  rw [unpacked, unpack_zero]
  rfl

/-- A float above zero or not comparable with it is infinite or no number unless it is finite. -/
theorem unpack_of_not_isFinite {x : Float} (notBelow : Coordinate.le x Coordinate.zero = false)
    (notFinite : Coordinate.isFinite x = false) :
    x.toModel.unpack = .infinity .positive ∨ x.toModel.unpack = .notANumber := by
  change x.toModel.unpack.isFinite = false at notFinite
  have above : x.toModel.unpack.le (Coordinate.zero : Float).toModel.unpack = false := by
    rw [← Bool.not_eq_true, ← Coordinate.le_iff_unpacked, notBelow]
    exact Bool.false_ne_true
  rw [unpack_zero] at above
  cases unpacked : x.toModel.unpack with
  | infinity sign =>
    cases sign with
    | negative => simp [unpacked, UnpackedFloat.le, UnpackedFloat.compare] at above
    | positive => exact .inl rfl
  | notANumber => exact .inr rfl
  | zero sign => simp [UnpackedFloat.isFinite, unpacked] at notFinite
  | finite sign mantissa exponent nonzero => simp [UnpackedFloat.isFinite, unpacked] at notFinite

/-- Dividing by an infinite float leaves nothing. -/
theorem div_infinity {x infinity : Float} (infinite : infinity.toModel.unpack = .infinity .positive)
    (positive : Coordinate.lt Coordinate.zero x = true)
    (isFinite : Coordinate.isFinite x = true) : x / infinity = Coordinate.zero := by
  apply pack_eq_of_unpack_eq
  obtain ⟨mantissa, exponent, nonzero, unpacked⟩ := exists_unpack_of_positive positive isFinite
  rw [unpacked, infinite]
  rfl

/-- Nothing divided by an infinite float is nothing. -/
theorem zero_div_infinity {infinity : Float}
    (infinite : infinity.toModel.unpack = .infinity .positive) :
    Coordinate.zero / infinity = (Coordinate.zero : Float) := by
  apply pack_eq_of_unpack_eq
  rw [infinite, unpack_zero]
  rfl

/-- Dividing by what is no number gives no number. -/
theorem div_undefined {x undefined : Float} (notANumber : undefined.toModel.unpack = .notANumber) :
    x / undefined = undefined := by
  apply pack_eq_of_unpack_eq
  rw [notANumber]
  cases x.toModel.unpack <;> rfl

end RoomLayout
