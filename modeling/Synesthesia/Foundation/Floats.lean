import Synesthesia.Foundation.Bytes

namespace Synesthesia
namespace Foundation

/-!
# Floating-point numbers as values

A float is an exact number, an infinity or a NaN.  The conversion of an integer
rounds here.  A program whose results depend on the rounding of its arithmetic
takes it as a parameter, and `nearest` is that of the doubles; the arithmetic of
the others is exact.
-/

inductive PyFloat where
  | finite (value : ℚ)
  | infinite (negative : Bool)
  | nan
deriving DecidableEq

namespace PyFloat

def isFinite : PyFloat → Bool
  | finite _ => true
  | infinite _ => false
  | nan => false

/-- The nearest integer with 53 significant bits, ties to even. -/
def roundToDouble (value : Int) : Int :=
  let bits := Nat.log2 value.natAbs
  if bits < 53 then value
  else
    let unit : Int := 2 ^ (bits - 52)
    roundHalfEven ((value : ℚ) / unit) * unit

/-- `float(value)` of an integer. -/
def ofInt (value : Int) : Except PyError PyFloat :=
  let rounded := roundToDouble value
  if rounded.natAbs < 2 ^ 1024 then .ok (.finite rounded)
  else .error (.overflowError "int too large to convert to float")

/-! ## Rounding an exact result -/

/-- The distance of neighbouring doubles at a value: 53 significant bits, and
never less than between subnormal numbers. -/
def unitAt (value : ℚ) : ℚ := 2 ^ max (Int.log 2 |value| - 52) (-1074)

/-- The double nearest to an exact result, ties to even.  There is no largest
one here: what would overflow is rounded like the rest. -/
def nearest (value : ℚ) : ℚ := roundHalfEven (value / unitAt value) * unitAt value

/-- Up to a power of two, a result is off by half a unit there at most. -/
theorem abs_nearest_sub_le {value : ℚ} {bits : ℕ} (small : |value| ≤ 2 ^ bits) :
    |nearest value - value| ≤ 2 ^ (bits - 53 : ℤ) := by
  have positive : 0 < unitAt value := by
    unfold unitAt
    positivity
  have scaled : nearest value - value =
      (roundHalfEven (value / unitAt value) - value / unitAt value) * unitAt value := by
    rw [sub_mul, div_mul_cancel₀ _ positive.ne', nearest]
  have exponent : max (Int.log 2 |value| - 52) (-1074) ≤ bits - 53 + 1 := by
    have log : Int.log 2 |value| ≤ bits := by
      rcases eq_or_ne value 0 with rfl | nonzero
      · simp
      · refine (Int.log_mono_right (abs_pos.mpr nonzero) small).trans_eq ?_
        rw [← zpow_natCast]
        exact Int.log_zpow Nat.one_lt_two (bits : ℤ)
    omega
  have unit : unitAt value ≤ 2 ^ (bits - 53 : ℤ) * 2 := by
    rw [← zpow_add_one₀ two_ne_zero]
    exact zpow_le_zpow_right₀ one_le_two exponent
  rw [scaled, abs_mul, abs_of_pos positive]
  calc |(roundHalfEven (value / unitAt value) : ℚ) - value / unitAt value| * unitAt value
      ≤ 1 / 2 * unitAt value := by
        gcongr
        exact abs_roundHalfEven_sub_le _
    _ ≤ 2 ^ (bits - 53 : ℤ) := by linarith

/-! ## The range of the conversion -/

/-- The least magnitude of an integer that rounds beyond the largest float. -/
def overflowLimit : Nat := (2 ^ 54 - 1) * 2 ^ 970

theorem roundToDouble_neg (value : Int) : roundToDouble (-value) = -roundToDouble value := by
  unfold roundToDouble
  dsimp only
  rw [Int.natAbs_neg]
  split
  · rfl
  · push_cast
    rw [neg_div, roundHalfEven_neg, neg_mul]

/-- The rounding of a number with more than 53 significant bits. -/
theorem roundToDouble_of_le_log2 {value : Nat} (wide : 53 ≤ Nat.log2 value) :
    roundToDouble value =
      roundHalfEven ((value : ℚ) / 2 ^ (Nat.log2 value - 52)) * 2 ^ (Nat.log2 value - 52) := by
  unfold roundToDouble
  dsimp only
  rw [Int.natAbs_natCast, if_neg (Nat.not_lt.mpr wide)]
  push_cast
  rfl

/-- Half a unit below the end of the range rounds up to it. -/
theorem roundHalfEven_overflow : roundHalfEven ((2 ^ 54 - 1) / 2) = 2 ^ 53 := by
  have floor : ⌊((2 ^ 54 - 1) / 2 : ℚ)⌋ = 2 ^ 53 - 1 := by
    rw [Int.floor_eq_iff]
    norm_num
  unfold roundHalfEven
  dsimp only
  rw [floor]
  norm_num

theorem roundToDouble_natCast_nonneg (value : Nat) : 0 ≤ roundToDouble value := by
  unfold roundToDouble
  dsimp only
  split
  · exact Int.natCast_nonneg value
  · exact mul_nonneg (roundHalfEven_nonneg (by positivity)) (by positivity)

theorem roundToDouble_natCast_lt (value : Nat) :
    roundToDouble value < 2 ^ 1024 ↔ value < overflowLimit := by
  have limit_lt : overflowLimit < 2 ^ 1024 := by
    calc overflowLimit < 2 ^ 54 * 2 ^ 970 := by unfold overflowLimit; gcongr; norm_num
      _ = 2 ^ 1024 := by rw [← pow_add]
  have le_limit : 2 ^ 1023 ≤ overflowLimit := by
    calc 2 ^ 1023 = 2 ^ 53 * 2 ^ 970 := by rw [← pow_add]
      _ ≤ overflowLimit := by unfold overflowLimit; gcongr; norm_num
  rcases Nat.lt_or_ge (Nat.log2 value) 53 with narrow | wide
  · have small : value < 2 ^ 53 := by
      rcases Nat.eq_zero_or_pos value with rfl | positive
      · exact Nat.two_pow_pos 53
      · exact (Nat.log2_lt positive.ne').mp narrow
    have same : roundToDouble value = value := by
      unfold roundToDouble
      dsimp only
      rw [Int.natAbs_natCast, if_pos narrow]
    have below : value < 2 ^ 1023 :=
      lt_of_lt_of_le small (Nat.pow_le_pow_right Nat.two_pos (by norm_num))
    rw [same]
    have inside : value < overflowLimit := below.trans_le le_limit
    refine iff_of_true ?_ inside
    exact_mod_cast inside.trans limit_lt
  · have nonzero : value ≠ 0 := by
      rintro rfl
      simp at wide
    have lower : 2 ^ Nat.log2 value ≤ value := Nat.log2_self_le nonzero
    have upper : value < 2 ^ (Nat.log2 value + 1) := Nat.lt_log2_self
    rw [roundToDouble_of_le_log2 wide]
    rcases lt_trichotomy (Nat.log2 value) 1023 with less | equal | more
    · have half : (value : ℚ) / 2 ^ (Nat.log2 value - 52) ≤ ((2 ^ 53 : ℤ) : ℚ) := by
        rw [div_le_iff₀ (by positivity), Int.cast_pow, Int.cast_ofNat, ← pow_add,
          show 53 + (Nat.log2 value - 52) = Nat.log2 value + 1 by omega]
        exact_mod_cast upper.le
      have rounded := roundHalfEven_mono half
      rw [roundHalfEven_intCast] at rounded
      have below : 2 ^ (Nat.log2 value + 1) ≤ 2 ^ 1023 :=
        Nat.pow_le_pow_right (by norm_num) less
      refine iff_of_true ?_ (upper.trans_le (below.trans le_limit))
      calc roundHalfEven ((value : ℚ) / 2 ^ (Nat.log2 value - 52)) * 2 ^ (Nat.log2 value - 52)
          ≤ 2 ^ 53 * 2 ^ (Nat.log2 value - 52) := by gcongr
        _ = 2 ^ (Nat.log2 value + 1) := by
            rw [← pow_add, show 53 + (Nat.log2 value - 52) = Nat.log2 value + 1 by omega]
        _ < 2 ^ 1024 := by exact_mod_cast (below.trans le_limit).trans_lt limit_lt
    · rw [equal]
      have split : ((2 : ℤ) ^ 1024) = 2 ^ 53 * 2 ^ 971 := by rw [← pow_add]
      rw [show 1023 - 52 = 971 by rfl, split]
      have halved : (overflowLimit : ℚ) / 2 ^ 971 = (2 ^ 54 - 1) / 2 := by
        rw [div_eq_iff (by positivity), show (2 : ℚ) ^ 971 = 2 * 2 ^ 970 by rw [← pow_succ'],
          ← mul_assoc, div_mul_cancel₀ _ (by norm_num)]
        unfold overflowLimit
        push_cast
        norm_num
      constructor
      · intro below
        by_contra outside
        have reached : (overflowLimit : ℚ) / 2 ^ 971 ≤ (value : ℚ) / 2 ^ 971 := by
          gcongr
          exact Nat.not_lt.mp outside
        rw [halved] at reached
        have rounded := roundHalfEven_mono reached
        rw [roundHalfEven_overflow] at rounded
        have above : (2 : ℤ) ^ 53 * 2 ^ 971 ≤ roundHalfEven ((value : ℚ) / 2 ^ 971) * 2 ^ 971 := by
          gcongr
        exact absurd below above.not_gt
      · intro below
        have quotient : (value : ℚ) / 2 ^ 971 < (overflowLimit : ℚ) / 2 ^ 971 := by gcongr
        rw [halved] at quotient
        have rounded : roundHalfEven ((value : ℚ) / 2 ^ 971) ≤ 2 ^ 53 - 1 := by
          apply roundHalfEven_le_of_lt
          push_cast
          linarith
        have strict : roundHalfEven ((value : ℚ) / 2 ^ 971) < 2 ^ 53 := by omega
        gcongr
    · have beyond : 2 ^ 1024 ≤ value :=
        (Nat.pow_le_pow_right (by norm_num) more).trans lower
      refine iff_of_false ?_ (Nat.not_lt.mpr (limit_lt.le.trans beyond))
      have half : ((2 ^ 52 : ℤ) : ℚ) ≤ (value : ℚ) / 2 ^ (Nat.log2 value - 52) := by
        rw [le_div_iff₀ (by positivity), Int.cast_pow, Int.cast_ofNat, ← pow_add,
          show 52 + (Nat.log2 value - 52) = Nat.log2 value by omega]
        exact_mod_cast lower
      have rounded := roundHalfEven_mono half
      rw [roundHalfEven_intCast] at rounded
      refine not_lt_of_ge ?_
      calc (2 : ℤ) ^ 1024 ≤ 2 ^ Nat.log2 value := by
            exact_mod_cast Nat.pow_le_pow_right (by norm_num) more
        _ = 2 ^ 52 * 2 ^ (Nat.log2 value - 52) := by
            rw [← pow_add, show 52 + (Nat.log2 value - 52) = Nat.log2 value by omega]
        _ ≤ roundHalfEven ((value : ℚ) / 2 ^ (Nat.log2 value - 52)) *
              2 ^ (Nat.log2 value - 52) := by gcongr

/-- An integer is converted exactly when its magnitude is below the limit. -/
theorem ofInt_ok_iff (value : Int) :
    (∃ converted, ofInt value = .ok converted) ↔ value.natAbs < overflowLimit := by
  have magnitude : (roundToDouble value).natAbs < 2 ^ 1024 ↔
      roundToDouble value.natAbs < 2 ^ 1024 := by
    have nonnegative := roundToDouble_natCast_nonneg value.natAbs
    have symmetric : (roundToDouble value).natAbs = (roundToDouble value.natAbs).natAbs := by
      rcases Int.natAbs_eq value with same | opposite
      · rw [← same]
      · rw [opposite, roundToDouble_neg, Int.natAbs_neg, Int.natAbs_neg, Int.natAbs_natCast]
    rw [symmetric, ← Int.ofNat_lt, Int.natAbs_of_nonneg nonnegative, Nat.cast_pow, Nat.cast_ofNat]
  rw [← roundToDouble_natCast_lt, ← magnitude]
  unfold ofInt
  dsimp only
  split
  · rename_i holds
    exact iff_of_true ⟨_, rfl⟩ holds
  · rename_i fails
    exact iff_of_false (by rintro ⟨converted, impossible⟩; cases impossible) fails

end PyFloat
end Foundation
end Synesthesia
