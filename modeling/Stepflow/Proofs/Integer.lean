import Stepflow.Json
import Stepflow.Proofs.Numeral

/-!
# Integers that are read from values

An integer that a value stands for has a numeral within the limit, unless the value is an integer
beyond it to begin with.

Results:
1. `Binary64.fits_of_whole?`: a binary64 number without fraction is an integer within the limit.
2. `Binary64.whole?_eq_some_iff`, `Binary64.isZero_iff`: which integer a number equals.
3. `Json.fits_of_integer?`: an integer that a value stands for is within the limit.
-/

namespace Stepflow

namespace Binary64

theorem significand_lt (x : Binary64) : x.significand < 2 * fractionSize := by
  have field : x.fractionField < fractionSize := Nat.mod_lt _ (by decide)
  unfold significand
  split
  · exact Nat.lt_of_lt_of_le field (Nat.le_mul_of_pos_left _ (by decide))
  · rw [Nat.two_mul]
    exact Nat.add_lt_add_right field _

theorem scale_le (x : Binary64) : x.scale.toNat ≤ 972 := by
  have field : x.exponentField < 2048 := Nat.mod_lt _ (by decide)
  rw [scale, Int.toNat_le]
  omega

theorem natAbs_of_whole? {x : Binary64} {n : Int} (h : x.whole? = some n) :
    n.natAbs < 2 * fractionSize * 2 ^ x.scale.toNat := by
  unfold whole? at h
  simp only at h
  split at h
  · have magnitude : n.natAbs = x.magnitude.1 / x.magnitude.2 := by
      cases h
      split
      · exact Int.natAbs_neg _
      · rfl
    rw [magnitude]
    calc x.magnitude.1 / x.magnitude.2 ≤ x.magnitude.1 := Nat.div_le_self _ _
      _ = x.significand * 2 ^ x.scale.toNat := rfl
      _ < 2 * fractionSize * 2 ^ x.scale.toNat :=
        Nat.mul_lt_mul_of_pos_right x.significand_lt (Nat.pow_pos (by decide))
  · cases h

/-- A binary64 number without fraction is an integer within the limit. -/
theorem fits_of_whole? {x : Binary64} {n : Int} (h : x.whole? = some n) :
    Numeral.fits n = true := by
  have digits : 16 + x.scale.toNat ≤ Numeral.maxDigits :=
    Nat.le_trans (Nat.add_le_add_left x.scale_le 16) (by decide)
  rw [Numeral.fits_iff]
  calc n.natAbs < 2 * fractionSize * 2 ^ x.scale.toNat := natAbs_of_whole? h
    _ ≤ 10 ^ 16 * 10 ^ x.scale.toNat :=
      Nat.mul_le_mul (by decide) (Nat.pow_le_pow_left (by decide) _)
    _ = 10 ^ (16 + x.scale.toNat) := (Nat.pow_add 10 16 _).symm
    _ ≤ 10 ^ Numeral.maxDigits := Nat.pow_le_pow_right (by decide) digits

/-- A number equals an integer: the quotient that is its magnitude does, and the signs agree. -/
structure Equals (x : Binary64) (n : Int) : Prop where
  finite : x.isFinite = true
  value : n * x.magnitude.2 = if x.negative then -(x.magnitude.1 : Int) else x.magnitude.1

theorem magnitude_den_pos (x : Binary64) : 0 < x.magnitude.2 :=
  Nat.two_pow_pos _

/-- The integer of a number without fraction is the one that the number equals. -/
theorem whole?_eq_some_iff {x : Binary64} {n : Int} : x.whole? = some n ↔ x.Equals n := by
  unfold whole?
  simp only
  constructor
  · intro h
    split at h
    · next whole =>
      rw [Bool.and_eq_true, beq_iff_eq] at whole
      have exact : (x.magnitude.1 / x.magnitude.2 : Nat) * (x.magnitude.2 : Int) = x.magnitude.1 :=
        mod_cast Nat.div_mul_cancel (Nat.dvd_of_mod_eq_zero whole.2)
      refine ⟨whole.1, ?_⟩
      cases h
      split
      · rw [Int.neg_mul, exact]
      · exact exact
    · cases h
  · rintro ⟨finite, value⟩
    have exact : x.magnitude.1 = n.natAbs * x.magnitude.2 := by
      have sizes := congrArg Int.natAbs value
      rw [Int.natAbs_mul, Int.natAbs_natCast] at sizes
      rw [sizes]
      split
      · rw [Int.natAbs_neg, Int.natAbs_natCast]
      · rw [Int.natAbs_natCast]
    rw [exact] at value ⊢
    simp only [finite, Nat.mul_mod_left, Nat.mul_div_cancel _ x.magnitude_den_pos]
    refine congrArg some ?_
    have den : (x.magnitude.2 : Int) ≠ 0 := mod_cast Nat.ne_of_gt x.magnitude_den_pos
    refine Int.eq_of_mul_eq_mul_right den ?_
    rw [value]
    split
    · rw [Int.natCast_mul, Int.neg_mul]
    · rw [Int.natCast_mul]

/-- A number is a zero of either sign iff it equals zero. -/
theorem isZero_iff {x : Binary64} : x.isZero = true ↔ x.Equals 0 := by
  constructor
  · intro zero
    rw [isZero, Bool.and_eq_true, beq_iff_eq, beq_iff_eq] at zero
    have nothing : x.magnitude.1 = 0 := by simp [magnitude, significand, zero]
    exact ⟨by simp [isFinite, zero.1], by simp [nothing]⟩
  · rintro ⟨-, value⟩
    have nothing : x.significand * 2 ^ x.scale.toNat = 0 := by
      rw [Int.zero_mul] at value
      split at value
      · exact Int.ofNat_eq_zero.mp (Int.neg_eq_zero.mp value.symm)
      · exact Int.ofNat_eq_zero.mp value.symm
    have none_left : x.significand = 0 :=
      (Nat.mul_eq_zero.mp nothing).resolve_right (Nat.ne_of_gt (Nat.two_pow_pos _))
    unfold significand at none_left
    split at none_left
    · next exponent => simp [isZero, exponent, none_left]
    · exact absurd none_left (Nat.ne_of_gt (Nat.add_pos_right _ (by decide)))

end Binary64

/-- The integer that a value stands for is within the limit. -/
theorem Json.fits_of_integer? {value : Json} {n : Int} (h : value.integer? = some n)
    (integer : ∀ k, value = .int k → Numeral.fits k = true) : Numeral.fits n = true := by
  cases value with
  | int k =>
    cases h
    exact integer _ rfl
  | float x => exact Binary64.fits_of_whole? h
  | str s => exact Numeral.fits_of_readChars? h
  | _ => cases h

end Stepflow
