import Mathlib.Algebra.Order.Group.Nat
import Mathlib.Data.Nat.Log
import Mathlib.Tactic.Ring
import Stepflow.Binary64

/-!
# Integers as binary64 numbers

The binary64 number nearest to an integer. At its scale an integer has a significand of 53 bits, and
what it has behind them is rounded off. So an integer that has nothing behind them stays what it is,
and so do all integers up to `2 ^ 53`. Rounding up can carry the greatest integers to infinity: these
have no number near them.

Results:
1. `exponentField_ofWord`, `fractionField_ofWord`, `isFinite_ofWord`: the fields of a word.
2. `roundHalfEven_lt_iff`: when a quotient is rounded to something below an even number.
3. `ofInt?_eq_some_iff`, `exists_ofInt?_iff`: which integers have a number near them.
4. `whole?_of_ofInt?`, `whole?_of_small`: which integers are numbers themselves.
-/

namespace Stepflow.Binary64

/-! ## Words -/

section Words

variable {word : Nat} (small : word ≤ infinityWord) (negative : Bool)

include small

theorem toNat_ofWord :
    (ofWord negative word).bits.toNat = (if negative then signWeight else 0) + word := by
  unfold infinityWord fractionSize at small
  rw [ofWord, BitVec.toNat_ofNat, Nat.mod_eq_of_lt]
  unfold signWeight
  split <;> omega

theorem exponentField_ofWord : (ofWord negative word).exponentField = word / fractionSize := by
  rw [exponentField, toNat_ofWord small]
  unfold infinityWord fractionSize at small
  unfold signWeight fractionSize
  split <;> omega

theorem fractionField_ofWord : (ofWord negative word).fractionField = word % fractionSize := by
  rw [fractionField, toNat_ofWord small]
  unfold signWeight fractionSize
  split <;> omega

theorem negative_ofWord : (ofWord negative word).negative = negative := by
  rw [Binary64.negative, toNat_ofWord small]
  unfold infinityWord fractionSize at small
  unfold signWeight
  cases negative with
  | false => simpa using by omega
  | true => simp

theorem isFinite_ofWord : (ofWord negative word).isFinite = true ↔ word < infinityWord := by
  rw [isFinite, exponentField_ofWord small, bne_iff_ne]
  unfold infinityWord fractionSize at *
  omega

end Words

/-! ## Rounding -/

theorem roundHalfEven_mul (m : Nat) {den : Nat} (pos : 0 < den) :
    roundHalfEven (m * den) den = m := by
  have positive : (den == 0) = false := beq_false_of_ne (Nat.ne_of_gt pos)
  simp [roundHalfEven, Nat.mul_div_cancel _ pos, positive]

theorem le_roundHalfEven (num den : Nat) : num / den ≤ roundHalfEven num den := by
  unfold roundHalfEven
  simp only
  split
  · exact Nat.le_succ _
  · exact Nat.le_refl _

theorem roundHalfEven_le (num den : Nat) : roundHalfEven num den ≤ num / den + 1 := by
  unfold roundHalfEven
  simp only
  split
  · exact Nat.le_refl _
  · exact Nat.le_succ _

/-- Of a half below an even number, the even number is chosen. -/
theorem roundHalfEven_lt_iff {num den k : Nat} (pos : 0 < den) :
    roundHalfEven num den < 2 * k + 2 ↔ 2 * num < (4 * k + 3) * den := by
  have split : den * (num / den) + num % den = num := Nat.div_add_mod num den
  have rest : num % den < den := Nat.mod_lt _ pos
  rcases Nat.lt_trichotomy (num / den) (2 * k + 1) with below | here | above
  · have most := roundHalfEven_le num den
    have floor : den * (num / den) ≤ den * (2 * k) := Nat.mul_le_mul_left _ (by omega)
    have bound : (4 * k + 3) * den = 2 * (den * (2 * k)) + 3 * den := by ring
    exact iff_of_true (by omega) (by omega)
  · have odd : num / den % 2 = 1 := by omega
    have rounded : roundHalfEven num den < 2 * k + 2 ↔ 2 * (num % den) < den := by
      unfold roundHalfEven
      simp only [odd, beq_self_eq_true, Bool.and_true, Bool.or_eq_true, decide_eq_true_eq,
        beq_iff_eq]
      split <;> omega
    have bound : (4 * k + 3) * den = 2 * (den * (num / den)) + den := by
      rw [here]
      ring
    rw [rounded]
    omega
  · have least := le_roundHalfEven num den
    have floor : den * (2 * k + 2) ≤ den * (num / den) := Nat.mul_le_mul_left _ above
    have bound : (4 * k + 3) * den + den = 2 * (den * (2 * k + 2)) := by ring
    exact iff_of_false (by omega) (by omega)

/-! ## Integers -/

theorem scaleFor_one {num : Nat} (pos : num ≠ 0) : scaleFor num 1 = num.log2 - 52 := by
  have power : Nat.pow 2 num.log2 ≤ num := Nat.log2_self_le pos
  have one : Nat.log2 1 = 0 := rfl
  unfold scaleFor
  simp only [one, Nat.cast_zero, Int.sub_zero]
  have up : (53 + ((num.log2 : Int) - 53)).toNat = num.log2 := by omega
  have down : (-(53 + ((num.log2 : Int) - 53))).toNat = 0 := by omega
  rw [up, down, Nat.one_mul, if_pos (by simpa using power)]
  omega

/-- The significand of 53 bits to which an integer is rounded. -/
def units (num : Nat) : Nat :=
  roundHalfEven (num * 2 ^ (52 - num.log2)) (2 ^ (num.log2 - 52))

/-- The word of the magnitude to which an integer is rounded, if it is below that of infinity. -/
def wordOf (num : Nat) : Nat :=
  (num.log2 + 1022) * fractionSize + units num

theorem nearest_one {num : Nat} (pos : num ≠ 0) (negative : Bool) :
    nearest negative num 1 = ofWord negative (min (wordOf num) infinityWord) := by
  have up : (-((num.log2 : Int) - 52)).toNat = 52 - num.log2 := by omega
  have down : ((num.log2 : Int) - 52).toNat = num.log2 - 52 := by omega
  have field : ((num.log2 : Int) - 52 + 1074).toNat = num.log2 + 1022 := by omega
  rw [nearest, if_neg (by simpa using pos)]
  simp only [scaleFor_one pos, up, down, field, Nat.one_mul, Nat.pow_eq]
  rfl

/-- An integer has 53 bits at its scale. -/
theorem scaled_bounds {num : Nat} (pos : num ≠ 0) :
    fractionSize * 2 ^ (num.log2 - 52) ≤ num * 2 ^ (52 - num.log2) ∧
      num * 2 ^ (52 - num.log2) < 2 * fractionSize * 2 ^ (num.log2 - 52) := by
  have lower : 2 ^ num.log2 ≤ num := Nat.log2_self_le pos
  have upper : num < 2 ^ (num.log2 + 1) := Nat.lt_log2_self
  have size : fractionSize * 2 ^ (num.log2 - 52) = 2 ^ num.log2 * 2 ^ (52 - num.log2) := by
    rw [show fractionSize = 2 ^ 52 from rfl, ← Nat.pow_add, ← Nat.pow_add]
    exact congrArg (2 ^ ·) (by omega)
  rw [Nat.mul_assoc, size]
  refine ⟨Nat.mul_le_mul_right _ lower, ?_⟩
  rw [← Nat.mul_assoc, Nat.mul_comm 2, ← Nat.pow_succ]
  exact Nat.mul_lt_mul_of_pos_right upper (Nat.two_pow_pos _)

theorem units_bounds {num : Nat} (pos : num ≠ 0) :
    fractionSize ≤ units num ∧ units num ≤ 2 * fractionSize := by
  obtain ⟨lower, upper⟩ := scaled_bounds pos
  have den : 0 < 2 ^ (num.log2 - 52) := Nat.two_pow_pos _
  constructor
  · exact Nat.le_trans ((Nat.le_div_iff_mul_le den).mpr lower) (le_roundHalfEven _ _)
  · exact Nat.le_trans (roundHalfEven_le _ _) ((Nat.div_lt_iff_lt_mul den).mpr upper)

/-- The least magnitude that is rounded to infinity, half a unit above the greatest finite one. -/
def overflow : Nat :=
  (2 ^ 54 - 1) * 2 ^ 970

theorem pow_le_overflow {k : Nat} (small : k ≤ 1023) : 2 ^ k ≤ overflow := by
  unfold overflow
  generalize same : 970 = d
  calc 2 ^ k ≤ 2 ^ (53 + d) := Nat.pow_le_pow_right (by decide) (by omega)
    _ = 2 ^ 53 * 2 ^ d := Nat.pow_add 2 53 d
    _ ≤ (2 ^ 54 - 1) * 2 ^ d := Nat.mul_le_mul_right _ (by decide)

theorem overflow_le_pow {k : Nat} (large : 1024 ≤ k) : overflow ≤ 2 ^ k := by
  unfold overflow
  generalize same : 970 = d
  calc (2 ^ 54 - 1) * 2 ^ d ≤ 2 ^ 54 * 2 ^ d := Nat.mul_le_mul_right _ (by decide)
    _ = 2 ^ (54 + d) := (Nat.pow_add 2 54 d).symm
    _ ≤ 2 ^ k := Nat.pow_le_pow_right (by decide) (by omega)

theorem wordOf_lt_iff {num : Nat} (pos : num ≠ 0) : wordOf num < infinityWord ↔ num < overflow := by
  obtain ⟨least, most⟩ := units_bounds pos
  rw [wordOf, infinityWord]
  rcases Nat.lt_trichotomy num.log2 1023 with small | edge | large
  · have below : num < overflow := Nat.lt_of_lt_of_le Nat.lt_log2_self (pow_le_overflow small)
    refine iff_of_true ?_ below
    unfold fractionSize at *
    omega
  · -- The last binade: a significand that is rounded up to the next power of two overflows.
    have rounded : units num < 2 * fractionSize ↔ num < overflow := by
      unfold overflow
      generalize same : 970 = d
      have whole : 52 - num.log2 = 0 := by omega
      have scale : num.log2 - 52 = d + 1 := by omega
      have double : 2 * fractionSize = 2 * (fractionSize - 1) + 2 := rfl
      rw [units, double, roundHalfEven_lt_iff (Nat.two_pow_pos _), whole, Nat.pow_zero, scale,
        Nat.pow_succ]
      unfold fractionSize
      omega
    rw [← rounded, edge]
    unfold fractionSize at *
    omega
  · have above : overflow ≤ num := Nat.le_trans (overflow_le_pow large) (Nat.log2_self_le pos)
    refine iff_of_false ?_ (Nat.not_lt.mpr above)
    unfold fractionSize at *
    omega

theorem isFinite_nearest_iff {num : Nat} (negative : Bool) :
    (nearest negative num 1).isFinite = true ↔ num < overflow := by
  by_cases zero : num = 0
  · subst zero
    refine iff_of_true ?_ (pow_le_overflow (Nat.zero_le _))
    cases negative <;> rfl
  · rw [nearest_one zero, isFinite_ofWord (Nat.min_le_right _ _), ← wordOf_lt_iff zero]
    omega

/-- The magnitude that a word with a significand of 53 bits stands for. -/
theorem magnitude_ofWord {k u : Nat} (least : fractionSize ≤ u) (most : u < 2 * fractionSize)
    (small : (k + 1022) * fractionSize + u < infinityWord) (negative : Bool) :
    (ofWord negative ((k + 1022) * fractionSize + u)).magnitude =
      (u * 2 ^ (k - 52), 2 ^ (52 - k)) := by
  have within := Nat.le_of_lt small
  have exponent : ((k + 1022) * fractionSize + u) / fractionSize = k + 1023 := by
    unfold fractionSize at *
    omega
  have fraction : ((k + 1022) * fractionSize + u) % fractionSize + fractionSize = u := by
    unfold fractionSize at *
    omega
  have up : ((max (k + 1023) 1 : Nat) - 1075 : Int).toNat = k - 52 := by omega
  have down : (-((max (k + 1023) 1 : Nat) - 1075 : Int)).toNat = 52 - k := by omega
  rw [magnitude, significand, scale, exponentField_ofWord within, fractionField_ofWord within,
    exponent, fraction, if_neg (Nat.succ_ne_zero _), up, down]
  rfl

theorem whole?_of_magnitude {x : Binary64} {m num den : Nat} (finite : x.isFinite = true)
    (size : x.magnitude = (num, den)) (pos : 0 < den) (whole : num = m * den) :
    x.whole? = some (if x.negative then -(m : Int) else m) := by
  subst whole
  rw [whole?, size]
  simp only [finite, Nat.mul_mod_left, Nat.mul_div_cancel _ pos]
  rfl

/-- An integer that ends in zeros behind its first 53 bits is not rounded. -/
theorem whole?_nearest {num : Nat} (small : num < overflow) (exact : 2 ^ (num.log2 - 52) ∣ num)
    (pos : num ≠ 0) (negative : Bool) :
    (nearest negative num 1).whole? = some (if negative then -(num : Int) else num) := by
  have finite := (isFinite_nearest_iff negative).mpr small
  have below : wordOf num < infinityWord := (wordOf_lt_iff pos).mpr small
  have den : 0 < 2 ^ (num.log2 - 52) := Nat.two_pow_pos _
  obtain ⟨m, whole⟩ : ∃ m, num * 2 ^ (52 - num.log2) = m * 2 ^ (num.log2 - 52) := by
    obtain ⟨m, hm⟩ := exact.mul_right (2 ^ (52 - num.log2))
    exact ⟨m, hm.trans (Nat.mul_comm _ _)⟩
  have word : wordOf num = (num.log2 + 1022) * fractionSize + m := by
    rw [wordOf, units, whole, roundHalfEven_mul _ den]
  obtain ⟨lower, upper⟩ := scaled_bounds pos
  rw [whole] at lower upper
  rw [nearest_one pos, Nat.min_eq_left (Nat.le_of_lt below), word] at finite ⊢
  rw [word] at below
  have size := magnitude_ofWord (Nat.le_of_mul_le_mul_right lower den)
    (Nat.lt_of_mul_lt_mul_right upper) below negative
  rw [whole?_of_magnitude finite size (Nat.two_pow_pos _) whole.symm,
    negative_ofWord (Nat.le_of_lt below)]

theorem ofInt?_eq_some_iff {n : Int} {x : Binary64} :
    ofInt? n = some x ↔ n.natAbs < overflow ∧ nearest (n < 0) n.natAbs 1 = x := by
  rw [ofInt?, ← isFinite_nearest_iff (n < 0)]
  simp only [Option.ite_none_right_eq_some, Option.some.injEq]

/-- An integer has a binary64 number near it iff it is not too large. -/
theorem exists_ofInt?_iff {n : Int} : (∃ x, ofInt? n = some x) ↔ n.natAbs < overflow := by
  simp only [ofInt?_eq_some_iff, exists_and_left, exists_eq', and_true]

example : ofInt? (10 ^ 400) = none := by decide +kernel

/-- An integer that ends in zeros behind its first 53 bits is a binary64 number of its own. -/
theorem whole?_of_ofInt? {n : Int} (exact : 2 ^ (n.natAbs.log2 - 52) ∣ n.natAbs) {x : Binary64}
    (h : ofInt? n = some x) : x.whole? = some n := by
  obtain ⟨small, rfl⟩ := ofInt?_eq_some_iff.mp h
  by_cases zero : n = 0
  · subst zero
    decide +kernel
  · rw [whole?_nearest small exact (Int.natAbs_ne_zero.mpr zero)]
    simp only [decide_eq_true_eq]
    congr 1
    omega

theorem lt_overflow_of_small {num : Nat} (small : num ≤ 2 ^ 53) : num < overflow :=
  calc num ≤ 2 ^ 53 := small
    _ < 2 ^ 54 := by decide
    _ ≤ overflow := pow_le_overflow (by decide)

theorem whole?_of_small {n : Int} (small : n.natAbs ≤ 2 ^ 53) {x : Binary64}
    (h : ofInt? n = some x) : x.whole? = some n := by
  refine whole?_of_ofInt? ?_ h
  rcases Nat.lt_or_eq_of_le small with less | same
  · have bits : n.natAbs.log2 - 52 = 0 := by
      rcases Nat.eq_zero_or_pos n.natAbs with zero | pos
      · rw [zero]
        rfl
      · have log : n.natAbs.log2 < 53 := (Nat.log2_lt (Nat.ne_of_gt pos)).mpr less
        omega
    rw [bits]
    exact Nat.one_dvd _
  · rw [same]
    decide

end Stepflow.Binary64
