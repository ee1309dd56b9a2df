import Mathlib
import Chatflow.Decimal.Rounding
import Chatflow.Decimal.Shortest

/-!
# The nearest double

A number between the midpoints around a double is rounded to that double, whether it is given as a
product or as a quotient. The arithmetic of doubles is exact up to this rounding, so it does not
matter how the number is computed.
-/

namespace Chatflow.Decimal

open Float.Model Float.Model.UnpackedFloat

/-! ### Rounding a quotient -/

theorem roundDiv_eq {num den m : Nat} (pos : 0 < den) (above : 2 * (m * den) ≤ 2 * num + den)
    (below : 2 * num ≤ 2 * (m * den) + den)
    (tie : m % 2 = 1 → 2 * (m * den) ≠ 2 * num + den ∧ 2 * num ≠ 2 * (m * den) + den) :
    roundDiv num den = m := by
  have split := Nat.div_add_mod num den
  have small := Nat.mod_lt num pos
  rw [Nat.mul_comm] at split
  have upper : m ≤ num / den + 1 := by
    by_contra more
    have far : (num / den + 2) * den ≤ m * den := Nat.mul_le_mul_right den (by omega)
    rw [Nat.add_mul] at far
    omega
  have lower : num / den ≤ m := by
    by_contra more
    have far : (m + 1) * den ≤ num / den * den := Nat.mul_le_mul_right den (by omega)
    rw [Nat.add_mul] at far
    omega
  unfold roundDiv
  rcases Nat.lt_or_ge m (num / den + 1) with less | more
  · obtain rfl : m = num / den := by omega
    dsimp only
    split_ifs <;> omega
  · obtain rfl : m = num / den + 1 := by omega
    rw [Nat.add_mul] at above below tie
    dsimp only
    split_ifs <;> omega

/-! ### Mantissas with two further bits -/

/-- A mantissa with its further bits stands for a quotient: the round bit says whether a half is
missing, the sticky bit whether more than nothing or a half is. -/
structure Measures (em : ExtendedMantissa) (num den : Nat) : Prop where
  mantissa : em.mantissa = num / den
  roundBit : em.roundBit = decide (den ≤ 2 * (num % den))
  stickyBit : em.stickyBit = decide (2 * (num % den) ≠ 0 ∧ 2 * (num % den) ≠ den)

namespace Measures

variable {em : ExtendedMantissa} {num den : Nat}

theorem ofFraction (pos : 0 < den) :
    Measures (.ofMantissaAndAccuracy (num / den) (accuracyOfFraction (num % den) den)) num den := by
  have small := Nat.mod_lt num pos
  unfold accuracyOfFraction
  split_ifs with exact_
  · exact ⟨rfl, by simp [ExtendedMantissa.ofMantissaAndAccuracy, exact_]; omega,
      by simp [ExtendedMantissa.ofMantissaAndAccuracy, exact_]⟩
  · rcases Nat.lt_trichotomy (2 * (num % den)) den with less | same | more
    · rw [Nat.compare_eq_lt.mpr less]
      exact ⟨rfl, by simp [ExtendedMantissa.ofMantissaAndAccuracy]; omega,
        by simp [ExtendedMantissa.ofMantissaAndAccuracy]; omega⟩
    · rw [Nat.compare_eq_eq.mpr same]
      exact ⟨rfl, by simp [ExtendedMantissa.ofMantissaAndAccuracy]; omega,
        by simp [ExtendedMantissa.ofMantissaAndAccuracy]; omega⟩
    · rw [Nat.compare_eq_gt.mpr more]
      exact ⟨rfl, by simp [ExtendedMantissa.ofMantissaAndAccuracy]; omega,
        by simp [ExtendedMantissa.ofMantissaAndAccuracy]; omega⟩

theorem shiftRightOne (pos : 0 < den) (measures : Measures em num den) :
    Measures em.shiftRightOne num (den * 2) := by
  have small := Nat.mod_lt num pos
  have rest : num % (den * 2) = num % den + den * (num / den % 2) := Nat.mod_mul
  have bit := Nat.mod_two_eq_zero_or_one (num / den)
  refine ⟨?_, ?_, ?_⟩
  · rw [ExtendedMantissa.shiftRightOne, measures.mantissa, Nat.div_div_eq_div_mul]
  · rw [ExtendedMantissa.shiftRightOne, measures.mantissa, rest, Bool.eq_iff_iff]
    rcases bit with even | odd
    · simp [even]; omega
    · simp [odd]; omega
  · rw [ExtendedMantissa.shiftRightOne, measures.roundBit, measures.stickyBit, rest,
      Bool.eq_iff_iff]
    rcases bit with even | odd
    · simp [even]; omega
    · simp [odd]; omega

theorem shiftRight (pos : 0 < den) (measures : Measures em num den) (s : Nat) :
    Measures (em >>> s) num (den * 2 ^ s) := by
  induction s with
  | zero =>
    rw [Nat.pow_zero, Nat.mul_one]
    exact measures
  | succ s ih =>
    have more := ih.shiftRightOne (Nat.mul_pos pos (Nat.two_pow_pos s))
    rw [Nat.mul_assoc, ← Nat.pow_succ] at more
    exact more

theorem roundedMantissa (measures : Measures em num den) :
    em.roundedMantissa = roundDiv num den := by
  obtain ⟨mantissa, round, sticky⟩ := em
  obtain ⟨rfl, rfl, rfl⟩ := measures
  unfold roundDiv ExtendedMantissa.roundedMantissa
  have parity := Nat.mod_two_eq_zero_or_one (num / den)
  rcases Nat.lt_trichotomy (2 * (num % den)) den with less | same | more
  · have round : decide (den ≤ 2 * (num % den)) = false := by simpa using less
    by_cases none : 2 * (num % den) = 0
    · have sticky : decide (2 * (num % den) ≠ 0 ∧ 2 * (num % den) ≠ den) = false := by simp [none]
      rw [round, sticky, if_pos less]
      rfl
    · have sticky : decide (2 * (num % den) ≠ 0 ∧ 2 * (num % den) ≠ den) = true := by
        simp only [decide_eq_true_eq]
        omega
      rw [round, sticky, if_pos less]
      rfl
  · have round : decide (den ≤ 2 * (num % den)) = true := by simp only [decide_eq_true_eq]; omega
    have sticky : decide (2 * (num % den) ≠ 0 ∧ 2 * (num % den) ≠ den) = false := by
      simp only [decide_eq_false_iff_not]
      omega
    rw [round, sticky, if_neg (by omega), if_neg (by omega)]
    change num / den + num / den % 2 = _
    split_ifs <;> omega
  · have round : decide (den ≤ 2 * (num % den)) = true := by simp only [decide_eq_true_eq]; omega
    by_cases none : 2 * (num % den) = 0
    · omega
    · have sticky : decide (2 * (num % den) ≠ 0 ∧ 2 * (num % den) ≠ den) = true := by
        simp only [decide_eq_true_eq]
        omega
      rw [round, sticky, if_neg (by omega), if_pos more]
      rfl

end Measures

/-! ### Rounding to a double -/

theorem targetExponent_eq (n : Nat) (e : Int) :
    Format.binary64.targetExponent (totalExponent n e) = max ((n.log2 : Int) + e - 52) (-1074) := by
  simp only [Format.targetExponent, totalExponent, Format.mantissaBits, Format.minExponent]
  norm_num
  omega

variable {num den : Nat} {e : Int} {sign : Sign}

section

variable {t : Int} {s m : Nat} (pos : 0 < den)
  (target : Format.binary64.targetExponent (totalExponent (num / den) e) = t) (shift : t = e + s)

include pos target shift

/-- The mantissa at the target exponent is the quotient rounded to an integer. -/
theorem exists_shifted :
    ∃ em : ExtendedMantissa,
      shiftToTargetExponent .binary64 (num / den) e (accuracyOfFraction (num % den) den) = (em, t) ∧
        em.roundedMantissa = roundDiv num (den * 2 ^ s) := by
  have amount : (t - e).toNat = s := by omega
  refine ⟨_, ?_, ((Measures.ofFraction pos).shiftRight pos s).roundedMantissa⟩
  rw [shiftToTargetExponent, target, shiftToExponent, amount, shift]

theorem roundWithAccuracy_of_lt (sign : Sign) (rounded : roundDiv num (den * 2 ^ s) = m)
    (some_bit : 0 < m) (fits : m < 2 ^ 53) (least : -1074 ≤ t) :
    roundWithAccuracy .binary64 sign (num / den) e (accuracyOfFraction (num % den) den) =
      .finite sign m t some_bit := by
  obtain ⟨em, shifted, mantissa⟩ := exists_shifted pos target shift
  have bits : m.log2 < 53 := (Nat.log2_lt (Nat.ne_of_gt some_bit)).mpr fits
  have again : (Format.binary64.targetExponent (totalExponent m t) - t).toNat = 0 := by
    rw [targetExponent_eq]
    omega
  have stays : shiftToTargetExponent .binary64 m t .exact = (⟨m, false, false⟩, t) := by
    rw [shiftToTargetExponent, shiftToExponent, again]
    exact Prod.ext rfl (Int.add_zero t)
  unfold roundWithAccuracy
  rw [shifted]
  dsimp only
  rw [mantissa, rounded, stays]
  exact dif_neg (Nat.ne_of_gt some_bit)

theorem roundWithAccuracy_of_eq (sign : Sign) (rounded : roundDiv num (den * 2 ^ s) = 2 ^ 53)
    (least : -1074 ≤ t) :
    roundWithAccuracy .binary64 sign (num / den) e (accuracyOfFraction (num % den) den) =
      .finite sign (2 ^ 52) (t + 1) (by decide) := by
  obtain ⟨em, shifted, mantissa⟩ := exists_shifted pos target shift
  have again : (Format.binary64.targetExponent (totalExponent (2 ^ 53) t) - t).toNat = 1 := by
    rw [targetExponent_eq, Nat.log2_two_pow]
    omega
  have halves :
      shiftToTargetExponent .binary64 (2 ^ 53) t .exact = (⟨2 ^ 52, false, false⟩, t + 1) := by
    rw [shiftToTargetExponent, shiftToExponent, again]
    rfl
  unfold roundWithAccuracy
  rw [shifted]
  dsimp only
  rw [mantissa, rounded, halves]
  exact dif_neg (show ¬(2 ^ 52 : Nat) = 0 by decide)

end

/-! ### Between the midpoints -/

/-- Doubles other than zero as products of a mantissa with a power of two: all bits are used unless
the exponent is the least one. -/
structure Canonical (m : Nat) (p : Int) : Prop where
  pos : 0 < m
  fits : m < 2 ^ 53
  least : -1074 ≤ p
  greatest : p ≤ 971
  full : 2 ^ 52 ≤ m ∨ p = -1074

/-- How far the midpoint below a double is, in quarters of its last bit. -/
def gapBelow (m : Nat) (p : Int) : Nat := if m = Binary.leadingBit ∧ -1074 < p then 1 else 2

/-- A number between the midpoints around a double. A midpoint belongs to an even mantissa. -/
structure Between (m : Nat) (p : Int) (v : ℚ) : Prop where
  above : ((4 * m - gapBelow m p : ℤ) : ℚ) * 2 ^ (p - 2) ≤ v
  below : v ≤ ((4 * m + 2 : ℤ) : ℚ) * 2 ^ (p - 2)
  tie : m % 2 = 1 →
    ((4 * m - gapBelow m p : ℤ) : ℚ) * 2 ^ (p - 2) < v ∧ v < ((4 * m + 2 : ℤ) : ℚ) * 2 ^ (p - 2)

variable {m : Nat} {p : Int} {v : ℚ}

theorem Between.of_lt (above : ((4 * m - gapBelow m p : ℤ) : ℚ) * 2 ^ (p - 2) < v)
    (below : v < ((4 * m + 2 : ℤ) : ℚ) * 2 ^ (p - 2)) : Between m p v :=
  ⟨above.le, below.le, fun _ => ⟨above, below⟩⟩

theorem quarters_eq (m : Nat) (p : Int) : (m : ℚ) * 2 ^ p = ((4 * m : ℤ) : ℚ) * 2 ^ (p - 2) := by
  have exponent : p = p - 2 + 2 := by omega
  rw [exponent, zpow_add₀ two_ne_zero, Int.add_sub_cancel]
  push_cast
  ring

theorem gapBelow_cases (m : Nat) (p : Int) :
    gapBelow m p = 1 ∧ m = 2 ^ 52 ∨ gapBelow m p = 2 ∧ ¬(m = 2 ^ 52 ∧ -1074 < p) := by
  have leading : Binary.leadingBit = 2 ^ 52 := rfl
  unfold gapBelow
  rw [leading]
  split_ifs with edge
  · exact .inl ⟨rfl, edge.1⟩
  · exact .inr ⟨rfl, edge⟩

theorem self_between (m : Nat) (p : Int) :
    ((4 * m - gapBelow m p : ℤ) : ℚ) * 2 ^ (p - 2) < m * 2 ^ p ∧
      (m : ℚ) * 2 ^ p < ((4 * m + 2 : ℤ) : ℚ) * 2 ^ (p - 2) := by
  have unit_pos : (0 : ℚ) < 2 ^ (p - 2) := zpow_pos two_pos _
  have gap := gapBelow_cases m p
  rw [quarters_eq]
  constructor
  · exact mul_lt_mul_of_pos_right
      (by exact_mod_cast (by omega : (4 * m - gapBelow m p : ℤ) < 4 * m))
      unit_pos
  · exact mul_lt_mul_of_pos_right (by exact_mod_cast (by omega : (4 * m : ℤ) < 4 * m + 2)) unit_pos

/-- How many bits a quotient has at the exponent to which it is rounded. -/
theorem bits_of_target (pos : 0 < den) {t : Int} {s : Nat}
    (target : Format.binary64.targetExponent (totalExponent (num / den) e) = t)
    (shift : t = e + s) :
    num < 2 ^ 53 * (den * 2 ^ s) ∧ (-1074 < t → 2 ^ 52 * (den * 2 ^ s) ≤ num) := by
  rw [targetExponent_eq] at target
  have reorder : ∀ k, 2 ^ (k + s) * den = 2 ^ k * (den * 2 ^ s) := fun k => by
    rw [Nat.pow_add, Nat.mul_assoc, Nat.mul_comm den]
  constructor
  · have most : num / den < 2 ^ (53 + s) :=
      Nat.lt_of_lt_of_le Nat.lt_log2_self (Nat.pow_le_pow_right (by decide) (by omega))
    rw [← reorder]
    exact (Nat.div_lt_iff_lt_mul pos).mp most
  · intro larger
    have bits : (num / den).log2 = 52 + s := by omega
    have some_bit : num / den ≠ 0 := by
      intro none
      rw [none, Nat.log2_zero] at bits
      omega
    have least : 2 ^ (52 + s) ≤ num / den := bits ▸ Nat.log2_self_le some_bit
    rw [← reorder]
    exact (Nat.le_div_iff_mul_le pos).mp least

section

variable {unit : ℚ} {d j : Nat} {a : ℤ} (unit_pos : 0 < unit) (d_pos : 0 < d)
  (value : v * d = num * (2 ^ j * unit))

include unit_pos d_pos value

theorem mul_unit_le_iff : (a : ℚ) * unit ≤ v ↔ a * d ≤ num * 2 ^ j := by
  have d_pos : (0 : ℚ) < d := by exact_mod_cast d_pos
  rw [← mul_le_mul_iff_left₀ d_pos, value, ← mul_assoc, mul_right_comm,
    mul_le_mul_iff_left₀ unit_pos]
  exact_mod_cast Iff.rfl

theorem le_mul_unit_iff : v ≤ (a : ℚ) * unit ↔ num * 2 ^ j ≤ a * d := by
  have d_pos : (0 : ℚ) < d := by exact_mod_cast d_pos
  rw [← mul_le_mul_iff_left₀ d_pos, value, ← mul_assoc, mul_right_comm (a : ℚ),
    mul_le_mul_iff_left₀ unit_pos]
  exact_mod_cast Iff.rfl

end

section

variable {t : Int} {d : Nat} (canonical : Canonical m p) (between : Between m p v) (d_pos : 0 < d)
  (value : v * d = num * 2 ^ t) (most : num < 2 ^ 53 * d)

include canonical in
/-- All bits are used at the midpoint below, unless the exponent is the least one. -/
theorem Canonical.many_below (larger : -1074 < p) :
    (2 ^ 54 - 1) * (d : ℤ) ≤ (4 * m - gapBelow m p : ℤ) * d := by
  have gap := gapBelow_cases m p
  have full := canonical.full
  exact Int.mul_le_mul_of_nonneg_right (by omega) (by omega)

include value in
theorem in_quarters {j : Nat} (exponent : t = p - 2 + j) :
    v * d = num * (2 ^ j * 2 ^ (p - 2)) := by
  rw [value, exponent, zpow_add₀ two_ne_zero, zpow_natCast, mul_comm (2 ^ j)]

include between value

include canonical most in
/-- Even the greatest mantissa is too small at an exponent far below. -/
theorem Between.le_target (least : -1074 ≤ t) : p - 1 ≤ t := by
  by_contra far
  have unit_pos : (0 : ℚ) < 2 ^ (p - 2) := zpow_pos two_pos _
  have lower : (2 : ℚ) ^ t ≤ 2 ^ (p - 2) := zpow_le_zpow_right₀ one_le_two (by omega)
  have bound : ((4 * m - gapBelow m p : ℤ) : ℚ) * d * 2 ^ (p - 2) ≤ num * 2 ^ (p - 2) := by
    calc ((4 * m - gapBelow m p : ℤ) : ℚ) * d * 2 ^ (p - 2)
        = ((4 * m - gapBelow m p : ℤ) : ℚ) * 2 ^ (p - 2) * d := mul_right_comm _ _ _
      _ ≤ v * d := mul_le_mul_of_nonneg_right between.above (by exact_mod_cast Nat.zero_le d)
      _ = num * 2 ^ t := value
      _ ≤ num * 2 ^ (p - 2) :=
        mul_le_mul_of_nonneg_left lower (by exact_mod_cast Nat.zero_le num)
  have small : (4 * m - gapBelow m p : ℤ) * d ≤ num := by
    exact_mod_cast le_of_mul_le_mul_right bound unit_pos
  have many := canonical.many_below (d := d) (by omega)
  omega

include d_pos

include canonical in
/-- Even the least mantissa is too great at an exponent above. -/
theorem Between.target_le (atLeast : -1074 < t → 2 ^ 52 * d ≤ num) : t ≤ p := by
  by_contra above
  obtain ⟨j, exponent⟩ : ∃ j : Nat, t = p - 2 + j := ⟨(t - (p - 2)).toNat, by omega⟩
  have below := (le_mul_unit_iff (zpow_pos two_pos _) d_pos (in_quarters value exponent)).mp
    between.below
  have least := canonical.least
  have fits := canonical.fits
  have many := atLeast (by omega)
  have eight : (2 : ℤ) ^ 3 ≤ 2 ^ j := by exact_mod_cast Nat.pow_le_pow_right (by decide) (by omega)
  have : (num : ℤ) * 2 ^ 3 ≤ num * 2 ^ j := Int.mul_le_mul_of_nonneg_left eight (by omega)
  have : (4 * m + 2 : ℤ) * d ≤ (2 ^ 55 - 2) * d :=
    Int.mul_le_mul_of_nonneg_right (by omega) (by omega)
  omega

include canonical most in
/-- Just below a power of two, the rounded mantissa has one bit too many. -/
theorem Between.roundDiv_below (exponent : t = p - 1) (least : -1074 ≤ t) :
    m = 2 ^ 52 ∧ roundDiv num d = 2 ^ 53 := by
  have above := (mul_unit_le_iff (zpow_pos two_pos _) d_pos
    (in_quarters (j := 1) value (by omega))).mp between.above
  have gap := gapBelow_cases m p
  have full := canonical.full
  have many := canonical.many_below (d := d) (by omega)
  have one : m = 2 ^ 52 := by
    by_contra other
    have : (2 ^ 54 + 2) * (d : ℤ) ≤ (4 * m - gapBelow m p : ℤ) * d :=
      Int.mul_le_mul_of_nonneg_right (by omega) (by omega)
    omega
  exact ⟨one, roundDiv_eq d_pos (by omega) (by omega) (by omega)⟩

/-- At the exponent of the double, its mantissa is the nearest integer. -/
theorem Between.roundDiv_within (exponent : t = p) : roundDiv num d = m := by
  have quarters := in_quarters (p := p) (j := 2) value (by omega)
  have unit_pos : (0 : ℚ) < 2 ^ (p - 2) := zpow_pos two_pos _
  have gap := gapBelow_cases m p
  have odd : m % 2 = 1 → (4 * m - 2 : ℤ) * d < num * 2 ^ 2 ∧
      (num * 2 ^ 2 : ℤ) < (4 * m + 2) * d := by
    intro odd
    have strict := between.tie odd
    rw [(by omega : gapBelow m p = 2)] at strict
    exact ⟨lt_of_not_ge (mt (le_mul_unit_iff unit_pos d_pos quarters).mpr (not_le.mpr strict.1)),
      lt_of_not_ge (mt (mul_unit_le_iff unit_pos d_pos quarters).mpr (not_le.mpr strict.2))⟩
  have above : (4 * m - 2 : ℤ) * d ≤ num * 2 ^ 2 :=
    le_trans (Int.mul_le_mul_of_nonneg_right (by omega) (by omega))
      ((mul_unit_le_iff unit_pos d_pos quarters).mp between.above)
  have below := (le_mul_unit_iff unit_pos d_pos quarters).mp between.below
  have expand : ∀ k : ℤ, (4 * m + k : ℤ) * d = 4 * (m * d : ℕ) + k * d := fun k => by
    push_cast
    ring
  rw [sub_eq_add_neg, expand] at above odd
  rw [expand] at below odd
  exact roundDiv_eq d_pos (by omega) (by omega) fun odd_m => by
    have := odd odd_m
    omega

end

/-- A number between the midpoints around a double is rounded to it. -/
theorem roundWithAccuracy_of_between (sign : Sign) (num : Nat) (e : Int)
    (canonical : Canonical m p) (between : Between m p v) (pos : 0 < den)
    (value : v = (num : ℚ) / den * 2 ^ e)
    (enough : e ≤ Format.binary64.targetExponent (totalExponent (num / den) e)) :
    roundWithAccuracy .binary64 sign (num / den) e (accuracyOfFraction (num % den) den) =
      .finite sign m p canonical.pos := by
  obtain ⟨t, target⟩ : ∃ t, Format.binary64.targetExponent (totalExponent (num / den) e) = t :=
    ⟨_, rfl⟩
  obtain ⟨s, shift⟩ : ∃ s : Nat, t = e + s := ⟨(t - e).toNat, by omega⟩
  have least : -1074 ≤ t := by
    rw [targetExponent_eq] at target
    omega
  obtain ⟨most, atLeast⟩ := bits_of_target pos target shift
  have d_pos : 0 < den * 2 ^ s := Nat.mul_pos pos (Nat.two_pow_pos s)
  have quotient : v * (den * 2 ^ s : ℕ) = num * 2 ^ t := by
    have den_pos : (den : ℚ) ≠ 0 := by exact_mod_cast Nat.ne_of_gt pos
    rw [value, shift, zpow_add₀ two_ne_zero, zpow_natCast]
    push_cast
    field_simp
  have lower := between.le_target canonical quotient most least
  have upper := between.target_le canonical d_pos quotient atLeast
  rcases (by omega : t = p ∨ t = p - 1) with same | below
  · have rounded := between.roundDiv_within d_pos quotient same
    subst same
    exact roundWithAccuracy_of_lt pos target shift sign rounded canonical.pos canonical.fits least
  · obtain ⟨rfl, rounded⟩ := between.roundDiv_below canonical d_pos quotient most below least
    rw [roundWithAccuracy_of_eq pos target shift sign rounded least]
    congr 1
    omega

/-! ### Products and quotients -/

section

variable {sign₁ sign₂ : Sign} {m₁ m₂ : Nat} {e₁ e₂ : Int} {pos₁ : 0 < m₁} {pos₂ : 0 < m₂}

theorem mul_of_between (canonical : Canonical m p) (between : Between m p v)
    (value : v = m₁ * 2 ^ e₁ * (m₂ * 2 ^ e₂)) (enough : 2 ^ 52 ≤ m₁ * m₂) :
    UnpackedFloat.mul .binary64 (.finite sign₁ m₁ e₁ pos₁) (.finite sign₂ m₂ e₂ pos₂) =
      .finite (sign₁ * sign₂) m p canonical.pos := by
  have bits : 52 ≤ (m₁ * m₂).log2 := (Nat.le_log2 (by omega)).mpr enough
  have rounds := roundWithAccuracy_of_between (sign₁ * sign₂) (m₁ * m₂) (e₁ + e₂) canonical between
    Nat.one_pos
  rw [Nat.div_one, Nat.mod_one] at rounds
  refine rounds ?_ ?_
  · rw [value, zpow_add₀ two_ne_zero]
    push_cast
    ring
  · rw [targetExponent_eq]
    omega

/-- A dividend that is shifted far enough has a quotient with all bits. -/
theorem le_shifted_div {k : Nat} (pos₁ : 0 < m₁) (pos₂ : 0 < m₂)
    (far : 52 + (m₂.log2 + 1) ≤ m₁.log2 + k) : 2 ^ 52 ≤ m₁ * 2 ^ k / m₂ := by
  refine (Nat.le_div_iff_mul_le pos₂).mpr ?_
  calc 2 ^ 52 * m₂
      ≤ 2 ^ 52 * 2 ^ (m₂.log2 + 1) := Nat.mul_le_mul_left _ (Nat.le_of_lt Nat.lt_log2_self)
    _ = 2 ^ (52 + (m₂.log2 + 1)) := (Nat.pow_add _ _ _).symm
    _ ≤ 2 ^ (m₁.log2 + k) := Nat.pow_le_pow_right (by decide) far
    _ = 2 ^ m₁.log2 * 2 ^ k := Nat.pow_add _ _ _
    _ ≤ m₁ * 2 ^ k := Nat.mul_le_mul_right _ (Nat.log2_self_le (Nat.ne_of_gt pos₁))

theorem div_of_between (canonical : Canonical m p) (between : Between m p v)
    (value : v = m₁ * 2 ^ e₁ / (m₂ * 2 ^ e₂)) :
    UnpackedFloat.div .binary64 (.finite sign₁ m₁ e₁ pos₁) (.finite sign₂ m₂ e₂ pos₂) =
      .finite (sign₁ / sign₂) m p canonical.pos := by
  obtain ⟨target, target_eq⟩ : ∃ target, target = min (e₁ - e₂)
      (Format.binary64.targetExponent (totalExponent m₁ e₁ - totalExponent m₂ e₂)) := ⟨_, rfl⟩
  obtain ⟨k, k_eq⟩ : ∃ k : Nat, e₁ - e₂ = target + k := ⟨(e₁ - e₂ - target).toNat, by omega⟩
  have amount : (e₁ - e₂ - target).toNat = k := by omega
  have core : divCore .binary64 m₁ e₁ m₂ e₂ =
      (m₁ * 2 ^ k / m₂, target, accuracyOfFraction (m₁ * 2 ^ k % m₂) m₂) := by
    unfold divCore
    dsimp only
    rw [← target_eq, amount, Nat.shiftLeft_eq]
  have rounds := roundWithAccuracy_of_between (sign₁ / sign₂) (m₁ * 2 ^ k) target canonical between
    pos₂
  unfold UnpackedFloat.div
  dsimp only
  rw [core]
  refine rounds ?_ ?_
  · have exponent : e₁ = target + k + e₂ := by omega
    have den_pos : (m₂ : ℚ) ≠ 0 := by exact_mod_cast Nat.ne_of_gt pos₂
    rw [value, exponent, zpow_add₀ two_ne_zero, zpow_add₀ two_ne_zero, zpow_natCast]
    push_cast
    field_simp
  · -- The dividend was shifted until the quotient has all bits.
    rw [targetExponent_eq]
    rcases Int.lt_or_le (-1074) target with larger | least
    · have lowest : Format.binary64.minExponent = -1074 := rfl
      have bits : Format.binary64.mantissaBits = 53 := rfl
      simp only [Format.targetExponent, totalExponent, lowest, bits] at target_eq
      have quotient := le_shifted_div (k := k) pos₁ pos₂ (by omega)
      have := (Nat.le_log2 (by omega)).mpr quotient
      omega
    · omega

end

end Chatflow.Decimal
