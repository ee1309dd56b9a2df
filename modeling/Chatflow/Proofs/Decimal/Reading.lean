import Chatflow.Proofs.Decimal.Binary

/-!
# Reading decimals

A decimal between the midpoints around a double is read as that double, however many digits it has
and wherever its point is.
-/

namespace Chatflow.Decimal

open Float.Model Float.Model.UnpackedFloat

/-! ### Exact doubles -/

def double {m : Nat} {p : Int} (canonical : Canonical m p) : Float :=
  .ofModel (.pack (.finite .positive m p canonical.pos))

theorem eq_double {x : Float} {m : Nat} {p : Int} (canonical : Canonical m p)
    (unpacked : x.toModel.unpack = .finite .positive m p canonical.pos) : x = double canonical := by
  have packed := pack_unpack x.toModel
  rw [unpacked] at packed
  exact congrArg Float.ofModel packed.symm

theorem unpack_double {m : Nat} {p : Int} (canonical : Canonical m p) :
    (double canonical).toModel.unpack = .finite .positive m p canonical.pos :=
  unpack_of_pack canonical

theorem zpow_eq_div {b : ℚ} (nonzero : b ≠ 0) (p : ℤ) : b ^ p = b ^ p.toNat / b ^ (-p).toNat := by
  rw [← zpow_natCast, ← zpow_natCast, ← zpow_sub₀ nonzero]
  congr 1
  omega

section

variable {n k : Nat}

theorem shifted_bounds (pos : 0 < n) (fits : n < 2 ^ 53) (amount : k = 52 - n.log2) :
    2 ^ 52 ≤ n * 2 ^ k ∧ n * 2 ^ k < 2 ^ 53 := by
  have bits : n.log2 < 53 := (Nat.log2_lt (Nat.ne_of_gt pos)).mpr fits
  constructor
  · calc 2 ^ 52 = 2 ^ n.log2 * 2 ^ k := by rw [← Nat.pow_add]; congr 1; omega
      _ ≤ n * 2 ^ k := Nat.mul_le_mul_right _ (Nat.log2_self_le (Nat.ne_of_gt pos))
  · calc n * 2 ^ k < 2 ^ (n.log2 + 1) * 2 ^ k :=
          Nat.mul_lt_mul_of_pos_right Nat.lt_log2_self (Nat.two_pow_pos k)
      _ = 2 ^ 53 := by rw [← Nat.pow_add]; congr 1; omega

theorem ofUInt64_exact (fits : n < 2 ^ 53) (amount : k = 52 - n.log2)
    (canonical : Canonical (n * 2 ^ k) (-k)) (full : 2 ^ 52 ≤ n * 2 ^ k) :
    UnpackedFloat.ofUInt64 .binary64 n.toUInt64 =
      .finite .positive (n * 2 ^ k) (-k) canonical.pos := by
  have some_bit := Nat.pos_of_mul_pos_right canonical.pos
  have bits : n.log2 < 53 := (Nat.log2_lt (Nat.ne_of_gt some_bit)).mpr fits
  have again : Format.binary64.targetExponent (totalExponent (n * 2 ^ k / 1) (-k)) = -k := by
    rw [targetExponent_eq, Nat.div_one, log2_of_full full canonical.fits]
    omega
  -- Rounding finds nothing to round.
  have rounds := roundWithAccuracy_of_between .positive (n * 2 ^ k) (-k) canonical
    (.of_lt (self_between _ _).1 (self_between _ _).2) Nat.one_pos (by rw [Nat.cast_one, div_one])
    (by rw [again])
  rw [Nat.div_one, Nat.mod_one] at rounds
  have number : n.toUInt64.toNat = n := Nat.mod_eq_of_lt (by omega)
  have positive : compare (n : Int) 0 = .gt := Int.compare_eq_gt.mpr (by omega)
  have target : Format.binary64.targetExponent (totalExponent n 0) = -k := by
    rw [targetExponent_eq]
    omega
  have shift : ((0 : Int) - -k).toNat = k := by omega
  unfold UnpackedFloat.ofUInt64 UnpackedFloat.ofNat UnpackedFloat.ofInt UnpackedFloat.normalize
  rw [number, positive]
  dsimp only
  rw [Int.toNat_natCast, UnpackedFloat.round, target, decreaseExponent, shift, Nat.shiftLeft_eq,
    Int.zero_sub]
  exact rounds

theorem toFloat_exact (pos : 0 < n) (fits : n < 2 ^ 53) :
    ∃ m p, ∃ canonical : Canonical m p, 2 ^ 52 ≤ m ∧ (m : ℚ) * 2 ^ p = n ∧
      n.toUInt64.toFloat = double canonical := by
  obtain ⟨k, amount⟩ : ∃ k, k = 52 - n.log2 := ⟨_, rfl⟩
  obtain ⟨full, few⟩ := shifted_bounds pos fits amount
  have value : ((n * 2 ^ k : Nat) : ℚ) * 2 ^ (-(k : ℤ)) = n := by
    rw [zpow_neg, zpow_natCast]
    push_cast
    field_simp
  have canonical : Canonical (n * 2 ^ k) (-k) := ⟨by omega, few, by omega, by omega, .inl full⟩
  refine ⟨_, _, canonical, full, value, ?_⟩
  rw [UInt64.toFloat, Float.Model.ofUInt64, ofUInt64_exact fits amount canonical full]
  rfl

end

/-- Whether a double with all its bits is a natural number. -/
def isNumber (n : Nat) : Binary → Bool
  | .finite false m p => 2 ^ 52 ≤ m && m * 2 ^ p.toNat == n * 2 ^ (-p).toNat
  | _ => false

theorem exists_double_of_isNumber {x : Float} {n : Nat}
    (number : isNumber n (Binary.ofFloat x) = true) :
    ∃ m p, ∃ canonical : Canonical m p, 2 ^ 52 ≤ m ∧ (m : ℚ) * 2 ^ p = n ∧
      x = double canonical := by
  rcases unpack_cases x with ⟨-, stands⟩ | ⟨negative, -, stands⟩ | ⟨negative, -, stands⟩ |
    ⟨negative, m, p, canonical, unpacked, stands⟩ <;> rw [stands] at number
  · cases number
  · cases number
  · cases negative <;> cases number
  · cases negative with
    | true => cases number
    | false =>
      simp only [isNumber, Bool.and_eq_true, decide_eq_true_eq, beq_iff_eq] at number
      refine ⟨m, p, canonical, number.1, ?_, eq_double canonical unpacked⟩
      rw [zpow_eq_div two_ne_zero, mul_div_assoc', div_eq_iff (by positivity)]
      exact_mod_cast number.2

theorem powers_exact :
    ∀ e : Fin Float.exactlyRepresentablePowersOfTen.size,
      isNumber (10 ^ e.val) (Binary.ofFloat Float.exactlyRepresentablePowersOfTen[e]) = true := by
  decide

/-! ### Decimals -/

section

variable {m : Nat} {p : Int} {canonical : Canonical m p} {n : Nat} {e : Int}

/-- Numbers that are nearest to a double are neither too small nor too great to be read. -/
theorem Between.bounds {v : ℚ} (between : Between m p v) (canonical : Canonical m p) :
    2 ^ (-1075 : ℤ) ≤ v ∧ v ≤ 2 ^ (1024 : ℤ) := by
  obtain ⟨pos, fits, least, greatest, -⟩ := canonical
  have gap := gapBelow_cases m p
  have above : (2 : ℚ) ≤ ((4 * m - gapBelow m p : ℤ) : ℚ) := by
    exact_mod_cast (by omega : (2 : ℤ) ≤ 4 * m - gapBelow m p)
  have below : ((4 * m + 2 : ℤ) : ℚ) ≤ 2 ^ (55 : ℤ) := by
    exact_mod_cast (by omega : (4 * m + 2 : ℤ) ≤ 2 ^ 55)
  constructor
  · calc (2 : ℚ) ^ (-1075 : ℤ) = 2 * 2 ^ (-1076 : ℤ) := by
          rw [← zpow_one_add₀ two_ne_zero]
          norm_num
      _ ≤ ((4 * m - gapBelow m p : ℤ) : ℚ) * 2 ^ (p - 2) :=
        mul_le_mul above (zpow_le_zpow_right₀ one_le_two (by omega)) (zpow_pos two_pos _).le
          (by linarith)
      _ ≤ v := between.above
  · calc v ≤ ((4 * m + 2 : ℤ) : ℚ) * 2 ^ (p - 2) := between.below
      _ ≤ 2 ^ (55 : ℤ) * 2 ^ (969 : ℤ) :=
        mul_le_mul below (zpow_le_zpow_right₀ one_le_two (by omega)) (zpow_pos two_pos _).le
          (zpow_pos two_pos _).le
      _ = 2 ^ (1024 : ℤ) := by
        rw [← zpow_add₀ two_ne_zero]
        norm_num

section

variable {m₁ m₂ : Nat} {p₁ p₂ : Int} {v : ℚ} {canonical₁ : Canonical m₁ p₁}
  {canonical₂ : Canonical m₂ p₂}

theorem double_mul (between : Between m p v) (value : v = m₁ * 2 ^ p₁ * (m₂ * 2 ^ p₂))
    (full : 2 ^ 52 ≤ m₁) : double canonical₁ * double canonical₂ = double canonical := by
  have enough : 2 ^ 52 ≤ m₁ * m₂ := Nat.le_trans full (Nat.le_mul_of_pos_right m₁ canonical₂.pos)
  change Float.ofModel (.pack (UnpackedFloat.mul .binary64 (double canonical₁).toModel.unpack
    (double canonical₂).toModel.unpack)) = _
  rw [unpack_double, unpack_double, mul_of_between canonical between value enough]
  rfl

theorem double_div (between : Between m p v) (value : v = m₁ * 2 ^ p₁ / (m₂ * 2 ^ p₂)) :
    double canonical₁ / double canonical₂ = double canonical := by
  change Float.ofModel (.pack (UnpackedFloat.div .binary64 (double canonical₁).toModel.unpack
    (double canonical₂).toModel.unpack)) = _
  rw [unpack_double, unpack_double, div_of_between canonical between value]
  rfl

end

/-- Up to fifteen digits and a small power of ten, the product or quotient of two doubles. -/
theorem fast_of_between (between : Between m p (n * 10 ^ e)) (some_digit : 0 < n)
    (fits : n < 2 ^ 53) (small : e.natAbs ≤ 22) :
    Float.ofScientific n (decide (e < 0)) e.natAbs = double canonical := by
  obtain ⟨m₁, p₁, canonical₁, full₁, value₁, double₁⟩ := toFloat_exact some_digit fits
  obtain ⟨m₂, p₂, canonical₂, full₂, value₂, double₂⟩ :=
    exists_double_of_isNumber (powers_exact ⟨e.natAbs, Nat.lt_succ_of_le small⟩)
  rw [Fin.getElem_fin] at double₂
  rw [Float.ofScientific, dif_pos ⟨fits, small⟩]
  dsimp only
  rw [double₁, double₂]
  rcases Int.lt_or_le e 0 with negative | natural
  · rw [if_pos (decide_eq_true negative)]
    refine double_div between ?_
    rw [value₁, value₂]
    push_cast
    rw [div_eq_mul_inv, ← zpow_natCast, ← zpow_neg]
    congr 2
    omega
  · rw [if_neg (by simpa using natural)]
    refine double_mul between ?_ full₁
    rw [value₁, value₂]
    push_cast
    rw [← zpow_natCast]
    congr 2
    omega

theorem two_zpow_le_ten {k : ℤ} (natural : 0 ≤ k) : (2 : ℚ) ^ (3 * k) ≤ 10 ^ k := by
  rw [zpow_mul]
  exact zpow_le_zpow_left₀ natural (by norm_num) (by norm_num)

theorem ten_zpow_le_two {k : ℤ} (negative : k ≤ 0) : (10 : ℚ) ^ k ≤ 2 ^ (3 * k) := by
  have inverse := two_zpow_le_ten (k := -k) (by omega)
  rw [mul_neg, zpow_neg, zpow_neg] at inverse
  exact (inv_le_inv₀ (zpow_pos two_pos _) (zpow_pos (by norm_num) _)).mp inverse

section

variable (canonical) (between : Between m p (n * 10 ^ e))

include between canonical

theorem Between.pos : 0 < n := by
  refine Nat.pos_of_ne_zero fun zero => ?_
  have lower := (between.bounds canonical).1
  rw [zero, Nat.cast_zero, zero_mul] at lower
  exact absurd lower (not_le.mpr (zpow_pos two_pos _))

theorem Between.le_of_le_two {k : ℤ} (small : (n : ℚ) * 10 ^ e ≤ 2 ^ k) : -1075 ≤ k :=
  (zpow_le_zpow_iff_right₀ one_lt_two).mp ((between.bounds canonical).1.trans small)

theorem Between.le_of_two_le {k : ℤ} (great : 2 ^ k ≤ (n : ℚ) * 10 ^ e) : k ≤ 1024 :=
  (zpow_le_zpow_iff_right₀ one_lt_two).mp (great.trans (between.bounds canonical).2)

/-- The exponent of ten is not so great that digits are not looked at. -/
theorem Between.exponent_le : e ≤ 1024 := by
  by_contra great
  have one_le : (1 : ℚ) ≤ n := by exact_mod_cast between.pos canonical
  have power := two_zpow_le_ten (k := e) (by omega)
  have := between.le_of_two_le canonical
    (power.trans (le_mul_of_one_le_left (zpow_pos (by norm_num) _).le one_le))
  omega

theorem Between.le_exponent : -(2048 + n.log2 : ℤ) ≤ e := by
  by_contra small
  have less : (n : ℚ) ≤ 2 ^ (n.log2 + 1 : ℤ) := by
    exact_mod_cast (Nat.lt_log2_self (n := n)).le
  have power := ten_zpow_le_two (k := e) (by omega)
  have := between.le_of_le_two canonical (k := n.log2 + 1 + 3 * e) (by
    rw [zpow_add₀ two_ne_zero]
    exact mul_le_mul less power (zpow_pos (by norm_num) _).le (zpow_pos two_pos _).le)
  omega

/-- The number of digits before the point is neither too small nor too great. -/
theorem Between.magnitude : -400 ≤ e + (digitText n).length ∧ e + (digitText n).length ≤ 400 := by
  have some_digit := between.pos canonical
  obtain ⟨len, len_eq⟩ : ∃ len, len = (digitText n).length := ⟨_, rfl⟩
  have len_pos : 0 < len := len_eq ▸ Nat.length_toDigits_pos
  have digits : ∀ k, 0 < k → (len ≤ k ↔ n < 10 ^ k) := fun k k_pos =>
    len_eq ▸ Nat.length_toDigits_le_iff (by decide) k_pos
  rw [← len_eq]
  constructor
  · by_contra small
    have less : (n : ℚ) ≤ 10 ^ (len : ℤ) := by
      exact_mod_cast ((digits len len_pos).mp (Nat.le_refl _)).le
    have power := ten_zpow_le_two (k := len + e) (by omega)
    have := between.le_of_le_two canonical (k := 3 * (len + e)) (by
      refine le_trans ?_ power
      rw [zpow_add₀ (by norm_num)]
      exact mul_le_mul_of_nonneg_right less (zpow_pos (by norm_num) _).le)
    omega
  · by_contra great
    have more : (10 : ℚ) ^ (len - 1 : ℤ) ≤ n := by
      rcases Nat.lt_or_ge 1 len with several | one
      · have atLeast := mt (digits (len - 1) (by omega)).mpr (by omega)
        have cast : (len - 1 : ℤ) = (len - 1 : ℕ) := by omega
        rw [cast, zpow_natCast]
        exact_mod_cast Nat.le_of_not_lt atLeast
      · obtain rfl : len = 1 := by omega
        have one_le : 1 ≤ n := some_digit
        simpa using one_le
    have power := two_zpow_le_ten (k := len - 1 + e) (by omega)
    have := between.le_of_two_le canonical (k := 3 * (len - 1 + e)) (by
      refine le_trans power ?_
      rw [zpow_add₀ (by norm_num)]
      exact mul_le_mul_of_nonneg_right more (zpow_pos (by norm_num) _).le)
    omega

theorem ofScientific_of_between :
    Float.Model.ofScientific n e = .pack (.finite .positive m p canonical.pos) := by
  have some_digit := between.pos canonical
  have greatest := between.exponent_le canonical
  have least := between.le_exponent canonical
  unfold Float.Model.ofScientific UnpackedFloat.ofScientific
  congr 1
  rw [dif_neg (Nat.ne_of_gt some_digit), if_neg (by change ¬(2 ^ 11 : ℤ) < e; omega),
    if_neg (by change ¬e < -((2 ^ 11 : ℤ) + n.log2); omega)]
  have bits : Format.binary64.mantissaBits = 53 := rfl
  split_ifs with natural
  · refine mul_of_between canonical between ?_ ?_
    · rw [bits, Nat.shiftLeft_eq, zpow_neg, zpow_natCast, zpow_zero, mul_one]
      push_cast
      rw [← zpow_natCast (10 : ℚ), Int.toNat_of_nonneg natural]
      field_simp
      norm_num
    · rw [bits, Nat.shiftLeft_eq]
      calc 2 ^ 52 ≤ 1 * 2 ^ 53 * 1 := by decide
        _ ≤ n * 2 ^ 53 * 10 ^ e.toNat :=
          Nat.mul_le_mul (Nat.mul_le_mul_right _ some_digit) (Nat.pow_pos (by decide))
  · refine div_of_between canonical between ?_
    rw [zpow_zero, mul_one, mul_one]
    push_cast
    rw [← zpow_natCast (10 : ℚ), Int.toNat_of_nonneg (by omega), zpow_neg, div_inv_eq_mul]

/-- A decimal between the midpoints around a double is read as the double. -/
theorem toFloat_of_between : toFloat n e = double canonical := by
  have magnitude := between.magnitude canonical
  unfold toFloat
  rw [if_neg (Nat.ne_of_gt (between.pos canonical))]
  dsimp only
  rw [if_neg (by omega), if_neg (by omega)]
  by_cases fast : n < 2 ^ 53 ∧ e.natAbs ≤ 22
  · exact fast_of_between between (between.pos canonical) fast.1 fast.2
  · have exponent : (if decide (e < 0) then Int.negOfNat e.natAbs else Int.ofNat e.natAbs) = e := by
      rw [Int.negOfNat_eq, Int.ofNat_eq_natCast]
      split_ifs with negative <;> simp only [decide_eq_true_eq] at negative <;> omega
    rw [Float.ofScientific, dif_neg fast]
    dsimp only
    rw [exponent, ofScientific_of_between canonical between]
    rfl

end

end

end Chatflow.Decimal
