import Chatflow.Proofs.Decimal.Reading

/-!
# The shortest digits

The digits that are chosen for a double lie between the midpoints around it, so they are read back
as the double. Seventeen digits are always enough.
-/

namespace Chatflow.Decimal

/-! ### Comparisons -/

section

variable {a b : Nat} {p t : Int}

theorem geScaled_iff : geScaled a p b t = true ↔ (b : ℚ) * 10 ^ t ≤ a * 2 ^ p := by
  rw [zpow_eq_div (by norm_num : (10 : ℚ) ≠ 0), zpow_eq_div two_ne_zero, mul_div_assoc',
    mul_div_assoc', div_le_div_iff₀ (by positivity) (by positivity), geScaled, decide_eq_true_eq]
  exact_mod_cast Iff.rfl

theorem leScaled_iff : leScaled a p b t = true ↔ (a : ℚ) * 2 ^ p ≤ b * 10 ^ t := by
  rw [zpow_eq_div (by norm_num : (10 : ℚ) ≠ 0), zpow_eq_div two_ne_zero, mul_div_assoc',
    mul_div_assoc', div_le_div_iff₀ (by positivity) (by positivity), leScaled, decide_eq_true_eq]
  exact_mod_cast Iff.rfl

end

variable {m : Nat} {p : Int}

/-- Digits are read back when they lie between the midpoints. -/
theorem readsBack_iff (pos : 0 < m) {d : Nat} {t : Int} :
    readsBack m p d t = true ↔ Between m p (d * 10 ^ t) := by
  have gap : gapBelow m p = if m = Binary.leadingBit ∧ -1074 < p then 1 else 2 := rfl
  have low : ((4 * m - gapBelow m p : ℕ) : ℚ) = ((4 * m - gapBelow m p : ℤ) : ℚ) := by
    have := gapBelow_cases m p
    rw [Nat.cast_sub (by omega)]
    push_cast
    rfl
  have high : ((4 * m + 2 : ℕ) : ℚ) = ((4 * m + 2 : ℤ) : ℚ) := by push_cast; rfl
  unfold readsBack
  rw [← gap]
  dsimp only
  split_ifs with even
  · rw [Bool.and_eq_true, leScaled_iff, geScaled_iff, low, high]
    exact ⟨fun ⟨above, below⟩ => ⟨above, below, fun odd => by omega⟩,
      fun between => ⟨between.above, between.below⟩⟩
  · rw [Bool.and_eq_true, Bool.not_eq_true', Bool.not_eq_true', ← Bool.not_eq_true,
      ← Bool.not_eq_true, leScaled_iff, geScaled_iff, low, high, not_le, not_le]
    exact ⟨fun ⟨above, below⟩ => ⟨above.le, below.le, fun _ => ⟨above, below⟩⟩,
      fun between => between.tie (by omega)⟩

/-! ### Seventeen digits -/

/-- The estimate of the decimal exponent is never too great by more than one. -/
theorem estimate_le :
    ∀ i : Fin 2098, geScaled 1 ((i : Int) - 1074) 1 (((i : Int) - 1074) * 30103 / 100000 - 1) =
      true := by
  decide +kernel

theorem decimalExponent_le (canonical : Canonical m p) :
    (10 : ℚ) ^ decimalExponent m p ≤ m * 2 ^ p := by
  obtain ⟨pos, fits, least, greatest, -⟩ := canonical
  unfold decimalExponent
  dsimp only
  split_ifs with above same
  · simpa using geScaled_iff.mp above
  · simpa using geScaled_iff.mp same
  · have bits : m.log2 < 53 := (Nat.log2_lt (Nat.ne_of_gt pos)).mpr fits
    have estimate := estimate_le ⟨((m.log2 : Int) + p + 1074).toNat, by omega⟩
    have back : (((m.log2 : Int) + p + 1074).toNat : Int) - 1074 = m.log2 + p := by omega
    dsimp only at estimate
    rw [back, geScaled_iff, Nat.cast_one, one_mul, one_mul] at estimate
    refine estimate.trans ?_
    rw [zpow_add₀ two_ne_zero, zpow_natCast]
    exact mul_le_mul_of_nonneg_right (by exact_mod_cast Nat.log2_self_le (Nat.ne_of_gt pos))
      (zpow_pos two_pos _).le

theorem floorScaled_bounds {t : Int} :
    (floorScaled m p t : ℚ) * 10 ^ t ≤ m * 2 ^ p ∧
      (m : ℚ) * 2 ^ p < ((floorScaled m p t + 1 : ℕ) : ℚ) * 10 ^ t := by
  have den_pos : 0 < tenTo t.toNat * twoTo (-p).toNat :=
    Nat.mul_pos (Nat.pow_pos (by decide)) (Nat.pow_pos (by decide))
  have low : floorScaled m p t * (tenTo t.toNat * twoTo (-p).toNat) ≤
      m * twoTo p.toNat * tenTo (-t).toNat := Nat.div_mul_le_self _ _
  have high : m * twoTo p.toNat * tenTo (-t).toNat <
      (floorScaled m p t + 1) * (tenTo t.toNat * twoTo (-p).toNat) :=
    (Nat.div_lt_iff_lt_mul den_pos).mp (Nat.lt_succ_self _)
  rw [← Nat.mul_assoc] at low high
  refine ⟨geScaled_iff.mp (decide_eq_true low), ?_⟩
  rw [← not_le, ← geScaled_iff, geScaled, decide_eq_true_eq]
  exact Nat.not_le.mpr high

/-- Of the two numbers of seventeen digits around a double, one is read back. -/
theorem exists_seventeen (canonical : Canonical m p) {t : Int}
    (t_eq : t = decimalExponent m p - 16) :
    Between m p (floorScaled m p t * 10 ^ t) ∨
      Between m p ((floorScaled m p t + 1 : ℕ) * 10 ^ t) := by
  obtain ⟨low, high⟩ := floorScaled_bounds (m := m) (p := p) (t := t)
  have exponent := decimalExponent_le canonical
  have unit_pos : (0 : ℚ) < 2 ^ (p - 2) := zpow_pos two_pos _
  by_contra neither
  obtain ⟨not_low, not_high⟩ := not_or.mp neither
  obtain ⟨above, below⟩ := self_between m p
  have far_low := not_lt.mp fun near => not_low (.of_lt near (low.trans_lt below))
  have far_high := not_lt.mp fun near => not_high (.of_lt (above.trans high) near)
  -- Then a step of the grid spans the midpoints, and the double has too many bits.
  have step : ((4 * m + 2 : ℤ) - (4 * m - gapBelow m p : ℤ) : ℚ) * 2 ^ (p - 2) ≤ 10 ^ t := by
    rw [Nat.cast_add, Nat.cast_one, add_mul, one_mul] at far_high
    rw [sub_mul]
    linarith
  have great : (10 : ℚ) ^ 16 * 10 ^ t ≤ ((4 * m : ℤ) : ℚ) * 2 ^ (p - 2) := by
    rw [← quarters_eq, ← zpow_natCast, ← zpow_add₀ (by norm_num), t_eq]
    simpa using exponent
  have spans : ((10 ^ 16 * ((4 * m + 2) - (4 * m - gapBelow m p)) : ℤ) : ℚ) ≤ (4 * m : ℤ) := by
    refine le_of_mul_le_mul_right (le_trans ?_ great) unit_pos
    push_cast at step ⊢
    rw [mul_assoc]
    exact mul_le_mul_of_nonneg_left step (by norm_num)
  have spans :
      (10 ^ 16 * ((4 * m + 2) - (4 * m - gapBelow m p)) : ℤ) ≤ 4 * m := by exact_mod_cast spans
  have fits := canonical.fits
  have gap := gapBelow_cases m p
  omega

theorem between_of_onGrid? (pos : 0 < m) {t : Int} {d : Digits} (found : onGrid? m p t = some d) :
    Between m p (d.digits * 10 ^ d.exponent) := by
  unfold onGrid? at found
  dsimp only at found
  split at found
  · cases found
    exact (readsBack_iff pos).mp ‹_›
  · cases found
    exact (readsBack_iff pos).mp ‹_›
  · cases found
  · rename_i low high
    cases found
    have either : ∀ up : Bool,
        Between m p
          (((if up then floorScaled m p t + 1 else floorScaled m p t : ℕ) : ℚ) * 10 ^ t) := by
      rintro (_ | _)
      · exact (readsBack_iff pos).mp low
      · exact (readsBack_iff pos).mp high
    exact either _

/-- On a grid where nothing is found neither of the two numbers around the double is read back. -/
theorem not_between_of_onGrid? (pos : 0 < m) {t : Int} (none_found : onGrid? m p t = none) :
    ¬(Between m p (floorScaled m p t * 10 ^ t) ∨
      Between m p ((floorScaled m p t + 1 : ℕ) * 10 ^ t)) := by
  rw [← readsBack_iff pos, ← readsBack_iff pos]
  unfold onGrid? at none_found
  dsimp only at none_found
  split at none_found
  · cases none_found
  · cases none_found
  · rename_i low high
    rw [low, high]
    simp
  · cases none_found

/-- The shortest digits are read back. -/
theorem between_shortest (canonical : Canonical m p) :
    Between m p ((shortest m p).digits * 10 ^ (shortest m p).exponent) := by
  have pos := canonical.pos
  unfold shortest
  dsimp only
  cases found :
    ((List.range 17).map fun (n : Nat) => decimalExponent m p - n).findSome? (onGrid? m p) with
  | some d =>
    obtain ⟨t, -, on_grid⟩ := List.exists_of_findSome?_eq_some found
    exact between_of_onGrid? pos on_grid
  | none =>
    have none_found := List.findSome?_eq_none_iff.mp found (decimalExponent m p - 16)
      (List.mem_map.mpr ⟨16, by decide, rfl⟩)
    exact absurd (exists_seventeen canonical rfl) (not_between_of_onGrid? pos none_found)

/-- A double is read from its shortest digits, however they are written as a number. -/
theorem toFloat_shortest (canonical : Canonical m p) {n : Nat} {e : Int}
    (same : (n : ℚ) * 10 ^ e = (shortest m p).digits * 10 ^ (shortest m p).exponent) :
    toFloat n e = double canonical :=
  toFloat_of_between canonical (same ▸ between_shortest canonical)

end Chatflow.Decimal
