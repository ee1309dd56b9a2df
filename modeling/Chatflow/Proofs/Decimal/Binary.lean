import Chatflow.Proofs.Decimal.Nearest
import Chatflow.Decimal.Layout

/-!
# The parts of a double

What a double stands for says which double it is: its sign, its mantissa and its exponent are its
bits.
-/

namespace Chatflow.Decimal

open Float.Model Float.Model.UnpackedFloat

/-! ### Packing -/

theorem toBitVec_ofBitVec (b : BitVec 1) : (Sign.ofBitVec b).toBitVec = b := by
  revert b
  decide

theorem packComponents_unpack (b : BitVec 64) :
    packComponents .binary64 (.ofBitVec (@unpackSign .binary64 b)) (@unpackExponent .binary64 b)
      (@unpackMantissa .binary64 b) = b := by
  rw [packComponents, toBitVec_ofBitVec]
  ext i inside
  simp only [unpackSign, unpackExponent, unpackMantissa, BitVec.getElem_append]
  have bit : b.getLsbD i = b[i] := BitVec.getLsbD_eq_getElem inside
  split_ifs with fraction exponent
  · simpa using bit
  · have place : 52 + (i - 52) = i := by omega
    simpa [place] using bit
  · have place : 63 + (i - 52 - 11) = i := by omega
    simpa [place] using bit

section

variable {sign : Sign} {m : Nat} {p : Int} {pos : 0 < m}

theorem log2_of_full (full : 2 ^ 52 ≤ m) (fits : m < 2 ^ 53) : m.log2 = 52 := by
  have some_bit : m ≠ 0 := by omega
  have less := (Nat.log2_lt some_bit).mpr fits
  have more := (Nat.le_log2 some_bit).mpr full
  omega

theorem pack_subnormal (fits : m < 2 ^ 52) :
    UnpackedFloat.pack .binary64 (.finite sign m (-1074) pos) =
      packComponents .binary64 sign 0#11 (.ofNat 52 m) := by
  have bits : m.log2 < 52 := (Nat.log2_lt (Nat.ne_of_gt pos)).mpr fits
  have short : ¬m.log2 + 1 = Format.binary64.mantissaBits := by
    change ¬m.log2 + 1 = 53
    omega
  simp only [UnpackedFloat.pack]
  rw [if_neg (by decide), if_neg short]

theorem pack_normal (full : 2 ^ 52 ≤ m) (fits : m < 2 ^ 53) (least : -1074 ≤ p)
    (greatest : p ≤ 971) :
    UnpackedFloat.pack .binary64 (.finite sign m p pos) =
      packComponents .binary64 sign (.ofNat 11 (p + 1075).toNat) (.ofNat 52 m) := by
  have long : m.log2 + 1 = Format.binary64.mantissaBits := by rw [log2_of_full full fits]; rfl
  have bias : (Format.binary64.exponentBias : Int) = 1023 := rfl
  have biased :
      (p + Format.binary64.exponentBias + Format.binary64.mantissaBitsWithoutImplicit).toNat =
      (p + 1075).toNat := by
    rw [bias]
    change (p + 1023 + (52 : Nat)).toNat = _
    omega
  simp only [UnpackedFloat.pack]
  rw [biased, if_pos long, if_neg]
  omega

end

theorem toNat_leadingBit (m : BitVec 52) : (1#1 ++ m).toNat = 2 ^ 52 + m.toNat := by
  rw [BitVec.toNat_append, ← Nat.shiftLeft_add_eq_or_of_lt m.isLt]
  rfl

theorem ofNat_leadingBit (m : BitVec 52) : BitVec.ofNat 52 (2 ^ 52 + m.toNat) = m := by
  rw [BitVec.ofNat_add, BitVec.ofNat_toNat]
  simp

section

variable {b : BitVec 64} {pos : 0 < (@unpackMantissa .binary64 b).toNat}
  {pos' : 0 < 2 ^ 52 + (@unpackMantissa .binary64 b).toNat}

theorem pack_unpack_subnormal (least : @unpackExponent .binary64 b = 0#11) :
    UnpackedFloat.pack .binary64 (.finite (.ofBitVec (@unpackSign .binary64 b))
      (@unpackMantissa .binary64 b).toNat (-1074) pos) = b := by
  have parts := packComponents_unpack b
  rw [least] at parts
  rw [pack_subnormal (BitVec.isLt _), BitVec.ofNat_toNat]
  simpa using parts

theorem pack_unpack_normal (least : @unpackExponent .binary64 b ≠ 0#11)
    (largest : @unpackExponent .binary64 b ≠ -1#11) :
    UnpackedFloat.pack .binary64 (.finite (.ofBitVec (@unpackSign .binary64 b))
      (2 ^ 52 + (@unpackMantissa .binary64 b).toNat)
      ((@unpackExponent .binary64 b).toNat - 1075) pos') = b := by
  have some_exponent : (@unpackExponent .binary64 b).toNat ≠ 0 := fun zero =>
    least (BitVec.toNat_eq.mpr zero)
  have no_largest : (@unpackExponent .binary64 b).toNat ≠ 2047 := fun top =>
    largest (BitVec.toNat_eq.mpr top)
  have width : (@unpackExponent .binary64 b).toNat < 2 ^ 11 := BitVec.isLt _
  have fraction : (@unpackMantissa .binary64 b).toNat < 2 ^ 52 := BitVec.isLt _
  have biased : ((@unpackExponent .binary64 b).toNat - 1075 + 1075 : Int).toNat =
      (@unpackExponent .binary64 b).toNat := by omega
  rw [pack_normal (by omega) (by omega) (by omega) (by omega), ofNat_leadingBit, biased,
    BitVec.ofNat_toNat]
  simpa using packComponents_unpack b

end

theorem pack_unpack (x : Float.Model) : Float.Model.pack x.unpack = x := by
  obtain ⟨bits, valid⟩ := x
  have parts := packComponents_unpack bits.toBitVec
  suffices same : UnpackedFloat.pack .binary64 (UnpackedFloat.unpack .binary64 bits.toBitVec) =
      bits.toBitVec by
    unfold Float.Model.pack Float.Model.unpack
    congr 1
    exact congrArg UInt64.ofBitVec same
  have bias : (Format.binary64.exponentBias : Int) = 1023 := rfl
  unfold UnpackedFloat.unpack
  dsimp only
  split_ifs with largest fractionless least fractionless
  · rw [largest, fractionless] at parts
    exact parts
  · exact (valid.eq_packedNaN largest fractionless).symm
  · rw [least, fractionless] at parts
    exact parts
  · have exponent : ((@unpackExponent .binary64 bits.toBitVec).toNat : Int) -
        (Format.binary64.exponentBias + Format.binary64.mantissaBitsWithoutImplicit) + 1 =
          -1074 := by
      rw [least]
      rfl
    simp only [exponent]
    exact pack_unpack_subnormal least
  · have exponent : ((@unpackExponent .binary64 bits.toBitVec).toNat : Int) -
        (Format.binary64.exponentBias + Format.binary64.mantissaBitsWithoutImplicit) =
          (@unpackExponent .binary64 bits.toBitVec).toNat - 1075 := by
      rw [bias]
      rfl
    simp only [exponent, toNat_leadingBit]
    exact pack_unpack_normal least largest

def signOf (negative : Bool) : Sign := if negative then .negative else .positive

theorem ofBitVec_toBitVec (sign : Sign) : Sign.ofBitVec sign.toBitVec = sign := by
  cases sign <;> rfl

theorem unpackSign_packComponents (sign : Sign) (e : BitVec 11) (m : BitVec 52) :
    @unpackSign .binary64 (packComponents .binary64 sign e m) = sign.toBitVec := by
  change (sign.toBitVec ++ e ++ m).extractLsb' 63 1 = sign.toBitVec
  rw [BitVec.extractLsb'_append_eq_of_le (by decide),
    BitVec.extractLsb'_append_eq_of_le (by decide)]
  cases sign <;> rfl

section

variable {sign : Sign} {m : Nat} {p : Int} {pos : 0 < m}

theorem unpack_subnormal (short : m < 2 ^ 52) :
    UnpackedFloat.unpack .binary64 (packComponents .binary64 sign 0#11 (.ofNat 52 m)) =
      .finite sign m (-1074) pos := by
  have number : (BitVec.ofNat 52 m).toNat = m := Nat.mod_eq_of_lt short
  have some_bit : BitVec.ofNat 52 m ≠ 0#52 := fun none => by
    rw [none] at number
    exact Nat.ne_of_lt pos number
  unfold UnpackedFloat.unpack
  simp only [unpackExponent_packComponents, unpackMantissa_packComponents,
    unpackSign_packComponents, ofBitVec_toBitVec]
  rw [if_neg (by decide), if_pos trivial, dif_neg some_bit]
  simp only [number]
  rfl

theorem unpack_normal (full : 2 ^ 52 ≤ m) (fits : m < 2 ^ 53) (least : -1074 ≤ p)
    (greatest : p ≤ 971) :
    UnpackedFloat.unpack .binary64
      (packComponents .binary64 sign (.ofNat 11 (p + 1075).toNat) (.ofNat 52 m)) =
      .finite sign m p pos := by
  have biased : (BitVec.ofNat 11 (p + 1075).toNat).toNat = (p + 1075).toNat :=
    Nat.mod_eq_of_lt (by omega)
  have no_least : BitVec.ofNat 11 (p + 1075).toNat ≠ 0#11 := fun least => by
    have zero := biased.symm.trans (congrArg BitVec.toNat least)
    simp at zero
    omega
  have no_largest : BitVec.ofNat 11 (p + 1075).toNat ≠ -1#11 := fun largest => by
    have top : (p + 1075).toNat = 2047 := biased.symm.trans (congrArg BitVec.toNat largest)
    omega
  have fraction : (BitVec.ofNat 52 m).toNat = m - 2 ^ 52 := by
    rw [BitVec.toNat_ofNat, Nat.mod_eq_sub_mod full, Nat.mod_eq_of_lt (by omega)]
  unfold UnpackedFloat.unpack
  simp only [unpackExponent_packComponents, unpackMantissa_packComponents,
    unpackSign_packComponents, ofBitVec_toBitVec]
  rw [if_neg no_largest, if_neg no_least]
  have bias : (Format.binary64.exponentBias : Int) = 1023 := rfl
  have mantissa : 2 ^ 52 + (m - 2 ^ 52) = m := by omega
  have exponent : ((p + 1075).toNat : Int) - (1023 + (52 : Nat)) = p := by omega
  simp only [toNat_leadingBit, fraction, biased, bias, mantissa, exponent]

theorem unpack_of_pack (canonical : Canonical m p) :
    (Float.Model.pack (.finite sign m p canonical.pos)).unpack =
      .finite sign m p canonical.pos := by
  obtain ⟨pos, fits, least, greatest, full⟩ := canonical
  change UnpackedFloat.unpack .binary64 (UnpackedFloat.pack .binary64 (.finite sign m p pos)) = _
  rcases Nat.lt_or_ge m (2 ^ 52) with short | long
  · obtain rfl : p = -1074 := full.resolve_left (by omega)
    rw [pack_subnormal short, unpack_subnormal short]
  · rw [pack_normal long fits least greatest, unpack_normal long fits least greatest]

end

section

variable (x : Float)

theorem fraction_eq : (@unpackMantissa .binary64 x.toBits.toBitVec).toNat =
    x.toBits.toNat % Binary.leadingBit := by
  have leading : Binary.leadingBit = 4503599627370496 := rfl
  simp [unpackMantissa, leading]

theorem biased_eq : (@unpackExponent .binary64 x.toBits.toBitVec).toNat =
    x.toBits.toNat / Binary.leadingBit % 2048 := by
  have leading : Binary.leadingBit = 4503599627370496 := rfl
  simp [unpackExponent, Nat.shiftRight_eq_div_pow, leading]

theorem sign_eq : Sign.ofBitVec (@unpackSign .binary64 x.toBits.toBitVec) =
    signOf (x.toBits.toNat / twoTo 63 % 2 == 1) := by
  have top : (@unpackSign .binary64 x.toBits.toBitVec).toNat = x.toBits.toNat / twoTo 63 % 2 := by
    have power : twoTo 63 = 9223372036854775808 := rfl
    simp [unpackSign, Nat.shiftRight_eq_div_pow, power]
  have positive_iff : @unpackSign .binary64 x.toBits.toBitVec = 0#1 ↔
      x.toBits.toNat / twoTo 63 % 2 = 0 := by
    rw [BitVec.toNat_eq, top]
    rfl
  unfold Sign.ofBitVec signOf
  rcases Nat.mod_two_eq_zero_or_one (x.toBits.toNat / twoTo 63) with zero | one
  · rw [if_pos (positive_iff.mpr zero), zero]
    rfl
  · rw [if_neg fun none => by simp [positive_iff.mp none] at one, one]
    rfl

theorem largest_iff : @unpackExponent .binary64 x.toBits.toBitVec = -1#11 ↔
    x.toBits.toNat / Binary.leadingBit % 2048 = 2047 := by
  rw [BitVec.toNat_eq, biased_eq]
  rfl

theorem least_iff : @unpackExponent .binary64 x.toBits.toBitVec = 0#11 ↔
    x.toBits.toNat / Binary.leadingBit % 2048 = 0 := by
  rw [BitVec.toNat_eq, biased_eq]
  rfl

theorem fractionless_iff : @unpackMantissa .binary64 x.toBits.toBitVec = 0#52 ↔
    x.toBits.toNat % Binary.leadingBit = 0 := by
  rw [BitVec.toNat_eq, fraction_eq]
  rfl

/-- Everything that a double can be, and what it stands for. -/
theorem unpack_cases :
    x.toModel.unpack = .notANumber ∧ Binary.ofFloat x = .nan ∨
    (∃ negative, x.toModel.unpack = .infinity (signOf negative) ∧
      Binary.ofFloat x = .infinite negative) ∨
    (∃ negative, x.toModel.unpack = .zero (signOf negative) ∧
      Binary.ofFloat x = .finite negative 0 (-1074)) ∨
    ∃ negative m p, ∃ canonical : Canonical m p,
      x.toModel.unpack = .finite (signOf negative) m p canonical.pos ∧
        Binary.ofFloat x = .finite negative m p := by
  have fraction := fraction_eq x
  have biased := biased_eq x
  have leading : Binary.leadingBit = 2 ^ 52 := rfl
  have small : x.toBits.toNat % Binary.leadingBit < 2 ^ 52 := Nat.mod_lt _ (by decide)
  change UnpackedFloat.unpack .binary64 x.toBits.toBitVec = _ ∧ _ ∨
    (∃ negative, UnpackedFloat.unpack .binary64 x.toBits.toBitVec = _ ∧ _) ∨
    (∃ negative, UnpackedFloat.unpack .binary64 x.toBits.toBitVec = _ ∧ _) ∨
    ∃ negative m p, ∃ canonical : Canonical m p,
      UnpackedFloat.unpack .binary64 x.toBits.toBitVec = _ ∧ _
  unfold UnpackedFloat.unpack Binary.ofFloat Binary.ofBits
  dsimp only
  rw [sign_eq]
  by_cases largest : x.toBits.toNat / Binary.leadingBit % 2048 = 2047
  · rw [if_pos ((largest_iff x).mpr largest), if_pos largest]
    by_cases fractionless : x.toBits.toNat % Binary.leadingBit = 0
    · rw [if_pos ((fractionless_iff x).mpr fractionless), if_pos fractionless]
      exact .inr (.inl ⟨_, rfl, rfl⟩)
    · rw [if_neg (mt (fractionless_iff x).mp fractionless), if_neg fractionless]
      exact .inl ⟨rfl, rfl⟩
  rw [if_neg (mt (largest_iff x).mp largest), if_neg largest]
  refine .inr (.inr ?_)
  by_cases least : x.toBits.toNat / Binary.leadingBit % 2048 = 0
  · rw [if_pos ((least_iff x).mpr least), if_pos least]
    by_cases fractionless : x.toBits.toNat % Binary.leadingBit = 0
    · rw [dif_pos ((fractionless_iff x).mpr fractionless), fractionless]
      exact .inl ⟨_, rfl, rfl⟩
    · rw [dif_neg (mt (fractionless_iff x).mp fractionless)]
      have some_bit := Nat.pos_of_ne_zero fractionless
      refine .inr ⟨_, _, _, ⟨some_bit, by omega, by omega, by omega, .inr rfl⟩, ?_, rfl⟩
      simp only [fraction, biased, least]
      rfl
  · rw [if_neg (mt (least_iff x).mp least), if_neg least]
    refine .inr ⟨_, _, _, ⟨by omega, by omega, by omega, by omega, .inl (by omega)⟩, ?_, rfl⟩
    simp only [toNat_leadingBit, fraction, biased]
    rfl

end

end Chatflow.Decimal
