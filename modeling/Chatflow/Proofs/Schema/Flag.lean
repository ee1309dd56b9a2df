import Chatflow.Proofs.Decimal.Binary
import Chatflow.Schema.Scalar

/-!
# Flags and truth

A flag is read from a truth value, from the numbers zero and one, and from a few texts. What it is
read as is what the value counts as in a condition, but for texts: all texts that are read as a flag
count as true.
-/

namespace Chatflow

open Float.Model

/-! ### Doubles that are zero -/

namespace Decimal

/-- A double counts as zero when it stands for zero, with any sign. -/
theorem beq_zero_iff {x : Float} :
    (x == 0.0) = true ↔ ∃ sign, x.toModel.unpack = .zero sign := by
  have unpacked : (0.0 : Float).toModel.unpack = .zero .positive := by rfl
  change x.toModel.unpack.beq (0.0 : Float).toModel.unpack = true ↔ _
  rw [unpacked]
  cases x.toModel.unpack with
  | zero sign => simp [UnpackedFloat.beq, UnpackedFloat.compare]
  | notANumber => simp [UnpackedFloat.beq, UnpackedFloat.compare]
  | infinity sign => cases sign <;> simp [UnpackedFloat.beq, UnpackedFloat.compare]
  | finite sign mantissa exponent pos =>
    cases sign <;> simp [UnpackedFloat.beq, UnpackedFloat.compare]

namespace Binary

theorem twoTo_pos (n : Nat) : 0 < twoTo n := Nat.two_pow_pos n

/-- The integer that a double is can only be zero when its mantissa is. -/
theorem toInt?_eq_zero_iff {negative : Bool} {mantissa : Nat} {exponent : Int} :
    (finite negative mantissa exponent).toInt? = some 0 ↔ mantissa = 0 := by
  have signed : ∀ magnitude? : Option Nat,
      (magnitude?.map fun n => if negative then -(n : Int) else n) = some 0 ↔
        magnitude? = some 0 := fun magnitude? => by
    cases magnitude? <;> cases negative <;> simp
  have pos : ∀ n, twoTo n ≠ 0 := fun n => Nat.ne_of_gt (twoTo_pos n)
  refine (signed _).trans ?_
  split_ifs with whole divides
  · rw [Option.some.injEq, Nat.mul_eq_zero, or_iff_left (pos _)]
  · rw [Option.some.injEq, Nat.div_eq_zero_iff]
    refine ⟨fun less => ?_, fun zero => .inr (zero ▸ twoTo_pos _)⟩
    exact Nat.eq_zero_of_dvd_of_lt (Nat.dvd_of_mod_eq_zero divides) (less.resolve_left (pos _))
  · refine iff_of_false nofun fun zero => divides ?_
    rw [zero, Nat.zero_mod]

/-- A double is the integer zero when it counts as zero. -/
theorem ofFloat_toInt?_eq_zero_iff {x : Float} :
    (ofFloat x).toInt? = some 0 ↔ (x == 0.0) = true := by
  rw [beq_zero_iff]
  rcases unpack_cases x with ⟨unpacked, parts⟩ | ⟨negative, unpacked, parts⟩ |
    ⟨negative, unpacked, parts⟩ |
    ⟨negative, m, p, canonical, unpacked, parts⟩ <;> rw [unpacked, parts]
  · exact iff_of_false nofun nofun
  · exact iff_of_false nofun nofun
  · exact iff_of_true (toInt?_eq_zero_iff.mpr rfl) ⟨_, rfl⟩
  · rw [toInt?_eq_zero_iff]
    exact iff_of_false (Nat.ne_of_gt canonical.pos) nofun

end Binary

end Decimal

/-! ### Flags -/

namespace Schema

theorem flagOfInt_eq_ok {v : Value} {n : Int} {b : Bool} (read : flagOfInt v n = .ok b) :
    n = 0 ∧ b = false ∨ n = 1 ∧ b = true := by
  unfold flagOfInt at read
  split at read
  · cases read
    exact .inl ⟨‹_›, rfl⟩
  · split at read
    · cases read
      exact .inr ⟨‹_›, rfl⟩
    · cases read

/-- What is read as a flag counts as that flag, or it is a text. -/
theorem truthy_of_flag {v : Value} {b : Bool} (read : flag v = .ok b) :
    v.truthy = (b || v.text?.isSome) := by
  cases v with
  | bool own =>
    cases read
    exact (Bool.or_false b).symm
  | int n => rcases flagOfInt_eq_ok read with ⟨rfl, rfl⟩ | ⟨rfl, rfl⟩ <;> rfl
  | float x =>
    have zero := Decimal.Binary.ofFloat_toInt?_eq_zero_iff (x := x)
    change (!(x == 0.0)) = (b || false)
    dsimp only [flag] at read
    cases whole : (Decimal.Binary.ofFloat x).toInt? with
    | none =>
      rw [whole] at read
      cases read
    | some n =>
      rw [whole] at read zero
      rcases flagOfInt_eq_ok read with ⟨rfl, rfl⟩ | ⟨rfl, rfl⟩
      · simp [zero.mp rfl]
      · simpa using mt zero.mpr nofun
  | str s =>
    have written : s ≠ "" := by
      rintro rfl
      cases read
    simpa [Value.truthy, Value.text?] using written
  | _ => cases read

end Schema

end Chatflow
