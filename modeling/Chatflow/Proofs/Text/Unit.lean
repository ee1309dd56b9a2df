import Chatflow.Text.Unit
import Mathlib.Tactic.ByContra
import Mathlib.Tactic.SplitIfs

/-!
# Texts by code points and by units

A text of characters is given by its code points. Unit by unit, each code point with two units
becomes two lone ones.
-/

namespace Chatflow

namespace Text

/-! ### Characters and code points -/

theorem not_isSurrogate (c : Char) : isSurrogate c.toNat = false := by
  have valid : c.toNat < 0xD800 ∨ 0xDFFF < c.toNat ∧ c.toNat < 0x110000 := c.valid
  simp only [isSurrogate, Bool.and_eq_false_iff, decide_eq_false_iff_not]
  omega

@[simp] theorem ofPoint_point (c : Char) : ofPoint (point c) = c := by
  have value : (point c).val = code c := rfl
  unfold ofPoint
  rw [value]
  unfold code carriedUnit?
  split
  · rename_i carries
    rw [Option.getD_some, if_pos carries.2, carryUnit, Nat.sub_add_cancel carries.1,
      Char.ofNat_toNat]
  · rw [Option.getD_none, not_isSurrogate, if_neg Bool.false_ne_true, Char.ofNat_toNat]

theorem map_ofPoint_points (s : String) : (points s).map ofPoint = s.toList := by
  rw [points, List.map_map]
  exact List.map_id'' ofPoint_point s.toList

theorem points_injective {s t : String} (same : points s = points t) : s = t := by
  have chars := congrArg (List.map ofPoint) same
  rw [map_ofPoint_points, map_ofPoint_points] at chars
  exact String.toList_injective chars

theorem toNat_ofPoint (p : Point) :
    (ofPoint p).toNat = if isSurrogate p then p + carrierOffset else p := by
  have offset : carrierOffset = 0x100000 := rfl
  have bound := p.isLt
  unfold ofPoint
  split_ifs with surrogate
  · simp only [isSurrogate, Bool.and_eq_true, decide_eq_true_eq] at surrogate
    have valid : (p.val + carrierOffset).isValidChar := .inr ⟨by omega, by omega⟩
    rw [carryUnit, Char.ofNat, dif_pos valid]
    rfl
  · simp only [isSurrogate, Bool.and_eq_true, decide_eq_true_eq] at surrogate
    have valid : p.val.isValidChar := by
      unfold Nat.isValidChar
      omega
    rw [Char.ofNat, dif_pos valid]
    rfl

theorem le_toNat_ofPoint (p : Point) : p.val ≤ (ofPoint p).toNat := by
  rw [toNat_ofPoint]
  split
  · exact Nat.le_add_right _ _
  · exact Nat.le_refl _

/-! ### Units -/

theorem units_of_small {p : Point} (small : p.val < 0x10000) : units p = [p] := if_pos small

theorem units_ne_nil (p : Point) : units p ≠ [] := by
  unfold units
  split <;> exact List.cons_ne_nil _ _

theorem length_le_flatMap {α β : Type} {f : α → List β} (not_nil : ∀ x, f x ≠ []) (xs : List α) :
    xs.length ≤ (xs.flatMap f).length := by
  induction xs with
  | nil => exact Nat.le_refl _
  | cons x xs ih =>
    have first := List.length_pos_iff.mpr (not_nil x)
    rw [List.flatMap_cons, List.length_append, List.length_cons]
    omega

/-- The text of characters that is read unit by unit. -/
def byUnits (text : List Point) : String := String.ofList ((text.flatMap units).map ofPoint)

/-- Whether no code point of a text has two units. -/
def isBasic (text : List Point) : Bool := text.all fun p => decide (p.val < 0x10000)

theorem unit_lt {p unit : Point} (mem : unit ∈ units p) : unit.val < 0x10000 := by
  have bound := p.isLt
  unfold units at mem
  split_ifs at mem with small
  · rw [List.mem_singleton.mp mem]
    exact small
  · simp only [List.mem_cons, List.not_mem_nil, or_false] at mem
    rcases mem with rfl | rfl <;> simp only <;> omega

theorem point_ofPoint {p : Point} (small : p.val < 0x10000) : point (ofPoint p) = p := by
  refine Fin.ext ?_
  change code (ofPoint p) = p.val
  have offset : carrierOffset = 0x100000 := rfl
  have number := toNat_ofPoint p
  unfold code carriedUnit?
  rw [number]
  split_ifs with surrogate carries other
  · rw [Option.getD_some, Nat.add_sub_cancel]
  · exact absurd ⟨Nat.le_add_left _ _, by rwa [Nat.add_sub_cancel]⟩ carries
  · omega
  · rw [Option.getD_none]

/-- What is read unit by unit are the units. -/
theorem points_byUnits (text : List Point) : points (byUnits text) = text.flatMap units := by
  rw [byUnits, points, String.toList_ofList, List.map_map]
  calc (text.flatMap units).map (point ∘ ofPoint)
    _ = (text.flatMap units).map id := List.map_congr_left fun unit mem => by
      obtain ⟨p, -, among⟩ := List.mem_flatMap.mp mem
      exact point_ofPoint (unit_lt among)
    _ = text.flatMap units := List.map_id _

/-- A text stays as it is unit by unit if and only if no code point of it has two units. -/
theorem flatMap_units_eq_iff {text : List Point} :
    text.flatMap units = text ↔ isBasic text = true := by
  constructor
  · intro same
    have long := congrArg List.length same
    clear same
    induction text with
    | nil => rfl
    | cons p text ih =>
      have rest := length_le_flatMap units_ne_nil text
      rw [List.flatMap_cons, List.length_append, List.length_cons] at long
      by_cases small : p.val < 0x10000
      · rw [units_of_small small, List.length_singleton] at long
        simpa [isBasic, small] using ih (by omega)
      · have two : (units p).length = 2 := by rw [units, if_neg small]; rfl
        omega
  · intro basic
    induction text with
    | nil => rfl
    | cons p text ih =>
      simp only [isBasic, List.all_cons, Bool.and_eq_true, decide_eq_true_eq] at basic
      rw [List.flatMap_cons, units_of_small basic.1, ih basic.2, List.singleton_append]

theorem points_byUnits_eq_iff {text : List Point} :
    points (byUnits text) = text ↔ isBasic text = true := by
  rw [points_byUnits, flatMap_units_eq_iff]

/-- A private-use character has two units even where it carries a lone one in a text of
characters. -/
example : units 0x10D800 = [0xDBF6, 0xDC00] ∧ isBasic [0x10D800] = false := by decide

/-! ### Names of the first characters -/

variable {name : String} (first : ∀ c ∈ name.toList, c.toNat < 0x10000)

include first

theorem code_of_small {c : Char} (mem : c ∈ name.toList) : (point c).val = c.toNat := by
  have small := first c mem
  have offset : carrierOffset = 0x100000 := rfl
  change code c = c.toNat
  unfold code carriedUnit?
  rw [if_neg (by omega), Option.getD_none]

theorem byUnits_points : byUnits (points name) = name := by
  have basic : isBasic (points name) = true := by
    refine List.all_eq_true.mpr fun p mem => ?_
    obtain ⟨c, among, rfl⟩ := List.mem_map.mp mem
    rw [code_of_small first among]
    exact decide_eq_true (first c among)
  exact points_injective (points_byUnits_eq_iff.mpr basic)

/-- A name of the first characters is read from no other text. -/
theorem eq_points_of_byUnits {text : List Point} (same : byUnits text = name) :
    text = points name := by
  have basic : isBasic text = true := by
    refine List.all_eq_true.mpr fun p mem => decide_eq_true ?_
    by_contra large
    -- The first half of a code point with two units is carried by a character beyond the first
    -- ones.
    have bound := p.isLt
    obtain ⟨half, among, surrogate⟩ : ∃ half ∈ units p, isSurrogate half.val = true := by
      rw [units, if_neg large]
      refine ⟨_, List.mem_cons_self, ?_⟩
      simp only [isSurrogate, Bool.and_eq_true, decide_eq_true_eq]
      omega
    have carried : ofPoint half ∈ name.toList := by
      rw [← same, byUnits, String.toList_ofList]
      exact List.mem_map_of_mem (List.mem_flatMap.mpr ⟨p, mem, among⟩)
    have small := first _ carried
    have offset : carrierOffset = 0x100000 := rfl
    rw [toNat_ofPoint, if_pos surrogate] at small
    omega
  rw [← same, points_byUnits_eq_iff.mpr basic]

end Text

end Chatflow
