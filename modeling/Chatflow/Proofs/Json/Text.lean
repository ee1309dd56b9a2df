import Chatflow.Json.Reader
import Chatflow.Json.Writer
import Chatflow.Proofs.Text.Unit
import Mathlib.Algebra.Group.Nat.Defs

/-!
# Texts in JSON

A text is read back from the form in which it is written, and so is an entry with a text.
-/

namespace Chatflow

theorem forall_of_all {α : Type} {p : α → Prop} [DecidablePred p] {xs : List α}
    (all : xs.all (fun x => decide (p x)) = true) : ∀ x ∈ xs, p x := by
  simpa using all

/-! ### Digits -/

namespace Json

theorem mem_toDigits {b n : Nat} {c : Char} (big : 1 < b) (mem : c ∈ Nat.toDigits b n) :
    ∃ d < b, c = d.digitChar := by
  induction n using Nat.strongRecOn with
  | ind n ih =>
    rw [Nat.toDigits_eq_if big] at mem
    split at mem
    · rename_i small
      exact ⟨n, small, List.mem_singleton.mp mem⟩
    · rename_i large
      rcases List.mem_append.mp mem with front | last
      · exact ih (n / b) (Nat.div_lt_self (by omega) big) front
      · exact ⟨n % b, Nat.mod_lt n (by omega), List.mem_singleton.mp last⟩

theorem hexValue?_digitChar {d : Nat} (small : d < 16) : hexValue? d.digitChar = some d := by
  revert d
  decide

theorem hexNumber?_append (cs ds : List Char) :
    hexNumber? (cs ++ ds) =
      (hexNumber? cs).bind fun n =>
        ds.foldlM (fun acc c => (hexValue? c).map (acc * 16 + ·)) n := by
  rw [hexNumber?, List.foldlM_append]
  rfl

theorem hexNumber?_toDigits (n : Nat) : hexNumber? (Nat.toDigits 16 n) = some n := by
  induction n using Nat.strongRecOn with
  | ind n ih =>
    rw [Nat.toDigits_eq_if (by decide)]
    split
    · rename_i small
      simp [hexNumber?, hexValue?_digitChar small]
    · rename_i large
      rw [hexNumber?_append, ih (n / 16) (by omega)]
      simp [hexValue?_digitChar (Nat.mod_lt n (by decide)), Nat.div_add_mod']

theorem hexNumber?_replicate (n : Nat) : hexNumber? (List.replicate n '0') = some 0 := by
  induction n with
  | zero => rfl
  | succ n ih => exact ih

/-- Digits that fill a width stand for their number. -/
theorem hexNumber?_hexDigits (n width : Nat) : hexNumber? (Text.hexDigits n width) = some n := by
  unfold Text.hexDigits
  rw [hexNumber?_append, hexNumber?_replicate]
  exact hexNumber?_toDigits n

theorem length_hexDigits {n width : Nat} (pos : 0 < width) (fits : n < 16 ^ width) :
    (Text.hexDigits n width).length = width := by
  have short := (Nat.length_toDigits_le_iff (b := 16) (by decide) pos).mpr fits
  simp only [Text.hexDigits, List.length_append, List.length_replicate]
  omega

theorem unit?_hexDigits {n : Nat} (fits : n < 0x10000) (rest : List Char) :
    unit? (Text.hexDigits n 4 ++ rest) = some (n, rest) := by
  have number := hexNumber?_hexDigits n 4
  have four : (Text.hexDigits n 4).length = 4 := length_hexDigits (by decide) fits
  match Text.hexDigits n 4, number, four with
  | [a, b, c, d], number, _ => simp [unit?, number]

/-! ### Texts -/

theorem unitEscape?_control {p : Text.Point} (control : p.val < 0x20) (lone : Bool)
    (rest : List Char) :
    unitEscape? lone (Text.hexDigits p 4 ++ rest) = some (Text.ofPoint p, rest) := by
  have high : Text.isHighSurrogate p = false := by
    simp only [Text.isHighSurrogate, Bool.and_eq_false_iff, decide_eq_false_iff_not]
    omega
  have lonely : Text.isSurrogate p = false := by
    simp only [Text.isSurrogate, Bool.and_eq_false_iff, decide_eq_false_iff_not]
    omega
  simp [unitEscape?, unit?_hexDigits (by omega : p.val < 0x10000), high, lonely, Text.ofPoint]

/-- A code point is read from its written form. -/
theorem readText_escapePoint (lone : Bool) (fuel : Nat) (acc : List Char) (p : Text.Point)
    (rest : List Char) :
    readText lone (fuel + 1) acc (escapePoint .compact p ++ rest) =
      readText lone fuel (Text.ofPoint p :: acc) rest := by
  by_cases marked : Text.ofPoint p = '"' ∨ Text.ofPoint p = '\\'
  · rcases marked with same | same <;> simp [escapePoint, same, readText, shortEscape?]
  by_cases short : Text.ofPoint p = '\n' ∨ Text.ofPoint p = '\r' ∨ Text.ofPoint p = '\t' ∨
      Text.ofPoint p = '\x08' ∨ Text.ofPoint p = '\x0c'
  · rcases short with same | same | same | same | same <;>
      simp [escapePoint, same, readText, shortEscape?]
  obtain ⟨quotation, backslash⟩ := not_or.mp marked
  simp only [not_or] at short
  by_cases control : p.val < 0x20
  · have form : escapePoint .compact p = '\\' :: 'u' :: Text.hexDigits p 4 := by
      simp [escapePoint, short, quotation, backslash, control,
        Text.units_of_small (by omega : p.val < 0x10000), unitEscape]
    rw [form, List.cons_append, List.cons_append, readText]
    simp [unitEscape?_control control]
  · have form : escapePoint .compact p = [Text.ofPoint p] := by
      simp [escapePoint, short, quotation, backslash, control, Style.compact]
    have visible : ¬(Text.ofPoint p).toNat < 0x20 := fun small =>
      control (Nat.lt_of_le_of_lt (Text.le_toNat_ofPoint p) small)
    rw [form, List.singleton_append, readText]
    · simp [visible]
    · exact quotation
    · exact fun _ same => absurd same backslash
    · exact fun _ _ same => absurd same backslash

/-- A text is read up to its closing mark. -/
theorem readText_escaped (lone : Bool) {fuel : Nat} (acc : List Char) (text : List Text.Point)
    (rest : List Char) (enough : text.length < fuel) :
    readText lone fuel acc (text.flatMap (escapePoint .compact) ++ '"' :: rest) =
      some (acc.reverse ++ text.map Text.ofPoint, rest) := by
  induction text generalizing fuel acc with
  | nil =>
    obtain ⟨fuel, rfl⟩ := Nat.exists_eq_succ_of_ne_zero (Nat.ne_of_gt enough)
    simp [readText]
  | cons p text ih =>
    obtain ⟨fuel, rfl⟩ := Nat.exists_eq_succ_of_ne_zero (Nat.ne_zero_of_lt enough)
    rw [List.flatMap_cons, List.append_assoc, Nat.succ_eq_add_one, readText_escapePoint,
      ih (Text.ofPoint p :: acc) (Nat.lt_of_succ_lt_succ enough), List.reverse_cons,
      List.append_assoc, List.singleton_append, List.map_cons]

theorem escapePoint_ne_nil (style : Style) (p : Text.Point) : escapePoint style p ≠ [] := by
  obtain ⟨unit, more, form⟩ := List.exists_cons_of_ne_nil (Text.units_ne_nil p)
  simp only [escapePoint]
  split_ifs <;> simp [form, unitEscape]

theorem length_le_escaped (style : Style) (text : List Text.Point) :
    text.length ≤ (text.flatMap (escapePoint style)).length :=
  Text.length_le_flatMap (escapePoint_ne_nil style) text

theorem toList_quotePoints (style : Style) (text : List Text.Point) :
    (quotePoints style text).toList = '"' :: (text.flatMap (escapePoint style) ++ ['"']) := by
  simp [quotePoints]

theorem readText_quote (lone : Bool) (s : String) (rest : List Char) :
    ∃ body, (quote .compact s).toList ++ rest = '"' :: body ∧
      readText lone (body.length + 1) [] body = some (s.toList, rest) := by
  have long := length_le_escaped .compact (Text.points s)
  refine ⟨(Text.points s).flatMap (escapePoint .compact) ++ '"' :: rest,
    by simp [quote, toList_quotePoints], ?_⟩
  rw [← Text.map_ofPoint_points s]
  refine readText_escaped lone [] (Text.points s) rest ?_
  rw [List.length_append]
  omega

theorem readValue_quote (lone : Bool) (fuel : Nat) (s : String) (rest : List Char) :
    readValue lone (fuel + 1) ((quote .compact s).toList ++ rest) = some (.str s, rest) := by
  obtain ⟨body, form, reads⟩ := readText_quote lone s rest
  rw [form, readValue, reads]
  simp

theorem skipSpace_quote (s : String) (rest : List Char) :
    skipSpace ((quote .compact s).toList ++ rest) = (quote .compact s).toList ++ rest := by
  rw [quote, toList_quotePoints]
  rfl

theorem readValue_brace (lone : Bool) (fuel : Nat) (key : String) (rest : List Char) :
    readValue lone (fuel + 1) ('\x7b' :: ((quote .compact key).toList ++ rest)) =
      readEntries lone fuel [] ((quote .compact key).toList ++ rest) := by
  rw [readValue, skipSpace_quote, quote, toList_quotePoints]
  rfl

section

variable (lone : Bool) (fuel : Nat) (acc : Entries Value) (key s : String) (rest : List Char)

theorem readEntries_comma :
    readEntries lone (fuel + 2) acc ((quote .compact key).toList ++ ':' ::
        ((quote .compact s).toList ++ ',' :: rest)) =
      readEntries lone (fuel + 1) (acc.put key (.str s)) (skipSpace rest) := by
  have colon : ∀ cs, skipSpace (':' :: cs) = ':' :: cs := fun _ => rfl
  have comma : ∀ cs, skipSpace (',' :: cs) = ',' :: cs := fun _ => rfl
  obtain ⟨body, form, reads⟩ := readText_quote lone key
    (':' :: ((quote .compact s).toList ++ ',' :: rest))
  rw [form, readEntries, reads]
  simp only [colon, comma, skipSpace_quote, readValue_quote, String.ofList_toList]

theorem readEntries_brace :
    readEntries lone (fuel + 2) acc ((quote .compact key).toList ++ ':' ::
        ((quote .compact s).toList ++ '\x7d' :: rest)) =
      some (.obj (acc.put key (.str s)), rest) := by
  have colon : ∀ cs, skipSpace (':' :: cs) = ':' :: cs := fun _ => rfl
  have brace : ∀ cs, skipSpace ('\x7d' :: cs) = '\x7d' :: cs := fun _ => rfl
  obtain ⟨body, form, reads⟩ := readText_quote lone key
    (':' :: ((quote .compact s).toList ++ '\x7d' :: rest))
  rw [form, readEntries, reads]
  simp only [colon, brace, skipSpace_quote, readValue_quote, String.ofList_toList]

end

end Json

end Chatflow
