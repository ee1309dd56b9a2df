import Chatflow.Proofs.Json.Spaced
import Chatflow.Yaml.Document

/-!
# Documents on one line

What the reader of a document does on its first line: it passes over the blanks between tokens,
reads a text between double marks unit by unit, and an unquoted scalar up to the mark after it.
-/

namespace Chatflow

namespace Yaml

theorem codeChar_eq {unit : Text.Point} (fits : unit.val < 0x10000) :
    codeChar unit = .ok (Text.ofPoint unit) := by
  unfold codeChar Text.ofPoint
  split
  · rfl
  · rw [if_pos (by omega)]

/-! ### Cursors -/

namespace Cursor

/-- A place on the first line of a document that has named no node. -/
def inLine (i : Nat) (rest : List Char) : Cursor := ⟨i, 0, i, rest, []⟩

variable {i : Nat} {c d : Char} {cs rest : List Char}

@[simp] theorem index_inLine : (inLine i rest).index = i := rfl

@[simp] theorem line_inLine : (inLine i rest).line = 0 := rfl

@[simp] theorem column_inLine : (inLine i rest).column = i := rfl

@[simp] theorem rest_inLine : (inLine i rest).rest = rest := rfl

@[simp] theorem anchors_inLine : (inLine i rest).anchors = [] := rfl

theorem next_inLine (same : c ≠ '\n') : (inLine i (c :: rest)).next = inLine (i + 1) rest := by
  unfold next inLine
  split
  · contradiction
  · rename_i eq
    exact absurd (List.cons.inj eq).1 same
  · rename_i eq
    rw [(List.cons.inj eq).2]

theorem skip_inLine (oneLine : '\n' ∉ cs) :
    (inLine i (cs ++ rest)).skip cs.length = inLine (i + cs.length) rest := by
  induction cs generalizing i with
  | nil => rfl
  | cons c cs ih =>
    obtain ⟨other, oneLine⟩ := not_or.mp (mt List.mem_cons.mpr oneLine)
    rw [List.length_cons, skip, List.cons_append, next_inLine (Ne.symm other), ih oneLine,
      Nat.add_right_comm, Nat.add_assoc]

/-- A token begins with none of the characters that stand between tokens. -/
def Begins (c : Char) : Prop := c ≠ ' ' ∧ c ≠ '\n' ∧ c ≠ '#'

instance : Decidable (Begins c) := inferInstanceAs (Decidable (_ ∧ _))

theorem skipGap_inLine (begins : Begins c) (fuel : Nat) :
    skipGap fuel (inLine i (c :: rest)) = inLine i (c :: rest) := by
  obtain ⟨space, feed, comment⟩ := begins
  cases fuel with
  | zero => rfl
  | succ fuel =>
    unfold skipGap inLine
    split
    · exact absurd (List.cons.inj ‹_›).1 space
    · exact absurd (List.cons.inj ‹_›).1 feed
    · exact absurd (List.cons.inj ‹_›).1 comment
    · rfl

@[simp] theorem gap_inLine (begins : Begins c) :
    (inLine i (c :: rest)).gap = inLine i (c :: rest) := skipGap_inLine begins _

theorem gap_space (begins : Begins c) :
    (inLine i (' ' :: c :: rest)).gap = inLine (i + 1) (c :: rest) := skipGap_inLine begins _

end Cursor

open Cursor

/-! ### Texts between marks -/

section

variable {fuel i : Nat} {acc more : List Char}

theorem readDouble_unit {unit : Text.Point} (fits : unit.val < 0x10000) :
    readDouble (fuel + 1) acc (inLine i (Json.unitEscape unit ++ more)) =
      readDouble fuel (Text.ofPoint unit :: acc) (inLine (i + 6) more) := by
  have four : (Text.hexDigits unit 4).length = 4 := Json.length_hexDigits (by decide) fits
  have six := Json.length_unitEscape fits
  have digits : (Text.hexDigits unit 4 ++ more).take 4 = Text.hexDigits unit 4 :=
    List.take_left' four
  have oneLine : '\n' ∉ Json.unitEscape unit := fun mem =>
    absurd (Json.isPrintable_of_mem_unitEscape mem).1 (by decide)
  have past : skip (Json.unitEscape unit).length (inLine i (Json.unitEscape unit ++ more)) =
      inLine (i + (Json.unitEscape unit).length) more := skip_inLine oneLine
  rw [six] at past
  change skip 6 (inLine i ('\\' :: 'u' :: (Text.hexDigits unit 4 ++ more))) = _ at past
  change readDouble (fuel + 1) acc (inLine i ('\\' :: 'u' :: (Text.hexDigits unit 4 ++ more))) = _
  rw [readDouble]
  simp [namedEscape?, escapeWidth?, digits, four, Json.hexNumber?_hexDigits,
    codeChar_eq fits, past, Except.bind, bind]

theorem readDouble_named {e ch : Char} (escapes : namedEscape? e = some ch) (other : e ≠ '\n') :
    readDouble (fuel + 1) acc (inLine i ('\\' :: e :: more)) =
      readDouble fuel (ch :: acc) (inLine (i + 2) more) := by
  have past : skip 2 (inLine i ('\\' :: e :: more)) = inLine (i + 2) more :=
    skip_inLine (show '\n' ∉ ['\\', e] by simp [other.symm])
  rw [readDouble]
  simp [escapes, past]

theorem readDouble_plain {c : Char} (mark : c ≠ '"') (escape : c ≠ '\\')
    (blank : ¬(c = ' ' ∨ c = '\t' ∨ c = '\n')) :
    readDouble (fuel + 1) acc (inLine i (c :: more)) =
      readDouble fuel (c :: acc) (inLine (i + 1) more) := by
  have past : (inLine i (c :: more)).next = inLine (i + 1) more :=
    next_inLine fun feed => blank (.inr (.inr feed))
  rw [readDouble]
  simp [escape, blank, past]

theorem readDouble_units {units : List Text.Point} (fit : ∀ unit ∈ units, unit.val < 0x10000) :
    readDouble (fuel + units.length) acc (inLine i (units.flatMap Json.unitEscape ++ more)) =
      readDouble fuel ((units.map Text.ofPoint).reverse ++ acc)
        (inLine (i + (units.flatMap Json.unitEscape).length) more) := by
  induction units generalizing i acc with
  | nil => rfl
  | cons unit units ih =>
    have six := Json.length_unitEscape (fit unit (by simp))
    rw [List.length_cons, ← Nat.add_assoc, List.flatMap_cons, List.append_assoc,
      readDouble_unit (fit unit (by simp)), ih fun unit mem => fit unit (by simp [mem]),
      List.map_cons, List.reverse_cons, List.append_assoc, List.length_append, six, Nat.add_assoc i]
    rfl

/-- A code point that is no blank is read from its written form, unit by unit. -/
theorem readDouble_point {p : Text.Point} (other : Text.ofPoint p ≠ ' ') :
    readDouble (fuel + (Text.units p).length) acc
        (inLine i (Json.escapePoint .spaced p ++ more)) =
      readDouble fuel (((Text.units p).map Text.ofPoint).reverse ++ acc)
        (inLine (i + (Json.escapePoint .spaced p).length) more) := by
  have number := Text.le_toNat_ofPoint p
  rcases Json.escapePoint_cases p with ⟨e, form, named⟩ | form | ⟨form, printable, mark, escape⟩
  · have read : ∀ q ∈ Json.namedEscapes,
        namedEscape? q.1 = some q.2 ∧ q.1 ≠ '\n' ∧ q.2.toNat < 0x10000 := by decide
    obtain ⟨escapes, feed, small⟩ := read _ named
    rw [form, Text.units_of_small (Nat.lt_of_le_of_lt number small)]
    simpa using readDouble_named escapes feed
  · rw [form]
    exact readDouble_units fun unit mem => Text.unit_lt mem
  · have bounds := printable
    simp only [Json.isPrintable, Bool.and_eq_true, decide_eq_true_eq] at bounds
    have blank : ¬(Text.ofPoint p = ' ' ∨ Text.ofPoint p = '\t' ∨ Text.ofPoint p = '\n') := by
      rintro (same | same | same)
      · exact other same
      · exact absurd (same ▸ printable) (by decide)
      · exact absurd (same ▸ printable) (by decide)
    rw [form, Text.units_of_small (by omega)]
    simpa using readDouble_plain mark escape blank

theorem readDouble_spaces {n : Nat} {d : Char} (printable : Json.isPrintable d = true)
    (other : d ≠ ' ') :
    readDouble (fuel + 1) acc (inLine i (List.replicate (n + 1) ' ' ++ d :: more)) =
      readDouble fuel (List.replicate (n + 1) ' ' ++ acc) (inLine (i + (n + 1)) (d :: more)) := by
  have tab : d ≠ '\t' := by rintro rfl; exact absurd printable (by decide)
  have feed : d ≠ '\n' := by rintro rfl; exact absurd printable (by decide)
  have spaces : (List.replicate (n + 1) ' ' ++ d :: more).takeWhile
      (fun ch => ch = ' ' || ch = '\t') = List.replicate (n + 1) ' ' := by
    rw [List.takeWhile_append_of_pos fun ch mem => by simp [List.eq_of_mem_replicate mem],
      List.takeWhile_cons_of_neg (by simp [other, tab]), List.append_nil]
  have past : skip (n + 1) (inLine i (List.replicate (n + 1) ' ' ++ d :: more)) =
      inLine (i + (n + 1)) (d :: more) := by
    have oneLine : '\n' ∉ List.replicate (n + 1) ' ' := fun mem =>
      absurd (List.eq_of_mem_replicate mem) (by decide)
    simpa only [List.length_replicate] using skip_inLine oneLine
  have separation : quotedSeparation (inLine i (List.replicate (n + 1) ' ' ++ d :: more)) =
      some (List.replicate (n + 1) ' ', inLine (i + (n + 1)) (d :: more)) := by
    unfold quotedSeparation
    simp only [rest_inLine, spaces, List.length_replicate, past]
    split
    · exact absurd (List.cons.inj ‹_›).1 feed
    · rfl
  have reversed : (List.replicate (n + 1) ' ').reverse = List.replicate (n + 1) ' ' :=
    List.reverse_replicate
  rw [List.replicate_succ] at reversed
  rw [List.replicate_succ, List.cons_append] at separation ⊢
  rw [readDouble]
  simp only [rest_inLine, separation, reversed]
  rfl

end

theorem ofPoint_eq_blank {p : Text.Point} (blank : Text.ofPoint p = ' ') : p = 0x20 := by
  have number := Text.toNat_ofPoint p
  rw [blank] at number
  refine Fin.ext ?_
  split_ifs at number with surrogate
  · have offset : Text.carrierOffset = 0x100000 := rfl
    have space : ' '.toNat = 0x20 := rfl
    omega
  · exact number.symm

/-- The first character of a text that does not begin with a blank, or the mark that ends it. -/
theorem exists_cons_of_escaped {text : List Text.Point} (other : text.head? ≠ some 0x20)
    (rest : List Char) :
    ∃ d more, text.flatMap (Json.escapePoint .spaced) ++ '"' :: rest = d :: more ∧
      Json.isPrintable d = true ∧ d ≠ ' ' := by
  cases text with
  | nil => exact ⟨'"', rest, rfl, by decide⟩
  | cons p text =>
    have first : Text.ofPoint p ≠ ' ' := fun blank => other (by rw [ofPoint_eq_blank blank]; rfl)
    obtain ⟨d, more, form⟩ := List.exists_cons_of_ne_nil (Json.escapePoint_ne_nil .spaced p)
    have facts := Json.isPrintable_of_mem_escapePoint (p := p) (d := d) (by rw [form]; simp)
    refine ⟨d, more ++ (text.flatMap (Json.escapePoint .spaced) ++ '"' :: rest), ?_, facts.1,
      facts.2 first⟩
    rw [List.flatMap_cons, form, List.append_assoc]
    rfl

theorem exists_run (text : List Text.Point) :
    ∃ n tail, text = List.replicate n 0x20 ++ tail ∧ tail.head? ≠ some 0x20 := by
  induction text with
  | nil => exact ⟨0, [], rfl, nofun⟩
  | cons p text ih =>
    by_cases blank : p = 0x20
    · obtain ⟨n, tail, rfl, other⟩ := ih
      exact ⟨n + 1, tail, by rw [blank]; rfl, other⟩
    · exact ⟨0, p :: text, rfl, by simpa using blank⟩

theorem flatMap_run (n : Nat) :
    (List.replicate n (0x20 : Text.Point)).flatMap (Json.escapePoint .spaced) =
      List.replicate n ' ' := by
  have own : Json.escapePoint .spaced 0x20 = [' '] := rfl
  rw [List.flatMap_replicate, own, List.flatten_replicate_singleton]

theorem length_units_le (p : Text.Point) :
    (Text.units p).length ≤ (Json.escapePoint .spaced p).length := by
  have number := Text.le_toNat_ofPoint p
  rcases Json.escapePoint_cases p with ⟨e, form, named⟩ | form | ⟨form, printable, -, -⟩ <;>
    rw [form]
  · have small : ∀ q ∈ Json.namedEscapes, q.2.toNat < 0x10000 := by decide
    rw [Text.units_of_small (Nat.lt_of_le_of_lt number (small _ named))]
    exact Nat.le_succ 1
  · exact Text.length_le_flatMap (fun _ => List.cons_ne_nil _ _) _
  · simp only [Json.isPrintable, Bool.and_eq_true, decide_eq_true_eq] at printable
    rw [Text.units_of_small (by omega)]
    exact Nat.le_refl 1

/-- A text is read up to its closing mark, unit by unit. -/
theorem readDouble_escaped {fuel i : Nat} {acc : List Char} {text : List Text.Point}
    {rest : List Char} (enough : (text.flatMap (Json.escapePoint .spaced)).length < fuel) :
    readDouble fuel acc (inLine i (text.flatMap (Json.escapePoint .spaced) ++ '"' :: rest)) =
      .ok (acc.reverse ++ (text.flatMap Text.units).map Text.ofPoint,
        inLine (i + (text.flatMap (Json.escapePoint .spaced)).length + 1) rest) := by
  -- Blanks are read in runs, so the induction is on the length.
  induction measured : text.length using Nat.strongRecOn generalizing fuel i acc text with
  | ind size ih =>
    obtain ⟨fuel, rfl⟩ := Nat.exists_eq_succ_of_ne_zero (Nat.ne_zero_of_lt enough)
    cases text with
    | nil =>
      have past : (inLine i ('"' :: rest)).next = inLine (i + 1) rest := next_inLine (by decide)
      rw [List.flatMap_nil, List.nil_append, readDouble]
      simp [past]
    | cons p text =>
      by_cases blank : p = 0x20
      · obtain ⟨n, tail, run, other⟩ := exists_run text
        have whole : p :: text = List.replicate (n + 1) 0x20 ++ tail := by rw [blank, run]; rfl
        have shorter : tail.length < size := by
          rw [← measured, whole, List.length_append, List.length_replicate]
          omega
        have spaces : ((List.replicate (n + 1) (0x20 : Text.Point)).flatMap Text.units).map
            Text.ofPoint = List.replicate (n + 1) ' ' := by
          have own : Text.units 0x20 = [0x20] := rfl
          rw [List.flatMap_replicate, own, List.flatten_replicate_singleton, List.map_replicate]
          rfl
        obtain ⟨d, more, next, printable, visible⟩ := exists_cons_of_escaped other rest
        rw [whole, List.flatMap_append, flatMap_run, List.length_append,
          List.length_replicate] at enough
        rw [whole, List.flatMap_append, flatMap_run, List.append_assoc, next,
          Nat.succ_eq_add_one, readDouble_spaces printable visible, ← next,
          ih tail.length shorter (by omega) rfl, List.flatMap_append, List.map_append, spaces]
        simp [Nat.add_assoc]
      · have few := length_units_le p
        rw [List.flatMap_cons, List.length_append] at enough
        obtain ⟨left, split⟩ :=
          Nat.exists_eq_add_of_le (show (Text.units p).length ≤ fuel.succ by omega)
        rw [List.flatMap_cons, List.append_assoc, split, Nat.add_comm,
          readDouble_point fun same => blank (ofPoint_eq_blank same),
          ih text.length (by rw [← measured]; exact Nat.lt_succ_self _) (by omega) rfl]
        simp [Nat.add_assoc]

end Yaml

end Chatflow
