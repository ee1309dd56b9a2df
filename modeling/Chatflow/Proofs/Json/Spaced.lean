import Chatflow.Proofs.Json.Datum
import Chatflow.Proofs.Json.Text

/-!
# JSON on one line

The characters of a value that is written on one line, part by part. All of them are printable ASCII
characters: what is not is escaped.
-/

namespace Chatflow

namespace Json

/-! ### Parts of a line -/

def line (d : Datum) : List Char := d.write.toList

/-- The characters of a text between its marks. -/
def quoteLine (text : List Text.Point) : List Char := (quotePoints .spaced text).toList

def entryLine (e : List Text.Point × Datum) : List Char := quoteLine e.1 ++ ':' :: ' ' :: line e.2

/-- Parts with a comma between them. -/
def joined (parts : List (List Char)) : List Char := [',', ' '].intercalate parts

@[simp] theorem joined_nil : joined [] = [] := rfl

@[simp] theorem joined_singleton (part : List Char) : joined [part] = part :=
  List.intercalate_singleton

theorem joined_cons_cons (first second : List Char) (more : List (List Char)) :
    joined (first :: second :: more) = first ++ ',' :: ' ' :: joined (second :: more) := by
  rw [joined, List.intercalate_cons_cons, List.append_assoc]
  rfl

theorem enclose_spaced (level : Nat) (opening closing : String) (parts : List String) :
    enclose .spaced level opening closing parts = opening ++ ", ".intercalate parts ++ closing := by
  cases parts with
  | nil => rw [enclose, String.intercalate_nil, String.append_empty]
  | cons part parts => rfl

theorem writeItems_eq_map (items : List Datum) :
    Datum.writeItems items = items.map Datum.write := by
  induction items with
  | nil => rfl
  | cons d items ih => rw [Datum.writeItems, ih, List.map_cons]

theorem writeEntries_eq_map (entries : Members) :
    Datum.writeEntries entries =
      entries.map fun e => quotePoints .spaced e.1 ++ ": " ++ e.2.write := by
  induction entries with
  | nil => rfl
  | cons e entries ih =>
    rw [Datum.writeEntries, ih, List.map_cons]
    rfl

theorem toList_enclose (opening closing : Char) (parts : List String) :
    (enclose .spaced 0 opening.toString closing.toString parts).toList =
      opening :: (joined (parts.map String.toList) ++ [closing]) := by
  rw [enclose_spaced, String.toList_append, String.toList_append, String.toList_intercalate,
    List.append_assoc]
  change (String.singleton opening).toList ++ (_ ++ (String.singleton closing).toList) = _
  rw [String.toList_singleton, String.toList_singleton]
  rfl

theorem line_list (items : List Datum) :
    line (.list items) = '[' :: (joined (items.map line) ++ [']']) := by
  have written := toList_enclose '[' ']' (Datum.writeItems items)
  rw [writeItems_eq_map, List.map_map] at written
  rw [line, Datum.write, writeItems_eq_map]
  exact written

theorem line_obj (entries : Members) :
    line (.obj entries) = '\x7b' :: (joined (entries.map entryLine) ++ ['\x7d']) := by
  have written := toList_enclose '\x7b' '\x7d' (Datum.writeEntries entries)
  have entry : String.toList ∘ (fun e : List Text.Point × Datum =>
      quotePoints .spaced e.1 ++ ": " ++ e.2.write) = entryLine := funext fun e => by
    rw [Function.comp, String.toList_append, String.toList_append, List.append_assoc]
    rfl
  rw [writeEntries_eq_map, List.map_map, entry] at written
  rw [line, Datum.write, writeEntries_eq_map]
  exact written

/-! ### Values as data -/

mutual

/-- A value that is a datum is written as the datum, at every level. -/
theorem writeAt_of_datum? : ∀ (v : Value) {d : Datum} (level : Nat), v.datum? = some d →
    writeAt .spaced level v = d.write
  | .null, _, _, found | .bool _, _, _, found | .float _, _, _, found | .str _, _, _, found => by
    obtain rfl := Option.some.inj found
    rfl
  | .int n, _, _, found => by
    unfold Value.datum? at found
    split at found
    · obtain rfl := Option.some.inj found
      rfl
    · cases found
  | .list items, _, level, found => by
    obtain ⟨data, inner, rfl⟩ := Option.map_eq_some_iff.mp found
    rw [writeAt, writeItems_of_dataOf? items (level + 1) inner, enclose_spaced, Datum.write,
      enclose_spaced]
  | .obj entries, _, level, found => by
    obtain ⟨members, inner, rfl⟩ := Option.map_eq_some_iff.mp found
    rw [writeAt, writeEntries_of_membersOf? entries (level + 1) inner, enclose_spaced, Datum.write,
      enclose_spaced]
  | .stamp _, _, _, found => nomatch found
  | .keyed _, _, _, found => nomatch found

theorem writeItems_of_dataOf? : ∀ (items : List Value) {data : List Datum} (level : Nat),
    Value.dataOf? items = some data → writeItems .spaced level items = Datum.writeItems data
  | [], _, _, found => by
    obtain rfl := Option.some.inj found
    rfl
  | v :: items, _, level, found => by
    obtain ⟨d, data, first, others, rfl⟩ := Value.dataOf?_cons_eq_some_iff.mp found
    rw [writeItems, writeAt_of_datum? v level first, writeItems_of_dataOf? items level others]
    rfl

theorem writeEntries_of_membersOf? : ∀ (entries : List (String × Value)) {members : Members}
    (level : Nat), Value.membersOf? entries = some members →
    writeEntries .spaced level entries = Datum.writeEntries members
  | [], _, _, found => by
    obtain rfl := Option.some.inj found
    rfl
  | (name, v) :: entries, _, level, found => by
    obtain ⟨d, members, first, others, rfl⟩ := Value.membersOf?_cons_eq_some_iff.mp found
    rw [writeEntries, writeAt_of_datum? v level first,
      writeEntries_of_membersOf? entries level others]
    rfl

end

theorem write_of_datum? {v : Value} {d : Datum} (found : v.datum? = some d) :
    write .spaced v = d.write := writeAt_of_datum? v 0 found

/-! ### Characters of a line -/

def isPrintable (c : Char) : Bool := 0x20 ≤ c.toNat && c.toNat ≤ 0x7e

/-- Characters with an escape of their own, each after the character that names it. -/
def namedEscapes : List (Char × Char) :=
  [('"', '"'), ('\\', '\\'), ('n', '\n'), ('r', '\r'), ('t', '\t'), ('b', '\x08'), ('f', '\x0c')]

/-- Everything that the written form of a code point can be. -/
theorem escapePoint_cases (p : Text.Point) :
    (∃ e, escapePoint .spaced p = ['\\', e] ∧ (e, Text.ofPoint p) ∈ namedEscapes) ∨
    escapePoint .spaced p = (Text.units p).flatMap unitEscape ∨
    escapePoint .spaced p = [Text.ofPoint p] ∧ isPrintable (Text.ofPoint p) = true ∧
      Text.ofPoint p ≠ '"' ∧ Text.ofPoint p ≠ '\\' := by
  have number := Text.toNat_ofPoint p
  unfold escapePoint
  generalize Text.ofPoint p = c at number ⊢
  by_cases named : c = '"' ∨ c = '\\' ∨ c = '\n' ∨ c = '\r' ∨ c = '\t' ∨ c = '\x08' ∨ c = '\x0c'
  · rcases named with rfl | rfl | rfl | rfl | rfl | rfl | rfl <;>
      exact .inl ⟨_, rfl, by decide⟩
  simp only [not_or] at named
  by_cases unprintable : p.val < 0x20 ∨ 0x7e < p.val
  · refine .inr (.inl ?_)
    simp [named, Style.spaced, unprintable]
  · refine .inr (.inr ⟨?_, ?_, named.1, named.2.1⟩)
    · simp [named, Style.spaced, unprintable]
    · have own : Text.isSurrogate p = false := by
        simp only [Text.isSurrogate, Bool.and_eq_false_iff, decide_eq_false_iff_not]
        omega
      rw [own, if_neg Bool.false_ne_true] at number
      simp only [isPrintable, Bool.and_eq_true, decide_eq_true_eq]
      omega

theorem length_unitEscape {unit : Text.Point} (fits : unit.val < 0x10000) :
    (unitEscape unit).length = 6 := by
  rw [unitEscape, List.length_cons, List.length_cons, length_hexDigits (by decide) fits]

theorem isPrintable_of_mem_unitEscape {unit : Text.Point} {c : Char} (mem : c ∈ unitEscape unit) :
    isPrintable c = true ∧ c ≠ ' ' := by
  have digit : ∀ d < 16, isPrintable d.digitChar = true ∧ d.digitChar ≠ ' ' := by decide
  unfold unitEscape Text.hexDigits at mem
  simp only [List.mem_cons, List.mem_append, List.mem_replicate] at mem
  rcases mem with rfl | rfl | ⟨-, rfl⟩ | mem
  · decide
  · decide
  · decide
  · obtain ⟨d, small, rfl⟩ := mem_toDigits (by decide) mem
    exact digit d small

theorem isPrintable_of_mem_escapePoint {p : Text.Point} {d : Char}
    (mem : d ∈ escapePoint .spaced p) :
    isPrintable d = true ∧ (Text.ofPoint p ≠ ' ' → d ≠ ' ') := by
  rcases escapePoint_cases p with ⟨e, form, named⟩ | form | ⟨form, printable, -, -⟩ <;>
    rw [form] at mem
  · have marks : ∀ p ∈ namedEscapes, isPrintable p.1 = true ∧ p.1 ≠ ' ' := by decide
    simp only [List.mem_cons, List.not_mem_nil, or_false] at mem
    rcases mem with rfl | rfl
    · exact ⟨rfl, fun _ => by decide⟩
    · exact ⟨(marks _ named).1, fun _ => (marks _ named).2⟩
  · obtain ⟨unit, -, mem⟩ := List.mem_flatMap.mp mem
    exact ⟨(isPrintable_of_mem_unitEscape mem).1, fun _ => (isPrintable_of_mem_unitEscape mem).2⟩
  · rw [List.mem_singleton.mp mem]
    exact ⟨printable, id⟩

theorem quoteLine_eq (text : List Text.Point) :
    quoteLine text = '"' :: (text.flatMap (escapePoint .spaced) ++ ['"']) :=
  toList_quotePoints .spaced text

theorem isPrintable_of_mem_quoteLine {text : List Text.Point} {c : Char}
    (mem : c ∈ quoteLine text) :
    isPrintable c = true := by
  rw [quoteLine_eq] at mem
  simp only [List.mem_cons, List.mem_append, List.mem_flatMap, List.not_mem_nil, or_false] at mem
  rcases mem with rfl | ⟨p, -, mem⟩ | rfl
  · decide
  · exact (isPrintable_of_mem_escapePoint mem).1
  · decide

end Json

end Chatflow
