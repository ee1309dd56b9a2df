import Chatflow.Proofs.Yaml.Collections
import Chatflow.Proofs.Yaml.Float

/-!
# JSON as a document

A datum that is written as JSON on one line is read as a document. The tree of the document has the
shape of the datum; what becomes of its scalars is a matter of their texts.
-/

namespace Chatflow

/-! ### Data by parts -/

namespace Json

namespace Datum

mutual

/-- Whether a condition holds of all scalars of a datum, and one of the names of all objects in
it. -/
def every (scalar : Datum → Bool) (names : List (List Text.Point) → Bool) : Datum → Bool
  | .list items => everyItem scalar names items
  | .obj entries => names (entries.map (·.1)) && everyEntry scalar names entries
  | d => scalar d

def everyItem (scalar : Datum → Bool) (names : List (List Text.Point) → Bool) : List Datum → Bool
  | [] => true
  | d :: rest => every scalar names d && everyItem scalar names rest

def everyEntry (scalar : Datum → Bool) (names : List (List Text.Point) → Bool) :
    List (List Text.Point × Datum) → Bool
  | [] => true
  | (_, d) :: rest => every scalar names d && everyEntry scalar names rest

end

def hasDistinctNames : Datum → Bool := every (fun _ => true) fun names => decide names.Nodup

/-- A name that stands on one line with its colon for the reader of a document. -/
def isShortName (name : List Text.Point) : Bool := decide ((quoteLine name).length ≤ 1024)

def hasShortNames : Datum → Bool := every (fun _ => true) (·.all isShortName)

end Datum

end Json

namespace Yaml

open Cursor hiding line
open Decimal
open Json (Datum Members)

/-! ### Trees -/

mutual

def tree : Datum → Node
  | .str text => .scalar .unspecific true (Text.byUnits text)
  | .list items => .sequence .unspecific (trees items)
  | .obj entries => .mapping .unspecific (treePairs entries)
  | d => .scalar .unspecific false d.write

def trees : List Datum → List Node
  | [] => []
  | d :: rest => tree d :: trees rest

def treePairs : List (List Text.Point × Datum) → List (Node × Node)
  | [] => []
  | (name, d) :: rest =>
    (.scalar .unspecific true (Text.byUnits name), tree d) :: treePairs rest

end

/-! ### Words -/

structure IsWord (cs : List Char) : Prop where
  words : ∀ c ∈ cs, isWordChar c = true
  more_than_sign : ∃ c ∈ cs, c ≠ '-'

namespace IsWord

variable {cs : List Char} (word : IsWord cs)

include word

theorem ne_nil : cs ≠ [] := by
  obtain ⟨c, mem, -⟩ := word.more_than_sign
  exact List.ne_nil_of_mem mem

theorem ne_sign : cs ≠ ['-'] := by
  obtain ⟨c, mem, other⟩ := word.more_than_sign
  rintro rfl
  exact other (List.mem_singleton.mp mem)

end IsWord

theorem isWordChar_of_isDigit {c : Char} (digit : Json.isDigit c = true) : isWordChar c = true := by
  have alphanumeric : c.isAlphanum = true := by
    simp only [Json.isDigit, Bool.and_eq_true, decide_eq_true_eq] at digit
    simp [Char.isAlphanum, Char.isDigit]
    exact .inr digit
  rw [isWordChar, alphanumeric]
  rfl

theorem isWordChar_of_mem_exponent {e : Int} {c : Char} (mem : c ∈ exponentText e) :
    isWordChar c = true := by
  obtain ⟨ds, form, -, digits, -⟩ := digits_exponent e
  rw [form] at mem
  rcases List.mem_cons.mp mem with rfl | mem
  · decide
  rcases List.mem_cons.mp mem with rfl | mem
  · split_ifs <;> decide
  · exact isWordChar_of_isDigit (digits c mem)

theorem isWord_render {d : Char} {ds : List Char} (digits : Digits (d :: ds)) (point : Int) :
    IsWord (Layout.shortest.render (d :: ds) point) := by
  have digit : ∀ {cs}, Digits cs → ∀ c ∈ cs, isWordChar c = true := fun digits c mem =>
    isWordChar_of_isDigit (digits c mem)
  by_cases pointed : '.' ∈ Layout.shortest.render (d :: ds) point
  · refine ⟨fun c mem => ?_, '.', pointed, by decide⟩
    obtain ⟨whole, fraction, rest, e, form, laid, -⟩ := laidOut_render digits pointed
    rw [laid] at mem
    simp only [List.mem_append, List.mem_cons] at mem
    rcases mem with before | rfl | after | last
    · exact digit form.whole_digits c before
    · decide
    · exact digit form.fraction_digits c after
    · rcases form.exponent with ⟨rfl, -⟩ | rfl
      · cases last
      · exact isWordChar_of_mem_exponent last
  · rw [render_pointless pointed]
    refine ⟨fun c mem => ?_, 'e', by simp [exponentText], by decide⟩
    rcases List.mem_cons.mp mem with rfl | mem
    · exact digit digits c (by simp)
    · exact isWordChar_of_mem_exponent mem

theorem IsWord.signed {cs : List Char} (word : IsWord cs) (negative : Bool) :
    IsWord (signText negative ++ cs) := by
  obtain ⟨words, c, mem, other⟩ := word
  refine ⟨fun c mem => ?_, c, List.mem_append_right _ mem, other⟩
  rcases List.mem_append.mp mem with sign | mem
  · cases negative with
    | false => cases sign
    | true =>
      rw [List.mem_singleton.mp sign]
      decide
  · exact words c mem

theorem isWord_floatText (x : Float) : IsWord (Json.floatText x).toList := by
  rcases floatText_cases x with nan | ⟨negative, infinite⟩ | ⟨negative, -, zero⟩ |
    ⟨negative, m, p, canonical, -, finite⟩
  · rw [nan]
    exact ⟨forall_of_all (by decide), 'N', by decide, by decide⟩
  · rw [infinite]
    cases negative <;> exact ⟨forall_of_all (by decide), 'I', by decide, by decide⟩
  · rw [zero]
    cases negative <;> exact ⟨forall_of_all (by decide), '0', by decide, by decide⟩
  · obtain ⟨d, ds, dropped, -, digits, -⟩ := written_digits canonical
    rw [finite, dropped]
    exact (isWord_render digits _).signed negative

theorem isWord_null : IsWord (Json.line .null) :=
  ⟨forall_of_all (by decide), 'n', by decide, by decide⟩

theorem isWord_bool : ∀ b, IsWord (Json.line (.bool b))
  | true => ⟨forall_of_all (by decide), 't', by decide, by decide⟩
  | false => ⟨forall_of_all (by decide), 'f', by decide, by decide⟩

theorem isWord_int (n : Int) : IsWord (toString n).toList := by
  have digits : ∀ m, IsWord (Nat.toDigits 10 m) := fun m => by
    obtain ⟨c, more, form⟩ := List.exists_cons_of_ne_nil (Nat.toDigits_ne_nil (n := m) (b := 10))
    have digit : ∀ c ∈ Nat.toDigits 10 m, Json.isDigit c = true := fun c mem =>
      isDigit_of_mem_toDigits mem
    refine ⟨fun c mem => isWordChar_of_isDigit (digit c mem), c, by simp [form], ?_⟩
    rintro rfl
    exact absurd (digit '-' (by simp [form])) (by decide)
  rw [Int.toString_eq_repr, Int.repr_eq_if]
  split
  · exact Nat.toList_repr ▸ digits _
  · have signed :
        ("-" ++ Nat.repr (-n).toNat).toList = signText true ++ Nat.toDigits 10 (-n).toNat := by
      rw [String.toList_append, Nat.toList_repr]
      rfl
    exact signed ▸ (digits _).signed true

/-! ### Lines -/

open Json (entryLine line quoteLine joined)

theorem exists_cons_of_line (d : Datum) : ∃ c cs, line d = c :: cs ∧ opensValue c = true := by
  have word : ∀ {cs}, IsWord cs → ∃ c more, cs = c :: more ∧ opensValue c = true := fun word => by
    obtain ⟨c, more, form⟩ := List.exists_cons_of_ne_nil word.ne_nil
    exact ⟨c, more, form, opensValue_of_isWordChar (word.words c (by simp [form]))⟩
  cases d with
  | null => exact word isWord_null
  | bool b => exact word (isWord_bool b)
  | int n few => exact word (isWord_int n)
  | float x => exact word (isWord_floatText x)
  | str text => exact ⟨'"', _, Json.quoteLine_eq text, rfl⟩
  | list items => exact ⟨'[', _, Json.line_list items, rfl⟩
  | obj entries => exact ⟨'\x7b', _, Json.line_obj entries, rfl⟩

theorem hasShortNames_cons_list {d : Datum} {items : List Datum} :
    (Datum.list (d :: items)).hasShortNames =
      (d.hasShortNames && (Datum.list items).hasShortNames) := rfl

theorem hasShortNames_cons_obj {name : List Text.Point} {d : Datum} {entries : Members} :
    (Datum.obj ((name, d) :: entries)).hasShortNames =
      (Datum.isShortName name && d.hasShortNames && (Datum.obj entries).hasShortNames) := by
  simp only [Datum.hasShortNames, Datum.every, Datum.everyEntry, List.map_cons, List.all_cons]
  simp only [Bool.and_assoc, Bool.and_left_comm]

theorem exists_cons_of_items (d : Datum) (items : List Datum) :
    ∃ c cs, joined ((d :: items).map line) = c :: cs ∧ opensValue c = true := by
  obtain ⟨c, cs, form, opens⟩ := exists_cons_of_line d
  cases items with
  | nil => exact ⟨c, cs, by simpa using form, opens⟩
  | cons e items =>
    exact ⟨c, _, by rw [List.map_cons, List.map_cons, Json.joined_cons_cons, form]; rfl, opens⟩

theorem gap_items (items : List Datum) (i : Nat) (rest : List Char) :
    (inLine i (joined (items.map line) ++ ']' :: rest)).gap =
      inLine i (joined (items.map line) ++ ']' :: rest) := by
  cases items with
  | nil => exact gap_inLine (by decide)
  | cons d items =>
    obtain ⟨c, cs, form, opens⟩ := exists_cons_of_items d items
    rw [form]
    exact gap_inLine (begins_of_opensValue opens)

theorem exists_cons_of_entries (e : List Text.Point × Datum) (entries : Members) :
    ∃ cs, joined ((e :: entries).map entryLine) = '"' :: cs := by
  have form := Json.quoteLine_eq e.1
  cases entries with
  | nil => exact ⟨_, by rw [List.map_singleton, Json.joined_singleton, entryLine, form]; rfl⟩
  | cons f entries =>
    exact ⟨_, by rw [List.map_cons, List.map_cons, Json.joined_cons_cons, entryLine, form]; rfl⟩

theorem gap_entries (entries : Members) (i : Nat) (rest : List Char) :
    (inLine i (joined (entries.map entryLine) ++ '\x7d' :: rest)).gap =
      inLine i (joined (entries.map entryLine) ++ '\x7d' :: rest) := by
  cases entries with
  | nil => exact gap_inLine (by decide)
  | cons e entries =>
    obtain ⟨cs, form⟩ := exists_cons_of_entries e entries
    rw [form]
    exact gap_inLine (by decide)

/-- A datum on one line is read up to its end if all names in it are short, and not at all
otherwise. -/
def IsRead (d : Datum) (fuel i : Nat) (rest : List Char) : Prop :=
  readFlowNode fuel (inLine i (line d ++ rest)) =
    if d.hasShortNames then .ok (tree d, inLine (i + (line d).length) rest) else .error .syntactic

/-! ### One item -/

section

variable {d : Datum} {fuel i : Nat} {acc : List Node} {rest : List Char}

theorem readItems_of_isRead_last (reads : IsRead d fuel i (']' :: rest)) :
    readItems (fuel + 1) acc (inLine i (line d ++ ']' :: rest)) =
      if d.hasShortNames then
        .ok ((tree d :: acc).reverse, inLine (i + (line d).length + 1) rest)
      else .error .syntactic := by
  obtain ⟨c, cs, form, opens⟩ := exists_cons_of_line d
  rw [IsRead, form, List.cons_append] at reads
  rw [form, List.cons_append]
  split_ifs at reads ⊢
  · exact readItems_last opens reads
  · exact readItems_error opens reads

theorem readItems_of_isRead_comma {e : Char} {more : List Char} (next : opensValue e = true)
    (reads : IsRead d fuel i (',' :: ' ' :: e :: more)) :
    readItems (fuel + 1) acc (inLine i (line d ++ ',' :: ' ' :: e :: more)) =
      if d.hasShortNames then
        readItems fuel (tree d :: acc) (inLine (i + (line d).length + 2) (e :: more))
      else .error .syntactic := by
  obtain ⟨c, cs, form, opens⟩ := exists_cons_of_line d
  rw [IsRead, form, List.cons_append] at reads
  rw [form, List.cons_append]
  split_ifs at reads ⊢
  · exact readItems_comma opens next reads
  · exact readItems_error opens reads

end

/-! ### One entry -/

section

variable {name : List Text.Point} {d : Datum} {fuel i : Nat} {acc : List (Node × Node)}

theorem length_entryLine (name : List Text.Point) (d : Datum) :
    (entryLine (name, d)).length = (quoteLine name).length + 2 + (line d).length := by
  simp only [entryLine, List.length_append, List.length_cons]
  omega

/-- What is read for an entry depends on the length of its name and on its value. -/
theorem readPairs_entry {rest : List Char} (inside : 0 < i)
    (reads : IsRead d (fuel + 1) (i + (quoteLine name).length + 2) rest) :
    readPairs (fuel + 3) acc (inLine i (entryLine (name, d) ++ rest)) =
      if Datum.isShortName name && d.hasShortNames then
        let pair := (.scalar .unspecific true (Text.byUnits name), tree d)
        let after := (inLine (i + (entryLine (name, d)).length) rest).gap
        match after.rest with
        | ',' :: _ => readPairs (fuel + 2) (pair :: acc) after.next.gap
        | '\x7d' :: _ => .ok ((pair :: acc).reverse, after.next)
        | _ => .error .syntactic
      else .error .syntactic := by
  obtain ⟨c, cs, form, opens⟩ := exists_cons_of_line d
  have key :
      readFlowNode (fuel + 2) (inLine i (quoteLine name ++ ':' :: ' ' :: c :: (cs ++ rest))) =
      .ok (.scalar .unspecific true (Text.byUnits name),
        inLine (i + (quoteLine name).length) (':' :: ' ' :: c :: (cs ++ rest))) :=
    readFlowNode_quote name inside
  have split : entryLine (name, d) ++ rest = quoteLine name ++ ':' :: ' ' :: c :: (cs ++ rest) := by
    rw [entryLine, form, List.append_assoc]
    rfl
  have span : i + (quoteLine name).length - i = (quoteLine name).length := by omega
  have last : i + (quoteLine name).length + 2 + (line d).length =
      i + (entryLine (name, d)).length := by rw [length_entryLine]; omega
  rw [IsRead, last, form, List.cons_append] at reads
  rw [split]
  rw [Json.quoteLine_eq, List.cons_append] at key ⊢
  rw [readPairs_quote key opens, ← Json.quoteLine_eq, span, reads]
  cases short : d.hasShortNames with
  | true => simp only [Datum.isShortName, Bool.and_true, decide_eq_true_eq, if_true]; rfl
  | false => simp [Except.bind]

theorem readPairs_entry_last {rest : List Char} (inside : 0 < i)
    (reads : IsRead d (fuel + 1) (i + (quoteLine name).length + 2) ('\x7d' :: rest)) :
    readPairs (fuel + 3) acc (inLine i (entryLine (name, d) ++ '\x7d' :: rest)) =
      if Datum.isShortName name && d.hasShortNames then
        .ok (((.scalar .unspecific true (Text.byUnits name), tree d) :: acc).reverse,
          inLine (i + (entryLine (name, d)).length + 1) rest)
      else .error .syntactic := by
  have stop : ∀ k, (inLine k ('\x7d' :: rest)).gap = inLine k ('\x7d' :: rest) := fun k =>
    gap_inLine (by decide)
  have past : ∀ k, (inLine k ('\x7d' :: rest)).next = inLine (k + 1) rest := fun k =>
    next_inLine (by decide)
  rw [readPairs_entry inside reads]
  simp only [stop, past, rest_inLine]

theorem readPairs_entry_comma {more : List Char} (inside : 0 < i)
    (reads : IsRead d (fuel + 1) (i + (quoteLine name).length + 2) (',' :: ' ' :: '"' :: more)) :
    readPairs (fuel + 3) acc (inLine i (entryLine (name, d) ++ ',' :: ' ' :: '"' :: more)) =
      if Datum.isShortName name && d.hasShortNames then
        readPairs (fuel + 2) ((.scalar .unspecific true (Text.byUnits name), tree d) :: acc)
          (inLine (i + (entryLine (name, d)).length + 2) ('"' :: more))
      else .error .syntactic := by
  have stop : ∀ k, (inLine k (',' :: ' ' :: '"' :: more)).gap =
      inLine k (',' :: ' ' :: '"' :: more) := fun k => gap_inLine (by decide)
  have past : ∀ k, (inLine k (',' :: ' ' :: '"' :: more)).next.gap = inLine (k + 2) ('"' :: more) :=
    fun k => by rw [next_inLine (by decide), gap_space (by decide)]
  rw [readPairs_entry inside reads]
  simp only [stop, past, rest_inLine]

end

/-! ### Whole lines -/

theorem isRead_of_isWord {d : Datum} (word : IsWord (line d))
    (scalar : tree d = .scalar .unspecific false d.write) (short : d.hasShortNames = true)
    {fuel i : Nat} {c : Char} {rest : List Char} (enough : 2 * (line d).length ≤ fuel)
    (inside : 0 < i) (closing : c ∈ closings) : IsRead d fuel i (c :: rest) := by
  have some_char := List.length_pos_of_ne_nil word.ne_nil
  obtain ⟨fuel, rfl⟩ := Nat.exists_eq_add_of_le' (show 2 ≤ fuel by omega)
  rw [IsRead, readFlowNode_word word.words word.ne_nil word.ne_sign closing inside, scalar, short,
    if_pos rfl, line, String.ofList_toList]

mutual

theorem isRead_line : ∀ (d : Datum) {fuel i : Nat} {c : Char} {rest : List Char},
    2 * (line d).length ≤ fuel → 0 < i → c ∈ closings → IsRead d fuel i (c :: rest)
  | .null, _, _, _, _, enough, inside, closing =>
    isRead_of_isWord isWord_null rfl rfl enough inside closing
  | .bool b, _, _, _, _, enough, inside, closing =>
    isRead_of_isWord (isWord_bool b) rfl rfl enough inside closing
  | .int n few, _, _, _, _, enough, inside, closing =>
    isRead_of_isWord (d := .int n few) (isWord_int n) rfl rfl enough inside closing
  | .float x, _, _, _, _, enough, inside, closing =>
    isRead_of_isWord (d := .float x) (isWord_floatText x) rfl rfl enough inside closing
  | .str text, fuel, i, c, rest, enough, inside, closing => by
    have marks : 2 ≤ (quoteLine text).length := by
      rw [Json.quoteLine_eq]
      simp
    change 2 * (quoteLine text).length ≤ fuel at enough
    obtain ⟨fuel, rfl⟩ := Nat.exists_eq_add_of_le' (show 2 ≤ fuel by omega)
    exact readFlowNode_quote text inside
  | .list items, fuel, i, c, rest, enough, inside, closing => by
    have last :
        i + 1 + ((joined (items.map line)).length + 1) = i + (line (.list items)).length := by
      rw [Json.line_list, List.length_cons, List.length_append, List.length_singleton]
      omega
    obtain ⟨fuel, rfl⟩ := Nat.exists_eq_add_of_le' (show 2 ≤ fuel by omega)
    rw [IsRead, ← last, Json.line_list, List.cons_append, List.append_assoc, List.singleton_append,
      readFlowNode_list inside, gap_items, readItems_line items _ _ _ _ (by omega) (Nat.succ_pos i)]
    split <;> rfl
  | .obj entries, fuel, i, c, rest, enough, inside, closing => by
    have last : i + 1 + ((joined (entries.map entryLine)).length + 1) =
        i + (line (.obj entries)).length := by
      rw [Json.line_obj, List.length_cons, List.length_append, List.length_singleton]
      omega
    obtain ⟨fuel, rfl⟩ := Nat.exists_eq_add_of_le' (show 2 ≤ fuel by omega)
    rw [IsRead, ← last, Json.line_obj, List.cons_append, List.append_assoc, List.singleton_append,
      readFlowNode_mapping inside, gap_entries entries,
      readPairs_line entries _ _ _ _ (by omega) (Nat.succ_pos i)]
    split <;> rfl

theorem readItems_line : ∀ (items : List Datum) (fuel i : Nat) (acc : List Node) (rest : List Char),
    2 * ((joined (items.map line)).length + 1) ≤ fuel → 0 < i →
    readItems fuel acc (inLine i (joined (items.map line) ++ ']' :: rest)) =
      if (Datum.list items).hasShortNames then
        .ok (acc.reverse ++ trees items, inLine (i + ((joined (items.map line)).length + 1)) rest)
      else .error .syntactic
  | [], fuel, i, acc, rest, enough, inside => by
    obtain ⟨fuel, rfl⟩ := Nat.exists_eq_add_of_le' (show 1 ≤ fuel by omega)
    rw [List.map_nil, Json.joined_nil, List.nil_append, readItems_nil]
    exact congrArg Except.ok (Prod.ext (List.append_nil _).symm rfl)
  | [d], fuel, i, acc, rest, enough, inside => by
    rw [List.map_singleton, Json.joined_singleton] at enough ⊢
    obtain ⟨fuel, rfl⟩ := Nat.exists_eq_add_of_le' (show 1 ≤ fuel by omega)
    rw [readItems_of_isRead_last (isRead_line d (by omega) inside (by decide)),
      hasShortNames_cons_list, List.reverse_cons]
    simp [trees, Datum.hasShortNames, Datum.every, Datum.everyItem, Nat.add_assoc]
  | d :: e :: items, fuel, i, acc, rest, enough, inside => by
    obtain ⟨c, cs, further, next⟩ := exists_cons_of_items e items
    rw [List.map_cons, List.map_cons, Json.joined_cons_cons, ← List.map_cons] at enough ⊢
    rw [List.length_append, List.length_cons, List.length_cons] at enough
    obtain ⟨fuel, rfl⟩ := Nat.exists_eq_add_of_le' (show 1 ≤ fuel by omega)
    have others := readItems_line (e :: items) fuel (i + (line d).length + 2) (tree d :: acc) rest
      (by omega) (by omega)
    have last : i + (line d).length + 2 + ((c :: cs).length + 1) =
        i + ((line d ++ ',' :: ' ' :: c :: cs).length + 1) := by
      simp only [List.length_append, List.length_cons]
      omega
    rw [further, last, List.cons_append] at others
    rw [further, List.append_assoc, List.cons_append, List.cons_append, List.cons_append,
      readItems_of_isRead_comma next (isRead_line d (by omega) inside (by decide)), others,
      hasShortNames_cons_list (d := d), List.reverse_cons, List.append_assoc]
    cases d.hasShortNames <;> rfl

theorem readPairs_line : ∀ (entries : List (List Text.Point × Datum)) (fuel i : Nat)
    (acc : List (Node × Node)) (rest : List Char),
    2 * ((joined (entries.map entryLine)).length + 1) ≤ fuel → 0 < i →
    readPairs fuel acc (inLine i (joined (entries.map entryLine) ++ '\x7d' :: rest)) =
      if (Datum.obj entries).hasShortNames then
        .ok (acc.reverse ++ treePairs entries,
          inLine (i + ((joined (entries.map entryLine)).length + 1)) rest)
      else .error .syntactic
  | [], fuel, i, acc, rest, enough, inside => by
    obtain ⟨fuel, rfl⟩ := Nat.exists_eq_add_of_le' (show 1 ≤ fuel by omega)
    rw [List.map_nil, Json.joined_nil, List.nil_append, readPairs_nil]
    exact congrArg Except.ok (Prod.ext (List.append_nil _).symm rfl)
  | [(name, d)], fuel, i, acc, rest, enough, inside => by
    rw [List.map_singleton, Json.joined_singleton] at enough ⊢
    have length := length_entryLine name d
    obtain ⟨fuel, rfl⟩ := Nat.exists_eq_add_of_le' (show 3 ≤ fuel by omega)
    rw [readPairs_entry_last inside (isRead_line d (by omega) (by omega) (by decide)),
      hasShortNames_cons_obj, List.reverse_cons]
    simp [treePairs, Datum.hasShortNames, Datum.every, Datum.everyEntry, Nat.add_assoc]
  | (name, d) :: e :: entries, fuel, i, acc, rest, enough, inside => by
    obtain ⟨cs, further⟩ := exists_cons_of_entries e entries
    rw [List.map_cons, List.map_cons, Json.joined_cons_cons, ← List.map_cons] at enough ⊢
    have length := length_entryLine name d
    rw [List.length_append, List.length_cons, List.length_cons] at enough
    obtain ⟨fuel, rfl⟩ := Nat.exists_eq_add_of_le' (show 3 ≤ fuel by omega)
    have others := readPairs_line (e :: entries) (fuel + 2) (i + (entryLine (name, d)).length + 2)
      ((.scalar .unspecific true (Text.byUnits name), tree d) :: acc) rest (by omega) (by omega)
    have last : i + (entryLine (name, d)).length + 2 + (('"' :: cs).length + 1) =
        i + ((entryLine (name, d) ++ ',' :: ' ' :: '"' :: cs).length + 1) := by
      simp only [List.length_append, List.length_cons]
      omega
    rw [further, last, List.cons_append] at others
    rw [further, List.append_assoc, List.cons_append, List.cons_append, List.cons_append,
      readPairs_entry_comma inside (isRead_line d (by omega) (by omega) (by decide)), others,
      hasShortNames_cons_obj (d := d), List.reverse_cons, List.append_assoc]
    cases Datum.isShortName name && d.hasShortNames <;> rfl

end

end Yaml

end Chatflow
