import Chatflow.Proofs.Table
import Chatflow.Proofs.Yaml.Tree

/-!
# The values that are read

What a datum becomes when it is written as JSON on one line and read as a document. It stays as it
is but for three things: a code point with two units becomes its two halves, a double whose text has
no point becomes that text, and with a name that is too long for its line nothing is read.
-/

namespace Chatflow

namespace Yaml

open Json (Datum Members)

mutual

/-- The value that a datum is read as after it was written. -/
def reread : Datum → Value
  | .null => .null
  | .bool b => .bool b
  | .int n _ => .int n
  | .float x => if '.' ∈ (Json.floatText x).toList then .float x else .str (Json.floatText x)
  | .str text => .str (Text.byUnits text)
  | .list items => .list (rereadItems items)
  | .obj entries => .obj (Table.ofPairs (rereadEntries entries))

def rereadItems : List Datum → List Value
  | [] => []
  | d :: rest => reread d :: rereadItems rest

def rereadEntries : List (List Text.Point × Datum) → List (String × Value)
  | [] => []
  | (name, d) :: rest => (Text.byUnits name, reread d) :: rereadEntries rest

end

/-! ### Mappings by texts -/

def textPair (e : String × Value) : Value × Value := (.str e.1, e.2)

theorem putKey_textPair (entries : List (String × Value)) (name : String) (v : Value) :
    putKey (entries.map textPair) (.str name) v = (Table.put entries name v).map textPair := by
  induction entries with
  | nil => rfl
  | cons e entries ih =>
    rw [List.map_cons, textPair, putKey, ih, Table.put]
    change (if (e.1 == name) = true then _ else _) = _
    split <;> rfl

theorem merge_textPair (acc entries : List (String × Value)) :
    (entries.map textPair).foldl (fun acc p => putKey acc p.1 p.2) (acc.map textPair) =
      (Table.merge acc entries).map textPair := by
  induction entries generalizing acc with
  | nil => rfl
  | cons e entries ih =>
    rw [List.map_cons, List.foldl_cons, textPair, putKey_textPair, ih]
    rfl

theorem mapM_textPair (entries : List (String × Value)) :
    (entries.map textPair).mapM textPair? = some entries := by
  induction entries with
  | nil => rfl
  | cons e entries ih =>
    rw [List.map_cons, List.mapM_cons, ih]
    rfl

theorem mappingOf_textPair (entries : List (String × Value)) :
    mappingOf (entries.map textPair) = .ok (.obj (Table.ofPairs entries)) := by
  have keys : ((entries.map textPair).all fun p => isKeyValue p.1) = true := by
    rw [List.all_map]
    exact List.all_eq_true.mpr fun e _ => rfl
  have merged := merge_textPair [] entries
  rw [List.map_nil] at merged
  rw [mappingOf, if_pos keys, merged]
  dsimp only
  rw [mapM_textPair]
  rfl

/-! ### Values of trees -/

mutual

/-- The value of the tree of a datum. -/
theorem valueOf_tree : ∀ d : Datum, valueOf (tree d) = .ok (reread d)
  | .null => rfl
  | .bool true => rfl
  | .bool false => rfl
  | .int _ few => resolve_int few
  | .float x => by
    rw [reread, ← resolve_float]
    rfl
  | .str _ => rfl
  | .list items => by
    rw [tree, valueOf, valuesOf_trees items]
    rfl
  | .obj entries => by
    rw [tree, valueOf, pairsOf_treePairs entries, reread, ← mappingOf_textPair]
    rfl

theorem valuesOf_trees : ∀ items : List Datum, valuesOf (trees items) = .ok (rereadItems items)
  | [] => rfl
  | d :: items => by
    rw [trees, valuesOf, valueOf_tree d, valuesOf_trees items]
    rfl

theorem pairsOf_treePairs : ∀ entries : List (List Text.Point × Datum),
    pairsOf (treePairs entries) = .ok ([], (rereadEntries entries).map textPair)
  | [] => rfl
  | (name, d) :: entries => by
    rw [treePairs, pairsOf, valueOf_tree d, pairsOf_treePairs entries]
    rfl

end

/-! ### Documents -/

open Cursor hiding line
open Json (entryLine line quoteLine joined isPrintable)

theorem mem_joined {parts : List (List Char)} {c : Char} (mem : c ∈ joined parts) :
    isPrintable c = true ∨ ∃ part ∈ parts, c ∈ part := by
  induction parts with
  | nil => cases mem
  | cons first parts ih =>
    cases parts with
    | nil => exact .inr ⟨first, by simp, by simpa using mem⟩
    | cons second parts =>
      rw [Json.joined_cons_cons] at mem
      simp only [List.mem_append, List.mem_cons] at mem
      rcases mem with mem | rfl | rfl | mem
      · exact .inr ⟨first, by simp, mem⟩
      · exact .inl rfl
      · exact .inl rfl
      · exact (ih mem).imp id fun ⟨part, among, mem⟩ => ⟨part, List.mem_cons_of_mem _ among, mem⟩

theorem isPrintable_of_isWord {cs : List Char} (word : IsWord cs) {c : Char} (mem : c ∈ cs) :
    isPrintable c = true := by
  have part := word.words c mem
  simp only [isWordChar, Char.isAlphanum, Char.isAlpha, Char.isUpper, Char.isLower, Char.isDigit,
    Bool.or_eq_true, Bool.and_eq_true, decide_eq_true_eq, ge_iff_le, UInt32.le_iff_toNat_le] at part
  simp only [isPrintable, Bool.and_eq_true, decide_eq_true_eq, Char.toNat]
  rcases part with ((((⟨low, high⟩ | ⟨low, high⟩) | ⟨low, high⟩) | rfl) | rfl) | rfl
  · exact ⟨Nat.le_trans (by decide) low, Nat.le_trans high (by decide)⟩
  · exact ⟨Nat.le_trans (by decide) low, Nat.le_trans high (by decide)⟩
  · exact ⟨Nat.le_trans (by decide) low, Nat.le_trans high (by decide)⟩
  · decide
  · decide
  · decide

mutual

theorem isPrintable_of_mem_line : ∀ d : Datum, ∀ c ∈ line d, isPrintable c = true
  | .null => fun _ mem => isPrintable_of_isWord isWord_null mem
  | .bool b => fun _ mem => isPrintable_of_isWord (isWord_bool b) mem
  | .int n _ => fun _ mem => isPrintable_of_isWord (isWord_int n) mem
  | .float x => fun _ mem => isPrintable_of_isWord (isWord_floatText x) mem
  | .str _ => fun _ mem => Json.isPrintable_of_mem_quoteLine mem
  | .list items => fun c mem => by
    rw [Json.line_list, List.mem_cons, List.mem_append, List.mem_singleton] at mem
    rcases mem with rfl | mem | rfl
    · rfl
    · rcases mem_joined mem with separator | ⟨part, among, mem⟩
      · exact separator
      · exact isPrintable_of_mem_lines items part among c mem
    · rfl
  | .obj entries => fun c mem => by
    rw [Json.line_obj, List.mem_cons, List.mem_append, List.mem_singleton] at mem
    rcases mem with rfl | mem | rfl
    · rfl
    · rcases mem_joined mem with separator | ⟨part, among, mem⟩
      · exact separator
      · exact isPrintable_of_mem_entryLines entries part among c mem
    · rfl

theorem isPrintable_of_mem_lines : ∀ items : List Datum,
    ∀ part ∈ items.map line, ∀ c ∈ part, isPrintable c = true
  | [] => nofun
  | d :: items => by
    rw [List.map_cons, List.forall_mem_cons]
    exact ⟨isPrintable_of_mem_line d, isPrintable_of_mem_lines items⟩

theorem isPrintable_of_mem_entryLines : ∀ entries : List (List Text.Point × Datum),
    ∀ part ∈ entries.map entryLine, ∀ c ∈ part, isPrintable c = true
  | [] => nofun
  | (name, d) :: entries => by
    have entry : ∀ c ∈ entryLine (name, d), isPrintable c = true := fun c mem => by
      simp only [entryLine, List.mem_append, List.mem_cons] at mem
      rcases mem with mem | rfl | rfl | mem
      · exact Json.isPrintable_of_mem_quoteLine mem
      · rfl
      · rfl
      · exact isPrintable_of_mem_line d c mem
    rw [List.map_cons, List.forall_mem_cons]
    exact ⟨entry, isPrintable_of_mem_entryLines entries⟩

end

theorem unifyBreaks_of_printable {cs : List Char} (printable : ∀ c ∈ cs, isPrintable c = true) :
    unifyBreaks cs = cs := by
  induction cs with
  | nil => rfl
  | cons c cs ih =>
    have first := printable c (by simp)
    have no_return : c ≠ '\r' := by rintro rfl; exact absurd first (by decide)
    have no_line : c ≠ '\u0085' := by rintro rfl; exact absurd first (by decide)
    rw [unifyBreaks, ih fun d mem => printable d (by simp [mem])]
    · exact fun _ same _ => no_return same
    · exact no_return
    · exact no_line

theorem allowed_of_printable {c : Char} (printable : isPrintable c = true) :
    Text.inRanges allowedRanges c = true := by
  simp only [isPrintable, Bool.and_eq_true, decide_eq_true_eq] at printable
  simp only [Text.inRanges, allowedRanges, List.any_cons, Bool.or_eq_true, Bool.and_eq_true,
    decide_eq_true_eq]
  omega

theorem compose_of_printable {text : String} {c : Char} {more : List Char}
    (form : text.toList = c :: more) (printable : ∀ d ∈ c :: more, isPrintable d = true) :
    compose text =
      (openDocument (8 * (c :: more).length + 16) false false (inLine 0 (c :: more))).bind
        fun opened =>
        (readOptional (-1) opened.1 false (8 * (c :: more).length + 16) opened.2).bind fun read =>
          if closes (8 * (c :: more).length + 16) read.2 then .ok read.1
          else .error .syntactic := by
  have allowed : (c :: more).all (Text.inRanges allowedRanges) = true :=
    List.all_eq_true.mpr fun d mem => allowed_of_printable (printable d mem)
  unfold compose
  rw [form]
  split
  · rename_i rest same
    have first := printable c (by simp)
    rw [(List.cons.inj same).1] at first
    exact absurd first (by decide)
  · simp only [unifyBreaks_of_printable printable, allowed]
    rfl

section

variable {cs : List Char} {fuel : Nat}

theorem atLimit_brace : (inLine 0 ('\x7b' :: cs)).atLimit = false := by
  simp [Cursor.atLimit, Cursor.atEnd, Cursor.atMarker, isMarkerText]

theorem openDocument_brace :
    openDocument (fuel + 1) false false (inLine 0 ('\x7b' :: cs)) =
      .ok (true, inLine 0 ('\x7b' :: cs)) := by
  have marker : (inLine 0 ('\x7b' :: cs)).atMarker = false :=
    (Bool.or_eq_false_iff.mp atLimit_brace).2
  have gap : (inLine 0 ('\x7b' :: cs)).gap = inLine 0 ('\x7b' :: cs) := gap_inLine (by decide)
  rw [openDocument]
  simp [gap, marker]

theorem properties_brace (flow : Bool) :
    readProperties flow 3 .none (inLine 0 ('\x7b' :: cs)) = .ok (.none, inLine 0 ('\x7b' :: cs)) :=
  readProperties_none rfl flow

theorem readKeyNode_brace (parent : Int) :
    readKeyNode (fuel + 1) parent (inLine 0 ('\x7b' :: cs)) =
      (readPairs fuel [] (inLine 1 cs).gap).bind fun read =>
        .ok (.mapping .unspecific read.1, read.2) := by
  have gap : (inLine 0 ('\x7b' :: cs)).gap = inLine 0 ('\x7b' :: cs) := gap_inLine (by decide)
  have past : (inLine 0 ('\x7b' :: cs)).next = inLine 1 cs := next_inLine (by decide)
  unfold readKeyNode
  simp only [rest_inLine, properties_brace, bind, Except.bind, gap, if_true, readContent?,
    atLimit_brace, Bool.false_eq_true, if_false, past]
  cases readPairs fuel [] (inLine 1 cs).gap with
  | error cause => rfl
  | ok read => rfl

/-- A node that is all of a document is no key. -/
theorem readOptional_brace {node : Node} {k : Nat} {short : Bool}
    (reads : readKeyNode fuel (-1) (inLine 0 ('\x7b' :: cs)) =
      if short then .ok (node, inLine k []) else .error .syntactic) :
    readOptional (-1) true false (fuel + 2) (inLine 0 ('\x7b' :: cs)) =
      if short then .ok (node, inLine k []) else .error .syntactic := by
  have gap : (inLine 0 ('\x7b' :: cs)).gap = inLine 0 ('\x7b' :: cs) := gap_inLine (by decide)
  have below : opensBelow .none (inLine 0 ('\x7b' :: cs)) = false := rfl
  rw [readOptional, if_neg (by simp [atLimit_brace]), if_neg (by simp), readBlockNode,
    if_neg (by simp [isIndicator]), if_neg (by simp [isIndicator]), properties_brace]
  simp only [bind, Except.bind, below, Bool.false_eq_true, if_false, gap, rest_inLine, reads]
  cases short with
  | true => rfl
  | false => rfl

end

/-- The tree of an object that is written on one line. -/
theorem compose_obj (entries : Members) :
    compose (Datum.obj entries).write =
      if (Datum.obj entries).hasShortNames then .ok (tree (.obj entries))
      else .error .syntactic := by
  have printable := isPrintable_of_mem_line (.obj entries)
  have text : (Datum.obj entries).write.toList =
      '\x7b' :: (joined (entries.map entryLine) ++ ['\x7d']) := Json.line_obj entries
  obtain ⟨cs, body⟩ : ∃ cs, cs = joined (entries.map entryLine) ++ ['\x7d'] := ⟨_, rfl⟩
  obtain ⟨fuel, size⟩ : ∃ fuel, 8 * ('\x7b' :: cs).length + 16 = fuel + 3 :=
    ⟨8 * cs.length + 21, rfl⟩
  have gap : (inLine 1 cs).gap = inLine 1 cs := body ▸ gap_entries entries 1 []
  have enough : 2 * ((joined (entries.map entryLine)).length + 1) ≤ fuel := by
    have length := congrArg List.length body
    rw [List.length_append, List.length_singleton] at length
    rw [List.length_cons] at size
    omega
  have pairs := readPairs_line entries fuel 1 [] [] enough Nat.one_pos
  rw [← body] at pairs text
  have reads : readKeyNode (fuel + 1) (-1) (inLine 0 ('\x7b' :: cs)) =
      if (Datum.obj entries).hasShortNames then
        .ok (tree (.obj entries), inLine (1 + ((joined (entries.map entryLine)).length + 1)) [])
      else .error .syntactic := by
    rw [readKeyNode_brace, gap, pairs]
    cases (Datum.obj entries).hasShortNames <;> rfl
  rw [compose_of_printable text (text ▸ printable), size, openDocument_brace, Except.bind,
    readOptional_brace reads]
  cases (Datum.obj entries).hasShortNames <;> rfl

/-- What an object is read as after it was written on one line. -/
theorem read_write_obj (entries : Members) :
    read (Datum.obj entries).write =
      if (Datum.obj entries).hasShortNames then .ok (reread (.obj entries))
      else .error .syntactic := by
  rw [read, compose_obj]
  split
  · exact valueOf_tree _
  · rfl

/-! ### Data that stay as they are -/

/-- A text of code points with one unit each, or a double that is written with a point. -/
def isFaithfulScalar : Datum → Bool
  | .str text => Text.isBasic text
  | .float x => decide ('.' ∈ (Json.floatText x).toList)
  | _ => true

def isFaithful : Datum → Bool := Datum.every isFaithfulScalar (·.all Text.isBasic)

theorem isFaithful_cons_list {d : Datum} {items : List Datum} :
    isFaithful (.list (d :: items)) = (isFaithful d && isFaithful (.list items)) := rfl

theorem isFaithful_cons_obj {name : List Text.Point} {d : Datum} {entries : Members} :
    isFaithful (.obj ((name, d) :: entries)) =
      (Text.isBasic name && isFaithful d && isFaithful (.obj entries)) := by
  simp only [isFaithful, Datum.every, Datum.everyEntry, List.map_cons, List.all_cons]
  simp only [Bool.and_assoc, Bool.and_left_comm]

theorem distinct_cons_list {d : Datum} {items : List Datum} :
    (Datum.list (d :: items)).hasDistinctNames =
      (d.hasDistinctNames && (Datum.list items).hasDistinctNames) := rfl

theorem distinct_of_cons_obj {name : List Text.Point} {d : Datum} {entries : Members}
    (distinct : (Datum.obj ((name, d) :: entries)).hasDistinctNames = true) :
    d.hasDistinctNames = true ∧ (Datum.obj entries).hasDistinctNames = true := by
  simp only [Datum.hasDistinctNames, Datum.every, Datum.everyEntry, List.map_cons, Bool.and_eq_true,
    decide_eq_true_eq, List.nodup_cons] at distinct ⊢
  exact ⟨distinct.2.1, distinct.1.2, distinct.2.2⟩

theorem nodup_of_distinct {entries : Members}
    (distinct : (Datum.obj entries).hasDistinctNames = true) : (Table.names entries).Nodup := by
  simp only [Datum.hasDistinctNames, Datum.every, Bool.and_eq_true, decide_eq_true_eq] at distinct
  exact distinct.1

theorem length_rereadEntries (entries : Members) :
    (rereadEntries entries).length = entries.length := by
  induction entries with
  | nil => rfl
  | cons e entries ih => rw [rereadEntries, List.length_cons, List.length_cons, ih]

/-- The entries are the written ones if they are one by one. -/
theorem membersOf?_ofPairs_iff {entries : Members}
    (distinct : (Datum.obj entries).hasDistinctNames = true) :
    Value.membersOf? (Table.ofPairs (rereadEntries entries)) = some entries ↔
      Value.membersOf? (rereadEntries entries) = some entries := by
  constructor
  · intro found
    rcases Table.ofPairs_eq_or_lt (rereadEntries entries) with whole | fewer
    · rwa [whole] at found
    · have size := congrArg List.length (Value.names_of_membersOf? found)
      simp only [Table.names, List.length_map] at size
      rw [length_rereadEntries] at fewer
      omega
  · intro found
    have names := nodup_of_distinct distinct
    rw [Value.names_of_membersOf? found] at names
    rwa [Table.ofPairs_of_nodup names.of_map]

mutual

/-- A datum is read as itself if and only if all its scalars and names are. -/
theorem datum?_reread_iff : ∀ d : Datum, d.hasDistinctNames = true →
    ((reread d).datum? = some d ↔ isFaithful d = true)
  | .null, _ => ⟨fun _ => rfl, fun _ => rfl⟩
  | .bool _, _ => ⟨fun _ => rfl, fun _ => rfl⟩
  | .int _ few, _ => ⟨fun _ => rfl, fun _ => dif_pos few⟩
  | .float x, _ => by
    have faithful : isFaithful (.float x) = decide ('.' ∈ (Json.floatText x).toList) := rfl
    rw [faithful, reread, decide_eq_true_eq]
    split_ifs with pointed
    · exact ⟨fun _ => pointed, fun _ => rfl⟩
    · exact ⟨nofun, fun other => absurd other pointed⟩
  | .str text, _ => by
    rw [reread, Value.datum?, Option.some.injEq, Datum.str.injEq]
    exact Text.points_byUnits_eq_iff
  | .list items, distinct => by
    rw [reread, Value.datum?, Option.map_eq_some_iff]
    simp only [Datum.list.injEq, exists_eq_right]
    exact dataOf?_reread_iff items distinct
  | .obj entries, distinct => by
    rw [reread, Value.datum?, Option.map_eq_some_iff]
    simp only [Datum.obj.injEq, exists_eq_right]
    rw [membersOf?_ofPairs_iff distinct]
    exact membersOf?_reread_iff entries distinct

theorem dataOf?_reread_iff : ∀ items : List Datum, (Datum.list items).hasDistinctNames = true →
    (Value.dataOf? (rereadItems items) = some items ↔ isFaithful (.list items) = true)
  | [], _ => ⟨fun _ => rfl, fun _ => rfl⟩
  | d :: items, distinct => by
    rw [distinct_cons_list, Bool.and_eq_true] at distinct
    rw [rereadItems, Value.dataOf?_cons_eq_some_iff, isFaithful_cons_list, Bool.and_eq_true,
      ← datum?_reread_iff d distinct.1, ← dataOf?_reread_iff items distinct.2]
    simp

theorem membersOf?_reread_iff : ∀ entries : List (List Text.Point × Datum),
    (Datum.obj entries).hasDistinctNames = true →
    (Value.membersOf? (rereadEntries entries) = some entries ↔ isFaithful (.obj entries) = true)
  | [], _ => ⟨fun _ => rfl, fun _ => rfl⟩
  | (name, d) :: entries, distinct => by
    obtain ⟨first, others⟩ := distinct_of_cons_obj distinct
    rw [rereadEntries, Value.membersOf?_cons_eq_some_iff, isFaithful_cons_obj, Bool.and_eq_true,
      Bool.and_eq_true, ← Text.points_byUnits_eq_iff, ← datum?_reread_iff d first,
      ← membersOf?_reread_iff entries others]
    simp [and_assoc, and_left_comm]

end

end Yaml

end Chatflow
