import Chatflow.Proofs.Yaml.Line

/-!
# Collections on one line

How words, quoted texts, lists and mappings between brackets are read on the first line of a
document, one equation for each. A mapping needs its keys to end within 1024 characters.
-/

namespace Chatflow.Yaml

open Cursor

/-! ### Words -/

def isWordChar (c : Char) : Bool := c.isAlphanum || c = '.' || c = '+' || c = '-'

/-- A character with which a value can begin. -/
def opensValue (c : Char) : Bool := isWordChar c || c = '"' || c = '[' || c = '\x7b'

/-- Characters that mean something else than a value. -/
def marks : List Char :=
  [' ', '\t', '\n', '#', '&', '!', '*', ',', ']', '\x7d', '?', ':', '|', '>', '%', '\'', '\uFEFF']

def closings : List Char := [',', ']', '\x7d']

variable {c d : Char} {fuel i j k : Nat} {rest more word : List Char}

theorem ne_of_opensValue (opens : opensValue c = true) : ∀ d ∈ marks, c ≠ d := by
  have closed : ∀ d ∈ marks, opensValue d = false := forall_of_all (by decide)
  rintro d mem rfl
  exact absurd opens (by rw [closed c mem]; exact Bool.false_ne_true)

theorem opensValue_of_isWordChar (part : isWordChar c = true) : opensValue c = true := by
  rw [opensValue, part]
  rfl

theorem begins_of_opensValue (opens : opensValue c = true) : Begins c :=
  ⟨ne_of_opensValue opens _ (by decide), ne_of_opensValue opens _ (by decide),
    ne_of_opensValue opens _ (by decide)⟩

theorem begins_of_closing (closing : c ∈ closings) : Begins c := by
  have begins : ∀ c ∈ closings, Begins c := forall_of_all (by decide)
  exact begins c closing

theorem stopsPlain_word (part : isWordChar c = true) (rest : List Char) :
    stopsPlain true (c :: rest) = false := by
  have blank := ne_of_opensValue (opensValue_of_isWordChar part)
  have bracket : c ≠ '[' ∧ c ≠ '\x7b' := by
    constructor <;> rintro rfl <;> exact absurd part (by decide)
  simp only [marks, List.forall_mem_cons] at blank
  simp [stopsPlain, blank, bracket]

theorem stopsPlain_closing (closing : c ∈ closings) (rest : List Char) :
    stopsPlain true (c :: rest) = true := by
  simp only [closings, List.mem_cons, List.not_mem_nil, or_false] at closing
  rcases closing with rfl | rfl | rfl <;> simp [stopsPlain]

theorem plainChunk_word (words : ∀ c ∈ word, isWordChar c = true) (closing : d ∈ closings) :
    plainChunk true (word ++ d :: rest) = word := by
  induction word with
  | nil =>
    rw [List.nil_append, plainChunk, if_pos (stopsPlain_closing closing rest)]
  | cons c word ih =>
    rw [List.cons_append, plainChunk, stopsPlain_word (words c (by simp)),
      if_neg Bool.false_ne_true, ih fun c mem => words c (by simp [mem])]

theorem oneLine_of_words (words : ∀ c ∈ word, isWordChar c = true) : '\n' ∉ word := fun mem =>
  absurd (words _ mem) (by decide)

theorem readPlain_word (words : ∀ c ∈ word, isWordChar c = true) (some_char : word ≠ [])
    (closing : d ∈ closings) (parent : Int) :
    readPlain true parent (inLine i (word ++ d :: rest)) =
      (String.ofList word, inLine (i + word.length) (d :: rest)) := by
  have past :
      (inLine i (word ++ d :: rest)).skip word.length = inLine (i + word.length) (d :: rest) :=
    skip_inLine (oneLine_of_words words)
  have separation : plainSeparation (inLine (i + word.length) (d :: rest)) =
      ([], inLine (i + word.length) (d :: rest)) := by
    obtain ⟨space, feed, -⟩ := begins_of_closing closing
    have none : (d :: rest).takeWhile (· = ' ') = [] :=
      List.takeWhile_cons_of_neg (by simpa using space)
    unfold plainSeparation skipSpaces
    simp only [rest_inLine, none, List.length_nil, skip]
    split
    · exact absurd (List.cons.inj ‹_›).1 feed
    · rfl
  have comment : (word ++ d :: rest).head? ≠ some '#' := by
    obtain ⟨c, more, rfl⟩ := List.exists_cons_of_ne_nil some_char
    have other := ne_of_opensValue (opensValue_of_isWordChar (words c (by simp))) '#' (by decide)
    simpa using other
  unfold readPlain plainFrom
  simp only [rest_inLine, plainChunk_word words closing, past, separation]
  rw [if_neg (not_or.mpr ⟨some_char, comment⟩)]
  simp

theorem startsPlain_word (words : ∀ c ∈ word, isWordChar c = true) (some_char : word ≠ [])
    (more_than_sign : word ≠ ['-']) (rest : List Char) :
    startsPlain true (word ++ rest) = true := by
  have sign : ∀ d ∈ "-?:,[]\x7b\x7d#&*!|>'\"%@` \t\n".toList, isWordChar d = true → d = '-' :=
    forall_of_all (by decide)
  obtain ⟨c, more, rfl⟩ := List.exists_cons_of_ne_nil some_char
  rw [List.cons_append, startsPlain]
  split
  · rename_i indicator
    obtain rfl := sign c (List.contains_iff_mem.mp indicator) (words c (by simp))
    obtain ⟨d, more, rfl⟩ :=
      List.exists_cons_of_ne_nil (mt (congrArg (List.cons '-')) more_than_sign)
    have visible := ne_of_opensValue (opensValue_of_isWordChar (words d (by simp)))
    simp only [marks, List.forall_mem_cons] at visible
    simp [startsBlank, visible]
  · rfl

/-! ### Nodes -/

theorem readProperties_none (opens : opensValue c = true) (flow : Bool) :
    readProperties flow (fuel + 1) .none (inLine i (c :: rest)) =
      .ok (.none, inLine i (c :: rest)) := by
  have other := ne_of_opensValue opens
  rw [readProperties, gap_inLine (begins_of_opensValue opens)]
  simp [Properties.isNone, Properties.none, other '&' (by decide), other '!' (by decide)]

theorem readFlowNode_opens (opens : opensValue c = true) :
    readFlowNode (fuel + 1) (inLine i (c :: rest)) =
      (readContent? true 0 fuel (inLine i (c :: rest))).bind fun
        | some read => .ok read
        | none => .error .syntactic := by
  have other := ne_of_opensValue opens
  rw [readFlowNode]
  split
  · exact absurd (List.cons.inj ‹_›).1 (other '*' (by decide))
  · rw [readProperties_none opens]
    simp only [Except.bind, bind, gap_inLine (begins_of_opensValue opens)]
    cases readContent? true 0 fuel (inLine i (c :: rest)) with
    | error cause => rfl
    | ok content => cases content <;> rfl

theorem atLimit_inLine (inside : 0 < i) : (inLine i (c :: rest)).atLimit = false := by
  have column : i ≠ 0 := Nat.ne_of_gt inside
  simp [Cursor.atLimit, Cursor.atEnd, Cursor.atMarker, column]

theorem readFlowNode_word (words : ∀ c ∈ word, isWordChar c = true) (some_char : word ≠ [])
    (more_than_sign : word ≠ ['-']) (closing : d ∈ closings) (inside : 0 < i) :
    readFlowNode (fuel + 2) (inLine i (word ++ d :: rest)) =
      .ok (.scalar .unspecific false (String.ofList word),
        inLine (i + word.length) (d :: rest)) := by
  have starts := startsPlain_word words some_char more_than_sign (d :: rest)
  have reads : readPlain true 0 (inLine i (word ++ d :: rest)) =
      (String.ofList word, inLine (i + word.length) (d :: rest)) :=
    readPlain_word words some_char closing 0
  obtain ⟨c, more, rfl⟩ := List.exists_cons_of_ne_nil some_char
  have part := words c (by simp)
  have other : c ≠ '"' ∧ c ≠ '\'' ∧ c ≠ '[' ∧ c ≠ '\x7b' := by
    refine ⟨?_, ?_, ?_, ?_⟩ <;> rintro rfl <;> exact absurd part (by decide)
  rw [List.cons_append] at starts reads ⊢
  rw [readFlowNode_opens (opensValue_of_isWordChar part), readContent?, atLimit_inLine inside]
  simp [other, readScalar?, starts, reads, Except.bind]

theorem readFlowNode_quote (text : List Text.Point) (inside : 0 < i) :
    readFlowNode (fuel + 2) (inLine i (Json.quoteLine text ++ rest)) =
      .ok (.scalar .unspecific true (Text.byUnits text),
        inLine (i + (Json.quoteLine text).length) rest) := by
  have past : (inLine i ('"' :: (text.flatMap (Json.escapePoint .spaced) ++ '"' :: rest))).next =
      inLine (i + 1) (text.flatMap (Json.escapePoint .spaced) ++ '"' :: rest) :=
    next_inLine (by decide)
  have enough : (text.flatMap (Json.escapePoint .spaced)).length <
      ('"' :: (text.flatMap (Json.escapePoint .spaced) ++ '"' :: rest)).length + 1 := by
    simp
    omega
  rw [Json.quoteLine_eq, List.cons_append, List.append_assoc, List.singleton_append,
    readFlowNode_opens rfl, readContent?, atLimit_inLine inside]
  simp only [Bool.false_eq_true, ↓reduceIte, rest_inLine, readScalar?, past,
    readDouble_escaped enough]
  have last : i + 1 + (text.flatMap (Json.escapePoint .spaced)).length + 1 =
      i + ('"' :: (text.flatMap (Json.escapePoint .spaced) ++ ['"'])).length := by simp; omega
  rw [last]
  rfl

/-! ### Lists and mappings -/

theorem readFlowNode_list (inside : 0 < i) :
    readFlowNode (fuel + 2) (inLine i ('[' :: rest)) =
      (readItems fuel [] (inLine (i + 1) rest).gap).bind fun read =>
        .ok (.sequence .unspecific read.1, read.2) := by
  have past : (inLine i ('[' :: rest)).next = inLine (i + 1) rest := next_inLine (by decide)
  rw [readFlowNode_opens rfl, readContent?, atLimit_inLine inside]
  simp only [Bool.false_eq_true, ↓reduceIte, rest_inLine, past]
  cases readItems fuel [] (inLine (i + 1) rest).gap <;> rfl

theorem readFlowNode_mapping (inside : 0 < i) :
    readFlowNode (fuel + 2) (inLine i ('\x7b' :: rest)) =
      (readPairs fuel [] (inLine (i + 1) rest).gap).bind fun read =>
        .ok (.mapping .unspecific read.1, read.2) := by
  have past : (inLine i ('\x7b' :: rest)).next = inLine (i + 1) rest := next_inLine (by decide)
  rw [readFlowNode_opens rfl, readContent?, atLimit_inLine inside]
  simp only [Bool.false_eq_true, ↓reduceIte, rest_inLine, past]
  cases readPairs fuel [] (inLine (i + 1) rest).gap <;> rfl

theorem readItems_nil (acc : List Node) :
    readItems (fuel + 1) acc (inLine i (']' :: rest)) = .ok (acc.reverse, inLine (i + 1) rest) := by
  have past : (inLine i (']' :: rest)).next = inLine (i + 1) rest := next_inLine (by decide)
  rw [readItems]
  simp [past]

theorem readPairs_nil (acc : List (Node × Node)) :
    readPairs (fuel + 1) acc (inLine i ('\x7d' :: rest)) =
      .ok (acc.reverse, inLine (i + 1) rest) := by
  have past : (inLine i ('\x7d' :: rest)).next = inLine (i + 1) rest := next_inLine (by decide)
  rw [readPairs]
  simp [past]

section

variable {acc : List Node} {node : Node}

theorem readItems_error (opens : opensValue c = true) {cause : Malformed}
    (fails : readFlowNode fuel (inLine i (c :: rest)) = .error cause) :
    readItems (fuel + 1) acc (inLine i (c :: rest)) = .error cause := by
  have other := ne_of_opensValue opens
  rw [readItems]
  simp [other ']' (by decide), other '?' (by decide), fails, Except.bind, bind]

theorem readItems_comma (opens : opensValue c = true) (next : opensValue d = true)
    (reads : readFlowNode fuel (inLine i (c :: rest)) =
      .ok (node, inLine j (',' :: ' ' :: d :: more))) :
    readItems (fuel + 1) acc (inLine i (c :: rest)) =
      readItems fuel (node :: acc) (inLine (j + 2) (d :: more)) := by
  have other := ne_of_opensValue opens
  have past : (inLine j (',' :: ' ' :: d :: more)).next.gap = inLine (j + 2) (d :: more) := by
    rw [next_inLine (by decide), gap_space (begins_of_opensValue next)]
  have stop : (inLine j (',' :: ' ' :: d :: more)).gap = inLine j (',' :: ' ' :: d :: more) :=
    gap_inLine (by decide)
  rw [readItems]
  simp [other ']' (by decide), other '?' (by decide), reads, Except.bind, bind, stop, past, pure,
    Except.pure]

theorem readItems_last (opens : opensValue c = true)
    (reads : readFlowNode fuel (inLine i (c :: rest)) = .ok (node, inLine j (']' :: more))) :
    readItems (fuel + 1) acc (inLine i (c :: rest)) =
      .ok ((node :: acc).reverse, inLine (j + 1) more) := by
  have other := ne_of_opensValue opens
  have past : (inLine j (']' :: more)).next = inLine (j + 1) more := next_inLine (by decide)
  have stop : (inLine j (']' :: more)).gap = inLine j (']' :: more) := gap_inLine (by decide)
  rw [readItems]
  simp [other ']' (by decide), other '?' (by decide), reads, Except.bind, bind, stop, past, pure,
    Except.pure]

end

theorem readFlowValue_opens (opens : opensValue c = true) :
    readFlowValue (fuel + 1) (inLine i (c :: rest)) = readFlowNode fuel (inLine i (c :: rest)) := by
  have other := ne_of_opensValue opens
  rw [readFlowValue]
  simp [other ',' (by decide), other ']' (by decide), other '\x7d' (by decide)]

theorem isKeySpan_inLine : isKeySpan (inLine i rest) (inLine j more) = decide (j - i ≤ 1024) := by
  simp [isKeySpan]

/-- What is read for a pair depends on the length of its key and on its value. -/
theorem readPairs_quote {acc : List (Node × Node)} {key : Node} {name : List Char}
    (readsKey : readFlowNode (fuel + 1) (inLine i ('"' :: name)) =
      .ok (key, inLine j (':' :: ' ' :: d :: more)))
    (opens : opensValue d = true) :
    readPairs (fuel + 2) acc (inLine i ('"' :: name)) =
      if j - i ≤ 1024 then
        (readFlowNode fuel (inLine (j + 2) (d :: more))).bind fun read =>
          match read.2.gap.rest with
          | ',' :: _ => readPairs (fuel + 1) ((key, read.1) :: acc) read.2.gap.next.gap
          | '\x7d' :: _ => .ok (((key, read.1) :: acc).reverse, read.2.gap.next)
          | _ => .error .syntactic
      else .error .syntactic := by
  have stop : (inLine j (':' :: ' ' :: d :: more)).gap = inLine j (':' :: ' ' :: d :: more) :=
    gap_inLine (by decide)
  have past : (inLine j (':' :: ' ' :: d :: more)).next.gap = inLine (j + 2) (d :: more) := by
    rw [next_inLine (by decide), gap_space (begins_of_opensValue opens)]
  rw [readPairs]
  by_cases near : j - i ≤ 1024
  · cases read : readFlowNode fuel (inLine (j + 2) (d :: more)) with
    | error cause =>
      simp [readsKey, bind, Except.bind, stop, isKeySpan_inLine, past, readFlowValue_opens opens,
        near, read]
    | ok pair =>
      simp only [readsKey, bind, Except.bind, stop, isKeySpan_inLine, past,
        readFlowValue_opens opens, near, read, pure, Except.pure]
      rfl
  · simp [readsKey, bind, Except.bind, stop, isKeySpan_inLine, near]

end Chatflow.Yaml
