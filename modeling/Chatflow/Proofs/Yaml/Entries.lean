import Mathlib.Data.List.Forall2
import Chatflow.Schema.Record
import Chatflow.Yaml.Document

/-!
# The entries of a document

Which node of a document gives an entry of its value. The entries of a mapping are followed from the
tree to the value: merge keys are resolved, of equal keys the last one counts at the place of the
first, and each entry of the value is the value of its node.
-/

namespace Chatflow.Yaml

def keyOf (key : Node) : Result Value :=
  match keyScalar? key with
  | some k => .ok k
  | none => valueOf key

mutual

/-- The pairs that merge keys bring in, and the pairs of the mapping itself, as nodes. -/
def nodePairs : List (Node × Node) → List (Node × Node) × List (Node × Node)
  | [] => ([], [])
  | (key, value) :: rest =>
    if isMergeKey key then (mergedPairs value ++ (nodePairs rest).1, (nodePairs rest).2)
    else ((nodePairs rest).1, (key, value) :: (nodePairs rest).2)

def mergedPairs : Node → List (Node × Node)
  | .mapping _ pairs => (nodePairs pairs).1 ++ (nodePairs pairs).2
  | .sequence _ items => (mergedParts items).reverse.flatten
  | .scalar .. => []

def mergedParts : List Node → List (List (Node × Node))
  | [] => []
  | .mapping _ pairs :: rest => ((nodePairs pairs).1 ++ (nodePairs pairs).2) :: mergedParts rest
  | _ :: rest => mergedParts rest

end

structure Denotes (p : Node × Node) (q : Value × Value) : Prop where
  key : keyOf p.1 = .ok q.1
  value : valueOf p.2 = .ok q.2

abbrev DenoteAll : List (Node × Node) → List (Value × Value) → Prop := List.Forall₂ Denotes

section

variable {α β : Type}

theorem bind_eq_ok {r : Result α} {f : α → Result β} {b : β} :
    r >>= f = .ok b ↔ ∃ a, r = .ok a ∧ f a = .ok b := by
  cases r <;> simp [bind, Except.bind]

end

theorem pairsOf_cons {key value : Node} (plain : isMergeKey key ≠ true)
    (rest : List (Node × Node)) :
    pairsOf ((key, value) :: rest) = do
      let k ← keyOf key
      let v ← valueOf value
      let (merged, own) ← pairsOf rest
      return (merged, (k, v) :: own) := by
  rw [pairsOf, if_neg plain]
  unfold keyOf
  cases keyScalar? key <;> rfl

theorem pairsOf_cons_merge {key value : Node} (merges : isMergeKey key = true)
    (rest : List (Node × Node)) :
    pairsOf ((key, value) :: rest) = do
      let here ← mergedOf value
      let (merged, own) ← pairsOf rest
      return (here ++ merged, own) := by
  rw [pairsOf, if_pos merges]

mutual

theorem denoteAll_nodePairs (pairs : List (Node × Node)) {merged own : List (Value × Value)}
    (reads : pairsOf pairs = .ok (merged, own)) :
    DenoteAll (nodePairs pairs).1 merged ∧ DenoteAll (nodePairs pairs).2 own := by
  match pairs with
  | [] =>
    rw [pairsOf] at reads
    cases reads
    rw [nodePairs]
    exact ⟨.nil, .nil⟩
  | (key, value) :: rest =>
    rw [nodePairs]
    by_cases merges : isMergeKey key = true
    · rw [pairsOf_cons_merge merges] at reads
      obtain ⟨here, hereReads, reads⟩ := bind_eq_ok.mp reads
      obtain ⟨⟨more, own'⟩, restReads, reads⟩ := bind_eq_ok.mp reads
      cases reads
      obtain ⟨first, second⟩ := denoteAll_nodePairs rest restReads
      rw [if_pos merges]
      exact ⟨List.rel_append (denoteAll_mergedPairs value hereReads) first, second⟩
    · rw [pairsOf_cons merges] at reads
      obtain ⟨k, keyReads, reads⟩ := bind_eq_ok.mp reads
      obtain ⟨v, valueReads, reads⟩ := bind_eq_ok.mp reads
      obtain ⟨⟨merged', own'⟩, restReads, reads⟩ := bind_eq_ok.mp reads
      cases reads
      obtain ⟨first, second⟩ := denoteAll_nodePairs rest restReads
      rw [if_neg merges]
      exact ⟨first, .cons ⟨keyReads, valueReads⟩ second⟩

theorem denoteAll_mergedPairs (node : Node) {merged : List (Value × Value)}
    (reads : mergedOf node = .ok merged) : DenoteAll (mergedPairs node) merged := by
  match node with
  | .mapping tag pairs =>
    rw [mergedOf] at reads
    obtain ⟨⟨first, own⟩, pairsRead, reads⟩ := bind_eq_ok.mp reads
    cases reads
    obtain ⟨merges, owns⟩ := denoteAll_nodePairs pairs pairsRead
    rw [mergedPairs]
    exact List.rel_append merges owns
  | .sequence tag items =>
    rw [mergedOf] at reads
    obtain ⟨parts, itemsRead, reads⟩ := bind_eq_ok.mp reads
    cases reads
    rw [mergedPairs]
    exact List.rel_flatten (List.rel_reverse (denoteAll_mergedParts items itemsRead))
  | .scalar .. => cases reads

theorem denoteAll_mergedParts (items : List Node) {parts : List (List (Value × Value))}
    (reads : mergedItems items = .ok parts) :
    List.Forall₂ DenoteAll (mergedParts items) parts := by
  match items with
  | [] =>
    cases reads
    exact .nil
  | .mapping tag pairs :: rest =>
    rw [mergedItems] at reads
    obtain ⟨⟨first, own⟩, pairsRead, reads⟩ := bind_eq_ok.mp reads
    obtain ⟨parts, restReads, reads⟩ := bind_eq_ok.mp reads
    cases reads
    obtain ⟨merges, owns⟩ := denoteAll_nodePairs pairs pairsRead
    rw [mergedParts]
    exact .cons (List.rel_append merges owns) (denoteAll_mergedParts rest restReads)
  | .sequence tag more :: rest => cases reads
  | .scalar tag quoted text :: rest => cases reads

end

end Chatflow.Yaml

namespace Chatflow

def Value.pairs : Value → List (Value × Value)
  | .obj entries => entries.map fun e => (.str e.1, e.2)
  | .keyed pairs => pairs
  | _ => []

def Value.at? (v : Value) (key : String) : Option Value :=
  (v.pairs.find? fun p => p.1.text? == some key).map (·.2)

namespace Yaml

/-- The nodes of a mapping under the values of their keys, in the order of its value. -/
def Node.entries : Node → List (Value × Node)
  | .mapping _ pairs =>
    ((nodePairs pairs).1 ++ (nodePairs pairs).2).foldl
      (fun acc p => putKey acc ((keyOf p.1).toOption.getD .null) p.2) []
  | _ => []

def Node.at? (n : Node) (key : String) : Option Node :=
  (n.entries.find? fun p => p.1.text? == some key).map (·.2)

structure Gives (p : Value × Node) (q : Value × Value) : Prop where
  key : p.1 = q.1
  value : valueOf p.2 = .ok q.2

theorem gives_putKey {nodes : List (Value × Node)} {values : List (Value × Value)}
    (give : List.Forall₂ Gives nodes values) {key : Value} {node : Node} {v : Value}
    (reads : valueOf node = .ok v) :
    List.Forall₂ Gives (putKey nodes key node) (putKey values key v) := by
  induction give with
  | nil => exact .cons ⟨rfl, reads⟩ .nil
  | @cons p q nodes values first rest ih =>
    obtain ⟨k, n⟩ := p
    obtain ⟨k', u⟩ := q
    obtain rfl : k = k' := first.key
    rw [putKey, putKey]
    split
    · exact .cons ⟨rfl, reads⟩ rest
    · exact .cons first ih

theorem gives_foldl {pairs : List (Node × Node)} {values : List (Value × Value)}
    (denote : DenoteAll pairs values) {nodes : List (Value × Node)} {acc : List (Value × Value)}
    (give : List.Forall₂ Gives nodes acc) :
    List.Forall₂ Gives
      (pairs.foldl (fun acc p => putKey acc ((keyOf p.1).toOption.getD .null) p.2) nodes)
      (values.foldl (fun acc p => putKey acc p.1 p.2) acc) := by
  induction denote generalizing nodes acc with
  | nil => exact give
  | @cons p q pairs values first rest ih =>
    rw [List.foldl_cons, List.foldl_cons, first.key]
    exact ih (gives_putKey give first.value)

theorem map_str_of_mapM_textPair? {merged : List (Value × Value)} {entries : Entries Value}
    (texts : merged.mapM textPair? = some entries) :
    entries.map (fun e => (Value.str e.1, e.2)) = merged := by
  induction merged generalizing entries with
  | nil =>
    cases texts
    rfl
  | cons p merged ih =>
    rw [List.mapM_cons] at texts
    obtain ⟨e, first, texts⟩ := Option.bind_eq_some_iff.mp texts
    obtain ⟨more, rest, same⟩ := Option.bind_eq_some_iff.mp texts
    cases same
    rw [List.map_cons, ih rest]
    match p, first with
    | (.str key, v), first =>
      cases first
      rfl

theorem pairs_of_mappingOf {pairs : List (Value × Value)} {v : Value}
    (reads : mappingOf pairs = .ok v) :
    v.pairs = pairs.foldl (fun acc p => putKey acc p.1 p.2) [] := by
  unfold mappingOf at reads
  split at reads
  · dsimp only at reads
    split at reads
    · rename_i entries texts
      cases reads
      exact map_str_of_mapM_textPair? texts
    · cases reads
      rfl
  · cases reads

/-- The entries of the value of a mapping are the values of its nodes. -/
theorem gives_entries {tag : Tag} {pairs : List (Node × Node)} {v : Value}
    (reads : valueOf (.mapping tag pairs) = .ok v) :
    List.Forall₂ Gives (Node.mapping tag pairs).entries v.pairs := by
  rw [valueOf] at reads
  split at reads
  · obtain ⟨⟨merged, own⟩, pairsRead, reads⟩ := bind_eq_ok.mp reads
    obtain ⟨merges, owns⟩ := denoteAll_nodePairs pairs pairsRead
    rw [pairs_of_mappingOf reads]
    exact gives_foldl (List.rel_append merges owns) .nil
  · cases reads

theorem gives_find? {nodes : List (Value × Node)} {values : List (Value × Value)}
    (give : List.Forall₂ Gives nodes values) (holds : Value → Bool) {p : Value × Node}
    (found : nodes.find? (holds ·.1) = some p) :
    ∃ q, values.find? (holds ·.1) = some q ∧ Gives p q := by
  induction give with
  | nil => cases found
  | @cons first second nodes values same rest ih =>
    have keys : holds second.1 = holds first.1 := by rw [same.key]
    cases here : holds first.1 with
    | true =>
      rw [List.find?_cons_of_pos (by exact here)] at found
      cases found
      exact ⟨second, List.find?_cons_of_pos (keys.trans here), same⟩
    | false =>
      rw [List.find?_cons_of_neg (by simp [here])] at found
      rw [List.find?_cons_of_neg (by simp [keys, here])]
      exact ih found

/-- What stands under a text in a document has the value that stands there in its value. -/
theorem exists_value_at {n child : Node} {v : Value} {key : String} (reads : valueOf n = .ok v)
    (found : n.at? key = some child) : ∃ u, v.at? key = some u ∧ valueOf child = .ok u := by
  obtain ⟨p, first, rfl⟩ := Option.map_eq_some_iff.mp found
  match n with
  | .mapping tag pairs =>
    obtain ⟨q, second, same⟩ := gives_find? (gives_entries reads) (·.text? == some key) first
    exact ⟨q.2, by rw [Value.at?, second, Option.map_some], same.value⟩

end Yaml

/-! ### Entries of records -/

namespace Value

theorem at?_obj (entries : Entries Value) (key : String) :
    (obj entries).at? key = entries.get? key := by
  unfold at? pairs Table.get?
  rw [List.find?_map, Option.map_map]
  refine congrArg (Option.map _) (congrArg (List.find? · entries) (funext fun e => ?_))
  simp [text?, Function.comp]

theorem at?_keyed (entries : List (Value × Value)) (key : String) :
    (keyed entries).at? key =
      Table.get? (entries.filterMap fun p => p.1.text?.map (·, p.2)) key := by
  unfold at? pairs
  induction entries with
  | nil => rfl
  | cons p entries ih =>
    cases text : p.1.text? with
    | none => simpa [List.find?_cons, text] using ih
    | some name =>
      by_cases same : name = key
      · simp [text, same]
      · simpa [List.find?_cons_of_neg, text, same] using ih

end Value

/-- A record has the entries of the mapping that it is read from. -/
theorem Schema.get?_of_plainRecord {record : String} {v : Value} {es : Entries Value}
    (reads : Schema.plainRecord record v = .ok es) (key : String) : es.get? key = v.at? key := by
  unfold plainRecord at reads
  split at reads
  · cases reads
    exact (Value.at?_obj _ key).symm
  · cases reads
    exact (Value.at?_keyed _ key).symm
  · cases reads

end Chatflow
