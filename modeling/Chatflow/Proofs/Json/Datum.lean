import Chatflow.Json.Datum
import Chatflow.Proofs.Text.Unit

/-!
# Values as data

A value is at most one datum, and a datum is at most one value.
-/

namespace Chatflow

open Json (Datum Members)

namespace Value

theorem dataOf?_cons_eq_some_iff {v : Value} {items : List Value} {data : List Datum} :
    dataOf? (v :: items) = some data ↔
      ∃ d more, v.datum? = some d ∧ dataOf? items = some more ∧ d :: more = data := by
  rw [dataOf?]
  cases v.datum? <;> cases dataOf? items <;> simp

theorem membersOf?_cons_eq_some_iff {name : String} {v : Value} {entries : List (String × Value)}
    {members : Members} :
    membersOf? ((name, v) :: entries) = some members ↔
      ∃ d more, v.datum? = some d ∧ membersOf? entries = some more ∧
        (Text.points name, d) :: more = members := by
  rw [membersOf?]
  cases v.datum? <;> cases membersOf? entries <;> simp

theorem names_of_membersOf? {entries : List (String × Value)} {members : Members}
    (found : membersOf? entries = some members) :
    Table.names members = (Table.names entries).map Text.points := by
  induction entries generalizing members with
  | nil =>
    obtain rfl := Option.some.inj found
    rfl
  | cons e entries ih =>
    obtain ⟨d, more, -, others, rfl⟩ := membersOf?_cons_eq_some_iff.mp found
    exact congrArg (Text.points e.1 :: ·) (ih others)

/-! ### The value of a datum -/

mutual

def ofDatum : Datum → Value
  | .null => .null
  | .bool b => .bool b
  | .int n _ => .int n
  | .float x => .float x
  | .str text => .str (String.ofList (text.map Text.ofPoint))
  | .list items => .list (ofData items)
  | .obj entries => .obj (ofMembers entries)

def ofData : List Datum → List Value
  | [] => []
  | d :: rest => ofDatum d :: ofData rest

def ofMembers : List (List Text.Point × Datum) → List (String × Value)
  | [] => []
  | (name, d) :: rest => (String.ofList (name.map Text.ofPoint), ofDatum d) :: ofMembers rest

end

mutual

theorem ofDatum_of_datum? : ∀ (v : Value) {d : Datum}, v.datum? = some d → ofDatum d = v
  | .null, _, found | .bool _, _, found | .float _, _, found => by
    obtain rfl := Option.some.inj found
    rfl
  | .int n, _, found => by
    unfold datum? at found
    split at found
    · obtain rfl := Option.some.inj found
      rfl
    · cases found
  | .str s, _, found => by
    obtain rfl := Option.some.inj found
    rw [ofDatum, Text.map_ofPoint_points, String.ofList_toList]
  | .list items, _, found => by
    obtain ⟨data, inner, rfl⟩ := Option.map_eq_some_iff.mp found
    rw [ofDatum, ofData_of_dataOf? items inner]
  | .obj entries, _, found => by
    obtain ⟨members, inner, rfl⟩ := Option.map_eq_some_iff.mp found
    rw [ofDatum, ofMembers_of_membersOf? entries inner]
  | .stamp _, _, found => nomatch found
  | .keyed _, _, found => nomatch found

theorem ofData_of_dataOf? : ∀ (items : List Value) {data : List Datum},
    dataOf? items = some data → ofData data = items
  | [], _, found => by
    obtain rfl := Option.some.inj found
    rfl
  | v :: items, _, found => by
    obtain ⟨d, more, first, others, rfl⟩ := dataOf?_cons_eq_some_iff.mp found
    rw [ofData, ofDatum_of_datum? v first, ofData_of_dataOf? items others]

theorem ofMembers_of_membersOf? : ∀ (entries : List (String × Value)) {members : Members},
    membersOf? entries = some members → ofMembers members = entries
  | [], _, found => by
    obtain rfl := Option.some.inj found
    rfl
  | (name, v) :: entries, _, found => by
    obtain ⟨d, more, first, others, rfl⟩ := membersOf?_cons_eq_some_iff.mp found
    rw [ofMembers, ofDatum_of_datum? v first, ofMembers_of_membersOf? entries others,
      Text.map_ofPoint_points, String.ofList_toList]

end

theorem eq_of_datum? {v w : Value} {d : Datum} (left : v.datum? = some d)
    (right : w.datum? = some d) :
    v = w := by
  rw [← ofDatum_of_datum? v left, ofDatum_of_datum? w right]

end Value

end Chatflow
