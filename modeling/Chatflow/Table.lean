/-!
# Ordered tables

Values by key, in the order in which the keys were first put. Putting a key again replaces its
value in place.
-/

namespace Chatflow

/-- Values by key; `put` keeps the keys distinct. -/
abbrev Table (κ α : Type) := List (κ × α)

/-- A table whose keys are names. -/
abbrev Entries (α : Type) := Table String α

namespace Table

variable {κ α : Type} [BEq κ]

def get? (t : Table κ α) (key : κ) : Option α :=
  (t.find? (·.1 == key)).map (·.2)

def contains (t : Table κ α) (key : κ) : Bool := t.any (·.1 == key)

/-- The keys in order. -/
def names (t : Table κ α) : List κ := t.map (·.1)

def put : Table κ α → κ → α → Table κ α
  | [], key, value => [(key, value)]
  | (k, v) :: rest, key, value =>
    if k == key then (k, value) :: rest else (k, v) :: put rest key value

def erase (t : Table κ α) (key : κ) : Table κ α := t.filter (·.1 != key)

/-- Puts all entries of the second table, in order. -/
def merge (t others : Table κ α) : Table κ α := others.foldl (fun acc e => acc.put e.1 e.2) t

/-- The table that remains when a list of pairs is put into the empty one. -/
def ofPairs (pairs : List (κ × α)) : Table κ α := merge [] pairs

@[simp] theorem get?_nil (key : κ) : get? ([] : Table κ α) key = none := rfl

@[simp] theorem get?_cons (k : κ) (v : α) (t : Table κ α) (key : κ) :
    get? ((k, v) :: t) key = if k == key then some v else get? t key := by
  unfold get?
  rw [List.find?_cons]
  cases h : (k == key) <;> simp

variable [LawfulBEq κ]

theorem get?_put_self (t : Table κ α) (key : κ) (value : α) :
    (t.put key value).get? key = some value := by
  induction t with
  | nil => simp [put]
  | cons e t ih =>
    obtain ⟨k, v⟩ := e
    by_cases h : (k == key) = true
    · simp [put, h]
    · simp [put, h, ih]

theorem get?_put_of_ne (t : Table κ α) {key other : κ} (value : α) (ne : other ≠ key) :
    (t.put key value).get? other = t.get? other := by
  induction t with
  | nil => simp [put, Ne.symm ne]
  | cons e t ih =>
    obtain ⟨k, v⟩ := e
    by_cases h : (k == key) = true
    · have hk : k = key := by simpa using h
      subst hk
      simp [put, Ne.symm ne]
    · simp [put, h, ih]

theorem contains_iff_get?_isSome (t : Table κ α) (key : κ) :
    t.contains key = true ↔ (t.get? key).isSome = true := by
  induction t with
  | nil => simp [contains]
  | cons e t ih =>
    obtain ⟨k, v⟩ := e
    by_cases h : k = key
    · simp [contains, h]
    · simpa [contains, h] using ih

end Table

end Chatflow
