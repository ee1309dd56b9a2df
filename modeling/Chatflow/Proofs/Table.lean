import Chatflow.Table
import Mathlib.Data.List.Nodup
import Mathlib.Data.List.Perm.Basic

/-!
# Lookups in tables

What is found in a table after entries were put into it or erased. Of the entries that are put under
one key the last one counts (`get?_merge`).
-/

namespace Chatflow.Table

variable {κ α : Type} [BEq κ] [LawfulBEq κ]

theorem mem_of_get? {t : Table κ α} {key : κ} {value : α} (found : t.get? key = some value) :
    (key, value) ∈ t := by
  obtain ⟨e, he, rfl⟩ := Option.map_eq_some_iff.mp found
  obtain rfl : e.1 = key := by simpa using List.find?_some he
  exact List.mem_of_find?_eq_some he

theorem exists_get?_of_mem_names {t : Table κ α} {key : κ} (mem : key ∈ t.names) :
    ∃ value, t.get? key = some value := by
  obtain ⟨e, there, rfl⟩ := List.mem_map.mp mem
  have contains : t.contains e.1 = true := List.any_eq_true.mpr ⟨e, there, beq_self_eq_true e.1⟩
  exact Option.isSome_iff_exists.mp ((contains_iff_get?_isSome t e.1).mp contains)

omit [BEq κ] [LawfulBEq κ] in
theorem eq_of_mem_names {t : Table κ α} (nodup : t.names.Nodup) {key : κ} {a b : α}
    (first : (key, a) ∈ t) (second : (key, b) ∈ t) : a = b :=
  congrArg Prod.snd (List.inj_on_of_nodup_map nodup first second rfl)

/-! ### Entries that are put -/

theorem mem_put {t : Table κ α} {key : κ} {value : α} {e : κ × α} (mem : e ∈ t.put key value) :
    e ∈ t ∨ e = (key, value) := by
  induction t with
  | nil => exact .inr (List.mem_singleton.mp mem)
  | cons first t ih =>
    obtain ⟨k, v⟩ := first
    rw [put] at mem
    split at mem
    · rename_i same
      obtain rfl : k = key := by simpa using same
      rcases List.mem_cons.mp mem with rfl | later
      · exact .inr rfl
      · exact .inl (List.mem_cons_of_mem _ later)
    · rcases List.mem_cons.mp mem with rfl | later
      · exact .inl List.mem_cons_self
      · exact (ih later).imp_left (List.mem_cons_of_mem _)

theorem get?_put [DecidableEq κ] (t : Table κ α) (key other : κ) (value : α) :
    (t.put key value).get? other = if other = key then some value else t.get? other := by
  split
  · rename_i same
    rw [same, get?_put_self]
  · rename_i differ
    exact get?_put_of_ne t value differ

/-- Of the entries under one key that are put into a table the last one counts. -/
theorem get?_merge (t others : Table κ α) (key : κ) :
    (t.merge others).get? key =
      ((others.reverse.find? (·.1 == key)).map (·.2)).or (t.get? key) := by
  unfold merge
  induction others generalizing t with
  | nil => rfl
  | cons e others ih =>
    rw [List.foldl_cons, ih, List.reverse_cons, List.find?_append]
    cases others.reverse.find? (·.1 == key) with
    | some later => rfl
    | none =>
      by_cases same : e.1 = key
      · simp [same, get?_put_self]
      · simp [same, get?_put_of_ne t e.2 (Ne.symm same)]

theorem get?_ofPairs (pairs : List (κ × α)) (key : κ) :
    Table.get? (ofPairs pairs) key = (pairs.reverse.find? (·.1 == key)).map (·.2) := by
  rw [ofPairs, get?_merge, get?_nil, Option.or_none]

theorem mem_merge {t others : Table κ α} {e : κ × α} (mem : e ∈ t.merge others) :
    e ∈ t ∨ e ∈ others := by
  unfold merge at mem
  induction others generalizing t with
  | nil => exact .inl mem
  | cons first others ih =>
    rcases ih mem with put | later
    · rcases mem_put put with old | rfl
      · exact .inl old
      · exact .inr List.mem_cons_self
    · exact .inr (List.mem_cons_of_mem _ later)

theorem mem_names_merge {t others : Table κ α} {key : κ} (mem : key ∈ (t.merge others).names) :
    key ∈ t.names ∨ key ∈ others.names := by
  obtain ⟨e, entry, rfl⟩ := List.mem_map.mp mem
  exact (mem_merge entry).imp List.mem_map_of_mem List.mem_map_of_mem

theorem get?_merge_of_not_mem (t : Table κ α) {others : Table κ α} {key : κ}
    (other : key ∉ others.names) : (t.merge others).get? key = t.get? key := by
  have unfound : others.reverse.find? (·.1 == key) = none := by
    refine List.find?_eq_none.mpr fun e mem same => other ?_
    exact List.mem_map.mpr ⟨e, List.mem_reverse.mp mem, eq_of_beq same⟩
  rw [get?_merge, unfound]
  rfl

/-- When all entries under a key that are put have one value, that value is found. -/
theorem get?_merge_eq_some (t : Table κ α) {others : Table κ α} {key : κ} {value : α}
    (mem : (key, value) ∈ others) (only : ∀ e ∈ others, e.1 = key → e.2 = value) :
    (t.merge others).get? key = some value := by
  have found : (others.reverse.find? (·.1 == key)).isSome = true :=
    List.find?_isSome.mpr ⟨_, List.mem_reverse.mpr mem, BEq.rfl⟩
  obtain ⟨e, last⟩ := Option.isSome_iff_exists.mp found
  have own : e.1 = key := by simpa using List.find?_some last
  rw [get?_merge, last, Option.map_some, Option.some_or,
    only e (List.mem_reverse.mp (List.mem_of_find?_eq_some last)) own]

/-! ### Entries under distinct keys -/

theorem put_of_not_mem {t : Table κ α} {key : κ} (new : key ∉ t.names) (value : α) :
    t.put key value = t ++ [(key, value)] := by
  induction t with
  | nil => rfl
  | cons e t ih =>
    obtain ⟨other, new⟩ := not_or.mp (mt List.mem_cons.mpr new)
    rw [put, if_neg (by simpa using Ne.symm other), ih new]
    rfl

theorem length_put_of_mem {t : Table κ α} {key : κ} (old : key ∈ t.names) (value : α) :
    (t.put key value).length = t.length := by
  induction t with
  | nil => cases old
  | cons e t ih =>
    rw [put]
    split
    · rfl
    · rename_i other
      rcases List.mem_cons.mp old with rfl | old
      · exact absurd (beq_self_eq_true _) other
      · rw [List.length_cons, List.length_cons, ih old]

/-- Entries under new and distinct keys are put one after the other. -/
theorem merge_of_nodup {t others : Table κ α} (nodup : (names (t ++ others)).Nodup) :
    t.merge others = t ++ others := by
  unfold merge
  induction others generalizing t with
  | nil => exact (List.append_nil t).symm
  | cons e others ih =>
    have split : t ++ e :: others = (t ++ [e]) ++ others := by simp
    have new : e.1 ∉ t.names := fun mem => by
      have disjoint := nodup
      rw [names, List.map_append] at disjoint
      exact (List.nodup_append.mp disjoint).2.2 _ mem _ (by simp) rfl
    rw [List.foldl_cons, put_of_not_mem new, split]
    exact ih (split ▸ nodup)

theorem ofPairs_of_nodup {pairs : List (κ × α)} (nodup : (names pairs).Nodup) :
    ofPairs pairs = pairs :=
  merge_of_nodup (t := []) nodup

/-- Entries that are put are one after the other, or fewer than before. -/
theorem merge_eq_or_lt [DecidableEq κ] (t others : Table κ α) :
    t.merge others = t ++ others ∨ (t.merge others).length < (t ++ others).length := by
  unfold merge
  induction others generalizing t with
  | nil => exact .inl (List.append_nil t).symm
  | cons e others ih =>
    rw [List.foldl_cons]
    by_cases old : e.1 ∈ t.names
    · have same := length_put_of_mem old e.2
      refine .inr ?_
      rcases ih (t.put e.1 e.2) with whole | fewer
      · rw [whole, List.length_append, List.length_append, same, List.length_cons]
        omega
      · rw [List.length_append, same] at fewer
        rw [List.length_append, List.length_cons]
        omega
    · rw [put_of_not_mem old]
      simpa using ih (t ++ [e])

theorem ofPairs_eq_or_lt [DecidableEq κ] (pairs : List (κ × α)) :
    ofPairs pairs = pairs ∨ (ofPairs pairs).length < pairs.length := merge_eq_or_lt [] pairs

/-! ### Entries that are erased -/

theorem mem_erase {t : Table κ α} {key : κ} {e : κ × α} :
    e ∈ t.erase key ↔ e ∈ t ∧ e.1 ≠ key := by
  simp [erase]

theorem erase_of_not_mem {t : Table κ α} {key : κ} (new : key ∉ t.names) : t.erase key = t := by
  refine List.filter_eq_self.mpr fun e he => ?_
  have other : e.1 ≠ key := fun same => new (List.mem_map.mpr ⟨e, he, same⟩)
  simpa using other

theorem get?_erase [DecidableEq κ] (t : Table κ α) (key other : κ) :
    (t.erase key).get? other = if other = key then none else t.get? other := by
  induction t with
  | nil => simp [erase]
  | cons e t ih =>
    simp only [erase] at ih
    by_cases mine : e.1 = key
    · rw [erase, List.filter_cons_of_neg (by simp [mine]), ih]
      by_cases same : other = key
      · rw [if_pos same, if_pos same]
      · rw [if_neg same, if_neg same, get?_cons,
          if_neg (by simpa using fun own => same (own.symm.trans mine))]
    · rw [erase, List.filter_cons_of_pos (by simpa using mine), get?_cons, get?_cons, ih]
      by_cases same : other = key
      · simp [same, mine]
      · rw [if_neg same, if_neg same]

theorem get?_erase_append (t : Table κ α) (key : κ) (value : α) :
    Table.get? (t.erase key ++ [(key, value)]) key = some value := by
  have erased : (t.erase key).find? (·.1 == key) = none :=
    List.find?_eq_none.mpr fun e mem same => (mem_erase.mp mem).2 (eq_of_beq same)
  rw [get?, List.find?_append, erased]
  simp

theorem erase_erase_append (t : Table κ α) (key : κ) (value : α) :
    Table.erase (t.erase key ++ [(key, value)]) key = t.erase key := by
  simp [erase, List.filter_append]

theorem perm_cons_erase {t : Table κ α} (nodup : t.names.Nodup) {e : κ × α} (mem : e ∈ t) :
    t.Perm (e :: t.erase e.1) := by
  induction t with
  | nil => cases mem
  | cons first rest ih =>
    obtain ⟨new, nodup⟩ := List.nodup_cons.mp nodup
    rcases List.mem_cons.mp mem with rfl | later
    · have kept : erase (e :: rest) e.1 = rest := by
        rw [erase, List.filter_cons_of_neg (by simp)]
        exact erase_of_not_mem new
      rw [kept]
    · have other : first.1 ≠ e.1 := fun same => new (List.mem_map.mpr ⟨e, later, same.symm⟩)
      have kept : erase (first :: rest) e.1 = first :: erase rest e.1 :=
        List.filter_cons_of_pos (by simpa using other)
      rw [kept]
      exact ((ih nodup later).cons first).trans (.swap e first _)

end Chatflow.Table
