import Chatflow.Proofs.Flow.Path

/-!
# The order in which nodes settle

Nodes wait in a queue until no open arc leads to them. The order has each node once
(`nodup_settlingOrder`), after the sources of all arcs that lead to it (`source_mem_of_append`), and
it stops only when nothing is ready any more (`mem_settlingOrder_iff`).
-/

namespace Chatflow

namespace Graph

def openAfter (opened : List Arc) (id : String) : List Arc := opened.filter (·.source != id)

/-- The nodes that join the queue when a node is settled. -/
def readyAfter (opened : List Arc) (id : String) : List String :=
  readied (openAfter opened id) (opened.filter (·.source == id))

theorem settlingOrder_nil (fuel : Nat) (opened : List Arc) : settlingOrder fuel opened [] = [] := by
  cases fuel <;> rfl

theorem settlingOrder_cons (fuel : Nat) (opened : List Arc) (id : String) (queue : List String) :
    settlingOrder (fuel + 1) opened (id :: queue) =
      id :: settlingOrder fuel (openAfter opened id) (queue ++ readyAfter opened id) := by
  rw [settlingOrder, List.partition_eq_filter_filter]
  rfl

theorem mem_openAfter {a : Arc} {opened : List Arc} {id : String} :
    a ∈ openAfter opened id ↔ a ∈ opened ∧ a.source ≠ id := by
  simp [openAfter]

theorem mem_readied {rest own : List Arc} {id : String} :
    id ∈ readied rest own ↔ (∃ a ∈ own, a.target = id) ∧ ∀ a ∈ rest, a.target ≠ id := by
  induction own with
  | nil => simp [readied]
  | cons arc more ih =>
    rw [readied]
    split
    · rename_i again
      simp only [Bool.or_eq_true, List.any_eq_true, beq_iff_eq] at again
      rw [ih]
      constructor
      · rintro ⟨⟨a, ha, eq⟩, none⟩
        exact ⟨⟨a, List.mem_cons_of_mem arc ha, eq⟩, none⟩
      · rintro ⟨⟨a, ha, eq⟩, none⟩
        refine ⟨?_, none⟩
        rcases List.mem_cons.mp ha with rfl | ha
        · rcases again with ⟨b, hb, same⟩ | ⟨b, hb, same⟩
          · exact ⟨b, hb, same.trans eq⟩
          · exact absurd (same.trans eq) (none b hb)
        · exact ⟨a, ha, eq⟩
    · rename_i last
      simp only [Bool.or_eq_true, List.any_eq_true, beq_iff_eq, not_or] at last
      rw [List.mem_cons, ih]
      constructor
      · rintro (rfl | ⟨⟨a, ha, eq⟩, none⟩)
        · exact ⟨⟨arc, List.mem_cons_self, rfl⟩, fun a ha eq => last.2 ⟨a, ha, eq⟩⟩
        · exact ⟨⟨a, List.mem_cons_of_mem arc ha, eq⟩, none⟩
      · rintro ⟨⟨a, ha, rfl⟩, none⟩
        rcases List.mem_cons.mp ha with rfl | ha
        · exact .inl rfl
        · exact .inr ⟨⟨a, ha, rfl⟩, none⟩

theorem nodup_readied (rest own : List Arc) : (readied rest own).Nodup := by
  induction own with
  | nil => exact List.nodup_nil
  | cons arc more ih =>
    rw [readied]
    split
    · exact ih
    · rename_i last
      refine List.nodup_cons.mpr ⟨fun mem => last ?_, ih⟩
      obtain ⟨a, ha, eq⟩ := (mem_readied.mp mem).1
      simp only [Bool.or_eq_true, List.any_eq_true, beq_iff_eq]
      exact .inl ⟨a, ha, eq⟩

theorem length_readied_le (rest own : List Arc) : (readied rest own).length ≤ own.length := by
  induction own with
  | nil => exact Nat.le_refl 0
  | cons arc more ih =>
    rw [readied]
    split
    · exact Nat.le_succ_of_le ih
    · exact Nat.succ_le_succ ih

theorem mem_readyAfter {opened : List Arc} {id v : String} :
    v ∈ readyAfter opened id ↔ (∃ a ∈ opened, a.source = id ∧ a.target = v) ∧
      ∀ a ∈ opened, a.target = v → a.source = id := by
  simp only [readyAfter, mem_readied, List.mem_filter, beq_iff_eq, and_assoc, mem_openAfter]
  constructor
  · rintro ⟨own, none⟩
    exact ⟨own, fun a ha eq => by_contra fun ne => none a ⟨ha, ne⟩ eq⟩
  · rintro ⟨own, all⟩
    exact ⟨own, fun a ha eq => ha.2 (all a ha.1 eq)⟩

/-- Settling a node costs as much fuel as it frees: each node that joins closes an arc. -/
theorem length_after_le (opened : List Arc) (id : String) :
    (readyAfter opened id).length + (openAfter opened id).length ≤ opened.length := by
  have joins := length_readied_le (openAfter opened id) (opened.filter (·.source == id))
  have split := List.length_eq_length_filter_add (l := opened) (·.source == id)
  have rest : (openAfter opened id).length = (opened.filter (!·.source == id)).length := rfl
  unfold readyAfter
  omega

/-! ### The queue -/

structure Queued (opened : List Arc) (queue : List String) : Prop where
  nodup : queue.Nodup
  free : ∀ id ∈ queue, ∀ a ∈ opened, a.target ≠ id

variable {opened : List Arc} {id : String} {queue : List String}

theorem Queued.join (queued : Queued opened queue) (id : String) :
    Queued (openAfter opened id) (queue ++ readyAfter opened id) where
  nodup := by
    refine List.nodup_append.mpr ⟨queued.nodup, nodup_readied _ _, ?_⟩
    rintro v hv w hw rfl
    obtain ⟨⟨a, mem, -, target⟩, -⟩ := mem_readyAfter.mp hw
    exact queued.free v hv a mem target
  free := by
    intro v hv a ha target
    obtain ⟨mem, other⟩ := mem_openAfter.mp ha
    rcases List.mem_append.mp hv with waiting | joined
    · exact queued.free v waiting a mem target
    · exact other ((mem_readyAfter.mp joined).2 a mem target)

theorem Queued.settle (queued : Queued opened (id :: queue)) :
    Queued (openAfter opened id) (queue ++ readyAfter opened id) :=
  Queued.join ⟨(List.nodup_cons.mp queued.nodup).2,
    fun v hv => queued.free v (List.mem_cons_of_mem id hv)⟩ id

theorem queued_or_target (fuel : Nat) (opened : List Arc) (queue : List String) {v : String}
    (mem : v ∈ settlingOrder fuel opened queue) : v ∈ queue ∨ ∃ a ∈ opened, a.target = v := by
  induction fuel generalizing opened queue with
  | zero => cases mem
  | succ fuel ih =>
    cases queue with
    | nil => cases mem
    | cons id queue =>
      rw [settlingOrder_cons] at mem
      rcases List.mem_cons.mp mem with rfl | later
      · exact .inl List.mem_cons_self
      · rcases ih _ _ later with waiting | ⟨a, ha, target⟩
        · rcases List.mem_append.mp waiting with waiting | joined
          · exact .inl (List.mem_cons_of_mem id waiting)
          · obtain ⟨⟨a, ha, -, target⟩, -⟩ := mem_readyAfter.mp joined
            exact .inr ⟨a, ha, target⟩
        · exact .inr ⟨a, (mem_openAfter.mp ha).1, target⟩

theorem nodup_settlingOrder (fuel : Nat) (queued : Queued opened queue) :
    (settlingOrder fuel opened queue).Nodup := by
  induction fuel generalizing opened queue with
  | zero => exact List.nodup_nil
  | succ fuel ih =>
    cases queue with
    | nil => exact List.nodup_nil
    | cons id queue =>
      rw [settlingOrder_cons]
      refine List.nodup_cons.mpr ⟨fun again => ?_, ih queued.settle⟩
      have free := queued.free id List.mem_cons_self
      rcases queued_or_target _ _ _ again with waiting | ⟨a, ha, target⟩
      · rcases List.mem_append.mp waiting with waiting | joined
        · exact (List.nodup_cons.mp queued.nodup).1 waiting
        · obtain ⟨⟨a, ha, -, target⟩, -⟩ := mem_readyAfter.mp joined
          exact free a ha target
      · exact free a (mem_openAfter.mp ha).1 target

/-- A node settles after the sources of all arcs that lead to it. -/
theorem source_mem_of_append (fuel : Nat) (queued : Queued opened queue)
    {before after : List String}
    {v : String} (order : settlingOrder fuel opened queue = before ++ v :: after) {a : Arc}
    (mem : a ∈ opened) (target : a.target = v) : a.source ∈ before := by
  induction fuel generalizing opened queue before with
  | zero => simp [settlingOrder] at order
  | succ fuel ih =>
    cases queue with
    | nil => simp [settlingOrder] at order
    | cons id queue =>
      rw [settlingOrder_cons] at order
      cases before with
      | nil =>
        obtain ⟨rfl, -⟩ := List.cons.inj order
        exact absurd target (queued.free id List.mem_cons_self a mem)
      | cons first before =>
        rw [List.cons_append] at order
        obtain ⟨rfl, rest⟩ := List.cons.inj order
        by_cases own : a.source = id
        · exact own ▸ List.mem_cons_self
        · exact List.mem_cons_of_mem id
            (ih queued.settle rest (mem_openAfter.mpr ⟨mem, own⟩))

/-- The source of an arc stands before its target in the order, if the target is settled. -/
theorem idxOf_source_lt (fuel : Nat) (queued : Queued opened queue) {a : Arc} (mem : a ∈ opened)
    (settled : a.target ∈ settlingOrder fuel opened queue) :
    a.source ∈ settlingOrder fuel opened queue ∧
      (settlingOrder fuel opened queue).idxOf a.source <
        (settlingOrder fuel opened queue).idxOf a.target := by
  have nodup := nodup_settlingOrder fuel queued
  obtain ⟨before, after, order⟩ := List.append_of_mem settled
  have earlier := source_mem_of_append fuel queued order mem rfl
  rw [order] at nodup ⊢
  have fresh : a.target ∉ before := fun again =>
    (List.nodup_append.mp nodup).2.2 _ again _ List.mem_cons_self rfl
  refine ⟨List.mem_append_left _ earlier, ?_⟩
  rw [List.idxOf_append_of_mem earlier, List.idxOf_append_of_notMem fresh, List.idxOf_cons_self]
  exact List.idxOf_lt_length_of_mem earlier

/-- With enough fuel the whole queue is settled, and every node to which arcs lead only from settled
nodes. -/
theorem settlingOrder_complete (fuel : Nat) (queued : Queued opened queue)
    (enough : queue.length + opened.length ≤ fuel) :
    (∀ v ∈ queue, v ∈ settlingOrder fuel opened queue) ∧
      ∀ v, (∃ a ∈ opened, a.target = v) →
        (∀ a ∈ opened, a.target = v → a.source ∈ settlingOrder fuel opened queue) →
        v ∈ settlingOrder fuel opened queue := by
  induction fuel generalizing opened queue with
  | zero =>
    obtain rfl : queue = [] := List.length_eq_zero_iff.mp (by omega)
    obtain rfl : opened = [] := List.length_eq_zero_iff.mp (by omega)
    simp
  | succ fuel ih =>
    cases queue with
    | nil =>
      rw [settlingOrder_nil]
      refine ⟨by simp, ?_⟩
      rintro v ⟨a, mem, target⟩ all
      cases all a mem target
    | cons id queue =>
      have cost := length_after_le opened id
      simp only [List.length_cons] at enough
      have ⟨settles, closes⟩ := ih queued.settle (by rw [List.length_append]; omega)
      rw [settlingOrder_cons]
      constructor
      · intro v hv
        rcases List.mem_cons.mp hv with rfl | waiting
        · exact List.mem_cons_self
        · exact List.mem_cons_of_mem id (settles v (List.mem_append_left _ waiting))
      · rintro v ⟨a, mem, target⟩ all
        apply List.mem_cons_of_mem id
        by_cases last : ∀ b ∈ opened, b.target = v → b.source = id
        · have joined : v ∈ readyAfter opened id :=
            mem_readyAfter.mpr ⟨⟨a, mem, last a mem target, target⟩, last⟩
          exact settles v (List.mem_append_right _ joined)
        · push Not at last
          obtain ⟨b, hb, target, other⟩ := last
          refine closes v ⟨b, mem_openAfter.mpr ⟨hb, other⟩, target⟩ ?_
          intro c hc target
          obtain ⟨hc, other⟩ := mem_openAfter.mp hc
          exact (List.mem_cons.mp (all c hc target)).resolve_left other

/-- The settled nodes are those of the queue and those to which arcs lead, but only from settled
nodes. -/
theorem mem_settlingOrder_iff {fuel : Nat} (queued : Queued opened queue)
    (enough : queue.length + opened.length ≤ fuel) {v : String} :
    v ∈ settlingOrder fuel opened queue ↔ v ∈ queue ∨ (∃ a ∈ opened, a.target = v) ∧
      ∀ a ∈ opened, a.target = v → a.source ∈ settlingOrder fuel opened queue := by
  have ⟨settles, closes⟩ := settlingOrder_complete fuel queued enough
  constructor
  · intro mem
    refine (queued_or_target _ _ _ mem).imp_right fun target => ⟨target, fun a ha eq => ?_⟩
    obtain ⟨before, after, order⟩ := List.append_of_mem mem
    rw [order]
    exact List.mem_append_left _ (source_mem_of_append fuel queued order ha eq)
  · rintro (waiting | ⟨target, all⟩)
    · exact settles v waiting
    · exact closes v target all

/-- Once there is enough fuel, more of it changes nothing: the queue has run empty. -/
theorem settlingOrder_of_le {fuel more : Nat} (enough : queue.length + opened.length ≤ fuel)
    (le : fuel ≤ more) : settlingOrder more opened queue = settlingOrder fuel opened queue := by
  induction fuel generalizing more opened queue with
  | zero =>
    obtain rfl : queue = [] := List.length_eq_zero_iff.mp (by omega)
    rw [settlingOrder_nil, settlingOrder_nil]
  | succ fuel ih =>
    cases queue with
    | nil => rw [settlingOrder_nil, settlingOrder_nil]
    | cons id queue =>
      obtain ⟨more, rfl⟩ : ∃ n, more = n + 1 := ⟨more - 1, by omega⟩
      have cost := length_after_le opened id
      simp only [List.length_cons] at enough
      rw [settlingOrder_cons, settlingOrder_cons,
        ih (by rw [List.length_append]; omega) (Nat.le_of_succ_le_succ le)]

end Graph

end Chatflow
