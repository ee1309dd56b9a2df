import Mathlib.Data.List.Chain
import Mathlib.Data.Set.Finite.List
import Mathlib.Order.WellFounded

/-!
# Paths and cycles of a relation

A cycle is a closed path through distinct elements. Whatever comes back to itself lies on one
(`exists_isCycle`), and where everything has something before it there is one to find
(`exists_cycle_before`).
-/

namespace Chatflow

open Relation (ReflTransGen TransGen)

variable {α : Type} {r : α → α → Prop}

structure IsCycle (r : α → α → Prop) (first : α) (rest : List α) : Prop where
  distinct : (first :: rest).Nodup
  closed : (first :: rest ++ [first]).IsChain r

theorem reflTransGen_of_isChain {a b : α} {l : List α} (chain : (a :: l).IsChain r)
    (mem : b ∈ a :: l) : ReflTransGen r a b := by
  induction l generalizing a with
  | nil =>
    obtain rfl := List.mem_singleton.mp mem
    exact .refl
  | cons c l ih =>
    obtain ⟨step, chain⟩ := List.isChain_cons_cons.mp chain
    rcases List.mem_cons.mp mem with rfl | mem
    · exact .refl
    · exact .head step (ih chain mem)

theorem transGen_of_isChain {a b : α} {l : List α} (chain : (a :: l).IsChain r) (mem : b ∈ l) :
    TransGen r a b := by
  cases l with
  | nil => cases mem
  | cons c l =>
    obtain ⟨step, chain⟩ := List.isChain_cons_cons.mp chain
    exact .head' step (reflTransGen_of_isChain chain mem)

theorem IsCycle.transGen {first : α} {rest : List α} (cycle : IsCycle r first rest) :
    TransGen r first first :=
  transGen_of_isChain cycle.closed (by simp)

theorem exists_simple_path {a b : α} (path : ReflTransGen r a b) :
    ∃ l : List α, (a :: l).Nodup ∧ (a :: l).IsChain r ∧ (a :: l).getLast? = some b := by
  induction path using ReflTransGen.head_induction_on with
  | refl => exact ⟨[], List.nodup_singleton b, .singleton b, rfl⟩
  | @head a c step _ ih =>
    obtain ⟨l, distinct, chain, last⟩ := ih
    by_cases again : a ∈ c :: l
    · -- The path comes by `a` once more: what it did before that is left out.
      obtain ⟨before, after, split⟩ := List.append_of_mem again
      rw [split] at distinct chain last
      refine ⟨after, (List.nodup_append.mp distinct).2.1, chain.right_of_append, ?_⟩
      rwa [List.getLast?_append_cons] at last
    · refine ⟨c :: l, List.nodup_cons.mpr ⟨again, distinct⟩, .cons_cons step chain, ?_⟩
      rwa [List.getLast?_cons_cons]

theorem exists_isCycle {a : α} (around : TransGen r a a) : ∃ rest, IsCycle r a rest := by
  obtain ⟨b, step, back⟩ := TransGen.head'_iff.mp around
  obtain ⟨l, distinct, chain, last⟩ := exists_simple_path back
  -- The path back ends with `a`, which comes to stand in front.
  obtain ⟨rest, split⟩ := List.getLast?_eq_some_iff.mp last
  rw [split] at distinct chain
  refine ⟨rest, ?_, ?_⟩
  · exact List.nodup_cons.mpr
      ⟨fun mem => (List.nodup_append.mp distinct).2.2 a mem a List.mem_cons_self rfl,
        (List.nodup_append.mp distinct).1⟩
  · rw [List.cons_append]
    exact chain.cons fun c head => by
      have same : c = b := by simpa [← split, eq_comm] using head
      exact same ▸ step

/-- If everything in a list has something of the list before it, there is a cycle before each
element. -/
theorem exists_cycle_before {l : List α} (before : ∀ a ∈ l, ∃ b ∈ l, r b a) {a : α} (mem : a ∈ l) :
    ∃ c, TransGen r c c ∧ ReflTransGen r c a := by
  by_contra none
  push Not at none
  let Before := { b // b ∈ l ∧ ReflTransGen r b a }
  have finite : Finite Before :=
    Set.Finite.subset (List.finite_toSet l) (fun b hb => hb.1)
  let earlier : Before → Before → Prop := fun b c => TransGen r b.1 c.1
  have trans : IsTrans Before earlier := ⟨fun _ _ _ first second => first.trans second⟩
  have irrefl : Std.Irrefl earlier := ⟨fun b around => none b.1 around b.2.2⟩
  have wellFounded := Finite.wellFounded_of_trans_of_irrefl earlier
  obtain ⟨least, -, minimal⟩ := wellFounded.has_min Set.univ ⟨⟨a, mem, .refl⟩, trivial⟩
  obtain ⟨b, hb, step⟩ := before least.1 least.2.1
  exact minimal ⟨b, hb, .head step least.2.2⟩ trivial (.single step)

end Chatflow
