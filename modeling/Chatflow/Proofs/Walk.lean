import Chatflow.Flow.Walk
import Mathlib.Algebra.GroupWithZero.Nat
import Mathlib.Data.List.Nodup
import Mathlib.Logic.Relation

/-!
# What a walk meets

A walk with enough fuel meets exactly the states that steps lead to from its starts, each once.
Fuel is enough for the stack and for every step that leaves a state not met yet. With enough of it a
walk is what the loop without a bound comes to (`stops_walk`).
-/

namespace Chatflow

def Steps {σ : Type} (next : σ → List σ) : σ → σ → Prop :=
  Relation.ReflTransGen fun s t => t ∈ next s

/-- A loop makes a number of rounds from one state, and stops in another. -/
structure Stops {τ : Type} (round? : τ → Option τ) (s t : τ) : Prop where
  rounds : Relation.ReflTransGen (fun s t => round? s = some t) s t
  last : round? t = none

theorem Stops.head {τ : Type} {round? : τ → Option τ} {s t u : τ} (round : round? s = some t)
    (stops : Stops round? t u) : Stops round? s u :=
  ⟨.head round stops.rounds, stops.last⟩

variable {σ : Type} [DecidableEq σ] {next : σ → List σ}

theorem nodup_walkFrom (fuel : Nat) (seen stack : List σ) (nodup : seen.Nodup) :
    (walkFrom next fuel seen stack).Nodup := by
  induction fuel generalizing seen stack with
  | zero => exact nodup
  | succ fuel ih =>
    cases stack with
    | nil => exact nodup
    | cons s stack =>
      rw [walkFrom]
      split
      · exact ih seen stack nodup
      · rename_i fresh
        have new : s ∉ seen := by simpa using fresh
        exact ih _ _ (List.nodup_cons.mpr ⟨new, nodup⟩)

theorem steps_of_mem_walkFrom (fuel : Nat) (seen stack : List σ) {t : σ}
    (met : t ∈ walkFrom next fuel seen stack) :
    t ∈ seen ∨ ∃ s ∈ stack, Steps next s t := by
  induction fuel generalizing seen stack with
  | zero => exact .inl met
  | succ fuel ih =>
    cases stack with
    | nil => exact .inl met
    | cons s stack =>
      rw [walkFrom] at met
      split at met
      · rcases ih seen stack met with old | ⟨u, hu, steps⟩
        · exact .inl old
        · exact .inr ⟨u, List.mem_cons_of_mem s hu, steps⟩
      · rcases ih _ _ met with old | ⟨u, hu, steps⟩
        · rcases List.mem_cons.mp old with rfl | old
          · exact .inr ⟨t, List.mem_cons_self, .refl⟩
          · exact .inl old
        · rcases List.mem_append.mp hu with first | later
          · exact .inr ⟨s, List.mem_cons_self, .head first steps⟩
          · exact .inr ⟨u, List.mem_cons_of_mem s later, steps⟩

/-! ### Fuel -/

def openSteps (next : σ → List σ) (seen : List σ) : List σ → Nat
  | [] => 0
  | s :: rest => (if s ∈ seen then 0 else (next s).length) + openSteps next seen rest

variable (next) in
theorem openSteps_nil_eq_sum (all : List σ) :
    openSteps next [] all = (all.map fun s => (next s).length).sum := by
  induction all with
  | nil => rfl
  | cons s rest ih => simp [openSteps, ih]

variable (next) in
theorem openSteps_of_not_mem {s : σ} {seen all : List σ} (outside : s ∉ all) :
    openSteps next (s :: seen) all = openSteps next seen all := by
  induction all with
  | nil => rfl
  | cons t rest ih =>
    obtain ⟨ne, outside⟩ := List.ne_and_not_mem_of_not_mem_cons outside
    simp [openSteps, Ne.symm ne, ih outside]

variable (next) in
theorem openSteps_see {s : σ} {seen all : List σ} (nodup : all.Nodup) (mem : s ∈ all)
    (new : s ∉ seen) :
    openSteps next (s :: seen) all + (next s).length = openSteps next seen all := by
  induction all with
  | nil => cases mem
  | cons t rest ih =>
    have parts := List.nodup_cons.mp nodup
    rcases List.mem_cons.mp mem with rfl | inRest
    · simp only [openSteps, openSteps_of_not_mem next parts.1, List.mem_cons_self, if_true,
        if_neg new]
      omega
    · have ne : t ≠ s := fun same => parts.1 (same ▸ inRest)
      have rest := ih parts.2 inRest
      simp only [openSteps, List.mem_cons, ne, false_or]
      omega

/-- With enough fuel a walk meets its stack and all that steps lead to. -/
theorem walkFrom_closed {all : List σ} (nodup : all.Nodup)
    (closed : ∀ s ∈ all, ∀ t ∈ next s, t ∈ all) (fuel : Nat) (seen stack : List σ)
    (inside : ∀ s ∈ stack, s ∈ all) (enough : stack.length + openSteps next seen all ≤ fuel)
    (followed : ∀ s ∈ seen, ∀ t ∈ next s, t ∈ seen ∨ t ∈ stack) :
    (∀ s, s ∈ seen ∨ s ∈ stack → s ∈ walkFrom next fuel seen stack) ∧
      ∀ s ∈ walkFrom next fuel seen stack, ∀ t ∈ next s, t ∈ walkFrom next fuel seen stack := by
  induction fuel generalizing seen stack with
  | zero =>
    obtain rfl : stack = [] := List.length_eq_zero_iff.mp (by omega)
    simpa [walkFrom] using followed
  | succ fuel ih =>
    cases stack with
    | nil => simpa [walkFrom] using followed
    | cons s stack =>
      have insideRest : ∀ t ∈ stack, t ∈ all := fun t ht => inside t (List.mem_cons_of_mem s ht)
      simp only [List.length_cons] at enough
      rw [walkFrom]
      split
      · rename_i old
        have old : s ∈ seen := by simpa using old
        have ⟨keeps, closes⟩ := ih seen stack insideRest (by omega) (by grind)
        exact ⟨fun t ht => keeps t (by grind), closes⟩
      · rename_i fresh
        have new : s ∉ seen := by simpa using fresh
        have inAll := inside s List.mem_cons_self
        have fewer := openSteps_see next nodup inAll new
        have ⟨keeps, closes⟩ := ih (s :: seen) (next s ++ stack)
          (by
            intro t ht
            rcases List.mem_append.mp ht with step | later
            · exact closed s inAll t step
            · exact insideRest t later)
          (by rw [List.length_append]; omega)
          (by grind)
        exact ⟨fun t ht => keeps t (by grind), closes⟩

/-- The states that a walk meets are those that steps lead to from its starts, if there is fuel for
the starts and for every step. -/
theorem mem_walk {all : List σ} (nodup : all.Nodup)
    (closed : ∀ s ∈ all, ∀ t ∈ next s, t ∈ all) {fuel : Nat} {starts : List σ}
    (inside : ∀ s ∈ starts, s ∈ all)
    (enough : starts.length + (all.map fun s => (next s).length).sum ≤ fuel) (t : σ) :
    t ∈ walk next fuel starts ↔ ∃ s ∈ starts, Steps next s t := by
  rw [← openSteps_nil_eq_sum next] at enough
  have ⟨keeps, closes⟩ := walkFrom_closed nodup closed fuel [] starts inside enough
    (by intro s hs; cases hs)
  rw [walk, List.mem_reverse]
  constructor
  · intro met
    exact (steps_of_mem_walkFrom fuel [] starts met).resolve_left List.not_mem_nil
  · rintro ⟨s, hs, steps⟩
    induction steps with
    | refl => exact keeps s (.inr hs)
    | tail _ step ih => exact closes _ ih _ step

/-! ### The loop of a walk -/

/-- A round of a walk without a bound: it takes a state from the stack, and follows its steps if it
is not met again. -/
def walkRound? (next : σ → List σ) : List σ × List σ → Option (List σ × List σ)
  | (_, []) => none
  | (seen, s :: stack) =>
    some (if seen.contains s then (seen, stack) else (s :: seen, next s ++ stack))

theorem stops_walkFrom {all : List σ} (nodup : all.Nodup)
    (closed : ∀ s ∈ all, ∀ t ∈ next s, t ∈ all) (fuel : Nat) (seen stack : List σ)
    (inside : ∀ s ∈ stack, s ∈ all) (enough : stack.length + openSteps next seen all ≤ fuel) :
    Stops (walkRound? next) (seen, stack) (walkFrom next fuel seen stack, []) := by
  induction fuel generalizing seen stack with
  | zero =>
    obtain rfl : stack = [] := List.length_eq_zero_iff.mp (by omega)
    exact ⟨.refl, rfl⟩
  | succ fuel ih =>
    cases stack with
    | nil => exact ⟨.refl, rfl⟩
    | cons s stack =>
      have insideRest : ∀ t ∈ stack, t ∈ all := fun t ht => inside t (List.mem_cons_of_mem s ht)
      simp only [List.length_cons] at enough
      rw [walkFrom]
      split
      · rename_i old
        exact .head (congrArg some (if_pos old)) (ih seen stack insideRest (by omega))
      · rename_i fresh
        have new : s ∉ seen := by simpa using fresh
        have inAll := inside s List.mem_cons_self
        have fewer := openSteps_see next nodup inAll new
        refine .head (congrArg some (if_neg fresh)) (ih (s :: seen) (next s ++ stack) ?_ ?_)
        · intro t ht
          rcases List.mem_append.mp ht with step | later
          · exact closed s inAll t step
          · exact insideRest t later
        · rw [List.length_append]
          omega

/-- The loop stops, with the states that the walk meets. -/
theorem stops_walk {all : List σ} (nodup : all.Nodup)
    (closed : ∀ s ∈ all, ∀ t ∈ next s, t ∈ all) {fuel : Nat} {starts : List σ}
    (inside : ∀ s ∈ starts, s ∈ all)
    (enough : starts.length + (all.map fun s => (next s).length).sum ≤ fuel) :
    Stops (walkRound? next) ([], starts) ((walk next fuel starts).reverse, []) := by
  rw [← openSteps_nil_eq_sum next] at enough
  rw [walk, List.reverse_reverse]
  exact stops_walkFrom nodup closed fuel [] starts inside enough

theorem nodup_walk (fuel : Nat) (starts : List σ) : (walk next fuel starts).Nodup :=
  List.nodup_reverse.mpr (nodup_walkFrom fuel [] starts List.nodup_nil)

end Chatflow
