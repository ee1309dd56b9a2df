import Chatflow.Proofs.Node.Retries

/-!
# Executions that share a collaborator

A call with retries is a function of the collaborator that is called: each attempt finds it as the
attempt before left it. Executions that take place one after the other share a collaborator when
each of them finds it as the last one left it; all else may have changed in between.
-/

namespace Chatflow

open Service

variable {α σ : Type}

/-! ### Calls with retries -/

namespace Settings

/-- What comes of the call number `count`, and the collaborator after it. If the call is to be made
again, what follows decides. -/
def askOnce (s : Settings) (ask : σ → Except Fault α × σ) (count : Nat)
    (follow : Fault → σ → Except Fault α × σ) (x : σ) : Except Fault α × σ :=
  match ask x with
  | (.ok a, x) => (.ok a, x)
  | (.error fault, x) =>
    if !fault.isTransient || (count : Int) == s.retryAttempts then (.error fault, x)
    else if Exec.delayedCalls < count then (.error Exec.undelayed, x)
    else follow fault x

/-- What comes of the call number `count` and at most `more` further ones. -/
def askFrom (s : Settings) (ask : σ → Except Fault α × σ) : Nat → Nat → σ → Except Fault α × σ
  | 0, count => s.askOnce ask count fun fault x => (.error fault, x)
  | more + 1, count => s.askOnce ask count fun _ => askFrom s ask more (count + 1)

def persist (s : Settings) (ask : σ → Except Fault α × σ) (x : σ) : Except Fault α × σ :=
  s.askFrom ask (s.retryAttempts.toNat - 1) 1 x

theorem persist_of_ok (s : Settings) {ask : σ → Except Fault α × σ} {x : σ} {a : α}
    (answers : (ask x).1 = .ok a) : s.persist ask x = ask x := by
  have once : ∀ follow, s.askOnce ask 1 follow x = ask x := fun follow => by
    unfold askOnce
    generalize ask x = ended at answers ⊢
    obtain ⟨result, y⟩ := ended
    obtain rfl : result = .ok a := answers
    rfl
  unfold persist
  cases s.retryAttempts.toNat - 1 <;> exact once _

/-- The calls before the last one are lost. What holds of the collaborator, and goes on to hold when
a call is lost, holds of the one that the last call finds. The delay after that call may not be
computable. -/
theorem exists_last_askFrom (s : Settings) (ask : σ → Except Fault α × σ) {P : Nat → σ → Prop}
    (lost : ∀ {n x fault}, P n x → (ask x).1 = .error fault → P (n + 1) (ask x).2)
    (more count : Nat) {n : Nat} {x : σ} (start : P n x) :
    ∃ m y, P m y ∧ (s.askFrom ask more count x).2 = (ask y).2 ∧
      ∀ a, (s.askFrom ask more count x).1 = .ok a → (ask y).1 = .ok a := by
  induction more generalizing count n x with
  | zero =>
    refine ⟨n, x, start, ?_⟩
    unfold askFrom askOnce
    rcases ask x with ⟨fault | a, z⟩
    · dsimp only
      split_ifs <;> exact ⟨rfl, nofun⟩
    · exact ⟨rfl, fun _ => id⟩
  | succ more ih =>
    unfold askFrom askOnce
    rcases answer : ask x with ⟨fault | a, z⟩
    · dsimp only
      split_ifs
      · exact ⟨n, x, start, answer ▸ rfl, nofun⟩
      · exact ⟨n, x, start, answer ▸ rfl, nofun⟩
      · have after := lost start (congrArg Prod.fst answer)
        rw [answer] at after
        exact ih (count + 1) after
    · exact ⟨n, x, start, congrArg Prod.snd answer.symm, fun _ same => answer ▸ same⟩

end Settings

def Env.persist (env : Env) (capability : Capability) (ask : σ → Except Fault α × σ)
    (x : Option σ) : Except Fault α × Option σ :=
  match env.settings, x with
  | .error defect, x => (.error (.invalid defect), x)
  | .ok _, none => (.error (.unavailable capability.name), none)
  | .ok s, some x => ((s.persist ask x).1, some (s.persist ask x).2)

def World.leaving (w : World) (p : Place σ) : Option σ → World
  | none => w
  | some x => w.placing p x

namespace Exec

variable {env : Env} {w : World} {p : Place σ} {missing : Except Fault α}
  {ask : σ → Except Fault α × σ} {x : σ}

/-- The value or the fault of a call number `count`. If the call is to be made again, what follows
decides. -/
def attemptOnce (s : Settings) (call : Exec α) (count : Nat)
    (next : Fault → Exec (Except Fault α)) :
    Exec (Except Fault α) := do
  match ← attempt call with
  | .ok a => return .ok a
  | .error fault =>
    if !fault.isTransient || (count : Int) == s.retryAttempts then return .error fault
    else
      (retryPolicy s).pause count ((retryPolicy s).delay count) fault
      next fault

theorem retryFrom_zero (s : Settings) (call : Exec α) (count : Nat) :
    (retryPolicy s).retryFrom (attempt call) 0 count =
      attemptOnce s call count fun fault => return .error fault := by
  rw [RetryPolicy.retryFrom]
  exact bind_congr fun ended => by cases ended <;> rfl

theorem retryFrom_succ (s : Settings) (call : Exec α) (more count : Nat) :
    (retryPolicy s).retryFrom (attempt call) (more + 1) count =
      attemptOnce s call count fun _ =>
        (retryPolicy s).retryFrom (attempt call) more (count + 1) := by
  rw [RetryPolicy.retryFrom]
  exact bind_congr fun ended => by cases ended <;> rfl

/-- One attempt is the function of the collaborator when what follows it is. -/
theorem exists_outcome_attemptOnce (s : Settings) (there : p.get w.services = some x) (count : Nat)
    {next : Fault → Exec (Except Fault α)} {follow : Fault → σ → Except Fault α × σ}
    (goes : ∀ fault y v, p.get v.services = some y → ∃ clock records,
      outcome (next fault >>= ofExcept) env v =
        ((follow fault y).1, { v.placing p (follow fault y).2 with clock, records })) :
    ∃ clock records,
      outcome (attemptOnce s (calling p missing ask) count next >>= ofExcept) env w =
      ((s.askOnce ask count follow x).1,
        { w.placing p (s.askOnce ask count follow x).2 with clock, records }) := by
  unfold attemptOnce Settings.askOnce
  rw [bind_assoc, outcome_bind_ok (outcome_attempt _), outcome_calling_of_some there]
  rcases ask x with ⟨fault | a, y⟩
  · dsimp only
    split_ifs with settled late
    · exact ⟨_, _, rfl⟩
    · rw [bind_assoc]
      exact ⟨_, _, outcome_bind_error (outcome_pause_of_lt late _ fault) _⟩
    · obtain ⟨clock, records, pauses⟩ := exists_outcome_pause s env (w.placing p y)
        (Nat.le_of_not_lt late) ((retryPolicy s).delay count) fault
      obtain ⟨clock', records', follows⟩ := goes fault y { w.placing p y with clock, records }
        (p.get_set _ _)
      refine ⟨clock', records', ?_⟩
      rw [bind_assoc, outcome_bind_ok pauses, follows]
      simp only [World.placing, p.set_set]
  · exact ⟨_, _, rfl⟩

/-- The calls one after the other are the function of the collaborator. By induction on the calls
that are left. -/
theorem exists_outcome_askFrom (s : Settings) (there : p.get w.services = some x)
    (more count : Nat) :
    ∃ clock records,
      outcome ((retryPolicy s).retryFrom (attempt (calling p missing ask)) more count >>= ofExcept)
        env w =
      ((s.askFrom ask more count x).1,
        { w.placing p (s.askFrom ask more count x).2 with clock, records }) := by
  induction more generalizing count w x with
  | zero =>
    rw [retryFrom_zero]
    refine exists_outcome_attemptOnce s there count fun fault y v there => ⟨v.clock, v.records, ?_⟩
    exact Prod.ext rfl (World.placing_get there).symm
  | succ more ih =>
    rw [retryFrom_succ]
    exact exists_outcome_attemptOnce s there count fun fault y v there => ih there (count + 1)

theorem not_transient_unavailable (capability : Capability) :
    (Fault.unavailable capability.name).isTransient = false := by
  cases capability <;> decide

/-- A call with retries is a function of the collaborator, but for the clock and the records. -/
theorem exists_outcome_retrying (env : Env) (w : World) (p : Place σ) (capability : Capability)
    (ask : σ → Except Fault α × σ) :
    ∃ clock records,
      outcome (retrying (calling p (.error (.unavailable capability.name)) ask)) env w =
      ((env.persist capability ask (p.get w.services)).1,
        { w.leaving p (env.persist capability ask (p.get w.services)).2 with clock, records }) := by
  unfold retrying Env.persist
  rw [outcome_bind, outcome_settings]
  cases env.settings with
  | error defect =>
    refine ⟨w.clock, w.records, ?_⟩
    rcases found : p.get w.services with - | x
    · rfl
    · exact Prod.ext rfl (World.placing_get found).symm
  | ok s =>
    rcases found : p.get w.services with - | x
    · have absent : outcome (calling p (.error (.unavailable capability.name)) ask) env w =
          (.error (.unavailable capability.name), w) := outcome_calling_of_none found
      have settled : ∀ fault, (outcome (calling p (.error (.unavailable capability.name)) ask)
          env w).1 = .error fault → fault.isTransient = false := by
        intro fault fails
        rw [absent] at fails
        exact Except.error.inj fails ▸ not_transient_unavailable capability
      refine ⟨w.clock, w.records, ?_⟩
      refine (outcome_bind_ok (outcome_retryFrom_settled settled _ 1) _).trans ?_
      rw [absent]
      rfl
    · exact exists_outcome_askFrom s found _ 1

end Exec

/-! ### Executions one after the other -/

/-- The time of an execution, with all that it finds but for the collaborator that is shared. -/
structure Occasion where
  env : Env
  world : World
  config : Value
  items : List Item

namespace Occasion

/-- What comes of an execution when it finds the collaborator as it is. -/
def outcome (o : Occasion) (e : Executor) (p : Place σ) (x : σ) : Except Fault Reply × World :=
  Exec.outcome (e.execute o.config o.items) o.env (o.world.placing p x)

def leave (o : Occasion) (e : Executor) (p : Place σ) (x : σ) : σ :=
  (p.get (o.outcome e p x).2.services).getD x

def leaveAll (e : Executor) (p : Place σ) (occasions : List Occasion) (x : σ) : σ :=
  occasions.foldl (fun x o => o.leave e p x) x

end Occasion

end Chatflow
