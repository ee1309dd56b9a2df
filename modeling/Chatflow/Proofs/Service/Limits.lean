import Chatflow.Proofs.Table
import Chatflow.Service.RateLimiter
import Mathlib.Tactic.Linarith

/-!
# Limits on calls

The calls under one key fall into windows, which their times alone determine: a call that finds no
window open opens one. A limiter lets as many calls of each window pass as its limit says and
refuses the others, whatever is called under other keys in between (`limiter_keeps_limit`). Two
windows never overlap, so that a stretch as long as a window meets at most two of them.
-/

namespace Chatflow.Service

variable {τ : Type}

/-! ### Calls and answers -/

structure LimitedCall (τ : Type) where
  subject : String
  capability : String
  time : τ

namespace LimitedCall

def key (c : LimitedCall τ) : String × String := (c.subject, c.capability)

def under (key : String × String) (calls : List (LimitedCall τ)) : List (LimitedCall τ) :=
  calls.filter (·.key = key)

def answered (key : String × String) (calls : List (LimitedCall τ)) (passed : List Bool) :
    List (τ × Bool) :=
  ((calls.zip passed).filter (·.1.key = key)).map fun c => (c.1.time, c.2)

end LimitedCall

section

variable [Sub τ] [LE τ] [DecidableLE τ]

def RateLimiter.answers (l : RateLimiter τ) : List (LimitedCall τ) → List (Except Fault Bool)
  | [] => []
  | c :: rest =>
    let (answer, l) := l.acquire c.subject c.capability c.time
    answer :: l.answers rest

def RateLimit.answers (r : RateLimit τ) : Option (Window τ) → List τ → List Bool
  | _, [] => []
  | window, now :: rest =>
    let (passes, window) := r.acquire window now
    passes :: r.answers (some window) rest

theorem eq_of_map_ok {α : Type} {first second : List α}
    (same : first.map (Except.ok : α → Except Fault α) = second.map .ok) : first = second :=
  List.map_injective_iff.mpr (fun _ _ => Except.ok.inj) same

theorem RateLimit.length_answers (r : RateLimit τ) (window : Option (Window τ)) (times : List τ) :
    (r.answers window times).length = times.length := by
  induction times generalizing window with
  | nil => rfl
  | cons now rest ih => simp [answers, ih]

end

/-! ### Keys -/

namespace RateLimiter

def Undisturbed (l : RateLimiter τ) : Prop := ∀ i, l.script.disturbance i = none

theorem undisturbed_ofRate (rate : RateLimit τ) : (ofRate rate).Undisturbed := fun _ => rfl

variable [Sub τ] [LE τ] [DecidableLE τ]

def after (l : RateLimiter τ) (c : LimitedCall τ) : RateLimiter τ :=
  { l with
    script := l.script.next.2
    windows := l.windows.put c.key (l.rate.acquire (l.windows.get? c.key) c.time).2 }

variable {l : RateLimiter τ}

theorem Undisturbed.after (undisturbed : l.Undisturbed) (c : LimitedCall τ) :
    (l.after c).Undisturbed :=
  undisturbed

theorem answers_cons (undisturbed : l.Undisturbed) (c : LimitedCall τ)
    (rest : List (LimitedCall τ)) :
    l.answers (c :: rest) =
      .ok (l.rate.acquire (l.windows.get? c.key) c.time).1 :: (l.after c).answers rest := by
  simp [answers, acquire, Script.next, undisturbed l.script.calls, after, LimitedCall.key]

/-- There is an answer to every call, and those under a key depend on nothing but the calls under
it. -/
theorem exists_answers (undisturbed : l.Undisturbed) (calls : List (LimitedCall τ)) :
    ∃ passed : List Bool, l.answers calls = passed.map .ok ∧
      ∀ key, LimitedCall.answered key calls passed =
        ((LimitedCall.under key calls).map LimitedCall.time).zip
          (l.rate.answers (l.windows.get? key)
            ((LimitedCall.under key calls).map LimitedCall.time)) := by
  induction calls generalizing l with
  | nil => exact ⟨[], rfl, fun _ => rfl⟩
  | cons c rest ih =>
    obtain ⟨passed, answers, own⟩ := ih (undisturbed.after c)
    refine ⟨(l.rate.acquire (l.windows.get? c.key) c.time).1 :: passed, ?_, ?_⟩
    · rw [answers_cons undisturbed, answers, List.map_cons]
    · intro key
      have later := own key
      rw [after, Table.get?_put] at later
      by_cases same : c.key = key
      · simp only [LimitedCall.answered, LimitedCall.under] at later
        simp [LimitedCall.answered, LimitedCall.under, RateLimit.answers, same, later]
      · simp only [LimitedCall.answered, LimitedCall.under, if_neg (Ne.symm same)] at later
        simp [LimitedCall.answered, LimitedCall.under, same, later]

/-- When all calls are under one key, only the window of that key counts. -/
theorem answers_of_key (undisturbed : l.Undisturbed) (key : String × String)
    (calls : List (LimitedCall τ)) (own : ∀ c ∈ calls, c.key = key) :
    l.answers calls =
      (l.rate.answers (l.windows.get? key) (calls.map LimitedCall.time)).map .ok := by
  induction calls generalizing l with
  | nil => rfl
  | cons c rest ih =>
    obtain ⟨rfl, own⟩ := List.forall_mem_cons.mp own
    rw [answers_cons undisturbed, ih (undisturbed.after c) own]
    simp [after, Table.get?_put_self, RateLimit.answers]

end RateLimiter

/-! ### The limit in each window -/

/-- An answer to a call at a time, and when the window of the call opened. -/
structure Ruling (τ : Type) where
  time : τ
  opened : τ
  passed : Bool

section

variable [LinearOrder τ]

def passedIn (opened : τ) (calls : List (Ruling τ)) : Nat :=
  calls.countP fun r => r.opened = opened ∧ r.passed

/-- How many calls pass from one time to another, both included. -/
def passedBetween (first last : τ) (calls : List (Ruling τ)) : Nat :=
  calls.countP fun r => (first ≤ r.time ∧ r.time ≤ last) ∧ r.passed

theorem passedIn_append (opened : τ) (before after : List (Ruling τ)) :
    passedIn opened (before ++ after) = passedIn opened before + passedIn opened after :=
  List.countP_append

theorem passedIn_singleton (opened : τ) (r : Ruling τ) :
    passedIn opened [r] = if r.opened = opened ∧ r.passed then 1 else 0 := by
  simp [passedIn, List.countP_cons]

/-- A call passes exactly when its window has not yet let as many calls pass as the limit says. -/
def ByLimit (limit : Nat) : List (Ruling τ) → List (Ruling τ) → Prop
  | _, [] => True
  | before, r :: rest =>
    (r.passed = true ↔ passedIn r.opened before < limit) ∧ ByLimit limit (before ++ [r]) rest

theorem ByLimit.passedIn_le {limit : Nat} {before calls : List (Ruling τ)}
    (rules : ByLimit limit before calls) (bound : ∀ opened, passedIn opened before ≤ limit)
    (opened : τ) : passedIn opened (before ++ calls) ≤ limit := by
  -- The bound on all windows so far goes through the calls one by one.
  induction calls generalizing before with
  | nil => simpa using bound opened
  | cons r rest ih =>
    obtain ⟨rule, rules⟩ := rules
    rw [List.append_cons]
    refine ih rules ?_
    intro other
    rw [passedIn_append, passedIn_singleton]
    by_cases passes : r.opened = other ∧ r.passed
    · rw [if_pos passes, ← passes.1]
      exact rule.mp passes.2
    · rw [if_neg passes]
      exact bound other

theorem ByLimit.le_passedIn_of_refused {limit : Nat} {earlier before after : List (Ruling τ)}
    {r : Ruling τ} (rules : ByLimit limit earlier (before ++ r :: after))
    (refused : r.passed = false) : limit ≤ passedIn r.opened (earlier ++ before) := by
  induction before generalizing earlier with
  | nil => simpa [refused] using rules.1
  | cons first before ih =>
    rw [List.append_cons]
    exact ih rules.2

def Tracks (window : Option (Window τ)) (before : List (Ruling τ)) : Prop :=
  match window with
  | none => before = []
  | some w => w.passed = passedIn w.opened before ∧ ∀ r ∈ before, r.opened ≤ w.opened

theorem Tracks.answered {w : Window τ} {before : List (Ruling τ)}
    (tracks : Tracks (some w) before) (now : τ) (passes : Bool) :
    Tracks (some { w with passed := if passes then w.passed + 1 else w.passed })
      (before ++ [⟨now, w.opened, passes⟩]) := by
  obtain ⟨count, latest⟩ := tracks
  refine ⟨?_, ?_⟩
  · rw [passedIn_append, passedIn_singleton]
    cases passes <;> simp [count]
  · intro r mem
    rcases List.mem_append.mp mem with earlier | new
    · exact latest r earlier
    · rw [List.mem_singleton.mp new]

end

/-! ### Windows -/

variable [CommRing τ] [LinearOrder τ] {length : τ}

/-- When the window of a call opens: when the latest window did, if that is still open. -/
def windowAt (length : τ) (latest : Option τ) (now : τ) : τ :=
  match latest with
  | some opened => if now < opened + length then opened else now
  | none => now

def rulings (length : τ) : Option τ → List (τ × Bool) → List (Ruling τ)
  | _, [] => []
  | latest, (now, passed) :: rest =>
    let opened := windowAt length latest now
    ⟨now, opened, passed⟩ :: rulings length (some opened) rest

structure KeepsLimit (limit : Nat) (length : τ) (calls : List (Ruling τ)) : Prop where
  window : ∀ opened, passedIn opened calls ≤ limit
  /-- A call is refused only after its window has let as many calls pass. -/
  refusal : ∀ before r after, calls = before ++ r :: after → r.passed = false →
    passedIn r.opened before = limit
  interval : ∀ start, passedBetween start (start + length) calls ≤ 2 * limit

theorem windowAt_eq_or_le (length opened now : τ) :
    windowAt length (some opened) now = opened ∨
      windowAt length (some opened) now = now ∧ opened + length ≤ now := by
  by_cases still : now < opened + length
  · exact .inl (if_pos still)
  · exact .inr ⟨if_neg still, not_lt.mp still⟩

theorem acquire_ofNat (limit : Nat) (length : τ) {window : Option (Window τ)} {now : τ}
    {w : Window τ} (current : (⟨limit, length⟩ : RateLimit τ).openWindow window now = w) :
    (⟨limit, length⟩ : RateLimit τ).acquire window now =
      (decide (w.passed < limit),
        { w with passed := if decide (w.passed < limit) then w.passed + 1 else w.passed }) := by
  by_cases full : limit ≤ w.passed
  · have stops : ¬w.passed < limit := Nat.not_lt.mpr full
    simp [RateLimit.acquire, current, full, stops]
  · have passes : w.passed < limit := Nat.lt_of_not_le full
    simp [RateLimit.acquire, current, full, passes]

variable [IsStrictOrderedRing τ]

/-! ### Windows do not overlap -/

def Apart (length a b : τ) : Prop := a = b ∨ a + length ≤ b ∨ b + length ≤ a

theorem opened_of_mem_rulings (positive : 0 < length) {opened : τ} {calls : List (τ × Bool)}
    {r : Ruling τ} (mem : r ∈ rulings length (some opened) calls) :
    r.opened = opened ∨ opened + length ≤ r.opened := by
  induction calls generalizing opened with
  | nil => cases mem
  | cons c rest ih =>
    have first := windowAt_eq_or_le length opened c.1
    rcases List.mem_cons.mp mem with rfl | later
    · rcases first with same | ⟨new, past⟩
      · exact .inl same
      · exact .inr (past.trans_eq new.symm)
    · have next := ih later
      rcases first with same | ⟨new, past⟩
      · rwa [same] at next
      · rw [new] at next
        refine .inr ?_
        rcases next with own | next
        · rwa [own]
        · linarith

theorem apart_of_mem_rulings (positive : 0 < length) {latest : Option τ} {calls : List (τ × Bool)}
    {r s : Ruling τ} (first : r ∈ rulings length latest calls)
    (second : s ∈ rulings length latest calls) : Apart length r.opened s.opened := by
  induction calls generalizing latest with
  | nil => cases first
  | cons c rest ih =>
    rcases List.mem_cons.mp first with rfl | laterR <;>
    rcases List.mem_cons.mp second with rfl | laterS
    · exact .inl rfl
    · exact (opened_of_mem_rulings positive laterS).imp Eq.symm .inl
    · exact (opened_of_mem_rulings positive laterR).imp id .inr
    · exact ih laterR laterS

theorem time_of_mem_rulings (positive : 0 < length) {latest : Option τ} {calls : List (τ × Bool)}
    (ordered : (calls.map Prod.fst).Pairwise (· ≤ ·))
    (late : ∀ opened ∈ latest, ∀ c ∈ calls, opened ≤ c.1)
    {r : Ruling τ} (mem : r ∈ rulings length latest calls) :
    r.opened ≤ r.time ∧ r.time < r.opened + length := by
  induction calls generalizing latest with
  | nil => cases mem
  | cons c rest ih =>
    have first : windowAt length latest c.1 ≤ c.1 ∧ c.1 < windowAt length latest c.1 + length := by
      cases latest with
      | none => exact ⟨le_rfl, lt_add_of_pos_right _ positive⟩
      | some opened =>
        by_cases still : c.1 < opened + length
        · simp only [windowAt, if_pos still]
          exact ⟨late opened rfl c List.mem_cons_self, still⟩
        · simp only [windowAt, if_neg still]
          exact ⟨le_rfl, lt_add_of_pos_right _ positive⟩
    obtain ⟨before, ordered⟩ := List.pairwise_cons.mp ordered
    rcases List.mem_cons.mp mem with rfl | later
    · exact first
    · refine ih ordered ?_ later
      intro opened window d after
      obtain rfl : windowAt length latest c.1 = opened := by simpa using window
      exact first.1.trans (before d.1 (List.mem_map_of_mem after))

/-- Calls that are at most a length apart are in two windows. -/
theorem exists_two_windows {calls : List (Ruling τ)}
    (apart : ∀ r ∈ calls, ∀ s ∈ calls, Apart length r.opened s.opened)
    (within : ∀ r ∈ calls, r.opened ≤ r.time ∧ r.time < r.opened + length) (start : τ) :
    ∃ first second, ∀ r ∈ calls, start ≤ r.time → r.time ≤ start + length →
      r.opened = first ∨ r.opened = second := by
  by_contra third
  push Not at third
  obtain ⟨a, memA, startA, endA, -⟩ := third 0 0
  obtain ⟨b, memB, startB, endB, other, -⟩ := third a.opened a.opened
  obtain ⟨c, memC, startC, endC, neA, neB⟩ := third a.opened b.opened
  have timeA := within a memA
  have timeB := within b memB
  have timeC := within c memC
  -- The middle one of the three windows is over before the last call and opens after the first one.
  rcases (apart a memA b memB).resolve_left (Ne.symm other) with ab | ba <;>
  rcases (apart a memA c memC).resolve_left (Ne.symm neA) with ac | ca <;>
  rcases (apart b memB c memC).resolve_left (Ne.symm neB) with bc | cb <;>
  linarith

/-! ### What a limiter keeps -/

section

variable {rate : RateLimit τ} {window : Option (Window τ)} {before : List (Ruling τ)}

theorem opened_openWindow (rate : RateLimit τ) (window : Option (Window τ)) (now : τ) :
    (rate.openWindow window now).opened =
      windowAt rate.length (window.map Window.opened) now := by
  cases window with
  | none => rfl
  | some w =>
    by_cases past : rate.length ≤ now - w.opened
    · have notStill : ¬now < w.opened + rate.length := by linarith
      simp [RateLimit.openWindow, windowAt, past, notStill]
    · have still : now < w.opened + rate.length := by linarith
      simp [RateLimit.openWindow, windowAt, past, still]

/-- A window that opens for a call is later than all windows before. -/
theorem Tracks.openWindow (tracks : Tracks window before) (rate : RateLimit τ)
    (positive : 0 < rate.length) (now : τ) :
    Tracks (some (rate.openWindow window now)) before := by
  cases window with
  | none =>
    obtain rfl : before = [] := tracks
    exact ⟨rfl, nofun⟩
  | some w =>
    obtain ⟨count, latest⟩ := tracks
    by_cases past : rate.length ≤ now - w.opened
    · simp only [RateLimit.openWindow, if_pos past]
      have earlier : ∀ r ∈ before, r.opened < now := by
        intro r mem
        have := latest r mem
        linarith
      refine ⟨?_, fun r mem => (earlier r mem).le⟩
      refine (List.countP_eq_zero.mpr fun r mem => ?_).symm
      simp [(earlier r mem).ne]
    · simp only [RateLimit.openWindow, if_neg past]
      exact ⟨count, latest⟩

theorem byLimit_answers (limit : Nat) (positive : 0 < length) (tracks : Tracks window before)
    (times : List τ) :
    ByLimit limit before (rulings length (window.map Window.opened)
      (times.zip ((⟨limit, length⟩ : RateLimit τ).answers window times))) := by
  induction times generalizing window before with
  | nil => exact trivial
  | cons now rest ih =>
    let rate : RateLimit τ := ⟨limit, length⟩
    -- The limiter decides by the count of the window that is open at the call, which is the count
    -- of the calls that passed in it.
    have current := tracks.openWindow rate positive now
    have after := current.answered now (decide ((rate.openWindow window now).passed < limit))
    rw [RateLimit.answers, acquire_ofNat limit length rfl]
    simp only [List.zip_cons_cons, rulings]
    rw [← opened_openWindow rate]
    refine ⟨?_, ih after⟩
    simp [rate, ← current.1]

end

/-! ### The limit in an interval -/

theorem countP_le_add {α : Type} {p q r : α → Bool} (calls : List α)
    (covers : ∀ c ∈ calls, p c = true → q c = true ∨ r c = true) :
    calls.countP p ≤ calls.countP q + calls.countP r := by
  induction calls with
  | nil => simp
  | cons c rest ih =>
    obtain ⟨first, covers⟩ := List.forall_mem_cons.mp covers
    have later := ih covers
    by_cases counts : p c = true
    · rcases first counts with counted | counted
      · simp only [List.countP_cons, counts, counted]
        omega
      · simp only [List.countP_cons, counts, counted]
        omega
    · rw [List.countP_cons_of_neg counts]
      simp only [List.countP_cons]
      omega

theorem passedBetween_le_two_mul {limit : Nat} {calls : List (Ruling τ)}
    (apart : ∀ r ∈ calls, ∀ s ∈ calls, Apart length r.opened s.opened)
    (within : ∀ r ∈ calls, r.opened ≤ r.time ∧ r.time < r.opened + length)
    (bound : ∀ opened, passedIn opened calls ≤ limit) (start : τ) :
    passedBetween start (start + length) calls ≤ 2 * limit := by
  obtain ⟨first, second, windows⟩ := exists_two_windows apart within start
  have covered : passedBetween start (start + length) calls ≤
      passedIn first calls + passedIn second calls := by
    refine countP_le_add calls fun r mem inside => ?_
    simp only [decide_eq_true_eq] at inside ⊢
    obtain ⟨⟨notBefore, notAfter⟩, passes⟩ := inside
    exact (windows r mem notBefore notAfter).imp (⟨·, passes⟩) (⟨·, passes⟩)
  have firstBound := bound first
  have secondBound := bound second
  omega

theorem keepsLimit_answers (positive : 0 < length) (limit : Nat) {times : List τ}
    (ordered : times.Pairwise (· ≤ ·)) :
    KeepsLimit limit length (rulings length none
      (times.zip ((⟨limit, length⟩ : RateLimit τ).answers none times))) := by
  have fresh : Tracks none ([] : List (Ruling τ)) := rfl
  have rules := byLimit_answers limit positive fresh times
  have lengths := RateLimit.length_answers (⟨limit, length⟩ : RateLimit τ) none times
  have bound := rules.passedIn_le fun _ => Nat.zero_le _
  refine ⟨bound, ?_, ?_⟩
  · intro before r after split refused
    have full := rules
    simp only [Option.map_none, split] at full
    have least := full.le_passedIn_of_refused refused
    have most := bound r.opened
    simp only [Option.map_none, split, List.nil_append, passedIn_append] at most least
    omega
  · refine passedBetween_le_two_mul ?_ ?_ bound
    · exact fun r first s second => apart_of_mem_rulings positive first second
    · intro r mem
      refine time_of_mem_rulings positive ?_ (by simp) mem
      rwa [List.map_fst_zip (by omega)]

/-- The answers to the calls under one key are those that a limiter gives to them alone. In no
window do more calls pass than the limit says, a call is refused only when as many calls of its
window have passed, and in a stretch as long as a window at most twice as many calls pass, even if
both of its ends belong to it. -/
theorem limiter_keeps_limit (limit : Nat) {length : τ} (positive : 0 < length)
    (calls : List (LimitedCall τ)) (ordered : (calls.map LimitedCall.time).Pairwise (· ≤ ·)) :
    ∃ passed : List Bool,
      (RateLimiter.ofRate ⟨limit, length⟩).answers calls = passed.map .ok ∧
      ∀ key,
        (RateLimiter.ofRate ⟨limit, length⟩).answers (LimitedCall.under key calls) =
          (LimitedCall.answered key calls passed).map (fun c => .ok c.2) ∧
        KeepsLimit limit length (rulings length none (LimitedCall.answered key calls passed)) := by
  let limiter : RateLimiter τ := .ofRate ⟨limit, length⟩
  have undisturbed : limiter.Undisturbed := RateLimiter.undisturbed_ofRate _
  obtain ⟨passed, answers, own⟩ := RateLimiter.exists_answers undisturbed calls
  refine ⟨passed, answers, fun key => ?_⟩
  let times := (LimitedCall.under key calls).map LimitedCall.time
  let ownAnswers := limiter.rate.answers none times
  have answered : LimitedCall.answered key calls passed = times.zip ownAnswers := own key
  refine ⟨?_, ?_⟩
  · have lengths : ownAnswers.length = times.length := RateLimit.length_answers _ _ _
    calc
      _ = ownAnswers.map .ok :=
        RateLimiter.answers_of_key undisturbed key _ (by simp [LimitedCall.under])
      _ = ((times.zip ownAnswers).map Prod.snd).map .ok := by rw [List.map_snd_zip lengths.le]
      _ = _ := by rw [answered, List.map_map, Function.comp_def]
  · rw [answered]
    exact keepsLimit_answers positive limit (ordered.sublist (List.filter_sublist.map _))

/-- Calls of two subjects, with a window of two units of time. The last call is on the boundary. -/
def interleavedCalls : List (LimitedCall ℤ) :=
  [⟨"ana", "ai", 0⟩, ⟨"bo", "ai", 0⟩, ⟨"ana", "ai", 1⟩, ⟨"ana", "ai", 2⟩]

/-- With one call in each window the second call of the first subject is refused, and the third one
opens another window. -/
theorem limiter_keeps_limit_interleaved :
    (0 : ℤ) < 2 ∧ (interleavedCalls.map LimitedCall.time).Pairwise (· ≤ ·) ∧
    ∃ passed : List Bool, passed = [true, true, false, true] ∧
      (RateLimiter.ofRate ⟨1, (2 : ℤ)⟩).answers interleavedCalls = passed.map .ok ∧
      ∀ key,
        (RateLimiter.ofRate ⟨1, (2 : ℤ)⟩).answers (LimitedCall.under key interleavedCalls) =
          (LimitedCall.answered key interleavedCalls passed).map (fun c => .ok c.2) ∧
        KeepsLimit 1 2 (rulings 2 none (LimitedCall.answered key interleavedCalls passed)) := by
  have ordered : (interleavedCalls.map LimitedCall.time).Pairwise (· ≤ ·) := by decide
  have positive : (0 : ℤ) < 2 := by decide
  obtain ⟨passed, answers, own⟩ := limiter_keeps_limit 1 positive interleavedCalls ordered
  have found : (RateLimiter.ofRate ⟨1, (2 : ℤ)⟩).answers interleavedCalls =
      [true, true, false, true].map .ok := by rfl
  refine ⟨positive, ordered, passed, ?_, answers, own⟩
  exact eq_of_map_ok (answers.symm.trans found)

end Chatflow.Service
