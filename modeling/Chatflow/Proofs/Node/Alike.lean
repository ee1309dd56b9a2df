import Chatflow.Proofs.Node.Safe

/-!
# Executions in worlds that are alike

Two worlds are alike when they differ in times, in the records for operators and, in a way that a
relation describes, in the clock and the collaborators that nodes call with retries. Executions
carry such a relation over to another one and end in the same way. There is one lemma for each part
of an executor, and `Carries.bind` puts the parts together.
-/

namespace Chatflow

open Service

def Log.Entry.untimed (e : Log.Entry) : Log.Entry := { e with timestamp := 0 }

/-- The item without the time at which it was sent on. -/
def Item.untimed (item : Item) : Item :=
  { item with origin := item.origin.map fun o => { o with timestamp := none } }

def Reply.untimed : Reply → Reply
  | .result r => .result { r with
      items := r.items.map Item.untimed
      logs := r.logs.map Log.Entry.untimed }
  | .stray kindName => .stray kindName

/-- The clock, and the collaborators that nodes call with retries. -/
structure Outside where
  clock : Time.Clock
  messaging : Option Messenger
  content : Option Content
  ai : Option Generator
  sheets : Option Sheets

def World.outside (w : World) : Outside :=
  ⟨w.clock, w.services.messaging, w.services.content, w.services.ai, w.services.sheets⟩

variable {O U V : Outside → Outside → Prop}

/-- The second world is like the first but for times, the records and what a relation describes. -/
structure Alike (O : Outside → Outside → Prop) (v w : World) : Prop where
  handoff : w.handoff = v.handoff
  chatHistory : w.services.chatHistory = v.services.chatHistory
  flags : w.services.flags = v.services.flags
  rateLimiter : w.services.rateLimiter = v.services.rateLimiter
  journal : w.journal.map Log.Entry.untimed = v.journal.map Log.Entry.untimed
  outside : O v.outside w.outside

theorem Alike.imp {v w : World} (alike : Alike O v w) (fades : ∀ {x y}, O x y → U x y) :
    Alike U v w := { alike with outside := fades alike.outside }

namespace Exec

variable {α β γ : Type} {env : Env} {body : Exec α} {f : α → γ}

/-- From worlds that are alike in one way the execution leads to worlds that are alike in another.
It ends alike, as far as a function of the values shows. -/
structure Carries (env : Env) (O U : Outside → Outside → Prop) (f : α → γ) (body : Exec α) :
    Prop where
  ends : ∀ {v w}, Alike O v w →
    (outcome body env w).1.map f = (outcome body env v).1.map f ∧
      Alike U (outcome body env v).2 (outcome body env w).2

theorem Carries.fade (own : Carries env O U f body) (fades : ∀ {x y}, U x y → V x y) :
    Carries env O V f body := by
  refine ⟨fun alike => ?_⟩
  obtain ⟨same, left⟩ := own.ends alike
  exact ⟨same, left.imp fades⟩

/-- A fault in the first part leaves the worlds in the way that holds after it, which must be one of
those that hold at the end. -/
theorem Carries.bind_fade {f : β → γ} {next : α → Exec β} (first : Carries env O U id body)
    (rest : ∀ a, Carries env U V f (next a)) (fades : ∀ {x y}, U x y → V x y) :
    Carries env O V f (body >>= next) := by
  refine ⟨fun {v w} alike => ?_⟩
  obtain ⟨same, left⟩ := first.ends alike
  rw [Except.map_id] at same
  rw [outcome_bind, outcome_bind]
  generalize outcome body env v = ends at same left ⊢
  generalize outcome body env w = ends' at same left ⊢
  obtain ⟨ended, v'⟩ := ends
  obtain ⟨ended', w'⟩ := ends'
  obtain rfl : ended' = ended := same
  cases ended' with
  | error fault => exact ⟨rfl, left.imp fades⟩
  | ok a => exact (rest a).ends left

/-- The rule for a first part after which the worlds stay alike in the same way. -/
@[grind ←] theorem Carries.bind {f : β → γ} {next : α → Exec β} (first : Carries env O U id body)
    (rest : ∀ a, Carries env U U f (next a)) : Carries env O U f (body >>= next) :=
  first.bind_fade rest id

/-- The rule for a first part that only reads what both worlds share. -/
theorem carries_reading_bind {f : β → γ} {next : α → Exec β} {a : α}
    (reads : ∀ w, outcome body env w = (.ok a, w)) (rest : Carries env O U f (next a)) :
    Carries env O U f (body >>= next) := by
  refine ⟨fun {v w} alike => ?_⟩
  rw [outcome_bind_ok (reads v), outcome_bind_ok (reads w)]
  exact rest.ends alike

@[grind ←] theorem Carries.attempt (own : Carries env O U id body) :
    Carries env O U id (attempt body) := by
  refine ⟨fun alike => ?_⟩
  obtain ⟨same, left⟩ := own.ends alike
  rw [Except.map_id] at same
  exact ⟨congrArg (fun ended => (Except.ok ended).map id) same, left⟩

/-- A last part that changes the reply, but not by its times. -/
theorem Carries.untimed_map {body : Exec Reply} {change : Reply → Reply}
    (own : Carries env O U Reply.untimed body)
    (respects : ∀ {r r' : Reply}, r'.untimed = r.untimed →
      (change r').untimed = (change r).untimed) :
    Carries env O U Reply.untimed (do return change (← body)) := by
  refine ⟨fun {v w} alike => ?_⟩
  obtain ⟨same, left⟩ := own.ends alike
  rw [outcome_bind, outcome_bind]
  generalize outcome body env v = ends at same left ⊢
  generalize outcome body env w = ends' at same left ⊢
  obtain ⟨ended, v'⟩ := ends
  obtain ⟨ended', w'⟩ := ends'
  cases ended with
  | error fault =>
    cases ended' with
    | error fault' =>
      obtain rfl : fault' = fault := Except.error.inj same
      exact ⟨rfl, left⟩
    | ok r' => cases same
  | ok r =>
    cases ended' with
    | error fault' => cases same
    | ok r' => exact ⟨congrArg Except.ok (respects (Except.ok.inj same)), left⟩

theorem carries_const {ended : Except Fault α} (ends : ∀ w, outcome body env w = (ended, w)) :
    Carries env O O f body := by
  refine ⟨fun {v w} alike => ?_⟩
  rw [ends v, ends w]
  exact ⟨rfl, alike⟩

@[grind ←] theorem carries_pure (a : α) : Carries env O O f (pure a) := carries_const fun _ => rfl

@[grind ←] theorem carries_throw (fault : Fault) : Carries env O O f (throw fault : Exec α) :=
  carries_const fun _ => rfl

@[grind ←] theorem carries_ofExcept (ended : Except Fault α) :
    Carries env O O f (ofExcept ended) := by
  cases ended
  · exact carries_throw _
  · exact carries_pure _

@[grind ←] theorem carries_context : Carries env O O id context := carries_const fun _ => rfl

@[grind ←] theorem carries_settings : Carries env O O id settings :=
  carries_const fun _ => outcome_settings

/-! ### The journal -/

theorem carries_openJournal : Carries env O O id openJournal :=
  ⟨fun alike => ⟨rfl, { alike with journal := rfl }⟩⟩

theorem untimed_make (time time' : Int) (level : Log.Level) (text : String)
    (data : Entries Value) : (Log.Entry.make time level text data).untimed =
      (Log.Entry.make time' level text data).untimed := rfl

@[grind ←] theorem carries_note (subType : String) (level : Log.Level) (text : String)
    (data : Entries Value) : Carries env O O id (note subType level text data) := by
  refine ⟨fun {v w} alike => ?_⟩
  obtain ⟨records, notes⟩ := exists_outcome_note subType level text data env v
  obtain ⟨records', notes'⟩ := exists_outcome_note subType level text data env w
  rw [notes, notes']
  refine ⟨rfl, { alike with journal := ?_ }⟩
  rw [List.map_append, List.map_append, alike.journal, List.map_singleton, List.map_singleton,
    untimed_make v.clock.milliseconds w.clock.milliseconds]

theorem carries_journal_bind {next : List Log.Entry → Reply}
    (same : ∀ {logs logs' : List Log.Entry},
      logs'.map Log.Entry.untimed = logs.map Log.Entry.untimed →
      (next logs').untimed = (next logs).untimed) :
    Carries env O O Reply.untimed (do return next (← journal)) :=
  ⟨fun alike => ⟨congrArg Except.ok (same alike.journal), alike⟩⟩

@[grind ←] theorem carries_succeed (items : List Item) (text : String) :
    Carries env O O Reply.untimed (succeed items text) := by
  refine carries_journal_bind fun same => ?_
  simp only [Reply.untimed, NodeResult.ok, same]

@[grind ←] theorem carries_failWith (text : String) :
    Carries env O O Reply.untimed (failWith text) := by
  refine carries_journal_bind fun same => ?_
  simp only [Reply.untimed, NodeResult.fail, same]

theorem carries_failure (subType : String) (level : Log.Level) (said : String)
    (data : Entries Value) (text : String) :
    Carries env O O Reply.untimed (do note subType level said data; failWith text) :=
  (carries_note ..).bind fun _ => carries_failWith text

theorem carries_success (subType : String) (level : Log.Level) (said : String)
    (data : Entries Value) (items : List Item) (text : String) :
    Carries env O O Reply.untimed (do note subType level said data; succeed items text) :=
  (carries_note ..).bind fun _ => carries_succeed items text

theorem carries_now_succeed {items : Int → List Item} (text : String)
    (same : ∀ time time', (items time').map Item.untimed = (items time).map Item.untimed) :
    Carries env O O Reply.untimed (do succeed (items (← now)) text) := by
  refine ⟨fun {v w} alike => ?_⟩
  rw [outcome_bind_ok outcome_now, outcome_bind_ok outcome_now]
  refine ⟨congrArg Except.ok ?_, alike⟩
  simp only [Reply.untimed, NodeResult.ok, alike.journal, same v.clock.milliseconds]

theorem untimed_branchAll (items : List Item) (time time' : Int) (data : Entries Value)
    (branch : String) : (branchAll items time' data branch).map Item.untimed =
      (branchAll items time data branch).map Item.untimed := by
  unfold branchAll
  rw [List.map_map, List.map_map]
  rfl

/-! ### The hand-off -/

theorem carries_handoff : Carries env O O id handoff :=
  ⟨fun alike => ⟨congrArg Except.ok alike.handoff, alike⟩⟩

theorem carries_takeText : Carries env O O id takeText := by
  have takes : ∀ w, outcome takeText env w =
      (.ok w.handoff.take.1, { w with handoff := w.handoff.take.2 }) := fun w => rfl
  refine ⟨fun {v w} alike => ?_⟩
  rw [takes v, takes w, alike.handoff]
  exact ⟨rfl, { alike with handoff := rfl }⟩

theorem carries_putText (text : String) (producer : Option String) :
    Carries env O O id (putText text producer) := by
  refine carries_handoff.bind fun h => ?_
  cases h.put text producer with
  | ok h => exact ⟨fun alike => ⟨rfl, { alike with handoff := rfl }⟩⟩
  | error earlier => exact carries_throw _

/-! ### The clock -/

theorem carries_stamp_bind {f : β → γ} {next : String → Exec β}
    (timed : ∀ {x y}, O x y → y.clock = x.clock) (rest : ∀ stamp, Carries env O U f (next stamp)) :
    Carries env O U f (get >>= fun w => next w.clock.zonedStamp) := by
  refine ⟨fun {v w} alike => ?_⟩
  have same : w.clock = v.clock := timed alike.outside
  rw [outcome_bind_ok outcome_get, outcome_bind_ok outcome_get, same]
  exact (rest _).ends alike

end Exec

/-! ### Calls of collaborators -/

structure Place (σ : Type) where
  get : Bundle → Option σ
  set : Bundle → σ → Bundle
  get_set : ∀ b x, get (set b x) = some x
  set_get : ∀ {b x}, get b = some x → set b x = b
  set_set : ∀ b x y, set (set b x) y = set b y

namespace Place

def messaging : Place Messenger :=
  ⟨Bundle.messaging, fun b m => { b with messaging := some m }, fun _ _ => rfl,
    fun there => there ▸ rfl, fun _ _ _ => rfl⟩

def content : Place Content :=
  ⟨Bundle.content, fun b k => { b with content := some k }, fun _ _ => rfl,
    fun there => there ▸ rfl, fun _ _ _ => rfl⟩

def ai : Place Generator :=
  ⟨Bundle.ai, fun b g => { b with ai := some g }, fun _ _ => rfl, fun there => there ▸ rfl,
    fun _ _ _ => rfl⟩

def sheets : Place Sheets :=
  ⟨Bundle.sheets, fun b s => { b with sheets := some s }, fun _ _ => rfl, fun there => there ▸ rfl,
    fun _ _ _ => rfl⟩

def chatHistory : Place ChatHistory :=
  ⟨Bundle.chatHistory, fun b h => { b with chatHistory := some h }, fun _ _ => rfl,
    fun there => there ▸ rfl, fun _ _ _ => rfl⟩

def flags : Place FlagCache :=
  ⟨Bundle.flags, fun b c => { b with flags := some c }, fun _ _ => rfl, fun there => there ▸ rfl,
    fun _ _ _ => rfl⟩

def rateLimiter : Place (RateLimiter Float) :=
  ⟨Bundle.rateLimiter, fun b l => { b with rateLimiter := some l }, fun _ _ => rfl,
    fun there => there ▸ rfl, fun _ _ _ => rfl⟩

end Place

def World.placing {σ : Type} (w : World) (p : Place σ) (x : σ) : World :=
  { w with services := p.set w.services x }

theorem World.placing_get {σ : Type} {w : World} {p : Place σ} {x : σ}
    (there : p.get w.services = some x) : w.placing p x = w := by
  rw [placing, p.set_get there]

namespace Exec

variable {α β σ : Type} {env : Env} {w : World} {p : Place σ} {missing : Except Fault α}
  {ask : σ → Except Fault α × σ} {x : σ}

def calling (p : Place σ) (missing : Except Fault α) (ask : σ → Except Fault α × σ) : Exec α := do
  let b ← services
  match p.get b with
  | none => ofExcept missing
  | some x =>
    setServices (p.set b (ask x).2)
    ofExcept (ask x).1

theorem outcome_ofExcept (ended : Except Fault α) :
    outcome (ofExcept ended) env w = (ended, w) := by
  cases ended <;> rfl

theorem outcome_services : outcome services env w = (.ok w.services, w) := rfl

theorem outcome_calling_of_none (absent : p.get w.services = none) :
    outcome (calling p missing ask) env w = (missing, w) := by
  unfold calling
  rw [outcome_bind_ok outcome_services, absent]
  exact outcome_ofExcept missing

theorem outcome_calling_of_some (there : p.get w.services = some x) :
    outcome (calling p missing ask) env w = ((ask x).1, w.placing p (ask x).2) := by
  have sets : outcome (setServices (p.set w.services (ask x).2)) env w =
      (.ok (), w.placing p (ask x).2) := rfl
  unfold calling
  rw [outcome_bind_ok outcome_services, there]
  dsimp only
  rw [outcome_bind_ok sets]
  exact outcome_ofExcept _

theorem calling_map (f : α → β) :
    (do return f (← calling p missing ask)) =
      calling p (missing.map f) fun x => ((ask x).1.map f, (ask x).2) := by
  have maps : ∀ ended : Except Fault α,
      (do return f (← ofExcept ended) : Exec β) = ofExcept (ended.map f) := by
    intro ended
    cases ended <;> rfl
  unfold calling
  rw [bind_assoc]
  refine bind_congr fun b => ?_
  cases p.get b with
  | none => exact maps missing
  | some x => exact (bind_assoc ..).trans (bind_congr fun _ => maps (ask x).1)

theorem carries_calling (found : ∀ {v w}, Alike O v w → p.get w.services = p.get v.services)
    (kept : ∀ {v w} x, Alike O v w → Alike O (v.placing p x) (w.placing p x)) :
    Carries env O O id (calling p missing ask) := by
  refine ⟨fun {v w} alike => ?_⟩
  rcases Option.eq_none_or_eq_some (p.get v.services) with absent | ⟨x, there⟩
  · rw [outcome_calling_of_none absent, outcome_calling_of_none ((found alike).trans absent)]
    exact ⟨rfl, alike⟩
  · rw [outcome_calling_of_some there, outcome_calling_of_some ((found alike).trans there)]
    exact ⟨rfl, kept _ alike⟩

theorem send_eq (call : OutboundCall) :
    send call = calling .messaging (.error (.unavailable Capability.messaging.name))
      (·.send call) := by
  refine bind_congr fun b => ?_
  dsimp only [Place.messaging]
  cases b.messaging <;> rfl

theorem isFollower_eq (user : String) :
    isFollower user =
      calling .content (.error (.unavailable Capability.content.name)) (·.isFollower user) := by
  refine bind_congr fun b => ?_
  dsimp only [Place.content]
  cases b.content <;> rfl

theorem mediaHashtags_eq (media : String) :
    mediaHashtags media =
      calling .content (.error (.unavailable Capability.content.name)) (·.mediaHashtags media) := by
  refine bind_congr fun b => ?_
  dsimp only [Place.content]
  cases b.content <;> rfl

theorem generate_eq (prompt : Prompt) :
    generate prompt = calling .ai (.error (.unavailable Capability.ai.name))
      (·.generate prompt) := by
  refine bind_congr fun b => ?_
  dsimp only [Place.ai]
  cases b.ai <;> rfl

theorem appendRow_eq (spreadsheet sheet : String) (headers : List String) (row : List Value) :
    appendRow spreadsheet sheet headers row =
      calling .sheets (.error (.unavailable Capability.sheets.name))
        (·.append spreadsheet sheet headers row) := by
  refine bind_congr fun b => ?_
  dsimp only [Place.sheets]
  cases b.sheets <;> rfl

theorem readFlag_eq (key : String) : readFlag key = calling .flags (.ok none) (·.read key) := by
  refine bind_congr fun b => ?_
  dsimp only [Place.flags]
  cases b.flags <;> rfl

theorem writeFlag_eq (key : String) (flag : Bool) :
    writeFlag key flag = calling .flags (.ok ()) (·.write key flag) := by
  refine bind_congr fun b => ?_
  dsimp only [Place.flags]
  cases b.flags <;> rfl

@[grind ←] theorem carries_readFlag (key : String) : Carries env O O id (readFlag key) := by
  rw [readFlag_eq]
  exact carries_calling (·.flags) fun x alike => { alike with flags := rfl }

@[grind ←] theorem carries_writeFlag (key : String) (flag : Bool) :
    Carries env O O id (writeFlag key flag) := by
  rw [writeFlag_eq]
  exact carries_calling (·.flags) fun x alike => { alike with flags := rfl }

theorem outcome_acquire (subject capability : String) :
    outcome (acquire subject capability) env w =
      outcome (calling .rateLimiter (.ok true) (·.acquire subject capability w.clock.elapsed))
        env w := by
  unfold acquire
  rw [outcome_bind_ok outcome_services]
  rcases Option.eq_none_or_eq_some w.services.rateLimiter with absent | ⟨limiter, there⟩
  · rw [outcome_calling_of_none (p := .rateLimiter) absent, absent]
    rfl
  · rw [outcome_calling_of_some (p := .rateLimiter) there, there]
    dsimp only
    rw [outcome_bind_ok outcome_elapsed]
    exact outcome_ofExcept _

theorem carries_acquire (timed : ∀ {x y}, O x y → y.clock = x.clock) (subject capability : String) :
    Carries env O O id (acquire subject capability) := by
  refine ⟨fun {v w} alike => ?_⟩
  have same : w.clock = v.clock := timed alike.outside
  rw [outcome_acquire, outcome_acquire, same]
  exact (carries_calling (p := .rateLimiter) (·.rateLimiter) fun x alike =>
    { alike with rateLimiter := rfl }).ends alike

theorem outcome_appendTurn (page sender : String) (turn : Turn) :
    outcome (appendTurn page sender turn) env w =
      outcome (calling .chatHistory (.ok ()) (·.append page sender turn)) env w := by
  unfold appendTurn
  rw [outcome_bind_ok outcome_services]
  rcases Option.eq_none_or_eq_some w.services.chatHistory with absent | ⟨history, there⟩
  · rw [outcome_calling_of_none (p := .chatHistory) absent, absent]
    rfl
  · rw [outcome_calling_of_some (p := .chatHistory) there, there]
    dsimp only
    rw [outcome_bind_ok outcome_services]
    exact outcome_ofExcept _

@[grind ←] theorem carries_appendTurn (page sender : String) (turn : Turn) :
    Carries env O O id (appendTurn page sender turn) := by
  refine ⟨fun alike => ?_⟩
  rw [outcome_appendTurn, outcome_appendTurn]
  exact (carries_calling (p := .chatHistory) (·.chatHistory) fun x alike =>
    { alike with chatHistory := rfl }).ends alike

/-- The limit of the turns is only asked for when there is a history. -/
theorem outcome_recentTurns (page sender : String) {limit : Exec Int} {ended : Except Fault Int}
    (ends : ∀ w, outcome limit env w = (ended, w)) :
    outcome (recentTurns page sender limit) env w =
      outcome (calling .chatHistory (.ok []) fun history => match ended with
        | .ok n => history.recent page sender n
        | .error fault => (.error fault, history)) env w := by
  unfold recentTurns
  rw [outcome_bind_ok outcome_services]
  rcases Option.eq_none_or_eq_some w.services.chatHistory with absent | ⟨history, there⟩
  · rw [outcome_calling_of_none (p := .chatHistory) absent, absent]
    rfl
  · rw [outcome_calling_of_some (p := .chatHistory) there, there]
    dsimp only
    cases ended with
    | ok n =>
      rw [outcome_bind_ok (ends w), outcome_bind_ok outcome_services]
      exact outcome_ofExcept _
    | error fault =>
      rw [outcome_bind_error (ends w), World.placing_get (p := .chatHistory) there]

theorem outcome_historyLimit (env : Env) (w : World) :
    outcome (do return (← settings).chatHistoryLimit) env w =
      ((env.settings.mapError Fault.invalid).map (·.chatHistoryLimit), w) := by
  rw [outcome_bind, outcome_settings]
  cases env.settings <;> rfl

theorem carries_recentTurns (page sender : String) {limit : Exec Int} {ended : Except Fault Int}
    (ends : ∀ w, outcome limit env w = (ended, w)) :
    Carries env O O id (recentTurns page sender limit) := by
  refine ⟨fun {v w} alike => ?_⟩
  rw [outcome_recentTurns page sender ends, outcome_recentTurns page sender ends]
  exact (carries_calling (p := .chatHistory) (·.chatHistory) fun x alike =>
    { alike with chatHistory := rfl }).ends alike

/-! ### Parts of executors -/

theorem carries_withConfig {γ : Type} (subType : String)
    (read? : Value → Except Schema.Invalid γ) (config : Value) {body : γ → Exec Reply}
    (own : ∀ parsed, Carries env O U Reply.untimed (body parsed)) (fades : ∀ {x y}, O x y → U x y) :
    Carries env O U Reply.untimed (withConfig subType read? config body) := by
  unfold withConfig
  split
  · exact own _
  · exact (carries_failure ..).fade fades

end Exec

end Chatflow
