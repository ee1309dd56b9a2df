import Chatflow.Proofs.Handoff.Builtin
import Chatflow.Proofs.Node.Mute
import Chatflow.Proofs.Node.Senders
import Chatflow.Proofs.Service.Attempts

/-!
# Calls that nodes make

A node that sends something makes one call, again and again as long as it is lost on its way. Before
that it may show the typing indicator, which is a sender action and no message. There is one lemma
for each part of the executors, and `Executor.exists_makes` says for every built-in executor and
every legacy kind which calls it attempts, what is known of them after a success, and what their
texts are.
-/

namespace Chatflow

open Service

namespace Exec

variable {α β : Type} {body : Exec α} {call : OutboundCall} {P : OutboundCall → Prop}

/-! ### Attempts of an execution -/

structure Aside (body : Exec α) : Prop where
  ends : ∀ env w, ∃ attempts,
    Attempts w.services.messaging attempts (outcome body env w).2.services.messaging ∧
      ∀ a ∈ attempts, a.isVisible = false

theorem aside_of_leaves (own : ∀ m, Leaves m body) : Aside body := by
  refine ⟨fun env w => ⟨[], ?_, List.forall_mem_nil _⟩⟩
  rw [(own _).keeps env w rfl]
  exact .done _

theorem Aside.bind {next : α → Exec β} (first : Aside body) (rest : ∀ a, Aside (next a)) :
    Aside (body >>= next) := by
  refine ⟨fun env w => ?_⟩
  obtain ⟨attempts, made, hidden⟩ := first.ends env w
  rw [outcome_bind]
  generalize outcome body env w = ends at made ⊢
  obtain ⟨ended, v⟩ := ends
  cases ended with
  | error fault => exact ⟨attempts, made, hidden⟩
  | ok a =>
    obtain ⟨later, more, too⟩ := (rest a).ends env v
    exact ⟨attempts ++ later, made.append more, List.forall_mem_append.mpr ⟨hidden, too⟩⟩

theorem Aside.attempt (own : Aside body) : Aside (attempt body) := ⟨own.ends⟩

/-- The execution attempts one call, again as long as it is lost, and ends with its answer. -/
structure Calls (call : OutboundCall) (body : Exec SendResult) : Prop where
  ends : ∀ env w, ∃ attempts,
    Attempts w.services.messaging attempts (outcome body env w).2.services.messaging ∧
      Tries call attempts ∧
      ∀ result, (outcome body env w).1 = .ok result → ∃ a ∈ attempts, a.answer = .ok result

theorem Leaves.bind_calls {next : α → Exec SendResult} (first : ∀ m, Leaves m body)
    (rest : ∀ a, Calls call (next a)) : Calls call (body >>= next) := by
  refine ⟨fun env w => ?_⟩
  have kept := (first _).keeps env w rfl
  rw [outcome_bind]
  generalize outcome body env w = ends at kept ⊢
  obtain ⟨ended, v⟩ := ends
  cases ended with
  | error fault => exact ⟨[], kept ▸ .done _, .none, nofun⟩
  | ok a => exact kept ▸ (rest a).ends env v

def reaching (w : World) (m : Messenger) : World :=
  { w with services := { w.services with messaging := some m } }

theorem outcome_send_of_none {env : Env} {w : World} (has : w.services.messaging = none) :
    outcome (send call) env w = (.error (.unavailable Capability.messaging.name), w) := by
  have finds : outcome services env w = (.ok w.services, w) := rfl
  unfold send
  rw [outcome_bind_ok finds, has]
  rfl

theorem outcome_send_of_some {env : Env} {w : World} {m : Messenger}
    (has : w.services.messaging = some m) :
    outcome (send call) env w = ((m.send call).1, reaching w (m.send call).2) := by
  have finds : outcome services env w = (.ok w.services, w) := rfl
  have given : outcome (required .messaging (some m)) env w = (.ok m, w) := rfl
  unfold send reaching
  rw [outcome_bind_ok finds, has, outcome_bind_ok given]
  dsimp only
  generalize m.send call = sent
  obtain ⟨answer, m'⟩ := sent
  cases answer <;> rfl

theorem aside_send (hidden : call.isVisible = false) : Aside (send call) := by
  refine ⟨fun env w => ?_⟩
  cases has : w.services.messaging with
  | none =>
    rw [outcome_send_of_none has, has]
    exact ⟨[], .done _, List.forall_mem_nil _⟩
  | some m =>
    rw [outcome_send_of_some has]
    exact ⟨[_], .next (.done _), List.forall_mem_singleton.mpr hidden⟩

theorem calls_throw (fault : Fault) : Calls call (throw fault) :=
  ⟨fun _ w => ⟨[], .done w.services.messaging, .none, nofun⟩⟩

/-- One attempt, and more of them where it was lost. -/
theorem calls_send_bind {next : Except Fault SendResult → Exec SendResult}
    (ends : ∀ result, next (.ok result) = pure result)
    (lost : ∀ fault, Calls call (next (.error fault))) :
    Calls call (attempt (send call) >>= next) := by
  refine ⟨fun env w => ?_⟩
  rw [outcome_bind_ok (outcome_attempt _)]
  cases has : w.services.messaging with
  | none =>
    rw [outcome_send_of_none has, ← has]
    exact (lost _).ends env w
  | some m =>
    rw [outcome_send_of_some has]
    dsimp only
    cases answer : (m.send call).1 with
    | ok result =>
      rw [ends result]
      have arrived : Attempts (some m) [⟨call, .ok result⟩] (some (m.send call).2) :=
        answer ▸ Attempts.next (.done _)
      exact ⟨_, arrived, .last _, fun r same => ⟨_, List.mem_singleton_self _, same⟩⟩
    | error fault =>
      obtain ⟨more, made, tries, answered⟩ := (lost fault).ends env (reaching w (m.send call).2)
      have first : Attempts (some m) (⟨call, (m.send call).1⟩ :: more) _ := .next made
      refine ⟨_, answer ▸ first, .again fault tries, fun result same => ?_⟩
      obtain ⟨a, mem, own⟩ := answered result same
      exact ⟨a, List.mem_cons_of_mem _ mem, own⟩

/-- By induction on the calls that are left. -/
theorem calls_retryFrom (s : Settings) (more count : Nat) :
    Calls call ((retryPolicy s).retryFrom (attempt (send call)) more count >>= ofExcept) := by
  induction more generalizing count with
  | zero =>
    rw [RetryPolicy.retryFrom, bind_assoc]
    refine calls_send_bind (fun result => rfl) fun fault => ?_
    dsimp only
    split
    · exact calls_throw fault
    · rw [bind_assoc]
      exact Leaves.bind_calls (fun m => leaves_pause s _ _ _) fun _ => calls_throw fault
  | succ more ih =>
    rw [RetryPolicy.retryFrom, bind_assoc]
    refine calls_send_bind (fun result => rfl) fun fault => ?_
    dsimp only
    split
    · exact calls_throw fault
    · rw [bind_assoc]
      exact Leaves.bind_calls (fun m => leaves_pause s _ _ _) fun _ => ih (count + 1)

theorem calls_retrying (call : OutboundCall) : Calls call (retrying (send call)) :=
  Leaves.bind_calls (fun _ => leaves_settings) fun s => calls_retryFrom s _ _

theorem calls_legacySend (call : OutboundCall) : Calls call (legacySend call) := by
  have looks : ∀ m, Leaves m services := fun _ => leaves_get.bind fun _ => leaves_pure _
  refine Leaves.bind_calls looks fun b => ?_
  exact Leaves.bind_calls (fun _ => leaves_required ..) fun _ => calls_retrying call

theorem Calls.aside {body : Exec SendResult} (calls : Calls call body)
    (hidden : call.isVisible = false) : Aside body := by
  refine ⟨fun env w => ?_⟩
  obtain ⟨attempts, made, tries, -⟩ := calls.ends env w
  refine ⟨attempts, made, fun a mem => ?_⟩
  rw [Attempt.isVisible, tries.call_eq mem, hidden]

/-! ### The message of an execution -/

/-- What is not a sender action among some attempts: attempts of one call with a property, which was
accepted if the execution ended with success. -/
structure Posted (P : OutboundCall → Prop) (ended : Except Fault Reply) (attempts : List Attempt) :
    Prop where
  once : ∃ call, Tries call (visibleOnes attempts)
  meets : ∀ a ∈ visibleOnes attempts, P a.call
  accepted : Reply.Succeeded ended → ∃ a ∈ visibleOnes attempts, a.isAccepted = true

structure Fails (body : Exec Reply) : Prop where
  ends : ∀ env w, ¬Reply.Succeeded (outcome body env w).1

theorem fails_failure (subType : String) (level : Log.Level) (said : String)
    (data : Entries Value) (text : String) :
    Fails (do note subType level said data; failWith text) := by
  refine ⟨fun env w => ?_⟩
  obtain ⟨records, notes⟩ := exists_outcome_note subType level said data env w
  rw [outcome_bind_ok notes]
  nofun

/-- The execution makes one call with a property, besides sender actions. -/
structure Posts (P : OutboundCall → Prop) (body : Exec Reply) : Prop where
  ends : ∀ env w, ∃ attempts,
    Attempts w.services.messaging attempts (outcome body env w).2.services.messaging ∧
      Posted P (outcome body env w).1 attempts

theorem posted_of_hidden {ended : Except Fault Reply} {attempts : List Attempt}
    (hidden : ∀ a ∈ attempts, a.isVisible = false) (failed : ¬Reply.Succeeded ended) :
    Posted P ended attempts := by
  have none := visibleOnes_eq_nil hidden
  refine ⟨⟨.senderAction "" "" "", none ▸ .none⟩, ?_, fun success => absurd success failed⟩
  rw [none]
  exact List.forall_mem_nil _

theorem Aside.bind_posts {next : α → Exec Reply} (first : Aside body)
    (rest : ∀ a, Posts P (next a)) : Posts P (body >>= next) := by
  refine ⟨fun env w => ?_⟩
  obtain ⟨asides, made, hidden⟩ := first.ends env w
  rw [outcome_bind]
  generalize outcome body env w = ends at made ⊢
  obtain ⟨ended, v⟩ := ends
  cases ended with
  | error fault => exact ⟨asides, made, posted_of_hidden hidden id⟩
  | ok a =>
    obtain ⟨attempts, more, posted⟩ := (rest a).ends env v
    have same : visibleOnes (asides ++ attempts) = visibleOnes attempts := by
      rw [visibleOnes_append, visibleOnes_eq_nil hidden, List.nil_append]
    exact ⟨asides ++ attempts, made.append more, same ▸ posted.once, same ▸ posted.meets,
      same ▸ posted.accepted⟩

theorem Leaves.bind_posts {next : α → Exec Reply} (first : ∀ m, Leaves m body)
    (rest : ∀ a, Posts P (next a)) : Posts P (body >>= next) :=
  (aside_of_leaves first).bind_posts rest

theorem Posts.imp {Q : OutboundCall → Prop} {body : Exec Reply} (posts : Posts P body)
    (weaker : ∀ call, P call → Q call) : Posts Q body := by
  refine ⟨fun env w => ?_⟩
  obtain ⟨attempts, made, posted⟩ := posts.ends env w
  exact ⟨attempts, made, posted.once, fun a mem => weaker _ (posted.meets a mem), posted.accepted⟩

theorem posts_failWith (text : String) : Posts P (failWith text) :=
  ⟨fun _ w => ⟨[], .done w.services.messaging, posted_of_hidden (List.forall_mem_nil _) nofun⟩⟩

theorem posts_failure (subType : String) (level : Log.Level) (said : String)
    (data : Entries Value) (text : String) :
    Posts P (do note subType level said data; failWith text) :=
  Leaves.bind_posts (fun _ => leaves_note ..) fun _ => posts_failWith text

/-- A call is made, and what is done with its answer makes none and is no success but after an
accepted one. -/
theorem Calls.bind_posts {sends : Exec SendResult} {next : Except Fault SendResult → Exec Reply}
    (calls : Calls call sends) (visible : call.isVisible = true) (meets : P call)
    (rest : ∀ answer m, Leaves m (next answer))
    (fails : ∀ answer, (∀ result, answer = .ok result → result.success = false) →
      Fails (next answer)) :
    Posts P (attempt sends >>= next) := by
  refine ⟨fun env w => ?_⟩
  obtain ⟨attempts, made, tries, answered⟩ := calls.ends env w
  rw [outcome_bind_ok (outcome_attempt _)]
  have all : visibleOnes attempts = attempts :=
    List.filter_eq_self.mpr fun a mem => by rw [Attempt.isVisible, tries.call_eq mem, visible]
  refine ⟨attempts, ((rest _ _).keeps env _ rfl).symm ▸ made, ⟨call, all.symm ▸ tries⟩, ?_, ?_⟩
  · intro a mem
    rw [tries.call_eq (all ▸ mem)]
    exact meets
  · intro success
    by_contra refused
    refine (fails _ fun result same => ?_).ends env _ success
    obtain ⟨a, mem, own⟩ := answered result same
    by_contra accepted
    refine refused ⟨a, all.symm ▸ mem, ?_⟩
    rw [Attempt.isAccepted, own]
    simpa using accepted

/-! ### Parts of executors -/

theorem aside_showTyping (subType : String) (config : Value) :
    Aside (showTyping subType config) := by
  have shows : Aside typingOn := by
    refine (aside_of_leaves fun _ => leaves_context).bind fun c => (aside_send rfl).bind fun _ => ?_
    exact aside_of_leaves fun _ => leaves_settings.bind fun s => by
      dsimp only
      split
      · exact leaves_sleep _
      · exact leaves_pure _
  refine (aside_of_leaves fun _ => leaves_ofExcept _).bind fun wanted => ?_
  split
  · refine (shows.bind fun _ => ?_).attempt.bind fun shown => ?_
    · exact aside_of_leaves fun _ => leaves_note ..
    split
    · exact aside_of_leaves fun _ => leaves_pure _
    · exact aside_of_leaves fun _ => leaves_note ..
  · exact aside_of_leaves fun _ => leaves_pure _

theorem posts_withConfig {γ : Type} (subType : String) (read? : Value → Except Schema.Invalid γ)
    (config : Value) {body : γ → Exec Reply} (own : ∀ parsed, Posts P (body parsed)) :
    Posts P (withConfig subType read? config body) := by
  unfold withConfig
  split
  · exact own _
  · exact posts_failure ..

theorem posts_sendOr (subType failure : String) (call : OutboundCall)
    {accepted : SendResult → Exec Reply} (visible : call.isVisible = true) (meets : P call)
    (own : ∀ result m, Leaves m (accepted result)) :
    Posts P (sendOr subType failure call accepted) := by
  refine (calls_retrying call).bind_posts visible meets (fun answer m => ?_) fun answer lost => ?_
  · cases answer with
    | error fault => exact (leaves_note ..).seq (leaves_failWith _)
    | ok result =>
      dsimp only
      split
      · exact own result m
      · exact (leaves_note ..).seq (leaves_failWith _)
  · cases answer with
    | error fault => exact fails_failure ..
    | ok result =>
      dsimp only
      rw [if_neg (by simp [lost result rfl])]
      exact fails_failure ..

theorem posts_legacyCall (subType : String) (report : LegacyReport) {sends : Exec SendResult}
    (calls : Calls call sends) (visible : call.isVisible = true) (meets : P call) :
    Posts P (legacyCall subType report sends) := by
  refine calls.bind_posts visible meets (fun answer m => ?_) fun answer lost => ?_
  · split
    · split
      · exact (leaves_note ..).seq (leaves_succeed ..)
      · exact (leaves_note ..).seq (leaves_failWith _)
    · exact (leaves_note ..).seq (leaves_failWith _)
    · exact (leaves_note ..).seq (leaves_failWith _)
  · split
    · rename_i result
      rw [if_neg (by simp [lost result rfl])]
      exact fails_failure ..
    · exact fails_failure ..
    · exact fails_failure ..

theorem posts_withLegacyConfig {γ : Type} (subType : String)
    (read? : Value → Except Schema.Invalid γ) (config : Value) {body : γ → Exec Reply}
    (own : ∀ parsed, Posts P (body parsed)) :
    Posts P (withLegacyConfig subType read? config body) := by
  unfold withLegacyConfig
  split
  · exact own _
  · exact posts_failure ..

/-! ### Executors -/

variable (config : Value) (items : List Item)

theorem aside_senderAction (subType description name action done : String) :
    Aside ((senderAction subType description name action done).execute config items) := by
  refine (aside_of_leaves fun _ => leaves_openJournal).bind fun _ => ?_
  refine (aside_of_leaves fun _ => leaves_context).bind fun c => ?_
  refine (aside_of_leaves fun _ => leaves_note ..).bind fun _ => ?_
  refine ((calls_retrying _).aside rfl).attempt.bind fun answer => aside_of_leaves fun m => ?_
  cases answer with
  | error fault => exact (leaves_note ..).seq (leaves_failWith _)
  | ok result =>
    dsimp only
    split
    · exact (leaves_note ..).seq (leaves_succeed ..)
    · exact (leaves_note ..).seq (leaves_failWith _)

/-- A node that sends a structured message, after the typing indicator if it is asked to. -/
theorem posts_structured {γ : Type} (subType failure : String)
    (read? : Value → Except Schema.Invalid γ) {said : γ → String} {data : γ → Entries Value}
    {call : γ → Context → OutboundCall} {accepted : γ → SendResult → Exec Reply}
    (visible : ∀ parsed c, (call parsed c).isVisible = true)
    (own : ∀ parsed result m, Leaves m (accepted parsed result)) :
    Posts (fun _ => True) (do
      openJournal
      withConfig subType read? config fun parsed => do
        note subType .info (said parsed) (data parsed)
        showTyping subType config
        let c ← context
        sendOr subType failure (call parsed c) (accepted parsed)) := by
  refine Leaves.bind_posts (fun _ => leaves_openJournal) fun _ => ?_
  refine posts_withConfig _ _ _ fun parsed => ?_
  refine Leaves.bind_posts (fun _ => leaves_note ..) fun _ => ?_
  refine (aside_showTyping ..).bind_posts fun _ => ?_
  exact Leaves.bind_posts (fun _ => leaves_context) fun c =>
    posts_sendOr _ _ _ (visible parsed c) trivial (own parsed)

theorem posts_carousel : Posts (fun _ => True) (carousel.execute config items) :=
  posts_structured _ _ _ _ (fun _ _ => rfl) fun _ _ _ => (leaves_note ..).seq (leaves_succeed ..)

theorem posts_buttonTemplate : Posts (fun _ => True) (buttonTemplate.execute config items) :=
  posts_structured _ _ _ _ (fun _ _ => rfl) fun _ _ _ => (leaves_note ..).seq (leaves_succeed ..)

theorem posts_quickReplies : Posts (fun _ => True) (quickReplies.execute config items) :=
  posts_structured _ _ _ _ (fun _ _ => rfl) fun _ _ _ => (leaves_note ..).seq (leaves_succeed ..)

theorem posts_executeKind {kind : LegacyKind} (sends : kind ≠ .logToSheets) :
    Posts (fun _ => True) (executeKind kind config) := by
  cases kind with
  | productTemplate =>
    refine posts_withLegacyConfig _ _ _ fun parsed => ?_
    refine Leaves.bind_posts (fun _ => leaves_context) fun c => ?_
    exact posts_legacyCall _ _ (calls_legacySend _) rfl trivial
  | iceBreakers =>
    exact posts_withLegacyConfig _ _ _ fun parsed =>
      posts_legacyCall _ _ (calls_legacySend _) rfl trivial
  | persistentMenu =>
    exact posts_withLegacyConfig _ _ _ fun parsed =>
      posts_legacyCall _ _ (calls_legacySend _) rfl trivial
  | logToSheets => exact absurd rfl sends

/-- Handing the items on makes no difference to the calls and the success. -/
theorem Posts.withItems {body : Exec Reply} (posts : Posts P body) :
    Posts P (do return (← body).withItems items) := by
  refine ⟨fun env w => ?_⟩
  obtain ⟨attempts, made, posted⟩ := posts.ends env w
  rw [outcome_bind]
  generalize outcome body env w = ends at made posted ⊢
  obtain ⟨ended, v⟩ := ends
  refine ⟨attempts, ?_, posted.once, posted.meets, fun success => posted.accepted ?_⟩
  · cases ended <;> exact made
  · match ended with
    | .error fault => exact success
    | .ok (.stray kindName) => exact success
    | .ok (.result r) =>
      obtain ⟨own, rest⟩ := r
      cases own
      · cases success
      · rfl

theorem posts_legacy {kind : LegacyKind} (sends : kind ≠ .logToSheets) :
    Posts (fun _ => True) (kind.executor.execute config items) := by
  have known : LegacyKind.ofSubType? kind.subType = some kind := by cases kind <;> rfl
  refine Posts.withItems items (Leaves.bind_posts (fun _ => leaves_openJournal) fun _ => ?_)
  rw [known]
  exact posts_executeKind config sends

/-! ### Nodes that send a text -/

variable {config} {items} {env : Env} {w : World}

def PostsAt (P : OutboundCall → Prop) (body : Exec Reply) (env : Env) (w : World) : Prop :=
  ∃ attempts, Attempts w.services.messaging attempts (outcome body env w).2.services.messaging ∧
    Posted P (outcome body env w).1 attempts

theorem postsAt_message {parsed : MessageConfig}
    (valid : MessageConfig.read? (Executor.settingsOf config) = .ok parsed) :
    PostsAt (fun call => ∃ text source, call.text = some text ∧
      messageText? w.handoff.take.1 parsed.message items = some (text, source))
      (message.execute config items) env w := by
  have opens : outcome openJournal env w = (.ok (), { w with journal := [] }) := rfl
  have takes : outcome takeText env { w with journal := [] } =
      (.ok w.handoff.take.1, { w with journal := [], handoff := w.handoff.take.2 }) := rfl
  unfold PostsAt
  dsimp only [message, messageSender]
  rw [outcome_bind_ok opens, withConfig, valid]
  dsimp only
  rw [outcome_bind_ok takes]
  refine Posts.ends ?_ env { w with journal := [], handoff := w.handoff.take.2 }
  cases found : messageText? w.handoff.take.1 parsed.message items with
  | none => exact posts_failure ..
  | some sends =>
    obtain ⟨text, source⟩ := sends
    refine Leaves.bind_posts (fun _ => leaves_context) fun c => ?_
    refine Leaves.bind_posts (fun _ => leaves_note ..) fun _ => ?_
    refine (aside_showTyping ..).bind_posts fun _ =>
      posts_sendOr _ _ _ rfl ⟨text, source, rfl, rfl⟩ ?_
    exact fun result m => (leaves_note ..).seq (leaves_succeed ..)

/-- The reply to something that is in the event. -/
theorem postsAt_withReplyText {subType : String} {configured : Option String}
    {body : String → Exec Reply} (target : ¬env.context.LacksTarget subType)
    (own : ∀ text, Posts (fun call => call.text = some text) (body text)) :
    PostsAt (fun call => ¬env.context.LacksTarget subType ∧ ∃ text, call.text = some text ∧
      replyText? w.handoff.take.1 configured = some text)
      (withReplyText subType configured body) env w := by
  have takes : outcome takeText env w =
      (.ok w.handoff.take.1, { w with handoff := w.handoff.take.2 }) := rfl
  unfold PostsAt withReplyText
  rw [outcome_bind_ok takes]
  refine Posts.ends ?_ env { w with handoff := w.handoff.take.2 }
  cases found : replyText? w.handoff.take.1 configured with
  | none => exact posts_failure ..
  | some text => exact (own text).imp fun call holds => ⟨target, text, holds, rfl⟩

theorem postsAt_replyComment {parsed : ReplyCommentConfig}
    (valid : ReplyCommentConfig.read? (Executor.settingsOf config) = .ok parsed) :
    PostsAt (fun call => ¬env.context.LacksTarget "REPLY_COMMENT" ∧ ∃ text, call.text = some text ∧
      replyText? w.handoff.take.1 parsed.reply = some text)
      (replyComment.execute config items) env w := by
  have opens : outcome openJournal env w = (.ok (), { w with journal := [] }) := rfl
  unfold PostsAt
  dsimp only [replyComment]
  rw [outcome_bind_ok opens, withConfig, valid]
  dsimp only
  rw [outcome_bind_ok outcome_context]
  split
  · exact (posts_failure ..).ends env { w with journal := [] }
  · rename_i comment given
    have target : ¬env.context.LacksTarget "REPLY_COMMENT" := fun none => by
      simp [lacksTarget_replyComment.mp none] at given
    refine postsAt_withReplyText (w := { w with journal := [] }) target fun text => ?_
    refine Leaves.bind_posts (fun _ => leaves_note ..) fun _ => ?_
    refine posts_sendOr _ _ (.commentReply comment text) rfl rfl fun result m => ?_
    exact (leaves_note ..).seq (leaves_succeed ..)

theorem postsAt_replyMention {parsed : ReplyMentionConfig}
    (valid : ReplyMentionConfig.read? (Executor.settingsOf config) = .ok parsed) :
    PostsAt (fun call => ¬env.context.LacksTarget "REPLY_MENTION" ∧ ∃ text, call.text = some text ∧
      replyText? w.handoff.take.1 parsed.reply = some text)
      (replyMention.execute config items) env w := by
  have opens : outcome openJournal env w = (.ok (), { w with journal := [] }) := rfl
  unfold PostsAt
  dsimp only [replyMention]
  rw [outcome_bind_ok opens, withConfig, valid]
  dsimp only
  rw [outcome_bind_ok outcome_context]
  split
  · exact (posts_failure ..).ends env { w with journal := [] }
  · rename_i media given
    have target : ¬env.context.LacksTarget "REPLY_MENTION" := fun none => by
      simp [lacksTarget_replyMention.mp none] at given
    refine postsAt_withReplyText (w := { w with journal := [] }) target fun text => ?_
    refine Leaves.bind_posts (fun _ => leaves_note ..) fun _ => ?_
    refine posts_sendOr _ _ (.mentionReply _ media text _) rfl rfl fun result m => ?_
    exact (leaves_note ..).seq (leaves_succeed ..)

end Exec

/-! ### The executors -/

def messagingSubTypes : List String :=
  ["MESSAGE", "REPLY_COMMENT", "REPLY_MENTION", "CAROUSEL", "BUTTON_TEMPLATE", "QUICK_REPLIES",
    "PRODUCT_TEMPLATE", "ICE_BREAKERS", "PERSISTENT_MENU"]

def textSubTypes : List String := ["MESSAGE", "REPLY_COMMENT", "REPLY_MENTION"]

namespace Executor

open Exec

variable {e : Executor} {config : Value} {items : List Item} {env : Env} {w : World}

/-- What an execution of an executor attempts: besides sender actions one call, which was accepted
if a node that sends something had success. A text is the one that was taken, or the node's own. -/
structure Makes (e : Executor) (config : Value) (items : List Item) (env : Env) (w : World)
    (attempts : List Attempt) : Prop where
  made : Attempts w.services.messaging attempts
    (outcome (e.execute config items) env w).2.services.messaging
  once : ∃ call, Tries call (visibleOnes attempts)
  accepted : e.subType ∈ messagingSubTypes →
    Reply.Succeeded (outcome (e.execute config items) env w).1 →
    ∃ a ∈ visibleOnes attempts, a.isAccepted = true
  texts : e.subType ∈ textSubTypes → ∀ a ∈ visibleOnes attempts, ∃ text, a.call.text = some text ∧
    sentText? e.subType config w.handoff.take.1 items = some text ∧
    (outcome (e.execute config items) env w).2.handoff = w.handoff.take.2

theorem exists_makes_of_aside (aside : Aside (e.execute config items))
    (other : e.subType ∉ messagingSubTypes) : ∃ attempts, e.Makes config items env w attempts := by
  obtain ⟨attempts, made, hidden⟩ := aside.ends env w
  have none := visibleOnes_eq_nil hidden
  refine ⟨attempts, made, ⟨.senderAction "" "" "", none ▸ .none⟩, fun mem => absurd mem other, ?_⟩
  rw [none]
  exact fun _ => List.forall_mem_nil _

theorem exists_makes_of_posts {P : OutboundCall → Prop} (posts : Posts P (e.execute config items))
    (other : e.subType ∉ textSubTypes) : ∃ attempts, e.Makes config items env w attempts := by
  obtain ⟨attempts, made, posted⟩ := posts.ends env w
  exact ⟨attempts, made, posted.once, fun _ => posted.accepted, fun mem => absurd mem other⟩

/-- A node whose settings cannot be read attempts nothing. -/
theorem exists_makes_of_invalid {γ : Type} {subType : String}
    {read? : Value → Except Schema.Invalid γ} {body : γ → Exec Reply} {invalid : Schema.Invalid}
    (unread : read? (settingsOf config) = .error invalid)
    (executes : e.execute config items = do openJournal; withConfig subType read? config body) :
    ∃ attempts, e.Makes config items env w attempts := by
  have posts : Posts (fun _ => False) (e.execute config items) := by
    rw [executes, withConfig, unread]
    exact Leaves.bind_posts (fun _ => leaves_openJournal) fun _ => posts_failure ..
  obtain ⟨attempts, made, posted⟩ := posts.ends env w
  exact ⟨attempts, made, posted.once, fun _ => posted.accepted,
    fun _ a mem => (posted.meets a mem).elim⟩

theorem exists_makes_message : ∃ attempts, message.Makes config items env w attempts := by
  cases read : MessageConfig.read? (settingsOf config) with
  | error invalid => exact exists_makes_of_invalid read rfl
  | ok parsed =>
    obtain ⟨attempts, made, posted⟩ := postsAt_message read
    refine ⟨attempts, made, posted.once, fun _ => posted.accepted, fun _ a mem => ?_⟩
    obtain ⟨text, source, own, sends⟩ := posted.meets a mem
    refine ⟨text, own, ?_, handoff_messageSender env w _ _ _ read items⟩
    change sentText? "MESSAGE" config _ items = _
    simp [sentText?, read, Except.toOption, sends]

theorem exists_makes_replyComment :
    ∃ attempts, replyComment.Makes config items env w attempts := by
  cases read : ReplyCommentConfig.read? (settingsOf config) with
  | error invalid => exact exists_makes_of_invalid read rfl
  | ok parsed =>
    obtain ⟨attempts, made, posted⟩ :=
      postsAt_replyComment read
    refine ⟨attempts, made, posted.once, fun _ => posted.accepted, fun _ a mem => ?_⟩
    obtain ⟨target, text, own, sends⟩ := posted.meets a mem
    refine ⟨text, own, ?_, ?_⟩
    · change sentText? "REPLY_COMMENT" config _ items = _
      simp [sentText?, read, Except.toOption, sends]
    · rw [handoff_replyComment env w read, if_neg target]

theorem exists_makes_replyMention :
    ∃ attempts, replyMention.Makes config items env w attempts := by
  cases read : ReplyMentionConfig.read? (settingsOf config) with
  | error invalid => exact exists_makes_of_invalid read rfl
  | ok parsed =>
    obtain ⟨attempts, made, posted⟩ :=
      postsAt_replyMention read
    refine ⟨attempts, made, posted.once, fun _ => posted.accepted, fun _ a mem => ?_⟩
    obtain ⟨target, text, own, sends⟩ := posted.meets a mem
    refine ⟨text, own, ?_, ?_⟩
    · change sentText? "REPLY_MENTION" config _ items = _
      simp [sentText?, read, Except.toOption, sends]
    · rw [handoff_replyMention env w read, if_neg target]

theorem exists_makes_legacy (kind : LegacyKind) :
    ∃ attempts, kind.executor.Makes config items env w attempts := by
  by_cases sheets : kind = .logToSheets
  · subst sheets
    exact exists_makes_of_aside (aside_of_leaves fun _ => leaves_logToSheets ..) (by decide)
  · exact exists_makes_of_posts (posts_legacy config items sheets) (by cases kind <;> decide)

/-- Every built-in executor and every legacy kind makes at most one call besides sender actions. -/
theorem exists_makes (known : e ∈ builtinExecutors ∨ ∃ kind : LegacyKind, e = kind.executor)
    (config : Value) (items : List Item) (env : Env) (w : World) :
    ∃ attempts, e.Makes config items env w attempts := by
  rcases known with registered | ⟨kind, rfl⟩
  · have all : ∀ e ∈ builtinExecutors, ∃ attempts, e.Makes config items env w attempts := by
      simp only [builtinExecutors, List.forall_mem_cons, List.not_mem_nil, false_imp_iff,
        implies_true, and_true]
      have mute : ∀ {e : Executor}, (∀ m, Leaves m (e.execute config items)) →
          e.subType ∉ messagingSubTypes → ∃ attempts, e.Makes config items env w attempts :=
        fun leaves other => exists_makes_of_aside (aside_of_leaves leaves) other
      exact ⟨mute (fun _ => leaves_trigger ..) (by decide),
        mute (fun _ => leaves_trigger ..) (by decide),
        mute (fun _ => leaves_trigger ..) (by decide),
        mute (fun _ => leaves_trigger ..) (by decide),
        mute (fun _ => leaves_keywords ..) (by decide),
        mute (fun _ => leaves_followerCheck ..) (by decide),
        mute (fun _ => leaves_hasTag ..) (by decide),
        mute (fun _ => leaves_branchNode ..) (by decide),
        mute (fun _ => leaves_branchNode ..) (by decide), exists_makes_message,
        mute (fun _ => leaves_generation ..) (by decide), exists_makes_replyComment,
        exists_makes_replyMention, exists_makes_of_posts (posts_carousel ..) (by decide),
        exists_makes_of_posts (posts_buttonTemplate ..) (by decide),
        exists_makes_of_posts (posts_quickReplies ..) (by decide),
        exists_makes_of_aside (aside_senderAction ..) (by decide),
        exists_makes_of_aside (aside_senderAction ..) (by decide),
        exists_makes_of_aside (aside_senderAction ..) (by decide),
        mute (fun _ => leaves_delay ..) (by decide)⟩
    exact all e registered
  · exact exists_makes_legacy kind

end Executor

/-! ### Texts of their own -/

def staticText? (subType : String) (config : Entries Value) : Option String :=
  match subType with
  | "REPLY_COMMENT" => (ReplyCommentConfig.replyField.find? config).bind (·.2.text?)
  | _ => (config.get? "message").bind Value.text?

/-- What a node of a subtype has to send by itself: the text in its settings unless it is blank, and
for a message otherwise that of the first item. -/
def ownText? (subType : String) (config : Entries Value) (items : List Item) : Option String :=
  presentText? (staticText? subType config) <|>
    if subType = "MESSAGE" then presentText? (itemText? items) else none

theorem Schema.orDefault_text_eq {f : Field} {reading : Reading String} {es : Entries Value}
    {read : Option String} (own : ∀ v t, reading v = .ok t → v = .str t)
    (reads : f.orDefault none (optional reading) es = .ok read) :
    read = (f.find? es).bind (·.2.text?) := by
  unfold Field.orDefault at reads
  cases found : f.find? es with
  | none =>
    rw [found] at reads
    cases reads
    rfl
  | some entry =>
    obtain ⟨key, v⟩ := entry
    rw [found] at reads
    change (optional reading v).under (.entry key) = .ok read at reads
    change read = v.text?
    unfold optional at reads
    split at reads
    · cases reads
      rfl
    · rename_i other
      cases text : reading v with
      | ok t =>
        rw [text] at reads
        cases reads
        rw [own v t text]
        rfl
      | bad issues =>
        rw [text] at reads
        cases reads

theorem Schema.str_of_text {v : Value} {t : String} (read : text v = .ok t) : v = .str t := by
  unfold text at read
  split at read
  · cases read
    rfl
  · cases read

theorem Schema.str_of_textWithin {least : Nat} {most : Option Nat} {v : Value} {t : String}
    (read : textWithin least most v = .ok t) : v = .str t := by
  unfold textWithin Checked.andThen Checked.defect at read
  cases text : text v with
  | bad issues => simp [text] at read
  | ok s =>
    have same : s = t := by
      rw [text] at read
      grind
    exact same ▸ Schema.str_of_text text

theorem Executor.settingsOf_obj (config : Entries Value) :
    settingsOf (.obj config) = .obj config := by
  cases config <;> rfl

theorem MessageConfig.message_eq {config : Entries Value} {parsed : MessageConfig}
    (valid : read? (Executor.settingsOf (.obj config)) = .ok parsed) :
    parsed.message = (config.get? "message").bind Value.text? := by
  rw [Executor.settingsOf_obj] at valid
  have read := Schema.Checked.named_eq_ok_iff.mp valid
  obtain ⟨_, _, first, -, rfl⟩ := Schema.Checked.seq_eq_ok_iff.mp read
  obtain ⟨_, field, rfl⟩ := Schema.Checked.map_eq_ok_iff.mp first
  have own := Schema.orDefault_text_eq (fun v t => Schema.str_of_text) field
  dsimp only
  rw [own]
  cases found : config.get? "message" <;>
    simp [messageField, Schema.Field.find?, Schema.Field.named, found]

theorem ReplyCommentConfig.reply_eq {config : Entries Value} {parsed : ReplyCommentConfig}
    (valid : read? (Executor.settingsOf (.obj config)) = .ok parsed) :
    parsed.reply = (replyField.find? config).bind (·.2.text?) := by
  rw [Executor.settingsOf_obj] at valid
  have read := Schema.Checked.named_eq_ok_iff.mp valid
  obtain ⟨_, field, rfl⟩ := Schema.Checked.map_eq_ok_iff.mp read
  exact Schema.orDefault_text_eq (fun v t => Schema.str_of_textWithin) field

theorem ReplyMentionConfig.reply_eq {config : Entries Value} {parsed : ReplyMentionConfig}
    (valid : read? (Executor.settingsOf (.obj config)) = .ok parsed) :
    parsed.reply = (config.get? "message").bind Value.text? := by
  rw [Executor.settingsOf_obj] at valid
  have read := Schema.Checked.named_eq_ok_iff.mp valid
  obtain ⟨_, field, rfl⟩ := Schema.Checked.map_eq_ok_iff.mp read
  have own := Schema.orDefault_text_eq (fun v t => Schema.str_of_textWithin) field
  dsimp only
  rw [own]
  cases found : config.get? "message" <;>
    simp [replyField, Schema.Field.find?, Schema.Field.named, found]

theorem messageText?_none (configured : Option String) (items : List Item) :
    (messageText? none configured items).map (·.1) =
      (presentText? configured <|> presentText? (itemText? items)) := by
  unfold messageText?
  dsimp only
  cases presentText? configured with
  | some text => rfl
  | none => cases presentText? (itemText? items) <;> rfl

theorem replyText?_eq {generated configured : Option String} {text : String}
    (present : ∀ text, generated = some text → Text.allBlank text = false)
    (found : replyText? generated configured = some text) :
    some text = (generated <|> presentText? configured) := by
  cases generated with
  | none => exact found.symm
  | some own =>
    rw [replyText?_of_present (present own rfl)] at found
    exact found.symm

theorem messageText?_eq {generated configured : Option String} {items : List Item} {text : String}
    (present : ∀ text, generated = some text → Text.allBlank text = false)
    (found : (messageText? generated configured items).map (·.1) = some text) :
    some text = (generated <|> presentText? configured <|> presentText? (itemText? items)) := by
  cases generated with
  | none => exact (messageText?_none configured items ▸ found).symm
  | some own =>
    rw [messageText?_of_present (present own rfl)] at found
    exact found.symm

/-- A node sends the generated text that it took, which is not blank, or else its own. -/
theorem sentText?_eq {subType : String} {config : Entries Value} {generated : Option String}
    {items : List Item} {text : String} (sends : subType ∈ textSubTypes)
    (present : ∀ text, generated = some text → Text.allBlank text = false)
    (found : sentText? subType (.obj config) generated items = some text) :
    some text = (generated <|> ownText? subType config items) := by
  have none : ∀ t : Option String, (t <|> none) = t := fun t => by cases t <;> rfl
  simp only [textSubTypes, List.mem_cons, List.not_mem_nil, or_false] at sends
  rcases sends with rfl | rfl | rfl
  · cases read : MessageConfig.read? (Executor.settingsOf (.obj config)) with
    | error invalid => simp [sentText?, read, Except.toOption] at found
    | ok parsed =>
      have sent : (messageText? generated parsed.message items).map (·.1) = some text := by
        simpa [sentText?, read, Except.toOption] using found
      have own : staticText? "MESSAGE" config = parsed.message :=
        (MessageConfig.message_eq read).symm
      rw [ownText?, if_pos rfl, own]
      exact messageText?_eq present sent
  · cases read : ReplyCommentConfig.read? (Executor.settingsOf (.obj config)) with
    | error invalid => simp [sentText?, read, Except.toOption] at found
    | ok parsed =>
      have sent : replyText? generated parsed.reply = some text := by
        simpa [sentText?, read, Except.toOption] using found
      have own : staticText? "REPLY_COMMENT" config = parsed.reply :=
        (ReplyCommentConfig.reply_eq read).symm
      rw [ownText?, if_neg (by decide), none, own]
      exact replyText?_eq present sent
  · cases read : ReplyMentionConfig.read? (Executor.settingsOf (.obj config)) with
    | error invalid => simp [sentText?, read, Except.toOption] at found
    | ok parsed =>
      have sent : replyText? generated parsed.reply = some text := by
        simpa [sentText?, read, Except.toOption] using found
      have own : staticText? "REPLY_MENTION" config = parsed.reply :=
        (ReplyMentionConfig.reply_eq read).symm
      rw [ownText?, if_neg (by decide), none, own]
      exact replyText?_eq present sent

end Chatflow
