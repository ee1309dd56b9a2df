import Chatflow.Proofs.Handoff.Builtin
import Chatflow.Proofs.Node.Safe

/-!
# Payloads

What the built-in nodes do to the payloads of their items. A node that succeeds has one item for
each that it received, in the same order. It writes fields of its own, which no event has, and a
field that another node wrote under one of these names is replaced (`Dispatch.amending_builtin`).
Only a keyword filter may succeed without items.
-/

namespace Chatflow

def resultFields (subType : String) : List String :=
  match subType with
  | "KEYWORDS" => ["keywordMatched", "keyword_matched_word"]
  | "IS_FOLLOWER" => ["conditionResult", "conditionType"]
  | "HAS_TAG" => ["conditionResult", "conditionType", "foundTags", "matchedTags"]
  | "MESSAGE" => ["messageSent", "messageId"]
  | "SMARTAI" => ["aiResponse", "prompt", "userMessage"]
  | "REPLY_COMMENT" => ["commentReplied", "replyId"]
  | "REPLY_MENTION" => ["mentionReplied", "replyId"]
  | "CAROUSEL" => ["carouselSent", "messageId"]
  | "BUTTON_TEMPLATE" => ["buttonTemplateSent", "messageId"]
  | "QUICK_REPLIES" => ["quickRepliesSent", "messageId"]
  | _ => []

def Item.Carries (item : Item) (data : Entries Value) : Prop :=
  ∀ field ∈ data, item.get? field.1 = some field.2

/-- One item for each, in the same order, with the same fields of some names written into all
payloads. A field that has one of these names already gets the new value, and all others stay. -/
def Amends (names : List String) (input output : List Item) : Prop :=
  ∃ more : Entries Value, more.names ⊆ names ∧
    List.Forall₂ (fun item extended => extended.data = item.data.merge more) input output

section

variable {names : List String} {input output : List Item}

theorem Amends.refl (names : List String) (items : List Item) : Amends names items items :=
  ⟨[], List.nil_subset _, List.forall₂_same.mpr fun _ _ => rfl⟩

theorem amends_map {more : Entries Value} (own : more.names ⊆ names) {f : Item → Item}
    (adds : ∀ item, (f item).data = item.data.merge more) : Amends names input (input.map f) :=
  ⟨more, own, List.forall₂_map_right_iff.mpr (List.forall₂_same.mpr fun item _ => adds item)⟩

theorem Amends.carries (grows : Amends names input output) {data : Entries Value}
    (others : ∀ name ∈ data.names, name ∉ names) (carry : ∀ item ∈ input, item.Carries data) :
    ∀ item ∈ output, item.Carries data := by
  obtain ⟨more, own, pairs⟩ := grows
  induction pairs with
  | nil => exact carry
  | cons adds _ ih =>
    obtain ⟨first, carry⟩ := List.forall_mem_cons.mp carry
    refine List.forall_mem_cons.mpr ⟨fun field given => ?_, ih carry⟩
    have other : field.1 ∉ more.names := fun added =>
      others field.1 (List.mem_map_of_mem given) (own added)
    rw [Item.get?, adds, Table.get?_merge_of_not_mem _ other]
    exact first field given

end

namespace Exec

theorem passThrough_of_ne_nil {items : List Item} (received : items ≠ []) :
    passThrough items = items := by
  rw [passThrough, if_neg (by simpa using received)]

/-! ### Results -/

def Hands (P : List Item → Prop) (body : Exec Reply) : Prop :=
  Yields (fun r _ => r.success = true → P r.items) body

variable {α : Type} {P : List Item → Prop}

theorem Hands.imp {Q : List Item → Prop} {body : Exec Reply} (hands : Hands P body)
    (weaker : ∀ items, P items → Q items) : Hands Q body :=
  ⟨fun env w r w' ends succeeds => weaker _ (hands.holds env w r w' ends succeeds)⟩

theorem Hands.bind {body : Exec α} {next : α → Exec Reply} (rest : ∀ a, Hands P (next a)) :
    Hands P (body >>= next) := Yields.bind rest

theorem hands_result {r : NodeResult} (holds : r.success = true → P r.items) :
    Hands P (pure (.result r)) := by
  refine ⟨fun env w r' w' ends => ?_⟩
  cases ends
  exact holds

theorem hands_succeed {items : List Item} (holds : P items) (text : String) :
    Hands P (succeed items text) :=
  .bind fun _ => hands_result fun _ => holds

theorem hands_failWith (text : String) : Hands P (failWith text) :=
  .bind fun _ => hands_result nofun

theorem hands_failure (noted : Exec Unit) (text : String) :
    Hands P (do noted; failWith text) :=
  .bind fun _ => hands_failWith text

theorem hands_throw (fault : Fault) : Hands P (throw fault) := by
  refine ⟨fun env w r w' ends => ?_⟩
  cases ends

/-! ### Parts of executors -/

theorem hands_withConfig {γ : Type} (subType : String) (read? : Value → Except Schema.Invalid γ)
    (config : Value) {body : γ → Exec Reply} (own : ∀ parsed, Hands P (body parsed)) :
    Hands P (withConfig subType read? config body) := by
  unfold withConfig
  split
  · exact own _
  · exact hands_failure _ _

theorem hands_sendOr (subType failure : String) (call : Service.OutboundCall)
    {accepted : Service.SendResult → Exec Reply} (own : ∀ result, Hands P (accepted result)) :
    Hands P (sendOr subType failure call accepted) :=
  yields_sendOr hands_failWith subType failure call own

theorem hands_withReplyText (subType : String) (configured : Option String)
    {body : String → Exec Reply} (own : ∀ text, Hands P (body text)) :
    Hands P (withReplyText subType configured body) := by
  unfold withReplyText
  refine .bind fun generated => ?_
  split
  · exact own _
  · exact hands_failure _ _

theorem hands_withinLimit (subType : String) {body : Exec Reply} (own : Hands P body) :
    Hands P (withinLimit subType body) := by
  unfold withinLimit
  refine .bind fun c => .bind fun granted => ?_
  match granted with
  | .error fault => exact hands_failure _ _
  | .ok false => exact hands_failure _ _
  | .ok true => exact own

/-! ### Items with more data -/

section

variable {names : List String} {items : List Item} {more : Entries Value}

theorem amends_passThrough (received : items ≠ []) : Amends names items (passThrough items) := by
  rw [passThrough_of_ne_nil received]
  exact .refl names items

theorem amends_extendAll (received : items ≠ []) (own : more.names ⊆ names) :
    Amends names items (extendAll items more) := by
  rw [extendAll, passThrough_of_ne_nil received]
  exact amends_map own fun _ => rfl

theorem amends_branchAll (received : items ≠ []) (own : more.names ⊆ names) (now : Int)
    (branch : String) : Amends names items (branchAll items now more branch) := by
  rw [branchAll, passThrough_of_ne_nil received]
  exact amends_map own fun item => item.data_evolve ..

theorem amends_conditionItems (received : items ≠ []) (own : more.names ⊆ names)
    (result : "conditionResult" ∈ names) (now : Int) (holds : Bool) :
    Amends names items (conditionItems items now holds more) := by
  refine amends_branchAll received (fun name mem => ?_) now _
  rcases Table.mem_names_merge mem with outcome | given
  · obtain rfl : name = "conditionResult" := by simpa [Table.names] using outcome
    exact result
  · exact own given

end

/-! ### The executors -/

section

variable {items : List Item} (received : items ≠ [])

theorem hands_trigger (subType description name : String) (config : Value) (items : List Item) :
    Hands (Amends [] items) ((trigger subType description name).execute config items) :=
  hands_result fun _ => .refl [] items

include received

theorem hands_branchNode (subType description name : String) (config : Value) :
    Hands (Amends [] items) ((branchNode subType description name).execute config items) :=
  hands_result fun _ => amends_passThrough received

theorem hands_keywords (config : Value) :
    Hands (fun out => out = [] ∨ Amends (resultFields "KEYWORDS") items out)
      (keywords.execute config items) := by
  refine .bind fun _ => ?_
  split
  -- Invalid settings end the branch like a text without a keyword does.
  · exact .bind fun _ => hands_succeed (.inl rfl) _
  · refine .bind fun c => .bind fun _ => ?_
    dsimp only
    split
    · exact .bind fun _ => hands_succeed (.inl rfl) _
    · refine .bind fun _ => .bind fun now => hands_succeed (.inr ?_) _
      refine amends_branchAll received ?_ now _
      exact List.Subset.refl _

theorem hands_followerCheck (config : Value) :
    Hands (Amends (resultFields "IS_FOLLOWER") items)
      (Chatflow.isFollower.execute config items) := by
  refine .bind fun _ => .bind fun c => .bind fun _ => .bind fun found => .bind fun _ => ?_
  refine .bind fun now => hands_succeed ?_ _
  refine amends_conditionItems received ?_ List.mem_cons_self now _
  exact List.subset_cons_self _ _

theorem hands_hasTag (config : Value) :
    Hands (Amends (resultFields "HAS_TAG") items) (hasTag.execute config items) := by
  have tags : ∀ now holds (more : Entries Value),
      more.names ⊆ ["conditionType", "foundTags", "matchedTags"] →
        Amends (resultFields "HAS_TAG") items (conditionItems items now holds more) := by
    intro now holds more own
    have listed : more.names ⊆ resultFields "HAS_TAG" :=
      List.Subset.trans own (List.subset_cons_self _ _)
    exact amends_conditionItems received listed List.mem_cons_self now holds
  refine .bind fun _ => ?_
  split
  · exact .bind fun _ => .bind fun now => hands_succeed (tags now _ _ (by simp [Table.names])) _
  · refine .bind fun c => .bind fun _ => ?_
    dsimp only
    split
    · refine .bind fun found => .bind fun _ => .bind fun now => ?_
      exact hands_succeed (tags now _ _ (by simp [Table.names])) _
    · refine .bind fun found => .bind fun _ => .bind fun now => ?_
      exact hands_succeed (tags now _ _ (by simp [Table.names])) _

theorem hands_senderAction (subType description name action done : String) (config : Value) :
    Hands (Amends [] items)
      ((senderAction subType description name action done).execute config items) := by
  refine .bind fun _ => .bind fun c => .bind fun _ => hands_sendOr _ _ _ fun _ => ?_
  exact .bind fun _ => hands_succeed (amends_passThrough received) _

theorem hands_sendOr_extendAll {names : List String} (subType failure : String)
    (call : Service.OutboundCall) {noted : Service.SendResult → Exec Unit}
    {more : Service.SendResult → Entries Value} {text : String}
    (own : ∀ result, (more result).names ⊆ names) :
    Hands (Amends names items) (sendOr subType failure call fun result => do
      noted result
      succeed (extendAll items (more result)) text) := by
  refine hands_sendOr _ _ _ fun result => .bind fun _ => ?_
  exact hands_succeed (amends_extendAll received (own result)) _

theorem hands_messageSender (subType name home : String) (config : Value) :
    Hands (Amends (resultFields "MESSAGE") items)
      ((messageSender subType name home).execute config items) := by
  refine .bind fun _ => hands_withConfig _ _ _ fun parsed => .bind fun generated => ?_
  split
  · exact hands_failure _ _
  · refine .bind fun c => .bind fun _ => .bind fun _ => ?_
    exact hands_sendOr_extendAll received _ _ _ fun _ => List.Subset.refl _

theorem hands_replyComment (config : Value) :
    Hands (Amends (resultFields "REPLY_COMMENT") items) (replyComment.execute config items) := by
  refine .bind fun _ => hands_withConfig _ _ _ fun parsed => .bind fun c => ?_
  split
  · exact hands_failure _ _
  · refine hands_withReplyText _ _ fun text => .bind fun _ => ?_
    exact hands_sendOr_extendAll received _ _ _ fun _ => List.Subset.refl _

theorem hands_replyMention (config : Value) :
    Hands (Amends (resultFields "REPLY_MENTION") items) (replyMention.execute config items) := by
  refine .bind fun _ => hands_withConfig _ _ _ fun parsed => .bind fun c => ?_
  dsimp only
  split
  · exact hands_failure _ _
  · refine hands_withReplyText _ _ fun text => .bind fun _ => ?_
    exact hands_sendOr_extendAll received _ _ _ fun _ => List.Subset.refl _

theorem hands_carousel (config : Value) :
    Hands (Amends (resultFields "CAROUSEL") items) (carousel.execute config items) := by
  refine .bind fun _ => hands_withConfig _ _ _ fun parsed => .bind fun _ => .bind fun _ => ?_
  exact .bind fun c => hands_sendOr_extendAll received _ _ _ fun _ => List.Subset.refl _

theorem hands_buttonTemplate (config : Value) :
    Hands (Amends (resultFields "BUTTON_TEMPLATE") items)
      (buttonTemplate.execute config items) := by
  refine .bind fun _ => hands_withConfig _ _ _ fun parsed => .bind fun _ => .bind fun _ => ?_
  exact .bind fun c => hands_sendOr_extendAll received _ _ _ fun _ => List.Subset.refl _

theorem hands_quickReplies (config : Value) :
    Hands (Amends (resultFields "QUICK_REPLIES") items) (quickReplies.execute config items) := by
  refine .bind fun _ => hands_withConfig _ _ _ fun parsed => .bind fun _ => .bind fun _ => ?_
  exact .bind fun c => hands_sendOr_extendAll received _ _ _ fun _ => List.Subset.refl _

theorem hands_generate (config : Value) :
    Hands (Amends (resultFields "SMARTAI") items) (Chatflow.generate.execute config items) := by
  refine .bind fun _ => ?_
  split
  · exact hands_failure _ _
  · refine hands_withinLimit _ (.bind fun c => .bind fun turns => .bind fun _ => ?_)
    refine .bind fun response => ?_
    split
    · exact hands_failure _ _
    · split
      · exact hands_failure _ _
      · refine .bind fun h => .bind fun put => ?_
        split
        · exact hands_failure _ _
        · exact hands_throw _
        · refine .bind fun _ => .bind fun _ => hands_succeed ?_ _
          refine amends_extendAll received ?_
          exact List.Subset.refl _

theorem hands_delay (config : Value) :
    Hands (Amends [] items) (delay.execute config items) := by
  refine .bind fun _ => ?_
  split
  · exact hands_failure _ _
  · have done : ∀ text, Hands (Amends [] items) (succeed (passThrough items) text) := fun text =>
      hands_succeed (amends_passThrough received) text
    -- Both after a note that the delay is capped and without one.
    have waits : ∀ (long : Prop) [Decidable long] (seconds : Float) (text : String),
        Hands (Amends [] items) (if long then do sleep seconds; succeed (passThrough items) text
          else succeed (passThrough items) text) := by
      intro long _ seconds text
      split
      · exact .bind fun _ => done text
      · exact done text
    refine .bind fun s => ?_
    dsimp only
    split
    · exact .bind fun _ => .bind fun _ => waits _ _ _
    · exact .bind fun _ => waits _ _ _

omit received in
theorem hands_legacy (kind : LegacyKind) (config : Value) (items : List Item) :
    Hands (Amends [] items) (kind.executor.execute config items) := by
  refine .bind fun reply => ?_
  cases reply with
  | stray kindName =>
    refine ⟨fun env w r w' ends => ?_⟩
    cases ends
  | result r =>
    refine hands_result fun succeeds => ?_
    by_cases succeeded : r.success = true
    · rw [if_pos succeeded]
      exact .refl [] items
    · rw [if_neg succeeded] at succeeds
      exact absurd succeeds succeeded

end

end Exec

/-! ### The dispatch -/

namespace Executor

open Exec

/-- A success of the executor writes the fields of its subtype into what the node received. A
keyword filter may pass nothing on. -/
def Amending (e : Executor) : Prop :=
  ∀ config items, items ≠ [] → Hands
    (fun output => e.subType = "KEYWORDS" ∧ output = [] ∨
      Amends (resultFields e.subType) items output) (e.execute config items)

theorem amending_of_hands {e : Executor} (hands : ∀ config items, items ≠ [] →
    Hands (Amends (resultFields e.subType) items) (e.execute config items)) : e.Amending :=
  fun config items received => (hands config items received).imp fun _ => .inr

theorem amending_keywords : keywords.Amending := fun config _ received =>
  (hands_keywords received config).imp fun _ => Or.imp_left fun none => ⟨rfl, none⟩

theorem amending_of_builtin {e : Executor} (mem : e ∈ builtinExecutors) : e.Amending := by
  have all : ∀ e ∈ builtinExecutors, e.Amending := by
    simp only [builtinExecutors, List.forall_mem_cons, List.not_mem_nil, false_imp_iff,
      implies_true, and_true]
    exact ⟨amending_of_hands fun _ _ _ => hands_trigger ..,
      amending_of_hands fun _ _ _ => hands_trigger ..,
      amending_of_hands fun _ _ _ => hands_trigger ..,
      amending_of_hands fun _ _ _ => hands_trigger .., amending_keywords,
      amending_of_hands fun _ _ received => hands_followerCheck received _,
      amending_of_hands fun _ _ received => hands_hasTag received _,
      amending_of_hands fun _ _ received => hands_branchNode received ..,
      amending_of_hands fun _ _ received => hands_branchNode received ..,
      amending_of_hands fun _ _ received => hands_messageSender received ..,
      amending_of_hands fun _ _ received => hands_generate received _,
      amending_of_hands fun _ _ received => hands_replyComment received _,
      amending_of_hands fun _ _ received => hands_replyMention received _,
      amending_of_hands fun _ _ received => hands_carousel received _,
      amending_of_hands fun _ _ received => hands_buttonTemplate received _,
      amending_of_hands fun _ _ received => hands_quickReplies received _,
      amending_of_hands fun _ _ received => hands_senderAction received ..,
      amending_of_hands fun _ _ received => hands_senderAction received ..,
      amending_of_hands fun _ _ received => hands_senderAction received ..,
      amending_of_hands fun _ _ received => hands_delay received _⟩
  exact all e mem

end Executor

/-- Every built-in executor and every legacy node amends what it receives. -/
theorem Dispatch.amending_builtin {bridge : Option Bridge} {subType : String} {e : Executor}
    (found : (⟨.builtin, bridge⟩ : Dispatch).resolve? subType = some e) : e.Amending := by
  rcases (resolves_builtin found).2 with registered | ⟨kind, rfl⟩
  · exact Executor.amending_of_builtin registered
  · have none : resultFields kind.subType = [] := by cases kind <;> rfl
    refine Executor.amending_of_hands fun config items _ => ?_
    change Exec.Hands (Amends (resultFields kind.subType) items) _
    rw [none]
    exact Exec.hands_legacy kind config items

/-- No node writes a field that an event has. -/
theorem not_mem_resultFields (c : Context) (subType : String) :
    ∀ name ∈ c.eventData.names, name ∉ resultFields subType := by
  change ∀ name ∈ ["messageText", "senderId", "commentId", "mediaId", "triggerType"], _
  unfold resultFields
  split <;> decide

end Chatflow
