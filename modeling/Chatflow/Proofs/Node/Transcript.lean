import Chatflow.Proofs.Node.Generation

/-!
# Conversations with a generator

Executions that ask for generated texts and share a history. Each one does all that it has to do or
changes nothing (`AllOrNothing`), and so a conversation holds the exchanges of the executions that
succeeded, one after the other (`Occasion.leaveAll_of_reliable`). These are the turns that the
generator is given.
-/

namespace Chatflow

open Service

variable {h : ChatHistory}

/-! ### All or nothing -/

theorem Handoff.producerName_current (h : Handoff) :
    h.producerName h.current = h.current.getD "" := by
  unfold producerName
  split
  · rename_i name working
    rw [working]
    exact ite_self _
  · rfl

/-- No message is sent. After a failure the hand-off and all conversations are as they were. After a
success the response of the generator, a text that is not blank, is pending for the node at work,
and the texts of other nodes are as they were. -/
structure AllOrNothing (w : World) (r : NodeResult) (w' : World) : Prop where
  sends : w'.services.messaging = w.services.messaging
  nothing : r.success = false →
    w'.handoff = w.handoff ∧ w'.services.conversations = w.services.conversations
  all : r.success = true → ∃ g text, w.services.ai = some g ∧ g.response = .str text ∧
    Text.allBlank text = false ∧
    w'.handoff.pending.get? (w.handoff.current.getD "") = some text ∧
    w'.handoff.pending.erase (w.handoff.current.getD "") =
      w.handoff.pending.erase (w.handoff.current.getD "")

theorem Generates.allOrNothing {env : Env} {w w' : World} {r : NodeResult}
    (does : Generates env w r w') : AllOrNothing w r w' where
  sends := does.sends
  nothing failed := by
    obtain ⟨handoff, kept | read⟩ := does.fails failed
    · exact ⟨handoff, by rw [Bundle.conversations, kept]; rfl⟩
    · refine ⟨handoff, ?_⟩
      rw [Bundle.conversations, read]
      exact env.map_conversation_recent _
  all success := by
    obtain ⟨g, text, there, usable, put, -⟩ := does.succeeds success
    obtain ⟨response, present⟩ := usableResponse?_eq_some_iff.mp usable
    obtain ⟨-, left⟩ := Handoff.put_eq_ok_iff.mp put
    rw [w.handoff.producerName_current] at left
    rw [left]
    exact ⟨g, text, there, response, present, Table.get?_erase_append _ _ _,
      Table.erase_erase_append _ _ _⟩

/-! ### What is told -/

namespace Occasion

/-- The turns that an execution adds to a conversation when it finds the history: both sides of the
exchange, if it succeeds and the conversation is the one at hand. -/
def told (o : Occasion) (h : ChatHistory) (page sender : String) : List Turn :=
  match (o.outcome generate .chatHistory h).1 with
  | .ok (.result r) =>
    if r.success ∧ (page, sender) = (o.env.context.pageId, o.env.context.senderId) then
      exchange (o.env.context.messageText.getD "")
        ((o.world.services.ai.bind (·.response.text?)).getD "")
    else []
  | _ => []

def allTold (page sender : String) : ChatHistory → List Occasion → List Turn
  | _, [] => []
  | h, o :: later =>
    o.told h page sender ++ allTold page sender (o.leave generate .chatHistory h) later

/-- An execution leaves each conversation with what it has told. -/
theorem leave_of_reliable (o : Occasion) (reliable : h.Reliable) :
    (o.leave generate .chatHistory h).Reliable ∧
      ∀ page sender, (o.leave generate .chatHistory h).conversation page sender =
        h.conversation page sender ++ o.told h page sender := by
  obtain ⟨r, w', ends, does⟩ :=
    exists_outcome_generate o.env (o.world.placing .chatHistory h) o.config o.items
  obtain ⟨-, h', read, reliable', same⟩ := o.env.recent_of_reliable reliable
  unfold leave told outcome
  rw [ends]
  dsimp only
  cases success : r.success with
  | false =>
    have left : ∃ kept, w'.services.chatHistory = some kept ∧ kept.Reliable ∧
        kept.conversation = h.conversation := by
      obtain ⟨-, kept | kept⟩ := does.fails success
      · exact ⟨h, kept, reliable, rfl⟩
      · exact ⟨h', kept.trans read, reliable', same⟩
    obtain ⟨kept, found, reliable, same⟩ := left
    simp only [Place.chatHistory, found, Option.getD_some]
    exact ⟨reliable, fun page sender => by rw [same]; simp⟩
  | true =>
    obtain ⟨g, text, there, usable, -, left⟩ := does.succeeds success
    obtain ⟨response, -⟩ := usableResponse?_eq_some_iff.mp usable
    have own : o.world.services.ai = some g := there
    have extended := left.trans (congrArg (o.env.remember text) read)
    obtain ⟨reliable'', grows⟩ := reliable'.extend o.env.context.pageId o.env.context.senderId
      (exchange (o.env.context.messageText.getD "") text)
    simp only [Place.chatHistory, extended, Env.remember, Option.map_some, Option.getD_some]
    refine ⟨reliable'', fun page sender => ?_⟩
    rw [grows, same, own]
    simp [response, Value.text?]

/-- After executions one after the other each conversation is what it was at first and what they
have told. By induction on these. -/
theorem leaveAll_of_reliable (reliable : h.Reliable) (past : List Occasion) :
    (leaveAll generate .chatHistory past h).Reliable ∧
      ∀ page sender, (leaveAll generate .chatHistory past h).conversation page sender =
        h.conversation page sender ++ allTold page sender h past := by
  unfold leaveAll
  induction past generalizing h with
  | nil => exact ⟨reliable, fun _ _ => (List.append_nil _).symm⟩
  | cons o later ih =>
    obtain ⟨reliable', grows⟩ := o.leave_of_reliable reliable
    obtain ⟨after, more⟩ := ih reliable'
    refine ⟨after, fun page sender => (more page sender).trans ?_⟩
    rw [grows, allTold, List.append_assoc]

/-- Every prompt has the last turns of the conversation at hand, as many as the settings allow. -/
theorem prompts_of_reliable (o : Occasion) (reliable : h.Reliable) :
    ∃ calls, (o.outcome generate .chatHistory h).2.services.prompts =
        o.world.services.prompts ++ calls ∧
      ∀ call ∈ calls, ∃ s, o.env.settings = .ok s ∧ call.history =
        (h.conversation o.env.context.pageId o.env.context.senderId).rtake
          s.chatHistoryLimit.toNat := by
  obtain ⟨r, w', ends, does⟩ :=
    exists_outcome_generate o.env (o.world.placing .chatHistory h) o.config o.items
  obtain ⟨calls, given, histories⟩ := does.asks
  refine ⟨calls, ?_, fun call mem => ?_⟩
  · rw [outcome, ends]
    exact given
  · obtain ⟨⟨s, settings⟩, same⟩ := histories call mem
    have reads := (o.env.recent_of_reliable reliable).1 s settings
    refine ⟨s, settings, same.trans ?_⟩
    rw [← newest_eq_rtake]
    exact congrArg (fun read => read.toOption.getD []) reads

end Occasion

/-- An execution that asks for a generated text always ends with a result, and it does all or
nothing. When executions share a history that does not fail, whatever else they find and however
they end, each prompt has the last turns, as many as the settings allow, of those that were there at
first and those that the executions before it have told. -/
theorem generates_from_transcript :
    (∀ env w config items, ∃ r w',
      Exec.outcome (generate.execute config items) env w = (.ok (.result r), w') ∧
        AllOrNothing w r w') ∧
    ∀ h : ChatHistory, h.Reliable → ∀ (past : List Occasion) (o : Occasion),
      ∃ calls, (o.outcome generate .chatHistory
          (Occasion.leaveAll generate .chatHistory past h)).2.services.prompts =
          o.world.services.prompts ++ calls ∧
        ∀ call ∈ calls, ∃ s, o.env.settings = .ok s ∧ call.history =
          (h.conversation o.env.context.pageId o.env.context.senderId ++
            Occasion.allTold o.env.context.pageId o.env.context.senderId h past).rtake
              s.chatHistoryLimit.toNat := by
  refine ⟨fun env w config items => ?_, fun h reliable past o => ?_⟩
  · obtain ⟨r, w', ends, does⟩ := exists_outcome_generate env w config items
    exact ⟨r, w', ends, does.allOrNothing⟩
  · obtain ⟨after, grown⟩ := Occasion.leaveAll_of_reliable reliable past
    obtain ⟨calls, given, histories⟩ := o.prompts_of_reliable after
    refine ⟨calls, given, fun call mem => ?_⟩
    obtain ⟨s, settings, history⟩ := histories call mem
    exact ⟨s, settings, by rw [history, grown]⟩

def greet (message : String) (generator : Option Generator) : Occasion where
  env := { Env.standard "run" with
    context := { Context.blank "run" with messageText := some message } }
  world := { World.bare with services := { Bundle.none with ai := generator } }
  config := .obj [("message", .str "Be kind")]
  items := []

/-- An exchange is followed by a message without a response, and then by one that meets the
generator with the exchange alone. -/
theorem generates_from_one_exchange :
    ChatHistory.empty.Reliable ∧
      ∃ call, ((greet "bye" (some (.scripted [] (.str "so long")))).outcome generate .chatHistory
          (Occasion.leaveAll generate .chatHistory
            [greet "hi" (some (.scripted [.str "hello"] .null)), greet "hey" none]
            .empty)).2.services.prompts = [call] ∧
        call.history = [⟨.user, "hi"⟩, ⟨.model, "hello"⟩] := by
  refine ⟨ChatHistory.reliable_empty, ?_⟩
  obtain ⟨calls, given, histories⟩ := generates_from_transcript.2 .empty ChatHistory.reliable_empty
    [greet "hi" (some (.scripted [.str "hello"] .null)), greet "hey" none]
    (greet "bye" (some (.scripted [] (.str "so long"))))
  have once : ([] ++ calls).length = 1 := by
    refine (congrArg List.length given).symm.trans ?_
    decide +kernel
  obtain ⟨call, rfl⟩ := List.length_eq_one_iff.mp once
  obtain ⟨s, settings, history⟩ := histories call List.mem_cons_self
  obtain rfl : Settings.standard = s := Except.ok.inj settings
  refine ⟨call, given, ?_⟩
  rw [history]
  decide +kernel

end Chatflow
