import Chatflow.Proofs.Service.Interruption
import Chatflow.Proofs.Table
import Mathlib.Data.List.DropRight

/-!
# Turns and prompts

What reading and extending a conversation does to it and to the others, and what a generator records
of the prompts that it is given.
-/

namespace Chatflow.Service

/-! ### Conversations -/

theorem newest_eq_rtake {α : Type} (limit : Int) (items : List α) :
    newest limit items = items.rtake limit.toNat := by
  unfold newest List.rtake
  split
  · rfl
  · rename_i none
    rw [Int.toNat_of_nonpos (Int.not_lt.mp none), Nat.sub_zero, List.drop_length]

namespace ChatHistory

variable {h : ChatHistory} {page sender : String} {fault : Fault}

structure Reliable (h : ChatHistory) : Prop where
  reads : ∀ i, h.onRead.upcoming i = none
  appends : ∀ i, h.onAppend.upcoming i = none

theorem reliable_empty : empty.Reliable := ⟨fun _ => rfl, fun _ => rfl⟩

theorem conversation_put (h : ChatHistory) (page sender : String) (turns : List Turn)
    (page' sender' : String) :
    { h with turns := h.turns.put (page, sender) turns }.conversation page' sender' =
      if (page', sender') = (page, sender) then turns else h.conversation page' sender' := by
  unfold conversation
  rw [Table.get?_put]
  split <;> rfl

theorem recent_of_some (event : h.onRead.next.1 = some fault) (limit : Int) :
    h.recent page sender limit = (.error fault, { h with onRead := h.onRead.next.2 }) := by
  unfold recent
  dsimp only
  rw [event]

theorem recent_of_none (event : h.onRead.next.1 = none) (limit : Int) :
    h.recent page sender limit = (.ok (newest limit (h.conversation page sender)),
      { h with
        onRead := h.onRead.next.2
        turns := h.turns.put (page, sender) (h.conversation page sender) }) := by
  unfold recent
  dsimp only
  rw [event]
  rfl

theorem append_of_none (event : h.onAppend.next.1 = none) (turn : Turn) :
    h.append page sender turn = (.ok (),
      { h with
        onAppend := h.onAppend.next.2
        turns := h.turns.put (page, sender) (h.conversation page sender ++ [turn]) }) := by
  unfold append
  dsimp only
  rw [event]
  rfl

/-- Reading a conversation changes no conversation. -/
theorem conversation_recent (h : ChatHistory) (page sender : String) (limit : Int) :
    (h.recent page sender limit).2.conversation = h.conversation := by
  rcases Option.eq_none_or_eq_some h.onRead.next.1 with event | ⟨fault, event⟩
  · rw [recent_of_none event]
    funext page' sender'
    refine (h.conversation_put page sender _ page' sender').trans ?_
    split
    · rename_i same
      cases same
      rfl
    · rfl
  · rw [recent_of_some event]
    rfl

theorem Reliable.recent (reliable : h.Reliable) (page sender : String) (limit : Int) :
    (h.recent page sender limit).1 = .ok (newest limit (h.conversation page sender)) ∧
      (h.recent page sender limit).2.Reliable := by
  have event : h.onRead.next.1 = none := reliable.reads 0
  rw [recent_of_none event]
  exact ⟨rfl, fun i => (h.onRead.upcoming_next i).trans (reliable.reads (i + 1)),
    reliable.appends⟩

theorem Reliable.append (reliable : h.Reliable) (page sender : String) (turn : Turn) :
    (h.append page sender turn).1 = .ok () ∧ (h.append page sender turn).2.Reliable ∧
      ∀ page' sender', (h.append page sender turn).2.conversation page' sender' =
        h.conversation page' sender' ++
          if (page', sender') = (page, sender) then [turn] else [] := by
  have event : h.onAppend.next.1 = none := reliable.appends 0
  rw [append_of_none event]
  refine ⟨rfl, ⟨reliable.reads, fun i => ?_⟩, fun page' sender' => ?_⟩
  · exact (h.onAppend.upcoming_next i).trans (reliable.appends (i + 1))
  · refine (h.conversation_put page sender _ page' sender').trans ?_
    split
    · rename_i same
      cases same
      rfl
    · exact (List.append_nil _).symm

def extend (h : ChatHistory) (page sender : String) :
    List Turn → Except Fault Unit × ChatHistory
  | [] => (.ok (), h)
  | turn :: rest =>
    match h.append page sender turn with
    | (.ok _, h) => h.extend page sender rest
    | (.error fault, h) => (.error fault, h)

/-- All turns are added to the one conversation. By induction on these. -/
theorem Reliable.extend (reliable : h.Reliable) (page sender : String) (turns : List Turn) :
    (h.extend page sender turns).2.Reliable ∧
      ∀ page' sender', (h.extend page sender turns).2.conversation page' sender' =
        h.conversation page' sender' ++
          if (page', sender') = (page, sender) then turns else [] := by
  induction turns generalizing h with
  | nil => exact ⟨reliable, fun page' sender' => by rw [ite_self, List.append_nil]; rfl⟩
  | cons turn rest ih =>
    obtain ⟨adds, reliable', grows⟩ := reliable.append page sender turn
    rw [ChatHistory.extend]
    generalize h.append page sender turn = added at adds reliable' grows
    obtain ⟨ended, h'⟩ := added
    obtain rfl : ended = .ok () := adds
    obtain ⟨reliable'', more⟩ := ih reliable'
    refine ⟨reliable'', fun page' sender' => ?_⟩
    rw [more, grows, List.append_assoc]
    split
    · rfl
    · rfl

end ChatHistory

/-- Both sides of an exchange. An empty message is none. -/
def exchange (message response : String) : List Turn :=
  (if message.isEmpty then [] else [⟨.user, message⟩]) ++ [⟨.model, response⟩]

/-! ### Prompts -/

namespace Generator

variable {g : Generator} {prompt : Prompt}

def response (g : Generator) : Value := g.responses.headD g.fallback

/-- A call is recorded with its prompt. If it is lost the response is still to come. -/
theorem generate_cases (g : Generator) (prompt : Prompt) :
    (g.generate prompt).2.prompts = g.prompts ++ [prompt] ∧
      ((g.generate prompt).1 = .ok g.response ∨
        (∃ fault, (g.generate prompt).1 = .error fault) ∧
          (g.generate prompt).2.response = g.response) := by
  unfold generate
  dsimp only
  split
  · exact ⟨rfl, .inr ⟨⟨_, rfl⟩, rfl⟩⟩
  · split
    · exact ⟨rfl, .inr ⟨⟨_, rfl⟩, rfl⟩⟩
    · split
      · rename_i given
        exact ⟨rfl, .inl (by rw [response, given]; rfl)⟩
      · rename_i given
        exact ⟨rfl, .inl (by rw [response, given]; rfl)⟩

end Generator

namespace Bundle

def prompts (b : Bundle) : List Prompt := (b.ai.map (·.prompts)).getD []

/-- The turns of each page and sender, if they are kept. -/
def conversations (b : Bundle) : Option (String → String → List Turn) :=
  b.chatHistory.map ChatHistory.conversation

end Bundle

end Chatflow.Service
