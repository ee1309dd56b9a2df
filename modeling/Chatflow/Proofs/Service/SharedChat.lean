import Chatflow.Proofs.Json.Text
import Chatflow.Proofs.Service.Chat
import Chatflow.Proofs.Service.Database

/-!
# Conversations shared by workers

Workers that append to a conversation in one database keep its newest turns, as many as their cap
says, and read of it what a history that forgets nothing holds at its end (`shared_chat_capped`). A
cap of zero keeps everything: the place that it names counts from the front of the list instead of
from its end.
-/

namespace Chatflow.Service

/-! ### Places in a list -/

section

variable {α : Type}

/-- The items from one place of a list to another, both included. Negative places count from its
end. -/
def stretch (first last : Int) (items : List α) : List α :=
  let place (i : Int) : Int := if i < 0 then items.length + i else i
  (items.take (place last + 1).toNat).drop (place first).toNat

/-- The last items of a list, but all of them for none. -/
theorem stretch_neg {count : Int} (nonneg : 0 ≤ count) (items : List α) :
    stretch (-count) (-1) items = if count = 0 then items else items.rtake count.toNat := by
  have all : items.take ((items.length : Int) + -1 + 1).toNat = items := by
    rw [Int.neg_add_cancel_right, Int.toNat_natCast, List.take_length]
  unfold stretch
  dsimp only
  rw [if_pos (by decide : (-1 : Int) < 0), all]
  by_cases none : count = 0
  · simp [none]
  · have below : -count < 0 := by omega
    rw [if_pos below, if_neg none, List.rtake]
    congr 1
    omega

theorem rtake_append_singleton (n : Nat) (items : List α) (item : α) :
    ((items.rtake n) ++ [item]).rtake n = (items ++ [item]).rtake n := by
  simp only [List.rtake_eq_reverse_take_reverse, List.reverse_append, List.reverse_reverse,
    List.reverse_singleton, List.singleton_append]
  cases n with
  | zero => simp
  | succ n => simp [List.take_take]

theorem rtake_rtake (m n : Nat) (items : List α) :
    (items.rtake m).rtake n = items.rtake (min n m) := by
  simp [List.rtake_eq_reverse_take_reverse, List.take_take]

end

/-! ### Stored turns -/

namespace Turn

theorem document_toList (t : Turn) :
    t.document.toList = '\x7b' :: ((Json.quote .compact "role").toList ++ ':' :: (
      (Json.quote .compact t.role.name).toList ++ ',' :: (
      (Json.quote .compact "text").toList ++ ':' :: (
      (Json.quote .compact t.text).toList ++ ['\x7d'])))) := by
  simp [document, Json.write, Json.writeAt, value, Json.writeEntries, Json.enclose,
    Json.Style.compact]

theorem read?_document (t : Turn) : Json.read? false t.document = some t.value := by
  have opening : ∀ cs, Json.skipSpace ('\x7b' :: cs) = '\x7b' :: cs := fun _ => rfl
  unfold Json.read?
  rw [document_toList, opening]
  dsimp only
  generalize size : 2 * List.length _ + 2 = fuel
  obtain ⟨fuel, rfl⟩ : ∃ n, fuel = n + 4 :=
    ⟨fuel - 4, by simp [Json.quote, Json.toList_quotePoints] at size; omega⟩
  rw [Json.readValue_brace, Json.readEntries_comma, Json.skipSpace_quote, Json.readEntries_brace]
  rfl

theorem ofDocument?_document (t : Turn) : ofDocument? t.document = .ok t := by
  obtain ⟨role, text⟩ := t
  rw [ofDocument?, read?_document]
  cases role <;> rfl

end Turn

theorem KeyStore.mapM_turnOf (turns : List Turn) :
    (turns.map fun t => Value.str t.document).mapM KeyStore.turnOf = .ok turns := by
  induction turns with
  | nil => rfl
  | cons t turns ih =>
    have read : KeyStore.turnOf (.str t.document) = .ok t := by
      rw [KeyStore.turnOf, Turn.ofDocument?_document]
      rfl
    rw [List.map_cons, List.mapM_cons, read, ih]
    rfl

/-! ### A database of lists -/

variable {σ τ : Type}

structure Contribution (τ : Type) extends Arrival τ where
  turn : Turn

namespace Database

/-- How a database keeps lists, where the list under each key can be seen. A key that is not there
has no items. -/
structure Lists (db : Database σ τ) (listed : σ → String → List String) : Prop where
  push : ∀ data now key value,
    listed (db.execute now (.push key value) data).2 key = listed data key ++ [value]
  trim : ∀ data now key first last,
    listed (db.execute now (.trim key first last) data).2 key = stretch first last (listed data key)
  range : ∀ data now key first last,
    (db.execute now (.range key first last) data).1 =
      .list ((stretch first last (listed data key)).map .str)

def appendAll (db : Database σ τ) (maxTurns : Int) (page sender : String) :
    List (Contribution τ) → Site σ → List (Except Fault Unit) × Site σ
  | [], site => ([], site)
  | c :: rest, site =>
    let (ended, site) :=
      ((db.client c.time c.client).appendTurn maxTurns page sender c.turn).run.run site
    let (later, site) := db.appendAll maxTurns page sender rest site
    (ended :: later, site)

/-- What is left of turns when all but the last ones are dropped after each of them. No cap at all
is meant by a cap of zero. -/
def kept (maxTurns : Int) (turns : List Turn) : List Turn :=
  if maxTurns = 0 then turns else turns.rtake maxTurns.toNat

theorem kept_append (maxTurns : Int) (turns : List Turn) (turn : Turn) :
    kept maxTurns (kept maxTurns turns ++ [turn]) = kept maxTurns (turns ++ [turn]) := by
  unfold kept
  split
  · rfl
  · exact rtake_append_singleton _ turns turn

variable {db : Database σ τ} {listed : σ → String → List String} {maxTurns : Int}
  {page sender : String} {site : Site σ} {turns : List Turn}

theorem map_kept (turns : List Turn) :
    (kept maxTurns turns).map Turn.document =
      if maxTurns = 0 then turns.map Turn.document
      else (turns.map Turn.document).rtake maxTurns.toNat := by
  unfold kept List.rtake
  split
  · rfl
  · rw [List.map_drop, List.length_map]

/-- An append adds its turn and drops what is above the cap. -/
theorem Lists.exists_run_appendTurn (lists : db.Lists listed) (nonneg : 0 ≤ maxTurns)
    (holds : listed site.data (KeyStore.chatKey page sender) =
      (kept maxTurns turns).map Turn.document) (now : τ) (client : Nat) (turn : Turn) :
    ∃ after : Site σ,
      ((db.client now client).appendTurn maxTurns page sender turn).run.run site = (.ok (), after) ∧
      listed after.data (KeyStore.chatKey page sender) =
        (kept maxTurns (turns ++ [turn])).map Turn.document := by
  refine ⟨_, rfl, ?_⟩
  show listed (db.execute now (.trim (KeyStore.chatKey page sender) (-maxTurns) (-1))
    (db.execute now (.push (KeyStore.chatKey page sender) turn.document) site.data).2).2 _ = _
  rw [lists.trim, lists.push, holds, stretch_neg nonneg, ← kept_append, map_kept (kept _ _ ++ _),
    List.map_append, List.map_singleton]

/-- By induction on the appends: the list is what is kept of the turns so far. -/
theorem Lists.appendAll_eq (lists : db.Lists listed) (nonneg : 0 ≤ maxTurns)
    (contributions : List (Contribution τ))
    (holds : listed site.data (KeyStore.chatKey page sender) =
      (kept maxTurns turns).map Turn.document) :
    (db.appendAll maxTurns page sender contributions site).1 = contributions.map (fun _ => .ok ()) ∧
      listed (db.appendAll maxTurns page sender contributions site).2.data
          (KeyStore.chatKey page sender) =
        (kept maxTurns (turns ++ contributions.map (·.turn))).map Turn.document := by
  induction contributions generalizing site turns with
  | nil => exact ⟨rfl, by rw [List.map_nil, List.append_nil]; exact holds⟩
  | cons c rest ih =>
    obtain ⟨after, ended, grown⟩ := lists.exists_run_appendTurn nonneg holds c.time c.client c.turn
    obtain ⟨all, final⟩ := ih grown
    rw [appendAll, ended]
    dsimp only
    rw [List.append_assoc] at final
    exact ⟨congrArg (List.cons _) all, final⟩

/-- Reading gives the last turns of the list. -/
theorem Lists.run_recentTurns (lists : db.Lists listed)
    (holds : listed site.data (KeyStore.chatKey page sender) = turns.map Turn.document) (now : τ)
    (client : Nat) (limit : Int) :
    (((db.client now client).recentTurns page sender limit).run.run site).1 =
      .ok (newest limit turns) := by
  by_cases none : limit ≤ 0
  · rw [KeyStore.recentTurns, if_pos none, newest, if_neg (by omega)]
    rfl
  · have reply : (db.answer now (.single (.range (KeyStore.chatKey page sender) (-limit) (-1)))
        site.data).1 = .list ((newest limit turns).map fun t => .str t.document) := by
      show (db.execute now (.range _ (-limit) (-1)) site.data).1 = _
      rw [lists.range, holds, stretch_neg (by omega), if_neg (by omega), newest_eq_rtake,
        List.rtake, List.rtake, List.length_map, ← List.map_drop, List.map_map]
      rfl
    have asks :=
      db.run_ask now client (.single (.range (KeyStore.chatKey page sender) (-limit) (-1))) site
    rw [reply] at asks
    rw [KeyStore.recentTurns, if_neg none, Connection.run_bind_of_run asks]
    simp only [Value.members?, KeyStore.mapM_turnOf]
    rfl

end Database

theorem newest_kept {maxTurns : Int} (nonneg : 0 ≤ maxTurns) (limit : Int) (turns : List Turn) :
    newest limit (Database.kept maxTurns turns) =
      newest (if maxTurns = 0 then limit else min limit maxTurns) turns := by
  unfold Database.kept
  split
  · rfl
  · rw [newest_eq_rtake, newest_eq_rtake, rtake_rtake]
    congr 1
    omega

/-! ### Lists by key -/

namespace ListTable

def listed (data : Table String (List String)) (key : String) : List String :=
  (data.get? key).getD []

def database : Database (Table String (List String)) τ where
  execute
    | _, .push key value => fun data =>
      (.int ((listed data key).length + 1), data.put key (listed data key ++ [value]))
    | _, .trim key first last => fun data =>
      (.bool true, data.put key (stretch first last (listed data key)))
    | _, .range key first last => fun data =>
      (.list ((stretch first last (listed data key)).map .str), data)
    | _, _ => fun data => (.null, data)

theorem lists : (database : Database _ τ).Lists listed where
  push data _ key value := by simp only [database, listed, Table.get?_put_self, Option.getD_some]
  trim data _ key first last := by
    simp only [database, listed, Table.get?_put_self, Option.getD_some]
  range _ _ _ _ _ := rfl

end ListTable

/-! ### The newest turns -/

/-- Clients of one database that append to a conversation keep its newest turns, as many as their
cap says, and read what a history that keeps everything shows at most as many of. With a cap of zero
the database keeps everything as well. -/
theorem shared_chat_capped {db : Database σ τ} {listed : σ → String → List String}
    (lists : db.Lists listed) {maxTurns : Int} (nonneg : 0 ≤ maxTurns) (page sender : String)
    (contributions : List (Contribution τ)) (site : Site σ)
    (new : listed site.data (KeyStore.chatKey page sender) = []) :
    let turns := contributions.map (·.turn)
    let ended := db.appendAll maxTurns page sender contributions site
    let stored := listed ended.2.data (KeyStore.chatKey page sender)
    ended.1 = contributions.map (fun _ => .ok ()) ∧
    (0 < maxTurns → (stored.length : Int) ≤ maxTurns) ∧
    (maxTurns = 0 → stored = turns.map Turn.document) ∧
    ∀ (now : τ) (client : Nat) (limit : Int), ∃ shown : List Turn,
      (((db.client now client).recentTurns page sender limit).run.run ended.2).1 = .ok shown ∧
      ((ChatHistory.empty.extend page sender turns).2.recent page sender
        (if maxTurns = 0 then limit else min limit maxTurns)).1 = .ok shown := by
  intro turns ended stored
  have empty : listed site.data (KeyStore.chatKey page sender) =
      (Database.kept maxTurns []).map Turn.document := by
    rw [new, Database.map_kept]
    simp [List.rtake]
  obtain ⟨all, holds⟩ := lists.appendAll_eq nonneg contributions empty
  rw [List.nil_append] at holds
  refine ⟨all, fun pos => ?_, fun zero => ?_, fun now client limit => ?_⟩
  · show (List.length (listed _ _) : Int) ≤ maxTurns
    rw [holds, List.length_map, Database.kept, if_neg (by omega), List.rtake, List.length_drop]
    omega
  · show listed _ _ = _
    rw [holds, Database.kept, if_pos zero]
  · refine ⟨_, lists.run_recentTurns holds now client limit, ?_⟩
    obtain ⟨reliable, grows⟩ := ChatHistory.reliable_empty.extend page sender turns
    rw [(reliable.recent page sender _).1, grows, if_pos rfl, newest_kept nonneg]
    rfl

def remarks : List (Contribution ℤ) :=
  [⟨⟨0, 0⟩, ⟨.user, "hello"⟩⟩, ⟨⟨1, 1⟩, ⟨.model, "hi"⟩⟩, ⟨⟨0, 2⟩, ⟨.user, "bye"⟩⟩]

theorem shared_chat_capped_at_two :
    (ListTable.database : Database _ ℤ).Lists ListTable.listed ∧ (0 : Int) ≤ 2 ∧
    ListTable.listed [] (KeyStore.chatKey "page" "ana") = [] ∧
    let ended := ListTable.database.appendAll 2 "page" "ana" remarks ⟨[], fun _ => []⟩
    let history := (ChatHistory.empty.extend "page" "ana" (remarks.map (·.turn))).2
    ended.1 = [.ok (), .ok (), .ok ()] ∧
    ((ListTable.listed ended.2.data (KeyStore.chatKey "page" "ana")).length : Int) ≤ 2 ∧
    (((ListTable.database.client 3 1).recentTurns "page" "ana" 5).run.run ended.2).1 =
      .ok [⟨.model, "hi"⟩, ⟨.user, "bye"⟩] ∧
    (history.recent "page" "ana" (min 5 2)).1 = .ok [⟨.model, "hi"⟩, ⟨.user, "bye"⟩] := by
  have lists : (ListTable.database : Database _ ℤ).Lists ListTable.listed := ListTable.lists
  have nonneg : (0 : Int) ≤ 2 := by decide
  have new : ListTable.listed [] (KeyStore.chatKey "page" "ana") = [] := rfl
  obtain ⟨all, capped, -, reads⟩ :=
    shared_chat_capped lists nonneg "page" "ana" remarks ⟨[], fun _ => []⟩ new
  obtain ⟨shown, here, there⟩ := reads 3 1 5
  have history : (((ChatHistory.empty.extend "page" "ana" (remarks.map (·.turn))).2.recent
      "page" "ana" (min 5 2)).1) = .ok [⟨.model, "hi"⟩, ⟨.user, "bye"⟩] := by rfl
  obtain rfl : shown = [⟨.model, "hi"⟩, ⟨.user, "bye"⟩] :=
    Except.ok.inj (there.symm.trans history)
  exact ⟨lists, nonneg, new, all, capped (by decide), here, history⟩

/-- A cap of zero drops nothing, where the newest turns would be none. -/
theorem zero_cap_keeps_turn :
    let turn : Turn := ⟨.user, "hi"⟩
    let ended := (ListTable.database : Database _ ℤ).appendAll 0 "page" "ana" [⟨⟨0, 0⟩, turn⟩]
      ⟨[], fun _ => []⟩
    ¬((ListTable.listed ended.2.data (KeyStore.chatKey "page" "ana")).length : Int) ≤ 0 ∧
    (((ListTable.database.client 1 0).recentTurns "page" "ana" 5).run.run ended.2).1 = .ok [turn] ∧
    ((ChatHistory.empty.extend "page" "ana" [turn]).2.recent "page" "ana" (min 5 0)).1 =
      .ok [] := by
  intro turn ended
  have stored : ListTable.listed ended.2.data (KeyStore.chatKey "page" "ana") =
      [turn].map Turn.document := by rfl
  refine ⟨?_, ListTable.lists.run_recentTurns stored 1 0 5, rfl⟩
  rw [stored]
  decide

end Chatflow.Service
