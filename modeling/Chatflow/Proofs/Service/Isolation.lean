import Chatflow.Proofs.Node.Keys
import Chatflow.Proofs.Service.SharedChat
import Chatflow.Proofs.Service.SharedLimits
import Mathlib.Order.Basic

/-!
# Stores kept apart

Conversations and limits share a database, in which each of them has a key. What is done under one
key is not seen under another, whatever its clients do in between (`stores_kept_apart`). A key is
glued from the names of its parties, so that two conversations, or two limits, have one key when a
colon in a name lets the names be cut in two ways.
-/

namespace Chatflow.Service

variable {σ σ' τ ν ν' : Type}

/-! ### Uses of a database -/

def Command.key : Command → String
  | .increment key => key
  | .expire key _ => key
  | .get key => key
  | .set key _ => key
  | .setFor key _ _ => key
  | .range key _ _ => key
  | .push key _ => key
  | .trim key _ _ => key

def Request.commands : Request → List Command
  | .single c => [c]
  | .together cs => cs

/-- What clients do with conversations and limits. -/
inductive Use where
  | append (maxTurns : Int) (page sender : String) (turn : Turn)
  | read (page sender : String) (limit : Int)
  | acquire (limit window : Int) (subject capability : String)

inductive Gain where
  | nothing
  | turns (shown : List Turn)
  | passage (granted : Bool)
deriving DecidableEq

namespace Use

def key : Use → String
  | append _ page sender _ => KeyStore.chatKey page sender
  | read page sender _ => KeyStore.chatKey page sender
  | acquire _ _ subject capability => KeyStore.rateKey subject capability

def perform {m : Type → Type} [Monad m] [MonadExceptOf Fault m] (store : KeyStore m) : Use → m Gain
  | append maxTurns page sender turn => do
    store.appendTurn maxTurns page sender turn
    return .nothing
  | read page sender limit => return .turns (← store.recentTurns page sender limit)
  | acquire limit window subject capability =>
    return .passage (← store.acquire limit window subject capability)

def request? : Use → Option Request
  | append maxTurns page sender turn =>
    some (.together [.push (KeyStore.chatKey page sender) turn.document,
      .trim (KeyStore.chatKey page sender) (-maxTurns) (-1)])
  | read page sender limit =>
    if limit ≤ 0 then none
    else some (.single (.range (KeyStore.chatKey page sender) (-limit) (-1)))
  | acquire _ window subject capability =>
    some (.together [.increment (KeyStore.rateKey subject capability),
      .expire (KeyStore.rateKey subject capability) window])

theorem key_of_request {u : Use} {request : Request} (asks : u.request? = some request) :
    ∀ c ∈ request.commands, c.key = u.key := by
  cases u with
  | append maxTurns page sender turn =>
    cases asks
    simp [Request.commands, Command.key, key]
  | read page sender limit =>
    by_cases none : limit ≤ 0
    · simp [request?, none] at asks
    · obtain rfl : _ = request := by simpa [request?, none] using asks
      simp [Request.commands, Command.key, key]
  | acquire limit window subject capability =>
    cases asks
    simp [Request.commands, Command.key, key]

def understand : Use → Value → Except Fault Gain
  | append .., _ => .ok .nothing
  | read .., reply =>
    match reply.members? with
    | none => .error (.misuse .kind "")
    | some items => (items.mapM KeyStore.turnOf).map .turns
  | acquire limit .., reply =>
    match KeyStore.firstOfTwo? reply >>= KeyStore.integerOf? with
    | .error cause => .error (.misuse cause "")
    | .ok count => .ok (.passage (decide (count ≤ limit)))

end Use

structure StoreCall (τ : Type) extends Arrival τ where
  use : Use

namespace Database

/-- What a use gets from the database, and what it leaves there. -/
def effect (db : Database σ τ) (now : τ) (u : Use) (data : σ) : Except Fault Gain × σ :=
  match u.request? with
  | none => (.ok (.turns []), data)
  | some request =>
    (u.understand (db.answer now request data).1, (db.answer now request data).2)

theorem run_perform (db : Database σ τ) (now : τ) (client : Nat) (u : Use) (site : Site σ) :
    ((u.perform (db.client now client)).run.run site).1 = (db.effect now u site.data).1 ∧
      ((u.perform (db.client now client)).run.run site).2.data = (db.effect now u site.data).2 := by
  cases u with
  | append maxTurns page sender turn => exact ⟨rfl, rfl⟩
  | read page sender limit =>
    by_cases none : limit ≤ 0
    · simp only [Use.perform, KeyStore.recentTurns, effect, Use.request?, if_pos none]
      exact ⟨rfl, rfl⟩
    · simp only [Use.perform, KeyStore.recentTurns, effect, Use.request?, if_neg none, bind_assoc]
      rw [Connection.run_bind_of_run (db.run_ask ..)]
      dsimp only [Use.understand]
      generalize (db.answer now _ site.data).1 = reply
      cases reply.members? with
      | none => exact ⟨rfl, rfl⟩
      | some items =>
        dsimp only
        cases items.mapM KeyStore.turnOf <;> exact ⟨rfl, rfl⟩
  | acquire limit window subject capability =>
    simp only [Use.perform, KeyStore.acquire, effect, Use.request?, bind_assoc]
    rw [Connection.run_bind_of_run (db.run_ask ..)]
    dsimp only [Use.understand]
    generalize (db.answer now _ site.data).1 = reply
    cases KeyStore.firstOfTwo? reply >>= KeyStore.integerOf? with
    | error cause => exact ⟨rfl, rfl⟩
    | ok count =>
      by_cases within : count ≤ limit
      · simp only [if_pos within, decide_eq_true within]
        exact ⟨rfl, rfl⟩
      · simp only [if_neg within, decide_eq_false within]
        exact ⟨rfl, rfl⟩

section

variable {db : Database σ τ} {listed : σ → String → List String} {maxTurns : Int}
  {page sender : String} {data : σ} {turns : List Turn}

theorem Lists.effect_append (lists : db.Lists listed) (nonneg : 0 ≤ maxTurns)
    (holds : listed data (KeyStore.chatKey page sender) = (kept maxTurns turns).map Turn.document)
    (now : τ) (turn : Turn) :
    listed (db.effect now (.append maxTurns page sender turn) data).2
        (KeyStore.chatKey page sender) =
      (kept maxTurns (turns ++ [turn])).map Turn.document := by
  have start : listed (⟨data, fun _ => []⟩ : Site σ).data (KeyStore.chatKey page sender) =
      (kept maxTurns turns).map Turn.document := holds
  obtain ⟨after, ended, grown⟩ := lists.exists_run_appendTurn nonneg start now 0 turn
  rw [← (db.run_perform now 0 (.append maxTurns page sender turn) ⟨data, fun _ => []⟩).2,
    Use.perform, Connection.run_bind_of_run ended]
  exact grown

theorem Lists.effect_read (lists : db.Lists listed) (now : τ) (limit : Int)
    (holds : listed data (KeyStore.chatKey page sender) = turns.map Turn.document) :
    (db.effect now (.read page sender limit) data).1 = .ok (.turns (newest limit turns)) := by
  have start : listed (⟨data, fun _ => []⟩ : Site σ).data (KeyStore.chatKey page sender) =
      turns.map Turn.document := holds
  have shown := lists.run_recentTurns start now 0 limit
  rw [← (db.run_perform now 0 (.read page sender limit) ⟨data, fun _ => []⟩).1,
    Use.perform, Connection.run_bind_of_run (Prod.ext shown rfl)]
  rfl

end

def replies (db : Database σ τ) : List (StoreCall τ) → Site σ → List (Except Fault Gain)
  | [], _ => []
  | c :: rest, site =>
    let (gain, site) := (c.use.perform (db.client c.time c.client)).run.run site
    gain :: db.replies rest site

/-- What calls get from the database alone. -/
def gains (db : Database σ τ) : List (StoreCall τ) → σ → List (Except Fault Gain)
  | [], _ => []
  | c :: rest, data =>
    (db.effect c.time c.use data).1 :: db.gains rest (db.effect c.time c.use data).2

theorem replies_eq_gains (db : Database σ τ) (calls : List (StoreCall τ)) (site : Site σ) :
    db.replies calls site = db.gains calls site.data := by
  induction calls generalizing site with
  | nil => rfl
  | cons c rest ih =>
    obtain ⟨gain, left⟩ := db.run_perform c.time c.client c.use site
    have first : db.replies (c :: rest) site =
        ((c.use.perform (db.client c.time c.client)).run.run site).1 ::
          db.replies rest ((c.use.perform (db.client c.time c.client)).run.run site).2 := rfl
    rw [first, ih, gain, left, gains]

def repliesUnder (key : String) (calls : List (StoreCall τ)) (gains : List (Except Fault Gain)) :
    List (Except Fault Gain) :=
  ((calls.zip gains).filter (·.1.use.key = key)).map (·.2)

theorem repliesUnder_cons (key : String) (c : StoreCall τ) (rest : List (StoreCall τ))
    (gain : Except Fault Gain) (gains : List (Except Fault Gain)) :
    repliesUnder key (c :: rest) (gain :: gains) =
      if c.use.key = key then gain :: repliesUnder key rest gains
      else repliesUnder key rest gains := by
  unfold repliesUnder
  by_cases own : c.use.key = key <;> simp [own]

/-! ### Keys do not meet -/

section

variable [LE τ]

/-- A database keeps its keys apart, where all that is under a key can be seen at each time. A
command sees and changes nothing but what is under its own key, and while none is executed nothing
goes from one key to another. -/
structure KeepsApart (db : Database σ τ) (under : σ → τ → String → ν) : Prop where
  wait : ∀ data data' key earlier later, earlier ≤ later →
    under data earlier key = under data' earlier key → under data later key = under data' later key
  own : ∀ data data' now c, under data now c.key = under data' now c.key →
    (db.execute now c data).1 = (db.execute now c data').1 ∧
    under (db.execute now c data).2 now c.key = under (db.execute now c data').2 now c.key
  others : ∀ data now c key, key ≠ c.key →
    under (db.execute now c data).2 now key = under data now key

namespace KeepsApart

variable {db : Database σ τ} {under : σ → τ → String → ν} {key : String} {data data' : σ} {now : τ}

theorem executeAll_own (apart : db.KeepsApart under) {cs : List Command}
    (about : ∀ c ∈ cs, c.key = key) (same : under data now key = under data' now key) :
    (db.executeAll now cs data).1 = (db.executeAll now cs data').1 ∧
      under (db.executeAll now cs data).2 now key =
        under (db.executeAll now cs data').2 now key := by
  induction cs generalizing data data' with
  | nil => exact ⟨rfl, same⟩
  | cons c rest ih =>
    obtain rfl : c.key = key := about c List.mem_cons_self
    obtain ⟨reply, left⟩ := apart.own data data' now c same
    obtain ⟨replies, last⟩ := ih (fun d mem => about d (List.mem_cons_of_mem c mem)) left
    exact ⟨congrArg₂ List.cons reply replies, last⟩

theorem executeAll_others (apart : db.KeepsApart under) {cs : List Command}
    (about : ∀ c ∈ cs, c.key ≠ key) :
    under (db.executeAll now cs data).2 now key = under data now key := by
  induction cs generalizing data with
  | nil => rfl
  | cons c rest ih =>
    have first := apart.others data now c key (about c List.mem_cons_self).symm
    exact (ih fun d mem => about d (List.mem_cons_of_mem c mem)).trans first

theorem answer_own (apart : db.KeepsApart under) {request : Request}
    (about : ∀ c ∈ request.commands, c.key = key)
    (same : under data now key = under data' now key) :
    (db.answer now request data).1 = (db.answer now request data').1 ∧
      under (db.answer now request data).2 now key =
        under (db.answer now request data').2 now key := by
  cases request with
  | single c =>
    obtain rfl : c.key = key := about c List.mem_cons_self
    exact apart.own data data' now c same
  | together cs =>
    obtain ⟨replies, left⟩ := apart.executeAll_own about same
    exact ⟨congrArg Value.list replies, left⟩

theorem answer_others (apart : db.KeepsApart under) {request : Request}
    (about : ∀ c ∈ request.commands, c.key ≠ key) :
    under (db.answer now request data).2 now key = under data now key := by
  cases request with
  | single c => exact apart.others data now c key (about c List.mem_cons_self).symm
  | together cs => exact apart.executeAll_others about

/-- A use of a key gets what is under the key, and leaves there what follows from it. -/
theorem effect_own (apart : db.KeepsApart under) {u : Use}
    (same : under data now u.key = under data' now u.key) :
    (db.effect now u data).1 = (db.effect now u data').1 ∧
      under (db.effect now u data).2 now u.key = under (db.effect now u data').2 now u.key := by
  unfold effect
  cases asks : u.request? with
  | none => exact ⟨rfl, same⟩
  | some request =>
    obtain ⟨reply, left⟩ := apart.answer_own (Use.key_of_request asks) same
    exact ⟨congrArg u.understand reply, left⟩

theorem effect_others (apart : db.KeepsApart under) {u : Use} (other : u.key ≠ key) :
    under (db.effect now u data).2 now key = under data now key := by
  unfold effect
  cases asks : u.request? with
  | none => rfl
  | some request =>
    refine apart.answer_others fun c mem same => other ?_
    rw [← same, Use.key_of_request asks c mem]

end KeepsApart

end

/-- Calls under other keys make no difference. By induction on the calls, for two states that look
alike under the key. -/
theorem KeepsApart.gains_eq [Preorder τ] {db : Database σ τ} {under : σ → τ → String → ν}
    (apart : db.KeepsApart under) (key : String) {latest : τ} {calls : List (StoreCall τ)}
    (ordered : (latest :: calls.map (·.time)).Pairwise (· ≤ ·)) {data data' : σ}
    (same : under data latest key = under data' latest key) :
    repliesUnder key calls (db.gains calls data) =
      db.gains (calls.filter (·.use.key = key)) data' := by
  induction calls generalizing latest data data' with
  | nil => rfl
  | cons c rest ih =>
    obtain ⟨late, ordered⟩ := List.pairwise_cons.mp ordered
    have waited := apart.wait _ _ key _ _ (late c.time List.mem_cons_self) same
    rw [gains, repliesUnder_cons]
    by_cases own : c.use.key = key
    · subst own
      obtain ⟨equal, alike⟩ := apart.effect_own waited
      rw [if_pos rfl, List.filter_cons_of_pos (by simp), gains, ih ordered alike, equal]
    · have alike : under (db.effect c.time c.use data).2 c.time key = under data' c.time key :=
        (apart.effect_others own).trans waited
      rw [if_neg own, List.filter_cons_of_neg (by simpa using own), ih ordered alike]

end Database

/-! ### Names glued to keys -/

/-- Two names glued by a colon are cut at a later colon as two other names. -/
def Recut (first second first' second' : String) : Prop :=
  ∃ part, first' = first ++ ":" ++ part ∧ second = part ++ ":" ++ second'

theorem glued_eq_iff (front : String) {first second first' second' : String} :
    front ++ first ++ ":" ++ second = front ++ first' ++ ":" ++ second' ↔
      first = first' ∧ second = second' ∨
        Recut first second first' second' ∨ Recut first' second' first second := by
  have parts : ∀ s t : String, front ++ s ++ ":" ++ t = front ++ (s ++ ":" ++ t) := fun s t => by
    simp only [String.append_assoc]
  rw [parts, parts, String.append_right_inj, cut_eq_iff]
  rfl

theorem KeyStore.chatKey_eq_iff {page sender page' sender' : String} :
    chatKey page sender = chatKey page' sender' ↔ page = page' ∧ sender = sender' ∨
      Recut page sender page' sender' ∨ Recut page' sender' page sender :=
  glued_eq_iff "chat:"

theorem KeyStore.rateKey_eq_iff {subject capability subject' capability' : String} :
    rateKey subject capability = rateKey subject' capability' ↔
      capability = capability' ∧ subject = subject' ∨
        Recut capability subject capability' subject' ∨
        Recut capability' subject' capability subject :=
  glued_eq_iff "ratelimit:"

theorem KeyStore.chatKey_ne_rateKey (page sender subject capability : String) :
    chatKey page sender ≠ rateKey subject capability := by
  intro same
  have chars := congrArg String.toList same
  simp [chatKey, rateKey] at chars

/-! ### Databases side by side -/

namespace Database

/-- Two databases of which the first executes the commands of one kind and the second all others. -/
def beside (db : Database σ τ) (other : Database σ' τ) (first : Command → Bool) :
    Database (σ × σ') τ where
  execute now c data :=
    if first c then
      let (reply, left) := db.execute now c data.1
      (reply, (left, data.2))
    else
      let (reply, left) := other.execute now c data.2
      (reply, (data.1, left))

theorem KeepsApart.beside [LE τ] {db : Database σ τ} {other : Database σ' τ}
    {under : σ → τ → String → ν} {under' : σ' → τ → String → ν'} (apart : db.KeepsApart under)
    (apart' : other.KeepsApart under') (first : Command → Bool) :
    (db.beside other first).KeepsApart fun data now key =>
    (under data.1 now key, under' data.2 now key) where
  wait data data' key earlier later le same := by
    obtain ⟨left, right⟩ := Prod.ext_iff.mp same
    exact Prod.ext (apart.wait _ _ key _ _ le left) (apart'.wait _ _ key _ _ le right)
  own data data' now c same := by
    obtain ⟨left, right⟩ := Prod.ext_iff.mp same
    by_cases kind : first c = true
    · obtain ⟨reply, after⟩ := apart.own _ _ now c left
      simp only [Database.beside, kind, if_true]
      exact ⟨reply, Prod.ext after right⟩
    · obtain ⟨reply, after⟩ := apart'.own _ _ now c right
      simp only [Database.beside, kind]
      exact ⟨reply, Prod.ext left after⟩
  others data now c key other := by
    by_cases kind : first c = true
    · simp only [Database.beside, kind, if_true, apart.others _ now c key other]
    · simp only [Database.beside, kind]
      exact Prod.ext rfl (apart'.others _ now c key other)

end Database

theorem ListTable.keepsApart [LE τ] :
    (database : Database _ τ).KeepsApart fun data _ key => listed data key where
  wait _ _ _ _ _ _ same := same
  own data data' now c same := by
    cases c with
    | push key value => simp_all [database, listed, Command.key, Table.get?_put_self]
    | trim key first last => simp_all [database, listed, Command.key, Table.get?_put_self]
    | range key first last => simp_all [database, Command.key]
    | _ => exact ⟨rfl, same⟩
  others data now c key other := by
    cases c with
    | push key' value => exact congrArg (·.getD []) (Table.get?_put_of_ne data _ other)
    | trim key' first last => exact congrArg (·.getD []) (Table.get?_put_of_ne data _ other)
    | _ => rfl

namespace CounterTable

section

variable [LinearOrder τ]

theorem visible_put_other (data : Table String (Counter τ)) (now : τ) {key key' : String}
    (other : key ≠ key') (c : Counter τ) :
    visible (data.put key' c) now key = visible data now key := by
  rw [visible, visible, Table.get?_put_of_ne data c other]

theorem visible_put_own (data data' : Table String (Counter τ)) (now : τ) (key : String)
    (c : Counter τ) : visible (data.put key c) now key = visible (data'.put key c) now key := by
  rw [visible, visible, Table.get?_put_self, Table.get?_put_self]

theorem visible_erase (data : Table String (Counter τ)) (now : τ) (key key' : String) :
    visible (data.erase key') now key = if key = key' then none else visible data now key := by
  rw [visible, Table.get?_erase]
  split <;> rfl

variable {data data' : Table String (Counter τ)} {now : τ} {key key' : String}

theorem increment_own (same : visible data now key = visible data' now key) :
    (increment now key data).1 = (increment now key data').1 ∧
      visible (increment now key data).2 now key = visible (increment now key data').2 now key := by
  unfold increment
  rw [same]
  cases visible data' now key with
  | none => exact ⟨rfl, visible_put_own data data' now key _⟩
  | some c => exact ⟨rfl, visible_put_own data data' now key _⟩

theorem increment_others (data : Table String (Counter τ)) (now : τ) (other : key ≠ key') :
    visible (increment now key' data).2 now key = visible data now key := by
  unfold increment
  cases visible data now key' <;> exact visible_put_other data now other _

variable [CommRing τ] (seconds : Int)

theorem expire_own (same : visible data now key = visible data' now key) :
    (expire now key seconds data).1 = (expire now key seconds data').1 ∧
      visible (expire now key seconds data).2 now key =
        visible (expire now key seconds data').2 now key := by
  unfold expire
  rw [same]
  cases visible data' now key with
  | none => exact ⟨rfl, same⟩
  | some c =>
    obtain ⟨value, _ | deadline⟩ := c
    · by_cases past : seconds ≤ 0
      · simp [past, visible_erase]
      · simp only [if_neg past]
        exact ⟨trivial, visible_put_own data data' now key _⟩
    · exact ⟨rfl, same⟩

theorem expire_others (data : Table String (Counter τ)) (now : τ) (other : key ≠ key') :
    visible (expire now key' seconds data).2 now key = visible data now key := by
  unfold expire
  cases visible data now key' with
  | none => rfl
  | some c =>
    obtain ⟨value, _ | deadline⟩ := c
    · by_cases past : seconds ≤ 0
      · simp only [if_pos past]
        exact (visible_erase data now key key').trans (if_neg other)
      · simp only [if_neg past]
        exact visible_put_other data now other _
    · rfl

end

theorem keepsApart [CommRing τ] [LinearOrder τ] : (database : Database _ τ).KeepsApart visible where
  wait data data' key _ _ le same := by
    rw [visible_filter data key le, visible_filter data' key le, same]
  own data data' now c same := by
    cases c with
    | increment key => exact increment_own same
    | expire key seconds => exact expire_own seconds same
    | _ => exact ⟨rfl, same⟩
  others data now c key other := by
    cases c with
    | increment key' => exact increment_others data now other
    | expire key' seconds => exact expire_others seconds data now other
    | _ => rfl

end CounterTable

def Command.isOnList : Command → Bool
  | .push .. => true
  | .trim .. => true
  | .range .. => true
  | _ => false

def keyspace : Database (Table String (List String) × Table String (Counter ℤ)) ℤ :=
  ListTable.database.beside CounterTable.database Command.isOnList

theorem keyspace_keepsApart : keyspace.KeepsApart fun data now key =>
    (ListTable.listed data.1 key, CounterTable.visible data.2 now key) :=
  ListTable.keepsApart.beside CounterTable.keepsApart Command.isOnList

theorem keyspace_lists : keyspace.Lists fun data key => ListTable.listed data.1 key where
  push data now key value := ListTable.lists.push data.1 now key value
  trim data now key first last := ListTable.lists.trim data.1 now key first last
  range data now key first last := ListTable.lists.range data.1 now key first last

/-! ### Isolation -/

/-- What the calls under a key get does not depend on the calls under other keys. The keys of two
conversations, or of two limits, are the same only if the names are, or if a colon in one of the
names lets the one pair be cut as the other; a conversation and a limit never share a key. -/
theorem stores_kept_apart [Preorder τ] {db : Database σ τ} {under : σ → τ → String → ν}
    (apart : db.KeepsApart under) {calls : List (StoreCall τ)}
    (ordered : (calls.map (·.time)).Pairwise (· ≤ ·)) (site : Site σ) :
    (∀ key, Database.repliesUnder key calls (db.replies calls site) =
      db.replies (calls.filter (·.use.key = key)) site) ∧
    (∀ page sender page' sender',
      KeyStore.chatKey page sender = KeyStore.chatKey page' sender' ↔
        (page, sender) = (page', sender') ∨
          Recut page sender page' sender' ∨ Recut page' sender' page sender) ∧
    (∀ subject capability subject' capability',
      KeyStore.rateKey subject capability = KeyStore.rateKey subject' capability' ↔
        (subject, capability) = (subject', capability') ∨
          Recut capability subject capability' subject' ∨
          Recut capability' subject' capability subject) ∧
    ∀ page sender subject capability,
      KeyStore.chatKey page sender ≠ KeyStore.rateKey subject capability := by
  refine ⟨fun key => ?_, fun page sender page' sender' => ?_,
    fun subject capability subject' capability' => ?_, KeyStore.chatKey_ne_rateKey⟩
  · cases calls with
    | nil => rfl
    | cons c rest =>
      have ordered' : (c.time :: (c :: rest).map (·.time)).Pairwise (· ≤ ·) := by
        refine List.pairwise_cons.mpr ⟨fun t mem => ?_, ordered⟩
        rcases List.mem_cons.mp mem with rfl | later
        · exact le_rfl
        · exact (List.pairwise_cons.mp ordered).1 t later
      rw [db.replies_eq_gains, db.replies_eq_gains]
      exact apart.gains_eq key ordered' rfl
  · rw [KeyStore.chatKey_eq_iff, Prod.mk.injEq]
  · rw [KeyStore.rateKey_eq_iff, Prod.mk.injEq, and_comm]

/-- A turn is shown as it was appended, under any names that are glued to the same key. -/
theorem gains_append_read {page sender page' sender' : String} {maxTurns limit : ℤ}
    (same : KeyStore.chatKey page' sender' = KeyStore.chatKey page sender) (keeps : 0 < maxTurns)
    (shows : 0 < limit) (first second : Nat) (now later : ℤ) (turn : Turn) :
    keyspace.gains [⟨⟨first, now⟩, .append maxTurns page sender turn⟩,
      ⟨⟨second, later⟩, .read page' sender' limit⟩] ([], []) =
        [.ok .nothing, .ok (.turns [turn])] := by
  have new : ListTable.listed [] (KeyStore.chatKey page sender) =
      (Database.kept maxTurns []).map Turn.document := by
    rw [Database.map_kept]
    simp [ListTable.listed, List.rtake]
  have grown :
      ListTable.listed (keyspace.effect now (.append maxTurns page sender turn) ([], [])).2.1
      (KeyStore.chatKey page sender) = _ := keyspace_lists.effect_append keeps.le new now turn
  rw [← same] at grown
  have shown := keyspace_lists.effect_read later limit grown
  have one : ∀ n : ℤ, 0 < n → newest n [turn] = [turn] := fun n pos => by
    rw [newest, if_pos pos, List.length_singleton, show 1 - n.toNat = 0 by omega, List.drop_zero]
  rw [Database.kept, if_neg keeps.ne', List.nil_append, ← newest_eq_rtake, one _ keeps, one _ shows]
    at shown
  simp only [Database.gains, shown]
  rfl

def mingled : List (StoreCall ℤ) :=
  [⟨⟨0, 0⟩, .append 2 "page" "ana" ⟨.user, "hi"⟩⟩,
    ⟨⟨1, 0⟩, .append 2 "page" "bob" ⟨.user, "hello"⟩⟩,
    ⟨⟨0, 1⟩, .acquire 1 60 "ana" "ai"⟩, ⟨⟨1, 2⟩, .acquire 1 60 "bob" "ai"⟩,
    ⟨⟨0, 3⟩, .read "page" "bob" 5⟩]

theorem mingled_kept_apart :
    keyspace.KeepsApart (fun data now key =>
      (ListTable.listed data.1 key, CounterTable.visible data.2 now key)) ∧
    (mingled.map (·.time)).Pairwise (· ≤ ·) ∧
    Database.repliesUnder (KeyStore.chatKey "page" "bob") mingled
        (keyspace.replies mingled ⟨([], []), fun _ => []⟩) =
      [.ok .nothing, .ok (.turns [⟨.user, "hello"⟩])] := by
  have ordered : (mingled.map (·.time)).Pairwise (· ≤ ·) := by decide
  have own : mingled.filter (·.use.key = KeyStore.chatKey "page" "bob") =
      [⟨⟨1, 0⟩, .append 2 "page" "bob" ⟨.user, "hello"⟩⟩, ⟨⟨0, 3⟩, .read "page" "bob" 5⟩] := by
    simp [mingled, Use.key, KeyStore.chatKey, KeyStore.rateKey]
  refine ⟨keyspace_keepsApart, ordered, ?_⟩
  rw [(stores_kept_apart keyspace_keepsApart ordered ⟨([], []), fun _ => []⟩).1, own,
    Database.replies_eq_gains]
  exact gains_append_read (by decide) (by decide) (by decide) 1 0 0 3 _

/-- Two pairs of names that are glued to one key: the turn of one conversation is shown in the
other, and a call of one subject uses up the limit of the other. -/
theorem recut_names_mix :
    let start : Site (Table String (List String) × Table String (Counter ℤ)) :=
      ⟨([], []), fun _ => []⟩
    let turn : Turn := ⟨.user, "hi"⟩
    let read : StoreCall ℤ := ⟨⟨0, 1⟩, .read "a" "b:c" 5⟩
    let acquire : StoreCall ℤ := ⟨⟨0, 1⟩, .acquire 1 60 "b:c" "a"⟩
    ("a:b", "c") ≠ ("a", "b:c") ∧
    keyspace.replies [read] start = [.ok (.turns [])] ∧
    keyspace.replies [⟨⟨0, 0⟩, .append 50 "a:b" "c" turn⟩, read] start =
      [.ok .nothing, .ok (.turns [turn])] ∧
    ((ChatHistory.empty.append "a:b" "c" turn).2.recent "a" "b:c" 5).1 = .ok [] ∧
    keyspace.replies [acquire] start = [.ok (.passage true)] ∧
    keyspace.replies [⟨⟨0, 0⟩, .acquire 1 60 "c" "a:b"⟩, acquire] start =
      [.ok (.passage true), .ok (.passage false)] := by
  intro start turn read acquire
  simp only [Database.replies_eq_gains]
  exact ⟨by decide, rfl, gains_append_read (by decide) (by decide) (by decide) 0 0 0 1 turn, rfl,
    rfl, rfl⟩

end Chatflow.Service
