import Chatflow.Proofs.Node.Carriers
import Chatflow.Proofs.Node.Sharing

/-!
# What conditions fall back to

Inquiries about followers and tags that share a cache of flags. What one of them leaves in the cache
is said by the answer of its own lookup alone (`Inquiry.settled_of_asks`), and so the cache holds
the answer of the last successful lookup under each key (`flags_cacheAfter`). A lookup that fails is
decided by it.
-/

namespace Chatflow

open Service

variable {α : Type} {c : FlagCache} {env : Env} {w : World}

/-! ### The cache -/

namespace Service.FlagCache

structure Reliable (c : FlagCache) : Prop where
  reads : ∀ i, c.onRead.upcoming i = none
  writes : ∀ i, c.onWrite.upcoming i = none

theorem reliable_ofEntries (flags : Entries Bool) : (ofEntries flags).Reliable :=
  ⟨fun _ => rfl, fun _ => rfl⟩

theorem Reliable.exists_read (reliable : c.Reliable) (key : String) :
    ∃ c', c.read key = (.ok (c.flags.get? key), c') ∧ c'.Reliable ∧ c'.flags = c.flags := by
  have event : c.onRead.next.1 = none := reliable.reads 0
  refine ⟨{ c with onRead := c.onRead.next.2 }, ?_, ⟨fun i => ?_, reliable.writes⟩, rfl⟩
  · unfold read
    dsimp only
    rw [event]
  · exact (c.onRead.upcoming_next i).trans (reliable.reads (i + 1))

theorem Reliable.exists_write (reliable : c.Reliable) (key : String) (flag : Bool) :
    ∃ c', c.write key flag = (.ok (), c') ∧ c'.Reliable ∧ c'.flags = c.flags.put key flag := by
  have event : c.onWrite.next.1 = none := reliable.writes 0
  refine ⟨{ c with onWrite := c.onWrite.next.2, flags := c.flags.put key flag }, ?_,
    ⟨reliable.reads, fun i => ?_⟩, rfl⟩
  · unfold write
    dsimp only
    rw [event]
  · exact (c.onWrite.upcoming_next i).trans (reliable.writes (i + 1))

/-- What a lookup under a key is decided by: its own answer, or the flag under the key. -/
def settle (c : FlagCache) (key : String) : Except Fault Bool → Bool
  | .ok holds => holds
  | .error _ => (c.flags.get? key).getD false

end Service.FlagCache

def learned (key : String) : Except Fault Bool → Entries Bool
  | .ok holds => [(key, holds)]
  | .error _ => []

/-! ### Lookups -/

/-- The tags of a medium in the form in which they are compared, in order. -/
def Service.Content.mediaTags (k : Content) (media : String) :
    Except Fault (List String) × Content :=
  ((k.mediaHashtags media).1.map fun tags => Text.sortedUnique (tags.map Text.normalizeTag),
    (k.mediaHashtags media).2)

namespace Exec

theorem exists_outcome_lastKnown (env : Env) (subType key : String)
    (there : w.services.flags = some c) (reliable : c.Reliable) : ∃ evidence c' w',
      outcome (lastKnown subType key) env w = (.ok ((c.flags.get? key).getD false, evidence), w') ∧
        c'.Reliable ∧ c'.flags = c.flags ∧
        w'.services = { w.services with flags := some c' } := by
  obtain ⟨c', reads, reliable', same⟩ := reliable.exists_read key
  have cached : outcome (readFlag key) env w =
      (.ok (c.flags.get? key), w.placing .flags c') := by
    rw [readFlag_eq, outcome_calling_of_some (p := .flags) there, reads]
  unfold lastKnown
  rw [outcome_bind_ok (outcome_attempt _), cached]
  dsimp only
  rw [outcome_bind_ok (outcome_pure _)]
  cases c.flags.get? key with
  | some value =>
    obtain ⟨records, notes⟩ := exists_outcome_note subType .warn "Using last known value"
      [("value", .bool value)] env (w.placing .flags c')
    exact ⟨_, c', _, outcome_bind_ok notes _, reliable', same, rfl⟩
  | none =>
    obtain ⟨records, notes⟩ := exists_outcome_note subType .warn
      "No last known value - defaulting to false" [] env (w.placing .flags c')
    exact ⟨_, c', _, outcome_bind_ok notes _, reliable', same, rfl⟩

/-- A lookup with retries is a function of the platform, and changes no other collaborator. -/
theorem exists_outcome_asking (env : Env) (w : World) (ask : Content → Except Fault α × Content) :
    ∃ v, outcome (retrying (calling .content (.error (.unavailable Capability.content.name)) ask))
        env w = ((env.persist .content ask w.services.content).1, v) ∧
      v.services =
        { w.services with content := (env.persist .content ask w.services.content).2 } := by
  obtain ⟨clock, records, calls⟩ := exists_outcome_retrying env w .content .content ask
  refine ⟨_, calls, ?_⟩
  change (w.leaving .content (env.persist .content ask w.services.content).2).services = _
  unfold Env.persist
  cases env.settings <;> rcases found : w.services.content with - | k <;>
    simp only [World.leaving, World.placing, Place.content, ← found]

/-- A lookup asks the platform, and the cache when that fails. A successful one is remembered. -/
theorem exists_outcome_lookUp (env : Env) (subType key : String)
    (ask : Content → Except Fault α × Content) (flag : α → Bool)
    (there : w.services.flags = some c) (reliable : c.Reliable)
    {answer : Except Fault Bool} {content : Option Content}
    (answers : (env.persist .content ask w.services.content).1.map flag = answer)
    (leaves : (env.persist .content ask w.services.content).2 = content) :
    ∃ evidence found c' w', outcome (lookUp subType key
          (calling .content (.error (.unavailable Capability.content.name)) ask) flag) env w =
        (.ok (c.settle key answer, evidence, found), w') ∧
      c'.Reliable ∧ c'.flags = c.flags.merge (learned key answer) ∧
      w'.services = { w.services with content, flags := some c' } := by
  obtain ⟨v, calls, left⟩ := exists_outcome_asking env w ask
  rw [leaves] at left
  have kept : v.services.flags = some c := by rw [left]; exact there
  unfold lookUp
  rw [outcome_bind_ok (outcome_attempt _), calls]
  cases found : (env.persist .content ask w.services.content).1 with
  | error fault =>
    rw [found] at answers
    subst answers
    obtain ⟨u, noted, -, services⟩ :=
      exists_outcome_aside subType .warn "Lookup failed" (faultData fault) env v
    obtain ⟨evidence, c', w', knows, reliable', same, services'⟩ :=
      exists_outcome_lastKnown env subType key (services ▸ kept) reliable
    refine ⟨evidence, none, c', w', ?_, reliable', same, ?_⟩
    · dsimp only
      rw [outcome_bind_ok noted, outcome_bind_ok knows]
      rfl
    · rw [services', services, left]
  | ok found' =>
    rw [found] at answers
    subst answers
    obtain ⟨c', writes, reliable', same⟩ := reliable.exists_write key (flag found')
    have stored : outcome (writeFlag key (flag found')) env v = (.ok (), v.placing .flags c') := by
      rw [writeFlag_eq, outcome_calling_of_some (p := .flags) kept, writes]
    refine ⟨.live, some found', c', v.placing .flags c', ?_, reliable', same, ?_⟩
    · dsimp only
      rw [outcome_bind_ok (outcome_attempt _), stored]
      rfl
    · change { v.services with flags := some c' } = _
      rw [left]

end Exec

/-! ### Outcomes -/

/-- The node succeeds, and every item that it sends on, of which there is one, bears the outcome. -/
structure NodeResult.Decides (r : NodeResult) (holds : Bool) : Prop where
  succeeds : r.success = true
  reports : r.outcome = some (Exec.branchLabel holds)
  marks : ∀ item ∈ r.items, item.branch = some (Exec.branchLabel holds) ∧
    item.get? "conditionResult" = some (.bool holds)

namespace Exec

theorem decides_conditionItems (items : List Item) (time : Int) (holds : Bool)
    {data : Entries Value} (other : "conditionResult" ∉ data.names) (text : Option String)
    (logs : List Log.Entry) :
    (NodeResult.ok (conditionItems items time holds data) text logs).Decides holds := by
  have own : (Table.merge [("conditionResult", .bool holds)] data).get? "conditionResult" =
      some (Value.bool holds) := Table.get?_merge_of_not_mem _ other
  have only : ∀ e ∈ Table.merge [("conditionResult", .bool holds)] data,
      e.1 = "conditionResult" → e.2 = Value.bool holds := by
    intro e mem same
    rcases Table.mem_merge mem with first | given
    · exact congrArg Prod.snd (List.mem_singleton.mp first)
    · exact absurd (List.mem_map.mpr ⟨e, given, same⟩) other
  refine ⟨rfl, ?_, fun item mem => ?_⟩
  · cases items <;> rfl
  · obtain ⟨given, -, rfl⟩ := List.mem_map.mp mem
    refine ⟨rfl, ?_⟩
    unfold Item.get?
    rw [Item.data_evolve]
    exact Table.get?_merge_eq_some _ (Table.mem_of_get? own) only

theorem exists_outcome_conclude (env : Env) (w : World) (subType : String) (level : Log.Level)
    (said : String) (notes : Entries Value) (items : List Item) (holds : Bool)
    (data : Entries Value) (other : "conditionResult" ∉ data.names) (text : String) :
    ∃ r w', outcome (do
        note subType level said notes
        succeed (conditionItems items (← now) holds data) text) env w = (.ok (.result r), w') ∧
      r.Decides holds ∧ w'.services = w.services := by
  obtain ⟨records, noted⟩ := exists_outcome_note subType level said notes env w
  exact ⟨_, _, outcome_bind_ok noted _, decides_conditionItems items _ holds other _ _, rfl⟩

end Exec

/-! ### Questions -/

inductive Question where
  | follows (page sender : String)
  | tagged (media : String) (matchAll : Bool) (wanted : List String)
deriving Repr, DecidableEq

namespace Question

def key : Question → String
  | follows page sender => followerKey page sender
  | tagged media matchAll wanted => tagKey media matchAll wanted

/-- The answer of the platform after retries, and what is left of it. -/
def look (q : Question) (env : Env) (content : Option Content) :
    Except Fault Bool × Option Content :=
  match q with
  | follows _ sender => env.persist .content (·.isFollower sender) content
  | tagged media matchAll wanted =>
    let (found, left) := env.persist .content (·.mediaTags media) content
    (found.map (tagsMatch wanted · matchAll), left)

end Question

inductive Condition where
  | follower
  | tag

def Condition.executor : Condition → Executor
  | follower => isFollower
  | tag => hasTag

structure Inquiry extends Occasion where
  condition : Condition

namespace Inquiry

def tagsInText (i : Inquiry) : List String := Text.tagsOf (i.env.context.messageText.getD "")

/-- What the platform is asked, if it is. With tags in the text of the message and without a medium
it is not asked about tags, and neither are settings that cannot be read. -/
def question? (i : Inquiry) : Option Question :=
  match i.condition with
  | .follower => some (.follows i.env.context.pageId i.env.context.senderId)
  | .tag =>
    match HasTagConfig.read? (Executor.settingsOf i.config) with
    | .error _ => none
    | .ok parsed =>
      let media := i.env.context.mediaId.getD ""
      if i.tagsInText.isEmpty && !media.isEmpty then
        some (.tagged media parsed.matchAll parsed.wanted)
      else none

/-- What is decided without the platform. -/
def decided (i : Inquiry) : Bool :=
  match HasTagConfig.read? (Executor.settingsOf i.config) with
  | .error _ => false
  | .ok parsed => tagsMatch parsed.wanted i.tagsInText parsed.matchAll

def outcome (i : Inquiry) (c : FlagCache) : Except Fault Reply × World :=
  i.toOccasion.outcome i.condition.executor .flags c

def answer (i : Inquiry) (q : Question) : Except Fault Bool :=
  (q.look i.env i.world.services.content).1

def platformAfter (i : Inquiry) (q : Question) : Option Content :=
  (q.look i.env i.world.services.content).2

/-- What is remembered of an inquiry. -/
def lessons (i : Inquiry) : Entries Bool :=
  match i.question? with
  | some q => learned q.key (i.answer q)
  | none => []

variable {i : Inquiry} {q : Question} {o : Occasion}

/-- The inquiry is decided by the answer of the platform or by the cache. It leaves the answer in
the cache, if there is one, and all other collaborators but the platform as they are. -/
structure Settled (i : Inquiry) (q : Question) (c : FlagCache) : Prop where
  ends : ∃ r, (i.outcome c).1 = .ok (.result r) ∧ r.Decides (c.settle q.key (i.answer q))
  leaves : ∃ c' : FlagCache, c'.Reliable ∧ c'.flags = c.flags.merge (learned q.key (i.answer q)) ∧
    (i.outcome c).2.services =
      { i.world.services with content := i.platformAfter q, flags := some c' }

theorem settled_follower (reliable : c.Reliable) :
    Settled ⟨o, .follower⟩ (.follows o.env.context.pageId o.env.context.senderId) c := by
  obtain ⟨v, noted, -, services⟩ := Exec.exists_outcome_aside "IS_FOLLOWER" .info
    "Checking if user is follower" [("senderId", .str o.env.context.senderId)] o.env
    { o.world.placing .flags c with journal := [] }
  have there : v.services.flags = some c := by rw [services]; rfl
  have platform : v.services.content = o.world.services.content := by rw [services]; rfl
  obtain ⟨evidence, found, c', u, looks, reliable', same, left⟩ :=
    Exec.exists_outcome_lookUp o.env "IS_FOLLOWER"
      (followerKey o.env.context.pageId o.env.context.senderId)
      (·.isFollower o.env.context.senderId) id there reliable rfl rfl
  rw [platform, Except.map_id] at looks same
  rw [platform] at left
  obtain ⟨r, w', concludes, decides, kept⟩ := Exec.exists_outcome_conclude o.env u "IS_FOLLOWER"
    .info _ _ o.items _ [("conditionType", .str "IS_FOLLOWER")] (by simp [Table.names]) _
  have whole : Inquiry.outcome ⟨o, .follower⟩ c = (.ok (.result r), w') := by
    unfold Inquiry.outcome Occasion.outcome Condition.executor isFollower
    dsimp only
    rw [Exec.outcome_bind_ok Exec.outcome_openJournal, Exec.outcome_bind_ok Exec.outcome_context,
      Exec.outcome_bind_ok noted, Exec.isFollower_eq, Exec.outcome_bind_ok looks]
    exact concludes
  refine ⟨⟨r, congrArg Prod.fst whole, decides⟩, c', reliable', same, ?_⟩
  rw [whole, kept, left, services]
  rfl

theorem settled_tag {parsed : HasTagConfig}
    (reads : HasTagConfig.read? (Executor.settingsOf o.config) = .ok parsed)
    (untold : ((Text.tagsOf (o.env.context.messageText.getD "")).isEmpty &&
      !(o.env.context.mediaId.getD "").isEmpty) = true) (reliable : c.Reliable) :
    Settled ⟨o, .tag⟩
      (.tagged (o.env.context.mediaId.getD "") parsed.matchAll parsed.wanted) c := by
  obtain ⟨v, noted, -, services⟩ := Exec.exists_outcome_aside "HAS_TAG" .debug
    "Checking for tags" [("tags", .texts parsed.wanted), ("matchAll", .bool parsed.matchAll)]
    o.env { o.world.placing .flags c with journal := [] }
  have there : v.services.flags = some c := by rw [services]; rfl
  have platform : v.services.content = o.world.services.content := by rw [services]; rfl
  obtain ⟨evidence, found, c', u, looks, reliable', same, left⟩ :=
    Exec.exists_outcome_lookUp o.env "HAS_TAG"
      (tagKey (o.env.context.mediaId.getD "") parsed.matchAll parsed.wanted)
      (·.mediaTags (o.env.context.mediaId.getD "")) (tagsMatch parsed.wanted · parsed.matchAll)
      there reliable rfl rfl
  rw [platform] at looks same left
  obtain ⟨r, w', concludes, decides, kept⟩ := Exec.exists_outcome_conclude o.env u "HAS_TAG"
    .info _ _ o.items _ [("conditionType", .str "HAS_TAG"),
      ("foundTags", .texts (found.getD [])),
      ("matchedTags", .texts (parsed.wanted.filter (found.getD []).contains))]
    (by simp [Table.names]) _
  have whole : Inquiry.outcome ⟨o, .tag⟩ c = (.ok (.result r), w') := by
    unfold Inquiry.outcome Occasion.outcome Condition.executor hasTag
    dsimp only
    rw [Exec.outcome_bind_ok Exec.outcome_openJournal, reads]
    dsimp only
    rw [Exec.outcome_bind_ok Exec.outcome_context, Exec.outcome_bind_ok noted, if_pos untold,
      ← bind_pure_comp, bind_assoc, Exec.mediaTags_eq]
    exact (Exec.outcome_bind_ok looks _).trans concludes
  refine ⟨⟨r, congrArg Prod.fst whole, decides⟩, c', reliable', same, ?_⟩
  rw [whole, kept, left, services]
  rfl

theorem settled_of_asks (asks : i.question? = some q) (reliable : c.Reliable) :
    i.Settled q c := by
  obtain ⟨o, condition⟩ := i
  cases condition with
  | follower =>
    obtain rfl := Option.some.inj asks
    exact settled_follower reliable
  | tag =>
    simp only [question?] at asks
    split at asks
    · cases asks
    rename_i parsed reads
    split_ifs at asks with untold
    obtain rfl := Option.some.inj asks
    exact settled_tag reads untold reliable

/-- The inquiry is decided by the text of the message, and calls no collaborator. -/
structure Silent (i : Inquiry) (c : FlagCache) : Prop where
  ends : ∃ r, (i.outcome c).1 = .ok (.result r) ∧ r.Decides i.decided
  leaves : (i.outcome c).2.services = { i.world.services with flags := some c }

theorem silent_of_invalid {invalid : Schema.Invalid}
    (unread : HasTagConfig.read? (Executor.settingsOf o.config) = .error invalid) :
    Silent ⟨o, .tag⟩ c := by
  obtain ⟨r, w', concludes, decides, kept⟩ := Exec.exists_outcome_conclude o.env
    { o.world.placing .flags c with journal := [] } "HAS_TAG" .error
    "Invalid tag configuration" [("detail", .str invalid.firstLine)] o.items false
    [("conditionType", .str "HAS_TAG")] (by simp [Table.names])
    "Invalid tag configuration - defaulting to false"
  have whole : Inquiry.outcome ⟨o, .tag⟩ c = (.ok (.result r), w') := by
    unfold Inquiry.outcome Occasion.outcome Condition.executor hasTag
    dsimp only
    rw [Exec.outcome_bind_ok Exec.outcome_openJournal, unread]
    exact concludes
  have defaults : Inquiry.decided ⟨o, .tag⟩ = false := by rw [decided, unread]
  refine ⟨⟨r, congrArg Prod.fst whole, defaults ▸ decides⟩, ?_⟩
  rw [whole, kept]
  rfl

theorem silent_of_told {parsed : HasTagConfig}
    (reads : HasTagConfig.read? (Executor.settingsOf o.config) = .ok parsed)
    (told : ¬((Text.tagsOf (o.env.context.messageText.getD "")).isEmpty &&
      !(o.env.context.mediaId.getD "").isEmpty) = true) : Silent ⟨o, .tag⟩ c := by
  obtain ⟨v, noted, -, services⟩ := Exec.exists_outcome_aside "HAS_TAG" .debug
    "Checking for tags" [("tags", .texts parsed.wanted), ("matchAll", .bool parsed.matchAll)]
    o.env { o.world.placing .flags c with journal := [] }
  let inText := Text.tagsOf (o.env.context.messageText.getD "")
  obtain ⟨r, w', concludes, decides, kept⟩ := Exec.exists_outcome_conclude o.env v "HAS_TAG"
    .info _ _ o.items (tagsMatch parsed.wanted inText parsed.matchAll)
    [("conditionType", .str "HAS_TAG"), ("foundTags", .texts inText),
      ("matchedTags", .texts (parsed.wanted.filter inText.contains))] (by simp [Table.names]) _
  have whole : Inquiry.outcome ⟨o, .tag⟩ c = (.ok (.result r), w') := by
    unfold Inquiry.outcome Occasion.outcome Condition.executor hasTag
    dsimp only
    rw [Exec.outcome_bind_ok Exec.outcome_openJournal, reads]
    dsimp only
    rw [Exec.outcome_bind_ok Exec.outcome_context, Exec.outcome_bind_ok noted, if_neg told,
      Exec.outcome_bind_ok (Exec.outcome_pure _)]
    exact concludes
  have text : Inquiry.decided ⟨o, .tag⟩ = tagsMatch parsed.wanted inText parsed.matchAll := by
    rw [decided, reads]
    rfl
  refine ⟨⟨r, congrArg Prod.fst whole, text ▸ decides⟩, ?_⟩
  rw [whole, kept, services]
  rfl

theorem silent_of_asks_not (asks : i.question? = none) : i.Silent c := by
  obtain ⟨o, condition⟩ := i
  cases condition with
  | follower => cases asks
  | tag =>
    simp only [question?] at asks
    split at asks
    · rename_i unread
      exact silent_of_invalid unread
    · rename_i reads
      split_ifs at asks with untold
      exact silent_of_told reads untold

end Inquiry

/-! ### Inquiries one after the other -/

def cacheAfter (c : FlagCache) (past : List Inquiry) : FlagCache :=
  past.foldl (fun c i => i.toOccasion.leave i.condition.executor .flags c) c

/-- The answer of the last successful lookup under a key. -/
def lastAnswer? (past : List Inquiry) (key : String) : Option Bool :=
  Table.get? (past.flatMap Inquiry.lessons).reverse key

/-- An inquiry leaves what is remembered of it. -/
theorem Inquiry.flags_leave (i : Inquiry) (reliable : c.Reliable) :
    (i.toOccasion.leave i.condition.executor .flags c).Reliable ∧
      (i.toOccasion.leave i.condition.executor .flags c).flags = c.flags.merge i.lessons := by
  have leave : i.toOccasion.leave i.condition.executor .flags c =
    ((i.outcome c).2.services.flags).getD c := rfl
  unfold lessons
  rw [leave]
  cases asks : i.question? with
  | none =>
    rw [(silent_of_asks_not asks).leaves]
    exact ⟨reliable, rfl⟩
  | some q =>
    obtain ⟨c', reliable', same, left⟩ := (settled_of_asks asks reliable).leaves
    rw [left]
    exact ⟨reliable', same⟩

/-- The cache holds the flags that it held at first and, put over them in order, what is remembered
of the inquiries. By induction on these. -/
theorem flags_cacheAfter (reliable : c.Reliable) (past : List Inquiry) :
    (cacheAfter c past).Reliable ∧
      (cacheAfter c past).flags = c.flags.merge (past.flatMap Inquiry.lessons) := by
  unfold cacheAfter
  induction past generalizing c with
  | nil => exact ⟨reliable, rfl⟩
  | cons i past ih =>
    obtain ⟨reliable', same⟩ := i.flags_leave reliable
    obtain ⟨after, flags⟩ := ih reliable'
    refine ⟨after, flags.trans ?_⟩
    rw [same, List.flatMap_cons]
    exact (List.foldl_append ..).symm

theorem get?_cacheAfter (reliable : c.Reliable) (past : List Inquiry) (key : String) :
    (cacheAfter c past).flags.get? key = (lastAnswer? past key).or (c.flags.get? key) := by
  rw [(flags_cacheAfter reliable past).2, Table.get?_merge]
  rfl

/-- Conditions that share a cache which does not fail always succeed. When the platform answers, the
answer is the outcome and is put under the key of the question. When it does not, the outcome is the
answer of the last successful lookup under that key, or the flag that the cache held at first, or
no, and the flags stay as they are. Without a question nothing is looked up and the cache is not
touched. -/
theorem decides_by_last_answer (reliable : c.Reliable) (past : List Inquiry) (i : Inquiry) :
    ∃ r c', (i.outcome (cacheAfter c past)).1 = .ok (.result r) ∧ r.success = true ∧
      (i.outcome (cacheAfter c past)).2.services.flags = some c' ∧
      match i.question? with
      | none =>
        r.Decides i.decided ∧ (i.outcome (cacheAfter c past)).2.services =
          { i.world.services with flags := some (cacheAfter c past) }
      | some q =>
        match i.answer q with
        | .ok holds => r.Decides holds ∧ c'.flags = (cacheAfter c past).flags.put q.key holds
        | .error _ =>
          r.Decides (((lastAnswer? past q.key).or (c.flags.get? q.key)).getD false) ∧
            c'.flags = (cacheAfter c past).flags := by
  obtain ⟨reliable', -⟩ := flags_cacheAfter reliable past
  cases asks : i.question? with
  | none =>
    obtain ⟨⟨r, ends, decides⟩, leaves⟩ := Inquiry.silent_of_asks_not asks (c := cacheAfter c past)
    exact ⟨r, cacheAfter c past, ends, decides.succeeds, by rw [leaves], decides, leaves⟩
  | some q =>
    obtain ⟨⟨r, ends, decides⟩, c', -, same, leaves⟩ := Inquiry.settled_of_asks asks reliable'
    refine ⟨r, c', ends, decides.succeeds, by rw [leaves], ?_⟩
    dsimp only
    cases answer : i.answer q with
    | ok holds =>
      rw [answer] at decides same
      exact ⟨decides, same⟩
    | error fault =>
      rw [answer] at decides same
      rw [← get?_cacheAfter reliable past]
      exact ⟨decides, same⟩

def followerInquiry (platform : Content) : Inquiry where
  env := { Env.standard "run" with
    context := { Context.blank "run" with pageId := "page", senderId := "fan" } }
  world := { World.bare with services := { Bundle.none with content := some platform } }
  config := .obj []
  items := []
  condition := .follower

/-- In an outage a sender still counts as a follower who was one before it. -/
theorem decides_true_in_outage :
    (FlagCache.ofEntries []).Reliable ∧
      ∃ r, ((followerInquiry { Content.ofFollowers [] with
          outage := some (.outage .timeout "Read timed out") }).outcome
        (cacheAfter (.ofEntries []) [followerInquiry (.ofFollowers ["fan"])])).1 =
          .ok (.result r) ∧ r.Decides true := by
  refine ⟨FlagCache.reliable_ofEntries [], ?_⟩
  obtain ⟨r, c', ends, -, -, decides⟩ := decides_by_last_answer (FlagCache.reliable_ofEntries [])
    [followerInquiry (.ofFollowers ["fan"])] (followerInquiry { Content.ofFollowers [] with
      outage := some (.outage .timeout "Read timed out") })
  have known : ((lastAnswer? [followerInquiry (.ofFollowers ["fan"])] (followerKey "page" "fan")).or
      ((FlagCache.ofEntries []).flags.get? (followerKey "page" "fan"))).getD false = true := by
    decide
  refine ⟨r, ends, ?_⟩
  rw [← known]
  exact decides.1

end Chatflow
