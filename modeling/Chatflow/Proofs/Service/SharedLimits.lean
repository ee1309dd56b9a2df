import Chatflow.Proofs.Service.Database
import Chatflow.Proofs.Service.Limits

/-!
# Limits shared by workers

Workers that count their calls in one database get the answers that a single limiter would give to
all of them (`shared_limit_agrees`). The two keep different things: a limiter stops to count when
its limit is reached and keeps a window that is over until the next call, while the database counts
refused calls as well and drops the counter of a window when it is over.
-/

namespace Chatflow.Service

variable {σ τ : Type}

structure Counter (τ : Type) where
  value : Int
  deadline : Option τ
deriving DecidableEq

namespace Database

/-- The answers to calls of clients that share a limit. -/
def answers (db : Database σ τ) (limit window : Int) (subject capability : String) :
    List (Arrival τ) → Site σ → List (Except Fault Bool)
  | [], _ => []
  | a :: rest, site =>
    let (answer, site) :=
      ((db.client a.time a.client).acquire limit window subject capability).run.run site
    answer :: db.answers limit window subject capability rest site

/-- The answer of a client follows the count of its calls. -/
theorem exists_run_acquire (db : Database σ τ) (limit window : Int) (subject capability : String)
    (a : Arrival τ) (site : Site σ) {count : Int} {data : σ}
    (counts : db.execute a.time (.increment (KeyStore.rateKey subject capability)) site.data =
      (.int count, data)) :
    ∃ after : Site σ,
      ((db.client a.time a.client).acquire limit window subject capability).run.run site =
        (.ok (decide (count ≤ limit)), after) ∧
      after.data =
        (db.execute a.time (.expire (KeyStore.rateKey subject capability) window) data).2 := by
  let key := KeyStore.rateKey subject capability
  let expired := db.execute a.time (.expire key window) data
  have reply : db.answer a.time (.together [.increment key, .expire key window]) site.data =
      (.list [.int count, expired.1], expired.2) := by
    simp [answer, executeAll, counts, key, expired]
  have asks : ((db.client a.time a.client).ask
      (.together [.increment key, .expire key window])).run.run site =
        (.ok (.list [.int count, expired.1]), { site with data := expired.2 }) := by
    rw [run_ask, reply]
  have read : (KeyStore.firstOfTwo? (.list [.int count, expired.1]) >>= KeyStore.integerOf?) =
      .ok count := rfl
  by_cases within : count ≤ limit
  · refine ⟨{ site with data := expired.2 }, ?_, rfl⟩
    rw [KeyStore.acquire, Connection.run_bind_of_run asks]
    simp only [read, if_pos within, decide_eq_true within]
    rfl
  · refine ⟨{ site with data := expired.2 }.logged a.client "Rate limit reached"
      [("subject", .str subject), ("capability", .str capability), ("count", .int count)], ?_, rfl⟩
    rw [KeyStore.acquire, Connection.run_bind_of_run asks]
    simp only [read, if_neg within, decide_eq_false within]
    rw [Connection.run_bind_of_run (run_tell ..)]
    rfl

end Database

/-! ### Counters -/

section

variable [LinearOrder τ]

/-- A counter is there up to its deadline, and not at it. -/
def Counter.lasts (c : Counter τ) (now : τ) : Bool := c.deadline.all (now < ·)

/-- How a database counts, where the counter under a key can be seen at each time. A key that is new
counts from one and does not expire. An expiry begins when it is set, which happens only where there
is none. While no command is executed a counter goes exactly when its deadline is reached. -/
structure Database.Counts [Add τ] [IntCast τ] (db : Database σ τ)
    (counter : σ → τ → String → Option (Counter τ)) : Prop where
  wait : ∀ data key earlier later, earlier ≤ later →
    counter data later key = (counter data earlier key).filter (·.lasts later)
  incrementNew : ∀ data now key, counter data now key = none →
    (db.execute now (.increment key) data).1 = .int 1 ∧
    counter (db.execute now (.increment key) data).2 now key = some ⟨1, none⟩
  increment : ∀ data now key c, counter data now key = some c →
    (db.execute now (.increment key) data).1 = .int (c.value + 1) ∧
    counter (db.execute now (.increment key) data).2 now key =
      some { c with value := c.value + 1 }
  expireNew : ∀ data now key seconds c, 0 < seconds → counter data now key = some c →
    c.deadline = none →
    counter (db.execute now (.expire key seconds) data).2 now key =
      some { c with deadline := some (now + (seconds : τ)) }
  expireAgain : ∀ data now key seconds c deadline, counter data now key = some c →
    c.deadline = some deadline →
    counter (db.execute now (.expire key seconds) data).2 now key = some c

end

/-! ### Agreement -/

variable [CommRing τ]

/-- A window that a limiter keeps, and the counter for the same calls when the last of them was
made. The limiter stops to count at its limit. -/
def Agree (limit : Int) (length : τ) : Option (Window τ) → Option (Counter τ) → Prop
  | none, counter => counter = none
  | some w, counter => ∃ c : Counter τ, counter = some c ∧ c.deadline = some (w.opened + length) ∧
      1 ≤ c.value ∧ (w.passed : Int) = min c.value (max limit 0)

theorem Agree.isSome_deadline {limit : Int} {length : τ} {window : Option (Window τ)}
    {counter : Option (Counter τ)} (agree : Agree limit length window counter) :
    ∀ c ∈ counter, c.deadline.isSome = true := by
  intro c present
  cases window with
  | none =>
    obtain rfl : counter = none := agree
    cases present
  | some w =>
    obtain ⟨own, rfl, deadline, -⟩ := agree
    obtain rfl : own = c := Option.mem_some_iff.mp present
    rw [deadline]
    rfl

def countedAt (length : τ) (counter : Option (Counter τ)) (now : τ) : Counter τ :=
  match counter with
  | none => ⟨1, some (now + length)⟩
  | some c => { c with value := c.value + 1 }

variable [LinearOrder τ]

theorem Database.Counts.after_acquire {db : Database σ τ}
    {counter : σ → τ → String → Option (Counter τ)} (counts : db.Counts counter)
    {limit window : Int}
    (positive : 0 < window) (subject capability : String) (a : Arrival τ) (site : Site σ)
    (expires : ∀ c ∈ counter site.data a.time (KeyStore.rateKey subject capability),
      c.deadline.isSome = true) :
    let key := KeyStore.rateKey subject capability
    let counted := countedAt (window : τ) (counter site.data a.time key) a.time
    ∃ after : Site σ,
      ((db.client a.time a.client).acquire limit window subject capability).run.run site =
        (.ok (decide (counted.value ≤ limit)), after) ∧
      counter after.data a.time key = some counted := by
  intro key
  cases present : counter site.data a.time key with
  | none =>
    obtain ⟨reply, added⟩ := counts.incrementNew _ _ _ present
    obtain ⟨after, answer, data⟩ := db.exists_run_acquire limit window subject capability a site
      (Prod.ext reply rfl)
    refine ⟨after, answer, ?_⟩
    rw [data]
    exact counts.expireNew _ _ _ _ _ positive added rfl
  | some c =>
    obtain ⟨deadline, limited⟩ := Option.isSome_iff_exists.mp (expires c present)
    obtain ⟨reply, added⟩ := counts.increment _ _ _ _ present
    obtain ⟨after, answer, data⟩ := db.exists_run_acquire limit window subject capability a site
      (Prod.ext reply rfl)
    refine ⟨after, answer, ?_⟩
    rw [data]
    exact counts.expireAgain _ _ _ _ _ deadline added limited

variable [IsStrictOrderedRing τ]

section

variable {limit : Int} {length : τ} {window : Option (Window τ)} {counter : Option (Counter τ)}

/-- A counter lasts as long as the window is open. -/
theorem Agree.openWindow (agree : Agree limit length window counter) (now : τ) :
    let w := (⟨limit, length⟩ : RateLimit τ).openWindow window now
    let counted := countedAt length (counter.filter (·.lasts now)) now
    counted.deadline = some (w.opened + length) ∧ 1 ≤ counted.value ∧
      (w.passed : Int) = min (counted.value - 1) (max limit 0) := by
  have new : ((0 : Nat) : Int) = min (1 - 1) (max limit 0) := by omega
  cases window with
  | none =>
    obtain rfl : counter = none := agree
    exact ⟨rfl, le_rfl, new⟩
  | some w =>
    obtain ⟨c, rfl, deadline, atLeast, passed⟩ := agree
    by_cases past : length ≤ now - w.opened
    · have gone : c.lasts now = false := by
        simp only [Counter.lasts, deadline, Option.all_some, decide_eq_false_iff_not]
        linarith
      simp only [RateLimit.openWindow, if_pos past, Option.filter_some, gone]
      exact ⟨rfl, le_rfl, new⟩
    · have lasts : c.lasts now = true := by
        simp only [Counter.lasts, deadline, Option.all_some, decide_eq_true_eq]
        linarith
      simp only [RateLimit.openWindow, if_neg past, Option.filter_some, lasts]
      refine ⟨deadline, ?_, ?_⟩
      · show 1 ≤ c.value + 1
        omega
      · show (w.passed : Int) = min (c.value + 1 - 1) (max limit 0)
        omega

/-- Both let the same calls pass. -/
theorem Agree.acquire (agree : Agree limit length window counter) (now : τ) :
    let counted := countedAt length (counter.filter (·.lasts now)) now
    ((⟨limit, length⟩ : RateLimit τ).acquire window now).1 = decide (counted.value ≤ limit) ∧
    Agree limit length (some ((⟨limit, length⟩ : RateLimit τ).acquire window now).2)
      (some counted) := by
  intro counted
  let w := (⟨limit, length⟩ : RateLimit τ).openWindow window now
  obtain ⟨deadline, atLeast, passed⟩ : counted.deadline = some (w.opened + length) ∧
    1 ≤ counted.value ∧ (w.passed : Int) = min (counted.value - 1) (max limit 0) :=
    agree.openWindow now
  -- Below the limit the counts are the same but for the call at hand, and above it only the
  -- database goes on to count.
  by_cases full : limit ≤ (w.passed : Int)
  · have refused : (⟨limit, length⟩ : RateLimit τ).acquire window now = (false, w) := if_pos full
    rw [refused]
    refine ⟨?_, counted, rfl, deadline, atLeast, ?_⟩
    · refine (decide_eq_false ?_).symm
      omega
    · show (w.passed : Int) = min counted.value (max limit 0)
      omega
  · have allowed : (⟨limit, length⟩ : RateLimit τ).acquire window now =
        (true, { w with passed := w.passed + 1 }) := if_neg full
    rw [allowed]
    refine ⟨?_, counted, rfl, deadline, atLeast, ?_⟩
    · refine (decide_eq_true ?_).symm
      omega
    · show ((w.passed + 1 : Nat) : Int) = min counted.value (max limit 0)
      omega

end

/-- From where they agree, clients of the database get the answers that the limiter gives. -/
theorem answers_eq_map {db : Database σ τ} {counter : σ → τ → String → Option (Counter τ)}
    (counts : db.Counts counter) (limit : Int) {window : Int} (positive : 0 < window)
    (subject capability : String) {latest : τ} {arrivals : List (Arrival τ)}
    (ordered : (latest :: arrivals.map Arrival.time).Pairwise (· ≤ ·)) {kept : Option (Window τ)}
    {site : Site σ} (agree : Agree limit (window : τ) kept
      (counter site.data latest (KeyStore.rateKey subject capability))) :
    db.answers limit window subject capability arrivals site =
      ((⟨limit, (window : τ)⟩ : RateLimit τ).answers kept (arrivals.map Arrival.time)).map .ok := by
  induction arrivals generalizing latest kept site with
  | nil => rfl
  | cons a rest ih =>
    obtain ⟨late, ordered⟩ := List.pairwise_cons.mp ordered
    have waited := counts.wait site.data (KeyStore.rateKey subject capability) latest a.time
      (late a.time List.mem_cons_self)
    have expires : ∀ c ∈ counter site.data a.time (KeyStore.rateKey subject capability),
        c.deadline.isSome = true := by
      intro c present
      rw [waited] at present
      exact agree.isSome_deadline c (Option.mem_filter_iff.mp present).1
    obtain ⟨passes, agrees⟩ := agree.acquire a.time
    rw [← waited] at passes agrees
    obtain ⟨after, answer, counted⟩ :=
      counts.after_acquire positive subject capability a site expires
    rw [← counted] at agrees
    rw [Database.answers, answer]
    dsimp only
    rw [ih ordered agrees, List.map_cons, RateLimit.answers, List.map_cons, passes]

/-- The answers to calls of a subject do not depend on whether clients of one database count them
or a single limiter does, when the key of the calls is not in the database at first. -/
theorem shared_limit_agrees {db : Database σ τ} {counter : σ → τ → String → Option (Counter τ)}
    (counts : db.Counts counter) (limit : Int) {window : Int} (positive : 1 ≤ window)
    (subject capability : String) (site : Site σ) {start : τ} {arrivals : List (Arrival τ)}
    (ordered : (start :: arrivals.map Arrival.time).Pairwise (· ≤ ·))
    (new : counter site.data start (KeyStore.rateKey subject capability) = none) :
    ∃ passed : List Bool,
      db.answers limit window subject capability arrivals site = passed.map .ok ∧
      (RateLimiter.ofRate ⟨limit, (window : τ)⟩).answers
        (arrivals.map fun a => ⟨subject, capability, a.time⟩) = passed.map .ok := by
  have agree : Agree limit (window : τ) none
      (counter site.data start (KeyStore.rateKey subject capability)) := new
  refine ⟨_, answers_eq_map counts limit positive subject capability ordered agree, ?_⟩
  have alone := RateLimiter.answers_of_key
    (RateLimiter.undisturbed_ofRate (⟨limit, (window : τ)⟩ : RateLimit τ)) (subject, capability)
    (arrivals.map fun a => ⟨subject, capability, a.time⟩) (by simp [LimitedCall.key])
  rw [List.map_map, Function.comp_def] at alone
  exact alone

/-! ### A database of counters -/

namespace CounterTable

section

variable {τ : Type} [LinearOrder τ]

def visible (data : Table String (Counter τ)) (now : τ) (key : String) : Option (Counter τ) :=
  (data.get? key).filter (·.lasts now)

theorem visible_put (data : Table String (Counter τ)) (now : τ) (key : String) {c : Counter τ}
    (lasts : c.lasts now = true) : visible (data.put key c) now key = some c := by
  rw [visible, Table.get?_put_self, Option.filter_some, if_pos lasts]

theorem lasts_of_visible {data : Table String (Counter τ)} {now : τ} {key : String} {c : Counter τ}
    (present : visible data now key = some c) : c.lasts now = true :=
  (Option.filter_eq_some_iff.mp present).2

theorem lasts_of_le {c : Counter τ} {earlier later : τ} (le : earlier ≤ later)
    (lasts : c.lasts later = true) : c.lasts earlier = true := by
  obtain ⟨value, deadline⟩ := c
  cases deadline with
  | none => rfl
  | some deadline =>
    have ahead : later < deadline := by simpa [Counter.lasts] using lasts
    simpa [Counter.lasts] using le.trans_lt ahead

theorem visible_filter (data : Table String (Counter τ)) (key : String) {earlier later : τ}
    (le : earlier ≤ later) :
    visible data later key = (visible data earlier key).filter (·.lasts later) := by
  unfold visible
  cases data.get? key with
  | none => rfl
  | some c =>
    by_cases lasts : c.lasts later = true
    · simp [Option.filter_some, lasts, lasts_of_le le lasts]
    · by_cases before : c.lasts earlier = true
      · simp [Option.filter_some, lasts, before]
      · simp [Option.filter_some, lasts, before]

end

def increment (now : τ) (key : String) (data : Table String (Counter τ)) :
    Value × Table String (Counter τ) :=
  match visible data now key with
  | none => (.int 1, data.put key ⟨1, none⟩)
  | some c => (.int (c.value + 1), data.put key { c with value := c.value + 1 })

def expire (now : τ) (key : String) (seconds : Int) (data : Table String (Counter τ)) :
    Value × Table String (Counter τ) :=
  match visible data now key with
  | none => (.bool false, data)
  | some c =>
    match c.deadline with
    | some _ => (.bool false, data)
    | none =>
      if seconds ≤ 0 then (.bool true, data.erase key)
      else (.bool true, data.put key { c with deadline := some (now + (seconds : τ)) })

def database : Database (Table String (Counter τ)) τ where
  execute
    | now, .increment key => increment now key
    | now, .expire key seconds => expire now key seconds
    | _, _ => fun data => (.null, data)

theorem counts : (database : Database _ τ).Counts visible where
  wait data key _ _ le := visible_filter data key le
  incrementNew data now key absent := by
    simp only [database, increment, absent]
    exact ⟨trivial, visible_put data now key rfl⟩
  increment data now key c present := by
    simp only [database, increment, present]
    have lasts := lasts_of_visible present
    exact ⟨trivial, visible_put data now key lasts⟩
  expireNew data now key seconds c positive present unlimited := by
    simp only [database, expire, present, unlimited, if_neg (Int.not_le.mpr positive)]
    refine visible_put data now key ?_
    simpa [Counter.lasts] using positive
  expireAgain data now key seconds c deadline present limited := by
    simp only [database, expire, present, limited]

end CounterTable

def turns : List (Arrival ℤ) := [⟨0, 0⟩, ⟨1, 1⟩, ⟨1, 2⟩]

theorem shared_limit_agrees_in_turns :
    (CounterTable.database : Database _ ℤ).Counts CounterTable.visible ∧ (1 : Int) ≤ 2 ∧
    (0 :: turns.map Arrival.time).Pairwise (· ≤ ·) ∧
    CounterTable.visible [] (0 : ℤ) (KeyStore.rateKey "ana" "ai") = none ∧
    ∃ passed : List Bool, passed = [true, false, true] ∧
      CounterTable.database.answers 1 2 "ana" "ai" turns ⟨[], fun _ => []⟩ = passed.map .ok ∧
      (RateLimiter.ofRate ⟨1, ((2 : Int) : ℤ)⟩).answers
        (turns.map fun a => ⟨"ana", "ai", a.time⟩) = passed.map .ok := by
  have positive : (1 : Int) ≤ 2 := by decide
  have ordered : (0 :: turns.map Arrival.time).Pairwise (· ≤ ·) := by decide
  have new : CounterTable.visible [] (0 : ℤ) (KeyStore.rateKey "ana" "ai") = none := rfl
  have counts : (CounterTable.database : Database _ ℤ).Counts CounterTable.visible :=
    CounterTable.counts
  obtain ⟨passed, shared, single⟩ :=
    shared_limit_agrees counts 1 positive "ana" "ai" ⟨[], fun _ => []⟩ ordered new
  have found : (RateLimiter.ofRate ⟨1, ((2 : Int) : ℤ)⟩).answers
      (turns.map fun a => ⟨"ana", "ai", a.time⟩) = [true, false, true].map .ok := by rfl
  refine ⟨counts, positive, ordered, new, passed, ?_, shared, single⟩
  exact eq_of_map_ok (single.symm.trans found)

end Chatflow.Service
