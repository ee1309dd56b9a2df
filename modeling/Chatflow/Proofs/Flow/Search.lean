import Chatflow.Proofs.Flow.Path
import Mathlib.Data.List.Perm.Subperm

/-!
# Cycles and the depth-first search

The search finishes its nodes in an order in which every arc but those that lead back goes down.
Hence an arc that leads back closes a cycle (`closes_of_mem_backArcs`), and without the arcs that
lead back nothing that can be reached lies on a cycle (`exists_rank_forwardArcs`).
-/

namespace Chatflow

namespace Graph

variable {g : Graph}

def OnCycle (g : Graph) (id : String) : Prop := Relation.TransGen g.Leads id id

/-- Finished nodes, the last one first: an arc that leaves one of them is among those that lead
back, or its target was finished before. -/
def Descends (g : Graph) (back : List Arc) : List String → Prop
  | [] => True
  | id :: rest =>
    id ∉ rest ∧ (∀ a ∈ g.outgoing id, a ∈ back ∨ a.target ∈ rest) ∧ Descends g back rest

theorem Descends.mono {back more : List Arc} (sub : back ⊆ more) {done : List String}
    (descends : g.Descends back done) : g.Descends more done := by
  induction done with
  | nil => trivial
  | cons id rest ih =>
    obtain ⟨new, arcs, rest⟩ := descends
    exact ⟨new, fun a ha => (arcs a ha).imp_left (sub ·), ih rest⟩

def rankIn (done : List String) (id : String) : Nat := (done.dropWhile (· != id)).length

theorem rankIn_cons_self (id : String) (rest : List String) :
    rankIn (id :: rest) id = rest.length + 1 := by
  simp [rankIn]

theorem rankIn_cons_of_ne {id other : String} (rest : List String) (ne : other ≠ id) :
    rankIn (other :: rest) id = rankIn rest id := by
  simp [rankIn, ne]

theorem rankIn_le_length (done : List String) (id : String) : rankIn done id ≤ done.length :=
  (List.dropWhile_sublist _).length_le

/-- Arcs that do not lead back go down in the order in which the nodes were finished. -/
theorem Descends.rank_lt {back : List Arc} {done : List String} (descends : g.Descends back done)
    {a : Arc} (mem : a ∈ g.arcs) (source : a.source ∈ done) (forward : a ∉ back) :
    a.target ∈ done ∧ rankIn done a.target < rankIn done a.source := by
  induction done with
  | nil => cases source
  | cons id rest ih =>
    obtain ⟨new, arcs, below⟩ := descends
    rcases List.mem_cons.mp source with rfl | later
    · have target := (arcs a (mem_outgoing.mpr ⟨mem, rfl⟩)).resolve_left forward
      have ne : a.source ≠ a.target := fun eq => new (eq ▸ target)
      rw [rankIn_cons_self, rankIn_cons_of_ne rest ne]
      exact ⟨List.mem_cons_of_mem _ target, Nat.lt_succ_of_le (rankIn_le_length rest _)⟩
    · have ⟨target, lower⟩ := ih below later
      have neSource : id ≠ a.source := fun eq => new (eq ▸ later)
      have neTarget : id ≠ a.target := fun eq => new (eq ▸ target)
      rw [rankIn_cons_of_ne rest neSource, rankIn_cons_of_ne rest neTarget]
      exact ⟨List.mem_cons_of_mem id target, lower⟩

/-! ### The state of a search -/

/-- What holds of a search between two steps: `path` are the nodes at work, innermost first, and
`done` the finished ones. -/
structure Search.Sound (g : Graph) (starts : List String) (s : Search) (path done : List String) :
    Prop where
  entered : ∀ id, id ∈ s.entered ↔ id ∈ path ∨ id ∈ done
  apart : ∀ id ∈ path, id ∉ done
  descends : g.Descends s.back done
  behind : ∀ id ∈ s.entered, ∃ start ∈ starts, g.has start = true ∧ g.Reaches start id
  closing : ∀ a ∈ s.back,
    a ∈ g.arcs ∧ a.source ∈ s.entered ∧ a.target ∈ s.entered ∧ g.Reaches a.target a.source

structure Search.Grows (s t : Search) (done more : List String) : Prop where
  done : done ⊆ more
  back : s.back ⊆ t.back

theorem Search.Grows.refl (s : Search) (done : List String) : Search.Grows s s done done :=
  ⟨List.Subset.refl _, List.Subset.refl _⟩

theorem Search.Grows.trans {s t u : Search} {done more most : List String}
    (first : Search.Grows s t done more) (second : Search.Grows t u more most) :
    Search.Grows s u done most :=
  ⟨List.Subset.trans first.done second.done, List.Subset.trans first.back second.back⟩

def Search.Followed (s : Search) (done : List String) (a : Arc) : Prop :=
  a ∈ s.back ∨ a.target ∈ done

theorem Search.Followed.mono {s t : Search} {done more : List String} {a : Arc}
    (grows : Search.Grows s t done more) (followed : s.Followed done a) : t.Followed more a :=
  followed.imp (grows.back ·) (grows.done ·)

variable {starts path done : List String} {s : Search} {id : String}

theorem Search.Sound.enter (sound : s.Sound g starts path done) (new : id ∉ s.entered)
    (reached : ∃ start ∈ starts, g.has start = true ∧ g.Reaches start id) :
    Search.Sound g starts { s with entered := id :: s.entered } (id :: path) done where
  entered := by
    intro v
    have old := sound.entered v
    simp only [List.mem_cons, old, or_assoc]
  apart := by
    intro v hv
    rcases List.mem_cons.mp hv with rfl | hv
    · exact fun mem => new ((sound.entered v).mpr (.inr mem))
    · exact sound.apart v hv
  descends := sound.descends
  behind := by
    intro v hv
    rcases List.mem_cons.mp hv with rfl | hv
    · exact reached
    · exact sound.behind v hv
  closing := by
    intro a ha
    obtain ⟨mem, source, target, path⟩ := sound.closing a ha
    exact ⟨mem, List.mem_cons_of_mem id source, List.mem_cons_of_mem id target, path⟩

theorem Search.Sound.finish (sound : s.Sound g starts (id :: path) done) (off : id ∉ path)
    (all : ∀ a ∈ g.outgoing id, s.Followed done a) : s.Sound g starts path (id :: done) where
  entered := by
    intro v
    rw [sound.entered v, List.mem_cons, List.mem_cons]
    constructor
    · rintro ((rfl | onPath) | finished)
      · exact .inr (.inl rfl)
      · exact .inl onPath
      · exact .inr (.inr finished)
    · rintro (onPath | (rfl | finished))
      · exact .inl (.inr onPath)
      · exact .inl (.inl rfl)
      · exact .inr finished
  apart := by
    intro v hv mem
    rcases List.mem_cons.mp mem with rfl | mem
    · exact off hv
    · exact sound.apart v (List.mem_cons_of_mem id hv) mem
  descends := ⟨sound.apart id List.mem_cons_self, all, sound.descends⟩
  behind := sound.behind
  closing := sound.closing

theorem Search.Sound.leadBack (sound : s.Sound g starts (id :: path) done) {a : Arc}
    (leaves : a ∈ g.outgoing id) (onPath : a.target ∈ id :: path)
    (before : ∀ v ∈ id :: path, g.Reaches v id) :
    Search.Sound g starts { s with back := s.back ++ [a] } (id :: path) done where
  entered := sound.entered
  apart := sound.apart
  descends := sound.descends.mono (List.subset_append_left _ _)
  behind := sound.behind
  closing := by
    intro b hb
    rcases List.mem_append.mp hb with old | new
    · exact sound.closing b old
    · obtain rfl := List.mem_singleton.mp new
      obtain ⟨mem, source⟩ := mem_outgoing.mp leaves
      have entered := (sound.entered b.target).mpr (.inl onPath)
      refine ⟨mem, ?_, entered, ?_⟩
      · exact (sound.entered b.source).mpr (.inl (source ▸ List.mem_cons_self))
      · exact source ▸ before b.target onPath

/-! ### The search -/

theorem length_le_of_nodup {ids : List String} (nodup : ids.Nodup)
    (nodes : ∀ v ∈ ids, g.has v = true) : ids.length ≤ g.nodes.length := by
  have sub : ids ⊆ g.nodes.map FlowNode.id := fun v hv => has_iff.mp (nodes v hv)
  simpa using (List.subperm_of_subset nodup sub).length_le

def Finishes (g : Graph) (starts : List String) (visit : Search → String → Search)
    (path : List String) : Prop :=
  ∀ (s : Search) (done : List String) (id : String), s.Sound g starts path done →
    id ∉ s.entered → g.has id = true → (∀ v ∈ path, g.Reaches v id) →
    (∃ start ∈ starts, g.has start = true ∧ g.Reaches start id) →
    ∃ more, (visit s id).Sound g starts path (id :: more) ∧ Search.Grows s (visit s id) done more

/-- Following an arc that leaves the innermost node keeps the search sound. -/
theorem followArc_sound {visit : Search → String → Search}
    (finishes : g.Finishes starts visit (id :: path)) (sound : s.Sound g starts (id :: path) done)
    (before : ∀ v ∈ id :: path, g.Reaches v id) {a : Arc} (leaves : a ∈ g.outgoing id) :
    ∃ more, (followArc visit (id :: path) s a).Sound g starts (id :: path) more ∧
      Search.Grows s (followArc visit (id :: path) s a) done more ∧
      (followArc visit (id :: path) s a).Followed more a := by
  unfold followArc
  split
  · rename_i onPath
    have onPath : a.target ∈ id :: path := by simpa using onPath
    refine ⟨done, sound.leadBack leaves onPath before, ⟨List.Subset.refl _, ?_⟩, .inl ?_⟩
    · exact List.subset_append_left _ _
    · exact List.mem_append_right _ List.mem_cons_self
  · rename_i off
    have off : a.target ∉ id :: path := by simpa using off
    split
    · rename_i old
      have old : a.target ∈ s.entered := by simpa using old
      exact ⟨done, sound, .refl s done, .inr (((sound.entered _).mp old).resolve_left off)⟩
    · rename_i fresh
      have fresh : a.target ∉ s.entered := by simpa using fresh
      obtain ⟨mem, rfl⟩ := mem_outgoing.mp leaves
      have step := leads_of_mem mem
      obtain ⟨start, hs, has, path⟩ :=
        sound.behind _ ((sound.entered a.source).mpr (.inl List.mem_cons_self))
      obtain ⟨more, finished, grows⟩ := finishes s done a.target sound fresh (has_ends mem).2
        (fun v hv => (before v hv).tail step) ⟨start, hs, has, path.tail step⟩
      refine ⟨a.target :: more, finished, ?_, .inr List.mem_cons_self⟩
      exact ⟨List.Subset.trans grows.done (List.subset_cons_self _ _), grows.back⟩

theorem foldl_followArc_sound {visit : Search → String → Search}
    (finishes : g.Finishes starts visit (id :: path)) (sound : s.Sound g starts (id :: path) done)
    (before : ∀ v ∈ id :: path, g.Reaches v id) {arcs : List Arc} (leave : arcs ⊆ g.outgoing id) :
    ∃ more, (arcs.foldl (followArc visit (id :: path)) s).Sound g starts (id :: path) more ∧
      Search.Grows s (arcs.foldl (followArc visit (id :: path)) s) done more ∧
      ∀ a ∈ arcs, (arcs.foldl (followArc visit (id :: path)) s).Followed more a := by
  induction arcs generalizing s done with
  | nil => exact ⟨done, sound, .refl s done, by simp⟩
  | cons a rest ih =>
    obtain ⟨leaves, leave⟩ := List.cons_subset.mp leave
    obtain ⟨middle, soundMiddle, first, followed⟩ := followArc_sound finishes sound before leaves
    obtain ⟨more, soundMore, second, all⟩ := ih soundMiddle leave
    refine ⟨more, soundMore, first.trans second, ?_⟩
    intro b hb
    rcases List.mem_cons.mp hb with rfl | hb
    · exact followed.mono second
    · exact all b hb

/-- A search finishes the node that it starts from, if its fuel lasts for a path through all
nodes. -/
theorem search_finishes (fuel : Nat) (path : List String) (nodup : path.Nodup)
    (nodes : ∀ v ∈ path, g.has v = true) (enough : g.nodes.length ≤ fuel + path.length) :
    g.Finishes starts (g.search fuel path) path := by
  induction fuel generalizing path with
  | zero =>
    intro s done id sound new has _ _
    have off : id ∉ path := fun mem => new ((sound.entered id).mpr (.inl mem))
    have few := length_le_of_nodup (List.nodup_cons.mpr ⟨off, nodup⟩)
      (fun v hv => (List.mem_cons.mp hv).elim (fun eq => eq ▸ has) (nodes v))
    simp only [List.length_cons] at few
    omega
  | succ fuel ih =>
    intro s done id sound new has before reached
    have off : id ∉ path := fun mem => new ((sound.entered id).mpr (.inl mem))
    have nodesCons : ∀ v ∈ id :: path, g.has v = true := fun v hv =>
      (List.mem_cons.mp hv).elim (fun eq => eq ▸ has) (nodes v)
    have beforeCons : ∀ v ∈ id :: path, g.Reaches v id := fun v hv =>
      (List.mem_cons.mp hv).elim (fun eq => eq ▸ .refl) (before v)
    have inner := ih (id :: path) (List.nodup_cons.mpr ⟨off, nodup⟩) nodesCons
      (by rw [List.length_cons]; omega)
    obtain ⟨more, soundMore, grows, all⟩ := foldl_followArc_sound inner (sound.enter new reached)
      beforeCons (List.Subset.refl (g.outgoing id))
    exact ⟨more, soundMore.finish off all, grows.done, grows.back⟩

theorem searchStart_sound (sound : s.Sound g starts [] done) {start : String}
    (mem : start ∈ starts) :
    ∃ more, (g.searchStart s start).Sound g starts [] more ∧
      Search.Grows s (g.searchStart s start) done more ∧
      (g.has start = true → start ∈ more) := by
  unfold searchStart
  split
  · rename_i fresh
    have ⟨has, new⟩ : g.has start = true ∧ start ∉ s.entered := by simpa using fresh
    obtain ⟨more, soundMore, grows⟩ := search_finishes g.nodes.length [] List.nodup_nil (by simp)
      (by simp) s done start sound new has (by simp) ⟨start, mem, has, .refl⟩
    refine ⟨start :: more, soundMore, ⟨?_, grows.back⟩, fun _ => List.mem_cons_self⟩
    exact List.Subset.trans grows.done (List.subset_cons_self _ _)
  · rename_i skipped
    refine ⟨done, sound, .refl s done, fun has => ?_⟩
    have old : start ∈ s.entered := by simpa [has] using skipped
    exact ((sound.entered start).mp old).resolve_left List.not_mem_nil

theorem foldl_searchStart_sound (sound : s.Sound g starts [] done) {some : List String}
    (sub : some ⊆ starts) :
    ∃ more, (some.foldl g.searchStart s).Sound g starts [] more ∧
      done ⊆ more ∧ ∀ start ∈ some, g.has start = true → start ∈ more := by
  induction some generalizing s done with
  | nil => exact ⟨done, sound, List.Subset.refl _, by simp⟩
  | cons start rest ih =>
    obtain ⟨mem, sub⟩ := List.cons_subset.mp sub
    obtain ⟨middle, soundMiddle, grows, first⟩ := searchStart_sound sound mem
    obtain ⟨more, soundMore, keeps, others⟩ := ih soundMiddle sub
    refine ⟨more, soundMore, List.Subset.trans grows.done keeps, ?_⟩
    intro v hv has
    rcases List.mem_cons.mp hv with rfl | hv
    · exact keeps (first has)
    · exact others v hv has

/-- What the search from some starts comes to: an order in which it finished exactly the nodes
behind the starts, and arcs that lead back. -/
theorem exists_finished (g : Graph) (starts : List String) :
    ∃ done, g.Descends (g.backArcs starts) done ∧ (∀ id, id ∈ done ↔ id ∈ g.reachable starts) ∧
      ∀ a ∈ g.backArcs starts, a ∈ g.arcs ∧ a.source ∈ done ∧ g.Reaches a.target a.source := by
  have blank : Search.Sound g starts ⟨[], []⟩ [] [] :=
    ⟨by simp, by simp, trivial, by simp, by simp⟩
  obtain ⟨done, sound, -, finished⟩ := foldl_searchStart_sound blank (List.Subset.refl starts)
  have entered : ∀ id, id ∈ (starts.foldl g.searchStart ⟨[], []⟩).entered ↔ id ∈ done := by
    simpa using sound.entered
  refine ⟨done, sound.descends, ?_, ?_⟩
  · intro id
    rw [mem_reachable]
    constructor
    · intro mem
      exact sound.behind id ((entered id).mpr mem)
    · rintro ⟨start, hs, has, path⟩
      induction path with
      | refl => exact finished start hs has
      | tail _ step ih =>
        obtain ⟨a, mem, rfl, rfl⟩ := step
        by_cases back : a ∈ g.backArcs starts
        · exact (entered _).mp (sound.closing a back).2.2.1
        · exact (sound.descends.rank_lt mem ih back).1
  · intro a ha
    obtain ⟨mem, source, -, path⟩ := sound.closing a ha
    exact ⟨mem, (entered _).mp source, path⟩

/-! ### Cycles -/

theorem closes_of_mem_backArcs {a : Arc} (mem : a ∈ g.backArcs starts) :
    a ∈ g.arcs ∧ a.source ∈ g.reachable starts ∧ g.Reaches a.target a.source := by
  obtain ⟨done, -, finished, closing⟩ := exists_finished g starts
  obtain ⟨inside, source, path⟩ := closing a mem
  exact ⟨inside, (finished _).mp source, path⟩

theorem mem_forwardArcs {a : Arc} :
    a ∈ g.forwardArcs starts ↔
      a ∈ g.arcs ∧ a.source ∈ g.reachable starts ∧ a ∉ g.backArcs starts := by
  simp [forwardArcs]

/-- Arcs that do not lead back go down in some rank. -/
theorem exists_rank_forwardArcs (g : Graph) (starts : List String) :
    ∃ rank : String → Nat, ∀ a ∈ g.forwardArcs starts, rank a.target < rank a.source := by
  obtain ⟨done, descends, finished, -⟩ := exists_finished g starts
  refine ⟨rankIn done, fun a ha => ?_⟩
  obtain ⟨mem, source, forward⟩ := mem_forwardArcs.mp ha
  exact (descends.rank_lt mem ((finished _).mpr source) forward).2

def Forward (g : Graph) (starts : List String) (u v : String) : Prop :=
  ∃ a ∈ g.forwardArcs starts, a.source = u ∧ a.target = v

theorem not_transGen_forward (g : Graph) (starts : List String) (id : String) :
    ¬ Relation.TransGen (g.Forward starts) id id := by
  obtain ⟨rank, down⟩ := exists_rank_forwardArcs g starts
  have lower : ∀ v, Relation.TransGen (g.Forward starts) id v → rank v < rank id := by
    intro v path
    induction path with
    | single step =>
      obtain ⟨a, ha, rfl, rfl⟩ := step
      exact down a ha
    | tail _ step ih =>
      obtain ⟨a, ha, rfl, rfl⟩ := step
      exact Nat.lt_trans (down a ha) ih
  exact fun around => Nat.lt_irrefl _ (lower id around)

theorem reachable_of_mem_forwardArcs {a : Arc} (mem : a ∈ g.forwardArcs starts) :
    a.source ∈ g.reachable starts ∧ a.target ∈ g.reachable starts := by
  obtain ⟨inside, source, -⟩ := mem_forwardArcs.mp mem
  obtain ⟨start, hs, has, path⟩ := mem_reachable.mp source
  exact ⟨source, mem_reachable.mpr ⟨start, hs, has, path.tail (leads_of_mem inside)⟩⟩

/-- No arc leads back exactly when nothing behind the starts lies on a cycle. -/
theorem backArcs_eq_nil_iff :
    g.backArcs starts = [] ↔ ∀ id ∈ g.reachable starts, ¬ g.OnCycle id := by
  constructor
  · intro none id reached cycle
    -- Behind a node that can be reached, every arc is one of those that do not lead back.
    have forward : ∀ {u w}, u ∈ g.reachable starts → g.Leads u w → g.Forward starts u w := by
      rintro u w source ⟨a, mem, rfl, rfl⟩
      exact ⟨a, mem_forwardArcs.mpr ⟨mem, source, by simp [none]⟩, rfl, rfl⟩
    have along : ∀ v, Relation.TransGen g.Leads id v →
        v ∈ g.reachable starts ∧ Relation.TransGen (g.Forward starts) id v := by
      intro v path
      induction path with
      | single step =>
        obtain ⟨a, ha, rfl, rfl⟩ := forward reached step
        exact ⟨(reachable_of_mem_forwardArcs ha).2, .single ⟨a, ha, rfl, rfl⟩⟩
      | tail _ step ih =>
        obtain ⟨a, ha, rfl, rfl⟩ := forward ih.1 step
        exact ⟨(reachable_of_mem_forwardArcs ha).2, ih.2.tail ⟨a, ha, rfl, rfl⟩⟩
    exact not_transGen_forward g starts id (along id cycle).2
  · intro acyclic
    cases back : g.backArcs starts with
    | nil => rfl
    | cons a rest =>
      have closing : a ∈ g.backArcs starts := back ▸ List.mem_cons_self
      obtain ⟨mem, source, path⟩ := closes_of_mem_backArcs closing
      exact absurd (Relation.TransGen.head' (leads_of_mem mem) path) (acyclic a.source source)

end Graph

end Chatflow
