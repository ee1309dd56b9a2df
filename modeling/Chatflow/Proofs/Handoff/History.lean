import Chatflow.Handoff
import Chatflow.Proofs.Table
import Mathlib.Data.List.Induction

/-!
# Histories of generated texts

What happens to generated texts, one event after the other. The events alone say which texts are
pending (`pendingAfter`). Where every producer puts at most one text and only pending texts are
removed, each text that was put is either removed once or still pending (`Coherent.perm_put`).
-/

namespace Chatflow

/-- Something that happens to a generated text: its producer puts it, a node takes or discards it,
or the run drops it. -/
inductive TextEvent where
  | put (producer text : String)
  | taken (taker producer text : String)
  | discarded (node producer text : String)
  | dropped (producer text : String)
deriving Repr, DecidableEq

namespace TextEvent

def put? : TextEvent → Option (String × String)
  | put producer text => some (producer, text)
  | _ => none

def taken? : TextEvent → Option (String × String)
  | taken _ producer text => some (producer, text)
  | _ => none

def discarded? : TextEvent → Option (String × String)
  | discarded _ producer text => some (producer, text)
  | _ => none

def dropped? : TextEvent → Option (String × String)
  | dropped producer text => some (producer, text)
  | _ => none

def removed? (e : TextEvent) : Option (String × String) := e.taken? <|> e.discarded? <|> e.dropped?

/-- What becomes of the pending texts, oldest first. -/
def apply (pending : Entries String) : TextEvent → Entries String
  | put producer text => pending.erase producer ++ [(producer, text)]
  | taken _ producer _ => pending.erase producer
  | discarded _ producer _ => pending.erase producer
  | dropped producer _ => pending.erase producer

end TextEvent

def pendingAfter (history : List TextEvent) : Entries String := history.foldl TextEvent.apply []

theorem pendingAfter_append (past later : List TextEvent) :
    pendingAfter (past ++ later) = later.foldl TextEvent.apply (pendingAfter past) :=
  List.foldl_append

theorem pendingAfter_concat (past : List TextEvent) (e : TextEvent) :
    pendingAfter (past ++ [e]) = e.apply (pendingAfter past) := by
  rw [pendingAfter_append, List.foldl_cons, List.foldl_nil]

theorem mem_of_mem_foldl {pending : Entries String} {later : List TextEvent}
    {text : String × String} (mem : text ∈ later.foldl TextEvent.apply pending) :
    text ∈ pending ∨ .put text.1 text.2 ∈ later := by
  induction later generalizing pending with
  | nil => exact .inl mem
  | cons e later ih =>
    rcases ih mem with held | put
    · cases e with
      | put producer other =>
        rcases List.mem_append.mp held with old | new
        · exact .inl (Table.mem_erase.mp old).1
        · exact .inr (List.mem_singleton.mp new ▸ List.mem_cons_self)
      | taken => exact .inl (Table.mem_erase.mp held).1
      | discarded => exact .inl (Table.mem_erase.mp held).1
      | dropped => exact .inl (Table.mem_erase.mp held).1
    · exact .inr (List.mem_cons_of_mem e put)

theorem put_mem_of_mem_pendingAfter {history : List TextEvent} {text : String × String}
    (mem : text ∈ pendingAfter history) : .put text.1 text.2 ∈ history :=
  (mem_of_mem_foldl mem).resolve_left List.not_mem_nil

def droppings (texts : Entries String) : List TextEvent := texts.map fun e => .dropped e.1 e.2

/-- The texts put in a history, each under its producer. -/
def putTexts (history : List TextEvent) : List (String × String) :=
  history.filterMap TextEvent.put?

def takenTexts (history : List TextEvent) : List (String × String) :=
  history.filterMap TextEvent.taken?

def discardedTexts (history : List TextEvent) : List (String × String) :=
  history.filterMap TextEvent.discarded?

def droppedTexts (history : List TextEvent) : List (String × String) :=
  history.filterMap TextEvent.dropped?

def removedTexts (history : List TextEvent) : List (String × String) :=
  history.filterMap TextEvent.removed?

theorem putTexts_append (past later : List TextEvent) :
    putTexts (past ++ later) = putTexts past ++ putTexts later := List.filterMap_append

theorem mem_putTexts_iff {history : List TextEvent} {producer text : String} :
    (producer, text) ∈ putTexts history ↔ .put producer text ∈ history := by
  rw [putTexts, List.mem_filterMap]
  constructor
  · rintro ⟨e, mem, put⟩
    cases e with
    | put =>
      cases put
      exact mem
    | taken => cases put
    | discarded => cases put
    | dropped => cases put
  · exact fun mem => ⟨_, mem, rfl⟩

@[simp] theorem putTexts_droppings (texts : Entries String) : putTexts (droppings texts) = [] := by
  simp [putTexts, droppings, TextEvent.put?, List.filterMap_eq_nil_iff]

theorem putTexts_concat (past : List TextEvent) (e : TextEvent) :
    putTexts (past ++ [e]) = putTexts past ++ e.put?.toList := by
  rw [putTexts, List.filterMap_append]
  cases e <;> rfl

theorem putTexts_removal {e : TextEvent} (past : List TextEvent) (none : e.put? = none) :
    putTexts (past ++ [e]) = putTexts past := by
  rw [putTexts_concat, none]
  exact List.append_nil _

theorem removedTexts_concat (past : List TextEvent) (e : TextEvent) :
    removedTexts (past ++ [e]) = removedTexts past ++ e.removed?.toList := by
  rw [removedTexts, List.filterMap_append]
  cases e <;> rfl

theorem perm_removedTexts (history : List TextEvent) :
    (removedTexts history).Perm
      (takenTexts history ++ discardedTexts history ++ droppedTexts history) := by
  induction history with
  | nil => exact .nil
  | cons e history ih =>
    cases e with
    | put producer text => exact ih
    | taken taker producer text => exact ih.cons (producer, text)
    | discarded node producer text =>
      rw [List.append_assoc] at ih ⊢
      exact (ih.cons (producer, text)).trans List.perm_middle.symm
    | dropped producer text =>
      exact (ih.cons (producer, text)).trans List.perm_middle.symm

/-- Every producer puts at most one text, and what is removed is pending. -/
structure Coherent (history : List TextEvent) : Prop where
  once : ((putTexts history).map Prod.fst).Nodup
  held : ∀ past e later, history = past ++ e :: later →
    ∀ text, e.removed? = some text → text ∈ pendingAfter past

namespace Coherent

variable {past later history : List TextEvent} {text : String × String}

theorem nil : Coherent [] := ⟨List.nodup_nil, fun past e later split => by simp at split⟩

theorem of_append (coherent : Coherent (past ++ later)) : Coherent past where
  once := by
    have once := coherent.once
    rw [putTexts, List.filterMap_append, List.map_append] at once
    exact (List.nodup_append.mp once).1
  held := by
    intro first e rest split
    exact coherent.held first e (rest ++ later) (by rw [split]; simp)

/-- One more event: a text of a producer that has put none, or the removal of a pending text. -/
theorem concat {e : TextEvent} (coherent : Coherent past)
    (fresh : ∀ text, e.put? = some text → text.1 ∉ (putTexts past).map Prod.fst)
    (held : ∀ text, e.removed? = some text → text ∈ pendingAfter past) :
    Coherent (past ++ [e]) where
  once := by
    rw [putTexts_concat, List.map_append]
    refine List.nodup_append.mpr ⟨coherent.once, ?_, ?_⟩
    · cases e.put? <;> simp
    · rintro p old q new rfl
      obtain ⟨text, put, rfl⟩ := List.mem_map.mp new
      exact fresh text (Option.mem_toList.mp put) old
  held := by
    intro first e' rest split text removed
    rcases List.append_eq_append_iff.mp split with ⟨more, rfl, tail⟩ | ⟨more, rfl, tail⟩
    · -- The event is the last one, so that nothing comes between the past and it.
      cases more with
      | nil =>
        obtain ⟨rfl, -⟩ := List.cons.inj tail
        rw [List.append_nil]
        exact held text removed
      | cons => simp at tail
    · cases more with
      | nil =>
        obtain ⟨rfl, -⟩ := List.cons.inj tail
        rw [List.append_nil] at held
        exact held text removed
      | cons first' more =>
        obtain ⟨rfl, rfl⟩ := List.cons.inj tail
        exact coherent.held first _ more rfl text removed

/-- A removal moves a text from the pending ones to the removed ones. -/
theorem perm_remove {e : TextEvent} (coherent : Coherent (past ++ [e]))
    (earlier : (putTexts past).Perm (removedTexts past ++ pendingAfter past))
    (removed : e.removed? = some text) :
    (removedTexts past ++ pendingAfter past).Perm
      (removedTexts past ++ [text] ++ Table.erase (pendingAfter past) text.1) := by
  have held := coherent.held past e [] rfl text removed
  have nodup : (Table.names (pendingAfter past)).Nodup := by
    have all := (earlier.map Prod.fst).nodup_iff.mp coherent.of_append.once
    rw [List.map_append] at all
    exact (List.nodup_append.mp all).2.1
  rw [List.append_assoc]
  exact (Table.perm_cons_erase nodup held).append_left _

theorem not_mem_of_put {producer text : String}
    (coherent : Coherent (past ++ [.put producer text])) :
    producer ∉ (putTexts past).map Prod.fst := by
  have once := coherent.once
  rw [putTexts_concat, List.map_append] at once
  exact fun old => (List.nodup_append.mp once).2.2 _ old _ (List.mem_singleton_self _) rfl

/-- Every text that was put is either removed or still pending, and each only once. -/
theorem perm_put (coherent : Coherent history) :
    (putTexts history).Perm (removedTexts history ++ pendingAfter history) := by
  induction history using List.reverseRecOn with
  | nil => exact .nil
  | append_singleton past e ih =>
    have earlier := ih coherent.of_append
    rw [pendingAfter_concat, putTexts_concat, removedTexts_concat]
    cases e with
    | put producer text =>
      have absent : producer ∉ Table.names (pendingAfter past) := by
        intro mem
        have all := earlier.map Prod.fst
        rw [List.map_append] at all
        exact coherent.not_mem_of_put (all.mem_iff.mpr (List.mem_append_right _ mem))
      have none : (TextEvent.put producer text).removed?.toList = [] := rfl
      rw [TextEvent.apply, Table.erase_of_not_mem absent, none, List.append_nil,
        ← List.append_assoc]
      exact earlier.append_right [(producer, text)]
    | taken taker producer text =>
      exact (List.append_nil _).symm ▸ earlier.trans (coherent.perm_remove earlier rfl)
    | discarded node producer text =>
      exact (List.append_nil _).symm ▸ earlier.trans (coherent.perm_remove earlier rfl)
    | dropped producer text =>
      exact (List.append_nil _).symm ▸ earlier.trans (coherent.perm_remove earlier rfl)

/-- No producer has both a removed text and a pending one, or two of either. -/
theorem nodup_removed_append (coherent : Coherent history) :
    ((removedTexts history).map Prod.fst ++ Table.names (pendingAfter history)).Nodup := by
  have once := (coherent.perm_put.map Prod.fst).nodup_iff.mp coherent.once
  rwa [List.map_append] at once

theorem nodup_pendingAfter (coherent : Coherent history) :
    (Table.names (pendingAfter history)).Nodup :=
  (List.nodup_append.mp coherent.nodup_removed_append).2.1

theorem ne_of_removed {other : String × String} {e : TextEvent} (coherent : Coherent history)
    (mem : text ∈ pendingAfter history) (event : e ∈ history) (removed : e.removed? = some other) :
    other.1 ≠ text.1 := by
  have gone : other ∈ removedTexts history := List.mem_filterMap.mpr ⟨e, event, removed⟩
  exact (List.nodup_append.mp coherent.nodup_removed_append).2.2 _ (List.mem_map_of_mem gone) _
    (List.mem_map_of_mem mem)

/-- A pending text of a producer that had put one was pending all the time. -/
theorem kept (coherent : Coherent (past ++ later)) (mem : text ∈ pendingAfter (past ++ later))
    (old : text.1 ∈ (putTexts past).map Prod.fst) : text ∈ pendingAfter past := by
  rw [pendingAfter_append] at mem
  refine (mem_of_mem_foldl mem).resolve_right fun again => ?_
  have once := coherent.once
  rw [putTexts_append, List.map_append] at once
  have new := List.mem_map_of_mem (f := Prod.fst) (mem_putTexts_iff.mpr again)
  exact (List.nodup_append.mp once).2.2 _ old _ new rfl

theorem drop {texts : Entries String} (coherent : Coherent past) (nodup : texts.names.Nodup)
    (held : ∀ text ∈ texts, text ∈ pendingAfter past) : Coherent (past ++ droppings texts) := by
  induction texts generalizing past with
  | nil =>
    rw [droppings, List.map_nil, List.append_nil]
    exact coherent
  | cons e rest ih =>
    obtain ⟨new, nodup⟩ := List.nodup_cons.mp nodup
    rw [droppings, List.map_cons, List.append_cons]
    refine ih (coherent.concat nofun ?_) nodup fun text mem => ?_
    · rintro _ ⟨⟩
      exact held e List.mem_cons_self
    · rw [pendingAfter_concat]
      refine Table.mem_erase.mpr ⟨held text (List.mem_cons_of_mem e mem), fun same => new ?_⟩
      exact List.mem_map.mpr ⟨text, mem, same⟩

/-- A pending text that is pending no more at the end was removed in the meantime. -/
theorem exists_removed (coherent : Coherent (past ++ later)) (mem : text ∈ pendingAfter past)
    (gone : text ∉ pendingAfter (past ++ later)) : ∃ e ∈ later, e.removed? = some text := by
  induction later generalizing past with
  | nil =>
    rw [List.append_nil] at gone
    exact absurd mem gone
  | cons e later ih =>
    rw [List.append_cons] at coherent gone
    by_cases kept : text ∈ pendingAfter (past ++ [e])
    · obtain ⟨e', mem, removed⟩ := ih coherent kept gone
      exact ⟨e', List.mem_cons_of_mem e mem, removed⟩
    · refine ⟨e, List.mem_cons_self, ?_⟩
      have step := coherent.of_append
      have nodup := step.of_append.nodup_pendingAfter
      rw [pendingAfter_concat] at kept
      have removes : ∀ producer other, e.removed? = some (producer, other) →
          text.1 = producer → e.removed? = some text := by
        rintro producer other removed rfl
        have held := step.held past e [] rfl _ removed
        rw [removed, Table.eq_of_mem_names nodup held mem]
      cases e with
      | put producer other =>
        have old : text.1 ∈ (putTexts past).map Prod.fst :=
          List.mem_map_of_mem (mem_putTexts_iff.mpr (put_mem_of_mem_pendingAfter mem))
        have other : text.1 ≠ producer := fun same => step.not_mem_of_put (same ▸ old)
        exact absurd (List.mem_append_left _ (Table.mem_erase.mpr ⟨mem, other⟩)) kept
      | taken taker producer other =>
        refine removes producer other rfl ?_
        by_contra differ
        exact kept (Table.mem_erase.mpr ⟨mem, differ⟩)
      | discarded node producer other =>
        refine removes producer other rfl ?_
        by_contra differ
        exact kept (Table.mem_erase.mpr ⟨mem, differ⟩)
      | dropped producer other =>
        refine removes producer other rfl ?_
        by_contra differ
        exact kept (Table.mem_erase.mpr ⟨mem, differ⟩)

end Coherent

end Chatflow
