import Chatflow.Engine
import Chatflow.Proofs.Exec

/-!
# One way to each executor

Executors are registered one after the other until the registry is frozen, and a bridge to the
legacy kinds may be built over the registry at any time. Whatever is done, and in which order, a
subtype has one executor at most: the first one registered under it, or else its legacy kind if
there is a bridge. Listings name the subtypes that have one, and no others (`one_way_to_executors`).
An executor whose settings cannot be described is registered all the same, though registering it
fails (`failed_registration_stays`).
-/

namespace Chatflow

/-! ### Registries -/

namespace Registry

variable {r r' : Registry} {e : Executor} {s : String}

theorem has_eq_isSome : r.has s = (r.resolve? s).isSome := by
  rw [Bool.eq_iff_iff, has, List.contains_iff_mem, subTypes, List.mem_map, resolve?,
    List.find?_isSome]
  simp only [beq_iff_eq]

/-- Everything that registering can do. -/
theorem register_cases (r : Registry) (e : Executor) :
    r.isFrozen = true ∧ r.register e = (r, .error (.frozen e.subType)) ∨
      r.isFrozen = false ∧ r.has e.subType = true ∧
        r.register e = (r, .error (.duplicate e.subType)) ∨
      r.isFrozen = false ∧ r.has e.subType = false ∧
        ∃ r', r.register e = (r', e.describe) ∧ r'.isFrozen = false ∧
          r'.executors = r.executors ++ [e] := by
  have has_iff : r.has e.subType = true ↔ e.subType ∈ r.executors.map Executor.subType :=
    List.contains_iff_mem
  unfold register insert
  by_cases frozen : r.isFrozen = true
  · left
    rw [if_pos frozen]
    exact ⟨frozen, rfl⟩
  have thawed := Bool.eq_false_iff.mpr frozen
  rw [if_neg frozen]
  by_cases taken : e.subType ∈ r.executors.map Executor.subType
  · right; left
    rw [dif_pos taken]
    exact ⟨thawed, has_iff.mpr taken, rfl⟩
  · right; right
    rw [dif_neg taken]
    exact ⟨thawed, Bool.eq_false_iff.mpr (mt has_iff.mp taken), _, rfl, thawed, rfl⟩

theorem resolve?_of_append (more : r'.executors = r.executors ++ [e]) :
    r'.resolve? s = (r.resolve? s).or (if e.subType == s then some e else none) := by
  rw [resolve?, more, List.find?_append, List.find?_singleton, resolve?]

end Registry

/-! ### Operations -/

inductive Operation where
  | register (e : Executor)
  | freeze
  | bridge

/-- The first executor that operations register under a subtype while nothing is frozen. -/
def Operation.firstUnder (s : String) : List Operation → Option Executor
  | [] => none
  | register e :: rest => if e.subType == s then some e else firstUnder s rest
  | freeze :: _ => none
  | bridge :: rest => firstUnder s rest

namespace Dispatch

def bare : Dispatch := ⟨.empty, none⟩

/-- Another state of the registry. A bridge over it sees the change. -/
def withRegistry (d : Dispatch) (r : Registry) : Dispatch := ⟨r, d.bridge.map fun _ => ⟨some r⟩⟩

/-- An operation as the program does it: what it leaves, and whether it failed. -/
def perform (d : Dispatch) : Operation → Exec (Dispatch × Except Fault Unit)
  | .register e => do
    let (r, described) ← Exec.register d.registry e
    return (d.withRegistry r, described.map fun _ => ())
  | .freeze => return (d.withRegistry d.registry.freeze, .ok ())
  | .bridge => return (bridged d.registry, .ok ())

def apply (d : Dispatch) : Operation → Dispatch × Except Fault Unit
  | .register e =>
    (d.withRegistry (d.registry.register e).1, (d.registry.register e).2.map fun _ => ())
  | .freeze => (d.withRegistry d.registry.freeze, .ok ())
  | .bridge => (bridged d.registry, .ok ())

def after (d : Dispatch) (op : Operation) : Dispatch := (d.apply op).1

def afterAll (d : Dispatch) (ops : List Operation) : Dispatch := ops.foldl after d

variable {d : Dispatch} {op : Operation} {s : String} {e : Executor}

/-- An operation does nothing else but write to the log. -/
theorem exists_outcome_perform (d : Dispatch) (op : Operation) (env : Env) (w : World) :
    ∃ records, Exec.outcome (d.perform op) env w = (.ok (d.apply op), { w with records }) := by
  cases op with
  | freeze => exact ⟨w.records, rfl⟩
  | bridge => exact ⟨w.records, rfl⟩
  | register e =>
    simp only [perform, apply, Exec.register]
    cases d.registry.insert e with
    | error fault => exact ⟨w.records, rfl⟩
    | ok r =>
      obtain ⟨records, emits⟩ := Exec.exists_outcome_emit env w [] (by decide) Exec.registryLogger
        .debug ("Registered node: " ++ e.subType) [] rfl
      refine ⟨records, ?_⟩
      have registers := Exec.outcome_bind_ok emits fun _ =>
        (pure (d.registry.register e) : Exec (Registry × Except Fault NodeDefinition))
      exact Exec.outcome_bind_ok registers _

/-! ### One operation -/

/-- A bridge looks at the registry that it was built over, as it is now. -/
def Bridged (d : Dispatch) : Prop := ∀ b ∈ d.bridge, b.registry = some d.registry

theorem bridged_withRegistry (d : Dispatch) (r : Registry) : (d.withRegistry r).Bridged := by
  intro b mem
  obtain ⟨-, -, rfl⟩ := Option.map_eq_some_iff.mp mem
  rfl

theorem bridged_after (d : Dispatch) (op : Operation) : (d.after op).Bridged := by
  cases op with
  | freeze => exact bridged_withRegistry d _
  | bridge =>
    intro b mem
    cases mem
    rfl
  | register e => exact bridged_withRegistry d _

theorem withRegistry_self (coupled : d.Bridged) : d.withRegistry d.registry = d := by
  obtain ⟨r, built⟩ := d
  cases built with
  | none => rfl
  | some b =>
    have same : b.registry = some r := coupled b rfl
    rw [withRegistry, Option.map_some, ← same]

/-- Everything that an operation can do that fails. A registration is refused and changes nothing,
or it is done and the executor cannot be described. -/
theorem apply_error (coupled : d.Bridged) {fault : Fault} (fails : (d.apply op).2 = .error fault) :
    ∃ e, op = .register e ∧
      (d.after op = d ∧
          (d.registry.isFrozen = true ∧ fault = .frozen e.subType ∨
            d.registry.isFrozen = false ∧ d.registry.has e.subType = true ∧
              fault = .duplicate e.subType) ∨
        d.registry.isFrozen = false ∧ d.registry.has e.subType = false ∧
          e.schemaFault? = some fault ∧
          (d.after op).registry.executors = d.registry.executors ++ [e]) := by
  cases op with
  | freeze => cases fails
  | bridge => cases fails
  | register e =>
    refine ⟨e, rfl, ?_⟩
    simp only [after, apply] at fails ⊢
    rcases d.registry.register_cases e with ⟨frozen, registers⟩ | ⟨thawed, taken, registers⟩ |
      ⟨thawed, new, r, registers, -, more⟩ <;>
      rw [registers] at fails ⊢
    · cases fails
      exact .inl ⟨withRegistry_self coupled, .inl ⟨frozen, rfl⟩⟩
    · cases fails
      exact .inl ⟨withRegistry_self coupled, .inr ⟨thawed, taken, rfl⟩⟩
    · refine .inr ⟨thawed, new, ?_, more⟩
      unfold Executor.describe at fails
      split at fails
      · cases fails
        assumption
      · cases fails

theorem isFrozen_after (d : Dispatch) (op : Operation) :
    (d.after op).registry.isFrozen = true ↔ d.registry.isFrozen = true ∨ op = .freeze := by
  cases op with
  | freeze => exact ⟨fun _ => .inr rfl, fun _ => rfl⟩
  | bridge => exact ⟨.inl, fun | .inl frozen => frozen⟩
  | register e =>
    rcases d.registry.register_cases e with ⟨frozen, registers⟩ | ⟨thawed, -, registers⟩ |
      ⟨thawed, -, r, registers, still, -⟩ <;>
      simp only [after, apply, registers, withRegistry]
    · simp [frozen]
    · simp [thawed]
    · simp [thawed, still]

theorem isSome_bridge_after (d : Dispatch) (op : Operation) :
    (d.after op).bridge.isSome = true ↔ d.bridge.isSome = true ∨ op = .bridge := by
  cases op with
  | freeze => simp [after, apply, withRegistry]
  | bridge => simp [after, apply, bridged]
  | register e => simp [after, apply, withRegistry]

/-- Nothing is registered any more once the registry is frozen. -/
theorem registry_after_of_isFrozen (frozen : d.registry.isFrozen = true) (op : Operation) :
    (d.after op).registry = d.registry := by
  cases op with
  | freeze =>
    change d.registry.freeze = d.registry
    rw [Registry.freeze, ← frozen]
  | bridge => rfl
  | register e =>
    rcases d.registry.register_cases e with ⟨-, registers⟩ | ⟨thawed, -⟩ | ⟨thawed, -⟩
    · simp only [after, apply, registers, withRegistry]
    · cases frozen.symm.trans thawed
    · cases frozen.symm.trans thawed

/-- A subtype that has an executor keeps it. One that has none gets the executor that is registered
under it unless the registry is frozen. -/
theorem resolve?_after (d : Dispatch) (op : Operation) (s : String) :
    (d.after op).registry.resolve? s =
      (d.registry.resolve? s).or
        (if d.registry.isFrozen then none else Operation.firstUnder s [op]) := by
  cases op with
  | freeze =>
    have none_new : Operation.firstUnder s [.freeze] = none := rfl
    rw [none_new, ite_self, Option.or_none]
    rfl
  | bridge =>
    have none_new : Operation.firstUnder s [.bridge] = none := rfl
    rw [none_new, ite_self, Option.or_none]
    rfl
  | register e =>
    have new : Operation.firstUnder s [.register e] = if e.subType == s then some e else none := rfl
    rw [new]
    rcases d.registry.register_cases e with ⟨frozen, registers⟩ | ⟨thawed, taken, registers⟩ |
      ⟨thawed, -, r, registers, -, more⟩ <;>
      simp only [after, apply, registers, withRegistry]
    · rw [if_pos frozen, Option.or_none]
    · rw [thawed, if_neg Bool.false_ne_true]
      by_cases same : e.subType = s
      · rw [Registry.has_eq_isSome, same] at taken
        obtain ⟨first, found⟩ := Option.isSome_iff_exists.mp taken
        rw [found, Option.some_or]
      · rw [if_neg (by simpa using same), Option.or_none]
    · rw [thawed, if_neg Bool.false_ne_true]
      exact Registry.resolve?_of_append more

/-! ### Any number of operations -/

theorem bridged_afterAll (coupled : d.Bridged) (ops : List Operation) :
    (d.afterAll ops).Bridged := by
  induction ops generalizing d with
  | nil => exact coupled
  | cons op rest ih => exact ih (bridged_after d op)

theorem isFrozen_afterAll (d : Dispatch) (ops : List Operation) :
    (d.afterAll ops).registry.isFrozen = true ↔ d.registry.isFrozen = true ∨ .freeze ∈ ops := by
  induction ops generalizing d with
  | nil => simp [afterAll]
  | cons op rest ih =>
    rw [afterAll, List.foldl_cons, ← afterAll, ih, isFrozen_after, List.mem_cons, or_assoc,
      @eq_comm _ _ op]

theorem isSome_bridge_afterAll (d : Dispatch) (ops : List Operation) :
    (d.afterAll ops).bridge.isSome = true ↔ d.bridge.isSome = true ∨ .bridge ∈ ops := by
  induction ops generalizing d with
  | nil => simp [afterAll]
  | cons op rest ih =>
    rw [afterAll, List.foldl_cons, ← afterAll, ih, isSome_bridge_after, List.mem_cons, or_assoc,
      @eq_comm _ _ op]

theorem registry_afterAll_of_isFrozen (frozen : d.registry.isFrozen = true) (ops : List Operation) :
    (d.afterAll ops).registry = d.registry := by
  induction ops generalizing d with
  | nil => rfl
  | cons op rest ih =>
    rw [afterAll, List.foldl_cons, ← afterAll,
      ih ((isFrozen_after d op).mpr (.inl frozen)), registry_after_of_isFrozen frozen]

theorem resolve?_afterAll (d : Dispatch) (ops : List Operation) (s : String) :
    (d.afterAll ops).registry.resolve? s =
      (d.registry.resolve? s).or
        (if d.registry.isFrozen then none else Operation.firstUnder s ops) := by
  induction ops generalizing d with
  | nil => simp [afterAll, Operation.firstUnder]
  | cons op rest ih =>
    rw [afterAll, List.foldl_cons, ← afterAll, ih, resolve?_after, Option.or_assoc]
    congr 1
    have frozen_iff := isFrozen_after d op
    by_cases frozen : d.registry.isFrozen = true
    · rw [if_pos frozen, if_pos (frozen_iff.mpr (.inl frozen)), if_pos frozen, Option.or_none]
    rw [if_neg frozen, if_neg frozen]
    cases op with
    | freeze => rw [if_pos (frozen_iff.mpr (.inr rfl))]; rfl
    | bridge => rw [if_neg (by simpa [frozen_iff] using frozen)]; rfl
    | register e =>
      rw [if_neg (by simpa [frozen_iff] using frozen)]
      simp only [Operation.firstUnder]
      split <;> rfl

/-! ### Lookups and listings -/

theorem find?_registry_iff :
    d.find? s = some (e, .registry) ↔ d.registry.resolve? s = some e := by
  unfold find?
  cases d.registry.resolve? s with
  | some first => simp
  | none => cases d.bridge.bind (·.resolve? s) <;> simp

theorem legacyKind_iff :
    (LegacyKind.ofSubType? s).map LegacyKind.executor = some e ↔
      ∃ kind : LegacyKind, kind.subType = s ∧ kind.executor = e := by
  have ofSubType?_subType :
      ∀ kind : LegacyKind, LegacyKind.ofSubType? kind.subType = some kind := by
    rintro ⟨⟩ <;> decide
  constructor
  · intro found
    obtain ⟨kind, kind_found, rfl⟩ := Option.map_eq_some_iff.mp found
    exact ⟨kind, by simpa using List.find?_some kind_found, rfl⟩
  · rintro ⟨kind, rfl, rfl⟩
    rw [ofSubType?_subType]
    rfl

theorem find?_legacy_iff (coupled : d.Bridged) :
    d.find? s = some (e, .legacy) ↔
      d.bridge.isSome = true ∧ d.registry.has s = false ∧
        ∃ kind : LegacyKind, kind.subType = s ∧ kind.executor = e := by
  rw [Registry.has_eq_isSome, ← legacyKind_iff]
  unfold find?
  cases found : d.registry.resolve? s with
  | some first => simp
  | none =>
    cases built : d.bridge with
    | none => simp
    | some b =>
      have refuses : b.refuses s = false := by
        rw [Bridge.refuses, coupled b built, Option.any_some, Registry.has_eq_isSome, found]
        rfl
      simp [Bridge.resolve?, refuses]

/-- A listing has all executors, and there is one if all of them can be described. -/
theorem mapM_describe_eq_ok_iff {executors : List Executor} {listing : List NodeDefinition} :
    executors.mapM Executor.describe = .ok listing ↔
      (∀ e ∈ executors, e.schemaFault? = none) ∧ listing = executors.map Executor.definition := by
  induction executors generalizing listing with
  | nil => simp [pure, Except.pure, eq_comm]
  | cons e rest ih =>
    rw [List.mapM_cons, List.forall_mem_cons, List.map_cons]
    cases fault : e.schemaFault? with
    | some f =>
      have fails : e.describe = .error f := by rw [Executor.describe, fault]
      simp [fails, bind, Except.bind]
    | none =>
      have describes : e.describe = .ok e.definition := by rw [Executor.describe, fault]
      rw [describes]
      cases more : rest.mapM Executor.describe with
      | error f =>
        simp only [bind, Except.bind, reduceCtorEq, true_and, false_iff]
        rintro ⟨all, -⟩
        cases more.symm.trans (ih.mpr ⟨all, rfl⟩)
      | ok l =>
        obtain ⟨all, rfl⟩ := ih.mp more
        simp only [bind, Except.bind, pure, Except.pure, Except.ok.injEq, true_and]
        exact ⟨fun same => ⟨all, same.symm⟩, fun same => same.2.symm⟩

theorem lists_registry_iff {r : Registry} {source : Source} :
    (∃ shown ∈ r.executors.map Executor.definition, shown.subType = s ∧
      shown.source = source.name) ↔
      source = .registry ∧ r.has s = true := by
  have listed : r.has s = true ↔ ∃ e ∈ r.executors, e.subType = s := by
    rw [Registry.has, List.contains_iff_mem, Registry.subTypes, List.mem_map]
  rw [listed]
  constructor
  · rintro ⟨shown, mem, same, origin⟩
    obtain ⟨e, registered, rfl⟩ := List.mem_map.mp mem
    refine ⟨?_, e, registered, same⟩
    cases source with
    | registry => rfl
    | legacy => exact absurd origin (by decide : Source.registry.name ≠ Source.legacy.name)
  · rintro ⟨rfl, e, registered, same⟩
    exact ⟨e.definition, List.mem_map_of_mem registered, same, rfl⟩

theorem lists_bridge_iff {b : Bridge} {source : Source} :
    (∃ shown ∈ b.definitions, shown.subType = s ∧ shown.source = source.name) ↔
      source = .legacy ∧ b.refuses s = false ∧ ∃ kind : LegacyKind, kind.subType = s := by
  have all_mem : ∀ kind : LegacyKind, kind ∈ LegacyKind.all := by rintro ⟨⟩ <;> decide
  unfold Bridge.definitions
  constructor
  · rintro ⟨shown, mem, same, origin⟩
    obtain ⟨kind, kept, rfl⟩ := List.mem_map.mp mem
    obtain ⟨-, free⟩ := List.mem_filter.mp kept
    change kind.subType = s at same
    refine ⟨?_, by simpa [same] using free, kind, same⟩
    cases source with
    | legacy => rfl
    | registry => exact absurd origin (by decide : Source.legacy.name ≠ Source.registry.name)
  · rintro ⟨rfl, free, kind, rfl⟩
    have kept : kind ∈ LegacyKind.all.filter fun kind => !b.refuses kind.subType :=
      List.mem_filter.mpr ⟨all_mem kind, by simp [free]⟩
    exact ⟨kind.definition, List.mem_map_of_mem kept, rfl, rfl⟩

theorem refuses_eq (coupled : d.Bridged) {b : Bridge} (built : d.bridge = some b) :
    b.refuses s = d.registry.has s := by
  rw [Bridge.refuses, coupled b built, Option.any_some]

/-- What listings show of all that is there, when they show anything. -/
def listing (d : Dispatch) : List NodeDefinition :=
  d.registry.executors.map Executor.definition ++ (d.bridge.map (·.definitions)).getD []

theorem definitions_eq_ok_iff {shown : List NodeDefinition} :
    d.definitions = .ok shown ↔
      (∀ e ∈ d.registry.executors, e.schemaFault? = none) ∧ shown = d.listing := by
  unfold definitions Registry.definitions listing
  cases described : d.registry.executors.mapM Executor.describe with
  | error fault =>
    refine ⟨nofun, fun ⟨all, _⟩ => ?_⟩
    cases described.symm.trans (mapM_describe_eq_ok_iff.mpr ⟨all, rfl⟩)
  | ok definitions =>
    obtain ⟨all, rfl⟩ := mapM_describe_eq_ok_iff.mp described
    simp only [Except.map, Except.ok.injEq]
    exact ⟨fun same => ⟨all, same.symm⟩, fun same => same.2.symm⟩

/-- A subtype is listed with the source where it is found. -/
theorem lists_iff (coupled : d.Bridged) (source : Source) :
    (∃ shown ∈ d.listing, shown.subType = s ∧ shown.source = source.name) ↔
      ∃ e, d.find? s = some (e, source) := by
  have splits : (∃ shown ∈ d.listing, shown.subType = s ∧ shown.source = source.name) ↔
      source = .registry ∧ d.registry.has s = true ∨
        ∃ b ∈ d.bridge, source = .legacy ∧ b.refuses s = false ∧
          ∃ kind : LegacyKind, kind.subType = s := by
    unfold listing
    simp only [List.mem_append, or_and_right, exists_or, lists_registry_iff]
    refine or_congr Iff.rfl ?_
    cases d.bridge with
    | none => simp
    | some b => simpa using lists_bridge_iff
  rw [splits]
  cases source with
  | registry =>
    simp only [find?_registry_iff, ← Option.isSome_iff_exists, ← Registry.has_eq_isSome]
    simp
  | legacy =>
    simp only [find?_legacy_iff coupled]
    constructor
    · rintro (⟨⟨⟩, -⟩ | ⟨b, built, -, free, kind, same⟩)
      rw [refuses_eq coupled built] at free
      exact ⟨kind.executor, by simp [Option.mem_def.mp built], free, kind, same, rfl⟩
    · rintro ⟨e, some_bridge, free, kind, same, -⟩
      obtain ⟨b, built⟩ := Option.isSome_iff_exists.mp some_bridge
      rw [← refuses_eq coupled built] at free
      exact .inr ⟨b, built, trivial, free, kind, same⟩

theorem listing_nodup (coupled : d.Bridged) :
    (d.listing.map NodeDefinition.subType).Nodup := by
  have registered : (d.registry.executors.map Executor.definition).map NodeDefinition.subType =
      d.registry.subTypes := by
    unfold Registry.subTypes
    rw [List.map_map]
    rfl
  unfold listing
  rw [List.map_append, registered]
  cases built : d.bridge with
  | none =>
    rw [Option.map_none, Option.getD_none, List.map_nil, List.append_nil]
    exact d.registry.distinct
  | some b =>
    have kinds : b.definitions.map NodeDefinition.subType =
        (LegacyKind.all.filter fun kind => !b.refuses kind.subType).map LegacyKind.subType := by
      unfold Bridge.definitions
      rw [List.map_map]
      rfl
    rw [Option.map_some, Option.getD_some, kinds]
    have all_distinct : (LegacyKind.all.map LegacyKind.subType).Nodup := by decide
    refine List.Nodup.append d.registry.distinct
      (all_distinct.sublist (List.filter_sublist.map _)) ?_
    intro s has served
    obtain ⟨kind, kept, rfl⟩ := List.mem_map.mp served
    have free := (List.mem_filter.mp kept).2
    rw [refuses_eq coupled built, Registry.has, List.contains_iff_mem.mpr has] at free
    cases free

end Dispatch

open Dispatch in
/-- Whatever is done to an empty registry and the bridge over it, operations that are refused change
nothing, and nothing changes any more once the registry is frozen. An operation that fails otherwise
has registered an executor that cannot be described. A subtype has for good the first executor that
was registered under it. Flows are checked and run with the same executors: the registered one, or
the one of the legacy kind if there is a bridge. Listings show something if all registered executors
can be described, and then they have the subtypes with an executor once each, with the source where
they are found, and no others. -/
theorem one_way_to_executors (history : List Operation) :
    let d := bare.afterAll history
    (∀ op env w, ∃ records,
      Exec.outcome (d.perform op) env w = (.ok (d.apply op), { w with records })) ∧
    (∀ op fault, (d.apply op).2 = .error fault → ∃ e, op = .register e ∧
      (d.after op = d ∧
          (.freeze ∈ history ∧ fault = .frozen e.subType ∨
            .freeze ∉ history ∧ d.registry.has e.subType = true ∧ fault = .duplicate e.subType) ∨
        .freeze ∉ history ∧ d.registry.has e.subType = false ∧ e.schemaFault? = some fault ∧
          (d.after op).registry.executors = d.registry.executors ++ [e])) ∧
    (.freeze ∈ history → ∀ later, (d.afterAll later).registry = d.registry) ∧
    (∀ s, d.registry.resolve? s = Operation.firstUnder s history) ∧
    (∀ s e, d.registry.resolve? s = some e →
      ∀ later, (d.afterAll later).registry.resolve? s = some e) ∧
    (∀ s, d.resolve? s = (d.find? s).map (·.1)) ∧
    (∀ s e, d.find? s = some (e, .registry) ↔ d.registry.resolve? s = some e) ∧
    (∀ s e, d.find? s = some (e, .legacy) ↔
      .bridge ∈ history ∧ d.registry.has s = false ∧
        ∃ kind : LegacyKind, kind.subType = s ∧ kind.executor = e) ∧
    ((∃ listing, d.definitions = .ok listing) ↔
      ∀ e ∈ d.registry.executors, e.schemaFault? = none) ∧
    ∀ listing, d.definitions = .ok listing →
      (listing.map NodeDefinition.subType).Nodup ∧
      ∀ s source, (∃ shown ∈ listing, shown.subType = s ∧ shown.source = source.name) ↔
        ∃ e, d.find? s = some (e, source) := by
  intro d
  have coupled : d.Bridged := bridged_afterAll (fun b built => by cases built) history
  have frozen_iff : d.registry.isFrozen = true ↔ .freeze ∈ history := by
    refine (isFrozen_afterAll bare history).trans (or_iff_right ?_)
    exact Bool.false_ne_true
  have bridge_iff : d.bridge.isSome = true ↔ .bridge ∈ history := by
    refine (isSome_bridge_afterAll bare history).trans (or_iff_right ?_)
    exact Bool.false_ne_true
  refine ⟨d.exists_outcome_perform, ?_, fun frozen => ?_, fun s => ?_, fun s e found later => ?_,
    d.resolve?_eq_map_find?, fun s e => find?_registry_iff, fun s e => ?_, ?_,
    fun listing lists => ?_⟩
  · intro op fault fails
    obtain ⟨e, rfl, why⟩ := apply_error coupled fails
    rw [← Bool.not_eq_true, frozen_iff] at why
    exact ⟨e, rfl, why⟩
  · exact registry_afterAll_of_isFrozen (frozen_iff.mpr frozen)
  · rw [resolve?_afterAll]
    rfl
  · rw [resolve?_afterAll, found, Option.some_or]
  · rw [find?_legacy_iff coupled, bridge_iff]
  · simp only [definitions_eq_ok_iff, exists_and_left, exists_eq, and_true]
  · obtain ⟨-, rfl⟩ := definitions_eq_ok_iff.mp lists
    exact ⟨listing_nodup coupled, fun s source => lists_iff coupled source⟩

-- The built-in registry has such a history.
example :
    Dispatch.bare.afterAll (builtinExecutors.map .register ++ [.freeze]) = ⟨.builtin, none⟩ := rfl

def Executor.shapeless : Executor :=
  { directMessage with subType := "SHAPELESS", schemaFault? := some (.misuse .kind "no schema") }

/-- A registration that fails may leave the executor registered. And flows that come with an empty
registry are checked and run with executors that it does not have. -/
theorem failed_registration_stays :
    (Dispatch.bare.apply (.register .shapeless)).2 = .error (.misuse .kind "no schema") ∧
    Dispatch.bare.registry.has "SHAPELESS" = false ∧
    (Dispatch.bare.after (.register .shapeless)).registry.has "SHAPELESS" = true ∧
    Registry.empty.has "DM" = false ∧
    (Dispatch.chosen (some .empty) none).find? "DM" = some (directMessage, .registry) :=
  ⟨rfl, rfl, rfl, rfl, rfl⟩

end Chatflow
