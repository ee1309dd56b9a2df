import Chatflow.Node.Builtin
import Chatflow.Node.Legacy

/-!
# The registry of executors

Executors by subtype, in the order of their registration. A subtype is registered once, and nothing
is registered in a frozen registry.
-/

namespace Chatflow

structure Registry where
  executors : List Executor
  isFrozen : Bool
  distinct : (executors.map Executor.subType).Nodup

namespace Registry

def empty : Registry := ⟨[], false, List.nodup_nil⟩

/-- The executor of a subtype. -/
def resolve? (r : Registry) (subType : String) : Option Executor :=
  r.executors.find? (·.subType == subType)

def subTypes (r : Registry) : List String := r.executors.map Executor.subType

def has (r : Registry) (subType : String) : Bool := r.subTypes.contains subType

def size (r : Registry) : Nat := r.executors.length

/-- The descriptions of all executors, unless there is none of one of them. -/
def definitions (r : Registry) : Except Fault (List NodeDefinition) :=
  r.executors.mapM Executor.describe

theorem nodup_append_singleton {ss : List String} {s : String} (nodup : ss.Nodup) (new : s ∉ ss) :
    (ss ++ [s]).Nodup := by
  rw [List.nodup_append]
  refine ⟨nodup, by simp, ?_⟩
  intro a ha b hb eq
  rw [List.mem_singleton] at hb
  exact new (hb ▸ eq ▸ ha)

/-- Adds an executor under its subtype. A frozen registry and a subtype that is taken refuse it. -/
def insert (r : Registry) (e : Executor) : Except Fault Registry :=
  if r.isFrozen then .error (.frozen e.subType)
  else if taken : e.subType ∈ r.executors.map Executor.subType then
    .error (.duplicate e.subType)
  else
    .ok
      { r with
        executors := r.executors ++ [e]
        distinct := by
          rw [List.map_append]
          exact nodup_append_singleton r.distinct taken }

/-- Registers an executor, and then describes it. What is wrong with the description comes too late
to keep the executor out. -/
def register (r : Registry) (e : Executor) : Registry × Except Fault NodeDefinition :=
  match r.insert e with
  | .error fault => (r, .error fault)
  | .ok added => (added, e.describe)

/-- No further registrations. -/
def freeze (r : Registry) : Registry := { r with isFrozen := true }

/-- The frozen registry of all built-in executors. -/
def builtin : Registry := ⟨builtinExecutors, true, by decide⟩

end Registry

/-! ### The bridge to legacy kinds -/

/-- Serves the legacy kinds, less those that its registry serves. -/
structure Bridge where
  registry : Option Registry

namespace Bridge

/-- Whether a subtype belongs to the registry. -/
def refuses (b : Bridge) (subType : String) : Bool := b.registry.any (·.has subType)

def resolve? (b : Bridge) (subType : String) : Option Executor :=
  if b.refuses subType then none else (LegacyKind.ofSubType? subType).map LegacyKind.executor

def definitions (b : Bridge) : List NodeDefinition :=
  (LegacyKind.all.filter fun kind => !b.refuses kind.subType).map LegacyKind.definition

end Bridge

/-! ### Dispatch -/

/-- Where the executor of a subtype was found. -/
inductive Source where
  | registry
  | legacy
deriving Repr, DecidableEq

def Source.name : Source → String
  | registry => "registry"
  | legacy => "legacy"

/-- The registry, and the bridge that is asked after it. -/
structure Dispatch where
  registry : Registry
  bridge : Option Bridge

namespace Dispatch

/-- A registry with a bridge of its own. -/
def bridged (registry : Registry) : Dispatch := ⟨registry, some ⟨some registry⟩⟩

/-- The executor that runs a node, and where it was found. -/
def find? (d : Dispatch) (subType : String) : Option (Executor × Source) :=
  match d.registry.resolve? subType with
  | some e => some (e, .registry)
  | none => (d.bridge.bind (·.resolve? subType)).map (·, .legacy)

/-- The executor with which a flow is checked. -/
def resolve? (d : Dispatch) (subType : String) : Option Executor :=
  match d.registry.resolve? subType with
  | some e => some e
  | none => d.bridge.bind (·.resolve? subType)

/-- Flows are checked with the executors that run them. -/
theorem resolve?_eq_map_find? (d : Dispatch) (subType : String) :
    d.resolve? subType = (d.find? subType).map (·.1) := by
  unfold resolve? find?
  cases d.registry.resolve? subType with
  | some e => rfl
  | none => cases d.bridge.bind (·.resolve? subType) <;> rfl

theorem exists_find?_of_resolve? {d : Dispatch} {subType : String} {e : Executor}
    (resolved : d.resolve? subType = some e) : ∃ source, d.find? subType = some (e, source) := by
  rw [resolve?_eq_map_find?] at resolved
  obtain ⟨⟨_, source⟩, found, rfl⟩ := Option.map_eq_some_iff.mp resolved
  exact ⟨source, found⟩

theorem resolve?_eq_none_iff {d : Dispatch} {subType : String} :
    d.resolve? subType = none ↔ d.find? subType = none := by
  rw [resolve?_eq_map_find?, Option.map_eq_none_iff]

/-- All executors that listings show: those of the registry, and then those of the bridge. -/
def definitions (d : Dispatch) : Except Fault (List NodeDefinition) :=
  d.registry.definitions.map (· ++ (d.bridge.map (·.definitions)).getD [])

end Dispatch

namespace Exec

def registryLogger : String := "flow_engine.node_registry.registry"

def bridgeLogger : String := "flow_engine.workflow_runtime.legacy"

/-- Registers an executor and says so. -/
def register (r : Registry) (e : Executor) : Exec (Registry × Except Fault NodeDefinition) := do
  if let .ok _ := r.insert e then
    emit registryLogger .debug ("Registered node: " ++ e.subType) []
  return r.register e

/-- A registry of some executors, which are registered one after the other. -/
def registerAll (executors : List Executor) : Exec Registry :=
  executors.foldlM (fun r e => do
    let (r, described) ← register r e
    let _ ← ofExcept described
    return r) .empty

/-- Asks a bridge for a subtype. It warns when the registry serves it. -/
def resolveLegacy (b : Bridge) (subType : String) : Exec (Option Executor) := do
  if b.refuses subType then
    emit bridgeLogger .warning ("Legacy bridge refused migrated subtype: " ++ subType) []
  return b.resolve? subType

end Exec

end Chatflow
