import Chatflow.Proofs.Validation.Acceptance
import Chatflow.Session

/-!
# Reports of the check

What stands in a report. Parts that cannot be read and a table of plans that cannot be loaded are
violations, and without such parts the report is the same but for theirs (`report_eq_readable`). The
check ends with a report unless the settings cannot be read, or the file of plans that they name
writes a value that does not exist (`validate_reports`, `impossible_date_escapes`).
-/

namespace Chatflow

def Draft.readable (draft : Draft) : Draft where
  nodes := draft.nodes.filter (·.node?.isOk)
  edges := draft.edges.filter (·.edge?.isOk)

namespace Validation

variable {d : Dispatch} {g : Graph} {v : Violation}

section Parts

variable {α : Type} {noun : String} {read : Record α → Except Schema.Invalid α}

def unreadable? (noun : String) (read : Record α → Except Schema.Invalid α) :
    Record α × Nat → Option Violation
  | (r, index) =>
    match read r with
    | .ok _ => none
    | .error invalid => some (.ofFlow .invalidDefinition
        ("Invalid " ++ noun ++ " at index " ++ toString index ++ ": " ++ invalid.firstText))

def unreadable (noun : String) (read : Record α → Except Schema.Invalid α)
    (records : List (Record α)) : List Violation :=
  records.zipIdx.filterMap (unreadable? noun read)

/-- Reading the parts tells those that can be read from the others. -/
theorem readParts_eq (records : List (Record α)) (index : Nat) :
    readParts noun read index records =
      (records.filterMap fun r => (read r).toOption,
        (records.zipIdx index).filterMap (unreadable? noun read)) := by
  induction records generalizing index with
  | nil => rfl
  | cons r records ih =>
    rw [readParts, ih, List.zipIdx_cons, List.filterMap_cons, List.filterMap_cons, unreadable?]
    cases read r <;> rfl

theorem code_of_mem_readParts {records : List (Record α)} {index : Nat}
    (mem : v ∈ (readParts noun read index records).2) : v.code = .invalidDefinition := by
  rw [readParts_eq] at mem
  obtain ⟨⟨r, index⟩, -, complains⟩ := List.mem_filterMap.mp mem
  unfold unreadable? at complains
  dsimp only at complains
  split at complains
  · cases complains
  · cases complains
    rfl

theorem unreadable_filter (records : List (Record α)) :
    unreadable noun read (records.filter fun r => (read r).isOk) = [] := by
  refine List.filterMap_eq_nil_iff.mpr fun p mem => ?_
  obtain ⟨r, index⟩ := p
  have readable := (List.mem_filter.mp (List.fst_mem_of_mem_zipIdx mem)).2
  rw [unreadable?]
  cases ends : read r with
  | ok part => rfl
  | error invalid =>
    rw [ends] at readable
    cases readable

theorem parts_filter (records : List (Record α)) :
    (records.filter fun r => (read r).isOk).filterMap (fun r => (read r).toOption) =
      records.filterMap fun r => (read r).toOption := by
  rw [List.filterMap_filter]
  congr 1
  funext r
  cases read r <;> rfl

end Parts

/-- What cannot be read adds its violations to the report on the rest, and changes nothing else. -/
theorem report_eq_readable (table : Except PlanTableFault PlanTable) (plan : String)
    (draft : Draft) :
    report d table plan draft =
      { report d table plan draft.readable with
        violations := unreadable "node" Record.node? draft.nodes ++
          unreadable "edge" Record.edge? draft.edges ++
            (report d table plan draft.readable).violations } := by
  have nodes : readParts "node" Record.node? 0 draft.nodes = _ := readParts_eq draft.nodes 0
  have edges : readParts "edge" Record.edge? 0 draft.edges = _ := readParts_eq draft.edges 0
  have nodes' : readParts "node" Record.node? 0 draft.readable.nodes =
      (draft.nodes.filterMap fun r => r.node?.toOption, []) :=
    (readParts_eq _ 0).trans (Prod.ext (parts_filter draft.nodes) (unreadable_filter draft.nodes))
  have edges' : readParts "edge" Record.edge? 0 draft.readable.edges =
      (draft.edges.filterMap fun r => r.edge?.toOption, []) :=
    (readParts_eq _ 0).trans (Prod.ext (parts_filter draft.edges) (unreadable_filter draft.edges))
  simp only [report, nodes, edges, nodes', edges', unreadable, List.nil_append, List.append_assoc]

/-! ### Codes of the rules -/

theorem code_of_mem_settings (mem : v ∈ settings d g) : v.code = .missingConfig := by
  obtain ⟨⟨n, e⟩, -, either⟩ := List.mem_flatMap.mp mem
  rcases List.mem_append.mp either with invalid | lacks
  · obtain ⟨problem, -, rfl⟩ := List.mem_map.mp invalid
    rfl
  · unfold missingText at lacks
    split at lacks
    · rw [List.mem_singleton.mp lacks]
      rfl
    · cases lacks

def flowCodes : List ViolationCode :=
  [.duplicateNodeId, .danglingEdge, .noTrigger, .unknownSubType, .missingConfig, .cycleDetected,
    .handoffConflict]

theorem code_mem_of_mem_flowRules {f : Flow} (mem : v ∈ flowRules d f) : v.code ∈ flowCodes := by
  simp only [flowRules, List.mem_append] at mem
  rcases mem with (((((mem | mem) | mem) | mem) | mem) | mem) | mem
  · obtain ⟨id, -, rfl⟩ := List.mem_map.mp mem
    simp [flowCodes, Violation.ofNode]
  · obtain ⟨a, -, rfl⟩ := List.mem_map.mp mem
    simp [flowCodes]
  · unfold withoutTrigger at mem
    split at mem
    · rw [List.mem_singleton.mp mem]
      simp [flowCodes, Violation.ofFlow]
    · cases mem
  · obtain ⟨n, -, rfl⟩ := List.mem_map.mp mem
    simp [flowCodes, Violation.ofSubType]
  · rw [code_of_mem_settings mem]
    simp [flowCodes]
  · obtain ⟨a, -, rfl⟩ := List.mem_map.mp mem
    simp [flowCodes]
  · obtain ⟨clash, -, rfl⟩ := List.mem_map.mp mem
    simp [flowCodes, conflictOf]

def limitCodes : List ViolationCode :=
  [.unknownPlan, .subTypeNotAllowed, .nodeLimitExceeded, .depthLimitExceeded]

theorem code_mem_of_mem_planRules {t : PlanTable} {plan : String} {starts : List String}
    (mem : v ∈ planRules (.ok t) plan g starts) : v.code ∈ limitCodes := by
  unfold planRules at mem
  dsimp only at mem
  split at mem
  · simp only [beyondLimits, List.mem_append] at mem
    rcases mem with (mem | mem) | mem
    · obtain ⟨⟨subType, ids⟩, -, rfl⟩ := List.mem_map.mp mem
      simp [limitCodes]
    · split at mem
      · rw [List.mem_singleton.mp mem]
        simp [limitCodes, Violation.ofFlow]
      · cases mem
    · split at mem
      · rw [List.mem_singleton.mp mem]
        simp [limitCodes, Violation.ofFlow]
      · cases mem
  · rw [List.mem_singleton.mp mem]
    simp [limitCodes, Violation.ofFlow]

def unavailable (cause : PlanTableFault) : Violation :=
  .ofFlow .planLimitsUnavailable ("Plan limits could not be loaded: " ++ cause.message)

def unavailabilities : Except PlanTableFault PlanTable → List Violation
  | .ok _ => []
  | .error cause => [unavailable cause]

theorem violations_report_readable (d : Dispatch) (table : Except PlanTableFault PlanTable)
    (plan : String) (draft : Draft) :
    ∃ f starts, (report d table plan draft.readable).violations =
      flowRules d f ++ planRules table plan (Graph.ofFlow f) starts := by
  have nodes : (readParts "node" Record.node? 0 draft.readable.nodes).2 = [] := by
    rw [readParts_eq]
    exact unreadable_filter draft.nodes
  have edges : (readParts "edge" Record.edge? 0 draft.readable.edges).2 = [] := by
    rw [readParts_eq]
    exact unreadable_filter draft.edges
  exact ⟨_, _, by rw [violations_report, nodes, edges, List.nil_append, List.nil_append]⟩

theorem code_ne_of_mem_report_readable {table : Except PlanTableFault PlanTable} {plan : String}
    {draft : Draft} (mem : v ∈ (report d table plan draft.readable).violations) :
    v.code ≠ .invalidDefinition := by
  obtain ⟨f, starts, parts⟩ := violations_report_readable d table plan draft
  rw [parts] at mem
  intro code
  rcases List.mem_append.mp mem with mem | mem
  · have among := code_mem_of_mem_flowRules mem
    rw [code] at among
    simp [flowCodes] at among
  · cases table with
    | ok t =>
      have among := code_mem_of_mem_planRules mem
      rw [code] at among
      simp [limitCodes] at among
    | error cause =>
      rw [List.mem_singleton.mp mem] at code
      cases code

/-- In a report on parts that can be read, a table that cannot be loaded stands exactly once. -/
theorem filter_report_readable (d : Dispatch) (table : Except PlanTableFault PlanTable)
    (plan : String) (draft : Draft) :
    (report d table plan draft.readable).violations.filter (·.code = .planLimitsUnavailable) =
      unavailabilities table := by
  obtain ⟨f, starts, parts⟩ := violations_report_readable d table plan draft
  have rules : (flowRules d f).filter (·.code = .planLimitsUnavailable) = [] := by
    refine List.filter_eq_nil_iff.mpr fun v mem code => ?_
    have among := code_mem_of_mem_flowRules mem
    rw [of_decide_eq_true code] at among
    simp [flowCodes] at among
  rw [parts, List.filter_append, rules, List.nil_append]
  cases table with
  | error cause => rfl
  | ok t =>
    refine List.filter_eq_nil_iff.mpr fun v mem code => ?_
    have among := code_mem_of_mem_planRules mem
    rw [of_decide_eq_true code] at among
    simp [limitCodes] at among

theorem isWarning_of_mem_warnings {table : Except PlanTableFault PlanTable} {plan : String}
    {draft : Draft} (mem : v ∈ (report d table plan draft).warnings) : v.code.isWarning = true := by
  simp only [report, List.mem_append] at mem
  rcases mem with (mem | mem) | mem
  · obtain ⟨id, -, rfl⟩ := List.mem_map.mp mem
    rfl
  · unfold orphans at mem
    split at mem
    · cases mem
    · obtain ⟨n, -, rfl⟩ := List.mem_map.mp mem
      rfl
  · obtain ⟨n, -, rfl⟩ := List.mem_map.mp mem
    rfl

end Validation

/-! ### Ends of the check -/

theorem PlanTable.fault_of_ofText? {path text : String} {fault : Fault}
    (fails : ofText? path text = .error fault) :
    (∃ cause, fault = .planTable cause) ∨
      Yaml.read text = .error .impossibleValue ∧ fault = .document .impossibleValue := by
  unfold ofText? at fails
  split at fails
  · cases fails
    exact .inl ⟨_, rfl⟩
  · rename_i cause other reads
    cases fails
    cases cause with
    | syntactic => exact (other rfl).elim
    | impossibleValue => exact .inr ⟨reads, rfl⟩
  · rename_i document reads
    split at fails
    · cases table : read? document with
      | ok t =>
        rw [table] at fails
        cases fails
      | error detail =>
        rw [table] at fails
        cases fails
        exact .inl ⟨_, rfl⟩
    · cases fails
      exact .inl ⟨_, rfl⟩

namespace Surroundings

variable {s : Surroundings}

def planText? (s : Surroundings) : Option String :=
  match s.settings? with
  | .ok settings => settings.planTablePath?.bind fun path => s.files (PlanTable.normalPath path)
  | .error _ => none

/-- The file of plans writes a value that does not exist, such as a date that is in no calendar, a
time zone a day or more away, or an integer with more digits than are read. -/
def WritesImpossible (s : Surroundings) : Prop :=
  ∃ text, s.planText? = some text ∧ Yaml.read text = .error .impossibleValue

theorem fault_of_planTable? {fault : Fault} (fails : s.planTable? = .error fault) :
    (∃ invalid, s.settings? = .error invalid ∧ fault = .invalid invalid) ∨
      (∃ cause, fault = .planTable cause) ∨
        s.WritesImpossible ∧ fault = .document .impossibleValue := by
  unfold planTable? at fails
  unfold WritesImpossible planText?
  cases found : s.settings? with
  | error invalid =>
    rw [found] at fails
    cases fails
    exact .inl ⟨invalid, rfl, rfl⟩
  | ok settings =>
    rw [found] at fails
    refine .inr ?_
    dsimp only [PlanTable.configured?] at fails ⊢
    cases named : settings.planTablePath? with
    | none =>
      rw [named] at fails
      cases fails
    | some path =>
      rw [named] at fails
      dsimp only [PlanTable.ofFile?] at fails
      cases there : s.files (PlanTable.normalPath path) with
      | none =>
        rw [there] at fails
        cases fails
        exact .inl ⟨_, rfl⟩
      | some text =>
        rw [there] at fails
        exact (PlanTable.fault_of_ofText? fails).imp_right fun impossible =>
          ⟨⟨text, there, impossible.1⟩, impossible.2⟩

theorem planTable?_of_writesImpossible (impossible : s.WritesImpossible) :
    s.planTable? = .error (.document .impossibleValue) := by
  obtain ⟨text, there, reads⟩ := impossible
  unfold planText? at there
  split at there
  · rename_i settings found
    obtain ⟨path, named, there⟩ := Option.bind_eq_some_iff.mp there
    have configured : s.planTable? = PlanTable.configured? s.files settings.planTablePath? := by
      unfold planTable?
      rw [found]
    rw [configured]
    simp only [PlanTable.configured?, named, PlanTable.ofFile?, there, PlanTable.ofText?, reads]
  · cases there

def causeOf? : Except Fault PlanTable → Option PlanTableFault
  | .error (.planTable cause) => some cause
  | _ => none

/-- Why a check without a given table has none. -/
def unloaded? (s : Surroundings) (table : Option PlanTable) : Option PlanTableFault :=
  if table.isNone then causeOf? s.planTable? else none

/-- The table of plans that a check uses, unless it ends with a fault. -/
theorem tableInUse_env {sink : Log.Sink} {c : Context} {table : Option PlanTable} :
    (∃ used, Exec.tableInUse (s.env sink c) table = .ok used ∧
      ¬(table = none ∧ s.WritesImpossible) ∧
      Validation.unavailabilities used = (s.unloaded? table).toList.map Validation.unavailable) ∨
    ∃ fault, Exec.tableInUse (s.env sink c) table = .error fault ∧ table = none ∧
      ((∃ invalid, s.settings? = .error invalid ∧ fault = .invalid invalid) ∨
        s.WritesImpossible ∧ fault = .document .impossibleValue) := by
  cases table with
  | some t => exact .inl ⟨.ok t, rfl, by simp, rfl⟩
  | none =>
    dsimp only [Exec.tableInUse, env]
    cases found : s.settings? with
    | error invalid => exact .inr ⟨.invalid invalid, rfl, rfl, .inl ⟨invalid, rfl, rfl⟩⟩
    | ok settings =>
      dsimp only
      cases loads : s.planTable? with
      | ok t =>
        have same : s.unloaded? none = none := congrArg causeOf? loads
        refine .inl ⟨.ok t, rfl, fun ⟨_, impossible⟩ => ?_, by rw [same]; rfl⟩
        rw [planTable?_of_writesImpossible impossible] at loads
        cases loads
      | error fault =>
        rcases fault_of_planTable? loads with ⟨invalid, unread, -⟩ | ⟨cause, rfl⟩ |
          ⟨impossible, rfl⟩
        · rw [found] at unread
          cases unread
        · have same : s.unloaded? none = some cause := congrArg causeOf? loads
          refine .inl ⟨.error cause, rfl, fun ⟨_, impossible⟩ => ?_, by rw [same]; rfl⟩
          rw [planTable?_of_writesImpossible impossible] at loads
          cases loads
        · exact .inr ⟨_, rfl, rfl, .inr ⟨impossible, rfl⟩⟩

/-- Naming a plan fails only where the settings cannot be read. -/
theorem fault_of_namedPlan (s : Surroundings) {sink : Log.Sink} {c : Context} {plan : Option String}
    {fault : Fault} (unnamed : Exec.namedPlan (s.env sink c) plan = .error fault) :
    ∃ invalid, s.settings? = .error invalid ∧ fault = .invalid invalid := by
  unfold Exec.namedPlan at unnamed
  split at unnamed
  · cases unnamed
  · dsimp only [env] at unnamed
    cases found : s.settings? with
    | ok settings =>
      rw [found] at unnamed
      cases unnamed
    | error invalid =>
      rw [found] at unnamed
      cases unnamed
      exact ⟨invalid, rfl, rfl⟩

end Surroundings

end Chatflow
