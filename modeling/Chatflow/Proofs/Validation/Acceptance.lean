import Chatflow.Proofs.Exec
import Chatflow.Proofs.Validation.WellFormed

/-!
# Acceptance of flows

Which flows the check lets pass, with the table and the name of the plan as they are found in an
environment. Where either cannot be found the check ends with a fault, and else with a report.
-/

namespace Chatflow

namespace Exec

variable {env : Env} {w : World}

/-- The name under which a plan is looked up, and the fault when it takes settings that cannot be
read. -/
def namedPlan (env : Env) (plan : Option String) : Except Fault String :=
  match plan.filter (!·.isEmpty) with
  | some plan => .ok (Settings.planName plan)
  | none => (env.settings.mapError .invalid).map fun s => Settings.planName s.defaultPlan

/-- The table that a check uses. A table that cannot be used is no fault, but settings that cannot
be read are one. -/
def tableInUse (env : Env) (table : Option PlanTable) :
    Except Fault (Except PlanTableFault PlanTable) :=
  match table with
  | some table => .ok (.ok table)
  | none =>
    match env.settings with
    | .error e => .error (.invalid e)
    | .ok _ =>
      match env.planTable with
      | .ok table => .ok (.ok table)
      | .error (.planTable cause) => .ok (.error cause)
      | .error fault => .error fault

theorem outcome_planName (plan : Option String) :
    outcome (planName plan) env w = (namedPlan env plan, w) := by
  unfold planName namedPlan
  cases plan.filter (!·.isEmpty) with
  | some plan => rfl
  | none =>
    dsimp only
    rw [outcome_bind, outcome_settings]
    cases env.settings <;> rfl

theorem outcome_usableTable (table : Option PlanTable) :
    outcome (usableTable table) env w = (tableInUse env table, w) := by
  unfold usableTable tableInUse
  cases table with
  | some table => rfl
  | none =>
    dsimp only
    have found : outcome planTable env w =
        (match env.settings with
          | .error e => .error (.invalid e)
          | .ok _ => env.planTable, w) := by
      unfold planTable
      rw [outcome_bind, outcome_settings]
      cases env.settings with
      | error e => rfl
      | ok s =>
        dsimp only [Except.mapError]
        rw [outcome_bind_ok outcome_read]
        cases env.planTable <;> rfl
    rw [outcome_bind_ok (outcome_attempt planTable), found]
    cases env.settings with
    | error e => rfl
    | ok s =>
      cases env.planTable with
      | ok table => rfl
      | error fault => cases fault <;> rfl

theorem exists_outcome_validate (d : Dispatch) {table : Option PlanTable} {plan : Option String}
    (draft : Draft) {name : String} {t : Except PlanTableFault PlanTable}
    (named : namedPlan env plan = .ok name) (used : tableInUse env table = .ok t) :
    ∃ records, outcome (validate d table plan draft) env w =
      (.ok (Validation.report d t name draft), { w with records }) := by
  unfold validate
  rw [outcome_bind_ok ((outcome_planName plan).trans (by rw [named]))]
  unfold validateFor
  rw [outcome_bind_ok ((outcome_usableTable table).trans (by rw [used]))]
  dsimp only
  generalize Validation.report d t name draft = report
  have tells : ∀ v : World, ∃ records, outcome
      (if !report.ok then do
        emit validationLogger .info "Flow rejected"
          [("plan", .str name), ("violation_codes", .texts report.codes)]
        return report
      else return report) env v = (.ok report, { v with records }) := by
    intro v
    split
    · obtain ⟨records, logged⟩ := exists_outcome_emit env v ["plan", "violation_codes"]
        (by decide) validationLogger .info "Flow rejected"
        [("plan", .str name), ("violation_codes", .texts report.codes)] rfl
      exact ⟨records, outcome_bind_ok logged _⟩
    · exact ⟨v.records, rfl⟩
  cases t with
  | ok t => exact tells w
  | error cause =>
    obtain ⟨records, logged⟩ := exists_outcome_emit env w ["plan", "error"] (by decide)
      validationLogger .error "Plan limits unavailable"
      [("plan", .str name), ("error", .str cause.message)] rfl
    dsimp only
    rw [outcome_bind_ok logged]
    exact tells _

theorem outcome_validate_of_unnamed (d : Dispatch) {table : Option PlanTable}
    {plan : Option String} (draft : Draft) {fault : Fault}
    (unnamed : namedPlan env plan = .error fault) :
    outcome (validate d table plan draft) env w = (.error fault, w) :=
  outcome_bind_error ((outcome_planName plan).trans (by rw [unnamed])) _

theorem outcome_validate_of_unusable (d : Dispatch) {table : Option PlanTable}
    {plan : Option String} (draft : Draft) {name : String} {fault : Fault}
    (named : namedPlan env plan = .ok name) (unusable : tableInUse env table = .error fault) :
    outcome (validate d table plan draft) env w = (.error fault, w) := by
  unfold validate
  rw [outcome_bind_ok ((outcome_planName plan).trans (by rw [named]))]
  exact outcome_bind_error ((outcome_usableTable table).trans (by rw [unusable])) _

/-- The check ends with a report on the plan and the table that are found, or with the fault that
one of them is not found. -/
theorem outcome_validate_cases (d : Dispatch) (table : Option PlanTable) (plan : Option String)
    (draft : Draft) (env : Env) (w : World) :
    (∃ fault, outcome (validate d table plan draft) env w = (.error fault, w) ∧
      (namedPlan env plan = .error fault ∨ tableInUse env table = .error fault)) ∨
    (∃ name t records, namedPlan env plan = .ok name ∧ tableInUse env table = .ok t ∧
      outcome (validate d table plan draft) env w =
        (.ok (Validation.report d t name draft), { w with records })) := by
  cases named : namedPlan env plan with
  | error fault => exact .inl ⟨fault, outcome_validate_of_unnamed d draft named, .inl rfl⟩
  | ok name =>
    cases used : tableInUse env table with
    | error fault => exact .inl ⟨fault, outcome_validate_of_unusable d draft named used, .inr rfl⟩
    | ok t =>
      obtain ⟨records, ends⟩ := exists_outcome_validate (w := w) d draft named used
      exact .inr ⟨name, t, records, rfl, rfl, ends⟩

theorem tableInUse_eq_ok_iff {table : Option PlanTable} {t : PlanTable} :
    tableInUse env table = .ok (.ok t) ↔
      table = some t ∨ table = none ∧ (∃ s, env.settings = .ok s) ∧ env.planTable = .ok t := by
  unfold tableInUse
  cases table with
  | some table => simp
  | none =>
    cases env.settings with
    | error e => simp
    | ok s =>
      cases env.planTable with
      | ok table => simp
      | error fault => cases fault <;> simp

theorem namedPlan_eq_ok_iff {plan : Option String} {normal : String} :
    namedPlan env plan = .ok normal ↔
      ∃ name, (plan = some name ∧ name ≠ "" ∨
        (plan = none ∨ plan = some "") ∧ ∃ s, env.settings = .ok s ∧ s.defaultPlan = name) ∧
      Settings.planName name = normal := by
  unfold namedPlan
  cases plan with
  | none => cases env.settings <;> simp [Except.map, Except.mapError]
  | some name =>
    by_cases empty : name = ""
    · have unnamed : (some "").filter (!·.isEmpty) = none := rfl
      rw [empty, unnamed]
      cases env.settings <;> simp [Except.map, Except.mapError]
    · simp [empty, Option.filter_some]

end Exec

theorem PlanTable.get?_eq_some_iff {t : PlanTable} {name : String} {limit : PlanLimit} :
    t.get? name = some limit ↔
      name ≠ "" ∧ t.plans.get? (Text.upper (Text.strip name)) = some limit := by
  unfold PlanTable.get?
  by_cases empty : name = ""
  · simp [empty]
  · simp [empty, PlanLimit.normalName, Value.display]

def Draft.Accepted (draft : Draft) (d : Dispatch) : Prop :=
  ∃ table plan env w report w',
    Exec.outcome (Exec.validate d table plan draft) env w = (.ok report, w') ∧ report.ok = true

theorem Draft.Accepted.wellFormed {draft : Draft} {d : Dispatch} {f : Flow}
    (accepted : draft.Accepted d) (reads : draft.flow? = .ok f) : f.WellFormed d := by
  obtain ⟨table, plan, env, w, report, w', ends, ok⟩ := accepted
  rcases Exec.outcome_validate_cases d table plan draft env w with
    ⟨fault, faults, -⟩ | ⟨name, used, records, -, -, reports⟩
  · cases faults.symm.trans ends
  · obtain ⟨same, -⟩ := Prod.mk.inj (reports.symm.trans ends)
    obtain rfl := Except.ok.inj same
    obtain ⟨f', reads', wellFormed, -⟩ :=
      Validation.violations_eq_nil_iff.mp (List.isEmpty_iff.mp ok)
    obtain rfl := Except.ok.inj (reads.symm.trans reads')
    exact wellFormed

theorem Draft.accepted_of_violations {draft : Draft} {d : Dispatch} {t : PlanTable} {name : String}
    (some : name ≠ "")
    (none : (Validation.report d (.ok t) (Settings.planName name) draft).violations = []) :
    draft.Accepted d := by
  have named : Exec.namedPlan (.bare "run") name = .ok (Settings.planName name) :=
    Exec.namedPlan_eq_ok_iff.mpr ⟨name, .inl ⟨rfl, some⟩, rfl⟩
  have used : Exec.tableInUse (.bare "run") t = .ok (.ok t) :=
    Exec.tableInUse_eq_ok_iff.mpr (.inl rfl)
  obtain ⟨records, reports⟩ := Exec.exists_outcome_validate (w := .bare) d draft named used
  exact ⟨t, name, _, _, _, _, reports, List.isEmpty_iff.mpr none⟩

/-- The check accepts exactly the well-formed flows that can be read and are within the limits of
their plan. The plan is the named one, or the default one without a name, and a blank name is in no
table. -/
theorem validate_ok_iff (d : Dispatch) (table : Option PlanTable) (plan : Option String)
    (draft : Draft) (env : Env) (w : World) :
    (∃ report w', Exec.outcome (Exec.validate d table plan draft) env w = (.ok report, w') ∧
      report.ok = true) ↔
    ∃ f, draft.flow? = .ok f ∧ f.WellFormed d ∧
      ∃ t name limit,
        (table = some t ∨ table = none ∧ (∃ s, env.settings = .ok s) ∧ env.planTable = .ok t) ∧
        (plan = some name ∧ name ≠ "" ∨
          (plan = none ∨ plan = some "") ∧ ∃ s, env.settings = .ok s ∧ s.defaultPlan = name) ∧
        Text.upper (Text.strip name) ≠ "" ∧
        t.plans.get? (Text.upper (Text.strip (Text.upper (Text.strip name)))) = some limit ∧
        f.Within limit := by
  constructor
  · rintro ⟨report, w', ends, ok⟩
    rcases Exec.outcome_validate_cases d table plan draft env w with
      ⟨fault, faults, -⟩ | ⟨normal, used, records, named, table, reports⟩
    · cases faults.symm.trans ends
    · obtain ⟨rfl, -⟩ : Validation.report d used normal draft = report ∧ _ := by
        simpa using reports.symm.trans ends
      obtain ⟨f, reads, wellFormed, t, limit, rfl, found, within⟩ :=
        Validation.violations_eq_nil_iff.mp (List.isEmpty_iff.mp ok)
      obtain ⟨name, given, rfl⟩ := Exec.namedPlan_eq_ok_iff.mp named
      obtain ⟨some, entry⟩ := PlanTable.get?_eq_some_iff.mp found
      exact ⟨f, reads, wellFormed, t, name, limit, Exec.tableInUse_eq_ok_iff.mp table, given, some,
        entry, within⟩
  · rintro ⟨f, reads, wellFormed, t, name, limit, table, given, some, entry, within⟩
    have named := Exec.namedPlan_eq_ok_iff.mpr ⟨name, given, rfl⟩
    have used := Exec.tableInUse_eq_ok_iff.mpr table
    obtain ⟨records, reports⟩ := Exec.exists_outcome_validate (w := w) d draft named used
    have found := PlanTable.get?_eq_some_iff.mpr ⟨some, entry⟩
    have none : (Validation.report d (.ok t) (Settings.planName name) draft).violations = [] :=
      Validation.violations_eq_nil_iff.mpr ⟨f, reads, wellFormed, t, limit, rfl, found, within⟩
    exact ⟨_, _, reports, List.isEmpty_iff.mpr none⟩

def loneTrigger : Flow := ⟨[⟨"start", .trigger, "DM", "", []⟩], []⟩

theorem wellFormed_loneTrigger : loneTrigger.WellFormed ⟨.builtin, none⟩ := by
  have resolves : (⟨.builtin, none⟩ : Dispatch).resolve? "DM" = some directMessage := rfl
  have only : ∀ n ∈ loneTrigger.nodes, ∀ e,
      (⟨.builtin, none⟩ : Dispatch).resolve? n.subType = some e → e = directMessage := by
    intro n mem e found
    obtain rfl := List.mem_singleton.mp mem
    exact Option.some.inj (found.symm.trans resolves)
  exact
    { distinct := List.nodup_singleton "start"
      connected := nofun
      started := ⟨_, List.mem_singleton_self _, rfl⟩
      resolved := by
        intro n mem
        obtain rfl := List.mem_singleton.mp mem
        exact ⟨_, resolves⟩
      configured := by
        intro n mem e found
        obtain rfl := only n mem e found
        obtain rfl := List.mem_singleton.mp mem
        rfl
      supplied := by
        intro n mem e found consumes
        obtain rfl := only n mem e found
        cases consumes
      acyclic := by
        intro t _ _ first rest cycle
        obtain ⟨_, ⟨e, mem, -⟩, _⟩ := Relation.TransGen.head'_iff.mp cycle.transGen
        cases mem
      quiet := by
        rintro path - ⟨before, p, between, q, after, -, ⟨n, mem, -, e, found, produces⟩, -⟩
        obtain rfl := only n mem e found
        cases produces }

/-- A table may hold a plan without a name, but a blank name does not find it. -/
theorem blank_plan_refused :
    ∃ limit : PlanLimit, ∃ t : PlanTable,
      t.plans.get? (Text.upper (Text.strip "  ")) = some limit ∧
      (Draft.ofFlow loneTrigger).flow? = .ok loneTrigger ∧
      loneTrigger.WellFormed ⟨.builtin, none⟩ ∧ loneTrigger.Within limit ∧
      ¬∃ report w', Exec.outcome (Exec.validate ⟨.builtin, none⟩ (some t) (some "  ")
          (.ofFlow loneTrigger)) (.bare "run") .bare = (.ok report, w') ∧ report.ok = true := by
  have blank : Settings.planName "  " = "" := by decide
  refine ⟨⟨10, 10, ["*"]⟩, ⟨[("", ⟨10, 10, ["*"]⟩)]⟩, ?_, rfl, wellFormed_loneTrigger, ?_, ?_⟩
  · change Table.get? _ (Settings.planName "  ") = _
    rw [blank]
    rfl
  · refine ⟨fun _ _ => rfl, by decide, ?_⟩
    rintro path ⟨⟨t, -, -, head⟩, chain⟩
    obtain ⟨rest, rfl⟩ := List.head?_eq_some_iff.mp head
    cases rest with
    | nil => simp
    | cons v rest =>
      obtain ⟨⟨e, mem, -⟩, -⟩ := List.isChain_cons_cons.mp chain
      cases mem
  · rintro ⟨report, w', ends, ok⟩
    have named : Exec.namedPlan (.bare "run") (some "  ") = .ok "" := by
      rw [← blank]
      rfl
    obtain ⟨records, reports⟩ := Exec.exists_outcome_validate (w := .bare) ⟨.builtin, none⟩
      (Draft.ofFlow loneTrigger) named
      (rfl : Exec.tableInUse _ (some ⟨[("", ⟨10, 10, ["*"]⟩)]⟩) = .ok (.ok _))
    obtain ⟨same, -⟩ := Prod.mk.inj (reports.symm.trans ends)
    obtain rfl := Except.ok.inj same
    obtain ⟨f, -, -, t, limit, -, found, -⟩ :=
      Validation.violations_eq_nil_iff.mp (List.isEmpty_iff.mp ok)
    exact (PlanTable.get?_eq_some_iff.mp found).1 rfl

end Chatflow
