import Chatflow.Proofs.Schema.Honest
import Chatflow.Proofs.Table
import Chatflow.Proofs.Validation.Reports
import Chatflow.Proofs.Yaml.Entries
import Chatflow.Proofs.Yaml.Names

/-!
# What a file of plans allows

From the tree of a file of plans to what the plans allow: each entry in the list of a plan stands in
its limits in the normal form of what it is read as. A name is read as itself, unless it is a word
for a boolean or for nothing.
-/

namespace Chatflow

/-! ### Plans of a document -/

namespace Yaml.Node

/-- The node of a plan among plans. Of those under one name the last one counts. -/
def plan? (plans : Node) (name : String) : Option Node :=
  (plans.entries.reverse.find? fun p => PlanLimit.normalName p.1 == name).map (·.2)

def listing (root : Node) (plan : String) : List Node :=
  match ((root.at? "plans").bind (·.plan? (PlanLimit.normalName (.str plan)))).bind
    (·.at? "allowed_subtypes") with
  | some (.sequence _ items) => items
  | _ => []

def isUnquoted (text : String) : Node → Bool
  | .scalar .unspecific false written => written == text
  | _ => false

def Lists (root : Node) (plan name : String) : Prop :=
  (root.listing plan).any (isUnquoted name) = true

instance (root : Node) (plan name : String) : Decidable (root.Lists plan name) :=
  inferInstanceAs (Decidable (_ = _))

theorem eq_of_isUnquoted {n : Node} {text : String} (unquoted : isUnquoted text n = true) :
    n = .scalar .unspecific false text := by
  unfold isUnquoted at unquoted
  split at unquoted
  · rw [beq_iff_eq.mp unquoted]
  · cases unquoted

theorem exists_of_mem_listing {root entry : Node} {plan : String}
    (mem : entry ∈ root.listing plan) :
    ∃ plans limits tag items, root.at? "plans" = some plans ∧
      plans.plan? (PlanLimit.normalName (.str plan)) = some limits ∧
      limits.at? "allowed_subtypes" = some (.sequence tag items) ∧ entry ∈ items := by
  unfold listing at mem
  split at mem
  · rename_i tag items found
    obtain ⟨limits, found, allowed⟩ := Option.bind_eq_some_iff.mp found
    obtain ⟨plans, found, named⟩ := Option.bind_eq_some_iff.mp found
    exact ⟨plans, limits, tag, items, found, named, allowed, mem⟩
  · cases mem

end Yaml.Node

namespace Yaml

/-- A plan of a document has the value of its node. -/
theorem exists_value_plan {plans limits : Node} {v : Value} {name : String}
    (reads : valueOf plans = .ok v) (found : plans.plan? name = some limits) :
    ∃ u, (v.pairs.reverse.find? fun p => PlanLimit.normalName p.1 == name).map (·.2) = some u ∧
      valueOf limits = .ok u := by
  obtain ⟨p, first, rfl⟩ := Option.map_eq_some_iff.mp found
  match plans with
  | .mapping tag pairs =>
    obtain ⟨q, second, same⟩ := gives_find? (List.rel_reverse (gives_entries reads))
      (PlanLimit.normalName · == name) first
    exact ⟨q.2, by rw [second, Option.map_some], same.value⟩

theorem exists_value_of_mem {items : List Node} {values : List Value} {entry : Node}
    (reads : valuesOf items = .ok values) (mem : entry ∈ items) :
    ∃ v ∈ values, valueOf entry = .ok v := by
  induction items generalizing values with
  | nil => cases mem
  | cons first items ih =>
    rw [valuesOf] at reads
    obtain ⟨v, here, reads⟩ := bind_eq_ok.mp reads
    obtain ⟨vs, rest, reads⟩ := bind_eq_ok.mp reads
    cases reads
    rcases List.mem_cons.mp mem with rfl | later
    · exact ⟨v, List.mem_cons_self, here⟩
    · obtain ⟨u, mem, same⟩ := ih rest later
      exact ⟨u, List.mem_cons_of_mem v mem, same⟩

theorem valueOf_sequence_eq_ok {tag : Tag} {items : List Node} {v : Value}
    (reads : valueOf (.sequence tag items) = .ok v) :
    ∃ values, valuesOf items = .ok values ∧ v = .list values := by
  rw [valueOf] at reads
  split at reads
  · obtain ⟨values, here, reads⟩ := bind_eq_ok.mp reads
    cases reads
    exact ⟨values, here, rfl⟩
  · cases reads

end Yaml

/-! ### Limits of a table -/

namespace Schema

variable {α : Type} {f : Field} {reading : Reading α} {es : Entries Value} {value a : α}

theorem reading_of_orDefault {name : String} {v : Value}
    (reads : (Field.named name).orDefault value reading es = .ok a)
    (found : es.get? name = some v) :
    reading v = .ok a := by
  have there : (Field.named name).find? es = some (name, v) := by
    simp [Field.find?, Field.named, found]
  rw [Field.orDefault, there] at reads
  exact Checked.under_eq_ok reads

end Schema

namespace PlanLimit

theorem allowed_of_read {v : Value} {limit : PlanLimit} {values : List Value}
    (reads : read v = .ok limit) (found : v.at? "allowed_subtypes" = some (.list values)) :
    limit.allowed = values.map normalName := by
  unfold read Schema.Checked.andThen at reads
  split at reads
  · rename_i es entries
    obtain ⟨f, allowed, bounds, own, rfl⟩ := Schema.Checked.seq_eq_ok_iff.mp reads
    obtain ⟨_, _, nodes, -, rfl⟩ := Schema.Checked.seq_eq_ok_iff.mp bounds
    obtain ⟨_, -, rfl⟩ := Schema.Checked.map_eq_ok_iff.mp nodes
    rw [← Schema.get?_of_plainRecord entries] at found
    cases Schema.reading_of_orDefault own found
    rfl
  · cases reads

end PlanLimit

namespace PlanTable

theorem get?_of_normalEntries {v : Value} {es : Entries Value} (normal : normalEntries v = some es)
    (name : String) : es.get? name =
      (v.pairs.reverse.find? fun p => PlanLimit.normalName p.1 == name).map (·.2) := by
  have same : es = Table.ofPairs (v.pairs.map fun p => (PlanLimit.normalName p.1, p.2)) := by
    match v, normal with
    | .obj entries, normal =>
      cases normal
      rw [Value.pairs, List.map_map]
      rfl
    | .keyed entries, normal =>
      cases normal
      rfl
  rw [same, Table.get?_ofPairs, ← List.map_reverse, List.find?_map, Option.map_map]
  rfl

theorem exists_of_readLimits {entries : Entries Value} {limits : Entries PlanLimit} {name : String}
    {limit : PlanLimit} (reads : readLimits entries = .ok limits)
    (found : limits.get? name = some limit) :
    ∃ v, entries.get? name = some v ∧ PlanLimit.read v = .ok limit := by
  induction entries generalizing limits with
  | nil =>
    cases reads
    cases found
  | cons e entries ih =>
    obtain ⟨key, v⟩ := e
    obtain ⟨f, more, first, rest, rfl⟩ := Schema.Checked.seq_eq_ok_iff.mp reads
    obtain ⟨here, own, rfl⟩ := Schema.Checked.map_eq_ok_iff.mp first
    rw [Table.get?_cons] at found ⊢
    split at found
    · rename_i same
      cases found
      exact ⟨v, if_pos same, Schema.Checked.under_eq_ok own⟩
    · rename_i other
      rw [if_neg other]
      exact ih rest found

theorem plans_of_read {v plans : Value} {t : PlanTable} (reads : read v = .ok t)
    (found : v.at? "plans" = some plans) : readPlans plans = .ok t.plans := by
  unfold read Schema.Checked.andThen at reads
  split at reads
  · rename_i es entries
    obtain ⟨limits, own, rfl⟩ := Schema.Checked.map_eq_ok_iff.mp reads
    rw [← Schema.get?_of_plainRecord entries] at found
    exact Schema.reading_of_orDefault own found
  · cases reads

/-- An entry in the list of a plan stands in its limits. -/
theorem exists_value_of_listing {root entry : Yaml.Node} {document : Value} {t : PlanTable}
    {plan : String} {limit : PlanLimit} (reads : Yaml.valueOf root = .ok document)
    (loads : read document = .ok t) (known : t.get? plan = some limit)
    (listed : entry ∈ root.listing plan) :
    ∃ v, Yaml.valueOf entry = .ok v ∧ PlanLimit.normalName v ∈ limit.allowed := by
  obtain ⟨plans, limits, tag, items, found, named, allowed, mem⟩ :=
    Yaml.Node.exists_of_mem_listing listed
  obtain ⟨plansValue, standsAt, plansRead⟩ := Yaml.exists_value_at reads found
  have own := plans_of_read loads standsAt
  unfold readPlans at own
  split at own
  · rename_i es normal
    have entry := (get?_eq_some_iff.mp known).2
    obtain ⟨v, under, limitReads⟩ := exists_of_readLimits own entry
    obtain ⟨u, same, limitsRead⟩ := Yaml.exists_value_plan plansRead named
    obtain rfl : u = v := by
      rw [get?_of_normalEntries normal] at under
      exact Option.some.inj (same.symm.trans under)
    obtain ⟨w, stands, listRead⟩ := Yaml.exists_value_at limitsRead allowed
    obtain ⟨values, valuesRead, rfl⟩ := Yaml.valueOf_sequence_eq_ok listRead
    obtain ⟨x, among, value⟩ := Yaml.exists_value_of_mem valuesRead mem
    refine ⟨x, value, ?_⟩
    rw [PlanLimit.allowed_of_read limitReads stands]
    exact List.mem_map_of_mem among
  · cases own

/-- The tree of the document from which a table was loaded. -/
theorem exists_tree_of_ofText? {path text : String} {t : PlanTable}
    (loads : ofText? path text = .ok t) :
    ∃ root document, Yaml.compose text = .ok root ∧ Yaml.valueOf root = .ok document ∧
      read document = .ok t := by
  unfold ofText? at loads
  split at loads
  · cases loads
  · cases loads
  · rename_i document readsText
    obtain ⟨root, tree, value⟩ := Yaml.bind_eq_ok.mp readsText
    split at loads
    · unfold read? at loads
      cases inner : (read document).named "PlanLimits" with
      | error invalid => simp [inner, Except.mapError] at loads
      | ok t' =>
        rw [inner] at loads
        cases loads
        exact ⟨root, document, tree, value, Schema.Checked.named_eq_ok_iff.mp inner⟩
    · cases loads

end PlanTable

/-! ### Refused subtypes -/

theorem Graph.mem_of_mem_firstDeclared {n : FlowNode} {nodes : List FlowNode}
    (mem : n ∈ firstDeclared nodes) : n ∈ nodes := by
  induction nodes with
  | nil => cases mem
  | cons m rest ih =>
    rcases List.mem_cons.mp mem with rfl | later
    · exact List.mem_cons_self
    · exact List.mem_cons_of_mem m (ih (List.mem_filter.mp later).1)

namespace Validation

variable {d : Dispatch} {g : Graph} {v : Violation}

/-- A plan refuses a subtype only when a node has one that the plan does not allow. -/
theorem exists_refused {t : PlanTable} {plan : String} {starts : List String}
    (mem : v ∈ planRules (.ok t) plan g starts) (code : v.code = .subTypeNotAllowed) :
    ∃ limit, t.get? plan = some limit ∧ ∃ n ∈ g.nodes, limit.allows n.subType = false := by
  unfold planRules at mem
  dsimp only at mem
  cases found : t.get? plan with
  | none =>
    rw [found] at mem
    rw [List.mem_singleton.mp mem] at code
    cases code
  | some limit =>
    rw [found] at mem
    refine ⟨limit, rfl, ?_⟩
    by_contra allowed
    have none : refusedSubTypes limit g = [] := refusedSubTypes_eq_nil_iff.mpr fun n hn => by
      by_contra refused
      exact allowed ⟨n, hn, by simpa using refused⟩
    simp only [beyondLimits, none, List.map_nil, List.nil_append, List.mem_append] at mem
    rcases mem with mem | mem
    · split at mem
      · rw [List.mem_singleton.mp mem] at code
        cases code
      · cases mem
    · split at mem
      · rw [List.mem_singleton.mp mem] at code
        cases code
      · cases mem

/-- Only the rules of a plan refuse subtypes. -/
theorem exists_refused_of_report {t : PlanTable} {plan : String} {draft : Draft}
    (mem : v ∈ (report d (.ok t) plan draft).violations) (code : v.code = .subTypeNotAllowed) :
    ∃ limit, t.get? plan = some limit ∧
      ∃ n ∈ (readParts "node" Record.node? 0 draft.nodes).1, limit.allows n.subType = false := by
  rw [violations_report] at mem
  rcases List.mem_append.mp mem with mem | mem
  · rcases List.mem_append.mp mem with mem | mem
    · rcases List.mem_append.mp mem with mem | mem
      · rw [code_of_mem_readParts mem] at code
        cases code
      · rw [code_of_mem_readParts mem] at code
        cases code
    · have among := code_mem_of_mem_flowRules mem
      rw [code] at among
      simp [flowCodes] at among
  · obtain ⟨limit, known, n, node, refused⟩ := exists_refused mem code
    exact ⟨limit, known, n, Graph.mem_of_mem_firstDeclared node, refused⟩

end Validation

/-! ### Files of plans -/

section

variable {t : PlanTable} {plan name : String} {limit : PlanLimit}

/-- What a listed name is read as stands among the allowed subtypes. -/
theorem PlanTable.nameRead_mem_allowed {root : Yaml.Node} {document : Value}
    (value : Yaml.valueOf root = .ok document) (loads : read document = .ok t)
    (known : t.get? plan = some limit) (isName : IsName name) (lists : root.Lists plan name) :
    Yaml.nameRead name ∈ limit.allowed := by
  obtain ⟨entry, mem, unquoted⟩ := List.any_eq_true.mp lists
  obtain ⟨v, reads, allowed⟩ := exists_value_of_listing value loads known mem
  obtain ⟨u, resolves, normal⟩ := Yaml.exists_resolve_name isName
  rw [Yaml.Node.eq_of_isUnquoted unquoted] at reads
  cases resolves.symm.trans reads
  exact normal ▸ allowed

theorem PlanLimit.allows_of_nameRead_mem (isName : IsName name) (kept : name ∉ Yaml.misreadNames)
    (mem : Yaml.nameRead name ∈ limit.allowed) : limit.allows name = true := by
  rw [Yaml.nameRead_of_not_misread kept] at mem
  rw [allows, isName.upper_eq, List.contains_iff_mem.mpr mem, Bool.or_true]

end

/-- The words without quotes that a file lists under a plan are allowed, unless they are misread.
For every file of plans that is loaded, a plan of the table allows what each name that its list
shows without quotes is read as, and hence the name itself if it is no word for a boolean or for
nothing. So the plan refuses no subtype of a flow that has only listed subtypes of this kind. -/
theorem plan_allows_listed {files : String → Option String} {path : String} {t : PlanTable}
    (loads : PlanTable.ofFile? files path = .ok t) :
    ∃ text root, files (PlanTable.normalPath path) = some text ∧ Yaml.compose text = .ok root ∧
      ∀ plan limit, t.get? plan = some limit →
        (∀ name, IsName name → root.Lists plan name →
          Yaml.nameRead name ∈ limit.allowed ∧
            (name ∉ Yaml.misreadNames → limit.allows name = true)) ∧
        ∀ (d : Dispatch) (draft : Draft),
          (∀ n ∈ (Validation.readParts "node" Record.node? 0 draft.nodes).1, IsName n.subType ∧
            root.Lists plan n.subType ∧ n.subType ∉ Yaml.misreadNames) →
          ∀ v ∈ (Validation.report d (.ok t) plan draft).violations,
            v.code ≠ .subTypeNotAllowed := by
  unfold PlanTable.ofFile? at loads
  dsimp only at loads
  split at loads
  · rename_i text found
    obtain ⟨root, document, tree, value, table⟩ := PlanTable.exists_tree_of_ofText? loads
    refine ⟨text, root, found, tree, fun plan limit known => ?_⟩
    have listed : ∀ name, IsName name → root.Lists plan name →
        Yaml.nameRead name ∈ limit.allowed := fun name isName lists =>
      PlanTable.nameRead_mem_allowed value table known isName lists
    have allows : ∀ name, IsName name → root.Lists plan name → name ∉ Yaml.misreadNames →
        limit.allows name = true := fun name isName lists kept =>
      PlanLimit.allows_of_nameRead_mem isName kept (listed name isName lists)
    refine ⟨fun name isName lists => ⟨listed name isName lists, allows name isName lists⟩, ?_⟩
    intro d draft known' v mem code
    obtain ⟨limit', same, n, node, refused⟩ := Validation.exists_refused_of_report mem code
    obtain rfl := Option.some.inj (known.symm.trans same)
    obtain ⟨isName, lists, kept⟩ := known' n node
    rw [allows n.subType isName lists kept] at refused
    cases refused
  · cases loads

def tierText : String :=
  "plans:\n FREE:\n  max_nodes: 7\n  max_depth: 7\n  allowed_subtypes:\n" ++
    "   - DM\n   - YES\n   - DELAY\n"

def tierFiles : String → Option String := fun _ => some tierText

/-- A flow that leads to a node of some subtype. -/
def leadingTo (subType : String) : Flow where
  nodes := [⟨"start", .trigger, "DM", "", []⟩, ⟨"next", .action, subType, "", []⟩]
  edges := [⟨none, "start", "next", none⟩]

theorem nodes_leadingTo (subType : String) :
    (Validation.readParts "node" Record.node? 0 (Draft.ofFlow (leadingTo subType)).nodes).1 =
      (leadingTo subType).nodes := rfl

/-- The table and the tree of the file: its names are listed, and one of them is refused. -/
theorem exists_tier :
    ∃ t limit root, PlanTable.ofFile? tierFiles "plans.yaml" = .ok t ∧
      Yaml.compose tierText = .ok root ∧ t.get? "FREE" = some limit ∧
      (∀ name ∈ ["DM", "YES", "DELAY"], IsName name ∧ root.Lists "FREE" name) ∧
      limit.allows "YES" = false ∧
      ∃ v ∈ (Validation.report ⟨.builtin, none⟩ (.ok t) "FREE"
        (.ofFlow (leadingTo "YES"))).violations, v.code = .subTypeNotAllowed := by
  have passes : (PlanTable.ofFile? tierFiles "plans.yaml").toOption.any (fun t =>
      (t.get? "FREE").any fun limit => (Yaml.compose tierText).toOption.any fun root =>
        decide (∀ name ∈ ["DM", "YES", "DELAY"], IsName name ∧ root.Lists "FREE" name) &&
        !limit.allows "YES" &&
        (Validation.report ⟨.builtin, none⟩ (.ok t) "FREE"
          (.ofFlow (leadingTo "YES"))).violations.any (·.code = .subTypeNotAllowed)) = true := by
    decide +kernel
  simp only [Option.any_eq_true, Bool.and_eq_true, Bool.not_eq_true', decide_eq_true_eq,
    List.any_eq_true] at passes
  obtain ⟨t, loads, limit, known, root, tree, ⟨listed, refuses⟩, violation⟩ := passes
  refine ⟨t, limit, root, ?_, ?_, known, listed, refuses, violation⟩
  · generalize PlanTable.ofFile? tierFiles "plans.yaml" = loaded at loads
    cases loaded with
    | error fault => cases loads
    | ok t' => rw [Option.some.inj loads]
  · generalize Yaml.compose tierText = composed at tree
    cases composed with
    | error cause => cases tree
    | ok root' => rw [Option.some.inj tree]

theorem tier_allows_listed :
    ∃ t limit root, PlanTable.ofFile? tierFiles "plans.yaml" = .ok t ∧
      tierFiles (PlanTable.normalPath "plans.yaml") = some tierText ∧
      Yaml.compose tierText = .ok root ∧ t.get? "FREE" = some limit ∧
      IsName "DELAY" ∧ root.Lists "FREE" "DELAY" ∧ "DELAY" ∉ Yaml.misreadNames ∧
      limit.allows "DELAY" = true ∧
      (∀ n ∈ (leadingTo "DELAY").nodes, IsName n.subType ∧ root.Lists "FREE" n.subType ∧
        n.subType ∉ Yaml.misreadNames) ∧
      ∀ v ∈ (Validation.report ⟨.builtin, none⟩ (.ok t) "FREE"
        (.ofFlow (leadingTo "DELAY"))).violations, v.code ≠ .subTypeNotAllowed := by
  obtain ⟨t, limit, root, loads, tree, known, listed, -, -⟩ := exists_tier
  obtain ⟨text, root', found, tree', allows⟩ := plan_allows_listed loads
  obtain rfl : tierText = text := Option.some.inj found
  obtain rfl := Except.ok.inj (tree.symm.trans tree')
  obtain ⟨names, flows⟩ := allows "FREE" limit known
  obtain ⟨isName, lists⟩ := listed "DELAY" (by decide)
  have nodes : ∀ n ∈ (leadingTo "DELAY").nodes, IsName n.subType ∧ root.Lists "FREE" n.subType ∧
      n.subType ∉ Yaml.misreadNames := by
    have kept : ∀ n ∈ (leadingTo "DELAY").nodes, n.subType ∈ ["DM", "YES", "DELAY"] ∧
        n.subType ∉ Yaml.misreadNames := by
      simp [leadingTo, Yaml.misreadNames]
    intro n mem
    obtain ⟨among, kept⟩ := kept n mem
    obtain ⟨isName, lists⟩ := listed n.subType among
    exact ⟨isName, lists, kept⟩
  exact ⟨t, limit, root, loads, rfl, tree, known, isName, lists, by decide,
    (names "DELAY" isName lists).2 (by decide), nodes,
    flows ⟨.builtin, none⟩ (.ofFlow (leadingTo "DELAY")) (by rwa [nodes_leadingTo])⟩

/-- The word for the first outcome of a condition is listed, and refused all the same. -/
theorem tier_refuses_listed :
    ∃ t limit root, PlanTable.ofFile? tierFiles "plans.yaml" = .ok t ∧
      tierFiles (PlanTable.normalPath "plans.yaml") = some tierText ∧
      Yaml.compose tierText = .ok root ∧ t.get? "FREE" = some limit ∧
      IsName "YES" ∧ root.Lists "FREE" "YES" ∧ limit.allows "YES" = false ∧
      (∀ n ∈ (leadingTo "YES").nodes, IsName n.subType ∧ root.Lists "FREE" n.subType) ∧
      ∃ v ∈ (Validation.report ⟨.builtin, none⟩ (.ok t) "FREE"
        (.ofFlow (leadingTo "YES"))).violations, v.code = .subTypeNotAllowed := by
  obtain ⟨t, limit, root, loads, tree, known, listed, refuses, violation⟩ := exists_tier
  obtain ⟨isName, lists⟩ := listed "YES" (by decide)
  have nodes : ∀ n ∈ (leadingTo "YES").nodes, n.subType ∈ ["DM", "YES", "DELAY"] := by
    simp [leadingTo]
  exact ⟨t, limit, root, loads, rfl, tree, known, isName, lists, refuses,
    fun n mem => listed n.subType (nodes n mem), violation⟩

end Chatflow
