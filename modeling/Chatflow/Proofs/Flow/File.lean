import Chatflow.Cli.Command
import Chatflow.Proofs.Yaml.Reread

/-!
# Flow files in JSON

A file with a flow in JSON is read as a document. What is loaded are the nodes and the edges that
were written, unless a text among them has a code point with two units, a double is written without
a point, or a name is too long.
-/

namespace Chatflow

open Json (Datum Members)

namespace Yaml

theorem rereadEntries_eq (entries : Members) :
    rereadEntries entries = entries.map fun e => (Text.byUnits e.1, reread e.2) := by
  induction entries with
  | nil => rfl
  | cons e entries ih => rw [rereadEntries, ih, List.map_cons]

/-- What is read under a name of the first characters is what was written under it. -/
theorem get?_reread {entries : Members} (distinct : (Datum.obj entries).hasDistinctNames = true)
    {name : String} (first : ∀ c ∈ name.toList, c.toNat < 0x10000) :
    Table.get? (Table.ofPairs (rereadEntries entries)) name =
      (entries.get? (Text.points name)).map reread := by
  have own : ∀ e ∈ rereadEntries entries, e.1 = name →
      ∃ d, (Text.points name, d) ∈ entries ∧ e.2 = reread d := by
    intro e mem same
    rw [rereadEntries_eq] at mem
    obtain ⟨⟨key, d⟩, among, rfl⟩ := List.mem_map.mp mem
    obtain rfl := Text.eq_points_of_byUnits first same
    exact ⟨d, among, rfl⟩
  cases found : entries.get? (Text.points name) with
  | none =>
    have absent : name ∉ Table.names (rereadEntries entries) := fun mem => by
      obtain ⟨e, among, same⟩ := List.mem_map.mp mem
      obtain ⟨d, here, -⟩ := own e among same
      have none_found := (Table.contains_iff_get?_isSome entries (Text.points name)).mp
        (List.any_eq_true.mpr ⟨_, here, by simp⟩)
      rw [found] at none_found
      cases none_found
    rw [Table.ofPairs, Table.get?_merge_of_not_mem [] absent]
    rfl
  | some d =>
    have here := Table.mem_of_get? found
    refine Table.get?_merge_eq_some [] ?_ fun e among same => ?_
    · rw [rereadEntries_eq]
      exact List.mem_map.mpr ⟨_, here, by rw [Text.byUnits_points first]⟩
    · obtain ⟨f, there, value⟩ := own e among same
      rw [value, Table.eq_of_mem_names (nodup_of_distinct distinct) there here]

theorem everyEntry_iff {scalar : Datum → Bool} {names : List (List Text.Point) → Bool}
    (entries : Members) :
    Datum.everyEntry scalar names entries = true ↔
      ∀ e ∈ entries, e.2.every scalar names = true := by
  induction entries with
  | nil => exact ⟨fun _ => nofun, fun _ => rfl⟩
  | cons e entries ih => rw [Datum.everyEntry, Bool.and_eq_true, ih, List.forall_mem_cons]

theorem distinct_of_get? {entries : Members}
    (distinct : (Datum.obj entries).hasDistinctNames = true) {name : List Text.Point} {d : Datum}
    (found : entries.get? name = some d) : d.hasDistinctNames = true := by
  have parts := distinct
  simp only [Datum.hasDistinctNames, Datum.every, Bool.and_eq_true] at parts
  exact (everyEntry_iff entries).mp parts.2 _ (Table.mem_of_get? found)

end Yaml

/-! ### Files -/

namespace FlowFile

/-- The object that is read for the flow in a document: the one under `flow`, or else the
document. -/
def IsFlowOf (flow document : Members) : Prop :=
  document.get? (Text.points "flow") = some (.obj flow) ∨
    document.get? (Text.points "flow") = none ∧ flow = document

/-- What was loaded are these nodes and edges, code point by code point. -/
def Holds (file : FlowFile) (nodes edges : List Datum) : Prop :=
  file.nodes.datum? = some (.list nodes) ∧ file.edges.datum? = some (.list edges)

variable {document flow : Members} {nodes edges : List Datum}

theorem IsFlowOf.distinct (within : IsFlowOf flow document)
    (distinct : (Datum.obj document).hasDistinctNames = true) :
    (Datum.obj flow).hasDistinctNames = true := by
  rcases within with under | ⟨-, rfl⟩
  · exact Yaml.distinct_of_get? distinct under
  · exact distinct

theorem orElse_obj (entries : Entries Value) :
    (Value.obj entries).orElse (.obj []) = .obj entries := by
  cases entries <;> rfl

theorem orElse_list (items : List Value) : (Value.list items).orElse (.list []) = .list items := by
  cases items <;> rfl

theorem isMapping_obj (entries : Members) : isMapping (Yaml.reread (.obj entries)) = true := by
  rw [Yaml.reread]
  rfl

theorem part_reread (distinct : (Datum.obj flow).hasDistinctNames = true) {name : String}
    {items : List Datum} (first : ∀ c ∈ name.toList, c.toNat < 0x10000)
    (here : flow.get? (Text.points name) = some (.list items)) :
    part (Yaml.reread (.obj flow)) name = .list (Yaml.rereadItems items) := by
  have found : partOf? (Yaml.reread (.obj flow)) name = some (.list (Yaml.rereadItems items)) := by
    rw [Yaml.reread, partOf?, Yaml.get?_reread distinct first, here, Option.map_some, Yaml.reread]
  rw [part, found, Option.getD_some, orElse_list]

/-- The nodes and the edges that are found in what a document was read as. -/
theorem ofDocument?_reread (distinct : (Datum.obj document).hasDistinctNames = true)
    (within : IsFlowOf flow document)
    (nodes_here : flow.get? (Text.points "nodes") = some (.list nodes))
    (edges_here : flow.get? (Text.points "edges") = some (.list edges)) :
    ofDocument? (Yaml.reread (.obj document)) =
      some ⟨.list (Yaml.rereadItems nodes), .list (Yaml.rereadItems edges)⟩ := by
  have inner := within.distinct distinct
  have flow_part : partOf? (Yaml.reread (.obj document)) "flow" =
      (document.get? (Text.points "flow")).map Yaml.reread := by
    rw [Yaml.reread]
    exact Yaml.get?_reread distinct (forall_of_all (by decide))
  have whole : (Yaml.reread (.obj document)).orElse (.obj []) = Yaml.reread (.obj document) := by
    rw [Yaml.reread]
    exact orElse_obj _
  have parts :
      FlowFile.mk (part (Yaml.reread (.obj flow)) "nodes")
        (part (Yaml.reread (.obj flow)) "edges") =
        ⟨.list (Yaml.rereadItems nodes), .list (Yaml.rereadItems edges)⟩ := by
    rw [part_reread inner (forall_of_all (by decide)) nodes_here,
      part_reread inner (forall_of_all (by decide)) edges_here]
  unfold ofDocument?
  rw [whole]
  dsimp only
  rw [flow_part, ← parts, if_pos (isMapping_obj document)]
  rcases within with under | ⟨none_there, rfl⟩
  · rw [under, Option.map_some]
    dsimp only
    rw [if_pos (isMapping_obj flow)]
  · rw [none_there]
    rfl

/-- What is loaded from a file with a document in JSON. -/
theorem load?_write (files : String → Option String) (path : String)
    (text : files path = some (Datum.obj document).write)
    (distinct : (Datum.obj document).hasDistinctNames = true) (within : IsFlowOf flow document)
    (nodes_here : flow.get? (Text.points "nodes") = some (.list nodes))
    (edges_here : flow.get? (Text.points "edges") = some (.list edges)) :
    load? files path =
      if (Datum.obj document).hasShortNames then
        .ok ⟨.list (Yaml.rereadItems nodes), .list (Yaml.rereadItems edges)⟩
      else .error (.document .syntactic) := by
  rw [load?, text]
  dsimp only
  rw [ofText?, Yaml.read_write_obj]
  cases (Datum.obj document).hasShortNames with
  | true =>
    rw [if_pos rfl, if_pos rfl]
    dsimp only
    rw [ofDocument?_reread distinct within nodes_here edges_here]
  | false => rfl

/-- What is read for nodes and edges are these if and only if they are faithful. -/
theorem holds_reread_iff (nodes_distinct : (Datum.list nodes).hasDistinctNames = true)
    (edges_distinct : (Datum.list edges).hasDistinctNames = true) :
    Holds ⟨.list (Yaml.rereadItems nodes), .list (Yaml.rereadItems edges)⟩ nodes edges ↔
      Yaml.isFaithful (.list nodes) = true ∧ Yaml.isFaithful (.list edges) = true := by
  have reread : ∀ items, Yaml.reread (.list items) = .list (Yaml.rereadItems items) :=
    fun items => by
    rw [Yaml.reread]
  rw [← Yaml.datum?_reread_iff _ nodes_distinct, ← Yaml.datum?_reread_iff _ edges_distinct, reread,
    reread]
  rfl

theorem eq_of_holds {file other : FlowFile} (left : file.Holds nodes edges)
    (right : other.Holds nodes edges) : file = other := by
  obtain ⟨file_nodes, file_edges⟩ := file
  obtain ⟨other_nodes, other_edges⟩ := other
  rw [show file_nodes = other_nodes from Value.eq_of_datum? left.1 right.1,
    show file_edges = other_edges from Value.eq_of_datum? left.2 right.2]

end FlowFile

/-- What is loaded from a file with a flow in JSON: its nodes and edges as they are read again. They
are the ones that were written if and only if all names in the file are short and the nodes and
edges are faithful. Then validating the file is validating them, and a trial run of the file is a
trial run of them. -/
theorem flow_file_loads (files : String → Option String) (path : String) {document flow : Members}
    {nodes edges : List Datum} (text : files path = some (Datum.obj document).write)
    (distinct : (Datum.obj document).hasDistinctNames = true)
    (within : FlowFile.IsFlowOf flow document)
    (nodes_here : flow.get? (Text.points "nodes") = some (.list nodes))
    (edges_here : flow.get? (Text.points "edges") = some (.list edges)) :
    (FlowFile.load? files path =
      if (Datum.obj document).hasShortNames then
        .ok ⟨.list (Yaml.rereadItems nodes), .list (Yaml.rereadItems edges)⟩
      else .error (.document .syntactic)) ∧
    ((∃ file, FlowFile.load? files path = .ok file ∧ file.Holds nodes edges) ↔
      (Datum.obj document).hasShortNames = true ∧ Yaml.isFaithful (.list nodes) = true ∧
        Yaml.isFaithful (.list edges) = true) ∧
    ((Datum.obj document).hasShortNames = true → Yaml.isFaithful (.list nodes) = true →
      Yaml.isFaithful (.list edges) = true →
      ∀ vs es, FlowFile.Holds ⟨.list vs, .list es⟩ nodes edges → ∀ plan,
        Exec.validateFile files path plan =
          Exec.validateMembers (.chosen none none) none plan (.list vs) (.list es) ∧
        ∀ runId event, Exec.testRunFile files runId path event plan = do
          Exec.prepareTrial event
          Exec.runTrial runId event (.ofValues vs es) plan) := by
  have loads := FlowFile.load?_write files path text distinct within nodes_here edges_here
  have inner := within.distinct distinct
  have holds_iff := FlowFile.holds_reread_iff (Yaml.distinct_of_get? inner nodes_here)
    (Yaml.distinct_of_get? inner edges_here)
  refine ⟨loads, ?_, fun short nodes_kept edges_kept vs es holds plan => ?_⟩
  · rw [loads, ← holds_iff]
    cases (Datum.obj document).hasShortNames <;> simp
  · have same := FlowFile.eq_of_holds holds (holds_iff.mpr ⟨nodes_kept, edges_kept⟩)
    rw [short, if_pos rfl, ← same] at loads
    refine ⟨?_, fun runId event => ?_⟩
    · rw [Exec.validateFile, loads]
      rfl
    · rw [Exec.testRunFile, loads]
      rfl

def campaignNodes (campaign : Value) : List Value :=
  [.obj [("id", .str "start"), ("category", .str "trigger"), ("sub_type", .str "DM")],
    .obj [("id", .str "send"), ("category", .str "action"), ("sub_type", .str "MESSAGE"),
      ("config", .obj [("message", .str "hi"), ("campaign", campaign)])]]

def campaignEdges : List Value :=
  [.obj [("id", .str "e"), ("source", .str "start"), ("target", .str "send")]]

def campaignFlow (campaign : Value) : Entries Value :=
  [("nodes", .list (campaignNodes campaign)), ("edges", .list campaignEdges)]

def fileOf (entries : Entries Value) : String → Option String :=
  fun _ => some (Json.write .spaced (.obj entries))

/-- A number with a point and a lone half of a pair. -/
def oddCampaign : Value := .list [.float 0.5, .str (Text.carryUnit 0xD83D).toString]

/-- Values that can be written, as data. -/
def dataOf (items : List Value) : List Datum := (Value.dataOf? items).getD []

def campaignData (campaign : Value) : Members :=
  [(Text.points "nodes", .list (dataOf (campaignNodes campaign))),
    (Text.points "edges", .list (dataOf campaignEdges))]

/-- They are loaded as they are, from the flow itself and from an entry for the flow. -/
theorem campaign_file_loads :
    (FlowFile.load? (fileOf (campaignFlow oddCampaign)) "flow.json" =
        .ok ⟨.list (campaignNodes oddCampaign), .list campaignEdges⟩ ∧
      FlowFile.load? (fileOf [("flow", .obj (campaignFlow oddCampaign))]) "flow.json" =
        .ok ⟨.list (campaignNodes oddCampaign), .list campaignEdges⟩) ∧
    Exec.validateFile (fileOf (campaignFlow oddCampaign)) "flow.json" none =
      Exec.validateMembers (.chosen none none) none none (.list (campaignNodes oddCampaign))
        (.list campaignEdges) := by
  have holds : FlowFile.Holds ⟨.list (campaignNodes oddCampaign), .list campaignEdges⟩
      (dataOf (campaignNodes oddCampaign)) (dataOf campaignEdges) := ⟨rfl, rfl⟩
  have nodes_kept : Yaml.isFaithful (.list (dataOf (campaignNodes oddCampaign))) = true := by
    decide
  have edges_kept : Yaml.isFaithful (.list (dataOf campaignEdges)) = true := by decide
  have text : fileOf (campaignFlow oddCampaign) "flow.json" =
      some (Datum.obj (campaignData oddCampaign)).write := congrArg some (Json.write_of_datum? rfl)
  have wrapped_text : fileOf [("flow", .obj (campaignFlow oddCampaign))] "flow.json" =
      some (Datum.obj [(Text.points "flow", .obj (campaignData oddCampaign))]).write :=
    congrArg some (Json.write_of_datum? rfl)
  have plain := flow_file_loads _ _ text (by decide) (.inr ⟨rfl, rfl⟩) rfl rfl
  have wrapped := flow_file_loads _ _ wrapped_text (by decide) (.inl rfl) rfl rfl
  obtain ⟨file, loads, same⟩ := plain.2.1.mpr ⟨by decide, nodes_kept, edges_kept⟩
  obtain ⟨inner, inner_loads, inner_same⟩ :=
    wrapped.2.1.mpr ⟨by decide, nodes_kept, edges_kept⟩
  refine ⟨⟨?_, ?_⟩, (plain.2.2 (by decide) nodes_kept edges_kept _ _ holds none).1⟩
  · rw [loads, FlowFile.eq_of_holds same holds]
  · rw [inner_loads, FlowFile.eq_of_holds inner_same holds]

/-- A number with an exponent and without a point is loaded as a text. -/
theorem exponent_loads_as_text :
    FlowFile.load? (fileOf (campaignFlow (.float 1e16))) "flow.json" =
        .ok ⟨.list (campaignNodes (.str "1e+16")), .list campaignEdges⟩ ∧
      campaignNodes (.str "1e+16") ≠ campaignNodes (.float 1e16) := by
  have text : Json.floatText 1e16 = "1e+16" := by decide
  have number : Yaml.reread (.float 1e16) = .str "1e+16" := by
    rw [Yaml.reread, text]
    rfl
  have nodes : Yaml.rereadItems (dataOf (campaignNodes (.float 1e16))) =
      campaignNodes (.str "1e+16") := by
    rw [← number]
    rfl
  have written : fileOf (campaignFlow (.float 1e16)) "flow.json" =
      some (Datum.obj (campaignData (.float 1e16))).write :=
        congrArg some (Json.write_of_datum? rfl)
  refine ⟨?_, by simp [campaignNodes]⟩
  rw [FlowFile.load?_write _ _ written (by decide) (.inr ⟨rfl, rfl⟩) rfl rfl,
    if_pos (by decide), nodes]
  rfl

end Chatflow
