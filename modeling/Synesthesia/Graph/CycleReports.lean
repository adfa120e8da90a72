import Synesthesia.Foundation.CycleNodes
import Synesthesia.Graph.Reduction

namespace Synesthesia
namespace Graph

open Foundation Contracts Nodes Synesthesia.Runtime

/-!
# Which nodes are reported on a cycle

`_topological_order` reports the nodes that its sort cannot visit.  These are
the nodes of the cycles, and also every node that a cycle leads to: the report
is exact where cycles only lead to nodes of cycles.
-/

variable {ρ : Type} {registry : NodeRegistry ρ} {snapshot : GraphSnapshot}

/-! ## Cycles of connections -/

/-- A connection leads from the first node to the second. -/
def Feeds (connections : List ConnectionModel) (earlier later : UUID) : Prop :=
  ∃ connection ∈ connections, connection.sourceNodeId = earlier ∧
    connection.destinationNodeId = later

/-- The node lies on a directed cycle. -/
def OnCycle (connections : List ConnectionModel) (nodeId : UUID) : Prop :=
  Relation.TransGen (Feeds connections) nodeId nodeId

theorem mem_edges {connections : List ConnectionModel} {earlier later : UUID} :
    (earlier, later) ∈ edges connections ↔ Feeds connections earlier later := by
  rw [edges, List.mem_dedup, List.mem_map]
  constructor
  · rintro ⟨connection, member, same⟩
    cases same
    exact ⟨connection, member, rfl, rfl⟩
  · rintro ⟨connection, member, rfl, rfl⟩
    exact ⟨connection, member, rfl⟩

section Order

variable {nodes : List UUID} {connections : List ConnectionModel}

/-- A node on or behind a cycle is fed by another. -/
theorem BehindCycle.fed {nodeId : UUID} (behind : BehindCycle (Feeds connections) nodeId) :
    ∃ earlier, Feeds connections earlier nodeId := by
  rcases behind with ⟨first, cycle, leads⟩
  rcases Relation.ReflTransGen.cases_tail leads with rfl | ⟨earlier, _, last⟩
  · rcases Relation.TransGen.tail'_iff.mp cycle with ⟨earlier, _, last⟩
    exact ⟨earlier, last⟩
  · exact ⟨earlier, last⟩

/-- The nodes reported are those on or behind a cycle. -/
theorem mem_topologicalOrder_issues (distinct : nodes.Nodup)
    (sources : ∀ connection ∈ connections, connection.sourceNodeId ∈ nodes)
    (destinations : ∀ connection ∈ connections, connection.destinationNodeId ∈ nodes)
    {issue : ValidationIssue} :
    issue ∈ (topologicalOrder nodes connections).2 ↔
      ∃ nodeId, BehindCycle (Feeds connections) nodeId ∧ issue = cycleIssue nodeId := by
  have edgeSources : ∀ edge ∈ edges connections, edge.1 ∈ nodes := by
    rintro ⟨earlier, later⟩ member
    rcases mem_edges.mp member with ⟨connection, isConnection, rfl, _⟩
    exact sources connection isConnection
  have edgeDestinations : ∀ edge ∈ edges connections, edge.2 ∈ nodes := by
    rintro ⟨earlier, later⟩ member
    rcases mem_edges.mp member with ⟨connection, isConnection, _, rfl⟩
    exact destinations connection isConnection
  have edgesDistinct : (edges connections).Nodup := List.nodup_dedup _
  have visited := topologicalSort_visited distinct edgesDistinct edgeDestinations
  rw [topologicalSort_finishes distinct edgesDistinct edgeDestinations] at visited
  have counted : ∀ nodeId ∈ nodes, 0 < (topologicalSort nodes (edges connections)).1 nodeId ↔
      nodeId ∉ (topologicalSort nodes (edges connections)).2.2 := by
    intro nodeId isNode
    have zero := visited.zero_iff nodeId
    rw [List.append_nil] at zero
    rw [zero, Nat.pos_iff_ne_zero]
    simp [isNode]
  have leftOut : ∀ nodeId ∈ nodes, nodeId ∉ (topologicalSort nodes (edges connections)).2.2 ↔
      BehindCycle (Feeds connections) nodeId := by
    intro nodeId isNode
    rw [topologicalSort_leaves_out distinct edgesDistinct edgeSources edgeDestinations
      isNode]
    simp only [mem_edges]
  have behindNode : ∀ nodeId, BehindCycle (Feeds connections) nodeId → nodeId ∈ nodes := by
    intro nodeId behind
    rcases BehindCycle.fed behind with ⟨_, connection, isConnection, _, rfl⟩
    exact destinations connection isConnection
  rw [topologicalOrder]
  constructor
  · intro member
    dsimp only at member
    split_ifs at member with short
    · rcases List.mem_map.mp member with ⟨nodeId, isCyclic, rfl⟩
      rcases List.mem_filter.mp ((mem_sortByKey _).mp isCyclic) with ⟨isNode, positive⟩
      exact ⟨nodeId, (leftOut nodeId isNode).mp
        ((counted nodeId isNode).mp (of_decide_eq_true positive)), rfl⟩
    · cases member
  · rintro ⟨nodeId, behind, rfl⟩
    have isNode := behindNode nodeId behind
    have unvisited := (leftOut nodeId isNode).mpr behind
    have short : (topologicalSort nodes (edges connections)).2.2.length ≠ nodes.length := by
      intro same
      have inside := nodup_topologicalSort distinct edgesDistinct edgeDestinations
      have all := (List.subperm_of_subset inside.1 inside.2).perm_of_length_le (le_of_eq same.symm)
      exact unvisited (all.mem_iff.mpr isNode)
    dsimp only
    rw [if_pos short]
    refine List.mem_map_of_mem ((mem_sortByKey _).mpr (List.mem_filter.mpr ⟨isNode, ?_⟩))
    exact decide_eq_true ((counted nodeId isNode).mpr unvisited)

end Order

/-! ## The other issues -/

/-- No issue of the list reports a cycle. -/
def NoCycleCode (issues : List ValidationIssue) : Prop :=
  ∀ issue ∈ issues, issue.code ≠ "graph_cycle"

theorem noCycleCode_nil : NoCycleCode [] :=
  List.forall_mem_nil _

variable {issues : List ValidationIssue} {issue : ValidationIssue}

theorem noCycleCode_cons :
    NoCycleCode (issue :: issues) ↔ issue.code ≠ "graph_cycle" ∧ NoCycleCode issues :=
  List.forall_mem_cons

theorem noCycleCode_append {left right : List ValidationIssue} :
    NoCycleCode (left ++ right) ↔ NoCycleCode left ∧ NoCycleCode right :=
  List.forall_mem_append

theorem noCycleCode_map {Item : Type} (report : Item → ValidationIssue) (items : List Item)
    (other : ∀ item, (report item).code ≠ "graph_cycle") : NoCycleCode (items.map report) := by
  intro issue member
  rcases List.mem_map.mp member with ⟨item, _, rfl⟩
  exact other item

theorem noCycleCode_unless {isNext : Bool}
    (other : issue.code ≠ "graph_cycle") : NoCycleCode (if isNext then [] else [issue]) := by
  cases isNext with
  | true => exact noCycleCode_nil
  | false => exact noCycleCode_cons.mpr ⟨other, noCycleCode_nil⟩

theorem noCycleCode_uniqueNodes (snapshot : GraphSnapshot) :
    NoCycleCode (uniqueNodes snapshot).2 :=
  noCycleCode_append.mpr ⟨noCycleCode_map _ _ (fun _ => by simp [duplicateNode]),
    noCycleCode_map _ _ (fun _ => by simp [duplicateConnection])⟩

theorem noCycleCode_definitions : NoCycleCode (resolvedNodes registry snapshot).issues := by
  intro issue member
  rcases List.mem_flatMap.mp member with ⟨entry, _, reported⟩
  rw [definitionIssues] at reported
  cases known : registry.get? entry.2.typeId with
  | none =>
      rw [known] at reported
      rw [List.mem_singleton.mp reported]
      simp [unknownNodeType]
  | some definition =>
      rw [known] at reported
      rcases List.mem_append.mp reported with mismatch | invalid
      · split_ifs at mismatch
        · rw [List.mem_singleton.mp mismatch]
          simp [nodeVersionMismatch]
        · cases mismatch
      · exact noCycleCode_map _ _ (fun _ => by simp [invalidParameter]) issue invalid

theorem noCycleCode_connections (nodes : Dict UUID NodeModel)
    (definitions : Dict UUID (NodeExecutionContract ρ)) :
    NoCycleCode (validateConnections snapshot nodes definitions).2 := by
  intro issue member
  rcases List.mem_flatMap.mp member with ⟨connection, _, reported⟩
  rw [connectionIssues] at reported
  cases checked : checkConnection nodes definitions connection with
  | ok accepted =>
      rw [checked] at reported
      cases reported
  | error issues =>
      rw [checked] at reported
      rw [checkConnection] at checked
      split at checked
      · cases checked
        rw [List.mem_singleton.mp reported]
        simp [missingSourceNode]
      · split at checked
        · cases checked
          rw [List.mem_singleton.mp reported]
          simp [missingDestinationNode]
        · split at checked
          · split_ifs at checked
            · cases checked
              rw [List.mem_singleton.mp reported]
              simp [unknownOutputPort]
            · cases checked
              rw [List.mem_singleton.mp reported]
              simp [unknownInputPort]
          · cases checked
            cases reported

theorem noCycleCode_cardinality (connections : List ConnectionModel) :
    NoCycleCode (validateCardinality connections) :=
  noCycleCode_map _ _ (fun _ => by simp [inputCardinality])

/-- A port that is resolved is reported as in conflict or as unresolved. -/
theorem noCycleCode_resolvePort {groups next : TypeGroups} {isNext : Bool} {side : PortSide}
    {expression : PortTypeExpression} {resolved : Option PortType}
    (outcome : resolvePort groups isNext side expression = .ok (resolved, issues, next)) :
    NoCycleCode issues := by
  have variableIssues : ∀ name shape, resolveVariable groups isNext side name shape =
      .ok (resolved, issues, next) → NoCycleCode issues := by
    intro name shape settled
    rw [resolveVariable] at settled
    rcases bind_ok settled with ⟨⟨incompatible, searched⟩, _, settled⟩
    rcases bind_ok settled with ⟨⟨valueType, again⟩, _, settled⟩
    dsimp only at settled
    by_cases clash : incompatible ≠ ∅
    · rw [if_pos clash] at settled
      cases settled
      exact noCycleCode_unless (by simp [genericTypeConflict])
    · rw [if_neg clash] at settled
      cases valueType with
      | none =>
          cases settled
          exact noCycleCode_unless (by simp [unresolvedGenericType])
      | some valueType =>
          rcases bind_ok settled with ⟨shaped, _, settled⟩
          cases settled
          exact noCycleCode_nil
  cases expression with
  | port portType =>
      cases outcome
      exact noCycleCode_nil
  | typeVariable name allowed default => exact variableIssues name _ outcome
  | arrayTypeVariable name allowed => exact variableIssues name _ outcome

theorem noCycleCode_resolvePorts {isNext : PortSide → Bool}
    {ports : List (PortSide × PortTypeExpression)} {groups : TypeGroups}
    {types : List (PortSide × Option PortType)}
    (outcome : resolvePorts isNext ports groups = .ok (types, issues)) : NoCycleCode issues := by
  induction ports generalizing groups types issues with
  | nil =>
      cases outcome
      exact noCycleCode_nil
  | cons port rest ih =>
      rcases port with ⟨side, expression⟩
      rw [resolvePorts] at outcome
      rcases bind_ok outcome with ⟨⟨resolved, own, next⟩, first, outcome⟩
      rcases bind_ok outcome with ⟨⟨others, otherIssues⟩, later, outcome⟩
      cases outcome
      exact noCycleCode_append.mpr ⟨noCycleCode_resolvePort first, ih later⟩

theorem noCycleCode_types {connections : List ConnectionModel}
    {definitions : Dict UUID (NodeExecutionContract ρ)}
    {parameters : Dict UUID (Dict String ParameterValue)} {types : Dict PortSide (Option PortType)}
    (outcome : resolveTypes connections definitions parameters = .ok (types, issues)) :
    NoCycleCode issues := by
  rw [resolveTypes] at outcome
  rcases bind_ok outcome with ⟨declarations, _, outcome⟩
  rcases bind_ok outcome with ⟨groups, _, outcome⟩
  rcases bind_ok outcome with ⟨⟨entries, portIssues⟩, resolved, outcome⟩
  cases outcome
  refine noCycleCode_append.mpr ⟨noCycleCode_resolvePorts resolved, ?_⟩
  intro issue member
  rcases List.mem_filterMap.mp member with ⟨connection, _, reported⟩
  rw [compatibilityIssue] at reported
  split at reported
  · split_ifs at reported
    rw [← Option.some.inj reported]
    simp [incompatiblePortTypes]
  · cases reported

theorem noCycleCode_requiredInputs (connections : List ConnectionModel)
    (definitions : Dict UUID (NodeExecutionContract ρ))
    (parameters : Dict UUID (Dict String ParameterValue)) :
    NoCycleCode (validateRequiredInputs connections definitions parameters) := by
  intro issue member
  rcases List.mem_flatMap.mp member with ⟨entry, _, listed⟩
  rcases List.mem_filterMap.mp listed with ⟨portId, _, reported⟩
  rw [requiredInputIssue] at reported
  split at reported
  · dsimp only at reported
    split_ifs at reported
    rw [← Option.some.inj reported]
    simp [requiredFamilyMissing]
  · split_ifs at reported
    rw [← Option.some.inj reported]
    simp [requiredInputMissing]

theorem noCycleCode_clocks {definitions : Dict UUID (NodeExecutionContract ρ)}
    {connections : List ConnectionModel} (order : List UUID) (clocks : Dict UUID (Option UUID))
    (before : NoCycleCode issues) :
    NoCycleCode (analyzeClocks definitions connections order clocks issues).2 := by
  induction order generalizing clocks issues with
  | nil => exact before
  | cons nodeId rest ih =>
      rw [analyzeClocks]
      split
      · exact ih clocks before
      · split
        · exact ih _ before
        · split
          · exact ih _ before
          · exact ih _ before
          · apply ih
            exact noCycleCode_append.mpr
              ⟨before, noCycleCode_cons.mpr ⟨by simp [clockMismatch], noCycleCode_nil⟩⟩

theorem noCycleCode_roots (nodes : List UUID) (definitions : Dict UUID (NodeExecutionContract ρ))
    (connections : List ConnectionModel) (requested : Option (List UUID)) :
    NoCycleCode (resolveDemandRoots nodes definitions connections requested).2 := by
  cases requested with
  | some requested => exact noCycleCode_map _ _ (fun _ => by simp [unknownDemandRoot])
  | none =>
      rw [resolveDemandRoots]
      split
      · exact noCycleCode_nil
      · exact noCycleCode_nil

/-- An analysis reports a cycle for the nodes on or behind one. -/
theorem mem_issues_cycle {demandRoots : Option (List UUID)} {validated : Validated ρ}
    (analyzed : validateSnapshot registry snapshot demandRoots = .ok validated)
    :
    (issue ∈ validated.issues ∧ issue.code = "graph_cycle") ↔
      ∃ nodeId, BehindCycle (Feeds (validConnections registry snapshot)) nodeId ∧
        issue = cycleIssue nodeId := by
  rcases validateSnapshot_ok analyzed with ⟨typeIssues, phases⟩
  have ordered : issue ∈ (topologicalOrder validated.analysis.nodes
      validated.analysis.connections).2 ↔
        ∃ nodeId, BehindCycle (Feeds (validConnections registry snapshot)) nodeId ∧
          issue = cycleIssue nodeId := by
    rw [← phases.connections]
    exact mem_topologicalOrder_issues validated.analysis.nodes_nodup
      validated.analysis.source_mem validated.analysis.destination_mem
  rw [← ordered, phases.issues]
  simp only [List.mem_append]
  constructor
  · rintro ⟨member, code⟩
    rcases member with
      (((((((duplicate | undefined) | unconnected) | crowded) | untyped) | cyclic) |
        missing) | clock) | root
    · exact absurd code (noCycleCode_uniqueNodes snapshot issue duplicate)
    · exact absurd code (noCycleCode_definitions issue undefined)
    · exact absurd code (noCycleCode_connections _ _ issue unconnected)
    · exact absurd code (noCycleCode_cardinality _ issue crowded)
    · exact absurd code (noCycleCode_types phases.types issue untyped)
    · exact cyclic
    · exact absurd code (noCycleCode_requiredInputs _ _ _ issue missing)
    · exact absurd code (noCycleCode_clocks _ _ noCycleCode_nil issue clock)
    · exact absurd code (noCycleCode_roots _ _ _ _ issue root)
  · intro cyclic
    refine ⟨Or.inl (Or.inl (Or.inl (Or.inr cyclic))), ?_⟩
    rcases ordered.mp cyclic with ⟨nodeId, _, rfl⟩
    rfl

/-! ## Exact reports -/

/-- An analysis is exact about cycles: it reports one for a node if and only if
the node lies on one, and a node that lies on none is excluded for another
issue only, or for a port without a type. -/
structure ExactCycleReports (registry : NodeRegistry ρ) (current : GraphSnapshot)
    (validated : Validated ρ) : Prop where
  reported : ∀ nodeId,
    (∃ issue ∈ validated.issues, issue.code = "graph_cycle" ∧ issue.nodeId = some nodeId) ↔
      OnCycle (validConnections registry current) nodeId
  excluded : ∀ nodeId ∈ droppedNodes current validated,
    ¬ OnCycle (validConnections registry current) nodeId →
      (∃ issue ∈ validated.issues, issue.code ≠ "graph_cycle" ∧ issue.nodeId = some nodeId) ∨
        ∃ portId isOutput,
          validated.analysis.resolvedTypes.get? (nodeId, portId, isOutput) = some none

/-- Where a cycle leads to a node, the node lies on a cycle itself. -/
def CyclesLeadToCycles (connections : List ConnectionModel) : Prop :=
  ∀ nodeId, BehindCycle (Feeds connections) nodeId → OnCycle connections nodeId

theorem OnCycle.behindCycle {connections : List ConnectionModel} {nodeId : UUID}
    (cycle : OnCycle connections nodeId) : BehindCycle (Feeds connections) nodeId :=
  ⟨nodeId, cycle, Relation.ReflTransGen.refl⟩

section Analysis

variable {current : GraphSnapshot} {validated : Validated ρ} {demandRoots : Option (List UUID)}

/-- A node is reported when a cycle leads to it. -/
theorem reported_iff (analyzed : validateSnapshot registry current demandRoots = .ok validated)
    (nodeId : UUID) :
    (∃ issue ∈ validated.issues, issue.code = "graph_cycle" ∧ issue.nodeId = some nodeId) ↔
      BehindCycle (Feeds (validConnections registry current)) nodeId := by
  constructor
  · rintro ⟨issue, member, code, names⟩
    rcases (mem_issues_cycle analyzed).mp ⟨member, code⟩ with ⟨reported, behind, rfl⟩
    cases names
    exact behind
  · intro behind
    have reported := (mem_issues_cycle analyzed).mpr ⟨nodeId, behind, rfl⟩
    exact ⟨cycleIssue nodeId, reported.1, reported.2, rfl⟩

theorem mem_droppedNodes {nodeId : UUID} :
    nodeId ∈ droppedNodes current validated ↔
      ((∃ issue ∈ validated.issues, issue.nodeId = some nodeId) ∨
        ∃ portId isOutput,
          validated.analysis.resolvedTypes.get? (nodeId, portId, isOutput) = some none) ∧
      nodeId ∈ current.nodes.map NodeModel.id := by
  rw [droppedNodes, List.mem_filter, List.mem_append, List.mem_filterMap, List.mem_map,
    decide_eq_true_eq]
  apply and_congr_left'
  apply or_congr_right
  constructor
  · rintro ⟨⟨⟨_, portId, isOutput⟩, _⟩, member, rfl⟩
    rcases List.mem_filter.mp member with ⟨listed, unsettled⟩
    cases of_decide_eq_true unsettled
    exact ⟨portId, isOutput, Dict.get?_of_mem listed⟩
  · rintro ⟨portId, isOutput, found⟩
    exact ⟨((nodeId, portId, isOutput), none),
      List.mem_filter.mpr ⟨Dict.mem_of_get? found, decide_eq_true rfl⟩, rfl⟩

/-- One analysis is exact where cycles lead to nodes of cycles only. -/
theorem exactCycleReports_iff
    (analyzed : validateSnapshot registry current demandRoots = .ok validated) :
    ExactCycleReports registry current validated ↔
      CyclesLeadToCycles (validConnections registry current) := by
  constructor
  · intro exact nodeId behind
    exact (exact.reported nodeId).mp ((reported_iff analyzed nodeId).mpr behind)
  · intro cyclic
    refine ⟨?_, ?_⟩
    · intro nodeId
      rw [reported_iff analyzed]
      exact ⟨cyclic nodeId, OnCycle.behindCycle⟩
    · intro nodeId dropped acyclic
      rcases (mem_droppedNodes.mp dropped).1 with ⟨issue, member, names⟩ | unsettled
      · refine Or.inl ⟨issue, member, ?_, names⟩
        intro code
        exact acyclic (cyclic nodeId ((reported_iff analyzed nodeId).mp
          ⟨issue, member, code, names⟩))
      · exact Or.inr unsettled

/-- A round leaves out every node of a cycle. -/
theorem remainder_acyclic
    (analyzed : validateSnapshot registry current demandRoots = .ok validated) (nodeId : UUID) :
    ¬ BehindCycle (Feeds (validConnections registry (remainder current validated))) nodeId := by
  rintro ⟨first, cycle, _⟩
  have kept : ∀ earlier later, Feeds (validConnections registry (remainder current validated))
      earlier later → Feeds (validConnections registry current) earlier later := by
    rintro earlier later ⟨connection, member, starts, ends⟩
    exact ⟨connection, ((mem_validConnections_remainder analyzed).mp member).1, starts, ends⟩
  have behind : BehindCycle (Feeds (validConnections registry current)) first :=
    OnCycle.behindCycle (Relation.TransGen.mono kept _ _ cycle)
  rcases BehindCycle.fed (OnCycle.behindCycle cycle) with ⟨_, connection, member, _, rfl⟩
  rcases (mem_validConnections_remainder analyzed).mp member with ⟨valid, _, _, isKept⟩
  apply isKept
  rw [mem_droppedNodes]
  rcases (reported_iff analyzed _).mpr behind with ⟨issue, reported, _, names⟩
  refine ⟨Or.inl ⟨issue, reported, names⟩, ?_⟩
  exact mem_uniqueNodes_keys.mp (checkConnection_isOk.mp (mem_validConnections.mp valid).2).1.2

end Analysis

/-- All rounds of the compilation are exact about cycles if and only if, in the
document, cycles lead to nodes of cycles only. -/
theorem rounds_exact_iff {requested : Option (List UUID)} {full : Validated ρ}
    (analyzed : validateSnapshot registry snapshot requested = .ok full) :
    (∀ current validated, Round registry snapshot requested current validated →
      ExactCycleReports registry current validated) ↔
        CyclesLeadToCycles (validConnections registry snapshot) := by
  constructor
  · intro exact
    exact (exactCycleReports_iff analyzed).mp (exact snapshot full (Round.whole analyzed))
  · intro cyclic current validated round
    cases round with
    | whole analyzed => exact (exactCycleReports_iff analyzed).mpr cyclic
    | reduced round _ reduces analyzed =>
        rw [exactCycleReports_iff analyzed]
        rcases round.analyzed with ⟨_, earlier⟩
        intro nodeId behind
        rw [reducedSnapshot_some reduces] at behind
        exact absurd behind (remainder_acyclic earlier nodeId)

/-! ### A cycle of two nodes that feeds a third -/

/-- A node with two inputs that need no connection. -/
def relayNode : NodeExecutionContract Unit where
  typeId := "relay"
  implementationVersion := 1
  executionKind := .stateless
  inputs := [⟨"first", .port .float, false⟩, ⟨"second", .port .float, false⟩]
  outputs := [⟨"sum", .port .float⟩]
  parameters := []
  runtimeFactory := fun _ => .ok ()
  variadicInput := none
  cachePolicy := .auto
  handlesNoData := false
  parameterValidator := none
  sourceOutputs := none

theorem relayNode_constructed : relayNode.Constructed where
  inputs_unique := by decide
  outputs_unique := by decide
  parameters_unique := List.nodup_nil
  separate := fun _ _ _ member => absurd member List.not_mem_nil
  input_fixed := fun _ member => absurd member (Option.not_mem_none _)
  parameter_fixed := fun _ member => absurd member (Option.not_mem_none _)
  socket_typed := fun _ member => absurd member List.not_mem_nil

def relayDefinitions : Dict String (NodeExecutionContract Unit) :=
  Dict.empty.insert "relay" relayNode

theorem relayDefinitions_entries : relayDefinitions.entries = [("relay", relayNode)] := rfl

theorem relayDefinitions_keyed : Dict.Keyed NodeExecutionContract.typeId relayDefinitions := by
  intro entry member
  rw [relayDefinitions_entries, List.mem_singleton] at member
  rw [member]
  rfl

theorem relayDefinitions_constructed :
    ∀ entry ∈ relayDefinitions.entries, entry.2.Constructed := by
  intro entry member
  rw [relayDefinitions_entries, List.mem_singleton] at member
  rw [member]
  exact relayNode_constructed

def relayRegistry : NodeRegistry Unit where
  definitions := relayDefinitions
  keyed := relayDefinitions_keyed
  constructed := relayDefinitions_constructed

def relay (id : UUID) : NodeModel := ⟨id, "relay", 1, Dict.empty⟩

/-- Two nodes that feed each other. -/
def feedbackLoop : GraphSnapshot where
  documentId := 0
  revision := 0
  nodes := [relay 1, relay 2]
  connections := [⟨11, 1, "sum", 2, "first"⟩, ⟨12, 2, "sum", 1, "first"⟩]

/-- The second node of the loop feeds a third. -/
def feedbackLoopWithListener : GraphSnapshot where
  documentId := 0
  revision := 0
  nodes := [relay 1, relay 2, relay 3]
  connections := [⟨11, 1, "sum", 2, "first"⟩, ⟨12, 2, "sum", 1, "first"⟩,
    ⟨13, 2, "sum", 3, "first"⟩]

theorem exists_of_isOk {Value : Type} {outcome : Except PyError Value}
    (isOk : outcome.isOk = true) : ∃ value, outcome = .ok value := by
  cases outcome with
  | ok value => exact ⟨value, rfl⟩
  | error error => cases isOk

theorem rounds_exact_feedbackLoop :
    ∃ full, validateSnapshot relayRegistry feedbackLoop none = .ok full ∧
      ((∀ current validated, Round relayRegistry feedbackLoop none current validated →
        ExactCycleReports relayRegistry current validated) ↔
          CyclesLeadToCycles (validConnections relayRegistry feedbackLoop)) := by
  have isOk : (validateSnapshot relayRegistry feedbackLoop none).isOk = true := by decide +kernel
  rcases exists_of_isOk isOk with ⟨full, analyzed⟩
  exact ⟨full, analyzed, rounds_exact_iff analyzed⟩

/-- The third node lies on no cycle and is reported on one. -/
theorem listener_reported_on_cycle :
    ¬ ∀ (ρ : Type) (registry : NodeRegistry ρ) (snapshot current : GraphSnapshot)
      (requested : Option (List UUID)) (validated : Validated ρ),
      Round registry snapshot requested current validated →
        ExactCycleReports registry current validated := by
  intro claimed
  have isOk : (validateSnapshot relayRegistry feedbackLoopWithListener none).isOk = true := by
    decide +kernel
  rcases exists_of_isOk isOk with ⟨full, analyzed⟩
  have exact := claimed Unit relayRegistry feedbackLoopWithListener feedbackLoopWithListener none
    full (Round.whole analyzed)
  have cyclic := (exactCycleReports_iff analyzed).mp exact
  have valid : validConnections relayRegistry feedbackLoopWithListener =
      feedbackLoopWithListener.connections := by decide +kernel
  rw [valid] at cyclic
  have there : Feeds feedbackLoopWithListener.connections 1 2 :=
    ⟨⟨11, 1, "sum", 2, "first"⟩, by decide, rfl, rfl⟩
  have back : Feeds feedbackLoopWithListener.connections 2 1 :=
    ⟨⟨12, 2, "sum", 1, "first"⟩, by decide, rfl, rfl⟩
  have onward : Feeds feedbackLoopWithListener.connections 2 3 :=
    ⟨⟨13, 2, "sum", 3, "first"⟩, by decide, rfl, rfl⟩
  have returns := cyclic 3 ⟨2, (Relation.TransGen.single back).tail there,
    Relation.ReflTransGen.single onward⟩
  have silent : ∀ connection ∈ feedbackLoopWithListener.connections,
      connection.sourceNodeId ≠ 3 := by decide
  rcases Relation.TransGen.head'_iff.mp returns with ⟨_, ⟨connection, member, starts, _⟩, _⟩
  exact silent connection member starts

end Graph
end Synesthesia
