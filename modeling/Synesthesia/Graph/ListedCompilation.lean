import Synesthesia.Graph.ListingOrder

namespace Synesthesia
namespace Graph

open Foundation Contracts Nodes TypeInput Synesthesia.Runtime

/-!
# Compilation does not depend on the listing

The phases of an analysis agree on two listings of a graph, so the reduction
excludes the same nodes and connections of both in every round, and the plan
at its end has the same nodes with the same bindings.
-/

variable {ρ : Type} {registry : NodeRegistry ρ} {rename : UUID → UUID}
  {snapshot other : GraphSnapshot}

/-! ## Types -/

/-- Two inferences settle the same types and report the same. -/
def SameTypes (rename : UUID → UUID)
    (inferred otherInferred : Dict PortSide (Option PortType) × List ValidationIssue) : Prop :=
  (∀ side, otherInferred.1.get? side = inferred.1.get? side) ∧
    SameReport rename inferred.2 otherInferred.2

theorem Relisted.renames (registry : NodeRegistry ρ) (relisted : Relisted rename snapshot other)
    (ids : DistinctIds snapshot) :
    (typeInput registry snapshot).Renames id (typeInput registry other) := by
  have same := resolvedNodes_relisted registry relisted ids
  refine ⟨Function.injective_id, ?_, fun nodeId _ => ⟨nodeId, rfl⟩, ?_, ?_, ?_⟩
  · intro nodeId
    change (resolvedNodes registry other).definitions.get? nodeId = _
    rw [same]
    rfl
  · intro nodeId
    change (resolvedNodes registry other).parameters.get? nodeId = _
    rw [same]
    rfl
  · intro original member
    exact ⟨original.renamed rename, renamed_mem_relisted registry relisted ids member,
      rfl, rfl, rfl, rfl⟩
  · intro connection member
    rcases exists_original_relisted registry relisted ids member with ⟨original, isOriginal, rfl⟩
    exact ⟨original, isOriginal, rfl, rfl, rfl, rfl⟩

theorem misfits_renamed {types otherTypes : Dict PortSide (Option PortType)}
    (same : ∀ side, otherTypes.get? side = types.get? side) (connection : ConnectionModel) :
    Misfits otherTypes (connection.renamed rename) ↔ Misfits types connection := by
  rw [Misfits, Misfits, same, same]
  rfl

theorem Relisted.types (registry : NodeRegistry ρ) (relisted : Relisted rename snapshot other)
    (ids : DistinctIds snapshot) :
    AgreeBy (SameTypes rename) (typeInput registry snapshot).run
      (typeInput registry other).run := by
  have renames := relisted.renames registry ids
  have outcome := renames.sameOutcome
  refine ⟨outcome.raises, ?_⟩
  rintro ⟨types, issues⟩ ⟨otherTypes, otherIssues⟩ ran otherRan
  have same : ∀ side, otherTypes.get? side = types.get? side := fun side =>
    outcome.types types issues otherTypes otherIssues ran otherRan side.1 side.2.1 side.2.2
  refine ⟨same, ?_⟩
  rcases TypeInput.exists_reports _ ran with ⟨facts, stated, reports⟩
  rcases TypeInput.exists_reports _ otherRan with ⟨otherFacts, otherStated, otherReports⟩
  have named := renames.facts stated otherStated
  have unnamed : ∀ {identity : IssueIdentity} {side : PortSide}
      {expression : PortTypeExpression}, ReportsPort facts side expression identity →
        identity.renamed rename = identity := by
    rintro identity side expression (⟨_, rfl⟩ | ⟨_, rfl⟩)
    · rfl
    · rfl
  have portReport : ∀ (side : PortSide) (expression : PortTypeExpression)
      (identity : IssueIdentity), ReportsPort otherFacts side expression identity ↔
        ReportsPort facts side expression identity := by
    intro side expression identity
    have conflict : InConflict otherFacts side.1 expression ↔
        InConflict facts side.1 expression := inConflict_rename renames named side.1 expression
    rw [ReportsPort, ReportsPort, conflict]
  have port : ∀ (side : PortSide) (expression : PortTypeExpression) (identity : IssueIdentity),
      ((typeInput registry other).HasPort side expression ∧
        ¬ (typeInput registry other).NextOnly side ∧
        (∀ portType, ¬ SettlesTo otherFacts side.1 expression portType) ∧
        ReportsPort otherFacts side expression identity) ↔
      ((typeInput registry snapshot).HasPort side expression ∧
        ¬ (typeInput registry snapshot).NextOnly side ∧
        (∀ portType, ¬ SettlesTo facts side.1 expression portType) ∧
        ReportsPort facts side expression identity) := by
    rintro ⟨nodeId, portId, isOutput⟩ expression identity
    refine and_congr renames.hasPort_iff (and_congr ?_ (and_congr ?_ ?_))
    · exact not_congr renames.nextOnly_iff
    · exact forall_congr' fun portType =>
        not_congr (settlesTo_rename renames named nodeId expression portType)
    · exact portReport _ expression identity
  intro identity
  dsimp only
  rw [otherReports identity]
  constructor
  · rintro (⟨side, expression, reported⟩ | ⟨connection, member, misfits, rfl⟩)
    · have here := (port side expression identity).mp reported
      rcases List.mem_map.mp ((reports identity).mpr (Or.inl ⟨side, expression, here⟩)) with
        ⟨issue, isIssue, isIdentity⟩
      exact ⟨issue, isIssue, by rw [isIdentity, unnamed here.2.2.2]⟩
    · rcases exists_original_relisted registry relisted ids member with
        ⟨original, isOriginal, rfl⟩
      have here := (reports _).mpr (Or.inr ⟨original, isOriginal,
        (misfits_renamed same original).mp misfits, rfl⟩)
      rcases List.mem_map.mp here with ⟨issue, isIssue, isIdentity⟩
      exact ⟨issue, isIssue, by rw [isIdentity]; rfl⟩
  · rintro ⟨issue, isIssue, rfl⟩
    rcases (reports _).mp (List.mem_map_of_mem isIssue) with
      ⟨side, expression, reported⟩ | ⟨original, isOriginal, misfits, isIdentity⟩
    · rw [unnamed reported.2.2.2]
      exact Or.inl ⟨side, expression, (port side expression _).mpr reported⟩
    · refine Or.inr ⟨original.renamed rename, ?_, (misfits_renamed same original).mpr misfits, ?_⟩
      · exact renamed_mem_relisted registry relisted ids isOriginal
      · rw [isIdentity]
        rfl

/-! ## Demand -/

section Demand

variable {connections others : List ConnectionModel} {nodes otherNodes : List UUID}

theorem resolveDemandRoots_renamed (sameNodes : otherNodes.Perm nodes)
    (same : others.Perm (connections.map (ConnectionModel.renamed rename)))
    {definitions otherDefinitions : Dict UUID (NodeExecutionContract ρ)}
    (sameDefinitions : otherDefinitions = definitions) (requested : Option (List UUID)) :
    (resolveDemandRoots otherNodes otherDefinitions others requested).1.Perm
        (resolveDemandRoots nodes definitions connections requested).1 ∧
      (resolveDemandRoots otherNodes otherDefinitions others requested).2 =
        (resolveDemandRoots nodes definitions connections requested).2 := by
  subst sameDefinitions
  cases requested with
  | some requested =>
      simp only [resolveDemandRoots, sameNodes.mem_iff]
      exact ⟨List.Perm.refl _, trivial⟩
  | none =>
      have sources : ∀ nodeId, nodeId ∈ others.map ConnectionModel.sourceNodeId ↔
          nodeId ∈ connections.map ConnectionModel.sourceNodeId := by
        intro nodeId
        rw [(same.map _).mem_iff, List.map_map]
        rfl
      simp only [resolveDemandRoots, sources]
      split_ifs
      · exact ⟨List.Perm.refl _, rfl⟩
      · exact ⟨sameNodes.filter _, rfl⟩

theorem mem_upstreamReachable {roots : List UUID} {nodeId : UUID} :
    nodeId ∈ upstreamReachable roots connections ↔ ∃ root ∈ roots,
      Relation.ReflTransGen (fun later earlier => earlier ∈ predecessors connections later)
        root nodeId := by
  apply mem_reachableFrom
  intro later earlier isPredecessor
  rcases mem_predecessors.mp isPredecessor with ⟨connection, member, _, isSource⟩
  exact List.mem_map.mpr ⟨connection, member, isSource⟩

theorem upstreamReachable_renamed {roots otherRoots : List UUID} (sameRoots : otherRoots.Perm roots)
    (same : others.Perm (connections.map (ConnectionModel.renamed rename))) (nodeId : UUID) :
    nodeId ∈ upstreamReachable otherRoots others ↔
      nodeId ∈ upstreamReachable roots connections := by
  rw [mem_upstreamReachable, mem_upstreamReachable]
  simp only [sameRoots.mem_iff, (predecessors_renamed same _).mem_iff]

end Demand

/-! ## One analysis -/

/-- Two analyses find the same graph and report the same. -/
structure SameAnalysis (rename : UUID → UUID) (validated otherValidated : Validated ρ) : Prop where
  nodes : otherValidated.analysis.nodes.Perm validated.analysis.nodes
  definitions : otherValidated.analysis.definitions = validated.analysis.definitions
  parameters : otherValidated.analysis.parameters = validated.analysis.parameters
  connections : otherValidated.analysis.connections.Perm
    (validated.analysis.connections.map (ConnectionModel.renamed rename))
  types : ∀ side, otherValidated.analysis.resolvedTypes.get? side =
    validated.analysis.resolvedTypes.get? side
  order : otherValidated.analysis.order = validated.analysis.order
  clocks : otherValidated.analysis.clocks = validated.analysis.clocks
  roots : otherValidated.analysis.roots.Perm validated.analysis.roots
  demanded : ∀ nodeId, nodeId ∈ otherValidated.analysis.demanded ↔
    nodeId ∈ validated.analysis.demanded
  report : SameReport rename validated.issues otherValidated.issues

theorem sameReport_of_eq {issues others : List ValidationIssue} (same : others = issues)
    (unnamed : ∀ issue ∈ issues, issue.connectionId = none) :
    SameReport rename issues others :=
  sameReport_of_perm (List.Perm.of_eq same) unnamed

theorem resolvedNodes_unnamed (snapshot : GraphSnapshot) :
    ∀ issue ∈ (resolvedNodes registry snapshot).issues, issue.connectionId = none := by
  intro issue member
  rcases List.mem_flatMap.mp member with ⟨entry, _, reported⟩
  rw [definitionIssues] at reported
  split at reported
  · rw [List.mem_singleton.mp reported]
    rfl
  · rcases List.mem_append.mp reported with version | literal
    · split_ifs at version
      · rw [List.mem_singleton.mp version]
        rfl
      · cases version
    · rcases List.mem_map.mp literal with ⟨_, _, rfl⟩
      rfl

theorem validateRequiredInputs_unnamed (connections : List ConnectionModel)
    (definitions : Dict UUID (NodeExecutionContract ρ))
    (parameters : Dict UUID (Dict String ParameterValue)) :
    ∀ issue ∈ validateRequiredInputs connections definitions parameters,
      issue.connectionId = none := by
  intro issue member
  rcases List.mem_flatMap.mp member with ⟨_, _, listed⟩
  rcases List.mem_filterMap.mp listed with ⟨_, _, reported⟩
  rw [requiredInputIssue] at reported
  split at reported
  · dsimp only at reported
    split_ifs at reported
    rw [← Option.some.inj reported]
    rfl
  · split_ifs at reported
    rw [← Option.some.inj reported]
    rfl

theorem analyzeClocks_unnamed (definitions : Dict UUID (NodeExecutionContract ρ))
    (connections : List ConnectionModel) (order : List UUID) {clocks : Dict UUID (Option UUID)}
    {issues : List ValidationIssue} (unnamed : ∀ issue ∈ issues, issue.connectionId = none) :
    ∀ issue ∈ (analyzeClocks definitions connections order clocks issues).2,
      issue.connectionId = none := by
  induction order generalizing clocks issues with
  | nil => exact unnamed
  | cons nodeId rest ih =>
      rw [analyzeClocks]
      split
      · exact ih unnamed
      · split_ifs
        · exact ih unnamed
        · split
          · exact ih unnamed
          · exact ih unnamed
          · apply ih
            intro issue member
            rcases List.mem_append.mp member with earlier | last
            · exact unnamed issue earlier
            · rw [List.mem_singleton.mp last]
              rfl

theorem resolveDemandRoots_unnamed (nodes : List UUID)
    (definitions : Dict UUID (NodeExecutionContract ρ)) (connections : List ConnectionModel)
    (requested : Option (List UUID)) :
    ∀ issue ∈ (resolveDemandRoots nodes definitions connections requested).2,
      issue.connectionId = none := by
  intro issue member
  cases requested with
  | some requested =>
      rcases List.mem_map.mp member with ⟨_, _, rfl⟩
      rfl
  | none =>
      rw [resolveDemandRoots] at member
      split_ifs at member
      · cases member
      · cases member

theorem topologicalOrder_unnamed (nodes : List UUID) (connections : List ConnectionModel) :
    ∀ issue ∈ (topologicalOrder nodes connections).2, issue.connectionId = none := by
  intro issue member
  rw [topologicalOrder] at member
  rcases topologicalSort nodes (edges connections) with ⟨count, ready, order⟩
  dsimp only at member
  split_ifs at member
  · rcases List.mem_map.mp member with ⟨_, _, rfl⟩
    rfl
  · cases member

/-- Every phase finds the same in another listing of the graph. -/
theorem validateSnapshot_relisted (relisted : Relisted rename snapshot other)
    (ids : DistinctIds snapshot) (demandRoots : Option (List UUID)) :
    AgreeBy (SameAnalysis rename) (validateSnapshot registry snapshot demandRoots)
      (validateSnapshot registry other demandRoots) := by
  have keys := relisted.keys ids
  have nodes := resolvedNodes_relisted registry relisted ids
  have connections := validConnections_relisted registry relisted ids
  have order := topologicalOrder_renamed connections keys
  have roots := resolveDemandRoots_renamed keys connections
    (congrArg ResolvedDefinitions.definitions nodes) demandRoots
  have clocks : analyzeClocks (resolvedNodes registry other).definitions
      (validConnections registry other)
      (topologicalOrder (uniqueNodes other).1.keys (validConnections registry other)).1
      Dict.empty [] = analyzeClocks (resolvedNodes registry snapshot).definitions
        (validConnections registry snapshot)
        (topologicalOrder (uniqueNodes snapshot).1.keys (validConnections registry snapshot)).1
        Dict.empty [] := by
    rw [nodes, order]
    exact analyzeClocks_renamed connections _ _ _ _
  have required : validateRequiredInputs (validConnections registry other)
      (resolvedNodes registry other).definitions (resolvedNodes registry other).parameters =
        validateRequiredInputs (validConnections registry snapshot)
          (resolvedNodes registry snapshot).definitions
          (resolvedNodes registry snapshot).parameters := by
    rw [nodes]
    exact validateRequiredInputs_renamed connections _ _
  have duplicates : SameReport rename (uniqueNodes snapshot).2 (uniqueNodes other).2 := by
    rw [ids.silent, (relisted.distinctIds ids).silent]
    exact sameReport_of_eq rfl (List.forall_mem_nil _)
  have definitions : SameReport rename _ _ :=
    sameReport_of_eq (congrArg ResolvedDefinitions.issues nodes) (resolvedNodes_unnamed _)
  have missing : SameReport rename _ _ :=
    sameReport_of_eq required (validateRequiredInputs_unnamed _ _ _)
  have cycles : SameReport rename _ _ :=
    sameReport_of_eq (congrArg Prod.snd order) (topologicalOrder_unnamed _ _)
  have mismatches : SameReport rename _ _ := sameReport_of_eq (congrArg Prod.snd clocks)
    (analyzeClocks_unnamed _ _ _ (List.forall_mem_nil _))
  have unknown : SameReport rename _ _ :=
    sameReport_of_eq roots.2 (resolveDemandRoots_unnamed _ _ _ _)
  refine AgreeBy.bind (relisted.types registry ids) ?_
  rintro ⟨types, typeIssues⟩ ⟨otherTypes, otherTypeIssues⟩ _ ⟨sameTypes, typeReport⟩
  apply agreeBy_ok
  refine ⟨keys, congrArg ResolvedDefinitions.definitions nodes,
    congrArg ResolvedDefinitions.parameters nodes, connections, sameTypes,
    congrArg Prod.fst order, congrArg Prod.fst clocks, roots.1,
    upstreamReachable_renamed roots.1 connections, ?_⟩
  exact (((((((duplicates.append definitions).append
    (connectionIssues_relisted registry relisted ids)).append
      (validateCardinality_renamed connections)).append typeReport).append cycles).append
        missing).append mismatches).append unknown

/-! ## The reduction -/

section Reduction

variable {validated otherValidated : Validated ρ}

theorem mem_droppedNodes_relisted (relisted : Relisted rename snapshot other)
    (same : SameAnalysis rename validated otherValidated) (nodeId : UUID) :
    nodeId ∈ droppedNodes other otherValidated ↔ nodeId ∈ droppedNodes snapshot validated := by
  have listed := (relisted.nodes.map NodeModel.id).mem_iff (a := nodeId)
  have reported := same.report.nodeIds nodeId
  rw [List.mem_filterMap, List.mem_filterMap] at reported
  rw [mem_droppedNodes_iff, mem_droppedNodes_iff, EndExcluded, EndExcluded, NodeExcluded,
    NodeExcluded, listed, reported]
  have unsettled : ∀ types otherTypes : Dict PortSide (Option PortType),
      (∀ side, otherTypes.get? side = types.get? side) →
      (∃ entry ∈ types.entries, entry.1.1 = nodeId ∧ entry.2 = none) →
        ∃ entry ∈ otherTypes.entries, entry.1.1 = nodeId ∧ entry.2 = none := by
    rintro types otherTypes agree ⟨⟨side, settled⟩, member, located, rfl⟩
    refine ⟨(side, none), Dict.mem_of_get? ?_, located, rfl⟩
    rw [agree]
    exact Dict.get?_of_mem member
  refine and_congr_right' (or_congr_right ⟨?_, ?_⟩)
  · exact unsettled _ _ fun side => (same.types side).symm
  · exact unsettled _ _ same.types

/-- What an analysis leaves of a graph does not depend on the listing. -/
theorem remainder_relisted (relisted : Relisted rename snapshot other)
    (same : SameAnalysis rename validated otherValidated) :
    Relisted rename (remainder snapshot validated) (remainder other otherValidated) := by
  have dropped := mem_droppedNodes_relisted relisted same
  refine ⟨relisted.injective, ?_, ?_⟩
  · refine (relisted.nodes.filter _).trans (List.Perm.of_eq ?_)
    simp only [dropped]
    rfl
  · refine (relisted.connections.filter _).trans (List.Perm.of_eq ?_)
    rw [List.filter_map]
    refine congrArg (List.map _) (List.filter_congr fun connection _ => ?_)
    have kept := same.report.connectionIds relisted.injective connection.id
    rw [Function.comp_apply, decide_eq_decide, dropped, dropped]
    exact and_congr_left' (not_congr kept)

theorem DistinctIds.remainder (ids : DistinctIds snapshot) (validated : Validated ρ) :
    DistinctIds (remainder snapshot validated) :=
  ⟨ids.nodes.sublist (List.filter_sublist.map _),
    ids.connections.sublist (List.filter_sublist.map _)⟩

theorem reducedSnapshot_relisted (relisted : Relisted rename snapshot other)
    (same : SameAnalysis rename validated otherValidated) :
    (reducedSnapshot snapshot validated = none ∧ reducedSnapshot other otherValidated = none) ∨
      reducedSnapshot snapshot validated = some (remainder snapshot validated) ∧
      reducedSnapshot other otherValidated = some (remainder other otherValidated) := by
  have left := remainder_relisted relisted same
  have nodes := left.nodes.length_eq
  have connections := left.connections.length_eq.trans (List.length_map _)
  have allNodes := relisted.nodes.length_eq
  have allConnections := relisted.connections.length_eq.trans (List.length_map _)
  by_cases stuck : (remainder snapshot validated).nodes.length = snapshot.nodes.length ∧
      (remainder snapshot validated).connections.length = snapshot.connections.length
  · refine Or.inl ⟨if_pos stuck, if_pos ?_⟩
    exact ⟨nodes.trans (stuck.1.trans allNodes.symm),
      connections.trans (stuck.2.trans allConnections.symm)⟩
  · refine Or.inr ⟨if_neg stuck, if_neg ?_⟩
    rintro ⟨otherNodes, otherConnections⟩
    exact stuck ⟨nodes.symm.trans (otherNodes.trans allNodes),
      connections.symm.trans (otherConnections.trans allConnections)⟩

theorem survivingRoots_relisted (relisted : Relisted rename snapshot other)
    (requested : Option (List UUID)) :
    survivingRoots requested other = survivingRoots requested snapshot := by
  rw [survivingRoots, survivingRoots]
  simp only [(relisted.nodes.map NodeModel.id).mem_iff]

end Reduction

/-! ## Plans -/

section Plans

variable {connections others : List ConnectionModel}
  {types otherTypes : Dict (UUID × String × Bool) (Option PortType)}

theorem settledType_congr (agree : ∀ side, otherTypes.get? side = types.get? side) (nodeId : UUID)
    (portId : String) (isOutput : Bool) :
    settledType otherTypes nodeId portId isOutput = settledType types nodeId portId isOutput := by
  rw [settledType, settledType, agree]

theorem portTypesOf_congr (agree : ∀ side, otherTypes.get? side = types.get? side) (nodeId : UUID)
    (isOutput : Bool) (ports : List String) (recorded : Dict String PortType) :
    portTypesOf otherTypes nodeId isOutput ports recorded =
      portTypesOf types nodeId isOutput ports recorded := by
  induction ports generalizing recorded with
  | nil => rfl
  | cons portId rest ih =>
      rw [portTypesOf, portTypesOf, settledType_congr agree]
      simp only [ih]

theorem inputBindingsOf_renamed (agree : ∀ side, otherTypes.get? side = types.get? side)
    {incoming otherIncoming : Dict String ConnectionModel} (nodeId : UUID)
    (found : ∀ portId, otherIncoming.get? portId =
      (incoming.get? portId).map (ConnectionModel.renamed rename))
    (sockets : List String) (bindings : Dict String InputBinding) :
    inputBindingsOf otherTypes nodeId otherIncoming sockets bindings =
      inputBindingsOf types nodeId incoming sockets bindings := by
  induction sockets generalizing bindings with
  | nil => rfl
  | cons portId rest ih =>
      rw [inputBindingsOf, inputBindingsOf, found]
      cases incoming.get? portId with
      | none => exact ih bindings
      | some connection =>
          simp only [Option.map_some, renamed_sourceNodeId, renamed_sourcePortId,
            settledType_congr agree, ih]

variable (same : others.Perm (connections.map (ConnectionModel.renamed rename)))

include same

theorem inputSocketIds_renamed
    (definition : NodeExecutionContract ρ) (nodeId : UUID) :
    inputSocketIds definition (incomingConnections others nodeId).keys =
      inputSocketIds definition (incomingConnections connections nodeId).keys := by
  have keys : (incomingConnections others nodeId).keys.Perm
      (incomingConnections connections nodeId).keys := by
    refine (List.perm_ext_iff_of_nodup (Dict.keys_nodup _) (Dict.keys_nodup _)).mpr ?_
    intro portId
    rw [mem_keys_incomingConnections, mem_keys_incomingConnections]
    constructor
    · rintro ⟨connection, member, located⟩
      rcases List.mem_map.mp (same.mem_iff.mp member) with ⟨original, isOriginal, rfl⟩
      exact ⟨original, isOriginal, located⟩
    · rintro ⟨original, isOriginal, located⟩
      exact ⟨original.renamed rename, same.mem_iff.mpr (List.mem_map_of_mem isOriginal), located⟩
  rw [inputSocketIds, inputSocketIds, inputPorts_perm keys]

variable (single : ∀ left ∈ connections, ∀ right ∈ connections,
    left.target = right.target → left = right)

include single

/-- The occupant of an input is the renamed one. -/
theorem get?_incomingConnections_renamed (nodeId : UUID) (portId : String) :
    (incomingConnections others nodeId).get? portId =
      ((incomingConnections connections nodeId).get? portId).map
        (ConnectionModel.renamed rename) := by
  cases found : (incomingConnections connections nodeId).get? portId with
  | none =>
      rw [Dict.get?_eq_none, mem_keys_incomingConnections] at found
      rw [Option.map_none, Dict.get?_eq_none, mem_keys_incomingConnections]
      rintro ⟨connection, member, atNode, atPort⟩
      rcases List.mem_map.mp (same.mem_iff.mp member) with ⟨original, isOriginal, rfl⟩
      exact found ⟨original, isOriginal, atNode, atPort⟩
  | some connection =>
      rcases incomingConnections_sound found with ⟨member, rfl, rfl⟩
      have present : connection.destinationPortId ∈
          (incomingConnections others connection.destinationNodeId).keys :=
        mem_keys_incomingConnections.mpr ⟨connection.renamed rename,
          same.mem_iff.mpr (List.mem_map_of_mem member), rfl, rfl⟩
      rcases Option.isSome_iff_exists.mp ((Dict.get?_isSome _ _).mpr present) with
        ⟨occupant, isOccupant⟩
      rcases incomingConnections_sound isOccupant with ⟨isOther, atNode, atPort⟩
      rcases List.mem_map.mp (same.mem_iff.mp isOther) with ⟨original, isOriginal, rfl⟩
      have sameTarget : original.target = connection.target :=
        Prod.ext atNode atPort
      rw [isOccupant, single original isOriginal connection member sameTarget, Option.map_some]

theorem compileNode_renamed
    (agree : ∀ side, otherTypes.get? side = types.get? side) (nodeId : UUID)
    (definition : NodeExecutionContract ρ) (parameters : Dict String ParameterValue)
    (clockId : Option UUID) (isDemanded : Bool) :
    compileNode nodeId definition parameters others otherTypes clockId isDemanded =
      compileNode nodeId definition parameters connections types clockId isDemanded := by
  rw [compileNode, compileNode]
  simp only [inputSocketIds_renamed same, portTypesOf_congr agree,
    inputBindingsOf_renamed agree nodeId (get?_incomingConnections_renamed same single nodeId)]

omit same single

/-- The plans have the same nodes and the same demand roots. -/
structure SamePlan (plan other : ExecutionPlan ρ) : Prop where
  nodes : other.nodes = plan.nodes
  demandRoots : other.demandRoots.Perm plan.demandRoots

variable {validated otherValidated : Validated ρ} {demandRoots : Option (List UUID)}
  {current : GraphSnapshot}

theorem compileNodes_relisted (valid : ValidAnalysis registry current demandRoots validated)
    (same : SameAnalysis rename validated otherValidated) (order : List UUID) :
    compileNodes otherValidated.analysis order = compileNodes validated.analysis order := by
  have single : ∀ left ∈ validated.analysis.connections,
      ∀ right ∈ validated.analysis.connections, left.target = right.target → left = right :=
    fun _ isLeft _ isRight target => valid.phases.only_occupant isLeft isRight target
  induction order with
  | nil => rfl
  | cons nodeId rest ih =>
      rw [compileNodes, compileNodes, same.definitions, same.parameters, same.clocks,
        ih]
      simp only [compileNode_renamed same.connections single same.types, same.demanded]

/-- The plans of two valid analyses of the same graph are the same. -/
theorem planOf_relisted (snapshot other : GraphSnapshot)
    (valid : ValidAnalysis registry current demandRoots validated)
    (same : SameAnalysis rename validated otherValidated) :
    AgreeBy SamePlan (planOf snapshot validated) (planOf other otherValidated) := by
  have compiled := compileNodes_relisted valid same validated.analysis.order
  rw [planOf, planOf, buildPlan, buildPlan, same.order, compiled]
  refine AgreeBy.bind (agreeBy_refl _) ?_
  rintro nodes _ _ rfl
  exact agreeBy_ok ⟨rfl, same.roots⟩

/-- Either both compilations end without a plan, or with the same one. -/
def SamePlans (plan otherPlan : Option (ExecutionPlan ρ)) : Prop :=
  Option.Rel SamePlan plan otherPlan

theorem planIfValid_relisted (snapshot other : GraphSnapshot)
    (analyzed : validateSnapshot registry current demandRoots = .ok validated)
    (same : SameAnalysis rename validated otherValidated) :
    AgreeBy SamePlans (planIfValid snapshot validated) (planIfValid other otherValidated) := by
  by_cases silent : validated.issues = []
  · rw [planIfValid_of_sound silent, planIfValid_of_sound (same.report.eq_nil_iff.mpr silent)]
    exact (planOf_relisted snapshot other ⟨analyzed, silent⟩ same).map fun _ _ => Option.Rel.some
  · rw [planIfValid_of_errors silent,
      planIfValid_of_errors (mt same.report.eq_nil_iff.mp silent)]
    exact agreeBy_ok Option.Rel.none

end Plans

/-! ## Whole compilations -/

section Compilations

variable {validated otherValidated : Validated ρ} {current otherCurrent : GraphSnapshot}

/-- The loop of the reduction takes the same rounds on both listings. -/
theorem reduceLoop_relisted (snapshot other : GraphSnapshot) (requested : Option (List UUID))
    (fuel : Nat)
    (relisted : Relisted rename current otherCurrent) (ids : DistinctIds current)
    (same : SameAnalysis rename validated otherValidated) :
    AgreeBy SamePlans (reduceLoop registry snapshot requested fuel current validated)
      (reduceLoop registry other requested fuel otherCurrent otherValidated) := by
  induction fuel generalizing current otherCurrent validated otherValidated with
  | zero => exact agreeBy_ok Option.Rel.none
  | succ fuel ih =>
      rw [reduceLoop, reduceLoop]
      rcases reducedSnapshot_relisted relisted same with
        ⟨stuck, otherStuck⟩ | ⟨reduced, otherReduced⟩
      · rw [stuck, otherStuck]
        dsimp only
        rw [survivingRoots_relisted relisted]
        by_cases fewer : survivingRoots requested current ≠ requested
        · rw [if_pos fewer, if_pos fewer]
          refine AgreeBy.bind (validateSnapshot_relisted relisted ids _) ?_
          exact fun final otherFinal analyzed alike =>
            planIfValid_relisted snapshot other analyzed alike
        · rw [if_neg fewer, if_neg fewer]
          exact agreeBy_ok Option.Rel.none
      · rw [reduced, otherReduced]
        dsimp only
        have next := remainder_relisted relisted same
        have nextIds := ids.remainder validated
        rw [survivingRoots_relisted next]
        refine AgreeBy.bind (validateSnapshot_relisted next nextIds _) ?_
        intro again otherAgain analyzed alike
        by_cases silent : again.issues = []
        · rw [if_pos silent, if_pos (alike.report.eq_nil_iff.mpr silent)]
          exact (planOf_relisted snapshot other ⟨analyzed, silent⟩ alike).map
            fun _ _ => Option.Rel.some
        · rw [if_neg silent, if_neg (mt alike.report.eq_nil_iff.mp silent)]
          exact ih next nextIds alike

/-- Two compilations report the same, settle the same types and have the same
plan. -/
structure SameCompilation (rename : UUID → UUID) (result otherResult : CompilationResult ρ) :
    Prop where
  report : SameReport rename result.report otherResult.report
  types : ∀ side, otherResult.resolvedTypes.get? side = result.resolvedTypes.get? side
  plan : SamePlans result.plan otherResult.plan

/-- How a document lists its nodes and connections and what it calls its
connections is of no effect on its compilation, whether it is valid or not. -/
theorem compile_relisted (relisted : Relisted rename snapshot other) (ids : DistinctIds snapshot)
    (demandRoots : Option (List UUID)) :
    AgreeBy (SameCompilation rename) (compile registry snapshot demandRoots)
      (compile registry other demandRoots) := by
  have nodes := relisted.nodes.length_eq
  have connections := relisted.connections.length_eq.trans (List.length_map _)
  rw [compile, compile, nodes, connections]
  refine AgreeBy.bind (validateSnapshot_relisted relisted ids demandRoots) ?_
  intro full otherFull analyzed alike
  have finish : ∀ plan otherPlan, SamePlans plan otherPlan →
      AgreeBy (SameCompilation rename)
        (.ok ⟨full.issues, plan, full.analysis.resolvedTypes⟩ :
          Except PyError (CompilationResult ρ))
        (.ok ⟨otherFull.issues, otherPlan, otherFull.analysis.resolvedTypes⟩) :=
    fun plan otherPlan samePlan => agreeBy_ok ⟨alike.report, alike.types, samePlan⟩
  dsimp only
  by_cases silent : full.issues = []
  · rw [if_pos silent, if_pos (alike.report.eq_nil_iff.mpr silent)]
    refine AgreeBy.bind ((planOf_relisted snapshot other ⟨analyzed, silent⟩ alike).map
      fun _ _ => Option.Rel.some) ?_
    exact fun plan otherPlan _ samePlan => finish plan otherPlan samePlan
  · rw [if_neg silent, if_neg (mt alike.report.eq_nil_iff.mp silent)]
    refine AgreeBy.bind (reduceLoop_relisted snapshot other demandRoots _ relisted ids alike) ?_
    exact fun plan otherPlan _ samePlan => finish plan otherPlan samePlan

end Compilations

/-! ### Levels in another order -/

/-- The collected levels, listed backwards; their connection has another
identifier. -/
def levelsListedAgain : GraphSnapshot where
  documentId := 7
  revision := 4
  nodes := collectedLevels.nodes.reverse
  connections := [⟨12, 1, "value", 2, "items"⟩]

theorem compile_relisted_levelsListedAgain :
    AgreeBy (SameCompilation (Equiv.swap 11 12)) (compile levelRegistry collectedLevels none)
      (compile levelRegistry levelsListedAgain none) := by
  have relisted : Relisted (Equiv.swap 11 12) collectedLevels levelsListedAgain := by
    refine ⟨(Equiv.swap 11 12).injective, List.reverse_perm _, List.Perm.of_eq ?_⟩
    decide
  have ids : DistinctIds collectedLevels := ⟨by decide, by decide⟩
  exact compile_relisted relisted ids none

end Graph
end Synesthesia
