import Synesthesia.Graph.TypeReports
import Synesthesia.Graph.WellFormedPlan

namespace Synesthesia
namespace Graph

open Foundation Contracts Nodes Synesthesia.Runtime

/-!
# Listings of the same graph

A document lists its nodes and connections in the order in which they were
made, and a connection has an identifier of its own.  Neither matters to the
compiler: where no identifier occurs twice, every phase of `_analyze` finds the
same in another listing of the graph, and so `compile` does, whole or in part.
-/

variable {ρ : Type}

/-- The connection under another identifier. -/
def ConnectionModel.renamed (rename : UUID → UUID) (connection : ConnectionModel) :
    ConnectionModel :=
  { connection with id := rename connection.id }

section Renamed

variable (rename : UUID → UUID) (connection : ConnectionModel)

@[simp] theorem renamed_sourceNodeId :
    (connection.renamed rename).sourceNodeId = connection.sourceNodeId := rfl

@[simp] theorem renamed_sourcePortId :
    (connection.renamed rename).sourcePortId = connection.sourcePortId := rfl

@[simp] theorem renamed_destinationNodeId :
    (connection.renamed rename).destinationNodeId = connection.destinationNodeId := rfl

@[simp] theorem renamed_destinationPortId :
    (connection.renamed rename).destinationPortId = connection.destinationPortId := rfl

end Renamed

/-- The same graph in another order and with other identifiers of connections. -/
structure Relisted (rename : UUID → UUID) (snapshot other : GraphSnapshot) : Prop where
  injective : Function.Injective rename
  nodes : other.nodes.Perm snapshot.nodes
  connections : other.connections.Perm
    (snapshot.connections.map (ConnectionModel.renamed rename))

/-- No node and no connection has the identifier of another. -/
structure DistinctIds (snapshot : GraphSnapshot) : Prop where
  nodes : (snapshot.nodes.map NodeModel.id).Nodup
  connections : (snapshot.connections.map ConnectionModel.id).Nodup

/-! ## Reports -/

/-- The identity after the renaming of the connections. -/
def IssueIdentity.renamed (rename : UUID → UUID) (identity : IssueIdentity) : IssueIdentity :=
  { identity with connectionId := identity.connectionId.map rename }

/-- The same diagnostics, apart from their order, their number and their texts. -/
def SameReport (rename : UUID → UUID) (issues others : List ValidationIssue) : Prop :=
  ∀ identity, identity ∈ others.map issueIdentity ↔
    ∃ issue ∈ issues, (issueIdentity issue).renamed rename = identity

section Reports

variable {rename : UUID → UUID} {issues others : List ValidationIssue}

theorem SameReport.append {moreIssues moreOthers : List ValidationIssue}
    (first : SameReport rename issues others) (second : SameReport rename moreIssues moreOthers) :
    SameReport rename (issues ++ moreIssues) (others ++ moreOthers) := by
  intro identity
  rw [List.map_append, List.mem_append, first identity, second identity]
  simp only [List.mem_append, or_and_right, exists_or]

/-- Issues that name no connection are reported alike. -/
theorem sameReport_of_perm (same : others.Perm issues)
    (unnamed : ∀ issue ∈ issues, issue.connectionId = none) :
    SameReport rename issues others := by
  intro identity
  rw [(same.map issueIdentity).mem_iff, List.mem_map]
  refine exists_congr fun issue => and_congr_right fun member => ?_
  have unchanged : (issueIdentity issue).renamed rename = issueIdentity issue := by
    rw [IssueIdentity.renamed, issueIdentity, unnamed issue member, Option.map_none]
  rw [unchanged]

theorem SameReport.eq_nil_iff (same : SameReport rename issues others) :
    others = [] ↔ issues = [] := by
  constructor
  · rintro rfl
    rw [List.eq_nil_iff_forall_not_mem]
    intro issue member
    cases (same _).mpr ⟨issue, member, rfl⟩
  · rintro rfl
    rw [List.eq_nil_iff_forall_not_mem]
    intro issue member
    rcases (same _).mp (List.mem_map_of_mem member) with ⟨_, impossible, _⟩
    cases impossible

/-- The nodes that are reported are the same. -/
theorem SameReport.nodeIds (same : SameReport rename issues others) (nodeId : UUID) :
    nodeId ∈ others.filterMap ValidationIssue.nodeId ↔
      nodeId ∈ issues.filterMap ValidationIssue.nodeId := by
  rw [List.mem_filterMap, List.mem_filterMap]
  constructor
  · rintro ⟨issue, member, located⟩
    rcases (same _).mp (List.mem_map_of_mem member) with ⟨original, isOriginal, named⟩
    exact ⟨original, isOriginal, (congrArg IssueIdentity.nodeId named).trans located⟩
  · rintro ⟨original, isOriginal, located⟩
    rcases List.mem_map.mp ((same _).mpr ⟨original, isOriginal, rfl⟩) with ⟨issue, member, named⟩
    exact ⟨issue, member, (congrArg IssueIdentity.nodeId named).trans located⟩

/-- The connections that are reported are the renamed ones. -/
theorem SameReport.connectionIds (same : SameReport rename issues others)
    (injective : Function.Injective rename) (connectionId : UUID) :
    rename connectionId ∈ others.filterMap ValidationIssue.connectionId ↔
      connectionId ∈ issues.filterMap ValidationIssue.connectionId := by
  rw [List.mem_filterMap, List.mem_filterMap]
  constructor
  · rintro ⟨issue, member, located⟩
    rcases (same _).mp (List.mem_map_of_mem member) with ⟨original, isOriginal, named⟩
    have renamedId : original.connectionId.map rename = some (rename connectionId) :=
      (congrArg IssueIdentity.connectionId named).trans located
    rcases Option.map_eq_some_iff.mp renamedId with ⟨found, isFound, sameName⟩
    exact ⟨original, isOriginal, isFound.trans (congrArg some (injective sameName))⟩
  · rintro ⟨original, isOriginal, located⟩
    rcases List.mem_map.mp ((same _).mpr ⟨original, isOriginal, rfl⟩) with ⟨issue, member, named⟩
    refine ⟨issue, member, ?_⟩
    have renamedId : issue.connectionId = original.connectionId.map rename :=
      congrArg IssueIdentity.connectionId named
    rw [renamedId, located, Option.map_some]

end Reports

/-! ## Unique items -/

section Items

variable {Item : Type} {key : Item → UUID} {items : List Item}

theorem distinct_eq_self {seen : List UUID} (unique : (items.map key).Nodup)
    (fresh : ∀ item ∈ items, key item ∉ seen) : distinct key seen items = items := by
  induction items generalizing seen with
  | nil => rfl
  | cons first rest ih =>
      rw [List.map_cons, List.nodup_cons] at unique
      rw [distinct, if_neg (fresh first List.mem_cons_self), ih unique.2]
      intro item member
      rw [List.mem_cons, not_or]
      refine ⟨?_, fresh item (List.mem_cons_of_mem _ member)⟩
      intro same
      exact unique.1 (same ▸ List.mem_map_of_mem member)

theorem repeated_eq_nil {seen : List UUID} (unique : (items.map key).Nodup)
    (fresh : ∀ item ∈ items, key item ∉ seen) : repeated key seen items = [] := by
  induction items generalizing seen with
  | nil => rfl
  | cons first rest ih =>
      rw [List.map_cons, List.nodup_cons] at unique
      rw [repeated, if_neg (fresh first List.mem_cons_self)]
      apply ih unique.2
      intro item member
      rw [List.mem_cons, not_or]
      refine ⟨?_, fresh item (List.mem_cons_of_mem _ member)⟩
      intro same
      exact unique.1 (same ▸ List.mem_map_of_mem member)

end Items

theorem connectionIssues_renamed (rename : UUID → UUID) (nodes others : Dict UUID NodeModel)
    (definitions : Dict UUID (NodeExecutionContract ρ)) (connection : ConnectionModel)
    (keys : ∀ nodeId, nodeId ∈ others.keys ↔ nodeId ∈ nodes.keys) :
    (connectionIssues others definitions (connection.renamed rename)).map issueIdentity =
      (connectionIssues nodes definitions connection).map
        (fun issue => (issueIdentity issue).renamed rename) := by
  rw [connectionIssues, connectionIssues, checkConnection, checkConnection]
  simp only [renamed_sourceNodeId, renamed_sourcePortId, renamed_destinationNodeId,
    renamed_destinationPortId, keys]
  cases definitions.get? connection.sourceNodeId with
  | none => split_ifs <;> rfl
  | some source =>
      cases definitions.get? connection.destinationNodeId with
      | none => split_ifs <;> rfl
      | some destination =>
          by_cases noOutput : source.output connection.sourcePortId = none
          · simp only [noOutput, if_true]
            split_ifs <;> rfl
          · by_cases socket : hasSocket destination connection.destinationPortId = true
            · simp only [noOutput, socket, not_true_eq_false, if_false]
              split_ifs <;> rfl
            · simp only [noOutput, socket, if_false]
              split_ifs <;> rfl

section Relisting

variable (registry : NodeRegistry ρ) {rename : UUID → UUID} {snapshot other : GraphSnapshot}

/-! ## Nodes and definitions -/

theorem DistinctIds.entries (ids : DistinctIds snapshot) :
    (uniqueNodes snapshot).1.entries = snapshot.nodes.map (fun node => (node.id, node)) := by
  rw [uniqueNodes_entries, distinct_eq_self ids.nodes (fun _ _ => List.not_mem_nil)]

theorem DistinctIds.silent (ids : DistinctIds snapshot) : (uniqueNodes snapshot).2 = [] := by
  rw [uniqueNodes, repeated_eq_nil ids.nodes (fun _ _ => List.not_mem_nil),
    repeated_eq_nil ids.connections (fun _ _ => List.not_mem_nil)]
  rfl

/-- The connections as they are checked: all of them, by identifier. -/
theorem DistinctIds.checked (ids : DistinctIds snapshot) :
    distinct ConnectionModel.id [] (sortByKey ConnectionModel.id snapshot.connections) =
      sortByKey ConnectionModel.id snapshot.connections := by
  refine distinct_eq_self ?_ (fun _ _ => List.not_mem_nil)
  rw [((sortByKey_perm ConnectionModel.id snapshot.connections).map ConnectionModel.id).nodup_iff]
  exact ids.connections

variable (relisted : Relisted rename snapshot other) (ids : DistinctIds snapshot)

include relisted ids

theorem Relisted.distinctIds : DistinctIds other := by
  constructor
  · exact (relisted.nodes.map NodeModel.id).nodup_iff.mpr ids.nodes
  · rw [(relisted.connections.map ConnectionModel.id).nodup_iff, List.map_map]
    have renamedIds : snapshot.connections.map
        (ConnectionModel.id ∘ ConnectionModel.renamed rename) =
          (snapshot.connections.map ConnectionModel.id).map rename := by
      rw [List.map_map]
      rfl
    rw [renamedIds]
    exact ids.connections.map relisted.injective

theorem Relisted.entries :
    (uniqueNodes other).1.entries.Perm (uniqueNodes snapshot).1.entries := by
  rw [(relisted.distinctIds ids).entries, ids.entries]
  exact relisted.nodes.map _

theorem Relisted.keys :
    (uniqueNodes other).1.keys.Perm (uniqueNodes snapshot).1.keys :=
  (relisted.entries ids).map Prod.fst

/-- The nodes are defined alike, in the order of their identifiers. -/
theorem resolvedNodes_relisted :
    resolvedNodes registry other = resolvedNodes registry snapshot := by
  have sameOrder : sortByKey Prod.fst (uniqueNodes other).1.entries =
      sortByKey Prod.fst (uniqueNodes snapshot).1.entries := by
    refine sortByKey_eq_of_perm (relisted.entries ids) ?_
    rintro ⟨leftId, left⟩ isLeft ⟨rightId, right⟩ isRight same
    dsimp only at same
    subst same
    have found := Dict.get?_of_mem isLeft
    rw [Dict.get?_of_mem isRight] at found
    rw [Option.some.inj found]
  rw [resolvedNodes, resolvedNodes, resolveDefinitions, resolveDefinitions, sameOrder]

/-! ## Connections -/

/-- A renamed connection is checked like the original. -/
theorem checkConnection_isOk_relisted (connection : ConnectionModel) :
    (checkConnection (uniqueNodes other).1 (resolvedNodes registry other).definitions
        (connection.renamed rename)).isOk =
      (checkConnection (uniqueNodes snapshot).1 (resolvedNodes registry snapshot).definitions
        connection).isOk := by
  rw [Bool.eq_iff_iff, checkConnection_isOk, checkConnection_isOk,
    resolvedNodes_relisted registry relisted ids, (relisted.keys ids).mem_iff,
    (relisted.keys ids).mem_iff]
  rfl

theorem Relisted.checked :
    (distinct ConnectionModel.id [] (sortByKey ConnectionModel.id other.connections)).Perm
      ((distinct ConnectionModel.id [] (sortByKey ConnectionModel.id snapshot.connections)).map
        (ConnectionModel.renamed rename)) := by
  rw [(relisted.distinctIds ids).checked, ids.checked]
  refine (sortByKey_perm _ _).trans (relisted.connections.trans ?_)
  exact ((sortByKey_perm _ _).map _).symm

/-- The valid connections are the renamed ones. -/
theorem validConnections_relisted :
    (validConnections registry other).Perm
      ((validConnections registry snapshot).map (ConnectionModel.renamed rename)) := by
  rw [validConnections, validConnections, validateConnections, validateConnections]
  refine ((relisted.checked ids).filter _).trans (List.Perm.of_eq ?_)
  rw [List.filter_map]
  congr 1
  refine List.filter_congr fun connection _ => ?_
  exact checkConnection_isOk_relisted registry relisted ids connection

theorem exists_original_relisted {connection : ConnectionModel}
    (member : connection ∈ validConnections registry other) :
    ∃ original ∈ validConnections registry snapshot, original.renamed rename = connection :=
  List.mem_map.mp ((validConnections_relisted registry relisted ids).mem_iff.mp member)

theorem renamed_mem_relisted {original : ConnectionModel}
    (member : original ∈ validConnections registry snapshot) :
    original.renamed rename ∈ validConnections registry other :=
  (validConnections_relisted registry relisted ids).mem_iff.mpr (List.mem_map_of_mem member)

theorem connectionIssues_relisted :
    SameReport rename
      (validateConnections snapshot (uniqueNodes snapshot).1
        (resolvedNodes registry snapshot).definitions).2
      (validateConnections other (uniqueNodes other).1
        (resolvedNodes registry other).definitions).2 := by
  intro identity
  rw [validateConnections, validateConnections, resolvedNodes_relisted registry relisted ids]
  simp only [List.mem_map, List.mem_flatMap]
  have each := fun connection => connectionIssues_renamed rename
    (uniqueNodes snapshot).1 (uniqueNodes other).1
    (resolvedNodes registry snapshot).definitions connection
    (fun nodeId => (relisted.keys ids).mem_iff)
  constructor
  · rintro ⟨issue, ⟨connection, member, reported⟩, rfl⟩
    rcases List.mem_map.mp ((relisted.checked ids).mem_iff.mp member) with
      ⟨original, isOriginal, rfl⟩
    have located := List.mem_map_of_mem (f := issueIdentity) reported
    rw [each original] at located
    rcases List.mem_map.mp located with ⟨first, isFirst, named⟩
    exact ⟨first, ⟨original, isOriginal, isFirst⟩, named⟩
  · rintro ⟨issue, ⟨original, isOriginal, reported⟩, rfl⟩
    have located := List.mem_map_of_mem
      (f := fun issue => (issueIdentity issue).renamed rename) reported
    rw [← each original] at located
    rcases List.mem_map.mp located with ⟨first, isFirst, named⟩
    refine ⟨first, ⟨original.renamed rename, ?_, isFirst⟩, named⟩
    exact (relisted.checked ids).mem_iff.mpr (List.mem_map_of_mem isOriginal)

end Relisting

theorem requiredInputIssue_perm {definition : NodeExecutionContract ρ} {nodeId : UUID}
    {connected otherConnected : List String} (same : otherConnected.Perm connected)
    (portId : String) :
    requiredInputIssue definition nodeId otherConnected portId =
      requiredInputIssue definition nodeId connected portId := by
  rw [requiredInputIssue, requiredInputIssue]
  simp only [(same.filter _).length_eq, same.mem_iff]

/-! ## Cardinality -/

section Connections

variable {rename : UUID → UUID} {connections others : List ConnectionModel}
  (same : others.Perm (connections.map (ConnectionModel.renamed rename)))

include same

theorem occupants_renamed
    (input : UUID × String) :
    (occupants others input).length = (occupants connections input).length := by
  rw [occupants, occupants, (same.filter _).length_eq, List.filter_map, List.length_map]
  rfl

theorem inputsInOrder_renamed :
    (inputsInOrder others).Perm (inputsInOrder connections) := by
  rw [inputsInOrder, inputsInOrder]
  refine (List.perm_ext_iff_of_nodup (Dict.keys_nodup _) (Dict.keys_nodup _)).mpr ?_
  intro input
  rw [Dict.mem_keys_ofEntries, Dict.mem_keys_ofEntries, List.map_map, List.map_map,
    (same.map _).mem_iff, List.map_map]
  rfl

theorem validateCardinality_renamed :
    SameReport rename (validateCardinality connections) (validateCardinality others) := by
  refine sameReport_of_perm ?_ ?_
  · rw [validateCardinality, validateCardinality]
    simp only [occupants_renamed same]
    exact ((inputsInOrder_renamed same).filter _).map _
  · intro issue member
    rcases List.mem_map.mp member with ⟨_, _, rfl⟩
    rfl

/-! ## Order, inputs and clocks -/

theorem edges_renamed :
    (edges others).Perm (edges connections) := by
  rw [edges, edges]
  refine ((same.map _).dedup).trans (List.Perm.of_eq ?_)
  rw [List.map_map]
  rfl

/-- The order and what it reports are those of the graph. -/
theorem topologicalOrder_renamed {nodes otherNodes : List UUID}
    (sameNodes : otherNodes.Perm nodes) :
    topologicalOrder otherNodes others = topologicalOrder nodes connections := by
  rw [topologicalOrder, topologicalOrder, topologicalSort_perm sameNodes (edges_renamed same)]
  rcases topologicalSort nodes (edges connections) with ⟨count, ready, order⟩
  dsimp only
  rw [sortByKey_id_perm (sameNodes.filter _), sameNodes.length_eq]

theorem connectedInputs_renamed (nodeId : UUID) :
    (connectedInputs others nodeId).Perm (connectedInputs connections nodeId) := by
  rw [connectedInputs, connectedInputs]
  refine (((same.filter _).map _).dedup).trans (List.Perm.of_eq ?_)
  rw [List.filter_map, List.map_map]
  rfl

theorem validateRequiredInputs_renamed
    (definitions : Dict UUID (NodeExecutionContract ρ))
    (parameters : Dict UUID (Dict String ParameterValue)) :
    validateRequiredInputs others definitions parameters =
      validateRequiredInputs connections definitions parameters := by
  rw [validateRequiredInputs, validateRequiredInputs]
  simp only [requiredInputIssue_perm (connectedInputs_renamed same _)]

theorem predecessors_renamed (nodeId : UUID) :
    (predecessors others nodeId).Perm (predecessors connections nodeId) := by
  rw [predecessors, predecessors]
  refine (((same.filter _).map _).dedup).trans (List.Perm.of_eq ?_)
  rw [List.filter_map, List.map_map]
  rfl

theorem incomingClocks_renamed
    (clocks : Dict UUID (Option UUID)) (nodeId : UUID) :
    (incomingClocks others clocks nodeId).Perm (incomingClocks connections clocks nodeId) :=
  ((predecessors_renamed same nodeId).filterMap _).dedup

theorem analyzeClocks_renamed
    (definitions : Dict UUID (NodeExecutionContract ρ)) (order : List UUID)
    (clocks : Dict UUID (Option UUID)) (issues : List ValidationIssue) :
    analyzeClocks definitions others order clocks issues =
      analyzeClocks definitions connections order clocks issues := by
  induction order generalizing clocks issues with
  | nil => rfl
  | cons nodeId rest ih =>
      rw [analyzeClocks, analyzeClocks]
      cases definitions.get? nodeId with
      | none => exact ih clocks issues
      | some definition =>
          have incoming := incomingClocks_renamed same clocks nodeId
          dsimp only
          split_ifs
          · exact ih _ _
          · cases fed : incomingClocks connections clocks nodeId with
            | nil =>
                rw [fed] at incoming
                rw [List.perm_nil.mp incoming]
                exact ih _ _
            | cons first more =>
                cases more with
                | nil =>
                    rw [fed] at incoming
                    rw [List.perm_singleton.mp incoming]
                    exact ih _ _
                | cons second more =>
                    cases otherFed : incomingClocks others clocks nodeId with
                    | nil =>
                        rw [fed, otherFed] at incoming
                        cases List.nil_perm.mp incoming
                    | cons otherFirst otherMore =>
                        cases otherMore with
                        | nil =>
                            rw [fed, otherFed] at incoming
                            cases List.singleton_perm.mp incoming
                        | cons otherSecond otherMore => exact ih _ _

end Connections

end Graph
end Synesthesia
