import Synesthesia.Graph.CompiledPlan
import Synesthesia.Graph.Validation

namespace Synesthesia
namespace Graph

open Foundation Contracts Nodes Synesthesia.Runtime

/-!
# Rounds of the partial compilation

The reduction of `GraphCompiler.compile` leaves out nodes and connections and
analyses what is left.  Leaving out nodes by their identifiers keeps the
definitions of the others, and a connection that is valid after a round was
valid before it.
-/

variable {ρ : Type} {registry : NodeRegistry ρ} {snapshot : GraphSnapshot}

/-! ## Unique items -/

section Items

variable {Item : Type} {key : Item → UUID} {items : List Item} {seen : List UUID}

theorem mem_of_mem_distinct {item : Item}
    (member : item ∈ distinct key seen items) : item ∈ items ∧ key item ∉ seen := by
  induction items generalizing seen with
  | nil => simp [distinct] at member
  | cons first rest ih =>
      rw [distinct] at member
      by_cases known : key first ∈ seen
      · rw [if_pos known] at member
        rcases ih member with ⟨inRest, fresh⟩
        exact ⟨List.mem_cons_of_mem _ inRest, fresh⟩
      · rw [if_neg known] at member
        rcases List.mem_cons.mp member with rfl | inRest
        · exact ⟨List.mem_cons_self, known⟩
        · rcases ih inRest with ⟨isItem, fresh⟩
          exact ⟨List.mem_cons_of_mem _ isItem, fun old => fresh (List.mem_cons_of_mem _ old)⟩

theorem nodup_distinct (seen : List UUID) (items : List Item) :
    ((distinct key seen items).map key).Nodup := by
  induction items generalizing seen with
  | nil => simp [distinct]
  | cons first rest ih =>
      rw [distinct]
      by_cases known : key first ∈ seen
      · rw [if_pos known]
        exact ih seen
      · rw [if_neg known, List.map_cons, List.nodup_cons]
        refine ⟨?_, ih _⟩
        intro again
        rcases List.mem_map.mp again with ⟨other, member, same⟩
        exact (mem_of_mem_distinct member).2 (same ▸ List.mem_cons_self)

theorem mem_map_distinct {nodeId : UUID} :
    nodeId ∈ (distinct key seen items).map key ↔ nodeId ∈ items.map key ∧ nodeId ∉ seen := by
  induction items generalizing seen with
  | nil => simp [distinct]
  | cons first rest ih =>
      rw [distinct]
      by_cases known : key first ∈ seen
      · rw [if_pos known, ih, List.map_cons, List.mem_cons]
        constructor
        · rintro ⟨inRest, fresh⟩
          exact ⟨Or.inr inRest, fresh⟩
        · rintro ⟨rfl | inRest, fresh⟩
          · exact absurd known fresh
          · exact ⟨inRest, fresh⟩
      · rw [if_neg known, List.map_cons, List.mem_cons, ih, List.map_cons,
          List.mem_cons, List.mem_cons, not_or]
        by_cases same : nodeId = key first
        · subst same
          simp [known]
        · simp [same]

/-- Filtering by the key commutes with the choice of the first items; of the
keys seen before only the kept ones matter. -/
theorem distinct_filter (keep : UUID → Bool) {seen before : List UUID}
    (agree : ∀ nodeId, keep nodeId = true → (nodeId ∈ seen ↔ nodeId ∈ before)) :
    distinct key seen (items.filter (fun item => keep (key item))) =
      (distinct key before items).filter (fun item => keep (key item)) := by
  induction items generalizing seen before with
  | nil => rfl
  | cons first rest ih =>
      by_cases kept : keep (key first) = true
      · rw [List.filter_cons, if_pos kept, distinct, distinct]
        by_cases known : key first ∈ seen
        · rw [if_pos known, if_pos ((agree _ kept).mp known)]
          exact ih agree
        · rw [if_neg known, if_neg (fun old => known ((agree _ kept).mpr old)),
            List.filter_cons, if_pos kept]
          congr 1
          apply ih
          intro nodeId isKept
          rw [List.mem_cons, List.mem_cons, agree nodeId isKept]
      · rw [List.filter_cons, if_neg kept, distinct]
        by_cases known : key first ∈ before
        · rw [if_pos known]
          exact ih agree
        · rw [if_neg known, List.filter_cons, if_neg kept]
          apply ih
          intro nodeId isKept
          have different : nodeId ≠ key first := by
            rintro rfl
            exact kept isKept
          rw [List.mem_cons, or_iff_right different]
          exact agree nodeId isKept

theorem mem_repeated_of_seen {item : Item}
    (member : item ∈ items) (known : key item ∈ seen) : item ∈ repeated key seen items := by
  induction items generalizing seen with
  | nil => cases member
  | cons first rest ih =>
      rw [repeated]
      by_cases old : key first ∈ seen
      · rw [if_pos old]
        rcases List.mem_cons.mp member with rfl | inRest
        · exact List.mem_cons_self
        · exact List.mem_cons_of_mem _ (ih inRest known)
      · rw [if_neg old]
        rcases List.mem_cons.mp member with rfl | inRest
        · exact absurd known old
        · exact ih inRest (List.mem_cons_of_mem _ known)

/-- A key that is not repeated belongs to one item at most. -/
theorem count_key_le_one {nodeId : UUID} (seen : List UUID)
    (once : ∀ item ∈ repeated key seen items, key item ≠ nodeId) :
    (items.filter (fun item => decide (key item = nodeId))).length ≤ 1 := by
  induction items generalizing seen with
  | nil => simp
  | cons first rest ih =>
      rw [repeated] at once
      by_cases old : key first ∈ seen
      · rw [if_pos old] at once
        have different := once first List.mem_cons_self
        rw [List.filter_cons_of_neg (by simpa using different)]
        exact ih seen
          (fun item member => once item (List.mem_cons_of_mem _ member))
      · rw [if_neg old] at once
        by_cases same : key first = nodeId
        · have none : rest.filter (fun item => decide (key item = nodeId)) = [] := by
            rw [List.filter_eq_nil_iff]
            intro item member isKey
            have isSame := of_decide_eq_true isKey
            exact once item (mem_repeated_of_seen member
              (by rw [isSame, same]; exact List.mem_cons_self)) isSame
          rw [List.filter_cons_of_pos (by simpa using same), none]
          exact le_rfl
        · rw [List.filter_cons_of_neg (by simpa using same)]
          exact ih _ once

/-- An item whose key occurs once is the first with its key. -/
theorem mem_distinct {item : Item} (member : item ∈ items)
    (fresh : key item ∉ seen)
    (once : (items.filter (fun other => decide (key other = key item))).length ≤ 1) :
    item ∈ distinct key seen items := by
  induction items generalizing seen with
  | nil => cases member
  | cons first rest ih =>
      rw [distinct]
      by_cases same : key first = key item
      · rw [List.filter_cons_of_pos (by simpa using same), List.length_cons] at once
        have none : rest.filter (fun other => decide (key other = key item)) = [] :=
          List.eq_nil_of_length_eq_zero (by omega)
        rw [if_neg (by rw [same]; exact fresh)]
        rcases List.mem_cons.mp member with rfl | inRest
        · exact List.mem_cons_self
        · exact absurd (decide_eq_true rfl)
            (List.filter_eq_nil_iff.mp none item inRest)
      · rw [List.filter_cons_of_neg (by simpa using same)] at once
        have inRest : item ∈ rest := by
          rcases List.mem_cons.mp member with rfl | inRest
          · exact absurd rfl same
          · exact inRest
        by_cases known : key first ∈ seen
        · rw [if_pos known]
          exact ih inRest fresh once
        · rw [if_neg known]
          refine List.mem_cons_of_mem _ (ih inRest ?_ once)
          rw [List.mem_cons, not_or]
          exact ⟨fun isFirst => same isFirst.symm, fresh⟩

end Items

/-! ## What a snapshot defines -/

theorem uniqueNodes_entries (snapshot : GraphSnapshot) :
    (uniqueNodes snapshot).1.entries =
      (distinct NodeModel.id [] snapshot.nodes).map (fun node => (node.id, node)) := by
  apply Dict.ofEntries_entries
  rw [List.map_map]
  exact nodup_distinct [] snapshot.nodes

theorem uniqueNodes_keys (snapshot : GraphSnapshot) :
    (uniqueNodes snapshot).1.keys = (distinct NodeModel.id [] snapshot.nodes).map NodeModel.id := by
  rw [Dict.keys, uniqueNodes_entries, List.map_map]
  rfl

theorem mem_uniqueNodes_keys {nodeId : UUID} :
    nodeId ∈ (uniqueNodes snapshot).1.keys ↔ nodeId ∈ snapshot.nodes.map NodeModel.id := by
  rw [uniqueNodes_keys, mem_map_distinct]
  simp

/-- What a table of the defined nodes holds. -/
theorem get?_definedNodes {Value : Type} (value : NodeModel → NodeExecutionContract ρ → Value)
    (nodes : Dict UUID NodeModel) (nodeId : UUID) :
    (definedNodes registry value (sortByKey Prod.fst nodes.entries)).get? nodeId =
      (nodes.get? nodeId).bind (fun node => (registry.get? node.typeId).map (value node)) := by
  have distinctKeys : (((sortByKey Prod.fst nodes.entries).filterMap (fun entry =>
      (registry.get? entry.2.typeId).map (fun definition =>
        (entry.1, value entry.2 definition)))).map Prod.fst).Nodup := by
    have sorted : ((sortByKey Prod.fst nodes.entries).map Prod.fst).Nodup := by
      rw [((sortByKey_perm Prod.fst nodes.entries).map Prod.fst).nodup_iff]
      exact nodes.nodup
    refine sorted.sublist ?_
    generalize sortByKey Prod.fst nodes.entries = entries
    induction entries with
    | nil => simp
    | cons entry rest ih =>
        rw [List.filterMap_cons]
        cases registry.get? entry.2.typeId with
        | none => exact ih.cons _
        | some definition => exact ih.cons_cons _
  have held : ∀ found, (nodeId, found) ∈ (definedNodes registry value
      (sortByKey Prod.fst nodes.entries)).entries ↔
        ∃ node, (nodeId, node) ∈ nodes.entries ∧
          (registry.get? node.typeId).map (value node) = some found := by
    intro found
    rw [definedNodes, Dict.ofEntries_entries distinctKeys, List.mem_filterMap]
    constructor
    · rintro ⟨⟨_, node⟩, member, isEntry⟩
      rcases Option.map_eq_some_iff.mp isEntry with ⟨definition, known, same⟩
      cases same
      exact ⟨node, (mem_sortByKey _).mp member, by rw [known]; rfl⟩
    · rintro ⟨node, member, isValue⟩
      rcases Option.map_eq_some_iff.mp isValue with ⟨definition, known, rfl⟩
      exact ⟨(nodeId, node), (mem_sortByKey _).mpr member, by rw [known]; rfl⟩
  apply Option.ext
  intro found
  constructor
  · intro isFound
    rcases (held found).mp (Dict.mem_of_get? isFound) with ⟨node, member, isValue⟩
    rw [Dict.get?_of_mem member, Option.bind_some, isValue]
  · intro isFound
    rcases Option.bind_eq_some_iff.mp isFound with ⟨node, isNode, isValue⟩
    exact Dict.get?_of_mem ((held found).mpr ⟨node, Dict.mem_of_get? isNode, isValue⟩)

/-- The definitions and parameters that a snapshot gives its nodes. -/
def resolvedNodes (registry : NodeRegistry ρ) (snapshot : GraphSnapshot) : ResolvedDefinitions ρ :=
  resolveDefinitions registry (uniqueNodes snapshot).1

/-- The connections of a snapshot between ports that exist. -/
def validConnections (registry : NodeRegistry ρ) (snapshot : GraphSnapshot) :
    List ConnectionModel :=
  (validateConnections snapshot (uniqueNodes snapshot).1
    (resolvedNodes registry snapshot).definitions).1

theorem mem_validConnections {connection : ConnectionModel} :
    connection ∈ validConnections registry snapshot ↔
      connection ∈ distinct ConnectionModel.id []
        (sortByKey ConnectionModel.id snapshot.connections) ∧
      (checkConnection (uniqueNodes snapshot).1 (resolvedNodes registry snapshot).definitions
        connection).isOk = true := by
  rw [validConnections, validateConnections, List.mem_filter]

theorem get?_definitions (nodeId : UUID) :
    (resolvedNodes registry snapshot).definitions.get? nodeId =
      ((uniqueNodes snapshot).1.get? nodeId).bind (fun node => registry.get? node.typeId) := by
  rw [resolvedNodes, resolveDefinitions, get?_definedNodes]
  congr 1
  funext node
  exact Option.map_id'

/-! ## One analysis -/

/-- What the phases of `_analyze` find in a snapshot. -/
structure AnalyzedAs (registry : NodeRegistry ρ) (snapshot : GraphSnapshot)
    (demandRoots : Option (List UUID)) (validated : Validated ρ)
    (typeIssues : List ValidationIssue) : Prop where
  nodes : validated.analysis.nodes = (uniqueNodes snapshot).1.keys
  definitions : validated.analysis.definitions = (resolvedNodes registry snapshot).definitions
  parameters : validated.analysis.parameters = (resolvedNodes registry snapshot).parameters
  connections : validated.analysis.connections = validConnections registry snapshot
  types : resolveTypes (validConnections registry snapshot)
    (resolvedNodes registry snapshot).definitions (resolvedNodes registry snapshot).parameters =
      .ok (validated.analysis.resolvedTypes, typeIssues)
  analysis : validated.analysis = (analyze validated.analysis.toResolved demandRoots).1
  issues : validated.issues = (uniqueNodes snapshot).2 ++
    (resolvedNodes registry snapshot).issues ++
    (validateConnections snapshot (uniqueNodes snapshot).1
      (resolvedNodes registry snapshot).definitions).2 ++
    validateCardinality (validConnections registry snapshot) ++ typeIssues ++
    (topologicalOrder validated.analysis.nodes validated.analysis.connections).2 ++
    validateRequiredInputs (validConnections registry snapshot)
      (resolvedNodes registry snapshot).definitions
      (resolvedNodes registry snapshot).parameters ++
    (analyzeClocks validated.analysis.definitions validated.analysis.connections
      validated.analysis.order Dict.empty []).2 ++
    (resolveDemandRoots validated.analysis.nodes validated.analysis.definitions
      validated.analysis.connections demandRoots).2

/-- An analysis that returns is that of its phases. -/
theorem validateSnapshot_ok {demandRoots : Option (List UUID)} {validated : Validated ρ}
    (analyzed : validateSnapshot registry snapshot demandRoots = .ok validated) :
    ∃ typeIssues, AnalyzedAs registry snapshot demandRoots validated typeIssues := by
  rw [validateSnapshot] at analyzed
  rcases bind_ok analyzed with ⟨⟨types, typeIssues⟩, resolved, built⟩
  cases built
  exact ⟨typeIssues, rfl, rfl, rfl, rfl, resolved, rfl, rfl⟩

/-- The issues of the phases that do not depend on the demand roots. -/
def commonIssues (registry : NodeRegistry ρ) (snapshot : GraphSnapshot)
    (typeIssues : List ValidationIssue) : List ValidationIssue :=
  (uniqueNodes snapshot).2 ++ (resolvedNodes registry snapshot).issues ++
    (validateConnections snapshot (uniqueNodes snapshot).1
      (resolvedNodes registry snapshot).definitions).2 ++
    validateCardinality (validConnections registry snapshot) ++ typeIssues ++
    (topologicalOrder (uniqueNodes snapshot).1.keys (validConnections registry snapshot)).2 ++
    validateRequiredInputs (validConnections registry snapshot)
      (resolvedNodes registry snapshot).definitions
      (resolvedNodes registry snapshot).parameters ++
    (analyzeClocks (resolvedNodes registry snapshot).definitions
      (validConnections registry snapshot)
      (topologicalOrder (uniqueNodes snapshot).1.keys (validConnections registry snapshot)).1
      Dict.empty []).2

section Phases

variable {demandRoots : Option (List UUID)} {validated : Validated ρ}
  {typeIssues : List ValidationIssue}

theorem AnalyzedAs.order (phases : AnalyzedAs registry snapshot demandRoots validated typeIssues) :
    validated.analysis.order =
      (topologicalOrder (uniqueNodes snapshot).1.keys (validConnections registry snapshot)).1 := by
  rw [← phases.nodes, ← phases.connections]
  exact congrArg Analysis.order phases.analysis

theorem AnalyzedAs.issues_eq
    (phases : AnalyzedAs registry snapshot demandRoots validated typeIssues) :
    validated.issues = commonIssues registry snapshot typeIssues ++
      (resolveDemandRoots (uniqueNodes snapshot).1.keys
        (resolvedNodes registry snapshot).definitions (validConnections registry snapshot)
        demandRoots).2 := by
  have issues := phases.issues
  rw [phases.order, phases.nodes, phases.definitions, phases.connections] at issues
  exact issues

end Phases

/-! ## Leaving out nodes and connections -/

/-- The part of a snapshot without the nodes and connections that an analysis
excludes. -/
def remainder (current : GraphSnapshot) (validated : Validated ρ) : GraphSnapshot :=
  { current with
    nodes := current.nodes.filter (fun node => decide (node.id ∉ droppedNodes current validated))
    connections := current.connections.filter (fun connection =>
      decide (connection.id ∉ droppedConnections validated ∧
        connection.sourceNodeId ∉ droppedNodes current validated ∧
        connection.destinationNodeId ∉ droppedNodes current validated)) }

section Remainder

variable {current reduced : GraphSnapshot} {validated : Validated ρ}

theorem reducedSnapshot_some (reduces : reducedSnapshot current validated = some reduced) :
    reduced = remainder current validated := by
  rw [reducedSnapshot] at reduces
  split_ifs at reduces
  exact (Option.some.inj reduces).symm

/-- A round leaves out a node or a connection. -/
theorem reducedSnapshot_length (reduces : reducedSnapshot current validated = some reduced) :
    reduced.nodes.length + reduced.connections.length <
      current.nodes.length + current.connections.length := by
  have fewerNodes : (remainder current validated).nodes.length ≤ current.nodes.length :=
    List.length_filter_le _ _
  have fewerConnections :
      (remainder current validated).connections.length ≤ current.connections.length :=
    List.length_filter_le _ _
  rw [reducedSnapshot_some reduces]
  rw [reducedSnapshot] at reduces
  split_ifs at reduces with same
  by_contra notFewer
  apply same
  change (remainder current validated).nodes.length = _ ∧
    (remainder current validated).connections.length = _
  omega

theorem uniqueNodes_remainder (current : GraphSnapshot) (validated : Validated ρ) :
    (uniqueNodes (remainder current validated)).1 = (uniqueNodes current).1.filter
      (fun entry => decide (entry.1 ∉ droppedNodes current validated)) := by
  have kept : distinct NodeModel.id [] (remainder current validated).nodes =
      (distinct NodeModel.id [] current.nodes).filter
        (fun node => decide (node.id ∉ droppedNodes current validated)) :=
    distinct_filter (fun nodeId => decide (nodeId ∉ droppedNodes current validated))
      (fun _ _ => Iff.rfl)
  apply Dict.ext
  rw [uniqueNodes_entries, kept]
  change _ = (uniqueNodes current).1.entries.filter _
  rw [uniqueNodes_entries, List.filter_map]
  rfl

theorem get?_uniqueNodes_remainder (nodeId : UUID) :
    (uniqueNodes (remainder current validated)).1.get? nodeId =
      if nodeId ∈ droppedNodes current validated then none
      else (uniqueNodes current).1.get? nodeId := by
  rw [uniqueNodes_remainder, Dict.get?_filter]
  by_cases dropped : nodeId ∈ droppedNodes current validated
  · rw [if_pos dropped]
    simp [dropped]
  · rw [if_neg dropped]
    cases (uniqueNodes current).1.get? nodeId with
    | none => rfl
    | some node => simp [dropped]

/-- The nodes that are kept are defined as before. -/
theorem get?_definitions_remainder (nodeId : UUID) :
    (resolvedNodes registry (remainder current validated)).definitions.get? nodeId =
      if nodeId ∈ droppedNodes current validated then none
      else (resolvedNodes registry current).definitions.get? nodeId := by
  rw [get?_definitions, get?_definitions, get?_uniqueNodes_remainder]
  split <;> rfl

theorem mem_keys_remainder {nodeId : UUID} :
    nodeId ∈ (uniqueNodes (remainder current validated)).1.keys ↔
      nodeId ∈ (uniqueNodes current).1.keys ∧ nodeId ∉ droppedNodes current validated := by
  rw [← Dict.get?_isSome, ← Dict.get?_isSome, get?_uniqueNodes_remainder]
  split <;> simp [*]

/-- A connection between kept nodes is valid if it was. -/
theorem checkConnection_remainder {connection : ConnectionModel}
    (source : connection.sourceNodeId ∉ droppedNodes current validated)
    (destination : connection.destinationNodeId ∉ droppedNodes current validated) :
    (checkConnection (uniqueNodes (remainder current validated)).1
        (resolvedNodes registry (remainder current validated)).definitions connection).isOk = true ↔
      (checkConnection (uniqueNodes current).1 (resolvedNodes registry current).definitions
        connection).isOk = true := by
  rw [checkConnection_isOk, checkConnection_isOk, mem_keys_remainder, mem_keys_remainder,
    get?_definitions_remainder, get?_definitions_remainder, if_neg source, if_neg destination]
  simp only [source, destination, not_false_eq_true, and_true]

/-- An identifier of several connections is excluded. -/
theorem connection_once {demandRoots : Option (List UUID)}
    (analyzed : validateSnapshot registry current demandRoots = .ok validated)
    {connectionId : UUID} (kept : connectionId ∉ droppedConnections validated) :
    (current.connections.filter
      (fun connection => decide (connection.id = connectionId))).length ≤ 1 := by
  rcases validateSnapshot_ok analyzed with ⟨typeIssues, phases⟩
  apply count_key_le_one []
  intro other repeatedly same
  apply kept
  rw [droppedConnections, ← same, phases.issues]
  refine List.mem_filterMap.mpr ⟨duplicateConnection other, ?_, rfl⟩
  simp only [List.append_assoc]
  exact List.mem_append_left _ (List.mem_append_right _ (List.mem_map_of_mem repeatedly))

/-- The connections that an analysis accepts and does not exclude are the valid
ones of what it leaves. -/
theorem mem_validConnections_remainder {demandRoots : Option (List UUID)}
    (analyzed : validateSnapshot registry current demandRoots = .ok validated)
    {connection : ConnectionModel} :
    connection ∈ validConnections registry (remainder current validated) ↔
      connection ∈ validConnections registry current ∧
        connection.id ∉ droppedConnections validated ∧
        connection.sourceNodeId ∉ droppedNodes current validated ∧
        connection.destinationNodeId ∉ droppedNodes current validated := by
  rw [mem_validConnections, mem_validConnections]
  constructor
  · rintro ⟨isDistinct, isValid⟩
    have listed := (mem_sortByKey _).mp (mem_of_mem_distinct isDistinct).1
    rcases List.mem_filter.mp listed with ⟨member, kept⟩
    rcases of_decide_eq_true kept with ⟨keptId, source, destination⟩
    refine ⟨⟨?_, (checkConnection_remainder source destination).mp isValid⟩, keptId, source,
      destination⟩
    apply mem_distinct ((mem_sortByKey _).mpr member) List.not_mem_nil
    rw [((sortByKey_perm ConnectionModel.id current.connections).filter _).length_eq]
    exact connection_once analyzed keptId
  · rintro ⟨⟨isDistinct, isValid⟩, keptId, source, destination⟩
    refine ⟨?_, (checkConnection_remainder source destination).mpr isValid⟩
    have member := (mem_sortByKey _).mp (mem_of_mem_distinct isDistinct).1
    have kept : connection ∈ (remainder current validated).connections :=
      List.mem_filter.mpr ⟨member, decide_eq_true ⟨keptId, source, destination⟩⟩
    apply mem_distinct ((mem_sortByKey _).mpr kept) List.not_mem_nil
    rw [((sortByKey_perm ConnectionModel.id (remainder current validated).connections).filter
      _).length_eq]
    exact ((List.filter_sublist.filter _).length_le).trans (connection_once analyzed keptId)

end Remainder

/-! ## Rounds -/

/-- The snapshots that `compile` analyses one after the other, with what it
finds in them. -/
inductive Round (registry : NodeRegistry ρ) (snapshot : GraphSnapshot)
    (requested : Option (List UUID)) : GraphSnapshot → Validated ρ → Prop
  | whole {validated : Validated ρ}
      (analyzed : validateSnapshot registry snapshot requested = .ok validated) :
      Round registry snapshot requested snapshot validated
  | reduced {current next : GraphSnapshot} {validated again : Validated ρ}
      (round : Round registry snapshot requested current validated)
      (invalid : validated.issues ≠ []) (reduces : reducedSnapshot current validated = some next)
      (analyzed : validateSnapshot registry next (survivingRoots requested next) = .ok again) :
      Round registry snapshot requested next again

theorem Round.analyzed {requested : Option (List UUID)} {current : GraphSnapshot}
    {validated : Validated ρ} (round : Round registry snapshot requested current validated) :
    ∃ demandRoots, validateSnapshot registry current demandRoots = .ok validated := by
  cases round with
  | whole analyzed => exact ⟨requested, analyzed⟩
  | reduced _ _ _ analyzed => exact ⟨_, analyzed⟩

end Graph
end Synesthesia
