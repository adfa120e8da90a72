import Synesthesia.Graph.CycleReports
import Synesthesia.Graph.TypeRenaming

namespace Synesthesia
namespace Graph

open Foundation Contracts Nodes Synesthesia.Runtime

/-!
# Analyses without errors

Every phase of `GraphCompiler._analyze` relies on the results of the others.
Where none of them reports an error, all nodes are defined and ordered, every
listed port has a type, every input is filled as its node requires, and the
clock of a node is the one that it is fed.
-/

variable {ρ : Type} {registry : NodeRegistry ρ} {current : GraphSnapshot}

/-! ## Settled ports -/

theorem resolveVariable_silent {groups next : TypeGroups} {side : PortSide} {name : String}
    {shape : PortType → Except PyError PortType} {resolved : Option PortType}
    (ran : resolveVariable groups false side name shape = .ok (resolved, [], next)) :
    ∃ portType, resolved = some portType := by
  rcases bind_eq_ok.mp ran with ⟨⟨incompatible, searched⟩, _, ran⟩
  rcases bind_eq_ok.mp ran with ⟨⟨valueType, again⟩, _, ran⟩
  by_cases clash : incompatible ≠ ∅
  · cases (if_pos clash).symm.trans ran
  · have settled := (if_neg clash).symm.trans ran
    cases valueType with
    | none => cases settled
    | some valueType =>
        rcases bind_eq_ok.mp settled with ⟨shaped, _, returned⟩
        cases returned
        exact ⟨shaped, rfl⟩

theorem resolvePort_silent {groups next : TypeGroups} {side : PortSide}
    {expression : PortTypeExpression} {resolved : Option PortType}
    (ran : resolvePort groups false side expression = .ok (resolved, [], next)) :
    ∃ portType, resolved = some portType := by
  cases expression with
  | port portType =>
      cases ran
      exact ⟨portType, rfl⟩
  | typeVariable name allowed default => exact resolveVariable_silent ran
  | arrayTypeVariable name allowed => exact resolveVariable_silent ran

/-- Ports that are not only offered are settled where nothing is reported. -/
theorem resolvePorts_silent {isNext : PortSide → Bool}
    {ports : List (PortSide × PortTypeExpression)} {groups : TypeGroups}
    {types : List (PortSide × Option PortType)}
    (ran : resolvePorts isNext ports groups = .ok (types, [])) :
    types.map Prod.fst = ports.map Prod.fst ∧
      ∀ side resolved, (side, resolved) ∈ types → isNext side = false →
        ∃ portType, resolved = some portType := by
  induction ports generalizing groups types with
  | nil =>
      cases ran
      exact ⟨rfl, fun _ _ member => absurd member List.not_mem_nil⟩
  | cons port rest ih =>
      rcases port with ⟨side, expression⟩
      rcases bind_eq_ok.mp ran with ⟨⟨resolved, issues, next⟩, first, ran⟩
      rcases bind_eq_ok.mp ran with ⟨⟨others, otherIssues⟩, restRan, ran⟩
      rcases Except.ok.inj ran with same
      rw [Prod.mk.injEq, List.append_eq_nil_iff] at same
      rcases same with ⟨rfl, rfl, rfl⟩
      rcases ih restRan with ⟨sides, settled⟩
      refine ⟨by rw [List.map_cons, List.map_cons, sides], ?_⟩
      intro other otherResolved member shown
      rcases List.mem_cons.mp member with isFirst | inRest
      · cases isFirst
        rw [shown] at first
        exact resolvePort_silent first
      · exact settled other otherResolved inRest shown

/-- A silent inference settles every port that is not only offered, and the
types of connected ports fit. -/
theorem TypeInput.silent {input : TypeInput ρ} {types : Dict PortSide (Option PortType)}
    (ran : input.run = .ok (types, [])) :
    (∀ side expression, input.HasPort side expression → ¬ input.NextOnly side →
      ∃ portType, types.get? side = some (some portType)) ∧
    ∀ connection ∈ input.connections, compatibilityIssue types connection = none := by
  rcases TypeInput.portDeclarations_eq_ok input with ⟨declarations, declared, states⟩
  rcases bind_eq_ok.mp ran with ⟨_, alsoDeclared, ran⟩
  cases declared.symm.trans alsoDeclared
  rcases bind_eq_ok.mp ran with ⟨groups, _, ran⟩
  rcases bind_eq_ok.mp ran with ⟨⟨entries, issues⟩, resolved, ran⟩
  have same := Except.ok.inj ran
  rw [Prod.mk.injEq, List.append_eq_nil_iff] at same
  rcases same with ⟨rfl, rfl, fitting⟩
  rcases resolvePorts_silent resolved with ⟨sides, settled⟩
  have sameEntries : (Dict.ofEntries entries).entries = entries := by
    apply Dict.ofEntries_entries
    rw [sides]
    exact Dict.keys_nodup _
  refine ⟨?_, ?_⟩
  · intro side expression isPort shown
    have listed : side ∈ entries.map Prod.fst := by
      rw [sides]
      exact List.mem_map_of_mem (Dict.mem_of_get?
        ((TypeInput.get?_expressions states side expression).mpr isPort))
    rcases List.mem_map.mp listed with ⟨⟨other, found⟩, member, same⟩
    dsimp only at same
    subst same
    have notNext : decide (other ∈
        (declarations.filter PortDeclaration.isNext).map PortDeclaration.side) = false := by
      rw [decide_eq_false_iff_not, TypeInput.mem_nextOnly states isPort]
      exact shown
    rcases settled other found member notNext with ⟨portType, rfl⟩
    refine ⟨portType, Dict.get?_of_mem ?_⟩
    rw [sameEntries]
    exact member
  · exact List.filterMap_eq_nil_iff.mp fitting

/-! ## Clocks -/

theorem analyzeClocks_issues (definitions : Dict UUID (NodeExecutionContract ρ))
    (connections : List ConnectionModel) (order : List UUID) (clocks : Dict UUID (Option UUID))
    (issues : List ValidationIssue) :
    issues ⊆ (analyzeClocks definitions connections order clocks issues).2 := by
  induction order generalizing clocks issues with
  | nil => exact List.Subset.refl _
  | cons nodeId rest ih =>
      rw [analyzeClocks]
      split
      · exact ih _ _
      · split
        · exact ih _ _
        · split
          · exact ih _ _
          · exact ih _ _
          · exact List.Subset.trans (List.subset_append_left _ _) (ih _ _)

/-- The clocks of the visited nodes: a source has its own, another node the one
that the nodes before it have. -/
structure ClocksExact (definitions : Dict UUID (NodeExecutionContract ρ))
    (connections : List ConnectionModel) (visited : List UUID)
    (clocks : Dict UUID (Option UUID)) : Prop where
  known : ∀ nodeId ∈ visited, (definitions.get? nodeId).isSome = true →
    (clocks.get? nodeId).isSome = true
  own : ∀ nodeId ∈ visited, ∀ definition, definitions.get? nodeId = some definition →
    definition.executionKind = .source → clocks.get? nodeId = some (some nodeId)
  fed : ∀ nodeId ∈ visited, ∀ definition, definitions.get? nodeId = some definition →
    definition.executionKind ≠ .source → ∀ clock, clocks.get? nodeId = some (some clock) ↔
      ∃ predecessor ∈ predecessors connections nodeId,
        clocks.get? predecessor = some (some clock)

section Clocks

variable {definitions : Dict UUID (NodeExecutionContract ρ)}
  {connections : List ConnectionModel} {visited : List UUID} {clocks : Dict UUID (Option UUID)}

theorem ClocksExact.skip (exact : ClocksExact definitions connections visited clocks)
    {nodeId : UUID} (undefined : definitions.get? nodeId = none) :
    ClocksExact definitions connections (visited ++ [nodeId]) clocks := by
  have onVisited : ∀ other ∈ visited ++ [nodeId], ∀ definition,
      definitions.get? other = some definition → other ∈ visited := by
    intro other member definition defined
    rcases List.mem_append.mp member with before | here
    · exact before
    · rw [List.mem_singleton.mp here, undefined] at defined
      cases defined
  refine ⟨?_, ?_, ?_⟩
  · intro other member isDefined
    rcases Option.isSome_iff_exists.mp isDefined with ⟨definition, defined⟩
    exact exact.known other (onVisited other member definition defined) isDefined
  · exact fun other member definition defined =>
      exact.own other (onVisited other member definition defined) definition defined
  · exact fun other member definition defined =>
      exact.fed other (onVisited other member definition defined) definition defined

/-- A further node with the clock that the visited nodes before it have. -/
theorem ClocksExact.visit (exact : ClocksExact definitions connections visited clocks)
    {nodeId : UUID} {definition : NodeExecutionContract ρ}
    (defined : definitions.get? nodeId = some definition) (fresh : nodeId ∉ visited)
    (before : ∀ later ∈ visited ++ [nodeId], ∀ predecessor ∈ predecessors connections later,
      predecessor ∈ visited) (clock : Option UUID)
    (own : definition.executionKind = .source → clock = some nodeId)
    (fed : definition.executionKind ≠ .source → ∀ incoming, clock = some incoming ↔
      incoming ∈ incomingClocks connections clocks nodeId) :
    ClocksExact definitions connections (visited ++ [nodeId]) (clocks.insert nodeId clock) := by
  have unchanged : ∀ other ∈ visited,
      (clocks.insert nodeId clock).get? other = clocks.get? other := by
    intro other member
    apply Dict.get?_insert_of_ne
    rintro rfl
    exact fresh member
  refine ⟨?_, ?_, ?_⟩
  · intro other member isDefined
    rcases List.mem_append.mp member with earlier | here
    · rw [unchanged other earlier]
      exact exact.known other earlier isDefined
    · rw [List.mem_singleton.mp here, Dict.get?_insert_self]
      rfl
  · intro other member otherDefinition otherDefined isSource
    rcases List.mem_append.mp member with earlier | here
    · rw [unchanged other earlier]
      exact exact.own other earlier otherDefinition otherDefined isSource
    · rw [List.mem_singleton.mp here, defined] at otherDefined
      rw [List.mem_singleton.mp here, Dict.get?_insert_self,
        own ((Option.some.inj otherDefined) ▸ isSource)]
  · intro other member otherDefinition otherDefined notSource incoming
    have sameFed : (∃ predecessor ∈ predecessors connections other,
        (clocks.insert nodeId clock).get? predecessor = some (some incoming)) ↔
          ∃ predecessor ∈ predecessors connections other,
            clocks.get? predecessor = some (some incoming) := by
      apply exists_congr
      intro predecessor
      apply and_congr_right
      intro isPredecessor
      rw [unchanged predecessor (before other member predecessor isPredecessor)]
    rw [sameFed]
    rcases List.mem_append.mp member with earlier | here
    · rw [unchanged other earlier]
      exact exact.fed other earlier otherDefinition otherDefined notSource incoming
    · have isNode := List.mem_singleton.mp here
      subst isNode
      rw [defined, Option.some.injEq] at otherDefined
      subst otherDefined
      rw [Dict.get?_insert_self, Option.some.injEq, fed notSource incoming, mem_incomingClocks]

/-- Without a mismatch every node has the clock that it is fed. -/
theorem analyzeClocks_exact (order visited : List UUID) {clocks : Dict UUID (Option UUID)}
    {issues : List ValidationIssue} (exact : ClocksExact definitions connections visited clocks)
    (distinct : (visited ++ order).Nodup)
    (first : PredecessorsFirst (edges connections) (visited ++ order))
    (silent : (analyzeClocks definitions connections order clocks issues).2 = []) :
    ClocksExact definitions connections (visited ++ order)
      (analyzeClocks definitions connections order clocks issues).1 := by
  induction order generalizing visited clocks issues with
  | nil => rwa [List.append_nil]
  | cons nodeId rest ih =>
      have regrouped : visited ++ nodeId :: rest = visited ++ [nodeId] ++ rest := by simp
      have fresh : nodeId ∉ visited := by
        intro old
        exact List.disjoint_of_nodup_append distinct old List.mem_cons_self
      have before : ∀ later ∈ visited ++ [nodeId],
          ∀ predecessor ∈ predecessors connections later, predecessor ∈ visited := by
        intro later member predecessor isPredecessor
        have isEdge : (predecessor, later) ∈ edges connections := by
          rcases mem_predecessors.mp isPredecessor with ⟨connection, isConnection, ends, starts⟩
          exact mem_edges.mpr ⟨connection, isConnection, starts, ends⟩
        rcases List.mem_append.mp member with earlier | here
        · rcases List.append_of_mem earlier with ⟨front, back, rfl⟩
          have split : front ++ later :: back ++ nodeId :: rest =
              front ++ later :: (back ++ nodeId :: rest) := by simp
          exact List.mem_append_left _ (first front later _ split predecessor isEdge)
        · rw [List.mem_singleton.mp here] at isEdge
          exact first visited nodeId rest rfl predecessor isEdge
      rw [regrouped] at distinct first ⊢
      rw [analyzeClocks] at silent ⊢
      cases defined : definitions.get? nodeId with
      | none =>
          simp only [defined] at silent ⊢
          exact ih _ (exact.skip defined) distinct first silent
      | some definition =>
          simp only [defined] at silent ⊢
          by_cases isSource : definition.executionKind = .source
          · rw [if_pos isSource] at silent ⊢
            exact ih _ (exact.visit defined fresh before _ (fun _ => rfl)
              (fun notSource => absurd isSource notSource)) distinct first silent
          · rw [if_neg isSource] at silent ⊢
            have notOwn : ∀ {clock : Option UUID},
                definition.executionKind = .source → clock = some nodeId :=
              fun contrary => absurd contrary isSource
            cases incoming : incomingClocks connections clocks nodeId with
            | nil =>
                simp only [incoming] at silent ⊢
                refine ih _ (exact.visit defined fresh before _ notOwn ?_)
                  distinct first silent
                intro _ clock
                rw [incoming]
                simp
            | cons clock others =>
                cases others with
                | nil =>
                    simp only [incoming] at silent ⊢
                    refine ih _ (exact.visit defined fresh before _ notOwn ?_)
                      distinct first silent
                    intro _ other
                    rw [incoming, Option.some.injEq, List.mem_singleton, eq_comm]
                | cons second others =>
                    simp only [incoming] at silent
                    have reported := analyzeClocks_issues definitions connections rest
                      (clocks.insert nodeId none) (issues ++ [clockMismatch nodeId])
                      (List.mem_append_right _ (List.mem_singleton_self _))
                    rw [silent] at reported
                    cases reported

end Clocks

/-! ## The phases of a valid analysis -/

/-- An analysis that reports no error. -/
structure ValidAnalysis (registry : NodeRegistry ρ) (current : GraphSnapshot)
    (demandRoots : Option (List UUID)) (validated : Validated ρ) : Prop where
  analyzed : validateSnapshot registry current demandRoots = .ok validated
  silent : validated.issues = []

/-- The phases of a valid analysis, none of which reports anything. -/
structure SilentPhases (registry : NodeRegistry ρ) (current : GraphSnapshot)
    (demandRoots : Option (List UUID)) (validated : Validated ρ) : Prop where
  phases : AnalyzedAs registry current demandRoots validated []
  duplicates : (uniqueNodes current).2 = []
  definitions : (resolvedNodes registry current).issues = []
  cardinality : validateCardinality validated.analysis.connections = []
  required : validateRequiredInputs validated.analysis.connections
    validated.analysis.definitions validated.analysis.parameters = []
  clocks : (analyzeClocks validated.analysis.definitions validated.analysis.connections
    validated.analysis.order Dict.empty []).2 = []

section Valid

variable {demandRoots : Option (List UUID)} {validated : Validated ρ}

theorem ValidAnalysis.phases
    (valid : ValidAnalysis registry current demandRoots validated) :
    SilentPhases registry current demandRoots validated := by
  rcases validateSnapshot_ok valid.analyzed with ⟨typeIssues, phases⟩
  have nothing := phases.issues
  rw [valid.silent, eq_comm] at nothing
  simp only [List.append_eq_nil_iff] at nothing
  rcases nothing with ⟨⟨⟨⟨⟨⟨⟨⟨duplicates, definitions⟩, _⟩, cardinality⟩, rfl⟩, _⟩, required⟩,
    clocks⟩, _⟩
  refine ⟨phases, duplicates, definitions, ?_, ?_, clocks⟩
  · rw [phases.connections]
    exact cardinality
  · rw [phases.connections, phases.definitions, phases.parameters]
    exact required

/-- How a node of a valid snapshot is known to the analysis. -/
structure KnownNode (registry : NodeRegistry ρ) (current : GraphSnapshot) (analysis : Analysis ρ)
    (nodeId : UUID) (model : NodeModel) (definition : NodeExecutionContract ρ) : Prop where
  member : model ∈ current.nodes
  identifier : model.id = nodeId
  registered : registry.get? model.typeId = some definition
  version : model.implementationVersion = definition.implementationVersion
  literals : (definition.parameterValues model.parameters).2 = []
  defined : analysis.definitions.get? nodeId = some definition
  parameters : analysis.parameters.get? nodeId =
    some (definition.parameterValues model.parameters).1

/-- Every node of a valid analysis has a known type, in its version, with valid
literals. -/
theorem SilentPhases.known (silent : SilentPhases registry current demandRoots validated)
    {nodeId : UUID} (isNode : nodeId ∈ validated.analysis.nodes) :
    ∃ model definition, KnownNode registry current validated.analysis nodeId model definition := by
  rw [silent.phases.nodes, ← Dict.get?_isSome] at isNode
  rcases Option.isSome_iff_exists.mp isNode with ⟨model, found⟩
  have isEntry := Dict.mem_of_get? found
  have listed := isEntry
  rw [uniqueNodes_entries] at listed
  rcases List.mem_map.mp listed with ⟨_, isDistinct, same⟩
  cases same
  have reported := silent.definitions
  rw [resolvedNodes, resolveDefinitions, List.flatMap_eq_nil_iff] at reported
  have own := reported _ ((mem_sortByKey _).mpr isEntry)
  rw [definitionIssues] at own
  cases registered : registry.get? model.typeId with
  | none =>
      rw [registered] at own
      cases own
  | some definition =>
      rw [registered] at own
      simp only [List.append_eq_nil_iff, List.map_eq_nil_iff] at own
      refine ⟨model, definition, (mem_of_mem_distinct isDistinct).1, rfl, registered, ?_, own.2,
        ?_, ?_⟩
      · by_contra mismatch
        rw [if_pos mismatch] at own
        cases own.1
      · rw [silent.phases.definitions, get?_definitions, found, Option.bind_some, registered]
      · rw [silent.phases.parameters, resolvedNodes, resolveDefinitions, get?_definedNodes, found,
          Option.bind_some, registered]
        rfl

/-- The order of a valid analysis lists every node once, after those that feed
it. -/
theorem ValidAnalysis.ordered (valid : ValidAnalysis registry current demandRoots validated) :
    validated.analysis.order.Nodup ∧
      (∀ nodeId, nodeId ∈ validated.analysis.order ↔ nodeId ∈ validated.analysis.nodes) ∧
      PredecessorsFirst (edges validated.analysis.connections) validated.analysis.order := by
  have phases := valid.phases.phases
  have sources : ∀ edge ∈ edges validated.analysis.connections,
      edge.1 ∈ validated.analysis.nodes := by
    rintro ⟨earlier, later⟩ member
    rcases mem_edges.mp member with ⟨connection, isConnection, rfl, _⟩
    exact validated.analysis.source_mem connection isConnection
  have destinations := edges_destination_mem validated.analysis.toResolved
  have nodesDistinct := validated.analysis.nodes_nodup
  have edgesDistinct : (edges validated.analysis.connections).Nodup := List.nodup_dedup _
  have isOrder : validated.analysis.order =
      (topologicalSort validated.analysis.nodes (edges validated.analysis.connections)).2.2 := by
    rw [phases.analysis]
    rfl
  have listed := nodup_topologicalSort nodesDistinct edgesDistinct destinations
  rw [isOrder]
  refine ⟨listed.1, ?_, topologicalSort_predecessorsFirst nodesDistinct edgesDistinct destinations⟩
  intro nodeId
  refine ⟨fun member => listed.2 _ member, ?_⟩
  intro isNode
  by_contra leftOut
  have behind := (topologicalSort_leaves_out nodesDistinct edgesDistinct sources destinations
    isNode).mp leftOut
  simp only [mem_edges] at behind
  rw [phases.connections] at behind
  rcases (reported_iff valid.analyzed nodeId).mpr behind with ⟨issue, reported, _⟩
  rw [valid.silent] at reported
  cases reported

/-- A valid analysis has one connection into an input at most. -/
theorem SilentPhases.only_occupant
    (silent : SilentPhases registry current demandRoots validated)
    {left right : ConnectionModel} (isLeft : left ∈ validated.analysis.connections)
    (isRight : right ∈ validated.analysis.connections) (same : left.target = right.target) :
    left = right := by
  have cardinality := silent.cardinality
  rw [validateCardinality, List.map_eq_nil_iff, List.filter_eq_nil_iff] at cardinality
  have isInput : left.target ∈ inputsInOrder validated.analysis.connections := by
    rw [inputsInOrder, Dict.mem_keys_ofEntries, List.map_map]
    exact List.mem_map.mpr ⟨left, isLeft, rfl⟩
  have few := cardinality left.target isInput
  rw [decide_eq_true_eq, not_lt] at few
  have leftOccupies : left ∈ occupants validated.analysis.connections left.target :=
    List.mem_filter.mpr ⟨isLeft, decide_eq_true rfl⟩
  have rightOccupies : right ∈ occupants validated.analysis.connections left.target :=
    List.mem_filter.mpr ⟨isRight, decide_eq_true same.symm⟩
  rcases Nat.le_one_iff_eq_zero_or_eq_one.mp few with none | one
  · rw [List.length_eq_zero_iff.mp none] at leftOccupies
    cases leftOccupies
  · rcases List.length_eq_one_iff.mp one with ⟨only, isOnly⟩
    rw [isOnly, List.mem_singleton] at leftOccupies rightOccupies
    exact leftOccupies.trans rightOccupies.symm

/-- The inference of a valid analysis settled all ports and reported nothing. -/
theorem SilentPhases.inferred (silent : SilentPhases registry current demandRoots validated) :
    (typeInput registry current).run = .ok (validated.analysis.resolvedTypes, []) :=
  silent.phases.types

theorem ValidAnalysis.clocks (valid : ValidAnalysis registry current demandRoots validated) :
    ClocksExact validated.analysis.definitions validated.analysis.connections
      validated.analysis.order validated.analysis.clocks := by
  have silent := valid.phases
  rcases valid.ordered with ⟨distinct, _, first⟩
  have isClocks : validated.analysis.clocks = (analyzeClocks validated.analysis.definitions
      validated.analysis.connections validated.analysis.order Dict.empty []).1 := by
    have unfolded := congrArg Analysis.clocks silent.phases.analysis
    have sameOrder := congrArg Analysis.order silent.phases.analysis
    rw [unfolded, sameOrder]
    rfl
  rw [isClocks]
  refine analyzeClocks_exact validated.analysis.order [] ⟨?_, ?_, ?_⟩ distinct first silent.clocks
  all_goals
    intro nodeId impossible
    cases impossible

/-- Every required input of a node is connected, and a family has as many
connections as it needs. -/
theorem SilentPhases.filled (silent : SilentPhases registry current demandRoots validated)
    {nodeId : UUID} {definition : NodeExecutionContract ρ}
    {parameters : Dict String ParameterValue}
    (defined : validated.analysis.definitions.get? nodeId = some definition)
    (known : validated.analysis.parameters.get? nodeId = some parameters) :
    ∀ portId ∈ definition.requiredInputs parameters,
      requiredInputIssue definition nodeId
        (connectedInputs validated.analysis.connections nodeId) portId = none := by
  intro portId isRequired
  have required := silent.required
  rw [validateRequiredInputs, List.flatMap_eq_nil_iff] at required
  have own := required (nodeId, definition) (Dict.mem_of_get? defined)
  rw [List.filterMap_eq_nil_iff] at own
  apply own
  rw [mem_sortByKey, known]
  exact isRequired

end Valid

end Graph
end Synesthesia
