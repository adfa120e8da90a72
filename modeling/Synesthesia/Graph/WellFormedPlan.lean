import Synesthesia.Graph.CompiledBindings
import Synesthesia.Graph.MaximalRemainder
import Synesthesia.Graph.ValidAnalysis

namespace Synesthesia
namespace Graph

open Foundation Contracts Nodes Synesthesia.Runtime

/-!
# Well-formed plans

The scheduler reads a plan without checks: it looks up the values that a
binding names and the runtimes of the nodes, in the order of the plan.  What it
relies on is a condition on the plan alone, and every plan that
`GraphCompiler.compile` returns meets it, whatever the document was.
-/

variable {ρ : Type}

/-! ## What a scheduler relies on -/

/-- The node reads an output of the other. -/
def Reads (node source : CompiledNode ρ) : Prop :=
  ∃ portId binding, node.inputBindings.get? portId = some binding ∧
    binding.source.nodeId = source.nodeId

/-- A binding joins a declared output to a socket whose type it fits; the
conversion is recorded for an integer that becomes a float, and for nothing
else. -/
structure FittingBinding (source node : CompiledNode ρ) (portId : String)
    (binding : InputBinding) : Prop where
  identifier : binding.source.nodeId = source.nodeId
  output : source.definition.output binding.source.portId ≠ none
  socket : hasSocket node.definition portId = true
  typed : ∃ sourceType inputType,
    source.outputTypes.get? binding.source.portId = some sourceType ∧
    node.inputTypes.get? portId = some inputType ∧
    typesCompatible sourceType inputType = true ∧
    (binding.conversion = some .intToFloat ↔ sourceType = .int ∧ inputType = .float)

/-- A required input is bound; a family has as many bound sockets as it needs. -/
def Fills (node : CompiledNode ρ) (portId : String) : Prop :=
  match node.definition.variadicInput.filter (fun family => decide (portId = family.idPrefix)) with
  | some family => family.minimumCount ≤
      (node.inputBindings.keys.filter (fun socket => (family.index socket).isSome)).length
  | none => portId ∈ node.inputBindings.keys

/-- A node of the plan reads another. -/
def PlanReads (plan : ExecutionPlan ρ) (later earlier : CompiledNode ρ) : Prop :=
  later ∈ plan.nodes ∧ earlier ∈ plan.nodes ∧ Reads later earlier

/-- What the scheduler relies on in a plan. -/
structure WellFormedPlan (plan : ExecutionPlan ρ) : Prop where
  distinct : (plan.nodes.map CompiledNode.nodeId).Nodup
  bindings : ∀ before node after, plan.nodes = before ++ node :: after →
    ∀ portId binding, node.inputBindings.get? portId = some binding →
      ∃ source ∈ before, FittingBinding source node portId binding
  required : ∀ node ∈ plan.nodes, ∀ portId ∈ node.definition.requiredInputs node.parameters,
    Fills node portId
  outputs : ∀ node ∈ plan.nodes, ∀ portId, portId ∈ node.outputTypes.keys ↔
    portId ∈ node.definition.outputs.map OutputPortSpec.id
  sourceClock : ∀ node ∈ plan.nodes, node.definition.executionKind = .source →
    node.clockId = some node.nodeId
  fedClock : ∀ node ∈ plan.nodes, node.definition.executionKind ≠ .source → ∀ clock,
    node.clockId = some clock ↔
      ∃ source ∈ plan.nodes, Reads node source ∧ source.clockId = some clock
  static : ∀ node ∈ plan.nodes, node.isStatic = true ↔
    node.clockId = none ∧ node.definition.cachePolicy ≠ .never
  demanded : ∀ node ∈ plan.nodes, node.isDemanded = true ↔ ∃ root ∈ plan.nodes,
    root.nodeId ∈ plan.demandRoots ∧ Relation.ReflTransGen (PlanReads plan) root node

/-- The plan compiles nodes of the document, by their known types and with
their literals. -/
structure CompilesDocument (registry : NodeRegistry ρ) (snapshot : GraphSnapshot)
    (plan : ExecutionPlan ρ) : Prop where
  documentId : plan.documentId = snapshot.documentId
  graphRevision : plan.graphRevision = snapshot.revision
  nodes : ∀ node ∈ plan.nodes, ∃ model ∈ snapshot.nodes, model.id = node.nodeId ∧
    registry.get? model.typeId = some node.definition ∧
    model.implementationVersion = node.definition.implementationVersion ∧
    node.definition.parameterValues model.parameters = (node.parameters, [])

/-! ## Plans of valid analyses -/

section Valid

variable {registry : NodeRegistry ρ} {snapshot current : GraphSnapshot}
  {demandRoots : Option (List UUID)} {validated : Validated ρ} {plan : ExecutionPlan ρ}

/-- The nodes of a plan stand in the order of the analysis, and each is
recorded from it. -/
theorem planOf_recorded (built : planOf snapshot validated = .ok plan) :
    plan.nodes.map CompiledNode.nodeId = validated.analysis.order ∧
      ∀ node ∈ plan.nodes, RecordedFrom validated.analysis node := by
  rcases bind_eq_ok.mp built with ⟨nodes, compiled, returned⟩
  cases returned
  exact compileNodes_recorded compiled

theorem planOf_identity (built : planOf snapshot validated = .ok plan) :
    plan.documentId = snapshot.documentId ∧ plan.graphRevision = snapshot.revision ∧
      plan.demandRoots = validated.analysis.roots := by
  rcases bind_eq_ok.mp built with ⟨nodes, _, returned⟩
  cases returned
  exact ⟨rfl, rfl, rfl⟩

/-- A valid connection ends at a socket that `_compile_node` binds. -/
theorem mem_inputSocketIds {connections : List ConnectionModel} {nodeId : UUID}
    {definition : NodeExecutionContract ρ} {portId : String}
    (occupied : portId ∈ (incomingConnections connections nodeId).keys)
    (socket : hasSocket definition portId = true) :
    portId ∈ inputSocketIds definition (incomingConnections connections nodeId).keys := by
  rw [hasSocket, Bool.or_eq_true] at socket
  rw [inputSocketIds, List.mem_append]
  rcases socket with isInput | isParameter
  · rcases NodeExecutionContract.mem_inputPorts_of_connected occupied isInput with
      ⟨port, listed, same⟩
    exact Or.inl (List.mem_map.mpr ⟨port, listed, same⟩)
  · rcases (Option.any_eq_true _ _).mp isParameter with ⟨parameter, found, connectable⟩
    have listed := List.mem_of_find?_eq_some found
    have isId : parameter.id = portId := by simpa using List.find?_some found
    exact Or.inr (List.mem_map.mpr
      ⟨parameter, List.mem_filter.mpr ⟨listed, connectable⟩, isId⟩)

theorem exists_planNode (built : planOf snapshot validated = .ok plan) {nodeId : UUID}
    (ordered : nodeId ∈ validated.analysis.order) :
    ∃ node ∈ plan.nodes, node.nodeId = nodeId := by
  rw [← (planOf_recorded built).1] at ordered
  exact List.mem_map.mp ordered

/-- What a valid connection is known to join. -/
theorem ValidAnalysis.joined
    (valid : ValidAnalysis registry current demandRoots validated) {connection : ConnectionModel}
    (member : connection ∈ validated.analysis.connections) :
    ∃ source destination,
      validated.analysis.definitions.get? connection.sourceNodeId = some source ∧
      validated.analysis.definitions.get? connection.destinationNodeId = some destination ∧
      source.output connection.sourcePortId ≠ none ∧
      hasSocket destination connection.destinationPortId = true := by
  have phases := valid.phases.phases
  rw [phases.connections] at member
  rw [phases.definitions]
  exact (typeInput registry current).joined connection member

/-- The settled types of a valid connection fit. -/
theorem ValidAnalysis.fits
    (valid : ValidAnalysis registry current demandRoots validated) {connection : ConnectionModel}
    (member : connection ∈ validated.analysis.connections) :
    ∃ sourceType inputType,
      validated.analysis.resolvedTypes.get?
        (connection.sourceNodeId, connection.sourcePortId, true) = some (some sourceType) ∧
      validated.analysis.resolvedTypes.get?
        (connection.destinationNodeId, connection.destinationPortId, false) =
          some (some inputType) ∧
      typesCompatible sourceType inputType = true := by
  have silent := valid.phases
  rw [silent.phases.connections] at member
  rcases TypeInput.silent silent.inferred with ⟨settled, compatible⟩
  rcases TypeInput.exists_joins (typeInput registry current) member with
    ⟨source, destination, isSource, isDestination⟩
  rcases settled _ _ isSource (fun next => by cases next.1) with
    ⟨sourceType, sourceSettled⟩
  have shown : ¬ (typeInput registry current).NextOnly
      (connection.destinationNodeId, connection.destinationPortId, false) := by
    rintro ⟨_, definition, known, ⟨port, _, isPort⟩, absent⟩
    rcases (typeInput registry current).joined connection member with
      ⟨_, other, _, otherKnown, _, socket⟩
    cases known.symm.trans otherKnown
    have occupied : connection.destinationPortId ∈
        (typeInput registry current).connected connection.destinationNodeId := by
      refine List.mem_dedup.mpr (List.mem_map.mpr ⟨connection, ?_, rfl⟩)
      exact List.mem_filter.mpr ⟨member, decide_eq_true rfl⟩
    rw [hasSocket, Bool.or_eq_true] at socket
    rcases socket with isInput | isParameter
    · rcases NodeExecutionContract.mem_inputPorts_of_connected occupied isInput with
        ⟨listed, isListed, same⟩
      exact absent listed isListed same
    · rcases (Option.any_eq_true _ _).mp isParameter with ⟨parameter, found, _⟩
      have isId : parameter.id = connection.destinationPortId := by
        simpa using List.find?_some found
      have constructed := (typeInput registry current).constructed _ _ known
      exact parameter_not_listed constructed (List.mem_of_find?_eq_some found) ‹_›
        (isPort.trans isId.symm)
  rcases settled _ _ isDestination shown with ⟨inputType, inputSettled⟩
  refine ⟨sourceType, inputType, sourceSettled, inputSettled, ?_⟩
  have fitting := compatible connection member
  rw [compatibilityIssue, sourceSettled, inputSettled] at fitting
  by_contra misfit
  simp only [Option.join_some] at fitting
  rw [if_neg misfit] at fitting
  cases fitting

/-- A binding of a compiled node is that of a valid connection into it. -/
theorem binding_connection (built : planOf snapshot validated = .ok plan)
    {node : CompiledNode ρ} (isNode : node ∈ plan.nodes) {portId : String}
    {binding : InputBinding} (found : node.inputBindings.get? portId = some binding) :
    ∃ connection ∈ validated.analysis.connections,
      connection.destinationNodeId = node.nodeId ∧ connection.destinationPortId = portId ∧
        BoundBy validated.analysis.resolvedTypes connection binding := by
  have recorded := ((planOf_recorded built).2 node isNode).recorded
  rcases recorded.bound portId binding found with ⟨connection, incoming, bound⟩
  rcases incomingConnections_sound incoming with ⟨member, ends, port⟩
  exact ⟨connection, member, ends, port, bound⟩

section Planned

variable (valid : ValidAnalysis registry current demandRoots validated)
  (built : planOf snapshot validated = .ok plan) {node : CompiledNode ρ}
  (isNode : node ∈ plan.nodes)

include valid built isNode

/-- A valid connection into a compiled node is bound. -/
theorem connection_bound {connection : ConnectionModel}
    (member : connection ∈ validated.analysis.connections)
    (ends : connection.destinationNodeId = node.nodeId) :
    ∃ binding, node.inputBindings.get? connection.destinationPortId = some binding ∧
      BoundBy validated.analysis.resolvedTypes connection binding := by
  have from_ := (planOf_recorded built).2 node isNode
  rcases valid.joined member with ⟨_, definition, _, known, _, socket⟩
  rw [ends, from_.definition, Option.some.injEq] at known
  subst known
  have occupied := mem_keys_incomingConnections.mpr ⟨connection, member, ends, rfl⟩
  have isKey := (from_.recorded.binds connection.destinationPortId).mpr
    ⟨mem_inputSocketIds occupied socket, occupied⟩
  rcases Option.isSome_iff_exists.mp ((Dict.get?_isSome _ _).mpr isKey) with ⟨binding, found⟩
  rcases binding_connection built isNode found with
    ⟨other, otherMember, otherEnds, otherPort, bound⟩
  have same : other = connection := by
    apply valid.phases.only_occupant otherMember member
    rw [ConnectionModel.target, ConnectionModel.target, otherEnds, otherPort, ends]
  rw [same] at bound
  exact ⟨binding, found, bound⟩

/-- A compiled node reads the nodes that valid connections lead from. -/
theorem reads_iff {source : CompiledNode ρ} :
    Reads node source ↔
      source.nodeId ∈ predecessors validated.analysis.connections node.nodeId := by
  rw [mem_predecessors]
  constructor
  · rintro ⟨portId, binding, found, isSource⟩
    rcases binding_connection built isNode found with ⟨connection, member, ends, _, bound⟩
    refine ⟨connection, member, ends, ?_⟩
    rw [← isSource, bound.source]
  · rintro ⟨connection, member, ends, starts⟩
    rcases connection_bound valid built isNode member ends with ⟨binding, found, bound⟩
    refine ⟨connection.destinationPortId, binding, found, ?_⟩
    rw [bound.source, ← starts]

omit isNode in
theorem fittingBinding_of_valid {before after : List (CompiledNode ρ)}
    (split : plan.nodes = before ++ node :: after) {portId : String} {binding : InputBinding}
    (found : node.inputBindings.get? portId = some binding) :
    ∃ source ∈ before, FittingBinding source node portId binding := by
  rcases planOf_recorded built with ⟨identifiers, recorded⟩
  have isNode : node ∈ plan.nodes := by
    rw [split]
    exact List.mem_append_right _ List.mem_cons_self
  rcases binding_connection built isNode found with
    ⟨connection, member, ends, rfl, bound⟩
  have isEdge : (connection.sourceNodeId, node.nodeId) ∈
      edges validated.analysis.connections := mem_edges.mpr ⟨connection, member, rfl, ends⟩
  have orderSplit : validated.analysis.order =
      before.map CompiledNode.nodeId ++ node.nodeId :: after.map CompiledNode.nodeId := by
    rw [← identifiers, split, List.map_append, List.map_cons]
  have earlier := valid.ordered.2.2 _ _ _ orderSplit _ isEdge
  rcases List.mem_map.mp earlier with ⟨source, isBefore, isSource⟩
  have isPlanned : source ∈ plan.nodes := by
    rw [split]
    exact List.mem_append_left _ isBefore
  rcases valid.joined member with ⟨sourceDefinition, definition, sourceKnown, known, output, socket⟩
  rw [← isSource, (recorded source isPlanned).definition, Option.some.injEq] at sourceKnown
  rw [ends, (recorded node isNode).definition, Option.some.injEq] at known
  subst sourceKnown known
  rcases bound.converted with ⟨sourceType, inputType, sourceSettled, inputSettled, converted⟩
  rcases valid.fits member with ⟨_, _, alsoSource, alsoInput, compatible⟩
  cases sourceSettled.symm.trans alsoSource
  cases inputSettled.symm.trans alsoInput
  refine ⟨source, isBefore, ?_, ?_, socket, sourceType, inputType, ?_, ?_, compatible, converted⟩
  · rw [bound.source, isSource]
  · rw [bound.source]
    exact output
  · rw [bound.source]
    have listed : connection.sourcePortId ∈ source.outputTypes.keys := by
      rw [(recorded source isPlanned).recorded.outputs]
      rcases Option.ne_none_iff_exists'.mp output with ⟨port, isPort⟩
      have isId : port.id = connection.sourcePortId := by simpa using List.find?_some isPort
      exact List.mem_map.mpr ⟨port, List.mem_of_find?_eq_some isPort, isId⟩
    rcases Option.isSome_iff_exists.mp ((Dict.get?_isSome _ _).mpr listed) with ⟨portType, typed⟩
    have settled := (recorded source isPlanned).recorded.outputTypes _ _ typed
    rw [isSource, sourceSettled, Option.some.injEq, Option.some.injEq] at settled
    rw [typed, settled]
  · have occupied := mem_keys_incomingConnections.mpr ⟨connection, member, ends, rfl⟩
    have listed : connection.destinationPortId ∈ node.inputTypes.keys :=
      ((recorded node isNode).recorded.inputs _).mpr (mem_inputSocketIds occupied socket)
    rcases Option.isSome_iff_exists.mp ((Dict.get?_isSome _ _).mpr listed) with ⟨portType, typed⟩
    have settled := (recorded node isNode).recorded.inputTypes _ _ typed
    rw [← ends, inputSettled, Option.some.injEq, Option.some.injEq] at settled
    rw [typed, settled]

/-- The bound sockets of a compiled node are the connected ones. -/
theorem inputBindings_perm : node.inputBindings.keys.Perm
    (connectedInputs validated.analysis.connections node.nodeId) := by
  refine (List.perm_ext_iff_of_nodup (Dict.keys_nodup _) (List.nodup_dedup _)).mpr ?_
  intro portId
  rw [List.mem_dedup, List.mem_map]
  constructor
  · intro isKey
    rcases Option.isSome_iff_exists.mp ((Dict.get?_isSome _ _).mpr isKey) with ⟨binding, found⟩
    rcases binding_connection built isNode found with ⟨connection, member, ends, port, _⟩
    exact ⟨connection, List.mem_filter.mpr ⟨member, decide_eq_true ends⟩, port⟩
  · rintro ⟨connection, occupies, rfl⟩
    rcases List.mem_filter.mp occupies with ⟨member, ends⟩
    rcases connection_bound valid built isNode member (of_decide_eq_true ends) with
      ⟨binding, found, _⟩
    rw [← Dict.get?_isSome, found]
    rfl

theorem fills_of_valid {portId : String}
    (isRequired : portId ∈ node.definition.requiredInputs node.parameters) :
    Fills node portId := by
  have from_ := (planOf_recorded built).2 node isNode
  have sockets := inputBindings_perm valid built isNode
  have filled := valid.phases.filled from_.definition from_.parameters portId isRequired
  rw [requiredInputIssue] at filled
  rw [Fills]
  cases family : node.definition.variadicInput.filter
      (fun family => decide (portId = family.idPrefix)) with
  | none =>
      simp only [family] at filled ⊢
      rw [sockets.mem_iff]
      by_contra missing
      rw [if_pos missing] at filled
      cases filled
  | some family =>
      simp only [family] at filled ⊢
      rw [(sockets.filter _).length_eq]
      by_contra few
      rw [if_pos (not_le.mp few)] at filled
      cases filled

theorem fedClock_of_valid (notSource : node.definition.executionKind ≠ .source) (clock : UUID) :
    node.clockId = some clock ↔
      ∃ source ∈ plan.nodes, Reads node source ∧ source.clockId = some clock := by
  rcases planOf_recorded built with ⟨identifiers, recorded⟩
  have ordered : node.nodeId ∈ validated.analysis.order := by
    rw [← identifiers]
    exact List.mem_map_of_mem isNode
  have fed := valid.clocks.fed node.nodeId ordered _ (recorded node isNode).definition notSource
    clock
  rw [(recorded node isNode).clock, Option.some.injEq] at fed
  rw [fed]
  constructor
  · rintro ⟨predecessor, isPredecessor, clocked⟩
    rcases mem_predecessors.mp isPredecessor with ⟨connection, member, _, starts⟩
    have isOrdered : predecessor ∈ validated.analysis.order := by
      rw [valid.ordered.2.1, ← starts]
      exact validated.analysis.source_mem connection member
    rcases exists_planNode built isOrdered with ⟨source, isPlanned, rfl⟩
    rw [(recorded source isPlanned).clock, Option.some.injEq] at clocked
    exact ⟨source, isPlanned, (reads_iff valid built isNode).mpr isPredecessor, clocked⟩
  · rintro ⟨source, isPlanned, reads, clocked⟩
    refine ⟨source.nodeId, (reads_iff valid built isNode).mp reads, ?_⟩
    rw [(recorded source isPlanned).clock, clocked]

/-- A path of connections from a planned node is a path of readings. -/
theorem planReads_path {root : UUID}
    (path : Upstream validated.analysis.connections root node.nodeId) :
    ∃ first ∈ plan.nodes, first.nodeId = root ∧
      Relation.ReflTransGen (PlanReads plan) first node := by
  have onPath : ∀ {later : UUID}, Upstream validated.analysis.connections later node.nodeId →
      ∃ first ∈ plan.nodes, first.nodeId = later ∧
        Relation.ReflTransGen (PlanReads plan) first node := by
    intro later leads
    induction leads using Relation.ReflTransGen.head_induction_on with
    | refl => exact ⟨node, isNode, rfl, Relation.ReflTransGen.refl⟩
    | head isPredecessor _ ih =>
        rcases ih with ⟨next, isPlanned, rfl, rest⟩
        rcases mem_predecessors.mp isPredecessor with ⟨connection, member, ends, _⟩
        have ordered := (valid.ordered.2.1 _).mpr
          (validated.analysis.destination_mem connection member)
        rw [ends] at ordered
        rcases exists_planNode built ordered with ⟨first, isFirst, rfl⟩
        exact ⟨first, isFirst, rfl, Relation.ReflTransGen.head
          ⟨isFirst, isPlanned, (reads_iff valid built isFirst).mpr isPredecessor⟩ rest⟩
  exact onPath path

theorem demanded_of_valid :
    node.isDemanded = true ↔ ∃ root ∈ plan.nodes, root.nodeId ∈ plan.demandRoots ∧
      Relation.ReflTransGen (PlanReads plan) root node := by
  have isDemanded : node.isDemanded = true ↔ node.nodeId ∈ validated.analysis.demanded := by
    rw [((planOf_recorded built).2 node isNode).demanded, decide_eq_true_eq]
  have inside : ∀ later, ∀ predecessor ∈ predecessors validated.analysis.connections later,
      predecessor ∈ validated.analysis.connections.map ConnectionModel.sourceNodeId := by
    intro later predecessor isPredecessor
    rcases mem_predecessors.mp isPredecessor with ⟨connection, member, _, rfl⟩
    exact List.mem_map_of_mem member
  have isReachable : node.nodeId ∈ validated.analysis.demanded ↔
      ∃ root ∈ validated.analysis.roots,
        Upstream validated.analysis.connections root node.nodeId := by
    have unfolded := congrArg Analysis.demanded valid.phases.phases.analysis
    have sameRoots := congrArg Analysis.roots valid.phases.phases.analysis
    rw [unfolded, sameRoots]
    exact mem_reachableFrom inside
  rw [isDemanded, isReachable, (planOf_identity built).2.2]
  constructor
  · rintro ⟨root, isRoot, path⟩
    rcases planReads_path valid built isNode path with ⟨first, isPlanned, rfl, reads⟩
    exact ⟨first, isPlanned, isRoot, reads⟩
  · rintro ⟨root, _, isRoot, reads⟩
    refine ⟨root.nodeId, isRoot, ?_⟩
    refine reads.lift CompiledNode.nodeId ?_
    rintro later earlier ⟨isLater, _, direct⟩
    exact (reads_iff valid built isLater).mp direct

omit isNode in
/-- The plan of a valid analysis is well formed. -/
theorem wellFormed_of_valid : WellFormedPlan plan := by
  rcases planOf_recorded built with ⟨identifiers, recorded⟩
  have ordered : ∀ node ∈ plan.nodes, node.nodeId ∈ validated.analysis.order := by
    intro node isNode
    rw [← identifiers]
    exact List.mem_map_of_mem isNode
  refine ⟨?_, ?_, ?_, ?_, ?_, ?_, ?_, ?_⟩
  · rw [identifiers]
    exact valid.ordered.1
  · exact fun before node after split portId binding found =>
      fittingBinding_of_valid valid built split found
  · exact fun node isNode portId isRequired => fills_of_valid valid built isNode isRequired
  · exact fun node isNode => (recorded node isNode).recorded.outputs
  · intro node isNode isSource
    have own := valid.clocks.own node.nodeId (ordered node isNode) _
      (recorded node isNode).definition isSource
    rw [(recorded node isNode).clock, Option.some.injEq] at own
    exact own
  · exact fun node isNode notSource => fedClock_of_valid valid built isNode notSource
  · exact fun node isNode => (recorded node isNode).recorded.static
  · exact fun node isNode => demanded_of_valid valid built isNode

end Planned

end Valid

/-! ## Plans of documents -/

section Document

variable {registry : NodeRegistry ρ} {snapshot current : GraphSnapshot}
  {requested : Option (List UUID)} {validated : Validated ρ}

/-- The iteration of the rule only leaves out nodes. -/
theorem Iterates.nodes_subset (iterates : Iterates registry snapshot requested current validated) :
    current.nodes ⊆ snapshot.nodes := by
  induction iterates with
  | document _ => exact List.Subset.refl _
  | exclude _ _ _ ih =>
      exact List.Subset.trans (List.filter_subset_self _) ih

variable {result : CompilationResult ρ} {plan : ExecutionPlan ρ}

/-- A compiled plan is that of a valid analysis of a part of the document. -/
theorem exists_valid_of_compiled (compiled : compile registry snapshot requested = .ok result)
    (planned : result.plan = some plan) :
    ∃ current demandRoots validated, ValidAnalysis registry current demandRoots validated ∧
      planOf snapshot validated = .ok plan ∧ current.nodes ⊆ snapshot.nodes := by
  rcases compile_ended compiled with ⟨full, last, final, _, _, exhausted, returned⟩
  rw [planned] at returned
  by_cases silent : final.issues = []
  · rw [planIfValid_of_sound silent] at returned
    rcases map_eq_ok.mp returned with ⟨_, built, same⟩
    cases same
    rcases exhausted.iterates.analyzed with ⟨_, analyzed⟩ | analyzed
    · exact ⟨last, _, final, ⟨analyzed, silent⟩, built, exhausted.iterates.nodes_subset⟩
    · exact ⟨last, _, final, ⟨analyzed, silent⟩, built, exhausted.iterates.nodes_subset⟩
  · rw [planIfValid_of_errors silent] at returned
    cases returned

theorem wellFormed_of_compiled (compiled : compile registry snapshot requested = .ok result)
    (planned : result.plan = some plan) : WellFormedPlan plan := by
  rcases exists_valid_of_compiled compiled planned with ⟨_, _, _, valid, built, _⟩
  exact wellFormed_of_valid valid built

/-- A compiled plan compiles nodes of the document. -/
theorem compilesDocument_of_compiled (compiled : compile registry snapshot requested = .ok result)
    (planned : result.plan = some plan) : CompilesDocument registry snapshot plan := by
  rcases exists_valid_of_compiled compiled planned with
    ⟨current, demandRoots, validated, valid, built, kept⟩
  rcases planOf_recorded built with ⟨identifiers, recorded⟩
  refine ⟨(planOf_identity built).1, (planOf_identity built).2.1, ?_⟩
  intro node isNode
  have ordered : node.nodeId ∈ validated.analysis.order := by
    rw [← identifiers]
    exact List.mem_map_of_mem isNode
  rcases valid.phases.known ((valid.ordered.2.1 _).mp ordered) with ⟨model, definition, known⟩
  have isDefinition : node.definition = definition :=
    Option.some.inj ((recorded node isNode).definition.symm.trans known.defined)
  have values : node.parameters = (definition.parameterValues model.parameters).1 :=
    Option.some.inj ((recorded node isNode).parameters.symm.trans known.parameters)
  rw [isDefinition]
  exact ⟨model, kept known.member, known.identifier, known.registered, known.version,
    Prod.ext values.symm known.literals⟩

/-- Every plan that `compile` returns is well formed and compiles nodes of the
document, whatever else the document contains. -/
theorem compile_wellFormed (compiled : compile registry snapshot requested = .ok result)
    (planned : result.plan = some plan) :
    WellFormedPlan plan ∧ CompilesDocument registry snapshot plan :=
  ⟨wellFormed_of_compiled compiled planned, compilesDocument_of_compiled compiled planned⟩

end Document

/-! ### A level, a collector of levels and an outdated node -/

/-- A level is collected; the third node is of an older version. -/
def collectedLevels : GraphSnapshot where
  documentId := 7
  revision := 3
  nodes := [⟨1, "level", 1, Dict.empty⟩, ⟨2, "collect", 1, Dict.empty⟩,
    ⟨3, "level", 0, Dict.empty⟩]
  connections := [⟨11, 1, "value", 2, "items"⟩]

theorem exists_plan_of_isOk {outcome : Except PyError (CompilationResult ρ)}
    (hasPlan : (outcome.map (fun result => result.plan.isSome)).toOption = some true) :
    ∃ result plan, outcome = .ok result ∧ result.plan = some plan := by
  cases outcome with
  | error error => cases hasPlan
  | ok result =>
      rcases Option.isSome_iff_exists.mp (Option.some.inj hasPlan) with ⟨plan, planned⟩
      exact ⟨result, plan, rfl, planned⟩

theorem compile_wellFormed_collectedLevels :
    ∃ result plan, compile levelRegistry collectedLevels none = .ok result ∧
      result.plan = some plan ∧ WellFormedPlan plan ∧
        CompilesDocument levelRegistry collectedLevels plan := by
  have hasPlan : ((compile levelRegistry collectedLevels none).map
      (fun result => result.plan.isSome)).toOption = some true := by decide +kernel
  rcases exists_plan_of_isOk hasPlan with ⟨result, plan, compiled, planned⟩
  exact ⟨result, plan, compiled, planned, compile_wellFormed compiled planned⟩

end Graph
end Synesthesia
