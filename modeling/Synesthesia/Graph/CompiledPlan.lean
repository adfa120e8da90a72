import Synesthesia.Graph.Compiler

namespace Synesthesia
namespace Graph

open Foundation Contracts Nodes Synesthesia.Runtime

/-!
# What a compiled plan is like

A plan lists the nodes of the topological order with their definitions, clocks
and demand.  A node on a source clock has that source upstream of it, so
whoever demands the node demands the source.
-/

variable {ρ : Type}

/-! ## Compiled nodes -/

/-- How a compiled node comes from the analysis. -/
structure CompiledFrom (analysis : Analysis ρ) (node : CompiledNode ρ) : Prop where
  definition : analysis.definitions.get? node.nodeId = some node.definition
  clock : analysis.clocks.get? node.nodeId = some node.clockId
  demanded : node.isDemanded = decide (node.nodeId ∈ analysis.demanded)
  static_clock : node.isStatic = true → node.clockId = none
  bindings : (∀ connected, inputSocketIds node.definition connected = []) →
    node.inputBindings = Dict.empty

theorem require_ok {Value : Type} {dict : Dict UUID Value} {nodeId : UUID} {value : Value}
    (found : require dict nodeId = .ok value) : dict.get? nodeId = some value := by
  unfold require at found
  cases present : dict.get? nodeId with
  | none =>
      rw [present] at found
      cases found
  | some other =>
      rw [present] at found
      cases found
      rfl

theorem bind_ok {Value Result : Type} {computation : Except PyError Value}
    {continuation : Value → Except PyError Result} {result : Result}
    (finished : (computation >>= continuation) = .ok result) :
    ∃ value, computation = .ok value ∧ continuation value = .ok result := by
  cases computation with
  | error error => cases finished
  | ok value => exact ⟨value, rfl, finished⟩

variable {connections : List ConnectionModel}

theorem compileNode_ok {nodeId : UUID} {definition : NodeExecutionContract ρ}
    {parameters : Dict String ParameterValue}
    {resolvedTypes : Dict (UUID × String × Bool) (Option PortType)} {clockId : Option UUID}
    {isDemanded : Bool} {node : CompiledNode ρ}
    (compiled : compileNode nodeId definition parameters connections resolvedTypes clockId
      isDemanded = .ok node) :
    node.nodeId = nodeId ∧ node.definition = definition ∧ node.clockId = clockId ∧
      node.isDemanded = isDemanded ∧ (node.isStatic = true → node.clockId = none) ∧
        ((∀ connected, inputSocketIds definition connected = []) →
          node.inputBindings = Dict.empty) := by
  unfold compileNode at compiled
  rcases bind_ok compiled with ⟨bindings, bound, compiled⟩
  rcases bind_ok compiled with ⟨inputTypes, _, compiled⟩
  rcases bind_ok compiled with ⟨outputTypes, _, compiled⟩
  cases compiled
  refine ⟨rfl, rfl, rfl, rfl, ?_, ?_⟩
  · intro static
    exact (of_decide_eq_true static).1
  · intro noSockets
    rw [noSockets] at bound
    cases bound
    rfl

theorem compileNodes_ok {analysis : Analysis ρ} {order : List UUID}
    {nodes : List (CompiledNode ρ)} (compiled : compileNodes analysis order = .ok nodes) :
    nodes.map CompiledNode.nodeId = order ∧ ∀ node ∈ nodes, CompiledFrom analysis node := by
  induction order generalizing nodes with
  | nil =>
      rw [compileNodes, Except.ok.injEq] at compiled
      subst compiled
      exact ⟨rfl, fun node member => absurd member List.not_mem_nil⟩
  | cons nodeId rest ih =>
      rw [compileNodes] at compiled
      rcases bind_ok compiled with ⟨definition, defined, compiled⟩
      rcases bind_ok compiled with ⟨parameters, _, compiled⟩
      rcases bind_ok compiled with ⟨clock, clocked, compiled⟩
      rcases bind_ok compiled with ⟨node, built, compiled⟩
      rcases bind_ok compiled with ⟨others, restBuilt, compiled⟩
      cases compiled
      rcases ih restBuilt with ⟨identifiers, sound⟩
      rcases compileNode_ok built with ⟨isNode, isDefinition, isClock, isDemanded, static, bindings⟩
      refine ⟨by rw [List.map_cons, isNode, identifiers], ?_⟩
      intro other member
      rcases List.mem_cons.mp member with rfl | inRest
      · refine ⟨?_, ?_, ?_, static, ?_⟩
        · rw [isNode, isDefinition]
          exact require_ok defined
        · rw [isNode, isClock]
          exact require_ok clocked
        · rw [isDemanded, isNode]
        · rw [isDefinition]
          exact bindings
      · exact sound other inRest

theorem buildPlan_ok {documentId : UUID} {revision : Nat} {analysis : Analysis ρ}
    {plan : ExecutionPlan ρ} (built : buildPlan documentId revision analysis = .ok plan) :
    plan.nodes.map CompiledNode.nodeId = analysis.order ∧
      ∀ node ∈ plan.nodes, CompiledFrom analysis node := by
  rcases bind_ok built with ⟨nodes, compiled, built⟩
  cases built
  exact compileNodes_ok compiled

/-! ## Clocks and their sources -/

theorem mem_predecessors {nodeId predecessor : UUID} :
    predecessor ∈ predecessors connections nodeId ↔
      ∃ connection ∈ connections, connection.destinationNodeId = nodeId ∧
        connection.sourceNodeId = predecessor := by
  simp only [predecessors, List.mem_dedup, List.mem_map, List.mem_filter, decide_eq_true_eq]
  constructor
  · rintro ⟨connection, ⟨member, ends⟩, starts⟩
    exact ⟨connection, member, ends, starts⟩
  · rintro ⟨connection, member, ends, starts⟩
    exact ⟨connection, ⟨member, ends⟩, starts⟩

/-- There is a path of connections from the second node to the first. -/
def Upstream (connections : List ConnectionModel) : UUID → UUID → Prop :=
  Relation.ReflTransGen (fun later earlier => earlier ∈ predecessors connections later)

/-- The clocks found for the visited nodes: a clock is a visited source upstream
of its node, and a visited source is its own clock. -/
structure ClocksSound (definitions : Dict UUID (NodeExecutionContract ρ))
    (connections : List ConnectionModel) (visited : List UUID)
    (clocks : Dict UUID (Option UUID)) : Prop where
  upstream : ∀ nodeId clock, clocks.get? nodeId = some (some clock) →
    Upstream connections nodeId clock ∧ clock ∈ visited ∧
      ∃ definition, definitions.get? clock = some definition ∧ definition.executionKind = .source
  own : ∀ nodeId ∈ visited, ∀ definition, definitions.get? nodeId = some definition →
    definition.executionKind = .source → clocks.get? nodeId = some (some nodeId)

variable {clocks : Dict UUID (Option UUID)} {definitions : Dict UUID (NodeExecutionContract ρ)}

theorem ClocksSound.skip {visited : List UUID}
    (sound : ClocksSound definitions connections visited clocks) {nodeId : UUID}
    (undefined : definitions.get? nodeId = none) :
    ClocksSound definitions connections (visited ++ [nodeId]) clocks := by
  refine ⟨?_, ?_⟩
  · intro other clock found
    rcases sound.upstream other clock found with ⟨path, member, isSource⟩
    exact ⟨path, List.mem_append_left _ member, isSource⟩
  · intro other member definition defined isSource
    rcases List.mem_append.mp member with before | here
    · exact sound.own other before definition defined isSource
    · rw [List.mem_singleton.mp here, undefined] at defined
      cases defined

/-- A node may be given the clock of a sound source upstream of it. -/
theorem ClocksSound.insert {visited : List UUID}
    (sound : ClocksSound definitions connections visited clocks) {nodeId : UUID}
    {definition : NodeExecutionContract ρ} (defined : definitions.get? nodeId = some definition)
    (clock : Option UUID)
    (justified : ∀ source, clock = some source → Upstream connections nodeId source ∧
      source ∈ visited ++ [nodeId] ∧ ∃ sourceDefinition,
        definitions.get? source = some sourceDefinition ∧ sourceDefinition.executionKind = .source)
    (own : definition.executionKind = .source → clock = some nodeId) :
    ClocksSound definitions connections (visited ++ [nodeId]) (clocks.insert nodeId clock) := by
  refine ⟨?_, ?_⟩
  · intro other source found
    by_cases same : other = nodeId
    · subst same
      rw [Dict.get?_insert_self] at found
      exact justified source (Option.some.inj found)
    · rw [Dict.get?_insert_of_ne clock same] at found
      rcases sound.upstream other source found with ⟨path, member, isSource⟩
      exact ⟨path, List.mem_append_left _ member, isSource⟩
  · intro other member otherDefinition otherDefined isSource
    by_cases same : other = nodeId
    · subst same
      rw [defined, Option.some.injEq] at otherDefined
      subst otherDefined
      rw [Dict.get?_insert_self, own isSource]
    · rw [Dict.get?_insert_of_ne clock same]
      rcases List.mem_append.mp member with before | here
      · exact sound.own other before otherDefinition otherDefined isSource
      · exact absurd (List.mem_singleton.mp here) same

theorem mem_incomingClocks {nodeId clock : UUID} :
    clock ∈ incomingClocks connections clocks nodeId ↔
      ∃ predecessor ∈ predecessors connections nodeId,
        clocks.get? predecessor = some (some clock) := by
  simp only [incomingClocks, List.mem_dedup, List.mem_filterMap]
  constructor
  · rintro ⟨predecessor, member, found⟩
    refine ⟨predecessor, member, ?_⟩
    cases known : clocks.get? predecessor with
    | none => simp [known] at found
    | some value => simpa [known] using found
  · rintro ⟨predecessor, member, found⟩
    exact ⟨predecessor, member, by rw [found]; rfl⟩

theorem analyzeClocks_sound (order visited : List UUID)
    (issues : List ValidationIssue)
    (sound : ClocksSound definitions connections visited clocks) :
    ClocksSound definitions connections (visited ++ order)
      (analyzeClocks definitions connections order clocks issues).1 := by
  induction order generalizing visited clocks issues with
  | nil => rwa [List.append_nil]
  | cons nodeId rest ih =>
      rw [show visited ++ nodeId :: rest = visited ++ [nodeId] ++ rest by simp, analyzeClocks]
      cases defined : definitions.get? nodeId with
      | none => exact ih _ _ (sound.skip defined)
      | some definition =>
          simp only
          by_cases isSource : definition.executionKind = .source
          · rw [if_pos isSource]
            refine ih _ _ (sound.insert defined _ ?_ (fun _ => rfl))
            intro source itself
            cases itself
            exact ⟨Relation.ReflTransGen.refl, by simp, definition, defined, isSource⟩
          · rw [if_neg isSource]
            have noClock := fun other => ih (visited ++ [nodeId]) other
              (sound.insert defined none nofun (fun contrary => absurd contrary isSource))
            split
            · exact noClock _
            · rename_i clock only
              refine ih _ _
                (sound.insert defined _ ?_ (fun contrary => absurd contrary isSource))
              intro source itself
              cases itself
              have incoming : clock ∈ incomingClocks connections clocks nodeId := by
                rw [only]
                exact List.mem_singleton_self clock
              rcases mem_incomingClocks.mp incoming with ⟨predecessor, isPredecessor, found⟩
              rcases sound.upstream predecessor clock found with ⟨path, member, isClockSource⟩
              exact ⟨Relation.ReflTransGen.head isPredecessor path, List.mem_append_left _ member,
                isClockSource⟩
            · exact noClock _

/-- In a compiled plan the identifiers are distinct, no static node has a
clock, and a demanded node on a clock has that source in the plan, demanded. -/
structure WellClocked (plan : ExecutionPlan ρ) : Prop where
  distinct : (plan.nodes.map CompiledNode.nodeId).Nodup
  static_clock : ∀ node ∈ plan.nodes, node.isStatic = true → node.clockId = none
  source : ∀ node ∈ plan.nodes, ∀ clock, node.isDemanded = true → node.clockId = some clock →
    ∃ source ∈ plan.nodes, source.nodeId = clock ∧ source.clockId = some clock ∧
      source.isDemanded = true ∧ source.definition.executionKind = .source
  bindings : ∀ node ∈ plan.nodes, (∀ connected, inputSocketIds node.definition connected = []) →
    node.inputBindings = Dict.empty

theorem edges_destination_mem (resolved : Resolved ρ) :
    ∀ edge ∈ edges resolved.connections, edge.2 ∈ resolved.nodes := by
  intro edge member
  rcases List.mem_map.mp (List.mem_dedup.mp member) with ⟨connection, isConnection, rfl⟩
  exact resolved.destination_mem connection isConnection

theorem nodup_topologicalOrder (resolved : Resolved ρ) :
    (topologicalOrder resolved.nodes resolved.connections).1.Nodup :=
  (nodup_topologicalSort resolved.nodes_nodup (List.nodup_dedup _)
    (edges_destination_mem resolved)).1

theorem wellClocked_of_compiled {documentId : UUID} {revision : Nat} {resolved : Resolved ρ}
    {demandRoots : Option (List UUID)} {plan : ExecutionPlan ρ}
    (built : buildPlan documentId revision (analyze resolved demandRoots).1 = .ok plan) :
    WellClocked plan := by
  rcases buildPlan_ok built with ⟨identifiers, compiled⟩
  have sound : ClocksSound resolved.definitions resolved.connections
      (topologicalOrder resolved.nodes resolved.connections).1
      (analyze resolved demandRoots).1.clocks :=
    analyzeClocks_sound _ [] [] ⟨nofun, nofun⟩
  have demandedUpstream : ∀ later earlier, later ∈ (analyze resolved demandRoots).1.demanded →
      Upstream resolved.connections later earlier →
        earlier ∈ (analyze resolved demandRoots).1.demanded := by
    have inside : ∀ node, ∀ predecessor ∈ predecessors resolved.connections node,
        predecessor ∈ resolved.connections.map ConnectionModel.sourceNodeId := by
      intro node predecessor member
      rcases mem_predecessors.mp member with ⟨connection, isConnection, _, rfl⟩
      exact List.mem_map.mpr ⟨connection, isConnection, rfl⟩
    intro later earlier isDemanded path
    rcases (mem_reachableFrom inside).mp isDemanded with ⟨root, isRoot, leads⟩
    exact (mem_reachableFrom inside).mpr ⟨root, isRoot, leads.trans path⟩
  refine ⟨?_, ?_, ?_, ?_⟩
  · rw [identifiers]
    exact nodup_topologicalOrder resolved
  · intro node member
    exact (compiled node member).static_clock
  · intro node member clock isDemanded onClock
    have clocked := (compiled node member).clock
    rw [onClock] at clocked
    rcases sound.upstream node.nodeId clock clocked with ⟨path, visited, definition, defined, kind⟩
    have ordered : clock ∈ plan.nodes.map CompiledNode.nodeId := by
      rw [identifiers]
      exact visited
    rcases List.mem_map.mp ordered with ⟨source, isNode, rfl⟩
    have from_ := compiled source isNode
    have isDefinition : source.definition = definition :=
      Option.some.inj (from_.definition.symm.trans defined)
    have ownClock : source.clockId = some source.nodeId :=
      Option.some.inj (from_.clock.symm.trans
        (sound.own source.nodeId visited definition defined kind))
    refine ⟨source, isNode, rfl, ownClock, ?_, isDefinition ▸ kind⟩
    rw [from_.demanded]
    rw [(compiled node member).demanded] at isDemanded
    exact decide_eq_true (demandedUpstream _ _ (of_decide_eq_true isDemanded) path)
  · intro node member
    exact (compiled node member).bindings

end Graph
end Synesthesia
