import Synesthesia.Foundation.Reachability
import Synesthesia.Foundation.TopologicalSort
import Synesthesia.Runtime.ExecutionPlan

namespace Synesthesia
namespace Graph

open Foundation Contracts Nodes Synesthesia.Runtime

/-!
# The graph compiler

The phases of `graph/compiler.py` that decide the order of a plan, the clock of
every node and which nodes are demanded, and the construction of the plan from
them.  The phases before them settle the nodes, their definitions and
parameters, the valid connections and the types of the ports; here these are
the fields of `Resolved`.
-/

structure ConnectionModel where
  id : UUID
  sourceNodeId : UUID
  sourcePortId : String
  destinationNodeId : UUID
  destinationPortId : String
deriving DecidableEq, Repr

/-- A validation issue; the compiler only reports errors. -/
structure ValidationIssue where
  code : String
  message : String
  nodeId : Option UUID
  connectionId : Option UUID
  portId : Option String
deriving DecidableEq, Repr

/-- What the phases before the ordering leave: every connection joins two nodes. -/
structure Resolved (ρ : Type) where
  nodes : List UUID
  definitions : Dict UUID (NodeExecutionContract ρ)
  parameters : Dict UUID (Dict String ParameterValue)
  connections : List ConnectionModel
  resolvedTypes : Dict (UUID × String × Bool) (Option PortType)
  nodes_nodup : nodes.Nodup
  source_mem : ∀ connection ∈ connections, connection.sourceNodeId ∈ nodes
  destination_mem : ∀ connection ∈ connections, connection.destinationNodeId ∈ nodes

/-- `_Analysis`, without the report. -/
structure Analysis (ρ : Type) extends Resolved ρ where
  order : List UUID
  clocks : Dict UUID (Option UUID)
  roots : List UUID
  demanded : List UUID

variable {ρ : Type}

/-! ## Order -/

/-- The pairs of connected nodes, each once. -/
def edges (connections : List ConnectionModel) : List (UUID × UUID) :=
  (connections.map (fun connection =>
    (connection.sourceNodeId, connection.destinationNodeId))).dedup

def cycleIssue (nodeId : UUID) : ValidationIssue :=
  ⟨"graph_cycle", "Node participates in a graph cycle", some nodeId, none, none⟩

/-- `_topological_order`; the text of an identifier has a fixed width, so its
order is that of the number. -/
def topologicalOrder (nodes : List UUID) (connections : List ConnectionModel) :
    List UUID × List ValidationIssue :=
  let (count, _, order) := topologicalSort nodes (edges connections)
  let cyclic := sortByKey id (nodes.filter (fun nodeId => decide (0 < count nodeId)))
  (order, if order.length ≠ nodes.length then cyclic.map cycleIssue else [])

/-! ## Clocks -/

/-- The nodes with a connection into the given one, each once. -/
def predecessors (connections : List ConnectionModel) (nodeId : UUID) : List UUID :=
  ((connections.filter (fun connection => decide (connection.destinationNodeId = nodeId))).map
    ConnectionModel.sourceNodeId).dedup

def clockMismatch (nodeId : UUID) : ValidationIssue :=
  ⟨"clock_mismatch", "Dynamic inputs originate from different source clocks", some nodeId, none,
    none⟩

/-- The source clocks that reach a node over its connections. -/
def incomingClocks (connections : List ConnectionModel) (clocks : Dict UUID (Option UUID))
    (nodeId : UUID) : List UUID :=
  ((predecessors connections nodeId).filterMap
    (fun predecessor => (clocks.get? predecessor).join)).dedup

/-- `_analyze_clocks` from the clocks and issues found so far. -/
def analyzeClocks (definitions : Dict UUID (NodeExecutionContract ρ))
    (connections : List ConnectionModel) :
    List UUID → Dict UUID (Option UUID) → List ValidationIssue →
      Dict UUID (Option UUID) × List ValidationIssue
  | [], clocks, issues => (clocks, issues)
  | nodeId :: rest, clocks, issues =>
      match definitions.get? nodeId with
      | none => analyzeClocks definitions connections rest clocks issues
      | some definition =>
          if definition.executionKind = .source then
            analyzeClocks definitions connections rest (clocks.insert nodeId (some nodeId)) issues
          else
            match incomingClocks connections clocks nodeId with
            | [] => analyzeClocks definitions connections rest (clocks.insert nodeId none) issues
            | [clock] =>
                analyzeClocks definitions connections rest (clocks.insert nodeId (some clock))
                  issues
            | _ =>
                analyzeClocks definitions connections rest (clocks.insert nodeId none)
                  (issues ++ [clockMismatch nodeId])

/-! ## Demand -/

def unknownDemandRoot (nodeId : UUID) : ValidationIssue :=
  ⟨"unknown_demand_root", "Demand root " ++ uuidText nodeId ++ " does not exist", some nodeId,
    none, none⟩

/-- `_resolve_demand_roots`: the requested roots; otherwise the sinks and
visualizers; otherwise the nodes that feed no other. -/
def resolveDemandRoots (nodes : List UUID) (definitions : Dict UUID (NodeExecutionContract ρ))
    (connections : List ConnectionModel) (requested : Option (List UUID)) :
    List UUID × List ValidationIssue :=
  match requested with
  | some requested =>
      let roots := requested.dedup
      (roots.filter (fun root => decide (root ∈ nodes)),
        (sortByKey id (roots.filter (fun root => decide (root ∉ nodes)))).map unknownDemandRoot)
  | none =>
      let explicit := (definitions.entries.filter (fun entry =>
        decide (entry.2.executionKind ∈ [ExecutionKind.sink, .visualizer]))).map Prod.fst
      if explicit ≠ [] then (explicit, [])
      else
        (nodes.filter (fun nodeId =>
          decide (nodeId ∉ connections.map ConnectionModel.sourceNodeId)), [])

/-- `_upstream_reachable`. -/
def upstreamReachable (roots : List UUID) (connections : List ConnectionModel) : List UUID :=
  reachableFrom (predecessors connections) (connections.map ConnectionModel.sourceNodeId) roots

/-! ## Plan construction -/

/-- `_settled_type`. -/
def settledType (resolvedTypes : Dict (UUID × String × Bool) (Option PortType))
    (nodeId : UUID) (portId : String) (isOutput : Bool) : Except PyError PortType :=
  match resolvedTypes.get? (nodeId, portId, isOutput) with
  | none => .error (.keyError portId)
  | some none =>
      .error (.runtimeError ("plan construction hit unsettled port " ++ portId ++ " of node " ++
        uuidText nodeId))
  | some (some portType) => .ok portType

/-- `_input_socket_ids`: the input ports, then the connectable parameters. -/
def inputSocketIds (definition : NodeExecutionContract ρ) (connectedPortIds : List String) :
    List String :=
  (definition.inputPorts connectedPortIds).map InputPortSpec.id ++
    (definition.parameters.filter ParameterSpec.connectable).map ParameterSpec.id

/-- The connection into every connected port of a node; a later one wins. -/
def incomingConnections (connections : List ConnectionModel) (nodeId : UUID) :
    Dict String ConnectionModel :=
  Dict.ofEntries ((connections.filter (fun connection =>
    decide (connection.destinationNodeId = nodeId))).map (fun connection =>
      (connection.destinationPortId, connection)))

/-- The bindings of a list of sockets. -/
def inputBindingsOf (resolvedTypes : Dict (UUID × String × Bool) (Option PortType))
    (nodeId : UUID) (incoming : Dict String ConnectionModel) :
    List String → Dict String InputBinding → Except PyError (Dict String InputBinding)
  | [], bindings => .ok bindings
  | portId :: rest, bindings =>
      match incoming.get? portId with
      | none => inputBindingsOf resolvedTypes nodeId incoming rest bindings
      | some connection => do
          let sourceType ←
            settledType resolvedTypes connection.sourceNodeId connection.sourcePortId true
          let destinationType ← settledType resolvedTypes nodeId portId false
          let conversion :=
            if sourceType = .int ∧ destinationType = .float then some ScalarConversion.intToFloat
            else none
          inputBindingsOf resolvedTypes nodeId incoming rest
            (bindings.insert portId
              ⟨⟨connection.sourceNodeId, connection.sourcePortId⟩, conversion⟩)

/-- The settled types of a list of ports. -/
def portTypesOf (resolvedTypes : Dict (UUID × String × Bool) (Option PortType)) (nodeId : UUID)
    (isOutput : Bool) : List String → Dict String PortType → Except PyError (Dict String PortType)
  | [], types => .ok types
  | portId :: rest, types => do
      let portType ← settledType resolvedTypes nodeId portId isOutput
      portTypesOf resolvedTypes nodeId isOutput rest (types.insert portId portType)

/-- `_compile_node`. -/
def compileNode (nodeId : UUID) (definition : NodeExecutionContract ρ)
    (parameters : Dict String ParameterValue) (connections : List ConnectionModel)
    (resolvedTypes : Dict (UUID × String × Bool) (Option PortType)) (clockId : Option UUID)
    (isDemanded : Bool) : Except PyError (CompiledNode ρ) := do
  let incoming := incomingConnections connections nodeId
  let sockets := inputSocketIds definition incoming.keys
  let bindings ← inputBindingsOf resolvedTypes nodeId incoming sockets Dict.empty
  let inputTypes ← portTypesOf resolvedTypes nodeId false sockets Dict.empty
  let outputTypes ←
    portTypesOf resolvedTypes nodeId true (definition.outputs.map OutputPortSpec.id) Dict.empty
  return {
    nodeId := nodeId
    definition := definition
    parameters := parameters
    inputBindings := bindings
    inputTypes := inputTypes
    outputTypes := outputTypes
    clockId := clockId
    isStatic := decide (clockId = none ∧ definition.cachePolicy ≠ .never)
    isDemanded := isDemanded }

/-- `mapping[key]` for a key of a node. -/
def require {Value : Type} (dict : Dict UUID Value) (nodeId : UUID) : Except PyError Value :=
  match dict.get? nodeId with
  | none => .error (.keyError (uuidText nodeId))
  | some value => .ok value

/-- The compiled nodes of a list of identifiers. -/
def compileNodes (analysis : Analysis ρ) : List UUID → Except PyError (List (CompiledNode ρ))
  | [] => .ok []
  | nodeId :: rest => do
      let definition ← require analysis.definitions nodeId
      let parameters ← require analysis.parameters nodeId
      let clock ← require analysis.clocks nodeId
      let node ← compileNode nodeId definition parameters analysis.connections
        analysis.resolvedTypes clock (decide (nodeId ∈ analysis.demanded))
      let nodes ← compileNodes analysis rest
      return node :: nodes

/-- `_build_plan`. -/
def buildPlan (documentId : UUID) (revision : Nat) (analysis : Analysis ρ) :
    Except PyError (ExecutionPlan ρ) := do
  let nodes ← compileNodes analysis analysis.order
  return ⟨documentId, revision, nodes, analysis.roots⟩

/-- The phases of `_analyze` from the order on, and their issues. -/
def analyze (resolved : Resolved ρ) (demandRoots : Option (List UUID)) :
    Analysis ρ × List ValidationIssue :=
  let (order, cycles) := topologicalOrder resolved.nodes resolved.connections
  let (clocks, mismatches) :=
    analyzeClocks resolved.definitions resolved.connections order Dict.empty []
  let (roots, unknown) :=
    resolveDemandRoots resolved.nodes resolved.definitions resolved.connections demandRoots
  ({ toResolved := resolved
     order := order
     clocks := clocks
     roots := roots
     demanded := upstreamReachable roots resolved.connections }, cycles ++ mismatches ++ unknown)

end Graph
end Synesthesia
