import Synesthesia.Graph.Compiler
import Synesthesia.Graph.TypeGroups

namespace Synesthesia
namespace Graph

open Foundation Contracts Nodes Synesthesia.Runtime

/-!
# Validation of a snapshot

The phases of `graph/compiler.py` before the ordering: unique nodes, their
definitions and parameters, the valid connections and the types of the ports;
then the check of the required inputs and `_analyze`, which runs all phases.
-/

/-- What the compiler reads of a node; a literal may be absent. -/
structure NodeModel where
  id : UUID
  typeId : String
  implementationVersion : Nat
  parameters : Dict String (Option ParameterValue)

structure GraphSnapshot where
  documentId : UUID
  revision : Nat
  nodes : List NodeModel
  connections : List ConnectionModel

variable {ρ : Type}

/-! ## Nodes and definitions -/

/-- The items whose key has occurred before, in order. -/
def repeated {Item : Type} (key : Item → UUID) : List UUID → List Item → List Item
  | _, [] => []
  | seen, item :: rest =>
      if key item ∈ seen then item :: repeated key seen rest
      else repeated key (key item :: seen) rest

/-- The first item of every key, in order. -/
def distinct {Item : Type} (key : Item → UUID) : List UUID → List Item → List Item
  | _, [] => []
  | seen, item :: rest =>
      if key item ∈ seen then distinct key seen rest
      else item :: distinct key (key item :: seen) rest

def duplicateNode (node : NodeModel) : ValidationIssue :=
  ⟨"duplicate_node_id", "Duplicate node ID " ++ uuidText node.id, some node.id, none, none⟩

def duplicateConnection (connection : ConnectionModel) : ValidationIssue :=
  ⟨"duplicate_connection_id", "Duplicate connection ID " ++ uuidText connection.id, none,
    some connection.id, none⟩

/-- `_unique_nodes`. -/
def uniqueNodes (snapshot : GraphSnapshot) : Dict UUID NodeModel × List ValidationIssue :=
  (Dict.ofEntries ((distinct NodeModel.id [] snapshot.nodes).map (fun node => (node.id, node))),
    (repeated NodeModel.id [] snapshot.nodes).map duplicateNode ++
      (repeated ConnectionModel.id [] snapshot.connections).map duplicateConnection)

def unknownNodeType (node : NodeModel) : ValidationIssue :=
  ⟨"unknown_node_type", "Unknown node type " ++ quoted node.typeId, some node.id, none, none⟩

def nodeVersionMismatch (node : NodeModel) (version : Nat) : ValidationIssue :=
  ⟨"node_version_mismatch",
    "Node " ++ quoted node.typeId ++ " requires implementation version " ++ toString version ++
      ", got " ++ toString node.implementationVersion, some node.id, none, none⟩

def invalidParameter (nodeId : UUID) (message : String) : ValidationIssue :=
  ⟨"invalid_parameter", message, some nodeId, none, none⟩

/-- What is wrong with one node on its own. -/
def definitionIssues (registry : NodeRegistry ρ) (node : NodeModel) : List ValidationIssue :=
  match registry.get? node.typeId with
  | none => [unknownNodeType node]
  | some definition =>
      (if node.implementationVersion ≠ definition.implementationVersion then
        [nodeVersionMismatch node definition.implementationVersion] else []) ++
      (definition.parameterValues node.parameters).2.map (invalidParameter node.id)

/-- The nodes with a known type, each with what its definition makes of it. -/
def definedNodes {Value : Type} (registry : NodeRegistry ρ)
    (value : NodeModel → NodeExecutionContract ρ → Value) (nodes : List (UUID × NodeModel)) :
    Dict UUID Value :=
  Dict.ofEntries (nodes.filterMap (fun entry =>
    (registry.get? entry.2.typeId).map (fun definition => (entry.1, value entry.2 definition))))

/-- The definitions, the parameters and the issues of `_resolve_definitions`. -/
structure ResolvedDefinitions (ρ : Type) where
  definitions : Dict UUID (NodeExecutionContract ρ)
  parameters : Dict UUID (Dict String ParameterValue)
  issues : List ValidationIssue

/-- `_resolve_definitions`. -/
def resolveDefinitions (registry : NodeRegistry ρ) (nodes : Dict UUID NodeModel) :
    ResolvedDefinitions ρ :=
  let ordered := sortByKey Prod.fst nodes.entries
  { definitions := definedNodes registry (fun _ definition => definition) ordered
    parameters := definedNodes registry
      (fun node definition => (definition.parameterValues node.parameters).1) ordered
    issues := ordered.flatMap (fun entry => definitionIssues registry entry.2) }

/-! ## Connections -/

def missingSourceNode (connection : ConnectionModel) : ValidationIssue :=
  ⟨"missing_source_node",
    "Connection source node " ++ uuidText connection.sourceNodeId ++ " does not exist", none,
    some connection.id, none⟩

def missingDestinationNode (connection : ConnectionModel) : ValidationIssue :=
  ⟨"missing_destination_node",
    "Connection destination node " ++ uuidText connection.destinationNodeId ++ " does not exist",
    none, some connection.id, none⟩

def unknownOutputPort (connection : ConnectionModel) : ValidationIssue :=
  ⟨"unknown_output_port", "Unknown output port " ++ quoted connection.sourcePortId,
    some connection.sourceNodeId, some connection.id, some connection.sourcePortId⟩

def unknownInputPort (connection : ConnectionModel) : ValidationIssue :=
  ⟨"unknown_input_port", "Unknown input port " ++ quoted connection.destinationPortId,
    some connection.destinationNodeId, some connection.id, some connection.destinationPortId⟩

/-- A socket: an input port or a parameter that takes a cable. -/
def hasSocket (definition : NodeExecutionContract ρ) (portId : String) : Bool :=
  (definition.input portId).isSome ||
    (definition.parameter portId).any ParameterSpec.connectable

/-- A connection is valid, or it is left out with the issues given. -/
def checkConnection (nodes : Dict UUID NodeModel)
    (definitions : Dict UUID (NodeExecutionContract ρ))
    (connection : ConnectionModel) : Except (List ValidationIssue) Unit :=
  if connection.sourceNodeId ∉ nodes.keys then .error [missingSourceNode connection]
  else if connection.destinationNodeId ∉ nodes.keys then
    .error [missingDestinationNode connection]
  else
    match definitions.get? connection.sourceNodeId,
        definitions.get? connection.destinationNodeId with
    | some source, some destination =>
        if source.output connection.sourcePortId = none then
          .error [unknownOutputPort connection]
        else if ¬ hasSocket destination connection.destinationPortId then
          .error [unknownInputPort connection]
        else .ok ()
    | _, _ => .error []

section ValidConnections

variable {nodes : Dict UUID NodeModel} {definitions : Dict UUID (NodeExecutionContract ρ)}
  {connection : ConnectionModel}

/-- A connection is valid between ports that its nodes have. -/
theorem checkConnection_isOk :
    (checkConnection nodes definitions connection).isOk = true ↔
      (connection.sourceNodeId ∈ nodes.keys ∧ connection.destinationNodeId ∈ nodes.keys) ∧
        ∃ source destination, definitions.get? connection.sourceNodeId = some source ∧
          definitions.get? connection.destinationNodeId = some destination ∧
          source.output connection.sourcePortId ≠ none ∧
          hasSocket destination connection.destinationPortId = true := by
  rw [checkConnection]
  by_cases sourceKnown : connection.sourceNodeId ∈ nodes.keys
  · by_cases destinationKnown : connection.destinationNodeId ∈ nodes.keys
    · rw [if_neg (not_not.mpr sourceKnown), if_neg (not_not.mpr destinationKnown)]
      cases definitions.get? connection.sourceNodeId with
      | none => simp [Except.isOk, Except.toBool]
      | some source =>
          cases definitions.get? connection.destinationNodeId with
          | none => simp [Except.isOk, Except.toBool]
          | some destination =>
              by_cases noOutput : source.output connection.sourcePortId = none
              · simp [noOutput, Except.isOk, Except.toBool]
              · by_cases socket : hasSocket destination connection.destinationPortId = true
                · simp [noOutput, socket, sourceKnown, destinationKnown, Except.isOk,
                    Except.toBool]
                · simp [noOutput, socket, Except.isOk, Except.toBool]
    · rw [if_neg (not_not.mpr sourceKnown), if_pos destinationKnown]
      simp [destinationKnown, Except.isOk, Except.toBool]
  · rw [if_pos sourceKnown]
    simp [sourceKnown, Except.isOk, Except.toBool]

end ValidConnections

/-- The issues of a connection that is left out. -/
def connectionIssues (nodes : Dict UUID NodeModel)
    (definitions : Dict UUID (NodeExecutionContract ρ)) (connection : ConnectionModel) :
    List ValidationIssue :=
  match checkConnection nodes definitions connection with
  | .error issues => issues
  | .ok () => []

/-- `_validate_connections`. -/
def validateConnections (snapshot : GraphSnapshot) (nodes : Dict UUID NodeModel)
    (definitions : Dict UUID (NodeExecutionContract ρ)) :
    List ConnectionModel × List ValidationIssue :=
  let connections := distinct ConnectionModel.id [] (sortByKey ConnectionModel.id
    snapshot.connections)
  (connections.filter (fun connection => (checkConnection nodes definitions connection).isOk),
    connections.flatMap (connectionIssues nodes definitions))

def inputCardinality (nodeId : UUID) (portId : String) (count : Nat) : ValidationIssue :=
  ⟨"input_cardinality", "Input " ++ portId ++ " accepts one connection, got " ++ toString count,
    some nodeId, none, some portId⟩

/-- The input that a connection occupies. -/
def ConnectionModel.target (connection : ConnectionModel) : UUID × String :=
  (connection.destinationNodeId, connection.destinationPortId)

/-- The connections into an input. -/
def occupants (connections : List ConnectionModel) (input : UUID × String) :
    List ConnectionModel :=
  connections.filter (fun connection => decide (connection.target = input))

/-- The first occurrence of every input, in order. -/
def inputsInOrder (connections : List ConnectionModel) : List (UUID × String) :=
  (Dict.ofEntries (connections.map (fun connection => (connection.target, ())))).keys

/-- `_validate_cardinality`. -/
def validateCardinality (connections : List ConnectionModel) : List ValidationIssue :=
  ((inputsInOrder connections).filter (fun input =>
    decide (1 < (occupants connections input).length))).map (fun input =>
      inputCardinality input.1 input.2 (occupants connections input).length)

/-! ## Types -/

/-- `types_compatible`. -/
def typesCompatible (source destination : PortType) : Bool :=
  if source = destination ∨ (source = .int ∧ destination = .float) then true
  else
    match destination with
    | .scalarArray => decide (source = .float ∨ source = .int)
    | .imageArray => decide (source = .image)
    | .channelArray => decide (source = .channel)
    | _ => false

/-- `_array_type`. -/
def arrayType (valueType : PortType) : Except PyError PortType :=
  match valueType with
  | .float => .ok .scalarArray
  | .int => .ok .scalarArray
  | .image => .ok .imageArray
  | .channel => .ok .channelArray
  | _ => .error (.valueError ("No array port type for " ++ portTypeText valueType))

/-- `_base_type` for an array variable. -/
def elementType (valueType : PortType) : PortType :=
  match valueType with
  | .scalarArray => .float
  | .imageArray => .image
  | .channelArray => .channel
  | other => other

/-- `_variable_key`. -/
def expressionVariable (nodeId : UUID) : PortTypeExpression → Option VariableKey
  | .port _ => none
  | .typeVariable name _ _ => some (variableKey nodeId name)
  | .arrayTypeVariable name _ => some (variableKey nodeId name)

/-- `_base_type`: what a concrete type says about a variable. -/
def baseType (valueType : PortType) : PortTypeExpression → PortType
  | .arrayTypeVariable _ _ => elementType valueType
  | _ => valueType

/-- A port of a node, with the direction. -/
abbrev PortSide := UUID × String × Bool

/-- A port with its declared type; the next socket of a family is only
offered. -/
structure PortDeclaration where
  side : PortSide
  expression : PortTypeExpression
  isNext : Bool

/-- The sockets of a node that its connections occupy. -/
def connectedInputs (connections : List ConnectionModel) (nodeId : UUID) : List String :=
  ((connections.filter (fun connection => decide (connection.destinationNodeId = nodeId))).map
    ConnectionModel.destinationPortId).dedup

/-- The declaration of one port. -/
def declarePort (definition : NodeExecutionContract ρ) (nodeId : UUID)
    (parameters : Dict String ParameterValue) (isOutput : Bool) (isNext : String → Bool)
    (portId : String) : Except PyError PortDeclaration := do
  let expression ← definition.portType portId isOutput parameters
  return ⟨(nodeId, portId, isOutput), expression, isNext portId⟩

/-- The sockets of the parameters that take a cable. -/
def parameterDeclarations (definition : NodeExecutionContract ρ) (nodeId : UUID) :
    List PortDeclaration :=
  definition.parameters.filterMap (fun parameter =>
    if parameter.connectable then
      parameter.connectedPortType.map (fun portType =>
        ⟨(nodeId, parameter.id, false), .port portType, false⟩)
    else none)

/-- The ports of a node in the order in which their types are recorded. -/
def nodeDeclarations (connections : List ConnectionModel)
    (parameters : Dict UUID (Dict String ParameterValue)) (nodeId : UUID)
    (definition : NodeExecutionContract ρ) : Except PyError (List PortDeclaration) := do
  let nodeParameters := (parameters.get? nodeId).getD Dict.empty
  let connected := connectedInputs connections nodeId
  let baseIds := (definition.inputPorts connected).map InputPortSpec.id
  let inputs ← ((definition.inputPortsWithNext connected).map InputPortSpec.id).mapM
    (declarePort definition nodeId nodeParameters false (fun portId => decide (portId ∉ baseIds)))
  let outputs ← (definition.outputs.map OutputPortSpec.id).mapM
    (declarePort definition nodeId nodeParameters true (fun _ => false))
  return inputs ++ parameterDeclarations definition nodeId ++ outputs

/-- The ports of all nodes. -/
def portDeclarations (connections : List ConnectionModel)
    (definitions : Dict UUID (NodeExecutionContract ρ))
    (parameters : Dict UUID (Dict String ParameterValue)) :
    Except PyError (List PortDeclaration) := do
  let declarations ← definitions.entries.mapM (fun entry =>
    nodeDeclarations connections parameters entry.1 entry.2)
  return declarations.flatten

/-- The groups with the variable of a port. -/
def declareVariable (groups : TypeGroups) (declaration : PortDeclaration) : TypeGroups :=
  match declaration.expression with
  | .port _ => groups
  | .typeVariable name allowedTypes defaultType =>
      groups.add (variableKey declaration.side.1 name) allowedTypes.toFinset defaultType
  | .arrayTypeVariable name allowedTypes =>
      groups.add (variableKey declaration.side.1 name) allowedTypes.toFinset none

/-- `expressions[key]`. -/
def expressionAt (expressions : Dict PortSide PortTypeExpression) (side : PortSide) :
    Except PyError PortTypeExpression :=
  match expressions.get? side with
  | none => .error (.keyError side.2.1)
  | some expression => .ok expression

/-- What a connection says about the variables at its ends. -/
def relate (expressions : Dict PortSide PortTypeExpression) (groups : TypeGroups)
    (connection : ConnectionModel) : Except PyError TypeGroups := do
  let source ← expressionAt expressions (connection.sourceNodeId, connection.sourcePortId, true)
  let destination ←
    expressionAt expressions (connection.destinationNodeId, connection.destinationPortId, false)
  match expressionVariable connection.sourceNodeId source, source,
      expressionVariable connection.destinationNodeId destination, destination with
  | some sourceKey, _, some destinationKey, _ => groups.union sourceKey destinationKey
  | some sourceKey, source, none, .port portType =>
      groups.constrain sourceKey (baseType portType source)
  | none, .port portType, some destinationKey, destination =>
      groups.constrain destinationKey (baseType portType destination)
  | _, _, _, _ => return groups

def genericTypeConflict (side : PortSide) (name : String) (incompatible : Finset PortType) :
    ValidationIssue :=
  ⟨"generic_type_conflict",
    "Incompatible constraints on type variable " ++ name ++ ": " ++
      ", ".intercalate (sortByKey id ((allPortTypes.filter (fun portType =>
        decide (portType ∈ incompatible))).map portTypeText)), some side.1, none, some side.2.1⟩

def unresolvedGenericType (side : PortSide) (name : String) : ValidationIssue :=
  ⟨"unresolved_generic_type", "Type variable " ++ name ++ " could not be resolved", some side.1,
    none, some side.2.1⟩

/-- A variable settles to the type of its group, which `shape` turns into the
type of the port; the groups are those after the searches for the root. -/
def resolveVariable (groups : TypeGroups) (isNext : Bool) (side : PortSide) (name : String)
    (shape : PortType → Except PyError PortType) :
    Except PyError (Option PortType × List ValidationIssue × TypeGroups) := do
  let (incompatible, groups) ← groups.incompatibleCandidates (variableKey side.1 name)
  let (valueType, groups) ← groups.resolve (variableKey side.1 name)
  if incompatible ≠ ∅ then
    return (none, if isNext then [] else [genericTypeConflict side name incompatible], groups)
  else
    match valueType with
    | none => return (none, if isNext then [] else [unresolvedGenericType side name], groups)
    | some valueType => return (some (← shape valueType), [], groups)

/-- The type of one port, with the issue that it has. -/
def resolvePort (groups : TypeGroups) (isNext : Bool) (side : PortSide) :
    PortTypeExpression →
      Except PyError (Option PortType × List ValidationIssue × TypeGroups)
  | .port portType => .ok (some portType, [], groups)
  | .typeVariable name _ _ => resolveVariable groups isNext side name .ok
  | .arrayTypeVariable name _ => resolveVariable groups isNext side name arrayType

/-- The types of the ports in order. -/
def resolvePorts (isNext : PortSide → Bool) :
    List (PortSide × PortTypeExpression) → TypeGroups →
      Except PyError (List (PortSide × Option PortType) × List ValidationIssue)
  | [], _ => .ok ([], [])
  | (side, expression) :: rest, groups => do
      let (resolved, issues, groups) ← resolvePort groups (isNext side) side expression
      let (others, otherIssues) ← resolvePorts isNext rest groups
      return ((side, resolved) :: others, issues ++ otherIssues)

def incompatiblePortTypes (connection : ConnectionModel) (source destination : PortType) :
    ValidationIssue :=
  ⟨"incompatible_port_types",
    "Cannot connect " ++ portTypeText source ++ " to " ++ portTypeText destination,
    some connection.destinationNodeId, some connection.id, some connection.destinationPortId⟩

/-- A connection between settled ports whose types do not fit. -/
def compatibilityIssue (resolved : Dict PortSide (Option PortType))
    (connection : ConnectionModel) : Option ValidationIssue :=
  match (resolved.get? (connection.sourceNodeId, connection.sourcePortId, true)).join,
      (resolved.get? (connection.destinationNodeId, connection.destinationPortId, false)).join with
  | some source, some destination =>
      if typesCompatible source destination then none
      else some (incompatiblePortTypes connection source destination)
  | _, _ => none

/-- `_resolve_types`: the types of all ports and the issues. -/
def resolveTypes (connections : List ConnectionModel)
    (definitions : Dict UUID (NodeExecutionContract ρ))
    (parameters : Dict UUID (Dict String ParameterValue)) :
    Except PyError (Dict PortSide (Option PortType) × List ValidationIssue) := do
  let declarations ← portDeclarations connections definitions parameters
  let expressions := Dict.ofEntries (declarations.map (fun declaration =>
    (declaration.side, declaration.expression)))
  let nextOnly := (declarations.filter PortDeclaration.isNext).map PortDeclaration.side
  let groups ← connections.foldlM (relate expressions)
    (declarations.foldl declareVariable TypeGroups.empty)
  let (entries, issues) ←
    resolvePorts (fun side => decide (side ∈ nextOnly)) expressions.entries groups
  let resolved := Dict.ofEntries entries
  return (resolved, issues ++ connections.filterMap (compatibilityIssue resolved))

/-! ## Required inputs -/

def requiredInputMissing (nodeId : UUID) (portId : String) : ValidationIssue :=
  ⟨"required_input_missing", "Required input " ++ quoted portId ++ " is not connected",
    some nodeId, none, some portId⟩

def requiredFamilyMissing (nodeId : UUID) (family : VariadicInputSpec) (count : Nat) :
    ValidationIssue :=
  ⟨"required_input_missing",
    "Input family " ++ quoted family.idPrefix ++ " has " ++ toString count ++
      " connected socket(s) but needs at least " ++ toString family.minimumCount,
    some nodeId, none, some family.idPrefix⟩

/-- What is missing for one required input; a family counts its sockets. -/
def requiredInputIssue (definition : NodeExecutionContract ρ) (nodeId : UUID)
    (connected : List String) (portId : String) : Option ValidationIssue :=
  match definition.variadicInput.filter (fun family => decide (portId = family.idPrefix)) with
  | some family =>
      let count := (connected.filter (fun socket => (family.index socket).isSome)).length
      if count < family.minimumCount then some (requiredFamilyMissing nodeId family count) else none
  | none => if portId ∉ connected then some (requiredInputMissing nodeId portId) else none

/-- `_validate_required_inputs`. -/
def validateRequiredInputs (connections : List ConnectionModel)
    (definitions : Dict UUID (NodeExecutionContract ρ))
    (parameters : Dict UUID (Dict String ParameterValue)) : List ValidationIssue :=
  definitions.entries.flatMap (fun entry =>
    (sortByKey id (entry.2.requiredInputs ((parameters.get? entry.1).getD Dict.empty))).filterMap
      (requiredInputIssue entry.2 entry.1 (connectedInputs connections entry.1)))

/-! ## All phases -/

/-- What a run of all phases reports and settles. -/
structure Validated (ρ : Type) where
  analysis : Analysis ρ
  issues : List ValidationIssue

/-- `_analyze`. -/
def validateSnapshot (registry : NodeRegistry ρ) (snapshot : GraphSnapshot)
    (demandRoots : Option (List UUID)) : Except PyError (Validated ρ) := do
  let (nodes, duplicates) := uniqueNodes snapshot
  let resolved := resolveDefinitions registry nodes
  let validated := validateConnections snapshot nodes resolved.definitions
  let (types, typeIssues) ← resolveTypes validated.1 resolved.definitions resolved.parameters
  let settled : Resolved ρ :=
    { nodes := nodes.keys
      definitions := resolved.definitions
      parameters := resolved.parameters
      connections := validated.1
      resolvedTypes := types
      nodes_nodup := nodes.keys_nodup
      source_mem := fun _ member => (checkConnection_isOk.mp (List.mem_filter.mp member).2).1.1
      destination_mem := fun _ member =>
        (checkConnection_isOk.mp (List.mem_filter.mp member).2).1.2 }
  let order := topologicalOrder settled.nodes settled.connections
  let clocks := analyzeClocks settled.definitions settled.connections order.1 Dict.empty []
  let roots :=
    resolveDemandRoots settled.nodes settled.definitions settled.connections demandRoots
  return {
    analysis := (analyze settled demandRoots).1
    issues := duplicates ++ resolved.issues ++ validated.2 ++
      validateCardinality settled.connections ++ typeIssues ++ order.2 ++
      validateRequiredInputs settled.connections settled.definitions settled.parameters ++
      clocks.2 ++ roots.2 }

/-! ## Partial compilation -/

/-- The nodes that an issue or an unsettled port excludes. -/
def droppedNodes (snapshot : GraphSnapshot) (validated : Validated ρ) : List UUID :=
  (validated.issues.filterMap ValidationIssue.nodeId ++
    (validated.analysis.resolvedTypes.entries.filter (fun entry => decide (entry.2 = none))).map
      (fun entry => entry.1.1)).filter (fun nodeId =>
        decide (nodeId ∈ snapshot.nodes.map NodeModel.id))

/-- The connections that an issue excludes. -/
def droppedConnections (validated : Validated ρ) : List UUID :=
  validated.issues.filterMap ValidationIssue.connectionId

/-- `_reduced_snapshot`; `none` when nothing can be removed. -/
def reducedSnapshot (snapshot : GraphSnapshot) (validated : Validated ρ) : Option GraphSnapshot :=
  let dropped := droppedNodes snapshot validated
  let nodes := snapshot.nodes.filter (fun node => decide (node.id ∉ dropped))
  let connections := snapshot.connections.filter (fun connection =>
    decide (connection.id ∉ droppedConnections validated ∧ connection.sourceNodeId ∉ dropped ∧
      connection.destinationNodeId ∉ dropped))
  if nodes.length = snapshot.nodes.length ∧ connections.length = snapshot.connections.length then
    none
  else some { snapshot with nodes := nodes, connections := connections }

/-- `_surviving_roots`. -/
def survivingRoots (requested : Option (List UUID)) (snapshot : GraphSnapshot) :
    Option (List UUID) :=
  requested.map (fun roots =>
    roots.filter (fun root => decide (root ∈ snapshot.nodes.map NodeModel.id)))

structure CompilationResult (ρ : Type) where
  report : List ValidationIssue
  plan : Option (ExecutionPlan ρ)
  resolvedTypes : Dict PortSide (Option PortType)

/-- The plan of an analysis under the identity of the document. -/
def planOf (snapshot : GraphSnapshot) (validated : Validated ρ) :
    Except PyError (ExecutionPlan ρ) :=
  buildPlan snapshot.documentId snapshot.revision validated.analysis

/-- The rounds of the reduction, at most as many as the first argument says. -/
def reduceLoop (registry : NodeRegistry ρ) (snapshot : GraphSnapshot)
    (requested : Option (List UUID)) :
    Nat → GraphSnapshot → Validated ρ → Except PyError (Option (ExecutionPlan ρ))
  | 0, _, _ => .ok none
  | fuel + 1, current, validated =>
      match reducedSnapshot current validated with
      | none => do
          let surviving := survivingRoots requested current
          if surviving ≠ requested then
            let final ← validateSnapshot registry current surviving
            if final.issues = [] then (planOf snapshot final).map some else .ok none
          else .ok none
      | some reduced => do
          let again ← validateSnapshot registry reduced (survivingRoots requested reduced)
          if again.issues = [] then (planOf snapshot again).map some
          else reduceLoop registry snapshot requested fuel reduced again

/-- `compile`: every round leaves out a node or a connection. -/
def compile (registry : NodeRegistry ρ) (snapshot : GraphSnapshot)
    (demandRoots : Option (List UUID)) : Except PyError (CompilationResult ρ) := do
  let full ← validateSnapshot registry snapshot demandRoots
  let rounds := snapshot.nodes.length + snapshot.connections.length + 1
  let plan ←
    if full.issues = [] then (planOf snapshot full).map some
    else reduceLoop registry snapshot demandRoots rounds snapshot full
  return ⟨full.issues, plan, full.analysis.resolvedTypes⟩

end Graph
end Synesthesia
