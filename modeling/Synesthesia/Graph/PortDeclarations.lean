import Synesthesia.Graph.Reduction
import Synesthesia.Nodes.NumberedSockets

namespace Synesthesia
namespace Graph

open Foundation Contracts Nodes

/-!
# The ports that have a type

The first loop of `GraphCompiler._resolve_types` lists the ports of the known
nodes with their declared types.  A port is stated here by its node alone; the
list holds exactly these ports.
-/

variable {ρ : Type}

/-! ## The ports of a node -/

/-- A port of a node with its declared type: a socket, the next one of a family
among them, a parameter that takes a cable, or an output. -/
def PortOf (definition : NodeExecutionContract ρ) (connected : List String)
    (parameters : Dict String ParameterValue) (portId : String) :
    Bool → PortTypeExpression → Prop
  | false, expression =>
      (∃ port ∈ definition.inputPortsWithNext connected, port.id = portId ∧
        definition.portType portId false parameters = .ok expression) ∨
      ∃ parameter ∈ definition.parameters, parameter.connectable = true ∧
        parameter.id = portId ∧ ∃ portType, parameter.connectedPortType = some portType ∧
          expression = .port portType
  | true, expression =>
      ∃ port ∈ definition.outputs, port.id = portId ∧
        definition.portType portId true parameters = .ok expression

/-- A socket of the family that is only offered. -/
def NextSocket (definition : NodeExecutionContract ρ) (connected : List String)
    (portId : String) : Prop :=
  (∃ port ∈ definition.inputPortsWithNext connected, port.id = portId) ∧
    ∀ port ∈ definition.inputPorts connected, port.id ≠ portId

section Ports

variable {definition : NodeExecutionContract ρ} {connected : List String}
  {parameters : Dict String ParameterValue} {portId : String}

/-- A parameter is no socket. -/
theorem input_parameter (constructed : definition.Constructed) {parameter : ParameterSpec}
    (member : parameter ∈ definition.parameters) : definition.input parameter.id = none := by
  have absent : definition.inputs.find? (fun port => decide (port.id = parameter.id)) = none := by
    rw [List.find?_eq_none]
    intro port isPort same
    exact constructed.separate port isPort parameter member (of_decide_eq_true same)
  rw [NodeExecutionContract.input, absent]
  cases variadic : definition.variadicInput with
  | none => rfl
  | some family =>
      dsimp only
      rw [constructed.parameter_fixed family variadic parameter member]
      rfl

theorem parameter_not_listed (constructed : definition.Constructed) {parameter : ParameterSpec}
    (member : parameter ∈ definition.parameters) {port : InputPortSpec}
    (listed : port ∈ definition.inputPortsWithNext connected) : port.id ≠ parameter.id := by
  intro same
  have found := NodeExecutionContract.input_of_mem_inputPortsWithNext constructed listed
  rw [same, input_parameter constructed member] at found
  cases found

/-- A port has one declared type. -/
theorem PortOf.unique (constructed : definition.Constructed) {isOutput : Bool}
    {left right : PortTypeExpression}
    (first : PortOf definition connected parameters portId isOutput left)
    (second : PortOf definition connected parameters portId isOutput right) : left = right := by
  cases isOutput with
  | true =>
      rcases first with ⟨_, _, _, typed⟩
      rcases second with ⟨_, _, _, alsoTyped⟩
      exact Except.ok.inj (typed.symm.trans alsoTyped)
  | false =>
      rcases first with ⟨port, listed, isPort, typed⟩ |
        ⟨parameter, member, _, isParameter, portType, typed, rfl⟩
      · rcases second with ⟨_, _, _, alsoTyped⟩ | ⟨parameter, member, _, isParameter, _⟩
        · exact Except.ok.inj (typed.symm.trans alsoTyped)
        · exact absurd (isPort.trans isParameter.symm)
            (parameter_not_listed constructed member listed)
      · rcases second with ⟨port, listed, isPort, _⟩ |
          ⟨other, alsoMember, _, isOther, otherType, alsoTyped, rfl⟩
        · exact absurd (isPort.trans isParameter.symm)
            (parameter_not_listed constructed member listed)
        · have same : parameter = other := by
            apply List.inj_on_of_nodup_map constructed.parameters_unique member alsoMember
            exact isParameter.trans isOther.symm
          rw [same, alsoTyped] at typed
          rw [Option.some.inj typed]

/-- A connected socket is a port, and it is not only offered. -/
theorem portOf_connected (parameters : Dict String ParameterValue)
    (constructed : definition.Constructed) (member : portId ∈ connected)
    (socket : hasSocket definition portId = true) :
    ∃ expression, PortOf definition connected parameters portId false expression := by
  rw [hasSocket, Bool.or_eq_true] at socket
  rcases socket with isInput | isParameter
  · rcases NodeExecutionContract.mem_inputPorts_of_connected member isInput with
      ⟨port, listed, rfl⟩
    have found := NodeExecutionContract.input_of_mem_inputPorts constructed listed
    rcases NodeExecutionContract.portType_input found parameters with ⟨expression, typed⟩
    exact ⟨expression, Or.inl ⟨port,
      NodeExecutionContract.inputPorts_subset_inputPortsWithNext _ listed, rfl, typed⟩⟩
  · rcases (Option.any_eq_true _ _).mp isParameter with ⟨parameter, found, connectable⟩
    have listed := List.mem_of_find?_eq_some found
    have isId : parameter.id = portId := by simpa using List.find?_some found
    rcases Option.isSome_iff_exists.mp
      ((constructed.socket_typed parameter listed).mp connectable) with ⟨portType, typed⟩
    exact ⟨.port portType, Or.inr ⟨parameter, listed, connectable, isId, portType, typed, rfl⟩⟩

theorem portOf_output (connected : List String) (parameters : Dict String ParameterValue)
    (found : definition.output portId ≠ none) :
    ∃ expression, PortOf definition connected parameters portId true expression := by
  rcases Option.ne_none_iff_exists'.mp found with ⟨port, isPort⟩
  rcases NodeExecutionContract.portType_output isPort parameters with ⟨expression, typed⟩
  have isId : port.id = portId := by simpa using List.find?_some isPort
  exact ⟨expression, port, List.mem_of_find?_eq_some isPort, isId, typed⟩

/-! ### How they are listed -/

/-- A declaration states a port and whether it is only offered. -/
structure DeclaresPort (definition : NodeExecutionContract ρ) (connected : List String)
    (parameters : Dict String ParameterValue) (nodeId : UUID) (declaration : PortDeclaration) :
    Prop where
  node : declaration.side.1 = nodeId
  port : PortOf definition connected parameters declaration.side.2.1 declaration.side.2.2
    declaration.expression
  next : declaration.isNext = true ↔
    declaration.side.2.2 = false ∧ NextSocket definition connected declaration.side.2.1

theorem declarePort_eq_ok {nodeId : UUID} {isOutput : Bool} {isNext : String → Bool}
    {declaration : PortDeclaration} :
    declarePort definition nodeId parameters isOutput isNext portId = .ok declaration ↔
      ∃ expression, definition.portType portId isOutput parameters = .ok expression ∧
        declaration = ⟨(nodeId, portId, isOutput), expression, isNext portId⟩ := by
  rw [declarePort, bind_eq_ok]
  constructor
  · rintro ⟨expression, typed, made⟩
    exact ⟨expression, typed, (Except.ok.inj made).symm⟩
  · rintro ⟨expression, typed, rfl⟩
    exact ⟨expression, typed, rfl⟩

end Ports

/-- The declarations of a node state all its ports. -/
theorem nodeDeclarations_eq_ok (connections : List ConnectionModel)
    (parameters : Dict UUID (Dict String ParameterValue)) (nodeId : UUID)
    {definition : NodeExecutionContract ρ} (constructed : definition.Constructed) :
    ∃ declarations, nodeDeclarations connections parameters nodeId definition = .ok declarations ∧
      (∀ declaration ∈ declarations, DeclaresPort definition (connectedInputs connections nodeId)
        ((parameters.get? nodeId).getD Dict.empty) nodeId declaration) ∧
      ∀ portId isOutput expression, PortOf definition (connectedInputs connections nodeId)
        ((parameters.get? nodeId).getD Dict.empty) portId isOutput expression →
          ∃ declaration ∈ declarations, declaration.side = (nodeId, portId, isOutput) ∧
            declaration.expression = expression := by
  let nodeParameters := (parameters.get? nodeId).getD Dict.empty
  let connected := connectedInputs connections nodeId
  let baseIds := (definition.inputPorts connected).map InputPortSpec.id
  have socketsReturn : ∀ portId ∈ (definition.inputPortsWithNext connected).map InputPortSpec.id,
      ∃ declaration, declarePort definition nodeId nodeParameters false
        (fun portId => decide (portId ∉ baseIds)) portId = .ok declaration := by
    intro portId member
    rcases List.mem_map.mp member with ⟨port, listed, rfl⟩
    have found := NodeExecutionContract.input_of_mem_inputPortsWithNext constructed listed
    rcases NodeExecutionContract.portType_input found nodeParameters with ⟨expression, typed⟩
    exact ⟨_, declarePort_eq_ok.mpr ⟨expression, typed, rfl⟩⟩
  have outputsReturn : ∀ portId ∈ definition.outputs.map OutputPortSpec.id,
      ∃ declaration, declarePort definition nodeId nodeParameters true (fun _ => false) portId =
        .ok declaration := by
    intro portId member
    rcases List.mem_map.mp member with ⟨port, listed, rfl⟩
    have found := NodeExecutionContract.output_of_mem constructed listed
    rcases NodeExecutionContract.portType_output found nodeParameters with ⟨expression, typed⟩
    exact ⟨_, declarePort_eq_ok.mpr ⟨expression, typed, rfl⟩⟩
  rcases mapM_eq_ok socketsReturn with ⟨sockets, socketsRun, inSockets⟩
  rcases mapM_eq_ok outputsReturn with ⟨outputs, outputsRun, inOutputs⟩
  refine ⟨sockets ++ parameterDeclarations definition nodeId ++ outputs, ?_, ?_, ?_⟩
  · rw [nodeDeclarations]
    exact bind_eq_ok.mpr ⟨sockets, socketsRun, bind_eq_ok.mpr ⟨outputs, outputsRun, rfl⟩⟩
  · intro declaration member
    rcases List.mem_append.mp member with earlier | isOutput
    · rcases List.mem_append.mp earlier with isSocket | isParameter
      · rcases (inSockets declaration).mp isSocket with ⟨portId, listed, declared⟩
        rcases declarePort_eq_ok.mp declared with ⟨expression, typed, rfl⟩
        rcases List.mem_map.mp listed with ⟨port, isPort, same⟩
        refine ⟨rfl, Or.inl ⟨port, isPort, same, typed⟩, ?_⟩
        dsimp only
        rw [decide_eq_true_eq]
        constructor
        · intro free
          refine ⟨rfl, ⟨port, isPort, same⟩, ?_⟩
          intro base isBase isId
          exact free (List.mem_map.mpr ⟨base, isBase, isId⟩)
        · rintro ⟨_, _, free⟩ isBase
          rcases List.mem_map.mp isBase with ⟨base, listedBase, isId⟩
          exact free base listedBase isId
      · rcases List.mem_filterMap.mp isParameter with ⟨parameter, listed, declared⟩
        split_ifs at declared with connectable
        rcases Option.map_eq_some_iff.mp declared with ⟨portType, typed, rfl⟩
        refine ⟨rfl, Or.inr ⟨parameter, listed, connectable, rfl, portType, typed, rfl⟩, ?_⟩
        refine iff_of_false (by simp) ?_
        rintro ⟨_, ⟨port, isPort, same⟩, _⟩
        exact parameter_not_listed constructed listed isPort same
    · rcases (inOutputs declaration).mp isOutput with ⟨portId, listed, declared⟩
      rcases declarePort_eq_ok.mp declared with ⟨expression, typed, rfl⟩
      rcases List.mem_map.mp listed with ⟨port, isPort, same⟩
      exact ⟨rfl, ⟨port, isPort, same, typed⟩, by simp⟩
  · intro portId isOutput expression isPort
    cases isOutput with
    | true =>
        rcases isPort with ⟨port, listed, rfl, typed⟩
        exact ⟨_, List.mem_append_right _ ((inOutputs _).mpr ⟨port.id, List.mem_map_of_mem listed,
          declarePort_eq_ok.mpr ⟨expression, typed, rfl⟩⟩), rfl, rfl⟩
    | false =>
        rcases isPort with ⟨port, listed, rfl, typed⟩ |
          ⟨parameter, listed, connectable, rfl, portType, typed, rfl⟩
        · exact ⟨_, List.mem_append_left _ (List.mem_append_left _ ((inSockets _).mpr
            ⟨port.id, List.mem_map_of_mem listed,
              declarePort_eq_ok.mpr ⟨expression, typed, rfl⟩⟩)), rfl, rfl⟩
        · refine ⟨⟨(nodeId, parameter.id, false), .port portType, false⟩, List.mem_append_left _
            (List.mem_append_right _ (List.mem_filterMap.mpr ⟨parameter, listed, ?_⟩)), rfl, rfl⟩
          rw [if_pos connectable, typed]
          rfl

/-! ## The ports of all nodes -/

/-- What `_resolve_types` is given: nodes with their parameters, and
connections between ports that exist. -/
structure TypeInput (ρ : Type) where
  connections : List ConnectionModel
  definitions : Dict UUID (NodeExecutionContract ρ)
  parameters : Dict UUID (Dict String ParameterValue)
  constructed : ∀ nodeId definition, definitions.get? nodeId = some definition →
    definition.Constructed
  joined : ∀ connection ∈ connections, ∃ source destination,
    definitions.get? connection.sourceNodeId = some source ∧
      definitions.get? connection.destinationNodeId = some destination ∧
      source.output connection.sourcePortId ≠ none ∧
      hasSocket destination connection.destinationPortId = true

namespace TypeInput

variable (input : TypeInput ρ)

def run : Except PyError (Dict PortSide (Option PortType) × List ValidationIssue) :=
  resolveTypes input.connections input.definitions input.parameters

def connected (nodeId : UUID) : List String := connectedInputs input.connections nodeId

def nodeParameters (nodeId : UUID) : Dict String ParameterValue :=
  (input.parameters.get? nodeId).getD Dict.empty

/-- A port of a known node with its declared type. -/
def HasPort (side : PortSide) (expression : PortTypeExpression) : Prop :=
  ∃ definition, input.definitions.get? side.1 = some definition ∧
    PortOf definition (input.connected side.1) (input.nodeParameters side.1) side.2.1 side.2.2
      expression

/-- A socket that is only offered. -/
def NextOnly (side : PortSide) : Prop :=
  side.2.2 = false ∧ ∃ definition, input.definitions.get? side.1 = some definition ∧
    NextSocket definition (input.connected side.1) side.2.1

/-- A connection joins two ports with their declared types. -/
def Joins (connection : ConnectionModel) (source destination : PortTypeExpression) : Prop :=
  input.HasPort (connection.sourceNodeId, connection.sourcePortId, true) source ∧
    input.HasPort (connection.destinationNodeId, connection.destinationPortId, false) destination

variable {input}

theorem HasPort.unique {side : PortSide} {left right : PortTypeExpression}
    (first : input.HasPort side left) (second : input.HasPort side right) : left = right := by
  rcases first with ⟨definition, known, isPort⟩
  rcases second with ⟨other, alsoKnown, alsoPort⟩
  rw [known, Option.some.injEq] at alsoKnown
  subst alsoKnown
  exact isPort.unique (input.constructed side.1 definition known) alsoPort

/-- The declarations of all nodes state the ports of the known nodes. -/
structure Declarations (input : TypeInput ρ) (declarations : List PortDeclaration) : Prop where
  sound : ∀ declaration ∈ declarations, input.HasPort declaration.side declaration.expression ∧
    (declaration.isNext = true ↔ input.NextOnly declaration.side)
  complete : ∀ side expression, input.HasPort side expression →
    ∃ declaration ∈ declarations, declaration.side = side ∧ declaration.expression = expression

theorem portDeclarations_eq_ok (input : TypeInput ρ) :
    ∃ declarations, portDeclarations input.connections input.definitions input.parameters =
      .ok declarations ∧ input.Declarations declarations := by
  have each : ∀ entry ∈ input.definitions.entries, ∃ declarations,
      nodeDeclarations input.connections input.parameters entry.1 entry.2 = .ok declarations := by
    intro entry member
    rcases nodeDeclarations_eq_ok input.connections input.parameters entry.1
      (input.constructed entry.1 entry.2 (Dict.get?_of_mem member)) with ⟨declarations, ran, _⟩
    exact ⟨declarations, ran⟩
  rcases mapM_eq_ok each with ⟨listed, ran, inListed⟩
  refine ⟨listed.flatten, bind_eq_ok.mpr ⟨listed, ran, rfl⟩, ?_, ?_⟩
  · intro declaration member
    rcases List.mem_flatten.mp member with ⟨declarations, isListed, isDeclared⟩
    rcases (inListed declarations).mp isListed with ⟨⟨nodeId, definition⟩, isEntry, declared⟩
    have known := Dict.get?_of_mem isEntry
    rcases nodeDeclarations_eq_ok input.connections input.parameters nodeId
      (input.constructed nodeId definition known) with ⟨others, ranOthers, sound, _⟩
    cases declared.symm.trans ranOthers
    have states := sound declaration isDeclared
    have atNode : input.definitions.get? declaration.side.1 = some definition := by
      rw [states.node, known]
    refine ⟨⟨definition, atNode, ?_⟩, ?_⟩
    · rw [states.node]
      exact states.port
    · rw [states.next, NextOnly, atNode, states.node]
      simp only [Option.some.injEq, exists_eq_left']
      rfl
  · rintro ⟨nodeId, portId, isOutput⟩ expression ⟨definition, known, isPort⟩
    rcases nodeDeclarations_eq_ok input.connections input.parameters nodeId
      (input.constructed nodeId definition known) with ⟨declarations, declared, _, complete⟩
    rcases complete portId isOutput expression isPort with ⟨declaration, member, same⟩
    refine ⟨declaration, List.mem_flatten.mpr ⟨declarations, ?_, member⟩, same⟩
    exact (inListed declarations).mpr ⟨(nodeId, definition), Dict.mem_of_get? known, declared⟩

end TypeInput

end Graph
end Synesthesia
