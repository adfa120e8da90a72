import Synesthesia.Graph.CompiledPlan

namespace Synesthesia
namespace Graph

open Foundation Contracts Nodes Synesthesia.Runtime

/-!
# The bindings of a compiled node

`_compile_node` binds every socket of a node that a connection occupies and
records the settled types of its ports.
-/

variable {ρ : Type}

/-! ## Incoming connections -/

section Incoming

variable {connections : List ConnectionModel} {nodeId : UUID} {portId : String}
  {connection : ConnectionModel}

theorem incomingConnections_sound
    (found : (incomingConnections connections nodeId).get? portId = some connection) :
    connection ∈ connections ∧ connection.destinationNodeId = nodeId ∧
      connection.destinationPortId = portId := by
  rcases List.mem_map.mp (Dict.mem_of_mem_ofEntries (Dict.mem_of_get? found)) with
    ⟨other, member, same⟩
  cases same
  rcases List.mem_filter.mp member with ⟨isConnection, ends⟩
  exact ⟨isConnection, of_decide_eq_true ends, rfl⟩

theorem mem_keys_incomingConnections :
    portId ∈ (incomingConnections connections nodeId).keys ↔
      ∃ connection ∈ connections, connection.destinationNodeId = nodeId ∧
        connection.destinationPortId = portId := by
  simp only [incomingConnections, Dict.mem_keys_ofEntries, List.map_map, List.mem_map,
    List.mem_filter, decide_eq_true_eq, Function.comp_apply, and_assoc]

end Incoming

/-! ## Settled types -/

section Types

variable {resolvedTypes : Dict (UUID × String × Bool) (Option PortType)} {nodeId : UUID}
  {portId : String} {isOutput : Bool} {portType : PortType}

theorem settledType_eq_ok : settledType resolvedTypes nodeId portId isOutput = .ok portType ↔
    resolvedTypes.get? (nodeId, portId, isOutput) = some (some portType) := by
  rw [settledType]
  cases resolvedTypes.get? (nodeId, portId, isOutput) with
  | none => simp
  | some settled =>
      cases settled with
      | none => simp
      | some other => simp

/-- The recorded types are the settled ones of the listed ports. -/
theorem portTypesOf_ok {ports : List String} {types result : Dict String PortType}
    (finished : portTypesOf resolvedTypes nodeId isOutput ports types = .ok result) :
    (∀ portId portType, result.get? portId = some portType →
      types.get? portId = some portType ∨
        resolvedTypes.get? (nodeId, portId, isOutput) = some (some portType)) ∧
    ∀ portId, portId ∈ result.keys ↔ portId ∈ types.keys ∨ portId ∈ ports := by
  induction ports generalizing types with
  | nil =>
      cases finished
      exact ⟨fun _ _ found => Or.inl found, fun _ => by simp⟩
  | cons first rest ih =>
      rcases bind_eq_ok.mp finished with ⟨settled, isSettled, finished⟩
      rcases ih finished with ⟨sound, keys⟩
      refine ⟨?_, ?_⟩
      · intro portId portType found
        rcases sound portId portType found with earlier | resolved
        · rw [Dict.get?_insert] at earlier
          split_ifs at earlier with same
          · rw [same, ← Option.some.inj earlier]
            exact Or.inr (settledType_eq_ok.mp isSettled)
          · exact Or.inl earlier
        · exact Or.inr resolved
      · intro portId
        rw [keys, Dict.mem_keys_insert, List.mem_cons]
        tauto

end Types

/-! ## Bindings -/

/-- A binding leads to the source of a connection, with the conversion that
the settled types ask for. -/
structure BoundBy (resolvedTypes : Dict (UUID × String × Bool) (Option PortType))
    (connection : ConnectionModel) (binding : InputBinding) : Prop where
  source : binding.source = ⟨connection.sourceNodeId, connection.sourcePortId⟩
  converted : ∃ sourceType destinationType,
    resolvedTypes.get? (connection.sourceNodeId, connection.sourcePortId, true) =
      some (some sourceType) ∧
    resolvedTypes.get? (connection.destinationNodeId, connection.destinationPortId, false) =
      some (some destinationType) ∧
    (binding.conversion = some .intToFloat ↔ sourceType = .int ∧ destinationType = .float)

section Bindings

variable {resolvedTypes : Dict (UUID × String × Bool) (Option PortType)} {nodeId : UUID}
  {connections : List ConnectionModel}

/-- The bindings are those of the listed sockets that a connection occupies. -/
theorem inputBindingsOf_ok {sockets : List String} {bindings result : Dict String InputBinding}
    (finished : inputBindingsOf resolvedTypes nodeId (incomingConnections connections nodeId)
      sockets bindings = .ok result) :
    (∀ portId binding, result.get? portId = some binding →
      bindings.get? portId = some binding ∨ ∃ connection,
        (incomingConnections connections nodeId).get? portId = some connection ∧
          BoundBy resolvedTypes connection binding) ∧
    ∀ portId, portId ∈ result.keys ↔ portId ∈ bindings.keys ∨
      (portId ∈ sockets ∧ portId ∈ (incomingConnections connections nodeId).keys) := by
  induction sockets generalizing bindings with
  | nil =>
      cases finished
      exact ⟨fun _ _ found => Or.inl found, fun _ => by simp⟩
  | cons first rest ih =>
      rw [inputBindingsOf] at finished
      cases occupied : (incomingConnections connections nodeId).get? first with
      | none =>
          rw [occupied] at finished
          rcases ih finished with ⟨sound, keys⟩
          refine ⟨sound, ?_⟩
          intro portId
          have free := (Dict.get?_eq_none _ _).mp occupied
          rw [keys, List.mem_cons]
          constructor
          · tauto
          · rintro (known | ⟨rfl | inRest, isKey⟩)
            · exact Or.inl known
            · exact absurd isKey free
            · exact Or.inr ⟨inRest, isKey⟩
      | some connection =>
          rw [occupied] at finished
          rcases bind_eq_ok.mp finished with ⟨sourceType, isSource, finished⟩
          rcases bind_eq_ok.mp finished with ⟨destinationType, isDestination, finished⟩
          rcases ih finished with ⟨sound, keys⟩
          have isKey : first ∈ (incomingConnections connections nodeId).keys := by
            rw [← Dict.get?_isSome, occupied]
            rfl
          refine ⟨?_, ?_⟩
          · intro portId binding found
            rcases sound portId binding found with earlier | bound
            · by_cases same : portId = first
              · rw [same, Dict.get?_insert_self, Option.some.injEq] at earlier
                rw [← earlier, same]
                rcases incomingConnections_sound occupied with ⟨_, rfl, rfl⟩
                refine Or.inr ⟨connection, occupied, rfl, sourceType, destinationType,
                  settledType_eq_ok.mp isSource, settledType_eq_ok.mp isDestination, ?_⟩
                by_cases convertible : sourceType = .int ∧ destinationType = .float
                · simp [convertible]
                · simp [convertible]
              · rw [Dict.get?_insert_of_ne _ same] at earlier
                exact Or.inl earlier
            · exact Or.inr bound
          · intro portId
            rw [keys, Dict.mem_keys_insert, List.mem_cons]
            constructor
            · rintro ((rfl | known) | listed)
              · exact Or.inr ⟨Or.inl rfl, isKey⟩
              · exact Or.inl known
              · exact Or.inr ⟨Or.inr listed.1, listed.2⟩
            · rintro (known | ⟨rfl | inRest, occupies⟩)
              · exact Or.inl (Or.inr known)
              · exact Or.inl (Or.inl rfl)
              · exact Or.inr ⟨inRest, occupies⟩

end Bindings

/-! ## Nodes -/

/-- What `_compile_node` records of a node, from the settled types and the
valid connections. -/
structure RecordedNode (connections : List ConnectionModel)
    (resolvedTypes : Dict (UUID × String × Bool) (Option PortType)) (node : CompiledNode ρ) :
    Prop where
  static : node.isStatic = true ↔ node.clockId = none ∧ node.definition.cachePolicy ≠ .never
  bound : ∀ portId binding, node.inputBindings.get? portId = some binding → ∃ connection,
    (incomingConnections connections node.nodeId).get? portId = some connection ∧
      BoundBy resolvedTypes connection binding
  binds : ∀ portId, portId ∈ node.inputBindings.keys ↔
    portId ∈ inputSocketIds node.definition (incomingConnections connections node.nodeId).keys ∧
      portId ∈ (incomingConnections connections node.nodeId).keys
  inputTypes : ∀ portId portType, node.inputTypes.get? portId = some portType →
    resolvedTypes.get? (node.nodeId, portId, false) = some (some portType)
  inputs : ∀ portId, portId ∈ node.inputTypes.keys ↔
    portId ∈ inputSocketIds node.definition (incomingConnections connections node.nodeId).keys
  outputTypes : ∀ portId portType, node.outputTypes.get? portId = some portType →
    resolvedTypes.get? (node.nodeId, portId, true) = some (some portType)
  outputs : ∀ portId, portId ∈ node.outputTypes.keys ↔
    portId ∈ node.definition.outputs.map OutputPortSpec.id

theorem compileNode_recorded {nodeId : UUID} {definition : NodeExecutionContract ρ}
    {parameters : Dict String ParameterValue} {connections : List ConnectionModel}
    {resolvedTypes : Dict (UUID × String × Bool) (Option PortType)} {clockId : Option UUID}
    {isDemanded : Bool} {node : CompiledNode ρ}
    (compiled : compileNode nodeId definition parameters connections resolvedTypes clockId
      isDemanded = .ok node) :
    node.nodeId = nodeId ∧ node.definition = definition ∧ node.parameters = parameters ∧
      node.clockId = clockId ∧ node.isDemanded = isDemanded ∧
        RecordedNode connections resolvedTypes node := by
  rcases bind_eq_ok.mp compiled with ⟨bindings, bound, compiled⟩
  rcases bind_eq_ok.mp compiled with ⟨inputTypes, typedInputs, compiled⟩
  rcases bind_eq_ok.mp compiled with ⟨outputTypes, typedOutputs, compiled⟩
  cases compiled
  rcases inputBindingsOf_ok bound with ⟨sound, bindingKeys⟩
  rcases portTypesOf_ok typedInputs with ⟨soundInputs, inputKeys⟩
  rcases portTypesOf_ok typedOutputs with ⟨soundOutputs, outputKeys⟩
  have nothing : ∀ {Value : Type} (portId : String) (value : Value),
      (Dict.empty : Dict String Value).get? portId ≠ some value :=
    fun _ _ impossible => by cases impossible
  refine ⟨rfl, rfl, rfl, rfl, rfl, decide_eq_true_iff, ?_, ?_, ?_, ?_, ?_, ?_⟩
  · exact fun portId binding found =>
      (sound portId binding found).resolve_left (nothing portId binding)
  · intro portId
    rw [bindingKeys, or_iff_right]
    exact List.not_mem_nil
  · exact fun portId portType found =>
      (soundInputs portId portType found).resolve_left (nothing portId portType)
  · intro portId
    rw [inputKeys, or_iff_right]
    exact List.not_mem_nil
  · exact fun portId portType found =>
      (soundOutputs portId portType found).resolve_left (nothing portId portType)
  · intro portId
    rw [outputKeys, or_iff_right]
    exact List.not_mem_nil

/-- How a compiled node comes from the analysis, with all that is recorded. -/
structure RecordedFrom (analysis : Analysis ρ) (node : CompiledNode ρ) : Prop where
  definition : analysis.definitions.get? node.nodeId = some node.definition
  parameters : analysis.parameters.get? node.nodeId = some node.parameters
  clock : analysis.clocks.get? node.nodeId = some node.clockId
  demanded : node.isDemanded = decide (node.nodeId ∈ analysis.demanded)
  recorded : RecordedNode analysis.connections analysis.resolvedTypes node

theorem compileNodes_recorded {analysis : Analysis ρ} {order : List UUID}
    {nodes : List (CompiledNode ρ)} (compiled : compileNodes analysis order = .ok nodes) :
    nodes.map CompiledNode.nodeId = order ∧ ∀ node ∈ nodes, RecordedFrom analysis node := by
  induction order generalizing nodes with
  | nil =>
      cases compiled
      exact ⟨rfl, fun node member => absurd member List.not_mem_nil⟩
  | cons nodeId rest ih =>
      rcases bind_eq_ok.mp compiled with ⟨definition, defined, compiled⟩
      rcases bind_eq_ok.mp compiled with ⟨parameters, known, compiled⟩
      rcases bind_eq_ok.mp compiled with ⟨clock, clocked, compiled⟩
      rcases bind_eq_ok.mp compiled with ⟨node, built, compiled⟩
      rcases bind_eq_ok.mp compiled with ⟨others, restBuilt, compiled⟩
      cases compiled
      rcases ih restBuilt with ⟨identifiers, sound⟩
      rcases compileNode_recorded built with ⟨rfl, rfl, rfl, rfl, isDemanded, recorded⟩
      refine ⟨by rw [List.map_cons, identifiers], ?_⟩
      intro other member
      rcases List.mem_cons.mp member with rfl | inRest
      · exact ⟨require_ok defined, require_ok known, require_ok clocked, isDemanded, recorded⟩
      · exact sound other inRest

end Graph
end Synesthesia
