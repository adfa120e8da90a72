import Synesthesia.Persistence.NodeEscapes

namespace Synesthesia
namespace Persistence

open Foundation Contracts

/-!
# The errors of the loader

The loader returns a sound snapshot or raises its own error, unless the data
reach one of the hazards of the migrations and of the node decoder.
-/

/-! ## The remaining checks -/

section Hazards

variable (interpreter : Interpreter) (registry : NodeRegistry)

end Hazards

section Escapes

variable {interpreter : Interpreter} {registry : NodeRegistry}

end Escapes

/-! ## What is returned is sound -/

theorem literalValue_isFinite {value : JsonValue} {path : String} {literal : LiteralValue}
    (decoded : literalValue value path = .ok literal) : literal.IsFinite := by
  rw [literalValue.eq_def] at decoded
  split at decoded
  · cases decoded
    trivial
  · cases decoded
    trivial
  · cases decoded
    trivial
  · cases decoded
    trivial
  · cases decoded
    rfl
  · cases decoded
  · rename_i rows
    cases parsed : numericMatrix rows path with
    | error error =>
        rw [parsed] at decoded
        cases decoded
    | ok matrix =>
        rw [parsed] at decoded
        cases decoded
        trivial
  · rename_i fields
    split_ifs at decoded
    split at decoded
    · cases parsed : colorValue fields path with
      | error error =>
          rw [parsed] at decoded
          cases decoded
      | ok color =>
          rw [parsed] at decoded
          cases decoded
          trivial
    · cases decoded

theorem fromLiteral_eq_ok {Value : Type} {result : Except LiteralDecodeError Value}
    {value : Value} :
    fromLiteral result = .ok value ↔ result = .ok value := by
  cases result with
  | ok other =>
      constructor
      · intro same
        cases same
        rfl
      · intro same
        cases same
        rfl
  | error error =>
      constructor
      · intro impossible
        cases impossible
      · intro impossible
        cases impossible

theorem expectLiteralMapping_finite {value : JsonValue} {path : String}
    {values : Dict String LiteralValue} (decoded : expectLiteralMapping value path = .ok values) :
    FiniteLiterals values := by
  rw [expectLiteralMapping, fromLiteral_eq_ok, literalMapping.eq_def] at decoded
  split at decoded
  · rcases map_eq_ok.mp decoded with ⟨entries, parsed, same⟩
    rw [← same]
    intro entry member
    rcases exists_of_decodeFrom parsed (Dict.mem_of_mem_ofEntries member) with
      ⟨field, _, index, single⟩
    rcases map_eq_ok.mp single with ⟨literal, found, paired⟩
    rw [← paired]
    exact literalValue_isFinite found
  · cases decoded

section Sound

variable {interpreter : Interpreter} {registry : NodeRegistry} {data : JsonObject}

theorem nodeFields_loadable {typeId path : String} {definition : RegisteredNode}
    {node : NodeModel} (registered : registry typeId = some definition)
    (decoded : nodeFields typeId definition data path = .ok node) : node.Loadable registry := by
  rw [nodeFields] at decoded
  rcases bind_eq_ok.mp decoded with ⟨position, _, decoded⟩
  rcases bind_eq_ok.mp decoded with ⟨size, _, decoded⟩
  rcases bind_eq_ok.mp decoded with ⟨userLabel, _, decoded⟩
  rcases bind_eq_ok.mp decoded with ⟨id, _, decoded⟩
  rcases bind_eq_ok.mp decoded with ⟨parameters, finiteParameters, decoded⟩
  rcases bind_eq_ok.mp decoded with ⟨collapsed, _, decoded⟩
  rcases bind_eq_ok.mp decoded with ⟨uiState, finiteUiState, decoded⟩
  cases decoded
  exact {
    registered := ⟨definition, registered, rfl⟩
    position := ⟨rfl, rfl⟩
    size := by
      intro pair found
      rcases Option.map_eq_some_iff.mp found with ⟨values, _, same⟩
      rw [← same]
      exact ⟨rfl, rfl⟩
    parameters := expectLiteralMapping_finite finiteParameters
    uiState := expectLiteralMapping_finite finiteUiState }

theorem nodeFromData_loadable {item : JsonValue} {index : Nat} {node : NodeModel}
    (decoded : nodeFromData interpreter registry item index = .ok node) :
    node.Loadable registry := by
  rw [nodeFromData] at decoded
  rcases bind_eq_ok.mp decoded with ⟨data, _, decoded⟩
  rcases bind_eq_ok.mp decoded with ⟨typeId, _, decoded⟩
  cases registered : registry typeId with
  | none =>
      rw [registered] at decoded
      cases decoded
  | some definition =>
      rw [registered] at decoded
      rcases bind_eq_ok.mp decoded with ⟨version, _, decoded⟩
      rcases bind_eq_ok.mp decoded with ⟨current, _, decoded⟩
      rw [nodeFromCurrent] at decoded
      rcases bind_eq_ok.mp decoded with ⟨_, _, decoded⟩
      rcases bind_eq_ok.mp decoded with ⟨found, _, decoded⟩
      split_ifs at decoded with different
      · rw [unsupportedVersion] at decoded
        split at decoded <;> cases decoded
      · exact nodeFields_loadable registered decoded

theorem connectionFromData_finite {item : JsonValue} {index : Nat} {connection : ConnectionModel}
    (decoded : connectionFromData item index = .ok connection) :
    FiniteLiterals connection.uiState := by
  rw [connectionFromData] at decoded
  rcases bind_eq_ok.mp decoded with ⟨data, _, decoded⟩
  rcases bind_eq_ok.mp decoded with ⟨_, _, decoded⟩
  rcases bind_eq_ok.mp decoded with ⟨id, _, decoded⟩
  rcases bind_eq_ok.mp decoded with ⟨sourceNodeId, _, decoded⟩
  rcases bind_eq_ok.mp decoded with ⟨sourcePortId, _, decoded⟩
  rcases bind_eq_ok.mp decoded with ⟨destinationNodeId, _, decoded⟩
  rcases bind_eq_ok.mp decoded with ⟨destinationPortId, _, decoded⟩
  rcases bind_eq_ok.mp decoded with ⟨uiState, finite, decoded⟩
  cases decoded
  exact expectLiteralMapping_finite finite

theorem ensureUniqueIds_eq_ok {ids : List Identifier} {kind path : String}
    (accepted : ensureUniqueIds ids kind path = .ok ()) : ids.Nodup := by
  rw [ensureUniqueIds] at accepted
  split_ifs at accepted with distinct
  · exact distinct
  · cases accepted

theorem attached_of_ensureConnectionEndpoints {nodeIds : List Identifier} {index : Nat}
    {connections : List ConnectionModel}
    (accepted : ensureConnectionEndpoints nodeIds index connections = .ok ()) :
    ∀ connection ∈ connections,
      connection.sourceNodeId ∈ nodeIds ∧ connection.destinationNodeId ∈ nodeIds := by
  induction connections generalizing index with
  | nil => exact List.forall_mem_nil _
  | cons connection rest ih =>
      rw [ensureConnectionEndpoints] at accepted
      split_ifs at accepted with missing
      · cases accepted
      · rw [Decidable.not_not, missingEnds, List.filter_eq_nil_iff] at missing
        intro other member
        rcases List.mem_cons.mp member with same | later
        · rw [same]
          constructor
          · simpa using missing connection.sourceNodeId (by simp)
          · simpa using missing connection.destinationNodeId (by simp)
        · exact ih accepted other later

/-- A list within the limit of its field. -/
theorem length_le_of_validateLimit {key written : String} {limit : Nat}
    {items : List JsonValue} (accepted : validateLimit data key limit written = .ok ())
    (listed : field data key = .list items) : items.length ≤ limit := by
  have found : Dict.lookup key data = some (.list items) := by
    rw [field] at listed
    cases there : Dict.lookup key data with
    | none =>
        rw [there] at listed
        cases listed
    | some value =>
        rw [there, Option.getD_some] at listed
        rw [listed]
  rw [validateLimit, found] at accepted
  dsimp only at accepted
  split_ifs at accepted with beyond
  · cases accepted
  · exact Nat.not_lt.mp beyond

variable {migrated : JsonObject}

theorem headerFromData_sound {header : GraphHeader}
    (decoded : headerFromData migrated = .ok header) :
    (header.groups.map GroupModel.id).Nodup ∧ FiniteLiterals header.settings ∧
      ∃ items, field migrated "groups" = .list items ∧ header.groups.length = items.length := by
  rw [headerFromData] at decoded
  rcases bind_eq_ok.mp decoded with ⟨_, _, decoded⟩
  rcases bind_eq_ok.mp decoded with ⟨version, _, decoded⟩
  rcases bind_eq_ok.mp decoded with ⟨application, _, decoded⟩
  rcases bind_eq_ok.mp decoded with ⟨documentId, _, decoded⟩
  rcases bind_eq_ok.mp decoded with ⟨rawGroups, listed, decoded⟩
  rcases bind_eq_ok.mp decoded with ⟨groups, parsed, decoded⟩
  rcases bind_eq_ok.mp decoded with ⟨_, unique, decoded⟩
  rcases bind_eq_ok.mp decoded with ⟨_, _, decoded⟩
  rcases bind_eq_ok.mp decoded with ⟨settings, finite, decoded⟩
  cases decoded
  exact ⟨ensureUniqueIds_eq_ok unique, expectLiteralMapping_finite finite, rawGroups,
    expectList_eq_ok.mp listed, length_of_decodeFrom parsed⟩

theorem nodesFromData_sound {nodes : List NodeModel}
    (decoded : nodesFromData interpreter registry migrated = .ok nodes) :
    (nodes.map NodeModel.id).Nodup ∧ (∀ node ∈ nodes, node.Loadable registry) ∧
      ∃ items, field migrated "nodes" = .list items ∧ nodes.length = items.length := by
  rw [nodesFromData] at decoded
  rcases bind_eq_ok.mp decoded with ⟨rawNodes, listed, decoded⟩
  rcases bind_eq_ok.mp decoded with ⟨parsed, accepted, decoded⟩
  rcases bind_eq_ok.mp decoded with ⟨_, unique, decoded⟩
  cases decoded
  refine ⟨ensureUniqueIds_eq_ok unique, ?_, rawNodes, expectList_eq_ok.mp listed,
    length_of_decodeFrom accepted⟩
  intro node member
  rcases exists_of_decodeFrom accepted member with ⟨item, _, index, single⟩
  exact nodeFromData_loadable single

theorem connectionsFromData_sound {nodes : List NodeModel}
    {connections : List ConnectionModel}
    (decoded : connectionsFromData migrated nodes = .ok connections) :
    (connections.map ConnectionModel.id).Nodup ∧
      (∀ connection ∈ connections, FiniteLiterals connection.uiState) ∧
      (∀ connection ∈ connections, connection.sourceNodeId ∈ nodes.map NodeModel.id ∧
        connection.destinationNodeId ∈ nodes.map NodeModel.id) ∧
      ∃ items, field migrated "connections" = .list items ∧
        connections.length = items.length := by
  rw [connectionsFromData] at decoded
  rcases bind_eq_ok.mp decoded with ⟨rawConnections, listed, decoded⟩
  rcases bind_eq_ok.mp decoded with ⟨parsed, accepted, decoded⟩
  rcases bind_eq_ok.mp decoded with ⟨_, unique, decoded⟩
  rcases bind_eq_ok.mp decoded with ⟨_, attached, decoded⟩
  cases decoded
  refine ⟨ensureUniqueIds_eq_ok unique, ?_, attached_of_ensureConnectionEndpoints attached,
    rawConnections, expectList_eq_ok.mp listed, length_of_decodeFrom accepted⟩
  intro connection member
  rcases exists_of_decodeFrom accepted member with ⟨item, _, index, single⟩
  exact connectionFromData_finite single

variable {snapshot : GraphSnapshot}

/-- A returned snapshot has distinct identifiers, no dangling connection,
registered types at their current versions, finite numbers and no more items
than the limits. -/
theorem graphFromMigrated_loadable
    (decoded : graphFromMigrated interpreter registry migrated = .ok snapshot) :
    snapshot.Loadable registry := by
  rw [graphFromMigrated] at decoded
  rcases bind_eq_ok.mp decoded with ⟨_, within, decoded⟩
  rcases bind_eq_ok.mp decoded with ⟨header, headed, decoded⟩
  rcases bind_eq_ok.mp decoded with ⟨nodes, parsedNodes, decoded⟩
  rcases bind_eq_ok.mp decoded with ⟨connections, parsedConnections, decoded⟩
  cases decoded
  rw [validateCollectionLimits] at within
  rcases bind_eq_ok.mp within with ⟨_, nodeLimit, within⟩
  rcases bind_eq_ok.mp within with ⟨_, connectionLimit, groupLimit⟩
  rcases headerFromData_sound headed with ⟨groupsUnique, settings, rawGroups, atGroups, groupCount⟩
  rcases nodesFromData_sound parsedNodes with
    ⟨nodesUnique, loadable, rawNodes, atNodes, nodeCount⟩
  rcases connectionsFromData_sound parsedConnections with
    ⟨connectionsUnique, finite, attached, rawConnections, atConnections, connectionCount⟩
  have reordered : ∀ id, id ∈ nodes.map NodeModel.id →
      id ∈ (sortByKey NodeModel.id nodes).map NodeModel.id :=
    fun id => ((sortByKey_perm NodeModel.id nodes).map NodeModel.id).mem_iff.mpr
  exact {
    nodesUnique := ((sortByKey_perm _ _).map _).nodup_iff.mpr nodesUnique
    connectionsUnique := ((sortByKey_perm _ _).map _).nodup_iff.mpr connectionsUnique
    groupsUnique := ((sortByKey_perm _ _).map _).nodup_iff.mpr groupsUnique
    attached := by
      intro connection member
      have ends := attached connection ((mem_sortByKey _).mp member)
      exact ⟨reordered _ ends.1, reordered _ ends.2⟩
    nodes := fun node member => loadable node ((mem_sortByKey _).mp member)
    connections := fun connection member => finite connection ((mem_sortByKey _).mp member)
    settings := settings
    nodeCount := by
      rw [(sortByKey_perm _ _).length_eq, nodeCount]
      exact length_le_of_validateLimit nodeLimit atNodes
    connectionCount := by
      rw [(sortByKey_perm _ _).length_eq, connectionCount]
      exact length_le_of_validateLimit connectionLimit atConnections
    groupCount := by
      rw [(sortByKey_perm _ _).length_eq, groupCount]
      exact length_le_of_validateLimit groupLimit atGroups }

theorem graphFromData_loadable (decoded : graphFromData interpreter registry data = .ok snapshot) :
    snapshot.Loadable registry := by
  rw [graphFromData] at decoded
  rcases bind_eq_ok.mp decoded with ⟨_, _, decoded⟩
  rcases bind_eq_ok.mp decoded with ⟨migrated, _, decoded⟩
  exact graphFromMigrated_loadable decoded

theorem graphFromJsonUnchecked_loadable {library : JsonLibrary} {text : String}
    (decoded : graphFromJsonUnchecked library interpreter registry text = .ok snapshot) :
    snapshot.Loadable registry := by
  rw [graphFromJsonUnchecked] at decoded
  split at decoded
  · cases decoded
  · cases decoded
  · cases decoded
  · rcases bind_eq_ok.mp decoded with ⟨data, _, decoded⟩
    exact graphFromData_loadable decoded

end Sound

/-! ## Error discipline -/

/-- A sound snapshot or the loader's own error. -/
def Disciplined (registry : NodeRegistry) (result : Except LoadError GraphSnapshot) : Prop :=
  (∃ snapshot, result = .ok snapshot ∧ snapshot.Loadable registry) ∨
    ∃ error, result = .error (.persistence error)

end Persistence
end Synesthesia
