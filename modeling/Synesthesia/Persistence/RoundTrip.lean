import Synesthesia.Persistence.GraphIo

namespace Synesthesia
namespace Persistence

open Foundation Contracts

/-!
# What is written is read back

Encoded with sorted keys and decoded again, a snapshot comes back with its
nodes, connections and groups in the order of their identifiers and every
mapping in the order of its keys.
-/

/-! ## Fields of written objects -/

/-- The fields of an object as the encoder writes them. -/
def written (fields : JsonObject) : JsonObject :=
  sortByKey Prod.fst (fields.map (fun field => (field.1, field.2.sorted)))

theorem sorted_object_written (fields : JsonObject) :
    (JsonValue.object fields).sorted = .object (written fields) :=
  JsonValue.sorted_object fields

theorem lookup_written (fields : JsonObject) (key : String) :
    Dict.lookup key (written fields) = (Dict.lookup key fields).map JsonValue.sorted :=
  JsonValue.lookup_sorted key fields

theorem field_written (fields : JsonObject) (key : String) :
    field (written fields) key = (field fields key).sorted := by
  rw [field, field, lookup_written]
  cases Dict.lookup key fields with
  | none => rfl
  | some value => rfl

/-- An object with the expected keys passes the check. -/
theorem requireExactKeys_of_sameKeys {fields : JsonObject} {expected : List String}
    (same : sameKeys expected fields = true) (path : String) :
    requireExactKeys fields expected path = .ok () := by
  rw [sameKeys, Bool.and_eq_true, List.all_eq_true, List.all_eq_true] at same
  have noneMissing : missingKeys fields expected = [] := by
    have empty : expected.filter (fun key => (Dict.lookup key fields).isNone) = [] := by
      apply List.filter_eq_nil_iff.mpr
      intro key member absent
      have present := same.2 key member
      rw [Option.isNone_iff_eq_none.mp absent] at present
      cases present
    rw [missingKeys, empty]
    rfl
  have noneUnknown : unknownKeys fields expected = [] := by
    have empty : (fields.map Prod.fst).filter (fun key => key ∉ expected) = [] := by
      apply List.filter_eq_nil_iff.mpr
      intro key member unknown
      rcases List.mem_map.mp member with ⟨entry, listed, named⟩
      have known := of_decide_eq_true (same.1 entry listed)
      rw [named] at known
      exact of_decide_eq_true unknown known
    rw [unknownKeys, empty]
    rfl
  rw [requireExactKeys, noneMissing, noneUnknown, if_neg (fun impossible => impossible rfl),
    if_neg (fun impossible => impossible rfl)]

theorem requireExactKeys_written {fields : JsonObject} {expected : List String}
    (same : sameKeys expected fields = true) (path : String) :
    requireExactKeys (written fields) expected path = .ok () := by
  apply requireExactKeys_of_sameKeys
  rw [written, JsonValue.sameKeys_sorted]
  exact same

/-! ## Values -/

theorem expectUuid_of_parse {text : String} {id : Identifier} (parsed : parseUuid text = some id)
    (path : String) : expectUuid (.str text) path = .ok id := by
  rw [expectUuid, expectStr]
  simp only [bind, Except.bind, parsed]

theorem expectUuid_uuidToData (id : Identifier) (path : String) :
    expectUuid (uuidToData id).sorted path = .ok id := by
  rw [uuidToData, JsonValue.sorted]
  exact expectUuid_of_parse (parseUuid_uuidText id) path

theorem expectPair_pairToData (pair : ℚ × ℚ) (path : String) :
    expectPair (pairToData (finitePair pair)).sorted path = .ok pair := by
  rw [pairToData, JsonValue.sorted_list]
  rfl

theorem expectLiteralMapping_written {values : Dict String LiteralValue}
    (finite : ∀ entry ∈ values.entries, entry.2.IsFinite) (path : String) :
    expectLiteralMapping (JsonValue.object (literalMappingToData values)).sorted path =
      .ok (sortDict values) := by
  rw [expectLiteralMapping, literalMapping_literalMappingToData finite]
  rfl

theorem literalMappingToData_sortDict (values : Dict String LiteralValue) :
    literalMappingToData (sortDict values) = literalMappingToData values := by
  rw [literalMappingToData, literalMappingToData, sortDict, sortByKey_sortByKey]

/-! ## Nodes -/

/-- All literals of a mapping are finite. -/
def FiniteLiterals (values : Dict String LiteralValue) : Prop :=
  ∀ entry ∈ values.entries, entry.2.IsFinite

def IsFinitePair (pair : PyFloat × PyFloat) : Prop :=
  pair.1.isFinite = true ∧ pair.2.isFinite = true

theorem exists_finitePair {pair : PyFloat × PyFloat} (finite : IsFinitePair pair) :
    ∃ values, pair = finitePair values := by
  rcases pair with ⟨first, second⟩
  cases first with
  | finite left =>
      cases second with
      | finite right => exact ⟨(left, right), rfl⟩
      | infinite negative => cases finite.2
      | nan => cases finite.2
  | infinite negative => cases finite.1
  | nan => cases finite.1

/-- A node that the loader accepts: of a registered type at its current
version, without an infinite number or a NaN. -/
structure NodeModel.Loadable (registry : NodeRegistry) (node : NodeModel) : Prop where
  registered : ∃ definition, registry node.typeId = some definition ∧
    definition.implementationVersion = node.implementationVersion
  position : IsFinitePair node.position
  size : ∀ size, node.size = some size → IsFinitePair size
  parameters : FiniteLiterals node.parameters
  uiState : FiniteLiterals node.uiState

/-- The node with its mappings in the order of their keys. -/
def NodeModel.canonical (node : NodeModel) : NodeModel :=
  { node with
    parameters := sortDict node.parameters
    uiState := sortDict node.uiState }

theorem nodeToData_canonical (node : NodeModel) : nodeToData node.canonical = nodeToData node := by
  simp only [nodeToData, nodeRecord, NodeModel.canonical, literalMappingToData_sortDict]

theorem optionalSize_written {size : Option (PyFloat × PyFloat)}
    (finite : ∀ pair, size = some pair → IsFinitePair pair) (path : String) :
    ∃ values, size = values.map finitePair ∧
      optionalSize ((size.map pairToData).getD .null).sorted path = .ok values := by
  cases size with
  | none => exact ⟨none, rfl, rfl⟩
  | some pair =>
      rcases exists_finitePair (finite pair rfl) with ⟨values, same⟩
      refine ⟨some values, congrArg some same, ?_⟩
      have decoded := expectPair_pairToData values path
      rw [Option.map_some, Option.getD_some, same]
      rw [pairToData, JsonValue.sorted_list] at decoded ⊢
      rw [optionalSize, decoded]
      · rfl
      · exact fun impossible => by cases impossible

theorem optionalLabel_written (label : Option String) (path : String) :
    optionalLabel ((label.map JsonValue.str).getD .null).sorted path = .ok label := by
  cases label with
  | none => rfl
  | some text => rfl

theorem expectInt_natCast {value minimum : Nat} (reached : minimum ≤ value) (path : String) :
    expectInt (.int value) path minimum = .ok value := by
  rw [expectInt, if_neg (by omega)]
  rfl

theorem nodeToData_sorted (node : NodeModel) :
    (nodeToData node).sorted = .object (written (nodeRecord node)) :=
  sorted_object_written (nodeRecord node)

/-- The fields that the decoder of a current node reads. -/
theorem nodeFields_written {registry : NodeRegistry} {node : NodeModel}
    (loadable : node.Loadable registry) {definition : RegisteredNode}
    (current : definition.implementationVersion = node.implementationVersion) (path : String) :
    nodeFields node.typeId definition (written (nodeRecord node)) path = .ok node.canonical := by
  rcases exists_finitePair loadable.position with ⟨position, placed⟩
  rcases optionalSize_written loadable.size (path ++ ".size") with ⟨size, sized, decoded⟩
  have atPosition : expectPair (field (written (nodeRecord node)) "position")
      (path ++ ".position") = .ok position := by
    rw [field_written, show field (nodeRecord node) "position" = pairToData node.position from rfl,
      placed]
    exact expectPair_pairToData position _
  have atSize : optionalSize (field (written (nodeRecord node)) "size") (path ++ ".size") =
      .ok size := by
    rw [field_written]
    exact decoded
  have atLabel : optionalLabel (field (written (nodeRecord node)) "user_label")
      (path ++ ".user_label") = .ok node.userLabel := by
    rw [field_written]
    exact optionalLabel_written node.userLabel _
  have atId : expectUuid (field (written (nodeRecord node)) "id") (path ++ ".id") =
      .ok node.id := by
    rw [field_written]
    exact expectUuid_uuidToData node.id _
  have atParameters : expectLiteralMapping (field (written (nodeRecord node)) "parameters")
      (path ++ ".parameters") = .ok (sortDict node.parameters) := by
    rw [field_written]
    exact expectLiteralMapping_written loadable.parameters _
  have atCollapsed : expectBool (field (written (nodeRecord node)) "collapsed")
      (path ++ ".collapsed") = .ok node.collapsed := by
    rw [field_written]
    rfl
  have atUiState : expectLiteralMapping (field (written (nodeRecord node)) "ui_state")
      (path ++ ".ui_state") = .ok (sortDict node.uiState) := by
    rw [field_written]
    exact expectLiteralMapping_written loadable.uiState _
  rw [nodeFields, atPosition, atSize, atLabel, atId, atParameters, atCollapsed, atUiState]
  rcases node with ⟨id, typeId, version, parameters, place, extent, label, collapsed, uiState, _⟩
  dsimp only at current placed sized
  subst current placed sized
  rfl

theorem nodeFromData_nodeToData {registry : NodeRegistry} {node : NodeModel}
    (loadable : node.Loadable registry) (interpreter : Interpreter) (index : Nat) :
    nodeFromData interpreter registry (nodeToData node).sorted index = .ok node.canonical := by
  rcases loadable.registered with ⟨definition, registered, current⟩
  have atType : expectStr (field (written (nodeRecord node)) "type_id")
      (entryPath "$.nodes" index ++ ".type_id") = .ok node.typeId := by
    rw [field_written]
    rfl
  have atVersion : ∀ minimum ≤ 1,
      expectInt (field (written (nodeRecord node)) "implementation_version")
        (entryPath "$.nodes" index ++ ".implementation_version") minimum =
          .ok node.implementationVersion := by
    intro minimum small
    rw [field_written]
    exact expectInt_natCast (small.trans node.versioned) _
  have keys : requireExactKeys (written (nodeRecord node)) nodeKeys (entryPath "$.nodes" index) =
      .ok () := requireExactKeys_written rfl _
  have unmigrated : currentNodeData interpreter node.typeId definition (entryPath "$.nodes" index)
      node.implementationVersion (written (nodeRecord node)) =
        .ok (written (nodeRecord node)) := if_neg (by omega)
  have decoded : nodeFromCurrent interpreter node.typeId definition (entryPath "$.nodes" index)
      (written (nodeRecord node)) = .ok node.canonical := by
    rw [nodeFromCurrent, keys, atVersion 1 (Nat.le_refl 1)]
    exact (if_neg (fun different => different current.symm)).trans
      (nodeFields_written loadable current _)
  rw [nodeToData_sorted, nodeFromData, expectObject]
  simp only [bind, Except.bind, atType, registered, atVersion 0 (Nat.zero_le 1), unmigrated,
    decoded]

/-! ## Connections and groups -/

def ConnectionModel.canonical (connection : ConnectionModel) : ConnectionModel :=
  { connection with uiState := sortDict connection.uiState }

theorem connectionToData_canonical (connection : ConnectionModel) :
    connectionToData connection.canonical = connectionToData connection := by
  simp only [connectionToData, connectionRecord, ConnectionModel.canonical,
    literalMappingToData_sortDict]

theorem connectionFromData_connectionToData {connection : ConnectionModel}
    (finite : FiniteLiterals connection.uiState) (index : Nat) :
    connectionFromData (connectionToData connection).sorted index =
      .ok connection.canonical := by
  have keys : ∀ path, requireExactKeys (written (connectionRecord connection)) connectionKeys
      path = .ok () := requireExactKeys_written rfl
  have uuid : ∀ key id, field (connectionRecord connection) key = uuidToData id →
      ∀ path, expectUuid (field (written (connectionRecord connection)) key) path = .ok id := by
    intro key id found path
    rw [field_written, found]
    exact expectUuid_uuidToData id path
  have text : ∀ key text, field (connectionRecord connection) key = .str text →
      ∀ path, expectStr (field (written (connectionRecord connection)) key) path = .ok text := by
    intro key text found path
    rw [field_written, found]
    rfl
  have uiState : ∀ path, expectLiteralMapping
      (field (written (connectionRecord connection)) "ui_state") path =
        .ok (sortDict connection.uiState) := by
    intro path
    rw [field_written]
    exact expectLiteralMapping_written finite path
  rw [connectionToData, sorted_object_written, connectionFromData, expectObject]
  simp only [bind, Except.bind, keys, uuid "id" connection.id rfl,
    uuid "source_node_id" connection.sourceNodeId rfl,
    text "source_port_id" connection.sourcePortId rfl,
    uuid "destination_node_id" connection.destinationNodeId rfl,
    text "destination_port_id" connection.destinationPortId rfl, uiState]
  rfl

theorem groupKind_text (kind : GroupKind) (path : String) :
    groupKind kind.text path = .ok kind := by
  cases kind with
  | group => rfl
  | comment => rfl

theorem groupFromData_groupToData (group : GroupModel) (index : Nat) :
    groupFromData (groupToData group).sorted index = .ok group := by
  have keys : ∀ path, requireExactKeys (written (groupRecord group)) groupKeys path = .ok () :=
    requireExactKeys_written rfl
  have text : ∀ key text, field (groupRecord group) key = .str text →
      ∀ path, expectStr (field (written (groupRecord group)) key) path = .ok text := by
    intro key text found path
    rw [field_written, found]
    rfl
  have pair : ∀ key pair, field (groupRecord group) key = pairToData (finitePair pair) →
      ∀ path, expectPair (field (written (groupRecord group)) key) path = .ok pair := by
    intro key pair found path
    rw [field_written, found]
    exact expectPair_pairToData pair path
  have id : ∀ path, expectUuid (field (written (groupRecord group)) "id") path = .ok group.id := by
    intro path
    rw [field_written]
    exact expectUuid_uuidToData group.id path
  rw [groupToData, sorted_object_written, groupFromData, expectObject]
  simp only [bind, Except.bind, keys, text "kind" group.kind.text rfl, groupKind_text, groupFields,
    id, text "title" group.title rfl, text "text" group.text rfl,
    pair "position" group.position rfl, pair "size" group.size rfl, text "color" group.color rfl,
    makeGroup_fields]
  rfl

/-! ## Nesting of written graphs -/

theorem nesting_literalToData (literal : LiteralValue) : (literalToData literal).nesting ≤ 2 := by
  cases literal with
  | absent => exact Nat.zero_le 2
  | bool value => exact Nat.zero_le 2
  | int value => exact Nat.zero_le 2
  | float value => exact Nat.zero_le 2
  | str text => exact Nat.zero_le 2
  | color value => exact Nat.le_succ 1
  | matrix value =>
      rw [literalToData, JsonValue.nesting]
      apply Nat.succ_le_succ
      apply JsonValue.nestingItems_le_iff.mpr
      intro item member
      rcases List.mem_map.mp member with ⟨row, _, same⟩
      rw [← same, JsonValue.nesting]
      apply Nat.succ_le_succ
      apply JsonValue.nestingItems_le_iff.mpr
      intro entry listed
      rcases List.mem_map.mp listed with ⟨number, _, scalar⟩
      rw [← scalar]
      exact Nat.le_refl 0

theorem nesting_literalMappingToData (values : Dict String LiteralValue) :
    (JsonValue.object (literalMappingToData values)).nesting ≤ 3 := by
  rw [JsonValue.nesting]
  apply Nat.succ_le_succ
  apply JsonValue.nestingFields_le_iff.mpr
  intro entry member
  rcases List.mem_map.mp member with ⟨source, _, same⟩
  rw [← same]
  exact nesting_literalToData source.2

/-- An object is one deeper than its deepest field. -/
theorem nesting_object_le {fields : JsonObject} {limit : Nat}
    (bounded : ∀ entry ∈ fields, entry.2.nesting ≤ limit) :
    (JsonValue.object fields).nesting ≤ limit + 1 := by
  rw [JsonValue.nesting]
  exact Nat.succ_le_succ (JsonValue.nestingFields_le_iff.mpr bounded)

theorem nesting_nodeToData (node : NodeModel) : (nodeToData node).nesting ≤ 4 := by
  have parameters := nesting_literalMappingToData node.parameters
  have uiState := nesting_literalMappingToData node.uiState
  have size : ((node.size.map pairToData).getD .null).nesting ≤ 3 := by
    cases node.size with
    | none => exact Nat.zero_le 3
    | some pair => exact Nat.le_of_lt_succ (by decide : 1 < 4)
  have label : ((node.userLabel.map JsonValue.str).getD .null).nesting ≤ 3 := by
    cases node.userLabel with
    | none => exact Nat.zero_le 3
    | some text => exact Nat.zero_le 3
  apply nesting_object_le
  simp only [nodeRecord, List.forall_mem_cons]
  exact ⟨Nat.zero_le 3, Nat.zero_le 3, Nat.zero_le 3, (by decide : 1 ≤ 3), size, parameters,
    uiState, label, Nat.zero_le 3, List.forall_mem_nil _⟩

theorem nesting_connectionToData (connection : ConnectionModel) :
    (connectionToData connection).nesting ≤ 4 := by
  have uiState := nesting_literalMappingToData connection.uiState
  apply nesting_object_le
  simp only [connectionRecord, List.forall_mem_cons]
  exact ⟨Nat.zero_le 3, Nat.zero_le 3, Nat.zero_le 3, Nat.zero_le 3, Nat.zero_le 3, uiState,
    List.forall_mem_nil _⟩

theorem nesting_groupToData (group : GroupModel) : (groupToData group).nesting ≤ 4 := by
  apply nesting_object_le
  simp only [groupRecord, List.forall_mem_cons]
  exact ⟨Nat.zero_le 3, Nat.zero_le 3, Nat.zero_le 3, Nat.zero_le 3, (by decide : 1 ≤ 3),
    (by decide : 1 ≤ 3), Nat.zero_le 3, List.forall_mem_nil _⟩

/-- A list is one deeper than its deepest item. -/
theorem nesting_list_map_le {Source : Type} {encode : Source → JsonValue} {limit : Nat}
    (bounded : ∀ source, (encode source).nesting ≤ limit) (sources : List Source) :
    (JsonValue.list (sources.map encode)).nesting ≤ limit + 1 := by
  rw [JsonValue.nesting]
  apply Nat.succ_le_succ
  apply JsonValue.nestingItems_le_iff.mpr
  intro item member
  rcases List.mem_map.mp member with ⟨source, _, same⟩
  exact same ▸ bounded source

theorem nestingFields_written_graph (snapshot : GraphSnapshot) :
    JsonValue.nestingFields (written (graphToData snapshot)) ≤ 5 := by
  have settings := nesting_literalMappingToData snapshot.documentSettings
  have nodes := nesting_list_map_le nesting_nodeToData (sortByKey NodeModel.id snapshot.nodes)
  have connections := nesting_list_map_le nesting_connectionToData
    (sortByKey ConnectionModel.id snapshot.connections)
  have groups := nesting_list_map_le nesting_groupToData (sortByKey GroupModel.id snapshot.groups)
  have bounded : ∀ entry ∈ graphToData snapshot, entry.2.nesting ≤ 5 := by
    simp only [graphToData, List.forall_mem_cons]
    exact ⟨Nat.zero_le 5, Nat.zero_le 5, Nat.zero_le 5, nodes, connections, groups,
      settings.trans (by decide), (by decide : 1 ≤ 5), List.forall_mem_nil _⟩
  apply JsonValue.nestingFields_le_iff.mpr
  intro entry member
  rcases List.mem_map.mp ((mem_sortByKey _).mp member) with ⟨source, listed, same⟩
  rw [← same]
  exact (JsonValue.nesting_sorted_le source.2).trans (bounded source listed)

/-! ## Graphs -/

/-- A snapshot that the loader accepts once it is written: distinct
identifiers, no dangling connection, loadable nodes, finite literals and no
more items than the loader allows. -/
structure GraphSnapshot.Loadable (registry : NodeRegistry) (snapshot : GraphSnapshot) : Prop where
  nodesUnique : (snapshot.nodes.map NodeModel.id).Nodup
  connectionsUnique : (snapshot.connections.map ConnectionModel.id).Nodup
  groupsUnique : (snapshot.groups.map GroupModel.id).Nodup
  attached : ∀ connection ∈ snapshot.connections,
    connection.sourceNodeId ∈ snapshot.nodes.map NodeModel.id ∧
      connection.destinationNodeId ∈ snapshot.nodes.map NodeModel.id
  nodes : ∀ node ∈ snapshot.nodes, node.Loadable registry
  connections : ∀ connection ∈ snapshot.connections, FiniteLiterals connection.uiState
  settings : FiniteLiterals snapshot.documentSettings
  nodeCount : snapshot.nodes.length ≤ maxGraphNodes
  connectionCount : snapshot.connections.length ≤ maxGraphConnections
  groupCount : snapshot.groups.length ≤ maxGraphGroups

/-- The snapshot that a written one is loaded as. -/
def GraphSnapshot.canonical (snapshot : GraphSnapshot) : GraphSnapshot where
  documentId := snapshot.documentId
  revision := 0
  nodes := (sortByKey NodeModel.id snapshot.nodes).map NodeModel.canonical
  connections := (sortByKey ConnectionModel.id snapshot.connections).map ConnectionModel.canonical
  documentSettings := sortDict snapshot.documentSettings
  groups := sortByKey GroupModel.id snapshot.groups

theorem sortedNodes_canonical (nodes : List NodeModel) :
    sortByKey NodeModel.id ((sortByKey NodeModel.id nodes).map NodeModel.canonical) =
      (sortByKey NodeModel.id nodes).map NodeModel.canonical :=
  sortByKey_map_sortByKey (fun _ => rfl) nodes

theorem sortedConnections_canonical (connections : List ConnectionModel) :
    sortByKey ConnectionModel.id
        ((sortByKey ConnectionModel.id connections).map ConnectionModel.canonical) =
      (sortByKey ConnectionModel.id connections).map ConnectionModel.canonical :=
  sortByKey_map_sortByKey (fun _ => rfl) connections

section Graphs

variable {registry : NodeRegistry} {snapshot : GraphSnapshot}

/-- The items of a written list field. -/
theorem lookup_written_list {Source : Type} {key : String} {encode : Source → JsonValue}
    {sources : List Source}
    (found : Dict.lookup key (graphToData snapshot) = some (.list (sources.map encode))) :
    Dict.lookup key (written (graphToData snapshot)) =
      some (.list (sources.map (fun source => (encode source).sorted))) := by
  rw [lookup_written, found, Option.map_some, JsonValue.sorted_list, List.map_map]
  rfl

theorem validateLimit_written {Source : Type} {key written' : String} {limit : Nat}
    {encode : Source → JsonValue} {sources : List Source}
    (found : Dict.lookup key (graphToData snapshot) = some (.list (sources.map encode)))
    (within : sources.length ≤ limit) :
    validateLimit (written (graphToData snapshot)) key limit written' = .ok () := by
  rw [validateLimit, lookup_written_list found]
  dsimp only
  rw [List.length_map, if_neg (Nat.not_lt.mpr within)]

theorem GraphSnapshot.Loadable.limits (loadable : snapshot.Loadable registry) :
    validateCollectionLimits (written (graphToData snapshot)) = .ok () := by
  have nodes : (sortByKey NodeModel.id snapshot.nodes).length ≤ maxGraphNodes := by
    rw [(sortByKey_perm _ _).length_eq]
    exact loadable.nodeCount
  have connections :
      (sortByKey ConnectionModel.id snapshot.connections).length ≤ maxGraphConnections := by
    rw [(sortByKey_perm _ _).length_eq]
    exact loadable.connectionCount
  have groups : (sortByKey GroupModel.id snapshot.groups).length ≤ maxGraphGroups := by
    rw [(sortByKey_perm _ _).length_eq]
    exact loadable.groupCount
  rw [validateCollectionLimits, validateLimit_written rfl nodes,
    validateLimit_written rfl connections, validateLimit_written rfl groups]
  rfl

/-- A written graph has the current schema and is not migrated. -/
theorem migrateGraphData_written (interpreter : Interpreter) (snapshot : GraphSnapshot) :
    migrateGraphData interpreter (written (graphToData snapshot)) =
      .ok (written (graphToData snapshot)) := by
  have copied : copyJsonObject interpreter (written (graphToData snapshot)) =
      .ok (written (graphToData snapshot)) :=
    if_pos ((nestingFields_written_graph snapshot).trans interpreter.roomy.1)
  have version : schemaVersion (written (graphToData snapshot)) = .ok 4 := by
    rw [schemaVersion, lookup_written]
    rfl
  rw [migrateGraphData, copied]
  simp only [bind, Except.bind, version]
  rfl

theorem GraphSnapshot.Loadable.header (loadable : snapshot.Loadable registry) :
    headerFromData (written (graphToData snapshot)) =
      .ok ⟨snapshot.documentId, sortByKey GroupModel.id snapshot.groups,
        sortDict snapshot.documentSettings⟩ := by
  have keys : requireExactKeys (written (graphToData snapshot)) graphKeys "$" = .ok () :=
    requireExactKeys_written rfl "$"
  have version : expectInt (field (written (graphToData snapshot)) "schema_version")
      "$.schema_version" 1 = .ok 4 := by
    rw [field_written]
    rfl
  have application : expectStr (field (written (graphToData snapshot)) "application_version")
      "$.application_version" = .ok applicationVersion := by
    rw [field_written]
    rfl
  have documentId : expectUuid (field (written (graphToData snapshot)) "document_id")
      "$.document_id" = .ok snapshot.documentId := by
    rw [field_written]
    exact expectUuid_uuidToData snapshot.documentId _
  have rawGroups : expectList (field (written (graphToData snapshot)) "groups") "$.groups" =
      .ok ((sortByKey GroupModel.id snapshot.groups).map
        (fun group => (groupToData group).sorted)) := by
    rw [field, lookup_written_list rfl]
    rfl
  have groups : decodeFrom groupFromData 0 ((sortByKey GroupModel.id snapshot.groups).map
      (fun group => (groupToData group).sorted)) =
        .ok (sortByKey GroupModel.id snapshot.groups) := by
    rw [decodeFrom_map (fun group _ index => groupFromData_groupToData group index), List.map_id']
  have unique : ensureUniqueIds ((sortByKey GroupModel.id snapshot.groups).map GroupModel.id)
      "group" "$.groups" = .ok () :=
    if_pos (((sortByKey_perm _ _).map _).nodup_iff.mpr loadable.groupsUnique)
  have uiState : validateEmptyObject (field (written (graphToData snapshot)) "ui_state")
      "$.ui_state" = .ok () := by
    rw [field_written]
    rfl
  have settings : expectLiteralMapping
      (field (written (graphToData snapshot)) "document_settings") "$.document_settings" =
        .ok (sortDict snapshot.documentSettings) := by
    rw [field_written]
    exact expectLiteralMapping_written loadable.settings _
  rw [headerFromData]
  simp only [bind, Except.bind, keys, version, application, documentId, rawGroups, groups, unique,
    uiState, settings]
  rfl

theorem GraphSnapshot.Loadable.decodedNodes (loadable : snapshot.Loadable registry)
    (interpreter : Interpreter) :
    nodesFromData interpreter registry (written (graphToData snapshot)) =
      .ok ((sortByKey NodeModel.id snapshot.nodes).map NodeModel.canonical) := by
  have rawNodes : expectList (field (written (graphToData snapshot)) "nodes") "$.nodes" =
      .ok ((sortByKey NodeModel.id snapshot.nodes).map (fun node => (nodeToData node).sorted)) := by
    rw [field, lookup_written_list rfl]
    rfl
  have nodes : decodeFrom (nodeFromData interpreter registry) 0
      ((sortByKey NodeModel.id snapshot.nodes).map (fun node => (nodeToData node).sorted)) =
        .ok ((sortByKey NodeModel.id snapshot.nodes).map NodeModel.canonical) :=
    decodeFrom_map (fun node member index => nodeFromData_nodeToData
      (loadable.nodes node ((mem_sortByKey _).mp member)) interpreter index) 0
  have unique : ensureUniqueIds
      (((sortByKey NodeModel.id snapshot.nodes).map NodeModel.canonical).map NodeModel.id)
      "node" "$.nodes" = .ok () := by
    apply if_pos
    rw [List.map_map]
    exact ((sortByKey_perm _ _).map _).nodup_iff.mpr loadable.nodesUnique
  rw [nodesFromData]
  simp only [bind, Except.bind, rawNodes, nodes, unique]
  rfl

theorem ensureConnectionEndpoints_ok {nodeIds : List Identifier}
    {connections : List ConnectionModel} (attached : ∀ connection ∈ connections,
      connection.sourceNodeId ∈ nodeIds ∧ connection.destinationNodeId ∈ nodeIds)
    (index : Nat) : ensureConnectionEndpoints nodeIds index connections = .ok () := by
  induction connections generalizing index with
  | nil => rfl
  | cons connection rest ih =>
      have ends := attached connection List.mem_cons_self
      have complete : missingEnds nodeIds connection = [] := by
        rw [missingEnds, List.filter_cons_of_neg (by simpa using ends.1),
          List.filter_cons_of_neg (by simpa using ends.2), List.filter_nil]
      rw [ensureConnectionEndpoints, complete, if_neg (fun impossible => impossible rfl)]
      exact ih
        (fun other member => attached other (List.mem_cons_of_mem _ member)) _

theorem GraphSnapshot.Loadable.decodedConnections (loadable : snapshot.Loadable registry) :
    connectionsFromData (written (graphToData snapshot))
        ((sortByKey NodeModel.id snapshot.nodes).map NodeModel.canonical) =
      .ok ((sortByKey ConnectionModel.id snapshot.connections).map ConnectionModel.canonical) := by
  have rawConnections : expectList (field (written (graphToData snapshot)) "connections")
      "$.connections" = .ok ((sortByKey ConnectionModel.id snapshot.connections).map
        (fun connection => (connectionToData connection).sorted)) := by
    rw [field, lookup_written_list rfl]
    rfl
  have connections : decodeFrom connectionFromData 0
      ((sortByKey ConnectionModel.id snapshot.connections).map
        (fun connection => (connectionToData connection).sorted)) =
      .ok ((sortByKey ConnectionModel.id snapshot.connections).map ConnectionModel.canonical) :=
    decodeFrom_map (fun connection member index => connectionFromData_connectionToData
      (loadable.connections connection ((mem_sortByKey _).mp member)) index) 0
  have unique : ensureUniqueIds (((sortByKey ConnectionModel.id snapshot.connections).map
      ConnectionModel.canonical).map ConnectionModel.id) "connection" "$.connections" = .ok () := by
    apply if_pos
    rw [List.map_map]
    exact ((sortByKey_perm _ _).map _).nodup_iff.mpr loadable.connectionsUnique
  have identifiers : ∀ id, id ∈ snapshot.nodes.map NodeModel.id →
      id ∈ ((sortByKey NodeModel.id snapshot.nodes).map NodeModel.canonical).map NodeModel.id := by
    intro id member
    rw [List.map_map]
    exact ((sortByKey_perm _ _).map _).mem_iff.mpr member
  have attached : ensureConnectionEndpoints
      (((sortByKey NodeModel.id snapshot.nodes).map NodeModel.canonical).map NodeModel.id) 0
      ((sortByKey ConnectionModel.id snapshot.connections).map ConnectionModel.canonical) =
        .ok () := by
    apply ensureConnectionEndpoints_ok
    intro connection member
    rcases List.mem_map.mp member with ⟨source, listed, same⟩
    have ends := loadable.attached source ((mem_sortByKey _).mp listed)
    rw [← same]
    exact ⟨identifiers _ ends.1, identifiers _ ends.2⟩
  rw [connectionsFromData]
  simp only [bind, Except.bind, rawConnections, connections, unique, attached]
  rfl

/-- What is written decodes to the snapshot in order. -/
theorem GraphSnapshot.Loadable.decoded (loadable : snapshot.Loadable registry)
    (interpreter : Interpreter) :
    graphFromData interpreter registry (written (graphToData snapshot)) =
      .ok snapshot.canonical := by
  have migrated : graphFromMigrated interpreter registry (written (graphToData snapshot)) =
      .ok snapshot.canonical := by
    rw [graphFromMigrated]
    simp only [bind, Except.bind, loadable.limits, loadable.header,
      loadable.decodedNodes interpreter, loadable.decodedConnections]
    rw [sortedNodes_canonical, sortedConnections_canonical, sortByKey_sortByKey]
    rfl
  rw [graphFromData]
  simp only [bind, Except.bind, loadable.limits, migrateGraphData_written, catchValueError,
    migrated]

/-- The order in which a snapshot holds its parts does not show in what is written. -/
theorem graphToData_canonical (snapshot : GraphSnapshot) :
    graphToData snapshot.canonical = graphToData snapshot := by
  have nodes : ((sortByKey NodeModel.id snapshot.nodes).map NodeModel.canonical).map nodeToData =
      (sortByKey NodeModel.id snapshot.nodes).map nodeToData := by
    rw [List.map_map]
    exact List.map_congr_left (fun node _ => nodeToData_canonical node)
  have connections : ((sortByKey ConnectionModel.id snapshot.connections).map
      ConnectionModel.canonical).map connectionToData =
        (sortByKey ConnectionModel.id snapshot.connections).map connectionToData := by
    rw [List.map_map]
    exact List.map_congr_left (fun connection _ => connectionToData_canonical connection)
  rw [graphToData, graphToData]
  simp only [GraphSnapshot.canonical, sortedNodes_canonical, sortedConnections_canonical,
    sortByKey_sortByKey, nodes, connections, literalMappingToData_sortDict]

/-! ## What a loaded snapshot keeps -/

/-- Equal mappings; a mapping has no order. -/
def SameMapping (left right : Dict String LiteralValue) : Prop :=
  ∀ key, left.get? key = right.get? key

theorem sameMapping_sortDict (values : Dict String LiteralValue) :
    SameMapping (sortDict values) values :=
  get?_sortDict values

/-- Equal nodes: every field, and every literal with its type. -/
structure NodeModel.Same (left right : NodeModel) : Prop where
  id : left.id = right.id
  typeId : left.typeId = right.typeId
  implementationVersion : left.implementationVersion = right.implementationVersion
  parameters : SameMapping left.parameters right.parameters
  position : left.position = right.position
  size : left.size = right.size
  userLabel : left.userLabel = right.userLabel
  collapsed : left.collapsed = right.collapsed
  uiState : SameMapping left.uiState right.uiState

structure ConnectionModel.Same (left right : ConnectionModel) : Prop where
  id : left.id = right.id
  sourceNodeId : left.sourceNodeId = right.sourceNodeId
  sourcePortId : left.sourcePortId = right.sourcePortId
  destinationNodeId : left.destinationNodeId = right.destinationNodeId
  destinationPortId : left.destinationPortId = right.destinationPortId
  uiState : SameMapping left.uiState right.uiState

/-- A loaded snapshot equals the saved one up to the revision and the order of
its nodes, connections and groups. -/
structure GraphSnapshot.Restores (loaded saved : GraphSnapshot) : Prop where
  documentId : loaded.documentId = saved.documentId
  revision : loaded.revision = 0
  nodes : ∃ reordered, reordered.Perm saved.nodes ∧
    List.Forall₂ NodeModel.Same loaded.nodes reordered
  connections : ∃ reordered, reordered.Perm saved.connections ∧
    List.Forall₂ ConnectionModel.Same loaded.connections reordered
  settings : SameMapping loaded.documentSettings saved.documentSettings
  groups : loaded.groups.Perm saved.groups

theorem NodeModel.canonical_same (node : NodeModel) : node.canonical.Same node where
  id := rfl
  typeId := rfl
  implementationVersion := rfl
  parameters := sameMapping_sortDict node.parameters
  position := rfl
  size := rfl
  userLabel := rfl
  collapsed := rfl
  uiState := sameMapping_sortDict node.uiState

theorem ConnectionModel.canonical_same (connection : ConnectionModel) :
    connection.canonical.Same connection where
  id := rfl
  sourceNodeId := rfl
  sourcePortId := rfl
  destinationNodeId := rfl
  destinationPortId := rfl
  uiState := sameMapping_sortDict connection.uiState

theorem GraphSnapshot.canonical_restores (snapshot : GraphSnapshot) :
    snapshot.canonical.Restores snapshot where
  documentId := rfl
  revision := rfl
  nodes := ⟨sortByKey NodeModel.id snapshot.nodes, sortByKey_perm _ _,
    List.forall₂_map_left_iff.mpr (List.forall₂_same.mpr
      (fun node _ => node.canonical_same))⟩
  connections := ⟨sortByKey ConnectionModel.id snapshot.connections, sortByKey_perm _ _,
    List.forall₂_map_left_iff.mpr (List.forall₂_same.mpr
      (fun connection _ => connection.canonical_same))⟩
  settings := sameMapping_sortDict snapshot.documentSettings
  groups := sortByKey_perm _ _

/-- A loadable snapshot is written as a text from which the loader restores it,
and the restored snapshot is written as the same text. -/
theorem graph_round_trip {library : JsonLibrary} (interpreter : Interpreter)
    (loadable : snapshot.Loadable registry)
    (roundTrips : library.RoundTrips (.object (graphToData snapshot)))
    (fits : ∀ text, graphToJson library snapshot = .ok text →
      text.utf8ByteSize ≤ maxGraphJsonBytes) :
    ∃ text loaded, graphToJson library snapshot = .ok text ∧
      graphFromJson library interpreter registry text = .ok loaded ∧
      loaded.Restores snapshot ∧ graphToJson library loaded = .ok text := by
  rcases roundTrips with ⟨content, dumped, loads⟩
  have encoded : graphToJson library snapshot = .ok (content ++ "\n") := by
    rw [graphToJson, dumped]
    rfl
  have decoded : graphFromJson library interpreter registry (content ++ "\n") =
      .ok snapshot.canonical := by
    rw [graphFromJson, if_neg (Nat.not_lt.mpr (fits _ encoded)), graphFromJsonUnchecked, loads,
      sorted_object_written]
    simp only [expectObject, bind, Except.bind]
    exact loadable.decoded interpreter
  have again : graphToJson library snapshot.canonical = .ok (content ++ "\n") := by
    rw [graphToJson, graphToData_canonical, ← graphToJson, encoded]
  exact ⟨content ++ "\n", snapshot.canonical, encoded, decoded, snapshot.canonical_restores,
    again⟩

end Graphs

/-! ## A saved graph -/

/-- Parts of a text, each ended in the same way but the last. -/
def joinParts (ending : String) (parts : List String) (last : String) : String :=
  parts.foldr (fun part rest => part ++ ending ++ rest) last

theorem utf8ByteSize_joinParts (ending : String) (parts : List String) (last : String) :
    (joinParts ending parts last).utf8ByteSize =
      (parts.map (fun part => part.utf8ByteSize + ending.utf8ByteSize)).sum +
        last.utf8ByteSize := by
  induction parts with
  | nil => exact (Nat.zero_add _).symm
  | cons part rest ih =>
      rw [joinParts, List.foldr_cons, String.utf8ByteSize_append, String.utf8ByteSize_append,
        ← joinParts, ih, List.map_cons, List.sum_cons]
      omega

theorem firstVersion_positive : 1 ≤ 1 := le_rfl

/-- The current definition of the Crop and Convolve nodes. -/
def imageDefinition : RegisteredNode where
  implementationVersion := 1
  migrations := []
  positive := firstVersion_positive

def imageRegistry : NodeRegistry := fun typeId =>
  if typeId = "synmachine.image.crop" ∨ typeId = "synmachine.image.convolve" then
    some imageDefinition
  else none

theorem padColour_normalized :
    ∀ component ∈ [(0 : ℚ), 1 / 2, 1, 1], 0 ≤ component ∧ component ≤ 1 := by
  decide +kernel

def cropNode : NodeModel where
  id := 2
  typeId := "synmachine.image.crop"
  implementationVersion := 1
  parameters := Dict.ofEntries [("pad_colour", .color ⟨0, 1 / 2, 1, 1, padColour_normalized⟩)]
  position := (.finite 0, .finite 0)
  size := none
  userLabel := none
  collapsed := false
  uiState := Dict.empty
  versioned := firstVersion_positive

theorem kernel_rectangular : ∃ width, 0 < width ∧
    ∀ row ∈ [[(-1 : ℚ), 0, 1]], row.length = width :=
  ⟨3, by decide, List.forall_mem_singleton.mpr rfl⟩

def convolveNode : NodeModel where
  id := 3
  typeId := "synmachine.image.convolve"
  implementationVersion := 1
  parameters := Dict.ofEntries
    [("kernel", .matrix ⟨[[-1, 0, 1]], kernel_rectangular, List.cons_ne_nil _ _⟩)]
  position := (.finite 320, .finite 0)
  size := none
  userLabel := some "Edges"
  collapsed := false
  uiState := Dict.empty
  versioned := firstVersion_positive

def edgesConnection : ConnectionModel where
  id := 4
  sourceNodeId := 2
  sourcePortId := "image"
  destinationNodeId := 3
  destinationPortId := "image"
  uiState := Dict.empty

theorem outlineSize_positive : (0 : ℚ) < 640 ∧ (0 : ℚ) < 240 := by decide +kernel

theorem outlineColor_rgb : isRgbColor "#3A6EA5" = true := by decide +kernel

def outlineGroup : GroupModel where
  id := 5
  kind := .group
  title := "Outline"
  text := ""
  position := (-40, -40)
  size := (640, 240)
  color := "#3A6EA5"
  size_pos := outlineSize_positive
  color_rgb := outlineColor_rgb

/-- A cropped image whose edges are drawn, with a group around both nodes. -/
def edgesGraph : GraphSnapshot where
  documentId := 1
  revision := 7
  nodes := [cropNode, convolveNode]
  connections := [edgesConnection]
  documentSettings := Dict.empty
  groups := [outlineGroup]

/-- The lines of the file of the graph, without the brace that ends it. -/
def edgesGraphLines : List String :=
  ["\x7b", "  \"application_version\": \"0.1.0\",", "  \"connections\": [", "    \x7b",
    "      \"destination_node_id\": \"00000000-0000-0000-0000-000000000003\",",
    "      \"destination_port_id\": \"image\",",
    "      \"id\": \"00000000-0000-0000-0000-000000000004\",",
    "      \"source_node_id\": \"00000000-0000-0000-0000-000000000002\",",
    "      \"source_port_id\": \"image\",", "      \"ui_state\": \x7b\x7d", "    \x7d", "  ],",
    "  \"document_id\": \"00000000-0000-0000-0000-000000000001\",",
    "  \"document_settings\": \x7b\x7d,", "  \"groups\": [", "    \x7b",
    "      \"color\": \"#3A6EA5\",", "      \"id\": \"00000000-0000-0000-0000-000000000005\",",
    "      \"kind\": \"GROUP\",", "      \"position\": [", "        -40.0,", "        -40.0",
    "      ],", "      \"size\": [", "        640.0,", "        240.0", "      ],",
    "      \"text\": \"\",", "      \"title\": \"Outline\"", "    \x7d", "  ],", "  \"nodes\": [",
    "    \x7b", "      \"collapsed\": false,",
    "      \"id\": \"00000000-0000-0000-0000-000000000002\",",
    "      \"implementation_version\": 1,", "      \"parameters\": \x7b",
    "        \"pad_colour\": \x7b", "          \"$type\": \"COLOR\",", "          \"a\": 1.0,",
    "          \"b\": 1.0,", "          \"g\": 0.5,", "          \"r\": 0.0", "        \x7d",
    "      \x7d,", "      \"position\": [", "        0.0,", "        0.0", "      ],",
    "      \"size\": null,", "      \"type_id\": \"synmachine.image.crop\",",
    "      \"ui_state\": \x7b\x7d,", "      \"user_label\": null", "    \x7d,", "    \x7b",
    "      \"collapsed\": false,", "      \"id\": \"00000000-0000-0000-0000-000000000003\",",
    "      \"implementation_version\": 1,", "      \"parameters\": \x7b", "        \"kernel\": [",
    "          [", "            -1.0,", "            0.0,", "            1.0", "          ]",
    "        ]", "      \x7d,", "      \"position\": [", "        320.0,", "        0.0",
    "      ],", "      \"size\": null,", "      \"type_id\": \"synmachine.image.convolve\",",
    "      \"ui_state\": \x7b\x7d,", "      \"user_label\": \"Edges\"", "    \x7d", "  ],",
    "  \"schema_version\": 4,", "  \"ui_state\": \x7b\x7d"]

/-- The file of the graph, without its final newline. -/
def edgesGraphText : String := joinParts "\n" edgesGraphLines "\x7d"

/-- The library on the graph and on its file. -/
def edgesGraphLibrary : JsonLibrary where
  dumps _ := .ok edgesGraphText
  loads _ := .ok (JsonValue.object (graphToData edgesGraph)).sorted

/-- A stack of a thousand frames and the usual limit of digits. -/
def usualInterpreter : Interpreter where
  copyNesting := 450
  deepcopyNesting := 300
  maxStrDigits := 4300
  roomy := by decide

theorem cropNode_loadable : cropNode.Loadable imageRegistry where
  registered := ⟨imageDefinition, rfl, rfl⟩
  position := ⟨rfl, rfl⟩
  size := by
    intro size impossible
    cases impossible
  parameters := List.forall_mem_singleton.mpr trivial
  uiState := List.forall_mem_nil _

theorem convolveNode_loadable : convolveNode.Loadable imageRegistry where
  registered := ⟨imageDefinition, rfl, rfl⟩
  position := ⟨rfl, rfl⟩
  size := by
    intro size impossible
    cases impossible
  parameters := List.forall_mem_singleton.mpr trivial
  uiState := List.forall_mem_nil _

theorem edgesGraph_loadable : edgesGraph.Loadable imageRegistry where
  nodesUnique := by decide
  connectionsUnique := List.nodup_singleton _
  groupsUnique := List.nodup_singleton _
  attached := List.forall_mem_singleton.mpr
    ⟨List.mem_cons_self, List.mem_cons_of_mem _ List.mem_cons_self⟩
  nodes := List.forall_mem_cons.mpr
    ⟨cropNode_loadable, List.forall_mem_singleton.mpr convolveNode_loadable⟩
  connections := List.forall_mem_singleton.mpr (List.forall_mem_nil _)
  settings := List.forall_mem_nil _
  nodeCount := by decide
  connectionCount := by decide
  groupCount := by decide

theorem edgesGraphText_fits : (edgesGraphText ++ "\n").utf8ByteSize ≤ maxGraphJsonBytes := by
  rw [String.utf8ByteSize_append, edgesGraphText, utf8ByteSize_joinParts]
  decide +kernel

theorem graph_round_trip_edgesGraph :
    ∃ text loaded, graphToJson edgesGraphLibrary edgesGraph = .ok text ∧
      graphFromJson edgesGraphLibrary usualInterpreter imageRegistry text = .ok loaded ∧
      loaded.Restores edgesGraph ∧ graphToJson edgesGraphLibrary loaded = .ok text := by
  apply graph_round_trip usualInterpreter edgesGraph_loadable ⟨edgesGraphText, rfl, rfl⟩
  intro text encoded
  rw [show graphToJson edgesGraphLibrary edgesGraph = .ok (edgesGraphText ++ "\n") from rfl]
    at encoded
  injection encoded with same
  rw [← same]
  exact edgesGraphText_fits

end Persistence
end Synesthesia
