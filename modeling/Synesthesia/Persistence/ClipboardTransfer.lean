import Synesthesia.Persistence.Clipboard
import Synesthesia.Persistence.RoundTrip

namespace Synesthesia
namespace Persistence

open Foundation Contracts
open Ui (ClipboardFragment)

/-!
# Copy, transfer and paste

A copied selection is the graph that it induces, its text is read back, and a
pasted fragment is the same graph under new identifiers at another place.
-/

theorem makeFragment_ok {nodes : List NodeModel} {connections : List ConnectionModel}
    (distinctNodes : (nodes.map NodeModel.id).Nodup)
    (distinctConnections : (connections.map ConnectionModel.id).Nodup)
    (internal : ∀ connection ∈ connections, connection.sourceNodeId ∈ nodes.map NodeModel.id ∧
      connection.destinationNodeId ∈ nodes.map NodeModel.id) :
    makeFragment nodes connections =
      .ok ⟨nodes, connections, distinctNodes, distinctConnections, internal⟩ := by
  rw [makeFragment, dif_pos distinctNodes, dif_pos distinctConnections, dif_pos internal]

/-! ## Copying -/

/-- A selected node of the snapshot. -/
def Selected (snapshot : GraphSnapshot) (selectedNodeIds : List Identifier) (id : Identifier) :
    Prop :=
  id ∈ selectedNodeIds ∧ id ∈ snapshot.nodes.map NodeModel.id

/-- The fragment holds the selected nodes, and the connections with both ends
selected, each once and in the order of the snapshot. -/
structure CopiedFrom (snapshot : GraphSnapshot) (selectedNodeIds : List Identifier)
    (fragment : ClipboardFragment) : Prop where
  nodes : fragment.nodes =
    snapshot.nodes.filter (fun node => decide (node.id ∈ selectedNodeIds))
  kept : fragment.connections.Sublist snapshot.connections
  connections : ∀ connection, connection ∈ fragment.connections ↔
    connection ∈ snapshot.connections ∧
      Selected snapshot selectedNodeIds connection.sourceNodeId ∧
      Selected snapshot selectedNodeIds connection.destinationNodeId

theorem mem_selected_ids {snapshot : GraphSnapshot} {selectedNodeIds : List Identifier}
    {id : Identifier} :
    id ∈ (snapshot.nodes.filter (fun node => decide (node.id ∈ selectedNodeIds))).map
        NodeModel.id ↔ Selected snapshot selectedNodeIds id := by
  constructor
  · intro member
    rcases List.mem_map.mp member with ⟨node, chosen, rfl⟩
    rcases List.mem_filter.mp chosen with ⟨listed, selected⟩
    exact ⟨of_decide_eq_true selected, List.mem_map_of_mem listed⟩
  · rintro ⟨selected, member⟩
    rcases List.mem_map.mp member with ⟨node, listed, rfl⟩
    exact List.mem_map_of_mem (List.mem_filter.mpr ⟨listed, decide_eq_true selected⟩)

theorem exists_copyFragment {snapshot : GraphSnapshot}
    (nodesUnique : (snapshot.nodes.map NodeModel.id).Nodup)
    (connectionsUnique : (snapshot.connections.map ConnectionModel.id).Nodup)
    (selectedNodeIds : List Identifier) :
    ∃ fragment, copyFragment snapshot selectedNodeIds = .ok fragment ∧
      CopiedFrom snapshot selectedNodeIds fragment := by
  have distinctNodes := nodesUnique.sublist
    (List.filter_sublist (p := fun node => decide (node.id ∈ selectedNodeIds)).map NodeModel.id)
  refine ⟨_, makeFragment_ok distinctNodes
    (connectionsUnique.sublist (List.filter_sublist.map ConnectionModel.id)) ?_, ?_⟩
  · intro connection member
    exact of_decide_eq_true (List.mem_filter.mp member).2
  · refine ⟨rfl, List.filter_sublist, ?_⟩
    intro connection
    rw [← mem_selected_ids, ← mem_selected_ids, List.mem_filter, decide_eq_true_eq]

/-! ## Transfer -/

/-- Every number of a fragment is finite. -/
structure FiniteFragment (fragment : ClipboardFragment) : Prop where
  positions : ∀ node ∈ fragment.nodes, IsFinitePair node.position
  sizes : ∀ node ∈ fragment.nodes, ∀ size, node.size = some size → IsFinitePair size
  parameters : ∀ node ∈ fragment.nodes, FiniteLiterals node.parameters
  uiStates : ∀ node ∈ fragment.nodes, FiniteLiterals node.uiState
  connections : ∀ connection ∈ fragment.connections, FiniteLiterals connection.uiState

/-- What a clipboard takes. -/
structure WithinLimits (fragment : ClipboardFragment) : Prop where
  nodes : fragment.nodes.length ≤ maxClipboardNodes
  connections : fragment.connections.length ≤ maxClipboardConnections

/-- Without infinite numbers and NaNs, a value is written and read back with its
keys in order. -/
def ReadsBack (library : JsonLibrary) (value : JsonValue) : Prop :=
  value.isFinite = true → ∃ text, library.dumps value = .ok text ∧
    library.loads text = .ok value.sorted

/-- Equal fragments up to the order of their nodes, connections and keys. -/
structure SameFragment (left right : ClipboardFragment) : Prop where
  nodes : ∃ reordered, reordered.Perm right.nodes ∧
    List.Forall₂ NodeModel.Same left.nodes reordered
  connections : ∃ reordered, reordered.Perm right.connections ∧
    List.Forall₂ ConnectionModel.Same left.connections reordered

/-! ### What is written is finite -/

theorem isFinite_literalToData {literal : LiteralValue} (finite : literal.IsFinite) :
    (literalToData literal).isFinite = true := by
  cases literal with
  | absent | bool _ | int _ | str _ => rfl
  | float value => exact finite
  | color value => rfl
  | matrix value =>
      rw [literalToData, JsonValue.isFinite, JsonValue.itemsFinite_iff]
      intro item member
      rcases List.mem_map.mp member with ⟨row, _, rfl⟩
      rw [JsonValue.isFinite, JsonValue.itemsFinite_iff]
      intro entry listed
      rcases List.mem_map.mp listed with ⟨number, _, rfl⟩
      rfl

theorem isFinite_literalMappingToData {values : Dict String LiteralValue}
    (finite : FiniteLiterals values) :
    (JsonValue.object (literalMappingToData values)).isFinite = true := by
  rw [JsonValue.isFinite, JsonValue.fieldsFinite_iff]
  intro field member
  rcases List.mem_map.mp member with ⟨entry, listed, rfl⟩
  exact isFinite_literalToData (finite entry ((mem_sortByKey _).mp listed))

theorem isFinite_pairToData {pair : PyFloat × PyFloat} (finite : IsFinitePair pair) :
    (pairToData pair).isFinite = true := by
  simp [pairToData, JsonValue.isFinite, JsonValue.itemsFinite, finite.1, finite.2]

theorem isFinite_clipboardNodeRecord {node : NodeModel} (position : IsFinitePair node.position)
    (size : ∀ size, node.size = some size → IsFinitePair size)
    (parameters : FiniteLiterals node.parameters) (uiState : FiniteLiterals node.uiState) :
    (JsonValue.object (clipboardNodeRecord node)).isFinite = true := by
  have atSize : ((node.size.map pairToData).getD .null).isFinite = true := by
    cases sized : node.size with
    | none => rfl
    | some pair => exact isFinite_pairToData (size pair sized)
  have atLabel : ((node.userLabel.map JsonValue.str).getD .null).isFinite = true := by
    cases node.userLabel with
    | none => rfl
    | some text => rfl
  rw [JsonValue.isFinite, JsonValue.fieldsFinite_iff]
  simp only [clipboardNodeRecord, List.forall_mem_cons]
  exact ⟨rfl, rfl, rfl, isFinite_literalMappingToData parameters, isFinite_pairToData position,
    atSize, atLabel, rfl, isFinite_literalMappingToData uiState, List.forall_mem_nil _⟩

theorem isFinite_connectionToData {connection : ConnectionModel}
    (uiState : FiniteLiterals connection.uiState) :
    (connectionToData connection).isFinite = true := by
  rw [connectionToData, JsonValue.isFinite, JsonValue.fieldsFinite_iff]
  simp only [connectionRecord, List.forall_mem_cons]
  exact ⟨rfl, rfl, rfl, rfl, rfl, isFinite_literalMappingToData uiState, List.forall_mem_nil _⟩

theorem FiniteFragment.isFinite {fragment : ClipboardFragment} (finite : FiniteFragment fragment) :
    (JsonValue.object (fragmentRecord fragment)).isFinite = true := by
  rw [JsonValue.isFinite, JsonValue.fieldsFinite_iff]
  simp only [fragmentRecord, List.forall_mem_cons]
  refine ⟨rfl, ?_, ?_, List.forall_mem_nil _⟩
  · rw [JsonValue.isFinite, JsonValue.itemsFinite_iff]
    intro item member
    rcases List.mem_map.mp member with ⟨node, listed, rfl⟩
    have own := (mem_sortByKey NodeModel.id).mp listed
    exact isFinite_clipboardNodeRecord (finite.positions node own) (finite.sizes node own)
      (finite.parameters node own) (finite.uiStates node own)
  · rw [JsonValue.isFinite, JsonValue.itemsFinite_iff]
    intro item member
    rcases List.mem_map.mp member with ⟨connection, listed, rfl⟩
    exact isFinite_connectionToData
      (finite.connections connection ((mem_sortByKey ConnectionModel.id).mp listed))

/-! ### What is written is read -/

theorem clipboardUuid_written (id : Identifier) (path : String) :
    clipboardUuid (uuidToData id).sorted path = .ok id := by
  rw [uuidToData, JsonValue.sorted, clipboardUuid, parseUuid_uuidText]

theorem clipboardPair_written (pair : ℚ × ℚ) (path : String) :
    clipboardPair (pairToData (finitePair pair)).sorted path = .ok pair := by
  rw [pairToData, JsonValue.sorted_list]
  rfl

theorem clipboardSize_written {size : Option (PyFloat × PyFloat)}
    (finite : ∀ pair, size = some pair → IsFinitePair pair) (path : String) :
    ∃ values, size = values.map finitePair ∧
      clipboardSize ((size.map pairToData).getD .null).sorted path = .ok values := by
  cases size with
  | none => exact ⟨none, rfl, rfl⟩
  | some pair =>
      rcases exists_finitePair (finite pair rfl) with ⟨values, same⟩
      refine ⟨some values, congrArg some same, ?_⟩
      have decoded := clipboardPair_written values path
      rw [Option.map_some, Option.getD_some, same]
      rw [pairToData, JsonValue.sorted_list] at decoded ⊢
      rw [clipboardSize, decoded]
      · rfl
      · exact fun impossible => by cases impossible

theorem clipboardLabel_written (label : Option String) (path : String) :
    clipboardLabel ((label.map JsonValue.str).getD .null).sorted path = .ok label := by
  cases label with
  | none => rfl
  | some text => rfl

theorem clipboardLiteralMapping_written {values : Dict String LiteralValue}
    (finite : FiniteLiterals values) (path : String) :
    clipboardLiteralMapping (JsonValue.object (literalMappingToData values)).sorted path =
      .ok (sortDict values) := by
  rw [clipboardLiteralMapping, literalMapping_literalMappingToData finite]
  rfl

theorem clipboardNode_written {node : NodeModel} (finitePosition : IsFinitePair node.position)
    (finiteSize : ∀ size, node.size = some size → IsFinitePair size)
    (finiteParameters : FiniteLiterals node.parameters)
    (finiteUiState : FiniteLiterals node.uiState)
    (path : String) :
    clipboardNode (written (clipboardNodeRecord node)) path node.implementationVersion
      node.userLabel node.collapsed = .ok node.canonical := by
  rcases exists_finitePair finitePosition with ⟨position, placed⟩
  rcases clipboardSize_written finiteSize (path ++ ".size") with ⟨size, sized, decoded⟩
  have atId : clipboardUuid (field (written (clipboardNodeRecord node)) "id") (path ++ ".id") =
      .ok node.id := by
    rw [field_written]
    exact clipboardUuid_written node.id _
  have atType : clipboardString (field (written (clipboardNodeRecord node)) "type_id")
      (path ++ ".type_id") = .ok node.typeId := by
    rw [field_written]
    rfl
  have atParameters : clipboardLiteralMapping
      (field (written (clipboardNodeRecord node)) "parameters") (path ++ ".parameters") =
        .ok (sortDict node.parameters) := by
    rw [field_written]
    exact clipboardLiteralMapping_written finiteParameters _
  have atPosition : clipboardPair (field (written (clipboardNodeRecord node)) "position")
      (path ++ ".position") = .ok position := by
    rw [field_written, show field (clipboardNodeRecord node) "position" =
      pairToData node.position from rfl, placed]
    exact clipboardPair_written position _
  have atSize : clipboardSize (field (written (clipboardNodeRecord node)) "size")
      (path ++ ".size") = .ok size := by
    rw [field_written]
    exact decoded
  have atUiState : clipboardLiteralMapping
      (field (written (clipboardNodeRecord node)) "ui_state") (path ++ ".ui_state") =
        .ok (sortDict node.uiState) := by
    rw [field_written]
    exact clipboardLiteralMapping_written finiteUiState _
  rw [clipboardNode]
  simp only [bind, Except.bind, atId, atType, atParameters, atPosition, atSize, atUiState,
    Int.toNat_natCast, dif_pos node.versioned]
  rcases node with ⟨id, typeId, version, parameters, place, extent, label, collapsed, uiState, _⟩
  dsimp only at placed sized
  subst placed sized
  rfl

theorem clipboardNodeFromData_written {node : NodeModel}
    (finitePosition : IsFinitePair node.position)
    (finiteSize : ∀ size, node.size = some size → IsFinitePair size)
    (finiteParameters : FiniteLiterals node.parameters)
    (finiteUiState : FiniteLiterals node.uiState)
    (index : Nat) :
    clipboardNodeFromData (JsonValue.object (clipboardNodeRecord node)).sorted index =
      .ok node.canonical := by
  have keys : sameKeys clipboardNodeKeys (written (clipboardNodeRecord node)) = true := by
    rw [written, JsonValue.sameKeys_sorted]
    rfl
  have atVersion : ∀ path, clipboardVersion
      (field (written (clipboardNodeRecord node)) "implementation_version") path =
        .ok node.implementationVersion := by
    intro path
    rw [field_written]
    rfl
  have atLabel : ∀ path, clipboardLabel (field (written (clipboardNodeRecord node)) "user_label")
      path = .ok node.userLabel := by
    intro path
    rw [field_written]
    exact clipboardLabel_written node.userLabel path
  have atCollapsed : ∀ path, clipboardCollapsed
      (field (written (clipboardNodeRecord node)) "collapsed") path = .ok node.collapsed := by
    intro path
    rw [field_written]
    rfl
  rw [sorted_object_written, clipboardNodeFromData, clipboardObject]
  simp only [bind, Except.bind, keys, Bool.true_eq_false, if_false, atVersion, atLabel,
    atCollapsed]
  exact clipboardNode_written finitePosition finiteSize finiteParameters finiteUiState _

theorem clipboardConnectionFromData_written {connection : ConnectionModel}
    (finite : FiniteLiterals connection.uiState) (index : Nat) :
    clipboardConnectionFromData 2 (connectionToData connection).sorted index =
      .ok connection.canonical := by
  have keys : sameKeys (clipboardConnectionKeys 2) (written (connectionRecord connection)) =
      true := by
    rw [written, JsonValue.sameKeys_sorted]
    rfl
  have uuid : ∀ key id, field (connectionRecord connection) key = uuidToData id →
      ∀ path, clipboardUuid (field (written (connectionRecord connection)) key) path = .ok id := by
    intro key id found path
    rw [field_written, found]
    exact clipboardUuid_written id path
  have text : ∀ key text, field (connectionRecord connection) key = .str text → ∀ path,
      clipboardString (field (written (connectionRecord connection)) key) path = .ok text := by
    intro key text found path
    rw [field_written, found]
    rfl
  have uiState : ∀ path, clipboardLiteralMapping
      (field (written (connectionRecord connection)) "ui_state") path =
        .ok (sortDict connection.uiState) := by
    intro path
    rw [field_written]
    exact clipboardLiteralMapping_written finite path
  rw [connectionToData, sorted_object_written, clipboardConnectionFromData, clipboardObject]
  simp only [bind, Except.bind, keys, Bool.true_eq_false, if_false,
    uuid "id" connection.id rfl, uuid "source_node_id" connection.sourceNodeId rfl,
    text "source_port_id" connection.sourcePortId rfl,
    uuid "destination_node_id" connection.destinationNodeId rfl,
    text "destination_port_id" connection.destinationPortId rfl, le_refl, if_true, uiState]
  rfl

theorem canonicalNodes_ids (fragment : ClipboardFragment) :
    ((sortByKey NodeModel.id fragment.nodes).map NodeModel.canonical).map NodeModel.id =
      (sortByKey NodeModel.id fragment.nodes).map NodeModel.id := by
  rw [List.map_map]
  rfl

theorem canonicalNodes_distinct (fragment : ClipboardFragment) :
    (((sortByKey NodeModel.id fragment.nodes).map NodeModel.canonical).map NodeModel.id).Nodup := by
  rw [canonicalNodes_ids]
  exact ((sortByKey_perm _ _).map _).nodup_iff.mpr fragment.distinctNodes

theorem canonicalConnections_distinct (fragment : ClipboardFragment) :
    (((sortByKey ConnectionModel.id fragment.connections).map ConnectionModel.canonical).map
      ConnectionModel.id).Nodup := by
  rw [List.map_map]
  exact ((sortByKey_perm _ _).map _).nodup_iff.mpr fragment.distinctConnections

theorem canonicalConnections_internal (fragment : ClipboardFragment) :
    ∀ connection ∈ (sortByKey ConnectionModel.id fragment.connections).map
        ConnectionModel.canonical,
      connection.sourceNodeId ∈
          ((sortByKey NodeModel.id fragment.nodes).map NodeModel.canonical).map NodeModel.id ∧
        connection.destinationNodeId ∈
          ((sortByKey NodeModel.id fragment.nodes).map NodeModel.canonical).map NodeModel.id := by
  intro connection member
  rcases List.mem_map.mp member with ⟨source, listed, rfl⟩
  have ends := fragment.internal source ((mem_sortByKey ConnectionModel.id).mp listed)
  rw [canonicalNodes_ids]
  exact ⟨((sortByKey_perm _ _).map _).mem_iff.mpr ends.1,
    ((sortByKey_perm _ _).map _).mem_iff.mpr ends.2⟩

/-- The fragment that a written one is read as. -/
def canonicalFragment (fragment : ClipboardFragment) : ClipboardFragment where
  nodes := (sortByKey NodeModel.id fragment.nodes).map NodeModel.canonical
  connections :=
    (sortByKey ConnectionModel.id fragment.connections).map ConnectionModel.canonical
  distinctNodes := canonicalNodes_distinct fragment
  distinctConnections := canonicalConnections_distinct fragment
  internal := canonicalConnections_internal fragment

theorem canonicalFragment_same (fragment : ClipboardFragment) :
    SameFragment (canonicalFragment fragment) fragment where
  nodes := ⟨sortByKey NodeModel.id fragment.nodes, sortByKey_perm _ _,
    List.forall₂_map_left_iff.mpr (List.forall₂_same.mpr (fun node _ => node.canonical_same))⟩
  connections := ⟨sortByKey ConnectionModel.id fragment.connections, sortByKey_perm _ _,
    List.forall₂_map_left_iff.mpr (List.forall₂_same.mpr
      (fun connection _ => connection.canonical_same))⟩

theorem fragmentFromData_written {fragment : ClipboardFragment} (finite : FiniteFragment fragment)
    (within : WithinLimits fragment) :
    fragmentFromData (JsonValue.object (fragmentRecord fragment)).sorted =
      .ok (canonicalFragment fragment) := by
  have keys : sameKeys ["fragment_version", "nodes", "connections"]
      (written (fragmentRecord fragment)) = true := by
    rw [written, JsonValue.sameKeys_sorted]
    rfl
  have version : fragmentVersion (field (written (fragmentRecord fragment)) "fragment_version") =
      .ok 2 := by
    rw [field_written]
    rfl
  have rawNodes : clipboardList (field (written (fragmentRecord fragment)) "nodes") "$.nodes" =
      .ok ((sortByKey NodeModel.id fragment.nodes).map (fun node =>
        (JsonValue.object (clipboardNodeRecord node)).sorted)) := by
    rw [field_written, show field (fragmentRecord fragment) "nodes" = .list
      ((sortByKey NodeModel.id fragment.nodes).map (fun node =>
        .object (clipboardNodeRecord node))) from rfl, JsonValue.sorted_list, List.map_map]
    rfl
  have rawConnections : clipboardList (field (written (fragmentRecord fragment)) "connections")
      "$.connections" = .ok ((sortByKey ConnectionModel.id fragment.connections).map
        (fun connection => (connectionToData connection).sorted)) := by
    rw [field_written, show field (fragmentRecord fragment) "connections" = .list
      ((sortByKey ConnectionModel.id fragment.connections).map connectionToData) from rfl,
      JsonValue.sorted_list, List.map_map]
    rfl
  have fewNodes : ¬ maxClipboardNodes < ((sortByKey NodeModel.id fragment.nodes).map (fun node =>
      (JsonValue.object (clipboardNodeRecord node)).sorted)).length := by
    rw [List.length_map, (sortByKey_perm _ _).length_eq]
    exact Nat.not_lt.mpr within.nodes
  have fewConnections : ¬ maxClipboardConnections <
      ((sortByKey ConnectionModel.id fragment.connections).map (fun connection =>
        (connectionToData connection).sorted)).length := by
    rw [List.length_map, (sortByKey_perm _ _).length_eq]
    exact Nat.not_lt.mpr within.connections
  have nodes : decodeFrom clipboardNodeFromData 0 ((sortByKey NodeModel.id fragment.nodes).map
      (fun node => (JsonValue.object (clipboardNodeRecord node)).sorted)) =
        .ok ((sortByKey NodeModel.id fragment.nodes).map NodeModel.canonical) := by
    refine decodeFrom_map (fun node member index => ?_) 0
    have own := (mem_sortByKey NodeModel.id).mp member
    exact clipboardNodeFromData_written (finite.positions node own) (finite.sizes node own)
      (finite.parameters node own) (finite.uiStates node own) index
  have connections : decodeFrom (clipboardConnectionFromData 2) 0
      ((sortByKey ConnectionModel.id fragment.connections).map
        (fun connection => (connectionToData connection).sorted)) =
      .ok ((sortByKey ConnectionModel.id fragment.connections).map ConnectionModel.canonical) :=
    decodeFrom_map (fun connection member index => clipboardConnectionFromData_written
      (finite.connections connection ((mem_sortByKey ConnectionModel.id).mp member)) index) 0
  rw [sorted_object_written, fragmentFromData, clipboardObject]
  simp only [bind, Except.bind, keys, Bool.true_eq_false, if_false, version, rawNodes,
    rawConnections, if_neg fewNodes, if_neg fewConnections, nodes, connections]
  exact makeFragment_ok (canonicalNodes_distinct fragment) (canonicalConnections_distinct fragment)
    (canonicalConnections_internal fragment)

theorem exists_transferred {library : JsonLibrary} {fragment : ClipboardFragment}
    (finite : FiniteFragment fragment) (within : WithinLimits fragment)
    (readsBack : ReadsBack library (.object (fragmentRecord fragment)))
    (fits : ∀ text, fragmentToJson library fragment = .ok text →
      text.utf8ByteSize ≤ maxClipboardJsonBytes) :
    ∃ text loaded, fragmentToJson library fragment = .ok text ∧
      fragmentFromJson library text = .ok loaded ∧ SameFragment loaded fragment := by
  rcases readsBack finite.isFinite with ⟨text, dumped, loads⟩
  refine ⟨text, canonicalFragment fragment, dumped, ?_, canonicalFragment_same fragment⟩
  rw [fragmentFromJson, if_neg (Nat.not_lt.mpr (fits text dumped)), loads]
  exact fragmentFromData_written finite within

/-! ## Paste -/

/-- A node under its new identifier, at its new place. -/
def movedNode (plus : PyFloat → PyFloat → PyFloat) (offset : PyFloat × PyFloat)
    (rename : Identifier → Identifier) (node : NodeModel) : NodeModel :=
  { node with
    id := rename node.id
    position := (plus node.position.1 offset.1, plus node.position.2 offset.2) }

/-- A connection under its new identifier, between the renamed nodes. -/
def movedConnection (rename renameConnection : Identifier → Identifier)
    (connection : ConnectionModel) : ConnectionModel :=
  { connection with
    id := renameConnection connection.id
    sourceNodeId := rename connection.sourceNodeId
    destinationNodeId := rename connection.destinationNodeId }

/-- The factory produces distinct identifiers that the fragment does not use, for
as many calls as the fragment has nodes and connections. -/
structure FreshIds (idFactory : Nat → Identifier) (fragment : ClipboardFragment) : Prop where
  distinct : ∀ first second,
    first < fragment.nodes.length + fragment.connections.length →
    second < fragment.nodes.length + fragment.connections.length →
    idFactory first = idFactory second → first = second
  unused : ∀ call < fragment.nodes.length + fragment.connections.length,
    idFactory call ∉ fragment.nodes.map NodeModel.id ∧
      idFactory call ∉ fragment.connections.map ConnectionModel.id

/-- The pasted fragment is the copied one under new identifiers, which the
renamings assign one to one: those of the nodes are the first of the factory,
those of the connections the next ones.  Everything else is kept, and the
positions are shifted. -/
structure PastedFrom (plus : PyFloat → PyFloat → PyFloat) (idFactory : Nat → Identifier)
    (offset : PyFloat × PyFloat) (fragment pasted : ClipboardFragment)
    (rename renameConnection : Identifier → Identifier) : Prop where
  nodes : pasted.nodes.Perm (fragment.nodes.map (movedNode plus offset rename))
  connections : pasted.connections.Perm
    (fragment.connections.map (movedConnection rename renameConnection))
  nodeIds : Set.BijOn rename {id | id ∈ fragment.nodes.map NodeModel.id}
    (idFactory '' {call | call < fragment.nodes.length})
  connectionIds : Set.BijOn renameConnection {id | id ∈ fragment.connections.map ConnectionModel.id}
    (idFactory '' {call | fragment.nodes.length ≤ call ∧
      call < fragment.nodes.length + fragment.connections.length})
  fresh : ∀ id ∈ pasted.nodes.map NodeModel.id ++ pasted.connections.map ConnectionModel.id,
    id ∉ fragment.nodes.map NodeModel.id ∧ id ∉ fragment.connections.map ConnectionModel.id

/-! ### Renaming -/

/-- Values that are assigned to distinct keys in order. -/
def assigned (keys values : List Identifier) (key : Identifier) : Identifier :=
  ((Dict.ofEntries (keys.zip values)).get? key).getD 0

theorem get?_assigned {keys values : List Identifier} (distinct : keys.Nodup)
    (sameLength : keys.length = values.length) {key : Identifier} (member : key ∈ keys) :
    (Dict.ofEntries (keys.zip values)).get? key = some (assigned keys values key) := by
  have first : (keys.zip values).map Prod.fst = keys := List.map_fst_zip sameLength.le
  have distinctKeys : ((keys.zip values).map Prod.fst).Nodup := by rwa [first]
  have entries := Dict.ofEntries_entries distinctKeys
  have listed : key ∈ (Dict.ofEntries (keys.zip values)).keys := by
    rw [Dict.keys, entries, first]
    exact member
  rcases Option.isSome_iff_exists.mp ((Dict.get?_isSome _ key).mpr listed) with ⟨value, found⟩
  rw [assigned, found]
  rfl

theorem map_assigned {keys values : List Identifier} (distinct : keys.Nodup)
    (sameLength : keys.length = values.length) : keys.map (assigned keys values) = values := by
  have first : (keys.zip values).map Prod.fst = keys := List.map_fst_zip sameLength.le
  have distinctKeys : ((keys.zip values).map Prod.fst).Nodup := by rwa [first]
  have entries := Dict.ofEntries_entries distinctKeys
  refine List.ext_getElem (by rw [List.length_map, sameLength]) ?_
  intro index inKeys inValues
  rw [List.getElem_map]
  have inZip : index < (keys.zip values).length := by
    rw [List.length_zip, sameLength, min_self]
    exact inValues
  have paired : (keys[index], values[index]) ∈ (Dict.ofEntries (keys.zip values)).entries := by
    rw [entries, ← List.getElem_zip (h := inZip)]
    exact List.getElem_mem inZip
  rw [assigned, Dict.get?_of_mem paired]
  rfl

/-- A renaming without repetitions is one to one on what it renames. -/
theorem bijOn_of_nodup_map (rename : Identifier → Identifier) {ids : List Identifier}
    (distinct : (ids.map rename).Nodup) :
    Set.BijOn rename {id | id ∈ ids} {id | id ∈ ids.map rename} := by
  refine ⟨?_, ?_, ?_⟩
  · intro id member
    exact List.mem_map_of_mem member
  · intro first firstMem second secondMem same
    exact List.inj_on_of_nodup_map distinct firstMem secondMem same
  · intro id member
    exact List.mem_map.mp member

theorem mem_issued {idFactory : Nat → Identifier} {start count : Nat} {id : Identifier} :
    id ∈ issued idFactory start count ↔
      id ∈ idFactory '' {call | start ≤ call ∧ call < start + count} := by
  rw [issued, List.mem_map]
  simp only [List.mem_range'_1, Set.mem_image, Set.mem_ofPred_eq]

theorem length_issued (idFactory : Nat → Identifier) (start count : Nat) :
    (issued idFactory start count).length = count := by
  rw [issued, List.length_map, List.length_range']

theorem FreshIds.nodup_issued {idFactory : Nat → Identifier} {fragment : ClipboardFragment}
    (fresh : FreshIds idFactory fragment) (start count : Nat)
    (within : start + count ≤ fragment.nodes.length + fragment.connections.length) :
    (issued idFactory start count).Nodup := by
  refine List.Nodup.map_on ?_ List.nodup_range'
  intro first firstMem second secondMem same
  have firstBound := List.mem_range'_1.mp firstMem
  have secondBound := List.mem_range'_1.mp secondMem
  exact fresh.distinct first second (by omega) (by omega) same

theorem nodup_sortedNodes (fragment : ClipboardFragment) :
    ((sortByKey NodeModel.id fragment.nodes).map NodeModel.id).Nodup :=
  ((sortByKey_perm _ _).map _).nodup_iff.mpr fragment.distinctNodes

theorem nodup_sortedConnections (fragment : ClipboardFragment) :
    ((sortByKey ConnectionModel.id fragment.connections).map ConnectionModel.id).Nodup :=
  ((sortByKey_perm _ _).map _).nodup_iff.mpr fragment.distinctConnections

/-- The new identifiers of the nodes, and those of the connections. -/
def nodeNames (idFactory : Nat → Identifier) (fragment : ClipboardFragment) :
    Identifier → Identifier :=
  assigned ((sortByKey NodeModel.id fragment.nodes).map NodeModel.id)
    (issued idFactory 0 (sortByKey NodeModel.id fragment.nodes).length)

def connectionNames (idFactory : Nat → Identifier) (fragment : ClipboardFragment) :
    Identifier → Identifier :=
  assigned ((sortByKey ConnectionModel.id fragment.connections).map ConnectionModel.id)
    (issued idFactory (sortByKey NodeModel.id fragment.nodes).length
      (sortByKey ConnectionModel.id fragment.connections).length)

section Names

variable (idFactory : Nat → Identifier) (fragment : ClipboardFragment)

theorem map_nodeNames :
    ((sortByKey NodeModel.id fragment.nodes).map NodeModel.id).map (nodeNames idFactory fragment) =
      issued idFactory 0 fragment.nodes.length := by
  rw [nodeNames, map_assigned (nodup_sortedNodes fragment)
    (by rw [List.length_map, length_issued]), (sortByKey_perm _ _).length_eq]

theorem map_connectionNames :
    ((sortByKey ConnectionModel.id fragment.connections).map ConnectionModel.id).map
        (connectionNames idFactory fragment) =
      issued idFactory fragment.nodes.length fragment.connections.length := by
  rw [connectionNames, map_assigned (nodup_sortedConnections fragment)
    (by rw [List.length_map, length_issued]), (sortByKey_perm _ _).length_eq,
    (sortByKey_perm _ _).length_eq]

/-- Every node of the fragment has a new identifier. -/
theorem renamed_nodeNames {id : Identifier} (member : id ∈ fragment.nodes.map NodeModel.id) :
    renamed (Dict.ofEntries (((sortByKey NodeModel.id fragment.nodes).map NodeModel.id).zip
        (issued idFactory 0 (sortByKey NodeModel.id fragment.nodes).length))) id =
      .ok (nodeNames idFactory fragment id) := by
  have listed : id ∈ (sortByKey NodeModel.id fragment.nodes).map NodeModel.id :=
    ((sortByKey_perm _ _).map _).mem_iff.mpr member
  rw [renamed, get?_assigned (nodup_sortedNodes fragment)
    (by rw [List.length_map, length_issued]) listed]
  rfl

end Names

/-- Renaming the listed identifiers to issued ones is one to one. -/
theorem FreshIds.bijOn_names {κ : Type*} {idFactory : Nat → Identifier}
    {fragment : ClipboardFragment} (fresh : FreshIds idFactory fragment) (start : Nat)
    {items : List κ} {key : κ → Identifier} {names : Identifier → Identifier}
    (within : start + items.length ≤ fragment.nodes.length + fragment.connections.length)
    (renamed : ((sortByKey key items).map key).map names =
      issued idFactory start items.length) :
    Set.BijOn names {id | id ∈ items.map key}
      (idFactory '' {call | start ≤ call ∧ call < start + items.length}) := by
  have distinct := fresh.nodup_issued start items.length within
  rw [← renamed] at distinct
  have bijective := bijOn_of_nodup_map names distinct
  have sources : {id | id ∈ (sortByKey key items).map key} = {id | id ∈ items.map key} := by
    ext id
    exact ((sortByKey_perm _ _).map _).mem_iff
  have targets : {id | id ∈ issued idFactory start items.length} =
      idFactory '' {call | start ≤ call ∧ call < start + items.length} := by
    ext id
    exact mem_issued
  rwa [renamed, sources, targets] at bijective

theorem bijOn_nodeNames {idFactory : Nat → Identifier} {fragment : ClipboardFragment}
    (fresh : FreshIds idFactory fragment) :
    Set.BijOn (nodeNames idFactory fragment) {id | id ∈ fragment.nodes.map NodeModel.id}
      (idFactory '' {call | call < fragment.nodes.length}) := by
  have names := fresh.bijOn_names 0 (by omega) (map_nodeNames idFactory fragment)
  simpa using names

theorem bijOn_connectionNames {idFactory : Nat → Identifier} {fragment : ClipboardFragment}
    (fresh : FreshIds idFactory fragment) :
    Set.BijOn (connectionNames idFactory fragment)
      {id | id ∈ fragment.connections.map ConnectionModel.id}
      (idFactory '' {call | fragment.nodes.length ≤ call ∧
        call < fragment.nodes.length + fragment.connections.length}) :=
  fresh.bijOn_names fragment.nodes.length le_rfl (map_connectionNames idFactory fragment)

section Paste

variable (plus : PyFloat → PyFloat → PyFloat) (idFactory : Nat → Identifier)
  (offset : PyFloat × PyFloat) (fragment : ClipboardFragment)

/-- The nodes and connections of the pasted fragment, in the order of the old
identifiers. -/
def pastedNodes : List NodeModel :=
  (sortByKey NodeModel.id fragment.nodes).map
    (movedNode plus offset (nodeNames idFactory fragment))

def pastedConnections : List ConnectionModel :=
  (sortByKey ConnectionModel.id fragment.connections).map
    (movedConnection (nodeNames idFactory fragment) (connectionNames idFactory fragment))

theorem pastedNodes_ids :
    (pastedNodes plus idFactory offset fragment).map NodeModel.id =
      issued idFactory 0 fragment.nodes.length := by
  rw [← map_nodeNames, pastedNodes, List.map_map, List.map_map]
  rfl

theorem pastedConnections_ids :
    (pastedConnections idFactory fragment).map ConnectionModel.id =
      issued idFactory fragment.nodes.length fragment.connections.length := by
  rw [← map_connectionNames, pastedConnections, List.map_map, List.map_map]
  rfl

theorem pastedConnections_internal :
    ∀ connection ∈ pastedConnections idFactory fragment,
      connection.sourceNodeId ∈ (pastedNodes plus idFactory offset fragment).map NodeModel.id ∧
        connection.destinationNodeId ∈
          (pastedNodes plus idFactory offset fragment).map NodeModel.id := by
  have present : ∀ id ∈ fragment.nodes.map NodeModel.id, nodeNames idFactory fragment id ∈
      (pastedNodes plus idFactory offset fragment).map NodeModel.id := by
    intro id member
    rw [pastedNodes_ids, ← map_nodeNames]
    exact List.mem_map_of_mem (((sortByKey_perm _ _).map _).mem_iff.mpr member)
  intro connection member
  rcases List.mem_map.mp member with ⟨source, listed, rfl⟩
  have ends := fragment.internal source ((mem_sortByKey ConnectionModel.id).mp listed)
  exact ⟨present _ ends.1, present _ ends.2⟩

/-- Every node is found and moved. -/
theorem remapped_nodes :
    decodeFrom (fun node _ => remapNode plus (Dict.ofEntries
        (((sortByKey NodeModel.id fragment.nodes).map NodeModel.id).zip
          (issued idFactory 0 (sortByKey NodeModel.id fragment.nodes).length))) offset node) 0
        (sortByKey NodeModel.id fragment.nodes) =
      .ok (pastedNodes plus idFactory offset fragment) := by
  have moved : decodeFrom (fun node _ => remapNode plus (Dict.ofEntries
        (((sortByKey NodeModel.id fragment.nodes).map NodeModel.id).zip
          (issued idFactory 0 (sortByKey NodeModel.id fragment.nodes).length))) offset node) 0
        ((sortByKey NodeModel.id fragment.nodes).map id) =
      .ok (pastedNodes plus idFactory offset fragment) := by
    refine decodeFrom_map (fun node member _ => ?_) 0
    have own := List.mem_map_of_mem (f := NodeModel.id) ((mem_sortByKey NodeModel.id).mp member)
    rw [id, remapNode, renamed_nodeNames idFactory fragment own]
    rfl
  rwa [List.map_id] at moved

/-- Every connection is given its identifier, between the renamed nodes. -/
theorem remapped_connections :
    decodeFrom (fun (entry : ConnectionModel × Identifier) _ =>
        remapConnection (Dict.ofEntries
          (((sortByKey NodeModel.id fragment.nodes).map NodeModel.id).zip
            (issued idFactory 0 (sortByKey NodeModel.id fragment.nodes).length)))
          entry.1 entry.2) 0
        ((sortByKey ConnectionModel.id fragment.connections).zip
          (issued idFactory (sortByKey NodeModel.id fragment.nodes).length
            (sortByKey ConnectionModel.id fragment.connections).length)) =
      .ok (pastedConnections idFactory fragment) := by
  have paired : (sortByKey ConnectionModel.id fragment.connections).zip
      (issued idFactory (sortByKey NodeModel.id fragment.nodes).length
        (sortByKey ConnectionModel.id fragment.connections).length) =
      (sortByKey ConnectionModel.id fragment.connections).map (fun connection =>
        (connection, connectionNames idFactory fragment connection.id)) := by
    have names := map_connectionNames idFactory fragment
    rw [(sortByKey_perm NodeModel.id _).length_eq, (sortByKey_perm ConnectionModel.id _).length_eq,
      ← names, List.map_map]
    have zipped := List.zip_map' (f := fun connection : ConnectionModel => connection)
      (g := fun connection => connectionNames idFactory fragment connection.id)
      (l := sortByKey ConnectionModel.id fragment.connections)
    rwa [List.map_id'] at zipped
  rw [paired]
  refine decodeFrom_map (fun connection member _ => ?_) 0
  have ends := fragment.internal connection ((mem_sortByKey ConnectionModel.id).mp member)
  rw [remapConnection, renamed_nodeNames idFactory fragment ends.1,
    renamed_nodeNames idFactory fragment ends.2]
  rfl

end Paste

theorem exists_pasted (plus : PyFloat → PyFloat → PyFloat) {idFactory : Nat → Identifier}
    (offset : PyFloat × PyFloat) {fragment : ClipboardFragment}
    (fresh : FreshIds idFactory fragment) :
    ∃ pasted rename renameConnection,
      remapFragment plus idFactory offset fragment = .ok pasted ∧
      PastedFrom plus idFactory offset fragment pasted rename renameConnection := by
  have distinctNodes : ((pastedNodes plus idFactory offset fragment).map NodeModel.id).Nodup := by
    rw [pastedNodes_ids]
    exact fresh.nodup_issued 0 fragment.nodes.length (by omega)
  have distinctConnections :
      ((pastedConnections idFactory fragment).map ConnectionModel.id).Nodup := by
    rw [pastedConnections_ids]
    exact fresh.nodup_issued fragment.nodes.length fragment.connections.length le_rfl
  refine ⟨⟨pastedNodes plus idFactory offset fragment, pastedConnections idFactory fragment,
    distinctNodes, distinctConnections, pastedConnections_internal plus idFactory offset fragment⟩,
    nodeNames idFactory fragment, connectionNames idFactory fragment, ?_, ?_⟩
  · rw [remapFragment]
    simp only [bind, Except.bind, remapped_nodes, remapped_connections]
    exact makeFragment_ok distinctNodes distinctConnections _
  · refine ⟨(sortByKey_perm _ _).map _, (sortByKey_perm _ _).map _, bijOn_nodeNames fresh,
      bijOn_connectionNames fresh, ?_⟩
    intro id member
    dsimp only at member
    rw [pastedNodes_ids, pastedConnections_ids, List.mem_append, mem_issued, mem_issued] at member
    rcases member with ⟨call, within, rfl⟩ | ⟨call, within, rfl⟩
    · rw [Set.mem_ofPred_eq] at within
      exact fresh.unused call (by omega)
    · rw [Set.mem_ofPred_eq] at within
      exact fresh.unused call (by omega)

/-- Copying a selection, transferring a fragment and pasting it keep what they
are to keep. -/
theorem clipboard_preserves (library : JsonLibrary) (plus : PyFloat → PyFloat → PyFloat) :
    (∀ (snapshot : GraphSnapshot) (selectedNodeIds : List Identifier),
      (snapshot.nodes.map NodeModel.id).Nodup →
      (snapshot.connections.map ConnectionModel.id).Nodup →
      ∃ fragment, copyFragment snapshot selectedNodeIds = .ok fragment ∧
        CopiedFrom snapshot selectedNodeIds fragment) ∧
    (∀ fragment : ClipboardFragment, FiniteFragment fragment → WithinLimits fragment →
      ReadsBack library (.object (fragmentRecord fragment)) →
      (∀ text, fragmentToJson library fragment = .ok text →
        text.utf8ByteSize ≤ maxClipboardJsonBytes) →
      ∃ text loaded, fragmentToJson library fragment = .ok text ∧
        fragmentFromJson library text = .ok loaded ∧ SameFragment loaded fragment) ∧
    (∀ (idFactory : Nat → Identifier) (offset : PyFloat × PyFloat) (fragment : ClipboardFragment),
      FreshIds idFactory fragment →
      ∃ pasted rename renameConnection,
        remapFragment plus idFactory offset fragment = .ok pasted ∧
        PastedFrom plus idFactory offset fragment pasted rename renameConnection) :=
  ⟨fun _ selectedNodeIds nodesUnique connectionsUnique =>
      exists_copyFragment nodesUnique connectionsUnique selectedNodeIds,
    fun _ finite within readsBack fits => exists_transferred finite within readsBack fits,
    fun _ offset _ fresh => exists_pasted plus offset fresh⟩

/-! ## A copied graph -/

/-- The sum of two floats without rounding. -/
def exactSum : PyFloat → PyFloat → PyFloat
  | .finite left, .finite right => .finite (left + right)
  | .infinite left, .infinite right => if left = right then .infinite left else .nan
  | .infinite negative, .finite _ => .infinite negative
  | .finite _, .infinite negative => .infinite negative
  | _, _ => .nan

theorem edgesNodes_distinct : ([cropNode, convolveNode].map NodeModel.id).Nodup := by decide

theorem edgesConnection_internal : ∀ connection ∈ [edgesConnection],
    connection.sourceNodeId ∈ [cropNode, convolveNode].map NodeModel.id ∧
      connection.destinationNodeId ∈ [cropNode, convolveNode].map NodeModel.id :=
  List.forall_mem_singleton.mpr ⟨List.mem_cons_self, List.mem_cons_of_mem _ List.mem_cons_self⟩

def edgesFragment : ClipboardFragment where
  nodes := [cropNode, convolveNode]
  connections := [edgesConnection]
  distinctNodes := edgesNodes_distinct
  distinctConnections := List.nodup_singleton _
  internal := edgesConnection_internal

def edgesFragmentText : String :=
  joinParts ""
    ["\x7b\"connections\":[\x7b\"destination_node_id\":\"00000000-0000-0000-0000-000000000003\",",
      "\"destination_port_id\":\"image\",\"id\":\"00000000-0000-0000-0000-000000000004\",",
      "\"source_node_id\":\"00000000-0000-0000-0000-000000000002\",",
      "\"source_port_id\":\"image\",\"ui_state\":\x7b\x7d\x7d],\"fragment_version\":2,",
      "\"nodes\":[\x7b\"collapsed\":false,\"id\":\"00000000-0000-0000-0000-000000000002\",",
      "\"implementation_version\":1,",
      "\"parameters\":\x7b\"pad_colour\":\x7b\"$type\":\"COLOR\",\"a\":1.0,\"b\":1.0,",
      "\"g\":0.5,\"r\":0.0\x7d\x7d,\"position\":[0.0,0.0],\"size\":null,",
      "\"type_id\":\"synmachine.image.crop\",\"ui_state\":\x7b\x7d,\"user_label\":null\x7d,",
      "\x7b\"collapsed\":false,\"id\":\"00000000-0000-0000-0000-000000000003\",",
      "\"implementation_version\":1,\"parameters\":\x7b\"kernel\":[[-1.0,0.0,1.0]]\x7d,",
      "\"position\":[320.0,0.0],\"size\":null,\"type_id\":\"synmachine.image.convolve\","]
    "\"ui_state\":\x7b\x7d,\"user_label\":\"Edges\"\x7d]\x7d"

/-- The library on the fragment and on its text. -/
def edgesFragmentLibrary : JsonLibrary where
  dumps _ := .ok edgesFragmentText
  loads _ := .ok (JsonValue.object (fragmentRecord edgesFragment)).sorted

theorem edgesFragmentText_fits : edgesFragmentText.utf8ByteSize ≤ maxClipboardJsonBytes := by
  rw [edgesFragmentText, utf8ByteSize_joinParts]
  decide +kernel

theorem edgesFragment_finite : FiniteFragment edgesFragment where
  positions := List.forall_mem_cons.mpr
    ⟨cropNode_loadable.position, List.forall_mem_singleton.mpr convolveNode_loadable.position⟩
  sizes := List.forall_mem_cons.mpr
    ⟨cropNode_loadable.size, List.forall_mem_singleton.mpr convolveNode_loadable.size⟩
  parameters := List.forall_mem_cons.mpr
    ⟨cropNode_loadable.parameters,
      List.forall_mem_singleton.mpr convolveNode_loadable.parameters⟩
  uiStates := List.forall_mem_cons.mpr
    ⟨cropNode_loadable.uiState, List.forall_mem_singleton.mpr convolveNode_loadable.uiState⟩
  connections := List.forall_mem_singleton.mpr (List.forall_mem_nil _)

theorem edgesFragment_fresh : FreshIds (fun call => Fin.ofNat (2 ^ 128) (call + 7))
    edgesFragment where
  distinct := by
    intro first second firstBound secondBound same
    have three : edgesFragment.nodes.length + edgesFragment.connections.length = 3 := rfl
    have values := congrArg Fin.val same
    simp only [Fin.val_ofNat] at values
    omega
  unused := by decide +kernel

/-- The graph is copied, read back and pasted. -/
theorem clipboard_preserves_edgesGraph :
    (∃ fragment, copyFragment edgesGraph [2, 3] = .ok fragment ∧
      CopiedFrom edgesGraph [2, 3] fragment) ∧
    (∃ text loaded, fragmentToJson edgesFragmentLibrary edgesFragment = .ok text ∧
      fragmentFromJson edgesFragmentLibrary text = .ok loaded ∧
      SameFragment loaded edgesFragment) ∧
    ∃ pasted rename renameConnection, remapFragment exactSum
        (fun call => Fin.ofNat (2 ^ 128) (call + 7)) (.finite 32, .finite 32) edgesFragment =
          .ok pasted ∧
      PastedFrom exactSum (fun call => Fin.ofNat (2 ^ 128) (call + 7)) (.finite 32, .finite 32)
        edgesFragment pasted rename renameConnection := by
  have law := clipboard_preserves edgesFragmentLibrary exactSum
  refine ⟨law.1 edgesGraph [2, 3] edgesNodes_distinct (List.nodup_singleton _),
    law.2.1 edgesFragment edgesFragment_finite ⟨by decide, by decide⟩
      (fun _ => ⟨edgesFragmentText, rfl, rfl⟩) ?_,
    law.2.2 _ (.finite 32, .finite 32) edgesFragment edgesFragment_fresh⟩
  intro text written
  cases written
  exact edgesFragmentText_fits

end Persistence
end Synesthesia
