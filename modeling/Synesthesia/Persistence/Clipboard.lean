import Synesthesia.Persistence.GraphIo
import Synesthesia.Ui.GraphCommands

namespace Synesthesia
namespace Persistence

open Foundation Contracts
open Ui (ClipboardFragment)

/-!
# Clipboard fragments

`persistence/clipboard.py`: a selection with its internal edges, its versioned
JSON text, and the renaming by which a fragment is pasted.  Every fragment has
the current version.
-/

def clipboardFragmentVersion : Int := 2

def supportedClipboardFragmentVersions : List Int := [1, clipboardFragmentVersion]

def maxClipboardJsonBytes : Nat := 8 * 1024 * 1024

def maxClipboardNodes : Nat := 5000

def maxClipboardConnections : Nat := 25000

/-- The constructor of a fragment of the current version. -/
def makeFragment (nodes : List NodeModel) (connections : List ConnectionModel) :
    Except PyError ClipboardFragment :=
  if distinctNodes : (nodes.map NodeModel.id).Nodup then
    if distinctConnections : (connections.map ConnectionModel.id).Nodup then
      if internal : ∀ connection ∈ connections,
          connection.sourceNodeId ∈ nodes.map NodeModel.id ∧
            connection.destinationNodeId ∈ nodes.map NodeModel.id then
        .ok ⟨nodes, connections, distinctNodes, distinctConnections, internal⟩
      else .error (.valueError "Clipboard fragment connections must be internal")
    else .error (.valueError "Clipboard fragment contains duplicate connection IDs")
  else .error (.valueError "Clipboard fragment contains duplicate node IDs")

/-! ## Copying -/

/-- The selected nodes, and the connections with both ends among them. -/
def copyFragment (snapshot : GraphSnapshot) (selectedNodeIds : List Identifier) :
    Except PyError ClipboardFragment :=
  let nodes := snapshot.nodes.filter (fun node => decide (node.id ∈ selectedNodeIds))
  let present := nodes.map NodeModel.id
  let connections := snapshot.connections.filter (fun connection =>
    decide (connection.sourceNodeId ∈ present ∧ connection.destinationNodeId ∈ present))
  makeFragment nodes connections

/-! ## Renaming -/

section Remap

variable (plus : PyFloat → PyFloat → PyFloat) (idFactory : Nat → Identifier)

/-- The results of successive calls of the factory. -/
def issued (start count : Nat) : List Identifier := (List.range' start count).map idFactory

/-- `node_ids[...]`. -/
def renamed (nodeIds : Dict Identifier Identifier) (id : Identifier) :
    Except PyError Identifier :=
  match nodeIds.get? id with
  | some fresh => .ok fresh
  | none => .error (.keyError (uuidText id.val))

def remapNode (nodeIds : Dict Identifier Identifier) (offset : PyFloat × PyFloat)
    (node : NodeModel) : Except PyError NodeModel := do
  let id ← renamed nodeIds node.id
  return { node with
    id := id
    position := (plus node.position.1 offset.1, plus node.position.2 offset.2) }

def remapConnection (nodeIds : Dict Identifier Identifier) (connection : ConnectionModel)
    (id : Identifier) : Except PyError ConnectionModel := do
  let sourceNodeId ← renamed nodeIds connection.sourceNodeId
  let destinationNodeId ← renamed nodeIds connection.destinationNodeId
  return { connection with
    id := id
    sourceNodeId := sourceNodeId
    destinationNodeId := destinationNodeId }

/-- The factory is called for the nodes first, in the order of their
identifiers, then for the connections.  `plus` adds floats. -/
def remapFragment (offset : PyFloat × PyFloat) (fragment : ClipboardFragment) :
    Except PyError ClipboardFragment := do
  let sortedNodes := sortByKey NodeModel.id fragment.nodes
  let sortedConnections := sortByKey ConnectionModel.id fragment.connections
  let nodeIds := Dict.ofEntries
    ((sortedNodes.map NodeModel.id).zip (issued idFactory 0 sortedNodes.length))
  let nodes ← decodeFrom (fun node _ => remapNode plus nodeIds offset node) 0 sortedNodes
  let connections ← decodeFrom (fun (entry : ConnectionModel × Identifier) _ =>
    remapConnection nodeIds entry.1 entry.2) 0
      (sortedConnections.zip (issued idFactory sortedNodes.length sortedConnections.length))
  makeFragment nodes connections

end Remap

/-! ## Encoding -/

/-- `_node_to_data`. -/
def clipboardNodeRecord (node : NodeModel) : JsonObject :=
  [("id", uuidToData node.id), ("type_id", .str node.typeId),
    ("implementation_version", .int node.implementationVersion),
    ("parameters", .object (literalMappingToData node.parameters)),
    ("position", pairToData node.position),
    ("size", (node.size.map pairToData).getD .null),
    ("user_label", (node.userLabel.map JsonValue.str).getD .null),
    ("collapsed", .bool node.collapsed),
    ("ui_state", .object (literalMappingToData node.uiState))]

def fragmentRecord (fragment : ClipboardFragment) : JsonObject :=
  [("fragment_version", .int clipboardFragmentVersion),
    ("nodes", .list ((sortByKey NodeModel.id fragment.nodes).map (fun node =>
      .object (clipboardNodeRecord node)))),
    ("connections", .list ((sortByKey ConnectionModel.id fragment.connections).map
      connectionToData))]

/-- `fragment_to_json`; `dumps` sorts keys and refuses infinite numbers and NaNs. -/
def fragmentToJson (library : JsonLibrary) (fragment : ClipboardFragment) :
    Except PyError String :=
  library.dumps (.object (fragmentRecord fragment))

/-! ## Decoding -/

section Decoding

def clipboardObject (value : JsonValue) (path : String) : Except PyError JsonObject :=
  match value with
  | .object fields => .ok fields
  | _ => .error (.valueError (path ++ " must be an object"))

def clipboardList (value : JsonValue) (path : String) : Except PyError (List JsonValue) :=
  match value with
  | .list items => .ok items
  | _ => .error (.valueError (path ++ " must be an array"))

def clipboardString (value : JsonValue) (path : String) : Except PyError String :=
  match value with
  | .str text => .ok text
  | _ => .error (.valueError (path ++ " must be a string"))

/-- Whatever is wrong with an identifier, the message is one. -/
def clipboardUuid (value : JsonValue) (path : String) : Except PyError Identifier :=
  match value with
  | .str text =>
      match parseUuid text with
      | some id => .ok id
      | none => .error (.valueError (path ++ " must be a UUID"))
  | _ => .error (.valueError (path ++ " must be a UUID"))

/-- `_literal_failure`. -/
def literalFailure {Value : Type} : Except LiteralDecodeError Value → Except PyError Value
  | .ok value => .ok value
  | .error error => .error (.valueError (error.path ++ ": " ++ error.message))

def clipboardNumber (value : JsonValue) (path : String) : Except PyError ℚ :=
  literalFailure (number value path)

def clipboardPair (value : JsonValue) (path : String) : Except PyError (ℚ × ℚ) := do
  let items ← clipboardList value path
  match items with
  | [first, second] => do
      let left ← clipboardNumber first (entryPath path 0)
      let right ← clipboardNumber second (entryPath path 1)
      return (left, right)
  | _ => .error (.valueError (path ++ " must have two numbers"))

def clipboardSize (value : JsonValue) (path : String) : Except PyError (Option (ℚ × ℚ)) :=
  match value with
  | .null => .ok none
  | other => (clipboardPair other path).map some

def clipboardLiteralMapping (value : JsonValue) (path : String) :
    Except PyError (Dict String LiteralValue) :=
  literalFailure (literalMapping value path)

def clipboardNodeKeys : List String :=
  ["id", "type_id", "implementation_version", "parameters", "position", "size", "user_label",
    "collapsed", "ui_state"]

def clipboardVersion (value : JsonValue) (path : String) : Except PyError Int :=
  match value with
  | .int version => .ok version
  | _ => .error (.valueError (path ++ ".implementation_version must be an integer"))

def clipboardLabel (value : JsonValue) (path : String) : Except PyError (Option String) :=
  match value with
  | .null => .ok none
  | .str text => .ok (some text)
  | _ => .error (.valueError (path ++ ".user_label must be a string or null"))

def clipboardCollapsed (value : JsonValue) (path : String) : Except PyError Bool :=
  match value with
  | .bool collapsed => .ok collapsed
  | _ => .error (.valueError (path ++ ".collapsed must be a boolean"))

/-- The arguments of the constructor in turn, then its check. -/
def clipboardNode (data : JsonObject) (path : String) (version : Int) (label : Option String)
    (collapsed : Bool) : Except PyError NodeModel := do
  let id ← clipboardUuid (field data "id") (path ++ ".id")
  let typeId ← clipboardString (field data "type_id") (path ++ ".type_id")
  let parameters ← clipboardLiteralMapping (field data "parameters") (path ++ ".parameters")
  let position ← clipboardPair (field data "position") (path ++ ".position")
  let size ← clipboardSize (field data "size") (path ++ ".size")
  let uiState ← clipboardLiteralMapping (field data "ui_state") (path ++ ".ui_state")
  if positive : 1 ≤ version.toNat then
    return ⟨id, typeId, version.toNat, parameters, finitePair position, size.map finitePair, label,
      collapsed, uiState, positive⟩
  else .error (.valueError "implementation_version must be at least 1")

def clipboardNodeFromData (value : JsonValue) (index : Nat) : Except PyError NodeModel := do
  let path := entryPath "$.nodes" index
  let data ← clipboardObject value path
  if sameKeys clipboardNodeKeys data = false then
    .error (.valueError (path ++ " fields do not match version 1"))
  else do
    let version ← clipboardVersion (field data "implementation_version") path
    let label ← clipboardLabel (field data "user_label") path
    let collapsed ← clipboardCollapsed (field data "collapsed") path
    clipboardNode data path version label collapsed

/-- UI state came with the second version. -/
def clipboardConnectionKeys (version : Int) : List String :=
  ["id", "source_node_id", "source_port_id", "destination_node_id", "destination_port_id"] ++
    (if 2 ≤ version then ["ui_state"] else [])

def clipboardConnectionFromData (version : Int) (value : JsonValue) (index : Nat) :
    Except PyError ConnectionModel := do
  let path := entryPath "$.connections" index
  let data ← clipboardObject value path
  if sameKeys (clipboardConnectionKeys version) data = false then
    .error (.valueError (path ++ " fields do not match version " ++ toString version))
  else do
    let id ← clipboardUuid (field data "id") (path ++ ".id")
    let sourceNodeId ← clipboardUuid (field data "source_node_id") (path ++ ".source_node_id")
    let sourcePortId ← clipboardString (field data "source_port_id") (path ++ ".source_port_id")
    let destinationNodeId ← clipboardUuid (field data "destination_node_id")
      (path ++ ".destination_node_id")
    let destinationPortId ← clipboardString (field data "destination_port_id")
      (path ++ ".destination_port_id")
    let uiState ← if 2 ≤ version then
        clipboardLiteralMapping (field data "ui_state") (path ++ ".ui_state")
      else .ok Dict.empty
    return ⟨id, sourceNodeId, sourcePortId, destinationNodeId, destinationPortId, uiState⟩

def fragmentVersion (value : JsonValue) : Except PyError Int :=
  match value with
  | .int version =>
      if version ∈ supportedClipboardFragmentVersions then .ok version
      else .error (.valueError ("Unsupported clipboard fragment version: " ++ toString version))
  | _ => .error (.valueError "Clipboard fragment version must be an integer")

def fragmentFromData (value : JsonValue) : Except PyError ClipboardFragment := do
  let data ← clipboardObject value "$"
  if sameKeys ["fragment_version", "nodes", "connections"] data = false then
    .error (.valueError "Clipboard fragment fields do not match the supported format")
  else do
    let version ← fragmentVersion (field data "fragment_version")
    let rawNodes ← clipboardList (field data "nodes") "$.nodes"
    let rawConnections ← clipboardList (field data "connections") "$.connections"
    if maxClipboardNodes < rawNodes.length then
      .error (.valueError "Clipboard fragment contains more than 5,000 nodes")
    else if maxClipboardConnections < rawConnections.length then
      .error (.valueError "Clipboard fragment contains more than 25,000 connections")
    else do
      let nodes ← decodeFrom clipboardNodeFromData 0 rawNodes
      let connections ← decodeFrom (clipboardConnectionFromData version) 0 rawConnections
      makeFragment nodes connections

/-- `fragment_from_json`; a text is valid UTF-8. -/
def fragmentFromJson (library : JsonLibrary) (text : String) : Except PyError ClipboardFragment :=
  if maxClipboardJsonBytes < text.utf8ByteSize then
    .error (.valueError "Clipboard JSON exceeds the 8 MiB limit")
  else
    match library.loads text with
    | .error (.decodeError message _ _) =>
        .error (.valueError ("Invalid clipboard JSON: " ++ message))
    | .error .recursionError => .error (.valueError "Invalid clipboard JSON: nested too deeply")
    | .error (.valueError message) => .error (.valueError message)
    | .ok value => fragmentFromData value

end Decoding

end Persistence
end Synesthesia
