import Synesthesia.Persistence.NodeMigrations
import Synesthesia.Persistence.Snapshot

namespace Synesthesia
namespace Persistence

open Foundation Contracts

/-!
# Graph files

`persistence/graph_io.py`: snapshots as JSON data and text, and the loader that
migrates and validates data before it builds a snapshot.
-/

/-! ## Errors -/

structure GraphPersistenceError where
  code : String
  message : String
  path : Option String
deriving DecidableEq

/-- `str(error)`. -/
def GraphPersistenceError.text (error : GraphPersistenceError) : String :=
  match error.path with
  | some path => error.code ++ " at " ++ path ++ ": " ++ error.message
  | none => error.code ++ ": " ++ error.message

/-- The loader raises its own error, or another one escapes from it. -/
inductive LoadError where
  | persistence (error : GraphPersistenceError)
  | escaped (error : PyError)
deriving DecidableEq

def refuse {Value : Type} (code message path : String) : Except LoadError Value :=
  .error (.persistence ⟨code, message, some path⟩)

/-- `except ValueError`: every other exception escapes. -/
def catchValueError {Value : Type} (code : String) (path : Option String) :
    Except PyError Value → Except LoadError Value
  | .ok value => .ok value
  | .error (.valueError message) => .error (.persistence ⟨code, message, path⟩)
  | .error other => .error (.escaped other)

def fromLiteral {Value : Type} :
    Except LiteralDecodeError Value → Except LoadError Value
  | .ok value => .ok value
  | .error error => refuse error.kind error.message error.path

/-! ## Encoding -/

def pairToData (pair : PyFloat × PyFloat) : JsonValue := .list [.float pair.1, .float pair.2]

def uuidToData (id : Identifier) : JsonValue := .str (uuidText id.val)

def nodeRecord (node : NodeModel) : JsonObject :=
  [("id", uuidToData node.id), ("type_id", .str node.typeId),
    ("implementation_version", .int node.implementationVersion),
    ("position", pairToData node.position),
    ("size", (node.size.map pairToData).getD .null),
    ("parameters", .object (literalMappingToData node.parameters)),
    ("ui_state", .object (literalMappingToData node.uiState)),
    ("user_label", (node.userLabel.map JsonValue.str).getD .null),
    ("collapsed", .bool node.collapsed)]

def nodeToData (node : NodeModel) : JsonValue := .object (nodeRecord node)

def connectionRecord (connection : ConnectionModel) : JsonObject :=
  [("id", uuidToData connection.id),
    ("source_node_id", uuidToData connection.sourceNodeId),
    ("source_port_id", .str connection.sourcePortId),
    ("destination_node_id", uuidToData connection.destinationNodeId),
    ("destination_port_id", .str connection.destinationPortId),
    ("ui_state", .object (literalMappingToData connection.uiState))]

def connectionToData (connection : ConnectionModel) : JsonValue :=
  .object (connectionRecord connection)

def finitePair (pair : ℚ × ℚ) : PyFloat × PyFloat := (.finite pair.1, .finite pair.2)

def groupRecord (group : GroupModel) : JsonObject :=
  [("id", uuidToData group.id), ("kind", .str group.kind.text), ("title", .str group.title),
    ("text", .str group.text), ("position", pairToData (finitePair group.position)),
    ("size", pairToData (finitePair group.size)), ("color", .str group.color)]

def groupToData (group : GroupModel) : JsonValue := .object (groupRecord group)

/-- The text of an identifier has a fixed width, so its order is that of the number. -/
def graphToData (snapshot : GraphSnapshot) : JsonObject :=
  [("schema_version", .int graphSchemaVersion),
    ("application_version", .str applicationVersion),
    ("document_id", uuidToData snapshot.documentId),
    ("nodes", .list ((sortByKey NodeModel.id snapshot.nodes).map nodeToData)),
    ("connections",
      .list ((sortByKey ConnectionModel.id snapshot.connections).map connectionToData)),
    ("groups", .list ((sortByKey GroupModel.id snapshot.groups).map groupToData)),
    ("document_settings", .object (literalMappingToData snapshot.documentSettings)),
    ("ui_state", .object [])]

def graphToJson (library : JsonLibrary) (snapshot : GraphSnapshot) : Except PyError String :=
  (library.dumps (.object (graphToData snapshot))).map (fun text => text ++ "\n")

/-! ## Expectations -/

def expectObject (value : JsonValue) (path : String) : Except LoadError JsonObject :=
  match value with
  | .object fields => .ok fields
  | _ => refuse "invalid_type" "Expected JSON object" path

def expectList (value : JsonValue) (path : String) : Except LoadError (List JsonValue) :=
  match value with
  | .list items => .ok items
  | _ => refuse "invalid_type" "Expected JSON array" path

def expectStr (value : JsonValue) (path : String) : Except LoadError String :=
  match value with
  | .str text => .ok text
  | _ => refuse "invalid_type" "Expected string" path

def expectBool (value : JsonValue) (path : String) : Except LoadError Bool :=
  match value with
  | .bool value => .ok value
  | _ => refuse "invalid_type" "Expected boolean" path

def expectInt (value : JsonValue) (path : String) (minimum : Nat) : Except LoadError Nat :=
  match value with
  | .int value =>
      if value < minimum then
        refuse "invalid_type"
          ("Expected integer greater than or equal to " ++ toString minimum) path
      else .ok value.toNat
  | _ =>
      refuse "invalid_type" ("Expected integer greater than or equal to " ++ toString minimum) path

def expectUuid (value : JsonValue) (path : String) : Except LoadError Identifier := do
  let text ← expectStr value path
  match parseUuid text with
  | some id => .ok id
  | none => refuse "invalid_uuid" ("Invalid UUID " ++ quoted text) path

def expectNumber (value : JsonValue) (path : String) : Except LoadError ℚ :=
  fromLiteral (number value path)

def expectPair (value : JsonValue) (path : String) : Except LoadError (ℚ × ℚ) := do
  let items ← expectList value path
  match items with
  | [first, second] => do
      let left ← expectNumber first (entryPath path 0)
      let right ← expectNumber second (entryPath path 1)
      return (left, right)
  | _ => refuse "invalid_shape" "Expected exactly two numbers" path

def expectLiteralMapping (value : JsonValue) (path : String) :
    Except LoadError (Dict String LiteralValue) :=
  fromLiteral (literalMapping value path)

def missingKeys (data : JsonObject) (expected : List String) : List String :=
  sortByKey id (expected.filter (fun key => (Dict.lookup key data).isNone))

def unknownKeys (data : JsonObject) (expected : List String) : List String :=
  sortByKey id ((data.map Prod.fst).filter (fun key => key ∉ expected))

def requireExactKeys (data : JsonObject) (expected : List String) (path : String) :
    Except LoadError Unit :=
  if missingKeys data expected ≠ [] then
    refuse "missing_field"
      ("Missing fields: " ++ ", ".intercalate (missingKeys data expected)) path
  else if unknownKeys data expected ≠ [] then
    refuse "unknown_field"
      ("Unknown fields: " ++ ", ".intercalate (unknownKeys data expected)) path
  else .ok ()

def validateEmptyObject (value : JsonValue) (path : String) : Except LoadError Unit :=
  match value with
  | .object [] => .ok ()
  | .object _ => refuse "unsupported_content" "This reserved field must remain empty" path
  | _ => refuse "invalid_type" "Expected JSON object" path

/-! ## Limits -/

def maxGraphJsonBytes : Nat := 16 * 1024 * 1024

def maxGraphNodes : Nat := 10000

def maxGraphConnections : Nat := 50000

def maxGraphGroups : Nat := 5000

/-- One of the limits, with its value as it is written. -/
def validateLimit (data : JsonObject) (key : String) (limit : Nat) (written : String) :
    Except LoadError Unit :=
  match Dict.lookup key data with
  | some (.list items) =>
      if limit < items.length then
        refuse "too_many_items" ("Graph contains more than " ++ written ++ " " ++ key) ("$." ++ key)
      else .ok ()
  | _ => .ok ()

def validateCollectionLimits (data : JsonObject) : Except LoadError Unit := do
  validateLimit data "nodes" maxGraphNodes "10,000"
  validateLimit data "connections" maxGraphConnections "50,000"
  validateLimit data "groups" maxGraphGroups "5,000"

def ensureUniqueIds (ids : List Identifier) (kind path : String) : Except LoadError Unit :=
  if ids.Nodup then .ok () else refuse "duplicate_id" ("Duplicate " ++ kind ++ " ID") path

/-- The missing ends of a connection. -/
def missingEnds (nodeIds : List Identifier) (connection : ConnectionModel) : List Identifier :=
  [connection.sourceNodeId, connection.destinationNodeId].filter (fun id => id ∉ nodeIds)

def ensureConnectionEndpoints (nodeIds : List Identifier) :
    Nat → List ConnectionModel → Except LoadError Unit
  | _, [] => .ok ()
  | index, connection :: rest =>
      if missingEnds nodeIds connection ≠ [] then
        refuse "dangling_connection" ("Connection references missing node ID(s): " ++
          ", ".intercalate ((missingEnds nodeIds connection).map (fun id => uuidText id.val)))
          (entryPath "$.connections" index)
      else ensureConnectionEndpoints nodeIds (index + 1) rest

/-! ## Decoding -/

def nodeKeys : List String :=
  ["id", "type_id", "implementation_version", "position", "size", "parameters", "ui_state",
    "user_label", "collapsed"]

def optionalSize (value : JsonValue) (path : String) : Except LoadError (Option (ℚ × ℚ)) :=
  match value with
  | .null => .ok none
  | other => (expectPair other path).map some

def optionalLabel (value : JsonValue) (path : String) : Except LoadError (Option String) :=
  match value with
  | .null => .ok none
  | .str text => .ok (some text)
  | _ => refuse "invalid_type" "Expected string or null" path

/-- A node whose version is the registered one. -/
def nodeFields (typeId : String) (definition : RegisteredNode) (data : JsonObject)
    (path : String) : Except LoadError NodeModel := do
  let position ← expectPair (field data "position") (path ++ ".position")
  let size ← optionalSize (field data "size") (path ++ ".size")
  let userLabel ← optionalLabel (field data "user_label") (path ++ ".user_label")
  let id ← expectUuid (field data "id") (path ++ ".id")
  let parameters ← expectLiteralMapping (field data "parameters") (path ++ ".parameters")
  let collapsed ← expectBool (field data "collapsed") (path ++ ".collapsed")
  let uiState ← expectLiteralMapping (field data "ui_state") (path ++ ".ui_state")
  return ⟨id, typeId, definition.implementationVersion, parameters, finitePair position,
    size.map finitePair, userLabel, collapsed, uiState, definition.positive⟩

/-- The error for a version that is not the registered one; writing the version
out may fail itself. -/
def unsupportedVersion (interpreter : Interpreter) (typeId : String) (definition : RegisteredNode)
    (version : Nat) (path : String) : Except LoadError NodeModel :=
  match formatInt interpreter version with
  | .error error => .error (.escaped error)
  | .ok text => refuse "unsupported_node_version" (quoted typeId ++ " version " ++ text ++
      " is not supported; expected " ++ toString definition.implementationVersion) path

/-- A node that has been migrated where that was needed. -/
def nodeFromCurrent (interpreter : Interpreter) (typeId : String) (definition : RegisteredNode)
    (path : String) (data : JsonObject) : Except LoadError NodeModel := do
  requireExactKeys data nodeKeys path
  let version ← expectInt (field data "implementation_version")
    (path ++ ".implementation_version") 1
  if version ≠ definition.implementationVersion then
    unsupportedVersion interpreter typeId definition version path
  else nodeFields typeId definition data path

/-- Data of an older version is migrated first. -/
def currentNodeData (interpreter : Interpreter) (typeId : String) (definition : RegisteredNode)
    (path : String) (version : Nat) (data : JsonObject) : Except LoadError JsonObject :=
  if version < definition.implementationVersion then
    catchValueError "node_migration_failed" (some path) (migrateNodeData interpreter typeId
      definition.migrations data definition.implementationVersion)
  else .ok data

def nodeFromData (interpreter : Interpreter) (registry : NodeRegistry) (value : JsonValue)
    (index : Nat) : Except LoadError NodeModel := do
  let path := entryPath "$.nodes" index
  let data ← expectObject value path
  let typeId ← expectStr (field data "type_id") (path ++ ".type_id")
  match registry typeId with
  | none => refuse "unknown_node_type" ("Unknown node type " ++ quoted typeId) path
  | some definition => do
      let version ← expectInt (field data "implementation_version")
        (path ++ ".implementation_version") 0
      let current ← currentNodeData interpreter typeId definition path version data
      nodeFromCurrent interpreter typeId definition path current

def connectionKeys : List String :=
  ["id", "source_node_id", "source_port_id", "destination_node_id", "destination_port_id",
    "ui_state"]

def connectionFromData (value : JsonValue) (index : Nat) : Except LoadError ConnectionModel := do
  let path := entryPath "$.connections" index
  let data ← expectObject value path
  requireExactKeys data connectionKeys path
  let id ← expectUuid (field data "id") (path ++ ".id")
  let sourceNodeId ← expectUuid (field data "source_node_id") (path ++ ".source_node_id")
  let sourcePortId ← expectStr (field data "source_port_id") (path ++ ".source_port_id")
  let destinationNodeId ← expectUuid (field data "destination_node_id")
    (path ++ ".destination_node_id")
  let destinationPortId ← expectStr (field data "destination_port_id")
    (path ++ ".destination_port_id")
  let uiState ← expectLiteralMapping (field data "ui_state") (path ++ ".ui_state")
  return ⟨id, sourceNodeId, sourcePortId, destinationNodeId, destinationPortId, uiState⟩

def groupKeys : List String := ["id", "kind", "title", "text", "position", "size", "color"]

def groupKind (text path : String) : Except LoadError GroupKind :=
  if text = GroupKind.group.text then .ok .group
  else if text = GroupKind.comment.text then .ok .comment
  else refuse "invalid_value" "Expected one of: GROUP, COMMENT" path

/-- The arguments of the constructor in turn. -/
def groupFields (kind : GroupKind) (data : JsonObject) (path : String) :
    Except LoadError GroupModel := do
  let id ← expectUuid (field data "id") (path ++ ".id")
  let title ← expectStr (field data "title") (path ++ ".title")
  let text ← expectStr (field data "text") (path ++ ".text")
  let position ← expectPair (field data "position") (path ++ ".position")
  let size ← expectPair (field data "size") (path ++ ".size")
  let color ← expectStr (field data "color") (path ++ ".color")
  catchValueError "invalid_value" (some path) (makeGroup id kind title text position size color)

/-- The loader's own error is a `ValueError`, so it is caught and wrapped. -/
def wrapGroupError (path : String) :
    Except LoadError GroupModel → Except LoadError GroupModel
  | .error (.persistence error) => refuse "invalid_value" error.text path
  | other => other

def groupFromData (value : JsonValue) (index : Nat) : Except LoadError GroupModel := do
  let path := entryPath "$.groups" index
  let data ← expectObject value path
  requireExactKeys data groupKeys path
  let kindValue ← expectStr (field data "kind") (path ++ ".kind")
  let kind ← groupKind kindValue (path ++ ".kind")
  wrapGroupError path (groupFields kind data path)

/-! ## Graphs -/

def graphKeys : List String :=
  ["schema_version", "application_version", "document_id", "nodes", "connections", "groups",
    "document_settings", "ui_state"]

/-- What a graph file says beside its nodes and connections. -/
structure GraphHeader where
  documentId : Identifier
  groups : List GroupModel
  settings : Dict String LiteralValue

def headerFromData (migrated : JsonObject) : Except LoadError GraphHeader := do
  requireExactKeys migrated graphKeys "$"
  let _ ← expectInt (field migrated "schema_version") "$.schema_version" 1
  let _ ← expectStr (field migrated "application_version") "$.application_version"
  let documentId ← expectUuid (field migrated "document_id") "$.document_id"
  let rawGroups ← expectList (field migrated "groups") "$.groups"
  let groups ← decodeFrom groupFromData 0 rawGroups
  ensureUniqueIds (groups.map GroupModel.id) "group" "$.groups"
  validateEmptyObject (field migrated "ui_state") "$.ui_state"
  let settings ← expectLiteralMapping (field migrated "document_settings") "$.document_settings"
  return ⟨documentId, groups, settings⟩

def nodesFromData (interpreter : Interpreter) (registry : NodeRegistry) (migrated : JsonObject) :
    Except LoadError (List NodeModel) := do
  let rawNodes ← expectList (field migrated "nodes") "$.nodes"
  let nodes ← decodeFrom (nodeFromData interpreter registry) 0 rawNodes
  ensureUniqueIds (nodes.map NodeModel.id) "node" "$.nodes"
  return nodes

def connectionsFromData (migrated : JsonObject) (nodes : List NodeModel) :
    Except LoadError (List ConnectionModel) := do
  let rawConnections ← expectList (field migrated "connections") "$.connections"
  let connections ← decodeFrom connectionFromData 0 rawConnections
  ensureUniqueIds (connections.map ConnectionModel.id) "connection" "$.connections"
  ensureConnectionEndpoints (nodes.map NodeModel.id) 0 connections
  return connections

/-- Validate migrated data and build the snapshot. -/
def graphFromMigrated (interpreter : Interpreter) (registry : NodeRegistry)
    (migrated : JsonObject) : Except LoadError GraphSnapshot := do
  validateCollectionLimits migrated
  let header ← headerFromData migrated
  let nodes ← nodesFromData interpreter registry migrated
  let connections ← connectionsFromData migrated nodes
  return {
    documentId := header.documentId
    revision := 0
    nodes := sortByKey NodeModel.id nodes
    connections := sortByKey ConnectionModel.id connections
    documentSettings := header.settings
    groups := sortByKey GroupModel.id header.groups }

def graphFromData (interpreter : Interpreter) (registry : NodeRegistry) (data : JsonObject) :
    Except LoadError GraphSnapshot := do
  validateCollectionLimits data
  let migrated ← catchValueError "migration_failed" none (migrateGraphData interpreter data)
  graphFromMigrated interpreter registry migrated

def graphFromJsonUnchecked (library : JsonLibrary) (interpreter : Interpreter)
    (registry : NodeRegistry) (text : String) : Except LoadError GraphSnapshot :=
  match library.loads text with
  | .error (.decodeError message line column) =>
      refuse "invalid_json" message ("line " ++ toString line ++ ", column " ++ toString column)
  | .error .recursionError =>
      .error (.persistence ⟨"invalid_json", "Graph JSON is nested too deeply", none⟩)
  | .error (.valueError message) => .error (.escaped (.valueError message))
  | .ok value => do
      let data ← expectObject value "$"
      graphFromData interpreter registry data

def graphFromJson (library : JsonLibrary) (interpreter : Interpreter) (registry : NodeRegistry)
    (text : String) : Except LoadError GraphSnapshot :=
  if maxGraphJsonBytes < text.utf8ByteSize then
    .error (.persistence ⟨"graph_too_large", "Graph JSON exceeds the 16 MiB limit", none⟩)
  else graphFromJsonUnchecked library interpreter registry text

end Persistence
end Synesthesia
