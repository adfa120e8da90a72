import Synesthesia.Foundation.JsonValues

namespace Synesthesia
namespace Persistence

open Foundation

/-!
# Graph schemas and their migrations

`persistence/schemas.py`: data of an older schema is migrated step by step
before anything in it has been checked.  Containers are values here, so the
copies that protect the caller's data show only where they fail: at a nesting
that the interpreter's stack does not hold.
-/

/-! ## The interpreter -/

/-- The limits of the running interpreter: the nesting that `_copy_json_value`
and `deepcopy` can follow, and the digits of an integer that is written out.
One bound stands for call sites that differ by a stack frame.  Every graph that
is written here can be copied. -/
structure Interpreter where
  copyNesting : Nat
  deepcopyNesting : Nat
  maxStrDigits : Nat
  roomy : 5 ≤ copyNesting ∧ 5 ≤ deepcopyNesting

def recursionError : PyError := .runtimeError "maximum recursion depth exceeded"

/-- `str(value)` of an integer. -/
def formatInt (interpreter : Interpreter) (value : Int) : Except PyError String :=
  if value.natAbs < 10 ^ interpreter.maxStrDigits then .ok (toString value)
  else .error (.valueError ("Exceeds the limit (" ++ toString interpreter.maxStrDigits ++
    " digits) for integer string conversion; " ++
    "use sys.set_int_max_str_digits() to increase the limit"))

def copyJsonObject (interpreter : Interpreter) (data : JsonObject) : Except PyError JsonObject :=
  if JsonValue.nestingFields data ≤ interpreter.copyNesting then .ok data
  else .error recursionError

def deepcopy (interpreter : Interpreter) (data : JsonObject) : Except PyError JsonObject :=
  if JsonValue.nestingFields data ≤ interpreter.deepcopyNesting then .ok data
  else .error recursionError

/-! ## Sets of identifiers -/

/-- `value in ids` for a set of strings; a list and an object have no hash. -/
def inIds (ids : List String) : JsonValue → Except PyError Bool
  | .str text => .ok (text ∈ ids)
  | .list _ => .error (.typeError "unhashable type: 'list'")
  | .object _ => .error (.typeError "unhashable type: 'dict'")
  | _ => .ok false

/-- `data.get(key)`. -/
def field (data : JsonObject) (key : String) : JsonValue := (Dict.lookup key data).getD .null

def isText (value : JsonValue) (expected : String) : Bool :=
  match value with
  | .str text => text = expected
  | _ => false

/-- The string identifiers of the nodes of a type. -/
def idsOfType (typeId : String) (nodes : List JsonValue) : List String :=
  nodes.filterMap (fun raw =>
    match raw with
    | .object node =>
        match field node "id" with
        | .str nodeId => if isText (field node "type_id") typeId then some nodeId else none
        | _ => none
    | _ => none)

/-- Change the objects of a list field, if it is one. -/
def mapObjects (key : String) (change : JsonObject → JsonObject) (data : JsonObject) :
    JsonObject :=
  match Dict.lookup key data with
  | some (.list items) =>
      Dict.assign key (.list (items.map (fun item =>
        match item with
        | .object fields => .object (change fields)
        | other => other))) data
  | _ => data

/-! ## Migrations -/

def applicationVersion : String := "0.1.0"

def defaultPosition : JsonValue := .list [.float (.finite 0), .float (.finite 0)]

/-- The defaults of a node of the prototype. -/
def migrateNodeV0 (node : JsonObject) : JsonObject :=
  let versioned :=
    match Dict.lookup "implementation_version" node, Dict.lookup "version" node with
    | none, some version =>
        Dict.assign "implementation_version" version (popField "version" node)
    | _, _ => node
  setDefault "collapsed" (.bool false) (setDefault "user_label" .null
    (setDefault "ui_state" (.object []) (setDefault "parameters" (.object [])
      (setDefault "size" .null (setDefault "position" defaultPosition versioned)))))

def migrateV0ToV1 (data : JsonObject) : JsonObject :=
  mapObjects "nodes" migrateNodeV0
    (setDefault "ui_state" (.object []) (setDefault "document_settings" (.object [])
      (setDefault "groups" (.list []) (setDefault "application_version" (.str applicationVersion)
        (Dict.assign "schema_version" (.int 1) data)))))

def migrateV1ToV2 (data : JsonObject) : JsonObject :=
  mapObjects "connections" (setDefault "ui_state" (.object []))
    (Dict.assign "schema_version" (.int 2) data)

/-- Point the connections into Statistics nodes at the first socket. -/
def repoint (statisticsIds : List String) : List JsonValue → Except PyError (List JsonValue)
  | [] => .ok []
  | .object connection :: rest => do
      let inside ← inIds statisticsIds (field connection "destination_node_id")
      let moved := if inside && isText (field connection "destination_port_id") "values" then
        Dict.assign "destination_port_id" (.str "values_1") connection else connection
      let others ← repoint statisticsIds rest
      return .object moved :: others
  | other :: rest => do
      let others ← repoint statisticsIds rest
      return other :: others

def nodeItems (data : JsonObject) : Option (List JsonValue) :=
  match Dict.lookup "nodes" data with
  | some (.list nodes) => some nodes
  | _ => none

def connectionItems (data : JsonObject) : Option (List JsonValue) :=
  match Dict.lookup "connections" data with
  | some (.list connections) => some connections
  | _ => none

def statisticsIds (data : JsonObject) : List String :=
  idsOfType "synmachine.utility.statistics" ((nodeItems data).getD [])

def migrateV2ToV3 (data : JsonObject) : Except PyError JsonObject :=
  let migrated := Dict.assign "schema_version" (.int 3) data
  if statisticsIds data = [] then .ok migrated
  else
    match connectionItems data with
    | none => .ok migrated
    | some connections => do
        let repointed ← repoint (statisticsIds data) connections
        return Dict.assign "connections" (.list repointed) migrated

/-- The nodes that are not retired; only asked when some are. -/
def keepNodes (opacityIds : List String) : List JsonValue → Except PyError (List JsonValue)
  | [] => .ok []
  | .object node :: rest => do
      let retired ← inIds opacityIds (field node "id")
      let others ← keepNodes opacityIds rest
      return if retired then others else .object node :: others
  | other :: rest => do
      let others ← keepNodes opacityIds rest
      return other :: others

/-- A connection touches a retired node or socket. -/
def isRetired (opacityIds separateIds combineIds : List String) (connection : JsonObject) :
    Except PyError Bool := do
  let source := field connection "source_node_id"
  let destination := field connection "destination_node_id"
  let fromOpacity ← inIds opacityIds source
  if fromOpacity then return true
  let toOpacity ← inIds opacityIds destination
  if toOpacity then return true
  let toCombine ← inIds combineIds destination
  if toCombine && isText (field connection "destination_port_id") "channel_4" then return true
  let fromSeparate ← inIds separateIds source
  return fromSeparate && isText (field connection "source_port_id") "channel_4"

def keepConnections (opacityIds separateIds combineIds : List String) :
    List JsonValue → Except PyError (List JsonValue)
  | [] => .ok []
  | .object connection :: rest => do
      let retired ← isRetired opacityIds separateIds combineIds connection
      let others ← keepConnections opacityIds separateIds combineIds rest
      return if retired then others else .object connection :: others
  | other :: rest => do
      let others ← keepConnections opacityIds separateIds combineIds rest
      return other :: others

def opacityIds (nodes : List JsonValue) : List String := idsOfType "synmachine.image.opacity" nodes

def separateIds (nodes : List JsonValue) : List String :=
  idsOfType "synmachine.image.separate_channels" nodes

def combineIds (nodes : List JsonValue) : List String :=
  idsOfType "synmachine.image.combine_channels" nodes

def migrateV3ToV4 (data : JsonObject) : Except PyError JsonObject :=
  let migrated := Dict.assign "schema_version" (.int 4) data
  match nodeItems data with
  | none => .ok migrated
  | some nodes => do
      let kept ← if opacityIds nodes = [] then pure migrated
        else do
          let others ← keepNodes (opacityIds nodes) nodes
          pure (Dict.assign "nodes" (.list others) migrated)
      match connectionItems data with
      | none => return kept
      | some connections => do
          let others ← keepConnections (opacityIds nodes) (separateIds nodes) (combineIds nodes)
            connections
          return Dict.assign "connections" (.list others) kept

/-! ## The chain -/

def graphSchemaVersion : Nat := 4

def schemaVersion (data : JsonObject) : Except PyError Int :=
  match (Dict.lookup "schema_version" data).getD (.int 0) with
  | .int version =>
      if version < 0 then .error (.valueError "schema_version must be a non-negative integer")
      else .ok version
  | _ => .error (.valueError "schema_version must be a non-negative integer")

/-- `_MIGRATIONS`. -/
def graphMigration : Int → Option (JsonObject → Except PyError JsonObject)
  | 0 => some (fun data => .ok (migrateV0ToV1 data))
  | 1 => some (fun data => .ok (migrateV1ToV2 data))
  | 2 => some migrateV2ToV3
  | 3 => some migrateV3ToV4
  | _ => none

/-- Run so many more migrations; each works on a deep copy. -/
def migrateGraphFrom (interpreter : Interpreter) :
    Nat → JsonObject → Except PyError JsonObject
  | 0, migrated => .ok migrated
  | remaining + 1, migrated =>
      let version : Int := graphSchemaVersion - (remaining + 1)
      match graphMigration version with
      | none => .error (.valueError ("No graph migration is registered for schema version " ++
          toString version))
      | some migration => do
          let copied ← deepcopy interpreter migrated
          let next ← migration copied
          let nextVersion ← schemaVersion next
          if nextVersion ≠ version + 1 then
            .error (.valueError ("Migration " ++ toString version ++
              " must produce schema version " ++ toString (version + 1)))
          else migrateGraphFrom interpreter remaining next

def migrateGraphData (interpreter : Interpreter) (data : JsonObject) :
    Except PyError JsonObject := do
  let migrated ← copyJsonObject interpreter data
  let version ← schemaVersion migrated
  if graphSchemaVersion < version then
    let text ← formatInt interpreter version
    .error (.valueError ("Graph schema version " ++ text ++
      " is newer than supported version " ++ toString graphSchemaVersion))
  else migrateGraphFrom interpreter (graphSchemaVersion - version).toNat migrated

end Persistence
end Synesthesia
