import Synesthesia.Contracts.RuntimeValues
import Synesthesia.Persistence.Schemas

namespace Synesthesia
namespace Persistence

open Foundation Contracts

/-!
# Node migrations

`nodes/migrations.py` and the migrations that the node modules own.  Each one
changes the saved parameters and raises the version by one.  The copy that a
migration starts with has the nesting of the copy that the walker hands to it,
so only the walker's are made here.
-/

def migrationParameters (data : JsonObject) : Except PyError JsonObject :=
  match Dict.lookup "parameters" data with
  | some (.object parameters) => .ok parameters
  | _ => .error (.valueError "Node parameters must be an object before migration")

/-- Change the parameters and set the version that a migration produces. -/
def rewriteParameters (version : Int) (change : JsonObject → Except PyError JsonObject)
    (data : JsonObject) : Except PyError JsonObject := do
  let parameters ← migrationParameters data
  let changed ← change parameters
  return Dict.assign "implementation_version" (.int version)
    (Dict.assign "parameters" (.object changed) data)

/-! ## Number -/

def migrateNumberV0ToV1 : JsonObject → Except PyError JsonObject :=
  rewriteParameters 1 (fun parameters =>
    let popped := popField "value" parameters
    .ok (match field parameters "value" with
      | .int legacy => setDefault "int_value" (.int legacy)
          (setDefault "number_type" (.str "INT") popped)
      | .float legacy => setDefault "float_value" (.float legacy)
          (setDefault "number_type" (.str "FLOAT") popped)
      | _ =>
          if (Dict.lookup "int_value" popped).isSome then
            setDefault "number_type" (.str "INT") popped
          else setDefault "number_type" (.str "FLOAT") popped))

/-- The value that the type of a number selects. -/
def legacyNumber (parameters : JsonObject) : JsonValue :=
  if isText (field parameters "number_type") "INT" then field parameters "int_value"
  else field parameters "float_value"

/-- `float(legacy)` of an integer may overflow. -/
def foldNumber (parameters : JsonObject) : Except PyError JsonObject :=
  let popped := popField "float_value" (popField "int_value" parameters)
  match legacyNumber parameters with
  | .int legacy => do
      let value ← PyFloat.ofInt legacy
      return Dict.assign "value" (.float value) popped
  | .float legacy => .ok (Dict.assign "value" (.float legacy) popped)
  | _ => .ok popped

def migrateNumberV1ToV2 : JsonObject → Except PyError JsonObject := rewriteParameters 2 foldNumber

def migrateNumberV2ToV3 : JsonObject → Except PyError JsonObject :=
  rewriteParameters 3 (fun parameters => .ok (popField "number_type" parameters))

def migrateNumberV3ToV4 (data : JsonObject) : Except PyError JsonObject :=
  .ok (Dict.assign "implementation_version" (.int 4) data)

/-! ## Image nodes -/

/-- A finite number of turns outside of a single one is wrapped into it. -/
def singleTurn : PyFloat → PyFloat
  | .finite turns =>
      if 0 ≤ turns ∧ turns ≤ 1 then .finite turns else .finite (turns - ⌊turns⌋)
  | other => other

def rewriteTurns (parameters : JsonObject) : Except PyError JsonObject :=
  match field parameters "turns" with
  | .int turns => do
      let value ← PyFloat.ofInt turns
      return Dict.assign "turns" (.float (singleTurn value)) parameters
  | .float turns => .ok (Dict.assign "turns" (.float (singleTurn turns)) parameters)
  | _ => .ok parameters

def migrateHueV1ToV2 : JsonObject → Except PyError JsonObject := rewriteParameters 2 rewriteTurns

def migrateInvertColourV1ToV2 : JsonObject → Except PyError JsonObject :=
  rewriteParameters 2 (fun parameters => .ok (popField "invert_alpha" parameters))

/-- Replace a retired choice of a parameter. -/
def rewriteChoice (key retired choice : String) (parameters : JsonObject) : JsonObject :=
  if isText (field parameters key) retired then Dict.assign key (.str choice) parameters
  else parameters

def rewriteChannelSelection : JsonObject → JsonObject :=
  rewriteChoice "channels" "CHANNEL_4" "COLOUR"

def rewriteColourSpaceTarget : JsonObject → JsonObject :=
  rewriteChoice "target_colour_space" "RGBA" "SRGB"

def migrateClampV1ToV2 : JsonObject → Except PyError JsonObject :=
  rewriteParameters 2 (fun parameters =>
    .ok (rewriteChannelSelection (popField "include_alpha" parameters)))

def migrateAdjustmentChannelSelectionV1ToV2 : JsonObject → Except PyError JsonObject :=
  rewriteParameters 2 (fun parameters => .ok (rewriteChannelSelection parameters))

def migrateSeparateChannelsV1ToV2 (data : JsonObject) : Except PyError JsonObject :=
  .ok (Dict.assign "implementation_version" (.int 2) data)

def migrateCombineChannelsV1ToV2 : JsonObject → Except PyError JsonObject :=
  rewriteParameters 2 (fun parameters => .ok (rewriteColourSpaceTarget parameters))

def migrateChangeColourSpaceV1ToV2 : JsonObject → Except PyError JsonObject :=
  rewriteParameters 2 (fun parameters => .ok (rewriteColourSpaceTarget parameters))

/-! ## Other nodes -/

def dropPreviewSettings (parameters : JsonObject) : Except PyError JsonObject :=
  .ok (popField "max_dimension" (popField "preview_fps" parameters))

def migrateDisplayImageDataV1ToV2 : JsonObject → Except PyError JsonObject :=
  rewriteParameters 2 dropPreviewSettings

def migrateChannelDisplayV1ToV2 : JsonObject → Except PyError JsonObject :=
  rewriteParameters 2 dropPreviewSettings

def migrateLoadVideoV0ToV1 : JsonObject → Except PyError JsonObject :=
  rewriteParameters 1 (fun parameters =>
    .ok (match Dict.lookup "file_path" parameters, Dict.lookup "path" parameters with
      | none, some path => Dict.assign "file_path" path (popField "path" parameters)
      | _, _ => parameters))

def migrateLoadVideoV1ToV2 : JsonObject → Except PyError JsonObject :=
  rewriteParameters 2 (fun parameters =>
    .ok (setDefault "loop_end_s" (.float (.finite 0))
      (setDefault "loop_start_s" (.float (.finite 0)) parameters)))

def migrateStatisticsV1ToV2 (data : JsonObject) : Except PyError JsonObject :=
  .ok (Dict.assign "implementation_version" (.int 2) data)

/-- The migrations that the registered definitions name. -/
inductive NodeMigration where
  | numberV0ToV1
  | numberV1ToV2
  | numberV2ToV3
  | numberV3ToV4
  | hueV1ToV2
  | invertColourV1ToV2
  | clampV1ToV2
  | adjustmentChannelSelectionV1ToV2
  | separateChannelsV1ToV2
  | combineChannelsV1ToV2
  | changeColourSpaceV1ToV2
  | displayImageDataV1ToV2
  | channelDisplayV1ToV2
  | loadVideoV0ToV1
  | loadVideoV1ToV2
  | statisticsV1ToV2
deriving DecidableEq

def NodeMigration.migrate : NodeMigration → JsonObject → Except PyError JsonObject
  | .numberV0ToV1 => migrateNumberV0ToV1
  | .numberV1ToV2 => migrateNumberV1ToV2
  | .numberV2ToV3 => migrateNumberV2ToV3
  | .numberV3ToV4 => migrateNumberV3ToV4
  | .hueV1ToV2 => migrateHueV1ToV2
  | .invertColourV1ToV2 => migrateInvertColourV1ToV2
  | .clampV1ToV2 => migrateClampV1ToV2
  | .adjustmentChannelSelectionV1ToV2 => migrateAdjustmentChannelSelectionV1ToV2
  | .separateChannelsV1ToV2 => migrateSeparateChannelsV1ToV2
  | .combineChannelsV1ToV2 => migrateCombineChannelsV1ToV2
  | .changeColourSpaceV1ToV2 => migrateChangeColourSpaceV1ToV2
  | .displayImageDataV1ToV2 => migrateDisplayImageDataV1ToV2
  | .channelDisplayV1ToV2 => migrateChannelDisplayV1ToV2
  | .loadVideoV0ToV1 => migrateLoadVideoV0ToV1
  | .loadVideoV1ToV2 => migrateLoadVideoV1ToV2
  | .statisticsV1ToV2 => migrateStatisticsV1ToV2

/-! ## The walker -/

/-- What loading needs of a registered definition. -/
structure RegisteredNode where
  implementationVersion : Nat
  migrations : List (Nat × NodeMigration)
  positive : 1 ≤ implementationVersion

/-- The registered definitions by their types. -/
abbrev NodeRegistry := String → Option RegisteredNode

def implementationVersion (data : JsonObject) : Except PyError Nat :=
  match field data "implementation_version" with
  | .int version =>
      if version < 0 then
        .error (.valueError "Node implementation_version must be a non-negative integer")
      else .ok version.toNat
  | _ => .error (.valueError "Node implementation_version must be a non-negative integer")

/-- A migration must leave a field alone; a NaN differs even from itself. -/
def isChanged (before after : JsonValue) : Bool :=
  match before with
  | .float .nan => true
  | _ => !before.same after

/-- Run so many more migrations, each on a deep copy. -/
def migrateNodeFrom (interpreter : Interpreter) (typeId : String)
    (migrations : List (Nat × NodeMigration)) :
    Nat → Nat → JsonObject → Except PyError JsonObject
  | 0, _, migrated => .ok migrated
  | remaining + 1, version, migrated =>
      match Dict.lookup version migrations with
      | none => .error (.valueError ("No node migration is registered for " ++ quoted typeId ++
          " version " ++ toString version))
      | some migration => do
          let copied ← deepcopy interpreter migrated
          let next ← migration.migrate copied
          let nextVersion ← implementationVersion next
          if nextVersion ≠ version + 1 then
            .error (.valueError ("Node migration " ++ quoted typeId ++ " version " ++
              toString version ++ " must produce version " ++ toString (version + 1)))
          else if isChanged (field migrated "id") (field next "id") ||
              isChanged (field migrated "type_id") (field next "type_id") then
            .error (.valueError "Node migrations cannot change node identity or type")
          else migrateNodeFrom interpreter typeId migrations remaining (version + 1) next

def migrateNodeData (interpreter : Interpreter) (typeId : String)
    (migrations : List (Nat × NodeMigration)) (data : JsonObject) (targetVersion : Nat) :
    Except PyError JsonObject := do
  let migrated ← deepcopy interpreter data
  let version ← implementationVersion migrated
  if targetVersion < version then
    let text ← formatInt interpreter version
    .error (.valueError (quoted typeId ++ " version " ++ text ++
      " is newer than supported version " ++ toString targetVersion))
  else
    migrateNodeFrom interpreter typeId migrations (targetVersion - version) version migrated

end Persistence
end Synesthesia
