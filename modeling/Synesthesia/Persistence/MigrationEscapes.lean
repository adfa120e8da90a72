import Synesthesia.Persistence.GraphIo

namespace Synesthesia
namespace Persistence

open Foundation

/-!
# What escapes from a graph migration

The migrations run on unchecked data, and only a `ValueError` of theirs is
translated.  The others come from the nesting of the data and from looking up
values without a hash, and both can be read off the data: no migration changes
which nodes there are, of which types, or what the connections join.
-/

/-! ## Exceptions that are not translated -/

theorem deepcopy_of_le {interpreter : Interpreter} {data : JsonObject}
    (shallow : JsonValue.nestingFields data ≤ interpreter.deepcopyNesting) :
    deepcopy interpreter data = .ok data := if_pos shallow

/-- What tells a migration which node an item is. -/
def nodeIdentity : JsonValue → Option (JsonValue × JsonValue)
  | .object node => some (field node "id", field node "type_id")
  | _ => none

/-- The source and the destination of a connection. -/
def connectionEnd : JsonValue → Option (JsonValue × JsonValue)
  | .object connection =>
      some (field connection "source_node_id", field connection "destination_node_id")
  | _ => none

def nodeIdentities (data : JsonObject) : Option (List (Option (JsonValue × JsonValue))) :=
  (nodeItems data).map (List.map nodeIdentity)

def connectionEnds (data : JsonObject) : Option (List (Option (JsonValue × JsonValue))) :=
  (connectionItems data).map (List.map connectionEnd)

/-- Data in which a migration reads the same identities and ends. -/
structure SameShape (data next : JsonObject) : Prop where
  nodes : nodeIdentities next = nodeIdentities data
  ends : connectionEnds next = connectionEnds data

theorem SameShape.trans {data next last : JsonObject} (first : SameShape data next)
    (second : SameShape next last) : SameShape data last :=
  ⟨second.nodes.trans first.nodes, second.ends.trans first.ends⟩

section Walks

variable {Test Rest Result : Type}

end Walks

/-- The last part of the step to schema 4. -/
def retireConnections (data : JsonObject) (nodes : List JsonValue) (kept : JsonObject) :
    Except PyError JsonObject :=
  match connectionItems data with
  | none => return kept
  | some connections => do
      let others ← keepConnections (opacityIds nodes) (separateIds nodes) (combineIds nodes)
        connections
      return Dict.assign "connections" (.list others) kept

/-- `change` of an object, everything else as it is. -/
def onObject (change : JsonObject → JsonObject) : JsonValue → JsonValue
  | .object fields => .object (change fields)
  | other => other

def onItems (change : JsonObject → JsonObject) : JsonValue → JsonValue
  | .list items => .list (items.map (onObject change))
  | other => other

theorem lookup_mapObjects_self (key : String) (change : JsonObject → JsonObject)
    (data : JsonObject) :
    Dict.lookup key (mapObjects key change data) =
      (Dict.lookup key data).map (onItems change) := by
  rw [mapObjects]
  cases found : Dict.lookup key data with
  | none => exact found
  | some value =>
      cases value with
      | list items =>
          rw [Dict.lookup_assign, if_pos rfl]
          rfl
      | _ => exact found

theorem lookup_mapObjects_of_ne {key other : String} (different : other ≠ key)
    (change : JsonObject → JsonObject) (data : JsonObject) :
    Dict.lookup other (mapObjects key change data) = Dict.lookup other data := by
  rw [mapObjects]
  cases Dict.lookup key data with
  | none => rfl
  | some value =>
      cases value with
      | list items => exact lookup_assign_of_ne different _ data
      | _ => rfl

theorem sameShape_of_lookup {data next : JsonObject}
    (nodes : Dict.lookup "nodes" next = Dict.lookup "nodes" data)
    (connections : Dict.lookup "connections" next = Dict.lookup "connections" data) :
    SameShape data next where
  nodes := by rw [nodeIdentities, nodeIdentities, nodeItems, nodeItems, nodes]
  ends := by
    rw [connectionEnds, connectionEnds, connectionItems, connectionItems, connections]

theorem sameShape_assign (key : String) (value : JsonValue) (data : JsonObject)
    (notNodes : "nodes" ≠ key) (notConnections : "connections" ≠ key) :
    SameShape data (Dict.assign key value data) :=
  sameShape_of_lookup (lookup_assign_of_ne notNodes value data)
    (lookup_assign_of_ne notConnections value data)

theorem sameShape_setDefault (key : String) (value : JsonValue) (data : JsonObject)
    (notNodes : "nodes" ≠ key) (notConnections : "connections" ≠ key) :
    SameShape data (setDefault key value data) :=
  sameShape_of_lookup (lookup_setDefault_of_ne notNodes value data)
    (lookup_setDefault_of_ne notConnections value data)

variable {change : JsonObject → JsonObject}

def listItems : Option JsonValue → Option (List JsonValue)
  | some (.list items) => some items
  | _ => none

/-- A reading of the items that the change of the objects keeps. -/
theorem listItems_onItems {read : JsonValue → Option (JsonValue × JsonValue)}
    (same : ∀ fields, read (.object (change fields)) = read (.object fields))
    (found : Option JsonValue) :
    (listItems (found.map (onItems change))).map (List.map read) =
      (listItems found).map (List.map read) := by
  have kept : ∀ item, read (onObject change item) = read item := by
    intro item
    cases item with
    | object fields => exact same fields
    | _ => rfl
  cases found with
  | none => rfl
  | some value =>
      cases value with
      | list items =>
          rw [Option.map_some, onItems, listItems, listItems, Option.map_some, Option.map_some,
            List.map_map]
          exact congrArg some (List.map_congr_left (fun item _ => kept item))
      | _ => rfl

theorem sameShape_mapNodes (data : JsonObject)
    (keeps : ∀ node, field (change node) "id" = field node "id" ∧
      field (change node) "type_id" = field node "type_id") :
    SameShape data (mapObjects "nodes" change data) where
  nodes := by
    rw [nodeIdentities, nodeIdentities, nodeItems, nodeItems, lookup_mapObjects_self]
    refine listItems_onItems (fun node => ?_) _
    rw [nodeIdentity, nodeIdentity, (keeps node).1, (keeps node).2]
  ends := by
    rw [connectionEnds, connectionEnds, connectionItems, connectionItems,
      lookup_mapObjects_of_ne (by decide)]

theorem sameShape_mapConnections (data : JsonObject)
    (keeps : ∀ connection,
      field (change connection) "source_node_id" = field connection "source_node_id" ∧
        field (change connection) "destination_node_id" =
          field connection "destination_node_id") :
    SameShape data (mapObjects "connections" change data) where
  nodes := by
    rw [nodeIdentities, nodeIdentities, nodeItems, nodeItems, lookup_mapObjects_of_ne (by decide)]
  ends := by
    rw [connectionEnds, connectionEnds, connectionItems, connectionItems, lookup_mapObjects_self]
    refine listItems_onItems (fun connection => ?_) _
    rw [connectionEnd, connectionEnd, (keeps connection).1, (keeps connection).2]

/-- Changing the objects of a list nests no deeper. -/
theorem nestingFields_mapObjects_le {key : String} {limit : Nat}
    {data : JsonObject} (bounded : JsonValue.nestingFields data ≤ limit + 2)
    (keeps : ∀ fields, JsonValue.nestingFields fields ≤ limit →
      JsonValue.nestingFields (change fields) ≤ limit) :
    JsonValue.nestingFields (mapObjects key change data) ≤ limit + 2 := by
  rw [mapObjects]
  cases found : Dict.lookup key data with
  | none => exact bounded
  | some value =>
      cases value with
      | list items =>
          have listed := JsonValue.nesting_of_lookup bounded found
          apply JsonValue.nestingFields_assign_le _ bounded
          rw [JsonValue.nesting] at listed ⊢
          apply Nat.succ_le_succ
          apply JsonValue.nestingItems_le_iff.mpr
          intro changed member
          rcases List.mem_map.mp member with ⟨item, inside, same⟩
          have shallow :=
            JsonValue.nestingItems_le_iff.mp (Nat.le_of_succ_le_succ listed) item inside
          rw [← same]
          cases item with
          | object fields =>
              rw [JsonValue.nesting] at shallow
              exact Nat.succ_le_succ (keeps fields (Nat.le_of_succ_le_succ shallow))
          | _ => exact shallow
      | _ => exact bounded

/-- What an accepted migration leaves for the next one. -/
structure Migrated (limit : Nat) (version : Int) (data next : JsonObject) : Prop where
  shape : SameShape data next
  nesting : JsonValue.nestingFields data ≤ limit → JsonValue.nestingFields next ≤ limit
  version : schemaVersion next = .ok version

theorem schemaVersion_of_lookup {data : JsonObject} {version : Int}
    (found : Dict.lookup "schema_version" data = some (.int version)) (nonnegative : 0 ≤ version) :
    schemaVersion data = .ok version := by
  rw [schemaVersion, found, Option.getD_some]
  exact if_neg (Int.not_lt.mpr nonnegative)

theorem field_congr {fields others : JsonObject} {key : String}
    (same : Dict.lookup key fields = Dict.lookup key others) :
    field fields key = field others key :=
  congrArg (fun value => value.getD .null) same

/-- A migrated node of the prototype has every field, but no identity is new. -/
theorem lookup_migrateNodeV0 {key : String} (node : JsonObject)
    (kept : key ∉ ["implementation_version", "version", "position", "size", "parameters",
      "ui_state", "user_label", "collapsed"]) :
    Dict.lookup key (migrateNodeV0 node) = Dict.lookup key node := by
  simp only [List.mem_cons, List.not_mem_nil, or_false, not_or] at kept
  rcases kept with ⟨version, legacy, position, size, parameters, uiState, label, collapsed⟩
  rw [migrateNodeV0]
  rw [lookup_setDefault_of_ne collapsed, lookup_setDefault_of_ne label,
    lookup_setDefault_of_ne uiState, lookup_setDefault_of_ne parameters,
    lookup_setDefault_of_ne size, lookup_setDefault_of_ne position]
  split
  · rw [lookup_assign_of_ne version, lookup_popField_of_ne legacy]
  · rfl

theorem nestingFields_migrateNodeV0_le {limit : Nat} (roomy : 1 ≤ limit) {node : JsonObject}
    (bounded : JsonValue.nestingFields node ≤ limit) :
    JsonValue.nestingFields (migrateNodeV0 node) ≤ limit := by
  rw [migrateNodeV0]
  apply JsonValue.nestingFields_setDefault_le (Nat.zero_le limit)
  apply JsonValue.nestingFields_setDefault_le (Nat.zero_le limit)
  apply JsonValue.nestingFields_setDefault_le roomy
  apply JsonValue.nestingFields_setDefault_le roomy
  apply JsonValue.nestingFields_setDefault_le (Nat.zero_le limit)
  apply JsonValue.nestingFields_setDefault_le roomy
  split
  · rename_i found
    exact JsonValue.nestingFields_assign_le (JsonValue.nesting_of_lookup bounded found)
      (JsonValue.nestingFields_popField_le bounded)
  · exact bounded

section Steps

variable (data : JsonObject) {limit : Nat}

theorem migrateV0ToV1_migrated (roomy : 3 ≤ limit) :
    Migrated limit 1 data (migrateV0ToV1 data) where
  shape := by
    rw [migrateV0ToV1]
    refine (sameShape_assign "schema_version" (.int 1) data (by decide) (by decide)).trans ?_
    refine (sameShape_setDefault "application_version" (.str applicationVersion) _
      (by decide) (by decide)).trans ?_
    refine (sameShape_setDefault "groups" (.list []) _ (by decide) (by decide)).trans ?_
    refine (sameShape_setDefault "document_settings" (.object []) _
      (by decide) (by decide)).trans ?_
    refine (sameShape_setDefault "ui_state" (.object []) _ (by decide) (by decide)).trans ?_
    apply sameShape_mapNodes
    intro node
    exact ⟨field_congr (lookup_migrateNodeV0 node (by decide)),
      field_congr (lookup_migrateNodeV0 node (by decide))⟩
  nesting := by
    intro bounded
    obtain ⟨rest, rfl⟩ := Nat.exists_eq_add_of_le' (show 2 ≤ limit by omega)
    rw [migrateV0ToV1]
    apply nestingFields_mapObjects_le
    · apply JsonValue.nestingFields_setDefault_le (show 1 ≤ rest + 2 by omega)
      apply JsonValue.nestingFields_setDefault_le (show 1 ≤ rest + 2 by omega)
      apply JsonValue.nestingFields_setDefault_le (show 1 ≤ rest + 2 by omega)
      apply JsonValue.nestingFields_setDefault_le (Nat.zero_le _)
      exact JsonValue.nestingFields_assign_le (Nat.zero_le _) bounded
    · exact fun fields => nestingFields_migrateNodeV0_le (by omega)
  version := by
    apply schemaVersion_of_lookup _ (by decide)
    rw [migrateV0ToV1, lookup_mapObjects_of_ne (by decide), lookup_setDefault_of_ne (by decide),
      lookup_setDefault_of_ne (by decide), lookup_setDefault_of_ne (by decide),
      lookup_setDefault_of_ne (by decide), Dict.lookup_assign, if_pos rfl]

theorem migrateV1ToV2_migrated (roomy : 3 ≤ limit) :
    Migrated limit 2 data (migrateV1ToV2 data) where
  shape := by
    rw [migrateV1ToV2]
    refine (sameShape_assign "schema_version" (.int 2) data (by decide) (by decide)).trans ?_
    apply sameShape_mapConnections
    intro connection
    exact ⟨field_congr (lookup_setDefault_of_ne (by decide) _ connection),
      field_congr (lookup_setDefault_of_ne (by decide) _ connection)⟩
  nesting := by
    intro bounded
    obtain ⟨rest, rfl⟩ := Nat.exists_eq_add_of_le' (show 2 ≤ limit by omega)
    rw [migrateV1ToV2]
    apply nestingFields_mapObjects_le
    · exact JsonValue.nestingFields_assign_le (Nat.zero_le _) bounded
    · exact fun fields => JsonValue.nestingFields_setDefault_le
        (show 1 ≤ rest by omega)
  version := by
    apply schemaVersion_of_lookup _ (by decide)
    rw [migrateV1ToV2, lookup_mapObjects_of_ne (by decide), Dict.lookup_assign, if_pos rfl]

/-- Repointed connections join the same nodes and nest no deeper. -/
theorem repoint_keeps {ids : List String} {items repointed : List JsonValue}
    (accepted : repoint ids items = .ok repointed) :
    repointed.map connectionEnd = items.map connectionEnd ∧
      ∀ limit, JsonValue.nestingItems items ≤ limit → JsonValue.nestingItems repointed ≤ limit := by
  induction items generalizing repointed with
  | nil =>
      cases accepted
      exact ⟨rfl, fun limit bounded => bounded⟩
  | cons item rest ih =>
      have kept : ∀ head others, connectionEnd head = connectionEnd item →
          (∀ limit, item.nesting ≤ limit → head.nesting ≤ limit) →
            repoint ids rest = .ok others → (head :: others).map connectionEnd =
              (item :: rest).map connectionEnd ∧ ∀ limit,
                JsonValue.nestingItems (item :: rest) ≤ limit →
                  JsonValue.nestingItems (head :: others) ≤ limit := by
        intro head others sameEnd shallow further
        rcases ih further with ⟨sameEnds, bounded⟩
        refine ⟨by rw [List.map_cons, List.map_cons, sameEnd, sameEnds], ?_⟩
        intro limit within
        rw [JsonValue.nestingItems, max_le_iff] at within ⊢
        exact ⟨shallow limit within.1, bounded limit within.2⟩
      cases item with
      | object connection =>
          rw [repoint] at accepted
          rcases bind_eq_ok.mp accepted with ⟨inside, _, accepted⟩
          rcases bind_eq_ok.mp accepted with ⟨others, further, same⟩
          cases same
          apply kept _ _ _ _ further
          · split_ifs
            · rw [connectionEnd, connectionEnd,
                field_congr (lookup_assign_of_ne (by decide) _ connection),
                field_congr (lookup_assign_of_ne (by decide) _ connection)]
            · rfl
          · intro limit within
            split_ifs
            · cases limit with
              | zero => exact absurd within (Nat.not_succ_le_zero _)
              | succ limit =>
                  rw [JsonValue.nesting] at within ⊢
                  exact Nat.succ_le_succ (JsonValue.nestingFields_assign_le (Nat.zero_le limit)
                    (Nat.le_of_succ_le_succ within))
            · exact within
      | _ =>
          rcases bind_eq_ok.mp accepted with ⟨others, further, same⟩
          cases same
          exact kept _ _ rfl (fun limit within => within) further

theorem migrateV2ToV3_migrated {next : JsonObject} (accepted : migrateV2ToV3 data = .ok next) :
    Migrated limit 3 data next := by
  have marked : Migrated limit 3 data (Dict.assign "schema_version" (.int 3) data) :=
    ⟨sameShape_assign "schema_version" _ data (by decide) (by decide),
      fun bounded => JsonValue.nestingFields_assign_le (Nat.zero_le limit) bounded,
      schemaVersion_of_lookup (by rw [Dict.lookup_assign, if_pos rfl]) (by decide)⟩
  rw [migrateV2ToV3] at accepted
  split_ifs at accepted with none
  · cases accepted
    exact marked
  · cases found : connectionItems data with
    | none =>
        rw [found] at accepted
        cases accepted
        exact marked
    | some connections =>
        rw [found] at accepted
        rcases bind_eq_ok.mp accepted with ⟨others, repointed, same⟩
        cases same
        rcases repoint_keeps repointed with ⟨sameEnds, shallow⟩
        have listed : Dict.lookup "connections" data = some (.list connections) := by
          rw [connectionItems] at found
          split at found
          · rename_i items there
            cases found
            exact there
          · cases found
        refine ⟨marked.shape.trans ⟨?_, ?_⟩, ?_, ?_⟩
        · rw [nodeIdentities, nodeIdentities, nodeItems, nodeItems,
            lookup_assign_of_ne (by decide)]
        · rw [connectionEnds, connectionEnds, connectionItems, connectionItems,
            Dict.lookup_assign, if_pos rfl, lookup_assign_of_ne (by decide), listed]
          exact congrArg some sameEnds
        · intro bounded
          apply JsonValue.nestingFields_assign_le _ (marked.nesting bounded)
          have within := JsonValue.nesting_of_lookup bounded listed
          rw [JsonValue.nesting] at within ⊢
          cases limit with
          | zero => exact absurd within (Nat.not_succ_le_zero _)
          | succ limit =>
              exact Nat.succ_le_succ (shallow limit (Nat.le_of_succ_le_succ within))
        · apply schemaVersion_of_lookup _ (by decide)
          rw [lookup_assign_of_ne (by decide), Dict.lookup_assign, if_pos rfl]

theorem lookup_retireConnections {nodes : List JsonValue} {kept next : JsonObject}
    (accepted : retireConnections data nodes kept = .ok next) :
    Dict.lookup "schema_version" next = Dict.lookup "schema_version" kept := by
  rw [retireConnections] at accepted
  cases found : connectionItems data with
  | none =>
      rw [found] at accepted
      cases accepted
      rfl
  | some items =>
      rw [found] at accepted
      rcases bind_eq_ok.mp accepted with ⟨others, _, same⟩
      cases same
      exact lookup_assign_of_ne (by decide) _ kept

theorem migrateV3ToV4_version {next : JsonObject} (accepted : migrateV3ToV4 data = .ok next) :
    schemaVersion next = .ok 4 := by
  apply schemaVersion_of_lookup _ (by decide)
  have marked : Dict.lookup "schema_version" (Dict.assign "schema_version" (.int 4) data) =
      some (.int 4) := by
    rw [Dict.lookup_assign, if_pos rfl]
  rw [migrateV3ToV4] at accepted
  cases listed : nodeItems data with
  | none =>
      rw [listed] at accepted
      cases accepted
      exact marked
  | some nodes =>
      rw [listed] at accepted
      dsimp only at accepted
      split_ifs at accepted
      · exact (lookup_retireConnections data accepted).trans marked
      · rcases bind_eq_ok.mp accepted with ⟨others, _, accepted⟩
        rw [lookup_retireConnections data accepted, lookup_assign_of_ne (by decide), marked]

end Steps

/-! ## The chain -/

section Chain

variable {interpreter : Interpreter} {data : JsonObject}

end Chain

end Persistence
end Synesthesia
