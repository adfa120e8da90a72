import Synesthesia.Persistence.MigrationEscapes

namespace Synesthesia
namespace Persistence

open Foundation

/-!
# What the graph migrations keep

On a document whose nodes have texts as identifiers and types, and whose
connections have texts as ends, no lookup of a migration can fail.  Each step
then is a plain change of the two lists: the nodes of the prototype get their
defaults, the connections their presentation state, the inputs of Statistics
nodes their new name, and what is retired goes.
-/

/-! ## Well-shaped documents -/

/-- The text in a field. -/
def textField (key : String) (fields : JsonObject) : String :=
  match field fields key with
  | .str text => text
  | _ => ""

def endpointKeys : List String :=
  ["source_node_id", "source_port_id", "destination_node_id", "destination_port_id"]

/-- A document with these nodes and connections, which have the fields that a
migration reads. -/
structure WellShaped (data : JsonObject) (nodes connections : List JsonObject) : Prop where
  nodeList : Dict.lookup "nodes" data = some (.list (nodes.map .object))
  connectionList : Dict.lookup "connections" data = some (.list (connections.map .object))
  identified : ∀ node ∈ nodes, ∀ key ∈ ["id", "type_id"], ∃ text, field node key = .str text
  distinct : (nodes.map (textField "id")).Nodup
  joined : ∀ connection ∈ connections, ∀ key ∈ endpointKeys,
    ∃ text, field connection key = .str text

/-- An identifier is that of a node of a type. -/
def hasType (nodes : List JsonObject) (typeId nodeId : String) : Bool :=
  nodes.any (fun node => textField "id" node = nodeId && textField "type_id" node = typeId)

def isOpacity (node : JsonObject) : Bool :=
  textField "type_id" node = "synmachine.image.opacity"

/-- A connection touches an Opacity node or a socket of the fourth channel. -/
def touchesRetired (nodes : List JsonObject) (connection : JsonObject) : Bool :=
  hasType nodes "synmachine.image.opacity" (textField "source_node_id" connection) ||
    hasType nodes "synmachine.image.opacity" (textField "destination_node_id" connection) ||
    (hasType nodes "synmachine.image.combine_channels"
        (textField "destination_node_id" connection) &&
      textField "destination_port_id" connection = "channel_4") ||
    (hasType nodes "synmachine.image.separate_channels" (textField "source_node_id" connection) &&
      textField "source_port_id" connection = "channel_4")

/-- A connection ends at the old input of a Statistics node. -/
def endsAtValues (nodes : List JsonObject) (connection : JsonObject) : Bool :=
  hasType nodes "synmachine.utility.statistics" (textField "destination_node_id" connection) &&
    textField "destination_port_id" connection = "values"

/-- Both ends of a connection are identifiers of nodes. -/
def JoinsNodes (nodes : List JsonObject) (connection : JsonObject) : Prop :=
  textField "source_node_id" connection ∈ nodes.map (textField "id") ∧
    textField "destination_node_id" connection ∈ nodes.map (textField "id")

variable {key : String}

theorem field_of_text {fields : JsonObject}
    (isText : ∃ text, field fields key = .str text) :
    field fields key = .str (textField key fields) := by
  rcases isText with ⟨text, found⟩
  rw [textField, found]

theorem textField_congr {fields others : JsonObject}
    (same : Dict.lookup key fields = Dict.lookup key others) :
    textField key fields = textField key others := by
  rw [textField, textField, field_congr same]

theorem hasType_iff {nodes : List JsonObject} {typeId nodeId : String} :
    hasType nodes typeId nodeId = true ↔
      ∃ node ∈ nodes, textField "id" node = nodeId ∧ textField "type_id" node = typeId := by
  simp only [hasType, List.any_eq_true, Bool.and_eq_true, decide_eq_true_eq]

/-- Changing the nodes without their identities changes no type. -/
theorem hasType_map {change : JsonObject → JsonObject}
    (keeps : ∀ node, textField "id" (change node) = textField "id" node ∧
      textField "type_id" (change node) = textField "type_id" node)
    (nodes : List JsonObject) (typeId nodeId : String) :
    hasType (nodes.map change) typeId nodeId = hasType nodes typeId nodeId := by
  rw [hasType, List.any_map, hasType]
  apply List.any_congr rfl
  intro node
  rw [Function.comp_apply, (keeps node).1, (keeps node).2]

/-! ## The lookups of a migration -/

section Lookups

variable {nodes : List JsonObject}

/-- With distinct identifiers, the node of an identifier is the only one. -/
theorem hasType_self (distinct : (nodes.map (textField "id")).Nodup) {node : JsonObject}
    (member : node ∈ nodes) (typeId : String) :
    hasType nodes typeId (textField "id" node) = decide (textField "type_id" node = typeId) := by
  rw [Bool.eq_iff_iff, hasType_iff, decide_eq_true_eq]
  constructor
  · rintro ⟨other, listed, same, typed⟩
    rw [← List.inj_on_of_nodup_map distinct listed member same]
    exact typed
  · exact fun typed => ⟨node, member, rfl, typed⟩

theorem isText_of_text {fields : JsonObject} {key : String}
    (known : ∃ text, field fields key = .str text) (expected : String) :
    isText (field fields key) expected = decide (textField key fields = expected) := by
  rw [field_of_text known, isText]

/-- Rename the input of a Statistics node. -/
def renameValues (nodes : List JsonObject) (connection : JsonObject) : JsonObject :=
  if endsAtValues nodes connection then
    Dict.assign "destination_port_id" (.str "values_1") connection
  else connection

variable (identified : ∀ node ∈ nodes, ∀ key ∈ ["id", "type_id"],
  ∃ text, field node key = .str text)
include identified

theorem mem_idsOfType (typeId nodeId : String) :
    nodeId ∈ idsOfType typeId (nodes.map .object) ↔ hasType nodes typeId nodeId = true := by
  rw [hasType_iff, idsOfType, List.mem_filterMap]
  constructor
  · rintro ⟨item, member, found⟩
    rcases List.mem_map.mp member with ⟨node, listed, same⟩
    rw [← same] at found
    dsimp only at found
    rw [field_of_text (identified node listed "id" (by decide)),
      field_of_text (identified node listed "type_id" (by decide))] at found
    rw [isText] at found
    dsimp only at found
    by_cases typed : textField "type_id" node = typeId
    · rw [if_pos (decide_eq_true typed)] at found
      exact ⟨node, listed, Option.some.inj found, typed⟩
    · rw [if_neg (by simpa using typed)] at found
      cases found
  · rintro ⟨node, listed, named, typed⟩
    refine ⟨.object node, List.mem_map_of_mem listed, ?_⟩
    dsimp only
    rw [field_of_text (identified node listed "id" (by decide)),
      field_of_text (identified node listed "type_id" (by decide))]
    rw [isText]
    dsimp only
    rw [if_pos (decide_eq_true typed), named]

theorem inIds_idsOfType (typeId : String) {fields : JsonObject} {key : String}
    (isText : ∃ text, field fields key = .str text) :
    inIds (idsOfType typeId (nodes.map .object)) (field fields key) =
      .ok (hasType nodes typeId (textField key fields)) := by
  rw [field_of_text isText, inIds]
  apply congrArg Except.ok
  rw [Bool.eq_iff_iff, decide_eq_true_eq]
  exact mem_idsOfType identified typeId _

theorem keepNodes_eq {kept : List JsonObject}
    (inside : ∀ node ∈ kept, node ∈ nodes) :
    keepNodes (opacityIds (nodes.map .object)) (kept.map .object) =
      .ok ((kept.filter (fun node =>
        !hasType nodes "synmachine.image.opacity" (textField "id" node))).map .object) := by
  induction kept with
  | nil => rfl
  | cons node rest ih =>
      have member := inside node List.mem_cons_self
      rw [List.map_cons, keepNodes, ih
        (fun other listed => inside other (List.mem_cons_of_mem _ listed)), opacityIds,
        inIds_idsOfType identified _ (identified node member "id" (by decide))]
      cases retired : hasType nodes "synmachine.image.opacity" (textField "id" node) with
      | true => rw [List.filter_cons_of_neg (by rw [retired]; decide)]; rfl
      | false => rw [List.filter_cons_of_pos (by rw [retired]; decide)]; rfl

theorem isRetired_eq {connection : JsonObject}
    (joined : ∀ key ∈ endpointKeys, ∃ text, field connection key = .str text) :
    isRetired (opacityIds (nodes.map .object)) (separateIds (nodes.map .object))
      (combineIds (nodes.map .object)) connection = .ok (touchesRetired nodes connection) := by
  have source := joined "source_node_id" (by decide)
  have destination := joined "destination_node_id" (by decide)
  rw [isRetired, opacityIds, separateIds, combineIds]
  rw [inIds_idsOfType identified _ source, inIds_idsOfType identified _ destination,
    inIds_idsOfType identified _ destination, inIds_idsOfType identified _ source,
    isText_of_text (joined "destination_port_id" (by decide)),
    isText_of_text (joined "source_port_id" (by decide)), touchesRetired]
  simp only [bind, Except.bind, pure, Except.pure]
  cases hasType nodes "synmachine.image.opacity" (textField "source_node_id" connection) with
  | true => rfl
  | false =>
      cases hasType nodes "synmachine.image.opacity"
        (textField "destination_node_id" connection) with
      | true => rfl
      | false =>
          cases hasType nodes "synmachine.image.combine_channels"
              (textField "destination_node_id" connection) &&
            decide (textField "destination_port_id" connection = "channel_4") with
          | true => rfl
          | false => rfl

theorem keepConnections_eq {connections : List JsonObject}
    (joined : ∀ connection ∈ connections, ∀ key ∈ endpointKeys,
      ∃ text, field connection key = .str text) :
    keepConnections (opacityIds (nodes.map .object)) (separateIds (nodes.map .object))
        (combineIds (nodes.map .object)) (connections.map .object) =
      .ok ((connections.filter (fun connection => !touchesRetired nodes connection)).map
        .object) := by
  induction connections with
  | nil => rfl
  | cons connection rest ih =>
      rw [List.map_cons, keepConnections, ih
        (fun other listed => joined other (List.mem_cons_of_mem _ listed)),
        isRetired_eq identified (joined connection List.mem_cons_self)]
      cases retired : touchesRetired nodes connection with
      | true => rw [List.filter_cons_of_neg (by rw [retired]; decide)]; rfl
      | false => rw [List.filter_cons_of_pos (by rw [retired]; decide)]; rfl

theorem repoint_eq {connections : List JsonObject}
    (joined : ∀ connection ∈ connections, ∀ key ∈ endpointKeys,
      ∃ text, field connection key = .str text) :
    repoint (idsOfType "synmachine.utility.statistics" (nodes.map .object))
        (connections.map .object) =
      .ok ((connections.map (renameValues nodes)).map .object) := by
  induction connections with
  | nil => rfl
  | cons connection rest ih =>
      have ends := joined connection List.mem_cons_self
      rw [List.map_cons, repoint, ih
        (fun other listed => joined other (List.mem_cons_of_mem _ listed)),
        inIds_idsOfType identified _ (ends "destination_node_id" (by decide)),
        isText_of_text (ends "destination_port_id" (by decide))]
      rfl

end Lookups

/-! ## One step -/

/-- Every other field that was there is still there. -/
def KeepsFields (data next : JsonObject) : Prop :=
  ∀ key value, key ∉ ["schema_version", "nodes", "connections"] →
    Dict.lookup key data = some value → Dict.lookup key next = some value

theorem KeepsFields.trans {data next last : JsonObject} (first : KeepsFields data next)
    (second : KeepsFields next last) : KeepsFields data last :=
  fun key value other found => second key value other (first key value other found)

theorem keepsFields_assign (key : String)
    (listed : key ∈ ["schema_version", "nodes", "connections"]) (value : JsonValue)
    (data : JsonObject) : KeepsFields data (Dict.assign key value data) := by
  intro other kept unlisted found
  rw [lookup_assign_of_ne (fun same => unlisted (by rw [same]; exact listed)), found]

theorem lookup_setDefault_of_some {key other : String} {kept : JsonValue} (value : JsonValue)
    {fields : JsonObject} (found : Dict.lookup other fields = some kept) :
    Dict.lookup other (setDefault key value fields) = some kept := by
  by_cases same : other = key
  · rw [setDefault, if_pos (by rw [← same, found]; rfl), found]
  · rw [lookup_setDefault_of_ne same, found]

theorem lookup_setDefault_self (value : JsonValue) {fields : JsonObject}
    (missing : Dict.lookup key fields = none) :
    Dict.lookup key (setDefault key value fields) = some value := by
  rw [setDefault, if_neg (by rw [missing]; decide)]
  induction fields with
  | nil => exact if_pos rfl
  | cons entry rest ih =>
      rcases entry with ⟨other, stored⟩
      rw [Dict.lookup] at missing
      split_ifs at missing with same
      rw [List.cons_append, Dict.lookup, if_neg same, ih missing]

theorem keepsFields_setDefault (key : String) (value : JsonValue) (data : JsonObject) :
    KeepsFields data (setDefault key value data) :=
  fun _ _ _ found => lookup_setDefault_of_some value found

theorem keepsFields_mapObjects (key : String)
    (listed : key ∈ ["schema_version", "nodes", "connections"])
    (change : JsonObject → JsonObject) (data : JsonObject) :
    KeepsFields data (mapObjects key change data) := by
  intro other kept unlisted found
  rw [lookup_mapObjects_of_ne (fun same => unlisted (by rw [same]; exact listed)), found]

theorem onItems_objects (change : JsonObject → JsonObject) (objects : List JsonObject) :
    onItems change (.list (objects.map .object)) = .list ((objects.map change).map .object) := by
  rw [onItems, List.map_map, List.map_map]
  rfl

theorem textField_migrateNodeV0 (node : JsonObject) :
    textField "id" (migrateNodeV0 node) = textField "id" node ∧
      textField "type_id" (migrateNodeV0 node) = textField "type_id" node :=
  ⟨textField_congr (lookup_migrateNodeV0 node (by decide)),
    textField_congr (lookup_migrateNodeV0 node (by decide))⟩

theorem lookup_renameValues_of_ne {nodes : List JsonObject}
    (different : key ≠ "destination_port_id") (connection : JsonObject) :
    Dict.lookup key (renameValues nodes connection) = Dict.lookup key connection := by
  rw [renameValues]
  split_ifs
  · exact lookup_assign_of_ne different _ connection
  · rfl

section Steps

variable {data : JsonObject} {nodes connections : List JsonObject}

theorem WellShaped.migrateV0ToV1 (shaped : WellShaped data nodes connections) :
    WellShaped (migrateV0ToV1 data) (nodes.map migrateNodeV0) connections where
  nodeList := by
    rw [Persistence.migrateV0ToV1, lookup_mapObjects_self, lookup_setDefault_of_ne (by decide),
      lookup_setDefault_of_ne (by decide), lookup_setDefault_of_ne (by decide),
      lookup_setDefault_of_ne (by decide), lookup_assign_of_ne (by decide), shaped.nodeList,
      Option.map_some, onItems_objects]
  connectionList := by
    rw [Persistence.migrateV0ToV1, lookup_mapObjects_of_ne (by decide),
      lookup_setDefault_of_ne (by decide), lookup_setDefault_of_ne (by decide),
      lookup_setDefault_of_ne (by decide), lookup_setDefault_of_ne (by decide),
      lookup_assign_of_ne (by decide), shaped.connectionList]
  identified := by
    intro changed member key listed
    rcases List.mem_map.mp member with ⟨node, inside, same⟩
    have kept : ∀ key ∈ ["id", "type_id"], key ∉ ["implementation_version", "version", "position",
        "size", "parameters", "ui_state", "user_label", "collapsed"] := by decide
    rw [← same, field_congr (lookup_migrateNodeV0 node (kept key listed))]
    exact shaped.identified node inside key listed
  distinct := by
    have same : (nodes.map migrateNodeV0).map (textField "id") = nodes.map (textField "id") := by
      rw [List.map_map]
      exact List.map_congr_left (fun node _ => (textField_migrateNodeV0 node).1)
    rw [same]
    exact shaped.distinct
  joined := shaped.joined

theorem keepsFields_migrateV0ToV1 (data : JsonObject) : KeepsFields data (migrateV0ToV1 data) := by
  rw [migrateV0ToV1]
  refine (keepsFields_assign "schema_version" (by decide) (.int 1) data).trans ?_
  refine (keepsFields_setDefault "application_version" (.str applicationVersion) _).trans ?_
  refine (keepsFields_setDefault "groups" (.list []) _).trans ?_
  refine (keepsFields_setDefault "document_settings" (.object []) _).trans ?_
  refine (keepsFields_setDefault "ui_state" (.object []) _).trans ?_
  exact keepsFields_mapObjects _ (by decide) migrateNodeV0 _

theorem WellShaped.migrateV1ToV2 (shaped : WellShaped data nodes connections) :
    WellShaped (migrateV1ToV2 data) nodes
      (connections.map (setDefault "ui_state" (.object []))) where
  nodeList := by
    rw [Persistence.migrateV1ToV2, lookup_mapObjects_of_ne (by decide),
      lookup_assign_of_ne (by decide), shaped.nodeList]
  connectionList := by
    rw [Persistence.migrateV1ToV2, lookup_mapObjects_self, lookup_assign_of_ne (by decide),
      shaped.connectionList, Option.map_some, onItems_objects]
  identified := shaped.identified
  distinct := shaped.distinct
  joined := by
    intro changed member key listed
    rcases List.mem_map.mp member with ⟨connection, inside, same⟩
    have different : ∀ key ∈ endpointKeys, key ≠ "ui_state" := by decide
    rw [← same, field_congr (lookup_setDefault_of_ne (different key listed) _ connection)]
    exact shaped.joined connection inside key listed

theorem keepsFields_migrateV1ToV2 (data : JsonObject) : KeepsFields data (migrateV1ToV2 data) := by
  rw [migrateV1ToV2]
  exact (keepsFields_assign "schema_version" (by decide) (.int 2) data).trans
    (keepsFields_mapObjects _ (by decide) _ _)

theorem WellShaped.nodeItems (shaped : WellShaped data nodes connections) :
    nodeItems data = some (nodes.map .object) := by
  rw [Persistence.nodeItems, shaped.nodeList]

theorem WellShaped.connectionItems (shaped : WellShaped data nodes connections) :
    connectionItems data = some (connections.map .object) := by
  rw [Persistence.connectionItems, shaped.connectionList]

theorem renameValues_of_no_statistics
    (none : ∀ nodeId, hasType nodes "synmachine.utility.statistics" nodeId = false)
    (connection : JsonObject) : renameValues nodes connection = connection := by
  rw [renameValues, if_neg]
  rw [endsAtValues, none, Bool.false_and]
  exact Bool.false_ne_true

theorem WellShaped.migrateV2ToV3 (shaped : WellShaped data nodes connections) :
    ∃ next, migrateV2ToV3 data = .ok next ∧
      WellShaped next nodes (connections.map (renameValues nodes)) ∧ KeepsFields data next := by
  have joined : ∀ connection ∈ connections.map (renameValues nodes), ∀ key ∈ endpointKeys,
      ∃ text, field connection key = .str text := by
    intro changed member key listed
    rcases List.mem_map.mp member with ⟨connection, inside, same⟩
    rw [← same]
    by_cases port : key = "destination_port_id"
    · rw [renameValues]
      split_ifs
      · refine ⟨"values_1", ?_⟩
        rw [field, Dict.lookup_assign, if_pos port, Option.getD_some]
      · exact shaped.joined connection inside key listed
    · rw [field_congr (lookup_renameValues_of_ne port connection)]
      exact shaped.joined connection inside key listed
  rw [Persistence.migrateV2ToV3, statisticsIds, shaped.nodeItems, Option.getD_some,
    shaped.connectionItems]
  by_cases empty : idsOfType "synmachine.utility.statistics" (nodes.map .object) = []
  · have none : ∀ nodeId, hasType nodes "synmachine.utility.statistics" nodeId = false := by
      intro nodeId
      rw [← Bool.not_eq_true, ← mem_idsOfType shaped.identified, empty]
      exact List.not_mem_nil
    have unchanged : connections.map (renameValues nodes) = connections :=
      (List.map_congr_left (fun connection _ =>
        renameValues_of_no_statistics none connection)).trans (List.map_id' connections)
    rw [if_pos empty, unchanged]
    refine ⟨_, rfl, ⟨?_, ?_, shaped.identified, shaped.distinct, shaped.joined⟩,
      keepsFields_assign "schema_version" (by decide) (.int 3) data⟩
    · rw [lookup_assign_of_ne (by decide), shaped.nodeList]
    · rw [lookup_assign_of_ne (by decide), shaped.connectionList]
  · rw [if_neg empty]
    dsimp only
    rw [repoint_eq shaped.identified shaped.joined]
    refine ⟨_, rfl, ⟨?_, ?_, shaped.identified, shaped.distinct, joined⟩,
      (keepsFields_assign "schema_version" (by decide) (.int 3) data).trans
        (keepsFields_assign _ (by decide) _ _)⟩
    · rw [lookup_assign_of_ne (by decide), lookup_assign_of_ne (by decide), shaped.nodeList]
    · rw [Dict.lookup_assign, if_pos rfl]

/-- The nodes left are those that are not Opacity nodes. -/
theorem filter_retired (distinct : (nodes.map (textField "id")).Nodup) :
    nodes.filter (fun node => !hasType nodes "synmachine.image.opacity" (textField "id" node)) =
      nodes.filter (fun node => !isOpacity node) := by
  apply List.filter_congr
  intro node member
  rw [hasType_self distinct member, isOpacity]

theorem WellShaped.migrateV3ToV4 (shaped : WellShaped data nodes connections) :
    ∃ next, migrateV3ToV4 data = .ok next ∧
      WellShaped next (nodes.filter (fun node => !isOpacity node))
        (connections.filter (fun connection => !touchesRetired nodes connection)) ∧
      KeepsFields data next := by
  have finishes : ∀ reduced : JsonObject, Dict.lookup "nodes" reduced =
      some (.list ((nodes.filter (fun node => !isOpacity node)).map .object)) →
      KeepsFields data reduced →
      ∃ next, retireConnections data (nodes.map .object) reduced = .ok next ∧
        WellShaped next (nodes.filter (fun node => !isOpacity node))
          (connections.filter (fun connection => !touchesRetired nodes connection)) ∧
        KeepsFields data next := by
    intro reduced listed keeps
    rw [retireConnections, shaped.connectionItems]
    dsimp only
    rw [keepConnections_eq shaped.identified shaped.joined]
    refine ⟨_, rfl, ⟨?_, ?_, ?_, ?_, ?_⟩, keeps.trans (keepsFields_assign _ (by decide) _ _)⟩
    · rw [lookup_assign_of_ne (by decide), listed]
    · rw [Dict.lookup_assign, if_pos rfl]
    · exact fun node member => shaped.identified node (List.mem_filter.mp member).1
    · exact shaped.distinct.sublist (List.filter_sublist.map _)
    · exact fun connection member => shaped.joined connection (List.mem_filter.mp member).1
  rw [Persistence.migrateV3ToV4, shaped.nodeItems]
  dsimp only
  by_cases empty : opacityIds (nodes.map .object) = []
  · rw [if_pos empty]
    apply finishes _ _ (keepsFields_assign "schema_version" (by decide) (.int 4) data)
    have whole : nodes.filter (fun node => !isOpacity node) = nodes := by
      rw [List.filter_eq_self]
      intro node member
      cases retired : isOpacity node with
      | false => rfl
      | true =>
          have named : textField "id" node ∈ opacityIds (nodes.map .object) := by
            rw [opacityIds, mem_idsOfType shaped.identified, hasType_self shaped.distinct member]
            exact retired
          rw [empty] at named
          cases named
    rw [lookup_assign_of_ne (by decide), shaped.nodeList, whole]
  · rw [if_neg empty, keepNodes_eq shaped.identified (fun node member => member),
      filter_retired shaped.distinct]
    apply finishes _ _ ((keepsFields_assign "schema_version" (by decide) (.int 4) data).trans
      (keepsFields_assign _ (by decide) _ _))
    rw [Dict.lookup_assign, if_pos rfl]

end Steps

/-! ## All steps -/

/-- The nodes at a schema version, of a document that was read at another. -/
def nodesAt (start current : Nat) (nodes : List JsonObject) : List JsonObject :=
  (if start ≤ 3 ∧ current = 4 then nodes.filter (fun node => !isOpacity node) else nodes).map
    (fun node => if start = 0 ∧ 1 ≤ current then migrateNodeV0 node else node)

/-- What becomes of a connection that is not dropped. -/
def changeConnection (start current : Nat) (nodes : List JsonObject) (connection : JsonObject) :
    JsonObject :=
  let presented := if start ≤ 1 ∧ 2 ≤ current then
    setDefault "ui_state" (.object []) connection else connection
  if start ≤ 2 ∧ 3 ≤ current then renameValues nodes presented else presented

def connectionsAt (start current : Nat) (nodes connections : List JsonObject) :
    List JsonObject :=
  (if start ≤ 3 ∧ current = 4 then
      connections.filter (fun connection => !touchesRetired nodes connection)
    else connections).map (changeConnection start current nodes)

theorem hasType_nodesAt {start current : Nat} (before : current ≠ 4) (nodes : List JsonObject)
    (typeId nodeId : String) :
    hasType (nodesAt start current nodes) typeId nodeId = hasType nodes typeId nodeId := by
  rw [nodesAt, if_neg (fun retires => before retires.2)]
  apply hasType_map
  intro node
  split_ifs
  · exact textField_migrateNodeV0 node
  · exact ⟨rfl, rfl⟩

theorem renameValues_nodesAt {start current : Nat} (before : current ≠ 4)
    (nodes : List JsonObject) :
    renameValues (nodesAt start current nodes) = renameValues nodes := by
  funext connection
  rw [renameValues, renameValues, endsAtValues, endsAtValues, hasType_nodesAt before]

/-- No step moves the ends of a connection, and none touches the fourth channel. -/
theorem lookup_changeConnection (notState : key ≠ "ui_state")
    (notPort : key ≠ "destination_port_id") (start current : Nat) (nodes : List JsonObject)
    (connection : JsonObject) :
    Dict.lookup key (changeConnection start current nodes connection) =
      Dict.lookup key connection := by
  have presented : Dict.lookup key (if start ≤ 1 ∧ 2 ≤ current then
      setDefault "ui_state" (.object []) connection else connection) =
      Dict.lookup key connection := by
    split_ifs
    · exact lookup_setDefault_of_ne notState _ connection
    · rfl
  rw [changeConnection]
  by_cases renames : start ≤ 2 ∧ 3 ≤ current
  · rw [if_pos renames, lookup_renameValues_of_ne notPort, presented]
  · rw [if_neg renames, presented]

theorem endsAtValues_setDefault (nodes : List JsonObject) (connection : JsonObject) :
    endsAtValues nodes (setDefault "ui_state" (.object []) connection) =
      endsAtValues nodes connection := by
  rw [endsAtValues, endsAtValues,
    textField_congr (lookup_setDefault_of_ne (by decide) _ connection),
    textField_congr (lookup_setDefault_of_ne (by decide) _ connection)]

theorem lookup_changeConnection_port (start current : Nat) (nodes : List JsonObject)
    (connection : JsonObject) :
    Dict.lookup "destination_port_id" (changeConnection start current nodes connection) =
      if start ≤ 2 ∧ 3 ≤ current ∧ endsAtValues nodes connection then some (.str "values_1")
      else Dict.lookup "destination_port_id" connection := by
  have presented : ∃ shown, (if start ≤ 1 ∧ 2 ≤ current then
      setDefault "ui_state" (.object []) connection else connection) = shown ∧
      endsAtValues nodes shown = endsAtValues nodes connection ∧
      Dict.lookup "destination_port_id" shown = Dict.lookup "destination_port_id" connection := by
    split_ifs
    · exact ⟨_, rfl, endsAtValues_setDefault nodes connection,
        lookup_setDefault_of_ne (by decide) _ connection⟩
    · exact ⟨_, rfl, rfl, rfl⟩
  rcases presented with ⟨shown, same, ends, port⟩
  rw [changeConnection]
  rw [same]
  by_cases renames : start ≤ 2 ∧ 3 ≤ current
  · rw [if_pos renames, renameValues, ends]
    by_cases values : endsAtValues nodes connection = true
    · rw [if_pos values, if_pos ⟨renames.1, renames.2, values⟩, Dict.lookup_assign, if_pos rfl]
    · rw [if_neg values, if_neg (fun all => values all.2.2), port]
  · rw [if_neg renames, if_neg (fun all => renames ⟨all.1, all.2.1⟩), port]

theorem lookup_changeConnection_state (start current : Nat) (nodes : List JsonObject)
    (connection : JsonObject) :
    Dict.lookup "ui_state" (changeConnection start current nodes connection) =
      if start ≤ 1 ∧ 2 ≤ current ∧ (Dict.lookup "ui_state" connection).isNone then
        some (.object [])
      else Dict.lookup "ui_state" connection := by
  have renamed : Dict.lookup "ui_state" (changeConnection start current nodes connection) =
      Dict.lookup "ui_state" (if start ≤ 1 ∧ 2 ≤ current then
        setDefault "ui_state" (.object []) connection else connection) := by
    rw [changeConnection]
    by_cases renames : start ≤ 2 ∧ 3 ≤ current
    · rw [if_pos renames, lookup_renameValues_of_ne (by decide)]
    · rw [if_neg renames]
  rw [renamed]
  by_cases presents : start ≤ 1 ∧ 2 ≤ current
  · rw [if_pos presents]
    cases found : Dict.lookup "ui_state" connection with
    | none => rw [lookup_setDefault_self _ found, if_pos ⟨presents.1, presents.2, rfl⟩]
    | some value =>
        rw [lookup_setDefault_of_some _ found, if_neg]
        rintro ⟨_, _, missing⟩
        cases missing
  · rw [if_neg presents, if_neg (fun all => presents ⟨all.1, all.2.1⟩)]

/-- The new name is not the name of a retired socket, and neither is the old. -/
theorem touchesRetired_changeConnection (start current : Nat) (nodes : List JsonObject)
    (connection : JsonObject) :
    touchesRetired nodes (changeConnection start current nodes connection) =
      touchesRetired nodes connection := by
  have port : decide (textField "destination_port_id"
      (changeConnection start current nodes connection) = "channel_4") =
      decide (textField "destination_port_id" connection = "channel_4") := by
    have found := lookup_changeConnection_port start current nodes connection
    split_ifs at found with renames
    · have values := (Bool.and_eq_true_iff.mp renames.2.2).2
      rw [of_decide_eq_true values, textField, field, found]
      decide
    · rw [textField_congr found]
  rw [touchesRetired, touchesRetired, port,
    textField_congr (lookup_changeConnection (by decide) (by decide) start current nodes _),
    textField_congr (lookup_changeConnection (by decide) (by decide) start current nodes _),
    textField_congr (lookup_changeConnection (by decide) (by decide) start current nodes _)]

/-- A document on its way from one schema to the current one. -/
structure Progress (limit start current : Nat) (origin : JsonObject)
    (nodes connections : List JsonObject) (data : JsonObject) : Prop where
  shaped : WellShaped data (nodesAt start current nodes)
    (connectionsAt start current nodes connections)
  version : schemaVersion data = .ok current
  shallow : current < 4 → JsonValue.nestingFields data ≤ limit
  keeps : KeepsFields origin data

section Chain

variable {limit start current : Nat} {origin data : JsonObject}
  {nodes connections : List JsonObject}

theorem Progress.zero (roomy : 3 ≤ limit)
    (progress : Progress limit start 0 origin nodes connections data) (first : start = 0) :
    Progress limit start 1 origin nodes connections (migrateV0ToV1 data) := by
  have migrated := migrateV0ToV1_migrated data roomy
  have shaped := progress.shaped.migrateV0ToV1
  refine ⟨?_, migrated.version, fun _ => migrated.nesting (progress.shallow (by decide)),
    progress.keeps.trans (keepsFields_migrateV0ToV1 data)⟩
  subst first
  have same : changeConnection 0 1 nodes = changeConnection 0 0 nodes := by
    funext connection
    simp [changeConnection]
  simpa [nodesAt, connectionsAt, same, Function.comp_def] using shaped

theorem Progress.one (roomy : 3 ≤ limit)
    (progress : Progress limit start 1 origin nodes connections data) (older : start ≤ 1) :
    Progress limit start 2 origin nodes connections (migrateV1ToV2 data) := by
  have migrated := migrateV1ToV2_migrated data roomy
  have shaped := progress.shaped.migrateV1ToV2
  refine ⟨?_, migrated.version, fun _ => migrated.nesting (progress.shallow (by decide)),
    progress.keeps.trans (keepsFields_migrateV1ToV2 data)⟩
  have same : changeConnection start 2 nodes =
      setDefault "ui_state" (.object []) ∘ changeConnection start 1 nodes := by
    funext connection
    simp [changeConnection, older]
  simpa [nodesAt, connectionsAt, same] using shaped

theorem Progress.two (progress : Progress limit start 2 origin nodes connections data)
    (older : start ≤ 2) :
    ∃ next, migrateV2ToV3 data = .ok next ∧
      Progress limit start 3 origin nodes connections next := by
  rcases progress.shaped.migrateV2ToV3 with ⟨next, migrates, shaped, keeps⟩
  have migrated : Migrated limit 3 data next := migrateV2ToV3_migrated data migrates
  refine ⟨next, migrates, ?_, migrated.version,
    fun _ => migrated.nesting (progress.shallow (by decide)), progress.keeps.trans keeps⟩
  rw [renameValues_nodesAt (by decide)] at shaped
  have same : changeConnection start 3 nodes =
      renameValues nodes ∘ changeConnection start 2 nodes := by
    funext connection
    simp [changeConnection, older]
  simpa [nodesAt, connectionsAt, same] using shaped

theorem isOpacity_migrateNodeV0 (node : JsonObject) :
    isOpacity (migrateNodeV0 node) = isOpacity node := by
  rw [isOpacity, isOpacity, (textField_migrateNodeV0 node).2]

theorem touchesRetired_nodesAt (before : current ≠ 4) (nodes : List JsonObject) :
    touchesRetired (nodesAt start current nodes) = touchesRetired nodes := by
  funext connection
  simp only [touchesRetired, hasType_nodesAt before]

theorem Progress.three (progress : Progress limit start 3 origin nodes connections data)
    (older : start ≤ 3) :
    ∃ next, migrateV3ToV4 data = .ok next ∧
      Progress limit start 4 origin nodes connections next := by
  rcases progress.shaped.migrateV3ToV4 with ⟨next, migrates, shaped, keeps⟩
  refine ⟨next, migrates, ?_, migrateV3ToV4_version data migrates,
    fun impossible => absurd impossible (Nat.lt_irrefl 4), progress.keeps.trans keeps⟩
  have remaining : (nodesAt start 3 nodes).filter (fun node => !isOpacity node) =
      nodesAt start 4 nodes := by
    rw [nodesAt, nodesAt, if_neg (fun retires => absurd retires.2 (by decide)),
      if_pos ⟨older, rfl⟩, List.filter_map]
    have same : ∀ node, isOpacity (if start = 0 then migrateNodeV0 node else node) =
        isOpacity node := by
      intro node
      split_ifs
      · exact isOpacity_migrateNodeV0 node
      · rfl
    simp [Function.comp_def, same]
  have dropped : (connectionsAt start 3 nodes connections).filter
      (fun connection => !touchesRetired (nodesAt start 3 nodes) connection) =
      connectionsAt start 4 nodes connections := by
    rw [connectionsAt, connectionsAt, if_neg (fun retires => absurd retires.2 (by decide)),
      if_pos ⟨older, rfl⟩, List.filter_map, touchesRetired_nodesAt (by decide)]
    have same : changeConnection start 3 nodes = changeConnection start 4 nodes := by
      funext connection
      simp [changeConnection]
    simp only [Function.comp_def, touchesRetired_changeConnection, same]
  rw [← remaining, ← dropped]
  exact shaped

theorem migrateGraphFrom_succ {interpreter : Interpreter} {remaining : Nat} (version : Int)
    {migration : JsonObject → Except PyError JsonObject} {next : JsonObject}
    (counted : (graphSchemaVersion : Int) - (remaining + 1) = version)
    (registered : graphMigration version = some migration)
    (shallow : JsonValue.nestingFields data ≤ interpreter.deepcopyNesting)
    (migrates : migration data = .ok next) (produced : schemaVersion next = .ok (version + 1)) :
    migrateGraphFrom interpreter (remaining + 1) data =
      migrateGraphFrom interpreter remaining next := by
  rw [migrateGraphFrom, counted]
  rw [registered]
  dsimp only
  rw [deepcopy_of_le shallow]
  simp only [bind, Except.bind, migrates, produced]
  rw [if_neg (fun different => different rfl)]

/-- The rest of the chain brings a document to the current schema. -/
theorem migrateGraphFrom_progress (interpreter : Interpreter) {remaining : Nat}
    (counted : remaining + current = 4) (reached : start ≤ current)
    (progress : Progress interpreter.deepcopyNesting start current origin nodes connections
      data) :
    ∃ migrated, migrateGraphFrom interpreter remaining data = .ok migrated ∧
      Progress interpreter.deepcopyNesting start 4 origin nodes connections migrated := by
  have roomy : 3 ≤ interpreter.deepcopyNesting := by
    have roomy := interpreter.roomy
    omega
  induction remaining generalizing current data with
  | zero =>
      obtain rfl : current = 4 := by omega
      exact ⟨data, rfl, progress⟩
  | succ remaining ih =>
      have shallow := progress.shallow (by omega)
      have stage : current = 0 ∨ current = 1 ∨ current = 2 ∨ current = 3 := by omega
      rcases stage with rfl | rfl | rfl | rfl
      · obtain rfl : remaining = 3 := by omega
        have next := progress.zero roomy (by omega)
        rw [migrateGraphFrom_succ 0 rfl rfl shallow rfl next.version]
        exact ih rfl (by omega) next
      · obtain rfl : remaining = 2 := by omega
        have next := progress.one roomy reached
        rw [migrateGraphFrom_succ 1 rfl rfl shallow rfl next.version]
        exact ih rfl (by omega) next
      · obtain rfl : remaining = 1 := by omega
        rcases progress.two reached with ⟨result, migrates, next⟩
        rw [migrateGraphFrom_succ 2 rfl rfl shallow migrates next.version]
        exact ih rfl (by omega) next
      · obtain rfl : remaining = 0 := by omega
        rcases progress.three reached with ⟨result, migrates, next⟩
        rw [migrateGraphFrom_succ 3 rfl rfl shallow migrates next.version]
        exact ih rfl (by omega) next

end Chain

/-! ## The structure that is preserved -/

/-- The field of a kept connection. -/
def expectedField (version : Nat) (nodes : List JsonObject) (connection : JsonObject)
    (key : String) : Option JsonValue :=
  if key = "ui_state" ∧ version ≤ 1 ∧ (Dict.lookup "ui_state" connection).isNone then
    some (.object [])
  else if key = "destination_port_id" ∧ version ≤ 2 ∧ endsAtValues nodes connection then
    some (.str "values_1")
  else Dict.lookup key connection

/-- The migrated document has these nodes and connections left of the old ones. -/
structure StructurePreserved (version : Nat) (data : JsonObject)
    (nodes connections : List JsonObject) (migrated : JsonObject)
    (keptNodes keptConnections : List JsonObject) : Prop where
  current : schemaVersion migrated = .ok 4
  unchanged : version = 4 → migrated = data
  shaped : WellShaped migrated keptNodes keptConnections
  keepsNodes : List.Forall₂ (fun before after => textField "id" after = textField "id" before ∧
      textField "type_id" after = textField "type_id" before ∧ (1 ≤ version → after = before))
    (nodes.filter (fun node => !(decide (version ≤ 3) && isOpacity node))) keptNodes
  keepsConnections : List.Forall₂ (fun before after =>
      ∀ key, Dict.lookup key after = expectedField version nodes before key)
    (connections.filter (fun connection =>
      !(decide (version ≤ 3) && touchesRetired nodes connection))) keptConnections
  joined : (∀ connection ∈ connections, JoinsNodes nodes connection) →
    ∀ connection ∈ keptConnections, JoinsNodes keptNodes connection
  fields : KeepsFields data migrated

theorem nodesAt_four (version : Nat) (nodes : List JsonObject) :
    nodesAt version 4 nodes =
      (nodes.filter (fun node => !(decide (version ≤ 3) && isOpacity node))).map
        (fun node => if version = 0 then migrateNodeV0 node else node) := by
  by_cases older : version ≤ 3
  · simp [nodesAt, older]
  · simp [nodesAt, older]

theorem connectionsAt_four (version : Nat) (nodes connections : List JsonObject) :
    connectionsAt version 4 nodes connections =
      (connections.filter (fun connection =>
        !(decide (version ≤ 3) && touchesRetired nodes connection))).map
          (changeConnection version 4 nodes) := by
  by_cases older : version ≤ 3
  · simp [connectionsAt, older]
  · simp [connectionsAt, older]

theorem lookup_changeConnection_four (version : Nat) (nodes : List JsonObject)
    (connection : JsonObject) (key : String) :
    Dict.lookup key (changeConnection version 4 nodes connection) =
      expectedField version nodes connection key := by
  rw [expectedField]
  by_cases state : key = "ui_state"
  · subst state
    simp [lookup_changeConnection_state]
  · by_cases port : key = "destination_port_id"
    · subst port
      simp [lookup_changeConnection_port]
    · rw [lookup_changeConnection state port, if_neg (fun all => state all.1),
        if_neg (fun all => port all.1)]

/-- An end that is not retired is the end of a kept connection at a kept node. -/
theorem mem_nodesAt_four {version : Nat} {nodes : List JsonObject}
    {nodeId : String} (named : nodeId ∈ nodes.map (textField "id"))
    (kept : version ≤ 3 → hasType nodes "synmachine.image.opacity" nodeId = false) :
    nodeId ∈ (nodesAt version 4 nodes).map (textField "id") := by
  rcases List.mem_map.mp named with ⟨node, member, same⟩
  rw [nodesAt_four]
  refine List.mem_map.mpr ⟨_, List.mem_map_of_mem (List.mem_filter.mpr ⟨member, ?_⟩), ?_⟩
  · by_cases older : version ≤ 3
    · rw [decide_eq_true older, Bool.true_and, Bool.not_eq_true', ← Bool.not_eq_true]
      intro retired
      have typed := hasType_iff.mpr ⟨node, member, same, of_decide_eq_true retired⟩
      rw [kept older] at typed
      cases typed
    · rw [decide_eq_false older]
      rfl
  · rw [← same]
    split_ifs
    · exact (textField_migrateNodeV0 node).1
    · rfl

theorem textField_changeConnection_node
    (nodeKey : key ∈ ["source_node_id", "destination_node_id"]) (start current : Nat)
    (nodes : List JsonObject) (connection : JsonObject) :
    textField key (changeConnection start current nodes connection) =
      textField key connection := by
  have others : ∀ key ∈ ["source_node_id", "destination_node_id"],
      key ≠ "ui_state" ∧ key ≠ "destination_port_id" := by decide
  exact textField_congr (lookup_changeConnection (others key nodeKey).1 (others key nodeKey).2
    start current nodes connection)

/-- What is not dropped still joins nodes. -/
theorem joinsNodes_connectionsAt_four {version : Nat} {nodes connections : List JsonObject}
    (joins : ∀ connection ∈ connections, JoinsNodes nodes connection) {connection : JsonObject}
    (member : connection ∈ connectionsAt version 4 nodes connections) :
    JoinsNodes (nodesAt version 4 nodes) connection := by
  rw [connectionsAt_four] at member
  rcases List.mem_map.mp member with ⟨before, listed, same⟩
  rcases List.mem_filter.mp listed with ⟨inside, kept⟩
  have unretired : version ≤ 3 → touchesRetired nodes before = false := by
    intro older
    rw [decide_eq_true older, Bool.true_and, Bool.not_eq_true'] at kept
    exact kept
  have ends : ∀ older : version ≤ 3,
      hasType nodes "synmachine.image.opacity" (textField "source_node_id" before) = false ∧
        hasType nodes "synmachine.image.opacity" (textField "destination_node_id" before) =
          false := by
    intro older
    have untouched := unretired older
    simp only [touchesRetired, Bool.or_eq_false_iff] at untouched
    exact untouched.1.1
  rw [← same, JoinsNodes, textField_changeConnection_node (by decide),
    textField_changeConnection_node (by decide)]
  exact ⟨mem_nodesAt_four (joins before inside).1 (fun older => (ends older).1),
    mem_nodesAt_four (joins before inside).2 (fun older => (ends older).2)⟩

/-- Every well-shaped document of a supported version is migrated; the nodes and
connections that go are the retired ones, and the rest changes as documented. -/
theorem migrations_preserve_structure (interpreter : Interpreter) {data : JsonObject}
    {nodes connections : List JsonObject} {version : Nat} (supported : version ≤ 4)
    (declared : schemaVersion data = .ok version) (shaped : WellShaped data nodes connections)
    (fits : JsonValue.nestingFields data ≤ interpreter.copyNesting ∧
      JsonValue.nestingFields data ≤ interpreter.deepcopyNesting) :
    ∃ migrated keptNodes keptConnections, migrateGraphData interpreter data = .ok migrated ∧
      StructurePreserved version data nodes connections migrated keptNodes keptConnections := by
  have identity : nodesAt version version nodes = nodes ∧
      connectionsAt version version nodes connections = connections := by
    have unchanged : changeConnection version version nodes = id := by
      funext connection
      rw [changeConnection, if_neg (by omega), if_neg (by omega), id]
    rw [nodesAt, connectionsAt, if_neg (by omega), if_neg (by omega), unchanged, List.map_id]
    refine ⟨(List.map_congr_left ?_).trans (List.map_id nodes), rfl⟩
    intro node _
    rw [if_neg (by omega), id]
  have start : Progress interpreter.deepcopyNesting version version data nodes connections data :=
    ⟨by rw [identity.1, identity.2]; exact shaped, declared, fun _ => fits.2,
      fun key value other found => found⟩
  rcases migrateGraphFrom_progress interpreter (show 4 - version + version = 4 by omega)
    (Nat.le_refl version) start with ⟨migrated, migrates, finished⟩
  have remaining : ((graphSchemaVersion : Int) - version).toNat = 4 - version := by
    rw [graphSchemaVersion]
    omega
  refine ⟨migrated, nodesAt version 4 nodes, connectionsAt version 4 nodes connections, ?_, ?_⟩
  · rw [migrateGraphData, show copyJsonObject interpreter data = .ok data from if_pos fits.1]
    simp only [bind, Except.bind, declared]
    rw [if_neg (by rw [graphSchemaVersion]; omega), remaining, migrates]
  · refine ⟨finished.version, ?_, finished.shaped, ?_, ?_, ?_, finished.keeps⟩
    · intro newest
      subst newest
      cases migrates
      rfl
    · rw [nodesAt_four, List.forall₂_map_right_iff]
      apply List.forall₂_same.mpr
      intro node _
      split_ifs with prototype
      · exact ⟨(textField_migrateNodeV0 node).1, (textField_migrateNodeV0 node).2,
          fun later => absurd later (by omega)⟩
      · exact ⟨rfl, rfl, fun _ => rfl⟩
    · rw [connectionsAt_four, List.forall₂_map_right_iff]
      exact List.forall₂_same.mpr (fun connection _ =>
        lookup_changeConnection_four version nodes connection)
    · exact fun joins connection member => joinsNodes_connectionsAt_four joins member

/-! A document of the prototype with each kind of change. -/

def prototypeNodes : List JsonObject :=
  [[("id", .str "number"), ("type_id", .str "synmachine.utility.number"), ("version", .int 1)],
    [("id", .str "statistics"), ("type_id", .str "synmachine.utility.statistics")],
    [("id", .str "opacity"), ("type_id", .str "synmachine.image.opacity")]]

def prototypeConnection (source destination port : String) : JsonObject :=
  [("id", .str (source ++ destination)), ("source_node_id", .str source),
    ("source_port_id", .str "value"), ("destination_node_id", .str destination),
    ("destination_port_id", .str port)]

def prototypeConnections : List JsonObject :=
  [prototypeConnection "number" "statistics" "values",
    prototypeConnection "number" "opacity" "opacity"]

def prototypeDocument : JsonObject :=
  [("nodes", .list (prototypeNodes.map .object)),
    ("connections", .list (prototypeConnections.map .object))]

theorem prototypeDocument_shaped :
    WellShaped prototypeDocument prototypeNodes prototypeConnections where
  nodeList := rfl
  connectionList := rfl
  identified := by
    have known : ∀ id typeId others, ∀ key ∈ ["id", "type_id"], ∃ text,
        field ([("id", .str id), ("type_id", .str typeId)] ++ others) key = .str text := by
      intro id typeId others key listed
      rcases List.mem_cons.mp listed with same | listed
      · exact ⟨id, by rw [same]; rfl⟩
      · exact ⟨typeId, by rw [List.mem_singleton.mp listed]; rfl⟩
    intro node member
    rcases List.mem_cons.mp member with same | member
    · exact same ▸ known "number" "synmachine.utility.number" [("version", .int 1)]
    rcases List.mem_cons.mp member with same | member
    · exact same ▸ known "statistics" "synmachine.utility.statistics" []
    · exact List.mem_singleton.mp member ▸ known "opacity" "synmachine.image.opacity" []
  distinct := by decide
  joined := by
    have known : ∀ source destination port, ∀ key ∈ endpointKeys,
        ∃ text, field (prototypeConnection source destination port) key = .str text := by
      intro source destination port key listed
      simp only [endpointKeys, List.mem_cons, List.not_mem_nil, or_false] at listed
      rcases listed with rfl | rfl | rfl | rfl
      · exact ⟨source, rfl⟩
      · exact ⟨"value", rfl⟩
      · exact ⟨destination, rfl⟩
      · exact ⟨port, rfl⟩
    intro connection member
    rcases List.mem_cons.mp member with same | member
    · exact same ▸ known _ _ _
    · exact List.mem_singleton.mp member ▸ known _ _ _

/-- The prototype's document is migrated. -/
theorem prototypeDocument_migrates :
    ∃ migrated keptNodes keptConnections,
      migrateGraphData ⟨1000, 1000, 4300, by decide⟩ prototypeDocument = .ok migrated ∧
        StructurePreserved 0 prototypeDocument prototypeNodes prototypeConnections migrated
          keptNodes keptConnections :=
  migrations_preserve_structure ⟨1000, 1000, 4300, by decide⟩ (Nat.zero_le 4) rfl
    prototypeDocument_shaped (by decide)

end Persistence
end Synesthesia
