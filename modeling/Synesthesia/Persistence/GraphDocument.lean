import Synesthesia.Persistence.Snapshot

namespace Synesthesia
namespace Persistence

open Foundation Contracts

/-!
# The document that is edited

`GraphDocument` of `graph/model.py`.  Every operation checks before it changes
anything, so a failed one leaves the document as it was.  The identifiers that
`uuid4` would supply are arguments.
-/

/-- `replace(node, parameters=...)`. -/
def NodeModel.withParameters (node : NodeModel) (parameters : Dict String LiteralValue) :
    NodeModel :=
  { node with parameters := parameters }

/-! ## Equality of the stored values -/

/-- `==` of floats: a NaN equals nothing.  Objects have no identity here, by which
Python's containers take one NaN as equal to itself. -/
def floatEquals : PyFloat → PyFloat → Bool
  | .nan, _ => false
  | left, right => left = right

/-- Booleans, integers and floats compare as numbers. -/
def LiteralValue.number? : LiteralValue → Option PyFloat
  | .bool value => some (.finite (if value then 1 else 0))
  | .int value => some (.finite value)
  | .float value => some value
  | _ => none

def LiteralValue.equals (left right : LiteralValue) : Bool :=
  match left.number?, right.number? with
  | some first, some second => floatEquals first second
  | none, none => left = right
  | _, _ => false

def pairEquals (left right : PyFloat × PyFloat) : Bool :=
  floatEquals left.1 right.1 && floatEquals left.2 right.2

/-- The same keys with equal values. -/
def mappingEquals (left right : Dict String LiteralValue) : Bool :=
  left.entries.length = right.entries.length && left.entries.all (fun entry =>
    match right.get? entry.1 with
    | some value => entry.2.equals value
    | none => false)

def sizeEquals : Option (PyFloat × PyFloat) → Option (PyFloat × PyFloat) → Bool
  | none, none => true
  | some left, some right => pairEquals left right
  | _, _ => false

def NodeModel.equals (left right : NodeModel) : Bool :=
  left.id = right.id && left.typeId = right.typeId &&
    left.implementationVersion = right.implementationVersion &&
    mappingEquals left.parameters right.parameters && pairEquals left.position right.position &&
    sizeEquals left.size right.size && left.userLabel = right.userLabel &&
    left.collapsed = right.collapsed && mappingEquals left.uiState right.uiState

def ConnectionModel.equals (left right : ConnectionModel) : Bool :=
  left.id = right.id && left.sourceNodeId = right.sourceNodeId &&
    left.sourcePortId = right.sourcePortId && left.destinationNodeId = right.destinationNodeId &&
    left.destinationPortId = right.destinationPortId && mappingEquals left.uiState right.uiState

def GroupModel.equals (left right : GroupModel) : Bool :=
  left.id = right.id && left.kind = right.kind && left.title = right.title &&
    left.text = right.text && left.position = right.position && left.size = right.size &&
    left.color = right.color

/-! ## The document -/

structure GraphDocument where
  documentId : Identifier
  revision : Nat
  nodes : Dict Identifier NodeModel
  connections : Dict Identifier ConnectionModel
  groups : Dict Identifier GroupModel
  documentSettings : Dict String LiteralValue

namespace GraphDocument

def new (documentId : Identifier) : GraphDocument :=
  ⟨documentId, 0, Dict.empty, Dict.empty, Dict.empty, Dict.empty⟩

def touch (document : GraphDocument) : GraphDocument :=
  { document with revision := document.revision + 1 }

/-- The values in the order of their keys. -/
def values {Value : Type} (dict : Dict Identifier Value) : List Value :=
  (sortByKey Prod.fst dict.entries).map Prod.snd

def snapshot (document : GraphDocument) : GraphSnapshot where
  documentId := document.documentId
  revision := document.revision
  nodes := values document.nodes
  connections := values document.connections
  documentSettings := document.documentSettings
  groups := values document.groups

/-- Collect values under their identifiers; a repeated one is refused. -/
def collect {Value : Type} (kind : String) (identify : Value → Identifier) :
    Dict Identifier Value → List Value → Except PyError (Dict Identifier Value)
  | collected, [] => .ok collected
  | collected, value :: rest =>
      if (collected.get? (identify value)).isSome then
        .error (.valueError ("Snapshot contains duplicate " ++ kind ++ " id: " ++
          uuidText (identify value).val))
      else collect kind identify (collected.insert (identify value) value) rest

def fromSnapshot (snapshot : GraphSnapshot) : Except PyError GraphDocument := do
  let nodes ← collect "node" NodeModel.id Dict.empty snapshot.nodes
  let connections ← collect "connection" ConnectionModel.id Dict.empty snapshot.connections
  let groups ← collect "group" GroupModel.id Dict.empty snapshot.groups
  return ⟨snapshot.documentId, snapshot.revision, nodes, connections, groups,
    snapshot.documentSettings⟩

/-! ## Groups -/

/-- The constructor of a group. -/
def constructGroup (id : Identifier) (kind : GroupKind) (title text : String)
    (position size : PyFloat × PyFloat) (color : String) : Except PyError GroupModel :=
  match position, size with
  | (.finite left, .finite top), (.finite width, .finite height) =>
      makeGroup id kind title text (left, top) (width, height) color
  | _, _ => .error (.valueError "Group position and size must be finite")

def restoreGroup (group : GroupModel) (replaceExisting : Bool) (document : GraphDocument) :
    Except PyError GraphDocument :=
  match document.groups.get? group.id with
  | some existing =>
      if replaceExisting = false then
        .error (.valueError ("Group already exists: " ++ uuidText group.id.val))
      else if existing.equals group then .ok document
      else .ok { document with groups := document.groups.insert group.id group }.touch
  | none => .ok { document with groups := document.groups.insert group.id group }.touch

def addGroup (id : Identifier) (kind : GroupKind) (title text : String)
    (position size : PyFloat × PyFloat) (color : String) (document : GraphDocument) :
    Except PyError GraphDocument := do
  let group ← constructGroup id kind title text position size color
  document.restoreGroup group false

def removeGroup (id : Identifier) (document : GraphDocument) : Except PyError GraphDocument :=
  if (document.groups.get? id).isNone then
    .error (.keyError ("Unknown group: " ++ uuidText id.val))
  else .ok { document with groups := document.groups.erase id }.touch

/-! ## Nodes -/

def requireNode (id : Identifier) (document : GraphDocument) : Except PyError NodeModel :=
  match document.nodes.get? id with
  | some node => .ok node
  | none => .error (.keyError ("Unknown node: " ++ uuidText id.val))

/-- Store a node under an identifier. -/
def putNode (id : Identifier) (node : NodeModel) (document : GraphDocument) : GraphDocument :=
  { document with nodes := document.nodes.insert id node }.touch

def addNode (id : Identifier) (typeId : String) (implementationVersion : Int)
    (parameters : Dict String LiteralValue) (position : PyFloat × PyFloat)
    (document : GraphDocument) : Except PyError GraphDocument :=
  if (document.nodes.get? id).isSome then
    .error (.valueError ("Node already exists: " ++ uuidText id.val))
  else if positive : 1 ≤ implementationVersion.toNat then
    .ok (document.putNode id ⟨id, typeId, implementationVersion.toNat, parameters, position, none,
      none, false, Dict.empty, positive⟩)
  else .error (.valueError "implementation_version must be at least 1")

def restoreNode (node : NodeModel) (replaceExisting : Bool) (document : GraphDocument) :
    Except PyError GraphDocument :=
  match document.nodes.get? node.id with
  | some existing =>
      if replaceExisting = false then
        .error (.valueError ("Node already exists: " ++ uuidText node.id.val))
      else if existing.equals node then .ok document
      else .ok (document.putNode node.id node)
  | none => .ok (document.putNode node.id node)

/-- The node and the connections that touch it. -/
def removeNode (id : Identifier) (document : GraphDocument) : Except PyError GraphDocument :=
  if (document.nodes.get? id).isNone then
    .error (.keyError ("Unknown node: " ++ uuidText id.val))
  else .ok { document with
    nodes := document.nodes.erase id
    connections := document.connections.filter (fun entry =>
      entry.2.sourceNodeId ≠ id && entry.2.destinationNodeId ≠ id) }.touch

/-- A mapping stores an equal value under the key. -/
def holds (mapping : Dict String LiteralValue) (key : String) (value : LiteralValue) : Bool :=
  match mapping.get? key with
  | some stored => stored.equals value
  | none => false

def setParameter (id : Identifier) (parameterId : String) (value : LiteralValue)
    (document : GraphDocument) : Except PyError GraphDocument := do
  let node ← document.requireNode id
  if holds node.parameters parameterId value then return document
  else
    let parameters := node.parameters.insert parameterId value
    return document.putNode id (node.withParameters parameters)

def clearParameter (id : Identifier) (parameterId : String) (document : GraphDocument) :
    Except PyError GraphDocument := do
  let node ← document.requireNode id
  if (node.parameters.get? parameterId).isNone then return document
  else return document.putNode id (node.withParameters (node.parameters.erase parameterId))

def setPosition (id : Identifier) (position : PyFloat × PyFloat) (document : GraphDocument) :
    Except PyError GraphDocument := do
  let node ← document.requireNode id
  if pairEquals node.position position then return document
  else return document.putNode id { node with position := position }

/-! ## Connections -/

def requireConnection (id : Identifier) (document : GraphDocument) :
    Except PyError ConnectionModel :=
  match document.connections.get? id with
  | some connection => .ok connection
  | none => .error (.keyError ("Unknown connection: " ++ uuidText id.val))

/-- Two connections end at the same input. -/
def sameInput (left right : ConnectionModel) : Bool :=
  left.destinationNodeId = right.destinationNodeId &&
    left.destinationPortId = right.destinationPortId

/-- Store a connection, in place of those at its input where asked. -/
def putConnection (connection : ConnectionModel) (replaceInput : Bool)
    (document : GraphDocument) : GraphDocument :=
  let kept := if replaceInput then
      document.connections.filter (fun entry => !sameInput entry.2 connection)
    else document.connections
  { document with connections := kept.insert connection.id connection }.touch

def addConnection (sourceNodeId : Identifier) (sourcePortId : String)
    (destinationNodeId : Identifier) (destinationPortId : String) (id : Identifier)
    (replaceExisting : Bool) (document : GraphDocument) : Except PyError GraphDocument := do
  let _ ← document.requireNode sourceNodeId
  let _ ← document.requireNode destinationNodeId
  let candidate : ConnectionModel :=
    ⟨id, sourceNodeId, sourcePortId, destinationNodeId, destinationPortId, Dict.empty⟩
  match document.connections.get? id with
  | some collision =>
      if replaceExisting && sameInput collision candidate then
        return document.putConnection candidate replaceExisting
      else .error (.valueError ("Connection already exists: " ++ uuidText id.val))
  | none => return document.putConnection candidate replaceExisting

def restoreConnection (connection : ConnectionModel) (replaceExistingInput : Bool)
    (document : GraphDocument) : Except PyError GraphDocument := do
  let _ ← document.requireNode connection.sourceNodeId
  let _ ← document.requireNode connection.destinationNodeId
  match document.connections.get? connection.id with
  | some existing =>
      if existing.equals connection then return document
      else if replaceExistingInput && sameInput existing connection then
        return document.putConnection connection replaceExistingInput
      else .error (.valueError ("Connection already exists: " ++ uuidText connection.id.val))
  | none => return document.putConnection connection replaceExistingInput

def removeConnection (id : Identifier) (document : GraphDocument) :
    Except PyError GraphDocument :=
  if (document.connections.get? id).isNone then
    .error (.keyError ("Unknown connection: " ++ uuidText id.val))
  else .ok { document with connections := document.connections.erase id }.touch

/-- Store the presentation state of a connection. -/
def putConnectionUiState (id : Identifier) (connection : ConnectionModel)
    (uiState : Dict String LiteralValue) (document : GraphDocument) : GraphDocument :=
  { document with
    connections := document.connections.insert id { connection with uiState := uiState } }.touch

def setConnectionUiState (id : Identifier) (key : String) (value : LiteralValue)
    (document : GraphDocument) : Except PyError GraphDocument := do
  let connection ← document.requireConnection id
  if holds connection.uiState key value then return document
  else return document.putConnectionUiState id connection (connection.uiState.insert key value)

def removeConnectionUiStateKey (id : Identifier) (key : String) (document : GraphDocument) :
    Except PyError GraphDocument := do
  let connection ← document.requireConnection id
  if (connection.uiState.get? key).isNone then return document
  else return document.putConnectionUiState id connection (connection.uiState.erase key)

/-! ## Settings -/

def setDocumentSetting (key : String) (value : LiteralValue) (document : GraphDocument) :
    Except PyError GraphDocument :=
  if holds document.documentSettings key value then .ok document
  else .ok { document with
    documentSettings := document.documentSettings.insert key value }.touch

/-! ## Edits -/

/-- The operations with their arguments. -/
inductive Edit where
  | addGroup (id : Identifier) (kind : GroupKind) (title text : String)
      (position size : PyFloat × PyFloat) (color : String)
  | restoreGroup (group : GroupModel) (replaceExisting : Bool)
  | removeGroup (id : Identifier)
  | addNode (id : Identifier) (typeId : String) (implementationVersion : Int)
      (parameters : Dict String LiteralValue) (position : PyFloat × PyFloat)
  | restoreNode (node : NodeModel) (replaceExisting : Bool)
  | removeNode (id : Identifier)
  | setParameter (id : Identifier) (parameterId : String) (value : LiteralValue)
  | clearParameter (id : Identifier) (parameterId : String)
  | setPosition (id : Identifier) (position : PyFloat × PyFloat)
  | addConnection (sourceNodeId : Identifier) (sourcePortId : String)
      (destinationNodeId : Identifier) (destinationPortId : String) (id : Identifier)
      (replaceExisting : Bool)
  | restoreConnection (connection : ConnectionModel) (replaceExistingInput : Bool)
  | removeConnection (id : Identifier)
  | setConnectionUiState (id : Identifier) (key : String) (value : LiteralValue)
  | removeConnectionUiStateKey (id : Identifier) (key : String)
  | setDocumentSetting (key : String) (value : LiteralValue)

def edit (document : GraphDocument) : Edit → Except PyError GraphDocument
  | .addGroup id kind title text position size color =>
      document.addGroup id kind title text position size color
  | .restoreGroup group replaceExisting => document.restoreGroup group replaceExisting
  | .removeGroup id => document.removeGroup id
  | .addNode id typeId implementationVersion parameters position =>
      document.addNode id typeId implementationVersion parameters position
  | .restoreNode node replaceExisting => document.restoreNode node replaceExisting
  | .removeNode id => document.removeNode id
  | .setParameter id parameterId value => document.setParameter id parameterId value
  | .clearParameter id parameterId => document.clearParameter id parameterId
  | .setPosition id position => document.setPosition id position
  | .addConnection sourceNodeId sourcePortId destinationNodeId destinationPortId id
      replaceExisting => document.addConnection sourceNodeId sourcePortId destinationNodeId
        destinationPortId id replaceExisting
  | .restoreConnection connection replaceExistingInput =>
      document.restoreConnection connection replaceExistingInput
  | .removeConnection id => document.removeConnection id
  | .setConnectionUiState id key value => document.setConnectionUiState id key value
  | .removeConnectionUiStateKey id key => document.removeConnectionUiStateKey id key
  | .setDocumentSetting key value => document.setDocumentSetting key value

/-! ## Consistent documents -/

/-- Everything is stored under its own identifier, and connections join nodes
of the document. -/
structure Consistent (document : GraphDocument) : Prop where
  nodes : Dict.Keyed NodeModel.id document.nodes
  connections : Dict.Keyed ConnectionModel.id document.connections
  groups : Dict.Keyed GroupModel.id document.groups
  attached : ∀ entry ∈ document.connections.entries,
    entry.2.sourceNodeId ∈ document.nodes.keys ∧ entry.2.destinationNodeId ∈ document.nodes.keys

theorem consistent_new (documentId : Identifier) : (new documentId).Consistent where
  nodes := Dict.keyed_empty
  connections := Dict.keyed_empty
  groups := Dict.keyed_empty
  attached := List.forall_mem_nil _

section Steps

variable {document : GraphDocument}

variable (consistent : document.Consistent)
include consistent

theorem Consistent.putGroup (group : GroupModel) :
    ({ document with groups := document.groups.insert group.id group }.touch).Consistent :=
  ⟨consistent.nodes, consistent.connections, consistent.groups.insert rfl, consistent.attached⟩

variable {id : Identifier} {node : NodeModel}

theorem Consistent.putNode (own : node.id = id) : (document.putNode id node).Consistent where
  nodes := consistent.nodes.insert own
  connections := consistent.connections
  groups := consistent.groups
  attached := by
    intro entry member
    have ends := consistent.attached entry member
    exact ⟨Dict.mem_keys_insert.mpr (Or.inr ends.1), Dict.mem_keys_insert.mpr (Or.inr ends.2)⟩

variable {connection : ConnectionModel}

/-- A connection between nodes of the document is stored. -/
theorem Consistent.putConnection (source : connection.sourceNodeId ∈ document.nodes.keys)
    (destination : connection.destinationNodeId ∈ document.nodes.keys) (replaceInput : Bool) :
    (document.putConnection connection replaceInput).Consistent where
  nodes := consistent.nodes
  connections := by
    rw [GraphDocument.putConnection]
    cases replaceInput with
    | true => exact (consistent.connections.filter _).insert rfl
    | false => exact consistent.connections.insert rfl
  groups := consistent.groups
  attached := by
    rw [GraphDocument.putConnection]
    intro entry member
    rcases Dict.mem_assign member with same | kept
    · rw [same]
      exact ⟨source, destination⟩
    · cases replaceInput with
      | true => exact consistent.attached entry (List.mem_filter.mp kept).1
      | false => exact consistent.attached entry kept

theorem Consistent.putConnectionUiState (found : document.connections.get? id = some connection)
    (uiState : Dict String LiteralValue) :
    (document.putConnectionUiState id connection uiState).Consistent where
  nodes := consistent.nodes
  connections := by
    have own : connection.id = id := consistent.connections.get? found
    exact consistent.connections.insert own
  groups := consistent.groups
  attached := by
    intro entry member
    rcases Dict.mem_assign member with same | kept
    · have ends := consistent.attached _ (Dict.mem_of_get? found)
      rw [same]
      exact ends
    · exact consistent.attached entry kept

omit consistent in
theorem requireNode_eq_ok :
    document.requireNode id = .ok node ↔ document.nodes.get? id = some node := by
  rw [requireNode]
  cases document.nodes.get? id with
  | none =>
      constructor
      · intro impossible
        cases impossible
      · intro impossible
        cases impossible
  | some found =>
      constructor
      · intro same
        cases same
        rfl
      · intro same
        cases same
        rfl

omit consistent in
theorem requireConnection_eq_ok :
    document.requireConnection id = .ok connection ↔
      document.connections.get? id = some connection := by
  rw [requireConnection]
  cases document.connections.get? id with
  | none =>
      constructor
      · intro impossible
        cases impossible
      · intro impossible
        cases impossible
  | some found =>
      constructor
      · intro same
        cases same
        rfl
      · intro same
        cases same
        rfl

omit consistent in
theorem mem_keys_of_requireNode
    (required : document.requireNode id = .ok node) : id ∈ document.nodes.keys := by
  rw [← Dict.get?_isSome, requireNode_eq_ok.mp required]
  rfl

variable {next : GraphDocument} {replaceExisting : Bool}

theorem Consistent.restoreGroup {group : GroupModel}
    (accepted : document.restoreGroup group replaceExisting = .ok next) : next.Consistent := by
  rw [GraphDocument.restoreGroup] at accepted
  split at accepted
  · split_ifs at accepted
    · cases accepted
      exact consistent
    · cases accepted
      exact consistent.putGroup group
  · cases accepted
    exact consistent.putGroup group

theorem Consistent.restoreNode
    (accepted : document.restoreNode node replaceExisting = .ok next) : next.Consistent := by
  rw [GraphDocument.restoreNode] at accepted
  split at accepted
  · split_ifs at accepted
    · cases accepted
      exact consistent
    · cases accepted
      exact consistent.putNode rfl
  · cases accepted
    exact consistent.putNode rfl

/-- The connections of a removed node go with it. -/
theorem Consistent.removeNode (accepted : document.removeNode id = .ok next) :
    next.Consistent := by
  rw [GraphDocument.removeNode] at accepted
  split_ifs at accepted
  cases accepted
  refine ⟨consistent.nodes.erase id, consistent.connections.filter _, consistent.groups, ?_⟩
  intro entry member
  rcases List.mem_filter.mp member with ⟨kept, untouched⟩
  rw [Bool.and_eq_true, decide_eq_true_eq, decide_eq_true_eq] at untouched
  have ends := consistent.attached entry kept
  exact ⟨Dict.mem_keys_erase.mpr ⟨ends.1, untouched.1⟩,
    Dict.mem_keys_erase.mpr ⟨ends.2, untouched.2⟩⟩

theorem Consistent.addConnection {sourceNodeId destinationNodeId id : Identifier}
    {sourcePortId destinationPortId : String}
    (accepted : document.addConnection sourceNodeId sourcePortId destinationNodeId
      destinationPortId id replaceExisting = .ok next) : next.Consistent := by
  rw [GraphDocument.addConnection] at accepted
  rcases bind_eq_ok.mp accepted with ⟨source, foundSource, accepted⟩
  rcases bind_eq_ok.mp accepted with ⟨destination, foundDestination, accepted⟩
  have stored : (document.putConnection ⟨id, sourceNodeId, sourcePortId, destinationNodeId,
      destinationPortId, Dict.empty⟩ replaceExisting).Consistent :=
    consistent.putConnection (mem_keys_of_requireNode foundSource)
      (mem_keys_of_requireNode foundDestination) replaceExisting
  dsimp only at accepted
  split at accepted
  · split_ifs at accepted
    cases accepted
    exact stored
  · cases accepted
    exact stored

theorem Consistent.restoreConnection {replaceExistingInput : Bool}
    (accepted : document.restoreConnection connection replaceExistingInput = .ok next) :
    next.Consistent := by
  rw [GraphDocument.restoreConnection] at accepted
  rcases bind_eq_ok.mp accepted with ⟨source, foundSource, accepted⟩
  rcases bind_eq_ok.mp accepted with ⟨destination, foundDestination, accepted⟩
  have stored : (document.putConnection connection replaceExistingInput).Consistent :=
    consistent.putConnection (mem_keys_of_requireNode foundSource)
      (mem_keys_of_requireNode foundDestination) replaceExistingInput
  split at accepted
  · split_ifs at accepted
    · cases accepted
      exact consistent
    · cases accepted
      exact stored
  · cases accepted
    exact stored

/-- An accepted edit keeps the document consistent. -/
theorem Consistent.edit {action : Edit}
    (accepted : document.edit action = .ok next) : next.Consistent := by
  cases action with
  | addGroup id kind title text position size color =>
      rcases bind_eq_ok.mp accepted with ⟨group, _, accepted⟩
      exact consistent.restoreGroup accepted
  | restoreGroup group replaceExisting => exact consistent.restoreGroup accepted
  | removeGroup id =>
      rw [GraphDocument.edit, GraphDocument.removeGroup] at accepted
      split_ifs at accepted
      cases accepted
      exact ⟨consistent.nodes, consistent.connections, consistent.groups.erase id,
        consistent.attached⟩
  | addNode id typeId implementationVersion parameters position =>
      rw [GraphDocument.edit, GraphDocument.addNode] at accepted
      split_ifs at accepted
      cases accepted
      exact consistent.putNode rfl
  | restoreNode node replaceExisting => exact consistent.restoreNode accepted
  | removeNode id => exact consistent.removeNode accepted
  | setParameter id parameterId value =>
      rcases bind_eq_ok.mp accepted with ⟨node, found, accepted⟩
      have own : node.id = id := consistent.nodes.get? (requireNode_eq_ok.mp found)
      split_ifs at accepted
      · cases accepted
        exact consistent
      · cases accepted
        exact consistent.putNode own
  | clearParameter id parameterId =>
      rcases bind_eq_ok.mp accepted with ⟨node, found, accepted⟩
      have own : node.id = id := consistent.nodes.get? (requireNode_eq_ok.mp found)
      split_ifs at accepted
      · cases accepted
        exact consistent
      · cases accepted
        exact consistent.putNode own
  | setPosition id position =>
      rcases bind_eq_ok.mp accepted with ⟨node, found, accepted⟩
      have own : node.id = id := consistent.nodes.get? (requireNode_eq_ok.mp found)
      split_ifs at accepted
      · cases accepted
        exact consistent
      · cases accepted
        exact consistent.putNode own
  | addConnection sourceNodeId sourcePortId destinationNodeId destinationPortId id
      replaceExisting => exact consistent.addConnection accepted
  | restoreConnection connection replaceExistingInput =>
      exact consistent.restoreConnection accepted
  | removeConnection id =>
      rw [GraphDocument.edit, GraphDocument.removeConnection] at accepted
      split_ifs at accepted
      cases accepted
      refine ⟨consistent.nodes, consistent.connections.erase id, consistent.groups, ?_⟩
      exact fun entry member => consistent.attached entry (List.mem_filter.mp member).1
  | setConnectionUiState id key value =>
      rcases bind_eq_ok.mp accepted with ⟨connection, found, accepted⟩
      split_ifs at accepted
      · cases accepted
        exact consistent
      · cases accepted
        exact consistent.putConnectionUiState (requireConnection_eq_ok.mp found) _
  | removeConnectionUiStateKey id key =>
      rcases bind_eq_ok.mp accepted with ⟨connection, found, accepted⟩
      split_ifs at accepted
      · cases accepted
        exact consistent
      · cases accepted
        exact consistent.putConnectionUiState (requireConnection_eq_ok.mp found) _
  | setDocumentSetting key value =>
      rw [GraphDocument.edit, GraphDocument.setDocumentSetting] at accepted
      split_ifs at accepted
      · cases accepted
        exact consistent
      · cases accepted
        exact ⟨consistent.nodes, consistent.connections, consistent.groups, consistent.attached⟩

end Steps

/-! ## Restored documents -/

section Restored

variable {Value : Type} {kind : String} {identify : Value → Identifier}

variable {collected result : Dict Identifier Value}

variable {stored : List Value}

theorem collect_keyed (keyed : Dict.Keyed identify collected)
    (accepted : collect kind identify collected stored = .ok result) :
    Dict.Keyed identify result := by
  induction stored generalizing collected with
  | nil =>
      cases accepted
      exact keyed
  | cons value rest ih =>
      rw [collect] at accepted
      split_ifs at accepted
      exact ih (keyed.insert rfl) accepted

/-- Everything that is collected is stored. -/
theorem mem_keys_collect
    (accepted : collect kind identify collected stored = .ok result) (id : Identifier) :
    id ∈ result.keys ↔ id ∈ collected.keys ∨ id ∈ stored.map identify := by
  induction stored generalizing collected with
  | nil =>
      cases accepted
      rw [List.map_nil]
      exact (or_iff_left List.not_mem_nil).symm
  | cons value rest ih =>
      rw [collect] at accepted
      split_ifs at accepted
      rw [ih accepted, Dict.mem_keys_insert, List.map_cons, List.mem_cons]
      tauto

theorem mem_of_collect (accepted : collect kind identify collected stored = .ok result)
    {entry : Identifier × Value} (member : entry ∈ result.entries) :
    entry ∈ collected.entries ∨ entry.2 ∈ stored := by
  induction stored generalizing collected with
  | nil =>
      cases accepted
      exact Or.inl member
  | cons value rest ih =>
      rw [collect] at accepted
      split_ifs at accepted
      rcases ih accepted with inserted | later
      · rcases Dict.mem_assign inserted with same | kept
        · exact Or.inr (same ▸ List.mem_cons_self)
        · exact Or.inl kept
      · exact Or.inr (List.mem_cons_of_mem _ later)

end Restored

/-- Connections of the snapshot join nodes of it. -/
def Attached (snapshot : GraphSnapshot) : Prop :=
  ∀ connection ∈ snapshot.connections,
    connection.sourceNodeId ∈ snapshot.nodes.map NodeModel.id ∧
      connection.destinationNodeId ∈ snapshot.nodes.map NodeModel.id

theorem consistent_fromSnapshot {snapshot : GraphSnapshot} {document : GraphDocument}
    (attached : Attached snapshot) (restored : fromSnapshot snapshot = .ok document) :
    document.Consistent := by
  rw [fromSnapshot] at restored
  rcases bind_eq_ok.mp restored with ⟨nodes, collectedNodes, restored⟩
  rcases bind_eq_ok.mp restored with ⟨connections, collectedConnections, restored⟩
  rcases bind_eq_ok.mp restored with ⟨groups, collectedGroups, restored⟩
  cases restored
  refine ⟨collect_keyed Dict.keyed_empty collectedNodes,
    collect_keyed Dict.keyed_empty collectedConnections,
    collect_keyed Dict.keyed_empty collectedGroups, ?_⟩
  intro entry member
  have listed := (mem_of_collect collectedConnections member).resolve_left List.not_mem_nil
  have ends := attached entry.2 listed
  exact ⟨(mem_keys_collect collectedNodes _).mpr (Or.inr ends.1),
    (mem_keys_collect collectedNodes _).mpr (Or.inr ends.2)⟩

/-! ## Snapshots -/

/-- The identifiers of the stored values are the keys. -/
theorem map_values {Value : Type} {identify : Value → Identifier} {dict : Dict Identifier Value}
    (keyed : Dict.Keyed identify dict) :
    (values dict).map identify = (sortByKey Prod.fst dict.entries).map Prod.fst := by
  rw [values, List.map_map]
  apply List.map_congr_left
  intro entry member
  exact keyed entry ((mem_sortByKey _).mp member)

theorem nodup_map_values {Value : Type} {identify : Value → Identifier}
    {dict : Dict Identifier Value} (keyed : Dict.Keyed identify dict) :
    ((values dict).map identify).Nodup := by
  rw [map_values keyed]
  exact ((sortByKey_perm Prod.fst dict.entries).map Prod.fst).nodup_iff.mpr dict.nodup

theorem mem_map_values {Value : Type} {identify : Value → Identifier}
    {dict : Dict Identifier Value} (keyed : Dict.Keyed identify dict) {id : Identifier} :
    id ∈ (values dict).map identify ↔ id ∈ dict.keys := by
  rw [map_values keyed]
  exact ((sortByKey_perm Prod.fst dict.entries).map Prod.fst).mem_iff

/-- A consistent document gives snapshots with distinct identifiers and no
dangling connection. -/
theorem Consistent.snapshot {document : GraphDocument} (consistent : document.Consistent) :
    (document.snapshot.nodes.map NodeModel.id).Nodup ∧
      (document.snapshot.connections.map ConnectionModel.id).Nodup ∧
      (document.snapshot.groups.map GroupModel.id).Nodup ∧ Attached document.snapshot := by
  refine ⟨nodup_map_values consistent.nodes, nodup_map_values consistent.connections,
    nodup_map_values consistent.groups, ?_⟩
  intro connection member
  rcases List.mem_map.mp member with ⟨entry, listed, same⟩
  have ends := consistent.attached entry ((mem_sortByKey _).mp listed)
  rw [← same]
  exact ⟨(mem_map_values consistent.nodes).mpr ends.1, (mem_map_values consistent.nodes).mpr ends.2⟩

end GraphDocument

end Persistence
end Synesthesia
