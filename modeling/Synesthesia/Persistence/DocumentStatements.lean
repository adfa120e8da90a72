import Synesthesia.Persistence.GraphDocument

namespace Synesthesia
namespace Persistence

open Foundation Contracts

/-!
# The document, statement by statement

The methods of `GraphDocument` as sequences of statements on the object.  An
exception leaves behind what the statements before it have stored, so whether a
failed operation changes anything is a question here.  Every method turns out to
be the operation of the same name: it stores nothing before its last check.
-/

/-- Statements on the document that may raise. -/
abbrev Statements := EStateM PyError GraphDocument

namespace Statements

/-! ## Single statements -/

section Single

variable {Value Result : Type} (document : GraphDocument)

@[simp] theorem pure_apply (value : Value) :
    (pure value : Statements Value) document = .ok value document := rfl

@[simp] theorem bind_apply (first : Statements Value) (next : Value → Statements Result) :
    (first >>= next) document = match first document with
      | .ok value later => next value later
      | .error error later => .error error later := by
  change EStateM.bind first next document = _
  rw [EStateM.bind]
  cases first document with
  | ok value later => rfl
  | error error later => rfl

@[simp] theorem get_apply : (get : Statements GraphDocument) document = .ok document document := rfl

@[simp] theorem modify_apply (change : GraphDocument → GraphDocument) :
    (modify change : Statements Unit) document = .ok () (change document) := rfl

@[simp] theorem throw_apply (error : PyError) :
    (throw error : Statements Value) document = .error error document := rfl

end Single

def touch : Statements Unit := modify GraphDocument.touch

/-- `self._nodes[id] = node`. -/
def storeNode (id : Identifier) (node : NodeModel) : Statements Unit :=
  modify (fun document => { document with nodes := document.nodes.insert id node })

/-- `self._connections[id] = connection`. -/
def storeConnection (id : Identifier) (connection : ConnectionModel) : Statements Unit :=
  modify (fun document =>
    { document with connections := document.connections.insert id connection })

/-- `self._groups[id] = group`. -/
def storeGroup (id : Identifier) (group : GroupModel) : Statements Unit :=
  modify (fun document => { document with groups := document.groups.insert id group })

/-- Rebuild the connections from those that are kept. -/
def keepConnections (keep : ConnectionModel → Bool) : Statements Unit :=
  modify (fun document =>
    { document with connections := document.connections.filter (fun entry => keep entry.2) })

def requireNode (id : Identifier) : Statements NodeModel := do
  match (← get).nodes.get? id with
  | some node => return node
  | none => throw (.keyError ("Unknown node: " ++ uuidText id.val))

def requireConnection (id : Identifier) : Statements ConnectionModel := do
  match (← get).connections.get? id with
  | some connection => return connection
  | none => throw (.keyError ("Unknown connection: " ++ uuidText id.val))

/-! ## Groups -/

def restoreGroup (group : GroupModel) (replaceExisting : Bool) : Statements Unit := do
  let existing := (← get).groups.get? group.id
  if existing.isSome && !replaceExisting then
    throw (.valueError ("Group already exists: " ++ uuidText group.id.val))
  if existing.any (fun stored => stored.equals group) then return
  storeGroup group.id group
  touch

def addGroup (id : Identifier) (kind : GroupKind) (title text : String)
    (position size : PyFloat × PyFloat) (color : String) : Statements Unit := do
  match GraphDocument.constructGroup id kind title text position size color with
  | .error error => throw error
  | .ok group => restoreGroup group false

def removeGroup (id : Identifier) : Statements Unit := do
  if ((← get).groups.get? id).isNone then
    throw (.keyError ("Unknown group: " ++ uuidText id.val))
  modify (fun document => { document with groups := document.groups.erase id })
  touch

/-! ## Nodes -/

def addNode (id : Identifier) (typeId : String) (implementationVersion : Int)
    (parameters : Dict String LiteralValue) (position : PyFloat × PyFloat) :
    Statements Unit := do
  if ((← get).nodes.get? id).isSome then
    throw (.valueError ("Node already exists: " ++ uuidText id.val))
  if positive : 1 ≤ implementationVersion.toNat then
    storeNode id ⟨id, typeId, implementationVersion.toNat, parameters, position, none, none, false,
      Dict.empty, positive⟩
    touch
  else throw (.valueError "implementation_version must be at least 1")

def restoreNode (node : NodeModel) (replaceExisting : Bool) : Statements Unit := do
  let existing := (← get).nodes.get? node.id
  if existing.isSome && !replaceExisting then
    throw (.valueError ("Node already exists: " ++ uuidText node.id.val))
  if existing.any (fun stored => stored.equals node) then return
  storeNode node.id node
  touch

def removeNode (id : Identifier) : Statements Unit := do
  if ((← get).nodes.get? id).isNone then
    throw (.keyError ("Unknown node: " ++ uuidText id.val))
  modify (fun document => { document with nodes := document.nodes.erase id })
  keepConnections (fun connection =>
    connection.sourceNodeId ≠ id && connection.destinationNodeId ≠ id)
  touch

def setParameter (id : Identifier) (parameterId : String) (value : LiteralValue) :
    Statements Unit := do
  let node ← requireNode id
  if GraphDocument.holds node.parameters parameterId value then return
  storeNode id (node.withParameters (node.parameters.insert parameterId value))
  touch

def clearParameter (id : Identifier) (parameterId : String) : Statements Unit := do
  let node ← requireNode id
  if (node.parameters.get? parameterId).isNone then return
  storeNode id (node.withParameters (node.parameters.erase parameterId))
  touch

def setPosition (id : Identifier) (position : PyFloat × PyFloat) : Statements Unit := do
  let node ← requireNode id
  if pairEquals node.position position then return
  storeNode id { node with position := position }
  touch

/-! ## Connections -/

def addConnection (sourceNodeId : Identifier) (sourcePortId : String)
    (destinationNodeId : Identifier) (destinationPortId : String) (id : Identifier)
    (replaceExisting : Bool) : Statements Unit := do
  let _ ← requireNode sourceNodeId
  let _ ← requireNode destinationNodeId
  let candidate : ConnectionModel :=
    ⟨id, sourceNodeId, sourcePortId, destinationNodeId, destinationPortId, Dict.empty⟩
  let collision := (← get).connections.get? id
  if collision.any (fun stored =>
      !(replaceExisting && GraphDocument.sameInput stored candidate)) then
    throw (.valueError ("Connection already exists: " ++ uuidText id.val))
  if replaceExisting then
    keepConnections (fun connection => !GraphDocument.sameInput connection candidate)
  storeConnection id candidate
  touch

def restoreConnection (connection : ConnectionModel) (replaceExistingInput : Bool) :
    Statements Unit := do
  let _ ← requireNode connection.sourceNodeId
  let _ ← requireNode connection.destinationNodeId
  let existing := (← get).connections.get? connection.id
  if existing.any (fun stored => !stored.equals connection &&
      !(replaceExistingInput && GraphDocument.sameInput stored connection)) then
    throw (.valueError ("Connection already exists: " ++ uuidText connection.id.val))
  if existing.any (fun stored => stored.equals connection) then return
  if replaceExistingInput then
    keepConnections (fun other => !GraphDocument.sameInput other connection)
  storeConnection connection.id connection
  touch

def removeConnection (id : Identifier) : Statements Unit := do
  if ((← get).connections.get? id).isNone then
    throw (.keyError ("Unknown connection: " ++ uuidText id.val))
  modify (fun document => { document with connections := document.connections.erase id })
  touch

def setConnectionUiState (id : Identifier) (key : String) (value : LiteralValue) :
    Statements Unit := do
  let connection ← requireConnection id
  if GraphDocument.holds connection.uiState key value then return
  storeConnection id { connection with uiState := connection.uiState.insert key value }
  touch

def removeConnectionUiStateKey (id : Identifier) (key : String) : Statements Unit := do
  let connection ← requireConnection id
  if (connection.uiState.get? key).isNone then return
  storeConnection id { connection with uiState := connection.uiState.erase key }
  touch

def setDocumentSetting (key : String) (value : LiteralValue) : Statements Unit := do
  if GraphDocument.holds (← get).documentSettings key value then return
  modify (fun document =>
    { document with documentSettings := document.documentSettings.insert key value })
  touch

/-! ## What the statements amount to -/

/-- The method that an edit calls. -/
def perform : GraphDocument.Edit → Statements Unit
  | .addGroup id kind title text position size color =>
      addGroup id kind title text position size color
  | .restoreGroup group replaceExisting => restoreGroup group replaceExisting
  | .removeGroup id => removeGroup id
  | .addNode id typeId implementationVersion parameters position =>
      addNode id typeId implementationVersion parameters position
  | .restoreNode node replaceExisting => restoreNode node replaceExisting
  | .removeNode id => removeNode id
  | .setParameter id parameterId value => setParameter id parameterId value
  | .clearParameter id parameterId => clearParameter id parameterId
  | .setPosition id position => setPosition id position
  | .addConnection sourceNodeId sourcePortId destinationNodeId destinationPortId id
      replaceExisting => addConnection sourceNodeId sourcePortId destinationNodeId
        destinationPortId id replaceExisting
  | .restoreConnection connection replaceExistingInput =>
      restoreConnection connection replaceExistingInput
  | .removeConnection id => removeConnection id
  | .setConnectionUiState id key value => setConnectionUiState id key value
  | .removeConnectionUiStateKey id key => removeConnectionUiStateKey id key
  | .setDocumentSetting key value => setDocumentSetting key value

/-- A result or an exception, with the document as it was. -/
def settle (document : GraphDocument) :
    Except PyError GraphDocument → EStateM.Result PyError GraphDocument Unit
  | .ok next => .ok () next
  | .error error => .error error document

section Settles

variable (document : GraphDocument)

@[simp] theorem settle_ok (next : GraphDocument) : settle document (.ok next) = .ok () next := rfl

@[simp] theorem settle_error (error : PyError) :
    settle document (.error error) = .error error document := rfl

theorem requireNode_apply (id : Identifier) :
    requireNode id document = match document.requireNode id with
      | .ok node => .ok node document
      | .error error => .error error document := by
  rw [requireNode, GraphDocument.requireNode, bind_apply, get_apply]
  dsimp only
  cases document.nodes.get? id with
  | none => rfl
  | some node => rfl

theorem requireConnection_apply (id : Identifier) :
    requireConnection id document = match document.requireConnection id with
      | .ok connection => .ok connection document
      | .error error => .error error document := by
  rw [requireConnection, GraphDocument.requireConnection, bind_apply, get_apply]
  dsimp only
  cases document.connections.get? id with
  | none => rfl
  | some connection => rfl

theorem restoreGroup_apply (group : GroupModel) (replaceExisting : Bool) :
    restoreGroup group replaceExisting document =
      settle document (document.restoreGroup group replaceExisting) := by
  rw [restoreGroup, GraphDocument.restoreGroup, bind_apply, get_apply]
  dsimp only
  cases found : document.groups.get? group.id with
  | none => rfl
  | some existing =>
      cases replaceExisting with
      | false => rfl
      | true =>
          cases equal : existing.equals group with
          | true => simp [equal]
          | false => simp [equal]; rfl

theorem addGroup_apply (id : Identifier) (kind : GroupKind) (title text : String)
    (position size : PyFloat × PyFloat) (color : String) :
    addGroup id kind title text position size color document =
      settle document (document.addGroup id kind title text position size color) := by
  rw [addGroup, GraphDocument.addGroup]
  cases GraphDocument.constructGroup id kind title text position size color with
  | error error => rfl
  | ok group => exact restoreGroup_apply document group false

theorem removeGroup_apply (id : Identifier) :
    removeGroup id document = settle document (document.removeGroup id) := by
  rw [removeGroup, GraphDocument.removeGroup, bind_apply, get_apply]
  dsimp only
  by_cases missing : (document.groups.get? id).isNone
  · rw [if_pos missing, if_pos missing]
    rfl
  · rw [if_neg missing, if_neg missing]
    rfl

theorem addNode_apply (id : Identifier) (typeId : String) (implementationVersion : Int)
    (parameters : Dict String LiteralValue) (position : PyFloat × PyFloat) :
    addNode id typeId implementationVersion parameters position document =
      settle document
        (document.addNode id typeId implementationVersion parameters position) := by
  rw [addNode, GraphDocument.addNode, bind_apply, get_apply]
  dsimp only
  by_cases present : (document.nodes.get? id).isSome
  · rw [if_pos present, if_pos present]
    rfl
  · rw [if_neg present, if_neg present]
    by_cases positive : 1 ≤ implementationVersion.toNat
    · rw [dif_pos positive, dif_pos positive]
      rfl
    · rw [dif_neg positive, dif_neg positive]
      rfl

theorem restoreNode_apply (node : NodeModel) (replaceExisting : Bool) :
    restoreNode node replaceExisting document =
      settle document (document.restoreNode node replaceExisting) := by
  rw [restoreNode, GraphDocument.restoreNode, bind_apply, get_apply]
  dsimp only
  cases found : document.nodes.get? node.id with
  | none => rfl
  | some existing =>
      cases replaceExisting with
      | false => rfl
      | true =>
          cases equal : existing.equals node with
          | true => simp [equal]
          | false => simp [equal]; rfl

theorem removeNode_apply (id : Identifier) :
    removeNode id document = settle document (document.removeNode id) := by
  rw [removeNode, GraphDocument.removeNode, bind_apply, get_apply]
  dsimp only
  by_cases missing : (document.nodes.get? id).isNone
  · rw [if_pos missing, if_pos missing]
    rfl
  · rw [if_neg missing, if_neg missing]
    rfl

/-- A method that requires a node and then stores another in its place, or nothing. -/
theorem replaceNode_apply (id : Identifier) (idle : NodeModel → Bool)
    (change : NodeModel → NodeModel) :
    (do
      let node ← requireNode id
      if idle node then return
      storeNode id (change node)
      touch : Statements Unit) document =
      settle document (do
        let node ← document.requireNode id
        if idle node then return document
        else return document.putNode id (change node)) := by
  rw [bind_apply, requireNode_apply]
  cases document.requireNode id with
  | error error => rfl
  | ok node =>
      change _ = settle document (if idle node then .ok document
        else .ok (document.putNode id (change node)))
      cases unchanged : idle node with
      | true => simp [unchanged]
      | false => simp [unchanged]; rfl

/-- The same for the presentation state of a connection. -/
theorem replaceUiState_apply (id : Identifier) (idle : ConnectionModel → Bool)
    (uiState : ConnectionModel → Dict String LiteralValue) :
    (do
      let connection ← requireConnection id
      if idle connection then return
      storeConnection id { connection with uiState := uiState connection }
      touch : Statements Unit) document =
      settle document (do
        let connection ← document.requireConnection id
        if idle connection then return document
        else return document.putConnectionUiState id connection (uiState connection)) := by
  rw [bind_apply, requireConnection_apply]
  cases document.requireConnection id with
  | error error => rfl
  | ok connection =>
      change _ = settle document (if idle connection then .ok document
        else .ok (document.putConnectionUiState id connection (uiState connection)))
      cases unchanged : idle connection with
      | true => simp [unchanged]
      | false => simp [unchanged]; rfl

theorem addConnection_apply (sourceNodeId : Identifier) (sourcePortId : String)
    (destinationNodeId : Identifier) (destinationPortId : String) (id : Identifier)
    (replaceExisting : Bool) :
    addConnection sourceNodeId sourcePortId destinationNodeId destinationPortId id
        replaceExisting document =
      settle document (document.addConnection sourceNodeId sourcePortId destinationNodeId
        destinationPortId id replaceExisting) := by
  rw [addConnection, GraphDocument.addConnection, bind_apply, requireNode_apply]
  cases document.requireNode sourceNodeId with
  | error error => rfl
  | ok source =>
      dsimp only
      rw [bind_apply, requireNode_apply]
      cases document.requireNode destinationNodeId with
      | error error => rfl
      | ok destination =>
          dsimp only
          rw [bind_apply, get_apply]
          dsimp only
          cases found : document.connections.get? id with
          | none => cases replaceExisting <;> rfl
          | some collision =>
              cases replaceExisting with
              | false => rfl
              | true =>
                  cases owned : GraphDocument.sameInput collision ⟨id, sourceNodeId, sourcePortId,
                    destinationNodeId, destinationPortId, Dict.empty⟩ with
                  | true => simp [owned]; rfl
                  | false => simp [owned]; rfl

theorem restoreConnection_apply (connection : ConnectionModel) (replaceExistingInput : Bool) :
    restoreConnection connection replaceExistingInput document =
      settle document (document.restoreConnection connection replaceExistingInput) := by
  rw [restoreConnection, GraphDocument.restoreConnection, bind_apply, requireNode_apply]
  cases document.requireNode connection.sourceNodeId with
  | error error => rfl
  | ok source =>
      dsimp only
      rw [bind_apply, requireNode_apply]
      cases document.requireNode connection.destinationNodeId with
      | error error => rfl
      | ok destination =>
          dsimp only
          rw [bind_apply, get_apply]
          dsimp only
          cases found : document.connections.get? connection.id with
          | none => cases replaceExistingInput <;> rfl
          | some existing =>
              cases equal : existing.equals connection with
              | true => simp [equal]; rfl
              | false =>
                  cases replaceExistingInput with
                  | false => simp [equal]; rfl
                  | true =>
                      cases owned : GraphDocument.sameInput existing connection with
                      | true => simp [equal, owned]; rfl
                      | false => simp [equal, owned]; rfl

theorem removeConnection_apply (id : Identifier) :
    removeConnection id document = settle document (document.removeConnection id) := by
  rw [removeConnection, GraphDocument.removeConnection, bind_apply, get_apply]
  dsimp only
  by_cases missing : (document.connections.get? id).isNone
  · rw [if_pos missing, if_pos missing]
    rfl
  · rw [if_neg missing, if_neg missing]
    rfl

theorem setDocumentSetting_apply (key : String) (value : LiteralValue) :
    setDocumentSetting key value document =
      settle document (document.setDocumentSetting key value) := by
  rw [setDocumentSetting, GraphDocument.setDocumentSetting, bind_apply, get_apply]
  dsimp only
  by_cases held : GraphDocument.holds document.documentSettings key value = true
  · rw [if_pos held, if_pos held]
    rfl
  · rw [if_neg held, if_neg held]
    rfl

/-- Every method either does what the operation does, or raises its error and
leaves the document as it was. -/
theorem perform_apply (action : GraphDocument.Edit) :
    perform action document = settle document (document.edit action) := by
  cases action with
  | addGroup id kind title text position size color =>
      exact addGroup_apply document id kind title text position size color
  | restoreGroup group replaceExisting => exact restoreGroup_apply document group replaceExisting
  | removeGroup id => exact removeGroup_apply document id
  | addNode id typeId implementationVersion parameters position =>
      exact addNode_apply document id typeId implementationVersion parameters position
  | restoreNode node replaceExisting => exact restoreNode_apply document node replaceExisting
  | removeNode id => exact removeNode_apply document id
  | setParameter id parameterId value =>
      exact replaceNode_apply document id
        (fun node => GraphDocument.holds node.parameters parameterId value)
        (fun node => node.withParameters (node.parameters.insert parameterId value))
  | clearParameter id parameterId =>
      exact replaceNode_apply document id (fun node => (node.parameters.get? parameterId).isNone)
        (fun node => node.withParameters (node.parameters.erase parameterId))
  | setPosition id position =>
      exact replaceNode_apply document id (fun node => pairEquals node.position position)
        (fun node => { node with position := position })
  | addConnection sourceNodeId sourcePortId destinationNodeId destinationPortId id
      replaceExisting =>
      exact addConnection_apply document sourceNodeId sourcePortId destinationNodeId
        destinationPortId id replaceExisting
  | restoreConnection connection replaceExistingInput =>
      exact restoreConnection_apply document connection replaceExistingInput
  | removeConnection id => exact removeConnection_apply document id
  | setConnectionUiState id key value =>
      exact replaceUiState_apply document id
        (fun connection => GraphDocument.holds connection.uiState key value)
        (fun connection => connection.uiState.insert key value)
  | removeConnectionUiStateKey id key =>
      exact replaceUiState_apply document id
        (fun connection => (connection.uiState.get? key).isNone)
        (fun connection => connection.uiState.erase key)
  | setDocumentSetting key value => exact setDocumentSetting_apply document key value

end Settles

end Statements

end Persistence
end Synesthesia
