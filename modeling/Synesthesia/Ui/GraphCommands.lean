import Synesthesia.Foundation.UndoHistory
import Synesthesia.Persistence.DocumentContent
import Synesthesia.Persistence.SavedGraphs

namespace Synesthesia
namespace Ui

open Foundation Contracts Persistence

/-!
# The commands of the editor

`ui/commands/graph_commands.py`: the only way in which the editor changes a
document.  A command takes what it needs of the document when it is made, and
redoing or undoing it is a sequence of calls of the document.
-/

/-! ## Calls of the document -/

inductive Change where
  | restoreGroup (group : GroupModel) (replaceExisting : Bool)
  | removeGroup (id : Identifier)
  | removeGroupIfPresent (id : Identifier)
  | moveGroup (id : Identifier) (position : PyFloat × PyFloat)
  | restoreNode (node : NodeModel) (replaceExisting : Bool)
  | removeNode (id : Identifier)
  | removeNodeIfPresent (id : Identifier)
  | setPosition (id : Identifier) (position : PyFloat × PyFloat)
  | restoreConnection (connection : ConnectionModel) (replaceExistingInput : Bool)
  | removeConnection (id : Identifier)
  | removeConnectionIfPresent (id : Identifier)
  | setConnectionUiState (id : Identifier) (key : String) (value : LiteralValue)
  | removeConnectionUiStateKey (id : Identifier) (key : String)

/-- `replace(group, position=...)`, which checks the group again. -/
def repositionGroup (group : GroupModel) (position : PyFloat × PyFloat) :
    Except PyError GroupModel :=
  GraphDocument.constructGroup group.id group.kind group.title group.text position
    (.finite group.size.1, .finite group.size.2) group.color

/-- One round of `MoveGroupsCommand._apply`. -/
def applyGroupPosition (id : Identifier) (position : PyFloat × PyFloat)
    (document : GraphDocument) : Except PyError GraphDocument :=
  match document.groups.get? id with
  | none => .error (.keyError ("Unknown group: " ++ uuidText id.val))
  | some group => do
      let moved ← repositionGroup group position
      document.restoreGroup moved true

def Change.apply (document : GraphDocument) : Change → Except PyError GraphDocument
  | .restoreGroup group replaceExisting => document.restoreGroup group replaceExisting
  | .removeGroup id => document.removeGroup id
  | .removeGroupIfPresent id =>
      if (document.groups.get? id).isSome then document.removeGroup id else .ok document
  | .moveGroup id position => applyGroupPosition id position document
  | .restoreNode node replaceExisting => document.restoreNode node replaceExisting
  | .removeNode id => document.removeNode id
  | .removeNodeIfPresent id =>
      if (document.nodes.get? id).isSome then document.removeNode id else .ok document
  | .setPosition id position => document.setPosition id position
  | .restoreConnection connection replaceExistingInput =>
      document.restoreConnection connection replaceExistingInput
  | .removeConnection id => document.removeConnection id
  | .removeConnectionIfPresent id =>
      if (document.connections.get? id).isSome then document.removeConnection id else .ok document
  | .setConnectionUiState id key value => document.setConnectionUiState id key value
  | .removeConnectionUiStateKey id key => document.removeConnectionUiStateKey id key

/-- The calls in order, up to the first that raises. -/
def perform : List Change → GraphDocument → Except PyError GraphDocument
  | [], document => .ok document
  | change :: rest, document => do
      let next ← change.apply document
      perform rest next

/-! ## Commands -/

abbrev Positions := Dict Identifier (PyFloat × PyFloat)

/-- The commands with what they captured. -/
inductive GraphCommand where
  | addNode (node : NodeModel) (replacedNodes : List NodeModel)
      (replacedConnections : List ConnectionModel)
  | addGroup (group : GroupModel)
  | deleteGroups (groups : List GroupModel)
  | moveGroups (oldPositions newPositions : Positions)
  | editGroup (oldGroup newGroup : GroupModel)
  | deleteNodes (nodes : List NodeModel) (connections : List ConnectionModel)
  | moveNodes (oldPositions newPositions : Positions)
  | setParameter (nodeId : Identifier) (parameterId : String) (oldNode newNode : NodeModel)
  | setConnectionPreview (connectionId : Identifier) (oldRaw newRaw : LiteralValue)
  | randomizeParameters (oldNodes newNodes : List NodeModel)
  | randomizeNodes (oldNodes : List NodeModel) (oldConnections : List ConnectionModel)
      (newNodes : List NodeModel) (newConnections : List ConnectionModel)
  | relinkMedia (oldNode newNode : NodeModel)
  | addConnection (connection : ConnectionModel)
  | replaceConnection (connection : ConnectionModel) (replaced : Option ConnectionModel)
  | removeConnection (connection : ConnectionModel)
  | paste (nodes : List NodeModel) (connections : List ConnectionModel)

namespace GraphCommand

def restoreNodes (nodes : List NodeModel) (replaceExisting : Bool) : List Change :=
  nodes.map (fun node => .restoreNode node replaceExisting)

def restoreConnections (connections : List ConnectionModel) : List Change :=
  connections.map (fun connection => .restoreConnection connection false)

def removeNodesIfPresent (nodes : List NodeModel) : List Change :=
  nodes.map (fun node => .removeNodeIfPresent node.id)

/-- The positions in the order of their identifiers. -/
def setPositions (positions : Positions) : List Change :=
  (sortByKey Prod.fst positions.entries).map (fun entry => .setPosition entry.1 entry.2)

def moveGroupsTo (positions : Positions) : List Change :=
  (sortByKey Prod.fst positions.entries).map (fun entry => .moveGroup entry.1 entry.2)

def previewVisibleKey : String := "preview_visible"

/-- `_apply` of a preview command: an absent value removes the key. -/
def applyPreview (connectionId : Identifier) (raw : LiteralValue) : List Change :=
  if raw = .absent then [.removeConnectionUiStateKey connectionId previewVisibleKey]
  else [.setConnectionUiState connectionId previewVisibleKey raw]

/-- `_swap`: remove some nodes and connections, then add others. -/
def swap (removedNodes : List NodeModel) (removedConnections : List ConnectionModel)
    (addedNodes : List NodeModel) (addedConnections : List ConnectionModel) : List Change :=
  removedConnections.map (fun connection => .removeConnectionIfPresent connection.id) ++
    removeNodesIfPresent removedNodes ++ restoreNodes addedNodes false ++
      restoreConnections addedConnections

def redoChanges : GraphCommand → List Change
  | .addNode node replacedNodes _ =>
      removeNodesIfPresent replacedNodes ++ [.restoreNode node false]
  | .addGroup group => [.restoreGroup group false]
  | .deleteGroups groups => groups.map (fun group => .removeGroupIfPresent group.id)
  | .moveGroups _ newPositions => moveGroupsTo newPositions
  | .editGroup _ newGroup => [.restoreGroup newGroup true]
  | .deleteNodes nodes _ => removeNodesIfPresent nodes
  | .moveNodes _ newPositions => setPositions newPositions
  | .setParameter _ _ _ newNode => [.restoreNode newNode true]
  | .setConnectionPreview connectionId _ newRaw => applyPreview connectionId newRaw
  | .randomizeParameters _ newNodes => restoreNodes newNodes true
  | .randomizeNodes oldNodes oldConnections newNodes newConnections =>
      swap oldNodes oldConnections newNodes newConnections
  | .relinkMedia _ newNode => [.restoreNode newNode true]
  | .addConnection connection => [.restoreConnection connection false]
  | .replaceConnection connection _ => [.restoreConnection connection true]
  | .removeConnection connection => [.removeConnection connection.id]
  | .paste nodes connections => restoreNodes nodes false ++ restoreConnections connections

def undoChanges : GraphCommand → List Change
  | .addNode node replacedNodes replacedConnections =>
      .removeNode node.id :: restoreNodes replacedNodes false ++
        restoreConnections replacedConnections
  | .addGroup group => [.removeGroup group.id]
  | .deleteGroups groups => groups.map (fun group => .restoreGroup group false)
  | .moveGroups oldPositions _ => moveGroupsTo oldPositions
  | .editGroup oldGroup _ => [.restoreGroup oldGroup true]
  | .deleteNodes nodes connections => restoreNodes nodes false ++ restoreConnections connections
  | .moveNodes oldPositions _ => setPositions oldPositions
  | .setParameter _ _ oldNode _ => [.restoreNode oldNode true]
  | .setConnectionPreview connectionId oldRaw _ => applyPreview connectionId oldRaw
  | .randomizeParameters oldNodes _ => restoreNodes oldNodes true
  | .randomizeNodes oldNodes oldConnections newNodes newConnections =>
      swap newNodes newConnections oldNodes oldConnections
  | .relinkMedia oldNode _ => [.restoreNode oldNode true]
  | .addConnection connection => [.removeConnection connection.id]
  | .replaceConnection connection replaced =>
      .removeConnection connection.id ::
        replaced.toList.map (fun restored => .restoreConnection restored false)
  | .removeConnection connection => [.restoreConnection connection false]
  | .paste nodes _ => removeNodesIfPresent nodes

/-- Both mappings have the same keys. -/
def sameKeys (left right : Positions) : Bool :=
  left.keys.all (fun key => decide (key ∈ right.keys)) &&
    right.keys.all (fun key => decide (key ∈ left.keys))

/-- `mergeWith`, for commands of the same document and with the same `id()`. -/
def mergeWith : GraphCommand → GraphCommand → Option GraphCommand
  | .moveGroups oldPositions newPositions, .moveGroups _ otherPositions =>
      if sameKeys otherPositions newPositions then some (.moveGroups oldPositions otherPositions)
      else none
  | .moveNodes oldPositions newPositions, .moveNodes _ otherPositions =>
      if sameKeys otherPositions newPositions then some (.moveNodes oldPositions otherPositions)
      else none
  | .setParameter nodeId parameterId oldNode _, .setParameter otherId otherParameter _ newNode =>
      if otherId = nodeId ∧ otherParameter = parameterId then
        some (.setParameter nodeId parameterId oldNode newNode)
      else none
  | _, _ => none

end GraphCommand

/-! ## Making commands -/

/-- A self-contained selection with only its internal edges, as its constructor
checks. -/
structure ClipboardFragment where
  nodes : List NodeModel
  connections : List ConnectionModel
  distinctNodes : (nodes.map NodeModel.id).Nodup
  distinctConnections : (connections.map ConnectionModel.id).Nodup
  internal : ∀ connection ∈ connections, connection.sourceNodeId ∈ nodes.map NodeModel.id ∧
    connection.destinationNodeId ∈ nodes.map NodeModel.id

/-- What the editor asks for.  A randomized graph comes with the identifiers of
its new nodes; a media file with its path, its fingerprint and its size. -/
inductive EditRequest where
  | addNode (node : NodeModel) (replacedNodeIds : List Identifier)
  | addGroup (group : GroupModel)
  | deleteGroups (groupIds : List Identifier)
  | moveGroups (oldPositions newPositions : Positions)
  | editGroup (newGroup : GroupModel)
  | deleteNodes (nodeIds : List Identifier)
  | moveNodes (oldPositions newPositions : Positions)
  | setParameter (nodeId : Identifier) (parameterId : String) (value : LiteralValue)
  | setConnectionPreview (connectionId : Identifier) (visible : Bool)
  | randomizeParameters (nodes : Dict Identifier NodeModel) (own : Dict.Keyed NodeModel.id nodes)
  | randomizeNodes (nodeIds : List Identifier) (randomized : GraphSnapshot)
      (replacementIds : List Identifier)
  | relinkMedia (nodeId : Identifier) (path fingerprint : String) (size : Nat)
  | addConnection (connection : ConnectionModel)
  | replaceConnection (connection : ConnectionModel)
  | removeConnection (connectionId : Identifier)
  | paste (fragment : ClipboardFragment)

/-- The connections that touch some nodes. -/
def incidentConnections (nodeIds : List Identifier) (document : GraphDocument) :
    List ConnectionModel :=
  (GraphDocument.values document.connections).filter (fun connection =>
    decide (connection.sourceNodeId ∈ nodeIds ∨ connection.destinationNodeId ∈ nodeIds))

/-- The first connection at an input. -/
def incomingConnection (connection : ConnectionModel) (document : GraphDocument) :
    Option ConnectionModel :=
  (GraphDocument.values document.connections).find? (fun other =>
    GraphDocument.sameInput other connection)

/-- The nodes of a selection. -/
def selectedNodes (nodeIds : List Identifier) (document : GraphDocument) : List NodeModel :=
  (GraphDocument.values document.nodes).filter (fun node => decide (node.id ∈ nodeIds))

/-- `len(selected)` of a set. -/
def selectionSize (nodeIds : List Identifier) : Nat := nodeIds.dedup.length

def relinkedMediaNode (node : NodeModel) (path fingerprint : String) (size : Nat) :
    Except PyError NodeModel :=
  match mediaParameterId node.typeId with
  | none => .error (.valueError (node.typeId ++ " declares no relinkable media reference"))
  | some parameterId => .ok { node with
      parameters := node.parameters.insert parameterId (.str path)
      uiState := persistedUiState path (some (fingerprint, size)) node.uiState }

/-- Look up the captured nodes of a mapping, in its order. -/
def capturedNodes (document : GraphDocument) : List NodeModel → Except PyError (List NodeModel)
  | [] => .ok []
  | node :: rest => do
      let old ← document.requireNode node.id
      let others ← capturedNodes document rest
      return old :: others

namespace GraphCommand

/-- The constructors, and for randomized nodes what the session computes from
the two graphs.  `incompatibility` is the compiler's objection to an edge. -/
def create (incompatibility : GraphSnapshot → ConnectionModel → Option String)
    (document : GraphDocument) : EditRequest → Except PyError GraphCommand
  | .addNode node replacedNodeIds =>
      let replaced := selectedNodes replacedNodeIds document
      if replaced.length ≠ selectionSize replacedNodeIds then
        .error (.keyError "Visualizer replacement contains an unknown node")
      else .ok (.addNode node replaced (incidentConnections replacedNodeIds document))
  | .addGroup group => .ok (.addGroup group)
  | .deleteGroups groupIds => .ok (.deleteGroups
      ((GraphDocument.values document.groups).filter (fun group => decide (group.id ∈ groupIds))))
  | .moveGroups oldPositions newPositions =>
      if sameKeys oldPositions newPositions then .ok (.moveGroups oldPositions newPositions)
      else .error (.valueError "Group move position maps must contain the same IDs")
  | .editGroup newGroup =>
      match document.groups.get? newGroup.id with
      | none => .error (.keyError ("Unknown group: " ++ uuidText newGroup.id.val))
      | some oldGroup => .ok (.editGroup oldGroup newGroup)
  | .deleteNodes nodeIds =>
      let nodes := selectedNodes nodeIds document
      .ok (.deleteNodes nodes (incidentConnections (nodes.map NodeModel.id) document))
  | .moveNodes oldPositions newPositions =>
      if sameKeys oldPositions newPositions then .ok (.moveNodes oldPositions newPositions)
      else .error (.valueError "Move command position maps must contain the same node IDs")
  | .setParameter nodeId parameterId value => do
      let node ← document.requireNode nodeId
      return .setParameter nodeId parameterId node
        (node.withParameters (node.parameters.insert parameterId value))
  | .setConnectionPreview connectionId visible => do
      let connection ← document.requireConnection connectionId
      return .setConnectionPreview connectionId
        ((connection.uiState.get? previewVisibleKey).getD .absent) (.bool visible)
  | .randomizeParameters nodes _ => do
      let newNodes := GraphDocument.values nodes
      let oldNodes ← capturedNodes document newNodes
      return .randomizeParameters oldNodes newNodes
  | .randomizeNodes nodeIds randomized replacementIds =>
      let oldNodes := selectedNodes nodeIds document
      if oldNodes.length ≠ selectionSize nodeIds then
        .error (.keyError "Randomize Nodes selection contains an unknown node")
      else
        let newNodes := sortByKey NodeModel.id
          (randomized.nodes.filter (fun node => decide (node.id ∈ replacementIds)))
        let newConnections := randomized.connections.filter (fun connection =>
          match document.connections.get? connection.id with
          | some original => !original.equals connection
          | none => true)
        .ok (.randomizeNodes oldNodes (incidentConnections nodeIds document) newNodes
          newConnections)
  | .relinkMedia nodeId path fingerprint size => do
      let node ← document.requireNode nodeId
      let relinked ← relinkedMediaNode node path fingerprint size
      return .relinkMedia node relinked
  | .addConnection connection =>
      if (incomingConnection connection document).isSome then
        .error (.valueError "Destination input is occupied; use ReplaceConnectionCommand")
      else
        match incompatibility document.snapshot connection with
        | some detail => .error (.valueError detail)
        | none => .ok (.addConnection connection)
  | .replaceConnection connection =>
      match incompatibility document.snapshot connection with
      | some detail => .error (.valueError detail)
      | none => .ok (.replaceConnection connection (incomingConnection connection document))
  | .removeConnection connectionId => do
      let connection ← document.requireConnection connectionId
      return .removeConnection connection
  | .paste fragment => .ok (.paste fragment.nodes fragment.connections)

end GraphCommand

/-- The commands of the editor on an undo stack; one that raises is no step. -/
def graphCommands (incompatibility : GraphSnapshot → ConnectionModel → Option String) :
    CommandSystem GraphDocument EditRequest GraphCommand where
  make request document := (GraphCommand.create incompatibility document request).toOption
  redo command document := (perform command.redoChanges document).toOption
  undo command document := (perform command.undoChanges document).toOption
  merge last command := last.mergeWith command

end Ui
end Synesthesia
