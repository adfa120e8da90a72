import Synesthesia.Persistence.GraphDocument

namespace Synesthesia
namespace Persistence

open Foundation Contracts

/-!
# What a document holds

The dictionaries of a document remember in which order their keys were set, and
its properties sort it away.  What they show of a document is its content: a
partial function for each kind of element, and the settings.  The operations act
on the content alone, whatever the order and the revision.
-/

@[ext] structure Content where
  nodes : Identifier → Option NodeModel
  connections : Identifier → Option ConnectionModel
  groups : Identifier → Option GroupModel
  documentSettings : Dict String LiteralValue

def GraphDocument.elements (document : GraphDocument) : Content :=
  ⟨document.nodes.get?, document.connections.get?, document.groups.get?,
    document.documentSettings⟩

theorem content_nodes (document : GraphDocument) (id : Identifier) :
    document.elements.nodes id = document.nodes.get? id := rfl

theorem content_connections (document : GraphDocument) (id : Identifier) :
    document.elements.connections id = document.connections.get? id := rfl

theorem content_groups (document : GraphDocument) (id : Identifier) :
    document.elements.groups id = document.groups.get? id := rfl

/-! ## Equal contents are equal snapshots -/

theorem values_eq_of_get? {Value : Type} {left right : Dict Identifier Value}
    (same : left.get? = right.get?) : GraphDocument.values left = GraphDocument.values right := by
  have rearranged : (sortByKey Prod.fst left.entries).Perm (sortByKey Prod.fst right.entries) :=
    ((sortByKey_perm _ _).trans (Dict.perm_of_get? (congrFun same))).trans
      (sortByKey_perm _ _).symm
  have equal : sortByKey Prod.fst left.entries = sortByKey Prod.fst right.entries := by
    refine rearranged.eq_of_pairwise ?_ (sortByKey_pairwise _ _) (sortByKey_pairwise _ _)
    rintro ⟨key, value⟩ ⟨other, otherValue⟩ inLeft inRight before after
    have sameKey : key = other := le_antisymm before after
    subst sameKey
    have here := Dict.get?_of_mem ((mem_sortByKey _).mp inLeft)
    have there := Dict.get?_of_mem ((mem_sortByKey _).mp inRight)
    rw [same, there] at here
    rw [Option.some.inj here]
  rw [GraphDocument.values, equal, GraphDocument.values]

/-- Documents with the same content show the same elements. -/
theorem snapshot_eq_of_content {left right : GraphDocument}
    (same : left.elements = right.elements) :
    left.snapshot.nodes = right.snapshot.nodes ∧
      left.snapshot.connections = right.snapshot.connections ∧
      left.snapshot.groups = right.snapshot.groups ∧
      left.snapshot.documentSettings = right.snapshot.documentSettings := by
  injection same with nodes connections groups settings
  exact ⟨values_eq_of_get? nodes, values_eq_of_get? connections, values_eq_of_get? groups, settings⟩

/-! ## Operations on contents -/

namespace Content

def setNode (id : Identifier) (node : Option NodeModel) (content : Content) : Content :=
  { content with nodes := Function.update content.nodes id node }

def setGroup (id : Identifier) (group : Option GroupModel) (content : Content) : Content :=
  { content with groups := Function.update content.groups id group }

def setConnection (id : Identifier) (connection : Option ConnectionModel) (content : Content) :
    Content :=
  { content with connections := Function.update content.connections id connection }

theorem nodes_setNode (content : Content) (id other : Identifier) (node : Option NodeModel) :
    (content.setNode id node).nodes other = if other = id then node else content.nodes other :=
  Function.update_apply _ _ _ _

theorem groups_setGroup (content : Content) (id other : Identifier) (group : Option GroupModel) :
    (content.setGroup id group).groups other =
      if other = id then group else content.groups other :=
  Function.update_apply _ _ _ _

theorem connections_setConnection (content : Content) (id other : Identifier)
    (connection : Option ConnectionModel) :
    (content.setConnection id connection).connections other =
      if other = id then connection else content.connections other :=
  Function.update_apply _ _ _ _

/-- Keep the connections that pass a test. -/
def keepConnections (keep : ConnectionModel → Bool) (content : Content) : Content :=
  { content with connections := fun id => (content.connections id).filter keep }

def restoreGroup (group : GroupModel) (replaceExisting : Bool) (content : Content) :
    Option Content :=
  match content.groups group.id with
  | some existing =>
      if replaceExisting = false then none
      else if existing.equals group then some content
      else some (content.setGroup group.id group)
  | none => some (content.setGroup group.id group)

def removeGroup (id : Identifier) (content : Content) : Option Content :=
  if (content.groups id).isNone then none else some (content.setGroup id none)

def restoreNode (node : NodeModel) (replaceExisting : Bool) (content : Content) :
    Option Content :=
  match content.nodes node.id with
  | some existing =>
      if replaceExisting = false then none
      else if existing.equals node then some content
      else some (content.setNode node.id node)
  | none => some (content.setNode node.id node)

/-- Neither end of the connection is the node. -/
def avoids (id : Identifier) (connection : ConnectionModel) : Bool :=
  connection.sourceNodeId ≠ id && connection.destinationNodeId ≠ id

def removeNode (id : Identifier) (content : Content) : Option Content :=
  if (content.nodes id).isNone then none
  else some ((content.setNode id none).keepConnections (avoids id))

def setPosition (id : Identifier) (position : PyFloat × PyFloat) (content : Content) :
    Option Content :=
  (content.nodes id).map (fun node =>
    if pairEquals node.position position then content
    else content.setNode id (some { node with position := position }))

/-- Store a connection, in place of those at its input where asked. -/
def putConnection (connection : ConnectionModel) (replaceInput : Bool) (content : Content) :
    Content :=
  (if replaceInput then
      content.keepConnections (fun other => !GraphDocument.sameInput other connection)
    else content).setConnection connection.id connection

def restoreConnection (connection : ConnectionModel) (replaceExistingInput : Bool)
    (content : Content) : Option Content :=
  if (content.nodes connection.sourceNodeId).isNone ∨
      (content.nodes connection.destinationNodeId).isNone then none
  else
    match content.connections connection.id with
    | some existing =>
        if existing.equals connection then some content
        else if replaceExistingInput && GraphDocument.sameInput existing connection then
          some (content.putConnection connection replaceExistingInput)
        else none
    | none => some (content.putConnection connection replaceExistingInput)

def removeConnection (id : Identifier) (content : Content) : Option Content :=
  if (content.connections id).isNone then none else some (content.setConnection id none)

def setConnectionUiState (id : Identifier) (key : String) (value : LiteralValue)
    (content : Content) : Option Content :=
  (content.connections id).map (fun connection =>
    if GraphDocument.holds connection.uiState key value then content
    else content.setConnection id
      (some { connection with uiState := connection.uiState.insert key value }))

def removeConnectionUiStateKey (id : Identifier) (key : String) (content : Content) :
    Option Content :=
  (content.connections id).map (fun connection =>
    if (connection.uiState.get? key).isNone then content
    else content.setConnection id
      (some { connection with uiState := connection.uiState.erase key }))

end Content

/-! ## The operations of a document act on its content -/

/-- An operation of a document that succeeds as one of contents does, with its
result. -/
def Tracks (onDocument : GraphDocument → Except PyError GraphDocument)
    (onContent : Content → Option Content) : Prop :=
  ∀ document, (onDocument document).toOption.map GraphDocument.elements =
    onContent document.elements

theorem get?_insert_eq_update {Value : Type} (dict : Dict Identifier Value) (key : Identifier)
    (value : Value) :
    (dict.insert key value).get? = Function.update dict.get? key (some value) := by
  funext other
  rw [Dict.get?_insert, Function.update_apply]

theorem get?_erase_eq_update {Value : Type} (dict : Dict Identifier Value) (key : Identifier) :
    (dict.erase key).get? = Function.update dict.get? key none := by
  funext other
  rw [Dict.get?_erase, Function.update_apply]

theorem content_putGroup (document : GraphDocument) (group : GroupModel) :
    ({ document with groups := document.groups.insert group.id group }.touch).elements =
      document.elements.setGroup group.id group := by
  simp only [GraphDocument.elements, GraphDocument.touch, Content.setGroup, get?_insert_eq_update]

theorem content_putNode (document : GraphDocument) (id : Identifier) (node : NodeModel) :
    (document.putNode id node).elements = document.elements.setNode id node := by
  simp only [GraphDocument.elements, GraphDocument.putNode, GraphDocument.touch, Content.setNode,
    get?_insert_eq_update]

theorem tracks_restoreGroup (group : GroupModel) (replaceExisting : Bool) :
    Tracks (fun document => document.restoreGroup group replaceExisting)
      (Content.restoreGroup group replaceExisting) := by
  intro document
  dsimp only
  rw [GraphDocument.restoreGroup, Content.restoreGroup, content_groups]
  cases document.groups.get? group.id with
  | none => exact congrArg some (content_putGroup document group)
  | some existing =>
      dsimp only
      split_ifs
      · rfl
      · rfl
      · exact congrArg some (content_putGroup document group)

theorem tracks_restoreNode (node : NodeModel) (replaceExisting : Bool) :
    Tracks (fun document => document.restoreNode node replaceExisting)
      (Content.restoreNode node replaceExisting) := by
  intro document
  dsimp only
  rw [GraphDocument.restoreNode, Content.restoreNode, content_nodes]
  cases document.nodes.get? node.id with
  | none => exact congrArg some (content_putNode document node.id node)
  | some existing =>
      dsimp only
      split_ifs
      · rfl
      · rfl
      · exact congrArg some (content_putNode document node.id node)

theorem tracks_removeGroup (id : Identifier) :
    Tracks (fun document => document.removeGroup id) (Content.removeGroup id) := by
  intro document
  dsimp only
  rw [GraphDocument.removeGroup, Content.removeGroup, content_groups]
  split_ifs
  · rfl
  · refine congrArg some ?_
    simp only [GraphDocument.elements, GraphDocument.touch, Content.setGroup, get?_erase_eq_update]

theorem tracks_removeNode (id : Identifier) :
    Tracks (fun document => document.removeNode id) (Content.removeNode id) := by
  intro document
  dsimp only
  rw [GraphDocument.removeNode, Content.removeNode, content_nodes]
  split_ifs
  · rfl
  · refine congrArg some ?_
    simp only [GraphDocument.elements, GraphDocument.touch, Content.setNode,
      Content.keepConnections, get?_erase_eq_update, Content.mk.injEq, true_and, and_true]
    funext other
    exact Dict.get?_filter _ _ _

theorem tracks_removeConnection (id : Identifier) :
    Tracks (fun document => document.removeConnection id) (Content.removeConnection id) := by
  intro document
  dsimp only
  rw [GraphDocument.removeConnection, Content.removeConnection, content_connections]
  split_ifs
  · rfl
  · refine congrArg some ?_
    simp only [GraphDocument.elements, GraphDocument.touch, Content.setConnection,
      get?_erase_eq_update]

theorem tracks_setPosition (id : Identifier) (position : PyFloat × PyFloat) :
    Tracks (fun document => document.setPosition id position)
      (Content.setPosition id position) := by
  intro document
  dsimp only
  rw [GraphDocument.setPosition, GraphDocument.requireNode, Content.setPosition, content_nodes]
  cases document.nodes.get? id with
  | none => rfl
  | some node =>
      simp only [bind, Except.bind, Option.map_some]
      split_ifs
      · rfl
      · exact congrArg some (content_putNode document id _)

theorem content_putConnection (document : GraphDocument) (connection : ConnectionModel)
    (replaceInput : Bool) :
    (document.putConnection connection replaceInput).elements =
      document.elements.putConnection connection replaceInput := by
  cases replaceInput with
  | false =>
      simp only [GraphDocument.elements, GraphDocument.putConnection, GraphDocument.touch,
        Content.putConnection, Content.setConnection, Bool.false_eq_true, if_false,
        get?_insert_eq_update]
  | true =>
      have kept : (document.connections.filter
          (fun entry => !GraphDocument.sameInput entry.2 connection)).get? = fun id =>
            (document.connections.get? id).filter
              (fun other => !GraphDocument.sameInput other connection) := by
        funext id
        exact Dict.get?_filter _ _ _
      simp only [GraphDocument.elements, GraphDocument.putConnection, GraphDocument.touch,
        Content.putConnection, Content.setConnection, Content.keepConnections, if_true,
        get?_insert_eq_update, kept]

theorem tracks_restoreConnection (connection : ConnectionModel) (replaceExistingInput : Bool) :
    Tracks (fun document => document.restoreConnection connection replaceExistingInput)
      (Content.restoreConnection connection replaceExistingInput) := by
  intro document
  dsimp only
  rw [GraphDocument.restoreConnection, Content.restoreConnection, GraphDocument.requireNode,
    GraphDocument.requireNode, content_nodes, content_nodes, content_connections]
  cases document.nodes.get? connection.sourceNodeId with
  | none => rfl
  | some source =>
      cases document.nodes.get? connection.destinationNodeId with
      | none => rfl
      | some destination =>
          cases document.connections.get? connection.id with
          | none => exact congrArg some (content_putConnection document connection _)
          | some existing =>
              simp only [bind, Except.bind, Option.isNone_some, Bool.false_eq_true, or_self,
                if_false]
              split_ifs
              · rfl
              · exact congrArg some (content_putConnection document connection _)
              · rfl

theorem content_putConnectionUiState (document : GraphDocument) (id : Identifier)
    (connection : ConnectionModel) (uiState : Dict String LiteralValue) :
    (document.putConnectionUiState id connection uiState).elements =
      document.elements.setConnection id (some { connection with uiState := uiState }) := by
  simp only [GraphDocument.elements, GraphDocument.putConnectionUiState, GraphDocument.touch,
    Content.setConnection, get?_insert_eq_update]

theorem tracks_setConnectionUiState (id : Identifier) (key : String) (value : LiteralValue) :
    Tracks (fun document => document.setConnectionUiState id key value)
      (Content.setConnectionUiState id key value) := by
  intro document
  dsimp only
  rw [GraphDocument.setConnectionUiState, GraphDocument.requireConnection,
    Content.setConnectionUiState, content_connections]
  cases document.connections.get? id with
  | none => rfl
  | some connection =>
      simp only [bind, Except.bind, Option.map_some]
      split_ifs
      · rfl
      · exact congrArg some (content_putConnectionUiState document id connection _)

theorem tracks_removeConnectionUiStateKey (id : Identifier) (key : String) :
    Tracks (fun document => document.removeConnectionUiStateKey id key)
      (Content.removeConnectionUiStateKey id key) := by
  intro document
  dsimp only
  rw [GraphDocument.removeConnectionUiStateKey, GraphDocument.requireConnection,
    Content.removeConnectionUiStateKey, content_connections]
  cases document.connections.get? id with
  | none => rfl
  | some connection =>
      simp only [bind, Except.bind, Option.map_some]
      split_ifs
      · rfl
      · exact congrArg some (content_putConnectionUiState document id connection _)

/-! ## Equality of the stored values -/

theorem eq_of_floatEquals {left right : PyFloat} (equal : floatEquals left right = true) :
    left = right := by
  cases left with
  | nan => cases equal
  | finite value => exact of_decide_eq_true equal
  | infinite negative => exact of_decide_eq_true equal

theorem floatEquals_comm (left right : PyFloat) :
    floatEquals left right = floatEquals right left := by
  rw [Bool.eq_iff_iff]
  constructor
  · intro equal
    have same := eq_of_floatEquals equal
    exact same ▸ same ▸ equal
  · intro equal
    have same := eq_of_floatEquals equal
    exact same ▸ same ▸ equal

theorem eq_of_pairEquals {left right : PyFloat × PyFloat} (equal : pairEquals left right = true) :
    left = right := by
  rw [pairEquals, Bool.and_eq_true] at equal
  exact Prod.ext (eq_of_floatEquals equal.1) (eq_of_floatEquals equal.2)

theorem pairEquals_comm (left right : PyFloat × PyFloat) :
    pairEquals left right = pairEquals right left := by
  rw [pairEquals, pairEquals, floatEquals_comm left.1, floatEquals_comm left.2]

theorem sizeEquals_comm (left right : Option (PyFloat × PyFloat)) :
    sizeEquals left right = sizeEquals right left := by
  cases left with
  | none => cases right <;> rfl
  | some first =>
      cases right with
      | none => rfl
      | some second => exact pairEquals_comm first second

theorem LiteralValue.equals_comm (left right : LiteralValue) :
    left.equals right = right.equals left := by
  rw [LiteralValue.equals, LiteralValue.equals]
  cases left.number? with
  | none =>
      cases right.number? with
      | none => exact decide_eq_decide.mpr eq_comm
      | some second => rfl
  | some first =>
      cases right.number? with
      | none => rfl
      | some second => exact floatEquals_comm first second

/-- Equal mappings have equal values at every key. -/
theorem mappingEquals_iff {left right : Dict String LiteralValue} :
    mappingEquals left right = true ↔ left.entries.length = right.entries.length ∧
      ∀ key value, left.get? key = some value →
        ∃ other, right.get? key = some other ∧ value.equals other = true := by
  rw [mappingEquals, Bool.and_eq_true, decide_eq_true_eq, List.all_eq_true]
  refine and_congr_right fun _ => ⟨?_, ?_⟩
  · intro agree key value found
    have here := agree _ (Dict.mem_of_get? found)
    dsimp only at here
    cases stored : right.get? key with
    | none =>
        rw [stored] at here
        cases here
    | some other =>
        rw [stored] at here
        exact ⟨other, rfl, here⟩
  · rintro agree ⟨key, value⟩ member
    rcases agree key value (Dict.get?_of_mem member) with ⟨other, stored, equal⟩
    dsimp only
    rw [stored]
    exact equal

theorem mappingEquals_symm {left right : Dict String LiteralValue}
    (equal : mappingEquals left right = true) : mappingEquals right left = true := by
  rcases mappingEquals_iff.mp equal with ⟨sized, agree⟩
  have included : left.keys ⊆ right.keys := by
    intro key member
    rcases Option.isSome_iff_exists.mp ((left.get?_isSome key).mpr member) with ⟨value, found⟩
    rcases agree key value found with ⟨other, stored, _⟩
    exact (right.get?_isSome key).mp (Option.isSome_iff_exists.mpr ⟨other, stored⟩)
  have sameKeys : left.keys.Perm right.keys :=
    (left.keys_nodup.subperm included).perm_of_length_le (by simp [Dict.keys, sized])
  refine mappingEquals_iff.mpr ⟨sized.symm, ?_⟩
  intro key value found
  have listed : key ∈ left.keys :=
    sameKeys.symm.subset ((right.get?_isSome key).mp (Option.isSome_iff_exists.mpr ⟨value, found⟩))
  rcases Option.isSome_iff_exists.mp ((left.get?_isSome key).mpr listed) with ⟨other, stored⟩
  rcases agree key other stored with ⟨same, isSame, equals⟩
  rw [found, Option.some.injEq] at isSame
  exact ⟨other, stored, by rw [LiteralValue.equals_comm, isSame]; exact equals⟩

theorem mappingEquals_comm (left right : Dict String LiteralValue) :
    mappingEquals left right = mappingEquals right left :=
  Bool.eq_iff_iff.mpr ⟨mappingEquals_symm, mappingEquals_symm⟩

theorem NodeModel.equals_comm (left right : NodeModel) : left.equals right = right.equals left := by
  simp only [NodeModel.equals, mappingEquals_comm left.parameters, mappingEquals_comm left.uiState,
    pairEquals_comm left.position, sizeEquals_comm left.size, eq_comm (a := left.id),
    eq_comm (a := left.typeId), eq_comm (a := left.implementationVersion),
    eq_comm (a := left.userLabel), eq_comm (a := left.collapsed)]

/-- Groups hold finite numbers and texts only, so equal ones are the same. -/
theorem GroupModel.eq_of_equals {left right : GroupModel} (equal : left.equals right = true) :
    left = right := by
  simp only [GroupModel.equals, Bool.and_eq_true, decide_eq_true_eq] at equal
  rcases left with ⟨id, kind, title, text, position, size, color, positive, rgb⟩
  rcases equal with ⟨⟨⟨⟨⟨⟨rfl, rfl⟩, rfl⟩, rfl⟩, rfl⟩, rfl⟩, rfl⟩
  rfl

end Persistence
end Synesthesia
