import Synesthesia.Persistence.DocumentIntegrity
import Synesthesia.Ui.CommandInverses

namespace Synesthesia
namespace Ui

open Foundation Contracts Persistence
open Persistence.GraphDocument (sameInput_of_equals)
open Persistence.Content (nodes_setNode groups_setGroup connections_setConnection)

/-!
# Undoing each command

Every command of the editor is followed there and back: what it changes element
by element is changed back, what it adds is removed, and what it removes is
restored.  A replaced connection has to be alone at its input, a stored preview
state must not be null, and a move has to name where its elements were.
-/

/-! ## Changing elements one by one -/

/-- Each change gives the element of its own identifier a new value, as long as
the part it acts on stays valid. -/
theorem performOn_replace {Item Value : Type} {identify : Item → Identifier}
    {change : Item → Change} (place : (Identifier → Option Value) → Content)
    (step : Item → Option Value → Option Value) {valid : (Identifier → Option Value) → Prop}
    {items : List Item}
    (acts : ∀ item ∈ items, ∀ held, valid held → (change item).onContent (place held) =
      (step item (held (identify item))).map (fun new =>
        place (Function.update held (identify item) (some new))))
    (keeps : ∀ item held new, valid held → step item (held (identify item)) = some new →
      valid (Function.update held (identify item) (some new)))
    (distinct : (items.map identify).Nodup) {held : Identifier → Option Value}
    (isValid : valid held) {next : Content} :
    performOn (items.map change) (place held) = some next ↔
      ∃ target, next = place target ∧ (∀ id ∉ items.map identify, target id = held id) ∧
        ∀ item ∈ items, ∃ new, step item (held (identify item)) = some new ∧
          target (identify item) = some new := by
  induction items generalizing held with
  | nil =>
      constructor
      · intro performed
        cases performed
        exact ⟨held, rfl, fun _ _ => rfl, fun _ member => (by cases member)⟩
      · rintro ⟨target, rfl, kept, _⟩
        have same : target = held := funext fun id => kept id List.not_mem_nil
        rw [same]
        rfl
  | cons item rest ih =>
      rw [List.map_cons, List.nodup_cons] at distinct
      have onward := fun middle => @ih (fun other member =>
        acts other (List.mem_cons_of_mem _ member)) distinct.2 middle
      have apart : ∀ other ∈ rest, identify other ≠ identify item := by
        intro other member same
        exact distinct.1 (same ▸ List.mem_map_of_mem member)
      rw [List.map_cons, performOn, acts item List.mem_cons_self held isValid]
      constructor
      · intro performed
        rcases Option.bind_eq_some_iff.mp performed with ⟨middle, first, later⟩
        rcases Option.map_eq_some_iff.mp first with ⟨new, stepped, rfl⟩
        rcases (onward _ (keeps item held new isValid stepped)).mp later with
          ⟨target, reached, kept, replaced⟩
        refine ⟨target, reached, ?_, ?_⟩
        · intro id others
          rw [List.map_cons, List.mem_cons, not_or] at others
          rw [kept id others.2, Function.update_of_ne others.1]
        · intro other member
          rcases List.mem_cons.mp member with isFirst | inRest
          · rw [isFirst]
            exact ⟨new, stepped, by rw [kept _ distinct.1, Function.update_self]⟩
          · rcases replaced other inRest with ⟨after, taken, placed⟩
            rw [Function.update_of_ne (apart other inRest)] at taken
            exact ⟨after, taken, placed⟩
      · rintro ⟨target, reached, kept, replaced⟩
        rcases replaced item List.mem_cons_self with ⟨new, stepped, placed⟩
        rw [stepped, Option.map_some, Option.bind_some]
        refine (onward _ (keeps item held new isValid stepped)).mpr ⟨target, reached, ?_, ?_⟩
        · intro id others
          by_cases same : id = identify item
          · rw [same, placed, Function.update_self]
          · rw [Function.update_of_ne same]
            exact kept id (by simp [same, others])
        · intro other member
          rw [Function.update_of_ne (apart other member)]
          exact replaced other (List.mem_cons_of_mem _ member)

/-- Each change removes the element of its own identifier if it is there. -/
theorem performOn_drop {Item Value : Type} {identify : Item → Identifier}
    {change : Item → Change} {place : (Identifier → Option Value) → Content} {items : List Item}
    (drops : ∀ item ∈ items, ∀ held, (change item).onContent (place held) =
      some (place (Function.update held (identify item) none)))
    (held : Identifier → Option Value) :
    performOn (items.map change) (place held) =
      some (place (fun id => if id ∈ items.map identify then none else held id)) := by
  induction items generalizing held with
  | nil => simp [performOn]
  | cons item rest ih =>
      rw [List.map_cons, performOn, drops item List.mem_cons_self, Option.bind_some,
        ih (fun other member => drops other (List.mem_cons_of_mem _ member))]
      refine congrArg some (congrArg place ?_)
      funext id
      by_cases later : id ∈ rest.map identify
      · simp [later]
      · by_cases same : id = identify item
        · simp [same]
        · simp [later, same]

variable {id : Identifier}

/-- Removing an absent key of a part leaves it as it is. -/
theorem update_none_of_absent {Value : Type} {held : Identifier → Option Value}
    (absent : ¬ (held id).isSome = true) : Function.update held id none = held := by
  have missing : held id = none := by simpa using absent
  rw [← missing, Function.update_eq_self]

theorem performOn_removeGroups (groups : List GroupModel) (content : Content) :
    performOn (groups.map (fun group => .removeGroupIfPresent group.id)) content =
      some { content with groups := fun id =>
        if id ∈ groups.map GroupModel.id then none else content.groups id } := by
  let place := fun held : Identifier → Option GroupModel => { content with groups := held }
  have drops : ∀ group ∈ groups, ∀ held,
      (Change.removeGroupIfPresent group.id).onContent (place held) =
        some (place (Function.update held group.id none)) := by
    intro group _ held
    rw [Change.onContent]
    by_cases present : (held group.id).isSome = true
    · have stored : ((place held).groups group.id).isSome = true := present
      have notNone : ¬ ((place held).groups group.id).isNone = true := by
        simpa [Option.isSome_iff_ne_none] using stored
      rw [if_pos stored, Content.removeGroup, if_neg notNone]
      rfl
    · rw [update_none_of_absent present]
      exact if_neg present
  exact performOn_drop drops content.groups

/-- The content without some connections. -/
def withoutConnections (ids : List Identifier) (content : Content) : Content :=
  { content with
    connections := fun id => if id ∈ ids then none else content.connections id }

theorem Sound.withoutConnections {content : Content} (sound : Sound content)
    (ids : List Identifier) : Sound (withoutConnections ids content) where
  nodes := sound.nodes
  groups := sound.groups
  connections := by
    intro id connection stored
    simp only [Ui.withoutConnections] at stored
    split_ifs at stored
    exact sound.connections id connection stored
  attached := by
    intro id connection stored
    simp only [Ui.withoutConnections] at stored
    split_ifs at stored
    exact sound.attached id connection stored

theorem performOn_removeConnections (connections : List ConnectionModel) (content : Content) :
    performOn (connections.map (fun connection => .removeConnectionIfPresent connection.id))
      content = some (withoutConnections (connections.map ConnectionModel.id) content) := by
  let place := fun held : Identifier → Option ConnectionModel =>
    { content with connections := held }
  have drops : ∀ connection ∈ connections, ∀ held,
      (Change.removeConnectionIfPresent connection.id).onContent (place held) =
        some (place (Function.update held connection.id none)) := by
    intro connection _ held
    rw [Change.onContent]
    by_cases present : (held connection.id).isSome = true
    · have stored : ((place held).connections connection.id).isSome = true := present
      have notNone : ¬ ((place held).connections connection.id).isNone = true := by
        simpa [Option.isSome_iff_ne_none] using stored
      rw [if_pos stored, Content.removeConnection, if_neg notNone]
      rfl
    · rw [update_none_of_absent present]
      exact if_neg present
  exact performOn_drop drops content.connections

/-! ## Adding and removing nodes -/

variable {content next : Content}

/-- New nodes, whose connections all touch them, are what a content has more than
another one. -/
theorem without_of_added {ids : List Identifier} (sound : Sound content)
    (absent : ∀ id ∈ ids, content.nodes id = none)
    (nodes : ∀ id ∉ ids, next.nodes id = content.nodes id)
    (connections : ∀ id, next.connections id = content.connections id ∨
      content.connections id = none ∧
        ∃ connection, next.connections id = some connection ∧ ¬ spares ids connection = true)
    (groups : next.groups = content.groups)
    (settings : next.documentSettings = content.documentSettings) :
    without ids next = content := by
  refine Content.ext ?_ ?_ groups settings
  · funext id
    by_cases added : id ∈ ids
    · rw [absent id added]
      exact if_pos added
    · rw [← nodes id added]
      exact if_neg added
  · funext id
    rcases connections id with same | ⟨missing, connection, stored, touches⟩
    · cases found : content.connections id with
      | none => simp only [without, same, found, Option.filter_none]
      | some connection =>
          have ends := sound.attached id connection found
          refine without_connections.mpr ⟨same.trans found, spares_iff.mpr ⟨?_, ?_⟩⟩
          · exact fun member => ends.1 (absent _ member)
          · exact fun member => ends.2 (absent _ member)
    · rw [missing]
      simp only [without, stored, Option.filter_some, if_neg touches]

variable {document : GraphDocument}

theorem undo_addNode {next : Content} {node : NodeModel}
    {ids : List Identifier} (consistent : document.Consistent) (after : Sound next)
    (performed : performOn (GraphCommand.addNode node (selectedNodes ids document)
      (incidentConnections ids document)).redoChanges document.elements = some next) :
    performOn (GraphCommand.addNode node (selectedNodes ids document)
      (incidentConnections ids document)).undoChanges next = some document.elements := by
  have sound := Sound.of_consistent consistent
  have captures := captures_of_consistent consistent ids
  have left := sound.without ((selectedNodes ids document).map NodeModel.id)
  rw [GraphCommand.redoChanges, performOn_append, performOn_removeNodesIfPresent sound,
    Option.bind_some, performOn] at performed
  rcases Option.bind_eq_some_iff.mp performed with ⟨middle, added, finished⟩
  rcases restoreNode_eq_some.mp added with ⟨absent, rfl⟩
  cases finished
  have back : (Change.removeNode node.id).onContent
      ((without ((selectedNodes ids document).map NodeModel.id) document.elements).setNode node.id
        (some node)) =
      some (without ((selectedNodes ids document).map NodeModel.id) document.elements) := by
    have removed := removeNodeIfPresent_onContent after node.id
    rw [Change.onContent, if_pos (by rw [nodes_setNode, if_pos rfl]; rfl)] at removed
    refine removed.trans (congrArg some (without_of_added left ?_ ?_ ?_ rfl rfl))
    · intro id member
      rw [List.mem_singleton.mp member]
      exact absent
    · intro id other
      rw [nodes_setNode, if_neg (fun same => other (List.mem_singleton.mpr same))]
    · exact fun id => Or.inl rfl
  rw [GraphCommand.undoChanges, List.cons_append, performOn, back, Option.bind_some]
  exact captures.restore sound

theorem undo_deleteNodes {next : Content} {ids : List Identifier}
    (consistent : document.Consistent)
    (performed : performOn (GraphCommand.removeNodesIfPresent (selectedNodes ids document))
      document.elements = some next) :
    performOn (GraphCommand.restoreNodes (selectedNodes ids document) false ++
      GraphCommand.restoreConnections
        (incidentConnections ((selectedNodes ids document).map NodeModel.id) document)) next =
      some document.elements := by
  have sound := Sound.of_consistent consistent
  rw [performOn_removeNodesIfPresent sound, Option.some.injEq] at performed
  rw [← performed]
  exact (captures_selected consistent ids).restore sound

theorem undo_paste {fragment : ClipboardFragment} (sound : Sound content)
    (after : Sound next)
    (performed : performOn (GraphCommand.restoreNodes fragment.nodes false ++
      GraphCommand.restoreConnections fragment.connections) content = some next) :
    performOn (GraphCommand.removeNodesIfPresent fragment.nodes) next = some content := by
  rw [performOn_append] at performed
  rcases Option.bind_eq_some_iff.mp performed with ⟨middle, first, second⟩
  rcases restoreNodes_spec first with ⟨fresh, kept, connections, groups, settings⟩
  rcases restoreConnections_spec second with ⟨_, added, nodes, laterGroups, laterSettings⟩
  rw [performOn_removeNodesIfPresent after]
  refine congrArg some (without_of_added sound ?_ ?_ ?_ (laterGroups.trans groups)
    (laterSettings.trans settings))
  · intro id member
    rcases List.mem_map.mp member with ⟨node, listed, rfl⟩
    exact fresh node listed
  · intro id other
    rw [nodes, kept id other]
  · intro id
    rcases added id with same | ⟨missing, connection, member, _, stored⟩
    · exact Or.inl (by rw [same, connections])
    · refine Or.inr ⟨by rw [← connections, missing], connection, stored, ?_⟩
      intro spared
      exact (spares_iff.mp spared).1 (fragment.internal connection member).1

/-- Connections that touch none of the nodes that stay can be removed first. -/
theorem swapOut {ids : List Identifier} {nodes : List NodeModel}
    {connections : List ConnectionModel} {content : Content}
    (captures : Captures ids nodes connections content) (sound : Sound content) :
    performOn (connections.map (fun connection => .removeConnectionIfPresent connection.id) ++
      GraphCommand.removeNodesIfPresent nodes) content =
      some (without (nodes.map NodeModel.id) content) := by
  rw [performOn_append, performOn_removeConnections, Option.bind_some,
    performOn_removeNodesIfPresent (sound.withoutConnections _)]
  refine congrArg some (Content.ext rfl ?_ rfl rfl)
  funext id
  by_cases listed : id ∈ connections.map ConnectionModel.id
  · rcases List.mem_map.mp listed with ⟨connection, member, rfl⟩
    rcases (captures.connections connection).mp member with ⟨stored, touches⟩
    rw [← captures.spares_iff sound stored] at touches
    simp only [without, withoutConnections, listed, if_true, stored, Option.filter_none,
      Option.filter_some, if_neg touches]
  · simp only [without, withoutConnections, listed, if_false]

theorem undo_randomizeNodes {next : Content} {ids : List Identifier}
    {newNodes : List NodeModel} {newConnections : List ConnectionModel}
    (consistent : document.Consistent) (after : Sound next)
    (changed : ∀ connection ∈ newConnections, ∀ original,
      document.connections.get? connection.id = some original →
        ¬ original.equals connection = true)
    (performed : performOn (GraphCommand.swap (selectedNodes ids document)
      (incidentConnections ids document) newNodes newConnections) document.elements = some next) :
    performOn (GraphCommand.swap newNodes newConnections (selectedNodes ids document)
      (incidentConnections ids document)) next = some document.elements := by
  have sound := Sound.of_consistent consistent
  have captures := captures_of_consistent consistent ids
  have left := sound.without ((selectedNodes ids document).map NodeModel.id)
  rw [GraphCommand.swap, List.append_assoc, performOn_append, swapOut captures sound,
    Option.bind_some, performOn_append] at performed
  rcases Option.bind_eq_some_iff.mp performed with ⟨middle, first, second⟩
  rcases restoreNodes_spec first with ⟨fresh, kept, connections, groups, settings⟩
  rcases restoreConnections_spec second with ⟨equal, added, nodes, laterGroups, laterSettings⟩
  have new : ∀ connection ∈ newConnections,
      (without ((selectedNodes ids document).map NodeModel.id) document.elements).connections
        connection.id = none := by
    intro connection member
    by_contra present
    rcases Option.ne_none_iff_exists'.mp present with ⟨existing, stored⟩
    have inMiddle : middle.connections connection.id = some existing := by
      rw [connections, stored]
    exact changed connection member existing (without_connections.mp stored).1
      (equal connection member existing inMiddle)
  rw [GraphCommand.swap, List.append_assoc, performOn_append, performOn_append,
    performOn_removeConnections, Option.bind_some,
    performOn_removeNodesIfPresent (after.withoutConnections _), Option.bind_some]
  have back : without (newNodes.map NodeModel.id)
      (withoutConnections (newConnections.map ConnectionModel.id) next) =
      without ((selectedNodes ids document).map NodeModel.id) document.elements := by
    refine without_of_added left ?_ ?_ ?_ (laterGroups.trans groups) (laterSettings.trans settings)
    · intro id member
      rcases List.mem_map.mp member with ⟨node, listed, rfl⟩
      exact fresh node listed
    · intro id other
      rw [← kept id other, ← nodes]
      rfl
    · intro id
      refine Or.inl ?_
      simp only [withoutConnections]
      split_ifs with listed
      · rcases List.mem_map.mp listed with ⟨connection, member, rfl⟩
        exact (new connection member).symm
      · rcases added id with same | ⟨_, connection, member, rfl, _⟩
        · rw [same, connections]
        · exact absurd (List.mem_map_of_mem member) listed
  rw [back]
  exact captures.restore sound

/-! ## Adding and removing connections -/

variable {connection : ConnectionModel}

/-- A stored connection can be removed. -/
theorem removeConnection_onContent {content : Content}
    (stored : content.connections id = some connection) :
    (Change.removeConnection id).onContent content = some (content.setConnection id none) := by
  have present : ¬ (content.connections id).isNone = true := by simp [stored]
  exact if_neg present

theorem undo_addConnection {next : Content}
    (consistent : document.Consistent)
    (free : incomingConnection connection document = none)
    (performed : performOn [.restoreConnection connection false] document.elements = some next) :
    performOn [.removeConnection connection.id] next = some document.elements := by
  rcases Option.bind_eq_some_iff.mp performed with ⟨middle, restored, finished⟩
  cases finished
  rcases (restoreConnection_eq_some.mp restored).2 with
    ⟨existing, stored, equal, rfl⟩ | ⟨absent, rfl⟩
  · have own := consistent.connections.get? stored
    have listed := (mem_values consistent.connections).mpr (own.symm ▸ stored)
    exact absurd (sameInput_of_equals equal) (List.find?_eq_none.mp free existing listed)
  · have placed : (document.elements.setConnection connection.id (some connection)).connections
        connection.id = some connection := by
      rw [connections_setConnection, if_pos rfl]
    rw [performOn, removeConnection_onContent placed, Option.bind_some, performOn]
    refine congrArg some (Content.ext rfl ?_ rfl rfl)
    rw [Content.setConnection, Content.setConnection, Function.update_idem, ← absent,
      Function.update_eq_self]

theorem undo_removeConnection
    (sound : Sound content) (stored : content.connections connection.id = some connection)
    (performed : performOn [.removeConnection connection.id] content = some next) :
    performOn [.restoreConnection connection false] next = some content := by
  rw [performOn, removeConnection_onContent stored, Option.bind_some] at performed
  cases performed
  have restored : (Change.restoreConnection connection false).onContent
      (content.setConnection connection.id none) = some content := by
    refine restoreConnection_eq_some.mpr ⟨sound.attached _ _ stored, Or.inr ⟨?_, ?_⟩⟩
    · rw [connections_setConnection, if_pos rfl]
    · refine Content.ext rfl ?_ rfl rfl
      rw [Content.setConnection, Content.setConnection, Function.update_idem, ← stored,
        Function.update_eq_self]
  rw [performOn, restored, Option.bind_some, performOn]

/-- At most one connection is stored at the input of a connection. -/
def SingleInput (connection : ConnectionModel) (document : GraphDocument) : Prop :=
  document.inputLoad connection.destinationNodeId connection.destinationPortId ≤ 1

theorem SingleInput.unique (single : SingleInput connection document) {first second : Identifier}
    {firstConnection secondConnection : ConnectionModel}
    (atFirst : document.connections.get? first = some firstConnection)
    (atSecond : document.connections.get? second = some secondConnection)
    (firstEnds : GraphDocument.sameInput firstConnection connection = true)
    (secondEnds : GraphDocument.sameInput secondConnection connection = true) :
    first = second := by
  rw [SingleInput, GraphDocument.inputLoad_eq] at single
  have listed : ∀ id other, document.connections.get? id = some other →
      GraphDocument.sameInput other connection = true → (id, other) ∈
        document.connections.entries.filter
          (fun entry => GraphDocument.sameInput entry.2 connection) :=
    fun _ _ found ends => List.mem_filter.mpr ⟨Dict.mem_of_get? found, ends⟩
  have inFirst := listed _ _ atFirst firstEnds
  have inSecond := listed _ _ atSecond secondEnds
  have alone := Nat.le_antisymm single (List.length_pos_of_mem inFirst)
  rcases List.length_eq_one_iff.mp alone with ⟨only, isOnly⟩
  rw [isOnly, List.mem_singleton] at inFirst inSecond
  exact congrArg Prod.fst (inFirst.trans inSecond.symm)

/-- Without those at an input, a content has the connections that end elsewhere. -/
theorem connections_elsewhere {content : Content} {connection other : ConnectionModel}
    (found : content.connections id = some other) :
    (content.keepConnections (fun competitor =>
        !GraphDocument.sameInput competitor connection)).connections id =
      if GraphDocument.sameInput other connection = true then none else some other := by
  simp only [Content.keepConnections, found, Option.filter_some]
  cases GraphDocument.sameInput other connection with
  | true => rfl
  | false => rfl

/-- A replacing connection takes the place of the one at its input. -/
theorem restoreConnection_replacing {next : Content}
    (single : SingleInput connection document)
    (performed : (Change.restoreConnection connection true).onContent document.elements =
      some next) :
    (∃ stored, next.connections connection.id = some stored) ∧
      next.setConnection connection.id none = document.elements.keepConnections
        (fun other => !GraphDocument.sameInput other connection) := by
  rw [Change.onContent, Content.restoreConnection] at performed
  split_ifs at performed
  cases stored : document.elements.connections connection.id with
  | none =>
      rw [stored] at performed
      cases performed
      refine ⟨⟨connection, Function.update_self ..⟩, Content.ext rfl ?_ rfl rfl⟩
      simp only [Content.putConnection, if_true, Content.setConnection, Function.update_idem]
      rw [Function.update_eq_self_iff]
      simp [Content.keepConnections, stored]
  | some existing =>
      rw [stored] at performed
      dsimp only at performed
      split_ifs at performed with equal competing
      · cases performed
        have ends := sameInput_of_equals equal
        refine ⟨⟨existing, stored⟩, Content.ext rfl ?_ rfl rfl⟩
        funext id
        rw [connections_setConnection]
        split_ifs with same
        · rw [same, connections_elsewhere stored, if_pos ends]
        · cases found : document.elements.connections id with
          | none => simp [Content.keepConnections, found]
          | some other =>
              rw [connections_elsewhere found, if_neg]
              exact fun competes => same (single.unique found stored competes ends)
      · cases performed
        rw [Bool.true_and] at competing
        refine ⟨⟨connection, Function.update_self ..⟩, Content.ext rfl ?_ rfl rfl⟩
        simp only [Content.putConnection, if_true, Content.setConnection, Function.update_idem]
        rw [Function.update_eq_self_iff, connections_elsewhere stored, if_pos competing]

theorem undo_replaceConnection {next : Content}
    (consistent : document.Consistent)
    (single : SingleInput connection document)
    (performed : performOn [.restoreConnection connection true] document.elements = some next) :
    performOn (.removeConnection connection.id ::
      (incomingConnection connection document).toList.map
        (fun restored => .restoreConnection restored false)) next = some document.elements := by
  have sound := Sound.of_consistent consistent
  rcases Option.bind_eq_some_iff.mp performed with ⟨middle, restored, finished⟩
  cases finished
  rcases restoreConnection_replacing single restored with ⟨⟨stored, placed⟩, removed⟩
  rw [performOn, removeConnection_onContent placed, Option.bind_some, removed]
  cases incoming : incomingConnection connection document with
  | none =>
      refine congrArg some (Content.ext rfl ?_ rfl rfl)
      funext id
      cases found : document.elements.connections id with
      | none => simp [Content.keepConnections, found]
      | some other =>
          have own := consistent.connections.get? found
          have listed := (mem_values consistent.connections).mpr (own.symm ▸ found)
          rw [connections_elsewhere found, if_neg (List.find?_eq_none.mp incoming other listed)]
  | some replaced =>
      have ends : GraphDocument.sameInput replaced connection = true :=
        List.find?_some (p := fun other => GraphDocument.sameInput other connection) incoming
      have found := (mem_values consistent.connections).mp (List.mem_of_find?_eq_some incoming)
      have back : (Change.restoreConnection replaced false).onContent
          (document.elements.keepConnections (fun competitor =>
            !GraphDocument.sameInput competitor connection)) = some document.elements := by
        refine restoreConnection_eq_some.mpr ⟨sound.attached _ _ found, Or.inr ⟨?_, ?_⟩⟩
        · rw [connections_elsewhere found, if_pos ends]
        · refine Content.ext rfl ?_ rfl rfl
          funext id
          rw [connections_setConnection]
          split_ifs with same
          · rw [same]
            exact found
          · cases stored : document.elements.connections id with
            | none => simp [Content.keepConnections, stored]
            | some other =>
                rw [connections_elsewhere stored, if_neg]
                exact fun competes => same (single.unique stored found competes ends)
      rw [Option.toList_some, List.map_singleton, performOn, back, Option.bind_some, performOn]

/-- The preview state of a connection is not stored as null. -/
def ProperPreview (connectionId : Identifier) (document : GraphDocument) : Prop :=
  ∀ connection, document.connections.get? connectionId = some connection →
    connection.uiState.get? GraphCommand.previewVisibleKey ≠ some .absent

theorem undo_setConnectionPreview {next : Content}
    {connectionId : Identifier} {visible : Bool}
    (found : document.connections.get? connectionId = some connection)
    (proper : ProperPreview connectionId document)
    (performed : performOn (GraphCommand.applyPreview connectionId (.bool visible))
      document.elements = some next) :
    performOn (GraphCommand.applyPreview connectionId
      ((connection.uiState.get? GraphCommand.previewVisibleKey).getD .absent)) next =
      some document.elements := by
  have stored : document.elements.connections connectionId = some connection := found
  have notAbsent : ¬ LiteralValue.bool visible = .absent := by
    rintro ⟨⟩
  rw [GraphCommand.applyPreview, if_neg notAbsent, performOn, Change.onContent,
    Content.setConnectionUiState, stored, Option.map_some, Option.bind_some, performOn,
    Option.some.injEq] at performed
  have unchanged : document.elements.setConnection connectionId (some connection) =
      document.elements := by
    refine Content.ext rfl ?_ rfl rfl
    rw [Content.setConnection, ← stored, Function.update_eq_self]
  have restores : ∀ uiState : Dict String LiteralValue,
      (document.elements.setConnection connectionId
          (some { connection with uiState := uiState })).setConnection connectionId
        (some connection) = document.elements := by
    intro uiState
    rw [Content.setConnection, Content.setConnection, Function.update_idem]
    exact unchanged
  cases kept : connection.uiState.get? GraphCommand.previewVisibleKey with
  | none =>
      have unequal : ¬ GraphDocument.holds connection.uiState GraphCommand.previewVisibleKey
          (.bool visible) = true := by
        rw [GraphDocument.holds, kept]
        exact Bool.false_ne_true
      rw [if_neg unequal] at performed
      rw [← performed, Option.getD_none, GraphCommand.applyPreview, if_pos rfl, performOn,
        Change.onContent, Content.removeConnectionUiStateKey, connections_setConnection,
        if_pos rfl, Option.map_some, Option.bind_some, performOn]
      simp only [Dict.get?_insert_self, Option.isNone_some, Bool.false_eq_true, if_false,
        Dict.erase_insert kept, restores]
  | some raw =>
      have notNull : ¬ raw = .absent := fun null => proper connection found (null ▸ kept)
      rw [Option.getD_some, GraphCommand.applyPreview, if_neg notNull, performOn,
        Change.onContent, Content.setConnectionUiState]
      rw [GraphDocument.holds, kept] at performed
      dsimp only at performed
      split_ifs at performed with equal
      · rw [← performed, stored, Option.map_some, Option.bind_some, performOn,
          Dict.insert_of_get? kept, ite_eq_left_iff.mpr]
        exact fun _ => unchanged
      · have differs : ¬ GraphDocument.holds (connection.uiState.insert
            GraphCommand.previewVisibleKey (.bool visible)) GraphCommand.previewVisibleKey raw =
            true := by
          rw [GraphDocument.holds, Dict.get?_insert_self]
          dsimp only
          rw [LiteralValue.equals_comm]
          exact equal
        rw [← performed, connections_setConnection, if_pos rfl, Option.map_some,
          if_neg differs, Option.bind_some, performOn]
        simp only [Dict.insert_insert, Dict.insert_of_get? kept, restores]

/-! ## Replacing nodes -/

/-- What is stored when a node is restored over another one. -/
def overwrite (node existing : NodeModel) : NodeModel :=
  if existing.equals node then existing else node

theorem overwrite_back (old new : NodeModel) : overwrite old (overwrite new old) = old := by
  rw [overwrite, overwrite]
  by_cases equal : old.equals new = true
  · rw [if_pos equal, ite_self]
  · rw [if_neg equal, if_neg (by rw [NodeModel.equals_comm]; exact equal)]

/-- The nodes are restored over others. -/
def Overwrites (nodes : List NodeModel) (held target : Identifier → Option NodeModel) : Prop :=
  (∀ id ∉ nodes.map NodeModel.id, target id = held id) ∧
    ∀ node ∈ nodes, target node.id = some ((held node.id).elim node (overwrite node))

theorem performOn_overwrite {nodes : List NodeModel} (distinct : (nodes.map NodeModel.id).Nodup)
    :
    performOn (GraphCommand.restoreNodes nodes true) content = some next ↔
      ∃ target, next = { content with nodes := target } ∧
        Overwrites nodes content.nodes target := by
  let place := fun held : Identifier → Option NodeModel => { content with nodes := held }
  let step := fun (node : NodeModel) (stored : Option NodeModel) =>
    some (stored.elim node (overwrite node))
  have acts : ∀ node ∈ nodes, ∀ held, True → (Change.restoreNode node true).onContent (place held) =
      (step node (held node.id)).map (fun new =>
        place (Function.update held node.id (some new))) := by
    intro node _ held _
    have here : (place held).nodes node.id = held node.id := rfl
    rw [Change.onContent, Content.restoreNode, here]
    cases stored : held node.id with
    | none => rfl
    | some existing =>
        simp only [step, Option.elim_some, Option.map_some, overwrite, Bool.true_eq_false, if_false]
        split_ifs
        · rw [← stored, Function.update_eq_self]
        · rfl
  refine (performOn_replace place step acts (fun _ _ _ _ _ => trivial) distinct trivial).trans ?_
  refine exists_congr fun target => and_congr_right fun _ => and_congr_right fun _ => ?_
  simp only [step, Option.some.injEq, exists_eq_left']

/-- The captured nodes are those that others replace. -/
def CapturesNodes (oldNodes newNodes : List NodeModel)
    (held : Identifier → Option NodeModel) : Prop :=
  List.Forall₂ (fun old new => old.id = new.id ∧ held new.id = some old) oldNodes newNodes

variable {oldNodes newNodes : List NodeModel}

theorem CapturesNodes.ids
    {held : Identifier → Option NodeModel} (captured : CapturesNodes oldNodes newNodes held) :
    oldNodes.map NodeModel.id = newNodes.map NodeModel.id := by
  induction captured with
  | nil => rfl
  | cons first _ ih =>
      rw [List.map_cons, List.map_cons, first.1, ih]

theorem CapturesNodes.exists_new
    {held : Identifier → Option NodeModel} (captured : CapturesNodes oldNodes newNodes held)
    {old : NodeModel} (member : old ∈ oldNodes) :
    ∃ new ∈ newNodes, old.id = new.id ∧ held new.id = some old := by
  induction captured with
  | nil => cases member
  | cons first _ ih =>
      rcases List.mem_cons.mp member with rfl | later
      · exact ⟨_, List.mem_cons_self, first⟩
      · rcases ih later with ⟨new, listed, stored⟩
        exact ⟨new, List.mem_cons_of_mem _ listed, stored⟩

theorem capturedNodes_spec (consistent : document.Consistent)
    (captured : capturedNodes document newNodes = .ok oldNodes) :
    CapturesNodes oldNodes newNodes document.elements.nodes := by
  induction newNodes generalizing oldNodes with
  | nil =>
      cases captured
      exact .nil
  | cons node rest ih =>
      rw [capturedNodes] at captured
      rcases bind_eq_ok.mp captured with ⟨old, required, more⟩
      rcases bind_eq_ok.mp more with ⟨others, later, listed⟩
      cases listed
      rw [GraphDocument.requireNode_eq_ok] at required
      exact .cons ⟨consistent.nodes.get? required, required⟩ (ih later)

theorem undo_overwrite (distinct : (newNodes.map NodeModel.id).Nodup)
    (captured : CapturesNodes oldNodes newNodes content.nodes)
    (performed : performOn (GraphCommand.restoreNodes newNodes true) content = some next) :
    performOn (GraphCommand.restoreNodes oldNodes true) next = some content := by
  rcases (performOn_overwrite distinct).mp performed with ⟨target, rfl, kept, replaced⟩
  have oldDistinct : (oldNodes.map NodeModel.id).Nodup := by
    rw [captured.ids]
    exact distinct
  refine (performOn_overwrite oldDistinct).mpr ⟨content.nodes, rfl, ?_, ?_⟩
  · intro id others
    rw [captured.ids] at others
    exact (kept id others).symm
  · intro old member
    rcases captured.exists_new member with ⟨new, listed, sameId, stored⟩
    have after := replaced new listed
    rw [stored, Option.elim_some] at after
    dsimp only
    rw [sameId, stored, after, Option.elim_some, overwrite_back]

theorem undo_overwriteNode {oldNode newNode : NodeModel}
    (sameId : oldNode.id = newNode.id) (stored : content.nodes newNode.id = some oldNode)
    (performed : performOn [.restoreNode newNode true] content = some next) :
    performOn [.restoreNode oldNode true] next = some content := by
  have distinct : ([newNode].map NodeModel.id).Nodup := List.nodup_singleton newNode.id
  exact undo_overwrite distinct (.cons ⟨sameId, stored⟩ .nil) performed

/-! ## Groups -/

theorem undo_addGroup {group : GroupModel}
    (performed : performOn [.restoreGroup group false] content = some next) :
    performOn [.removeGroup group.id] next = some content := by
  rcases Option.bind_eq_some_iff.mp performed with ⟨middle, restored, finished⟩
  cases finished
  rw [Change.onContent, Content.restoreGroup] at restored
  cases stored : content.groups group.id with
  | some existing =>
      rw [stored] at restored
      cases restored
  | none =>
      rw [stored] at restored
      cases restored
      have present :
          ¬ ((content.setGroup group.id (some group)).groups group.id).isNone = true := by
        rw [groups_setGroup, if_pos rfl]
        exact Bool.false_ne_true
      rw [performOn, Change.onContent, Content.removeGroup, if_neg present, Option.bind_some,
        performOn]
      refine congrArg some (Content.ext rfl rfl ?_ rfl)
      rw [Content.setGroup, Content.setGroup, Function.update_idem, ← stored,
        Function.update_eq_self]

theorem undo_deleteGroups {next : Content} {groups : List GroupModel}
    (distinct : (groups.map GroupModel.id).Nodup)
    (stored : ∀ group ∈ groups, document.groups.get? group.id = some group)
    (performed : performOn (groups.map (fun group => .removeGroupIfPresent group.id))
      document.elements = some next) :
    performOn (groups.map (fun group => .restoreGroup group false)) next =
      some document.elements := by
  rw [performOn_removeGroups, Option.some.injEq] at performed
  rw [← performed]
  refine performOn_restoreGroups distinct ?_ stored ?_
  · intro group member
    exact if_pos (List.mem_map_of_mem member)
  · intro id others
    exact if_neg others

/-- A group that is restored over another one is stored. -/
theorem restoreGroup_over {content : Content} {group existing : GroupModel}
    (stored : content.groups group.id = some existing) :
    (Change.restoreGroup group true).onContent content =
      some (content.setGroup group.id (some group)) := by
  rw [Change.onContent, Content.restoreGroup, stored]
  simp only [Bool.true_eq_false, if_false]
  split_ifs with equal
  · rw [GroupModel.eq_of_equals equal] at stored
    refine congrArg some (Content.ext rfl rfl ?_ rfl)
    rw [Content.setGroup, ← stored, Function.update_eq_self]
  · rfl

theorem undo_editGroup {oldGroup newGroup : GroupModel}
    (sameId : oldGroup.id = newGroup.id) (stored : content.groups newGroup.id = some oldGroup)
    (performed : performOn [.restoreGroup newGroup true] content = some next) :
    performOn [.restoreGroup oldGroup true] next = some content := by
  rw [performOn, restoreGroup_over stored, Option.bind_some, performOn, Option.some.injEq]
    at performed
  have after : next.groups oldGroup.id = some newGroup := by
    rw [← performed, groups_setGroup, if_pos sameId]
  rw [performOn, restoreGroup_over after, Option.bind_some, performOn, ← performed, sameId]
  refine congrArg some (Content.ext rfl rfl ?_ rfl)
  rw [Content.setGroup, Content.setGroup, Function.update_idem, ← stored, Function.update_eq_self]

/-! ## Moves -/

/-- Elements that can be moved, and back to where they were. -/
structure Movable (Value : Type) where
  move : PyFloat × PyFloat → Value → Option Value
  place : Value → PyFloat × PyFloat
  back : ∀ position value moved, move position value = some moved →
    move (place value) moved = some value
  again : ∀ position other value moved, move position value = some moved →
    move other moved = move other value

/-- The elements of a part are moved to the positions. -/
def Moved {Value : Type} (movable : Movable Value) (positions : Positions)
    (held target : Identifier → Option Value) : Prop :=
  (∀ id ∉ positions.keys, target id = held id) ∧
    ∀ id position, positions.get? id = some position → ∃ value moved, held id = some value ∧
      movable.move position value = some moved ∧ target id = some moved

/-- The positions are those of the elements. -/
def NamesPlaces {Value : Type} (movable : Movable Value) (positions : Positions)
    (held : Identifier → Option Value) : Prop :=
  ∀ id position value, positions.get? id = some position → held id = some value →
    movable.place value = position

theorem sameKeys_iff {left right : Positions} :
    GraphCommand.sameKeys left right = true ↔ ∀ id, id ∈ left.keys ↔ id ∈ right.keys := by
  simp only [GraphCommand.sameKeys, Bool.and_eq_true, List.all_eq_true, decide_eq_true_eq]
  constructor
  · rintro ⟨forwards, backwards⟩ id
    exact ⟨forwards id, backwards id⟩
  · intro same
    exact ⟨fun id => (same id).mp, fun id => (same id).mpr⟩

variable {positions : Positions}

theorem exists_position (listed : id ∈ positions.keys) :
    ∃ position, positions.get? id = some position :=
  Option.isSome_iff_exists.mp ((positions.get?_isSome id).mpr listed)

theorem listed_of_position {position : PyFloat × PyFloat}
    (found : positions.get? id = some position) : id ∈ positions.keys :=
  (positions.get?_isSome id).mp (Option.isSome_iff_exists.mpr ⟨position, found⟩)

section Moving

variable {Value : Type} {movable : Movable Value} {oldPositions newPositions : Positions}
  {held target : Identifier → Option Value}

/-- A move is taken back by moving the elements to where they were. -/
theorem Moved.back (moved : Moved movable newPositions held target)
    (keys : ∀ id, id ∈ oldPositions.keys ↔ id ∈ newPositions.keys)
    (named : NamesPlaces movable oldPositions held) : Moved movable oldPositions target held := by
  constructor
  · intro id others
    exact (moved.1 id (fun listed => others ((keys id).mpr listed))).symm
  · intro id position found
    rcases exists_position ((keys id).mp (listed_of_position found)) with ⟨new, isNew⟩
    rcases moved.2 id new isNew with ⟨value, after, stored, moves, placed⟩
    refine ⟨after, value, placed, ?_, stored⟩
    rw [← named id position value found stored]
    exact movable.back new value after moves

/-- Two moves of the same elements, the first one taken back, are the second move
alone. -/
theorem Moved.skip {previous : Identifier → Option Value}
    (undone : Moved movable oldPositions held previous)
    (moved : Moved movable newPositions held target)
    (keys : ∀ id, id ∈ oldPositions.keys ↔ id ∈ newPositions.keys) :
    Moved movable newPositions previous target := by
  constructor
  · intro id others
    rw [moved.1 id others, undone.1 id (fun listed => others ((keys id).mp listed))]
  · intro id position found
    rcases moved.2 id position found with ⟨value, after, stored, moves, placed⟩
    rcases exists_position ((keys id).mpr (listed_of_position found)) with ⟨old, isOld⟩
    rcases undone.2 id old isOld with ⟨same, before, sameStored, movesBack, placedBack⟩
    rw [stored, Option.some.injEq] at sameStored
    subst sameStored
    exact ⟨before, after, placedBack,
      (movable.again old position value before movesBack).trans moves,
      placed⟩

end Moving

def movableNodes : Movable NodeModel where
  move position node := some { node with position := position }
  place := NodeModel.position
  back := by
    rintro position node moved ⟨⟩
    rfl
  again := by
    rintro position other node moved ⟨⟩
    rfl

/-- A group at a position, which has to be finite. -/
def groupAt : PyFloat × PyFloat → GroupModel → Option GroupModel
  | (.finite left, .finite top), group => some { group with position := (left, top) }
  | _, _ => none

theorem groupAt_eq_some {position : PyFloat × PyFloat} {group moved : GroupModel} :
    groupAt position group = some moved ↔ ∃ left top, position = (.finite left, .finite top) ∧
      moved = { group with position := (left, top) } := by
  rcases position with ⟨horizontal, vertical⟩
  cases horizontal <;> cases vertical <;> simp [groupAt, eq_comm]

theorem repositionGroup_toOption (group : GroupModel) (position : PyFloat × PyFloat) :
    (repositionGroup group position).toOption = groupAt position group := by
  rcases position with ⟨horizontal, vertical⟩
  cases horizontal with
  | finite left =>
      cases vertical with
      | finite top =>
          have remade := makeGroup_fields { group with position := (left, top) }
          rw [repositionGroup, GraphDocument.constructGroup, groupAt]
          exact congrArg Except.toOption remade
      | infinite negative => rfl
      | nan => rfl
  | infinite negative => rfl
  | nan => rfl

def movableGroups : Movable GroupModel where
  move := groupAt
  place group := (.finite group.position.1, .finite group.position.2)
  back := by
    intro position group moved moves
    rcases groupAt_eq_some.mp moves with ⟨left, top, rfl, rfl⟩
    rfl
  again := by
    intro position other group moved moves
    rcases groupAt_eq_some.mp moves with ⟨left, top, rfl, rfl⟩
    rcases other with ⟨horizontal, vertical⟩
    cases horizontal <;> cases vertical <;> rfl

theorem nodup_sorted_positions (positions : Positions) :
    ((sortByKey Prod.fst positions.entries).map Prod.fst).Nodup :=
  ((sortByKey_perm _ _).map Prod.fst).nodup_iff.mpr positions.nodup

/-- The sorted entries are the positions of the elements. -/
theorem moved_of_sorted {Value : Type} {movable : Movable Value}
    {held target : Identifier → Option Value} :
    ((∀ id ∉ (sortByKey Prod.fst positions.entries).map Prod.fst, target id = held id) ∧
      ∀ entry ∈ sortByKey Prod.fst positions.entries, ∃ moved,
        (held entry.1).bind (movable.move entry.2) = some moved ∧ target entry.1 = some moved) ↔
      Moved movable positions held target := by
  have sameKeys : ∀ id, id ∈ (sortByKey Prod.fst positions.entries).map Prod.fst ↔
      id ∈ positions.keys := fun id =>
    ((sortByKey_perm Prod.fst positions.entries).map Prod.fst).mem_iff
  refine and_congr (forall_congr' fun id => by rw [sameKeys]) ?_
  constructor
  · intro moved id position found
    rcases moved (id, position) ((mem_sortByKey _).mpr (Dict.mem_of_get? found)) with
      ⟨new, moves, placed⟩
    rcases Option.bind_eq_some_iff.mp moves with ⟨value, stored, taken⟩
    exact ⟨value, new, stored, taken, placed⟩
  · rintro moved ⟨id, position⟩ listed
    rcases moved id position (Dict.get?_of_mem ((mem_sortByKey _).mp listed)) with
      ⟨value, new, stored, taken, placed⟩
    exact ⟨new, Option.bind_eq_some_iff.mpr ⟨value, stored, taken⟩, placed⟩

theorem performOn_setPositions :
    performOn (GraphCommand.setPositions positions) content = some next ↔
      ∃ target, next = { content with nodes := target } ∧
        Moved movableNodes positions content.nodes target := by
  let place := fun held : Identifier → Option NodeModel => { content with nodes := held }
  let step := fun (entry : Identifier × (PyFloat × PyFloat)) (stored : Option NodeModel) =>
    stored.bind (movableNodes.move entry.2)
  have acts : ∀ entry ∈ sortByKey Prod.fst positions.entries, ∀ held, True →
      (Change.setPosition entry.1 entry.2).onContent (place held) =
        (step entry (held entry.1)).map (fun new =>
          place (Function.update held entry.1 (some new))) := by
    intro entry _ held _
    have here : (place held).nodes entry.1 = held entry.1 := rfl
    rw [Change.onContent, Content.setPosition, here]
    cases stored : held entry.1 with
    | none => rfl
    | some node =>
        simp only [step, movableNodes, Option.map_some, Option.bind_some, Option.some.injEq]
        split_ifs with equal
        · rw [← eq_of_pairEquals equal, ← stored, Function.update_eq_self]
        · rfl
  refine (performOn_replace place step acts (fun _ _ _ _ _ => trivial)
    (nodup_sorted_positions positions) trivial).trans ?_
  exact exists_congr fun target => and_congr_right fun _ => moved_of_sorted

theorem performOn_moveGroupsTo (sound : Sound content) :
    performOn (GraphCommand.moveGroupsTo positions) content = some next ↔
      ∃ target, next = { content with groups := target } ∧
        Moved movableGroups positions content.groups target := by
  let place := fun held : Identifier → Option GroupModel => { content with groups := held }
  let step := fun (entry : Identifier × (PyFloat × PyFloat)) (stored : Option GroupModel) =>
    stored.bind (movableGroups.move entry.2)
  let valid := fun held : Identifier → Option GroupModel =>
    ∀ id group, held id = some group → group.id = id
  have keepsId : ∀ (position : PyFloat × PyFloat) (group moved : GroupModel),
      groupAt position group = some moved → moved.id = group.id := by
    intro position group moved moves
    rcases groupAt_eq_some.mp moves with ⟨left, top, _, rfl⟩
    rfl
  have acts : ∀ entry ∈ sortByKey Prod.fst positions.entries, ∀ held, valid held →
      (Change.moveGroup entry.1 entry.2).onContent (place held) =
        (step entry (held entry.1)).map (fun new =>
          place (Function.update held entry.1 (some new))) := by
    intro entry _ held isValid
    have here : (place held).groups entry.1 = held entry.1 := rfl
    rw [Change.onContent, here]
    cases stored : held entry.1 with
    | none => rfl
    | some group =>
        simp only [step, movableGroups, Option.bind_some, repositionGroup_toOption]
        cases moves : groupAt entry.2 group with
        | none => rfl
        | some moved =>
            have own := (keepsId entry.2 group moved moves).trans (isValid entry.1 group stored)
            have stays : (place held).groups moved.id = some group := by
              rw [own]
              exact stored
            have replaced := restoreGroup_over stays
            rw [own] at replaced
            exact replaced
  have keeps : ∀ (entry : Identifier × (PyFloat × PyFloat)) held new, valid held →
      step entry (held entry.1) = some new →
        valid (Function.update held entry.1 (some new)) := by
    intro entry held new isValid moves id group found
    rw [Function.update_apply] at found
    split_ifs at found with same
    · rcases Option.bind_eq_some_iff.mp moves with ⟨before, stored, taken⟩
      rw [← Option.some.inj found, keepsId _ _ _ taken, isValid _ _ stored, same]
    · exact isValid id group found
  refine (performOn_replace place step acts keeps
    (nodup_sorted_positions positions) sound.groups).trans ?_
  exact exists_congr fun target => and_congr_right fun _ => moved_of_sorted

end Ui
end Synesthesia
