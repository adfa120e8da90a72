import Synesthesia.Ui.GraphCommands

namespace Synesthesia
namespace Ui

open Foundation Contracts Persistence
open Persistence.Content (nodes_setNode groups_setGroup connections_setConnection)

/-!
# Undoing a command

A command is followed on the content of the document.  What it removes is
restored from what it captured; what it adds can be told from what was there.
-/

/-! ## The calls on contents -/

def Change.onContent : Change → Content → Option Content
  | .restoreGroup group replaceExisting, content => content.restoreGroup group replaceExisting
  | .removeGroup id, content => content.removeGroup id
  | .removeGroupIfPresent id, content =>
      if (content.groups id).isSome then content.removeGroup id else some content
  | .moveGroup id position, content =>
      (content.groups id).bind (fun group =>
        (repositionGroup group position).toOption.bind (fun moved =>
          content.restoreGroup moved true))
  | .restoreNode node replaceExisting, content => content.restoreNode node replaceExisting
  | .removeNode id, content => content.removeNode id
  | .removeNodeIfPresent id, content =>
      if (content.nodes id).isSome then content.removeNode id else some content
  | .setPosition id position, content => content.setPosition id position
  | .restoreConnection connection replaceExistingInput, content =>
      content.restoreConnection connection replaceExistingInput
  | .removeConnection id, content => content.removeConnection id
  | .removeConnectionIfPresent id, content =>
      if (content.connections id).isSome then content.removeConnection id else some content
  | .setConnectionUiState id key value, content => content.setConnectionUiState id key value
  | .removeConnectionUiStateKey id key, content => content.removeConnectionUiStateKey id key

def performOn : List Change → Content → Option Content
  | [], content => some content
  | change :: rest, content => (change.onContent content).bind (performOn rest)

theorem performOn_append (first second : List Change) (content : Content) :
    performOn (first ++ second) content = (performOn first content).bind (performOn second) := by
  induction first generalizing content with
  | nil => rfl
  | cons change rest ih =>
      rw [List.cons_append, performOn, performOn, Option.bind_assoc]
      exact congrArg _ (funext ih)

theorem tracks_applyGroupPosition (id : Identifier) (position : PyFloat × PyFloat) :
    Tracks (applyGroupPosition id position) (Change.moveGroup id position).onContent := by
  intro document
  rw [applyGroupPosition, Change.onContent, content_groups]
  cases document.groups.get? id with
  | none => rfl
  | some group =>
      simp only [Option.bind_some]
      cases repositionGroup group position with
      | error failure => rfl
      | ok moved => exact tracks_restoreGroup moved true document

theorem tracks_apply (change : Change) : Tracks (fun document => change.apply document)
    change.onContent := by
  intro document
  dsimp only
  cases change with
  | restoreGroup group replaceExisting => exact tracks_restoreGroup group replaceExisting document
  | removeGroup id => exact tracks_removeGroup id document
  | removeGroupIfPresent id =>
      rw [Change.apply, Change.onContent, content_groups]
      by_cases present : (document.groups.get? id).isSome = true
      · rw [if_pos present, if_pos present]
        exact tracks_removeGroup id document
      · rw [if_neg present, if_neg present]
        rfl
  | moveGroup id position => exact tracks_applyGroupPosition id position document
  | restoreNode node replaceExisting => exact tracks_restoreNode node replaceExisting document
  | removeNode id => exact tracks_removeNode id document
  | removeNodeIfPresent id =>
      rw [Change.apply, Change.onContent, content_nodes]
      by_cases present : (document.nodes.get? id).isSome = true
      · rw [if_pos present, if_pos present]
        exact tracks_removeNode id document
      · rw [if_neg present, if_neg present]
        rfl
  | setPosition id position => exact tracks_setPosition id position document
  | restoreConnection connection replaceExistingInput =>
      exact tracks_restoreConnection connection replaceExistingInput document
  | removeConnection id => exact tracks_removeConnection id document
  | removeConnectionIfPresent id =>
      rw [Change.apply, Change.onContent, content_connections]
      by_cases present : (document.connections.get? id).isSome = true
      · rw [if_pos present, if_pos present]
        exact tracks_removeConnection id document
      · rw [if_neg present, if_neg present]
        rfl
  | setConnectionUiState id key value => exact tracks_setConnectionUiState id key value document
  | removeConnectionUiStateKey id key => exact tracks_removeConnectionUiStateKey id key document

theorem tracks_perform (changes : List Change) : Tracks (perform changes) (performOn changes) := by
  induction changes with
  | nil =>
      intro document
      rfl
  | cons change rest ih =>
      intro document
      have first := tracks_apply change document
      dsimp only at first
      rw [perform, performOn, ← first]
      cases change.apply document with
      | error failure => rfl
      | ok next => exact ih next

variable {changes : List Change}

/-- Changes that turn one content into another lead from its documents to those
of the other. -/
theorem leads_perform {source target : Content}
    (performed : performOn changes source = some target) :
    Leads GraphDocument.elements (fun document => (perform changes document).toOption) source
      target := by
  intro document seen
  have tracked := tracks_perform changes document
  rw [seen, performed] at tracked
  exact Option.map_eq_some_iff.mp tracked

variable {document next : GraphDocument}

theorem performOn_of_perform (performed : (perform changes document).toOption = some next) :
    performOn changes document.elements = some next.elements := by
  rw [← tracks_perform changes document, performed, Option.map_some]

/-! ## Consistent documents stay consistent -/

theorem Consistent.apply {change : Change}
    (consistent : document.Consistent) (accepted : change.apply document = .ok next) :
    next.Consistent := by
  cases change with
  | restoreGroup group replaceExisting => exact consistent.restoreGroup accepted
  | removeGroup id =>
      have edited : document.edit (.removeGroup id) = .ok next := accepted
      exact consistent.edit edited
  | removeGroupIfPresent id =>
      rw [Change.apply] at accepted
      split_ifs at accepted
      · have edited : document.edit (.removeGroup id) = .ok next := accepted
        exact consistent.edit edited
      · cases accepted
        exact consistent
  | moveGroup id position =>
      rw [Change.apply, applyGroupPosition] at accepted
      cases found : document.groups.get? id with
      | none =>
          rw [found] at accepted
          cases accepted
      | some group =>
          rw [found] at accepted
          rcases bind_eq_ok.mp accepted with ⟨moved, _, restored⟩
          exact consistent.restoreGroup restored
  | restoreNode node replaceExisting => exact consistent.restoreNode accepted
  | removeNode id => exact consistent.removeNode accepted
  | removeNodeIfPresent id =>
      rw [Change.apply] at accepted
      split_ifs at accepted
      · exact consistent.removeNode accepted
      · cases accepted
        exact consistent
  | setPosition id position =>
      have edited : document.edit (.setPosition id position) = .ok next := accepted
      exact consistent.edit edited
  | restoreConnection connection replaceExistingInput => exact consistent.restoreConnection accepted
  | removeConnection id =>
      have edited : document.edit (.removeConnection id) = .ok next := accepted
      exact consistent.edit edited
  | removeConnectionIfPresent id =>
      rw [Change.apply] at accepted
      split_ifs at accepted
      · have edited : document.edit (.removeConnection id) = .ok next := accepted
        exact consistent.edit edited
      · cases accepted
        exact consistent
  | setConnectionUiState id key value =>
      have edited : document.edit (.setConnectionUiState id key value) = .ok next := accepted
      exact consistent.edit edited
  | removeConnectionUiStateKey id key =>
      have edited : document.edit (.removeConnectionUiStateKey id key) = .ok next := accepted
      exact consistent.edit edited

theorem Consistent.perform (consistent : document.Consistent)
    (performed : (perform changes document).toOption = some next) : next.Consistent := by
  induction changes generalizing document with
  | nil =>
      cases performed
      exact consistent
  | cons change rest ih =>
      rw [Ui.perform] at performed
      cases accepted : change.apply document with
      | error failure =>
          rw [accepted] at performed
          cases performed
      | ok middle =>
          rw [accepted] at performed
          exact ih (Consistent.apply consistent accepted) performed

/-! ## Sound contents -/

/-- What a consistent document holds. -/
structure Sound (content : Content) : Prop where
  nodes : ∀ id node, content.nodes id = some node → node.id = id
  connections : ∀ id connection, content.connections id = some connection → connection.id = id
  groups : ∀ id group, content.groups id = some group → group.id = id
  attached : ∀ id connection, content.connections id = some connection →
    content.nodes connection.sourceNodeId ≠ none ∧ content.nodes connection.destinationNodeId ≠ none

theorem Sound.of_consistent (consistent : document.Consistent) :
    Sound document.elements where
  nodes := fun _ _ found => consistent.nodes.get? found
  connections := fun _ _ found => consistent.connections.get? found
  groups := fun _ _ found => consistent.groups.get? found
  attached := by
    intro id connection found
    have ends := consistent.attached _ (Dict.mem_of_get? found)
    exact ⟨(Dict.get?_eq_none _ _).not.mpr (not_not.mpr ends.1),
      (Dict.get?_eq_none _ _).not.mpr (not_not.mpr ends.2)⟩

/-- The connection touches none of the nodes. -/
def spares (ids : List Identifier) (connection : ConnectionModel) : Bool :=
  decide (connection.sourceNodeId ∉ ids) && decide (connection.destinationNodeId ∉ ids)

variable {connection : ConnectionModel} {ids : List Identifier}

theorem spares_iff :
    spares ids connection = true ↔
      connection.sourceNodeId ∉ ids ∧ connection.destinationNodeId ∉ ids := by
  rw [spares, Bool.and_eq_true, decide_eq_true_eq, decide_eq_true_eq]

/-- The content without some nodes and the connections that touch them. -/
def without (ids : List Identifier) (content : Content) : Content :=
  { content with
    nodes := fun id => if id ∈ ids then none else content.nodes id
    connections := fun id => (content.connections id).filter (spares ids) }

variable {content : Content}

/-- A connection of the smaller content is one of the content that touches none
of the nodes. -/
theorem without_connections {id : Identifier}
    :
    (without ids content).connections id = some connection ↔
      content.connections id = some connection ∧ spares ids connection = true := by
  rw [without]
  exact Option.filter_eq_some_iff

theorem Sound.without (sound : Sound content) (ids : List Identifier) :
    Sound (without ids content) where
  nodes := by
    intro id node found
    rw [Ui.without] at found
    dsimp only at found
    split_ifs at found
    exact sound.nodes id node found
  connections := fun id connection found =>
    sound.connections id connection (without_connections.mp found).1
  groups := sound.groups
  attached := by
    intro id connection found
    rcases without_connections.mp found with ⟨stored, free⟩
    have ends := sound.attached id connection stored
    rcases spares_iff.mp free with ⟨source, destination⟩
    simp only [Ui.without, if_neg source, if_neg destination]
    exact ends

/-- Removing nodes where they are present leaves the content without them. -/
theorem removeNodeIfPresent_onContent (sound : Sound content)
    (id : Identifier) :
    (Change.removeNodeIfPresent id).onContent content = some (without [id] content) := by
  rw [Change.onContent]
  by_cases present : (content.nodes id).isSome = true
  · rw [if_pos present, Content.removeNode, if_neg (by rw [Option.isNone_iff_eq_none]; simpa
      [Option.isSome_iff_ne_none] using present)]
    refine congrArg some (Content.ext ?_ ?_ rfl rfl)
    · funext other
      simp only [Content.keepConnections, nodes_setNode, without, List.mem_singleton]
    · funext other
      simp only [Content.keepConnections, Content.setNode, without]
      congr 1
      funext connection
      simp only [Content.avoids, spares, List.mem_singleton]
  · rw [if_neg present]
    have absent : content.nodes id = none := by simpa using present
    refine congrArg some (Content.ext ?_ ?_ rfl rfl)
    · funext other
      simp only [without, List.mem_singleton]
      split_ifs with same
      · rw [same, absent]
      · rfl
    · funext other
      cases found : content.connections other with
      | none => simp [without, found]
      | some connection =>
          have ends := sound.attached other connection found
          have free : spares [id] connection = true := by
            rw [spares_iff, List.mem_singleton, List.mem_singleton]
            refine ⟨?_, ?_⟩
            · rintro same
              exact ends.1 (same ▸ absent)
            · rintro same
              exact ends.2 (same ▸ absent)
          exact (without_connections.mpr ⟨found, free⟩).symm

theorem without_without (first : Identifier) (rest : List Identifier) (content : Content) :
    without rest (without [first] content) = without (first :: rest) content := by
  refine Content.ext ?_ ?_ rfl rfl
  · funext id
    by_cases inRest : id ∈ rest
    · simp [without, inRest]
    · by_cases same : id = first
      · simp [without, same]
      · simp [without, inRest, same]
  · funext id
    simp only [without, Option.filter_filter]
    congr 1
    funext connection
    rw [Bool.eq_iff_iff, Bool.and_eq_true, spares_iff, spares_iff, spares_iff]
    simp only [List.mem_cons, List.not_mem_nil, or_false]
    tauto

theorem without_nil (content : Content) : without [] content = content := by
  refine Content.ext rfl ?_ rfl rfl
  funext id
  simp only [without]
  cases content.connections id with
  | none => rfl
  | some connection => rfl

theorem performOn_removeNodesIfPresent (sound : Sound content)
    (nodes : List NodeModel) :
    performOn (GraphCommand.removeNodesIfPresent nodes) content =
      some (without (nodes.map NodeModel.id) content) := by
  induction nodes generalizing content with
  | nil => rw [List.map_nil, without_nil]; rfl
  | cons node rest ih =>
      have first := removeNodeIfPresent_onContent sound node.id
      have others := ih (sound.without [node.id])
      rw [without_without] at others
      rw [GraphCommand.removeNodesIfPresent, List.map_cons, performOn, first, Option.bind_some]
      exact others

/-! ## Restoring what was removed -/

/-- Restoring the elements in which a content falls short of a target.  `place`
is the content with one of its parts left open. -/
theorem performOn_fill {Value : Type} {identify : Value → Identifier} {change : Value → Change}
    {place : (Identifier → Option Value) → Content} {items : List Value}
    {held target : Identifier → Option Value}
    (restores : ∀ item ∈ items, ∀ held, held (identify item) = none →
      (change item).onContent (place held) =
        some (place (Function.update held (identify item) (some item))))
    (distinct : (items.map identify).Nodup)
    (absent : ∀ item ∈ items, held (identify item) = none)
    (wanted : ∀ item ∈ items, target (identify item) = some item)
    (others : ∀ id ∉ items.map identify, held id = target id) :
    performOn (items.map change) (place held) = some (place target) := by
  induction items generalizing held with
  | nil =>
      have same : held = target := funext fun id => others id List.not_mem_nil
      rw [same]
      rfl
  | cons item rest ih =>
      rw [List.map_cons, List.nodup_cons] at distinct
      rw [List.map_cons, performOn,
        restores item List.mem_cons_self held (absent item List.mem_cons_self), Option.bind_some]
      refine ih
        (fun other member => restores other (List.mem_cons_of_mem _ member))
        distinct.2 ?_ (fun other member => wanted other (List.mem_cons_of_mem _ member)) ?_
      · intro other member
        have different : identify other ≠ identify item := by
          intro same
          exact distinct.1 (same ▸ List.mem_map_of_mem member)
        rw [Function.update_of_ne different]
        exact absent other (List.mem_cons_of_mem _ member)
      · intro id later
        by_cases same : id = identify item
        · rw [same, Function.update_self]
          exact (wanted item List.mem_cons_self).symm
        · rw [Function.update_of_ne same]
          exact others id (by simp [same, later])

variable {nodes : List NodeModel}

theorem performOn_restoreNodes
    {target : Identifier → Option NodeModel} (distinct : (nodes.map NodeModel.id).Nodup)
    (absent : ∀ node ∈ nodes, content.nodes node.id = none)
    (wanted : ∀ node ∈ nodes, target node.id = some node)
    (others : ∀ id ∉ nodes.map NodeModel.id, content.nodes id = target id) :
    performOn (GraphCommand.restoreNodes nodes false) content =
      some { content with nodes := target } := by
  let place := fun held : Identifier → Option NodeModel => { content with nodes := held }
  have restores : ∀ node ∈ nodes, ∀ held, held node.id = none →
      (Change.restoreNode node false).onContent (place held) =
        some (place (Function.update held node.id (some node))) := by
    intro node _ held missing
    have nothing : (place held).nodes node.id = none := missing
    rw [Change.onContent, Content.restoreNode, nothing]
    rfl
  exact performOn_fill restores distinct absent wanted others

variable {connections : List ConnectionModel}

theorem performOn_restoreConnections {target : Identifier → Option ConnectionModel}
    (distinct : (connections.map ConnectionModel.id).Nodup)
    (absent : ∀ connection ∈ connections, content.connections connection.id = none)
    (wanted : ∀ connection ∈ connections, target connection.id = some connection)
    (others : ∀ id ∉ connections.map ConnectionModel.id, content.connections id = target id)
    (attached : ∀ connection ∈ connections, content.nodes connection.sourceNodeId ≠ none ∧
      content.nodes connection.destinationNodeId ≠ none) :
    performOn (GraphCommand.restoreConnections connections) content =
      some { content with connections := target } := by
  let place := fun held : Identifier → Option ConnectionModel =>
    { content with connections := held }
  have restores : ∀ connection ∈ connections, ∀ held, held connection.id = none →
      (Change.restoreConnection connection false).onContent (place held) =
        some (place (Function.update held connection.id (some connection))) := by
    intro connection member held missing
    have nothing : (place held).connections connection.id = none := missing
    have ends := attached connection member
    rw [Change.onContent, Content.restoreConnection, nothing, if_neg (by
      simp only [Option.isNone_iff_eq_none, not_or]
      exact ends)]
    rfl
  exact performOn_fill restores distinct absent wanted others

theorem performOn_restoreGroups {groups : List GroupModel}
    {target : Identifier → Option GroupModel} (distinct : (groups.map GroupModel.id).Nodup)
    (absent : ∀ group ∈ groups, content.groups group.id = none)
    (wanted : ∀ group ∈ groups, target group.id = some group)
    (others : ∀ id ∉ groups.map GroupModel.id, content.groups id = target id) :
    performOn (groups.map (fun group => .restoreGroup group false)) content =
      some { content with groups := target } := by
  let place := fun held : Identifier → Option GroupModel => { content with groups := held }
  have restores : ∀ group ∈ groups, ∀ held, held group.id = none →
      (Change.restoreGroup group false).onContent (place held) =
        some (place (Function.update held group.id (some group))) := by
    intro group _ held missing
    have nothing : (place held).groups group.id = none := missing
    rw [Change.onContent, Content.restoreGroup, nothing]
    rfl
  exact performOn_fill restores distinct absent wanted others

/-- The elements that a content loses without some nodes. -/
structure Captures (ids : List Identifier) (nodes : List NodeModel)
    (connections : List ConnectionModel) (content : Content) : Prop where
  distinctNodes : (nodes.map NodeModel.id).Nodup
  distinctConnections : (connections.map ConnectionModel.id).Nodup
  nodes : ∀ node, node ∈ nodes ↔ content.nodes node.id = some node ∧ node.id ∈ ids
  connections : ∀ connection, connection ∈ connections ↔
    content.connections connection.id = some connection ∧ ¬ spares ids connection = true

theorem Captures.spares_iff
    (captures : Captures ids nodes connections content) (sound : Sound content) {id : Identifier}
    (stored : content.connections id = some connection) :
    spares (nodes.map NodeModel.id) connection = true ↔ spares ids connection = true := by
  have listed : ∀ other, content.nodes other ≠ none →
      (other ∈ nodes.map NodeModel.id ↔ other ∈ ids) := by
    intro other present
    constructor
    · intro member
      rcases List.mem_map.mp member with ⟨node, captured, rfl⟩
      exact ((captures.nodes node).mp captured).2
    · intro member
      rcases Option.ne_none_iff_exists'.mp present with ⟨node, found⟩
      have own := sound.nodes other node found
      subst own
      exact List.mem_map_of_mem ((captures.nodes node).mpr ⟨found, member⟩)
  have ends := sound.attached id connection stored
  rw [Ui.spares_iff, Ui.spares_iff, listed _ ends.1, listed _ ends.2]

/-- What was captured restores the content. -/
theorem Captures.restore
    (captures : Captures ids nodes connections content) (sound : Sound content) :
    performOn (GraphCommand.restoreNodes nodes false ++
      GraphCommand.restoreConnections connections) (without (nodes.map NodeModel.id) content) =
      some content := by
  have nodesBack : performOn (GraphCommand.restoreNodes nodes false)
      (without (nodes.map NodeModel.id) content) =
      some { without (nodes.map NodeModel.id) content with nodes := content.nodes } := by
    refine performOn_restoreNodes captures.distinctNodes ?_ ?_ ?_
    · intro node member
      exact if_pos (List.mem_map_of_mem member)
    · intro node member
      exact ((captures.nodes node).mp member).1
    · intro id other
      exact if_neg other
  have connectionsBack : performOn (GraphCommand.restoreConnections connections)
      { without (nodes.map NodeModel.id) content with nodes := content.nodes } = some content := by
    refine performOn_restoreConnections captures.distinctConnections ?_ ?_ ?_ ?_
    · intro connection member
      rcases (captures.connections connection).mp member with ⟨stored, touches⟩
      rw [← captures.spares_iff sound stored] at touches
      simp only [without, stored, Option.filter_some, if_neg touches]
    · intro connection member
      exact ((captures.connections connection).mp member).1
    · intro id other
      cases stored : content.connections id with
      | none => simp only [without, stored, Option.filter_none]
      | some connection =>
          have own := sound.connections id connection stored
          subst own
          refine without_connections.mpr ⟨stored, ?_⟩
          rw [captures.spares_iff sound stored]
          by_contra touches
          exact other
            (List.mem_map_of_mem ((captures.connections connection).mpr ⟨stored, touches⟩))
    · intro connection member
      exact sound.attached _ _ ((captures.connections connection).mp member).1
  rw [performOn_append, nodesBack, Option.bind_some, connectionsBack]

/-! ## What the editor captures -/

theorem mem_values {Value : Type} {identify : Value → Identifier} {dict : Dict Identifier Value}
    (keyed : Dict.Keyed identify dict) {value : Value} :
    value ∈ GraphDocument.values dict ↔ dict.get? (identify value) = some value := by
  rw [GraphDocument.values, List.mem_map]
  constructor
  · rintro ⟨⟨key, stored⟩, member, rfl⟩
    have listed := (mem_sortByKey _).mp member
    rw [show identify stored = key from keyed _ listed]
    exact Dict.get?_of_mem listed
  · intro found
    exact ⟨(identify value, value), (mem_sortByKey _).mpr (Dict.mem_of_get? found), rfl⟩

theorem captures_of_consistent (consistent : document.Consistent)
    (ids : List Identifier) :
    Captures ids (selectedNodes ids document) (incidentConnections ids document)
      document.elements where
  distinctNodes :=
    (GraphDocument.nodup_map_values consistent.nodes).sublist (List.filter_sublist.map _)
  distinctConnections :=
    (GraphDocument.nodup_map_values consistent.connections).sublist (List.filter_sublist.map _)
  nodes := by
    intro node
    rw [selectedNodes, List.mem_filter, mem_values consistent.nodes, decide_eq_true_eq]
    rfl
  connections := by
    intro connection
    rw [incidentConnections, List.mem_filter, mem_values consistent.connections,
      decide_eq_true_eq, spares_iff]
    rw [not_and_or, not_not, not_not]
    rfl

/-- The nodes of a selection capture the same when they are named themselves. -/
theorem captures_selected (consistent : document.Consistent)
    (ids : List Identifier) :
    Captures ((selectedNodes ids document).map NodeModel.id) (selectedNodes ids document)
      (incidentConnections ((selectedNodes ids document).map NodeModel.id) document)
      document.elements := by
  have selected := captures_of_consistent consistent ids
  have named := captures_of_consistent consistent ((selectedNodes ids document).map NodeModel.id)
  refine ⟨selected.distinctNodes, named.distinctConnections, ?_, named.connections⟩
  intro node
  constructor
  · intro member
    exact ⟨((selected.nodes node).mp member).1, List.mem_map_of_mem member⟩
  · rintro ⟨found, member⟩
    rcases List.mem_map.mp member with ⟨other, captured, same⟩
    have stored := ((selected.nodes other).mp captured).1
    rw [same, found] at stored
    exact Option.some.inj stored ▸ captured

/-! ## Which restorations succeed -/

theorem restoreNode_eq_some {node : NodeModel} {content next : Content} :
    (Change.restoreNode node false).onContent content = some next ↔
      content.nodes node.id = none ∧ next = content.setNode node.id (some node) := by
  rw [Change.onContent, Content.restoreNode]
  cases content.nodes node.id with
  | none => simp [eq_comm]
  | some existing => simp

theorem restoreConnection_eq_some {content next : Content} :
    (Change.restoreConnection connection false).onContent content = some next ↔
      (content.nodes connection.sourceNodeId ≠ none ∧
        content.nodes connection.destinationNodeId ≠ none) ∧
      ((∃ existing, content.connections connection.id = some existing ∧
          existing.equals connection = true ∧ next = content) ∨
        content.connections connection.id = none ∧
          next = content.setConnection connection.id (some connection)) := by
  rw [Change.onContent, Content.restoreConnection]
  by_cases dangling : (content.nodes connection.sourceNodeId).isNone = true ∨
      (content.nodes connection.destinationNodeId).isNone = true
  · rw [if_pos dangling]
    simp only [Option.isNone_iff_eq_none] at dangling
    constructor
    · intro impossible
      cases impossible
    · rintro ⟨ends, _⟩
      rcases dangling with source | destination
      · exact absurd source ends.1
      · exact absurd destination ends.2
  · rw [if_neg dangling]
    simp only [Option.isNone_iff_eq_none, not_or] at dangling
    rw [and_iff_right dangling]
    cases content.connections connection.id with
    | none =>
        constructor
        · intro stored
          exact Or.inr ⟨rfl, (Option.some.inj stored).symm⟩
        · rintro (⟨_, impossible, _⟩ | ⟨_, rfl⟩)
          · cases impossible
          · rfl
    | some existing =>
        dsimp only
        by_cases same : existing.equals connection = true
        · rw [if_pos same]
          constructor
          · intro kept
            exact Or.inl ⟨existing, rfl, same, (Option.some.inj kept).symm⟩
          · rintro (⟨_, _, _, rfl⟩ | ⟨impossible, _⟩)
            · rfl
            · cases impossible
        · rw [if_neg same]
          constructor
          · intro impossible
            cases impossible
          · rintro (⟨other, found, equal, _⟩ | ⟨impossible, _⟩)
            · exact absurd (Option.some.inj found ▸ equal) same
            · cases impossible

/-- Nodes that were restored are new, and nothing else changed. -/
theorem restoreNodes_spec {content next : Content}
    (performed : performOn (GraphCommand.restoreNodes nodes false) content = some next) :
    (∀ node ∈ nodes, content.nodes node.id = none) ∧
      (∀ id ∉ nodes.map NodeModel.id, next.nodes id = content.nodes id) ∧
      next.connections = content.connections ∧ next.groups = content.groups ∧
      next.documentSettings = content.documentSettings := by
  induction nodes generalizing content with
  | nil =>
      cases performed
      exact ⟨fun _ member => (by cases member), fun _ _ => rfl, rfl, rfl, rfl⟩
  | cons node rest ih =>
      rw [GraphCommand.restoreNodes, List.map_cons, performOn] at performed
      rcases Option.bind_eq_some_iff.mp performed with ⟨middle, first, onward⟩
      rcases restoreNode_eq_some.mp first with ⟨absent, rfl⟩
      rcases ih onward with ⟨fresh, kept, connections, groups, settings⟩
      refine ⟨?_, ?_, connections, groups, settings⟩
      · intro other member
        rcases List.mem_cons.mp member with same | later
        · exact same ▸ absent
        · have none := fresh other later
          rw [nodes_setNode] at none
          split_ifs at none with same
          exact none
      · intro id others
        rw [List.map_cons, List.mem_cons, not_or] at others
        rw [kept id others.2, nodes_setNode, if_neg others.1]

/-- Connections that were restored are new or were there. -/
theorem restoreConnections_spec {content next : Content}
    (performed : performOn (GraphCommand.restoreConnections connections) content = some next) :
    (∀ connection ∈ connections, ∀ existing,
        content.connections connection.id = some existing →
        existing.equals connection = true) ∧
      (∀ id, next.connections id = content.connections id ∨
        content.connections id = none ∧
          ∃ connection ∈ connections, connection.id = id ∧
            next.connections id = some connection) ∧
      next.nodes = content.nodes ∧ next.groups = content.groups ∧
      next.documentSettings = content.documentSettings := by
  induction connections generalizing content with
  | nil =>
      cases performed
      exact ⟨fun _ member => (by cases member), fun _ => Or.inl rfl, rfl, rfl, rfl⟩
  | cons connection rest ih =>
      rw [GraphCommand.restoreConnections, List.map_cons, performOn] at performed
      rcases Option.bind_eq_some_iff.mp performed with ⟨middle, first, onward⟩
      rcases ih onward with ⟨equal, kept, nodes, groups, settings⟩
      rcases (restoreConnection_eq_some.mp first).2 with
        ⟨existing, found, same, rfl⟩ | ⟨absent, rfl⟩
      · refine ⟨?_, ?_, nodes, groups, settings⟩
        · intro other member stored isStored
          rcases List.mem_cons.mp member with isFirst | later
          · rw [isFirst, found] at isStored
            rw [isFirst, ← Option.some.inj isStored]
            exact same
          · exact equal other later stored isStored
        · intro id
          rcases kept id with unchanged | ⟨none, other, member, rest⟩
          · exact Or.inl unchanged
          · exact Or.inr ⟨none, other, List.mem_cons_of_mem _ member, rest⟩
      · refine ⟨?_, ?_, nodes, groups, settings⟩
        · intro other member stored isStored
          rcases List.mem_cons.mp member with isFirst | later
          · rw [isFirst, absent] at isStored
            cases isStored
          · refine equal other later stored ?_
            rw [connections_setConnection, if_neg]
            · exact isStored
            · intro sameId
              rw [sameId, absent] at isStored
              cases isStored
        · intro id
          rcases kept id with unchanged | ⟨none, other, member, rest⟩
          · rw [connections_setConnection] at unchanged
            split_ifs at unchanged with sameId
            · exact Or.inr ⟨sameId ▸ absent, connection, List.mem_cons_self, sameId.symm, unchanged⟩
            · exact Or.inl unchanged
          · rw [connections_setConnection] at none
            split_ifs at none with sameId
            exact Or.inr ⟨none, other, List.mem_cons_of_mem _ member, rest⟩

end Ui
end Synesthesia
