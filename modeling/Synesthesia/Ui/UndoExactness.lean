import Synesthesia.Ui.CommandUndo

namespace Synesthesia
namespace Ui

open Foundation Contracts Persistence

/-!
# Undo exactness

Every command of the editor is undone exactly, but for four kinds of pushes: a
connection that replaces several others, a preview whose stored state is null, a
move that misstates where its elements were, and a parameter that is merged into
the edit before it with a value that only compares equal.
-/

/-! ## Every command -/

/-- What a command requires of the content that it is made for. -/
def Proper : GraphCommand → Content → Prop
  | .moveNodes oldPositions newPositions, _ =>
      GraphCommand.sameKeys oldPositions newPositions = true
  | .moveGroups oldPositions newPositions, _ =>
      GraphCommand.sameKeys oldPositions newPositions = true
  | .setParameter nodeId _ oldNode newNode, content =>
      oldNode.id = nodeId ∧ newNode.id = nodeId ∧ content.nodes nodeId = some oldNode
  | _, _ => True

/-- The requests that are undone exactly. -/
def Faithful (document : GraphDocument) : EditRequest → Prop
  | .replaceConnection connection => SingleInput connection document
  | .setConnectionPreview connectionId _ => ProperPreview connectionId document
  | .moveNodes oldPositions _ => NamesPlaces movableNodes oldPositions document.nodes.get?
  | .moveGroups oldPositions _ => NamesPlaces movableGroups oldPositions document.groups.get?
  | _ => True

variable {incompatibility : GraphSnapshot → ConnectionModel → Option String}

variable {document : GraphDocument}

variable {command : GraphCommand} {request : EditRequest}

theorem undo_create
    {next : Content} (consistent : document.Consistent) (faithful : Faithful document request)
    (made : GraphCommand.create incompatibility document request = .ok command)
    (performed : performOn command.redoChanges document.elements = some next)
    (after : Sound next) :
    performOn command.undoChanges next = some document.elements ∧
      Proper command document.elements := by
  have sound := Sound.of_consistent consistent
  cases request with
  | addNode node replacedNodeIds =>
      rw [GraphCommand.create] at made
      split_ifs at made
      cases made
      exact ⟨undo_addNode consistent after performed, trivial⟩
  | addGroup group =>
      cases made
      exact ⟨undo_addGroup performed, trivial⟩
  | deleteGroups groupIds =>
      cases made
      refine ⟨undo_deleteGroups ?_ ?_ performed, trivial⟩
      · exact (GraphDocument.nodup_map_values consistent.groups).sublist
          (List.filter_sublist.map _)
      · intro group member
        exact (mem_values consistent.groups).mp (List.mem_filter.mp member).1
  | moveGroups oldPositions newPositions =>
      rw [GraphCommand.create] at made
      split_ifs at made with keys
      cases made
      rcases (performOn_moveGroupsTo sound).mp performed with ⟨target, rfl, moved⟩
      exact ⟨(performOn_moveGroupsTo after).mpr
        ⟨_, rfl, moved.back (sameKeys_iff.mp keys) faithful⟩, keys⟩
  | editGroup newGroup =>
      rw [GraphCommand.create] at made
      cases found : document.groups.get? newGroup.id with
      | none =>
          rw [found] at made
          cases made
      | some oldGroup =>
          rw [found] at made
          cases made
          exact ⟨undo_editGroup (consistent.groups.get? found) found performed, trivial⟩
  | deleteNodes nodeIds =>
      cases made
      exact ⟨undo_deleteNodes consistent performed, trivial⟩
  | moveNodes oldPositions newPositions =>
      rw [GraphCommand.create] at made
      split_ifs at made with keys
      cases made
      rcases performOn_setPositions.mp performed with ⟨target, rfl, moved⟩
      exact ⟨performOn_setPositions.mpr ⟨_, rfl, moved.back (sameKeys_iff.mp keys) faithful⟩, keys⟩
  | setParameter nodeId parameterId value =>
      rcases bind_eq_ok.mp made with ⟨node, required, created⟩
      cases created
      rw [GraphDocument.requireNode_eq_ok] at required
      have own := consistent.nodes.get? required
      have stored := (congrArg document.nodes.get? own).trans required
      have sameId : node.id =
        (node.withParameters (node.parameters.insert parameterId value)).id := rfl
      exact ⟨undo_overwriteNode sameId stored performed, own, own, required⟩
  | setConnectionPreview connectionId visible =>
      rcases bind_eq_ok.mp made with ⟨connection, required, created⟩
      cases created
      rw [GraphDocument.requireConnection_eq_ok] at required
      exact ⟨undo_setConnectionPreview required faithful performed, trivial⟩
  | randomizeParameters nodes own =>
      rcases bind_eq_ok.mp made with ⟨oldNodes, captured, created⟩
      cases created
      exact ⟨undo_overwrite (GraphDocument.nodup_map_values own)
        (capturedNodes_spec consistent captured) performed, trivial⟩
  | randomizeNodes nodeIds randomized replacementIds =>
      rw [GraphCommand.create] at made
      dsimp only at made
      split_ifs at made
      cases made
      refine ⟨undo_randomizeNodes consistent after ?_ performed, trivial⟩
      intro connection member original found equal
      have changed := (List.mem_filter.mp member).2
      rw [found] at changed
      dsimp only at changed
      rw [equal] at changed
      exact Bool.false_ne_true changed
  | relinkMedia nodeId path fingerprint size =>
      rcases bind_eq_ok.mp made with ⟨node, required, relinking⟩
      rcases bind_eq_ok.mp relinking with ⟨relinked, isRelinked, created⟩
      cases created
      rw [GraphDocument.requireNode_eq_ok] at required
      have sameId : node.id = relinked.id := by
        rw [relinkedMediaNode] at isRelinked
        cases declared : mediaParameterId node.typeId with
        | none =>
            rw [declared] at isRelinked
            cases isRelinked
        | some parameterId =>
            rw [declared] at isRelinked
            cases isRelinked
            rfl
      have own := sameId.symm.trans (consistent.nodes.get? required)
      have stored := (congrArg document.nodes.get? own).trans required
      exact ⟨undo_overwriteNode sameId stored performed, trivial⟩
  | addConnection connection =>
      rw [GraphCommand.create] at made
      split_ifs at made with occupied
      cases refused : incompatibility document.snapshot connection with
      | some detail =>
          rw [refused] at made
          cases made
      | none =>
          rw [refused] at made
          cases made
          have free : incomingConnection connection document = none := by simpa using occupied
          exact ⟨undo_addConnection consistent free performed, trivial⟩
  | replaceConnection connection =>
      rw [GraphCommand.create] at made
      cases refused : incompatibility document.snapshot connection with
      | some detail =>
          rw [refused] at made
          cases made
      | none =>
          rw [refused] at made
          cases made
          exact ⟨undo_replaceConnection consistent faithful performed, trivial⟩
  | removeConnection connectionId =>
      rcases bind_eq_ok.mp made with ⟨connection, required, created⟩
      cases created
      rw [GraphDocument.requireConnection_eq_ok] at required
      have own := consistent.connections.get? required
      refine ⟨undo_removeConnection sound ?_ performed, trivial⟩
      exact (congrArg document.connections.get? own).trans required
  | paste fragment =>
      cases made
      exact ⟨undo_paste sound after performed, trivial⟩

/-! ## Merged commands -/

/-- What merging takes in. -/
theorem mergeWith_cases {last command merged : GraphCommand}
    (merges : last.mergeWith command = some merged) :
    (∃ oldPositions newPositions otherOld otherPositions,
      last = .moveGroups oldPositions newPositions ∧
      command = .moveGroups otherOld otherPositions ∧
      GraphCommand.sameKeys otherPositions newPositions = true ∧
      merged = .moveGroups oldPositions otherPositions) ∨
    (∃ oldPositions newPositions otherOld otherPositions,
      last = .moveNodes oldPositions newPositions ∧
      command = .moveNodes otherOld otherPositions ∧
      GraphCommand.sameKeys otherPositions newPositions = true ∧
      merged = .moveNodes oldPositions otherPositions) ∨
    (∃ nodeId parameterId oldNode lastNode node newNode,
      last = .setParameter nodeId parameterId oldNode lastNode ∧
      command = .setParameter nodeId parameterId node newNode ∧
      merged = .setParameter nodeId parameterId oldNode newNode) := by
  cases last with
  | moveGroups oldPositions newPositions =>
      cases command with
      | moveGroups otherOld otherPositions =>
          rw [GraphCommand.mergeWith] at merges
          split_ifs at merges with keys
          cases merges
          exact Or.inl ⟨_, _, _, _, rfl, rfl, keys, rfl⟩
      | _ => cases merges
  | moveNodes oldPositions newPositions =>
      cases command with
      | moveNodes otherOld otherPositions =>
          rw [GraphCommand.mergeWith] at merges
          split_ifs at merges with keys
          cases merges
          exact Or.inr (Or.inl ⟨_, _, _, _, rfl, rfl, keys, rfl⟩)
      | _ => cases merges
  | setParameter nodeId parameterId oldNode lastNode =>
      cases command with
      | setParameter otherId otherParameter node newNode =>
          rw [GraphCommand.mergeWith] at merges
          split_ifs at merges with same
          rcases same with ⟨rfl, rfl⟩
          cases merges
          exact Or.inr (Or.inr ⟨_, _, _, _, _, _, rfl, rfl, rfl⟩)
      | _ => cases merges
  | _ => cases command <;> cases merges

/-- A merged parameter edit makes of the first node what it made of the current
one. -/
def MergesFaithfully (stack : UndoStack GraphDocument GraphCommand) : EditRequest → Prop
  | .setParameter nodeId parameterId value => ∀ oldNode lastNode node,
      stack.last = some (.setParameter nodeId parameterId oldNode lastNode) →
      stack.state.nodes.get? nodeId = some node →
      overwrite (node.withParameters (node.parameters.insert parameterId value)) oldNode =
        overwrite (node.withParameters (node.parameters.insert parameterId value)) node
  | _ => True

theorem merge_setParameter {nodeId : Identifier} {oldNode node newNode : NodeModel}
    {previous current next : Content} (oldId : oldNode.id = nodeId) (newId : newNode.id = nodeId)
    (before : previous.nodes nodeId = some oldNode) (now : current.nodes nodeId = some node)
    (undone : performOn [.restoreNode oldNode true] current = some previous)
    (performed : performOn [.restoreNode newNode true] current = some next)
    (same : overwrite newNode oldNode = overwrite newNode node) :
    performOn [.restoreNode newNode true] previous = some next ∧
      performOn [.restoreNode oldNode true] next = some previous := by
  have single : ∀ edited : NodeModel, ([edited].map NodeModel.id).Nodup :=
    fun edited => List.nodup_singleton edited.id
  rcases (performOn_overwrite (single oldNode)).mp undone with ⟨back, rfl, backKept, _⟩
  rcases (performOn_overwrite (single newNode)).mp performed with ⟨after, rfl, kept, replaced⟩
  have isAfter := replaced newNode List.mem_cons_self
  rw [newId, now, Option.elim_some, ← same] at isAfter
  constructor
  · refine (performOn_overwrite (single newNode)).mpr ⟨after, rfl, ?_, ?_⟩
    · intro id others
      refine (kept id others).trans (backKept id ?_).symm
      rw [List.map_singleton, oldId, ← newId]
      exact others
    · intro edited member
      rw [List.mem_singleton.mp member, newId, before, Option.elim_some, isAfter]
  · refine (performOn_overwrite (single oldNode)).mpr ⟨back, rfl, ?_, ?_⟩
    · intro id others
      refine (backKept id others).trans (kept id ?_).symm
      rw [List.map_singleton, newId, ← oldId]
      exact others
    · intro edited member
      dsimp only at before ⊢
      rw [List.mem_singleton.mp member, oldId, isAfter, Option.elim_some, overwrite_back, before]

/-! ## Every run of the editor -/

/-- The pushes that are undone exactly. -/
def Reversible (stack : UndoStack GraphDocument GraphCommand) : UndoAction EditRequest → Prop
  | .push request merging =>
      Faithful stack.state request ∧ (merging = true → MergesFaithfully stack request)
  | _ => True

theorem performOn_of_leads {changes : List Change} {target : Content}
    (leads : Leads GraphDocument.elements (fun document => (perform changes document).toOption)
      document.elements target) :
    performOn changes document.elements = some target := by
  rcases leads document rfl with ⟨next, performed, reached⟩
  rw [← reached]
  exact performOn_of_perform performed

/-- A command whose changes turn one content into the other and back is exact. -/
theorem exact_of_performOn {source target : Content}
    (proper : Proper command source)
    (redone : performOn command.redoChanges source = some target)
    (undone : performOn command.undoChanges target = some source) :
    Exact (graphCommands incompatibility) GraphDocument.elements Proper command source target :=
  ⟨proper, leads_perform redone, leads_perform undone⟩

theorem create_of_make
    (made : (graphCommands incompatibility).make request document = some command) :
    GraphCommand.create incompatibility document request = .ok command := by
  rw [graphCommands] at made
  dsimp only at made
  cases created : GraphCommand.create incompatibility document request with
  | error failure =>
      rw [created] at made
      cases made
  | ok other =>
      rw [created] at made
      cases made
      rfl

/-- Only setting a parameter makes a command that sets one. -/
theorem create_setParameter {nodeId : Identifier} {parameterId : String} {node newNode : NodeModel}
    (made : GraphCommand.create incompatibility document request =
      .ok (.setParameter nodeId parameterId node newNode)) :
    ∃ value, request = .setParameter nodeId parameterId value ∧
      document.nodes.get? nodeId = some node ∧
      newNode = node.withParameters (node.parameters.insert parameterId value) := by
  cases request with
  | setParameter otherId otherParameter value =>
      rcases bind_eq_ok.mp made with ⟨found, required, created⟩
      cases created
      exact ⟨value, rfl, GraphDocument.requireNode_eq_ok.mp required, rfl⟩
  | addGroup _ | deleteGroups _ | deleteNodes _ | paste _ => cases made
  | addNode _ _ | moveGroups _ _ | moveNodes _ _ | randomizeNodes _ _ _ =>
      rw [GraphCommand.create] at made
      split_ifs at made
      cases made
  | setConnectionPreview _ _ | randomizeParameters _ _ | removeConnection _ =>
      rcases bind_eq_ok.mp made with ⟨_, _, created⟩
      cases created
  | relinkMedia _ _ _ _ =>
      rcases bind_eq_ok.mp made with ⟨_, _, relinking⟩
      rcases bind_eq_ok.mp relinking with ⟨_, _, created⟩
      cases created
  | editGroup newGroup =>
      rw [GraphCommand.create] at made
      cases found : document.groups.get? newGroup.id with
      | none =>
          rw [found] at made
          cases made
      | some oldGroup =>
          rw [found] at made
          cases made
  | addConnection connection =>
      rw [GraphCommand.create] at made
      split_ifs at made
      cases refused : incompatibility document.snapshot connection with
      | none =>
          rw [refused] at made
          cases made
      | some detail =>
          rw [refused] at made
          cases made
  | replaceConnection connection =>
      rw [GraphCommand.create] at made
      cases refused : incompatibility document.snapshot connection with
      | none =>
          rw [refused] at made
          cases made
      | some detail =>
          rw [refused] at made
          cases made

/-- A reversible push is exact, also where it is merged. -/
theorem exactPush_of_reversible {stack : UndoStack GraphDocument GraphCommand}
    {action : UndoAction EditRequest} (consistent : stack.state.Consistent)
    (reversible : Reversible stack action) :
    ExactPush (graphCommands incompatibility) GraphDocument.elements Proper stack action := by
  cases action with
  | push request merging =>
      intro command next made redone
      have created := create_of_make made
      have performed := performOn_of_perform redone
      have nextConsistent := Consistent.perform consistent redone
      rcases undo_create consistent reversible.1 created performed
        (Sound.of_consistent nextConsistent) with ⟨undone, proper⟩
      refine ⟨exact_of_performOn proper performed undone, ?_⟩
      intro last merged previous tried top merges lastExact
      have back := performOn_of_leads lastExact.undo
      rcases mergeWith_cases merges with
        ⟨oldPositions, newPositions, otherOld, positions, rfl, rfl, keys, rfl⟩ |
        ⟨oldPositions, newPositions, otherOld, positions, rfl, rfl, keys, rfl⟩ |
        ⟨nodeId, parameterId, oldNode, lastNode, node, newNode, rfl, rfl, rfl⟩
      · have sameKeys : ∀ id, id ∈ oldPositions.keys ↔ id ∈ positions.keys := fun id =>
          (sameKeys_iff.mp lastExact.isProper id).trans (sameKeys_iff.mp keys id).symm
        have sound := Sound.of_consistent consistent
        rcases (performOn_moveGroupsTo sound).mp back with ⟨before, rfl, undone⟩
        rcases (performOn_moveGroupsTo sound).mp performed with ⟨after, reached, moved⟩
        have nextSound := Sound.of_consistent nextConsistent
        have previousSound : Sound { stack.state.elements with groups := before } := by
          rcases lastExact.undo stack.state rfl with ⟨previous, performedBack, seen⟩
          rw [← seen]
          exact Sound.of_consistent (Consistent.perform consistent performedBack)
        rw [reached] at nextSound ⊢
        refine exact_of_performOn (sameKeys_iff.mpr sameKeys) ?_ ?_
        · exact (performOn_moveGroupsTo previousSound).mpr
            ⟨after, rfl, undone.skip moved sameKeys⟩
        · exact (performOn_moveGroupsTo nextSound).mpr
            ⟨before, rfl, moved.skip undone (fun id => (sameKeys id).symm)⟩
      · have sameKeys : ∀ id, id ∈ oldPositions.keys ↔ id ∈ positions.keys := fun id =>
          (sameKeys_iff.mp lastExact.isProper id).trans (sameKeys_iff.mp keys id).symm
        rcases performOn_setPositions.mp back with ⟨before, rfl, undone⟩
        rcases performOn_setPositions.mp performed with ⟨after, reached, moved⟩
        rw [reached]
        refine exact_of_performOn (sameKeys_iff.mpr sameKeys) ?_ ?_
        · exact performOn_setPositions.mpr ⟨after, rfl, undone.skip moved sameKeys⟩
        · exact performOn_setPositions.mpr
            ⟨before, rfl, moved.skip undone (fun id => (sameKeys id).symm)⟩
      · rcases create_setParameter created with ⟨value, rfl, now, isNew⟩
        rcases lastExact.isProper with ⟨oldId, _, before⟩
        have own := consistent.nodes.get? now
        have newId : newNode.id = nodeId := by
          rw [isNew]
          exact own
        have same := reversible.2 tried oldNode lastNode node top now
        rw [← isNew] at same
        rcases merge_setParameter oldId newId before now back performed same with ⟨again, away⟩
        exact exact_of_performOn ⟨oldId, newId, before⟩ again away
  | _ => trivial

/-- The commands keep the document consistent. -/
theorem keeps_consistent :
    Keeps (graphCommands incompatibility) GraphDocument.Consistent := by
  intro command document next consistent taken
  rcases taken with redone | undone
  · exact Consistent.perform consistent redone
  · exact Consistent.perform consistent undone

/-- The nodes, connections, groups and settings of two documents are the same. -/
structure SameElements (left right : GraphDocument) : Prop where
  nodes : left.snapshot.nodes = right.snapshot.nodes
  connections : left.snapshot.connections = right.snapshot.connections
  groups : left.snapshot.groups = right.snapshot.groups
  settings : left.snapshot.documentSettings = right.snapshot.documentSettings

theorem sameElements_of_elements {left right : GraphDocument}
    (same : left.elements = right.elements) : SameElements left right := by
  rcases snapshot_eq_of_content same with ⟨nodes, connections, groups, settings⟩
  exact ⟨nodes, connections, groups, settings⟩

/-- Undoing everything restores the document, and redoing what was undone,
however much it is, restores the state before the undo. -/
def UndoesExactly (incompatibility : GraphSnapshot → ConnectionModel → Option String)
    (start : GraphDocument) (stack : UndoStack GraphDocument GraphCommand) : Prop :=
  (∃ undone, run (UndoStack.step (graphCommands incompatibility)) stack
      (List.replicate stack.done.length .undo) = some undone ∧
      SameElements undone.state start) ∧
    ∀ count ≤ stack.done.length, ∃ undone redone,
      run (UndoStack.step (graphCommands incompatibility)) stack
        (List.replicate count .undo) = some undone ∧
      run (UndoStack.step (graphCommands incompatibility)) undone
        (List.replicate count .redo) = some redone ∧
      SameElements redone.state stack.state

/-- In every run of reversible pushes on a loaded document, with undo and redo
steps in any places, what was done is undone and redone exactly. -/
theorem reversible_undoes_exactly {snapshot : GraphSnapshot} {start : GraphDocument}
    {actions : List (UndoAction EditRequest)} {stack : UndoStack GraphDocument GraphCommand}
    (attached : GraphDocument.Attached snapshot)
    (loaded : GraphDocument.fromSnapshot snapshot = .ok start)
    (reversible : Meets (UndoStack.step (graphCommands incompatibility)) Reversible
      (UndoStack.fresh start) actions)
    (reached : run (UndoStack.step (graphCommands incompatibility)) (UndoStack.fresh start)
      actions = some stack)
    (closed : stack.grouped = none) : UndoesExactly incompatibility start stack := by
  have lawful : ∀ (stack : UndoStack GraphDocument GraphCommand) (action : UndoAction EditRequest),
      stack.state.Consistent → Reversible stack action →
        ExactPush (graphCommands incompatibility) GraphDocument.elements Proper stack action :=
    fun _ _ => exactPush_of_reversible
  have preserved : ∀ (stack : UndoStack GraphDocument GraphCommand)
      (action : UndoAction EditRequest) (next : UndoStack GraphDocument GraphCommand),
      stack.state.Consistent → Reversible stack action →
        stack.step (graphCommands incompatibility) action = some next → next.state.Consistent :=
    fun _ _ _ consistent _ taken => keeps_consistent.step consistent taken
  have initially : (UndoStack.fresh start :
      UndoStack GraphDocument GraphCommand).state.Consistent :=
    GraphDocument.consistent_fromSnapshot attached loaded
  have exact := meets_of_invariant lawful preserved initially reversible
  rcases undo_exact exact reached closed with ⟨⟨undone, undoRun, origin⟩, partly⟩
  refine ⟨⟨undone, undoRun, sameElements_of_elements origin⟩, ?_⟩
  intro count recorded
  rcases partly count recorded with ⟨undone, redone, undoRun, redoRun, seen⟩
  exact ⟨undone, redone, undoRun, redoRun, sameElements_of_elements seen⟩

/-! ## A replaced connection with a competitor -/

def everyEdge (_ : GraphSnapshot) (_ : ConnectionModel) : Option String := none

/-- Without its competitor, a connection is replaced and restored. -/
def thinOutAndReplace : List (UndoAction EditRequest) :=
  [.push (.removeConnection 4) true, .push (.replaceConnection (GraphDocument.competitor 5)) true,
    .undo]

def thinnedOut : GraphDocument := { GraphDocument.doubledDocument with
  revision := 1, connections := GraphDocument.doubledDocument.connections.erase 4 }

theorem single_of_thinnedOut : SingleInput (GraphDocument.competitor 5) thinnedOut := by
  unfold SingleInput
  decide +kernel

theorem reversible_thinOutAndReplace :
    Meets (UndoStack.step (graphCommands everyEdge)) Reversible
      (UndoStack.fresh GraphDocument.doubledDocument) thinOutAndReplace :=
  ⟨⟨trivial, fun _ => trivial⟩, ⟨single_of_thinnedOut, fun _ => trivial⟩, trivial, trivial⟩

/-- The connection that is replaced alone comes back. -/
theorem reversible_undoes_exactly_thinnedOut :
    ∃ stack, run (UndoStack.step (graphCommands everyEdge))
        (UndoStack.fresh GraphDocument.doubledDocument) thinOutAndReplace = some stack ∧
      stack.done.length = 1 ∧ UndoesExactly everyEdge GraphDocument.doubledDocument stack :=
  ⟨_, rfl, rfl, reversible_undoes_exactly GraphDocument.doubledSnapshot_attached
    GraphDocument.doubledSnapshot_restored reversible_thinOutAndReplace rfl rfl⟩

def replaceBoth : List (UndoAction EditRequest) :=
  [.push (.replaceConnection (GraphDocument.competitor 5)) true]

theorem replaceBoth_undone :
    ((run (UndoStack.step (graphCommands everyEdge))
        (UndoStack.fresh GraphDocument.doubledDocument) (replaceBoth ++ [.undo])).map
      (fun stack => stack.state.snapshot.connections.length)) = some 1 := by
  decide +kernel

/-- Two connections at one input are replaced by a third; undoing this restores
one of them. -/
theorem competitor_is_lost :
    ¬ ∀ (incompatibility : GraphSnapshot → ConnectionModel → Option String)
      (snapshot : GraphSnapshot) (start : GraphDocument) (actions : List (UndoAction EditRequest))
      (stack : UndoStack GraphDocument GraphCommand),
      GraphDocument.Attached snapshot → GraphDocument.fromSnapshot snapshot = .ok start →
      run (UndoStack.step (graphCommands incompatibility)) (UndoStack.fresh start) actions =
        some stack →
      stack.grouped = none → UndoesExactly incompatibility start stack := by
  intro always
  have replaced : ∃ stack, run (UndoStack.step (graphCommands everyEdge))
      (UndoStack.fresh GraphDocument.doubledDocument) replaceBoth = some stack ∧
      stack.done.length = 1 ∧ stack.grouped = none := ⟨_, rfl, rfl, rfl⟩
  rcases replaced with ⟨stack, reached, recorded, closed⟩
  rcases (always everyEdge _ _ replaceBoth stack GraphDocument.doubledSnapshot_attached
    GraphDocument.doubledSnapshot_restored reached closed).1 with ⟨undone, undoRun, same⟩
  rw [recorded] at undoRun
  have finished := run_append_eq_some.mpr ⟨stack, reached, undoRun⟩
  have lost := replaceBoth_undone
  rw [List.replicate_one] at finished
  rw [finished, Option.map_some, Option.some.injEq, same.connections] at lost
  exact absurd lost (by decide +kernel)

end Ui
end Synesthesia
