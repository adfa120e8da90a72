import Synesthesia.Foundation.Runs
import Synesthesia.Persistence.DocumentStatements

namespace Synesthesia
namespace Persistence

open Foundation Contracts

/-!
# The integrity of the document

Whatever is called on a document, connections join its nodes, everything is
stored under its own identifier, a raised exception changes nothing, and a
change counts the revision up.  An operation that replaces what is at an input
leaves one connection there, unless it returns early: a connection that is
restored as it already is keeps its competitors at the input.
-/

namespace GraphDocument

/-! ## One call -/

/-- What the document holds, whatever its revision. -/
def content (document : GraphDocument) : GraphDocument := { document with revision := 0 }

/-- The document after a method returned or raised. -/
def after : EStateM.Result PyError GraphDocument Unit → GraphDocument
  | .ok _ next => next
  | .error _ next => next

def step (document : GraphDocument) (action : Edit) : Option GraphDocument :=
  some (after (Statements.perform action document))

/-- How many connections end at an input. -/
def inputLoad (document : GraphDocument) (nodeId : Identifier) (portId : String) : Nat :=
  (document.connections.entries.filter (fun entry =>
    entry.2.destinationNodeId = nodeId && entry.2.destinationPortId = portId)).length

/-- The input whose connections an operation replaces. -/
def replacedInput : Edit → Option (Identifier × String)
  | .addConnection _ _ destinationNodeId destinationPortId _ true =>
      some (destinationNodeId, destinationPortId)
  | .restoreConnection connection true =>
      some (connection.destinationNodeId, connection.destinationPortId)
  | _ => none

/-- What is expected of every call. -/
structure KeepsIntegrity (document : GraphDocument) (action : Edit) : Prop where
  consistent : (after (Statements.perform action document)).Consistent
  replaced : ∀ next, Statements.perform action document = .ok () next →
    ∀ input ∈ replacedInput action, next.inputLoad input.1 input.2 = 1
  raised : ∀ error next, Statements.perform action document = .error error next → next = document
  counted : (after (Statements.perform action document)).content ≠ document.content →
    document.revision < (after (Statements.perform action document)).revision

/-- A connection that is restored into its input as it already is has the input
to itself. -/
def RestoresAlone (document : GraphDocument) : Edit → Prop
  | .restoreConnection connection true =>
      ∀ existing, document.connections.get? connection.id = some existing →
        existing.equals connection = true → ∀ entry ∈ document.connections.entries,
          sameInput entry.2 connection = true → entry.1 = connection.id
  | _ => True

/-! ## Counting changes -/

section Counting

variable {document next : GraphDocument}

/-- An accepted edit changes nothing or counts. -/
theorem edit_counts {action : Edit} (accepted : document.edit action = .ok next) :
    next = document ∨ next.revision = document.revision + 1 := by
  have group : ∀ {group : GroupModel} {replaceExisting : Bool},
      document.restoreGroup group replaceExisting = .ok next →
        next = document ∨ next.revision = document.revision + 1 := by
    intro group replaceExisting restored
    rw [restoreGroup] at restored
    split at restored
    · split_ifs at restored
      · exact Or.inl (Except.ok.inj restored).symm
      · exact Or.inr ((Except.ok.inj restored) ▸ rfl)
    · exact Or.inr ((Except.ok.inj restored) ▸ rfl)
  cases action with
  | addGroup id kind title text position size color =>
      rcases bind_eq_ok.mp accepted with ⟨group', _, accepted⟩
      exact group accepted
  | restoreGroup group' replaceExisting => exact group accepted
  | removeGroup id =>
      rw [edit, removeGroup] at accepted
      split_ifs at accepted
      exact Or.inr ((Except.ok.inj accepted) ▸ rfl)
  | addNode id typeId implementationVersion parameters position =>
      rw [edit, addNode] at accepted
      split_ifs at accepted
      exact Or.inr ((Except.ok.inj accepted) ▸ rfl)
  | restoreNode node replaceExisting =>
      rw [edit, restoreNode] at accepted
      split at accepted
      · split_ifs at accepted
        · exact Or.inl (Except.ok.inj accepted).symm
        · exact Or.inr ((Except.ok.inj accepted) ▸ rfl)
      · exact Or.inr ((Except.ok.inj accepted) ▸ rfl)
  | removeNode id =>
      rw [edit, removeNode] at accepted
      split_ifs at accepted
      exact Or.inr ((Except.ok.inj accepted) ▸ rfl)
  | setParameter id parameterId value =>
      rcases bind_eq_ok.mp accepted with ⟨node, _, accepted⟩
      split_ifs at accepted
      · exact Or.inl (Except.ok.inj accepted).symm
      · exact Or.inr ((Except.ok.inj accepted) ▸ rfl)
  | clearParameter id parameterId =>
      rcases bind_eq_ok.mp accepted with ⟨node, _, accepted⟩
      split_ifs at accepted
      · exact Or.inl (Except.ok.inj accepted).symm
      · exact Or.inr ((Except.ok.inj accepted) ▸ rfl)
  | setPosition id position =>
      rcases bind_eq_ok.mp accepted with ⟨node, _, accepted⟩
      split_ifs at accepted
      · exact Or.inl (Except.ok.inj accepted).symm
      · exact Or.inr ((Except.ok.inj accepted) ▸ rfl)
  | addConnection sourceNodeId sourcePortId destinationNodeId destinationPortId id
      replaceExisting =>
      rcases bind_eq_ok.mp accepted with ⟨source, _, accepted⟩
      rcases bind_eq_ok.mp accepted with ⟨destination, _, accepted⟩
      dsimp only at accepted
      split at accepted
      · split_ifs at accepted
        exact Or.inr ((Except.ok.inj accepted) ▸ rfl)
      · exact Or.inr ((Except.ok.inj accepted) ▸ rfl)
  | restoreConnection connection replaceExistingInput =>
      rcases bind_eq_ok.mp accepted with ⟨source, _, accepted⟩
      rcases bind_eq_ok.mp accepted with ⟨destination, _, accepted⟩
      split at accepted
      · split_ifs at accepted
        · exact Or.inl (Except.ok.inj accepted).symm
        · exact Or.inr ((Except.ok.inj accepted) ▸ rfl)
      · exact Or.inr ((Except.ok.inj accepted) ▸ rfl)
  | removeConnection id =>
      rw [edit, removeConnection] at accepted
      split_ifs at accepted
      exact Or.inr ((Except.ok.inj accepted) ▸ rfl)
  | setConnectionUiState id key value =>
      rcases bind_eq_ok.mp accepted with ⟨connection, _, accepted⟩
      split_ifs at accepted
      · exact Or.inl (Except.ok.inj accepted).symm
      · exact Or.inr ((Except.ok.inj accepted) ▸ rfl)
  | removeConnectionUiStateKey id key =>
      rcases bind_eq_ok.mp accepted with ⟨connection, _, accepted⟩
      split_ifs at accepted
      · exact Or.inl (Except.ok.inj accepted).symm
      · exact Or.inr ((Except.ok.inj accepted) ▸ rfl)
  | setDocumentSetting key value =>
      rw [edit, setDocumentSetting] at accepted
      split_ifs at accepted
      · exact Or.inl (Except.ok.inj accepted).symm
      · exact Or.inr ((Except.ok.inj accepted) ▸ rfl)

end Counting

/-! ## The load of an input -/

section Load

variable {document next : GraphDocument} {connection : ConnectionModel}

theorem inputLoad_eq (document : GraphDocument) (connection : ConnectionModel) :
    document.inputLoad connection.destinationNodeId connection.destinationPortId =
      (document.connections.entries.filter (fun entry => sameInput entry.2 connection)).length :=
  rfl

/-- The entry that is assigned is the only one of its kind, if there was none before. -/
theorem filter_assign_length {Key Value : Type} [DecidableEq Key] {test : Key × Value → Bool}
    {key : Key} {value : Value} (passes : test (key, value) = true) :
    {entries : List (Key × Value)} → entries.filter test = [] →
      ((Dict.assign key value entries).filter test).length = 1
  | [], _ => by
      rw [Dict.assign, List.filter_cons_of_pos passes]
      rfl
  | (other, stored) :: rest, unlike => by
      have fails : ¬ test (other, stored) = true :=
        List.filter_eq_nil_iff.mp unlike (other, stored) List.mem_cons_self
      rw [List.filter_cons_of_neg fails] at unlike
      rw [Dict.assign]
      split_ifs
      · rw [List.filter_cons_of_pos passes, unlike]
        rfl
      · rw [List.filter_cons_of_neg fails]
        exact filter_assign_length passes unlike

theorem sameInput_self (connection : ConnectionModel) :
    sameInput connection connection = true := by
  rw [sameInput, decide_eq_true rfl, decide_eq_true rfl]
  rfl

/-- A stored replacement is alone at its input. -/
theorem inputLoad_putConnection (document : GraphDocument) (connection : ConnectionModel) :
    (document.putConnection connection true).inputLoad connection.destinationNodeId
      connection.destinationPortId = 1 := by
  rw [inputLoad_eq]
  apply filter_assign_length (sameInput_self connection)
  rw [List.filter_eq_nil_iff]
  intro entry member
  have apart := (List.mem_filter.mp member).2
  rw [Bool.not_eq_true'] at apart
  rw [apart]
  exact Bool.false_ne_true

theorem sameInput_of_equals {left right : ConnectionModel} (equal : left.equals right = true) :
    sameInput left right = true := by
  simp only [ConnectionModel.equals, Bool.and_eq_true, decide_eq_true_eq] at equal
  rw [sameInput, Bool.and_eq_true, decide_eq_true_eq, decide_eq_true_eq]
  exact ⟨equal.1.1.2, equal.1.2⟩

/-- An input of a stored connection carries it alone exactly when no other
identifier has a connection there. -/
theorem inputLoad_eq_one_iff {existing : ConnectionModel}
    (found : document.connections.get? connection.id = some existing)
    (ends : sameInput existing connection = true) :
    document.inputLoad connection.destinationNodeId connection.destinationPortId = 1 ↔
      ∀ entry ∈ document.connections.entries, sameInput entry.2 connection = true →
        entry.1 = connection.id := by
  have stored : (connection.id, existing) ∈ document.connections.entries.filter
      (fun entry => sameInput entry.2 connection) :=
    List.mem_filter.mpr ⟨Dict.mem_of_get? found, ends⟩
  rw [inputLoad_eq]
  constructor
  · intro single entry member same
    rcases List.length_eq_one_iff.mp single with ⟨only, listed⟩
    rw [listed] at stored
    have other : entry ∈ document.connections.entries.filter
        (fun entry => sameInput entry.2 connection) := List.mem_filter.mpr ⟨member, same⟩
    rw [listed] at other
    rw [List.mem_singleton.mp other, ← List.mem_singleton.mp stored]
  · intro alone
    have distinct : ((document.connections.entries.filter
        (fun entry => sameInput entry.2 connection)).map Prod.fst).Nodup :=
      document.connections.nodup.sublist (List.filter_sublist.map _)
    have keys : ∀ key ∈ (document.connections.entries.filter
        (fun entry => sameInput entry.2 connection)).map Prod.fst, key = connection.id := by
      intro key member
      rcases List.mem_map.mp member with ⟨entry, listed, same⟩
      rw [← same]
      exact alone entry (List.mem_filter.mp listed).1 (List.mem_filter.mp listed).2
    have one := List.eq_replicate_of_mem keys
    have short : ((document.connections.entries.filter
        (fun entry => sameInput entry.2 connection)).map Prod.fst).length ≤ 1 := by
      rw [one] at distinct
      exact List.nodup_replicate.mp distinct
    rw [List.length_map] at short
    exact Nat.le_antisymm short (List.length_pos_of_mem stored)

end Load

/-! ## The law of a call -/

section Law

variable {document : GraphDocument}

theorem perform_eq_ok {action : Edit} {next : GraphDocument}
    (returned : Statements.perform action document = .ok () next) :
    document.edit action = .ok next := by
  rw [Statements.perform_apply] at returned
  cases edited : document.edit action with
  | error error =>
      rw [edited] at returned
      cases returned
  | ok changed =>
      rw [edited] at returned
      cases returned
      rfl

/-- After a replacing operation the input has its one connection, or it was left
alone because the connection is stored already. -/
theorem replaced_iff {action : Edit} {next : GraphDocument}
    (accepted : document.edit action = .ok next) :
    (∀ input ∈ replacedInput action, next.inputLoad input.1 input.2 = 1) ↔
      RestoresAlone document action := by
  cases action with
  | addConnection sourceNodeId sourcePortId destinationNodeId destinationPortId id
      replaceExisting =>
      cases replaceExisting with
      | false => exact iff_of_true (fun input impossible => by cases impossible) trivial
      | true =>
          apply iff_of_true _ trivial
          intro input replaced
          cases replaced
          rcases bind_eq_ok.mp accepted with ⟨source, _, accepted⟩
          rcases bind_eq_ok.mp accepted with ⟨destination, _, accepted⟩
          dsimp only at accepted
          split at accepted
          · split_ifs at accepted
            cases accepted
            exact inputLoad_putConnection document _
          · cases accepted
            exact inputLoad_putConnection document _
  | restoreConnection connection replaceExistingInput =>
      cases replaceExistingInput with
      | false => exact iff_of_true (fun input impossible => by cases impossible) trivial
      | true =>
          rcases bind_eq_ok.mp accepted with ⟨source, _, accepted⟩
          rcases bind_eq_ok.mp accepted with ⟨destination, _, accepted⟩
          have loads : (∀ input ∈ replacedInput (.restoreConnection connection true),
              next.inputLoad input.1 input.2 = 1) ↔
              next.inputLoad connection.destinationNodeId connection.destinationPortId = 1 := by
            constructor
            · exact fun replaced => replaced _ rfl
            · intro single input replaced
              cases replaced
              exact single
          rw [loads, RestoresAlone]
          cases found : document.connections.get? connection.id with
          | none =>
              rw [found] at accepted
              cases accepted
              apply iff_of_true (inputLoad_putConnection document connection)
              intro existing impossible
              cases impossible
          | some existing =>
              rw [found] at accepted
              dsimp only at accepted
              by_cases equal : existing.equals connection = true
              · rw [if_pos equal] at accepted
                cases accepted
                rw [inputLoad_eq_one_iff found (sameInput_of_equals equal)]
                constructor
                · intro alone other same _
                  exact alone
                · exact fun alone => alone existing rfl equal
              · rw [if_neg equal] at accepted
                split_ifs at accepted
                cases accepted
                apply iff_of_true (inputLoad_putConnection document connection)
                intro other same impossible
                cases same
                exact absurd impossible equal
  | _ => exact iff_of_true (fun input impossible => by cases impossible) trivial

theorem raised_unchanged {action : Edit} {error : PyError} {next : GraphDocument}
    (raised : Statements.perform action document = .error error next) : next = document := by
  rw [Statements.perform_apply] at raised
  cases edited : document.edit action with
  | ok changed =>
      rw [edited] at raised
      cases raised
  | error failure =>
      rw [edited] at raised
      cases raised
      rfl

/-- A call leaves a consistent document consistent, whether it returns or raises. -/
theorem Consistent.after (consistent : document.Consistent) (action : Edit) :
    (after (Statements.perform action document)).Consistent := by
  cases performed : Statements.perform action document with
  | ok value next => exact consistent.edit (perform_eq_ok performed)
  | error error next =>
      rw [raised_unchanged performed]
      exact consistent

/-- A connection that is stored already can be restored. -/
theorem Consistent.restores (consistent : document.Consistent)
    {connection existing : ConnectionModel} {replaceExistingInput : Bool}
    (found : document.connections.get? connection.id = some existing)
    (equal : existing.equals connection = true) :
    document.restoreConnection connection replaceExistingInput = .ok document := by
  have same := equal
  simp only [ConnectionModel.equals, Bool.and_eq_true, decide_eq_true_eq] at same
  have ends := consistent.attached _ (Dict.mem_of_get? found)
  rw [same.1.1.1.1.2, same.1.1.2] at ends
  rcases Option.isSome_iff_exists.mp ((Dict.get?_isSome _ _).mpr ends.1) with ⟨source, sourceFound⟩
  rcases Option.isSome_iff_exists.mp ((Dict.get?_isSome _ _).mpr ends.2) with
    ⟨destination, destinationFound⟩
  rw [GraphDocument.restoreConnection, requireNode_eq_ok.mpr sourceFound,
    requireNode_eq_ok.mpr destinationFound, found]
  simp only [bind, Except.bind]
  rw [if_pos equal]
  rfl

/-- A call on a consistent document is as expected exactly when it does not
restore a connection over competitors that it would keep. -/
theorem keepsIntegrity_iff (consistent : document.Consistent) (action : Edit) :
    KeepsIntegrity document action ↔ RestoresAlone document action := by
  have kept := consistent.after action
  cases performed : Statements.perform action document with
  | ok value next =>
      have accepted := perform_eq_ok performed
      rw [performed] at kept
      constructor
      · exact fun integrity => (replaced_iff accepted).mp (integrity.replaced next performed)
      · intro alone
        refine ⟨performed ▸ kept, ?_, ?_, ?_⟩
        · intro other returned
          cases performed.symm.trans returned
          exact (replaced_iff accepted).mpr alone
        · intro error other raised
          cases performed.symm.trans raised
        · rw [performed]
          intro changed
          rcases edit_counts accepted with same | counted
          · exact absurd (congrArg content same) changed
          · change document.revision < next.revision
            omega
  | error error next =>
      have unchanged := raised_unchanged performed
      rw [performed] at kept
      apply iff_of_true
      · refine ⟨performed ▸ kept, ?_, ?_, ?_⟩
        · intro other returned
          cases performed.symm.trans returned
        · intro failure other raised
          exact raised_unchanged raised
        · rw [performed]
          exact fun changed => absurd (congrArg content unchanged) changed
      · cases action with
        | restoreConnection connection replaceExistingInput =>
            cases replaceExistingInput with
            | false => trivial
            | true =>
                intro existing found equal
                have returned : Statements.perform (.restoreConnection connection true) document =
                    .ok () document := by
                  rw [Statements.perform_apply, edit, consistent.restores found equal]
                  rfl
                cases performed.symm.trans returned
        | _ => trivial

end Law

/-! ## Every sequence of calls -/

theorem Consistent.step {document next : GraphDocument} {action : Edit}
    (consistent : document.Consistent) (taken : document.step action = some next) :
    next.Consistent := by
  cases taken
  exact consistent.after action

/-- Throughout any calls on a document without dangling connections, each is as
expected exactly when none restores a connection over competitors at its input. -/
theorem document_integrity_iff {snapshot : GraphSnapshot} {document : GraphDocument}
    (attached : Attached snapshot) (restored : fromSnapshot snapshot = .ok document)
    (actions : List Edit) :
    document.Consistent ∧
      (Foundation.Meets step KeepsIntegrity document actions ↔
        Foundation.Meets step RestoresAlone document actions) := by
  have consistent := consistent_fromSnapshot attached restored
  have same : ∀ (state : GraphDocument) (action : Edit), state.Consistent →
      (KeepsIntegrity state action ↔ RestoresAlone state action) :=
    fun state action kept => keepsIntegrity_iff kept action
  exact ⟨consistent, meets_congr_of_invariant same (fun _ _ _ kept _ taken => kept.step taken)
    consistent actions⟩

/-! ## Two connections at one input -/

theorem firstVersion_positive : 1 ≤ 1 := Nat.le_refl 1

def endNode (id : Identifier) : NodeModel where
  id := id
  typeId := "synmachine.utility.number"
  implementationVersion := 1
  parameters := Dict.empty
  position := (.finite 0, .finite 0)
  size := none
  userLabel := none
  collapsed := false
  uiState := Dict.empty
  versioned := firstVersion_positive

def competitor (id : Identifier) : ConnectionModel where
  id := id
  sourceNodeId := 1
  sourcePortId := "value"
  destinationNodeId := 2
  destinationPortId := "value"
  uiState := Dict.empty

/-- A loaded graph may have two connections at one input. -/
def doubledSnapshot : GraphSnapshot :=
  ⟨0, 0, [endNode 1, endNode 2], [competitor 3, competitor 4], Dict.empty, []⟩

def doubledDocument : GraphDocument where
  documentId := 0
  revision := 0
  nodes := (Dict.empty.insert 1 (endNode 1)).insert 2 (endNode 2)
  connections := (Dict.empty.insert 3 (competitor 3)).insert 4 (competitor 4)
  groups := Dict.empty
  documentSettings := Dict.empty

theorem doubledSnapshot_attached : Attached doubledSnapshot := by
  intro connection member
  rcases List.mem_cons.mp member with same | member
  · rw [same]
    decide
  · rw [List.mem_singleton.mp member]
    decide

theorem doubledSnapshot_restored : fromSnapshot doubledSnapshot = .ok doubledDocument := rfl

/-- Adding a connection over the two, and restoring one of them, is as expected
exactly as far as it has no competitor. -/
theorem document_integrity_iff_doubled :
    doubledDocument.Consistent ∧
      (Foundation.Meets step KeepsIntegrity doubledDocument
          [.addConnection 1 "value" 2 "value" 5 true, .restoreConnection (competitor 5) true] ↔
        Foundation.Meets step RestoresAlone doubledDocument
          [.addConnection 1 "value" 2 "value" 5 true, .restoreConnection (competitor 5) true]) :=
  document_integrity_iff doubledSnapshot_attached doubledSnapshot_restored _

/-- Restoring the first connection into the input leaves the second there. -/
theorem competitor_stays :
    ¬ ∀ (snapshot : GraphSnapshot) (document : GraphDocument) (actions : List Edit),
      Attached snapshot → fromSnapshot snapshot = .ok document →
        Foundation.Meets step KeepsIntegrity document actions := by
  intro always
  have kept := (always doubledSnapshot doubledDocument [.restoreConnection (competitor 3) true]
    doubledSnapshot_attached doubledSnapshot_restored).1
  have consistent := consistent_fromSnapshot doubledSnapshot_attached doubledSnapshot_restored
  have alone := (keepsIntegrity_iff consistent _).mp kept (competitor 3) rfl rfl
    (4, competitor 4) (List.mem_cons_of_mem _ List.mem_cons_self) rfl
  exact absurd alone (by decide)

end GraphDocument

end Persistence
end Synesthesia
