import Synesthesia.Nodes.ExecutionContract
import Synesthesia.Persistence.DocumentContent
import Synesthesia.Ui.GraphCommands

namespace Synesthesia
namespace Ui

open Foundation Contracts Nodes Persistence

/-!
# Edits of literals

Setting a parameter, restoring a node and setting a key of a connection or of
the document all leave out an edit that changes nothing, and ask `==` whether
it does.  That equality takes `1`, `1.0` and `True` for the same, so an edit of
the kind alone is left out, too.  This module says which edits get lost.
-/

/-! ## Entering a parameter -/

/-- A parameter value as a document stores it. -/
def storedLiteral : ParameterValue → LiteralValue
  | .float value => .float value
  | .int value => .int value
  | .bool value => .bool value
  | .string value => .str value
  | .color value => .color value
  | .matrix value => .matrix value

/-- What `sanitize_value` gets of a literal; `None` is of no parameter type. -/
def parameterValue? : LiteralValue → Option ParameterValue
  | .absent => none
  | .bool value => some (.bool value)
  | .int value => some (.int value)
  | .float value => some (.float value)
  | .str value => some (.string value)
  | .color value => some (.color value)
  | .matrix value => some (.matrix value)

def sanitizeLiteral (parameter : ParameterSpec) (value : LiteralValue) :
    Except PyError LiteralValue :=
  match parameterValue? value with
  | none =>
      .error (.valueError ("expected " ++ portTypeText parameter.valueType ++ ", got NoneType"))
  | some value => do
      let sanitized ← parameter.sanitizeValue value
      return storedLiteral sanitized

/-- What `set_parameter` looks up: the node, the parameter and the sanitized
value. -/
structure EnteredLiteral where
  node : NodeModel
  parameter : ParameterSpec
  sanitized : LiteralValue

section Session

variable {ρ : Type} (registry : Nodes.NodeRegistry ρ)
  (incompatibility : GraphSnapshot → ConnectionModel → Option String)

def enteredLiteral (nodeId : Identifier) (parameterId : String) (value : LiteralValue)
    (document : GraphDocument) : Except PyError EnteredLiteral :=
  match document.nodes.get? nodeId with
  | none => .error (.keyError ("Unknown node: " ++ uuidText nodeId.val))
  | some node =>
      match registry.get? node.typeId with
      | none => .error (.keyError ("Unknown node type: " ++ node.typeId))
      | some definition =>
          match definition.parameter parameterId with
          | none => .error (.keyError
              ("Unknown parameter " ++ quoted parameterId ++ " on " ++ node.typeId))
          | some parameter => do
              let sanitized ← sanitizeLiteral parameter value
              return ⟨node, parameter, sanitized⟩

/-- `DocumentSession.set_parameter`; a pushed command is executed. -/
def sessionSetParameter (nodeId : Identifier) (parameterId : String) (value : LiteralValue)
    (document : GraphDocument) : Except PyError GraphDocument := do
  let entered ← enteredLiteral registry nodeId parameterId value document
  if GraphDocument.holds entered.node.parameters parameterId entered.sanitized then
    return document
  else
    let command ← GraphCommand.create incompatibility document
      (.setParameter nodeId parameterId entered.sanitized)
    perform command.redoChanges document

/-- The edits of literals. -/
inductive LiteralEdit where
  | enterParameter (nodeId : Identifier) (parameterId : String) (value : LiteralValue)
  | setParameter (nodeId : Identifier) (parameterId : String) (value : LiteralValue)
  | restoreNode (node : NodeModel) (replaceExisting : Bool)
  | setConnectionUiState (connectionId : Identifier) (key : String) (value : LiteralValue)
  | setDocumentSetting (key : String) (value : LiteralValue)

def LiteralEdit.apply (document : GraphDocument) : LiteralEdit → Except PyError GraphDocument
  | .enterParameter nodeId parameterId value =>
      sessionSetParameter registry incompatibility nodeId parameterId value document
  | .setParameter nodeId parameterId value => document.setParameter nodeId parameterId value
  | .restoreNode node replaceExisting => document.restoreNode node replaceExisting
  | .setConnectionUiState connectionId key value =>
      document.setConnectionUiState connectionId key value
  | .setDocumentSetting key value => document.setDocumentSetting key value

/-! ## What an edit is for -/

def parameterAt (nodeId : Identifier) (parameterId : String) (document : GraphDocument) :
    Option LiteralValue :=
  (document.nodes.get? nodeId).bind (fun node => node.parameters.get? parameterId)

def uiStateAt (connectionId : Identifier) (key : String) (document : GraphDocument) :
    Option LiteralValue :=
  (document.connections.get? connectionId).bind (fun connection => connection.uiState.get? key)

/-- What the edit names is there, its value is accepted, and a node that is
there may be replaced. -/
def LiteralEdit.Applicable (document : GraphDocument) : LiteralEdit → Prop
  | .enterParameter nodeId parameterId value =>
      ∃ entered, enteredLiteral registry nodeId parameterId value document = .ok entered
  | .setParameter nodeId _ _ => ∃ node, document.nodes.get? nodeId = some node
  | .restoreNode node replaceExisting =>
      replaceExisting = true ∨ document.nodes.get? node.id = none
  | .setConnectionUiState connectionId _ _ =>
      ∃ connection, document.connections.get? connectionId = some connection
  | .setDocumentSetting _ _ => True

/-- The document holds the literals of the edit with their kinds; an entered
parameter is one that its specification accepts. -/
def LiteralEdit.HeldIn (document next : GraphDocument) : LiteralEdit → Prop
  | .enterParameter nodeId parameterId value => ∀ entered,
      enteredLiteral registry nodeId parameterId value document = .ok entered →
      parameterAt nodeId parameterId next = some entered.sanitized ∧
        entered.parameter.validateLiteral (parameterValue? entered.sanitized) = none
  | .setParameter nodeId parameterId value => parameterAt nodeId parameterId next = some value
  | .restoreNode node _ => ∃ stored, next.nodes.get? node.id = some stored ∧
      (∀ key, stored.parameters.get? key = node.parameters.get? key) ∧
      ∀ key, stored.uiState.get? key = node.uiState.get? key
  | .setConnectionUiState connectionId key value => uiStateAt connectionId key next = some value
  | .setDocumentSetting key value => next.documentSettings.get? key = some value

/-- The edit succeeds and is not lost. -/
def LiteralEdit.Kept (document : GraphDocument) (edit : LiteralEdit) : Prop :=
  ∃ next, edit.apply registry incompatibility document = .ok next ∧
    edit.HeldIn registry document next

/-! ## What hides an edit -/

/-- Equal literals that differ in their kind. -/
def Twin (stored value : LiteralValue) : Prop := stored.equals value = true ∧ stored ≠ value

/-- A mapping holds a literal that differs from the new one in its kind alone. -/
def MaskedAt (mapping : Dict String LiteralValue) (key : String) (value : LiteralValue) : Prop :=
  ∃ stored, mapping.get? key = some stored ∧ Twin stored value

/-- Some literal of the new mapping is masked by the old one. -/
def MaskedBy (old new : Dict String LiteralValue) : Prop :=
  ∃ key value, new.get? key = some value ∧ MaskedAt old key value

/-- Before the edit, a literal that differs in its kind alone is in its place;
for a whole node, nothing else of it differs either. -/
def LiteralEdit.Masked (document : GraphDocument) : LiteralEdit → Prop
  | .enterParameter nodeId parameterId value => ∃ entered,
      enteredLiteral registry nodeId parameterId value document = .ok entered ∧
      MaskedAt entered.node.parameters parameterId entered.sanitized
  | .setParameter nodeId parameterId value => ∃ node,
      document.nodes.get? nodeId = some node ∧ MaskedAt node.parameters parameterId value
  | .restoreNode node _ => ∃ existing, document.nodes.get? node.id = some existing ∧
      existing.equals node = true ∧
      (MaskedBy existing.parameters node.parameters ∨ MaskedBy existing.uiState node.uiState)
  | .setConnectionUiState connectionId key value => ∃ connection,
      document.connections.get? connectionId = some connection ∧
      MaskedAt connection.uiState key value
  | .setDocumentSetting key value => MaskedAt document.documentSettings key value

end Session

/-! ## The skip rule on mappings -/

variable {value : LiteralValue} {key : String} {mapping : Dict String LiteralValue}

theorem holds_iff :
    GraphDocument.holds mapping key value = true ↔
      ∃ stored, mapping.get? key = some stored ∧ stored.equals value = true := by
  unfold GraphDocument.holds
  cases mapping.get? key with
  | none => simp
  | some stored => simp

/-- A skipped edit leaves the literal in place exactly when nothing masks it. -/
theorem get?_iff_of_holds (held : GraphDocument.holds mapping key value = true) :
    mapping.get? key = some value ↔ ¬ MaskedAt mapping key value := by
  rcases holds_iff.mp held with ⟨stored, found, equal⟩
  constructor
  · rintro present ⟨other, otherFound, _, different⟩
    exact different (Option.some.inj (otherFound.symm.trans present))
  · intro unmasked
    by_contra absent
    refine unmasked ⟨stored, found, equal, ?_⟩
    rintro rfl
    exact absent found

theorem not_maskedAt_of_not_holds (open_ : GraphDocument.holds mapping key value = false) :
    ¬ MaskedAt mapping key value := by
  rintro ⟨stored, found, equal, _⟩
  rw [holds_iff.mpr ⟨stored, found, equal⟩] at open_
  cases open_

/-- Equal mappings agree exactly when neither masks a literal of the other. -/
theorem agree_iff_of_mappingEquals {old new : Dict String LiteralValue}
    (equal : mappingEquals old new = true) :
    (∀ key, old.get? key = new.get? key) ↔ ¬ MaskedBy old new := by
  constructor
  · rintro agree ⟨key, value, present, stored, found, _, different⟩
    rw [agree key, present] at found
    exact different (Option.some.inj found).symm
  · intro unmasked key
    have backwards := (mappingEquals_iff.mp (mappingEquals_symm equal)).2
    have forwards := (mappingEquals_iff.mp equal).2
    cases present : new.get? key with
    | none =>
        cases found : old.get? key with
        | none => rfl
        | some stored =>
            rcases forwards key stored found with ⟨other, there, _⟩
            rw [present] at there
            cases there
    | some value =>
        rcases backwards key value present with ⟨stored, found, same⟩
        rw [found]
        by_contra apart
        refine unmasked ⟨key, value, present, stored, found, ?_, ?_⟩
        · rw [LiteralValue.equals_comm]
          exact same
        · rintro rfl
          exact apart rfl

/-! ## The edits one by one -/

variable {document : GraphDocument}

theorem kept_setDocumentSetting :
    (∃ next, document.setDocumentSetting key value = .ok next ∧
      next.documentSettings.get? key = some value) ↔
      ¬ MaskedAt document.documentSettings key value := by
  unfold GraphDocument.setDocumentSetting
  cases held : GraphDocument.holds document.documentSettings key value with
  | true =>
      rw [← get?_iff_of_holds held]
      constructor
      · rintro ⟨next, isNext, present⟩
        cases isNext
        exact present
      · intro present
        exact ⟨document, rfl, present⟩
  | false =>
      refine iff_of_true ⟨_, rfl, ?_⟩ (not_maskedAt_of_not_holds held)
      exact Dict.get?_insert_self _ key value

theorem setConnectionUiState_of_found {connectionId : Identifier}
    {connection : ConnectionModel}
    (found : document.connections.get? connectionId = some connection) :
    document.setConnectionUiState connectionId key value =
      .ok (if GraphDocument.holds connection.uiState key value then document
        else document.putConnectionUiState connectionId connection
          (connection.uiState.insert key value)) := by
  unfold GraphDocument.setConnectionUiState
  rw [GraphDocument.requireConnection_eq_ok.mpr found]
  dsimp only [bind, Except.bind]
  split_ifs <;> rfl

theorem kept_setConnectionUiState {connectionId : Identifier}
    {connection : ConnectionModel}
    (found : document.connections.get? connectionId = some connection) :
    (∃ next, document.setConnectionUiState connectionId key value = .ok next ∧
      uiStateAt connectionId key next = some value) ↔ ¬ MaskedAt connection.uiState key value := by
  rw [setConnectionUiState_of_found found]
  simp only [Except.ok.injEq, exists_eq_left']
  cases held : GraphDocument.holds connection.uiState key value with
  | true =>
      rw [if_pos rfl, ← get?_iff_of_holds held, uiStateAt, found]
      rfl
  | false =>
      refine iff_of_true ?_ (not_maskedAt_of_not_holds held)
      simp [uiStateAt, GraphDocument.putConnectionUiState, GraphDocument.touch]

variable {node : NodeModel} {parameterId : String} {nodeId : Identifier}

/-- A node stored with a new parameter holds it. -/
theorem parameterAt_putNode :
    parameterAt nodeId parameterId (document.putNode nodeId
      (node.withParameters (node.parameters.insert parameterId value))) = some value := by
  simp [parameterAt, GraphDocument.putNode, GraphDocument.touch, NodeModel.withParameters]

theorem setParameter_of_found (found : document.nodes.get? nodeId = some node) :
    document.setParameter nodeId parameterId value =
      .ok (if GraphDocument.holds node.parameters parameterId value then document
        else document.putNode nodeId
          (node.withParameters (node.parameters.insert parameterId value))) := by
  unfold GraphDocument.setParameter
  rw [GraphDocument.requireNode_eq_ok.mpr found]
  dsimp only [bind, Except.bind]
  split_ifs <;> rfl

/-- Writing a parameter unless it is held. -/
theorem parameterAt_write (found : document.nodes.get? nodeId = some node) :
    parameterAt nodeId parameterId
        (if GraphDocument.holds node.parameters parameterId value then document
          else document.putNode nodeId
            (node.withParameters (node.parameters.insert parameterId value))) = some value ↔
      ¬ MaskedAt node.parameters parameterId value := by
  cases held : GraphDocument.holds node.parameters parameterId value with
  | true =>
      rw [if_pos rfl, ← get?_iff_of_holds held, parameterAt, found]
      rfl
  | false => exact iff_of_true parameterAt_putNode (not_maskedAt_of_not_holds held)

theorem kept_setParameter (found : document.nodes.get? nodeId = some node) :
    (∃ next, document.setParameter nodeId parameterId value = .ok next ∧
      parameterAt nodeId parameterId next = some value) ↔
      ¬ MaskedAt node.parameters parameterId value := by
  rw [setParameter_of_found found]
  simp only [Except.ok.injEq, exists_eq_left']
  exact parameterAt_write found

/-- A parameter that is not held makes the whole node another one. -/
theorem not_equals_withParameters
    (open_ : GraphDocument.holds node.parameters parameterId value = false) :
    node.equals (node.withParameters (node.parameters.insert parameterId value)) = false := by
  by_contra equal
  have mappings :
      mappingEquals node.parameters (node.parameters.insert parameterId value) = true := by
    have same := Bool.not_eq_false _ |>.mp equal
    simp only [NodeModel.equals, NodeModel.withParameters, Bool.and_eq_true] at same
    exact same.1.1.1.1.1.2
  rcases (mappingEquals_iff.mp (mappingEquals_symm mappings)).2 parameterId value
    (Dict.get?_insert_self _ parameterId value) with ⟨stored, found, same⟩
  rw [LiteralValue.equals_comm] at same
  rw [holds_iff.mpr ⟨stored, found, same⟩] at open_
  cases open_

theorem kept_restoreNode {replaceExisting : Bool}
    (replaceable : replaceExisting = true ∨ document.nodes.get? node.id = none) :
    (∃ next, document.restoreNode node replaceExisting = .ok next ∧
      ∃ stored, next.nodes.get? node.id = some stored ∧
        (∀ key, stored.parameters.get? key = node.parameters.get? key) ∧
        ∀ key, stored.uiState.get? key = node.uiState.get? key) ↔
      ¬ ∃ existing, document.nodes.get? node.id = some existing ∧ existing.equals node = true ∧
        (MaskedBy existing.parameters node.parameters ∨
          MaskedBy existing.uiState node.uiState) := by
  have stores : (document.putNode node.id node).nodes.get? node.id = some node :=
    Dict.get?_insert_self _ node.id node
  unfold GraphDocument.restoreNode
  cases found : document.nodes.get? node.id with
  | none =>
      refine iff_of_true ⟨_, rfl, node, stores, fun _ => rfl, fun _ => rfl⟩ ?_
      rintro ⟨existing, present, _⟩
      cases present
  | some existing =>
      have replaces : replaceExisting = true := by
        rcases replaceable with yes | absent
        · exact yes
        · rw [found] at absent
          cases absent
      subst replaces
      simp only [Bool.true_eq_false, if_false]
      cases equal : existing.equals node with
      | false =>
          refine iff_of_true ⟨_, rfl, node, stores, fun _ => rfl, fun _ => rfl⟩ ?_
          rintro ⟨other, present, same, _⟩
          cases present
          rw [equal] at same
          cases same
      | true =>
          have parts := equal
          simp only [NodeModel.equals, Bool.and_eq_true] at parts
          have parameters := agree_iff_of_mappingEquals parts.1.1.1.1.1.2
          have uiState := agree_iff_of_mappingEquals parts.2
          constructor
          · rintro ⟨next, isNext, stored, present, sameParameters, sameUiState⟩
            cases isNext
            rw [found] at present
            cases present
            rintro ⟨other, isOther, _, masked⟩
            cases isOther
            rcases masked with byParameters | byUiState
            · exact parameters.mp sameParameters byParameters
            · exact uiState.mp sameUiState byUiState
          · intro unmasked
            refine ⟨document, rfl, existing, found, ?_, ?_⟩
            · refine parameters.mpr (fun masked => unmasked ?_)
              exact ⟨existing, rfl, equal, Or.inl masked⟩
            · refine uiState.mpr (fun masked => unmasked ?_)
              exact ⟨existing, rfl, equal, Or.inr masked⟩

/-! ## Entered parameters -/

section Entered

variable {ρ : Type} {registry : Nodes.NodeRegistry ρ}
  (incompatibility : GraphSnapshot → ConnectionModel → Option String)

theorem parameterValue?_storedLiteral (value : ParameterValue) :
    parameterValue? (storedLiteral value) = some value := by
  cases value <;> rfl

variable {document : GraphDocument} {entered : EnteredLiteral}

variable {parameterId : String} {value : LiteralValue}

variable {nodeId : Identifier}

/-- What is entered is stored in the node, and its specification accepts it. -/
theorem enteredLiteral_spec
    (looked : enteredLiteral registry nodeId parameterId value document = .ok entered) :
    document.nodes.get? nodeId = some entered.node ∧
      entered.parameter.validateLiteral (parameterValue? entered.sanitized) = none := by
  unfold enteredLiteral at looked
  cases found : document.nodes.get? nodeId with
  | none =>
      rw [found] at looked
      cases looked
  | some node =>
      rw [found] at looked
      dsimp only at looked
      cases known : registry.get? node.typeId with
      | none =>
          rw [known] at looked
          cases looked
      | some definition =>
          rw [known] at looked
          dsimp only at looked
          cases declared : definition.parameter parameterId with
          | none =>
              rw [declared] at looked
              cases looked
          | some parameter =>
              rw [declared] at looked
              rcases bind_eq_ok.mp looked with ⟨sanitized, isSanitized, collected⟩
              cases collected
              refine ⟨rfl, ?_⟩
              unfold sanitizeLiteral at isSanitized
              cases typed : parameterValue? value with
              | none =>
                  rw [typed] at isSanitized
                  cases isSanitized
              | some given =>
                  rw [typed] at isSanitized
                  rcases bind_eq_ok.mp isSanitized with ⟨result, accepted, stored⟩
                  cases stored
                  dsimp only
                  rw [parameterValue?_storedLiteral]
                  exact parameter.validate_sanitizeValue accepted

/-- The command of an entered parameter writes it as the document does. -/
theorem sessionSetParameter_of_entered (consistent : document.Consistent)
    (looked : enteredLiteral registry nodeId parameterId value document = .ok entered) :
    sessionSetParameter registry incompatibility nodeId parameterId value document =
      .ok
        (if GraphDocument.holds entered.node.parameters parameterId entered.sanitized then document
        else document.putNode nodeId (entered.node.withParameters
          (entered.node.parameters.insert parameterId entered.sanitized))) := by
  have found := (enteredLiteral_spec looked).1
  have sameId : entered.node.id = nodeId := consistent.nodes.get? found
  have own : (entered.node.withParameters
      (entered.node.parameters.insert parameterId entered.sanitized)).id = nodeId := sameId
  unfold sessionSetParameter
  rw [looked]
  dsimp only [bind, Except.bind]
  split_ifs with held
  · rfl
  · have another := not_equals_withParameters (Bool.not_eq_true _ |>.mp held)
    simp only [GraphCommand.create, GraphDocument.requireNode_eq_ok.mpr found, bind, Except.bind,
      pure, Except.pure, GraphCommand.redoChanges, perform, Change.apply,
      GraphDocument.restoreNode, own]
    rw [found]
    simp only [another, Bool.true_eq_false, Bool.false_eq_true, if_false]

/-- Entering a parameter stores it unless it is masked. -/
theorem kept_enterParameter (consistent : document.Consistent)
    (looked : enteredLiteral registry nodeId parameterId value document = .ok entered) :
    (∃ next,
      sessionSetParameter registry incompatibility nodeId parameterId value document = .ok next ∧
      parameterAt nodeId parameterId next = some entered.sanitized) ↔
      ¬ MaskedAt entered.node.parameters parameterId entered.sanitized := by
  rw [sessionSetParameter_of_entered incompatibility consistent looked]
  simp only [Except.ok.injEq, exists_eq_left']
  exact parameterAt_write (enteredLiteral_spec looked).1

/-- An edit of a literal is kept exactly when no literal that differs in its
kind alone masks it. -/
theorem kept_iff_not_masked (registry : Nodes.NodeRegistry ρ)
    (incompatibility : GraphSnapshot → ConnectionModel → Option String) (document : GraphDocument)
    (edit : LiteralEdit) (consistent : document.Consistent)
    (applicable : edit.Applicable registry document) :
    edit.Kept registry incompatibility document ↔ ¬ edit.Masked registry document := by
  cases edit with
  | enterParameter nodeId parameterId value =>
      rcases applicable with ⟨entered, looked⟩
      have unique : ∀ other,
          enteredLiteral registry nodeId parameterId value document = .ok other →
          other = entered := by
        intro other also
        exact Except.ok.inj (also.symm.trans looked)
      have kept := kept_enterParameter incompatibility consistent looked
      constructor
      · rintro ⟨next, isNext, held⟩ ⟨other, also, masked⟩
        rw [unique other also] at masked
        exact kept.mp ⟨next, isNext, (held entered looked).1⟩ masked
      · intro unmasked
        rcases kept.mpr (fun masked => unmasked ⟨entered, looked, masked⟩) with
          ⟨next, isNext, present⟩
        refine ⟨next, isNext, ?_⟩
        intro other also
        rw [unique other also]
        exact ⟨present, (enteredLiteral_spec looked).2⟩
  | setParameter nodeId parameterId value =>
      rcases applicable with ⟨node, found⟩
      refine (kept_setParameter found).trans (not_congr ?_)
      simp [LiteralEdit.Masked, found]
  | restoreNode node replaceExisting => exact kept_restoreNode applicable
  | setConnectionUiState connectionId key value =>
      rcases applicable with ⟨connection, found⟩
      refine (kept_setConnectionUiState found).trans (not_congr ?_)
      simp [LiteralEdit.Masked, found]
  | setDocumentSetting key value => exact kept_setDocumentSetting

end Entered
/-! ## A number of the wrong kind -/

/-- The Number node type. -/
def numberContract : NodeExecutionContract Unit where
  typeId := "synmachine.utility.number"
  implementationVersion := 4
  executionKind := .stateless
  inputs := []
  outputs := [⟨"value", .port .float⟩]
  parameters := [{
    id := "value"
    valueType := .float
    default := .float (.finite 0)
    minimum := none
    maximum := none
    choices := []
    connectable := false
    updateMode := .live
    step := none }]
  runtimeFactory := fun _ => .ok ()
  variadicInput := none
  cachePolicy := .auto
  handlesNoData := false
  parameterValidator := none
  sourceOutputs := none

theorem numberContract_constructed : numberContract.Constructed where
  inputs_unique := List.nodup_nil
  outputs_unique := List.nodup_singleton _
  parameters_unique := List.nodup_singleton _
  separate := List.forall_mem_nil _
  input_fixed := by
    intro family declared
    cases declared
  parameter_fixed := by
    intro family declared
    cases declared
  socket_typed := by simp [numberContract]

def numberTypes : Nodes.NodeRegistry Unit where
  definitions := Dict.empty.insert numberContract.typeId numberContract
  keyed := Dict.keyed_empty.insert rfl
  constructed := List.forall_mem_singleton.mpr numberContract_constructed

/-- A Number whose value a file gives as an integer. -/
def integralNumber : NodeModel where
  id := 2
  typeId := "synmachine.utility.number"
  implementationVersion := 4
  parameters := Dict.empty.insert "value" (.int 1)
  position := (.finite 0, .finite 0)
  size := none
  userLabel := none
  collapsed := false
  uiState := Dict.empty
  versioned := Nat.le_add_left 1 3

def integralDocument : GraphDocument := (GraphDocument.new 1).putNode 2 integralNumber

theorem integralDocument_consistent : integralDocument.Consistent :=
  (GraphDocument.consistent_new 1).putNode rfl

/-- Another value is stored as a float. -/
theorem kept_otherNumber :
    (LiteralEdit.enterParameter 2 "value" (.float (.finite 2))).Kept numberTypes
      (fun _ _ => none) integralDocument := by
  refine (kept_iff_not_masked numberTypes (fun _ _ => none) integralDocument
    (.enterParameter 2 "value" (.float (.finite 2))) integralDocument_consistent ⟨_, rfl⟩).mpr ?_
  rintro ⟨entered, looked, stored, found, equal, _⟩
  cases looked
  cases found
  revert equal
  decide +kernel

/-- Entering the value again does not repair the kind. -/
theorem not_always_kept :
    ¬ ∀ (registry : Nodes.NodeRegistry Unit) (document : GraphDocument) (edit : LiteralEdit),
      document.Consistent → edit.Applicable registry document →
      edit.Kept registry (fun _ _ => none) document := by
  intro claim
  rcases claim numberTypes integralDocument (.enterParameter 2 "value" (.float (.finite 1)))
    integralDocument_consistent ⟨_, rfl⟩ with ⟨next, isNext, held⟩
  have present := (held _ rfl).1
  have skipped : sessionSetParameter numberTypes (fun _ _ => none) 2 "value" (.float (.finite 1))
      integralDocument = .ok integralDocument := rfl
  cases skipped.symm.trans isNext
  have stored : parameterAt 2 "value" integralDocument = some (.int 1) := rfl
  rw [stored] at present
  cases present

end Ui
end Synesthesia
