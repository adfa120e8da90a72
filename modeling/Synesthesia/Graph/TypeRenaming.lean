import Synesthesia.Graph.TypeInference

namespace Synesthesia
namespace Graph

open Foundation Contracts Nodes

/-!
# Type inference under renaming

Renaming the nodes, giving the connections other identifiers and listing both
in another order leaves the inferred types as they are: what the ports and the
connections say is the same up to the names.
-/

variable {ρ : Type}

/-! ## Facts about renamed variables -/

/-- The variable of a renamed node. -/
def renameKey (rename : UUID → UUID) (key : VariableKey) : VariableKey :=
  variableKey (rename (ofLex key).1) (ofLex key).2

theorem renameKey_variableKey (rename : UUID → UUID) (nodeId : UUID) (name : String) :
    renameKey rename (variableKey nodeId name) = variableKey (rename nodeId) name := rfl

theorem renameKey_injective {rename : UUID → UUID} (injective : Function.Injective rename) :
    Function.Injective (renameKey rename) := by
  intro left right same
  have parts := congrArg ofLex same
  simp only [renameKey, variableKey, ofLex_toLex, Prod.mk.injEq] at parts
  apply ofLex.injective
  exact Prod.ext (injective parts.1) parts.2

/-- Facts that say the same about renamed variables. -/
structure TypeFacts.Renamed (rename : UUID → UUID) (facts other : TypeFacts) : Prop where
  declared : ∀ symbol, symbol ∈ other.declared ↔ ∃ original ∈ facts.declared,
    symbol = ⟨renameKey rename original.key, original.allowedTypes, original.defaultType⟩
  links : ∀ link, link ∈ other.links ↔ ∃ original ∈ facts.links,
    link = (renameKey rename original.1, renameKey rename original.2)
  attached : ∀ attachment, attachment ∈ other.attached ↔ ∃ original ∈ facts.attached,
    attachment = (renameKey rename original.1, original.2)

namespace TypeFacts

section Renaming

variable {rename : UUID → UUID} {facts other : TypeFacts}

variable (renamed : facts.Renamed rename other)
include renamed

/-- What is linked to a renamed variable is renamed from a linked variable. -/
theorem Renamed.linked_split (injective : Function.Injective rename) {left right : VariableKey}
    (linked : Linked other.links left right) :
    (∀ source, left = renameKey rename source →
      ∃ target, right = renameKey rename target ∧ Linked facts.links source target) ∧
    ∀ target, right = renameKey rename target →
      ∃ source, left = renameKey rename source ∧ Linked facts.links source target := by
  induction linked with
  | rel left right member =>
      rcases (renamed.links _).mp member with ⟨⟨first, second⟩, isLink, same⟩
      cases same
      have between : Linked facts.links first second := linked_of_mem isLink
      constructor
      · intro source isSource
        have isFirst : first = source := renameKey_injective injective isSource
        exact ⟨second, rfl, isFirst ▸ between⟩
      · intro target isTarget
        have isSecond : second = target := renameKey_injective injective isTarget
        exact ⟨first, rfl, isSecond ▸ between⟩
  | refl key =>
      exact ⟨fun source isSource => ⟨source, isSource, Linked.refl source⟩,
        fun target isTarget => ⟨target, isTarget, Linked.refl target⟩⟩
  | symm left right _ ih =>
      constructor
      · intro source isSource
        rcases ih.2 source isSource with ⟨target, isTarget, between⟩
        exact ⟨target, isTarget, between.symm⟩
      · intro target isTarget
        rcases ih.1 target isTarget with ⟨source, isSource, between⟩
        exact ⟨source, isSource, between.symm⟩
  | trans left middle right _ _ firstHypothesis secondHypothesis =>
      constructor
      · intro source isSource
        rcases firstHypothesis.1 source isSource with ⟨between, isBetween, first⟩
        rcases secondHypothesis.1 between isBetween with ⟨target, isTarget, second⟩
        exact ⟨target, isTarget, first.trans second⟩
      · intro target isTarget
        rcases secondHypothesis.2 target isTarget with ⟨between, isBetween, second⟩
        rcases firstHypothesis.2 between isBetween with ⟨source, isSource, first⟩
        exact ⟨source, isSource, first.trans second⟩

theorem Renamed.linked {left right : VariableKey}
    (linked : Linked facts.links left right) :
    Linked other.links (renameKey rename left) (renameKey rename right) := by
  induction linked with
  | rel left right member => exact linked_of_mem ((renamed.links _).mpr ⟨_, member, rfl⟩)
  | refl key => exact Linked.refl _
  | symm left right _ ih => exact ih.symm
  | trans left middle right _ _ first second => exact first.trans second

theorem Renamed.linked_iff (injective : Function.Injective rename) {left right : VariableKey} :
    Linked other.links (renameKey rename left) (renameKey rename right) ↔
      Linked facts.links left right := by
  constructor
  · intro linked
    rcases (renamed.linked_split injective linked).1 left rfl with ⟨target, isTarget, between⟩
    rw [renameKey_injective injective isTarget]
    exact between
  · exact renamed.linked

theorem Renamed.concrete (injective : Function.Injective rename) (key : VariableKey) :
    other.concrete (renameKey rename key) = facts.concrete key := by
  ext portType
  constructor
  · rintro ⟨source, attached, linked⟩
    rcases (renamed.attached _).mp attached with ⟨⟨original, _⟩, isAttached, same⟩
    cases same
    exact ⟨original, isAttached, (renamed.linked_iff injective).mp linked⟩
  · rintro ⟨source, attached, linked⟩
    exact ⟨renameKey rename source, (renamed.attached _).mpr ⟨_, attached, rfl⟩,
      renamed.linked linked⟩

theorem Renamed.admitted (injective : Function.Injective rename) (key : VariableKey) :
    other.admitted (renameKey rename key) = facts.admitted key := by
  ext portType
  constructor
  · intro admitted symbol declared linked restricted
    exact admitted ⟨renameKey rename symbol.key, symbol.allowedTypes, symbol.defaultType⟩
      ((renamed.declared _).mpr ⟨symbol, declared, rfl⟩) (renamed.linked linked) restricted
  · intro admitted symbol declared linked restricted
    rcases (renamed.declared _).mp declared with ⟨original, isDeclared, rfl⟩
    exact admitted original isDeclared ((renamed.linked_iff injective).mp linked) restricted

theorem Renamed.defaults (injective : Function.Injective rename) (key : VariableKey) :
    other.defaults (renameKey rename key) = facts.defaults key := by
  ext portType
  constructor
  · rintro ⟨symbol, declared, linked, default⟩
    rcases (renamed.declared _).mp declared with ⟨original, isDeclared, rfl⟩
    exact ⟨original, isDeclared, (renamed.linked_iff injective).mp linked, default⟩
  · rintro ⟨symbol, declared, linked, default⟩
    exact ⟨_, (renamed.declared _).mpr ⟨symbol, declared, rfl⟩, renamed.linked linked, default⟩

/-- Renaming keeps the types of the components and their conflicts. -/
theorem Renamed.hasType_iff
    (injective : Function.Injective rename) (key : VariableKey) (portType : PortType) :
    other.HasType (renameKey rename key) portType ↔ facts.HasType key portType := by
  rw [HasType, HasType, renamed.concrete injective, renamed.admitted injective,
    renamed.defaults injective]

theorem Renamed.conflicting_iff (injective : Function.Injective rename) (key : VariableKey) :
    other.Conflicting (renameKey rename key) ↔ facts.Conflicting key := by
  rw [Conflicting, Conflicting, renamed.concrete injective, renamed.admitted injective]

end Renaming

end TypeFacts

/-! ## Ports of renamed nodes -/

section Listed

variable {definition : NodeExecutionContract ρ} {connected others : List String}

theorem firstFree_perm {taken others : List Nat} (same : taken.Perm others) (fuel index : Nat) :
    firstFree taken fuel index = firstFree others fuel index := by
  induction fuel generalizing index with
  | zero => rfl
  | succ fuel ih =>
      rw [firstFree, firstFree, ih]
      simp only [same.mem_iff]

/-- The sockets that are listed do not depend on the order of the connected
ones. -/
theorem inputPorts_perm (same : connected.Perm others) :
    definition.inputPorts connected = definition.inputPorts others := by
  rw [NodeExecutionContract.inputPorts, NodeExecutionContract.inputPorts]
  cases definition.variadicInput with
  | none => rfl
  | some family =>
      dsimp only
      congr 2
      apply sortByKey_eq_of_perm
      · exact ((same.filterMap _).append_left _).dedup
      · exact fun _ _ _ _ same => same

theorem inputPortsWithNext_perm (same : connected.Perm others) :
    definition.inputPortsWithNext connected = definition.inputPortsWithNext others := by
  rw [NodeExecutionContract.inputPortsWithNext, NodeExecutionContract.inputPortsWithNext]
  cases definition.variadicInput with
  | none => rfl
  | some family =>
      dsimp only
      congr 2
      apply sortByKey_eq_of_perm
      · apply List.Perm.dedup
        have taken := same.filterMap family.index
        have indexes := taken.append_left (List.range' 1 family.minimumCount)
        have complete : (∀ index ∈ List.range' 1 family.minimumCount ++
              connected.filterMap family.index, index ∈ connected.filterMap family.index) ↔
            ∀ index ∈ List.range' 1 family.minimumCount ++ others.filterMap family.index,
              index ∈ others.filterMap family.index := by
          simp only [indexes.mem_iff, taken.mem_iff]
        by_cases all : ∀ index ∈ List.range' 1 family.minimumCount ++
            connected.filterMap family.index, index ∈ connected.filterMap family.index
        · rw [if_pos all, if_pos (complete.mp all), firstFree_perm taken, taken.length_eq]
          exact indexes.append_right _
        · rw [if_neg all, if_neg (mt complete.mpr all)]
          exact indexes
      · exact fun _ _ _ _ same => same

end Listed

/-! ## Renamed inputs -/

/-- A connection between the renamed nodes, under any identifier. -/
structure RenamedConnection (rename : UUID → UUID) (original connection : ConnectionModel) :
    Prop where
  sourceNode : connection.sourceNodeId = rename original.sourceNodeId
  sourcePort : connection.sourcePortId = original.sourcePortId
  destinationNode : connection.destinationNodeId = rename original.destinationNodeId
  destinationPort : connection.destinationPortId = original.destinationPortId

namespace TypeInput

/-- The same nodes and connections under other identifiers, in any order. -/
structure Renames (rename : UUID → UUID) (input other : TypeInput ρ) : Prop where
  injective : Function.Injective rename
  definitions : ∀ nodeId, other.definitions.get? (rename nodeId) = input.definitions.get? nodeId
  covered : ∀ nodeId ∈ other.definitions.keys, ∃ original, nodeId = rename original
  parameters : ∀ nodeId, other.parameters.get? (rename nodeId) = input.parameters.get? nodeId
  connections : ∀ original ∈ input.connections, ∃ connection ∈ other.connections,
    RenamedConnection rename original connection
  original : ∀ connection ∈ other.connections, ∃ original ∈ input.connections,
    RenamedConnection rename original connection

/-- Two inferences find the same: one raises where the other does, and else the
types of the ports and the ports in conflict agree up to the names. -/
structure SameOutcome (rename : UUID → UUID)
    (outcome other : Except PyError (Dict PortSide (Option PortType) × List ValidationIssue)) :
    Prop where
  raises : (∃ error, other = .error error) ↔ ∃ error, outcome = .error error
  types : ∀ types issues otherTypes otherIssues, outcome = .ok (types, issues) →
    other = .ok (otherTypes, otherIssues) → ∀ nodeId portId isOutput,
      otherTypes.get? (rename nodeId, portId, isOutput) = types.get? (nodeId, portId, isOutput)
  conflicts : ∀ types issues otherTypes otherIssues, outcome = .ok (types, issues) →
    other = .ok (otherTypes, otherIssues) → ∀ nodeId portId,
      (∃ issue ∈ otherIssues, issue.code = "generic_type_conflict" ∧
        issue.nodeId = some (rename nodeId) ∧ issue.portId = some portId) ↔
      ∃ issue ∈ issues, issue.code = "generic_type_conflict" ∧ issue.nodeId = some nodeId ∧
        issue.portId = some portId

section Renaming

variable {rename : UUID → UUID} {input other : TypeInput ρ}

theorem mem_connected {portId : String} {nodeId : UUID} :
    portId ∈ input.connected nodeId ↔ ∃ connection ∈ input.connections,
      connection.destinationNodeId = nodeId ∧ connection.destinationPortId = portId := by
  rw [connected, connectedInputs, List.mem_dedup, List.mem_map]
  simp only [List.mem_filter, decide_eq_true_eq, and_assoc]

variable (renames : input.Renames rename other)
include renames

/-- The same sockets of a node are connected. -/
theorem Renames.connected_perm (nodeId : UUID) :
    (other.connected (rename nodeId)).Perm (input.connected nodeId) := by
  apply (List.perm_ext_iff_of_nodup (List.nodup_dedup _) (List.nodup_dedup _)).mpr
  intro portId
  change portId ∈ other.connected (rename nodeId) ↔ portId ∈ input.connected nodeId
  rw [mem_connected, mem_connected]
  constructor
  · rintro ⟨connection, member, atNode, rfl⟩
    rcases renames.original connection member with ⟨original, isOriginal, named⟩
    refine ⟨original, isOriginal, ?_, named.destinationPort.symm⟩
    exact renames.injective (named.destinationNode.symm.trans atNode)
  · rintro ⟨original, member, rfl, rfl⟩
    rcases renames.connections original member with ⟨connection, isConnection, named⟩
    exact ⟨connection, isConnection, named.destinationNode, named.destinationPort⟩

theorem Renames.nodeParameters (nodeId : UUID) :
    other.nodeParameters (rename nodeId) = input.nodeParameters nodeId := by
  rw [TypeInput.nodeParameters, TypeInput.nodeParameters, renames.parameters]

/-- A renamed node has the same ports. -/
theorem Renames.hasPort_iff {nodeId : UUID}
    {portId : String} {isOutput : Bool} {expression : PortTypeExpression} :
    other.HasPort (rename nodeId, portId, isOutput) expression ↔
      input.HasPort (nodeId, portId, isOutput) expression := by
  rw [HasPort, HasPort]
  dsimp only
  rw [renames.definitions, renames.nodeParameters]
  cases isOutput with
  | true => rfl
  | false => simp only [PortOf, inputPortsWithNext_perm (renames.connected_perm nodeId)]

theorem Renames.nextOnly_iff {nodeId : UUID}
    {portId : String} {isOutput : Bool} :
    other.NextOnly (rename nodeId, portId, isOutput) ↔
      input.NextOnly (nodeId, portId, isOutput) := by
  rw [NextOnly, NextOnly]
  dsimp only
  simp only [renames.definitions, NextSocket, inputPorts_perm (renames.connected_perm nodeId),
    inputPortsWithNext_perm (renames.connected_perm nodeId)]

theorem Renames.exists_original {side : PortSide}
    {expression : PortTypeExpression} (isPort : other.HasPort side expression) :
    ∃ nodeId, side = (rename nodeId, side.2.1, side.2.2) ∧
      input.HasPort (nodeId, side.2.1, side.2.2) expression := by
  rcases side with ⟨renamedId, portId, isOutput⟩
  rcases isPort with ⟨definition, known, named⟩
  have member : renamedId ∈ other.definitions.keys := by
    rw [← Dict.get?_isSome, known]
    rfl
  rcases renames.covered renamedId member with ⟨nodeId, rfl⟩
  exact ⟨nodeId, rfl, renames.hasPort_iff.mp ⟨definition, known, named⟩⟩

/-! ### What renamed inputs say -/

omit renames in
theorem declaredVariable_rename (rename : UUID → UUID) (nodeId : UUID)
    (expression : PortTypeExpression) :
    declaredVariable (rename nodeId) expression =
      (declaredVariable nodeId expression).map (fun symbol =>
        ⟨renameKey rename symbol.key, symbol.allowedTypes, symbol.defaultType⟩) := by
  cases expression <;> rfl

omit renames in
theorem expressionVariable_rename (rename : UUID → UUID) (nodeId : UUID)
    (expression : PortTypeExpression) :
    expressionVariable (rename nodeId) expression =
      (expressionVariable nodeId expression).map (renameKey rename) := by
  cases expression <;> rfl

variable {source destination : PortTypeExpression} {original connection : ConnectionModel}

theorem Renames.joins_iff (named : RenamedConnection rename original connection)
    :
    other.Joins connection source destination ↔ input.Joins original source destination := by
  rw [Joins, Joins, named.sourceNode, named.sourcePort, named.destinationNode,
    named.destinationPort, renames.hasPort_iff, renames.hasPort_iff]

omit renames in
theorem linksVariables_rename (named : RenamedConnection rename original connection)
    {link : VariableKey × VariableKey} :
    LinksVariables connection source destination link ↔
      ∃ before, LinksVariables original source destination before ∧
        link = (renameKey rename before.1, renameKey rename before.2) := by
  rw [LinksVariables, named.sourceNode, named.destinationNode, expressionVariable_rename,
    expressionVariable_rename, Option.map_eq_some_iff, Option.map_eq_some_iff]
  constructor
  · rintro ⟨⟨left, isLeft, leftNamed⟩, right, isRight, rightNamed⟩
    exact ⟨(left, right), ⟨isLeft, isRight⟩, Prod.ext leftNamed.symm rightNamed.symm⟩
  · rintro ⟨before, ⟨isLeft, isRight⟩, rfl⟩
    exact ⟨⟨before.1, isLeft, rfl⟩, before.2, isRight, rfl⟩

omit renames in
theorem attachesType_rename (named : RenamedConnection rename original connection)
    {attachment : VariableKey × PortType} :
    AttachesType connection source destination attachment ↔
      ∃ before, AttachesType original source destination before ∧
        attachment = (renameKey rename before.1, before.2) := by
  rw [AttachesType, named.sourceNode, named.destinationNode, expressionVariable_rename,
    expressionVariable_rename, Option.map_eq_some_iff, Option.map_eq_some_iff]
  constructor
  · rintro (⟨⟨key, isKey, keyNamed⟩, attached⟩ | ⟨⟨key, isKey, keyNamed⟩, attached⟩)
    · exact ⟨(key, attachment.2), Or.inl ⟨isKey, attached⟩, Prod.ext keyNamed.symm rfl⟩
    · exact ⟨(key, attachment.2), Or.inr ⟨isKey, attached⟩, Prod.ext keyNamed.symm rfl⟩
  · rintro ⟨before, ⟨isKey, attached⟩ | ⟨isKey, attached⟩, rfl⟩
    · exact Or.inl ⟨⟨before.1, isKey, rfl⟩, attached⟩
    · exact Or.inr ⟨⟨before.1, isKey, rfl⟩, attached⟩

/-- Renamed inputs say renamed facts. -/
theorem Renames.facts {facts otherFacts : TypeFacts}
    (stated : input.Says facts) (otherStated : other.Says otherFacts) :
    facts.Renamed rename otherFacts := by
  refine ⟨?_, ?_, ?_⟩
  · intro symbol
    rw [otherStated.declared]
    constructor
    · rintro ⟨side, expression, isPort, isSymbol⟩
      rcases renames.exists_original isPort with ⟨nodeId, same, hasPort⟩
      rw [same, declaredVariable_rename, Option.map_eq_some_iff] at isSymbol
      rcases isSymbol with ⟨original, declared, rfl⟩
      exact ⟨original, (stated.declared original).mpr ⟨_, expression, hasPort, declared⟩, rfl⟩
    · rintro ⟨original, declared, rfl⟩
      rcases (stated.declared original).mp declared with
        ⟨⟨nodeId, portId, isOutput⟩, expression, hasPort, isSymbol⟩
      refine ⟨(rename nodeId, portId, isOutput), expression, renames.hasPort_iff.mpr hasPort, ?_⟩
      rw [declaredVariable_rename, isSymbol]
      rfl
  · intro link
    rw [otherStated.links]
    constructor
    · rintro ⟨connection, member, source, destination, joins, links⟩
      rcases renames.original connection member with ⟨original, isOriginal, named⟩
      rcases (linksVariables_rename named).mp links with ⟨before, linksBefore, rfl⟩
      exact ⟨before, (stated.links before).mpr ⟨original, isOriginal, source, destination,
        (renames.joins_iff named).mp joins, linksBefore⟩, rfl⟩
    · rintro ⟨before, isLink, rfl⟩
      rcases (stated.links before).mp isLink with
        ⟨original, isOriginal, source, destination, joins, linksBefore⟩
      rcases renames.connections original isOriginal with ⟨connection, member, named⟩
      exact ⟨connection, member, source, destination, (renames.joins_iff named).mpr joins,
        (linksVariables_rename named).mpr ⟨before, linksBefore, rfl⟩⟩
  · intro attachment
    rw [otherStated.attached]
    constructor
    · rintro ⟨connection, member, source, destination, joins, attaches⟩
      rcases renames.original connection member with ⟨original, isOriginal, named⟩
      rcases (attachesType_rename named).mp attaches with ⟨before, attachesBefore, rfl⟩
      exact ⟨before, (stated.attached before).mpr ⟨original, isOriginal, source, destination,
        (renames.joins_iff named).mp joins, attachesBefore⟩, rfl⟩
    · rintro ⟨before, isAttached, rfl⟩
      rcases (stated.attached before).mp isAttached with
        ⟨original, isOriginal, source, destination, joins, attachesBefore⟩
      rcases renames.connections original isOriginal with ⟨connection, member, named⟩
      exact ⟨connection, member, source, destination, (renames.joins_iff named).mpr joins,
        (attachesType_rename named).mpr ⟨before, attachesBefore, rfl⟩⟩

theorem settlesTo_rename {facts otherFacts : TypeFacts}
    (named : facts.Renamed rename otherFacts) (nodeId : UUID) (expression : PortTypeExpression)
    (portType : PortType) :
    SettlesTo otherFacts (rename nodeId) expression portType ↔
      SettlesTo facts nodeId expression portType := by
  cases expression with
  | port declared => rfl
  | typeVariable name allowed default =>
      exact named.hasType_iff renames.injective (variableKey nodeId name) portType
  | arrayTypeVariable name allowed =>
      apply exists_congr
      intro element
      apply and_congr_left'
      exact named.hasType_iff renames.injective (variableKey nodeId name) element

theorem lacksArrayType_rename
    {facts otherFacts : TypeFacts} (named : facts.Renamed rename otherFacts) (nodeId : UUID)
    (expression : PortTypeExpression) (error : PyError) :
    LacksArrayType otherFacts (rename nodeId) expression error ↔
      LacksArrayType facts nodeId expression error := by
  rw [LacksArrayType, LacksArrayType]
  simp only [← renameKey_variableKey, named.hasType_iff renames.injective]

theorem inConflict_rename {facts otherFacts : TypeFacts}
    (named : facts.Renamed rename otherFacts) (nodeId : UUID) (expression : PortTypeExpression) :
    InConflict otherFacts (rename nodeId) expression ↔ InConflict facts nodeId expression := by
  rw [InConflict, InConflict, expressionVariable_rename]
  constructor
  · rintro ⟨_, isKey, conflict⟩
    rcases Option.map_eq_some_iff.mp isKey with ⟨key, isVariable, rfl⟩
    exact ⟨key, isVariable, (named.conflicting_iff renames.injective key).mp conflict⟩
  · rintro ⟨key, isVariable, conflict⟩
    refine ⟨renameKey rename key, ?_, (named.conflicting_iff renames.injective key).mpr conflict⟩
    rw [isVariable]
    rfl

/-! ### The outcomes -/

omit renames in
theorem Describes.raises_iff {facts : TypeFacts} (describes : input.Describes facts input.run) :
    (∃ error, input.run = .error error) ↔ ∃ side expression error,
      input.HasPort side expression ∧ LacksArrayType facts side.1 expression error := by
  constructor
  · rintro ⟨error, raised⟩
    rcases describes.raises error raised with ⟨side, expression, isPort, lacks⟩
    exact ⟨side, expression, error, isPort, lacks⟩
  · rintro ⟨side, expression, error, isPort, lacks⟩
    cases outcome : input.run with
    | error raised => exact ⟨raised, rfl⟩
    | ok returned =>
        exact absurd lacks (describes.returns returned.1 returned.2 outcome side expression error
          isPort)

omit renames in
/-- A port is listed, and it is settled, as it is elsewhere: it has the same
entry. -/
theorem entry_ext {left right : Option (Option PortType)}
    (listed : left.isSome = true ↔ right.isSome = true)
    (settled : ∀ portType, left = some (some portType) ↔ right = some (some portType)) :
    left = right := by
  cases left with
  | none =>
      cases right with
      | none => rfl
      | some entry => simp at listed
  | some entry =>
      cases entry with
      | some portType => exact ((settled portType).mp rfl).symm
      | none =>
          cases right with
          | none => simp at listed
          | some other =>
              cases other with
              | none => rfl
              | some portType => cases (settled portType).mpr rfl

/-- Renaming and reordering keeps the outcome. -/
theorem Renames.sameOutcome :
    SameOutcome rename input.run other.run := by
  rcases exists_describes input with ⟨facts, stated, describes⟩
  rcases exists_describes other with ⟨otherFacts, otherStated, otherDescribes⟩
  have named := renames.facts stated otherStated
  refine ⟨?_, ?_, ?_⟩
  · rw [otherDescribes.raises_iff, describes.raises_iff]
    constructor
    · rintro ⟨side, expression, error, isPort, lacks⟩
      rcases renames.exists_original isPort with ⟨nodeId, same, hasPort⟩
      rw [same] at lacks
      exact ⟨_, expression, error, hasPort,
        (lacksArrayType_rename renames named nodeId expression error).mp lacks⟩
    · rintro ⟨⟨nodeId, portId, isOutput⟩, expression, error, hasPort, lacks⟩
      exact ⟨_, expression, error, renames.hasPort_iff.mpr hasPort,
        (lacksArrayType_rename renames named nodeId expression error).mpr lacks⟩
  · intro types issues otherTypes otherIssues ran otherRan nodeId portId isOutput
    apply entry_ext
    · rw [otherDescribes.ports _ _ otherRan, describes.ports _ _ ran]
      simp only [renames.hasPort_iff]
    · intro portType
      rw [otherDescribes.settled _ _ otherRan, describes.settled _ _ ran]
      simp only [renames.hasPort_iff, settlesTo_rename renames named]
  · intro types issues otherTypes otherIssues ran otherRan nodeId portId
    rw [otherDescribes.conflicts _ _ otherRan, describes.conflicts _ _ ran]
    simp only [renames.hasPort_iff, renames.nextOnly_iff, inConflict_rename renames named]

omit renames

theorem renames_id (input : TypeInput ρ) : input.Renames id input :=
  ⟨Function.injective_id, fun _ => rfl, fun nodeId _ => ⟨nodeId, rfl⟩, fun _ => rfl,
    fun original member => ⟨original, member, rfl, rfl, rfl, rfl⟩,
    fun connection member => ⟨connection, member, rfl, rfl, rfl, rfl⟩⟩

/-- All facts that say what the input says describe the outcome. -/
theorem describes_run {facts : TypeFacts} (stated : input.Says facts) :
    input.Describes facts input.run := by
  rcases exists_describes input with ⟨others, otherStated, describes⟩
  have named := (renames_id input).facts stated otherStated
  have settles := settlesTo_rename (renames_id input) named
  have lacks := lacksArrayType_rename (renames_id input) named
  have conflicts := inConflict_rename (renames_id input) named
  refine ⟨?_, ?_, describes.ports, ?_, ?_⟩
  · intro error raised
    rcases describes.raises error raised with ⟨side, expression, isPort, isLacking⟩
    exact ⟨side, expression, isPort, (lacks side.1 expression error).mp isLacking⟩
  · intro types issues ran side expression error isPort isLacking
    exact describes.returns types issues ran side expression error isPort
      ((lacks side.1 expression error).mpr isLacking)
  · intro types issues ran side portType
    rw [describes.settled types issues ran]
    exact exists_congr fun expression => and_congr_right fun _ =>
      settles side.1 expression portType
  · intro types issues ran nodeId portId
    rw [describes.conflicts types issues ran]
    exact exists_congr fun isOutput => exists_congr fun expression => and_congr_right fun _ =>
      and_congr_right fun _ => conflicts nodeId expression

end Renaming

end TypeInput

/-! ## The inference of a snapshot -/

/-- What `_analyze` gives to `_resolve_types`. -/
def typeInput (registry : NodeRegistry ρ) (snapshot : GraphSnapshot) : TypeInput ρ where
  connections := validConnections registry snapshot
  definitions := (resolvedNodes registry snapshot).definitions
  parameters := (resolvedNodes registry snapshot).parameters
  constructed := by
    intro nodeId definition known
    rw [get?_definitions] at known
    rcases Option.bind_eq_some_iff.mp known with ⟨node, _, isType⟩
    exact NodeRegistry.get?_constructed isType
  joined := fun connection member =>
    (checkConnection_isOk.mp (mem_validConnections.mp member).2).2

/-- The types of a snapshot's ports are those of the components of its type
variables, or `_array_type` raises; names and orders do not matter. -/
theorem resolveTypes_declarative (registry : NodeRegistry ρ) (snapshot : GraphSnapshot) :
    (∃ facts, (typeInput registry snapshot).Says facts) ∧
    (∀ facts, (typeInput registry snapshot).Says facts →
      (typeInput registry snapshot).Describes facts
        (resolveTypes (validConnections registry snapshot)
          (resolvedNodes registry snapshot).definitions
          (resolvedNodes registry snapshot).parameters)) ∧
    ∀ (rename : UUID → UUID) (other : TypeInput ρ),
      (typeInput registry snapshot).Renames rename other →
        TypeInput.SameOutcome rename (typeInput registry snapshot).run other.run := by
  refine ⟨?_, ?_, ?_⟩
  · rcases TypeInput.exists_describes (typeInput registry snapshot) with ⟨facts, stated, _⟩
    exact ⟨facts, stated⟩
  · exact fun facts stated => TypeInput.describes_run stated
  · exact fun rename other renames => renames.sameOutcome

/-! ### An array of flags -/

/-- A source of flags. -/
def flagNode : NodeExecutionContract Unit where
  typeId := "flag"
  implementationVersion := 1
  executionKind := .source
  inputs := []
  outputs := [⟨"state", .port .bool⟩]
  parameters := []
  runtimeFactory := fun _ => .ok ()
  variadicInput := none
  cachePolicy := .auto
  handlesNoData := false
  parameterValidator := none
  sourceOutputs := none

/-- A sink of arrays of any element type. -/
def stackNode : NodeExecutionContract Unit where
  typeId := "stack"
  implementationVersion := 1
  executionKind := .sink
  inputs := [⟨"items", .arrayTypeVariable "T" [], true⟩]
  outputs := []
  parameters := []
  runtimeFactory := fun _ => .ok ()
  variadicInput := none
  cachePolicy := .auto
  handlesNoData := false
  parameterValidator := none
  sourceOutputs := none

theorem flagNode_constructed : flagNode.Constructed where
  inputs_unique := List.nodup_nil
  outputs_unique := by decide
  parameters_unique := List.nodup_nil
  separate := fun _ _ _ member => absurd member List.not_mem_nil
  input_fixed := fun _ member => absurd member (Option.not_mem_none _)
  parameter_fixed := fun _ member => absurd member (Option.not_mem_none _)
  socket_typed := fun _ member => absurd member List.not_mem_nil

theorem stackNode_constructed : stackNode.Constructed where
  inputs_unique := by decide
  outputs_unique := List.nodup_nil
  parameters_unique := List.nodup_nil
  separate := fun _ _ _ member => absurd member List.not_mem_nil
  input_fixed := fun _ member => absurd member (Option.not_mem_none _)
  parameter_fixed := fun _ member => absurd member (Option.not_mem_none _)
  socket_typed := fun _ member => absurd member List.not_mem_nil

def flagDefinitions : Dict String (NodeExecutionContract Unit) :=
  (Dict.empty.insert "flag" flagNode).insert "stack" stackNode

theorem flagDefinitions_entries :
    flagDefinitions.entries = [("flag", flagNode), ("stack", stackNode)] := by
  rw [flagDefinitions]
  rfl

theorem flagDefinitions_keyed : Dict.Keyed NodeExecutionContract.typeId flagDefinitions := by
  intro entry member
  rw [flagDefinitions_entries, List.mem_cons, List.mem_singleton] at member
  rcases member with rfl | rfl
  · rfl
  · rfl

theorem flagDefinitions_constructed :
    ∀ entry ∈ flagDefinitions.entries, entry.2.Constructed := by
  intro entry member
  rw [flagDefinitions_entries, List.mem_cons, List.mem_singleton] at member
  rcases member with rfl | rfl
  · exact flagNode_constructed
  · exact stackNode_constructed

def flagRegistry : NodeRegistry Unit where
  definitions := flagDefinitions
  keyed := flagDefinitions_keyed
  constructed := flagDefinitions_constructed

/-- A flag feeds a stack. -/
def stackedFlags : GraphSnapshot where
  documentId := 0
  revision := 0
  nodes := [⟨1, "flag", 1, Dict.empty⟩, ⟨2, "stack", 1, Dict.empty⟩]
  connections := [⟨11, 1, "state", 2, "items"⟩]

/-- No type is assigned to the output of the flag: the inference raises. -/
theorem flags_not_assigned :
    ¬ ∀ (ρ : Type) (registry : NodeRegistry ρ) (snapshot : GraphSnapshot) (side : PortSide)
      (expression : PortTypeExpression),
      (typeInput registry snapshot).HasPort side expression →
        ∃ types issues, (typeInput registry snapshot).run = .ok (types, issues) ∧
          (types.get? side).isSome = true := by
  intro claimed
  have known : (typeInput flagRegistry stackedFlags).definitions.get? 1 = some flagNode := rfl
  have isPort : (typeInput flagRegistry stackedFlags).HasPort (1, "state", true) (.port .bool) :=
    ⟨flagNode, known, ⟨"state", .port .bool⟩, List.mem_singleton.mpr rfl, rfl, rfl⟩
  rcases claimed Unit flagRegistry stackedFlags _ _ isPort with ⟨types, issues, ran, _⟩
  have raised : (typeInput flagRegistry stackedFlags).run.isOk = false := by decide +kernel
  rw [ran] at raised
  cases raised

end Graph
end Synesthesia
