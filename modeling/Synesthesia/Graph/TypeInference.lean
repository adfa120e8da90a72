import Synesthesia.Graph.PortDeclarations

namespace Synesthesia
namespace Graph

open Foundation Contracts Nodes

/-!
# Type inference

`GraphCompiler._resolve_types` gives every port of a known node the type of the
component of its type variable.  The meaning is stated by the ports that the
nodes have and the connections between them, without the order in which the
compiler visits them.
-/

variable {ρ : Type}

/-! ## What the ports and connections say -/

/-- The variable that a port declares. -/
def declaredVariable (nodeId : UUID) : PortTypeExpression → Option DeclaredVariable
  | .port _ => none
  | .typeVariable name allowedTypes defaultType =>
      some ⟨variableKey nodeId name, allowedTypes.toFinset, defaultType⟩
  | .arrayTypeVariable name allowedTypes =>
      some ⟨variableKey nodeId name, allowedTypes.toFinset, none⟩

/-- A connection between two type variables. -/
def LinksVariables (connection : ConnectionModel) (source destination : PortTypeExpression)
    (link : VariableKey × VariableKey) : Prop :=
  expressionVariable connection.sourceNodeId source = some link.1 ∧
    expressionVariable connection.destinationNodeId destination = some link.2

/-- A connection between a type variable and a concrete type. -/
def AttachesType (connection : ConnectionModel) (source destination : PortTypeExpression)
    (attachment : VariableKey × PortType) : Prop :=
  (expressionVariable connection.sourceNodeId source = some attachment.1 ∧
    ∃ portType, destination = .port portType ∧ attachment.2 = baseType portType source) ∨
  (expressionVariable connection.destinationNodeId destination = some attachment.1 ∧
    ∃ portType, source = .port portType ∧ attachment.2 = baseType portType destination)

/-- The declared types that are looked up for the ends of a connection. -/
structure EndsAt (expressions : Dict PortSide PortTypeExpression) (connection : ConnectionModel)
    (source destination : PortTypeExpression) : Prop where
  source : expressions.get? (connection.sourceNodeId, connection.sourcePortId, true) = some source
  destination : expressions.get?
    (connection.destinationNodeId, connection.destinationPortId, false) = some destination

/-- Facts that follow others by what some connections say. -/
structure Relates (expressions : Dict PortSide PortTypeExpression)
    (connections : List ConnectionModel) (before after : TypeFacts) : Prop where
  declared : after.declared = before.declared
  links : ∀ link, link ∈ after.links ↔ link ∈ before.links ∨
    ∃ connection ∈ connections, ∃ source destination,
      EndsAt expressions connection source destination ∧
        LinksVariables connection source destination link
  attached : ∀ attachment, attachment ∈ after.attached ↔ attachment ∈ before.attached ∨
    ∃ connection ∈ connections, ∃ source destination,
      EndsAt expressions connection source destination ∧
        AttachesType connection source destination attachment

section Relating

variable {expressions : Dict PortSide PortTypeExpression} {connection : ConnectionModel}
  {source destination : PortTypeExpression}

theorem EndsAt.unique {otherSource otherDestination : PortTypeExpression}
    (first : EndsAt expressions connection source destination)
    (second : EndsAt expressions connection otherSource otherDestination) :
    otherSource = source ∧ otherDestination = destination :=
  ⟨Option.some.inj (second.source.symm.trans first.source),
    Option.some.inj (second.destination.symm.trans first.destination)⟩

theorem EndsAt.exists_iff (ends : EndsAt expressions connection source destination)
    {stated : PortTypeExpression → PortTypeExpression → Prop} :
    (∃ source destination, EndsAt expressions connection source destination ∧
      stated source destination) ↔ stated source destination := by
  constructor
  · rintro ⟨_, _, others, isStated⟩
    rcases ends.unique others with ⟨rfl, rfl⟩
    exact isStated
  · exact fun isStated => ⟨source, destination, ends, isStated⟩

/-- What one connection adds, and then the others. -/
theorem Relates.step {connections : List ConnectionModel}
    (ends : EndsAt expressions connection source destination) {before middle after : TypeFacts}
    (declared : middle.declared = before.declared)
    (links : ∀ link, link ∈ middle.links ↔
      link ∈ before.links ∨ LinksVariables connection source destination link)
    (attached : ∀ attachment, attachment ∈ middle.attached ↔
      attachment ∈ before.attached ∨ AttachesType connection source destination attachment)
    (rest : Relates expressions connections middle after) :
    Relates expressions (connection :: connections) before after := by
  refine ⟨rest.declared.trans declared, ?_, ?_⟩
  · intro link
    rw [rest.links, links, List.exists_mem_cons_iff, ends.exists_iff, or_assoc]
  · intro attachment
    rw [rest.attached, attached, List.exists_mem_cons_iff, ends.exists_iff, or_assoc]

theorem not_linksVariables_of_port {link : VariableKey × VariableKey}
    (concrete : (∃ portType, source = .port portType) ∨ ∃ portType, destination = .port portType) :
    ¬ LinksVariables connection source destination link := by
  rintro ⟨first, second⟩
  rcases concrete with ⟨portType, rfl⟩ | ⟨portType, rfl⟩
  · cases first
  · cases second

theorem expressionVariable_port (nodeId : UUID) (portType : PortType) :
    expressionVariable nodeId (.port portType) = none := rfl

/-- A type expression is concrete or names a variable. -/
theorem port_or_variable (nodeId : UUID) (expression : PortTypeExpression) :
    (∃ portType, expression = .port portType) ∨
      ∃ key, expressionVariable nodeId expression = some key := by
  cases expression with
  | port portType => exact Or.inl ⟨portType, rfl⟩
  | typeVariable name allowed default => exact Or.inr ⟨_, rfl⟩
  | arrayTypeVariable name allowed => exact Or.inr ⟨_, rfl⟩

/-- `relate` keeps the groups in step with what a connection says. -/
theorem relate_tracks {groups : TypeGroups} {facts : TypeFacts} {root : VariableKey → VariableKey}
    (tracks : Tracks groups facts root)
    (ends : EndsAt expressions connection source destination)
    (sourceKnown : ∀ key, expressionVariable connection.sourceNodeId source = some key →
      key ∈ groups.parent.keys)
    (destinationKnown : ∀ key,
      expressionVariable connection.destinationNodeId destination = some key →
        key ∈ groups.parent.keys) :
    ∃ next middle joined, relate expressions groups connection = .ok next ∧
      next.parent.keys = groups.parent.keys ∧ Tracks next middle joined ∧
      middle.declared = facts.declared ∧
      (∀ link, link ∈ middle.links ↔
        link ∈ facts.links ∨ LinksVariables connection source destination link) ∧
      ∀ attachment, attachment ∈ middle.attached ↔
        attachment ∈ facts.attached ∨ AttachesType connection source destination attachment := by
  have found : expressionAt expressions
      (connection.sourceNodeId, connection.sourcePortId, true) = .ok source := by
    rw [expressionAt, ends.source]
  have alsoFound : expressionAt expressions
      (connection.destinationNodeId, connection.destinationPortId, false) = .ok destination := by
    rw [expressionAt, ends.destination]
  rw [relate, found, alsoFound]
  rcases port_or_variable connection.sourceNodeId source with ⟨sourceType, rfl⟩ |
    ⟨sourceKey, isSource⟩
  · rcases port_or_variable connection.destinationNodeId destination with
      ⟨destinationType, rfl⟩ | ⟨key, isDestination⟩
    · refine ⟨groups, facts, root, rfl, rfl, tracks, rfl, ?_, ?_⟩
      · intro link
        rw [or_iff_left (not_linksVariables_of_port (Or.inl ⟨_, rfl⟩))]
      · intro attachment
        rw [or_iff_left]
        rintro (⟨impossible, _⟩ | ⟨impossible, _⟩) <;> cases impossible
    · rcases tracks.constrain (destinationKnown key isDestination)
        (baseType sourceType destination) with ⟨next, ran, sameKeys, tracksNext⟩
      refine ⟨next, _, root, ?_, sameKeys, tracksNext, rfl, ?_, ?_⟩
      · cases destination with
        | port portType => cases isDestination
        | typeVariable name allowed default =>
            cases isDestination
            exact ran
        | arrayTypeVariable name allowed =>
            cases isDestination
            exact ran
      · intro link
        rw [or_iff_left (not_linksVariables_of_port (Or.inl ⟨_, rfl⟩))]
        rfl
      · rintro ⟨other, portType⟩
        simp [TypeFacts.attach, AttachesType, isDestination, expressionVariable_port, eq_comm]
  · rcases port_or_variable connection.destinationNodeId destination with
      ⟨destinationType, rfl⟩ | ⟨key, isDestination⟩
    · rcases tracks.constrain (sourceKnown sourceKey isSource)
        (baseType destinationType source) with ⟨next, ran, sameKeys, tracksNext⟩
      refine ⟨next, _, root, ?_, sameKeys, tracksNext, rfl, ?_, ?_⟩
      · cases source with
        | port portType => cases isSource
        | typeVariable name allowed default =>
            cases isSource
            exact ran
        | arrayTypeVariable name allowed =>
            cases isSource
            exact ran
      · intro link
        rw [or_iff_left (not_linksVariables_of_port (Or.inr ⟨_, rfl⟩))]
        rfl
      · rintro ⟨other, portType⟩
        simp [TypeFacts.attach, AttachesType, isSource, expressionVariable_port, eq_comm]
    · rcases tracks.union (sourceKnown sourceKey isSource) (destinationKnown key isDestination) with
        ⟨next, joined, ran, sameKeys, tracksNext⟩
      refine ⟨next, _, joined, ?_, sameKeys, tracksNext, rfl, ?_, ?_⟩
      · simp only [bind, Except.bind, isSource, isDestination]
        exact ran
      · rintro ⟨left, right⟩
        simp [TypeFacts.link, LinksVariables, isSource, isDestination, eq_comm]
      · intro attachment
        rw [or_iff_left]
        · rfl
        · rintro (⟨_, portType, rfl, _⟩ | ⟨_, portType, rfl, _⟩)
          · cases isDestination
          · cases isSource

/-- The run of `relate` over connections whose ends are known. -/
theorem relate_run {connections : List ConnectionModel} {groups : TypeGroups} {facts : TypeFacts}
    {root : VariableKey → VariableKey} (tracks : Tracks groups facts root)
    (known : ∀ connection ∈ connections, ∃ source destination,
      EndsAt expressions connection source destination ∧
        (∀ key, expressionVariable connection.sourceNodeId source = some key →
          key ∈ groups.parent.keys) ∧
        ∀ key, expressionVariable connection.destinationNodeId destination = some key →
          key ∈ groups.parent.keys) :
    ∃ next after joined, connections.foldlM (relate expressions) groups = .ok next ∧
      next.parent.keys = groups.parent.keys ∧ Tracks next after joined ∧
      Relates expressions connections facts after := by
  induction connections generalizing groups facts root with
  | nil => exact ⟨groups, facts, root, rfl, rfl, tracks, rfl, by simp, by simp⟩
  | cons connection rest ih =>
      rcases known connection List.mem_cons_self with
        ⟨source, destination, ends, sourceKnown, destinationKnown⟩
      rcases relate_tracks tracks ends sourceKnown destinationKnown with
        ⟨middle, between, joined, ran, sameKeys, middleTracks, declared, links, attached⟩
      have restKnown : ∀ other ∈ rest, ∃ source destination,
          EndsAt expressions other source destination ∧
            (∀ key, expressionVariable other.sourceNodeId source = some key →
              key ∈ middle.parent.keys) ∧
            ∀ key, expressionVariable other.destinationNodeId destination = some key →
              key ∈ middle.parent.keys := by
        rw [sameKeys]
        exact fun other member => known other (List.mem_cons_of_mem _ member)
      rcases ih middleTracks restKnown with
        ⟨next, after, last, restRan, restKeys, nextTracks, relates⟩
      refine ⟨next, after, last, ?_, restKeys.trans sameKeys, nextTracks,
        relates.step ends declared links attached⟩
      rw [List.foldlM_cons]
      exact bind_eq_ok.mpr ⟨middle, ran, restRan⟩

end Relating

/-! ### The declarations -/

theorem declareVariable_declares {groups : TypeGroups} {facts : TypeFacts}
    (declares : Declares groups facts) (declaration : PortDeclaration) :
    ∃ after, Declares (declareVariable groups declaration) after ∧
      ∀ symbol, symbol ∈ after.declared ↔ symbol ∈ facts.declared ∨
        declaredVariable declaration.side.1 declaration.expression = some symbol := by
  rw [declareVariable]
  cases declaration.expression with
  | port portType => exact ⟨facts, declares, by simp [declaredVariable]⟩
  | typeVariable name allowed default =>
      refine ⟨_, declares.add ⟨variableKey declaration.side.1 name, allowed.toFinset, default⟩, ?_⟩
      simp [TypeFacts.declare, declaredVariable, eq_comm]
  | arrayTypeVariable name allowed =>
      refine ⟨_, declares.add ⟨variableKey declaration.side.1 name, allowed.toFinset, none⟩, ?_⟩
      simp [TypeFacts.declare, declaredVariable, eq_comm]

theorem declare_run {groups : TypeGroups} {facts : TypeFacts} (declares : Declares groups facts)
    (declarations : List PortDeclaration) :
    ∃ after, Declares (declarations.foldl declareVariable groups) after ∧
      ∀ symbol, symbol ∈ after.declared ↔ symbol ∈ facts.declared ∨
        ∃ declaration ∈ declarations,
          declaredVariable declaration.side.1 declaration.expression = some symbol := by
  induction declarations generalizing groups facts with
  | nil => exact ⟨facts, declares, by simp⟩
  | cons declaration rest ih =>
      rcases declareVariable_declares declares declaration with ⟨middle, declared, added⟩
      rcases ih declared with ⟨after, declaredAll, addedRest⟩
      refine ⟨after, declaredAll, ?_⟩
      intro symbol
      rw [addedRest, added, List.exists_mem_cons_iff, or_assoc]

/-! ## The types of the ports -/

/-- The type that the facts give a port. -/
def SettlesTo (facts : TypeFacts) (nodeId : UUID) (expression : PortTypeExpression)
    (portType : PortType) : Prop :=
  match expression with
  | .port declared => portType = declared
  | .typeVariable name _ _ => facts.HasType (variableKey nodeId name) portType
  | .arrayTypeVariable name _ =>
      ∃ element, facts.HasType (variableKey nodeId name) element ∧
        arrayType element = .ok portType

/-- The element type of an array port has no array type: `_array_type` raises. -/
def LacksArrayType (facts : TypeFacts) (nodeId : UUID) (expression : PortTypeExpression)
    (error : PyError) : Prop :=
  ∃ name allowed element, expression = .arrayTypeVariable name allowed ∧
    facts.HasType (variableKey nodeId name) element ∧ arrayType element = .error error

/-- The variable of a port is in conflict. -/
def InConflict (facts : TypeFacts) (nodeId : UUID) (expression : PortTypeExpression) : Prop :=
  ∃ key, expressionVariable nodeId expression = some key ∧ facts.Conflicting key

/-- A component with a type has no conflict. -/
theorem TypeFacts.HasType.not_conflicting {facts : TypeFacts} {key : VariableKey}
    {portType : PortType} (settled : facts.HasType key portType) : ¬ facts.Conflicting key := by
  rintro (refused | ⟨first, isFirst, second, isSecond, different, notNumeric⟩)
  · rcases settled with ⟨_, admitted⟩ | ⟨_, admitted, _⟩ | ⟨empty, _, _⟩
    · exact refused admitted
    · exact refused admitted
    · exact refused (empty ▸ Set.empty_subset _)
  · rcases settled with ⟨only, _⟩ | ⟨both, _, _⟩ | ⟨empty, _, _⟩
    · rw [only] at isFirst isSecond
      exact different (isFirst.trans isSecond.symm)
    · rw [both] at isFirst
      exact notNumeric isFirst
    · rw [empty] at isFirst
      exact isFirst

/-- What is resolved for one port by what the facts say. -/
structure PortOutcome (facts : TypeFacts) (isNext : Bool) (side : PortSide)
    (expression : PortTypeExpression) (resolved : Option PortType)
    (issues : List ValidationIssue) : Prop where
  settles : ∀ portType, resolved = some portType ↔ SettlesTo facts side.1 expression portType
  fits : ∀ error, ¬ LacksArrayType facts side.1 expression error
  conflict : (∃ issue ∈ issues, issue.code = "generic_type_conflict") ↔
    isNext = false ∧ InConflict facts side.1 expression
  located : ∀ issue ∈ issues, issue.nodeId = some side.1 ∧ issue.portId = some side.2.1

section Resolving

variable {groups : TypeGroups} {facts : TypeFacts} {root : VariableKey → VariableKey}
  {isNext : Bool} {side : PortSide} {name : String} {shape : PortType → Except PyError PortType}

/-- What is resolved for a port of a variable whose types `shape` turns into
types of the port. -/
structure VariableOutcome (facts : TypeFacts) (isNext : Bool) (side : PortSide) (name : String)
    (shape : PortType → Except PyError PortType) (resolved : Option PortType)
    (issues : List ValidationIssue) : Prop where
  settles : ∀ portType, resolved = some portType ↔
    ∃ element, facts.HasType (variableKey side.1 name) element ∧ shape element = .ok portType
  fits : ∀ element error, facts.HasType (variableKey side.1 name) element →
    shape element ≠ .error error
  conflict : (∃ issue ∈ issues, issue.code = "generic_type_conflict") ↔
    isNext = false ∧ facts.Conflicting (variableKey side.1 name)
  located : ∀ issue ∈ issues, issue.nodeId = some side.1 ∧ issue.portId = some side.2.1

theorem exists_mem_unless {issue : ValidationIssue} {condition : ValidationIssue → Prop} :
    (∃ other ∈ (if isNext then [] else [issue]), condition other) ↔
      isNext = false ∧ condition issue := by
  cases isNext with
  | true => simp
  | false => simp

theorem located_unless {issue : ValidationIssue} (node : issue.nodeId = some side.1)
    (port : issue.portId = some side.2.1) :
    ∀ other ∈ (if isNext then [] else [issue]),
      other.nodeId = some side.1 ∧ other.portId = some side.2.1 := by
  intro other member
  cases isNext with
  | true => cases member
  | false =>
      rw [List.mem_singleton.mp member]
      exact ⟨node, port⟩

section Equations

variable {incompatible : Finset PortType} {searched again : TypeGroups}
  (first : groups.incompatibleCandidates (variableKey side.1 name) =
    .ok (incompatible, searched))
include first

theorem resolveVariable_conflict {valueType : Option PortType}
    (second : searched.resolve (variableKey side.1 name) = .ok (valueType, again))
    (clash : incompatible ≠ ∅) :
    resolveVariable groups isNext side name shape =
      .ok (none, if isNext then [] else [genericTypeConflict side name incompatible], again) := by
  rw [resolveVariable, first]
  change (searched.resolve (variableKey side.1 name) >>= _) = _
  rw [second]
  exact if_pos clash

theorem resolveVariable_unresolved
    (second : searched.resolve (variableKey side.1 name) = .ok (none, again))
    (fits : incompatible = ∅) :
    resolveVariable groups isNext side name shape =
      .ok (none, if isNext then [] else [unresolvedGenericType side name], again) := by
  rw [resolveVariable, first]
  change (searched.resolve (variableKey side.1 name) >>= _) = _
  rw [second]
  exact if_neg (not_not.mpr fits)

theorem resolveVariable_settled {valueType : PortType}
    (second : searched.resolve (variableKey side.1 name) = .ok (some valueType, again))
    (fits : incompatible = ∅) :
    resolveVariable groups isNext side name shape =
      shape valueType >>= fun shaped => .ok (some shaped, [], again) := by
  rw [resolveVariable, first]
  change (searched.resolve (variableKey side.1 name) >>= _) = _
  rw [second]
  exact if_neg (not_not.mpr fits)

end Equations

/-- A variable is resolved to the type of its component, or `shape` raises. -/
theorem resolveVariable_tracks (isNext : Bool) (shape : PortType → Except PyError PortType)
    (tracks : Tracks groups facts root)
    (known : variableKey side.1 name ∈ groups.parent.keys) :
    (∃ element error, facts.HasType (variableKey side.1 name) element ∧
      shape element = .error error ∧
      resolveVariable groups isNext side name shape = .error error) ∨
    ∃ resolved issues next, resolveVariable groups isNext side name shape =
        .ok (resolved, issues, next) ∧ next.parent.keys = groups.parent.keys ∧
      Tracks next facts root ∧ VariableOutcome facts isNext side name shape resolved issues := by
  rcases tracks.incompatibleCandidates known with
    ⟨incompatible, searched, first, sameKeys, searchedTracks, conflicting⟩
  rcases searchedTracks.resolve (sameKeys ▸ known) with
    ⟨valueType, again, second, againKeys, againTracks, typed⟩
  have keys := againKeys.trans sameKeys
  by_cases clash : incompatible ≠ ∅
  · have untyped : ∀ element, ¬ facts.HasType (variableKey side.1 name) element :=
      fun element settled => settled.not_conflicting (conflicting.mp clash)
    refine Or.inr ⟨_, _, again, resolveVariable_conflict first second clash, keys, againTracks,
      ?_, ?_, ?_, ?_⟩
    · intro portType
      refine iff_of_false (by simp) ?_
      rintro ⟨element, settled, _⟩
      exact untyped element settled
    · exact fun element error settled => absurd settled (untyped element)
    · rw [exists_mem_unless]
      simp [genericTypeConflict, conflicting.mp clash]
    · exact located_unless rfl rfl
  · have calm : ¬ facts.Conflicting (variableKey side.1 name) :=
      fun conflict => clash (conflicting.mpr conflict)
    rw [not_not] at clash
    cases valueType with
    | none =>
        have untyped : ∀ element, ¬ facts.HasType (variableKey side.1 name) element := by
          intro element settled
          cases (typed element).mpr settled
        refine Or.inr ⟨_, _, again, resolveVariable_unresolved first second clash, keys,
          againTracks, ?_, ?_, ?_, ?_⟩
        · intro portType
          refine iff_of_false (by simp) ?_
          rintro ⟨element, settled, _⟩
          exact untyped element settled
        · exact fun element error settled => absurd settled (untyped element)
        · rw [exists_mem_unless]
          simp [unresolvedGenericType, calm]
        · exact located_unless rfl rfl
    | some valueType =>
        have settled := (typed valueType).mp rfl
        have only : ∀ element, facts.HasType (variableKey side.1 name) element →
            element = valueType :=
          fun element other => (Option.some.inj ((typed element).mpr other)).symm
        cases shaped : shape valueType with
        | error error =>
            refine Or.inl ⟨valueType, error, settled, shaped, ?_⟩
            rw [resolveVariable_settled first second clash, shaped]
            rfl
        | ok portType =>
            refine Or.inr ⟨some portType, [], again, ?_, keys, againTracks, ?_, ?_, ?_,
              List.forall_mem_nil _⟩
            · rw [resolveVariable_settled first second clash, shaped]
              rfl
            · intro other
              constructor
              · intro same
                cases same
                exact ⟨valueType, settled, shaped⟩
              · rintro ⟨element, isType, alsoShaped⟩
                rw [only element isType, shaped] at alsoShaped
                rw [Except.ok.inj alsoShaped]
            · intro element error isType raised
              rw [only element isType, shaped] at raised
              cases raised
            · simp [calm]

/-- A port is resolved as the facts say, or `_array_type` raises. -/
theorem resolvePort_tracks (isNext : Bool) (tracks : Tracks groups facts root)
    {expression : PortTypeExpression}
    (known : ∀ key, expressionVariable side.1 expression = some key → key ∈ groups.parent.keys) :
    (∃ error, LacksArrayType facts side.1 expression error ∧
      resolvePort groups isNext side expression = .error error) ∨
    ∃ resolved issues next, resolvePort groups isNext side expression =
        .ok (resolved, issues, next) ∧ next.parent.keys = groups.parent.keys ∧
      Tracks next facts root ∧ PortOutcome facts isNext side expression resolved issues := by
  cases expression with
  | port portType =>
      refine Or.inr ⟨some portType, [], groups, rfl, rfl, tracks, ?_, ?_, ?_,
        List.forall_mem_nil _⟩
      · intro other
        rw [Option.some.injEq, eq_comm]
        rfl
      · rintro error ⟨_, _, _, impossible, _⟩
        cases impossible
      · simp [InConflict, expressionVariable_port]
  | typeVariable name allowed default =>
      rcases resolveVariable_tracks isNext .ok tracks (known _ rfl) with
        ⟨element, error, _, raised, _⟩ | ⟨resolved, issues, next, ran, keys, after, outcome⟩
      · cases raised
      · refine Or.inr ⟨resolved, issues, next, ran, keys, after, ?_, ?_, ?_, outcome.located⟩
        · intro portType
          rw [outcome.settles]
          constructor
          · rintro ⟨element, settled, same⟩
            cases same
            exact settled
          · exact fun settled => ⟨portType, settled, rfl⟩
        · rintro error ⟨_, _, _, impossible, _⟩
          cases impossible
        · rw [outcome.conflict]
          simp [InConflict, expressionVariable]
  | arrayTypeVariable name allowed =>
      rcases resolveVariable_tracks isNext arrayType tracks (known _ rfl)
        with ⟨element, error, settled, raised, ran⟩ |
          ⟨resolved, issues, next, ran, keys, after, outcome⟩
      · exact Or.inl ⟨error, ⟨name, allowed, element, rfl, settled, raised⟩, ran⟩
      · refine Or.inr ⟨resolved, issues, next, ran, keys, after, outcome.settles, ?_, ?_,
          outcome.located⟩
        · rintro error ⟨_, _, element, same, settled, raised⟩
          cases same
          exact outcome.fits element error settled raised
        · rw [outcome.conflict]
          simp [InConflict, expressionVariable]

/-- What is resolved for a list of ports. -/
structure PortsOutcome (facts : TypeFacts) (isNext : PortSide → Bool)
    (ports : List (PortSide × PortTypeExpression)) (types : List (PortSide × Option PortType))
    (issues : List ValidationIssue) : Prop where
  sides : types.map Prod.fst = ports.map Prod.fst
  resolved : ∀ side expression, (side, expression) ∈ ports → ∃ resolved own,
    (side, resolved) ∈ types ∧ own ⊆ issues ∧
      PortOutcome facts (isNext side) side expression resolved own
  reported : ∀ issue ∈ issues, ∃ side expression resolved own, (side, expression) ∈ ports ∧
    issue ∈ own ∧ PortOutcome facts (isNext side) side expression resolved own

/-- All ports are resolved as the facts say, or `_array_type` raises for one. -/
theorem resolvePorts_tracks (isNext : PortSide → Bool)
    {ports : List (PortSide × PortTypeExpression)} (tracks : Tracks groups facts root)
    (known : ∀ side expression, (side, expression) ∈ ports →
      ∀ key, expressionVariable side.1 expression = some key → key ∈ groups.parent.keys) :
    (∃ error, resolvePorts isNext ports groups = .error error ∧
      ∃ side expression, (side, expression) ∈ ports ∧
        LacksArrayType facts side.1 expression error) ∨
    ∃ types issues, resolvePorts isNext ports groups = .ok (types, issues) ∧
      PortsOutcome facts isNext ports types issues := by
  induction ports generalizing groups with
  | nil => exact Or.inr ⟨[], [], rfl, rfl, by simp, by simp⟩
  | cons port rest ih =>
      rcases port with ⟨side, expression⟩
      rw [resolvePorts]
      rcases resolvePort_tracks (isNext side) tracks
        (known side expression List.mem_cons_self) with
        ⟨error, lacks, raised⟩ | ⟨resolved, own, next, ran, keys, nextTracks, outcome⟩
      · exact Or.inl ⟨error, by rw [raised]; rfl, side, expression, List.mem_cons_self, lacks⟩
      · have restKnown : ∀ other otherExpression, (other, otherExpression) ∈ rest →
            ∀ key, expressionVariable other.1 otherExpression = some key →
              key ∈ next.parent.keys := by
          rw [keys]
          exact fun other otherExpression member =>
            known other otherExpression (List.mem_cons_of_mem _ member)
        rw [ran]
        rcases ih nextTracks restKnown with
          ⟨error, raised, other, otherExpression, member, lacks⟩ | ⟨types, issues, restRan, others⟩
        · refine Or.inl ⟨error, ?_, other, otherExpression, List.mem_cons_of_mem _ member, lacks⟩
          change (resolvePorts isNext rest next >>= _) = _
          rw [raised]
          rfl
        · refine Or.inr ⟨(side, resolved) :: types, own ++ issues, ?_, ?_, ?_, ?_⟩
          · change (resolvePorts isNext rest next >>= _) = _
            rw [restRan]
            rfl
          · rw [List.map_cons, List.map_cons, others.sides]
          · intro other otherExpression member
            rcases List.mem_cons.mp member with same | inRest
            · cases same
              exact ⟨resolved, own, List.mem_cons_self, List.subset_append_left _ _, outcome⟩
            · rcases others.resolved other otherExpression inRest with
                ⟨otherResolved, otherOwn, inTypes, subset, otherOutcome⟩
              exact ⟨otherResolved, otherOwn, List.mem_cons_of_mem _ inTypes,
                List.Subset.trans subset (List.subset_append_right _ _), otherOutcome⟩
          · intro issue member
            rcases List.mem_append.mp member with isOwn | isOther
            · exact ⟨side, expression, resolved, own, List.mem_cons_self, isOwn, outcome⟩
            · rcases others.reported issue isOther with
                ⟨other, otherExpression, otherResolved, otherOwn, inRest, inOwn, otherOutcome⟩
              exact ⟨other, otherExpression, otherResolved, otherOwn,
                List.mem_cons_of_mem _ inRest, inOwn, otherOutcome⟩

end Resolving

/-! ## The meaning of the whole inference -/

namespace TypeInput

/-- Facts that say what the ports and the connections of the input say. -/
structure Says (input : TypeInput ρ) (facts : TypeFacts) : Prop where
  declared : ∀ symbol, symbol ∈ facts.declared ↔ ∃ side expression,
    input.HasPort side expression ∧ declaredVariable side.1 expression = some symbol
  links : ∀ link, link ∈ facts.links ↔ ∃ connection ∈ input.connections,
    ∃ source destination, input.Joins connection source destination ∧
      LinksVariables connection source destination link
  attached : ∀ attachment, attachment ∈ facts.attached ↔ ∃ connection ∈ input.connections,
    ∃ source destination, input.Joins connection source destination ∧
      AttachesType connection source destination attachment

/-- An outcome of `_resolve_types` means what the facts say. -/
structure Describes (input : TypeInput ρ) (facts : TypeFacts)
    (outcome : Except PyError (Dict PortSide (Option PortType) × List ValidationIssue)) :
    Prop where
  raises : ∀ error, outcome = .error error →
    ∃ side expression, input.HasPort side expression ∧
      LacksArrayType facts side.1 expression error
  returns : ∀ types issues, outcome = .ok (types, issues) →
    ∀ side expression error, input.HasPort side expression →
      ¬ LacksArrayType facts side.1 expression error
  ports : ∀ types issues, outcome = .ok (types, issues) → ∀ side,
    (types.get? side).isSome = true ↔ ∃ expression, input.HasPort side expression
  settled : ∀ types issues, outcome = .ok (types, issues) → ∀ side portType,
    types.get? side = some (some portType) ↔ ∃ expression, input.HasPort side expression ∧
      SettlesTo facts side.1 expression portType
  conflicts : ∀ types issues, outcome = .ok (types, issues) → ∀ nodeId portId,
    (∃ issue ∈ issues, issue.code = "generic_type_conflict" ∧ issue.nodeId = some nodeId ∧
      issue.portId = some portId) ↔
    ∃ isOutput expression, input.HasPort (nodeId, portId, isOutput) expression ∧
      ¬ input.NextOnly (nodeId, portId, isOutput) ∧ InConflict facts nodeId expression

section Run

variable {input : TypeInput ρ} {declarations : List PortDeclaration}

/-- The declared type of every port, as it is looked up. -/
theorem get?_expressions (states : input.Declarations declarations) (side : PortSide)
    (expression : PortTypeExpression) :
    (Dict.ofEntries (declarations.map (fun declaration =>
      (declaration.side, declaration.expression)))).get? side = some expression ↔
        input.HasPort side expression := by
  constructor
  · intro found
    rcases List.mem_map.mp (Dict.mem_of_mem_ofEntries (Dict.mem_of_get? found)) with
      ⟨declaration, member, same⟩
    cases same
    exact (states.sound declaration member).1
  · intro isPort
    rcases states.complete side expression isPort with ⟨declaration, member, rfl, rfl⟩
    have listed : (declaration.side, declaration.expression) ∈ declarations.map
        (fun declaration => (declaration.side, declaration.expression)) :=
      List.mem_map.mpr ⟨declaration, member, rfl⟩
    refine Dict.get?_ofEntries listed ?_
    intro other isOther
    rcases List.mem_map.mp isOther with ⟨otherDeclaration, otherMember, same⟩
    rw [Prod.mk.injEq] at same
    have otherPort := (states.sound otherDeclaration otherMember).1
    rw [same.1, same.2] at otherPort
    exact otherPort.unique isPort

/-- The ends of a connection are ports. -/
theorem exists_joins (input : TypeInput ρ) {connection : ConnectionModel}
    (member : connection ∈ input.connections) :
    ∃ source destination, input.Joins connection source destination := by
  rcases input.joined connection member with
    ⟨sourceNode, destinationNode, sourceKnown, destinationKnown, output, socket⟩
  rcases portOf_output (input.connected connection.sourceNodeId)
    (input.nodeParameters connection.sourceNodeId) output with ⟨source, isSource⟩
  have occupied : connection.destinationPortId ∈
      input.connected connection.destinationNodeId := by
    refine List.mem_dedup.mpr (List.mem_map.mpr ⟨connection, ?_, rfl⟩)
    exact List.mem_filter.mpr ⟨member, decide_eq_true rfl⟩
  rcases portOf_connected (input.nodeParameters connection.destinationNodeId)
    (input.constructed _ _ destinationKnown) occupied socket with ⟨destination, isDestination⟩
  exact ⟨source, destination, ⟨sourceNode, sourceKnown, isSource⟩,
    ⟨destinationNode, destinationKnown, isDestination⟩⟩

theorem declaredVariable_key {nodeId : UUID} {expression : PortTypeExpression} {key : VariableKey}
    (isVariable : expressionVariable nodeId expression = some key) :
    ∃ symbol, declaredVariable nodeId expression = some symbol ∧ symbol.key = key := by
  cases expression with
  | port portType => cases isVariable
  | typeVariable name allowed default => exact ⟨_, rfl, Option.some.inj isVariable⟩
  | arrayTypeVariable name allowed => exact ⟨_, rfl, Option.some.inj isVariable⟩

theorem endsAt_iff (states : input.Declarations declarations) {connection : ConnectionModel}
    {source destination : PortTypeExpression} :
    EndsAt (Dict.ofEntries (declarations.map (fun declaration =>
      (declaration.side, declaration.expression)))) connection source destination ↔
        input.Joins connection source destination := by
  constructor
  · intro ends
    exact ⟨(get?_expressions states _ _).mp ends.source,
      (get?_expressions states _ _).mp ends.destination⟩
  · intro joins
    exact ⟨(get?_expressions states _ _).mpr joins.1, (get?_expressions states _ _).mpr joins.2⟩

theorem mem_nextOnly (states : input.Declarations declarations) {side : PortSide}
    {expression : PortTypeExpression} (isPort : input.HasPort side expression) :
    side ∈ (declarations.filter PortDeclaration.isNext).map PortDeclaration.side ↔
      input.NextOnly side := by
  constructor
  · intro member
    rcases List.mem_map.mp member with ⟨declaration, listed, rfl⟩
    rcases List.mem_filter.mp listed with ⟨isDeclared, isNext⟩
    exact (states.sound declaration isDeclared).2.mp isNext
  · intro next
    rcases states.complete side expression isPort with ⟨declaration, member, rfl, _⟩
    exact List.mem_map.mpr ⟨declaration,
      List.mem_filter.mpr ⟨member, (states.sound declaration member).2.mpr next⟩, rfl⟩

/-- The groups after all connections say what the ports and connections say. -/
theorem exists_tracks (states : input.Declarations declarations) :
    ∃ groups facts root, input.connections.foldlM
        (relate (Dict.ofEntries (declarations.map (fun declaration =>
          (declaration.side, declaration.expression)))))
        (declarations.foldl declareVariable TypeGroups.empty) = .ok groups ∧
      Tracks groups facts root ∧ input.Says facts ∧
      ∀ side expression, input.HasPort side expression → ∀ key,
        expressionVariable side.1 expression = some key → key ∈ groups.parent.keys := by
  rcases declare_run declares_empty declarations with ⟨before, declares, symbols⟩
  have stated : ∀ symbol, symbol ∈ before.declared ↔ ∃ side expression,
      input.HasPort side expression ∧ declaredVariable side.1 expression = some symbol := by
    intro symbol
    rw [symbols]
    constructor
    · rintro (impossible | ⟨declaration, member, isSymbol⟩)
      · cases impossible
      · exact ⟨_, _, (states.sound declaration member).1, isSymbol⟩
    · rintro ⟨side, expression, isPort, isSymbol⟩
      rcases states.complete side expression isPort with ⟨declaration, member, rfl, rfl⟩
      exact Or.inr ⟨declaration, member, isSymbol⟩
  have known : ∀ side expression, input.HasPort side expression → ∀ key,
      expressionVariable side.1 expression = some key →
        key ∈ (declarations.foldl declareVariable TypeGroups.empty).parent.keys := by
    intro side expression isPort key isVariable
    rcases declaredVariable_key isVariable with ⟨symbol, isSymbol, rfl⟩
    exact (declares.known symbol.key).mpr
      ⟨symbol, (stated symbol).mpr ⟨side, expression, isPort, isSymbol⟩, rfl⟩
  have endsKnown : ∀ connection ∈ input.connections, ∃ source destination,
      EndsAt (Dict.ofEntries (declarations.map (fun declaration =>
        (declaration.side, declaration.expression)))) connection source destination ∧
      (∀ key, expressionVariable connection.sourceNodeId source = some key →
        key ∈ (declarations.foldl declareVariable TypeGroups.empty).parent.keys) ∧
      ∀ key, expressionVariable connection.destinationNodeId destination = some key →
        key ∈ (declarations.foldl declareVariable TypeGroups.empty).parent.keys := by
    intro connection member
    rcases exists_joins input member with ⟨source, destination, joins⟩
    exact ⟨source, destination, (endsAt_iff states).mpr joins, known _ _ joins.1,
      known _ _ joins.2⟩
  rcases relate_run declares.tracks endsKnown with
    ⟨groups, facts, root, ran, keys, tracks, relates⟩
  refine ⟨groups, facts, root, ran, tracks, ⟨?_, ?_, ?_⟩, ?_⟩
  · intro symbol
    rw [relates.declared, stated]
  · intro link
    rw [relates.links, declares.unlinked]
    simp only [List.not_mem_nil, false_or, endsAt_iff states]
  · intro attachment
    rw [relates.attached, declares.unattached]
    simp only [List.not_mem_nil, false_or, endsAt_iff states]
  · rw [keys]
    exact known

theorem compatibilityIssue_code {resolved : Dict PortSide (Option PortType)}
    {connection : ConnectionModel} {issue : ValidationIssue}
    (reported : compatibilityIssue resolved connection = some issue) :
    issue.code = "incompatible_port_types" := by
  rw [compatibilityIssue] at reported
  split at reported
  · split_ifs at reported
    rw [← Option.some.inj reported]
    rfl
  · cases reported

/-- The outcome of the last phase, in terms of the ports of the input. -/
theorem describes_of_ports {facts : TypeFacts} {isNext : PortSide → Bool}
    {expressions : Dict PortSide PortTypeExpression} {types : List (PortSide × Option PortType)}
    {issues : List ValidationIssue}
    (isPort : ∀ side expression, (side, expression) ∈ expressions.entries ↔
      input.HasPort side expression)
    (next : ∀ side expression, input.HasPort side expression →
      (isNext side = true ↔ input.NextOnly side))
    (outcome : PortsOutcome facts isNext expressions.entries types issues) :
    input.Describes facts (.ok (Dict.ofEntries types,
      issues ++ input.connections.filterMap (compatibilityIssue (Dict.ofEntries types)))) := by
  have sameEntries : (Dict.ofEntries types).entries = types := by
    apply Dict.ofEntries_entries
    rw [outcome.sides]
    exact expressions.nodup
  have typed : ∀ side resolved, (side, resolved) ∈ types →
      (Dict.ofEntries types).get? side = some resolved := by
    intro side resolved member
    apply Dict.get?_of_mem
    rw [sameEntries]
    exact member
  refine ⟨?_, ?_, ?_, ?_, ?_⟩
  · intro error impossible
    cases impossible
  · intro _ _ _ side expression error isListed
    rcases outcome.resolved side expression ((isPort _ _).mpr isListed) with
      ⟨_, _, _, _, fits⟩
    exact fits.fits error
  · intro finalTypes finalIssues same side
    cases same
    rw [Dict.get?_isSome, Dict.keys, sameEntries, outcome.sides]
    constructor
    · intro member
      rcases List.mem_map.mp member with ⟨⟨_, expression⟩, listed, rfl⟩
      exact ⟨expression, (isPort _ _).mp listed⟩
    · rintro ⟨expression, listed⟩
      exact List.mem_map.mpr ⟨(side, expression), (isPort _ _).mpr listed, rfl⟩
  · intro finalTypes finalIssues same side portType
    cases same
    constructor
    · intro found
      have member : (side, some portType) ∈ types := by
        rw [← sameEntries]
        exact Dict.mem_of_get? found
      have listed : side ∈ expressions.entries.map Prod.fst := by
        rw [← outcome.sides]
        exact List.mem_map.mpr ⟨_, member, rfl⟩
      rcases List.mem_map.mp listed with ⟨⟨_, expression⟩, isListed, rfl⟩
      rcases outcome.resolved _ expression isListed with ⟨resolved, own, inTypes, _, fits⟩
      have sameType := (typed _ _ inTypes).symm.trans found
      rw [Option.some.injEq] at sameType
      exact ⟨expression, (isPort _ _).mp isListed, (fits.settles portType).mp sameType⟩
    · rintro ⟨expression, isListed, settles⟩
      rcases outcome.resolved side expression ((isPort _ _).mpr isListed) with
        ⟨resolved, own, inTypes, _, fits⟩
      rw [typed side resolved inTypes, (fits.settles portType).mpr settles]
  · intro finalTypes finalIssues same nodeId portId
    cases same
    constructor
    · rintro ⟨issue, member, code, node, port⟩
      rcases List.mem_append.mp member with isOwn | isOther
      · rcases outcome.reported issue isOwn with
          ⟨⟨_, _, isOutput⟩, expression, resolved, own, listed, inOwn, fits⟩
        rcases fits.located issue inOwn with ⟨atNode, atPort⟩
        rw [node, Option.some.injEq] at atNode
        rw [port, Option.some.injEq] at atPort
        dsimp only at atNode atPort
        subst atNode atPort
        have hasPort := (isPort _ _).mp listed
        rcases fits.conflict.mp ⟨issue, inOwn, code⟩ with ⟨notNext, conflict⟩
        refine ⟨isOutput, expression, hasPort, ?_, conflict⟩
        intro isNextOnly
        rw [(next _ _ hasPort).mpr isNextOnly] at notNext
        cases notNext
      · rcases List.mem_filterMap.mp isOther with ⟨connection, _, reported⟩
        rw [compatibilityIssue_code reported] at code
        simp at code
    · rintro ⟨isOutput, expression, hasPort, notNext, conflict⟩
      rcases outcome.resolved _ expression ((isPort _ _).mpr hasPort) with
        ⟨resolved, own, _, subset, fits⟩
      have isShown : isNext (nodeId, portId, isOutput) = false := by
        rw [Bool.eq_false_iff, Ne, next _ _ hasPort]
        exact notNext
      rcases fits.conflict.mpr ⟨isShown, conflict⟩ with ⟨issue, inOwn, code⟩
      rcases fits.located issue inOwn with ⟨atNode, atPort⟩
      exact ⟨issue, List.mem_append_left _ (subset inOwn), code, atNode, atPort⟩

/-- `_resolve_types` computes what the ports and connections say. -/
theorem exists_describes (input : TypeInput ρ) :
    ∃ facts, input.Says facts ∧ input.Describes facts input.run := by
  rcases portDeclarations_eq_ok input with ⟨declarations, declared, states⟩
  rcases exists_tracks states with ⟨groups, facts, root, related, tracks, stated, known⟩
  refine ⟨facts, stated, ?_⟩
  let expressions := Dict.ofEntries (declarations.map (fun declaration =>
    (declaration.side, declaration.expression)))
  let isNext := fun side => decide (side ∈
    (declarations.filter PortDeclaration.isNext).map PortDeclaration.side)
  have isPort : ∀ side expression, (side, expression) ∈ expressions.entries ↔
      input.HasPort side expression := by
    intro side expression
    rw [← get?_expressions states]
    exact ⟨Dict.get?_of_mem, Dict.mem_of_get?⟩
  have next : ∀ side expression, input.HasPort side expression →
      (isNext side = true ↔ input.NextOnly side) := by
    intro side expression hasPort
    rw [decide_eq_true_eq, mem_nextOnly states hasPort]
  have ran : input.run = resolvePorts isNext expressions.entries groups >>= fun resolved =>
      .ok (Dict.ofEntries resolved.1,
        resolved.2 ++ input.connections.filterMap
          (compatibilityIssue (Dict.ofEntries resolved.1))) := by
    rw [run, resolveTypes, declared]
    change (input.connections.foldlM (relate expressions)
      (declarations.foldl declareVariable TypeGroups.empty) >>= _) = _
    rw [related]
    rfl
  have entriesKnown : ∀ side expression, (side, expression) ∈ expressions.entries → ∀ key,
      expressionVariable side.1 expression = some key → key ∈ groups.parent.keys :=
    fun side expression member => known side expression ((isPort side expression).mp member)
  rcases resolvePorts_tracks isNext tracks entriesKnown with
    ⟨error, raised, side, expression, listed, lacks⟩ | ⟨types, issues, resolved, outcome⟩
  · rw [ran, raised]
    refine ⟨?_, ?_, ?_, ?_, ?_⟩
    · intro other same
      cases same
      exact ⟨side, expression, (isPort _ _).mp listed, lacks⟩
    all_goals
      intro _ _ impossible
      cases impossible
  · rw [ran, resolved]
    exact describes_of_ports isPort next outcome

end Run

end TypeInput

end Graph
end Synesthesia
