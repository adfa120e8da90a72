import Synesthesia.Graph.TypeRenaming

namespace Synesthesia
namespace Graph

open Foundation Contracts Nodes Synesthesia.Runtime

/-!
# What the type inference reports

`_issue_identity` of `graph/compiler.py` is what a diagnostic says apart from
its text.  The identities that `_resolve_types` reports are those of the ports
without a type, other than the sockets only offered, and of the connections
between types that do not fit.
-/

variable {ρ : Type}

/-- `_issue_identity`; the severity is that of an error throughout. -/
structure IssueIdentity where
  code : String
  nodeId : Option UUID
  portId : Option String
  connectionId : Option UUID
deriving DecidableEq

def issueIdentity (issue : ValidationIssue) : IssueIdentity :=
  ⟨issue.code, issue.nodeId, issue.portId, issue.connectionId⟩

/-! ## Ports -/

/-- The identity of what is reported for a port without a type. -/
def ReportsPort (facts : TypeFacts) (side : PortSide) (expression : PortTypeExpression)
    (identity : IssueIdentity) : Prop :=
  InConflict facts side.1 expression ∧
      identity = ⟨"generic_type_conflict", some side.1, some side.2.1, none⟩ ∨
    ¬ InConflict facts side.1 expression ∧
      identity = ⟨"unresolved_generic_type", some side.1, some side.2.1, none⟩

section Ports

variable {groups next : TypeGroups} {facts : TypeFacts} {root : VariableKey → VariableKey}
  {isNext : Bool} {side : PortSide} {expression : PortTypeExpression}
  {resolved : Option PortType} {own : List ValidationIssue}

/-- What a port reports: nothing where it has a type or is only offered, else
one issue. -/
inductive PortReport (isNext : Bool) (side : PortSide) :
    Option PortType → List ValidationIssue → Prop
  | settled (portType : PortType) : PortReport isNext side (some portType) []
  | offered (offer : isNext = true) : PortReport isNext side none []
  | conflict (shown : isNext = false) (issue : ValidationIssue)
      (identity : issueIdentity issue =
        ⟨"generic_type_conflict", some side.1, some side.2.1, none⟩) :
      PortReport isNext side none [issue]
  | unresolved (shown : isNext = false) (issue : ValidationIssue)
      (identity : issueIdentity issue =
        ⟨"unresolved_generic_type", some side.1, some side.2.1, none⟩) :
      PortReport isNext side none [issue]

theorem resolveVariable_report {name : String} {shape : PortType → Except PyError PortType}
    (ran : resolveVariable groups isNext side name shape = .ok (resolved, own, next)) :
    PortReport isNext side resolved own := by
  rcases bind_eq_ok.mp ran with ⟨⟨incompatible, searched⟩, _, ran⟩
  rcases bind_eq_ok.mp ran with ⟨⟨valueType, again⟩, _, ran⟩
  by_cases clash : incompatible ≠ ∅
  · cases (if_pos clash).symm.trans ran
    cases shown : isNext with
    | true => exact .offered rfl
    | false => exact .conflict rfl _ rfl
  · have settled := (if_neg clash).symm.trans ran
    cases valueType with
    | none =>
        cases settled
        cases shown : isNext with
        | true => exact .offered rfl
        | false => exact .unresolved rfl _ rfl
    | some valueType =>
        rcases bind_eq_ok.mp settled with ⟨shaped, _, returned⟩
        cases returned
        exact .settled shaped

theorem resolvePort_report
    (ran : resolvePort groups isNext side expression = .ok (resolved, own, next)) :
    PortReport isNext side resolved own := by
  cases expression with
  | port portType =>
      cases ran
      exact .settled portType
  | typeVariable name allowed default => exact resolveVariable_report ran
  | arrayTypeVariable name allowed => exact resolveVariable_report ran

/-- The identities of the issues of one port. -/
theorem PortReport.identities (report : PortReport isNext side resolved own)
    (outcome : PortOutcome facts isNext side expression resolved own) (identity : IssueIdentity) :
    identity ∈ own.map issueIdentity ↔
      isNext = false ∧ resolved = none ∧ ReportsPort facts side expression identity := by
  cases report with
  | settled portType => simp
  | offered offer => simp [offer]
  | conflict shown issue named =>
      have code : issue.code = "generic_type_conflict" := congrArg IssueIdentity.code named
      have inConflict :=
        (outcome.conflict.mp ⟨issue, List.mem_singleton_self issue, code⟩).2
      simp [shown, named, ReportsPort, inConflict]
  | unresolved shown issue named =>
      have calm : ¬ InConflict facts side.1 expression := by
        intro inConflict
        rcases outcome.conflict.mpr ⟨shown, inConflict⟩ with ⟨other, isOther, code⟩
        rw [List.mem_singleton.mp isOther] at code
        have impossible := (congrArg IssueIdentity.code named).symm.trans code
        simp at impossible
      simp [shown, named, ReportsPort, calm]

/-- The identities of the issues of all ports. -/
theorem resolvePorts_identities (isNext : PortSide → Bool)
    {ports : List (PortSide × PortTypeExpression)} (tracks : Tracks groups facts root)
    (known : ∀ side expression, (side, expression) ∈ ports →
      ∀ key, expressionVariable side.1 expression = some key → key ∈ groups.parent.keys)
    {types : List (PortSide × Option PortType)} {issues : List ValidationIssue}
    (ran : resolvePorts isNext ports groups = .ok (types, issues)) (identity : IssueIdentity) :
    identity ∈ issues.map issueIdentity ↔ ∃ side expression, (side, expression) ∈ ports ∧
      isNext side = false ∧ (∀ portType, ¬ SettlesTo facts side.1 expression portType) ∧
        ReportsPort facts side expression identity := by
  induction ports generalizing groups types issues with
  | nil =>
      cases ran
      simp
  | cons port rest ih =>
      rcases port with ⟨side, expression⟩
      rcases bind_eq_ok.mp ran with ⟨⟨resolved, own, next⟩, first, ran⟩
      rcases bind_eq_ok.mp ran with ⟨⟨others, otherIssues⟩, second, returned⟩
      cases returned
      rcases resolvePort_tracks (isNext side) tracks
        (known side expression List.mem_cons_self) with
        ⟨_, _, raised⟩ | ⟨_, _, _, again, keys, nextTracks, outcome⟩
      · rw [first] at raised
        cases raised
      · rw [first] at again
        cases again
        have restKnown : ∀ other otherExpression, (other, otherExpression) ∈ rest →
            ∀ key, expressionVariable other.1 otherExpression = some key →
              key ∈ next.parent.keys := by
          rw [keys]
          exact fun other otherExpression member =>
            known other otherExpression (List.mem_cons_of_mem _ member)
        have untyped : resolved = none ↔
            ∀ portType, ¬ SettlesTo facts side.1 expression portType := by
          simp only [← outcome.settles, Option.eq_none_iff_forall_ne_some]
        rw [List.map_append, List.mem_append, (resolvePort_report first).identities outcome,
          untyped, ih nextTracks restKnown second]
        constructor
        · rintro (here | ⟨other, otherExpression, member, reported⟩)
          · exact ⟨side, expression, List.mem_cons_self, here⟩
          · exact ⟨other, otherExpression, List.mem_cons_of_mem _ member, reported⟩
        · rintro ⟨other, otherExpression, member, reported⟩
          rcases List.mem_cons.mp member with same | inRest
          · cases same
            exact Or.inl reported
          · exact Or.inr ⟨other, otherExpression, inRest, reported⟩

end Ports

/-! ## Connections -/

/-- The settled types at the ends of a connection do not fit. -/
def Misfits (types : Dict PortSide (Option PortType)) (connection : ConnectionModel) : Prop :=
  ∃ source destination,
    types.get? (connection.sourceNodeId, connection.sourcePortId, true) = some (some source) ∧
    types.get? (connection.destinationNodeId, connection.destinationPortId, false) =
      some (some destination) ∧
    typesCompatible source destination = false

theorem compatibilityIssue_identity {types : Dict PortSide (Option PortType)}
    {connection : ConnectionModel} (identity : IssueIdentity) :
    (∃ issue, compatibilityIssue types connection = some issue ∧
      issueIdentity issue = identity) ↔
      Misfits types connection ∧
        identity = ⟨"incompatible_port_types", some connection.destinationNodeId,
          some connection.destinationPortId, some connection.id⟩ := by
  rw [compatibilityIssue, Misfits]
  cases types.get? (connection.sourceNodeId, connection.sourcePortId, true) with
  | none => simp
  | some source =>
      cases source with
      | none => simp
      | some sourceType =>
          cases types.get? (connection.destinationNodeId, connection.destinationPortId, false) with
          | none => simp
          | some destination =>
              cases destination with
              | none => simp
              | some destinationType =>
                  cases fits : typesCompatible sourceType destinationType with
                  | true => simp [fits]
                  | false =>
                      constructor
                      · rintro ⟨issue, reported, rfl⟩
                        rw [← Option.some.inj ((if_neg (by simp [fits])).symm.trans reported)]
                        exact ⟨⟨sourceType, destinationType, rfl, rfl, fits⟩, rfl⟩
                      · rintro ⟨_, rfl⟩
                        exact ⟨_, if_neg (by simp [fits]), rfl⟩

/-! ## The whole report -/

namespace TypeInput

variable {input : TypeInput ρ}

/-- What an inference that returns reports. -/
def Reports (input : TypeInput ρ) (facts : TypeFacts) (types : Dict PortSide (Option PortType))
    (identity : IssueIdentity) : Prop :=
  (∃ side expression, input.HasPort side expression ∧ ¬ input.NextOnly side ∧
    (∀ portType, ¬ SettlesTo facts side.1 expression portType) ∧
      ReportsPort facts side expression identity) ∨
  ∃ connection ∈ input.connections, Misfits types connection ∧
    identity = ⟨"incompatible_port_types", some connection.destinationNodeId,
      some connection.destinationPortId, some connection.id⟩

/-- The inference reports the ports without a type and the connections that do
not fit, and nothing else. -/
theorem exists_reports (input : TypeInput ρ) {types : Dict PortSide (Option PortType)}
    {issues : List ValidationIssue} (ran : input.run = .ok (types, issues)) :
    ∃ facts, input.Says facts ∧ ∀ identity,
      identity ∈ issues.map issueIdentity ↔ input.Reports facts types identity := by
  rcases portDeclarations_eq_ok input with ⟨declarations, declared, states⟩
  rcases exists_tracks states with ⟨groups, facts, root, related, tracks, stated, known⟩
  refine ⟨facts, stated, ?_⟩
  have isPort : ∀ side expression, (side, expression) ∈ (Dict.ofEntries (declarations.map
      (fun declaration => (declaration.side, declaration.expression)))).entries ↔
      input.HasPort side expression := by
    intro side expression
    rw [← get?_expressions states]
    exact ⟨Dict.get?_of_mem, Dict.mem_of_get?⟩
  rw [run, resolveTypes, declared] at ran
  rcases bind_eq_ok.mp ran with ⟨_, same, ran⟩
  cases same
  rcases bind_eq_ok.mp ran with ⟨_, relatedAgain, ran⟩
  rw [related] at relatedAgain
  cases relatedAgain
  rcases bind_eq_ok.mp ran with ⟨⟨entries, portIssues⟩, resolved, returned⟩
  cases returned
  intro identity
  have entriesKnown : ∀ side expression, (side, expression) ∈ (Dict.ofEntries (declarations.map
      (fun declaration => (declaration.side, declaration.expression)))).entries → ∀ key,
      expressionVariable side.1 expression = some key → key ∈ groups.parent.keys :=
    fun side expression member => known side expression ((isPort side expression).mp member)
  rw [List.map_append, List.mem_append,
    resolvePorts_identities _ tracks entriesKnown resolved identity, Reports]
  refine or_congr ?_ ?_
  · constructor
    · rintro ⟨side, expression, member, shown, reported⟩
      have hasPort := (isPort side expression).mp member
      refine ⟨side, expression, hasPort, ?_, reported⟩
      rw [← mem_nextOnly states hasPort]
      exact of_decide_eq_false shown
    · rintro ⟨side, expression, hasPort, shown, reported⟩
      refine ⟨side, expression, (isPort side expression).mpr hasPort, ?_, reported⟩
      rw [← mem_nextOnly states hasPort] at shown
      exact decide_eq_false shown
  · simp only [List.mem_map, List.mem_filterMap]
    constructor
    · rintro ⟨issue, ⟨connection, member, reported⟩, named⟩
      exact ⟨connection, member, (compatibilityIssue_identity identity).mp ⟨issue, reported, named⟩⟩
    · rintro ⟨connection, member, misfits⟩
      rcases (compatibilityIssue_identity identity).mpr misfits with ⟨issue, reported, named⟩
      exact ⟨issue, ⟨connection, member, reported⟩, named⟩

end TypeInput

end Graph
end Synesthesia
