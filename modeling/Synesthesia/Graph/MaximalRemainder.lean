import Synesthesia.Graph.Reduction

namespace Synesthesia
namespace Graph

open Foundation Contracts Nodes Synesthesia.Runtime

/-!
# The remainder that is compiled

`GraphCompiler.compile` leaves out the invalid parts of a document until the
rest is valid.  The documented rule says which nodes and connections are left
out; the loop of the compiler is the iteration of this rule while there are
errors, and it ends because every round leaves out something.
-/

variable {ρ : Type} {registry : NodeRegistry ρ} {snapshot : GraphSnapshot}
  {requested : Option (List UUID)}

/-! ## The documented rule -/

/-- An error attaches to the node, or one of its ports has no type. -/
def NodeExcluded (validated : Validated ρ) (nodeId : UUID) : Prop :=
  (∃ issue ∈ validated.issues, issue.nodeId = some nodeId) ∨
    ∃ entry ∈ validated.analysis.resolvedTypes.entries, entry.1.1 = nodeId ∧ entry.2 = none

instance nodeExcludedDecidable (validated : Validated ρ) (nodeId : UUID) :
    Decidable (NodeExcluded validated nodeId) :=
  inferInstanceAs (Decidable ((∃ issue ∈ validated.issues, issue.nodeId = some nodeId) ∨
    ∃ entry ∈ validated.analysis.resolvedTypes.entries, entry.1.1 = nodeId ∧ entry.2 = none))

/-- A node of the snapshot is excluded. -/
def EndExcluded (current : GraphSnapshot) (validated : Validated ρ) (nodeId : UUID) : Prop :=
  nodeId ∈ current.nodes.map NodeModel.id ∧ NodeExcluded validated nodeId

instance endExcludedDecidable (current : GraphSnapshot) (validated : Validated ρ)
    (nodeId : UUID) : Decidable (EndExcluded current validated nodeId) :=
  inferInstanceAs (Decidable (nodeId ∈ current.nodes.map NodeModel.id ∧
    NodeExcluded validated nodeId))

/-- An error attaches to the connection, or one of its ends is excluded. -/
def ConnectionExcluded (current : GraphSnapshot) (validated : Validated ρ)
    (connection : ConnectionModel) : Prop :=
  (∃ issue ∈ validated.issues, issue.connectionId = some connection.id) ∨
    EndExcluded current validated connection.sourceNodeId ∨
    EndExcluded current validated connection.destinationNodeId

instance connectionExcludedDecidable (current : GraphSnapshot) (validated : Validated ρ)
    (connection : ConnectionModel) : Decidable (ConnectionExcluded current validated connection) :=
  inferInstanceAs (Decidable
    ((∃ issue ∈ validated.issues, issue.connectionId = some connection.id) ∨
      EndExcluded current validated connection.sourceNodeId ∨
      EndExcluded current validated connection.destinationNodeId))

/-- What the documented rule leaves of a snapshot. -/
def excludeInvalid (current : GraphSnapshot) (validated : Validated ρ) : GraphSnapshot :=
  { current with
    nodes := current.nodes.filter (fun node => decide (¬ NodeExcluded validated node.id))
    connections := current.connections.filter (fun connection =>
      decide (¬ ConnectionExcluded current validated connection)) }

section Rule

variable {current : GraphSnapshot} {validated : Validated ρ}

theorem mem_droppedNodes_iff {nodeId : UUID} :
    nodeId ∈ droppedNodes current validated ↔ EndExcluded current validated nodeId := by
  rw [droppedNodes, List.mem_filter, List.mem_append, List.mem_filterMap, List.mem_map,
    decide_eq_true_eq, EndExcluded, and_comm, NodeExcluded]
  apply and_congr_right'
  apply or_congr_right
  simp only [List.mem_filter, decide_eq_true_eq]
  constructor
  · rintro ⟨entry, ⟨member, unsettled⟩, atNode⟩
    exact ⟨entry, member, atNode, unsettled⟩
  · rintro ⟨entry, member, atNode, unsettled⟩
    exact ⟨entry, ⟨member, unsettled⟩, atNode⟩

/-- `_reduced_snapshot` follows the documented rule. -/
theorem remainder_eq_excludeInvalid :
    remainder current validated = excludeInvalid current validated := by
  rw [remainder, excludeInvalid]
  congr 1
  · apply List.filter_congr
    intro node member
    rw [decide_eq_decide, mem_droppedNodes_iff, EndExcluded]
    simp only [List.mem_map_of_mem member, true_and]
  · apply List.filter_congr
    intro connection _
    rw [decide_eq_decide, mem_droppedNodes_iff, mem_droppedNodes_iff, ConnectionExcluded,
      droppedConnections, List.mem_filterMap, not_or, not_or]

theorem reducedSnapshot_eq_some {next : GraphSnapshot}
    (reduces : reducedSnapshot current validated = some next) :
    next = excludeInvalid current validated :=
  (reducedSnapshot_some reduces).trans remainder_eq_excludeInvalid

/-- `_reduced_snapshot` returns its argument where the rule leaves all of it. -/
theorem reducedSnapshot_eq_none (stuck : reducedSnapshot current validated = none) :
    excludeInvalid current validated = current := by
  rw [← remainder_eq_excludeInvalid]
  rw [reducedSnapshot] at stuck
  split_ifs at stuck with same
  rcases same with ⟨nodes, connections⟩
  have allNodes := List.filter_sublist.eq_of_length nodes
  have allConnections := List.filter_sublist.eq_of_length connections
  rw [remainder, allNodes, allConnections]

end Rule

/-! ## The loop -/

/-- A plan where an analysis finds no error. -/
def planIfValid (snapshot : GraphSnapshot) (validated : Validated ρ) :
    Except PyError (Option (ExecutionPlan ρ)) :=
  if validated.issues = [] then (planOf snapshot validated).map some else .ok none

/-- How the `while` loop of `compile` ends, from a snapshot with errors. -/
inductive Reduces (registry : NodeRegistry ρ) (snapshot : GraphSnapshot)
    (requested : Option (List UUID)) : GraphSnapshot → Validated ρ →
      Except PyError (Option (ExecutionPlan ρ)) → Prop
  | spent {current : GraphSnapshot} {validated : Validated ρ}
      (stuck : reducedSnapshot current validated = none)
      (all : survivingRoots requested current = requested) :
      Reduces registry snapshot requested current validated (.ok none)
  | rechecked {current : GraphSnapshot} {validated : Validated ρ}
      (stuck : reducedSnapshot current validated = none)
      (fewer : survivingRoots requested current ≠ requested) :
      Reduces registry snapshot requested current validated
        (validateSnapshot registry current (survivingRoots requested current) >>=
          planIfValid snapshot)
  | raised {current next : GraphSnapshot} {validated : Validated ρ} {error : PyError}
      (reduces : reducedSnapshot current validated = some next)
      (raised : validateSnapshot registry next (survivingRoots requested next) = .error error) :
      Reduces registry snapshot requested current validated (.error error)
  | valid {current next : GraphSnapshot} {validated again : Validated ρ}
      (reduces : reducedSnapshot current validated = some next)
      (analyzed : validateSnapshot registry next (survivingRoots requested next) = .ok again)
      (sound : again.issues = []) :
      Reduces registry snapshot requested current validated ((planOf snapshot again).map some)
  | onward {current next : GraphSnapshot} {validated again : Validated ρ}
      {outcome : Except PyError (Option (ExecutionPlan ρ))}
      (reduces : reducedSnapshot current validated = some next)
      (analyzed : validateSnapshot registry next (survivingRoots requested next) = .ok again)
      (errors : again.issues ≠ [])
      (rest : Reduces registry snapshot requested next again outcome) :
      Reduces registry snapshot requested current validated outcome

/-- The loop ends, and as many rounds as there are nodes and connections are
enough for it. -/
theorem reduceLoop_reduces (fuel : Nat) (current : GraphSnapshot) (validated : Validated ρ)
    (enough : current.nodes.length + current.connections.length < fuel) :
    Reduces registry snapshot requested current validated
      (reduceLoop registry snapshot requested fuel current validated) := by
  induction fuel generalizing current validated with
  | zero => omega
  | succ fuel ih =>
      rw [reduceLoop]
      cases step : reducedSnapshot current validated with
      | none =>
          dsimp only
          by_cases all : survivingRoots requested current = requested
          · rw [if_neg (not_not.mpr all)]
            exact Reduces.spent step all
          · rw [if_pos all]
            exact Reduces.rechecked step all
      | some next =>
          dsimp only
          have smaller := reducedSnapshot_length step
          cases analyzed : validateSnapshot registry next (survivingRoots requested next) with
          | error error => exact Reduces.raised step analyzed
          | ok again =>
              by_cases sound : again.issues = []
              · change Reduces registry snapshot requested current validated
                  (if again.issues = [] then _ else _)
                rw [if_pos sound]
                exact Reduces.valid step analyzed sound
              · change Reduces registry snapshot requested current validated
                  (if again.issues = [] then _ else _)
                rw [if_neg sound]
                exact Reduces.onward step analyzed sound
                  (ih next again (by omega))

/-! ## The iteration of the rule -/

/-- The snapshots that the rule leaves one after the other while there are
errors, each with its analysis; the demand roots that are gone are dropped. -/
inductive Iterates (registry : NodeRegistry ρ) (snapshot : GraphSnapshot)
    (requested : Option (List UUID)) : GraphSnapshot → Validated ρ → Prop
  | document {validated : Validated ρ}
      (analyzed : validateSnapshot registry snapshot requested = .ok validated) :
      Iterates registry snapshot requested snapshot validated
  | exclude {current : GraphSnapshot} {validated again : Validated ρ}
      (earlier : Iterates registry snapshot requested current validated)
      (errors : validated.issues ≠ [])
      (analyzed : validateSnapshot registry (excludeInvalid current validated)
        (survivingRoots requested (excludeInvalid current validated)) = .ok again) :
      Iterates registry snapshot requested (excludeInvalid current validated) again

/-- The iteration has ended: without errors, or with errors that the rule does
not remove although the roots that are gone are dropped. -/
structure Exhausted (registry : NodeRegistry ρ) (snapshot : GraphSnapshot)
    (requested : Option (List UUID)) (last : GraphSnapshot) (validated : Validated ρ) : Prop where
  iterates : Iterates registry snapshot requested last validated
  ended : validated.issues = [] ∨ (excludeInvalid last validated = last ∧
    validateSnapshot registry last (survivingRoots requested last) = .ok validated)

theorem Iterates.analyzed {current : GraphSnapshot} {validated : Validated ρ}
    (iterates : Iterates registry snapshot requested current validated) :
    (current = snapshot ∧ validateSnapshot registry current requested = .ok validated) ∨
      validateSnapshot registry current (survivingRoots requested current) = .ok validated := by
  cases iterates with
  | document analyzed => exact Or.inl ⟨rfl, analyzed⟩
  | exclude _ _ analyzed => exact Or.inr analyzed

theorem planIfValid_of_sound {validated : Validated ρ} (sound : validated.issues = []) :
    planIfValid snapshot validated = (planOf snapshot validated).map some :=
  if_pos sound

theorem planIfValid_of_errors {validated : Validated ρ} (errors : validated.issues ≠ []) :
    planIfValid snapshot validated = .ok none :=
  if_neg errors

/-! ### Dropping the roots that are gone -/

section Roots

variable {current : GraphSnapshot} {validated final : Validated ρ}
  {demandRoots : Option (List UUID)}

/-- Roots that are nodes of the snapshot cause no error. -/
theorem survivingRoots_sound (nodes : List UUID)
    (definitions : Dict UUID (NodeExecutionContract ρ)) (connections : List ConnectionModel)
    (same : nodes = (uniqueNodes current).1.keys) :
    (resolveDemandRoots nodes definitions connections (survivingRoots requested current)).2 =
      [] := by
  cases requested with
  | none =>
      rw [survivingRoots, Option.map_none, resolveDemandRoots]
      split <;> rfl
  | some roots =>
      have none : (roots.filter (fun root =>
          decide (root ∈ current.nodes.map NodeModel.id))).dedup.filter
            (fun root => decide (root ∉ nodes)) = [] := by
        rw [List.filter_eq_nil_iff]
        intro root member absent
        have isNode := of_decide_eq_true (List.mem_filter.mp (List.mem_dedup.mp member)).2
        rw [← mem_uniqueNodes_keys, ← same] at isNode
        exact of_decide_eq_true absent isNode
      rw [survivingRoots, Option.map_some, resolveDemandRoots]
      dsimp only
      rw [none]
      rfl

/-- Without the roots that are gone an analysis finds no further error, and the
same types. -/
theorem recheck_subset (analyzed : validateSnapshot registry current demandRoots = .ok validated)
    (again : validateSnapshot registry current (survivingRoots requested current) = .ok final) :
    final.issues ⊆ validated.issues ∧
      final.analysis.resolvedTypes = validated.analysis.resolvedTypes := by
  rcases validateSnapshot_ok analyzed with ⟨typeIssues, phases⟩
  rcases validateSnapshot_ok again with ⟨finalTypeIssues, finalPhases⟩
  have types := finalPhases.types.symm.trans phases.types
  rw [Except.ok.injEq, Prod.mk.injEq] at types
  refine ⟨?_, types.1⟩
  rw [types.2] at finalPhases
  rw [finalPhases.issues_eq, phases.issues_eq, survivingRoots_sound _ _ _ rfl, List.append_nil]
  exact List.subset_append_left _ _

/-- The rule leaves all of a snapshot when fewer errors are found in it. -/
theorem excludeInvalid_of_subset (fixed : excludeInvalid current validated = current)
    (fewer : final.issues ⊆ validated.issues)
    (types : final.analysis.resolvedTypes = validated.analysis.resolvedTypes) :
    excludeInvalid current final = current := by
  have nodeExcluded : ∀ nodeId, NodeExcluded final nodeId → NodeExcluded validated nodeId := by
    rintro nodeId (⟨issue, member, names⟩ | unsettled)
    · exact Or.inl ⟨issue, fewer member, names⟩
    · exact Or.inr (types ▸ unsettled)
  have endExcluded : ∀ nodeId, EndExcluded current final nodeId →
      EndExcluded current validated nodeId :=
    fun nodeId excluded => ⟨excluded.1, nodeExcluded nodeId excluded.2⟩
  have connectionExcluded : ∀ connection, ConnectionExcluded current final connection →
      ConnectionExcluded current validated connection := by
    rintro connection (⟨issue, member, names⟩ | source | destination)
    · exact Or.inl ⟨issue, fewer member, names⟩
    · exact Or.inr (Or.inl (endExcluded _ source))
    · exact Or.inr (Or.inr (endExcluded _ destination))
  have nodes := List.filter_eq_self.mp (congrArg GraphSnapshot.nodes fixed)
  have connections := List.filter_eq_self.mp (congrArg GraphSnapshot.connections fixed)
  rw [excludeInvalid]
  have allNodes : current.nodes.filter (fun node => decide (¬ NodeExcluded final node.id)) =
      current.nodes := by
    rw [List.filter_eq_self]
    intro node member
    exact decide_eq_true (fun excluded =>
      of_decide_eq_true (nodes node member) (nodeExcluded _ excluded))
  have allConnections : current.connections.filter (fun connection =>
      decide (¬ ConnectionExcluded current final connection)) = current.connections := by
    rw [List.filter_eq_self]
    intro connection member
    exact decide_eq_true (fun excluded =>
      of_decide_eq_true (connections connection member) (connectionExcluded _ excluded))
  rw [allNodes, allConnections]

end Roots

/-- Where the loop returns, the iteration has ended and the plan is that of its
last snapshot. -/
theorem Reduces.exhausted {current : GraphSnapshot} {validated : Validated ρ}
    {outcome : Except PyError (Option (ExecutionPlan ρ))}
    (reduces : Reduces registry snapshot requested current validated outcome)
    (iterates : Iterates registry snapshot requested current validated)
    (errors : validated.issues ≠ []) {plan : Option (ExecutionPlan ρ)}
    (returns : outcome = .ok plan) :
    ∃ last final, Exhausted registry snapshot requested last final ∧
      planIfValid snapshot final = .ok plan := by
  induction reduces with
  | @spent current validated stuck all =>
      refine ⟨current, validated, ⟨iterates, Or.inr ⟨reducedSnapshot_eq_none stuck, ?_⟩⟩, ?_⟩
      · rcases iterates.analyzed with ⟨_, analyzed⟩ | analyzed
        · rw [all]
          exact analyzed
        · exact analyzed
      · rw [planIfValid_of_errors errors]
        exact returns
  | @rechecked current validated stuck fewer =>
      rcases bind_eq_ok.mp returns with ⟨final, analyzed, planned⟩
      have fixed := reducedSnapshot_eq_none stuck
      have again : Iterates registry snapshot requested (excludeInvalid current validated) final :=
        Iterates.exclude iterates errors (by rw [fixed]; exact analyzed)
      rw [fixed] at again
      refine ⟨current, final, ⟨again, ?_⟩, planned⟩
      refine Or.inr ⟨?_, analyzed⟩
      rcases iterates.analyzed with ⟨_, before⟩ | before
      · rcases recheck_subset before analyzed with ⟨fewer, types⟩
        exact excludeInvalid_of_subset fixed fewer types
      · rcases recheck_subset before analyzed with ⟨fewer, types⟩
        exact excludeInvalid_of_subset fixed fewer types
  | raised _ _ => cases returns
  | @valid current next validated again reduced analyzed sound =>
      rw [reducedSnapshot_eq_some reduced] at analyzed
      exact ⟨_, again, ⟨Iterates.exclude iterates errors analyzed, Or.inl sound⟩,
        (planIfValid_of_sound sound).trans returns⟩
  | @onward current next validated again outcome reduced analyzed stillErrors _
      ih =>
      have isNext := reducedSnapshot_eq_some reduced
      subst isNext
      exact ih (Iterates.exclude iterates errors analyzed) stillErrors returns

/-! ### The end of the iteration -/

/-- One round of the iteration. -/
def NextRound (registry : NodeRegistry ρ) (requested : Option (List UUID))
    (before after : GraphSnapshot × Validated ρ) : Prop :=
  before.2.issues ≠ [] ∧ after.1 = excludeInvalid before.1 before.2 ∧
    validateSnapshot registry after.1 (survivingRoots requested after.1) = .ok after.2

theorem Iterates.started {current : GraphSnapshot} {validated : Validated ρ}
    (iterates : Iterates registry snapshot requested current validated) :
    ∃ full, validateSnapshot registry snapshot requested = .ok full := by
  induction iterates with
  | document analyzed => exact ⟨_, analyzed⟩
  | exclude _ _ _ ih => exact ih

theorem Iterates.path {current : GraphSnapshot} {validated full : Validated ρ}
    (iterates : Iterates registry snapshot requested current validated)
    (analyzed : validateSnapshot registry snapshot requested = .ok full) :
    Relation.ReflTransGen (NextRound registry requested) (snapshot, full) (current, validated) := by
  induction iterates with
  | document alsoAnalyzed =>
      cases analyzed.symm.trans alsoAnalyzed
      exact Relation.ReflTransGen.refl
  | exclude _ errors again ih =>
      exact ih.tail ⟨errors, rfl, again⟩

theorem nextRound_unique {before left right : GraphSnapshot × Validated ρ}
    (first : NextRound registry requested before left)
    (second : NextRound registry requested before right) : left = right := by
  have same : left.1 = right.1 := first.2.1.trans second.2.1.symm
  apply Prod.ext same
  have analyzed := first.2.2
  rw [same] at analyzed
  exact Except.ok.inj (analyzed.symm.trans second.2.2)

/-- After its end the iteration stays where it is. -/
theorem Exhausted.stays {last : GraphSnapshot} {final : Validated ρ}
    (exhausted : Exhausted registry snapshot requested last final)
    {after : GraphSnapshot × Validated ρ}
    (path : Relation.ReflTransGen (NextRound registry requested) (last, final) after) :
    after = (last, final) := by
  induction path with
  | refl => rfl
  | tail _ next ih =>
      subst ih
      rcases exhausted.ended with sound | ⟨fixed, analyzed⟩
      · exact absurd sound next.1
      · apply nextRound_unique next
        exact ⟨next.1, fixed.symm, analyzed⟩

/-- The iteration ends in one way. -/
theorem Exhausted.unique {last other : GraphSnapshot} {final otherFinal : Validated ρ}
    (first : Exhausted registry snapshot requested last final)
    (second : Exhausted registry snapshot requested other otherFinal) :
    last = other ∧ final = otherFinal := by
  rcases first.iterates.started with ⟨full, analyzed⟩
  have rightUnique : Relator.RightUnique (NextRound registry requested) :=
    fun _ _ _ => nextRound_unique
  have same : (last, final) = (other, otherFinal) := by
    rcases Relation.ReflTransGen.total_of_right_unique rightUnique
      (first.iterates.path analyzed) (second.iterates.path analyzed) with onward | back
    · exact (first.stays onward).symm
    · exact second.stays back
  rw [Prod.mk.injEq] at same
  exact same

/-! ## The compiler -/

/-- What `compile` returns: the report of the document, and a plan of what the
iteration of the documented rule leaves, unless it ends with errors. -/
structure CompilesRemainder (registry : NodeRegistry ρ) (snapshot : GraphSnapshot)
    (requested : Option (List UUID)) (result : CompilationResult ρ) (full : Validated ρ)
    (last : GraphSnapshot) (final : Validated ρ) : Prop where
  analyzed : validateSnapshot registry snapshot requested = .ok full
  report : result.report = full.issues
  exhausted : Exhausted registry snapshot requested last final
  only : ∀ other otherFinal, Exhausted registry snapshot requested other otherFinal →
    other = last ∧ otherFinal = final
  plan : ∀ plan, result.plan = some plan → final.issues = [] ∧ planOf snapshot final = .ok plan
  absent : result.plan = none → final.issues ≠ []

/-- What `compile` returns comes from the end of the iteration. -/
theorem compile_ended {result : CompilationResult ρ}
    (compiled : compile registry snapshot requested = .ok result) :
    ∃ full last final, validateSnapshot registry snapshot requested = .ok full ∧
      result.report = full.issues ∧ Exhausted registry snapshot requested last final ∧
        planIfValid snapshot final = .ok result.plan := by
  rcases bind_eq_ok.mp compiled with ⟨full, analyzed, compiled⟩
  by_cases sound : full.issues = []
  · have planned := (if_pos sound).symm.trans compiled
    rcases bind_eq_ok.mp planned with ⟨plan, isPlan, returned⟩
    cases returned
    exact ⟨full, snapshot, full, analyzed, rfl, ⟨Iterates.document analyzed, Or.inl sound⟩,
      (planIfValid_of_sound sound).trans isPlan⟩
  · have reduced := (if_neg sound).symm.trans compiled
    rcases bind_eq_ok.mp reduced with ⟨plan, isPlan, returned⟩
    cases returned
    rcases (reduceLoop_reduces _ snapshot full (Nat.lt_succ_self _)).exhausted
      (Iterates.document analyzed) sound isPlan with ⟨last, final, exhausted, planned⟩
    exact ⟨full, last, final, analyzed, rfl, exhausted, planned⟩

/-- The loop of `compile` terminates from every state; what it keeps is what
the documented rule leaves when it is iterated while there are errors. -/
theorem compile_maximalRemainder (registry : NodeRegistry ρ) (snapshot : GraphSnapshot)
    (requested : Option (List UUID)) :
    (∀ current validated, ∃ outcome,
      Reduces registry snapshot requested current validated outcome) ∧
    ∀ result, compile registry snapshot requested = .ok result →
      ∃ full last final, CompilesRemainder registry snapshot requested result full last final := by
  refine ⟨?_, ?_⟩
  · intro current validated
    exact ⟨_, reduceLoop_reduces _ current validated (Nat.lt_succ_self _)⟩
  · intro result compiled
    rcases compile_ended compiled with ⟨full, last, final, analyzed, report, exhausted, returned⟩
    refine ⟨full, last, final, analyzed, report, exhausted, ?_, ?_, ?_⟩
    · exact fun other otherFinal alsoExhausted => alsoExhausted.unique exhausted
    · intro plan isPlan
      rw [isPlan] at returned
      by_cases sound : final.issues = []
      · rw [planIfValid_of_sound sound] at returned
        rcases map_eq_ok.mp returned with ⟨built, isBuilt, same⟩
        cases same
        exact ⟨sound, isBuilt⟩
      · rw [planIfValid_of_errors sound] at returned
        cases returned
    · intro isPlan sound
      rw [isPlan, planIfValid_of_sound sound] at returned
      rcases map_eq_ok.mp returned with ⟨built, _, same⟩
      cases same

/-! ## Levels and their collectors -/

/-- A source of levels. -/
def levelNode : NodeExecutionContract Unit where
  typeId := "level"
  implementationVersion := 1
  executionKind := .source
  inputs := []
  outputs := [⟨"value", .port .int⟩]
  parameters := []
  runtimeFactory := fun _ => .ok ()
  variadicInput := none
  cachePolicy := .auto
  handlesNoData := false
  parameterValidator := none
  sourceOutputs := none

/-- A sink of levels or of arrays of them. -/
def collectNode : NodeExecutionContract Unit where
  typeId := "collect"
  implementationVersion := 1
  executionKind := .sink
  inputs := [⟨"items", .arrayTypeVariable "T" [.float, .int], true⟩]
  outputs := []
  parameters := []
  runtimeFactory := fun _ => .ok ()
  variadicInput := none
  cachePolicy := .auto
  handlesNoData := false
  parameterValidator := none
  sourceOutputs := none

/-- Without parameters and families only the names of the ports can clash. -/
theorem constructed_of_plain {definition : NodeExecutionContract ρ}
    (inputs : (definition.inputs.map InputPortSpec.id).Nodup)
    (outputs : (definition.outputs.map OutputPortSpec.id).Nodup)
    (plain : definition.parameters = []) (fixed : definition.variadicInput = none) :
    definition.Constructed := by
  refine ⟨inputs, outputs, ?_, ?_, ?_, ?_, ?_⟩ <;> simp [plain, fixed]

theorem levelNode_constructed : levelNode.Constructed :=
  constructed_of_plain List.nodup_nil (by decide) rfl rfl

theorem collectNode_constructed : collectNode.Constructed :=
  constructed_of_plain (by decide) List.nodup_nil rfl rfl

def levelDefinitions : Dict String (NodeExecutionContract Unit) :=
  (Dict.empty.insert "level" levelNode).insert "collect" collectNode

theorem levelDefinitions_entries :
    levelDefinitions.entries = [("level", levelNode), ("collect", collectNode)] := by
  rw [levelDefinitions]
  rfl

theorem levelDefinitions_keyed : Dict.Keyed NodeExecutionContract.typeId levelDefinitions := by
  intro entry member
  rw [levelDefinitions_entries, List.mem_cons, List.mem_singleton] at member
  rcases member with rfl | rfl
  · rfl
  · rfl

theorem levelDefinitions_constructed :
    ∀ entry ∈ levelDefinitions.entries, entry.2.Constructed := by
  intro entry member
  rw [levelDefinitions_entries, List.mem_cons, List.mem_singleton] at member
  rcases member with rfl | rfl
  · exact levelNode_constructed
  · exact collectNode_constructed

def levelRegistry : NodeRegistry Unit where
  definitions := levelDefinitions
  keyed := levelDefinitions_keyed
  constructed := levelDefinitions_constructed

/-- A collector of a level of an older version, and one of a current level. -/
def brokenLevels : GraphSnapshot where
  documentId := 7
  revision := 3
  nodes := [⟨1, "level", 0, Dict.empty⟩, ⟨2, "collect", 1, Dict.empty⟩,
    ⟨3, "level", 1, Dict.empty⟩, ⟨4, "collect", 1, Dict.empty⟩]
  connections := [⟨11, 1, "value", 2, "items"⟩, ⟨12, 3, "value", 4, "items"⟩]

/-- The first round leaves out the outdated level, the second one the collector
that has lost its input. -/
theorem compile_maximalRemainder_brokenLevels :
    ∃ result, compile levelRegistry brokenLevels none = .ok result ∧
      result.plan.map (fun plan => plan.nodes.map CompiledNode.nodeId) = some [3, 4] ∧
      ∃ full last final,
        CompilesRemainder levelRegistry brokenLevels none result full last final ∧
        (excludeInvalid brokenLevels full).nodes.map NodeModel.id = [2, 3, 4] := by
  have planned : (compile levelRegistry brokenLevels none).map (fun result =>
      result.plan.map (fun plan => plan.nodes.map CompiledNode.nodeId)) = .ok (some [3, 4]) := rfl
  have excluded : (validateSnapshot levelRegistry brokenLevels none).map (fun full =>
      (excludeInvalid brokenLevels full).nodes.map NodeModel.id) = .ok [2, 3, 4] := rfl
  rcases map_eq_ok.mp planned with ⟨result, compiled, nodes⟩
  rcases map_eq_ok.mp excluded with ⟨full, analyzed, left⟩
  rcases (compile_maximalRemainder levelRegistry brokenLevels none).2 result compiled with
    ⟨other, last, final, remainder⟩
  have same : full = other := Except.ok.inj (analyzed.symm.trans remainder.analyzed)
  exact ⟨result, compiled, nodes, other, last, final, remainder, same ▸ left⟩

end Graph
end Synesthesia
