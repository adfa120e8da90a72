import Synesthesia.Runtime.TypedCalls

namespace Synesthesia
namespace Runtime

open Foundation Contracts Nodes Synesthesia.Graph

/-!
# What a tick computes

The loop of `Scheduler.execute_tick` assigns values to ports, one node after
the other.  The meaning of a tick needs no order: it is the assignment of values
to ports in which every node agrees with what it reads.  A well-formed plan has
at most one such assignment; the loop finds it when there is one, and raises
when there is none.
-/

variable {ρ : Type} [NodeRuntime ρ]

/-! ## The equations of a plan -/

/-- What becomes of a node in a tick. -/
inductive NodeOutcome where
  | kept
  | starved
  | failed (failure : NodeFailure ⊕ String)
  | produced (outputs : Dict String RuntimeValue)

namespace NodeOutcome

/-- The value that the node puts on a port of its own, if it publishes. -/
def published (portId : String) : NodeOutcome → Option RuntimeValue
  | kept => none
  | starved => some .noData
  | failed _ => some .noData
  | produced outputs => some ((outputs.get? portId).getD .noData)

def failure? : NodeOutcome → Option (NodeFailure ⊕ String)
  | failed failure => some failure
  | _ => none

/-- The call was counted, which it is before the parameters are overlaid. -/
def called : NodeOutcome → Bool
  | failed _ => true
  | produced _ => true
  | _ => false

end NodeOutcome

/-- The equation of a node: what becomes of it, given the runtimes and the values
before the tick and the values of the tick itself. -/
def nodeOutcome (context : FrameContext) (runtimes : Dict UUID ρ) (initial values : PortValues)
    (node : CompiledNode ρ) : Except PyError NodeOutcome :=
  if isSkipped node initial then .ok .kept
  else do
    let inputs ← gatherInputs values node.inputBindingItems Dict.empty
    if isStarved node inputs then return .starved
    else
      match (invoke node runtimes inputs context).2 with
      | .ok outputs => return .produced outputs
      | .error failure => return .failed failure

/-- Every node agrees with what it reads, and nothing else has changed. -/
structure SolvesTick (nodes : List (CompiledNode ρ)) (context : FrameContext)
    (runtimes : Dict UUID ρ) (initial values : PortValues) : Prop where
  equations : ∀ node ∈ nodes, ∃ outcome,
    nodeOutcome context runtimes initial values node = .ok outcome ∧
      ∀ key ∈ node.outputPortKeys,
        values.get? key = (outcome.published key.portId).or (initial.get? key)
  others : ∀ key : PortKey, (∀ node ∈ nodes, key ∉ node.outputPortKeys) →
    values.get? key = initial.get? key

/-! ## A turn and the equation of its node -/

section Turn

variable {context : FrameContext} {node : CompiledNode ρ} {state : TickState ρ}
  {runtimes : Dict UUID ρ} {initial values : PortValues}

/-- The state before a turn is, for the node, the one that its equation speaks of. -/
structure Foresees (node : CompiledNode ρ) (runtimes : Dict UUID ρ) (initial values : PortValues)
    (state : TickState ρ) : Prop where
  own : ∀ key ∈ node.outputPortKeys, state.values.get? key = initial.get? key
  sources : ∀ item ∈ node.inputBindingItems,
    state.values.get? item.2.1 = values.get? item.2.1
  runtime : state.runtimes.get? node.nodeId = runtimes.get? node.nodeId
  fresh : state.invocations.get? node.nodeId = none

/-- What a turn does to the ports, the failures and the count of its node. -/
structure Carries (context : FrameContext) (node : CompiledNode ρ) (state next : TickState ρ)
    (outcome : NodeOutcome) : Prop where
  ports : ∀ key ∈ node.outputPortKeys,
    next.values.get? key = (outcome.published key.portId).or (state.values.get? key)
  failure : turnFailure context node state = outcome.failure?
  count : next.invocations.get? node.nodeId = if outcome.called then some 1 else none

/-- The equation of a node has an outcome exactly when its turn ends. -/
theorem nodeOutcome_ok_iff (foresees : Foresees node runtimes initial values state) :
    (∃ outcome, nodeOutcome context runtimes initial values node = .ok outcome) ↔
      ∃ next, turn context state node = some next := by
  have skips : isSkipped node state.values = isSkipped node initial :=
    isSkipped_congr foresees.own
  have gathers : gatherInputs state.values node.inputBindingItems Dict.empty =
      gatherInputs values node.inputBindingItems Dict.empty :=
    gatherInputs_congr foresees.sources _
  rw [turn_isSome_iff, ConvertsWithinRange, ← gatherInputs_ok_iff _ _ Dict.empty, skips, gathers,
    nodeOutcome]
  by_cases skipped : isSkipped node initial = true
  · rw [if_pos skipped]
    exact iff_of_true ⟨_, rfl⟩ (fun active => absurd active (by rw [skipped]; decide))
  · rw [if_neg skipped]
    constructor
    · rintro ⟨outcome, solved⟩ _
      rcases bind_eq_ok.mp solved with ⟨inputs, gathered, _⟩
      exact ⟨inputs, gathered⟩
    · intro gatherable
      rcases gatherable (Bool.eq_false_iff.mpr skipped) with ⟨inputs, gathered⟩
      rw [gathered]
      change ∃ outcome, (if isStarved node inputs then _ else _) = Except.ok outcome
      by_cases starved : isStarved node inputs = true
      · rw [if_pos starved]
        exact ⟨_, rfl⟩
      · rw [if_neg starved]
        cases (invoke node runtimes inputs context).2 with
        | ok outputs => exact ⟨_, rfl⟩
        | error failure => exact ⟨_, rfl⟩

theorem nodeOutcome_skipped (skipped : isSkipped node initial = true) :
    nodeOutcome context runtimes initial values node = .ok .kept := by
  rw [nodeOutcome, if_pos skipped]

/-- The outcome of a node that is not skipped, from its gathered inputs. -/
theorem nodeOutcome_active (active : isSkipped node initial = false)
    {inputs : Dict String RuntimeValue}
    (gathered : gatherInputs values node.inputBindingItems Dict.empty = .ok inputs) :
    nodeOutcome context runtimes initial values node =
      if isStarved node inputs then .ok .starved
      else
        match (invoke node runtimes inputs context).2 with
        | .ok outputs => .ok (.produced outputs)
        | .error failure => .ok (.failed failure) := by
  rw [nodeOutcome, if_neg (by rw [active]; decide), gathered]
  rfl

/-- What a turn does to its node is the outcome of the equation. -/
theorem turn_carries (foresees : Foresees node runtimes initial values state)
    {outcome : NodeOutcome}
    (solved : nodeOutcome context runtimes initial values node = .ok outcome)
    {next : TickState ρ} (taken : turn context state node = some next) :
    Carries context node state next outcome := by
  have skips : isSkipped node state.values = isSkipped node initial :=
    isSkipped_congr foresees.own
  have gathers : gatherInputs state.values node.inputBindingItems Dict.empty =
      gatherInputs values node.inputBindingItems Dict.empty :=
    gatherInputs_congr foresees.sources _
  rcases turn_cases taken with ⟨skipped, rfl⟩ | ⟨active, inputs, gathered, ended⟩
  · rw [nodeOutcome_skipped (skips.symm.trans skipped)] at solved
    cases solved
    refine ⟨fun key _ => rfl, ?_, foresees.fresh⟩
    rw [turnFailure, if_pos skipped]
    rfl
  · rw [nodeOutcome_active (skips.symm.trans active) (gathers.symm.trans gathered)] at solved
    rcases ended with ⟨starved, rfl⟩ | ⟨fed, rfl⟩
    · rw [if_pos starved] at solved
      cases solved
      refine ⟨?_, ?_, foresees.fresh⟩
      · intro key own
        refine (publishOutputs_get? node _ state.values key).trans ?_
        rw [if_pos own, noDataOutputs_get?]
        rfl
      · simp only [turnFailure, active, gathered, starved, Bool.false_eq_true, if_false, if_true]
        rfl
    · have same := (invoke_congr foresees.runtime inputs context).1
      rw [if_neg (by rw [fed]; decide), ← same] at solved
      have counted :
          (runNode node context inputs state).1.invocations.get? node.nodeId = some 1 := by
        rw [runNode_invocations, Dict.get?_insert_self, foresees.fresh]
        rfl
      rcases invoked : invoke node state.runtimes inputs context with ⟨after, failure | outputs⟩
      · rw [invoked] at solved
        cases solved
        refine ⟨?_, ?_, counted⟩
        · intro key own
          refine (publishOutputs_get? node _ _ key).trans ?_
          rw [if_pos own, runNode, invoked]
          exact congrArg some (noDataOutputs_get? node key.portId)
        · simp only [turnFailure, active, gathered, fed, invoked, Bool.false_eq_true, if_false]
          rfl
      · rw [invoked] at solved
        cases solved
        refine ⟨?_, ?_, counted⟩
        · intro key own
          refine (publishOutputs_get? node _ _ key).trans ?_
          rw [if_pos own, runNode, invoked]
          rfl
        · simp only [turnFailure, active, gathered, fed, invoked, Bool.false_eq_true, if_false]
          rfl

end Turn

/-! ## The loop finds a solution -/

/-- The outcome of a node is a failure. -/
def tickFailure (context : FrameContext) (runtimes : Dict UUID ρ) (initial values : PortValues)
    (node : CompiledNode ρ) : Option (NodeFailure ⊕ String) :=
  (nodeOutcome context runtimes initial values node).toOption.bind NodeOutcome.failure?

/-- The runtime of the node is called. -/
def tickCalls (context : FrameContext) (runtimes : Dict UUID ρ) (initial values : PortValues)
    (node : CompiledNode ρ) : Bool :=
  (nodeOutcome context runtimes initial values node).toOption.any NodeOutcome.called

omit [NodeRuntime ρ] in
/-- What a node reads is an output of an earlier node. -/
theorem source_port_of_item {plan : ExecutionPlan ρ} (wellFormed : WellFormedPlan plan)
    {before after : List (CompiledNode ρ)} {node : CompiledNode ρ}
    (split : plan.nodes = before ++ node :: after)
    {item : String × PortKey × Option ScalarConversion} (member : item ∈ node.inputBindingItems) :
    ∃ source ∈ before, item.2.1 ∈ source.outputPortKeys := by
  rcases exists_binding_of_item member with ⟨portId, binding, found, same⟩
  rcases wellFormed.bindings before node after split portId binding found with
    ⟨source, earlier, fitting⟩
  rcases fitting.typed with ⟨sourceType, _, isPort, _⟩
  refine ⟨source, earlier, List.mem_map.mpr ⟨binding.source.portId, ?_, ?_⟩⟩
  · exact (Dict.get?_isSome _ _).mp (by rw [isPort]; rfl)
  · rw [← same, ← fitting.identifier]

/-- Ports of no node keep their values. -/
theorem run_values_of_foreign {context : FrameContext} {nodes : List (CompiledNode ρ)}
    {key : PortKey} (foreign : ∀ node ∈ nodes, key ∉ node.outputPortKeys)
    {state final : TickState ρ} (finished : run (turn context) state nodes = some final) :
    final.values.get? key = state.values.get? key := by
  induction nodes generalizing state with
  | nil =>
      cases finished
      rfl
  | cons node rest ih =>
      rw [List.forall_mem_cons] at foreign
      rcases run_cons_eq_some.mp finished with ⟨next, taken, continued⟩
      refine (ih foreign.2 continued).trans ?_
      rcases turn_cases taken with ⟨_, rfl⟩ | ⟨_, inputs, _, ⟨_, rfl⟩ | ⟨_, rfl⟩⟩
      · rfl
      · exact (publishOutputs_get? node _ _ key).trans (if_neg foreign.1)
      · refine (publishOutputs_get? node _ _ key).trans ?_
        rw [if_neg foreign.1, runNode_values]

section Walk

variable {plan : ExecutionPlan ρ} {context : FrameContext} {start final : TickState ρ}
  (wellFormed : WellFormedPlan plan) (fresh : start.invocations = Dict.empty)

include wellFormed fresh

/-- The turn of a node in a finished walk is the one that its equation foresees. -/
theorem foresees_at_turn
    {before after : List (CompiledNode ρ)} {node : CompiledNode ρ}
    (split : plan.nodes = before ++ node :: after) {state : TickState ρ}
    (early : run (turn context) start before = some state)
    (late : run (turn context) state (node :: after) = some final) :
    Foresees node start.runtimes start.values final.values state := by
  have distinct := wellFormed.distinct
  rw [split, List.map_append, List.map_cons, List.nodup_middle, List.nodup_cons,
    List.mem_append, not_or] at distinct
  have untouched := run_alike_of_absent distinct.1.1 early
  refine ⟨?_, ?_, untouched.same.runtimes, ?_⟩
  · exact fun key own => untouched.same.values key (outputPortKeys_own own)
  · intro item member
    rcases source_port_of_item wellFormed split member with ⟨source, earlier, isPort⟩
    exact ((run_alike_settled wellFormed.distinct split late earlier).same.values item.2.1
      (outputPortKeys_own isPort)).symm
  · rw [untouched.counted, fresh, Dict.get?_empty]

/-- What a finished walk holds for a node is what the equation of the node says. -/
theorem walk_solves
    (finished : run (turn context) start plan.nodes = some final) {node : CompiledNode ρ}
    (isNode : node ∈ plan.nodes) :
    ∃ outcome, nodeOutcome context start.runtimes start.values final.values node = .ok outcome ∧
      (∀ key ∈ node.outputPortKeys,
        final.values.get? key = (outcome.published key.portId).or (start.values.get? key)) ∧
      final.invocations.get? node.nodeId = if outcome.called then some 1 else none := by
  rcases List.append_of_mem isNode with ⟨before, after, split⟩
  rw [split] at finished
  rcases run_append_eq_some.mp finished with ⟨state, early, late⟩
  rcases run_cons_eq_some.mp late with ⟨next, taken, rest⟩
  have foresees := foresees_at_turn wellFormed fresh split early late
  rcases (nodeOutcome_ok_iff foresees).mpr ⟨next, taken⟩ with ⟨outcome, solved⟩
  have carries := turn_carries foresees solved taken
  have distinct := wellFormed.distinct
  rw [split, List.map_append, List.map_cons, List.nodup_middle, List.nodup_cons,
    List.mem_append, not_or] at distinct
  have onward := run_alike_of_absent distinct.1.2 rest
  refine ⟨outcome, solved, ?_, ?_⟩
  · intro key own
    rw [onward.same.values key (outputPortKeys_own own), carries.ports key own,
      foresees.own key own]
  · rw [onward.counted, carries.count]

theorem solvesTick_of_walk
    (finished : run (turn context) start plan.nodes = some final) :
    SolvesTick plan.nodes context start.runtimes start.values final.values := by
  constructor
  · intro node isNode
    rcases walk_solves wellFormed fresh finished isNode with ⟨outcome, solved, ports, _⟩
    exact ⟨outcome, solved, ports⟩
  · exact fun key foreign => run_values_of_foreign foreign finished

/-- The records of a walk are the failures of the equations, in the order of the
plan. -/
theorem walk_errors
    {before after : List (CompiledNode ρ)} (split : plan.nodes = before ++ after)
    {state : TickState ρ} (early : run (turn context) start before = some state)
    (late : run (turn context) state after = some final) :
    final.errors = state.errors ++ after.filterMap (fun node =>
      (tickFailure context start.runtimes start.values final.values node).map
        (failureError node context)) := by
  induction after generalizing before state with
  | nil =>
      cases late
      exact (List.append_nil _).symm
  | cons node rest ih =>
      have foresees := foresees_at_turn wellFormed fresh split early late
      rcases run_cons_eq_some.mp late with ⟨next, taken, continued⟩
      rcases (nodeOutcome_ok_iff foresees).mpr ⟨next, taken⟩ with ⟨outcome, solved⟩
      have failed : turnFailure context node state =
          tickFailure context start.runtimes start.values final.values node := by
        rw [(turn_carries foresees solved taken).failure, tickFailure, solved]
        rfl
      have onward : run (turn context) start (before ++ [node]) = some next :=
        run_append_eq_some.mpr ⟨state, early, run_cons_eq_some.mpr ⟨next, taken, rfl⟩⟩
      have resplit : plan.nodes = (before ++ [node]) ++ rest := by
        rw [split, List.append_assoc, List.singleton_append]
      rw [ih resplit onward continued, turn_errors taken, failed,
        List.append_assoc, List.filterMap_cons]
      cases tickFailure context start.runtimes start.values final.values node <;> rfl

end Walk

/-! ## A solution is what the loop finds -/

section Solution

variable {plan : ExecutionPlan ρ} {context : FrameContext} {start : TickState ρ}
  {values : PortValues} (wellFormed : WellFormedPlan plan)
  (fresh : start.invocations = Dict.empty)
  (solves : SolvesTick plan.nodes context start.runtimes start.values values)

/-- In the middle of a walk: the nodes behind have the values of the solution, and
those ahead are as before the tick. -/
structure Underway (before after : List (CompiledNode ρ)) (start : TickState ρ)
    (values : PortValues) (state : TickState ρ) : Prop where
  behind : ∀ node ∈ before, ∀ key ∈ node.outputPortKeys, state.values.get? key = values.get? key
  ahead : ∀ node ∈ after, Alike node.nodeId start state

include wellFormed fresh solves

/-- From the middle of a walk, the loop goes on to the solution. -/
theorem walk_to_solution
    {before after : List (CompiledNode ρ)} (split : plan.nodes = before ++ after)
    {state : TickState ρ} (underway : Underway before after start values state) :
    ∃ final, run (turn context) state after = some final ∧
      ∀ node ∈ plan.nodes, ∀ key ∈ node.outputPortKeys,
        final.values.get? key = values.get? key := by
  induction after generalizing before state with
  | nil =>
      rw [List.append_nil] at split
      exact ⟨state, rfl, split ▸ underway.behind⟩
  | cons node rest ih =>
      have isNode : node ∈ plan.nodes := by
        rw [split]
        exact List.mem_append_right _ List.mem_cons_self
      have own := underway.ahead node List.mem_cons_self
      have foresees : Foresees node start.runtimes start.values values state := by
        refine ⟨?_, ?_, own.same.runtimes, ?_⟩
        · exact fun key isKey => own.same.values key (outputPortKeys_own isKey)
        · intro item member
          rcases source_port_of_item wellFormed split member with ⟨source, earlier, isPort⟩
          exact underway.behind source earlier item.2.1 isPort
        · rw [own.counted, fresh, Dict.get?_empty]
      rcases solves.equations node isNode with ⟨outcome, solved, ports⟩
      rcases (nodeOutcome_ok_iff foresees).mp ⟨outcome, solved⟩ with ⟨next, taken⟩
      have carries := turn_carries foresees solved taken
      have distinct := wellFormed.distinct
      rw [split, List.map_append, List.map_cons, List.nodup_middle, List.nodup_cons,
        List.mem_append, not_or] at distinct
      have apart : ∀ other ∈ before ++ rest, node.nodeId ≠ other.nodeId := by
        intro other isOther same
        rcases List.mem_append.mp isOther with earlier | later
        · exact distinct.1.1 (same ▸ List.mem_map_of_mem earlier)
        · exact distinct.1.2 (same ▸ List.mem_map_of_mem later)
      have resplit : plan.nodes = (before ++ [node]) ++ rest := by
        rw [split, List.append_assoc, List.singleton_append]
      have nextUnderway : Underway (before ++ [node]) rest start values next := by
        constructor
        · intro other isOther key isKey
          rcases List.mem_append.mp isOther with earlier | here
          · have leaves := turn_alike_of_ne (apart other (List.mem_append_left _ earlier)) taken
            rw [leaves.same.values key (outputPortKeys_own isKey)]
            exact underway.behind other earlier key isKey
          · rw [List.mem_singleton] at here
            subst here
            rw [carries.ports key isKey, ports key isKey, foresees.own key isKey]
        · intro other later
          exact (underway.ahead other (List.mem_cons_of_mem _ later)).trans
            (turn_alike_of_ne (apart other (List.mem_append_right _ later)) taken)
      rcases ih resplit nextUnderway with ⟨final, continued, agrees⟩
      exact ⟨final, run_cons_eq_some.mpr ⟨next, taken, continued⟩, agrees⟩

/-- When the equations have a solution, the loop ends in it. -/
theorem walk_of_solution :
    ∃ final, run (turn context) start plan.nodes = some final ∧
      ∀ key, final.values.get? key = values.get? key := by
  have underway : Underway [] plan.nodes start values start :=
    ⟨fun node member => absurd member List.not_mem_nil, fun node _ => Alike.refl _ _⟩
  rcases walk_to_solution wellFormed fresh solves (List.nil_append _).symm underway with
    ⟨final, finished, agrees⟩
  refine ⟨final, finished, ?_⟩
  intro key
  by_cases isPort : ∃ node ∈ plan.nodes, key ∈ node.outputPortKeys
  · rcases isPort with ⟨node, isNode, own⟩
    exact agrees node isNode key own
  · have foreign : ∀ node ∈ plan.nodes, key ∉ node.outputPortKeys :=
      fun node isNode own => isPort ⟨node, isNode, own⟩
    rw [run_values_of_foreign foreign finished, solves.others key foreign]

end Solution

namespace Scheduler

/-- What a tick of the scheduler should come to: the equations with the values
that the tick starts from. -/
def Solves (scheduler : Scheduler ρ) (context : FrameContext) (sourceValues values : PortValues) :
    Prop :=
  SolvesTick scheduler.plan.nodes context scheduler.runtimes
    (updateValues scheduler.staticCache sourceValues) values

/-- A returned tick is the only solution, with a record for every failure of the
equations and one invocation for every call of them. -/
structure Meaning (scheduler : Scheduler ρ) (context : FrameContext) (sourceValues : PortValues)
    (result : TickResult) : Prop where
  solves : scheduler.Solves context sourceValues result.values
  unique : ∀ values, scheduler.Solves context sourceValues values →
    ∀ key, values.get? key = result.values.get? key
  errors : result.errors = scheduler.plan.nodes.filterMap (fun node =>
    (tickFailure context scheduler.runtimes (updateValues scheduler.staticCache sourceValues)
      result.values node).map (failureError node context))
  counts : ∀ node ∈ scheduler.plan.nodes, result.invocationCounts.get? node.nodeId =
    if tickCalls context scheduler.runtimes (updateValues scheduler.staticCache sourceValues)
      result.values node then some 1 else none

/-- For every compiled plan, in every state of its scheduler and for all source
values: a tick returns if and only if the equations of the plan have a solution,
and what it returns is their only one. -/
theorem compiledTick_meaning {registry : NodeRegistry ρ} {snapshot : GraphSnapshot}
    {requested : Option (List UUID)} {result : CompilationResult ρ} {scheduler : Scheduler ρ}
    (compiled : compile registry snapshot requested = .ok result)
    (planned : result.plan = some scheduler.plan) (context : FrameContext)
    (sourceValues : PortValues) :
    ((∃ ticked, (scheduler.executeTick context sourceValues).2 = .ok ticked) ↔
      ∃ values, scheduler.Solves context sourceValues values) ∧
    ∀ ticked, (scheduler.executeTick context sourceValues).2 = .ok ticked →
      scheduler.Meaning context sourceValues ticked := by
  have wellFormed := wellFormed_of_compiled compiled planned
  have fresh : (scheduler.startTick sourceValues).invocations = Dict.empty := rfl
  constructor
  · rw [executeTick_returns_iff]
    constructor
    · rintro ⟨final, finished⟩
      exact ⟨final.values, solvesTick_of_walk wellFormed fresh finished⟩
    · rintro ⟨values, solves⟩
      rcases walk_of_solution wellFormed fresh solves with ⟨final, finished, _⟩
      exact ⟨final, finished⟩
  · intro ticked returned
    rcases executeTick_ok returned with ⟨final, finished, rfl, _⟩
    refine ⟨solvesTick_of_walk wellFormed fresh finished, ?_, ?_, ?_⟩
    · intro values solves key
      rcases walk_of_solution wellFormed fresh solves with ⟨other, otherFinished, agrees⟩
      rw [finished, Option.some.injEq] at otherFinished
      rw [← agrees key, ← otherFinished]
    · exact walk_errors wellFormed fresh (List.nil_append _).symm rfl finished
    · intro node isNode
      rcases walk_solves wellFormed fresh finished isNode with ⟨outcome, solved, _, counted⟩
      have calls : tickCalls context scheduler.runtimes
          (updateValues scheduler.staticCache sourceValues) final.values node = outcome.called := by
        rw [tickCalls]
        exact congrArg (fun solved => solved.toOption.any NodeOutcome.called) solved
      rw [calls]
      exact counted

end Scheduler

/-- The equations of the meter and its display have one solution, also in a tick
without source values. -/
theorem compiledTick_meaning_meter :
    ∃ ticked, (oneMeterScheduler.executeTick (FrameContext.first 1 0) Dict.empty).2 = .ok ticked ∧
      oneMeterScheduler.Meaning (FrameContext.first 1 0) Dict.empty ticked := by
  rcases map_eq_ok.mp compile_oneMeter with ⟨result, compiled, planned⟩
  have returns : (oneMeterScheduler.executeTick (FrameContext.first 1 0) Dict.empty).2.isOk =
      true := by decide +kernel
  rcases exists_of_isOk returns with ⟨ticked, returned⟩
  exact ⟨ticked, returned, (Scheduler.compiledTick_meaning compiled planned
    (FrameContext.first 1 0) Dict.empty).2 ticked returned⟩

end Runtime
end Synesthesia
