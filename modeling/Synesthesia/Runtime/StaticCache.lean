import Synesthesia.Runtime.FailureContainment

namespace Synesthesia
namespace Runtime

open Foundation Contracts Nodes Synesthesia.Graph

/-!
# The static cache

A static node runs once; afterwards its outputs come from the cache.  This is
the same as running it on every tick while two things hold: the node did not
fail, because a failure is recorded only when it happens and the cache keeps
the `NoData` it left, and the node would still find the inputs it was run on.
-/

variable {ρ : Type} [NodeRuntime ρ]

/-! ## Runtimes without state -/

/-- A runtime whose answers depend on its inputs and parameters only. -/
structure Stateless (runtime : ρ) : Prop where
  answers : ∀ inputs parameters (first second : FrameContext),
    NodeRuntime.process runtime inputs parameters first =
      NodeRuntime.process runtime inputs parameters second
  keeps : ∀ inputs parameters (context : FrameContext),
    (NodeRuntime.process runtime inputs parameters context).1 = runtime
  reset : ∀ reason, (NodeRuntime.reset runtime reason).1 = runtime

/-- What a node that is not skipped makes of its inputs: the runtimes after it,
its outputs and its failure. -/
def work (node : CompiledNode ρ) (inputs : Dict String RuntimeValue) (context : FrameContext)
    (runtimes : Dict UUID ρ) :
    Dict UUID ρ × Dict String RuntimeValue × Option (NodeFailure ⊕ String) :=
  if isStarved node inputs then (runtimes, noDataOutputs node, none)
  else
    match invoke node runtimes inputs context with
    | (runtimes, .ok outputs) => (runtimes, outputs, none)
    | (runtimes, .error failure) => (runtimes, noDataOutputs node, some failure)

variable {node : CompiledNode ρ}

theorem tickNode_active (context : FrameContext) {state : TickState ρ}
    (active : isSkipped node state.values = false) {inputs : Dict String RuntimeValue}
    (gathered : gatherInputs state.values node.inputBindingItems Dict.empty = .ok inputs) :
    ∃ invocations, tickNode context node state = ({
      runtimes := (work node inputs context state.runtimes).1
      staticCache := cacheOutputs node
        (publishOutputs node (work node inputs context state.runtimes).2.1 state.values)
        state.staticCache
      values := publishOutputs node (work node inputs context state.runtimes).2.1 state.values
      errors := state.errors ++
        ((work node inputs context state.runtimes).2.2.map (failureError node context)).toList
      invocations := invocations }, .ok ()) := by
  unfold tickNode work
  rw [active, gathered]
  by_cases starved : isStarved node inputs = true
  · simp only [starved, if_true, Bool.false_eq_true, if_false]
    exact ⟨state.invocations, by simp⟩
  · simp only [starved, Bool.false_eq_true, if_false]
    unfold runNode
    rcases invoke node state.runtimes inputs context with ⟨runtimes, outcome⟩
    cases outcome with
    | error failure => exact ⟨_, rfl⟩
    | ok outputs =>
        exact ⟨state.invocations.insert node.nodeId
          ((state.invocations.get? node.nodeId).getD 0 + 1), by simp⟩

/-- The work of a node depends on its own runtime only. -/
theorem work_congr {left right : Dict UUID ρ}
    (same : right.get? node.nodeId = left.get? node.nodeId) (inputs : Dict String RuntimeValue)
    (context : FrameContext) :
    (work node inputs context right).2 = (work node inputs context left).2 := by
  have outcomes := (invoke_congr same inputs context).1
  unfold work
  split
  · rfl
  · rcases first : invoke node left inputs context with ⟨leftRuntimes, leftOutcome⟩
    rcases second : invoke node right inputs context with ⟨rightRuntimes, rightOutcome⟩
    rw [first, second] at outcomes
    cases outcomes
    cases leftOutcome <;> rfl

theorem work_runtimes_other (node : CompiledNode ρ) (inputs : Dict String RuntimeValue)
    (context : FrameContext) (runtimes : Dict UUID ρ) {nodeId : UUID}
    (different : nodeId ≠ node.nodeId) :
    (work node inputs context runtimes).1.get? nodeId = runtimes.get? nodeId := by
  have stored : (work node inputs context runtimes).1 = runtimes ∨
      (work node inputs context runtimes).1 = (invoke node runtimes inputs context).1 := by
    unfold work
    split
    · exact Or.inl rfl
    · right
      split <;> simp_all
  rcases stored with same | invoked
  · rw [same]
  · rw [invoked]
    rcases invoke_runtimes node runtimes inputs context with same | ⟨runtime, inserted⟩
    · rw [same]
    · rw [inserted, Dict.get?_insert_of_ne runtime different]

variable {runtimes : Dict UUID ρ}

/-- Without state, an invocation leaves all runtimes as they are and does not
depend on the tick. -/
theorem invoke_stateless
    (stateless : ∀ runtime, runtimes.get? node.nodeId = some runtime → Stateless runtime)
    (inputs : Dict String RuntimeValue) (first second : FrameContext) :
    (invoke node runtimes inputs first).1 = runtimes ∧
      (invoke node runtimes inputs second).2 = (invoke node runtimes inputs first).2 := by
  unfold invoke
  cases effectiveParameters node inputs with
  | error failure => exact ⟨rfl, rfl⟩
  | ok effective =>
      rcases effective with ⟨inputs, parameters⟩
      dsimp only
      cases found : runtimes.get? node.nodeId with
      | none => exact ⟨rfl, rfl⟩
      | some runtime =>
          have pure := stateless runtime found
          have kept := pure.keeps inputs parameters first
          dsimp only
          rw [pure.answers inputs parameters second first]
          rcases processed : NodeRuntime.process runtime inputs parameters first with
            ⟨after, returned⟩
          rw [processed] at kept
          dsimp only at kept ⊢
          subst kept
          rw [Dict.insert_of_get? found]
          cases returned with
          | error failure => exact ⟨rfl, rfl⟩
          | ok outputs =>
              dsimp only
              cases convertFloatOutputs node.floatOutputPorts outputs with
              | error error => exact ⟨rfl, rfl⟩
              | ok outputs =>
                  dsimp only
                  cases validateOutputs node outputs with
                  | error message => exact ⟨rfl, rfl⟩
                  | ok _ => exact ⟨rfl, rfl⟩

theorem work_stateless
    (stateless : ∀ runtime, runtimes.get? node.nodeId = some runtime → Stateless runtime)
    (inputs : Dict String RuntimeValue) (first second : FrameContext) :
    (work node inputs first runtimes).1 = runtimes ∧
      (work node inputs second runtimes).2 = (work node inputs first runtimes).2 := by
  rcases invoke_stateless stateless inputs first second with ⟨kept, same⟩
  unfold work
  split
  · exact ⟨rfl, rfl⟩
  · rcases early : invoke node runtimes inputs first with ⟨firstRuntimes, firstOutcome⟩
    rcases late : invoke node runtimes inputs second with ⟨secondRuntimes, secondOutcome⟩
    rw [early] at kept same
    rw [late] at same
    cases same
    cases firstOutcome <;> exact ⟨kept, rfl⟩

/-! ## What the cache was computed from -/

/-- The inputs that the cached outputs of a static node were computed from, and
whether the node failed on them. -/
structure Computed where
  inputs : Dict String RuntimeValue
  failed : Bool

/-- One entry for each static node that has run since the cache was cleared. -/
abbrev Memory := Dict UUID Computed

/-- Remember the run of a static node. -/
def remember (context : FrameContext) (node : CompiledNode ρ) (state : TickState ρ)
    (memory : Memory) : Memory :=
  if node.isStatic = true ∧ isSkipped node state.values = false then
    match gatherInputs state.values node.inputBindingItems Dict.empty with
    | .ok inputs =>
        memory.insert node.nodeId ⟨inputs, (work node inputs context state.runtimes).2.2.isSome⟩
    | .error _ => memory
  else memory

def rememberAll (context : FrameContext) :
    List (CompiledNode ρ) → TickState ρ → Memory → Memory
  | [], _, memory => memory
  | node :: rest, state, memory =>
      match tickNode context node state with
      | (next, .ok ()) => rememberAll context rest next (remember context node state memory)
      | (_, .error _) => memory

/-- A scheduler beside what its cache was computed from. -/
structure Watched (ρ : Type) where
  scheduler : Scheduler ρ
  memory : Memory

inductive Command where
  | tick (tick : Tick)
  | resetSource (clockId : UUID) (reason : ResetReason)
  | resetAll (reason : ResetReason)

namespace Watched

def step (watched : Watched ρ) : Command → Option (Watched ρ)
  | .tick tick => some {
      scheduler := (watched.scheduler.executeTick tick.context tick.sourceValues).1
      memory := rememberAll tick.context watched.scheduler.plan.nodes
        (watched.scheduler.startTick tick.sourceValues) watched.memory }
  | .resetSource clockId reason =>
      some { watched with scheduler := (watched.scheduler.resetSource clockId reason).1 }
  | .resetAll reason => some {
      scheduler := (watched.scheduler.resetAll reason).1
      memory :=
        match (watched.scheduler.resetAll reason).2.2 with
        | .ok () => Dict.empty
        | .error _ => watched.memory }

end Watched

/-- A static node with outputs that has run did not fail, and would find the
inputs that it was run on. -/
def StillValid (memory : Memory) (state : TickState ρ) (node : CompiledNode ρ) : Prop :=
  node.isStatic = true → node.isDemanded = true → node.outputPortKeys ≠ [] →
    ∀ computed, memory.get? node.nodeId = some computed →
      computed.failed = false ∧
        gatherInputs state.values node.inputBindingItems Dict.empty = .ok computed.inputs

/-- Every static node is still valid at its turn. -/
def CacheValid (watched : Watched ρ) : Command → Prop
  | .tick tick => Meets (turn tick.context) (StillValid watched.memory)
      (watched.scheduler.startTick tick.sourceValues) watched.scheduler.plan.nodes
  | .resetSource _ _ => True
  | .resetAll _ => True

/-! ## Recomputing -/

namespace Scheduler

/-- A tick that computes every demanded node afresh. -/
def recomputeTick (scheduler : Scheduler ρ) (context : FrameContext) (sourceValues : PortValues) :
    Scheduler ρ × Except PyError TickResult :=
  { scheduler with staticCache := Dict.empty }.executeTick context sourceValues

/-- What the ticks of a sequence of commands return, each tick being executed
as given. -/
def outcomes (execute : Scheduler ρ → FrameContext → PortValues →
    Scheduler ρ × Except PyError TickResult) :
    Scheduler ρ → List Command → List (Except PyError TickResult)
  | _, [] => []
  | scheduler, .tick tick :: rest =>
      (execute scheduler tick.context tick.sourceValues).2 ::
        outcomes execute (execute scheduler tick.context tick.sourceValues).1 rest
  | scheduler, .resetSource clockId reason :: rest =>
      outcomes execute (scheduler.resetSource clockId reason).1 rest
  | scheduler, .resetAll reason :: rest => outcomes execute (scheduler.resetAll reason).1 rest

/-- Two ticks raise the same, or return the same values and the same errors. -/
def SameOutcome : Except PyError TickResult → Except PyError TickResult → Prop
  | .ok left, .ok right =>
      (∀ key, right.values.get? key = left.values.get? key) ∧ right.errors = left.errors
  | .error left, .error right => right = left
  | _, _ => False

/-- The cache cannot be told from recomputing. -/
def Transparent (scheduler : Scheduler ρ) (commands : List Command) : Prop :=
  List.Forall₂ SameOutcome (outcomes executeTick scheduler commands)
    (outcomes recomputeTick scheduler commands)

end Scheduler

/-- No node reads a port of itself or of a later node. -/
def Causal : List (CompiledNode ρ) → Prop
  | [] => True
  | node :: rest =>
      (∀ item ∈ node.inputBindingItems, item.2.1.nodeId ∉ (node :: rest).map CompiledNode.nodeId) ∧
        Causal rest

/-! ## The cache holds what was computed -/

/-- The cache holds the outputs of the static nodes that are remembered, as
computed from the remembered inputs, and nothing else. -/
structure Kept (nodes : List (CompiledNode ρ)) (runtimes : Dict UUID ρ) (cache : PortValues)
    (memory : Memory) : Prop where
  stateless : ∀ node ∈ nodes, node.isStatic = true → ∀ runtime,
    runtimes.get? node.nodeId = some runtime → Stateless runtime
  cached : ∀ key ∈ cache.keys, ∃ node ∈ nodes, node.isStatic = true ∧ node.isDemanded = true ∧
    key ∈ node.outputPortKeys ∧ (memory.get? node.nodeId).isSome = true
  computed : ∀ node ∈ nodes, node.isStatic = true → ∀ computed,
    memory.get? node.nodeId = some computed → ∀ context,
      (∀ key ∈ node.outputPortKeys, cache.get? key =
        some (((work node computed.inputs context runtimes).2.1.get? key.portId).getD .noData)) ∧
      computed.failed = (work node computed.inputs context runtimes).2.2.isSome

variable {nodes : List (CompiledNode ρ)} {memory : Memory}

/-- The cache is kept while the runtimes of static nodes are. -/
theorem Kept.of_runtimes {runtimes after : Dict UUID ρ}
    {cache : PortValues} (kept : Kept nodes runtimes cache memory)
    (same : ∀ node ∈ nodes, node.isStatic = true →
      after.get? node.nodeId = runtimes.get? node.nodeId) : Kept nodes after cache memory := by
  refine ⟨?_, kept.cached, ?_⟩
  · intro node member static runtime found
    exact kept.stateless node member static runtime ((same node member static).symm.trans found)
  · intro node member static computed known context
    rw [work_congr (same node member static)]
    exact kept.computed node member static computed known context

omit [NodeRuntime ρ] in
theorem cacheOutputs_get? (static : node.isStatic = true)
    (values cache : PortValues) (key : PortKey) :
    (cacheOutputs node values cache).get? key =
      if key ∈ node.outputPortKeys then some ((values.get? key).getD .noData)
      else cache.get? key := by
  have assigned := get?_assignPorts node.nodeId node.outputTypes.keys
    (fun portId => (values.get? ⟨node.nodeId, portId⟩).getD .noData) cache key
  have sameFold : cacheOutputs node values cache =
      (node.outputTypes.keys.map (fun portId => (portId, PortKey.mk node.nodeId portId))).foldl
        (fun cache item =>
          cache.insert item.2 ((values.get? ⟨node.nodeId, item.1⟩).getD .noData)) cache := by
    rw [cacheOutputs, if_pos static, CompiledNode.outputPortItems, List.foldl_map, List.foldl_map]
  rw [sameFold, assigned]
  by_cases own : key ∈ node.outputPortKeys
  · have named : (⟨node.nodeId, key.portId⟩ : PortKey) = key := by
      rw [← outputPortKeys_own own]
    rw [if_pos own, if_pos (show key ∈ node.outputTypes.keys.map _ from own), named]
  · rw [if_neg own, if_neg (show key ∉ node.outputTypes.keys.map _ from own)]

variable {context : FrameContext}

/-- A turn keeps the cache: it holds what the node has just computed. -/
theorem Kept.turn {state next : TickState ρ}
    (kept : Kept nodes state.runtimes state.staticCache memory)
    (distinct : (nodes.map CompiledNode.nodeId).Nodup) (member : node ∈ nodes)
    (taken : tickNode context node state = (next, .ok ())) :
    Kept nodes next.runtimes next.staticCache (remember context node state memory) := by
  by_cases skipped : isSkipped node state.values = true
  · rw [tickNode, if_pos skipped] at taken
    cases taken
    rw [remember, if_neg (by simp [skipped])]
    exact kept
  · have active := Bool.eq_false_iff.mpr skipped
    cases gathered : gatherInputs state.values node.inputBindingItems Dict.empty with
    | error error =>
        rw [tickNode, if_neg skipped, gathered] at taken
        cases taken
    | ok inputs =>
        rcases tickNode_active context active gathered with ⟨invocations, result⟩
        cases result.symm.trans taken
        dsimp only
        have sameNode : ∀ other ∈ nodes, other.nodeId = node.nodeId → other = node :=
          fun other isOther same => List.inj_on_of_nodup_map distinct isOther member same
        by_cases static : node.isStatic = true
        · have alone := work_stateless (kept.stateless node member static) inputs context
          rw [(alone context).1, remember, if_pos ⟨static, active⟩, gathered]
          dsimp only
          refine ⟨kept.stateless, ?_, ?_⟩
          · intro key cached
            rw [← Dict.get?_isSome, cacheOutputs_get? static] at cached
            by_cases own : key ∈ node.outputPortKeys
            · have demanded : node.isDemanded = true := by
                rw [isSkipped, Bool.or_eq_false_iff, Bool.not_eq_false'] at active
                exact active.1
              exact ⟨node, member, static, demanded, own, by rw [Dict.get?_insert_self]; rfl⟩
            · rw [if_neg own, Dict.get?_isSome] at cached
              rcases kept.cached key cached with ⟨other, isOther, isStatic, demanded, port, known⟩
              refine ⟨other, isOther, isStatic, demanded, port, ?_⟩
              by_cases same : other.nodeId = node.nodeId
              · rw [same, Dict.get?_insert_self]
                rfl
              · rwa [Dict.get?_insert_of_ne _ same]
          · intro other isOther isStatic computed known later
            by_cases same : other.nodeId = node.nodeId
            · cases sameNode other isOther same
              rw [Dict.get?_insert_self, Option.some.injEq] at known
              subst known
              rw [(alone later).2]
              refine ⟨?_, rfl⟩
              intro key own
              rw [cacheOutputs_get? static, if_pos own, publishOutputs_get?, if_pos own,
                Option.getD_some]
            · rw [Dict.get?_insert_of_ne _ same] at known
              rcases kept.computed other isOther isStatic computed known later with ⟨values, failed⟩
              refine ⟨?_, failed⟩
              intro key own
              rw [cacheOutputs_get? static, if_neg, values key own]
              intro foreign
              exact same ((outputPortKeys_own own).symm.trans (outputPortKeys_own foreign))
        · rw [cacheOutputs, if_neg static, remember, if_neg (fun both => static both.1)]
          apply kept.of_runtimes
          intro other isOther isStatic
          apply work_runtimes_other
          intro same
          exact static (sameNode other isOther same ▸ isStatic)

/-- A tick keeps the cache, also when an exception escapes it. -/
theorem Kept.tickNodes {nodes rest : List (CompiledNode ρ)}
    {state : TickState ρ}
    (kept : Kept nodes state.runtimes state.staticCache memory)
    (distinct : (nodes.map CompiledNode.nodeId).Nodup) (inside : ∀ node ∈ rest, node ∈ nodes) :
    Kept nodes (tickNodes context rest state).1.runtimes
      (tickNodes context rest state).1.staticCache
      (rememberAll context rest state memory) := by
  induction rest generalizing state memory with
  | nil => exact kept
  | cons node rest ih =>
      rw [Runtime.tickNodes, rememberAll]
      rcases ticked : tickNode context node state with ⟨next, outcome⟩
      cases outcome with
      | error error =>
          rcases tickNode_cases context node state with
            ⟨same, _⟩ | ⟨_, _, failed⟩ | ⟨_, _, _, _, _, _, published⟩
          · cases same.symm.trans ticked
          · cases failed.symm.trans ticked
            exact kept
          · cases published.symm.trans ticked
      | ok _ =>
          exact ih (kept.turn distinct (inside node List.mem_cons_self) ticked)
            (fun other member => inside other (List.mem_cons_of_mem _ member))

omit [NodeRuntime ρ] in
/-- Reset calls keep the runtimes that a reset does not change. -/
theorem visitRuntimes_get?_of_kept {call? : ρ → Option (ρ × Except PyError Unit)} {nodeId : UUID}
    (ids : List UUID)
    (keeps : ∀ runtime, runtimes.get? nodeId = some runtime →
      ∀ after outcome, call? runtime = some (after, outcome) → after = runtime) :
    (Scheduler.visitRuntimes call? ids runtimes).1.get? nodeId = runtimes.get? nodeId := by
  induction ids generalizing runtimes with
  | nil => rfl
  | cons id rest ih =>
      rw [Scheduler.visitRuntimes]
      cases found : runtimes.get? id with
      | none => rfl
      | some runtime =>
          dsimp only
          cases called : call? runtime with
          | none => exact ih keeps
          | some result =>
              rcases result with ⟨after, outcome⟩
              have stored : (runtimes.insert id after).get? nodeId = runtimes.get? nodeId := by
                by_cases same : nodeId = id
                · subst same
                  rw [Dict.get?_insert_self, found, keeps runtime found after outcome called]
                · exact Dict.get?_insert_of_ne after same
              cases outcome with
              | error error => exact stored
              | ok _ =>
                  refine Eq.trans ?_ stored
                  apply ih
                  intro other isOther
                  exact keeps other (stored.symm.trans isOther)

/-! ## A tick beside a tick that recomputes -/

/-- Two ticks before the remaining turns: the values agree except on the static
nodes still to come, which one tick finds in its cache and the other lacks. -/
structure Mirrors (rest : List (CompiledNode ρ)) (left right : TickState ρ) : Prop where
  runtimes : right.runtimes = left.runtimes
  errors : right.errors = left.errors
  settled : ∀ key : PortKey,
    (∀ node ∈ rest, node.isStatic = true → node.nodeId ≠ key.nodeId) →
      right.values.get? key = left.values.get? key
  awaited : ∀ node ∈ rest, node.isStatic = true → ∀ key : PortKey, key.nodeId = node.nodeId →
    right.values.get? key = none ∧ left.values.get? key = left.staticCache.get? key

variable {rest : List (CompiledNode ρ)}

omit [NodeRuntime ρ] in
/-- A node whose turn changes the same values on both sides is behind them. -/
theorem Mirrors.advance
    {left right leftNext rightNext : TickState ρ} (mirrors : Mirrors (node :: rest) left right)
    (distinct : ((node :: rest).map CompiledNode.nodeId).Nodup)
    (runtimes : rightNext.runtimes = leftNext.runtimes)
    (errors : rightNext.errors = leftNext.errors)
    (own : ∀ key : PortKey, key.nodeId = node.nodeId →
      rightNext.values.get? key = leftNext.values.get? key)
    (leftOther : ∀ key : PortKey, key.nodeId ≠ node.nodeId →
      leftNext.values.get? key = left.values.get? key ∧
        leftNext.staticCache.get? key = left.staticCache.get? key)
    (rightOther : ∀ key : PortKey, key.nodeId ≠ node.nodeId →
      rightNext.values.get? key = right.values.get? key) :
    Mirrors rest leftNext rightNext := by
  rw [List.map_cons, List.nodup_cons] at distinct
  refine ⟨runtimes, errors, ?_, ?_⟩
  · intro key apart
    by_cases here : key.nodeId = node.nodeId
    · exact own key here
    · rw [rightOther key here, (leftOther key here).1]
      apply mirrors.settled
      intro other member static
      rcases List.mem_cons.mp member with rfl | later
      · exact Ne.symm here
      · exact apart other later static
  · intro other member static key isKey
    have elsewhere : key.nodeId ≠ node.nodeId := by
      intro here
      exact distinct.1 (List.mem_map.mpr ⟨other, member, isKey.symm.trans here⟩)
    rcases mirrors.awaited other (List.mem_cons_of_mem _ member) static key isKey with
      ⟨absent, fromCache⟩
    rw [rightOther key elsewhere, (leftOther key elsewhere).1, (leftOther key elsewhere).2]
    exact ⟨absent, fromCache⟩

variable {key : PortKey}

omit [NodeRuntime ρ] in
theorem cacheOutputs_get?_of_ne (values cache : PortValues)
    (different : key.nodeId ≠ node.nodeId) :
    (cacheOutputs node values cache).get? key = cache.get? key := by
  by_cases static : node.isStatic = true
  · rw [cacheOutputs_get? static, if_neg (fun own => different (outputPortKeys_own own))]
  · rw [cacheOutputs, if_neg static]

omit [NodeRuntime ρ] in
theorem publishOutputs_get?_of_ne (outputs : Dict String RuntimeValue)
    (values : PortValues) (different : key.nodeId ≠ node.nodeId) :
    (publishOutputs node outputs values).get? key = values.get? key := by
  rw [publishOutputs_get?, if_neg (fun own => different (outputPortKeys_own own))]

variable {left right : TickState ρ}

/-- The turn of a node that both sides run. -/
theorem Mirrors.runs (mirrors : Mirrors (node :: rest) left right)
    (distinct : ((node :: rest).map CompiledNode.nodeId).Nodup)
    (own : ∀ key : PortKey, key.nodeId = node.nodeId → key ∉ node.outputPortKeys →
      right.values.get? key = left.values.get? key)
    (leftActive : isSkipped node left.values = false)
    (rightActive : isSkipped node right.values = false)
    (gathers : gatherInputs right.values node.inputBindingItems Dict.empty =
      gatherInputs left.values node.inputBindingItems Dict.empty) :
    (tickNode context node right).2 = (tickNode context node left).2 ∧
      (tickNode context node right).1.runtimes = (tickNode context node left).1.runtimes ∧
      ((tickNode context node left).2 = .ok () →
        Mirrors rest (tickNode context node left).1 (tickNode context node right).1) := by
  cases gathered : gatherInputs left.values node.inputBindingItems Dict.empty with
  | error error =>
      rw [gathered] at gathers
      have leftRaises : tickNode context node left = (left, .error error) := by
        rw [tickNode, leftActive, gathered]
        rfl
      have rightRaises : tickNode context node right = (right, .error error) := by
        rw [tickNode, rightActive, gathers]
        rfl
      rw [leftRaises, rightRaises]
      exact ⟨rfl, mirrors.runtimes, fun impossible => by cases impossible⟩
  | ok inputs =>
      rw [gathered] at gathers
      rcases tickNode_active context leftActive gathered with ⟨leftCount, leftTurn⟩
      rcases tickNode_active context rightActive gathers with ⟨rightCount, rightTurn⟩
      rw [mirrors.runtimes] at rightTurn
      rw [leftTurn, rightTurn]
      refine ⟨rfl, rfl, fun _ => mirrors.advance distinct rfl ?_ ?_ ?_ ?_⟩
      · dsimp only
        rw [mirrors.errors]
      · intro key isOwn
        dsimp only
        rw [publishOutputs_get?, publishOutputs_get?]
        by_cases port : key ∈ node.outputPortKeys
        · rw [if_pos port, if_pos port]
        · rw [if_neg port, if_neg port, own key isOwn port]
      · intro key different
        exact ⟨publishOutputs_get?_of_ne _ _ different, cacheOutputs_get?_of_ne _ _ different⟩
      · intro key different
        exact publishOutputs_get?_of_ne _ _ different

omit [NodeRuntime ρ] in
theorem isSkipped_of_absent {values : PortValues}
    (demanded : node.isDemanded = true)
    (absent : ∀ key ∈ node.outputPortKeys, values.get? key = none) :
    isSkipped node values = false := by
  rw [isSkipped, demanded, Bool.not_true, Bool.false_or]
  cases ports : node.outputTypes.keys with
  | nil => rfl
  | cons portId rest =>
      have isKey : (⟨node.nodeId, portId⟩ : PortKey) ∈ node.outputPortKeys := by
        rw [CompiledNode.outputPortKeys, ports]
        exact List.mem_cons_self
      have missing := (Dict.get?_eq_none values _).mp (absent _ isKey)
      rw [List.isEmpty_cons, Bool.not_false, Bool.true_and, List.all_eq_false]
      exact ⟨_, isKey, by simpa using missing⟩

omit [NodeRuntime ρ] in
theorem isSkipped_of_present {values : PortValues}
    (ports : node.outputPortKeys ≠ [])
    (present : ∀ key ∈ node.outputPortKeys, (values.get? key).isSome = true) :
    isSkipped node values = true := by
  have hasPorts : node.outputTypes.keys.isEmpty = false := by
    rw [List.isEmpty_eq_false_iff]
    intro none
    exact ports (by rw [CompiledNode.outputPortKeys, none, List.map_nil])
  rw [isSkipped, hasPorts, Bool.not_false, Bool.true_and, Bool.or_eq_true, List.all_eq_true]
  right
  intro key member
  exact decide_eq_true ((Dict.get?_isSome values key).mp (present key member))

/-- What is not cached for a static node to come is on neither side. -/
theorem Mirrors.absent (mirrors : Mirrors (node :: rest) left right)
    (kept : Kept nodes left.runtimes left.staticCache memory) (static : node.isStatic = true)
    (own : key.nodeId = node.nodeId)
    (uncached : ∀ other ∈ nodes, other.nodeId = node.nodeId → other.isDemanded = true →
      key ∈ other.outputPortKeys → (memory.get? node.nodeId).isSome = true → False) :
    right.values.get? key = none ∧ left.values.get? key = none := by
  rcases mirrors.awaited node List.mem_cons_self static key own with ⟨missing, fromCache⟩
  refine ⟨missing, ?_⟩
  rw [fromCache, Dict.get?_eq_none]
  intro cached
  rcases kept.cached key cached with ⟨other, member, _, demanded, port, known⟩
  have same : other.nodeId = node.nodeId := (outputPortKeys_own port).symm.trans own
  exact uncached other member same demanded port (same ▸ known)

/-- One turn on both sides. -/
theorem Mirrors.step (context : FrameContext)
    (mirrors : Mirrors (node :: rest) left right)
    (nodesDistinct : (nodes.map CompiledNode.nodeId).Nodup) (member : node ∈ nodes)
    (distinct : ((node :: rest).map CompiledNode.nodeId).Nodup)
    (causal : ∀ item ∈ node.inputBindingItems,
      item.2.1.nodeId ∉ (node :: rest).map CompiledNode.nodeId)
    (kept : Kept nodes left.runtimes left.staticCache memory)
    (valid : StillValid memory left node) :
    (tickNode context node right).2 = (tickNode context node left).2 ∧
      (tickNode context node right).1.runtimes = (tickNode context node left).1.runtimes ∧
      ((tickNode context node left).2 = .ok () →
        Mirrors rest (tickNode context node left).1 (tickNode context node right).1) := by
  have gathers : gatherInputs right.values node.inputBindingItems Dict.empty =
      gatherInputs left.values node.inputBindingItems Dict.empty := by
    apply gatherInputs_congr
    intro item isItem
    apply mirrors.settled
    intro other isOther _ same
    exact causal item isItem (List.mem_map.mpr ⟨other, isOther, same⟩)
  have sameNode : ∀ other ∈ nodes, other.nodeId = node.nodeId → other = node :=
    fun other isOther same => List.inj_on_of_nodup_map nodesDistinct isOther member same
  have bothSkip : isSkipped node left.values = true → isSkipped node right.values = true →
      (∀ key : PortKey, key.nodeId = node.nodeId →
        right.values.get? key = left.values.get? key) →
      (tickNode context node right).2 = (tickNode context node left).2 ∧
        (tickNode context node right).1.runtimes = (tickNode context node left).1.runtimes ∧
        ((tickNode context node left).2 = .ok () →
          Mirrors rest (tickNode context node left).1 (tickNode context node right).1) := by
    intro leftSkips rightSkips own
    rw [tickNode, tickNode, if_pos leftSkips, if_pos rightSkips]
    exact ⟨rfl, mirrors.runtimes, fun _ => mirrors.advance distinct mirrors.runtimes
      mirrors.errors own (fun _ _ => ⟨rfl, rfl⟩) (fun _ _ => rfl)⟩
  by_cases static : node.isStatic = true
  · by_cases demanded : node.isDemanded = true
    · cases known : memory.get? node.nodeId with
      | none =>
          -- both sides run it for the first time
          have absent : ∀ key : PortKey, key.nodeId = node.nodeId →
              right.values.get? key = none ∧ left.values.get? key = none := by
            intro key own
            apply mirrors.absent kept static own
            intro _ _ _ _ _ impossible
            rw [known] at impossible
            cases impossible
          exact mirrors.runs distinct
            (fun key own _ => (absent key own).1.trans (absent key own).2.symm)
            (isSkipped_of_absent demanded
              (fun key port => (absent key (outputPortKeys_own port)).2))
            (isSkipped_of_absent demanded
              (fun key port => (absent key (outputPortKeys_own port)).1))
            gathers
      | some computed =>
          by_cases ports : node.outputPortKeys = []
          · -- without outputs there is nothing to find in the cache
            have absent : ∀ key : PortKey, key.nodeId = node.nodeId →
                right.values.get? key = none ∧ left.values.get? key = none := by
              intro key own
              apply mirrors.absent kept static own
              intro other isOther same _ port _
              rw [sameNode other isOther same, ports] at port
              exact List.not_mem_nil port
            exact mirrors.runs distinct
              (fun key own _ => (absent key own).1.trans (absent key own).2.symm)
              (isSkipped_of_absent demanded
                (fun key port => (absent key (outputPortKeys_own port)).2))
              (isSkipped_of_absent demanded
                (fun key port => (absent key (outputPortKeys_own port)).1)) gathers
          · -- one side finds it in the cache, the other computes the same again
            rcases valid static demanded ports computed known with ⟨succeeded, gathered⟩
            rcases kept.computed node member static computed known context with ⟨values, failed⟩
            rw [succeeded] at failed
            have noFailure : (work node computed.inputs context left.runtimes).2.2 = none :=
              Option.not_isSome_iff_eq_none.mp (by rw [← failed]; exact Bool.false_ne_true)
            have alone := (work_stateless (kept.stateless node member static) computed.inputs
              context context).1
            have cachedValues : ∀ key ∈ node.outputPortKeys, left.values.get? key =
                some (((work node computed.inputs context left.runtimes).2.1.get?
                  key.portId).getD .noData) := by
              intro key port
              rw [(mirrors.awaited node List.mem_cons_self static key (outputPortKeys_own port)).2]
              exact values key port
            have leftSkips : isSkipped node left.values = true :=
              isSkipped_of_present ports (fun key port => by rw [cachedValues key port]; rfl)
            have rightActive : isSkipped node right.values = false :=
              isSkipped_of_absent demanded (fun key port =>
                (mirrors.awaited node List.mem_cons_self static key (outputPortKeys_own port)).1)
            rcases tickNode_active context rightActive (gathers.trans gathered) with
              ⟨invocations, computes⟩
            rw [mirrors.runtimes, noFailure, alone] at computes
            rw [computes, tickNode, if_pos leftSkips]
            refine ⟨rfl, rfl, fun _ => mirrors.advance distinct rfl ?_ ?_
              (fun _ _ => ⟨rfl, rfl⟩) ?_⟩
            · exact (List.append_nil _).trans mirrors.errors
            · intro key own
              dsimp only
              rw [publishOutputs_get?]
              by_cases port : key ∈ node.outputPortKeys
              · rw [if_pos port, cachedValues key port]
              · have absent := mirrors.absent kept static own (by
                  intro other isOther same _ isPort _
                  exact port (sameNode other isOther same ▸ isPort))
                rw [if_neg port, absent.1, absent.2]
            · intro key different
              exact publishOutputs_get?_of_ne _ _ different
    · -- nobody demands it, so nothing of it is cached
      have idle := Bool.eq_false_iff.mpr demanded
      apply bothSkip (isSkipped_of_not_demanded idle _) (isSkipped_of_not_demanded idle _)
      intro key own
      have absent := mirrors.absent kept static own (by
        intro other isOther same isDemanded _ _
        exact demanded (sameNode other isOther same ▸ isDemanded))
      rw [absent.1, absent.2]
  · have own : ∀ key : PortKey, key.nodeId = node.nodeId →
        right.values.get? key = left.values.get? key := by
      intro key isOwn
      apply mirrors.settled
      intro other isOther isStatic same
      rcases List.mem_cons.mp isOther with rfl | later
      · exact static isStatic
      · rw [List.map_cons, List.nodup_cons] at distinct
        exact distinct.1 (List.mem_map.mpr ⟨other, later, same.trans isOwn⟩)
    have skips : isSkipped node right.values = isSkipped node left.values :=
      isSkipped_congr (fun key port => own key (outputPortKeys_own port))
    by_cases skipped : isSkipped node left.values = true
    · exact bothSkip skipped (skips.trans skipped) own
    · have active := Bool.eq_false_iff.mpr skipped
      exact mirrors.runs distinct (fun key isOwn _ => own key isOwn) active (skips.trans active)
        gathers

/-- A tick with a valid cache ends like one that recomputes. -/
theorem Mirrors.tickNodes {nodes rest : List (CompiledNode ρ)}
    {memory start : Memory} (mirrors : Mirrors rest left right)
    (nodesDistinct : (nodes.map CompiledNode.nodeId).Nodup) (inside : ∀ node ∈ rest, node ∈ nodes)
    (distinct : (rest.map CompiledNode.nodeId).Nodup) (causal : Causal rest)
    (kept : Kept nodes left.runtimes left.staticCache memory)
    (unchanged : ∀ node ∈ rest, memory.get? node.nodeId = start.get? node.nodeId)
    (valid : Meets (turn context) (StillValid start) left rest) :
    (tickNodes context rest right).2 = (tickNodes context rest left).2 ∧
      (tickNodes context rest right).1.runtimes = (tickNodes context rest left).1.runtimes ∧
      ((tickNodes context rest left).2 = .ok () →
        Mirrors [] (tickNodes context rest left).1 (tickNodes context rest right).1) := by
  induction rest generalizing left right memory with
  | nil => exact ⟨rfl, mirrors.runtimes, fun _ => mirrors⟩
  | cons node rest ih =>
      have member := inside node List.mem_cons_self
      have here : StillValid memory left node := by
        intro static demanded ports computed known
        rw [unchanged node List.mem_cons_self] at known
        exact valid.1 static demanded ports computed known
      rcases mirrors.step context nodesDistinct member distinct causal.1 kept here with
        ⟨outcomes, runtimes, onward⟩
      rw [Runtime.tickNodes, Runtime.tickNodes]
      rcases leftTicked : tickNode context node left with ⟨leftNext, leftOutcome⟩
      rcases rightTicked : tickNode context node right with ⟨rightNext, rightOutcome⟩
      rw [leftTicked, rightTicked] at outcomes runtimes onward
      dsimp only at outcomes runtimes onward
      subst outcomes
      cases rightOutcome with
      | error error => exact ⟨rfl, runtimes, fun impossible => by cases impossible⟩
      | ok _ =>
          have taken : turn context left node = some leftNext := by rw [turn, leftTicked]
          rw [List.map_cons, List.nodup_cons] at distinct
          refine ih (onward rfl)
            (fun other later => inside other (List.mem_cons_of_mem _ later)) distinct.2 causal.2
            (kept.turn nodesDistinct member leftTicked) ?_ ((meets_cons taken).mp valid).2
          intro other later
          have different : other.nodeId ≠ node.nodeId :=
            fun same => distinct.1 (List.mem_map.mpr ⟨other, later, same⟩)
          rw [← unchanged other (List.mem_cons_of_mem _ later), remember]
          split
          · split
            · exact Dict.get?_insert_of_ne _ different
            · rfl
          · rfl

/-! ## Runs -/

omit [NodeRuntime ρ] in
theorem get?_updateValues_of_not_mem {values sourceValues : PortValues}
    (absent : key ∉ sourceValues.keys) :
    (updateValues values sourceValues).get? key = values.get? key := by
  unfold updateValues Dict.keys at *
  generalize sourceValues.entries = entries at *
  induction entries generalizing values with
  | nil => rfl
  | cons entry rest ih =>
      rw [List.map_cons, List.mem_cons, not_or] at absent
      rw [List.foldl_cons, ih absent.2, Dict.get?_insert_of_ne _ absent.1]

namespace Scheduler

/-- The tick's source is no static node: its values are those of a clocked node. -/
def FromSource (plan : ExecutionPlan ρ) (tick : Tick) : Prop :=
  ∀ node ∈ plan.nodes, node.nodeId = tick.source → node.isStatic = false

variable {memory : Memory}

/-- Before the first turn the sides differ in the cached static nodes only. -/
theorem mirrors_startTick {scheduler other : Scheduler ρ}
    (kept : Kept scheduler.plan.nodes scheduler.runtimes scheduler.staticCache memory)
    (runtimes : other.runtimes = scheduler.runtimes) {tick : Tick}
    (source : FromSource scheduler.plan tick) :
    Mirrors scheduler.plan.nodes (scheduler.startTick tick.sourceValues)
      (({ other with staticCache := Dict.empty } : Scheduler ρ).startTick tick.sourceValues) := by
  refine ⟨runtimes, rfl, ?_, ?_⟩
  · intro key apart
    apply get?_updateValues_congr
    rw [Dict.get?_empty, eq_comm, Dict.get?_eq_none]
    intro cached
    rcases kept.cached key cached with ⟨node, member, static, _, port, _⟩
    exact apart node member static (outputPortKeys_own port).symm
  · intro node member static key own
    have unsupplied : key ∉ tick.sourceValues.keys := by
      intro supplied
      have dynamic := source node member (own.symm.trans (tick.own key supplied))
      rw [static] at dynamic
      cases dynamic
    exact ⟨get?_updateValues_of_not_mem unsupplied, get?_updateValues_of_not_mem unsupplied⟩

/-- A tick with a valid cache returns what a tick that recomputes returns. -/
theorem sameOutcome_tick {scheduler other : Scheduler ρ} {tick : Tick}
    (distinct : (scheduler.plan.nodes.map CompiledNode.nodeId).Nodup)
    (causal : Causal scheduler.plan.nodes)
    (kept : Kept scheduler.plan.nodes scheduler.runtimes scheduler.staticCache memory)
    (plan : other.plan = scheduler.plan) (runtimes : other.runtimes = scheduler.runtimes)
    (source : FromSource scheduler.plan tick)
    (valid : CacheValid ⟨scheduler, memory⟩ (.tick tick)) :
    SameOutcome (scheduler.executeTick tick.context tick.sourceValues).2
        (other.recomputeTick tick.context tick.sourceValues).2 ∧
      (other.recomputeTick tick.context tick.sourceValues).1.plan = scheduler.plan ∧
      (other.recomputeTick tick.context tick.sourceValues).1.runtimes =
        (scheduler.executeTick tick.context tick.sourceValues).1.runtimes := by
  rcases (mirrors_startTick kept runtimes source).tickNodes distinct (fun _ => id) distinct causal
    kept (fun _ _ => rfl) valid with ⟨outcomes, sameRuntimes, onward⟩
  rcases other with ⟨otherPlan, otherRuntimes, borrowed, cache⟩
  dsimp only at plan runtimes
  subst plan
  rw [recomputeTick, executeTick, executeTick]
  rcases leftTicked : Runtime.tickNodes tick.context scheduler.plan.nodes
    (scheduler.startTick tick.sourceValues) with ⟨left, leftOutcome⟩
  rcases rightTicked : Runtime.tickNodes tick.context scheduler.plan.nodes
    ((⟨scheduler.plan, otherRuntimes, borrowed, Dict.empty⟩ : Scheduler ρ).startTick
      tick.sourceValues) with ⟨right, rightOutcome⟩
  rw [leftTicked, rightTicked] at outcomes sameRuntimes onward
  dsimp only at outcomes sameRuntimes onward
  subst outcomes
  cases rightOutcome with
  | error error => exact ⟨rfl, rfl, sameRuntimes⟩
  | ok _ =>
      have mirrors := onward rfl
      refine ⟨⟨?_, mirrors.errors⟩, rfl, sameRuntimes⟩
      intro key
      exact mirrors.settled key (fun node member => absurd member List.not_mem_nil)

/-- A reset of stateless runtimes changes none of them. -/
theorem visitRuntimes_reset {nodes : List (CompiledNode ρ)} {runtimes : Dict UUID ρ}
    {cache : PortValues} (kept : Kept nodes runtimes cache memory)
    (ids : List UUID) (reason : ResetReason) :
    ∀ node ∈ nodes, node.isStatic = true →
      (visitRuntimes (fun runtime => some (NodeRuntime.reset runtime reason)) ids runtimes).1.get?
        node.nodeId = runtimes.get? node.nodeId := by
  intro node member static
  apply visitRuntimes_get?_of_kept
  intro runtime found after outcome called
  rw [Option.some.injEq] at called
  rw [← (kept.stateless node member static runtime found).reset reason, called]

theorem resetSource_eq (scheduler : Scheduler ρ) (clockId : UUID) (reason : ResetReason) :
    (scheduler.resetSource clockId reason).1 = { scheduler with
      runtimes := (visitRuntimes (fun runtime => some (NodeRuntime.reset runtime reason))
        (scheduler.stateOwners clockId) scheduler.runtimes).1 } := rfl

theorem resetAll_cases (scheduler : Scheduler ρ) (reason : ResetReason) :
    ((scheduler.resetAll reason).2.2 = .ok () ∧ (scheduler.resetAll reason).1 = { scheduler with
        runtimes := (visitRuntimes (fun runtime => some (NodeRuntime.reset runtime reason))
          scheduler.runtimes.keys scheduler.runtimes).1
        staticCache := Dict.empty }) ∨
      (∃ error, (scheduler.resetAll reason).2.2 = .error error) ∧
        (scheduler.resetAll reason).1 = { scheduler with
          runtimes := (visitRuntimes (fun runtime => some (NodeRuntime.reset runtime reason))
            scheduler.runtimes.keys scheduler.runtimes).1 } := by
  unfold resetAll
  rcases visitRuntimes (fun runtime => some (NodeRuntime.reset runtime reason))
    scheduler.runtimes.keys scheduler.runtimes with ⟨runtimes, reached, outcome⟩
  cases outcome with
  | error error => exact Or.inr ⟨⟨error, rfl⟩, rfl⟩
  | ok _ => exact Or.inl ⟨rfl, rfl⟩

/-- Commands with a valid cache return what recomputing returns. -/
theorem outcomes_same {plan : ExecutionPlan ρ}
    (distinct : (plan.nodes.map CompiledNode.nodeId).Nodup) (causal : Causal plan.nodes)
    (commands : List Command)
    (sources : ∀ tick, Command.tick tick ∈ commands → FromSource plan tick)
    (watched : Watched ρ) (other : Scheduler ρ) (isPlan : watched.scheduler.plan = plan)
    (otherPlan : other.plan = plan) (runtimes : other.runtimes = watched.scheduler.runtimes)
    (kept : Kept plan.nodes watched.scheduler.runtimes watched.scheduler.staticCache watched.memory)
    (valid : Meets Watched.step CacheValid watched commands) :
    List.Forall₂ SameOutcome (outcomes executeTick watched.scheduler commands)
      (outcomes recomputeTick other commands) := by
  induction commands generalizing watched other with
  | nil => exact .nil
  | cons command rest ih =>
      have later : ∀ tick, Command.tick tick ∈ rest → FromSource plan tick :=
        fun tick member => sources tick (List.mem_cons_of_mem _ member)
      rcases watched with ⟨scheduler, memory⟩
      dsimp only at isPlan runtimes kept
      subst isPlan
      cases command with
      | tick tick =>
          rcases sameOutcome_tick distinct causal kept otherPlan runtimes
            (sources tick List.mem_cons_self) valid.1 with ⟨same, nextPlan, nextRuntimes⟩
          have onward : Meets Watched.step CacheValid
              (⟨(scheduler.executeTick tick.context tick.sourceValues).1,
                rememberAll tick.context scheduler.plan.nodes
                  (scheduler.startTick tick.sourceValues) memory⟩ : Watched ρ) rest := valid.2
          have next := executeTick_fst scheduler tick
          refine .cons same (ih later _ _ ?_ nextPlan nextRuntimes ?_ onward)
          · rw [next]
          · dsimp only
            rw [next]
            exact Kept.tickNodes kept distinct
              (fun _ => id)
      | resetSource clockId reason =>
          have onward : Meets Watched.step CacheValid
              (⟨(scheduler.resetSource clockId reason).1, memory⟩ : Watched ρ) rest := valid.2
          have owners : other.stateOwners clockId = scheduler.stateOwners clockId := by
            rw [stateOwners, stateOwners, otherPlan]
          refine ih later _ (other.resetSource clockId reason).1 rfl otherPlan
            ?_ ?_ onward
          · rw [resetSource_eq, resetSource_eq, owners, runtimes]
          · rw [resetSource_eq]
            exact kept.of_runtimes (visitRuntimes_reset kept _ reason)
      | resetAll reason =>
          have visited := visitRuntimes_reset kept scheduler.runtimes.keys reason
          have otherRuntimes : (other.resetAll reason).1.runtimes =
              (visitRuntimes (fun runtime => some (NodeRuntime.reset runtime reason))
                scheduler.runtimes.keys scheduler.runtimes).1 := by
            rw [← runtimes]
            rcases resetAll_cases other reason with ⟨_, next⟩ | ⟨_, next⟩ <;> rw [next]
          have nextPlan : (other.resetAll reason).1.plan = scheduler.plan := by
            rcases resetAll_cases other reason with ⟨_, next⟩ | ⟨_, next⟩ <;> rw [next, otherPlan]
          rcases resetAll_cases scheduler reason with ⟨done, next⟩ | ⟨⟨error, raised⟩, next⟩
          · have stepped : Watched.step (⟨scheduler, memory⟩ : Watched ρ) (.resetAll reason) =
                some ⟨(scheduler.resetAll reason).1, Dict.empty⟩ := by
              rw [Watched.step, done]
            refine ih later _ _ (by rw [next]) nextPlan
              (by rw [next, otherRuntimes]) ?_ ((meets_cons stepped).mp valid).2
            rw [next]
            have still := kept.of_runtimes visited
            exact ⟨still.stateless, fun key cached => absurd cached List.not_mem_nil,
              fun node member static computed known => by cases known⟩
          · have stepped : Watched.step (⟨scheduler, memory⟩ : Watched ρ) (.resetAll reason) =
                some ⟨(scheduler.resetAll reason).1, memory⟩ := by
              rw [Watched.step, raised]
            refine ih later _ _ (by rw [next]) nextPlan
              (by rw [next, otherRuntimes]) ?_ ((meets_cons stepped).mp valid).2
            rw [next]
            exact kept.of_runtimes visited

/-- For every plan with stateless static nodes and every sequence of ticks and
resets in which no tick finds the outputs of a static node in the cache that
failed, or that would now find other inputs: every tick returns the values and
the errors of a scheduler that recomputes every demanded node. -/
theorem static_cache_transparent (plan : ExecutionPlan ρ)
    (distinct : (plan.nodes.map CompiledNode.nodeId).Nodup) (causal : Causal plan.nodes)
    (reusable : Dict UUID ρ) (start : Scheduler ρ) (created : create plan reusable = .ok start)
    (stateless : ∀ node ∈ plan.nodes, node.isStatic = true → ∀ runtime,
      start.runtimes.get? node.nodeId = some runtime → Stateless runtime)
    (commands : List Command)
    (sources : ∀ tick, Command.tick tick ∈ commands → FromSource plan tick)
    (valid : Meets Watched.step CacheValid ⟨start, Dict.empty⟩ commands) :
    start.Transparent commands := by
  rcases bind_ok created with ⟨⟨runtimes, borrowed⟩, _, built⟩
  cases built
  refine outcomes_same distinct causal commands sources ⟨_, _⟩ _ rfl rfl rfl ?_ valid
  exact ⟨stateless, fun key cached => absurd cached List.not_mem_nil,
    fun node member static computed known => by cases known⟩

end Scheduler

/-! ## A number on an integer socket -/

/-- A number whose output has been settled to an integer, read by a display. -/
def numberNode (value : RuntimeValue) : CompiledNode ScriptedRuntime where
  nodeId := 1
  definition := scriptedContract "synmachine.utility.number" .stateless [] [⟨"value", .port .int⟩]
    .static (valueAnswer value)
  parameters := Dict.empty
  inputBindings := Dict.empty
  inputTypes := Dict.empty
  outputTypes := Dict.ofEntries [("value", .int)]
  clockId := none
  isStatic := true
  isDemanded := true

def numberDisplay : CompiledNode ScriptedRuntime where
  nodeId := 2
  definition := scriptedContract "synmachine.visualization.display" .visualizer
    [⟨"value", .port .int, true⟩] [] .never (.ok Dict.empty)
  parameters := Dict.empty
  inputBindings := Dict.ofEntries [("value", ⟨⟨1, "value"⟩, none⟩)]
  inputTypes := Dict.ofEntries [("value", .int)]
  outputTypes := Dict.empty
  clockId := none
  isStatic := false
  isDemanded := true

def numberPlan (value : RuntimeValue) : ExecutionPlan ScriptedRuntime :=
  ⟨0, 1, [numberNode value, numberDisplay], [2]⟩

def numberScheduler (value : RuntimeValue) : Scheduler ScriptedRuntime where
  plan := numberPlan value
  runtimes := ⟨[(1, ⟨valueAnswer value⟩), (2, ⟨.ok Dict.empty⟩)], by simp⟩
  borrowedRuntimeIds := []
  staticCache := Dict.empty

/-- A tick of a source that the plan does not contain. -/
def otherTick : Tick where
  source := 9
  context := FrameContext.first 9 0
  sourceValues := Dict.empty
  own := fun _ member => absurd member List.not_mem_nil

theorem scripted_stateless (runtime : ScriptedRuntime) : Stateless runtime :=
  ⟨fun _ _ _ _ => rfl, fun _ _ _ => rfl, fun _ => rfl⟩

theorem numberPlan_causal (value : RuntimeValue) : Causal (numberPlan value).nodes := by
  refine ⟨?_, ?_, trivial⟩
  · intro item member
    exact absurd member List.not_mem_nil
  · intro item member
    rw [List.mem_singleton.mp member]
    simp [numberDisplay]

theorem numberPlan_fromSource (value : RuntimeValue) :
    Scheduler.FromSource (numberPlan value) otherTick := by
  intro node member same
  simp only [numberPlan, List.mem_cons, List.not_mem_nil, or_false] at member
  rcases member with rfl | rfl <;> cases same

theorem static_cache_transparent_number :
    (numberScheduler (.int 3)).Transparent [.tick otherTick, .tick otherTick] := by
  refine Scheduler.static_cache_transparent (numberPlan (.int 3)) (by decide)
    (numberPlan_causal (.int 3)) Dict.empty (numberScheduler (.int 3)) rfl
    (fun _ _ _ runtime _ => scripted_stateless runtime) _ ?_ ?_
  · intro tick member
    simp only [List.mem_cons, Command.tick.injEq, List.not_mem_nil, or_false] at member
    rcases member with rfl | rfl <;> exact numberPlan_fromSource (.int 3)
  · refine ⟨⟨?_, ?_, trivial⟩, ⟨?_, ?_, trivial⟩, trivial⟩
    · intro _ _ _ computed known
      cases known
    · intro static
      cases static
    · intro _ _ _ computed known
      cases known
      exact ⟨rfl, rfl⟩
    · intro static
      cases static

/-- A fraction fails on its integer output in every tick that computes it; with
the cache only the first tick says so. -/
theorem cached_failure_is_silent :
    Scheduler.create (numberPlan (.float (.finite (1 / 2)))) Dict.empty =
        .ok (numberScheduler (.float (.finite (1 / 2)))) ∧
      ¬ (numberScheduler (.float (.finite (1 / 2)))).Transparent
        [.tick otherTick, .tick otherTick] := by
  refine ⟨rfl, ?_⟩
  intro transparent
  have errorCounts : ∀ {left right : Except PyError TickResult},
      Scheduler.SameOutcome left right →
        right.map (fun result => result.errors.length) =
          left.map (fun result => result.errors.length) := by
    intro left right same
    cases left <;> cases right <;> simp_all [Scheduler.SameOutcome, Except.map]
  have counts := transparent.imp (fun _ _ => errorCounts)
  have cachedCounts : (Scheduler.outcomes Scheduler.executeTick
      (numberScheduler (.float (.finite (1 / 2)))) [.tick otherTick, .tick otherTick]).map
        (fun outcome => outcome.map (fun result => result.errors.length)) = [.ok 1, .ok 0] := by
    decide +kernel
  have freshCounts : (Scheduler.outcomes Scheduler.recomputeTick
      (numberScheduler (.float (.finite (1 / 2)))) [.tick otherTick, .tick otherTick]).map
        (fun outcome => outcome.map (fun result => result.errors.length)) = [.ok 1, .ok 1] := by
    decide +kernel
  have same : List.Forall₂ (fun left right => right = left) _ _ :=
    List.forall₂_map_left_iff.mpr (List.forall₂_map_right_iff.mpr counts)
  rw [cachedCounts, freshCounts] at same
  cases same with
  | cons _ tail =>
      cases tail with
      | cons second _ => cases second

end Runtime
end Synesthesia
