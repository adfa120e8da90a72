import Synesthesia.Foundation.Runs
import Synesthesia.Graph.CompiledPlan
import Synesthesia.Nodes.SendMidi
import Synesthesia.Runtime.Scheduler

namespace Synesthesia
namespace Runtime

open Foundation Contracts Midi Nodes Synesthesia.Graph

/-!
# Ticks of several sources

A tick walks the whole plan, whatever source it belongs to.  A node on another
clock is left alone exactly when nobody demands it: a demanded one has its
source in the plan, and that source runs on every tick because it has no inputs
that could be missing.
-/

variable {ρ : Type} [NodeRuntime ρ]

/-! ## What one node of a tick touches -/

/-- The tick has run the node so far. -/
def TickState.ran (state : TickState ρ) (nodeId : UUID) : Prop :=
  nodeId ∈ state.invocations.keys

/-- The second state differs from the first in the given node only, and the
node keeps having run. -/
structure OnlyTouches (nodeId : UUID) (before after : TickState ρ) : Prop where
  runtimes : ∀ other, other ≠ nodeId → after.runtimes.get? other = before.runtimes.get? other
  ran_iff : ∀ other, other ≠ nodeId → (after.ran other ↔ before.ran other)
  ran_of_ran : ∀ other, before.ran other → after.ran other
  values : ∀ key ∈ after.values.keys, key ∈ before.values.keys ∨ key.nodeId = nodeId

omit [NodeRuntime ρ] in
theorem OnlyTouches.refl (nodeId : UUID) (state : TickState ρ) :
    OnlyTouches nodeId state state :=
  ⟨fun _ _ => rfl, fun _ _ => Iff.rfl, fun _ => id, fun _ => Or.inl⟩

/-- An invocation stores at most the new state of its own runtime. -/
theorem invoke_runtimes (node : CompiledNode ρ) (runtimes : Dict UUID ρ)
    (inputs : Dict String RuntimeValue) (context : FrameContext) :
    (invoke node runtimes inputs context).1 = runtimes ∨
      ∃ runtime, (invoke node runtimes inputs context).1 =
        runtimes.insert node.nodeId runtime := by
  unfold invoke
  split
  · exact Or.inl rfl
  · split
    · exact Or.inl rfl
    · rename_i effective parameters _ _ runtime _
      refine Or.inr ⟨(NodeRuntime.process runtime effective parameters context).1, ?_⟩
      dsimp only
      split
      · rfl
      · split
        · rfl
        · split <;> rfl

theorem runNode_onlyTouches (node : CompiledNode ρ) (context : FrameContext)
    (inputs : Dict String RuntimeValue) (state : TickState ρ) :
    OnlyTouches node.nodeId state (runNode node context inputs state).1 := by
  have runtimes : (runNode node context inputs state).1.runtimes =
      (invoke node state.runtimes inputs context).1 := by
    unfold runNode
    split <;> simp_all
  have invocations : (runNode node context inputs state).1.invocations =
      state.invocations.insert node.nodeId
        ((state.invocations.get? node.nodeId).getD 0 + 1) := by
    unfold runNode
    split <;> rfl
  have values : (runNode node context inputs state).1.values = state.values := by
    unfold runNode
    split <;> rfl
  refine ⟨?_, ?_, ?_, ?_⟩
  · intro other different
    rw [runtimes]
    rcases invoke_runtimes node state.runtimes inputs context with same | ⟨runtime, stored⟩
    · rw [same]
    · rw [stored, Dict.get?_insert_of_ne runtime different]
  · intro other different
    rw [TickState.ran, invocations, Dict.mem_keys_insert, or_iff_right different]
    rfl
  · intro other ran
    rw [TickState.ran, invocations, Dict.mem_keys_insert]
    exact Or.inr ran
  · intro key member
    rw [values] at member
    exact Or.inl member

theorem runNode_ran (node : CompiledNode ρ) (context : FrameContext)
    (inputs : Dict String RuntimeValue) (state : TickState ρ) :
    (runNode node context inputs state).1.ran node.nodeId := by
  have invocations : (runNode node context inputs state).1.invocations =
      state.invocations.insert node.nodeId
        ((state.invocations.get? node.nodeId).getD 0 + 1) := by
    unfold runNode
    split <;> rfl
  rw [TickState.ran, invocations, Dict.mem_keys_insert]
  exact Or.inl rfl

theorem runNode_staticCache (node : CompiledNode ρ) (context : FrameContext)
    (inputs : Dict String RuntimeValue) (state : TickState ρ) :
    (runNode node context inputs state).1.staticCache = state.staticCache := by
  unfold runNode
  split <;> rfl

variable {key : PortKey}

/-- Assigning the ports of a node adds keys of that node only. -/
theorem mem_keys_assignPorts {nodeId : UUID} {items : List (String × PortKey)}
    (own : ∀ item ∈ items, item.2.nodeId = nodeId) (value : String × PortKey → RuntimeValue)
    (values : PortValues)
    (member : key ∈ (items.foldl (fun values item => values.insert item.2 (value item))
      values).keys) : key ∈ values.keys ∨ key.nodeId = nodeId := by
  induction items generalizing values with
  | nil => exact Or.inl member
  | cons item rest ih =>
      have restOwn : ∀ other ∈ rest, other.2.nodeId = nodeId :=
        fun other isOther => own other (List.mem_cons_of_mem _ isOther)
      rcases ih restOwn _ member with before | here
      · rcases Dict.mem_keys_insert.mp before with rfl | old
        · exact Or.inr (own item List.mem_cons_self)
        · exact Or.inl old
      · exact Or.inr here

omit [NodeRuntime ρ] in
theorem outputPortItems_own (node : CompiledNode ρ) :
    ∀ item ∈ node.outputPortItems, item.2.nodeId = node.nodeId := by
  intro item member
  rcases List.mem_map.mp member with ⟨portId, _, rfl⟩
  rfl

/-- The inputs of a node, its run or its starvation, and what it publishes. -/
theorem tickNode_cases (context : FrameContext) (node : CompiledNode ρ) (state : TickState ρ) :
    tickNode context node state = (state, .ok ()) ∧ isSkipped node state.values = true ∨
    (∃ error, gatherInputs state.values node.inputBindingItems Dict.empty = .error error ∧
      tickNode context node state = (state, .error error)) ∨
    isSkipped node state.values = false ∧
      ∃ inputs worked outputs,
        gatherInputs state.values node.inputBindingItems Dict.empty = .ok inputs ∧
        (worked = state ∧ isStarved node inputs = true ∨
          worked = (runNode node context inputs state).1 ∧ isStarved node inputs = false) ∧
        tickNode context node state = ({ worked with
          values := publishOutputs node outputs worked.values
          staticCache := cacheOutputs node (publishOutputs node outputs worked.values)
            worked.staticCache }, .ok ()) := by
  unfold tickNode
  by_cases skipped : isSkipped node state.values = true
  · exact Or.inl ⟨by rw [if_pos skipped], skipped⟩
  · rw [if_neg skipped]
    cases gathered : gatherInputs state.values node.inputBindingItems Dict.empty with
    | error error => exact Or.inr (Or.inl ⟨error, rfl, rfl⟩)
    | ok inputs =>
        refine Or.inr (Or.inr ⟨Bool.eq_false_iff.mpr skipped, inputs, ?_⟩)
        by_cases starved : isStarved node inputs = true
        · exact ⟨state, noDataOutputs node, rfl, Or.inl ⟨rfl, starved⟩, by simp [starved]⟩
        · refine ⟨(runNode node context inputs state).1, (runNode node context inputs state).2, rfl,
            Or.inr ⟨rfl, Bool.eq_false_iff.mpr starved⟩, by simp [starved]⟩

theorem tickNode_onlyTouches (context : FrameContext) (node : CompiledNode ρ)
    (state : TickState ρ) :
    OnlyTouches node.nodeId state (tickNode context node state).1 := by
  rcases tickNode_cases context node state with
    ⟨same, _⟩ | ⟨error, _, failed⟩ | ⟨_, inputs, worked, outputs, _, how, published⟩
  · rw [same]
    exact OnlyTouches.refl _ _
  · rw [failed]
    exact OnlyTouches.refl _ _
  · have touches : OnlyTouches node.nodeId state worked := by
      rcases how with ⟨rfl, _⟩ | ⟨rfl, _⟩
      · exact OnlyTouches.refl _ _
      · exact runNode_onlyTouches node context inputs state
    rw [published]
    refine ⟨touches.runtimes, touches.ran_iff, touches.ran_of_ran, ?_⟩
    intro key member
    rcases mem_keys_assignPorts (outputPortItems_own node) _ _ member with before | here
    · exact touches.values key before
    · exact Or.inr here

/-- A static node alone enters the cache. -/
theorem tickNode_staticCache (context : FrameContext) (node : CompiledNode ρ)
    (state : TickState ρ)
    (member : key ∈ (tickNode context node state).1.staticCache.keys) :
    key ∈ state.staticCache.keys ∨ key.nodeId = node.nodeId ∧ node.isStatic = true := by
  rcases tickNode_cases context node state with
    ⟨same, _⟩ | ⟨error, _, failed⟩ | ⟨_, inputs, worked, outputs, _, how, published⟩
  · rw [same] at member
    exact Or.inl member
  · rw [failed] at member
    exact Or.inl member
  · have cache : worked.staticCache = state.staticCache := by
      rcases how with ⟨rfl, _⟩ | ⟨rfl, _⟩
      · rfl
      · exact runNode_staticCache node context inputs state
    rw [published] at member
    simp only [cacheOutputs, cache] at member
    by_cases static : node.isStatic = true
    · rw [if_pos static] at member
      rcases mem_keys_assignPorts (outputPortItems_own node) _ _ member with before | here
      · exact Or.inl before
      · exact Or.inr ⟨here, static⟩
    · rw [if_neg static] at member
      exact Or.inl member

variable {node : CompiledNode ρ}

omit [NodeRuntime ρ] in
theorem isSkipped_of_not_demanded (idle : node.isDemanded = false)
    (values : PortValues) : isSkipped node values = true := by
  rw [isSkipped, idle]
  rfl

theorem tickNode_of_not_demanded (context : FrameContext)
    (idle : node.isDemanded = false) (state : TickState ρ) :
    tickNode context node state = (state, .ok ()) := by
  rw [tickNode, if_pos (isSkipped_of_not_demanded idle state.values)]

/-! ## The whole tick -/

/-- A node that nobody demands is left alone by the whole tick. -/
theorem tickNodes_leaves (context : FrameContext) {nodes : List (CompiledNode ρ)} {nodeId : UUID}
    (idle : ∀ node ∈ nodes, node.nodeId = nodeId → node.isDemanded = false)
    (state : TickState ρ) :
    (tickNodes context nodes state).1.runtimes.get? nodeId = state.runtimes.get? nodeId ∧
      ((tickNodes context nodes state).1.ran nodeId ↔ state.ran nodeId) := by
  induction nodes generalizing state with
  | nil => exact ⟨rfl, Iff.rfl⟩
  | cons node rest ih =>
      have headLeaves : (tickNode context node state).1.runtimes.get? nodeId =
          state.runtimes.get? nodeId ∧
            ((tickNode context node state).1.ran nodeId ↔ state.ran nodeId) := by
        by_cases same : node.nodeId = nodeId
        · rw [tickNode_of_not_demanded context (idle node List.mem_cons_self same)]
          exact ⟨rfl, Iff.rfl⟩
        · have touches := tickNode_onlyTouches context node state
          exact ⟨touches.runtimes nodeId (Ne.symm same), touches.ran_iff nodeId (Ne.symm same)⟩
      have restIdle : ∀ other ∈ rest, other.nodeId = nodeId → other.isDemanded = false :=
        fun other member => idle other (List.mem_cons_of_mem _ member)
      rw [tickNodes]
      rcases ticked : tickNode context node state with ⟨after, outcome⟩
      rw [ticked] at headLeaves
      cases outcome with
      | error error => exact headLeaves
      | ok _ =>
          have tailLeaves := ih restIdle after
          exact ⟨tailLeaves.1.trans headLeaves.1, tailLeaves.2.trans headLeaves.2⟩

/-- A tick that returns has ticked every node in turn. -/
theorem tickNodes_append_ok {context : FrameContext} {before after : List (CompiledNode ρ)}
    {state final : TickState ρ}
    (finished : tickNodes context (before ++ after) state = (final, .ok ())) :
    ∃ middle, tickNodes context before state = (middle, .ok ()) ∧
      tickNodes context after middle = (final, .ok ()) := by
  induction before generalizing state with
  | nil => exact ⟨state, rfl, finished⟩
  | cons node rest ih =>
      rw [List.cons_append, tickNodes] at finished
      rw [tickNodes]
      rcases ticked : tickNode context node state with ⟨next, outcome⟩
      rw [ticked] at finished
      cases outcome with
      | error error => cases finished
      | ok _ => exact ih finished

theorem tickNodes_ran (context : FrameContext) (nodes : List (CompiledNode ρ))
    {state : TickState ρ} {nodeId : UUID} (ran : state.ran nodeId) :
    (tickNodes context nodes state).1.ran nodeId := by
  induction nodes generalizing state with
  | nil => exact ran
  | cons node rest ih =>
      have headRan := (tickNode_onlyTouches context node state).ran_of_ran nodeId ran
      rw [tickNodes]
      rcases ticked : tickNode context node state with ⟨next, outcome⟩
      rw [ticked] at headRan
      cases outcome with
      | error error => exact headRan
      | ok _ => exact ih headRan

theorem tickNodes_values (context : FrameContext) (nodes : List (CompiledNode ρ))
    (state : TickState ρ)
    (member : key ∈ (tickNodes context nodes state).1.values.keys) :
    key ∈ state.values.keys ∨ key.nodeId ∈ nodes.map CompiledNode.nodeId := by
  induction nodes generalizing state with
  | nil => exact Or.inl member
  | cons node rest ih =>
      have headValues := (tickNode_onlyTouches context node state).values key
      have inHead : key ∈ (tickNode context node state).1.values.keys →
          key ∈ state.values.keys ∨
            key.nodeId ∈ (node :: rest).map CompiledNode.nodeId := by
        intro published
        rcases headValues published with before | here
        · exact Or.inl before
        · exact Or.inr (by rw [here]; exact List.mem_cons_self)
      rw [tickNodes] at member
      rcases ticked : tickNode context node state with ⟨next, outcome⟩
      rw [ticked] at member inHead
      cases outcome with
      | error error => exact inHead member
      | ok _ =>
          rcases ih next member with before | later
          · exact inHead before
          · exact Or.inr (List.mem_cons_of_mem _ later)

theorem tickNodes_staticCache (context : FrameContext) (nodes : List (CompiledNode ρ))
    (state : TickState ρ)
    (member : key ∈ (tickNodes context nodes state).1.staticCache.keys) :
    key ∈ state.staticCache.keys ∨
      ∃ node ∈ nodes, node.nodeId = key.nodeId ∧ node.isStatic = true := by
  induction nodes generalizing state with
  | nil => exact Or.inl member
  | cons node rest ih =>
      have inHead : key ∈ (tickNode context node state).1.staticCache.keys →
          key ∈ state.staticCache.keys ∨
            ∃ other ∈ node :: rest, other.nodeId = key.nodeId ∧ other.isStatic = true := by
        intro cached
        rcases tickNode_staticCache context node state cached with before | ⟨here, static⟩
        · exact Or.inl before
        · exact Or.inr ⟨node, List.mem_cons_self, here.symm, static⟩
      rw [tickNodes] at member
      rcases ticked : tickNode context node state with ⟨next, outcome⟩
      rw [ticked] at member inHead
      cases outcome with
      | error error => exact inHead member
      | ok _ =>
          rcases ih next member with before | ⟨other, isOther, owns⟩
          · exact inHead before
          · exact Or.inr ⟨other, List.mem_cons_of_mem _ isOther, owns⟩

/-- A demanded node without inputs runs unless all its ports carry values. -/
theorem tickNode_runs (context : FrameContext) {state : TickState ρ}
    (demanded : node.isDemanded = true) (noInputs : node.inputBindings = Dict.empty)
    (absent : ∀ key ∈ state.values.keys, key.nodeId ≠ node.nodeId) :
    (tickNode context node state).1.ran node.nodeId := by
  rcases tickNode_cases context node state with
    ⟨_, skipped⟩ | ⟨error, failed, _⟩ | ⟨_, inputs, worked, outputs, gathered, how, published⟩
  · -- skipping needs a value on a port of the node
    rw [isSkipped, demanded, Bool.not_true, Bool.false_or, Bool.and_eq_true,
      List.all_eq_true] at skipped
    rcases skipped with ⟨hasPorts, present⟩
    cases ports : node.outputTypes.keys with
    | nil => simp [ports] at hasPorts
    | cons portId rest =>
        have isKey : (⟨node.nodeId, portId⟩ : PortKey) ∈ node.outputPortKeys := by
          rw [CompiledNode.outputPortKeys, ports]
          exact List.mem_cons_self
        exact absurd rfl (absent _ (of_decide_eq_true (present _ isKey)))
  · simp only [CompiledNode.inputBindingItems, noInputs, Dict.empty, List.map_nil, gatherInputs,
      reduceCtorEq] at failed
  · simp only [CompiledNode.inputBindingItems, noInputs, Dict.empty, List.map_nil, gatherInputs,
      Except.ok.injEq] at gathered
    subst gathered
    rw [published]
    rcases how with ⟨_, starved⟩ | ⟨rfl, _⟩
    · simp [isStarved] at starved
    · exact runNode_ran node context _ state

/-! ## Ticks of a source -/

/-- A tick of a source: values are supplied for its ports only. -/
structure Tick where
  source : UUID
  context : FrameContext
  sourceValues : PortValues
  own : ∀ key ∈ sourceValues.keys, key.nodeId = source

namespace Scheduler

/-- A sequence of ticks goes on after a tick that raises. -/
def step (scheduler : Scheduler ρ) (tick : Tick) : Option (Scheduler ρ) :=
  some (scheduler.executeTick tick.context tick.sourceValues).1

/-- The tick runs the runtime of the node. -/
def Processes (scheduler : Scheduler ρ) (tick : Tick) (nodeId : UUID) : Prop :=
  (tickNodes tick.context scheduler.plan.nodes (scheduler.startTick tick.sourceValues)).1.ran nodeId

/-- The tick neither runs the node nor changes its runtime. -/
def Untouched (scheduler : Scheduler ρ) (tick : Tick) (nodeId : UUID) : Prop :=
  ¬ scheduler.Processes tick nodeId ∧
    (scheduler.executeTick tick.context tick.sourceValues).1.runtimes.get? nodeId =
      scheduler.runtimes.get? nodeId

/-- The node is on the clock of another source. -/
def Foreign (tick : Tick) (node : CompiledNode ρ) : Prop :=
  ∃ clock, node.clockId = some clock ∧ clock ≠ tick.source

theorem executeTick_fst (scheduler : Scheduler ρ) (tick : Tick) :
    (scheduler.executeTick tick.context tick.sourceValues).1 = { scheduler with
      runtimes := (tickNodes tick.context scheduler.plan.nodes
        (scheduler.startTick tick.sourceValues)).1.runtimes
      staticCache := (tickNodes tick.context scheduler.plan.nodes
        (scheduler.startTick tick.sourceValues)).1.staticCache } := by
  unfold executeTick
  rcases tickNodes tick.context scheduler.plan.nodes (scheduler.startTick tick.sourceValues) with
    ⟨state, outcome⟩
  cases outcome <;> rfl

/-- The scheduler of a plan whose cache holds values of static nodes only. -/
structure CachesStatic (plan : ExecutionPlan ρ) (scheduler : Scheduler ρ) : Prop where
  plan_eq : scheduler.plan = plan
  cached : ∀ key ∈ scheduler.staticCache.keys,
    ∃ node ∈ plan.nodes, node.nodeId = key.nodeId ∧ node.isStatic = true

variable {plan : ExecutionPlan ρ}

omit [NodeRuntime ρ] in
theorem cachesStatic_create {reusable : Dict UUID ρ}
    {scheduler : Scheduler ρ} (created : create plan reusable = .ok scheduler) :
    CachesStatic plan scheduler := by
  rcases bind_ok created with ⟨⟨runtimes, borrowed⟩, _, built⟩
  cases built
  exact ⟨rfl, fun key member => absurd member List.not_mem_nil⟩

theorem CachesStatic.step {scheduler next : Scheduler ρ} {tick : Tick}
    (caches : CachesStatic plan scheduler) (ticked : scheduler.step tick = some next) :
    CachesStatic plan next := by
  cases ticked
  rw [executeTick_fst]
  refine ⟨caches.plan_eq, ?_⟩
  intro key member
  rcases tickNodes_staticCache tick.context scheduler.plan.nodes _ member with before | entered
  · exact caches.cached key before
  · rwa [caches.plan_eq] at entered

omit [NodeRuntime ρ] in
theorem mem_keys_updateValues {values sourceValues : PortValues} {key : PortKey}
    (member : key ∈ (updateValues values sourceValues).keys) :
    key ∈ values.keys ∨ key ∈ sourceValues.keys := by
  unfold updateValues Dict.keys at *
  generalize sourceValues.entries = entries at *
  induction entries generalizing values with
  | nil => exact Or.inl member
  | cons entry rest ih =>
      rcases ih member with inserted | later
      · rcases Dict.mem_keys_insert.mp inserted with rfl | before
        · exact Or.inr List.mem_cons_self
        · exact Or.inl before
      · exact Or.inr (List.mem_cons_of_mem _ later)

/-- A tick that returns runs every demanded source without inputs, except its own. -/
theorem processes_source (clocked : WellClocked plan)
    {scheduler : Scheduler ρ} (caches : CachesStatic plan scheduler) {tick : Tick}
    {source : CompiledNode ρ} (member : source ∈ plan.nodes) (demanded : source.isDemanded = true)
    (ownClock : source.clockId = some source.nodeId) (noInputs : source.inputBindings = Dict.empty)
    (different : source.nodeId ≠ tick.source)
    (returns : ∃ result,
      (scheduler.executeTick tick.context tick.sourceValues).2 = .ok result) :
    scheduler.Processes tick source.nodeId := by
  rcases List.append_of_mem member with ⟨before, after, split⟩
  have nodes : scheduler.plan.nodes = before ++ source :: after := by rw [caches.plan_eq, split]
  have finished : ∃ final, tickNodes tick.context (before ++ source :: after)
      (scheduler.startTick tick.sourceValues) = (final, .ok ()) := by
    rcases returns with ⟨result, returned⟩
    rw [executeTick, nodes] at returned
    rcases ticked : tickNodes tick.context (before ++ source :: after)
      (scheduler.startTick tick.sourceValues) with ⟨final, outcome⟩
    cases outcome with
    | error error => rw [ticked] at returned; cases returned
    | ok _ => exact ⟨final, rfl⟩
  rcases finished with ⟨final, finished⟩
  rcases tickNodes_append_ok finished with ⟨middle, first, second⟩
  have distinct := clocked.distinct
  rw [split, List.map_append, List.map_cons] at distinct
  have absent : ∀ key ∈ middle.values.keys, key.nodeId ≠ source.nodeId := by
    intro key isKey same
    have published : key ∈ (tickNodes tick.context before
        (scheduler.startTick tick.sourceValues)).1.values.keys := by
      rw [first]
      exact isKey
    have origin := tickNodes_values tick.context before
      (scheduler.startTick tick.sourceValues) published
    rcases origin with atStart | published
    · rcases mem_keys_updateValues atStart with cachedKey | supplied
      · rcases caches.cached key cachedKey with ⟨node, isNode, owns, static⟩
        have isSource : node = source :=
          List.inj_on_of_nodup_map clocked.distinct isNode member (owns.trans same)
        have noClock := clocked.static_clock node isNode static
        rw [isSource, ownClock] at noClock
        cases noClock
      · exact different (same.symm.trans (tick.own key supplied))
    · rw [same] at published
      exact (List.nodup_append.mp distinct).2.2 _ published _ List.mem_cons_self rfl
  have ran := tickNode_runs tick.context demanded noInputs absent
  rw [Processes, nodes, finished]
  have reached : (tickNodes tick.context (source :: after) middle).1.ran source.nodeId := by
    rw [tickNodes] at second ⊢
    rcases ticked : tickNode tick.context source middle with ⟨next, outcome⟩
    rw [ticked] at ran second
    cases outcome with
    | error error => cases second
    | ok _ => exact tickNodes_ran tick.context after ran
  rwa [second] at reached

/-- For every compiled plan and every tick after any sequence of ticks: while
no demanded node is on a foreign clock the tick leaves every node on a foreign
clock untouched, and a tick that returns leaves them untouched only then. -/
theorem foreign_untouched_iff (documentId : UUID) (revision : Nat) (resolved : Resolved ρ)
    (demandRoots : Option (List UUID)) (plan : ExecutionPlan ρ)
    (built : buildPlan documentId revision (analyze resolved demandRoots).1 = .ok plan)
    (reusable : Dict UUID ρ) (start scheduler : Scheduler ρ)
    (created : create plan reusable = .ok start) (ticks : List Tick)
    (reached : run step start ticks = some scheduler) (tick : Tick) :
    ((∀ node ∈ plan.nodes, Foreign tick node → node.isDemanded = false) →
      ∀ node ∈ plan.nodes, Foreign tick node → scheduler.Untouched tick node.nodeId) ∧
    ((∀ node ∈ plan.nodes, node.definition.executionKind = .source →
        ∀ connected, inputSocketIds node.definition connected = []) →
      (∃ result, (scheduler.executeTick tick.context tick.sourceValues).2 = .ok result) →
      (∀ node ∈ plan.nodes, Foreign tick node → scheduler.Untouched tick node.nodeId) →
      ∀ node ∈ plan.nodes, Foreign tick node → node.isDemanded = false) := by
  have clocked := wellClocked_of_compiled built
  have caches : CachesStatic plan scheduler := run_invariant
    (fun _ _ _ caches _ ticked => CachesStatic.step caches ticked)
    (cachesStatic_create created) (meets_of_forall (fun _ _ => trivial) start ticks) reached
  constructor
  · intro idle node member foreign
    have onlyNode : ∀ other ∈ scheduler.plan.nodes, other.nodeId = node.nodeId →
        other.isDemanded = false := by
      intro other isOther same
      rw [caches.plan_eq] at isOther
      have isNode : other = node := List.inj_on_of_nodup_map clocked.distinct isOther member same
      exact isNode ▸ idle node member foreign
    have leaves := tickNodes_leaves tick.context onlyNode (scheduler.startTick tick.sourceValues)
    refine ⟨?_, ?_⟩
    · rw [Processes, leaves.2]
      exact List.not_mem_nil
    · rw [executeTick_fst]
      exact leaves.1
  · intro noSockets returns untouched node member foreign
    rcases foreign with ⟨clock, onClock, different⟩
    by_contra contrary
    have demanded : node.isDemanded = true := Bool.eq_true_of_not_eq_false contrary
    rcases clocked.source node member clock demanded onClock with
      ⟨source, isNode, rfl, ownClock, sourceDemanded, isSource⟩
    have noInputs := clocked.bindings source isNode (noSockets source isNode isSource)
    have ran := processes_source clocked caches isNode sourceDemanded ownClock noInputs
      different returns
    exact (untouched source isNode ⟨source.nodeId, ownClock, different⟩).1 ran

end Scheduler

/-! ## Two videos, each with its own output -/

/-- The runtimes of the example: the placeholder of a source, which answers
`NoData` on its ports, a stateless node that finds one note in every image, and
the Send MIDI sink. -/
inductive ExampleRuntime where
  | noData (outputPorts : List String)
  | noteOfImage (nodeId : UUID)
  | sendMidi (runtime : SendMidiRuntime)

namespace ExampleRuntime

def noteState (nodeId : UUID) (context : FrameContext) : MidiStateFrame where
  notes := middleC
  context := context
  sourceNodeId := nodeId
  active := middleC_active

def process (runtime : ExampleRuntime) (inputs : Dict String RuntimeValue)
    (parameters : Dict String ParameterValue) (context : FrameContext) :
    ExampleRuntime × Except NodeFailure (Dict String RuntimeValue) :=
  match runtime with
  | .noData ports =>
      (runtime, .ok (Dict.ofEntries (ports.map (fun portId => (portId, RuntimeValue.noData)))))
  | .noteOfImage nodeId =>
      (runtime, .ok (Dict.ofEntries [("midi", RuntimeValue.midi (noteState nodeId context))]))
  | .sendMidi sink =>
      let (sink, outcome) := sink.process inputs parameters context
      (.sendMidi sink, outcome)

/-- The Send MIDI sink panics its service; the sender thread answers in time. -/
def panic (runtime : SendMidiRuntime) (publishGeneration : Nat) :
    ExampleRuntime × Except PyError Unit :=
  (.sendMidi { runtime with
    service := SendMidiRuntime.requestPanic runtime.service publishGeneration }, .ok ())

instance : NodeRuntime ExampleRuntime where
  process := process
  reset runtime _ := match runtime with
    | .sendMidi sink => panic { sink with inputMissing := false } 0
    | other => (other, .ok ())
  close runtime := (runtime, .ok ())
  panic? runtime := match runtime with
    | .sendMidi sink => some (panic sink)
    | _ => none

/-- The requested panics of a Send MIDI sink. -/
def panicRequests : ExampleRuntime → List PanicRequest
  | .sendMidi sink => sink.service.requests
  | _ => []

end ExampleRuntime

def exampleContract (typeId : String) (executionKind : ExecutionKind) (inputs : List InputPortSpec)
    (outputs : List OutputPortSpec) (cachePolicy : CachePolicy) (handlesNoData : Bool)
    (runtimeFactory : UUID → ExampleRuntime) : NodeExecutionContract ExampleRuntime where
  typeId := typeId
  implementationVersion := 1
  executionKind := executionKind
  inputs := inputs
  outputs := outputs
  parameters := []
  runtimeFactory := fun nodeId => .ok (runtimeFactory nodeId)
  variadicInput := none
  cachePolicy := cachePolicy
  handlesNoData := handlesNoData
  parameterValidator := none
  sourceOutputs := none

def videoContract : NodeExecutionContract ExampleRuntime :=
  exampleContract "synmachine.input.load_video" .source []
    [⟨"image", .port .image⟩, ⟨"processed_index", .port .int⟩] .never false
    (fun _ => .noData ["image", "processed_index"])

def noteContract : NodeExecutionContract ExampleRuntime :=
  exampleContract "synmachine.synesthesia.region_grid" .stateless
    [⟨"image", .port .image, true⟩] [⟨"midi", .port .midiState⟩] .auto false .noteOfImage

def sendMidiContract : NodeExecutionContract ExampleRuntime :=
  exampleContract "synmachine.output.send_midi" .sink [⟨"midi", .port .midiState, true⟩] []
    .never true (fun nodeId => .sendMidi (SendMidiRuntime.create nodeId))

def sendMidiParameters : Dict String ParameterValue := Dict.ofEntries [
  ("output_port", .string "out"), ("velocity_update_policy", .string "Ignore while held"),
  ("velocity_change_threshold", .int 4)]

/-- The videos 1 and 2, their note finders 3 and 4, their outputs 5 and 6. -/
def twoVideos : Resolved ExampleRuntime where
  nodes := [1, 2, 3, 4, 5, 6]
  definitions := Dict.ofEntries [(1, videoContract), (2, videoContract), (3, noteContract),
    (4, noteContract), (5, sendMidiContract), (6, sendMidiContract)]
  parameters := Dict.ofEntries [(1, Dict.empty), (2, Dict.empty), (3, Dict.empty),
    (4, Dict.empty), (5, sendMidiParameters), (6, sendMidiParameters)]
  connections := [⟨10, 1, "image", 3, "image"⟩, ⟨11, 2, "image", 4, "image"⟩,
    ⟨12, 3, "midi", 5, "midi"⟩, ⟨13, 4, "midi", 6, "midi"⟩]
  resolvedTypes := Dict.ofEntries [
    ((1, "image", true), some .image), ((1, "processed_index", true), some .int),
    ((2, "image", true), some .image), ((2, "processed_index", true), some .int),
    ((3, "image", false), some .image), ((3, "midi", true), some .midiState),
    ((4, "image", false), some .image), ((4, "midi", true), some .midiState),
    ((5, "midi", false), some .midiState), ((6, "midi", false), some .midiState)]
  nodes_nodup := by decide
  source_mem := by decide
  destination_mem := by decide

def exampleContext (source publishGeneration : Nat) : FrameContext :=
  { FrameContext.first source publishGeneration with sourceFrameIndex := some 0 }

/-- One grey pixel. -/
def exampleImage (source publishGeneration : Nat) : ImageFrame where
  data := ⟨[1, 1, 1], [0], rfl⟩
  colorSpace := .linearRgb
  channelNames := ["Y"]
  alphaMode := .none
  context := exampleContext source publishGeneration
  provenance := ⟨source, "video", by decide⟩
  channelNames_ne_nil := by simp
  shape_data := ⟨1, 1, rfl⟩

/-- A frame of one of the videos. -/
def videoTick (source publishGeneration : Nat) : Tick where
  source := source
  context := exampleContext source publishGeneration
  sourceValues := ⟨[(⟨source, "image"⟩, .image (exampleImage source publishGeneration)),
    (⟨source, "processed_index"⟩, .int 0)], by simp⟩
  own := by
    intro key member
    simp only [Dict.keys, List.map_cons, List.map_nil, List.mem_cons, List.not_mem_nil,
      or_false] at member
    rcases member with rfl | rfl <;> rfl

/-- A tick of the second video, from the compiled plan on. -/
structure ExampleRun where
  plan : ExecutionPlan ExampleRuntime
  start : Scheduler ExampleRuntime
  before : Scheduler ExampleRuntime

def exampleRun (demandRoots : Option (List UUID)) : Except PyError ExampleRun := do
  let plan ← buildPlan 0 1 (analyze twoVideos demandRoots).1
  let start ← Scheduler.create plan Dict.empty
  return ⟨plan, start, (start.executeTick (videoTick 2 1).context (videoTick 2 1).sourceValues).1⟩

theorem exampleRun_ok {demandRoots : Option (List UUID)} {example_ : ExampleRun}
    (finished : exampleRun demandRoots = .ok example_) :
    buildPlan 0 1 (analyze twoVideos demandRoots).1 = .ok example_.plan ∧
      Scheduler.create example_.plan Dict.empty = .ok example_.start ∧
        run Scheduler.step example_.start [videoTick 2 1] = some example_.before := by
  rcases bind_ok finished with ⟨plan, built, finished⟩
  rcases bind_ok finished with ⟨start, created, finished⟩
  cases finished
  exact ⟨built, created, rfl⟩

/-- The nodes of a plan with their clocks and demand. -/
def clockTable (plan : ExecutionPlan ExampleRuntime) : List (UUID × Option UUID × Bool) :=
  plan.nodes.map (fun node => (node.nodeId, node.clockId, node.isDemanded))

/-- The panics requested of the second video's output. -/
def panicsOfSecondOutput (scheduler : Scheduler ExampleRuntime) : List PanicRequest :=
  ((scheduler.runtimes.get? 6).map ExampleRuntime.panicRequests).getD []

/-- While only the first video's output is demanded, a tick of the first video
leaves the second video and its output untouched. -/
theorem foreign_untouched_iff_oneOutput :
    ∃ example_, exampleRun (some [5]) = .ok example_ ∧
      ∀ node ∈ example_.plan.nodes, Scheduler.Foreign (videoTick 1 2) node →
        example_.before.Untouched (videoTick 1 2) node.nodeId := by
  have computed : ((exampleRun (some [5])).map (fun example_ => clockTable example_.plan)) =
      .ok [(1, some 1, true), (2, some 2, false), (3, some 1, true), (4, some 2, false),
        (5, some 1, true), (6, some 2, false)] := by decide +kernel
  cases finished : exampleRun (some [5]) with
  | error error =>
      rw [finished] at computed
      cases computed
  | ok example_ =>
      rw [finished] at computed
      have table : clockTable example_.plan = _ := Except.ok.inj computed
      rcases exampleRun_ok finished with ⟨built, created, reached⟩
      refine ⟨example_, rfl, (Scheduler.foreign_untouched_iff 0 1 twoVideos (some [5]) example_.plan
        built Dict.empty example_.start example_.before created [videoTick 2 1] reached
        (videoTick 1 2)).1 ?_⟩
      intro node member foreign
      rcases foreign with ⟨clock, onClock, different⟩
      have listed : (node.nodeId, node.clockId, node.isDemanded) ∈ clockTable example_.plan :=
        List.mem_map_of_mem member
      have idle : ∀ entry ∈ clockTable example_.plan, entry.2.1 ≠ some 1 →
          entry.2.2 = false := by
        rw [table]
        decide
      refine idle _ listed ?_
      intro first
      exact different (Option.some.inj (onClock.symm.trans first))

/-- A tick of the first video panics the output of the second. -/
theorem tick_panics_foreign_output :
    ∃ example_, exampleRun none = .ok example_ ∧
      (∃ node ∈ example_.plan.nodes, node.nodeId = 6 ∧ Scheduler.Foreign (videoTick 1 2) node) ∧
      ¬ example_.before.Untouched (videoTick 1 2) 6 ∧
      panicsOfSecondOutput example_.before = [] ∧
      panicsOfSecondOutput (example_.before.executeTick (videoTick 1 2).context
        (videoTick 1 2).sourceValues).1 = [⟨1, 2⟩] := by
  have computed : ((exampleRun none).map (fun example_ => (clockTable example_.plan,
      panicsOfSecondOutput example_.before,
      panicsOfSecondOutput (example_.before.executeTick (videoTick 1 2).context
        (videoTick 1 2).sourceValues).1))) =
      .ok ([(1, some 1, true), (2, some 2, true), (3, some 1, true), (4, some 2, true),
        (5, some 1, true), (6, some 2, true)], [], [⟨1, 2⟩]) := by decide +kernel
  cases finished : exampleRun none with
  | error error =>
      rw [finished] at computed
      cases computed
  | ok example_ =>
      rw [finished] at computed
      rcases Prod.mk.inj (Except.ok.inj computed) with ⟨table, panics⟩
      rcases Prod.mk.inj panics with ⟨before, after⟩
      have listed : ((6 : UUID), some (2 : UUID), true) ∈ clockTable example_.plan := by
        rw [table]
        decide
      rcases List.mem_map.mp listed with ⟨node, member, entry⟩
      rcases Prod.mk.inj entry with ⟨isSixth, clocked⟩
      refine ⟨example_, rfl, ⟨node, member, isSixth, 2, (Prod.mk.inj clocked).1, by decide⟩, ?_,
        before, after⟩
      intro untouched
      have same : panicsOfSecondOutput (example_.before.executeTick (videoTick 1 2).context
          (videoTick 1 2).sourceValues).1 = panicsOfSecondOutput example_.before := by
        rw [panicsOfSecondOutput, untouched.2, panicsOfSecondOutput]
      rw [before, after] at same
      cases same

end Runtime
end Synesthesia
