import Synesthesia.Graph.WellFormedPlan
import Synesthesia.Runtime.SchedulerPanic
import Synesthesia.Runtime.StaticCache

namespace Synesthesia
namespace Runtime

open Foundation Contracts Nodes Synesthesia.Graph

/-!
# Locality of a tick

A plan is a list, and the scheduler walks it from its first node to its last.
The turn of a node changes nothing about another one: its ports, its runtime,
its cached outputs, its invocations and its error records.  What a node has when
its turn is over is therefore what it has at the end of the tick.
-/

variable {ρ : Type} [NodeRuntime ρ]

/-! ## States that are alike about a node -/

/-- The two states of a tick hold the same about a node: its ports, its
runtime, its cached outputs, its invocations and its error records. -/
structure Alike (nodeId : UUID) (left right : TickState ρ) : Prop where
  same : SameAbout nodeId left right
  cached : ∀ key : PortKey, key.nodeId = nodeId →
    right.staticCache.get? key = left.staticCache.get? key
  counted : right.invocations.get? nodeId = left.invocations.get? nodeId
  errors : right.errors.filter (fun error => decide (error.nodeId = nodeId)) =
    left.errors.filter (fun error => decide (error.nodeId = nodeId))

omit [NodeRuntime ρ] in
theorem Alike.refl (nodeId : UUID) (state : TickState ρ) : Alike nodeId state state :=
  ⟨SameAbout.refl nodeId state, fun _ _ => rfl, rfl, rfl⟩

variable {nodeId : UUID}

omit [NodeRuntime ρ] in
theorem Alike.trans {first second third : TickState ρ}
    (early : Alike nodeId first second) (late : Alike nodeId second third) :
    Alike nodeId first third :=
  ⟨early.same.trans late.same, fun key own => (late.cached key own).trans (early.cached key own),
    late.counted.trans early.counted, late.errors.trans early.errors⟩

theorem runNode_invocations (node : CompiledNode ρ) (context : FrameContext)
    (inputs : Dict String RuntimeValue) (state : TickState ρ) :
    (runNode node context inputs state).1.invocations = state.invocations.insert node.nodeId
      ((state.invocations.get? node.nodeId).getD 0 + 1) := by
  unfold runNode
  split <;> rfl

variable {context : FrameContext} {node : CompiledNode ρ}

/-- The error records of other nodes do not change in the turn of a node. -/
theorem turn_errors_filter {state next : TickState ρ}
    (different : node.nodeId ≠ nodeId)
    (taken : turn context state node = some next) :
    next.errors.filter (fun error => decide (error.nodeId = nodeId)) =
      state.errors.filter (fun error => decide (error.nodeId = nodeId)) := by
  have foreign : (((turnFailure context node state).map (failureError node context)).toList).filter
      (fun error => decide (error.nodeId = nodeId)) = [] := by
    rw [List.filter_eq_nil_iff]
    intro error own same
    rcases Option.map_eq_some_iff.mp (Option.mem_toList.mp own) with ⟨failure, _, rfl⟩
    rw [failureError_nodeId] at same
    exact different (of_decide_eq_true same)
  rw [turn_errors taken, List.filter_append, foreign, List.append_nil]

/-- The turn of another node leaves a node alone. -/
theorem turn_alike_of_ne {state next : TickState ρ}
    (different : node.nodeId ≠ nodeId)
    (taken : turn context state node = some next) : Alike nodeId state next := by
  have errors := turn_errors_filter different taken
  have same := turn_leaves different taken
  rcases turn_cases taken with ⟨_, rfl⟩ | ⟨_, inputs, _, ⟨_, rfl⟩ | ⟨_, rfl⟩⟩
  · exact Alike.refl nodeId next
  · refine ⟨same, ?_, rfl, errors⟩
    intro key own
    exact cacheOutputs_get?_of_ne _ _ (fun equal => different (equal.symm.trans own))
  · refine ⟨same, ?_, ?_, errors⟩
    · intro key own
      refine (cacheOutputs_get?_of_ne _ _ (fun equal => different (equal.symm.trans own))).trans ?_
      rw [runNode_staticCache]
    · change (runNode node context inputs state).1.invocations.get? nodeId = _
      rw [runNode_invocations, Dict.get?_insert_of_ne _ different.symm]

/-- The turns of other nodes leave a node alone. -/
theorem run_alike_of_absent {nodes : List (CompiledNode ρ)}
    (absent : nodeId ∉ nodes.map CompiledNode.nodeId) {state final : TickState ρ}
    (finished : run (turn context) state nodes = some final) : Alike nodeId state final := by
  induction nodes generalizing state with
  | nil =>
      cases finished
      exact Alike.refl nodeId final
  | cons node rest ih =>
      rw [List.map_cons, List.mem_cons, not_or] at absent
      rcases run_cons_eq_some.mp finished with ⟨next, taken, continued⟩
      exact (turn_alike_of_ne (Ne.symm absent.1) taken).trans
        (ih absent.2 continued)

omit [NodeRuntime ρ] in
theorem exists_binding_of_item
    {item : String × PortKey × Option ScalarConversion} (member : item ∈ node.inputBindingItems) :
    ∃ portId binding, node.inputBindings.get? portId = some binding ∧
      binding.source = item.2.1 := by
  rcases List.mem_map.mp member with ⟨⟨portId, binding⟩, isEntry, rfl⟩
  exact ⟨portId, binding, Dict.get?_of_mem isEntry, rfl⟩

/-- A node whose turn is over has what it will have at the end of the tick. -/
theorem run_alike_settled {plan : ExecutionPlan ρ}
    (distinct : (plan.nodes.map CompiledNode.nodeId).Nodup)
    {before after : List (CompiledNode ρ)} (split : plan.nodes = before ++ after)
    {state final : TickState ρ} (finished : run (turn context) state after = some final)
    {source : CompiledNode ρ} (earlier : source ∈ before) : Alike source.nodeId state final := by
  apply run_alike_of_absent ?_ finished
  intro later
  rw [split, List.map_append] at distinct
  exact (List.disjoint_of_nodup_append distinct) (List.mem_map_of_mem earlier) later

/-! ## Histories of a scheduler -/

/-- The calls that the graph worker and the engine make on a scheduler. -/
inductive SchedulerCall where
  | tick (context : FrameContext) (sourceValues : PortValues)
  | resetSource (clockId : UUID) (reason : ResetReason)
  | resetAll (reason : ResetReason)
  | panic (publishGeneration : Nat)

/-- A supplied value replaces the cached one. -/
theorem get?_updateValues_of_get? {values sourceValues : PortValues} {key : PortKey}
    {value : RuntimeValue} (found : sourceValues.get? key = some value) :
    (updateValues values sourceValues).get? key = some value := by
  have member := Dict.mem_of_get? found
  have distinct := sourceValues.nodup
  unfold updateValues
  generalize sourceValues.entries = entries at member distinct
  induction entries generalizing values with
  | nil => cases member
  | cons entry rest ih =>
      rw [List.map_cons, List.nodup_cons] at distinct
      rw [List.foldl_cons]
      rcases List.mem_cons.mp member with rfl | later
      · have absent : key ∉ (⟨rest, distinct.2⟩ : PortValues).keys := distinct.1
        exact (get?_updateValues_of_not_mem absent).trans (Dict.get?_insert_self _ _ _)
      · exact ih later distinct.2

/-! ### A meter and its display -/

def meterContract : NodeExecutionContract ScriptedRuntime :=
  scriptedContract "meter" .source [] [⟨"value", .port .int⟩] .auto (valueAnswer (.int 3))

def displayContract : NodeExecutionContract ScriptedRuntime :=
  scriptedContract "display" .visualizer [⟨"value", .port .int, true⟩] [] .never (.ok Dict.empty)

theorem meterContract_constructed : meterContract.Constructed :=
  constructed_of_plain List.nodup_nil (by decide) rfl rfl

theorem displayContract_constructed : displayContract.Constructed :=
  constructed_of_plain (by decide) List.nodup_nil rfl rfl

def meterDefinitions : Dict String (NodeExecutionContract ScriptedRuntime) :=
  (Dict.empty.insert "meter" meterContract).insert "display" displayContract

theorem meterDefinitions_entries :
    meterDefinitions.entries = [("meter", meterContract), ("display", displayContract)] := by
  rw [meterDefinitions]
  rfl

theorem meterDefinitions_keyed : Dict.Keyed NodeExecutionContract.typeId meterDefinitions := by
  intro entry member
  rw [meterDefinitions_entries, List.mem_cons, List.mem_singleton] at member
  rcases member with rfl | rfl
  · rfl
  · rfl

theorem meterDefinitions_constructed :
    ∀ entry ∈ meterDefinitions.entries, entry.2.Constructed := by
  intro entry member
  rw [meterDefinitions_entries, List.mem_cons, List.mem_singleton] at member
  rcases member with rfl | rfl
  · exact meterContract_constructed
  · exact displayContract_constructed

def meterRegistry : NodeRegistry ScriptedRuntime where
  definitions := meterDefinitions
  keyed := meterDefinitions_keyed
  constructed := meterDefinitions_constructed

def oneMeter : GraphSnapshot where
  documentId := 7
  revision := 3
  nodes := [⟨1, "meter", 1, Dict.empty⟩, ⟨4, "display", 1, Dict.empty⟩]
  connections := [⟨11, 1, "value", 4, "value"⟩]

def compiledMeter (nodeId : UUID) : CompiledNode ScriptedRuntime where
  nodeId := nodeId
  definition := meterContract
  parameters := Dict.empty
  inputBindings := Dict.empty
  inputTypes := Dict.empty
  outputTypes := Dict.ofEntries [("value", .int)]
  clockId := some nodeId
  isStatic := false
  isDemanded := true

def compiledDisplay (nodeId source : UUID) : CompiledNode ScriptedRuntime where
  nodeId := nodeId
  definition := displayContract
  parameters := Dict.empty
  inputBindings := Dict.ofEntries [("value", ⟨⟨source, "value"⟩, none⟩)]
  inputTypes := Dict.ofEntries [("value", .int)]
  outputTypes := Dict.empty
  clockId := some source
  isStatic := false
  isDemanded := true

def oneMeterPlan : ExecutionPlan ScriptedRuntime :=
  ⟨7, 3, [compiledMeter 1, compiledDisplay 4 1], [4]⟩

theorem compile_oneMeter : (compile meterRegistry oneMeter none).map CompilationResult.plan =
    .ok (some oneMeterPlan) := rfl

def oneMeterScheduler : Scheduler ScriptedRuntime where
  plan := oneMeterPlan
  runtimes := Dict.ofEntries [(1, ⟨valueAnswer (.int 3)⟩), (4, ⟨.ok Dict.empty⟩)]
  borrowedRuntimeIds := []
  staticCache := Dict.empty

/-- A frame of the meter, a reset of its source, and another frame. -/
def meterCalls : List SchedulerCall :=
  [.tick (FrameContext.first 1 0) Dict.empty, .resetSource 1 .sourceEnded,
    .tick (FrameContext.first 1 1) Dict.empty]

end Runtime
end Synesthesia
