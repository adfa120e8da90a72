import Mathlib
import Synesthesia.Foundation.SortByKey
import Synesthesia.Runtime.ExecutionPlan

namespace Synesthesia
namespace Runtime

open Foundation Contracts Nodes

/-!
# The scheduler

`runtime/scheduler.py`: one tick walks the plan in its order with a cache of
static outputs.  A failing node publishes `NoData` and an error record; only
the conversion of an input escapes the tick.  The timing and profiling hooks
observe a tick without effect on it and are left out.
-/

variable {ρ : Type} [NodeRuntime ρ]

/-- The values on ports during a tick. -/
abbrev PortValues := Dict PortKey RuntimeValue

structure TickResult where
  values : PortValues
  errors : List NodeExecutionError
  invocationCounts : Dict UUID Nat

structure Scheduler (ρ : Type) where
  plan : ExecutionPlan ρ
  runtimes : Dict UUID ρ
  borrowedRuntimeIds : List UUID
  staticCache : PortValues

/-! ## One node of a tick -/

def noDataOutputs (node : CompiledNode ρ) : Dict String RuntimeValue :=
  Dict.ofEntries (node.outputTypes.keys.map (fun portId => (portId, RuntimeValue.noData)))

/-- An input value with its conversion; only integers are converted. -/
def convertInput : Option ScalarConversion → RuntimeValue → Except PyError RuntimeValue
  | some .intToFloat, .int value => do
      let converted ← PyFloat.ofInt value
      return .float converted
  | _, value => .ok value

/-- The inputs of a node in the order of its bindings. -/
def gatherInputs (values : PortValues) :
    List (String × PortKey × Option ScalarConversion) → Dict String RuntimeValue →
      Except PyError (Dict String RuntimeValue)
  | [], inputs => .ok inputs
  | (portId, source, conversion) :: rest, inputs => do
      let value ← convertInput conversion ((values.get? source).getD .noData)
      gatherInputs values rest (inputs.insert portId value)

def ofParameterValue : ParameterValue → RuntimeValue
  | .float value => .float value
  | .int value => .int value
  | .bool value => .bool value
  | .string value => .string value
  | .color value => .color value
  -- no live value is a matrix
  | .matrix _ => .noData

/-- How an exception of the parameter overlay ends: a type or value error is
expected, anything else is not. -/
def dynamicParameterFailure : PyError → NodeFailure
  | .typeError message =>
      .expected "invalid_dynamic_parameter" ("Invalid live parameter value: " ++ message) none
  | .valueError message =>
      .expected "invalid_dynamic_parameter" ("Invalid live parameter value: " ++ message) none
  | .overflowError message => .unexpected message "OverflowError"
  | .runtimeError message => .unexpected message "RuntimeError"
  | .timeoutError message => .unexpected message "TimeoutError"
  | .keyError message => .unexpected message "KeyError"
  | .osError message => .unexpected message "OSError"

/-- Overlay the connected parameters of a list of specifications: the inputs
and the parameter values, `none` while no cable overrides one. -/
def overlayParameters (parameters : Dict String ParameterValue) :
    List ParameterSpec → Dict String RuntimeValue → Option (Dict String ParameterValue) →
      Except PyError (Dict String RuntimeValue × Option (Dict String ParameterValue))
  | [], inputs, values => .ok (inputs, values)
  | spec :: rest, inputs, values =>
      match inputs.get? spec.id with
      | none => overlayParameters parameters rest inputs values
      | some live => do
          let connected ← spec.connectedValue live
          overlayParameters parameters rest (inputs.insert spec.id (ofParameterValue connected))
            (some ((values.getD parameters).insert spec.id connected))

/-- The inputs and effective parameters of a node. -/
def effectiveParameters (node : CompiledNode ρ) (inputs : Dict String RuntimeValue) :
    Except NodeFailure (Dict String RuntimeValue × Dict String ParameterValue) :=
  match overlayParameters node.parameters node.connectableParameterSpecs inputs none with
  | .error error => .error (dynamicParameterFailure error)
  | .ok (inputs, none) => .ok (inputs, node.parameters)
  | .ok (inputs, some values) =>
      match node.definition.parameterValidator with
      | none => .ok (inputs, values)
      | some validator =>
          match validator values with
          | [] => .ok (inputs, values)
          | errors => .error (dynamicParameterFailure (.valueError ("; ".intercalate errors)))

/-- Materialize the integers on float outputs. -/
def convertFloatOutputs : List String → Dict String RuntimeValue →
    Except PyError (Dict String RuntimeValue)
  | [], outputs => .ok outputs
  | portId :: rest, outputs =>
      match outputs.get? portId with
      | some (.int value) => do
          let converted ← PyFloat.ofInt value
          convertFloatOutputs rest (outputs.insert portId (.float converted))
      | _ => convertFloatOutputs rest outputs

/-- `_output_type_check`. -/
def outputTypeCheck : PortType → RuntimeValue → Bool
  | .image, .image _ => true
  | .channel, .channel _ => true
  | .float, .float _ => true
  | .int, .int _ => true
  | .bool, .bool _ => true
  | .color, .color _ => true
  | .midiState, .midi _ => true
  | .string, .string _ => true
  | .scalarArray, .array values => decide (values.itemType ∈ [PortType.float, .int])
  | .imageArray, .array values => decide (values.itemType ∈ [PortType.image])
  | .channelArray, .array values => decide (values.itemType ∈ [PortType.channel])
  | _, _ => false

/-- The clock check of one output value. -/
def validateClock (expectedClock : Option UUID) (portId : String) (value : RuntimeValue) :
    Except String Unit :=
  let wrong (clock expected : UUID) : String :=
    "Output " ++ quoted portId ++ " uses clock " ++ uuidText clock ++ ", expected " ++
      uuidText expected
  match value with
  | .array values =>
      match values.clockIds, expectedClock with
      | [], _ => .ok ()
      | [clock], some expected => if clock ≠ expected then .error (wrong clock expected) else .ok ()
      | [_], none => .ok ()
      | _, _ =>
          .error ("Output " ++ quoted portId ++ " contains values from multiple source clocks")
  | value =>
      match clockIdOf value, expectedClock with
      | some clock, some expected =>
          if clock ≠ expected then .error (wrong clock expected) else .ok ()
      | _, _ => .ok ()

/-- The checks of a list of known outputs, in order. -/
def validateKnown (node : CompiledNode ρ) : List (String × RuntimeValue) → Except String Unit
  | [] => .ok ()
  | (portId, value) :: rest =>
      match node.outputTypes.get? portId with
      | none => .error ("Runtime returned unknown output port(s): " ++ portId)
      | some expected =>
          if value.isNoData then validateKnown node rest
          else if ¬ outputTypeCheck expected value then
            .error ("Output " ++ quoted portId ++ " expected " ++ portTypeText expected ++
              ", got " ++ typeName value)
          else do
            validateClock node.clockId portId value
            validateKnown node rest

/-- `_OutputValidator.validate`. -/
def validateOutputs (node : CompiledNode ρ) (outputs : Dict String RuntimeValue) :
    Except String Unit :=
  let unknown := (outputs.keys.filter (fun portId => decide (portId ∉ node.outputTypes.keys)))
  if unknown ≠ [] then
    .error ("Runtime returned unknown output port(s): " ++
      ", ".intercalate (sortByKey id unknown))
  else validateKnown node outputs.entries

/-- `str(KeyError(id))`. -/
def missingRuntimeText (id : UUID) : String := "UUID('" ++ uuidText id ++ "')"

/-- The part of a tick inside the exception boundary: overlay the parameters,
run the node, convert and check its outputs. -/
def invoke (node : CompiledNode ρ) (runtimes : Dict UUID ρ) (inputs : Dict String RuntimeValue)
    (context : FrameContext) :
    Dict UUID ρ × Except (NodeFailure ⊕ String) (Dict String RuntimeValue) :=
  match effectiveParameters node inputs with
  | .error failure => (runtimes, .error (.inl failure))
  | .ok (inputs, parameters) =>
      match runtimes.get? node.nodeId with
      | none =>
          (runtimes, .error (.inl (.unexpected (missingRuntimeText node.nodeId) "KeyError")))
      | some runtime =>
          let (runtime, returned) := NodeRuntime.process runtime inputs parameters context
          let runtimes := runtimes.insert node.nodeId runtime
          match returned with
          | .error failure => (runtimes, .error (.inl failure))
          | .ok outputs =>
              match convertFloatOutputs node.floatOutputPorts outputs with
              | .error _ =>
                  (runtimes, .error (.inl
                    (.unexpected "int too large to convert to float" "OverflowError")))
              | .ok outputs =>
                  match validateOutputs node outputs with
                  | .error message => (runtimes, .error (.inr message))
                  | .ok () => (runtimes, .ok outputs)

/-- The record of a failed node. -/
def failureError (node : CompiledNode ρ) (context : FrameContext) :
    NodeFailure ⊕ String → NodeExecutionError
  | .inl (.expected code message details) =>
      ⟨node.nodeId, code, message, details, true, some context.tickIndex⟩
  | .inl (.unexpected text traceback) =>
      ⟨node.nodeId, "unexpected_node_error", text, some traceback, false, some context.tickIndex⟩
  | .inr message =>
      ⟨node.nodeId, "invalid_node_output", message, none, false, some context.tickIndex⟩

/-- What a tick carries from node to node. -/
structure TickState (ρ : Type) where
  runtimes : Dict UUID ρ
  staticCache : PortValues
  values : PortValues
  errors : List NodeExecutionError
  invocations : Dict UUID Nat

/-- Publish the outputs of a node on its declared ports. -/
def publishOutputs (node : CompiledNode ρ) (outputs : Dict String RuntimeValue)
    (values : PortValues) : PortValues :=
  node.outputPortItems.foldl
    (fun values item => values.insert item.2 ((outputs.get? item.1).getD .noData)) values

/-- A static node's published outputs enter the cache. -/
def cacheOutputs (node : CompiledNode ρ) (values cache : PortValues) : PortValues :=
  if node.isStatic then
    node.outputPortItems.foldl
      (fun cache item => cache.insert item.2 ((values.get? item.2).getD .noData)) cache
  else cache

/-- A node is skipped when nobody demands it or its outputs are already there. -/
def isSkipped (node : CompiledNode ρ) (values : PortValues) : Bool :=
  !node.isDemanded ||
    (!node.outputTypes.keys.isEmpty && node.outputPortKeys.all (fun key => key ∈ values.keys))

/-- Whether a missing input keeps a node from running. -/
def isStarved (node : CompiledNode ρ) (inputs : Dict String RuntimeValue) : Bool :=
  !node.definition.handlesNoData && inputs.entries.any (fun entry => entry.2.isNoData)

/-- The invocation of a node that is neither skipped nor starved. -/
def runNode (node : CompiledNode ρ) (context : FrameContext)
    (inputs : Dict String RuntimeValue) (state : TickState ρ) :
    TickState ρ × Dict String RuntimeValue :=
  let invocations :=
    state.invocations.insert node.nodeId ((state.invocations.get? node.nodeId).getD 0 + 1)
  match invoke node state.runtimes inputs context with
  | (runtimes, .ok outputs) =>
      ({ state with runtimes := runtimes, invocations := invocations }, outputs)
  | (runtimes, .error failure) =>
      ({ state with
          runtimes := runtimes
          invocations := invocations
          errors := state.errors ++ [failureError node context failure] },
        noDataOutputs node)

/-- One node of the tick loop. -/
def tickNode (context : FrameContext) (node : CompiledNode ρ) (state : TickState ρ) :
    TickState ρ × Except PyError Unit :=
  if isSkipped node state.values then (state, .ok ())
  else
    match gatherInputs state.values node.inputBindingItems Dict.empty with
    | .error error => (state, .error error)
    | .ok inputs =>
        let (state, outputs) :=
          if isStarved node inputs then (state, noDataOutputs node)
          else runNode node context inputs state
        let values := publishOutputs node outputs state.values
        ({ state with
            values := values
            staticCache := cacheOutputs node values state.staticCache }, .ok ())

/-- The tick loop stops at an exception that escapes. -/
def tickNodes (context : FrameContext) :
    List (CompiledNode ρ) → TickState ρ → TickState ρ × Except PyError Unit
  | [], state => (state, .ok ())
  | node :: rest, state =>
      match tickNode context node state with
      | (state, .ok ()) => tickNodes context rest state
      | (state, .error error) => (state, .error error)

/-- `dict.update`. -/
def updateValues (values sourceValues : PortValues) : PortValues :=
  sourceValues.entries.foldl (fun values entry => values.insert entry.1 entry.2) values

namespace Scheduler

/-- The tick state that `execute_tick` starts from. -/
def startTick (scheduler : Scheduler ρ) (sourceValues : PortValues) : TickState ρ where
  runtimes := scheduler.runtimes
  staticCache := scheduler.staticCache
  values := updateValues scheduler.staticCache sourceValues
  errors := []
  invocations := Dict.empty

def executeTick (scheduler : Scheduler ρ) (context : FrameContext) (sourceValues : PortValues) :
    Scheduler ρ × Except PyError TickResult :=
  let (state, outcome) :=
    tickNodes context scheduler.plan.nodes (scheduler.startTick sourceValues)
  let scheduler :=
    { scheduler with runtimes := state.runtimes, staticCache := state.staticCache }
  match outcome with
  | .error error => (scheduler, .error error)
  | .ok () => (scheduler, .ok ⟨state.values, state.errors, state.invocations⟩)

/-! ## Reset and panic -/

/-- The kinds that own state. -/
def isStateOwner : ExecutionKind → Bool
  | .source => true
  | .stateless => false
  | .stateful => true
  | .sink => true
  | .visualizer => true

/-- Call the runtimes of a list in order, those for which there is a call.
The identifiers of the called runtimes are recorded; an exception stops the
loop. -/
def visitRuntimes (call? : ρ → Option (ρ × Except PyError Unit)) :
    List UUID → Dict UUID ρ → Dict UUID ρ × List UUID × Except PyError Unit
  | [], runtimes => (runtimes, [], .ok ())
  | id :: rest, runtimes =>
      match runtimes.get? id with
      | none => (runtimes, [], .error (.keyError (missingRuntimeText id)))
      | some runtime =>
          match call? runtime with
          | none => visitRuntimes call? rest runtimes
          | some (runtime, .error error) => (runtimes.insert id runtime, [id], .error error)
          | some (runtime, .ok ()) =>
              let (runtimes, reached, outcome) :=
                visitRuntimes call? rest (runtimes.insert id runtime)
              (runtimes, id :: reached, outcome)

/-- The state-owning nodes of one compiled source component. -/
def stateOwners (scheduler : Scheduler ρ) (clockId : UUID) : List UUID :=
  (scheduler.plan.nodes.filter (fun node =>
    decide (node.clockId = some clockId) && isStateOwner node.definition.executionKind)).map
      CompiledNode.nodeId

/-- Reset state-owning runtimes in one compiled source component; the second
part of the result lists the runtimes that were reached. -/
def resetSource (scheduler : Scheduler ρ) (clockId : UUID) (reason : ResetReason) :
    Scheduler ρ × List UUID × Except PyError Unit :=
  let (runtimes, reached, outcome) := visitRuntimes
    (fun runtime => some (NodeRuntime.reset runtime reason)) (scheduler.stateOwners clockId)
    scheduler.runtimes
  ({ scheduler with runtimes := runtimes }, reached, outcome)

def resetAll (scheduler : Scheduler ρ) (reason : ResetReason) :
    Scheduler ρ × List UUID × Except PyError Unit :=
  match visitRuntimes (fun runtime => some (NodeRuntime.reset runtime reason))
      scheduler.runtimes.keys scheduler.runtimes with
  | (runtimes, reached, .ok ()) =>
      ({ scheduler with runtimes := runtimes, staticCache := Dict.empty }, reached, .ok ())
  | (runtimes, reached, .error error) =>
      ({ scheduler with runtimes := runtimes }, reached, .error error)

def panic (scheduler : Scheduler ρ) (publishGeneration : Nat) :
    Scheduler ρ × List UUID × Except PyError Unit :=
  let (runtimes, reached, outcome) := visitRuntimes
    (fun runtime => (NodeRuntime.panic? runtime).map (fun call => call publishGeneration))
    scheduler.runtimes.keys scheduler.runtimes
  ({ scheduler with runtimes := runtimes }, reached, outcome)

/-! ## Construction -/

/-- Build or borrow the runtime of every node of the plan; when a factory
raises, the runtimes made so far are closed. -/
def buildRuntimes (reusable : Dict UUID ρ) :
    List (CompiledNode ρ) → Dict UUID ρ → List UUID → Except PyError (Dict UUID ρ × List UUID)
  | [], runtimes, borrowed => .ok (runtimes, borrowed)
  | node :: rest, runtimes, borrowed =>
      match reusable.get? node.nodeId with
      | some runtime =>
          buildRuntimes reusable rest (runtimes.insert node.nodeId runtime)
            (borrowed ++ [node.nodeId])
      | none => do
          let runtime ← node.definition.runtimeFactory node.nodeId
          buildRuntimes reusable rest (runtimes.insert node.nodeId runtime) borrowed

def create (plan : ExecutionPlan ρ) (reusable : Dict UUID ρ) : Except PyError (Scheduler ρ) := do
  let (runtimes, borrowed) ← buildRuntimes reusable plan.nodes Dict.empty []
  return ⟨plan, runtimes, borrowed, Dict.empty⟩

end Scheduler
end Runtime
end Synesthesia
