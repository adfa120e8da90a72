import Mathlib
import Synesthesia.Foundation.SortByKey
import Synesthesia.Nodes.Parameters

namespace Synesthesia
namespace Nodes

open Foundation Contracts

/-!
# Execution contracts and node runtimes

What the compiler and the scheduler read of a node (`nodes/base.py`).  A node
runtime is an object with a state; the type `ρ` of those states is arbitrary,
and the class `NodeRuntime` says what the objects do.
-/

inductive ExecutionKind where
  | source
  | stateless
  | stateful
  | sink
  | visualizer
deriving DecidableEq, Repr

inductive CachePolicy where
  | auto
  | never
  | static
deriving DecidableEq, Repr

inductive ResetReason where
  | planReplaced
  | sourceRestarted
  | sourceEnded
  | seek
  | parameterChanged
  | clockChanged
  | engineRestarted
deriving DecidableEq, Repr

/-- How `process` fails: with the recoverable `ExpectedNodeError`, or with any
other exception, of which the text and the traceback are kept. -/
inductive NodeFailure where
  | expected (code message : String) (details : Option String)
  | unexpected (text traceback : String)
deriving DecidableEq, Repr

structure NodeExecutionError where
  nodeId : UUID
  code : String
  message : String
  details : Option String
  recoverable : Bool
  tickIndex : Option Nat
deriving DecidableEq, Repr

/-- The lifecycle of a node runtime.  Every operation returns the new state;
`panic?` is `none` for a runtime that is not panic-capable. -/
class NodeRuntime (ρ : Type) where
  process : ρ → Dict String RuntimeValue → Dict String ParameterValue → FrameContext →
    ρ × Except NodeFailure (Dict String RuntimeValue)
  reset : ρ → ResetReason → ρ × Except PyError Unit
  close : ρ → ρ × Except PyError Unit
  panic? : ρ → Option (Nat → ρ × Except PyError Unit)

/-! ## Ports -/

/-- The declared type of a port: a type, or a type variable of the node, which
may have a type to settle to when nothing constrains it. -/
inductive PortTypeExpression where
  | port (type : PortType)
  | typeVariable (name : String) (allowedTypes : List PortType) (defaultType : Option PortType)
  | arrayTypeVariable (name : String) (allowedTypes : List PortType)
deriving DecidableEq, Repr

structure InputPortSpec where
  id : String
  valueType : PortTypeExpression
  required : Bool
deriving DecidableEq, Repr

structure OutputPortSpec where
  id : String
  valueType : PortTypeExpression
deriving DecidableEq, Repr

/-- An unbounded family of indexed input sockets. -/
structure VariadicInputSpec where
  idPrefix : String
  valueType : PortTypeExpression
  minimumCount : Nat
  positive : 1 ≤ minimumCount
deriving Repr

namespace VariadicInputSpec

/-- A decimal numeral without a leading zero. -/
def numeral? : List Char → Option Nat
  | [] => none
  | first :: rest =>
      if first ≠ '0' ∧ (first :: rest).all Char.isDigit then
        some ((first :: rest).foldl (fun value digit => 10 * value + (digit.toNat - 48)) 0)
      else none

/-- The index of a socket of the family. -/
def index (family : VariadicInputSpec) (portId : String) : Option Nat :=
  let stem := (family.idPrefix ++ "_").toList
  if stem.isPrefixOf portId.toList then numeral? (portId.toList.drop stem.length) else none

def port (family : VariadicInputSpec) (index : Nat) : InputPortSpec where
  id := family.idPrefix ++ "_" ++ toString index
  valueType := family.valueType
  required := decide (index ≤ family.minimumCount)

end VariadicInputSpec

/-- Which output ports carry a source's published frame. -/
structure SourceOutputContract where
  imagePort : String
  processedIndexPort : String
  different : imagePort ≠ processedIndexPort
deriving DecidableEq

/-- The part of an execution contract that a graph is validated by and that a
compiled plan is run by. -/
structure NodeExecutionContract (ρ : Type) where
  typeId : String
  implementationVersion : Nat
  executionKind : ExecutionKind
  inputs : List InputPortSpec
  outputs : List OutputPortSpec
  parameters : List ParameterSpec
  runtimeFactory : UUID → Except PyError ρ
  variadicInput : Option VariadicInputSpec
  cachePolicy : CachePolicy
  handlesNoData : Bool
  parameterValidator : Option (Dict String ParameterValue → List String)
  sourceOutputs : Option SourceOutputContract
  portTypeResolver :
    Option (String → Bool → Dict String ParameterValue → PortTypeExpression) := none
  requiredInputResolver : Option (Dict String ParameterValue → List String) := none

namespace NodeExecutionContract

variable {ρ : Type} (definition : NodeExecutionContract ρ)

/-- The fixed sockets, then those of the family in numeric order: as many as it
needs at least, and the connected ones. -/
def inputPorts (connectedPortIds : List String) : List InputPortSpec :=
  match definition.variadicInput with
  | none => definition.inputs
  | some family =>
      let indexes := List.range' 1 family.minimumCount ++ connectedPortIds.filterMap family.index
      definition.inputs ++ (sortByKey id indexes.dedup).map family.port

def output (portId : String) : Option OutputPortSpec :=
  definition.outputs.find? (fun port => decide (port.id = portId))

end NodeExecutionContract

end Nodes
end Synesthesia
