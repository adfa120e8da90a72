import Synesthesia.Nodes.Base

namespace Synesthesia
namespace Runtime

open Foundation Contracts Nodes

/-!
# Execution plans

`runtime/execution_plan.py`: the immutable result of compilation.  The lookup
structures that a compiled node precomputes are functions of its fields here.
-/

inductive ScalarConversion where
  | intToFloat
deriving DecidableEq, Repr

structure PortKey where
  nodeId : UUID
  portId : String
deriving DecidableEq, Repr

structure InputBinding where
  source : PortKey
  conversion : Option ScalarConversion
deriving DecidableEq, Repr

structure CompiledNode (ρ : Type) where
  nodeId : UUID
  definition : NodeExecutionContract ρ
  parameters : Dict String ParameterValue
  inputBindings : Dict String InputBinding
  inputTypes : Dict String PortType
  outputTypes : Dict String PortType
  clockId : Option UUID
  isStatic : Bool
  isDemanded : Bool

namespace CompiledNode

variable {ρ : Type} (node : CompiledNode ρ)

def outputPortKeys : List PortKey := node.outputTypes.keys.map (PortKey.mk node.nodeId)

def outputPortItems : List (String × PortKey) :=
  node.outputTypes.keys.map (fun portId => (portId, ⟨node.nodeId, portId⟩))

def inputBindingItems : List (String × PortKey × Option ScalarConversion) :=
  node.inputBindings.entries.map (fun entry => (entry.1, entry.2.source, entry.2.conversion))

def floatOutputPorts : List String :=
  (node.outputTypes.entries.filter (fun entry => decide (entry.2 = .float))).map Prod.fst

def connectableParameterSpecs : List ParameterSpec :=
  node.definition.parameters.filter ParameterSpec.connectable

end CompiledNode

structure ExecutionPlan (ρ : Type) where
  documentId : UUID
  graphRevision : Nat
  nodes : List (CompiledNode ρ)
  demandRoots : List UUID

def ExecutionPlan.node? {ρ : Type} (plan : ExecutionPlan ρ) (nodeId : UUID) :
    Option (CompiledNode ρ) :=
  plan.nodes.find? (fun node => decide (node.nodeId = nodeId))

end Runtime
end Synesthesia
