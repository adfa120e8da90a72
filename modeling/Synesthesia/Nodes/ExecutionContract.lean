import Synesthesia.Nodes.Base

namespace Synesthesia
namespace Nodes

open Foundation Contracts

/-!
# Contracts as the compiler reads them

The lookups of `NodeExecutionContract` (`nodes/base.py`) that validate a graph,
what the constructors of contracts have checked, and the registry of the known
node types (`nodes/registry.py`).
-/

/-! ## Sockets and parameters -/

/-- The first index from the given one on that is not taken; the first argument
bounds the search. -/
def firstFree (taken : List Nat) : Nat → Nat → Nat
  | 0, index => index
  | fuel + 1, index => if index ∈ taken then firstFree taken fuel (index + 1) else index

/-- `validate` on a stored literal, which may be absent. -/
def ParameterSpec.validateLiteral (spec : ParameterSpec) : Option ParameterValue → Option String
  | none => some ("expected " ++ portTypeText spec.valueType ++ ", got NoneType")
  | some value => spec.validate value

namespace NodeExecutionContract

variable {ρ : Type} (definition : NodeExecutionContract ρ)

/-- The input socket with an identifier: a fixed one, else one of the family. -/
def input (portId : String) : Option InputPortSpec :=
  match definition.inputs.find? (fun port => decide (port.id = portId)),
      definition.variadicInput with
  | some port, _ => some port
  | none, none => none
  | none, some family => (family.index portId).map family.port

/-- The input sockets with the next free one of the family, unless one of those
that the family needs is free. -/
def inputPortsWithNext (connectedPortIds : List String) : List InputPortSpec :=
  match definition.variadicInput with
  | none => definition.inputs
  | some family =>
      let connected := connectedPortIds.filterMap family.index
      let indexes := List.range' 1 family.minimumCount ++ connected
      let offered :=
        if ∀ index ∈ indexes, index ∈ connected then
          indexes ++ [firstFree connected connected.length 1]
        else indexes
      definition.inputs ++ (sortByKey id offered.dedup).map family.port

def parameter (parameterId : String) : Option ParameterSpec :=
  definition.parameters.find? (fun parameter => decide (parameter.id = parameterId))

/-- `port_type`: what the resolver of the node says, else what is declared. -/
def portType (portId : String) (isOutput : Bool) (parameters : Dict String ParameterValue) :
    Except PyError PortTypeExpression :=
  match definition.portTypeResolver with
  | some resolver => .ok (resolver portId isOutput parameters)
  | none =>
      let declared :=
        if isOutput then (definition.output portId).map OutputPortSpec.valueType
        else (definition.input portId).map InputPortSpec.valueType
      match declared with
      | none => .error (.keyError ("Unknown port " ++ quoted portId ++ " on " ++ definition.typeId))
      | some expression => .ok expression

/-- `required_inputs`: a family is required under its bare prefix. -/
def requiredInputs (parameters : Dict String ParameterValue) : List String :=
  let required :=
    match definition.requiredInputResolver with
    | some resolver => resolver parameters
    | none => (definition.inputs.filter InputPortSpec.required).map InputPortSpec.id
  (required ++ (definition.variadicInput.map VariadicInputSpec.idPrefix).toList).dedup

/-! ## Parameter values -/

/-- The problem with the literal of a parameter, as the report words it. -/
def parameterError (parameter : ParameterSpec) (error : String) : String :=
  if error = "must be finite" then
    "parameter " ++ quoted parameter.id ++ ": " ++ parameter.id ++ " must be finite"
  else "parameter " ++ quoted parameter.id ++ " " ++ error

/-- The literal of a parameter, else its default. -/
def literalOf (literals : Dict String (Option ParameterValue)) (parameter : ParameterSpec) :
    Option ParameterValue :=
  (literals.get? parameter.id).getD (some parameter.default)

/-- The literal of a parameter when it is valid, else the default. -/
def valueOf (literals : Dict String (Option ParameterValue)) (parameter : ParameterSpec) :
    ParameterValue :=
  match parameter.validateLiteral (literalOf literals parameter), literalOf literals parameter with
  | none, some value => value
  | _, _ => parameter.default

/-- `parameter_values`: the values by which a node runs and what is wrong with
its literals. -/
def parameterValues (literals : Dict String (Option ParameterValue)) :
    Dict String ParameterValue × List String :=
  let known := definition.parameters.map ParameterSpec.id
  let unknown := (sortByKey id (literals.keys.filter (fun name => decide (name ∉ known)))).map
    (fun name => "unknown parameter " ++ quoted name)
  let values := Dict.ofEntries (definition.parameters.map (fun parameter =>
    (parameter.id, valueOf literals parameter)))
  let invalid := definition.parameters.filterMap (fun parameter =>
    (parameter.validateLiteral (literalOf literals parameter)).map (parameterError parameter))
  let errors := unknown ++ invalid
  match errors, definition.parameterValidator with
  | [], some validator => (values, validator values)
  | _, _ => (values, errors)

/-! ## What the constructors check -/

/-- Checked by the constructor of a contract; sockets of the family cannot be
mistaken for other ones. -/
structure Constructed : Prop where
  inputs_unique : (definition.inputs.map InputPortSpec.id).Nodup
  outputs_unique : (definition.outputs.map OutputPortSpec.id).Nodup
  parameters_unique : (definition.parameters.map ParameterSpec.id).Nodup
  separate : ∀ port ∈ definition.inputs, ∀ parameter ∈ definition.parameters,
    port.id ≠ parameter.id
  input_fixed : ∀ family ∈ definition.variadicInput, ∀ port ∈ definition.inputs,
    family.index port.id = none
  parameter_fixed : ∀ family ∈ definition.variadicInput, ∀ parameter ∈ definition.parameters,
    family.index parameter.id = none
  socket_typed : ∀ parameter ∈ definition.parameters,
    (parameter.connectable = true ↔ parameter.connectedPortType.isSome = true)

end NodeExecutionContract

/-- The known node types. -/
structure NodeRegistry (ρ : Type) where
  definitions : Dict String (NodeExecutionContract ρ)
  keyed : Dict.Keyed NodeExecutionContract.typeId definitions
  constructed : ∀ entry ∈ definitions.entries, entry.2.Constructed

def NodeRegistry.get? {ρ : Type} (registry : NodeRegistry ρ) (typeId : String) :
    Option (NodeExecutionContract ρ) :=
  registry.definitions.get? typeId

/-! ## Ports that exist have a type -/

section Lookups

variable {ρ : Type} {definition : NodeExecutionContract ρ}

theorem NodeRegistry.get?_constructed {registry : NodeRegistry ρ} {typeId : String}
    (found : registry.get? typeId = some definition) : definition.Constructed :=
  registry.constructed (typeId, definition) (Dict.mem_of_get? found)

end Lookups

end Nodes
end Synesthesia
