import Synesthesia.Runtime.TickLocality

namespace Synesthesia
namespace Runtime

open Foundation Contracts Nodes Synesthesia.Graph

/-!
# What reaches a runtime

The types of a plan are settled by the compiler, and the scheduler checks the
outputs of every node against them.  What is checked at an output needs no
check at an input: through every history of a scheduler, whatever the runtimes
return or raise, a runtime is called with values of the types of its sockets
and with parameters that its own specifications accept.
-/

variable {ρ : Type} [NodeRuntime ρ]

/-! ## Values of a type -/

/-- A value that may stand on an output: nothing, or a value of the type of the
port and of the clock of the node. -/
def FitsOutput (node : CompiledNode ρ) (portId : String) (portType : PortType)
    (value : RuntimeValue) : Prop :=
  value.isNoData = true ∨
    outputTypeCheck portType value = true ∧ validateClock node.clockId portId value = .ok ()

/-- The values on the outputs of the node fit. -/
def TypedAt (values : PortValues) (node : CompiledNode ρ) : Prop :=
  ∀ portId portType, node.outputTypes.get? portId = some portType → ∀ value,
    values.get? ⟨node.nodeId, portId⟩ = some value → FitsOutput node portId portType value

/-- The types of the single values that an array socket takes beside arrays. -/
def itemTypes : PortType → List PortType
  | .scalarArray => [.float, .int]
  | .imageArray => [.image]
  | .channelArray => [.channel]
  | _ => []

/-- A value that may reach a socket: nothing, a value of the type of the socket,
or a single item for an array. -/
def FitsInput (inputType : PortType) (value : RuntimeValue) : Prop :=
  value.isNoData = true ∨ outputTypeCheck inputType value = true ∨
    ∃ itemType ∈ itemTypes inputType, outputTypeCheck itemType value = true

omit [NodeRuntime ρ] in
theorem FitsOutput.noData (node : CompiledNode ρ) (portId : String) (portType : PortType) :
    FitsOutput node portId portType .noData :=
  Or.inl rfl

theorem typesCompatible_cases {sourceType inputType : PortType}
    (compatible : typesCompatible sourceType inputType = true) :
    sourceType = inputType ∨ sourceType = .int ∧ inputType = .float ∨
      sourceType ∈ itemTypes inputType := by
  cases sourceType <;> cases inputType <;> simp_all [typesCompatible, itemTypes]

/-- A bound value fits the socket that it reaches, and it is there if it was there
before its conversion. -/
theorem fitsInput_of_converted {sourceType inputType : PortType}
    {conversion : Option ScalarConversion} {value converted : RuntimeValue}
    (compatible : typesCompatible sourceType inputType = true)
    (recorded : conversion = some .intToFloat ↔ sourceType = .int ∧ inputType = .float)
    (fits : value.isNoData = true ∨ outputTypeCheck sourceType value = true)
    (done : convertInput conversion value = .ok converted) : FitsInput inputType converted := by
  rcases fits with nothing | typed
  · rw [RuntimeValue.isNoData_iff] at nothing
    subst nothing
    have unchanged : convertInput conversion .noData = .ok .noData := by
      cases conversion with
      | none => rfl
      | some conversion =>
          cases conversion
          rfl
    rw [unchanged] at done
    cases done
    exact Or.inl rfl
  · by_cases widened : sourceType = .int ∧ inputType = .float
    · rw [recorded.mpr widened] at done
      rcases widened with ⟨rfl, rfl⟩
      cases value with
      | int number =>
          rcases bind_eq_ok.mp done with ⟨float, _, same⟩
          cases same
          exact Or.inr (Or.inl rfl)
      | _ => cases typed
    · have plain : conversion = none := by
        cases conversion with
        | none => rfl
        | some conversion =>
            cases conversion
            exact absurd (recorded.mp rfl) widened
      subst plain
      cases done
      rcases typesCompatible_cases compatible with rfl | isWidened | item
      · exact Or.inr (Or.inl typed)
      · exact absurd isWidened widened
      · exact Or.inr (Or.inr ⟨sourceType, item, typed⟩)

/-! ## Outputs are checked -/

omit [NodeRuntime ρ] in
theorem validateKnown_ok {node : CompiledNode ρ} {entries : List (String × RuntimeValue)}
    (checked : validateKnown node entries = .ok ()) :
    ∀ entry ∈ entries, ∃ portType, node.outputTypes.get? entry.1 = some portType ∧
      FitsOutput node entry.1 portType entry.2 := by
  induction entries with
  | nil => exact fun entry member => absurd member List.not_mem_nil
  | cons entry rest ih =>
      rcases entry with ⟨portId, value⟩
      rw [validateKnown] at checked
      cases expected : node.outputTypes.get? portId with
      | none =>
          rw [expected] at checked
          cases checked
      | some portType =>
          rw [expected] at checked
          dsimp only at checked
          rw [List.forall_mem_cons]
          by_cases nothing : value.isNoData = true
          · rw [if_pos nothing] at checked
            exact ⟨⟨portType, expected, Or.inl nothing⟩, ih checked⟩
          · rw [if_neg nothing] at checked
            by_cases typed : outputTypeCheck portType value = true
            · rw [if_neg (not_not_intro typed)] at checked
              rcases bind_eq_ok.mp checked with ⟨_, clocked, onward⟩
              exact ⟨⟨portType, expected, Or.inr ⟨typed, clocked⟩⟩, ih onward⟩
            · rw [if_pos typed] at checked
              cases checked

variable {portId : String} {value : RuntimeValue}

omit [NodeRuntime ρ] in
/-- Accepted outputs fit the ports of their node. -/
theorem validateOutputs_ok {node : CompiledNode ρ} {outputs : Dict String RuntimeValue}
    (checked : validateOutputs node outputs = .ok ())
    (found : outputs.get? portId = some value) :
    ∃ portType, node.outputTypes.get? portId = some portType ∧
      FitsOutput node portId portType value := by
  unfold validateOutputs at checked
  dsimp only at checked
  split_ifs at checked with unknown
  exact validateKnown_ok checked (portId, value) (Dict.mem_of_get? found)

theorem invoke_ok_validated {node : CompiledNode ρ} {runtimes : Dict UUID ρ}
    {inputs outputs : Dict String RuntimeValue} {context : FrameContext}
    (returned : (invoke node runtimes inputs context).2 = .ok outputs) :
    validateOutputs node outputs = .ok () := by
  unfold invoke at returned
  cases effective : effectiveParameters node inputs with
  | error failure =>
      rw [effective] at returned
      cases returned
  | ok prepared =>
      rcases prepared with ⟨prepared, parameters⟩
      rw [effective] at returned
      dsimp only at returned
      cases found : runtimes.get? node.nodeId with
      | none =>
          rw [found] at returned
          cases returned
      | some runtime =>
          rw [found] at returned
          dsimp only at returned
          cases processed : (NodeRuntime.process runtime prepared parameters context).2 with
          | error failure =>
              rw [processed] at returned
              cases returned
          | ok produced =>
              rw [processed] at returned
              dsimp only at returned
              cases materialized : convertFloatOutputs node.floatOutputPorts produced with
              | error error =>
                  rw [materialized] at returned
                  cases returned
              | ok converted =>
                  rw [materialized] at returned
                  dsimp only at returned
                  cases checked : validateOutputs node converted with
                  | error message =>
                      rw [checked] at returned
                      cases returned
                  | ok _ =>
                      rw [checked] at returned
                      cases returned
                      exact checked

/-- What a node that runs publishes fits. -/
theorem runNode_outputs_fit {node : CompiledNode ρ} {context : FrameContext}
    {inputs : Dict String RuntimeValue} {state : TickState ρ}
    {portType : PortType} (isPort : node.outputTypes.get? portId = some portType) :
    FitsOutput node portId portType
      (((runNode node context inputs state).2.get? portId).getD .noData) := by
  unfold runNode
  rcases invoked : invoke node state.runtimes inputs context with ⟨runtimes, failure | outputs⟩
  · dsimp only
    rw [noDataOutputs_get?]
    exact FitsOutput.noData node portId portType
  · dsimp only
    cases found : outputs.get? portId with
    | none => exact FitsOutput.noData node portId portType
    | some value =>
        have checked := invoke_ok_validated (congrArg Prod.snd invoked)
        rcases validateOutputs_ok checked found with ⟨other, isOther, fits⟩
        rw [isPort] at isOther
        cases isOther
        exact fits

/-! ## Histories keep the types -/

/-- The values of a tick and the cache fit the ports of all nodes. -/
structure TypedState (nodes : List (CompiledNode ρ)) (state : TickState ρ) : Prop where
  values : ∀ node ∈ nodes, TypedAt state.values node
  cached : ∀ node ∈ nodes, TypedAt state.staticCache node

omit [NodeRuntime ρ] in
theorem noDataOutputs_fit (node : CompiledNode ρ) (portId : String) (portType : PortType) :
    FitsOutput node portId portType (((noDataOutputs node).get? portId).getD .noData) := by
  rw [noDataOutputs_get?]
  exact FitsOutput.noData node portId portType

section Publish

variable {nodes : List (CompiledNode ρ)} {node : CompiledNode ρ}

omit [NodeRuntime ρ] in
theorem typedAt_publishOutputs (distinct : (nodes.map CompiledNode.nodeId).Nodup)
    (isNode : node ∈ nodes) {outputs : Dict String RuntimeValue} {values : PortValues}
    (fits : ∀ portId portType, node.outputTypes.get? portId = some portType →
      FitsOutput node portId portType ((outputs.get? portId).getD .noData))
    (typed : ∀ other ∈ nodes, TypedAt values other) :
    ∀ other ∈ nodes, TypedAt (publishOutputs node outputs values) other := by
  intro other isOther portId portType isPort value found
  rw [publishOutputs_get?] at found
  by_cases own : (⟨other.nodeId, portId⟩ : PortKey) ∈ node.outputPortKeys
  · have same : other = node :=
      List.inj_on_of_nodup_map distinct isOther isNode (outputPortKeys_own own)
    subst same
    rw [if_pos own, Option.some.injEq] at found
    rw [← found]
    exact fits portId portType isPort
  · rw [if_neg own] at found
    exact typed other isOther portId portType isPort value found

omit [NodeRuntime ρ] in
theorem typedAt_cacheOutputs {values cache : PortValues}
    (typed : ∀ other ∈ nodes, TypedAt values other)
    (cached : ∀ other ∈ nodes, TypedAt cache other) :
    ∀ other ∈ nodes, TypedAt (cacheOutputs node values cache) other := by
  intro other isOther portId portType isPort value found
  by_cases static : node.isStatic = true
  · rw [cacheOutputs_get? static] at found
    by_cases own : (⟨other.nodeId, portId⟩ : PortKey) ∈ node.outputPortKeys
    · rw [if_pos own, Option.some.injEq] at found
      cases present : values.get? ⟨other.nodeId, portId⟩ with
      | none =>
          rw [present] at found
          rw [← found]
          exact FitsOutput.noData other portId portType
      | some published =>
          rw [present] at found
          rw [← found]
          exact typed other isOther portId portType isPort published present
    · rw [if_neg own] at found
      exact cached other isOther portId portType isPort value found
  · rw [cacheOutputs, if_neg static] at found
    exact cached other isOther portId portType isPort value found

omit [NodeRuntime ρ] in
theorem typedState_publish (distinct : (nodes.map CompiledNode.nodeId).Nodup)
    (isNode : node ∈ nodes) {outputs : Dict String RuntimeValue} {state : TickState ρ}
    (fits : ∀ portId portType, node.outputTypes.get? portId = some portType →
      FitsOutput node portId portType ((outputs.get? portId).getD .noData))
    (typed : TypedState nodes state) : TypedState nodes (publish node outputs state) := by
  have published := typedAt_publishOutputs distinct isNode fits typed.values
  exact ⟨published, typedAt_cacheOutputs published typed.cached⟩

/-- A turn keeps the types, whatever the runtime does. -/
theorem typedState_turn (distinct : (nodes.map CompiledNode.nodeId).Nodup) (isNode : node ∈ nodes)
    {context : FrameContext} {state next : TickState ρ} (typed : TypedState nodes state)
    (taken : turn context state node = some next) : TypedState nodes next := by
  rcases turn_cases taken with ⟨_, rfl⟩ | ⟨_, inputs, _, ⟨_, rfl⟩ | ⟨_, rfl⟩⟩
  · exact typed
  · exact typedState_publish distinct isNode
      (fun portId portType _ => noDataOutputs_fit node portId portType) typed
  · refine typedState_publish distinct isNode
      (fun portId portType isPort => runNode_outputs_fit isPort) ⟨?_, ?_⟩
    · rw [runNode_values]
      exact typed.values
    · rw [runNode_staticCache]
      exact typed.cached

theorem typedState_run (distinct : (nodes.map CompiledNode.nodeId).Nodup) {context : FrameContext}
    {walked : List (CompiledNode ρ)} (inside : walked ⊆ nodes) {state final : TickState ρ}
    (typed : TypedState nodes state) (finished : run (turn context) state walked = some final) :
    TypedState nodes final := by
  induction walked generalizing state with
  | nil =>
      cases finished
      exact typed
  | cons node rest ih =>
      rcases run_cons_eq_some.mp finished with ⟨next, taken, continued⟩
      exact ih (fun other later => inside (List.mem_cons_of_mem _ later))
        (typedState_turn distinct (inside List.mem_cons_self) typed taken) continued

/-- The loop keeps the types also when an exception ends it. -/
theorem typedState_tickNodes (distinct : (nodes.map CompiledNode.nodeId).Nodup)
    (context : FrameContext) {rest : List (CompiledNode ρ)} (inside : rest ⊆ nodes)
    {state : TickState ρ} (typed : TypedState nodes state) :
    TypedState nodes (tickNodes context rest state).1 := by
  induction rest generalizing state with
  | nil => exact typed
  | cons node rest ih =>
      rw [tickNodes]
      rcases ticked : tickNode context node state with ⟨next, error | _⟩
      · -- the conversion of an input has raised, and nothing was published
        have unchanged : next = state := by
          rcases tickNode_cases context node state with
            ⟨returned, _⟩ | ⟨_, _, raised⟩ | ⟨_, _, _, _, _, _, returned⟩
          · rw [ticked] at returned
            cases returned
          · rw [ticked] at raised
            exact congrArg Prod.fst raised
          · rw [ticked] at returned
            cases returned
        rw [unchanged]
        exact typed
      · have taken : turn context state node = some next := by
          rw [turn, ticked]
        exact ih (fun other later => inside (List.mem_cons_of_mem _ later))
          (typedState_turn distinct (inside List.mem_cons_self) typed taken)

end Publish

namespace Scheduler

/-- The scheduler after a call, also after one that raises. -/
def advance (scheduler : Scheduler ρ) : SchedulerCall → Scheduler ρ
  | .tick context sourceValues => (scheduler.executeTick context sourceValues).1
  | .resetSource clockId reason => (scheduler.resetSource clockId reason).1
  | .resetAll reason => (scheduler.resetAll reason).1
  | .panic publishGeneration => (scheduler.panic publishGeneration).1

/-- The scheduler after a history of calls. -/
def advanceAll (scheduler : Scheduler ρ) (calls : List SchedulerCall) : Scheduler ρ :=
  calls.foldl advance scheduler

/-- The scheduler runs the plan, and what it has cached fits. -/
structure KeepsTypes (plan : ExecutionPlan ρ) (scheduler : Scheduler ρ) : Prop where
  plan_eq : scheduler.plan = plan
  cached : ∀ node ∈ plan.nodes, TypedAt scheduler.staticCache node

/-- The values that a call supplies fit the ports that they are for. -/
def SuppliesTyped (plan : ExecutionPlan ρ) : SchedulerCall → Prop
  | .tick _ sourceValues => ∀ node ∈ plan.nodes, TypedAt sourceValues node
  | _ => True

omit [NodeRuntime ρ] in
theorem typedAt_updateValues {values sourceValues : PortValues} {node : CompiledNode ρ}
    (typed : TypedAt values node) (supplied : TypedAt sourceValues node) :
    TypedAt (updateValues values sourceValues) node := by
  intro portId portType isPort value found
  cases source : sourceValues.get? ⟨node.nodeId, portId⟩ with
  | some given =>
      rw [get?_updateValues_of_get? source, Option.some.injEq] at found
      rw [← found]
      exact supplied portId portType isPort given source
  | none =>
      rw [get?_updateValues_of_not_mem ((Dict.get?_eq_none _ _).mp source)] at found
      exact typed portId portType isPort value found

variable {scheduler : Scheduler ρ} {plan : ExecutionPlan ρ}

omit [NodeRuntime ρ] in
theorem KeepsTypes.startTick (keeps : KeepsTypes plan scheduler) {sourceValues : PortValues}
    (supplied : ∀ node ∈ plan.nodes, TypedAt sourceValues node) :
    TypedState plan.nodes (scheduler.startTick sourceValues) :=
  ⟨fun node isNode => typedAt_updateValues (keeps.cached node isNode) (supplied node isNode),
    keeps.cached⟩

theorem executeTick_next (scheduler : Scheduler ρ) (context : FrameContext)
    (sourceValues : PortValues) :
    (scheduler.executeTick context sourceValues).1 = { scheduler with
      runtimes := (tickNodes context scheduler.plan.nodes
        (scheduler.startTick sourceValues)).1.runtimes
      staticCache := (tickNodes context scheduler.plan.nodes
        (scheduler.startTick sourceValues)).1.staticCache } := by
  unfold executeTick
  rcases tickNodes context scheduler.plan.nodes (scheduler.startTick sourceValues) with
    ⟨state, outcome⟩
  cases outcome <;> rfl

/-- Every call keeps the types. -/
theorem keepsTypes_advance
    (distinct : (plan.nodes.map CompiledNode.nodeId).Nodup) (keeps : KeepsTypes plan scheduler)
    {call : SchedulerCall} (supplied : SuppliesTyped plan call) :
    KeepsTypes plan (scheduler.advance call) := by
  cases call with
  | tick context sourceValues =>
      have started : TypedState scheduler.plan.nodes (scheduler.startTick sourceValues) := by
        rw [keeps.plan_eq]
        exact keeps.startTick supplied
      rw [← keeps.plan_eq] at distinct
      have ended := typedState_tickNodes distinct context (List.Subset.refl _) started
      rw [advance, executeTick_next]
      refine ⟨keeps.plan_eq, ?_⟩
      rw [← keeps.plan_eq]
      exact ended.cached
  | resetSource clockId reason => exact ⟨keeps.plan_eq, keeps.cached⟩
  | resetAll reason =>
      rcases resetAll_cases scheduler reason with ⟨_, next⟩ | ⟨_, next⟩
      · rw [advance, next]
        exact ⟨keeps.plan_eq, fun node _ portId portType _ value found => by cases found⟩
      · rw [advance, next]
        exact ⟨keeps.plan_eq, keeps.cached⟩
  | panic publishGeneration => exact ⟨keeps.plan_eq, keeps.cached⟩

theorem keepsTypes_advanceAll
    (distinct : (plan.nodes.map CompiledNode.nodeId).Nodup) (keeps : KeepsTypes plan scheduler)
    {calls : List SchedulerCall} (supplied : ∀ call ∈ calls, SuppliesTyped plan call) :
    KeepsTypes plan (scheduler.advanceAll calls) := by
  induction calls generalizing scheduler with
  | nil => exact keeps
  | cons call rest ih =>
      rw [List.forall_mem_cons] at supplied
      exact ih (keepsTypes_advance distinct keeps supplied.1) supplied.2

end Scheduler

/-! ## The inputs of a call -/

variable {values : PortValues}

theorem mem_keys_gatherInputs {items : List (String × PortKey × Option ScalarConversion)}
    {inputs gathered : Dict String RuntimeValue}
    (done : gatherInputs values items inputs = .ok gathered) (portId : String) :
    portId ∈ gathered.keys ↔ portId ∈ inputs.keys ∨ portId ∈ items.map Prod.fst := by
  induction items generalizing inputs with
  | nil =>
      cases done
      simp
  | cons item rest ih =>
      rcases item with ⟨socket, source, conversion⟩
      rcases bind_eq_ok.mp done with ⟨value, _, continued⟩
      rw [ih continued, Dict.mem_keys_insert, List.map_cons, List.mem_cons]
      tauto

/-- Every gathered input is the converted value of a source. -/
theorem gatherInputs_get? {items : List (String × PortKey × Option ScalarConversion)}
    {inputs gathered : Dict String RuntimeValue}
    (done : gatherInputs values items inputs = .ok gathered)
    (found : gathered.get? portId = some value) :
    inputs.get? portId = some value ∨ ∃ source conversion, (portId, source, conversion) ∈ items ∧
      convertInput conversion ((values.get? source).getD .noData) = .ok value := by
  induction items generalizing inputs with
  | nil =>
      cases done
      exact Or.inl found
  | cons item rest ih =>
      rcases item with ⟨socket, source, conversion⟩
      rcases bind_eq_ok.mp done with ⟨converted, conversionDone, continued⟩
      rcases ih continued with before | ⟨other, recorded, member, otherDone⟩
      · by_cases here : portId = socket
        · subst here
          rw [Dict.get?_insert_self, Option.some.injEq] at before
          subst before
          exact Or.inr ⟨source, conversion, List.mem_cons_self, conversionDone⟩
        · rw [Dict.get?_insert_of_ne _ here] at before
          exact Or.inl before
      · exact Or.inr ⟨other, recorded, List.mem_cons_of_mem _ member, otherDone⟩

omit [NodeRuntime ρ] in
/-- The gathered inputs of a node of a well-formed plan fit its sockets. -/
theorem gathered_fit {plan : ExecutionPlan ρ} (wellFormed : WellFormedPlan plan)
    {before after : List (CompiledNode ρ)} {node : CompiledNode ρ}
    (split : plan.nodes = before ++ node :: after)
    (typed : ∀ other ∈ plan.nodes, TypedAt values other) {gathered : Dict String RuntimeValue}
    (done : gatherInputs values node.inputBindingItems Dict.empty = .ok gathered)
    (found : gathered.get? portId = some value) :
    hasSocket node.definition portId = true ∧
      ∃ inputType, node.inputTypes.get? portId = some inputType ∧ FitsInput inputType value := by
  rcases gatherInputs_get? done found with impossible | ⟨source, conversion, member, converted⟩
  · cases impossible
  · rcases List.mem_map.mp member with ⟨⟨socket, binding⟩, isEntry, same⟩
    cases same
    rcases wellFormed.bindings before node after split socket binding (Dict.get?_of_mem isEntry)
      with ⟨origin, earlier, fitting⟩
    rcases fitting.typed with ⟨sourceType, inputType, isSource, isInput, compatible, recorded⟩
    refine ⟨fitting.socket, inputType, isInput, ?_⟩
    have isOrigin : origin ∈ plan.nodes := by
      rw [split]
      exact List.mem_append_left _ earlier
    have key : binding.source = ⟨origin.nodeId, binding.source.portId⟩ := by
      rw [← fitting.identifier]
    apply fitsInput_of_converted compatible recorded ?_ converted
    cases present : values.get? binding.source with
    | none => exact Or.inl rfl
    | some published =>
        rw [key] at present
        rcases typed origin isOrigin _ sourceType isSource published present with
          nothing | ⟨checked, _⟩
        · exact Or.inl nothing
        · exact Or.inr checked

/-! ## The parameters of a call -/

/-- The specifications of the list accept the parameters of their names. -/
def AcceptedBy (parameters : Dict String ParameterValue) (specs : List ParameterSpec) : Prop :=
  ∀ spec ∈ specs, ∃ literal, parameters.get? spec.id = some literal ∧ spec.validate literal = none

theorem validate_of_validateLiteral {spec : ParameterSpec} {literal : Option ParameterValue}
    (silent : spec.validateLiteral literal = none) :
    ∃ value, literal = some value ∧ spec.validate value = none := by
  cases literal with
  | none => cases silent
  | some value => exact ⟨value, rfl, silent⟩

section Literals

variable {definition : NodeExecutionContract ρ} {literals : Dict String (Option ParameterValue)}

omit [NodeRuntime ρ] in
theorem get?_parameterValues (constructed : definition.Constructed) {spec : ParameterSpec}
    (isSpec : spec ∈ definition.parameters) :
    (definition.parameterValues literals).1.get? spec.id =
      some (NodeExecutionContract.valueOf literals spec) := by
  have values : (definition.parameterValues literals).1 = Dict.ofEntries
      (definition.parameters.map (fun parameter =>
        (parameter.id, NodeExecutionContract.valueOf literals parameter))) := by
    unfold NodeExecutionContract.parameterValues
    dsimp only
    split <;> rfl
  have member : (spec.id, NodeExecutionContract.valueOf literals spec) ∈
      definition.parameters.map (fun parameter =>
        (parameter.id, NodeExecutionContract.valueOf literals parameter)) :=
    List.mem_map.mpr ⟨spec, isSpec, rfl⟩
  rw [values]
  apply Dict.get?_ofEntries member
  intro other isOther
  rcases List.mem_map.mp isOther with ⟨another, isAnother, same⟩
  have equal : another = spec := List.inj_on_of_nodup_map constructed.parameters_unique isAnother
    isSpec (congrArg Prod.fst same)
  rw [← equal]
  exact (congrArg Prod.snd same).symm

omit [NodeRuntime ρ] in
/-- No complaint means a valid literal for every parameter and a silent validator. -/
theorem parameterValues_silent (silent : (definition.parameterValues literals).2 = []) :
    (∀ spec ∈ definition.parameters,
      spec.validateLiteral (NodeExecutionContract.literalOf literals spec) = none) ∧
        ∀ validator ∈ definition.parameterValidator,
          validator (definition.parameterValues literals).1 = [] := by
  unfold NodeExecutionContract.parameterValues at silent ⊢
  dsimp only at silent ⊢
  split at silent
  · rename_i validator noErrors isValidator
    rw [List.append_eq_nil_iff, List.filterMap_eq_nil_iff] at noErrors
    refine ⟨fun spec isSpec => Option.map_eq_none_iff.mp (noErrors.2 spec isSpec), ?_⟩
    intro other isOther
    rw [isValidator, Option.mem_some_iff] at isOther
    rw [← isOther]
    exact silent
  · rename_i noValidator
    refine ⟨?_, ?_⟩
    · rw [List.append_eq_nil_iff, List.filterMap_eq_nil_iff] at silent
      exact fun spec isSpec => Option.map_eq_none_iff.mp (silent.2 spec isSpec)
    · intro validator isValidator
      exact absurd isValidator (noValidator validator silent)

omit [NodeRuntime ρ] in
/-- Parameter values without a complaint are accepted by every specification
and by the validator of the node. -/
theorem parameterValues_accepted (constructed : definition.Constructed)
    {parameters : Dict String ParameterValue}
    (silent : definition.parameterValues literals = (parameters, [])) :
    AcceptedBy parameters definition.parameters ∧
      ∀ validator ∈ definition.parameterValidator, validator parameters = [] := by
  rcases parameterValues_silent (congrArg Prod.snd silent) with ⟨valid, validated⟩
  have isValues : (definition.parameterValues literals).1 = parameters := congrArg Prod.fst silent
  rw [isValues] at validated
  refine ⟨?_, validated⟩
  intro spec isSpec
  refine ⟨NodeExecutionContract.valueOf literals spec, ?_, ?_⟩
  · rw [← isValues, get?_parameterValues constructed isSpec]
  · rcases validate_of_validateLiteral (valid spec isSpec) with ⟨value, isLiteral, accepted⟩
    have isValue : NodeExecutionContract.valueOf literals spec = value := by
      unfold NodeExecutionContract.valueOf
      rw [valid spec isSpec, isLiteral]
    rw [isValue, accepted]

end Literals

/-- The overlay replaces exactly the parameters of the connected sockets, each by
a literal that its specification accepts, and hands on that literal. -/
structure Overlaid (specs : List ParameterSpec) (inputs overlaid : Dict String RuntimeValue)
    (before after : Dict String ParameterValue) : Prop where
  keys : ∀ portId, portId ∈ overlaid.keys ↔ portId ∈ inputs.keys
  others : ∀ portId, portId ∉ specs.map ParameterSpec.id →
    overlaid.get? portId = inputs.get? portId
  live : ∀ spec ∈ specs, spec.id ∈ inputs.keys → ∃ literal, after.get? spec.id = some literal ∧
    spec.validate literal = none ∧ overlaid.get? spec.id = some (ofParameterValue literal)
  kept : ∀ name, (name ∉ specs.map ParameterSpec.id ∨ name ∉ inputs.keys) →
    after.get? name = before.get? name

variable {parameters : Dict String ParameterValue}

theorem overlaid_of_overlayParameters
    {specs : List ParameterSpec} (distinct : (specs.map ParameterSpec.id).Nodup)
    {inputs overlaid : Dict String RuntimeValue}
    {values after : Option (Dict String ParameterValue)}
    (done : overlayParameters parameters specs inputs values = .ok (overlaid, after)) :
    Overlaid specs inputs overlaid (values.getD parameters) (after.getD parameters) := by
  induction specs generalizing inputs values with
  | nil =>
      cases done
      exact ⟨fun _ => Iff.rfl, fun _ _ => rfl, fun spec member => absurd member List.not_mem_nil,
        fun _ _ => rfl⟩
  | cons spec rest ih =>
      rw [List.map_cons, List.nodup_cons] at distinct
      rw [overlayParameters] at done
      cases found : inputs.get? spec.id with
      | none =>
          rw [found] at done
          have later := ih distinct.2 done
          have absent : spec.id ∉ inputs.keys := (Dict.get?_eq_none _ _).mp found
          refine ⟨later.keys, ?_, ?_, ?_⟩
          · intro portId outside
            rw [List.map_cons, List.mem_cons, not_or] at outside
            exact later.others portId outside.2
          · intro other isOther connected
            rcases List.mem_cons.mp isOther with rfl | below
            · exact absurd connected absent
            · exact later.live other below connected
          · intro name outside
            apply later.kept
            rcases outside with unlisted | unconnected
            · rw [List.map_cons, List.mem_cons, not_or] at unlisted
              exact Or.inl unlisted.2
            · exact Or.inr unconnected
      | some value =>
          rw [found] at done
          rcases bind_eq_ok.mp done with ⟨literal, coerced, continued⟩
          have accepted := spec.validate_connectedValue coerced
          have later := ih distinct.2 continued
          have connected : spec.id ∈ inputs.keys := (Dict.get?_isSome _ _).mp (by rw [found]; rfl)
          refine ⟨?_, ?_, ?_, ?_⟩
          · intro portId
            rw [later.keys, Dict.mem_keys_insert]
            exact or_iff_right_of_imp (fun same => same ▸ connected)
          · intro portId outside
            rw [List.map_cons, List.mem_cons, not_or] at outside
            rw [later.others portId outside.2, Dict.get?_insert_of_ne _ outside.1]
          · intro other isOther isConnected
            rcases List.mem_cons.mp isOther with rfl | below
            · refine ⟨literal, ?_, accepted, ?_⟩
              · rw [later.kept _ (Or.inl distinct.1)]
                exact Dict.get?_insert_self _ _ _
              · rw [later.others _ distinct.1, Dict.get?_insert_self]
            · exact later.live other below (Dict.mem_keys_insert.mpr (Or.inr isConnected))
          · intro name outside
            have apart : name ≠ spec.id := by
              rintro rfl
              rcases outside with unlisted | unconnected
              · exact unlisted List.mem_cons_self
              · exact unconnected connected
            have onward : name ∉ rest.map ParameterSpec.id ∨
                name ∉ (inputs.insert spec.id (ofParameterValue literal)).keys := by
              rcases outside with unlisted | unconnected
              · exact Or.inl (fun below => unlisted (List.mem_cons_of_mem _ below))
              · refine Or.inr (fun present => ?_)
                rcases Dict.mem_keys_insert.mp present with same | before
                · exact apart same
                · exact unconnected before
            rw [later.kept name onward]
            exact Dict.get?_insert_of_ne _ apart

omit [NodeRuntime ρ] in
/-- Effective parameters are the stored ones, overlaid and validated. -/
theorem effectiveParameters_ok {node : CompiledNode ρ} {gathered inputs : Dict String RuntimeValue}
    (distinct : (node.connectableParameterSpecs.map ParameterSpec.id).Nodup)
    (validated : ∀ validator ∈ node.definition.parameterValidator, validator node.parameters = [])
    (effective : effectiveParameters node gathered = .ok (inputs, parameters)) :
    Overlaid node.connectableParameterSpecs gathered inputs node.parameters parameters ∧
      ∀ validator ∈ node.definition.parameterValidator, validator parameters = [] := by
  unfold effectiveParameters at effective
  cases done : overlayParameters node.parameters node.connectableParameterSpecs gathered none with
  | error error =>
      rw [done] at effective
      cases effective
  | ok result =>
      rcases result with ⟨overlaid, values⟩
      have overlay := overlaid_of_overlayParameters distinct done
      rw [done] at effective
      cases values with
      | none =>
          cases effective
          exact ⟨overlay, validated⟩
      | some values =>
          dsimp only at effective
          cases has : node.definition.parameterValidator with
          | none =>
              rw [has] at effective
              cases effective
              exact ⟨overlay, fun validator isValidator =>
                absurd isValidator (Option.not_mem_none _)⟩
          | some validator =>
              rw [has] at effective
              dsimp only at effective
              cases complaints : validator values with
              | cons error errors =>
                  rw [complaints] at effective
                  cases effective
              | nil =>
                  rw [complaints] at effective
                  cases effective
                  refine ⟨overlay, ?_⟩
                  intro other isOther
                  rw [Option.mem_some_iff] at isOther
                  rw [← isOther]
                  exact complaints

/-! ## Every call is well typed -/

/-- In its turn, the runtime of the node is called with the inputs and parameters. -/
def TurnCalls (node : CompiledNode ρ) (state : TickState ρ) (inputs : Dict String RuntimeValue)
    (parameters : Dict String ParameterValue) : Prop :=
  isSkipped node state.values = false ∧ ∃ gathered,
    gatherInputs state.values node.inputBindingItems Dict.empty = .ok gathered ∧
      isStarved node gathered = false ∧
        effectiveParameters node gathered = .ok (inputs, parameters)

/-- What a runtime may rely on in a call. -/
structure WellTypedCall (node : CompiledNode ρ) (inputs : Dict String RuntimeValue)
    (parameters : Dict String ParameterValue) : Prop where
  bound : ∀ portId, portId ∈ inputs.keys ↔ portId ∈ node.inputBindings.keys
  required : ∀ portId ∈ node.definition.requiredInputs node.parameters, Fills node portId
  sockets : ∀ portId value, portId ∉ node.connectableParameterSpecs.map ParameterSpec.id →
    inputs.get? portId = some value → ∃ inputType,
      node.inputTypes.get? portId = some inputType ∧ FitsInput inputType value
  present : node.definition.handlesNoData = false → ∀ portId value,
    portId ∉ node.connectableParameterSpecs.map ParameterSpec.id →
      inputs.get? portId = some value → value ≠ .noData
  live : ∀ spec ∈ node.connectableParameterSpecs, spec.id ∈ inputs.keys → ∃ literal,
    parameters.get? spec.id = some literal ∧
      inputs.get? spec.id = some (ofParameterValue literal)
  stored : ∀ name, name ∉ inputs.keys → parameters.get? name = node.parameters.get? name
  accepted : AcceptedBy parameters node.definition.parameters
  validated : ∀ validator ∈ node.definition.parameterValidator, validator parameters = []

/-- A node of the plan was compiled from a constructed contract with parameter
values that nothing complains about. -/
structure Parametrized (node : CompiledNode ρ) : Prop where
  constructed : node.definition.Constructed
  accepted : AcceptedBy node.parameters node.definition.parameters
  validated : ∀ validator ∈ node.definition.parameterValidator, validator node.parameters = []

omit [NodeRuntime ρ] in
theorem parametrized_of_compiled {registry : NodeRegistry ρ} {snapshot : GraphSnapshot}
    {plan : ExecutionPlan ρ} (compiles : CompilesDocument registry snapshot plan)
    {node : CompiledNode ρ} (isNode : node ∈ plan.nodes) : Parametrized node := by
  rcases compiles.nodes node isNode with ⟨model, _, _, registered, _, silent⟩
  have constructed := NodeRegistry.get?_constructed registered
  rcases parameterValues_accepted constructed silent with ⟨accepted, validated⟩
  exact ⟨constructed, accepted, validated⟩

omit [NodeRuntime ρ] in
/-- A parameter that has a socket is connectable: no input bears its name. -/
theorem connectable_of_hasSocket {definition : NodeExecutionContract ρ}
    (constructed : definition.Constructed) {spec : ParameterSpec}
    (isSpec : spec ∈ definition.parameters) (socket : hasSocket definition spec.id = true) :
    spec.connectable = true := by
  have noInput : definition.input spec.id = none := by
    unfold NodeExecutionContract.input
    cases found : definition.inputs.find? (fun port => decide (port.id = spec.id)) with
    | some port =>
        have isPort := List.mem_of_find?_eq_some found
        have named : port.id = spec.id := by simpa using List.find?_some found
        exact absurd named (constructed.separate port isPort spec isSpec)
    | none =>
        cases variadic : definition.variadicInput with
        | none => rfl
        | some family =>
            dsimp only
            rw [constructed.parameter_fixed family variadic spec isSpec]
            rfl
  rw [hasSocket, noInput, Option.isSome_none, Bool.false_or, Option.any_eq_true] at socket
  rcases socket with ⟨parameter, found, connectable⟩
  have named : parameter.id = spec.id := by simpa using List.find?_some found
  have same := List.inj_on_of_nodup_map constructed.parameters_unique
    (List.mem_of_find?_eq_some found) isSpec named
  rw [← same]
  exact connectable

omit [NodeRuntime ρ] in
/-- A call in a state whose values fit is well typed. -/
theorem wellTypedCall_of_typed {plan : ExecutionPlan ρ} (wellFormed : WellFormedPlan plan)
    {before after : List (CompiledNode ρ)} {node : CompiledNode ρ}
    (split : plan.nodes = before ++ node :: after) (parametrized : Parametrized node)
    {state : TickState ρ} (typed : ∀ other ∈ plan.nodes, TypedAt state.values other)
    {inputs : Dict String RuntimeValue}
    (calls : TurnCalls node state inputs parameters) : WellTypedCall node inputs parameters := by
  rcases calls with ⟨_, gathered, done, fed, effective⟩
  have isNode : node ∈ plan.nodes := by
    rw [split]
    exact List.mem_append_right _ List.mem_cons_self
  have distinct : (node.connectableParameterSpecs.map ParameterSpec.id).Nodup :=
    List.Nodup.sublist (List.filter_sublist.map ParameterSpec.id)
      parametrized.constructed.parameters_unique
  rcases effectiveParameters_ok distinct parametrized.validated effective with
    ⟨overlay, validated⟩
  have gatheredKeys : ∀ portId, portId ∈ gathered.keys ↔ portId ∈ node.inputBindings.keys := by
    intro portId
    rw [mem_keys_gatherInputs done, CompiledNode.inputBindingItems, List.map_map]
    exact or_iff_right List.not_mem_nil
  have connectable : ∀ spec ∈ node.definition.parameters, spec.id ∈ gathered.keys →
      spec ∈ node.connectableParameterSpecs := by
    intro spec isSpec isInput
    rcases Option.isSome_iff_exists.mp ((Dict.get?_isSome _ _).mpr isInput) with ⟨value, found⟩
    have socket := (gathered_fit wellFormed split typed done found).1
    exact List.mem_filter.mpr
      ⟨isSpec, connectable_of_hasSocket parametrized.constructed isSpec socket⟩
  refine ⟨?_, wellFormed.required node isNode, ?_, ?_, ?_, ?_, ?_, validated⟩
  · exact fun portId => (overlay.keys portId).trans (gatheredKeys portId)
  · intro portId value plain found
    rw [overlay.others portId plain] at found
    exact (gathered_fit wellFormed split typed done found).2
  · intro waits portId value plain found nothing
    rw [overlay.others portId plain] at found
    have starved : isStarved node gathered = true := by
      rw [isStarved, waits, Bool.not_false, Bool.true_and, List.any_eq_true]
      exact ⟨(portId, value), Dict.mem_of_get? found, RuntimeValue.isNoData_iff.mpr nothing⟩
    rw [fed] at starved
    cases starved
  · intro spec isSpec isInput
    rcases overlay.live spec isSpec ((overlay.keys spec.id).mp isInput) with
      ⟨literal, stored, _, handed⟩
    exact ⟨literal, stored, handed⟩
  · intro name unbound
    exact overlay.kept name (Or.inr (fun isInput => unbound ((overlay.keys name).mpr isInput)))
  · intro spec isSpec
    by_cases isInput : spec.id ∈ gathered.keys
    · rcases overlay.live spec (connectable spec isSpec isInput) isInput with
        ⟨literal, stored, valid, _⟩
      exact ⟨literal, stored, valid⟩
    · rcases parametrized.accepted spec isSpec with ⟨literal, stored, valid⟩
      exact ⟨literal, (overlay.kept spec.id (Or.inr isInput)).trans stored, valid⟩

namespace Scheduler

/-- For every document, every registry and every history of ticks, resets and
panics of a scheduler made for the compiled plan, whatever the runtimes return
or raise: in a further tick every call of a runtime is well typed, and what the
tick returns fits the ports of the plan, provided that the source values did. -/
theorem compiledCalls_wellTyped {registry : NodeRegistry ρ} {snapshot : GraphSnapshot}
    {requested : Option (List UUID)} {result : CompilationResult ρ} {plan : ExecutionPlan ρ}
    (compiled : compile registry snapshot requested = .ok result)
    (planned : result.plan = some plan) {reusable : Dict UUID ρ} {start : Scheduler ρ}
    (created : create plan reusable = .ok start) {calls : List SchedulerCall}
    (supplied : ∀ call ∈ calls, SuppliesTyped plan call) {context : FrameContext}
    {sourceValues : PortValues} (typed : ∀ node ∈ plan.nodes, TypedAt sourceValues node) :
    (∀ node state inputs parameters,
      (start.advanceAll calls).TurnBegins context sourceValues node state →
        TurnCalls node state inputs parameters → WellTypedCall node inputs parameters) ∧
      ∀ ticked, ((start.advanceAll calls).executeTick context sourceValues).2 = .ok ticked →
        ∀ node ∈ plan.nodes, TypedAt ticked.values node := by
  have wellFormed := wellFormed_of_compiled compiled planned
  have compiles := compilesDocument_of_compiled compiled planned
  have keepsStart : KeepsTypes plan start := by
    rcases bind_eq_ok.mp created with ⟨⟨runtimes, borrowed⟩, _, built⟩
    cases built
    exact ⟨rfl, fun node _ portId portType _ value found => by cases found⟩
  have keeps := keepsTypes_advanceAll wellFormed.distinct keepsStart supplied
  have started := keeps.startTick typed
  constructor
  · rintro node state inputs parameters ⟨before, after, split, reached⟩ processes
    rw [keeps.plan_eq] at split
    have inside : before ⊆ plan.nodes := by
      rw [split]
      exact List.subset_append_left _ _
    have atTurn := typedState_run wellFormed.distinct inside started reached
    have isNode : node ∈ plan.nodes := by
      rw [split]
      exact List.mem_append_right _ List.mem_cons_self
    exact wellTypedCall_of_typed wellFormed split (parametrized_of_compiled compiles isNode)
      atTurn.values processes
  · intro ticked returned
    rcases executeTick_ok returned with ⟨final, finished, rfl, _⟩
    rw [keeps.plan_eq] at finished
    exact (typedState_run wellFormed.distinct (List.Subset.refl _) started finished).values

end Scheduler

/-- A meter that reads five. -/
def suppliedFive : PortValues := Dict.ofEntries [(⟨1, "value"⟩, .int 5)]

theorem suppliedFive_typed : ∀ node ∈ oneMeterPlan.nodes, TypedAt suppliedFive node := by
  intro node isNode portId portType isPort value found
  have only : ((⟨node.nodeId, portId⟩ : PortKey), value) = (⟨1, "value"⟩, .int 5) :=
    List.mem_singleton.mp (Dict.mem_of_get? found)
  rcases List.mem_cons.mp isNode with rfl | later
  · cases only
    cases isPort
    exact Or.inr ⟨rfl, rfl⟩
  · rw [List.mem_singleton] at later
    subst later
    cases isPort

theorem compiledCalls_wellTyped_meter :
    ∃ start, Scheduler.create oneMeterPlan Dict.empty = .ok start ∧
      (∀ node state inputs parameters,
        (start.advanceAll (.tick (FrameContext.first 1 0) suppliedFive :: meterCalls)).TurnBegins
            (FrameContext.first 1 2) suppliedFive node state →
          TurnCalls node state inputs parameters → WellTypedCall node inputs parameters) := by
  rcases map_eq_ok.mp compile_oneMeter with ⟨result, compiled, planned⟩
  have builds : (Scheduler.create oneMeterPlan Dict.empty).isOk = true := by decide +kernel
  rcases exists_of_isOk builds with ⟨start, created⟩
  have supplied : ∀ call ∈ SchedulerCall.tick (FrameContext.first 1 0) suppliedFive :: meterCalls,
      Scheduler.SuppliesTyped oneMeterPlan call := by
    intro call isCall
    rcases List.mem_cons.mp isCall with rfl | later
    · exact suppliedFive_typed
    · have nothing : ∀ node ∈ oneMeterPlan.nodes, TypedAt Dict.empty node :=
        fun node _ portId portType _ value found => by cases found
      simp only [meterCalls, List.mem_cons, List.not_mem_nil, or_false] at later
      rcases later with rfl | rfl | rfl
      · exact nothing
      · trivial
      · exact nothing
  exact ⟨start, created, (Scheduler.compiledCalls_wellTyped compiled planned created supplied
    suppliedFive_typed).1⟩

end Runtime
end Synesthesia
