import Synesthesia.Runtime.ClockIsolation

namespace Synesthesia
namespace Runtime

open Foundation Contracts Nodes Synesthesia.Graph

/-!
# Failures within a tick

A tick is a run of turns, one for each node of the plan.  A node that fails in
its turn leaves an error record and `NoData` on its outputs, and only the nodes
that are bound to it, directly or through others, can tell.  The one exception
that leaves the tick comes from the conversion of an input: it stands before
the boundary that turns the failures of a node into records, and an integer
may have no float near it.
-/

variable {ρ : Type} [NodeRuntime ρ]

/-! ## Turns -/

/-- The turn of a node; there is no next state when its exception escapes. -/
def turn (context : FrameContext) (state : TickState ρ) (node : CompiledNode ρ) :
    Option (TickState ρ) :=
  match tickNode context node state with
  | (next, .ok ()) => some next
  | (_, .error _) => none

/-- A converted integer that lies beyond the range of a float. -/
def overflows : Option ScalarConversion → RuntimeValue → Bool
  | some .intToFloat, .int value => decide (PyFloat.overflowLimit ≤ value.natAbs)
  | _, _ => false

/-- A node that is not skipped converts no integer beyond the range of a float. -/
def ConvertsWithinRange (state : TickState ρ) (node : CompiledNode ρ) : Prop :=
  isSkipped node state.values = false →
    ∀ item ∈ node.inputBindingItems,
      overflows item.2.2 ((state.values.get? item.2.1).getD .noData) = false

omit [NodeRuntime ρ] in
instance (state : TickState ρ) (node : CompiledNode ρ) :
    Decidable (ConvertsWithinRange state node) :=
  inferInstanceAs (Decidable (_ → _))

/-- How the node fails in its turn, if it does. -/
def turnFailure (context : FrameContext) (node : CompiledNode ρ) (state : TickState ρ) :
    Option (NodeFailure ⊕ String) :=
  if isSkipped node state.values then none
  else
    match gatherInputs state.values node.inputBindingItems Dict.empty with
    | .error _ => none
    | .ok inputs =>
        if isStarved node inputs then none
        else
          match (invoke node state.runtimes inputs context).2 with
          | .error failure => some failure
          | .ok _ => none

omit [NodeRuntime ρ] in
theorem convertInput_ok_iff (conversion : Option ScalarConversion) (value : RuntimeValue) :
    (∃ converted, convertInput conversion value = .ok converted) ↔
      overflows conversion value = false := by
  cases conversion with
  | none => exact iff_of_true ⟨value, rfl⟩ rfl
  | some conversion =>
      cases conversion with
      | intToFloat =>
          cases value with
          | int number =>
              rw [overflows, decide_eq_false_iff_not, Nat.not_le, ← PyFloat.ofInt_ok_iff]
              constructor
              · rintro ⟨converted, finished⟩
                rcases bind_ok finished with ⟨float, rounded, _⟩
                exact ⟨float, rounded⟩
              · rintro ⟨float, rounded⟩
                exact ⟨.float float, by rw [convertInput, rounded]; rfl⟩
          | _ => exact iff_of_true ⟨_, rfl⟩ rfl

/-- The inputs of a node are gathered unless a converted integer is out of range. -/
theorem gatherInputs_ok_iff (values : PortValues)
    (items : List (String × PortKey × Option ScalarConversion))
    (inputs : Dict String RuntimeValue) :
    (∃ gathered, gatherInputs values items inputs = .ok gathered) ↔
      ∀ item ∈ items, overflows item.2.2 ((values.get? item.2.1).getD .noData) = false := by
  induction items generalizing inputs with
  | nil => exact iff_of_true ⟨inputs, rfl⟩ (by simp)
  | cons item rest ih =>
      rcases item with ⟨portId, source, conversion⟩
      rw [List.forall_mem_cons, ← convertInput_ok_iff]
      constructor
      · rintro ⟨gathered, finished⟩
        rcases bind_ok finished with ⟨value, converted, continued⟩
        exact ⟨⟨value, converted⟩, (ih _).mp ⟨gathered, continued⟩⟩
      · rintro ⟨⟨value, converted⟩, others⟩
        rcases (ih (inputs.insert portId value)).mpr others with
          ⟨gathered, continued⟩
        exact ⟨gathered, by rw [gatherInputs, converted]; exact continued⟩

/-- What a turn publishes. -/
def publish (node : CompiledNode ρ) (outputs : Dict String RuntimeValue) (state : TickState ρ) :
    TickState ρ :=
  { state with
    values := publishOutputs node outputs state.values
    staticCache := cacheOutputs node (publishOutputs node outputs state.values)
      state.staticCache }

variable {node : CompiledNode ρ} {context : FrameContext} {state next : TickState ρ}

/-- The three ways in which a turn ends. -/
theorem turn_cases (taken : turn context state node = some next) :
    isSkipped node state.values = true ∧ next = state ∨
      isSkipped node state.values = false ∧ ∃ inputs,
        gatherInputs state.values node.inputBindingItems Dict.empty = .ok inputs ∧
          (isStarved node inputs = true ∧ next = publish node (noDataOutputs node) state ∨
            isStarved node inputs = false ∧
              next = publish node (runNode node context inputs state).2
                (runNode node context inputs state).1) := by
  unfold turn tickNode at taken
  by_cases skipped : isSkipped node state.values = true
  · rw [if_pos skipped] at taken
    exact Or.inl ⟨skipped, (Option.some.inj taken).symm⟩
  · rw [if_neg skipped] at taken
    refine Or.inr ⟨Bool.eq_false_iff.mpr skipped, ?_⟩
    cases gathered : gatherInputs state.values node.inputBindingItems Dict.empty with
    | error error =>
        rw [gathered] at taken
        cases taken
    | ok inputs =>
        rw [gathered] at taken
        refine ⟨inputs, rfl, ?_⟩
        by_cases starved : isStarved node inputs = true
        · simp only [if_pos starved, Option.some.injEq] at taken
          exact Or.inl ⟨starved, taken.symm⟩
        · simp only [if_neg starved, Option.some.injEq] at taken
          exact Or.inr ⟨Bool.eq_false_iff.mpr starved, taken.symm⟩

/-- A turn ends unless the conversion of an input overflows. -/
theorem turn_isSome_iff (context : FrameContext) (state : TickState ρ) (node : CompiledNode ρ) :
    (∃ next, turn context state node = some next) ↔ ConvertsWithinRange state node := by
  rw [ConvertsWithinRange, ← gatherInputs_ok_iff _ _ Dict.empty]
  constructor
  · rintro ⟨next, taken⟩ active
    rcases turn_cases taken with ⟨skipped, _⟩ | ⟨_, inputs, gathered, _⟩
    · rw [active] at skipped
      cases skipped
    · exact ⟨inputs, gathered⟩
  · intro converts
    unfold turn tickNode
    by_cases skipped : isSkipped node state.values = true
    · exact ⟨state, by rw [if_pos skipped]⟩
    · rcases converts (Bool.eq_false_iff.mpr skipped) with ⟨inputs, gathered⟩
      rw [if_neg skipped, gathered]
      exact ⟨_, rfl⟩

/-- The tick loop is the run of the turns. -/
theorem tickNodes_ok_iff (context : FrameContext) (nodes : List (CompiledNode ρ))
    (state final : TickState ρ) :
    tickNodes context nodes state = (final, .ok ()) ↔
      run (turn context) state nodes = some final := by
  induction nodes generalizing state with
  | nil =>
      rw [run_nil, tickNodes, Option.some.injEq, Prod.mk.injEq]
      exact and_iff_left rfl
  | cons node rest ih =>
      rw [tickNodes, run_cons_eq_some, turn]
      rcases ticked : tickNode context node state with ⟨next, outcome⟩
      cases outcome with
      | error error => simp
      | ok _ => simp [ih]

/-! ## What a turn leaves alone -/

/-- The two states hold the same about a node: its ports, its runtime, whether
it has run. -/
structure SameAbout (nodeId : UUID) (before after : TickState ρ) : Prop where
  values : ∀ key : PortKey, key.nodeId = nodeId → after.values.get? key = before.values.get? key
  runtimes : after.runtimes.get? nodeId = before.runtimes.get? nodeId
  ran_iff : after.ran nodeId ↔ before.ran nodeId

omit [NodeRuntime ρ] in
theorem SameAbout.refl (nodeId : UUID) (state : TickState ρ) : SameAbout nodeId state state :=
  ⟨fun _ _ => rfl, rfl, Iff.rfl⟩

variable {nodeId : UUID}

omit [NodeRuntime ρ] in
theorem SameAbout.trans {first second third : TickState ρ}
    (early : SameAbout nodeId first second) (late : SameAbout nodeId second third) :
    SameAbout nodeId first third :=
  ⟨fun key own => (late.values key own).trans (early.values key own),
    late.runtimes.trans early.runtimes, late.ran_iff.trans early.ran_iff⟩

/-- The ports of a node after an assignment of some of them. -/
theorem get?_assignPorts (nodeId : UUID) (ports : List String) (value : String → RuntimeValue)
    (values : PortValues) (key : PortKey) :
    ((ports.map (fun portId => (portId, PortKey.mk nodeId portId))).foldl
      (fun values item => values.insert item.2 (value item.1)) values).get? key =
        if key ∈ ports.map (PortKey.mk nodeId) then some (value key.portId)
        else values.get? key := by
  induction ports generalizing values with
  | nil => rfl
  | cons portId rest ih =>
      rw [List.map_cons, List.foldl_cons, ih, List.map_cons]
      by_cases later : key ∈ rest.map (PortKey.mk nodeId)
      · rw [if_pos later, if_pos (List.mem_cons_of_mem _ later)]
      · rw [if_neg later]
        by_cases here : key = ⟨nodeId, portId⟩
        · rw [here, if_pos List.mem_cons_self, Dict.get?_insert_self]
        · rw [Dict.get?_insert_of_ne _ here, if_neg]
          intro member
          rcases List.mem_cons.mp member with same | below
          · exact here same
          · exact later below

omit [NodeRuntime ρ] in
theorem publishOutputs_get? (node : CompiledNode ρ) (outputs : Dict String RuntimeValue)
    (values : PortValues) (key : PortKey) :
    (publishOutputs node outputs values).get? key =
      if key ∈ node.outputPortKeys then some ((outputs.get? key.portId).getD .noData)
      else values.get? key :=
  get?_assignPorts node.nodeId node.outputTypes.keys
    (fun portId => (outputs.get? portId).getD .noData) values key

omit [NodeRuntime ρ] in
theorem outputPortKeys_own {key : PortKey}
    (member : key ∈ node.outputPortKeys) : key.nodeId = node.nodeId := by
  rcases List.mem_map.mp member with ⟨portId, _, rfl⟩
  rfl

omit [NodeRuntime ρ] in
theorem publish_leaves (different : node.nodeId ≠ nodeId)
    (outputs : Dict String RuntimeValue) (state : TickState ρ) :
    SameAbout nodeId state (publish node outputs state) := by
  refine ⟨?_, rfl, Iff.rfl⟩
  intro key own
  have foreign : key ∉ node.outputPortKeys :=
    fun member => different ((outputPortKeys_own member).symm.trans own)
  exact (publishOutputs_get? node outputs state.values key).trans (if_neg foreign)

theorem runNode_values (node : CompiledNode ρ) (context : FrameContext)
    (inputs : Dict String RuntimeValue) (state : TickState ρ) :
    (runNode node context inputs state).1.values = state.values := by
  unfold runNode
  split <;> rfl

theorem turn_leaves (different : node.nodeId ≠ nodeId)
    (taken : turn context state node = some next) : SameAbout nodeId state next := by
  rcases turn_cases taken with
    ⟨_, rfl⟩ | ⟨_, inputs, _, ⟨_, rfl⟩ | ⟨_, rfl⟩⟩
  · exact SameAbout.refl nodeId next
  · exact publish_leaves different _ state
  · have touches := runNode_onlyTouches node context inputs state
    have worked : SameAbout nodeId state (runNode node context inputs state).1 :=
      ⟨fun key _ => by rw [runNode_values], touches.runtimes nodeId different.symm,
        touches.ran_iff nodeId different.symm⟩
    exact worked.trans (publish_leaves different _ _)

/-- The turns of other nodes leave a node alone. -/
theorem run_leaves {nodes : List (CompiledNode ρ)}
    (absent : nodeId ∉ nodes.map CompiledNode.nodeId) {state final : TickState ρ}
    (finished : run (turn context) state nodes = some final) : SameAbout nodeId state final := by
  induction nodes generalizing state with
  | nil =>
      cases finished
      exact SameAbout.refl nodeId final
  | cons node rest ih =>
      rw [List.map_cons, List.mem_cons, not_or] at absent
      rcases run_cons_eq_some.mp finished with ⟨next, taken, continued⟩
      exact (turn_leaves (Ne.symm absent.1) taken).trans (ih absent.2 continued)

/-! ## Error records -/

theorem runNode_errors (node : CompiledNode ρ) (context : FrameContext)
    (inputs : Dict String RuntimeValue) (state : TickState ρ) :
    (runNode node context inputs state).1.errors = state.errors ++
      match (invoke node state.runtimes inputs context).2 with
      | .error failure => [failureError node context failure]
      | .ok _ => [] := by
  unfold runNode
  rcases invoke node state.runtimes inputs context with ⟨runtimes, outcome⟩
  cases outcome with
  | error failure => rfl
  | ok outputs => exact (List.append_nil _).symm

/-- A turn adds the record of its failure and nothing else. -/
theorem turn_errors (taken : turn context state node = some next) :
    next.errors = state.errors ++
      ((turnFailure context node state).map (failureError node context)).toList := by
  rcases turn_cases taken with
    ⟨skipped, rfl⟩ | ⟨active, inputs, gathered, ⟨starved, rfl⟩ | ⟨fed, rfl⟩⟩
  · rw [turnFailure, if_pos skipped]
    exact (List.append_nil _).symm
  · simp only [turnFailure, active, gathered, starved, Bool.false_eq_true, if_false, if_true]
    exact (List.append_nil _).symm
  · simp only [turnFailure, active, gathered, fed, Bool.false_eq_true, if_false]
    refine (runNode_errors node context inputs state).trans ?_
    cases (invoke node state.runtimes inputs context).2 <;> rfl

omit [NodeRuntime ρ] in
@[simp] theorem failureError_nodeId (node : CompiledNode ρ) (context : FrameContext)
    (failure : NodeFailure ⊕ String) :
    (failureError node context failure).nodeId = node.nodeId := by
  rcases failure with (_ | _) | _ <;> rfl

/-- Every record that turns add is about one of their nodes. -/
theorem run_errors {nodes : List (CompiledNode ρ)}
    {state final : TickState ρ} (finished : run (turn context) state nodes = some final) :
    ∃ added, final.errors = state.errors ++ added ∧
      ∀ error ∈ added, error.nodeId ∈ nodes.map CompiledNode.nodeId := by
  induction nodes generalizing state with
  | nil =>
      cases finished
      exact ⟨[], (List.append_nil _).symm, by simp⟩
  | cons node rest ih =>
      rcases run_cons_eq_some.mp finished with ⟨next, taken, continued⟩
      rcases ih continued with ⟨added, errors, about⟩
      refine ⟨((turnFailure context node state).map (failureError node context)).toList ++ added,
        by rw [errors, turn_errors taken, List.append_assoc], ?_⟩
      intro error member
      rcases List.mem_append.mp member with own | later
      · rcases Option.map_eq_some_iff.mp (Option.mem_toList.mp own) with ⟨failure, _, rfl⟩
        rw [failureError_nodeId]
        exact List.mem_cons_self
      · exact List.mem_cons_of_mem _ (about error later)

omit [NodeRuntime ρ] in
theorem noDataOutputs_get? (node : CompiledNode ρ) (portId : String) :
    ((noDataOutputs node).get? portId).getD .noData = .noData := by
  cases found : (noDataOutputs node).get? portId with
  | none => rfl
  | some value =>
      have member := Dict.mem_of_get? found
      rw [noDataOutputs, Dict.ofEntries_entries (by
        rw [List.map_map]
        exact (List.map_id _).symm ▸ node.outputTypes.keys_nodup)] at member
      rcases List.mem_map.mp member with ⟨other, _, same⟩
      exact (Prod.mk.inj same).2.symm

/-- A node that fails publishes nothing. -/
theorem turn_noData (taken : turn context state node = some next)
    (failed : (turnFailure context node state).isSome = true) {key : PortKey}
    (member : key ∈ node.outputPortKeys) : next.values.get? key = some .noData := by
  rcases turn_cases taken with
    ⟨skipped, rfl⟩ | ⟨active, inputs, gathered, ⟨starved, rfl⟩ | ⟨fed, rfl⟩⟩
  · rw [turnFailure, if_pos skipped] at failed
    cases failed
  · simp only [turnFailure, active, gathered, starved, Bool.false_eq_true, if_false,
      if_true, Option.isSome_none] at failed
  · simp only [turnFailure, active, gathered, fed, Bool.false_eq_true, if_false] at failed
    have outputs : (runNode node context inputs state).2 = noDataOutputs node := by
      unfold runNode
      rcases invoked : invoke node state.runtimes inputs context with ⟨runtimes, outcome⟩
      rw [invoked] at failed
      cases outcome with
      | error failure => rfl
      | ok outputs => cases failed
    exact (publishOutputs_get? node _ _ key).trans
      (by rw [if_pos member, outputs, noDataOutputs_get?])

/-- A turn without an invocation leaves the runtime of its node alone. -/
theorem turn_starved
    (taken : turn context state node = some next) {inputs : Dict String RuntimeValue}
    (gathered : gatherInputs state.values node.inputBindingItems Dict.empty = .ok inputs)
    (starved : isStarved node inputs = true) :
    next.runtimes = state.runtimes ∧ next.invocations = state.invocations := by
  rcases turn_cases taken with
    ⟨_, rfl⟩ | ⟨_, found, same, ⟨_, rfl⟩ | ⟨fed, _⟩⟩
  · exact ⟨rfl, rfl⟩
  · exact ⟨rfl, rfl⟩
  · cases gathered.symm.trans same
    rw [starved] at fed
    cases fed

/-! ## What a change of some nodes can reach -/

/-- A node is downstream of the seeds when it is one of them or is bound to a
node downstream of them. -/
inductive Downstream (nodes : List (CompiledNode ρ)) (seeds : Set UUID) : UUID → Prop where
  | seed {nodeId : UUID} (member : nodeId ∈ seeds) : Downstream nodes seeds nodeId
  | bound {node : CompiledNode ρ} {item : String × PortKey × Option ScalarConversion}
      (isNode : node ∈ nodes) (binding : item ∈ node.inputBindingItems)
      (source : Downstream nodes seeds item.2.1.nodeId) : Downstream nodes seeds node.nodeId

variable {left right : TickState ρ}

omit [NodeRuntime ρ] in
theorem SameAbout.symm (same : SameAbout nodeId left right) : SameAbout nodeId right left :=
  ⟨fun key own => (same.values key own).symm, same.runtimes.symm, same.ran_iff.symm⟩

omit [NodeRuntime ρ] in
theorem isSkipped_congr {left right : PortValues}
    (same : ∀ key ∈ node.outputPortKeys, right.get? key = left.get? key) :
    isSkipped node right = isSkipped node left := by
  have present : ∀ key ∈ node.outputPortKeys,
      decide (key ∈ right.keys) = decide (key ∈ left.keys) := by
    intro key member
    rw [decide_eq_decide, ← Dict.get?_isSome, ← Dict.get?_isSome, same key member]
  have all : node.outputPortKeys.all (fun key => decide (key ∈ right.keys)) =
      node.outputPortKeys.all (fun key => decide (key ∈ left.keys)) := by
    rw [Bool.eq_iff_iff, List.all_eq_true, List.all_eq_true]
    exact forall₂_congr (fun key member => by rw [present key member])
  rw [isSkipped, isSkipped, all]

theorem gatherInputs_congr {left right : PortValues}
    {items : List (String × PortKey × Option ScalarConversion)}
    (same : ∀ item ∈ items, right.get? item.2.1 = left.get? item.2.1)
    (inputs : Dict String RuntimeValue) :
    gatherInputs right items inputs = gatherInputs left items inputs := by
  induction items generalizing inputs with
  | nil => rfl
  | cons item rest ih =>
      rcases item with ⟨portId, source, conversion⟩
      have here : right.get? source = left.get? source := same _ List.mem_cons_self
      rw [gatherInputs, gatherInputs, here]
      apply bind_congr
      intro value
      exact ih (fun other member => same other (List.mem_cons_of_mem _ member)) _

/-- An invocation depends on the runtime of its node only. -/
theorem invoke_congr {left right : Dict UUID ρ}
    (same : right.get? node.nodeId = left.get? node.nodeId) (inputs : Dict String RuntimeValue)
    (context : FrameContext) :
    (invoke node right inputs context).2 = (invoke node left inputs context).2 ∧
      (invoke node right inputs context).1.get? node.nodeId =
        (invoke node left inputs context).1.get? node.nodeId := by
  unfold invoke
  cases effectiveParameters node inputs with
  | error failure => exact ⟨rfl, same⟩
  | ok effective =>
      rcases effective with ⟨inputs, parameters⟩
      dsimp only
      rw [same]
      cases found : left.get? node.nodeId with
      | none => exact ⟨rfl, same⟩
      | some runtime =>
          dsimp only
          rcases NodeRuntime.process runtime inputs parameters context with ⟨after, returned⟩
          dsimp only
          cases returned with
          | error failure => simp
          | ok outputs =>
              dsimp only
              cases convertFloatOutputs node.floatOutputPorts outputs with
              | error error => simp
              | ok outputs =>
                  dsimp only
                  cases validateOutputs node outputs with
                  | error message => simp
                  | ok _ => simp

theorem runNode_congr (same : SameAbout node.nodeId left right) (context : FrameContext)
    (inputs : Dict String RuntimeValue) :
    (runNode node context inputs right).2 = (runNode node context inputs left).2 ∧
      SameAbout node.nodeId (runNode node context inputs left).1
        (runNode node context inputs right).1 := by
  rcases invoke_congr same.runtimes inputs context with ⟨outcomes, stored⟩
  have ran : (runNode node context inputs right).1.ran node.nodeId ↔
      (runNode node context inputs left).1.ran node.nodeId :=
    iff_of_true (runNode_ran node context inputs right) (runNode_ran node context inputs left)
  have values : ∀ key : PortKey, key.nodeId = node.nodeId →
      (runNode node context inputs right).1.values.get? key =
        (runNode node context inputs left).1.values.get? key := by
    intro key own
    rw [runNode_values, runNode_values]
    exact same.values key own
  have runtimes : ∀ state : TickState ρ, (runNode node context inputs state).1.runtimes =
      (invoke node state.runtimes inputs context).1 := by
    intro state
    unfold runNode
    split <;> simp_all
  refine ⟨?_, values, ?_, ran⟩
  · unfold runNode
    rcases invoked : invoke node left.runtimes inputs context with ⟨leftRuntimes, leftOutcome⟩
    rcases again : invoke node right.runtimes inputs context with ⟨rightRuntimes, rightOutcome⟩
    rw [invoked, again] at outcomes
    cases outcomes
    cases leftOutcome <;> rfl
  · rw [runtimes, runtimes, stored]

omit [NodeRuntime ρ] in
theorem publish_congr
    (same : SameAbout node.nodeId left right) (outputs : Dict String RuntimeValue) :
    SameAbout node.nodeId (publish node outputs left) (publish node outputs right) := by
  refine ⟨?_, same.runtimes, same.ran_iff⟩
  intro key own
  refine (publishOutputs_get? node outputs right.values key).trans ?_
  refine Eq.trans ?_ (publishOutputs_get? node outputs left.values key).symm
  rw [same.values key own]

/-- A turn of the same node on the same inputs has the same effect. -/
theorem turn_congr
    {left right leftNext rightNext : TickState ρ} (own : SameAbout node.nodeId left right)
    (sources : ∀ item ∈ node.inputBindingItems, SameAbout item.2.1.nodeId left right)
    (first : turn context left node = some leftNext)
    (second : turn context right node = some rightNext) :
    SameAbout node.nodeId leftNext rightNext := by
  have skips : isSkipped node right.values = isSkipped node left.values :=
    isSkipped_congr (fun key member => own.values key (outputPortKeys_own member))
  have gathers : gatherInputs right.values node.inputBindingItems Dict.empty =
      gatherInputs left.values node.inputBindingItems Dict.empty :=
    gatherInputs_congr (fun item member => (sources item member).values item.2.1 rfl) _
  rcases turn_cases first with ⟨skipped, rfl⟩ | ⟨active, inputs, gathered, outcome⟩
  · rcases turn_cases second with ⟨_, rfl⟩ | ⟨active, _⟩
    · exact own
    · rw [skips, skipped] at active
      cases active
  · rcases turn_cases second with ⟨skipped, _⟩ | ⟨_, found, again, other⟩
    · rw [skips, active] at skipped
      cases skipped
    · rw [gathers, gathered] at again
      cases again
      rcases outcome with ⟨starved, rfl⟩ | ⟨fed, rfl⟩
      · rcases other with ⟨_, rfl⟩ | ⟨fed, _⟩
        · exact publish_congr own _
        · rw [starved] at fed
          cases fed
      · rcases other with ⟨starved, _⟩ | ⟨_, rfl⟩
        · rw [fed] at starved
          cases starved
        · rcases runNode_congr own context inputs with ⟨outputs, worked⟩
          rw [outputs]
          exact publish_congr worked _

/-- Turns that differ in some nodes only agree on what no such node reaches. -/
theorem run_congr {reached : UUID → Prop}
    {nodes others : List (CompiledNode ρ)}
    (pairs : List.Forall₂ (fun node other : CompiledNode ρ =>
      other.nodeId = node.nodeId ∧ (¬ reached node.nodeId → other = node)) nodes others)
    (closed : ∀ node ∈ nodes, ∀ item ∈ node.inputBindingItems,
      reached item.2.1.nodeId → reached node.nodeId)
    {left right leftFinal rightFinal : TickState ρ}
    (same : ∀ nodeId, ¬ reached nodeId → SameAbout nodeId left right)
    (first : run (turn context) left nodes = some leftFinal)
    (second : run (turn context) right others = some rightFinal) :
    ∀ nodeId, ¬ reached nodeId → SameAbout nodeId leftFinal rightFinal := by
  induction pairs generalizing left right with
  | nil =>
      cases first
      cases second
      exact same
  | @cons node other nodes others pair _ ih =>
      rcases run_cons_eq_some.mp first with ⟨leftNext, leftTaken, leftContinued⟩
      rcases run_cons_eq_some.mp second with ⟨rightNext, rightTaken, rightContinued⟩
      refine ih
        (fun later member => closed later (List.mem_cons_of_mem _ member)) ?_
        leftContinued rightContinued
      intro nodeId outside
      by_cases own : node.nodeId = nodeId
      · have unchanged : other = node := pair.2 (own ▸ outside)
        rw [unchanged] at rightTaken
        subst own
        refine turn_congr (same node.nodeId outside) ?_ leftTaken rightTaken
        intro item member
        apply same
        intro isReached
        exact outside (closed node List.mem_cons_self item member isReached)
      · have leftLeaves := turn_leaves own leftTaken
        have rightLeaves := turn_leaves (fun equal => own (pair.1.symm.trans equal)) rightTaken
        exact leftLeaves.symm.trans ((same nodeId outside).trans rightLeaves)

namespace Scheduler

/-! ## Containment -/

/-- The schedulers differ in the given nodes only: in their definitions, their
runtimes and what is cached for them. -/
structure DiffersIn (changed : Set UUID) (scheduler other : Scheduler ρ) : Prop where
  nodes : List.Forall₂ (fun node replaced : CompiledNode ρ => replaced.nodeId = node.nodeId ∧
    (node.nodeId ∉ changed → replaced = node)) scheduler.plan.nodes other.plan.nodes
  runtimes : ∀ nodeId, nodeId ∉ changed →
    other.runtimes.get? nodeId = scheduler.runtimes.get? nodeId
  cache : ∀ key : PortKey, key.nodeId ∉ changed →
    other.staticCache.get? key = scheduler.staticCache.get? key

/-- The turn of the node begins in the given state of the tick. -/
def TurnBegins (scheduler : Scheduler ρ) (context : FrameContext) (sourceValues : PortValues)
    (node : CompiledNode ρ) (state : TickState ρ) : Prop :=
  ∃ before after, scheduler.plan.nodes = before ++ node :: after ∧
    run (turn context) (scheduler.startTick sourceValues) before = some state

/-- What the turn of a node contributes to a result: one record for a failure
and none otherwise, and `NoData` on every output for a failure; a node that
misses an input is not invoked. -/
structure ContainsTurn (scheduler : Scheduler ρ) (context : FrameContext)
    (sourceValues : PortValues) (result : TickResult) (node : CompiledNode ρ)
    (state : TickState ρ) : Prop where
  begins : scheduler.TurnBegins context sourceValues node state
  one_error : result.errors.filter (fun error => decide (error.nodeId = node.nodeId)) =
    ((turnFailure context node state).map (failureError node context)).toList
  no_data : (turnFailure context node state).isSome = true →
    ∀ key ∈ node.outputPortKeys, result.values.get? key = some .noData
  not_invoked : node.definition.handlesNoData = false → ∀ inputs,
    gatherInputs state.values node.inputBindingItems Dict.empty = .ok inputs →
      (∃ entry ∈ inputs.entries, entry.2 = .noData) →
        node.nodeId ∉ result.invocationCounts.keys ∧
          (scheduler.executeTick context sourceValues).1.runtimes.get? node.nodeId =
            scheduler.runtimes.get? node.nodeId

/-- The tick returns, every node's failure is contained in its turn, and what
is not downstream of some nodes has the values it has with any other behaviour
of those nodes, such as one that does not fail. -/
structure ContainsFailures (scheduler : Scheduler ρ) (context : FrameContext)
    (sourceValues : PortValues) : Prop where
  returns : ∃ result, (scheduler.executeTick context sourceValues).2 = .ok result
  turns : ∀ result, (scheduler.executeTick context sourceValues).2 = .ok result →
    ∀ node ∈ scheduler.plan.nodes, ∃ state,
      scheduler.ContainsTurn context sourceValues result node state
  errors : ∀ result, (scheduler.executeTick context sourceValues).2 = .ok result →
    ∀ error ∈ result.errors, error.nodeId ∈ scheduler.plan.nodes.map CompiledNode.nodeId
  others : ∀ (changed : Set UUID) (other : Scheduler ρ) (result otherResult : TickResult),
    scheduler.DiffersIn changed other →
    (scheduler.executeTick context sourceValues).2 = .ok result →
    (other.executeTick context sourceValues).2 = .ok otherResult →
      ∀ key : PortKey, ¬ Downstream scheduler.plan.nodes changed key.nodeId →
        otherResult.values.get? key = result.values.get? key

variable {sourceValues : PortValues} {context : FrameContext}

/-- A tick returns what the run of its turns ends in. -/
theorem executeTick_ok {scheduler : Scheduler ρ}
    {result : TickResult}
    (returned : (scheduler.executeTick context sourceValues).2 = .ok result) :
    ∃ final, run (turn context) (scheduler.startTick sourceValues) scheduler.plan.nodes =
        some final ∧
      result = ⟨final.values, final.errors, final.invocations⟩ ∧
      (scheduler.executeTick context sourceValues).1.runtimes = final.runtimes := by
  unfold executeTick at returned ⊢
  rcases ticked : tickNodes context scheduler.plan.nodes (scheduler.startTick sourceValues) with
    ⟨final, outcome⟩
  rw [ticked] at returned
  cases outcome with
  | error error => cases returned
  | ok _ =>
      exact ⟨final, (tickNodes_ok_iff context _ _ final).mp ticked, (Except.ok.inj returned).symm,
        rfl⟩

theorem executeTick_returns_iff (scheduler : Scheduler ρ) (context : FrameContext)
    (sourceValues : PortValues) :
    (∃ result, (scheduler.executeTick context sourceValues).2 = .ok result) ↔
      ∃ final, run (turn context) (scheduler.startTick sourceValues) scheduler.plan.nodes =
        some final := by
  constructor
  · rintro ⟨result, returned⟩
    rcases executeTick_ok returned with ⟨final, finished, _⟩
    exact ⟨final, finished⟩
  · rintro ⟨final, finished⟩
    have ticked := (tickNodes_ok_iff context _ _ final).mpr finished
    exact ⟨⟨final.values, final.errors, final.invocations⟩, by rw [executeTick, ticked]⟩

omit [NodeRuntime ρ] in
theorem get?_updateValues_congr {left right : PortValues} (sourceValues : PortValues)
    {key : PortKey} (same : right.get? key = left.get? key) :
    (updateValues right sourceValues).get? key = (updateValues left sourceValues).get? key := by
  unfold updateValues
  generalize sourceValues.entries = entries
  induction entries generalizing left right with
  | nil => exact same
  | cons entry rest ih =>
      apply ih
      by_cases here : key = entry.1
      · rw [here, Dict.get?_insert_self, Dict.get?_insert_self]
      · rw [Dict.get?_insert_of_ne _ here, Dict.get?_insert_of_ne _ here, same]

/-- What a tick that returns contributes for one node. -/
theorem containsTurn_of_returned {scheduler : Scheduler ρ}
    {result : TickResult}
    (distinct : (scheduler.plan.nodes.map CompiledNode.nodeId).Nodup)
    (returned : (scheduler.executeTick context sourceValues).2 = .ok result)
    {node : CompiledNode ρ} (member : node ∈ scheduler.plan.nodes) :
    ∃ state, scheduler.ContainsTurn context sourceValues result node state := by
  rcases executeTick_ok returned with ⟨final, finished, rfl, stored⟩
  rcases List.append_of_mem member with ⟨before, after, split⟩
  rw [split] at finished
  rcases run_append_eq_some.mp finished with ⟨state, first, second⟩
  rcases run_cons_eq_some.mp second with ⟨next, taken, third⟩
  rw [split, List.map_append, List.map_cons, List.nodup_middle, List.nodup_cons,
    List.mem_append, not_or] at distinct
  have early := run_leaves distinct.1.1 first
  have late := run_leaves distinct.1.2 third
  refine ⟨state, ⟨before, after, split, first⟩, ?_, ?_, ?_⟩
  · rcases run_errors first with ⟨earlyErrors, atTurn, earlyAbout⟩
    rcases run_errors third with ⟨lateErrors, atEnd, lateAbout⟩
    have earlier : earlyErrors.filter (fun error => decide (error.nodeId = node.nodeId)) = [] := by
      rw [List.filter_eq_nil_iff]
      intro error isEarly same
      exact distinct.1.1 (of_decide_eq_true same ▸ earlyAbout error isEarly)
    have later : lateErrors.filter (fun error => decide (error.nodeId = node.nodeId)) = [] := by
      rw [List.filter_eq_nil_iff]
      intro error isLate same
      exact distinct.1.2 (of_decide_eq_true same ▸ lateAbout error isLate)
    have started : (scheduler.startTick sourceValues).errors = [] := rfl
    rw [atEnd, turn_errors taken, atTurn, started, List.nil_append, List.filter_append,
      List.filter_append, earlier, later, List.nil_append, List.append_nil, List.filter_eq_self]
    intro error own
    rcases Option.map_eq_some_iff.mp (Option.mem_toList.mp own) with ⟨failure, _, rfl⟩
    exact decide_eq_true (failureError_nodeId node context failure)
  · intro failed key isKey
    rw [late.values key (outputPortKeys_own isKey)]
    exact turn_noData taken failed isKey
  · intro waits inputs gathered missing
    have starved : isStarved node inputs = true := by
      rcases missing with ⟨entry, isEntry, nothing⟩
      rw [isStarved, waits, Bool.not_false, Bool.true_and, List.any_eq_true]
      exact ⟨entry, isEntry, RuntimeValue.isNoData_iff.mpr nothing⟩
    rcases turn_starved taken gathered starved with ⟨runtimes, invocations⟩
    constructor
    · intro invoked
      have ranAtTurn : state.ran node.nodeId := by
        rw [TickState.ran, ← invocations]
        exact late.ran_iff.mp invoked
      exact List.not_mem_nil (early.ran_iff.mp ranAtTurn)
    · rw [stored, late.runtimes, runtimes, early.runtimes]
      rfl

/-- A change of some nodes is seen downstream of them only. -/
theorem executeTick_congr {changed : Set UUID} {scheduler other : Scheduler ρ}
    {result otherResult : TickResult}
    (differs : scheduler.DiffersIn changed other)
    (returned : (scheduler.executeTick context sourceValues).2 = .ok result)
    (otherReturned : (other.executeTick context sourceValues).2 = .ok otherResult)
    {key : PortKey} (outside : ¬ Downstream scheduler.plan.nodes changed key.nodeId) :
    otherResult.values.get? key = result.values.get? key := by
  rcases executeTick_ok returned with ⟨final, finished, rfl, _⟩
  rcases executeTick_ok otherReturned with ⟨otherFinal, otherFinished, rfl, _⟩
  have unchanged : ∀ nodeId, ¬ Downstream scheduler.plan.nodes changed nodeId →
      nodeId ∉ changed := fun nodeId apart member => apart (.seed member)
  have pairs := differs.nodes.imp (fun node replaced pair =>
    (⟨pair.1, fun apart => pair.2 (unchanged node.nodeId apart)⟩ :
      replaced.nodeId = node.nodeId ∧
        (¬ Downstream scheduler.plan.nodes changed node.nodeId → replaced = node)))
  have agree := run_congr pairs
    (fun node isNode item binding source => .bound isNode binding source) (by
      intro nodeId apart
      refine ⟨?_, differs.runtimes nodeId (unchanged nodeId apart), Iff.rfl⟩
      intro key own
      exact get?_updateValues_congr sourceValues
        (differs.cache key (own ▸ unchanged nodeId apart))) finished otherFinished
  exact (agree key.nodeId outside).values key rfl

/-- For every plan, every behaviour of the runtimes and all values: a tick
contains its failures if and only if every turn finds no integer beyond the
range of a float on an input that is converted. -/
theorem containsFailures_iff (scheduler : Scheduler ρ)
    (distinct : (scheduler.plan.nodes.map CompiledNode.nodeId).Nodup) (context : FrameContext)
    (sourceValues : PortValues) :
    scheduler.ContainsFailures context sourceValues ↔
      Meets (turn context) ConvertsWithinRange (scheduler.startTick sourceValues)
        scheduler.plan.nodes := by
  rw [← run_isSome_iff_meets (turn_isSome_iff context), ← executeTick_returns_iff]
  constructor
  · exact ContainsFailures.returns
  · intro returns
    refine ⟨returns, ?_, ?_, ?_⟩
    · intro result returned node member
      exact containsTurn_of_returned distinct returned member
    · intro result returned error member
      rcases executeTick_ok returned with ⟨final, finished, rfl, _⟩
      rcases run_errors finished with ⟨added, errors, about⟩
      have isAdded : error ∈ added := by rwa [errors] at member
      exact about error isAdded
    · intro changed other result otherResult differs returned otherReturned key outside
      exact executeTick_congr differs returned otherReturned outside

end Scheduler

/-! ## An integer that no float is near -/

/-- A runtime that always answers the same. -/
structure ScriptedRuntime where
  answer : Except NodeFailure (Dict String RuntimeValue)

instance : NodeRuntime ScriptedRuntime where
  process runtime _ _ _ := (runtime, runtime.answer)
  reset runtime _ := (runtime, .ok ())
  close runtime := (runtime, .ok ())
  panic? _ := none

/-- A node without parameters whose runtime answers as given. -/
def scriptedContract (typeId : String) (executionKind : ExecutionKind)
    (inputs : List InputPortSpec) (outputs : List OutputPortSpec) (cachePolicy : CachePolicy)
    (answer : Except NodeFailure (Dict String RuntimeValue)) :
    NodeExecutionContract ScriptedRuntime where
  typeId := typeId
  implementationVersion := 1
  executionKind := executionKind
  inputs := inputs
  outputs := outputs
  parameters := []
  runtimeFactory := fun _ => .ok ⟨answer⟩
  variadicInput := none
  cachePolicy := cachePolicy
  handlesNoData := false
  parameterValidator := none
  sourceOutputs := none

/-- The answer of a runtime with one output. -/
def valueAnswer (value : RuntimeValue) : Except NodeFailure (Dict String RuntimeValue) :=
  .ok ⟨[("value", value)], List.nodup_singleton _⟩

/-- A sum of integers. -/
def sumNode (total : Int) : CompiledNode ScriptedRuntime where
  nodeId := 1
  definition := scriptedContract "synmachine.utility.statistics" .stateless []
    [⟨"value", .port .int⟩] .auto (valueAnswer (.int total))
  parameters := Dict.empty
  inputBindings := Dict.empty
  inputTypes := Dict.empty
  outputTypes := ⟨[("value", .int)], List.nodup_singleton _⟩
  clockId := some 9
  isStatic := false
  isDemanded := true

/-- A node that reads the sum as a float. -/
def mathNode : CompiledNode ScriptedRuntime where
  nodeId := 2
  definition := scriptedContract "synmachine.utility.math" .stateless [⟨"a", .port .float, true⟩]
    [⟨"value", .port .float⟩] .auto (valueAnswer (.float (.finite 0)))
  parameters := Dict.empty
  inputBindings := ⟨[("a", ⟨⟨1, "value"⟩, some .intToFloat⟩)], List.nodup_singleton _⟩
  inputTypes := ⟨[("a", .float)], List.nodup_singleton _⟩
  outputTypes := ⟨[("value", .float)], List.nodup_singleton _⟩
  clockId := some 9
  isStatic := false
  isDemanded := true

/-- A sum that is read as a float. -/
def convertedSum (total : Int) : Scheduler ScriptedRuntime where
  plan := ⟨0, 1, [sumNode total, mathNode], [2]⟩
  runtimes := Dict.ofEntries [(1, ⟨valueAnswer (.int total)⟩),
    (2, ⟨valueAnswer (.float (.finite 0))⟩)]
  borrowedRuntimeIds := []
  staticCache := Dict.empty

/-- A sum that is read by a node that fails and by one that answers. -/
def failingMath : Scheduler ScriptedRuntime where
  plan := ⟨0, 1, [sumNode 3, mathNode, { mathNode with nodeId := 3 }], [2, 3]⟩
  runtimes := Dict.ofEntries [(1, ⟨valueAnswer (.int 3)⟩),
    (2, ⟨.error (.expected "invalid_operation" "Division by zero" none)⟩),
    (3, ⟨valueAnswer (.float (.finite 0))⟩)]
  borrowedRuntimeIds := []
  staticCache := Dict.empty

/-- The nodes that report errors, and whether each of the readers lacks a value. -/
def readersLeft (result : TickResult) : List UUID × Option Bool × Option Bool :=
  (result.errors.map NodeExecutionError.nodeId,
    (result.values.get? ⟨2, "value"⟩).map RuntimeValue.isNoData,
    (result.values.get? ⟨3, "value"⟩).map RuntimeValue.isNoData)

theorem containsFailures_iff_failingMath :
    failingMath.ContainsFailures (FrameContext.first 9 0) Dict.empty ∧
      (failingMath.executeTick (FrameContext.first 9 0) Dict.empty).2.toOption.map readersLeft =
        some ([2], some true, some false) := by
  refine ⟨(Scheduler.containsFailures_iff failingMath (by decide) (FrameContext.first 9 0)
    Dict.empty).mpr (by decide +kernel), ?_⟩
  decide +kernel

/-- The exception of the conversion leaves the tick. -/
theorem large_integer_escapes :
    ¬ (convertedSum (2 ^ 1024)).ContainsFailures (FrameContext.first 9 0) Dict.empty := by
  intro contains
  rcases contains.returns with ⟨result, returned⟩
  have escapes : ((convertedSum (2 ^ 1024)).executeTick (FrameContext.first 9 0)
      Dict.empty).2.isOk = false := by decide +kernel
  rw [returned] at escapes
  cases escapes

end Runtime
end Synesthesia
