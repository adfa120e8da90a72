import Synesthesia.Graph.CompiledPlan
import Synesthesia.Runtime.Scheduler

namespace Synesthesia
namespace Runtime

open Foundation Contracts Nodes Synesthesia.Graph

/-!
# Which runtimes a panic or a reset reaches

Both are plain loops over runtimes: an exception of one runtime ends the loop
and leaves the later ones untouched, unlike `Scheduler.close`, which suppresses
the exceptions of each runtime on its own.
-/

namespace Scheduler

section Visit

variable {ρ : Type} (call? : ρ → Option (ρ × Except PyError Unit))

/-- There is a call for this runtime. -/
def Answers (runtimes : Dict UUID ρ) (id : UUID) : Prop :=
  ∃ runtime, runtimes.get? id = some runtime ∧ (call? runtime).isSome

/-- The call of this runtime raises. -/
def Raises (runtimes : Dict UUID ρ) (id : UUID) : Prop :=
  ∃ runtime after error, runtimes.get? id = some runtime ∧
    call? runtime = some (after, .error error)

variable {call?} {runtimes : Dict UUID ρ}

theorem answers_insert_iff {id other : UUID} (runtime : ρ)
    (different : other ≠ id) :
    Answers call? (runtimes.insert id runtime) other ↔ Answers call? runtimes other := by
  unfold Answers
  rw [Dict.get?_insert_of_ne runtime different]

theorem raises_insert_iff {id other : UUID} (runtime : ρ)
    (different : other ≠ id) :
    Raises call? (runtimes.insert id runtime) other ↔ Raises call? runtimes other := by
  unfold Raises
  rw [Dict.get?_insert_of_ne runtime different]

/-- No raising runtime stands before one that should be called, too. -/
def Unobstructed (call? : ρ → Option (ρ × Except PyError Unit)) (runtimes : Dict UUID ρ) :
    List UUID → Prop
  | [] => True
  | id :: rest => (Raises call? runtimes id → ∀ later ∈ rest, ¬ Answers call? runtimes later) ∧
      Unobstructed call? runtimes rest

theorem unobstructed_insert_iff {ids : List UUID} {id : UUID}
    (runtime : ρ) (absent : id ∉ ids) :
    Unobstructed call? (runtimes.insert id runtime) ids ↔ Unobstructed call? runtimes ids := by
  induction ids with
  | nil => exact Iff.rfl
  | cons first rest ih =>
      rw [List.mem_cons, not_or] at absent
      have others : ∀ later ∈ rest, later ≠ id := by
        intro later member equal
        exact absent.2 (equal ▸ member)
      rw [Unobstructed, Unobstructed, raises_insert_iff runtime (Ne.symm absent.1),
        ih absent.2]
      refine and_congr_left fun _ => imp_congr_right fun _ => forall₂_congr fun later member => ?_
      rw [answers_insert_iff runtime (others later member)]

theorem unobstructed_of_silent {ids : List UUID}
    (silent : ∀ id ∈ ids, ¬ Answers call? runtimes id) : Unobstructed call? runtimes ids := by
  induction ids with
  | nil => trivial
  | cons first rest ih =>
      rw [List.forall_mem_cons] at silent
      exact ⟨fun _ => silent.2, ih silent.2⟩

/-- What is known of the call of a stored runtime settles whether it raises. -/
theorem raises_iff_of_found {id : UUID} {runtime : ρ}
    (found : runtimes.get? id = some runtime) :
    Raises call? runtimes id ↔ ∃ after error, call? runtime = some (after, .error error) := by
  constructor
  · rintro ⟨other, after, error, same, called⟩
    rw [found, Option.some.injEq] at same
    exact ⟨after, error, same ▸ called⟩
  · rintro ⟨after, error, called⟩
    exact ⟨runtime, after, error, found, called⟩

theorem answers_iff_of_found {id : UUID} {runtime : ρ}
    (found : runtimes.get? id = some runtime) :
    Answers call? runtimes id ↔ (call? runtime).isSome := by
  constructor
  · rintro ⟨other, same, called⟩
    rw [found, Option.some.injEq] at same
    exact same ▸ called
  · exact fun called => ⟨runtime, found, called⟩

/-- The loop reaches every runtime it should call exactly when none that
raises stands before another. -/
theorem visitRuntimes_reaches_iff {ids : List UUID} (distinct : ids.Nodup)
    (present : ∀ id ∈ ids, id ∈ runtimes.keys) :
    (∀ id ∈ ids, Answers call? runtimes id → id ∈ (visitRuntimes call? ids runtimes).2.1) ↔
      Unobstructed call? runtimes ids := by
  induction ids generalizing runtimes with
  | nil => exact iff_of_true (fun id member => absurd member List.not_mem_nil) trivial
  | cons id rest ih =>
      rw [List.nodup_cons] at distinct
      have different : ∀ later ∈ rest, later ≠ id := by
        intro later member equal
        exact distinct.1 (equal ▸ member)
      rw [List.forall_mem_cons] at present
      rcases Option.isSome_iff_exists.mp ((runtimes.get?_isSome id).mpr present.1) with
        ⟨runtime, found⟩
      rw [Unobstructed, List.forall_mem_cons, raises_iff_of_found found,
        answers_iff_of_found found, visitRuntimes, found]
      cases called : call? runtime with
      | none =>
          simp only [called, ih distinct.2 present.2]
          simp
      | some result =>
          rcases result with ⟨after, outcome⟩
          cases outcome with
          | error error =>
              -- the loop ends here, so nothing behind may want a call
              constructor
              · rintro ⟨_, reached⟩
                have silent : ∀ later ∈ rest, ¬ Answers call? runtimes later := by
                  intro later member answered
                  simp only [called, List.mem_singleton] at reached
                  exact different later member (reached later member answered)
                exact ⟨fun _ => silent, unobstructed_of_silent silent⟩
              · rintro ⟨silent, _⟩
                refine ⟨fun _ => by simp [called], ?_⟩
                intro later member answered
                exact absurd answered (silent ⟨after, error, rfl⟩ later member)
          | ok _ =>
              have presentAfter : ∀ later ∈ rest, later ∈ (runtimes.insert id after).keys :=
                fun later member => Dict.mem_keys_insert.mpr (Or.inr (present.2 later member))
              have onward := ih distinct.2 presentAfter
              rw [unobstructed_insert_iff after distinct.1] at onward
              simp only [called, List.mem_cons, true_or, implies_true, true_and]
              rw [← onward]
              simp only [reduceCtorEq, exists_false, false_implies, true_and, Option.some.injEq,
                Prod.mk.injEq, and_false]
              refine forall₂_congr fun later member => ?_
              rw [answers_insert_iff after (different later member),
                or_iff_right (different later member)]

/-- The loop reports a failure exactly when some runtime raises. -/
theorem visitRuntimes_ok_iff {ids : List UUID} (distinct : ids.Nodup)
    (present : ∀ id ∈ ids, id ∈ runtimes.keys) :
    (visitRuntimes call? ids runtimes).2.2 = .ok () ↔ ∀ id ∈ ids, ¬ Raises call? runtimes id := by
  induction ids generalizing runtimes with
  | nil => exact iff_of_true rfl (fun id member => absurd member List.not_mem_nil)
  | cons id rest ih =>
      rw [List.nodup_cons] at distinct
      rw [List.forall_mem_cons] at present
      rcases Option.isSome_iff_exists.mp ((runtimes.get?_isSome id).mpr present.1) with
        ⟨runtime, found⟩
      rw [List.forall_mem_cons, raises_iff_of_found found, visitRuntimes, found]
      cases called : call? runtime with
      | none =>
          simp only [called, ih distinct.2 present.2]
          simp
      | some result =>
          rcases result with ⟨after, outcome⟩
          cases outcome with
          | error error => simp [called]
          | ok _ =>
              have presentAfter : ∀ later ∈ rest, later ∈ (runtimes.insert id after).keys :=
                fun later member => Dict.mem_keys_insert.mpr (Or.inr (present.2 later member))
              simp only [called, ih distinct.2 presentAfter]
              simp only [reduceCtorEq, exists_false, not_false_eq_true, true_and,
                Option.some.injEq, Prod.mk.injEq, and_false]
              refine forall₂_congr fun later member => not_congr ?_
              have different : later ≠ id := fun equal => distinct.1 (equal ▸ member)
              rw [raises_insert_iff after different]

end Visit

/-! ## Panic and reset of a scheduler -/

variable {ρ : Type} [NodeRuntime ρ]

/-- The call a panic makes: panic-capable runtimes only. -/
def panicCall (publishGeneration : Nat) (runtime : ρ) : Option (ρ × Except PyError Unit) :=
  (NodeRuntime.panic? runtime).map (fun call => call publishGeneration)

def resetCall (reason : ResetReason) (runtime : ρ) : Option (ρ × Except PyError Unit) :=
  some (NodeRuntime.reset runtime reason)

/-- Every runtime of the list that the call is for is reached, and the outcome
reports exactly the failures. -/
def ReachesAll (call? : ρ → Option (ρ × Except PyError Unit)) (runtimes : Dict UUID ρ)
    (ids reached : List UUID) (outcome : Except PyError Unit) : Prop :=
  (∀ id ∈ ids, Answers call? runtimes id → id ∈ reached) ∧
    (outcome = .ok () ↔ ∀ id ∈ ids, ¬ Raises call? runtimes id)

/-- A panic reaches every panic-capable runtime, and a reset of a source every
state-owning runtime on its clock, exactly when no raising one of them stands
before another. -/
theorem panic_resetSource_reach_iff (scheduler : Scheduler ρ)
    (complete : scheduler.runtimes.keys = scheduler.plan.nodes.map CompiledNode.nodeId) :
    (∀ publishGeneration,
      ReachesAll (panicCall publishGeneration) scheduler.runtimes scheduler.runtimes.keys
        (scheduler.panic publishGeneration).2.1 (scheduler.panic publishGeneration).2.2 ↔
      Unobstructed (panicCall publishGeneration) scheduler.runtimes scheduler.runtimes.keys) ∧
    (∀ clockId reason,
      ReachesAll (resetCall reason) scheduler.runtimes (scheduler.stateOwners clockId)
        (scheduler.resetSource clockId reason).2.1 (scheduler.resetSource clockId reason).2.2 ↔
      Unobstructed (resetCall reason) scheduler.runtimes (scheduler.stateOwners clockId)) := by
  constructor
  · intro publishGeneration
    have present : ∀ id ∈ scheduler.runtimes.keys, id ∈ scheduler.runtimes.keys :=
      fun id member => member
    rw [← visitRuntimes_reaches_iff scheduler.runtimes.keys_nodup present]
    exact and_iff_left (visitRuntimes_ok_iff scheduler.runtimes.keys_nodup present)
  · intro clockId reason
    have owners : (scheduler.stateOwners clockId).Sublist scheduler.runtimes.keys := by
      rw [complete]
      exact List.filter_sublist.map CompiledNode.nodeId
    have distinct := scheduler.runtimes.keys_nodup.sublist owners
    have present : ∀ id ∈ scheduler.stateOwners clockId, id ∈ scheduler.runtimes.keys :=
      fun id member => owners.subset member
    rw [← visitRuntimes_reaches_iff distinct present]
    exact and_iff_left (visitRuntimes_ok_iff distinct present)

/-! ## A slow device -/

/-- The runtimes of the example: an output tells whether its sender thread
answers a panic in time, and the panics that it was asked for. -/
inductive StageRuntime where
  | silent
  | output (responsive : Bool) (panics : List Nat)

def StageRuntime.panic (responsive : Bool) (panics : List Nat) (publishGeneration : Nat) :
    StageRuntime × Except PyError Unit :=
  (.output responsive (panics ++ [publishGeneration]),
    if responsive then .ok () else .error (.timeoutError "Timed out waiting for MIDI panic"))

instance : NodeRuntime StageRuntime where
  process runtime _ _ _ := (runtime, .ok Dict.empty)
  reset runtime _ := match runtime with
    | .silent => (.silent, .ok ())
    | .output responsive panics => StageRuntime.panic responsive panics 0
  close runtime := (runtime, .ok ())
  panic? runtime := match runtime with
    | .silent => none
    | .output responsive panics => some (StageRuntime.panic responsive panics)

def stageContract (typeId : String) (executionKind : ExecutionKind) (inputs : List InputPortSpec)
    (outputs : List OutputPortSpec) (cachePolicy : CachePolicy) (handlesNoData : Bool)
    (runtime : StageRuntime) : NodeExecutionContract StageRuntime where
  typeId := typeId
  implementationVersion := 1
  executionKind := executionKind
  inputs := inputs
  outputs := outputs
  parameters := []
  runtimeFactory := fun _ => .ok runtime
  variadicInput := none
  cachePolicy := cachePolicy
  handlesNoData := handlesNoData
  parameterValidator := none
  sourceOutputs := none

def outputContract (responsive : Bool) : NodeExecutionContract StageRuntime :=
  stageContract "synmachine.output.send_midi" .sink [⟨"midi", .port .midiState, true⟩] [] .never
    true (.output responsive [])

/-- The video 1, its note finder 2 and its outputs 10 and 11. -/
def oneVideo (responsive : Bool) : Resolved StageRuntime where
  nodes := [1, 2, 10, 11]
  definitions := Dict.ofEntries [
    (1, stageContract "synmachine.input.load_video" .source [] [⟨"image", .port .image⟩] .never
      false .silent),
    (2, stageContract "synmachine.synesthesia.region_grid" .stateless
      [⟨"image", .port .image, true⟩] [⟨"midi", .port .midiState⟩] .auto false .silent),
    (10, outputContract responsive), (11, outputContract true)]
  parameters := Dict.ofEntries [(1, Dict.empty), (2, Dict.empty), (10, Dict.empty),
    (11, Dict.empty)]
  connections := [⟨20, 1, "image", 2, "image"⟩, ⟨21, 2, "midi", 10, "midi"⟩,
    ⟨22, 2, "midi", 11, "midi"⟩]
  resolvedTypes := Dict.ofEntries [
    ((1, "image", true), some .image), ((2, "image", false), some .image),
    ((2, "midi", true), some .midiState), ((10, "midi", false), some .midiState),
    ((11, "midi", false), some .midiState)]
  nodes_nodup := by decide
  source_mem := by decide
  destination_mem := by decide

/-- The scheduler of the compiled graph, whose first output has the given
responsiveness. -/
def twoOutputs (responsive : Bool) : Except PyError (Scheduler StageRuntime) := do
  let plan ← buildPlan 0 1 (analyze (oneVideo responsive) none).1
  Scheduler.create plan Dict.empty

theorem panic_resetSource_reach_iff_twoOutputs :
    ∃ scheduler, twoOutputs true = .ok scheduler ∧
      (∀ publishGeneration,
        ReachesAll (panicCall publishGeneration) scheduler.runtimes scheduler.runtimes.keys
          (scheduler.panic publishGeneration).2.1 (scheduler.panic publishGeneration).2.2 ↔
        Unobstructed (panicCall publishGeneration) scheduler.runtimes scheduler.runtimes.keys) ∧
      (∀ clockId reason,
        ReachesAll (resetCall reason) scheduler.runtimes (scheduler.stateOwners clockId)
          (scheduler.resetSource clockId reason).2.1 (scheduler.resetSource clockId reason).2.2 ↔
        Unobstructed (resetCall reason) scheduler.runtimes (scheduler.stateOwners clockId)) := by
  have owns : (twoOutputs true).map (fun scheduler => decide (scheduler.runtimes.keys =
      scheduler.plan.nodes.map CompiledNode.nodeId)) = .ok true := rfl
  rcases map_eq_ok.mp owns with ⟨scheduler, created, complete⟩
  exact ⟨scheduler, created, panic_resetSource_reach_iff scheduler (of_decide_eq_true complete)⟩

/-- The two outputs, in the order of the plan, and what a panic and a reset of
the source reach. -/
def outputsReached (scheduler : Scheduler StageRuntime) :
    Option StageRuntime × List UUID × List UUID :=
  (scheduler.runtimes.get? 11, (scheduler.panic 5).2.1, (scheduler.resetSource 1 .sourceEnded).2.1)

/-- The first output does not answer in time: the panic ends there and the
second output, which could be silenced, is never asked. -/
theorem slow_output_shields_the_next :
    ∃ scheduler, twoOutputs false = .ok scheduler ∧
      Answers (panicCall 5) scheduler.runtimes 11 ∧ 11 ∉ (scheduler.panic 5).2.1 ∧
      11 ∉ (scheduler.resetSource 1 .sourceEnded).2.1 := by
  have observed : (twoOutputs false).map outputsReached =
      .ok (some (.output true []), [10], [1, 10]) := rfl
  rcases map_eq_ok.mp observed with ⟨scheduler, created, reached⟩
  rcases Prod.mk.inj reached with ⟨second, reached⟩
  rcases Prod.mk.inj reached with ⟨panicked, reset⟩
  refine ⟨scheduler, created, ⟨_, second, rfl⟩, ?_, ?_⟩
  · rw [panicked]
    decide
  · rw [reset]
    decide

end Scheduler
end Runtime
end Synesthesia
