import Mathlib

namespace Synesthesia
namespace Foundation

/-!
# Guarded runs of an executable transition system

A system of interleaved threads is a partial step function: an action names
the thread and the atomic section it executes, and `none` means that the
thread is not at that section.  A run is a list of actions.  Every schedule of
the threads is one such list, so a law about all runs is a law about all
interleavings.

Some laws only hold while every step avoids a named situation.  `Meets` states
that of a run, and `run_invariant` is the induction behind all of them: one
preservation lemma per step gives the invariant in every reached state.
-/

variable {State Action : Type*}

/-- Execute the actions in order, starting in the given state. -/
def run (step : State → Action → Option State) : State → List Action → Option State
  | state, [] => some state
  | state, action :: rest => (step state action).bind (fun next => run step next rest)

/-- Every action of the run is allowed in the state in which it is taken. -/
def Meets (step : State → Action → Option State) (allowed : State → Action → Prop) :
    State → List Action → Prop
  | _, [] => True
  | state, action :: rest =>
      allowed state action ∧
        match step state action with
        | none => True
        | some next => Meets step allowed next rest

instance Meets.decidable (step : State → Action → Option State)
    (allowed : State → Action → Prop) [∀ state action, Decidable (allowed state action)] :
    (state : State) → (actions : List Action) → Decidable (Meets step allowed state actions)
  | _, [] => isTrue trivial
  | state, action :: rest =>
      match found : step state action with
      | none => decidable_of_iff (allowed state action) (by simp [Meets, found])
      | some next =>
          have := Meets.decidable step allowed next rest
          decidable_of_iff (allowed state action ∧ Meets step allowed next rest)
            (by simp [Meets, found])

section Laws

variable {step : State → Action → Option State} {allowed : State → Action → Prop}

@[simp] theorem run_nil (state : State) : run step state [] = some state := rfl

theorem run_cons_eq_some {state final : State} {action : Action} {rest : List Action} :
    run step state (action :: rest) = some final ↔
      ∃ next, step state action = some next ∧ run step next rest = some final := by
  simp [run, Option.bind_eq_some_iff]

/-- A run may be cut at any point, and both halves are runs. -/
theorem run_append_eq_some {state final : State} {before after : List Action} :
    run step state (before ++ after) = some final ↔
      ∃ middle, run step state before = some middle ∧ run step middle after = some final := by
  induction before generalizing state with
  | nil => simp
  | cons action rest ih =>
      rw [List.cons_append, run_cons_eq_some]
      constructor
      · rintro ⟨next, taken, finished⟩
        rcases ih.mp finished with ⟨middle, first, second⟩
        exact ⟨middle, run_cons_eq_some.mpr ⟨next, taken, first⟩, second⟩
      · rintro ⟨middle, first, second⟩
        rcases run_cons_eq_some.mp first with ⟨next, taken, reached⟩
        exact ⟨next, taken, ih.mpr ⟨middle, reached, second⟩⟩

theorem meets_cons {state next : State} {action : Action} {rest : List Action}
    (taken : step state action = some next) :
    Meets step allowed state (action :: rest) ↔
      allowed state action ∧ Meets step allowed next rest := by
  simp [Meets, taken]

/-- A guard that every step meets. -/
theorem meets_of_forall (always : ∀ state action, allowed state action) (state : State)
    (actions : List Action) : Meets step allowed state actions := by
  induction actions generalizing state with
  | nil => trivial
  | cons action rest ih =>
      refine ⟨always state action, ?_⟩
      cases step state action with
      | none => trivial
      | some next => exact ih next

variable {actions : List Action}

/-- A guard on the actions alone. -/
theorem meets_of_mem {permitted : Action → Prop}
    (each : ∀ action ∈ actions, permitted action) (state : State) :
    Meets step (fun _ action => permitted action) state actions := by
  induction actions generalizing state with
  | nil => trivial
  | cons action rest ih =>
      refine ⟨each action List.mem_cons_self, ?_⟩
      cases step state action with
      | none => trivial
      | some next =>
          exact ih (fun other member => each other (List.mem_cons_of_mem _ member))
            next

/-- Two guards on the steps of a run are one guard. -/
theorem Meets.and {other : State → Action → Prop} {state : State}
    (first : Meets step allowed state actions) (second : Meets step other state actions) :
    Meets step (fun state action => allowed state action ∧ other state action) state actions := by
  induction actions generalizing state with
  | nil => trivial
  | cons action rest ih =>
      refine ⟨⟨first.1, second.1⟩, ?_⟩
      have onwardFirst := first.2
      have onwardSecond := second.2
      cases taken : step state action with
      | none => trivial
      | some next =>
          rw [taken] at onwardFirst onwardSecond
          exact ih onwardFirst onwardSecond

variable {Invariant : State → Prop}

/-- The guarded induction principle: an invariant that every allowed step keeps
holds in every state that a run of allowed steps reaches. -/
theorem run_invariant (preserved : ∀ state action next, Invariant state → allowed state action →
      step state action = some next → Invariant next)
    {start final : State} (initially : Invariant start)
    (meets : Meets step allowed start actions) (reached : run step start actions = some final) :
    Invariant final := by
  induction actions generalizing start with
  | nil =>
      rw [run_nil, Option.some.injEq] at reached
      exact reached ▸ initially
  | cons action rest ih =>
      rcases run_cons_eq_some.mp reached with ⟨next, taken, continued⟩
      rcases (meets_cons taken).mp meets with ⟨permitted, onward⟩
      exact ih (preserved start action next initially permitted taken)
        onward continued

/-- A law of single steps holds throughout a run exactly when a guard does, if
they agree wherever an invariant holds that the guarded steps keep. -/
theorem meets_congr_of_invariant {law : State → Action → Prop}
    (same : ∀ state action, Invariant state → (law state action ↔ allowed state action))
    (preserved : ∀ state action next, Invariant state → allowed state action →
      step state action = some next → Invariant next)
    {start : State} (initially : Invariant start) (actions : List Action) :
    Meets step law start actions ↔ Meets step allowed start actions := by
  induction actions generalizing start with
  | nil => exact Iff.rfl
  | cons action rest ih =>
      rw [Meets, Meets, same start action initially]
      refine and_congr_right (fun permitted => ?_)
      cases taken : step start action with
      | none => exact Iff.rfl
      | some next =>
          exact ih (preserved start action next initially permitted taken)

/-- A law of single steps holds throughout a run of allowed steps, if it does
wherever an invariant holds that these keep. -/
theorem meets_of_invariant {law : State → Action → Prop}
    (lawful : ∀ state action, Invariant state → allowed state action → law state action)
    (preserved : ∀ state action next, Invariant state → allowed state action →
      step state action = some next → Invariant next)
    {start : State} (initially : Invariant start)
    (meets : Meets step allowed start actions) : Meets step law start actions := by
  induction actions generalizing start with
  | nil => trivial
  | cons action rest ih =>
      refine ⟨lawful start action initially meets.1, ?_⟩
      have onward := meets.2
      cases taken : step start action with
      | none => trivial
      | some next =>
          rw [taken] at onward
          exact ih (preserved start action next initially meets.1 taken) onward

/-- A history that every step extends by what its action says records the whole
run. -/
theorem run_records {Record : Type*} (observe : State → Record)
    (record : Record → Action → Record)
    (records : ∀ state action next, step state action = some next →
      observe next = record (observe state) action)
    {start final : State} (reached : run step start actions = some final) :
    observe final = actions.foldl record (observe start) := by
  induction actions generalizing start with
  | nil =>
      rw [run_nil, Option.some.injEq] at reached
      rw [reached, List.foldl_nil]
  | cons action rest ih =>
      rcases run_cons_eq_some.mp reached with ⟨next, taken, continued⟩
      rw [ih continued, records start action next taken, List.foldl_cons]

/-- A run ends exactly when every step is allowed, if a step is taken exactly
when it is allowed. -/
theorem run_isSome_iff_meets
    (takes : ∀ state action, (∃ next, step state action = some next) ↔ allowed state action)
    (state : State) (actions : List Action) :
    (∃ final, run step state actions = some final) ↔ Meets step allowed state actions := by
  induction actions generalizing state with
  | nil => exact iff_of_true ⟨state, rfl⟩ trivial
  | cons action rest ih =>
      constructor
      · rintro ⟨final, finished⟩
        rcases run_cons_eq_some.mp finished with ⟨next, taken, continued⟩
        rw [meets_cons taken]
        exact ⟨(takes state action).mp ⟨next, taken⟩,
          (ih next).mp ⟨final, continued⟩⟩
      · intro meets
        rcases (takes state action).mpr meets.1 with ⟨next, taken⟩
        rw [meets_cons taken] at meets
        rcases (ih next).mpr meets.2 with ⟨final, continued⟩
        exact ⟨final, run_cons_eq_some.mpr ⟨next, taken, continued⟩⟩

end Laws

end Foundation
end Synesthesia
