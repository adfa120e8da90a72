import Mathlib
import Synesthesia.Ui.EngineBridge

namespace Synesthesia
namespace Ui

open Foundation Contracts

/-!
# The latest edit is activated

A pending graph is served by the debounce, by an activation in flight or by the
end of one that is being handled.  What has been handed to the runner last is
the newest graph as soon as nothing is pending.
-/

variable {Snapshot : Type*}

namespace EngineBridge

/-- The activations handed to the session, in order, executed or still queued. -/
def submitted (bridge : EngineBridge Snapshot) : List (Snapshot × List UUID) :=
  bridge.activations ++ bridge.queue.filterMap EngineTask.activation

/-- The bookkeeping of the bridge and its runner, at any point of a step. -/
structure Consistent (demandRootsFor : Snapshot → List UUID) (bridge : EngineBridge Snapshot) :
    Prop where
  flying : TaskKind.activation ∈ bridge.tasksInflight → bridge.ActivationInFlight
  free : ∀ kind ∈ bridge.inflight, kind ∈ bridge.tasksInflight
  running : bridge.runnerClosed = true → bridge.closed = true
  opened : bridge.pendingActivation.isSome → bridge.closed = false
  recorded : ∀ pending ∈ bridge.pendingActivation,
    bridge.newest = some pending.1 ∧ pending.2 = demandRootsFor pending.1
  latest : bridge.closed = false → bridge.pendingActivation = none →
    ∀ snapshot ∈ bridge.newest,
      bridge.submitted.getLast? = some (snapshot, demandRootsFor snapshot)

/-- Whoever is pending is served. -/
def Served (bridge : EngineBridge Snapshot) : Prop :=
  bridge.pendingActivation.isSome →
    bridge.armed = true ∨ TaskKind.activation ∈ bridge.tasksInflight ∨ 0 < bridge.suspended

variable {demandRootsFor : Snapshot → List UUID} {bridge : EngineBridge Snapshot}

theorem kind_eq_activation {task : EngineTask Snapshot} :
    task.kind = .activation ↔ task.activation.isSome := by
  cases task <;> simp [EngineTask.kind, EngineTask.activation]

/-! ## Submissions -/

/-- An activation that the bridge submits reaches the runner's queue. -/
theorem submit_activate (bridge : EngineBridge Snapshot)
    (known : ∀ kind ∈ bridge.inflight, kind ∈ bridge.tasksInflight)
    (running : bridge.runnerClosed = true → bridge.closed = true)
    (opened : bridge.closed = false) (free : TaskKind.activation ∉ bridge.tasksInflight)
    (snapshot : Snapshot) (demandRoots : List UUID) :
    bridge.submit (.activate snapshot demandRoots) = { bridge with
      tasksInflight := .activation :: bridge.tasksInflight
      inflight := .activation :: bridge.inflight
      queue := bridge.queue ++ [.activate snapshot demandRoots] } := by
  have idle : ¬ (bridge.closed = true ∨
      (EngineTask.activate snapshot demandRoots).kind ∈ bridge.tasksInflight) := by
    rintro (closed | busy)
    · rw [opened] at closed
      cases closed
    · exact free busy
  have accepts : ¬ (bridge.runnerClosed = true ∨
      (EngineTask.activate snapshot demandRoots).kind ∈ bridge.inflight) := by
    rintro (closed | busy)
    · have bridgeClosed := running closed
      rw [opened] at bridgeClosed
      cases bridgeClosed
    · exact free (known _ busy)
  rw [submit, if_neg idle, runnerSubmit, if_neg accepts]
  rfl

variable (consistent : bridge.Consistent demandRootsFor)
include consistent

/-- A flush hands a pending graph on, keeps it behind an activation in flight,
or finds the bridge closed. -/
theorem flushActivation_cases :
    (bridge.pendingActivation = none ∧ bridge.flushActivation = bridge) ∨
      (TaskKind.activation ∈ bridge.tasksInflight ∧ bridge.flushActivation = bridge) ∨
      ∃ snapshot demandRoots, bridge.pendingActivation = some (snapshot, demandRoots) ∧
        bridge.closed = false ∧ TaskKind.activation ∉ bridge.tasksInflight ∧
        bridge.flushActivation = { bridge with
          pendingActivation := none
          tasksInflight := .activation :: bridge.tasksInflight
          inflight := .activation :: bridge.inflight
          queue := bridge.queue ++ [.activate snapshot demandRoots] } := by
  rw [flushActivation]
  rcases pending : bridge.pendingActivation with _ | ⟨snapshot, demandRoots⟩
  · exact Or.inl ⟨rfl, rfl⟩
  · dsimp only
    · have opened := consistent.opened (by rw [pending]; rfl)
      have stays : ¬ bridge.closed = true := by
        rw [opened]
        exact Bool.false_ne_true
      rw [if_neg stays]
      by_cases busy : TaskKind.activation ∈ bridge.tasksInflight
      · rw [if_pos busy]
        exact Or.inr (Or.inl ⟨busy, rfl⟩)
      · rw [if_neg busy]
        refine Or.inr (Or.inr ⟨snapshot, demandRoots, rfl, opened, busy, ?_⟩)
        exact submit_activate { bridge with pendingActivation := none } consistent.free
          consistent.running opened busy snapshot demandRoots

theorem consistent_flushActivation :
    bridge.flushActivation.Consistent demandRootsFor := by
  rcases flushActivation_cases consistent with
    ⟨_, same⟩ | ⟨_, same⟩ | ⟨snapshot, demandRoots, pending, opened, busy, same⟩
  · rw [same]
    exact consistent
  · rw [same]
    exact consistent
  · rw [same]
    have recorded := consistent.recorded (snapshot, demandRoots) pending
    constructor
    · intro _
      exact Or.inl ⟨_, List.mem_append_right _ List.mem_cons_self, rfl⟩
    · intro kind member
      rcases List.mem_cons.mp member with activation | earlier
      · exact activation ▸ List.mem_cons_self
      · exact List.mem_cons_of_mem _ (consistent.free kind earlier)
    · exact consistent.running
    · intro impossible
      cases impossible
    · intro other impossible
      cases impossible
    · intro _ _ newest member
      have equal : newest = snapshot := Option.some.inj (member.symm.trans recorded.1)
      rw [submitted, List.filterMap_append, equal, ← recorded.2, ← List.append_assoc]
      exact List.getLast?_concat

theorem served_flushActivation :
    bridge.flushActivation.Served := by
  intro pending
  rcases flushActivation_cases consistent with ⟨nothing, same⟩ | ⟨busy, same⟩ |
    ⟨_, _, _, _, _, same⟩
  · rw [same, nothing] at pending
    cases pending
  · rw [same]
    exact Or.inr (Or.inl busy)
  · rw [same] at pending
    cases pending

/-- Recording a graph keeps the books; whether it is served is the caller's matter. -/
theorem consistent_record (opened : bridge.closed = false) (snapshot : Snapshot) :
    (bridge.record demandRootsFor snapshot).Consistent demandRootsFor := by
  constructor
  · exact consistent.flying
  · exact consistent.free
  · exact consistent.running
  · exact fun _ => opened
  · intro pending member
    cases member
    exact ⟨rfl, rfl⟩
  · intro _ impossible
    cases impossible

omit consistent in
/-- A task of another kind concerns no activation. -/
theorem submit_other {task : EngineTask Snapshot} (other : task.activation = none)
    (consistent : bridge.Consistent demandRootsFor) (served : bridge.Served) :
    (bridge.submit task).Consistent demandRootsFor ∧ (bridge.submit task).Served := by
  have kind : task.kind ≠ .activation := by
    intro activation
    have content := kind_eq_activation.mp activation
    rw [other] at content
    cases content
  have listed : TaskKind.activation ∈ task.kind :: bridge.tasksInflight ↔
      TaskKind.activation ∈ bridge.tasksInflight := by
    rw [List.mem_cons, or_iff_right kind.symm]
  rw [submit]
  by_cases refused : bridge.closed = true ∨ task.kind ∈ bridge.tasksInflight
  · rw [if_pos refused]
    exact ⟨consistent, served⟩
  rw [if_neg refused, runnerSubmit]
  by_cases dropped : bridge.runnerClosed = true ∨ task.kind ∈ bridge.inflight
  · rw [if_pos dropped]
    refine ⟨⟨?_, ?_, consistent.running, consistent.opened, consistent.recorded,
      consistent.latest⟩, ?_⟩
    · exact fun member => consistent.flying (listed.mp member)
    · exact fun kind member => List.mem_cons_of_mem _ (consistent.free kind member)
    · intro pending
      exact (served pending).imp_right (Or.imp_left listed.mpr)
  · rw [if_neg dropped]
    refine ⟨⟨?_, ?_, consistent.running, consistent.opened, consistent.recorded, ?_⟩, ?_⟩
    · intro member
      rcases consistent.flying (listed.mp member) with ⟨queued, inQueue, same⟩ | signalled
      · exact Or.inl ⟨queued, List.mem_append_left _ inQueue, same⟩
      · exact Or.inr signalled
    · intro kind member
      rcases List.mem_cons.mp member with same | earlier
      · exact same ▸ List.mem_cons_self
      · exact List.mem_cons_of_mem _ (consistent.free kind earlier)
    · have same : submitted ({ bridge with
          tasksInflight := task.kind :: bridge.tasksInflight
          inflight := task.kind :: bridge.inflight
          queue := bridge.queue ++ [task] } : EngineBridge Snapshot) = bridge.submitted := by
        rw [submitted, submitted, List.filterMap_append]
        simp [other]
      intro opened nothing snapshot newest
      rw [same]
      exact consistent.latest opened nothing snapshot newest
    · intro pending
      exact (served pending).imp_right (Or.imp_left listed.mpr)

/-! ## Signals and the end of the bridge -/

omit consistent in
theorem signals_of_drop {position : Nat} {signal : TaskSignal} {rest : List TaskSignal}
    (arriving : bridge.signals.drop position = signal :: rest) :
    bridge.signals = bridge.signals.take position ++ signal :: rest := by
  rw [← arriving, List.take_append_drop]

omit consistent in
/-- The end of a task frees its kind, and that of an activation goes on to a flush. -/
theorem deliver_spec {before : List TaskSignal} {signal : TaskSignal} {rest : List TaskSignal}
    (signals : bridge.signals = before ++ signal :: rest)
    (consistent : bridge.Consistent demandRootsFor) (served : bridge.Served) :
    ({ bridge with signals := before ++ rest }.deliver signal).Consistent demandRootsFor ∧
      ({ bridge with signals := before ++ rest }.deliver signal).Served := by
  have flies : TaskKind.activation ∈ bridge.tasksInflight.filter (· ≠ signal.kind) →
      ({ bridge with signals := before ++ rest } :
        EngineBridge Snapshot).ActivationInFlight := by
    intro member
    have stays := List.mem_filter.mp member
    rcases consistent.flying stays.1 with queued | ⟨other, inSignals, kind⟩
    · exact Or.inl queued
    · rw [signals] at inSignals
      rcases List.mem_append.mp inSignals with earlier | member
      · exact Or.inr ⟨other, List.mem_append_left _ earlier, kind⟩
      rcases List.mem_cons.mp member with head | tail
      · rw [← head, kind] at stays
        exact absurd rfl (of_decide_eq_true stays.2)
      · exact Or.inr ⟨other, List.mem_append_right _ tail, kind⟩
  have frees : ∀ kind ∈ bridge.inflight.filter (· ≠ signal.kind),
      kind ∈ bridge.tasksInflight.filter (· ≠ signal.kind) := by
    intro kind member
    have stays := List.mem_filter.mp member
    exact List.mem_filter.mpr ⟨consistent.free kind stays.1, stays.2⟩
  have books :
      ({ bridge with signals := before ++ rest }.deliver signal).Consistent demandRootsFor := by
    rw [deliver]
    dsimp only
    split_ifs <;>
      exact ⟨flies, frees, consistent.running, consistent.opened, consistent.recorded,
        consistent.latest⟩
  refine ⟨books, ?_⟩
  rw [deliver]
  dsimp only
  split_ifs with closed activation
  · intro pending
    have opened := consistent.opened pending
    rw [closed] at opened
    cases opened
  · intro _
    exact Or.inr (Or.inr (Nat.succ_pos _))
  · intro pending
    refine (served pending).imp_right (Or.imp_left ?_)
    intro member
    exact List.mem_filter.mpr ⟨member, decide_eq_true (fun same => activation same.symm)⟩

omit consistent in
/-- A closed bridge keeps only the books of its tasks. -/
theorem consistent_of_closed (closed : bridge.closed = true)
    (nothing : bridge.pendingActivation = none)
    (flying : TaskKind.activation ∈ bridge.tasksInflight → bridge.ActivationInFlight)
    (free : ∀ kind ∈ bridge.inflight, kind ∈ bridge.tasksInflight) :
    bridge.Consistent demandRootsFor ∧ bridge.Served := by
  refine ⟨⟨flying, free, fun _ => closed, ?_, ?_, ?_⟩, ?_⟩
  · intro pending
    rw [nothing] at pending
    cases pending
  · intro pending member
    rw [nothing] at member
    cases member
  · intro opened
    rw [closed] at opened
    cases opened
  · intro pending
    rw [nothing] at pending
    cases pending

theorem Consistent.nothing_of_closed
    (closed : bridge.closed = true) : bridge.pendingActivation = none := by
  cases waits : bridge.pendingActivation with
  | none => rfl
  | some pending =>
      have opened := consistent.opened (by rw [waits]; rfl)
      rw [closed] at opened
      cases opened

theorem close_spec :
    bridge.close.Consistent demandRootsFor ∧ bridge.close.Served := by
  rw [close]
  split_ifs with closed
  · exact consistent_of_closed closed (consistent.nothing_of_closed closed) consistent.flying
      consistent.free
  · exact consistent_of_closed rfl rfl consistent.flying consistent.free

/-- Cancelled tasks are signalled, and the runner is only closed with the bridge. -/
theorem closeWindow_spec :
    bridge.closeRunner.close.Consistent demandRootsFor ∧ bridge.closeRunner.close.Served := by
  rw [closeRunner]
  by_cases stopped : bridge.runnerClosed = true
  · rw [if_pos stopped]
    exact close_spec consistent
  rw [if_neg stopped, close]
  have free : ∀ kind ∈ ([] : List TaskKind), kind ∈ bridge.tasksInflight := by
    intro kind impossible
    cases impossible
  have signalled : TaskKind.activation ∈ bridge.tasksInflight →
      ∃ signal ∈ bridge.signals ++ bridge.queue.map (fun task => ⟨task.kind, false⟩),
        signal.kind = .activation := by
    intro member
    rcases consistent.flying member with ⟨task, queued, kind⟩ | ⟨signal, signalled, kind⟩
    · exact ⟨_, List.mem_append_right _ (List.mem_map.mpr ⟨task, queued, rfl⟩), kind⟩
    · exact ⟨signal, List.mem_append_left _ signalled, kind⟩
  split_ifs with closed
  · exact consistent_of_closed closed (consistent.nothing_of_closed closed)
      (fun member => Or.inr (signalled member)) free
  · exact consistent_of_closed rfl rfl (fun member => Or.inr (signalled member)) free

omit consistent in
/-- The worker moves an activation from its queue to the session. -/
theorem consistent_workerRuns {task : EngineTask Snapshot} {rest : List (EngineTask Snapshot)}
    (queued : bridge.queue = task :: rest) (consistent : bridge.Consistent demandRootsFor)
    (succeeded : Bool) :
    ({ bridge with
      queue := rest
      activations := bridge.activations ++ task.activation.toList
      signals := bridge.signals ++ [⟨task.kind, succeeded⟩] } :
        EngineBridge Snapshot).Consistent demandRootsFor := by
  refine ⟨?_, consistent.free, consistent.running, consistent.opened, consistent.recorded, ?_⟩
  · intro member
    rcases consistent.flying member with ⟨other, inQueue, kind⟩ | ⟨signal, signalled, kind⟩
    · rw [queued] at inQueue
      rcases List.mem_cons.mp inQueue with head | tail
      · exact Or.inr ⟨_, List.mem_append_right _ List.mem_cons_self, head ▸ kind⟩
      · exact Or.inl ⟨other, tail, kind⟩
    · exact Or.inr ⟨signal, List.mem_append_left _ signalled, kind⟩
  · intro opened nothing snapshot newest
    rw [← consistent.latest opened nothing snapshot newest, submitted, submitted, queued]
    cases task <;> simp [EngineTask.activation, List.filterMap_cons]

/-! ## Every run -/

theorem step_spec {next : EngineBridge Snapshot} {action : BridgeAction Snapshot}
    (served : bridge.Served) (taken : step demandRootsFor bridge action = some next) :
    next.Consistent demandRootsFor ∧ next.Served := by
  cases action with
  | scheduleActivation snapshot =>
      rw [step, Option.some.injEq, scheduleActivation] at taken
      subst taken
      by_cases closed : bridge.closed = true
      · rw [if_pos closed]
        exact ⟨consistent, served⟩
      · rw [if_neg closed]
        have recorded := consistent_record consistent (Bool.not_eq_true _ ▸ closed) snapshot
        exact ⟨⟨recorded.flying, recorded.free, recorded.running, recorded.opened,
          recorded.recorded, recorded.latest⟩, fun _ => Or.inl rfl⟩
  | activateNow snapshot =>
      rw [step, Option.some.injEq, activateNow] at taken
      subst taken
      by_cases closed : bridge.closed = true
      · rw [if_pos closed]
        exact ⟨consistent, served⟩
      · rw [if_neg closed]
        have recorded := consistent_record consistent (Bool.not_eq_true _ ▸ closed) snapshot
        exact ⟨consistent_flushActivation recorded, served_flushActivation recorded⟩
  | debounceFires =>
      simp only [step, Option.ite_none_right_eq_some, Option.some.injEq] at taken
      rw [← taken.2]
      have fired : ({ bridge with armed := false } : EngineBridge Snapshot).Consistent
          demandRootsFor :=
        ⟨consistent.flying, consistent.free, consistent.running, consistent.opened,
          consistent.recorded, consistent.latest⟩
      exact ⟨consistent_flushActivation fired, served_flushActivation fired⟩
  | submit task =>
      cases content : task.activation with
      | some graph => simp [step, content] at taken
      | none =>
          simp only [step, content, Option.isSome_none, Bool.false_eq_true, if_false,
            Option.some.injEq] at taken
          exact taken ▸ submit_other content consistent served
  | workerRuns succeeded =>
      cases queued : bridge.queue with
      | nil => simp [step, queued] at taken
      | cons task rest =>
          simp only [step, queued, Option.some.injEq] at taken
          exact taken ▸ ⟨consistent_workerRuns queued consistent succeeded, served⟩
  | signalArrives position =>
      cases arriving : bridge.signals.drop position with
      | nil => simp [step, arriving] at taken
      | cons signal rest =>
          simp only [step, arriving, Option.some.injEq] at taken
          exact taken ▸ deliver_spec (signals_of_drop arriving) consistent served
  | callbacksReturn =>
      cases suspended : bridge.suspended with
      | zero => simp [step, suspended] at taken
      | succ others =>
          simp only [step, suspended, Option.some.injEq] at taken
          subst taken
          have resumed : ({ bridge with suspended := others } : EngineBridge Snapshot).Consistent
              demandRootsFor :=
            ⟨consistent.flying, consistent.free, consistent.running, consistent.opened,
              consistent.recorded, consistent.latest⟩
          exact ⟨consistent_flushActivation resumed, served_flushActivation resumed⟩
  | close =>
      rw [step, Option.some.injEq] at taken
      exact taken ▸ close_spec consistent
  | closeWindow =>
      rw [step, Option.some.injEq] at taken
      exact taken ▸ closeWindow_spec consistent

/-- The end of an activation, result or error, hands the pending graph on. -/
theorem signal_flushes {position : Nat} {signal : TaskSignal} {rest : List TaskSignal}
    (served : bridge.Served) {pending : Snapshot × List UUID}
    (waits : bridge.pendingActivation = some pending)
    (arriving : bridge.signals.drop position = signal :: rest)
    (activation : signal.kind = .activation) :
    ∃ next,
      run (step demandRootsFor) bridge [.signalArrives position, .callbacksReturn] = some next ∧
      next.pendingActivation = none ∧ next.submitted.getLast? = some pending := by
  have opened : ¬ bridge.closed = true := by
    rw [consistent.opened (by rw [waits]; rfl)]
    exact Bool.false_ne_true
  -- The signal frees the kind, so the flush that follows finds no activation in flight.
  have delivered : { bridge with
      signals := bridge.signals.take position ++ rest }.deliver signal = { bridge with
      signals := bridge.signals.take position ++ rest
      inflight := bridge.inflight.filter (· ≠ signal.kind)
      tasksInflight := bridge.tasksInflight.filter (· ≠ signal.kind)
      suspended := bridge.suspended + 1 } := by
    rw [deliver]
    dsimp only
    rw [if_neg opened, if_pos activation]
  have books := (deliver_spec (signals_of_drop arriving) consistent served).1
  rw [delivered] at books
  have resumed : ({ bridge with
      signals := bridge.signals.take position ++ rest
      inflight := bridge.inflight.filter (· ≠ signal.kind)
      tasksInflight := bridge.tasksInflight.filter (· ≠ signal.kind) } :
        EngineBridge Snapshot).Consistent demandRootsFor :=
    ⟨books.flying, books.free, books.running, books.opened, books.recorded, books.latest⟩
  have returned : run (step demandRootsFor) bridge
      [.signalArrives position, .callbacksReturn] = some ({ bridge with
        signals := bridge.signals.take position ++ rest
        inflight := bridge.inflight.filter (· ≠ signal.kind)
        tasksInflight := bridge.tasksInflight.filter (· ≠ signal.kind) } :
          EngineBridge Snapshot).flushActivation := by
    simp only [run, step, arriving, delivered, Option.bind_some]
  refine ⟨_, returned, ?_⟩
  rcases flushActivation_cases resumed with
    ⟨nothing, _⟩ | ⟨busy, _⟩ | ⟨snapshot, demandRoots, same, _, _, flushed⟩
  · rw [waits] at nothing
    cases nothing
  · rw [activation] at busy
    exact absurd rfl (of_decide_eq_true (List.mem_filter.mp busy).2)
  · rw [flushed]
    have equal : (snapshot, demandRoots) = pending := Option.some.inj (same.symm.trans waits)
    refine ⟨rfl, ?_⟩
    rw [submitted, List.filterMap_append, ← List.append_assoc, ← equal]
    exact List.getLast?_concat

omit consistent

/-- Whether the bridge is closed, and the newest edit that it was told of before. -/
def told (record : Bool × Option Snapshot) : BridgeAction Snapshot → Bool × Option Snapshot
  | .scheduleActivation snapshot | .activateNow snapshot =>
      if record.1 then record else (false, some snapshot)
  | .close | .closeWindow => (true, record.2)
  | _ => record

theorem told_submit (bridge : EngineBridge Snapshot) (task : EngineTask Snapshot) :
    ((bridge.submit task).closed, (bridge.submit task).newest) =
      (bridge.closed, bridge.newest) := by
  rw [submit]
  split_ifs
  · rfl
  · rw [runnerSubmit]
    split_ifs <;> rfl

theorem told_flushActivation (bridge : EngineBridge Snapshot) :
    (bridge.flushActivation.closed, bridge.flushActivation.newest) =
      (bridge.closed, bridge.newest) := by
  rw [flushActivation]
  cases bridge.pendingActivation with
  | none => rfl
  | some pending =>
      dsimp only
      split_ifs
      · rfl
      · rfl
      · exact told_submit _ _

theorem told_close (bridge : EngineBridge Snapshot) :
    (bridge.close.closed, bridge.close.newest) = (true, bridge.newest) := by
  rw [close]
  split_ifs with closed
  · exact Prod.ext closed rfl
  · rfl

/-- The newest snapshot is that of the last edit before the bridge was closed. -/
theorem newest_eq_told {actions : List (BridgeAction Snapshot)} {final : EngineBridge Snapshot}
    (reached : run (step demandRootsFor) initial actions = some final) :
    (final.closed, final.newest) = actions.foldl told (false, none) := by
  refine run_records (fun bridge => (bridge.closed, bridge.newest)) told ?_ reached
  intro bridge action next taken
  cases action with
  | scheduleActivation snapshot =>
      rw [step, Option.some.injEq] at taken
      rw [← taken, scheduleActivation, told]
      split_ifs with closed
      · rfl
      · exact Prod.ext (Bool.not_eq_true _ ▸ closed) rfl
  | activateNow snapshot =>
      rw [step, Option.some.injEq] at taken
      rw [← taken, activateNow, told]
      split_ifs with closed
      · rfl
      · rw [told_flushActivation]
        exact Prod.ext (Bool.not_eq_true _ ▸ closed) rfl
  | debounceFires =>
      simp only [step, Option.ite_none_right_eq_some, Option.some.injEq] at taken
      exact taken.2 ▸ told_flushActivation _
  | submit task =>
      simp only [step, Option.ite_none_left_eq_some, Option.some.injEq] at taken
      exact taken.2 ▸ told_submit bridge task
  | workerRuns succeeded =>
      cases queued : bridge.queue with
      | nil => simp [step, queued] at taken
      | cons task rest =>
          simp only [step, queued, Option.some.injEq] at taken
          exact taken ▸ rfl
  | signalArrives position =>
      cases arriving : bridge.signals.drop position with
      | nil => simp [step, arriving] at taken
      | cons signal rest =>
          simp only [step, arriving, Option.some.injEq] at taken
          rw [← taken, deliver]
          split_ifs <;> rfl
  | callbacksReturn =>
      cases suspended : bridge.suspended with
      | zero => simp [step, suspended] at taken
      | succ others =>
          simp only [step, suspended, Option.some.injEq] at taken
          exact taken ▸ told_flushActivation _
  | close =>
      rw [step, Option.some.injEq] at taken
      exact taken ▸ told_close bridge
  | closeWindow =>
      rw [step, Option.some.injEq] at taken
      rw [← taken, told_close, closeRunner]
      split_ifs <;> rfl

/-- In every run of the bridge, a pending graph is served by the armed debounce
or by an activation in flight, whose end hands the graph on, or it waits while
such an end is being handled; and in every quiescent state of an open bridge the
last activation that the session received is that of the newest graph. -/
theorem latest_edit_activated {actions : List (BridgeAction Snapshot)}
    {final : EngineBridge Snapshot}
    (reached : run (step demandRootsFor) initial actions = some final) :
    (final.pendingActivation.isSome →
        final.armed = true ∨ final.ActivationInFlight ∨ 0 < final.suspended) ∧
      (∀ pending position signal rest, final.pendingActivation = some pending →
        final.signals.drop position = signal :: rest → signal.kind = .activation →
        ∃ next,
          run (step demandRootsFor) final [.signalArrives position, .callbacksReturn] = some next ∧
          next.pendingActivation = none ∧ next.submitted.getLast? = some pending) ∧
      (final.closed = false → final.Quiescent → ∀ snapshot, final.newest = some snapshot →
        final.activations.getLast? = some (snapshot, demandRootsFor snapshot)) := by
  have initially : (initial : EngineBridge Snapshot).Consistent demandRootsFor ∧
      (initial : EngineBridge Snapshot).Served := by
    refine ⟨⟨?_, ?_, fun closed => closed, fun _ => rfl, ?_, ?_⟩, ?_⟩
    · intro impossible
      cases impossible
    · intro kind impossible
      cases impossible
    · intro pending impossible
      cases impossible
    · intro _ _ snapshot impossible
      cases impossible
    · intro impossible
      cases impossible
  have preserved : ∀ (bridge : EngineBridge Snapshot) (action : BridgeAction Snapshot)
      (next : EngineBridge Snapshot), bridge.Consistent demandRootsFor ∧ bridge.Served → True →
      step demandRootsFor bridge action = some next →
      next.Consistent demandRootsFor ∧ next.Served :=
    fun _ _ _ kept _ taken => step_spec kept.1 kept.2 taken
  have kept : final.Consistent demandRootsFor ∧ final.Served :=
    run_invariant preserved initially (meets_of_forall (fun _ _ => trivial) _ actions) reached
  rcases kept with ⟨consistent, served⟩
  refine ⟨?_, ?_, ?_⟩
  · intro pending
    exact (served pending).imp_right (Or.imp_left consistent.flying)
  · intro pending position signal rest waits arriving activation
    exact signal_flushes consistent served waits arriving activation
  · rintro opened ⟨disarmed, returned, queued, signalled⟩ snapshot newest
    have nothing : final.pendingActivation = none := by
      cases waits : final.pendingActivation with
      | none => rfl
      | some pending =>
          rcases served (by rw [waits]; rfl) with armed | busy | suspended
          · rw [disarmed] at armed
            cases armed
          · rcases consistent.flying busy with ⟨task, member, _⟩ | ⟨signal, member, _⟩
            · rw [queued] at member
              cases member
            · rw [signalled] at member
              cases member
          · rw [returned] at suspended
            exact absurd suspended (lt_irrefl 0)
    have last := consistent.latest opened nothing snapshot newest
    rw [submitted, queued, List.filterMap_nil, List.append_nil] at last
    exact last

/-- The second edit falls due while the first activation fails. -/
def editDuringActivation : List (BridgeAction Nat) :=
  [.scheduleActivation 1, .debounceFires, .scheduleActivation 2, .debounceFires,
    .workerRuns false, .signalArrives 0, .callbacksReturn, .workerRuns true, .signalArrives 0,
    .callbacksReturn]

/-- What is left to do in a bridge, and its newest snapshot. -/
structure BridgeSummary where
  closed : Bool
  armed : Bool
  waiting : Nat
  newest : Option Nat
deriving DecidableEq

def summary (bridge : EngineBridge Nat) : BridgeSummary :=
  ⟨bridge.closed, bridge.armed, bridge.suspended + bridge.queue.length + bridge.signals.length,
    bridge.newest⟩

theorem latest_edit_activated_of_editDuringActivation :
    ∃ final, run (step (fun snapshot => [snapshot])) initial editDuringActivation = some final ∧
      final.activations.getLast? = some (2, [2]) := by
  have left : (run (step (fun snapshot => [snapshot])) initial editDuringActivation).map summary =
      some ⟨false, false, 0, some 2⟩ := by
    decide +kernel
  rcases Option.map_eq_some_iff.mp left with ⟨final, reached, summarized⟩
  injection summarized with opened disarmed nothing newest
  rw [Nat.add_eq_zero_iff, Nat.add_eq_zero_iff, List.length_eq_zero_iff,
    List.length_eq_zero_iff] at nothing
  exact ⟨final, reached, (latest_edit_activated reached).2.2 opened
    ⟨disarmed, nothing.1.1, nothing.1.2, nothing.2⟩ 2 newest⟩

end EngineBridge

end Ui
end Synesthesia
