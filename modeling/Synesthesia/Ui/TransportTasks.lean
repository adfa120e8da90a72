import Synesthesia.Media.VideoSource
import Synesthesia.Ui.LatestActivation

namespace Synesthesia
namespace Ui

open Foundation Contracts

/-!
# Transport commands of the engine bridge

Play, pause, stop, reload and seek are tasks of one kind.  The bridge and the
runner let one task of a kind through at a time, and the transport methods
discard the boolean that tells whether theirs was.  The state of the bridge is
followed here with the operations of its transport tasks and what came of each
call.
-/

/-- What an operation asks of the session. -/
inductive SessionCommand where
  | play (source : Option UUID)
  | resume (source : UUID)
  | pause (source : Option UUID)
  | stop (source : Option UUID)
  | reload (source : Option UUID)
  | seek (source : UUID) (sourceTimeS : ℚ)
deriving DecidableEq

/-- A completed transport command: the status verb and the source it hit. -/
structure TransportOutcome where
  verb : String
  target : UUID
deriving DecidableEq

/-- The transport methods of the bridge with their arguments. -/
inductive TransportCall where
  | play (source : Option UUID)
  | playOrResume (source : Option UUID)
  | togglePlayPause (source : UUID)
  | pause (source : Option UUID)
  | stopSource (source : Option UUID)
  | reload (source : Option UUID)
  | seek (source : UUID) (sourceTimeS : ℚ)
deriving DecidableEq

/-- What the status lookups of an operation find; only a toggle gets to a second. -/
structure Lookups where
  first : Option Media.SourceState
  second : Option Media.SourceState

namespace TransportCall

/-- Play the target, or resume it when the state looked up is paused. -/
def loadPlay (found : Option Media.SourceState) (target : UUID) :
    SessionCommand × TransportOutcome :=
  if found = some .paused then (.resume target, ⟨"Resumed", target⟩)
  else (.play target, ⟨"Playing", target⟩)

def loadToggle (found : Lookups) (target : UUID) : SessionCommand × TransportOutcome :=
  if found.first = some .playing then (.pause target, ⟨"Paused", target⟩)
  else loadPlay found.second target

/-- A command with the verb that reports it, for a call that names its source. -/
def transportCommand (command : Option UUID → SessionCommand) (verb : String) :
    Option UUID → SessionCommand × Option TransportOutcome
  | none => (command none, none)
  | some target => (command target, some ⟨verb, target⟩)

/-- The operation that a method submits. -/
def operation (found : Lookups) : TransportCall → SessionCommand × Option TransportOutcome
  | .play source => (.play source, none)
  | .playOrResume none => (.play none, none)
  | .playOrResume (some target) => (loadPlay found.first target).map id some
  | .togglePlayPause target => (loadToggle found target).map id some
  | .pause source => transportCommand .pause "Paused" source
  | .stopSource source => transportCommand .stop "Stopped" source
  | .reload source => transportCommand .reload "Reloaded" source
  | .seek source sourceTimeS => (.seek source sourceTimeS, none)

end TransportCall

variable {Snapshot : Type*}

/-- The bridge with the calls of its transport methods.  A call is known by its
place in `calls`, which also tells whether a transport task was in flight.
`waiting` holds the operations of the transport tasks that the worker has not
started and `returning` the results of those whose signals are on their way, with
nothing for one that raised. -/
structure TransportBridge (Snapshot : Type*) where
  bridge : EngineBridge Snapshot
  calls : List (TransportCall × Bool)
  waiting : List (Nat × TransportCall)
  returning : List (Nat × Option (Option TransportOutcome))
  executed : List (Nat × SessionCommand)
  reported : List Nat
  lastTransport : Option TransportOutcome

inductive TransportAction (Snapshot : Type*) where
  | call (call : TransportCall)
  /-- The worker executes the oldest task. -/
  | workerRuns (succeeded : Bool) (found : Lookups)
  | signalArrives (position : Nat)
  | closeWindow
  | other (action : BridgeAction Snapshot)

/-- The steps that neither submit, execute nor end a transport task. -/
def BridgeAction.isForeign : BridgeAction Snapshot → Bool
  | .submit task => decide (task.kind ≠ .transport)
  | .workerRuns _ => false
  | .signalArrives _ => false
  | .closeWindow => false
  | _ => true

def TransportAction.bridgeAction : TransportAction Snapshot → BridgeAction Snapshot
  | .call _ => .submit .transport
  | .workerRuns succeeded _ => .workerRuns succeeded
  | .signalArrives position => .signalArrives position
  | .closeWindow => .closeWindow
  | .other action => action

/-- What the bridge's `_submit` returns: its own guard, then the runner's. -/
def EngineBridge.accepts (bridge : EngineBridge Snapshot) (kind : TaskKind) : Bool :=
  decide (¬ (bridge.closed ∨ kind ∈ bridge.tasksInflight) ∧
    ¬ (bridge.runnerClosed ∨ kind ∈ bridge.inflight))

namespace TransportBridge

def initial : TransportBridge Snapshot where
  bridge := .initial
  calls := []
  waiting := []
  returning := []
  executed := []
  reported := []
  lastTransport := none

/-- A call submits its operation; nobody looks at whether it was accepted. -/
def callTransport (state : TransportBridge Snapshot) (call : TransportCall) :
    TransportBridge Snapshot :=
  { state with
    calls := state.calls ++ [(call, decide (TaskKind.transport ∈ state.bridge.tasksInflight))]
    waiting := state.waiting ++
      if state.bridge.accepts .transport then [(state.calls.length, call)] else [] }

/-- The worker ran the oldest task. -/
def workerRan (state : TransportBridge Snapshot) (succeeded : Bool)
    (found : Lookups) : TransportBridge Snapshot :=
  match state.bridge.queue, state.waiting with
  | .transport :: _, (index, call) :: rest => { state with
      waiting := rest
      executed := state.executed ++ if succeeded then [(index, (call.operation found).1)] else []
      returning := state.returning ++
        [(index, if succeeded then some (call.operation found).2 else none)] }
  | _, _ => state

/-- A signal arrived: an open bridge publishes an outcome and reports an error
as `transport_failed`. -/
def signalArrived (state : TransportBridge Snapshot) (position : Nat) :
    TransportBridge Snapshot :=
  match state.bridge.signals.drop position, state.returning with
  | ⟨.transport, _⟩ :: _, (index, result) :: rest =>
      if state.bridge.closed then { state with returning := rest }
      else { state with
        returning := rest
        reported := state.reported ++ if result.isNone then [index] else []
        lastTransport := result.join.or state.lastTransport }
  | _, _ => state

/-- The pool cancelled the operations that had not started. -/
def windowClosed (state : TransportBridge Snapshot) : TransportBridge Snapshot :=
  if state.bridge.runnerClosed then state
  else { state with
    waiting := []
    returning := state.returning ++ state.waiting.map (fun task => (task.1, none)) }

/-- What becomes of the transport operations in a step. -/
def follow (state : TransportBridge Snapshot) :
    TransportAction Snapshot → TransportBridge Snapshot
  | .call call => state.callTransport call
  | .workerRuns succeeded found => state.workerRan succeeded found
  | .signalArrives position => state.signalArrived position
  | .closeWindow => state.windowClosed
  | .other _ => state

def permits : TransportAction Snapshot → Bool
  | .other action => action.isForeign
  | _ => true

/-- A step of the bridge, and of its transport operations with it. -/
def step (demandRootsFor : Snapshot → List UUID) (state : TransportBridge Snapshot)
    (action : TransportAction Snapshot) : Option (TransportBridge Snapshot) :=
  if permits action then
    (state.bridge.step demandRootsFor action.bridgeAction).map
      (fun bridge => { state.follow action with bridge := bridge })
  else none

end TransportBridge

/-! ## Tasks of other kinds -/

/-- The transport tasks that the worker has not started. -/
def transportQueue (bridge : EngineBridge Snapshot) : List (EngineTask Snapshot) :=
  bridge.queue.filter (fun task => decide (task.kind = .transport))

/-- The signals of transport tasks that have not arrived. -/
def transportSignals (bridge : EngineBridge Snapshot) : List TaskSignal :=
  bridge.signals.filter (fun signal => decide (signal.kind = .transport))

/-- The step left the transport tasks alone, and did not open the bridge. -/
structure LeavesTransport (bridge next : EngineBridge Snapshot) : Prop where
  queue : transportQueue next = transportQueue bridge
  signals : transportSignals next = transportSignals bridge
  opened : next.closed = false → bridge.closed = false
  free : TaskKind.transport ∈ next.tasksInflight → TaskKind.transport ∈ bridge.tasksInflight

variable {demandRootsFor : Snapshot → List UUID} {bridge : EngineBridge Snapshot}

theorem leavesTransport_submit {task : EngineTask Snapshot} (other : task.kind ≠ .transport) :
    LeavesTransport bridge (bridge.submit task) := by
  rw [EngineBridge.submit]
  have listed : TaskKind.transport ∈ task.kind :: bridge.tasksInflight →
      TaskKind.transport ∈ bridge.tasksInflight := by
    intro member
    exact List.mem_of_ne_of_mem other.symm member
  split_ifs with refused
  · exact ⟨rfl, rfl, id, id⟩
  · rw [EngineBridge.runnerSubmit]
    split_ifs with dropped
    · exact ⟨rfl, rfl, id, listed⟩
    · refine ⟨?_, rfl, id, listed⟩
      simp only [transportQueue, List.filter_append, List.filter_singleton, other, decide_false,
        cond_false, List.append_nil]

theorem leavesTransport_flushActivation (bridge : EngineBridge Snapshot) :
    LeavesTransport bridge bridge.flushActivation := by
  rw [EngineBridge.flushActivation]
  rcases bridge.pendingActivation with _ | ⟨snapshot, demandRoots⟩
  · exact ⟨rfl, rfl, id, id⟩
  · dsimp only
    split_ifs with closed busy
    · exact ⟨rfl, rfl, id, id⟩
    · exact ⟨rfl, rfl, id, id⟩
    · have other : (EngineTask.activate snapshot demandRoots).kind ≠ .transport := by rintro ⟨⟩
      have submitted : LeavesTransport { bridge with pendingActivation := none } _ :=
        leavesTransport_submit other
      exact ⟨submitted.queue, submitted.signals, submitted.opened, submitted.free⟩

theorem leavesTransport_step {action : BridgeAction Snapshot} {next : EngineBridge Snapshot}
    (foreign : action.isForeign = true) (taken : bridge.step demandRootsFor action = some next) :
    LeavesTransport bridge next := by
  cases action with
  | scheduleActivation snapshot =>
      rw [EngineBridge.step, Option.some.injEq, EngineBridge.scheduleActivation] at taken
      subst taken
      split_ifs
      · exact ⟨rfl, rfl, id, id⟩
      · exact ⟨rfl, rfl, id, id⟩
  | activateNow snapshot =>
      rw [EngineBridge.step, Option.some.injEq, EngineBridge.activateNow] at taken
      subst taken
      split_ifs
      · exact ⟨rfl, rfl, id, id⟩
      · have flushed := leavesTransport_flushActivation (bridge.record demandRootsFor snapshot)
        exact ⟨flushed.queue, flushed.signals, flushed.opened, flushed.free⟩
  | debounceFires =>
      simp only [EngineBridge.step, Option.ite_none_right_eq_some, Option.some.injEq] at taken
      rw [← taken.2]
      have flushed := leavesTransport_flushActivation { bridge with armed := false }
      exact ⟨flushed.queue, flushed.signals, flushed.opened, flushed.free⟩
  | submit task =>
      simp only [EngineBridge.step, Option.ite_none_left_eq_some, Option.some.injEq] at taken
      rw [← taken.2]
      exact leavesTransport_submit (of_decide_eq_true foreign)
  | workerRuns succeeded => cases foreign
  | signalArrives position => cases foreign
  | callbacksReturn =>
      cases suspended : bridge.suspended with
      | zero => simp [EngineBridge.step, suspended] at taken
      | succ others =>
          simp only [EngineBridge.step, suspended, Option.some.injEq] at taken
          subst taken
          have flushed := leavesTransport_flushActivation { bridge with suspended := others }
          exact ⟨flushed.queue, flushed.signals, flushed.opened, flushed.free⟩
  | close =>
      rw [EngineBridge.step, Option.some.injEq, EngineBridge.close] at taken
      subst taken
      split_ifs with closed
      · exact ⟨rfl, rfl, id, id⟩
      · exact ⟨rfl, rfl, (fun impossible => by cases impossible), id⟩
  | closeWindow => cases foreign

/-! ## What comes of a call -/

namespace TransportBridge

/-- The call has this place and found no transport task in flight. -/
def Admitted (state : TransportBridge Snapshot) (index : Nat) (call : TransportCall) : Prop :=
  state.calls[index]? = some (call, false)

/-- A call that was executed or reported, or whose task has not ended. -/
def Accounted (state : TransportBridge Snapshot) (index : Nat) : Prop :=
  index ∈ state.executed.map Prod.fst ∨ index ∈ state.reported ∨
    index ∈ state.waiting.map Prod.fst ∨ (index, none) ∈ state.returning

/-- The transport operations follow the tasks of the bridge. -/
structure Books (demandRootsFor : Snapshot → List UUID) (state : TransportBridge Snapshot) :
    Prop where
  consistent : state.bridge.Consistent demandRootsFor
  served : state.bridge.Served
  queued : state.waiting.length = (transportQueue state.bridge).length
  signalled : state.returning.length = (transportSignals state.bridge).length
  flying : TaskKind.transport ∈ state.bridge.tasksInflight →
    0 < state.waiting.length + state.returning.length
  ordered : (state.executed.map Prod.fst ++ state.waiting.map Prod.fst).Pairwise (· < ·)
  known : ∀ index ∈ state.returning.map Prod.fst ++ state.reported,
    ∃ call, state.Admitted index call
  waits : ∀ task ∈ state.waiting, state.Admitted task.1 task.2
  faithful : ∀ done ∈ state.executed, ∃ call found, state.Admitted done.1 call ∧
    done.2 = (call.operation found).1
  accounted : state.bridge.closed = false → ∀ index call, state.Admitted index call →
    state.Accounted index

variable {demandRootsFor : Snapshot → List UUID} {state : TransportBridge Snapshot}

/-- A call that is admitted is one that was made. -/
theorem Admitted.lt {index : Nat} {call : TransportCall} (admitted : state.Admitted index call) :
    index < state.calls.length :=
  (List.getElem?_eq_some_iff.mp admitted).1

/-- The tasks of other kinds do not matter to the transport calls. -/
theorem Books.of_leavesTransport (books : state.Books demandRootsFor)
    {bridge : EngineBridge Snapshot} (leaves : LeavesTransport state.bridge bridge)
    (consistent : bridge.Consistent demandRootsFor) (served : bridge.Served) :
    ({ state with bridge := bridge } : TransportBridge Snapshot).Books demandRootsFor where
  consistent := consistent
  served := served
  queued := by
    rw [leaves.queue]
    exact books.queued
  signalled := by
    rw [leaves.signals]
    exact books.signalled
  flying := fun member => books.flying (leaves.free member)
  ordered := books.ordered
  known := books.known
  waits := books.waits
  faithful := books.faithful
  accounted := fun opened => books.accounted (leaves.opened opened)

/-! ### A call -/

/-- An open bridge accepts a transport task exactly when none is in flight. -/
theorem accepts_iff (books : state.Books demandRootsFor) (opened : state.bridge.closed = false) :
    state.bridge.accepts .transport = true ↔ TaskKind.transport ∉ state.bridge.tasksInflight := by
  rw [EngineBridge.accepts, decide_eq_true_eq, opened]
  constructor
  · rintro ⟨free, _⟩ busy
    exact free (Or.inr busy)
  · intro free
    refine ⟨?_, ?_⟩
    · rintro (impossible | busy)
      · cases impossible
      · exact free busy
    · rintro (closed | busy)
      · have bridgeClosed := books.consistent.running closed
        rw [opened] at bridgeClosed
        cases bridgeClosed
      · exact free (books.consistent.free _ busy)

theorem transportQueue_submit (bridge : EngineBridge Snapshot) :
    (transportQueue (bridge.submit .transport)).length =
      (transportQueue bridge).length + if bridge.accepts .transport then 1 else 0 := by
  rw [EngineBridge.submit, EngineBridge.accepts]
  by_cases refused : bridge.closed = true ∨
      (EngineTask.transport : EngineTask Snapshot).kind ∈ bridge.tasksInflight
  · have rejected : bridge.closed = true ∨ TaskKind.transport ∈ bridge.tasksInflight := refused
    rw [if_pos refused]
    simp [rejected]
  · have accepted : ¬ (bridge.closed = true ∨ TaskKind.transport ∈ bridge.tasksInflight) := refused
    rw [if_neg refused, EngineBridge.runnerSubmit]
    by_cases dropped : bridge.runnerClosed = true ∨
        (EngineTask.transport : EngineTask Snapshot).kind ∈ bridge.inflight
    · have rejected : bridge.runnerClosed = true ∨ TaskKind.transport ∈ bridge.inflight := dropped
      rw [if_pos dropped]
      simp [rejected, transportQueue]
    · have free : ¬ (bridge.runnerClosed = true ∨ TaskKind.transport ∈ bridge.inflight) := dropped
      rw [if_neg dropped, if_pos (decide_eq_true ⟨accepted, free⟩)]
      simp [transportQueue, List.filter_append, EngineTask.kind]

theorem signals_submit (bridge : EngineBridge Snapshot) (task : EngineTask Snapshot) :
    (bridge.submit task).signals = bridge.signals ∧
      (bridge.submit task).closed = bridge.closed := by
  rw [EngineBridge.submit]
  split_ifs
  · exact ⟨rfl, rfl⟩
  · rw [EngineBridge.runnerSubmit]
    split_ifs
    · exact ⟨rfl, rfl⟩
    · exact ⟨rfl, rfl⟩

/-- A transport task that is not accepted leaves the kinds in flight alone. -/
theorem busy_of_not_accepts (books : state.Books demandRootsFor)
    (rejected : ¬ state.bridge.accepts .transport = true)
    (member : TaskKind.transport ∈ (state.bridge.submit .transport).tasksInflight) :
    TaskKind.transport ∈ state.bridge.tasksInflight := by
  by_contra free
  by_cases closed : state.bridge.closed = true
  · rw [EngineBridge.submit, if_pos (Or.inl closed)] at member
    exact free member
  · exact rejected ((accepts_iff books (Bool.not_eq_true _ ▸ closed)).mpr free)

/-- A call that is made later leaves the earlier ones in place. -/
theorem admitted_callTransport {call other : TransportCall} {index : Nat} :
    (state.callTransport call).Admitted index other ↔
      state.Admitted index other ∨
        index = state.calls.length ∧ other = call ∧
          TaskKind.transport ∉ state.bridge.tasksInflight := by
  simp only [Admitted, callTransport]
  by_cases earlier : index < state.calls.length
  · rw [List.getElem?_append_left earlier]
    refine (or_iff_left ?_).symm
    rintro ⟨same, _⟩
    omega
  · have nothing : state.calls[index]? = none := List.getElem?_eq_none (Nat.le_of_not_lt earlier)
    rw [nothing]
    by_cases last : index = state.calls.length
    · rw [last, List.getElem?_concat_length]
      simp [eq_comm]
    · rw [List.getElem?_eq_none (by rw [List.length_append, List.length_singleton]; omega)]
      simp [last]

theorem Admitted.callTransport {call other : TransportCall} {index : Nat}
    (admitted : state.Admitted index other) : (state.callTransport call).Admitted index other :=
  admitted_callTransport.mpr (Or.inl admitted)

theorem admitted_of_accepts (call : TransportCall)
    (accepted : state.bridge.accepts .transport = true) :
    (state.callTransport call).Admitted state.calls.length call := by
  refine admitted_callTransport.mpr (Or.inr ⟨rfl, rfl, ?_⟩)
  intro busy
  exact (of_decide_eq_true accepted).1 (Or.inr busy)

theorem waiting_callTransport (call : TransportCall) :
    (state.callTransport call).waiting = state.waiting ++
      if state.bridge.accepts .transport then [(state.calls.length, call)] else [] := rfl

theorem mem_waiting_callTransport {call : TransportCall} {task : Nat × TransportCall} :
    task ∈ (state.callTransport call).waiting ↔
      task ∈ state.waiting ∨
        state.bridge.accepts .transport = true ∧ task = (state.calls.length, call) := by
  rw [waiting_callTransport, List.mem_append]
  split_ifs with accepted
  · rw [List.mem_singleton, and_iff_right accepted]
  · simp only [List.not_mem_nil, accepted, Bool.false_eq_true, false_and]

/-- A call is admitted and waits, or it finds a transport task in flight and
leaves nothing but its place. -/
theorem books_call (books : state.Books demandRootsFor) (call : TransportCall)
    (consistent : (state.bridge.submit .transport).Consistent demandRootsFor)
    (served : (state.bridge.submit .transport).Served) :
    ({ state.callTransport call with bridge := state.bridge.submit .transport } :
      TransportBridge Snapshot).Books demandRootsFor where
  consistent := consistent
  served := served
  queued := by
    rw [transportQueue_submit, ← books.queued]
    simp only [waiting_callTransport, List.length_append]
    split_ifs
    · rfl
    · rfl
  signalled := by
    rw [transportSignals, (signals_submit _ _).1]
    exact books.signalled
  flying := by
    intro member
    simp only [waiting_callTransport, List.length_append]
    split_ifs with accepted
    · exact Nat.add_pos_left (Nat.succ_pos _) _
    · have before := busy_of_not_accepts books accepted member
      exact Nat.add_pos_iff_pos_or_pos.mpr
        ((Nat.add_pos_iff_pos_or_pos.mp (books.flying before)).imp_left
          (fun waits => Nat.add_pos_left waits _))
  ordered := by
    have earlier : ∀ index ∈ state.executed.map Prod.fst ++ state.waiting.map Prod.fst,
        index < state.calls.length := by
      intro index member
      rcases List.mem_append.mp member with executed | waiting
      · rcases List.mem_map.mp executed with ⟨done, isDone, rfl⟩
        rcases books.faithful done isDone with ⟨_, _, admitted, _⟩
        exact admitted.lt
      · rcases List.mem_map.mp waiting with ⟨task, waits, rfl⟩
        exact (books.waits task waits).lt
    simp only [waiting_callTransport, List.map_append, ← List.append_assoc]
    split_ifs with accepted
    · exact List.pairwise_append.mpr ⟨books.ordered, List.pairwise_singleton _ _,
        fun index member last isLast => List.mem_singleton.mp isLast ▸ earlier index member⟩
    · rw [List.map_nil, List.append_nil]
      exact books.ordered
  known := by
    intro index member
    rcases books.known index member with ⟨other, admitted⟩
    exact ⟨other, admitted.callTransport⟩
  waits := by
    intro task waiting
    rcases mem_waiting_callTransport.mp waiting with before | ⟨accepted, rfl⟩
    · exact (books.waits task before).callTransport
    · exact admitted_of_accepts call accepted
  faithful := by
    intro done executed
    rcases books.faithful done executed with ⟨other, found, admitted, same⟩
    exact ⟨other, found, admitted.callTransport, same⟩
  accounted := by
    intro opened index other admitted
    rw [(signals_submit _ _).2] at opened
    rcases admitted_callTransport.mp admitted with before | ⟨rfl, rfl, free⟩
    · rcases books.accounted opened index other before with executed | reported | waiting | raised
      · exact Or.inl executed
      · exact Or.inr (Or.inl reported)
      · rcases List.mem_map.mp waiting with ⟨task, waits, rfl⟩
        exact Or.inr (Or.inr (Or.inl (List.mem_map_of_mem
          (mem_waiting_callTransport.mpr (Or.inl waits)))))
      · exact Or.inr (Or.inr (Or.inr raised))
    · exact Or.inr (Or.inr (Or.inl (List.mem_map_of_mem (f := Prod.fst)
        (mem_waiting_callTransport.mpr (Or.inr ⟨(accepts_iff books opened).mpr free, rfl⟩)))))

/-! ### The worker -/

/-- The bridge after the worker ran the oldest task. -/
theorem step_workerRuns {task : EngineTask Snapshot} {rest : List (EngineTask Snapshot)}
    {bridge next : EngineBridge Snapshot} {succeeded : Bool} (queued : bridge.queue = task :: rest)
    (taken : bridge.step demandRootsFor (.workerRuns succeeded) = some next) :
    next.queue = rest ∧ next.signals = bridge.signals ++ [⟨task.kind, succeeded⟩] ∧
      next.closed = bridge.closed ∧ next.tasksInflight = bridge.tasksInflight := by
  simp only [EngineBridge.step, queued, Option.some.injEq] at taken
  subst taken
  exact ⟨rfl, rfl, rfl, rfl⟩

/-- Another task is none of the transport's concerns. -/
theorem workerRan_of_other {task : EngineTask Snapshot} {rest : List (EngineTask Snapshot)}
    (queued : state.bridge.queue = task :: rest) (other : task.kind ≠ .transport)
    (succeeded : Bool) (found : Lookups) :
    state.workerRan succeeded found = state := by
  rw [workerRan, queued]
  cases task with
  | transport => exact absurd rfl other
  | activate snapshot demandRoots => rfl
  | panic => rfl
  | restart => rfl
  | refresh => rfl
  | profiles => rfl
  | devices => rfl

/-- A transport operation that ends has been executed, or its error is on the way. -/
theorem books_workerRan (books : state.Books demandRootsFor) {succeeded : Bool}
    (found : Lookups) {next : EngineBridge Snapshot}
    (taken : state.bridge.step demandRootsFor (.workerRuns succeeded) = some next)
    (consistent : next.Consistent demandRootsFor) (served : next.Served) :
    ({ state.workerRan succeeded found with bridge := next } :
      TransportBridge Snapshot).Books demandRootsFor := by
  cases queue : state.bridge.queue with
  | nil => simp [EngineBridge.step, queue] at taken
  | cons task rest =>
      rcases step_workerRuns queue taken with
        ⟨nextQueue, nextSignals, nextClosed, nextInflight⟩
      have queued := books.queued
      rw [transportQueue, queue] at queued
      by_cases other : task.kind ≠ .transport
      · rw [workerRan_of_other queue other]
        refine books.of_leavesTransport ⟨?_, ?_, nextClosed ▸ id, nextInflight ▸ id⟩ consistent
          served
        · rw [transportQueue, transportQueue, nextQueue, queue,
            List.filter_cons_of_neg (by simpa using other)]
        · rw [transportSignals, transportSignals, nextSignals, List.filter_append,
            List.filter_cons_of_neg (by simpa using other), List.filter_nil, List.append_nil]
      · have transport : task = .transport := by
          cases task with
          | transport => rfl
          | _ => exact absurd (fun same => by cases same) other
        subst transport
        cases waiting : state.waiting with
        | nil => simp [waiting, EngineTask.kind] at queued
        | cons oldest others =>
            rcases oldest with ⟨index, call⟩
            have waits := books.waits
            have ordered := books.ordered
            rw [waiting] at queued waits ordered
            have ran : state.workerRan succeeded found = { state with
                waiting := others
                executed := state.executed ++
                  if succeeded then [(index, (call.operation found).1)] else []
                returning := state.returning ++
                  [(index, if succeeded then some (call.operation found).2 else none)] } := by
              simp only [workerRan, queue, waiting]
            have admitted := waits (index, call) List.mem_cons_self
            rw [ran]
            refine ⟨consistent, served, ?_, ?_, ?_, ?_, ?_, ?_, ?_, ?_⟩
            · rw [transportQueue, nextQueue]
              exact Nat.succ.inj queued
            · rw [transportSignals, nextSignals, List.filter_append, List.length_append,
                List.length_append, books.signalled]
              rfl
            · intro _
              rw [List.length_append]
              exact Nat.add_pos_right _ (Nat.succ_pos _)
            · refine ordered.sublist ?_
              cases succeeded with
              | true => simp
              | false => simp
            · intro other member
              simp only [List.map_append, List.mem_append, List.map_cons, List.map_nil,
                List.mem_singleton] at member
              rcases member with (returning | rfl) | reported
              · exact books.known other (List.mem_append_left _ returning)
              · exact ⟨call, admitted⟩
              · exact books.known other (List.mem_append_right _ reported)
            · exact fun task member => waits task (List.mem_cons_of_mem _ member)
            · intro done member
              rcases List.mem_append.mp member with before | now
              · exact books.faithful done before
              · cases succeeded with
                | true =>
                    rw [List.mem_singleton.mp now]
                    exact ⟨call, found, admitted, rfl⟩
                | false => cases now
            · intro opened other otherCall made
              rw [nextClosed] at opened
              rcases books.accounted opened other otherCall made with
                executed | reported | waits | raised
              · exact Or.inl (by rw [List.map_append]; exact List.mem_append_left _ executed)
              · exact Or.inr (Or.inl reported)
              · rw [waiting, List.map_cons] at waits
                rcases List.mem_cons.mp waits with rfl | later
                · cases succeeded with
                  | true => exact Or.inl (by simp)
                  | false =>
                      exact Or.inr (Or.inr (Or.inr (List.mem_append_right _ List.mem_cons_self)))
                · exact Or.inr (Or.inr (Or.inl later))
              · exact Or.inr (Or.inr (Or.inr (List.mem_append_left _ raised)))

/-! ### Signals and the end of the bridge -/

theorem step_signalArrives {position : Nat} {signal : TaskSignal} {rest : List TaskSignal}
    {bridge next : EngineBridge Snapshot} (arriving : bridge.signals.drop position = signal :: rest)
    (taken : bridge.step demandRootsFor (.signalArrives position) = some next) :
    next.queue = bridge.queue ∧ next.signals = bridge.signals.take position ++ rest ∧
      next.closed = bridge.closed ∧
      next.tasksInflight = bridge.tasksInflight.filter (· ≠ signal.kind) := by
  simp only [EngineBridge.step, arriving, Option.some.injEq] at taken
  subst taken
  rw [EngineBridge.deliver]
  split_ifs
  · exact ⟨rfl, rfl, rfl, rfl⟩
  · exact ⟨rfl, rfl, rfl, rfl⟩
  · exact ⟨rfl, rfl, rfl, rfl⟩

theorem signalArrived_of_other {position : Nat} {signal : TaskSignal} {rest : List TaskSignal}
    (arriving : state.bridge.signals.drop position = signal :: rest)
    (other : signal.kind ≠ .transport) : state.signalArrived position = state := by
  rcases signal with ⟨kind, succeeded⟩
  rw [signalArrived, arriving]
  cases kind with
  | transport => exact absurd rfl other
  | activation => rfl
  | panic => rfl
  | restart => rfl
  | refresh => rfl
  | profiles => rfl
  | devices => rfl

/-- The error of a transport operation is reported when its signal arrives. -/
theorem books_signalArrived (books : state.Books demandRootsFor) {position : Nat}
    {next : EngineBridge Snapshot}
    (taken : state.bridge.step demandRootsFor (.signalArrives position) = some next)
    (consistent : next.Consistent demandRootsFor) (served : next.Served) :
    ({ state.signalArrived position with bridge := next } :
      TransportBridge Snapshot).Books demandRootsFor := by
  cases arriving : state.bridge.signals.drop position with
  | nil => simp [EngineBridge.step, arriving] at taken
  | cons signal rest =>
      rcases step_signalArrives arriving taken with
        ⟨nextQueue, nextSignals, nextClosed, nextInflight⟩
      have signals := EngineBridge.signals_of_drop arriving
      have signalled := books.signalled
      rw [transportSignals, signals, List.filter_append] at signalled
      by_cases other : signal.kind ≠ .transport
      · rw [signalArrived_of_other arriving other]
        refine books.of_leavesTransport ⟨?_, ?_, nextClosed ▸ id, ?_⟩ consistent served
        · rw [transportQueue, transportQueue, nextQueue]
        · have foreign : (signal :: rest).filter (fun signal => decide (signal.kind = .transport)) =
              rest.filter (fun signal => decide (signal.kind = .transport)) :=
            List.filter_cons_of_neg (by simpa using other)
          rw [transportSignals, transportSignals, nextSignals, List.filter_append, ← foreign,
            ← List.filter_append, ← signals]
        · intro member
          rw [nextInflight] at member
          exact (List.mem_filter.mp member).1
      · have transport : signal.kind = .transport := not_not.mp other
        rcases signal with ⟨kind, succeeded⟩
        cases transport
        cases returning : state.returning with
        | nil => simp [returning] at signalled
        | cons oldest others =>
            rcases oldest with ⟨index, result⟩
            have known := books.known
            rw [returning] at signalled known
            have left : others.length = (transportSignals next).length := by
              rw [transportSignals, nextSignals, List.filter_append, List.length_append]
              rw [List.length_append] at signalled
              exact Nat.succ.inj signalled
            have queued : state.waiting.length = (transportQueue next).length := by
              rw [transportQueue, nextQueue]
              exact books.queued
            have freed : TaskKind.transport ∈ next.tasksInflight →
                0 < state.waiting.length + others.length := by
              intro member
              rw [nextInflight] at member
              exact absurd rfl (of_decide_eq_true (List.mem_filter.mp member).2)
            by_cases closed : state.bridge.closed = true
            · have arrived : state.signalArrived position =
                  { state with returning := others } := by
                simp only [signalArrived, arriving, returning, closed, if_true]
              rw [arrived]
              refine ⟨consistent, served, queued, left, freed, books.ordered, ?_, books.waits,
                books.faithful, ?_⟩
              · intro other member
                exact known other (List.mem_cons_of_mem _ member)
              · intro opened
                rw [nextClosed, closed] at opened
                cases opened
            · have arrived : state.signalArrived position = { state with
                  returning := others
                  reported := state.reported ++ if result.isNone then [index] else []
                  lastTransport := result.join.or state.lastTransport } := by
                simp only [signalArrived, arriving, returning, closed, Bool.false_eq_true,
                  if_false]
              rw [arrived]
              refine ⟨consistent, served, queued, left, freed, books.ordered, ?_, books.waits,
                books.faithful, ?_⟩
              · intro other member
                rcases List.mem_append.mp member with later | reported
                · exact known other (List.mem_cons_of_mem _ (List.mem_append_left _ later))
                · rcases List.mem_append.mp reported with before | now
                  · exact known other (List.mem_cons_of_mem _ (List.mem_append_right _ before))
                  · split_ifs at now with raised
                    · exact known other (List.mem_singleton.mp now ▸ List.mem_cons_self)
                    · cases now
              · intro _ other call made
                rcases books.accounted (Bool.not_eq_true _ ▸ closed) other call made with
                  executed | reported | waits | raised
                · exact Or.inl executed
                · exact Or.inr (Or.inl (List.mem_append_left _ reported))
                · exact Or.inr (Or.inr (Or.inl waits))
                · rw [returning] at raised
                  rcases List.mem_cons.mp raised with same | later
                  · injection same with same ended
                    exact Or.inr (Or.inl (List.mem_append_right _ (by simp [same, ← ended])))
                  · exact Or.inr (Or.inr (Or.inr later))

/-- Closing the window cancels the operations that wait; the bridge is closed. -/
theorem books_windowClosed (books : state.Books demandRootsFor)
    (consistent : state.bridge.closeRunner.close.Consistent demandRootsFor)
    (served : state.bridge.closeRunner.close.Served) :
    ({ state.windowClosed with bridge := state.bridge.closeRunner.close } :
      TransportBridge Snapshot).Books demandRootsFor := by
  have closed : state.bridge.closeRunner.close.closed = true := by
    rw [EngineBridge.close]
    split_ifs with already
    · exact already
    · rfl
  have shut : state.bridge.closeRunner.close.queue = state.bridge.closeRunner.queue ∧
      state.bridge.closeRunner.close.signals = state.bridge.closeRunner.signals ∧
      state.bridge.closeRunner.close.tasksInflight = state.bridge.closeRunner.tasksInflight := by
    rw [EngineBridge.close]
    split_ifs
    · exact ⟨rfl, rfl, rfl⟩
    · exact ⟨rfl, rfl, rfl⟩
  by_cases stopped : state.bridge.runnerClosed = true
  · have same : state.windowClosed = state := by rw [windowClosed, if_pos stopped]
    have kept : state.bridge.closeRunner = state.bridge := by
      rw [EngineBridge.closeRunner, if_pos stopped]
    rw [same]
    refine books.of_leavesTransport ⟨?_, ?_, ?_, ?_⟩ consistent served
    · rw [transportQueue, transportQueue, shut.1, kept]
    · rw [transportSignals, transportSignals, shut.2.1, kept]
    · intro opened
      rw [closed] at opened
      cases opened
    · rw [shut.2.2, kept]
      exact id
  · have cancelled : state.windowClosed = { state with
        waiting := []
        returning := state.returning ++ state.waiting.map (fun task => (task.1, none)) } := by
      rw [windowClosed, if_neg stopped]
    have emptied : state.bridge.closeRunner = { state.bridge with
        runnerClosed := true
        inflight := []
        queue := []
        signals := state.bridge.signals ++
          state.bridge.queue.map (fun task => ⟨task.kind, false⟩) } := by
      rw [EngineBridge.closeRunner, if_neg stopped]
    rw [cancelled]
    refine ⟨consistent, served, ?_, ?_, ?_, ?_, ?_, ?_, books.faithful, ?_⟩
    · rw [transportQueue, shut.1, emptied]
      rfl
    · rw [transportSignals, shut.2.1, emptied, List.filter_append, List.length_append,
        List.length_append, List.length_map, books.signalled, books.queued, List.filter_map,
        List.length_map]
      rfl
    · rw [shut.2.2, emptied]
      intro member
      have before := books.flying member
      rw [List.length_append, List.length_map, List.length_nil]
      omega
    · exact books.ordered.sublist (by simp)
    · intro index member
      simp only [List.map_append, List.mem_append, List.map_map, List.mem_map,
        Function.comp_apply] at member
      rcases member with (returning | ⟨task, waits, rfl⟩) | reported
      · exact books.known index (List.mem_append_left _ (List.mem_map.mpr returning))
      · exact ⟨task.2, books.waits task waits⟩
      · exact books.known index (List.mem_append_right _ reported)
    · intro task impossible
      cases impossible
    · intro opened
      rw [closed] at opened
      cases opened

/-! ## Every run -/

theorem books_step {next : TransportBridge Snapshot} {action : TransportAction Snapshot}
    (books : state.Books demandRootsFor) (taken : state.step demandRootsFor action = some next) :
    next.Books demandRootsFor := by
  simp only [step, Option.ite_none_right_eq_some, Option.map_eq_some_iff] at taken
  rcases taken with ⟨permitted, bridge, stepped, rfl⟩
  rcases EngineBridge.step_spec books.consistent books.served stepped with ⟨consistent, served⟩
  cases action with
  | call call =>
      cases stepped
      exact books_call books call consistent served
  | workerRuns succeeded found => exact books_workerRan books found stepped consistent served
  | signalArrives position => exact books_signalArrived books stepped consistent served
  | closeWindow =>
      cases stepped
      exact books_windowClosed books consistent served
  | other action =>
      exact books.of_leavesTransport (leavesTransport_step permitted stepped) consistent served

theorem books_initial : (initial : TransportBridge Snapshot).Books demandRootsFor where
  consistent :=
    { flying := fun impossible => by cases impossible
      free := fun _ impossible => by cases impossible
      running := id
      opened := fun _ => rfl
      recorded := fun _ impossible => by cases impossible
      latest := fun _ _ _ impossible => by cases impossible }
  served := fun impossible => by cases impossible
  queued := rfl
  signalled := rfl
  flying := fun impossible => by cases impossible
  ordered := List.Pairwise.nil
  known := fun _ impossible => by cases impossible
  waits := fun _ impossible => by cases impossible
  faithful := fun _ impossible => by cases impossible
  accounted := fun _ _ _ impossible => by cases impossible

/-- A call that found a transport task in flight leaves no trace. -/
theorem Books.dropped (books : state.Books demandRootsFor) {index : Nat} {call : TransportCall}
    (busy : state.calls[index]? = some (call, true)) :
    index ∉ state.executed.map Prod.fst ∧ index ∉ state.reported := by
  have other : ∀ admitted, ¬ state.Admitted index admitted := by
    intro admitted isAdmitted
    have same := Option.some.inj (busy.symm.trans isAdmitted)
    cases (Prod.mk.inj same).2
  constructor
  · intro executed
    rcases List.mem_map.mp executed with ⟨done, isDone, rfl⟩
    rcases books.faithful done isDone with ⟨call, _, admitted, _⟩
    exact other call admitted
  · intro reported
    rcases books.known index (List.mem_append_right _ reported) with ⟨call, admitted⟩
    exact other call admitted

/-- In every run of an open bridge whose tasks have all ended, a transport call
has been executed, as what its method does, or reported as failed if it found
no transport task in flight, and has been dropped without a trace if it found
one.  The executed operations are in the order of the calls, and no kind is left
in flight. -/
theorem transport_calls_accounted {actions : List (TransportAction Snapshot)}
    {final : TransportBridge Snapshot}
    (reached : run (step demandRootsFor) initial actions = some final)
    (opened : final.bridge.closed = false) (worked : final.bridge.queue = [])
    (arrived : final.bridge.signals = []) :
    (∀ index call, final.calls[index]? = some (call, false) →
        (∃ found, (index, (call.operation found).1) ∈ final.executed) ∨
          index ∈ final.reported) ∧
      (∀ index call, final.calls[index]? = some (call, true) →
        index ∉ final.executed.map Prod.fst ∧ index ∉ final.reported) ∧
      (final.executed.map Prod.fst).Pairwise (· < ·) ∧
      TaskKind.transport ∉ final.bridge.tasksInflight := by
  have preserved : ∀ (state : TransportBridge Snapshot) (action : TransportAction Snapshot)
      (next : TransportBridge Snapshot), state.Books demandRootsFor → True →
      step demandRootsFor state action = some next → next.Books demandRootsFor :=
    fun _ _ _ books _ taken => books_step books taken
  have books : final.Books demandRootsFor :=
    run_invariant preserved books_initial (meets_of_forall (fun _ _ => trivial) _ actions) reached
  have noneWaits : final.waiting = [] := by
    have queued := books.queued
    rw [transportQueue, worked] at queued
    exact List.length_eq_zero_iff.mp queued
  have noneReturns : final.returning = [] := by
    have signalled := books.signalled
    rw [transportSignals, arrived] at signalled
    exact List.length_eq_zero_iff.mp signalled
  refine ⟨?_, fun index call busy => books.dropped busy, ?_, ?_⟩
  · intro index call admitted
    rcases books.accounted opened index call admitted with executed | reported | waits | raised
    · rcases List.mem_map.mp executed with ⟨done, isDone, rfl⟩
      rcases books.faithful done isDone with ⟨other, found, otherAdmitted, same⟩
      have equal := Option.some.inj (admitted.symm.trans otherAdmitted)
      rw [(Prod.mk.inj equal).1]
      exact Or.inl ⟨found, same ▸ isDone⟩
    · exact Or.inr reported
    · rw [noneWaits] at waits
      cases waits
    · rw [noneReturns] at raised
      cases raised
  · exact (List.pairwise_append.mp books.ordered).1
  · intro busy
    have flying := books.flying busy
    rw [noneWaits, noneReturns] at flying
    exact absurd flying (lt_irrefl 0)

/-- Stop is pressed while the worker still plays. -/
def stopDuringPlay : List (TransportAction Nat) :=
  [.call (.playOrResume (some 7)), .call (.stopSource (some 7)),
    .workerRuns true ⟨some .ready, none⟩, .signalArrives 0]

/-- The calls and what came of them, and what is left to do. -/
structure TransportSummary where
  calls : List (TransportCall × Bool)
  executed : List (Nat × SessionCommand)
  reported : List Nat
  closed : Bool
  left : Nat
deriving DecidableEq

def transportSummary (state : TransportBridge Nat) : TransportSummary :=
  ⟨state.calls, state.executed, state.reported, state.bridge.closed,
    state.bridge.queue.length + state.bridge.signals.length⟩

theorem run_stopDuringPlay :
    ∃ final, run (step (fun _ => [])) initial stopDuringPlay = some final ∧
      final.calls = [(.playOrResume (some 7), false), (.stopSource (some 7), true)] ∧
      final.executed = [(0, .play (some 7))] ∧ final.reported = [] ∧
      final.bridge.closed = false ∧ final.bridge.queue = [] ∧ final.bridge.signals = [] := by
  have observed : (run (step (fun _ => [])) initial stopDuringPlay).map transportSummary =
      some ⟨[(.playOrResume (some 7), false), (.stopSource (some 7), true)],
        [(0, .play (some 7))], [], false, 0⟩ := by
    decide +kernel
  rcases Option.map_eq_some_iff.mp observed with ⟨final, reached, summarized⟩
  injection summarized with calls executed reported closed left
  rw [Nat.add_eq_zero_iff, List.length_eq_zero_iff, List.length_eq_zero_iff] at left
  exact ⟨final, reached, calls, executed, reported, closed, left.1, left.2⟩

theorem transport_calls_accounted_stopDuringPlay :
    ∃ final : TransportBridge Nat,
      run (step (fun _ => [])) initial stopDuringPlay = some final ∧
        (∃ found, (0, ((TransportCall.playOrResume (some 7)).operation found).1) ∈
          final.executed) := by
  rcases run_stopDuringPlay with
    ⟨final, reached, calls, executed, reported, closed, worked, arrived⟩
  have admitted : final.calls[0]? = some (.playOrResume (some 7), false) := by
    rw [calls]
    rfl
  refine ⟨final, reached, ?_⟩
  rcases (transport_calls_accounted reached closed worked arrived).1 0 _ admitted with
    executed | reports
  · exact executed
  · rw [reported] at reports
    cases reports

/-- The stop of that run is neither executed nor reported. -/
theorem stop_is_dropped :
    ∃ final : TransportBridge Nat,
      run (step (fun _ => [])) initial stopDuringPlay = some final ∧
        final.bridge.closed = false ∧ final.bridge.queue = [] ∧ final.bridge.signals = [] ∧
        (∃ busy, final.calls[1]? = some (.stopSource (some 7), busy)) ∧
        1 ∉ final.executed.map Prod.fst ∧ 1 ∉ final.reported := by
  rcases run_stopDuringPlay with
    ⟨final, reached, calls, executed, reported, closed, worked, arrived⟩
  refine ⟨final, reached, closed, worked, arrived, ⟨true, ?_⟩, ?_, ?_⟩
  · rw [calls]
    rfl
  · rw [executed]
    decide
  · rw [reported]
    exact List.not_mem_nil

end TransportBridge

end Ui
end Synesthesia
