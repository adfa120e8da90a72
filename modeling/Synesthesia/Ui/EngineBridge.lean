import Mathlib
import Synesthesia.Contracts.RuntimeValues
import Synesthesia.Foundation.Runs

namespace Synesthesia
namespace Ui

open Foundation Contracts

/-!
# Activations of the engine bridge

The editor schedules the activation of each edit behind a debounce.  A task
runner executes one engine operation after the other on its worker thread and
brings each end back to the interface thread as a signal, one task of a kind
at a time.
-/

inductive TaskKind where
  | activation
  | transport
  | panic
  | restart
  | refresh
  | profiles
  | devices
deriving DecidableEq

variable {Snapshot : Type*}

/-- The engine operations of the bridge; only an activation's content matters here. -/
inductive EngineTask (Snapshot : Type*) where
  | activate (snapshot : Snapshot) (demandRoots : List UUID)
  | transport
  | panic
  | restart
  | refresh
  | profiles
  | devices

def EngineTask.kind : EngineTask Snapshot → TaskKind
  | .activate _ _ => .activation
  | .transport => .transport
  | .panic => .panic
  | .restart => .restart
  | .refresh => .refresh
  | .profiles => .profiles
  | .devices => .devices

/-- What the operation asks of the session's `activate`. -/
def EngineTask.activation : EngineTask Snapshot → Option (Snapshot × List UUID)
  | .activate snapshot demandRoots => some (snapshot, demandRoots)
  | _ => none

/-- The end of one task, on its way to the interface thread. -/
structure TaskSignal where
  kind : TaskKind
  succeeded : Bool

/-- The bridge with its debounce clock, its task runner and, as history, the
activations that the session received and the newest snapshot scheduled.
`suspended` counts the ends of activations whose callbacks still run. -/
structure EngineBridge (Snapshot : Type*) where
  pendingActivation : Option (Snapshot × List UUID)
  tasksInflight : List TaskKind
  closed : Bool
  armed : Bool
  suspended : Nat
  inflight : List TaskKind
  runnerClosed : Bool
  queue : List (EngineTask Snapshot)
  signals : List TaskSignal
  activations : List (Snapshot × List UUID)
  newest : Option Snapshot

namespace EngineBridge

def initial : EngineBridge Snapshot where
  pendingActivation := none
  tasksInflight := []
  closed := false
  armed := false
  suspended := 0
  inflight := []
  runnerClosed := false
  queue := []
  signals := []
  activations := []
  newest := none

/-! ## The task runner -/

/-- The runner drops a task of a kind that it still runs. -/
def runnerSubmit (bridge : EngineBridge Snapshot) (task : EngineTask Snapshot) :
    EngineBridge Snapshot :=
  if bridge.runnerClosed ∨ task.kind ∈ bridge.inflight then bridge
  else { bridge with inflight := task.kind :: bridge.inflight, queue := bridge.queue ++ [task] }

/-- The pool stops; what it has not started is cancelled. -/
def closeRunner (bridge : EngineBridge Snapshot) : EngineBridge Snapshot :=
  if bridge.runnerClosed then bridge
  else { bridge with
    runnerClosed := true
    inflight := []
    queue := []
    signals := bridge.signals ++ bridge.queue.map (fun task => ⟨task.kind, false⟩) }

/-! ## The bridge -/

def submit (bridge : EngineBridge Snapshot) (task : EngineTask Snapshot) :
    EngineBridge Snapshot :=
  if bridge.closed ∨ task.kind ∈ bridge.tasksInflight then bridge
  else { bridge with tasksInflight := task.kind :: bridge.tasksInflight }.runnerSubmit task

def flushActivation (bridge : EngineBridge Snapshot) : EngineBridge Snapshot :=
  match bridge.pendingActivation with
  | none => bridge
  | some (snapshot, demandRoots) =>
      if bridge.closed then { bridge with pendingActivation := none }
      else if TaskKind.activation ∈ bridge.tasksInflight then bridge
      else { bridge with pendingActivation := none }.submit (.activate snapshot demandRoots)

/-- Record the graph whose activation is due. -/
def record (demandRootsFor : Snapshot → List UUID) (bridge : EngineBridge Snapshot)
    (snapshot : Snapshot) : EngineBridge Snapshot :=
  { bridge with
    pendingActivation := some (snapshot, demandRootsFor snapshot)
    newest := some snapshot }

def scheduleActivation (demandRootsFor : Snapshot → List UUID) (bridge : EngineBridge Snapshot)
    (snapshot : Snapshot) : EngineBridge Snapshot :=
  if bridge.closed then bridge
  else { bridge.record demandRootsFor snapshot with armed := true }

def activateNow (demandRootsFor : Snapshot → List UUID) (bridge : EngineBridge Snapshot)
    (snapshot : Snapshot) : EngineBridge Snapshot :=
  if bridge.closed then bridge else (bridge.record demandRootsFor snapshot).flushActivation

def close (bridge : EngineBridge Snapshot) : EngineBridge Snapshot :=
  if bridge.closed then bridge
  else { bridge with closed := true, pendingActivation := none, armed := false }

/-- A signal arrives.  The runner frees the kind, then the bridge does; the end
of an activation, be it a result or an error, calls back before it goes on. -/
def deliver (bridge : EngineBridge Snapshot) (signal : TaskSignal) : EngineBridge Snapshot :=
  let freed := { bridge with
    inflight := bridge.inflight.filter (· ≠ signal.kind)
    tasksInflight := bridge.tasksInflight.filter (· ≠ signal.kind) }
  if bridge.closed then freed
  else if signal.kind = .activation then { freed with suspended := bridge.suspended + 1 }
  else freed

end EngineBridge

/-! ## The steps -/

inductive BridgeAction (Snapshot : Type*) where
  | scheduleActivation (snapshot : Snapshot)
  | activateNow (snapshot : Snapshot)
  | debounceFires
  /-- Another operation than an activation. -/
  | submit (task : EngineTask Snapshot)
  /-- The worker executes the oldest task. -/
  | workerRuns (succeeded : Bool)
  /-- A signal arrives.  Those of the worker are queued; that of a task which is
  over when its callback is added is delivered at once, before them. -/
  | signalArrives (position : Nat)
  /-- The callbacks of the last end of an activation have returned. -/
  | callbacksReturn
  | close
  /-- The window stops the runner, then closes the bridge. -/
  | closeWindow

namespace EngineBridge

/-- One step of the interface thread or of the worker. -/
def step (demandRootsFor : Snapshot → List UUID) (bridge : EngineBridge Snapshot) :
    BridgeAction Snapshot → Option (EngineBridge Snapshot)
  | .scheduleActivation snapshot => some (bridge.scheduleActivation demandRootsFor snapshot)
  | .activateNow snapshot => some (bridge.activateNow demandRootsFor snapshot)
  | .debounceFires =>
      if bridge.armed then some { bridge with armed := false }.flushActivation else none
  | .submit task => if task.activation.isSome then none else some (bridge.submit task)
  | .workerRuns succeeded =>
      match bridge.queue with
      | [] => none
      | task :: rest => some { bridge with
          queue := rest
          activations := bridge.activations ++ task.activation.toList
          signals := bridge.signals ++ [⟨task.kind, succeeded⟩] }
  | .signalArrives position =>
      match bridge.signals.drop position with
      | [] => none
      | signal :: rest => some
          ({ bridge with signals := bridge.signals.take position ++ rest }.deliver signal)
  | .callbacksReturn =>
      match bridge.suspended with
      | 0 => none
      | suspended + 1 => some { bridge with suspended := suspended }.flushActivation
  | .close => some bridge.close
  | .closeWindow => some bridge.closeRunner.close

/-- Nothing is armed, running or on its way back. -/
def Quiescent (bridge : EngineBridge Snapshot) : Prop :=
  bridge.armed = false ∧ bridge.suspended = 0 ∧ bridge.queue = [] ∧ bridge.signals = []

/-- An activation is queued on the worker, or its end is on the way. -/
def ActivationInFlight (bridge : EngineBridge Snapshot) : Prop :=
  (∃ task ∈ bridge.queue, task.kind = .activation) ∨
    ∃ signal ∈ bridge.signals, signal.kind = .activation

end EngineBridge

end Ui
end Synesthesia
