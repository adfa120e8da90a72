import Mathlib
import Synesthesia.Contracts.RuntimeValues
import Synesthesia.Foundation.Runs

namespace Synesthesia
namespace Ui

open Foundation Contracts

/-!
# Autosave of the edited document

The interface thread pushes snapshots, a single worker writes and deletes the
recovery files in submission order, and a signal brings each finished write
back to the interface thread.  The three take their steps in any order.
-/

variable {Content : Type*}

/-- What is written of a document. -/
structure DocumentSnapshot (Content : Type*) where
  documentId : UUID
  content : Content
deriving DecidableEq

structure AutosaveRequest (Content : Type*) where
  snapshot : DocumentSnapshot Content
  explicitPath : Option String
deriving DecidableEq

/-! ## The recovery store -/

/-- The recovery file of one document: left behind by an earlier process, or
written by this one for a request. -/
inductive RecoveryFile (Content : Type*) where
  | inherited
  | saved (request : AutosaveRequest Content)
deriving DecidableEq

/-- The recovery directory, by document. -/
abbrev RecoveryDirectory (Content : Type*) : Type _ := UUID → Option (RecoveryFile Content)

/-- The two calls of the store that the worker makes. -/
inductive StoreTask (Content : Type*) where
  | save (request : AutosaveRequest Content)
  | discard (documentId : UUID)

/-- What a call does to the directory: a save replaces the record, a discard
removes it. -/
def StoreTask.apply (task : StoreTask Content) (disk : RecoveryDirectory Content) :
    RecoveryDirectory Content :=
  match task with
  | .save request => Function.update disk request.snapshot.documentId (some (.saved request))
  | .discard documentId => Function.update disk documentId none

/-- Only the end of a save is reported. -/
def StoreTask.reports (task : StoreTask Content) (future : Nat) : List Nat :=
  match task with
  | .save _ => [future]
  | .discard _ => []

/-- How a call ends; one that raises may have reached the recovery file before. -/
inductive TaskOutcome where
  | succeeds
  | raisesEarly
  | raisesLate
deriving DecidableEq

def TaskOutcome.applies : TaskOutcome → Bool
  | .succeeds => true
  | .raisesEarly => false
  | .raisesLate => true

/-! ## The controller -/

/-- The session, the controller, its worker and the signals on their way back.
`newest` is history: the newest request of each document since it was last
discarded, saved or clean. -/
structure AutosaveState (Content : Type*) where
  document : DocumentSnapshot Content
  currentPath : Option String
  isDirty : Bool
  due : Bool
  future : Option Nat
  current : Option (AutosaveRequest Content)
  pending : Option (AutosaveRequest Content)
  trackedDocuments : List UUID
  pendingDiscards : List UUID
  queue : List (Nat × StoreTask Content)
  submitted : Nat
  finished : List Nat
  disk : RecoveryDirectory Content
  newest : UUID → Option (AutosaveRequest Content)

namespace AutosaveState

/-- Queue a call for the worker. -/
def submit (state : AutosaveState Content) (task : StoreTask Content) : AutosaveState Content :=
  { state with queue := state.queue ++ [(state.submitted, task)], submitted := state.submitted + 1 }

def start (state : AutosaveState Content) (request : AutosaveRequest Content) :
    AutosaveState Content :=
  { state.submit (.save request) with future := some state.submitted, current := some request }

def discardRecord (state : AutosaveState Content) (documentId : UUID) : AutosaveState Content :=
  { state with
    trackedDocuments := state.trackedDocuments.filter (· ≠ documentId)
    pendingDiscards := state.pendingDiscards.filter (· ≠ documentId) }.submit (.discard documentId)

/-- A snapshot of the document is being written or waits to be. -/
def autosaveActiveFor (state : AutosaveState Content) (documentId : UUID) : Bool :=
  state.current.any (·.snapshot.documentId = documentId) ||
    state.pending.any (·.snapshot.documentId = documentId)

/-- The deferred discards whose document no write concerns any more. -/
def flushDeferred (state : AutosaveState Content) : List UUID → AutosaveState Content
  | [] => state
  | documentId :: rest =>
      if state.autosaveActiveFor documentId then state.flushDeferred rest
      else (state.discardRecord documentId).flushDeferred rest

/-- Discard the record of a clean document that is tracked. -/
def flushClean (state : AutosaveState Content) : AutosaveState Content :=
  if state.isDirty = false ∧ state.document.documentId ∈ state.trackedDocuments then
    state.discardRecord state.document.documentId
  else state

def flushSettledDiscards (state : AutosaveState Content) : AutosaveState Content :=
  state.flushClean.flushDeferred state.flushClean.pendingDiscards

/-- From now on a record of the document may exist. -/
def track (state : AutosaveState Content) (documentId : UUID) : AutosaveState Content :=
  { state with trackedDocuments := state.trackedDocuments.insert documentId }

def request (state : AutosaveState Content) (request : AutosaveRequest Content) :
    AutosaveState Content :=
  if state.future.isSome then
    { state.track request.snapshot.documentId with pending := some request }
  else (state.track request.snapshot.documentId).start request

/-- The request that `autosave_now` makes of the session. -/
def sessionRequest (state : AutosaveState Content) : AutosaveRequest Content :=
  ⟨state.document, state.currentPath⟩

def autosaveNow (state : AutosaveState Content) : AutosaveState Content :=
  if state.isDirty then state.request state.sessionRequest else state

/-- Arm the debounce; the delay is a preference and may be zero. -/
def schedule (state : AutosaveState Content) (delayed : Bool) : AutosaveState Content :=
  if state.isDirty ∧ delayed then { state with due := true } else state

/-- Forget the snapshot that waits, if it is the document's. -/
def dropPending (state : AutosaveState Content) (documentId : UUID) : AutosaveState Content :=
  { state with pending := state.pending.filter (·.snapshot.documentId ≠ documentId) }

/-- Leave a discard to the end of the running write. -/
def deferDiscard (state : AutosaveState Content) (documentId : UUID) : AutosaveState Content :=
  { state with
    trackedDocuments := state.trackedDocuments.insert documentId
    pendingDiscards := state.pendingDiscards.insert documentId }

def discard (state : AutosaveState Content) (documentId : UUID) : AutosaveState Content :=
  if (state.dropPending documentId).autosaveActiveFor documentId then
    (state.dropPending documentId).deferDiscard documentId
  else (state.dropPending documentId).discardRecord documentId

/-- The session has turned clean. -/
def onDocumentClean (state : AutosaveState Content) : AutosaveState Content :=
  { state with due := false }.flushSettledDiscards

/-- Start what waited behind the finished write. -/
def startPending (state : AutosaveState Content) : AutosaveState Content :=
  match state.pending with
  | none => state
  | some request => { state with pending := none }.start request

/-- The running write is over. -/
def forgetRunning (state : AutosaveState Content) : AutosaveState Content :=
  { state with future := none, current := none }

def onFinished (state : AutosaveState Content) (future : Nat) : AutosaveState Content :=
  if state.future = some future then state.forgetRunning.flushSettledDiscards.startPending
  else state

/-! ## The steps -/

/-- Record a request as its document's newest. -/
def requested (state : AutosaveState Content) (request : AutosaveRequest Content) :
    AutosaveState Content :=
  { state with newest := Function.update state.newest request.snapshot.documentId (some request) }

/-- A discard, a save or a return to clean ends what was requested before. -/
def settled (state : AutosaveState Content) (documentId : UUID) : AutosaveState Content :=
  { state with newest := Function.update state.newest documentId none }

end AutosaveState

inductive AutosaveAction (Content : Type*) where
  /-- The session holds something else: an edit, an undo or another document. -/
  | changeDocument (document : DocumentSnapshot Content) (path : Option String) (delayed : Bool)
  | turnDirty (delayed : Bool)
  | turnClean
  /-- The document is saved to its own file, and its record discarded. -/
  | save (path : String)
  | request (request : AutosaveRequest Content)
  | autosaveNow
  | timerFires
  | discard (documentId : UUID)
  /-- The worker runs the oldest call. -/
  | workerRuns (outcome : TaskOutcome)
  /-- The oldest finished write is reported. -/
  | finishedArrives

namespace AutosaveState

/-- The session emits its signals only on a change of `is_dirty`. -/
def turnClean (state : AutosaveState Content) : AutosaveState Content :=
  if state.isDirty then
    ({ state with isDirty := false }.settled state.document.documentId).onDocumentClean
  else state

/-- Request what the session holds, when it is dirty. -/
def autosaveSession (state : AutosaveState Content) : AutosaveState Content :=
  if state.isDirty then (state.requested state.sessionRequest).autosaveNow else state

/-- One step of the interface thread or of the worker. -/
def step (state : AutosaveState Content) :
    AutosaveAction Content → Option (AutosaveState Content)
  | .changeDocument document path delayed =>
      let changed := { state with document := document, currentPath := path }.schedule delayed
      some (if state.isDirty then changed else changed.settled document.documentId)
  | .turnDirty delayed =>
      if state.isDirty then none else some ({ state with isDirty := true }.schedule delayed)
  | .turnClean => if state.isDirty then some state.turnClean else none
  | .save path =>
      let saved := { state with currentPath := some path }.turnClean
      some ((saved.settled state.document.documentId).discard state.document.documentId)
  | .request request => some ((state.requested request).request request)
  | .autosaveNow => some state.autosaveSession
  | .timerFires => if state.due then some { state with due := false }.autosaveSession else none
  | .discard documentId => some ((state.settled documentId).discard documentId)
  | .workerRuns outcome =>
      match state.queue with
      | [] => none
      | (future, task) :: rest => some { state with
          queue := rest
          disk := if outcome.applies then task.apply state.disk else state.disk
          finished := state.finished ++ task.reports future }
  | .finishedArrives =>
      match state.finished with
      | [] => none
      | future :: rest => some ({ state with finished := rest }.onFinished future)

/-- A controller over a fresh session; only earlier processes left records. -/
def initial (document : DocumentSnapshot Content) (leftBehind : UUID → Bool) :
    AutosaveState Content where
  document := document
  currentPath := none
  isDirty := false
  due := false
  future := none
  current := none
  pending := none
  trackedDocuments := []
  pendingDiscards := []
  queue := []
  submitted := 0
  finished := []
  disk := fun documentId => if leftBehind documentId then some .inherited else none
  newest := fun _ => none

/-- Nothing is queued, running or on its way back. -/
def Quiescent (state : AutosaveState Content) : Prop :=
  state.queue = [] ∧ state.finished = []

end AutosaveState

end Ui
end Synesthesia
