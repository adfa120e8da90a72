import Synesthesia.Foundation.Runs
import Synesthesia.Media.VideoSource

namespace Synesthesia
namespace Media

open Foundation

/-!
# The camera source

`media/camera_source.py`.  One worker thread opens the camera, reads it and
opens it again after a failure; one caller at a time plays, pauses and stops.

Every locked region is one step, and so is every native call and every
callback, with what it returns.  Time is left out: the wait between two
attempts may end at any moment.  So are the texts of errors and the data of a
frame beside its indexes.
-/

/-! ## Where the worker is -/

/-- What `on_frame` receives. -/
inductive CameraFrame where
  | image (processedIndex sourceFrameIndex : Nat)
  | outage (processedIndex : Nat)
deriving DecidableEq, Repr

/-- What the worker does once `_wait_until_active` returns `True`. -/
inductive CameraTask where
  | openCamera
  | readFrame
deriving DecidableEq, Repr

inductive CameraPhase where
  /-- The head of the loop of `_run`. -/
  | looping
  /-- The head of the loop of `_wait_until_active`. -/
  | checking (task : CameraTask)
  | deciding (task : CameraTask)
  | waiting (task : CameraTask)
  /-- In `open_camera`. -/
  | opening
  | announcing
  /-- The head of the loop of `_capture_until_disconnect`. -/
  | capturing
  /-- In `capture.read`. -/
  | reading
  /-- In `on_frame`. -/
  | publishing (frame : CameraFrame)
  /-- The capture is released, after an error or not. -/
  | releasing (failed : Bool)
  | disconnecting
  /-- `_publish_outage` before its locked region. -/
  | failing
  /-- The return of `_handle_disconnect`. -/
  | returning
  | backingOff
  | exited
deriving DecidableEq, Repr

namespace CameraTask

/-- Where the worker goes when `_wait_until_active` returns `False`. -/
def giveUp : CameraTask → CameraPhase
  | openCamera => .exited
  | readFrame => .releasing false

/-- Where the worker goes when `_wait_until_active` returns `True`. -/
def proceed : CameraTask → CameraPhase
  | openCamera => .opening
  | readFrame => .reading

end CameraTask

structure CameraWorker where
  phase : CameraPhase
  connectedOnce : Bool
deriving DecidableEq, Repr

/-- A call that stops the worker first. -/
inductive CameraErrand where
  | stop
  | reload
  | close
deriving DecidableEq, Repr

/-- The state that `_halt` commits. -/
def CameraErrand.targetState : CameraErrand → SourceState
  | stop => .stopped
  | reload => .ready
  | close => .closed

inductive CameraCaller where
  | idle
  | joining (errand : CameraErrand)
deriving DecidableEq, Repr

/-- The service; `worker` is the thread of `_thread`, `published` what the
callbacks have received so far. -/
structure CameraSource where
  processEveryNthFrame : Nat
  reconnectAutomatically : Bool
  state : SourceState
  stopEvent : Bool
  wakeEvent : Bool
  sourceFrameIndex : Option Nat
  processedIndex : Nat
  reconnectAttempts : Nat
  worker : Option CameraWorker
  caller : CameraCaller
  frames : List CameraFrame
  resets : Nat
deriving DecidableEq, Repr

/-- How a step of the worker goes. -/
inductive CameraEvent where
  | advance
  /-- The native call or the callback returns; `read` with a frame. -/
  | succeed
  /-- `open_camera` or `read` fails, `on_frame` raises. -/
  | fail
  /-- An exception ends the thread. -/
  | crash
deriving DecidableEq, Repr

inductive CameraAction where
  | play
  | pause
  | resume
  | halt (errand : CameraErrand)
  /-- `_halt` goes on after the join. -/
  | joined
  /-- The worker has not stopped within five seconds. -/
  | timeout
  | worker (event : CameraEvent)
deriving DecidableEq, Repr

namespace CameraSource

/-- `__init__`. -/
def initial (processEveryNthFrame : Nat) (reconnectAutomatically : Bool) : CameraSource where
  processEveryNthFrame := processEveryNthFrame
  reconnectAutomatically := reconnectAutomatically
  state := .ready
  stopEvent := false
  wakeEvent := false
  sourceFrameIndex := none
  processedIndex := 0
  reconnectAttempts := 0
  worker := none
  caller := .idle
  frames := []
  resets := 0

/-- `_thread` is a thread that has not ended. -/
def isAlive (source : CameraSource) : Bool :=
  source.worker.any (fun worker => decide (worker.phase ≠ .exited))

/-! ## Calls -/

/-- `play`; a closed source raises. -/
def play (source : CameraSource) : CameraSource :=
  if source.state = .closed then source
  else if source.state = .paused then { source with state := .playing, wakeEvent := true }
  else if source.isAlive = true then source
  else
    { source with
      stopEvent := false
      wakeEvent := false
      state := .playing
      sourceFrameIndex := none
      processedIndex := 0
      reconnectAttempts := 0
      worker := some ⟨.looping, false⟩ }

def pause (source : CameraSource) : CameraSource :=
  { source with
    state := if source.state.isActive then .paused else source.state
    wakeEvent := true }

def resume (source : CameraSource) : CameraSource :=
  { source with
    state := if source.state = .paused then .playing else source.state
    wakeEvent := true }

/-- `stop`, `reload` and `close` up to the join of `_halt`; on a closed source
they return or raise at once. -/
def halt (source : CameraSource) (errand : CameraErrand) : CameraSource :=
  if source.state = .closed then source
  else { source with stopEvent := true, wakeEvent := true, caller := .joining errand }

/-- The locked region after the join; `stop` and `reload` publish a reset. -/
def finishHalt (source : CameraSource) (errand : CameraErrand) : CameraSource :=
  { source with
    worker := none
    state := errand.targetState
    sourceFrameIndex := none
    processedIndex := 0
    caller := .idle
    resets := if errand = .close then source.resets else source.resets + 1 }

/-! ## The worker -/

/-- The worker goes on in the given phase. -/
def enter (source : CameraSource) (worker : CameraWorker) (phase : CameraPhase) : CameraSource :=
  { source with worker := some { worker with phase := phase } }

/-- The head of the loop of `_wait_until_active`. -/
def check (source : CameraSource) (worker : CameraWorker) (task : CameraTask) : CameraSource :=
  if source.stopEvent = true then source.enter worker task.giveUp
  else { source with wakeEvent := false }.enter worker (.deciding task)

/-- The locked region of `_wait_until_active`. -/
def decideActive (source : CameraSource) (worker : CameraWorker) (task : CameraTask) :
    CameraSource :=
  if source.stopEvent = true then source.enter worker task.giveUp
  else if source.state.isActive = true then source.enter worker task.proceed
  else if source.state ≠ .paused then source.enter worker task.giveUp
  else source.enter worker (.waiting task)

/-- The locked region after `open_camera`. -/
def connected (source : CameraSource) (worker : CameraWorker) : CameraSource :=
  { source with state := .playing }.enter worker .announcing

/-- The locked region of `_handle_disconnect`. -/
def disconnected (source : CameraSource) (worker : CameraWorker) : CameraSource :=
  { source with
    reconnectAttempts := source.reconnectAttempts + 1
    state := if source.reconnectAutomatically then .reconnecting else .unavailable }.enter worker
      .failing

/-- `publish_reset` of a reconnected camera; the callback may raise. -/
def announce (source : CameraSource) (worker : CameraWorker) (raises : Bool) : CameraSource :=
  let announces := worker.connectedOnce = true ∨ 0 < source.reconnectAttempts
  let source := { source with resets := if announces then source.resets + 1 else source.resets }
  if announces ∧ raises = true then source.enter worker .exited
  else source.enter { worker with connectedOnce := true } .capturing

/-- The locked region after a frame has been read. -/
def select (source : CameraSource) (worker : CameraWorker) : CameraSource :=
  let sourceFrameIndex := (source.sourceFrameIndex.map (· + 1)).getD 0
  let source := { source with sourceFrameIndex := some sourceFrameIndex }
  if sourceFrameIndex % source.processEveryNthFrame ≠ 0 then source.enter worker .capturing
  else
    { source with processedIndex := source.processedIndex + 1 }.enter worker
      (.publishing (.image (source.processedIndex + 1) sourceFrameIndex))

/-- The locked region of `_publish_outage`. -/
def announceOutage (source : CameraSource) (worker : CameraWorker) : CameraSource :=
  { source with processedIndex := source.processedIndex + 1 }.enter worker
    (.publishing (.outage (source.processedIndex + 1)))

/-- `_publish`, with the return of the callback. -/
def publish (source : CameraSource) (worker : CameraWorker) (frame : CameraFrame)
    (raises : Bool) : CameraSource :=
  let source := { source with frames := source.frames ++ [frame] }
  let source :=
    if raises then { source with state := .error, stopEvent := true, wakeEvent := true } else source
  match frame with
  | .image _ _ => source.enter worker (if raises then .releasing false else .capturing)
  | .outage _ => source.enter worker .returning

/-- One step of the worker. -/
def workerStep (source : CameraSource) (worker : CameraWorker) :
    CameraPhase → CameraEvent → Option CameraSource
  | .looping, .advance =>
      some (source.enter worker (if source.stopEvent then .exited else .checking .openCamera))
  | .checking task, .advance => some (source.check worker task)
  | .deciding task, .advance => some (source.decideActive worker task)
  | .waiting task, .advance =>
      if source.wakeEvent = true then some (source.enter worker (.checking task)) else none
  | .opening, .succeed => some (source.connected worker)
  | .opening, .fail => some (source.disconnected worker)
  | .announcing, .succeed => some (source.announce worker false)
  | .announcing, .crash => some (source.announce worker true)
  | .capturing, .advance =>
      some (source.enter worker
        (if source.stopEvent then .releasing false else .checking .readFrame))
  | .reading, .succeed => some (source.select worker)
  | .reading, .fail => some (source.enter worker (.releasing true))
  | .reading, .crash => some (source.enter worker .exited)
  | .publishing frame, .succeed => some (source.publish worker frame false)
  | .publishing frame, .fail => some (source.publish worker frame true)
  | .releasing failed, .advance =>
      some (source.enter worker
        (if failed = false ∨ source.stopEvent = true then .exited else .disconnecting))
  | .disconnecting, .advance => some (source.disconnected worker)
  | .failing, .advance => some (source.announceOutage worker)
  | .returning, .advance =>
      some (source.enter worker
        (if source.reconnectAutomatically = true ∧ source.stopEvent = false then .backingOff
          else .exited))
  -- the wait for the stop event ends with the event or with its delay
  | .backingOff, .advance =>
      some (source.enter worker (if source.stopEvent then .exited else .looping))
  | _, _ => none

def step (source : CameraSource) : CameraAction → Option CameraSource
  | .play => if source.caller = .idle then some source.play else none
  | .pause => if source.caller = .idle then some source.pause else none
  | .resume => if source.caller = .idle then some source.resume else none
  | .halt errand => if source.caller = .idle then some (source.halt errand) else none
  | .joined =>
      match source.caller with
      | .idle => none
      | .joining errand => if source.isAlive then none else some (source.finishHalt errand)
  | .timeout =>
      match source.caller with
      | .idle => none
      | .joining _ => if source.isAlive then some { source with caller := .idle } else none
  | .worker event =>
      match source.worker with
      | none => none
      | some worker => source.workerStep worker worker.phase event

end CameraSource
end Media
end Synesthesia
