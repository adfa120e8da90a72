import Synesthesia.Nodes.Base

namespace Synesthesia
namespace Media

/-!
# The presentation thread of a video source

The transport state of `media/video_source.py` and the part of `_present` that
publishes a frame.  The thread checks the state under the lock of the source
and publishes after it has released it; in between the frame is in its hands.
-/

inductive SourceState where
  | closed
  | ready
  | playing
  | paused
  | stopped
  | ended
  | reconnecting
  | unavailable
  | error
deriving DecidableEq, Repr

/-- The states in which a source produces frames. -/
def SourceState.isActive : SourceState → Bool
  | playing => true
  | reconnecting => true
  | _ => false

/-- `running` says that the presentation thread of a pass has not been joined.
`inHand` is the frame between the state check and its publication, by its
processed index; `endPending` says that the end of the stream is committed but
its reset is not published yet. -/
structure VideoSource where
  state : SourceState
  stopEvent : Bool
  running : Bool
  processedIndex : Nat
  inHand : Option Nat
  endPending : Bool
deriving DecidableEq, Repr

namespace VideoSource

/-- A source whose file has been opened. -/
def initial : VideoSource := ⟨.ready, false, false, 0, none, false⟩

/-- The presentation thread is between two frames. -/
def isResting (source : VideoSource) : Bool := source.inHand.isNone && !source.endPending

/-- The presentation thread runs and is between two frames. -/
def isReading (source : VideoSource) : Bool := source.running && source.isResting

/-- The locked state check of `_present`; `none` when it fails. -/
def checkState (source : VideoSource) : Option VideoSource :=
  if source.isReading = true ∧ source.state = .playing ∧ source.stopEvent = false then
    some { source with
      processedIndex := source.processedIndex + 1
      inHand := some (source.processedIndex + 1) }
  else none

/-- The frame leaves the hands of the thread. -/
def release (source : VideoSource) : VideoSource := { source with inHand := none }

/-- The thread commits the end of the stream, unless the state is terminal. -/
def commitEnd (source : VideoSource) : Option VideoSource :=
  if source.isReading = true ∧ source.state ∉ [SourceState.closed, .error] then
    some { source with state := .ended, endPending := true }
  else none

/-- A thread of the source fails; the state becomes an error without a reset. -/
def fail (source : VideoSource) : Option VideoSource :=
  if source.isReading = true then some { source with state := .error } else none

/-- `pause`: only a playing source is paused, nothing waits for its threads. -/
def pause (source : VideoSource) : VideoSource :=
  if source.state = .playing then { source with state := .paused } else source

/-- `resume`, without a pending seek. -/
def resume (source : VideoSource) : VideoSource :=
  if source.state = .paused then { source with state := .playing } else source

/-- `_halt` up to its join: the threads are told to stop. -/
def beginHalt (source : VideoSource) : VideoSource := { source with stopEvent := true }

/-- The end of `_halt`: the threads are joined and the state is committed. -/
def finishHalt (source : VideoSource) (target : SourceState) : Option VideoSource :=
  if source.isResting = true then
    some { source with state := target, running := false, processedIndex := 0 }
  else none

/-- `_start_pass`: the threads of the previous pass are joined first. -/
def startPass (source : VideoSource) : Option VideoSource :=
  if source.isResting = true then
    some { source with
      state := .playing
      stopEvent := false
      running := true
      processedIndex := 0 }
  else none

/-- `play` of a source that is not playing. -/
def play (source : VideoSource) : Option VideoSource :=
  match source.state with
  | .paused => some source.resume
  | .ready => source.startPass
  | .stopped => source.startPass
  | .ended => source.startPass
  | _ => none

end VideoSource
end Media
end Synesthesia
