import Synesthesia.Runtime.EngineBody

namespace Synesthesia
namespace Runtime

open Foundation Contracts Nodes

/-!
# The sources of the body

The three kinds of source that the body creates, by the calls that the body
makes on them, each run to its end: `_FailedSource`, and the transport of
`VideoFileSource` and `CameraSourceService`.  What their threads do between two
calls is a move of the source and no call.

`NotImplementedError` is a `RuntimeError`.
-/

/-! ## A source that could not be prepared -/

structure FailedSource where
  state : Media.SourceState
  sourceKind : String
  error : String
  settled : state ∈ [Media.SourceState.error, .stopped, .closed]

namespace FailedSource

def initial (sourceKind error : String) : FailedSource :=
  ⟨.error, sourceKind, error, List.mem_cons_self⟩

def play (source : FailedSource) : FailedSource × Except PyError Unit :=
  (source, .error (.runtimeError source.error))

def stop (source : FailedSource) : FailedSource × Except PyError Unit :=
  if source.state = .closed then (source, .ok ())
  else (⟨.stopped, source.sourceKind, source.error,
    List.mem_cons_of_mem _ List.mem_cons_self⟩, .ok ())

def reload (source : FailedSource) : FailedSource × Except PyError Unit :=
  (initial source.sourceKind source.error, .ok ())

def seek (source : FailedSource) : FailedSource × Except PyError Unit :=
  (source, .error (.runtimeError (source.sourceKind.capitalize ++ " source cannot seek")))

def close (source : FailedSource) : FailedSource × Except PyError Unit :=
  (⟨.closed, source.sourceKind, source.error,
    List.mem_cons_of_mem _ (List.mem_cons_of_mem _ List.mem_cons_self)⟩, .ok ())

end FailedSource

/-! ## A video file -/

/-- `stuck` says that a worker would survive a join, `inspection` what opening
the file again gives. -/
structure VideoPlayback where
  state : Media.SourceState
  seekPending : Bool
  stuck : Bool
  inspection : Except PyError Unit
  connected : state ≠ .reconnecting

namespace VideoPlayback

/-- The state that a pass starts in, or an error when workers survive. -/
def passState (stuck : Bool) : Media.SourceState := if stuck then .error else .playing

theorem passState_ne (stuck : Bool) : passState stuck ≠ .reconnecting := by
  cases stuck <;> exact fun same => by cases same

/-- The state that a halt commits. -/
def haltState (stuck terminal : Bool) (target : Media.SourceState) : Media.SourceState :=
  if stuck && !terminal then .error else target

theorem haltState_ne (stuck terminal : Bool) {target : Media.SourceState}
    (connected : target ≠ .reconnecting) : haltState stuck terminal target ≠ .reconnecting := by
  rw [haltState]
  split_ifs
  · exact fun same => by cases same
  · exact connected

/-- `_start_pass`. -/
def startPass (source : VideoPlayback) : VideoPlayback :=
  { source with
    state := passState source.stuck
    seekPending := source.stuck && source.seekPending
    connected := passState_ne source.stuck }

def resume (source : VideoPlayback) : VideoPlayback :=
  if source.state ≠ .paused then source
  else if source.seekPending then source.startPass
  else { source with state := .playing, connected := passState_ne false }

def play (source : VideoPlayback) : VideoPlayback × Except PyError Unit :=
  match source.state with
  | .closed => (source, .error (.runtimeError "Video source is closed"))
  | .error => (source, .error (.runtimeError "Video source must be reloaded after an error"))
  | .playing => (source, .ok ())
  | .paused => (source.resume, .ok ())
  | _ => (source.startPass, .ok ())

def pause (source : VideoPlayback) : VideoPlayback :=
  if source.state = .playing then
    { source with state := .paused, connected := fun same => Media.SourceState.noConfusion same }
  else source

/-- `_halt`. -/
def halt (source : VideoPlayback) (target : Media.SourceState) (terminal : Bool)
    (connected : target ≠ .reconnecting) : VideoPlayback :=
  { source with
    state := haltState source.stuck terminal target
    seekPending := false
    connected := haltState_ne source.stuck terminal connected }

theorem stopped_ne : Media.SourceState.stopped ≠ .reconnecting := fun same => by cases same

def stop (source : VideoPlayback) : VideoPlayback × Except PyError Unit :=
  if source.state = .closed then (source, .ok ())
  else (source.halt .stopped false stopped_ne, .ok ())

def reload (source : VideoPlayback) : VideoPlayback × Except PyError Unit :=
  if source.state = .closed then (source, .error (.runtimeError "Video source is closed"))
  else
    let halted := source.halt .stopped false stopped_ne
    match source.inspection with
    | .error error =>
        ({ halted with state := passState true, connected := passState_ne true }, .error error)
    | .ok () =>
        ({ halted with state := .ready, connected := fun same => by cases same }, .ok ())

def seek (sourceTimeS : ℚ) (source : VideoPlayback) : VideoPlayback × Except PyError Unit :=
  if sourceTimeS < 0 then
    (source, .error (.valueError "seek position must be a finite timestamp at or after 0"))
  else if source.state = .closed then
    (source, .error (.runtimeError "Video source is closed"))
  else ({ source with seekPending := true }, .ok ())

def close (source : VideoPlayback) : VideoPlayback × Except PyError Unit :=
  if source.state = .closed then (source, .ok ())
  else (source.halt .closed true (fun same => by cases same), .ok ())

end VideoPlayback

/-! ## A camera -/

/-- `alive` says that the capture thread has not ended, `joins` that it ends
within the time of a halt. -/
structure CameraPlayback where
  nodeId : UUID
  state : Media.SourceState
  alive : Bool
  joins : Bool
  idle : state = .ready → alive = false

namespace CameraPlayback

theorem playing_ne : Media.SourceState.playing ≠ .ready := fun same => by cases same

def play (source : CameraPlayback) : CameraPlayback × Except PyError Unit :=
  if source.state = .closed then (source, .error (.runtimeError "Camera source is closed"))
  else if source.state = .paused then
    ({ source with state := .playing, idle := fun same => absurd same playing_ne }, .ok ())
  else if source.alive then (source, .ok ())
  else ({ source with
    state := .playing
    alive := true
    idle := fun same => absurd same playing_ne }, .ok ())

def pause (source : CameraPlayback) : CameraPlayback :=
  if source.state.isActive then
    { source with state := .paused, idle := fun same => by cases same }
  else source

def resume (source : CameraPlayback) : CameraPlayback :=
  if source.state = .paused then
    { source with state := .playing, idle := fun same => absurd same playing_ne }
  else source

/-- `_halt`; a thread that does not end is left as it is. -/
def halt (source : CameraPlayback) (target : Media.SourceState) :
    CameraPlayback × Except PyError Unit :=
  if source.alive && !source.joins then
    (source, .error (.timeoutError
      ("Camera worker did not stop within 5 seconds: camera-capture-" ++
        uuidText source.nodeId)))
  else ({ source with state := target, alive := false, idle := fun _ => rfl }, .ok ())

def stop (source : CameraPlayback) : CameraPlayback × Except PyError Unit :=
  if source.state = .closed then (source, .ok ()) else source.halt .stopped

def reload (source : CameraPlayback) : CameraPlayback × Except PyError Unit :=
  if source.state = .closed then (source, .error (.runtimeError "Camera source is closed"))
  else source.halt .ready

def seek (source : CameraPlayback) : CameraPlayback × Except PyError Unit :=
  (source, .error (.runtimeError "Live camera sources cannot seek"))

def close (source : CameraPlayback) : CameraPlayback × Except PyError Unit :=
  if source.state = .closed then (source, .ok ()) else source.halt .closed

end CameraPlayback

/-! ## The three together -/

inductive PlaybackSource where
  | failed (source : FailedSource)
  | video (source : VideoPlayback)
  | camera (source : CameraPlayback)

namespace PlaybackSource

/-- A call on whichever source it is. -/
def dispatch (onFailed : FailedSource → FailedSource × Except PyError Unit)
    (onVideo : VideoPlayback → VideoPlayback × Except PyError Unit)
    (onCamera : CameraPlayback → CameraPlayback × Except PyError Unit) :
    PlaybackSource → PlaybackSource × Except PyError Unit
  | failed source => (failed (onFailed source).1, (onFailed source).2)
  | video source => (video (onVideo source).1, (onVideo source).2)
  | camera source => (camera (onCamera source).1, (onCamera source).2)

instance : SourceController PlaybackSource where
  state
    | failed source => source.state
    | video source => source.state
    | camera source => source.state
  play := dispatch FailedSource.play VideoPlayback.play CameraPlayback.play
  pause := dispatch (fun source => (source, .ok ())) (fun source => (source.pause, .ok ()))
    (fun source => (source.pause, .ok ()))
  resume := dispatch (fun source => (source, .ok ())) (fun source => (source.resume, .ok ()))
    (fun source => (source.resume, .ok ()))
  stop := dispatch FailedSource.stop VideoPlayback.stop CameraPlayback.stop
  reload := dispatch FailedSource.reload VideoPlayback.reload CameraPlayback.reload
  seek sourceTimeS := dispatch FailedSource.seek (VideoPlayback.seek sourceTimeS)
    CameraPlayback.seek
  close := dispatch FailedSource.close VideoPlayback.close CameraPlayback.close

/-- A video source as it is created; its workers end when told to. -/
def ofVideo : PlaybackSource := video ⟨.ready, false, false, .ok (), fun same => by cases same⟩

end PlaybackSource

end Runtime
end Synesthesia
