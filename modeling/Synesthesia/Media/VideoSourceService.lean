import Synesthesia.Media.RegionPass
import Synesthesia.Media.VideoSource

namespace Synesthesia
namespace Media

/-!
# The threads of a video source

`media/video_source.py`.  A decode thread fills a bounded queue, a presentation
thread empties it, and a head thread stages the frames of the next loop
boundary.  One caller at a time starts, stops and seeks.

Every locked region and every access to a shared event or queue is one step.
Waits have no model of time: a thread that waits may look again at any moment,
and a choice says whether a frame is due or a deadline has passed.
-/

/-! ## The data of the service -/

/-- A file with the region that `_resolve_region` derives for it; `frames` is
what the container yields after a seek. -/
structure Recording where
  regionStartS : ℚ
  regionEndS : Option ℚ
  durationS : Option ℚ
  headFrameBudget : Option Nat
  frames : ℚ → List VideoFrame

structure Configuration where
  loop : Bool
  processEveryNthFrame : Nat
  decodeQueueSize : Nat
  maxDecodeFailures : Nat

/-- A decode pass.  The number and the seek that it honours are kept to tell
passes apart. -/
structure Pass where
  number : Nat
  startS : ℚ
  seekGeneration : Nat
deriving DecidableEq

/-- An item of the decode queue, with the pass that has put it there. -/
inductive DecodeItem where
  | frame (pass : Pass) (frame : DecodedVideoFrame)
  | loop (pass : Pass)
  | finish (pass : Pass)
deriving DecidableEq

/-- `_QueueSignal.END`. -/
def DecodeItem.isEnd : DecodeItem → Bool
  | finish _ => true
  | _ => false

inductive ResetReason where
  | sourceRestarted
  | sourceEnded
deriving DecidableEq

/-- What the callbacks receive. -/
inductive Publication where
  | frame (frame : DecodedVideoFrame) (processedIndex : Nat)
  | reset (reason : ResetReason)
deriving DecidableEq

/-! ## Where the threads are -/

/-- What `_queue_put` carries: a frame with the rest of its pass, or a signal. -/
inductive Put where
  | frame (frame : DecodedVideoFrame) (rest : RegionPass)
  | loop
  | finish
deriving DecidableEq

/-- The item that `_queue_put` puts. -/
def Put.item (pass : Pass) : Put → DecodeItem
  | .frame decoded _ => .frame pass decoded
  | .loop => .loop pass
  | .finish => .finish pass

inductive DecodePhase where
  /-- The head of `_decode_loop`. -/
  | looping
  | beginning
  | reading
  | consuming
  | opening
  | decoding (pass : RegionPass)
  /-- The head of `_queue_put`. -/
  | putting (put : Put)
  | offering (put : Put)
  /-- `_decode_once` has returned. -/
  | returned (passedAny : Bool)
  | deciding (passedAny : Bool)
  | exited
deriving DecidableEq

structure Decoder where
  phase : DecodePhase
  generation : Nat
  consecutiveFailures : Nat
  pass : Pass
deriving DecidableEq

/-- A frame in the hands of the presentation thread. -/
structure Held where
  pass : Pass
  frame : DecodedVideoFrame
  fromHead : Bool
deriving DecidableEq

inductive PresentPhase where
  /-- The head of `_presentation_loop`. -/
  | looping
  | claiming
  /-- `_apply_seek`, in `_clear_decode_queue`. -/
  | clearing
  | resetting
  | selecting
  | receiving
  | filtering (held : Held)
  /-- `_wait_until_playing`. -/
  | waiting (held : Held)
  /-- The locked part of `_wait_until_due`. -/
  | timing (held : Held)
  /-- The locked state check of `_present`. -/
  | presenting (held : Held)
  | publishing (held : Held)
  | failing
  | restarting (pass : Pass)
  | ending
  | exited
deriving DecidableEq

/-- `capturedHead` refers to the head queue of the last loop signal, `pass` to
the pass that has put the signal. -/
structure Presenter where
  phase : PresentPhase
  generation : Nat
  usingHead : Bool
  headUpto : Option Nat
  capturedHead : Nat
  pass : Pass
deriving DecidableEq

/-- A live frame that repeats one presented from the staged head. -/
def Presenter.isDuplicate (presenter : Presenter) (frame : DecodedVideoFrame) : Bool :=
  presenter.headUpto.any (fun headUpto => decide (frame.sourceFrameIndex ≤ headUpto))

/-- The largest index presented from the head. -/
def Presenter.headPresented (presenter : Presenter) (held : Held) : Option Nat :=
  if held.fromHead = true ∧
      presenter.headUpto.all (fun headUpto => decide (headUpto < held.frame.sourceFrameIndex))
  then some held.frame.sourceFrameIndex
  else presenter.headUpto

inductive HeadPhase where
  | waiting
  | triggered
  | staging
  | swapping (staged : List DecodedVideoFrame)
  | exited
deriving DecidableEq

/-- A call that stops the threads first. -/
inductive Errand where
  | start (publishRestart : Bool)
  | stop
  | reload
  | close
deriving DecidableEq

inductive Caller where
  | idle
  | stopping (errand : Errand)
  | joining (errand : Errand)
  | reloading
  | seeking
deriving DecidableEq

/-- The service with its three threads and its caller.  `heads` are the head
queues made so far; `headQueue` refers to the current one. -/
structure VideoSourceService where
  recording : Recording
  state : SourceState
  stopEvent : Bool
  seekEvent : Bool
  decodeQueue : List DecodeItem
  passStartS : ℚ
  seekTargetS : ℚ
  seekFilterPts : Option ℚ
  seekGeneration : Nat
  appliedSeekGeneration : Nat
  passGeneration : Nat
  firstPtsS : Option ℚ
  positionS : ℚ
  sourceFrameIndex : Option Nat
  processedIndex : Nat
  headInUse : Bool
  headTrigger : Bool
  heads : List (List DecodedVideoFrame)
  headQueue : Nat
  decoder : Decoder
  presenter : Presenter
  headPhase : HeadPhase
  caller : Caller
  published : List Publication

/-- How a step of a thread goes where the source leaves it open. -/
inductive Choice where
  | advance
  /-- The wait or the deadline ends without what was waited for. -/
  | timeout
  /-- The native call or the callback raises. -/
  | raise
deriving DecidableEq

namespace VideoSourceService

variable (configuration : Configuration)

/-- `__init__`. -/
def initial (recording : Recording) : VideoSourceService where
  recording := recording
  state := .ready
  stopEvent := false
  seekEvent := false
  decodeQueue := []
  passStartS := recording.regionStartS
  seekTargetS := 0
  seekFilterPts := none
  seekGeneration := 0
  appliedSeekGeneration := 0
  passGeneration := 0
  firstPtsS := none
  positionS := 0
  sourceFrameIndex := none
  processedIndex := 0
  headInUse := false
  headTrigger := false
  heads := [[]]
  headQueue := 0
  decoder := ⟨.exited, 0, 0, ⟨0, recording.regionStartS, 0⟩⟩
  presenter := ⟨.exited, 0, false, none, 0, ⟨0, recording.regionStartS, 0⟩⟩
  headPhase := .exited
  caller := .idle
  published := []

/-- The frames of a pass that nothing interrupts. -/
def passFrames (recording : Recording) (startS : ℚ) : List DecodedVideoFrame :=
  (RegionPass.begin startS (recording.frames startS)).remaining recording.regionEndS
    configuration.processEveryNthFrame

/-! ## The decode thread -/

def setDecodePhase (service : VideoSourceService) (phase : DecodePhase) : VideoSourceService :=
  { service with decoder := { service.decoder with phase := phase } }

/-- `_fail` with the generation of a worker. -/
def failFrom (service : VideoSourceService) (generation : Nat) : VideoSourceService :=
  if generation = service.passGeneration then { service with state := .error } else service

/-- The handler of `_decode_loop` for an exception of `_decode_once`. -/
def decodeFailed (service : VideoSourceService) : VideoSourceService :=
  let failures := service.decoder.consecutiveFailures + 1
  let service := { service with
    decoder := { service.decoder with consecutiveFailures := failures } }
  if configuration.maxDecodeFailures ≤ failures then
    (service.failFrom service.decoder.generation).setDecodePhase (.putting .finish)
  else service.setDecodePhase .looping

/-- `_decode_once` returns. -/
def decodeReturned (service : VideoSourceService) (passedAny : Bool) : VideoSourceService :=
  { service with decoder := { service.decoder with
      phase := .returned passedAny
      consecutiveFailures := 0 } }

/-- The end of `_decode_once` after a pass that was not interrupted. -/
def passOver (service : VideoSourceService) (pass : RegionPass) : VideoSourceService :=
  if pass.sourceFrameIndex = 0 ∧ pass.framesDecoded = 0 ∧ service.seekEvent = false then
    decodeFailed configuration service
  else service.decodeReturned (decide (0 < pass.sourceFrameIndex))

/-- `_queue_put` has returned true. -/
def putDone (service : VideoSourceService) : Put → VideoSourceService
  | .frame _ rest => service.setDecodePhase (.decoding rest)
  | .loop => service.setDecodePhase .looping
  | .finish => service.setDecodePhase .exited

/-- `_queue_put` has returned false. -/
def putStopped (service : VideoSourceService) : Put → VideoSourceService
  | .frame _ rest => service.decodeReturned (decide (0 < rest.sourceFrameIndex))
  | .loop => service.setDecodePhase .exited
  | .finish => service.setDecodePhase .exited

/-- One step of `_decode_loop`. -/
def decodeStep (service : VideoSourceService) (choice : Choice) : Option VideoSourceService :=
  let pass := service.decoder.pass
  match service.decoder.phase with
  | .looping =>
      some (service.setDecodePhase (if service.stopEvent then .exited else .beginning))
  | .beginning =>
      some { service with decoder := { service.decoder with
        phase := if service.seekEvent then .reading else .opening
        pass := { pass with startS := service.passStartS } } }
  | .reading =>
      some { service with decoder := { service.decoder with
        phase := .consuming
        pass := { pass with
          startS := service.seekTargetS
          seekGeneration := service.seekGeneration } } }
  | .consuming => some { service.setDecodePhase .opening with seekEvent := false }
  | .opening =>
      if service.recording.regionEndS.any (fun endS => decide (endS ≤ pass.startS)) then
        some (service.decodeReturned false)
      else if choice = .raise then some (decodeFailed configuration service)
      else
        some { service with decoder := { service.decoder with
          phase := .decoding (.begin pass.startS (service.recording.frames pass.startS))
          pass := { pass with number := pass.number + 1 } } }
  | .decoding regionPass =>
      if choice = .raise then some (decodeFailed configuration service)
      else if regionPass.rest = [] then some (passOver configuration service regionPass)
      else if service.stopEvent || service.seekEvent then
        some (service.decodeReturned (decide (0 < regionPass.sourceFrameIndex)))
      else
        match regionPass.next service.recording.regionEndS configuration.processEveryNthFrame with
        | .ended last => some (passOver configuration service last)
        | .skip rest => some (service.setDecodePhase (.decoding rest))
        | .hand frame rest => some (service.setDecodePhase (.putting (.frame frame rest)))
  | .putting put =>
      if service.stopEvent then some (service.putStopped put)
      else some (service.setDecodePhase (.offering put))
  | .offering put =>
      if service.decodeQueue.length < configuration.decodeQueueSize then
        some ({ service with
          decodeQueue := service.decodeQueue ++ [put.item pass] }.putDone put)
      else if choice = .timeout then some (service.setDecodePhase (.putting put))
      else none
  | .returned passedAny =>
      some (service.setDecodePhase (if service.stopEvent then .exited else .deciding passedAny))
  | .deciding passedAny =>
      if service.seekEvent then some (service.setDecodePhase .looping)
      else if !configuration.loop || !passedAny then
        some (service.setDecodePhase (.putting .finish))
      else
        some { service.setDecodePhase (.putting .loop) with
          passStartS := service.recording.regionStartS }
  | .exited => none

/-! ## The presentation thread -/

def setPresentPhase (service : VideoSourceService) (phase : PresentPhase) : VideoSourceService :=
  { service with presenter := { service.presenter with phase := phase } }

def publishReset (service : VideoSourceService) (reason : ResetReason) : VideoSourceService :=
  { service with published := service.published ++ [.reset reason] }

/-- The timeline and the indices of a seek and of a loop boundary. -/
def resetProgress (service : VideoSourceService) : VideoSourceService :=
  { service with firstPtsS := none, sourceFrameIndex := none, processedIndex := 0 }

/-- One step of `_presentation_loop`. -/
def presentStep (service : VideoSourceService) (choice : Choice) : Option VideoSourceService :=
  let presenter := service.presenter
  match presenter.phase with
  | .looping =>
      some (service.setPresentPhase (if service.stopEvent then .exited else .claiming))
  | .claiming =>
      if service.seekGeneration ≠ service.appliedSeekGeneration then
        some { service.setPresentPhase .clearing with
          appliedSeekGeneration := service.seekGeneration }
      else some (service.setPresentPhase .selecting)
  | .clearing =>
      match service.decodeQueue with
      | [] => some (service.setPresentPhase .resetting)
      | _ :: rest => some { service with decodeQueue := rest }
  | .resetting =>
      some (({ service.resetProgress with
        headInUse := false
        presenter := { presenter with
          phase := .selecting
          usingHead := false
          headUpto := none } } : VideoSourceService).publishReset .sourceRestarted)
  | .selecting =>
      if presenter.usingHead then
        match service.heads.getD presenter.capturedHead [] with
        | [] =>
            some { service with
              headInUse := false
              headTrigger := true
              presenter := { presenter with phase := .receiving, usingHead := false } }
        | frame :: rest =>
            some ({ service with
              heads := service.heads.set presenter.capturedHead rest }.setPresentPhase
                (.filtering ⟨presenter.pass, frame, true⟩))
      else some (service.setPresentPhase .receiving)
  | .receiving =>
      match service.decodeQueue with
      | [] => some (service.setPresentPhase .looping)
      | .finish _ :: rest =>
          some ({ service with decodeQueue := rest }.setPresentPhase .ending)
      | .loop pass :: rest =>
          some ({ service with decodeQueue := rest }.setPresentPhase (.restarting pass))
      | .frame pass frame :: rest =>
          some ({ service with decodeQueue := rest }.setPresentPhase
            (if presenter.isDuplicate frame then .looping else .filtering ⟨pass, frame, false⟩))
  | .filtering held =>
      if service.seekFilterPts.all (fun limit => decide (limit ≤ held.frame.ptsSeconds)) then
        some { service.setPresentPhase (.waiting held) with seekFilterPts := none }
      else some (service.setPresentPhase .looping)
  | .waiting held =>
      if service.stopEvent then some (service.setPresentPhase .exited)
      else
        match service.state with
        | .playing => some (service.setPresentPhase (.timing held))
        | .paused => none
        | _ => some (service.setPresentPhase .exited)
  | .timing held =>
      if service.stopEvent then some (service.setPresentPhase .exited)
      else
        -- the first frame after a reset anchors the timeline
        let service := { service with
          firstPtsS := service.firstPtsS.or (some held.frame.ptsSeconds) }
        if service.state = .playing ∧ choice = .advance then
          some (service.setPresentPhase (.presenting held))
        else some (service.setPresentPhase (.waiting held))
  | .presenting held =>
      if service.state ≠ .playing ∨ service.stopEvent = true then
        some (service.setPresentPhase .exited)
      else
        some { service.setPresentPhase (.publishing held) with
          processedIndex := service.processedIndex + 1
          sourceFrameIndex := some held.frame.sourceFrameIndex
          positionS := held.frame.ptsSeconds }
  | .publishing held =>
      if choice = .raise then
        some ((service.failFrom presenter.generation).setPresentPhase .failing)
      else
        some { service with
          published := service.published ++ [.frame held.frame service.processedIndex]
          presenter := { presenter with
            phase := .looping
            headUpto := presenter.headPresented held } }
  | .failing => some { service.setPresentPhase .exited with stopEvent := true }
  | .restarting pass =>
      some (({ service.resetProgress with
        headInUse := true
        headTrigger := true
        presenter := { presenter with
          phase := .looping
          usingHead := true
          headUpto := none
          capturedHead := service.headQueue
          pass := pass } } : VideoSourceService).publishReset .sourceRestarted)
  | .ending =>
      let ended := { service with
        headInUse := false
        state :=
          if service.passGeneration = presenter.generation ∧
              service.state ∉ [SourceState.closed, .error] then .ended
          else service.state
        presenter := { presenter with phase := .exited, usingHead := false } }
      some (ended.publishReset .sourceEnded)
  | .exited => none

/-! ## The head thread -/

/-- What `_head_loop` stages: the first frames of the region, at least one. -/
def stagedHead (recording : Recording) (budget : Nat) : List DecodedVideoFrame :=
  (passFrames configuration recording recording.regionStartS).take (max budget 1)

/-- One step of `_head_loop`. -/
def headStep (service : VideoSourceService) (choice : Choice) : Option VideoSourceService :=
  match service.headPhase with
  | .waiting =>
      if service.stopEvent then some { service with headPhase := .exited }
      else if service.headTrigger then some { service with headPhase := .triggered }
      else none
  | .triggered =>
      if service.stopEvent then some { service with headPhase := .exited }
      else some { service with headTrigger := false, headPhase := .staging }
  | .staging =>
      if service.stopEvent then some { service with headPhase := .exited }
      else
        match service.recording.headFrameBudget with
        | none => some { service with headPhase := .waiting }
        | some budget =>
            let staged := stagedHead configuration service.recording budget
            if choice = .raise ∨ staged = [] then some { service with headPhase := .waiting }
            else some { service with headPhase := .swapping staged }
  | .swapping staged =>
      if service.stopEvent then some { service with headPhase := .exited }
      else if service.headInUse = false then
        some { service with
          heads := service.heads ++ [staged]
          headQueue := service.heads.length
          headPhase := .waiting }
      else if choice = .timeout then some { service with headPhase := .waiting }
      else none
  | .exited => none

/-! ## The caller -/

inductive Call where
  | play
  | pause
  | resume
  | stop
  | reload
  | close
  | seek (sourceTimeS : ℚ)
deriving DecidableEq

/-- `resume`; a pending seek restarts the pass. -/
def resume (service : VideoSourceService) : VideoSourceService :=
  if service.state ≠ .paused then service
  else if service.seekEvent then { service with caller := .stopping (.start true) }
  else { service with state := .playing }

/-- `play`; in the states closed and error it raises. -/
def play (service : VideoSourceService) : VideoSourceService :=
  match service.state with
  | .closed => service
  | .error => service
  | .playing => service
  | .paused => service.resume
  | state => { service with caller := .stopping (.start (decide (state = .ended))) }

/-- The target of `seek`: inside the region, or at its end. -/
def clampTarget (recording : Recording) (sourceTimeS : ℚ) : ℚ :=
  let target :=
    match recording.regionEndS with
    | some regionEndS => min sourceTimeS regionEndS
    | none =>
        match recording.durationS with
        | some durationS => min sourceTimeS durationS
        | none => sourceTimeS
  max target recording.regionStartS

/-- The locked part of `seek`; a negative time raises, and so does a closed source. -/
def seek (service : VideoSourceService) (sourceTimeS : ℚ) : VideoSourceService :=
  if sourceTimeS < 0 ∨ service.state = .closed then service
  else
    let target := clampTarget service.recording sourceTimeS
    { service with
      seekTargetS := target
      positionS := target
      seekFilterPts := some target
      seekGeneration := service.seekGeneration + 1
      caller := .seeking }

/-- A call, up to its first wait. -/
def call (service : VideoSourceService) : Call → VideoSourceService
  | .play => service.play
  | .pause => if service.state = .playing then { service with state := .paused } else service
  | .resume => service.resume
  | .stop =>
      if service.state = .closed then service else { service with caller := .stopping .stop }
  | .reload =>
      if service.state = .closed then service else { service with caller := .stopping .reload }
  | .close =>
      if service.state = .closed then service else { service with caller := .stopping .close }
  | .seek sourceTimeS => service.seek sourceTimeS

def isJoined (service : VideoSourceService) : Bool :=
  decide (service.decoder.phase = .exited ∧ service.presenter.phase = .exited ∧
    service.headPhase = .exited)

/-- What `_start_pass` and `_halt` both reset: the queue, the counters of the
pass and the protocol of the head. -/
def resetPass (service : VideoSourceService) : VideoSourceService :=
  { service.resetProgress with
    decodeQueue := []
    seekFilterPts := none
    headInUse := false
    headTrigger := false
    heads := service.heads ++ [[]]
    headQueue := service.heads.length
    passGeneration := service.passGeneration + 1 }

/-- Where `_start_pass` starts: at a pending seek that lies before the end. -/
def startOf (service : VideoSourceService) : ℚ :=
  if service.seekEvent = true ∧
      service.recording.regionEndS.all (fun endS => decide (service.seekTargetS < endS)) then
    service.seekTargetS
  else service.recording.regionStartS

/-- `_start_pass` after its join. -/
def startPass (service : VideoSourceService) (publishRestart : Bool) : VideoSourceService :=
  let startS := service.startOf
  let reset := service.resetPass
  let started := { reset with
    stopEvent := false
    seekEvent := false
    passStartS := startS
    positionS := startS
    appliedSeekGeneration := service.seekGeneration
    state := .playing
    headTrigger := service.recording.headFrameBudget.isSome
    decoder := ⟨.looping, reset.passGeneration, 0,
      ⟨service.decoder.pass.number, startS, service.seekGeneration⟩⟩
    presenter := ⟨.looping, reset.passGeneration, false, none, reset.headQueue,
      service.presenter.pass⟩
    headPhase := if service.recording.headFrameBudget.isSome then .waiting else .exited
    caller := .idle }
  if publishRestart then started.publishReset .sourceRestarted else started

/-- `_halt` after its join. -/
def halt (service : VideoSourceService) (target : SourceState) : VideoSourceService :=
  { service.resetPass with
    seekEvent := false
    state := target
    positionS :=
      if target = .stopped then service.recording.regionStartS else service.positionS
    caller := .idle }

/-- The rest of a call once the threads are joined. -/
def finishErrand (service : VideoSourceService) : Errand → VideoSourceService
  | .start publishRestart => service.startPass publishRestart
  | .stop => (service.halt .stopped).publishReset .sourceRestarted
  | .reload =>
      { (service.halt .stopped).publishReset .sourceRestarted with caller := .reloading }
  | .close => service.halt .closed

/-- One step of the caller inside its call; a reload may find the file unreadable. -/
def callerStep (service : VideoSourceService) (reloaded : Option Recording) :
    Option VideoSourceService :=
  match service.caller with
  | .idle => none
  | .stopping errand => some { service with stopEvent := true, caller := .joining errand }
  | .joining errand => if service.isJoined then some (service.finishErrand errand) else none
  | .reloading =>
      match reloaded with
      | none => some { service with state := .error, caller := .idle }
      | some recording =>
          some { service with recording := recording, state := .ready, caller := .idle }
  | .seeking => some { service with seekEvent := true, caller := .idle }

/-! ## The source of the transport -/

variable {source next : VideoSource}

/-- A call that waits for no thread. -/
theorem state_of_call {service : VideoSourceService} (same : source.state = service.state)
    (unsought : service.seekEvent = false) :
    (service.call .pause).state = source.pause.state ∧
      (service.call .resume).state = source.resume.state := by
  change (ite _ _ _ : VideoSourceService).state = _ ∧ service.resume.state = _
  rw [resume, VideoSource.pause, VideoSource.resume, same, unsought]
  constructor
  · split_ifs
    · rfl
    · exact same.symm
  · by_cases paused : service.state = .paused
    · rw [if_neg (not_not.mpr paused), if_pos paused]
      rfl
    · rw [if_pos paused, if_neg paused]
      exact same.symm

/-- A call whose threads are joined. -/
theorem state_of_finishErrand (service : VideoSourceService) :
    (source.startPass = some next → ∀ publishRestart,
      (service.finishErrand (.start publishRestart)).state = next.state) ∧
    (source.finishHalt .stopped = some next →
      (service.finishErrand .stop).state = next.state) := by
  constructor
  · intro started publishRestart
    rw [VideoSource.startPass, Option.ite_none_right_eq_some, Option.some.injEq] at started
    rw [← started.2]
    cases publishRestart <;> rfl
  · intro halted
    rw [VideoSource.finishHalt, Option.ite_none_right_eq_some, Option.some.injEq] at halted
    rw [← halted.2]
    rfl

/-! ## The interleaving -/

inductive Step where
  | call (call : Call)
  | caller (reloaded : Option Recording)
  | decode (choice : Choice)
  | present (choice : Choice)
  | head (choice : Choice)

/-- One step; `none` when it cannot be taken. -/
def step (service : VideoSourceService) : Step → Option VideoSourceService
  | .call call => if service.caller = .idle then some (service.call call) else none
  | .caller reloaded => service.callerStep reloaded
  | .decode choice => decodeStep configuration service choice
  | .present choice => service.presentStep choice
  | .head choice => headStep configuration service choice

end VideoSourceService
end Media
end Synesthesia
