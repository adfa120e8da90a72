import Synesthesia.Midi.DebugSynth

namespace Synesthesia
namespace Nodes

open Foundation Contracts Midi

/-!
# The output service of the Generate Audio node

`_DebugAudioOutputService` of `nodes/output/audio.py` while it is open.  The
graph worker publishes and disables, any thread panics, and a service thread
opens, replaces and closes the synths.  Every locked region is one step, and so
is every call on a synth, which has a lock of its own.
-/

/-- `_AudioCommand`; without a request the command closes the synth.  The
configuration and the state are always set together. -/
structure AudioCommand where
  generation : Nat
  request : Option (SynthConfiguration × MidiStateFrame)
deriving DecidableEq

/-- Where the graph worker is in `publish`, outside the lock. -/
inductive AudioPublisher where
  | idle
  | updating (synth : Nat) (configuration : SynthConfiguration) (state : MidiStateFrame)
  | failed (configuration : SynthConfiguration) (error : PyError)

/-- What `_close_current` is called for. -/
inductive AfterClose where
  | disable
  | open (generation : Nat) (configuration : SynthConfiguration) (state : MidiStateFrame)
  | record (generation : Nat) (configuration : SynthConfiguration) (error : PyError)

/-- Where the service thread is in `_run`; the thread is gone when it is `dead`. -/
inductive AudioWorker where
  | idle
  | applying (command : AudioCommand)
  | closing (after : AfterClose) (synth : Option Nat)
  | opening (generation : Nat) (configuration : SynthConfiguration) (state : MidiStateFrame)
  | installing (generation : Nat) (configuration : SynthConfiguration) (state : MidiStateFrame)
      (synth : Nat)
  | checking (generation : Nat) (configuration : SynthConfiguration) (state : MidiStateFrame)
      (synth : Nat)
  | updating (generation : Nat) (configuration : SynthConfiguration) (state : MidiStateFrame)
      (synth : Nat)
  | silencing (generation : Nat) (configuration : SynthConfiguration) (synth : Nat)
  | failing (generation : Nat) (configuration : SynthConfiguration) (error : PyError)
  | recording (generation : Nat) (configuration : SynthConfiguration) (error : PyError)
  | finishing
  | dead

/-- Where the service thread goes after `_close_current`; an exception of the
synth ends the thread, unless it is caught in `_apply`. -/
def AfterClose.next : AfterClose → Option PyError → AudioWorker
  | .disable, none => .finishing
  | .disable, some _ => .dead
  | .open generation configuration state, none => .opening generation configuration state
  | .open generation configuration _, some error => .failing generation configuration error
  | .record generation configuration error, none => .recording generation configuration error
  | .record _ _ _, some _ => .dead

def AudioWorker.isDead : AudioWorker → Bool
  | .dead => true
  | _ => false

/-- A panic call that has left the lock, with the synth it has read there. -/
structure AudioPanic where
  publishGeneration : Nat
  synth : Option Nat
deriving DecidableEq

/-- A synth is named by its place in the list of all synths ever opened.
`calls` are the panic calls that have not returned, `issued` are all of them
and `returned` those that have returned. -/
structure AudioOutputService where
  generation : Nat
  pending : Option AudioCommand
  busy : Bool
  synth : Option Nat
  configuration : Option SynthConfiguration
  failedConfiguration : Option SynthConfiguration
  failure : Option PyError
  synths : List DebugSynth
  publisher : AudioPublisher
  worker : AudioWorker
  calls : List AudioPanic
  issued : List AudioPanic
  returned : List AudioPanic

namespace AudioOutputService

/-- `__init__`. -/
def initial : AudioOutputService where
  generation := 0
  pending := none
  busy := false
  synth := none
  configuration := none
  failedConfiguration := none
  failure := none
  synths := []
  publisher := .idle
  worker := .idle
  calls := []
  issued := []
  returned := []

/-- A call on one synth. -/
def onSynth (service : AudioOutputService) (index : Nat) (call : DebugSynth → DebugSynth) :
    AudioOutputService :=
  { service with synths := service.synths.modify index call }

/-- The locked part of `publish`. -/
def publish (service : AudioOutputService) (configuration : SynthConfiguration)
    (state : MidiStateFrame) : AudioOutputService :=
  if service.failedConfiguration = some configuration then service
  else
    let cleared := { service with
      failedConfiguration := none
      failure := none
      generation := service.generation + 1 }
    match service.synth with
    | some index =>
        if service.configuration = some configuration ∧ service.busy = false ∧
            service.pending = none then
          { cleared with publisher := .updating index configuration state }
        else
          { cleared with
            pending := some ⟨service.generation + 1, some (configuration, state)⟩ }
    | none =>
        { cleared with pending := some ⟨service.generation + 1, some (configuration, state)⟩ }

def disable (service : AudioOutputService) : AudioOutputService :=
  let cleared := { service with failedConfiguration := none, failure := none }
  if service.configuration = none ∧ service.pending = none ∧ service.busy = false then cleared
  else
    { cleared with
      generation := service.generation + 1
      pending := some ⟨service.generation + 1, none⟩ }

/-- The locked part of `panic`. -/
def panic (service : AudioOutputService) (publishGeneration : Nat) : AudioOutputService :=
  { service with
    generation := service.generation + 1
    pending := none
    calls := service.calls ++ [⟨publishGeneration, service.synth⟩]
    issued := service.issued ++ [⟨publishGeneration, service.synth⟩] }

/-- The locked part of `_close_current`. -/
def closeCurrent (service : AudioOutputService) (after : AfterClose) : AudioOutputService :=
  { service with
    synth := none
    configuration := none
    worker := .closing after service.synth }

inductive Step where
  | publish (configuration : SynthConfiguration) (state : MidiStateFrame)
  /-- The update outside the lock. -/
  | updateFast (raises : Option PyError)
  | recordFast
  | disable
  | panic (publishGeneration : Nat)
  /-- The panic of the synth outside the lock, and the return of the call. -/
  | finishPanic (call : AudioPanic)
  | take
  | apply
  /-- The panic and the close of the synth that `_close_current` has removed. -/
  | closeOld (raises : Option PyError)
  | openSynth (raises : Option PyError)
  | install
  | checkCurrent
  | updateSynth (raises : Option PyError)
  | silence
  | fail
  | record
  | finish

/-- The steps of the graph worker and of the panic calls. -/
def callStep (service : AudioOutputService) : Step → Option AudioOutputService
  | .publish configuration state =>
      match service.publisher with
      | .idle => some (service.publish configuration state)
      | _ => none
  | .updateFast raises =>
      match service.publisher, raises with
      | .updating index _ state, none =>
          some { service.onSynth index (fun synth => synth.update state) with publisher := .idle }
      | .updating _ configuration _, some error =>
          some { service with publisher := .failed configuration error }
      | _, _ => none
  | .recordFast =>
      match service.publisher with
      | .failed configuration error =>
          some { service with
            failedConfiguration := some configuration
            failure := some error
            generation := service.generation + 1
            pending := some ⟨service.generation + 1, none⟩
            publisher := .idle }
      | _ => none
  | .disable =>
      match service.publisher with
      | .idle => some service.disable
      | _ => none
  | .panic publishGeneration => some (service.panic publishGeneration)
  | .finishPanic call =>
      if call ∈ service.calls then
        let returned := { service with
          calls := service.calls.erase call
          returned := service.returned ++ [call] }
        match call.synth with
        | some index =>
            some (returned.onSynth index (fun synth => synth.panic call.publishGeneration))
        | none => some returned
      else none
  | _ => none

/-- The steps of the service thread. -/
def workerStep (service : AudioOutputService) : Step → Option AudioOutputService
  | .take =>
      match service.worker, service.pending with
      | .idle, some command =>
          some { service with pending := none, busy := true, worker := .applying command }
      | _, _ => none
  | .apply =>
      match service.worker with
      | .applying ⟨_, none⟩ => some (service.closeCurrent .disable)
      | .applying ⟨generation, some (configuration, state)⟩ =>
          if service.configuration = some configuration then
            match service.synth with
            | some index =>
                some { service with worker := .checking generation configuration state index }
            | none => none
          else some (service.closeCurrent (.open generation configuration state))
      | _ => none
  | .closeOld raises =>
      match service.worker with
      | .closing after old =>
          let closed := match old with
            | some index => service.onSynth index (fun synth => (synth.panic 0).close)
            | none => service
          some { closed with
            busy := service.busy && !(after.next raises).isDead
            worker := after.next raises }
      | _ => none
  | .openSynth raises =>
      match service.worker, raises with
      | .opening generation configuration state, none =>
          some { service with
            synths := service.synths ++ [DebugSynth.initial configuration]
            worker := .installing generation configuration state service.synths.length }
      | .opening generation configuration _, some error =>
          some { service with worker := .failing generation configuration error }
      | _, _ => none
  | .install =>
      match service.worker with
      | .installing generation configuration state index =>
          some { service with
            synth := some index
            configuration := some configuration
            worker := .checking generation configuration state index }
      | _ => none
  | .checkCurrent =>
      match service.worker with
      | .checking generation configuration state index =>
          some { service with
            worker := if generation = service.generation then
                .updating generation configuration state index
              else .silencing generation configuration index }
      | _ => none
  | .updateSynth raises =>
      match service.worker, raises with
      | .updating _ _ state index, none =>
          some { service.onSynth index (fun synth => synth.update state) with
            worker := .finishing }
      | .updating generation configuration _ _, some error =>
          some { service with worker := .failing generation configuration error }
      | _, _ => none
  | .silence =>
      match service.worker with
      | .silencing _ _ index =>
          some { service.onSynth index (fun synth => synth.panic 0) with worker := .finishing }
      | _ => none
  | .fail =>
      match service.worker with
      | .failing generation configuration error =>
          some (service.closeCurrent (.record generation configuration error))
      | _ => none
  | .record =>
      match service.worker with
      | .recording generation configuration error =>
          let recorded := if generation = service.generation then
              { service with
                failedConfiguration := some configuration
                failure := some error }
            else service
          some { recorded with worker := .finishing }
      | _ => none
  | .finish =>
      match service.worker with
      | .finishing => some { service with busy := false, worker := .idle }
      | _ => none
  | _ => none

/-- One step of any thread. -/
def step (service : AudioOutputService) (action : Step) : Option AudioOutputService :=
  (service.callStep action).orElse (fun _ => service.workerStep action)

end AudioOutputService
end Nodes
end Synesthesia
