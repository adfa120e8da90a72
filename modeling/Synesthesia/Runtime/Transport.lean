import Synesthesia.Media.VideoSource
import Synesthesia.Midi.OutputService
import Synesthesia.Runtime.GraphWorker

namespace Synesthesia
namespace Runtime

open Foundation Contracts Media Midi Nodes

/-!
# Transport commands, source threads and the graph worker

The interleaving of the presentation threads of the video sources, of the graph
worker, and of the calls `play`, `resume`, `pause` and `stop` of
`runtime/engine_body.py` while one plan is active.  Every region under a lock is
one step, and so is every call that a thread makes outside its lock.  Of a source
only its state counts here, and of the body the call that is under way.  A tick is
known by what it may do to the outputs of the plan; `facade.tick` stamps it
with the next publish generation when the worker gets to it.
-/

/-- What the transport sees of a plan: its sources, its MIDI and audio outputs
in plan order with their clocks, and which of them are audio outputs. -/
structure TransportPlan where
  sourceIds : List UUID
  outputIds : List UUID
  clock : UUID → Option UUID
  isAudio : UUID → Bool
  clock_mem : ∀ output ∈ outputIds, ∀ source, clock output = some source → source ∈ sourceIds

/-! ## Outputs -/

/-- The desired notes of an output and its panic watermark; an audio output
without an open synth has none. -/
structure OutputState where
  ordering : Option StateOrdering
  desired : Dict MidiNoteKey (Fin 128)

namespace OutputState

def isSilent (output : OutputState) : Bool := output.desired.entries.isEmpty

/-- The stale check of a publication. -/
def isStale (output : OutputState) (publishGeneration : Nat) : Bool :=
  match output.ordering with
  | none => false
  | some ordering => ordering.isStale publishGeneration

/-- The locked part of a publication. -/
def enqueue (output : OutputState) (notes : Dict MidiNoteKey (Fin 128)) : OutputState :=
  { output with desired := notes }

/-- The locked part of a panic. -/
def panic (output : OutputState) (publishGeneration : Nat) : OutputState where
  ordering := output.ordering.map (fun ordering => ordering.recordPanic publishGeneration)
  desired := Dict.empty

end OutputState

/-- What a tick does to one output: leave it alone, panic it for a missing
input, or publish notes that carry the generation of a tick up to this one. -/
inductive TickEffect where
  | skip
  | missing
  | publish (notes : Dict MidiNoteKey (Fin 128)) (publishGeneration : Nat)

/-! ## The state -/

/-- What the graph worker is at; `outputs` are the outputs it has not reached. -/
inductive WorkerPhase where
  | idle
  | popped (source : UUID) (frame : Nat)
  | driving (source : UUID) (publishGeneration : Nat) (outputs : List UUID)
  | publishing (source : UUID) (publishGeneration : Nat) (output : UUID)
      (notes : Dict MidiNoteKey (Fin 128)) (outputs : List UUID)
  | resetting (source : UUID) (outputs : List UUID)

/-- Where the call that holds the engine's lock is.  A stop remembers the
source it was asked for, if any. -/
inductive ApiPhase where
  | idle
  | pausing (sources : List UUID)
  | draining
  | stopping (selection : Option UUID) (sources : List UUID)
  | halting (selection : Option UUID) (source : UUID) (sources : List UUID)
  | halted (selection : Option UUID) (source : UUID) (sources : List UUID)
  | panicking (stop : Bool) (publishGeneration : Nat) (outputs : List UUID)
  | finishing (selection : Option UUID)

/-- `quiet` records that the last pause or stop has returned, that its transport
refresh found no active source, and that no play or resume came after it.
`driven` records the outputs that a frame may drive which was published after
the last panic of the output and the last reset of its clock. -/
structure Transport where
  sources : UUID → VideoSource
  commands : List (GraphCommand Nat)
  worker : WorkerPhase
  publishGeneration : Nat
  outputs : UUID → OutputState
  api : ApiPhase
  quiet : Bool
  driven : UUID → Bool

namespace Transport

def initial (plan : TransportPlan) : Transport where
  sources := fun _ => VideoSource.initial
  commands := []
  worker := .idle
  publishGeneration := 0
  outputs := fun output => ⟨if plan.isAudio output then none else some ⟨0⟩, Dict.empty⟩
  api := .idle
  quiet := false
  driven := fun _ => false

/-- `wait_until_idle`: no command is pending and none is being executed. -/
def workerIdle (transport : Transport) : Bool :=
  transport.commands.isEmpty && match transport.worker with
    | .idle => true
    | _ => false

def anyActive (plan : TransportPlan) (transport : Transport) : Bool :=
  plan.sourceIds.any (fun source => (transport.sources source).state.isActive)

def setSource (transport : Transport) (source : UUID) (state : VideoSource) : Transport :=
  { transport with sources := Function.update transport.sources source state }

@[simp] theorem setSource_self (transport : Transport) (source : UUID) (state : VideoSource) :
    (transport.setSource source state).sources source = state :=
  Function.update_self _ _ _

theorem setSource_of_ne (transport : Transport) {source other : UUID} (state : VideoSource)
    (different : other ≠ source) :
    (transport.setSource source state).sources other = transport.sources other :=
  Function.update_of_ne different _ _

def setOutput (transport : Transport) (output : UUID) (state : OutputState) : Transport :=
  { transport with outputs := Function.update transport.outputs output state }

@[simp] theorem setOutput_self (transport : Transport) (output : UUID) (state : OutputState) :
    (transport.setOutput output state).outputs output = state :=
  Function.update_self _ _ _

/-- The outputs driven once a frame of the source has been published. -/
def drivenByFrame (plan : TransportPlan) (transport : Transport) (source output : UUID) : Bool :=
  transport.driven output || decide (plan.clock output = none ∨ plan.clock output = some source)

/-- The outputs still driven once a reset of the source has been published. -/
def drivenAfterReset (plan : TransportPlan) (transport : Transport) (source output : UUID) :
    Bool :=
  transport.driven output && decide (plan.clock output ≠ some source)

/-- `_selected_sources`; an unknown source is an error. -/
def selectedSources (plan : TransportPlan) : Option UUID → Option (List UUID)
  | none => some plan.sourceIds
  | some source => if source ∈ plan.sourceIds then some [source] else none

/-! ## The steps -/

inductive Step where
  /-- The locked state check of `_present`. -/
  | checkState (source : UUID)
  /-- `on_frame` of `_present`. -/
  | presentFrame (source : UUID)
  | commitEnd (source : UUID)
  | publishEnd (source : UUID)
  /-- The reset of a loop boundary or of an applied seek. -/
  | restart (source : UUID)
  | fail (source : UUID)
  | popCommand
  /-- `facade.tick` raises the generation. -/
  | stamp
  | drive (effect : TickEffect)
  | enqueue
  | resetOutput (raises : Bool)
  | finishCommand
  /-- The service thread of an audio output opens or closes its synth. -/
  | replaceSynth (output : UUID) (opened : Bool)
  | play (source : UUID)
  | resume (source : UUID)
  | pauseCall (selection : Option UUID)
  | pauseSource
  | pauseRefresh
  | drainDone
  | drainTimeout
  | stopCall (selection : Option UUID)
  | haltSource
  | joinSource
  | publishStop
  | stopPanic
  | panicOutput (raises : Bool)
  | panicDone
  | stopRefresh

/-- The steps of the presentation thread of a source. -/
def sourceStep (plan : TransportPlan) (transport : Transport) : Step → Option Transport
  | .checkState source =>
      if source ∈ plan.sourceIds then
        ((transport.sources source).checkState).map (transport.setSource source)
      else none
  | .presentFrame source =>
      match (transport.sources source).inHand with
      | none => none
      | some frame =>
          some { transport.setSource source (transport.sources source).release with
            commands := (publishFrame source frame transport.commands).1
            driven := transport.drivenByFrame plan source }
  | .commitEnd source => ((transport.sources source).commitEnd).map (transport.setSource source)
  | .publishEnd source =>
      if (transport.sources source).endPending then
        some { transport.setSource source { transport.sources source with endPending := false } with
          commands := publishReset source .sourceEnded transport.commands
          driven := transport.drivenAfterReset plan source }
      else none
  | .restart source =>
      if (transport.sources source).isReading then
        some { transport with
          commands := publishReset source .sourceRestarted transport.commands
          driven := transport.drivenAfterReset plan source }
      else none
  | .fail source => ((transport.sources source).fail).map (transport.setSource source)
  | _ => none

/-- The steps of the graph worker. -/
def workerStep (plan : TransportPlan) (transport : Transport) : Step → Option Transport
  | .popCommand =>
      match transport.worker, transport.commands with
      | .idle, .tick source frame :: rest =>
          some { transport with commands := rest, worker := .popped source frame }
      | .idle, .reset source _ :: rest =>
          some { transport with
            commands := rest
            worker := .resetting source
              (plan.outputIds.filter (fun output => decide (plan.clock output = some source))) }
      | _, _ => none
  | .stamp =>
      match transport.worker with
      | .popped source _ =>
          some { transport with
            publishGeneration := transport.publishGeneration + 1
            worker := .driving source (transport.publishGeneration + 1) plan.outputIds }
      | _ => none
  | .drive effect =>
      match transport.worker with
      | .driving source generation (output :: rest) =>
          let next := { transport with worker := .driving source generation rest }
          match effect with
          | .skip => some next
          | .missing => some (next.setOutput output ((transport.outputs output).panic generation))
          | .publish notes published =>
              if (plan.clock output = none ∨ plan.clock output = some source) ∧
                  1 ≤ published ∧ published ≤ generation then
                if (transport.outputs output).isStale published then some next
                else
                  some { transport with
                    worker := .publishing source generation output notes rest }
              else none
      | _ => none
  | .enqueue =>
      match transport.worker with
      | .publishing source generation output notes rest =>
          some (setOutput { transport with worker := .driving source generation rest } output
            ((transport.outputs output).enqueue notes))
      | _ => none
  | .resetOutput raises =>
      match transport.worker with
      | .resetting source (output :: rest) =>
          -- a raising reset ends the loop of `reset_source`
          some (setOutput { transport with
              worker := if raises then .idle else .resetting source rest } output
            ((transport.outputs output).panic 0))
      | _ => none
  | .finishCommand =>
      match transport.worker with
      | .driving _ _ [] => some { transport with worker := .idle }
      | .resetting _ [] => some { transport with worker := .idle }
      | _ => none
  | .replaceSynth output opened =>
      if plan.isAudio output then
        some (transport.setOutput output { transport.outputs output with
          ordering := if opened then some ⟨0⟩ else none })
      else none
  | _ => none

/-- The steps of the calls; they hold the lock of the engine until they return. -/
def apiStep (plan : TransportPlan) (transport : Transport) : Step → Option Transport
  | .play source =>
      match transport.api with
      | .idle =>
          if source ∈ plan.sourceIds then
            ((transport.sources source).play).map (fun state =>
              { transport.setSource source state with
                -- a source that has ended restarts
                commands := if (transport.sources source).state = .ended then
                    publishReset source .sourceRestarted transport.commands
                  else transport.commands
                driven := if (transport.sources source).state = .ended then
                    transport.drivenAfterReset plan source
                  else transport.driven
                quiet := false })
          else none
      | _ => none
  | .resume source =>
      match transport.api with
      | .idle =>
          some { transport.setSource source (transport.sources source).resume with quiet := false }
      | _ => none
  | .pauseCall selection =>
      match transport.api with
      | .idle =>
          (selectedSources plan selection).map (fun sources =>
            { transport with api := .pausing sources })
      | _ => none
  | .pauseSource =>
      match transport.api with
      | .pausing (source :: rest) =>
          some { transport.setSource source (transport.sources source).pause with
            api := .pausing rest }
      | _ => none
  | .pauseRefresh =>
      match transport.api with
      | .pausing [] =>
          if transport.anyActive plan then some { transport with api := .idle, quiet := false }
          else some { transport with api := .draining }
      | _ => none
  | .drainDone =>
      match transport.api with
      | .draining =>
          if transport.workerIdle then
            some { transport with
              api := .panicking false transport.publishGeneration plan.outputIds }
          else none
      | _ => none
  | .drainTimeout =>
      match transport.api with
      | .draining =>
          some { transport with
            api := .panicking false transport.publishGeneration plan.outputIds }
      | _ => none
  | .stopCall selection =>
      match transport.api with
      | .idle =>
          (selectedSources plan selection).map (fun sources =>
            { transport with api := .stopping selection sources })
      | _ => none
  | .haltSource =>
      match transport.api with
      | .stopping selection (source :: rest) =>
          some { transport.setSource source (transport.sources source).beginHalt with
            api := .halting selection source rest }
      | _ => none
  | .joinSource =>
      match transport.api with
      | .halting selection source rest =>
          ((transport.sources source).finishHalt .stopped).map (fun state =>
            { transport.setSource source state with api := .halted selection source rest })
      | _ => none
  | .publishStop =>
      match transport.api with
      | .halted selection source rest =>
          some { transport with
            commands := publishReset source .sourceRestarted transport.commands
            driven := transport.drivenAfterReset plan source
            api := .stopping selection rest }
      | _ => none
  | .stopPanic =>
      match transport.api with
      | .stopping none [] =>
          some { transport with
            api := .panicking true transport.publishGeneration plan.outputIds }
      | .stopping (some source) [] => some { transport with api := .finishing (some source) }
      | _ => none
  | .panicOutput raises =>
      match transport.api with
      | .panicking stop generation (output :: rest) =>
          -- an exception of `panic` leaves the call
          some (setOutput { transport with
              api := if raises then .idle else .panicking stop generation rest
              driven := Function.update transport.driven output false } output
            ((transport.outputs output).panic generation))
      | _ => none
  | .panicDone =>
      match transport.api with
      | .panicking false _ [] => some { transport with api := .idle, quiet := true }
      | .panicking true _ [] => some { transport with api := .finishing none }
      | _ => none
  | .stopRefresh =>
      match transport.api with
      | .finishing _ =>
          some { transport with api := .idle, quiet := !transport.anyActive plan }
      | _ => none
  | _ => none

/-- One step of any thread. -/
def step (plan : TransportPlan) (transport : Transport) (action : Step) : Option Transport :=
  (transport.sourceStep plan action).orElse (fun _ =>
    (transport.workerStep plan action).orElse (fun _ => transport.apiStep plan action))

end Transport
end Runtime
end Synesthesia
