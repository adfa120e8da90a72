import Synesthesia.Midi.OutputService
import Synesthesia.Nodes.Base

namespace Synesthesia
namespace Nodes

open Foundation Contracts Midi

/-!
# The Send MIDI sink

`nodes/output/midi.py`.  The runtime publishes the state on its input to its
output service.  A missing input stops the source: the first tick without one
requests a panic with that tick's generation.
-/

/-- `publish` as one call: its stale check and its locked part in a row. -/
def publishDesired (service : MidiOutputService) (desired : DesiredState) :
    MidiOutputService × Except PyError Unit :=
  if service.ordering.isStale desired.publishGeneration then (service, .ok ())
  else if service.closing || service.closed then
    (service, .error (.runtimeError "MIDI output service is closed"))
  else (service.put desired, .ok ())

/-- `VelocityUpdatePolicy(text)`. -/
def velocityUpdatePolicy? (text : String) : Option VelocityUpdatePolicy :=
  if text = "Ignore while held" then some .ignoreWhileHeld
  else if text = "Retrigger" then some .retrigger
  else if text = "Repeat note-on" then some .repeatNoteOn
  else none

/-- The configuration that the parameters of the node describe. -/
def outputConfiguration (parameters : Dict String ParameterValue) :
    Except NodeFailure MidiOutputConfiguration :=
  match parameters.get? "output_port", parameters.get? "velocity_update_policy",
      parameters.get? "velocity_change_threshold" with
  | some (.string port), some (.string policy), some (.int threshold) =>
      match velocityUpdatePolicy? policy with
      | none =>
          .error (.unexpected ("'" ++ policy ++ "' is not a valid VelocityUpdatePolicy")
            "ValueError")
      | some policy =>
          if bounded : 0 ≤ threshold ∧ threshold ≤ 127 then
            .ok ⟨port, policy, ⟨threshold.toNat, by omega⟩⟩
          else
            .error (.unexpected "velocity_change_threshold must be in the range 0..127"
              "ValueError")
  | none, _, _ => .error (.unexpected "'output_port'" "KeyError")
  | _, none, _ => .error (.unexpected "'velocity_update_policy'" "KeyError")
  | _, _, none => .error (.unexpected "'velocity_change_threshold'" "KeyError")
  -- the plan's parameters have the types of their specifications
  | _, _, _ => .error (.unexpected "parameter of a wrong type" "TypeError")

structure SendMidiRuntime where
  nodeId : UUID
  service : MidiOutputService
  inputMissing : Bool
deriving DecidableEq

namespace SendMidiRuntime

/-- `__init__`. -/
def create (nodeId : UUID) : SendMidiRuntime := ⟨nodeId, MidiOutputService.initial, false⟩

/-- `request_panic` returns at once from a service that is closing. -/
def requestPanic (service : MidiOutputService) (publishGeneration : Nat) : MidiOutputService :=
  if service.closing || service.closed then service else service.recordPanic publishGeneration

/-- The expected failure of a node whose selected port is not in use. -/
def unavailable (port : String) (session : Session) : NodeFailure :=
  .expected "midi_output_unavailable"
    (session.lastError.getD ("MIDI output '" ++ port ++ "' is unavailable")) none

/-- The branch of `process` with a state on the input. -/
def publishState (runtime : SendMidiRuntime) (midi : MidiStateFrame)
    (parameters : Dict String ParameterValue) :
    SendMidiRuntime × Except NodeFailure (Dict String RuntimeValue) :=
  let runtime := { runtime with inputMissing := false }
  match outputConfiguration parameters with
  | .error failure => (runtime, .error failure)
  | .ok configuration =>
      let desired := ⟨midi.notes, configuration, midi.context.publishGeneration, midi.active⟩
      match publishDesired runtime.service desired with
      | (service, .error _) =>
          ({ runtime with service := service },
            .error (.unexpected "MIDI output service is closed" "RuntimeError"))
      | (service, .ok ()) =>
          ({ runtime with service := service },
            if configuration.outputPort ≠ "" ∧
                service.session.connectionState ∈ [ConnectionState.error, .unavailable] then
              .error (unavailable configuration.outputPort service.session)
            else .ok Dict.empty)

def process (runtime : SendMidiRuntime) (inputs : Dict String RuntimeValue)
    (parameters : Dict String ParameterValue) (context : FrameContext) :
    SendMidiRuntime × Except NodeFailure (Dict String RuntimeValue) :=
  match inputs.get? "midi" with
  | none => (runtime, .error (.unexpected "'midi'" "KeyError"))
  | some .noData =>
      if runtime.inputMissing then (runtime, .ok Dict.empty)
      else
        ({ runtime with
            service := requestPanic runtime.service context.publishGeneration
            inputMissing := true }, .ok Dict.empty)
  | some (.midi midi) => runtime.publishState midi parameters
  -- the input is typed as a MIDI state
  | some _ => (runtime, .error (.unexpected "input of a wrong type" "AttributeError"))

end SendMidiRuntime
end Nodes
end Synesthesia
