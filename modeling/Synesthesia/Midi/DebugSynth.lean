import Mathlib
import Synesthesia.Contracts.RuntimeValues
import Synesthesia.Foundation.SortByKey
import Synesthesia.Midi.StateDiff
import Synesthesia.Midi.StateOrdering

namespace Synesthesia
namespace Midi

open Foundation Contracts

/-!
# The debug synth

The voice pool of `midi/debug_synth.py`.  The graph thread replaces the desired
snapshot, the audio callback reads it once a block and moves the voices.  What
a voice sounds like is left out, the levels of its envelope are not: they
decide which voice is stolen and when a releasing voice ends.
-/

/-! ## Configuration and snapshots -/

inductive SynthWaveform where
  | sine
  | triangle
  | square
deriving DecidableEq, Repr

/-- The fields check themselves in `__post_init__`. -/
structure SynthConfiguration where
  waveform : SynthWaveform
  volume : ℚ
  attackMs : ℚ
  releaseMs : ℚ
  maxVoices : Nat
  outputDevice : String
  sampleRate : Nat
  blockSize : Nat
  volume_range : 0 ≤ volume ∧ volume ≤ 1
  times_nonneg : 0 ≤ attackMs ∧ 0 ≤ releaseMs
  maxVoices_range : 1 ≤ maxVoices ∧ maxVoices ≤ 128
  rates_pos : 0 < sampleRate ∧ 0 < blockSize
deriving DecidableEq

/-- One voice at a low rate. -/
def oneVoice : SynthConfiguration where
  waveform := .sine
  volume := 0
  attackMs := 0
  releaseMs := 0
  maxVoices := 1
  outputDevice := ""
  sampleRate := 8000
  blockSize := 4
  volume_range := by norm_num
  times_nonneg := by norm_num
  maxVoices_range := by norm_num
  rates_pos := by norm_num

/-- Notes as key, note and velocity in the order of their keys, and the same
notes by key. -/
structure DesiredSnapshot where
  notes : List (Int × Int × Nat)
  velocityByKey : Dict Int Nat
  panicGeneration : Nat
deriving DecidableEq

def DesiredSnapshot.silent (panicGeneration : Nat) : DesiredSnapshot :=
  ⟨[], Dict.empty, panicGeneration⟩

/-- The one integer that names a channel and a note. -/
def MidiNoteKey.flat (key : MidiNoteKey) : Int := key.channel.val * 128 + key.note.val

/-- The notes of a frame as keys and velocities. -/
def flatNotes (notes : Dict MidiNoteKey (Fin 128)) : List (Int × Nat) :=
  notes.entries.map (fun entry => (MidiNoteKey.flat entry.1, entry.2.val))

/-- The loudest notes, of equally loud ones those with lower keys. -/
def loudest (maxVoices : Nat) (notes : List (Int × Nat)) : List (Int × Nat) :=
  if maxVoices < notes.length then
    (sortByKey (fun note => toLex (-(note.2 : Int), note.1)) notes).take maxVoices
  else notes

/-- The snapshot that a frame with notes publishes. -/
def DesiredSnapshot.ofNotes (maxVoices : Nat) (notes : Dict MidiNoteKey (Fin 128))
    (panicGeneration : Nat) : DesiredSnapshot :=
  let ordered := sortByKey Prod.fst (loudest maxVoices (flatNotes notes))
  { notes := ordered.map (fun note => (note.1, note.1 % 128, note.2))
    velocityByKey := Dict.ofEntries ordered
    panicGeneration := panicGeneration }

/-! ## Voices -/

inductive Stage where
  | inactive
  | attack
  | sustain
  | release
deriving DecidableEq, Repr

/-- One column of the arrays of the pool. -/
structure Voice where
  key : Int
  note : Int
  velocity : ℚ
  envelope : ℚ
  stage : Stage
  age : Nat
deriving DecidableEq

namespace Voice

def cleared (age : Nat) : Voice := ⟨-1, 0, 0, 0, .inactive, age⟩

def isActive (voice : Voice) : Bool := decide (voice.stage ≠ .inactive)

/-- A voice that `_select_voice` may hand out. -/
def isReplaceable (byKey : Dict Int Nat) (voice : Voice) : Bool :=
  !voice.isActive || decide ((byKey.get? voice.key).getD 0 = 0)

/-- `_clear_voices` keeps the note and the age. -/
def clear (voice : Voice) : Voice :=
  { voice with key := -1, velocity := 0, envelope := 0, stage := .inactive }

end Voice

/-- The levels of an envelope at the end of a block, from the level before it,
as the arithmetic of the callback gives them. -/
structure EnvelopeRamps where
  attackEnd : ℚ → ℚ
  releaseEnd : ℚ → ℚ

/-- The ramps without rounding. -/
def SynthConfiguration.ramps (configuration : SynthConfiguration) : EnvelopeRamps where
  attackEnd level := min 1 (level + configuration.blockSize /
    max 1 (configuration.attackMs * configuration.sampleRate / 1000))
  releaseEnd level := max 0 (level - configuration.blockSize /
    max 1 (configuration.releaseMs * configuration.sampleRate / 1000))

/-- `_render_voice` of a voice that sounds. -/
def renderVoice (ramps : EnvelopeRamps) (voice : Voice) : Voice :=
  match voice.stage with
  | .inactive => voice
  | .sustain => voice
  | .attack =>
      let level := ramps.attackEnd voice.envelope
      { voice with envelope := level, stage := if 1 ≤ level then .sustain else .attack }
  | .release =>
      let level := ramps.releaseEnd voice.envelope
      if level ≤ 0 then { voice with envelope := level, stage := .inactive, key := -1 }
      else { voice with envelope := level }

/-- The loop of `_select_voice`, with the best voice so far and its index. -/
def selectFrom (byKey : Dict Int Nat) : Nat → Option (Nat × Voice) → List Voice → Option Nat
  | _, selected, [] => selected.map Prod.fst
  | index, selected, voice :: rest =>
      if voice.stage = .inactive then some index
      else if (byKey.get? voice.key).getD 0 ≠ 0 then selectFrom byKey (index + 1) selected rest
      else
        match selected with
        | none => selectFrom byKey (index + 1) (some (index, voice)) rest
        | some (chosen, best) =>
            if voice.envelope < best.envelope ∨
                voice.envelope = best.envelope ∧ voice.age < best.age then
              selectFrom byKey (index + 1) (some (index, voice)) rest
            else selectFrom byKey (index + 1) (some (chosen, best)) rest

/-- `_select_voice`. -/
def selectVoice (desired : DesiredSnapshot) (voices : List Voice) : Except PyError Nat :=
  match selectFrom desired.velocityByKey 0 none voices with
  | some index => .ok index
  | none => .error (.runtimeError "No replaceable synth voice is available")

def activeKeys (voices : List Voice) : List Int :=
  (voices.filter Voice.isActive).map Voice.key

/-- What `_reconcile` does to a voice that is held. -/
def updateHeld (byKey : Dict Int Nat) (removed : List Int) (voice : Voice) :
    Except PyError Voice :=
  if voice.stage = .inactive then .ok voice
  else if voice.key ∈ removed then .ok { voice with stage := .release }
  else
    match byKey.get? voice.key with
    | none => .error (.keyError (toString voice.key))
    | some velocity => .ok { voice with
        velocity := velocity / 127
        stage := if voice.stage = .release then .attack else voice.stage }

/-- `_reconcile` lets the notes enter that no voice holds. -/
def enterNotes (desired : DesiredSnapshot) :
    List (Int × Nat) → Nat × List Voice → Except PyError (Nat × List Voice)
  | [], pool => .ok pool
  | (key, velocity) :: rest, (ageCounter, voices) => do
      let index ← selectVoice desired voices
      enterNotes desired rest (ageCounter + 1, voices.set index
        { key := key
          note := key % 128
          velocity := velocity / 127
          envelope := 0
          stage := .attack
          age := ageCounter + 1 })

/-- `_reconcile`, on the age counter and the voices. -/
def reconcile (desired : DesiredSnapshot) (ageCounter : Nat) (voices : List Voice) :
    Except PyError (Nat × List Voice) := do
  let diff := diffMidiStates (activeKeys voices)
    (desired.velocityByKey.filter (fun entry => decide (0 < entry.2)))
  let held ← voices.mapM (updateHeld desired.velocityByKey diff.removed)
  enterNotes desired diff.added (ageCounter, held)

/-! ## The synth -/

structure DebugSynth where
  configuration : SynthConfiguration
  voices : List Voice
  ageCounter : Nat
  desired : DesiredSnapshot
  seenPanicGeneration : Nat
  ordering : StateOrdering
  closed : Bool
deriving DecidableEq

namespace DebugSynth

/-- `__init__`. -/
def initial (configuration : SynthConfiguration) : DebugSynth where
  configuration := configuration
  voices := List.replicate configuration.maxVoices (Voice.cleared 0)
  ageCounter := 0
  desired := .silent 0
  seenPanicGeneration := 0
  ordering := ⟨0⟩
  closed := false

def update (synth : DebugSynth) (state : MidiStateFrame) : DebugSynth :=
  if synth.closed then synth
  else if synth.ordering.isStale state.context.publishGeneration then synth
  else if state.notes.entries = [] then
    if synth.desired.notes = [] then synth
    else { synth with desired := .silent synth.desired.panicGeneration }
  else
    { synth with
      desired := .ofNotes synth.configuration.maxVoices state.notes synth.desired.panicGeneration }

def panic (synth : DebugSynth) (publishGeneration : Nat) : DebugSynth :=
  { synth with
    desired := .silent (synth.desired.panicGeneration + 1)
    ordering := synth.ordering.recordPanic publishGeneration }

/-- `close`, up to the stream. -/
def close (synth : DebugSynth) : DebugSynth :=
  if synth.closed then synth
  else { synth with desired := .silent (synth.desired.panicGeneration + 1), closed := true }

/-- `callback` on a buffer of the given shape. -/
def callback (ramps : EnvelopeRamps) (synth : DebugSynth) (frames : Nat) (shape : List Nat) :
    Except PyError DebugSynth :=
  if synth.closed = true ∨ frames ≠ synth.configuration.blockSize then .ok synth
  else if shape ≠ [frames, 2] then .ok synth
  else if synth.seenPanicGeneration ≠ synth.desired.panicGeneration then
    .ok { synth with
      voices := synth.voices.map Voice.clear
      seenPanicGeneration := synth.desired.panicGeneration }
  else do
    let pool ← reconcile synth.desired synth.ageCounter synth.voices
    .ok { synth with ageCounter := pool.1, voices := pool.2.map (renderVoice ramps) }

inductive Step where
  | update (state : MidiStateFrame)
  | panic (publishGeneration : Nat)
  | close
  | callback (frames : Nat) (shape : List Nat)

/-- One call; a callback that raises has no next state. -/
def step (ramps : EnvelopeRamps) (synth : DebugSynth) : Step → Option DebugSynth
  | .update state => some (synth.update state)
  | .panic publishGeneration => some (synth.panic publishGeneration)
  | .close => some synth.close
  | .callback frames shape => (synth.callback ramps frames shape).toOption

end DebugSynth
end Midi
end Synesthesia
