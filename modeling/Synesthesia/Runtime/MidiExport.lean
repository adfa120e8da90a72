import Synesthesia.Contracts.RuntimeValues
import Synesthesia.Midi.Smf
import Synesthesia.Midi.StateDiff

namespace Synesthesia
namespace Runtime

open Foundation Contracts Midi

/-!
# From collected samples to exported events

The last part of `runtime/midi_export.py`: an export has collected, for every
MIDI output, the desired state of each tick with the time of its frame.  The
states of an output are diffed in time order into note events; whatever still
sounds is released at the end of the timeline.
-/

inductive SourceState where
  | closed
  | ready
  | playing
  | paused
  | stopped
  | ended
  | reconnecting
  | unavailable
  | error
deriving DecidableEq, Repr

/-- The fields of a source's status that an export reads. -/
structure SourceStatus where
  nodeId : UUID
  state : SourceState
  processedIndex : Nat
  totalIndex : Option Nat
  regionEndS : Option ℚ
  lastError : Option String
deriving DecidableEq

/-- A desired state and the time of the frame it belongs to. -/
abbrev Sample := ℚ × MidiStateFrame

abbrev Collected := Dict UUID (List Sample)

/-- `max(values, default=0.0)`. -/
def maxOrZero (values : List ℚ) : ℚ := values.max?.getD 0

/-- End of the simulated timeline: the last captured event or the segment end. -/
def exportDuration (collected : Collected) (finalStatuses : List SourceStatus) : ℚ :=
  let lastSample := maxOrZero (collected.entries.flatMap (fun entry => entry.2.map Prod.fst))
  let segmentEnd := maxOrZero (finalStatuses.map (fun status => status.regionEndS.getD 0))
  max lastSample segmentEnd

/-- The notes of a state that are on: a zero velocity is off. -/
def current (state : MidiStateFrame) : Dict MidiNoteKey (Fin 128) :=
  state.notes.filter (fun entry => decide (0 < entry.2))

def noteOnEvent (timeS : ℚ) (entry : MidiNoteKey × Fin 128) : MidiExportEvent :=
  ⟨timeS, .noteOn, entry.1.channel, entry.1.note, entry.2⟩

def noteOffEvent (timeS : ℚ) (key : MidiNoteKey) : MidiExportEvent :=
  ⟨timeS, .noteOff, key.channel, key.note, 0⟩

/-- The events of one output, its samples already in time order: each state is
diffed against the previous keys, and what is left is released at the end. -/
def outputEvents (durationS : ℚ) : List MidiNoteKey → List Sample → List MidiExportEvent
  | previous, [] => previous.map (noteOffEvent durationS)
  | previous, (timeS, state) :: rest =>
      let diff := diffMidiStates previous (current state)
      diff.added.map (noteOnEvent timeS) ++ diff.removed.map (noteOffEvent timeS) ++
        outputEvents durationS (current state).keys rest

/-- The samples of an output in time order, ties in the order of collection. -/
def sortSamples (entries : List Sample) : List Sample := sortByKey Prod.fst entries

/-- Diff consecutive desired states into note events on the time axis. -/
def diffToEvents (collected : Collected) (durationS : ℚ) : List MidiExportEvent :=
  collected.entries.flatMap (fun entry => outputEvents durationS [] (sortSamples entry.2))

/-! ## Elementary facts -/

/-- No state holds a note of velocity zero, so nothing is dropped before the diff. -/
@[simp] theorem current_eq (state : MidiStateFrame) : current state = state.notes := by
  refine Dict.filter_eq_self ?_
  intro entry member
  rw [decide_eq_true_eq]
  exact Fin.pos_iff_ne_zero.mpr (state.active entry member)

theorem le_maxOrZero {value : ℚ} {values : List ℚ} (member : value ∈ values) :
    value ≤ maxOrZero values := by
  cases found : values.max? with
  | none =>
      rw [List.max?_eq_none_iff.mp found] at member
      cases member
  | some greatest =>
      rw [maxOrZero, found]
      exact (List.max?_eq_some_iff.mp found).2 value member

/-- The timeline ends no earlier than any sample. -/
theorem sample_le_exportDuration {collected : Collected} {statuses : List SourceStatus}
    {output : UUID} {entries : List Sample} {sample : Sample}
    (listed : (output, entries) ∈ collected.entries) (member : sample ∈ entries) :
    sample.1 ≤ exportDuration collected statuses := by
  refine le_trans (le_maxOrZero ?_) (le_max_left _ _)
  rw [List.mem_flatMap]
  exact ⟨(output, entries), listed, List.mem_map_of_mem member⟩

end Runtime
end Synesthesia
