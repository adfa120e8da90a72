import Mathlib
import Synesthesia.Foundation.Floats
import Synesthesia.Foundation.SortByKey
import Synesthesia.Foundation.StandardMidiFile

namespace Synesthesia
namespace Midi

open Foundation

/-!
# The Standard MIDI File encoder

`midi/smf.py`: a format-0 file with one track.  Every interval between events
is written as tempo events that make the tick grid span exactly the interval,
in microseconds.  The encoder's arithmetic on times in seconds is exact up to
`rounding`, which every difference and product passes through: `PyFloat.nearest`
for the doubles of the source, `id` for exact times.  Intervals near the end of
the range of the doubles are beyond what a tempo holds and fail either way.
-/

inductive EventKind where
  | noteOff
  | noteOn
deriving DecidableEq, Repr

/-- One MIDI event on the absolute video-time axis.  The ranges that
`__post_init__` checks are the types of the fields. -/
structure MidiExportEvent where
  timeS : ℚ
  kind : EventKind
  channel : Fin 16
  note : Fin 128
  velocity : Fin 128
deriving DecidableEq

/-- The checks of `__post_init__`, in order, on unchecked fields. -/
def MidiExportEvent.create (timeS : ℚ) (kind : String) (channel note velocity : Int) :
    Except PyError MidiExportEvent :=
  if kind ≠ "note_on" ∧ kind ≠ "note_off" then
    .error (.valueError "kind must be 'note_on' or 'note_off'")
  else if inChannel : 0 ≤ channel ∧ channel ≤ 15 then
    if inNote : 0 ≤ note ∧ note ≤ 127 then
      if inVelocity : 0 ≤ velocity ∧ velocity ≤ 127 then
        .ok {
          timeS := timeS
          kind := if kind = "note_on" then .noteOn else .noteOff
          channel := ⟨channel.toNat, by omega⟩
          note := ⟨note.toNat, by omega⟩
          velocity := ⟨velocity.toNat, by omega⟩ }
      else .error (.valueError "velocity must be in 0..127")
    else .error (.valueError "note must be in 0..127")
  else .error (.valueError "channel must be in 0..15")

/-! ## The encoder -/

def ticksPerQuarter : Nat := 960
def minTempoUs : Nat := 31
def maxTempoUs : Nat := 1677215

/-- The loop of `_variable_length`: octets go in front while bits remain. -/
def variableLengthLoop (remaining : Nat) (octets : Bytes) : Bytes :=
  if remaining = 0 then octets
  else variableLengthLoop (remaining >>> 7) (UInt8.ofNat (0x80 ||| (remaining &&& 0x7F)) :: octets)
termination_by remaining
decreasing_by
  rw [Nat.shiftRight_eq_div_pow]
  exact Nat.div_lt_self (Nat.pos_of_ne_zero ‹_›) (by decide)

/-- Encode a delta time as a MIDI variable-length quantity. -/
def variableLength (value : Nat) : Bytes :=
  variableLengthLoop (value >>> 7) [UInt8.ofNat (value &&& 0x7F)]

section Encoder

variable (rounding : ℚ → ℚ)

/-- `round(interval_s * 1_000_000)`. -/
def intervalUs (intervalS : ℚ) : Nat := (roundHalfEven (rounding (intervalS * 1000000))).toNat

/-- The ticks of an interval: `-(-us * 960 // MAX)` is the quotient rounded up. -/
def intervalTicks (us : Nat) : Nat := max 1 ((us * ticksPerQuarter) ⌈/⌉ maxTempoUs)

/-- Delta that opens the event paired with `writeInterval`: one tick when the
interval left a remainder, all its ticks otherwise. -/
def closingDelta (intervalS : ℚ) : Bytes :=
  if intervalS ≤ 0 then [0x00]
  else
    let us := intervalUs rounding intervalS
    if us < minTempoUs then [0x00]
    else
      let ticks := intervalTicks us
      if us % ticks ≠ 0 then [0x01] else variableLength ticks

def writeTempo (track : Bytes) (tempoUsPerQuarter : Nat) : Except PyError Bytes := do
  let encoded ← toBytesBig 3 tempoUsPerQuarter
  return track ++ [0xFF, 0x51, 0x03] ++ encoded

/-- Emit the tempo change and delta ticks that elapse the interval. -/
def writeInterval (track : Bytes) (intervalS : ℚ) : Except PyError Bytes :=
  if intervalS ≤ 0 then .ok track
  else
    let us := intervalUs rounding intervalS
    if us < minTempoUs then .ok track
    else do
      let ticks := intervalTicks us
      let quotient := us / ticks
      let remainder := us % ticks
      let track ← writeTempo (track ++ [0x00]) (quotient * ticksPerQuarter)
      if remainder ≠ 0 then
        writeTempo (track ++ variableLength ticks) (remainder * ticksPerQuarter)
      else return track

/-- `bytes((status | channel, note, velocity))` of one event; a note-off is
written with velocity 0. -/
def eventBytes (event : MidiExportEvent) : Bytes :=
  let status := if event.kind = .noteOn then 0x90 else 0x80
  let velocity := if event.kind = .noteOn then event.velocity.val else 0
  [UInt8.ofNat (status ||| event.channel.val), UInt8.ofNat event.note.val, UInt8.ofNat velocity]

/-- `(time_s, channel, note, kind)`; as strings, `"note_off" < "note_on"`. -/
def sortKey (event : MidiExportEvent) : ℚ ×ₗ Fin 16 ×ₗ Fin 128 ×ₗ Bool :=
  toLex (event.timeS, toLex (event.channel, toLex (event.note, decide (event.kind = .noteOn))))

def sortEvents (events : List MidiExportEvent) : List MidiExportEvent := sortByKey sortKey events

/-- One round of the loop over the ordered events: the track so far and the
time of the previous event. -/
def writeEvent (written : Bytes × ℚ) (event : MidiExportEvent) : Except PyError (Bytes × ℚ) := do
  let intervalS := max 0 (rounding (event.timeS - written.2))
  let track ← writeInterval rounding written.1 intervalS
  return (track ++ closingDelta rounding intervalS ++ eventBytes event, event.timeS)

/-- The track chunk's content: the events, then the tail up to the duration
and the end of the track. -/
def encodeTrack (events : List MidiExportEvent) (durationS : ℚ) : Except PyError Bytes := do
  let (track, previousTimeS) ← (sortEvents events).foldlM (writeEvent rounding) ([], 0)
  let tailS := max 0 (rounding (durationS - previousTimeS))
  let track ← writeInterval rounding track tailS
  return track ++ closingDelta rounding tailS ++ [0xFF, 0x2F, 0x00]

/-- Encode events as a format-0 Standard MIDI File. -/
def encodeStandardMidiFile (events : List MidiExportEvent) (durationS : ℚ) :
    Except PyError Bytes :=
  if durationS < 0 then .error (.valueError "duration must not be negative")
  else do
    let out : Bytes := [0x4D, 0x54, 0x68, 0x64] ++ bigEndian 4 6 ++ bigEndian 2 0 ++
      bigEndian 2 1 ++ bigEndian 2 ticksPerQuarter ++ [0x4D, 0x54, 0x72, 0x6B]
    let track ← encodeTrack rounding events durationS
    let length ← toBytesBig 4 track.length
    return out ++ length ++ track

end Encoder

/-! ## Arithmetic of one interval -/

theorem intervalTicks_pos (us : Nat) : 0 < intervalTicks us :=
  Nat.lt_of_lt_of_le Nat.one_pos (le_max_left _ _)

theorem le_ticks_mul (us : Nat) : us * ticksPerQuarter ≤ maxTempoUs * intervalTicks us :=
  (ceilDiv_le_iff_le_mul (by decide)).mp (le_max_right _ _)

/-- The quotient tempo never exceeds the encoder's own maximum. -/
theorem quotientTempo_le (us : Nat) :
    us / intervalTicks us * ticksPerQuarter ≤ maxTempoUs := by
  have positive := intervalTicks_pos us
  have spread : us / intervalTicks us * ticksPerQuarter * intervalTicks us ≤
      maxTempoUs * intervalTicks us :=
    calc us / intervalTicks us * ticksPerQuarter * intervalTicks us
        = us / intervalTicks us * intervalTicks us * ticksPerQuarter := by ring
      _ ≤ us * ticksPerQuarter := Nat.mul_le_mul_right _ (Nat.div_mul_le_self _ _)
      _ ≤ maxTempoUs * intervalTicks us := le_ticks_mul us
  exact Nat.le_of_mul_le_mul_right spread positive

/-- An interval of more than one tick needs all of them: one fewer would put
the tempo above the maximum. -/
theorem ticks_minimal {us : Nat} (several : 1 < intervalTicks us) :
    maxTempoUs * (intervalTicks us - 1) < us * ticksPerQuarter := by
  have rounded : intervalTicks us = (us * ticksPerQuarter) ⌈/⌉ maxTempoUs := by
    unfold intervalTicks at several ⊢
    omega
  have tooFew : ¬ (us * ticksPerQuarter) ⌈/⌉ maxTempoUs ≤ intervalTicks us - 1 := by omega
  rw [ceilDiv_le_iff_le_mul (by decide : 0 < maxTempoUs)] at tooFew
  omega

/-! ## The track as timed events

What the encoder writes, before it is turned into bytes.  The bytes of these
events are the track whenever every tempo fits its three bytes.
-/

section Track

variable (rounding : ℚ → ℚ)

/-- What a player hears of an interval: its rounded microseconds, or nothing
when they are below the shortest tempo step. -/
def playedUs (intervalS : ℚ) : Nat :=
  if intervalS ≤ 0 ∨ intervalUs rounding intervalS < minTempoUs then 0
  else intervalUs rounding intervalS

/-- The intervals that open the ordered events, counted from `previousS`. -/
def eventIntervals : ℚ → List MidiExportEvent → List Nat
  | _, [] => []
  | previousS, event :: rest =>
      playedUs rounding (max 0 (rounding (event.timeS - previousS))) ::
        eventIntervals event.timeS rest

/-- The time of the last ordered event, from which the tail is counted. -/
def lastTime : ℚ → List MidiExportEvent → ℚ
  | previousS, [] => previousS
  | _, event :: rest => lastTime event.timeS rest

def tailUs (events : List MidiExportEvent) (durationS : ℚ) : Nat :=
  playedUs rounding (max 0 (rounding (durationS - lastTime 0 (sortEvents events))))

/-- Every interval of a track: between the ordered events, from time 0, and
from the last event to the duration. -/
def playedIntervals (events : List MidiExportEvent) (durationS : ℚ) : List Nat :=
  eventIntervals rounding 0 (sortEvents events) ++ [tailUs rounding events durationS]

/-- The tempo events of an interval with the delta that opens each. -/
def intervalEvents (us : Nat) : List StandardMidiFile.TimedEvent :=
  if us = 0 then []
  else (0, .tempo (us / intervalTicks us * ticksPerQuarter)) ::
    if us % intervalTicks us = 0 then []
    else [(intervalTicks us, .tempo (us % intervalTicks us * ticksPerQuarter))]

/-- The closing delta of an interval as a number of ticks. -/
def closingTicks (us : Nat) : Nat :=
  if us = 0 then 0 else if us % intervalTicks us = 0 then intervalTicks us else 1

/-- The channel message of an export event: note-on 9, note-off 8, the latter
with velocity 0. -/
def MidiExportEvent.message (event : MidiExportEvent) : StandardMidiFile.ChannelMessage :=
  ⟨if event.kind = .noteOn then 9 else 8, event.channel,
    [event.note, if event.kind = .noteOn then event.velocity else 0]⟩

def MidiExportEvent.status (event : MidiExportEvent) : UInt8 :=
  UInt8.ofNat ((if event.kind = .noteOn then 0x90 else 0x80) ||| event.channel.val)

/-- The events of a track before its end. -/
def trackEvents : ℚ → List MidiExportEvent → List StandardMidiFile.TimedEvent
  | _, [] => []
  | previousS, event :: rest =>
      let us := playedUs rounding (max 0 (rounding (event.timeS - previousS)))
      intervalEvents us ++ (closingTicks us, .message event.status event.message) ::
        trackEvents event.timeS rest

/-- All timed events of a track but the end marker. -/
def timedEvents (events : List MidiExportEvent) (durationS : ℚ) :
    List StandardMidiFile.TimedEvent :=
  trackEvents rounding 0 (sortEvents events) ++ intervalEvents (tailUs rounding events durationS)

/-- The track's bytes. -/
def trackBytes (events : List MidiExportEvent) (durationS : ℚ) : Bytes :=
  StandardMidiFile.writeTrack (timedEvents rounding events durationS)
    (closingTicks (tailUs rounding events durationS))

end Track

/-! ## The encoder writes the timed events -/

theorem variableLengthLoop_eq (remaining : Nat) (octets : Bytes) :
    variableLengthLoop remaining octets = continued remaining ++ octets := by
  induction remaining using Nat.strongRecOn generalizing octets with
  | ind remaining ih =>
      rw [variableLengthLoop]
      by_cases zero : remaining = 0
      · simp [zero, continued_zero]
      · have shifted : remaining >>> 7 = remaining / 128 := Nat.shiftRight_eq_div_pow remaining 7
        have smaller : remaining / 128 < remaining :=
          Nat.div_lt_self (Nat.pos_of_ne_zero zero) (by decide)
        have low : remaining &&& 0x7F = remaining % 128 :=
          Nat.and_two_pow_sub_one_eq_mod remaining 7
        have octet : 0x80 ||| remaining % 128 = 128 + remaining % 128 := by
          have := Nat.two_pow_add_eq_or_of_lt (i := 7) (b := remaining % 128)
            (Nat.mod_lt _ (by decide)) 1
          simpa using this.symm
        rw [if_neg zero, shifted, low, octet, ih _ smaller,
          continued_of_pos zero, List.append_assoc, List.singleton_append]

theorem variableLength_eq (value : Nat) : variableLength value = variableLengthBytes value := by
  rw [variableLength, variableLengthLoop_eq, variableLengthBytes,
    Nat.shiftRight_eq_div_pow value 7, show value &&& 0x7F = value % 128 from
      Nat.and_two_pow_sub_one_eq_mod value 7]

section Written

variable (rounding : ℚ → ℚ) {intervalS : ℚ}

theorem playedUs_of_nonpos (notPositive : intervalS ≤ 0) : playedUs rounding intervalS = 0 :=
  if_pos (Or.inl notPositive)

/-- An interval that is played has a positive number of microseconds, those of
the encoder's own rounding. -/
theorem playedUs_of_long (positive : ¬ intervalS ≤ 0)
    (long : ¬ intervalUs rounding intervalS < minTempoUs) :
    playedUs rounding intervalS = intervalUs rounding intervalS ∧
      intervalUs rounding intervalS ≠ 0 := by
  refine ⟨if_neg (not_or.mpr ⟨positive, long⟩), ?_⟩
  intro zero
  rw [zero] at long
  exact long (by decide)

theorem closingDelta_eq (intervalS : ℚ) :
    closingDelta rounding intervalS =
      variableLengthBytes (closingTicks (playedUs rounding intervalS)) := by
  have none : variableLengthBytes 0 = [0x00] := by simp [variableLengthBytes, continued_zero]
  have one : variableLengthBytes 1 = [0x01] := by simp [variableLengthBytes, continued_zero]
  unfold closingDelta
  by_cases empty : intervalS ≤ 0
  · rw [if_pos empty, playedUs_of_nonpos rounding empty]
    exact none.symm
  · by_cases short : intervalUs rounding intervalS < minTempoUs
    · rw [if_neg empty, playedUs, if_pos (Or.inr short)]
      simp only [if_pos short]
      exact none.symm
    · rcases playedUs_of_long rounding empty short with ⟨played, positive⟩
      simp only [if_neg empty, if_neg short, played, closingTicks, if_neg positive]
      by_cases even : intervalUs rounding intervalS %
          intervalTicks (intervalUs rounding intervalS) = 0
      · rw [if_neg (not_not.mpr even), if_pos even, variableLength_eq]
      · rw [if_pos even, if_neg even, one]

end Written

theorem eventBytes_eq (event : MidiExportEvent) :
    eventBytes event = (StandardMidiFile.TrackEvent.message event.status event.message).bytes := by
  rfl

end Midi
end Synesthesia
