import Synesthesia.Midi.SmfTotality

namespace Synesthesia
namespace Midi

open Foundation StandardMidiFile

/-!
# An encoded file reads back

A player that opens the file hears the ordered events, and between them
exactly the microseconds of each interval.  The interval is opened by its
tempo events and finished by the closing delta, so the two are played
together.
-/

/-- The time between consecutive moments, from a starting one. -/
def gapsFrom : ℚ → List ℚ → List ℚ
  | _, [] => []
  | previous, moment :: rest => (moment - previous) :: gapsFrom moment rest

/-- A player at the end of an interval: its tempo events are played and its
closing delta has elapsed. -/
def playInterval (playback : Playback) (us : Nat) : Playback :=
  ((intervalEvents us).foldl (Playback.play ticksPerQuarter) playback).elapse ticksPerQuarter
    (closingTicks us)

/-- A delta at a tempo of that many microseconds a tick. -/
theorem clock_elapse_tempo (playback : Playback) (ticks perTick : Nat)
    (tempo : playback.tempo = perTick * ticksPerQuarter) :
    (playback.elapse ticksPerQuarter ticks).clock = playback.clock + (ticks * perTick : Nat) := by
  have quarter : (ticksPerQuarter : ℚ) ≠ 0 := Nat.cast_ne_zero.mpr (by decide)
  rw [Playback.clock_elapse, tempo, Nat.cast_mul, Nat.cast_mul, ← mul_assoc,
    mul_div_assoc, div_self quarter, mul_one]

/-- Exactly the microseconds of the interval elapse, and nothing is heard. -/
theorem playInterval_spec (playback : Playback) (us : Nat) :
    (playInterval playback us).clock = playback.clock + us ∧
      (playInterval playback us).heard = playback.heard := by
  have divided := Nat.div_add_mod us (intervalTicks us)
  have opened : (playback.elapse ticksPerQuarter 0).clock = playback.clock := by
    rw [Playback.clock_elapse, Nat.cast_zero, zero_mul, zero_div, add_zero]
  unfold playInterval intervalEvents closingTicks
  by_cases zero : us = 0
  · rw [if_pos zero, if_pos zero, zero, Nat.cast_zero, add_zero]
    exact ⟨opened, rfl⟩
  · by_cases even : us % intervalTicks us = 0
    · rw [if_neg zero, if_neg zero, if_pos even, if_pos even, List.foldl_cons, List.foldl_nil,
        Playback.play]
      constructor
      · rw [clock_elapse_tempo _ _ (us / intervalTicks us) rfl, Playback.clock_setTempo, opened]
        rw [even, Nat.add_zero] at divided
        rw [divided]
      · rw [Playback.heard_elapse, Playback.heard_setTempo, Playback.heard_elapse]
    · rw [if_neg zero, if_neg zero, if_neg even, if_neg even, List.foldl_cons, List.foldl_cons,
        List.foldl_nil, Playback.play, Playback.play]
      constructor
      · rw [clock_elapse_tempo _ _ (us % intervalTicks us) rfl, Playback.clock_setTempo,
          clock_elapse_tempo _ _ (us / intervalTicks us) rfl, Playback.clock_setTempo, opened,
          Nat.one_mul, add_assoc, ← Nat.cast_add, divided]
      · rw [Playback.heard_elapse, Playback.heard_setTempo, Playback.heard_elapse,
          Playback.heard_setTempo, Playback.heard_elapse]

/-- The events of a track are heard in order, each after its interval. -/
theorem play_trackEvents (rounding : ℚ → ℚ) (ordered : List MidiExportEvent) (previousS : ℚ)
    (playback : Playback) :
    ∃ extra,
      ((trackEvents rounding previousS ordered).foldl
        (Playback.play ticksPerQuarter) playback).heard = playback.heard ++ extra ∧
      extra.map Prod.snd = ordered.map MidiExportEvent.message ∧
      ∀ moment, gapsFrom playback.clock (extra.map Prod.fst ++ [moment]) =
        (eventIntervals rounding previousS ordered).map (fun us : Nat => (us : ℚ)) ++ [moment -
          ((trackEvents rounding previousS ordered).foldl
            (Playback.play ticksPerQuarter) playback).clock] := by
  induction ordered generalizing previousS playback with
  | nil => exact ⟨[], by simp [trackEvents, eventIntervals, gapsFrom]⟩
  | cons event rest ih =>
      let us := playedUs rounding (max 0 (rounding (event.timeS - previousS)))
      rcases playInterval_spec playback us with ⟨clock, silent⟩
      rcases ih event.timeS
        ((playInterval playback us).hear event.status event.message) with
        ⟨extra, heard, messages, gaps⟩
      have played : (trackEvents rounding previousS (event :: rest)).foldl
          (Playback.play ticksPerQuarter) playback =
          (trackEvents rounding event.timeS rest).foldl (Playback.play ticksPerQuarter)
            ((playInterval playback us).hear event.status event.message) := by
        simp only [trackEvents, List.foldl_append, List.foldl_cons, Playback.play]
        rfl
      refine ⟨((playInterval playback us).clock, event.message) :: extra, ?_, ?_, ?_⟩
      · rw [played, heard, Playback.heard_hear, silent, List.append_assoc, List.singleton_append]
      · rw [List.map_cons, messages, List.map_cons]
      · intro moment
        rw [played, eventIntervals, List.map_cons, List.map_cons, List.cons_append, gapsFrom,
          List.cons_append, ← gaps moment, Playback.clock_hear, clock]
        simp only [add_sub_cancel_left, us]

section Encoder

variable {rounding : ℚ → ℚ} {events : List MidiExportEvent} {durationS : ℚ}

/-- An encoded track is played completely: the ordered events, and between them
and up to the end of the track the rounded intervals. -/
theorem readTrack_encodeTrack {track : Bytes}
    (encoded : encodeTrack rounding events durationS = .ok track) :
    ∃ playback, readTrack ticksPerQuarter track.length Playback.start track = some playback ∧
      playback.heard.map Prod.snd = (sortEvents events).map MidiExportEvent.message ∧
      gapsFrom 0 (playback.heard.map Prod.fst ++ [playback.clock]) =
        (playedIntervals rounding events durationS).map (fun us : Nat => (us : ℚ)) := by
  rw [encodeTrack_eq] at encoded
  split_ifs at encoded with fits
  cases encoded
  rcases timedEvents_writable fits with ⟨writable, closing⟩
  refine ⟨_, readTrack_writeTrack writable closing (length_lt_writeTrack _ _) Playback.start, ?_⟩
  rcases play_trackEvents rounding (sortEvents events) 0 Playback.start with
    ⟨extra, heard, messages, gaps⟩
  have tail := playInterval_spec
    ((trackEvents rounding 0 (sortEvents events)).foldl
      (Playback.play ticksPerQuarter) Playback.start)
    (tailUs rounding events durationS)
  have ended : ((timedEvents rounding events durationS).foldl (Playback.play ticksPerQuarter)
      Playback.start).elapse ticksPerQuarter (closingTicks (tailUs rounding events durationS)) =
      playInterval ((trackEvents rounding 0 (sortEvents events)).foldl
        (Playback.play ticksPerQuarter) Playback.start) (tailUs rounding events durationS) := by
    rw [timedEvents, List.foldl_append, playInterval]
  simp only [ended, tail.1, tail.2, heard]
  refine ⟨messages, ?_⟩
  refine (gaps _).trans ?_
  simp [playedIntervals]

/-- A file that was encoded is read back completely: its header and length are
those of its bytes, its messages are the ordered events, and the times between
them and up to the end of the track are the rounded intervals. -/
theorem readFile_encodeStandardMidiFile {file : Bytes}
    (encoded : encodeStandardMidiFile rounding events durationS = .ok file) :
    ∃ read, readFile file = some read ∧
      read.division = 960 ∧ read.trackLength + 22 = file.length ∧
      read.messages.map Prod.snd = (sortEvents events).map MidiExportEvent.message ∧
      gapsFrom 0 (read.messages.map Prod.fst ++ [read.endTime]) =
        (playedIntervals rounding events durationS).map (fun us : Nat => (us : ℚ)) := by
  rcases encodeStandardMidiFile_eq_ok.mp encoded with ⟨_, fits, short, rfl⟩
  have track : encodeTrack rounding events durationS =
      .ok (trackBytes rounding events durationS) := by
    rw [encodeTrack_eq]
    exact if_pos fits
  rcases readTrack_encodeTrack track with ⟨playback, played, messages, gaps⟩
  refine ⟨_, readFile_fileBytes (by decide : ticksPerQuarter < 32768) short played, rfl, ?_,
    messages, gaps⟩
  rw [fileBytes_length]

end Encoder

/-- Two notes, the first of them of 38.5 microseconds, and a tail. -/
def shortNote : List MidiExportEvent := [⟨0, .noteOn, 0, 60, 100⟩,
  ⟨PyFloat.nearest (385 / 10000000), .noteOff, 0, 60, 64⟩, ⟨1 / 2, .noteOn, 3, 72, 1⟩]

/-- The double nearest to the short interval is more than 38.5 microseconds, but
their product in doubles is not, and is rounded to 38. -/
theorem readFile_encodeStandardMidiFile_shortNote :
    ∃ file, encodeStandardMidiFile PyFloat.nearest shortNote (3 / 4) = .ok file ∧
      ∃ read, readFile file = some read ∧
        read.division = 960 ∧ read.trackLength + 22 = file.length ∧
        read.messages.map Prod.snd = (sortEvents shortNote).map MidiExportEvent.message ∧
        gapsFrom 0 (read.messages.map Prod.fst ++ [read.endTime]) = [0, 38, 499962, 250000] := by
  have succeeds : (encodeStandardMidiFile PyFloat.nearest shortNote (3 / 4)).isOk = true := by
    decide +kernel
  have played : playedIntervals PyFloat.nearest shortNote (3 / 4) = [0, 38, 499962, 250000] := by
    decide +kernel
  rcases encoded : encodeStandardMidiFile PyFloat.nearest shortNote (3 / 4) with error | file
  · rw [encoded] at succeeds
    cases succeeds
  · have reads := readFile_encodeStandardMidiFile encoded
    rw [played] at reads
    exact ⟨file, rfl, reads⟩

end Midi
end Synesthesia
