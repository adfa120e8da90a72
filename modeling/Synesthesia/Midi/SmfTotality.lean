import Synesthesia.Midi.Smf

namespace Synesthesia
namespace Midi

open Foundation

/-!
# When the encoder returns a file

The quotient tempo of an interval is bounded by the encoder's own constant,
the remainder tempo is not: it is the remainder of a division by the number of
ticks, which grows with the interval.  The encoder returns a file exactly when
no interval leaves a remainder of 17477 ticks' worth or more.
-/

/-- The remainder tempo of the interval fits three bytes. -/
def RemainderFits (us : Nat) : Prop := us % intervalTicks us < 17477

instance (us : Nat) : Decidable (RemainderFits us) :=
  inferInstanceAs (Decidable (us % intervalTicks us < 17477))

theorem remainderTempo_lt_iff (us : Nat) :
    us % intervalTicks us * ticksPerQuarter < 256 ^ 3 ↔ RemainderFits us := by
  unfold RemainderFits ticksPerQuarter
  omega

theorem remainderFits_zero : RemainderFits 0 := by
  unfold RemainderFits
  rw [Nat.zero_mod]
  decide

/-- A remainder tempo that fits keeps the delta within four base-128 digits. -/
theorem intervalTicks_lt {us : Nat} (fits : RemainderFits us) : intervalTicks us < 2 ^ 28 := by
  by_contra many
  have positive := intervalTicks_pos us
  have upper := le_ticks_mul us
  have lower : maxTempoUs * (intervalTicks us - 1) < us * ticksPerQuarter :=
    ticks_minimal (by omega)
  have divided := Nat.div_add_mod us (intervalTicks us)
  unfold RemainderFits at fits
  unfold maxTempoUs ticksPerQuarter at upper lower
  have quotient_ge : 1746 ≤ us / intervalTicks us := by
    rw [Nat.le_div_iff_mul_le positive]
    omega
  have quotient_lt : us / intervalTicks us < 1748 := by
    rw [Nat.div_lt_iff_lt_mul positive]
    omega
  have cases_quotient : us / intervalTicks us = 1746 ∨ us / intervalTicks us = 1747 := by omega
  rcases cases_quotient with low | high
  · rw [low] at divided
    omega
  · rw [high] at divided
    omega

/-! ## One interval -/

theorem writeTempo_of_fits {track : Bytes} {tempo : Nat} (fits : tempo < 256 ^ 3) :
    writeTempo track tempo = .ok (track ++ [0xFF, 0x51, 0x03] ++ bigEndian 3 tempo) := by
  rw [writeTempo, toBytesBig_of_lt fits]
  rfl

theorem writeTempo_of_not_fits {track : Bytes} {tempo : Nat} (tooLong : ¬ tempo < 256 ^ 3) :
    writeTempo track tempo = .error (.overflowError "int too big to convert") := by
  rw [writeTempo, toBytesBig_of_not_lt tooLong]
  rfl

section Encoder

variable {rounding : ℚ → ℚ} {events : List MidiExportEvent} {durationS : ℚ}

/-- An interval adds the bytes of its tempo events, or overflows on the
remainder tempo. -/
theorem writeInterval_eq (track : Bytes) (intervalS : ℚ) :
    writeInterval rounding track intervalS =
      if RemainderFits (playedUs rounding intervalS) then
        .ok (track ++
          (intervalEvents (playedUs rounding intervalS)).flatMap StandardMidiFile.TimedEvent.bytes)
      else .error (.overflowError "int too big to convert") := by
  unfold writeInterval
  by_cases empty : intervalS ≤ 0
  · rw [if_pos empty, playedUs_of_nonpos rounding empty, if_pos remainderFits_zero]
    simp [intervalEvents]
  · by_cases short : intervalUs rounding intervalS < minTempoUs
    · rw [if_neg empty, show playedUs rounding intervalS = 0 from if_pos (Or.inr short),
        if_pos remainderFits_zero]
      simp [intervalEvents, short]
    · rcases playedUs_of_long rounding empty short with ⟨played, positive⟩
      have quotientFits : intervalUs rounding intervalS /
          intervalTicks (intervalUs rounding intervalS) * ticksPerQuarter < 256 ^ 3 :=
        (quotientTempo_le _).trans_lt (by decide)
      have zeroDelta : variableLengthBytes 0 = [0x00] := by
        simp [variableLengthBytes, continued_zero]
      simp only [if_neg empty, if_neg short, played, writeTempo_of_fits quotientFits,
        intervalEvents, if_neg positive]
      by_cases even : intervalUs rounding intervalS %
          intervalTicks (intervalUs rounding intervalS) = 0
      · have fits : RemainderFits (intervalUs rounding intervalS) := by
          rw [RemainderFits, even]
          decide
        rw [if_pos fits, if_pos even]
        simp [even, StandardMidiFile.TimedEvent.bytes, StandardMidiFile.TrackEvent.bytes,
          zeroDelta, bind, Except.bind, pure, Except.pure]
      · by_cases fits : RemainderFits (intervalUs rounding intervalS)
        · rw [if_pos fits, if_neg even]
          simp [even, StandardMidiFile.TimedEvent.bytes, StandardMidiFile.TrackEvent.bytes,
            zeroDelta, bind, Except.bind, variableLength_eq,
            writeTempo_of_fits ((remainderTempo_lt_iff _).mpr fits)]
        · rw [if_neg fits]
          simp [even, bind, Except.bind,
            writeTempo_of_not_fits (mt (remainderTempo_lt_iff _).mp fits)]

/-! ## The whole track -/

/-- The bytes of the ordered events, or the overflow of the first interval
whose remainder tempo does not fit. -/
theorem writeEvents_eq (ordered : List MidiExportEvent) (track : Bytes) (previousS : ℚ) :
    ordered.foldlM (writeEvent rounding) (track, previousS) =
      if ∀ us ∈ eventIntervals rounding previousS ordered, RemainderFits us then
        .ok (track ++
          (trackEvents rounding previousS ordered).flatMap StandardMidiFile.TimedEvent.bytes,
          lastTime previousS ordered)
      else .error (.overflowError "int too big to convert") := by
  induction ordered generalizing track previousS with
  | nil => simp [eventIntervals, trackEvents, lastTime, pure, Except.pure]
  | cons event rest ih =>
      rw [List.foldlM_cons, writeEvent, writeInterval_eq]
      simp only [eventIntervals, List.forall_mem_cons]
      by_cases fits : RemainderFits (playedUs rounding (max 0 (rounding (event.timeS - previousS))))
      · simp only [fits, true_and, bind, Except.bind, pure, Except.pure]
        refine (ih _ event.timeS).trans ?_
        congr 1
        simp [trackEvents, lastTime, closingDelta_eq, eventBytes_eq,
          StandardMidiFile.TimedEvent.bytes]
      · simp only [fits, false_and, if_false, bind, Except.bind]

/-- The track chunk is the bytes of the timed events, or the encoder overflows. -/
theorem encodeTrack_eq (events : List MidiExportEvent) (durationS : ℚ) :
    encodeTrack rounding events durationS =
      if ∀ us ∈ playedIntervals rounding events durationS, RemainderFits us then
        .ok (trackBytes rounding events durationS)
      else .error (.overflowError "int too big to convert") := by
  rw [encodeTrack, writeEvents_eq]
  simp only [playedIntervals, List.forall_mem_append, List.forall_mem_singleton]
  by_cases early : ∀ us ∈ eventIntervals rounding 0 (sortEvents events), RemainderFits us
  · simp only [if_pos early, bind, Except.bind, writeInterval_eq, closingDelta_eq]
    rw [show playedUs rounding (max 0 (rounding (durationS - lastTime 0 (sortEvents events)))) =
      tailUs rounding events durationS from rfl]
    by_cases late : RemainderFits (tailUs rounding events durationS)
    · rw [if_pos late, if_pos ⟨early, late⟩]
      simp [trackBytes, timedEvents, StandardMidiFile.writeTrack, pure, Except.pure,
        StandardMidiFile.TimedEvent.bytes, StandardMidiFile.TrackEvent.bytes]
    · rw [if_neg late, if_neg (fun both => late both.2)]
  · rw [if_neg early, if_neg (fun both => early both.1)]
    rfl

/-- What an encoded file is made of. -/
theorem encodeStandardMidiFile_eq_ok {file : Bytes} :
    encodeStandardMidiFile rounding events durationS = .ok file ↔
      0 ≤ durationS ∧ (∀ us ∈ playedIntervals rounding events durationS, RemainderFits us) ∧
        (trackBytes rounding events durationS).length < 256 ^ 4 ∧
        file = StandardMidiFile.fileBytes ticksPerQuarter
          (trackBytes rounding events durationS) := by
  unfold encodeStandardMidiFile
  by_cases negative : durationS < 0
  · simp [negative, not_le.mpr negative]
  · rw [if_neg negative, encodeTrack_eq]
    by_cases fits : ∀ us ∈ playedIntervals rounding events durationS, RemainderFits us
    · rw [if_pos fits]
      by_cases short : (trackBytes rounding events durationS).length < 256 ^ 4
      · simp only [bind, Except.bind, toBytesBig_of_lt short, pure, Except.pure, Except.ok.injEq]
        constructor
        · intro written
          exact ⟨not_lt.mp negative, fits, short, written.symm⟩
        · rintro ⟨_, _, _, written⟩
          exact written.symm
      · simp only [bind, Except.bind, toBytesBig_of_not_lt short, short, false_and, and_false,
          reduceCtorEq]
    · rw [if_neg fits]
      simp only [bind, Except.bind, fits, false_and, and_false, reduceCtorEq]

/-! ## What is written reads back -/

theorem status_toNat (event : MidiExportEvent) :
    event.status.toNat = 16 * event.message.kind + event.channel := by
  have noteOn : ∀ channel : Fin 16, (UInt8.ofNat (0x90 ||| channel.val)).toNat =
      16 * 9 + channel := by decide
  have noteOff : ∀ channel : Fin 16, (UInt8.ofNat (0x80 ||| channel.val)).toNat =
      16 * 8 + channel := by decide
  unfold MidiExportEvent.status MidiExportEvent.message
  cases event.kind with
  | noteOff => exact noteOff event.channel
  | noteOn => exact noteOn event.channel

theorem message_writable (event : MidiExportEvent) :
    (StandardMidiFile.TrackEvent.message event.status event.message).Writable := by
  have status := status_toNat event
  have channel := event.channel.isLt
  have kind : event.message.kind = 9 ∨ event.message.kind = 8 := by
    unfold MidiExportEvent.message
    split_ifs
    · exact Or.inl rfl
    · exact Or.inr rfl
  have sameChannel : event.message.channel = event.channel := rfl
  refine ⟨by omega, by omega, by omega, by omega, ?_, ?_⟩
  · rcases kind with on | off
    · rw [on]
      rfl
    · rw [off]
      rfl
  · intro byte member
    have note := event.note.isLt
    have velocity := event.velocity.isLt
    simp only [MidiExportEvent.message, List.mem_cons, List.not_mem_nil, or_false] at member
    rcases member with rfl | rfl
    · exact note
    · split_ifs <;> omega

theorem closingTicks_lt {us : Nat} (fits : RemainderFits us) : closingTicks us < 2 ^ 28 := by
  unfold closingTicks
  split_ifs
  · decide
  · exact intervalTicks_lt fits
  · decide

theorem intervalEvents_writable {us : Nat} (fits : RemainderFits us) :
    ∀ timed ∈ intervalEvents us, timed.1 < 2 ^ 28 ∧ timed.2.Writable := by
  have quotient : us / intervalTicks us * ticksPerQuarter < 256 ^ 3 :=
    (quotientTempo_le us).trans_lt (by decide)
  have remainder := (remainderTempo_lt_iff us).mpr fits
  intro timed member
  unfold intervalEvents at member
  split_ifs at member
  · cases member
  · rw [List.mem_singleton.mp member]
    exact ⟨Nat.two_pow_pos 28, quotient⟩
  · rcases List.mem_cons.mp member with rfl | member
    · exact ⟨Nat.two_pow_pos 28, quotient⟩
    · rw [List.mem_singleton.mp member]
      exact ⟨intervalTicks_lt fits, remainder⟩

theorem trackEvents_writable {ordered : List MidiExportEvent} {previousS : ℚ}
    (fits : ∀ us ∈ eventIntervals rounding previousS ordered, RemainderFits us) :
    ∀ timed ∈ trackEvents rounding previousS ordered, timed.1 < 2 ^ 28 ∧ timed.2.Writable := by
  induction ordered generalizing previousS with
  | nil =>
      intro timed member
      cases member
  | cons event rest ih =>
      simp only [eventIntervals, List.forall_mem_cons] at fits
      intro timed member
      simp only [trackEvents, List.mem_append, List.mem_cons] at member
      rcases member with opening | rfl | later
      · exact intervalEvents_writable fits.1 timed opening
      · exact ⟨closingTicks_lt fits.1, message_writable event⟩
      · exact ih fits.2 timed later

theorem timedEvents_writable
    (fits : ∀ us ∈ playedIntervals rounding events durationS, RemainderFits us) :
    (∀ timed ∈ timedEvents rounding events durationS, timed.1 < 2 ^ 28 ∧ timed.2.Writable) ∧
      closingTicks (tailUs rounding events durationS) < 2 ^ 28 := by
  simp only [playedIntervals, List.forall_mem_append, List.forall_mem_singleton] at fits
  refine ⟨?_, closingTicks_lt fits.2⟩
  intro timed member
  rcases List.mem_append.mp member with early | late
  · exact trackEvents_writable fits.1 timed early
  · exact intervalEvents_writable fits.2 timed late

/-! ## Totality -/

/-- The encoder returns a file, with every tempo below 2^24 and every delta
below 2^28, exactly when every interval leaves a remainder below 17477. -/
theorem encodeStandardMidiFile_total_iff (notNegative : 0 ≤ durationS)
    (short : ∀ track, encodeTrack rounding events durationS = .ok track → track.length < 2 ^ 32) :
    (∃ written closing,
        encodeStandardMidiFile rounding events durationS = .ok
          (StandardMidiFile.fileBytes ticksPerQuarter
            (StandardMidiFile.writeTrack written closing)) ∧
        closing < 2 ^ 28 ∧
        ∀ timed ∈ written, timed.1 < 2 ^ 28 ∧ ∀ tempo, timed.2 = .tempo tempo → tempo < 2 ^ 24) ↔
      ∀ us ∈ playedIntervals rounding events durationS, us % intervalTicks us < 17477 := by
  constructor
  · rintro ⟨written, closing, encoded, _⟩
    exact (encodeStandardMidiFile_eq_ok.mp encoded).2.1
  · intro fits
    have track : encodeTrack rounding events durationS =
        .ok (trackBytes rounding events durationS) := by
      rw [encodeTrack_eq]
      exact if_pos fits
    rcases timedEvents_writable fits with ⟨writable, closing⟩
    refine ⟨timedEvents rounding events durationS, closingTicks (tailUs rounding events durationS),
      encodeStandardMidiFile_eq_ok.mpr ⟨notNegative, fits, ?_, rfl⟩, closing, ?_⟩
    · exact (short _ track).trans_eq (by decide)
    · intro timed member
      refine ⟨(writable timed member).1, ?_⟩
      intro tempo isTempo
      have tempoFits := (writable timed member).2
      rw [isTempo] at tempoFits
      exact tempoFits.trans_eq (by decide)

end Encoder

/-- A note from 0.5 s to 1 s and a tail: every interval leaves a remainder. -/
def tailedNote : List MidiExportEvent := [⟨1, .noteOff, 0, 60, 0⟩, ⟨1 / 2, .noteOn, 0, 60, 100⟩]

theorem encodeStandardMidiFile_total_iff_tailedNote :
    (∃ written closing,
        encodeStandardMidiFile PyFloat.nearest tailedNote (5 / 4) = .ok
          (StandardMidiFile.fileBytes ticksPerQuarter
            (StandardMidiFile.writeTrack written closing)) ∧
        closing < 2 ^ 28 ∧
        ∀ timed ∈ written, timed.1 < 2 ^ 28 ∧ ∀ tempo, timed.2 = .tempo tempo → tempo < 2 ^ 24) ↔
      ∀ us ∈ [500000, 500000, 250000], us % intervalTicks us < 17477 := by
  have played : playedIntervals PyFloat.nearest tailedNote (5 / 4) = [500000, 500000, 250000] := by
    decide +kernel
  rw [← played]
  refine encodeStandardMidiFile_total_iff (by norm_num) ?_
  have short : ∀ track ∈ (encodeTrack PyFloat.nearest tailedNote (5 / 4)).toOption,
      track.length < 2 ^ 32 := by decide +kernel
  intro track written
  rw [written] at short
  exact short track rfl

/-- A track without events that lasts 30.534065 s overflows: its 17478 ticks
leave a remainder of 17477 microseconds. -/
theorem encodeStandardMidiFile_overflows :
    encodeStandardMidiFile PyFloat.nearest [] (PyFloat.nearest (30534065 / 1000000)) =
      .error (.overflowError "int too big to convert") := by
  decide +kernel

end Midi
end Synesthesia
