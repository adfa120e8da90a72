import Synesthesia.Midi.SmfRoundTrip

namespace Synesthesia
namespace Midi

open Foundation StandardMidiFile

/-!
# Where a player places the events of an export

With exact times, every interval is rounded to microseconds on its own and the
short ones are dropped, and the next interval is counted from the exact time of
its event.  What an interval loses, 31 microseconds at most, is therefore missing
at every later event.  The chunk's four-byte length leaves room for 2^30 events
and a tempo's three bytes bound an interval that is written, so one bound holds
for all files.
-/

/-- The ordered events are heard, each within the bound of its time, in
seconds. -/
def PlacesWithin (bound : ℚ) (events : List MidiExportEvent)
    (heard : List (ℚ × ChannelMessage)) : Prop :=
  heard.map Prod.snd = (sortEvents events).map MidiExportEvent.message ∧
    ∀ placed ∈ (sortEvents events).zip (heard.map Prod.fst),
      |placed.2 / 1000000 - placed.1.timeS| ≤ bound

/-! ## What an interval loses -/

/-- An interval is played up to the microseconds of a dropped one. -/
theorem abs_playedUs_sub_le {intervalS : ℚ} (notNegative : 0 ≤ intervalS) :
    |(playedUs id intervalS : ℚ) - intervalS * 1000000| ≤ 31 := by
  have close := abs_le.mp (abs_roundHalfEven_sub_le (intervalS * 1000000))
  have rounded : ((intervalUs id intervalS : ℤ) : ℚ) = roundHalfEven (intervalS * 1000000) := by
    rw [intervalUs, id_eq, Int.toNat_of_nonneg (roundHalfEven_nonneg (by positivity))]
  rw [Int.cast_natCast] at rounded
  unfold playedUs
  split_ifs with dropped
  · rw [Nat.cast_zero, zero_sub, abs_neg, abs_of_nonneg (by positivity)]
    rcases dropped with empty | short
    · linarith
    · have fewer : (intervalUs id intervalS : ℚ) ≤ 30 := by
        exact_mod_cast Nat.le_of_lt_succ short
      linarith [close.2]
  · rw [rounded]
    exact (abs_roundHalfEven_sub_le _).trans (by norm_num)

/-- An interval that the encoder writes is shorter than 2^39 microseconds. -/
theorem interval_le {intervalS : ℚ} (fits : RemainderFits (playedUs id (max 0 intervalS))) :
    intervalS * 1000000 ≤ 2 ^ 40 := by
  have ticks := intervalTicks_lt fits
  have spread := le_ticks_mul (playedUs id (max 0 intervalS))
  have played : playedUs id (max 0 intervalS) < 2 ^ 39 := by
    unfold ticksPerQuarter maxTempoUs at spread
    omega
  have few : (playedUs id (max 0 intervalS) : ℚ) ≤ 2 ^ 39 := by exact_mod_cast played.le
  have close := abs_le.mp (abs_playedUs_sub_le (le_max_left 0 intervalS))
  have grown := le_max_right 0 intervalS
  linarith [close.1]

/-- So many written intervals span no more than their number allows. -/
theorem lastTime_sub_le {ordered : List MidiExportEvent} {previousS : ℚ}
    (fits : ∀ us ∈ eventIntervals id previousS ordered, RemainderFits us) :
    (lastTime previousS ordered - previousS) * 1000000 ≤ ordered.length * 2 ^ 40 := by
  induction ordered generalizing previousS with
  | nil => simp [lastTime]
  | cons event rest ih =>
      simp only [eventIntervals, id_eq, List.forall_mem_cons] at fits
      have opening := interval_le fits.1
      have later := ih fits.2
      rw [lastTime, List.length_cons]
      push_cast
      linarith

/-! ## The drift of an event -/

/-- From one moment on, the drift of the ordered events changes by what their
intervals lose. -/
theorem drift_le {ordered : List MidiExportEvent} {moments : List ℚ}
    {previousS clock finish : ℚ} {tail : Nat} (count : moments.length = ordered.length)
    (gaps : gapsFrom clock (moments ++ [finish]) =
      (eventIntervals id previousS ordered ++ [tail]).map (fun us : Nat => (us : ℚ)))
    (increasing : ordered.Pairwise (fun earlier later => earlier.timeS ≤ later.timeS))
    (later : ∀ event ∈ ordered, previousS ≤ event.timeS) :
    ∀ placed ∈ ordered.zip moments,
      |(placed.2 - placed.1.timeS * 1000000) - (clock - previousS * 1000000)| ≤
        31 * ordered.length := by
  induction ordered generalizing moments previousS clock with
  | nil => simp
  | cons event rest ih =>
      cases moments with
      | nil => cases count
      | cons moment others =>
          simp only [List.cons_append, gapsFrom, eventIntervals, id_eq, List.map_cons,
            List.cons.injEq] at gaps
          rcases List.pairwise_cons.mp increasing with ⟨first, restIncreasing⟩
          have forward : 0 ≤ event.timeS - previousS :=
            sub_nonneg.mpr (later event List.mem_cons_self)
          have lost := abs_le.mp (abs_playedUs_sub_le forward)
          rw [max_eq_right forward] at gaps
          rw [← gaps.1] at lost
          have onward := ih (Nat.succ.inj count) gaps.2 restIncreasing first
          rw [List.zip_cons_cons, List.length_cons]
          push_cast
          have natural : (0 : ℚ) ≤ rest.length := Nat.cast_nonneg _
          intro placed member
          rw [abs_le]
          rcases List.mem_cons.mp member with rfl | next
          · constructor <;> linarith [lost.1, lost.2]
          · have close := abs_le.mp (onward placed next)
            constructor <;> linarith [lost.1, lost.2, close.1, close.2]

theorem sortEvents_increasing (events : List MidiExportEvent) :
    (sortEvents events).Pairwise (fun earlier later => earlier.timeS ≤ later.timeS) := by
  refine (sortByKey_pairwise sortKey events).imp ?_
  intro earlier later ordered
  rcases Prod.Lex.toLex_le_toLex.mp ordered with less | ⟨same, _⟩
  · exact less.le
  · exact same.le

theorem length_sortEvents (events : List MidiExportEvent) :
    (sortEvents events).length = events.length :=
  (sortByKey_perm sortKey events).length_eq

/-- Every event takes four bytes of the track at least. -/
theorem length_le_trackBytes (rounding : ℚ → ℚ) (events : List MidiExportEvent) (durationS : ℚ) :
    4 * events.length ≤ (trackBytes rounding events durationS).length := by
  have longer : ∀ (ordered : List MidiExportEvent) (previousS : ℚ), 4 * ordered.length ≤
      ((trackEvents rounding previousS ordered).flatMap TimedEvent.bytes).length := by
    intro ordered
    induction ordered with
    | nil => simp
    | cons event rest ih =>
        intro previousS
        have tail := ih event.timeS
        simp only [trackEvents, List.flatMap_append, List.flatMap_cons, List.length_append,
          TimedEvent.bytes, variableLengthBytes, TrackEvent.bytes, List.length_cons,
          List.length_map, MidiExportEvent.message, List.length_nil]
        omega
  have ordered := longer (sortEvents events) 0
  rw [length_sortEvents] at ordered
  rw [trackBytes, writeTrack, timedEvents, List.flatMap_append]
  simp only [List.length_append]
  omega

variable {events : List MidiExportEvent} {file : Bytes}

/-- The drift of all events, from the time that the first of them is early. -/
theorem file_drift_le {durationS early : ℚ}
    (encoded : encodeStandardMidiFile id events durationS = .ok file) (notLate : 0 ≤ early)
    (started : ∀ event ∈ (sortEvents events).head?, -(event.timeS * 1000000) ≤ early) :
    ∃ read, readFile file = some read ∧
      PlacesWithin ((early + 31 * events.length) / 1000000) events read.messages := by
  rcases readFile_encodeStandardMidiFile encoded with ⟨read, reads, _, _, messages, gaps⟩
  refine ⟨read, reads, messages, ?_⟩
  have count : (read.messages.map Prod.fst).length = (sortEvents events).length := by
    rw [List.length_map, ← List.length_map (f := Prod.snd), messages, List.length_map]
  have increasing := sortEvents_increasing events
  rw [playedIntervals] at gaps
  suffices drift : ∀ placed ∈ (sortEvents events).zip (read.messages.map Prod.fst),
      |placed.2 - placed.1.timeS * 1000000| ≤ early + 31 * events.length by
    intro placed member
    have scaled : placed.2 / 1000000 - placed.1.timeS =
        (placed.2 - placed.1.timeS * 1000000) / 1000000 := by ring
    rw [scaled, abs_div, abs_of_pos (by norm_num : (0 : ℚ) < 1000000)]
    gcongr
    exact drift placed member
  rw [← length_sortEvents events]
  generalize read.messages.map Prod.fst = moments at gaps count
  generalize sortEvents events = ordered at gaps count increasing started
  cases ordered with
  | nil => simp
  | cons event rest =>
      cases moments with
      | nil => cases count
      | cons moment others =>
          simp only [List.cons_append, gapsFrom, eventIntervals, id_eq, List.map_cons,
            List.cons.injEq] at gaps
          rcases List.pairwise_cons.mp increasing with ⟨first, restIncreasing⟩
          have onward := drift_le (Nat.succ.inj count) gaps.2 restIncreasing first
          have begun := started event rfl
          -- an event before time 0 is played at once
          have opening : |moment - event.timeS * 1000000| ≤ early + 31 := by
            have shift := gaps.1
            rw [sub_zero, sub_zero] at shift
            rcases le_total 0 event.timeS with after | before
            · rw [shift, max_eq_right after]
              exact (abs_playedUs_sub_le after).trans (by linarith)
            · rw [shift, max_eq_left before, playedUs_of_nonpos id le_rfl, abs_le]
              push_cast
              constructor <;> linarith
          rw [List.zip_cons_cons, List.length_cons]
          push_cast
          have natural : (0 : ℚ) ≤ rest.length := Nat.cast_nonneg _
          intro placed member
          have bounds := abs_le.mp opening
          rw [abs_le]
          rcases List.mem_cons.mp member with rfl | next
          · constructor <;> linarith [bounds.1, bounds.2]
          · have close := abs_le.mp (onward placed next)
            constructor <;> linarith [bounds.1, bounds.2, close.1, close.2]

/-- Events at non-negative times drift by 31 microseconds an event at most. -/
theorem file_drift_le_of_nonneg {durationS : ℚ}
    (encoded : encodeStandardMidiFile id events durationS = .ok file)
    (notNegative : ∀ event ∈ events, 0 ≤ event.timeS) :
    ∃ read, readFile file = some read ∧
      PlacesWithin (31 * events.length / 1000000) events read.messages := by
  have drift := file_drift_le encoded le_rfl fun event isFirst => by
    have member := (sortByKey_perm sortKey events).mem_iff.mp (List.mem_of_mem_head? isFirst)
    linarith [notNegative event member]
  rwa [zero_add] at drift

/-- The first event is no earlier than all the written intervals allow. -/
theorem early_le {durationS : ℚ}
    (encoded : encodeStandardMidiFile id events durationS = .ok file) :
    ∀ event ∈ (sortEvents events).head?,
      -(event.timeS * 1000000) ≤ events.length * 2 ^ 40 := by
  rcases encodeStandardMidiFile_eq_ok.mp encoded with ⟨notNegative, fits, _, _⟩
  rw [← length_sortEvents events]
  simp only [playedIntervals, tailUs, List.forall_mem_append, List.forall_mem_singleton] at fits
  intro event isFirst
  cases ordered : sortEvents events with
  | nil =>
      rw [ordered] at isFirst
      cases isFirst
  | cons first rest =>
      rw [ordered] at isFirst fits
      cases isFirst
      simp only [eventIntervals, id_eq, lastTime, List.forall_mem_cons] at fits
      have span := lastTime_sub_le fits.1.2
      have tail := interval_le fits.2
      rw [List.length_cons]
      push_cast
      linarith

/-- One bound holds for every file: the drift of every event of every export
that is encoded. -/
theorem files_keep_time :
    ∃ bound : ℚ, ∀ events durationS file, encodeStandardMidiFile id events durationS = .ok file →
      ∃ read, readFile file = some read ∧ PlacesWithin bound events read.messages := by
  refine ⟨2 ^ 71 / 1000000, ?_⟩
  intro events durationS file encoded
  rcases file_drift_le encoded (by positivity) (early_le encoded) with
    ⟨read, reads, messages, close⟩
  refine ⟨read, reads, messages, fun placed member => (close placed member).trans ?_⟩
  have few : events.length ≤ 2 ^ 30 := by
    have fourBytes := length_le_trackBytes id events durationS
    have short := (encodeStandardMidiFile_eq_ok.mp encoded).2.2.1
    omega
  have number : (events.length : ℚ) ≤ 2 ^ 30 := by exact_mod_cast few
  gcongr
  linarith

/-! ## Dropped intervals

The drift does grow with the events: where all intervals are dropped, as between
notes 30 microseconds apart, everything is heard at time 0.
-/

theorem eq_of_gapsFrom {moments gaps : List ℚ} {clock finish : ℚ}
    (are : gapsFrom clock (moments ++ [finish]) = gaps) (none : ∀ gap ∈ gaps, gap = 0) :
    ∀ moment ∈ moments, moment = clock := by
  subst are
  induction moments generalizing clock with
  | nil => simp
  | cons moment rest ih =>
      simp only [List.cons_append, gapsFrom, List.forall_mem_cons] at none
      have here : moment = clock := sub_eq_zero.mp none.1
      subst here
      exact List.forall_mem_cons.mpr ⟨rfl, ih none.2⟩

/-- No bound below the time of an event holds when nothing is played. -/
theorem le_bound_of_dropped {durationS bound : ℚ}
    (encoded : encodeStandardMidiFile id events durationS = .ok file)
    (dropped : ∀ us ∈ playedIntervals id events durationS, us = 0)
    (within : ∃ read, readFile file = some read ∧ PlacesWithin bound events read.messages) :
    ∀ event ∈ events, |event.timeS| ≤ bound := by
  rcases readFile_encodeStandardMidiFile encoded with ⟨read, reads, _, _, messages, gaps⟩
  rcases within with ⟨other, otherReads, _, close⟩
  cases reads.symm.trans otherReads
  have atStart : ∀ moment ∈ read.messages.map Prod.fst, moment = 0 := by
    refine eq_of_gapsFrom gaps fun gap member => ?_
    rcases List.mem_map.mp member with ⟨us, played, rfl⟩
    rw [dropped us played, Nat.cast_zero]
  have count : (sortEvents events).length ≤ (read.messages.map Prod.fst).length := by
    rw [List.length_map, ← List.length_map (f := Prod.snd), messages, List.length_map]
  intro event member
  rw [← (sortByKey_perm sortKey events).mem_iff, ← sortEvents, ← List.map_fst_zip count] at member
  rcases List.mem_map.mp member with ⟨placed, isPlaced, rfl⟩
  have near := close placed isPlaced
  rwa [atStart placed.2 (List.of_mem_zip isPlaced).2, zero_div, zero_sub, abs_neg] at near

end Midi
end Synesthesia
