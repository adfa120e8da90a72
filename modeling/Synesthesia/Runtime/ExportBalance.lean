import Mathlib
import Synesthesia.Runtime.MidiExport

namespace Synesthesia
namespace Runtime

open Foundation Contracts Midi

/-!
# Do exported notes balance?

The events of all outputs are merged into one stream on shared channels and
notes, and the encoder writes a note-off before a note-on of the same time and
key.  A receiver that keeps a set of sounding notes is compared with the union
of the outputs' desired notes.
-/

/-! ## A receiver of the exported stream -/

def eventKey (event : MidiExportEvent) : MidiNoteKey := ⟨event.channel, event.note⟩

/-- A receiver starts a note on note-on and stops it on note-off. -/
def hear (sounding : Finset MidiNoteKey) (event : MidiExportEvent) : Finset MidiNoteKey :=
  if event.kind = .noteOn then insert (eventKey event) sounding
  else sounding.erase (eventKey event)

def replay (events : List MidiExportEvent) : Finset MidiNoteKey := events.foldl hear ∅

/-- What sounds after the events up to a time, in the order the encoder writes them. -/
def soundingAfter (events : List MidiExportEvent) (timeS : ℚ) : Finset MidiNoteKey :=
  replay ((sortEvents events).filter (fun event => decide (event.timeS ≤ timeS)))

/-- Events of other keys leave a key alone. -/
theorem mem_foldl_hear_of_quiet {key : MidiNoteKey} {events : List MidiExportEvent}
    (quiet : ∀ event ∈ events, eventKey event ≠ key) (sounding : Finset MidiNoteKey) :
    key ∈ events.foldl hear sounding ↔ key ∈ sounding := by
  induction events generalizing sounding with
  | nil => exact Iff.rfl
  | cons event rest ih =>
      have different : key ≠ eventKey event := (quiet event List.mem_cons_self).symm
      rw [List.foldl_cons, ih
        (fun later member => quiet later (List.mem_cons_of_mem _ member)), hear]
      split_ifs
      · rw [Finset.mem_insert, or_iff_right different]
      · rw [Finset.mem_erase, and_iff_right different]

/-- The last event of a key decides whether it sounds. -/
theorem mem_replay_of_last {before after : List MidiExportEvent} {event : MidiExportEvent}
    (quiet : ∀ later ∈ after, eventKey later ≠ eventKey event) :
    eventKey event ∈ replay (before ++ event :: after) ↔ event.kind = .noteOn := by
  rw [replay, List.foldl_append, List.foldl_cons, mem_foldl_hear_of_quiet quiet, hear]
  split_ifs with isOn
  · exact iff_of_true (Finset.mem_insert_self _ _) isOn
  · exact iff_of_false (Finset.notMem_erase _ _) isOn

/-- An event of a key that sorts before another one of it is no later, and a
note-on is only followed by note-ons at its own time. -/
theorem sortKey_le {first second : MidiExportEvent} (same : eventKey first = eventKey second)
    (ordered : sortKey first ≤ sortKey second) :
    first.timeS ≤ second.timeS ∧
      (first.timeS = second.timeS → first.kind = .noteOn → second.kind = .noteOn) := by
  have sameChannel : first.channel = second.channel := congrArg MidiNoteKey.channel same
  have sameNote : first.note = second.note := congrArg MidiNoteKey.note same
  simp only [sortKey, Prod.Lex.toLex_le_toLex, sameChannel, sameNote, lt_irrefl, false_or,
    true_and] at ordered
  rcases ordered with earlier | ⟨simultaneous, kinds⟩
  · exact ⟨earlier.le, fun equal => absurd equal earlier.ne⟩
  · refine ⟨simultaneous.le, ?_⟩
    intro _ isOn
    exact of_decide_eq_true (Bool.le_iff_imp.mp kinds (decide_eq_true isOn))

/-- A key sounds when the latest of its events up to then starts it: at one
time, note-ons come last. -/
theorem mem_soundingAfter {events : List MidiExportEvent} {timeS : ℚ} {key : MidiNoteKey} :
    key ∈ soundingAfter events timeS ↔ ∃ event ∈ events,
      eventKey event = key ∧ event.kind = .noteOn ∧ event.timeS ≤ timeS ∧
      ∀ other ∈ events, eventKey other = key → other.timeS ≤ timeS →
        other.timeS ≤ event.timeS := by
  have listed : ∀ event, event ∈ (sortEvents events).filter
      (fun event => decide (event.timeS ≤ timeS)) ↔ event ∈ events ∧ event.timeS ≤ timeS := by
    intro event
    rw [List.mem_filter, sortEvents, mem_sortByKey, decide_eq_true_eq]
  have ordered : ((sortEvents events).filter
      (fun event => decide (event.timeS ≤ timeS))).Pairwise (KeyLE sortKey) :=
    (sortByKey_pairwise sortKey events).sublist List.filter_sublist
  unfold soundingAfter
  generalize (sortEvents events).filter (fun event => decide (event.timeS ≤ timeS)) = upTo
    at listed ordered ⊢
  by_cases silent : ∀ event ∈ upTo, eventKey event ≠ key
  · rw [replay, mem_foldl_hear_of_quiet silent]
    refine iff_of_false (Finset.notMem_empty _) ?_
    rintro ⟨event, member, isKey, _, inTime, _⟩
    exact silent event ((listed event).mpr ⟨member, inTime⟩) isKey
  · push Not at silent
    rcases exists_last_split silent with ⟨before, last, after, rfl, isKey, quiet⟩
    have precedes : ∀ event ∈ before ++ last :: after, eventKey event = key →
        event = last ∨ sortKey event ≤ sortKey last := by
      intro event member same
      rcases List.mem_append.mp member with early | late
      · exact Or.inr ((List.pairwise_append.mp ordered).2.2 event early last List.mem_cons_self)
      · rcases List.mem_cons.mp late with equal | later
        · exact Or.inl equal
        · exact absurd same (quiet event later)
    have lastListed := (listed last).mp (List.mem_append_right _ List.mem_cons_self)
    rw [← isKey, mem_replay_of_last (fun later member => by rw [isKey]; exact quiet later member)]
    constructor
    · intro isOn
      refine ⟨last, lastListed.1, rfl, isOn, lastListed.2, ?_⟩
      intro other member same inTime
      rcases precedes other ((listed other).mpr ⟨member, inTime⟩) (same.trans isKey) with
        rfl | sorted
      · exact le_rfl
      · exact (sortKey_le same sorted).1
    · rintro ⟨event, member, same, isOn, inTime, latest⟩
      rcases precedes event ((listed event).mpr ⟨member, inTime⟩) (same.trans isKey) with
        rfl | sorted
      · exact isOn
      · have simultaneous := le_antisymm (sortKey_le same sorted).1
          (latest last lastListed.1 rfl lastListed.2)
        exact (sortKey_le same sorted).2 simultaneous isOn

/-! ## The desired notes of one output -/

/-- What the samples up to a time desire, when `previous` was desired before. -/
def desiredFrom (timeS : ℚ) (previous : List MidiNoteKey) (samples : List Sample) :
    List MidiNoteKey :=
  samples.foldl (fun held sample => if sample.1 ≤ timeS then sample.2.notes.keys else held)
    previous

/-- The desired notes of an output that are in force at a time. -/
def desiredAt (entries : List Sample) (timeS : ℚ) : List MidiNoteKey :=
  desiredFrom timeS [] (sortSamples entries)

/-- A sample of the given time desires the key and the one before it did not. -/
def EntersFrom (key : MidiNoteKey) (timeS : ℚ) : List MidiNoteKey → List Sample → Prop
  | _, [] => False
  | previous, sample :: rest =>
      (sample.1 = timeS ∧ key ∈ sample.2.notes.keys ∧ key ∉ previous) ∨
        EntersFrom key timeS sample.2.notes.keys rest

/-- A sample of the given time no longer desires the key, or the timeline ends
while it is desired. -/
def LeavesFrom (durationS : ℚ) (key : MidiNoteKey) (timeS : ℚ) :
    List MidiNoteKey → List Sample → Prop
  | previous, [] => durationS = timeS ∧ key ∈ previous
  | previous, sample :: rest =>
      (sample.1 = timeS ∧ key ∈ previous ∧ key ∉ sample.2.notes.keys) ∨
        LeavesFrom durationS key timeS sample.2.notes.keys rest

variable {previous : List MidiNoteKey}

theorem mem_outputEvents_cons {durationS : ℚ} {sample : Sample}
    {rest : List Sample} {event : MidiExportEvent} :
    event ∈ outputEvents durationS previous (sample :: rest) ↔
      (∃ entry ∈ sample.2.notes.entries, entry.1 ∉ previous ∧ noteOnEvent sample.1 entry = event) ∨
      (∃ key ∈ previous, key ∉ sample.2.notes.keys ∧ noteOffEvent sample.1 key = event) ∨
      event ∈ outputEvents durationS sample.2.notes.keys rest := by
  simp only [outputEvents, diffMidiStates, current_eq, List.mem_append, List.mem_map,
    List.mem_filter, decide_eq_true_eq, and_assoc, or_assoc]

variable {samples : List Sample}

/-- An output starts a key exactly where a sample of it enters. -/
theorem exists_on_outputEvents {durationS timeS : ℚ} {key : MidiNoteKey}
    :
    (∃ event ∈ outputEvents durationS previous samples, eventKey event = key ∧
      event.kind = .noteOn ∧ event.timeS = timeS) ↔ EntersFrom key timeS previous samples := by
  induction samples generalizing previous with
  | nil => simp [outputEvents, EntersFrom, noteOffEvent]
  | cons sample rest ih =>
      rw [EntersFrom, ← ih]
      constructor
      · rintro ⟨event, member, isKey, isOn, atTime⟩
        rcases mem_outputEvents_cons.mp member with
          ⟨entry, listed, absent, rfl⟩ | ⟨released, _, _, rfl⟩ | later
        · exact Or.inl ⟨atTime, isKey ▸ List.mem_map_of_mem listed, isKey ▸ absent⟩
        · cases isOn
        · exact Or.inr ⟨event, later, isKey, isOn, atTime⟩
      · rintro (⟨atTime, present, absent⟩ | ⟨event, later, rest⟩)
        · rcases List.mem_map.mp present with ⟨entry, listed, rfl⟩
          exact ⟨noteOnEvent sample.1 entry,
            mem_outputEvents_cons.mpr (Or.inl ⟨entry, listed, absent, rfl⟩), rfl, rfl, atTime⟩
        · exact ⟨event, mem_outputEvents_cons.mpr (Or.inr (Or.inr later)), rest⟩

/-- An output releases a key exactly where a sample leaves it or its timeline ends. -/
theorem exists_off_outputEvents {durationS timeS : ℚ} {key : MidiNoteKey}
    :
    (∃ event ∈ outputEvents durationS previous samples, eventKey event = key ∧
      event.kind ≠ .noteOn ∧ event.timeS = timeS) ↔
      LeavesFrom durationS key timeS previous samples := by
  induction samples generalizing previous with
  | nil =>
      rw [LeavesFrom]
      constructor
      · rintro ⟨event, member, isKey, _, atTime⟩
        rcases List.mem_map.mp member with ⟨released, held, rfl⟩
        exact ⟨atTime, isKey ▸ held⟩
      · rintro ⟨atTime, held⟩
        exact ⟨noteOffEvent durationS key, List.mem_map_of_mem held, rfl, nofun, atTime⟩
  | cons sample rest ih =>
      rw [LeavesFrom, ← ih]
      constructor
      · rintro ⟨event, member, isKey, isOff, atTime⟩
        rcases mem_outputEvents_cons.mp member with
          ⟨entry, _, _, rfl⟩ | ⟨released, held, absent, rfl⟩ | later
        · exact absurd rfl isOff
        · exact Or.inl ⟨atTime, isKey ▸ held, isKey ▸ absent⟩
        · exact Or.inr ⟨event, later, isKey, isOff, atTime⟩
      · rintro (⟨atTime, held, absent⟩ | ⟨event, later, rest⟩)
        · exact ⟨noteOffEvent sample.1 key,
            mem_outputEvents_cons.mpr (Or.inr (Or.inl ⟨key, held, absent, rfl⟩)), rfl, nofun,
            atTime⟩
        · exact ⟨event, mem_outputEvents_cons.mpr (Or.inr (Or.inr later)), rest⟩

/-! ## Between two events of a key nothing changes -/

/-- Later samples of an ordered list say nothing about an earlier time. -/
theorem desiredFrom_of_later {timeS : ℚ}
    (later : ∀ sample ∈ samples, timeS < sample.1) :
    desiredFrom timeS previous samples = previous := by
  induction samples with
  | nil => rfl
  | cons sample rest ih =>
      rw [desiredFrom, List.foldl_cons, if_neg (not_le.mpr (later sample List.mem_cons_self))]
      exact ih (fun other member => later other (List.mem_cons_of_mem _ member))

/-- A key that no sample enters or leaves between two times is desired at both
or at neither. -/
theorem desiredFrom_unchanged (durationS : ℚ) {early late : ℚ} {key : MidiNoteKey}
    (ordered : samples.Pairwise (KeyLE Prod.fst)) (forward : early ≤ late)
    (quiet : ∀ timeS, early < timeS → timeS ≤ late →
      ¬ EntersFrom key timeS previous samples ∧ ¬ LeavesFrom durationS key timeS previous samples) :
    key ∈ desiredFrom late previous samples ↔ key ∈ desiredFrom early previous samples := by
  induction samples generalizing previous with
  | nil => exact Iff.rfl
  | cons sample rest ih =>
      rcases List.pairwise_cons.mp ordered with ⟨first, orderedRest⟩
      have onward := @ih sample.2.notes.keys orderedRest
        (fun timeS after before => ⟨fun enters => (quiet timeS after before).1 (Or.inr enters),
          fun leaves => (quiet timeS after before).2 (Or.inr leaves)⟩)
      by_cases past : sample.1 ≤ early
      · rw [desiredFrom, List.foldl_cons, if_pos (past.trans forward), desiredFrom,
          List.foldl_cons, if_pos past]
        exact onward
      · have restLater : ∀ other ∈ rest, early < other.1 := fun other member =>
          (not_le.mp past).trans_le (first other member)
        have atEarly : desiredFrom early previous (sample :: rest) = previous :=
          desiredFrom_of_later (List.forall_mem_cons.mpr ⟨not_le.mp past, restLater⟩)
        rw [atEarly]
        by_cases reached : sample.1 ≤ late
        · have same := quiet sample.1 (not_le.mp past) reached
          rw [desiredFrom, List.foldl_cons, if_pos reached]
          rw [desiredFrom_of_later restLater] at onward
          refine onward.trans ⟨fun entered => ?_, fun held => ?_⟩
          · by_contra absent
            exact same.1 (Or.inl ⟨rfl, entered, absent⟩)
          · by_contra left
            exact same.2 (Or.inl ⟨rfl, held, left⟩)
        · rw [desiredFrom_of_later (List.forall_mem_cons.mpr ⟨not_le.mp reached, fun other member =>
            (not_le.mp reached).trans_le (first other member)⟩)]

/-- A key that has not entered by a time is not desired then. -/
theorem not_mem_desiredFrom {timeS : ℚ} {key : MidiNoteKey}
    (ordered : samples.Pairwise (KeyLE Prod.fst)) (absent : key ∉ previous)
    (quiet : ∀ earlier ≤ timeS, ¬ EntersFrom key earlier previous samples) :
    key ∉ desiredFrom timeS previous samples := by
  induction samples generalizing previous with
  | nil => exact absent
  | cons sample rest ih =>
      rcases List.pairwise_cons.mp ordered with ⟨first, orderedRest⟩
      by_cases reached : sample.1 ≤ timeS
      · rw [desiredFrom, List.foldl_cons, if_pos reached]
        refine ih orderedRest ?_
          (fun earlier inTime enters => quiet earlier inTime (Or.inr enters))
        intro entered
        exact quiet sample.1 reached (Or.inl ⟨rfl, entered, absent⟩)
      · rw [desiredFrom_of_later (List.forall_mem_cons.mpr ⟨not_le.mp reached,
          fun other member => (not_le.mp reached).trans_le (first other member)⟩)]
        exact absent

/-- What is desired when the timeline ends is released there. -/
theorem leavesFrom_end {durationS : ℚ} {key : MidiNoteKey}
    (past : ∀ sample ∈ samples, sample.1 ≤ durationS)
    (held : key ∈ desiredFrom durationS previous samples) :
    LeavesFrom durationS key durationS previous samples := by
  induction samples generalizing previous with
  | nil => exact ⟨rfl, held⟩
  | cons sample rest ih =>
      rw [desiredFrom, List.foldl_cons, if_pos (past sample List.mem_cons_self)] at held
      exact Or.inr (ih
        (fun other member => past other (List.mem_cons_of_mem _ member)) held)

/-- No event of an output lies behind the end of a timeline that covers its samples. -/
theorem outputEvents_le {durationS : ℚ}
    (past : ∀ sample ∈ samples, sample.1 ≤ durationS) :
    ∀ event ∈ outputEvents durationS previous samples, event.timeS ≤ durationS := by
  induction samples generalizing previous with
  | nil =>
      intro event member
      rcases List.mem_map.mp member with ⟨released, _, rfl⟩
      exact le_rfl
  | cons sample rest ih =>
      intro event member
      rcases mem_outputEvents_cons.mp member with ⟨_, _, _, rfl⟩ | ⟨_, _, _, rfl⟩ | later
      · exact past sample List.mem_cons_self
      · exact past sample List.mem_cons_self
      · exact ih
          (fun other inRest => past other (List.mem_cons_of_mem _ inRest)) event later

/-! ## All outputs together -/

/-- Some output starts to desire the key at this time. -/
def Starts (collected : Collected) (key : MidiNoteKey) (timeS : ℚ) : Prop :=
  ∃ entry ∈ collected.entries, EntersFrom key timeS [] (sortSamples entry.2)

/-- Some output stops to desire the key at this time, if only because the
timeline ends. -/
def Releases (collected : Collected) (durationS : ℚ) (key : MidiNoteKey) (timeS : ℚ) : Prop :=
  ∃ entry ∈ collected.entries, LeavesFrom durationS key timeS [] (sortSamples entry.2)

/-- Some output desires the key at this time, before the end of the timeline. -/
def InForce (collected : Collected) (durationS : ℚ) (key : MidiNoteKey) (timeS : ℚ) : Prop :=
  timeS < durationS ∧ ∃ entry ∈ collected.entries, key ∈ desiredAt entry.2 timeS

instance (collected : Collected) (durationS : ℚ) (key : MidiNoteKey) (timeS : ℚ) :
    Decidable (InForce collected durationS key timeS) :=
  inferInstanceAs (Decidable (_ ∧ ∃ entry ∈ collected.entries, _ ∈ _))

section Balance

variable {collected : Collected} {durationS : ℚ} {key : MidiNoteKey}

theorem exists_on_diffToEvents (durationS : ℚ) {timeS : ℚ} :
    (∃ event ∈ diffToEvents collected durationS, eventKey event = key ∧
      event.kind = .noteOn ∧ event.timeS = timeS) ↔ Starts collected key timeS := by
  constructor
  · rintro ⟨event, member, facts⟩
    rcases List.mem_flatMap.mp member with ⟨entry, listed, inOutput⟩
    exact ⟨entry, listed, exists_on_outputEvents.mp ⟨event, inOutput, facts⟩⟩
  · rintro ⟨entry, listed, enters⟩
    rcases exists_on_outputEvents.mpr enters with ⟨event, inOutput, facts⟩
    exact ⟨event, List.mem_flatMap.mpr ⟨entry, listed, inOutput⟩, facts⟩

theorem exists_off_diffToEvents {timeS : ℚ} :
    (∃ event ∈ diffToEvents collected durationS, eventKey event = key ∧
      event.kind ≠ .noteOn ∧ event.timeS = timeS) ↔ Releases collected durationS key timeS := by
  constructor
  · rintro ⟨event, member, facts⟩
    rcases List.mem_flatMap.mp member with ⟨entry, listed, inOutput⟩
    exact ⟨entry, listed, exists_off_outputEvents.mp ⟨event, inOutput, facts⟩⟩
  · rintro ⟨entry, listed, leaves⟩
    rcases exists_off_outputEvents.mpr leaves with ⟨event, inOutput, facts⟩
    exact ⟨event, List.mem_flatMap.mpr ⟨entry, listed, inOutput⟩, facts⟩

/-- A key sounds when the latest time at which any event of it lies starts it. -/
theorem mem_soundingAfter_of_latest {timeS latest : ℚ} (inTime : latest ≤ timeS)
    (last : ∀ event ∈ diffToEvents collected durationS, eventKey event = key →
      event.timeS ≤ timeS → event.timeS ≤ latest)
    (reached : ∃ event ∈ diffToEvents collected durationS, eventKey event = key ∧
      event.timeS = latest) :
    key ∈ soundingAfter (diffToEvents collected durationS) timeS ↔
      Starts collected key latest := by
  rw [mem_soundingAfter, ← exists_on_diffToEvents durationS]
  constructor
  · rintro ⟨event, member, isKey, isOn, before, isLatest⟩
    rcases reached with ⟨other, otherMember, otherKey, atLatest⟩
    refine ⟨event, member, isKey, isOn, le_antisymm (last event member isKey before) ?_⟩
    rw [← atLatest]
    exact isLatest other otherMember otherKey (atLatest.trans_le inTime)
  · rintro ⟨event, member, isKey, isOn, rfl⟩
    exact ⟨event, member, isKey, isOn, inTime, last⟩

/-- Where no output starts or releases a key, it stays in force or out of it. -/
theorem inForce_unchanged {early late : ℚ} (forward : early ≤ late)
    (covered : ∀ entry ∈ collected.entries, ∀ sample ∈ entry.2, sample.1 ≤ durationS)
    (quiet : ∀ timeS, early < timeS → timeS ≤ late →
      ¬ Starts collected key timeS ∧ ¬ Releases collected durationS key timeS) :
    InForce collected durationS key late ↔ InForce collected durationS key early := by
  have unchanged : ∀ entry ∈ collected.entries, ∀ moment, early ≤ moment → moment ≤ late →
      (key ∈ desiredAt entry.2 moment ↔ key ∈ desiredAt entry.2 early) := by
    intro entry listed moment after before
    refine desiredFrom_unchanged durationS (sortByKey_pairwise _ _) after ?_
    intro timeS later earlier
    rcases quiet timeS later (earlier.trans before) with ⟨noStart, noRelease⟩
    exact ⟨fun enters => noStart ⟨entry, listed, enters⟩,
      fun leaves => noRelease ⟨entry, listed, leaves⟩⟩
  constructor
  · rintro ⟨running, entry, listed, desired⟩
    exact ⟨forward.trans_lt running, entry, listed,
      (unchanged entry listed late forward le_rfl).mp desired⟩
  · rintro ⟨running, entry, listed, desired⟩
    by_cases later : durationS ≤ late
    · -- the key would be released at the end, which lies between the two times
      have held := (unchanged entry listed durationS running.le later).mpr desired
      have released : LeavesFrom durationS key durationS [] (sortSamples entry.2) :=
        leavesFrom_end (fun sample member =>
          covered entry listed sample ((mem_sortByKey _).mp member)) held
      exact absurd ⟨entry, listed, released⟩ (quiet durationS running later).2
    · exact ⟨not_le.mp later, entry, listed,
        (unchanged entry listed late forward le_rfl).mpr desired⟩

/-- A key that has not started is not in force. -/
theorem not_inForce_of_quiet {timeS : ℚ}
    (quiet : ∀ earlier ≤ timeS, ¬ Starts collected key earlier) :
    ¬ InForce collected durationS key timeS := by
  rintro ⟨_, entry, listed, desired⟩
  exact not_mem_desiredFrom (sortByKey_pairwise _ _) List.not_mem_nil
    (fun earlier inTime enters => quiet earlier inTime ⟨entry, listed, enters⟩) desired

/-- Wherever a start finds the key in force and a mere release does not, the
receiver's notes are those in force at every time. -/
theorem mem_soundingAfter_iff_inForce
    (covered : ∀ entry ∈ collected.entries, ∀ sample ∈ entry.2, sample.1 ≤ durationS)
    (balanced : ∀ timeS, (Starts collected key timeS → InForce collected durationS key timeS) ∧
      (Releases collected durationS key timeS → ¬ Starts collected key timeS →
        ¬ InForce collected durationS key timeS)) (timeS : ℚ) :
    key ∈ soundingAfter (diffToEvents collected durationS) timeS ↔
      InForce collected durationS key timeS := by
  let upTo := (diffToEvents collected durationS).toFinset.filter
    (fun event => eventKey event = key ∧ event.timeS ≤ timeS)
  have listed : ∀ event, event ∈ upTo ↔ event ∈ diffToEvents collected durationS ∧
      eventKey event = key ∧ event.timeS ≤ timeS := by
    intro event
    rw [Finset.mem_filter, List.mem_toFinset]
  by_cases some : upTo.Nonempty
  · rcases Finset.exists_max_image upTo MidiExportEvent.timeS some with ⟨last, lastListed, latest⟩
    rcases (listed last).mp lastListed with ⟨member, isKey, inTime⟩
    have isLatest : ∀ event ∈ diffToEvents collected durationS, eventKey event = key →
        event.timeS ≤ timeS → event.timeS ≤ last.timeS := fun event inEvents same before =>
      latest event ((listed event).mpr ⟨inEvents, same, before⟩)
    rw [mem_soundingAfter_of_latest inTime isLatest ⟨last, member, isKey, rfl⟩,
      inForce_unchanged inTime covered]
    · by_cases starts : Starts collected key last.timeS
      · exact iff_of_true starts ((balanced last.timeS).1 starts)
      · refine iff_of_false starts ((balanced last.timeS).2 ?_ starts)
        refine exists_off_diffToEvents.mp ⟨last, member, isKey, ?_, rfl⟩
        intro isOn
        exact starts ((exists_on_diffToEvents durationS).mp ⟨last, member, isKey, isOn, rfl⟩)
    · intro moment after before
      constructor
      · intro starts
        rcases (exists_on_diffToEvents durationS).mpr starts with ⟨event, inEvents, same, _, rfl⟩
        exact absurd (isLatest event inEvents same before) (not_le.mpr after)
      · intro releases
        rcases exists_off_diffToEvents.mpr releases with ⟨event, inEvents, same, _, rfl⟩
        exact absurd (isLatest event inEvents same before) (not_le.mpr after)
  · have nothing : ∀ event ∈ diffToEvents collected durationS, eventKey event = key →
        ¬ event.timeS ≤ timeS := fun event inEvents same before =>
      some ⟨event, (listed event).mpr ⟨inEvents, same, before⟩⟩
    refine iff_of_false ?_ (not_inForce_of_quiet ?_)
    · rw [mem_soundingAfter]
      rintro ⟨event, inEvents, same, _, before, _⟩
      exact nothing event inEvents same before
    · intro earlier before starts
      rcases (exists_on_diffToEvents durationS).mpr starts with
        ⟨event, inEvents, same, _, rfl⟩
      exact nothing event inEvents same before

/-- What sounds when the timeline ends is what the whole stream leaves. -/
theorem soundingAfter_end
    (covered : ∀ entry ∈ collected.entries, ∀ sample ∈ entry.2, sample.1 ≤ durationS) :
    soundingAfter (diffToEvents collected durationS) durationS =
      replay (sortEvents (diffToEvents collected durationS)) := by
  rw [soundingAfter, List.filter_eq_self.mpr]
  intro event member
  rw [sortEvents, mem_sortByKey] at member
  rcases List.mem_flatMap.mp member with ⟨entry, listed, inOutput⟩
  rw [decide_eq_true_eq]
  exact outputEvents_le (fun sample inSorted =>
    covered entry listed sample ((mem_sortByKey _).mp inSorted)) event inOutput

end Balance

/-- The exported notes balance exactly when every started note is in force
once the events of its time are over, and a note that is only released at
some time is in force for no output. -/
theorem exported_notes_balance_iff (collected : Collected) (statuses : List SourceStatus) :
    let durationS := exportDuration collected statuses
    let events := diffToEvents collected durationS
    (replay (sortEvents events) = ∅ ∧
      ∀ timeS key, key ∈ soundingAfter events timeS ↔ InForce collected durationS key timeS) ↔
    ∀ timeS key, (Starts collected key timeS → InForce collected durationS key timeS) ∧
      (Releases collected durationS key timeS → ¬ Starts collected key timeS →
        ¬ InForce collected durationS key timeS) := by
  intro durationS events
  have covered : ∀ entry ∈ collected.entries, ∀ sample ∈ entry.2, sample.1 ≤ durationS :=
    fun entry listed sample member => sample_le_exportDuration listed member
  constructor
  · rintro ⟨_, agrees⟩ timeS key
    constructor
    · intro starts
      rcases (exists_on_diffToEvents durationS).mpr starts with
        ⟨event, member, isKey, isOn, rfl⟩
      exact (agrees _ key).mp (mem_soundingAfter.mpr
        ⟨event, member, isKey, isOn, le_rfl, fun other _ _ inTime => inTime⟩)
    · intro releases noStart force
      rcases mem_soundingAfter.mp ((agrees timeS key).mpr force) with
        ⟨event, member, isKey, isOn, inTime, latest⟩
      rcases exists_off_diffToEvents.mpr releases with ⟨other, otherMember, otherKey, _, rfl⟩
      exact noStart ((exists_on_diffToEvents durationS).mp ⟨event, member, isKey, isOn,
        le_antisymm inTime (latest other otherMember otherKey le_rfl)⟩)
  · intro balanced
    have agrees : ∀ timeS key, key ∈ soundingAfter events timeS ↔
        InForce collected durationS key timeS := fun timeS key =>
      mem_soundingAfter_iff_inForce covered (fun moment => balanced moment key) timeS
    refine ⟨?_, agrees⟩
    rw [← soundingAfter_end covered, Finset.eq_empty_iff_forall_notMem]
    intro key sounds
    exact lt_irrefl _ ((agrees durationS key).mp sounds).1

/-! ## Two outputs that share a note -/

def frameAt (tickIndex : Nat) (sourceTimeS : ℚ) (tickIndex_pos : 1 ≤ tickIndex := by decide)
    (sourceTimeS_nonneg : 0 ≤ sourceTimeS := by norm_num) : FrameContext where
  clockId := 1
  tickIndex := tickIndex
  sourceFrameIndex := none
  sourceTimeS := sourceTimeS
  receivedMonotonicNs := 0
  deadlineMonotonicNs := none
  isRealtime := false
  publishGeneration := 0
  tickIndex_pos := tickIndex_pos
  sourceTimeS_nonneg := sourceTimeS_nonneg

/-- One note of channel 0 at full velocity. -/
def oneNote (note : Fin 128) (context : FrameContext) : MidiStateFrame where
  notes := ⟨[(⟨0, note⟩, 127)], by simp⟩
  context := context
  sourceNodeId := 2
  active := by
    intro entry member
    rw [List.mem_singleton.mp member]
    exact (by decide : (127 : Fin 128) ≠ 0)

/-- One output holds the note from 0 to 2, the other from 1 to 3. -/
def sharedNote : Collected := Dict.ofEntries [
  (10, [(0, oneNote 60 (frameAt 1 0)), (2, .silent (frameAt 3 2) 10)]),
  (11, [(1, oneNote 60 (frameAt 2 1)), (3, .silent (frameAt 4 3) 11)])]

/-- The release of the first output at 2 silences the note of the second. -/
theorem sharedNote_is_cut :
    ¬ ∀ timeS key, key ∈ soundingAfter
        (diffToEvents sharedNote (exportDuration sharedNote [])) timeS ↔
      InForce sharedNote (exportDuration sharedNote []) key timeS := by
  intro agrees
  have desired : InForce sharedNote (exportDuration sharedNote []) ⟨0, 60⟩ 2 := by
    decide +kernel
  have cut : ⟨0, 60⟩ ∉ soundingAfter
      (diffToEvents sharedNote (exportDuration sharedNote [])) 2 := by
    decide +kernel
  exact cut ((agrees 2 ⟨0, 60⟩).mpr desired)

end Runtime
end Synesthesia
