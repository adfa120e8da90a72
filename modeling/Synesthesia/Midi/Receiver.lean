import Mathlib
import Synesthesia.Midi.OutputService

namespace Synesthesia
namespace Midi

open Foundation Contracts

/-!
# What a receiver hears

A standard receiver replays the messages of the open port.  `Line` follows the
wire once more and keeps what a failure leaves open: after a failed message
every note that may still sound must be silenced before the port is closed.
-/

/-! ## The receiver -/

/-- A note-on with velocity zero is a note-off. -/
def MidiMessage.hear (sounding : Finset MidiNoteKey) : MidiMessage → Finset MidiNoteKey
  | .noteOn key velocity => if velocity = 0 then sounding.erase key else insert key sounding
  | .noteOff key => sounding.erase key
  | .allNotesOff channel => sounding.filter (fun key => key.channel ≠ channel)

/-- A message that ends a note. -/
def MidiMessage.silences (key : MidiNoteKey) : MidiMessage → Bool
  | .noteOn _ _ => false
  | .noteOff other => decide (other = key)
  | .allNotesOff channel => decide (key.channel = channel)

/-- The note that a message may start. -/
def MidiMessage.starts : MidiMessage → Finset MidiNoteKey
  | .noteOn key _ => {key}
  | _ => ∅

/-- A receiver of the open port; without an open port nothing sounds. -/
def receive (sounding : Finset MidiNoteKey) : WireEvent → Finset MidiNoteKey
  | .opened _ => ∅
  | .sent message => message.hear sounding
  | .failed _ => sounding
  | .closed => ∅

/-- What the receiver of the open port has sounding after the messages so far. -/
def receiver (wire : List WireEvent) : Finset MidiNoteKey := wire.foldl receive ∅

/-- Whether a port is open. -/
def isOpen (wire : List WireEvent) : Bool :=
  wire.foldl (fun opened event =>
    match event with
    | .opened _ => true
    | .closed => false
    | _ => opened) false

/-- No message has failed since the port was opened. -/
def isHealthy (wire : List WireEvent) : Bool :=
  wire.foldl (fun healthy event =>
    match event with
    | .opened _ => true
    | .failed _ => false
    | _ => healthy) true

/-- An attempt to end a note, delivered or not. -/
def WireEvent.attemptsSilence (key : MidiNoteKey) : WireEvent → Bool
  | .sent message => message.silences key
  | .failed message => message.silences key
  | _ => false

def WireEvent.isMessage : WireEvent → Bool
  | .sent _ => true
  | .failed _ => true
  | _ => false

theorem mem_hear_of_silencer {message : MidiMessage} (quiet : message.starts = ∅)
    {sounding : Finset MidiNoteKey} {key : MidiNoteKey} :
    key ∈ message.hear sounding ↔ key ∈ sounding ∧ message.silences key = false := by
  cases message with
  | noteOn other velocity => simp [MidiMessage.starts] at quiet
  | noteOff other =>
      simp [MidiMessage.hear, MidiMessage.silences, and_comm, eq_comm]
  | allNotesOff channel =>
      simp [MidiMessage.hear, MidiMessage.silences]

/-! ## The line -/

/-- `healthy` carries what sounds; `failed` carries the notes that may still
sound and that no message after the failure has tried to end. -/
inductive Line where
  | idle
  | healthy (sounding : Finset MidiNoteKey)
  | failed (owed : Finset MidiNoteKey)
  | broken

namespace Line

/-- What a message after a failure leaves owed; no note may start then. -/
def repay (owed : Finset MidiNoteKey) (message : MidiMessage) : Line :=
  if message.starts = ∅ then .failed (owed.filter (fun key => message.silences key = false))
  else .broken

def next : Line → WireEvent → Line
  | .idle, .opened _ => .healthy ∅
  | .healthy sounding, .sent message => .healthy (message.hear sounding)
  | .healthy sounding, .failed message => .failed (sounding ∪ message.starts)
  | .healthy sounding, .closed => if sounding = ∅ then .idle else .broken
  | .failed owed, .sent message => repay owed message
  | .failed owed, .failed message => repay owed message
  | .failed owed, .closed => if owed = ∅ then .idle else .broken
  | _, _ => .broken

/-- The line after the events so far. -/
def after (wire : List WireEvent) : Line := wire.foldl next .idle

theorem after_concat (wire : List WireEvent) (event : WireEvent) :
    after (wire ++ [event]) = (after wire).next event := by
  rw [after, List.foldl_append]
  rfl

theorem foldl_broken (events : List WireEvent) : events.foldl next .broken = .broken := by
  induction events with
  | nil => rfl
  | cons event rest ih => exact ih

/-- A line that is not broken was not broken before. -/
theorem next_ne_broken {before rest : List WireEvent} {event : WireEvent}
    (intact : after (before ++ event :: rest) ≠ .broken) :
    (after before).next event ≠ .broken := by
  intro broken
  refine intact ?_
  rw [after, List.foldl_append, List.foldl_cons,
    show before.foldl next .idle = after before from rfl, broken, foldl_broken]

/-- What the line knows about the receiver. -/
def Describes (line : Line) (wire : List WireEvent) : Prop :=
  match line with
  | .idle => receiver wire = ∅ ∧ isOpen wire = false
  | .healthy sounding => receiver wire = sounding ∧ isHealthy wire = true ∧ isOpen wire = true
  | .failed _ => isHealthy wire = false ∧ isOpen wire = true
  | .broken => True

theorem receiver_concat (wire : List WireEvent) (event : WireEvent) :
    receiver (wire ++ [event]) = receive (receiver wire) event := by
  rw [receiver, List.foldl_append]
  rfl

theorem after_describes (wire : List WireEvent) : (after wire).Describes wire := by
  induction wire using List.reverseRecOn with
  | nil => exact ⟨rfl, rfl⟩
  | append_singleton wire event ih =>
      rw [after_concat]
      cases line : after wire with
      | idle =>
          cases event with
          | opened name => simp [next, Describes, receiver_concat, receive, isHealthy, isOpen]
          | _ => trivial
      | healthy sounding =>
          rw [line] at ih
          rcases ih with ⟨heard, healthy, opened⟩
          cases event with
          | opened name => trivial
          | sent message =>
              refine ⟨by rw [receiver_concat, heard]; rfl, ?_, ?_⟩
              · simpa [isHealthy] using healthy
              · simpa [isOpen] using opened
          | failed message =>
              refine ⟨by simp [isHealthy], ?_⟩
              simpa [isOpen] using opened
          | closed =>
              simp only [next]
              split_ifs
              · exact ⟨by rw [receiver_concat]; rfl, by simp [isOpen]⟩
              · trivial
      | failed owed =>
          rw [line] at ih
          rcases ih with ⟨unhealthy, opened⟩
          cases event with
          | opened name => trivial
          | sent message =>
              simp only [next, repay]
              split_ifs
              · refine ⟨?_, ?_⟩
                · simpa [isHealthy] using unhealthy
                · simpa [isOpen] using opened
              · trivial
          | failed message =>
              simp only [next, repay]
              split_ifs
              · refine ⟨by simp [isHealthy], ?_⟩
                simpa [isOpen] using opened
              · trivial
          | closed =>
              simp only [next]
              split_ifs
              · exact ⟨by rw [receiver_concat]; rfl, by simp [isOpen]⟩
              · trivial
      | broken =>
          cases event <;> trivial

/-- What is owed after a failure is repaid before the port is closed. -/
theorem repaid {owed : Finset MidiNoteKey} {events : List WireEvent}
    (settled : ∀ left, events.foldl next (.failed owed) ≠ .failed left)
    (intact : events.foldl next (.failed owed) ≠ .broken) :
    ∃ attempts rest, events = attempts ++ .closed :: rest ∧
      (∀ event ∈ attempts, event.isMessage = true) ∧
      ∀ key ∈ owed, ∃ attempt ∈ attempts, attempt.attemptsSilence key = true := by
  induction events generalizing owed with
  | nil => exact absurd rfl (settled owed)
  | cons event rest ih =>
      have messageCase : ∀ message : MidiMessage, event.isMessage = true →
          (∀ key, event.attemptsSilence key = message.silences key) →
          (Line.failed owed).next event = repay owed message →
            ∃ attempts others, event :: rest = attempts ++ .closed :: others ∧
              (∀ other ∈ attempts, other.isMessage = true) ∧
              ∀ key ∈ owed, ∃ attempt ∈ attempts, attempt.attemptsSilence key = true := by
        intro message isMessage attempts_eq isNext
        rw [List.foldl_cons, isNext] at intact settled
        unfold repay at intact settled
        split_ifs at intact settled with quiet
        · rcases ih settled intact with ⟨attempts, others, split, messages, ends⟩
          refine ⟨event :: attempts, others, by rw [split]; rfl, ?_, ?_⟩
          · exact List.forall_mem_cons.mpr ⟨isMessage, messages⟩
          · intro key isOwed
            cases silenced : message.silences key with
            | true => exact ⟨event, List.mem_cons_self, (attempts_eq key).trans silenced⟩
            | false =>
                rcases ends key (Finset.mem_filter.mpr ⟨isOwed, silenced⟩) with
                  ⟨attempt, member, silences⟩
                exact ⟨attempt, List.mem_cons_of_mem _ member, silences⟩
        · exact absurd (foldl_broken rest) intact
      cases event with
      | opened name => exact absurd (foldl_broken rest) intact
      | sent message => exact messageCase message rfl (fun _ => rfl) rfl
      | failed message => exact messageCase message rfl (fun _ => rfl) rfl
      | closed =>
          rw [List.foldl_cons, next] at intact
          split_ifs at intact with nothing
          · refine ⟨[], rest, rfl, nofun, ?_⟩
            intro key isOwed
            rw [nothing] at isOwed
            cases isOwed
          · exact absurd (foldl_broken rest) intact

/-! ## What an intact line says of its wire -/

variable {wire before rest : List WireEvent}

/-- A port is opened only when none is open. -/
theorem opened_alone {name : String} (intact : after wire ≠ .broken)
    (split : wire = before ++ .opened name :: rest) : isOpen before = false := by
  subst split
  have onward := next_ne_broken intact
  have described := after_describes before
  cases line : after before with
  | idle =>
      rw [line] at described
      exact described.2
  | healthy sounding => exact absurd (by rw [line]; rfl) onward
  | failed owed => exact absurd (by rw [line]; rfl) onward
  | broken => exact absurd (by rw [line]; rfl) onward

/-- Nothing sounds when a healthy port is closed. -/
theorem closed_silent (intact : after wire ≠ .broken)
    (split : wire = before ++ .closed :: rest) (healthy : isHealthy before = true) :
    receiver before = ∅ := by
  subst split
  have onward := next_ne_broken intact
  have described := after_describes before
  cases line : after before with
  | idle => exact absurd (by rw [line]; rfl) onward
  | healthy sounding =>
      rw [line] at described onward
      rw [described.1]
      by_contra sounds
      exact onward (if_neg sounds)
  | failed owed =>
      rw [line] at described
      cases healthy.symm.trans described.1
  | broken => exact absurd (by rw [line]; rfl) onward

/-- After a first failed message the port is closed, once every note that may
sound has been tried. -/
theorem failed_repaid {message : MidiMessage} (settled : ∀ left, after wire ≠ .failed left)
    (intact : after wire ≠ .broken) (split : wire = before ++ .failed message :: rest)
    (healthy : isHealthy before = true) :
    ∃ attempts later, rest = attempts ++ .closed :: later ∧
      (∀ event ∈ attempts, event.isMessage = true) ∧
      ∀ key ∈ receiver before ∪ message.starts,
        ∃ attempt ∈ attempts, attempt.attemptsSilence key = true := by
  subst split
  have onward := next_ne_broken intact
  have described := after_describes before
  cases line : after before with
  | idle => exact absurd (by rw [line]; rfl) onward
  | healthy sounding =>
      rw [line] at described
      have continued : after (before ++ .failed message :: rest) =
          rest.foldl next (.failed (sounding ∪ message.starts)) := by
        rw [after, List.foldl_append, List.foldl_cons,
          show before.foldl next .idle = after before from rfl, line]
        rfl
      rw [continued] at intact settled
      rw [described.1]
      exact repaid settled intact
  | failed owed =>
      rw [line] at described
      cases healthy.symm.trans described.1
  | broken => exact absurd (by rw [line]; rfl) onward

end Line
end Midi
end Synesthesia
