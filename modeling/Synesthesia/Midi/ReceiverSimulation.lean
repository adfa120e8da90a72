import Synesthesia.Midi.OutputOrdering
import Synesthesia.Midi.Receiver

namespace Synesthesia
namespace Midi

open Foundation Contracts

/-!
# The session follows the receiver

Between two operations of the sender, the notes of `_sent` are the notes that
the receiver of the open port has sounding.  A failure closes the port, and
before that every note that may still sound is silenced.
-/

namespace Session

variable {backend : Backend}

/-- The line of an open port is healthy and sounds what was sent; without a
port nothing is left open. -/
structure Sound (session : Session) : Prop where
  running : ∀ name, session.port = some name →
    Line.after session.wire = .healthy session.sent.keys.toFinset
  shut : session.port = none → Line.after session.wire = .idle ∧ session.sent = Dict.empty

theorem sound_initial : initial.Sound := ⟨nofun, fun _ => ⟨rfl, rfl⟩⟩

/-- Fields that no message concerns. -/
theorem Sound.of_same {session next : Session} (sound : session.Sound)
    (port : next.port = session.port) (sent : next.sent = session.sent)
    (wire : next.wire = session.wire) : next.Sound := by
  refine ⟨?_, ?_⟩
  · rw [port, sent, wire]
    exact sound.running
  · rw [port, sent, wire]
    exact sound.shut

/-! ## Sending -/

/-- What a message does to the session: its port and notes stay, the line moves. -/
structure Sends (session next : Session) (event : WireEvent) : Prop where
  port : next.port = session.port
  sent : next.sent = session.sent
  line : Line.after next.wire = (Line.after session.wire).next event

theorem attemptSend_cases (backend : Backend) (session : Session) (message : MidiMessage) :
    (∃ next, attemptSend backend session message = (next, none) ∧
        Sends session next (.sent message)) ∨
      ∃ next error, attemptSend backend session message = (next, some error) ∧
        Sends session next (.failed message) := by
  unfold attemptSend
  cases backend.sendFault session.attempts with
  | none => exact Or.inl ⟨_, rfl, rfl, rfl, Line.after_concat _ _⟩
  | some error => exact Or.inr ⟨_, error, rfl, rfl, rfl, Line.after_concat _ _⟩

/-- After a failure, messages that start no note leave owed what none of them
silences. -/
theorem sendAll_failed (backend : Backend) {messages : List MidiMessage}
    (quiet : ∀ message ∈ messages, message.starts = ∅) {session : Session}
    {error : Option BackendError} {owed : Finset MidiNoteKey}
    (line : Line.after session.wire = .failed owed) (isError : error.isSome = true) :
    ∃ next failure left, sendAll backend messages (session, error) = (next, failure) ∧
      next.port = session.port ∧ next.sent = session.sent ∧ failure.isSome = true ∧
      Line.after next.wire = .failed left ∧
      ∀ key ∈ left, key ∈ owed ∧ ∀ message ∈ messages, message.silences key = false := by
  induction messages generalizing session error owed with
  | nil => exact ⟨session, error, owed, rfl, rfl, rfl, isError, line, fun _ isOwed =>
      ⟨isOwed, nofun⟩⟩
  | cons message rest ih =>
      have isQuiet := quiet message List.mem_cons_self
      have restQuiet := fun other member => quiet other (List.mem_cons_of_mem _ member)
      have onward : ∀ (next : Session) (raised : Option BackendError) (event : WireEvent),
          attemptSend backend session message = (next, raised) → Sends session next event →
          (Line.failed owed).next event = Line.repay owed message →
            ∃ final failure left,
              sendAll backend (message :: rest) (session, error) = (final, failure) ∧
              final.port = session.port ∧ final.sent = session.sent ∧ failure.isSome = true ∧
              Line.after final.wire = .failed left ∧
              ∀ key ∈ left, key ∈ owed ∧ ∀ other ∈ message :: rest, other.silences key = false := by
        intro next raised event attempted sends isNext
        have nextLine : Line.after next.wire = .failed
            (owed.filter (fun key => message.silences key = false)) := by
          rw [sends.line, line, isNext, Line.repay, if_pos isQuiet]
        have stillError : (error.or raised).isSome = true := by
          rw [Option.isSome_or, isError, Bool.true_or]
        rcases ih restQuiet nextLine stillError with
          ⟨final, failure, left, finished, port, sent, failed, finalLine, unsilenced⟩
        refine ⟨final, failure, left, ?_, port.trans sends.port, sent.trans sends.sent, failed,
          finalLine, ?_⟩
        · rw [sendAll, attempted]
          exact finished
        · intro key isLeft
          rcases unsilenced key isLeft with ⟨isOwed, others⟩
          rcases Finset.mem_filter.mp isOwed with ⟨before, silent⟩
          exact ⟨before, List.forall_mem_cons.mpr ⟨silent, others⟩⟩
      rcases attemptSend_cases backend session message with
        ⟨next, attempted, sends⟩ | ⟨next, raised, attempted, sends⟩
      · exact onward next none (.sent message) attempted sends rfl
      · exact onward next (some raised) (.failed message) attempted sends rfl

/-- On a healthy line, messages that start no note either all get through, or
leave owed at most what only one of them silences: the one that failed first. -/
theorem sendAll_healthy (backend : Backend) {messages : List MidiMessage}
    (quiet : ∀ message ∈ messages, message.starts = ∅) {session : Session}
    {error : Option BackendError} {sounding : Finset MidiNoteKey}
    (line : Line.after session.wire = .healthy sounding) :
    ∃ next failure, sendAll backend messages (session, error) = (next, failure) ∧
      next.port = session.port ∧ next.sent = session.sent ∧
      (error.isSome = true → failure.isSome = true) ∧
      ((∃ left, Line.after next.wire = .healthy left ∧
          ∀ key ∈ left, key ∈ sounding ∧ ∀ message ∈ messages, message.silences key = false) ∨
        failure.isSome = true ∧ ∃ owed, Line.after next.wire = .failed owed ∧
          ∀ key ∈ owed, key ∈ sounding ∧
            (messages.filter (fun message => message.silences key)).length ≤ 1) := by
  induction messages generalizing session error sounding with
  | nil =>
      exact ⟨session, error, rfl, rfl, rfl, id,
        Or.inl ⟨sounding, line, fun _ sounds => ⟨sounds, nofun⟩⟩⟩
  | cons message rest ih =>
      have isQuiet := quiet message List.mem_cons_self
      have restQuiet := fun other member => quiet other (List.mem_cons_of_mem _ member)
      rcases attemptSend_cases backend session message with
        ⟨next, attempted, sends⟩ | ⟨next, raised, attempted, sends⟩
      · have nextLine : Line.after next.wire = .healthy (message.hear sounding) := by
          rw [sends.line, line]
          rfl
        rcases @ih restQuiet next (error.or none) _ nextLine with
          ⟨final, failure, finished, port, sent, kept, outcome⟩
        refine ⟨final, failure, ?_, port.trans sends.port, sent.trans sends.sent, ?_, ?_⟩
        · rw [sendAll, attempted]
          exact finished
        · rw [Option.or_none] at kept
          exact kept
        · rcases outcome with ⟨left, finalLine, unsilenced⟩ | ⟨failed, owed, finalLine, few⟩
          · refine Or.inl ⟨left, finalLine, ?_⟩
            intro key isLeft
            rcases unsilenced key isLeft with ⟨heard, others⟩
            rcases (mem_hear_of_silencer isQuiet).mp heard with ⟨before, silent⟩
            exact ⟨before, List.forall_mem_cons.mpr ⟨silent, others⟩⟩
          · refine Or.inr ⟨failed, owed, finalLine, ?_⟩
            intro key isOwed
            rcases few key isOwed with ⟨heard, atMostOne⟩
            rcases (mem_hear_of_silencer isQuiet).mp heard with ⟨before, silent⟩
            refine ⟨before, ?_⟩
            rw [List.filter_cons, silent]
            exact atMostOne
      · have nextLine : Line.after next.wire = .failed sounding := by
          rw [sends.line, line, Line.next, isQuiet, Finset.union_empty]
        have isError : (error.or (some raised)).isSome = true := by
          cases error <;> rfl
        rcases sendAll_failed backend restQuiet nextLine isError with
          ⟨final, failure, owed, finished, port, sent, failed, finalLine, unsilenced⟩
        refine ⟨final, failure, ?_, port.trans sends.port, sent.trans sends.sent, fun _ => failed,
          Or.inr ⟨failed, owed, finalLine, ?_⟩⟩
        · rw [sendAll, attempted]
          exact finished
        · intro key isOwed
          rcases unsilenced key isOwed with ⟨before, others⟩
          refine ⟨before, ?_⟩
          rw [List.filter_cons, List.filter_eq_nil_iff.mpr (by simpa using others)]
          split_ifs
          · exact le_rfl
          · exact Nat.zero_le 1

/-! ## Panics -/

theorem panicMessages_quiet (additionalChannels : List (Fin 16)) (session : Session) :
    ∀ message ∈ panicMessages additionalChannels session, message.starts = ∅ := by
  intro message member
  rcases List.mem_append.mp member with off | all
  · rcases List.mem_map.mp off with ⟨key, _, rfl⟩
    rfl
  · rcases List.mem_map.mp all with ⟨channel, _, rfl⟩
    rfl

/-- A channel in use is silenced as a whole. -/
theorem allNotesOff_mem_panicMessages {additionalChannels : List (Fin 16)} {session : Session}
    {channel : Fin 16}
    (used : channel ∈ session.sent.keys.map MidiNoteKey.channel ∨ channel ∈ additionalChannels) :
    MidiMessage.allNotesOff channel ∈ ((List.finRange 16).filter (fun channel =>
      decide (channel ∈ session.usedChannels ∨
        channel ∈ (sortByKey keyOrder session.sent.keys).map MidiNoteKey.channel ∨
        channel ∈ additionalChannels))).map MidiMessage.allNotesOff := by
  refine List.mem_map_of_mem (List.mem_filter.mpr ⟨List.mem_finRange channel, ?_⟩)
  refine decide_eq_true (Or.inr ?_)
  refine used.imp_left (fun inUse => ?_)
  exact (((sortByKey_perm keyOrder session.sent.keys).map MidiNoteKey.channel).mem_iff).mpr inUse

/-- A sent note is silenced twice, by its note-off and with its channel. -/
theorem two_le_silencers (additionalChannels : List (Fin 16)) {session : Session}
    {key : MidiNoteKey} (isSent : key ∈ session.sent.keys) :
    2 ≤ ((panicMessages additionalChannels session).filter
      (fun message => message.silences key)).length := by
  have offs : MidiMessage.noteOff key ∈
      (sortByKey keyOrder session.sent.keys).map MidiMessage.noteOff :=
    List.mem_map_of_mem ((mem_sortByKey keyOrder).mpr isSent)
  have inUse : key.channel ∈ session.sent.keys.map MidiNoteKey.channel ∨
      key.channel ∈ additionalChannels := Or.inl (List.mem_map_of_mem isSent)
  have offSilences : (MidiMessage.noteOff key).silences key = true := decide_eq_true rfl
  have allSilences : (MidiMessage.allNotesOff key.channel).silences key = true :=
    decide_eq_true rfl
  have first := List.length_pos_of_mem (List.mem_filter.mpr ⟨offs, offSilences⟩)
  have second := List.length_pos_of_mem
    (List.mem_filter.mpr ⟨allNotesOff_mem_panicMessages inUse, allSilences⟩)
  unfold panicMessages
  rw [List.filter_append, List.length_append]
  exact Nat.add_le_add first second

/-- A port is closed once nothing sounds and nothing is owed. -/
theorem closePort_sound {session : Session} (silent : session.sent = Dict.empty)
    (line : session.port.isSome = true →
      Line.after session.wire = .healthy ∅ ∨ Line.after session.wire = .failed ∅)
    (shut : session.port = none → Line.after session.wire = .idle) :
    session.closePort.Sound ∧ session.closePort.port = none ∧
      session.closePort.sent = Dict.empty := by
  unfold closePort
  cases port : session.port with
  | none =>
      refine ⟨⟨?_, fun _ => ⟨shut port, silent⟩⟩, port, silent⟩
      intro name isOpen
      cases port.symm.trans isOpen
  | some name =>
      refine ⟨⟨nofun, fun _ => ⟨?_, silent⟩⟩, rfl, silent⟩
      rw [Line.after_concat]
      rcases line (by rw [port]; rfl) with healthy | failed
      · rw [healthy]
        rfl
      · rw [failed]
        rfl

/-- What `_panic_current` relies on: a healthy line that sounds what was sent,
or a failed one that owes sent notes and notes on the additional channels. -/
def Panickable (additionalChannels : List (Fin 16)) (initialError : Option BackendError)
    (session : Session) : Prop :=
  (session.port = none → Line.after session.wire = .idle) ∧
    (session.port.isSome = true →
      Line.after session.wire = .healthy session.sent.keys.toFinset ∨
        initialError.isSome = true ∧ ∃ owed, Line.after session.wire = .failed owed ∧
          ∀ key ∈ owed, key ∈ session.sent.keys ∨ key.channel ∈ additionalChannels)

theorem Sound.panickable {session : Session} (sound : session.Sound)
    (additionalChannels : List (Fin 16)) (initialError : Option BackendError) :
    session.Panickable additionalChannels initialError := by
  refine ⟨fun port => (sound.shut port).1, fun port => Or.inl ?_⟩
  rcases Option.isSome_iff_exists.mp port with ⟨name, isOpen⟩
  exact sound.running name isOpen

/-- A panic ends with nothing sent; with a closed port when it was told to
close it or when anything failed. -/
theorem panicCurrent_sound {session : Session} {closing : Bool}
    {initialError : Option BackendError} {additionalChannels : List (Fin 16)}
    (panickable : session.Panickable additionalChannels initialError) :
    let result := panicCurrent backend closing initialError additionalChannels session
    result.1.Sound ∧ result.1.sent = Dict.empty ∧
      (closing = true ∨ initialError.isSome = true → result.1.port = none) := by
  rcases panickable with ⟨shut, running⟩
  -- the session after the messages, with their first failure
  have settled : ∃ next failure,
      (if session.port.isSome then
        sendAll backend (panicMessages additionalChannels session) (session, initialError)
      else (session, initialError)) = (next, failure) ∧
      next.port = session.port ∧ (initialError.isSome = true → failure.isSome = true) ∧
      (next.port = none → Line.after next.wire = .idle) ∧
      (next.port.isSome = true → Line.after next.wire = .healthy ∅ ∨
        failure.isSome = true ∧ Line.after next.wire = .failed ∅) := by
    by_cases isOpen : session.port.isSome = true
    · rw [if_pos isOpen]
      have quiet := panicMessages_quiet additionalChannels session
      rcases running isOpen with line | ⟨isError, owed, line, reachable⟩
      · rcases @sendAll_healthy backend _ quiet session initialError _ line with
          ⟨next, failure, finished, port, _, kept, outcome⟩
        refine ⟨next, failure, finished, port, kept, ?_, ?_⟩
        · intro nextPort
          rw [← port, nextPort] at isOpen
          cases isOpen
        · intro _
          rcases outcome with ⟨left, nextLine, unsilenced⟩ | ⟨failed, left, nextLine, few⟩
          · left
            have nothing : left = ∅ := by
              apply Finset.eq_empty_of_forall_notMem
              intro key isLeft
              rcases unsilenced key isLeft with ⟨sounds, others⟩
              have twice := two_le_silencers additionalChannels
                (List.mem_toFinset.mp sounds)
              rw [List.filter_eq_nil_iff.mpr (by simpa using others)] at twice
              exact absurd twice (by decide)
            rw [nextLine, nothing]
          · right
            have nothing : left = ∅ := by
              apply Finset.eq_empty_of_forall_notMem
              intro key isLeft
              rcases few key isLeft with ⟨sounds, atMostOne⟩
              have twice := two_le_silencers additionalChannels
                (List.mem_toFinset.mp sounds)
              omega
            rw [nextLine, nothing]
            exact ⟨failed, rfl⟩
      · rcases sendAll_failed backend quiet line isError with
          ⟨next, failure, left, finished, port, _, failed, nextLine, unsilenced⟩
        refine ⟨next, failure, finished, port, fun _ => failed, ?_, ?_⟩
        · intro nextPort
          rw [← port, nextPort] at isOpen
          cases isOpen
        · intro _
          right
          have nothing : left = ∅ := by
            apply Finset.eq_empty_of_forall_notMem
            intro key isLeft
            rcases unsilenced key isLeft with ⟨isOwed, others⟩
            have used : key.channel ∈ session.sent.keys.map MidiNoteKey.channel ∨
                key.channel ∈ additionalChannels :=
              (reachable key isOwed).imp_left List.mem_map_of_mem
            have silent := others _
              (List.mem_append_right _ (allNotesOff_mem_panicMessages used))
            simp [MidiMessage.silences] at silent
          rw [nextLine, nothing]
          exact ⟨failed, rfl⟩
    · rw [if_neg isOpen]
      have port : session.port = none := by simpa using isOpen
      refine ⟨session, initialError, rfl, rfl, id, shut, ?_⟩
      rw [port]
      exact fun open_ => absurd open_ Bool.false_ne_true
  rcases settled with ⟨next, failure, finished, port, kept, nextShut, nextRunning⟩
  simp only [panicCurrent]
  rw [show (if session.port.isSome = true then
      sendAll backend
        ((sortByKey keyOrder session.sent.keys).map MidiMessage.noteOff ++
          ((List.finRange 16).filter (fun channel =>
            decide (channel ∈ session.usedChannels ∨
              channel ∈ (sortByKey keyOrder session.sent.keys).map MidiNoteKey.channel ∨
              channel ∈ additionalChannels))).map MidiMessage.allNotesOff)
        (session, initialError)
    else (session, initialError)) = (next, failure) from finished]
  by_cases ends : closing = true ∨ failure.isSome = true
  · rw [if_pos ends]
    have closed := fun lastError => @closePort_sound { next with
      sent := Dict.empty
      usedChannels := ∅
      lastError := lastError } rfl
      (fun isOpen => (nextRunning isOpen).imp_right And.right) nextShut
    exact ⟨(closed _).1, (closed _).2.2, fun _ => (closed _).2.1⟩
  · rw [if_neg ends]
    rw [not_or] at ends
    refine ⟨⟨?_, ?_⟩, rfl, ?_⟩
    · intro name isOpen
      rcases nextRunning (by rw [show next.port = some name from isOpen]; rfl) with
        healthy | ⟨failed, _⟩
      · exact healthy
      · exact absurd failed ends.2
    · exact fun isShut => ⟨nextShut isShut, rfl⟩
    · rintro (isClosing | isError)
      · exact absurd isClosing ends.1
      · exact absurd (kept isError) ends.2

/-! ## Reconciling -/

/-- An ended session: the port is closed and nothing is sent. -/
def Ended (session : Session) : Prop := session.Sound ∧ session.port = none

theorem handleSendFailure_ended {session : Session} {owed : Finset MidiNoteKey}
    (error : BackendError) {attemptedChannel : Fin 16} (isOpen : session.port.isSome = true)
    (line : Line.after session.wire = .failed owed)
    (reachable : ∀ key ∈ owed, key ∈ session.sent.keys ∨ key.channel = attemptedChannel) :
    (handleSendFailure backend error attemptedChannel session).Ended := by
  have panickable : session.Panickable [attemptedChannel] (some error) := by
    refine ⟨?_, fun _ => Or.inr ⟨rfl, owed, line, ?_⟩⟩
    · intro port
      rw [port] at isOpen
      cases isOpen
    · intro key isOwed
      exact (reachable key isOwed).imp_right List.mem_singleton.mpr
  have panicked := @panicCurrent_sound backend session true (some error) _ panickable
  exact ⟨panicked.1.of_same rfl rfl rfl, panicked.2.2 (Or.inl rfl)⟩

theorem channel_of_starts {message : MidiMessage} {key : MidiNoteKey}
    (starts : key ∈ message.starts) : key.channel = message.channel := by
  cases message with
  | noteOn other velocity =>
      rw [Finset.mem_singleton.mp starts]
      rfl
  | noteOff other => cases starts
  | allNotesOff channel => cases starts

/-- A message gets through and moves the receiver, or the session ends. -/
theorem send_cases (backend : Backend) {session : Session} (sound : session.Sound)
    (message : MidiMessage) :
    (∃ next, send backend session message = (next, true) ∧ next.port = session.port ∧
        session.port.isSome = true ∧ next.sent = session.sent ∧
        Line.after next.wire = .healthy (message.hear session.sent.keys.toFinset)) ∨
      ∃ next, send backend session message = (next, false) ∧ next.Ended := by
  unfold send
  cases port : session.port with
  | none => exact Or.inr ⟨session, rfl, sound, port⟩
  | some name =>
      have line := sound.running name port
      rcases attemptSend_cases backend session message with
        ⟨next, attempted, sends⟩ | ⟨next, error, attempted, sends⟩
      · left
        rw [attempted]
        refine ⟨next, rfl, sends.port.trans port, rfl, sends.sent, ?_⟩
        rw [sends.line, line]
        rfl
      · right
        rw [attempted]
        refine ⟨_, rfl, handleSendFailure_ended error ?_ (sends.line.trans (by rw [line]; rfl)) ?_⟩
        · rw [sends.port, port]
          rfl
        · intro key isOwed
          rw [sends.sent]
          rcases Finset.mem_union.mp isOwed with sounds | starts
          · exact Or.inl (List.mem_toFinset.mp sounds)
          · exact Or.inr (channel_of_starts starts)

theorem toFinset_keys_erase (dict : Dict MidiNoteKey (Fin 128)) (key : MidiNoteKey) :
    (dict.erase key).keys.toFinset = dict.keys.toFinset.erase key := by
  ext other
  simp [Dict.mem_keys_erase, and_comm]

theorem toFinset_keys_insert (dict : Dict MidiNoteKey (Fin 128)) (key : MidiNoteKey)
    (velocity : Fin 128) :
    (dict.insert key velocity).keys.toFinset = insert key dict.keys.toFinset := by
  ext other
  simp [Dict.mem_keys_insert]

theorem sendNoteOffs_cases (backend : Backend) (keys : List MidiNoteKey) {session : Session}
    (sound : session.Sound) :
    (∃ next, sendNoteOffs backend keys session = (next, true) ∧ next.Sound ∧
        next.port = session.port ∧
        ∀ key, key ∈ next.sent.keys ↔ key ∈ session.sent.keys ∧ key ∉ keys) ∨
      ∃ next, sendNoteOffs backend keys session = (next, false) ∧ next.Ended := by
  induction keys generalizing session with
  | nil => exact Or.inl ⟨session, rfl, sound, rfl, by simp⟩
  | cons key rest ih =>
      rw [sendNoteOffs]
      rcases send_cases backend sound (.noteOff key) with
        ⟨next, attempted, port, isOpen, sent, line⟩ | ⟨next, attempted, ended⟩
      · have nextSound : Sound { next with sent := next.sent.erase key } := by
          refine ⟨?_, ?_⟩
          · intro name _
            rw [line, toFinset_keys_erase, sent]
            rfl
          · intro shut
            rw [show next.port = none from shut] at port
            rw [← port] at isOpen
            cases isOpen
        rw [attempted]
        rcases ih nextSound with
          ⟨final, finished, finalSound, finalPort, keys⟩ | ⟨final, finished, ended⟩
        · refine Or.inl ⟨final, finished, finalSound, finalPort.trans port, ?_⟩
          intro other
          rw [keys, Dict.mem_keys_erase, sent, List.mem_cons]
          tauto
        · exact Or.inr ⟨final, finished, ended⟩
      · rw [attempted]
        exact Or.inr ⟨next, rfl, ended⟩

theorem sendNoteOns_cases (backend : Backend) {entries : List (MidiNoteKey × Fin 128)}
    (active : ∀ entry ∈ entries, entry.2 ≠ 0) {session : Session} (sound : session.Sound) :
    (∃ next, sendNoteOns backend entries session = (next, true) ∧ next.Sound ∧
        next.port = session.port ∧
        ∀ key, key ∈ next.sent.keys ↔ key ∈ session.sent.keys ∨ key ∈ entries.map Prod.fst) ∨
      ∃ next, sendNoteOns backend entries session = (next, false) ∧ next.Ended := by
  induction entries generalizing session with
  | nil => exact Or.inl ⟨session, rfl, sound, rfl, by simp⟩
  | cons entry rest ih =>
      rcases entry with ⟨key, velocity⟩
      rw [sendNoteOns]
      have isActive : velocity ≠ 0 := active (key, velocity) List.mem_cons_self
      have restActive := fun other member => active other (List.mem_cons_of_mem _ member)
      rcases send_cases backend sound (.noteOn key velocity) with
        ⟨next, attempted, port, isOpen, sent, line⟩ | ⟨next, attempted, ended⟩
      · have nextSound : Sound { next with
            sent := next.sent.insert key velocity
            usedChannels := insert key.channel next.usedChannels } := by
          refine ⟨?_, ?_⟩
          · intro name _
            rw [line, toFinset_keys_insert, sent, MidiMessage.hear, if_neg isActive]
          · intro shut
            rw [show next.port = none from shut] at port
            rw [← port] at isOpen
            cases isOpen
        rw [attempted]
        rcases ih restActive nextSound with
          ⟨final, finished, finalSound, finalPort, keys⟩ | ⟨final, finished, ended⟩
        · refine Or.inl ⟨final, finished, finalSound, finalPort.trans port, ?_⟩
          intro other
          rw [keys, Dict.mem_keys_insert, sent, List.map_cons, List.mem_cons]
          tauto
        · exact Or.inr ⟨final, finished, ended⟩
      · rw [attempted]
        exact Or.inr ⟨next, rfl, ended⟩

theorem mem_retriggered {configuration : MidiOutputConfiguration}
    {sent desired : Dict MidiNoteKey (Fin 128)} {entry : MidiNoteKey × Fin 128}
    (member : entry ∈ retriggered configuration sent desired) :
    entry.1 ∈ sent.keys ∧ entry ∈ desired.entries := by
  rcases List.mem_filterMap.mp member with ⟨old, isOld, found⟩
  rcases Option.bind_eq_some_iff.mp found with ⟨velocity, isDesired, changed⟩
  split_ifs at changed
  cases changed
  have isSent : old.1 ∈ sent.keys := List.mem_map_of_mem isOld
  exact ⟨isSent, Dict.mem_of_get? isDesired⟩

theorem noteOnEntries_subset (configuration : MidiOutputConfiguration)
    (sent desired : Dict MidiNoteKey (Fin 128)) :
    ∀ entry ∈ noteOnEntries configuration sent desired, entry ∈ desired.entries := by
  intro entry member
  rcases List.mem_append.mp member with again | added
  · split_ifs at again
    · cases again
    · exact (mem_retriggered again).2
  · exact (List.mem_filter.mp added).1

/-- The note-offs and note-ons of a reconciliation leave the desired keys, under
every velocity policy. -/
theorem reconciled_keys (configuration : MidiOutputConfiguration)
    (sent desired : Dict MidiNoteKey (Fin 128)) (key : MidiNoteKey) :
    (key ∈ sent.keys ∧ key ∉ noteOffKeys configuration sent desired) ∨
        key ∈ (noteOnEntries configuration sent desired).map Prod.fst ↔
      key ∈ desired.keys := by
  constructor
  · rintro (⟨isSent, kept⟩ | started)
    · by_contra unwanted
      exact kept (List.mem_filter.mpr ⟨isSent, by simp [unwanted]⟩)
    · rcases List.mem_map.mp started with ⟨entry, member, rfl⟩
      exact List.mem_map_of_mem (noteOnEntries_subset configuration sent desired entry member)
  · intro wanted
    by_cases isSent : key ∈ sent.keys
    · by_cases released : key ∈ noteOffKeys configuration sent desired
      · right
        have again := (List.mem_filter.mp released).2
        simp only [wanted, not_true_eq_false, decide_false, Bool.false_or, Bool.and_eq_true,
          decide_eq_true_eq] at again
        rcases List.mem_map.mp again.2 with ⟨entry, member, rfl⟩
        refine List.mem_map_of_mem (List.mem_append_left _ ?_)
        rw [if_neg (by rw [again.1]; decide)]
        exact member
      · exact Or.inl ⟨isSent, released⟩
    · right
      rw [noteOnEntries, List.map_append, List.mem_append]
      exact Or.inr (mem_added_keys.mpr ⟨wanted, isSent⟩)

/-- A completed reconciliation leaves exactly the desired notes. -/
theorem reconcile_cases (backend : Backend) (configuration : MidiOutputConfiguration)
    {desired : Dict MidiNoteKey (Fin 128)} (active : ∀ entry ∈ desired.entries, entry.2 ≠ 0)
    {session : Session} (sound : session.Sound) :
    (∃ next, reconcile backend desired configuration session = (next, true) ∧ next.Sound ∧
        next.port = session.port ∧ ∀ key, key ∈ next.sent.keys ↔ key ∈ desired.keys) ∨
      ∃ next, reconcile backend desired configuration session = (next, false) ∧ next.Ended := by
  simp only [reconcile]
  have notesActive : ∀ entry ∈ noteOnEntries configuration session.sent desired, entry.2 ≠ 0 :=
    fun entry member => active entry (noteOnEntries_subset configuration session.sent desired
      entry member)
  rcases sendNoteOffs_cases backend (noteOffKeys configuration session.sent desired) sound with
    ⟨middle, released, middleSound, middlePort, kept⟩ | ⟨next, released, ended⟩
  · rw [released]
    rcases sendNoteOns_cases backend notesActive middleSound with
      ⟨next, started, nextSound, nextPort, keys⟩ | ⟨next, started, ended⟩
    · refine Or.inl ⟨next, started, nextSound, nextPort.trans middlePort, ?_⟩
      intro key
      rw [keys, kept]
      exact reconciled_keys configuration session.sent desired key
    · exact Or.inr ⟨next, started, ended⟩
  · rw [released]
    exact Or.inr ⟨next, rfl, ended⟩

/-! ## Opening, applying and refreshing -/

theorem greet_cases (backend : Backend) (channels : List (Fin 16)) {session : Session}
    (sound : session.Sound) (isOpen : session.port.isSome = true)
    (silent : session.sent = Dict.empty) :
    (∃ next, greet backend channels session = (next, true) ∧ next.Sound ∧
        next.port = session.port ∧ next.sent = Dict.empty) ∨
      ∃ next, greet backend channels session = (next, false) ∧ next.Ended := by
  induction channels generalizing session with
  | nil => exact Or.inl ⟨session, rfl, sound, rfl, silent⟩
  | cons channel rest ih =>
      rcases Option.isSome_iff_exists.mp isOpen with ⟨name, port⟩
      have line := sound.running name port
      rw [greet]
      rcases attemptSend_cases backend session (.allNotesOff channel) with
        ⟨next, attempted, sends⟩ | ⟨next, error, attempted, sends⟩
      · have nextSound : next.Sound := by
          refine ⟨?_, ?_⟩
          · intro other _
            rw [sends.line, line, sends.sent, silent]
            rfl
          · intro shut
            rw [sends.port, port] at shut
            cases shut
        rw [attempted]
        rcases ih nextSound (by rw [sends.port]; exact isOpen)
          (sends.sent.trans silent) with
          ⟨final, finished, finalSound, finalPort, finalSent⟩ | ⟨final, finished, ended⟩
        · exact Or.inl ⟨final, finished, finalSound, finalPort.trans sends.port, finalSent⟩
        · exact Or.inr ⟨final, finished, ended⟩
      · rw [attempted]
        refine Or.inr ⟨_, rfl, handleSendFailure_ended error (by rw [sends.port]; exact isOpen)
          (sends.line.trans (by rw [line]; rfl)) ?_⟩
        intro key isOwed
        rw [silent] at isOwed
        simp [MidiMessage.starts] at isOwed

/-- A port is opened and greeted, or the session stays without one. -/
theorem openExactPort_cases (backend : Backend) (selectedPort : String) (desired : DesiredState)
    {session : Session} (sound : session.Sound) (shut : session.port = none) :
    (∃ next, openExactPort backend selectedPort desired session = (next, .ready) ∧ next.Sound ∧
        next.port = some selectedPort) ∨
      ∃ next outcome, openExactPort backend selectedPort desired session = (next, outcome) ∧
        outcome ≠ .ready ∧ next.Ended := by
  unfold openExactPort
  cases backend.openOutput selectedPort with
  | some error =>
      exact Or.inr ⟨_, _, rfl, nofun, sound.of_same rfl rfl rfl, shut⟩
  | none =>
      rcases sound.shut shut with ⟨line, silent⟩
      have opened : Sound { session with
          connectionState := .connecting
          port := some selectedPort
          wire := session.wire ++ [.opened selectedPort] } := by
        refine ⟨?_, nofun⟩
        intro name _
        rw [Line.after_concat, line, silent]
        rfl
      simp only
      rcases greet_cases backend ((List.finRange 16).filter (fun channel =>
          decide (channel ∈ desired.notes.keys.map MidiNoteKey.channel))) opened rfl silent with
        ⟨next, greeted, nextSound, port, _⟩ | ⟨next, greeted, ended⟩
      · rw [greeted]
        exact Or.inl ⟨_, rfl, nextSound.of_same rfl rfl rfl, port⟩
      · rw [greeted]
        exact Or.inr ⟨_, _, rfl, nofun, ended⟩

/-- An applied state is what the receiver sounds, or the session says why not. -/
theorem applyDesired_sound (backend : Backend) (desired : DesiredState) {session : Session}
    (sound : session.Sound) :
    let result := applyDesired backend desired session
    result.1.Sound ∧
      (result.2 = .ready → result.1.port.isSome = true ∧
        ∀ key, key ∈ result.1.sent.keys ↔ key ∈ desired.notes.keys) ∧
      (result.2 = .discarded → result.1.port = none) := by
  have selected : Sound { session with selectedPort := desired.configuration.outputPort } :=
    sound.of_same rfl rfl rfl
  generalize isSelected : ({ session with
    selectedPort := desired.configuration.outputPort } : Session) = current at selected
  -- a port that is not selected any more is panicked and closed
  have switched : ∃ next, (if session.port.isSome ∧
      session.port ≠ some (session.resolvePortId desired.configuration.outputPort) then
        (panicCurrent backend true none [] current).1 else current) = next ∧ next.Sound := by
    split_ifs
    · exact ⟨_, rfl, (panicCurrent_sound (selected.panickable [] none)).1⟩
    · exact ⟨current, rfl, selected⟩
  rcases switched with ⟨next, isNext, nextSound⟩
  simp only [applyDesired, isSelected, isNext]
  by_cases unselected : desired.configuration.outputPort = ""
  · rw [if_pos unselected]
    have panicked := (@panicCurrent_sound backend next true none []
      (nextSound.panickable [] none)).1
    refine ⟨?_, (fun skipped => nomatch skipped), fun skipped => nomatch skipped⟩
    split_ifs
    · exact panicked.of_same rfl rfl rfl
    · exact nextSound.of_same rfl rfl rfl
  · rw [if_neg unselected]
    have opened : ∃ ready outcome, (if next.port.isSome = true then (next, Outcome.ready)
        else if session.resolvePortId desired.configuration.outputPort ∉ next.availablePortIds then
          ({ next with
              connectionState := .unavailable
              lastError := some ("MIDI output '" ++ desired.configuration.outputPort ++
                "' is not currently available") }, .skipped)
        else openExactPort backend (session.resolvePortId desired.configuration.outputPort) desired
          next) = (ready, outcome) ∧ ready.Sound ∧
        (outcome = .ready → ready.port.isSome = true) ∧
        (outcome = .discarded → ready.port = none) := by
      split_ifs with isOpen listed
      · exact ⟨next, .ready, rfl, nextSound, (fun _ => isOpen), nofun⟩
      · have shut : next.port = none := by simpa using isOpen
        rcases openExactPort_cases backend
            (session.resolvePortId desired.configuration.outputPort) desired nextSound shut with
          ⟨ready, finished, readySound, port⟩ | ⟨ready, outcome, finished, notReady, ended⟩
        · exact ⟨ready, .ready, finished, readySound, (fun _ => by rw [port]; rfl), nofun⟩
        · exact ⟨ready, outcome, finished, ended.1, (fun isReady => absurd isReady notReady),
            fun _ => ended.2⟩
      · exact ⟨_, _, rfl, nextSound.of_same rfl rfl rfl, (fun isReady => nomatch isReady),
          fun discarded => nomatch discarded⟩
    rcases opened with ⟨ready, outcome, isReady, readySound, readyPort, discardedPort⟩
    rw [isReady]
    cases outcome with
    | ready =>
        simp only
        rcases reconcile_cases backend desired.configuration desired.active readySound with
          ⟨final, reconciled, finalSound, port, keys⟩ | ⟨final, reconciled, ended⟩
        · rw [reconciled]
          exact ⟨finalSound, (fun _ => ⟨by rw [port]; exact readyPort rfl, keys⟩), nofun⟩
        · rw [reconciled]
          exact ⟨ended.1, nofun, fun _ => ended.2⟩
    | skipped => exact ⟨readySound, nofun, nofun⟩
    | discarded => exact ⟨readySound, nofun, discardedPort⟩

theorem settle_sound {session : Session} (sound : session.Sound) (selectedPort : String) :
    (session.settle selectedPort).Sound := by
  unfold settle
  split_ifs
  · exact sound.of_same rfl rfl rfl
  · exact sound.of_same rfl rfl rfl
  · exact sound

theorem refreshPortNames_sound (backend : Backend) {session : Session} (sound : session.Sound) :
    (refreshPortNames backend session).1.Sound := by
  unfold refreshPortNames
  cases backend.enumerate with
  | error error =>
      exact (panicCurrent_sound (sound.panickable [] (some error))).1.of_same rfl rfl rfl
  | ok entries =>
      have listed : Sound { session with availablePortEntries := entries } :=
        sound.of_same rfl rfl rfl
      simp only
      split
      · split_ifs
        · exact settle_sound listed _
        · exact (panicCurrent_sound (listed.panickable [] none)).1.of_same rfl rfl rfl
      · exact settle_sound listed _

end Session

/-! ## Runs of the service -/

namespace MidiOutputService

variable {service next : MidiOutputService}

/-- Only the sender's work outside its lock touches the session. -/
theorem step_session {action : Step}
    (taken : service.step action = some next) :
    next.session = service.session ∨
      ∃ backend, action = .work backend ∧ service.senderWork backend = some next := by
  cases action with
  | work backend => exact Or.inr ⟨backend, rfl, taken⟩
  | take refreshDue =>
      left
      simp only [step] at taken
      split_ifs at taken
      unfold chooseAction at taken
      split_ifs at taken
      · cases taken
        rfl
      · cases taken
        rfl
      · cases taken
        rfl
      · cases pending : service.pending with
        | none =>
            rw [pending] at taken
            cases taken
        | some desired =>
            rw [pending] at taken
            cases taken
            rfl
  | checkStale desired =>
      left
      simp only [step] at taken
      split_ifs at taken <;> cases taken <;> rfl
  | enqueue desired =>
      left
      simp only [step] at taken
      split_ifs at taken <;> cases taken <;> rfl
  | requestPanic publishGeneration =>
      left
      simp only [step] at taken
      split_ifs at taken <;> cases taken <;> rfl
  | panic publishGeneration =>
      left
      simp only [step] at taken
      split_ifs at taken <;> cases taken <;> rfl
  | panicReturn request =>
      left
      simp only [step] at taken
      split_ifs at taken
      cases taken
      rfl
  | panicTimeout request =>
      left
      simp only [step] at taken
      split_ifs at taken
      cases taken
      rfl
  | refreshOutputs =>
      left
      simp only [step] at taken
      split_ifs at taken <;> cases taken <;> rfl
  | close =>
      left
      simp only [step] at taken
      split_ifs at taken <;> cases taken <;> rfl

theorem finish_session (service : MidiOutputService) (sender : Sender)
    (result : Session × Session.Outcome) : (service.finish sender result).session = result.1 := by
  rcases result with ⟨session, outcome⟩
  cases outcome <;> rfl

theorem senderWork_sound {backend : Backend}
    (sound : service.session.Sound) (taken : service.senderWork backend = some next) :
    next.session.Sound := by
  unfold senderWork at taken
  cases sender : service.sender with
  | idle =>
      rw [sender] at taken
      cases taken
  | stopped =>
      rw [sender] at taken
      cases taken
  | closing =>
      rw [sender] at taken
      cases taken
      exact (Session.panicCurrent_sound (sound.panickable [] none)).1.of_same rfl rfl rfl
  | panicking request =>
      rw [sender] at taken
      have panicked := (@Session.panicCurrent_sound backend service.session false none []
        (sound.panickable [] none)).1
      cases result : Session.panicCurrent backend false none [] service.session with
      | mk session error =>
          rw [result] at panicked
          simp only [result] at taken
          cases taken
          cases error with
          | none => exact panicked
          | some error => exact Session.Sound.of_same panicked rfl rfl rfl
  | panicEnding request =>
      rw [sender] at taken
      cases taken
      exact sound
  | refreshing =>
      rw [sender] at taken
      cases taken
      rw [finish_session]
      exact Session.refreshPortNames_sound backend sound
  | readingLatest =>
      rw [sender] at taken
      cases latest : service.latest with
      | none =>
          simp only [latest] at taken
          cases taken
          exact sound
      | some desired =>
          simp only [latest] at taken
          cases taken
          exact sound
  | applying desired =>
      rw [sender] at taken
      cases taken
      rw [finish_session]
      exact (Session.applyDesired_sound backend desired sound).1

theorem step_sound {action : Step}
    (sound : service.session.Sound) (taken : service.step action = some next) :
    next.session.Sound := by
  rcases step_session taken with same | ⟨backend, _, worked⟩
  · rw [same]
    exact sound
  · exact senderWork_sound sound worked

theorem session_sound {steps : List Step} {service : MidiOutputService}
    (reached : run step initial steps = some service) : service.session.Sound :=
  run_invariant (fun _ _ _ sound _ taken => step_sound sound taken)
    (show initial.session.Sound from Session.sound_initial)
    (meets_of_forall (fun _ _ => trivial) initial steps) reached

/-- In every reached state the receiver of the open port sounds the notes of
`_sent`, and an applied state sounds as it was desired.  A port is opened alone,
closed in silence while it is healthy, and closed after its first failed message
once every note that may sound has been tried. -/
theorem receiver_simulation {steps : List Step} {service : MidiOutputService}
    (reached : run step initial steps = some service) :
    (∀ name, service.session.port = some name →
      isOpen service.session.wire = true ∧ isHealthy service.session.wire = true ∧
        receiver service.session.wire = service.session.sent.keys.toFinset) ∧
    (service.session.port = none →
      isOpen service.session.wire = false ∧ service.session.sent = Dict.empty) ∧
    (∀ backend desired, service.sender = .applying desired →
      let result := Session.applyDesired backend desired service.session
      (result.2 = .ready → receiver result.1.wire = desired.notes.keys.toFinset) ∧
        (result.2 = .discarded → result.1.port = none ∧ result.1.sent = Dict.empty)) ∧
    (∀ before name rest, service.session.wire = before ++ .opened name :: rest →
      isOpen before = false) ∧
    (∀ before rest, service.session.wire = before ++ .closed :: rest →
      isHealthy before = true → receiver before = ∅) ∧
    ∀ before message rest, service.session.wire = before ++ .failed message :: rest →
      isHealthy before = true →
        ∃ attempts later, rest = attempts ++ .closed :: later ∧
          (∀ event ∈ attempts, event.isMessage = true) ∧
          ∀ key ∈ receiver before ∪ message.starts,
            ∃ attempt ∈ attempts, attempt.attemptsSilence key = true := by
  have sound := session_sound reached
  have heard : ∀ session : Session, session.Sound → session.port.isSome = true →
      isOpen session.wire = true ∧ isHealthy session.wire = true ∧
        receiver session.wire = session.sent.keys.toFinset := by
    intro session isSound isOpen
    rcases Option.isSome_iff_exists.mp isOpen with ⟨name, port⟩
    have described := Line.after_describes session.wire
    rw [isSound.running name port] at described
    exact ⟨described.2.2, described.2.1, described.1⟩
  have intact : Line.after service.session.wire ≠ .broken ∧
      ∀ left, Line.after service.session.wire ≠ .failed left := by
    cases port : service.session.port with
    | none =>
        rw [(sound.shut port).1]
        exact ⟨nofun, nofun⟩
    | some name =>
        rw [sound.running name port]
        exact ⟨nofun, nofun⟩
  refine ⟨?_, ?_, ?_, fun _ _ _ => Line.opened_alone intact.1,
    fun _ _ => Line.closed_silent intact.1, fun _ _ _ => Line.failed_repaid intact.2 intact.1⟩
  · intro name port
    exact heard service.session sound (by rw [port]; rfl)
  · intro port
    have described := Line.after_describes service.session.wire
    rw [(sound.shut port).1] at described
    exact ⟨described.2, (sound.shut port).2⟩
  · intro backend desired _
    have applied := Session.applyDesired_sound backend desired sound
    refine ⟨?_, fun discarded =>
      ⟨applied.2.2 discarded, (applied.1.shut (applied.2.2 discarded)).2⟩⟩
    intro ready
    rcases applied.2.1 ready with ⟨isOpen, keys⟩
    rw [(heard _ applied.1 isOpen).2.2]
    ext key
    rw [List.mem_toFinset, List.mem_toFinset]
    exact keys key

/-- A backend whose second message fails. -/
def faultyBackend : Backend where
  enumerate := .ok [("out", "out")]
  openOutput _ := none
  sendFault attempt := if attempt = 1 then some ⟨"OSError", "unplugged"⟩ else none

/-- A note is sent on a port that fails with it; a second publication reopens
the port. -/
def reopened : List Step := [
  .checkStale fifthState, .checkStale fifthState, .take false, .work faultyBackend,
  .work faultyBackend, .enqueue fifthState, .take false, .work faultyBackend,
  .enqueue fifthState, .take false, .work faultyBackend]

theorem receiver_simulation_reopened :
    ∃ service, run step initial reopened = some service ∧
      receiver service.session.wire = service.session.sent.keys.toFinset ∧
      ∃ before message rest, service.session.wire = before ++ .failed message :: rest ∧
        ∃ attempts later, rest = attempts ++ .closed :: later ∧
          ∀ key ∈ receiver before ∪ message.starts,
            ∃ attempt ∈ attempts, attempt.attemptsSilence key = true := by
  have runs : (run step initial reopened).any (fun service =>
      decide (service.session.port = some "out" ∧
        service.session.wire.take 3 = [.opened "out", .sent (.allNotesOff 0),
          .failed (.noteOn ⟨0, 60⟩ 100)])) = true := by decide +kernel
  rcases (Option.any_eq_true _ _).mp runs with ⟨service, reached, holds⟩
  rcases of_decide_eq_true holds with ⟨port, start⟩
  rcases receiver_simulation reached with ⟨running, _, _, _, _, failing⟩
  have split : service.session.wire = [.opened "out", .sent (.allNotesOff 0)] ++
      .failed (.noteOn ⟨0, 60⟩ 100) :: service.session.wire.drop 3 := by
    rw [← List.take_append_drop 3 service.session.wire, start]
    simp
  rcases failing _ _ _ split (by decide) with ⟨attempts, later, closes, _, tried⟩
  exact ⟨service, reached, (running "out" port).2.2, _, _, _, split, attempts, later, closes, tried⟩

end MidiOutputService
end Midi
end Synesthesia
