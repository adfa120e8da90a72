import Synesthesia.Midi.ReceiverSimulation

namespace Synesthesia
namespace Midi

open Foundation Contracts

/-!
# The newest desired state of a healthy service

While its ports are listed and nothing fails, the sender applies the newest
published state before it becomes idle.  Only a panic takes the state away:
one that is issued after the publication, or one that is still in flight then,
because the sender empties the mailbox when it ends a panic.
-/

/-! ## Operations that cannot fail -/

namespace Session

/-- The ports that the session knows of list the selected outputs. -/
def Lists (session : Session) (outputs : List String) : Prop :=
  ∀ output ∈ outputs, output ≠ "" ∧ session.resolvePortId output ∈ session.availablePortIds

instance (session : Session) (outputs : List String) : Decidable (session.Lists outputs) :=
  inferInstanceAs (Decidable (∀ output ∈ outputs, _ ∧ _))

theorem Lists.of_entries {session next : Session} {outputs : List String}
    (lists : session.Lists outputs)
    (entries : next.availablePortEntries = session.availablePortEntries) : next.Lists outputs := by
  intro output member
  unfold resolvePortId availablePortIds
  rw [entries]
  exact lists output member

end Session

/-- The selected outputs are listed, and neither opening nor sending fails. -/
structure Backend.Serves (backend : Backend) (outputs : List String) : Prop where
  listed : ∃ entries, backend.enumerate = .ok entries ∧
    ({ Session.initial with availablePortEntries := entries } : Session).Lists outputs
  opens : ∀ name, backend.openOutput name = none
  sends : ∀ attempt, backend.sendFault attempt = none

namespace Session

variable {backend : Backend}

/-- What a message that gets through leaves of the session. -/
structure Keeps (session next : Session) : Prop where
  port : next.port = session.port
  entries : next.availablePortEntries = session.availablePortEntries

theorem Keeps.refl (session : Session) : session.Keeps session := ⟨rfl, rfl⟩

theorem Keeps.trans {first second third : Session} (before : first.Keeps second)
    (after : second.Keeps third) : first.Keeps third :=
  ⟨after.port.trans before.port, after.entries.trans before.entries⟩

section Faultless

variable (sends : ∀ attempt, backend.sendFault attempt = none)
include sends

theorem attemptSend_faultless (session : Session) (message : MidiMessage) :
    ∃ next, attemptSend backend session message = (next, none) ∧ session.Keeps next := by
  unfold attemptSend
  rw [sends]
  exact ⟨_, rfl, rfl, rfl⟩

theorem sendAll_faultless (messages : List MidiMessage) (session : Session) :
    ∃ next, sendAll backend messages (session, none) = (next, none) ∧ session.Keeps next := by
  induction messages generalizing session with
  | nil => exact ⟨session, rfl, Keeps.refl session⟩
  | cons message rest ih =>
      rcases attemptSend_faultless sends session message with ⟨next, attempted, kept⟩
      rcases ih next with ⟨final, finished, keptAfter⟩
      refine ⟨final, ?_, kept.trans keptAfter⟩
      rw [sendAll, attempted]
      exact finished

theorem panicCurrent_faultless (closing : Bool) (additionalChannels : List (Fin 16))
    (session : Session) :
    ∃ next, panicCurrent backend closing none additionalChannels session = (next, none) ∧
      next.availablePortEntries = session.availablePortEntries := by
  have sent : ∀ messages : List MidiMessage, ∃ next, (if session.port.isSome = true then
      sendAll backend messages (session, none) else (session, none)) = (next, none) ∧
      session.Keeps next := by
    intro messages
    split_ifs
    · exact sendAll_faultless sends messages session
    · exact ⟨session, rfl, Keeps.refl session⟩
  simp only [panicCurrent]
  generalize List.map MidiMessage.noteOff _ ++ List.map MidiMessage.allNotesOff _ = messages
  rcases sent messages with ⟨next, finished, kept⟩
  rw [finished]
  refine ⟨_, rfl, ?_⟩
  simp only
  split_ifs
  · unfold closePort
    split
    · exact kept.entries
    · exact kept.entries
  · exact kept.entries

variable {session : Session}

theorem send_faultless (isOpen : session.port.isSome = true)
    (message : MidiMessage) :
    ∃ next, send backend session message = (next, true) ∧ session.Keeps next := by
  rcases Option.isSome_iff_exists.mp isOpen with ⟨name, port⟩
  rcases attemptSend_faultless sends session message with ⟨next, attempted, kept⟩
  refine ⟨next, ?_, kept⟩
  rw [send, port]
  simp only [attempted]

theorem sendNoteOffs_faultless (keys : List MidiNoteKey)
    (isOpen : session.port.isSome = true) :
    ∃ next, sendNoteOffs backend keys session = (next, true) ∧ session.Keeps next := by
  induction keys generalizing session with
  | nil => exact ⟨session, rfl, Keeps.refl session⟩
  | cons key rest ih =>
      rcases send_faultless sends isOpen (.noteOff key) with ⟨next, sent, kept⟩
      have nextOpen : ({ next with sent := next.sent.erase key } : Session).port.isSome = true := by
        rw [← isOpen, ← kept.port]
      rcases ih nextOpen with ⟨final, finished, keptAfter⟩
      refine ⟨final, ?_, kept.trans ⟨keptAfter.port, keptAfter.entries⟩⟩
      rw [sendNoteOffs, sent]
      exact finished

theorem sendNoteOns_faultless (entries : List (MidiNoteKey × Fin 128))
    (isOpen : session.port.isSome = true) :
    ∃ next, sendNoteOns backend entries session = (next, true) ∧ session.Keeps next := by
  induction entries generalizing session with
  | nil => exact ⟨session, rfl, Keeps.refl session⟩
  | cons entry rest ih =>
      rcases entry with ⟨key, velocity⟩
      rcases send_faultless sends isOpen (.noteOn key velocity) with ⟨next, sent, kept⟩
      have nextOpen : ({ next with
          sent := next.sent.insert key velocity
          usedChannels := insert key.channel next.usedChannels } : Session).port.isSome = true := by
        rw [← isOpen, ← kept.port]
      rcases ih nextOpen with ⟨final, finished, keptAfter⟩
      refine ⟨final, ?_, kept.trans ⟨keptAfter.port, keptAfter.entries⟩⟩
      rw [sendNoteOns, sent]
      exact finished

theorem reconcile_faultless (desired : Dict MidiNoteKey (Fin 128))
    (configuration : MidiOutputConfiguration)
    (isOpen : session.port.isSome = true) :
    ∃ next, reconcile backend desired configuration session = (next, true) ∧
      session.Keeps next := by
  rcases sendNoteOffs_faultless sends (noteOffKeys configuration session.sent desired) isOpen with
    ⟨middle, released, kept⟩
  have middleOpen : middle.port.isSome = true := by
    rw [kept.port]
    exact isOpen
  rcases sendNoteOns_faultless sends (noteOnEntries configuration session.sent desired)
    middleOpen with ⟨next, started, keptAfter⟩
  refine ⟨next, ?_, kept.trans keptAfter⟩
  simp only [reconcile, released]
  exact started

theorem greet_faultless (channels : List (Fin 16)) (session : Session) :
    ∃ next, greet backend channels session = (next, true) ∧ session.Keeps next := by
  induction channels generalizing session with
  | nil => exact ⟨session, rfl, Keeps.refl session⟩
  | cons channel rest ih =>
      rcases attemptSend_faultless sends session (.allNotesOff channel) with ⟨next, sent, kept⟩
      rcases ih next with ⟨final, finished, keptAfter⟩
      refine ⟨final, ?_, kept.trans keptAfter⟩
      rw [greet, sent]
      exact finished

end Faultless

variable {outputs : List String}

theorem openExactPort_faultless (serves : backend.Serves outputs)
    (selectedPort : String) (desired : DesiredState) (session : Session) :
    ∃ next, openExactPort backend selectedPort desired session = (next, .ready) ∧
      next.port = some selectedPort ∧
      next.availablePortEntries = session.availablePortEntries := by
  simp only [openExactPort, serves.opens]
  generalize List.filter _ (List.finRange 16) = channels
  rcases greet_faultless serves.sends channels { session with
      connectionState := .connecting
      port := some selectedPort
      wire := session.wire ++ [.opened selectedPort] } with ⟨next, greeted, kept⟩
  rw [greeted]
  exact ⟨_, rfl, kept.port, kept.entries⟩

/-- A state that selects a listed output is applied. -/
theorem applyDesired_faultless (serves : backend.Serves outputs)
    {desired : DesiredState} (selects : desired.configuration.outputPort ∈ outputs)
    {session : Session} (lists : session.Lists outputs) :
    ∃ next, applyDesired backend desired session = (next, .ready) ∧
      next.availablePortEntries = session.availablePortEntries := by
  rcases lists _ selects with ⟨selected, isListed⟩
  have switched : ∃ next, (if session.port.isSome ∧
      session.port ≠ some (session.resolvePortId desired.configuration.outputPort) then
        (panicCurrent backend true none [] { session with
          selectedPort := desired.configuration.outputPort }).1
      else { session with selectedPort := desired.configuration.outputPort }) = next ∧
      next.availablePortEntries = session.availablePortEntries := by
    split_ifs
    · rcases panicCurrent_faultless serves.sends true [] { session with
        selectedPort := desired.configuration.outputPort } with ⟨next, panicked, entries⟩
      exact ⟨next, by rw [panicked], entries⟩
    · exact ⟨_, rfl, rfl⟩
  rcases switched with ⟨next, isNext, entries⟩
  have opened : ∃ ready, (if next.port.isSome = true then (next, Outcome.ready)
      else if session.resolvePortId desired.configuration.outputPort ∉ next.availablePortIds then
        ({ next with
            connectionState := .unavailable
            lastError := some ("MIDI output '" ++ desired.configuration.outputPort ++
              "' is not currently available") }, .skipped)
      else openExactPort backend (session.resolvePortId desired.configuration.outputPort) desired
        next) = (ready, .ready) ∧ ready.port.isSome = true ∧
      ready.availablePortEntries = session.availablePortEntries := by
    split_ifs with isOpen listed
    · exact ⟨next, rfl, isOpen, entries⟩
    · rcases openExactPort_faultless serves
        (session.resolvePortId desired.configuration.outputPort) desired next with
        ⟨ready, finished, port, kept⟩
      exact ⟨ready, finished, by rw [port]; rfl, kept.trans entries⟩
    · refine absurd ?_ listed
      unfold availablePortIds
      rw [entries]
      exact isListed
  rcases opened with ⟨ready, isReady, isOpen, readyEntries⟩
  rcases reconcile_faultless serves.sends desired.notes desired.configuration isOpen with
    ⟨final, reconciled, kept⟩
  refine ⟨final, ?_, kept.entries.trans readyEntries⟩
  simp only [applyDesired, isNext, if_neg selected, isReady, reconciled]

/-- A refresh finds the selected outputs. -/
theorem refreshPortNames_faultless (serves : backend.Serves outputs)
    (session : Session) :
    ∃ next, refreshPortNames backend session = (next, .ready) ∧ next.Lists outputs := by
  rcases serves.listed with ⟨entries, enumerated, lists⟩
  have settled : ∀ selectedPort,
      (({ session with availablePortEntries := entries } : Session).settle
        selectedPort).Lists outputs := by
    intro selectedPort
    refine lists.of_entries ?_
    unfold settle
    split_ifs <;> rfl
  simp only [refreshPortNames, enumerated]
  split
  · split_ifs
    · exact ⟨_, rfl, settled _⟩
    · rcases panicCurrent_faultless serves.sends true [] { session with
        availablePortEntries := entries } with ⟨next, panicked, kept⟩
      rw [panicked]
      exact ⟨_, rfl, lists.of_entries kept⟩
  · exact ⟨_, rfl, settled _⟩

end Session

/-! ## The newest publication -/

/-- A service with what its callers and its sender did last: the state published
last, whether a panic was in flight then or was issued since, and the state
applied last. -/
structure Observed where
  service : MidiOutputService
  published : Option DesiredState
  panicInFlight : Bool
  panicSince : Bool
  applied : Option DesiredState

namespace Observed

open MidiOutputService

def initial : Observed := ⟨MidiOutputService.initial, none, false, false, none⟩

/-- Whether a caller finds the service open. -/
def isAccepting (service : MidiOutputService) : Bool := !(service.closing || service.closed)

/-- What a step adds to the observation. -/
def observe (observed : Observed) (next : MidiOutputService) : Step → Observed
  | .enqueue desired =>
      if isAccepting observed.service then
        { observed with
          service := next
          published := some desired
          panicInFlight :=
            decide (observed.service.panicCompleted < observed.service.panicRequested)
          panicSince := false }
      else { observed with service := next }
  | .requestPanic _ =>
      { observed with
        service := next
        panicSince := observed.panicSince || isAccepting observed.service }
  | .panic _ =>
      { observed with
        service := next
        panicSince := observed.panicSince || isAccepting observed.service }
  | .work backend =>
      match observed.service.sender with
      | .applying desired =>
          match (Session.applyDesired backend desired observed.service.session).2 with
          | .ready => { observed with service := next, applied := some desired }
          | _ => { observed with service := next }
      | _ => { observed with service := next }
  | _ => { observed with service := next }

def step (observed : Observed) (action : Step) : Option Observed :=
  (observed.service.step action).map (fun next => observed.observe next action)

/-- A step of a service whose ports stay open and healthy: published states
select listed outputs, nothing of the backend fails, and nobody closes the service. -/
def StaysHealthy (outputs : List String) : Step → Prop
  | .enqueue desired => desired.configuration.outputPort ∈ outputs
  | .work backend => backend.Serves outputs
  | .close => False
  | _ => True

/-- The condition of `wait_until_idle`. -/
def IsIdle (service : MidiOutputService) : Prop :=
  service.pending = none ∧ service.sender = .idle ∧ service.refreshRequested = false ∧
    service.panicRequested ≤ service.panicCompleted

instance (service : MidiOutputService) : Decidable (IsIdle service) :=
  inferInstanceAs (Decidable (_ ∧ _ ∧ _ ∧ _))

/-- The open port sounds the notes of the state. -/
def Sounds (session : Session) (desired : DesiredState) : Prop :=
  session.port.isSome = true ∧ ∀ key, key ∈ session.sent.keys ↔ key ∈ desired.notes.keys

/-! ## The invariant -/

/-- Where the newest state is while no panic interferes: in the mailbox, with
the sender, or applied. -/
structure Current (observed : Observed) (desired : DesiredState) : Prop where
  latest : observed.service.latest = some desired
  quiet : observed.service.panicRequested ≤ observed.service.panicCompleted
  pending : ∀ other, observed.service.pending = some other → other = desired
  settled : observed.service.pending = none →
    match observed.service.sender with
    | .applying other => other = desired
    | .readingLatest => True
    | _ => observed.applied = some desired ∧ Sounds observed.service.session desired

structure Fresh (outputs : List String) (observed : Observed) : Prop where
  accepting : isAccepting observed.service = true
  running : observed.service.sender ≠ .closing
  sound : observed.service.session.Sound
  selects : ∀ desired, observed.service.Carries desired →
    desired.configuration.outputPort ∈ outputs
  listed : observed.service.session.Lists outputs ∨ observed.service.sender = .refreshing ∨
    observed.service.refreshRequested = true ∧ observed.service.sender ≠ .readingLatest ∧
      ∀ desired, observed.service.sender ≠ .applying desired
  panicking : ∀ request, observed.service.sender = .panicking request ∨
    observed.service.sender = .panicEnding request →
      observed.service.panicCompleted < request ∧ request ≤ observed.service.panicRequested
  current : ∀ desired, observed.published = some desired → observed.panicInFlight = false →
    observed.panicSince = false → observed.Current desired

variable {outputs : List String}

theorem fresh_initial : Fresh outputs initial where
  accepting := rfl
  running := nofun
  sound := Session.sound_initial
  selects := by
    rintro desired (pending | latest | applying)
    · cases pending
    · cases latest
    · cases applying
  listed := Or.inr (Or.inr ⟨rfl, nofun, nofun⟩)
  panicking := by
    rintro request (panicking | ending)
    · cases panicking
    · cases ending
  current := nofun

variable {observed : Observed} {next : MidiOutputService}

/-- A step that leaves the mailbox, the panics and the sender as they are. -/
theorem Fresh.of_frame (fresh : observed.Fresh outputs)
    (sender : next.sender = observed.service.sender)
    (session : next.session = observed.service.session)
    (pending : next.pending = observed.service.pending)
    (latest : next.latest = observed.service.latest)
    (requested : next.panicRequested = observed.service.panicRequested)
    (completed : next.panicCompleted = observed.service.panicCompleted)
    (accepting : isAccepting next = isAccepting observed.service)
    (refreshing : observed.service.refreshRequested = true → next.refreshRequested = true) :
    Fresh outputs { observed with service := next } where
  accepting := accepting.trans fresh.accepting
  running := by
    rw [sender]
    exact fresh.running
  sound := by
    rw [session]
    exact fresh.sound
  selects := by
    unfold Carries
    rw [pending, latest, sender]
    exact fresh.selects
  listed := by
    rw [session, sender]
    exact fresh.listed.imp_right (Or.imp_right (fun waiting => ⟨refreshing waiting.1, waiting.2⟩))
  panicking := by
    rw [sender, requested, completed]
    exact fresh.panicking
  current := by
    intro desired isPublished inFlight since
    have current := fresh.current desired isPublished inFlight since
    refine ⟨latest.trans current.latest, ?_, ?_, ?_⟩
    · rw [requested, completed]
      exact current.quiet
    · rw [pending]
      exact current.pending
    · rw [pending, sender, session]
      exact current.settled

/-- The sender takes the next action. -/
theorem Fresh.chooseAction (fresh : observed.Fresh outputs)
    {refreshDue : Bool} (idle : observed.service.sender = .idle)
    (taken : observed.service.chooseAction refreshDue = some next) :
    Fresh outputs { observed with service := next } := by
  have accepting := fresh.accepting
  unfold MidiOutputService.chooseAction at taken
  split_ifs at taken with closing panics refreshes
  · simp [isAccepting, closing] at accepting
  · cases taken
    refine ⟨accepting, nofun, fresh.sound, ?_, ?_, ?_, ?_⟩
    · rintro desired (pending | latest | applying)
      · exact fresh.selects desired (Or.inl pending)
      · exact fresh.selects desired (Or.inr (Or.inl latest))
      · cases applying
    · rcases fresh.listed with listed | refreshing | ⟨requested, _⟩
      · exact Or.inl listed
      · cases idle.symm.trans refreshing
      · exact Or.inr (Or.inr ⟨requested, nofun, nofun⟩)
    · rintro request (panicking | ending)
      · cases panicking
        exact ⟨panics, le_rfl⟩
      · cases ending
    · intro desired isPublished inFlight since
      exact absurd panics (fresh.current desired isPublished inFlight since).quiet.not_gt
  · cases taken
    refine ⟨accepting, nofun, fresh.sound, ?_, Or.inr (Or.inl rfl), ?_, ?_⟩
    · rintro desired (pending | latest | applying)
      · exact fresh.selects desired (Or.inl pending)
      · exact fresh.selects desired (Or.inr (Or.inl latest))
      · cases applying
    · rintro request (panicking | ending)
      · cases panicking
      · cases ending
    · intro desired isPublished inFlight since
      have current := fresh.current desired isPublished inFlight since
      refine ⟨current.latest, current.quiet, current.pending, fun isEmpty => ?_⟩
      have settled := current.settled isEmpty
      rw [idle] at settled
      exact settled
  · cases isPending : observed.service.pending with
    | none =>
        rw [isPending] at taken
        cases taken
    | some newest =>
        rw [isPending] at taken
        cases taken
        rw [Bool.or_eq_true, not_or] at refreshes
        refine ⟨accepting, nofun, fresh.sound, ?_, ?_, ?_, ?_⟩
        · rintro desired (pending | latest | applying)
          · cases pending
          · exact fresh.selects desired (Or.inr (Or.inl latest))
          · cases applying
            exact fresh.selects newest (Or.inl isPending)
        · rcases fresh.listed with listed | refreshing | ⟨requested, _⟩
          · exact Or.inl listed
          · cases idle.symm.trans refreshing
          · exact absurd requested refreshes.1
        · rintro request (panicking | ending)
          · cases panicking
          · cases ending
        · intro desired isPublished inFlight since
          have current := fresh.current desired isPublished inFlight since
          exact ⟨current.latest, current.quiet, nofun, fun _ => current.pending newest isPending⟩

variable {desired : DesiredState}

/-- No panic is in progress while the newest state is undisturbed. -/
theorem Fresh.not_panicking (fresh : observed.Fresh outputs)
    {request : Nat} (busy : observed.service.sender = .panicking request ∨
      observed.service.sender = .panicEnding request)
    (current : observed.Current desired) : False := by
  have ahead := fresh.panicking request busy
  have quiet := current.quiet
  omega

/-- The sender works on a healthy backend. -/
theorem Fresh.senderWork (fresh : observed.Fresh outputs)
    {backend : Backend} (serves : backend.Serves outputs)
    (taken : observed.service.senderWork backend = some next) :
    Fresh outputs (observed.observe next (.work backend)) := by
  have accepting := fresh.accepting
  have nextSound := senderWork_sound fresh.sound taken
  unfold MidiOutputService.senderWork at taken
  unfold observe
  cases sender : observed.service.sender with
  | idle =>
      rw [sender] at taken
      cases taken
  | stopped =>
      rw [sender] at taken
      cases taken
  | closing => exact absurd sender fresh.running
  | panicking request =>
      rw [sender] at taken
      rcases Session.panicCurrent_faultless serves.sends false [] observed.service.session with
        ⟨session, panicked, entries⟩
      simp only [panicked] at taken
      cases taken
      refine ⟨accepting, nofun, nextSound, ?_, ?_, ?_, ?_⟩
      · rintro desired (pending | latest | applying)
        · exact fresh.selects desired (Or.inl pending)
        · exact fresh.selects desired (Or.inr (Or.inl latest))
        · cases applying
      · rcases fresh.listed with listed | refreshing | ⟨requested, _⟩
        · exact Or.inl (listed.of_entries entries)
        · cases sender.symm.trans refreshing
        · exact Or.inr (Or.inr ⟨requested, nofun, nofun⟩)
      · rintro other (panicking | ending)
        · cases panicking
        · cases ending
          exact fresh.panicking request (Or.inl sender)
      · intro desired isPublished inFlight since
        exact (fresh.not_panicking (Or.inl sender)
          (fresh.current desired isPublished inFlight since)).elim
  | panicEnding request =>
      rw [sender] at taken
      cases taken
      refine ⟨accepting, nofun, nextSound, ?_, ?_, ?_, ?_⟩
      · rintro desired (pending | latest | applying)
        · cases pending
        · cases latest
        · cases applying
      · rcases fresh.listed with listed | refreshing | ⟨requested, _⟩
        · exact Or.inl listed
        · cases sender.symm.trans refreshing
        · exact Or.inr (Or.inr ⟨requested, nofun, nofun⟩)
      · rintro other (panicking | ending)
        · cases panicking
        · cases ending
      · intro desired isPublished inFlight since
        exact (fresh.not_panicking (Or.inr sender)
          (fresh.current desired isPublished inFlight since)).elim
  | refreshing =>
      rw [sender] at taken
      rcases Session.refreshPortNames_faultless serves observed.service.session with
        ⟨session, refreshed, lists⟩
      simp only [refreshed, finish] at taken
      cases taken
      refine ⟨accepting, nofun, nextSound, ?_, Or.inl lists, ?_, ?_⟩
      · rintro desired (pending | latest | applying)
        · exact fresh.selects desired (Or.inl pending)
        · exact fresh.selects desired (Or.inr (Or.inl latest))
        · cases applying
      · rintro other (panicking | ending)
        · cases panicking
        · cases ending
      · intro desired isPublished inFlight since
        have current := fresh.current desired isPublished inFlight since
        exact ⟨current.latest, current.quiet, current.pending, fun _ => trivial⟩
  | readingLatest =>
      rw [sender] at taken
      have listed : observed.service.session.Lists outputs := by
        rcases fresh.listed with listed | refreshing | ⟨_, notReading, _⟩
        · exact listed
        · cases sender.symm.trans refreshing
        · exact absurd sender notReading
      cases isLatest : observed.service.latest with
      | none =>
          simp only [isLatest] at taken
          cases taken
          refine ⟨accepting, nofun, nextSound, ?_, Or.inl listed, ?_, ?_⟩
          · rintro desired (pending | latest | applying)
            · exact fresh.selects desired (Or.inl pending)
            · cases latest
            · cases applying
          · rintro other (panicking | ending)
            · cases panicking
            · cases ending
          · intro desired isPublished inFlight since
            have current := fresh.current desired isPublished inFlight since
            cases isLatest.symm.trans current.latest
      | some newest =>
          simp only [isLatest] at taken
          cases taken
          refine ⟨accepting, nofun, nextSound, ?_, Or.inl listed, ?_, ?_⟩
          · rintro desired (pending | latest | applying)
            · exact fresh.selects desired (Or.inl pending)
            · exact fresh.selects desired (Or.inr (Or.inl (isLatest.trans latest)))
            · cases applying
              exact fresh.selects newest (Or.inr (Or.inl isLatest))
          · rintro other (panicking | ending)
            · cases panicking
            · cases ending
          · intro desired isPublished inFlight since
            have current := fresh.current desired isPublished inFlight since
            have isNewest := isLatest.symm.trans current.latest
            refine ⟨isNewest, current.quiet, current.pending, fun _ => ?_⟩
            cases isNewest
            rfl
  | applying newest =>
      rw [sender] at taken
      have listed : observed.service.session.Lists outputs := by
        rcases fresh.listed with listed | refreshing | ⟨_, _, notApplying⟩
        · exact listed
        · cases sender.symm.trans refreshing
        · exact absurd sender (notApplying newest)
      rcases Session.applyDesired_faultless serves
        (fresh.selects newest (Or.inr (Or.inr sender))) listed with ⟨session, applied, entries⟩
      have sounding := (Session.applyDesired_sound backend newest fresh.sound).2.1
      simp only [applied] at taken sounding
      cases taken
      simp only [applied]
      refine ⟨accepting, nofun, nextSound, ?_, Or.inl (listed.of_entries entries), ?_, ?_⟩
      · rintro desired (pending | latest | applying)
        · exact fresh.selects desired (Or.inl pending)
        · exact fresh.selects desired (Or.inr (Or.inl latest))
        · cases applying
      · rintro other (panicking | ending)
        · cases panicking
        · cases ending
      · intro desired isPublished inFlight since
        have current := fresh.current desired isPublished inFlight since
        refine ⟨current.latest, current.quiet, current.pending, fun isEmpty => ?_⟩
        have settled := current.settled isEmpty
        rw [sender] at settled
        cases settled
        exact ⟨rfl, sounding trivial⟩

/-- A panic overtakes the newest state. -/
theorem Fresh.recordPanic (fresh : observed.Fresh outputs)
    (sender : next.sender = observed.service.sender)
    (session : next.session = observed.service.session) (pending : next.pending = none)
    (latest : next.latest = none)
    (requested : next.panicRequested = observed.service.panicRequested + 1)
    (completed : next.panicCompleted = observed.service.panicCompleted)
    (accepting : isAccepting next = isAccepting observed.service)
    (refreshing : next.refreshRequested = observed.service.refreshRequested) :
    Fresh outputs { observed with service := next, panicSince := true } where
  accepting := accepting.trans fresh.accepting
  running := by
    rw [sender]
    exact fresh.running
  sound := by
    rw [session]
    exact fresh.sound
  selects := by
    rintro desired (isPending | isLatest | applying)
    · cases pending.symm.trans isPending
    · cases latest.symm.trans isLatest
    · exact fresh.selects desired (Or.inr (Or.inr (sender.symm.trans applying)))
  listed := by
    rw [session, sender, refreshing]
    exact fresh.listed
  panicking := by
    intro request busy
    rw [sender] at busy
    have ahead := fresh.panicking request busy
    rw [requested, completed]
    exact ⟨ahead.1, Nat.le_succ_of_le ahead.2⟩
  current := fun _ _ _ since => nomatch since

theorem Fresh.put (fresh : observed.Fresh outputs)
    (selects : desired.configuration.outputPort ∈ outputs)
    (sender : next.sender = observed.service.sender)
    (session : next.session = observed.service.session) (pending : next.pending = some desired)
    (latest : next.latest = some desired)
    (requested : next.panicRequested = observed.service.panicRequested)
    (completed : next.panicCompleted = observed.service.panicCompleted)
    (accepting : isAccepting next = isAccepting observed.service)
    (refreshing : next.refreshRequested = observed.service.refreshRequested) :
    Fresh outputs { observed with
      service := next
      published := some desired
      panicInFlight := decide (observed.service.panicCompleted < observed.service.panicRequested)
      panicSince := false } where
  accepting := accepting.trans fresh.accepting
  running := by
    rw [sender]
    exact fresh.running
  sound := by
    rw [session]
    exact fresh.sound
  selects := by
    rintro other (isPending | isLatest | applying)
    · cases pending.symm.trans isPending
      exact selects
    · cases latest.symm.trans isLatest
      exact selects
    · exact fresh.selects other (Or.inr (Or.inr (sender.symm.trans applying)))
  listed := by
    rw [session, sender, refreshing]
    exact fresh.listed
  panicking := by
    intro request busy
    rw [sender] at busy
    rw [requested, completed]
    exact fresh.panicking request busy
  current := by
    intro other isPublished inFlight _
    cases isPublished
    refine ⟨latest, ?_, ?_, ?_⟩
    · rw [requested, completed]
      exact Nat.not_lt.mp (of_decide_eq_false inFlight)
    · intro other isPending
      cases pending.symm.trans isPending
      rfl
    · intro isEmpty
      cases pending.symm.trans isEmpty

theorem Fresh.step {observed next : Observed} {action : Step} (fresh : observed.Fresh outputs)
    (healthy : StaysHealthy outputs action) (taken : observed.step action = some next) :
    next.Fresh outputs := by
  rcases Option.map_eq_some_iff.mp taken with ⟨service, stepped, rfl⟩
  have accepting : (observed.service.closing || observed.service.closed) = false := by
    have accepting := fresh.accepting
    unfold isAccepting at accepting
    simpa using accepting
  have isAccepted : isAccepting observed.service = true := fresh.accepting
  cases action with
  | checkStale desired =>
      simp only [MidiOutputService.step] at stepped
      split_ifs at stepped
      · cases stepped
        exact fresh
      · cases stepped
        exact fresh.of_frame rfl rfl rfl rfl rfl rfl rfl id
  | enqueue desired =>
      simp only [MidiOutputService.step, accepting, Bool.false_eq_true, if_false] at stepped
      split_ifs at stepped
      cases stepped
      simp only [observe, isAccepted]
      exact fresh.put healthy rfl rfl rfl rfl rfl rfl rfl rfl
  | requestPanic publishGeneration =>
      simp only [MidiOutputService.step, accepting] at stepped
      cases stepped
      simp only [observe, isAccepted, Bool.or_true]
      exact fresh.recordPanic rfl rfl rfl rfl rfl rfl rfl rfl
  | panic publishGeneration =>
      simp only [MidiOutputService.step, accepting] at stepped
      cases stepped
      simp only [observe, isAccepted, Bool.or_true]
      exact fresh.recordPanic rfl rfl rfl rfl rfl rfl rfl rfl
  | panicReturn request =>
      simp only [MidiOutputService.step] at stepped
      split_ifs at stepped
      cases stepped
      exact fresh.of_frame rfl rfl rfl rfl rfl rfl rfl id
  | panicTimeout request =>
      simp only [MidiOutputService.step] at stepped
      split_ifs at stepped
      cases stepped
      exact fresh.of_frame rfl rfl rfl rfl rfl rfl rfl id
  | refreshOutputs =>
      simp only [MidiOutputService.step, accepting] at stepped
      cases stepped
      exact fresh.of_frame rfl rfl rfl rfl rfl rfl rfl (fun _ => rfl)
  | close => exact healthy.elim
  | take refreshDue =>
      simp only [MidiOutputService.step] at stepped
      split_ifs at stepped with idle
      exact fresh.chooseAction idle stepped
  | work backend => exact fresh.senderWork healthy stepped

/-! ## The newest state is applied -/

/-- In every run of a service whose ports stay open and healthy: when the
service is idle, the state published last is the state applied last, and the
open port sounds it, unless a panic was in flight at its publication or has
been issued since. -/
theorem newest_state_applied {actions : List Step}
    (reached : run step initial actions = some observed)
    (healthy : ∀ action ∈ actions, StaysHealthy outputs action)
    (idle : IsIdle observed.service)
    (newest : observed.published = some desired) (inFlight : observed.panicInFlight = false)
    (since : observed.panicSince = false) :
    observed.applied = some desired ∧ Sounds observed.service.session desired := by
  have fresh : observed.Fresh outputs := run_invariant
    (fun _ _ _ fresh permitted taken => Fresh.step fresh permitted taken)
    fresh_initial (meets_of_mem healthy initial) reached
  have settled := (fresh.current desired newest inFlight since).settled idle.1
  rw [idle.2.1] at settled
  exact settled

theorem healthyBackend_serves : healthyBackend.Serves ["out"] :=
  ⟨⟨[("out", "out")], rfl, by decide⟩, fun _ => rfl, fun _ => rfl⟩

/-- A panic that ends before the next publication. -/
def publishAfterPanic : List Step := [
  .requestPanic 4, .take false, .work healthyBackend, .work healthyBackend,
  .checkStale fifthState, .take false, .work healthyBackend, .work healthyBackend,
  .enqueue fifthState, .take false, .work healthyBackend]

theorem newest_state_applied_publishAfterPanic :
    ∃ observed, run step initial publishAfterPanic = some observed ∧
      observed.applied = some fifthState ∧ Sounds observed.service.session fifthState := by
  have runs : (run step initial publishAfterPanic).any (fun observed =>
      decide (IsIdle observed.service ∧ observed.published = some fifthState ∧
        observed.panicInFlight = false ∧ observed.panicSince = false)) = true := by decide +kernel
  rcases (Option.any_eq_true _ _).mp runs with ⟨observed, reached, holds⟩
  rcases of_decide_eq_true holds with ⟨idle, newest, inFlight, since⟩
  have healthy : ∀ action ∈ publishAfterPanic, StaysHealthy ["out"] action := by
    simp [publishAfterPanic, StaysHealthy, healthyBackend_serves, fifthState]
  exact ⟨observed, reached, newest_state_applied reached healthy idle newest inFlight since⟩

/-- A state that is newer than the panic. -/
def sixthState : DesiredState := { fifthState with publishGeneration := 6 }

/-- The newer state is published while the sender works on the panic. -/
def publishDuringPanic : List Step := [
  .take false, .work healthyBackend, .work healthyBackend, .requestPanic 5, .take false,
  .checkStale sixthState, .enqueue sixthState, .work healthyBackend, .work healthyBackend]

/-- The newer state is dropped when the panic ends. -/
theorem state_published_during_panic_is_dropped :
    ∃ observed, run step initial publishDuringPanic = some observed ∧
      (∀ action ∈ publishDuringPanic, StaysHealthy ["out"] action) ∧ IsIdle observed.service ∧
      observed.published = some sixthState ∧
      observed.service.ordering.isStale sixthState.publishGeneration = false ∧
      observed.panicSince = false ∧ observed.applied ≠ some sixthState := by
  have runs : (run step initial publishDuringPanic).any (fun observed =>
      decide (IsIdle observed.service ∧ observed.published = some sixthState ∧
        observed.service.ordering.isStale sixthState.publishGeneration = false ∧
        observed.panicSince = false ∧ observed.applied ≠ some sixthState)) = true := by
    decide +kernel
  rcases (Option.any_eq_true _ _).mp runs with ⟨observed, reached, holds⟩
  have healthy : ∀ action ∈ publishDuringPanic, StaysHealthy ["out"] action := by
    simp [publishDuringPanic, StaysHealthy, healthyBackend_serves, sixthState, fifthState]
  exact ⟨observed, reached, healthy, of_decide_eq_true holds⟩

end Observed

end Midi
end Synesthesia
