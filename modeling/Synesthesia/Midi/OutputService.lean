import Mathlib
import Synesthesia.Contracts.RuntimeValues
import Synesthesia.Foundation.Runs
import Synesthesia.Foundation.SortByKey
import Synesthesia.Midi.StateDiff
import Synesthesia.Midi.StateOrdering

namespace Synesthesia
namespace Midi

open Foundation Contracts

/-!
# The MIDI output service

`midi/output_service.py`.  Producers put desired states into a one-slot
mailbox; a sender thread owns the port and all sends.  The part of the service
that only the sender touches is its session.  Every locked region of the
source, and every operation of the sender outside its lock, is one step of the
model.
-/

/-! ## Messages and configuration -/

inductive MidiMessage where
  | noteOn (key : MidiNoteKey) (velocity : Fin 128)
  | noteOff (key : MidiNoteKey)
  | allNotesOff (channel : Fin 16)
deriving DecidableEq, Repr

def MidiMessage.channel : MidiMessage → Fin 16
  | noteOn key _ => key.channel
  | noteOff key => key.channel
  | allNotesOff channel => channel

inductive VelocityUpdatePolicy where
  | ignoreWhileHeld
  | retrigger
  | repeatNoteOn
deriving DecidableEq, Repr

structure MidiOutputConfiguration where
  outputPort : String
  velocityPolicy : VelocityUpdatePolicy
  velocityChangeThreshold : Fin 128
deriving DecidableEq, Repr

/-- A desired state with its configuration.  The source drops the generation of
the frame once the stale check is passed; here it stays, to tell states apart. -/
structure DesiredState where
  notes : Dict MidiNoteKey (Fin 128)
  configuration : MidiOutputConfiguration
  publishGeneration : Nat
  active : ∀ entry ∈ notes.entries, entry.2 ≠ 0

instance : DecidableEq DesiredState := fun left right =>
  decidable_of_iff (left.notes = right.notes ∧ left.configuration = right.configuration ∧
      left.publishGeneration = right.publishGeneration) (by
    cases left; cases right; simp)

inductive ConnectionState where
  | unselected
  | connecting
  | connected
  | unavailable
  | error
  | closed
deriving DecidableEq, Repr

/-! ## The session of the sender thread -/

/-- An exception of the MIDI backend: its type and its text. -/
structure BackendError where
  typeName : String
  text : String
deriving DecidableEq, Repr

/-- `f"{type(error).__name__}: {error}"`. -/
def BackendError.describe (error : BackendError) : String := error.typeName ++ ": " ++ error.text

/-- What the MIDI backend does while the sender performs one operation: the
devices it enumerates as pairs of display name and identifier, whether a port
opens, and which attempts to send fail. -/
structure Backend where
  enumerate : Except BackendError (List (String × String))
  openOutput : String → Option BackendError
  sendFault : Nat → Option BackendError

/-- What happens on the wire of a port; a failed message may have got through. -/
inductive WireEvent where
  | opened (name : String)
  | sent (message : MidiMessage)
  | failed (message : MidiMessage)
  | closed
deriving DecidableEq, Repr

/-- The fields that only the sender writes.  The open port is its name; the
wire records what the ports have seen, newest last. -/
structure Session where
  port : Option String
  selectedPort : String
  availablePortEntries : List (String × String)
  sent : Dict MidiNoteKey (Fin 128)
  usedChannels : Finset (Fin 16)
  connectionState : ConnectionState
  lastError : Option String
  attempts : Nat
  wire : List WireEvent
deriving DecidableEq

namespace Session

variable (backend : Backend)

/-- `__init__`. -/
def initial : Session := ⟨none, "", [], Dict.empty, ∅, .unselected, none, 0, []⟩

def availablePortIds (session : Session) : List String :=
  session.availablePortEntries.map Prod.snd

/-- `_resolve_port_id`. -/
def resolvePortId (session : Session) (selected : String) : String :=
  if selected = "" then selected
  else if session.availablePortEntries.any (fun entry => decide (entry.2 = selected)) then selected
  else
    match session.availablePortEntries.filter (fun entry => decide (entry.1 = selected)) with
    | [entry] => entry.2
    | _ => selected

/-- `_close_port`; an exception of the port's own close is suppressed. -/
def closePort (session : Session) : Session :=
  match session.port with
  | none => session
  | some _ => { session with port := none, wire := session.wire ++ [.closed] }

/-- `port.send`. -/
def attemptSend (session : Session) (message : MidiMessage) : Session × Option BackendError :=
  match backend.sendFault session.attempts with
  | some error =>
      ({ session with
          attempts := session.attempts + 1
          wire := session.wire ++ [.failed message] }, some error)
  | none =>
      ({ session with
          attempts := session.attempts + 1
          wire := session.wire ++ [.sent message] }, none)

/-- Send every message whatever fails; the first exception is kept. -/
def sendAll : List MidiMessage → Session × Option BackendError → Session × Option BackendError
  | [], result => result
  | message :: rest, (session, firstError) =>
      let (session, error) := attemptSend backend session message
      sendAll rest (session, firstError.or error)

def keyOrder (key : MidiNoteKey) : Fin 16 ×ₗ Fin 128 := toLex (key.channel, key.note)

/-- The messages of `_panic_current`. -/
def panicMessages (additionalChannels : List (Fin 16)) (session : Session) : List MidiMessage :=
  let sentKeys := sortByKey keyOrder session.sent.keys
  sentKeys.map MidiMessage.noteOff ++
    ((List.finRange 16).filter (fun channel =>
      decide (channel ∈ session.usedChannels ∨ channel ∈ sentKeys.map MidiNoteKey.channel ∨
        channel ∈ additionalChannels))).map MidiMessage.allNotesOff

/-- `_panic_current`: best-effort note-offs, then all-notes-off on every
channel in use; the port is closed on request or on any failure. -/
def panicCurrent (closing : Bool) (initialError : Option BackendError)
    (additionalChannels : List (Fin 16)) (session : Session) : Session × Option BackendError :=
  let sentKeys := sortByKey keyOrder session.sent.keys
  let channels := (List.finRange 16).filter (fun channel =>
    decide (channel ∈ session.usedChannels ∨ channel ∈ sentKeys.map MidiNoteKey.channel ∨
      channel ∈ additionalChannels))
  let (session, firstError) :=
    if session.port.isSome then
      sendAll backend (sentKeys.map MidiMessage.noteOff ++ channels.map MidiMessage.allNotesOff)
        (session, initialError)
    else (session, initialError)
  let session := { session with
    sent := Dict.empty
    usedChannels := ∅
    lastError := match firstError with
      | none => session.lastError
      | some error => some ("MIDI panic was best-effort: " ++ error.describe) }
  (if closing ∨ firstError.isSome then session.closePort else session, firstError)

/-- `_mark_output_error`. -/
def markOutputError (summary : String) (error : BackendError) (session : Session) : Session :=
  { session with
    connectionState :=
      if session.resolvePortId session.selectedPort ∈ session.availablePortIds then .error
      else .unavailable
    lastError := some (summary ++ ": " ++ error.describe) }

/-- `_handle_send_failure` after the desired state is discarded. -/
def handleSendFailure (error : BackendError) (attemptedChannel : Fin 16) (session : Session) :
    Session :=
  (panicCurrent backend true (some error) [attemptedChannel] session).1.markOutputError
    "MIDI output send failed" error

/-- `_send`: false after a failure, which also ends the session with the port. -/
def send (session : Session) (message : MidiMessage) : Session × Bool :=
  match session.port with
  | none => (session, false)
  | some _ =>
      match attemptSend backend session message with
      | (session, none) => (session, true)
      | (session, some error) =>
          (handleSendFailure backend error message.channel session, false)

/-- The note-offs of a reconciliation, until one fails. -/
def sendNoteOffs : List MidiNoteKey → Session → Session × Bool
  | [], session => (session, true)
  | key :: rest, session =>
      match send backend session (.noteOff key) with
      | (session, false) => (session, false)
      | (session, true) => sendNoteOffs rest { session with sent := session.sent.erase key }

/-- The note-ons of a reconciliation, until one fails. -/
def sendNoteOns : List (MidiNoteKey × Fin 128) → Session → Session × Bool
  | [], session => (session, true)
  | (key, velocity) :: rest, session =>
      match send backend session (.noteOn key velocity) with
      | (session, false) => (session, false)
      | (session, true) => sendNoteOns rest { session with
          sent := session.sent.insert key velocity
          usedChannels := insert key.channel session.usedChannels }

/-- Whether a held note's new velocity is to be sent at all. -/
def velocityChanged (threshold old new : Fin 128) : Bool :=
  decide (new ≠ old ∧ threshold.val ≤ (new.val - old.val) + (old.val - new.val))

/-- The held keys whose velocity changed enough, with the new velocity. -/
def retriggered (configuration : MidiOutputConfiguration)
    (sent desired : Dict MidiNoteKey (Fin 128)) :
    List (MidiNoteKey × Fin 128) :=
  sent.entries.filterMap (fun entry =>
    (desired.get? entry.1).bind (fun velocity =>
      if velocityChanged configuration.velocityChangeThreshold entry.2 velocity then
        some (entry.1, velocity)
      else none))

/-- The keys that a reconciliation releases, in the order of the sent notes:
those that leave, and under the retrigger policy those whose velocity changed. -/
def noteOffKeys (configuration : MidiOutputConfiguration)
    (sent desired : Dict MidiNoteKey (Fin 128)) :
    List MidiNoteKey :=
  sent.keys.filter (fun key =>
    decide (key ∉ desired.keys) ||
      (decide (configuration.velocityPolicy = .retrigger) &&
        decide (key ∈ (retriggered configuration sent desired).map Prod.fst)))

/-- The notes that a reconciliation starts: held ones again, then new ones. -/
def noteOnEntries (configuration : MidiOutputConfiguration)
    (sent desired : Dict MidiNoteKey (Fin 128)) : List (MidiNoteKey × Fin 128) :=
  (if configuration.velocityPolicy = .ignoreWhileHeld then []
    else retriggered configuration sent desired) ++ (diffMidiStates sent.keys desired).added

/-- `_reconcile`: every note-off before every note-on. -/
def reconcile (desired : Dict MidiNoteKey (Fin 128)) (configuration : MidiOutputConfiguration)
    (session : Session) : Session × Bool :=
  let noteOns := noteOnEntries configuration session.sent desired
  match sendNoteOffs backend (noteOffKeys configuration session.sent desired) session with
  | (session, false) => (session, false)
  | (session, true) => sendNoteOns backend noteOns session

/-- The all-notes-off that greet a freshly opened port, until one fails. -/
def greet : List (Fin 16) → Session → Session × Bool
  | [], session => (session, true)
  | channel :: rest, session =>
      match attemptSend backend session (.allNotesOff channel) with
      | (session, none) => greet rest session
      | (session, some error) => (handleSendFailure backend error channel session, false)

/-- How an operation on the session ended: with the port in use, with nothing
to do, or with a failure that discards the desired state. -/
inductive Outcome where
  | ready
  | skipped
  | discarded
deriving DecidableEq, Repr

/-- `_open_exact_port`. -/
def openExactPort (selectedPort : String) (desired : DesiredState) (session : Session) :
    Session × Outcome :=
  match backend.openOutput selectedPort with
  | some error =>
      ({ session with
          connectionState := .error
          lastError := some ("Could not open MIDI output '" ++ selectedPort ++ "': " ++
            error.text) }, .skipped)
  | none =>
      let session := { session with
        connectionState := .connecting
        port := some selectedPort
        wire := session.wire ++ [.opened selectedPort] }
      let channels := (List.finRange 16).filter (fun channel =>
        decide (channel ∈ desired.notes.keys.map MidiNoteKey.channel))
      match greet backend channels session with
      | (session, false) => (session, .discarded)
      | (session, true) =>
          ({ session with connectionState := .connected, lastError := none }, .ready)

/-- `_apply_desired`: select the port, open it when needed, reconcile. -/
def applyDesired (desired : DesiredState) (session : Session) : Session × Outcome :=
  let selectedValue := desired.configuration.outputPort
  let selectedPort := session.resolvePortId selectedValue
  let session := { session with selectedPort := selectedValue }
  let session :=
    if session.port.isSome ∧ session.port ≠ some selectedPort then
      (panicCurrent backend true none [] session).1
    else session
  if selectedValue = "" then
    let session :=
      if session.port.isSome then (panicCurrent backend true none [] session).1 else session
    ({ session with connectionState := .unselected, lastError := none }, .skipped)
  else
    let (session, outcome) :=
      if session.port.isSome then (session, Outcome.ready)
      else if selectedPort ∉ session.availablePortIds then
        ({ session with
            connectionState := .unavailable
            lastError := some ("MIDI output '" ++ selectedValue ++
              "' is not currently available") }, .skipped)
      else openExactPort backend selectedPort desired session
    match outcome with
    | .ready =>
        match reconcile backend desired.notes desired.configuration session with
        | (session, true) => (session, .ready)
        | (session, false) => (session, .discarded)
    | outcome => (session, outcome)

/-- The status of a session whose open port, if any, is still there. -/
def settle (session : Session) (selectedPort : String) : Session :=
  if session.selectedPort ≠ "" ∧ selectedPort ∉ session.availablePortIds then
    { session with
      connectionState := .unavailable
      lastError := some ("MIDI output '" ++ session.selectedPort ++
        "' is not currently available") }
  else if session.selectedPort = "" then
    { session with connectionState := .unselected, lastError := none }
  else session

/-- `_refresh_port_names`. -/
def refreshPortNames (session : Session) : Session × Outcome :=
  match backend.enumerate with
  | .error error =>
      let hadOpenPort := session.port.isSome
      let session := (panicCurrent backend true (some error) [] session).1
      ({ session with
          availablePortEntries := []
          connectionState :=
            if session.selectedPort ≠ "" ∨ hadOpenPort then .error else session.connectionState
          lastError := some ("Could not enumerate MIDI outputs: " ++ error.describe) }, .discarded)
  | .ok entries =>
      let session := { session with availablePortEntries := entries }
      let selectedPort := session.resolvePortId session.selectedPort
      match session.port with
      | some name =>
          if name ∉ entries.map Prod.snd then
            let session := (panicCurrent backend true none [] session).1
            ({ session with
                connectionState := .unavailable
                lastError := some ("MIDI output '" ++ name ++ "' disappeared") }, .ready)
          else (session.settle selectedPort, .ready)
      | none => (session.settle selectedPort, .ready)

end Session

/-! ## The service -/

/-- What the sender thread is at.  Between two of these it holds no lock. -/
inductive Sender where
  | idle
  | closing
  | panicking (request : Nat)
  | panicEnding (request : Nat)
  | refreshing
  | readingLatest
  | applying (desired : DesiredState)
  | stopped
deriving DecidableEq

/-- A panic that was requested: its number and the generation it covers. -/
structure PanicRequest where
  request : Nat
  publishGeneration : Nat
deriving DecidableEq, Repr

/-- The state shared by the producers and the sender.  `inFlight` holds the
publications between their stale check and their locked enqueue, `waiting` the
panic calls that wait for the sender; `requests` and `returned` record every
request and every panic call that has returned. -/
structure MidiOutputService where
  pending : Option DesiredState
  latest : Option DesiredState
  closing : Bool
  closed : Bool
  refreshRequested : Bool
  panicRequested : Nat
  panicCompleted : Nat
  droppedStateUpdates : Nat
  ordering : StateOrdering
  sender : Sender
  session : Session
  inFlight : List DesiredState
  waiting : List PanicRequest
  requests : List PanicRequest
  returned : List Nat
deriving DecidableEq

namespace MidiOutputService

/-- `__init__`. -/
def initial : MidiOutputService where
  pending := none
  latest := none
  closing := false
  closed := false
  refreshRequested := true
  panicRequested := 0
  panicCompleted := 0
  droppedStateUpdates := 0
  ordering := ⟨0⟩
  sender := .idle
  session := Session.initial
  inFlight := []
  waiting := []
  requests := []
  returned := []

/-- The steps of the callers and of the sender thread. -/
inductive Step where
  /-- The stale check of `publish`. -/
  | checkStale (desired : DesiredState)
  /-- The locked part of `publish`. -/
  | enqueue (desired : DesiredState)
  | requestPanic (publishGeneration : Nat)
  /-- The locked part of `panic`, up to its first wait. -/
  | panic (publishGeneration : Nat)
  | panicReturn (request : PanicRequest)
  | panicTimeout (request : PanicRequest)
  | refreshOutputs
  | close
  /-- The sender chooses its next action; the clock says whether a refresh is due. -/
  | take (refreshDue : Bool)
  /-- The sender works outside its lock, or ends a panic. -/
  | work (backend : Backend)

/-- Drop the mailbox. -/
def discardDesiredState (service : MidiOutputService) : MidiOutputService :=
  { service with pending := none, latest := none }

/-- The part that `panic` and `request_panic` share. -/
def recordPanic (service : MidiOutputService) (publishGeneration : Nat) : MidiOutputService :=
  { service.discardDesiredState with
    ordering := service.ordering.recordPanic publishGeneration
    panicRequested := service.panicRequested + 1
    requests := ⟨service.panicRequested + 1, publishGeneration⟩ :: service.requests }

/-- The locked part of `publish`, once the service is known to be open. -/
def put (service : MidiOutputService) (desired : DesiredState) : MidiOutputService :=
  { service with
    droppedStateUpdates := service.droppedStateUpdates + if service.pending.isSome then 1 else 0
    pending := some desired
    latest := some desired }

/-- The sender's choice under its lock, in the order of the source. -/
def chooseAction (service : MidiOutputService) (refreshDue : Bool) : Option MidiOutputService :=
  if service.closing then some { service with sender := .closing }
  else if service.panicCompleted < service.panicRequested then
    some { service with sender := .panicking service.panicRequested }
  else if service.refreshRequested || refreshDue then
    some { service with refreshRequested := false, sender := .refreshing }
  else
    match service.pending with
    | some desired => some { service with pending := none, sender := .applying desired }
    | none => none

/-- Store the session after an operation of the sender. -/
def finish (service : MidiOutputService) (sender : Sender) :
    Session × Session.Outcome → MidiOutputService
  | (session, .discarded) =>
      { service.discardDesiredState with session := session, sender := sender }
  | (session, _) => { service with session := session, sender := sender }

/-- One operation of the sender outside its choice. -/
def senderWork (service : MidiOutputService) (backend : Backend) : Option MidiOutputService :=
  match service.sender with
  | .idle => none
  | .stopped => none
  | .closing =>
      let (session, _) := Session.panicCurrent backend true none [] service.session
      some { service with
        session := { session with connectionState := .closed }
        closed := true
        sender := .stopped }
  | .panicking request =>
      let (session, error) := Session.panicCurrent backend false none [] service.session
      let session := match error with
        | none => session
        | some error => session.markOutputError "MIDI panic was best-effort" error
      some { service with session := session, sender := .panicEnding request }
  | .panicEnding request =>
      some { service.discardDesiredState with
        panicCompleted := max service.panicCompleted request
        sender := .idle }
  | .refreshing =>
      some (service.finish .readingLatest (Session.refreshPortNames backend service.session))
  | .readingLatest =>
      match service.latest with
      | none => some { service with sender := .idle }
      | some desired => some { service with sender := .applying desired }
  | .applying desired =>
      some (service.finish .idle (Session.applyDesired backend desired service.session))

/-- One step; `none` when it cannot be taken. -/
def step (service : MidiOutputService) : Step → Option MidiOutputService
  | .checkStale desired =>
      if service.ordering.isStale desired.publishGeneration then some service
      else some { service with inFlight := desired :: service.inFlight }
  | .enqueue desired =>
      if desired ∉ service.inFlight then none
      else
        let service := { service with inFlight := service.inFlight.erase desired }
        -- `_ensure_open` raises
        if service.closing || service.closed then some service
        else some (service.put desired)
  | .requestPanic publishGeneration =>
      if service.closing || service.closed then some service
      else some (service.recordPanic publishGeneration)
  | .panic publishGeneration =>
      if service.closing || service.closed then
        some { service with returned := publishGeneration :: service.returned }
      else
        let request := ⟨service.panicRequested + 1, publishGeneration⟩
        some { service.recordPanic publishGeneration with waiting := request :: service.waiting }
  | .panicReturn request =>
      if request ∈ service.waiting ∧
          (request.request ≤ service.panicCompleted ∨ service.closed = true) then
        some { service with
          waiting := service.waiting.erase request
          returned := request.publishGeneration :: service.returned }
      else none
  | .panicTimeout request =>
      if request ∈ service.waiting then
        some { service with waiting := service.waiting.erase request }
      else none
  | .refreshOutputs =>
      if service.closing || service.closed then some service
      else some { service with refreshRequested := true }
  | .close =>
      if service.closing || service.closed then some service
      else some { service.discardDesiredState with closing := true }
  | .take refreshDue =>
      if service.sender = .idle then service.chooseAction refreshDue else none
  | .work backend => service.senderWork backend

end MidiOutputService

end Midi
end Synesthesia
