import Synesthesia.Foundation.Dict
import Synesthesia.Foundation.Exceptions
import Synesthesia.Runtime.EngineProcess

namespace Synesthesia
namespace Runtime

open Foundation

/-!
# The threads around the table of pending requests

`_request`, `_response_loop`, `_mark_disconnected` and `_dispose_handles_locked`
of `runtime/engine_client.py`.  A step is what a thread does between two points
at which another one may act: the body of one lock, one call of the connection,
or one answer to one waiting caller.  The lifecycle lock is taken for single
steps only, so threads interleave at least as freely as in the client.  The child,
whose answers may be anything here, is that of the engine process, where a
request and its answer are one step each.
-/

/-! ## Answers -/

inductive ReplyBody where
  | answer (typeName : String)
  | commandFailed (errorType : RemoteErrorKind) (message : String)
  | protocolMismatch (expectedVersion receivedVersion : Nat)
deriving DecidableEq

structure Reply where
  requestId : String
  protocolVersion : Nat
  body : ReplyBody
deriving DecidableEq

/-- What arrives in the pipe: an answer of the protocol or anything else. -/
inductive RawResponse where
  | reply (reply : Reply)
  | unsupported (typeName : String)

def engineProtocolVersion : Nat := 19

/-- How a request ends. -/
inductive RequestOutcome where
  | returned (reply : Reply)
  | engineProtocolError (message : String)
  | notImplementedError (message : String)
  | raised (error : PyError)
deriving DecidableEq

def remoteErrorText : RemoteErrorKind → String
  | .key => "key"
  | .notImplemented => "not_implemented"
  | .value => "value"
  | .staleRevision => "stale_revision"
  | .other => "other"

def raiseRemoteError (errorType : RemoteErrorKind) (message : String) : RequestOutcome :=
  let text := if message = "" then remoteErrorText errorType else message
  match errorType with
  | .key => .raised (.keyError text)
  | .notImplemented => .notImplementedError text
  | .value => .raised (.valueError text)
  | .staleRevision => .raised (.runtimeError text)
  | .other => .raised (.runtimeError text)

/-- What a caller makes of its answer. -/
def interpret (responseType : String) (reply : Reply) : RequestOutcome :=
  match reply.body with
  | .protocolMismatch expectedVersion receivedVersion =>
      .engineProtocolError ("Engine protocol mismatch: expected " ++ toString expectedVersion ++
        ", received " ++ toString receivedVersion)
  | .commandFailed errorType message => raiseRemoteError errorType message
  | .answer typeName =>
      if typeName = responseType then .returned reply
      else .raised (.typeError ("Expected " ++ responseType ++ ", got " ++ typeName))

/-! ## Callers -/

/-- `_PendingRequest`. -/
structure PendingRequest where
  event : Bool
  response : Option Reply
  error : Option String
deriving DecidableEq

/-- How `connection.send` may fail. -/
inductive SendFailure where
  | brokenPipe (message : String)
  | endOfFile (message : String)
  | osError (message : String)
  | other (error : PyError)
deriving DecidableEq

/-- Where a caller is in `_request`.  Connections are numbered. -/
inductive RequestPhase where
  | idle
  | checked (connection : Nat)
  | registered (connection : Nat)
  | waiting
  /-- The send failed. -/
  | sendFailed (message : String)
  /-- The failed request is no longer in the table. -/
  | deregistered (message : String)
  /-- The client was marked as disconnected. -/
  | disconnected
  /-- The wait ended without an answer. -/
  | timedOut
  /-- The late request is no longer in the table. -/
  | expired
  /-- The client was marked as unresponsive. -/
  | reported
  | finished (outcome : RequestOutcome)
deriving DecidableEq

/-- Only three kinds of exception are handled; any other one leaves `_request`. -/
def SendFailure.phase : SendFailure → RequestPhase
  | .brokenPipe message => .sendFailed message
  | .endOfFile message => .sendFailed message
  | .osError message => .sendFailed message
  | .other error => .finished (.raised error)

/-- What took a request out of the table, as history. -/
inductive Removal where
  | answered (reply : Reply)
  | failed (message : String)
deriving DecidableEq

structure EngineCall where
  phase : RequestPhase
  requestId : String
  commandName : String
  responseType : String
  pending : PendingRequest
  removal : Option Removal
deriving DecidableEq

def EngineCall.idle : EngineCall := ⟨.idle, "", "", "", ⟨false, none, none⟩, none⟩

/-- How a caller that was woken up goes on. -/
def EngineCall.conclude (call : EngineCall) : RequestOutcome :=
  match call.pending.error with
  | some message => .raised (.runtimeError message)
  | none =>
      match call.pending.response with
      | some reply => interpret call.responseType reply
      | none => .raised (.typeError ("Expected " ++ call.responseType ++ ", got no response"))

/-! ## Threads that fail requests -/

/-- The threads that drain the table: callers, readers and those that stop the
child. -/
inductive Worker where
  | caller (call : Nat)
  | reader (connection : Nat)
  | lifecycle (thread : Nat)
deriving DecidableEq

/-- A worker is about to drain the table, or fails the requests it drained. -/
inductive Draining where
  | marked (message : String)
  | failing (message : String) (remaining : List Nat)
deriving DecidableEq

/-- A reader of a connection, with the answer it has taken out a request for. -/
inductive ResponseReader where
  | reading
  | delivering (call : Nat) (reply : Reply)
  | ended
deriving DecidableEq

/-! ## The client -/

structure RequestClient where
  connectionState : EngineConnectionState
  closed : Bool
  readerStop : Bool
  connection : Option Nat
  lastError : Option String
  openConnections : List Nat
  nextConnection : Nat
  issued : List String
  pending : Dict String Nat
  calls : Nat → EngineCall
  readers : Nat → ResponseReader
  drains : Worker → Option Draining

namespace RequestClient

def initial : RequestClient where
  connectionState := .starting
  closed := false
  readerStop := false
  connection := none
  lastError := none
  openConnections := []
  nextConnection := 0
  issued := []
  pending := Dict.empty
  calls := fun _ => EngineCall.idle
  readers := fun _ => .ended
  drains := fun _ => none

def setCall (call : Nat) (value : EngineCall) (client : RequestClient) : RequestClient :=
  { client with calls := Function.update client.calls call value }

def setPhase (call : Nat) (phase : RequestPhase) (client : RequestClient) : RequestClient :=
  client.setCall call { client.calls call with phase := phase }

def setReader (reader : Nat) (phase : ResponseReader) (client : RequestClient) : RequestClient :=
  { client with readers := Function.update client.readers reader phase }

def setDrain (worker : Worker) (draining : Option Draining) (client : RequestClient) :
    RequestClient :=
  { client with drains := Function.update client.drains worker draining }

/-- A process found dead is described by `exited`. -/
def checkProcess (exited : Option String) (client : RequestClient) : RequestClient :=
  match client.connection, exited with
  | some _, some description =>
      if client.closed ∨ client.connectionState = .restarting then client
      else { client with connectionState := .crashed, lastError := some description }
  | _, _ => client

def checkHeartbeat (overdue : Bool) (client : RequestClient) : RequestClient :=
  if overdue ∧ client.connectionState = .connected then
    { client with connectionState := .unresponsive, lastError := some "Engine heartbeat timed out" }
  else client

/-- `_refresh_liveness_locked`. -/
def refreshLiveness (exited : Option String) (overdue : Bool) (client : RequestClient) :
    RequestClient :=
  (client.checkProcess exited).checkHeartbeat overdue

/-- `self._last_error or "Engine process is not connected"`. -/
def connectionError (client : RequestClient) : String :=
  if client.lastError.getD "" = "" then "Engine process is not connected"
  else client.lastError.getD ""

/-- Whether a new request is refused, or for which connection it is meant. -/
def entryPhase (client : RequestClient) : RequestPhase :=
  if client.closed ∨ client.connectionState = .closed then
    .finished (.raised (.runtimeError "Engine client is closed"))
  else
    match client.connection with
    | none => .finished (.raised (.runtimeError client.connectionError))
    | some connection =>
        if client.connectionState = .crashed then
          .finished (.raised (.runtimeError client.connectionError))
        else .checked connection

/-- The entry of `_request`, with the identifier that `uuid4` gives. -/
def begin (call : Nat) (requestId commandName responseType : String) (exited : Option String)
    (overdue : Bool) (client : RequestClient) : Option RequestClient :=
  if (client.calls call).phase = .idle ∧ requestId ∉ client.issued then
    let live := client.refreshLiveness exited overdue
    some ({ live with issued := requestId :: live.issued }.setCall call
      ⟨live.entryPhase, requestId, commandName, responseType, ⟨false, none, none⟩, none⟩)
  else none

def register (call : Nat) (client : RequestClient) : Option RequestClient :=
  match (client.calls call).phase with
  | .checked connection =>
      some ({ client with pending := client.pending.insert (client.calls call).requestId call
        }.setPhase call (.registered connection))
  | _ => none

/-- `connection.send`: only an open connection takes the command. -/
def send (call : Nat) (failure : Option SendFailure) (client : RequestClient) :
    Option RequestClient :=
  match (client.calls call).phase with
  | .registered connection =>
      match failure with
      | none =>
          if connection ∈ client.openConnections then some (client.setPhase call .waiting) else none
      | some failure => some (client.setPhase call failure.phase)
  | _ => none

/-- Forget a request, after its send or its wait failed. -/
def deregister (call : Nat) (client : RequestClient) : Option RequestClient :=
  let forgotten := { client with pending := client.pending.erase (client.calls call).requestId }
  match (client.calls call).phase with
  | .sendFailed message => some (forgotten.setPhase call (.deregistered message))
  | .timedOut => some (forgotten.setPhase call .expired)
  | _ => none

/-- The first half of `_mark_disconnected`. -/
def mark (worker : Worker) (message : String) (client : RequestClient) : RequestClient :=
  if client.closed ∨ client.readerStop then client
  else { client with connectionState := .crashed, lastError := some message }.setDrain worker
    (some (.marked message))

/-- A caller whose send failed marks the client. -/
def reportSend (call : Nat) (client : RequestClient) : Option RequestClient :=
  match (client.calls call).phase with
  | .deregistered message =>
      some ((client.mark (.caller call) ("Engine command send failed: " ++ message)).setPhase call
        .disconnected)
  | _ => none

/-- Take all requests out of the table to fail them. -/
def drain (worker : Worker) (client : RequestClient) : Option RequestClient :=
  match client.drains worker with
  | some (.marked message) =>
      let taken := client.pending.entries.map Prod.snd
      some ({ client with
        pending := Dict.empty
        calls := fun call => if call ∈ taken then
          { client.calls call with removal := some (.failed message) } else client.calls call
        }.setDrain worker (some (.failing message taken)))
  | _ => none

/-- Fail the next of the drained requests; after the last one the worker goes
on. -/
def failNext (worker : Worker) (client : RequestClient) : Option RequestClient :=
  match client.drains worker with
  | some (.failing message (call :: rest)) =>
      let failed := client.calls call
      some ((client.setCall call { failed with
        pending := { failed.pending with error := some message, event := true } }).setDrain worker
          (some (.failing message rest)))
  | some (.failing _ []) => some (client.setDrain worker none)
  | _ => none

/-- A caller that has failed the others raises. -/
def raiseSend (call : Nat) (client : RequestClient) : Option RequestClient :=
  match (client.calls call).phase, client.drains (.caller call) with
  | .disconnected, none => some (client.setPhase call
      (.finished (.raised (.runtimeError "Engine process disconnected"))))
  | _, _ => none

/-- `event.wait` ends because the event is set. -/
def wake (call : Nat) (client : RequestClient) : Option RequestClient :=
  match (client.calls call).phase with
  | .waiting =>
      if (client.calls call).pending.event then
        some (client.setPhase call (.finished (client.calls call).conclude))
      else none
  | _ => none

/-- `event.wait` ends because the time is over. -/
def expire (call : Nat) (client : RequestClient) : Option RequestClient :=
  match (client.calls call).phase with
  | .waiting =>
      if (client.calls call).pending.event then none else some (client.setPhase call .timedOut)
  | _ => none

def reportTimeout (call : Nat) (client : RequestClient) : Option RequestClient :=
  match (client.calls call).phase with
  | .expired => some ({ client with
      connectionState := .unresponsive
      lastError := some ("Timed out waiting for " ++ (client.calls call).commandName)
      }.setPhase call .reported)
  | _ => none

def raiseTimeout (call : Nat) (client : RequestClient) : Option RequestClient :=
  match (client.calls call).phase with
  | .reported => some (client.setPhase call
      (.finished (.raised (.timeoutError (client.lastError.getD "None")))))
  | _ => none

/-- One round of `_response_loop` up to the lookup. -/
def receive (reader : Nat) (raw : RawResponse) (client : RequestClient) : Option RequestClient :=
  match client.readers reader with
  | .reading =>
      match raw with
      | .unsupported typeName =>
          some ((client.mark (.reader reader)
            ("Unsupported engine response: " ++ typeName)).setReader reader .ended)
      | .reply reply =>
          if reply.protocolVersion ≠ engineProtocolVersion then
            some ((client.mark (.reader reader) ("Unsupported engine response protocol " ++
              toString reply.protocolVersion)).setReader reader .ended)
          else
            match client.pending.get? reply.requestId with
            | none => some client
            | some call =>
                some (({ client with pending := client.pending.erase reply.requestId }.setCall call
                  { client.calls call with removal := some (.answered reply) }).setReader reader
                    (.delivering call reply))
  | _ => none

/-- The answer is handed over and its caller woken up. -/
def deliver (reader : Nat) (client : RequestClient) : Option RequestClient :=
  match client.readers reader with
  | .delivering call reply =>
      let answered := client.calls call
      some ((client.setCall call { answered with
        pending := { answered.pending with response := some reply, event := true } }).setReader
          reader .reading)
  | _ => none

/-- The channel of a reader is closed at its other end, or the reader stops. -/
def endReader (reader : Nat) (message : String) (client : RequestClient) : Option RequestClient :=
  match client.readers reader with
  | .reading => some ((client.mark (.reader reader)
      ("Engine response channel closed: " ++ message)).setReader reader .ended)
  | _ => none

/-- `_dispose_handles_locked` up to its drain. -/
def dispose (thread : Nat) (client : RequestClient) : Option RequestClient :=
  match client.drains (.lifecycle thread) with
  | none => some ({ client with
      readerStop := true
      connection := none
      openConnections := client.openConnections.filter
        (fun connection => decide (client.connection ≠ some connection)) }.setDrain
          (.lifecycle thread) (some (.marked "Engine process disconnected")))
  | some _ => none

/-- A new child behind a new connection, with a reader of its own. -/
def start (client : RequestClient) : Option RequestClient :=
  if client.closed ∨ client.connection.isSome then none
  else some ({ client with
    connectionState := .starting
    lastError := none
    readerStop := false
    connection := some client.nextConnection
    openConnections := client.nextConnection :: client.openConnections
    nextConnection := client.nextConnection + 1 }.setReader client.nextConnection .reading)

end RequestClient

/-! ## Steps -/

/-- The other assignments to the state of the client, each under its lock. -/
inductive LifecycleChange where
  /-- The handshake was acknowledged. -/
  | connected
  /-- A heartbeat ends unresponsiveness. -/
  | heartbeat
  /-- An error was recorded; one that the engine published may be fatal. -/
  | errorRecorded (message : String) (fatal : Bool)
  /-- The child could not be started, or was stopped as crashed. -/
  | crashed (message : String)
  | restarting
  | readersStopped
  | closed
deriving DecidableEq

def LifecycleChange.apply (client : RequestClient) : LifecycleChange → RequestClient
  | .connected => { client with connectionState := .connected }
  | .heartbeat =>
      if client.connectionState = .unresponsive then { client with connectionState := .connected }
      else client
  | .errorRecorded message fatal => { client with
      lastError := some message
      connectionState := if fatal then .crashed else client.connectionState }
  | .crashed message =>
      if client.closed then client
      else { client with connectionState := .crashed, lastError := some message }
  | .restarting =>
      if client.closed then client else { client with connectionState := .restarting }
  | .readersStopped => { client with readerStop := true }
  | .closed => { client with closed := true, connectionState := .closed }

inductive RequestAction where
  | begin (call : Nat) (requestId commandName responseType : String) (exited : Option String)
      (overdue : Bool)
  | register (call : Nat)
  | send (call : Nat) (failure : Option SendFailure)
  | deregister (call : Nat)
  | reportSend (call : Nat)
  | raiseSend (call : Nat)
  | wake (call : Nat)
  | expire (call : Nat)
  | reportTimeout (call : Nat)
  | raiseTimeout (call : Nat)
  | receive (reader : Nat) (raw : RawResponse)
  | deliver (reader : Nat)
  | endReader (reader : Nat) (message : String)
  | dispose (thread : Nat)
  | drain (worker : Worker)
  | failNext (worker : Worker)
  | start
  | lifecycle (change : LifecycleChange)

namespace RequestClient

def step (client : RequestClient) : RequestAction → Option RequestClient
  | .begin call requestId commandName responseType exited overdue =>
      client.begin call requestId commandName responseType exited overdue
  | .register call => client.register call
  | .send call failure => client.send call failure
  | .deregister call => client.deregister call
  | .reportSend call => client.reportSend call
  | .raiseSend call => client.raiseSend call
  | .wake call => client.wake call
  | .expire call => client.expire call
  | .reportTimeout call => client.reportTimeout call
  | .raiseTimeout call => client.raiseTimeout call
  | .receive reader raw => client.receive reader raw
  | .deliver reader => client.deliver reader
  | .endReader reader message => client.endReader reader message
  | .dispose thread => client.dispose thread
  | .drain worker => client.drain worker
  | .failNext worker => client.failNext worker
  | .start => client.start
  | .lifecycle change => some (change.apply client)

end RequestClient

end Runtime
end Synesthesia
