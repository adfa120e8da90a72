import Mathlib
import Synesthesia.Contracts.RuntimeValues
import Synesthesia.Foundation.Runs

namespace Synesthesia
namespace Runtime

open Foundation Contracts

/-!
# The engine in its own process

The client sends commands through a pipe to the child, which answers each one
in turn through the other direction.  Any number of callers wait for their
answers, each with a timeout of its own, while the child may die and be
replaced.
-/

/-! ## Messages -/

inductive TransportAction where
  | play
  | pause
  | resume
  | stop
  | reload
  | seek
deriving DecidableEq

/-- The commands that name the graph revision they are meant for. -/
inductive BoundCommand where
  | transport (action : TransportAction) (sourceNodeId : Option UUID) (sourceTimeS : Option ℚ)
  | panic
  | querySourceStatus (sourceNodeId : Option UUID)
  | queryMidiOutputStatus (outputNodeId : Option UUID)
  | queryNodeMemoryDiagnostics (nodeId : Option UUID)
  | queryNodeProfiles
  | resetProfiling
  | setProfilingEnabled (enabled : Bool)
  | queryMetrics
  | waitUntilIdle (timeoutS : ℚ)
  | configurePreviewSlot (ownerId : UUID) (sourcePortId : String) (generation : Nat)
deriving DecidableEq

inductive EngineCommand where
  | ping
  | handshake
  | activateGraph (graphRevision : Nat)
  | queryDeviceCatalogue (forceRefresh : Bool)
  | shutdown
  | bound (command : BoundCommand) (graphRevision : Option Nat)
deriving DecidableEq

def EngineCommand.isActivation : EngineCommand → Bool
  | .activateGraph _ => true
  | _ => false

/-- The kinds of failure that cross the process boundary. -/
inductive RemoteErrorKind where
  | key
  | notImplemented
  | value
  | staleRevision
  | other
deriving DecidableEq

inductive ResponseBody where
  | pong
  | handshakeAcknowledged
  | activation (activated : Bool)
  | answer
  | shutdownAcknowledged
  | failed (kind : RemoteErrorKind)
deriving DecidableEq

structure EngineResponse where
  requestId : Nat
  graphRevision : Option Nat
  body : ResponseBody
deriving DecidableEq

/-- A command under way.  As history it carries whether the client was
connected when it sent it, and whether it then knew the child's revision. -/
structure EngineRequest where
  requestId : Nat
  command : EngineCommand
  connected : Bool
  settled : Bool
deriving DecidableEq

/-! ## The child -/

/-- `executed` are the commands that were handed to the engine body, in order. -/
structure EngineServer where
  graphRevision : Option Nat
  running : Bool
  executed : List EngineCommand
deriving DecidableEq

/-- How the engine body ends a command: it returns, it rejects a graph, or it
raises an error that is classified for the client. -/
inductive EngineOutcome where
  | returns
  | rejects
  | keyError
  | notImplementedError
  | valueError
  | otherError
deriving DecidableEq

def classifyRemoteError : EngineOutcome → Option RemoteErrorKind
  | .returns => none
  | .rejects => none
  | .keyError => some .key
  | .notImplementedError => some .notImplemented
  | .valueError => some .value
  | .otherError => some .other

namespace EngineServer

/-- Only a command that names a revision is checked, and it is checked before
anything is executed. -/
def validatesGraphRevision (server : EngineServer) : EngineCommand → Bool
  | .bound _ graphRevision => graphRevision = server.graphRevision
  | _ => true

/-- Execute a command on the engine body; one that raises has been executed too. -/
def handle (before : EngineServer) (command : EngineCommand) (outcome : EngineOutcome) :
    EngineServer × Option Nat × ResponseBody :=
  let server := { before with executed := before.executed ++ [command] }
  match classifyRemoteError outcome with
  | some kind => (server, server.graphRevision, .failed kind)
  | none =>
      match command with
      | .ping => (server, none, .pong)
      | .handshake => (server, none, .handshakeAcknowledged)
      | .activateGraph graphRevision =>
          if outcome = .rejects then (server, some graphRevision, .activation false)
          else ({ server with graphRevision := some graphRevision }, some graphRevision,
            .activation true)
      | .queryDeviceCatalogue _ => (server, none, .answer)
      | .shutdown =>
          ({ server with running := false }, server.graphRevision, .shutdownAcknowledged)
      | .bound _ _ => (server, server.graphRevision, .answer)

/-- Check a command, execute it if it passes, and answer it. -/
def dispatch (server : EngineServer) (request : EngineRequest) (outcome : EngineOutcome) :
    EngineServer × EngineResponse :=
  if server.validatesGraphRevision request.command then
    let handled := server.handle request.command outcome
    (handled.1, ⟨request.requestId, handled.2.1, handled.2.2⟩)
  else (server, ⟨request.requestId, server.graphRevision, .failed .staleRevision⟩)

end EngineServer

/-! ## The client -/

inductive EngineConnectionState where
  | starting
  | connected
  | unresponsive
  | restarting
  | crashed
  | closed
deriving DecidableEq

/-- The client's notion of the child, with the requests whose callers wait and
those whose answer has arrived for a caller that has not gone on yet. -/
structure ProcessEngineClient where
  connectionState : EngineConnectionState
  graphRevision : Option Nat
  latestValidSnapshot : Option Nat
  pending : List EngineRequest
  answered : List (EngineRequest × EngineResponse)
  requests : Nat

/-- One command that the child dispatched: the child before and after it, and
the answer. -/
structure Dispatched where
  request : EngineRequest
  before : EngineServer
  after : EngineServer
  response : EngineResponse
deriving DecidableEq

/-- The engine body was given the command, once. -/
def Dispatched.Executes (entry : Dispatched) : Prop :=
  entry.after.executed = entry.before.executed ++ [entry.request.command]

/-- The command was answered as stale and changed nothing. -/
def Dispatched.Refuses (entry : Dispatched) : Prop :=
  entry.after = entry.before ∧ entry.response =
    ⟨entry.request.requestId, entry.before.graphRevision, .failed .staleRevision⟩

/-- Client and child with the two directions of the pipe between them. -/
structure EngineProcess where
  client : ProcessEngineClient
  server : Option EngineServer
  commands : List EngineRequest
  responses : List EngineResponse
  dispatched : List Dispatched

namespace EngineProcess

/-- A client that has not started a child yet. -/
def initial : EngineProcess where
  client := ⟨.starting, none, none, [], [], 0⟩
  server := none
  commands := []
  responses := []
  dispatched := []

/-- The client knows the revision of the child: no activation is on its way
there, and the last one that the client adopted is the child's. -/
def Settled (process : EngineProcess) : Prop :=
  process.client.connectionState = .connected ∧
    (∃ server ∈ process.server, server.graphRevision = process.client.graphRevision) ∧
    ∀ request ∈ process.commands, request.command.isActivation = false

instance (process : EngineProcess) : Decidable process.Settled := by
  unfold Settled
  infer_instance

/-- A request is refused without a usable connection. -/
def refuses (process : EngineProcess) : Bool :=
  process.client.connectionState = .closed ∨ process.client.connectionState = .crashed ∨
    process.server = none

/-- Send a command; its caller waits for the answer. -/
def request (process : EngineProcess) (command : EngineCommand) : EngineProcess :=
  let request : EngineRequest := ⟨process.client.requests, command,
    process.client.connectionState = .connected, process.Settled⟩
  { process with
    client := { process.client with
      pending := process.client.pending ++ [request]
      requests := process.client.requests + 1 }
    commands := process.commands ++ [request] }

/-- A revision-bound command carries the revision that the client knows. -/
def boundCommand (process : EngineProcess) (command : BoundCommand) : EngineCommand :=
  .bound command process.client.graphRevision

/-- Every waiting caller fails. -/
def failPending (process : EngineProcess) : EngineProcess :=
  { process with client := { process.client with pending := [] } }

/-- Replace the child by a fresh one behind new pipes, and greet it. -/
def start (process : EngineProcess) : EngineProcess :=
  request { process.failPending with
    client := { process.failPending.client with connectionState := .starting }
    server := some ⟨none, true, []⟩
    commands := []
    responses := [] } .handshake

/-- The caller of the request has not gone on yet. -/
def waits (process : EngineProcess) (requestId : Nat) : Bool :=
  process.client.pending.any (·.requestId = requestId) ||
    process.client.answered.any (·.1.requestId = requestId)

/-- What the caller of a request does with its answer. -/
def adopt (client : ProcessEngineClient) (request : EngineRequest) (response : EngineResponse) :
    ProcessEngineClient :=
  match request.command, response.body with
  | .handshake, .handshakeAcknowledged => { client with connectionState := .connected }
  | .activateGraph revision, .activation true =>
      { client with graphRevision := response.graphRevision, latestValidSnapshot := some revision }
  | _, _ => client

end EngineProcess

inductive ProcessAction where
  /-- Start or restart the child. -/
  | start
  | activate (graphRevision : Nat)
  | command (command : BoundCommand)
  | ping
  | queryDeviceCatalogue (forceRefresh : Bool)
  | shutdown
  /-- The child takes the oldest command. -/
  | childDispatches (outcome : EngineOutcome)
  | childDies
  /-- The client finds the child gone. -/
  | disconnects
  /-- The oldest answer reaches the client. -/
  | responseArrives
  /-- The caller of a request goes on with its answer. -/
  | callerResumes (requestId : Nat)
  /-- A caller has waited too long. -/
  | timesOut (requestId : Nat)
  | heartbeatArrives
  | heartbeatOverdue
  | close

namespace EngineProcess

/-- One step of a caller, of a reader thread or of the child. -/
def step (process : EngineProcess) : ProcessAction → Option EngineProcess
  | .start => if process.client.connectionState = .closed then none else some process.start
  | .activate graphRevision =>
      if process.refuses then none else some (process.request (.activateGraph graphRevision))
  | .command command =>
      if process.refuses then none else some (process.request (process.boundCommand command))
  | .ping => if process.refuses then none else some (process.request .ping)
  | .queryDeviceCatalogue forceRefresh =>
      if process.refuses then none
      else some (process.request (.queryDeviceCatalogue forceRefresh))
  | .shutdown => if process.refuses then none else some (process.request .shutdown)
  | .childDispatches outcome =>
      match process.server, process.commands with
      | some server, request :: rest =>
          if server.running then
            some { process with
              server := some (server.dispatch request outcome).1
              commands := rest
              responses := process.responses ++ [(server.dispatch request outcome).2]
              dispatched := process.dispatched ++ [⟨request, server,
                (server.dispatch request outcome).1, (server.dispatch request outcome).2⟩] }
          else none
      | _, _ => none
  | .childDies => some { process with server := none, commands := [] }
  | .disconnects =>
      if process.server = none ∧ process.client.connectionState ≠ .closed then
        some { process.failPending with
          client := { process.failPending.client with connectionState := .crashed } }
      else none
  | .responseArrives =>
      match process.responses with
      | [] => none
      | response :: rest => some { process with
          responses := rest
          client := { process.client with
            pending := process.client.pending.filter (·.requestId ≠ response.requestId)
            answered := process.client.answered ++
              (process.client.pending.filter (·.requestId = response.requestId)).map
                (fun request => (request, response)) } }
  | .callerResumes requestId =>
      match process.client.answered.find? (·.1.requestId = requestId) with
      | none => none
      | some (request, response) => some { process with
          client := { adopt process.client request response with
            answered := process.client.answered.filter (·.1.requestId ≠ requestId) } }
  | .timesOut requestId =>
      if process.waits requestId then some { process with
        client := { process.client with
          pending := process.client.pending.filter (·.requestId ≠ requestId)
          answered := process.client.answered.filter (·.1.requestId ≠ requestId)
          connectionState := .unresponsive } }
      else none
  | .heartbeatArrives =>
      if process.client.connectionState = .unresponsive then
        some { process with client := { process.client with connectionState := .connected } }
      else none
  | .heartbeatOverdue =>
      if process.client.connectionState = .connected then
        some { process with client := { process.client with connectionState := .unresponsive } }
      else none
  | .close => some { process with
      client := { process.client with connectionState := .closed }
      server := none
      commands := [] }

end EngineProcess

end Runtime
end Synesthesia
