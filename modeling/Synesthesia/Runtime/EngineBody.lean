import Synesthesia.Media.VideoSource
import Synesthesia.Runtime.EngineFacade

namespace Synesthesia
namespace Runtime

open Foundation Contracts Nodes

/-!
# The engine body

The activation of a snapshot and the transport commands of
`runtime/engine_body.py`.  The body's lock serializes its calls, so a call is
one step.  The sources and the graph worker run on their own: what a source
does by itself is a step between two calls, or counts to the next call on it.

The sources are objects behind references, as the node runtimes are.  What a
snapshot compiles to, and which of the calls out of an activation raise, is part
of the request.  Previews, metrics and profiles follow an activation and decide
nothing, so they are left out.
-/

inductive EngineState where
  | stopped
  | running
  | paused
  | error
  | closed
deriving DecidableEq, Repr

/-- A playback source as the body uses it. -/
class SourceController (σ : Type) where
  state : σ → Media.SourceState
  play : σ → σ × Except PyError Unit
  pause : σ → σ × Except PyError Unit
  resume : σ → σ × Except PyError Unit
  stop : σ → σ × Except PyError Unit
  reload : σ → σ × Except PyError Unit
  seek : ℚ → σ → σ × Except PyError Unit
  close : σ → σ × Except PyError Unit

/-- The calls on a source other than its closing. -/
inductive SourceUse where
  | play
  | pause
  | resume
  | stop
  | reload
  | seek (sourceTimeS : ℚ)
deriving DecidableEq

def SourceUse.perform {σ : Type} [SourceController σ] : SourceUse → σ → σ × Except PyError Unit
  | play => SourceController.play
  | pause => SourceController.pause
  | resume => SourceController.resume
  | stop => SourceController.stop
  | reload => SourceController.reload
  | seek sourceTimeS => SourceController.seek sourceTimeS

abbrev SourceLedger (σ : Type) := Ledger σ SourceUse

/-- Graph workers matter here by their creation and closing only. -/
abbrev WorkerLedger := Ledger Unit Empty

variable {ρ σ γ : Type}

/-! ## Calls on sources -/

section Sources

variable [SourceController σ]

def playbackState (ledger : SourceLedger σ) (source : Nat) : Option Media.SourceState :=
  (ledger.read source).map SourceController.state

/-- The source is playing or reconnecting. -/
def isPlaying (ledger : SourceLedger σ) (source : Nat) : Bool :=
  (playbackState ledger source).any Media.SourceState.isActive

def callSource (use : SourceUse) (ledger : SourceLedger σ) (source : Nat) :
    SourceLedger σ × Except PyError Unit :=
  (ledger.use use (fun object => (use.perform object).1) source,
    match ledger.read source with
    | none => .ok ()
    | some object => (use.perform object).2)

/-- Call one source after another until a call raises; the sources whose call
returned come second. -/
def callSources (use : SourceUse) :
    List Nat → SourceLedger σ → SourceLedger σ × List Nat × Except PyError Unit
  | [], ledger => (ledger, [], .ok ())
  | source :: rest, ledger =>
      match callSource use ledger source with
      | (ledger, .error error) => (ledger, [], .error error)
      | (ledger, .ok ()) =>
          let (ledger, reached, outcome) := callSources use rest ledger
          (ledger, source :: reached, outcome)

/-- A call whose exception is suppressed. -/
def tryCall (use : SourceUse) (ledger : SourceLedger σ) (source : Nat) : SourceLedger σ :=
  (callSource use ledger source).1

/-- Close a source; an exception is suppressed. -/
def closeSource (ledger : SourceLedger σ) (source : Nat) : SourceLedger σ :=
  ledger.close (fun object => (SourceController.close object).1) source

end Sources

/-! ## The body -/

structure EngineBody (ρ σ γ : Type) where
  facade : EngineFacade ρ
  sourceLedger : SourceLedger σ
  workerLedger : WorkerLedger
  worker : Option Nat
  sources : Dict UUID Nat
  state : EngineState
  interruptedPlayingSourceIds : List UUID
  graphRevision : Option Nat
  latestValidSnapshot : Option γ
  latestDemandRoots : Option (List UUID)

/-- A source that was never played: ready, or failed in its preparation. -/
def isFresh {σ : Type} [SourceController σ] (object : σ) : Bool :=
  decide (SourceController.state object ∈ [Media.SourceState.ready, .error])

/-- A snapshot to activate, with what the compiler makes of it and with the
outcomes of the calls that an activation makes. -/
structure ActivationRequest (ρ σ γ : Type) [SourceController σ] where
  snapshot : γ
  revision : Nat
  demandRoots : Option (List UUID)
  resetReason : ResetReason
  compiled : Option (DistinctPlan ρ)
  previewPrepare : Except PyError Unit
  newWorker : Except PyError Unit
  createSource : CompiledNode ρ → Except PyError σ
  creates_fresh : ∀ node object, createSource node = .ok object → isFresh object = true
  workerIdle : Except PyError Bool
  workerClose : Except PyError Unit

def CompiledNode.isSource (node : CompiledNode ρ) : Bool :=
  decide (node.definition.executionKind = .source)

def sourceNodes (plan : ExecutionPlan ρ) : List (CompiledNode ρ) :=
  plan.nodes.filter CompiledNode.isSource

/-- At least one source can tick the runtime. -/
def planHasSource (plan : ExecutionPlan ρ) : Bool := plan.nodes.any CompiledNode.isSource

/-- The sources that keep their state across a plan replacement. -/
def reusableSourceIds (oldPlan : Option (ExecutionPlan ρ)) (newPlan : ExecutionPlan ρ)
    (resetReason : ResetReason) : List UUID :=
  match oldPlan with
  | none => []
  | some oldPlan =>
      if resetReason ≠ .planReplaced then []
      else ((sourceNodes newPlan).filter (fun node =>
        match (sourceNodes oldPlan).find? (fun old => decide (old.nodeId = node.nodeId)) with
        | none => false
        | some old => decide (old.stateRetentionKey = node.stateRetentionKey))).map
          CompiledNode.nodeId

namespace EngineBody

def initial : EngineBody ρ σ γ where
  facade := EngineFacade.initial
  sourceLedger := Ledger.empty
  workerLedger := Ledger.empty
  worker := none
  sources := Dict.empty
  state := .stopped
  interruptedPlayingSourceIds := []
  graphRevision := none
  latestValidSnapshot := none
  latestDemandRoots := none

def heldSources (body : EngineBody ρ σ γ) : List Nat := body.sources.entries.map Prod.snd

/-! ## Candidates -/

section Runtimes

variable [NodeRuntime ρ]

/-- `prepared.close()` for the candidate that was handed out at an index. -/
def discard (body : EngineBody ρ σ γ) (index : Nat) : EngineBody ρ σ γ :=
  match body.facade.candidates[index]? with
  | none => body
  | some candidate => { body with facade := body.facade.closeCandidate index candidate }

def commitCandidate (facade : EngineFacade ρ) (index : Nat) (resetReason : ResetReason) :
    EngineFacade ρ × Except PyError Unit :=
  match facade.candidates[index]? with
  | none => (facade, .error (.runtimeError "no candidate"))
  | some candidate => facade.commit index candidate resetReason

end Runtimes

/-! ## Sources of a candidate -/

section Sources

variable [SourceController σ]

/-- The present source of a node, if it is reusable. -/
def keptSource (current : Dict UUID Nat) (reusable : List UUID) (id : UUID) : Option Nat :=
  if id ∈ reusable then current.get? id else none

/-- The sources of the new plan: kept, or created until a creation raises. -/
def buildSources (current : Dict UUID Nat) (reusable : List UUID)
    (createSource : CompiledNode ρ → Except PyError σ) :
    List (CompiledNode ρ) → SourceLedger σ → Dict UUID Nat →
      SourceLedger σ × Dict UUID Nat × Except PyError Unit
  | [], ledger, sources => (ledger, sources, .ok ())
  | node :: rest, ledger, sources =>
      match keptSource current reusable node.nodeId with
      | some existing =>
          buildSources current reusable createSource rest ledger
            (sources.insert node.nodeId existing)
      | none =>
          match createSource node with
          | .error error => (ledger, sources, .error error)
          | .ok object =>
              let (ledger, source) := ledger.allocate object
              buildSources current reusable createSource rest ledger
                (sources.insert node.nodeId source)

/-- The references of a dictionary of sources that are not reusable. -/
def replaceable (sources : Dict UUID Nat) (reusable : List UUID) : List Nat :=
  (sources.filter (fun entry => decide (entry.1 ∉ reusable))).entries.map Prod.snd

def disposeCandidateSources (ledger : SourceLedger σ) (sources : Dict UUID Nat)
    (reusable : List UUID) : SourceLedger σ :=
  (replaceable sources reusable).foldl closeSource ledger

/-- The identifiers of the sources that are playing or reconnecting. -/
def playingSourceIds (body : EngineBody ρ σ γ) : List UUID :=
  (body.sources.filter (fun entry => isPlaying body.sourceLedger entry.2)).keys

/-! ## Transport state -/

/-- The aggregate of the playback states of some sources. -/
def transportState (ledger : SourceLedger σ) (sources : List Nat) : EngineState :=
  if sources.any (isPlaying ledger) then .running
  else if sources.any (fun source => decide (playbackState ledger source = some .paused)) then
    .paused
  else .stopped

/-- Derive the aggregate transport state after a command on sources. -/
def refreshTransportState (body : EngineBody ρ σ γ) : EngineBody ρ σ γ :=
  { body with state := transportState body.sourceLedger body.heldSources }

def closedError : PyError := .runtimeError "Engine body is closed"

/-- The sources that a command is for, in the order of their identifiers. -/
def selectedSources (body : EngineBody ρ σ γ) (selection : Option UUID) :
    Except PyError (List Nat) :=
  if body.state = .closed then .error closedError
  else
    match selection with
    | none => .ok ((sortByKey id body.sources.keys).filterMap body.sources.get?)
    | some sourceNodeId =>
        match body.sources.get? sourceNodeId with
        | none => .error (.keyError ("Unknown source node: " ++ uuidText sourceNodeId))
        | some source => .ok [source]

/-! ## Activation -/

variable [NodeRuntime ρ]

/-- Stop and tear down the runtime after a document that carries no signal.  The
memory of what was playing is taken only while there are sources. -/
def stopRuntimeWithoutSignal (body : EngineBody ρ σ γ) : EngineBody ρ σ γ where
  facade := (body.facade.stop .planReplaced).1
  sourceLedger := body.heldSources.foldl closeSource
    (body.heldSources.foldl (tryCall .stop) body.sourceLedger)
  workerLedger := match body.worker with
    | none => body.workerLedger
    | some worker => body.workerLedger.close id worker
  worker := none
  sources := Dict.empty
  state := .stopped
  interruptedPlayingSourceIds :=
    if body.sources.entries.isEmpty then body.interruptedPlayingSourceIds
    else body.playingSourceIds
  graphRevision := body.graphRevision
  latestValidSnapshot := body.latestValidSnapshot
  latestDemandRoots := body.latestDemandRoots

/-- Give up a candidate: its sources, the worker made for it, its runtimes.  An
exception of the worker's closing takes the place of the first one and leaves
the runtimes. -/
def rollBack (body : EngineBody ρ σ γ) (request : ActivationRequest ρ σ γ) (index : Nat)
    (created : Option Nat) (sources : Dict UUID Nat) (reusable : List UUID) (error : PyError) :
    EngineBody ρ σ γ × Except PyError Bool :=
  let body := { body with
    sourceLedger := disposeCandidateSources body.sourceLedger sources reusable }
  match created with
  | none => (body.discard index, .error error)
  | some worker =>
      let body := { body with workerLedger := body.workerLedger.close id worker }
      match request.workerClose with
      | .error closing => (body, .error closing)
      | .ok () => (body.discard index, .error error)

/-- Reach the swap boundary: pause what is playing, wait for the worker, commit.
The sources that were paused come second. -/
def reachBoundary (body : EngineBody ρ σ γ) (request : ActivationRequest ρ σ γ) (index : Nat) :
    EngineBody ρ σ γ × List Nat × Except PyError Unit :=
  let playing := body.heldSources.filter (isPlaying body.sourceLedger)
  let (ledger, paused, outcome) := callSources .pause playing body.sourceLedger
  let body := { body with sourceLedger := ledger }
  match outcome with
  | .error error => (body, paused, .error error)
  | .ok () =>
      match body.worker.isSome, request.workerIdle with
      | true, .error error => (body, paused, .error error)
      | true, .ok false =>
          (body, paused, .error
            (.timeoutError "Active graph did not reach a safe plan-swap boundary"))
      | _, _ =>
          let (facade, outcome) := commitCandidate body.facade index request.resetReason
          ({ body with facade := facade }, paused, outcome)

/-- Play or resume, in the new plan, the sources that were playing. -/
def continuePlaying (ledger : SourceLedger σ) (sources : Dict UUID Nat)
    (playing reusable : List UUID) : SourceLedger σ :=
  (sources.entries.filter (fun entry => decide (entry.1 ∈ playing))).foldl
    (fun ledger entry =>
      tryCall (if entry.1 ∈ reusable then .resume else .play) ledger entry.2) ledger

/-- Play, in the new plan, the sources that a teardown interrupted. -/
def replayInterrupted (ledger : SourceLedger σ) (sources : Dict UUID Nat)
    (interrupted : List UUID) : SourceLedger σ :=
  ((sources.filter (fun entry => decide (entry.1 ∈ interrupted))).entries.map Prod.snd).foldl
    (tryCall .play) ledger

/-- Install the committed plan and its sources. -/
def swap (body : EngineBody ρ σ γ) (request : ActivationRequest ρ σ γ) (worker : Nat)
    (sources : Dict UUID Nat) (reusable playing : List UUID) (hadPlan : Bool) :
    EngineBody ρ σ γ :=
  let closed := disposeCandidateSources body.sourceLedger body.sources reusable
  let continued :=
    if body.state = .running then continuePlaying closed sources playing reusable else closed
  let swapped := { body with
    sourceLedger := continued
    worker := some worker
    sources := sources
    state := if hadPlan then body.state else .stopped
    graphRevision := some request.revision
    latestValidSnapshot := some request.snapshot
    latestDemandRoots := request.demandRoots }
  if body.interruptedPlayingSourceIds.isEmpty then swapped
  else
    refreshTransportState { swapped with
      sourceLedger := replayInterrupted continued sources body.interruptedPlayingSourceIds
      interruptedPlayingSourceIds := [] }

/-- The worker of an activation, and the one that was created for it. -/
def employ (body : EngineBody ρ σ γ) (request : ActivationRequest ρ σ γ) :
    Except PyError (WorkerLedger × Nat × Option Nat) :=
  match body.worker with
  | some worker => .ok (body.workerLedger, worker, none)
  | none =>
      match request.newWorker with
      | .error error => .error error
      | .ok () =>
          let (workerLedger, worker) := body.workerLedger.allocate ()
          .ok (workerLedger, worker, some worker)

/-- The part of an activation behind the worker. -/
def activatePlan (body : EngineBody ρ σ γ) (request : ActivationRequest ρ σ γ) (index : Nat)
    (plan : ExecutionPlan ρ) (worker : Nat) (created : Option Nat) :
    EngineBody ρ σ γ × Except PyError Bool :=
  let oldPlan := body.facade.plan
  let reusable := reusableSourceIds oldPlan plan request.resetReason
  let (ledger, sources, outcome) := buildSources body.sources reusable request.createSource
    (sourceNodes plan) body.sourceLedger Dict.empty
  let body := { body with sourceLedger := ledger }
  match outcome with
  | .error error => body.rollBack request index created sources reusable error
  | .ok () =>
      let playing := body.playingSourceIds
      let (body, paused, outcome) := body.reachBoundary request index
      match outcome with
      | .error error =>
          { body with
            sourceLedger := paused.foldl (tryCall .resume) body.sourceLedger }.rollBack
              request index created sources reusable error
      | .ok () =>
          (body.swap request worker sources reusable playing oldPlan.isSome, .ok true)

/-- `activate`; the result is whether the snapshot became active. -/
def activate (body : EngineBody ρ σ γ) (request : ActivationRequest ρ σ γ) :
    EngineBody ρ σ γ × Except PyError Bool :=
  if body.state = .closed then (body, .error closedError)
  else
    let index := body.facade.candidates.length
    match body.facade.prepare request.compiled request.resetReason with
    | (facade, .error error) => ({ body with facade := facade }, .error error)
    | (facade, .ok ()) =>
        let body := { body with facade := facade }
        match request.compiled.filter (fun compiled => planHasSource compiled.plan) with
        | none => ((body.discard index).stopRuntimeWithoutSignal, .ok false)
        | some compiled =>
            match request.previewPrepare with
            | .error error => (body.discard index, .error error)
            | .ok () =>
                match body.employ request with
                | .error error => (body, .error error)
                | .ok (workerLedger, worker, created) =>
                    { body with workerLedger := workerLedger }.activatePlan request index
                      compiled.plan worker created

/-! ## Transport commands -/

/-- A command on the selected sources; what follows their calls is done when all
of them returned. -/
def onSources (body : EngineBody ρ σ γ) (use : SourceUse) (selection : Option UUID)
    (finish : EngineBody ρ σ γ → EngineBody ρ σ γ × Except PyError Unit) :
    EngineBody ρ σ γ × Except PyError Unit :=
  match body.selectedSources selection with
  | .error error => (body, .error error)
  | .ok sources =>
      match callSources use sources body.sourceLedger with
      | (ledger, _, .error error) => ({ body with sourceLedger := ledger }, .error error)
      | (ledger, _, .ok ()) => finish { body with sourceLedger := ledger }

/-- `facade.panic()` -/
def panicFacade (body : EngineBody ρ σ γ) : EngineBody ρ σ γ × Except PyError Unit :=
  let (facade, outcome) := body.facade.panic
  ({ body with facade := facade }, outcome)

def play (body : EngineBody ρ σ γ) (selection : Option UUID) :
    EngineBody ρ σ γ × Except PyError Unit :=
  body.onSources .play selection (fun body => (body.refreshTransportState, .ok ()))

/-- A pause panics the outputs when it leaves nothing running. -/
def pause (body : EngineBody ρ σ γ) (selection : Option UUID) :
    EngineBody ρ σ γ × Except PyError Unit :=
  body.onSources .pause selection (fun body =>
    let body := body.refreshTransportState
    if body.state ≠ .running then body.panicFacade else (body, .ok ()))

def resume (body : EngineBody ρ σ γ) (selection : Option UUID) :
    EngineBody ρ σ γ × Except PyError Unit :=
  body.onSources .resume selection (fun body => (body.refreshTransportState, .ok ()))

/-- The panic of a command on all sources, then the refresh. -/
def panicAndRefresh (selection : Option UUID) (body : EngineBody ρ σ γ) :
    EngineBody ρ σ γ × Except PyError Unit :=
  match selection with
  | some _ => (body.refreshTransportState, .ok ())
  | none =>
      match body.panicFacade with
      | (body, .error error) => (body, .error error)
      | (body, .ok ()) => (body.refreshTransportState, .ok ())

def stop (body : EngineBody ρ σ γ) (selection : Option UUID) :
    EngineBody ρ σ γ × Except PyError Unit :=
  body.onSources .stop selection (panicAndRefresh selection)

def reload (body : EngineBody ρ σ γ) (selection : Option UUID) :
    EngineBody ρ σ γ × Except PyError Unit :=
  body.onSources .reload selection (panicAndRefresh selection)

def seek (body : EngineBody ρ σ γ) (sourceNodeId : UUID) (sourceTimeS : ℚ) :
    EngineBody ρ σ γ × Except PyError Unit :=
  body.onSources (.seek sourceTimeS) (some sourceNodeId) (fun body => (body, .ok ()))

def panic (body : EngineBody ρ σ γ) : EngineBody ρ σ γ × Except PyError Unit :=
  if body.state = .closed then (body, .error closedError) else body.panicFacade

/-- The exception that a cleanup raises: the first of the sources', or that of
the rest. -/
def cleanupOutcome (body : EngineBody ρ σ γ) (rest : Except PyError Unit) : Except PyError Unit :=
  match body.heldSources.filterMap (fun source => (body.sourceLedger.read source).bind
      (fun object => match (SourceController.close object).2 with
        | .ok () => none
        | .error error => some error)) with
  | [] => rest
  | error :: _ => .error error

/-- `close`; exceptions of the worker and of the devices are given. -/
def close (body : EngineBody ρ σ γ) (rest : Except PyError Unit) :
    EngineBody ρ σ γ × Except PyError Unit :=
  if body.state = .closed then (body, .ok ())
  else
    ({ body with
        facade := body.facade.close
        sourceLedger := body.heldSources.foldl closeSource body.sourceLedger
        workerLedger := match body.worker with
          | none => body.workerLedger
          | some worker => body.workerLedger.close id worker
        worker := none
        sources := Dict.empty
        state := .closed
        interruptedPlayingSourceIds := [] }, body.cleanupOutcome rest)

end Sources
end EngineBody

/-! ## Commands and runs -/

/-- The calls on the body, and between them what the graph worker does to the
facade and what a source does by itself. -/
inductive BodyCommand (ρ σ γ : Type) [SourceController σ] where
  | activate (request : ActivationRequest ρ σ γ)
  | play (selection : Option UUID)
  | pause (selection : Option UUID)
  | resume (selection : Option UUID)
  | stop (selection : Option UUID)
  | reload (selection : Option UUID)
  | seek (sourceNodeId : UUID) (sourceTimeS : ℚ)
  | panic
  | close (rest : Except PyError Unit)
  | tick (context : FrameContext) (sourceValues : PortValues)
  | resetSource (sourceNodeId : UUID) (reason : ResetReason)
  | sourceMoves (sourceNodeId : UUID) (object : σ)

namespace EngineBody

variable [NodeRuntime ρ] [SourceController σ]

/-- What a source has become by itself. -/
def moveSource (body : EngineBody ρ σ γ) (sourceNodeId : UUID) (object : σ) : EngineBody ρ σ γ :=
  match body.sources.get? sourceNodeId with
  | none => body
  | some source => { body with sourceLedger := body.sourceLedger.write source object }

def concluded {Value : Type} (result : EngineBody ρ σ γ × Except PyError Value) :
    EngineBody ρ σ γ × Bool :=
  (result.1, match result.2 with
    | .ok _ => true
    | .error _ => false)

/-- One command, and whether it returned. -/
def perform (body : EngineBody ρ σ γ) : BodyCommand ρ σ γ → EngineBody ρ σ γ × Bool
  | .activate request => concluded (body.activate request)
  | .play selection => concluded (body.play selection)
  | .pause selection => concluded (body.pause selection)
  | .resume selection => concluded (body.resume selection)
  | .stop selection => concluded (body.stop selection)
  | .reload selection => concluded (body.reload selection)
  | .seek sourceNodeId sourceTimeS => concluded (body.seek sourceNodeId sourceTimeS)
  | .panic => concluded body.panic
  | .close rest => concluded (body.close rest)
  | .tick context sourceValues =>
      ({ body with facade := (body.facade.tick context sourceValues).1 }, true)
  | .resetSource sourceNodeId reason =>
      ({ body with facade := (body.facade.resetSource sourceNodeId reason).1 }, true)
  | .sourceMoves sourceNodeId object => (body.moveSource sourceNodeId object, true)

def step (body : EngineBody ρ σ γ) (command : BodyCommand ρ σ γ) : Option (EngineBody ρ σ γ) :=
  some (body.perform command).1

end EngineBody
end Runtime
end Synesthesia
