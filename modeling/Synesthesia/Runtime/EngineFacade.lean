import Synesthesia.Foundation.Ownership
import Synesthesia.Foundation.Runs
import Synesthesia.Graph.CompiledPlan
import Synesthesia.Runtime.Scheduler

namespace Synesthesia
namespace Runtime

open Foundation Contracts Nodes

/-!
# The engine facade

`runtime/engine_facade.py`, and the parts of `runtime/scheduler.py` by which one
scheduler replaces another.  A runtime is an object that two schedulers may
hold at once, so schedulers hold references into a ledger here.  A tick, a
reset or a panic is the scheduler of `Runtime.Scheduler` on the objects that the
references lead to.
-/

variable {ρ : Type} [NodeRuntime ρ]

inductive RuntimeUse where
  | processed
  | reset
  | panicked
deriving DecidableEq, Repr

abbrev RuntimeLedger (ρ : Type) := Ledger ρ RuntimeUse

/-! ## State retention -/

/-- What has to agree for a runtime to be kept across plans. -/
structure StateRetentionKey where
  typeId : String
  implementationVersion : Nat
  clockId : Option UUID
  isDemanded : Bool
  inputBindings : List (String × PortKey × Option ScalarConversion)
  stateParameters : List (String × Option ParameterValue)
deriving DecidableEq

omit [NodeRuntime ρ] in
/-- Describe when a node's runtime state is safe to retain across plans. -/
def CompiledNode.stateRetentionKey (node : CompiledNode ρ) : StateRetentionKey where
  typeId := node.definition.typeId
  implementationVersion := node.definition.implementationVersion
  clockId := node.clockId
  isDemanded := node.isDemanded
  inputBindings := sortByKey Prod.fst node.inputBindingItems
  stateParameters := (node.definition.parameters.filter
    (fun parameter => decide (parameter.updateMode ≠ .live))).map
      (fun parameter => (parameter.id, node.parameters.get? parameter.id))

/-! ## Schedulers over references -/

/-- A scheduler whose runtimes are references into the ledger. -/
structure SharingScheduler (ρ : Type) where
  plan : ExecutionPlan ρ
  runtimes : Dict UUID Nat
  borrowedRuntimeIds : List UUID
  staticCache : PortValues

namespace SharingScheduler

omit [NodeRuntime ρ] in
/-- The scheduler on the objects behind its references. -/
def load (scheduler : SharingScheduler ρ) (ledger : RuntimeLedger ρ) : Scheduler ρ where
  plan := scheduler.plan
  runtimes := Dict.ofEntries (scheduler.runtimes.entries.filterMap
    (fun entry => (ledger.read entry.2).map (fun runtime => (entry.1, runtime))))
  borrowedRuntimeIds := scheduler.borrowedRuntimeIds
  staticCache := scheduler.staticCache

omit [NodeRuntime ρ] in
/-- Put the objects back behind their references. -/
def store (scheduler : SharingScheduler ρ) (ledger : RuntimeLedger ρ) (runtimes : Dict UUID ρ) :
    RuntimeLedger ρ :=
  scheduler.runtimes.entries.foldl (fun ledger entry =>
    match runtimes.get? entry.1 with
    | none => ledger
    | some runtime => ledger.write entry.2 runtime) ledger

omit [NodeRuntime ρ] in
/-- The outcome of an operation on the loaded scheduler, with the runtimes that
it has reached. -/
def conclude (scheduler : SharingScheduler ρ) (ledger : RuntimeLedger ρ) (kind : RuntimeUse)
    (after : Scheduler ρ) (reached : List UUID) : RuntimeLedger ρ × SharingScheduler ρ :=
  ((scheduler.store ledger after.runtimes).recordUses kind
      (reached.filterMap scheduler.runtimes.get?),
    { scheduler with staticCache := after.staticCache })

/-- The nodes that a tick invokes, also one that an exception cuts short. -/
def invoked (scheduler : SharingScheduler ρ) (ledger : RuntimeLedger ρ) (context : FrameContext)
    (sourceValues : PortValues) : List UUID :=
  (tickNodes context scheduler.plan.nodes
    ((scheduler.load ledger).startTick sourceValues)).1.invocations.keys

def executeTick (scheduler : SharingScheduler ρ) (ledger : RuntimeLedger ρ)
    (context : FrameContext) (sourceValues : PortValues) :
    RuntimeLedger ρ × SharingScheduler ρ × Except PyError TickResult :=
  let (after, outcome) := (scheduler.load ledger).executeTick context sourceValues
  let (ledger, scheduler) := scheduler.conclude ledger .processed after
    (scheduler.invoked ledger context sourceValues)
  (ledger, scheduler, outcome)

def resetSource (scheduler : SharingScheduler ρ) (ledger : RuntimeLedger ρ) (clockId : UUID)
    (reason : ResetReason) : RuntimeLedger ρ × SharingScheduler ρ × Except PyError Unit :=
  let (after, reached, outcome) := (scheduler.load ledger).resetSource clockId reason
  let (ledger, scheduler) := scheduler.conclude ledger .reset after reached
  (ledger, scheduler, outcome)

def resetAll (scheduler : SharingScheduler ρ) (ledger : RuntimeLedger ρ) (reason : ResetReason) :
    RuntimeLedger ρ × SharingScheduler ρ × Except PyError Unit :=
  let (after, reached, outcome) := (scheduler.load ledger).resetAll reason
  let (ledger, scheduler) := scheduler.conclude ledger .reset after reached
  (ledger, scheduler, outcome)

def panic (scheduler : SharingScheduler ρ) (ledger : RuntimeLedger ρ) (publishGeneration : Nat) :
    RuntimeLedger ρ × SharingScheduler ρ × Except PyError Unit :=
  let (after, reached, outcome) := (scheduler.load ledger).panic publishGeneration
  let (ledger, scheduler) := scheduler.conclude ledger .panicked after reached
  (ledger, scheduler, outcome)

/-! ## Disposal -/

/-- The references that the scheduler does not borrow. -/
def ownRuntimes (scheduler : SharingScheduler ρ) : List Nat :=
  (scheduler.runtimes.filter
    (fun entry => decide (entry.1 ∉ scheduler.borrowedRuntimeIds))).entries.map Prod.snd

/-- Close a runtime; an exception is suppressed. -/
def closeRuntime (ledger : RuntimeLedger ρ) (runtime : Nat) : RuntimeLedger ρ :=
  ledger.close (fun object => (NodeRuntime.close object).1) runtime

/-- Reset a runtime if there is a reason, then close it; exceptions of both are
suppressed. -/
def disposeRuntime (reason : Option ResetReason) (ledger : RuntimeLedger ρ) (runtime : Nat) :
    RuntimeLedger ρ :=
  match reason with
  | none => closeRuntime ledger runtime
  | some reason =>
      closeRuntime (ledger.use .reset (fun object => (NodeRuntime.reset object reason).1) runtime)
        runtime

/-- Dispose candidate-owned runtimes without touching borrowed active
instances; the emptied scheduler is given up by its caller. -/
def cancelPrepared (scheduler : SharingScheduler ρ) (ledger : RuntimeLedger ρ) :
    RuntimeLedger ρ :=
  scheduler.ownRuntimes.foldl closeRuntime ledger

def close (scheduler : SharingScheduler ρ) (ledger : RuntimeLedger ρ)
    (reason : Option ResetReason) : RuntimeLedger ρ :=
  (scheduler.runtimes.entries.map Prod.snd).foldl (disposeRuntime reason) ledger

/-! ## Construction -/

/-- Build or borrow the runtime of every node of the plan, until a factory
raises. -/
def buildRuntimes (plan : ExecutionPlan ρ) (reusable : Dict UUID Nat) :
    List (CompiledNode ρ) → RuntimeLedger ρ → Dict UUID Nat → List UUID →
      RuntimeLedger ρ × SharingScheduler ρ × Except PyError Unit
  | [], ledger, runtimes, borrowed => (ledger, ⟨plan, runtimes, borrowed, Dict.empty⟩, .ok ())
  | node :: rest, ledger, runtimes, borrowed =>
      match reusable.get? node.nodeId with
      | some runtime =>
          buildRuntimes plan reusable rest ledger (runtimes.insert node.nodeId runtime)
            (borrowed ++ [node.nodeId])
      | none =>
          match node.definition.runtimeFactory node.nodeId with
          | .error error => (ledger, ⟨plan, runtimes, borrowed, Dict.empty⟩, .error error)
          | .ok object =>
              let (ledger, runtime) := ledger.allocate object
              buildRuntimes plan reusable rest ledger (runtimes.insert node.nodeId runtime) borrowed

/-- `Scheduler.__init__`: a factory that raises has the runtimes made so far
closed. -/
def create (plan : ExecutionPlan ρ) (reusable : Dict UUID Nat) (ledger : RuntimeLedger ρ) :
    RuntimeLedger ρ × Except PyError (SharingScheduler ρ) :=
  match buildRuntimes plan reusable plan.nodes ledger Dict.empty [] with
  | (ledger, scheduler, .ok ()) => (ledger, .ok scheduler)
  | (ledger, scheduler, .error error) => (scheduler.cancelPrepared ledger, .error error)

/-- The clocks of sources that are new or retain no state. -/
def invalidatedClocks (plan : ExecutionPlan ρ) (previous : SharingScheduler ρ) :
    List (Option UUID) :=
  (plan.nodes.filter (fun node =>
    decide (node.definition.executionKind = .source) &&
      (match previous.plan.node? node.nodeId with
        | none => true
        | some old => decide (old.stateRetentionKey ≠ node.stateRetentionKey)))).map
    CompiledNode.clockId

/-- Offer the runtime that the previous scheduler has for a node. -/
def offerRuntime (plan : ExecutionPlan ρ) (previous : SharingScheduler ρ)
    (reusable : Dict UUID Nat) (node : CompiledNode ρ) : Dict UUID Nat :=
  match previous.plan.node? node.nodeId, previous.runtimes.get? node.nodeId with
  | some old, some runtime =>
      if old.stateRetentionKey = node.stateRetentionKey ∧
          node.clockId ∉ invalidatedClocks plan previous then
        reusable.insert node.nodeId runtime
      else reusable
  | _, _ => reusable

/-- The runtimes of the previous scheduler that a plan may keep. -/
def reusableRuntimes (plan : ExecutionPlan ρ) (previous : SharingScheduler ρ) : Dict UUID Nat :=
  plan.nodes.foldl (offerRuntime plan previous) Dict.empty

def prepareReplacement (plan : ExecutionPlan ρ) (previous : Option (SharingScheduler ρ))
    (preserveState : Bool) (ledger : RuntimeLedger ρ) :
    RuntimeLedger ρ × Except PyError (SharingScheduler ρ) :=
  match previous, preserveState with
  | some previous, true => create plan (reusableRuntimes plan previous) ledger
  | _, _ => create plan Dict.empty ledger

/-- Every borrowed runtime still is the one of the previous scheduler. -/
def checkBorrowed (scheduler previous : SharingScheduler ρ) : List UUID → Except PyError Unit
  | [] => .ok ()
  | id :: rest =>
      match scheduler.runtimes.get? id with
      | none => .error (.keyError (missingRuntimeText id))
      | some runtime =>
          if previous.runtimes.get? id = some runtime then checkBorrowed scheduler previous rest
          else .error (.runtimeError
            ("Prepared runtime " ++ uuidText id ++ " no longer matches the active plan"))

/-- Transfer prepared shared runtimes; both schedulers change. -/
def claimBorrowedRuntimes (scheduler previous : SharingScheduler ρ) :
    Except PyError (SharingScheduler ρ × SharingScheduler ρ) :=
  match checkBorrowed scheduler previous scheduler.borrowedRuntimeIds with
  | .error error => .error error
  | .ok () =>
      .ok ({ scheduler with borrowedRuntimeIds := [] },
        { previous with
          runtimes := scheduler.borrowedRuntimeIds.foldl Dict.erase previous.runtimes })

end SharingScheduler

/-! ## Candidates and the facade -/

/-- A compiled scheduler candidate that has not replaced the active plan yet. -/
structure PreparedEngineActivation (ρ : Type) where
  plan : Option (ExecutionPlan ρ)
  scheduler : Option (SharingScheduler ρ)
  committed : Bool

/-- The facade with its runtimes and with the candidates that it handed out. -/
structure EngineFacade (ρ : Type) where
  ledger : RuntimeLedger ρ
  plan : Option (ExecutionPlan ρ)
  scheduler : Option (SharingScheduler ρ)
  publishGeneration : Nat
  candidates : List (PreparedEngineActivation ρ)

/-- A plan as the compiler makes it has one node for an identifier. -/
structure DistinctPlan (ρ : Type) where
  plan : ExecutionPlan ρ
  distinct : (plan.nodes.map CompiledNode.nodeId).Nodup

omit [NodeRuntime ρ] in
/-- Every plan that the compiler builds has it. -/
def DistinctPlan.ofCompiled {documentId : UUID} {revision : Nat} {resolved : Graph.Resolved ρ}
    {demandRoots : Option (List UUID)} {plan : ExecutionPlan ρ}
    (built : Graph.buildPlan documentId revision (Graph.analyze resolved demandRoots).1 =
      .ok plan) : DistinctPlan ρ :=
  ⟨plan, (Graph.wellClocked_of_compiled built).distinct⟩

namespace EngineFacade

def initial : EngineFacade ρ := ⟨Ledger.empty, none, none, 0, []⟩

/-- Compile and build a candidate.  The plan is what the compiler made of the
snapshot, if it accepted it. -/
def prepare (facade : EngineFacade ρ) (compiled : Option (DistinctPlan ρ))
    (resetReason : ResetReason) : EngineFacade ρ × Except PyError Unit :=
  match compiled with
  | none => ({ facade with candidates := facade.candidates ++ [⟨none, none, false⟩] }, .ok ())
  | some compiled =>
      match SharingScheduler.prepareReplacement compiled.plan facade.scheduler
          (decide (resetReason = .planReplaced)) facade.ledger with
      | (ledger, .error error) => ({ facade with ledger := ledger }, .error error)
      | (ledger, .ok replacement) =>
          ({ facade with
              ledger := ledger
              candidates :=
                facade.candidates ++ [⟨some compiled.plan, some replacement, false⟩] }, .ok ())

/-- `PreparedEngineActivation.close`. -/
def closeCandidate (facade : EngineFacade ρ) (index : Nat)
    (candidate : PreparedEngineActivation ρ) : EngineFacade ρ :=
  match candidate.committed, candidate.scheduler with
  | false, some scheduler =>
      { facade with
        ledger := scheduler.cancelPrepared facade.ledger
        candidates := facade.candidates.set index { candidate with scheduler := none } }
  | _, _ => facade

/-- What a candidate has to commit. -/
def available (candidate : PreparedEngineActivation ρ) :
    Option (ExecutionPlan ρ × SharingScheduler ρ) :=
  match candidate.committed, candidate.scheduler, candidate.plan with
  | false, some replacement, some plan => some (plan, replacement)
  | _, _, _ => none

def commit (facade : EngineFacade ρ) (index : Nat) (candidate : PreparedEngineActivation ρ)
    (resetReason : ResetReason) : EngineFacade ρ × Except PyError Unit :=
  match available candidate with
  | none =>
      (facade, .error (.runtimeError "Engine activation candidate is not available for commit"))
  | some (plan, replacement) =>
      let candidates := facade.candidates.set index { candidate with
        scheduler := none
        committed := true }
      match facade.scheduler with
      | none =>
          ({ facade with
              plan := some plan
              scheduler := some replacement
              candidates := candidates }, .ok ())
      | some previous =>
          match replacement.claimBorrowedRuntimes previous with
          | .error error => (facade, .error error)
          | .ok (replacement, previous) =>
              ({ facade with
                  ledger := previous.close facade.ledger (some resetReason)
                  plan := some plan
                  scheduler := some replacement
                  candidates := candidates }, .ok ())

/-- Tear down the active runtime: panic, then close also when the panic
raises. -/
def stop (facade : EngineFacade ρ) (reason : ResetReason) :
    EngineFacade ρ × Except PyError Unit :=
  match facade.scheduler with
  | none => ({ facade with plan := none }, .ok ())
  | some scheduler =>
      let (ledger, scheduler, outcome) := scheduler.panic facade.ledger 0
      ({ facade with
          ledger := scheduler.close ledger (some reason)
          plan := none
          scheduler := none }, outcome)

def tick (facade : EngineFacade ρ) (context : FrameContext) (sourceValues : PortValues) :
    EngineFacade ρ × Except PyError TickResult :=
  match facade.scheduler with
  | none => (facade, .error (.runtimeError "No valid graph plan is active"))
  | some scheduler =>
      let publishGeneration := facade.publishGeneration + 1
      let (ledger, scheduler, outcome) := scheduler.executeTick facade.ledger
        { context with publishGeneration := publishGeneration } sourceValues
      ({ facade with
          ledger := ledger
          scheduler := some scheduler
          publishGeneration := publishGeneration }, outcome)

/-- An operation of the active scheduler, if there is one. -/
def onScheduler (facade : EngineFacade ρ)
    (operation : SharingScheduler ρ → RuntimeLedger ρ →
      RuntimeLedger ρ × SharingScheduler ρ × Except PyError Unit) :
    EngineFacade ρ × Except PyError Unit :=
  match facade.scheduler with
  | none => (facade, .ok ())
  | some scheduler =>
      let (ledger, scheduler, outcome) := operation scheduler facade.ledger
      ({ facade with ledger := ledger, scheduler := some scheduler }, outcome)

def resetSource (facade : EngineFacade ρ) (sourceNodeId : UUID) (reason : ResetReason) :
    EngineFacade ρ × Except PyError Unit :=
  facade.onScheduler (fun scheduler ledger => scheduler.resetSource ledger sourceNodeId reason)

def resetAll (facade : EngineFacade ρ) (reason : ResetReason) :
    EngineFacade ρ × Except PyError Unit :=
  facade.onScheduler (fun scheduler ledger => scheduler.resetAll ledger reason)

def panic (facade : EngineFacade ρ) : EngineFacade ρ × Except PyError Unit :=
  facade.onScheduler (fun scheduler ledger => scheduler.panic ledger facade.publishGeneration)

def close (facade : EngineFacade ρ) : EngineFacade ρ :=
  { facade with
    ledger := match facade.scheduler with
      | none => facade.ledger
      | some scheduler => scheduler.close facade.ledger none
    plan := none
    scheduler := none }

end EngineFacade

/-! ## Commands -/

/-- The calls on a facade and on the candidates that it handed out, which are
numbered in the order of their preparation. -/
inductive FacadeCommand (ρ : Type) where
  | prepare (compiled : Option (DistinctPlan ρ)) (resetReason : ResetReason)
  | closeCandidate (index : Nat)
  | commit (index : Nat) (resetReason : ResetReason)
  | tick (context : FrameContext) (sourceValues : PortValues)
  | resetSource (sourceNodeId : UUID) (reason : ResetReason)
  | resetAll (reason : ResetReason)
  | panic
  | stop (reason : ResetReason)
  | close

namespace EngineFacade

/-- The facade after a call, and whether the call returned. -/
def concluded {Value : Type} (result : EngineFacade ρ × Except PyError Value) :
    EngineFacade ρ × Bool :=
  (result.1, match result.2 with
    | .ok _ => true
    | .error _ => false)

/-- One call; a candidate that was never handed out cannot be named. -/
def call (facade : EngineFacade ρ) : FacadeCommand ρ → Option (EngineFacade ρ × Bool)
  | .prepare compiled resetReason => some (concluded (facade.prepare compiled resetReason))
  | .closeCandidate index =>
      facade.candidates[index]?.map (fun candidate => (facade.closeCandidate index candidate, true))
  | .commit index resetReason =>
      facade.candidates[index]?.map (fun candidate =>
        concluded (facade.commit index candidate resetReason))
  | .tick context sourceValues => some (concluded (facade.tick context sourceValues))
  | .resetSource sourceNodeId reason => some (concluded (facade.resetSource sourceNodeId reason))
  | .resetAll reason => some (concluded (facade.resetAll reason))
  | .panic => some (concluded facade.panic)
  | .stop reason => some (concluded (facade.stop reason))
  | .close => some (facade.close, true)

def step (facade : EngineFacade ρ) (command : FacadeCommand ρ) : Option (EngineFacade ρ) :=
  (facade.call command).map Prod.fst

end EngineFacade
end Runtime
end Synesthesia
