import Synesthesia.Runtime.EngineBody

namespace Synesthesia
namespace Runtime

open Foundation Contracts Nodes

/-!
# What an activation can do

Every outcome of `EngineBody.activate`, once.  The laws of the body refer to
these cases and never unfold an activation again.
-/

variable {ρ σ γ : Type} [NodeRuntime ρ] [SourceController σ]

namespace EngineBody

/-! ## Outcomes -/

/-- The part behind the worker: the sources cannot be built, the boundary is not
reached, or the plan is swapped. -/
inductive Plans (body : EngineBody ρ σ γ) (request : ActivationRequest ρ σ γ) (index : Nat)
    (plan : ExecutionPlan ρ) (worker : Nat) (created : Option Nat) :
    EngineBody ρ σ γ × Except PyError Bool → Prop
  | unbuilt {ledger : SourceLedger σ} {sources : Dict UUID Nat} {error : PyError}
      (built : buildSources body.sources
        (reusableSourceIds body.facade.plan plan request.resetReason) request.createSource
        (sourceNodes plan) body.sourceLedger Dict.empty = (ledger, sources, .error error)) :
      Plans body request index plan worker created
        ({ body with sourceLedger := ledger }.rollBack request index created sources
          (reusableSourceIds body.facade.plan plan request.resetReason) error)
  | unreached {ledger : SourceLedger σ} {sources : Dict UUID Nat} {reached : EngineBody ρ σ γ}
      {paused : List Nat} {error : PyError}
      (built : buildSources body.sources
        (reusableSourceIds body.facade.plan plan request.resetReason) request.createSource
        (sourceNodes plan) body.sourceLedger Dict.empty = (ledger, sources, .ok ()))
      (boundary : { body with sourceLedger := ledger }.reachBoundary request index =
        (reached, paused, .error error)) :
      Plans body request index plan worker created
        ({ reached with
          sourceLedger := paused.foldl (tryCall .resume) reached.sourceLedger }.rollBack
            request index created sources
            (reusableSourceIds body.facade.plan plan request.resetReason) error)
  | swapped {ledger : SourceLedger σ} {sources : Dict UUID Nat} {reached : EngineBody ρ σ γ}
      {paused : List Nat}
      (built : buildSources body.sources
        (reusableSourceIds body.facade.plan plan request.resetReason) request.createSource
        (sourceNodes plan) body.sourceLedger Dict.empty = (ledger, sources, .ok ()))
      (boundary : { body with sourceLedger := ledger }.reachBoundary request index =
        (reached, paused, .ok ())) :
      Plans body request index plan worker created
        (reached.swap request worker sources
          (reusableSourceIds body.facade.plan plan request.resetReason)
          { body with sourceLedger := ledger }.playingSourceIds body.facade.plan.isSome, .ok true)

/-- The way to the boundary: a pause raises, the worker is not at rest, or the
candidate is committed. -/
inductive Reaches (body : EngineBody ρ σ γ) (request : ActivationRequest ρ σ γ) (index : Nat) :
    EngineBody ρ σ γ × List Nat × Except PyError Unit → Prop
  | unpaused {ledger : SourceLedger σ} {paused : List Nat} {error : PyError}
      (calls : callSources .pause (body.heldSources.filter (isPlaying body.sourceLedger))
        body.sourceLedger = (ledger, paused, .error error)) :
      Reaches body request index ({ body with sourceLedger := ledger }, paused, .error error)
  | restless {ledger : SourceLedger σ} {paused : List Nat} {error : PyError}
      (calls : callSources .pause (body.heldSources.filter (isPlaying body.sourceLedger))
        body.sourceLedger = (ledger, paused, .ok ()))
      (present : body.worker.isSome = true) (busy : request.workerIdle ≠ .ok true) :
      Reaches body request index ({ body with sourceLedger := ledger }, paused, .error error)
  | rested {ledger : SourceLedger σ} {paused : List Nat} {facade : EngineFacade ρ}
      {outcome : Except PyError Unit}
      (calls : callSources .pause (body.heldSources.filter (isPlaying body.sourceLedger))
        body.sourceLedger = (ledger, paused, .ok ()))
      (idle : body.worker.isSome = true → request.workerIdle = .ok true)
      (commits : commitCandidate body.facade index request.resetReason = (facade, outcome)) :
      Reaches body request index
        ({ body with facade := facade, sourceLedger := ledger }, paused, outcome)

/-- All that an activation can come to. -/
inductive Activates (body : EngineBody ρ σ γ) (request : ActivationRequest ρ σ γ) :
    EngineBody ρ σ γ × Except PyError Bool → Prop
  | closed (isClosed : body.state = .closed) : Activates body request (body, .error closedError)
  | unprepared {facade : EngineFacade ρ} {error : PyError} (notClosed : body.state ≠ .closed)
      (prepared : body.facade.prepare request.compiled request.resetReason =
        (facade, .error error)) :
      Activates body request ({ body with facade := facade }, .error error)
  | silent {facade : EngineFacade ρ} (notClosed : body.state ≠ .closed)
      (prepared : body.facade.prepare request.compiled request.resetReason = (facade, .ok ()))
      (noSource : request.compiled.filter (fun compiled => planHasSource compiled.plan) = none) :
      Activates body request (({ body with facade := facade }.discard
        body.facade.candidates.length).stopRuntimeWithoutSignal, .ok false)
  | unpreviewed {facade : EngineFacade ρ} {compiled : DistinctPlan ρ} {error : PyError}
      (notClosed : body.state ≠ .closed)
      (prepared : body.facade.prepare request.compiled request.resetReason = (facade, .ok ()))
      (source : request.compiled.filter (fun compiled => planHasSource compiled.plan) =
        some compiled)
      (preview : request.previewPrepare = .error error) :
      Activates body request ({ body with facade := facade }.discard
        body.facade.candidates.length, .error error)
  | unemployed {facade : EngineFacade ρ} {compiled : DistinctPlan ρ} {error : PyError}
      (notClosed : body.state ≠ .closed)
      (prepared : body.facade.prepare request.compiled request.resetReason = (facade, .ok ()))
      (source : request.compiled.filter (fun compiled => planHasSource compiled.plan) =
        some compiled)
      (preview : request.previewPrepare = .ok ())
      (employs : body.employ request = .error error) :
      Activates body request ({ body with facade := facade }, .error error)
  | planned {facade : EngineFacade ρ} {compiled : DistinctPlan ρ} {workerLedger : WorkerLedger}
      {worker : Nat} {created : Option Nat} {result : EngineBody ρ σ γ × Except PyError Bool}
      (notClosed : body.state ≠ .closed)
      (prepared : body.facade.prepare request.compiled request.resetReason = (facade, .ok ()))
      (source : request.compiled.filter (fun compiled => planHasSource compiled.plan) =
        some compiled)
      (preview : request.previewPrepare = .ok ())
      (employs : body.employ request = .ok (workerLedger, worker, created))
      (plans : Plans { body with facade := facade, workerLedger := workerLedger } request
        body.facade.candidates.length compiled.plan worker created result) :
      Activates body request result

theorem reachBoundary_cases (body : EngineBody ρ σ γ) (request : ActivationRequest ρ σ γ)
    (index : Nat) : Reaches body request index (body.reachBoundary request index) := by
  rw [reachBoundary]
  rcases calls : callSources .pause (body.heldSources.filter (isPlaying body.sourceLedger))
    body.sourceLedger with ⟨ledger, paused, outcome⟩
  cases outcome with
  | error error => exact .unpaused calls
  | ok done =>
      have commits : Reaches body request index ({ body with
          facade := (commitCandidate body.facade index request.resetReason).1
          sourceLedger := ledger }, paused,
            (commitCandidate body.facade index request.resetReason).2) ∨
          (body.worker.isSome = true ∧ request.workerIdle ≠ .ok true) := by
        by_cases idle : body.worker.isSome = true → request.workerIdle = .ok true
        · exact Or.inl (.rested calls idle rfl)
        · exact Or.inr (Classical.not_imp.mp idle)
      dsimp only
      cases present : body.worker.isSome with
      | false => exact commits.resolve_right (fun busy => by simp [present] at busy)
      | true =>
          cases idle : request.workerIdle with
          | error error => exact .restless calls present (fun same => by simp [idle] at same)
          | ok isIdle =>
              cases isIdle with
              | false => exact .restless calls present (fun same => by simp [idle] at same)
              | true => exact commits.resolve_right (fun busy => busy.2 idle)

theorem activatePlan_plans (body : EngineBody ρ σ γ) (request : ActivationRequest ρ σ γ)
    (index : Nat) (plan : ExecutionPlan ρ) (worker : Nat) (created : Option Nat) :
    Plans body request index plan worker created
      (body.activatePlan request index plan worker created) := by
  rw [activatePlan]
  rcases built : buildSources body.sources
    (reusableSourceIds body.facade.plan plan request.resetReason) request.createSource
    (sourceNodes plan) body.sourceLedger Dict.empty with ⟨ledger, sources, outcome⟩
  cases outcome with
  | error error => exact .unbuilt built
  | ok done =>
      rcases boundary : { body with sourceLedger := ledger }.reachBoundary request index
        with ⟨reached, paused, outcome⟩
      cases outcome with
      | error error =>
          dsimp only
          rw [boundary]
          exact .unreached built boundary
      | ok done =>
          dsimp only
          rw [boundary]
          exact .swapped built boundary

theorem activate_cases (body : EngineBody ρ σ γ) (request : ActivationRequest ρ σ γ) :
    Activates body request (body.activate request) := by
  rw [activate]
  by_cases isClosed : body.state = .closed
  · rw [if_pos isClosed]
    exact .closed isClosed
  · rw [if_neg isClosed]
    rcases prepared : body.facade.prepare request.compiled request.resetReason
      with ⟨facade, outcome⟩
    cases outcome with
    | error error => exact .unprepared isClosed prepared
    | ok done =>
        dsimp only
        cases source : request.compiled.filter (fun compiled => planHasSource compiled.plan) with
        | none => exact .silent isClosed prepared source
        | some compiled =>
            cases preview : request.previewPrepare with
            | error error => exact .unpreviewed isClosed prepared source preview
            | ok done =>
                have sameWorker :
                    { body with facade := facade }.employ request = body.employ request := rfl
                dsimp only
                rw [sameWorker]
                cases employs : body.employ request with
                | error error => exact .unemployed isClosed prepared source preview employs
                | ok staff =>
                    exact .planned isClosed prepared source preview employs
                      (activatePlan_plans _ request _ compiled.plan _ _)

/-! ## What a failure leaves alone -/

/-- The fields of the body that only a swap, a teardown or a transport command
changes. -/
structure SameFields (before after : EngineBody ρ σ γ) : Prop where
  worker : after.worker = before.worker
  sources : after.sources = before.sources
  state : after.state = before.state
  interrupted : after.interruptedPlayingSourceIds = before.interruptedPlayingSourceIds
  graphRevision : after.graphRevision = before.graphRevision
  latestValidSnapshot : after.latestValidSnapshot = before.latestValidSnapshot
  latestDemandRoots : after.latestDemandRoots = before.latestDemandRoots

omit [NodeRuntime ρ] [SourceController σ] in
theorem SameFields.refl (body : EngineBody ρ σ γ) : SameFields body body :=
  ⟨rfl, rfl, rfl, rfl, rfl, rfl, rfl⟩

omit [NodeRuntime ρ] [SourceController σ] in
theorem SameFields.trans {first second third : EngineBody ρ σ γ} (before : SameFields first second)
    (after : SameFields second third) : SameFields first third where
  worker := after.worker.trans before.worker
  sources := after.sources.trans before.sources
  state := after.state.trans before.state
  interrupted := after.interrupted.trans before.interrupted
  graphRevision := after.graphRevision.trans before.graphRevision
  latestValidSnapshot := after.latestValidSnapshot.trans before.latestValidSnapshot
  latestDemandRoots := after.latestDemandRoots.trans before.latestDemandRoots

omit [NodeRuntime ρ] [SourceController σ] in
/-- The facade and the ledgers are no such fields. -/
theorem SameFields.ledgers (body : EngineBody ρ σ γ) (facade : EngineFacade ρ)
    (sourceLedger : SourceLedger σ) (workerLedger : WorkerLedger) :
    SameFields body { body with
      facade := facade
      sourceLedger := sourceLedger
      workerLedger := workerLedger } :=
  ⟨rfl, rfl, rfl, rfl, rfl, rfl, rfl⟩

omit [SourceController σ] in
theorem discard_sameFields (body : EngineBody ρ σ γ) (index : Nat) :
    SameFields body (body.discard index) := by
  rw [discard]
  cases body.facade.candidates[index]? with
  | none => exact SameFields.refl body
  | some candidate => exact SameFields.ledgers body _ _ _

theorem rollBack_sameFields (body : EngineBody ρ σ γ) (request : ActivationRequest ρ σ γ)
    (index : Nat) (created : Option Nat) (sources : Dict UUID Nat) (reusable : List UUID)
    (error : PyError) :
    SameFields body (body.rollBack request index created sources reusable error).1 := by
  rw [rollBack.eq_def]
  cases created with
  | none =>
      have rest := SameFields.ledgers body body.facade
        (disposeCandidateSources body.sourceLedger sources reusable) body.workerLedger
      exact rest.trans (discard_sameFields _ index)
  | some worker =>
      have rest := SameFields.ledgers body body.facade
        (disposeCandidateSources body.sourceLedger sources reusable)
        (body.workerLedger.close id worker)
      cases request.workerClose with
      | error closing => exact rest
      | ok done => exact rest.trans (discard_sameFields _ index)

theorem rollBack_raises (body : EngineBody ρ σ γ) (request : ActivationRequest ρ σ γ)
    (index : Nat) (created : Option Nat) (sources : Dict UUID Nat) (reusable : List UUID)
    (error : PyError) :
    ∃ raised, (body.rollBack request index created sources reusable error).2 = .error raised := by
  rw [rollBack.eq_def]
  cases created with
  | none => exact ⟨error, rfl⟩
  | some worker =>
      cases request.workerClose with
      | error closing => exact ⟨closing, rfl⟩
      | ok done => exact ⟨error, rfl⟩

theorem rollBack_ne_ok (body : EngineBody ρ σ γ) (request : ActivationRequest ρ σ γ)
    (index : Nat) (created : Option Nat) (sources : Dict UUID Nat) (reusable : List UUID)
    (error : PyError) (activated : Bool) :
    (body.rollBack request index created sources reusable error).2 ≠ .ok activated := by
  intro returned
  rcases body.rollBack_raises request index created sources reusable error with ⟨raised, raises⟩
  rw [raises] at returned
  cases returned

/-- The calls on the way to the boundary pause, and nothing else. -/
theorem reachBoundary_sameFields (body : EngineBody ρ σ γ) (request : ActivationRequest ρ σ γ)
    (index : Nat) : SameFields body (body.reachBoundary request index).1 ∧
      (body.reachBoundary request index).1.sourceLedger = (callSources .pause
        (body.heldSources.filter (isPlaying body.sourceLedger)) body.sourceLedger).1 := by
  have reaches := body.reachBoundary_cases request index
  generalize body.reachBoundary request index = result at reaches
  cases reaches with
  | unpaused calls => exact ⟨SameFields.ledgers body _ _ _, by rw [calls]⟩
  | restless calls _ _ => exact ⟨SameFields.ledgers body _ _ _, by rw [calls]⟩
  | rested calls _ _ => exact ⟨SameFields.ledgers body _ _ _, by rw [calls]⟩

theorem plans_raised {body : EngineBody ρ σ γ} {request : ActivationRequest ρ σ γ} {index : Nat}
    {plan : ExecutionPlan ρ} {worker : Nat} {created : Option Nat}
    {result : EngineBody ρ σ γ × Except PyError Bool} {error : PyError}
    (plans : Plans body request index plan worker created result)
    (failed : result.2 = .error error) :
    SameFields body result.1 := by
  cases plans with
  | unbuilt built =>
      exact (SameFields.ledgers body _ _ _).trans (rollBack_sameFields _ _ _ _ _ _ _)
  | @unreached ledger sources reached paused _ built boundary =>
      have paused := (reachBoundary_sameFields { body with sourceLedger := ledger } request index).1
      rw [boundary] at paused
      refine ((SameFields.ledgers body _ ledger _).trans paused).trans ?_
      exact (SameFields.ledgers _ _ _ _).trans (rollBack_sameFields _ _ _ _ _ _ _)
  | swapped built boundary => cases failed

/-- An activation that raises leaves the body's own fields alone. -/
theorem activate_raised {body : EngineBody ρ σ γ} {request : ActivationRequest ρ σ γ}
    {error : PyError} (failed : (body.activate request).2 = .error error) :
    SameFields body (body.activate request).1 := by
  have activates := body.activate_cases request
  generalize body.activate request = result at activates failed
  cases activates with
  | closed _ => exact SameFields.refl body
  | unprepared _ _ => exact SameFields.ledgers body _ _ _
  | silent _ _ _ => cases failed
  | unpreviewed _ _ _ _ =>
      exact (SameFields.ledgers body _ _ _).trans (discard_sameFields _ _)
  | unemployed _ _ _ _ _ => exact SameFields.ledgers body _ _ _
  | planned _ _ _ _ _ plans =>
      exact (SameFields.ledgers body _ _ _).trans (plans_raised plans failed)

end EngineBody
end Runtime
end Synesthesia
