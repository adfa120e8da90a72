import Synesthesia.Runtime.AutoResume

namespace Synesthesia
namespace Runtime

open Foundation Contracts Nodes

/-!
# Activations that fail

An activation that fails before its commit is to leave the body as it was.  Two
of its ways to fail do not: a graph worker that cannot be made, or that cannot
be closed again, leaves the runtimes of the candidate open, and a source that
was paused for the swap need not play again.
-/

variable {ρ σ γ : Type}

/-! ## Calls that return -/

section Calls

variable [SourceController σ]

/-- The call on the source would return. -/
def Returns (use : SourceUse) (ledger : SourceLedger σ) (source : Nat) : Prop :=
  ∀ object, ledger.read source = some object → (use.perform object).2 = .ok ()

variable {use : SourceUse}

theorem callSource_outcome {ledger : SourceLedger σ} {source : Nat} :
    (callSource use ledger source).2 = .ok () ↔ Returns use ledger source := by
  rw [callSource, Returns]
  cases ledger.read source with
  | none => exact iff_of_true rfl (fun _ impossible => by cases impossible)
  | some object =>
      constructor
      · rintro returned _ ⟨⟩
        exact returned
      · exact fun returns => returns object rfl

/-- A call on another source does not matter. -/
theorem returns_tryCall {ledger : SourceLedger σ} {source other : Nat}
    (different : source ≠ other) :
    Returns use (tryCall use ledger other) source ↔ Returns use ledger source := by
  have same : (tryCall use ledger other).read source = ledger.read source :=
    Ledger.read_use_of_ne different
  rw [Returns, Returns, same]

variable {ledger after : SourceLedger σ} {reached sources : List Nat}

theorem returns_of_callSources_ok (distinct : sources.Nodup)
    (called : callSources use sources ledger = (after, reached, .ok ())) :
    ∀ source ∈ sources, Returns use ledger source := by
  induction sources generalizing ledger reached with
  | nil => exact fun _ impossible => absurd impossible List.not_mem_nil
  | cons source rest ih =>
      rw [List.nodup_cons] at distinct
      rcases callSources_cons called with ⟨returns, others, _, onward⟩ | ⟨_, raised, _⟩
      · have later := ih distinct.2 onward
        intro each member
        rcases List.mem_cons.mp member with rfl | isLater
        · exact callSource_outcome.mp returns
        · have different : each ≠ source := fun same => distinct.1 (same ▸ isLater)
          exact (returns_tryCall different).mp (later each isLater)
      · exact absurd rfl raised

/-- The calls before the one that raises return. -/
theorem returns_of_callSources_error {error : PyError}
    (distinct : sources.Nodup)
    (called : callSources use sources ledger = (after, reached, .error error)) :
    ∃ source rest, sources = reached ++ source :: rest ∧
      (∀ before ∈ reached, Returns use ledger before) ∧ ¬ Returns use ledger source ∧
      after = (reached ++ [source]).foldl (tryCall use) ledger := by
  induction sources generalizing ledger reached with
  | nil => cases called
  | cons source rest ih =>
      rw [List.nodup_cons] at distinct
      rcases callSources_cons called with ⟨returns, others, rfl, onward⟩ | ⟨same, raises, rfl, rfl⟩
      · rcases ih distinct.2 onward with
          ⟨raiser, remaining, rfl, before, raises, rfl⟩
        have elsewhere : ∀ each ∈ others ++ raiser :: remaining, each ≠ source :=
          fun each member same => distinct.1 (same ▸ member)
        refine ⟨raiser, remaining, rfl, ?_, ?_, rfl⟩
        · intro each member
          rcases List.mem_cons.mp member with rfl | isEarlier
          · exact callSource_outcome.mp returns
          · have different := elsewhere each (List.mem_append_left _ isEarlier)
            exact (returns_tryCall different).mp (before each isEarlier)
        · have different := elsewhere raiser (List.mem_append_right _ List.mem_cons_self)
          exact fun itReturns => raises ((returns_tryCall different).mpr itReturns)
      · exact ⟨source, rest, rfl, (fun _ impossible => absurd impossible List.not_mem_nil),
          fun itReturns => raises (same ▸ callSource_outcome.mpr itReturns), rfl⟩

/-! ## Pausing for a swap that fails -/

/-- What a source has become when it was to be paused and, if it was, to
resume. -/
def putBack (object : σ) : σ :=
  match SourceController.pause object with
  | (paused, .ok ()) => (SourceController.resume paused).1
  | (raised, .error _) => raised

/-- The source plays again after it was to be paused. -/
def PlaysAgain (object : σ) : Prop := (SourceController.state (putBack object)).isActive = true

/-- Of these sources, no one before this one raises when it is paused. -/
def IsTried (ledger : SourceLedger σ) (sources : List Nat) (source : Nat) : Prop :=
  ∃ before after, sources = before ++ source :: after ∧
    ∀ other ∈ before, Returns .pause ledger other

theorem putBack_of_returns {ledger : SourceLedger σ} {source : Nat} {object : σ}
    (found : ledger.read source = some object) (returns : Returns .pause ledger source) :
    putBack object = (SourceController.resume (SourceController.pause object).1).1 := by
  have returned : (SourceController.pause object).2 = .ok () := returns object found
  rw [putBack]
  rcases pausing : SourceController.pause object with ⟨paused, outcome⟩
  rw [pausing] at returned
  cases returned
  rfl

theorem putBack_of_raises {ledger : SourceLedger σ} {source : Nat} {object : σ}
    (found : ledger.read source = some object) (raises : ¬ Returns .pause ledger source) :
    putBack object = (SourceController.pause object).1 := by
  rw [putBack]
  rcases pausing : SourceController.pause object with ⟨paused, outcome⟩
  cases outcome with
  | error error => rfl
  | ok done =>
      refine absurd (fun other same => ?_) raises
      rw [found, Option.some.injEq] at same
      subst same
      exact congrArg Prod.snd pausing

/-- Pause some sources and then resume others. -/
theorem read_paused_resumed {ledger : SourceLedger σ} {paused resumed : List Nat} {source : Nat}
    {object : σ} (pausedOnce : paused.Nodup) (resumedOnce : resumed.Nodup)
    (found : ledger.read source = some object) :
    (resumed.foldl (tryCall .resume) (paused.foldl (tryCall .pause) ledger)).read source =
      some (if source ∈ resumed then
          (SourceController.resume (if source ∈ paused then (SourceController.pause object).1
            else object)).1
        else if source ∈ paused then (SourceController.pause object).1 else object) := by
  have pausing : (paused.foldl (tryCall .pause) ledger).read source =
      some (if source ∈ paused then (SourceController.pause object).1 else object) := by
    by_cases isPaused : source ∈ paused
    · rw [if_pos isPaused, read_foldl_tryCall_of_mem pausedOnce isPaused, found]
      rfl
    · rw [if_neg isPaused, read_foldl_tryCall_of_not_mem isPaused, found]
  by_cases isResumed : source ∈ resumed
  · rw [if_pos isResumed, read_foldl_tryCall_of_mem resumedOnce isResumed, pausing]
    rfl
  · rw [if_neg isResumed, read_foldl_tryCall_of_not_mem isResumed, pausing]

/-- The sources that a pause was tried on, and those that were paused and now
resume. -/
theorem mem_tried (distinct : sources.Nodup)
    (called : callSources .pause sources ledger = (after, reached, outcome)) :
    ∃ tried, after = tried.foldl (tryCall .pause) ledger ∧ tried <+: sources ∧ reached <+: tried ∧
      (∀ source, source ∈ tried ↔ IsTried ledger sources source) ∧
      ∀ source ∈ tried, source ∈ reached ↔ Returns .pause ledger source := by
  cases outcome with
  | ok done =>
      have returns := returns_of_callSources_ok distinct called
      rcases callSources_ok called with ⟨rfl, rfl⟩
      refine ⟨reached, rfl, List.prefix_rfl, List.prefix_rfl, ?_,
        fun source member => iff_of_true member (returns source member)⟩
      intro source
      constructor
      · intro member
        rcases List.append_of_mem member with ⟨before, rest, split⟩
        refine ⟨before, rest, split, fun other isBefore => returns other ?_⟩
        exact split ▸ List.mem_append_left _ isBefore
      · rintro ⟨before, rest, split, _⟩
        exact split ▸ List.mem_append_right _ List.mem_cons_self
  | error error =>
      rcases returns_of_callSources_error distinct called with
        ⟨raiser, rest, rfl, before, raises, rfl⟩
      refine ⟨reached ++ [raiser], rfl, ⟨rest, by simp⟩, List.prefix_append _ _, ?_, ?_⟩
      · intro source
        rw [List.mem_append, List.mem_singleton]
        constructor
        · rintro (member | rfl)
          · rcases List.append_of_mem member with ⟨first, second, rfl⟩
            exact ⟨first, second ++ raiser :: rest, by simp,
              fun other isFirst => before other (List.mem_append_left _ isFirst)⟩
          · exact ⟨reached, rest, rfl, before⟩
        · rintro ⟨first, second, split, returns⟩
          have isMember : raiser ∈ first ++ source :: second :=
            split ▸ List.mem_append_right _ List.mem_cons_self
          rcases List.mem_append.mp isMember with isFirst | isLater
          · exact absurd (returns raiser isFirst) raises
          · rcases List.mem_cons.mp isLater with rfl | isSecond
            · exact Or.inr rfl
            · rcases List.append_of_mem isSecond with ⟨third, fourth, rfl⟩
              -- the raiser stands once in the list
              have absent := List.nodup_append.mp distinct
              have notReached : raiser ∉ reached := fun member =>
                absent.2.2 raiser member raiser List.mem_cons_self rfl
              have notRest : raiser ∉ rest := (List.nodup_cons.mp absent.2.1).1
              have same : reached ++ raiser :: rest =
                  (first ++ source :: third) ++ raiser :: fourth := by
                rw [split]
                simp
              rcases (List.append_cons_inj_of_notMem notReached notRest).mp same with ⟨rfl, _, _⟩
              exact Or.inl (List.mem_append_right _ List.mem_cons_self)
      · intro source member
        rcases List.mem_append.mp member with isReached | isRaiser
        · exact iff_of_true isReached (before source isReached)
        · rw [List.mem_singleton.mp isRaiser]
          refine iff_of_false (fun isReached => ?_) raises
          exact (List.nodup_append.mp distinct).2.2 raiser isReached raiser List.mem_cons_self rfl

/-- A source on which a pause was tried has been put back, and no other source
is touched. -/
theorem read_putBack (distinct : sources.Nodup)
    (called : callSources .pause sources ledger = (after, reached, outcome)) {source : Nat}
    {object : σ} (found : ledger.read source = some object) :
    (IsTried ledger sources source →
      (reached.foldl (tryCall .resume) after).read source = some (putBack object)) ∧
    (¬ IsTried ledger sources source →
      (reached.foldl (tryCall .resume) after).read source = some object) := by
  rcases mem_tried distinct called with ⟨tried, rfl, isPrefix, reachedPrefix, isTried, returns⟩
  have triedOnce := distinct.sublist isPrefix.sublist
  rw [read_paused_resumed triedOnce (triedOnce.sublist reachedPrefix.sublist) found]
  constructor
  · intro wasTried
    have member := (isTried source).mpr wasTried
    rw [if_pos member]
    by_cases isReached : source ∈ reached
    · rw [if_pos isReached, putBack_of_returns found ((returns source member).mp isReached)]
    · rw [if_neg isReached, putBack_of_raises found
        (fun itReturns => isReached ((returns source member).mpr itReturns))]
  · intro notTried
    have absent : source ∉ tried := fun member => notTried ((isTried source).mp member)
    rw [if_neg (fun isReached => absent (reachedPrefix.subset isReached)), if_neg absent]

end Calls

namespace EngineBody

/-! ## The law and its condition -/

section Law

variable [NodeRuntime ρ] [SourceController σ]

/-- The sources that an activation pauses before it commits. -/
def playingSources (body : EngineBody ρ σ γ) : List Nat :=
  body.heldSources.filter (isPlaying body.sourceLedger)

/-- The later body is as the earlier one was: it has the same plan, scheduler
and sources, what played plays and every other source is untouched, and the
runtimes, sources and workers that are open are the ones that were open. -/
structure Restored (before after : EngineBody ρ σ γ) : Prop where
  plan : after.facade.plan = before.facade.plan
  scheduler : after.facade.scheduler = before.facade.scheduler
  fields : SameFields before after
  playing : ∀ source ∈ before.playingSources, isPlaying after.sourceLedger source = true
  others : ∀ source ∈ before.heldSources, source ∉ before.playingSources →
    after.sourceLedger.read source = before.sourceLedger.read source
  openRuntimes : ∀ runtime, after.facade.ledger.IsOpen runtime ↔
    before.facade.ledger.IsOpen runtime
  openSources : ∀ source, after.sourceLedger.IsOpen source ↔ before.sourceLedger.IsOpen source
  openWorkers : ∀ worker, after.workerLedger.IsOpen worker ↔ before.workerLedger.IsOpen worker

/-- An activation commits, stops for want of a signal, or raises and leaves the
body as it was. -/
def ActivatesAtomically (body : EngineBody ρ σ γ) (request : ActivationRequest ρ σ γ) : Prop :=
  match (body.activate request).2 with
  | .ok true => ∃ compiled, request.compiled = some compiled ∧
      (body.activate request).1.facade.plan = some compiled.plan
  | .ok false => request.compiled.filter (fun compiled => planHasSource compiled.plan) = none
  | .error _ => Restored body (body.activate request).1

/-- Every source of the plan that is not kept can be created. -/
def CreatesSources (body : EngineBody ρ σ γ) (request : ActivationRequest ρ σ γ)
    (plan : ExecutionPlan ρ) : Prop :=
  ∀ node ∈ sourceNodes plan, keptSource body.sources
      (reusableSourceIds body.facade.plan plan request.resetReason) node.nodeId = none →
    ∃ object, request.createSource node = .ok object

/-- What plays can be paused, and a worker comes to rest. -/
def ComesToRest (body : EngineBody ρ σ γ) (request : ActivationRequest ρ σ γ) : Prop :=
  (∀ source ∈ body.playingSources, Returns .pause body.sourceLedger source) ∧
    (body.worker.isSome = true → request.workerIdle = .ok true)

/-- Without a worker, one can be made, and it can be closed again if the sources
cannot be created.  With one, what was paused plays again if the swap does not
come about. -/
def GivesUpCleanly (body : EngineBody ρ σ γ) (request : ActivationRequest ρ σ γ) : Prop :=
  ∀ compiled, request.compiled = some compiled → planHasSource compiled.plan = true →
    body.state ≠ .closed → (body.facade.prepare request.compiled request.resetReason).2 = .ok () →
    request.previewPrepare = .ok () →
    (body.worker = none → request.newWorker = .ok () ∧
      (¬ CreatesSources body request compiled.plan → request.workerClose = .ok ())) ∧
    (CreatesSources body request compiled.plan → ¬ ComesToRest body request →
      ∀ source ∈ body.playingSources, IsTried body.sourceLedger body.playingSources source →
        ∀ object, body.sourceLedger.read source = some object → PlaysAgain object)

end Law

/-! ## A worker for a plan -/

section Staff

/-- There is a worker as long as there is a plan. -/
def Staffed (body : EngineBody ρ σ γ) : Prop :=
  body.worker = none → body.facade.scheduler = none ∧ body.facade.plan = none

variable {body : EngineBody ρ σ γ}

/-- What runs beside the body changes neither. -/
theorem Staffed.congr {after : EngineBody ρ σ γ} (staffed : body.Staffed)
    (worker : after.worker = body.worker)
    (scheduler : body.facade.scheduler = none → after.facade.scheduler = none)
    (plan : after.facade.plan = body.facade.plan) : after.Staffed := by
  intro unstaffed
  rcases staffed (worker ▸ unstaffed) with ⟨inactive, noPlan⟩
  exact ⟨scheduler inactive, plan.trans noPlan⟩

theorem onScheduler_inactive {facade : EngineFacade ρ}
    {operation : SharingScheduler ρ → RuntimeLedger ρ →
      RuntimeLedger ρ × SharingScheduler ρ × Except PyError Unit}
    (inactive : facade.scheduler = none) : (facade.onScheduler operation).1 = facade := by
  rw [EngineFacade.onScheduler, inactive]

theorem onScheduler_plan (facade : EngineFacade ρ)
    (operation : SharingScheduler ρ → RuntimeLedger ρ →
      RuntimeLedger ρ × SharingScheduler ρ × Except PyError Unit) :
    (facade.onScheduler operation).1.plan = facade.plan := by
  rw [EngineFacade.onScheduler]
  cases facade.scheduler <;> rfl

variable [NodeRuntime ρ]

theorem Staffed.withPanic (staffed : body.Staffed) : body.panicFacade.1.Staffed := by
  have plan : body.facade.panic.1.plan = body.facade.plan := onScheduler_plan body.facade _
  refine staffed.congr rfl (fun inactive => ?_) plan
  have same : body.facade.panic.1 = body.facade := onScheduler_inactive inactive
  exact (congrArg EngineFacade.scheduler same).trans inactive

theorem stop_facade (facade : EngineFacade ρ) (reason : ResetReason) :
    (facade.stop reason).1.scheduler = none ∧ (facade.stop reason).1.plan = none := by
  cases active : facade.scheduler with
  | none =>
      rw [EngineFacade.stop, active]
      exact ⟨rfl, rfl⟩
  | some scheduler =>
      rw [EngineFacade.stop, active]
      exact ⟨rfl, rfl⟩

variable [SourceController σ]

omit [SourceController σ] in
theorem discard_facade (body : EngineBody ρ σ γ) (index : Nat) :
    (body.discard index).facade.plan = body.facade.plan ∧
      (body.discard index).facade.scheduler = body.facade.scheduler := by
  rw [discard]
  cases body.facade.candidates[index]? with
  | none => exact ⟨rfl, rfl⟩
  | some candidate =>
      exact closeCandidate_active _ index candidate

theorem rollBack_facade (body : EngineBody ρ σ γ) (request : ActivationRequest ρ σ γ)
    (index : Nat) (created : Option Nat) (sources : Dict UUID Nat) (reusable : List UUID)
    (error : PyError) :
    (body.rollBack request index created sources reusable error).1.facade.plan =
        body.facade.plan ∧
      (body.rollBack request index created sources reusable error).1.facade.scheduler =
        body.facade.scheduler := by
  rw [rollBack.eq_def]
  cases created with
  | none => exact discard_facade _ index
  | some worker =>
      cases request.workerClose with
      | error closing => exact ⟨rfl, rfl⟩
      | ok done => exact discard_facade _ index

theorem reachBoundary_raised {reached : EngineBody ρ σ γ} {request : ActivationRequest ρ σ γ}
    {index : Nat} {paused : List Nat} {error : PyError}
    (boundary : body.reachBoundary request index = (reached, paused, .error error)) :
    reached.facade = body.facade := by
  have reaches := body.reachBoundary_cases request index
  rw [boundary] at reaches
  cases reaches with
  | unpaused _ => rfl
  | restless _ _ _ => rfl
  | rested _ _ commits =>
      rw [commitCandidate.eq_def] at commits
      cases found : body.facade.candidates[index]? with
      | none =>
          rw [found] at commits
          cases commits
          rfl
      | some candidate =>
          rw [found] at commits
          exact EngineFacade.commit_raised commits

/-- An activation that raises keeps the plan and the scheduler. -/
theorem activate_raised_facade {request : ActivationRequest ρ σ γ} {error : PyError}
    (failed : (body.activate request).2 = .error error) :
    (body.activate request).1.facade.plan = body.facade.plan ∧
      (body.activate request).1.facade.scheduler = body.facade.scheduler := by
  have activates := body.activate_cases request
  generalize body.activate request = result at activates failed
  cases activates with
  | closed _ => exact ⟨rfl, rfl⟩
  | unprepared _ prepares => exact prepare_active prepares
  | silent _ _ _ => cases failed
  | @unpreviewed facade _ _ _ prepares _ _ =>
      have discarded := discard_facade { body with facade := facade } body.facade.candidates.length
      have kept := prepare_active prepares
      exact ⟨discarded.1.trans kept.1, discarded.2.trans kept.2⟩
  | unemployed _ prepares _ _ _ => exact prepare_active prepares
  | @planned facade compiled workerLedger worker created _ _ prepares _ _ _ plans =>
      cases plans with
      | @unbuilt ledger sources error builds =>
          have rolled := rollBack_facade { body with
            facade := facade
            workerLedger := workerLedger
            sourceLedger := ledger } request body.facade.candidates.length created sources
              (reusableSourceIds facade.plan compiled.plan request.resetReason) error
          have kept := prepare_active prepares
          exact ⟨rolled.1.trans kept.1, rolled.2.trans kept.2⟩
      | @unreached ledger sources reached paused error builds boundary =>
          have same := reachBoundary_raised boundary
          have rolled := rollBack_facade { reached with
            sourceLedger := paused.foldl (tryCall .resume) reached.sourceLedger } request
            body.facade.candidates.length created sources
            (reusableSourceIds facade.plan compiled.plan request.resetReason) error
          have kept := prepare_active prepares
          exact ⟨rolled.1.trans ((congrArg EngineFacade.plan same).trans kept.1),
            rolled.2.trans ((congrArg EngineFacade.scheduler same).trans kept.2)⟩
      | swapped _ _ => cases failed

theorem Staffed.activate (staffed : body.Staffed) (request : ActivationRequest ρ σ γ) :
    (body.activate request).1.Staffed := by
  rcases outcome : (body.activate request).2 with error | activated
  · rcases activate_raised_facade outcome with ⟨plan, scheduler⟩
    exact staffed.congr (activate_raised outcome).worker (fun inactive =>
      scheduler.trans inactive) plan
  · have activates := body.activate_cases request
    generalize body.activate request = result at activates outcome
    cases activates with
    | closed _ => cases outcome
    | unprepared _ _ => cases outcome
    | silent _ _ _ => exact fun _ => stop_facade _ .planReplaced
    | unpreviewed _ _ _ _ => cases outcome
    | unemployed _ _ _ _ _ => cases outcome
    | planned _ _ _ _ _ plans =>
        cases plans with
        | unbuilt _ => exact absurd outcome (rollBack_ne_ok _ _ _ _ _ _ _ _)
        | unreached _ _ => exact absurd outcome (rollBack_ne_ok _ _ _ _ _ _ _ _)
        | swapped _ _ =>
            intro unstaffed
            rw [EngineBody.swap] at unstaffed
            dsimp only at unstaffed
            split_ifs at unstaffed <;> cases unstaffed

omit [NodeRuntime ρ] in
theorem Staffed.onSources (staffed : body.Staffed) (use : SourceUse) (selection : Option UUID)
    {finish : EngineBody ρ σ γ → EngineBody ρ σ γ × Except PyError Unit}
    (finishes : ∀ body : EngineBody ρ σ γ, body.Staffed → (finish body).1.Staffed) :
    (body.onSources use selection finish).1.Staffed := by
  rw [EngineBody.onSources]
  cases body.selectedSources selection with
  | error error => exact staffed
  | ok sources =>
      dsimp only
      rcases callSources use sources body.sourceLedger with ⟨ledger, reached, outcome⟩
      have called : ({ body with sourceLedger := ledger }).Staffed := staffed
      cases outcome with
      | error error => exact called
      | ok done => exact finishes _ called

theorem Staffed.panicAndRefresh (staffed : body.Staffed) (selection : Option UUID) :
    (EngineBody.panicAndRefresh selection body).1.Staffed := by
  have panicked := staffed.withPanic
  rw [EngineBody.panicAndRefresh.eq_def]
  cases selection with
  | some id => exact staffed
  | none =>
      rcases panicking : body.panicFacade with ⟨after, outcome⟩
      rw [panicking] at panicked
      cases outcome <;> exact panicked

theorem Staffed.perform (staffed : body.Staffed) (command : BodyCommand ρ σ γ) :
    (body.perform command).1.Staffed := by
  cases command with
  | activate request => exact staffed.activate request
  | play selection => exact staffed.onSources .play selection (fun _ played => played)
  | pause selection =>
      refine staffed.onSources .pause selection (fun after paused => ?_)
      have refreshed : after.refreshTransportState.Staffed := paused
      dsimp only
      split_ifs
      · exact refreshed.withPanic
      · exact refreshed
  | resume selection => exact staffed.onSources .resume selection (fun _ resumed => resumed)
  | stop selection =>
      exact staffed.onSources .stop selection (fun _ stopped => stopped.panicAndRefresh selection)
  | reload selection =>
      exact staffed.onSources .reload selection (fun _ loaded => loaded.panicAndRefresh selection)
  | seek sourceNodeId sourceTimeS =>
      exact staffed.onSources (.seek sourceTimeS) (some sourceNodeId) (fun _ sought => sought)
  | panic =>
      change (EngineBody.panic body).1.Staffed
      rw [EngineBody.panic]
      split_ifs
      · exact staffed
      · exact staffed.withPanic
  | close rest =>
      change (EngineBody.close body rest).1.Staffed
      rw [EngineBody.close]
      split_ifs
      · exact staffed
      · exact fun _ => ⟨rfl, rfl⟩
  | tick context sourceValues =>
      refine staffed.congr rfl (fun inactive => ?_) ?_
      · change (body.facade.tick context sourceValues).1.scheduler = none
        rw [EngineFacade.tick, inactive]
        exact inactive
      · change (body.facade.tick context sourceValues).1.plan = body.facade.plan
        rw [EngineFacade.tick]
        cases body.facade.scheduler <;> rfl
  | resetSource sourceNodeId reason =>
      refine staffed.congr rfl (fun inactive => ?_) (onScheduler_plan body.facade _)
      exact (congrArg EngineFacade.scheduler (onScheduler_inactive inactive)).trans inactive
  | sourceMoves sourceNodeId object =>
      change (body.moveSource sourceNodeId object).Staffed
      rw [moveSource]
      cases body.sources.get? sourceNodeId <;> exact staffed

theorem staffed_of_run {commands : List (BodyCommand ρ σ γ)}
    (reached : run step initial commands = some body) : body.Staffed := by
  have preserved : ∀ (body : EngineBody ρ σ γ) (command : BodyCommand ρ σ γ) next, body.Staffed →
      True → body.step command = some next → next.Staffed := by
    intro body command next staffed _ stepped
    rw [step, Option.some.injEq] at stepped
    exact stepped ▸ staffed.perform command
  exact run_invariant preserved (fun _ => ⟨rfl, rfl⟩) (meets_of_forall (fun _ _ => trivial) _ _)
    reached

end Staff

/-! ## What remains of a failed activation -/

section Failure

/-- All sources can be created exactly when building them does not raise. -/
theorem buildSources_outcome {current : Dict UUID Nat} {reusable : List UUID}
    {createSource : CompiledNode ρ → Except PyError σ} {nodes : List (CompiledNode ρ)}
    {ledger : SourceLedger σ} {sources : Dict UUID Nat} :
    (buildSources current reusable createSource nodes ledger sources).2.2 = .ok () ↔
      ∀ node ∈ nodes, keptSource current reusable node.nodeId = none →
        ∃ object, createSource node = .ok object := by
  induction nodes generalizing ledger sources with
  | nil => exact iff_of_true rfl (fun _ impossible => absurd impossible List.not_mem_nil)
  | cons node rest ih =>
      rw [List.forall_mem_cons, buildSources]
      cases keeps : keptSource current reusable node.nodeId with
      | some existing =>
          refine ih.trans (and_iff_right ?_).symm
          exact fun impossible => by cases impossible
      | none =>
          cases creates : createSource node with
          | error error =>
              refine iff_of_false (fun impossible => by cases impossible) ?_
              rintro ⟨created, _⟩
              rcases created rfl with ⟨object, impossible⟩
              cases impossible
          | ok object =>
              exact ih.trans (and_iff_right (fun _ => ⟨object, rfl⟩)).symm

/-- Building sources does not touch those that are held. -/
theorem Built.read_held {body : EngineBody ρ σ γ} (sound : body.Sound) {reusable : List UUID}
    {createSource : CompiledNode ρ → Except PyError σ} {sources : Dict UUID Nat}
    {after : SourceLedger σ}
    (built : Built body.sources reusable createSource body.heldSources body.sourceLedger sources
      after) {source : Nat} (isHeld : source ∈ body.heldSources) :
    after.read source = body.sourceLedger.read source := by
  rcases sound.sources.exists_read isHeld with ⟨object, found⟩
  rw [found, built.reads source object found]

variable [SourceController σ]

/-- Nor does giving them up. -/
theorem read_disposed {held : List Nat} {sources : Dict UUID Nat} {reusable : List UUID}
    {ledger : SourceLedger σ} (owns : ledger.Owns (replaceable sources reusable ++ held))
    {source : Nat} (isHeld : source ∈ held) :
    (disposeCandidateSources ledger sources reusable).read source = ledger.read source :=
  read_foldl_closeSource_of_not_mem (fun member =>
    List.disjoint_of_nodup_append owns.distinct member isHeld)

/-- What plays does so whether the sources of the candidate are built or not. -/
theorem playingSources_built {body : EngineBody ρ σ γ} (sound : body.Sound)
    {reusable : List UUID} {createSource : CompiledNode ρ → Except PyError σ}
    {sources : Dict UUID Nat} {after : SourceLedger σ}
    (built : Built body.sources reusable createSource body.heldSources body.sourceLedger sources
      after) :
    body.heldSources.filter (isPlaying after) = body.playingSources := by
  refine List.filter_congr (fun source member => ?_)
  rw [isPlaying, isPlaying, playbackState, playbackState, built.read_held sound member]

theorem isTried_congr {ledger other : SourceLedger σ} {sources : List Nat} {source : Nat}
    (same : ∀ each ∈ sources, other.read each = ledger.read each) :
    IsTried other sources source ↔ IsTried ledger sources source := by
  have returns : ∀ each ∈ sources, Returns .pause other each ↔ Returns .pause ledger each := by
    intro each member
    rw [Returns, Returns, same each member]
  constructor
  · rintro ⟨before, after, rfl, each⟩
    exact ⟨before, after, rfl, fun earlier member =>
      (returns earlier (List.mem_append_left _ member)).mp (each earlier member)⟩
  · rintro ⟨before, after, rfl, each⟩
    exact ⟨before, after, rfl, fun earlier member =>
      (returns earlier (List.mem_append_left _ member)).mpr (each earlier member)⟩

variable [NodeRuntime ρ]

omit [NodeRuntime ρ] [SourceController σ] in
/-- A body without a worker has no source. -/
theorem Staffed.heldSources_eq_nil {body : EngineBody ρ σ γ} (staffed : body.Staffed)
    (sound : body.Sound) (unstaffed : body.worker = none) : body.heldSources = [] := by
  have keys := sound.keys
  rw [activeSourceIds, (staffed unstaffed).2] at keys
  have noEntries : body.sources.entries = [] := List.map_eq_nil_iff.mp keys
  rw [heldSources, noEntries]
  rfl

/-- What has to be shown of a body that an activation raised from. -/
theorem restored_iff {body : EngineBody ρ σ γ} (sound : body.Sound)
    {request : ActivationRequest ρ σ γ} {error : PyError}
    (failed : (body.activate request).2 = .error error) :
    Restored body (body.activate request).1 ↔
      ((∀ source ∈ body.playingSources,
          isPlaying (body.activate request).1.sourceLedger source = true) ∧
        ∀ source ∈ body.heldSources, source ∉ body.playingSources →
          (body.activate request).1.sourceLedger.read source = body.sourceLedger.read source) ∧
      ∀ runtime, (body.activate request).1.facade.ledger.IsOpen runtime ↔
        body.facade.ledger.IsOpen runtime := by
  have fields := activate_raised failed
  rcases activate_raised_facade failed with ⟨plan, scheduler⟩
  have after := sound.activate request
  have held : (body.activate request).1.heldSources = body.heldSources := by
    rw [heldSources, heldSources, fields.sources]
  constructor
  · exact fun restored => ⟨⟨restored.playing, restored.others⟩, restored.openRuntimes⟩
  · rintro ⟨⟨playing, others⟩, openRuntimes⟩
    refine ⟨plan, scheduler, fields, playing, others, openRuntimes, ?_, ?_⟩
    · exact sound.sources.isOpen_iff (held ▸ after.sources)
    · exact sound.workers.isOpen_iff (fields.worker ▸ after.workers)

omit [NodeRuntime ρ] [SourceController σ] in
/-- The runtimes that are open are the ones that the same owners have. -/
theorem openRuntimes_of_owned {body after : EngineBody ρ σ γ} (sound : body.Sound)
    (afterSound : after.Sound) (same : after.facade.ownedRuntimes = body.facade.ownedRuntimes)
    (runtime : Nat) :
    after.facade.ledger.IsOpen runtime ↔ body.facade.ledger.IsOpen runtime :=
  sound.runtimes.owns.isOpen_iff (same ▸ afterSound.runtimes.owns) runtime

/-- A candidate that was just prepared is given up without a trace. -/
theorem discard_ownedRuntimes {body : EngineBody ρ σ γ} (sound : body.Sound)
    {request : ActivationRequest ρ σ γ} {facade : EngineFacade ρ}
    (prepares : body.facade.prepare request.compiled request.resetReason = (facade, .ok ()))
    (after : EngineBody ρ σ γ) (isPrepared : after.facade = facade) :
    (after.discard body.facade.candidates.length).facade.ownedRuntimes =
      body.facade.ownedRuntimes := by
  rcases EngineFacade.prepare_handed sound.runtimes prepares with ⟨candidate, handed⟩
  have found := handed.found
  rw [← isPrepared] at found
  rw [discard, found]
  dsimp only
  rw [isPrepared]
  exact handed.discarded.2.2

/-- The candidate is given up unless the worker that was made for it cannot be
closed. -/
theorem rollBack_discards (body : EngineBody ρ σ γ) (request : ActivationRequest ρ σ γ)
    (index : Nat) (created : Option Nat) (sources : Dict UUID Nat) (reusable : List UUID)
    (error : PyError) :
    (created = none ∨ request.workerClose = .ok () →
      (body.rollBack request index created sources reusable error).1.facade =
        (body.discard index).facade) ∧
    (created ≠ none → request.workerClose ≠ .ok () →
      (body.rollBack request index created sources reusable error).1.facade = body.facade) := by
  have discards : ∀ other : EngineBody ρ σ γ, other.facade = body.facade →
      (other.discard index).facade = (body.discard index).facade := by
    intro other same
    rw [discard, discard, same]
    cases body.facade.candidates[index]? with
    | none => exact same
    | some candidate => rfl
  rw [rollBack.eq_def]
  cases created with
  | none => exact ⟨fun _ => discards _ rfl, fun present => absurd rfl present⟩
  | some worker =>
      dsimp only
      cases closes : request.workerClose with
      | error closing =>
          refine ⟨fun given => ?_, fun _ _ => rfl⟩
          rcases given with impossible | impossible <;> cases impossible
      | ok done => exact ⟨fun _ => discards _ rfl, fun _ raised => absurd rfl raised⟩

theorem rollBack_sourceLedger (body : EngineBody ρ σ γ)
    (request : ActivationRequest ρ σ γ) (index : Nat) (created : Option Nat)
    (sources : Dict UUID Nat) (reusable : List UUID) (error : PyError) :
    (body.rollBack request index created sources reusable error).1.sourceLedger =
      disposeCandidateSources body.sourceLedger sources reusable := by
  have discards : ∀ other : EngineBody ρ σ γ,
      (other.discard index).sourceLedger = other.sourceLedger := by
    intro other
    rw [discard]
    cases other.facade.candidates[index]? <;> rfl
  rw [rollBack.eq_def]
  cases created with
  | none => exact discards _
  | some worker =>
      cases request.workerClose with
      | error closing => rfl
      | ok done => exact discards _

/-! ## The failures, one by one -/

section Cases

variable {body : EngineBody ρ σ γ} {request : ActivationRequest ρ σ γ}

/-- Of a failure that leaves the sources as they are, only the runtimes are in
question. -/
theorem atomically_iff_of_read (sound : body.Sound) {error : PyError}
    (failed : (body.activate request).2 = .error error)
    (reads : ∀ source ∈ body.heldSources,
      (body.activate request).1.sourceLedger.read source = body.sourceLedger.read source) :
    ActivatesAtomically body request ↔
      ∀ runtime, (body.activate request).1.facade.ledger.IsOpen runtime ↔
        body.facade.ledger.IsOpen runtime := by
  rw [ActivatesAtomically, failed]
  refine (restored_iff sound failed).trans (and_iff_right ⟨?_, fun source isHeld _ =>
    reads source isHeld⟩)
  intro source member
  rcases List.mem_filter.mp member with ⟨isHeld, plays⟩
  rw [isPlaying, playbackState, reads source isHeld]
  exact plays

/-- A candidate that is left behind without a worker has open runtimes. -/
theorem leaks (sound : body.Sound) (staffed : body.Staffed) (unstaffed : body.worker = none)
    {facade : EngineFacade ρ} {compiled : DistinctPlan ρ}
    (prepares : body.facade.prepare request.compiled request.resetReason = (facade, .ok ()))
    (source : request.compiled.filter (fun compiled => planHasSource compiled.plan) =
      some compiled) :
    ¬ ∀ runtime, facade.ledger.IsOpen runtime ↔ body.facade.ledger.IsOpen runtime := by
  rcases Option.filter_eq_some_iff.mp source with ⟨isCompiled, hasSource⟩
  rcases List.any_eq_true.mp hasSource with ⟨node, isNode, _⟩
  rw [isCompiled] at prepares
  rcases EngineFacade.prepare_opens sound.runtimes (staffed unstaffed).1 prepares isNode
    with ⟨runtime, isOpen, wasNot⟩
  exact fun same => wasNot ((same runtime).mp isOpen)

omit [NodeRuntime ρ] in
/-- The worker of an activation was there, or was made for it. -/
theorem employ_created {workerLedger : WorkerLedger} {worker : Nat} {created : Option Nat}
    (employs : body.employ request = .ok (workerLedger, worker, created)) :
    (body.worker = none ↔ created ≠ none) ∧ (body.worker = none → request.newWorker = .ok ()) := by
  rw [employ] at employs
  cases isWorker : body.worker with
  | some present =>
      rw [isWorker] at employs
      cases employs
      exact ⟨iff_of_false (fun impossible => by cases impossible) (fun present => present rfl),
        fun impossible => by cases impossible⟩
  | none =>
      rw [isWorker] at employs
      cases starts : request.newWorker with
      | error error =>
          rw [starts] at employs
          cases employs
      | ok done =>
          rw [starts] at employs
          cases employs
          exact ⟨iff_of_true rfl (fun impossible => by cases impossible), fun _ => rfl⟩

/-- For the plan that is activated, the condition says what it says. -/
theorem givesUpCleanly_iff {facade : EngineFacade ρ} {compiled : DistinctPlan ρ}
    (notClosed : body.state ≠ .closed)
    (prepares : body.facade.prepare request.compiled request.resetReason = (facade, .ok ()))
    (source : request.compiled.filter (fun compiled => planHasSource compiled.plan) =
      some compiled) (preview : request.previewPrepare = .ok ()) :
    GivesUpCleanly body request ↔
      (body.worker = none → request.newWorker = .ok () ∧
        (¬ CreatesSources body request compiled.plan → request.workerClose = .ok ())) ∧
      (CreatesSources body request compiled.plan → ¬ ComesToRest body request →
        ∀ source ∈ body.playingSources, IsTried body.sourceLedger body.playingSources source →
          ∀ object, body.sourceLedger.read source = some object → PlaysAgain object) := by
  rcases Option.filter_eq_some_iff.mp source with ⟨isCompiled, hasSource⟩
  constructor
  · intro cleanly
    exact cleanly compiled isCompiled hasSource notClosed (by rw [prepares]) preview
  · intro given other isOther _ _ _ _
    rw [isCompiled, Option.some.injEq] at isOther
    exact isOther ▸ given

/-- A preparation that returned, with a worker for the plan. -/
structure Underway (body : EngineBody ρ σ γ) (request : ActivationRequest ρ σ γ)
    (facade : EngineFacade ρ) (compiled : DistinctPlan ρ) (workerLedger : WorkerLedger)
    (worker : Nat) (created : Option Nat) : Prop where
  sound : body.Sound
  staffed : body.Staffed
  prepares : body.facade.prepare request.compiled request.resetReason = (facade, .ok ())
  source : request.compiled.filter (fun compiled => planHasSource compiled.plan) = some compiled
  employs : body.employ request = .ok (workerLedger, worker, created)

omit [NodeRuntime ρ] in
/-- Without a worker nothing has to come to rest. -/
theorem comesToRest_of_unstaffed (sound : body.Sound) (staffed : body.Staffed)
    (unstaffed : body.worker = none) : ComesToRest body request := by
  have nothing : body.playingSources = [] := by
    rw [playingSources, staffed.heldSources_eq_nil sound unstaffed]
    rfl
  refine ⟨fun source member => ?_, fun present => ?_⟩
  · rw [nothing] at member
    cases member
  · rw [unstaffed] at present
    cases present

section Underway

variable {facade : EngineFacade ρ} {compiled : DistinctPlan ρ} {workerLedger : WorkerLedger}
  {worker : Nat} {created : Option Nat}

variable {sources : Dict UUID Nat} {ledger : SourceLedger σ}
  (underway : Underway body request facade compiled workerLedger worker created)
include underway

theorem Underway.building {ledger : SourceLedger σ} {outcome : Except PyError Unit}
    (builds : buildSources body.sources
      (reusableSourceIds facade.plan compiled.plan request.resetReason) request.createSource
      (sourceNodes compiled.plan) body.sourceLedger Dict.empty = (ledger, sources, outcome)) :
    Built body.sources (reusableSourceIds facade.plan compiled.plan request.resetReason)
        request.createSource body.heldSources body.sourceLedger sources ledger ∧
      (outcome = .ok () ↔ CreatesSources body request compiled.plan) := by
  have prepared := underway.sound.prepared underway.prepares underway.source underway.employs
  refine ⟨(prepared.building builds).1, ?_⟩
  have outcomes := @buildSources_outcome ρ σ body.sources
    (reusableSourceIds facade.plan compiled.plan request.resetReason) request.createSource
    (sourceNodes compiled.plan) body.sourceLedger Dict.empty
  rw [builds] at outcomes
  rw [CreatesSources, ← (prepare_active underway.prepares).1]
  exact outcomes

/-- The candidate is given up: its sources are closed, and its runtimes unless the
worker that was made for it cannot be closed. -/
theorem Underway.givenUp (prepared : EngineBody ρ σ γ) (isPrepared : prepared.facade = facade)
    {reusable : List UUID} {error : PyError}
    (result : body.activate request = prepared.rollBack request body.facade.candidates.length
      created sources reusable error) :
    (∃ raised, (body.activate request).2 = .error raised) ∧
    (body.activate request).1.sourceLedger =
      disposeCandidateSources prepared.sourceLedger sources reusable ∧
    ((∀ runtime, (body.activate request).1.facade.ledger.IsOpen runtime ↔
        body.facade.ledger.IsOpen runtime) ↔
      (body.worker = none → request.workerClose = .ok ())) := by
  have rolled := prepared.rollBack_discards request body.facade.candidates.length created sources
    reusable error
  have afterSound := underway.sound.activate request
  rw [result] at afterSound ⊢
  refine ⟨rollBack_raises _ _ _ _ _ _ _, rollBack_sourceLedger _ _ _ _ _ _ _, ?_⟩
  rcases employ_created underway.employs with ⟨isCreated, _⟩
  by_cases given : created = none ∨ request.workerClose = .ok ()
  · have owners := discard_ownedRuntimes underway.sound underway.prepares prepared isPrepared
    rw [← rolled.1 given] at owners
    refine iff_of_true (openRuntimes_of_owned underway.sound afterSound owners) ?_
    exact fun unstaffed => given.resolve_left (isCreated.mp unstaffed)
  · rcases not_or.mp given with ⟨present, notClosed⟩
    refine iff_of_false ?_ (fun closes => notClosed (closes (isCreated.mpr present)))
    rw [rolled.2 present notClosed, isPrepared]
    exact leaks underway.sound underway.staffed (isCreated.mpr present) underway.prepares
      underway.source

/-- The sources of the candidate cannot be created. -/
theorem Underway.unbuilt {ledger : SourceLedger σ} {error : PyError}
    (builds : buildSources body.sources
      (reusableSourceIds facade.plan compiled.plan request.resetReason) request.createSource
      (sourceNodes compiled.plan) body.sourceLedger Dict.empty = (ledger, sources, .error error))
    (result : body.activate request = { body with
      facade := facade
      workerLedger := workerLedger
      sourceLedger := ledger }.rollBack request body.facade.candidates.length created sources
        (reusableSourceIds facade.plan compiled.plan request.resetReason) error) :
    ActivatesAtomically body request ↔ (body.worker = none → request.workerClose = .ok ()) := by
  have built := (underway.building builds).1
  rcases underway.givenUp _ rfl result with ⟨⟨raised, raises⟩, ledgers, runtimes⟩
  refine (atomically_iff_of_read underway.sound raises (fun source isHeld => ?_)).trans runtimes
  rw [ledgers]
  exact (read_disposed built.owns isHeld).trans (built.read_held underway.sound isHeld)

variable {reached : EngineBody ρ σ γ} {paused : List Nat}

/-- The way to the boundary fails exactly when something does not come to rest;
a candidate can always be committed. -/
theorem Underway.reaches
    (built : Built body.sources (reusableSourceIds facade.plan compiled.plan request.resetReason)
      request.createSource body.heldSources body.sourceLedger sources ledger)
    {outcome : Except PyError Unit}
    (boundary : { body with
      facade := facade
      workerLedger := workerLedger
      sourceLedger := ledger }.reachBoundary request body.facade.candidates.length =
        (reached, paused, outcome)) :
    (outcome = .ok () ↔ ComesToRest body request) ∧
      ∃ calling, callSources .pause body.playingSources ledger =
        (reached.sourceLedger, paused, calling) := by
  have distinct : body.playingSources.Nodup := underway.sound.sources.distinct.filter _
  have playing := playingSources_built underway.sound built
  have returns : ∀ source ∈ body.playingSources,
      Returns .pause ledger source ↔ Returns .pause body.sourceLedger source := by
    intro source member
    rw [Returns, Returns, built.read_held underway.sound (List.mem_filter.mp member).1]
  have reaches := reachBoundary_cases { body with
    facade := facade
    workerLedger := workerLedger
    sourceLedger := ledger } request body.facade.candidates.length
  rw [boundary] at reaches
  cases reaches with
  | unpaused calls =>
      rw [show ({ body with
        facade := facade
        workerLedger := workerLedger
        sourceLedger := ledger } : EngineBody ρ σ γ).heldSources.filter (isPlaying ledger) =
          body.playingSources from playing] at calls
      refine ⟨iff_of_false (fun impossible => by cases impossible) ?_, _, calls⟩
      rintro ⟨allReturn, _⟩
      rcases returns_of_callSources_error distinct calls with ⟨source, rest, split, _, raises, _⟩
      have member : source ∈ body.playingSources :=
        split ▸ List.mem_append_right _ List.mem_cons_self
      exact raises ((returns source member).mpr (allReturn source member))
  | restless calls present busy =>
      rw [show ({ body with
        facade := facade
        workerLedger := workerLedger
        sourceLedger := ledger } : EngineBody ρ σ γ).heldSources.filter (isPlaying ledger) =
          body.playingSources from playing] at calls
      exact ⟨iff_of_false (fun impossible => by cases impossible)
        (fun rests => busy (rests.2 present)), _, calls⟩
  | rested calls idle commits =>
      rw [show ({ body with
        facade := facade
        workerLedger := workerLedger
        sourceLedger := ledger } : EngineBody ρ σ γ).heldSources.filter (isPlaying ledger) =
          body.playingSources from playing] at calls
      have prepares := underway.prepares
      rw [(Option.filter_eq_some_iff.mp underway.source).1] at prepares
      rcases EngineFacade.prepare_committable underway.sound.runtimes prepares
        with ⟨candidate, found, committed⟩
      rw [commitCandidate.eq_def] at commits
      dsimp only at commits
      rw [found] at commits
      dsimp only at commits
      rw [commits] at committed
      refine ⟨iff_of_true committed ⟨?_, idle⟩, _, calls⟩
      have allReturn := returns_of_callSources_ok distinct calls
      exact fun source member => (returns source member).mp (allReturn source member)

/-- What played and was to be paused is put back. -/
theorem Underway.unreached {error : PyError}
    (builds : buildSources body.sources
      (reusableSourceIds facade.plan compiled.plan request.resetReason) request.createSource
      (sourceNodes compiled.plan) body.sourceLedger Dict.empty = (ledger, sources, .ok ()))
    (boundary : { body with
      facade := facade
      workerLedger := workerLedger
      sourceLedger := ledger }.reachBoundary request body.facade.candidates.length =
        (reached, paused, .error error))
    (result : body.activate request = { reached with
      sourceLedger := paused.foldl (tryCall .resume) reached.sourceLedger }.rollBack request
        body.facade.candidates.length created sources
        (reusableSourceIds facade.plan compiled.plan request.resetReason) error) :
    ¬ ComesToRest body request ∧ (ActivatesAtomically body request ↔
      ∀ source ∈ body.playingSources, IsTried body.sourceLedger body.playingSources source →
        ∀ object, body.sourceLedger.read source = some object → PlaysAgain object) := by
  have sound := underway.sound
  have built := (underway.building builds).1
  have distinct : body.playingSources.Nodup := sound.sources.distinct.filter _
  rcases underway.reaches built boundary with ⟨rests, calling, calls⟩
  have restless : ¬ ComesToRest body request := fun atRest => by cases rests.mpr atRest
  have sameFacade : reached.facade = facade := reachBoundary_raised boundary
  rcases underway.givenUp { reached with
    sourceLedger := paused.foldl (tryCall .resume) reached.sourceLedger } sameFacade result
    with ⟨⟨raised, raises⟩, ledgers, runtimes⟩
  refine ⟨restless, ?_⟩
  -- the sources of the candidate are others than those that were held
  have owns : (paused.foldl (tryCall .resume) reached.sourceLedger).Owns
      (replaceable sources (reusableSourceIds facade.plan compiled.plan request.resetReason) ++
        body.heldSources) := by
    have pausing : ∀ source ∈ body.playingSources, source ∈ body.heldSources :=
      fun source member => (List.mem_filter.mp member).1
    rcases callSources_prefix .pause body.playingSources ledger with
      ⟨called, isPrefix, same, within⟩
    have paused : (callSources .pause body.playingSources ledger).1.Owns (replaceable sources
        (reusableSourceIds facade.plan compiled.plan request.resetReason) ++ body.heldSources) :=
      callSources_owns built.owns
        (fun source member => List.mem_append_right _ (pausing source member))
    rw [calls] at paused same within
    refine paused.foldl (fun source member _ before => tryCall_owns before ?_)
    exact List.mem_append_right _ (pausing source (isPrefix.subset (within.subset member)))
  have reads : ∀ source ∈ body.heldSources, ∀ object,
      body.sourceLedger.read source = some object →
      (IsTried body.sourceLedger body.playingSources source →
        (body.activate request).1.sourceLedger.read source = some (putBack object)) ∧
      (¬ IsTried body.sourceLedger body.playingSources source →
        (body.activate request).1.sourceLedger.read source = some object) := by
    intro source isHeld object found
    have unread : ∀ each ∈ body.playingSources,
        ledger.read each = body.sourceLedger.read each :=
      fun each member => built.read_held sound (List.mem_filter.mp member).1
    rw [ledgers, read_disposed owns isHeld, ← isTried_congr unread]
    exact read_putBack distinct calls ((built.read_held sound isHeld).trans found)
  rw [ActivatesAtomically, raises]
  refine (restored_iff sound raises).trans ?_
  have staffed : body.worker = none → request.workerClose = .ok () := fun unstaffed =>
    absurd (comesToRest_of_unstaffed sound underway.staffed unstaffed) restless
  rw [and_iff_left (runtimes.mpr staffed)]
  constructor
  · rintro ⟨playing, _⟩ source member isTried object found
    have isHeld := (List.mem_filter.mp member).1
    have plays := playing source member
    rw [isPlaying, playbackState, (reads source isHeld object found).1 isTried] at plays
    exact plays
  · intro playAgain
    constructor
    · intro source member
      rcases List.mem_filter.mp member with ⟨isHeld, plays⟩
      rcases sound.sources.exists_read isHeld with ⟨object, found⟩
      by_cases isTried : IsTried body.sourceLedger body.playingSources source
      · rw [isPlaying, playbackState, (reads source isHeld object found).1 isTried]
        exact playAgain source member isTried object found
      · rw [isPlaying, playbackState, (reads source isHeld object found).2 isTried, ← found]
        exact plays
    · intro source isHeld other
      rcases sound.sources.exists_read isHeld with ⟨object, found⟩
      rw [(reads source isHeld object found).2 ?_, found]
      rintro ⟨before, after, split, _⟩
      exact other (split ▸ List.mem_append_right _ List.mem_cons_self)

/-- The candidate is committed, and the swap cannot fail. -/
theorem Underway.swapped {reusable playing : List UUID} {hadPlan : Bool}
    (builds : buildSources body.sources
      (reusableSourceIds facade.plan compiled.plan request.resetReason) request.createSource
      (sourceNodes compiled.plan) body.sourceLedger Dict.empty = (ledger, sources, .ok ()))
    (boundary : { body with
      facade := facade
      workerLedger := workerLedger
      sourceLedger := ledger }.reachBoundary request body.facade.candidates.length =
        (reached, paused, .ok ()))
    (result : body.activate request =
      (reached.swap request worker sources reusable playing hadPlan, .ok true)) :
    ComesToRest body request ∧ ActivatesAtomically body request := by
  have built := (underway.building builds).1
  have prepared := underway.sound.prepared underway.prepares underway.source underway.employs
  refine ⟨(underway.reaches built boundary).1.mp rfl, ?_⟩
  have active := (reachBoundary_spec { body with
    facade := facade
    workerLedger := workerLedger
    sourceLedger := ledger } built.owns (fun _ => List.mem_append_right _) prepared.runtimes
    prepared.candidate boundary).2.2.2.2
  rw [ActivatesAtomically, result]
  refine ⟨compiled, (Option.filter_eq_some_iff.mp underway.source).1, ?_⟩
  rw [EngineBody.swap]
  dsimp only
  split_ifs <;> exact active

end Underway

/-- An activation is atomic exactly when its candidate can be given up cleanly. -/
theorem activatesAtomically_iff (sound : body.Sound) (staffed : body.Staffed) :
    ActivatesAtomically body request ↔ GivesUpCleanly body request := by
  have activates := body.activate_cases request
  generalize result : body.activate request = outcome at activates
  have raises : ∀ {after : EngineBody ρ σ γ} {error : PyError},
      body.activate request = (after, .error error) →
        (body.activate request).2 = .error error := fun same => by rw [same]
  have unchanged : ∀ {after : EngineBody ρ σ γ} {error : PyError},
      body.activate request = (after, .error error) → after.sourceLedger = body.sourceLedger →
        after.facade.ownedRuntimes = body.facade.ownedRuntimes →
          ActivatesAtomically body request := by
    intro after error same ledger owners
    have afterSound := sound.activate request
    refine (atomically_iff_of_read sound (raises same) ?_).mpr ?_
    · intro source _
      rw [same, ledger]
    · rw [same] at afterSound ⊢
      exact openRuntimes_of_owned sound afterSound owners
  cases activates with
  | closed isClosed =>
      refine iff_of_true (unchanged result rfl rfl) ?_
      exact fun _ _ _ notClosed => absurd isClosed notClosed
  | unprepared _ prepares =>
      refine iff_of_true (unchanged result rfl (EngineFacade.prepare_raised prepares).2.2) ?_
      intro _ _ _ _ returned
      rw [prepares] at returned
      cases returned
  | silent _ _ noSource =>
      refine iff_of_true (by rw [ActivatesAtomically, result]; exact noSource) ?_
      intro compiled isCompiled hasSource
      rw [isCompiled, Option.filter_some, if_pos hasSource] at noSource
      cases noSource
  | @unpreviewed facade compiled _ _ prepares source preview =>
      have discarded := discard_ownedRuntimes sound prepares { body with
        facade := facade } rfl
      refine iff_of_true (unchanged result ?_ discarded) ?_
      · rw [discard]
        cases facade.candidates[body.facade.candidates.length]? <;> rfl
      · intro _ _ _ _ _ previewed
        rw [preview] at previewed
        cases previewed
  | @unemployed facade compiled error notClosed prepares source preview employs =>
      have unstaffed : body.worker = none ∧ request.newWorker ≠ .ok () := by
        rw [employ] at employs
        cases isWorker : body.worker with
        | some present =>
            rw [isWorker] at employs
            cases employs
        | none =>
            rw [isWorker] at employs
            refine ⟨rfl, fun starts => ?_⟩
            rw [starts] at employs
            cases employs
      refine iff_of_false ?_ ?_
      · rw [atomically_iff_of_read sound (raises result) (fun source _ => by rw [result]), result]
        exact leaks sound staffed unstaffed.1 prepares source
      · rw [givesUpCleanly_iff notClosed prepares source preview]
        exact fun cleanly => unstaffed.2 (cleanly.1 unstaffed.1).1
  | @planned facade compiled workerLedger worker created _ notClosed prepares source preview
      employs plans =>
      have underway : Underway body request facade compiled workerLedger worker created :=
        ⟨sound, staffed, prepares, source, employs⟩
      have starts := (employ_created employs).2
      rw [givesUpCleanly_iff notClosed prepares source preview]
      cases plans with
      | unbuilt builds =>
          have creates := (underway.building builds).2
          have failed : ¬ CreatesSources body request compiled.plan := fun created => by
            cases creates.mpr created
          rw [underway.unbuilt builds result]
          constructor
          · exact fun closes => ⟨fun unstaffed => ⟨starts unstaffed, fun _ => closes unstaffed⟩,
              fun created => absurd created failed⟩
          · exact fun cleanly unstaffed => (cleanly.1 unstaffed).2 failed
      | unreached builds boundary =>
          have created := (underway.building builds).2.mp rfl
          rcases underway.unreached builds boundary result with ⟨restless, atomically⟩
          rw [atomically]
          constructor
          · exact fun playAgain => ⟨fun unstaffed => ⟨starts unstaffed, fun failed =>
              absurd created failed⟩, fun _ _ => playAgain⟩
          · exact fun cleanly => cleanly.2 created restless
      | swapped builds boundary =>
          have created := (underway.building builds).2.mp rfl
          rcases underway.swapped builds boundary result with ⟨rests, atomic⟩
          refine iff_of_true atomic ⟨fun unstaffed => ⟨starts unstaffed, fun failed =>
            absurd created failed⟩, fun _ restless => absurd rests restless⟩

end Cases

/-- In every state that the body can reach. -/
theorem activate_atomic_iff {commands : List (BodyCommand ρ σ γ)} {body : EngineBody ρ σ γ}
    (reached : run step initial commands = some body) (request : ActivationRequest ρ σ γ) :
    ActivatesAtomically body request ↔ GivesUpCleanly body request :=
  activatesAtomically_iff (sound_of_run reached) (staffed_of_run reached)

end Failure
end EngineBody

/-! ## A worker that cannot be made -/

/-- Two video sources, one of which plays. -/
def onePlays : List (BodyCommand ScriptedRuntime PlaybackSource Unit) :=
  [.activate (editRequest (some videoPair)), .play (some 2)]

/-- The worker does not come to rest, and the edit is given up. -/
theorem activate_atomic_of_restless :
    ∃ body, run EngineBody.step EngineBody.initial onePlays = some body ∧
      (EngineBody.ActivatesAtomically body
          { editRequest (some videoPair) with workerIdle := .ok false } ↔
        EngineBody.GivesUpCleanly body
          { editRequest (some videoPair) with workerIdle := .ok false }) := by
  rcases reached : run EngineBody.step EngineBody.initial onePlays with _ | body
  · cases reached
  · exact ⟨body, rfl, EngineBody.activate_atomic_iff reached _⟩

/-- The first activation of a body, for which no thread can be started. -/
def threadless : ActivationRequest ScriptedRuntime PlaybackSource Unit :=
  { editRequest (some videoPair) with newWorker := .error (.runtimeError "can't start new thread") }

/-- The runtimes of the candidate stay open. -/
theorem threadless_leaks :
    ((EngineBody.initial : EngineBody ScriptedRuntime PlaybackSource Unit).activate
        threadless).1.facade.ledger.events = [.created 0, .created 1] ∧
      ¬ EngineBody.ActivatesAtomically EngineBody.initial threadless := by
  have events : ((EngineBody.initial : EngineBody ScriptedRuntime PlaybackSource Unit).activate
      threadless).1.facade.ledger.events = [.created 0, .created 1] := by
    decide +kernel
  have raised : ((EngineBody.initial : EngineBody ScriptedRuntime PlaybackSource Unit).activate
      threadless).2 = .error (.runtimeError "can't start new thread") := by
    decide +kernel
  refine ⟨events, fun atomic => ?_⟩
  rw [EngineBody.ActivatesAtomically, raised] at atomic
  have isOpen := (atomic.openRuntimes 0).mp (by
    rw [Ledger.IsOpen, events]
    decide)
  exact absurd isOpen.1 List.not_mem_nil

end Runtime
end Synesthesia
