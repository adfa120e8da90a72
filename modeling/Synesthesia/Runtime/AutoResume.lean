import Synesthesia.Runtime.BodyOwnership
import Synesthesia.Runtime.PlaybackSource

namespace Synesthesia
namespace Runtime

open Foundation Contracts Nodes

/-!
# What a broken graph interrupted

A document without signal tears the runtime down.  The next activation that
succeeds plays again what was playing then, however many broken documents,
failed activations and transport commands lie in between.
-/

variable {ρ σ γ : Type}

/-! ## Calls of `play` -/

/-- The sources that a list of events plays, in order. -/
def playedSources : List (LedgerEvent SourceUse) → List Nat
  | [] => []
  | .used source .play :: rest => source :: playedSources rest
  | _ :: rest => playedSources rest

/-- Between two moments `play` was called on exactly the listed sources. -/
def Plays (earlier later : SourceLedger σ) (played : List Nat) : Prop :=
  ∃ added, later.events = earlier.events ++ added ∧ playedSources added = played

/-- The event is no call of `play`. -/
def IsQuiet (event : LedgerEvent SourceUse) : Prop := ∀ source, event ≠ .used source .play

theorem playedSources_append (first second : List (LedgerEvent SourceUse)) :
    playedSources (first ++ second) = playedSources first ++ playedSources second := by
  induction first with
  | nil => rfl
  | cons event rest ih =>
      rw [List.cons_append]
      cases event with
      | created source => exact ih
      | closed source => exact ih
      | used source use =>
          cases use with
          | play => exact congrArg (List.cons source) ih
          | _ => exact ih

theorem playedSources_quiet {events : List (LedgerEvent SourceUse)}
    (quiet : ∀ event ∈ events, IsQuiet event) : playedSources events = [] := by
  induction events with
  | nil => rfl
  | cons event rest ih =>
      have onward := ih (fun other member => quiet other
        (List.mem_cons_of_mem _ member))
      cases event with
      | created source => exact onward
      | closed source => exact onward
      | used source use =>
          cases use with
          | play => exact absurd rfl (quiet _ List.mem_cons_self source)
          | _ => exact onward

namespace Plays

variable {first second third : SourceLedger σ} {early late : List Nat}

theorem trans (before : Plays first second early) (after : Plays second third late) :
    Plays first third (early ++ late) := by
  rcases before with ⟨added, events, rfl⟩
  rcases after with ⟨more, moreEvents, rfl⟩
  exact ⟨added ++ more, by rw [moreEvents, events, List.append_assoc],
    playedSources_append added more⟩

theorem of_adds (adds : first.Adds IsQuiet second) : Plays first second [] := by
  rcases adds with ⟨added, events, quiet⟩
  exact ⟨added, events, playedSources_quiet quiet⟩

variable [SourceController σ]

theorem one (ledger : SourceLedger σ) (source : Nat) :
    Plays ledger (tryCall .play ledger source) [source] := ⟨[_], rfl, rfl⟩

theorem all (sources : List Nat) (ledger : SourceLedger σ) :
    Plays ledger (sources.foldl (tryCall .play) ledger) sources := by
  induction sources generalizing ledger with
  | nil => exact of_adds (Ledger.Adds.refl ledger)
  | cons source rest ih =>
      exact (one ledger source).trans (ih _)

end Plays

section Calls

variable [SourceController σ]

theorem tryCall_quiet {use : SourceUse} (other : use ≠ .play) (ledger : SourceLedger σ)
    (source : Nat) : ledger.Adds IsQuiet (tryCall use ledger source) := by
  refine Ledger.Adds.single rfl ?_
  intro played same
  cases same
  exact other rfl

theorem callSources_quiet {use : SourceUse} (other : use ≠ .play) (sources : List Nat)
    (ledger : SourceLedger σ) : ledger.Adds IsQuiet (callSources use sources ledger).1 := by
  rcases callSources_prefix use sources ledger with ⟨called, _, same, _⟩
  rw [same]
  exact Ledger.Adds.foldl (fun source _ before => tryCall_quiet other before source) ledger

theorem disposeCandidateSources_quiet (ledger : SourceLedger σ) (sources : Dict UUID Nat)
    (reusable : List UUID) :
    ledger.Adds IsQuiet (EngineBody.disposeCandidateSources ledger sources reusable) :=
  Ledger.Adds.foldl (fun _ _ _ => Ledger.Adds.single rfl (fun _ same => by cases same)) ledger

/-- What continues in the new plan were sources that played. -/
theorem continuePlaying_plays (ledger : SourceLedger σ) (sources : Dict UUID Nat)
    (playing reusable : List UUID) :
    ∃ played, Plays ledger (EngineBody.continuePlaying ledger sources playing reusable) played ∧
      ∀ source ∈ played, ∃ id ∈ playing, sources.get? id = some source := by
  have onward : ∀ (entries : List (UUID × Nat)) (ledger : SourceLedger σ),
      ∃ played, Plays ledger (entries.foldl (fun ledger entry =>
          tryCall (if entry.1 ∈ reusable then .resume else .play) ledger entry.2) ledger) played ∧
        ∀ source ∈ played, ∃ entry ∈ entries, entry.2 = source := by
    intro entries
    induction entries with
    | nil =>
        intro ledger
        exact ⟨[], Plays.of_adds (Ledger.Adds.refl ledger),
          fun _ impossible => absurd impossible List.not_mem_nil⟩
    | cons entry rest ih =>
        intro ledger
        rw [List.foldl_cons]
        by_cases isReusable : entry.1 ∈ reusable
        · rw [if_pos isReusable]
          have quiet : ledger.Adds IsQuiet (tryCall .resume ledger entry.2) :=
            tryCall_quiet (fun same => by cases same) ledger entry.2
          rcases ih (tryCall .resume ledger entry.2) with ⟨played, plays, each⟩
          refine ⟨played, (Plays.of_adds quiet).trans plays, ?_⟩
          intro source member
          rcases each source member with ⟨other, isEntry, same⟩
          exact ⟨other, List.mem_cons_of_mem _ isEntry, same⟩
        · rw [if_neg isReusable]
          rcases ih (tryCall .play ledger entry.2) with ⟨played, plays, each⟩
          refine ⟨entry.2 :: played, (Plays.one ledger entry.2).trans plays, ?_⟩
          intro source member
          rcases List.mem_cons.mp member with same | later
          · exact ⟨entry, List.mem_cons_self, same.symm⟩
          · rcases each source later with ⟨other, isEntry, same⟩
            exact ⟨other, List.mem_cons_of_mem _ isEntry, same⟩
  rcases onward (sources.entries.filter (fun entry => decide (entry.1 ∈ playing))) ledger
    with ⟨played, plays, each⟩
  refine ⟨played, plays, ?_⟩
  intro source member
  rcases each source member with ⟨entry, isEntry, rfl⟩
  rcases List.mem_filter.mp isEntry with ⟨isSource, isPlaying⟩
  exact ⟨entry.1, of_decide_eq_true isPlaying, Dict.get?_of_mem isSource⟩

end Calls

namespace EngineBody

variable [NodeRuntime ρ] [SourceController σ] {body : EngineBody ρ σ γ}

omit [NodeRuntime ρ] in
/-- Creating sources does not change what plays. -/
theorem playingSourceIds_built {ledger : SourceLedger σ}
    (sources : body.sourceLedger.Owns body.heldSources)
    (reads : ∀ source object, body.sourceLedger.read source = some object →
      ledger.read source = some object) :
    { body with sourceLedger := ledger }.playingSourceIds = body.playingSourceIds := by
  have same : ∀ entry ∈ body.sources.entries,
      isPlaying ledger entry.2 = isPlaying body.sourceLedger entry.2 := by
    intro entry member
    rcases sources.exists_read (List.mem_map.mpr ⟨entry, member, rfl⟩) with ⟨object, found⟩
    rw [isPlaying, isPlaying, playbackState, playbackState, found, reads _ _ found]
  rw [playingSourceIds, playingSourceIds, Dict.keys, Dict.keys, Dict.filter, Dict.filter]
  exact congrArg (List.map Prod.fst) (List.filter_congr same)

/-- What an activation plays: sources that played before, and what is
remembered. -/
theorem activate_plays (sound : body.Sound)
    {request : ActivationRequest ρ σ γ} (activated : (body.activate request).2 = .ok true) :
    (∃ compiled, request.compiled = some compiled ∧ (body.activate request).1.sources.keys =
      (sourceNodes compiled.plan).map CompiledNode.nodeId) ∧
    (body.activate request).1.interruptedPlayingSourceIds = [] ∧
    ∃ continued,
      Plays body.sourceLedger (body.activate request).1.sourceLedger (continued ++
        ((body.activate request).1.sources.filter (fun entry =>
          decide (entry.1 ∈ body.interruptedPlayingSourceIds))).entries.map Prod.snd) ∧
      ∀ source ∈ continued, ∃ id ∈ body.playingSourceIds,
        (body.activate request).1.sources.get? id = some source := by
  have activates := body.activate_cases request
  generalize body.activate request = result at activates activated
  cases activates with
  | closed _ => cases activated
  | unprepared _ _ => cases activated
  | silent _ _ _ => cases activated
  | unpreviewed _ _ _ _ => cases activated
  | unemployed _ _ _ _ _ => cases activated
  | @planned facade compiled workerLedger worker created _ _ prepares source _ employs plans =>
      have isCompiled := (Option.filter_eq_some_iff.mp source).1
      have prepared := sound.prepared prepares source employs
      cases plans with
      | unbuilt builds => exact absurd activated (rollBack_ne_ok _ _ _ _ _ _ _ _)
      | unreached builds boundary => exact absurd activated (rollBack_ne_ok _ _ _ _ _ _ _ _)
      | @swapped ledger sources reached paused builds boundary =>
          rcases prepared.building builds with ⟨built, keys⟩
          have reaches := reachBoundary_sameFields { body with
            facade := facade
            workerLedger := workerLedger
            sourceLedger := ledger } request body.facade.candidates.length
          rw [boundary] at reaches
          rcases reaches with ⟨fields, pausing⟩
          have playing : { body with
              facade := facade
              workerLedger := workerLedger
              sourceLedger := ledger }.playingSourceIds = body.playingSourceIds :=
            playingSourceIds_built sound.sources built.reads
          have created : Plays body.sourceLedger ledger [] := Plays.of_adds (built.adds.mono (by
            rintro _ ⟨source, rfl⟩ played same
            cases same))
          have paused : Plays ledger reached.sourceLedger [] := by
            rw [pausing]
            exact Plays.of_adds (callSources_quiet (fun same => by cases same) _ _)
          have closed : Plays body.sourceLedger (disposeCandidateSources reached.sourceLedger
              reached.sources
                (reusableSourceIds facade.plan compiled.plan request.resetReason)) [] :=
            (created.trans paused).trans
              (Plays.of_adds (disposeCandidateSources_quiet _ _ _))
          rcases continuePlaying_plays (disposeCandidateSources reached.sourceLedger
            reached.sources (reusableSourceIds facade.plan compiled.plan request.resetReason))
            sources body.playingSourceIds
            (reusableSourceIds facade.plan compiled.plan request.resetReason)
            with ⟨played, plays, each⟩
          have continued : ∃ played, Plays body.sourceLedger (if reached.state = .running then
              continuePlaying (disposeCandidateSources reached.sourceLedger reached.sources
                (reusableSourceIds facade.plan compiled.plan request.resetReason)) sources
                body.playingSourceIds
                (reusableSourceIds facade.plan compiled.plan request.resetReason)
              else disposeCandidateSources reached.sourceLedger reached.sources
                (reusableSourceIds facade.plan compiled.plan request.resetReason)) played ∧
              ∀ source ∈ played, ∃ id ∈ body.playingSourceIds,
                sources.get? id = some source := by
            by_cases running : reached.state = .running
            · rw [if_pos running]
              exact ⟨played, closed.trans plays, each⟩
            · rw [if_neg running]
              exact ⟨[], closed, fun _ impossible => absurd impossible List.not_mem_nil⟩
          rcases continued with ⟨played, plays, each⟩
          dsimp only
          rw [playing, EngineBody.swap]
          have remembered := fields.interrupted
          dsimp only at remembered ⊢
          by_cases nothing : reached.interruptedPlayingSourceIds.isEmpty = true
          · rw [if_pos nothing]
            have noMemory := List.isEmpty_iff.mp nothing
            refine ⟨⟨compiled, isCompiled, keys rfl⟩, noMemory, played, ?_, each⟩
            have none_ : body.interruptedPlayingSourceIds = [] := remembered.symm.trans noMemory
            rw [none_]
            simpa [Dict.filter] using plays
          · rw [if_neg nothing]
            refine ⟨⟨compiled, isCompiled, keys rfl⟩, rfl, played, ?_, each⟩
            rw [← remembered]
            exact plays.trans (Plays.all _ _)

/-! ## The memory -/

/-- What the history of a body asks to play again: nothing while its runtime
stands, or what played when a document without signal tore it down. -/
inductive Interruption where
  | standing
  | tornDown (playing : List UUID)
deriving DecidableEq

def Interruption.remembered : Interruption → List UUID
  | standing => []
  | tornDown playing => playing

/-- The first of several documents without signal decides; an activation that
succeeds and a closing end the matter, and nothing else bears on it. -/
def Interruption.after (interruption : Interruption) (body : EngineBody ρ σ γ) :
    BodyCommand ρ σ γ → Interruption
  | .activate request =>
      match (body.activate request).2, interruption with
      | .error _, interruption => interruption
      | .ok true, _ => standing
      | .ok false, standing => tornDown body.playingSourceIds
      | .ok false, tornDown playing => tornDown playing
  | .close _ => standing
  | _ => interruption

/-- A step of the body beside its history. -/
def recordedStep : EngineBody ρ σ γ × Interruption → BodyCommand ρ σ γ →
    Option (EngineBody ρ σ γ × Interruption)
  | (body, interruption), command =>
      some ((body.perform command).1, interruption.after body command)

/-- The body remembers what its history asks for. -/
structure Remembers (body : EngineBody ρ σ γ) (interruption : Interruption) : Prop where
  sound : body.Sound
  memory : body.interruptedPlayingSourceIds = interruption.remembered
  tornDown : ∀ playing, interruption = .tornDown playing → body.sources.entries = []
  closed : body.state = .closed → body.interruptedPlayingSourceIds = []

/-- What a command other than an activation and a closing leaves alone. -/
structure SameMemory (before after : EngineBody ρ σ γ) : Prop where
  sources : after.sources = before.sources
  interrupted : after.interruptedPlayingSourceIds = before.interruptedPlayingSourceIds
  closed : after.state = .closed → before.state = .closed

omit [NodeRuntime ρ] [SourceController σ] in
theorem SameMemory.refl (body : EngineBody ρ σ γ) : SameMemory body body := ⟨rfl, rfl, id⟩

omit [NodeRuntime ρ] [SourceController σ] in
theorem SameMemory.trans {first second third : EngineBody ρ σ γ}
    (before : SameMemory first second) (after : SameMemory second third) :
    SameMemory first third where
  sources := after.sources.trans before.sources
  interrupted := after.interrupted.trans before.interrupted
  closed isClosed := before.closed (after.closed isClosed)

omit [NodeRuntime ρ] in
theorem transportState_ne_closed (ledger : SourceLedger σ) (sources : List Nat) :
    transportState ledger sources ≠ .closed := by
  rw [transportState]
  split_ifs <;> exact fun same => by cases same

omit [NodeRuntime ρ] in
theorem refreshTransportState_sameMemory (body : EngineBody ρ σ γ) :
    SameMemory body body.refreshTransportState :=
  ⟨rfl, rfl, fun isClosed => absurd isClosed (transportState_ne_closed _ _)⟩

omit [NodeRuntime ρ] in
theorem onSources_sameMemory (use : SourceUse)
    (selection : Option UUID) {finish : EngineBody ρ σ γ → EngineBody ρ σ γ × Except PyError Unit}
    (finishes : ∀ body, SameMemory body (finish body).1) :
    SameMemory body (body.onSources use selection finish).1 := by
  rw [onSources]
  cases body.selectedSources selection with
  | error error => exact SameMemory.refl body
  | ok sources =>
      dsimp only
      rcases Runtime.callSources use sources body.sourceLedger with ⟨ledger, reached, outcome⟩
      have called : SameMemory body { body with sourceLedger := ledger } := ⟨rfl, rfl, id⟩
      cases outcome with
      | error error => exact called
      | ok done => exact called.trans (finishes _)

theorem panicAndRefresh_sameMemory (selection : Option UUID) (body : EngineBody ρ σ γ) :
    SameMemory body (panicAndRefresh selection body).1 := by
  rw [panicAndRefresh.eq_def]
  cases selection with
  | some id => exact refreshTransportState_sameMemory body
  | none =>
      have panicked : SameMemory body body.panicFacade.1 := ⟨rfl, rfl, id⟩
      rcases panics : body.panicFacade with ⟨after, outcome⟩
      rw [panics] at panicked
      cases outcome with
      | error error => exact panicked
      | ok done => exact panicked.trans (refreshTransportState_sameMemory after)

omit [SourceController σ] in
theorem Remembers.initially :
    Remembers (initial : EngineBody ρ σ γ) .standing :=
  ⟨sound_initial, rfl, (fun _ impossible => by cases impossible), fun _ => rfl⟩

variable {interruption : Interruption}

omit [NodeRuntime ρ] [SourceController σ] in
theorem Remembers.unaffected {body after : EngineBody ρ σ γ}
    (remembers : Remembers body interruption) (same : SameMemory body after)
    (sound : after.Sound) : Remembers after interruption where
  sound := sound
  memory := same.interrupted.trans remembers.memory
  tornDown playing isTornDown := by
    rw [same.sources]
    exact remembers.tornDown playing isTornDown
  closed isClosed := same.interrupted.trans (remembers.closed (same.closed isClosed))

omit [NodeRuntime ρ] in
theorem playingSourceIds_eq_nil (noSources : body.sources.entries = []) :
    body.playingSourceIds = [] := by
  have filtered : body.playingSourceIds = (body.sources.entries.filter
      (fun entry => isPlaying body.sourceLedger entry.2)).map Prod.fst := rfl
  rw [filtered, noSources]
  rfl

/-- A document without signal is remembered by what played, unless an earlier
one has left no source. -/
theorem Remembers.silenced {body silenced : EngineBody ρ σ γ}
    (remembers : Remembers body interruption) (sources : silenced.sources = body.sources)
    (ledger : silenced.sourceLedger = body.sourceLedger)
    (interrupted : silenced.interruptedPlayingSourceIds = body.interruptedPlayingSourceIds) :
    silenced.stopRuntimeWithoutSignal.interruptedPlayingSourceIds =
      match interruption with
      | .standing => body.playingSourceIds
      | .tornDown playing => playing := by
  have played : silenced.playingSourceIds = body.playingSourceIds := by
    rw [playingSourceIds, playingSourceIds, sources, ledger]
  rw [stopRuntimeWithoutSignal]
  dsimp only
  rw [sources, interrupted, played, remembers.memory]
  cases interruption with
  | standing =>
      by_cases empty : body.sources.entries = []
      · rw [if_pos (List.isEmpty_iff.mpr empty)]
        exact (playingSourceIds_eq_nil empty).symm
      · rw [if_neg (fun isEmpty => empty (List.isEmpty_iff.mp isEmpty))]
  | tornDown playing =>
      rw [if_pos (List.isEmpty_iff.mpr (remembers.tornDown playing rfl))]
      rfl

theorem Remembers.activate
    (remembers : Remembers body interruption) (request : ActivationRequest ρ σ γ) :
    Remembers (body.activate request).1 (interruption.after body (.activate request)) := by
  have sound := remembers.sound.activate request
  rw [Interruption.after.eq_def]
  dsimp only
  rcases outcome : (body.activate request).2 with error | activated
  · have same := activate_raised outcome
    exact remembers.unaffected ⟨same.sources, same.interrupted, fun isClosed =>
      same.state ▸ isClosed⟩ sound
  cases activated with
  | true =>
      have consumed := (activate_plays remembers.sound outcome).2.1
      exact ⟨sound, consumed, (fun _ impossible => by cases impossible), fun _ => consumed⟩
  | false =>
      have activates := body.activate_cases request
      generalize body.activate request = result at activates outcome sound
      cases activates with
      | closed _ => cases outcome
      | unprepared _ _ => cases outcome
      | unpreviewed _ _ _ _ => cases outcome
      | unemployed _ _ _ _ _ => cases outcome
      | planned _ _ _ _ _ plans =>
          cases plans with
          | unbuilt _ => exact absurd outcome (rollBack_ne_ok _ _ _ _ _ _ _ _)
          | unreached _ _ => exact absurd outcome (rollBack_ne_ok _ _ _ _ _ _ _ _)
          | swapped _ _ => cases outcome
      | @silent facade _ _ _ =>
          have same := discard_sameFields { body with facade := facade }
            body.facade.candidates.length
          have ledger : ({ body with facade := facade }.discard
              body.facade.candidates.length).sourceLedger = body.sourceLedger := by
            rw [discard]
            cases facade.candidates[body.facade.candidates.length]? <;> rfl
          have memory := remembers.silenced same.sources ledger same.interrupted
          cases interruption with
          | standing => exact ⟨sound, memory, (fun _ _ => rfl), (fun impossible => by
              cases impossible)⟩
          | tornDown playing => exact ⟨sound, memory, (fun _ _ => rfl), (fun impossible => by
              cases impossible)⟩

theorem Remembers.perform (remembers : Remembers body interruption) (command : BodyCommand ρ σ γ) :
    Remembers (body.perform command).1 (interruption.after body command) := by
  have sound := remembers.sound.perform command
  cases command with
  | activate request => exact remembers.activate request
  | play selection =>
      exact remembers.unaffected
        (onSources_sameMemory .play selection refreshTransportState_sameMemory) sound
  | pause selection =>
      refine remembers.unaffected (onSources_sameMemory .pause selection (fun after => ?_)) sound
      dsimp only
      split_ifs
      · exact (refreshTransportState_sameMemory after).trans ⟨rfl, rfl, id⟩
      · exact refreshTransportState_sameMemory after
  | resume selection =>
      exact remembers.unaffected
        (onSources_sameMemory .resume selection refreshTransportState_sameMemory) sound
  | stop selection =>
      exact remembers.unaffected
        (onSources_sameMemory .stop selection (panicAndRefresh_sameMemory selection)) sound
  | reload selection =>
      exact remembers.unaffected
        (onSources_sameMemory .reload selection (panicAndRefresh_sameMemory selection)) sound
  | seek sourceNodeId sourceTimeS =>
      exact remembers.unaffected
        (onSources_sameMemory (.seek sourceTimeS) (some sourceNodeId) SameMemory.refl) sound
  | panic =>
      refine remembers.unaffected ?_ sound
      change SameMemory body (EngineBody.panic body).1
      rw [EngineBody.panic]
      split_ifs
      · exact SameMemory.refl body
      · exact ⟨rfl, rfl, id⟩
  | close rest =>
      have cleared : (body.close rest).1.interruptedPlayingSourceIds = [] := by
        rw [EngineBody.close]
        by_cases isClosed : body.state = .closed
        · rw [if_pos isClosed]
          exact remembers.closed isClosed
        · rw [if_neg isClosed]
      exact ⟨sound, cleared, (fun _ impossible => by cases impossible), fun _ => cleared⟩
  | tick context sourceValues => exact remembers.unaffected ⟨rfl, rfl, id⟩ sound
  | resetSource sourceNodeId reason => exact remembers.unaffected ⟨rfl, rfl, id⟩ sound
  | sourceMoves sourceNodeId object =>
      refine remembers.unaffected ?_ sound
      change SameMemory body (body.moveSource sourceNodeId object)
      rw [moveSource]
      cases body.sources.get? sourceNodeId with
      | none => exact SameMemory.refl body
      | some source => exact ⟨rfl, rfl, id⟩

theorem remembers_of_run {commands : List (BodyCommand ρ σ γ)}
    (reached : run recordedStep (initial, .standing) commands = some (body, interruption)) :
    Remembers body interruption := by
  have preserved : ∀ (recorded : EngineBody ρ σ γ × Interruption) (command : BodyCommand ρ σ γ)
      next, Remembers recorded.1 recorded.2 → True → recordedStep recorded command = some next →
        Remembers next.1 next.2 := by
    intro recorded command next remembers _ stepped
    rw [recordedStep.eq_def, Option.some.injEq] at stepped
    exact stepped ▸ remembers.perform command
  exact run_invariant preserved Remembers.initially
    (meets_of_forall (fun _ _ => trivial) _ _) reached

/-- After documents without signal, and whatever else between them, the body
remembers what the first of them interrupted, and the next activation that
succeeds plays exactly that.  The memory ends there: an activation after it
plays no source that was not playing. -/
theorem auto_resume {commands : List (BodyCommand ρ σ γ)}
    (reached : run recordedStep (initial, .standing) commands = some (body, interruption)) :
    body.interruptedPlayingSourceIds = interruption.remembered ∧
    ∀ request : ActivationRequest ρ σ γ, (body.activate request).2 = .ok true →
      (∃ compiled, request.compiled = some compiled ∧ (body.activate request).1.sources.keys =
        (sourceNodes compiled.plan).map CompiledNode.nodeId) ∧
      (body.activate request).1.interruptedPlayingSourceIds = [] ∧
      match interruption with
      | .tornDown playing =>
          Plays body.sourceLedger (body.activate request).1.sourceLedger
            (((body.activate request).1.sources.filter (fun entry =>
              decide (entry.1 ∈ playing))).entries.map Prod.snd)
      | .standing => ∃ continued,
          Plays body.sourceLedger (body.activate request).1.sourceLedger continued ∧
          ∀ source ∈ continued, ∃ id ∈ body.playingSourceIds,
            (body.activate request).1.sources.get? id = some source := by
  have remembers := remembers_of_run reached
  refine ⟨remembers.memory, fun request activated => ?_⟩
  rcases activate_plays remembers.sound activated with ⟨keys, consumed, continued, plays, each⟩
  refine ⟨keys, consumed, ?_⟩
  have memory := remembers.memory
  cases interruption with
  | tornDown playing =>
      have noSources := playingSourceIds_eq_nil (remembers.tornDown playing rfl)
      have nothing : continued = [] := List.eq_nil_iff_forall_not_mem.mpr (by
        intro source member
        rcases each source member with ⟨id, isPlaying, _⟩
        rw [noSources] at isPlaying
        exact absurd isPlaying List.not_mem_nil)
      rw [nothing, memory, List.nil_append] at plays
      exact plays
  | standing =>
      refine ⟨continued, ?_, each⟩
      rw [memory] at plays
      simpa [Interruption.remembered, Dict.filter] using plays

end EngineBody

/-! ## A repaired graph -/

/-- A node that ticks the graph. -/
def videoNode (nodeId : UUID) : CompiledNode ScriptedRuntime where
  nodeId := nodeId
  definition := scriptedContract "synmachine.source.video_file" .source [] [] .never
    (.ok Dict.empty)
  parameters := Dict.empty
  inputBindings := Dict.empty
  inputTypes := Dict.empty
  outputTypes := Dict.empty
  clockId := some nodeId
  isStatic := false
  isDemanded := true

/-- The plan of two video sources. -/
def videoPair : DistinctPlan ScriptedRuntime where
  plan := ⟨0, 1, [videoNode 1, videoNode 2], [1, 2]⟩
  distinct := by decide

/-- A request with working devices, for a compiled plan. -/
def editRequest (compiled : Option (DistinctPlan ScriptedRuntime)) :
    ActivationRequest ScriptedRuntime PlaybackSource Unit where
  snapshot := ()
  revision := 1
  demandRoots := none
  resetReason := .planReplaced
  compiled := compiled
  previewPrepare := .ok ()
  newWorker := .ok ()
  createSource := fun _ => .ok PlaybackSource.ofVideo
  creates_fresh := fun _ _ created => Except.ok.inj created ▸ rfl
  workerIdle := .ok true
  workerClose := .ok ()

/-- One of two sources plays when the graph breaks; a repair fails for its
previews, and the graph breaks again. -/
def brokenEdit : List (BodyCommand ScriptedRuntime PlaybackSource Unit) :=
  [.activate (editRequest (some videoPair)), .play (some 2), .activate (editRequest none),
    .activate { editRequest (some videoPair) with previewPrepare := .error (.osError "") },
    .play none, .activate (editRequest none)]

/-- The repaired graph plays the one source again that was playing. -/
theorem auto_resume_of_brokenEdit :
    ∃ body, run EngineBody.recordedStep (EngineBody.initial, .standing) brokenEdit =
        some (body, .tornDown [2]) ∧
      (body.activate (editRequest (some videoPair))).1.sources.keys = [1, 2] ∧
      Plays body.sourceLedger (body.activate (editRequest (some videoPair))).1.sourceLedger
        (((body.activate (editRequest (some videoPair))).1.sources.filter (fun entry =>
          decide (entry.1 ∈ [2]))).entries.map Prod.snd) := by
  have runs : (run EngineBody.recordedStep (EngineBody.initial, .standing) brokenEdit).map
      (fun recorded => (recorded.2,
        decide ((recorded.1.activate (editRequest (some videoPair))).2 = .ok true))) =
      some (.tornDown [2], true) := by
    decide +kernel
  rcases Option.map_eq_some_iff.mp runs with ⟨⟨body, interruption⟩, reached, result⟩
  rcases Prod.mk.inj result with ⟨rfl, returned⟩
  have activated := of_decide_eq_true returned
  rcases (EngineBody.auto_resume reached).2 _ activated with ⟨⟨compiled, same, keys⟩, _, plays⟩
  cases same
  exact ⟨body, reached, keys, plays⟩

end Runtime
end Synesthesia
