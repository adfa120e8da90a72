import Synesthesia.Runtime.ActivationSteps
import Synesthesia.Runtime.RuntimeOwnership

namespace Synesthesia
namespace Runtime

open Foundation Contracts Nodes

/-!
# What the engine body owns

In every state that a body can reach, whatever raises, the runtimes, the sources
and the worker each have one owner, and the sources are those of the active
plan.
-/

variable {ρ σ γ : Type}

/-! ## Calls on sources -/

def IsCreation (event : LedgerEvent SourceUse) : Prop := ∃ source, event = .created source

section Calls

variable [SourceController σ] {ledger : SourceLedger σ} {use : SourceUse}

theorem tryCall_owns {owned : List Nat} {source : Nat}
    (owns : ledger.Owns owned) (member : source ∈ owned) : (tryCall use ledger source).Owns owned :=
  owns.use member

variable {after : SourceLedger σ} {sources reached : List Nat} {outcome : Except PyError Unit}

/-- The first call of several, and the others if it returns. -/
theorem callSources_cons {source : Nat} {rest : List Nat}
    (called : callSources use (source :: rest) ledger = (after, reached, outcome)) :
    ((callSource use ledger source).2 = .ok () ∧ ∃ others, reached = source :: others ∧
        callSources use rest (tryCall use ledger source) = (after, others, outcome)) ∨
      ((callSource use ledger source).2 = outcome ∧ outcome ≠ .ok () ∧ reached = [] ∧
        after = tryCall use ledger source) := by
  rw [callSources] at called
  rw [tryCall]
  rcases calling : callSource use ledger source with ⟨middle, first⟩
  rw [calling] at called
  cases first with
  | error error =>
      cases called
      exact Or.inr ⟨rfl, (fun same => by cases same), rfl, rfl⟩
  | ok done =>
      rcases onward : callSources use rest middle with ⟨final, others, later⟩
      dsimp only at called
      rw [onward] at called
      cases called
      exact Or.inl ⟨rfl, others, rfl, rfl⟩

/-- Calls that all return. -/
theorem callSources_ok (called : callSources use sources ledger = (after, reached, .ok ())) :
    reached = sources ∧ after = sources.foldl (tryCall use) ledger := by
  induction sources generalizing ledger reached with
  | nil =>
      cases called
      exact ⟨rfl, rfl⟩
  | cons source rest ih =>
      rcases callSources_cons called with ⟨_, others, rfl, onward⟩ | ⟨_, raised, _⟩
      · rcases ih onward with ⟨rfl, rfl⟩
        exact ⟨rfl, rfl⟩
      · exact absurd rfl raised

/-- Calls of which one raises: those before it returned. -/
theorem callSources_error {error : PyError}
    (called : callSources use sources ledger = (after, reached, .error error)) :
    ∃ source rest, sources = reached ++ source :: rest ∧
      after = (reached ++ [source]).foldl (tryCall use) ledger := by
  induction sources generalizing ledger reached with
  | nil => cases called
  | cons source rest ih =>
      rcases callSources_cons called with ⟨_, others, rfl, onward⟩ | ⟨_, _, rfl, rfl⟩
      · rcases ih onward with ⟨raiser, remaining, rfl, rfl⟩
        exact ⟨raiser, remaining, rfl, rfl⟩
      · exact ⟨source, rest, rfl, rfl⟩

/-- Either way the calls are a part of the list from its start. -/
theorem callSources_prefix (use : SourceUse) (sources : List Nat) (ledger : SourceLedger σ) :
    ∃ called, called <+: sources ∧
      (callSources use sources ledger).1 = called.foldl (tryCall use) ledger ∧
      (callSources use sources ledger).2.1 <+: called := by
  rcases calling : callSources use sources ledger with ⟨after, reached, outcome⟩
  cases outcome with
  | ok done =>
      rcases callSources_ok calling with ⟨rfl, rfl⟩
      exact ⟨reached, List.prefix_rfl, rfl, List.prefix_rfl⟩
  | error error =>
      rcases callSources_error calling with ⟨source, rest, rfl, rfl⟩
      refine ⟨reached ++ [source], ⟨rest, ?_⟩, rfl, List.prefix_append _ _⟩
      rw [List.append_assoc, List.singleton_append]

theorem callSources_owns {owned sources : List Nat}
    (owns : ledger.Owns owned) (each : ∀ source ∈ sources, source ∈ owned) :
    (callSources use sources ledger).1.Owns owned := by
  rcases callSources_prefix use sources ledger with ⟨called, isPrefix, same, _⟩
  rw [same]
  exact owns.foldl (fun source member _ before =>
    tryCall_owns before (each source (isPrefix.subset member)))

/-- A call on other sources is not seen. -/
theorem read_foldl_tryCall_of_not_mem {source : Nat} {sources : List Nat}
    (absent : source ∉ sources) :
    (sources.foldl (tryCall use) ledger).read source = ledger.read source := by
  induction sources generalizing ledger with
  | nil => rfl
  | cons other rest ih =>
      rw [List.mem_cons, not_or] at absent
      rw [List.foldl_cons, ih absent.2]
      exact Ledger.read_use_of_ne absent.1

/-- A source that is called once. -/
theorem read_foldl_tryCall_of_mem {source : Nat} {sources : List Nat}
    (distinct : sources.Nodup) (member : source ∈ sources) :
    (sources.foldl (tryCall use) ledger).read source =
      (ledger.read source).map (fun object => (use.perform object).1) := by
  induction sources generalizing ledger with
  | nil => cases member
  | cons other rest ih =>
      rw [List.nodup_cons] at distinct
      rw [List.foldl_cons]
      by_cases same : source = other
      · subst same
        rw [read_foldl_tryCall_of_not_mem distinct.1]
        exact Ledger.read_use_self _ _ _ _
      · have later : source ∈ rest := (List.mem_cons.mp member).resolve_left same
        rw [ih distinct.2 later]
        exact congrArg _ (Ledger.read_use_of_ne same)

theorem read_foldl_closeSource_of_not_mem {source : Nat} {sources : List Nat}
    (absent : source ∉ sources) :
    (sources.foldl closeSource ledger).read source = ledger.read source := by
  induction sources generalizing ledger with
  | nil => rfl
  | cons other rest ih =>
      rw [List.mem_cons, not_or] at absent
      rw [List.foldl_cons, ih absent.2]
      exact Ledger.read_close_of_ne absent.1

end Calls

namespace EngineBody

/-! ## The sources of a candidate -/

section Candidates

/-- What has been built of a candidate's sources. -/
structure Built (current : Dict UUID Nat) (reusable : List UUID)
    (createSource : CompiledNode ρ → Except PyError σ) (held : List Nat)
    (before : SourceLedger σ) (sources : Dict UUID Nat) (after : SourceLedger σ) : Prop where
  kept : ∀ id ∈ reusable, ∀ source, sources.get? id = some source → current.get? id = some source
  owns : after.Owns (replaceable sources reusable ++ held)
  adds : before.Adds IsCreation after
  reads : ∀ source object, before.read source = some object → after.read source = some object
  created : ∀ id ∉ reusable, ∀ source, sources.get? id = some source →
    ∃ node object, createSource node = .ok object ∧ after.read source = some object

variable {current : Dict UUID Nat} {reusable : List UUID}
  {createSource : CompiledNode ρ → Except PyError σ} {held : List Nat}
  {before after : SourceLedger σ} {sources : Dict UUID Nat}

theorem replaceable_insert_kept {id : UUID} (source : Nat) (isReusable : id ∈ reusable)
    (new : id ∉ sources.keys) :
    replaceable (sources.insert id source) reusable = replaceable sources reusable := by
  have inserted : (sources.insert id source).entries = sources.entries ++ [(id, source)] :=
    Dict.assign_of_not_mem source new
  simp [replaceable, Dict.filter, inserted, isReusable]

theorem replaceable_insert_new {id : UUID} (source : Nat) (notReusable : id ∉ reusable)
    (new : id ∉ sources.keys) :
    replaceable (sources.insert id source) reusable = replaceable sources reusable ++ [source] := by
  have inserted : (sources.insert id source).entries = sources.entries ++ [(id, source)] :=
    Dict.assign_of_not_mem source new
  simp [replaceable, Dict.filter, inserted, notReusable]

/-- Keep one more source. -/
theorem Built.keep (built : Built current reusable createSource held before sources after)
    {id : UUID} {existing : Nat} (new : id ∉ sources.keys) (isReusable : id ∈ reusable)
    (isCurrent : current.get? id = some existing) :
    Built current reusable createSource held before (sources.insert id existing) after := by
  refine ⟨?_, ?_, built.adds, built.reads, ?_⟩
  · intro other isKept source found
    by_cases same : other = id
    · rw [same, Dict.get?_insert_self] at found
      rw [same, isCurrent, found]
    · rw [Dict.get?_insert_of_ne existing same] at found
      exact built.kept other isKept source found
  · rw [replaceable_insert_kept existing isReusable new]
    exact built.owns
  · intro other notReusable source found
    have different : other ≠ id := fun same => notReusable (same ▸ isReusable)
    rw [Dict.get?_insert_of_ne existing different] at found
    exact built.created other notReusable source found

/-- Create one more source. -/
theorem Built.create (built : Built current reusable createSource held before sources after)
    {node : CompiledNode ρ} {object : σ} (new : node.nodeId ∉ sources.keys)
    (notReusable : node.nodeId ∉ reusable) (creates : createSource node = .ok object) :
    Built current reusable createSource held before
      (sources.insert node.nodeId (after.allocate object).2) (after.allocate object).1 := by
  refine ⟨?_, ?_, ?_, ?_, ?_⟩
  · intro other isKept source found
    have different : other ≠ node.nodeId := fun same => notReusable (same ▸ isKept)
    rw [Dict.get?_insert_of_ne _ different] at found
    exact built.kept other isKept source found
  · rw [replaceable_insert_new _ notReusable new, List.append_assoc]
    exact (built.owns.allocate object).perm List.perm_middle.symm
  · exact built.adds.trans (Ledger.Adds.single rfl ⟨_, rfl⟩)
  · exact fun source old found => Ledger.read_allocate object (built.reads source old found)
  · intro other otherNew source found
    by_cases same : other = node.nodeId
    · rw [same, Dict.get?_insert_self, Option.some.injEq] at found
      exact ⟨node, object, creates, found ▸ Ledger.read_allocate_self after object⟩
    · rw [Dict.get?_insert_of_ne _ same] at found
      rcases built.created other otherNew source found with ⟨origin, made, creates', found'⟩
      exact ⟨origin, made, creates', Ledger.read_allocate object found'⟩

theorem buildSources_spec {nodes : List (CompiledNode ρ)}
    (distinct : (nodes.map CompiledNode.nodeId).Nodup)
    (known : ∀ node ∈ nodes, node.nodeId ∈ reusable → (current.get? node.nodeId).isSome = true) :
    ∀ {ledger after : SourceLedger σ} {sources final : Dict UUID Nat}
      {outcome : Except PyError Unit},
      buildSources current reusable createSource nodes ledger sources = (after, final, outcome) →
      (∀ node ∈ nodes, node.nodeId ∉ sources.keys) →
      Built current reusable createSource held before sources ledger →
      Built current reusable createSource held before final after ∧
        (outcome = .ok () → final.keys = sources.keys ++ nodes.map CompiledNode.nodeId) := by
  induction nodes with
  | nil =>
      intro ledger after sources final outcome building _ built
      cases building
      exact ⟨built, fun _ => (List.append_nil _).symm⟩
  | cons node nodes ih =>
      intro ledger after sources final outcome building new built
      rw [List.map_cons, List.nodup_cons] at distinct
      have newNode := new node List.mem_cons_self
      have newRest : ∀ source : Nat, ∀ other ∈ nodes,
          other.nodeId ∉ (sources.insert node.nodeId source).keys := by
        intro source other member
        rw [Dict.mem_keys_insert, not_or]
        exact ⟨fun same => distinct.1 (same ▸ List.mem_map.mpr ⟨other, member, rfl⟩),
          new other (List.mem_cons_of_mem _ member)⟩
      have keys : ∀ source : Nat, (sources.insert node.nodeId source).keys ++
          nodes.map CompiledNode.nodeId = sources.keys ++
            (node :: nodes).map CompiledNode.nodeId := by
        intro source
        have inserted : (sources.insert node.nodeId source).entries =
            sources.entries ++ [(node.nodeId, source)] := Dict.assign_of_not_mem source newNode
        simp [Dict.keys, inserted]
      have knownRest : ∀ other ∈ nodes, other.nodeId ∈ reusable →
          (current.get? other.nodeId).isSome = true :=
        fun other member => known other (List.mem_cons_of_mem _ member)
      rw [buildSources] at building
      by_cases isReusable : node.nodeId ∈ reusable
      · rcases Option.isSome_iff_exists.mp (known node List.mem_cons_self isReusable)
          with ⟨existing, isCurrent⟩
        rw [keptSource, if_pos isReusable, isCurrent] at building
        have result := ih distinct.2 knownRest building (newRest existing)
          (built.keep newNode isReusable isCurrent)
        exact ⟨result.1, fun returned => (result.2 returned).trans (keys existing)⟩
      · rw [keptSource, if_neg isReusable] at building
        cases creates : createSource node with
        | error error =>
            rw [creates] at building
            cases building
            exact ⟨built, fun impossible => by cases impossible⟩
        | ok object =>
            rw [creates] at building
            have result := ih distinct.2 knownRest building (newRest _)
              (built.create newNode isReusable creates)
            exact ⟨result.1, fun returned => (result.2 returned).trans (keys _)⟩

theorem Built.start (owns : before.Owns held) :
    Built current reusable createSource held before Dict.empty before :=
  ⟨fun _ _ _ impossible => absurd impossible (Option.some_ne_none _).symm, owns,
    Ledger.Adds.refl before, fun _ _ found => found,
    fun _ _ _ impossible => absurd impossible (Option.some_ne_none _).symm⟩

/-- Giving up the candidate leaves what was held before. -/
theorem disposeCandidateSources_owns [SourceController σ] {later : SourceLedger σ}
    (owns : later.Owns (replaceable sources reusable ++ held)) :
    (disposeCandidateSources later sources reusable).Owns held :=
  owns.closeAll (fun _ _ _ => Ledger.Owns.close)

end Candidates

/-! ## The invariant -/

/-- The identifiers of the sources of the active plan. -/
def activeSourceIds (body : EngineBody ρ σ γ) : List UUID :=
  (body.facade.plan.map (fun plan => (sourceNodes plan).map CompiledNode.nodeId)).getD []

/-- Runtimes, sources and worker have their owners, and there is a source for
every source node of the active plan. -/
structure Sound (body : EngineBody ρ σ γ) : Prop where
  runtimes : body.facade.Owned
  sources : body.sourceLedger.Owns body.heldSources
  workers : body.workerLedger.Owns body.worker.toList
  keys : body.sources.keys = body.activeSourceIds

variable [NodeRuntime ρ] [SourceController σ]

omit [SourceController σ] in
theorem sound_initial : (initial : EngineBody ρ σ γ).Sound :=
  ⟨EngineFacade.owned_initial, Ledger.owns_empty, Ledger.owns_empty, rfl⟩

variable {plan : ExecutionPlan ρ}

omit [NodeRuntime ρ] [SourceController σ] in
/-- The identifiers of a plan's sources are distinct. -/
theorem nodup_sourceNodes (distinct : (plan.nodes.map CompiledNode.nodeId).Nodup) :
    ((sourceNodes plan).map CompiledNode.nodeId).Nodup :=
  distinct.sublist (List.filter_sublist.map _)

omit [NodeRuntime ρ] [SourceController σ] in
/-- A reusable source is a source of the active plan. -/
theorem mem_reusableSourceIds {oldPlan : Option (ExecutionPlan ρ)} {newPlan : ExecutionPlan ρ}
    {resetReason : ResetReason} {id : UUID}
    (member : id ∈ reusableSourceIds oldPlan newPlan resetReason) :
    id ∈ (oldPlan.map (fun plan => (sourceNodes plan).map CompiledNode.nodeId)).getD [] ∧
      id ∈ (sourceNodes newPlan).map CompiledNode.nodeId := by
  cases oldPlan with
  | none => cases member
  | some oldPlan =>
      rw [reusableSourceIds] at member
      split_ifs at member with other
      · cases member
      · rcases List.mem_map.mp member with ⟨node, isKept, rfl⟩
        rcases List.mem_filter.mp isKept with ⟨isNode, found⟩
        refine ⟨?_, List.mem_map.mpr ⟨node, isNode, rfl⟩⟩
        split at found
        · cases found
        · rename_i old isOld
          have same := of_decide_eq_true
            (List.find?_some (p := fun old : CompiledNode ρ => decide (old.nodeId = node.nodeId))
              isOld)
          exact List.mem_map.mpr ⟨old, List.mem_of_find?_eq_some isOld, same⟩

/-! ## Parts of an activation -/

/-- What is given when the sources of a candidate are built: its runtimes are
prepared and there is a worker. -/
structure Prepared (body : EngineBody ρ σ γ) (index : Nat) (plan : ExecutionPlan ρ) (worker : Nat)
    (created : Option Nat) : Prop where
  runtimes : body.facade.Owned
  sources : body.sourceLedger.Owns body.heldSources
  workers : body.workerLedger.Owns [worker]
  staff : created = none ∧ body.worker = some worker ∨ created = some worker ∧ body.worker = none
  keys : body.sources.keys = body.activeSourceIds
  distinct : (plan.nodes.map CompiledNode.nodeId).Nodup
  candidate : ∃ candidate, body.facade.candidates[index]? = some candidate ∧
    candidate.plan = some plan ∧
    (body.facade.scheduler = none → ∀ scheduler, candidate.scheduler = some scheduler →
      scheduler.borrowedRuntimeIds = [])

variable {body : EngineBody ρ σ γ} {created : Option Nat} {outcome : Except PyError Unit}

variable {worker : Nat}

omit [NodeRuntime ρ] in
/-- The sources that are built for the plan. -/
theorem Prepared.building {index : Nat}
    (prepared : Prepared body index plan worker created)
    {request : ActivationRequest ρ σ γ} {after : SourceLedger σ} {sources : Dict UUID Nat}
    (builds : buildSources body.sources
      (reusableSourceIds body.facade.plan plan request.resetReason) request.createSource
      (sourceNodes plan) body.sourceLedger Dict.empty = (after, sources, outcome)) :
    Built body.sources (reusableSourceIds body.facade.plan plan request.resetReason)
        request.createSource body.heldSources body.sourceLedger sources after ∧
      (outcome = .ok () → sources.keys = (sourceNodes plan).map CompiledNode.nodeId) := by
  have known : ∀ node ∈ sourceNodes plan,
      node.nodeId ∈ reusableSourceIds body.facade.plan plan request.resetReason →
        (body.sources.get? node.nodeId).isSome = true := by
    intro node _ isReusable
    rw [Dict.get?_isSome, prepared.keys]
    exact (mem_reusableSourceIds isReusable).1
  exact buildSources_spec (nodup_sourceNodes prepared.distinct) known builds
    (fun _ _ => List.not_mem_nil) (Built.start prepared.sources)

omit [NodeRuntime ρ] [SourceController σ] in
/-- The facade alone has changed, and not its plan. -/
theorem Sound.withFacade (sound : body.Sound) {facade : EngineFacade ρ}
    (owned : facade.Owned) (plan : facade.plan = body.facade.plan) :
    { body with facade := facade }.Sound := by
  refine ⟨owned, sound.sources, sound.workers, ?_⟩
  rw [activeSourceIds, plan]
  exact sound.keys

/-- What is active is left alone until a candidate is committed. -/
theorem prepare_active {facade prepared : EngineFacade ρ} {compiled : Option (DistinctPlan ρ)}
    {resetReason : ResetReason}
    (prepares : facade.prepare compiled resetReason = (prepared, outcome)) :
    prepared.plan = facade.plan ∧ prepared.scheduler = facade.scheduler := by
  cases compiled with
  | none =>
      cases prepares
      exact ⟨rfl, rfl⟩
  | some compiled =>
      rw [EngineFacade.prepare] at prepares
      rcases building : SharingScheduler.prepareReplacement compiled.plan facade.scheduler
        (decide (resetReason = .planReplaced)) facade.ledger with ⟨ledger, built⟩
      rw [building] at prepares
      cases built <;> cases prepares <;> exact ⟨rfl, rfl⟩

theorem closeCandidate_active (facade : EngineFacade ρ) (index : Nat)
    (candidate : PreparedEngineActivation ρ) :
    (facade.closeCandidate index candidate).plan = facade.plan ∧
      (facade.closeCandidate index candidate).scheduler = facade.scheduler := by
  rw [EngineFacade.closeCandidate]
  split <;> exact ⟨rfl, rfl⟩

omit [SourceController σ] in
theorem Sound.discard (sound : body.Sound) (index : Nat) :
    (body.discard index).Sound := by
  rw [EngineBody.discard]
  cases found : body.facade.candidates[index]? with
  | none => exact sound
  | some candidate =>
      exact sound.withFacade (sound.runtimes.closeCandidate found)
        (closeCandidate_active _ index candidate).1

/-- The calls on the way to the boundary keep all owners. -/
theorem reachBoundary_spec (body : EngineBody ρ σ γ) {request : ActivationRequest ρ σ γ}
    {index : Nat} {owned : List Nat}
    (owns : body.sourceLedger.Owns owned) (within : ∀ source ∈ body.heldSources, source ∈ owned)
    (runtimes : body.facade.Owned)
    (candidate : ∃ candidate, body.facade.candidates[index]? = some candidate ∧
      candidate.plan = some plan ∧
      (body.facade.scheduler = none → ∀ scheduler, candidate.scheduler = some scheduler →
        scheduler.borrowedRuntimeIds = []))
    {reached : EngineBody ρ σ γ} {paused : List Nat}
    (boundary : body.reachBoundary request index = (reached, paused, outcome)) :
    reached.sourceLedger.Owns owned ∧ reached.workerLedger = body.workerLedger ∧
      (∀ source ∈ paused, source ∈ body.heldSources) ∧
      match outcome with
      | .error _ => reached.facade = body.facade
      | .ok () => reached.facade.Owned ∧ reached.facade.plan = some plan := by
  rcases callSources_prefix .pause (body.heldSources.filter (isPlaying body.sourceLedger))
    body.sourceLedger with ⟨called, isPrefix, _, pausedPrefix⟩
  have pausing : ∀ source ∈ body.heldSources.filter (isPlaying body.sourceLedger),
      source ∈ owned := fun source member => within source (List.mem_filter.mp member).1
  have calling : (callSources .pause (body.heldSources.filter (isPlaying body.sourceLedger))
      body.sourceLedger).1.Owns owned := callSources_owns owns pausing
  have pausedHeld : ∀ source ∈ (callSources .pause
      (body.heldSources.filter (isPlaying body.sourceLedger)) body.sourceLedger).2.1,
      source ∈ body.heldSources := fun source member =>
    (List.mem_filter.mp (isPrefix.subset (pausedPrefix.subset member))).1
  have reaches := body.reachBoundary_cases request index
  rw [boundary] at reaches
  cases reaches with
  | unpaused calls =>
      rw [calls] at calling pausedHeld
      exact ⟨calling, rfl, pausedHeld, rfl⟩
  | restless calls _ _ =>
      rw [calls] at calling pausedHeld
      exact ⟨calling, rfl, pausedHeld, rfl⟩
  | rested calls _ commits =>
      rw [calls] at calling pausedHeld
      refine ⟨calling, rfl, pausedHeld, ?_⟩
      rcases candidate with ⟨candidate, found, isPlan, unborrowed⟩
      rw [commitCandidate, found] at commits
      cases outcome with
      | error error => exact EngineFacade.commit_raised commits
      | ok done =>
          have committed := runtimes.commit found request.resetReason
            (fun inactive _ scheduler isAvailable =>
              unborrowed inactive scheduler (EngineFacade.available_scheduler isAvailable))
          rw [show body.facade.commit index candidate request.resetReason = _ from commits]
            at committed
          exact ⟨committed, (EngineFacade.commit_plan commits).trans isPlan⟩

/-- Giving up a candidate leaves the body sound. -/
theorem Prepared.rollBack {index : Nat}
    (prepared : Prepared body index plan worker created)
    {ledger : SourceLedger σ} {sources : Dict UUID Nat} {reusable : List UUID}
    (owns : ledger.Owns (replaceable sources reusable ++ body.heldSources))
    (request : ActivationRequest ρ σ γ) (error : PyError) :
    ({ body with sourceLedger := ledger }.rollBack request index created sources reusable
      error).1.Sound := by
  have disposed := disposeCandidateSources_owns owns
  rw [rollBack.eq_def]
  rcases prepared.staff with ⟨rfl, present⟩ | ⟨rfl, absent⟩
  · have sound : ({ body with
        sourceLedger := disposeCandidateSources ledger sources reusable }).Sound := by
      refine ⟨prepared.runtimes, disposed, ?_, prepared.keys⟩
      rw [present]
      exact prepared.workers
    exact sound.discard index
  · have closed : (body.workerLedger.close id worker).Owns [] := prepared.workers.close
    have sound : ({ body with
        sourceLedger := disposeCandidateSources ledger sources reusable
        workerLedger := body.workerLedger.close id worker }).Sound := by
      refine ⟨prepared.runtimes, disposed, ?_, prepared.keys⟩
      rw [absent]
      exact closed
    cases request.workerClose with
    | error closing => exact sound
    | ok done => exact sound.discard index

omit [NodeRuntime ρ] in
/-- The sources that a swap closes, and those that it keeps. -/
theorem Built.swap_owners {reusable : List UUID}
    {createSource : CompiledNode ρ → Except PyError σ} {before after later : SourceLedger σ}
    {sources : Dict UUID Nat}
    (built : Built body.sources reusable createSource body.heldSources before sources after)
    (present : ∀ id ∈ reusable, id ∈ sources.keys)
    (owns : later.Owns (replaceable sources reusable ++ body.heldSources)) :
    (disposeCandidateSources later body.sources reusable).Owns
      (sources.entries.map Prod.snd) := by
  have agree : ∀ id ∈ reusable, body.sources.get? id = sources.get? id := by
    intro id isReusable
    rcases Option.isSome_iff_exists.mp ((Dict.get?_isSome sources id).mpr (present id isReusable))
      with ⟨source, found⟩
    rw [found, built.kept id isReusable source found]
  have old := body.sources.values_split reusable
  have new := sources.values_split reusable
  refine disposeCandidateSources_owns (owns.perm ?_)
  -- what the candidate made is new, what it kept is held already
  refine ((old.append_left _).trans ?_).trans (new.symm.append_left _)
  refine (List.perm_append_comm_assoc _ _ _).trans (List.Perm.append_left _ ?_)
  exact (Dict.values_at_perm agree).append_left _

theorem continuePlaying_owns {ledger : SourceLedger σ} {sources : Dict UUID Nat}
    {playing reusable : List UUID} {owned : List Nat} (owns : ledger.Owns owned)
    (within : ∀ source ∈ sources.entries.map Prod.snd, source ∈ owned) :
    (continuePlaying ledger sources playing reusable).Owns owned :=
  owns.foldl (fun entry member _ before => tryCall_owns before
    (within entry.2 (List.mem_map.mpr ⟨entry, (List.mem_filter.mp member).1, rfl⟩)))

theorem replayInterrupted_owns {ledger : SourceLedger σ} {sources : Dict UUID Nat}
    {interrupted : List UUID} {owned : List Nat} (owns : ledger.Owns owned)
    (within : ∀ source ∈ sources.entries.map Prod.snd, source ∈ owned) :
    (replayInterrupted ledger sources interrupted).Owns owned := by
  refine owns.foldl (fun source member _ before => tryCall_owns before (within source ?_))
  rcases List.mem_map.mp member with ⟨entry, isEntry, rfl⟩
  exact List.mem_map.mpr ⟨entry, (List.mem_filter.mp isEntry).1, rfl⟩

omit [NodeRuntime ρ] in
/-- The body after a swap. -/
theorem swap_sound {request : ActivationRequest ρ σ γ}
    {sources : Dict UUID Nat} {reusable playing : List UUID}
    {hadPlan : Bool} (runtimes : body.facade.Owned) (active : body.facade.plan = some plan)
    (workers : body.workerLedger.Owns [worker])
    (keys : sources.keys = (sourceNodes plan).map CompiledNode.nodeId)
    (owns : (disposeCandidateSources body.sourceLedger body.sources reusable).Owns
      (sources.entries.map Prod.snd)) :
    (body.swap request worker sources reusable playing hadPlan).Sound := by
  have continued : (if body.state = .running then
      continuePlaying (disposeCandidateSources body.sourceLedger body.sources reusable) sources
        playing reusable
      else disposeCandidateSources body.sourceLedger body.sources reusable).Owns
        (sources.entries.map Prod.snd) := by
    split_ifs
    · exact continuePlaying_owns owns (fun _ member => member)
    · exact owns
  have matching : ∀ swapped : EngineBody ρ σ γ, swapped.facade = body.facade →
      swapped.sources = sources → swapped.sources.keys = swapped.activeSourceIds := by
    intro swapped sameFacade sameSources
    rw [sameSources, activeSourceIds, sameFacade, active]
    exact keys
  rw [EngineBody.swap]
  dsimp only
  by_cases nothing : body.interruptedPlayingSourceIds.isEmpty = true
  · rw [if_pos nothing]
    exact ⟨runtimes, continued, workers, matching _ rfl rfl⟩
  · rw [if_neg nothing]
    exact ⟨runtimes, replayInterrupted_owns continued (fun _ member => member), workers,
      matching _ rfl rfl⟩

/-- Whatever comes of a prepared activation, the body is sound. -/
theorem Plans.sound {request : ActivationRequest ρ σ γ} {index : Nat}
    {result : EngineBody ρ σ γ × Except PyError Bool}
    (plans : Plans body request index plan worker created result)
    (prepared : Prepared body index plan worker created) : result.1.Sound := by
  cases plans with
  | unbuilt builds => exact prepared.rollBack (prepared.building builds).1.owns request _
  | @unreached ledger sources reached paused error builds boundary =>
      have built := (prepared.building builds).1
      rcases reachBoundary_spec { body with sourceLedger := ledger } built.owns
        (fun _ => List.mem_append_right _) prepared.runtimes prepared.candidate boundary
        with ⟨owns, sameWorkers, pausedHeld, sameFacade⟩
      have fields := (reachBoundary_sameFields { body with sourceLedger := ledger } request index).1
      rw [boundary] at fields
      have sameReached : reached = { body with sourceLedger := reached.sourceLedger } := by
        cases reached
        cases fields
        simp_all
      rw [sameReached]
      refine prepared.rollBack (owns.foldl (fun source member _ before => ?_)) request error
      exact tryCall_owns before (List.mem_append_right _ (pausedHeld source member))
  | @swapped ledger sources reached paused builds boundary =>
      rcases prepared.building builds with ⟨built, keys⟩
      rcases reachBoundary_spec { body with sourceLedger := ledger } built.owns
        (fun _ => List.mem_append_right _) prepared.runtimes prepared.candidate boundary
        with ⟨owns, sameWorkers, _, runtimes, active⟩
      have fields := (reachBoundary_sameFields { body with sourceLedger := ledger } request index).1
      rw [boundary] at fields
      have present : ∀ id ∈ reusableSourceIds body.facade.plan plan request.resetReason,
          id ∈ sources.keys := by
        intro id isReusable
        rw [keys rfl]
        exact (mem_reusableSourceIds isReusable).2
      have swapped := built.swap_owners present owns
      refine swap_sound runtimes active (sameWorkers ▸ prepared.workers) (keys rfl) ?_
      rw [fields.sources]
      exact swapped

/-! ## The calls -/

theorem Sound.stopRuntimeWithoutSignal (sound : body.Sound) :
    body.stopRuntimeWithoutSignal.Sound := by
  have stopped : (body.heldSources.foldl (tryCall .stop) body.sourceLedger).Owns
      (body.heldSources ++ []) := by
    rw [List.append_nil]
    exact sound.sources.foldl (fun source member _ before => tryCall_owns before member)
  refine ⟨sound.runtimes.stop .planReplaced, ?_, ?_, ?_⟩
  · exact stopped.closeAll (fun _ _ _ => Ledger.Owns.close)
  · have workers := sound.workers
    rw [EngineBody.stopRuntimeWithoutSignal]
    cases isWorker : body.worker with
    | none =>
        rw [isWorker] at workers
        exact workers
    | some worker =>
        rw [isWorker] at workers
        exact workers.close
  · have noPlan : (body.facade.stop .planReplaced).1.plan = none := by
      rw [EngineFacade.stop]
      cases body.facade.scheduler <;> rfl
    rw [activeSourceIds]
    exact (congrArg (fun plan : Option (ExecutionPlan ρ) =>
      (plan.map (fun plan => (sourceNodes plan).map CompiledNode.nodeId)).getD []) noPlan).symm

omit [SourceController σ] in
/-- A preparation that returned, and a worker. -/
theorem Sound.prepared [SourceController σ] (sound : body.Sound)
    {request : ActivationRequest ρ σ γ} {facade : EngineFacade ρ} {compiled : DistinctPlan ρ}
    {workerLedger : WorkerLedger}
    (prepares : body.facade.prepare request.compiled request.resetReason = (facade, .ok ()))
    (source : request.compiled.filter (fun compiled => planHasSource compiled.plan) =
      some compiled)
    (employs : body.employ request = .ok (workerLedger, worker, created)) :
    Prepared { body with facade := facade, workerLedger := workerLedger }
      body.facade.candidates.length compiled.plan worker created := by
  have owned := sound.runtimes.prepare request.compiled request.resetReason
  rw [prepares] at owned
  rcases EngineFacade.prepare_handed sound.runtimes prepares with ⟨candidate, handed⟩
  have isCompiled : request.compiled = some compiled :=
    (Option.filter_eq_some_iff.mp source).1
  have staff : (created = none ∧ body.worker = some worker ∨
      created = some worker ∧ body.worker = none) ∧ workerLedger.Owns [worker] := by
    have workers := sound.workers
    rw [employ] at employs
    cases isWorker : body.worker with
    | some present =>
        rw [isWorker] at employs workers
        cases employs
        exact ⟨Or.inl ⟨rfl, rfl⟩, workers⟩
    | none =>
        rw [isWorker] at employs workers
        cases starts : request.newWorker with
        | error error =>
            rw [starts] at employs
            cases employs
        | ok done =>
            rw [starts] at employs
            cases employs
            exact ⟨Or.inr ⟨rfl, rfl⟩, workers.allocate ()⟩
  refine ⟨owned, sound.sources, staff.2, staff.1, ?_, compiled.distinct, candidate,
    handed.found, ?_,
    ?_⟩
  · rw [activeSourceIds, handed.plan]
    exact sound.keys
  · rw [handed.candidatePlan, isCompiled]
    rfl
  · intro inactive
    exact handed.unborrowed (handed.scheduler ▸ inactive)

theorem Sound.activate (sound : body.Sound)
    (request : ActivationRequest ρ σ γ) : (body.activate request).1.Sound := by
  have activates := body.activate_cases request
  have prepared : ∀ {facade : EngineFacade ρ} {outcome : Except PyError Unit},
      body.facade.prepare request.compiled request.resetReason = (facade, outcome) →
        ({ body with facade := facade }).Sound := by
    intro facade outcome prepares
    have owned := sound.runtimes.prepare request.compiled request.resetReason
    rw [prepares] at owned
    exact sound.withFacade owned (prepare_active prepares).1
  generalize body.activate request = result at activates
  cases activates with
  | closed _ => exact sound
  | unprepared _ prepares => exact prepared prepares
  | silent _ prepares _ => exact ((prepared prepares).discard _).stopRuntimeWithoutSignal
  | unpreviewed _ prepares _ _ => exact (prepared prepares).discard _
  | unemployed _ prepares _ _ _ => exact prepared prepares
  | planned _ prepares source _ employs plans =>
      exact plans.sound (sound.prepared prepares source employs)

omit [NodeRuntime ρ] in
/-- Calls on sources that the body holds. -/
theorem Sound.callSources (sound : body.Sound) (use : SourceUse)
    {sources : List Nat} (each : ∀ source ∈ sources, source ∈ body.heldSources) :
    ({ body with sourceLedger := (Runtime.callSources use sources body.sourceLedger).1 }).Sound :=
  ⟨sound.runtimes, callSources_owns sound.sources each, sound.workers, sound.keys⟩

omit [NodeRuntime ρ] [SourceController σ] in
theorem selectedSources_held {selection : Option UUID}
    {sources : List Nat} (selected : body.selectedSources selection = .ok sources) :
    ∀ source ∈ sources, source ∈ body.heldSources := by
  have held : ∀ id source, body.sources.get? id = some source → source ∈ body.heldSources :=
    fun _ _ found => List.mem_map.mpr ⟨_, Dict.mem_of_get? found, rfl⟩
  rw [selectedSources.eq_def] at selected
  split_ifs at selected
  cases selection with
  | none =>
      cases selected
      intro source member
      rcases List.mem_filterMap.mp member with ⟨id, _, found⟩
      exact held id source found
  | some id =>
      dsimp only at selected
      cases found : body.sources.get? id with
      | none =>
          rw [found] at selected
          cases selected
      | some source =>
          rw [found] at selected
          cases selected
          intro other member
          rw [List.mem_singleton.mp member]
          exact held id source found

omit [SourceController σ] in
theorem Sound.panicFacade (sound : body.Sound) :
    body.panicFacade.1.Sound := by
  refine sound.withFacade sound.runtimes.panic ?_
  cases body.facade.scheduler <;> rfl

omit [NodeRuntime ρ] in
theorem Sound.refreshTransportState (sound : body.Sound) :
    body.refreshTransportState.Sound :=
  ⟨sound.runtimes, sound.sources, sound.workers, sound.keys⟩

omit [NodeRuntime ρ] in
theorem Sound.onSources (sound : body.Sound) (use : SourceUse)
    (selection : Option UUID)
    {finish : EngineBody ρ σ γ → EngineBody ρ σ γ × Except PyError Unit}
    (finishes : ∀ body : EngineBody ρ σ γ, body.Sound → (finish body).1.Sound) :
    (body.onSources use selection finish).1.Sound := by
  rw [EngineBody.onSources]
  cases selected : body.selectedSources selection with
  | error error => exact sound
  | ok sources =>
      have called := sound.callSources use (selectedSources_held selected)
      dsimp only
      rcases calling : Runtime.callSources use sources body.sourceLedger
        with ⟨ledger, reached, outcome⟩
      rw [calling] at called
      cases outcome with
      | error error => exact called
      | ok done => exact finishes _ called

theorem Sound.panicAndRefresh (sound : body.Sound)
    (selection : Option UUID) : (EngineBody.panicAndRefresh selection body).1.Sound := by
  have panicked := sound.panicFacade
  rw [EngineBody.panicAndRefresh.eq_def]
  cases selection with
  | some id => exact sound.refreshTransportState
  | none =>
      rcases panicking : body.panicFacade with ⟨after, outcome⟩
      rw [panicking] at panicked
      cases outcome with
      | error error => exact panicked
      | ok done => exact Sound.refreshTransportState panicked

theorem Sound.close (sound : body.Sound) (rest : Except PyError Unit) :
    (body.close rest).1.Sound := by
  rw [EngineBody.close]
  split_ifs
  · exact sound
  · have sources : body.sourceLedger.Owns (body.heldSources ++ []) := by
      rw [List.append_nil]
      exact sound.sources
    refine ⟨sound.runtimes.close, sources.closeAll (fun _ _ _ => Ledger.Owns.close), ?_, rfl⟩
    have workers := sound.workers
    dsimp only
    cases isWorker : body.worker with
    | none =>
        rw [isWorker] at workers
        exact workers
    | some worker =>
        rw [isWorker] at workers
        exact workers.close

/-! ## Runs -/

/-- Every command keeps the body sound, whether it returns or raises. -/
theorem Sound.perform (sound : body.Sound)
    (command : BodyCommand ρ σ γ) : (body.perform command).1.Sound := by
  cases command with
  | activate request => exact sound.activate request
  | play selection =>
      exact sound.onSources .play selection (fun _ played => played.refreshTransportState)
  | pause selection =>
      refine sound.onSources .pause selection (fun after paused => ?_)
      have refreshed := paused.refreshTransportState
      dsimp only
      split_ifs
      · exact refreshed.panicFacade
      · exact refreshed
  | resume selection =>
      exact sound.onSources .resume selection (fun _ resumed => resumed.refreshTransportState)
  | stop selection =>
      exact sound.onSources .stop selection (fun _ stopped => stopped.panicAndRefresh selection)
  | reload selection =>
      exact sound.onSources .reload selection (fun _ loaded => loaded.panicAndRefresh selection)
  | seek sourceNodeId sourceTimeS =>
      exact sound.onSources (.seek sourceTimeS) (some sourceNodeId) (fun _ sought => sought)
  | panic =>
      change (EngineBody.panic body).1.Sound
      rw [EngineBody.panic]
      split_ifs
      · exact sound
      · exact sound.panicFacade
  | close rest => exact sound.close rest
  | tick context sourceValues =>
      refine sound.withFacade (sound.runtimes.tick context sourceValues) ?_
      rw [EngineFacade.tick]
      cases body.facade.scheduler <;> rfl
  | resetSource sourceNodeId reason =>
      refine sound.withFacade (sound.runtimes.resetSource sourceNodeId reason) ?_
      rw [EngineFacade.resetSource, EngineFacade.onScheduler]
      cases body.facade.scheduler <;> rfl
  | sourceMoves sourceNodeId object =>
      change (body.moveSource sourceNodeId object).Sound
      rw [moveSource]
      cases body.sources.get? sourceNodeId with
      | none => exact sound
      | some source =>
          exact ⟨sound.runtimes, sound.sources.congr rfl List.length_set, sound.workers,
            sound.keys⟩

theorem sound_of_run {commands : List (BodyCommand ρ σ γ)}
    (reached : run step initial commands = some body) : body.Sound := by
  have preserved : ∀ (body : EngineBody ρ σ γ) (command : BodyCommand ρ σ γ) next, body.Sound →
      True → body.step command = some next → next.Sound := by
    intro body command next sound _ stepped
    rw [step, Option.some.injEq] at stepped
    exact stepped ▸ sound.perform command
  exact run_invariant preserved sound_initial (meets_of_forall (fun _ _ => trivial) _ _) reached

end EngineBody
end Runtime
end Synesthesia
