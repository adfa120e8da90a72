import Synesthesia.Graph.ListedCompilation

namespace Synesthesia
namespace Graph

open Foundation Contracts Nodes Synesthesia.Runtime

/-!
# Connection queries

`connection_compatibilities` of `graph/compiler.py` validates a prospective
edge: the report with it is compared to the report without the occupant of its
input, by the identities of the diagnostics.  Reports of equal baselines are
kept between the candidates of a batch.  The identifier of a candidate is
`uuid5` of its ends, which is a parameter here.
-/

variable {ρ : Type}

/-- The ends of a prospective edge. -/
structure Endpoint where
  sourceNodeId : UUID
  sourcePortId : String
  destinationNodeId : UUID
  destinationPortId : String
deriving DecidableEq

namespace Endpoint

/-- The edge under an identifier. -/
def connection (endpoint : Endpoint) (id : UUID) : ConnectionModel :=
  ⟨id, endpoint.sourceNodeId, endpoint.sourcePortId, endpoint.destinationNodeId,
    endpoint.destinationPortId⟩

end Endpoint

/-- `ConnectionCompatibility`. -/
structure ConnectionCompatibility where
  accepted : Bool
  issues : List ValidationIssue

/-- The connections that the candidate leaves in place. -/
def retained (snapshot : GraphSnapshot) (endpoint : Endpoint) : List ConnectionModel :=
  snapshot.connections.filter (fun connection =>
    !decide (connection.destinationNodeId = endpoint.destinationNodeId ∧
      connection.destinationPortId = endpoint.destinationPortId))

/-- The snapshot with other connections. -/
def GraphSnapshot.joinedBy (snapshot : GraphSnapshot) (connections : List ConnectionModel) :
    GraphSnapshot :=
  { snapshot with connections := connections }

/-- The report of `validate`. -/
def validate (registry : NodeRegistry ρ) (snapshot : GraphSnapshot) :
    Except PyError (List ValidationIssue) :=
  (validateSnapshot registry snapshot none).map Validated.issues

/-- The errors of a report that the baseline does not have. -/
def compatibilityWith (baseline : List IssueIdentity) (report : List ValidationIssue) :
    ConnectionCompatibility :=
  let newErrors := report.filter (fun issue => decide (issueIdentity issue ∉ baseline))
  ⟨decide (newErrors = []), newErrors⟩

/-- The results so far and `baseline_cache`. -/
structure QueryState where
  results : Dict Endpoint ConnectionCompatibility
  baselineCache : Dict (List ConnectionModel) (List IssueIdentity)

def QueryState.nothing : QueryState := ⟨Dict.empty, Dict.empty⟩

section Queries

variable (registry : NodeRegistry ρ) (queryId : UUID → Endpoint → UUID) (snapshot : GraphSnapshot)

/-- The identities of a baseline: those in the cache, or those of a report that
the cache then has. -/
def baselineIdentities (cache : Dict (List ConnectionModel) (List IssueIdentity))
    (connections : List ConnectionModel) :
    Except PyError (List IssueIdentity × Dict (List ConnectionModel) (List IssueIdentity)) :=
  match cache.get? connections with
  | some identities => .ok (identities, cache)
  | none => do
      let report ← validate registry (snapshot.joinedBy connections)
      let identities := report.map issueIdentity
      return (identities, cache.insert connections identities)

/-- The snapshot with the candidate in place of the occupant of its input. -/
def prospective (endpoint : Endpoint) : GraphSnapshot :=
  snapshot.joinedBy (retained snapshot endpoint ++
    [endpoint.connection (queryId snapshot.documentId endpoint)])

/-- One round of the loop of `connection_compatibilities`. -/
def queryEndpoint (state : QueryState) (endpoint : Endpoint) : Except PyError QueryState := do
  let (baseline, cache) ←
    baselineIdentities registry snapshot state.baselineCache (retained snapshot endpoint)
  let report ← validate registry (prospective queryId snapshot endpoint)
  return ⟨state.results.insert endpoint (compatibilityWith baseline report), cache⟩

def connectionCompatibilities (candidates : List Endpoint) :
    Except PyError (Dict Endpoint ConnectionCompatibility) :=
  (candidates.foldlM (queryEndpoint registry queryId snapshot) QueryState.nothing).map
    QueryState.results

/-- The result of a candidate, as it is looked up. -/
def resultAt (results : Dict Endpoint ConnectionCompatibility) (endpoint : Endpoint) :
    Except PyError ConnectionCompatibility :=
  match results.get? endpoint with
  | none => .error (.keyError endpoint.sourcePortId)
  | some compatibility => .ok compatibility

/-- `connection_compatibility`: the batch of one candidate. -/
def connectionCompatibility (endpoint : Endpoint) : Except PyError ConnectionCompatibility := do
  let results ← connectionCompatibilities registry queryId snapshot [endpoint]
  resultAt results endpoint

/-! ## One candidate -/

/-- What a query finds without the cache. -/
def comparison (endpoint : Endpoint) : Except PyError ConnectionCompatibility := do
  let base ← validate registry (snapshot.joinedBy (retained snapshot endpoint))
  let report ← validate registry (prospective queryId snapshot endpoint)
  return compatibilityWith (base.map issueIdentity) report

end Queries

section Batches

variable {registry : NodeRegistry ρ} {queryId : UUID → Endpoint → UUID} {snapshot : GraphSnapshot}

/-- The cache has the identities of the baselines. -/
def CacheSound (registry : NodeRegistry ρ) (snapshot : GraphSnapshot)
    (cache : Dict (List ConnectionModel) (List IssueIdentity)) : Prop :=
  ∀ connections identities, cache.get? connections = some identities →
    ∃ report, validate registry (snapshot.joinedBy connections) = .ok report ∧
      identities = report.map issueIdentity

theorem cacheSound_nothing : CacheSound registry snapshot QueryState.nothing.baselineCache := by
  intro connections identities impossible
  cases impossible

/-- A baseline is that of a new report, whether it was in the cache or not. -/
theorem baselineIdentities_sound {cache : Dict (List ConnectionModel) (List IssueIdentity)}
    (sound : CacheSound registry snapshot cache) (connections : List ConnectionModel) :
    (∃ error, validate registry (snapshot.joinedBy connections) = .error error ∧
      baselineIdentities registry snapshot cache connections = .error error) ∨
    ∃ report next, validate registry (snapshot.joinedBy connections) = .ok report ∧
      baselineIdentities registry snapshot cache connections =
        .ok (report.map issueIdentity, next) ∧ CacheSound registry snapshot next := by
  rw [baselineIdentities]
  cases cached : cache.get? connections with
  | some identities =>
      rcases sound connections identities cached with ⟨report, validated, rfl⟩
      exact Or.inr ⟨report, cache, validated, rfl, sound⟩
  | none =>
      cases validated : validate registry (snapshot.joinedBy connections) with
      | error error => exact Or.inl ⟨error, rfl, rfl⟩
      | ok report =>
          refine Or.inr ⟨report, _, rfl, rfl, ?_⟩
          intro others identities found
          rw [Dict.get?_insert] at found
          split_ifs at found with same
          · subst same
            exact ⟨report, validated, (Option.some.inj found).symm⟩
          · exact sound others identities found

/-- One round records what the comparison finds, or raises with it. -/
theorem queryEndpoint_sound (queryId : UUID → Endpoint → UUID) {state : QueryState}
    (sound : CacheSound registry snapshot state.baselineCache) (endpoint : Endpoint) :
    (∃ error, comparison registry queryId snapshot endpoint = .error error ∧
      queryEndpoint registry queryId snapshot state endpoint = .error error) ∨
    ∃ compatibility next, comparison registry queryId snapshot endpoint = .ok compatibility ∧
      queryEndpoint registry queryId snapshot state endpoint = .ok next ∧
      next.results = state.results.insert endpoint compatibility ∧
      CacheSound registry snapshot next.baselineCache := by
  rw [comparison, queryEndpoint]
  rcases baselineIdentities_sound sound (retained snapshot endpoint) with
    ⟨error, base, raised⟩ | ⟨report, cache, base, found, next⟩
  · rw [base, raised]
    exact Or.inl ⟨error, rfl, rfl⟩
  · rw [base, found]
    cases validated : validate registry (prospective queryId snapshot endpoint) with
    | error error => exact Or.inl ⟨error, rfl, rfl⟩
    | ok prospects => exact Or.inr ⟨_, _, rfl, rfl, rfl, next⟩

/-- A run over some candidates answers each of them as its own comparison does. -/
theorem queryEndpoint_run (queryId : UUID → Endpoint → UUID) (candidates : List Endpoint)
    {state : QueryState} (sound : CacheSound registry snapshot state.baselineCache) :
    (∃ endpoint ∈ candidates, ∃ error, comparison registry queryId snapshot endpoint =
        .error error ∧
      candidates.foldlM (queryEndpoint registry queryId snapshot) state = .error error) ∨
    ∃ final, candidates.foldlM (queryEndpoint registry queryId snapshot) state = .ok final ∧
      (∀ endpoint ∈ candidates, ∃ compatibility,
        comparison registry queryId snapshot endpoint = .ok compatibility ∧
          final.results.get? endpoint = some compatibility) ∧
      ∀ endpoint, endpoint ∉ candidates →
        final.results.get? endpoint = state.results.get? endpoint := by
  induction candidates generalizing state with
  | nil => exact Or.inr ⟨state, rfl, List.forall_mem_nil _, fun _ _ => rfl⟩
  | cons first rest ih =>
      rw [List.foldlM_cons]
      rcases queryEndpoint_sound queryId sound first with
        ⟨error, compared, raised⟩ | ⟨compatibility, next, compared, answered, recorded, cache⟩
      · rw [raised]
        exact Or.inl ⟨first, List.mem_cons_self, error, compared, rfl⟩
      · rw [answered]
        rcases ih cache with
          ⟨endpoint, member, error, otherCompared, raised⟩ | ⟨final, ran, answers, others⟩
        · exact Or.inl ⟨endpoint, List.mem_cons_of_mem _ member, error, otherCompared, raised⟩
        · refine Or.inr ⟨final, ran, ?_, ?_⟩
          · intro endpoint member
            by_cases again : endpoint ∈ rest
            · exact answers endpoint again
            · rcases List.mem_cons.mp member with rfl | inRest
              · refine ⟨compatibility, compared, ?_⟩
                rw [others endpoint again, recorded, Dict.get?_insert_self]
              · exact absurd inRest again
          · intro endpoint fresh
            rw [List.mem_cons, not_or] at fresh
            rw [others endpoint fresh.2, recorded, Dict.get?_insert_of_ne _ fresh.1]

/-- A batch that returns has exactly its candidates, each with the result of
its own comparison. -/
theorem connectionCompatibilities_sound {candidates : List Endpoint}
    {results : Dict Endpoint ConnectionCompatibility}
    (answered : connectionCompatibilities registry queryId snapshot candidates = .ok results)
    (endpoint : Endpoint) (compatibility : ConnectionCompatibility) :
    results.get? endpoint = some compatibility ↔
      endpoint ∈ candidates ∧
        comparison registry queryId snapshot endpoint = .ok compatibility := by
  rcases map_eq_ok.mp answered with ⟨final, ran, rfl⟩
  rcases queryEndpoint_run queryId candidates cacheSound_nothing with
    ⟨_, _, _, _, raised⟩ | ⟨other, sameRun, answers, others⟩
  · cases ran.symm.trans raised
  · cases ran.symm.trans sameRun
    constructor
    · intro found
      by_cases member : endpoint ∈ candidates
      · rcases answers endpoint member with ⟨own, compared, isOwn⟩
        rw [isOwn, Option.some.injEq] at found
        exact ⟨member, found ▸ compared⟩
      · rw [others endpoint member] at found
        cases found
    · rintro ⟨member, compared⟩
      rcases answers endpoint member with ⟨own, alsoCompared, isOwn⟩
      rw [isOwn, Except.ok.inj (alsoCompared.symm.trans compared)]

/-- The query for one candidate is its comparison. -/
theorem connectionCompatibility_eq (endpoint : Endpoint) :
    connectionCompatibility registry queryId snapshot endpoint =
      comparison registry queryId snapshot endpoint := by
  rw [connectionCompatibility, connectionCompatibilities]
  have sound : CacheSound registry snapshot QueryState.nothing.baselineCache := cacheSound_nothing
  rcases queryEndpoint_run queryId [endpoint] sound with
    ⟨other, member, error, compared, raised⟩ | ⟨final, ran, answers, _⟩
  · rw [List.mem_singleton.mp member] at compared
    rw [compared, raised]
    rfl
  · rcases answers endpoint (List.mem_singleton_self endpoint) with ⟨own, compared, isOwn⟩
    rw [ran, compared]
    change resultAt final.results endpoint = _
    rw [resultAt, isOwn]

/-! ## The edited document -/

/-- A document in which the candidate has taken its input: under an identifier
of its own, with all else as it was, in any order. -/
structure Connects (snapshot : GraphSnapshot) (endpoint : Endpoint) (newId : UUID)
    (edited : GraphSnapshot) : Prop where
  nodes : edited.nodes.Perm snapshot.nodes
  connections : edited.connections.Perm
    (endpoint.connection newId :: retained snapshot endpoint)
  ids : DistinctIds edited

theorem retained_subset (snapshot : GraphSnapshot) (endpoint : Endpoint) :
    retained snapshot endpoint ⊆ snapshot.connections :=
  List.filter_subset_self _

section Swap

variable {endpoint : Endpoint} {newId askedId : UUID}

/-- The two identifiers of the candidate name no connection that stays. -/
theorem renamed_retained
    (asked : askedId ∉ (retained snapshot endpoint).map ConnectionModel.id)
    (new : newId ∉ (retained snapshot endpoint).map ConnectionModel.id) :
    (retained snapshot endpoint).map (ConnectionModel.renamed (Equiv.swap askedId newId)) =
      retained snapshot endpoint := by
  have unchanged : ∀ connection ∈ retained snapshot endpoint,
      connection.renamed (Equiv.swap askedId newId) = connection := by
    intro connection member
    have listed := List.mem_map_of_mem (f := ConnectionModel.id) member
    have notAsked : connection.id ≠ askedId := fun same => asked (same ▸ listed)
    have notNew : connection.id ≠ newId := fun same => new (same ▸ listed)
    rw [ConnectionModel.renamed, Equiv.swap_apply_of_ne_of_ne notAsked notNew]
  exact (List.map_congr_left unchanged).trans (List.map_id _)

theorem renamed_connection :
    (endpoint.connection askedId).renamed (Equiv.swap askedId newId) =
      endpoint.connection newId := by
  rw [ConnectionModel.renamed, Endpoint.connection, Endpoint.connection, Equiv.swap_apply_left]

theorem identity_renamed_twice (identity : IssueIdentity) :
    (identity.renamed (Equiv.swap askedId newId)).renamed (Equiv.swap askedId newId) =
      identity := by
  cases identity with
  | mk code nodeId portId connectionId =>
      cases connectionId with
      | none => rfl
      | some connectionId =>
          rw [IssueIdentity.renamed, IssueIdentity.renamed, Option.map_some, Option.map_some,
            Equiv.swap_apply_self]

/-- The edited document is another listing of the one that the query asks for. -/
theorem Connects.relisted {edited : GraphSnapshot}
    (connects : Connects snapshot endpoint newId edited)
    (asked : askedId ∉ (retained snapshot endpoint).map ConnectionModel.id)
    (new : newId ∉ (retained snapshot endpoint).map ConnectionModel.id) :
    Relisted (Equiv.swap askedId newId)
      (snapshot.joinedBy (retained snapshot endpoint ++ [endpoint.connection askedId])) edited := by
  refine ⟨(Equiv.swap askedId newId).injective, connects.nodes, ?_⟩
  change edited.connections.Perm
    ((retained snapshot endpoint ++ [endpoint.connection askedId]).map _)
  rw [List.map_append, renamed_retained asked new, List.map_cons, List.map_nil, renamed_connection]
  exact connects.connections.trans (List.perm_append_singleton _ _).symm

/-- Exchanging the two identifiers is of no effect on the baseline. -/
theorem relisted_baseline
    (asked : askedId ∉ (retained snapshot endpoint).map ConnectionModel.id)
    (new : newId ∉ (retained snapshot endpoint).map ConnectionModel.id) :
    Relisted (Equiv.swap askedId newId) (snapshot.joinedBy (retained snapshot endpoint))
      (snapshot.joinedBy (retained snapshot endpoint)) := by
  refine ⟨(Equiv.swap askedId newId).injective, List.Perm.refl _, List.Perm.of_eq ?_⟩
  exact (renamed_retained asked new).symm

theorem distinctIds_retained (ids : DistinctIds snapshot) (endpoint : Endpoint) :
    DistinctIds (snapshot.joinedBy (retained snapshot endpoint)) :=
  ⟨ids.nodes, ids.connections.sublist (List.filter_sublist.map _)⟩

theorem distinctIds_prospective (ids : DistinctIds snapshot)
    (asked : askedId ∉ (retained snapshot endpoint).map ConnectionModel.id) :
    DistinctIds
      (snapshot.joinedBy (retained snapshot endpoint ++ [endpoint.connection askedId])) := by
  refine ⟨ids.nodes, ?_⟩
  change ((retained snapshot endpoint ++ [endpoint.connection askedId]).map
    ConnectionModel.id).Nodup
  rw [List.map_append, List.map_cons, List.map_nil]
  refine List.Nodup.append (distinctIds_retained ids endpoint).connections
    (List.nodup_singleton _) ?_
  intro connectionId inRetained isAsked
  rw [List.mem_singleton.mp isAsked] at inRetained
  exact asked inRetained

end Swap

theorem validate_relisted {rename : UUID → UUID} {other : GraphSnapshot}
    (relisted : Relisted rename snapshot other) (ids : DistinctIds snapshot) :
    AgreeBy (SameReport rename) (validate registry snapshot) (validate registry other) :=
  (validateSnapshot_relisted relisted ids none).map fun _ _ same => same.report

theorem accepted_iff {baseline : List IssueIdentity} {report : List ValidationIssue} :
    (compatibilityWith baseline report).accepted = true ↔
      ∀ issue ∈ report, issueIdentity issue ∈ baseline := by
  rw [compatibilityWith, decide_eq_true_eq, List.filter_eq_nil_iff]
  simp only [decide_eq_true_eq, not_not]

/-- A comparison tells of every edited document whether its report has an error
that the document without the occupant does not have. -/
theorem comparison_foretells (ids : DistinctIds snapshot) {endpoint : Endpoint}
    (fresh : queryId snapshot.documentId endpoint ∉ snapshot.connections.map ConnectionModel.id)
    {compatibility : ConnectionCompatibility}
    (compared : comparison registry queryId snapshot endpoint = .ok compatibility) {newId : UUID}
    {edited : GraphSnapshot} (connects : Connects snapshot endpoint newId edited) :
    ∃ base report,
      validate registry (snapshot.joinedBy (retained snapshot endpoint)) = .ok base ∧
      validate registry edited = .ok report ∧
      (compatibility.accepted = true ↔
        ∀ issue ∈ report, issueIdentity issue ∈ base.map issueIdentity) := by
  rcases bind_eq_ok.mp compared with ⟨base, baseValidated, compared⟩
  rcases bind_eq_ok.mp compared with ⟨prospects, prospectsValidated, returned⟩
  cases returned
  have asked : queryId snapshot.documentId endpoint ∉
      (retained snapshot endpoint).map ConnectionModel.id :=
    fun member => fresh (List.map_subset _ (retained_subset snapshot endpoint) member)
  have new : newId ∉ (retained snapshot endpoint).map ConnectionModel.id := by
    have distinct := (connects.connections.map ConnectionModel.id).nodup_iff.mp
      connects.ids.connections
    rw [List.map_cons, List.nodup_cons] at distinct
    exact distinct.1
  rcases (validate_relisted (connects.relisted asked new)
    (distinctIds_prospective ids asked)).exists_ok prospectsValidated with
    ⟨report, validated, same⟩
  have baseline : SameReport (Equiv.swap (queryId snapshot.documentId endpoint) newId) base base :=
    (validate_relisted (relisted_baseline asked new)
      (distinctIds_retained ids endpoint)).returns base base baseValidated baseValidated
  have closed : ∀ identity ∈ base.map issueIdentity,
      identity.renamed (Equiv.swap (queryId snapshot.documentId endpoint) newId) ∈
        base.map issueIdentity := by
    intro identity member
    rcases List.mem_map.mp member with ⟨issue, isIssue, rfl⟩
    exact (baseline _).mpr ⟨issue, isIssue, rfl⟩
  refine ⟨base, report, baseValidated, validated, accepted_iff.trans ?_⟩
  constructor
  · intro known issue member
    rcases (same _).mp (List.mem_map_of_mem member) with ⟨original, isOriginal, named⟩
    rw [← named]
    exact closed _ (known original isOriginal)
  · intro known original isOriginal
    rcases List.mem_map.mp ((same _).mpr ⟨original, isOriginal, rfl⟩) with ⟨issue, member, named⟩
    have back := closed _ (known issue member)
    rw [named, identity_renamed_twice] at back
    exact back

/-- A batch has a result for exactly its candidates, and each result tells of
every document that connects the candidate whether the connection adds an
error. -/
theorem connectionCompatibilities_foretell (ids : DistinctIds snapshot)
    {candidates : List Endpoint} (fresh : ∀ endpoint ∈ candidates,
      queryId snapshot.documentId endpoint ∉ snapshot.connections.map ConnectionModel.id)
    {results : Dict Endpoint ConnectionCompatibility}
    (answered : connectionCompatibilities registry queryId snapshot candidates = .ok results) :
    (∀ endpoint compatibility, results.get? endpoint = some compatibility ↔
      endpoint ∈ candidates ∧
        connectionCompatibility registry queryId snapshot endpoint = .ok compatibility) ∧
    ∀ endpoint compatibility, results.get? endpoint = some compatibility →
      ∀ newId edited, Connects snapshot endpoint newId edited → ∃ base report,
        validate registry (snapshot.joinedBy (retained snapshot endpoint)) = .ok base ∧
        validate registry edited = .ok report ∧
        (compatibility.accepted = true ↔
          ∀ issue ∈ report, issueIdentity issue ∈ base.map issueIdentity) := by
  refine ⟨?_, ?_⟩
  · intro endpoint compatibility
    rw [connectionCompatibility_eq]
    exact connectionCompatibilities_sound answered endpoint compatibility
  · intro endpoint compatibility found newId edited connects
    rcases (connectionCompatibilities_sound answered endpoint compatibility).mp found with
      ⟨member, compared⟩
    exact comparison_foretells ids (fresh endpoint member) compared connects

end Batches

/-! ### Levels to collect -/

/-- The levels before the connection is made. -/
def loneLevels : GraphSnapshot := collectedLevels.joinedBy []

/-- The first level is offered twice, the outdated one between. -/
def levelCandidates : List Endpoint :=
  [⟨1, "value", 2, "items"⟩, ⟨3, "value", 2, "items"⟩, ⟨1, "value", 2, "items"⟩]

theorem connectionCompatibilities_foretell_loneLevels :
    ∃ results, connectionCompatibilities levelRegistry (fun _ _ => 11) loneLevels
        levelCandidates = .ok results ∧
      ∀ endpoint compatibility, results.get? endpoint = some compatibility →
        ∀ newId edited, Connects loneLevels endpoint newId edited → ∃ base report,
          validate levelRegistry (loneLevels.joinedBy (retained loneLevels endpoint)) = .ok base ∧
          validate levelRegistry edited = .ok report ∧
          (compatibility.accepted = true ↔
            ∀ issue ∈ report, issueIdentity issue ∈ base.map issueIdentity) := by
  have returns : (connectionCompatibilities levelRegistry (fun _ _ => 11) loneLevels
      levelCandidates).isOk = true := by decide +kernel
  rcases exists_of_isOk returns with ⟨results, answered⟩
  have ids : DistinctIds loneLevels := ⟨by decide, List.nodup_nil⟩
  exact ⟨results, answered,
    (connectionCompatibilities_foretell ids (fun _ _ => List.not_mem_nil) answered).2⟩

end Graph
end Synesthesia
