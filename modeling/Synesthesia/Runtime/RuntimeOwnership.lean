import Synesthesia.Runtime.EngineFacade
import Synesthesia.Runtime.FailureContainment

namespace Synesthesia
namespace Runtime

open Foundation Contracts Nodes

/-!
# Who owns a runtime

Every runtime that was created and not closed is owned by the active scheduler
or by one pending candidate, whatever factories, resets and closes raise.  The
one call that can break this is a commit without an active scheduler: it does
not check what the candidate borrows.
-/

variable {ρ : Type}

/-! ## What a scheduler holds -/

namespace SharingScheduler

def held (scheduler : SharingScheduler ρ) : List Nat := scheduler.runtimes.entries.map Prod.snd

variable {id : UUID} {runtime : Nat}

theorem mem_held {scheduler : SharingScheduler ρ}
    (found : scheduler.runtimes.get? id = some runtime) : runtime ∈ scheduler.held :=
  List.mem_map.mpr ⟨_, Dict.mem_of_get? found, rfl⟩

/-- The borrowed references, in the order of the plan. -/
def claimed (borrowed : List UUID) (runtimes : Dict UUID Nat) : List Nat :=
  (runtimes.filter (fun entry => decide (entry.1 ∈ borrowed))).entries.map Prod.snd

theorem held_perm (scheduler : SharingScheduler ρ) :
    scheduler.held.Perm
      (scheduler.ownRuntimes ++ claimed scheduler.borrowedRuntimeIds scheduler.runtimes) :=
  scheduler.runtimes.values_split scheduler.borrowedRuntimeIds

/-! ## Reaching runtimes -/

theorem store_events (scheduler : SharingScheduler ρ) (ledger : RuntimeLedger ρ)
    (runtimes : Dict UUID ρ) :
    (scheduler.store ledger runtimes).events = ledger.events ∧
      (scheduler.store ledger runtimes).values.length = ledger.values.length := by
  rw [store]
  generalize scheduler.runtimes.entries = entries
  induction entries generalizing ledger with
  | nil => exact ⟨rfl, rfl⟩
  | cons entry rest ih =>
      rw [List.foldl_cons]
      cases runtimes.get? entry.1 with
      | none => exact ih ledger
      | some runtime =>
          rcases ih (ledger.write entry.2 runtime) with ⟨events, count⟩
          exact ⟨events, count.trans (List.length_set)⟩

variable {scheduler : SharingScheduler ρ} {ledger : RuntimeLedger ρ} {owned : List Nat}

/-- Using runtimes that the scheduler holds breaks no law. -/
theorem conclude_owns (owns : ledger.Owns owned) (within : ∀ runtime ∈ scheduler.held,
      runtime ∈ owned) (kind : RuntimeUse) (after : Scheduler ρ) (reached : List UUID) :
    (scheduler.conclude ledger kind after reached).1.Owns owned := by
  rcases scheduler.store_events ledger after.runtimes with ⟨events, count⟩
  refine (owns.congr events count).recordUses ?_
  intro runtime member
  rcases List.mem_filterMap.mp member with ⟨id, _, found⟩
  exact within runtime (mem_held found)

theorem conclude_extends (scheduler : SharingScheduler ρ) (ledger : RuntimeLedger ρ)
    (kind : RuntimeUse) (after : Scheduler ρ) (reached : List UUID) :
    (scheduler.conclude ledger kind after reached).1.Extends ledger := by
  have stored := (scheduler.store_events ledger after.runtimes).1
  rw [Ledger.Extends, ← stored]
  exact List.prefix_append _ _

/-! ## Disposal -/

variable [NodeRuntime ρ]

theorem disposeRuntime_owns (reason : Option ResetReason) {others : List Nat}
    (owns : ledger.Owns (runtime :: others)) :
    (disposeRuntime reason ledger runtime).Owns others := by
  cases reason with
  | none => exact owns.close
  | some reason => exact (owns.use List.mem_cons_self).close

variable {rest : List Nat}

theorem close_owns (reason : Option ResetReason)
    (owns : ledger.Owns (scheduler.held ++ rest)) : (scheduler.close ledger reason).Owns rest :=
  owns.closeAll (fun _ _ _ => disposeRuntime_owns reason)

theorem cancelPrepared_owns (owns : ledger.Owns (scheduler.ownRuntimes ++ rest)) :
    (scheduler.cancelPrepared ledger).Owns rest :=
  owns.closeAll (fun _ _ _ => Ledger.Owns.close)

theorem disposeRuntime_extends (reason : Option ResetReason) (ledger : RuntimeLedger ρ)
    (runtime : Nat) : (disposeRuntime reason ledger runtime).Extends ledger := by
  cases reason with
  | none => exact List.prefix_append _ _
  | some reason =>
      exact (List.prefix_append ledger.events _).trans (List.prefix_append _ _)

theorem close_extends (scheduler : SharingScheduler ρ) (ledger : RuntimeLedger ρ)
    (reason : Option ResetReason) : (scheduler.close ledger reason).Extends ledger :=
  Ledger.foldl_extends (disposeRuntime_extends reason) _ ledger

theorem cancelPrepared_extends (scheduler : SharingScheduler ρ) (ledger : RuntimeLedger ρ) :
    (scheduler.cancelPrepared ledger).Extends ledger := by
  have each : ∀ (ledger : RuntimeLedger ρ) (runtime : Nat),
      (closeRuntime ledger runtime).Extends ledger := fun _ _ => List.prefix_append _ _
  exact Ledger.foldl_extends each _ ledger

/-! ## Construction -/

/-- Every borrowed runtime is one of the reusable ones. -/
def BorrowsOf (reusable : Dict UUID Nat) (scheduler : SharingScheduler ρ) : Prop :=
  ∀ id ∈ scheduler.borrowedRuntimeIds, ∃ runtime, scheduler.runtimes.get? id = some runtime ∧
    reusable.get? id = some runtime

variable {plan : ExecutionPlan ρ}

omit [NodeRuntime ρ] in
/-- A new runtime under a new identifier is the scheduler's own. -/
theorem ownRuntimes_insert {runtimes : Dict UUID Nat}
    {borrowed : List UUID} {cache : PortValues} (runtime : Nat)
    (new : id ∉ runtimes.keys) (within : ∀ other ∈ borrowed, other ∈ runtimes.keys) :
    (SharingScheduler.mk plan (runtimes.insert id runtime) borrowed cache).ownRuntimes =
      (SharingScheduler.mk plan runtimes borrowed cache).ownRuntimes ++ [runtime] := by
  have inserted : (runtimes.insert id runtime).entries = runtimes.entries ++ [(id, runtime)] :=
    Dict.assign_of_not_mem runtime new
  have notBorrowed : id ∉ borrowed := fun member => new (within id member)
  simp [ownRuntimes, Dict.filter, inserted, notBorrowed]

omit [NodeRuntime ρ] in
/-- A borrowed runtime is not. -/
theorem ownRuntimes_borrow {runtimes : Dict UUID Nat}
    {borrowed : List UUID} {cache : PortValues} (runtime : Nat)
    (new : id ∉ runtimes.keys) :
    (SharingScheduler.mk plan (runtimes.insert id runtime) (borrowed ++ [id]) cache).ownRuntimes =
      (SharingScheduler.mk plan runtimes borrowed cache).ownRuntimes := by
  have inserted : (runtimes.insert id runtime).entries = runtimes.entries ++ [(id, runtime)] :=
    Dict.assign_of_not_mem runtime new
  have same : ∀ entry ∈ runtimes.entries,
      decide (entry.1 ∉ borrowed ++ [id]) = decide (entry.1 ∉ borrowed) := by
    intro entry member
    have different : entry.1 ≠ id := fun equal =>
      new (equal ▸ List.mem_map.mpr ⟨entry, member, rfl⟩)
    simp [different]
  simp only [ownRuntimes, Dict.filter, inserted, List.filter_append]
  rw [List.filter_congr same]
  simp

omit [NodeRuntime ρ] in
theorem buildRuntimes_spec {reusable : Dict UUID Nat} :
    ∀ (nodes : List (CompiledNode ρ)) (ledger : RuntimeLedger ρ) (runtimes : Dict UUID Nat)
      (borrowed : List UUID), (nodes.map CompiledNode.nodeId).Nodup →
      (∀ node ∈ nodes, node.nodeId ∉ runtimes.keys) →
      BorrowsOf reusable (⟨plan, runtimes, borrowed, Dict.empty⟩ : SharingScheduler ρ) →
      ledger.Owns ((SharingScheduler.mk plan runtimes borrowed Dict.empty).ownRuntimes ++ rest) →
      BorrowsOf reusable (buildRuntimes plan reusable nodes ledger runtimes borrowed).2.1 ∧
        (buildRuntimes plan reusable nodes ledger runtimes borrowed).1.Owns
          ((buildRuntimes plan reusable nodes ledger runtimes borrowed).2.1.ownRuntimes ++ rest) ∧
        (buildRuntimes plan reusable nodes ledger runtimes borrowed).1.Extends ledger := by
  intro nodes
  induction nodes with
  | nil => exact fun ledger _ _ _ _ borrows owns => ⟨borrows, owns, Ledger.Extends.refl ledger⟩
  | cons node nodes ih =>
      intro ledger runtimes borrowed distinct new borrows owns
      rw [List.map_cons, List.nodup_cons] at distinct
      have newNode := new node List.mem_cons_self
      have newRest : ∀ (runtime : Nat), ∀ other ∈ nodes,
          other.nodeId ∉ (runtimes.insert node.nodeId runtime).keys := by
        intro runtime other member
        rw [Dict.mem_keys_insert, not_or]
        exact ⟨fun same => distinct.1 (same ▸ List.mem_map.mpr ⟨other, member, rfl⟩),
          new other (List.mem_cons_of_mem _ member)⟩
      have borrowsOnward : ∀ (runtime : Nat), BorrowsOf reusable
          (⟨plan, runtimes.insert node.nodeId runtime, borrowed, Dict.empty⟩ :
            SharingScheduler ρ) := by
        intro runtime id member
        rcases borrows id member with ⟨known, found, reused⟩
        have different : id ≠ node.nodeId := by
          rintro rfl
          exact newNode ((Dict.get?_isSome _ _).mp (by rw [found]; rfl))
        exact ⟨known, (Dict.get?_insert_of_ne runtime different).trans found, reused⟩
      have within : ∀ id ∈ borrowed, id ∈ runtimes.keys := by
        intro id member
        rcases borrows id member with ⟨known, found, _⟩
        exact (Dict.get?_isSome _ _).mp (by rw [found]; rfl)
      rw [buildRuntimes]
      cases reused : reusable.get? node.nodeId with
      | some runtime =>
          refine ih ledger _ _ distinct.2 (newRest runtime) ?_ ?_
          · intro id member
            rcases List.mem_append.mp member with earlier | isNode
            · exact borrowsOnward runtime id earlier
            · rw [List.mem_singleton.mp isNode]
              exact ⟨runtime, Dict.get?_insert_self _ _ _, reused⟩
          · rw [ownRuntimes_borrow runtime newNode]
            exact owns
      | none =>
          cases node.definition.runtimeFactory node.nodeId with
          | error error => exact ⟨borrows, owns, Ledger.Extends.refl ledger⟩
          | ok object =>
              have allocated := owns.allocate object
              have onward := ih (ledger.allocate object).1
                (runtimes.insert node.nodeId (ledger.allocate object).2) borrowed distinct.2
                (newRest _) (borrowsOnward _) (by
                  rw [ownRuntimes_insert _ newNode within]
                  refine allocated.perm ?_
                  rw [List.append_assoc]
                  exact List.perm_middle.symm)
              exact ⟨onward.1, onward.2.1, onward.2.2.trans (List.prefix_append _ _)⟩

/-- A new scheduler owns what it built; one that was not finished leaves nothing
open. -/
theorem create_spec (reusable : Dict UUID Nat)
    (distinct : (plan.nodes.map CompiledNode.nodeId).Nodup) (owns : ledger.Owns owned) :
    (create plan reusable ledger).1.Extends ledger ∧
      match (create plan reusable ledger).2 with
      | .error _ => (create plan reusable ledger).1.Owns owned
      | .ok scheduler => BorrowsOf reusable scheduler ∧
          (create plan reusable ledger).1.Owns (scheduler.ownRuntimes ++ owned) := by
  have nothing : BorrowsOf reusable
      (⟨plan, Dict.empty, [], Dict.empty⟩ : SharingScheduler ρ) :=
    fun id member => absurd member List.not_mem_nil
  have built := buildRuntimes_spec plan.nodes ledger Dict.empty [] distinct
    (fun _ _ => List.not_mem_nil) nothing owns
  rw [create]
  rcases building : buildRuntimes plan reusable plan.nodes ledger Dict.empty []
    with ⟨after, scheduler, outcome⟩
  rw [building] at built
  rcases built with ⟨borrows, afterOwns, extended⟩
  cases outcome with
  | ok done => exact ⟨extended, borrows, afterOwns⟩
  | error error =>
      exact ⟨(scheduler.cancelPrepared_extends after).trans extended,
        cancelPrepared_owns afterOwns⟩

omit [NodeRuntime ρ] in
theorem get?_offerRuntime {previous : SharingScheduler ρ}
    {reusable : Dict UUID Nat} {node : CompiledNode ρ}
    (known : ∀ id runtime, reusable.get? id = some runtime →
      previous.runtimes.get? id = some runtime)
    (found : (offerRuntime plan previous reusable node).get? id = some runtime) :
    previous.runtimes.get? id = some runtime := by
  rw [offerRuntime] at found
  cases isOld : previous.plan.node? node.nodeId with
  | none =>
      rw [isOld] at found
      exact known id runtime found
  | some old =>
      cases held : previous.runtimes.get? node.nodeId with
      | none =>
          rw [isOld, held] at found
          exact known id runtime found
      | some kept =>
          rw [isOld, held] at found
          dsimp only at found
          split_ifs at found with retained
          · by_cases isNode : id = node.nodeId
            · rw [isNode, Dict.get?_insert_self] at found
              rw [isNode, held, found]
            · rw [Dict.get?_insert_of_ne kept isNode] at found
              exact known id runtime found
          · exact known id runtime found

omit [NodeRuntime ρ] in
/-- Reusable runtimes are runtimes of the previous scheduler. -/
theorem get?_reusableRuntimes {previous : SharingScheduler ρ}
    (found : (reusableRuntimes plan previous).get? id = some runtime) :
    previous.runtimes.get? id = some runtime := by
  have onward : ∀ (nodes : List (CompiledNode ρ)) (reusable : Dict UUID Nat),
      (∀ id runtime, reusable.get? id = some runtime →
        previous.runtimes.get? id = some runtime) →
      ∀ id runtime, (nodes.foldl (offerRuntime plan previous) reusable).get? id = some runtime →
        previous.runtimes.get? id = some runtime := by
    intro nodes
    induction nodes with
    | nil => exact fun _ known => known
    | cons node nodes ih =>
        exact fun reusable known => ih _ (fun _ _ => get?_offerRuntime known)
  exact onward plan.nodes Dict.empty (fun id runtime impossible => by cases impossible) id runtime
    found

/-! ## The claim of a candidate -/

omit [NodeRuntime ρ] in
theorem get?_of_checkBorrowed {scheduler previous : SharingScheduler ρ} :
    ∀ {ids : List UUID}, checkBorrowed scheduler previous ids = .ok () →
      ∀ id ∈ ids, ∃ runtime, scheduler.runtimes.get? id = some runtime ∧
        previous.runtimes.get? id = some runtime := by
  intro ids
  induction ids with
  | nil => exact fun _ _ impossible => absurd impossible List.not_mem_nil
  | cons other ids ih =>
      intro checked
      rw [checkBorrowed] at checked
      cases found : scheduler.runtimes.get? other with
      | none =>
          rw [found] at checked
          cases checked
      | some runtime =>
          rw [found] at checked
          dsimp only at checked
          split_ifs at checked with same
          intro id member
          rcases List.mem_cons.mp member with isOther | later
          · exact isOther ▸ ⟨runtime, found, same⟩
          · exact ih checked id later

omit [NodeRuntime ρ] in
/-- What changes hands in a claim: the candidate ends up with what it shared,
and the previous scheduler keeps the rest. -/
theorem claimBorrowedRuntimes_spec {scheduler previous after remaining : SharingScheduler ρ}
    (claims : scheduler.claimBorrowedRuntimes previous = .ok (after, remaining)) :
    after.runtimes = scheduler.runtimes ∧
      (previous.held ++ scheduler.ownRuntimes).Perm (remaining.held ++ after.held) ∧
      ∀ id runtime, previous.runtimes.get? id = some runtime →
        after.runtimes.get? id = some runtime ∨ runtime ∈ remaining.held := by
  rw [claimBorrowedRuntimes] at claims
  cases checked : checkBorrowed scheduler previous scheduler.borrowedRuntimeIds with
  | error error =>
      rw [checked] at claims
      cases claims
  | ok done =>
      rw [checked] at claims
      cases claims
      have shared := get?_of_checkBorrowed checked
      have agree : ∀ id ∈ scheduler.borrowedRuntimeIds,
          previous.runtimes.get? id = scheduler.runtimes.get? id := by
        intro id member
        rcases shared id member with ⟨runtime, mine, theirs⟩
        rw [mine, theirs]
      have kept := Dict.foldl_erase_entries scheduler.borrowedRuntimeIds previous.runtimes
      refine ⟨rfl, ?_, ?_⟩
      · have split : previous.held.Perm
            ((scheduler.borrowedRuntimeIds.foldl Dict.erase previous.runtimes).entries.map
              Prod.snd ++ claimed scheduler.borrowedRuntimeIds previous.runtimes) := by
          rw [kept]
          exact previous.runtimes.values_split scheduler.borrowedRuntimeIds
        refine (split.append_right _).trans ?_
        rw [List.append_assoc]
        refine List.Perm.append_left _ ?_
        exact (List.perm_append_comm.trans ((Dict.values_at_perm agree).append_left _)).trans
          scheduler.held_perm.symm
      · intro id runtime found
        by_cases isBorrowed : id ∈ scheduler.borrowedRuntimeIds
        · exact Or.inl (agree id isBorrowed ▸ found)
        · refine Or.inr (List.mem_map.mpr ⟨(id, runtime), ?_, rfl⟩)
          rw [kept]
          exact List.mem_filter.mpr ⟨Dict.mem_of_get? found, by simpa using isBorrowed⟩

end SharingScheduler

/-! ## The law of the facade -/

namespace FacadeCommand

def isCandidateClose : FacadeCommand ρ → Bool
  | closeCandidate _ => true
  | _ => false

/-- The call does not concern a candidate. -/
def isQuiet : FacadeCommand ρ → Bool
  | prepare _ _ => false
  | closeCandidate _ => false
  | commit _ _ => false
  | _ => true

end FacadeCommand

namespace EngineFacade

/-- The runtimes that a candidate will have to close. -/
def candidateRuntimes (candidate : PreparedEngineActivation ρ) : List Nat :=
  (candidate.scheduler.map SharingScheduler.ownRuntimes).getD []

/-- The runtimes of the active scheduler, then those of the candidates. -/
def ownedRuntimes (facade : EngineFacade ρ) : List Nat :=
  (facade.scheduler.map SharingScheduler.held).getD [] ++
    facade.candidates.flatMap candidateRuntimes

/-- The runtime that the active scheduler has for a node. -/
def activeRuntime (facade : EngineFacade ρ) (id : UUID) : Option Nat :=
  facade.scheduler.bind (fun scheduler => scheduler.runtimes.get? id)

/-- What a scheduler borrows is a runtime of the active scheduler, or was closed
with it. -/
def BorrowsActive (facade : EngineFacade ρ) (scheduler : SharingScheduler ρ) : Prop :=
  ∀ id ∈ scheduler.borrowedRuntimeIds, ∃ runtime, scheduler.runtimes.get? id = some runtime ∧
    (facade.activeRuntime id = some runtime ∨ .closed runtime ∈ facade.ledger.events)

/-- Every open runtime has one owner, no runtime was used or closed after it
had been closed, and candidates only borrow. -/
structure Owned (facade : EngineFacade ρ) : Prop where
  owns : facade.ledger.Owns facade.ownedRuntimes
  borrows : ∀ candidate ∈ facade.candidates, ∀ scheduler,
    candidate.scheduler = some scheduler → facade.BorrowsActive scheduler

/-- What one call promises. -/
structure SafeCall (before : EngineFacade ρ) (command : FacadeCommand ρ) (after : EngineFacade ρ)
    (returned : Bool) : Prop where
  owned : after.Owned
  spares : ∀ index candidate scheduler, command = .closeCandidate index →
    before.candidates[index]? = some candidate → candidate.scheduler = some scheduler →
    ∀ id ∈ scheduler.borrowedRuntimeIds, ∀ runtime, scheduler.runtimes.get? id = some runtime →
      .closed runtime ∈ after.ledger.events → .closed runtime ∈ before.ledger.events
  unchanged : returned = false →
    (∃ compiled resetReason, command = .prepare compiled resetReason) ∨
      (∃ index resetReason, command = .commit index resetReason) →
    after.plan = before.plan ∧ after.scheduler = before.scheduler

/-- The promise of the call that is made next. -/
def KeepsOwnership [NodeRuntime ρ] (facade : EngineFacade ρ) (command : FacadeCommand ρ) : Prop :=
  ∀ after returned, facade.call command = some (after, returned) →
    facade.SafeCall command after returned

/-- Without an active scheduler, only a candidate that borrows nothing is
committed. -/
def CommitsChecked (facade : EngineFacade ρ) : FacadeCommand ρ → Prop
  | .commit index _ => facade.scheduler = none →
      ∀ candidate, facade.candidates[index]? = some candidate →
        ∀ plan scheduler, available candidate = some (plan, scheduler) →
          scheduler.borrowedRuntimeIds = []
  | _ => True

/-! ## From one state to the next -/

/-- A call that only lets runtimes of the active scheduler go by closing
them. -/
structure Succeeds (before after : EngineFacade ρ) : Prop where
  extended : after.ledger.Extends before.ledger
  kept : ∀ id runtime, before.activeRuntime id = some runtime →
    after.activeRuntime id = some runtime ∨ .closed runtime ∈ after.ledger.events

theorem BorrowsActive.succeeds {before after : EngineFacade ρ} {scheduler : SharingScheduler ρ}
    (borrows : before.BorrowsActive scheduler) (onward : Succeeds before after) :
    after.BorrowsActive scheduler := by
  intro id member
  rcases borrows id member with ⟨runtime, found, active | closed⟩
  · exact ⟨runtime, found, onward.kept id runtime active⟩
  · exact ⟨runtime, found, Or.inr (onward.extended.mem closed)⟩

/-- The candidates of a next state are those from before, or borrow nothing that
is not active. -/
theorem Owned.succeeds {before after : EngineFacade ρ} (owned : before.Owned)
    (onward : Succeeds before after) (owns : after.ledger.Owns after.ownedRuntimes)
    (candidates : ∀ candidate ∈ after.candidates, ∀ scheduler,
      candidate.scheduler = some scheduler →
        candidate ∈ before.candidates ∨ after.BorrowsActive scheduler) : after.Owned := by
  refine ⟨owns, ?_⟩
  intro candidate member scheduler isScheduler
  rcases candidates candidate member scheduler isScheduler with earlier | borrows
  · exact (owned.borrows candidate earlier scheduler isScheduler).succeeds onward
  · exact borrows

variable {candidate : PreparedEngineActivation ρ} {candidates : List (PreparedEngineActivation ρ)}

variable {index : Nat}

/-- Take a candidate out of the list. -/
theorem candidates_perm (found : candidates[index]? = some candidate) :
    (candidates.flatMap candidateRuntimes).Perm (candidateRuntimes candidate ++
      (candidates.eraseIdx index).flatMap candidateRuntimes) := by
  rcases List.getElem?_eq_some_iff.mp found with ⟨within, rfl⟩
  exact (List.getElem_cons_eraseIdx_perm within).symm.flatMap_right candidateRuntimes

/-- A candidate without a scheduler owns nothing. -/
theorem candidates_set_perm
    (within : index < candidates.length) {emptied : PreparedEngineActivation ρ}
    (empty : emptied.scheduler = none) :
    ((candidates.set index emptied).flatMap candidateRuntimes).Perm
      ((candidates.eraseIdx index).flatMap candidateRuntimes) := by
  refine ((List.set_perm_cons_eraseIdx within emptied).flatMap_right candidateRuntimes).trans ?_
  rw [List.flatMap_cons, candidateRuntimes, empty]
  exact List.Perm.refl _

theorem mem_set_candidates
    {emptied candidate : PreparedEngineActivation ρ} {scheduler : SharingScheduler ρ}
    (empty : emptied.scheduler = none) (member : candidate ∈ candidates.set index emptied)
    (isScheduler : candidate.scheduler = some scheduler) : candidate ∈ candidates := by
  rcases List.mem_or_eq_of_mem_set member with earlier | isEmptied
  · exact earlier
  · rw [isEmptied, empty] at isScheduler
    cases isScheduler

/-! ## The calls, one by one -/

theorem owned_initial [NodeRuntime ρ] : (initial : EngineFacade ρ).Owned :=
  ⟨Ledger.owns_empty, fun _ impossible => absurd impossible List.not_mem_nil⟩

variable {facade : EngineFacade ρ} {scheduler : SharingScheduler ρ}

theorem ownedRuntimes_active (active : facade.scheduler = some scheduler) :
    facade.ownedRuntimes =
      scheduler.held ++ facade.candidates.flatMap candidateRuntimes := by
  rw [ownedRuntimes, active]
  rfl

theorem ownedRuntimes_inactive (inactive : facade.scheduler = none) :
    facade.ownedRuntimes = facade.candidates.flatMap candidateRuntimes := by
  rw [ownedRuntimes, inactive]
  rfl

variable (owned : facade.Owned)
include owned

/-- An operation that only reaches runtimes of the active scheduler. -/
theorem Owned.conclude (active : facade.scheduler = some scheduler)
    (kind : RuntimeUse) (after : Scheduler ρ) (reached : List UUID) (publishGeneration : Nat) :
    Owned { facade with
      ledger := (scheduler.conclude facade.ledger kind after reached).1
      scheduler := some (scheduler.conclude facade.ledger kind after reached).2
      publishGeneration := publishGeneration } := by
  have owns := owned.owns
  rw [ownedRuntimes_active active] at owns
  refine owned.succeeds ⟨scheduler.conclude_extends facade.ledger kind after reached, ?_⟩ ?_
    (fun candidate member _ _ => Or.inl member)
  · intro id runtime found
    rw [activeRuntime, active] at found
    exact Or.inl found
  · exact SharingScheduler.conclude_owns owns (fun _ => List.mem_append_left _) kind after reached

variable [NodeRuntime ρ]

theorem Owned.tick (context : FrameContext) (sourceValues : PortValues) :
    (facade.tick context sourceValues).1.Owned := by
  cases active : facade.scheduler with
  | none =>
      rw [EngineFacade.tick, active]
      exact owned
  | some scheduler =>
      rw [EngineFacade.tick, active]
      exact owned.conclude active .processed _ _ _

omit owned in
omit [NodeRuntime ρ] in
theorem Owned.onScheduler {operation : SharingScheduler ρ → RuntimeLedger ρ →
      RuntimeLedger ρ × SharingScheduler ρ × Except PyError Unit}
    (reaches : ∀ scheduler ledger, ∃ kind after reached,
      (operation scheduler ledger).1 = (scheduler.conclude ledger kind after reached).1 ∧
        (operation scheduler ledger).2.1 = (scheduler.conclude ledger kind after reached).2)
    (owned : facade.Owned) : (facade.onScheduler operation).1.Owned := by
  cases active : facade.scheduler with
  | none =>
      rw [EngineFacade.onScheduler, active]
      exact owned
  | some scheduler =>
      rcases reaches scheduler facade.ledger with ⟨kind, after, reached, sameLedger, sameScheduler⟩
      rw [EngineFacade.onScheduler, active]
      dsimp only
      rw [sameLedger, sameScheduler]
      exact owned.conclude active kind after reached facade.publishGeneration

theorem Owned.resetSource (sourceNodeId : UUID) (reason : ResetReason) :
    (facade.resetSource sourceNodeId reason).1.Owned :=
  owned.onScheduler (fun _ _ => ⟨.reset, _, _, rfl, rfl⟩)

theorem Owned.resetAll (reason : ResetReason) :
    (facade.resetAll reason).1.Owned :=
  owned.onScheduler (fun _ _ => ⟨.reset, _, _, rfl, rfl⟩)

theorem Owned.panic : facade.panic.1.Owned :=
  owned.onScheduler (fun _ _ => ⟨.panicked, _, _, rfl, rfl⟩)

/-- Without its active scheduler, the facade has what the candidates own. -/
theorem Owned.dispose (active : facade.scheduler = some scheduler)
    {used : RuntimeLedger ρ} (usedOwns : used.Owns facade.ownedRuntimes)
    (extended : used.Extends facade.ledger) (reason : Option ResetReason) :
    Owned { facade with
      ledger := scheduler.close used reason
      plan := none
      scheduler := none } := by
  rw [ownedRuntimes_active active] at usedOwns
  have closes := SharingScheduler.close_owns reason usedOwns
  have closed : (scheduler.close used reason).Extends used := scheduler.close_extends used reason
  refine owned.succeeds ⟨closed.trans extended, ?_⟩ ?_ (fun candidate member _ _ => Or.inl member)
  · intro id runtime found
    rw [activeRuntime, active] at found
    have isHeld := SharingScheduler.mem_held found
    exact Or.inr (usedOwns.closed_of_disowned (List.mem_append_left _ isHeld) closes
      (fun member => List.disjoint_of_nodup_append usedOwns.distinct isHeld member) closed)
  · rw [ownedRuntimes_inactive rfl]
    exact closes

theorem Owned.stop (reason : ResetReason) :
    (facade.stop reason).1.Owned := by
  cases active : facade.scheduler with
  | none =>
      have same : (facade.stop reason).1 = { facade with plan := none } := by
        simp only [EngineFacade.stop, active]
      rw [same]
      exact ⟨owned.owns, owned.borrows⟩
  | some scheduler =>
      have owns := owned.owns
      rw [ownedRuntimes_active active] at owns
      rw [EngineFacade.stop, active]
      refine owned.dispose active ?_ (scheduler.conclude_extends facade.ledger .panicked _ _)
        (some reason)
      rw [ownedRuntimes_active active]
      exact SharingScheduler.conclude_owns owns (fun _ => List.mem_append_left _) .panicked _ _

theorem Owned.close : facade.close.Owned := by
  cases active : facade.scheduler with
  | none =>
      have same : facade.close = (facade.stop .planReplaced).1 := by
        simp only [EngineFacade.close, EngineFacade.stop, active]
      rw [same]
      exact owned.stop .planReplaced
  | some scheduler =>
      rw [EngineFacade.close, active]
      exact owned.dispose active owned.owns (Ledger.Extends.refl _) none

omit owned in
/-- A replacement is created with runtimes of the active scheduler to reuse. -/
theorem prepareReplacement_create (facade : EngineFacade ρ)
    (plan : ExecutionPlan ρ) (preserveState : Bool) :
    ∃ reusable, SharingScheduler.prepareReplacement plan facade.scheduler preserveState
        facade.ledger = SharingScheduler.create plan reusable facade.ledger ∧
      ∀ id runtime, reusable.get? id = some runtime → facade.activeRuntime id = some runtime := by
  cases active : facade.scheduler with
  | none => exact ⟨Dict.empty, rfl, fun _ _ impossible => by cases impossible⟩
  | some previous =>
      cases preserveState with
      | false => exact ⟨Dict.empty, rfl, fun _ _ impossible => by cases impossible⟩
      | true =>
          refine ⟨_, rfl, ?_⟩
          intro id runtime found
          rw [activeRuntime, active]
          exact SharingScheduler.get?_reusableRuntimes found

/-- A preparation that fails leaves everything but the ledger. -/
theorem Owned.prepare (compiled : Option (DistinctPlan ρ))
    (resetReason : ResetReason) : (facade.prepare compiled resetReason).1.Owned := by
  cases compiled with
  | none =>
      refine owned.succeeds ⟨Ledger.Extends.refl _, fun _ _ => Or.inl⟩ ?_ ?_
      · have owns := owned.owns
        rw [ownedRuntimes] at owns
        simpa [EngineFacade.prepare, ownedRuntimes, candidateRuntimes] using owns
      · intro candidate member scheduler isScheduler
        rcases List.mem_append.mp member with earlier | isNew
        · exact Or.inl earlier
        · rw [List.mem_singleton.mp isNew] at isScheduler
          cases isScheduler
  | some compiled =>
      rcases facade.prepareReplacement_create compiled.plan (decide (resetReason = .planReplaced))
        with ⟨reusable, prepared, fromActive⟩
      rw [EngineFacade.prepare, prepared]
      have built := SharingScheduler.create_spec reusable compiled.distinct owned.owns
      rcases building : SharingScheduler.create compiled.plan reusable facade.ledger
        with ⟨ledger, outcome⟩
      rw [building] at built
      rcases built with ⟨extended, outcomeSpec⟩
      cases outcome with
      | error error =>
          exact owned.succeeds ⟨extended, fun _ _ => Or.inl⟩ outcomeSpec
            (fun _ member _ _ => Or.inl member)
      | ok replacement =>
          rcases outcomeSpec with ⟨borrows, owns⟩
          refine owned.succeeds ⟨extended, fun _ _ => Or.inl⟩ ?_ ?_
          · refine owns.perm (List.perm_append_comm.trans ?_)
            simp [ownedRuntimes, candidateRuntimes]
          · intro candidate member scheduler isScheduler
            rcases List.mem_append.mp member with earlier | isNew
            · exact Or.inl earlier
            · rw [List.mem_singleton.mp isNew] at isScheduler
              cases isScheduler
              refine Or.inr ?_
              intro id isBorrowed
              rcases borrows id isBorrowed with ⟨runtime, found, reused⟩
              exact ⟨runtime, found, Or.inl (fromActive id runtime reused)⟩

/-- What closing a candidate does to the owners. -/
theorem Owned.closeCandidate (found : facade.candidates[index]? = some candidate) :
    (facade.closeCandidate index candidate).Owned := by
  have within : index < facade.candidates.length := (List.getElem?_eq_some_iff.mp found).1
  rw [EngineFacade.closeCandidate]
  split
  · rename_i scheduler _ isScheduler
    refine owned.succeeds ⟨scheduler.cancelPrepared_extends facade.ledger, fun _ _ => Or.inl⟩ ?_ ?_
    · have split : facade.ownedRuntimes.Perm (scheduler.ownRuntimes ++
          ((facade.scheduler.map SharingScheduler.held).getD [] ++
            (facade.candidates.eraseIdx index).flatMap candidateRuntimes)) := by
        have own : candidateRuntimes candidate = scheduler.ownRuntimes := by
          rw [candidateRuntimes, isScheduler]
          rfl
        refine ((own ▸ candidates_perm found).append_left _).trans ?_
        exact List.perm_append_comm_assoc _ _ _
      refine (SharingScheduler.cancelPrepared_owns (owned.owns.perm split)).perm ?_
      exact (candidates_set_perm within rfl).symm.append_left _
    · intro other member otherScheduler isOther
      exact Or.inl (mem_set_candidates rfl member isOther)
  · exact owned

/-- A borrowed runtime is not among those that a candidate closes. -/
theorem Owned.closeCandidate_spares (found : facade.candidates[index]? = some candidate)
    (isScheduler : candidate.scheduler = some scheduler) {id : UUID}
    (isBorrowed : id ∈ scheduler.borrowedRuntimeIds) {runtime : Nat}
    (shared : scheduler.runtimes.get? id = some runtime)
    (closed : .closed runtime ∈ (facade.closeCandidate index candidate).ledger.events) :
    .closed runtime ∈ facade.ledger.events := by
  rcases owned.borrows candidate (List.mem_of_getElem? found) scheduler isScheduler id isBorrowed
    with ⟨other, same, active | before⟩
  · rw [shared, Option.some.injEq] at same
    have afterwards := (owned.closeCandidate found).owns
    have kept : (facade.closeCandidate index candidate).scheduler = facade.scheduler := by
      rw [EngineFacade.closeCandidate]
      split <;> rfl
    rw [activeRuntime] at active
    rcases Option.bind_eq_some_iff.mp active with ⟨owner, isActive, isHeld⟩
    refine absurd closed (afterwards.closed_of_mem ?_)
    rw [ownedRuntimes_active (kept.trans isActive), same]
    exact List.mem_append_left _ (SharingScheduler.mem_held isHeld)
  · rw [shared, Option.some.injEq] at same
    exact same ▸ before

variable {plan : ExecutionPlan ρ}

omit owned in
omit [NodeRuntime ρ] in
theorem available_scheduler (isAvailable : available candidate = some (plan, scheduler)) :
    candidate.scheduler = some scheduler := by
  rw [available] at isAvailable
  split at isAvailable
  · rename_i isScheduler _
    cases isAvailable
    exact isScheduler
  · cases isAvailable

/-- A candidate that shares with the active scheduler takes over what it shares,
and the rest of the active runtimes is closed. -/
theorem Owned.commit (found : facade.candidates[index]? = some candidate)
    (resetReason : ResetReason)
    (checked : facade.scheduler = none → ∀ plan scheduler,
      available candidate = some (plan, scheduler) → scheduler.borrowedRuntimeIds = []) :
    (facade.commit index candidate resetReason).1.Owned := by
  have within : index < facade.candidates.length := (List.getElem?_eq_some_iff.mp found).1
  rw [EngineFacade.commit]
  cases isAvailable : available candidate with
  | none => exact owned
  | some offer =>
      rcases offer with ⟨plan, replacement⟩
      have isScheduler := available_scheduler isAvailable
      have own : candidateRuntimes candidate = replacement.ownRuntimes := by
        rw [candidateRuntimes, isScheduler]
        rfl
      have others := own ▸ candidates_perm found
      have rest := candidates_set_perm within
        (rfl : ({ candidate with scheduler := none, committed := true } :
          PreparedEngineActivation ρ).scheduler = none)
      have earlier : ∀ other ∈ facade.candidates.set index
            { candidate with scheduler := none, committed := true },
          ∀ scheduler, other.scheduler = some scheduler → other ∈ facade.candidates :=
        fun _ member _ isOther => mem_set_candidates rfl member isOther
      have owns := owned.owns
      dsimp only
      cases active : facade.scheduler with
      | none =>
          have nothing := checked active plan replacement isAvailable
          have allOwn : replacement.held.Perm replacement.ownRuntimes := by
            have split := replacement.held_perm
            rw [nothing] at split
            simpa [SharingScheduler.claimed, Dict.filter] using split
          refine owned.succeeds ⟨Ledger.Extends.refl _, ?_⟩ ?_
            (fun other member scheduler isOther =>
              Or.inl (earlier other member scheduler isOther))
          · intro id runtime impossible
            rw [activeRuntime, active] at impossible
            cases impossible
          · rw [ownedRuntimes_inactive active] at owns
            rw [ownedRuntimes_active rfl]
            exact owns.perm (others.trans (allOwn.symm.append rest.symm))
      | some previous =>
          rw [ownedRuntimes_active active] at owns
          dsimp only
          cases claims : replacement.claimBorrowedRuntimes previous with
          | error error => exact owned
          | ok result =>
              rcases result with ⟨after, remaining⟩
              rcases SharingScheduler.claimBorrowedRuntimes_spec claims with
                ⟨sameRuntimes, handed, kept⟩
              have split : facade.ledger.Owns (remaining.held ++ (after.held ++
                  (facade.candidates.eraseIdx index).flatMap candidateRuntimes)) := by
                refine owns.perm ((others.append_left _).trans ?_)
                rw [← List.append_assoc, ← List.append_assoc]
                exact handed.append_right _
              have closes := SharingScheduler.close_owns (some resetReason) split
              have closed := remaining.close_extends facade.ledger (some resetReason)
              refine owned.succeeds ⟨closed, ?_⟩ ?_
                (fun other member scheduler isOther =>
                  Or.inl (earlier other member scheduler isOther))
              · intro id runtime wasActive
                rw [activeRuntime, active] at wasActive
                rcases kept id runtime wasActive with stays | isRemaining
                · exact Or.inl stays
                · exact Or.inr (split.closed_of_disowned (List.mem_append_left _ isRemaining)
                    closes (fun member =>
                      List.disjoint_of_nodup_append split.distinct isRemaining member) closed)
              · rw [ownedRuntimes_active rfl]
                exact closes.perm (rest.symm.append_left _)

omit owned

/-! ## A preparation and its candidate -/

theorem create_borrowed {ledger after : RuntimeLedger ρ}
    {replacement : SharingScheduler ρ} (distinct : (plan.nodes.map CompiledNode.nodeId).Nodup)
    {owned : List Nat} (owns : ledger.Owns owned)
    (created : SharingScheduler.create plan Dict.empty ledger = (after, .ok replacement)) :
    replacement.borrowedRuntimeIds = [] := by
  have built := SharingScheduler.create_spec Dict.empty distinct owns
  rw [created] at built
  apply List.eq_nil_iff_forall_not_mem.mpr
  intro id isBorrowed
  rcases built.2.1 id isBorrowed with ⟨runtime, _, reused⟩
  cases reused

/-- What a preparation that returned has handed out. -/
structure Handed (facade prepared : EngineFacade ρ) (compiled : Option (DistinctPlan ρ))
    (candidate : PreparedEngineActivation ρ) : Prop where
  candidates : prepared.candidates = facade.candidates ++ [candidate]
  plan : prepared.plan = facade.plan
  scheduler : prepared.scheduler = facade.scheduler
  candidatePlan : candidate.plan = compiled.map DistinctPlan.plan
  pending : candidate.committed = false
  unborrowed : facade.scheduler = none → ∀ scheduler, candidate.scheduler = some scheduler →
    scheduler.borrowedRuntimeIds = []

variable {resetReason : ResetReason} {prepared : EngineFacade ρ}

variable {compiled : Option (DistinctPlan ρ)}

theorem prepare_handed (owned : facade.Owned)
    (prepares : facade.prepare compiled resetReason = (prepared, .ok ())) :
    ∃ candidate, Handed facade prepared compiled candidate := by
  cases compiled with
  | none =>
      cases prepares
      exact ⟨_, rfl, rfl, rfl, rfl, rfl, fun _ _ impossible => by cases impossible⟩
  | some compiled =>
      rw [EngineFacade.prepare] at prepares
      rcases building : SharingScheduler.prepareReplacement compiled.plan facade.scheduler
        (decide (resetReason = .planReplaced)) facade.ledger with ⟨ledger, outcome⟩
      rw [building] at prepares
      cases outcome with
      | error error => cases prepares
      | ok replacement =>
          cases prepares
          refine ⟨_, rfl, rfl, rfl, rfl, rfl, ?_⟩
          intro inactive scheduler isScheduler
          cases isScheduler
          rw [inactive] at building
          exact create_borrowed compiled.distinct owned.owns building

omit [NodeRuntime ρ] in
theorem Handed.found {facade prepared : EngineFacade ρ}
    (handed : Handed facade prepared compiled candidate) :
    prepared.candidates[facade.candidates.length]? = some candidate := by
  rw [handed.candidates, List.getElem?_append_right (Nat.le_refl _), Nat.sub_self]
  rfl

/-- A candidate that is prepared and closed again leaves the owners, the plan
and the scheduler as they were. -/
theorem Handed.discarded {facade prepared : EngineFacade ρ}
    (handed : Handed facade prepared compiled candidate) :
    (prepared.closeCandidate facade.candidates.length candidate).plan = facade.plan ∧
      (prepared.closeCandidate facade.candidates.length candidate).scheduler = facade.scheduler ∧
      (prepared.closeCandidate facade.candidates.length candidate).ownedRuntimes =
        facade.ownedRuntimes := by
  rw [EngineFacade.closeCandidate, handed.pending]
  cases isScheduler : candidate.scheduler with
  | none =>
      refine ⟨handed.plan, handed.scheduler, ?_⟩
      rw [ownedRuntimes, ownedRuntimes, handed.scheduler, handed.candidates]
      simp [candidateRuntimes, isScheduler]
  | some scheduler =>
      refine ⟨handed.plan, handed.scheduler, ?_⟩
      rw [ownedRuntimes, ownedRuntimes, handed.candidates]
      simp [candidateRuntimes, handed.scheduler]

/-- A committed candidate's plan is the active one. -/
theorem commit_plan {committed : EngineFacade ρ}
    (commits : facade.commit index candidate resetReason = (committed, .ok ())) :
    committed.plan = candidate.plan := by
  rw [EngineFacade.commit] at commits
  cases isAvailable : available candidate with
  | none =>
      rw [isAvailable] at commits
      cases commits
  | some offer =>
      rcases offer with ⟨plan, replacement⟩
      have isPlan : candidate.plan = some plan := by
        rw [available] at isAvailable
        split at isAvailable
        · rename_i planned
          cases isAvailable
          exact planned
        · cases isAvailable
      rw [isAvailable] at commits
      cases active : facade.scheduler with
      | none =>
          rw [active] at commits
          cases commits
          exact isPlan.symm
      | some previous =>
          rw [active] at commits
          dsimp only at commits
          cases claims : replacement.claimBorrowedRuntimes previous with
          | error error =>
              rw [claims] at commits
              cases commits
          | ok result =>
              rw [claims] at commits
              cases commits
              exact isPlan.symm

/-- A commit that raises changes nothing. -/
theorem commit_raised {committed : EngineFacade ρ}
    {error : PyError}
    (commits : facade.commit index candidate resetReason = (committed, .error error)) :
    committed = facade := by
  rw [EngineFacade.commit] at commits
  cases isAvailable : available candidate with
  | none =>
      rw [isAvailable] at commits
      cases commits
      rfl
  | some offer =>
      rw [isAvailable] at commits
      cases active : facade.scheduler with
      | none =>
          rw [active] at commits
          cases commits
      | some previous =>
          rw [active] at commits
          dsimp only at commits
          cases claims : offer.2.claimBorrowedRuntimes previous with
          | error error =>
              rw [claims] at commits
              cases commits
              rfl
          | ok result =>
              rw [claims] at commits
              cases commits

omit [NodeRuntime ρ] in
theorem buildRuntimes_keys {reusable : Dict UUID Nat} :
    ∀ {nodes : List (CompiledNode ρ)} {ledger after : RuntimeLedger ρ} {runtimes : Dict UUID Nat}
      {borrowed : List UUID} {built : SharingScheduler ρ},
      SharingScheduler.buildRuntimes plan reusable nodes ledger runtimes borrowed =
        (after, built, .ok ()) →
      ∀ id, id ∈ runtimes.keys ∨ id ∈ nodes.map CompiledNode.nodeId → id ∈ built.runtimes.keys := by
  intro nodes
  induction nodes with
  | nil =>
      intro ledger after runtimes borrowed built builds id member
      cases builds
      exact member.resolve_right List.not_mem_nil
  | cons node rest ih =>
      intro ledger after runtimes borrowed built builds id member
      have onward : ∀ runtime : Nat,
          id ∈ (runtimes.insert node.nodeId runtime).keys ∨ id ∈ rest.map CompiledNode.nodeId := by
        intro runtime
        rw [Dict.mem_keys_insert]
        rcases member with known | listed
        · exact Or.inl (Or.inr known)
        · rcases List.mem_cons.mp listed with isNode | later
          · exact Or.inl (Or.inl isNode)
          · exact Or.inr later
      rw [SharingScheduler.buildRuntimes] at builds
      cases reused : reusable.get? node.nodeId with
      | some runtime =>
          rw [reused] at builds
          exact ih builds id (onward runtime)
      | none =>
          rw [reused] at builds
          cases created : node.definition.runtimeFactory node.nodeId with
          | error error =>
              rw [created] at builds
              cases builds
          | ok object =>
              rw [created] at builds
              exact ih builds id (onward _)

/-- A preparation borrows active runtimes only, and has one for every node. -/
theorem prepare_offer {compiled : DistinctPlan ρ}
    (owned : facade.Owned)
    (prepares : facade.prepare (some compiled) resetReason = (prepared, .ok ())) :
    ∃ replacement, prepared.candidates[facade.candidates.length]? =
        some ⟨some compiled.plan, some replacement, false⟩ ∧
      (∀ id ∈ replacement.borrowedRuntimeIds, ∃ runtime,
        replacement.runtimes.get? id = some runtime ∧ facade.activeRuntime id = some runtime) ∧
      ∀ id ∈ compiled.plan.nodes.map CompiledNode.nodeId, id ∈ replacement.runtimes.keys := by
  rcases facade.prepareReplacement_create compiled.plan (decide (resetReason = .planReplaced))
    with ⟨reusable, isCreate, fromActive⟩
  rw [EngineFacade.prepare, isCreate] at prepares
  have spec := SharingScheduler.create_spec reusable compiled.distinct owned.owns
  rcases creates : SharingScheduler.create compiled.plan reusable facade.ledger
    with ⟨ledger, outcome⟩
  rw [creates] at prepares spec
  cases outcome with
  | error error => cases prepares
  | ok replacement =>
      cases prepares
      refine ⟨replacement, ?_, ?_, ?_⟩
      · rw [List.getElem?_append_right (Nat.le_refl _), Nat.sub_self]
        rfl
      · intro id isBorrowed
        rcases spec.2.1 id isBorrowed with ⟨runtime, found, reused⟩
        exact ⟨runtime, found, fromActive id runtime reused⟩
      · rw [SharingScheduler.create] at creates
        rcases builds : SharingScheduler.buildRuntimes compiled.plan reusable compiled.plan.nodes
          facade.ledger Dict.empty [] with ⟨after, built, outcome⟩
        rw [builds] at creates
        cases outcome with
        | error error => cases creates
        | ok done =>
            cases creates
            exact fun id member => buildRuntimes_keys builds id (Or.inr member)

omit [NodeRuntime ρ] in
theorem checkBorrowed_ok {scheduler previous : SharingScheduler ρ} {ids : List UUID}
    (shared : ∀ id ∈ ids, ∃ runtime, scheduler.runtimes.get? id = some runtime ∧
      previous.runtimes.get? id = some runtime) :
    SharingScheduler.checkBorrowed scheduler previous ids = .ok () := by
  induction ids with
  | nil => rfl
  | cons id rest ih =>
      rcases shared id List.mem_cons_self with ⟨runtime, mine, theirs⟩
      rw [SharingScheduler.checkBorrowed, mine]
      dsimp only
      rw [if_pos theirs]
      exact ih (fun other member => shared other (List.mem_cons_of_mem _ member))

/-- A candidate that was just prepared can be committed. -/
theorem prepare_committable {compiled : DistinctPlan ρ}
    (owned : facade.Owned)
    (prepares : facade.prepare (some compiled) resetReason = (prepared, .ok ())) :
    ∃ candidate, prepared.candidates[facade.candidates.length]? = some candidate ∧
      (prepared.commit facade.candidates.length candidate resetReason).2 = .ok () := by
  rcases prepare_offer owned prepares with ⟨replacement, found, borrows, _⟩
  rcases prepare_handed owned prepares with ⟨candidate, handed⟩
  refine ⟨_, found, ?_⟩
  have isAvailable : available (⟨some compiled.plan, some replacement, false⟩ :
      PreparedEngineActivation ρ) = some (compiled.plan, replacement) := rfl
  rw [EngineFacade.commit, isAvailable]
  dsimp only
  rw [handed.scheduler]
  cases active : facade.scheduler with
  | none => rfl
  | some previous =>
      have shared : ∀ id ∈ replacement.borrowedRuntimeIds, ∃ runtime,
          replacement.runtimes.get? id = some runtime ∧
            previous.runtimes.get? id = some runtime := by
        intro id isBorrowed
        rcases borrows id isBorrowed with ⟨runtime, mine, isActive⟩
        rw [activeRuntime, active] at isActive
        exact ⟨runtime, mine, isActive⟩
      dsimp only
      rw [SharingScheduler.claimBorrowedRuntimes, checkBorrowed_ok shared]

/-- Without an active scheduler, a candidate has runtimes of its own as soon as
its plan has a node. -/
theorem prepare_opens {compiled : DistinctPlan ρ}
    (owned : facade.Owned) (inactive : facade.scheduler = none)
    (prepares : facade.prepare (some compiled) resetReason = (prepared, .ok ()))
    {node : CompiledNode ρ} (isNode : node ∈ compiled.plan.nodes) :
    ∃ runtime, prepared.ledger.IsOpen runtime ∧ ¬ facade.ledger.IsOpen runtime := by
  rcases prepare_offer owned prepares with ⟨replacement, found, borrows, all⟩
  rcases prepare_handed owned prepares with ⟨candidate, handed⟩
  have sameCandidate : candidate = ⟨some compiled.plan, some replacement, false⟩ :=
    Option.some.inj (handed.found.symm.trans found)
  have preparedOwned := (owned.prepare (some compiled) resetReason).owns
  rw [prepares] at preparedOwned
  have owners : prepared.ownedRuntimes = facade.ownedRuntimes ++ replacement.ownRuntimes := by
    rw [ownedRuntimes, ownedRuntimes, handed.scheduler, handed.candidates, sameCandidate]
    simp [candidateRuntimes]
  rw [owners] at preparedOwned
  have isKey := all node.nodeId (List.mem_map.mpr ⟨node, isNode, rfl⟩)
  rcases Option.isSome_iff_exists.mp ((Dict.get?_isSome _ _).mpr isKey) with ⟨runtime, isRuntime⟩
  have notBorrowed : node.nodeId ∉ replacement.borrowedRuntimeIds := by
    intro isBorrowed
    rcases borrows node.nodeId isBorrowed with ⟨_, _, isActive⟩
    rw [activeRuntime, inactive] at isActive
    cases isActive
  have isOwn : runtime ∈ replacement.ownRuntimes :=
    List.mem_map.mpr ⟨(node.nodeId, runtime),
      List.mem_filter.mpr ⟨Dict.mem_of_get? isRuntime, by simpa using notBorrowed⟩, rfl⟩
  refine ⟨runtime, (preparedOwned.exactly runtime).mp (List.mem_append_right _ isOwn), ?_⟩
  intro wasOpen
  exact List.disjoint_of_nodup_append preparedOwned.distinct
    ((owned.owns.exactly runtime).mpr wasOpen) isOwn

/-- A preparation that raises leaves nothing behind. -/
theorem prepare_raised {error : PyError}
    (prepares : facade.prepare compiled resetReason = (prepared, .error error)) :
    prepared.plan = facade.plan ∧ prepared.scheduler = facade.scheduler ∧
      prepared.ownedRuntimes = facade.ownedRuntimes := by
  cases compiled with
  | none => cases prepares
  | some compiled =>
      rw [EngineFacade.prepare] at prepares
      rcases building : SharingScheduler.prepareReplacement compiled.plan facade.scheduler
        (decide (resetReason = .planReplaced)) facade.ledger with ⟨ledger, outcome⟩
      rw [building] at prepares
      cases outcome with
      | ok replacement => cases prepares
      | error raised =>
          cases prepares
          exact ⟨rfl, rfl, rfl⟩

/-! ## Runs -/

omit [NodeRuntime ρ] in
/-- A call that closes no candidate. -/
theorem SafeCall.unborrowing {after : EngineFacade ρ} {command : FacadeCommand ρ} {returned : Bool}
    (noClosing : command.isCandidateClose = false) (owned : after.Owned)
    (unchanged : returned = false → after.plan = facade.plan ∧ after.scheduler = facade.scheduler) :
    facade.SafeCall command after returned := by
  refine ⟨owned, ?_, fun failed _ => unchanged failed⟩
  intro index candidate scheduler isClosing
  rw [isClosing] at noClosing
  cases noClosing

omit [NodeRuntime ρ] in
/-- A call that has nothing to do with candidates. -/
theorem SafeCall.quiet {after : EngineFacade ρ} {command : FacadeCommand ρ} {returned : Bool}
    (quiet : command.isQuiet = true) (owned : after.Owned) :
    facade.SafeCall command after returned := by
  refine ⟨owned, ?_, ?_⟩
  · intro index candidate scheduler isClosing
    rw [isClosing] at quiet
    cases quiet
  · rintro _ (⟨compiled, resetReason, isPrepare⟩ | ⟨index, resetReason, isCommit⟩)
    · rw [isPrepare] at quiet
      cases quiet
    · rw [isCommit] at quiet
      cases quiet

/-- A call keeps ownership exactly when no unchecked candidate is committed. -/
theorem keepsOwnership_iff (owned : facade.Owned) (command : FacadeCommand ρ) :
    facade.KeepsOwnership command ↔ facade.CommitsChecked command := by
  constructor
  · intro keeps
    cases command with
    | commit index resetReason =>
        intro inactive candidate found plan scheduler isAvailable
        by_contra borrowsSome
        rcases List.exists_mem_of_ne_nil _ borrowsSome with ⟨id, isBorrowed⟩
        have isScheduler := available_scheduler isAvailable
        -- the borrowed runtime was closed with the scheduler that had it
        rcases owned.borrows candidate (List.mem_of_getElem? found) scheduler isScheduler id
          isBorrowed with ⟨runtime, shared, active | closed⟩
        · rw [activeRuntime, inactive] at active
          cases active
        · have committed : facade.commit index candidate resetReason =
              ({ facade with
                  plan := some plan
                  scheduler := some scheduler
                  candidates := facade.candidates.set index { candidate with
                    scheduler := none
                    committed := true } }, .ok ()) := by
            rw [EngineFacade.commit, isAvailable, inactive]
          have called : facade.call (.commit index resetReason) =
              some ((facade.commit index candidate resetReason).1, true) := by
            rw [call, found, Option.map_some, committed]
            rfl
          have after := (keeps _ _ called).owned.owns
          rw [committed] at after
          refine after.closed_of_mem ?_ closed
          rw [ownedRuntimes_active rfl]
          exact List.mem_append_left _ (SharingScheduler.mem_held shared)
    | _ => trivial
  · intro checked after returned called
    cases command with
    | prepare compiled resetReason =>
        rcases Prod.mk.inj (Option.some.inj called) with ⟨rfl, rfl⟩
        refine SafeCall.unborrowing rfl (owned.prepare compiled resetReason) ?_
        intro _
        rw [EngineFacade.prepare.eq_def]
        split
        · exact ⟨rfl, rfl⟩
        · split <;> exact ⟨rfl, rfl⟩
    | closeCandidate index =>
        rcases Option.map_eq_some_iff.mp called with ⟨candidate, found, result⟩
        rcases Prod.mk.inj result with ⟨rfl, rfl⟩
        refine ⟨owned.closeCandidate found, ?_, (fun impossible => by cases impossible)⟩
        intro other otherCandidate scheduler same isCandidate isScheduler id isBorrowed runtime
          shared closed
        cases same
        rw [found, Option.some.injEq] at isCandidate
        subst isCandidate
        exact owned.closeCandidate_spares found isScheduler isBorrowed shared closed
    | commit index resetReason =>
        rcases Option.map_eq_some_iff.mp called with ⟨candidate, found, result⟩
        rcases Prod.mk.inj result with ⟨rfl, rfl⟩
        refine SafeCall.unborrowing rfl
          (owned.commit found resetReason (fun inactive => checked inactive candidate found)) ?_
        intro failed
        rcases commits : facade.commit index candidate resetReason with ⟨committed, outcome⟩
        rw [commits] at failed
        cases outcome with
        | ok done => cases failed
        | error error =>
            have same := commit_raised commits
            exact ⟨congrArg EngineFacade.plan same, congrArg EngineFacade.scheduler same⟩
    | tick context sourceValues =>
        rcases Prod.mk.inj (Option.some.inj called) with ⟨rfl, rfl⟩
        exact SafeCall.quiet rfl (owned.tick context sourceValues)
    | resetSource sourceNodeId reason =>
        rcases Prod.mk.inj (Option.some.inj called) with ⟨rfl, rfl⟩
        exact SafeCall.quiet rfl (owned.resetSource sourceNodeId reason)
    | resetAll reason =>
        rcases Prod.mk.inj (Option.some.inj called) with ⟨rfl, rfl⟩
        exact SafeCall.quiet rfl (owned.resetAll reason)
    | panic =>
        rcases Prod.mk.inj (Option.some.inj called) with ⟨rfl, rfl⟩
        exact SafeCall.quiet rfl owned.panic
    | stop reason =>
        rcases Prod.mk.inj (Option.some.inj called) with ⟨rfl, rfl⟩
        exact SafeCall.quiet rfl (owned.stop reason)
    | close =>
        rcases Prod.mk.inj (Option.some.inj called) with ⟨rfl, rfl⟩
        exact SafeCall.quiet rfl owned.close

/-- Throughout a run every runtime has one owner and every call keeps its
promise, exactly when no candidate that borrows is committed without an active
scheduler. -/
theorem ownership_kept_iff (commands : List (FacadeCommand ρ)) :
    Meets step KeepsOwnership (initial : EngineFacade ρ) commands ↔
      Meets step CommitsChecked initial commands := by
  refine meets_congr_of_invariant
    (fun (facade : EngineFacade ρ) command (owned : facade.Owned) =>
      keepsOwnership_iff owned command) ?_ owned_initial commands
  intro facade command next owned checked stepped
  rcases Option.map_eq_some_iff.mp stepped with ⟨result, called, rfl⟩
  exact ((keepsOwnership_iff owned command).mpr checked result.1 result.2 called).owned

end EngineFacade

/-- The plan of a single node. -/
def sumPlan : DistinctPlan ScriptedRuntime where
  plan := ⟨0, 1, [sumNode 3], [1]⟩
  distinct := List.nodup_singleton _

/-- A candidate is prepared while the plan is active and committed after the
stop; the engine ticks and closes. -/
def commitAfterStop : List (FacadeCommand ScriptedRuntime) :=
  [.prepare (some sumPlan) .planReplaced, .commit 0 .planReplaced,
    .prepare (some sumPlan) .planReplaced, .stop .planReplaced, .commit 1 .planReplaced,
    .tick (FrameContext.first 9 0) Dict.empty, .close]

/-- The runtime is processed after it was closed, and closed again. -/
theorem commit_after_stop_revives :
    (run EngineFacade.step EngineFacade.initial commitAfterStop).map
        (fun facade => facade.ledger.events) =
      some [.created 0, .used 0 .reset, .closed 0, .used 0 .processed, .closed 0] ∧
    ¬ Meets EngineFacade.step EngineFacade.KeepsOwnership EngineFacade.initial
      commitAfterStop := by
  have revived : (run EngineFacade.step EngineFacade.initial commitAfterStop).map
        (fun facade => facade.ledger.events) =
      some [.created 0, .used 0 .reset, .closed 0, .used 0 .processed, .closed 0] := by
    decide +kernel
  refine ⟨revived, fun meets => ?_⟩
  rcases Option.map_eq_some_iff.mp revived with ⟨final, reached, events⟩
  have preserved : ∀ (facade : EngineFacade ScriptedRuntime) command next, facade.Owned →
      facade.KeepsOwnership command → facade.step command = some next → next.Owned := by
    intro facade command next _ keeps stepped
    rcases Option.map_eq_some_iff.mp stepped with ⟨result, called, rfl⟩
    exact (keeps result.1 result.2 called).owned
  have owned := run_invariant preserved EngineFacade.owned_initial meets reached
  have disciplined := owned.owns.disciplined
  rw [Ledger.Disciplined, events] at disciplined
  revert disciplined
  decide

end Runtime
end Synesthesia
