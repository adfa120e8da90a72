import Synesthesia.Media.DecodeEffect
import Synesthesia.Media.PresentEffect
import Synesthesia.Media.SeekStream

namespace Synesthesia
namespace Media

open Foundation

/-!
# The order of the passes

Passes honour seeks in the order of their generations, and the queue keeps
them in that order.  Behind a claimed seek, what an earlier pass still puts is
below the filter or is cleared.
-/

/-- The generation of the loop boundary whose head is being used. -/
def Presenter.head (presenter : Presenter) : List Nat :=
  if presenter.usingHead then [presenter.pass.seekGeneration] else []

/-- The generation that a phase of the presentation thread works for. -/
def PresentPhase.works : PresentPhase → List Nat
  | filtering held => [held.pass.seekGeneration]
  | waiting held => [held.pass.seekGeneration]
  | timing held => [held.pass.seekGeneration]
  | presenting held => [held.pass.seekGeneration]
  | publishing held => [held.pass.seekGeneration]
  | restarting pass => [pass.seekGeneration]
  | _ => []

/-- The generations of what the presentation thread has taken and still uses. -/
def Presenter.taken (presenter : Presenter) : List Nat :=
  presenter.phase.works ++ presenter.head

/-- Those of them that the filter has let through; a seek that is being applied
gives up the head. -/
def Presenter.passed (presenter : Presenter) : List Nat :=
  match presenter.phase with
  | .clearing => []
  | .resetting => []
  | .filtering _ => presenter.head
  | phase => phase.works ++ presenter.head

/-- An item that is dropped when the presentation thread takes it. -/
def DecodeItem.isDropped (filter : Option ℚ) : DecodeItem → Bool
  | frame _ decoded => Observed.isFiltered filter decoded
  | loop _ => false
  | finish _ => true

namespace VideoSourceService

/-- The generations in the queue, oldest first, and that of the running pass. -/
def flow (service : VideoSourceService) : List Nat :=
  service.decodeQueue.map DecodeItem.seekGeneration ++ [service.decoder.pass.seekGeneration]

structure Ordered (service : VideoSourceService) : Prop where
  applied_le : service.appliedSeekGeneration ≤ service.seekGeneration
  decode_le : service.decoder.pass.seekGeneration ≤ service.seekGeneration
  sorted : service.flow.Pairwise (fun older newer => older ≤ newer)
  taken_le : ∀ generation ∈ service.presenter.taken,
    generation ≤ service.appliedSeekGeneration ∧ ∀ other ∈ service.flow, generation ≤ other

variable {configuration : Configuration} {service next : VideoSourceService}

theorem ordered_initial (recording : Recording) : (initial recording).Ordered :=
  ⟨le_rfl, le_rfl, List.pairwise_singleton _ 0, fun _ isTaken => nomatch isTaken⟩

/-- Every generation in the queue is at most that of the running pass. -/
theorem Ordered.queue_le (ordered : service.Ordered) {item : DecodeItem}
    (member : item ∈ service.decodeQueue) :
    item.seekGeneration ≤ service.decoder.pass.seekGeneration :=
  (List.pairwise_append.mp ordered.sorted).2.2 _ (List.mem_map_of_mem member) _
    (List.mem_singleton_self _)

/-- The presentation thread takes from the front of the queue. -/
theorem Ordered.of_present (ordered : service.Ordered)
    (seekGeneration : next.seekGeneration = service.seekGeneration)
    (applied : next.appliedSeekGeneration = service.appliedSeekGeneration)
    (decoder : next.decoder = service.decoder)
    (queue : next.decodeQueue <:+ service.decodeQueue)
    (taken : ∀ generation ∈ next.presenter.taken,
      generation ∈ service.presenter.taken ∨
        generation ≤ service.appliedSeekGeneration ∧ ∀ other ∈ next.flow, generation ≤ other) :
    next.Ordered := by
  rcases queue with ⟨front, split⟩
  have isFlow : service.flow = front.map DecodeItem.seekGeneration ++ next.flow := by
    unfold flow
    rw [decoder, ← split, List.map_append, List.append_assoc]
  refine ⟨?_, ?_, ?_, ?_⟩
  · rw [applied, seekGeneration]
    exact ordered.applied_le
  · rw [decoder, seekGeneration]
    exact ordered.decode_le
  · have sorted := ordered.sorted
    rw [isFlow] at sorted
    exact (List.pairwise_append.mp sorted).2.1
  · intro generation isTaken
    rw [applied]
    rcases taken generation isTaken with already | fresh
    · have bounds := ordered.taken_le generation already
      refine ⟨bounds.1, fun other member => bounds.2 other ?_⟩
      rw [isFlow]
      exact List.mem_append_right _ member
    · exact fresh

/-- Stragglers of a pass that does not honour the claimed seek are dropped. -/
structure Filtered (service : VideoSourceService) : Prop where
  target : ∀ limit, service.seekFilterPts = some limit → limit = service.seekTargetS
  stragglers : service.presenter.phase ≠ .clearing → ∀ item ∈ service.decodeQueue,
    item.seekGeneration < service.appliedSeekGeneration →
      item.isDropped service.seekFilterPts = true
  filtering : ∀ held, service.presenter.phase = .filtering held →
    held.pass.seekGeneration < service.appliedSeekGeneration →
      Observed.isFiltered service.seekFilterPts held.frame = true
  passed_le : ∀ generation ∈ service.presenter.passed,
    service.appliedSeekGeneration ≤ generation

theorem filtered_initial (recording : Recording) : (initial recording).Filtered :=
  ⟨nofun, (fun _ _ member => nomatch member), nofun, fun _ isPassed => nomatch isPassed⟩

theorem works_eq_hands (phase : PresentPhase) (item : DecodeItem)
    (member : item ∈ phase.hands) : item.seekGeneration ∈ phase.works := by
  unfold PresentPhase.hands at member
  cases phase with
  | filtering held => exact List.mem_singleton.mpr (congrArg _ (List.mem_singleton.mp member))
  | waiting held => exact List.mem_singleton.mpr (congrArg _ (List.mem_singleton.mp member))
  | timing held => exact List.mem_singleton.mpr (congrArg _ (List.mem_singleton.mp member))
  | presenting held => exact List.mem_singleton.mpr (congrArg _ (List.mem_singleton.mp member))
  | publishing held => exact List.mem_singleton.mpr (congrArg _ (List.mem_singleton.mp member))
  | _ => cases member

/-! ## The presentation thread -/

theorem head_passed {presenter : Presenter} (calm : presenter.phase.isApplying = false)
    {generation : Nat} (isHead : generation ∈ presenter.head) : generation ∈ presenter.passed := by
  unfold Presenter.passed
  cases phase : presenter.phase with
  | clearing =>
      rw [phase] at calm
      cases calm
  | resetting =>
      rw [phase] at calm
      cases calm
  | filtering held => exact isHead
  | _ => exact List.mem_append_right _ isHead

/-- A step that keeps the filter, outside the clearing of the queue. -/
theorem Filtered.of_present (filtered : service.Filtered)
    (targetS : next.seekTargetS = service.seekTargetS)
    (filter : next.seekFilterPts = service.seekFilterPts)
    (applied : next.appliedSeekGeneration = service.appliedSeekGeneration)
    (queue : next.decodeQueue <:+ service.decodeQueue)
    (notClearing : service.presenter.phase ≠ .clearing)
    (filtering : ∀ held, next.presenter.phase = .filtering held →
      held.pass.seekGeneration < service.appliedSeekGeneration →
        Observed.isFiltered service.seekFilterPts held.frame = true)
    (passed : ∀ generation ∈ next.presenter.passed,
      generation ∈ service.presenter.passed ∨ service.appliedSeekGeneration ≤ generation) :
    next.Filtered := by
  refine ⟨?_, ?_, ?_, ?_⟩
  · rw [filter, targetS]
    exact filtered.target
  · intro _ item member
    rw [applied, filter]
    exact filtered.stragglers notClearing item (queue.subset member)
  · rw [applied, filter]
    exact filtering
  · intro generation isPassed
    rw [applied]
    exact (passed generation isPassed).elim (filtered.passed_le generation) id

/-- The presentation thread goes on with what it has, or lets go of it. -/
theorem ordered_of_moves (ordered : service.Ordered) (filtered : service.Filtered)
    (seekGeneration : next.seekGeneration = service.seekGeneration)
    (applied : next.appliedSeekGeneration = service.appliedSeekGeneration)
    (targetS : next.seekTargetS = service.seekTargetS)
    (filter : next.seekFilterPts = service.seekFilterPts)
    (decoder : next.decoder = service.decoder)
    (queue : next.decodeQueue <:+ service.decodeQueue)
    (calm : service.presenter.phase.isApplying = false)
    (works : next.presenter.phase.works = [] ∨
      next.presenter.phase.works = service.presenter.phase.works ∧
        ∀ held, service.presenter.phase ≠ .filtering held)
    (filtering : ∀ held, next.presenter.phase ≠ .filtering held)
    (head : next.presenter.head = [] ∨ next.presenter.head = service.presenter.head) :
    next.Ordered ∧ next.Filtered := by
  have heads : ∀ generation ∈ next.presenter.head, generation ∈ service.presenter.head := by
    intro generation isHead
    rcases head with none | same
    · rw [none] at isHead
      cases isHead
    · rw [← same]
      exact isHead
  constructor
  · refine ordered.of_present seekGeneration applied decoder queue ?_
    intro generation isTaken
    left
    rcases List.mem_append.mp isTaken with isWork | isHead
    · rcases works with none | ⟨same, _⟩
      · rw [none] at isWork
        cases isWork
      · rw [same] at isWork
        exact List.mem_append_left _ isWork
    · exact List.mem_append_right _ (heads generation isHead)
  · refine ⟨?_, ?_, fun held isFiltering => absurd isFiltering (filtering held), ?_⟩
    · rw [filter, targetS]
      exact filtered.target
    · intro _ item member
      rw [applied, filter]
      refine filtered.stragglers ?_ item (queue.subset member)
      intro isClearing
      rw [isClearing] at calm
      cases calm
    · intro generation isPassed
      rw [applied]
      have parts : generation ∈ next.presenter.phase.works ++ next.presenter.head := by
        unfold Presenter.passed at isPassed
        cases phase : next.presenter.phase with
        | clearing =>
            rw [phase] at isPassed
            cases isPassed
        | resetting =>
            rw [phase] at isPassed
            cases isPassed
        | filtering held => exact absurd phase (filtering held)
        | _ =>
            rw [phase] at isPassed
            exact isPassed
      rcases List.mem_append.mp parts with isWork | isHead
      · rcases works with none | ⟨same, passed⟩
        · rw [none] at isWork
          cases isWork
        · rw [same] at isWork
          refine filtered.passed_le generation ?_
          unfold Presenter.passed
          cases phase : service.presenter.phase with
          | filtering held => exact absurd phase (passed held)
          | clearing =>
              rw [phase] at calm
              cases calm
          | resetting =>
              rw [phase] at calm
              cases calm
          | _ =>
              rw [phase] at isWork
              exact List.mem_append_left _ isWork
      · exact filtered.passed_le generation (head_passed calm (heads generation isHead))

/-- What passes the filter is not a straggler. -/
theorem Filtered.passes (filtered : service.Filtered) {held : Held}
    (phase : service.presenter.phase = .filtering held)
    (accepted : service.seekFilterPts.all
      (fun limit => decide (limit ≤ held.frame.ptsSeconds)) = true) :
    service.appliedSeekGeneration ≤ held.pass.seekGeneration := by
  by_contra straggler
  have below := filtered.filtering held phase (not_le.mp straggler)
  unfold Observed.isFiltered at below
  cases filter : service.seekFilterPts with
  | none =>
      rw [filter] at below
      cases below
  | some limit =>
      rw [filter] at below accepted
      exact absurd (of_decide_eq_true below) (not_lt.mpr (of_decide_eq_true accepted))

/-- A step that changes the phase of the thread only. -/
theorem turn_ordered {after : PresentPhase} (ordered : service.Ordered)
    (filtered : service.Filtered) (turns : Turns service service.presenter.phase after) :
    (service.setPresentPhase after).Ordered ∧ (service.setPresentPhase after).Filtered := by
  have same := List.suffix_refl service.decodeQueue
  generalize phase : service.presenter.phase = current at turns
  cases turns with
  | exit calm stays leaves =>
      rw [← phase] at calm
      exact ordered_of_moves ordered filtered rfl rfl rfl rfl rfl same calm (Or.inl rfl) nofun
        (Or.inr rfl)
  | cleared queue =>
      refine ⟨ordered.of_present rfl rfl rfl same ?_, filtered.target, ?_, nofun, nofun⟩
      · exact fun generation isTaken => Or.inl (List.mem_append_right _ isTaken)
      · intro _ item member
        rw [show (service.setPresentPhase .resetting).decodeQueue = service.decodeQueue from rfl,
          queue] at member
        cases member
  | time held running playing =>
      have passed : ∀ other, service.presenter.phase ≠ .filtering other := by rw [phase]; nofun
      exact ordered_of_moves ordered filtered rfl rfl rfl rfl rfl same (by rw [phase]; rfl)
        (Or.inr ⟨by rw [phase]; rfl, passed⟩) nofun (Or.inr rfl)
  | _ =>
      exact ordered_of_moves ordered filtered rfl rfl rfl rfl rfl same (by rw [phase]; rfl)
        (Or.inl rfl) nofun (Or.inr rfl)

/-- The thread takes the oldest item of the queue and works for its pass. -/
theorem take_ordered (ordered : service.Ordered) (filtered : service.Filtered)
    (phase : service.presenter.phase = .receiving) {item : DecodeItem} {rest : List DecodeItem}
    (queue : service.decodeQueue = item :: rest)
    (bound : item.seekGeneration ≤ service.appliedSeekGeneration) {after : PresentPhase}
    (works : after.works = [item.seekGeneration])
    (filtering : ∀ held, after = .filtering held →
      held.pass.seekGeneration < service.appliedSeekGeneration →
        Observed.isFiltered service.seekFilterPts held.frame = true)
    (passed : ∀ generation ∈ (service.setPresentPhase after).presenter.passed,
      generation ∈ service.presenter.passed ∨ service.appliedSeekGeneration ≤ generation) :
    ({ service with decodeQueue := rest }.setPresentPhase after).Ordered ∧
      ({ service with decodeQueue := rest }.setPresentPhase after).Filtered := by
  have shorter : rest <:+ service.decodeQueue := by
    rw [queue]
    exact List.suffix_cons item rest
  have isFlow : service.flow = item.seekGeneration :: (rest.map DecodeItem.seekGeneration ++
      [service.decoder.pass.seekGeneration]) := by
    rw [flow, queue]
    rfl
  have oldest := ordered.sorted
  rw [isFlow] at oldest
  refine ⟨ordered.of_present rfl rfl rfl shorter ?_,
    filtered.of_present rfl rfl rfl shorter (by rw [phase]; nofun) filtering passed⟩
  intro generation isTaken
  rcases List.mem_append.mp isTaken with isWork | already
  · change generation ∈ after.works at isWork
    rw [works] at isWork
    rw [List.mem_singleton.mp isWork]
    exact Or.inr ⟨bound, (List.pairwise_cons.mp oldest).1⟩
  · exact Or.inl (List.mem_append_right _ already)

/-- The thread works for the frame that it takes from the head. -/
theorem staged_ordered (ordered : service.Ordered) (filtered : service.Filtered)
    (phase : service.presenter.phase = .selecting) (usingHead : service.presenter.usingHead = true)
    {frame : DecodedVideoFrame} {heads : List (List DecodedVideoFrame)}
    (result : next = { service with heads := heads }.setPresentPhase
      (.filtering ⟨service.presenter.pass, frame, true⟩)) : next.Ordered ∧ next.Filtered := by
  subst result
  have same := List.suffix_refl service.decodeQueue
  have calm : service.presenter.phase.isApplying = false := by rw [phase]; rfl
  have isHead : service.presenter.pass.seekGeneration ∈ service.presenter.head := by
    rw [Presenter.head, if_pos usingHead]
    exact List.mem_singleton_self _
  refine ⟨ordered.of_present rfl rfl rfl same ?_,
    filtered.of_present rfl rfl rfl same (by rw [phase]; nofun) ?_ ?_⟩
  · intro generation isTaken
    left
    rcases List.mem_append.mp isTaken with isWork | already
    · rw [List.mem_singleton.mp isWork]
      exact List.mem_append_right _ isHead
    · exact List.mem_append_right _ already
  · intro held isFiltering straggler
    cases isFiltering
    exact absurd straggler (not_lt.mpr (filtered.passed_le _ (head_passed calm isHead)))
  · exact fun generation isPassed => Or.inl (head_passed calm isPassed)

/-- What passes the filter takes the filter away. -/
theorem accept_ordered (ordered : service.Ordered) (filtered : service.Filtered) {held : Held}
    (phase : service.presenter.phase = .filtering held)
    (accepted : service.seekFilterPts.all
      (fun limit => decide (limit ≤ held.frame.ptsSeconds)) = true)
    (result : next = { service.setPresentPhase (.waiting held) with seekFilterPts := none }) :
    next.Ordered ∧ next.Filtered := by
  subst result
  have calm : service.presenter.phase.isApplying = false := by rw [phase]; rfl
  have current := filtered.passes phase accepted
  have isTaken : held.pass.seekGeneration ∈ service.presenter.taken := by
    rw [Presenter.taken, phase]
    exact .head _
  refine ⟨ordered.of_present rfl rfl rfl (List.suffix_refl _) ?_, nofun, ?_, nofun, ?_⟩
  · intro generation isTaken
    left
    rw [Presenter.taken, phase]
    exact isTaken
  · intro _ item member straggler
    have newer := (ordered.taken_le _ isTaken).2 item.seekGeneration
      (List.mem_append_left _ (List.mem_map_of_mem member))
    exact absurd straggler (not_lt.mpr (current.trans newer))
  · intro generation isPassed
    rcases List.mem_cons.mp isPassed with rfl | isHead
    · exact current
    · exact filtered.passed_le generation (head_passed calm isHead)

theorem presentStep_ordered {choice : Choice} (ordered : service.Ordered)
    (filtered : service.Filtered) (takes : Observed.TakesClaimed service)
    (taken : service.presentStep choice = some next) : next.Ordered ∧ next.Filtered := by
  have same := List.suffix_refl service.decodeQueue
  have shorter : ∀ {item rest}, service.decodeQueue = item :: rest →
      rest <:+ service.decodeQueue := fun queue => queue ▸ List.suffix_cons _ _
  rcases presentStep_cases taken with ⟨current, phase, presents⟩
  cases presents with
  | turn turns => exact turn_ordered ordered filtered (phase ▸ turns)
  | claim pending =>
      refine ⟨⟨le_rfl, ordered.decode_le, ordered.sorted, ?_⟩,
        ⟨filtered.target, (fun notClearing => absurd rfl notClearing), nofun, nofun⟩⟩
      intro generation isTaken
      have bounds := ordered.taken_le generation (List.mem_append_right _ isTaken)
      exact ⟨bounds.1.trans ordered.applied_le, bounds.2⟩
  | clear queue =>
      refine ⟨ordered.of_present rfl rfl rfl (shorter queue) (fun _ => Or.inl), filtered.target,
        (fun notClearing => absurd phase notClearing), ?_, ?_⟩
      · intro held isFiltering
        cases phase.symm.trans isFiltering
      · intro generation isPassed
        unfold Presenter.passed at isPassed
        simp only [phase] at isPassed
        cases isPassed
  | reset =>
      refine ⟨ordered.of_present rfl rfl rfl same nofun, filtered.target, ?_, nofun, nofun⟩
      exact fun _ => filtered.stragglers (by rw [phase]; nofun)
  | spent =>
      exact ordered_of_moves ordered filtered rfl rfl rfl rfl rfl same (by rw [phase]; rfl)
        (Or.inl rfl) nofun (Or.inl rfl)
  | staged usingHead => exact staged_ordered ordered filtered phase usingHead rfl
  | finish queue =>
      exact ordered_of_moves ordered filtered rfl rfl rfl rfl rfl (shorter queue)
        (by rw [phase]; rfl) (Or.inl rfl) nofun (Or.inr rfl)
  | duplicate queue again =>
      exact ordered_of_moves ordered filtered rfl rfl rfl rfl rfl (shorter queue)
        (by rw [phase]; rfl) (Or.inl rfl) nofun (Or.inr rfl)
  | loop queue =>
      have waiting := filtered.stragglers (by rw [phase]; nofun) _ (by rw [queue]; exact .head _)
      simp only [Observed.TakesClaimed, phase, queue] at takes
      refine take_ordered ordered filtered phase queue (takes rfl) rfl nofun ?_
      intro generation isPassed
      rcases List.mem_cons.mp isPassed with rfl | isHead
      · right
        by_contra straggler
        cases waiting (not_le.mp straggler)
      · exact Or.inl (head_passed (by rw [phase]; rfl) isHead)
  | frame queue =>
      have waiting := filtered.stragglers (by rw [phase]; nofun) _ (by rw [queue]; exact .head _)
      simp only [Observed.TakesClaimed, phase, queue] at takes
      refine take_ordered ordered filtered phase queue (takes rfl) rfl ?_ ?_
      · intro held isFiltering straggler
        cases isFiltering
        exact waiting straggler
      · exact fun generation isPassed => Or.inl (head_passed (by rw [phase]; rfl) isPassed)
  | accept accepted => exact accept_ordered ordered filtered phase accepted rfl
  | due running playing =>
      exact ordered_of_moves ordered filtered rfl rfl rfl rfl rfl same (by rw [phase]; rfl)
        (Or.inr ⟨by rw [phase]; rfl, by rw [phase]; nofun⟩) nofun (Or.inr rfl)
  | early =>
      exact ordered_of_moves ordered filtered rfl rfl rfl rfl rfl same (by rw [phase]; rfl)
        (Or.inr ⟨by rw [phase]; rfl, by rw [phase]; nofun⟩) nofun (Or.inr rfl)
  | present running playing =>
      exact ordered_of_moves ordered filtered rfl rfl rfl rfl rfl same (by rw [phase]; rfl)
        (Or.inr ⟨by rw [phase]; rfl, by rw [phase]; nofun⟩) nofun (Or.inr rfl)
  | raise =>
      unfold failFrom
      split_ifs
      · exact ordered_of_moves ordered filtered rfl rfl rfl rfl rfl same (by rw [phase]; rfl)
          (Or.inl rfl) nofun (Or.inr rfl)
      · exact ordered_of_moves ordered filtered rfl rfl rfl rfl rfl same (by rw [phase]; rfl)
          (Or.inl rfl) nofun (Or.inr rfl)
  | publish =>
      exact ordered_of_moves ordered filtered rfl rfl rfl rfl rfl same (by rw [phase]; rfl)
        (Or.inl rfl) nofun (Or.inr rfl)
  | fail =>
      exact ordered_of_moves ordered filtered rfl rfl rfl rfl rfl same (by rw [phase]; rfl)
        (Or.inl rfl) nofun (Or.inr rfl)
  | restart =>
      refine ⟨ordered.of_present rfl rfl rfl same ?_,
        filtered.of_present rfl rfl rfl same (by rw [phase]; nofun) nofun ?_⟩
      · intro generation isHead
        rw [List.mem_singleton.mp isHead, Presenter.taken, phase]
        exact Or.inl (.head _)
      · intro generation isHead
        rw [List.mem_singleton.mp isHead, Presenter.passed, phase]
        exact Or.inl (.head _)
  | finished =>
      exact ordered_of_moves ordered filtered rfl rfl rfl rfl rfl same (by rw [phase]; rfl)
        (Or.inl rfl) nofun (Or.inl rfl)

/-! ## The decode thread -/

/-- Nothing in the flow falls behind what was there. -/
theorem flow_grows (ordered : service.Ordered) (effect : DecodeEffect service next) :
    next.flow.Pairwise (fun older newer => older ≤ newer) ∧
      ∀ newer ∈ next.flow, ∃ older ∈ service.flow, older ≤ newer := by
  have last : service.decoder.pass.seekGeneration ∈ service.flow :=
    List.mem_append_right _ (List.mem_singleton_self _)
  rcases effect.queue with same | ⟨put, _, grown⟩
  · have isFlow : next.flow = service.decodeQueue.map DecodeItem.seekGeneration ++
        [next.decoder.pass.seekGeneration] := by
      rw [flow, same]
    have newer : service.decoder.pass.seekGeneration ≤ next.decoder.pass.seekGeneration := by
      rcases effect.seekGeneration with kept | ⟨honours, _⟩
      · exact kept.ge
      · rw [honours]
        exact ordered.decode_le
    rw [isFlow]
    constructor
    · rcases List.pairwise_append.mp ordered.sorted with ⟨queue, _, behind⟩
      refine List.pairwise_append.mpr ⟨queue, List.pairwise_singleton _ _, ?_⟩
      intro older member other isLast
      rw [List.mem_singleton.mp isLast]
      exact (behind older member _ (List.mem_singleton_self _)).trans newer
    · intro other member
      rcases List.mem_append.mp member with queued | isLast
      · exact ⟨other, List.mem_append_left _ queued, le_rfl⟩
      · rw [List.mem_singleton.mp isLast]
        exact ⟨_, last, newer⟩
  · have kept : next.decoder.pass.seekGeneration = service.decoder.pass.seekGeneration := by
      rcases effect.seekGeneration with kept | ⟨_, same⟩
      · exact kept
      · have longer := congrArg List.length (same.symm.trans grown)
        simp at longer
    have isFlow : next.flow = service.flow ++ [service.decoder.pass.seekGeneration] := by
      rw [flow, grown, List.map_append, kept, flow]
      simp [DecodeItem.seekGeneration, Put.item_pass]
    rw [isFlow]
    constructor
    · refine List.pairwise_append.mpr ⟨ordered.sorted, List.pairwise_singleton _ _, ?_⟩
      intro older member other isLast
      rw [List.mem_singleton.mp isLast]
      rcases List.mem_append.mp member with queued | isNewest
      · exact (List.pairwise_append.mp ordered.sorted).2.2 older queued _
          (List.mem_singleton_self _)
      · exact (List.mem_singleton.mp isNewest).le
    · intro other member
      rcases List.mem_append.mp member with already | isLast
      · exact ⟨other, already, le_rfl⟩
      · rw [List.mem_singleton.mp isLast]
        exact ⟨_, last, le_rfl⟩

theorem decodeStep_ordered (ordered : service.Ordered) (filtered : service.Filtered)
    (puts : Observed.PutsDropped service) (effect : DecodeEffect service next) :
    next.Ordered ∧ next.Filtered := by
  rcases flow_grows ordered effect with ⟨sorted, grows⟩
  constructor
  · refine ⟨?_, ?_, sorted, ?_⟩
    · rw [effect.appliedSeekGeneration, effect.newestSeek]
      exact ordered.applied_le
    · rw [effect.newestSeek]
      rcases effect.seekGeneration with kept | ⟨honours, _⟩
      · rw [kept]
        exact ordered.decode_le
      · exact honours.le
    · rw [effect.presenter, effect.appliedSeekGeneration]
      intro generation isTaken
      have bounds := ordered.taken_le generation isTaken
      refine ⟨bounds.1, ?_⟩
      intro newer member
      rcases grows newer member with ⟨older, already, le⟩
      exact (bounds.2 older already).trans le
  · refine ⟨?_, ?_, ?_, ?_⟩
    · rw [effect.seekFilterPts, effect.seekTargetS]
      exact filtered.target
    · rw [effect.presenter, effect.appliedSeekGeneration, effect.seekFilterPts]
      intro notClearing item member straggler
      rcases effect.queue with same | ⟨put, offering, grown⟩
      · rw [same] at member
        exact filtered.stragglers notClearing item member straggler
      · rw [grown] at member
        rcases List.mem_append.mp member with already | isNew
        · exact filtered.stragglers notClearing item already straggler
        · rw [List.mem_singleton.mp isNew] at straggler ⊢
          rw [DecodeItem.seekGeneration, Put.item_pass] at straggler
          rcases puts straggler with clearing | dropped
          · exact absurd clearing notClearing
          · rw [offering] at dropped
            cases put with
            | frame decoded rest => exact dropped
            | loop => exact dropped.elim
            | finish => rfl
    · rw [effect.presenter, effect.appliedSeekGeneration, effect.seekFilterPts]
      exact filtered.filtering
    · rw [effect.presenter, effect.appliedSeekGeneration]
      exact filtered.passed_le

end VideoSourceService
end Media
end Synesthesia
