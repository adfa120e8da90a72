import Synesthesia.Media.PresentEffect
import Synesthesia.Media.SeekOrder

namespace Synesthesia
namespace Media

open Foundation

/-!
# The presentation of a seek

From the claim of a seek to the presentation of its first frame, the
presentation thread drops stragglers, uses no staged head, and keeps the
timeline without an anchor until it has that frame in its hands.
-/

/-- The anchor of the timeline while the first frame of a claimed seek is
awaited. -/
def PresentPhase.anchors (firstPtsS : Option ℚ) : PresentPhase → Prop
  | waiting held => ∀ anchorS ∈ firstPtsS, anchorS = held.frame.ptsSeconds
  | timing held => ∀ anchorS ∈ firstPtsS, anchorS = held.frame.ptsSeconds
  | presenting held => firstPtsS = some held.frame.ptsSeconds
  | looping => firstPtsS = none
  | claiming => firstPtsS = none
  | selecting => firstPtsS = none
  | receiving => firstPtsS = none
  | filtering _ => firstPtsS = none
  | restarting _ => False
  | _ => True

namespace VideoSourceService

open DecodeItem

variable {configuration : Configuration} {service next : VideoSourceService} {generation : Nat}
  {targetS : ℚ} {first : DecodedVideoFrame}

/-! ## A step that moves nothing of the seek -/

/-- Where the decode thread stands does not depend on the presentation thread. -/
theorem PresentEffect.fresh (effect : PresentEffect service next)
    (fresh : service.Fresh configuration targetS) : next.Fresh configuration targetS := by
  unfold Fresh at fresh ⊢
  rw [effect.decoder, effect.seekEvent, effect.passStartS, effect.recording]
  exact fresh

/-- A step of the presentation thread that moves nothing of the seek. -/
theorem Leads.of_present (leads : service.Leads configuration generation targetS first)
    (effect : PresentEffect service next)
    (transit : next.transit.filter (isOf generation) =
      service.transit.filter (isOf generation)) :
    next.Leads configuration generation targetS first := by
  refine leads.of_transit transit ?_
  rw [effect.decoder]
  exact fun fresh isOfSeek => effect.fresh (fresh isOfSeek)

/-! ## A seek that is not claimed yet -/

/-- What the presentation thread holds belongs to an earlier pass. -/
theorem hands_older (ordered : service.Ordered)
    (older : service.appliedSeekGeneration < generation) :
    service.presenter.phase.hands.filter (isOf generation) = [] := by
  refine List.filter_eq_nil_iff.mpr ?_
  intro item inHands
  have isTaken : item.seekGeneration ∈ service.presenter.taken :=
    List.mem_append_left _ (works_eq_hands service.presenter.phase item inHands)
  have bound := (ordered.taken_le _ isTaken).1
  rw [isOf_of_ne (by omega)]
  decide

/-- The thread goes on without claiming the newest seek. -/
theorem Leads.of_newest (leads : service.Leads configuration generation targetS first)
    (effect : PresentEffect service next) (ordered : service.Ordered) (after : next.Ordered)
    (takes : Observed.TakesClaimed service)
    (older : service.appliedSeekGeneration < generation)
    (applied : next.appliedSeekGeneration = service.appliedSeekGeneration) :
    next.Leads configuration generation targetS first := by
  refine leads.of_present effect ?_
  unfold transit
  rw [List.filter_append, List.filter_append, List.filter_append, List.filter_append,
    hands_older ordered older, hands_older after (applied.trans_lt older), effect.decoder]
  rcases effect.queue with same | ⟨item, queue, phase⟩
  · rw [same]
  · have another : isOf generation item = false := by
      cases ends : item.isEnd with
      | true => rw [isOf, ends, Bool.not_true, Bool.and_false]
      | false =>
          refine isOf_of_ne ?_
          rcases phase with clearing | receiving
          · simp only [Observed.TakesClaimed, clearing, queue] at takes
            have bound := takes ends
            omega
          · simp only [Observed.TakesClaimed, receiving, queue] at takes
            have bound := takes ends
            omega
    rw [queue, List.filter_cons_of_neg (by rw [another]; decide)]

/-! ## A claimed seek -/

/-- The presentation thread will not present for the claimed seek: it is about
to claim a newer one, or it has stopped presenting. -/
def Renounced (service : VideoSourceService) : Prop :=
  service.appliedSeekGeneration ≠ service.seekGeneration ∧
      (service.presenter.phase = .looping ∨ service.presenter.phase = .claiming) ∨
    service.presenter.phase.isLeaving = true

/-- The first frame of the claimed seek is on its way. -/
structure Answering (configuration : Configuration) (service : VideoSourceService)
    (targetS : ℚ) (first : DecodedVideoFrame) : Prop where
  leads : service.Leads configuration service.appliedSeekGeneration targetS first
  head : service.presenter.phase.isApplying = false →
    service.presenter.usingHead = false ∧ service.presenter.headUpto = none
  anchor : service.presenter.phase.anchors service.firstPtsS

variable (answering : Answering configuration service targetS first)
include answering

/-- What the thread holds behind the filter is the awaited frame. -/
theorem Answering.held {held : Held} (holds : service.presenter.phase.held = some held)
    (current : held.pass.seekGeneration = service.appliedSeekGeneration) :
    held.pass.startS = targetS ∧ held.frame = first := by
  have leads := answering.leads
  have isFirst : isOf service.appliedSeekGeneration (.frame held.pass held.frame) = true :=
    isOf_iff.mpr ⟨current, rfl⟩
  have inTransit : service.transit = .frame held.pass held.frame ::
      (service.decodeQueue ++ service.decoder.hands) := by
    rw [transit, PresentPhase.hands, holds]
    rfl
  unfold Leads at leads
  rw [inTransit, List.filter_cons_of_pos isFirst] at leads
  rcases leads with ⟨pass, isFrame, starts⟩
  cases isFrame
  exact ⟨starts, rfl⟩

omit answering in
/-- What has passed the filter honours the claimed seek. -/
theorem current_of_passed (ordered : service.Ordered) (filtered : service.Filtered)
    (isTaken : generation ∈ service.presenter.taken)
    (isPassed : generation ∈ service.presenter.passed) :
    generation = service.appliedSeekGeneration :=
  le_antisymm (ordered.taken_le generation isTaken).1 (filtered.passed_le generation isPassed)

omit answering in
/-- The first frame of the pass at a target passes the filter of that target. -/
theorem Begins.le_ptsSeconds (begins : Begins configuration service.recording targetS first) :
    targetS ≤ first.ptsSeconds := by
  rcases begins.2 with ⟨rest, frames⟩
  have member : first ∈ passFrames configuration service.recording targetS := by
    rw [frames]
    exact List.mem_cons_self
  exact (RegionPass.mem_handed member).2

/-- The oldest item of the queue, when the thread takes it for the seek. -/
theorem Answering.oldest (filtered : service.Filtered) (takes : Observed.TakesClaimed service)
    (phase : service.presenter.phase = .receiving) {item : DecodeItem} {rest : List DecodeItem}
    (queue : service.decodeQueue = item :: rest) :
    item.isEnd = true ∨ ∃ pass frame, item = .frame pass frame := by
  cases item with
  | finish pass => exact Or.inl rfl
  | frame pass frame => exact Or.inr ⟨pass, frame, rfl⟩
  | loop pass =>
      exfalso
      simp only [Observed.TakesClaimed, phase, queue] at takes
      rcases (takes rfl).lt_or_eq with straggler | current
      · have dropped := filtered.stragglers (by simp [phase]) (.loop pass)
          (by rw [queue]; exact List.mem_cons_self) straggler
        cases dropped
      · have leads := answering.leads
        unfold Leads transit at leads
        rw [PresentPhase.hands, phase, queue] at leads
        simp only [PresentPhase.held, List.nil_append, List.cons_append] at leads
        rw [List.filter_cons_of_pos (isOf_iff.mpr ⟨current, rfl⟩)] at leads
        rcases leads with ⟨other, isFrame, _⟩
        cases isFrame

/-- A step that keeps everything in transit. -/
theorem Answering.moves (effect : PresentEffect service next)
    (applied : next.appliedSeekGeneration = service.appliedSeekGeneration)
    (transit : next.transit = service.transit)
    (calm : service.presenter.phase.isApplying = false)
    (head : next.presenter.usingHead = service.presenter.usingHead ∧
      next.presenter.headUpto = service.presenter.headUpto)
    (anchor : next.presenter.phase.anchors next.firstPtsS) :
    Answering configuration next targetS first := by
  refine ⟨?_, ?_, anchor⟩
  · rw [applied]
    exact answering.leads.of_present effect (congrArg _ transit)
  · rw [head.1, head.2]
    exact fun _ => answering.head calm

omit answering in
theorem transit_of_phase {phase : PresentPhase}
    (hands : phase.hands = service.presenter.phase.hands) :
    (service.setPresentPhase phase).transit = service.transit :=
  congrArg (fun front => front ++ service.decodeQueue ++ service.decoder.hands) hands

/-- The thread drops what it holds when that is not of the seek. -/
theorem Answering.rejects {held : Held} (phase : service.presenter.phase = .filtering held)
    (straggler : held.pass.seekGeneration ≠ service.appliedSeekGeneration) :
    Answering configuration (service.setPresentPhase .looping) targetS first := by
  have calm : service.presenter.phase.isApplying = false := by rw [phase]; rfl
  have anchor := answering.anchor
  rw [phase] at anchor
  refine ⟨?_, fun _ => answering.head calm, anchor⟩
  have front : service.transit = .frame held.pass held.frame ::
      (service.setPresentPhase .looping).transit := by
    rw [transit, PresentPhase.hands, phase]
    rfl
  exact answering.leads.of_drop front (isOf_of_ne straggler) rfl id

/-- A step that changes the phase of the thread only. -/
theorem Answering.turn (begins : Begins configuration service.recording targetS first)
    (filtered : service.Filtered)
    (newest : service.appliedSeekGeneration = service.seekGeneration →
      targetS = service.seekTargetS) {after : PresentPhase}
    (turns : Turns service service.presenter.phase after) :
    (service.setPresentPhase after).Renounced ∨
      Answering configuration (service.setPresentPhase after) targetS first := by
  have effect := setPresentPhase_effect service after
  have anchor := answering.anchor
  generalize phase : service.presenter.phase = current at turns anchor
  cases turns with
  | exit calm stays leaves => exact Or.inl (Or.inr rfl)
  | cleared queue =>
      refine Or.inr ⟨?_, nofun, trivial⟩
      exact answering.leads.of_present effect
        (congrArg _ (transit_of_phase (by rw [phase]; rfl)))
  | drop held below =>
      by_cases newer : service.appliedSeekGeneration = service.seekGeneration
      · refine Or.inr (answering.rejects phase ?_)
        intro current
        have isHeld : service.presenter.phase.held = some held := by rw [phase]; rfl
        refine absurd ?_ below
        cases filter : service.seekFilterPts with
        | none => rfl
        | some limit =>
            rw [Option.all_some, decide_eq_true_eq, filtered.target limit filter,
              ← newest newer, (answering.held isHeld current).2]
            exact begins.le_ptsSeconds
      · exact Or.inl (Or.inl ⟨newer, Or.inl rfl⟩)
  | _ =>
      exact Or.inr (answering.moves effect rfl (transit_of_phase (by rw [phase]; rfl))
        (by rw [phase]; rfl) ⟨rfl, rfl⟩ anchor)

/-- The thread clears an item that is not of the seek. -/
theorem Answering.clear
    (takes : Observed.TakesClaimed service) (phase : service.presenter.phase = .clearing)
    {item : DecodeItem} {rest : List DecodeItem} (queue : service.decodeQueue = item :: rest)
    (effect : PresentEffect service { service with decodeQueue := rest }) :
    Answering configuration { service with decodeQueue := rest } targetS first := by
  refine ⟨?_, ?_, ?_⟩
  · have front : service.transit = item :: { service with decodeQueue := rest }.transit := by
      rw [transit, queue, transit]
      simp only [phase]
      rfl
    refine answering.leads.of_drop front ?_ rfl effect.fresh
    cases ends : item.isEnd with
    | true => rw [isOf, ends, Bool.not_true, Bool.and_false]
    | false =>
        simp only [Observed.TakesClaimed, phase, queue] at takes
        exact isOf_of_ne (takes ends).ne
  · intro calm
    simp only [phase] at calm
    cases calm
  · simp only [phase]
    trivial

omit answering in
/-- The first timed frame anchors the timeline, and it is the awaited one. -/
theorem or_anchor {firstPtsS : Option ℚ} {held : Held}
    (anchor : (PresentPhase.timing held).anchors firstPtsS) :
    firstPtsS.or (some held.frame.ptsSeconds) = some held.frame.ptsSeconds := by
  cases isAnchor : firstPtsS with
  | none => rfl
  | some anchorS =>
      rw [Option.some_or, anchor anchorS isAnchor]

theorem Answering.presentStep (begins : Begins configuration service.recording targetS first)
    (filtered : service.Filtered) (takes : Observed.TakesClaimed service)
    (settled : ¬ service.Renounced)
    (newest : service.appliedSeekGeneration = service.seekGeneration →
      targetS = service.seekTargetS)
    (working : ∀ held, service.presenter.phase ≠ .publishing held) {choice : Choice}
    (taken : service.presentStep choice = some next) :
    next.Renounced ∨ Answering configuration next targetS first := by
  have effect := presentStep_effect taken
  have anchor := answering.anchor
  have head := answering.head
  rcases presentStep_cases taken with ⟨current, phase, presents⟩
  rw [phase] at anchor
  cases presents with
  | turn turns => exact answering.turn begins filtered newest (phase ▸ turns)
  | claim pending => exact absurd (Or.inl ⟨pending.symm, Or.inr phase⟩) settled
  | clear queue => exact Or.inr (answering.clear takes phase queue effect)
  | reset =>
      refine Or.inr ⟨?_, fun _ => ⟨rfl, rfl⟩, rfl⟩
      refine answering.leads.of_present effect (congrArg _ ?_)
      rw [transit, transit, phase]
      rfl
  | spent =>
      refine Or.inr (answering.moves effect rfl ?_ (by rw [phase]; rfl) ?_ anchor)
      · rw [transit, transit, phase]
        rfl
      · exact ⟨(head (by rw [phase]; rfl)).1.symm, rfl⟩
  | staged usingHead =>
      cases usingHead.symm.trans (head (by rw [phase]; rfl)).1
  | finish queue => exact Or.inl (Or.inr rfl)
  | loop queue =>
      rcases answering.oldest filtered takes phase queue with ends | ⟨pass, frame, isFrame⟩
      · cases ends
      · cases isFrame
  | duplicate queue again =>
      rw [Presenter.isDuplicate, (head (by rw [phase]; rfl)).2] at again
      cases again
  | frame queue =>
      refine Or.inr (answering.moves effect rfl ?_ (by rw [phase]; rfl) ⟨rfl, rfl⟩ anchor)
      rw [transit, transit, phase, queue]
      rfl
  | accept accepted =>
      refine Or.inr (answering.moves effect rfl ?_ (by rw [phase]; rfl) ⟨rfl, rfl⟩ ?_)
      · rw [transit, transit, phase]
        rfl
      · intro anchorS isAnchor
        have unanchored : service.firstPtsS = none := anchor
        cases unanchored.symm.trans isAnchor
  | due running playing =>
      refine Or.inr (answering.moves effect rfl ?_ (by rw [phase]; rfl) ⟨rfl, rfl⟩
        (or_anchor anchor))
      rw [transit, transit, phase]
      rfl
  | early =>
      refine Or.inr (answering.moves effect rfl ?_ (by rw [phase]; rfl) ⟨rfl, rfl⟩ ?_)
      · rw [transit, transit, phase]
        rfl
      · intro anchorS isAnchor
        exact Option.some.inj (isAnchor.symm.trans (or_anchor anchor))
  | present running playing =>
      refine Or.inr (answering.moves effect rfl ?_ (by rw [phase]; rfl) ⟨rfl, rfl⟩ trivial)
      rw [transit, transit, phase]
      rfl
  | raise => exact absurd phase (working _)
  | publish => exact absurd phase (working _)
  | fail => exact absurd (Or.inr (by rw [phase]; rfl)) settled
  | restart => exact anchor.elim
  | finished => exact absurd (Or.inr (by rw [phase]; rfl)) settled

omit answering

/-! ## The frame that is presented -/

/-- A frame becomes due only while the source plays, and is published with the
timeline that it has been timed with. -/
theorem presentStep_due {choice : Choice} (taken : service.presentStep choice = some next) :
    (∀ held, next.presenter.phase ≠ .presenting held ∧ next.presenter.phase ≠ .publishing held) ∨
      service.state = .playing ∧ service.stopEvent = false ∧
        ((∃ held, service.presenter.phase = .timing held ∧
            next.presenter.phase = .presenting held) ∨
          ∃ held, service.presenter.phase = .presenting held ∧
            next.presenter.phase = .publishing held ∧ next.firstPtsS = service.firstPtsS) := by
  rcases presentStep_cases taken with ⟨current, phase, presents⟩
  cases presents with
  | turn turns =>
      left
      cases turns with
      | _ => exact PresentPhase.not_due rfl
  | clear queue =>
      left
      simp only [phase]
      exact PresentPhase.not_due rfl
  | due running playing => exact Or.inr ⟨playing, running, Or.inl ⟨_, phase, rfl⟩⟩
  | present running playing => exact Or.inr ⟨playing, running, Or.inr ⟨_, phase, rfl, rfl⟩⟩
  | _ => exact Or.inl (PresentPhase.not_due rfl)

theorem Renounced.presentStep (renounced : service.Renounced) (effect : PresentEffect service next)
    {choice : Choice} (applied : next.appliedSeekGeneration = service.appliedSeekGeneration)
    (taken : service.presentStep choice = some next) : next.Renounced := by
  rcases renounced with ⟨pending, phase⟩ | leaving
  · rcases claiming_presentStep phase pending applied taken with claiming | leaving
    · refine Or.inl ⟨?_, Or.inr claiming⟩
      rw [applied, effect.seekGeneration]
      exact pending
    · exact Or.inr leaving
  · exact Or.inr (leaving_presentStep leaving taken)

end VideoSourceService
end Media
end Synesthesia
