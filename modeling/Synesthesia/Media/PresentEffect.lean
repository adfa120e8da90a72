import Synesthesia.Media.VideoSourceService

namespace Synesthesia
namespace Media

/-!
# What the presentation thread and the head thread do

The presentation thread takes from the front of the queue and claims seeks; it
leaves the decode thread, the seek event and the caller alone.  The head thread
changes its own queues only.
-/

/-- The phases between the wait for the due time and the callback. -/
def PresentPhase.isDue : PresentPhase → Bool
  | presenting _ => true
  | publishing _ => true
  | _ => false

theorem PresentPhase.not_due {phase : PresentPhase} (undue : phase.isDue = false) (held : Held) :
    phase ≠ .presenting held ∧ phase ≠ .publishing held := by
  constructor
  · rintro rfl
    cases undue
  · rintro rfl
    cases undue

/-- A seek has been claimed and is not applied yet. -/
def PresentPhase.isApplying : PresentPhase → Bool
  | clearing => true
  | resetting => true
  | _ => false

/-- The thread will present nothing more. -/
def PresentPhase.isLeaving : PresentPhase → Bool
  | exited => true
  | failing => true
  | ending => true
  | _ => false

namespace VideoSourceService

variable {service next : VideoSourceService}

/-! ## The presentation thread -/

structure PresentEffect (service next : VideoSourceService) : Prop where
  recording : next.recording = service.recording
  seekEvent : next.seekEvent = service.seekEvent
  passStartS : next.passStartS = service.passStartS
  seekTargetS : next.seekTargetS = service.seekTargetS
  seekGeneration : next.seekGeneration = service.seekGeneration
  decoder : next.decoder = service.decoder
  caller : next.caller = service.caller
  headQueue : next.headQueue = service.headQueue
  heads : next.heads.length = service.heads.length
  stopEvent : service.stopEvent = true → next.stopEvent = true
  state : next.state = service.state ∨ next.state = .error ∨ next.state = .ended
  queue : next.decodeQueue = service.decodeQueue ∨
    ∃ item, service.decodeQueue = item :: next.decodeQueue ∧
      (service.presenter.phase = .clearing ∨ service.presenter.phase = .receiving)
  applied : next.appliedSeekGeneration = service.appliedSeekGeneration ∨
    service.presenter.phase = .claiming ∧
      service.seekGeneration ≠ service.appliedSeekGeneration ∧
      next = { service.setPresentPhase .clearing with
        appliedSeekGeneration := service.seekGeneration }

/-- A step that changes the presenter and the progress of the source only. -/
theorem presentEffect_of_same
    (same : ∃ (presenter : Presenter) (filter firstPtsS : Option ℚ) (positionS : ℚ)
        (sourceFrameIndex : Option Nat) (processedIndex : Nat) (headInUse headTrigger : Bool)
        (heads : List (List DecodedVideoFrame)) (published : List Publication),
      heads.length = service.heads.length ∧
      next = { service with
        presenter, firstPtsS, positionS, sourceFrameIndex, processedIndex, headInUse,
        headTrigger, heads, published, seekFilterPts := filter }) :
    PresentEffect service next := by
  rcases same with ⟨_, _, _, _, _, _, _, _, heads, _, length, rfl⟩
  exact ⟨rfl, rfl, rfl, rfl, rfl, rfl, rfl, rfl, length, id, Or.inl rfl, Or.inl rfl, Or.inl rfl⟩

theorem setPresentPhase_effect (service : VideoSourceService) (phase : PresentPhase) :
    PresentEffect service (service.setPresentPhase phase) :=
  ⟨rfl, rfl, rfl, rfl, rfl, rfl, rfl, rfl, rfl, id, Or.inl rfl, Or.inl rfl, Or.inl rfl⟩

/-- The thread takes the oldest item of the queue. -/
theorem takeItem_effect {item : DecodeItem} {rest : List DecodeItem}
    (queue : service.decodeQueue = item :: rest)
    (takes : service.presenter.phase = .clearing ∨ service.presenter.phase = .receiving)
    (presenter : Presenter) :
    PresentEffect service { service with decodeQueue := rest, presenter := presenter } :=
  ⟨rfl, rfl, rfl, rfl, rfl, rfl, rfl, rfl, rfl, id, Or.inl rfl, Or.inr ⟨item, queue, takes⟩,
    Or.inl rfl⟩

/-- The steps that change the phase of the thread only. -/
inductive Turns (service : VideoSourceService) : PresentPhase → PresentPhase → Prop where
  | exit {phase : PresentPhase} (calm : phase.isApplying = false)
      (stays : phase.isLeaving = false)
      (leaves : service.stopEvent = true ∨ service.state ≠ .playing ∧
        (service.state ≠ .paused ∨ ∃ held, phase = .presenting held)) : Turns service phase .exited
  | check (running : service.stopEvent = false) : Turns service .looping .claiming
  | select (claimed : service.seekGeneration = service.appliedSeekGeneration) :
      Turns service .claiming .selecting
  | cleared (queue : service.decodeQueue = []) : Turns service .clearing .resetting
  | receive (live : service.presenter.usingHead = false) : Turns service .selecting .receiving
  | starve (queue : service.decodeQueue = []) : Turns service .receiving .looping
  | drop (held : Held) (below : ¬ service.seekFilterPts.all
      (fun limit => decide (limit ≤ held.frame.ptsSeconds)) = true) :
      Turns service (.filtering held) .looping
  | time (held : Held) (running : service.stopEvent = false) (playing : service.state = .playing) :
      Turns service (.waiting held) (.timing held)

/-- What one step of the thread can do in each phase. -/
inductive Presents (service : VideoSourceService) : PresentPhase → VideoSourceService → Prop where
  | turn {phase after : PresentPhase} (turns : Turns service phase after) :
      Presents service phase (service.setPresentPhase after)
  | claim (pending : service.seekGeneration ≠ service.appliedSeekGeneration) :
      Presents service .claiming { service.setPresentPhase .clearing with
        appliedSeekGeneration := service.seekGeneration }
  | clear {item : DecodeItem} {rest : List DecodeItem}
      (queue : service.decodeQueue = item :: rest) :
      Presents service .clearing { service with decodeQueue := rest }
  | reset : Presents service .resetting (({ service.resetProgress with
      headInUse := false
      presenter := { service.presenter with
        phase := .selecting
        usingHead := false
        headUpto := none } } : VideoSourceService).publishReset .sourceRestarted)
  | spent : Presents service .selecting { service with
      headInUse := false
      headTrigger := true
      presenter := { service.presenter with phase := .receiving, usingHead := false } }
  | staged {frame : DecodedVideoFrame} {rest : List DecodedVideoFrame}
      (usingHead : service.presenter.usingHead = true) :
      Presents service .selecting ({ service with
        heads := service.heads.set service.presenter.capturedHead rest }.setPresentPhase
          (.filtering ⟨service.presenter.pass, frame, true⟩))
  | finish {pass : Pass} {rest : List DecodeItem}
      (queue : service.decodeQueue = .finish pass :: rest) :
      Presents service .receiving ({ service with decodeQueue := rest }.setPresentPhase .ending)
  | loop {pass : Pass} {rest : List DecodeItem}
      (queue : service.decodeQueue = .loop pass :: rest) :
      Presents service .receiving
        ({ service with decodeQueue := rest }.setPresentPhase (.restarting pass))
  | duplicate {pass : Pass} {frame : DecodedVideoFrame} {rest : List DecodeItem}
      (queue : service.decodeQueue = .frame pass frame :: rest)
      (again : service.presenter.isDuplicate frame = true) :
      Presents service .receiving ({ service with decodeQueue := rest }.setPresentPhase .looping)
  | frame {pass : Pass} {frame : DecodedVideoFrame} {rest : List DecodeItem}
      (queue : service.decodeQueue = .frame pass frame :: rest) :
      Presents service .receiving
        ({ service with decodeQueue := rest }.setPresentPhase (.filtering ⟨pass, frame, false⟩))
  | accept {held : Held} (accepted : service.seekFilterPts.all
      (fun limit => decide (limit ≤ held.frame.ptsSeconds)) = true) :
      Presents service (.filtering held)
        { service.setPresentPhase (.waiting held) with seekFilterPts := none }
  | due {held : Held} (running : service.stopEvent = false) (playing : service.state = .playing) :
      Presents service (.timing held) ({ service with
        firstPtsS := service.firstPtsS.or (some held.frame.ptsSeconds) }.setPresentPhase
          (.presenting held))
  | early {held : Held} :
      Presents service (.timing held) ({ service with
        firstPtsS := service.firstPtsS.or (some held.frame.ptsSeconds) }.setPresentPhase
          (.waiting held))
  | present {held : Held} (running : service.stopEvent = false)
      (playing : service.state = .playing) :
      Presents service (.presenting held) { service.setPresentPhase (.publishing held) with
        processedIndex := service.processedIndex + 1
        sourceFrameIndex := some held.frame.sourceFrameIndex
        positionS := held.frame.ptsSeconds }
  | raise {held : Held} : Presents service (.publishing held)
      ((service.failFrom service.presenter.generation).setPresentPhase .failing)
  | publish {held : Held} : Presents service (.publishing held) { service with
      published := service.published ++ [.frame held.frame service.processedIndex]
      presenter := { service.presenter with
        phase := .looping
        headUpto := service.presenter.headPresented held } }
  | fail : Presents service .failing { service.setPresentPhase .exited with stopEvent := true }
  | restart {pass : Pass} :
      Presents service (.restarting pass) (({ service.resetProgress with
        headInUse := true
        headTrigger := true
        presenter := { service.presenter with
          phase := .looping
          usingHead := true
          headUpto := none
          capturedHead := service.headQueue
          pass := pass } } : VideoSourceService).publishReset .sourceRestarted)
  | finished : Presents service .ending (({ service with
      headInUse := false
      state :=
        if service.passGeneration = service.presenter.generation ∧
            service.state ∉ [SourceState.closed, .error] then .ended
        else service.state
      presenter := { service.presenter with phase := .exited, usingHead := false } } :
        VideoSourceService).publishReset .sourceEnded)

theorem presentStep_cases {choice : Choice} (taken : service.presentStep choice = some next) :
    ∃ phase, service.presenter.phase = phase ∧ service.Presents phase next := by
  refine ⟨_, rfl, ?_⟩
  unfold presentStep at taken
  cases phase : service.presenter.phase with
  | looping =>
      simp only [phase] at taken
      cases taken
      split_ifs with stopped
      · exact .turn (.exit rfl rfl (Or.inl stopped))
      · exact .turn (.check (Bool.eq_false_iff.mpr stopped))
  | claiming =>
      simp only [phase] at taken
      split_ifs at taken with pending
      · cases taken
        exact .claim pending
      · cases taken
        exact .turn (.select (not_not.mp pending))
  | clearing =>
      simp only [phase] at taken
      cases queue : service.decodeQueue with
      | nil =>
          rw [queue] at taken
          cases taken
          exact .turn (.cleared queue)
      | cons item rest =>
          rw [queue] at taken
          cases taken
          exact .clear queue
  | resetting =>
      simp only [phase] at taken
      cases taken
      exact .reset
  | selecting =>
      simp only [phase] at taken
      split_ifs at taken with usingHead
      · cases staged : service.heads.getD service.presenter.capturedHead [] with
        | nil =>
            rw [staged] at taken
            cases taken
            exact .spent
        | cons frame rest =>
            rw [staged] at taken
            cases taken
            exact .staged usingHead
      · cases taken
        exact .turn (.receive (Bool.eq_false_iff.mpr usingHead))
  | receiving =>
      simp only [phase] at taken
      cases queue : service.decodeQueue with
      | nil =>
          rw [queue] at taken
          cases taken
          exact .turn (.starve queue)
      | cons item rest =>
          rw [queue] at taken
          cases item with
          | finish pass =>
              cases taken
              exact .finish queue
          | loop pass =>
              cases taken
              exact .loop queue
          | frame pass frame =>
              cases taken
              split_ifs with again
              · exact .duplicate queue again
              · exact .frame queue
  | filtering held =>
      simp only [phase] at taken
      split_ifs at taken with accepted
      · cases taken
        exact .accept accepted
      · cases taken
        exact .turn (.drop held accepted)
  | waiting held =>
      simp only [phase] at taken
      split_ifs at taken with stopped
      · cases taken
        exact .turn (.exit rfl rfl (Or.inl stopped))
      · cases state : service.state with
        | paused =>
            rw [state] at taken
            cases taken
        | playing =>
            rw [state] at taken
            cases taken
            exact .turn (.time held (Bool.eq_false_iff.mpr stopped) state)
        | _ =>
            rw [state] at taken
            cases taken
            refine .turn (.exit rfl rfl (Or.inr ?_))
            rw [state]
            exact ⟨nofun, Or.inl nofun⟩
  | timing held =>
      simp only [phase] at taken
      split_ifs at taken with stopped due
      · cases taken
        exact .turn (.exit rfl rfl (Or.inl stopped))
      · cases taken
        exact .due (Bool.eq_false_iff.mpr stopped) due.1
      · cases taken
        exact .early
  | presenting held =>
      simp only [phase] at taken
      split_ifs at taken with refused
      · cases taken
        refine .turn (.exit rfl rfl (refused.symm.imp_right ?_))
        exact fun elsewhere => ⟨elsewhere, Or.inr ⟨held, rfl⟩⟩
      · cases taken
        rcases not_or.mp refused with ⟨plays, running⟩
        exact .present (Bool.eq_false_iff.mpr running) (not_not.mp plays)
  | publishing held =>
      simp only [phase] at taken
      split_ifs at taken
      · cases taken
        exact .raise
      · cases taken
        exact .publish
  | failing =>
      simp only [phase] at taken
      cases taken
      exact .fail
  | restarting pass =>
      simp only [phase] at taken
      cases taken
      exact .restart
  | ending =>
      simp only [phase] at taken
      cases taken
      exact .finished
  | exited =>
      simp only [phase] at taken
      cases taken

theorem presentStep_effect {choice : Choice} (taken : service.presentStep choice = some next) :
    PresentEffect service next := by
  rcases presentStep_cases taken with ⟨current, phase, presents⟩
  cases presents with
  | turn turns => exact setPresentPhase_effect service _
  | claim pending =>
      exact ⟨rfl, rfl, rfl, rfl, rfl, rfl, rfl, rfl, rfl, id, Or.inl rfl, Or.inl rfl,
        Or.inr ⟨phase, pending, rfl⟩⟩
  | clear queue => exact takeItem_effect queue (Or.inl phase) service.presenter
  | finish queue => exact takeItem_effect queue (Or.inr phase) _
  | loop queue => exact takeItem_effect queue (Or.inr phase) _
  | duplicate queue again => exact takeItem_effect queue (Or.inr phase) _
  | frame queue => exact takeItem_effect queue (Or.inr phase) _
  | staged usingHead =>
      exact presentEffect_of_same ⟨_, _, _, _, _, _, _, _, _, _, List.length_set, rfl⟩
  | raise =>
      unfold failFrom
      split_ifs
      · exact ⟨rfl, rfl, rfl, rfl, rfl, rfl, rfl, rfl, rfl, id, Or.inr (Or.inl rfl), Or.inl rfl,
          Or.inl rfl⟩
      · exact setPresentPhase_effect service _
  | fail =>
      exact ⟨rfl, rfl, rfl, rfl, rfl, rfl, rfl, rfl, rfl, fun _ => rfl, Or.inl rfl, Or.inl rfl,
        Or.inl rfl⟩
  | finished =>
      refine ⟨rfl, rfl, rfl, rfl, rfl, rfl, rfl, rfl, rfl, id, ?_, Or.inl rfl, Or.inl rfl⟩
      simp only [publishReset]
      split_ifs
      · exact Or.inr (Or.inr rfl)
      · exact Or.inl rfl
  | _ => exact presentEffect_of_same ⟨_, _, _, _, _, _, _, _, _, _, rfl, rfl⟩

/-- A thread that leaves goes on leaving. -/
theorem leaving_presentStep {choice : Choice}
    (leaving : service.presenter.phase.isLeaving = true)
    (taken : service.presentStep choice = some next) :
    next.presenter.phase.isLeaving = true := by
  rcases presentStep_cases taken with ⟨current, phase, presents⟩
  rw [phase] at leaving
  cases presents with
  | turn turns =>
      cases turns with
      | exit calm stays leaves => rfl
      | _ => cases leaving
  | fail => rfl
  | finished => rfl
  | _ => cases leaving

/-- A thread that is about to claim claims, or leaves. -/
theorem claiming_presentStep {choice : Choice}
    (phase : service.presenter.phase = .looping ∨ service.presenter.phase = .claiming)
    (pending : service.appliedSeekGeneration ≠ service.seekGeneration)
    (applied : next.appliedSeekGeneration = service.appliedSeekGeneration)
    (taken : service.presentStep choice = some next) :
    next.presenter.phase = .claiming ∨ next.presenter.phase.isLeaving = true := by
  rcases presentStep_cases taken with ⟨current, isCurrent, presents⟩
  rw [isCurrent] at phase
  cases presents with
  | turn turns =>
      cases turns with
      | exit calm stays leaves => exact Or.inr rfl
      | check running => exact Or.inl rfl
      | select claimed => exact absurd claimed.symm pending
      | _ => rcases phase with looping | claiming <;> contradiction
  | claim newer => exact absurd applied newer
  | _ => rcases phase with looping | claiming <;> contradiction

/-! ## The head thread -/

/-- The thread makes a new queue, and refers to one that has been made. -/
theorem headStep_quiet {configuration : Configuration} {choice : Choice}
    (taken : headStep configuration service choice = some next) :
    ∃ headTrigger heads headQueue headPhase,
      next = { service with headTrigger, heads, headQueue, headPhase } ∧
        service.heads <+: heads ∧
        (service.headQueue < service.heads.length → headQueue < heads.length) := by
  unfold headStep at taken
  cases phase : service.headPhase with
  | waiting =>
      simp only [phase] at taken
      split_ifs at taken
      · cases taken
        exact ⟨_, _, _, _, rfl, List.prefix_refl _, id⟩
      · cases taken
        exact ⟨_, _, _, _, rfl, List.prefix_refl _, id⟩
  | triggered =>
      simp only [phase] at taken
      split_ifs at taken
      · cases taken
        exact ⟨_, _, _, _, rfl, List.prefix_refl _, id⟩
      · cases taken
        exact ⟨_, _, _, _, rfl, List.prefix_refl _, id⟩
  | staging =>
      simp only [phase] at taken
      split_ifs at taken
      · cases taken
        exact ⟨_, _, _, _, rfl, List.prefix_refl _, id⟩
      · cases budget : service.recording.headFrameBudget with
        | none =>
            rw [budget] at taken
            cases taken
            exact ⟨_, _, _, _, rfl, List.prefix_refl _, id⟩
        | some budget =>
            rw [budget] at taken
            simp only at taken
            split_ifs at taken
            · cases taken
              exact ⟨_, _, _, _, rfl, List.prefix_refl _, id⟩
            · cases taken
              exact ⟨_, _, _, _, rfl, List.prefix_refl _, id⟩
  | swapping staged =>
      simp only [phase] at taken
      split_ifs at taken
      · cases taken
        exact ⟨_, _, _, _, rfl, List.prefix_refl _, id⟩
      · cases taken
        exact ⟨_, _, _, _, rfl, List.prefix_append _ _, fun _ => by simp⟩
      · cases taken
        exact ⟨_, _, _, _, rfl, List.prefix_refl _, id⟩
  | exited =>
      simp only [phase] at taken
      cases taken

end VideoSourceService
end Media
end Synesthesia
