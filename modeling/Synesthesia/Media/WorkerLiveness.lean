import Synesthesia.Foundation.Runs
import Synesthesia.Media.DecodeEffect
import Synesthesia.Media.PresentEffect

namespace Synesthesia
namespace Media
namespace VideoSourceService

open Foundation

/-!
# The workers of a playing source

A source that plays or is paused keeps its presentation thread, and either its
decode thread or the end signal that the thread has left.  Two steps break
this: a pause between the due time of a frame and its state check, and a seek
that clears the end signal from the queue.
-/

/-- The source claims to be able to present or to end. -/
def isLive (state : SourceState) : Bool := decide (state = .playing ∨ state = .paused)

/-- Its workers can do so. -/
def Attended (service : VideoSourceService) : Prop :=
  service.presenter.phase ≠ .exited ∧
    (service.decoder.phase ≠ .exited ∨ service.decodeQueue.any DecodeItem.isEnd = true ∨
      service.presenter.phase = .ending)

instance (service : VideoSourceService) : Decidable service.Attended :=
  inferInstanceAs (Decidable (_ ∧ _))

/-- The step does not find the source paused at the state check of a frame, and
does not clear an end signal, unless the threads are being stopped. -/
def KeepsWorkers (service : VideoSourceService) : Step → Prop
  | .present _ =>
      match service.presenter.phase with
      | .presenting _ => service.state = .paused → service.stopEvent = true
      | .clearing => service.decodeQueue.head?.any DecodeItem.isEnd = true →
          service.stopEvent = true
      | _ => True
  | _ => True

instance (service : VideoSourceService) (action : Step) :
    Decidable (service.KeepsWorkers action) :=
  decidable_of_iff ((match action, service.presenter.phase with
    | .present _, .presenting _ => decide (service.state = .paused → service.stopEvent = true)
    | .present _, .clearing => decide (service.decodeQueue.head?.any DecodeItem.isEnd = true →
        service.stopEvent = true)
    | _, _ => true) = true) (by
      unfold KeepsWorkers
      cases action <;> cases service.presenter.phase <;> simp [imp_iff_not_or])

structure Working (service : VideoSourceService) : Prop where
  presentGeneration : service.presenter.phase ≠ .exited →
    service.presenter.generation = service.passGeneration
  stopped : service.stopEvent = true →
    (∃ errand, service.caller = .joining errand) ∨ isLive service.state = false
  attended : service.stopEvent = false → isLive service.state = true → service.Attended
  failing : service.presenter.phase = .failing → isLive service.state = false

variable {configuration : Configuration}

theorem working_initial (recording : Recording) : (initial recording).Working :=
  ⟨(fun alive => absurd rfl alive), nofun, (fun _ live => nomatch live), nofun⟩

/-! ## The decode thread -/

variable {service next : VideoSourceService}

variable (working : service.Working)
include working

theorem Working.decodeStep {choice : Choice}
    (taken : decodeStep configuration service choice = some next) : next.Working := by
  have effect := decodeStep_effect taken
  have calmer : isLive service.state = false → isLive next.state = false := by
    intro calm
    rcases effect.state with same | failed
    · rw [same]
      exact calm
    · rw [failed]
      rfl
  refine ⟨?_, ?_, ?_, ?_⟩
  · rw [effect.presenter, effect.passGeneration]
    exact working.presentGeneration
  · rw [effect.stopEvent, effect.caller]
    exact fun stopped => (working.stopped stopped).imp_right calmer
  · intro running live
    rw [effect.stopEvent] at running
    have wasLive : isLive service.state = true := by
      by_contra calm
      rw [calmer (Bool.eq_false_iff.mpr calm)] at live
      cases live
    rcases working.attended running wasLive with ⟨presents, source⟩
    refine ⟨by rw [effect.presenter]; exact presents, ?_⟩
    by_cases isExited : next.decoder.phase = .exited
    · rcases effect.exited isExited with stopped | finished
      · cases running.symm.trans stopped
      · exact Or.inr (Or.inl finished)
    · exact Or.inl isExited
  · rw [effect.presenter]
    exact fun failing => calmer (working.failing failing)

/-! ## The presentation thread -/

/-- A step of the presentation thread that keeps the state of the source. -/
theorem Working.of_present
    (alive : service.presenter.phase ≠ .exited) (caller : next.caller = service.caller)
    (stopEvent : next.stopEvent = service.stopEvent) (state : next.state = service.state)
    (passGeneration : next.passGeneration = service.passGeneration)
    (generation : next.presenter.generation = service.presenter.generation)
    (failing : next.presenter.phase ≠ .failing)
    (attended : service.stopEvent = false → isLive service.state = true → service.Attended →
      next.Attended) : next.Working := by
  refine ⟨?_, ?_, ?_, fun isFailing => absurd isFailing failing⟩
  · intro _
    rw [generation, passGeneration]
    exact working.presentGeneration alive
  · rw [stopEvent, caller, state]
    exact working.stopped
  · rw [stopEvent, state]
    exact fun running live => attended running live (working.attended running live)

omit working in
/-- The thread moves on while it has not taken the end signal. -/
theorem Attended.move (attended : service.Attended)
    (decoder : next.decoder = service.decoder)
    (queue : service.decodeQueue.any DecodeItem.isEnd = true →
      next.decodeQueue.any DecodeItem.isEnd = true)
    (ending : service.presenter.phase ≠ .ending) (alive : next.presenter.phase ≠ .exited) :
    next.Attended := by
  refine ⟨alive, ?_⟩
  rw [decoder]
  rcases attended.2 with decodes | finished | isEnding
  · exact Or.inl decodes
  · exact Or.inr (Or.inl (queue finished))
  · exact absurd isEnding ending

/-- The thread only changes its phase. -/
theorem Working.setPresentPhase {phase : PresentPhase} (alive : service.presenter.phase ≠ .exited)
    (ending : service.presenter.phase ≠ .ending) (failing : phase ≠ .failing)
    (exits : phase = .exited → service.stopEvent = false → isLive service.state = false) :
    (service.setPresentPhase phase).Working := by
  refine working.of_present alive rfl rfl rfl rfl rfl failing ?_
  intro running live attended
  refine attended.move rfl id ending ?_
  intro isExited
  cases live.symm.trans (exits isExited running)

/-- The thread leaves when it is stopped or when its source is not live. -/
theorem Working.turn {choice : Choice} {after : PresentPhase}
    (keeps : service.KeepsWorkers (.present choice))
    (turns : Turns service service.presenter.phase after) :
    (service.setPresentPhase after).Working := by
  generalize phase : service.presenter.phase = current at turns
  cases turns with
  | exit calm stays leaves =>
      rw [← phase] at stays
      refine working.setPresentPhase ?_ ?_ nofun ?_
      · intro exited
        rw [exited] at stays
        cases stays
      · intro ending
        rw [ending] at stays
        cases stays
      · intro _ running
        rcases leaves with stopped | ⟨elsewhere, unpaused | ⟨held, isHeld⟩⟩
        · cases running.symm.trans stopped
        · exact decide_eq_false (not_or.mpr ⟨elsewhere, unpaused⟩)
        · simp only [KeepsWorkers, phase, isHeld] at keeps
          refine decide_eq_false (not_or.mpr ⟨elsewhere, ?_⟩)
          intro paused
          cases running.symm.trans (keeps paused)
  | _ =>
      exact working.setPresentPhase (by rw [phase]; nofun) (by rw [phase]; nofun) nofun nofun

/-- The thread takes an item that is not the end signal. -/
theorem Working.take (alive : service.presenter.phase ≠ .exited)
    (ending : service.presenter.phase ≠ .ending) {item : DecodeItem} {rest : List DecodeItem}
    (queue : service.decodeQueue = item :: rest)
    (ordinary : service.stopEvent = false → item.isEnd = false) {presenter : Presenter}
    (generation : presenter.generation = service.presenter.generation)
    (goesOn : presenter.phase ≠ .failing ∧ presenter.phase ≠ .exited) :
    Working { service with decodeQueue := rest, presenter := presenter } := by
  refine working.of_present alive rfl rfl rfl rfl generation goesOn.1 ?_
  intro running live attended
  refine attended.move rfl ?_ ending goesOn.2
  intro finished
  rw [queue] at finished
  simpa [ordinary running] using finished

theorem Working.presentStep {choice : Choice} (keeps : service.KeepsWorkers (.present choice))
    (taken : service.presentStep choice = some next) : next.Working := by
  rcases presentStep_cases taken with ⟨current, phase, presents⟩
  cases presents with
  | turn turns => exact working.turn keeps (phase ▸ turns)
  | clear queue =>
      simp only [KeepsWorkers, phase, queue] at keeps
      refine working.take (by rw [phase]; nofun) (by rw [phase]; nofun) queue ?_ rfl
        ⟨by rw [phase]; nofun, by rw [phase]; nofun⟩
      intro running
      by_contra isEnd
      cases running.symm.trans (keeps (Bool.not_eq_false _ ▸ isEnd))
  | finish queue =>
      exact working.of_present (by rw [phase]; nofun) rfl rfl rfl rfl rfl nofun
        (fun _ _ _ => ⟨nofun, Or.inr (Or.inr rfl)⟩)
  | loop queue =>
      exact working.take (by rw [phase]; nofun) (by rw [phase]; nofun) queue (fun _ => rfl)
        rfl ⟨nofun, nofun⟩
  | duplicate queue again =>
      exact working.take (by rw [phase]; nofun) (by rw [phase]; nofun) queue (fun _ => rfl)
        rfl ⟨nofun, nofun⟩
  | frame queue =>
      exact working.take (by rw [phase]; nofun) (by rw [phase]; nofun) queue (fun _ => rfl)
        rfl ⟨nofun, nofun⟩
  | raise =>
      have generation := working.presentGeneration (by rw [phase]; nofun)
      rw [failFrom, if_pos generation]
      exact ⟨fun _ => generation, fun _ => Or.inr rfl, (fun _ live => nomatch live),
        fun _ => rfl⟩
  | fail =>
      have calm := working.failing phase
      exact ⟨(fun exits => absurd rfl exits), (fun _ => Or.inr calm),
        (fun _ live => nomatch live.symm.trans calm), nofun⟩
  | finished =>
      have calm : isLive (if service.passGeneration = service.presenter.generation ∧
          service.state ∉ [SourceState.closed, .error] then SourceState.ended
        else service.state) = false := by
        split_ifs with ends
        · rfl
        · have terminal : service.state ∈ [SourceState.closed, .error] := by
            by_contra open_
            exact ends ⟨(working.presentGeneration (by rw [phase]; nofun)).symm, open_⟩
          rcases List.mem_cons.mp terminal with closed | error
          · rw [closed]
            rfl
          · rw [List.mem_singleton.mp error]
            rfl
      exact ⟨(fun exits => absurd rfl exits), (fun _ => Or.inr calm),
        (fun _ live => nomatch live.symm.trans calm), nofun⟩
  | _ =>
      exact working.of_present (by rw [phase]; nofun) rfl rfl rfl rfl rfl nofun
        (fun _ _ attended => attended.move rfl id (by rw [phase]; nofun) nofun)

/-! ## The head thread and the caller -/

theorem Working.headStep {choice : Choice}
    (taken : headStep configuration service choice = some next) : next.Working := by
  rcases headStep_quiet taken with ⟨_, _, _, _, rfl, _⟩
  exact ⟨working.presentGeneration, working.stopped, working.attended, working.failing⟩

theorem Working.setCaller (idle : service.caller = .idle) (caller : Caller) :
    Working { service with caller := caller } := by
  refine ⟨working.presentGeneration, ?_, working.attended, working.failing⟩
  intro stopped
  rcases working.stopped stopped with ⟨errand, joining⟩ | calm
  · cases idle.symm.trans joining
  · exact Or.inr calm

theorem Working.resume (idle : service.caller = .idle) : service.resume.Working := by
  unfold VideoSourceService.resume
  split_ifs with elsewhere seeking
  · exact working
  · exact working.setCaller idle _
  · have paused : service.state = .paused := not_not.mp elsewhere
    have live : isLive service.state = true := by
      rw [paused]
      rfl
    have running : service.stopEvent = false := by
      by_contra stopped
      rcases working.stopped (Bool.not_eq_false _ ▸ stopped) with ⟨errand, joining⟩ | calm
      · cases idle.symm.trans joining
      · cases live.symm.trans calm
    refine ⟨working.presentGeneration, ?_, fun _ _ => working.attended running live, ?_⟩
    · intro stopped
      cases running.symm.trans stopped
    · intro failing
      cases live.symm.trans (working.failing failing)

theorem Working.call
    (idle : service.caller = .idle) (call : Call) : (service.call call).Working := by
  cases call with
  | play =>
      simp only [VideoSourceService.call, VideoSourceService.play]
      split
      · exact working
      · exact working
      · exact working
      · exact working.resume idle
      · exact working.setCaller idle _
  | pause =>
      simp only [VideoSourceService.call]
      split_ifs with playing
      · have live : isLive service.state = true := by
          rw [playing]
          rfl
        refine ⟨working.presentGeneration, ?_, fun running _ => working.attended running live, ?_⟩
        · intro stopped
          rcases working.stopped stopped with ⟨errand, joining⟩ | calm
          · cases idle.symm.trans joining
          · cases live.symm.trans calm
        · intro failing
          cases live.symm.trans (working.failing failing)
      · exact working
  | resume => exact working.resume idle
  | stop =>
      simp only [VideoSourceService.call]
      split_ifs
      · exact working
      · exact working.setCaller idle _
  | reload =>
      simp only [VideoSourceService.call]
      split_ifs
      · exact working
      · exact working.setCaller idle _
  | close =>
      simp only [VideoSourceService.call]
      split_ifs
      · exact working
      · exact working.setCaller idle _
  | seek sourceTimeS =>
      simp only [VideoSourceService.call, VideoSourceService.seek]
      split_ifs
      · exact working
      · have waiting := working.setCaller idle .seeking
        exact ⟨waiting.presentGeneration, waiting.stopped, waiting.attended, waiting.failing⟩

omit working in
/-- A halted source has no live state. -/
theorem working_halt (joined : service.isJoined = true)
    {target : SourceState} (calm : isLive target = false) : (service.halt target).Working := by
  have exited : service.presenter.phase = .exited := (of_decide_eq_true joined).2.1
  exact ⟨(fun alive => absurd exited alive), (fun _ => Or.inr calm),
    (fun _ live => nomatch live.symm.trans calm), fun _ => calm⟩

omit working in
theorem working_startPass (service : VideoSourceService) (publishRestart : Bool) :
    (service.startPass publishRestart).Working := by
  cases publishRestart with
  | true => exact ⟨fun _ => rfl, nofun, fun _ _ => ⟨nofun, Or.inl nofun⟩, nofun⟩
  | false => exact ⟨fun _ => rfl, nofun, fun _ _ => ⟨nofun, Or.inl nofun⟩, nofun⟩

theorem Working.callerStep {reloaded : Option Recording}
    (taken : service.callerStep reloaded = some next) : next.Working := by
  unfold VideoSourceService.callerStep at taken
  cases caller : service.caller with
  | idle =>
      rw [caller] at taken
      cases taken
  | stopping errand =>
      rw [caller] at taken
      cases taken
      exact ⟨working.presentGeneration, fun _ => Or.inl ⟨errand, rfl⟩, nofun, working.failing⟩
  | joining errand =>
      rw [caller] at taken
      simp only at taken
      split_ifs at taken with joined
      cases taken
      cases errand with
      | start publishRestart => exact working_startPass service publishRestart
      | stop =>
          have halted : (service.halt .stopped).Working := working_halt joined rfl
          exact ⟨halted.presentGeneration, halted.stopped, halted.attended, halted.failing⟩
      | reload =>
          have halted : (service.halt .stopped).Working := working_halt joined rfl
          exact ⟨halted.presentGeneration, (fun _ => Or.inr rfl), halted.attended, halted.failing⟩
      | close => exact working_halt joined rfl
  | reloading =>
      rw [caller] at taken
      cases reloaded with
      | none =>
          cases taken
          exact ⟨working.presentGeneration, (fun _ => Or.inr rfl), (fun _ live => nomatch live),
            fun _ => rfl⟩
      | some recording =>
          cases taken
          exact ⟨working.presentGeneration, (fun _ => Or.inr rfl), (fun _ live => nomatch live),
            fun _ => rfl⟩
  | seeking =>
      rw [caller] at taken
      cases taken
      refine ⟨working.presentGeneration, ?_, working.attended, working.failing⟩
      intro stopped
      rcases working.stopped stopped with ⟨errand, joining⟩ | calm
      · cases caller.symm.trans joining
      · exact Or.inr calm

theorem Working.step {action : Step} (keeps : service.KeepsWorkers action)
    (taken : step configuration service action = some next) : next.Working := by
  cases action with
  | call call =>
      simp only [VideoSourceService.step] at taken
      split_ifs at taken with idle
      cases taken
      exact working.call idle call
  | caller reloaded => exact working.callerStep taken
  | decode choice => exact working.decodeStep taken
  | present choice => exact working.presentStep keeps taken
  | head choice => exact working.headStep taken

omit working

/-! ## Liveness -/

/-- In every run without the two steps, a source that plays or is paused
between two calls has the workers it needs. -/
theorem workers_attend {recording : Recording} {actions : List Step}
    (reached : run (step configuration) (initial recording) actions = some service)
    (keeps : Meets (step configuration) KeepsWorkers (initial recording) actions)
    (idle : service.caller = .idle)
    (live : service.state = .playing ∨ service.state = .paused) : service.Attended := by
  have working : service.Working := run_invariant
    (fun _ _ _ working permitted taken => Working.step working permitted taken)
    (working_initial recording) keeps reached
  have isLive : isLive service.state = true := decide_eq_true live
  have running : service.stopEvent = false := by
    by_contra stopped
    rcases working.stopped (Bool.not_eq_false _ ▸ stopped) with ⟨errand, joining⟩ | calm
    · cases idle.symm.trans joining
    · cases isLive.symm.trans calm
  exact working.attended running isLive

/-! ## A file of three frames -/

/-- A region of ten seconds that starts at zero. -/
def shortRecording : Recording where
  regionStartS := 0
  regionEndS := some 10
  durationS := some 10
  headFrameBudget := none
  frames startS := [⟨some 0, true⟩, ⟨some 1, true⟩, ⟨some 2, true⟩].filter (fun frame =>
    frame.ptsSeconds.any (fun ptsSeconds => decide (startS ≤ ptsSeconds)))

def playOnce : Configuration where
  loop := false
  processEveryNthFrame := 1
  decodeQueueSize := 4
  maxDecodeFailures := 3

/-- A play call. -/
def startPlaying : List Step := [.call .play, .caller none, .caller none]

/-- The decode thread puts the first frame. -/
def decodeFirst : List Step := List.replicate 6 (.decode .advance)

/-- The presentation thread takes it and waits until it is due. -/
def presentFirst : List Step := List.replicate 7 (.present .advance)

theorem workers_attend_firstFrame :
    ∃ service, run (step playOnce) (initial shortRecording)
        (startPlaying ++ decodeFirst ++ presentFirst) = some service ∧ service.Attended := by
  have runs : (run (step playOnce) (initial shortRecording)
      (startPlaying ++ decodeFirst ++ presentFirst)).any (fun service =>
        decide (service.caller = .idle ∧ service.state = .playing)) = true := by decide +kernel
  rcases (Option.any_eq_true _ _).mp runs with ⟨service, reached, holds⟩
  rcases of_decide_eq_true holds with ⟨idle, playing⟩
  have keeps : Meets (step playOnce) KeepsWorkers (initial shortRecording)
      (startPlaying ++ decodeFirst ++ presentFirst) := by decide +kernel
  exact ⟨service, reached, workers_attend reached keeps idle (Or.inl playing)⟩

/-- The pause comes between the due time of the frame and its state check. -/
def pauseBetween : List Step :=
  startPlaying ++ decodeFirst ++ presentFirst ++ [.call .pause, .present .advance, .call .resume]

theorem paused_worker_exits :
    ∃ service, run (step playOnce) (initial shortRecording) pauseBetween = some service ∧
      service.caller = .idle ∧ service.state = .playing ∧
      service.presenter.phase = .exited := by
  have runs : (run (step playOnce) (initial shortRecording) pauseBetween).any (fun service =>
      decide (service.caller = .idle ∧ service.state = .playing ∧
        service.presenter.phase = .exited)) = true := by decide +kernel
  rcases (Option.any_eq_true _ _).mp runs with ⟨service, reached, holds⟩
  exact ⟨service, reached, of_decide_eq_true holds⟩

/-- The whole file and its end are queued; a seek clears all of it. -/
def seekBehindEnd : List Step :=
  startPlaying ++ List.replicate 17 (.decode .advance) ++
    [.call (.seek 1), .caller none] ++ List.replicate 8 (.present .advance)

theorem end_signal_is_cleared :
    ∃ service, run (step playOnce) (initial shortRecording) seekBehindEnd = some service ∧
      service.caller = .idle ∧ service.state = .playing ∧ ¬ service.Attended := by
  have runs : (run (step playOnce) (initial shortRecording) seekBehindEnd).any (fun service =>
      decide (service.caller = .idle ∧ service.state = .playing ∧ ¬ service.Attended)) = true := by
    decide +kernel
  rcases (Option.any_eq_true _ _).mp runs with ⟨service, reached, holds⟩
  exact ⟨service, reached, of_decide_eq_true holds⟩

end VideoSourceService
end Media
end Synesthesia
