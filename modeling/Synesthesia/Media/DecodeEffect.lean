import Synesthesia.Media.VideoSourceService

namespace Synesthesia
namespace Media
namespace VideoSourceService

/-!
# What the decode thread does

A step of the decode thread changes its own record, the queue, the seek event,
the start of the next pass and, when it fails, the state of the source.
-/

variable {configuration : Configuration}

structure DecodeEffect (service next : VideoSourceService) : Prop where
  frame : next = { service with
    decoder := next.decoder
    decodeQueue := next.decodeQueue
    seekEvent := next.seekEvent
    state := next.state
    passStartS := next.passStartS }
  state : next.state = service.state ∨ next.state = .error
  queue : next.decodeQueue = service.decodeQueue ∨
    ∃ put, service.decoder.phase = .offering put ∧
      next.decodeQueue = service.decodeQueue ++ [put.item service.decoder.pass]
  seekGeneration : next.decoder.pass.seekGeneration = service.decoder.pass.seekGeneration ∨
    next.decoder.pass.seekGeneration = service.seekGeneration ∧
      next.decodeQueue = service.decodeQueue
  exited : next.decoder.phase = .exited →
    service.stopEvent = true ∨ next.decodeQueue.any DecodeItem.isEnd = true

variable {service next : VideoSourceService}

variable (effect : DecodeEffect service next)
include effect

theorem DecodeEffect.presenter : next.presenter = service.presenter := by
  rw [effect.frame]

theorem DecodeEffect.caller : next.caller = service.caller := by
  rw [effect.frame]

theorem DecodeEffect.stopEvent : next.stopEvent = service.stopEvent := by
  rw [effect.frame]

theorem DecodeEffect.passGeneration : next.passGeneration = service.passGeneration := by
  rw [effect.frame]

theorem DecodeEffect.recording : next.recording = service.recording := by
  rw [effect.frame]

theorem DecodeEffect.seekTargetS : next.seekTargetS = service.seekTargetS := by
  rw [effect.frame]

theorem DecodeEffect.seekFilterPts : next.seekFilterPts = service.seekFilterPts := by
  rw [effect.frame]

theorem DecodeEffect.appliedSeekGeneration :
    next.appliedSeekGeneration = service.appliedSeekGeneration := by
  rw [effect.frame]

theorem DecodeEffect.firstPtsS : next.firstPtsS = service.firstPtsS := by
  rw [effect.frame]

theorem DecodeEffect.newestSeek : next.seekGeneration = service.seekGeneration := by
  rw [effect.frame]

omit effect

variable (configuration) in
/-- A failed attempt is repeated or ends the stream. -/
theorem decodeFailed_shape (service : VideoSourceService) :
    ∃ state consecutiveFailures phase,
      decodeFailed configuration service = { service with
        state
        decoder := { service.decoder with phase, consecutiveFailures } } ∧
      (state = service.state ∨ state = .error) ∧
        (phase = .looping ∨ phase = .putting .finish) := by
  simp only [decodeFailed]
  split_ifs
  · unfold failFrom
    split_ifs
    · exact ⟨_, _, _, rfl, Or.inr rfl, Or.inr rfl⟩
    · exact ⟨_, _, _, rfl, Or.inl rfl, Or.inr rfl⟩
  · exact ⟨_, _, _, rfl, Or.inl rfl, Or.inl rfl⟩

theorem decodeFailed_effect (service : VideoSourceService) :
    DecodeEffect service (decodeFailed configuration service) := by
  rcases decodeFailed_shape configuration service with
    ⟨state, failures, phase, shape, states, again | ends⟩
  · rw [shape]
    exact ⟨rfl, states, Or.inl rfl, Or.inl rfl, (fun exited => nomatch again.symm.trans exited)⟩
  · rw [shape]
    exact ⟨rfl, states, Or.inl rfl, Or.inl rfl, (fun exited => nomatch ends.symm.trans exited)⟩

theorem setDecodePhase_effect (service : VideoSourceService) {phase : DecodePhase}
    (stops : phase = .exited → service.stopEvent = true) :
    DecodeEffect service (service.setDecodePhase phase) :=
  ⟨rfl, Or.inl rfl, Or.inl rfl, Or.inl rfl,
    fun isExited => Or.inl (stops isExited)⟩

variable (configuration) in
/-- The pass is over: nothing is left to read, or a frame lies behind the region. -/
def IsOver (service : VideoSourceService) (pass last : RegionPass) : Prop :=
  pass.rest = [] ∧ last = pass ∨ pass.rest ≠ [] ∧
    pass.next service.recording.regionEndS configuration.processEveryNthFrame = .ended last

variable (configuration) in
/-- The steps that change the phase of the thread only. -/
inductive DecodeTurns (service : VideoSourceService) : DecodePhase → DecodePhase → Prop where
  | stop {phase : DecodePhase} (stopped : service.stopEvent = true)
      (elsewhere : phase ≠ .exited ∧ phase ≠ .consuming) : DecodeTurns service phase .exited
  | begin (running : service.stopEvent = false) : DecodeTurns service .looping .beginning
  | skip {pass rest : RegionPass}
      (isNext : pass.next service.recording.regionEndS configuration.processEveryNthFrame =
        .skip rest) : DecodeTurns service (.decoding pass) (.decoding rest)
  | hand {pass rest : RegionPass} {frame : DecodedVideoFrame}
      (isNext : pass.next service.recording.regionEndS configuration.processEveryNthFrame =
        .hand frame rest) : DecodeTurns service (.decoding pass) (.putting (.frame frame rest))
  | offer {put : Put} (running : service.stopEvent = false) :
      DecodeTurns service (.putting put) (.offering put)
  | retry {put : Put} : DecodeTurns service (.offering put) (.putting put)
  | returned {passedAny : Bool} (running : service.stopEvent = false) :
      DecodeTurns service (.returned passedAny) (.deciding passedAny)
  | seek {passedAny : Bool} (seeks : service.seekEvent = true) :
      DecodeTurns service (.deciding passedAny) .looping
  | finish {passedAny : Bool} (settled : service.seekEvent = false) :
      DecodeTurns service (.deciding passedAny) (.putting .finish)

variable (configuration) in
/-- What one step of the thread can do in each phase. -/
inductive Decodes (choice : Choice) (service : VideoSourceService) :
    DecodePhase → VideoSourceService → Prop where
  | turn {phase after : DecodePhase} (turns : DecodeTurns configuration service phase after) :
      Decodes choice service phase (service.setDecodePhase after)
  | seek (seeks : service.seekEvent = true) :
      Decodes choice service .beginning { service with decoder := { service.decoder with
        phase := .reading
        pass := { service.decoder.pass with startS := service.passStartS } } }
  | begin (settled : service.seekEvent = false) :
      Decodes choice service .beginning { service with decoder := { service.decoder with
        phase := .opening
        pass := { service.decoder.pass with startS := service.passStartS } } }
  | read : Decodes choice service .reading { service with decoder := { service.decoder with
      phase := .consuming
      pass := { service.decoder.pass with
        startS := service.seekTargetS
        seekGeneration := service.seekGeneration } } }
  | consume : Decodes choice service .consuming
      { service.setDecodePhase .opening with seekEvent := false }
  | beyond (ends : service.recording.regionEndS.any
      (fun endS => decide (endS ≤ service.decoder.pass.startS)) = true) :
      Decodes choice service .opening (service.decodeReturned false)
  | raised {phase : DecodePhase} (decodes : phase = .opening ∨ ∃ pass, phase = .decoding pass)
      (raises : choice = .raise) :
      Decodes choice service phase (decodeFailed configuration service)
  | opened (inside : service.recording.regionEndS.any
      (fun endS => decide (endS ≤ service.decoder.pass.startS)) = false) :
      Decodes choice service .opening { service with decoder := { service.decoder with
        phase := .decoding (.begin service.decoder.pass.startS
          (service.recording.frames service.decoder.pass.startS))
        pass := { service.decoder.pass with number := service.decoder.pass.number + 1 } } }
  | unfound {pass last : RegionPass} (isOver : IsOver configuration service pass last)
      (nothing : last.sourceFrameIndex = 0 ∧ last.framesDecoded = 0) :
      Decodes choice service (.decoding pass) (decodeFailed configuration service)
  | ended {pass last : RegionPass} (isOver : IsOver configuration service pass last) :
      Decodes choice service (.decoding pass)
        (service.decodeReturned (decide (0 < last.sourceFrameIndex)))
  | interrupted {pass : RegionPass} (stops : (service.stopEvent || service.seekEvent) = true) :
      Decodes choice service (.decoding pass)
        (service.decodeReturned (decide (0 < pass.sourceFrameIndex)))
  | cut {frame : DecodedVideoFrame} {rest : RegionPass} (stopped : service.stopEvent = true) :
      Decodes choice service (.putting (.frame frame rest))
        (service.decodeReturned (decide (0 < rest.sourceFrameIndex)))
  | put {put : Put} : Decodes choice service (.offering put)
      ({ service with
        decodeQueue := service.decodeQueue ++ [put.item service.decoder.pass] }.putDone put)
  | loop {passedAny : Bool} (settled : service.seekEvent = false) (passed : passedAny = true) :
      Decodes choice service (.deciding passedAny)
        { service.setDecodePhase (.putting .loop) with
          passStartS := service.recording.regionStartS }

theorem passOver_cases {choice : Choice} {pass last : RegionPass}
    (isOver : IsOver configuration service pass last) :
    Decodes configuration choice service (.decoding pass)
      (passOver configuration service last) := by
  unfold passOver
  split_ifs with unfound
  · exact .unfound isOver ⟨unfound.1, unfound.2.1⟩
  · exact .ended isOver

theorem decodeStep_cases {choice : Choice}
    (taken : decodeStep configuration service choice = some next) :
    ∃ phase, service.decoder.phase = phase ∧
      Decodes configuration choice service phase next := by
  refine ⟨_, rfl, ?_⟩
  unfold decodeStep at taken
  cases phase : service.decoder.phase with
  | looping =>
      simp only [phase] at taken
      cases taken
      split_ifs with stopped
      · exact .turn (.stop stopped ⟨nofun, nofun⟩)
      · exact .turn (.begin (Bool.eq_false_iff.mpr stopped))
  | beginning =>
      simp only [phase] at taken
      cases taken
      split_ifs with seeks
      · exact .seek seeks
      · exact .begin (Bool.eq_false_iff.mpr seeks)
  | reading =>
      simp only [phase] at taken
      cases taken
      exact .read
  | consuming =>
      simp only [phase] at taken
      cases taken
      exact .consume
  | opening =>
      simp only [phase] at taken
      split_ifs at taken with beyond raises
      · cases taken
        exact .beyond beyond
      · cases taken
        exact .raised (Or.inl rfl) raises
      · cases taken
        exact .opened (Bool.eq_false_iff.mpr beyond)
  | decoding pass =>
      simp only [phase] at taken
      split_ifs at taken with raises exhausted interrupted
      · cases taken
        exact .raised (Or.inr ⟨pass, rfl⟩) raises
      · cases taken
        exact passOver_cases (Or.inl ⟨exhausted, rfl⟩)
      · cases taken
        exact .interrupted interrupted
      · cases isNext : pass.next service.recording.regionEndS
            configuration.processEveryNthFrame with
        | ended last =>
            rw [isNext] at taken
            cases taken
            exact passOver_cases (Or.inr ⟨exhausted, isNext⟩)
        | skip rest =>
            rw [isNext] at taken
            cases taken
            exact .turn (.skip isNext)
        | hand frame rest =>
            rw [isNext] at taken
            cases taken
            exact .turn (.hand isNext)
  | putting put =>
      simp only [phase] at taken
      split_ifs at taken with stopped
      · cases taken
        cases put with
        | frame frame rest => exact .cut stopped
        | loop => exact .turn (.stop stopped ⟨nofun, nofun⟩)
        | finish => exact .turn (.stop stopped ⟨nofun, nofun⟩)
      · cases taken
        exact .turn (.offer (Bool.eq_false_iff.mpr stopped))
  | offering put =>
      simp only [phase] at taken
      split_ifs at taken
      · cases taken
        exact .put
      · cases taken
        exact .turn .retry
  | returned passedAny =>
      simp only [phase] at taken
      cases taken
      split_ifs with stopped
      · exact .turn (.stop stopped ⟨nofun, nofun⟩)
      · exact .turn (.returned (Bool.eq_false_iff.mpr stopped))
  | deciding passedAny =>
      simp only [phase] at taken
      split_ifs at taken with seeks ends
      · cases taken
        exact .turn (.seek seeks)
      · cases taken
        exact .turn (.finish (Bool.eq_false_iff.mpr seeks))
      · cases taken
        refine .loop (Bool.eq_false_iff.mpr seeks) ?_
        cases passedAny with
        | true => rfl
        | false => exact absurd (Bool.or_true _) ends
  | exited =>
      simp only [phase] at taken
      cases taken

theorem decodeStep_effect {choice : Choice}
    (taken : decodeStep configuration service choice = some next) : DecodeEffect service next := by
  rcases decodeStep_cases taken with ⟨current, phase, decodes⟩
  cases decodes with
  | turn turns =>
      cases turns with
      | stop stopped elsewhere => exact setDecodePhase_effect service (fun _ => stopped)
      | _ => exact setDecodePhase_effect service nofun
  | read => exact ⟨rfl, Or.inl rfl, Or.inl rfl, Or.inr ⟨rfl, rfl⟩, nofun⟩
  | raised decodes raises => exact decodeFailed_effect service
  | unfound isOver nothing => exact decodeFailed_effect service
  | @put put =>
      cases put with
      | frame decoded rest => exact ⟨rfl, Or.inl rfl, Or.inr ⟨_, phase, rfl⟩, Or.inl rfl, nofun⟩
      | loop => exact ⟨rfl, Or.inl rfl, Or.inr ⟨_, phase, rfl⟩, Or.inl rfl, nofun⟩
      | finish =>
          refine ⟨rfl, Or.inl rfl, Or.inr ⟨_, phase, rfl⟩, Or.inl rfl, fun _ => Or.inr ?_⟩
          simp [putDone, setDecodePhase, Put.item, DecodeItem.isEnd]
  | _ => exact ⟨rfl, Or.inl rfl, Or.inl rfl, Or.inl rfl, nofun⟩

end VideoSourceService
end Media
end Synesthesia
