import Mathlib
import Synesthesia.Media.DecodeEffect
import Synesthesia.Media.LoopObservation
import Synesthesia.Media.PresentEffect

namespace Synesthesia
namespace Media

open Foundation

/-!
# The restarted pass

What a restarted pass has put, and what the decode thread still has to put of
it, are together the frames of the region.
-/

/-- A loop signal or an end signal. -/
def DecodeItem.isSignal : DecodeItem → Bool
  | frame _ _ => false
  | loop _ => true
  | finish _ => true

theorem framesUntilSignal_of_signal (future other : List DecodedVideoFrame)
    {items : List DecodeItem} (ends : items.any DecodeItem.isSignal = true) :
    framesUntilSignal future items = framesUntilSignal other items := by
  induction items with
  | nil => cases ends
  | cons item rest ih =>
      cases item with
      | frame pass frame => exact congrArg (frame :: ·) (ih ends)
      | loop pass => rfl
      | finish pass => rfl

/-- The decode thread puts a frame. -/
theorem framesUntilSignal_put (future : List DecodedVideoFrame) (items : List DecodeItem)
    (pass : Pass) (frame : DecodedVideoFrame) :
    framesUntilSignal future (items ++ [.frame pass frame]) =
      framesUntilSignal (frame :: future) items := by
  induction items with
  | nil => rfl
  | cons item rest ih =>
      cases item with
      | frame pass frame => exact congrArg (frame :: ·) ih
      | loop pass => rfl
      | finish pass => rfl

/-- The decode thread puts a signal. -/
theorem framesUntilSignal_ends (future : List DecodedVideoFrame) (items : List DecodeItem)
    {signal : DecodeItem} (isSignal : signal.isSignal = true) :
    framesUntilSignal future (items ++ [signal]) = framesUntilSignal [] items := by
  induction items with
  | nil =>
      cases signal with
      | frame pass frame => cases isSignal
      | loop pass => rfl
      | finish pass => rfl
  | cons item rest ih =>
      cases item with
      | frame pass frame => exact congrArg (frame :: ·) ih
      | loop pass => rfl
      | finish pass => rfl

/-- Less is still to come. -/
theorem framesUntilSignal_mono {future longer : List DecodedVideoFrame}
    (shorter : future <+: longer) (items : List DecodeItem) :
    framesUntilSignal future items <+: framesUntilSignal longer items := by
  induction items with
  | nil => exact shorter
  | cons item rest ih =>
      cases item with
      | frame pass frame => exact List.cons_prefix_cons.mpr ⟨rfl, ih⟩
      | loop pass => exact List.prefix_refl _
      | finish pass => exact List.prefix_refl _

/-- Frames that the presentation thread has taken stand in front. -/
theorem framesUntilSignal_append (future : List DecodedVideoFrame) {received : List DecodeItem}
    (frames : received.any DecodeItem.isSignal = false) (items : List DecodeItem) :
    framesUntilSignal future (received ++ items) =
      framesUntilSignal [] received ++ framesUntilSignal future items := by
  induction received with
  | nil => rfl
  | cons item rest ih =>
      cases item with
      | frame pass frame => exact congrArg (frame :: ·) (ih frames)
      | loop pass => cases frames
      | finish pass => cases frames

/-- The pass is over, and its signal is on its way. -/
def DecodePhase.isClosing : DecodePhase → Bool
  | deciding _ => true
  | putting (.frame _ _) => false
  | putting _ => true
  | offering (.frame _ _) => false
  | offering _ => true
  | _ => false

/-- The pass has opened and, as far as it is over, has met a frame. -/
def DecodePhase.isOpened : DecodePhase → Bool
  | decoding _ => true
  | putting .finish => false
  | putting _ => true
  | offering .finish => false
  | offering _ => true
  | returned passedAny => passedAny
  | deciding passedAny => passedAny
  | _ => false

/-- The loop signal is on its way. -/
def DecodePhase.putsLoop : DecodePhase → Bool
  | putting .loop => true
  | offering .loop => true
  | _ => false

namespace VideoSourceService

variable (configuration : Configuration)

/-- The frames of a pass, when it can open at all. -/
def openedFrames (recording : Recording) (startS : ℚ) : List DecodedVideoFrame :=
  if recording.contains startS then passFrames configuration recording startS else []

/-- What the decode thread still puts before its next signal. -/
def future (service : VideoSourceService) : List DecodedVideoFrame :=
  match service.decoder.phase with
  | .looping => openedFrames configuration service.recording service.passStartS
  | .beginning => openedFrames configuration service.recording service.passStartS
  | .reading => []
  | .consuming => openedFrames configuration service.recording service.decoder.pass.startS
  | .opening => openedFrames configuration service.recording service.decoder.pass.startS
  | .decoding pass =>
      pass.remaining service.recording.regionEndS configuration.processEveryNthFrame
  | .putting (.frame frame rest) => frame ::
      rest.remaining service.recording.regionEndS configuration.processEveryNthFrame
  | .offering (.frame frame rest) => frame ::
      rest.remaining service.recording.regionEndS configuration.processEveryNthFrame
  | _ => []

/-- The items, and what is still to come, are the frames of the region; only a
stop may cut them short. -/
structure Delivers (service : VideoSourceService) (items : List DecodeItem) : Prop where
  begun : framesUntilSignal (future configuration service) items <+:
    openedFrames configuration service.recording service.recording.regionStartS
  complete : service.stopEvent = false ∨ items.any DecodeItem.isSignal = true ∨
      service.decoder.phase.isClosing = true →
    framesUntilSignal (future configuration service) items =
      openedFrames configuration service.recording service.recording.regionStartS

variable {configuration} {service next : VideoSourceService} {items : List DecodeItem}

theorem contains_eq_not (recording : Recording) (targetS : ℚ) :
    recording.contains targetS =
      !recording.regionEndS.any (fun endS => decide (endS ≤ targetS)) := by
  unfold Recording.contains
  cases recording.regionEndS with
  | none => rfl
  | some endS =>
      rw [Option.all_some, Option.any_some, ← decide_not]
      simp only [not_le]

/-- A pass that has opened has decoded the frame behind which it ends. -/
theorem framesDecoded_of_over {pass last : RegionPass} {endS : Option ℚ} {everyNth : Nat}
    (unfinished : pass.rest ≠ []) (isNext : pass.next endS everyNth = .ended last) :
    last.framesDecoded = pass.framesDecoded + 1 := by
  unfold RegionPass.next at isNext
  cases frames : pass.rest with
  | nil => exact absurd frames unfinished
  | cons frame rest =>
      rw [frames] at isNext
      simp only at isNext
      cases place : placeOf pass.startS endS frame with
      | before =>
          rw [place] at isNext
          cases isNext
      | past =>
          rw [place] at isNext
          cases isNext
          rfl
      | inside =>
          rw [place] at isNext
          simp only at isNext
          split_ifs at isNext
          cases converted : convertFrame frame pass.sourceFrameIndex with
          | none =>
              rw [converted] at isNext
              cases isNext
          | some decoded =>
              rw [converted] at isNext
              cases isNext

variable (delivers : service.Delivers configuration items)
include delivers

/-- A step that takes nothing from what is still to come. -/
theorem Delivers.of_future (recording : next.recording = service.recording)
    (stopEvent : next.stopEvent = service.stopEvent)
    (future : next.future configuration = service.future configuration)
    (closing : next.decoder.phase.isClosing = true →
      service.stopEvent = false ∨ service.decoder.phase.isClosing = true) :
    next.Delivers configuration items := by
  refine ⟨?_, ?_⟩
  · rw [future, recording]
    exact delivers.begun
  · rw [future, recording, stopEvent]
    intro whole
    refine delivers.complete ?_
    rcases whole with running | ends | closes
    · exact Or.inl running
    · exact Or.inr (Or.inl ends)
    · exact (closing closes).imp id Or.inr

/-- A stop cuts a pass short. -/
theorem Delivers.of_stop
    (recording : next.recording = service.recording) (stopped : next.stopEvent = true)
    (future : next.future configuration = [])
    (closing : next.decoder.phase.isClosing = false) : next.Delivers configuration items := by
  refine ⟨?_, ?_⟩
  · rw [future, recording]
    exact (framesUntilSignal_mono List.nil_prefix items).trans delivers.begun
  · rw [future, recording]
    rintro (running | ends | closes)
    · cases stopped.symm.trans running
    · rw [framesUntilSignal_of_signal [] (service.future configuration) ends]
      exact delivers.complete (Or.inr (Or.inl ends))
    · cases closing.symm.trans closes

/-- The decode thread puts a frame of the pass. -/
theorem Delivers.put_frame {frame : DecodedVideoFrame} {rest : RegionPass} {pass : Pass}
    (phase : service.decoder.phase = .offering (.frame frame rest))
    (recording : next.recording = service.recording)
    (stopEvent : next.stopEvent = service.stopEvent)
    (isNext : next.decoder.phase = .decoding rest) :
    next.Delivers configuration (items ++ [.frame pass frame]) := by
  have future : framesUntilSignal (next.future configuration) (items ++ [.frame pass frame]) =
      framesUntilSignal (service.future configuration) items := by
    rw [framesUntilSignal_put]
    simp only [VideoSourceService.future, isNext, phase, recording]
  refine ⟨?_, ?_⟩
  · rw [future, recording]
    exact delivers.begun
  · rw [future, recording, stopEvent]
    rintro (running | ends | closes)
    · exact delivers.complete (Or.inl running)
    · rw [List.any_append] at ends
      refine delivers.complete (Or.inr (Or.inl ?_))
      simpa [DecodeItem.isSignal] using ends
    · rw [isNext] at closes
      cases closes

/-- The decode thread puts the signal of the pass. -/
theorem Delivers.put_signal {put : Put}
    (phase : service.decoder.phase = .offering put)
    (closing : service.decoder.phase.isClosing = true) {signal : DecodeItem}
    (isSignal : signal.isSignal = true) (recording : next.recording = service.recording) :
    next.Delivers configuration (items ++ [signal]) := by
  have ended : service.future configuration = [] := by
    unfold VideoSourceService.future
    rw [phase] at closing ⊢
    cases put with
    | frame frame rest => cases closing
    | loop => rfl
    | finish => rfl
  have whole := delivers.complete (Or.inr (Or.inr closing))
  rw [ended] at whole
  refine ⟨?_, fun _ => ?_⟩
  · rw [framesUntilSignal_ends _ _ isSignal, whole, recording]
  · rw [framesUntilSignal_ends _ _ isSignal, whole, recording]

omit delivers in
/-- The decode thread goes on with a pass that nothing but a stop interrupts. -/
theorem decodeStep_delivers {choice : Choice} (settled : ¬ Looped.AttemptFails service choice)
    (calm : service.seekEvent = true → service.decoder.phase = .consuming)
    (working : service.decoder.phase ≠ .reading)
    (taken : decodeStep configuration service choice = some next) :
    ∃ added, next.decodeQueue = service.decodeQueue ++ added ∧
      ∀ items, service.Delivers configuration items →
        next.Delivers configuration (items ++ added) := by
  have kept : ∀ {other : VideoSourceService}, other.decodeQueue = service.decodeQueue →
      (∀ items, service.Delivers configuration items → other.Delivers configuration items) →
        ∃ added, other.decodeQueue = service.decodeQueue ++ added ∧
          ∀ items, service.Delivers configuration items →
            other.Delivers configuration (items ++ added) := by
    intro other queue each
    refine ⟨[], by rw [queue, List.append_nil], fun items delivers => ?_⟩
    rw [List.append_nil]
    exact each items delivers
  have same : ∀ {other : VideoSourceService}, other.decodeQueue = service.decodeQueue →
      other.recording = service.recording → other.stopEvent = service.stopEvent →
      other.future configuration = service.future configuration →
      (other.decoder.phase.isClosing = true →
        service.stopEvent = false ∨ service.decoder.phase.isClosing = true) →
      ∃ added, other.decodeQueue = service.decodeQueue ++ added ∧
        ∀ items, service.Delivers configuration items →
          other.Delivers configuration (items ++ added) :=
    fun queue recording stopEvent future closing =>
      kept queue (fun _ delivers => delivers.of_future recording stopEvent future closing)
  have never : ∀ {goal : Prop}, false = true → goal :=
    fun closing => absurd closing Bool.false_ne_true
  have unsought : service.decoder.phase ≠ .consuming → service.seekEvent = false :=
    fun elsewhere => Bool.eq_false_iff.mpr (fun seeks => elsewhere (calm seeks))
  unfold Looped.AttemptFails at settled
  rcases decodeStep_cases taken with ⟨current, phase, decodes⟩
  cases decodes with
  | turn turns =>
      cases turns with
      | stop stopped elsewhere =>
          exact kept rfl (fun items delivers => delivers.of_stop rfl stopped rfl rfl)
      | begin running =>
          refine same rfl rfl rfl ?_ never
          simp only [future, setDecodePhase, phase]
      | skip isNext =>
          refine same rfl rfl rfl ?_ never
          simp only [future, phase, setDecodePhase]
          exact (RegionPass.remaining_skip isNext).symm
      | hand isNext =>
          refine same rfl rfl rfl ?_ never
          simp only [future, phase, setDecodePhase]
          exact (RegionPass.remaining_hand isNext).symm
      | @offer put running =>
          refine same rfl rfl rfl ?_ (fun _ => Or.inl running)
          cases put <;> simp only [future, phase, setDecodePhase]
      | @retry put =>
          refine same rfl rfl rfl ?_ ?_
          · cases put <;> simp only [future, phase, setDecodePhase]
          · rw [phase]
            cases put with
            | frame frame rest => exact never
            | loop => exact fun _ => Or.inr rfl
            | finish => exact fun _ => Or.inr rfl
      | returned running =>
          refine same rfl rfl rfl ?_ (fun _ => Or.inl running)
          simp only [future, setDecodePhase, phase]
      | seek seeks => cases (unsought (by simp [phase])).symm.trans seeks
      | finish settled =>
          refine same rfl rfl rfl ?_ (fun _ => Or.inr (by rw [phase]; rfl))
          simp only [future, setDecodePhase, phase]
  | seek seeks => cases (unsought (by simp [phase])).symm.trans seeks
  | begin settled =>
      refine same rfl rfl rfl ?_ never
      simp only [future, phase]
  | read => exact absurd phase working
  | consume =>
      refine same rfl rfl rfl ?_ never
      simp only [future, setDecodePhase, phase]
  | beyond ends =>
      refine same rfl rfl rfl ?_ never
      have outside : service.recording.contains service.decoder.pass.startS = false := by
        rw [contains_eq_not, ends]
        rfl
      simp only [future, phase, decodeReturned, openedFrames, outside]
      rfl
  | raised decodes raises =>
      refine absurd ?_ settled
      rw [phase]
      rcases decodes with rfl | ⟨pass, rfl⟩
      · exact raises
      · exact Or.inl raises
  | opened inside =>
      refine same rfl rfl rfl ?_ never
      have within : service.recording.contains service.decoder.pass.startS = true := by
        rw [contains_eq_not, inside]
        rfl
      simp only [future, phase, openedFrames, within]
      rfl
  | unfound isOver nothing =>
      refine absurd ?_ settled
      rw [phase]
      rcases isOver with ⟨exhausted, rfl⟩ | ⟨unfinished, isNext⟩
      · exact Or.inr ⟨exhausted, nothing⟩
      · have decoded := framesDecoded_of_over unfinished isNext
        omega
  | ended isOver =>
      refine same rfl rfl rfl ?_ never
      simp only [future, phase, decodeReturned]
      rcases isOver with ⟨exhausted, _⟩ | ⟨_, isNext⟩
      · rw [RegionPass.remaining, exhausted]
        rfl
      · exact (RegionPass.remaining_over isNext).symm
  | interrupted stops =>
      rw [unsought (by simp [phase]), Bool.or_false] at stops
      exact kept rfl (fun items delivers => delivers.of_stop rfl stops rfl rfl)
  | cut stopped => exact kept rfl (fun items delivers => delivers.of_stop rfl stopped rfl rfl)
  | @put put =>
      refine ⟨[put.item service.decoder.pass], ?_, fun items delivers => ?_⟩
      · cases put <;> rfl
      · cases put with
        | frame frame rest => exact delivers.put_frame phase rfl rfl rfl
        | loop => exact delivers.put_signal phase (by rw [phase]; rfl) rfl rfl
        | finish => exact delivers.put_signal phase (by rw [phase]; rfl) rfl rfl
  | loop settled passed =>
      refine same rfl rfl rfl ?_ (fun _ => Or.inr (by rw [phase]; rfl))
      simp only [future, setDecodePhase, phase]

theorem Delivers.decodeStep {choice : Choice}
    {added : List DecodeItem} (settled : ¬ Looped.AttemptFails service choice)
    (calm : service.seekEvent = true → service.decoder.phase = .consuming)
    (working : service.decoder.phase ≠ .reading)
    (taken : decodeStep configuration service choice = some next)
    (grown : next.decodeQueue = service.decodeQueue ++ added) :
    next.Delivers configuration (items ++ added) := by
  rcases decodeStep_delivers settled calm working taken with ⟨put, isPut, each⟩
  rw [List.append_cancel_left (grown.symm.trans isPut)]
  exact each items delivers

omit delivers

/-! ## The region -/

/-- Passes start inside the region, so that a pass that has opened shows that
the region is not empty. -/
structure Inside (service : VideoSourceService) : Prop where
  next : service.decoder.phase ≠ .exited →
    service.recording.regionStartS ≤ service.passStartS
  target : service.seekEvent = true ∨ service.caller = .seeking ∨
      service.decoder.phase = .reading →
    service.recording.regionStartS ≤ service.seekTargetS
  start : service.decoder.phase = .consuming ∨ service.decoder.phase = .opening →
    service.recording.regionStartS ≤ service.decoder.pass.startS
  opened : service.decoder.phase.isOpened = true →
    service.recording.contains service.recording.regionStartS = true
  queued : ∀ pass, .loop pass ∈ service.decodeQueue →
    service.recording.contains service.recording.regionStartS = true

theorem inside_initial (recording : Recording) : (initial recording).Inside :=
  ⟨(fun running => absurd rfl running), nofun,
    nofun, nofun, fun _ member => nomatch member⟩

/-- What the decode thread may do to the region of its passes. -/
theorem Inside.of_decode (inside : service.Inside) (effect : DecodeEffect service next)
    (running : service.decoder.phase ≠ .exited)
    (passStartS : next.passStartS = service.passStartS ∨
      next.passStartS = service.recording.regionStartS)
    (seekEvent : next.seekEvent = true → service.seekEvent = true)
    (reading : next.decoder.phase = .reading → service.seekEvent = true)
    (start : next.decoder.phase = .consuming ∨ next.decoder.phase = .opening →
      service.recording.regionStartS ≤ next.decoder.pass.startS)
    (opened : next.decoder.phase.isOpened = true → service.decoder.phase.isOpened = true ∨
      service.recording.contains service.recording.regionStartS = true) :
    next.Inside := by
  refine ⟨?_, ?_, ?_, ?_, ?_⟩
  · intro _
    rw [effect.recording]
    rcases passStartS with same | restarts
    · rw [same]
      exact inside.next running
    · exact restarts.ge
  · rw [effect.caller, effect.recording, effect.seekTargetS]
    rintro (seeks | sought | reads)
    · exact inside.target (Or.inl (seekEvent seeks))
    · exact inside.target (Or.inr (Or.inl sought))
    · exact inside.target (Or.inl (reading reads))
  · rw [effect.recording]
    exact start
  · rw [effect.recording]
    exact fun isOpened => (opened isOpened).elim inside.opened id
  · rw [effect.recording]
    intro pass member
    rcases effect.queue with same | ⟨put, offering, grown⟩
    · rw [same] at member
      exact inside.queued pass member
    · rw [grown] at member
      rcases List.mem_append.mp member with already | isNew
      · exact inside.queued pass already
      · refine inside.opened ?_
        rw [offering]
        cases put with
        | frame frame rest => cases List.mem_singleton.mp isNew
        | loop => rfl
        | finish => cases List.mem_singleton.mp isNew

theorem Inside.decodeFailed (inside : service.Inside)
    (running : service.decoder.phase ≠ .exited) :
    (decodeFailed configuration service).Inside := by
  have effect : DecodeEffect service (VideoSourceService.decodeFailed configuration service) :=
    decodeFailed_effect service
  rcases decodeFailed_shape configuration service with
    ⟨state, failures, phase, shape, _, again | ends⟩
  · rw [shape] at effect ⊢
    subst again
    exact inside.of_decode effect running (Or.inl rfl) id nofun nofun nofun
  · rw [shape] at effect ⊢
    subst ends
    exact inside.of_decode effect running (Or.inl rfl) id nofun nofun nofun

/-- The decode thread moves on. -/
theorem Inside.setDecodePhase (inside : service.Inside) {phase : DecodePhase}
    (running : service.decoder.phase ≠ .exited) (reading : phase ≠ .reading)
    (start : phase = .consuming ∨ phase = .opening →
      service.recording.regionStartS ≤ service.decoder.pass.startS)
    (opened : phase.isOpened = true → service.decoder.phase.isOpened = true ∨
      service.recording.contains service.recording.regionStartS = true) :
    (service.setDecodePhase phase).Inside := by
  refine ⟨fun _ => inside.next running, ?_, start, fun isOpened => (opened isOpened).elim
    inside.opened id, inside.queued⟩
  rintro (seeks | sought | reads)
  · exact inside.target (Or.inl seeks)
  · exact inside.target (Or.inr (Or.inl sought))
  · exact absurd reads reading

theorem Inside.decodeStep (inside : service.Inside) {choice : Choice}
    (taken : decodeStep configuration service choice = some next) : next.Inside := by
  have effect := decodeStep_effect taken
  rcases decodeStep_cases taken with ⟨current, phase, decodes⟩
  cases decodes with
  | turn turns =>
      cases turns with
      | stop stopped elsewhere =>
          exact inside.setDecodePhase (phase ▸ elsewhere.1) nofun nofun nofun
      | begin running => exact inside.setDecodePhase (by rw [phase]; nofun) nofun nofun nofun
      | seek seeks => exact inside.setDecodePhase (by rw [phase]; nofun) nofun nofun nofun
      | finish settled => exact inside.setDecodePhase (by rw [phase]; nofun) nofun nofun nofun
      | skip isNext =>
          exact inside.setDecodePhase (by rw [phase]; nofun) nofun nofun
            (fun _ => Or.inl (by rw [phase]; rfl))
      | hand isNext =>
          exact inside.setDecodePhase (by rw [phase]; nofun) nofun nofun
            (fun _ => Or.inl (by rw [phase]; rfl))
      | @offer put running =>
          refine inside.setDecodePhase (by rw [phase]; nofun) nofun nofun
            (fun isOpened => Or.inl ?_)
          rw [phase]
          cases put <;> exact isOpened
      | @retry put =>
          refine inside.setDecodePhase (by rw [phase]; nofun) nofun nofun
            (fun isOpened => Or.inl ?_)
          rw [phase]
          cases put <;> exact isOpened
      | returned running =>
          exact inside.setDecodePhase (by rw [phase]; nofun) nofun nofun
            (fun isOpened => Or.inl (by rw [phase]; exact isOpened))
  | seek seeks =>
      exact inside.of_decode effect (by rw [phase]; nofun) (Or.inl rfl) id (fun _ => seeks) nofun
        nofun
  | begin settled =>
      have running : service.decoder.phase ≠ .exited := by rw [phase]; nofun
      exact inside.of_decode effect running (Or.inl rfl) id nofun (fun _ => inside.next running)
        nofun
  | read =>
      exact inside.of_decode effect (by rw [phase]; nofun) (Or.inl rfl) id nofun
        (fun _ => inside.target (Or.inr (Or.inr phase))) nofun
  | consume =>
      exact inside.of_decode effect (by rw [phase]; nofun) (Or.inl rfl) nofun nofun
        (fun _ => inside.start (Or.inl phase)) nofun
  | beyond ends =>
      exact inside.of_decode effect (by rw [phase]; nofun) (Or.inl rfl) id nofun nofun nofun
  | raised decodes raises =>
      refine inside.decodeFailed ?_
      rw [phase]
      rcases decodes with rfl | ⟨pass, rfl⟩ <;> nofun
  | opened within =>
      refine inside.of_decode effect (by rw [phase]; nofun) (Or.inl rfl) id nofun nofun
        (fun _ => Or.inr ?_)
      have start := inside.start (Or.inr phase)
      cases ends : service.recording.regionEndS with
      | none => rw [Recording.contains, ends, Option.all_none]
      | some endS =>
          rw [ends, Option.any_some, decide_eq_false_iff_not, not_le] at within
          rw [Recording.contains, ends, Option.all_some, decide_eq_true_eq]
          exact lt_of_le_of_lt start within
  | unfound isOver nothing => exact inside.decodeFailed (by rw [phase]; nofun)
  | @put put =>
      cases put with
      | frame frame rest =>
          exact inside.of_decode effect (by rw [phase]; nofun) (Or.inl rfl) id nofun nofun
            (fun _ => Or.inl (by rw [phase]; rfl))
      | loop =>
          exact inside.of_decode effect (by rw [phase]; nofun) (Or.inl rfl) id nofun nofun nofun
      | finish =>
          exact inside.of_decode effect (by rw [phase]; nofun) (Or.inl rfl) id nofun nofun nofun
  | loop settled passed =>
      exact inside.of_decode effect (by rw [phase]; nofun) (Or.inr rfl) id nofun nofun
        (fun _ => Or.inl (by rw [phase]; exact passed))
  | _ =>
      exact inside.of_decode effect (by rw [phase]; nofun) (Or.inl rfl) id nofun nofun
        (fun _ => Or.inl (by rw [phase]; rfl))

/-! ## The seek event -/

/-- How the decode thread takes up a seek, and where it restarts. -/
structure SeekMove (service next : VideoSourceService) : Prop where
  event : next.seekEvent = true →
    service.seekEvent = true ∧ service.decoder.phase ≠ .consuming
  reading : next.decoder.phase = .reading →
    service.seekEvent = true ∧ service.decoder.phase = .beginning
  generation : next.decoder.pass.seekGeneration = service.decoder.pass.seekGeneration ∨
    service.decoder.phase = .reading ∧ next.decoder.phase = .consuming
  restart : next.decoder.phase.putsLoop = true →
    next.passStartS = service.recording.regionStartS ∨
      service.decoder.phase.putsLoop = true ∧ next.passStartS = service.passStartS

/-- A step that has nothing to do with seeks. -/
theorem seekMove_of_same (elsewhere : service.decoder.phase ≠ .consuming)
    (seekEvent : next.seekEvent = service.seekEvent)
    (pass : next.decoder.pass.seekGeneration = service.decoder.pass.seekGeneration)
    (reading : next.decoder.phase ≠ .reading) (calm : next.decoder.phase.putsLoop = false) :
    SeekMove service next :=
  ⟨fun seeks => ⟨seekEvent.symm.trans seeks, elsewhere⟩, fun reads => absurd reads reading,
    Or.inl pass, fun restarts => nomatch calm.symm.trans restarts⟩

variable (configuration) in
theorem decodeFailed_seekMove (service : VideoSourceService)
    (elsewhere : service.decoder.phase ≠ .consuming) :
    SeekMove service (decodeFailed configuration service) := by
  rcases decodeFailed_shape configuration service with
    ⟨state, failures, phase, shape, _, again | ends⟩
  · rw [shape]
    subst again
    exact seekMove_of_same elsewhere rfl rfl nofun rfl
  · rw [shape]
    subst ends
    exact seekMove_of_same elsewhere rfl rfl nofun rfl

theorem decodeStep_seekMove {choice : Choice}
    (taken : decodeStep configuration service choice = some next) : SeekMove service next := by
  rcases decodeStep_cases taken with ⟨current, phase, decodes⟩
  cases decodes with
  | turn turns =>
      cases turns with
      | stop stopped elsewhere =>
          exact seekMove_of_same (phase ▸ elsewhere.2) rfl rfl nofun rfl
      | @offer put running =>
          have elsewhere : service.decoder.phase ≠ .consuming := by rw [phase]; nofun
          exact ⟨fun seeks => ⟨seeks, elsewhere⟩, nofun, Or.inl rfl,
            fun loops => Or.inr ⟨by rw [phase]; cases put <;> exact loops, rfl⟩⟩
      | @retry put =>
          have elsewhere : service.decoder.phase ≠ .consuming := by rw [phase]; nofun
          exact ⟨fun seeks => ⟨seeks, elsewhere⟩, nofun, Or.inl rfl,
            fun loops => Or.inr ⟨by rw [phase]; cases put <;> exact loops, rfl⟩⟩
      | _ => exact seekMove_of_same (by rw [phase]; nofun) rfl rfl nofun rfl
  | seek seeks =>
      exact ⟨fun _ => ⟨seeks, by rw [phase]; nofun⟩, fun _ => ⟨seeks, phase⟩, Or.inl rfl, nofun⟩
  | read =>
      exact ⟨fun seeks => ⟨seeks, by rw [phase]; nofun⟩, nofun, Or.inr ⟨phase, rfl⟩, nofun⟩
  | consume => exact ⟨nofun, nofun, Or.inl rfl, nofun⟩
  | raised decodes raises =>
      refine decodeFailed_seekMove configuration service ?_
      rw [phase]
      rcases decodes with rfl | ⟨pass, rfl⟩ <;> nofun
  | unfound isOver nothing =>
      exact decodeFailed_seekMove configuration service (by rw [phase]; nofun)
  | @put put =>
      cases put with
      | _ => exact seekMove_of_same (by rw [phase]; nofun) rfl rfl nofun rfl
  | loop settled passed =>
      exact ⟨fun seeks => ⟨seeks, by rw [phase]; nofun⟩, nofun, Or.inl rfl, fun _ => Or.inl rfl⟩
  | _ => exact seekMove_of_same (by rw [phase]; nofun) rfl rfl nofun rfl

/-- Behind a loop signal the whole region is still to come. -/
theorem delivers_restarted (phase : service.decoder.phase = .looping)
    (restart : service.passStartS = service.recording.regionStartS) :
    service.Delivers configuration [] := by
  have whole : framesUntilSignal (service.future configuration) [] =
      openedFrames configuration service.recording service.recording.regionStartS := by
    rw [framesUntilSignal, future, phase, restart]
  refine ⟨?_, fun _ => whole⟩
  rw [whole]

end VideoSourceService
end Media
end Synesthesia
