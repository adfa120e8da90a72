import Synesthesia.Media.LoopHead

namespace Synesthesia
namespace Media
namespace Looped

open Foundation VideoSourceService

/-!
# Loop boundaries are exact

The invariant of the observed service: what the queue and the decode thread
hold behind each loop signal is the region, and an open stretch has shown the
front of it.
-/

variable {configuration : Configuration} {looped : Looped}

/-- The frames of a restarted pass. -/
def regionFrames (configuration : Configuration) (service : VideoSourceService) :
    List DecodedVideoFrame :=
  openedFrames configuration service.recording service.recording.regionStartS

/-! ## The queue -/

structure Streaming (configuration : Configuration) (looped : Looped) : Prop where
  inside : looped.service.Inside
  seek_le : looped.service.decoder.pass.seekGeneration ≤ looped.service.seekGeneration
  queue_le : ∀ item ∈ looped.service.decodeQueue,
    item.seekGeneration ≤ looped.service.decoder.pass.seekGeneration
  event : looped.service.seekEvent = true →
    looped.service.decoder.pass.seekGeneration ≠ looped.service.seekGeneration ∨
      looped.service.decoder.phase = .consuming
  reading : looped.service.decoder.phase = .reading →
    looped.service.decoder.pass.seekGeneration ≠ looped.service.seekGeneration
  history : looped.service.decodeQueue <:+ looped.history
  queued : ∀ before pass after, looped.service.decodeQueue = before ++ .loop pass :: after →
    pass.seekGeneration = looped.service.seekGeneration →
      looped.service.Delivers configuration after
  restart : looped.service.decoder.phase.putsLoop = true →
    looped.service.passStartS = looped.service.recording.regionStartS
  headQueue : looped.service.headQueue < looped.service.heads.length

theorem streaming_initial (recording : Recording) :
    Streaming configuration (initial recording) := by
  refine ⟨inside_initial recording, le_rfl, (fun _ member => nomatch member), nofun, nofun,
    List.suffix_refl _, ?_, nofun, Nat.zero_lt_one⟩
  intro before pass after isQueue
  cases before <;> cases isQueue

/-! ## An open stretch -/

/-- The thread works on a frame, or is about to take one. -/
def isServing : PresentPhase → Bool
  | .clearing => false
  | .resetting => false
  | .restarting _ => false
  | .failing => false
  | .ending => false
  | .exited => false
  | _ => true

structure Live (configuration : Configuration) (looped : Looped) (stretch : Stretch)
    (received : List DecodeItem) : Prop where
  applied : looped.service.appliedSeekGeneration = looped.service.seekGeneration
  pass : stretch.pass.seekGeneration = looped.service.seekGeneration
  unfiltered : looped.service.seekFilterPts = none
  delivers : looped.service.Delivers configuration (looped.history.drop stretch.start)
  serving : isServing looped.service.presenter.phase = true
  fromHead : ∀ held, looped.service.presenter.phase.held = some held →
    held.fromHead = looped.service.presenter.usingHead
  receiving : looped.service.presenter.phase = .receiving →
    looped.service.presenter.usingHead = false
  shows : received = [] ∧
      Serves (regionFrames configuration looped.service) stretch.shown looped.service ∨
    Follows (regionFrames configuration looped.service) stretch.shown
      (framesUntilSignal [] received) looped.service

/-- Where the thread stands behind the loop signal of the stretch. -/
inductive Progress (configuration : Configuration) (looped : Looped) (stretch : Stretch)
    (received : List DecodeItem) : Prop where
  | restarts (phase : looped.service.presenter.phase = .restarting stretch.pass)
      (nothing : received = [] ∧ stretch.shown = [])
      (delivers : stretch.pass.seekGeneration = looped.service.seekGeneration →
        looped.service.Delivers configuration (looped.history.drop stretch.start))
  | yields (pending : looped.service.appliedSeekGeneration ≠ looped.service.seekGeneration)
      (phase : looped.service.presenter.phase = .looping ∨
        looped.service.presenter.phase = .claiming)
      (nothing : stretch.shown = [])
  | leaves (phase : looped.service.presenter.phase.isLeaving = true)
      (front : stretch.shown <+: regionFrames configuration looped.service)
  | shows (live : Live configuration looped stretch received)

structure OnStretch (configuration : Configuration) (looped : Looped) (stretch : Stretch) :
    Prop where
  region : looped.service.recording.contains looped.service.recording.regionStartS = true
  start_le : stretch.start ≤ looped.history.length
  pass_le : stretch.pass.seekGeneration ≤ looped.service.decoder.pass.seekGeneration
  progress : ∃ received : List DecodeItem, received.any DecodeItem.isSignal = false ∧
    looped.history.drop stretch.start = received ++ looped.service.decodeQueue ∧
      Progress configuration looped stretch received

/-- What has been presented at earlier boundaries does not matter. -/
theorem Streaming.reopen (streaming : Streaming configuration looped) (stretch : Option Stretch)
    (boundaries : List Boundary) :
    Streaming configuration ⟨looped.service, looped.history, stretch, boundaries⟩ :=
  ⟨streaming.inside, streaming.seek_le, streaming.queue_le, streaming.event, streaming.reading,
    streaming.history, streaming.queued, streaming.restart, streaming.headQueue⟩

theorem Live.reopen {stretch : Stretch} {received : List DecodeItem}
    (live : Live configuration looped stretch received) (reopened : Option Stretch)
    (boundaries : List Boundary) :
    Live configuration ⟨looped.service, looped.history, reopened, boundaries⟩ stretch received :=
  ⟨live.applied, live.pass, live.unfiltered, live.delivers, live.serving, live.fromHead,
    live.receiving, live.shows⟩

theorem OnStretch.reopen {stretch : Stretch} (onStretch : OnStretch configuration looped stretch)
    (reopened : Option Stretch) (boundaries : List Boundary) :
    OnStretch configuration ⟨looped.service, looped.history, reopened, boundaries⟩ stretch := by
  rcases onStretch.progress with ⟨received, frames, split, progress⟩
  refine ⟨onStretch.region, onStretch.start_le, onStretch.pass_le, received, frames, split, ?_⟩
  cases progress with
  | restarts phase nothing delivers => exact .restarts phase nothing delivers
  | yields pending phase nothing => exact .yields pending phase nothing
  | leaves phase front => exact .leaves phase front
  | shows live => exact .shows (live.reopen reopened boundaries)

structure Sound (configuration : Configuration) (looped : Looped) : Prop where
  streaming : Streaming configuration looped
  stretch : ∀ stretch ∈ looped.stretch, OnStretch configuration looped stretch
  boundaries : ∀ boundary ∈ looped.boundaries, boundary.shown = boundary.enqueued ∧
    boundary.enqueued =
      passFrames configuration boundary.recording boundary.recording.regionStartS
  reloading : looped.service.caller = .reloading →
    looped.stretch = none ∧ looped.service.decodeQueue = [] ∧
      looped.service.seekEvent = false ∧ looped.service.decoder.phase = .exited ∧
        looped.service.presenter.phase = .exited

theorem sound_initial (recording : Recording) : Sound configuration (initial recording) :=
  ⟨streaming_initial recording, (fun _ opened => nomatch opened), (fun _ member => nomatch member),
    nofun⟩

/-! ## The decode thread -/

theorem grown_of_effect {service next : VideoSourceService} (effect : DecodeEffect service next) :
    next.decodeQueue = service.decodeQueue ++
      next.decodeQueue.drop service.decodeQueue.length := by
  rcases effect.queue with same | ⟨put, _, grown⟩
  · rw [same, List.drop_length, List.append_nil]
  · rw [grown, List.drop_left]

/-- While a loop signal of the newest seek is about, nothing interrupts the
decode thread. -/
theorem Streaming.calm (streaming : Streaming configuration looped)
    (newest : looped.service.seekGeneration ≤ looped.service.decoder.pass.seekGeneration) :
    (looped.service.seekEvent = true → looped.service.decoder.phase = .consuming) ∧
      looped.service.decoder.phase ≠ .reading := by
  have same := le_antisymm streaming.seek_le newest
  exact ⟨fun seeks => (streaming.event seeks).resolve_left (fun other => other same),
    fun reads => streaming.reading reads same⟩

variable {choice : Choice}

theorem Streaming.decodeStep (streaming : Streaming configuration looped)
    {next : VideoSourceService} (settled : looped.AttemptsSettled choice)
    (taken : VideoSourceService.decodeStep configuration looped.service choice = some next) :
    Streaming configuration { looped with
      service := next
      history := looped.history ++
        next.decodeQueue.drop looped.service.decodeQueue.length } := by
  have effect := decodeStep_effect taken
  have move := decodeStep_seekMove taken
  have grown := grown_of_effect effect
  have behind : looped.service.decoder.pass.seekGeneration ≤ next.decoder.pass.seekGeneration := by
    rcases effect.seekGeneration with kept | ⟨honours, _⟩
    · exact kept.ge
    · rw [honours]
      exact streaming.seek_le
  refine ⟨streaming.inside.decodeStep taken, ?_, ?_, ?_, ?_, ?_, ?_, ?_, ?_⟩
  · simp only [effect.newestSeek]
    rcases effect.seekGeneration with kept | ⟨honours, _⟩
    · rw [kept]
      exact streaming.seek_le
    · exact honours.le
  · intro item member
    rcases effect.queue with same | ⟨put, _, isNew⟩
    · rw [same] at member
      exact (streaming.queue_le item member).trans behind
    · rw [isNew] at member
      rcases List.mem_append.mp member with already | added
      · exact (streaming.queue_le item already).trans behind
      · rw [List.mem_singleton.mp added, DecodeItem.seekGeneration, Put.item_pass]
        exact behind
  · intro seeks
    rcases move.event seeks with ⟨sought, elsewhere⟩
    have older := (streaming.event sought).resolve_right elsewhere
    simp only [effect.newestSeek]
    rcases move.generation with kept | ⟨_, consumes⟩
    · left
      rw [kept]
      exact older
    · exact Or.inr consumes
  · intro reads
    rcases move.reading reads with ⟨sought, begins⟩
    have elsewhere : looped.service.decoder.phase ≠ .consuming := by rw [begins]; nofun
    have older := (streaming.event sought).resolve_right elsewhere
    simp only [effect.newestSeek]
    rcases move.generation with kept | ⟨reading, _⟩
    · rw [kept]
      exact older
    · cases begins.symm.trans reading
  · rcases streaming.history with ⟨gone, isHistory⟩
    refine ⟨gone, ?_⟩
    simp only
    rw [← isHistory, List.append_assoc, ← grown]
  · intro before pass after isQueue newest
    simp only [effect.newestSeek] at isQueue newest
    simp only
    rw [grown] at isQueue
    have isPut : ∀ {rest}, next.decodeQueue.drop looped.service.decodeQueue.length =
        rest ++ .loop pass :: after → next.Delivers configuration after := by
      intro rest isAdded
      rcases effect.queue with same | ⟨put, offering, isNew⟩
      · rw [same, List.drop_length] at isAdded
        exact absurd isAdded.symm (List.append_ne_nil_of_right_ne_nil _ (List.cons_ne_nil _ _))
      · rw [isNew, List.drop_left] at isAdded
        have isLast :
            rest = [] ∧ after = [] ∧ put.item looped.service.decoder.pass = .loop pass := by
          cases rest with
          | nil => exact ⟨rfl, (List.cons.inj isAdded).2.symm, (List.cons.inj isAdded).1⟩
          | cons item rest =>
              have tooLong := congrArg List.length isAdded
              simp at tooLong
        have isLoop : put = .loop := by
          cases put with
          | frame frame rest => cases isLast.2.2
          | loop => rfl
          | finish => cases isLast.2.2
        subst isLoop
        rw [isLast.2.1]
        unfold VideoSourceService.decodeStep at taken
        simp only [offering] at taken
        split_ifs at taken with room
        · cases taken
          exact delivers_restarted rfl (streaming.restart (by rw [offering]; rfl))
        · cases taken
          have unchanged := congrArg List.length isNew
          simp [setDecodePhase] at unchanged
    rcases List.append_eq_append_iff.mp isQueue with ⟨rest, _, isAdded⟩ | ⟨rest, isOld, isAfter⟩
    · exact isPut isAdded
    · cases rest with
      | nil => exact isPut (isAfter.symm.trans (List.nil_append _).symm)
      | cons item rest =>
          cases isAfter
          have member : .loop pass ∈ looped.service.decodeQueue := by
            rw [isOld]
            exact List.mem_append_right _ List.mem_cons_self
          have delivers := streaming.queued before pass rest isOld newest
          have reached := streaming.queue_le _ member
          rcases streaming.calm (newest.ge.trans reached) with ⟨calm, working⟩
          refine delivers.decodeStep ?_ calm working taken grown
          intro fails
          exact (settled fails).2 _ member newest
  · intro restarts
    rw [effect.recording]
    rcases move.restart restarts with here | ⟨before, same⟩
    · exact here
    · rw [same]
      exact streaming.restart before
  · simp only
    rw [effect.frame]
    exact streaming.headQueue

/-- A step of another thread that keeps what the presentation thread sees. -/
theorem Live.of_elsewhere {stretch : Stretch} {received : List DecodeItem}
    (live : Live configuration looped stretch received) {next : Looped}
    (recording : next.service.recording = looped.service.recording)
    (presenter : next.service.presenter = looped.service.presenter)
    (heads : looped.service.heads <+: next.service.heads)
    (applied : next.service.appliedSeekGeneration = looped.service.appliedSeekGeneration)
    (seekGeneration : next.service.seekGeneration = looped.service.seekGeneration)
    (filter : next.service.seekFilterPts = looped.service.seekFilterPts)
    (delivers : next.service.Delivers configuration (next.history.drop stretch.start)) :
    Live configuration next stretch received := by
  have frames : regionFrames configuration next.service =
      regionFrames configuration looped.service := by
    unfold regionFrames
    rw [recording]
  refine ⟨?_, ?_, ?_, delivers, ?_, ?_, ?_, ?_⟩
  · rw [applied, seekGeneration]
    exact live.applied
  · rw [seekGeneration]
    exact live.pass
  · rw [filter]
    exact live.unfiltered
  · rw [presenter]
    exact live.serving
  · rw [presenter]
    exact live.fromHead
  · rw [presenter]
    exact live.receiving
  · rw [frames]
    refine live.shows.imp ?_ ?_
    · exact fun serves => ⟨serves.1, serves.2.of_heads presenter heads⟩
    · exact fun follows => follows.of_presenter presenter

theorem Progress.of_elsewhere {stretch : Stretch} {received : List DecodeItem}
    (progress : Progress configuration looped stretch received) {next : Looped}
    (recording : next.service.recording = looped.service.recording)
    (presenter : next.service.presenter = looped.service.presenter)
    (heads : looped.service.heads <+: next.service.heads)
    (applied : next.service.appliedSeekGeneration = looped.service.appliedSeekGeneration)
    (seekGeneration : next.service.seekGeneration = looped.service.seekGeneration)
    (filter : next.service.seekFilterPts = looped.service.seekFilterPts)
    (delivers : stretch.pass.seekGeneration = looped.service.seekGeneration →
      looped.service.Delivers configuration (looped.history.drop stretch.start) →
        next.service.Delivers configuration (next.history.drop stretch.start)) :
    Progress configuration next stretch received := by
  cases progress with
  | restarts phase nothing holds =>
      refine .restarts (by rw [presenter]; exact phase) nothing ?_
      rw [seekGeneration]
      exact fun newest => delivers newest (holds newest)
  | yields pending phase nothing =>
      refine .yields ?_ (by rw [presenter]; exact phase) nothing
      rw [applied, seekGeneration]
      exact pending
  | leaves phase front =>
      refine .leaves (by rw [presenter]; exact phase) ?_
      unfold regionFrames
      rw [recording]
      exact front
  | shows live =>
      exact .shows (live.of_elsewhere recording presenter heads applied seekGeneration filter
        (delivers live.pass live.delivers))

theorem OnStretch.decodeStep {stretch : Stretch}
    (onStretch : OnStretch configuration looped stretch)
    (streaming : Streaming configuration looped) (isOpen : looped.stretch = some stretch)
    {next : VideoSourceService} (settled : looped.AttemptsSettled choice)
    (taken : VideoSourceService.decodeStep configuration looped.service choice = some next) :
    OnStretch configuration { looped with
      service := next
      history := looped.history ++
        next.decodeQueue.drop looped.service.decodeQueue.length } stretch := by
  have effect := decodeStep_effect taken
  have grown := grown_of_effect effect
  have heads : looped.service.heads <+: next.heads := by
    rw [effect.frame]
  have history : (looped.history ++ next.decodeQueue.drop looped.service.decodeQueue.length).drop
      stretch.start = looped.history.drop stretch.start ++
        next.decodeQueue.drop looped.service.decodeQueue.length :=
    List.drop_append_of_le_length onStretch.start_le
  rcases onStretch.progress with ⟨received, frames, split, progress⟩
  refine ⟨?_, ?_, ?_, received, frames, ?_, ?_⟩
  · rw [effect.recording]
    exact onStretch.region
  · simp only [List.length_append]
    exact onStretch.start_le.trans (Nat.le_add_right _ _)
  · refine onStretch.pass_le.trans ?_
    rcases effect.seekGeneration with kept | ⟨honours, _⟩
    · exact kept.ge
    · rw [honours]
      exact streaming.seek_le
  · simp only
    rw [history, split, List.append_assoc, ← grown]
  · refine progress.of_elsewhere effect.recording effect.presenter heads
      effect.appliedSeekGeneration effect.newestSeek effect.seekFilterPts ?_
    intro newest delivers
    rcases streaming.calm (newest.ge.trans onStretch.pass_le) with ⟨calm, working⟩
    simp only [history]
    refine delivers.decodeStep ?_ calm working taken grown
    intro fails
    have none := (settled fails).1
    rw [isOpen] at none
    cases none

theorem Sound.decodeStep (sound : Sound configuration looped)
    {next : VideoSourceService} (settled : looped.AttemptsSettled choice)
    (taken : VideoSourceService.decodeStep configuration looped.service choice = some next) :
    Sound configuration { looped with
      service := next
      history := looped.history ++
        next.decodeQueue.drop looped.service.decodeQueue.length } := by
  have effect := decodeStep_effect taken
  refine ⟨sound.streaming.decodeStep settled taken, ?_, sound.boundaries, ?_⟩
  · intro stretch isOpen
    exact (sound.stretch stretch isOpen).decodeStep sound.streaming isOpen settled taken
  · rw [effect.caller]
    intro reloads
    have exited := (sound.reloading reloads).2.2.2.1
    unfold VideoSourceService.decodeStep at taken
    simp only [exited] at taken
    cases taken

/-! ## The head thread -/

theorem Delivers.of_decoder {service next : VideoSourceService} {items : List DecodeItem}
    (delivers : service.Delivers configuration items)
    (recording : next.recording = service.recording) (decoder : next.decoder = service.decoder)
    (passStartS : next.passStartS = service.passStartS)
    (stopEvent : next.stopEvent = false → service.stopEvent = false) :
    next.Delivers configuration items := by
  have future : next.future configuration = service.future configuration := by
    unfold VideoSourceService.future
    rw [decoder, recording, passStartS]
  refine ⟨?_, ?_⟩
  · rw [future, recording]
    exact delivers.begun
  · rw [future, recording, decoder]
    exact fun whole => delivers.complete (whole.imp stopEvent id)

/-- A step that keeps the queue and the decode thread. -/
theorem Streaming.of_elsewhere (streaming : Streaming configuration looped) {next : Looped}
    (inside : next.service.Inside)
    (history : next.history = looped.history)
    (recording : next.service.recording = looped.service.recording)
    (decoder : next.service.decoder = looped.service.decoder)
    (passStartS : next.service.passStartS = looped.service.passStartS)
    (queue : next.service.decodeQueue <:+ looped.service.decodeQueue)
    (seekGeneration : next.service.seekGeneration = looped.service.seekGeneration)
    (event : next.service.seekEvent = true → looped.service.seekEvent = true ∨
      looped.service.decoder.pass.seekGeneration ≠ looped.service.seekGeneration ∨
        looped.service.decoder.phase = .consuming)
    (stopEvent : next.service.stopEvent = false → looped.service.stopEvent = false)
    (headQueue : next.service.headQueue < next.service.heads.length) :
    Streaming configuration next := by
  refine ⟨inside, ?_, ?_, ?_, ?_, ?_, ?_, ?_, headQueue⟩
  · rw [decoder, seekGeneration]
    exact streaming.seek_le
  · rw [decoder]
    exact fun item member => streaming.queue_le item (queue.subset member)
  · rw [decoder, seekGeneration]
    exact fun seeks => (event seeks).elim streaming.event id
  · rw [decoder, seekGeneration]
    exact streaming.reading
  · rw [history]
    exact queue.trans streaming.history
  · rw [seekGeneration]
    intro before pass after isQueue newest
    rcases queue with ⟨gone, isOld⟩
    rw [isQueue, ← List.append_assoc] at isOld
    exact Delivers.of_decoder (streaming.queued _ pass after isOld.symm newest) recording decoder
      passStartS stopEvent
  · rw [decoder, passStartS, recording]
    exact streaming.restart

/-- A step that leaves the queue and the presentation thread where they are. -/
theorem Sound.quiet (sound : Sound configuration looped) {seekEvent stopEvent : Bool}
    {state : SourceState} {caller : Caller} {headTrigger : Bool}
    {heads : List (List DecodedVideoFrame)} {headQueue : Nat} {headPhase : HeadPhase}
    {published : List Publication}
    (event : seekEvent = true → looped.service.seekEvent = true ∨
      looped.service.decoder.pass.seekGeneration ≠ looped.service.seekGeneration ∨
        looped.service.decoder.phase = .consuming)
    (sought : seekEvent = true ∨ caller = .seeking →
      looped.service.seekEvent = true ∨ looped.service.caller = .seeking)
    (stops : stopEvent = false → looped.service.stopEvent = false)
    (grown : looped.service.heads <+: heads)
    (made : looped.service.headQueue < looped.service.heads.length → headQueue < heads.length)
    (reloading : caller = .reloading → looped.stretch = none ∧
      looped.service.decodeQueue = [] ∧ seekEvent = false ∧
        looped.service.decoder.phase = .exited ∧ looped.service.presenter.phase = .exited) :
    Sound configuration { looped with
      service := { looped.service with
        seekEvent, stopEvent, state, caller, headTrigger, heads, headQueue, headPhase,
        published } } := by
  have inside := sound.streaming.inside
  refine ⟨?_, ?_, sound.boundaries, reloading⟩
  · refine sound.streaming.of_elsewhere ?_ rfl rfl rfl rfl (List.suffix_refl _) rfl event stops
      (made sound.streaming.headQueue)
    refine ⟨inside.next, ?_, inside.start, inside.opened, inside.queued⟩
    rintro (seeks | seeking | reads)
    · exact inside.target ((sought (Or.inl seeks)).imp id Or.inl)
    · exact inside.target ((sought (Or.inr seeking)).imp id Or.inl)
    · exact inside.target (Or.inr (Or.inr reads))
  · intro stretch isOpen
    have onStretch := sound.stretch stretch isOpen
    rcases onStretch.progress with ⟨received, frames, split, progress⟩
    refine ⟨onStretch.region, onStretch.start_le, onStretch.pass_le, received, frames, split, ?_⟩
    refine progress.of_elsewhere rfl rfl grown rfl rfl rfl ?_
    exact fun _ delivers => Delivers.of_decoder delivers rfl rfl rfl stops

theorem Sound.headStep (sound : Sound configuration looped)
    {next : VideoSourceService}
    (taken : VideoSourceService.headStep configuration looped.service choice = some next) :
    Sound configuration { looped with service := next } := by
  rcases headStep_quiet taken with ⟨_, _, _, _, rfl, grown, made⟩
  exact sound.quiet Or.inl id id grown made sound.reloading

/-! ## The calls -/

/-- A call that requests no seek. -/
theorem Sound.of_call {next : VideoSourceService} {call : Call}
    (seekGeneration : next.seekGeneration = looped.service.seekGeneration)
    (sound : Sound configuration { looped with service := next }) :
    Sound configuration (looped.observe next (.call call)) := by
  unfold observe
  simp only [if_pos seekGeneration]
  exact sound

section Caller

variable (sound : Sound configuration looped)
include sound

theorem Sound.refused {call : Call} :
    Sound configuration (looped.observe looped.service (.call call)) :=
  Sound.of_call rfl sound

/-- A call that the caller only enters. -/
theorem Sound.enters {call : Call} {errand : Errand} :
    Sound configuration (looped.observe
      { looped.service with caller := .stopping errand } (.call call)) := by
  refine Sound.of_call rfl (sound.quiet Or.inl ?_ id (List.prefix_refl _) id nofun)
  exact fun sought => sought.imp id (fun entered => nomatch entered)

/-- A call that only changes the state of the source. -/
theorem Sound.setState {call : Call} (state : SourceState) :
    Sound configuration (looped.observe { looped.service with state := state } (.call call)) :=
  Sound.of_call rfl (sound.quiet Or.inl id id (List.prefix_refl _) id sound.reloading)

theorem Sound.resume {call : Call} :
    Sound configuration (looped.observe looped.service.resume (.call call)) := by
  unfold VideoSourceService.resume
  split_ifs
  · exact sound.refused
  · exact sound.enters
  · exact sound.setState .playing

theorem Sound.play {call : Call} :
    Sound configuration (looped.observe looped.service.play (.call call)) := by
  unfold VideoSourceService.play
  split
  · exact sound.refused
  · exact sound.refused
  · exact sound.refused
  · exact sound.resume
  · exact sound.enters

theorem Sound.seek {sourceTimeS : ℚ} {call : Call} :
    Sound configuration (looped.observe (looped.service.seek sourceTimeS) (.call call)) := by
  unfold VideoSourceService.seek
  split_ifs
  · exact sound.refused
  have streaming := sound.streaming
  have older := Nat.lt_succ_of_le streaming.seek_le
  unfold observe
  simp only [if_neg (Nat.succ_ne_self looped.service.seekGeneration)]
  refine ⟨⟨?_, older.le, streaming.queue_le, fun _ => Or.inl older.ne, fun _ => older.ne,
    streaming.history, ?_, streaming.restart, streaming.headQueue⟩, nofun, sound.boundaries,
    nofun⟩
  · refine ⟨streaming.inside.next, fun _ => ?_, streaming.inside.start, streaming.inside.opened,
      streaming.inside.queued⟩
    exact le_max_right _ _
  · intro before pass after isQueue newest
    have member : .loop pass ∈ looped.service.decodeQueue := by
      rw [isQueue]
      exact List.mem_append_right _ List.mem_cons_self
    exact absurd newest ((streaming.queue_le _ member).trans_lt older).ne

theorem Sound.call {call : Call} :
    Sound configuration (looped.observe (looped.service.call call) (.call call)) := by
  cases call with
  | play => exact sound.play
  | pause =>
      simp only [VideoSourceService.call]
      split_ifs
      · exact sound.setState .paused
      · exact sound.refused
  | resume => exact sound.resume
  | stop =>
      simp only [VideoSourceService.call]
      split_ifs
      · exact sound.refused
      · exact sound.enters
  | reload =>
      simp only [VideoSourceService.call]
      split_ifs
      · exact sound.refused
      · exact sound.enters
  | close =>
      simp only [VideoSourceService.call]
      split_ifs
      · exact sound.refused
      · exact sound.enters
  | seek sourceTimeS => exact sound.seek

/-! ## The end of a join -/

theorem Sound.startPass :
    Sound configuration { looped with
      service := looped.service.startPass false, stretch := none } := by
  refine ⟨⟨⟨?_, nofun, nofun, nofun, nofun⟩, le_rfl, nofun, nofun, nofun,
    List.nil_suffix, ?_, nofun, ?_⟩, nofun, sound.boundaries, nofun⟩
  · intro _
    have start : looped.service.recording.regionStartS ≤ looped.service.startOf := by
      unfold startOf
      split_ifs with seeks
      · exact sound.streaming.inside.target (Or.inl seeks.1)
      · exact le_rfl
    exact start
  · intro before pass after isQueue
    cases before <;> cases isQueue
  · have made : looped.service.heads.length < (looped.service.heads ++ [[]]).length := by simp
    exact made

theorem Sound.halt (target : SourceState)
    (exited : looped.service.decoder.phase = .exited) :
    Sound configuration { looped with
      service := looped.service.halt target, stretch := none } := by
  have ended : (looped.service.halt target).decoder.phase = .exited := exited
  refine ⟨⟨⟨?_, ?_, ?_, ?_, nofun⟩, sound.streaming.seek_le, nofun, nofun, ?_, List.nil_suffix,
    ?_, ?_, ?_⟩, nofun, sound.boundaries, nofun⟩
  · exact fun running => absurd ended running
  · rintro (seeks | seeking | reads)
    · cases seeks
    · cases seeking
    · cases ended.symm.trans reads
  · rintro (consumes | opens)
    · cases ended.symm.trans consumes
    · cases ended.symm.trans opens
  · intro opened
    rw [ended] at opened
    cases opened
  · intro reads
    cases ended.symm.trans reads
  · intro before pass after isQueue
    cases before <;> cases isQueue
  · intro restarts
    rw [ended] at restarts
    cases restarts
  · have made : looped.service.heads.length < (looped.service.heads ++ [[]]).length := by simp
    exact made

theorem Sound.finishErrand (errand : Errand)
    (joined : looped.service.isJoined = true) :
    Sound configuration { looped with
      service := looped.service.finishErrand errand, stretch := none } := by
  rcases of_decide_eq_true joined with ⟨decoded, presented, _⟩
  cases errand with
  | start publishRestart =>
      have started := sound.startPass
      cases publishRestart with
      | false => exact started
      | true => exact started.quiet Or.inl id id (List.prefix_refl _) id started.reloading
  | stop =>
      have halted := sound.halt .stopped decoded
      exact halted.quiet Or.inl id id (List.prefix_refl _) id halted.reloading
  | reload =>
      have halted := sound.halt .stopped decoded
      refine halted.quiet Or.inl ?_ id (List.prefix_refl _) id ?_
      · exact fun sought => sought.imp id (fun entered => nomatch entered)
      · exact fun _ => ⟨rfl, rfl, rfl, decoded, presented⟩
  | close => exact sound.halt .closed decoded

theorem Sound.reload {recording : Recording}
    (reloads : looped.service.caller = .reloading) :
    Sound configuration { looped with
      service := { looped.service with recording, state := .ready, caller := .idle } } := by
  have streaming := sound.streaming
  rcases sound.reloading reloads with ⟨closed, queue, quiet, exited, _⟩
  refine ⟨⟨⟨?_, ?_, ?_, ?_, ?_⟩, streaming.seek_le, streaming.queue_le, streaming.event,
    streaming.reading, streaming.history, ?_, ?_, streaming.headQueue⟩, ?_, sound.boundaries,
    nofun⟩
  · exact fun running => absurd exited running
  · rintro (seeks | seeking | reads)
    · cases quiet.symm.trans seeks
    · cases seeking
    · cases exited.symm.trans reads
  · rintro (consumes | opens)
    · cases exited.symm.trans consumes
    · cases exited.symm.trans opens
  · intro opened
    simp only [exited] at opened
    cases opened
  · intro pass member
    simp only [queue] at member
    cases member
  · intro before pass after isQueue
    simp only [queue] at isQueue
    cases before <;> cases isQueue
  · intro restarts
    simp only [exited] at restarts
    cases restarts
  · intro stretch isOpen
    cases closed.symm.trans isOpen

theorem Sound.callerStep {reloaded : Option Recording}
    {next : VideoSourceService} (inTime : SetsInTime looped.service)
    (taken : looped.service.callerStep reloaded = some next) :
    Sound configuration (looped.observe next (.caller reloaded)) := by
  unfold observe
  unfold VideoSourceService.callerStep at taken
  cases caller : looped.service.caller with
  | idle =>
      rw [caller] at taken
      cases taken
  | stopping errand =>
      rw [caller] at taken
      cases taken
      refine sound.quiet Or.inl ?_ nofun (List.prefix_refl _) id nofun
      exact fun sought => sought.imp id (fun entered => nomatch entered)
  | joining errand =>
      rw [caller] at taken
      simp only at taken ⊢
      split_ifs at taken with joined
      cases taken
      exact sound.finishErrand errand joined
  | reloading =>
      rw [caller] at taken
      cases reloaded with
      | none =>
          cases taken
          refine sound.quiet Or.inl ?_ id (List.prefix_refl _) id nofun
          exact fun sought => sought.imp id (fun entered => nomatch entered)
      | some recording =>
          cases taken
          exact sound.reload caller
  | seeking =>
      rw [caller] at taken
      cases taken
      exact sound.quiet (fun _ => Or.inr (inTime caller)) (fun _ => Or.inr caller) id
        (List.prefix_refl _) id nofun

end Caller

/-! ## The presentation thread -/

theorem stop_of_effect {service next : VideoSourceService} (effect : PresentEffect service next)
    (running : next.stopEvent = false) : service.stopEvent = false :=
  Bool.eq_false_iff.mpr (fun stopped => nomatch running.symm.trans (effect.stopEvent stopped))

theorem Streaming.presentStep (streaming : Streaming configuration looped)
    {next : VideoSourceService} (taken : looped.service.presentStep choice = some next) :
    Streaming configuration { looped with service := next } := by
  have effect := presentStep_effect taken
  have queue : next.decodeQueue <:+ looped.service.decodeQueue := by
    rcases effect.queue with same | ⟨item, grown, _⟩
    · rw [same]
    · rw [grown]
      exact List.suffix_cons item _
  have inside := streaming.inside
  refine streaming.of_elsewhere ?_ rfl effect.recording effect.decoder effect.passStartS queue
    effect.seekGeneration (fun seeks => Or.inl (effect.seekEvent.symm.trans seeks))
    (stop_of_effect effect) ?_
  · refine ⟨?_, ?_, ?_, ?_, ?_⟩
    · rw [effect.decoder, effect.recording, effect.passStartS]
      exact inside.next
    · rw [effect.seekEvent, effect.caller, effect.decoder, effect.recording, effect.seekTargetS]
      exact inside.target
    · rw [effect.decoder, effect.recording]
      exact inside.start
    · rw [effect.decoder, effect.recording]
      exact inside.opened
    · rw [effect.recording]
      exact fun pass member => inside.queued pass (queue.subset member)
  · simp only [effect.headQueue, effect.heads]
    exact streaming.headQueue

variable {stretch : Stretch} {received : List DecodeItem} {next : VideoSourceService}

/-- The thread leaves with what it holds. -/
theorem Progress.left (effect : PresentEffect looped.service next)
    (leaving : next.presenter.phase.isLeaving = true)
    (front : stretch.shown <+: regionFrames configuration looped.service) :
    Progress configuration { looped with service := next } stretch received := by
  refine .leaves leaving ?_
  unfold regionFrames
  rw [effect.recording]
  exact front

section Live

variable {rest : List DecodeItem} (live : Live configuration looped stretch received)
include live

/-- What has been received is the front of the region. -/
theorem Live.received_front
    (frames : received.any DecodeItem.isSignal = false) {items : List DecodeItem}
    (split : looped.history.drop stretch.start = received ++ items) :
    framesUntilSignal [] received ++
        framesUntilSignal (looped.service.future configuration) items <+:
      regionFrames configuration looped.service := by
  have begun := live.delivers.begun
  rw [split, framesUntilSignal_append _ frames] at begun
  exact begun

theorem Live.front (frames : received.any DecodeItem.isSignal = false)
    (split : looped.history.drop stretch.start = received ++ looped.service.decodeQueue) :
    stretch.shown <+: regionFrames configuration looped.service := by
  rcases live.shows with ⟨_, serves⟩ | follows
  · exact serves.front
  · exact follows.front ((List.prefix_append _ _).trans (live.received_front frames split))

/-- A step of the presentation thread within a stretch. -/
theorem Live.of_present (effect : PresentEffect looped.service next)
    (applied : next.appliedSeekGeneration = looped.service.appliedSeekGeneration)
    {shown : List DecodedVideoFrame} {taken : List DecodeItem}
    (filter : next.seekFilterPts = none) (serving : isServing next.presenter.phase = true)
    (fromHead : ∀ held, next.presenter.phase.held = some held →
      held.fromHead = next.presenter.usingHead)
    (receiving : next.presenter.phase = .receiving → next.presenter.usingHead = false)
    (shows : taken = [] ∧ Serves (regionFrames configuration looped.service) shown next ∨
      Follows (regionFrames configuration looped.service) shown (framesUntilSignal [] taken)
        next) :
    Live configuration { looped with service := next } { stretch with shown := shown } taken := by
  have frames : regionFrames configuration next = regionFrames configuration looped.service := by
    unfold regionFrames
    rw [effect.recording]
  refine ⟨?_, ?_, filter, ?_, serving, fromHead, receiving, ?_⟩
  · simp only [applied, effect.seekGeneration]
    exact live.applied
  · simp only [effect.seekGeneration]
    exact live.pass
  · exact Delivers.of_decoder live.delivers effect.recording effect.decoder effect.passStartS
      (stop_of_effect effect)
  · rw [frames]
    exact shows

/-- The thread moves on with what it holds. -/
theorem Live.of_phase (effect : PresentEffect looped.service next)
    (applied : next.appliedSeekGeneration = looped.service.appliedSeekGeneration)
    (presenter : next.presenter =
      { looped.service.presenter with phase := next.presenter.phase })
    (heads : next.heads = looped.service.heads)
    (filter : next.seekFilterPts = none) (serving : isServing next.presenter.phase = true)
    (held : next.presenter.phase.held = looped.service.presenter.phase.held)
    (receiving : next.presenter.phase = .receiving →
      looped.service.presenter.usingHead = false) :
    Live configuration { looped with service := next } stretch received := by
  have usingHead : next.presenter.usingHead = looped.service.presenter.usingHead := by
    rw [presenter]
  have headUpto : next.presenter.headUpto = looped.service.presenter.headUpto := by
    rw [presenter]
  have capturedHead : next.presenter.capturedHead = looped.service.presenter.capturedHead := by
    rw [presenter]
  have holding : next.presenter.phase.holding = looped.service.presenter.phase.holding := by
    unfold PresentPhase.holding
    rw [held]
  refine live.of_present effect applied filter serving ?_ ?_ ?_
  · rw [held, usingHead]
    exact live.fromHead
  · rw [usingHead]
    exact receiving
  · refine live.shows.imp ?_ ?_
    · rintro ⟨nothing, serves⟩
      refine ⟨nothing, ⟨usingHead.trans serves.usingHead, ?_, ?_, headUpto.trans serves.upto⟩⟩
      · rw [capturedHead, heads]
        exact serves.captured
      · rw [holding, capturedHead, heads]
        exact serves.rest
    · rintro ⟨notUsing, head, front, upto, shows⟩
      refine ⟨usingHead.trans notUsing, head, front, headUpto.trans upto, ?_⟩
      rw [holding]
      exact shows

/-- The next frame of the staged head, or its end. -/
theorem Live.selects (phase : looped.service.presenter.phase = .selecting)
    (taken : looped.service.presentStep choice = some next) :
    Live configuration { looped with service := next } stretch received := by
  have effect := presentStep_effect taken
  have free : looped.service.presenter.phase.holding = [] := by rw [phase]; rfl
  unfold VideoSourceService.presentStep at taken
  simp only [phase] at taken
  split_ifs at taken with usingHead
  · have serves : received = [] ∧
        Serves (regionFrames configuration looped.service) stretch.shown looped.service := by
      rcases live.shows with serves | follows
      · exact serves
      · cases usingHead.symm.trans follows.usingHead
    rcases serves with ⟨nothing, serves⟩
    have rest := serves.rest
    rw [free, List.append_nil] at rest
    cases staged : looped.service.heads.getD looped.service.presenter.capturedHead [] with
    | nil =>
        rw [staged] at taken
        cases taken
        refine live.of_present effect rfl live.unfiltered rfl nofun (fun _ => rfl) (Or.inr ?_)
        refine ⟨rfl, stretch.shown, serves.front, serves.upto, Or.inl ⟨?_, rfl, rfl⟩⟩
        rw [nothing]
        exact Nat.zero_le _
    | cons frame others =>
        rw [staged] at taken rest
        cases taken
        refine live.of_present effect rfl live.unfiltered rfl ?_ nofun (Or.inl ⟨nothing, ?_⟩)
        · intro held isHeld
          cases isHeld
          exact usingHead.symm
        · refine ⟨usingHead, ?_, ?_, serves.upto⟩
          · exact serves.captured.trans_eq List.length_set.symm
          · have drawn : (looped.service.heads.set looped.service.presenter.capturedHead
                others).getD looped.service.presenter.capturedHead [] = others := by
              rw [List.getD_eq_getElem?_getD, List.getElem?_set_self serves.captured]
              rfl
            simp only [setPresentPhase, drawn]
            rw [List.append_assoc]
            exact rest
  · cases taken
    exact live.of_phase effect rfl rfl rfl live.unfiltered rfl (by rw [phase]; rfl)
      (fun _ => Bool.eq_false_iff.mpr usingHead)

/-- The next frame of the restarted pass. -/
theorem Live.receives (frames : received.any DecodeItem.isSignal = false)
    (split : looped.history.drop stretch.start = received ++ looped.service.decodeQueue)
    (phase : looped.service.presenter.phase = .receiving) {pass : Pass}
    {frame : DecodedVideoFrame}
    (queue : looped.service.decodeQueue = .frame pass frame :: rest)
    (taken : looped.service.presentStep choice = some next) :
    Live configuration { looped with service := next } stretch
      (received ++ [.frame pass frame]) := by
  have effect := presentStep_effect taken
  have free : looped.service.presenter.phase.holding = [] := by rw [phase]; rfl
  have notUsing := live.receiving phase
  have follows : Follows (regionFrames configuration looped.service) stretch.shown
      (framesUntilSignal [] received) looped.service := by
    rcases live.shows with ⟨_, serves⟩ | follows
    · cases notUsing.symm.trans serves.usingHead
    · exact follows
  have isPrefix : framesUntilSignal [] received ++ [frame] <+:
      regionFrames configuration looped.service := by
    have front := live.received_front frames split
    rw [queue] at front
    refine List.IsPrefix.trans ?_ front
    refine ⟨framesUntilSignal (looped.service.future configuration) rest, ?_⟩
    rw [List.append_assoc]
    rfl
  have longer : framesUntilSignal [] (received ++ [.frame pass frame]) =
      framesUntilSignal [] received ++ [frame] := by
    rw [framesUntilSignal_append _ frames]
    rfl
  unfold VideoSourceService.presentStep at taken
  simp only [phase, queue] at taken
  cases taken
  cases duplicate : looped.service.presenter.isDuplicate frame with
  | true =>
      simp only [duplicate, if_true] at effect ⊢
      refine live.of_present effect rfl live.unfiltered rfl nofun nofun (Or.inr ?_)
      rw [longer]
      refine follows.receives (ascending_openedFrames _ _ _) isPrefix free rfl (fun _ => rfl) ?_
      exact fun fresh => nomatch duplicate.symm.trans fresh
  | false =>
      simp only [duplicate, Bool.false_eq_true, if_false] at effect ⊢
      refine live.of_present effect rfl live.unfiltered rfl ?_ nofun (Or.inr ?_)
      · intro held isHeld
        cases isHeld
        exact notUsing.symm
      · rw [longer]
        refine follows.receives (ascending_openedFrames _ _ _) isPrefix free rfl ?_
          (fun _ => rfl)
        exact fun repeated => nomatch duplicate.symm.trans repeated

/-- The callback returns. -/
theorem Live.publishes {held : Held}
    (phase : looped.service.presenter.phase = .publishing held)
    (returns : choice ≠ .raise) (taken : looped.service.presentStep choice = some next) :
    Live configuration { looped with service := next }
      { stretch with shown := stretch.shown ++ [held.frame] } received := by
  have effect := presentStep_effect taken
  have holds : looped.service.presenter.phase.holding = [held.frame] := by rw [phase]; rfl
  have fromHead := live.fromHead held (by rw [phase]; rfl)
  unfold VideoSourceService.presentStep at taken
  simp only [phase, if_neg returns] at taken
  cases taken
  refine live.of_present effect rfl live.unfiltered rfl nofun nofun ?_
  refine live.shows.imp ?_ ?_
  · rintro ⟨nothing, serves⟩
    have rest := serves.rest
    rw [holds] at rest
    have ascending : Ascending (stretch.shown ++ [held.frame]) :=
      (ascending_openedFrames _ _ _).of_front ((List.prefix_append _ _).trans rest)
    have isHead : held.fromHead = true := fromHead.trans serves.usingHead
    refine ⟨nothing, serves.usingHead, serves.captured, ?_, ?_⟩
    · rw [List.append_assoc]
      exact rest
    · have larger : looped.service.presenter.headUpto.all
          (fun headUpto => decide (headUpto < held.frame.sourceFrameIndex)) = true := by
        rw [serves.upto]
        cases last : lastIndex stretch.shown with
        | none => rfl
        | some headUpto => exact decide_eq_true (ascending.lastIndex_lt headUpto last)
      rw [lastIndex_concat]
      exact if_pos ⟨isHead, larger⟩
  · rintro ⟨notUsing, head, front, upto, shows⟩
    have isLive : held.fromHead = false := fromHead.trans notUsing
    refine ⟨notUsing, head, front, ?_, ?_⟩
    · simp only [Presenter.headPresented, isLive, Bool.false_eq_true, false_and, if_false]
      exact upto
    · rw [holds] at shows
      rcases shows with ⟨_, free, _⟩ | ⟨longer, isReceived⟩
      · cases free
      · refine Or.inr ⟨longer, ?_⟩
        rw [isReceived]
        exact List.append_nil _

/-- Between the queue and the callback. -/
theorem Live.presentStep (front : stretch.shown <+: regionFrames configuration looped.service)
    (elsewhere : looped.service.presenter.phase ≠ .receiving)
    (silent : ∀ held, looped.service.presenter.phase = .publishing held → choice = .raise)
    (taken : looped.service.presentStep choice = some next) :
    Progress configuration { looped with service := next } stretch received := by
  have effect := presentStep_effect taken
  have serving := live.serving
  have unfiltered := live.unfiltered
  have presents := taken
  unfold VideoSourceService.presentStep at taken
  cases phase : looped.service.presenter.phase with
  | looping =>
      simp only [phase] at taken
      cases stopped : looped.service.stopEvent with
      | true =>
          rw [stopped] at taken
          cases taken
          exact Progress.left effect rfl front
      | false =>
          rw [stopped] at taken
          cases taken
          exact .shows (live.of_phase effect rfl rfl rfl unfiltered rfl (by rw [phase]; rfl) nofun)
  | claiming =>
      simp only [phase, live.applied, ne_eq, not_true_eq_false, if_false] at taken
      cases taken
      exact .shows (live.of_phase effect rfl rfl rfl unfiltered rfl (by rw [phase]; rfl) nofun)
  | clearing =>
      rw [phase] at serving
      cases serving
  | resetting =>
      rw [phase] at serving
      cases serving
  | selecting => exact .shows (live.selects phase presents)
  | receiving => exact absurd phase elsewhere
  | filtering held =>
      simp only [phase, unfiltered, Option.all_none, if_true] at taken
      cases taken
      exact .shows (live.of_phase effect rfl rfl rfl rfl rfl (by rw [phase]; rfl) nofun)
  | waiting held =>
      simp only [phase] at taken
      split_ifs at taken
      · cases taken
        exact Progress.left effect rfl front
      · cases state : looped.service.state with
        | playing =>
            rw [state] at taken
            cases taken
            exact .shows (live.of_phase effect rfl rfl rfl unfiltered rfl (by rw [phase]; rfl)
              nofun)
        | paused =>
            rw [state] at taken
            cases taken
        | _ =>
            rw [state] at taken
            cases taken
            exact Progress.left effect rfl front
  | timing held =>
      simp only [phase] at taken
      split_ifs at taken
      · cases taken
        exact Progress.left effect rfl front
      · cases taken
        exact .shows (live.of_phase effect rfl rfl rfl unfiltered rfl (by rw [phase]; rfl) nofun)
      · cases taken
        exact .shows (live.of_phase effect rfl rfl rfl unfiltered rfl (by rw [phase]; rfl) nofun)
  | presenting held =>
      simp only [phase] at taken
      split_ifs at taken
      · cases taken
        exact Progress.left effect rfl front
      · cases taken
        exact .shows (live.of_phase effect rfl rfl rfl unfiltered rfl (by rw [phase]; rfl) nofun)
  | publishing held =>
      simp only [phase, silent held phase, if_true] at taken
      cases taken
      exact Progress.left effect rfl front
  | failing =>
      rw [phase] at serving
      cases serving
  | restarting pass =>
      rw [phase] at serving
      cases serving
  | ending =>
      rw [phase] at serving
      cases serving
  | exited =>
      rw [phase] at serving
      cases serving

end Live

/-- The staged head is the front of the region. -/
theorem stagedHead_front (recording : Recording) (budget : Nat)
    (region : recording.contains recording.regionStartS = true) :
    stagedHead configuration recording budget <+:
      openedFrames configuration recording recording.regionStartS := by
  unfold openedFrames
  rw [if_pos region]
  exact List.take_prefix _ _

/-- The thread captures the staged head. -/
theorem Progress.captures (streaming : Streaming configuration looped)
    (region : looped.service.recording.contains looped.service.recording.regionStartS = true)
    (phase : looped.service.presenter.phase = .restarting stretch.pass)
    (nothing : received = [] ∧ stretch.shown = [])
    (delivers : stretch.pass.seekGeneration = looped.service.seekGeneration →
      looped.service.Delivers configuration (looped.history.drop stretch.start))
    (whole : TakesWhole configuration looped.service stretch.pass)
    (taken : looped.service.presentStep choice = some next) :
    Progress configuration { looped with service := next } stretch received := by
  have effect := presentStep_effect taken
  unfold VideoSourceService.presentStep at taken
  simp only [phase] at taken
  cases taken
  by_cases applied : looped.service.appliedSeekGeneration = looped.service.seekGeneration
  · rcases whole applied with ⟨newest, unfiltered, isHead⟩
    have front : looped.service.heads.getD looped.service.headQueue [] <+:
        regionFrames configuration looped.service := by
      rcases isHead with empty | isStaged
      · rw [empty]
        exact List.nil_prefix
      · rcases (Option.any_eq_true _ _).mp isStaged with ⟨budget, _, staged⟩
        rw [of_decide_eq_true staged]
        exact stagedHead_front _ budget region
    refine .shows ⟨applied, newest, unfiltered, ?_, rfl, nofun, nofun, Or.inl ⟨nothing.1, ?_⟩⟩
    · exact Delivers.of_decoder (delivers newest) rfl rfl rfl id
    · rw [nothing.2]
      exact ⟨rfl, streaming.headQueue, front, rfl⟩
  · exact .yields applied (Or.inl rfl) nothing.2

theorem OnStretch.presentStep (onStretch : OnStretch configuration looped stretch)
    (streaming : Streaming configuration looped)
    (keeps : looped.KeepsBoundaries configuration (.present choice))
    (taken : looped.service.presentStep choice = some next)
    (applied : next.appliedSeekGeneration = looped.service.appliedSeekGeneration)
    (frames : looped.service.presenter.phase = .receiving → ∀ item rest,
      looped.service.decodeQueue = item :: rest → item.isSignal = false)
    (silent : ∀ held, looped.service.presenter.phase = .publishing held → choice = .raise) :
    OnStretch configuration { looped with service := next } stretch := by
  have effect := presentStep_effect taken
  have queue : looped.service.presenter.phase ≠ .receiving →
      looped.service.presenter.phase ≠ .clearing →
        next.decodeQueue = looped.service.decodeQueue := by
    intro notReceiving notClearing
    rcases effect.queue with same | ⟨_, _, clearing | receiving⟩
    · exact same
    · exact absurd clearing notClearing
    · exact absurd receiving notReceiving
  rcases onStretch.progress with ⟨received, isFrames, split, progress⟩
  refine ⟨?_, onStretch.start_le, ?_, ?_⟩
  · rw [effect.recording]
    exact onStretch.region
  · rw [effect.decoder]
    exact onStretch.pass_le
  cases progress with
  | restarts phase nothing delivers =>
      refine ⟨received, isFrames, ?_, ?_⟩
      · simp only [queue (by rw [phase]; nofun) (by rw [phase]; nofun)]
        exact split
      · unfold KeepsBoundaries at keeps
        simp only [phase] at keeps
        exact Progress.captures streaming onStretch.region phase nothing delivers keeps taken
  | yields pending phase nothing =>
      refine ⟨received, isFrames, ?_, ?_⟩
      · have same : next.decodeQueue = looped.service.decodeQueue := by
          rcases phase with looping | claiming
          · exact queue (by rw [looping]; nofun) (by rw [looping]; nofun)
          · exact queue (by rw [claiming]; nofun) (by rw [claiming]; nofun)
        simp only [same]
        exact split
      · rcases claiming_presentStep phase pending applied taken with claiming | leaving
        · refine .yields ?_ (Or.inr claiming) nothing
          simp only [applied, effect.seekGeneration]
          exact pending
        · refine Progress.left effect leaving ?_
          rw [nothing]
          exact List.nil_prefix
  | leaves phase front =>
      refine ⟨received, isFrames, ?_, ?_⟩
      · have same : next.decodeQueue = looped.service.decodeQueue := by
          refine queue ?_ ?_
          · intro receiving
            rw [receiving] at phase
            cases phase
          · intro clearing
            rw [clearing] at phase
            cases phase
        simp only [same]
        exact split
      · exact Progress.left effect (leaving_presentStep phase taken) front
  | shows live =>
      by_cases receiving : looped.service.presenter.phase = .receiving
      · cases isQueue : looped.service.decodeQueue with
        | nil =>
            refine ⟨received, isFrames, ?_, ?_⟩
            · rcases effect.queue with same | ⟨item, grown, _⟩
              · simp only [same]
                exact split
              · cases isQueue.symm.trans grown
            · unfold VideoSourceService.presentStep at taken
              simp only [receiving, isQueue] at taken
              cases taken
              exact .shows (live.of_phase effect rfl rfl rfl live.unfiltered rfl
                (by rw [receiving]; rfl) nofun)
        | cons item rest =>
            cases item with
            | loop pass => cases frames receiving _ _ isQueue
            | finish pass => cases frames receiving _ _ isQueue
            | frame pass frame =>
                have shown := live.receives isFrames split receiving isQueue taken
                refine ⟨received ++ [.frame pass frame], ?_, ?_, .shows shown⟩
                · rw [List.any_append, isFrames]
                  rfl
                · have taken_queue : next.decodeQueue = rest := by
                    unfold VideoSourceService.presentStep at taken
                    simp only [receiving, isQueue] at taken
                    cases taken
                    rfl
                  simp only [taken_queue]
                  rw [split, isQueue, List.append_assoc]
                  rfl
      · have notClearing : looped.service.presenter.phase ≠ .clearing := by
          intro clearing
          have serving := live.serving
          rw [clearing] at serving
          cases serving
        refine ⟨received, isFrames, ?_, ?_⟩
        · simp only [queue receiving notClearing]
          exact split
        · exact live.presentStep (live.front isFrames split) receiving silent taken

/-! ## The signals -/

/-- A signal closes a stretch that has shown the whole region. -/
theorem OnStretch.closes (onStretch : OnStretch configuration looped stretch)
    (phase : looped.service.presenter.phase = .receiving) {signal : DecodeItem}
    (isSignal : signal.isSignal = true)
    (queue : looped.service.decodeQueue = signal :: rest) :
    stretch.shown = framesUntilSignal [] (looped.history.drop stretch.start) ∧
      framesUntilSignal [] (looped.history.drop stretch.start) =
        passFrames configuration looped.service.recording
          looped.service.recording.regionStartS := by
  rcases onStretch.progress with ⟨received, frames, split, progress⟩
  cases progress with
  | restarts restarting nothing delivers => cases phase.symm.trans restarting
  | yields pending waits nothing =>
      rcases waits with looping | claiming
      · cases phase.symm.trans looping
      · cases phase.symm.trans claiming
  | leaves leaving front =>
      rw [phase] at leaving
      cases leaving
  | shows live =>
      have ends : (looped.history.drop stretch.start).any DecodeItem.isSignal = true := by
        rw [split, queue, List.any_append, List.any_cons, isSignal, Bool.true_or, Bool.or_true]
      have whole := live.delivers.complete (Or.inr (Or.inl ends))
      rw [framesUntilSignal_of_signal _ [] ends] at whole
      have isReceived : framesUntilSignal [] (looped.history.drop stretch.start) =
          framesUntilSignal [] received := by
        rw [split, queue, framesUntilSignal_append _ frames]
        cases signal with
        | frame pass frame => cases isSignal
        | loop pass => exact List.append_nil _
        | finish pass => exact List.append_nil _
      have follows : Follows (regionFrames configuration looped.service) stretch.shown
          (framesUntilSignal [] received) looped.service := by
        rcases live.shows with ⟨_, serves⟩ | follows
        · cases (live.receiving phase).symm.trans serves.usingHead
        · exact follows
      have all : framesUntilSignal [] received = regionFrames configuration looped.service :=
        isReceived.symm.trans whole
      rw [all] at follows
      have shown := follows.complete (by rw [phase]; rfl)
      refine ⟨shown.trans whole.symm, whole.trans ?_⟩
      unfold openedFrames
      rw [if_pos onStretch.region]

theorem Sound.closed (sound : Sound configuration looped)
    (phase : looped.service.presenter.phase = .receiving) {signal : DecodeItem}
    (isSignal : signal.isSignal = true)
    (queue : looped.service.decodeQueue = signal :: rest) :
    ∀ boundary ∈ looped.boundaries ++ looped.closed, boundary.shown = boundary.enqueued ∧
      boundary.enqueued =
        passFrames configuration boundary.recording boundary.recording.regionStartS := by
  intro boundary member
  rcases List.mem_append.mp member with earlier | isNew
  · exact sound.boundaries boundary earlier
  · rcases List.mem_map.mp isNew with ⟨stretch, isOpen, isBoundary⟩
    rw [← isBoundary]
    exact (sound.stretch stretch (Option.mem_toList.mp isOpen)).closes phase isSignal queue

/-- A loop signal opens a stretch. -/
theorem Streaming.opens (streaming : Streaming configuration looped)
    (phase : looped.service.presenter.phase = .receiving) {pass : Pass}
    (queue : looped.service.decodeQueue = .loop pass :: rest)
    (taken : looped.service.presentStep choice = some next) :
    OnStretch configuration { looped with service := next }
      ⟨pass, looped.history.length - rest.length, []⟩ := by
  have member : .loop pass ∈ looped.service.decodeQueue := by
    rw [queue]
    exact List.mem_cons_self
  have behind : looped.history.drop (looped.history.length - rest.length) = rest := by
    rcases streaming.history with ⟨gone, isHistory⟩
    rw [queue] at isHistory
    rw [← isHistory, ← List.singleton_append, ← List.append_assoc, List.length_append,
      Nat.add_sub_cancel, List.drop_left]
  unfold VideoSourceService.presentStep at taken
  simp only [phase, queue] at taken
  cases taken
  refine ⟨streaming.inside.queued pass member, Nat.sub_le _ _, streaming.queue_le _ member, [],
    rfl, behind, .restarts rfl ⟨rfl, rfl⟩ ?_⟩
  intro newest
  simp only [behind]
  exact Delivers.of_decoder (streaming.queued [] pass rest queue newest) rfl rfl rfl id

theorem Sound.presentStep (sound : Sound configuration looped)
    (keeps : looped.KeepsBoundaries configuration (.present choice))
    (taken : looped.service.presentStep choice = some next) :
    Sound configuration (looped.observePresent next choice) := by
  have effect := presentStep_effect taken
  have streaming := sound.streaming.presentStep taken
  have reloading : next.caller ≠ .reloading := by
    rw [effect.caller]
    intro reloads
    have exited := (sound.reloading reloads).2.2.2.2
    unfold VideoSourceService.presentStep at taken
    simp only [exited] at taken
    cases taken
  have goes : next.appliedSeekGeneration = looped.service.appliedSeekGeneration →
      (looped.service.presenter.phase = .receiving → ∀ item rest,
        looped.service.decodeQueue = item :: rest → item.isSignal = false) →
      (∀ held, looped.service.presenter.phase = .publishing held → choice = .raise) →
        Sound configuration { looped with service := next } := by
    intro applied frames silent
    refine ⟨streaming, ?_, sound.boundaries, fun reloads => absurd reloads reloading⟩
    intro stretch isOpen
    exact (sound.stretch stretch isOpen).presentStep sound.streaming keeps taken applied frames
      silent
  have applied_of : looped.service.presenter.phase ≠ .claiming →
      next.appliedSeekGeneration = looped.service.appliedSeekGeneration := by
    intro elsewhere
    rcases effect.applied with same | ⟨claiming, _⟩
    · exact same
    · exact absurd claiming elsewhere
  unfold observePresent
  cases phase : looped.service.presenter.phase with
  | claiming =>
      rcases effect.applied with applied | ⟨_, pending, _⟩
      · have settled : ¬ looped.service.seekGeneration ≠ looped.service.appliedSeekGeneration := by
          intro pending
          unfold VideoSourceService.presentStep at taken
          simp only [phase, if_pos pending] at taken
          cases taken
          exact pending applied
        simp only [if_neg settled]
        exact goes applied (fun receiving => nomatch phase.symm.trans receiving)
          (fun _ publishing => nomatch phase.symm.trans publishing)
      · simp only [if_pos pending]
        exact ⟨streaming.reopen _ _, nofun, sound.boundaries, fun reloads =>
          absurd reloads reloading⟩
  | receiving =>
      have applied := applied_of (by rw [phase]; nofun)
      have silent : ∀ held, looped.service.presenter.phase = .publishing held →
          choice = .raise := fun _ publishing => nomatch phase.symm.trans publishing
      cases queue : looped.service.decodeQueue with
      | nil =>
          exact goes applied (fun _ _ _ isQueue => nomatch queue.symm.trans isQueue) silent
      | cons item rest =>
          cases item with
          | frame pass frame =>
              refine goes applied ?_ silent
              intro _ item rest isQueue
              cases queue.symm.trans isQueue
              rfl
          | loop pass =>
              refine ⟨streaming.reopen _ _, ?_, sound.closed phase rfl queue,
                fun reloads => absurd reloads reloading⟩
              intro stretch isOpen
              cases isOpen
              exact (sound.streaming.opens phase queue taken).reopen _ _
          | finish pass =>
              exact ⟨streaming.reopen _ _, nofun, sound.closed phase rfl queue,
                fun reloads => absurd reloads reloading⟩
  | publishing held =>
      have applied := applied_of (by rw [phase]; nofun)
      by_cases raises : choice = .raise
      · simp only [if_pos raises]
        exact goes applied (fun receiving => nomatch phase.symm.trans receiving)
          (fun _ _ => raises)
      · simp only [if_neg raises]
        refine ⟨streaming.reopen _ _, ?_, sound.boundaries,
          fun reloads => absurd reloads reloading⟩
        intro shown isOpen
        rcases Option.map_eq_some_iff.mp isOpen with ⟨stretch, wasOpen, isShown⟩
        rw [← isShown]
        have onStretch := sound.stretch stretch wasOpen
        rcases onStretch.progress with ⟨received, frames, split, progress⟩
        have queue : next.decodeQueue = looped.service.decodeQueue := by
          rcases effect.queue with same | ⟨_, _, clearing | receiving⟩
          · exact same
          · cases phase.symm.trans clearing
          · cases phase.symm.trans receiving
        refine ⟨?_, onStretch.start_le, ?_, received, frames, ?_, ?_⟩
        · rw [effect.recording]
          exact onStretch.region
        · rw [effect.decoder]
          exact onStretch.pass_le
        · simp only [queue]
          exact split
        · cases progress with
          | restarts restarting nothing delivers => cases phase.symm.trans restarting
          | yields pending waits nothing =>
              rcases waits with looping | claiming
              · cases phase.symm.trans looping
              · cases phase.symm.trans claiming
          | leaves leaving front =>
              rw [phase] at leaving
              cases leaving
          | shows live => exact .shows ((live.publishes phase raises taken).reopen _ _)
  | _ =>
      exact goes (applied_of (by rw [phase]; nofun))
        (fun receiving => nomatch phase.symm.trans receiving)
        (fun _ publishing => nomatch phase.symm.trans publishing)

/-! ## Whole runs -/

theorem Sound.step (sound : Sound configuration looped) {action : Step} {next : Looped}
    (keeps : looped.KeepsBoundaries configuration action)
    (taken : Looped.step configuration looped action = some next) :
    Sound configuration next := by
  rcases Option.map_eq_some_iff.mp taken with ⟨service, moved, isNext⟩
  cases isNext
  cases action with
  | call call =>
      simp only [VideoSourceService.step] at moved
      split_ifs at moved
      cases moved
      exact sound.call
  | caller reloaded => exact sound.callerStep keeps moved
  | decode choice => exact sound.decodeStep keeps moved
  | present choice => exact sound.presentStep keeps moved
  | head choice => exact sound.headStep moved

/-- In every interleaving that keeps to the conditions, the frames presented
between a loop signal and the next signal are the frames that the restarted
pass has put, which are those of the whole region; an open stretch has shown
the first of them. -/
theorem boundaries_are_exact {recording : Recording} {actions : List Step} {final : Looped}
    (keeps : Meets (Looped.step configuration) (KeepsBoundaries configuration)
      (initial recording) actions)
    (reached : run (Looped.step configuration) (initial recording) actions = some final) :
    (∀ boundary ∈ final.boundaries, boundary.shown = boundary.enqueued ∧
      boundary.enqueued =
        passFrames configuration boundary.recording boundary.recording.regionStartS) ∧
      ∀ stretch ∈ final.stretch, stretch.shown <+:
        passFrames configuration final.service.recording final.service.recording.regionStartS := by
  have preserved : ∀ looped action next, Sound configuration looped →
      KeepsBoundaries configuration looped action →
        Looped.step configuration looped action = some next → Sound configuration next := by
    intro looped action next sound allowed taken
    exact sound.step allowed taken
  have sound := run_invariant preserved (sound_initial recording) keeps reached
  refine ⟨sound.boundaries, ?_⟩
  intro stretch isOpen
  have onStretch := sound.stretch stretch isOpen
  have region : regionFrames configuration final.service =
      passFrames configuration final.service.recording final.service.recording.regionStartS :=
    if_pos onStretch.region
  rw [← region]
  rcases onStretch.progress with ⟨received, frames, split, progress⟩
  cases progress with
  | restarts phase nothing delivers =>
      rw [nothing.2]
      exact List.nil_prefix
  | yields pending phase nothing =>
      rw [nothing]
      exact List.nil_prefix
  | leaves phase front => exact front
  | shows live => exact live.front frames split

/-! ## A loop of four frames -/

/-- One frame a second; the head holds two of them. -/
def fourSecondLoop : Recording where
  regionStartS := 0
  regionEndS := some 4
  durationS := none
  headFrameBudget := some 2
  frames startS := [⟨some 0, true⟩, ⟨some 1, true⟩, ⟨some 2, true⟩, ⟨some 3, true⟩].filter
    (fun frame => frame.ptsSeconds.any (fun ptsSeconds => decide (startS ≤ ptsSeconds)))

def loopForever : Configuration where
  loop := true
  processEveryNthFrame := 1
  decodeQueueSize := 20
  maxDecodeFailures := 3

def decodes (steps : Nat) : List Step := List.replicate steps (.decode .advance)

def presents (steps : Nat) : List Step := List.replicate steps (.present .advance)

def stages (steps : Nat) : List Step := List.replicate steps (.head .advance)

/-- The head is staged, and the first pass is put with its loop signal. -/
def firstPass : List Step := [.call .play, .caller none, .caller none] ++ stages 4 ++ decodes 20

/-- The second pass is put, and presented up to the second loop signal. -/
def secondPass : List Step := firstPass ++ decodes 20 ++ presents 87

theorem boundaries_are_exact_secondPass :
    ∃ final, run (Looped.step loopForever) (initial fourSecondLoop) secondPass = some final ∧
      ∃ boundary ∈ final.boundaries, boundary.shown = boundary.enqueued := by
  have runs : (run (Looped.step loopForever) (initial fourSecondLoop) secondPass).any
      (fun final => !final.boundaries.isEmpty) = true := by decide +kernel
  have keeps : Meets (Looped.step loopForever) (KeepsBoundaries loopForever)
      (initial fourSecondLoop) secondPass := by decide +kernel
  rcases (Option.any_eq_true _ _).mp runs with ⟨final, reached, closed⟩
  cases boundaries : final.boundaries with
  | nil =>
      rw [boundaries] at closed
      cases closed
  | cons boundary others =>
      refine ⟨final, reached, boundary, by rw [boundaries]; exact List.mem_cons_self, ?_⟩
      exact ((boundaries_are_exact keeps reached).1 boundary
        (by rw [boundaries]; exact List.mem_cons_self)).1

/-- One frame of the head is presented; then the head thread gives up its next
head, and the source seeks. -/
def seekWithinHead : List Step :=
  firstPass ++ presents 49 ++ stages 3 ++ [.head .timeout, .call (.seek 2), .caller none] ++
    presents 4 ++ decodes 36 ++ presents 59

theorem partial_head_leaves_gap :
    ∃ final, run (Looped.step loopForever) (initial fourSecondLoop) seekWithinHead = some final ∧
      ∃ boundary ∈ final.boundaries,
        boundary.shown.map DecodedVideoFrame.sourceFrameIndex = [1, 2, 3] ∧
          boundary.enqueued.map DecodedVideoFrame.sourceFrameIndex = [0, 1, 2, 3] := by
  have runs : (run (Looped.step loopForever) (initial fourSecondLoop) seekWithinHead).any
      (fun final => final.boundaries.any (fun boundary => decide (
        boundary.shown.map DecodedVideoFrame.sourceFrameIndex = [1, 2, 3] ∧
          boundary.enqueued.map DecodedVideoFrame.sourceFrameIndex = [0, 1, 2, 3]))) = true := by
    decide +kernel
  rcases (Option.any_eq_true _ _).mp runs with ⟨final, reached, holds⟩
  rcases List.any_eq_true.mp holds with ⟨boundary, member, gap⟩
  exact ⟨final, reached, boundary, member, of_decide_eq_true gap⟩

end Looped
end Media
end Synesthesia
