import Synesthesia.Media.CameraSource

namespace Synesthesia
namespace Media

open Foundation

/-!
# A pause of the camera

The worker checks for a pause between two frames and before it opens the
camera, but not when it commits that the camera is open or lost.  These two
commits are all that can end a pause, so a run keeps its pause exactly while
neither happens during it.
-/

namespace CameraPhase

/-- The worker is in a read, a publication or a failure. -/
def isUnderway : CameraPhase → Bool
  | .opening => true
  | .reading => true
  | .publishing _ => true
  | .releasing failed => failed
  | .disconnecting => true
  | .failing => true
  | _ => false

/-- The worker can reach nothing but its end, after at most the outage frame. -/
def isEnding : CameraPhase → Bool
  | .failing => true
  | .publishing (.outage _) => true
  | .returning => true
  | .exited => true
  | _ => false

end CameraPhase

namespace CameraSource

/-! ## A pause and the worker -/

/-- The action is none of the calls that end a pause. -/
def leavesPause : CameraAction → Bool
  | .play => false
  | .resume => false
  | .halt _ => false
  | _ => true

/-- The worker commits a playback state of its own over a pause: it has opened
the camera, or it has lost it and will open it again. -/
def OverridesPause (source : CameraSource) (action : CameraAction) : Prop :=
  source.state = .paused ∧ ∃ worker, source.worker = some worker ∧
    (worker.phase = .opening ∧ action = .worker .succeed ∨
      source.reconnectAutomatically = true ∧
        (worker.phase = .opening ∧ action = .worker .fail ∨
          worker.phase = .disconnecting ∧ action = .worker .advance))

def isUnderway (source : CameraSource) : Bool :=
  source.worker.any (fun worker => worker.phase.isUnderway)

/-- What a pause promises: the state stays, unless the source fails, and no
frame follows but one that was under way. -/
structure KeepsPause (paused later : CameraSource) : Prop where
  state : later.state = .paused ∨ later.state = .error ∨
    later.state = .unavailable ∧ later.reconnectAutomatically = false
  frames : later.frames = paused.frames ∨
    paused.isUnderway = true ∧ ∃ frame, later.frames = paused.frames ++ [frame]

/-! ## What follows a pause -/

/-- A source after a pause: still paused, or ended by a failure. -/
inductive Rests (source : CameraSource) : Prop where
  | paused (state : source.state = .paused)
  | failed (state : source.state = .error) (stopped : source.stopEvent = true)
      (phase : ∀ worker, source.worker = some worker →
        worker.phase = .releasing false ∨ worker.phase = .returning ∨ worker.phase = .exited)
  | lost (state : source.state = .unavailable) (manual : source.reconnectAutomatically = false)
      (phase : ∀ worker, source.worker = some worker →
        worker.phase.isEnding = true)

/-- A paused source and a later moment of the pause. -/
structure Pausing (paused later : CameraSource) : Prop where
  idle : later.caller = .idle
  rests : later.Rests
  frames : later.frames = paused.frames ∧
      (later.isUnderway = true → paused.isUnderway = true) ∨
    paused.isUnderway = true ∧ later.isUnderway = false ∧
      ∃ frame, later.frames = paused.frames ++ [frame]

variable {paused later : CameraSource} (pausing : Pausing paused later)
include pausing

theorem Pausing.keeps : KeepsPause paused later := by
  refine ⟨?_, ?_⟩
  · cases pausing.rests with
    | paused state => exact Or.inl state
    | failed state => exact Or.inr (Or.inl state)
    | lost state manual => exact Or.inr (Or.inr ⟨state, manual⟩)
  · rcases pausing.frames with ⟨same, _⟩ | ⟨underway, _, added⟩
    · exact Or.inl same
    · exact Or.inr ⟨underway, added⟩

/-- A step of the worker that publishes nothing. -/
theorem Pausing.quiet {next : CameraSource}
    (idle : next.caller = later.caller) (rests : next.Rests) (frames : next.frames = later.frames)
    (underway : next.isUnderway = true → later.isUnderway = true) : Pausing paused next := by
  refine ⟨idle.trans pausing.idle, rests, ?_⟩
  rw [frames]
  rcases pausing.frames with ⟨same, before⟩ | ⟨before, calm, added⟩
  · exact Or.inl ⟨same, fun still => before (underway still)⟩
  · refine Or.inr ⟨before, ?_, added⟩
    apply Bool.eq_false_iff.mpr
    intro still
    rw [underway still] at calm
    cases calm

variable {worker : CameraWorker}

theorem Pausing.publish (working : later.worker = some worker) {frame : CameraFrame}
    (phase : worker.phase = .publishing frame) (raises : Bool) :
    Pausing paused (later.publish worker frame raises) := by
  have underway : later.isUnderway = true := by
    rw [isUnderway, working, Option.any_some, phase]
    rfl
  have caller : (later.publish worker frame raises).caller = .idle := by
    rw [← pausing.idle]
    cases raises <;> cases frame <;> rfl
  have frames : (later.publish worker frame raises).frames = later.frames ++ [frame] := by
    cases raises <;> cases frame <;> rfl
  have calm : (later.publish worker frame raises).isUnderway = false := by
    cases raises <;> cases frame <;> rfl
  refine ⟨caller, ?_, Or.inr ?_⟩
  · cases raises with
    | true =>
        refine .failed (by cases frame <;> rfl) (by cases frame <;> rfl) ?_
        intro ended isWorker
        cases frame with
        | image processedIndex sourceFrameIndex =>
            cases isWorker
            exact Or.inl rfl
        | outage processedIndex =>
            cases isWorker
            exact Or.inr (Or.inl rfl)
    | false =>
        cases pausing.rests with
        | paused state => exact .paused (by cases frame <;> exact state)
        | failed _ _ ending =>
            have impossible := ending worker working
            rw [phase] at impossible
            rcases impossible with impossible | impossible | impossible <;> cases impossible
        | lost state manual ending =>
            have isEnding := ending worker working
            rw [phase] at isEnding
            cases frame with
            | image processedIndex sourceFrameIndex => cases isEnding
            | outage processedIndex =>
                refine .lost state manual ?_
                intro ended isWorker
                cases isWorker
                rfl
  · rcases pausing.frames with ⟨same, before⟩ | ⟨_, rested, _⟩
    · exact ⟨before underway, calm, frame, by rw [frames, same]⟩
    · rw [underway] at rested
      cases rested

/-- A step of the worker that leaves the state of the source alone. -/
theorem Pausing.moves {next : CameraSource}
    (working : later.worker = some worker) (moved : CameraWorker)
    (isNext : next.worker = some moved) (idle : next.caller = later.caller)
    (state : next.state = later.state) (stopped : next.stopEvent = later.stopEvent)
    (reconnects : next.reconnectAutomatically = later.reconnectAutomatically)
    (frames : next.frames = later.frames)
    (underway : moved.phase.isUnderway = true →
      worker.phase.isUnderway = true)
    (failed : later.stopEvent = true →
      (worker.phase = .releasing false ∨ worker.phase = .returning ∨ worker.phase = .exited) →
        moved.phase = .releasing false ∨ moved.phase = .returning ∨ moved.phase = .exited)
    (lost : later.reconnectAutomatically = false → worker.phase.isEnding = true →
      moved.phase.isEnding = true) : Pausing paused next := by
  refine pausing.quiet idle ?_ frames ?_
  · cases pausing.rests with
    | paused isPaused => exact .paused (state.trans isPaused)
    | failed isError isStopped ending =>
        refine .failed (state.trans isError) (stopped.trans isStopped) ?_
        intro other isOther
        cases isNext.symm.trans isOther
        exact failed isStopped (ending worker working)
    | lost isLost manual ending =>
        refine .lost (state.trans isLost) (reconnects.trans manual) ?_
        intro other isOther
        cases isNext.symm.trans isOther
        exact lost manual (ending worker working)
  · rw [isUnderway, isUnderway, isNext, working, Option.any_some, Option.any_some]
    exact underway

omit pausing in
theorem Rests.not_active {source : CameraSource} (rests : source.Rests) :
    source.state.isActive = false := by
  cases rests with
  | paused state => rw [state]; rfl
  | failed state => rw [state]; rfl
  | lost state => rw [state]; rfl

/-- The locked region of `_wait_until_active` does not let the worker pass. -/
theorem Pausing.decideActive (working : later.worker = some worker) {task : CameraTask}
    (phase : worker.phase = .deciding task) : Pausing paused (later.decideActive worker task) := by
  have blocked : later.decideActive worker task = later.enter worker task.giveUp ∨
      later.decideActive worker task = later.enter worker (.waiting task) := by
    simp only [CameraSource.decideActive, pausing.rests.not_active, Bool.false_eq_true, if_false]
    split_ifs
    · exact Or.inl rfl
    · exact Or.inl rfl
    · exact Or.inr rfl
  rcases blocked with result | result
  · rw [result]
    apply pausing.moves working ⟨task.giveUp, worker.connectedOnce⟩ <;>
      first | rfl | skip
    · cases task <;> exact nofun
    · rw [phase]
      rintro _ (impossible | impossible | impossible) <;> cases impossible
    · rw [phase]
      exact nofun
  · rw [result]
    apply pausing.moves working ⟨.waiting task, worker.connectedOnce⟩ <;>
      first | rfl | skip
    · exact nofun
    · rw [phase]
      rintro _ (impossible | impossible | impossible) <;> cases impossible
    · rw [phase]
      exact nofun

/-- Without automatic reconnection a lost camera ends the pause as unavailable. -/
theorem Pausing.disconnected (working : later.worker = some worker)
    (underway : worker.phase.isUnderway = true)
    (manual : later.reconnectAutomatically = false) :
    Pausing paused (later.disconnected worker) := by
  apply pausing.quiet
  · rfl
  · refine .lost ?_ manual ?_
    · simp [CameraSource.disconnected, enter, manual]
    · intro other isOther
      cases isOther
      rfl
  · rfl
  · rw [isUnderway, isUnderway, working, Option.any_some, underway]
    exact fun _ => rfl

/-- The camera is lost while the source rests and the worker may not override it. -/
theorem Pausing.manual_of_allowed (working : later.worker = some worker) {event : CameraEvent}
    (loses : worker.phase = .opening ∧ event = .fail ∨
      worker.phase = .disconnecting ∧ event = .advance)
    (allowed : ¬ later.OverridesPause (.worker event)) :
    later.reconnectAutomatically = false := by
  cases pausing.rests with
  | paused state =>
      apply Bool.eq_false_iff.mpr
      intro automatic
      apply allowed
      refine ⟨state, worker, working, Or.inr ⟨automatic, ?_⟩⟩
      rcases loses with ⟨phase, rfl⟩ | ⟨phase, rfl⟩
      · exact Or.inl ⟨phase, rfl⟩
      · exact Or.inr ⟨phase, rfl⟩
  | failed _ _ ending =>
      have phases := ending worker working
      rcases loses with ⟨phase, _⟩ | ⟨phase, _⟩ <;> rw [phase] at phases <;> simp at phases
  | lost _ manual => exact manual

/-- One step of the worker during a pause that it does not override. -/
theorem Pausing.workerStep {next : CameraSource}
    (working : later.worker = some worker) {event : CameraEvent}
    (allowed : ¬ later.OverridesPause (.worker event))
    (taken : later.workerStep worker worker.phase event = some next) : Pausing paused next := by
  cases phase : worker.phase with
  | looping =>
      cases event <;> rw [phase] at taken <;> cases taken
      apply pausing.moves working ⟨_, worker.connectedOnce⟩ <;> first | rfl | skip
      · split_ifs <;> exact nofun
      · simp [phase]
      · simp [phase, CameraPhase.isEnding]
  | checking task =>
      cases event <;> rw [phase] at taken <;> cases taken
      rw [check]
      split_ifs
      · apply pausing.moves working ⟨task.giveUp, worker.connectedOnce⟩ <;>
          first | rfl | skip
        · cases task <;> exact nofun
        · simp [phase]
        · simp [phase, CameraPhase.isEnding]
      · apply pausing.moves working ⟨.deciding task, worker.connectedOnce⟩ <;>
          first | rfl | skip
        · exact nofun
        · simp [phase]
        · simp [phase, CameraPhase.isEnding]
  | deciding task =>
      cases event <;> rw [phase] at taken <;> cases taken
      exact pausing.decideActive working phase
  | waiting task =>
      cases event <;> rw [phase] at taken
      all_goals simp only [CameraSource.workerStep, Option.ite_none_right_eq_some,
        Option.some.injEq, reduceCtorEq] at taken
      rcases taken with ⟨_, rfl⟩
      apply pausing.moves working ⟨.checking task, worker.connectedOnce⟩ <;>
        first | rfl | skip
      · exact nofun
      · simp [phase]
      · simp [phase, CameraPhase.isEnding]
  | opening =>
      cases event <;> rw [phase] at taken <;> cases taken
      · -- the camera opens: no source at rest allows it
        exfalso
        cases pausing.rests with
        | paused state =>
            exact allowed ⟨state, worker, working, Or.inl ⟨phase, rfl⟩⟩
        | failed _ _ ending =>
            have phases := ending worker working
            rw [phase] at phases
            simp at phases
        | lost _ _ ending =>
            have isEnding := ending worker working
            rw [phase] at isEnding
            cases isEnding
      · exact pausing.disconnected working (by rw [phase]; rfl)
          (pausing.manual_of_allowed working (Or.inl ⟨phase, rfl⟩) allowed)
  | announcing =>
      cases event <;> rw [phase] at taken <;> cases taken
      all_goals
        rw [announce]
        split_ifs
      all_goals
        apply pausing.moves working ⟨_, _⟩ <;> first | rfl | skip
        · exact nofun
        · simp [phase]
        · simp [phase, CameraPhase.isEnding]
  | capturing =>
      cases event <;> rw [phase] at taken <;> cases taken
      apply pausing.moves working ⟨_, worker.connectedOnce⟩ <;> first | rfl | skip
      · split_ifs <;> exact nofun
      · simp [phase]
      · simp [phase, CameraPhase.isEnding]
  | reading =>
      cases event <;> rw [phase] at taken <;> cases taken
      · rw [select]
        dsimp only
        split_ifs
        all_goals
          apply pausing.moves working ⟨_, worker.connectedOnce⟩ <;> first | rfl | skip
          · rw [phase]
            exact fun _ => rfl
          · simp [phase]
          · simp [phase, CameraPhase.isEnding]
      all_goals
        apply pausing.moves working ⟨_, worker.connectedOnce⟩ <;> first | rfl | skip
        · rw [phase]
          exact fun _ => rfl
        · simp [phase]
        · simp [phase, CameraPhase.isEnding]
  | publishing frame =>
      cases event <;> rw [phase] at taken <;> cases taken
      · exact pausing.publish working phase false
      · exact pausing.publish working phase true
  | releasing failed =>
      cases event <;> rw [phase] at taken <;> cases taken
      apply pausing.moves working ⟨_, worker.connectedOnce⟩ <;> first | rfl | skip
      · rw [phase]
        cases failed <;> simp [CameraPhase.isUnderway]
      · intro stopped _
        simp [stopped]
      · simp [phase, CameraPhase.isEnding]
  | disconnecting =>
      cases event <;> rw [phase] at taken <;> cases taken
      exact pausing.disconnected working (by rw [phase]; rfl)
        (pausing.manual_of_allowed working (Or.inr ⟨phase, rfl⟩) allowed)
  | failing =>
      cases event <;> rw [phase] at taken <;> cases taken
      apply pausing.moves working ⟨_, worker.connectedOnce⟩ <;> first | rfl | skip
      · rw [phase]
        exact fun _ => rfl
      · simp [phase]
      · exact fun _ _ => rfl
  | returning =>
      cases event <;> rw [phase] at taken <;> cases taken
      apply pausing.moves working ⟨_, worker.connectedOnce⟩ <;> first | rfl | skip
      · split_ifs <;> exact nofun
      · intro stopped _
        simp [stopped]
      · intro manual _
        simp [manual, CameraPhase.isEnding]
  | backingOff =>
      cases event <;> rw [phase] at taken <;> cases taken
      apply pausing.moves working ⟨_, worker.connectedOnce⟩ <;> first | rfl | skip
      · split_ifs <;> exact nofun
      · simp [phase]
      · simp [phase, CameraPhase.isEnding]
  | exited => cases event <;> rw [phase] at taken <;> cases taken

/-- Every step of a pause that the worker does not override keeps it. -/
theorem Pausing.step {next : CameraSource} {action : CameraAction}
    (leaves : leavesPause action = true) (allowed : ¬ later.OverridesPause action)
    (taken : later.step action = some next) : Pausing paused next := by
  cases action with
  | play => cases leaves
  | pause =>
      rw [CameraSource.step, if_pos pausing.idle, Option.some.injEq] at taken
      subst taken
      have same : later.pause = { later with wakeEvent := true } := by
        rw [pause, pausing.rests.not_active]
        rfl
      rw [same]
      refine pausing.quiet rfl ?_ rfl id
      cases pausing.rests with
      | paused state => exact .paused state
      | failed state stopped ending => exact .failed state stopped ending
      | lost state manual ending => exact .lost state manual ending
  | resume => cases leaves
  | halt errand => cases leaves
  | joined =>
      rw [CameraSource.step, pausing.idle] at taken
      cases taken
  | timeout =>
      rw [CameraSource.step, pausing.idle] at taken
      cases taken
  | worker event =>
      cases working : later.worker with
      | none =>
          rw [CameraSource.step, working] at taken
          cases taken
      | some worker =>
          rw [CameraSource.step, working] at taken
          exact pausing.workerStep working allowed taken

omit pausing

/-- A pause that has taken effect, at its first moment. -/
theorem pausing_of_pause {source paused : CameraSource}
    (called : source.step .pause = some paused) (effective : paused.state = .paused) :
    Pausing paused paused := by
  refine ⟨?_, .paused effective, Or.inl ⟨rfl, id⟩⟩
  rw [CameraSource.step] at called
  split_ifs at called with idle
  cases called
  exact idle

/-- A worker that overrides a pause makes the source active. -/
theorem active_of_overrides {source next : CameraSource} {action : CameraAction}
    (overrides : source.OverridesPause action) (taken : source.step action = some next) :
    next.state.isActive = true := by
  rcases overrides with ⟨_, ⟨phase, connectedOnce⟩, working, how⟩
  rcases how with ⟨phaseIs, rfl⟩ | ⟨automatic, ⟨phaseIs, rfl⟩ | ⟨phaseIs, rfl⟩⟩
  all_goals
    dsimp only at phaseIs
    subst phaseIs
    rw [CameraSource.step, working] at taken
    cases taken
  · rfl
  · simp [CameraSource.disconnected, enter, automatic, SourceState.isActive]
  · simp [CameraSource.disconnected, enter, automatic, SourceState.isActive]

theorem overrides_isSome {source : CameraSource} {action : CameraAction}
    (overrides : source.OverridesPause action) : ∃ next, source.step action = some next := by
  rcases overrides with ⟨_, ⟨phase, connectedOnce⟩, working, how⟩
  rcases how with ⟨phaseIs, rfl⟩ | ⟨_, ⟨phaseIs, rfl⟩ | ⟨phaseIs, rfl⟩⟩
  all_goals
    dsimp only at phaseIs
    subst phaseIs
    exact ⟨_, by rw [CameraSource.step, working]; rfl⟩

theorem KeepsPause.not_active (keeps : KeepsPause paused later) :
    later.state.isActive = false := by
  rcases keeps.state with state | state | ⟨state, _⟩ <;> rw [state] <;> rfl

/-- For every source, every pause that takes effect and every schedule of the
worker until the next call that ends the pause: in every moment of it the pause
is kept if and only if the worker never commits a playback state over it. -/
theorem pause_kept_iff (source paused : CameraSource) (called : source.step .pause = some paused)
    (effective : paused.state = .paused) (actions : List CameraAction)
    (quiet : ∀ action ∈ actions, leavesPause action = true) :
    (∀ first rest later, actions = first ++ rest → run step paused first = some later →
        KeepsPause paused later) ↔
      Meets step (fun later action => ¬ later.OverridesPause action) paused actions := by
  have onward : ∀ (actions : List CameraAction) (later : CameraSource),
      (∀ action ∈ actions, leavesPause action = true) → Pausing paused later →
        ((∀ first rest reached, actions = first ++ rest → run step later first = some reached →
            KeepsPause paused reached) ↔
          Meets step (fun later action => ¬ later.OverridesPause action) later actions) := by
    intro actions
    induction actions with
    | nil =>
        intro later _ pausing
        refine iff_of_true ?_ trivial
        intro first rest reached split taken
        rw [(List.append_eq_nil_iff.mp split.symm).1, run_nil, Option.some.injEq] at taken
        exact taken ▸ pausing.keeps
    | cons action rest ih =>
        intro later leaves pausing
        have restLeaves : ∀ other ∈ rest, leavesPause other = true :=
          fun other member => leaves other (List.mem_cons_of_mem _ member)
        constructor
        · intro keeps
          have allowed : ¬ later.OverridesPause action := by
            intro overrides
            rcases overrides_isSome overrides with ⟨next, taken⟩
            have reached : run step later [action] = some next :=
              run_cons_eq_some.mpr ⟨next, taken, rfl⟩
            have rested := (keeps [action] rest next rfl reached).not_active
            rw [active_of_overrides overrides taken] at rested
            cases rested
          refine ⟨allowed, ?_⟩
          cases taken : later.step action with
          | none => trivial
          | some next =>
              refine (ih next restLeaves
                (pausing.step (leaves action List.mem_cons_self) allowed taken)).mp ?_
              intro first others reached split continued
              exact keeps (action :: first) others reached (by rw [split, List.cons_append])
                (run_cons_eq_some.mpr ⟨next, taken, continued⟩)
        · intro meets first others reached split finished
          cases first with
          | nil =>
              rw [run_nil, Option.some.injEq] at finished
              exact finished ▸ pausing.keeps
          | cons head first =>
              rw [List.cons_append, List.cons.injEq] at split
              rcases split with ⟨rfl, split⟩
              rcases run_cons_eq_some.mp finished with ⟨next, taken, continued⟩
              have onwardMeets := (meets_cons taken).mp meets
              exact (ih next restLeaves
                (pausing.step (leaves action List.mem_cons_self) onwardMeets.1 taken)).mpr
                  onwardMeets.2 first others reached split continued
  exact onward actions paused quiet (pausing_of_pause called effective)

/-! ## Two pauses -/

/-- A source whose worker has opened the camera and is in its first read. -/
def readingSource : CameraSource :=
  { initial 1 true with state := .playing, worker := some ⟨.reading, true⟩ }

/-- The read returns a frame, and the worker waits. -/
def readReturns : List CameraAction :=
  [.worker .succeed, .worker .succeed, .worker .advance, .worker .advance, .worker .advance]

theorem pause_kept_iff_inRead :
    run step (initial 1 true) [.play, .worker .advance, .worker .advance, .worker .advance,
        .worker .succeed, .worker .succeed, .worker .advance, .worker .advance, .worker .advance] =
          some readingSource ∧
      ∃ later, run step readingSource.pause readReturns = some later ∧
        later.frames = [.image 1 0] ∧ KeepsPause readingSource.pause later := by
  refine ⟨by decide, _, rfl, rfl, ?_⟩
  refine (pause_kept_iff readingSource readingSource.pause rfl rfl readReturns (by decide)).mpr ?_
    readReturns [] _ (List.append_nil _).symm rfl
  refine ⟨?_, ?_, ?_, ?_, ?_, trivial⟩
  all_goals
    rintro ⟨_, worker, working, how⟩
    cases working
    rcases how with ⟨phase, _⟩ | ⟨_, ⟨phase, _⟩ | ⟨phase, _⟩⟩ <;> cases phase

/-- A pause while the camera is being opened is lost when it has been opened. -/
theorem open_overrides_pause :
    ∃ source paused later, run step (initial 1 true)
        [.play, .worker .advance, .worker .advance, .worker .advance] = some source ∧
      source.step .pause = some paused ∧ paused.state = .paused ∧
      run step paused [.worker .succeed] = some later ∧ later.state = .playing ∧
      ¬ KeepsPause paused later := by
  refine ⟨_, _, _, rfl, rfl, rfl, rfl, rfl, ?_⟩
  intro keeps
  exact absurd keeps.not_active (by decide)

end CameraSource
end Media
end Synesthesia
