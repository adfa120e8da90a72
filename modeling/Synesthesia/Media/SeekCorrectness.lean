import Synesthesia.Media.SeekPresentation

namespace Synesthesia
namespace Media
namespace Observed

open Foundation VideoSourceService

/-!
# Seeks are honoured

The invariant of the observed service.  A seek that waits to be claimed leads
the items of its generation; a claimed one leads until its first frame is
presented; a parked one is the newest.
-/

variable {configuration : Configuration} {observed : Observed}

/-- The frame in the hands of the presentation thread answers the target. -/
def IsAnswer (held : Held) (targetS : ℚ) (first : DecodedVideoFrame) (firstPtsS : Option ℚ) :
    Prop :=
  held.pass.startS = targetS ∧ held.frame = first ∧ firstPtsS = some first.ptsSeconds

structure Sound (configuration : Configuration) (observed : Observed) : Prop where
  ordered : observed.service.Ordered
  filtered : observed.service.Filtered
  /-- The newest seek, before it is claimed. -/
  newest : observed.service.stopEvent = false →
    observed.service.appliedSeekGeneration < observed.service.seekGeneration →
      ∀ first, Begins configuration observed.service.recording observed.service.seekTargetS first →
        observed.service.Leads configuration observed.service.seekGeneration
          observed.service.seekTargetS first
  /-- The claimed seek, before its frame is presented. -/
  current : observed.service.stopEvent = false → ∀ targetS ∈ observed.claimed, ∀ first,
    Begins configuration observed.service.recording targetS first →
      observed.service.Renounced ∨ Answering configuration observed.service targetS first
  publishing : ∀ held, observed.service.presenter.phase = .publishing held →
    ∀ targetS ∈ observed.claimed, ∀ first,
      Begins configuration observed.service.recording targetS first →
        IsAnswer held targetS first observed.service.firstPtsS
  claimedTarget : ∀ targetS ∈ observed.claimed,
    observed.service.appliedSeekGeneration = observed.service.seekGeneration →
      targetS = observed.service.seekTargetS
  parked : ∀ targetS ∈ observed.parked,
    targetS = observed.service.seekTargetS ∧ observed.service.state ≠ .playing ∧
      (observed.service.appliedSeekGeneration = observed.service.seekGeneration →
        observed.claimed = some targetS ∧
          ∀ held, observed.service.presenter.phase ≠ .presenting held ∧
            observed.service.presenter.phase ≠ .publishing held)
  owed : ∀ targetS ∈ observed.owed, targetS = observed.service.seekTargetS ∧
    (observed.claimed = some targetS ∨
      observed.service.appliedSeekGeneration ≠ observed.service.seekGeneration ∧
        (observed.service.presenter.phase = .looping ∨
          observed.service.presenter.phase = .claiming) ∨
      observed.service.recording.contains targetS = false ∨
      observed.service.presenter.phase.isLeaving = true)
  joining : (∃ errand, observed.service.caller = .joining errand) ∨
    observed.service.caller = .reloading → observed.service.stopEvent = true
  reloading : observed.service.caller = .reloading → observed.service.presenter.phase = .exited
  answered : ∀ presented ∈ observed.presented,
    presented.applied ≤ presented.pass.seekGeneration ∧
      ∀ targetS, presented.claimed = some targetS ∨ presented.owed = some targetS →
        Presented.answers configuration presented targetS

theorem sound_initial (recording : Recording) : Sound configuration (initial recording) :=
  ⟨ordered_initial recording, filtered_initial recording, (fun _ pending => nomatch pending),
    (fun _ _ claimed => nomatch claimed), (fun _ _ _ claimed => nomatch claimed),
    (fun _ claimed => nomatch claimed), (fun _ parked => nomatch parked),
    (fun _ owed => nomatch owed), (fun joins => nomatch joins), nofun,
    (fun _ member => nomatch member)⟩

/-! ## The decode thread and the head thread -/

variable {next : VideoSourceService}

variable (sound : Sound configuration observed)
include sound

theorem Sound.decodeStep {choice : Choice}
    (puts : PutsDropped observed.service)
    (raises : choice = .raise → observed.RaisesSettled)
    (taken : VideoSourceService.decodeStep configuration observed.service choice = some next) :
    Sound configuration { observed with service := next } := by
  have effect := decodeStep_effect taken
  rcases decodeStep_ordered sound.ordered sound.filtered puts effect with ⟨ordered, filtered⟩
  refine ⟨ordered, filtered, ?_, ?_, ?_, ?_, ?_, ?_, ?_, ?_, sound.answered⟩
  · intro running pending first begins
    rw [effect.stopEvent] at running
    rw [effect.appliedSeekGeneration, effect.newestSeek] at pending
    rw [effect.recording, effect.seekTargetS] at begins
    simp only [effect.newestSeek, effect.seekTargetS]
    refine (sound.newest running pending first begins).decodeStep begins running (fun _ => rfl) ?_
      taken
    intro raised
    have settled := (raises raised).1
    omega
  · intro running targetS claimed first begins
    rw [effect.stopEvent] at running
    rw [effect.recording] at begins
    rcases sound.current running targetS claimed first begins with renounced | answering
    · left
      unfold Renounced
      rw [effect.presenter, effect.appliedSeekGeneration, effect.newestSeek]
      exact renounced
    · right
      refine ⟨?_, ?_, ?_⟩
      · rw [effect.appliedSeekGeneration]
        refine answering.leads.decodeStep begins running ?_ ?_ taken
        · exact fun newest => (sound.claimedTarget targetS claimed newest.symm).symm
        · intro raised isOfSeek
          cases ((raises raised).2 isOfSeek).symm.trans claimed
      · rw [effect.presenter]
        exact answering.head
      · rw [effect.presenter, effect.firstPtsS]
        exact answering.anchor
  · rw [effect.presenter, effect.recording, effect.firstPtsS]
    exact sound.publishing
  · rw [effect.appliedSeekGeneration, effect.newestSeek, effect.seekTargetS]
    exact sound.claimedTarget
  · rw [effect.appliedSeekGeneration, effect.newestSeek, effect.seekTargetS, effect.presenter]
    intro targetS parked
    rcases sound.parked targetS parked with ⟨newest, silent, claimed⟩
    refine ⟨newest, ?_, claimed⟩
    rcases effect.state with same | failed
    · rw [same]
      exact silent
    · rw [failed]
      nofun
  · rw [effect.appliedSeekGeneration, effect.newestSeek, effect.seekTargetS, effect.presenter,
      effect.recording]
    exact sound.owed
  · rw [effect.caller, effect.stopEvent]
    exact sound.joining
  · rw [effect.caller, effect.presenter]
    exact sound.reloading

omit sound in
theorem fresh_of_seeking {service : VideoSourceService} {targetS : ℚ} {seekEvent : Bool}
    (seeks : service.seekEvent = true → seekEvent = true)
    (fresh : service.Fresh configuration targetS) :
    ({ service with seekEvent := seekEvent } : VideoSourceService).Fresh configuration targetS := by
  unfold Fresh at fresh ⊢
  cases phase : service.decoder.phase with
  | looping =>
      rw [phase] at fresh
      exact fresh.imp_left seeks
  | beginning =>
      rw [phase] at fresh
      exact fresh.imp_left seeks
  | returned passedAny =>
      rw [phase] at fresh
      exact seeks fresh
  | deciding passedAny =>
      rw [phase] at fresh
      exact seeks fresh
  | _ =>
      rw [phase] at fresh
      exact fresh

/-- A step that leaves the seek where it is. -/
theorem Sound.quiet {seekEvent stopEvent : Bool}
    {state : SourceState} {caller : Caller} {headTrigger : Bool}
    {heads : List (List DecodedVideoFrame)} {headQueue : Nat} {headPhase : HeadPhase}
    {published : List Publication} (seeks : observed.service.seekEvent = true → seekEvent = true)
    (stops : stopEvent = false → observed.service.stopEvent = false)
    (silent : state = .playing → observed.service.state = .playing)
    (joining : (∃ errand, caller = .joining errand) ∨ caller = .reloading → stopEvent = true)
    (reloading : caller = .reloading → observed.service.presenter.phase = .exited) :
    Sound configuration { observed with
      service := { observed.service with
        seekEvent, stopEvent, state, caller, headTrigger, heads, headQueue, headPhase,
        published } } := by
  refine ⟨?_, ?_, ?_, ?_, sound.publishing, sound.claimedTarget, ?_, sound.owed, joining,
    reloading, sound.answered⟩
  · exact ⟨sound.ordered.applied_le, sound.ordered.decode_le, sound.ordered.sorted,
      sound.ordered.taken_le⟩
  · exact ⟨sound.filtered.target, sound.filtered.stragglers, sound.filtered.filtering,
      sound.filtered.passed_le⟩
  · intro running pending first begins
    refine (sound.newest (stops running) pending first begins).of_transit rfl ?_
    exact fun fresh isOfSeek => fresh_of_seeking seeks (fresh isOfSeek)
  · intro running targetS claimed first begins
    refine (sound.current (stops running) targetS claimed first begins).imp id ?_
    intro answering
    refine ⟨answering.leads.of_transit rfl ?_, answering.head, answering.anchor⟩
    exact fun fresh isOfSeek => fresh_of_seeking seeks (fresh isOfSeek)
  · intro targetS parked
    rcases sound.parked targetS parked with ⟨newest, wasSilent, claimed⟩
    exact ⟨newest, fun plays => wasSilent (silent plays), claimed⟩

theorem Sound.headStep {choice : Choice}
    (taken : VideoSourceService.headStep configuration observed.service choice = some next) :
    Sound configuration { observed with service := next } := by
  rcases headStep_quiet taken with ⟨_, _, _, _, rfl, _⟩
  exact sound.quiet id id id sound.joining sound.reloading

/-! ## The calls -/

omit sound in
/-- A call that requests no seek and resumes nothing. -/
theorem Sound.of_call (seekGeneration : next.seekGeneration = observed.service.seekGeneration)
    (silent : observed.service.state = .paused → next.state ≠ .playing)
    (sound : Sound configuration { observed with service := next }) :
    Sound configuration (observed.observeCall next) := by
  unfold observeCall
  rw [if_neg (by rw [seekGeneration]; exact lt_irrefl _), if_neg]
  · exact sound
  · exact fun resumed => silent resumed.1 resumed.2

/-- A call that the caller only enters. -/
theorem Sound.enters {errand : Errand} :
    Sound configuration (observed.observeCall
      { observed.service with caller := .stopping errand }) :=
  Sound.of_call rfl (fun paused plays => nomatch paused.symm.trans plays)
    (sound.quiet id id id (fun joins => nomatch joins) nofun)

/-- A call without an effect. -/
theorem Sound.refused :
    Sound configuration (observed.observeCall observed.service) :=
  Sound.of_call rfl (fun paused plays => nomatch paused.symm.trans plays) sound

/-- The source goes on playing; the parked seek is owed from now on. -/
theorem Sound.resumes
    (paused : observed.service.state = .paused) (consumed : observed.service.seekEvent = false)
    (resumes : ResumesClaimed observed.service) :
    Sound configuration (observed.observeCall { observed.service with state := .playing }) := by
  unfold observeCall
  rw [if_neg (lt_irrefl _), if_pos ⟨paused, rfl⟩]
  refine ⟨?_, ?_, sound.newest, ?_, sound.publishing, sound.claimedTarget,
    (fun _ parked => nomatch parked), ?_, sound.joining, sound.reloading, sound.answered⟩
  · exact ⟨sound.ordered.applied_le, sound.ordered.decode_le, sound.ordered.sorted,
      sound.ordered.taken_le⟩
  · exact ⟨sound.filtered.target, sound.filtered.stragglers, sound.filtered.filtering,
      sound.filtered.passed_le⟩
  · intro running targetS claimed first begins
    refine (sound.current running targetS claimed first begins).imp id ?_
    exact fun answering => ⟨answering.leads.of_transit rfl (fun fresh => fresh), answering.head,
      answering.anchor⟩
  · intro targetS owed
    rcases sound.parked targetS owed with ⟨newest, _, claimed⟩
    refine ⟨newest, ?_⟩
    by_cases applied : observed.service.appliedSeekGeneration = observed.service.seekGeneration
    · exact Or.inl (claimed applied).1
    · rcases resumes paused consumed with claims | phase
      · exact absurd claims.symm applied
      · simp only [List.mem_cons, List.not_mem_nil, or_false] at phase
        rcases phase with looping | claiming | exited
        · exact Or.inr (Or.inl ⟨applied, Or.inl looping⟩)
        · exact Or.inr (Or.inl ⟨applied, Or.inr claiming⟩)
        · refine Or.inr (Or.inr (Or.inr ?_))
          simp only [exited]
          rfl

theorem Sound.resume (resumes : ResumesClaimed observed.service) :
    Sound configuration (observed.observeCall observed.service.resume) := by
  unfold VideoSourceService.resume
  split_ifs with silent seeking
  · exact sound.refused
  · exact sound.enters
  · exact sound.resumes (not_not.mp silent) (Bool.eq_false_iff.mpr seeking) resumes

theorem Sound.play (resumes : ResumesClaimed observed.service) :
    Sound configuration (observed.observeCall observed.service.play) := by
  unfold VideoSourceService.play
  split
  · exact sound.refused
  · exact sound.refused
  · exact sound.refused
  · exact sound.resume resumes
  · exact sound.enters

omit sound in
/-- Nothing in transit honours a seek that is only being requested. -/
theorem transit_older {service : VideoSourceService} (ordered : service.Ordered) :
    service.transit.filter (DecodeItem.isOf (service.seekGeneration + 1)) = [] := by
  refine List.filter_eq_nil_iff.mpr ?_
  intro item member
  have bound : item.seekGeneration ≤ service.seekGeneration := by
    unfold transit at member
    rcases List.mem_append.mp member with inFront | inDecoder
    · rcases List.mem_append.mp inFront with inHands | inQueue
      · have isTaken : item.seekGeneration ∈ service.presenter.taken :=
          List.mem_append_left _ (works_eq_hands service.presenter.phase item inHands)
        exact (ordered.taken_le _ isTaken).1.trans ordered.applied_le
      · exact (ordered.queue_le inQueue).trans ordered.decode_le
    · have isPass : item.seekGeneration = service.decoder.pass.seekGeneration := by
        unfold Decoder.hands at inDecoder
        split at inDecoder
        · rw [List.mem_singleton.mp inDecoder, DecodeItem.seekGeneration, Put.item_pass]
        · rw [List.mem_singleton.mp inDecoder, DecodeItem.seekGeneration, Put.item_pass]
        · cases inDecoder
      rw [isPass]
      exact ordered.decode_le
  rw [isOf_of_ne (by omega)]
  decide

theorem Sound.seek {sourceTimeS : ℚ}
    (above : SeeksAbove observed.service sourceTimeS) :
    Sound configuration (observed.observeCall (observed.service.seek sourceTimeS)) := by
  unfold VideoSourceService.seek
  split_ifs with refused
  · exact sound.refused
  have applied := sound.ordered.applied_le
  unfold observeCall
  rw [if_pos (Nat.lt_succ_self _)]
  refine ⟨?_, ?_, ?_, ?_, sound.publishing, ?_, ?_, (fun _ owed => nomatch owed),
    (fun joins => nomatch joins), nofun, sound.answered⟩
  · exact ⟨applied.trans (Nat.le_succ _), sound.ordered.decode_le.trans (Nat.le_succ _),
      sound.ordered.sorted, sound.ordered.taken_le⟩
  · refine ⟨?_, ?_, ?_, sound.filtered.passed_le⟩
    · intro limit isLimit
      exact (Option.some.inj isLimit).symm
    · intro notClearing item member straggler
      have below := (above notClearing).1 item member straggler
      cases item with
      | frame pass frame => exact decide_eq_true below
      | loop pass =>
          have dropped := sound.filtered.stragglers notClearing _ member straggler
          cases dropped
      | finish pass => rfl
    · intro held phase straggler
      have isFiltering : observed.service.presenter.phase = .filtering held := phase
      have below := (above (by rw [isFiltering]; nofun)).2
      rw [isFiltering] at below
      exact decide_eq_true (below straggler)
  · intro _ _ first _
    refine leads_of_none (transit_older sound.ordered) ?_
    exact (Nat.lt_succ_of_le sound.ordered.decode_le).ne
  · intro running targetS claimed first begins
    rcases sound.current running targetS claimed first begins with renounced | answering
    · left
      rcases renounced with ⟨_, phase⟩ | leaving
      · exact Or.inl ⟨(Nat.lt_succ_of_le applied).ne, phase⟩
      · exact Or.inr leaving
    · exact Or.inr ⟨answering.leads.of_transit rfl (fun fresh => fresh), answering.head,
        answering.anchor⟩
  · intro targetS _ isApplied
    exact absurd isApplied (Nat.lt_succ_of_le applied).ne
  · intro targetS parked
    by_cases plays : observed.service.state = .playing
    · rw [if_pos plays] at parked
      cases parked
    · rw [if_neg plays] at parked
      cases parked
      exact ⟨rfl, plays, fun isApplied => absurd isApplied (Nat.lt_succ_of_le applied).ne⟩

theorem Sound.call {call : Call}
    (honours : observed.HonoursSeeks (.call call)) :
    Sound configuration (observed.observeCall (observed.service.call call)) := by
  cases call with
  | play => exact sound.play honours
  | pause =>
      simp only [VideoSourceService.call]
      split_ifs
      · exact Sound.of_call rfl (fun _ => nofun)
          (sound.quiet id id nofun sound.joining sound.reloading)
      · exact sound.refused
  | resume => exact sound.resume honours
  | stop =>
      simp only [VideoSourceService.call]
      split_ifs
      · exact sound.refused
      · exact sound.enters
  | reload =>
      simp only [VideoSourceService.call]
      split_ifs
      · exact sound.refused
      · exact sound.enters
  | close =>
      simp only [VideoSourceService.call]
      split_ifs
      · exact sound.refused
      · exact sound.enters
  | seek sourceTimeS => exact sound.seek honours

/-! ## The end of a join -/

theorem Sound.startPass (publishRestart : Bool)
    (starts : observed.parked.isSome = true → observed.service.seekEvent = true) :
    Sound configuration (observed.observeErrand (observed.service.startPass false)
      (.start publishRestart)) := by
  unfold observeErrand
  have isTarget : ∀ targetS,
      (if observed.service.seekEvent = true ∧
          observed.service.recording.contains observed.service.seekTargetS = true then
        some observed.service.seekTargetS else none) = some targetS →
      observed.service.startOf = targetS ∧ targetS = observed.service.seekTargetS := by
    intro targetS claimed
    split_ifs at claimed with seeks
    cases claimed
    exact ⟨if_pos seeks, rfl⟩
  refine ⟨⟨le_rfl, le_rfl, List.pairwise_singleton _ _, fun _ isTaken => nomatch isTaken⟩,
    ⟨nofun, (fun _ _ member => nomatch member), nofun, fun _ isPassed => nomatch isPassed⟩,
    (fun _ pending => absurd pending (lt_irrefl _)), ?_, nofun, ?_,
    (fun _ parked => nomatch parked), ?_, (fun joins => nomatch joins), nofun, sound.answered⟩
  · intro _ targetS claimed first _
    refine Or.inr ⟨fun _ => Or.inr ?_, fun _ => ⟨rfl, rfl⟩, rfl⟩
    exact (isTarget targetS claimed).1
  · intro targetS claimed _
    exact (isTarget targetS claimed).2
  · intro targetS owed
    have parked : observed.parked = some targetS := owed
    rcases sound.parked targetS parked with ⟨newest, _, _⟩
    refine ⟨newest, ?_⟩
    have seeks := starts (by rw [parked]; rfl)
    cases inside : observed.service.recording.contains targetS with
    | true =>
        left
        rw [newest] at inside ⊢
        exact if_pos ⟨seeks, inside⟩
    | false => exact Or.inr (Or.inr (Or.inl inside))

/-- The threads stay where they are joined. -/
theorem Sound.halt (target : SourceState)
    (stopped : observed.service.stopEvent = true)
    (exited : observed.service.presenter.phase = .exited) :
    Sound configuration ⟨observed.service.halt target, none, none, none, observed.presented⟩ := by
  refine ⟨⟨sound.ordered.applied_le, sound.ordered.decode_le, List.pairwise_singleton _ _, ?_⟩,
    ⟨nofun, (fun _ _ member => nomatch member), ?_, sound.filtered.passed_le⟩,
    (fun running => nomatch stopped.symm.trans running), (fun _ _ claimed => nomatch claimed),
    (fun _ _ _ claimed => nomatch claimed), (fun _ claimed => nomatch claimed),
    (fun _ parked => nomatch parked), (fun _ owed => nomatch owed), (fun _ => stopped),
    (fun _ => exited), sound.answered⟩
  · intro generation isTaken
    have bounds := sound.ordered.taken_le generation isTaken
    exact ⟨bounds.1, fun other member => bounds.2 other (List.mem_append_right _ member)⟩
  · intro held phase
    cases exited.symm.trans phase

theorem Sound.finishErrand {errand : Errand}
    (caller : observed.service.caller = .joining errand)
    (joined : observed.service.isJoined = true) (starts : observed.StartsSeeking) :
    Sound configuration (observed.observeErrand (observed.service.finishErrand errand) errand) := by
  have exited : observed.service.presenter.phase = .exited := (of_decide_eq_true joined).2.1
  have stopped := sound.joining (Or.inl ⟨errand, caller⟩)
  unfold StartsSeeking at starts
  rw [caller] at starts
  cases errand with
  | start publishRestart =>
      have started := sound.startPass publishRestart starts
      cases publishRestart with
      | false => exact started
      | true => exact started.quiet id id id started.joining started.reloading
  | stop =>
      have halted := sound.halt .stopped stopped exited
      exact halted.quiet id id id halted.joining halted.reloading
  | reload =>
      have halted := sound.halt .stopped stopped exited
      exact halted.quiet id id id (fun _ => stopped) (fun _ => exited)
  | close => exact sound.halt .closed stopped exited

theorem Sound.reload {recording : Recording}
    (reloads : observed.service.caller = .reloading) :
    Sound configuration { observed with
      service := { observed.service with recording, state := .ready, caller := .idle } } := by
  have stopped := sound.joining (Or.inr reloads)
  have exited := sound.reloading reloads
  refine ⟨?_, ?_, (fun running => nomatch stopped.symm.trans running),
    (fun running => nomatch stopped.symm.trans running),
    (fun _ phase => nomatch exited.symm.trans phase), sound.claimedTarget, ?_, ?_,
    (fun joins => nomatch joins), nofun, sound.answered⟩
  · exact ⟨sound.ordered.applied_le, sound.ordered.decode_le, sound.ordered.sorted,
      sound.ordered.taken_le⟩
  · exact ⟨sound.filtered.target, sound.filtered.stragglers, sound.filtered.filtering,
      sound.filtered.passed_le⟩
  · intro targetS parked
    rcases sound.parked targetS parked with ⟨newest, _, claimed⟩
    exact ⟨newest, nofun, claimed⟩
  · intro targetS owed
    refine ⟨(sound.owed targetS owed).1, Or.inr (Or.inr (Or.inr ?_))⟩
    simp only [exited]
    rfl

theorem Sound.callerStep {reloaded : Option Recording}
    (starts : observed.StartsSeeking)
    (taken : observed.service.callerStep reloaded = some next) :
    Sound configuration (observed.observe next (.caller reloaded)) := by
  unfold observe
  unfold VideoSourceService.callerStep at taken
  cases caller : observed.service.caller with
  | idle =>
      rw [caller] at taken
      cases taken
  | stopping errand =>
      rw [caller] at taken
      cases taken
      exact sound.quiet id nofun id (fun _ => rfl) nofun
  | joining errand =>
      rw [caller] at taken
      simp only at taken ⊢
      split_ifs at taken with joined
      cases taken
      exact sound.finishErrand caller joined starts
  | reloading =>
      rw [caller] at taken
      cases reloaded with
      | none =>
          cases taken
          exact sound.quiet id id nofun (fun joins => nomatch joins) nofun
      | some recording =>
          cases taken
          exact sound.reload caller
  | seeking =>
      rw [caller] at taken
      cases taken
      exact sound.quiet (fun _ => rfl) id id (fun joins => nomatch joins) nofun

/-! ## The presentation thread -/

/-- The thread claims the newest seek. -/
theorem Sound.claims (phase : observed.service.presenter.phase = .claiming)
    (pending : observed.service.seekGeneration ≠ observed.service.appliedSeekGeneration)
    (effect : PresentEffect observed.service next)
    (ordered : next.Ordered) (filtered : next.Filtered)
    (claims : next = { observed.service.setPresentPhase .clearing with
      appliedSeekGeneration := observed.service.seekGeneration }) :
    Sound configuration { observed with
      service := next, claimed := some observed.service.seekTargetS } := by
  have older := lt_of_le_of_ne sound.ordered.applied_le pending.symm
  subst claims
  refine ⟨ordered, filtered, (fun _ unclaimed => absurd unclaimed (lt_irrefl _)), ?_, nofun, ?_,
    ?_, ?_, sound.joining, ?_, sound.answered⟩
  · intro running targetS claimed first begins
    cases claimed
    refine Or.inr ⟨?_, nofun, trivial⟩
    refine (sound.newest running older first begins).of_present effect ?_
    rw [transit, transit, phase]
    rfl
  · intro targetS claimed _
    exact (Option.some.inj claimed).symm
  · intro targetS parked
    rcases sound.parked targetS parked with ⟨newest, silent, _⟩
    exact ⟨newest, silent, fun _ => ⟨congrArg some newest.symm, fun _ =>
      PresentPhase.not_due rfl _⟩⟩
  · intro targetS owed
    have newest := (sound.owed targetS owed).1
    exact ⟨newest, Or.inl (congrArg some newest.symm)⟩
  · intro reloads
    cases phase.symm.trans (sound.reloading reloads)

/-- The newest seek stays ahead while the thread does not claim it. -/
theorem Sound.newest_of_present (effect : PresentEffect observed.service next)
    (ordered : next.Ordered) (takes : TakesClaimed observed.service)
    (applied : next.appliedSeekGeneration = observed.service.appliedSeekGeneration)
    (running : next.stopEvent = false)
    (pending : next.appliedSeekGeneration < next.seekGeneration) (first : DecodedVideoFrame)
    (begins : Begins configuration next.recording next.seekTargetS first) :
    next.Leads configuration next.seekGeneration next.seekTargetS first := by
  rw [effect.seekGeneration, applied] at pending
  rw [effect.recording, effect.seekTargetS] at begins
  rw [effect.seekGeneration, effect.seekTargetS]
  have wasRunning : observed.service.stopEvent = false :=
    Bool.eq_false_iff.mpr (fun stopped => nomatch running.symm.trans (effect.stopEvent stopped))
  exact (sound.newest wasRunning pending first begins).of_newest effect sound.ordered ordered takes
    pending applied

/-- The frame of the claimed seek reaches the callback. -/
theorem Sound.publishes {held : Held} (phase : observed.service.presenter.phase = .presenting held)
    (running : observed.service.stopEvent = false) (targetS : ℚ)
    (claimed : targetS ∈ observed.claimed) (first : DecodedVideoFrame)
    (begins : Begins configuration observed.service.recording targetS first)
    (firstPtsS : next.firstPtsS = observed.service.firstPtsS) :
    IsAnswer held targetS first next.firstPtsS := by
  rcases sound.current running targetS claimed first begins with renounced | answering
  · rcases renounced with ⟨_, looping | claiming⟩ | leaving
    · cases phase.symm.trans looping
    · cases phase.symm.trans claiming
    · rw [phase] at leaving
      cases leaving
  · have isTaken : held.pass.seekGeneration ∈ observed.service.presenter.taken := by
      rw [Presenter.taken, phase]
      exact List.mem_cons_self
    have isPassed : held.pass.seekGeneration ∈ observed.service.presenter.passed := by
      unfold Presenter.passed
      rw [phase]
      exact List.mem_cons_self
    have holds : observed.service.presenter.phase.held = some held := by rw [phase]; rfl
    rcases answering.held holds (current_of_passed sound.ordered sound.filtered isTaken isPassed)
      with ⟨starts, isFirst⟩
    have anchor := answering.anchor
    rw [phase] at anchor
    refine ⟨starts, isFirst, ?_⟩
    rw [firstPtsS, ← isFirst]
    exact anchor

/-- A step that neither claims a seek nor presents a frame. -/
theorem Sound.presents {choice : Choice}
    (takes : TakesClaimed observed.service)
    (taken : observed.service.presentStep choice = some next)
    (applied : next.appliedSeekGeneration = observed.service.appliedSeekGeneration)
    (raises : ∀ held, observed.service.presenter.phase = .publishing held →
      next.presenter.phase.isLeaving = true) :
    Sound configuration { observed with service := next } := by
  have effect := presentStep_effect taken
  rcases presentStep_ordered sound.ordered sound.filtered takes taken with ⟨ordered, filtered⟩
  refine ⟨ordered, filtered, sound.newest_of_present effect ordered takes applied, ?_, ?_, ?_, ?_,
    ?_, ?_, ?_, sound.answered⟩
  · intro running targetS claimed first begins
    rw [effect.recording] at begins
    have wasRunning : observed.service.stopEvent = false :=
      Bool.eq_false_iff.mpr (fun stopped => nomatch running.symm.trans (effect.stopEvent stopped))
    by_cases renounced : observed.service.Renounced
    · exact Or.inl (renounced.presentStep effect applied taken)
    · by_cases publishes : ∃ held, observed.service.presenter.phase = .publishing held
      · rcases publishes with ⟨held, phase⟩
        exact Or.inl (Or.inr (raises held phase))
      · have answering :=
          (sound.current wasRunning targetS claimed first begins).resolve_left renounced
        exact answering.presentStep begins sound.filtered takes renounced
          (sound.claimedTarget targetS claimed) (not_exists.mp publishes) taken
  · intro held phase targetS claimed first begins
    rw [effect.recording] at begins
    rcases presentStep_due taken with silent | ⟨_, running, timed | ⟨other, was, isDue, firstPtsS⟩⟩
    · exact absurd phase (silent held).2
    · rcases timed with ⟨other, _, isDue⟩
      cases isDue.symm.trans phase
    · cases isDue.symm.trans phase
      exact sound.publishes was running targetS claimed first begins firstPtsS
  · rw [applied, effect.seekGeneration, effect.seekTargetS]
    exact sound.claimedTarget
  · rw [applied, effect.seekGeneration, effect.seekTargetS]
    intro targetS parked
    rcases sound.parked targetS parked with ⟨newest, silent, claimed⟩
    refine ⟨newest, ?_, fun isApplied => ⟨(claimed isApplied).1, ?_⟩⟩
    · rcases effect.state with same | failed | ended
      · rw [same]
        exact silent
      · rw [failed]
        nofun
      · rw [ended]
        nofun
    · rcases presentStep_due taken with undue | ⟨plays, _⟩
      · exact undue
      · exact absurd plays silent
  · intro targetS owed
    rcases sound.owed targetS owed with ⟨newest, claimed | ⟨pending, phase⟩ | outside | leaving⟩
    · exact ⟨newest.trans effect.seekTargetS.symm, Or.inl claimed⟩
    · refine ⟨newest.trans effect.seekTargetS.symm, Or.inr ?_⟩
      rcases claiming_presentStep phase pending applied taken with claiming | leaving
      · refine Or.inl ⟨?_, Or.inr claiming⟩
        rw [applied, effect.seekGeneration]
        exact pending
      · exact Or.inr (Or.inr leaving)
    · refine ⟨newest.trans effect.seekTargetS.symm, Or.inr (Or.inr (Or.inl ?_))⟩
      rw [effect.recording]
      exact outside
    · exact ⟨newest.trans effect.seekTargetS.symm,
        Or.inr (Or.inr (Or.inr (leaving_presentStep leaving taken)))⟩
  · rw [effect.caller]
    exact fun joins => effect.stopEvent (sound.joining joins)
  · rw [effect.caller]
    intro reloads
    have exited := sound.reloading reloads
    unfold VideoSourceService.presentStep at taken
    simp only [exited] at taken
    cases taken

/-- The callback returns. -/
theorem Sound.published {held : Held}
    (phase : observed.service.presenter.phase = .publishing held) {choice : Choice}
    (returns : choice ≠ .raise)
    (takes : TakesClaimed observed.service)
    (taken : observed.service.presentStep choice = some next) :
    Sound configuration (observed.observePresent next choice) := by
  have effect := presentStep_effect taken
  rcases presentStep_ordered sound.ordered sound.filtered takes taken with ⟨ordered, filtered⟩
  have newest := sound.newest_of_present effect ordered takes
  unfold observePresent
  simp only [phase, if_neg returns]
  unfold VideoSourceService.presentStep at taken
  simp only [phase, if_neg returns] at taken
  cases taken
  refine ⟨ordered, filtered, newest rfl, (fun _ _ claimed => nomatch claimed), nofun,
    (fun _ claimed => nomatch claimed), ?_, (fun _ owed => nomatch owed), sound.joining, ?_, ?_⟩
  · intro targetS parked
    rcases sound.parked targetS parked with ⟨isNewest, silent, claimed⟩
    exact ⟨isNewest, silent, fun isApplied => absurd phase ((claimed isApplied).2 held).2⟩
  · intro reloads
    cases phase.symm.trans (sound.reloading reloads)
  · intro presented member
    rcases List.mem_append.mp member with earlier | isNew
    · exact sound.answered presented earlier
    · rw [List.mem_singleton.mp isNew]
      have isPassed : held.pass.seekGeneration ∈ observed.service.presenter.passed := by
        unfold Presenter.passed
        rw [phase]
        exact List.mem_cons_self
      refine ⟨sound.filtered.passed_le _ isPassed, ?_⟩
      intro targetS awaited inside first rest frames
      have claimed : observed.claimed = some targetS := by
        rcases awaited with claimed | owed
        · exact claimed
        · rcases (sound.owed targetS owed).2 with claimed | ⟨_, looping | claiming⟩ |
            outside | leaving
          · exact claimed
          · cases phase.symm.trans looping
          · cases phase.symm.trans claiming
          · cases outside.symm.trans inside
          · rw [phase] at leaving
            cases leaving
      exact sound.publishing held phase targetS claimed first ⟨inside, rest, frames⟩

theorem Sound.presentStep {choice : Choice}
    (takes : TakesClaimed observed.service)
    (taken : observed.service.presentStep choice = some next) :
    Sound configuration (observed.observePresent next choice) := by
  have effect := presentStep_effect taken
  by_cases publishes : ∃ held, observed.service.presenter.phase = .publishing held
  · rcases publishes with ⟨held, phase⟩
    by_cases raises : choice = .raise
    · have leaving : next.presenter.phase.isLeaving = true := by
        unfold VideoSourceService.presentStep at taken
        simp only [phase, if_pos raises] at taken
        cases taken
        rfl
      have applied : next.appliedSeekGeneration = observed.service.appliedSeekGeneration := by
        rcases effect.applied with same | ⟨claiming, _⟩
        · exact same
        · cases phase.symm.trans claiming
      unfold observePresent
      simp only [phase, if_pos raises]
      exact sound.presents takes taken applied (fun _ _ => leaving)
    · exact sound.published phase raises takes taken
  · have elsewhere := not_exists.mp publishes
    rcases effect.applied with applied | ⟨claiming, pending, claims⟩
    · have same : observed.observePresent next choice = { observed with service := next } := by
        unfold observePresent
        cases phase : observed.service.presenter.phase with
        | claiming =>
            by_cases pending :
                observed.service.seekGeneration ≠ observed.service.appliedSeekGeneration
            · unfold VideoSourceService.presentStep at taken
              simp only [phase, if_pos pending] at taken
              cases taken
              exact absurd applied pending
            · simp only [phase, if_neg pending]
        | publishing held => exact absurd phase (elsewhere held)
        | _ => simp only [phase]
      rw [same]
      exact sound.presents takes taken applied (fun held phase => absurd phase (elsewhere held))
    · rcases presentStep_ordered sound.ordered sound.filtered takes taken with ⟨ordered, filtered⟩
      unfold observePresent
      simp only [claiming, if_pos pending]
      exact sound.claims claiming pending effect ordered filtered claims

/-! ## Whole runs -/

theorem Sound.step {action : Step} {next : Observed}
    (honours : observed.HonoursSeeks action)
    (taken : Observed.step configuration observed action = some next) :
    Sound configuration next := by
  rcases Option.map_eq_some_iff.mp taken with ⟨service, moved, isNext⟩
  cases isNext
  cases action with
  | call call =>
      simp only [VideoSourceService.step] at moved
      split_ifs at moved
      cases moved
      exact sound.call honours
  | caller reloaded => exact sound.callerStep honours moved
  | decode choice => exact sound.decodeStep honours.1 honours.2 moved
  | present choice => exact sound.presentStep honours moved
  | head choice => exact sound.headStep moved

omit sound

/-- In every interleaving that honours the seeks, each presented frame belongs
to a pass of the last applied seek or a later one, and the frame that a claimed
or a parked seek waits for is the first one of the pass at its target, with the
timeline anchored at it. -/
theorem seeks_are_honoured {recording : Recording} {actions : List Step} {final : Observed}
    (honours : Meets (Observed.step configuration) HonoursSeeks (initial recording) actions)
    (reached : run (Observed.step configuration) (initial recording) actions = some final) :
    ∀ presented ∈ final.presented,
      presented.applied ≤ presented.pass.seekGeneration ∧
        ∀ targetS, presented.claimed = some targetS ∨ presented.owed = some targetS →
          Presented.answers configuration presented targetS := by
  have preserved : ∀ observed action next, Sound configuration observed →
      observed.HonoursSeeks action → Observed.step configuration observed action = some next →
        Sound configuration next := by
    intro observed action next sound allowed taken
    exact sound.step allowed taken
  exact (run_invariant preserved (sound_initial recording) honours reached).answered

/-! ## A file of four frames -/

/-- One frame a second, in an open region. -/
def fourFrames : Recording where
  regionStartS := 0
  regionEndS := none
  durationS := none
  headFrameBudget := none
  frames startS := [⟨some 0, true⟩, ⟨some 1, true⟩, ⟨some 2, true⟩, ⟨some 3, true⟩].filter
    (fun frame => frame.ptsSeconds.any (fun ptsSeconds => decide (startS ≤ ptsSeconds)))

def queueOf (decodeQueueSize : Nat) : Configuration where
  loop := false
  processEveryNthFrame := 1
  decodeQueueSize := decodeQueueSize
  maxDecodeFailures := 3

def decodes (steps : Nat) : List Step := List.replicate steps (.decode .advance)

def presents (steps : Nat) : List Step := List.replicate steps (.present .advance)

/-- The first frame has been presented, and the source seeks back to it. -/
def seekBack : List Step :=
  [.call .play, .caller none, .caller none] ++ decodes 8 ++ presents 9 ++ decodes 3 ++
    [.call (.seek 0), .caller none]

/-- The decode thread begins its new pass before the seek is claimed. -/
def seekBackInOrder : List Step := seekBack ++ decodes 10 ++ presents 6 ++ decodes 2 ++ presents 7

theorem seeks_are_honoured_seekBack :
    ∃ final, run (Observed.step (queueOf 2)) (initial fourFrames) seekBackInOrder = some final ∧
      ∃ presented ∈ final.presented, presented.claimed = some 0 ∧
        Presented.answers (queueOf 2) presented 0 := by
  have runs : (run (Observed.step (queueOf 2)) (initial fourFrames) seekBackInOrder).any
      (fun final => final.presented.any (fun presented =>
        decide (presented.claimed = some 0))) = true := by decide +kernel
  have honours : Meets (Observed.step (queueOf 2)) HonoursSeeks (initial fourFrames)
      seekBackInOrder := by decide +kernel
  rcases (Option.any_eq_true _ _).mp runs with ⟨final, reached, holds⟩
  rcases List.any_eq_true.mp holds with ⟨presented, member, claimed⟩
  have isClaimed := of_decide_eq_true claimed
  exact ⟨final, reached, presented, member, isClaimed,
    (seeks_are_honoured honours reached presented member).2 0 (Or.inl isClaimed)⟩

/-- The decode thread waits for room in the queue; clearing the queue for the
seek lets it put the next frame of the interrupted pass. -/
def seekBackFullQueue : List Step := seekBack ++ presents 6 ++ decodes 1 ++ presents 7

theorem interrupted_pass_is_presented :
    ∃ final, run (Observed.step (queueOf 1)) (initial fourFrames) seekBackFullQueue = some final ∧
      ∃ presented ∈ final.presented, presented.claimed = some 0 ∧
        presented.pass.seekGeneration < presented.applied ∧
        (passFrames (queueOf 1) presented.recording 0).head? ≠ some presented.frame := by
  have runs : (run (Observed.step (queueOf 1)) (initial fourFrames) seekBackFullQueue).any
      (fun final => final.presented.any (fun presented => decide (presented.claimed = some 0 ∧
        presented.pass.seekGeneration < presented.applied ∧
        (passFrames (queueOf 1) presented.recording 0).head? ≠ some presented.frame))) = true := by
    decide +kernel
  rcases (Option.any_eq_true _ _).mp runs with ⟨final, reached, holds⟩
  rcases List.any_eq_true.mp holds with ⟨presented, member, stale⟩
  exact ⟨final, reached, presented, member, of_decide_eq_true stale⟩

end Observed
end Media
end Synesthesia
