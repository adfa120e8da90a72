import Synesthesia.Foundation.Runs
import Synesthesia.Nodes.GenerateAudio

namespace Synesthesia
namespace Nodes

open Foundation Contracts Midi

/-!
# Panics of the Generate Audio node

The watermark of a panic lives in the synth that was open when the panic took
the lock.  A state that the panic covers is rejected by that synth and by no
other, so it stays silent as long as it is handed to no synth opened later.
-/

namespace AudioOutputService

/-! ## Watermarks -/

/-- The newest generation that the panics of a synth have covered. -/
def watermark (service : AudioOutputService) (index : Nat) : Nat :=
  match service.synths[index]? with
  | none => 0
  | some synth => synth.ordering.staleUptoGeneration

/-- The state that a step arms a synth with: the synth is open and does not
reject it. -/
def arms (service : AudioOutputService) : Step → Option MidiStateFrame
  | .updateFast none =>
      match service.publisher with
      | .updating index _ state => accepted index state
      | _ => none
  | .updateSynth none =>
      match service.worker with
      | .updating _ _ state index => accepted index state
      | _ => none
  | _ => none
where
  accepted (index : Nat) (state : MidiStateFrame) : Option MidiStateFrame :=
    match service.synths[index]? with
    | none => none
    | some synth =>
        if synth.closed = true ∨ synth.ordering.isStale state.context.publishGeneration = true then
          none
        else some state

/-- A panic covers the engine-ordered states up to its generation. -/
def Covers (call : AudioPanic) (state : MidiStateFrame) : Prop :=
  0 < state.context.publishGeneration ∧ state.context.publishGeneration ≤ call.publishGeneration

/-- The synth rejects the state already, or every panic that covers the state
was issued while this synth was open. -/
def Reaches (service : AudioOutputService) (index : Nat) (state : MidiStateFrame) : Prop :=
  state.context.publishGeneration ≤ service.watermark index ∨
    ∀ call ∈ service.issued, Covers call state → call.synth = some index

/-- The synth that a step chooses for a state: `publish` takes the one that is
open, the service thread the one that it has just opened or found. -/
def chooses (service : AudioOutputService) : Step → Option (Nat × MidiStateFrame)
  | .publish configuration state =>
      match (service.publish configuration state).publisher with
      | .updating index _ _ => some (index, state)
      | _ => none
  | .checkCurrent =>
      match service.worker with
      | .checking generation _ state index =>
          if generation = service.generation then some (index, state) else none
      | _ => none
  | _ => none

/-- A state is handed only to a synth that the panics covering it reach. -/
def Handed (service : AudioOutputService) (action : Step) : Prop :=
  ∀ chosen ∈ service.chooses action, service.Reaches chosen.1 chosen.2

instance (call : AudioPanic) (state : MidiStateFrame) : Decidable (Covers call state) :=
  inferInstanceAs (Decidable (_ ∧ _))

instance (service : AudioOutputService) (index : Nat) (state : MidiStateFrame) :
    Decidable (service.Reaches index state) :=
  inferInstanceAs (Decidable (_ ∨ _))

instance (service : AudioOutputService) (action : Step) : Decidable (service.Handed action) :=
  inferInstanceAs (Decidable (∀ chosen ∈ service.chooses action, _))

variable {index : Nat}

theorem watermark_append (service : AudioOutputService) (opened : DebugSynth)
    (inRange : index < service.synths.length) :
    watermark { service with synths := service.synths ++ [opened] } index =
      service.watermark index := by
  simp only [watermark, List.getElem?_append_left inRange]

/-- A call that never lowers a watermark lowers none. -/
theorem watermark_onSynth (service : AudioOutputService) (index : Nat)
    {call : DebugSynth → DebugSynth} (raises : ∀ synth : DebugSynth,
      synth.ordering.staleUptoGeneration ≤ (call synth).ordering.staleUptoGeneration)
    (other : Nat) : service.watermark other ≤ (service.onSynth index call).watermark other := by
  simp only [watermark, onSynth, List.getElem?_modify]
  cases service.synths[other]? with
  | none => exact Nat.zero_le _
  | some synth =>
      by_cases same : index = other
      · simpa [same] using raises synth
      · simp [same]

theorem panic_raises (publishGeneration : Nat) (synth : DebugSynth) :
    synth.ordering.staleUptoGeneration ≤
      (synth.panic publishGeneration).ordering.staleUptoGeneration :=
  le_max_left _ _

theorem update_raises (state : MidiStateFrame) (synth : DebugSynth) :
    synth.ordering.staleUptoGeneration ≤ (synth.update state).ordering.staleUptoGeneration := by
  unfold DebugSynth.update
  split_ifs <;> exact le_rfl

theorem panic_close_raises (publishGeneration : Nat) (synth : DebugSynth) :
    synth.ordering.staleUptoGeneration ≤
      (synth.panic publishGeneration).close.ordering.staleUptoGeneration := by
  unfold DebugSynth.close
  split_ifs <;> exact panic_raises publishGeneration synth

/-- A panic of a synth raises its watermark to its generation. -/
theorem le_watermark_panic (service : AudioOutputService) (publishGeneration : Nat)
    (inRange : index < service.synths.length) :
    publishGeneration ≤
      (service.onSynth index (fun synth => synth.panic publishGeneration)).watermark index := by
  simp only [watermark, onSynth, List.getElem?_modify, List.getElem?_eq_getElem inRange]
  simp only [if_true, Option.map_eq_map, Option.map_some]
  exact le_max_right _ _

/-! ## The panic calls -/

/-- A call that has returned has raised the watermark of the synth it has read. -/
structure PanicsReach (service : AudioOutputService) : Prop where
  inRange : ∀ call ∈ service.issued, ∀ index, call.synth = some index →
    index < service.synths.length
  calls : ∀ call ∈ service.calls, call ∈ service.issued
  returned : ∀ call ∈ service.returned, call ∈ service.issued
  reached : ∀ call ∈ service.returned, ∀ index, call.synth = some index →
    call.publishGeneration ≤ service.watermark index

/-- The synths only grow in number and in their watermarks. -/
structure Grows (service next : AudioOutputService) : Prop where
  length : service.synths.length ≤ next.synths.length
  watermarks : ∀ index, index < service.synths.length →
    service.watermark index ≤ next.watermark index

variable {service next : AudioOutputService}

theorem Grows.of_synths (same : next.synths = service.synths) : Grows service next := by
  refine ⟨by rw [same], ?_⟩
  intro index _
  rw [watermark, watermark, same]

theorem Grows.onSynth (service : AudioOutputService) (index : Nat)
    {call : DebugSynth → DebugSynth} (raises : ∀ synth : DebugSynth,
      synth.ordering.staleUptoGeneration ≤ (call synth).ordering.staleUptoGeneration) :
    Grows service (service.onSynth index call) where
  length := by simp [AudioOutputService.onSynth]
  watermarks := fun other _ => watermark_onSynth service index raises other

/-- A step that issues and ends no panic call. -/
theorem PanicsReach.of_grows (panics : service.PanicsReach)
    (grows : Grows service next) (calls : next.calls = service.calls)
    (issued : next.issued = service.issued) (returned : next.returned = service.returned) :
    next.PanicsReach where
  inRange := by
    rw [issued]
    exact fun call member index isSynth =>
      (panics.inRange call member index isSynth).trans_le grows.length
  calls := by
    rw [calls, issued]
    exact panics.calls
  returned := by
    rw [returned, issued]
    exact panics.returned
  reached := by
    rw [returned]
    intro call member index isSynth
    have inRange := panics.inRange call (panics.returned call member) index isSynth
    exact (panics.reached call member index isSynth).trans (grows.watermarks index inRange)

theorem PanicsReach.panic (panics : service.PanicsReach)
    (installed : ∀ index, service.synth = some index → index < service.synths.length)
    (publishGeneration : Nat) : (service.panic publishGeneration).PanicsReach where
  inRange := by
    intro call member index isSynth
    rcases List.mem_append.mp member with before | new
    · exact panics.inRange call before index isSynth
    · rw [List.mem_singleton.mp new] at isSynth
      exact installed index isSynth
  calls := by
    intro call member
    rcases List.mem_append.mp member with before | new
    · exact List.mem_append_left _ (panics.calls call before)
    · exact List.mem_append_right _ new
  returned := fun call member => List.mem_append_left _ (panics.returned call member)
  reached := panics.reached

theorem PanicsReach.finishPanic {call : AudioPanic}
    (panics : service.PanicsReach)
    (taken : service.callStep (.finishPanic call) = some next) :
    next.PanicsReach ∧ Grows service next := by
  simp only [callStep] at taken
  split_ifs at taken with member
  have issued := panics.calls call member
  have returnedIssued : ∀ other ∈ service.returned ++ [call], other ∈ service.issued := by
    intro other isReturned
    rcases List.mem_append.mp isReturned with before | new
    · exact panics.returned other before
    · exact List.mem_singleton.mp new ▸ issued
  cases isSynth : call.synth with
  | none =>
      simp only [isSynth, Option.some.injEq] at taken
      subst taken
      refine ⟨⟨panics.inRange, fun other left => panics.calls other (List.mem_of_mem_erase left),
        returnedIssued, ?_⟩, Grows.of_synths rfl⟩
      intro other isReturned index isOther
      rcases List.mem_append.mp isReturned with before | new
      · exact panics.reached other before index isOther
      · rw [List.mem_singleton.mp new, isSynth] at isOther
        cases isOther
  | some target =>
      simp only [isSynth, Option.some.injEq] at taken
      subst taken
      have grows := Grows.onSynth service target (panic_raises call.publishGeneration)
      refine ⟨⟨?_, fun other left => panics.calls other (List.mem_of_mem_erase left),
        returnedIssued, ?_⟩, grows.length, grows.watermarks⟩
      · intro other isIssued index isOther
        exact (panics.inRange other isIssued index isOther).trans_le grows.length
      · intro other isReturned index isOther
        rcases List.mem_append.mp isReturned with before | new
        · have inRange := panics.inRange other (panics.returned other before) index isOther
          exact (panics.reached other before index isOther).trans (grows.watermarks index inRange)
        · rw [List.mem_singleton.mp new] at isOther ⊢
          cases isSynth.symm.trans isOther
          exact le_watermark_panic service call.publishGeneration
            (panics.inRange call issued target isSynth)

/-! ## Handing over a state -/

/-- While a state is on its way to a synth, that synth stays open; the panics
issued before and after reach it. -/
structure HandsOver (service : AudioOutputService) : Prop where
  installed : ∀ index, service.synth = some index → index < service.synths.length
  installing : ∀ generation configuration state index,
    service.worker = .installing generation configuration state index →
      index < service.synths.length
  checking : ∀ generation configuration state index,
    service.worker = .checking generation configuration state index → service.synth = some index
  slow : ∀ generation configuration state index,
    service.worker = .updating generation configuration state index →
      service.synth = some index ∧ service.Reaches index state
  closed : ∀ after old, service.worker = .closing after old → service.synth = none
  resting : service.busy = false →
    service.worker = .idle ∨ service.worker = .dead ∧ service.synth = none
  fast : ∀ index configuration state,
    service.publisher = .updating index configuration state →
      service.synth = some index ∧ service.pending = none ∧ service.worker = .idle ∧
        service.Reaches index state

theorem Reaches.of_grows
    {state : MidiStateFrame} (reaches : service.Reaches index state) (grows : Grows service next)
    (inRange : index < service.synths.length) (issued : next.issued = service.issued) :
    next.Reaches index state := by
  unfold Reaches
  rw [issued]
  exact reaches.imp_left (fun stale => stale.trans (grows.watermarks index inRange))

/-- A panic that is issued while the synth is open reaches it. -/
theorem Reaches.panic {state : MidiStateFrame}
    (reaches : service.Reaches index state) (isOpen : service.synth = some index)
    (publishGeneration : Nat) : (service.panic publishGeneration).Reaches index state := by
  rcases reaches with stale | addressed
  · exact Or.inl stale
  · right
    intro call member covers
    rcases List.mem_append.mp member with before | new
    · exact addressed call before covers
    · rw [List.mem_singleton.mp new]
      exact isOpen

variable (hands : service.HandsOver)
include hands

/-- A step that leaves the open synth and the phases of the threads alone. -/
theorem HandsOver.of_grows (grows : Grows service next) (issued : next.issued = service.issued)
    (synth : next.synth = service.synth) (worker : next.worker = service.worker)
    (busy : next.busy = service.busy)
    (publisher : ∀ index configuration state,
      next.publisher = .updating index configuration state →
        service.publisher = .updating index configuration state ∧ next.pending = service.pending) :
    next.HandsOver where
  installed := by
    rw [synth]
    exact fun index isOpen => (hands.installed index isOpen).trans_le grows.length
  installing := by
    rw [worker]
    exact fun generation configuration state index installing =>
      (hands.installing generation configuration state index installing).trans_le grows.length
  checking := by
    rw [worker, synth]
    exact hands.checking
  slow := by
    rw [worker, synth]
    intro generation configuration state index updating
    rcases hands.slow generation configuration state index updating with ⟨isOpen, reaches⟩
    exact ⟨isOpen, reaches.of_grows grows (hands.installed index isOpen) issued⟩
  closed := by
    rw [worker, synth]
    exact hands.closed
  resting := by
    rw [busy, worker, synth]
    exact hands.resting
  fast := by
    intro index configuration state updating
    rcases publisher index configuration state updating with ⟨before, pending⟩
    rcases hands.fast index configuration state before with ⟨isOpen, nothing, idle, reaches⟩
    rw [synth, worker, pending]
    exact ⟨isOpen, nothing, idle, reaches.of_grows grows (hands.installed index isOpen) issued⟩

/-- While a state is on the fast path, the service thread takes no step. -/
theorem HandsOver.not_fast
    (working : service.worker ≠ .idle) (index : Nat) (configuration : SynthConfiguration)
    (state : MidiStateFrame) : service.publisher ≠ .updating index configuration state :=
  fun updating => working (hands.fast index configuration state updating).2.2.1

theorem HandsOver.publish (idle : ∀ index configuration state,
      service.publisher ≠ .updating index configuration state)
    (configuration : SynthConfiguration) (state : MidiStateFrame)
    (handed : ∀ index,
      (service.publish configuration state).publisher = .updating index configuration state →
        service.Reaches index state) :
    (service.publish configuration state).HandsOver := by
  unfold AudioOutputService.publish at handed ⊢
  by_cases failed : service.failedConfiguration = some configuration
  · rw [if_pos failed]
    exact hands
  · rw [if_neg failed] at handed ⊢
    cases isOpen : service.synth with
    | none =>
        refine hands.of_grows (Grows.of_synths rfl) rfl isOpen.symm rfl rfl ?_
        exact fun index other frame updating => absurd updating (idle index other frame)
    | some target =>
        simp only [isOpen] at handed ⊢
        by_cases ready : service.configuration = some configuration ∧ service.busy = false ∧
            service.pending = none
        · rw [if_pos ready] at handed ⊢
          have resting : service.worker = .idle := by
            rcases hands.resting ready.2.1 with worker | ⟨_, gone⟩
            · exact worker
            · rw [isOpen] at gone
              cases gone
          refine ⟨?_, hands.installing, ?_, ?_, ?_, ?_, ?_⟩
          · intro index same
            exact hands.installed index (isOpen.trans same)
          · intro generation other frame index checking
            exact isOpen.symm.trans (hands.checking generation other frame index checking)
          · intro generation other frame index updating
            rcases hands.slow generation other frame index updating with ⟨same, reaches⟩
            exact ⟨isOpen.symm.trans same, reaches⟩
          · intro after old closing
            exact isOpen.symm.trans (hands.closed after old closing)
          · intro _
            exact Or.inl resting
          · intro index other frame updating
            cases updating
            exact ⟨rfl, ready.2.2, resting, handed target rfl⟩
        · rw [if_neg ready]
          refine hands.of_grows (Grows.of_synths rfl) rfl isOpen.symm rfl rfl ?_
          exact fun index other frame updating => absurd updating (idle index other frame)

variable {action : Step}

/-- A call keeps the way of a state to its synth. -/
theorem HandsOver.callStep (panics : service.PanicsReach) (handed : service.Handed action)
    (taken : service.callStep action = some next) : next.HandsOver := by
  cases action with
  | publish configuration state =>
      simp only [AudioOutputService.callStep] at taken
      split at taken
      · rename_i idle
        cases taken
        refine hands.publish ?_ configuration state ?_
        · intro index other frame updating
          cases idle.symm.trans updating
        · intro index updating
          refine handed (index, state) ?_
          simp [chooses, updating]
      · cases taken
  | updateFast raises =>
      simp only [AudioOutputService.callStep] at taken
      split at taken
      · rename_i index configuration state _
        cases taken
        have grows := Grows.onSynth service index (update_raises state)
        exact hands.of_grows ⟨grows.length, grows.watermarks⟩ rfl rfl rfl rfl
          (fun _ _ _ updating => nomatch updating)
      · cases taken
        exact hands.of_grows (Grows.of_synths rfl) rfl rfl rfl rfl
          (fun _ _ _ updating => nomatch updating)
      · cases taken
  | recordFast =>
      simp only [AudioOutputService.callStep] at taken
      split at taken
      · cases taken
        exact hands.of_grows (Grows.of_synths rfl) rfl rfl rfl rfl
          (fun _ _ _ updating => nomatch updating)
      · cases taken
  | disable =>
      simp only [AudioOutputService.callStep] at taken
      split at taken
      · rename_i idle
        cases taken
        have notFast : ∀ index configuration state,
            service.publisher ≠ .updating index configuration state := by
          intro index configuration state updating
          cases idle.symm.trans updating
        unfold AudioOutputService.disable
        split_ifs
        · exact hands.of_grows (Grows.of_synths rfl) rfl rfl rfl rfl
            (fun index configuration state updating =>
              absurd updating (notFast index configuration state))
        · exact hands.of_grows (Grows.of_synths rfl) rfl rfl rfl rfl
            (fun index configuration state updating =>
              absurd updating (notFast index configuration state))
      · cases taken
  | panic publishGeneration =>
      simp only [AudioOutputService.callStep, Option.some.injEq] at taken
      subst taken
      refine ⟨hands.installed, hands.installing, hands.checking, ?_, hands.closed, hands.resting,
        ?_⟩
      · intro generation configuration state index updating
        rcases hands.slow generation configuration state index updating with ⟨isOpen, reaches⟩
        exact ⟨isOpen, reaches.panic isOpen publishGeneration⟩
      · intro index configuration state updating
        rcases hands.fast index configuration state updating with ⟨isOpen, _, idle, reaches⟩
        exact ⟨isOpen, rfl, idle, reaches.panic isOpen publishGeneration⟩
  | finishPanic call =>
      have grows := (panics.finishPanic taken).2
      simp only [AudioOutputService.callStep] at taken
      split_ifs at taken
      cases isSynth : call.synth with
      | none =>
          simp only [isSynth, Option.some.injEq] at taken
          subst taken
          exact hands.of_grows grows rfl rfl rfl rfl
            (fun index configuration state updating => ⟨updating, rfl⟩)
      | some target =>
          simp only [isSynth, Option.some.injEq] at taken
          subst taken
          exact hands.of_grows grows rfl rfl rfl rfl
            (fun index configuration state updating => ⟨updating, rfl⟩)
  | _ => cases taken

/-- A step of the service thread in the middle of a command. -/
theorem HandsOver.of_worker (working : service.worker ≠ .idle) (alive : service.worker ≠ .dead)
    (publisher : next.publisher = service.publisher) (busy : next.busy = service.busy)
    (installed : ∀ index, next.synth = some index → index < next.synths.length)
    (closed : ∀ after old, next.worker = .closing after old → next.synth = none)
    (installing : ∀ generation configuration state index,
      next.worker = .installing generation configuration state index → index < next.synths.length)
    (checking : ∀ generation configuration state index,
      next.worker = .checking generation configuration state index → next.synth = some index)
    (slow : ∀ generation configuration state index,
      next.worker = .updating generation configuration state index →
        next.synth = some index ∧ next.Reaches index state) : next.HandsOver where
  installed := installed
  installing := installing
  checking := checking
  slow := slow
  closed := closed
  resting := by
    rw [busy]
    intro notBusy
    rcases hands.resting notBusy with idle | ⟨dead, _⟩
    · exact absurd idle working
    · exact absurd dead alive
  fast := by
    rw [publisher]
    intro index configuration state updating
    exact absurd updating (hands.not_fast working index configuration state)

/-- The phases in which the service thread has a synth in its hands. -/
def holdsSynth : AudioWorker → Bool
  | .closing _ _ => true
  | .installing _ _ _ _ => true
  | .checking _ _ _ _ => true
  | .updating _ _ _ _ => true
  | _ => false

/-- A step of the service thread that lets go of its synth. -/
theorem HandsOver.of_plain (working : service.worker ≠ .idle) (alive : service.worker ≠ .dead)
    (publisher : next.publisher = service.publisher) (busy : next.busy = service.busy)
    (installed : ∀ index, next.synth = some index → index < next.synths.length)
    (plain : holdsSynth next.worker = false) : next.HandsOver := by
  refine hands.of_worker working alive publisher busy installed ?_ ?_ ?_ ?_
  · intro after old phase
    rw [phase] at plain
    cases plain
  · intro generation configuration state index phase
    rw [phase] at plain
    cases plain
  · intro generation configuration state index phase
    rw [phase] at plain
    cases plain
  · intro generation configuration state index phase
    rw [phase] at plain
    cases plain

/-- While no synth is open, the service thread only has to keep it so. -/
theorem HandsOver.of_gone
    (working : service.worker ≠ .idle) (publisher : next.publisher = service.publisher)
    (gone : next.synth = none)
    (resting : next.busy = false → next.worker = .idle ∨ next.worker = .dead)
    (installing : ∀ generation configuration state index,
      next.worker = .installing generation configuration state index → index < next.synths.length)
    (checking : ∀ generation configuration state index,
      next.worker ≠ .checking generation configuration state index)
    (slow : ∀ generation configuration state index,
      next.worker ≠ .updating generation configuration state index) : next.HandsOver where
  installed := by
    rw [gone]
    exact nofun
  installing := installing
  checking := fun generation configuration state index isChecking =>
    absurd isChecking (checking generation configuration state index)
  slow := fun generation configuration state index updating =>
    absurd updating (slow generation configuration state index)
  closed := fun _ _ _ => gone
  resting := fun notBusy => (resting notBusy).imp_right (fun dead => ⟨dead, gone⟩)
  fast := by
    rw [publisher]
    intro index configuration state updating
    exact absurd updating (hands.not_fast working index configuration state)

theorem installed_onSynth (target : Nat) (call : DebugSynth → DebugSynth) (index : Nat)
    (isOpen : service.synth = some index) :
    index < (service.onSynth target call).synths.length := by
  rw [AudioOutputService.onSynth, List.length_modify]
  exact hands.installed index isOpen

theorem HandsOver.busy
    (working : service.worker ≠ .idle) (alive : service.worker ≠ .dead) : service.busy = true := by
  cases isBusy : service.busy with
  | true => rfl
  | false =>
      rcases hands.resting isBusy with idle | ⟨dead, _⟩
      · exact absurd idle working
      · exact absurd dead alive

omit hands in
theorem isDead_iff (worker : AudioWorker) : worker.isDead = true ↔ worker = .dead := by
  cases worker <;> simp [AudioWorker.isDead]

/-- After `_close_current` has taken the synth away, no step but an install
brings one back. -/
theorem HandsOver.closeOld {raises : Option PyError}
    (taken : service.workerStep (.closeOld raises) = some next) : next.HandsOver := by
  simp only [AudioOutputService.workerStep] at taken
  split at taken
  · rename_i after old phase
    have gone := hands.closed after old phase
    have working : service.worker ≠ .idle := by rw [phase]; exact nofun
    have isBusy := hands.busy working (by rw [phase]; exact nofun)
    have resting : (service.busy && !(after.next raises).isDead) = false →
        after.next raises = .idle ∨ after.next raises = .dead := by
      rw [isBusy, Bool.true_and, Bool.not_eq_false', isDead_iff]
      exact Or.inr
    have installing : ∀ generation configuration state index,
        after.next raises ≠ .installing generation configuration state index := by
      intro generation configuration state index isNext
      cases after <;> cases raises <;> cases isNext
    have checking : ∀ generation configuration state index,
        after.next raises ≠ .checking generation configuration state index := by
      intro generation configuration state index isNext
      cases after <;> cases raises <;> cases isNext
    have updating : ∀ generation configuration state index,
        after.next raises ≠ .updating generation configuration state index := by
      intro generation configuration state index isNext
      cases after <;> cases raises <;> cases isNext
    cases old with
    | none =>
        cases taken
        exact hands.of_gone working rfl gone resting
          (fun generation configuration state index isInstalling =>
            absurd isInstalling (installing generation configuration state index)) checking updating
    | some index =>
        cases taken
        exact hands.of_gone working rfl gone resting
          (fun generation configuration state index isInstalling =>
            absurd isInstalling (installing generation configuration state index)) checking updating
  · cases taken

/-- A step of the service thread keeps the way of a state to its synth. -/
theorem HandsOver.workerStep (handed : service.Handed action)
    (taken : service.workerStep action = some next) : next.HandsOver := by
  cases action with
  | closeOld raises => exact hands.closeOld taken
  | take =>
      simp only [AudioOutputService.workerStep] at taken
      split at taken
      · rename_i command idle pending
        cases taken
        refine ⟨hands.installed, (fun _ _ _ _ isNext => nomatch isNext),
          (fun _ _ _ _ isNext => nomatch isNext), (fun _ _ _ _ isNext => nomatch isNext),
          (fun _ _ isNext => nomatch isNext), nofun, ?_⟩
        intro index configuration state updating
        have nothing := (hands.fast index configuration state updating).2.1
        rw [pending] at nothing
        cases nothing
      · cases taken
  | apply =>
      simp only [AudioOutputService.workerStep] at taken
      split at taken
      · rename_i generation phase
        cases taken
        have working : service.worker ≠ .idle := by rw [phase]; exact nofun
        have isBusy := hands.busy working (by rw [phase]; exact nofun)
        refine hands.of_gone working rfl rfl ?_ (fun _ _ _ _ isNext => nomatch isNext)
            (fun _ _ _ _ isNext => nomatch isNext) (fun _ _ _ _ isNext => nomatch isNext)
        intro notBusy
        cases isBusy.symm.trans notBusy
      · rename_i generation configuration state phase
        have working : service.worker ≠ .idle := by rw [phase]; exact nofun
        have alive : service.worker ≠ .dead := by rw [phase]; exact nofun
        split_ifs at taken
        · split at taken
          · rename_i index isOpen
            cases taken
            refine hands.of_worker working alive rfl rfl hands.installed
              (fun _ _ isNext => nomatch isNext) (fun _ _ _ _ isNext => nomatch isNext) ?_
              (fun _ _ _ _ isNext => nomatch isNext)
            intro otherGeneration other frame target checking
            cases checking
            exact isOpen
          · cases taken
        · cases taken
          have isBusy := hands.busy working alive
          refine hands.of_gone working rfl rfl ?_ (fun _ _ _ _ isNext => nomatch isNext)
            (fun _ _ _ _ isNext => nomatch isNext) (fun _ _ _ _ isNext => nomatch isNext)
          intro notBusy
          cases isBusy.symm.trans notBusy
      · cases taken
  | openSynth raises =>
      simp only [AudioOutputService.workerStep] at taken
      split at taken
      · rename_i generation configuration state phase
        cases taken
        have working : service.worker ≠ .idle := by rw [phase]; exact nofun
        have alive : service.worker ≠ .dead := by rw [phase]; exact nofun
        refine hands.of_worker working alive rfl rfl ?_ (fun _ _ isNext => nomatch isNext) ?_
          (fun _ _ _ _ isNext => nomatch isNext) (fun _ _ _ _ isNext => nomatch isNext)
        · intro index isOpen
          rw [List.length_append]
          exact Nat.lt_add_right _ (hands.installed index isOpen)
        · intro otherGeneration other frame index installing
          cases installing
          rw [List.length_append]
          exact Nat.lt_succ_self _
      · rename_i generation configuration state error phase
        cases taken
        have working : service.worker ≠ .idle := by rw [phase]; exact nofun
        have alive : service.worker ≠ .dead := by rw [phase]; exact nofun
        exact hands.of_plain working alive rfl rfl hands.installed rfl
      · cases taken
  | install =>
      simp only [AudioOutputService.workerStep] at taken
      split at taken
      · rename_i generation configuration state index phase
        cases taken
        have working : service.worker ≠ .idle := by rw [phase]; exact nofun
        have alive : service.worker ≠ .dead := by rw [phase]; exact nofun
        refine hands.of_worker working alive rfl rfl ?_ (fun _ _ isNext => nomatch isNext)
          (fun _ _ _ _ isNext => nomatch isNext) ?_ (fun _ _ _ _ isNext => nomatch isNext)
        · intro other isOpen
          cases isOpen
          exact hands.installing generation configuration state index phase
        · intro otherGeneration other frame target checking
          cases checking
          rfl
      · cases taken
  | checkCurrent =>
      simp only [AudioOutputService.workerStep] at taken
      split at taken
      · rename_i generation configuration state index phase
        cases taken
        have working : service.worker ≠ .idle := by rw [phase]; exact nofun
        have alive : service.worker ≠ .dead := by rw [phase]; exact nofun
        have isOpen := hands.checking generation configuration state index phase
        by_cases current : generation = service.generation
        · rw [if_pos current]
          refine hands.of_worker working alive rfl rfl hands.installed
            (fun _ _ isNext => nomatch isNext) (fun _ _ _ _ isNext => nomatch isNext)
            (fun _ _ _ _ isNext => nomatch isNext) ?_
          intro otherGeneration other frame target updating
          cases updating
          refine ⟨isOpen, handed (index, state) ?_⟩
          simp [chooses, phase, current]
        · rw [if_neg current]
          exact hands.of_plain working alive rfl rfl hands.installed rfl
      · cases taken
  | updateSynth raises =>
      simp only [AudioOutputService.workerStep] at taken
      split at taken
      · rename_i generation configuration state index phase
        cases taken
        have working : service.worker ≠ .idle := by rw [phase]; exact nofun
        have alive : service.worker ≠ .dead := by rw [phase]; exact nofun
        exact hands.of_plain working alive rfl rfl (installed_onSynth hands index _) rfl
      · rename_i generation configuration state index error phase
        cases taken
        have working : service.worker ≠ .idle := by rw [phase]; exact nofun
        have alive : service.worker ≠ .dead := by rw [phase]; exact nofun
        exact hands.of_plain working alive rfl rfl hands.installed rfl
      · cases taken
  | silence =>
      simp only [AudioOutputService.workerStep] at taken
      split at taken
      · rename_i generation configuration index phase
        cases taken
        have working : service.worker ≠ .idle := by rw [phase]; exact nofun
        have alive : service.worker ≠ .dead := by rw [phase]; exact nofun
        exact hands.of_plain working alive rfl rfl (installed_onSynth hands index _) rfl
      · cases taken
  | fail =>
      simp only [AudioOutputService.workerStep] at taken
      split at taken
      · rename_i generation configuration error phase
        cases taken
        have working : service.worker ≠ .idle := by rw [phase]; exact nofun
        have isBusy := hands.busy working (by rw [phase]; exact nofun)
        refine hands.of_gone working rfl rfl ?_ (fun _ _ _ _ isNext => nomatch isNext)
            (fun _ _ _ _ isNext => nomatch isNext) (fun _ _ _ _ isNext => nomatch isNext)
        intro notBusy
        cases isBusy.symm.trans notBusy
      · cases taken
  | record =>
      simp only [AudioOutputService.workerStep] at taken
      split at taken
      · rename_i generation configuration error phase
        cases taken
        have working : service.worker ≠ .idle := by rw [phase]; exact nofun
        have alive : service.worker ≠ .dead := by rw [phase]; exact nofun
        by_cases current : generation = service.generation
        · rw [if_pos current]
          exact hands.of_plain working alive rfl rfl hands.installed rfl
        · rw [if_neg current]
          exact hands.of_plain working alive rfl rfl hands.installed rfl
      · cases taken
  | finish =>
      simp only [AudioOutputService.workerStep] at taken
      split at taken
      · rename_i phase
        cases taken
        refine ⟨hands.installed, (fun _ _ _ _ isNext => nomatch isNext),
          (fun _ _ _ _ isNext => nomatch isNext), (fun _ _ _ _ isNext => nomatch isNext),
          (fun _ _ isNext => nomatch isNext), (fun _ => Or.inl rfl), ?_⟩
        intro index configuration state updating
        exact absurd updating
          (hands.not_fast (by rw [phase]; exact nofun) index configuration state)
      · cases taken
  | _ => cases taken

omit hands

/-! ## Every run -/

def Invariant (service : AudioOutputService) : Prop :=
  service.PanicsReach ∧ service.HandsOver

theorem step_cases (taken : service.step action = some next) :
    service.callStep action = some next ∨ service.workerStep action = some next := by
  unfold step at taken
  cases ofCall : service.callStep action with
  | some reached =>
      rw [ofCall] at taken
      exact Or.inl taken
  | none =>
      rw [ofCall, Option.orElse_none] at taken
      exact Or.inr taken

/-- The synths of a service grow with every step, and only the panic calls
move the panics. -/
theorem PanicsReach.callStep (panics : service.PanicsReach) (hands : service.HandsOver)
    (taken : service.callStep action = some next) : next.PanicsReach := by
  cases action with
  | panic publishGeneration =>
      simp only [AudioOutputService.callStep, Option.some.injEq] at taken
      subst taken
      exact panics.panic hands.installed publishGeneration
  | finishPanic call => exact (panics.finishPanic taken).1
  | publish configuration state =>
      simp only [AudioOutputService.callStep] at taken
      split at taken
      · cases taken
        unfold AudioOutputService.publish
        split_ifs
        · exact panics
        · split
          · exact panics.of_grows (Grows.of_synths rfl) rfl rfl rfl
          · exact panics.of_grows (Grows.of_synths rfl) rfl rfl rfl
        · split
          · exact panics.of_grows (Grows.of_synths rfl) rfl rfl rfl
          · exact panics.of_grows (Grows.of_synths rfl) rfl rfl rfl
      · cases taken
  | updateFast raises =>
      simp only [AudioOutputService.callStep] at taken
      split at taken
      · rename_i index configuration state _
        cases taken
        have grows := Grows.onSynth service index (update_raises state)
        exact panics.of_grows ⟨grows.length, grows.watermarks⟩ rfl rfl rfl
      · cases taken
        exact panics.of_grows (Grows.of_synths rfl) rfl rfl rfl
      · cases taken
  | recordFast =>
      simp only [AudioOutputService.callStep] at taken
      split at taken
      · cases taken
        exact panics.of_grows (Grows.of_synths rfl) rfl rfl rfl
      · cases taken
  | disable =>
      simp only [AudioOutputService.callStep] at taken
      split at taken
      · cases taken
        unfold AudioOutputService.disable
        split_ifs
        · exact panics.of_grows (Grows.of_synths rfl) rfl rfl rfl
        · exact panics.of_grows (Grows.of_synths rfl) rfl rfl rfl
      · cases taken
  | _ => cases taken

theorem PanicsReach.workerStep
    (panics : service.PanicsReach) (taken : service.workerStep action = some next) :
    next.PanicsReach := by
  cases action with
  | take =>
      simp only [AudioOutputService.workerStep] at taken
      split at taken <;> cases taken
      exact panics.of_grows (Grows.of_synths rfl) rfl rfl rfl
  | apply =>
      simp only [AudioOutputService.workerStep] at taken
      split at taken
      · cases taken
        exact panics.of_grows (Grows.of_synths rfl) rfl rfl rfl
      · split_ifs at taken
        · split at taken <;> cases taken
          exact panics.of_grows (Grows.of_synths rfl) rfl rfl rfl
        · cases taken
          exact panics.of_grows (Grows.of_synths rfl) rfl rfl rfl
      · cases taken
  | closeOld raises =>
      simp only [AudioOutputService.workerStep] at taken
      split at taken
      · rename_i after old _
        cases old with
        | none =>
            cases taken
            exact panics.of_grows (Grows.of_synths rfl) rfl rfl rfl
        | some index =>
            cases taken
            have grows := Grows.onSynth service index (panic_close_raises 0)
            exact panics.of_grows ⟨grows.length, grows.watermarks⟩ rfl rfl rfl
      · cases taken
  | openSynth raises =>
      simp only [AudioOutputService.workerStep] at taken
      split at taken
      · rename_i generation configuration state _
        cases taken
        refine panics.of_grows ⟨?_, ?_⟩ rfl rfl rfl
        · rw [List.length_append]
          exact Nat.le_add_right _ _
        · intro index inRange
          exact (watermark_append service (DebugSynth.initial configuration) inRange).ge
      · cases taken
        exact panics.of_grows (Grows.of_synths rfl) rfl rfl rfl
      · cases taken
  | install =>
      simp only [AudioOutputService.workerStep] at taken
      split at taken <;> cases taken
      exact panics.of_grows (Grows.of_synths rfl) rfl rfl rfl
  | checkCurrent =>
      simp only [AudioOutputService.workerStep] at taken
      split at taken <;> cases taken
      exact panics.of_grows (Grows.of_synths rfl) rfl rfl rfl
  | updateSynth raises =>
      simp only [AudioOutputService.workerStep] at taken
      split at taken
      · rename_i generation configuration state index _
        cases taken
        have grows := Grows.onSynth service index (update_raises state)
        exact panics.of_grows ⟨grows.length, grows.watermarks⟩ rfl rfl rfl
      · cases taken
        exact panics.of_grows (Grows.of_synths rfl) rfl rfl rfl
      · cases taken
  | silence =>
      simp only [AudioOutputService.workerStep] at taken
      split at taken
      · rename_i generation configuration index _
        cases taken
        have grows := Grows.onSynth service index (panic_raises 0)
        exact panics.of_grows ⟨grows.length, grows.watermarks⟩ rfl rfl rfl
      · cases taken
  | fail =>
      simp only [AudioOutputService.workerStep] at taken
      split at taken <;> cases taken
      exact panics.of_grows (Grows.of_synths rfl) rfl rfl rfl
  | record =>
      simp only [AudioOutputService.workerStep] at taken
      split at taken
      · cases taken
        split_ifs
        · exact panics.of_grows (Grows.of_synths rfl) rfl rfl rfl
        · exact panics.of_grows (Grows.of_synths rfl) rfl rfl rfl
      · cases taken
  | finish =>
      simp only [AudioOutputService.workerStep] at taken
      split at taken <;> cases taken
      exact panics.of_grows (Grows.of_synths rfl) rfl rfl rfl
  | _ => cases taken

theorem Invariant.step (invariant : service.Invariant) (handed : service.Handed action)
    (taken : service.step action = some next) : next.Invariant := by
  rcases invariant with ⟨panics, hands⟩
  rcases step_cases taken with ofCall | ofWorker
  · exact ⟨panics.callStep hands ofCall, hands.callStep panics handed ofCall⟩
  · exact ⟨panics.workerStep ofWorker, hands.workerStep handed ofWorker⟩

theorem invariant_initial : initial.Invariant := by
  refine ⟨⟨?_, ?_, ?_, ?_⟩, ⟨?_, ?_, ?_, ?_, ?_, ?_, ?_⟩⟩
  · exact fun _ member => nomatch member
  · exact fun _ member => nomatch member
  · exact fun _ member => nomatch member
  · exact fun _ member => nomatch member
  · exact fun _ isOpen => nomatch isOpen
  · exact fun _ _ _ _ phase => nomatch phase
  · exact fun _ _ _ _ phase => nomatch phase
  · exact fun _ _ _ _ phase => nomatch phase
  · exact fun _ _ phase => nomatch phase
  · exact fun _ => Or.inl rfl
  · exact fun _ _ _ phase => nomatch phase

/-- A synth that the state reaches accepts it only when no returned panic
covers it. -/
theorem not_covered_of_accepted {state armed : MidiStateFrame} (panics : service.PanicsReach)
    (reaches : service.Reaches index state)
    (accepted : arms.accepted service index state = some armed) :
    armed = state ∧ ∀ call ∈ service.returned, ¬ Covers call state := by
  unfold arms.accepted at accepted
  cases found : service.synths[index]? with
  | none => simp [found] at accepted
  | some synth =>
      simp only [found] at accepted
      split_ifs at accepted with rejected
      cases accepted
      refine ⟨rfl, ?_⟩
      intro call member covers
      have watermark : service.watermark index = synth.ordering.staleUptoGeneration := by
        simp only [AudioOutputService.watermark, found]
      have below : state.context.publishGeneration ≤ service.watermark index := by
        rcases reaches with stale | addressed
        · exact stale
        · have isSynth := addressed call (panics.returned call member) covers
          exact covers.2.trans (panics.reached call member index isSynth)
      refine rejected (Or.inr (decide_eq_true ⟨covers.1, ?_⟩))
      rwa [← watermark]

/-- In every run in which no state is handed to a synth that was opened after a
panic covering it, no synth is armed with a state that a returned panic covers. -/
theorem panic_covers_synths (steps : List Step) (service : AudioOutputService) (action : Step)
    (armed : MidiStateFrame) (reached : run step initial steps = some service)
    (handed : Meets step Handed initial steps) (arming : service.arms action = some armed) :
    ∀ call ∈ service.returned, ¬ Covers call armed := by
  have invariant : service.Invariant := run_invariant
    (fun _ _ _ invariant permitted taken => Invariant.step invariant permitted taken)
    invariant_initial handed reached
  unfold arms at arming
  split at arming
  · split at arming
    · rename_i index configuration state updating
      have reaches := (invariant.2.fast index configuration state updating).2.2.2
      rcases not_covered_of_accepted invariant.1 reaches arming with ⟨rfl, uncovered⟩
      exact uncovered
    · cases arming
  · split at arming
    · rename_i generation configuration state index updating
      have reaches := (invariant.2.slow generation configuration state index updating).2
      rcases not_covered_of_accepted invariant.1 reaches arming with ⟨rfl, uncovered⟩
      exact uncovered
    · cases arming
  · cases arming

/-- A synth with one voice. -/
def smallSynth : SynthConfiguration := oneVoice

/-- One note of the tick with the given publish generation. -/
def noteOfTick (publishGeneration : Nat) : MidiStateFrame where
  notes := middleC
  context := FrameContext.first 1 publishGeneration
  sourceNodeId := 1
  active := middleC_active

/-- The service thread opens a synth for the pending state. -/
def openPending : List Step :=
  [.take, .apply, .closeOld none, .openSynth none, .install, .checkCurrent]

/-- A panic of generation 5 before a state of generation 6. -/
def panicThenPublish : List Step :=
  [.panic 5, .finishPanic ⟨5, none⟩, .publish smallSynth (noteOfTick 6)] ++ openPending

theorem panic_covers_synths_panicThenPublish :
    ∃ service, run step initial panicThenPublish = some service ∧
      service.arms (.updateSynth none) = some (noteOfTick 6) ∧
        ∀ call ∈ service.returned, ¬ Covers call (noteOfTick 6) := by
  have runs : (run step initial panicThenPublish).any (fun service =>
      decide (service.arms (.updateSynth none) = some (noteOfTick 6))) = true := by decide +kernel
  rcases (Option.any_eq_true _ _).mp runs with ⟨service, reached, arming⟩
  have handed : Meets step Handed initial panicThenPublish := by decide +kernel
  exact ⟨service, reached, of_decide_eq_true arming,
    panic_covers_synths panicThenPublish service (.updateSynth none) (noteOfTick 6) reached handed
      (of_decide_eq_true arming)⟩

/-- A panic of generation 5 that finds no synth, before the state of its tick. -/
def panicBeforeOpen : List Step :=
  [.panic 5, .finishPanic ⟨5, none⟩, .publish smallSynth (noteOfTick 5)] ++ openPending

theorem panic_misses_new_synth :
    ∃ service, run step initial panicBeforeOpen = some service ∧
      service.arms (.updateSynth none) = some (noteOfTick 5) ∧
        ∃ call ∈ service.returned, Covers call (noteOfTick 5) := by
  have armed : (run step initial panicBeforeOpen).any (fun service =>
      decide (service.arms (.updateSynth none) = some (noteOfTick 5) ∧
        ∃ call ∈ service.returned, Covers call (noteOfTick 5))) = true := by decide +kernel
  rcases (Option.any_eq_true _ _).mp armed with ⟨service, reached, holds⟩
  exact ⟨service, reached, of_decide_eq_true holds⟩

end AudioOutputService
end Nodes
end Synesthesia
