import Synesthesia.Midi.OutputService

namespace Synesthesia
namespace Midi
namespace MidiOutputService

open Foundation Contracts

/-!
# Panic ordering of the MIDI output service

Once the sender has ended a panic, no state that the panic covers may be
applied.  The sender drops the mailbox when it ends a panic, so only a
publication can bring a covered state back: one that passed its stale check
before the panic and is enqueued after the panic has ended.
-/

/-- A panic of this generation covers the state. -/
def Covers (publishGeneration : Nat) (desired : DesiredState) : Prop :=
  0 < desired.publishGeneration ∧ desired.publishGeneration ≤ publishGeneration

instance (publishGeneration : Nat) (desired : DesiredState) :
    Decidable (Covers publishGeneration desired) :=
  inferInstanceAs (Decidable (_ ∧ _))

/-- A panic whose request the sender has completed covers the state. -/
def CompletedCovers (service : MidiOutputService) (desired : DesiredState) : Prop :=
  ∃ request ∈ service.requests, request.request ≤ service.panicCompleted ∧
    Covers request.publishGeneration desired

instance (service : MidiOutputService) (desired : DesiredState) :
    Decidable (service.CompletedCovers desired) :=
  inferInstanceAs (Decidable (∃ request ∈ service.requests, _ ∧ _))

/-- A panic call that has returned covers the state. -/
def ReturnedCovers (service : MidiOutputService) (desired : DesiredState) : Prop :=
  ∃ publishGeneration ∈ service.returned, Covers publishGeneration desired

/-- The mailbox or the sender has the state. -/
def Carries (service : MidiOutputService) (desired : DesiredState) : Prop :=
  service.pending = some desired ∨ service.latest = some desired ∨
    service.sender = .applying desired

/-! ## The conditions on a step -/

/-- A locked enqueue finds no completed panic that covers its state. -/
def EnqueuesFresh (service : MidiOutputService) : Step → Prop
  | .enqueue desired => ¬ service.CompletedCovers desired
  | _ => True

/-- A panic call that finds the service closing, and so returns at once, does
not find the sender applying a state that it covers. -/
def ReturnsQuiet (service : MidiOutputService) : Step → Prop
  | .panic publishGeneration => (service.closing || service.closed) = true →
      ∀ desired, service.sender = .applying desired → ¬ Covers publishGeneration desired
  | _ => True

instance (service : MidiOutputService) (action : Step) :
    Decidable (service.EnqueuesFresh action) := by
  cases action <;> unfold EnqueuesFresh <;> infer_instance

/-! ## The watermark -/

/-- The watermark covers every panic that was requested. -/
def WatermarkCovers (service : MidiOutputService) : Prop :=
  ∀ request ∈ service.requests,
    request.publishGeneration ≤ service.ordering.staleUptoGeneration

theorem WatermarkCovers.recordPanic {service : MidiOutputService}
    (watermark : service.WatermarkCovers) (publishGeneration : Nat) :
    (service.recordPanic publishGeneration).WatermarkCovers := by
  intro request member
  rcases List.mem_cons.mp member with rfl | earlier
  · exact le_max_right _ _
  · exact (watermark request earlier).trans (le_max_left _ _)

/-- A state that passes the stale check is covered by no panic so far: only a
panic between the check and the enqueue makes the enqueue stale. -/
theorem WatermarkCovers.not_completedCovers {service : MidiOutputService}
    (watermark : service.WatermarkCovers) {desired : DesiredState}
    (passes : service.ordering.isStale desired.publishGeneration = false) :
    ¬ service.CompletedCovers desired := by
  rintro ⟨request, requested, _, positive, covered⟩
  have stale : service.ordering.isStale desired.publishGeneration = true :=
    decide_eq_true ⟨positive, covered.trans (watermark request requested)⟩
  rw [passes] at stale
  cases stale

variable {service next : MidiOutputService}

theorem WatermarkCovers.of_frame
    (watermark : service.WatermarkCovers) (requests : next.requests = service.requests)
    (ordering : next.ordering = service.ordering) : next.WatermarkCovers := by
  rw [WatermarkCovers, requests, ordering]
  exact watermark

/-- The sender neither requests a panic nor moves the watermark. -/
theorem WatermarkCovers.finish {service : MidiOutputService}
    (watermark : service.WatermarkCovers) (sender : Sender)
    (worked : Session × Session.Outcome) : (service.finish sender worked).WatermarkCovers := by
  rcases worked with ⟨session, outcome⟩
  cases outcome <;> exact watermark

theorem WatermarkCovers.step {action : Step}
    (watermark : service.WatermarkCovers) (taken : service.step action = some next) :
    next.WatermarkCovers := by
  cases action with
  | take refreshDue =>
      simp only [MidiOutputService.step, chooseAction] at taken
      split_ifs at taken
      · cases taken
        exact watermark
      · cases taken
        exact watermark
      · cases taken
        exact watermark
      · cases waiting : service.pending with
        | none => simp [waiting] at taken
        | some desired =>
            simp only [waiting, Option.some.injEq] at taken
            cases taken
            exact watermark
  | work backend =>
      simp only [MidiOutputService.step, senderWork] at taken
      split at taken
      · cases taken
      · cases taken
      · cases taken
        exact watermark
      · cases taken
        exact watermark
      · cases taken
        exact watermark
      · cases taken
        exact watermark.finish _ _
      · split at taken <;> cases taken <;> exact watermark
      · cases taken
        exact watermark.finish _ _
  | requestPanic publishGeneration =>
      simp only [MidiOutputService.step] at taken
      split_ifs at taken <;> cases taken
      · exact watermark
      · exact watermark.recordPanic publishGeneration
  | panic publishGeneration =>
      simp only [MidiOutputService.step] at taken
      split_ifs at taken <;> cases taken
      · exact watermark
      · exact watermark.recordPanic publishGeneration
  | checkStale desired =>
      simp only [MidiOutputService.step] at taken
      split_ifs at taken <;> cases taken <;> exact watermark
  | enqueue desired =>
      simp only [MidiOutputService.step] at taken
      split_ifs at taken <;> cases taken <;> exact watermark
  | panicReturn request =>
      simp only [MidiOutputService.step] at taken
      split_ifs at taken
      cases taken
      exact watermark
  | panicTimeout request =>
      simp only [MidiOutputService.step] at taken
      split_ifs at taken
      cases taken
      exact watermark
  | refreshOutputs =>
      simp only [MidiOutputService.step] at taken
      split_ifs at taken <;> cases taken <;> exact watermark
  | close =>
      simp only [MidiOutputService.step] at taken
      split_ifs at taken <;> cases taken <;> exact watermark

/-- In every run, a publication whose stale check passes now may be enqueued now. -/
theorem enqueuesFresh_of_check_passes (steps : List Step) (service : MidiOutputService)
    (reached : run step initial steps = some service) (desired : DesiredState)
    (passes : service.ordering.isStale desired.publishGeneration = false) :
    service.EnqueuesFresh (.enqueue desired) := by
  have watermark : service.WatermarkCovers := run_invariant
    (fun _ _ _ watermark _ taken => WatermarkCovers.step watermark taken)
    (fun _ member => absurd member List.not_mem_nil)
    (meets_of_forall (fun _ _ => trivial) initial steps) reached
  exact watermark.not_completedCovers passes

/-! ## The invariant of the sender's panics -/

/-- No carried state is covered by a completed panic; requests are numbered. -/
structure Ordered (service : MidiOutputService) : Prop where
  requests_le : ∀ request ∈ service.requests, request.request ≤ service.panicRequested
  completed_le : service.panicCompleted ≤ service.panicRequested
  panicking_le : ∀ request, service.sender = .panicking request →
    request ≤ service.panicRequested
  panicEnding_le : ∀ request, service.sender = .panicEnding request →
    request ≤ service.panicRequested
  fresh : ∀ desired, service.Carries desired → ¬ service.CompletedCovers desired

theorem ordered_initial : Ordered initial := by
  refine ⟨nofun, le_rfl, nofun, nofun, ?_⟩
  rintro desired (pending | latest | applying)
  · cases pending
  · cases latest
  · cases applying

variable (ordered : service.Ordered)
include ordered

/-- A new request is not completed yet, so it covers nothing so far. -/
theorem completedCovers_recordPanic (publishGeneration : Nat) (desired : DesiredState) :
    (service.recordPanic publishGeneration).CompletedCovers desired ↔
      service.CompletedCovers desired := by
  have completed := ordered.completed_le
  simp only [CompletedCovers, recordPanic, discardDesiredState, List.mem_cons,
    exists_eq_or_imp]
  rw [or_iff_right]
  rintro ⟨early, _⟩
  omega

theorem Ordered.recordPanic
    (publishGeneration : Nat) : (service.recordPanic publishGeneration).Ordered := by
  refine ⟨?_, Nat.le_succ_of_le ordered.completed_le, ?_, ?_, ?_⟩
  · intro request member
    rcases List.mem_cons.mp member with rfl | earlier
    · exact le_rfl
    · exact Nat.le_succ_of_le (ordered.requests_le request earlier)
  · exact fun request panicking => Nat.le_succ_of_le (ordered.panicking_le request panicking)
  · exact fun request ending => Nat.le_succ_of_le (ordered.panicEnding_le request ending)
  · rintro desired (pending | latest | applying)
    · cases pending
    · cases latest
    · rw [completedCovers_recordPanic ordered]
      exact ordered.fresh desired (Or.inr (Or.inr applying))

/-- A step that keeps the panic numbers and carries nothing new keeps the invariant. -/
theorem Ordered.of_frame (requests : next.requests = service.requests)
    (requested : next.panicRequested = service.panicRequested)
    (completed : next.panicCompleted = service.panicCompleted)
    (panicking : ∀ request, next.sender = .panicking request →
      service.sender = .panicking request ∨ request = service.panicRequested)
    (ending : ∀ request, next.sender = .panicEnding request →
      service.sender = .panicEnding request ∨ service.sender = .panicking request)
    (carries : ∀ desired, next.Carries desired → service.Carries desired) : next.Ordered := by
  have covers : ∀ desired, next.CompletedCovers desired ↔ service.CompletedCovers desired := by
    intro desired
    rw [CompletedCovers, CompletedCovers, requests, completed]
  refine ⟨?_, ?_, ?_, ?_, ?_⟩
  · rw [requests, requested]
    exact ordered.requests_le
  · rw [completed, requested]
    exact ordered.completed_le
  · intro request isPanicking
    rw [requested]
    rcases panicking request isPanicking with before | chosen
    · exact ordered.panicking_le request before
    · exact le_of_eq chosen
  · intro request isEnding
    rw [requested]
    rcases ending request isEnding with before | panicked
    · exact ordered.panicEnding_le request before
    · exact ordered.panicking_le request panicked
  · intro desired carried
    rw [covers]
    exact ordered.fresh desired (carries desired carried)

/-- A fresh state may be put into the mailbox. -/
theorem Ordered.put {desired : DesiredState} (fresh : ¬ service.CompletedCovers desired) :
    (service.put desired).Ordered := by
  refine ⟨ordered.requests_le, ordered.completed_le, ordered.panicking_le,
    ordered.panicEnding_le, ?_⟩
  rintro carried (pending | latest | applying)
  · cases pending
    exact fresh
  · cases latest
    exact fresh
  · exact ordered.fresh carried (Or.inr (Or.inr applying))

theorem Ordered.chooseAction
    {refreshDue : Bool} (chosen : service.chooseAction refreshDue = some next) :
    next.Ordered := by
  unfold MidiOutputService.chooseAction at chosen
  split_ifs at chosen
  · cases chosen
    refine ordered.of_frame rfl rfl rfl nofun nofun ?_
    rintro desired (pending | latest | applying)
    · exact Or.inl pending
    · exact Or.inr (Or.inl latest)
    · cases applying
  · cases chosen
    refine ordered.of_frame rfl rfl rfl ?_ nofun ?_
    · intro request panicking
      cases panicking
      exact Or.inr rfl
    · rintro desired (pending | latest | applying)
      · exact Or.inl pending
      · exact Or.inr (Or.inl latest)
      · cases applying
  · cases chosen
    refine ordered.of_frame rfl rfl rfl nofun nofun ?_
    rintro desired (pending | latest | applying)
    · exact Or.inl pending
    · exact Or.inr (Or.inl latest)
    · cases applying
  · cases waiting : service.pending with
    | none => simp [waiting] at chosen
    | some desired =>
        simp only [waiting, Option.some.injEq] at chosen
        cases chosen
        refine ordered.of_frame rfl rfl rfl nofun nofun ?_
        rintro carried (pending | latest | applying)
        · cases pending
        · exact Or.inr (Or.inl latest)
        · cases applying
          exact Or.inl waiting

/-- The end of an operation on the session keeps or drops the mailbox. -/
theorem Ordered.finish {sender : Sender} (worked : Session × Session.Outcome)
    (resting : sender = .idle ∨ sender = .readingLatest) :
    (service.finish sender worked).Ordered := by
  rcases worked with ⟨session, outcome⟩
  have mailbox : ∀ desired, (service.finish sender (session, outcome)).Carries desired →
      service.Carries desired := by
    rintro desired (pending | latest | applying)
    · cases outcome with
      | ready => exact Or.inl pending
      | skipped => exact Or.inl pending
      | discarded => cases pending
    · cases outcome with
      | ready => exact Or.inr (Or.inl latest)
      | skipped => exact Or.inr (Or.inl latest)
      | discarded => cases latest
    · rcases resting with rfl | rfl <;> cases outcome <;> cases applying
  have sent : (service.finish sender (session, outcome)).sender = sender := by
    cases outcome <;> rfl
  refine ordered.of_frame ?_ ?_ ?_ ?_ ?_ mailbox
  · cases outcome <;> rfl
  · cases outcome <;> rfl
  · cases outcome <;> rfl
  · intro request panicking
    rw [sent] at panicking
    rcases resting with rfl | rfl <;> cases panicking
  · intro request ending
    rw [sent] at ending
    rcases resting with rfl | rfl <;> cases ending

/-- The sender drops the mailbox when it ends a panic, so nothing that it
covers is left to be applied. -/
theorem Ordered.endPanic {request : Nat} (ending : service.sender = .panicEnding request) :
    Ordered { service.discardDesiredState with
      panicCompleted := max service.panicCompleted request
      sender := .idle } := by
  refine ⟨ordered.requests_le,
    max_le ordered.completed_le (ordered.panicEnding_le request ending), nofun, nofun, ?_⟩
  rintro desired (pending | latest | applying)
  · cases pending
  · cases latest
  · cases applying

theorem Ordered.senderWork
    {backend : Backend} (worked : service.senderWork backend = some next) : next.Ordered := by
  unfold MidiOutputService.senderWork at worked
  cases at_ : service.sender with
  | idle => simp [at_] at worked
  | stopped => simp [at_] at worked
  | closing =>
      simp only [at_, Option.some.injEq] at worked
      subst worked
      refine ordered.of_frame rfl rfl rfl nofun nofun ?_
      rintro desired (pending | latest | applying)
      · exact Or.inl pending
      · exact Or.inr (Or.inl latest)
      · cases applying
  | panicking request =>
      simp only [at_, Option.some.injEq] at worked
      subst worked
      refine ordered.of_frame rfl rfl rfl nofun ?_ ?_
      · intro other ending
        cases ending
        exact Or.inr at_
      · rintro desired (pending | latest | applying)
        · exact Or.inl pending
        · exact Or.inr (Or.inl latest)
        · cases applying
  | panicEnding request =>
      simp only [at_, Option.some.injEq] at worked
      subst worked
      exact ordered.endPanic at_
  | refreshing =>
      simp only [at_, Option.some.injEq] at worked
      subst worked
      exact ordered.finish _ (Or.inr rfl)
  | readingLatest =>
      cases newest : service.latest with
      | none =>
          simp only [at_, newest, Option.some.injEq] at worked
          subst worked
          refine ordered.of_frame rfl rfl rfl nofun nofun ?_
          rintro desired (pending | latest | applying)
          · exact Or.inl pending
          · exact Or.inr (Or.inl (newest.trans latest))
          · cases applying
      | some desired =>
          simp only [at_, newest, Option.some.injEq] at worked
          subst worked
          refine ordered.of_frame rfl rfl rfl nofun nofun ?_
          rintro carried (pending | latest | applying)
          · exact Or.inl pending
          · exact Or.inr (Or.inl (newest.trans latest))
          · cases applying
            exact Or.inr (Or.inl newest)
  | applying desired =>
      simp only [at_, Option.some.injEq] at worked
      subst worked
      exact ordered.finish _ (Or.inl rfl)

/-- Every step keeps the invariant when an enqueue is fresh. -/
theorem Ordered.step {action : Step} (permitted : service.EnqueuesFresh action)
    (taken : service.step action = some next) : next.Ordered := by
  have unchanged : ∀ desired, service.Carries desired → service.Carries desired :=
    fun _ carried => carried
  cases action with
  | checkStale desired =>
      simp only [MidiOutputService.step] at taken
      split_ifs at taken
      · cases taken
        exact ordered
      · cases taken
        exact ordered.of_frame rfl rfl rfl (fun _ => Or.inl) (fun _ => Or.inl) unchanged
  | enqueue desired =>
      simp only [MidiOutputService.step] at taken
      split_ifs at taken
      · cases taken
        exact ordered.of_frame rfl rfl rfl (fun _ => Or.inl) (fun _ => Or.inl) unchanged
      · cases taken
        refine Ordered.put ?_ permitted
        exact ordered.of_frame rfl rfl rfl (fun _ => Or.inl) (fun _ => Or.inl) unchanged
  | requestPanic publishGeneration =>
      simp only [MidiOutputService.step] at taken
      split_ifs at taken
      · cases taken
        exact ordered
      · cases taken
        exact ordered.recordPanic publishGeneration
  | panic publishGeneration =>
      simp only [MidiOutputService.step] at taken
      split_ifs at taken
      · cases taken
        exact ordered.of_frame rfl rfl rfl (fun _ => Or.inl) (fun _ => Or.inl) unchanged
      · cases taken
        exact (ordered.recordPanic publishGeneration).of_frame rfl rfl rfl (fun _ => Or.inl)
          (fun _ => Or.inl) (fun _ carried => carried)
  | panicReturn request =>
      simp only [MidiOutputService.step] at taken
      split_ifs at taken
      cases taken
      exact ordered.of_frame rfl rfl rfl (fun _ => Or.inl) (fun _ => Or.inl) unchanged
  | panicTimeout request =>
      simp only [MidiOutputService.step] at taken
      split_ifs at taken
      cases taken
      exact ordered.of_frame rfl rfl rfl (fun _ => Or.inl) (fun _ => Or.inl) unchanged
  | refreshOutputs =>
      simp only [MidiOutputService.step] at taken
      split_ifs at taken
      · cases taken
        exact ordered
      · cases taken
        exact ordered.of_frame rfl rfl rfl (fun _ => Or.inl) (fun _ => Or.inl) unchanged
  | close =>
      simp only [MidiOutputService.step] at taken
      split_ifs at taken
      · cases taken
        exact ordered
      · cases taken
        refine ordered.of_frame rfl rfl rfl (fun _ => Or.inl) (fun _ => Or.inl) ?_
        rintro desired (pending | latest | applying)
        · cases pending
        · cases latest
        · exact Or.inr (Or.inr applying)
  | take refreshDue =>
      simp only [MidiOutputService.step] at taken
      split_ifs at taken
      exact ordered.chooseAction taken
  | work backend => exact ordered.senderWork taken

omit ordered

/-! ## The invariant of returned panic calls -/

/-- While the service is open, every panic call that has returned was
completed; once it closes, the mailbox stays empty. -/
structure Settled (service : MidiOutputService) : Prop where
  waiting_requested : ∀ request ∈ service.waiting, request ∈ service.requests
  closing_empty : service.closing = true → service.pending = none ∧ service.latest = none
  closing_sender : service.sender = .closing → service.closing = true
  closed_stopped : service.closed = true → service.closing = true ∧ service.sender = .stopped
  returned_completed : service.closing = false → ∀ publishGeneration ∈ service.returned,
    ∃ request ∈ service.requests, request.publishGeneration = publishGeneration ∧
      request.request ≤ service.panicCompleted
  quiet : ∀ desired, service.Carries desired → ¬ service.ReturnedCovers desired

theorem settled_initial : Settled initial := by
  refine ⟨nofun, nofun, nofun, nofun, nofun, ?_⟩
  rintro desired _ ⟨publishGeneration, member, _⟩
  cases member

/-- The service refuses work exactly from the start of its close. -/
theorem Settled.refuses_iff {service : MidiOutputService} (settled : service.Settled) :
    (service.closing || service.closed) = true ↔ service.closing = true := by
  rw [Bool.or_eq_true]
  exact ⟨fun either => either.elim id (fun closed => (settled.closed_stopped closed).1), Or.inl⟩

/-- A step without a returning call, which carries nothing new. -/
theorem Settled.of_frame (settled : service.Settled)
    (waiting : ∀ request ∈ next.waiting, request ∈ service.waiting ∨ request ∈ next.requests)
    (requests : ∀ request ∈ service.requests, request ∈ next.requests)
    (completed : service.panicCompleted ≤ next.panicCompleted)
    (returned : next.returned = service.returned) (closing : next.closing = service.closing)
    (closed : next.closed = service.closed)
    (stopped : service.sender = .stopped → next.sender = .stopped)
    (closer : next.sender = .closing → service.sender = .closing ∨ service.closing = true)
    (emptied : service.pending = none ∧ service.latest = none →
      next.pending = none ∧ next.latest = none)
    (carries : ∀ desired, next.Carries desired → service.Carries desired) : next.Settled := by
  refine ⟨?_, ?_, ?_, ?_, ?_, ?_⟩
  · intro request member
    rcases waiting request member with before | new
    · exact requests request (settled.waiting_requested request before)
    · exact new
  · rw [closing]
    exact fun isClosing => emptied (settled.closing_empty isClosing)
  · rw [closing]
    exact fun isCloser => (closer isCloser).elim settled.closing_sender id
  · rw [closing, closed]
    exact fun isClosed => ⟨(settled.closed_stopped isClosed).1,
      stopped (settled.closed_stopped isClosed).2⟩
  · rw [closing, returned]
    intro isOpen publishGeneration member
    rcases settled.returned_completed isOpen publishGeneration member with
      ⟨request, requested, generation, done⟩
    exact ⟨request, requests request requested, generation, done.trans completed⟩
  · intro desired carried
    rw [ReturnedCovers, returned]
    exact settled.quiet desired (carries desired carried)

theorem Settled.recordPanic {service : MidiOutputService} (settled : service.Settled)
    (publishGeneration : Nat) : (service.recordPanic publishGeneration).Settled := by
  refine settled.of_frame (fun _ => Or.inl) (fun request => List.mem_cons_of_mem _) le_rfl rfl rfl
    rfl id Or.inl (fun _ => ⟨rfl, rfl⟩) ?_
  rintro desired (pending | latest | applying)
  · cases pending
  · cases latest
  · exact Or.inr (Or.inr applying)

theorem Settled.chooseAction (settled : service.Settled)
    {refreshDue : Bool} (idle : service.sender = .idle)
    (chosen : service.chooseAction refreshDue = some next) : next.Settled := by
  have running : service.sender = .stopped → next.sender = .stopped := by
    rw [idle]
    exact nofun
  unfold MidiOutputService.chooseAction at chosen
  split_ifs at chosen with isClosing
  · cases chosen
    refine settled.of_frame (fun _ => Or.inl) (fun _ => id) le_rfl rfl rfl rfl running
      (fun _ => Or.inr isClosing) id ?_
    rintro desired (pending | latest | applying)
    · exact Or.inl pending
    · exact Or.inr (Or.inl latest)
    · cases applying
  · cases chosen
    refine settled.of_frame (fun _ => Or.inl) (fun _ => id) le_rfl rfl rfl rfl running nofun id ?_
    rintro desired (pending | latest | applying)
    · exact Or.inl pending
    · exact Or.inr (Or.inl latest)
    · cases applying
  · cases chosen
    refine settled.of_frame (fun _ => Or.inl) (fun _ => id) le_rfl rfl rfl rfl running nofun id ?_
    rintro desired (pending | latest | applying)
    · exact Or.inl pending
    · exact Or.inr (Or.inl latest)
    · cases applying
  · cases waiting : service.pending with
    | none => simp [waiting] at chosen
    | some desired =>
        simp only [waiting, Option.some.injEq] at chosen
        cases chosen
        refine settled.of_frame (fun _ => Or.inl) (fun _ => id) le_rfl rfl rfl rfl running nofun
          (fun empty => ⟨rfl, empty.2⟩) ?_
        rintro carried (pending | latest | applying)
        · cases pending
        · exact Or.inr (Or.inl latest)
        · cases applying
          exact Or.inl waiting

theorem Settled.finish {service : MidiOutputService} (settled : service.Settled)
    {sender : Sender} (worked : Session × Session.Outcome)
    (running : service.sender ≠ .stopped) (resting : sender = .idle ∨ sender = .readingLatest) :
    (service.finish sender worked).Settled := by
  rcases worked with ⟨session, outcome⟩
  have sent : (service.finish sender (session, outcome)).sender = sender := by
    cases outcome <;> rfl
  refine settled.of_frame ?_ ?_ ?_ ?_ ?_ ?_ (fun stopped => absurd stopped running) ?_ ?_ ?_
  · cases outcome <;> exact fun _ => Or.inl
  · cases outcome <;> exact fun _ => id
  · cases outcome <;> exact le_rfl
  · cases outcome <;> rfl
  · cases outcome <;> rfl
  · cases outcome <;> rfl
  · intro closer
    rw [sent] at closer
    rcases resting with rfl | rfl <;> cases closer
  · cases outcome with
    | ready => exact id
    | skipped => exact id
    | discarded => exact fun _ => ⟨rfl, rfl⟩
  · rintro desired (pending | latest | applying)
    · cases outcome with
      | ready => exact Or.inl pending
      | skipped => exact Or.inl pending
      | discarded => cases pending
    · cases outcome with
      | ready => exact Or.inr (Or.inl latest)
      | skipped => exact Or.inr (Or.inl latest)
      | discarded => cases latest
    · rw [sent] at applying
      rcases resting with rfl | rfl <;> cases applying

theorem Settled.senderWork (settled : service.Settled)
    {backend : Backend} (worked : service.senderWork backend = some next) : next.Settled := by
  unfold MidiOutputService.senderWork at worked
  cases at_ : service.sender with
  | idle => simp [at_] at worked
  | stopped => simp [at_] at worked
  | closing =>
      -- the close empties the mailbox before and stops the sender here
      have isClosing := settled.closing_sender at_
      simp only [at_, Option.some.injEq] at worked
      subst worked
      refine ⟨settled.waiting_requested, settled.closing_empty, nofun, fun _ => ⟨isClosing, rfl⟩,
        settled.returned_completed, ?_⟩
      rintro desired (pending | latest | applying)
      · exact settled.quiet desired (Or.inl pending)
      · exact settled.quiet desired (Or.inr (Or.inl latest))
      · cases applying
  | panicking request =>
      simp only [at_, Option.some.injEq] at worked
      subst worked
      refine settled.of_frame (fun _ => Or.inl) (fun _ => id) le_rfl rfl rfl rfl
        (fun stopped => by rw [at_] at stopped; cases stopped) nofun id ?_
      rintro desired (pending | latest | applying)
      · exact Or.inl pending
      · exact Or.inr (Or.inl latest)
      · cases applying
  | panicEnding request =>
      simp only [at_, Option.some.injEq] at worked
      subst worked
      refine settled.of_frame (fun _ => Or.inl) (fun _ => id) (le_max_left _ _) rfl rfl rfl
        (fun stopped => by rw [at_] at stopped; cases stopped) nofun (fun _ => ⟨rfl, rfl⟩) ?_
      rintro desired (pending | latest | applying)
      · cases pending
      · cases latest
      · cases applying
  | refreshing =>
      simp only [at_, Option.some.injEq] at worked
      subst worked
      exact settled.finish _ (by rw [at_]; exact nofun) (Or.inr rfl)
  | readingLatest =>
      have running : ∀ sender, service.sender = .stopped → sender = Sender.stopped :=
        fun sender stopped => by rw [at_] at stopped; cases stopped
      cases newest : service.latest with
      | none =>
          simp only [at_, newest, Option.some.injEq] at worked
          subst worked
          refine settled.of_frame (fun _ => Or.inl) (fun _ => id) le_rfl rfl rfl rfl (running _)
            nofun (fun empty => ⟨empty.1, rfl⟩) ?_
          rintro desired (pending | latest | applying)
          · exact Or.inl pending
          · exact Or.inr (Or.inl (newest.trans latest))
          · cases applying
      | some desired =>
          simp only [at_, newest, Option.some.injEq] at worked
          subst worked
          refine settled.of_frame (fun _ => Or.inl) (fun _ => id) le_rfl rfl rfl rfl (running _)
            nofun (fun empty => ⟨empty.1, newest.symm.trans empty.2⟩) ?_
          rintro carried (pending | latest | applying)
          · exact Or.inl pending
          · exact Or.inr (Or.inl (newest.trans latest))
          · cases applying
            exact Or.inr (Or.inl newest)
  | applying desired =>
      simp only [at_, Option.some.injEq] at worked
      subst worked
      exact settled.finish _ (by rw [at_]; exact nofun) (Or.inl rfl)

/-- Every step keeps the invariant when enqueues are fresh and no panic call
returns at once from a service that still applies what it covers. -/
theorem Settled.step {action : Step}
    (ordered : service.Ordered) (settled : service.Settled)
    (fresh : service.EnqueuesFresh action) (quiet : service.ReturnsQuiet action)
    (taken : service.step action = some next) : next.Settled := by
  have same : ∀ desired, service.Carries desired → service.Carries desired :=
    fun _ carried => carried
  cases action with
  | checkStale desired =>
      simp only [MidiOutputService.step] at taken
      split_ifs at taken
      · cases taken
        exact settled
      · cases taken
        exact settled.of_frame (fun _ => Or.inl) (fun _ => id) le_rfl rfl rfl rfl id Or.inl id same
  | enqueue desired =>
      simp only [MidiOutputService.step] at taken
      split_ifs at taken with absent refused
      · cases taken
        exact settled.of_frame (fun _ => Or.inl) (fun _ => id) le_rfl rfl rfl rfl id Or.inl id same
      · cases taken
        have isOpen : service.closing = false := by
          rw [← Bool.not_eq_true]
          exact fun isClosing => refused (settled.refuses_iff.mpr isClosing)
        refine ⟨settled.waiting_requested, ?_, settled.closing_sender, settled.closed_stopped,
          settled.returned_completed, ?_⟩
        · exact fun isClosing => absurd (settled.refuses_iff.mpr isClosing) refused
        · have notReturned : ¬ service.ReturnedCovers desired := by
            rintro ⟨publishGeneration, returned, covers⟩
            rcases settled.returned_completed isOpen publishGeneration returned with
              ⟨request, requested, rfl, done⟩
            exact fresh ⟨request, requested, done, covers⟩
          rintro carried (pending | latest | applying)
          · cases pending
            exact notReturned
          · cases latest
            exact notReturned
          · exact settled.quiet carried (Or.inr (Or.inr applying))
  | requestPanic publishGeneration =>
      simp only [MidiOutputService.step] at taken
      split_ifs at taken
      · cases taken
        exact settled
      · cases taken
        exact settled.recordPanic publishGeneration
  | panic publishGeneration =>
      simp only [MidiOutputService.step] at taken
      split_ifs at taken with refused
      · cases taken
        have isClosing := settled.refuses_iff.mp refused
        refine ⟨settled.waiting_requested, settled.closing_empty, settled.closing_sender,
          settled.closed_stopped, fun isOpen => absurd isClosing (by rw [isOpen]; decide), ?_⟩
        intro desired carried
        rintro ⟨generation, member, covers⟩
        rcases List.mem_cons.mp member with rfl | before
        · rcases settled.closing_empty isClosing with ⟨noPending, noLatest⟩
          rcases carried with pending | latest | applying
          · exact nomatch noPending.symm.trans pending
          · exact nomatch noLatest.symm.trans latest
          · exact quiet refused desired applying covers
        · exact settled.quiet desired carried ⟨generation, before, covers⟩
      · cases taken
        refine (settled.recordPanic publishGeneration).of_frame ?_ (fun _ => id) le_rfl rfl rfl rfl
          id Or.inl id (fun _ carried => carried)
        intro request member
        rcases List.mem_cons.mp member with rfl | before
        · exact Or.inr List.mem_cons_self
        · exact Or.inl before
  | panicReturn request =>
      simp only [MidiOutputService.step] at taken
      split_ifs at taken with done
      cases taken
      rcases done with ⟨waiting, completed | isClosed⟩
      · refine ⟨fun other member => settled.waiting_requested other (List.mem_of_mem_erase member),
          settled.closing_empty, settled.closing_sender, settled.closed_stopped, ?_, ?_⟩
        · intro isOpen generation member
          rcases List.mem_cons.mp member with rfl | before
          · exact ⟨request, settled.waiting_requested request waiting, rfl, completed⟩
          · exact settled.returned_completed isOpen generation before
        · intro desired carried
          rintro ⟨generation, member, covers⟩
          rcases List.mem_cons.mp member with rfl | before
          · exact ordered.fresh desired carried
              ⟨request, settled.waiting_requested request waiting, completed, covers⟩
          · exact settled.quiet desired carried ⟨generation, before, covers⟩
      · rcases settled.closed_stopped isClosed with ⟨isClosing, isStopped⟩
        refine ⟨fun other member => settled.waiting_requested other (List.mem_of_mem_erase member),
          settled.closing_empty, settled.closing_sender, settled.closed_stopped,
          fun isOpen => absurd isClosing (by rw [isOpen]; decide), ?_⟩
        -- nothing is carried any more
        rcases settled.closing_empty isClosing with ⟨noPending, noLatest⟩
        rintro desired (pending | latest | applying)
        · exact nomatch noPending.symm.trans pending
        · exact nomatch noLatest.symm.trans latest
        · exact nomatch isStopped.symm.trans applying
  | panicTimeout request =>
      simp only [MidiOutputService.step] at taken
      split_ifs at taken
      cases taken
      exact settled.of_frame (fun _ member => Or.inl (List.mem_of_mem_erase member)) (fun _ => id)
        le_rfl rfl rfl rfl id Or.inl id same
  | refreshOutputs =>
      simp only [MidiOutputService.step] at taken
      split_ifs at taken
      · cases taken
        exact settled
      · cases taken
        exact settled.of_frame (fun _ => Or.inl) (fun _ => id) le_rfl rfl rfl rfl id Or.inl id same
  | close =>
      simp only [MidiOutputService.step] at taken
      split_ifs at taken with refused
      · cases taken
        exact settled
      · cases taken
        refine ⟨settled.waiting_requested, fun _ => ⟨rfl, rfl⟩, fun _ => rfl,
          fun isClosed => ⟨rfl, (settled.closed_stopped isClosed).2⟩, nofun, ?_⟩
        rintro desired (pending | latest | applying)
        · cases pending
        · cases latest
        · exact settled.quiet desired (Or.inr (Or.inr applying))
  | take refreshDue =>
      simp only [MidiOutputService.step] at taken
      split_ifs at taken with idle
      exact settled.chooseAction idle taken
  | work backend => exact settled.senderWork taken

/-! ## Panic ordering -/

def Invariant (service : MidiOutputService) : Prop := service.Ordered ∧ service.Settled

/-- In every run whose enqueues find no completed panic that covers their
state, the sender never applies a state that a completed panic covers; and if
no panic call returns early from a closing service that is applying what it
covers, neither does it apply a state that a returned panic call covers. -/
theorem panic_ordering (steps : List Step) (service : MidiOutputService)
    (reached : run step initial steps = some service)
    (fresh : Meets step EnqueuesFresh initial steps) :
    (∀ desired, service.sender = .applying desired → ¬ service.CompletedCovers desired) ∧
      (Meets step ReturnsQuiet initial steps →
        ∀ desired, service.sender = .applying desired → ¬ service.ReturnedCovers desired) := by
  constructor
  · have ordered : service.Ordered := run_invariant
      (fun _ _ _ ordered permitted taken => Ordered.step ordered permitted taken)
      ordered_initial fresh reached
    exact fun desired applying => ordered.fresh desired (Or.inr (Or.inr applying))
  · intro quiet
    have both : Invariant service := run_invariant
      (fun _ _ _ invariant permitted taken =>
        ⟨invariant.1.step permitted.1 taken,
          invariant.2.step invariant.1 permitted.1 permitted.2 taken⟩)
      (show Invariant initial from ⟨ordered_initial, settled_initial⟩) (fresh.and quiet) reached
    exact fun desired applying => both.2.quiet desired (Or.inr (Or.inr applying))

/-- A desired state of generation 5. -/
def fifthState : DesiredState where
  notes := middleC
  configuration := ⟨"out", .ignoreWhileHeld, 4⟩
  publishGeneration := 5
  active := middleC_active

/-- A backend with one port where nothing fails. -/
def healthyBackend : Backend where
  enumerate := .ok [("out", "out")]
  openOutput _ := none
  sendFault _ := none

/-- The same notes, published after a panic of generation 5. -/
def sixthState : DesiredState := { fifthState with publishGeneration := 6 }

/-- A publication that is enqueued before the panic, which then completes, and a
newer one that the sender takes up afterwards. -/
def panicAfterPublish : List Step := [
  .checkStale fifthState, .enqueue fifthState, .panic 5, .take false, .work healthyBackend,
  .work healthyBackend, .panicReturn ⟨1, 5⟩, .checkStale sixthState, .enqueue sixthState,
  .take false, .work healthyBackend, .work healthyBackend]

theorem panicAfterPublish_quiet : Meets step ReturnsQuiet initial panicAfterPublish :=
  ⟨trivial, trivial, nofun, trivial, trivial, trivial, trivial, trivial, trivial, trivial, trivial,
    trivial, trivial⟩

theorem panic_ordering_panicAfterPublish :
    ∃ service, run step initial panicAfterPublish = some service ∧
      service.sender = .applying sixthState ∧ 5 ∈ service.returned ∧
      ¬ service.CompletedCovers sixthState ∧ ¬ service.ReturnedCovers sixthState := by
  have applied : (run step initial panicAfterPublish).any (fun service =>
      decide (service.sender = .applying sixthState ∧ 5 ∈ service.returned)) = true := by
    decide +kernel
  rcases (Option.any_eq_true _ _).mp applied with ⟨service, reached, holds⟩
  rcases of_decide_eq_true holds with ⟨applying, returned⟩
  have fresh : Meets step EnqueuesFresh initial panicAfterPublish := by decide +kernel
  have ordering := panic_ordering panicAfterPublish service reached fresh
  exact ⟨service, reached, applying, returned, ordering.1 sixthState applying,
    ordering.2 panicAfterPublish_quiet sixthState applying⟩

/-- A publication that passes its stale check before the panic and is enqueued
after the panic has completed; the refresh then applies it. -/
def publishAcrossPanic : List Step := [
  .checkStale fifthState, .panic 5, .take false, .work healthyBackend, .work healthyBackend,
  .panicReturn ⟨1, 5⟩, .enqueue fifthState, .take false, .work healthyBackend,
  .work healthyBackend]

theorem stale_publication_is_applied :
    ∃ service, run step initial publishAcrossPanic = some service ∧
      service.sender = .applying fifthState ∧ service.CompletedCovers fifthState ∧
        service.ReturnedCovers fifthState := by
  have applied : (run step initial publishAcrossPanic).any (fun service =>
      decide (service.sender = .applying fifthState ∧ service.CompletedCovers fifthState ∧
        5 ∈ service.returned)) = true := by decide +kernel
  rcases (Option.any_eq_true _ _).mp applied with ⟨service, reached, holds⟩
  rcases of_decide_eq_true holds with ⟨applying, covered, returned⟩
  exact ⟨service, reached, applying, covered, 5, returned, by decide⟩

end MidiOutputService
end Midi
end Synesthesia
