import Mathlib
import Synesthesia.Ui.AutosaveController

namespace Synesthesia
namespace Ui

open Foundation Contracts

/-!
# The writes of the autosave in flight

The directory after the worker's queue is what every step of the controller
decides; a step of the worker only brings the disk nearer to it.  No waiting
snapshot and no end of a write is ever lost.
-/

variable {Content : Type*}

/-! ## The directory after the queue -/

/-- The directory once the calls have run, in order. -/
def settle (disk : RecoveryDirectory Content) (tasks : List (Nat × StoreTask Content)) :
    RecoveryDirectory Content :=
  tasks.foldl (fun disk entry => entry.2.apply disk) disk

theorem settle_append (disk : RecoveryDirectory Content)
    (before after : List (Nat × StoreTask Content)) :
    settle disk (before ++ after) = settle (settle disk before) after :=
  List.foldl_append

/-- At one document, the calls either change nothing or leave what does not
depend on the directory they start from. -/
theorem settle_at (tasks : List (Nat × StoreTask Content)) (documentId : UUID) :
    (∀ disk, settle disk tasks documentId = disk documentId) ∨
      ∃ file, ∀ disk, settle disk tasks documentId = file := by
  induction tasks with
  | nil => exact Or.inl (fun disk => rfl)
  | cons entry rest ih =>
      rcases ih with kept | ⟨file, fixed⟩
      · have first : ∀ disk, settle disk (entry :: rest) documentId =
            entry.2.apply disk documentId := fun disk => kept (entry.2.apply disk)
        cases task : entry.2 with
        | save request =>
            by_cases same : documentId = request.snapshot.documentId
            · refine Or.inr ⟨some (.saved request), ?_⟩
              intro disk
              rw [first, task, StoreTask.apply, same, Function.update_self]
            · refine Or.inl ?_
              intro disk
              rw [first, task, StoreTask.apply, Function.update_of_ne same]
        | discard discarded =>
            by_cases same : documentId = discarded
            · refine Or.inr ⟨none, ?_⟩
              intro disk
              rw [first, task, StoreTask.apply, same, Function.update_self]
            · refine Or.inl ?_
              intro disk
              rw [first, task, StoreTask.apply, Function.update_of_ne same]
      · exact Or.inr ⟨file, fun disk => fixed (entry.2.apply disk)⟩

namespace AutosaveState

/-- The directory that the queued calls will leave. -/
def eventual (state : AutosaveState Content) : RecoveryDirectory Content :=
  settle state.disk state.queue

@[simp] theorem eventual_submit (state : AutosaveState Content) (task : StoreTask Content) :
    (state.submit task).eventual = task.apply state.eventual :=
  settle_append _ _ _

variable {state : AutosaveState Content}

/-- A discard concerns no other record. -/
theorem eventual_discardRecord_of_ne {documentId other : UUID}
    (different : other ≠ documentId) :
    (state.discardRecord documentId).eventual other = state.eventual other := by
  rw [discardRecord, eventual_submit, StoreTask.apply, Function.update_of_ne different]
  rfl

theorem eventual_discardRecord_self (state : AutosaveState Content) (documentId : UUID) :
    (state.discardRecord documentId).eventual documentId = none := by
  rw [discardRecord, eventual_submit, StoreTask.apply, Function.update_self]

/-- A save concerns no other record. -/
theorem eventual_start_of_ne {request : AutosaveRequest Content}
    {other : UUID} (different : other ≠ request.snapshot.documentId) :
    (state.start request).eventual other = state.eventual other := by
  change (state.submit (.save request)).eventual other = _
  rw [eventual_submit, StoreTask.apply, Function.update_of_ne different]

theorem eventual_start_self (state : AutosaveState Content) (request : AutosaveRequest Content) :
    (state.start request).eventual request.snapshot.documentId = some (.saved request) := by
  change (state.submit (.save request)).eventual _ = _
  rw [eventual_submit, StoreTask.apply, Function.update_self]

/-! ## Rules for the flush -/

theorem autosaveActiveFor_eq_false {documentId : UUID} :
    state.autosaveActiveFor documentId = false ↔
      (∀ request ∈ state.current, request.snapshot.documentId ≠ documentId) ∧
        ∀ request ∈ state.pending, request.snapshot.documentId ≠ documentId := by
  rw [autosaveActiveFor, Bool.or_eq_false_iff, Option.any_eq_false, Option.any_eq_false]
  simp only [decide_eq_false_iff_not]
  exact Iff.rfl

/-- What survives every discard of an idle document survives the flush of the
deferred ones. -/
theorem flushDeferred_preserves {Holds : AutosaveState Content → Prop}
    {documentIds : List UUID}
    (each : ∀ state, ∀ documentId ∈ documentIds, Holds state →
      state.autosaveActiveFor documentId = false → Holds (state.discardRecord documentId))
    (holds : Holds state) :
    Holds (state.flushDeferred documentIds) := by
  induction documentIds generalizing state with
  | nil => exact holds
  | cons documentId rest ih =>
      have later := fun state other member =>
        each state other (List.mem_cons_of_mem documentId member)
      rw [flushDeferred]
      by_cases active : state.autosaveActiveFor documentId = true
      · rw [if_pos active]
        exact ih later holds
      · rw [if_neg active]
        exact ih later
          (each state documentId List.mem_cons_self holds (Bool.not_eq_true _ ▸ active))

/-- The clean document is discarded, or nothing happens. -/
theorem flushClean_cases (state : AutosaveState Content) :
    (state.isDirty = false ∧ state.document.documentId ∈ state.trackedDocuments ∧
        state.flushClean = state.discardRecord state.document.documentId) ∨
      ((state.isDirty = false → state.document.documentId ∉ state.trackedDocuments) ∧
        state.flushClean = state) := by
  rw [flushClean]
  by_cases clean : state.isDirty = false ∧ state.document.documentId ∈ state.trackedDocuments
  · rw [if_pos clean]
    exact Or.inl ⟨clean.1, clean.2, rfl⟩
  · rw [if_neg clean]
    exact Or.inr ⟨fun isClean member => clean ⟨isClean, member⟩, rfl⟩

/-- What no discard changes. -/
structure Keeps (state next : AutosaveState Content) : Prop where
  pending : next.pending = state.pending
  future : next.future = state.future
  document : next.document = state.document
  isDirty : next.isDirty = state.isDirty
  newest : next.newest = state.newest

theorem flushSettledDiscards_keeps (state : AutosaveState Content) :
    Keeps state state.flushSettledDiscards := by
  apply flushDeferred_preserves
  · intro next documentId _ keeps _
    exact ⟨keeps.pending, keeps.future, keeps.document, keeps.isDirty, keeps.newest⟩
  · rcases flushClean_cases state with ⟨_, _, same⟩ | ⟨_, same⟩ <;> rw [same] <;>
      exact ⟨rfl, rfl, rfl, rfl, rfl⟩

/-! ## Every waiting snapshot is on its way -/

/-- A snapshot waits only behind a write, and a write is queued or reported. -/
structure Flies (state : AutosaveState Content) : Prop where
  waits : state.pending.isSome → state.future.isSome
  names : state.current.isSome → state.future.isSome
  flies : ∀ future, state.future = some future →
    (∃ request, (future, .save request) ∈ state.queue) ∨ future ∈ state.finished

theorem Flies.discardRecord (flies : state.Flies)
    (documentId : UUID) : (state.discardRecord documentId).Flies := by
  refine ⟨flies.waits, flies.names, ?_⟩
  intro future running
  rcases flies.flies future running with ⟨request, member⟩ | reported
  · exact Or.inl ⟨request, List.mem_append_left _ member⟩
  · exact Or.inr reported

theorem Flies.flushSettledDiscards (flies : state.Flies) :
    state.flushSettledDiscards.Flies := by
  apply flushDeferred_preserves (fun _ documentId _ kept _ => kept.discardRecord documentId)
  rcases flushClean_cases state with ⟨_, _, same⟩ | ⟨_, same⟩
  · rw [same]
    exact flies.discardRecord _
  · rw [same]
    exact flies

theorem flies_start (request : AutosaveRequest Content) :
    (state.start request).Flies := by
  refine ⟨fun _ => rfl, fun _ => rfl, ?_⟩
  intro future running
  cases running
  exact Or.inl ⟨request, List.mem_append_right _ List.mem_cons_self⟩

theorem Flies.request (flies : state.Flies)
    (request : AutosaveRequest Content) : (state.request request).Flies := by
  rw [AutosaveState.request]
  by_cases running : state.future.isSome = true
  · rw [if_pos running]
    exact ⟨fun _ => running, fun _ => running, flies.flies⟩
  · rw [if_neg running]
    exact flies_start request

theorem Flies.discard (flies : state.Flies) (documentId : UUID) :
    (state.discard documentId).Flies := by
  have dropped : (state.dropPending documentId).Flies := by
    refine ⟨?_, flies.names, flies.flies⟩
    intro kept
    apply flies.waits
    cases waiting : state.pending with
    | none => simp [dropPending, waiting] at kept
    | some request => rfl
  rw [AutosaveState.discard]
  split_ifs
  · exact ⟨dropped.waits, dropped.names, dropped.flies⟩
  · exact dropped.discardRecord documentId

theorem Flies.onFinished {future : Nat} {rest : List Nat}
    (reports : state.finished = future :: rest) (flies : state.Flies) :
    ({ state with finished := rest }.onFinished future).Flies := by
  rw [AutosaveState.onFinished]
  by_cases same : state.future = some future
  · rw [if_pos same, startPending]
    cases waiting : ({ state with finished := rest } : AutosaveState
        Content).forgetRunning.flushSettledDiscards.pending with
    | some request => exact flies_start request
    | none =>
        apply Flies.flushSettledDiscards
        rw [(flushSettledDiscards_keeps _).pending] at waiting
        constructor
        · intro impossible
          rw [waiting] at impossible
          cases impossible
        · intro impossible
          cases impossible
        · intro running impossible
          cases impossible
  · rw [if_neg same]
    refine ⟨flies.waits, flies.names, ?_⟩
    intro running stands
    rcases flies.flies running stands with queued | reported
    · exact Or.inl queued
    · rw [reports] at reported
      rcases List.mem_cons.mp reported with head | tail
      · exact absurd (head ▸ stands) same
      · exact Or.inr tail

theorem Flies.turnClean (flies : state.Flies) :
    state.turnClean.Flies := by
  rw [AutosaveState.turnClean]
  split_ifs
  · apply Flies.flushSettledDiscards
    exact ⟨flies.waits, flies.names, flies.flies⟩
  · exact flies

theorem Flies.autosaveSession (flies : state.Flies) :
    state.autosaveSession.Flies := by
  rw [AutosaveState.autosaveSession, autosaveNow]
  split_ifs with dirty
  · have requested : (state.requested state.sessionRequest).Flies :=
      ⟨flies.waits, flies.names, flies.flies⟩
    exact requested.request _
  · exact ⟨flies.waits, flies.names, flies.flies⟩
  · exact flies

theorem Flies.workerRuns (flies : state.Flies)
    {ran : Nat} {task : StoreTask Content} {rest : List (Nat × StoreTask Content)}
    (queued : state.queue = (ran, task) :: rest) (disk : RecoveryDirectory Content) :
    ({ state with
      queue := rest
      disk := disk
      finished := state.finished ++ task.reports ran } : AutosaveState Content).Flies := by
  refine ⟨flies.waits, flies.names, ?_⟩
  intro future running
  rcases flies.flies future running with ⟨request, member⟩ | reported
  · rw [queued] at member
    rcases List.mem_cons.mp member with head | tail
    · cases head
      exact Or.inr (List.mem_append_right _ List.mem_cons_self)
    · exact Or.inl ⟨request, tail⟩
  · exact Or.inr (List.mem_append_left _ reported)

/-- No step loses a waiting snapshot or the end of a write. -/
theorem Flies.step {state next : AutosaveState Content} {action : AutosaveAction Content}
    (flies : state.Flies) (taken : state.step action = some next) : next.Flies := by
  cases action with
  | changeDocument document path delayed =>
      simp only [AutosaveState.step, schedule, settled, Option.some.injEq] at taken
      subst taken
      split_ifs <;> exact ⟨flies.waits, flies.names, flies.flies⟩
  | turnDirty delayed =>
      simp only [AutosaveState.step, schedule, Option.ite_none_left_eq_some,
        Option.some.injEq] at taken
      rw [← taken.2]
      split_ifs <;> exact ⟨flies.waits, flies.names, flies.flies⟩
  | turnClean =>
      simp only [AutosaveState.step, Option.ite_none_right_eq_some, Option.some.injEq] at taken
      exact taken.2 ▸ flies.turnClean
  | save path =>
      rw [AutosaveState.step, Option.some.injEq] at taken
      subst taken
      have moved : ({ state with currentPath := some path } : AutosaveState Content).Flies :=
        ⟨flies.waits, flies.names, flies.flies⟩
      have clean := moved.turnClean
      apply Flies.discard
      exact ⟨clean.waits, clean.names, clean.flies⟩
  | request request =>
      rw [AutosaveState.step, Option.some.injEq] at taken
      subst taken
      apply Flies.request
      exact ⟨flies.waits, flies.names, flies.flies⟩
  | autosaveNow =>
      rw [AutosaveState.step, Option.some.injEq] at taken
      exact taken ▸ flies.autosaveSession
  | timerFires =>
      simp only [AutosaveState.step, Option.ite_none_right_eq_some, Option.some.injEq] at taken
      rw [← taken.2]
      apply Flies.autosaveSession
      exact ⟨flies.waits, flies.names, flies.flies⟩
  | discard documentId =>
      rw [AutosaveState.step, Option.some.injEq] at taken
      subst taken
      apply Flies.discard
      exact ⟨flies.waits, flies.names, flies.flies⟩
  | workerRuns outcome =>
      cases queued : state.queue with
      | nil => simp [AutosaveState.step, queued] at taken
      | cons entry rest =>
          simp only [AutosaveState.step, queued, Option.some.injEq] at taken
          exact taken ▸ flies.workerRuns queued _
  | finishedArrives =>
      cases reports : state.finished with
      | nil => simp [AutosaveState.step, reports] at taken
      | cons future rest =>
          simp only [AutosaveState.step, reports, Option.some.injEq] at taken
          exact taken ▸ flies.onFinished reports

/-- In a quiescent state no write runs and no snapshot waits. -/
theorem Flies.idle (flies : state.Flies)
    (quiescent : state.Quiescent) : state.future = none ∧ state.pending = none := by
  have idle : state.future = none := by
    apply Option.eq_none_iff_forall_ne_some.mpr
    intro future running
    rcases flies.flies future running with ⟨request, member⟩ | reported
    · rw [quiescent.1] at member
      cases member
    · rw [quiescent.2] at reported
      cases reported
  refine ⟨idle, ?_⟩
  cases waiting : state.pending with
  | none => rfl
  | some request =>
      have runs := flies.waits (by rw [waiting]; rfl)
      rw [idle] at runs
      cases runs

/-- In a quiescent state the disk is what the queue left. -/
theorem eventual_of_quiescent (quiescent : state.Quiescent) :
    state.eventual = state.disk := by
  rw [eventual, quiescent.1]
  rfl

/-! ## What a run leaves -/

/-- The part of a state that the records are about. -/
structure AutosaveSummary (Content : Type*) where
  queued : Nat
  reported : List Nat
  dirty : Bool
  newest : Option (AutosaveRequest Content)
  record : Option (RecoveryFile Content)
deriving DecidableEq

def summary (state : AutosaveState Content) : AutosaveSummary Content :=
  ⟨state.queue.length, state.finished, state.isDirty, state.newest state.document.documentId,
    state.disk state.document.documentId⟩

/-- A run that leaves a quiescent summary leaves such a state. -/
theorem exists_of_summary {start : AutosaveState Content} {actions : List (AutosaveAction Content)}
    {dirty : Bool} {newest : Option (AutosaveRequest Content)}
    {record : Option (RecoveryFile Content)}
    (left : (run step start actions).map summary = some ⟨0, [], dirty, newest, record⟩) :
    ∃ final, run step start actions = some final ∧ final.Quiescent ∧ final.isDirty = dirty ∧
      final.newest final.document.documentId = newest ∧
      final.disk final.document.documentId = record := by
  rcases Option.map_eq_some_iff.mp left with ⟨final, reached, summarized⟩
  injection summarized with idle reports dirty newest record
  exact ⟨final, reached, ⟨List.length_eq_zero_iff.mp idle, reports⟩, dirty, newest, record⟩

/-- A document in its drafts. -/
def draft (content : Nat) : DocumentSnapshot Nat := ⟨1, content⟩

/-- The request of a draft of a document without a file. -/
def draftRequest (content : Nat) : AutosaveRequest Nat := ⟨draft content, none⟩

end AutosaveState

end Ui
end Synesthesia
