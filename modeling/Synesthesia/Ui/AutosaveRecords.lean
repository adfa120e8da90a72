import Mathlib
import Synesthesia.Ui.AutosaveFlight

namespace Synesthesia
namespace Ui

open Foundation Contracts

/-!
# The recovery record of a dirty document

The newest request of a dirty document reaches the disk unless it was made
while an older discard of the document was deferred: that discard outlives the
request and deletes the newer record.
-/

variable {Content : Type*}

namespace AutosaveState

/-! ## The newest request reaches the disk -/

/-- The record of a document will be that of its newest request: it waits, or
the queue leaves it and nothing else of the document waits. -/
structure Reaches (state : AutosaveState Content) (documentId : UUID)
    (request : AutosaveRequest Content) : Prop where
  names : request.snapshot.documentId = documentId
  settled : documentId ∉ state.pendingDiscards
  dirty : state.document.documentId = documentId → state.isDirty = true
  reaches : state.pending = some request ∨
    (∀ other ∈ state.pending, other.snapshot.documentId ≠ documentId) ∧
      state.eventual documentId = some (.saved request)

/-- A request that no older decision about its document overtakes. -/
def Unhindered (state : AutosaveState Content) (request : AutosaveRequest Content) : Prop :=
  request.snapshot.documentId ∉ state.pendingDiscards ∧
    (∀ other ∈ state.pending, other.snapshot.documentId = request.snapshot.documentId) ∧
    (state.document.documentId = request.snapshot.documentId → state.isDirty = true)

section Reaches

variable {state : AutosaveState Content} {documentId : UUID} {wanted : AutosaveRequest Content}

variable (reaches : state.Reaches documentId wanted)
include reaches

theorem Reaches.discardRecord {other : UUID}
    (different : documentId ≠ other) : (state.discardRecord other).Reaches documentId wanted := by
  refine ⟨reaches.names, ?_, reaches.dirty, ?_⟩
  · intro member
    exact reaches.settled (List.mem_of_mem_filter member)
  · rw [eventual_discardRecord_of_ne different]
    exact reaches.reaches

theorem Reaches.flushSettledDiscards :
    state.flushSettledDiscards.Reaches documentId wanted := by
  have flushed : state.flushClean.Reaches documentId wanted := by
    rcases flushClean_cases state with ⟨clean, _, same⟩ | ⟨_, same⟩
    · rw [same]
      apply reaches.discardRecord
      intro equal
      have dirty := reaches.dirty equal.symm
      rw [clean] at dirty
      cases dirty
    · rw [same]
      exact reaches
  have each : ∀ next : AutosaveState Content, ∀ other ∈ state.flushClean.pendingDiscards,
      next.Reaches documentId wanted → next.autosaveActiveFor other = false →
        (next.discardRecord other).Reaches documentId wanted := by
    intro next other member kept _
    apply kept.discardRecord
    intro equal
    exact flushed.settled (equal ▸ member)
  exact flushDeferred_preserves each flushed

theorem Reaches.startPending :
    state.startPending.Reaches documentId wanted := by
  rw [AutosaveState.startPending]
  cases waiting : state.pending with
  | none => exact reaches
  | some other =>
      refine ⟨reaches.names, reaches.settled, reaches.dirty, Or.inr ⟨fun _ nothing => ?_, ?_⟩⟩
      · cases nothing
      · rcases reaches.reaches with same | ⟨foreign, leaves⟩
        · have equal : other = wanted := Option.some.inj (waiting.symm.trans same)
          rw [equal, ← reaches.names]
          exact eventual_start_self _ wanted
        · rw [eventual_start_of_ne (foreign other waiting).symm]
          exact leaves

theorem Reaches.onFinished (future : Nat) :
    (state.onFinished future).Reaches documentId wanted := by
  rw [AutosaveState.onFinished]
  split_ifs
  · have forgotten : state.forgetRunning.Reaches documentId wanted :=
      ⟨reaches.names, reaches.settled, reaches.dirty, reaches.reaches⟩
    exact forgotten.flushSettledDiscards.startPending
  · exact reaches

/-- A request of another document lets this one's be, unless it takes its place. -/
theorem Reaches.request {other : AutosaveRequest Content} (unhindered : state.Unhindered other)
    (different : documentId ≠ other.snapshot.documentId) :
    (state.request other).Reaches documentId wanted := by
  have leaves : state.eventual documentId = some (.saved wanted) := by
    rcases reaches.reaches with waiting | ⟨_, leaves⟩
    · exact absurd (reaches.names.symm.trans (unhindered.2.1 wanted waiting)) different
    · exact leaves
  rw [AutosaveState.request]
  split_ifs
  · refine ⟨reaches.names, reaches.settled, reaches.dirty, Or.inr ⟨?_, leaves⟩⟩
    intro waiting member
    cases member
    exact different.symm
  · refine ⟨reaches.names, reaches.settled, reaches.dirty, ?_⟩
    rcases reaches.reaches with waiting | ⟨foreign, _⟩
    · exact Or.inl waiting
    · refine Or.inr ⟨foreign, ?_⟩
      rw [eventual_start_of_ne different]
      exact leaves

omit reaches in
/-- An unhindered request reaches the disk. -/
theorem reaches_request (flies : state.Flies) (unhindered : state.Unhindered wanted) :
    (state.request wanted).Reaches wanted.snapshot.documentId wanted := by
  rw [AutosaveState.request]
  by_cases running : state.future.isSome = true
  · rw [if_pos running]
    exact ⟨rfl, unhindered.1, unhindered.2.2, Or.inl rfl⟩
  · rw [if_neg running]
    refine ⟨rfl, unhindered.1, unhindered.2.2, Or.inr ⟨?_, eventual_start_self _ wanted⟩⟩
    intro other waiting
    have waits : state.pending = some other := waiting
    exact absurd (flies.waits (by rw [waits]; rfl)) running

/-- A discard concerns no other document. -/
theorem Reaches.discard {other : UUID}
    (different : documentId ≠ other) : (state.discard other).Reaches documentId wanted := by
  have dropped : (state.dropPending other).Reaches documentId wanted := by
    refine ⟨reaches.names, reaches.settled, reaches.dirty, ?_⟩
    rcases reaches.reaches with waiting | ⟨foreign, leaves⟩
    · refine Or.inl ?_
      have stays : wanted.snapshot.documentId ≠ other := reaches.names ▸ different
      simp [dropPending, waiting, stays]
    · refine Or.inr ⟨?_, leaves⟩
      intro waiting member
      exact foreign waiting (Option.mem_filter_iff.mp member).1
  rw [AutosaveState.discard]
  split_ifs
  · refine ⟨dropped.names, ?_, dropped.dirty, dropped.reaches⟩
    intro member
    rcases List.mem_insert_iff.mp member with same | earlier
    · exact different same
    · exact dropped.settled earlier
  · exact dropped.discardRecord different

end Reaches

/-- Every document's newest request reaches the disk. -/
def Promises (state : AutosaveState Content) : Prop :=
  ∀ documentId wanted, state.newest documentId = some wanted → state.Reaches documentId wanted

section Promises

variable {state : AutosaveState Content}

/-- What no controller looks at may change. -/
theorem Reaches.transport {next : AutosaveState Content} {documentId : UUID}
    {wanted : AutosaveRequest Content} (reaches : state.Reaches documentId wanted)
    (pending : next.pending = state.pending)
    (deferred : next.pendingDiscards = state.pendingDiscards)
    (leaves : next.eventual = state.eventual)
    (dirty : next.document.documentId = documentId → next.isDirty = true) :
    next.Reaches documentId wanted := by
  refine ⟨reaches.names, deferred ▸ reaches.settled, dirty, ?_⟩
  rw [pending, leaves]
  exact reaches.reaches

/-- The newest requests of the other documents, once one is settled. -/
theorem newest_settled {documentId other : UUID} {wanted : AutosaveRequest Content}
    (newest : (state.settled documentId).newest other = some wanted) :
    other ≠ documentId ∧ state.newest other = some wanted := by
  have updated : Function.update state.newest documentId none other = some wanted := newest
  have different : other ≠ documentId := by
    intro same
    rw [same, Function.update_self] at updated
    cases updated
  rw [Function.update_of_ne different] at updated
  exact ⟨different, updated⟩

variable (promises : state.Promises)
include promises

theorem Promises.turnClean : state.turnClean.Promises := by
  rw [AutosaveState.turnClean]
  split_ifs with dirty
  · intro documentId wanted newest
    have same := (flushSettledDiscards_keeps ({ ({ state with isDirty := false }.settled
      state.document.documentId) with due := false } : AutosaveState Content)).newest
    rw [onDocumentClean, same] at newest
    rcases newest_settled newest with ⟨different, earlier⟩
    apply Reaches.flushSettledDiscards
    exact (promises documentId wanted earlier).transport rfl rfl rfl
      (fun equal => absurd equal.symm different)
  · exact promises

theorem Promises.discard (documentId : UUID) :
    ((state.settled documentId).discard documentId).Promises := by
  intro other wanted newest
  have same : ((state.settled documentId).discard documentId).newest =
      (state.settled documentId).newest := by
    rw [AutosaveState.discard]
    split_ifs <;> rfl
  rw [same] at newest
  rcases newest_settled newest with ⟨different, earlier⟩
  apply Reaches.discard _ different
  have reaches := promises other wanted earlier
  exact reaches.transport rfl rfl rfl reaches.dirty

theorem Promises.request (flies : state.Flies)
    {request : AutosaveRequest Content} (unhindered : state.Unhindered request) :
    ((state.requested request).request request).Promises := by
  have flying : (state.requested request).Flies := ⟨flies.waits, flies.names, flies.flies⟩
  intro documentId wanted newest
  have same : ((state.requested request).request request).newest =
      (state.requested request).newest := by
    rw [AutosaveState.request]
    split_ifs <;> rfl
  rw [same] at newest
  have updated : Function.update state.newest request.snapshot.documentId (some request)
      documentId = some wanted := newest
  by_cases own : documentId = request.snapshot.documentId
  · rw [own, Function.update_self] at updated
    rw [own, ← Option.some.inj updated]
    exact reaches_request flying unhindered
  · rw [Function.update_of_ne own] at updated
    have reaches := promises documentId wanted updated
    have requested : (state.requested request).Reaches documentId wanted :=
      reaches.transport rfl rfl rfl reaches.dirty
    exact requested.request unhindered own

theorem Promises.autosaveSession (flies : state.Flies)
    (unhindered : state.isDirty = true → state.Unhindered state.sessionRequest) :
    state.autosaveSession.Promises := by
  rw [AutosaveState.autosaveSession]
  by_cases dirty : state.isDirty = true
  · have still : (state.requested state.sessionRequest).isDirty = true := dirty
    rw [if_pos dirty, autosaveNow, if_pos still]
    exact promises.request flies (unhindered dirty)
  · rw [if_neg dirty]
    exact promises

theorem Promises.onFinished (future : Nat) :
    (state.onFinished future).Promises := by
  intro documentId wanted newest
  apply Reaches.onFinished
  apply promises
  rw [← newest, AutosaveState.onFinished]
  split_ifs
  · rw [startPending]
    have keeps := (flushSettledDiscards_keeps state.forgetRunning).newest
    cases state.forgetRunning.flushSettledDiscards.pending <;>
      exact congrFun keeps.symm documentId
  · rfl

end Promises

/-- The requests of a run find no older decision about their document pending. -/
def AsksUnhindered (state : AutosaveState Content) : AutosaveAction Content → Prop
  | .request request => state.Unhindered request
  | .autosaveNow => state.isDirty = true → state.Unhindered state.sessionRequest
  | .timerFires => state.isDirty = true → state.Unhindered state.sessionRequest
  | _ => True

/-- The calls of the store reach the recovery file. -/
def WritesSucceed (_ : AutosaveState Content) : AutosaveAction Content → Prop
  | .workerRuns outcome => outcome.applies = true
  | _ => True

theorem Promises.step {state next : AutosaveState Content} {action : AutosaveAction Content}
    (promises : state.Promises) (flies : state.Flies) (unhindered : AsksUnhindered state action)
    (writes : WritesSucceed state action) (taken : state.step action = some next) :
    next.Promises := by
  cases action with
  | changeDocument document path delayed =>
      rw [AutosaveState.step, Option.some.injEq] at taken
      subst taken
      intro documentId wanted newest
      by_cases dirty : state.isDirty = true
      · rw [if_pos dirty] at newest ⊢
        have earlier : state.newest documentId = some wanted := by
          rw [← newest, schedule]
          split_ifs <;> rfl
        apply (promises documentId wanted earlier).transport <;> rw [schedule] <;> split_ifs <;>
          first | rfl | exact fun _ => dirty
      · rw [if_neg dirty] at newest ⊢
        rcases newest_settled newest with ⟨different, later⟩
        have idle : ({ state with document := document, currentPath := path } :
            AutosaveState Content).schedule delayed =
            { state with document := document, currentPath := path } := by
          rw [schedule, if_neg (fun both => dirty both.1)]
        rw [idle] at later ⊢
        exact (promises documentId wanted later).transport rfl rfl rfl
          (fun equal => absurd equal.symm different)
  | turnDirty delayed =>
      simp only [AutosaveState.step, Option.ite_none_left_eq_some, Option.some.injEq] at taken
      rw [← taken.2]
      intro documentId wanted newest
      have earlier : state.newest documentId = some wanted := by
        rw [← newest, schedule]
        split_ifs <;> rfl
      apply (promises documentId wanted earlier).transport <;> rw [schedule] <;> split_ifs <;>
        first | rfl | exact fun _ => rfl
  | turnClean =>
      simp only [AutosaveState.step, Option.ite_none_right_eq_some, Option.some.injEq] at taken
      exact taken.2 ▸ promises.turnClean
  | save path =>
      rw [AutosaveState.step, Option.some.injEq] at taken
      subst taken
      have moved : ({ state with currentPath := some path } : AutosaveState Content).Promises := by
        intro documentId wanted newest
        have reaches := promises documentId wanted newest
        exact reaches.transport rfl rfl rfl reaches.dirty
      exact moved.turnClean.discard _
  | request request =>
      rw [AutosaveState.step, Option.some.injEq] at taken
      exact taken ▸ promises.request flies unhindered
  | autosaveNow =>
      rw [AutosaveState.step, Option.some.injEq] at taken
      exact taken ▸ promises.autosaveSession flies unhindered
  | timerFires =>
      simp only [AutosaveState.step, Option.ite_none_right_eq_some, Option.some.injEq] at taken
      rw [← taken.2]
      have fired : ({ state with due := false } : AutosaveState Content).Promises := by
        intro documentId wanted newest
        have reaches := promises documentId wanted newest
        exact reaches.transport rfl rfl rfl reaches.dirty
      exact fired.autosaveSession ⟨flies.waits, flies.names, flies.flies⟩ unhindered
  | discard documentId =>
      rw [AutosaveState.step, Option.some.injEq] at taken
      exact taken ▸ promises.discard documentId
  | workerRuns outcome =>
      cases queued : state.queue with
      | nil => simp [AutosaveState.step, queued] at taken
      | cons entry rest =>
          have applies : outcome.applies = true := writes
          simp only [AutosaveState.step, queued, applies, if_true, Option.some.injEq] at taken
          subst taken
          intro documentId wanted newest
          have reaches := promises documentId wanted newest
          refine reaches.transport rfl rfl ?_ reaches.dirty
          rw [eventual, eventual, queued]
          rfl
  | finishedArrives =>
      cases reports : state.finished with
      | nil => simp [AutosaveState.step, reports] at taken
      | cons future rest =>
          simp only [AutosaveState.step, reports, Option.some.injEq] at taken
          subst taken
          have delivered : ({ state with finished := rest } : AutosaveState Content).Promises := by
            intro documentId wanted newest
            have reaches := promises documentId wanted newest
            exact reaches.transport rfl rfl rfl reaches.dirty
          exact delivered.onFinished future

/-- When every request finds no discard of its document deferred and no other
document's snapshot waiting, and its document is not clean, then in every
quiescent state the record of a dirty document is that of its newest request. -/
theorem record_kept {document : DocumentSnapshot Content} {leftBehind : UUID → Bool}
    {actions : List (AutosaveAction Content)} {final : AutosaveState Content}
    (reached : run step (initial document leftBehind) actions = some final)
    (writes : Meets step WritesSucceed (initial document leftBehind) actions)
    (unhindered : Meets step AsksUnhindered (initial document leftBehind) actions)
    (quiescent : final.Quiescent) (_dirty : final.isDirty = true)
    (wanted : AutosaveRequest Content)
    (newest : final.newest final.document.documentId = some wanted) :
    final.disk final.document.documentId = some (.saved wanted) := by
  have initially :
      (initial document leftBehind).Flies ∧ (initial document leftBehind).Promises := by
    refine ⟨⟨fun waits => waits, fun names => names, fun _ impossible => by cases impossible⟩, ?_⟩
    intro documentId request impossible
    cases impossible
  have preserved : ∀ (state : AutosaveState Content) (action : AutosaveAction Content)
      (next : AutosaveState Content), state.Flies ∧ state.Promises →
      WritesSucceed state action ∧ AsksUnhindered state action →
      state.step action = some next → next.Flies ∧ next.Promises := by
    intro state action next both guards taken
    exact ⟨both.1.step taken, both.2.step both.1 guards.2 guards.1 taken⟩
  have kept : final.Flies ∧ final.Promises :=
    run_invariant preserved initially (writes.and unhindered) reached
  have idle := kept.1.idle quiescent
  rcases (kept.2 _ wanted newest).reaches with waits | ⟨_, leaves⟩
  · rw [idle.2] at waits
    cases waits
  · rw [eventual_of_quiescent quiescent] at leaves
    exact leaves

instance (state : AutosaveState Nat) (action : AutosaveAction Nat) :
    Decidable (WritesSucceed state action) :=
  match action with
  | .workerRuns outcome => inferInstanceAs (Decidable (outcome.applies = true))
  | .changeDocument .. => .isTrue trivial
  | .turnDirty _ => .isTrue trivial
  | .turnClean => .isTrue trivial
  | .save _ => .isTrue trivial
  | .request _ => .isTrue trivial
  | .autosaveNow => .isTrue trivial
  | .timerFires => .isTrue trivial
  | .discard _ => .isTrue trivial
  | .finishedArrives => .isTrue trivial

instance (state : AutosaveState Nat) (request : AutosaveRequest Nat) :
    Decidable (state.Unhindered request) := by
  unfold Unhindered
  infer_instance

instance (state : AutosaveState Nat) (action : AutosaveAction Nat) :
    Decidable (AsksUnhindered state action) :=
  match action with
  | .request request => inferInstanceAs (Decidable (state.Unhindered request))
  | .autosaveNow =>
      inferInstanceAs (Decidable (state.isDirty = true → state.Unhindered state.sessionRequest))
  | .timerFires =>
      inferInstanceAs (Decidable (state.isDirty = true → state.Unhindered state.sessionRequest))
  | .changeDocument .. => .isTrue trivial
  | .turnDirty _ => .isTrue trivial
  | .turnClean => .isTrue trivial
  | .save _ => .isTrue trivial
  | .discard _ => .isTrue trivial
  | .workerRuns _ => .isTrue trivial
  | .finishedArrives => .isTrue trivial

/-- The second draft is requested while the first is written. -/
def coalescedDrafts : List (AutosaveAction Nat) :=
  [.changeDocument (draft 1) none true, .turnDirty true, .timerFires,
    .changeDocument (draft 2) none true, .autosaveNow, .workerRuns .succeeds, .finishedArrives,
    .workerRuns .succeeds, .finishedArrives]

theorem record_kept_of_coalescedDrafts :
    ∃ final, run step (initial (draft 0) (fun _ => true)) coalescedDrafts = some final ∧
      final.disk final.document.documentId = some (.saved (draftRequest 2)) := by
  have left : (run step (initial (draft 0) (fun _ => true)) coalescedDrafts).map summary =
      some ⟨0, [], true, some (draftRequest 2), some (.saved (draftRequest 2))⟩ := by
    decide +kernel
  rcases exists_of_summary left with ⟨final, reached, quiescent, dirty, newest, _⟩
  exact ⟨final, reached, record_kept reached (by decide +kernel) (by decide +kernel) quiescent
    dirty (draftRequest 2) newest⟩

/-- The first draft is still being written when it is saved, and the second is
edited and requested before the write ends. -/
def savedDuringWrite : List (AutosaveAction Nat) :=
  [.changeDocument (draft 1) none true, .turnDirty true, .autosaveNow, .save "draft",
    .changeDocument (draft 2) (some "draft") true, .turnDirty true, .autosaveNow,
    .workerRuns .succeeds, .workerRuns .succeeds, .finishedArrives, .workerRuns .succeeds,
    .finishedArrives, .workerRuns .succeeds]

/-- The deferred discard deletes the record of the newest request. -/
theorem deferred_discard_loses_record :
    ∃ final, run step (initial (draft 0) (fun _ => false)) savedDuringWrite = some final ∧
      Meets step WritesSucceed (initial (draft 0) (fun _ => false)) savedDuringWrite ∧
      final.Quiescent ∧ final.isDirty = true ∧
      final.newest final.document.documentId = some ⟨draft 2, some "draft"⟩ ∧
      final.disk final.document.documentId = none := by
  have left : (run step (initial (draft 0) (fun _ => false)) savedDuringWrite).map summary =
      some ⟨0, [], true, some ⟨draft 2, some "draft"⟩, none⟩ := by
    decide +kernel
  rcases exists_of_summary left with ⟨final, reached, quiescent, dirty, newest, record⟩
  exact ⟨final, reached, by decide +kernel, quiescent, dirty, newest, record⟩

end AutosaveState

end Ui
end Synesthesia
