import Mathlib
import Synesthesia.Ui.AutosaveFlight

namespace Synesthesia
namespace Ui

open Foundation Contracts

/-!
# The recovery record of a clean document

A clean document's record is discarded at once and behind the running write,
but ahead of a snapshot that still waits: that snapshot is then written for a
document that nothing tracks any more.
-/

variable {Content : Type*}

namespace AutosaveState

/-! ## A clean document leaves nothing -/

/-- A document that is not tracked leaves no record of this process, one
document possibly excused. -/
def Tracks (excused : Option UUID) (state : AutosaveState Content) : Prop :=
  ∀ documentId ∉ state.trackedDocuments, excused ≠ some documentId →
    (∀ other ∈ state.pending, other.snapshot.documentId ≠ documentId) ∧
      ∀ request, state.eventual documentId ≠ some (.saved request)

/-- A clean document that is tracked has a write to wait for. -/
def Watches (state : AutosaveState Content) : Prop :=
  state.isDirty = false → state.document.documentId ∈ state.trackedDocuments →
    state.future.isSome = true

/-- No snapshot of the watched document waits. -/
def NothingWaits (state : AutosaveState Content) : Prop :=
  ∀ other ∈ state.pending, other.snapshot.documentId ≠ state.document.documentId

section Tracks

variable {state : AutosaveState Content} {excused : Option UUID}

theorem Tracks.discardRecord (tracks : state.Tracks excused) {documentId : UUID}
    (idle : excused = some documentId ∨
      ∀ other ∈ state.pending, other.snapshot.documentId ≠ documentId) :
    (state.discardRecord documentId).Tracks excused := by
  intro other untracked ordinary
  by_cases same : other = documentId
  · rcases idle with excuse | foreign
    · exact absurd (same ▸ excuse) ordinary
    · refine ⟨same ▸ foreign, ?_⟩
      intro request
      rw [same, eventual_discardRecord_self]
      exact fun impossible => by cases impossible
  · rw [eventual_discardRecord_of_ne same]
    apply tracks other _ ordinary
    intro tracked
    exact untracked (List.mem_filter.mpr ⟨tracked, decide_eq_true same⟩)

theorem Tracks.flushSettledDiscards (tracks : state.Tracks excused)
    (idle : state.isDirty = false →
      excused = some state.document.documentId ∨ state.NothingWaits) :
    state.flushSettledDiscards.Tracks excused := by
  have flushed : state.flushClean.Tracks excused := by
    rcases flushClean_cases state with ⟨clean, _, same⟩ | ⟨_, same⟩
    · rw [same]
      exact tracks.discardRecord (idle clean)
    · rw [same]
      exact tracks
  have each : ∀ next : AutosaveState Content, ∀ documentId ∈ state.flushClean.pendingDiscards,
      next.Tracks excused → next.autosaveActiveFor documentId = false →
        (next.discardRecord documentId).Tracks excused := by
    intro next documentId _ kept inactive
    exact kept.discardRecord (Or.inr (autosaveActiveFor_eq_false.mp inactive).2)
  exact flushDeferred_preserves each flushed

/-- After a flush, no clean document is tracked. -/
theorem untracked_of_flush (state : AutosaveState Content)
    (clean : state.flushSettledDiscards.isDirty = false) :
    state.flushSettledDiscards.document.documentId ∉
      state.flushSettledDiscards.trackedDocuments := by
  have each : ∀ next : AutosaveState Content, ∀ documentId ∈ state.flushClean.pendingDiscards,
      (next.isDirty = false → next.document.documentId ∉ next.trackedDocuments) →
        next.autosaveActiveFor documentId = false →
        ((next.discardRecord documentId).isDirty = false →
          (next.discardRecord documentId).document.documentId ∉
            (next.discardRecord documentId).trackedDocuments) := by
    intro next documentId _ untracked _ isClean tracked
    exact untracked isClean (List.mem_of_mem_filter tracked)
  refine flushDeferred_preserves each ?_ clean
  rcases flushClean_cases state with ⟨_, _, same⟩ | ⟨untracked, same⟩
  · rw [same]
    intro _ tracked
    exact of_decide_eq_true (List.mem_filter.mp tracked).2 rfl
  · rw [same]
    exact untracked

theorem Tracks.startPending (tracks : state.Tracks none) : state.startPending.Tracks none := by
  rw [AutosaveState.startPending]
  cases waiting : state.pending with
  | none => exact tracks
  | some other =>
      intro documentId untracked ordinary
      have before := tracks documentId untracked ordinary
      refine ⟨?_, ?_⟩
      · intro later impossible
        cases impossible
      intro request
      rw [eventual_start_of_ne (before.1 other waiting).symm]
      exact before.2 request

theorem Tracks.request (tracks : state.Tracks none) (request : AutosaveRequest Content) :
    (state.request request).Tracks none := by
  have apart : ∀ documentId ∉ state.trackedDocuments.insert request.snapshot.documentId,
      documentId ≠ request.snapshot.documentId ∧ documentId ∉ state.trackedDocuments := by
    intro documentId untracked
    exact not_or.mp (fun either => untracked (List.mem_insert_iff.mpr either))
  rw [AutosaveState.request]
  split_ifs
  · intro documentId untracked ordinary
    rcases apart documentId untracked with ⟨different, before⟩
    refine ⟨?_, (tracks documentId before ordinary).2⟩
    intro other waiting
    cases waiting
    exact different.symm
  · intro documentId untracked ordinary
    rcases apart documentId untracked with ⟨different, before⟩
    refine ⟨(tracks documentId before ordinary).1, ?_⟩
    intro other
    rw [eventual_start_of_ne different]
    exact (tracks documentId before ordinary).2 other

/-- A discard answers for its document, also where it was excused. -/
theorem Tracks.discard {documentId : UUID} (tracks : state.Tracks (some documentId)) :
    (state.discard documentId).Tracks none := by
  have dropped : ∀ other ∈ (state.dropPending documentId).pending,
      other.snapshot.documentId ≠ documentId := by
    intro other member
    exact of_decide_eq_true (Option.mem_filter_iff.mp member).2
  have others : ∀ other ∉ state.trackedDocuments, other ≠ documentId →
      (∀ waiting ∈ (state.dropPending documentId).pending,
        waiting.snapshot.documentId ≠ other) ∧
        ∀ request, state.eventual other ≠ some (.saved request) := by
    intro other untracked different
    have before := tracks other untracked
      (fun same => different (Option.some.inj same).symm)
    refine ⟨?_, before.2⟩
    intro waiting member
    exact before.1 waiting (Option.mem_filter_iff.mp member).1
  rw [AutosaveState.discard]
  split_ifs
  · intro other untracked _
    have apart : other ≠ documentId ∧ other ∉ state.trackedDocuments :=
      not_or.mp (fun either => untracked (List.mem_insert_iff.mpr either))
    exact others other apart.2 apart.1
  · intro other untracked _
    by_cases same : other = documentId
    · refine ⟨same ▸ dropped, ?_⟩
      intro request
      rw [same, eventual_discardRecord_self]
      exact fun impossible => by cases impossible
    · rw [eventual_discardRecord_of_ne same]
      apply others other _ same
      intro tracked
      exact untracked (List.mem_filter.mpr ⟨tracked, decide_eq_true same⟩)

theorem Watches.discard (watches : state.Watches) (flies : state.Flies) (documentId : UUID) :
    (state.discard documentId).Watches := by
  rw [AutosaveState.discard]
  by_cases active : (state.dropPending documentId).autosaveActiveFor documentId = true
  · rw [if_pos active]
    intro _ _
    apply flies.names
    cases writing : state.current with
    | some request => rfl
    | none =>
        have inactive : (state.dropPending documentId).autosaveActiveFor documentId = false := by
          refine autosaveActiveFor_eq_false.mpr ⟨?_, ?_⟩
          · intro request current
            have nothing : state.current = some request := current
            rw [writing] at nothing
            cases nothing
          · intro other member
            exact of_decide_eq_true (Option.mem_filter_iff.mp member).2
        rw [active] at inactive
        cases inactive
  · rw [if_neg active]
    intro clean tracked
    exact watches clean (List.mem_of_mem_filter tracked)

theorem watches_request (request : AutosaveRequest Content) : (state.request request).Watches := by
  intro _ _
  rw [AutosaveState.request]
  by_cases running : state.future.isSome = true
  · rw [if_pos running]
    exact running
  · rw [if_neg running]
    rfl

end Tracks

/-- Only a discard removes a record. -/
def deletes : StoreTask Content → Bool
  | .save _ => false
  | .discard _ => true

/-- A call that raises before it reaches the record of an untracked document
leaves no more there than one that ends. -/
theorem Tracks.workerRuns {state : AutosaveState Content} (tracks : state.Tracks none)
    {ran : Nat} {task : StoreTask Content} {rest : List (Nat × StoreTask Content)}
    (queued : state.queue = (ran, task) :: rest) {outcome : TaskOutcome}
    (removes : deletes task → outcome.applies = true) :
    ({ state with
      queue := rest
      disk := if outcome.applies then task.apply state.disk else state.disk
      finished := state.finished ++ task.reports ran } : AutosaveState Content).Tracks none := by
  intro documentId untracked ordinary
  have before := tracks documentId untracked ordinary
  refine ⟨before.1, ?_⟩
  intro request
  have leaves : state.eventual documentId = settle (task.apply state.disk) rest documentId := by
    rw [eventual, queued]
    rfl
  change settle (if outcome.applies then task.apply state.disk else state.disk) rest documentId ≠ _
  by_cases applies : outcome.applies = true
  · rw [if_pos applies, ← leaves]
    exact before.2 request
  · rw [if_neg applies]
    cases task with
    | discard discarded => exact absurd (removes rfl) applies
    | save saved =>
        rcases settle_at rest documentId with kept | ⟨file, fixed⟩
        · have other : documentId ≠ saved.snapshot.documentId := by
            intro same
            apply before.2 saved
            rw [leaves, kept, StoreTask.apply, same, Function.update_self]
          rw [kept] at leaves ⊢
          rw [StoreTask.apply, Function.update_of_ne other] at leaves
          exact leaves ▸ before.2 request
        · rw [fixed] at leaves ⊢
          exact leaves ▸ before.2 request

/-- What holds of every document between two steps. -/
structure Cleans (state : AutosaveState Content) : Prop where
  flies : state.Flies
  tracks : state.Tracks none
  watches : state.Watches

section Cleans

variable {state : AutosaveState Content}

/-- What no controller looks at may change. -/
theorem Cleans.transport {next : AutosaveState Content} (cleans : state.Cleans)
    (flies : next.Flies) (pending : next.pending = state.pending)
    (tracked : next.trackedDocuments = state.trackedDocuments)
    (leaves : next.eventual = state.eventual) (watches : next.Watches) : next.Cleans := by
  refine ⟨flies, ?_, watches⟩
  intro documentId untracked ordinary
  rw [pending, leaves]
  exact cleans.tracks documentId (tracked ▸ untracked) ordinary

/-- Turning clean discards the record, unless the document's snapshot waits. -/
theorem turnClean_tracks (cleans : state.Cleans) {excused : Option UUID}
    (excuse : excused = none ∨ excused = some state.document.documentId)
    (idle : excused = none → state.NothingWaits) : state.turnClean.Tracks excused := by
  rw [AutosaveState.turnClean]
  split_ifs
  · apply Tracks.flushSettledDiscards
    · intro documentId untracked ordinary
      exact cleans.tracks documentId untracked (fun impossible => by cases impossible)
    · intro _
      exact excuse.elim (fun nobody => Or.inr (idle nobody)) Or.inl
  · intro documentId untracked _
    exact cleans.tracks documentId untracked (fun impossible => by cases impossible)

theorem turnClean_watches (watches : state.Watches) : state.turnClean.Watches := by
  rw [AutosaveState.turnClean]
  split_ifs
  · intro clean tracked
    exact absurd tracked (untracked_of_flush _ clean)
  · exact watches

theorem Cleans.autosaveSession (cleans : state.Cleans) : state.autosaveSession.Cleans := by
  refine ⟨cleans.flies.autosaveSession, ?_, ?_⟩ <;>
    rw [AutosaveState.autosaveSession, autosaveNow]
  · split_ifs
    · apply Tracks.request
      exact cleans.tracks
    · exact cleans.tracks
    · exact cleans.tracks
  · split_ifs
    · exact watches_request _
    · exact cleans.watches
    · exact cleans.watches

theorem Cleans.discard (flies : state.Flies) (watches : state.Watches) (documentId : UUID)
    (tracks : state.Tracks (some documentId)) :
    ((state.settled documentId).discard documentId).Cleans := by
  have flying : (state.settled documentId).Flies := ⟨flies.waits, flies.names, flies.flies⟩
  have tracking : (state.settled documentId).Tracks (some documentId) := tracks
  have watching : (state.settled documentId).Watches := watches
  exact ⟨flying.discard documentId, tracking.discard, watching.discard flying documentId⟩

theorem Cleans.onFinished {future : Nat} {rest : List Nat} (cleans : state.Cleans)
    (reports : state.finished = future :: rest)
    (idle : state.isDirty = false → state.NothingWaits) :
    ({ state with finished := rest }.onFinished future).Cleans := by
  refine ⟨cleans.flies.onFinished reports, ?_, ?_⟩ <;> rw [AutosaveState.onFinished]
  · split_ifs
    · apply Tracks.startPending
      apply Tracks.flushSettledDiscards
      · exact cleans.tracks
      · exact fun clean => Or.inr (idle clean)
    · exact cleans.tracks
  · split_ifs
    · intro clean tracked
      rw [startPending] at clean tracked ⊢
      cases waiting : ({ state with finished := rest } : AutosaveState
          Content).forgetRunning.flushSettledDiscards.pending with
      | none =>
          rw [waiting] at clean tracked
          exact absurd tracked (untracked_of_flush _ clean)
      | some request => rfl
    · exact cleans.watches

end Cleans

/-- Where the controller finds the watched document clean, no snapshot of it
waits behind a running write, and a document that is installed clean has no
record that this process may have left. -/
def CleansInTime (state : AutosaveState Content) : AutosaveAction Content → Prop
  | .turnClean => state.NothingWaits
  | .finishedArrives => state.isDirty = false → state.NothingWaits
  | .changeDocument document _ _ =>
      state.isDirty = false → document.documentId ∈ state.trackedDocuments →
        state.future.isSome = true
  | _ => True

/-- The deletions of the store reach the recovery file. -/
def DeletionsSucceed (state : AutosaveState Content) : AutosaveAction Content → Prop
  | .workerRuns outcome => ∀ entry ∈ state.queue.head?, deletes entry.2 → outcome.applies = true
  | _ => True

theorem Cleans.step {state next : AutosaveState Content} {action : AutosaveAction Content}
    (cleans : state.Cleans) (inTime : CleansInTime state action)
    (deletions : DeletionsSucceed state action) (taken : state.step action = some next) :
    next.Cleans := by
  have flies := cleans.flies.step taken
  cases action with
  | changeDocument document path delayed =>
      rw [AutosaveState.step, Option.some.injEq] at taken
      subst taken
      apply cleans.transport flies <;> rw [schedule] <;> split_ifs with dirty armed <;>
        first
          | rfl
          | exact fun clean tracked => inTime (by simpa using dirty) tracked
          | exact fun clean => by simp_all
  | turnDirty delayed =>
      simp only [AutosaveState.step, Option.ite_none_left_eq_some, Option.some.injEq] at taken
      rw [← taken.2] at flies ⊢
      apply cleans.transport flies <;> rw [schedule] <;> split_ifs <;>
        first | rfl | exact fun impossible => by cases impossible
  | turnClean =>
      simp only [AutosaveState.step, Option.ite_none_right_eq_some, Option.some.injEq] at taken
      rw [← taken.2] at flies ⊢
      exact ⟨flies, turnClean_tracks cleans (Or.inl rfl) (fun _ => inTime),
        turnClean_watches cleans.watches⟩
  | save path =>
      rw [AutosaveState.step, Option.some.injEq] at taken
      subst taken
      have moved : ({ state with currentPath := some path } : AutosaveState Content).Cleans :=
        cleans.transport ⟨cleans.flies.waits, cleans.flies.names, cleans.flies.flies⟩ rfl rfl rfl
          cleans.watches
      exact Cleans.discard moved.flies.turnClean (turnClean_watches moved.watches) _
        (turnClean_tracks moved (Or.inr rfl) (fun impossible => by cases impossible))
  | request request =>
      rw [AutosaveState.step, Option.some.injEq] at taken
      subst taken
      refine ⟨flies, ?_, watches_request request⟩
      apply Tracks.request
      exact cleans.tracks
  | autosaveNow =>
      rw [AutosaveState.step, Option.some.injEq] at taken
      exact taken ▸ cleans.autosaveSession
  | timerFires =>
      simp only [AutosaveState.step, Option.ite_none_right_eq_some, Option.some.injEq] at taken
      rw [← taken.2]
      apply Cleans.autosaveSession
      exact cleans.transport ⟨cleans.flies.waits, cleans.flies.names, cleans.flies.flies⟩ rfl rfl
        rfl cleans.watches
  | discard documentId =>
      rw [AutosaveState.step, Option.some.injEq] at taken
      subst taken
      apply Cleans.discard cleans.flies cleans.watches
      intro other untracked _
      exact cleans.tracks other untracked (fun impossible => by cases impossible)
  | workerRuns outcome =>
      cases queued : state.queue with
      | nil => simp [AutosaveState.step, queued] at taken
      | cons entry rest =>
          simp only [AutosaveState.step, queued, Option.some.injEq] at taken
          subst taken
          refine ⟨flies, cleans.tracks.workerRuns queued ?_, cleans.watches⟩
          exact deletions entry (by rw [queued]; rfl)
  | finishedArrives =>
      cases reports : state.finished with
      | nil => simp [AutosaveState.step, reports] at taken
      | cons future rest =>
          simp only [AutosaveState.step, reports, Option.some.injEq] at taken
          exact taken ▸ cleans.onFinished reports inTime

/-- When no snapshot of the document waits where the controller finds it clean,
in every quiescent state in which it is clean this process has left no record
of it. -/
theorem no_stale_record {document : DocumentSnapshot Content} {leftBehind : UUID → Bool}
    {actions : List (AutosaveAction Content)} {final : AutosaveState Content}
    (reached : run step (initial document leftBehind) actions = some final)
    (deletions : Meets step DeletionsSucceed (initial document leftBehind) actions)
    (inTime : Meets step CleansInTime (initial document leftBehind) actions)
    (quiescent : final.Quiescent) (clean : final.isDirty = false)
    (request : AutosaveRequest Content) :
    final.disk final.document.documentId ≠ some (.saved request) := by
  have initially : (initial document leftBehind).Cleans := by
    refine ⟨⟨fun waits => waits, fun names => names, fun _ impossible => by cases impossible⟩,
      ?_, fun _ tracked => by cases tracked⟩
    intro documentId _ _
    constructor
    · intro other waiting
      cases waiting
    intro other inherited
    change (if leftBehind documentId then _ else _) = _ at inherited
    split_ifs at inherited
    cases inherited
  have preserved : ∀ (state : AutosaveState Content) (action : AutosaveAction Content)
      (next : AutosaveState Content), state.Cleans →
      DeletionsSucceed state action ∧ CleansInTime state action →
      state.step action = some next → next.Cleans := by
    intro state action next cleans guards taken
    exact cleans.step guards.2 guards.1 taken
  have cleans : final.Cleans :=
    run_invariant preserved initially (deletions.and inTime) reached
  have untracked : final.document.documentId ∉ final.trackedDocuments := by
    intro tracked
    have running := cleans.watches clean tracked
    rw [(cleans.flies.idle quiescent).1] at running
    cases running
  rw [← eventual_of_quiescent quiescent]
  exact (cleans.tracks _ untracked (fun impossible => by cases impossible)).2 request

instance (state : AutosaveState Nat) (action : AutosaveAction Nat) :
    Decidable (DeletionsSucceed state action) :=
  match action with
  | .workerRuns outcome => inferInstanceAs
      (Decidable (∀ entry ∈ state.queue.head?, deletes entry.2 → outcome.applies = true))
  | .changeDocument .. => .isTrue trivial
  | .turnDirty _ => .isTrue trivial
  | .turnClean => .isTrue trivial
  | .save _ => .isTrue trivial
  | .request _ => .isTrue trivial
  | .autosaveNow => .isTrue trivial
  | .timerFires => .isTrue trivial
  | .discard _ => .isTrue trivial
  | .finishedArrives => .isTrue trivial

instance (state : AutosaveState Nat) : Decidable state.NothingWaits := by
  unfold NothingWaits
  infer_instance

instance (state : AutosaveState Nat) (action : AutosaveAction Nat) :
    Decidable (CleansInTime state action) :=
  match action with
  | .turnClean => inferInstanceAs (Decidable state.NothingWaits)
  | .finishedArrives => inferInstanceAs (Decidable (state.isDirty = false → state.NothingWaits))
  | .changeDocument document _ _ => inferInstanceAs (Decidable (state.isDirty = false →
      document.documentId ∈ state.trackedDocuments → state.future.isSome = true))
  | .turnDirty _ => .isTrue trivial
  | .save _ => .isTrue trivial
  | .request _ => .isTrue trivial
  | .autosaveNow => .isTrue trivial
  | .timerFires => .isTrue trivial
  | .discard _ => .isTrue trivial
  | .workerRuns _ => .isTrue trivial

/-- The draft is undone while it is written. -/
def undoneDraft : List (AutosaveAction Nat) :=
  [.changeDocument (draft 1) none true, .turnDirty true, .autosaveNow,
    .changeDocument (draft 0) none true, .turnClean, .workerRuns .succeeds, .workerRuns .succeeds,
    .finishedArrives]

theorem no_stale_record_of_undoneDraft :
    ∃ final, run step (initial (draft 0) (fun _ => false)) undoneDraft = some final ∧
      final.disk final.document.documentId ≠ some (.saved (draftRequest 1)) := by
  have left : (run step (initial (draft 0) (fun _ => false)) undoneDraft).map summary =
      some ⟨0, [], false, none, none⟩ := by
    decide +kernel
  rcases exists_of_summary left with ⟨final, reached, quiescent, clean, _⟩
  exact ⟨final, reached, no_stale_record reached (by decide +kernel) (by decide +kernel) quiescent
    clean (draftRequest 1)⟩

/-- Both drafts are undone while the first is written and the second waits. -/
def undoneDrafts : List (AutosaveAction Nat) :=
  [.changeDocument (draft 1) none true, .turnDirty true, .autosaveNow,
    .changeDocument (draft 2) none true, .autosaveNow, .changeDocument (draft 0) none true,
    .turnClean, .workerRuns .succeeds, .workerRuns .succeeds, .finishedArrives,
    .workerRuns .succeeds, .finishedArrives]

/-- The waiting draft is written behind the discard, for a clean document. -/
theorem waiting_draft_outlives_discard :
    ∃ final, run step (initial (draft 0) (fun _ => false)) undoneDrafts = some final ∧
      Meets step DeletionsSucceed (initial (draft 0) (fun _ => false)) undoneDrafts ∧
      final.Quiescent ∧ final.isDirty = false ∧
      final.disk final.document.documentId = some (.saved (draftRequest 2)) := by
  have left : (run step (initial (draft 0) (fun _ => false)) undoneDrafts).map summary =
      some ⟨0, [], false, none, some (.saved (draftRequest 2))⟩ := by
    decide +kernel
  rcases exists_of_summary left with ⟨final, reached, quiescent, clean, _, record⟩
  exact ⟨final, reached, by decide +kernel, quiescent, clean, record⟩

end AutosaveState

end Ui
end Synesthesia
