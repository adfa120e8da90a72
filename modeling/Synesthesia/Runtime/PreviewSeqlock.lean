import Mathlib
import Synesthesia.Runtime.PreviewSlot

namespace Synesthesia
namespace Runtime

open Foundation Contracts

/-!
# No torn preview

A settled version stands in the header only between a completed write and the
next first header, and no settled version is ever written twice.  A reader that
finds its first header again has therefore copied an unchanged payload.
-/

section CopyChunk

variable {size : Nat} {chunk places : List Nat} {source target memory : Fin size → UInt8}

/-- A further chunk of the same source extends the places that agree with it. -/
theorem copyChunk_agrees (agrees : ∀ place, place.val ∈ places → target place = source place)
    (place : Fin size) (member : place.val ∈ chunk ++ places) :
    copyChunk chunk source target place = source place := by
  rw [copyChunk]
  by_cases fresh : place.val ∈ chunk
  · rw [if_pos fresh]
  · rw [if_neg fresh]
    exact agrees place ((List.mem_append.mp member).resolve_left fresh)

/-- A copy that covers every place is its source. -/
theorem eq_of_covers (covers : ∀ place < size, place ∈ places)
    (agrees : ∀ place, place.val ∈ places → target place = source place) : target = source := by
  funext place
  exact agrees place (covers place.val place.isLt)

end CopyChunk

namespace AttachedPreviewSlot

variable {descriptor : PreviewSlotDescriptor}

/-- The memory holds one preview under one header. -/
def Holds (slot : AttachedPreviewSlot descriptor) (preview : ImagePreview) : Prop :=
  Accepts descriptor preview ∧
    slot.header = headerOf descriptor slot.header.writeVersion preview ∧
    slot.payload = preview.bytes descriptor.frameSize

/-- What the writer keeps between any two of its steps. -/
structure Consistent (slot : AttachedPreviewSlot descriptor) : Prop where
  ordered : slot.header.writeVersion ≤ slot.writeVersion
  settled : OwnedPreviewSlot.Settled slot.header →
    slot.phase = .idle ∧ ∃ preview ∈ slot.completed, slot.Holds preview
  writing : ∀ preview written, slot.phase = .writing preview written →
    Accepts descriptor preview ∧ slot.writeVersion % 2 = 1 ∧
      (headerOf descriptor slot.writeVersion preview).BodyFits ∧
      ∀ place : Fin descriptor.frameSize, place.val ∈ written →
        slot.payload place = preview.bytes _ place

/-- A later slot of the same memory, as a reader sees it: a header below its
current version never returns, and while one stands the payload does. -/
structure Follows (slot later : AttachedPreviewSlot descriptor) : Prop where
  ordered : slot.writeVersion ≤ later.writeVersion
  completed : slot.completed ⊆ later.completed
  renewed : later.header.writeVersion = slot.header.writeVersion →
    OwnedPreviewSlot.Settled later.header →
    later.header = slot.header ∧ later.payload = slot.payload
  passed : ∀ version, version ≠ 0 → version ≤ slot.writeVersion →
    slot.header.writeVersion ≠ version → later.header.writeVersion ≠ version

theorem oddVersion_spec (version : Nat) :
    version < oddVersion version ∧ oddVersion version % 2 = 1 := by
  rw [oddVersion]
  split_ifs <;> omega

theorem not_settled_of_odd {header : SlotHeader} (odd : header.writeVersion % 2 = 1) :
    ¬ OwnedPreviewSlot.Settled header := by
  intro settled
  exact settled (Or.inr (by omega))

theorem not_settled_of_zero {header : SlotHeader} (zero : header.writeVersion = 0) :
    ¬ OwnedPreviewSlot.Settled header := fun settled => settled (Or.inl zero)

/-- A fresh slot is consistent. -/
theorem consistent_fresh : (fresh descriptor).Consistent where
  ordered := Nat.le_refl 0
  settled := fun settled => absurd settled (not_settled_of_zero rfl)
  writing := fun preview written impossible => by cases impossible

/-! ## What one step of the writer does -/

/-- The steps of the writer as a reader sees them. -/
inductive Writes (slot : AttachedPreviewSlot descriptor) :
    AttachedPreviewSlot descriptor → Prop
  /-- Nothing that a reader sees changes, and no write goes on. -/
  | rests (closed : Bool) (phase : WriterPhase)
      (same : phase = slot.phase ∨ phase = .idle) :
      Writes slot { slot with closed := closed, phase := phase }
  /-- A first header that raised. -/
  | spoils (header : SlotHeader) (version : Nat) (later : slot.writeVersion < version)
      (unsettled : header.writeVersion = 0 ∨
        header.writeVersion = version ∧ header.writeVersion % 2 = 1)
      (idle : slot.phase = .idle) :
      Writes slot { slot with header := header, writeVersion := version }
  /-- A first header. -/
  | begins (preview : ImagePreview) (version : Nat) (later : slot.writeVersion < version)
      (odd : version % 2 = 1) (accepted : Accepts descriptor preview)
      (fits : (headerOf descriptor version preview).BodyFits) :
      Writes slot { slot with
        header := headerOf descriptor version preview
        writeVersion := version
        phase := .writing preview [] }
  /-- A chunk of the payload. -/
  | copies (preview : ImagePreview) (written chunk : List Nat)
      (writing : slot.phase = .writing preview written) :
      Writes slot { slot with
        payload := copyChunk chunk (preview.bytes _) slot.payload
        phase := .writing preview (chunk ++ written) }
  /-- A second header. -/
  | completes (preview : ImagePreview) (written : List Nat)
      (writing : slot.phase = .writing preview written)
      (covers : ∀ place < descriptor.frameSize, place ∈ written) :
      Writes slot { slot with
        header := headerOf descriptor (slot.writeVersion + 1) preview
        writeVersion := slot.writeVersion + 1
        phase := .idle
        completed := slot.completed ++ [preview] }
  /-- A second header whose version no longer fits. -/
  | overflows (preview : ImagePreview) (written : List Nat) (header : SlotHeader)
      (writing : slot.phase = .writing preview written) (zero : header.writeVersion = 0) :
      Writes slot { slot with
        header := header
        writeVersion := slot.writeVersion + 1
        phase := .idle }

theorem beginWrite_cases (slot : AttachedPreviewSlot descriptor) (idle : slot.phase = .idle)
    (preview : ImagePreview) : Writes slot (slot.beginWrite preview) := by
  have odd := oddVersion_spec slot.writeVersion
  rw [beginWrite]
  by_cases rejected : slot.closed ∨ ¬ Accepts descriptor preview
  · rw [if_pos rejected]
    exact Writes.rests slot.closed slot.phase (Or.inl rfl)
  rw [if_neg rejected]
  have accepted : Accepts descriptor preview := not_not.mp (not_or.mp rejected).2
  rcases (headerOf descriptor (oddVersion slot.writeVersion) preview).packInto_cases with
    ⟨packed, fits⟩ | ⟨memory, error, packed, versions, _⟩
  · rw [packed]
    exact Writes.begins preview _ odd.1 odd.2 accepted fits
  · rw [packed]
    refine Writes.spoils memory _ odd.1 ?_ idle
    rcases versions with same | zero
    · have version : memory.writeVersion = oddVersion slot.writeVersion := same
      exact Or.inr ⟨version, version ▸ odd.2⟩
    · exact Or.inl zero

theorem finishWrite_cases (slot : AttachedPreviewSlot descriptor) (preview : ImagePreview)
    (written : List Nat) (writing : slot.phase = .writing preview written)
    (fits : (headerOf descriptor slot.writeVersion preview).BodyFits)
    (covers : ∀ place < descriptor.frameSize, place ∈ written) :
    Writes slot (slot.finishWrite preview) := by
  rw [finishWrite]
  rcases (headerOf descriptor (slot.writeVersion + 1) preview).packInto_cases with
    ⟨packed, _⟩ | ⟨memory, error, packed, _, zero⟩
  · rw [packed]
    exact Writes.completes preview written writing covers
  · rw [packed]
    exact Writes.overflows preview written memory writing (zero fits)

variable {slot next : AttachedPreviewSlot descriptor}

/-- Every step of the child is one of these. -/
theorem step_cases {action : WriterAction}
    (consistent : slot.Consistent) (taken : slot.step action = some next) :
    Writes slot next := by
  cases stands : slot.phase with
  | idle =>
      cases action with
      | write preview =>
          simp only [step, stands, Option.some.injEq] at taken
          exact taken ▸ beginWrite_cases slot stands preview
      | payloadChunk chunk => simp [step, stands] at taken
      | payloadRaises => simp [step, stands] at taken
      | finish => simp [step, stands] at taken
      | close =>
          rw [step, Option.some.injEq] at taken
          exact taken ▸ Writes.rests true slot.phase (Or.inl rfl)
  | writing preview written =>
      cases action with
      | write other => simp [step, stands] at taken
      | payloadChunk chunk =>
          simp only [step, stands, Option.some.injEq] at taken
          exact taken ▸ Writes.copies preview written chunk stands
      | payloadRaises =>
          simp only [step, stands, Option.some.injEq] at taken
          exact taken ▸ Writes.rests slot.closed .idle (Or.inr rfl)
      | finish =>
          simp only [step, stands, Option.ite_none_right_eq_some, Option.some.injEq] at taken
          rcases taken with ⟨covers, rfl⟩
          exact finishWrite_cases slot preview written stands
            (consistent.writing preview written stands).2.2.1 covers
      | close =>
          rw [step, Option.some.injEq] at taken
          exact taken ▸ Writes.rests true slot.phase (Or.inl rfl)

/-- The header of a write in progress is not settled. -/
theorem Consistent.unsettled_of_writing {slot : AttachedPreviewSlot descriptor}
    (consistent : slot.Consistent) {preview : ImagePreview} {written : List Nat}
    (writing : slot.phase = .writing preview written) :
    ¬ OwnedPreviewSlot.Settled slot.header := by
  intro settled
  have idle := (consistent.settled settled).1
  rw [writing] at idle
  cases idle

/-- The writer keeps the memory consistent. -/
theorem Writes.consistent (writes : Writes slot next)
    (consistent : slot.Consistent) : next.Consistent := by
  cases writes with
  | rests closed phase same =>
      refine ⟨consistent.ordered, ?_, ?_⟩
      · intro settled
        have before := consistent.settled settled
        exact ⟨same.elim (fun equal => equal.trans before.1) id, before.2⟩
      · intro preview written writing
        rcases same with equal | idle
        · exact consistent.writing preview written (equal.symm.trans writing)
        · exact absurd (idle.symm.trans writing) (fun impossible => by cases impossible)
  | spoils header version later unsettled idle =>
      refine ⟨?_, ?_, ?_⟩
      · rcases unsettled with zero | ⟨same, _⟩
        · exact zero ▸ Nat.zero_le _
        · exact same.le
      · intro settled
        rcases unsettled with zero | ⟨_, odd⟩
        · exact absurd settled (not_settled_of_zero zero)
        · exact absurd settled (not_settled_of_odd odd)
      · intro preview written writing
        exact absurd (idle.symm.trans writing) (fun impossible => by cases impossible)
  | begins preview version later odd accepted fits =>
      refine ⟨Nat.le_refl version, fun settled => absurd settled (not_settled_of_odd odd), ?_⟩
      intro other written writing
      have same := WriterPhase.writing.inj writing
      rw [← same.1, ← same.2]
      exact ⟨accepted, odd, fits, fun place impossible => by cases impossible⟩
  | copies preview written chunk writing =>
      have before := consistent.writing preview written writing
      refine ⟨consistent.ordered, ?_, ?_⟩
      · intro settled
        exact absurd settled (consistent.unsettled_of_writing writing)
      · intro other places stands
        have same := WriterPhase.writing.inj stands
        rw [← same.1, ← same.2]
        exact ⟨before.1, before.2.1, before.2.2.1, copyChunk_agrees before.2.2.2⟩
  | completes preview written writing covers =>
      have before := consistent.writing preview written writing
      refine ⟨Nat.le_refl _, fun _ => ⟨rfl, preview, ?_, before.1, rfl, ?_⟩, ?_⟩
      · exact List.mem_append_right _ List.mem_cons_self
      · exact eq_of_covers covers before.2.2.2
      · intro other places impossible
        cases impossible
  | overflows preview written header writing zero =>
      refine ⟨?_, fun settled => absurd settled (not_settled_of_zero zero), ?_⟩
      · exact zero ▸ Nat.zero_le _
      · intro other places impossible
        cases impossible

/-- Headers move on to versions that were not there before. -/
theorem Writes.follows (writes : Writes slot next)
    (consistent : slot.Consistent) : Follows slot next := by
  have below := consistent.ordered
  cases writes with
  | rests closed phase same =>
      exact ⟨Nat.le_refl _, List.Subset.refl _, fun _ _ => ⟨rfl, rfl⟩,
        fun version _ _ different => different⟩
  | spoils header version later unsettled idle =>
      refine ⟨later.le, List.Subset.refl _, ?_, ?_⟩
      · intro same settled
        rcases unsettled with zero | ⟨_, odd⟩
        · exact absurd settled (not_settled_of_zero zero)
        · exact absurd settled (not_settled_of_odd odd)
      · intro passed nonzero reached different
        rcases unsettled with zero | ⟨same, _⟩
        · exact fun equal => nonzero (equal.symm.trans zero)
        · exact fun equal => absurd (same.symm.trans equal) (by omega)
  | begins preview version later odd accepted fits =>
      refine ⟨later.le, List.Subset.refl _, ?_, ?_⟩
      · intro same settled
        exact absurd settled (not_settled_of_odd odd)
      · intro passed nonzero reached different equal
        have same : version = passed := equal
        omega
  | copies preview written chunk writing =>
      refine ⟨Nat.le_refl _, List.Subset.refl _, ?_, fun version _ _ different => different⟩
      intro same settled
      exact absurd settled (consistent.unsettled_of_writing writing)
  | completes preview written writing covers =>
      refine ⟨Nat.le_succ _, List.subset_append_left _ _, ?_, ?_⟩
      · intro same settled
        have version : slot.writeVersion + 1 = slot.header.writeVersion := same
        omega
      · intro passed nonzero reached different equal
        have version : slot.writeVersion + 1 = passed := equal
        omega
  | overflows preview written header writing zero =>
      refine ⟨Nat.le_succ _, List.Subset.refl _, ?_, ?_⟩
      · intro same settled
        exact absurd settled (not_settled_of_zero zero)
      · intro passed nonzero reached different equal
        exact nonzero (equal.symm.trans zero)

end AttachedPreviewSlot

namespace OwnedPreviewSlot

open AttachedPreviewSlot

variable {descriptor : PreviewSlotDescriptor}

/-! ## What a reader knows -/

/-- A reader that copies either still sees its first header, with the payload
it copies from, or will not see that version again. -/
def Trusts (slot : AttachedPreviewSlot descriptor) : ReaderPhase descriptor → Prop
  | .copying _ before copied data =>
      Settled before ∧ Describes descriptor before ∧ before.writeVersion ≤ slot.writeVersion ∧
        (slot.header.writeVersion ≠ before.writeVersion ∨
          slot.header = before ∧
            ∀ place : Fin descriptor.frameSize, place.val ∈ copied →
              data place = slot.payload place)
  | .confirming _ header => Settled header
  | _ => True

/-- What a call may end with: nothing, or a completed write. -/
def Sound (completed : List ImagePreview) : ReadOutcome → Prop
  | .read result => result = .ok none ∨ ∃ preview ∈ completed, result = .ok (some preview)
  | .peeked sequence => sequence = 0 ∨ ∃ preview ∈ completed, sequence = preview.sequence

theorem Sound.mono {completed later : List ImagePreview} (grows : completed ⊆ later)
    {outcome : ReadOutcome} (sound : Sound completed outcome) : Sound later outcome := by
  cases outcome with
  | read result =>
      rcases sound with nothing | ⟨preview, member, same⟩
      · exact Or.inl nothing
      · exact Or.inr ⟨preview, grows member, same⟩
  | peeked sequence =>
      rcases sound with nothing | ⟨preview, member, same⟩
      · exact Or.inl nothing
      · exact Or.inr ⟨preview, grows member, same⟩

variable {phase : ReaderPhase descriptor}

/-- What a reader knows survives every step of the writer. -/
theorem Trusts.follows {slot next : AttachedPreviewSlot descriptor} (follows : Follows slot next)
    (trusts : Trusts slot phase) : Trusts next phase := by
  cases phase with
  | idle => trivial
  | reading attempts => trivial
  | peeking attempts => trivial
  | confirming attempts header => exact trusts
  | copying attempts before copied data =>
      rcases trusts with ⟨settled, describes, below, knows⟩
      refine ⟨settled, describes, below.trans follows.ordered, ?_⟩
      have nonzero : before.writeVersion ≠ 0 := fun zero => settled (Or.inl zero)
      rcases knows with gone | ⟨same, agrees⟩
      · exact Or.inl (follows.passed _ nonzero below gone)
      · by_cases stays : next.header.writeVersion = before.writeVersion
        · have still : Settled next.header := by
            intro unsettled
            rw [stays] at unsettled
            exact settled unsettled
          have renewed := follows.renewed (stays.trans (congrArg _ same.symm)) still
          refine Or.inr ⟨renewed.1.trans same, ?_⟩
          intro place member
          rw [renewed.2]
          exact agrees place member
        · exact Or.inl stays

/-- The end of one reader step: the reader knows what it must, and a call that
ended did so well. -/
def Reports (slot : AttachedPreviewSlot descriptor)
    (moved : ReaderPhase descriptor × Option ReadOutcome) : Prop :=
  Trusts slot moved.1 ∧ ∀ outcome ∈ moved.2.toList, Sound slot.completed outcome

variable {slot : AttachedPreviewSlot descriptor}

/-- A step that ends no call. -/
theorem reports_onward (trusts : Trusts slot phase) : Reports slot (phase, none) :=
  ⟨trusts, fun outcome impossible => by cases impossible⟩

/-- A step that ends a call. -/
theorem reports_ended {outcome : ReadOutcome}
    (sound : Sound slot.completed outcome) : Reports slot (.idle, some outcome) := by
  refine ⟨trivial, ?_⟩
  intro other member
  exact List.mem_singleton.mp member ▸ sound

theorem retryRead_reports (slot : AttachedPreviewSlot descriptor) (attempts : Nat) :
    Reports slot (retryRead attempts) := by
  cases attempts with
  | zero => exact reports_ended (Or.inl rfl)
  | succ attempts => exact reports_onward trivial

theorem retryPeek_reports (slot : AttachedPreviewSlot descriptor) (attempts : Nat) :
    Reports slot (retryPeek attempts) := by
  cases attempts with
  | zero => exact reports_ended (Or.inl rfl)
  | succ attempts => exact reports_onward trivial

/-! ## What one step of a reader does -/

/-- The header read that opens an attempt of `read`. -/
theorem openRead_reports (consistent : slot.Consistent)
    (attempts : Nat) : Reports slot (openRead slot.header attempts) := by
  rw [openRead]
  by_cases empty : ¬ Settled slot.header ∨ slot.header.sequence = 0
  · rw [if_pos empty]
    exact retryRead_reports slot attempts
  rw [if_neg empty]
  by_cases foreign : ¬ Describes descriptor slot.header
  · rw [if_pos foreign]
    exact reports_ended (Or.inl rfl)
  rw [if_neg foreign]
  apply reports_onward
  refine ⟨not_not.mp (not_or.mp empty).1, not_not.mp foreign, consistent.ordered, Or.inr ⟨rfl, ?_⟩⟩
  intro place impossible
  cases impossible

/-- The bytes of an accepted preview, in order, are its data. -/
theorem ofFn_bytes {preview : ImagePreview} (accepted : Accepts descriptor preview) :
    List.ofFn (preview.bytes descriptor.frameSize) = preview.data := by
  have size : preview.data.length = descriptor.frameSize := by
    rw [preview.shape, accepted.2.2.1, accepted.2.2.2.1, accepted.2.2.2.2]
    rfl
  apply List.ext_getElem
  · rw [List.length_ofFn, size]
  · intro place here there
    rw [List.getElem_ofFn, ImagePreview.bytes]
    exact List.getD_eq_getElem _ _ there

/-- A header and a payload that hold a preview are read as this preview. -/
theorem previewOf_holds {preview : ImagePreview}
    (holds : slot.Holds preview) : previewOf descriptor slot.header slot.payload = .ok preview := by
  rcases holds with ⟨accepted, header, payload⟩
  rw [previewOf, payload, ofFn_bytes accepted, header]
  have rebuilt := preview.create_self
  rw [accepted.1, accepted.2.1, accepted.2.2.1, accepted.2.2.2.1, accepted.2.2.2.2] at rebuilt
  exact rebuilt

/-- The header read that closes an attempt of `read`: the whole frame was
copied under one settled header, so it is the frame of a completed write. -/
theorem closeRead_reports (consistent : slot.Consistent)
    {attempts : Nat} {before : SlotHeader} {copied : List Nat} {data : Payload descriptor}
    (trusts : Trusts slot (.copying attempts before copied data))
    (covers : ∀ place < descriptor.frameSize, place ∈ copied) :
    Reports slot (closeRead slot.header before attempts data) := by
  rw [closeRead]
  by_cases unchanged : before = slot.header ∧ slot.header.writeVersion % 2 = 0
  · rw [if_pos unchanged]
    rcases trusts with ⟨settled, _, _, gone | ⟨same, agrees⟩⟩
    · exact absurd (congrArg _ unchanged.1.symm) gone
    · rcases (consistent.settled (same ▸ settled)).2 with ⟨preview, member, holds⟩
      have read := previewOf_holds holds
      rw [same, ← eq_of_covers covers agrees] at read
      apply reports_ended
      refine Or.inr ⟨preview, member, ?_⟩
      rw [read]
      rfl
  · rw [if_neg unchanged]
    exact retryRead_reports slot attempts

/-- The header read that closes an attempt of `peek_sequence`. -/
theorem confirm_reports (consistent : slot.Consistent)
    {header : SlotHeader} (settled : Settled header) (attempts : Nat) :
    Reports slot (if slot.header = header then (.idle, some (.peeked header.sequence))
      else retryPeek attempts) := by
  by_cases unchanged : slot.header = header
  · rw [if_pos unchanged]
    rcases (consistent.settled (unchanged ▸ settled)).2 with ⟨preview, member, holds⟩
    apply reports_ended
    refine Or.inr ⟨preview, member, ?_⟩
    exact congrArg SlotHeader.sequence (unchanged.symm.trans holds.2.1)
  · rw [if_neg unchanged]
    exact retryPeek_reports slot attempts

/-- A further chunk of the payload. -/
theorem copyChunk_trusts {attempts : Nat}
    {before : SlotHeader} {copied : List Nat} {data : Payload descriptor}
    (trusts : Trusts slot (.copying attempts before copied data)) (chunk : List Nat) :
    Trusts slot (.copying attempts before (chunk ++ copied)
      (Runtime.copyChunk chunk slot.payload data)) := by
  rcases trusts with ⟨settled, describes, below, gone | ⟨same, agrees⟩⟩
  · exact ⟨settled, describes, below, Or.inl gone⟩
  · exact ⟨settled, describes, below, Or.inr ⟨same, copyChunk_agrees agrees⟩⟩

/-- Every step of a reader reports well. -/
theorem step_reports (consistent : slot.Consistent)
    {closed : Bool} (trusts : Trusts slot phase)
    {action : ReaderAction} {moved : ReaderPhase descriptor × Option ReadOutcome}
    (taken : step closed slot phase action = some moved) : Reports slot moved := by
  revert taken
  fun_cases step closed slot phase action with
  | case1 =>
      intro taken
      cases closed <;> cases taken
      · exact retryRead_reports slot readAttempts
      · exact reports_ended (Or.inl rfl)
  | case2 =>
      intro taken
      cases closed <;> cases taken
      · exact retryPeek_reports slot readAttempts
      · exact reports_ended (Or.inl rfl)
  | case3 attempts =>
      intro taken
      cases taken
      exact openRead_reports consistent attempts
  | case4 attempts before copied data chunk =>
      intro taken
      cases taken
      exact reports_onward (copyChunk_trusts trusts chunk)
  | case5 attempts before copied data covers =>
      intro taken
      cases taken
      exact closeRead_reports consistent trusts covers
  | case6 attempts before copied data partly =>
      intro impossible
      cases impossible
  | case7 attempts =>
      intro taken
      cases taken
      by_cases settled : Settled slot.header
      · rw [if_pos settled]
        exact reports_onward settled
      · rw [if_neg settled]
        exact retryPeek_reports slot attempts
  | case8 attempts header =>
      intro taken
      cases taken
      exact confirm_reports consistent trusts attempts
  | case9 | case10 | case11 | case12 =>
      intro taken
      cases taken
      exact reports_onward trivial
  | case13 =>
      intro impossible
      cases impossible

end OwnedPreviewSlot

/-! ## Every interleaving -/

namespace PreviewSlotState

open OwnedPreviewSlot

variable {descriptor : PreviewSlotDescriptor} {Reader : Type*} [DecidableEq Reader]

/-- The invariant of both sides. -/
structure TornFree (state : PreviewSlotState descriptor Reader) : Prop where
  consistent : state.slot.Consistent
  trusts : ∀ reader, Trusts state.slot (state.readers reader)
  sound : ∀ outcome ∈ state.outcomes, Sound state.slot.completed outcome

/-- No step of any thread tears a frame. -/
theorem step_tornFree {state next : PreviewSlotState descriptor Reader}
    {action : PreviewSlotAction Reader} (tornFree : state.TornFree)
    (taken : state.step action = some next) : next.TornFree := by
  cases action with
  | writer action =>
      rcases Option.map_eq_some_iff.mp taken with ⟨slot, written, rfl⟩
      have writes := AttachedPreviewSlot.step_cases tornFree.consistent written
      have follows := writes.follows tornFree.consistent
      refine ⟨writes.consistent tornFree.consistent, ?_, ?_⟩
      · intro reader
        exact (tornFree.trusts reader).follows follows
      · intro outcome member
        exact (tornFree.sound outcome member).mono follows.completed
  | reader reader action =>
      rcases Option.map_eq_some_iff.mp taken with ⟨moved, read, rfl⟩
      have reports := step_reports tornFree.consistent (tornFree.trusts reader) read
      refine ⟨tornFree.consistent, ?_, ?_⟩
      · intro other
        by_cases same : other = reader
        · subst same
          simpa only [Function.update_self] using reports.1
        · simpa only [Function.update_of_ne same] using tornFree.trusts other
      · intro outcome member
        rcases List.mem_append.mp member with earlier | ended
        · exact tornFree.sound outcome earlier
        · exact reports.2 outcome ended
  | closeOwner =>
      rw [step, Option.some.injEq] at taken
      exact taken ▸ ⟨tornFree.consistent, tornFree.trusts, tornFree.sound⟩

/-- In every interleaving of one writer with any number of readers, from a
fresh slot, a call of `read` ends with nothing or with one completed write as a
whole, and a call of `peek_sequence` with zero or the sequence of one. -/
theorem reads_completed_write {actions : List (PreviewSlotAction Reader)}
    {final : PreviewSlotState descriptor Reader}
    (reached : run step (initial descriptor Reader) actions = some final) :
    ∀ outcome ∈ final.outcomes,
      match outcome with
      | .read result =>
          result = .ok none ∨ ∃ preview ∈ final.slot.completed, result = .ok (some preview)
      | .peeked sequence =>
          sequence = 0 ∨ ∃ preview ∈ final.slot.completed, sequence = preview.sequence := by
  have initially : (initial descriptor Reader).TornFree := by
    refine ⟨AttachedPreviewSlot.consistent_fresh, fun _ => trivial, ?_⟩
    intro outcome impossible
    cases impossible
  have tornFree : final.TornFree :=
    run_invariant (fun _ _ _ kept _ taken => step_tornFree kept taken) initially
      (meets_of_forall (fun _ _ => trivial) _ actions) reached
  intro outcome member
  have sound := tornFree.sound outcome member
  cases outcome with
  | read result => exact sound
  | peeked sequence => exact sound

/-- A slot of one pixel and its first frame. -/
def pixelSlot : PreviewSlotDescriptor := ⟨1, "frame", "slot", 1, 1, 1, 3⟩

def pixelPreview : ImagePreview where
  ownerId := 1
  sourcePortId := "frame"
  sequence := 7
  tickIndex := 3
  width := 1
  height := 1
  channels := 3
  data := [10, 20, 30]
  positive := by decide
  named := by decide
  dimensions := by decide
  shape := rfl

/-- One reader meets the write half done and retries, another peeks. -/
def retriedRead : List (PreviewSlotAction Bool) :=
  [.reader true .read, .writer (.write pixelPreview), .reader true .readHeader,
    .writer (.payloadChunk [0, 2]), .writer (.payloadChunk [1]), .writer .finish,
    .reader true .readHeader, .reader false .peekSequence, .reader true (.copyChunk [1]),
    .reader false .readHeader, .reader true (.copyChunk [0, 2]), .reader false .recheck,
    .reader true .recheck]

/-- The sequence that a call delivers. -/
def deliveredSequence : ReadOutcome → Option Nat
  | .read (.ok (some preview)) => some preview.sequence
  | .read _ => none
  | .peeked sequence => some sequence

theorem reads_completed_write_of_retry :
    ∃ final, run step (initial pixelSlot Bool) retriedRead = some final ∧
      final.outcomes.map deliveredSequence = [some 7, some 7] ∧
      ∀ outcome ∈ final.outcomes,
        match outcome with
        | .read result =>
            result = .ok none ∨ ∃ preview ∈ final.slot.completed, result = .ok (some preview)
        | .peeked sequence =>
            sequence = 0 ∨ ∃ preview ∈ final.slot.completed, sequence = preview.sequence := by
  have delivered : (run step (initial pixelSlot Bool) retriedRead).map
      (fun final => final.outcomes.map deliveredSequence) = some [some 7, some 7] := by
    decide +kernel
  rcases Option.map_eq_some_iff.mp delivered with ⟨final, reached, sequences⟩
  exact ⟨final, reached, sequences, reads_completed_write reached⟩

end PreviewSlotState

end Runtime
end Synesthesia
