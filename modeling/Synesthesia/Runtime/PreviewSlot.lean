import Mathlib
import Synesthesia.Contracts.RuntimeValues
import Synesthesia.Foundation.Exceptions
import Synesthesia.Foundation.Runs

namespace Synesthesia
namespace Runtime

open Foundation Contracts

/-!
# The shared-memory slot of one preview

The child writes a frame between two header writes of one sequence lock; the
interface copies it between two header reads.  A header is read and written at
once, a payload in chunks, and the steps of both sides interleave freely.
-/

/-- The allocation of one port's frame, as the owner announces it. -/
structure PreviewSlotDescriptor where
  ownerId : UUID
  sourcePortId : String
  sharedMemoryName : String
  generation : Nat
  width : Nat
  height : Nat
  channels : Nat

/-- The number of payload bytes behind the header. -/
def PreviewSlotDescriptor.frameSize (descriptor : PreviewSlotDescriptor) : Nat :=
  descriptor.height * descriptor.width * descriptor.channels

/-- One converted frame; the fields that end in a statement are its constructor's checks. -/
structure ImagePreview where
  ownerId : UUID
  sourcePortId : String
  sequence : Nat
  tickIndex : Nat
  width : Nat
  height : Nat
  channels : Nat
  data : List UInt8
  positive : 1 ≤ sequence ∧ 1 ≤ tickIndex
  named : sourcePortId ≠ ""
  dimensions : 1 ≤ width ∧ 1 ≤ height ∧ (channels = 3 ∨ channels = 4)
  shape : data.length = height * width * channels

/-- Build a preview, or raise what its checks raise. -/
def ImagePreview.create (ownerId : UUID) (sourcePortId : String)
    (sequence tickIndex width height channels : Nat) (data : List UInt8) :
    Except PyError ImagePreview :=
  if positive : 1 ≤ sequence ∧ 1 ≤ tickIndex then
    if named : sourcePortId ≠ "" then
      if dimensions : 1 ≤ width ∧ 1 ≤ height ∧ (channels = 3 ∨ channels = 4) then
        if shape : data.length = height * width * channels then
          .ok ⟨ownerId, sourcePortId, sequence, tickIndex, width, height, channels, data,
            positive, named, dimensions, shape⟩
        else .error (.valueError "image preview data does not match its dimensions")
      else .error (.valueError "invalid image preview dimensions")
    else .error (.valueError "image preview source port must be non-empty")
  else .error (.valueError "preview sequence and tick index must be positive")

/-- Rebuilding a preview from its own fields gives the preview. -/
theorem ImagePreview.create_self (preview : ImagePreview) :
    ImagePreview.create preview.ownerId preview.sourcePortId preview.sequence preview.tickIndex
      preview.width preview.height preview.channels preview.data = .ok preview := by
  rw [create, dif_pos preview.positive, dif_pos preview.named, dif_pos preview.dimensions,
    dif_pos preview.shape]

/-! ## The header -/

/-- The fields of the header, in the order of their layout. -/
structure SlotHeader where
  writeVersion : Nat
  sequence : Nat
  tickIndex : Nat
  generation : Nat
  width : Nat
  height : Nat
  channels : Nat
deriving DecidableEq

/-- A fresh slot, and every field behind one that cannot be packed, is zero. -/
def SlotHeader.zero : SlotHeader := ⟨0, 0, 0, 0, 0, 0, 0⟩

/-- Pack the header, in order.  The packer zeroes the header first and stops at
the first field that its width cannot hold. -/
def SlotHeader.packInto (header : SlotHeader) : SlotHeader × Except PyError Unit :=
  let raised : Except PyError Unit := .error (.valueError "argument out of range")
  if 2 ^ 64 ≤ header.writeVersion then (.zero, raised)
  else if 2 ^ 64 ≤ header.sequence then ({ SlotHeader.zero with
    writeVersion := header.writeVersion }, raised)
  else if 2 ^ 64 ≤ header.tickIndex then ({ SlotHeader.zero with
    writeVersion := header.writeVersion, sequence := header.sequence }, raised)
  else if 2 ^ 64 ≤ header.generation then ({ SlotHeader.zero with
    writeVersion := header.writeVersion, sequence := header.sequence
    tickIndex := header.tickIndex }, raised)
  else if 2 ^ 32 ≤ header.width then ({ header with
    width := 0, height := 0, channels := 0 }, raised)
  else if 2 ^ 32 ≤ header.height then ({ header with height := 0, channels := 0 }, raised)
  else if 2 ^ 32 ≤ header.channels then ({ header with channels := 0 }, raised)
  else (header, .ok ())

/-- The fields behind the version fit their widths. -/
def SlotHeader.BodyFits (header : SlotHeader) : Prop :=
  header.sequence < 2 ^ 64 ∧ header.tickIndex < 2 ^ 64 ∧ header.generation < 2 ^ 64 ∧
    header.width < 2 ^ 32 ∧ header.height < 2 ^ 32 ∧ header.channels < 2 ^ 32

/-- What packing leaves in memory: the version as given, or zero; and without
an exception the whole header. -/
theorem SlotHeader.packInto_cases (header : SlotHeader) :
    (header.packInto = (header, .ok ()) ∧ header.BodyFits) ∨
      (∃ memory error, header.packInto = (memory, .error error) ∧
        (memory.writeVersion = header.writeVersion ∨ memory.writeVersion = 0) ∧
        (header.BodyFits → memory.writeVersion = 0)) := by
  rw [packInto]
  by_cases version : 2 ^ 64 ≤ header.writeVersion
  · rw [if_pos version]
    exact Or.inr ⟨_, _, rfl, Or.inr rfl, fun _ => rfl⟩
  rw [if_neg version]
  split_ifs with sequence tick generation width height channels
  · exact Or.inr ⟨_, _, rfl, Or.inl rfl, fun fits => absurd fits.1 sequence.not_gt⟩
  · exact Or.inr ⟨_, _, rfl, Or.inl rfl, fun fits => absurd fits.2.1 tick.not_gt⟩
  · exact Or.inr ⟨_, _, rfl, Or.inl rfl, fun fits => absurd fits.2.2.1 generation.not_gt⟩
  · exact Or.inr ⟨_, _, rfl, Or.inl rfl, fun fits => absurd fits.2.2.2.1 width.not_gt⟩
  · exact Or.inr ⟨_, _, rfl, Or.inl rfl, fun fits => absurd fits.2.2.2.2.1 height.not_gt⟩
  · exact Or.inr ⟨_, _, rfl, Or.inl rfl, fun fits => absurd fits.2.2.2.2.2 channels.not_gt⟩
  · exact Or.inl ⟨rfl, not_le.mp sequence, not_le.mp tick, not_le.mp generation,
      not_le.mp width, not_le.mp height, not_le.mp channels⟩

/-! ## The writer -/

/-- The payload bytes of a slot. -/
abbrev Payload (descriptor : PreviewSlotDescriptor) : Type :=
  Fin descriptor.frameSize → UInt8

/-- Copy the bytes at the given places. -/
def copyChunk {size : Nat} (chunk : List Nat) (source target : Fin size → UInt8) :
    Fin size → UInt8 :=
  fun place => if place.val ∈ chunk then source place else target place

/-- A preview's bytes in the order of the memory view of its data. -/
def ImagePreview.bytes (preview : ImagePreview) (size : Nat) : Fin size → UInt8 :=
  fun place => preview.data.getD place.val 0

/-- Where the writing thread stands: outside a write, or between the two header
writes with some places written. -/
inductive WriterPhase where
  | idle
  | writing (preview : ImagePreview) (written : List Nat)

/-- The shared memory, with the attachment that writes it and, as history, the
previews whose second header was written. -/
structure AttachedPreviewSlot (descriptor : PreviewSlotDescriptor) where
  header : SlotHeader
  payload : Payload descriptor
  writeVersion : Nat
  closed : Bool
  phase : WriterPhase
  completed : List ImagePreview

/-- The owner's zeroed memory right after the child attached to it. -/
def AttachedPreviewSlot.fresh (descriptor : PreviewSlotDescriptor) :
    AttachedPreviewSlot descriptor where
  header := .zero
  payload := fun _ => 0
  writeVersion := 0
  closed := false
  phase := .idle
  completed := []

inductive WriterAction where
  /-- The checks of `write`, the version and the first header. -/
  | write (preview : ImagePreview)
  /-- Some bytes of the payload. -/
  | payloadChunk (chunk : List Nat)
  /-- The payload copy raises. -/
  | payloadRaises
  /-- The version and the second header. -/
  | finish
  | close

namespace AttachedPreviewSlot

variable {descriptor : PreviewSlotDescriptor}

/-- The first header carries the next odd version. -/
def oddVersion (writeVersion : Nat) : Nat :=
  if (writeVersion + 1) % 2 = 0 then writeVersion + 2 else writeVersion + 1

/-- The header that `write` packs for a preview. -/
def headerOf (descriptor : PreviewSlotDescriptor) (writeVersion : Nat)
    (preview : ImagePreview) : SlotHeader :=
  ⟨writeVersion, preview.sequence, preview.tickIndex, descriptor.generation, descriptor.width,
    descriptor.height, descriptor.channels⟩

/-- The previews that `write` accepts. -/
def Accepts (descriptor : PreviewSlotDescriptor) (preview : ImagePreview) : Prop :=
  preview.ownerId = descriptor.ownerId ∧ preview.sourcePortId = descriptor.sourcePortId ∧
    preview.width = descriptor.width ∧ preview.height = descriptor.height ∧
    preview.channels = descriptor.channels

instance (preview : ImagePreview) : Decidable (Accepts descriptor preview) := by
  unfold Accepts
  infer_instance

/-- The first half of `write`; a rejected preview raises and changes nothing. -/
def beginWrite (slot : AttachedPreviewSlot descriptor) (preview : ImagePreview) :
    AttachedPreviewSlot descriptor :=
  if slot.closed ∨ ¬ Accepts descriptor preview then slot
  else
    match (headerOf descriptor (oddVersion slot.writeVersion) preview).packInto with
    | (memory, .ok _) => { slot with
        header := memory
        writeVersion := oddVersion slot.writeVersion
        phase := .writing preview [] }
    | (memory, .error _) => { slot with
        header := memory
        writeVersion := oddVersion slot.writeVersion }

/-- The second half of `write`, once the payload is there. -/
def finishWrite (slot : AttachedPreviewSlot descriptor) (preview : ImagePreview) :
    AttachedPreviewSlot descriptor :=
  match (headerOf descriptor (slot.writeVersion + 1) preview).packInto with
  | (memory, .ok _) => { slot with
      header := memory
      writeVersion := slot.writeVersion + 1
      phase := .idle
      completed := slot.completed ++ [preview] }
  | (memory, .error _) => { slot with
      header := memory
      writeVersion := slot.writeVersion + 1
      phase := .idle }

/-- One atomic step of the child; `none` when its thread is elsewhere. -/
def step (slot : AttachedPreviewSlot descriptor) :
    WriterAction → Option (AttachedPreviewSlot descriptor)
  | .write preview =>
      match slot.phase with
      | .idle => some (slot.beginWrite preview)
      | .writing _ _ => none
  | .payloadChunk chunk =>
      match slot.phase with
      | .idle => none
      | .writing preview written => some { slot with
          payload := copyChunk chunk (preview.bytes _) slot.payload
          phase := .writing preview (chunk ++ written) }
  | .payloadRaises =>
      match slot.phase with
      | .idle => none
      | .writing _ _ => some { slot with phase := .idle }
  | .finish =>
      match slot.phase with
      | .idle => none
      | .writing preview written =>
          if ∀ place < descriptor.frameSize, place ∈ written then
            some (slot.finishWrite preview)
          else none
  | .close => some { slot with closed := true }

end AttachedPreviewSlot

/-! ## The readers -/

/-- Where one reading thread stands, with the attempts it has left. -/
inductive ReaderPhase (descriptor : PreviewSlotDescriptor) where
  | idle
  | reading (attempts : Nat)
  | copying (attempts : Nat) (before : SlotHeader) (copied : List Nat) (data : Payload descriptor)
  | peeking (attempts : Nat)
  | confirming (attempts : Nat) (header : SlotHeader)

/-- What a call of the owner ends with. -/
inductive ReadOutcome where
  | read (result : Except PyError (Option ImagePreview))
  | peeked (sequence : Nat)

inductive ReaderAction where
  | read
  | peekSequence
  /-- The header read that opens an attempt. -/
  | readHeader
  /-- Some bytes of the payload. -/
  | copyChunk (chunk : List Nat)
  /-- The header read that closes an attempt. -/
  | recheck
  /-- An exception ends the call, such as a lack of memory for the copy. -/
  | raises

namespace OwnedPreviewSlot

variable {descriptor : PreviewSlotDescriptor}

/-- The attempts of one call. -/
def readAttempts : Nat := 4

/-- The next attempt of `read`, or its end. -/
def retryRead : Nat → ReaderPhase descriptor × Option ReadOutcome
  | 0 => (.idle, some (.read (.ok none)))
  | attempts + 1 => (.reading (attempts + 1), none)

/-- The next attempt of `peek_sequence`, or its end. -/
def retryPeek : Nat → ReaderPhase descriptor × Option ReadOutcome
  | 0 => (.idle, some (.peeked 0))
  | attempts + 1 => (.peeking (attempts + 1), none)

/-- A version that says that a completed write is in place. -/
def Settled (header : SlotHeader) : Prop :=
  ¬ (header.writeVersion = 0 ∨ header.writeVersion % 2 ≠ 0)

instance (header : SlotHeader) : Decidable (Settled header) := by
  unfold Settled
  infer_instance

/-- The slot's own shape and generation. -/
def Describes (descriptor : PreviewSlotDescriptor) (header : SlotHeader) : Prop :=
  header.generation = descriptor.generation ∧ header.width = descriptor.width ∧
    header.height = descriptor.height ∧ header.channels = descriptor.channels

instance (header : SlotHeader) : Decidable (Describes descriptor header) := by
  unfold Describes
  infer_instance

/-- The attempt of `read` up to its copy. -/
def openRead (header : SlotHeader) (attempts : Nat) :
    ReaderPhase descriptor × Option ReadOutcome :=
  if ¬ Settled header ∨ header.sequence = 0 then retryRead attempts
  else if ¬ Describes descriptor header then (.idle, some (.read (.ok none)))
  else (.copying attempts header [] (fun _ => 0), none)

/-- The preview that `read` returns for a header and its copied payload. -/
def previewOf (descriptor : PreviewSlotDescriptor) (header : SlotHeader)
    (data : Payload descriptor) : Except PyError ImagePreview :=
  ImagePreview.create descriptor.ownerId descriptor.sourcePortId header.sequence
    header.tickIndex header.width header.height header.channels (List.ofFn data)

/-- The attempt of `read` after its copy. -/
def closeRead (header before : SlotHeader) (attempts : Nat) (data : Payload descriptor) :
    ReaderPhase descriptor × Option ReadOutcome :=
  if before = header ∧ header.writeVersion % 2 = 0 then
    (.idle, some (.read ((previewOf descriptor before data).map some)))
  else retryRead attempts

/-- One atomic step of a reading thread: its next phase and, when the call
ends, what it returns. -/
def step (closed : Bool) (slot : AttachedPreviewSlot descriptor) :
    ReaderPhase descriptor → ReaderAction → Option (ReaderPhase descriptor × Option ReadOutcome)
  | .idle, .read =>
      some (if closed then (.idle, some (.read (.ok none))) else retryRead readAttempts)
  | .idle, .peekSequence =>
      some (if closed then (.idle, some (.peeked 0)) else retryPeek readAttempts)
  | .reading (attempts + 1), .readHeader => some (openRead slot.header attempts)
  | .copying attempts before copied data, .copyChunk chunk =>
      some (.copying attempts before (chunk ++ copied)
        (Runtime.copyChunk chunk slot.payload data), none)
  | .copying attempts before copied data, .recheck =>
      if ∀ place < descriptor.frameSize, place ∈ copied then
        some (closeRead slot.header before attempts data)
      else none
  | .peeking (attempts + 1), .readHeader =>
      some (if Settled slot.header then (.confirming attempts slot.header, none)
        else retryPeek attempts)
  | .confirming attempts header, .recheck =>
      some (if slot.header = header then (.idle, some (.peeked header.sequence))
        else retryPeek attempts)
  | .reading _, .raises => some (.idle, none)
  | .copying _ _ _ _, .raises => some (.idle, none)
  | .peeking _, .raises => some (.idle, none)
  | .confirming _ _, .raises => some (.idle, none)
  | _, _ => none

end OwnedPreviewSlot

/-! ## Both sides -/

/-- The slot with any number of reading threads of its owner. -/
structure PreviewSlotState (descriptor : PreviewSlotDescriptor) (Reader : Type*) where
  slot : AttachedPreviewSlot descriptor
  ownerClosed : Bool
  readers : Reader → ReaderPhase descriptor
  outcomes : List ReadOutcome

inductive PreviewSlotAction (Reader : Type*) where
  | writer (action : WriterAction)
  | reader (reader : Reader) (action : ReaderAction)
  | closeOwner

namespace PreviewSlotState

variable {descriptor : PreviewSlotDescriptor} {Reader : Type*}

def initial (descriptor : PreviewSlotDescriptor) (Reader : Type*) :
    PreviewSlotState descriptor Reader where
  slot := .fresh descriptor
  ownerClosed := false
  readers := fun _ => .idle
  outcomes := []

/-- One atomic step of one thread. -/
def step [DecidableEq Reader] (state : PreviewSlotState descriptor Reader) :
    PreviewSlotAction Reader → Option (PreviewSlotState descriptor Reader)
  | .writer action => (state.slot.step action).map (fun slot => { state with slot := slot })
  | .reader reader action =>
      (OwnedPreviewSlot.step state.ownerClosed state.slot (state.readers reader) action).map
        (fun moved => { state with
          readers := Function.update state.readers reader moved.1
          outcomes := state.outcomes ++ moved.2.toList })
  | .closeOwner => some { state with ownerClosed := true }

end PreviewSlotState

end Runtime
end Synesthesia
