import Synesthesia.Foundation.SlidingWindow
import Synesthesia.Nodes.Base

namespace Synesthesia
namespace Nodes

open Foundation Contracts

/-!
# Nodes that remember their inputs

`BufferRuntime` of `nodes/utility/temporal.py` and `HoldImageRuntime` of
`nodes/image/temporal.py`.  Both keep their last inputs in a bounded queue and
drop them when an input has another signature, when the length of the queue
changes, when the inputs would take too much memory, and on a reset.  They do
these steps in different orders.
-/

/-! ## Reading inputs and parameters -/

/-- An element of an array as a value on a port. -/
def arrayItemValue : ArrayItem → RuntimeValue
  | .image frame => .image frame
  | .channel frame => .channel frame
  | .float value => .float value
  | .int value => .int value

/-- `_array_item`. -/
def arrayItem : RuntimeValue → Except PyError ArrayItem
  | .image frame => .ok (.image frame)
  | .channel frame => .ok (.channel frame)
  | .float value => .ok (.float value)
  | .int value => .ok (.int value)
  | value => .error (.typeError ("Unsupported dynamic value " ++ typeName value))

@[simp] theorem arrayItem_arrayItemValue (item : ArrayItem) :
    arrayItem (arrayItemValue item) = .ok item := by
  cases item <;> rfl

/-- `ValueArray(item_type, values)`. -/
def makeValueArray (itemType : PortType) (values : List ArrayItem) : Except PyError ValueArray :=
  if supported : itemType ∈ [PortType.float, .int, .image, .channel] then
    if homogeneous : ∀ item ∈ values, item.portType = itemType then
      .ok ⟨itemType, values, supported, homogeneous⟩
    else
      .error (.typeError ("ValueArray values do not match " ++ portTypeText itemType))
  else
    .error (.valueError "ValueArray supports FLOAT, INT, IMAGE, or CHANNEL elements")

/-- Items of one type make an array. -/
theorem makeValueArray_of_alike {item : ArrayItem} {values : List ArrayItem}
    (alike : ∀ value ∈ values, value.portType = item.portType) :
    ∃ array, makeValueArray item.portType values = .ok array ∧
      array.itemType = item.portType ∧ array.values = values := by
  have supported : item.portType ∈ [PortType.float, .int, .image, .channel] := by
    cases item <;> simp [ArrayItem.portType]
  rw [makeValueArray, dif_pos supported, dif_pos alike]
  exact ⟨_, rfl, rfl, rfl⟩

/-- `data.nbytes` of 32-bit floats. -/
def nbytes (array : Float32Array) : Nat := 4 * array.data.length

/-- How an exception of the modelled language leaves `process`. -/
def unexpected : PyError → NodeFailure
  | .valueError message => .unexpected message "ValueError"
  | .typeError message => .unexpected message "TypeError"
  | .overflowError message => .unexpected message "OverflowError"
  | .runtimeError message => .unexpected message "RuntimeError"
  | .timeoutError message => .unexpected message "TimeoutError"
  | .keyError message => .unexpected message "KeyError"
  | .osError message => .unexpected message "OSError"

/-- `deque(maxlen=maxlen)`. -/
def makeDeque (Item : Type) (maxlen : Int) : Except PyError (Deque Item) :=
  if maxlen < 0 then .error (.valueError "maxlen must be non-negative")
  else .ok (Deque.empty (some maxlen.toNat))

theorem makeDeque_natCast (Item : Type) (maxlen : Nat) :
    makeDeque Item maxlen = .ok (Deque.empty (some maxlen)) := by
  rw [makeDeque, if_neg (not_lt.mpr (Int.natCast_nonneg maxlen)), Int.toNat_natCast]

/-- The details of an exceeded memory limit. -/
def memoryDetails (estimated limit : Int) : String :=
  "estimated_retained_bytes=" ++ toString estimated ++ "; memory_limit_bytes=" ++ toString limit

/-! ## The buffer -/

def bufferMemoryLimitBytes : Int := 256 * 1024 * 1024

/-- `_buffer_item_bytes`. -/
def bufferItemBytes : ArrayItem → Nat
  | .image frame => nbytes frame.data
  | .channel frame => nbytes frame.data
  | .float _ => 8
  | .int _ => 8

inductive BufferSignature where
  | image (shape : List Nat) (colorSpace : ColorSpace) (channelNames : List String)
      (alphaMode : AlphaMode) (clockId : UUID)
  | channel (shape : List Nat) (semantic : ChannelSemantic) (nominalMin nominalMax : ℚ)
      (cyclic : Bool) (clockId : UUID)
  | number (type : PortType)
deriving DecidableEq

/-- `_buffer_signature`. -/
def bufferSignature : ArrayItem → BufferSignature
  | .image frame => .image frame.data.shape frame.colorSpace frame.channelNames frame.alphaMode
      frame.context.clockId
  | .channel frame => .channel frame.data.shape frame.semantic frame.nominalMin frame.nominalMax
      frame.cyclic frame.context.clockId
  | .float _ => .number .float
  | .int _ => .number .int

/-- Values with one signature have one type. -/
theorem portType_of_bufferSignature {left right : ArrayItem}
    (same : bufferSignature left = bufferSignature right) : left.portType = right.portType := by
  cases left <;> cases right <;> first | rfl | cases same

structure BufferRuntime where
  nodeId : UUID
  values : Deque ArrayItem
  capacity : Int
  signature : Option BufferSignature
  estimatedRetainedBytes : Int

namespace BufferRuntime

/-- `__init__`. -/
def create (nodeId : UUID) : BufferRuntime := ⟨nodeId, Deque.empty none, 0, none, 0⟩

/-- `_clear_locked`. -/
def clearLocked (runtime : BufferRuntime) : BufferRuntime :=
  { runtime with values := runtime.values.clear, signature := none }

/-- The queue that takes a value: the present one, or a new one. -/
def receive (runtime : BufferRuntime) (capacity : Int) (signature : BufferSignature) :
    Except PyError BufferRuntime :=
  if some capacity ≠ runtime.values.maxlen.map Int.ofNat ∨ some signature ≠ runtime.signature then
    (makeDeque ArrayItem capacity).map (fun values =>
      { runtime with values := values, signature := some signature })
  else .ok runtime

/-- The part of `process` under the lock. -/
def keep (runtime : BufferRuntime) (value : ArrayItem) (capacity : Int) :
    BufferRuntime × Except NodeFailure (Dict String RuntimeValue) :=
  let estimated := bufferItemBytes value * capacity
  let runtime := { runtime with capacity := capacity, estimatedRetainedBytes := estimated }
  if bufferMemoryLimitBytes < estimated then
    (runtime.clearLocked, .error (.expected "buffer_memory_limit"
      "Buffer estimated retained memory exceeds its 256 MiB safety limit"
      (some (memoryDetails estimated bufferMemoryLimitBytes))))
  else
    match runtime.receive capacity (bufferSignature value) with
    | .error error => (runtime, .error (unexpected error))
    | .ok runtime =>
        let runtime := { runtime with values := runtime.values.append value }
        match makeValueArray value.portType runtime.values.items with
        | .error error => (runtime, .error (unexpected error))
        | .ok array => (runtime, .ok (Dict.ofEntries [("values", .array array)]))

def process (runtime : BufferRuntime) (inputs : Dict String RuntimeValue)
    (parameters : Dict String ParameterValue) (_context : FrameContext) :
    BufferRuntime × Except NodeFailure (Dict String RuntimeValue) :=
  match inputs.get? "value" with
  | none => (runtime, .error (.unexpected "'value'" "KeyError"))
  | some value =>
      match arrayItem value with
      | .error error => (runtime, .error (unexpected error))
      | .ok value =>
          match parameters.get? "capacity" with
          | none => (runtime, .error (.unexpected "'capacity'" "KeyError"))
          | some (.int capacity) => runtime.keep value capacity
          -- the plan's parameters have the types of their specifications
          | some _ => (runtime, .error (.unexpected "parameter of a wrong type" "TypeError"))

def reset (runtime : BufferRuntime) (_reason : ResetReason) : BufferRuntime :=
  runtime.clearLocked

end BufferRuntime

/-! ## The delayed image -/

structure FrameSignature where
  shape : List Nat
  colorSpace : ColorSpace
  channelNames : List String
  alphaMode : AlphaMode
  clockId : UUID
deriving DecidableEq

/-- `_frame_signature`. -/
def frameSignature (image : ImageFrame) : FrameSignature where
  shape := image.data.shape
  colorSpace := image.colorSpace
  channelNames := image.channelNames
  alphaMode := image.alphaMode
  clockId := image.context.clockId

def mebibyte : Int := 1024 * 1024

structure HoldImageRuntime where
  nodeId : UUID
  history : Deque ImageFrame
  signature : Option FrameSignature
  delayFrames : Int
  memoryLimitBytes : Int
  estimatedRetainedBytes : Int

namespace HoldImageRuntime

/-- `__init__`. -/
def create (nodeId : UUID) : HoldImageRuntime := ⟨nodeId, Deque.empty none, none, 0, 0, 0⟩

/-- `_clear_locked`. -/
def clearLocked (runtime : HoldImageRuntime) : HoldImageRuntime :=
  { runtime with history := runtime.history.clear, signature := none }

/-- `_integer`. -/
def integer (parameters : Dict String ParameterValue) (parameterId : String) :
    Except NodeFailure Int :=
  match parameters.get? parameterId with
  | none => .error (.unexpected (quoted parameterId) "KeyError")
  | some (.int value) => .ok value
  | some _ => .error (.expected "invalid_hold_image_parameter"
      ("Hold Image parameter " ++ quoted parameterId ++ " must be an integer") none)

/-- A changed delay drops the images and makes a new queue. -/
def changeDelay (runtime : HoldImageRuntime) (delayFrames : Int) :
    HoldImageRuntime × Except PyError Unit :=
  if runtime.delayFrames ≠ delayFrames then
    match makeDeque ImageFrame delayFrames with
    | .error error => (runtime.clearLocked, .error error)
    | .ok history => ({ runtime.clearLocked with history := history }, .ok ())
  else (runtime, .ok ())

/-- Another signature drops the images. -/
def changeSignature (runtime : HoldImageRuntime) (signature : FrameSignature) : HoldImageRuntime :=
  if runtime.signature ≠ some signature then
    { runtime.clearLocked with signature := some signature }
  else runtime

/-- The image that leaves the queue, and the one that enters it. -/
def shift (runtime : HoldImageRuntime) (image : ImageFrame) (delayFrames : Int) :
    HoldImageRuntime × Except NodeFailure (Dict String RuntimeValue) :=
  let kept := { runtime with history := runtime.history.append image }
  if (runtime.history.items.length : Int) = delayFrames then
    match runtime.history.items.head? with
    | none => (runtime, .error (.unexpected "deque index out of range" "IndexError"))
    | some earlier => (kept, .ok (Dict.ofEntries [("image", .image earlier)]))
  else (kept, .ok (Dict.ofEntries [("image", .noData)]))

/-- The queue for an image, before its memory is checked. -/
def prepare (runtime : HoldImageRuntime) (image : ImageFrame)
    (delayFrames memoryLimit estimated : Int) : HoldImageRuntime × Except PyError Unit :=
  match runtime.changeDelay delayFrames with
  | (runtime, .error error) => (runtime, .error error)
  | (runtime, .ok ()) =>
      (changeSignature { runtime with
        delayFrames := delayFrames
        memoryLimitBytes := memoryLimit
        estimatedRetainedBytes := estimated } (frameSignature image), .ok ())

/-- The part of `process` under the lock. -/
def hold (runtime : HoldImageRuntime) (image : ImageFrame) (delayFrames memoryLimitMb : Int) :
    HoldImageRuntime × Except NodeFailure (Dict String RuntimeValue) :=
  let memoryLimit := memoryLimitMb * mebibyte
  let estimated := nbytes image.data * delayFrames
  match runtime.prepare image delayFrames memoryLimit estimated with
  | (runtime, .error error) => (runtime, .error (unexpected error))
  | (runtime, .ok ()) =>
      if memoryLimit < estimated then
        (runtime.clearLocked, .error (.expected "hold_image_memory_limit"
          "Hold Image estimated retained memory exceeds memory_limit_mb"
          (some (memoryDetails estimated memoryLimit))))
      else runtime.shift image delayFrames

def process (runtime : HoldImageRuntime) (inputs : Dict String RuntimeValue)
    (parameters : Dict String ParameterValue) (_context : FrameContext) :
    HoldImageRuntime × Except NodeFailure (Dict String RuntimeValue) :=
  match inputs.get? "image" with
  | none => (runtime, .error (.unexpected "'image'" "KeyError"))
  | some (.image image) =>
      match integer parameters "delay_frames", integer parameters "memory_limit_mb" with
      | .error failure, _ => (runtime, .error failure)
      | _, .error failure => (runtime, .error failure)
      | .ok delayFrames, .ok memoryLimitMb => runtime.hold image delayFrames memoryLimitMb
  | some _ =>
      (runtime, .error (.expected "invalid_image" "Hold Image requires an image input" none))

def reset (runtime : HoldImageRuntime) (_reason : ResetReason) : HoldImageRuntime :=
  runtime.clearLocked

end HoldImageRuntime

end Nodes
end Synesthesia
