import Mathlib
import Synesthesia.Foundation.Dict
import Synesthesia.Foundation.Floats

namespace Synesthesia
namespace Contracts

open Foundation

/-!
# Runtime values

`contracts/runtime_values.py`: the immutable values that the compiler, the
scheduler and the nodes share.  What a constructor checks is a field here, so
that an invalid value cannot be built.
-/

/-- A 128-bit identifier; its textual order is the order of the number. -/
abbrev UUID := Nat

/-- A number of the given width in hexadecimal digits. -/
def hexText (width value : Nat) : String :=
  let digits := Nat.toDigits 16 value
  String.ofList (List.replicate (width - digits.length) '0' ++ digits)

/-- `str(uuid)`. -/
def uuidText (id : UUID) : String :=
  let text := hexText 32 id
  "-".intercalate [(text.take 8).toString, ((text.drop 8).take 4).toString,
    ((text.drop 12).take 4).toString, ((text.drop 16).take 4).toString, (text.drop 20).toString]

/-- `repr` of a plain identifier. -/
def quoted (portId : String) : String := "'" ++ portId ++ "'"

inductive PortType where
  | image
  | channel
  | float
  | int
  | bool
  | color
  | matrix
  | midiState
  | string
  | scalarArray
  | imageArray
  | channelArray
deriving DecidableEq, Repr

inductive ColorSpace where
  | linearRgb
  | srgb
  | rgba
  | hsv
  | hsl
  | lab
  | ycrcb
deriving DecidableEq, Repr

inductive AlphaMode where
  | none
  | straight
  | premultiplied
deriving DecidableEq, Repr

inductive ChannelSemantic where
  | generic
  | luminance
  | red
  | green
  | blue
  | alpha
  | hue
  | saturation
  | value
  | lightness
  | labA
  | labB
  | chromaRed
  | chromaBlue
deriving DecidableEq, Repr

/-! ## Frames -/

/-- The tick a value belongs to. -/
structure FrameContext where
  clockId : UUID
  tickIndex : Nat
  sourceFrameIndex : Option Nat
  sourceTimeS : ℚ
  receivedMonotonicNs : Nat
  deadlineMonotonicNs : Option Nat
  isRealtime : Bool
  publishGeneration : Nat
  tickIndex_pos : 1 ≤ tickIndex
  sourceTimeS_nonneg : 0 ≤ sourceTimeS
deriving DecidableEq

/-- The first tick of a source. -/
def FrameContext.first (clockId : UUID) (publishGeneration : Nat) : FrameContext where
  clockId := clockId
  tickIndex := 1
  sourceFrameIndex := none
  sourceTimeS := 0
  receivedMonotonicNs := 0
  deadlineMonotonicNs := none
  isRealtime := true
  publishGeneration := publishGeneration
  tickIndex_pos := le_rfl
  sourceTimeS_nonneg := le_rfl

structure FrameProvenance where
  sourceNodeId : UUID
  sourceKind : String
  sourceKind_ne_empty : sourceKind ≠ ""
deriving DecidableEq

/-- A read-only array of 32-bit floats, by their bits. -/
structure Float32Array where
  shape : List Nat
  data : List UInt32
  length_data : data.length = shape.prod
deriving DecidableEq

structure ImageFrame where
  data : Float32Array
  colorSpace : ColorSpace
  channelNames : List String
  alphaMode : AlphaMode
  context : FrameContext
  provenance : FrameProvenance
  channelNames_ne_nil : channelNames ≠ []
  shape_data : ∃ height width, data.shape = [height, width, channelNames.length]

structure ChannelFrame where
  data : Float32Array
  semantic : ChannelSemantic
  nominalMin : ℚ
  nominalMax : ℚ
  cyclic : Bool
  context : FrameContext
  nominal_lt : nominalMin < nominalMax
  shape_data : ∃ height width, data.shape = [height, width]

/-! ## Scalars and notes -/

/-- Colour components are normalized. -/
structure ColorValue where
  r : ℚ
  g : ℚ
  b : ℚ
  a : ℚ
  normalized : ∀ component ∈ [r, g, b, a], 0 ≤ component ∧ component ≤ 1
deriving DecidableEq

/-- A rectangular matrix with at least one row and one column. -/
structure NumericMatrix where
  rows : List (List ℚ)
  rectangular : ∃ width, 0 < width ∧ ∀ row ∈ rows, row.length = width
  rows_ne_nil : rows ≠ []
deriving DecidableEq

structure MidiNoteKey where
  channel : Fin 16
  note : Fin 128
deriving DecidableEq, Repr

/-- Middle C on the first channel. -/
def middleC : Dict MidiNoteKey (Fin 128) := ⟨[(⟨0, 60⟩, 100)], List.nodup_singleton _⟩

theorem middleC_active : ∀ entry ∈ middleC.entries, entry.2 ≠ 0 := by decide

/-- A set of desired notes with their velocities, which are 1 to 127. -/
structure MidiStateFrame where
  notes : Dict MidiNoteKey (Fin 128)
  context : FrameContext
  sourceNodeId : UUID
  active : ∀ entry ∈ notes.entries, entry.2 ≠ 0
deriving DecidableEq

/-- The state without notes. -/
def MidiStateFrame.silent (context : FrameContext) (sourceNodeId : UUID) : MidiStateFrame where
  notes := Dict.empty
  context := context
  sourceNodeId := sourceNodeId
  active := by
    intro entry member
    cases member

/-! ## Values on ports -/

inductive ArrayItem where
  | image (frame : ImageFrame)
  | channel (frame : ChannelFrame)
  | float (value : PyFloat)
  | int (value : Int)

def ArrayItem.portType : ArrayItem → PortType
  | image _ => .image
  | channel _ => .channel
  | float _ => .float
  | int _ => .int

/-- A homogeneous array; only four element types are supported. -/
structure ValueArray where
  itemType : PortType
  values : List ArrayItem
  supported : itemType ∈ [PortType.float, .int, .image, .channel]
  homogeneous : ∀ item ∈ values, item.portType = itemType

inductive ParameterValue where
  | float (value : PyFloat)
  | int (value : Int)
  | bool (value : Bool)
  | string (value : String)
  | color (value : ColorValue)
  | matrix (value : NumericMatrix)
deriving DecidableEq

inductive RuntimeValue where
  | image (frame : ImageFrame)
  | channel (frame : ChannelFrame)
  | array (values : ValueArray)
  | float (value : PyFloat)
  | int (value : Int)
  | bool (value : Bool)
  | color (value : ColorValue)
  | midi (state : MidiStateFrame)
  | string (value : String)
  | noData

def RuntimeValue.isNoData : RuntimeValue → Bool
  | noData => true
  | _ => false

@[simp] theorem RuntimeValue.isNoData_iff {value : RuntimeValue} :
    value.isNoData = true ↔ value = .noData := by
  cases value <;> simp [RuntimeValue.isNoData]

def ArrayItem.clockIdOf : ArrayItem → Option UUID
  | image frame => some frame.context.clockId
  | channel frame => some frame.context.clockId
  | float _ => none
  | int _ => none

/-- The distinct clocks of an array's items. -/
def ValueArray.clockIds (array : ValueArray) : List UUID :=
  (array.values.filterMap ArrayItem.clockIdOf).dedup

/-- The source clock of a dynamic value, `none` for a static one. -/
def clockIdOf : RuntimeValue → Option UUID
  | .image frame => some frame.context.clockId
  | .channel frame => some frame.context.clockId
  | .midi state => some state.context.clockId
  | .array array =>
      match array.clockIds with
      | [clockId] => some clockId
      | _ => none
  | _ => none

end Contracts
end Synesthesia
