import Synesthesia.Contracts.RuntimeValues

namespace Synesthesia
namespace Nodes

open Foundation Contracts

/-!
# Parameter specifications

The part of `nodes/base.py` that a tick reads of a parameter: how a live socket
value is coerced to the parameter's type and bounded to its constraints.
Arithmetic on floats is exact.
-/

/-- A bound is written as a float or as an integer. -/
inductive Number where
  | float (value : ℚ)
  | int (value : Int)
deriving DecidableEq

def Number.value : Number → ℚ
  | float value => value
  | int value => value

/-- `int(number)` rounds towards zero. -/
def Number.toInt : Number → Int
  | float value => if value < 0 then ⌈value⌉ else ⌊value⌋
  | int value => value

inductive ParameterUpdateMode where
  | live
  | recompile
  | restartSource
deriving DecidableEq, Repr

/-- A parameter as the execution contract stores it: whether it takes a cable,
and of which type, has been settled. -/
structure ParameterSpec where
  id : String
  valueType : PortType
  default : ParameterValue
  minimum : Option Number
  maximum : Option Number
  choices : List ParameterValue
  connectable : Bool
  updateMode : ParameterUpdateMode
  step : Option Nat
  connectedPortType : Option PortType := none
deriving DecidableEq

/-! ## Texts -/

def portTypeText : PortType → String
  | .image => "IMAGE"
  | .channel => "CHANNEL"
  | .float => "FLOAT"
  | .int => "INT"
  | .bool => "BOOL"
  | .color => "COLOR"
  | .matrix => "MATRIX"
  | .midiState => "MIDI_STATE"
  | .string => "STRING"
  | .scalarArray => "SCALAR_ARRAY"
  | .imageArray => "IMAGE_ARRAY"
  | .channelArray => "CHANNEL_ARRAY"

/-- `type(value).__name__` of a runtime value. -/
def typeName : RuntimeValue → String
  | .image _ => "ImageFrame"
  | .channel _ => "ChannelFrame"
  | .array _ => "ValueArray"
  | .float _ => "float"
  | .int _ => "int"
  | .bool _ => "bool"
  | .color _ => "ColorValue"
  | .midi _ => "MidiStateFrame"
  | .string _ => "str"
  | .noData => "NoDataType"

def parameterTypeName : ParameterValue → String
  | .float _ => "float"
  | .int _ => "int"
  | .bool _ => "bool"
  | .string _ => "str"
  | .color _ => "ColorValue"
  | .matrix _ => "NumericMatrix"

/-- The digits behind the point of an exact decimal. -/
def fractionDigits : Nat → ℚ → String
  | 0, _ => ""
  | fuel + 1, rest =>
      if rest = 0 then ""
      else
        let digit := ⌊rest * 10⌋
        toString digit ++ fractionDigits fuel (rest * 10 - digit)

/-- A finite float as a decimal of at most seventeen digits behind the point. -/
def floatText (value : ℚ) : String :=
  let magnitude := |value|
  let digits := fractionDigits 17 (magnitude - ⌊magnitude⌋)
  (if value < 0 then "-" else "") ++ toString ⌊magnitude⌋ ++ "." ++
    (if digits = "" then "0" else digits)

def Number.text : Number → String
  | float value => floatText value
  | int value => toString value

def rowText (row : List ℚ) : String :=
  "(" ++ ", ".intercalate (row.map floatText) ++ (if row.length = 1 then ",)" else ")")

/-- `repr` of a literal. -/
def parameterText : ParameterValue → String
  | .float (.finite value) => floatText value
  | .float (.infinite negative) => if negative then "-inf" else "inf"
  | .float .nan => "nan"
  | .int value => toString value
  | .bool value => if value then "True" else "False"
  | .string value => "'" ++ value ++ "'"
  | .color value => "ColorValue(r=" ++ floatText value.r ++ ", g=" ++ floatText value.g ++
      ", b=" ++ floatText value.b ++ ", a=" ++ floatText value.a ++ ")"
  | .matrix value => "NumericMatrix(rows=(" ++ ", ".intercalate (value.rows.map rowText) ++
      (if value.rows.length = 1 then ",))" else "))")

def choicesText (choices : List ParameterValue) : String :=
  "(" ++ ", ".intercalate (choices.map parameterText) ++
    (if choices.length = 1 then ",)" else ")")

/-! ## The value ladder -/

namespace ParameterSpec

variable (spec : ParameterSpec)

/-- `_matches_port_type` on literals. -/
def matchesType : ParameterValue → PortType → Bool
  | .float _, .float => true
  | .int _, .int => true
  | .bool _, .bool => true
  | .string _, .string => true
  | .color _, .color => true
  | .matrix _, .matrix => true
  | _, _ => false

/-- A numeric literal as an exact number; a boolean is one, too. -/
def numeric? : ParameterValue → Option ℚ
  | .float (.finite value) => some value
  | .int value => some value
  | .bool value => some (if value then 1 else 0)
  | _ => none

/-- `==` of the modelled language: numbers compare by value. -/
def equalLiteral (left right : ParameterValue) : Bool :=
  match numeric? left, numeric? right with
  | some leftValue, some rightValue => leftValue = rightValue
  | none, none => left = right ∧ left ≠ .float .nan
  | _, _ => false

def stepOrigin : Int := (spec.minimum.map Number.toInt).getD 0

/-- The bound and step checks of `validate` on a finite number. -/
def validateNumber (value : ℚ) : Option String :=
  if (spec.minimum.any (fun minimum => value < minimum.value)) = true then
    spec.minimum.map (fun minimum => "must be at least " ++ minimum.text)
  else if (spec.maximum.any (fun maximum => maximum.value < value)) = true then
    spec.maximum.map (fun maximum => "must be at most " ++ maximum.text)
  else
    match spec.step with
    | none => none
    | some step =>
        let steps := (value - spec.stepOrigin) / step
        if steps ≠ ⌊steps⌋ then
          some ("must use increments of " ++ toString step ++ " from " ++ toString spec.stepOrigin)
        else none

/-- The problem with a literal, if it has one. -/
def validate (value : ParameterValue) : Option String :=
  if ¬ matchesType value spec.valueType then
    some ("expected " ++ portTypeText spec.valueType ++ ", got " ++ parameterTypeName value)
  else if spec.choices ≠ [] ∧ ¬ spec.choices.any (equalLiteral value) then
    some ("expected one of " ++ choicesText spec.choices)
  else
    match value with
    | .float (.finite number) => spec.validateNumber number
    | .float _ => some "must be finite"
    | .int number => spec.validateNumber number
    | _ => none

/-- The first of the choices that is nearest to a number. -/
def nearest (number : ℚ) : ℚ → List ℚ → ℚ
  | best, [] => best
  | best, choice :: rest =>
      nearest number (if |choice - number| < |best - number| then choice else best) rest

def snapToChoice (number : ℚ) (choices : List ℚ) : ℚ :=
  match choices with
  | [] => number
  | choice :: rest => nearest number choice rest

/-- Clamp a number between the bounds. -/
def clamp (number : ℚ) : ℚ :=
  let raised := match spec.minimum with
    | none => number
    | some minimum => max number minimum.value
  match spec.maximum with
  | none => raised
  | some maximum => min raised maximum.value

/-- Snap an integer to the nearest step between the bounds. -/
def snapToStep (number : Int) : Int :=
  match spec.step with
  | none => number
  | some step =>
      let origin := spec.stepOrigin
      let stepIndex := ⌊((number - origin : Int) : ℚ) / step + 1 / 2⌋
      let stepIndex := match spec.minimum with
        | none => stepIndex
        | some minimum => max stepIndex ⌈((minimum.toInt - origin : Int) : ℚ) / step⌉
      let stepIndex := match spec.maximum with
        | none => stepIndex
        | some maximum => min stepIndex ⌊((maximum.toInt - origin : Int) : ℚ) / step⌋
      origin + stepIndex * step

def floatChoices : List ℚ :=
  spec.choices.filterMap (fun choice => match choice with
    | .float (.finite value) => some value
    | _ => none)

def intChoices : List Int :=
  spec.choices.filterMap (fun choice => match choice with
    | .int value => some value
    | _ => none)

/-- Clamp an integer between the bounds, which are integers for this type. -/
def clampInt (number : Int) : Int :=
  let raised := match spec.minimum with
    | none => number
    | some minimum => max number minimum.toInt
  match spec.maximum with
  | none => raised
  | some maximum => min raised maximum.toInt

/-- The clamping and snapping of `sanitize_value`, before its last check. -/
def constrain : ParameterValue → Except PyError ParameterValue
  | .float (.finite number) =>
      .ok (.float (.finite (snapToChoice (spec.clamp number) spec.floatChoices)))
  | .float _ => .error (.valueError "must be finite")
  | .int number =>
      let snapped := spec.snapToStep (spec.clampInt number)
      .ok (.int ⌊snapToChoice snapped (spec.intChoices.map (fun choice => (choice : ℚ)))⌋)
  | other => .ok other

/-- Clamp and snap an authored value to the declared constraints. -/
def sanitizeValue (value : ParameterValue) : Except PyError ParameterValue :=
  if ¬ matchesType value spec.valueType then
    .error (.valueError
      ("expected " ++ portTypeText spec.valueType ++ ", got " ++ parameterTypeName value))
  else do
    let converted ← spec.constrain value
    match spec.validate converted with
    | some error => .error (.valueError error)
    | none => .ok converted

/-- Coerce a live socket value to the parameter's scalar type. -/
def checkLiveScalar (value : RuntimeValue) : Except PyError ParameterValue :=
  match spec.valueType, value with
  | .float, .float number => .ok (.float number)
  | .float, .int number => do
      let converted ← PyFloat.ofInt number
      return .float converted
  | .float, other => .error (.valueError ("expected numeric scalar, got " ++ typeName other))
  | .int, .int number => .ok (.int number)
  | .int, .float (.finite number) => .ok (.int (roundHalfEven number))
  | .int, .float _ => .error (.valueError "expected a finite numeric scalar")
  | .int, other => .error (.valueError ("expected numeric scalar, got " ++ typeName other))
  | .bool, .bool flag => .ok (.bool flag)
  | .bool, other => .error (.valueError ("expected BOOL, got " ++ typeName other))
  | other, _ => .error (.valueError
      (portTypeText other ++ " parameters do not accept live scalar input"))

/-- Coerce and bound a live socket value to the parameter's literal contract. -/
def connectedValue (value : RuntimeValue) : Except PyError ParameterValue := do
  let converted ← spec.checkLiveScalar value
  spec.sanitizeValue converted

/-- Whatever the ladder produces is what `validate` accepts. -/
theorem validate_sanitizeValue {value converted : ParameterValue}
    (sanitized : spec.sanitizeValue value = .ok converted) : spec.validate converted = none := by
  unfold sanitizeValue at sanitized
  split_ifs at sanitized with mismatch
  cases constrained : spec.constrain value with
  | error failure => simp [constrained, bind, Except.bind] at sanitized
  | ok result =>
      simp only [constrained, bind, Except.bind] at sanitized
      cases checked : spec.validate result with
      | some problem => simp [checked] at sanitized
      | none =>
          simp only [checked, Except.ok.injEq] at sanitized
          rw [← sanitized, checked]

theorem validate_connectedValue {value : RuntimeValue} {converted : ParameterValue}
    (coerced : spec.connectedValue value = .ok converted) : spec.validate converted = none := by
  unfold connectedValue at coerced
  cases checked : spec.checkLiveScalar value with
  | error failure => simp [checked, bind, Except.bind] at coerced
  | ok scalar =>
      simp only [checked, bind, Except.bind] at coerced
      exact spec.validate_sanitizeValue coerced

end ParameterSpec
end Nodes
end Synesthesia
