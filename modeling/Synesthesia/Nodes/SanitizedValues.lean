import Synesthesia.Foundation.NearestPoint
import Synesthesia.Nodes.Parameters

namespace Synesthesia
namespace Nodes

open Foundation Contracts

/-!
# Sanitized parameter values

`sanitize_value` clamps a number between the bounds and snaps it to the step
grid or to the choices.  For a specification that its constructor accepts, this
module says when the function is the projection onto what `validate` accepts.
The two disagree on choices of another kind: `validate` compares them by value,
`sanitize_value` snaps to the choices of the parameter's own type alone.
-/

/-- `_STABLE_ID`. -/
def stableId (text : String) : Bool :=
  match text.toList with
  | [] => false
  | first :: rest =>
      first.isLower && rest.all (fun letter => letter.isLower || letter.isDigit || letter == '_')

def Number.isInt : Number → Bool
  | .float _ => false
  | .int _ => true

namespace ParameterSpec

variable (spec : ParameterSpec)

/-- `__post_init__`.  Bounds are finite and not booleans by their type. -/
def postInit : Except PyError Unit :=
  if ¬ stableId spec.id then
    .error (.valueError ("Invalid stable parameter ID: " ++ quoted spec.id))
  else if (spec.minimum.isSome ∨ spec.maximum.isSome) ∧
      ¬ (spec.valueType = .float ∨ spec.valueType = .int) then
    .error (.valueError "Parameter bounds require a numeric value type")
  else if spec.valueType = .int ∧
      ¬ (spec.minimum.all Number.isInt ∧ spec.maximum.all Number.isInt) then
    .error (.valueError "INT parameter bounds must be integers")
  else if spec.minimum.any (fun low => spec.maximum.any (fun high => high.value < low.value)) then
    .error (.valueError "Parameter minimum cannot exceed maximum")
  else if spec.step.isSome ∧ spec.valueType ≠ .int then
    .error (.valueError "Parameter steps currently require an INT value type")
  else if spec.step.any (fun step => step < 1) then
    .error (.valueError "Parameter step must be a positive integer")
  else if spec.step.isSome ∧ spec.choices ≠ [] then
    .error (.valueError "Parameter step and explicit choices cannot be combined")
  else
    match spec.validate spec.default with
    | some error =>
        .error (.valueError ("Invalid default for parameter " ++ quoted spec.id ++ ": " ++ error))
    | none => .ok ()

/-- What the constructor leaves of a specification. -/
structure WellFormed : Prop where
  intBounds : spec.valueType = .int →
    (∀ low ∈ spec.minimum, low.isInt) ∧ ∀ high ∈ spec.maximum, high.isInt
  ordered : ∀ low ∈ spec.minimum, ∀ high ∈ spec.maximum, low.value ≤ high.value
  stepInt : spec.step.isSome → spec.valueType = .int
  stepPositive : ∀ step ∈ spec.step, 0 < step
  stepAlone : spec.step.isSome → spec.choices = []
  defaultValid : spec.validate spec.default = none

theorem wellFormed_of_postInit (constructed : spec.postInit = .ok ()) : spec.WellFormed := by
  unfold postInit at constructed
  split_ifs at constructed with _ _ integral ordered stepped positive alone
  refine ⟨?_, ?_, ?_, ?_, ?_, ?_⟩
  · intro isInt
    have both := not_and.mp integral isInt
    simp only [Option.all_eq_true, not_not] at both
    exact both
  · intro low lowMem high highMem
    by_contra above
    refine ordered ?_
    rw [Option.mem_def.mp lowMem, Option.mem_def.mp highMem]
    simpa using above
  · intro present
    by_contra other
    exact stepped ⟨present, other⟩
  · intro step stepMem
    by_contra nonpositive
    refine positive ?_
    rw [Option.mem_def.mp stepMem]
    simpa using nonpositive
  · intro present
    by_contra chosen
    exact alone ⟨present, chosen⟩
  · cases checked : spec.validate spec.default with
    | none => rfl
    | some error => simp [checked] at constructed

variable {spec} in
theorem WellFormed.step_eq_none (formed : spec.WellFormed) (chosen : spec.choices ≠ []) :
    spec.step = none := by
  by_contra stepped
  exact chosen (formed.stepAlone (Option.isSome_iff_ne_none.mpr stepped))

/-! ## Values as numbers -/

/-- A finite literal of the parameter's type, and its number. -/
def HasNumber (value : ParameterValue) (number : ℚ) : Prop :=
  matchesType value spec.valueType = true ∧ numeric? value = some number

/-- The numbers between the bounds. -/
def range : Set ℚ :=
  between (spec.minimum.map Number.value) (spec.maximum.map Number.value)

/-- The numbers of the values that `validate` accepts. -/
def validNumbers : Set ℚ :=
  {number | ∃ value, spec.validate value = none ∧ numeric? value = some number}

/-- `sanitize_value` as a projection: it succeeds on every finite value of the
type, with the valid value that is nearest, and leaves valid values alone. -/
structure IsProjection : Prop where
  sanitize : ∀ value number, spec.HasNumber value number →
    ∃ result nearest, spec.sanitizeValue value = .ok result ∧ spec.validate result = none ∧
      (spec.validate value = none → result = value) ∧
      numeric? result = some nearest ∧ IsNearestIn spec.validNumbers number nearest ∧
      spec.sanitizeValue result = .ok result
  connected : ∀ value scalar number, spec.checkLiveScalar value = .ok scalar →
    spec.HasNumber scalar number →
    ∃ result, spec.connectedValue value = .ok result ∧ spec.validate result = none

/-- Every choice is a number between the bounds. -/
def ChoicesBounded : Prop :=
  ∀ choice ∈ spec.choices, ∃ number ∈ numeric? choice, number ∈ spec.range

/-- The choices that `sanitize_value` snaps to take every number that `validate`
accepts; where there is none to snap to, every number between the bounds is
among the choices. -/
structure ChoicesAgree : Prop where
  own : (∃ choice ∈ spec.choices, matchesType choice spec.valueType = true) →
    ∀ value number, spec.HasNumber value number →
      spec.choices.any (equalLiteral value) = true → value ∈ spec.choices
  foreign : spec.choices ≠ [] →
    (∀ choice ∈ spec.choices, matchesType choice spec.valueType = false) →
    ∀ value number, spec.HasNumber value number → number ∈ spec.range →
      spec.choices.any (equalLiteral value) = true

variable {spec} {number : ℚ} {value : ParameterValue}

theorem hasNumber_float (isFloat : spec.valueType = .float) :
    spec.HasNumber value number ↔ value = .float (.finite number) := by
  constructor
  · rintro ⟨typed, valued⟩
    rw [isFloat] at typed
    cases value with
    | float float =>
        cases float with
        | finite rational => simpa [numeric?] using valued
        | infinite negative => simp [numeric?] at valued
        | nan => simp [numeric?] at valued
    | int integer => simp [matchesType] at typed
    | bool flag => simp [matchesType] at typed
    | string text => simp [matchesType] at typed
    | color color => simp [matchesType] at typed
    | matrix matrix => simp [matchesType] at typed
  · rintro rfl
    exact ⟨by rw [isFloat]; rfl, rfl⟩

theorem hasNumber_int (isInt : spec.valueType = .int) :
    spec.HasNumber value number ↔ ∃ integer : Int, value = .int integer ∧ number = integer := by
  constructor
  · rintro ⟨typed, valued⟩
    rw [isInt] at typed
    cases value with
    | int integer => exact ⟨integer, rfl, by simpa [numeric?] using valued.symm⟩
    | float float => simp [matchesType] at typed
    | bool flag => simp [matchesType] at typed
    | string text => simp [matchesType] at typed
    | color color => simp [matchesType] at typed
    | matrix matrix => simp [matchesType] at typed
  · rintro ⟨integer, rfl, rfl⟩
    exact ⟨by rw [isInt]; rfl, rfl⟩

/-- A number has one literal of the type. -/
theorem HasNumber.unique {first second : ParameterValue}
    (numericType : spec.valueType = .float ∨ spec.valueType = .int)
    (firstNumber : spec.HasNumber first number) (secondNumber : spec.HasNumber second number) :
    first = second := by
  rcases numericType with isFloat | isInt
  · rw [(hasNumber_float isFloat).mp firstNumber, (hasNumber_float isFloat).mp secondNumber]
  · rcases (hasNumber_int isInt).mp firstNumber with ⟨one, rfl, number_eq⟩
    rcases (hasNumber_int isInt).mp secondNumber with ⟨other, rfl, rfl⟩
    rw [Int.cast_inj.mp number_eq]

/-! ## What is valid -/

/-- On the grid of the step, if there is one. -/
def OnGrid (spec : ParameterSpec) (number : ℚ) : Prop :=
  ∀ step ∈ spec.step, (number - spec.stepOrigin) / step = ⌊(number - spec.stepOrigin) / step⌋

theorem mem_range :
    number ∈ spec.range ↔
      (∀ low ∈ spec.minimum, low.value ≤ number) ∧ ∀ high ∈ spec.maximum, number ≤ high.value := by
  simp [range, mem_between]

theorem validateNumber_eq_none_iff :
    spec.validateNumber number = none ↔ number ∈ spec.range ∧ spec.OnGrid number := by
  rw [mem_range, validateNumber]
  split_ifs with under beyond
  · rcases Option.any_eq_true _ _ |>.mp under with ⟨low, present, below⟩
    simp only [present, Option.map_some, reduceCtorEq, false_iff]
    rintro ⟨⟨above, _⟩, _⟩
    exact absurd (above low rfl) (not_le.mpr (of_decide_eq_true below))
  · rcases Option.any_eq_true _ _ |>.mp beyond with ⟨high, present, above⟩
    simp only [present, Option.map_some, reduceCtorEq, false_iff]
    rintro ⟨⟨_, below⟩, _⟩
    exact absurd (below high rfl) (not_le.mpr (of_decide_eq_true above))
  · have inside : (∀ low ∈ spec.minimum, low.value ≤ number) ∧
        ∀ high ∈ spec.maximum, number ≤ high.value := by
      constructor
      · intro low present
        by_contra below
        exact under (Option.any_eq_true _ _ |>.mpr ⟨low, present, decide_eq_true (not_le.mp below)⟩)
      · intro high present
        by_contra above
        exact beyond (Option.any_eq_true _ _ |>.mpr
          ⟨high, present, decide_eq_true (not_le.mp above)⟩)
    unfold OnGrid
    cases spec.step with
    | none => simpa using inside
    | some step =>
        simp only [Option.mem_some_iff, forall_eq']
        split_ifs with off
        · simp [off]
        · exact iff_of_true rfl ⟨inside, not_not.mp off⟩

theorem validate_eq_none_iff (numericType : spec.valueType = .float ∨ spec.valueType = .int)
    (valued : spec.HasNumber value number) :
    spec.validate value = none ↔
      (spec.choices = [] ∨ spec.choices.any (equalLiteral value) = true) ∧
        number ∈ spec.range ∧ spec.OnGrid number := by
  have checks : spec.validate value =
      if spec.choices ≠ [] ∧ ¬ spec.choices.any (equalLiteral value) then
        some ("expected one of " ++ choicesText spec.choices)
      else spec.validateNumber number := by
    rw [validate.eq_def, if_neg (not_not.mpr valued.1)]
    rcases numericType with isFloat | isInt
    · rcases (hasNumber_float isFloat).mp valued with rfl
      rfl
    · rcases (hasNumber_int isInt).mp valued with ⟨integer, rfl, rfl⟩
      rfl
  rw [← validateNumber_eq_none_iff, checks]
  split_ifs with outside
  · simp [outside]
  · simp only [not_and, not_not] at outside
    tauto

theorem hasNumber_of_validate
    (valid : spec.validate value = none) (valued : numeric? value = some number) :
    spec.HasNumber value number := by
  refine ⟨?_, valued⟩
  by_contra mismatch
  rw [validate.eq_def, if_pos mismatch] at valid
  cases valid

theorem mem_validNumbers (numericType : spec.valueType = .float ∨ spec.valueType = .int) :
    number ∈ spec.validNumbers ↔ ∃ value, spec.HasNumber value number ∧
      (spec.choices = [] ∨ spec.choices.any (equalLiteral value) = true) ∧
        number ∈ spec.range ∧ spec.OnGrid number := by
  constructor
  · rintro ⟨value, valid, valued⟩
    have typed := hasNumber_of_validate valid valued
    exact ⟨value, typed, (validate_eq_none_iff numericType typed).mp valid⟩
  · rintro ⟨value, typed, checks⟩
    exact ⟨value, (validate_eq_none_iff numericType typed).mpr checks, typed.2⟩

theorem equalLiteral_self
    (valued : numeric? value = some number) : equalLiteral value value = true := by
  simp [equalLiteral, valued]

/-- Where `sanitize_value` has choices to snap to, they are what is valid. -/
theorem validNumbers_of_own (numericType : spec.valueType = .float ∨ spec.valueType = .int)
    (formed : spec.WellFormed) (bounded : spec.ChoicesBounded) (agree : spec.ChoicesAgree)
    (own : ∃ choice ∈ spec.choices, matchesType choice spec.valueType = true) :
    spec.validNumbers = {number | ∃ choice ∈ spec.choices, spec.HasNumber choice number} := by
  rcases own with ⟨first, firstMem, firstTyped⟩
  have chosen : spec.choices ≠ [] := List.ne_nil_of_mem firstMem
  have stepless := formed.step_eq_none chosen
  ext number
  rw [mem_validNumbers numericType]
  constructor
  · rintro ⟨value, valued, equal, _, _⟩
    exact ⟨value, agree.own ⟨first, firstMem, firstTyped⟩ value number valued
      (equal.resolve_left chosen), valued⟩
  · rintro ⟨choice, member, valued⟩
    rcases bounded choice member with ⟨same, numbered, inside⟩
    have equal : same = number := Option.some.inj (numbered.symm.trans valued.2)
    refine ⟨choice, valued, Or.inr ?_, equal ▸ inside, ?_⟩
    · exact List.any_eq_true.mpr ⟨choice, member, equalLiteral_self valued.2⟩
    · intro step present
      rw [stepless] at present
      cases present

/-- Where it has none, every number between the bounds and on the grid is valid. -/
theorem validNumbers_of_no_own (numericType : spec.valueType = .float ∨ spec.valueType = .int)
    (agree : spec.ChoicesAgree)
    (foreign : ∀ choice ∈ spec.choices, matchesType choice spec.valueType = false) :
    spec.validNumbers =
      {number | (∃ value, spec.HasNumber value number) ∧ number ∈ spec.range ∧
        spec.OnGrid number} := by
  ext number
  rw [mem_validNumbers numericType]
  constructor
  · rintro ⟨value, valued, _, inside⟩
    exact ⟨⟨value, valued⟩, inside⟩
  · rintro ⟨⟨value, valued⟩, inside, grid⟩
    refine ⟨value, valued, ?_, inside, grid⟩
    by_cases none_chosen : spec.choices = []
    · exact Or.inl none_chosen
    · exact Or.inr (agree.foreign none_chosen foreign value number valued inside)

/-! ## Clamping and snapping -/

theorem clamp_eq (number : ℚ) :
    spec.clamp number =
      clampBetween (spec.minimum.map Number.value) (spec.maximum.map Number.value) number := by
  unfold clamp clampBetween raiseTo lowerTo
  cases spec.minimum <;> cases spec.maximum <;> rfl

theorem clampInt_eq (number : Int) :
    spec.clampInt number =
      clampBetween (spec.minimum.map Number.toInt) (spec.maximum.map Number.toInt) number := by
  unfold clampInt clampBetween raiseTo lowerTo
  cases spec.minimum <;> cases spec.maximum <;> rfl

theorem WellFormed.ordered_values (formed : spec.WellFormed) :
    ∀ low ∈ spec.minimum.map Number.value, ∀ high ∈ spec.maximum.map Number.value, low ≤ high := by
  intro low lowMem high highMem
  rcases Option.mem_map.mp lowMem with ⟨minimum, minimumMem, rfl⟩
  rcases Option.mem_map.mp highMem with ⟨maximum, maximumMem, rfl⟩
  exact formed.ordered minimum minimumMem maximum maximumMem

theorem toInt_cast {bound : Number} (integral : bound.isInt = true) :
    ((bound.toInt : Int) : ℚ) = bound.value := by
  cases bound with
  | float value => simp [Number.isInt] at integral
  | int value => rfl

theorem WellFormed.ordered_ints (formed : spec.WellFormed) (isInt : spec.valueType = .int) :
    ∀ low ∈ spec.minimum.map Number.toInt, ∀ high ∈ spec.maximum.map Number.toInt, low ≤ high := by
  intro low lowMem high highMem
  rcases Option.mem_map.mp lowMem with ⟨minimum, minimumMem, rfl⟩
  rcases Option.mem_map.mp highMem with ⟨maximum, maximumMem, rfl⟩
  have ordered := formed.ordered minimum minimumMem maximum maximumMem
  rw [← toInt_cast ((formed.intBounds isInt).1 minimum minimumMem),
    ← toInt_cast ((formed.intBounds isInt).2 maximum maximumMem)] at ordered
  exact_mod_cast ordered

/-- The integers between the bounds of an INT parameter. -/
theorem intCast_mem_range (formed : spec.WellFormed) (isInt : spec.valueType = .int)
    (integer : Int) :
    (integer : ℚ) ∈ spec.range ↔
      integer ∈ between (spec.minimum.map Number.toInt) (spec.maximum.map Number.toInt) := by
  have low : ∀ bound ∈ spec.minimum, bound.value ≤ integer ↔ bound.toInt ≤ integer := by
    intro bound member
    rw [← toInt_cast ((formed.intBounds isInt).1 bound member), Int.cast_le]
  have high : ∀ bound ∈ spec.maximum, (integer : ℚ) ≤ bound.value ↔ integer ≤ bound.toInt := by
    intro bound member
    rw [← toInt_cast ((formed.intBounds isInt).2 bound member), Int.cast_le]
  rw [mem_range, mem_between, Option.forall_mem_map, Option.forall_mem_map]
  exact and_congr (forall₂_congr low) (forall₂_congr high)

/-- Scanning for the smallest distance finds a nearest number. -/
theorem isNearestIn_nearest (number best : ℚ) (rest : List ℚ) :
    IsNearestIn {choice | choice ∈ best :: rest} number (nearest number best rest) := by
  induction rest generalizing best with
  | nil =>
      refine ⟨List.mem_singleton_self best, ?_⟩
      intro point member
      rw [List.mem_singleton.mp member]
      rfl
  | cons choice rest ih =>
      rw [nearest]
      split_ifs with closer
      · refine ⟨List.mem_cons_of_mem best (ih choice).mem, ?_⟩
        intro point member
        rcases List.mem_cons.mp member with rfl | later
        · exact ((ih choice).le choice List.mem_cons_self).trans closer.le
        · exact (ih choice).le point later
      · refine ⟨?_, ?_⟩
        · rcases List.mem_cons.mp (ih best).mem with same | later
          · exact List.mem_cons.mpr (Or.inl same)
          · exact List.mem_cons_of_mem best (List.mem_cons_of_mem choice later)
        · intro point member
          rcases List.mem_cons.mp member with rfl | later
          · exact (ih point).le point List.mem_cons_self
          · rcases List.mem_cons.mp later with rfl | last
            · exact ((ih best).le best List.mem_cons_self).trans (not_lt.mp closer)
            · exact (ih best).le point (List.mem_cons_of_mem best last)

theorem isNearestIn_snapToChoice (number : ℚ) {choices : List ℚ} (chosen : choices ≠ []) :
    IsNearestIn {choice | choice ∈ choices} number (snapToChoice number choices) := by
  cases choices with
  | nil => exact absurd rfl chosen
  | cons choice rest => exact isNearestIn_nearest number choice rest

/-! ## The step grid -/

/-- The indices of the steps between the bounds. -/
def lowestIndex (spec : ParameterSpec) (step : Nat) : Option Int :=
  spec.minimum.map (fun low => ⌈((low.toInt - spec.stepOrigin : Int) : ℚ) / step⌉)

def highestIndex (spec : ParameterSpec) (step : Nat) : Option Int :=
  spec.maximum.map (fun high => ⌊((high.toInt - spec.stepOrigin : Int) : ℚ) / step⌋)

theorem snapToStep_eq {step : Nat} (stepped : spec.step = some step) (number : Int) :
    spec.snapToStep number = spec.stepOrigin +
      clampBetween (spec.lowestIndex step) (spec.highestIndex step)
        ⌊((number - spec.stepOrigin : Int) : ℚ) / step + 1 / 2⌋ * step := by
  unfold snapToStep clampBetween raiseTo lowerTo lowestIndex highestIndex
  simp only [stepped]
  cases spec.minimum <;> cases spec.maximum <;> rfl

/-- The index of the minimum is zero, so the window of indices is not empty. -/
theorem WellFormed.ordered_indices (formed : spec.WellFormed) (isInt : spec.valueType = .int)
    (step : Nat) :
    ∀ low ∈ spec.lowestIndex step, ∀ high ∈ spec.highestIndex step, low ≤ high := by
  intro low lowMem high highMem
  rcases Option.mem_map.mp lowMem with ⟨minimum, minimumMem, rfl⟩
  rcases Option.mem_map.mp highMem with ⟨maximum, maximumMem, rfl⟩
  have origin : spec.stepOrigin = minimum.toInt := by
    rw [stepOrigin, Option.mem_def.mp minimumMem]
    rfl
  have ordered : minimum.toInt ≤ maximum.toInt :=
    formed.ordered_ints isInt minimum.toInt (Option.mem_map_of_mem _ minimumMem)
      maximum.toInt (Option.mem_map_of_mem _ maximumMem)
  rw [origin, sub_self, Int.cast_zero, zero_div, Int.ceil_zero, Int.floor_nonneg]
  have apart : (0 : ℚ) ≤ ((maximum.toInt - minimum.toInt : Int) : ℚ) := by
    exact_mod_cast sub_nonneg.mpr ordered
  positivity

/-- An index of the window stands for an integer between the bounds. -/
theorem mem_between_indices {step : Nat} (positive : 0 < step) (index : Int) :
    index ∈ between (spec.lowestIndex step) (spec.highestIndex step) ↔
      spec.stepOrigin + index * step ∈
        between (spec.minimum.map Number.toInt) (spec.maximum.map Number.toInt) := by
  have scale : (0 : ℚ) < step := by exact_mod_cast positive
  have low : ∀ bound ∈ spec.minimum,
      ⌈((bound.toInt - spec.stepOrigin : Int) : ℚ) / step⌉ ≤ index ↔
        bound.toInt ≤ spec.stepOrigin + index * step := by
    intro bound _
    rw [Int.ceil_le, div_le_iff₀ scale, ← sub_le_iff_le_add']
    exact_mod_cast Iff.rfl
  have high : ∀ bound ∈ spec.maximum,
      index ≤ ⌊((bound.toInt - spec.stepOrigin : Int) : ℚ) / step⌋ ↔
        spec.stepOrigin + index * step ≤ bound.toInt := by
    intro bound _
    rw [Int.le_floor, le_div_iff₀ scale, ← le_sub_iff_add_le']
    exact_mod_cast Iff.rfl
  rw [mem_between, mem_between, lowestIndex, highestIndex, Option.forall_mem_map,
    Option.forall_mem_map, Option.forall_mem_map, Option.forall_mem_map]
  exact and_congr (forall₂_congr low) (forall₂_congr high)

/-- The integers that are valid on a grid are the points of the window. -/
theorem stepped_numbers (formed : spec.WellFormed) (isInt : spec.valueType = .int) {step : Nat}
    (stepped : spec.step = some step) :
    {number : ℚ | (∃ value, spec.HasNumber value number) ∧ number ∈ spec.range ∧
        spec.OnGrid number} =
      (fun point => (spec.stepOrigin : ℚ) + point * step) ''
        (Int.cast '' between (spec.lowestIndex step) (spec.highestIndex step)) := by
  have positive : 0 < step := formed.stepPositive step stepped
  have scale : (step : ℚ) ≠ 0 := by exact_mod_cast positive.ne'
  ext number
  constructor
  · rintro ⟨⟨value, valued⟩, inside, grid⟩
    rcases (hasNumber_int isInt).mp valued with ⟨integer, _, rfl⟩
    have whole := grid step stepped
    have back : (integer : ℚ) =
        spec.stepOrigin + (⌊((integer : ℚ) - spec.stepOrigin) / step⌋ : Int) * step := by
      rw [← whole, div_mul_cancel₀ _ scale, add_sub_cancel]
    have same : integer =
        spec.stepOrigin + ⌊((integer : ℚ) - spec.stepOrigin) / step⌋ * step := by
      exact_mod_cast back
    refine ⟨_, Set.mem_image_of_mem _ ((mem_between_indices positive _).mpr ?_), back.symm⟩
    rw [← same]
    exact (intCast_mem_range formed isInt integer).mp inside
  · rintro ⟨_, ⟨index, inside, rfl⟩, rfl⟩
    have point := (mem_between_indices positive index).mp inside
    have cast_eq : ((spec.stepOrigin + index * step : Int) : ℚ) =
        spec.stepOrigin + (index : ℚ) * step := by
      push_cast
      rfl
    refine ⟨⟨.int (spec.stepOrigin + index * step), ?_⟩, ?_, ?_⟩
    · exact (hasNumber_int isInt).mpr ⟨_, rfl, cast_eq.symm⟩
    · dsimp only
      rw [← cast_eq]
      exact (intCast_mem_range formed isInt _).mpr point
    · intro other present
      rw [stepped] at present
      cases present
      simp only [add_sub_cancel_left, mul_div_cancel_right₀ _ scale, Int.floor_intCast]

/-! ## The nearest valid value -/

theorem mem_floatChoices :
    number ∈ spec.floatChoices ↔ .float (.finite number) ∈ spec.choices := by
  unfold floatChoices
  rw [List.mem_filterMap]
  constructor
  · rintro ⟨choice, member, picked⟩
    split at picked
    · cases picked
      exact member
    · cases picked
  · intro member
    exact ⟨_, member, rfl⟩

theorem mem_intChoices {number : Int} :
    number ∈ spec.intChoices ↔ .int number ∈ spec.choices := by
  unfold intChoices
  rw [List.mem_filterMap]
  constructor
  · rintro ⟨choice, member, picked⟩
    split at picked
    · cases picked
      exact member
    · cases picked
  · intro member
    exact ⟨_, member, rfl⟩

theorem floatChoices_eq_nil (isFloat : spec.valueType = .float)
    (foreign : ∀ choice ∈ spec.choices, matchesType choice spec.valueType = false) :
    spec.floatChoices = [] := by
  refine List.eq_nil_iff_forall_not_mem.mpr ?_
  intro value member
  have typed := foreign _ (mem_floatChoices.mp member)
  rw [isFloat] at typed
  cases typed

theorem intChoices_eq_nil (isInt : spec.valueType = .int)
    (foreign : ∀ choice ∈ spec.choices, matchesType choice spec.valueType = false) :
    spec.intChoices = [] := by
  refine List.eq_nil_iff_forall_not_mem.mpr ?_
  intro value member
  have typed := foreign _ (mem_intChoices.mp member)
  rw [isInt] at typed
  cases typed

/-- A float is clamped and snapped to a nearest valid number. -/
theorem isNearestIn_float (isFloat : spec.valueType = .float) (formed : spec.WellFormed)
    (bounded : spec.ChoicesBounded) (agree : spec.ChoicesAgree) (number : ℚ) :
    IsNearestIn spec.validNumbers number (snapToChoice (spec.clamp number) spec.floatChoices) := by
  have numericType : spec.valueType = .float ∨ spec.valueType = .int := Or.inl isFloat
  by_cases own : ∃ choice ∈ spec.choices, matchesType choice spec.valueType = true
  · have points : spec.validNumbers = {choice | choice ∈ spec.floatChoices} := by
      rw [validNumbers_of_own numericType formed bounded agree own]
      ext point
      simp only [Set.mem_ofPred_eq, mem_floatChoices]
      constructor
      · rintro ⟨choice, member, valued⟩
        rw [(hasNumber_float isFloat).mp valued] at member
        exact member
      · intro member
        exact ⟨_, member, (hasNumber_float isFloat).mpr rfl⟩
    have inside : spec.validNumbers ⊆ spec.range := by
      intro point member
      rcases (mem_validNumbers numericType).mp member with ⟨_, _, _, ranged, _⟩
      exact ranged
    have chosen : spec.floatChoices ≠ [] := by
      rcases own with ⟨choice, member, typed⟩
      rcases bounded choice member with ⟨value, numbered, _⟩
      have literal := (hasNumber_float isFloat).mp ⟨typed, numbered⟩
      rw [literal] at member
      exact List.ne_nil_of_mem (mem_floatChoices.mpr member)
    refine IsNearestIn.of_clampBetween inside ?_
    rw [← clamp_eq, points]
    exact isNearestIn_snapToChoice _ chosen
  · push Not at own
    have foreign : ∀ choice ∈ spec.choices, matchesType choice spec.valueType = false := by
      intro choice member
      exact Bool.eq_false_iff.mpr (own choice member)
    have stepless : spec.step = none := by
      by_contra stepped
      have isInt := formed.stepInt (Option.isSome_iff_ne_none.mpr stepped)
      rw [isFloat] at isInt
      cases isInt
    have points : spec.validNumbers = spec.range := by
      rw [validNumbers_of_no_own numericType agree foreign]
      ext point
      simp only [Set.mem_ofPred_eq, OnGrid, stepless]
      constructor
      · exact fun member => member.2.1
      · intro member
        exact ⟨⟨_, (hasNumber_float isFloat).mpr rfl⟩, member, by simp⟩
    have unchosen := floatChoices_eq_nil isFloat foreign
    rw [unchosen, points]
    change IsNearestIn _ number (spec.clamp number)
    rw [clamp_eq]
    exact isNearestIn_clampBetween formed.ordered_values

theorem clampInt_mem_uIcc (formed : spec.WellFormed) (isInt : spec.valueType = .int)
    {number integer : Int} (ranged : (integer : ℚ) ∈ spec.range) :
    (spec.clampInt number : ℚ) ∈ Set.uIcc (number : ℚ) integer := by
  have moved := clampBetween_mem_uIcc number
    ((intCast_mem_range formed isInt integer).mp ranged)
  rw [← clampInt_eq] at moved
  rcases Set.mem_uIcc.mp moved with ⟨above, below⟩ | ⟨above, below⟩
  · exact Set.mem_uIcc.mpr (Or.inl ⟨by exact_mod_cast above, by exact_mod_cast below⟩)
  · exact Set.mem_uIcc.mpr (Or.inr ⟨by exact_mod_cast above, by exact_mod_cast below⟩)

/-- The nearest integer that is clamped and on the grid, before the choices. -/
theorem isNearestIn_snapToStep (isInt : spec.valueType = .int) (formed : spec.WellFormed)
    (number : Int) :
    IsNearestIn {point : ℚ | (∃ value, spec.HasNumber value point) ∧ point ∈ spec.range ∧
        spec.OnGrid point} number (spec.snapToStep (spec.clampInt number) : Int) := by
  refine IsNearestIn.of_between (spec.clampInt number : ℚ) ?_ ?_
  · rintro point ⟨⟨value, valued⟩, ranged, _⟩
    rcases (hasNumber_int isInt).mp valued with ⟨integer, _, rfl⟩
    exact clampInt_mem_uIcc formed isInt ranged
  · cases stepped : spec.step with
    | none =>
        have same : spec.snapToStep (spec.clampInt number) = spec.clampInt number := by
          simp only [snapToStep, stepped]
        rw [same]
        refine IsNearestIn.self ⟨⟨_, (hasNumber_int isInt).mpr ⟨_, rfl, rfl⟩⟩, ?_, ?_⟩
        · rw [intCast_mem_range formed isInt, clampInt_eq]
          exact clampBetween_mem (formed.ordered_ints isInt)
        · intro step present
          rw [stepped] at present
          cases present
    | some step =>
        have scale : (0 : ℚ) < step := by exact_mod_cast formed.stepPositive step stepped
        rw [stepped_numbers formed isInt stepped, snapToStep_eq stepped]
        have rounded := (isNearestIn_clampBetween_floor
          (((spec.clampInt number - spec.stepOrigin : Int) : ℚ) / step)
          (formed.ordered_indices isInt step))
        rw [Int.cast_sub] at rounded
        simpa using rounded.affine scale

theorem constrain_int (number : Int) :
    spec.constrain (.int number) = .ok (.int ⌊snapToChoice (spec.snapToStep (spec.clampInt number))
      (spec.intChoices.map (Int.cast : Int → ℚ))⌋) := by
  simp [constrain, List.map_eq_flatMap]

/-- An integer is clamped and snapped to a nearest valid number. -/
theorem isNearestIn_int (isInt : spec.valueType = .int) (formed : spec.WellFormed)
    (bounded : spec.ChoicesBounded) (agree : spec.ChoicesAgree) (number : Int) :
    ∃ nearest : Int, snapToChoice (spec.snapToStep (spec.clampInt number))
        (spec.intChoices.map (Int.cast : Int → ℚ)) = nearest ∧
      IsNearestIn spec.validNumbers number nearest := by
  have numericType : spec.valueType = .float ∨ spec.valueType = .int := Or.inr isInt
  by_cases own : ∃ choice ∈ spec.choices, matchesType choice spec.valueType = true
  · have points : spec.validNumbers =
        {choice | choice ∈ spec.intChoices.map (Int.cast : Int → ℚ)} := by
      rw [validNumbers_of_own numericType formed bounded agree own]
      ext point
      simp only [Set.mem_ofPred_eq, List.mem_map, mem_intChoices]
      constructor
      · rintro ⟨choice, member, valued⟩
        rcases (hasNumber_int isInt).mp valued with ⟨integer, rfl, rfl⟩
        exact ⟨integer, member, rfl⟩
      · rintro ⟨integer, member, rfl⟩
        exact ⟨_, member, (hasNumber_int isInt).mpr ⟨integer, rfl, rfl⟩⟩
    have chosen : spec.intChoices.map (Int.cast : Int → ℚ) ≠ [] := by
      rcases own with ⟨choice, member, typed⟩
      rcases bounded choice member with ⟨value, numbered, _⟩
      rcases (hasNumber_int isInt).mp ⟨typed, numbered⟩ with ⟨integer, rfl, _⟩
      exact List.ne_nil_of_mem (List.mem_map_of_mem (mem_intChoices.mpr member))
    have stepless : spec.step = none := by
      rcases own with ⟨choice, member, _⟩
      exact formed.step_eq_none (List.ne_nil_of_mem member)
    have kept : spec.snapToStep (spec.clampInt number) = spec.clampInt number := by
      simp only [snapToStep, stepless]
    have snapped := isNearestIn_snapToChoice (spec.clampInt number : ℚ) chosen
    rcases List.mem_map.mp snapped.mem with ⟨integer, _, same⟩
    refine ⟨integer, by rw [kept, same], ?_⟩
    rw [same, points]
    refine snapped.of_between _ ?_
    intro point member
    have valid : point ∈ spec.validNumbers := by
      rw [points]
      exact member
    rcases (mem_validNumbers numericType).mp valid with ⟨value, valued, _, ranged, _⟩
    rcases (hasNumber_int isInt).mp valued with ⟨other, _, rfl⟩
    exact clampInt_mem_uIcc formed isInt ranged
  · push Not at own
    have foreign : ∀ choice ∈ spec.choices, matchesType choice spec.valueType = false := by
      intro choice member
      exact Bool.eq_false_iff.mpr (own choice member)
    have unchosen := intChoices_eq_nil isInt foreign
    refine ⟨spec.snapToStep (spec.clampInt number), ?_, ?_⟩
    · rw [unchosen]
      rfl
    · rw [validNumbers_of_no_own numericType agree foreign]
      exact isNearestIn_snapToStep isInt formed number

/-- What the clamping and snapping leaves is the nearest valid value. -/
theorem exists_nearest (numericType : spec.valueType = .float ∨ spec.valueType = .int)
    (formed : spec.WellFormed) (bounded : spec.ChoicesBounded) (agree : spec.ChoicesAgree)
    (valued : spec.HasNumber value number) :
    ∃ result nearest, spec.constrain value = .ok result ∧ spec.HasNumber result nearest ∧
      IsNearestIn spec.validNumbers number nearest := by
  rcases numericType with isFloat | isInt
  · rcases (hasNumber_float isFloat).mp valued with rfl
    exact ⟨_, _, rfl, (hasNumber_float isFloat).mpr rfl,
      isNearestIn_float isFloat formed bounded agree number⟩
  · rcases (hasNumber_int isInt).mp valued with ⟨integer, rfl, rfl⟩
    rcases isNearestIn_int isInt formed bounded agree integer with ⟨nearest, snapped, near⟩
    refine ⟨.int nearest, nearest, ?_, (hasNumber_int isInt).mpr ⟨nearest, rfl, rfl⟩, near⟩
    rw [constrain_int, snapped, Int.floor_intCast]

theorem sanitizeValue_of_constrain {value result : ParameterValue}
    (typed : matchesType value spec.valueType = true)
    (constrained : spec.constrain value = .ok result)
    (valid : spec.validate result = none) : spec.sanitizeValue value = .ok result := by
  rw [sanitizeValue, if_neg (not_not.mpr typed), constrained]
  simp only [bind, Except.bind, valid]

theorem constrain_of_sanitizeValue {value result : ParameterValue}
    (typed : matchesType value spec.valueType = true)
    (sanitized : spec.sanitizeValue value = .ok result) : spec.constrain value = .ok result := by
  rw [sanitizeValue, if_neg (not_not.mpr typed)] at sanitized
  cases constrained : spec.constrain value with
  | error failure => simp [constrained, bind, Except.bind] at sanitized
  | ok other =>
      simp only [constrained, bind, Except.bind] at sanitized
      cases checked : spec.validate other with
      | some problem => simp [checked] at sanitized
      | none =>
          rw [checked] at sanitized
          exact sanitized

theorem isProjection_of_agree (numericType : spec.valueType = .float ∨ spec.valueType = .int)
    (formed : spec.WellFormed) (bounded : spec.ChoicesBounded) (agree : spec.ChoicesAgree) :
    spec.IsProjection := by
  have sanitizes : ∀ value number, spec.HasNumber value number →
      ∃ result nearest, spec.sanitizeValue value = .ok result ∧ spec.validate result = none ∧
        spec.HasNumber result nearest ∧ IsNearestIn spec.validNumbers number nearest := by
    intro value number valued
    rcases exists_nearest numericType formed bounded agree valued with
      ⟨result, nearest, constrained, resulted, near⟩
    rcases near.mem with ⟨same, valid, numbered⟩
    rw [(hasNumber_of_validate valid numbered).unique numericType resulted] at valid
    exact ⟨result, nearest, sanitizeValue_of_constrain valued.1 constrained valid, valid,
      resulted, near⟩
  have unchanged : ∀ value number, spec.HasNumber value number → spec.validate value = none →
      spec.sanitizeValue value = .ok value := by
    intro value number valued valid
    rcases sanitizes value number valued with ⟨result, nearest, sanitized, _, resulted, near⟩
    rw [near.eq_of_mem ⟨value, valid, valued.2⟩] at resulted
    rwa [resulted.unique numericType valued] at sanitized
  refine ⟨?_, ?_⟩
  · intro value number valued
    rcases sanitizes value number valued with ⟨result, nearest, sanitized, valid, resulted, near⟩
    refine ⟨result, nearest, sanitized, valid, ?_, resulted.2, near, ?_⟩
    · intro alreadyValid
      rw [unchanged value number valued alreadyValid] at sanitized
      exact (Except.ok.inj sanitized).symm
    · exact unchanged result nearest resulted valid
  · intro value scalar number coerced valued
    rcases sanitizes scalar number valued with ⟨result, _, sanitized, valid, _⟩
    refine ⟨result, ?_, valid⟩
    rw [connectedValue, coerced]
    exact sanitized

/-- Between the bounds, clamping and the absent grid change nothing. -/
theorem constrain_of_mem_range (formed : spec.WellFormed) (chosen : spec.choices ≠ [])
    (numericType : spec.valueType = .float ∨ spec.valueType = .int)
    (valued : spec.HasNumber value number)
    (inside : number ∈ spec.range)
    (foreign : ∀ choice ∈ spec.choices, matchesType choice spec.valueType = false) :
    spec.constrain value = .ok value := by
  have stepless := formed.step_eq_none chosen
  rcases numericType with isFloat | isInt
  · rcases (hasNumber_float isFloat).mp valued with rfl
    have unchosen := floatChoices_eq_nil isFloat foreign
    rw [constrain, unchosen, clamp_eq, clampBetween_of_mem inside]
    rfl
  · rcases (hasNumber_int isInt).mp valued with ⟨integer, rfl, rfl⟩
    have unchosen := intChoices_eq_nil isInt foreign
    have kept : spec.snapToStep (spec.clampInt integer) = integer := by
      rw [clampInt_eq, clampBetween_of_mem ((intCast_mem_range formed isInt integer).mp inside)]
      simp only [snapToStep, stepless]
    rw [constrain_int, unchosen, kept]
    simp [snapToChoice]

/-- With choices to snap to, the result is one of the choices. -/
theorem constrain_mem_choices (numericType : spec.valueType = .float ∨ spec.valueType = .int)
    (bounded : spec.ChoicesBounded)
    (own : ∃ choice ∈ spec.choices, matchesType choice spec.valueType = true)
    {value result : ParameterValue} (valued : spec.HasNumber value number)
    (constrained : spec.constrain value = .ok result) : result ∈ spec.choices := by
  rcases own with ⟨choice, member, typed⟩
  rcases bounded choice member with ⟨bound, numbered, _⟩
  rcases numericType with isFloat | isInt
  · rcases (hasNumber_float isFloat).mp valued with rfl
    rw [(hasNumber_float isFloat).mp ⟨typed, numbered⟩] at member
    have snapped := isNearestIn_snapToChoice (spec.clamp number)
      (List.ne_nil_of_mem (mem_floatChoices.mpr member))
    rw [constrain] at constrained
    cases constrained
    exact mem_floatChoices.mp snapped.mem
  · rcases (hasNumber_int isInt).mp valued with ⟨integer, rfl, rfl⟩
    rcases (hasNumber_int isInt).mp ⟨typed, numbered⟩ with ⟨own, rfl, _⟩
    have snapped := isNearestIn_snapToChoice
      (spec.snapToStep (spec.clampInt integer) : ℚ)
      (List.ne_nil_of_mem (List.mem_map_of_mem (f := (Int.cast : Int → ℚ))
        (mem_intChoices.mpr member)))
    rcases List.mem_map.mp snapped.mem with ⟨picked, pickedMem, same⟩
    rw [constrain_int, ← same, Int.floor_intCast] at constrained
    cases constrained
    exact mem_intChoices.mp pickedMem

theorem agree_of_isProjection (numericType : spec.valueType = .float ∨ spec.valueType = .int)
    (formed : spec.WellFormed) (bounded : spec.ChoicesBounded) (projection : spec.IsProjection) :
    spec.ChoicesAgree := by
  refine ⟨?_, ?_⟩
  · intro own value number valued equal
    rcases List.any_eq_true.mp equal with ⟨choice, member, same⟩
    rcases bounded choice member with ⟨bound, numbered, inside⟩
    have number_eq : number = bound := by
      simpa [equalLiteral, valued.2, Option.mem_def.mp numbered] using same
    have chosen : spec.choices ≠ [] := List.ne_nil_of_mem member
    have stepless := formed.step_eq_none chosen
    have valid : spec.validate value = none := by
      refine (validate_eq_none_iff numericType valued).mpr ⟨Or.inr equal, number_eq ▸ inside, ?_⟩
      intro step present
      rw [stepless] at present
      cases present
    rcases projection.sanitize value number valued with
      ⟨result, nearest, sanitized, _, unchanged, _⟩
    rw [unchanged valid] at sanitized
    exact constrain_mem_choices numericType bounded own valued
      (constrain_of_sanitizeValue valued.1 sanitized)
  · intro chosen foreign value number valued inside
    rcases projection.sanitize value number valued with ⟨result, nearest, sanitized, valid, _⟩
    have kept := constrain_of_mem_range formed chosen numericType valued inside foreign
    have same : value = result :=
      Except.ok.inj (kept.symm.trans (constrain_of_sanitizeValue valued.1 sanitized))
    rw [← same] at valid
    exact ((validate_eq_none_iff numericType valued).mp valid).1.resolve_left chosen

/-- A constructible numeric specification whose choices lie between its bounds
sanitizes by projecting onto its valid values exactly when its choices agree. -/
theorem isProjection_iff_agree (spec : ParameterSpec) (constructed : spec.postInit = .ok ())
    (numericType : spec.valueType = .float ∨ spec.valueType = .int)
    (bounded : spec.ChoicesBounded) : spec.IsProjection ↔ spec.ChoicesAgree := by
  have formed := wellFormed_of_postInit spec constructed
  exact ⟨agree_of_isProjection numericType formed bounded,
    isProjection_of_agree numericType formed bounded⟩

/-! ## Two specifications -/

/-- The aperture of the edge detector. -/
def apertureSize : ParameterSpec where
  id := "aperture_size"
  valueType := .int
  default := .int 3
  minimum := none
  maximum := none
  choices := [.int 3, .int 5, .int 7]
  connectable := true
  updateMode := .live
  step := none

theorem apertureSize_isProjection : apertureSize.IsProjection := by
  refine (isProjection_iff_agree apertureSize rfl (Or.inr rfl) ?_).mpr ⟨?_, ?_⟩
  · intro choice member
    simp only [apertureSize, List.mem_cons, List.not_mem_nil, or_false] at member
    rcases member with rfl | rfl | rfl
    · exact ⟨3, rfl, mem_range.mpr (by simp [apertureSize])⟩
    · exact ⟨5, rfl, mem_range.mpr (by simp [apertureSize])⟩
    · exact ⟨7, rfl, mem_range.mpr (by simp [apertureSize])⟩
  · intro _ value number valued equal
    rcases (hasNumber_int rfl).mp valued with ⟨integer, rfl, rfl⟩
    have cases : (integer : ℚ) = 3 ∨ (integer : ℚ) = 5 ∨ (integer : ℚ) = 7 := by
      simpa [apertureSize, equalLiteral, numeric?] using equal
    have integral : integer = 3 ∨ integer = 5 ∨ integer = 7 := by exact_mod_cast cases
    simpa [apertureSize] using integral
  · intro _ foreign
    cases foreign (.int 3) List.mem_cons_self

/-- A factor of one or two, written as an integer and as a float. -/
def mixedFactors : ParameterSpec where
  id := "factor"
  valueType := .float
  default := .float (.finite 1)
  minimum := none
  maximum := none
  choices := [.int 1, .float (.finite 2)]
  connectable := true
  updateMode := .live
  step := none

/-- The default of the constructor is accepted and yet changed. -/
theorem mixedFactors_not_isProjection :
    ¬ ∀ spec : ParameterSpec, spec.postInit = .ok () →
      (spec.valueType = .float ∨ spec.valueType = .int) → spec.ChoicesBounded →
      spec.IsProjection := by
  intro claim
  have bounded : mixedFactors.ChoicesBounded := by
    intro choice member
    simp only [mixedFactors, List.mem_cons, List.not_mem_nil, or_false] at member
    rcases member with rfl | rfl
    · exact ⟨1, rfl, mem_range.mpr (by simp [mixedFactors])⟩
    · exact ⟨2, rfl, mem_range.mpr (by simp [mixedFactors])⟩
  have projection := claim mixedFactors (by decide +kernel) (Or.inl rfl) bounded
  rcases projection.sanitize (.float (.finite 1)) 1 ⟨rfl, rfl⟩ with
    ⟨result, nearest, sanitized, _, unchanged, _⟩
  have moved : mixedFactors.sanitizeValue (.float (.finite 1)) = .ok (.float (.finite 2)) := by
    decide +kernel
  rw [moved] at sanitized
  cases sanitized
  have same := unchanged (by decide +kernel)
  have different : (.float (.finite 2) : ParameterValue) ≠ .float (.finite 1) := by decide +kernel
  exact different same

end ParameterSpec
end Nodes
end Synesthesia
