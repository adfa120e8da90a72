import Synesthesia.Foundation.Exceptions

namespace Synesthesia
namespace Nodes

open Foundation

/-!
# The Scanline node

The position of the line in `nodes/synesthesia/scanline.py`.  A tick checks its
parameters, places the line anew where the height or the direction is not the
one of the position, maps the row to notes and then moves the line.  What the
mapping makes of a row, or the exception that it raises, belongs to the tick.
-/

inductive ScanDirection where
  | bottomToTop
  | topToBottom
  | pingPong
deriving DecidableEq, Repr

/-- The attributes of the runtime; they are set together and cleared together. -/
structure ScanPosition where
  rowIndex : Int
  height : Nat
  direction : ScanDirection
  pingPongStep : Int
deriving DecidableEq, Repr

/-- One call of `process`. -/
structure ScanTick (Midi : Type) where
  height : Nat
  direction : String
  advanceRows : Int
  midi : Int → Except PyError Midi

/-- `ScanlineRuntime`; `none` before the first tick and after a reset. -/
abbrev ScanlineRuntime := Option ScanPosition

/-- `_validate_direction`. -/
def validateDirection (direction : String) : Except PyError ScanDirection :=
  if direction = "BOTTOM_TO_TOP" then .ok .bottomToTop
  else if direction = "TOP_TO_BOTTOM" then .ok .topToBottom
  else if direction = "PING_PONG" then .ok .pingPong
  else .error (.valueError ("Unknown scanline direction: '" ++ direction ++ "'"))

/-- `_validate_advance_rows`. -/
def validateAdvanceRows (advanceRows : Int) : Except PyError Unit :=
  if advanceRows < 1 then .error (.valueError "Scanline advance rows must be at least one")
  else .ok ()

/-- The row at which a line begins. -/
def startRow (height : Nat) (direction : ScanDirection) : Int :=
  if direction = .bottomToTop then height - 1 else 0

/-- `_initialize`. -/
def initializeLine (height : Nat) (direction : ScanDirection) : Except PyError ScanPosition :=
  if height < 1 then .error (.valueError "Scanline channel height must be at least one")
  else .ok ⟨startRow height direction, height, direction, 1⟩

namespace ScanPosition

/-- One row of a line that turns at the edges. -/
def bounce (position : ScanPosition) : ScanPosition :=
  let candidate := position.rowIndex + position.pingPongStep
  if position.height ≤ candidate then
    { position with rowIndex := position.height - 2, pingPongStep := -1 }
  else if candidate < 0 then { position with rowIndex := 1, pingPongStep := 1 }
  else { position with rowIndex := candidate }

/-- `_advance`. -/
def advance (position : ScanPosition) (advanceRows : Int) : ScanPosition :=
  match position.direction with
  | .topToBottom =>
      { position with rowIndex := (position.rowIndex + advanceRows) % position.height }
  | .bottomToTop =>
      { position with rowIndex := (position.rowIndex - advanceRows) % position.height }
  | .pingPong =>
      if position.height = 1 then { position with rowIndex := 0 }
      else bounce^[advanceRows.toNat] position

end ScanPosition

namespace ScanlineRuntime

variable {Midi : Type}

/-- The line where a tick finds it. -/
def place (runtime : ScanlineRuntime) (height : Nat) (direction : ScanDirection) :
    Except PyError ScanPosition :=
  match runtime with
  | none => initializeLine height direction
  | some position =>
      if position.height = height ∧ position.direction = direction then .ok position
      else initializeLine height direction

/-- The checks of a tick and the line that it maps. -/
def prepare (runtime : ScanlineRuntime) (tick : ScanTick Midi) : Except PyError ScanPosition := do
  let direction ← validateDirection tick.direction
  validateAdvanceRows tick.advanceRows
  runtime.place tick.height direction

/-- `process`: the notes, or the exception; a line that has been placed stays
placed. -/
def process (runtime : ScanlineRuntime) (tick : ScanTick Midi) :
    ScanlineRuntime × Except PyError Midi :=
  match runtime.prepare tick with
  | .error error => (runtime, .error error)
  | .ok position =>
      match tick.midi position.rowIndex with
      | .error error => (some position, .error error)
      | .ok midi => (some (position.advance tick.advanceRows), .ok midi)

/-- A tick of the scheduler, or a reset of the runtime. -/
inductive Event (Midi : Type) where
  | tick (tick : ScanTick Midi)
  | reset

def handle (runtime : ScanlineRuntime) : Event Midi → ScanlineRuntime
  | .tick tick => (runtime.process tick).1
  | .reset => none

/-- The runtime after a run. -/
def after (events : List (Event Midi)) : ScanlineRuntime := events.foldl handle none

/-- The row that a tick maps, when it gets so far. -/
def rowUsed (runtime : ScanlineRuntime) (tick : ScanTick Midi) : Option Int :=
  (runtime.prepare tick).toOption.map ScanPosition.rowIndex

/-- The tick produces notes. -/
def Succeeds (runtime : ScanlineRuntime) (tick : ScanTick Midi) : Prop :=
  (runtime.process tick).2.isOk = true

instance (runtime : ScanlineRuntime) (tick : ScanTick Midi) : Decidable (runtime.Succeeds tick) :=
  inferInstanceAs (Decidable ((runtime.process tick).2.isOk = true))

/-- The row at which a tick of this height and direction would find the line. -/
def rowAt (runtime : ScanlineRuntime) (height : Nat) (direction : ScanDirection) : Int :=
  match runtime with
  | none => startRow height direction
  | some position =>
      if position.height = height ∧ position.direction = direction then position.rowIndex
      else startRow height direction

/-- A tick leaves the line where it is. -/
def Unmoved (runtime : ScanlineRuntime) (tick : ScanTick Midi) : Prop :=
  ∀ height direction,
    rowAt (runtime.process tick).1 height direction = runtime.rowAt height direction

/-- A tick is for the line that the runtime has, or that line is at its start. -/
def Continues (runtime : ScanlineRuntime) (tick : ScanTick Midi) : Prop :=
  ∀ position ∈ runtime, ∀ placed, runtime.prepare tick = .ok placed →
    (placed.height = position.height ∧ placed.direction = position.direction) ∨
      position.rowIndex = startRow position.height position.direction

end ScanlineRuntime

/-! ## The way of the line -/

/-- The row of a line that turns at the edges, after so many rows. -/
def reflection (height : Nat) (advanced : Int) : Int :=
  let phase := advanced % (2 * height - 2)
  if phase < height then phase else 2 * height - 2 - phase

/-- The row of a line that began at its start, after so many rows. -/
def lawfulRow (height : Nat) (direction : ScanDirection) (advanced : Int) : Int :=
  match direction with
  | .topToBottom => advanced % height
  | .bottomToTop => (height - 1 - advanced) % height
  | .pingPong => reflection height advanced

/-- A line that turns at the edges, after so many rows: it moves down up to the
last row, and it moves up from there until it turns at the first. -/
def Reflects (position : ScanPosition) (advanced : Int) : Prop :=
  let phase := advanced % (2 * position.height - 2)
  position.pingPongStep = 1 ∧ position.rowIndex = phase ∧ phase < position.height ∨
    position.pingPongStep = -1 ∧ position.rowIndex = 0 ∧ phase = 0 ∨
    position.pingPongStep = -1 ∧ position.rowIndex = 2 * position.height - 2 - phase ∧
      position.height ≤ phase

/-- The position of a line that began at its start, after so many rows. -/
structure Travelled (position : ScanPosition) (advanced : Int) : Prop where
  positive : 1 ≤ position.height
  nonneg : 0 ≤ advanced
  row : match position.direction with
    | .topToBottom => position.rowIndex = advanced % position.height
    | .bottomToTop => position.rowIndex = (position.height - 1 - advanced) % position.height
    | .pingPong => position.height = 1 ∧ position.rowIndex = 0 ∨
        2 ≤ position.height ∧ Reflects position advanced

section Travelling

variable {position : ScanPosition} {advanced : Int}

/-- A step by one in a phase either goes on or starts over. -/
theorem phase_succ {period : Int} (positive : 2 ≤ period) (advanced : Int) :
    advanced % period + 1 < period ∧ (advanced + 1) % period = advanced % period + 1 ∨
      advanced % period + 1 = period ∧ (advanced + 1) % period = 0 := by
  have small := Int.emod_lt_of_pos advanced (by omega : 0 < period)
  have shifted : (advanced + 1) % period = (advanced % period + 1) % period := by
    rw [Int.emod_add_emod]
  have nonneg := Int.emod_nonneg advanced (by omega : period ≠ 0)
  rw [shifted]
  rcases lt_or_eq_of_le (Int.add_one_le_of_lt small) with less | same
  · exact Or.inl ⟨less, Int.emod_eq_of_lt (by omega) less⟩
  · right
    rw [same]
    exact ⟨rfl, Int.emod_self⟩

theorem Reflects.bounce (high : 2 ≤ position.height) (reflects : Reflects position advanced) :
    Reflects position.bounce (advanced + 1) := by
  rcases position with ⟨rowIndex, height, direction, pingPongStep⟩
  dsimp only at high
  have nonneg := Int.emod_nonneg advanced (by omega : (2 * (height : Int) - 2) ≠ 0)
  have onward := phase_succ (by omega : 2 ≤ 2 * (height : Int) - 2) advanced
  simp only [Reflects, ScanPosition.bounce] at reflects ⊢
  rcases reflects with ⟨rfl, row, inside⟩ | ⟨rfl, row, atStart⟩ | ⟨rfl, row, behind⟩
  · split_ifs <;> dsimp only <;> omega
  · split_ifs <;> dsimp only <;> omega
  · split_ifs <;> dsimp only <;> omega

theorem bounce_height (position : ScanPosition) (times : Nat) :
    (ScanPosition.bounce^[times] position).height = position.height ∧
      (ScanPosition.bounce^[times] position).direction = position.direction := by
  induction times generalizing position with
  | zero => exact ⟨rfl, rfl⟩
  | succ times ih =>
      rw [Function.iterate_succ_apply]
      have kept : position.bounce.height = position.height ∧
          position.bounce.direction = position.direction := by
        unfold ScanPosition.bounce
        dsimp only
        split_ifs <;> exact ⟨rfl, rfl⟩
      rw [← kept.1, ← kept.2]
      exact ih position.bounce

theorem Reflects.iterate (high : 2 ≤ position.height) (reflects : Reflects position advanced)
    (times : Nat) : Reflects (ScanPosition.bounce^[times] position) (advanced + times) := by
  induction times with
  | zero => simpa using reflects
  | succ times ih =>
      rw [Function.iterate_succ_apply', Nat.cast_succ, ← add_assoc]
      exact ih.bounce ((bounce_height position times).1.symm ▸ high)

theorem advance_height (position : ScanPosition) (advanceRows : Int) :
    (position.advance advanceRows).height = position.height ∧
      (position.advance advanceRows).direction = position.direction := by
  unfold ScanPosition.advance
  split
  · exact ⟨rfl, rfl⟩
  · exact ⟨rfl, rfl⟩
  · split_ifs
    · exact ⟨rfl, rfl⟩
    · exact bounce_height position _

theorem travelled_start {height : Nat} (positive : 1 ≤ height) (direction : ScanDirection) :
    Travelled ⟨startRow height direction, height, direction, 1⟩ 0 := by
  refine ⟨positive, le_refl 0, ?_⟩
  cases direction with
  | topToBottom => simp [startRow]
  | bottomToTop =>
      simp only [startRow, if_true, sub_zero]
      exact (Int.emod_eq_of_lt (by omega) (by omega)).symm
  | pingPong =>
      simp only [startRow, Reflects]
      rcases Nat.lt_or_ge 1 height with high | single
      · right
        refine ⟨high, Or.inl ⟨trivial, ?_, ?_⟩⟩
        · simp
        · simpa using Nat.lt_of_lt_of_le Nat.zero_lt_one positive
      · exact Or.inl ⟨by omega, by simp⟩

/-- A successful tick moves the line by its number of rows. -/
theorem Travelled.advance (travelled : Travelled position advanced) {advanceRows : Int}
    (atLeastOne : 1 ≤ advanceRows) :
    Travelled (position.advance advanceRows) (advanced + advanceRows) := by
  have kept := advance_height position advanceRows
  have row := travelled.row
  refine ⟨kept.1.symm ▸ travelled.positive, by have := travelled.nonneg; omega, ?_⟩
  rw [kept.1, kept.2]
  unfold ScanPosition.advance
  cases direction : position.direction with
  | topToBottom =>
      rw [direction] at row
      simp only at row ⊢
      rw [row, Int.emod_add_emod]
  | bottomToTop =>
      rw [direction] at row
      simp only at row ⊢
      rw [row, Int.emod_sub_emod, sub_sub]
  | pingPong =>
      rw [direction] at row
      simp only at row ⊢
      rcases row with ⟨single, _⟩ | ⟨high, reflects⟩
      · rw [if_pos single]
        exact Or.inl ⟨single, rfl⟩
      · have several : position.height ≠ 1 := by omega
        rw [if_neg several]
        refine Or.inr ⟨high, ?_⟩
        have moved := reflects.iterate high advanceRows.toNat
        rwa [Int.toNat_of_nonneg (by omega)] at moved

/-- The line stays inside the channel. -/
theorem Travelled.inside (travelled : Travelled position advanced) :
    0 ≤ position.rowIndex ∧ position.rowIndex < position.height := by
  have positive := travelled.positive
  have row := travelled.row
  cases direction : position.direction with
  | topToBottom =>
      rw [direction] at row
      simp only at row
      rw [row]
      exact ⟨Int.emod_nonneg _ (by omega), Int.emod_lt_of_pos _ (by omega)⟩
  | bottomToTop =>
      rw [direction] at row
      simp only at row
      rw [row]
      exact ⟨Int.emod_nonneg _ (by omega), Int.emod_lt_of_pos _ (by omega)⟩
  | pingPong =>
      rw [direction] at row
      simp only at row
      rcases row with ⟨single, atZero⟩ | ⟨high, reflects⟩
      · omega
      · have nonneg := Int.emod_nonneg advanced (by omega : (2 * (position.height : Int) - 2) ≠ 0)
        have small := Int.emod_lt_of_pos advanced (by omega : 0 < 2 * (position.height : Int) - 2)
        simp only [Reflects] at reflects
        omega

/-- The line follows the closed form. -/
theorem Travelled.lawful (travelled : Travelled position advanced)
    (high : position.direction = .pingPong → 2 ≤ position.height) :
    position.rowIndex = lawfulRow position.height position.direction advanced := by
  have row := travelled.row
  cases direction : position.direction with
  | topToBottom =>
      rw [direction] at row
      exact row
  | bottomToTop =>
      rw [direction] at row
      exact row
  | pingPong =>
      rw [direction] at row
      simp only at row
      have tall := high direction
      rcases row with ⟨single, _⟩ | ⟨_, reflects⟩
      · omega
      · simp only [Reflects] at reflects
        simp only [lawfulRow, reflection]
        split_ifs <;> omega

end Travelling

end Nodes
end Synesthesia
