import Synesthesia.Nodes.Scanline

namespace Synesthesia
namespace Nodes

open Foundation

/-!
# Where the line is

Within a stretch of ticks of one height and direction the line is where the
rows of the successful ticks have moved it.  A tick that fails after its line
has been placed anew does not move that line, but the former one is lost: it
begins again at its start.
-/

namespace ScanlineRuntime

variable {Midi : Type} {runtime : ScanlineRuntime} {tick : ScanTick Midi}
  {placed : ScanPosition} {height : Nat} {direction : ScanDirection}

/-- The runtime has a line of this height and direction. -/
def HasLine (runtime : ScanlineRuntime) (height : Nat) (direction : ScanDirection) : Prop :=
  ∃ position ∈ runtime, position.height = height ∧ position.direction = direction

theorem place_of_hasLine {position : ScanPosition} (isHeight : position.height = height)
    (isDirection : position.direction = direction) :
    place (some position) height direction = .ok position :=
  if_pos ⟨isHeight, isDirection⟩

theorem place_of_not_hasLine (other : ¬ runtime.HasLine height direction) :
    runtime.place height direction = initializeLine height direction := by
  cases runtime with
  | none => rfl
  | some position =>
      refine if_neg ?_
      rintro ⟨isHeight, isDirection⟩
      exact other ⟨position, rfl, isHeight, isDirection⟩

/-- What a tick that passes its checks finds. -/
theorem prepare_eq_ok (prepared : runtime.prepare tick = .ok placed) :
    ∃ direction, validateDirection tick.direction = .ok direction ∧ 1 ≤ tick.advanceRows ∧
      runtime.place tick.height direction = .ok placed := by
  rcases bind_eq_ok.mp prepared with ⟨direction, isDirection, rest⟩
  rcases bind_eq_ok.mp rest with ⟨_, validated, isPlaced⟩
  refine ⟨direction, isDirection, ?_, isPlaced⟩
  rw [validateAdvanceRows] at validated
  split_ifs at validated with few
  omega

/-- A line is found where the runtime has left it, or at its start. -/
theorem place_eq_ok (isPlaced : runtime.place height direction = .ok placed) :
    (runtime = some placed ∧ placed.height = height ∧ placed.direction = direction) ∨
      (¬ runtime.HasLine height direction ∧ 1 ≤ height ∧
        placed = ⟨startRow height direction, height, direction, 1⟩) := by
  by_cases same : runtime.HasLine height direction
  · rcases same with ⟨position, isLine, isHeight, isDirection⟩
    cases isLine
    rw [place_of_hasLine isHeight isDirection] at isPlaced
    cases isPlaced
    exact Or.inl ⟨rfl, isHeight, isDirection⟩
  · rw [place_of_not_hasLine same, initializeLine] at isPlaced
    split_ifs at isPlaced with empty
    cases isPlaced
    exact Or.inr ⟨same, by omega, rfl⟩

theorem process_of_error {error : PyError} (prepared : runtime.prepare tick = .error error) :
    runtime.process tick = (runtime, .error error) := by
  rw [process, prepared]

theorem process_of_ok (prepared : runtime.prepare tick = .ok placed) :
    (¬ runtime.Succeeds tick ∧ (runtime.process tick).1 = some placed) ∨
      (runtime.Succeeds tick ∧
        (runtime.process tick).1 = some (placed.advance tick.advanceRows)) := by
  rw [Succeeds, process, prepared]
  dsimp only
  cases tick.midi placed.rowIndex with
  | error error => exact Or.inl ⟨Bool.false_ne_true, rfl⟩
  | ok midi => exact Or.inr ⟨rfl, rfl⟩

/-! ## Stretches -/

/-- The ticks have one height and one direction. -/
def Uniform (height : Nat) (direction : ScanDirection) (ticks : List (ScanTick Midi)) : Prop :=
  ∀ tick ∈ ticks, tick.height = height ∧ validateDirection tick.direction = .ok direction

/-- A stretch begins after a reset, or with a successful tick that changes the
height or the direction. -/
def Begins (runtime : ScanlineRuntime) (height : Nat) (direction : ScanDirection)
    (ticks : List (ScanTick Midi)) : Prop :=
  runtime = none ∨
    ∃ first ∈ ticks.head?, runtime.Succeeds first ∧ ¬ runtime.HasLine height direction

/-- The runtime after some ticks. -/
def afterTicks (runtime : ScanlineRuntime) (ticks : List (ScanTick Midi)) : ScanlineRuntime :=
  ticks.foldl (fun runtime tick => (runtime.process tick).1) runtime

/-- The rows of a tick, when it succeeds. -/
def rowsOf (runtime : ScanlineRuntime) (tick : ScanTick Midi) : Int :=
  if runtime.Succeeds tick then tick.advanceRows else 0

/-- The rows of the successful ticks. -/
def rowsAdvanced (runtime : ScanlineRuntime) : List (ScanTick Midi) → Int
  | [] => 0
  | tick :: rest => runtime.rowsOf tick + rowsAdvanced (runtime.process tick).1 rest

/-- Since the stretch began the line has moved by so many rows; it has not been
placed before that. -/
def Moved (runtime : ScanlineRuntime) (height : Nat) (direction : ScanDirection)
    (advanced : Int) : Prop :=
  (¬ runtime.HasLine height direction ∧ advanced = 0) ∨
    ∃ position, runtime = some position ∧ position.height = height ∧
      position.direction = direction ∧ Travelled position advanced

theorem Moved.place {advanced : Int} (moved : runtime.Moved height direction advanced)
    (isPlaced : runtime.place height direction = .ok placed) :
    placed.height = height ∧ placed.direction = direction ∧ Travelled placed advanced := by
  rcases place_eq_ok isPlaced with ⟨isRuntime, isHeight, isDirection⟩ | ⟨other, positive, isStart⟩
  · rcases moved with ⟨absent, _⟩ | ⟨position, isPosition, _, _, travelled⟩
    · exact absurd ⟨placed, isRuntime, isHeight, isDirection⟩ absent
    · rw [isRuntime] at isPosition
      cases isPosition
      exact ⟨isHeight, isDirection, travelled⟩
  · rcases moved with ⟨_, rfl⟩ | ⟨position, isPosition, isHeight, isDirection, _⟩
    · subst isStart
      exact ⟨rfl, rfl, travelled_start positive direction⟩
    · exact absurd ⟨position, isPosition, isHeight, isDirection⟩ other

/-- One tick of a stretch moves the line by its rows when it succeeds. -/
theorem Moved.process {advanced : Int} (moved : runtime.Moved height direction advanced)
    (isHeight : tick.height = height)
    (isDirection : validateDirection tick.direction = .ok direction) :
    Moved (runtime.process tick).1 height direction (advanced + runtime.rowsOf tick) := by
  cases prepared : runtime.prepare tick with
  | error error =>
      have failed : ¬ runtime.Succeeds tick := by
        rw [Succeeds, process_of_error prepared]
        exact Bool.false_ne_true
      rw [rowsOf, if_neg failed, add_zero, process_of_error prepared]
      exact moved
  | ok placed =>
      rcases prepare_eq_ok prepared with ⟨other, isOther, atLeastOne, isPlaced⟩
      cases isDirection.symm.trans isOther
      rw [isHeight] at isPlaced
      rcases moved.place isPlaced with ⟨placedHeight, placedDirection, travelled⟩
      rcases process_of_ok prepared with ⟨failed, result⟩ | ⟨succeeded, result⟩
      · rw [result, rowsOf, if_neg failed, add_zero]
        exact Or.inr ⟨placed, rfl, placedHeight, placedDirection, travelled⟩
      · rw [result, rowsOf, if_pos succeeded]
        have kept := advance_height placed tick.advanceRows
        exact Or.inr ⟨_, rfl, kept.1.trans placedHeight, kept.2.trans placedDirection,
          travelled.advance atLeastOne⟩

theorem Moved.afterTicks {advanced : Int} (moved : runtime.Moved height direction advanced)
    {ticks : List (ScanTick Midi)} (uniform : Uniform height direction ticks) :
    Moved (runtime.afterTicks ticks) height direction
      (advanced + runtime.rowsAdvanced ticks) := by
  induction ticks generalizing runtime advanced with
  | nil => simpa [ScanlineRuntime.afterTicks, rowsAdvanced] using moved
  | cons tick rest ih =>
      rcases uniform tick List.mem_cons_self with ⟨isHeight, isDirection⟩
      have onward := ih (moved.process isHeight isDirection)
        (fun other member => uniform other (List.mem_cons_of_mem _ member))
      rwa [add_assoc] at onward

theorem Begins.moved {ticks : List (ScanTick Midi)}
    (begins : runtime.Begins height direction ticks) :
    runtime.Moved height direction 0 := by
  rcases begins with rfl | ⟨_, _, _, other⟩
  · refine Or.inl ⟨?_, rfl⟩
    rintro ⟨position, impossible, _⟩
    cases impossible
  · exact Or.inl ⟨other, rfl⟩

/-! ## Failed ticks -/

theorem rowAt_of_start {position : ScanPosition}
    (atStart : position.rowIndex = startRow position.height position.direction) (height : Nat)
    (direction : ScanDirection) :
    rowAt (some position) height direction = startRow height direction := by
  simp only [rowAt]
  split_ifs with same
  · rw [atStart, same.1, same.2]
  · rfl

/-- A failed tick leaves the line where it is exactly when it continues it. -/
theorem unmoved_iff (failed : ¬ runtime.Succeeds tick) :
    runtime.Unmoved tick ↔ runtime.Continues tick := by
  cases prepared : runtime.prepare tick with
  | error error =>
      refine iff_of_true ?_ ?_
      · intro height direction
        rw [process_of_error prepared]
      · intro position _ placed impossible
        rw [prepared] at impossible
        cases impossible
  | ok placed =>
      have result : (runtime.process tick).1 = some placed := by
        rcases process_of_ok prepared with ⟨_, result⟩ | ⟨succeeded, _⟩
        · exact result
        · exact absurd succeeded failed
      rcases prepare_eq_ok prepared with ⟨direction, _, _, isPlaced⟩
      rw [Unmoved, Continues, result]
      rcases place_eq_ok isPlaced with ⟨isRuntime, _, _⟩ | ⟨other, _, isStart⟩
      · rw [isRuntime] at prepared ⊢
        refine iff_of_true (fun _ _ => rfl) ?_
        intro position isPosition again isAgain
        cases isPosition
        rw [prepared] at isAgain
        cases isAgain
        exact Or.inl ⟨rfl, rfl⟩
      · have atStart : placed.rowIndex = startRow placed.height placed.direction := by
          rw [isStart]
        cases runtime with
        | none =>
            refine iff_of_true ?_ ?_
            · exact fun height direction => rowAt_of_start atStart height direction
            · intro position impossible
              cases impossible
        | some position =>
            have differ : ¬ (placed.height = position.height ∧
                placed.direction = position.direction) := by
              rintro ⟨sameHeight, sameDirection⟩
              rw [isStart] at sameHeight sameDirection
              exact other ⟨position, rfl, sameHeight.symm, sameDirection.symm⟩
            constructor
            · intro unmoved line isLine again isAgain
              cases isLine
              right
              have row := unmoved position.height position.direction
              rw [rowAt_of_start atStart] at row
              simp only [rowAt, and_self, if_true] at row
              exact row.symm
            · intro continues height direction
              have begun := (continues position rfl placed prepared).resolve_left differ
              rw [rowAt_of_start atStart, rowAt_of_start begun]

/-! ## Runs -/

/-- The position law, over all ticks and all stretches of a run. -/
structure Lawful (events : List (Event Midi)) : Prop where
  inside : ∀ before tick rest, events = before ++ .tick tick :: rest →
    ∀ row ∈ (after before).rowUsed tick, 0 ≤ row ∧ row < tick.height
  stretches : ∀ before earlier tick rest height direction,
    events = before ++ ((earlier ++ [tick]).map .tick ++ rest) →
      Uniform height direction (earlier ++ [tick]) →
      (after before).Begins height direction (earlier ++ [tick]) →
      (direction = .pingPong → 2 ≤ height) →
      ∀ row ∈ ((after before).afterTicks earlier).rowUsed tick,
        row = lawfulRow height direction ((after before).rowsAdvanced earlier)
  failures : ∀ before tick rest, events = before ++ .tick tick :: rest →
    ¬ (after before).Succeeds tick → (after before).Unmoved tick

/-- The line of the runtime has moved from its start by whole ticks. -/
def Kept (runtime : ScanlineRuntime) : Prop :=
  ∀ position ∈ runtime, ∃ advanced, Travelled position advanced

theorem kept_place (kept : runtime.Kept) (isPlaced : runtime.place height direction = .ok placed) :
    placed.height = height ∧ ∃ advanced, Travelled placed advanced := by
  rcases place_eq_ok isPlaced with ⟨isRuntime, isHeight, _⟩ | ⟨_, positive, isStart⟩
  · exact ⟨isHeight, kept placed isRuntime⟩
  · subst isStart
    exact ⟨rfl, 0, travelled_start positive direction⟩

theorem Kept.handle (kept : runtime.Kept) (event : Event Midi) : Kept (runtime.handle event) := by
  cases event with
  | reset =>
      intro position impossible
      cases impossible
  | tick tick =>
      cases prepared : runtime.prepare tick with
      | error error =>
          rw [ScanlineRuntime.handle, process_of_error prepared]
          exact kept
      | ok placed =>
          rcases prepare_eq_ok prepared with ⟨direction, _, atLeastOne, isPlaced⟩
          rcases kept_place kept isPlaced with ⟨_, advanced, travelled⟩
          intro position isPosition
          rw [ScanlineRuntime.handle] at isPosition
          rcases process_of_ok prepared with ⟨_, result⟩ | ⟨_, result⟩
          · rw [result] at isPosition
            cases isPosition
            exact ⟨advanced, travelled⟩
          · rw [result] at isPosition
            cases isPosition
            exact ⟨_, travelled.advance atLeastOne⟩

theorem kept_after (events : List (Event Midi)) : Kept (after events) := by
  induction events using List.reverseRecOn with
  | nil =>
      intro position impossible
      cases impossible
  | append_singleton events event ih =>
      rw [after, List.foldl_append]
      exact ih.handle event

theorem rowUsed_eq_some {row : Int} (used : runtime.rowUsed tick = some row) :
    ∃ placed, runtime.prepare tick = .ok placed ∧ placed.rowIndex = row := by
  rw [rowUsed] at used
  rcases Option.map_eq_some_iff.mp used with ⟨placed, isPlaced, isRow⟩
  cases prepared : runtime.prepare tick with
  | error error =>
      rw [prepared] at isPlaced
      cases isPlaced
  | ok other =>
      rw [prepared] at isPlaced
      cases isPlaced
      exact ⟨placed, rfl, isRow⟩

/-- A run obeys the position law exactly when no failed tick interrupts a line
that has left its start with a line of another height or direction. -/
theorem line_lawful (events : List (Event Midi)) :
    Lawful events ↔ ∀ before tick rest, events = before ++ .tick tick :: rest →
      ¬ (after before).Succeeds tick → (after before).Continues tick := by
  constructor
  · intro lawful before tick rest split failed
    exact (unmoved_iff failed).mp (lawful.failures before tick rest split failed)
  · intro continues
    refine ⟨?_, ?_, ?_⟩
    · intro before tick rest _ row used
      rcases rowUsed_eq_some used with ⟨placed, prepared, rfl⟩
      rcases prepare_eq_ok prepared with ⟨direction, _, _, isPlaced⟩
      rcases kept_place (kept_after before) isPlaced with ⟨isHeight, advanced, travelled⟩
      rw [← isHeight]
      exact travelled.inside
    · intro before earlier tick rest height direction _ uniform begins high row used
      rcases rowUsed_eq_some used with ⟨placed, prepared, rfl⟩
      rcases prepare_eq_ok prepared with ⟨other, isOther, _, isPlaced⟩
      rcases uniform tick (List.mem_append_right _ (List.mem_singleton_self tick)) with
        ⟨isHeight, isDirection⟩
      cases isDirection.symm.trans isOther
      rw [isHeight] at isPlaced
      have moved := begins.moved.afterTicks
        (fun other member => uniform other (List.mem_append_left _ member))
      rcases moved.place isPlaced with ⟨placedHeight, placedDirection, travelled⟩
      have lawful := travelled.lawful (by rw [placedHeight, placedDirection]; exact high)
      rw [lawful, placedHeight, placedDirection, zero_add]
    · intro before tick rest split failed
      exact (unmoved_iff failed).mpr (continues before tick rest split failed)

/-- Two rows down a frame of five rows comes whose clock is not the one of the
tick: the line of four rows begins again. -/
theorem failed_tick_restarts_line : ¬ ∀ events : List (Event Unit), Lawful events := by
  intro always
  let passes : ScanTick Unit := ⟨4, "TOP_TO_BOTTOM", 1, fun _ => .ok ()⟩
  let fails : ScanTick Unit := ⟨5, "TOP_TO_BOTTOM", 1, fun _ =>
    .error (.valueError "Scanline channel clock does not match the execution clock")⟩
  have unmoved := (always [.tick passes, .tick passes, .tick fails]).failures
    [.tick passes, .tick passes] fails [] rfl (by decide) 4 .topToBottom
  exact absurd unmoved (by decide)

end ScanlineRuntime
end Nodes
end Synesthesia
