import Synesthesia.Foundation.Runs

namespace Synesthesia
namespace Foundation

/-!
# An undo stack of inverse commands

Commands are made against the current state, executed and recorded.  A recorded
command may take in the next one, and several commands may be grouped to a
macro.  What users see of a state is a view of it: a proper command is exact
between two views when redoing it leads from each state of the first view to one
of the second, and undoing it back.  Stacks of exact commands are timelines: every
number of undo steps can be redone, and all of them lead back to the origin.
-/

/-- A recorded step: a command, or the commands of a macro, the last one
first. -/
inductive HistoryEntry (Command : Type*) where
  | single (command : Command)
  | batch (commands : List Command)

/-- How commands are made, executed, taken back and merged into their
predecessor. -/
structure CommandSystem (State Request Command : Type*) where
  make : Request → State → Option Command
  redo : Command → State → Option State
  undo : Command → State → Option State
  merge : Command → Command → Option Command

/-- The recorded steps, the last one first, those that were undone, the next one
to redo first, and the commands of an open macro, the last one first. -/
structure UndoStack (State Command : Type*) where
  state : State
  done : List (HistoryEntry Command)
  undone : List (HistoryEntry Command)
  grouped : Option (List Command)

/-- The user's actions.  Whether a merge is tried is up to the stack. -/
inductive UndoAction (Request : Type*) where
  | push (request : Request) (merging : Bool)
  | undo
  | redo
  | beginMacro
  | endMacro

section Steps

variable {State Request Command : Type*} (system : CommandSystem State Request Command)

/-- Execute the commands of a macro, which are kept with the last one first. -/
def redoAll : List Command → State → Option State
  | [], state => some state
  | command :: earlier, state => (redoAll earlier state).bind (system.redo command)

/-- Take the commands of a macro back. -/
def undoAll : List Command → State → Option State
  | [], state => some state
  | command :: earlier, state => (system.undo command state).bind (undoAll earlier)

def redoEntry : HistoryEntry Command → State → Option State
  | .single command => system.redo command
  | .batch commands => redoAll system commands

def undoEntry : HistoryEntry Command → State → Option State
  | .single command => system.undo command
  | .batch commands => undoAll system commands

/-- Record a command, or let the last one take it in. -/
def recordCommand (command : Command) (merging : Bool) : List Command → List Command
  | last :: earlier =>
      match if merging then system.merge last command else none with
      | some merged => merged :: earlier
      | none => command :: last :: earlier
  | [] => [command]

/-- Record a step; only a single command can take another one in. -/
def recordEntry (command : Command) (merging : Bool) :
    List (HistoryEntry Command) → List (HistoryEntry Command)
  | .single last :: earlier =>
      match if merging then system.merge last command else none with
      | some merged => .single merged :: earlier
      | none => .single command :: .single last :: earlier
  | done => .single command :: done

namespace UndoStack

def fresh (state : State) : UndoStack State Command := ⟨state, [], [], none⟩

/-- The command that may take in the next one. -/
def last (stack : UndoStack State Command) : Option Command :=
  match stack.grouped, stack.done with
  | some commands, _ => commands.head?
  | none, .single command :: _ => some command
  | none, _ => none

/-- An executed command is recorded in the open macro or on the stack, and
nothing is left to redo. -/
def record (command : Command) (merging : Bool) (next : State) (stack : UndoStack State Command) :
    UndoStack State Command :=
  match stack.grouped with
  | some commands => ⟨next, stack.done, [], some (recordCommand system command merging commands)⟩
  | none => ⟨next, recordEntry system command merging stack.done, [], none⟩

def push (request : Request) (merging : Bool) (stack : UndoStack State Command) :
    Option (UndoStack State Command) :=
  (system.make request stack.state).bind (fun command =>
    (system.redo command stack.state).map (fun next => stack.record system command merging next))

/-- Nothing is undone at the bottom of the stack or while a macro is open. -/
def undo (stack : UndoStack State Command) : Option (UndoStack State Command) :=
  match stack.grouped, stack.done with
  | none, entry :: earlier =>
      (undoEntry system entry stack.state).map (fun previous =>
        { stack with state := previous, done := earlier, undone := entry :: stack.undone })
  | _, _ => some stack

def redo (stack : UndoStack State Command) : Option (UndoStack State Command) :=
  match stack.grouped, stack.undone with
  | none, entry :: later =>
      (redoEntry system entry stack.state).map (fun next =>
        { stack with state := next, done := entry :: stack.done, undone := later })
  | _, _ => some stack

/-- Macros are not nested. -/
def step (stack : UndoStack State Command) : UndoAction Request → Option (UndoStack State Command)
  | .push request merging => stack.push system request merging
  | .undo => stack.undo system
  | .redo => stack.redo system
  | .beginMacro =>
      match stack.grouped with
      | some _ => none
      | none => some { stack with undone := [], grouped := some [] }
  | .endMacro =>
      match stack.grouped with
      | some commands => some { stack with
          done := .batch commands :: stack.done, grouped := none }
      | none => none

end UndoStack

end Steps

/-! ## Invariants of the state -/

section Invariant

variable {State Request Command : Type*} {system : CommandSystem State Request Command}
  {invariant : State → Prop}

/-- Every command keeps the invariant, whether it is executed or taken back. -/
def Keeps (system : CommandSystem State Request Command) (invariant : State → Prop) : Prop :=
  ∀ command state next, invariant state →
    system.redo command state = some next ∨ system.undo command state = some next →
      invariant next

theorem Keeps.redoAll (keeps : Keeps system invariant) {commands : List Command}
    {state next : State} (holds : invariant state)
    (taken : Foundation.redoAll system commands state = some next) : invariant next := by
  induction commands generalizing next with
  | nil =>
      cases taken
      exact holds
  | cons command earlier ih =>
      rcases Option.bind_eq_some_iff.mp taken with ⟨middle, before, last⟩
      exact keeps command middle next (ih before) (Or.inl last)

theorem Keeps.undoAll (keeps : Keeps system invariant) {commands : List Command}
    {state next : State} (holds : invariant state)
    (taken : Foundation.undoAll system commands state = some next) : invariant next := by
  induction commands generalizing state with
  | nil =>
      cases taken
      exact holds
  | cons command earlier ih =>
      rcases Option.bind_eq_some_iff.mp taken with ⟨middle, last, before⟩
      exact ih (keeps command state middle holds (Or.inr last)) before

theorem record_state (command : Command) (merging : Bool) (next : State)
    (stack : UndoStack State Command) :
    (stack.record system command merging next).state = next := by
  rw [UndoStack.record]
  cases stack.grouped with
  | none => rfl
  | some commands => rfl

/-- Every action on the stack keeps the invariant. -/
theorem Keeps.step (keeps : Keeps system invariant) {stack next : UndoStack State Command}
    {action : UndoAction Request} (holds : invariant stack.state)
    (taken : stack.step system action = some next) : invariant next.state := by
  cases action with
  | push request merging =>
      rcases Option.bind_eq_some_iff.mp taken with ⟨command, _, executed⟩
      rcases Option.map_eq_some_iff.mp executed with ⟨state, redone, recorded⟩
      rw [← recorded, record_state]
      exact keeps command stack.state state holds (Or.inl redone)
  | undo =>
      rw [UndoStack.step, UndoStack.undo] at taken
      cases grouped : stack.grouped with
      | some commands =>
          rw [grouped] at taken
          cases taken
          exact holds
      | none =>
          cases done : stack.done with
          | nil =>
              rw [grouped, done] at taken
              cases taken
              exact holds
          | cons entry earlier =>
              rw [grouped, done] at taken
              rcases Option.map_eq_some_iff.mp taken with ⟨previous, undone, rfl⟩
              cases entry with
              | single command => exact keeps command stack.state previous holds (Or.inr undone)
              | batch commands => exact keeps.undoAll holds undone
  | redo =>
      rw [UndoStack.step, UndoStack.redo] at taken
      cases grouped : stack.grouped with
      | some commands =>
          rw [grouped] at taken
          cases taken
          exact holds
      | none =>
          cases waits : stack.undone with
          | nil =>
              rw [grouped, waits] at taken
              cases taken
              exact holds
          | cons entry later =>
              rw [grouped, waits] at taken
              rcases Option.map_eq_some_iff.mp taken with ⟨following, redone, rfl⟩
              cases entry with
              | single command => exact keeps command stack.state following holds (Or.inl redone)
              | batch commands => exact keeps.redoAll holds redone
  | beginMacro =>
      rw [UndoStack.step] at taken
      cases grouped : stack.grouped with
      | some commands =>
          rw [grouped] at taken
          cases taken
      | none =>
          rw [grouped] at taken
          cases taken
          exact holds
  | endMacro =>
      rw [UndoStack.step] at taken
      cases grouped : stack.grouped with
      | none =>
          rw [grouped] at taken
          cases taken
      | some commands =>
          rw [grouped] at taken
          cases taken
          exact holds

end Invariant

/-! ## Exact commands -/

section Exact

variable {State Request Command View : Type*} (system : CommandSystem State Request Command)
  (view : State → View) (proper : Command → View → Prop)

/-- A function on states leads from each state of a view to one of another. -/
def Leads (move : State → Option State) (source target : View) : Prop :=
  ∀ state, view state = source → ∃ next, move state = some next ∧ view next = target

variable {view}

theorem Leads.bind {first second : State → Option State} {source middle target : View}
    (before : Leads view first source middle) (after : Leads view second middle target) :
    Leads view (fun state => (first state).bind second) source target := by
  intro state seen
  rcases before state seen with ⟨between, reached, seenBetween⟩
  rcases after between seenBetween with ⟨final, finished, seenFinal⟩
  exact ⟨final, Option.bind_eq_some_iff.mpr ⟨between, reached, finished⟩, seenFinal⟩

variable (view)

/-- Redoing and undoing a command lead from one view, for which it is proper, to
the other and back. -/
structure Exact (command : Command) (source target : View) : Prop where
  isProper : proper command source
  redo : Leads view (system.redo command) source target
  undo : Leads view (system.undo command) target source

structure ExactEntry (entry : HistoryEntry Command) (source target : View) : Prop where
  isProper : ∀ command, entry = .single command → proper command source
  redo : Leads view (redoEntry system entry) source target
  undo : Leads view (undoEntry system entry) target source

/-- The recorded steps lead from the origin to the view. -/
def Timeline (origin : View) : List (HistoryEntry Command) → View → Prop
  | [], current => current = origin
  | entry :: earlier, current =>
      ∃ previous, Timeline origin earlier previous ∧
        ExactEntry system view proper entry previous current

/-- The steps to redo lead on from the view. -/
def Onward : List (HistoryEntry Command) → View → Prop
  | [], _ => True
  | entry :: later, current =>
      ∃ next, ExactEntry system view proper entry current next ∧ Onward later next

/-- The commands of an open macro, the last one first, lead from where it was
begun to the view. -/
def Grouped (begun : View) : List Command → View → Prop
  | [], current => current = begun
  | command :: earlier, current =>
      ∃ previous, Grouped begun earlier previous ∧ Exact system view proper command previous current

/-- From where the last step was finished to the view, through an open macro if
there is one. -/
def Begun (begun : View) : Option (List Command) → View → Prop
  | none, current => current = begun
  | some commands, current => Grouped system view proper begun commands current

/-- The stack is a timeline from the origin. -/
structure Truthful (origin : View) (stack : UndoStack State Command) : Prop where
  past : ∃ begun, Timeline system view proper origin stack.done begun ∧
    Begun system view proper begun stack.grouped (view stack.state)
  future : Onward system view proper stack.undone (view stack.state)

/-- A push is exact where it is made: its command leads to the view after it and
back, and so does the last command that takes it in. -/
def ExactPush (stack : UndoStack State Command) : UndoAction Request → Prop
  | .push request merging => ∀ command next, system.make request stack.state = some command →
      system.redo command stack.state = some next →
      Exact system view proper command (view stack.state) (view next) ∧
        ∀ last merged previous, merging = true → stack.last = some last →
          system.merge last command = some merged →
          Exact system view proper last previous (view stack.state) →
          Exact system view proper merged previous (view next)
  | _ => True

variable {system view proper}

/-- The commands of a macro are one exact step. -/
theorem Grouped.exact {begun current : View} {commands : List Command}
    (grouped : Grouped system view proper begun commands current) :
    ExactEntry system view proper (.batch commands) begun current := by
  induction commands generalizing current with
  | nil =>
      cases grouped
      exact ⟨fun _ single => (by cases single), fun state seen => ⟨state, rfl, seen⟩,
        fun state seen => ⟨state, rfl, seen⟩⟩
  | cons command earlier ih =>
      rcases grouped with ⟨previous, before, exact⟩
      exact ⟨fun _ single => (by cases single), (ih before).redo.bind exact.redo,
        exact.undo.bind (ih before).undo⟩

theorem Exact.entry {command : Command} {source target : View}
    (exact : Exact system view proper command source target) :
    ExactEntry system view proper (.single command) source target :=
  ⟨fun _ single => (by cases single; exact exact.isProper), exact.redo, exact.undo⟩

/-- What a push records continues the timeline. -/
theorem Timeline.record {origin current next : View} {done : List (HistoryEntry Command)}
    (timeline : Timeline system view proper origin done current) {command : Command}
    {merging : Bool}
    (exact : Exact system view proper command current next)
    (merges : ∀ last earlier merged previous, merging = true → done = .single last :: earlier →
      system.merge last command = some merged →
      Exact system view proper last previous current →
        Exact system view proper merged previous next) :
    Timeline system view proper origin (recordEntry system command merging done) next := by
  cases done with
  | nil => exact ⟨current, timeline, exact.entry⟩
  | cons entry earlier =>
      cases entry with
      | batch commands => exact ⟨current, timeline, exact.entry⟩
      | single last =>
          rw [recordEntry]
          cases merged : if merging then system.merge last command else none with
          | none => exact ⟨current, timeline, exact.entry⟩
          | some taken =>
              rcases timeline with ⟨previous, before, lastExact⟩
              split_ifs at merged with tried
              exact ⟨previous, before, (merges last earlier taken previous tried rfl merged
                ⟨lastExact.isProper last rfl, lastExact.redo, lastExact.undo⟩).entry⟩

theorem Grouped.record {begun current next : View} {commands : List Command}
    (grouped : Grouped system view proper begun commands current) {command : Command}
    {merging : Bool}
    (exact : Exact system view proper command current next)
    (merges : ∀ last merged previous, merging = true → commands.head? = some last →
      system.merge last command = some merged →
      Exact system view proper last previous current →
        Exact system view proper merged previous next) :
    Grouped system view proper begun (recordCommand system command merging commands) next := by
  cases commands with
  | nil => exact ⟨current, grouped, exact⟩
  | cons last earlier =>
      rw [recordCommand]
      cases merged : if merging then system.merge last command else none with
      | none => exact ⟨current, grouped, exact⟩
      | some taken =>
          rcases grouped with ⟨previous, before, lastExact⟩
          split_ifs at merged with tried
          exact ⟨previous, before, merges last taken previous tried rfl merged lastExact⟩

/-! ## Every run -/

theorem truthful_fresh (state : State) :
    Truthful system view proper (view state) (UndoStack.fresh state : UndoStack State Command) :=
  ⟨⟨view state, rfl, rfl⟩, trivial⟩

/-- Every exact step keeps the timeline. -/
theorem truthful_step {origin : View} {stack next : UndoStack State Command}
    {action : UndoAction Request} (truthful : Truthful system view proper origin stack)
    (exact : ExactPush system view proper stack action)
    (taken : stack.step system action = some next) : Truthful system view proper origin next := by
  rcases truthful.past with ⟨begun, timeline, current⟩
  cases action with
  | push request merging =>
      rw [UndoStack.step, UndoStack.push] at taken
      rcases Option.bind_eq_some_iff.mp taken with ⟨command, made, executed⟩
      rcases Option.map_eq_some_iff.mp executed with ⟨state, redone, recorded⟩
      rcases exact command state made redone with ⟨commandExact, merges⟩
      cases grouped : stack.grouped with
      | none =>
          rw [grouped] at current
          cases current
          rw [← recorded, UndoStack.record, grouped]
          refine ⟨⟨view state, timeline.record commandExact ?_, rfl⟩, trivial⟩
          intro last earlier merged previous tried top
          refine merges last merged previous tried ?_
          rw [UndoStack.last, grouped, top]
      | some commands =>
          rw [grouped] at current
          rw [← recorded, UndoStack.record, grouped]
          refine ⟨⟨begun, timeline, Grouped.record current commandExact ?_⟩, trivial⟩
          intro last merged previous tried top
          refine merges last merged previous tried ?_
          rw [UndoStack.last, grouped]
          exact top
  | undo =>
      rw [UndoStack.step] at taken
      cases grouped : stack.grouped with
      | some commands =>
          simp only [UndoStack.undo, grouped, Option.some.injEq] at taken
          exact taken ▸ truthful
      | none =>
          cases recorded : stack.done with
          | nil =>
              simp only [UndoStack.undo, grouped, recorded, Option.some.injEq] at taken
              exact taken ▸ truthful
          | cons entry earlier =>
              rw [recorded] at timeline
              rw [grouped] at current
              rcases timeline with ⟨before, timeline, entryExact⟩
              rcases entryExact.undo stack.state current with ⟨previous, undone, seen⟩
              simp only [UndoStack.undo, grouped, recorded, undone, Option.map_some,
                Option.some.injEq] at taken
              subst taken
              cases current
              exact ⟨⟨before, timeline, seen⟩,
                ⟨view stack.state, seen.symm ▸ entryExact, truthful.future⟩⟩
  | redo =>
      rw [UndoStack.step] at taken
      cases grouped : stack.grouped with
      | some commands =>
          simp only [UndoStack.redo, grouped, Option.some.injEq] at taken
          exact taken ▸ truthful
      | none =>
          cases waits : stack.undone with
          | nil =>
              simp only [UndoStack.redo, grouped, waits, Option.some.injEq] at taken
              exact taken ▸ truthful
          | cons entry later =>
              have future := truthful.future
              rw [waits] at future
              rw [grouped] at current
              rcases future with ⟨after, entryExact, onward⟩
              rcases entryExact.redo stack.state rfl with ⟨state, redone, seen⟩
              simp only [UndoStack.redo, grouped, waits, redone, Option.map_some,
                Option.some.injEq] at taken
              subst taken
              cases current
              exact ⟨⟨after, ⟨view stack.state, timeline, entryExact⟩, seen⟩, seen.symm ▸ onward⟩
  | beginMacro =>
      rw [UndoStack.step] at taken
      cases grouped : stack.grouped with
      | none =>
          rw [grouped] at taken current
          cases taken
          exact ⟨⟨begun, timeline, current⟩, trivial⟩
      | some commands =>
          rw [grouped] at taken
          cases taken
  | endMacro =>
      rw [UndoStack.step] at taken
      cases grouped : stack.grouped with
      | none =>
          rw [grouped] at taken
          cases taken
      | some commands =>
          rw [grouped] at taken current
          cases taken
          exact ⟨⟨view stack.state, ⟨begun, timeline, Grouped.exact current⟩, rfl⟩,
            truthful.future⟩

variable {stack : UndoStack State Command}

/-- Any number of recorded steps can be undone and then redone, to the view
before. -/
theorem undo_redo_run {origin : View} (count : Nat)
    (truthful : Truthful system view proper origin stack) (closed : stack.grouped = none)
    (recorded : count ≤ stack.done.length) :
    ∃ earlier later,
      run (UndoStack.step system) stack (List.replicate count .undo) = some earlier ∧
      run (UndoStack.step system) earlier (List.replicate count .redo) = some later ∧
      Truthful system view proper origin earlier ∧ earlier.grouped = none ∧
      earlier.done = stack.done.drop count ∧ view later.state = view stack.state ∧
      later.done = stack.done ∧ later.undone = stack.undone ∧ later.grouped = none := by
  induction count generalizing stack with
  | zero => exact ⟨stack, stack, rfl, rfl, truthful, closed, rfl, rfl, rfl, rfl, closed⟩
  | succ count ih =>
      cases done : stack.done with
      | nil =>
          rw [done] at recorded
          exact absurd recorded (Nat.not_succ_le_zero count)
      | cons entry below =>
          rw [done] at recorded
          rcases truthful.past with ⟨begun, timeline, current⟩
          rw [closed] at current
          rw [done] at timeline
          cases current
          rcases timeline with ⟨before, _, exact⟩
          rcases exact.undo stack.state rfl with ⟨previous, undone, seen⟩
          have taken : stack.step system (.undo : UndoAction Request) = some { stack with
              state := previous, done := below, undone := entry :: stack.undone } := by
            simp only [UndoStack.step, UndoStack.undo, closed, done, undone, Option.map_some]
          have free : ExactPush system view proper stack (.undo : UndoAction Request) := trivial
          rcases ih (truthful_step truthful free taken) closed
            (Nat.le_of_succ_le_succ recorded) with
            ⟨earlier, middle, undoRun, redoRun, kept, earlierClosed, left, middleView, middleDone,
              middleUndone, middleClosed⟩
          rcases exact.redo middle.state (middleView.trans seen) with ⟨next, redone, nextView⟩
          have again : middle.step system (.redo : UndoAction Request) = some { middle with
              state := next, done := entry :: middle.done, undone := stack.undone } := by
            simp only [UndoStack.step, UndoStack.redo, middleClosed, middleUndone, redone,
              Option.map_some]
          refine ⟨earlier, { middle with
              state := next, done := entry :: middle.done, undone := stack.undone },
            run_cons_eq_some.mpr ⟨_, taken, undoRun⟩, ?_, kept, earlierClosed, left, nextView, ?_,
            rfl, middleClosed⟩
          · rw [List.replicate_succ']
            exact run_append_eq_some.mpr ⟨middle, redoRun, run_cons_eq_some.mpr ⟨_, again, rfl⟩⟩
          · rw [middleDone]

/-- Undoing all steps leads back to the origin. -/
theorem Truthful.origin {origin : View}
    (truthful : Truthful system view proper origin stack) (closed : stack.grouped = none)
    (nothing : stack.done = []) : view stack.state = origin := by
  rcases truthful.past with ⟨begun, timeline, current⟩
  rw [closed] at current
  rw [nothing] at timeline
  exact Eq.trans current timeline

/-- In every state that a run of exact pushes reaches, undoing everything leads
back to the origin, and redoing what was undone, however much it is, to where
the undo began. -/
theorem undo_exact {start : State} {actions : List (UndoAction Request)}
    (exact : Meets (UndoStack.step system) (ExactPush system view proper)
      (UndoStack.fresh start) actions)
    (reached : run (UndoStack.step system) (UndoStack.fresh start) actions = some stack)
    (closed : stack.grouped = none) :
    (∃ undone, run (UndoStack.step system) stack
        (List.replicate stack.done.length (.undo : UndoAction Request)) = some undone ∧
        view undone.state = view start) ∧
      ∀ count ≤ stack.done.length, ∃ undone redone,
        run (UndoStack.step system) stack
          (List.replicate count (.undo : UndoAction Request)) = some undone ∧
        run (UndoStack.step system) undone
          (List.replicate count (.redo : UndoAction Request)) = some redone ∧
        view redone.state = view stack.state := by
  have preserved : ∀ (stack : UndoStack State Command) (action : UndoAction Request)
      (next : UndoStack State Command), Truthful system view proper (view start) stack →
      ExactPush system view proper stack action → stack.step system action = some next →
      Truthful system view proper (view start) next :=
    fun _ _ _ truthful exact taken => truthful_step truthful exact taken
  have truthful : Truthful system view proper (view start) stack :=
    run_invariant preserved (truthful_fresh start) exact reached
  constructor
  · rcases undo_redo_run stack.done.length truthful closed le_rfl with
      ⟨undone, _, undoRun, _, kept, undoneClosed, left, _⟩
    rw [List.drop_length] at left
    exact ⟨undone, undoRun, kept.origin undoneClosed left⟩
  · intro count recorded
    rcases undo_redo_run count truthful closed recorded with
      ⟨undone, redone, undoRun, redoRun, _, _, _, seen, _⟩
    exact ⟨undone, redone, undoRun, redoRun, seen⟩

end Exact

end Foundation
end Synesthesia
