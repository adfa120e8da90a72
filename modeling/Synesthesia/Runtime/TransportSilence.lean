import Synesthesia.Foundation.Runs
import Synesthesia.Runtime.Transport

namespace Synesthesia
namespace Runtime

open Foundation Contracts Media Midi Nodes

/-!
# Silence after pause and stop

An output is settled when it is silent or a reset that will silence it is on
its way, with no tick behind that may drive it again.  Every step but the
publication of a frame keeps a settled output settled, so the engine stays
silent after a pause or a stop unless a frame that passed its state check
before is published after, or a stop of one source finds the others paused with
their outputs still sounding.
-/

namespace Transport

/-! ## Settled outputs -/

/-- Whether an output on the given clock may sound once the commands are done. -/
def loudAfter (clock : Option UUID) : List (GraphCommand Nat) → Bool → Bool
  | [], loud => loud
  | .tick source _ :: rest, loud =>
      loudAfter clock rest (loud || decide (clock = none ∨ clock = some source))
  | .reset source _ :: rest, loud =>
      loudAfter clock rest (loud && decide (clock ≠ some source))

variable {commands : List (GraphCommand Nat)} {clock : Option UUID}

theorem loudAfter_mono (quiet : loudAfter clock commands true = false) (loud : Bool) :
    loudAfter clock commands loud = false := by
  cases loud with
  | true => exact quiet
  | false =>
      induction commands with
      | nil => rfl
      | cons command rest ih =>
          cases command with
          | tick source frame =>
              rw [loudAfter, Bool.true_or] at quiet
              rw [loudAfter, Bool.false_or]
              cases decide (clock = none ∨ clock = some source) with
              | true => exact quiet
              | false => exact ih quiet
          | reset source reason =>
              rw [loudAfter, Bool.true_and] at quiet
              rw [loudAfter, Bool.false_and]
              cases reaches : decide (clock ≠ some source) with
              | true =>
                  rw [reaches] at quiet
                  exact ih quiet
              | false => rwa [reaches] at quiet

/-- A quieter start ends no louder. -/
theorem loudAfter_le {before after : Bool} (quiet : loudAfter clock commands before = false)
    (le : after = true → before = true) : loudAfter clock commands after = false := by
  cases before with
  | true => exact loudAfter_mono quiet after
  | false =>
      cases after with
      | true => cases le rfl
      | false => exact quiet

theorem loudAfter_append (clock : Option UUID) (first second : List (GraphCommand Nat))
    (loud : Bool) :
    loudAfter clock (first ++ second) loud =
      loudAfter clock second (loudAfter clock first loud) := by
  induction first generalizing loud with
  | nil => rfl
  | cons command rest ih =>
      cases command with
      | tick source frame => exact ih _
      | reset source reason => exact ih _

/-- Without the ticks of a source an output ends no louder. -/
theorem loudAfter_dropTicks (source : UUID)
    {loud : Bool}
    (quiet : loudAfter clock commands loud = false) :
    loudAfter clock (commands.filter (fun command => !command.isTickOf source)) loud = false := by
  induction commands generalizing loud with
  | nil => exact quiet
  | cons command rest ih =>
      cases command with
      | tick other frame =>
          by_cases same : other = source
          · have dropped : (!(GraphCommand.tick other frame).isTickOf source) = false := by
              simp [GraphCommand.isTickOf, same]
            rw [List.filter_cons, if_neg (by rw [dropped]; decide)]
            exact ih (loudAfter_le quiet (fun loud => by rw [loud, Bool.true_or]))
          · have kept : (!(GraphCommand.tick other frame).isTickOf source) = true := by
              simp [GraphCommand.isTickOf, same]
            rw [List.filter_cons, if_pos kept]
            exact ih quiet
      | reset other reason =>
          rw [List.filter_cons, if_pos (show (!(GraphCommand.reset other reason).isTickOf source) =
            true from rfl)]
          exact ih quiet

/-- A command of another source does not concern an output on a clock. -/
theorem loudAfter_other {clock : UUID} {command : GraphCommand Nat}
    (different : command.sourceNodeId ≠ clock) (rest : List (GraphCommand Nat)) (loud : Bool) :
    loudAfter (some clock) (command :: rest) loud = loudAfter (some clock) rest loud := by
  cases command with
  | tick source frame =>
      have other : some clock ≠ some source := fun same => different (Option.some.inj same).symm
      simp [loudAfter, other]
  | reset source reason =>
      have other : some clock ≠ some source := fun same => different (Option.some.inj same).symm
      simp [loudAfter, other]

/-- Only the commands of its own source concern an output on a clock. -/
theorem loudAfter_own (clock : UUID) (commands : List (GraphCommand Nat)) (loud : Bool) :
    loudAfter (some clock) commands loud = loudAfter (some clock)
      (commands.filter (fun command => decide (command.sourceNodeId = clock))) loud := by
  induction commands generalizing loud with
  | nil => rfl
  | cons command rest ih =>
      by_cases own : command.sourceNodeId = clock
      · rw [List.filter_cons, if_pos (decide_eq_true own)]
        cases command with
        | tick source frame => exact ih _
        | reset source reason => exact ih _
      · rw [List.filter_cons, if_neg (by simpa using own), loudAfter_other own]
        exact ih loud

theorem loudAfter_publishFrame {clock source : UUID} (different : clock ≠ source) (frame : Nat)
    (commands : List (GraphCommand Nat)) (loud : Bool) :
    loudAfter (some clock) (publishFrame source frame commands).1 loud =
      loudAfter (some clock) commands loud := by
  have others : ∀ command : GraphCommand Nat, command.sourceNodeId = source →
      decide (command.sourceNodeId = clock) = false := by
    intro command isSource
    rw [isSource]
    exact decide_eq_false (Ne.symm different)
  rw [loudAfter_own, publishFrame_filter source frame commands _ others, ← loudAfter_own]

theorem loudAfter_publishReset (source : UUID) (reason : Nodes.ResetReason)
    {loud : Bool}
    (quiet : loudAfter clock commands loud = false) :
    loudAfter clock (publishReset source reason commands) loud = false := by
  have kept : loudAfter clock (if reason = .sourceEnded then commands
      else commands.filter (fun command => !command.isTickOf source)) loud = false := by
    split_ifs
    · exact quiet
    · exact loudAfter_dropTicks source quiet
  rw [publishReset, loudAfter_append, kept]
  rfl

/-- A reset silences what came before it on its clock. -/
theorem loudAfter_reset (source : UUID) (reason : Nodes.ResetReason)
    (commands : List (GraphCommand Nat)) (loud : Bool) :
    loudAfter (some source) (publishReset source reason commands) loud = false := by
  rw [publishReset, loudAfter_append]
  simp [loudAfter]

theorem loudAfter_of_no_ticks
    (noTicks : ∀ source frame, GraphCommand.tick source frame ∉ commands) :
    loudAfter clock commands false = false := by
  induction commands with
  | nil => rfl
  | cons command rest ih =>
      cases command with
      | tick source frame => exact absurd List.mem_cons_self (noTicks source frame)
      | reset source reason =>
          exact ih (fun source frame member =>
            noTicks source frame (List.mem_cons_of_mem _ member))

end Transport

/-- What the worker's current command will still do to the output. -/
def WorkerPhase.ahead (output : UUID) : WorkerPhase → List (GraphCommand Nat)
  | .idle => []
  | .popped source frame => [.tick source frame]
  | .driving source _ outputs => if output ∈ outputs then [.tick source 0] else []
  | .publishing source _ current _ outputs =>
      if output = current ∨ output ∈ outputs then [.tick source 0] else []
  | .resetting source outputs => if output ∈ outputs then [.reset source .sourceRestarted] else []

/-- The worker is in a tick. -/
def WorkerPhase.drives : WorkerPhase → Bool
  | .popped _ _ => true
  | .driving _ _ _ => true
  | .publishing _ _ _ _ _ => true
  | _ => false

theorem WorkerPhase.ahead_tickFree {worker : WorkerPhase} (idle : worker.drives = false)
    (output source : UUID) (frame : Nat) :
    GraphCommand.tick source frame ∉ worker.ahead output := by
  intro member
  cases worker with
  | idle => cases member
  | popped other frame => cases idle
  | driving other generation outputs => cases idle
  | publishing other generation reached notes outputs => cases idle
  | resetting other outputs =>
      rw [ahead] at member
      split_ifs at member
      · cases List.mem_singleton.mp member
      · cases member

namespace ApiPhase

/-- A stop waits for the threads of the source or has not published its reset. -/
def isHalting (source : UUID) : ApiPhase → Bool
  | .halting _ other _ => decide (other = source)
  | .halted _ other _ => decide (other = source)
  | _ => false

/-- A pause has drained the worker and panics the outputs. -/
def silences : ApiPhase → Bool
  | .panicking false _ _ => true
  | _ => false

/-- The selection of a running stop and the sources it has not told to stop. -/
def stopProgress : ApiPhase → Option (Option UUID × List UUID)
  | .stopping selection sources => some (selection, sources)
  | .halting selection _ sources => some (selection, sources)
  | .halted selection _ sources => some (selection, sources)
  | .panicking true _ _ => some (none, [])
  | .finishing selection => some (selection, [])
  | _ => none

/-- The outputs that a stop of all sources has not panicked yet. -/
def unclockedLeft : ApiPhase → Option (List UUID)
  | .panicking true _ outputs => some outputs
  | .finishing none => some []
  | _ => none

end ApiPhase

namespace Transport

/-- Whether the output may sound once the worker is done with its command. -/
def current (plan : TransportPlan) (transport : Transport) (output : UUID) : Bool :=
  loudAfter (plan.clock output) (transport.worker.ahead output)
    (!(transport.outputs output).isSilent)

/-- The output is silent once all commands are done. -/
def Settled (plan : TransportPlan) (transport : Transport) (output : UUID) : Prop :=
  loudAfter (plan.clock output) transport.commands (transport.current plan output) = false

instance (plan : TransportPlan) (transport : Transport) (output : UUID) :
    Decidable (transport.Settled plan output) :=
  inferInstanceAs (Decidable (_ = _))

variable {plan : TransportPlan} {transport next : Transport} {output : UUID}

theorem Settled.of_current
    (settled : transport.Settled plan output) (commands : next.commands = transport.commands)
    (current : next.current plan output = true → transport.current plan output = true) :
    next.Settled plan output := by
  rw [Settled, commands]
  exact loudAfter_le settled current

/-- The worker publishes notes to outputs of its source and to unclocked ones. -/
def PublishesOwn (plan : TransportPlan) (transport : Transport) : Prop :=
  ∀ source generation output notes outputs,
    transport.worker = .publishing source generation output notes outputs →
      plan.clock output = none ∨ plan.clock output = some source

variable {action : Step}

/-- A step of a source keeps an output settled, unless it publishes a frame that
may drive the output. -/
theorem Settled.sourceStep (settled : transport.Settled plan output)
    (apart : ∀ source, action = .presentFrame source →
      ∃ clock, plan.clock output = some clock ∧ clock ≠ source)
    (taken : transport.sourceStep plan action = some next) : next.Settled plan output := by
  cases action with
  | checkState source =>
      simp only [Transport.sourceStep] at taken
      split_ifs at taken
      rcases Option.map_eq_some_iff.mp taken with ⟨state, _, rfl⟩
      exact settled
  | presentFrame source =>
      simp only [Transport.sourceStep] at taken
      cases held : (transport.sources source).inHand with
      | none => simp [held] at taken
      | some frame =>
          simp only [held, Option.some.injEq] at taken
          subst taken
          rcases apart source rfl with ⟨clock, onClock, different⟩
          unfold Settled current at settled ⊢
          rw [onClock] at settled ⊢
          rw [show ∀ loud, loudAfter (some clock)
            (publishFrame source frame transport.commands).1 loud = _ from
              loudAfter_publishFrame different frame transport.commands]
          exact settled
  | commitEnd source =>
      rcases Option.map_eq_some_iff.mp taken with ⟨state, _, rfl⟩
      exact settled
  | publishEnd source =>
      simp only [Transport.sourceStep] at taken
      split_ifs at taken
      cases taken
      exact loudAfter_publishReset source .sourceEnded settled
  | restart source =>
      simp only [Transport.sourceStep] at taken
      split_ifs at taken
      cases taken
      exact loudAfter_publishReset source .sourceRestarted settled
  | fail source =>
      rcases Option.map_eq_some_iff.mp taken with ⟨state, _, rfl⟩
      exact settled
  | _ => cases taken

/-- Setting one output to a state that is not louder keeps the worker's part. -/
theorem current_setOutput (plan : TransportPlan) (transport : Transport) (changed output : UUID)
    (state : OutputState) :
    (transport.setOutput changed state).current plan output =
      loudAfter (plan.clock output) (transport.worker.ahead output)
        (!(if output = changed then state else transport.outputs output).isSilent) := by
  simp only [current, setOutput, Function.update_apply]

variable {source : UUID}

/-- Fewer ticks ahead and a quieter output leave it no louder. -/
theorem loudAfter_ticks_le {clock : Option UUID} {before after : Prop}
    [Decidable before] [Decidable after] {loudBefore loudAfter_ : Bool}
    (fewer : after → before) (quieter : loudAfter_ = true → loudBefore = true)
    (loud : loudAfter clock (if after then [.tick source 0] else []) loudAfter_ = true) :
    loudAfter clock (if before then [.tick source 0] else []) loudBefore = true := by
  by_cases isBefore : before
  · rw [if_pos isBefore]
    by_cases isAfter : after
    · rw [if_pos isAfter] at loud
      simp only [loudAfter, Bool.or_eq_true] at loud ⊢
      exact loud.imp_left quieter
    · rw [if_neg isAfter] at loud
      simp only [loudAfter, Bool.or_eq_true]
      exact Or.inl (quieter loud)
  · rw [if_neg isBefore]
    rw [if_neg (fun isAfter => isBefore (fewer isAfter))] at loud
    exact quieter loud

/-- The outputs of a reset in the middle of a command that raises stay as they were. -/
def ResetsAll (transport : Transport) : Step → Prop
  | .resetOutput raises => raises = true → ∀ source output outputs,
      transport.worker = .resetting source (output :: outputs) → outputs = []
  | _ => True

theorem Settled.drive {effect : TickEffect} (settled : transport.Settled plan output)
    (taken : transport.workerStep plan (.drive effect) = some next) :
    next.Settled plan output := by
  simp only [Transport.workerStep] at taken
  cases at_ : transport.worker with
  | idle => simp [at_] at taken
  | popped source frame => simp [at_] at taken
  | publishing source generation other notes outputs => simp [at_] at taken
  | resetting source outputs => simp [at_] at taken
  | driving source generation outputs =>
      cases outputs with
      | nil => simp [at_] at taken
      | cons reached rest =>
          have skipped : Settled plan
              { transport with worker := .driving source generation rest } output := by
            refine settled.of_current rfl ?_
            unfold current
            rw [at_]
            exact loudAfter_ticks_le (List.mem_cons_of_mem _) id
          simp only [at_] at taken
          cases effect with
          | skip =>
              cases taken
              exact skipped
          | missing =>
              cases taken
              refine skipped.of_current rfl ?_
              rw [current_setOutput]
              refine loudAfter_ticks_le id ?_
              intro loud
              split_ifs at loud with same
              · cases loud
              · exact loud
          | publish notes published =>
              simp only at taken
              split_ifs at taken
              · cases taken
                exact skipped
              · cases taken
                refine settled.of_current rfl ?_
                unfold current
                rw [at_]
                exact loudAfter_ticks_le List.mem_cons.mpr id

theorem Settled.enqueue
    (own : transport.PublishesOwn plan) (settled : transport.Settled plan output)
    (taken : transport.workerStep plan .enqueue = some next) : next.Settled plan output := by
  simp only [Transport.workerStep] at taken
  cases at_ : transport.worker with
  | idle => simp [at_] at taken
  | popped source frame => simp [at_] at taken
  | driving source generation outputs => simp [at_] at taken
  | resetting source outputs => simp [at_] at taken
  | publishing source generation reached notes rest =>
      simp only [at_, Option.some.injEq] at taken
      subst taken
      refine settled.of_current rfl ?_
      rw [current_setOutput, current, at_]
      by_cases same : output = reached
      · -- the tick that publishes was still ahead of the output
        intro _
        have ahead : output = reached ∨ output ∈ rest := Or.inl same
        rw [WorkerPhase.ahead, if_pos ahead, same]
        simp [loudAfter, own source generation reached notes rest at_]
      · rw [if_neg same]
        exact loudAfter_ticks_le Or.inr id

theorem Settled.resetOutput {raises : Bool} (all : transport.ResetsAll (.resetOutput raises))
    (settled : transport.Settled plan output)
    (taken : transport.workerStep plan (.resetOutput raises) = some next) :
    next.Settled plan output := by
  simp only [Transport.workerStep] at taken
  cases at_ : transport.worker with
  | idle => simp [at_] at taken
  | popped source frame => simp [at_] at taken
  | driving source generation outputs => simp [at_] at taken
  | publishing source generation other notes outputs => simp [at_] at taken
  | resetting source outputs =>
      cases outputs with
      | nil => simp [at_] at taken
      | cons reached rest =>
          simp only [at_, Option.some.injEq] at taken
          subst taken
          refine settled.of_current rfl ?_
          rw [current_setOutput, current, at_]
          by_cases same : output = reached
          · -- the output is silent, and no tick is ahead of it
            rw [if_pos same]
            intro loud
            cases raises with
            | true => cases loud
            | false =>
                simp only [Bool.false_eq_true, if_false, WorkerPhase.ahead] at loud
                split_ifs at loud <;> cases loud
          · rw [if_neg same]
            cases raises with
            | true =>
                have none_left : rest = [] := all rfl source reached rest at_
                subst none_left
                simp [WorkerPhase.ahead, same]
            | false => simp [WorkerPhase.ahead, same]

theorem Settled.popCommand
    (isOutput : output ∈ plan.outputIds) (settled : transport.Settled plan output)
    (taken : transport.workerStep plan .popCommand = some next) : next.Settled plan output := by
  simp only [Transport.workerStep] at taken
  split at taken
  · rename_i source frame rest at_ pending
    cases taken
    unfold Settled current at settled ⊢
    rw [at_, pending] at settled
    exact settled
  · rename_i source reason rest at_ pending
    cases taken
    unfold Settled current at settled ⊢
    rw [at_, pending] at settled
    refine loudAfter_le settled ?_
    simp only [WorkerPhase.ahead, List.mem_filter, isOutput, true_and, decide_eq_true_eq]
    split_ifs with own
    · simp [loudAfter, own]
    · simp [loudAfter, own]
  · cases taken

theorem Settled.workerStep (isOutput : output ∈ plan.outputIds) (own : transport.PublishesOwn plan)
    (all : transport.ResetsAll action) (settled : transport.Settled plan output)
    (taken : transport.workerStep plan action = some next) : next.Settled plan output := by
  cases action with
  | popCommand => exact settled.popCommand isOutput taken
  | drive effect => exact settled.drive taken
  | enqueue => exact settled.enqueue own taken
  | resetOutput raises => exact settled.resetOutput all taken
  | stamp =>
      simp only [Transport.workerStep] at taken
      split at taken
      · rename_i source frame at_
        cases taken
        refine settled.of_current rfl ?_
        unfold current
        rw [at_]
        simp [WorkerPhase.ahead, isOutput, loudAfter]
      · cases taken
  | finishCommand =>
      simp only [Transport.workerStep] at taken
      split at taken
      · rename_i source generation at_
        cases taken
        refine settled.of_current rfl ?_
        unfold current
        rw [at_]
        exact id
      · rename_i source at_
        cases taken
        refine settled.of_current rfl ?_
        unfold current
        rw [at_]
        exact id
      · cases taken
  | replaceSynth changed opened =>
      simp only [Transport.workerStep] at taken
      by_cases audio : plan.isAudio changed = true
      · rw [if_pos audio] at taken
        cases taken
        refine settled.of_current rfl ?_
        rw [current_setOutput, current]
        by_cases same : output = changed
        · rw [if_pos same, same]
          exact id
        · rw [if_neg same]
          exact id
      · rw [if_neg audio] at taken
        cases taken
  | _ => cases taken

/-- What a call leaves alone that neither publishes a reset nor panics. -/
structure CallFrame (transport next : Transport) : Prop where
  commands : next.commands = transport.commands
  worker : next.worker = transport.worker
  outputs : next.outputs = transport.outputs
  driven : next.driven = transport.driven

theorem apiStep_frame (taken : transport.apiStep plan action = some next)
    (notPlay : ∀ source, action ≠ .play source) (notReset : action ≠ .publishStop)
    (notPanic : ∀ raises, action ≠ .panicOutput raises) : CallFrame transport next := by
  cases action with
  | play source => exact absurd rfl (notPlay source)
  | publishStop => exact absurd rfl notReset
  | panicOutput raises => exact absurd rfl (notPanic raises)
  | _ =>
      simp only [Transport.apiStep] at taken
      first
        | cases taken
        | split at taken <;> first
            | (cases taken <;> exact ⟨rfl, rfl, rfl, rfl⟩)
            | (split_ifs at taken <;> cases taken <;> exact ⟨rfl, rfl, rfl, rfl⟩)
            | (rcases Option.map_eq_some_iff.mp taken with ⟨_, _, rfl⟩; exact ⟨rfl, rfl, rfl, rfl⟩)

theorem Settled.apiStep (settled : transport.Settled plan output)
    (taken : transport.apiStep plan action = some next) : next.Settled plan output := by
  cases action with
  | play source =>
      simp only [Transport.apiStep] at taken
      split at taken
      · by_cases known : source ∈ plan.sourceIds
        · rw [if_pos known] at taken
          rcases Option.map_eq_some_iff.mp taken with ⟨state, _, rfl⟩
          by_cases ended : (transport.sources source).state = .ended
          · simp only [ended, if_true]
            exact loudAfter_publishReset source .sourceRestarted settled
          · simp only [ended, if_false]
            exact settled
        · rw [if_neg known] at taken
          cases taken
      · cases taken
  | publishStop =>
      simp only [Transport.apiStep] at taken
      split at taken
      · rename_i selection source rest _
        cases taken
        exact loudAfter_publishReset source .sourceRestarted settled
      · cases taken
  | panicOutput raises =>
      simp only [Transport.apiStep] at taken
      split at taken
      · rename_i stop generation reached rest _
        cases taken
        refine settled.of_current rfl ?_
        rw [current_setOutput, current]
        by_cases same : output = reached
        · rw [if_pos same]
          intro loud
          have quietStart : loudAfter (plan.clock output) (transport.worker.ahead output)
              (!(transport.outputs output).isSilent) = false → False := by
            intro quiet
            have silenced : loudAfter (plan.clock output) (transport.worker.ahead output) false =
                false := loudAfter_le quiet nofun
            exact Bool.false_ne_true (silenced.symm.trans loud)
          exact Bool.eq_true_of_not_eq_false quietStart
        · rw [if_neg same]
          exact id
      · cases taken
  | _ =>
      have frame := apiStep_frame taken nofun nofun nofun
      refine settled.of_current frame.commands ?_
      unfold current
      rw [frame.worker, frame.outputs]
      exact id

/-! ## The condition on a step -/

/-- No tick is pending or in flight. -/
def TickFree (transport : Transport) : Prop :=
  (∀ source frame, GraphCommand.tick source frame ∉ transport.commands) ∧
    transport.worker.drives = false

/-- The steps that keep a silenced engine silent.

* No frame is published once the engine is silenced: after a pause has drained
  the worker, or after the last pause or stop has returned.
* The wait of a pause does not time out with a tick pending or in flight.
* A stop of all sources panics an unclocked output only when the tick in
  flight, if any, has reached that output already.
* When a stop of one source leaves no source active, no frame has been published
  for any output off its clock since the output was last panicked or its clock
  last reset.
* A reset that raises is the last of its command. -/
def Orderly (plan : TransportPlan) (transport : Transport) : Step → Prop
  | .presentFrame _ => transport.quiet = false ∧ transport.api.silences = false
  | .drainTimeout => transport.TickFree
  | .panicOutput _ => ∀ generation output outputs,
      transport.api = .panicking true generation (output :: outputs) →
        plan.clock output = none → transport.worker.ahead output = []
  | .stopRefresh => ∀ source, transport.api = .finishing (some source) →
      transport.anyActive plan = false → ∀ output ∈ plan.outputIds,
        plan.clock output ≠ some source → transport.driven output = false
  | .resetOutput raises => transport.ResetsAll (.resetOutput raises)
  | _ => True

instance (transport : Transport) : Decidable transport.TickFree :=
  decidable_of_iff ((∀ command ∈ transport.commands, command.isTick = false) ∧
      transport.worker.drives = false) <| by
    refine and_congr_left (fun _ => ⟨?_, ?_⟩)
    · intro noTick source frame member
      cases noTick _ member
    · intro noTick command member
      cases command with
      | tick source frame => exact absurd member (noTick source frame)
      | reset source reason => rfl

instance (transport : Transport) : (action : Step) → Decidable (transport.ResetsAll action)
  | .resetOutput raises =>
      match at_ : transport.worker with
      | .resetting source (output :: outputs) =>
          decidable_of_iff (raises = true → outputs = []) (by simp [ResetsAll, at_])
      | .resetting source [] => isTrue (by simp [ResetsAll, at_])
      | .idle => isTrue (by simp [ResetsAll, at_])
      | .popped _ _ => isTrue (by simp [ResetsAll, at_])
      | .driving _ _ _ => isTrue (by simp [ResetsAll, at_])
      | .publishing _ _ _ _ _ => isTrue (by simp [ResetsAll, at_])
  | .checkState _ | .presentFrame _ | .commitEnd _ | .publishEnd _ | .restart _ | .fail _
  | .popCommand | .stamp | .drive _ | .enqueue | .finishCommand | .replaceSynth _ _ | .play _
  | .resume _ | .pauseCall _ | .pauseSource | .pauseRefresh | .drainDone | .drainTimeout
  | .stopCall _ | .haltSource | .joinSource | .publishStop | .stopPanic | .panicOutput _
  | .panicDone | .stopRefresh => isTrue trivial

instance (plan : TransportPlan) (transport : Transport) :
    (action : Step) → Decidable (transport.Orderly plan action)
  | .presentFrame _ => inferInstanceAs (Decidable (_ ∧ _))
  | .drainTimeout => inferInstanceAs (Decidable transport.TickFree)
  | .resetOutput raises => inferInstanceAs (Decidable (transport.ResetsAll (.resetOutput raises)))
  | .panicOutput _ =>
      match at_ : transport.api with
      | .panicking true generation (output :: outputs) =>
          decidable_of_iff (plan.clock output = none → transport.worker.ahead output = [])
            (by simp [Orderly, at_])
      | .panicking true _ [] | .panicking false _ _ | .idle | .pausing _ | .draining
      | .stopping _ _ | .halting _ _ _ | .halted _ _ _ | .finishing _ =>
          isTrue (by simp [Orderly, at_])
  | .stopRefresh =>
      match at_ : transport.api with
      | .finishing (some source) =>
          decidable_of_iff (transport.anyActive plan = false → ∀ output ∈ plan.outputIds,
            plan.clock output ≠ some source → transport.driven output = false)
            (by simp [Orderly, at_])
      | .finishing none | .panicking _ _ _ | .idle | .pausing _ | .draining
      | .stopping _ _ | .halting _ _ _ | .halted _ _ _ => isTrue (by simp [Orderly, at_])
  | .checkState _ | .commitEnd _ | .publishEnd _ | .restart _ | .fail _
  | .popCommand | .stamp | .drive _ | .enqueue | .finishCommand | .replaceSynth _ _ | .play _
  | .resume _ | .pauseCall _ | .pauseSource | .pauseRefresh | .drainDone
  | .stopCall _ | .haltSource | .joinSource | .publishStop | .stopPanic
  | .panicDone => isTrue trivial

theorem Orderly.resetsAll
    (orderly : transport.Orderly plan action) : transport.ResetsAll action := by
  cases action with
  | resetOutput raises => exact orderly
  | _ => trivial

/-! ## The invariant -/

/-- A stopped source: its threads are joined, no tick of it is pending, and the
outputs on its clock are settled. -/
structure Rested (plan : TransportPlan) (transport : Transport) (source : UUID) : Prop where
  joined : (transport.sources source).running = false
  resting : (transport.sources source).isResting = true
  noTicks : ∀ frame, GraphCommand.tick source frame ∉ transport.commands
  settled : ∀ output ∈ plan.outputIds, plan.clock output = some source →
    transport.Settled plan output

/-- The sources that a stop is asked to stop. -/
def stopTargets (plan : TransportPlan) : Option UUID → List UUID
  | none => plan.sourceIds
  | some source => [source]

structure Silencing (plan : TransportPlan) (transport : Transport) : Prop where
  known : ∀ source frame, GraphCommand.tick source frame ∈ transport.commands →
    source ∈ plan.sourceIds
  held : ∀ source frame, (transport.sources source).inHand = some frame → source ∈ plan.sourceIds
  own : transport.PublishesOwn plan
  joined : ∀ selection source sources, transport.api = .halted selection source sources →
    (transport.sources source).running = false ∧ (transport.sources source).isResting = true
  rested : ∀ source, (transport.sources source).stopEvent = true →
    transport.api.isHalting source = false → transport.Rested plan source
  told : ∀ selection sources, transport.api.stopProgress = some (selection, sources) →
    ∀ source ∈ stopTargets plan selection, source ∉ sources →
      (transport.sources source).stopEvent = true
  drained : ∀ generation outputs, transport.api = .panicking false generation outputs →
    transport.TickFree ∧
      ∀ output ∈ plan.outputIds, output ∉ outputs → transport.Settled plan output
  unclocked : ∀ outputs, transport.api.unclockedLeft = some outputs →
    ∀ output ∈ plan.outputIds, plan.clock output = none → output ∉ outputs →
      transport.Settled plan output
  calm : transport.quiet = true → ∀ output ∈ plan.outputIds, transport.Settled plan output

/-- The outputs that are not driven are settled. -/
def Clear (plan : TransportPlan) (transport : Transport) : Prop :=
  ∀ output ∈ plan.outputIds, transport.driven output = false → transport.Settled plan output

/-- A silent output with no tick pending or ahead of it is settled. -/
theorem settled_of_silent (silent : (transport.outputs output).isSilent = true)
    (noTicks : ∀ source frame, GraphCommand.tick source frame ∉ transport.commands)
    (noneAhead : ∀ source frame, GraphCommand.tick source frame ∉ transport.worker.ahead output) :
    transport.Settled plan output := by
  rw [Settled, current, silent, Bool.not_true, loudAfter_of_no_ticks noneAhead,
    loudAfter_of_no_ticks noTicks]

/-! ### Steps of the sources -/

/-- What a step of a source does to the state of a source: nothing to one whose
thread is joined. -/
structure SourceMoves (plan : TransportPlan) (source : UUID) (old new : VideoSource) : Prop where
  same : old.running = false → old.isResting = true → new = old
  stopEvent : new.stopEvent = old.stopEvent
  held : ∀ frame, new.inHand = some frame → old.inHand = some frame ∨ source ∈ plan.sourceIds

theorem SourceMoves.refl (plan : TransportPlan) (source : UUID) (state : VideoSource) :
    SourceMoves plan source state state :=
  ⟨fun _ _ => rfl, rfl, fun _ => Or.inl⟩

/-- Setting one source moves that source and no other. -/
theorem moves_setSource
    {state : VideoSource} (moves : SourceMoves plan source (transport.sources source) state)
    (other : UUID) :
    SourceMoves plan other (transport.sources other)
      ((transport.setSource source state).sources other) := by
  by_cases same : other = source
  · subst same
    rw [setSource_self]
    exact moves
  · rw [setSource_of_ne transport state same]
    exact SourceMoves.refl plan other _

theorem isReading_iff (source : VideoSource) :
    source.isReading = true ↔ source.running = true ∧ source.isResting = true :=
  Bool.and_eq_true_iff

/-- What a step of a source leaves alone, and what it may add to the mailbox. -/
structure SourceFrame (plan : TransportPlan) (transport next : Transport) (action : Step) :
    Prop where
  api : next.api = transport.api
  quiet : next.quiet = transport.quiet
  worker : next.worker = transport.worker
  moves : ∀ source, SourceMoves plan source (transport.sources source) (next.sources source)
  ticks : ∀ source frame, GraphCommand.tick source frame ∈ next.commands →
    GraphCommand.tick source frame ∈ transport.commands ∨
      action = .presentFrame source ∧ (transport.sources source).inHand = some frame

theorem sourceStep_frame (taken : transport.sourceStep plan action = some next) :
    SourceFrame plan transport next action := by
  cases action with
  | checkState source =>
      simp only [sourceStep] at taken
      split_ifs at taken with known
      rcases Option.map_eq_some_iff.mp taken with ⟨state, checked, rfl⟩
      unfold VideoSource.checkState at checked
      split_ifs at checked with allowed
      cases checked
      refine ⟨rfl, rfl, rfl, moves_setSource ⟨?_, rfl, fun _ _ => Or.inr known⟩, fun _ _ => Or.inl⟩
      intro joined
      rw [((isReading_iff _).mp allowed.1).1] at joined
      cases joined
  | presentFrame source =>
      simp only [sourceStep] at taken
      cases holding : (transport.sources source).inHand with
      | none => simp [holding] at taken
      | some frame =>
          simp only [holding, Option.some.injEq] at taken
          subst taken
          refine ⟨rfl, rfl, rfl, moves_setSource ⟨?_, rfl, nofun⟩, ?_⟩
          · intro _ resting
            simp [VideoSource.isResting, holding] at resting
          · intro other index member
            rcases mem_publishFrame member with new | old
            · cases new
              exact Or.inr ⟨rfl, holding⟩
            · exact Or.inl old
  | commitEnd source =>
      rcases Option.map_eq_some_iff.mp taken with ⟨state, committed, rfl⟩
      unfold VideoSource.commitEnd at committed
      split_ifs at committed with allowed
      cases committed
      refine ⟨rfl, rfl, rfl, moves_setSource ⟨?_, rfl, fun _ => Or.inl⟩, fun _ _ => Or.inl⟩
      intro joined
      rw [((isReading_iff _).mp allowed.1).1] at joined
      cases joined
  | publishEnd source =>
      simp only [sourceStep] at taken
      split_ifs at taken with pending
      cases taken
      refine ⟨rfl, rfl, rfl, moves_setSource ⟨?_, rfl, fun _ => Or.inl⟩, ?_⟩
      · intro _ resting
        simp [VideoSource.isResting, pending] at resting
      · intro other index member
        rcases mem_publishReset member with new | old
        · cases new
        · exact Or.inl old
  | restart source =>
      simp only [sourceStep] at taken
      split_ifs at taken
      cases taken
      refine ⟨rfl, rfl, rfl, fun other => SourceMoves.refl plan other _, ?_⟩
      intro other index member
      rcases mem_publishReset member with new | old
      · cases new
      · exact Or.inl old
  | fail source =>
      rcases Option.map_eq_some_iff.mp taken with ⟨state, failed, rfl⟩
      unfold VideoSource.fail at failed
      split_ifs at failed with allowed
      cases failed
      refine ⟨rfl, rfl, rfl, moves_setSource ⟨?_, rfl, fun _ => Or.inl⟩, fun _ _ => Or.inl⟩
      intro joined
      rw [((isReading_iff _).mp allowed).1] at joined
      cases joined
  | _ => cases taken

theorem Silencing.sourceStep
    (silencing : transport.Silencing plan) (orderly : transport.Orderly plan action)
    (taken : transport.sourceStep plan action = some next) : next.Silencing plan := by
  have frame := sourceStep_frame taken
  have settles : (∀ source, action ≠ .presentFrame source) → ∀ output,
      transport.Settled plan output → next.Settled plan output := by
    intro quietAction output settled
    exact settled.sourceStep (fun source isPresent => absurd isPresent (quietAction source)) taken
  -- a source whose thread is joined takes no step
  have restedSame : ∀ source, transport.Rested plan source → next.Rested plan source := by
    intro source rested
    have same := (frame.moves source).same rested.joined rested.resting
    have notPresented : ∀ index, (transport.sources source).inHand ≠ some index := by
      intro index holding
      have resting := rested.resting
      simp [VideoSource.isResting, holding] at resting
    refine ⟨by rw [same]; exact rested.joined, by rw [same]; exact rested.resting, ?_, ?_⟩
    · intro index member
      rcases frame.ticks source index member with before | ⟨_, holding⟩
      · exact rested.noTicks index before
      · exact notPresented index holding
    · intro output isOutput onClock
      refine (rested.settled output isOutput onClock).sourceStep ?_ taken
      rintro other rfl
      refine ⟨source, onClock, ?_⟩
      rintro rfl
      simp only [Transport.sourceStep] at taken
      cases holding : (transport.sources source).inHand with
      | none => simp [holding] at taken
      | some index => exact notPresented index holding
  refine ⟨?_, ?_, ?_, ?_, ?_, ?_, ?_, ?_, ?_⟩
  · intro source index member
    rcases frame.ticks source index member with before | ⟨_, holding⟩
    · exact silencing.known source index before
    · exact silencing.held source index holding
  · intro source index holding
    rcases (frame.moves source).held index holding with before | known
    · exact silencing.held source index before
    · exact known
  · intro source generation output notes outputs isPublishing
    rw [frame.worker] at isPublishing
    exact silencing.own source generation output notes outputs isPublishing
  · intro selection source sources isHalted
    rw [frame.api] at isHalted
    have joined := silencing.joined selection source sources isHalted
    rw [(frame.moves source).same joined.1 joined.2]
    exact joined
  · intro source stopped notHalting
    rw [(frame.moves source).stopEvent] at stopped
    rw [frame.api] at notHalting
    exact restedSame source (silencing.rested source stopped notHalting)
  · intro selection sources progress source isTarget notLeft
    rw [frame.api] at progress
    rw [(frame.moves source).stopEvent]
    exact silencing.told selection sources progress source isTarget notLeft
  · intro generation outputs isPanicking
    rw [frame.api] at isPanicking
    have quietAction : ∀ source, action ≠ .presentFrame source := by
      rintro source rfl
      have silences := orderly.2
      rw [isPanicking] at silences
      cases silences
    rcases silencing.drained generation outputs isPanicking with ⟨⟨noTicks, notDriving⟩, settled⟩
    refine ⟨⟨?_, by rw [frame.worker]; exact notDriving⟩, ?_⟩
    · intro source index member
      rcases frame.ticks source index member with before | ⟨isPresent, _⟩
      · exact noTicks source index before
      · exact quietAction source isPresent
    · intro output isOutput done
      exact settles quietAction output (settled output isOutput done)
  · intro outputs left output isOutput unclocked done
    rw [frame.api] at left
    -- every source is told to stop and joined, so none holds a frame
    have quietAction : ∀ source, action ≠ .presentFrame source := by
      rintro source rfl
      simp only [Transport.sourceStep] at taken
      cases holding : (transport.sources source).inHand with
      | none => simp [holding] at taken
      | some index =>
          have known := silencing.held source index holding
          have idle : transport.api.isHalting source = false ∧
              transport.api.stopProgress = some (none, []) := by
            cases at_ : transport.api with
            | panicking stop generation rest =>
                cases stop with
                | true => exact ⟨rfl, rfl⟩
                | false => rw [at_] at left; cases left
            | finishing selection =>
                cases selection with
                | none => exact ⟨rfl, rfl⟩
                | some one => rw [at_] at left; cases left
            | _ => rw [at_] at left; cases left
          have stopped := silencing.told none [] idle.2 source known List.not_mem_nil
          have resting := (silencing.rested source stopped idle.1).resting
          simp [VideoSource.isResting, holding] at resting
    exact settles quietAction output
      (silencing.unclocked outputs left output isOutput unclocked done)
  · intro quiet output isOutput
    rw [frame.quiet] at quiet
    have quietAction : ∀ source, action ≠ .presentFrame source := by
      rintro source rfl
      have loud := orderly.1
      rw [quiet] at loud
      cases loud
    exact settles quietAction output (silencing.calm quiet output isOutput)

/-! ### Steps of the worker -/

/-- What a step of the worker leaves alone; it enters a tick only by taking one
from the mailbox. -/
structure WorkerFrame (plan : TransportPlan) (transport next : Transport) : Prop where
  sources : next.sources = transport.sources
  api : next.api = transport.api
  quiet : next.quiet = transport.quiet
  driven : next.driven = transport.driven
  commands : ∀ command ∈ next.commands, command ∈ transport.commands
  own : transport.PublishesOwn plan → next.PublishesOwn plan
  drives : transport.TickFree → next.worker.drives = false

/-- A step that leaves the mailbox alone and does not start to publish. -/
theorem WorkerFrame.of_worker
    (sources : next.sources = transport.sources) (api : next.api = transport.api)
    (quiet : next.quiet = transport.quiet) (driven : next.driven = transport.driven)
    (commands : next.commands = transport.commands)
    (own : transport.PublishesOwn plan → next.PublishesOwn plan)
    (drives : transport.worker.drives = false → next.worker.drives = false) :
    WorkerFrame plan transport next :=
  ⟨sources, api, quiet, driven, fun _ member => commands ▸ member, own,
    fun free => drives free.2⟩

theorem publishesOwn_of_not_publishing (other : ∀ source generation output notes outputs,
      transport.worker ≠ .publishing source generation output notes outputs) :
    transport.PublishesOwn plan :=
  fun source generation output notes outputs isPublishing =>
    absurd isPublishing (other source generation output notes outputs)

theorem drive_frame {effect : TickEffect}
    (taken : transport.workerStep plan (.drive effect) = some next) :
    WorkerFrame plan transport next := by
  simp only [workerStep] at taken
  split at taken
  · rename_i source generation output rest at_
    have driving : transport.worker.drives = true := by rw [at_]; rfl
    have noDrive : transport.worker.drives = false → next.worker.drives = false :=
      fun idle => absurd (driving.symm.trans idle) (by decide)
    cases effect with
    | skip =>
        cases taken
        exact WorkerFrame.of_worker rfl rfl rfl rfl rfl
          (fun _ => publishesOwn_of_not_publishing nofun) noDrive
    | missing =>
        cases taken
        exact WorkerFrame.of_worker rfl rfl rfl rfl rfl
          (fun _ => publishesOwn_of_not_publishing nofun) noDrive
    | publish notes published =>
        simp only at taken
        split_ifs at taken with allowed stale
        · cases taken
          exact WorkerFrame.of_worker rfl rfl rfl rfl rfl
            (fun _ => publishesOwn_of_not_publishing nofun) noDrive
        · cases taken
          refine WorkerFrame.of_worker rfl rfl rfl rfl rfl ?_ noDrive
          intro _ other otherGeneration otherOutput otherNotes others isPublishing
          cases isPublishing
          exact allowed.1
  · cases taken

theorem workerStep_frame
    (taken : transport.workerStep plan action = some next) : WorkerFrame plan transport next := by
  cases action with
  | popCommand =>
      simp only [workerStep] at taken
      split at taken
      · rename_i source frame rest at_ pending
        cases taken
        refine ⟨rfl, rfl, rfl, rfl, ?_, fun _ => publishesOwn_of_not_publishing nofun, ?_⟩
        · intro command member
          rw [pending]
          exact List.mem_cons_of_mem _ member
        · intro free
          exact absurd (show GraphCommand.tick source frame ∈ transport.commands by
            rw [pending]; exact List.mem_cons_self) (free.1 source frame)
      · rename_i source reason rest at_ pending
        cases taken
        refine ⟨rfl, rfl, rfl, rfl, ?_, fun _ => publishesOwn_of_not_publishing nofun, fun _ => rfl⟩
        intro command member
        rw [pending]
        exact List.mem_cons_of_mem _ member
      · cases taken
  | stamp =>
      simp only [workerStep] at taken
      split at taken
      · rename_i source frame at_
        cases taken
        refine WorkerFrame.of_worker rfl rfl rfl rfl rfl
          (fun _ => publishesOwn_of_not_publishing nofun) ?_
        rw [at_]
        exact nofun
      · cases taken
  | drive effect => exact drive_frame taken
  | enqueue =>
      simp only [workerStep] at taken
      split at taken
      · rename_i source generation output notes rest at_
        cases taken
        refine WorkerFrame.of_worker rfl rfl rfl rfl rfl
          (fun _ => publishesOwn_of_not_publishing nofun) ?_
        rw [at_]
        exact nofun
      · cases taken
  | resetOutput raises =>
      simp only [workerStep] at taken
      split at taken
      · rename_i source output rest at_
        cases taken
        cases raises with
        | true =>
            exact WorkerFrame.of_worker rfl rfl rfl rfl rfl
              (fun _ => publishesOwn_of_not_publishing nofun) (fun _ => rfl)
        | false =>
            exact WorkerFrame.of_worker rfl rfl rfl rfl rfl
              (fun _ => publishesOwn_of_not_publishing nofun) (fun _ => rfl)
      · cases taken
  | finishCommand =>
      simp only [workerStep] at taken
      split at taken
      · cases taken
        exact WorkerFrame.of_worker rfl rfl rfl rfl rfl
          (fun _ => publishesOwn_of_not_publishing nofun) (fun _ => rfl)
      · cases taken
        exact WorkerFrame.of_worker rfl rfl rfl rfl rfl
          (fun _ => publishesOwn_of_not_publishing nofun) (fun _ => rfl)
      · cases taken
  | replaceSynth output opened =>
      simp only [workerStep] at taken
      by_cases audio : plan.isAudio output = true
      · rw [if_pos audio] at taken
        cases taken
        exact WorkerFrame.of_worker rfl rfl rfl rfl rfl id id
      · rw [if_neg audio] at taken
        cases taken
  | _ => cases taken

theorem Silencing.workerStep
    (silencing : transport.Silencing plan) (orderly : transport.Orderly plan action)
    (taken : transport.workerStep plan action = some next) : next.Silencing plan := by
  have frame := workerStep_frame taken
  have settles : ∀ output ∈ plan.outputIds, transport.Settled plan output →
      next.Settled plan output := by
    intro output isOutput settled
    exact settled.workerStep isOutput silencing.own orderly.resetsAll taken
  refine ⟨?_, ?_, frame.own silencing.own, ?_, ?_, ?_, ?_, ?_, ?_⟩
  · intro source index member
    exact silencing.known source index (frame.commands _ member)
  · rw [frame.sources]
    exact silencing.held
  · rw [frame.sources, frame.api]
    exact silencing.joined
  · intro source stopped notHalting
    rw [frame.sources] at stopped
    rw [frame.api] at notHalting
    have rested := silencing.rested source stopped notHalting
    refine ⟨by rw [frame.sources]; exact rested.joined,
      by rw [frame.sources]; exact rested.resting, ?_, ?_⟩
    · intro index member
      exact rested.noTicks index (frame.commands _ member)
    · intro output isOutput onClock
      exact settles output isOutput (rested.settled output isOutput onClock)
  · rw [frame.sources, frame.api]
    exact silencing.told
  · intro generation outputs isPanicking
    rw [frame.api] at isPanicking
    rcases silencing.drained generation outputs isPanicking with ⟨free, settled⟩
    refine ⟨⟨?_, frame.drives free⟩, ?_⟩
    · intro source index member
      exact free.1 source index (frame.commands _ member)
    · intro output isOutput done
      exact settles output isOutput (settled output isOutput done)
  · intro outputs left output isOutput unclocked done
    rw [frame.api] at left
    exact settles output isOutput (silencing.unclocked outputs left output isOutput unclocked done)
  · intro quiet output isOutput
    rw [frame.quiet] at quiet
    exact settles output isOutput (silencing.calm quiet output isOutput)

/-! ### Steps of the calls -/

/-- A source whose thread, stop event and held frame are as before. -/
structure Keeps (old new : VideoSource) : Prop where
  running : new.running = old.running
  stopEvent : new.stopEvent = old.stopEvent
  inHand : new.inHand = old.inHand
  endPending : new.endPending = old.endPending

theorem Keeps.refl (state : VideoSource) : Keeps state state := ⟨rfl, rfl, rfl, rfl⟩

variable {old new : VideoSource}

theorem Keeps.isResting (keeps : Keeps old new) :
    new.isResting = old.isResting := by
  rw [VideoSource.isResting, keeps.inHand, keeps.endPending, VideoSource.isResting]

theorem keeps_pause (state : VideoSource) : Keeps state state.pause := by
  unfold VideoSource.pause
  split_ifs
  · exact ⟨rfl, rfl, rfl, rfl⟩
  · exact Keeps.refl state

theorem keeps_resume (state : VideoSource) : Keeps state state.resume := by
  unfold VideoSource.resume
  split_ifs
  · exact ⟨rfl, rfl, rfl, rfl⟩
  · exact Keeps.refl state

theorem keeps_setSource {state : VideoSource}
    (keeps : Keeps (transport.sources source) state) (other : UUID) :
    Keeps (transport.sources other) ((transport.setSource source state).sources other) := by
  by_cases same : other = source
  · subst same
    rw [setSource_self]
    exact keeps
  · rw [setSource_of_ne transport state same]
    exact Keeps.refl _

/-- A played source starts a pass or only resumes. -/
theorem play_cases (played : old.play = some new) :
    Keeps old new ∨ new.stopEvent = false ∧ new.inHand = old.inHand := by
  have pass : ∀ started, old.startPass = some started →
      Keeps old started ∨ started.stopEvent = false ∧ started.inHand = old.inHand := by
    intro started begun
    unfold VideoSource.startPass at begun
    split_ifs at begun
    cases begun
    exact Or.inr ⟨rfl, rfl⟩
  unfold VideoSource.play at played
  split at played
  · cases played
    exact Or.inl (keeps_resume old)
  · exact pass new played
  · exact pass new played
  · exact pass new played
  · cases played

theorem Rested.of_keeps (rested : transport.Rested plan source)
    (keeps : Keeps (transport.sources source) (next.sources source))
    (ticks : ∀ other frame, GraphCommand.tick other frame ∈ next.commands →
      GraphCommand.tick other frame ∈ transport.commands)
    (settles : ∀ output, transport.Settled plan output → next.Settled plan output) :
    next.Rested plan source where
  joined := keeps.running.trans rested.joined
  resting := keeps.isResting.trans rested.resting
  noTicks := fun frame member => rested.noTicks frame (ticks source frame member)
  settled := fun output isOutput onClock => settles output (rested.settled output isOutput onClock)

variable (silencing : transport.Silencing plan)
include silencing

/-- A step of a call that keeps the threads and ends no stop of a source. -/
theorem Silencing.of_api (keeps : ∀ source, Keeps (transport.sources source) (next.sources source))
    (worker : next.worker = transport.worker)
    (ticks : ∀ source frame, GraphCommand.tick source frame ∈ next.commands →
      GraphCommand.tick source frame ∈ transport.commands)
    (settles : ∀ output, transport.Settled plan output → next.Settled plan output)
    (halting : ∀ source, transport.api.isHalting source = false)
    (halted : ∀ selection source sources, next.api ≠ .halted selection source sources)
    (told : ∀ selection sources, next.api.stopProgress = some (selection, sources) →
      ∀ source ∈ stopTargets plan selection, source ∉ sources →
        (transport.sources source).stopEvent = true)
    (drained : ∀ generation outputs, next.api = .panicking false generation outputs →
      next.TickFree ∧ ∀ output ∈ plan.outputIds, output ∉ outputs → next.Settled plan output)
    (unclocked : ∀ outputs, next.api.unclockedLeft = some outputs →
      ∀ output ∈ plan.outputIds, plan.clock output = none → output ∉ outputs →
        next.Settled plan output)
    (calm : next.quiet = true → ∀ output ∈ plan.outputIds, next.Settled plan output) :
    next.Silencing plan := by
  refine ⟨?_, ?_, ?_, ?_, ?_, ?_, drained, unclocked, calm⟩
  · intro source frame member
    exact silencing.known source frame (ticks source frame member)
  · intro source frame holding
    rw [(keeps source).inHand] at holding
    exact silencing.held source frame holding
  · intro source generation output notes outputs isPublishing
    rw [worker] at isPublishing
    exact silencing.own source generation output notes outputs isPublishing
  · intro selection source sources isHalted
    exact absurd isHalted (halted selection source sources)
  · intro source stopped _
    rw [(keeps source).stopEvent] at stopped
    exact (silencing.rested source stopped (halting source)).of_keeps (keeps source) ticks settles
  · intro selection sources progress source isTarget notLeft
    rw [(keeps source).stopEvent]
    exact told selection sources progress source isTarget notLeft

theorem Silencing.pauseCall (idle : transport.api = .idle) (sources : List UUID) :
    Silencing plan { transport with api := .pausing sources } := by
  refine silencing.of_api (fun _ => Keeps.refl _) rfl (fun _ _ => id) (fun _ => id) ?_ nofun nofun
    nofun nofun silencing.calm
  rw [idle]
  exact fun _ => rfl

theorem Silencing.stopCall (idle : transport.api = .idle)
    {selection : Option UUID} {sources : List UUID}
    (selected : selectedSources plan selection = some sources) :
    Silencing plan { transport with api := .stopping selection sources } := by
  refine silencing.of_api (fun _ => Keeps.refl _) rfl (fun _ _ => id) (fun _ => id) ?_ nofun ?_
    nofun nofun silencing.calm
  · rw [idle]
    exact fun _ => rfl
  · intro other left progress source isTarget notLeft
    cases progress
    -- at first every selected source is left
    have targets : stopTargets plan selection = sources := by
      cases selection with
      | none => exact Option.some.inj selected
      | some one =>
          simp only [selectedSources] at selected
          split_ifs at selected
          exact Option.some.inj selected
    rw [targets] at isTarget
    exact absurd isTarget notLeft

theorem Silencing.pauseSource {rest : List UUID}
    (at_ : transport.api = .pausing (source :: rest)) :
    Silencing plan { transport.setSource source (transport.sources source).pause with
      api := .pausing rest } := by
  refine silencing.of_api (keeps_setSource (keeps_pause _)) rfl (fun _ _ => id) (fun _ => id) ?_
    nofun nofun nofun nofun silencing.calm
  rw [at_]
  exact fun _ => rfl

theorem Silencing.resume (idle : transport.api = .idle) (source : UUID) :
    Silencing plan { transport.setSource source (transport.sources source).resume with
      quiet := false } := by
  have halting : ∀ other, transport.api.isHalting other = false := by
    rw [idle]
    exact fun _ => rfl
  refine silencing.of_api (keeps_setSource (keeps_resume _)) rfl (fun _ _ => id) (fun _ => id)
    halting ?_ ?_ ?_ ?_ nofun
  · intro selection other sources isHalted
    exact nomatch idle.symm.trans isHalted
  · exact fun selection sources progress => silencing.told selection sources progress
  · exact fun generation outputs isPanicking => nomatch idle.symm.trans isPanicking
  · exact fun outputs left => silencing.unclocked outputs left

/-- A pause that finds no active source goes on, any other returns. -/
theorem Silencing.pauseRefresh
    (taken : transport.apiStep plan .pauseRefresh = some next) : next.Silencing plan := by
  simp only [Transport.apiStep] at taken
  split at taken
  · rename_i at_
    have halting : ∀ other, transport.api.isHalting other = false := by
      rw [at_]
      exact fun _ => rfl
    split_ifs at taken
    · cases taken
      exact silencing.of_api (fun _ => Keeps.refl _) rfl (fun _ _ => id) (fun _ => id) halting
        nofun nofun nofun nofun nofun
    · cases taken
      exact silencing.of_api (fun _ => Keeps.refl _) rfl (fun _ _ => id) (fun _ => id) halting
        nofun nofun nofun nofun silencing.calm
  · cases taken

/-- The panic of a pause begins with no tick pending or in flight. -/
theorem Silencing.drain (at_ : transport.api = .draining)
    (free : transport.TickFree) (generation : Nat) :
    Silencing plan { transport with api := .panicking false generation plan.outputIds } := by
  have halting : ∀ other, transport.api.isHalting other = false := by
    rw [at_]
    exact fun _ => rfl
  refine silencing.of_api (fun _ => Keeps.refl _) rfl (fun _ _ => id) (fun _ => id) halting nofun
    nofun ?_ nofun silencing.calm
  intro other outputs begun
  cases begun
  exact ⟨free, fun output isOutput notLeft => absurd isOutput notLeft⟩

omit silencing in
theorem tickFree_of_workerIdle (idle : transport.workerIdle = true) :
    transport.TickFree := by
  unfold workerIdle at idle
  rw [Bool.and_eq_true, List.isEmpty_iff] at idle
  rcases idle with ⟨noCommands, resting⟩
  refine ⟨?_, ?_⟩
  · rw [noCommands]
    exact fun _ _ => List.not_mem_nil
  · cases worker : transport.worker with
    | idle => rfl
    | resetting source outputs => rfl
    | popped source frame => simp [worker] at resting
    | driving source generation outputs => simp [worker] at resting
    | publishing source generation output notes outputs => simp [worker] at resting

theorem Silencing.stopPanic
    (taken : transport.apiStep plan .stopPanic = some next) : next.Silencing plan := by
  simp only [Transport.apiStep] at taken
  split at taken
  · rename_i at_
    cases taken
    refine silencing.of_api (fun _ => Keeps.refl _) rfl (fun _ _ => id) (fun _ => id)
      (by rw [at_]; exact fun _ => rfl) nofun ?_ nofun ?_ silencing.calm
    · intro selection sources progress
      cases progress
      exact silencing.told none [] (by rw [at_]; rfl)
    · intro outputs left output isOutput _ notLeft
      cases left
      exact absurd isOutput notLeft
  · rename_i source at_
    cases taken
    refine silencing.of_api (fun _ => Keeps.refl _) rfl (fun _ _ => id) (fun _ => id)
      (by rw [at_]; exact fun _ => rfl) nofun ?_ nofun nofun silencing.calm
    intro selection sources progress
    cases progress
    exact silencing.told (some source) [] (by rw [at_]; rfl)
  · cases taken

/-- While a stop of all sources panics, no tick is pending. -/
theorem Silencing.noTicks (progress : transport.api.stopProgress = some (none, []))
    (halting : ∀ source, transport.api.isHalting source = false) (source : UUID) (frame : Nat) :
    GraphCommand.tick source frame ∉ transport.commands := by
  intro member
  have stopped := silencing.told none [] progress source (silencing.known source frame member)
    List.not_mem_nil
  exact (silencing.rested source stopped (halting source)).noTicks frame member

/-- The output that a call panics is settled: on a clock by the reset of its
source, without one because no tick is left for it. -/
theorem Silencing.panicked {raises stop : Bool} {generation : Nat} {reached : UUID}
    {rest : List UUID}
    (orderly : transport.Orderly plan (.panicOutput raises))
    (taken : transport.apiStep plan (.panicOutput raises) = some next)
    (at_ : transport.api = .panicking stop generation (reached :: rest))
    (isOutput : reached ∈ plan.outputIds) : next.Settled plan reached := by
  have settles : transport.Settled plan reached → next.Settled plan reached :=
    fun settled => settled.apiStep taken
  simp only [Transport.apiStep, at_, Option.some.injEq] at taken
  have silent : (next.outputs reached).isSilent = true := by
    rw [← taken, setOutput_self]
    rfl
  have commands : next.commands = transport.commands := by rw [← taken]; rfl
  have worker : next.worker = transport.worker := by rw [← taken]; rfl
  have halting : ∀ other, transport.api.isHalting other = false := by
    rw [at_]
    exact fun _ => rfl
  cases stop with
  | false =>
      rcases silencing.drained generation (reached :: rest) at_ with ⟨free, _⟩
      refine settled_of_silent silent (commands ▸ free.1) ?_
      rw [worker]
      exact WorkerPhase.ahead_tickFree free.2 reached
  | true =>
      have progress : transport.api.stopProgress = some (none, []) := by rw [at_]; rfl
      cases onClock : plan.clock reached with
      | none =>
          refine settled_of_silent silent (commands ▸ silencing.noTicks progress halting) ?_
          rw [worker, orderly generation reached rest at_ onClock]
          exact fun _ _ => List.not_mem_nil
      | some source =>
          have stopped := silencing.told none [] progress source
            (plan.clock_mem reached isOutput source onClock) List.not_mem_nil
          exact settles ((silencing.rested source stopped (halting source)).settled reached
            isOutput onClock)

theorem Silencing.panicOutput {raises : Bool}
    (orderly : transport.Orderly plan (.panicOutput raises))
    (taken : transport.apiStep plan (.panicOutput raises) = some next) : next.Silencing plan := by
  have panicked := fun {stop generation reached rest} => @Silencing.panicked plan transport next
    silencing raises stop generation reached rest orderly taken
  have settles : ∀ output, transport.Settled plan output → next.Settled plan output :=
    fun output settled => settled.apiStep taken
  simp only [Transport.apiStep] at taken
  split at taken
  · rename_i stop generation reached rest at_
    cases taken
    have halting : ∀ other, transport.api.isHalting other = false := by
      rw [at_]
      exact fun _ => rfl
    refine silencing.of_api (fun _ => Keeps.refl _) rfl (fun _ _ => id) settles halting ?_ ?_ ?_ ?_
      (fun quiet output isOutput => settles output (silencing.calm quiet output isOutput))
    · cases raises with
      | true => exact nofun
      | false => exact nofun
    · intro selection sources progress
      cases raises with
      | true => cases progress
      | false =>
          cases stop with
          | true =>
              cases progress
              exact silencing.told none [] (by rw [at_]; rfl)
          | false => cases progress
    · intro otherGeneration outputs isPanicking
      cases raises with
      | true => cases isPanicking
      | false =>
          cases stop with
          | true => cases isPanicking
          | false =>
              cases isPanicking
              rcases silencing.drained generation (reached :: rest) at_ with ⟨free, settled⟩
              refine ⟨free, ?_⟩
              intro output isOutput notLeft
              by_cases same : output = reached
              · subst same
                exact panicked at_ isOutput
              · exact settles output (settled output isOutput (by simp [same, notLeft]))
    · intro outputs left output isOutput unclocked notLeft
      cases raises with
      | true => cases left
      | false =>
          cases stop with
          | false => cases left
          | true =>
              cases left
              by_cases same : output = reached
              · subst same
                exact panicked at_ isOutput
              · exact settles output
                  (silencing.unclocked (reached :: rest) (by rw [at_]; rfl) output
                  isOutput unclocked (by simp [same, notLeft]))
  · cases taken

theorem Silencing.panicDone
    (taken : transport.apiStep plan .panicDone = some next) : next.Silencing plan := by
  simp only [Transport.apiStep] at taken
  split at taken
  · rename_i generation at_
    cases taken
    refine silencing.of_api (fun _ => Keeps.refl _) rfl (fun _ _ => id) (fun _ => id)
      (by rw [at_]; exact fun _ => rfl) nofun nofun nofun nofun ?_
    intro _ output isOutput
    exact (silencing.drained generation [] at_).2 output isOutput List.not_mem_nil
  · rename_i generation at_
    cases taken
    refine silencing.of_api (fun _ => Keeps.refl _) rfl (fun _ _ => id) (fun _ => id)
      (by rw [at_]; exact fun _ => rfl) nofun ?_ nofun ?_ silencing.calm
    · intro selection sources progress
      cases progress
      exact silencing.told none [] (by rw [at_]; rfl)
    · intro outputs left
      cases left
      exact silencing.unclocked [] (by rw [at_]; rfl)
  · cases taken

/-- Where a stop returns, the outputs of what it stopped are settled. -/
theorem Silencing.stopRefresh
    (clear : transport.Clear plan) (orderly : transport.Orderly plan .stopRefresh)
    (taken : transport.apiStep plan .stopRefresh = some next) : next.Silencing plan := by
  simp only [Transport.apiStep] at taken
  split at taken
  · rename_i selection at_
    cases taken
    have halting : ∀ other, transport.api.isHalting other = false := by
      rw [at_]
      exact fun _ => rfl
    refine silencing.of_api (fun _ => Keeps.refl _) rfl (fun _ _ => id) (fun _ => id) halting
      nofun nofun nofun nofun ?_
    intro quiet output isOutput
    have inactive : transport.anyActive plan = false := by simpa using quiet
    have onTarget : ∀ source ∈ stopTargets plan selection, plan.clock output = some source →
        transport.Settled plan output := by
      intro source isTarget onClock
      have stopped := silencing.told selection [] (by rw [at_]; rfl) source isTarget
        List.not_mem_nil
      exact (silencing.rested source stopped (halting source)).settled output isOutput onClock
    cases selection with
    | none =>
        cases onClock : plan.clock output with
        | none =>
            exact silencing.unclocked [] (by rw [at_]; rfl) output isOutput onClock
              List.not_mem_nil
        | some source =>
            exact onTarget source (plan.clock_mem output isOutput source onClock) onClock
    | some source =>
        by_cases onClock : plan.clock output = some source
        · exact onTarget source (List.mem_singleton_self source) onClock
        · exact clear output isOutput (orderly source at_ inactive output isOutput onClock)
  · cases taken

/-- A played source may lose its rest; the engine is no longer quiet. -/
theorem Silencing.play
    (taken : transport.apiStep plan (.play source) = some next) : next.Silencing plan := by
  have settles : ∀ output, transport.Settled plan output → next.Settled plan output :=
    fun output settled => settled.apiStep taken
  simp only [Transport.apiStep] at taken
  split at taken
  · rename_i idle
    by_cases known : source ∈ plan.sourceIds
    · rw [if_pos known] at taken
      rcases Option.map_eq_some_iff.mp taken with ⟨state, played, rfl⟩
      have ticks : ∀ other frame, GraphCommand.tick other frame ∈
          (if (transport.sources source).state = .ended then
            publishReset source .sourceRestarted transport.commands else transport.commands) →
          GraphCommand.tick other frame ∈ transport.commands := by
        intro other frame member
        split_ifs at member
        · rcases mem_publishReset member with new | old
          · cases new
          · exact old
        · exact member
      have halting : ∀ other, transport.api.isHalting other = false := by
        rw [idle]
        exact fun _ => rfl
      refine ⟨?_, ?_, silencing.own, ?_, ?_, ?_, ?_, ?_, nofun⟩
      · intro other frame member
        exact silencing.known other frame (ticks other frame member)
      · intro other frame holding
        by_cases same : other = source
        · subst same
          exact known
        · refine silencing.held other frame ?_
          rwa [← setSource_of_ne transport state same]
      · intro selection other sources isHalted
        exact nomatch idle.symm.trans isHalted
      · intro other stopped _
        by_cases same : other = source
        · subst same
          have stoppedState : state.stopEvent = true := by
            rwa [← setSource_self transport other state]
          rcases play_cases played with keeps | ⟨started, _⟩
          · refine (silencing.rested other ?_ (halting other)).of_keeps ?_ ticks settles
            · exact keeps.stopEvent.symm.trans stoppedState
            · exact keeps_setSource keeps other
          · exact absurd (stoppedState.symm.trans started) (by decide)
        · have kept : Keeps (transport.sources other)
              ((transport.setSource source state).sources other) := by
            rw [setSource_of_ne transport state same]
            exact Keeps.refl _
          exact (silencing.rested other (kept.stopEvent.symm.trans stopped)
            (halting other)).of_keeps kept ticks settles
      · intro selection sources progress
        have idleProgress : transport.api.stopProgress = some (selection, sources) := progress
        rw [idle] at idleProgress
        cases idleProgress
      · exact fun generation outputs isPanicking => nomatch idle.symm.trans isPanicking
      · intro outputs left
        have idleLeft : transport.api.unclockedLeft = some outputs := left
        rw [idle] at idleLeft
        cases idleLeft
    · rw [if_neg known] at taken
      cases taken
  · cases taken

/-! ### The stop of one source -/

omit silencing in
/-- What a step of the stop of a source does to the other sources. -/
theorem keeps_other (transport : Transport) {source other : UUID} (state : VideoSource)
    (different : other ≠ source) :
    Keeps (transport.sources other) ((transport.setSource source state).sources other) := by
  rw [setSource_of_ne transport state different]
  exact Keeps.refl _

theorem Silencing.haltSource
    (taken : transport.apiStep plan .haltSource = some next) : next.Silencing plan := by
  have settles : ∀ output, transport.Settled plan output → next.Settled plan output :=
    fun output settled => settled.apiStep taken
  simp only [Transport.apiStep] at taken
  split at taken
  · rename_i selection source rest at_
    cases taken
    refine ⟨silencing.known, ?_, silencing.own, nofun, ?_, ?_, nofun, nofun, silencing.calm⟩
    · intro other frame holding
      by_cases same : other = source
      · subst same
        rw [setSource_self] at holding
        exact silencing.held other frame holding
      · refine silencing.held other frame ?_
        rwa [← (keeps_other transport (transport.sources source).beginHalt same).inHand]
    · intro other stopped notHalting
      have different : other ≠ source := by
        intro same
        rw [same] at notHalting
        exact absurd notHalting (by simp [ApiPhase.isHalting])
      have kept := keeps_other transport (transport.sources source).beginHalt different
      refine (silencing.rested other (kept.stopEvent.symm.trans stopped) ?_).of_keeps kept
        (fun _ _ => id) settles
      rw [at_]
      rfl
    · intro otherSelection sources progress other isTarget notLeft
      cases progress
      by_cases same : other = source
      · subst same
        rw [setSource_self]
        rfl
      · rw [(keeps_other transport (transport.sources source).beginHalt same).stopEvent]
        refine silencing.told selection (source :: rest) (by rw [at_]; rfl) other isTarget ?_
        simp [same, notLeft]
  · cases taken

omit silencing in
theorem finishHalt_moves {target : Media.SourceState}
    (halted : old.finishHalt target = some new) :
    new.stopEvent = old.stopEvent ∧ new.inHand = old.inHand ∧
      new.running = false ∧ new.isResting = true := by
  unfold VideoSource.finishHalt at halted
  split_ifs at halted with resting
  cases halted
  exact ⟨rfl, rfl, rfl, resting⟩

theorem Silencing.joinSource
    (taken : transport.apiStep plan .joinSource = some next) : next.Silencing plan := by
  have settles : ∀ output, transport.Settled plan output → next.Settled plan output :=
    fun output settled => settled.apiStep taken
  simp only [Transport.apiStep] at taken
  split at taken
  · rename_i selection source rest at_
    rcases Option.map_eq_some_iff.mp taken with ⟨state, halted, rfl⟩
    rcases finishHalt_moves halted with ⟨stopEvent, inHand, joined⟩
    refine ⟨silencing.known, ?_, silencing.own, ?_, ?_, ?_, nofun, nofun, silencing.calm⟩
    · intro other frame holding
      by_cases same : other = source
      · subst same
        rw [setSource_self] at holding
        exact silencing.held other frame (inHand.symm.trans holding)
      · refine silencing.held other frame ?_
        rwa [← (keeps_other transport state same).inHand]
    · intro otherSelection other sources isHalted
      cases isHalted
      rw [setSource_self]
      exact joined
    · intro other stopped notHalting
      have different : other ≠ source := by
        intro same
        rw [same] at notHalting
        exact absurd notHalting (by simp [ApiPhase.isHalting])
      have kept := keeps_other transport state different
      refine (silencing.rested other (kept.stopEvent.symm.trans stopped) ?_).of_keeps kept
        (fun _ _ => id) settles
      rw [at_]
      simpa [ApiPhase.isHalting] using Ne.symm different
    · intro otherSelection sources progress other isTarget notLeft
      cases progress
      have before := silencing.told selection rest (by rw [at_]; rfl) other isTarget notLeft
      by_cases same : other = source
      · subst same
        rw [setSource_self]
        exact stopEvent.trans before
      · rw [(keeps_other transport state same).stopEvent]
        exact before
  · cases taken

/-- The reset of a stopped source drops its pending tick and settles its outputs. -/
theorem Silencing.publishStop
    (taken : transport.apiStep plan .publishStop = some next) : next.Silencing plan := by
  have settles : ∀ output, transport.Settled plan output → next.Settled plan output :=
    fun output settled => settled.apiStep taken
  simp only [Transport.apiStep] at taken
  split at taken
  · rename_i selection source rest at_
    cases taken
    have ticks : ∀ other frame, GraphCommand.tick other frame ∈
        publishReset source .sourceRestarted transport.commands →
        GraphCommand.tick other frame ∈ transport.commands := by
      intro other frame member
      rcases mem_publishReset member with new | old
      · cases new
      · exact old
    refine ⟨?_, silencing.held, silencing.own, nofun, ?_, ?_, nofun, nofun, ?_⟩
    · intro other frame member
      exact silencing.known other frame (ticks other frame member)
    · intro other stopped _
      by_cases same : other = source
      · subst same
        rcases silencing.joined selection other rest at_ with ⟨joined, resting⟩
        refine ⟨joined, resting, fun frame => not_mem_publishReset nofun, ?_⟩
        intro output isOutput onClock
        unfold Settled
        rw [onClock]
        exact loudAfter_reset other .sourceRestarted transport.commands _
      · refine (silencing.rested other stopped ?_).of_keeps (Keeps.refl _) ticks settles
        rw [at_]
        simpa [ApiPhase.isHalting] using Ne.symm same
    · intro otherSelection sources progress
      cases progress
      exact silencing.told selection rest (by rw [at_]; rfl)
    · intro quiet output isOutput
      exact settles output (silencing.calm quiet output isOutput)
  · cases taken

omit silencing

/-! ### Outputs that are not driven -/

/-- What a step keeps settled is clear after it, if the step drives nothing more. -/
theorem Clear.of_settles (clear : transport.Clear plan)
    (settles : ∀ output ∈ plan.outputIds, transport.Settled plan output →
      next.Settled plan output)
    (driven : next.driven = transport.driven) : next.Clear plan :=
  fun output isOutput notDriven =>
    settles output isOutput (clear output isOutput (driven ▸ notDriven))

/-- A reset clears the outputs on its clock. -/
theorem Clear.of_reset {reason : Nodes.ResetReason}
    (clear : transport.Clear plan)
    (settles : ∀ output, transport.Settled plan output → next.Settled plan output)
    (commands : next.commands = publishReset source reason transport.commands)
    (driven : next.driven = transport.drivenAfterReset plan source) : next.Clear plan := by
  intro output isOutput notDriven
  rw [driven, drivenAfterReset, Bool.and_eq_false_iff, decide_eq_false_iff_not, not_not]
    at notDriven
  rcases notDriven with before | onClock
  · exact settles output (clear output isOutput before)
  · rw [Settled, commands, onClock]
    exact loudAfter_reset source reason transport.commands _

theorem Clear.sourceStep (clear : transport.Clear plan)
    (taken : transport.sourceStep plan action = some next) : next.Clear plan := by
  have settles : (∀ source, action ≠ .presentFrame source) → ∀ output,
      transport.Settled plan output → next.Settled plan output := by
    intro quietAction output settled
    exact settled.sourceStep (fun source isPresent => absurd isPresent (quietAction source)) taken
  have step := taken
  cases action with
  | presentFrame source =>
      simp only [Transport.sourceStep] at taken
      cases holding : (transport.sources source).inHand with
      | none => simp [holding] at taken
      | some frame =>
          simp only [holding, Option.some.injEq] at taken
          subst taken
          intro output isOutput notDriven
          rcases Bool.or_eq_false_iff.mp notDriven with ⟨before, apart⟩
          rw [decide_eq_false_iff_not, not_or] at apart
          refine (clear output isOutput before).sourceStep ?_ step
          intro other same
          cases same
          cases onClock : plan.clock output with
          | none => exact absurd onClock apart.1
          | some clock => exact ⟨clock, rfl, fun same => apart.2 (same ▸ onClock)⟩
  | publishEnd source =>
      simp only [Transport.sourceStep] at taken
      split_ifs at taken
      cases taken
      exact clear.of_reset (settles nofun) rfl rfl
  | restart source =>
      simp only [Transport.sourceStep] at taken
      split_ifs at taken
      cases taken
      exact clear.of_reset (settles nofun) rfl rfl
  | checkState source =>
      simp only [Transport.sourceStep] at taken
      split_ifs at taken
      rcases Option.map_eq_some_iff.mp taken with ⟨state, _, rfl⟩
      exact clear.of_settles (fun output _ => settles nofun output) rfl
  | commitEnd source =>
      rcases Option.map_eq_some_iff.mp taken with ⟨state, _, rfl⟩
      exact clear.of_settles (fun output _ => settles nofun output) rfl
  | fail source =>
      rcases Option.map_eq_some_iff.mp taken with ⟨state, _, rfl⟩
      exact clear.of_settles (fun output _ => settles nofun output) rfl
  | _ => cases taken

theorem Clear.apiStep (clear : transport.Clear plan)
    (silencing : transport.Silencing plan) (orderly : transport.Orderly plan action)
    (taken : transport.apiStep plan action = some next) : next.Clear plan := by
  have settles : ∀ output, transport.Settled plan output → next.Settled plan output :=
    fun output settled => settled.apiStep taken
  have step := taken
  cases action with
  | play source =>
      simp only [Transport.apiStep] at taken
      split at taken
      · by_cases known : source ∈ plan.sourceIds
        · rw [if_pos known] at taken
          rcases Option.map_eq_some_iff.mp taken with ⟨state, _, rfl⟩
          by_cases ended : (transport.sources source).state = .ended
          · exact clear.of_reset settles (if_pos ended) (if_pos ended)
          · exact clear.of_settles (fun output _ => settles output) (if_neg ended)
        · rw [if_neg known] at taken
          cases taken
      · cases taken
  | publishStop =>
      simp only [Transport.apiStep] at taken
      split at taken <;> cases taken
      exact clear.of_reset settles rfl rfl
  | panicOutput raises =>
      simp only [Transport.apiStep] at taken
      split at taken
      · rename_i stop generation reached rest at_
        cases taken
        intro output isOutput notDriven
        by_cases same : output = reached
        · subst same
          exact silencing.panicked orderly step at_ isOutput
        · have before : transport.driven output = false := by
            rwa [← Function.update_of_ne same false transport.driven]
          exact settles output (clear output isOutput before)
      · cases taken
  | _ =>
      exact clear.of_settles (fun output _ => settles output)
        (apiStep_frame taken nofun nofun nofun).driven

theorem Clear.workerStep (clear : transport.Clear plan)
    (silencing : transport.Silencing plan) (orderly : transport.Orderly plan action)
    (taken : transport.workerStep plan action = some next) : next.Clear plan :=
  clear.of_settles (fun _ isOutput settled =>
    settled.workerStep isOutput silencing.own orderly.resetsAll taken)
    (workerStep_frame taken).driven

/-! ### Every step -/

theorem Silencing.apiStep (silencing : transport.Silencing plan) (clear : transport.Clear plan)
    (orderly : transport.Orderly plan action)
    (taken : transport.apiStep plan action = some next) : next.Silencing plan := by
  cases action with
  | play source => exact silencing.play taken
  | resume source =>
      simp only [Transport.apiStep] at taken
      split at taken
      · rename_i idle
        cases taken
        exact silencing.resume idle source
      · cases taken
  | pauseCall selection =>
      simp only [Transport.apiStep] at taken
      split at taken
      · rename_i idle
        rcases Option.map_eq_some_iff.mp taken with ⟨sources, _, rfl⟩
        exact silencing.pauseCall idle sources
      · cases taken
  | pauseSource =>
      simp only [Transport.apiStep] at taken
      split at taken
      · rename_i source rest at_
        cases taken
        exact silencing.pauseSource at_
      · cases taken
  | pauseRefresh => exact silencing.pauseRefresh taken
  | drainDone =>
      simp only [Transport.apiStep] at taken
      split at taken
      · rename_i at_
        split_ifs at taken with idle
        cases taken
        exact silencing.drain at_ (tickFree_of_workerIdle idle) transport.publishGeneration
      · cases taken
  | drainTimeout =>
      simp only [Transport.apiStep] at taken
      split at taken
      · rename_i at_
        cases taken
        exact silencing.drain at_ orderly transport.publishGeneration
      · cases taken
  | stopCall selection =>
      simp only [Transport.apiStep] at taken
      split at taken
      · rename_i idle
        rcases Option.map_eq_some_iff.mp taken with ⟨sources, selected, rfl⟩
        exact silencing.stopCall idle selected
      · cases taken
  | haltSource => exact silencing.haltSource taken
  | joinSource => exact silencing.joinSource taken
  | publishStop => exact silencing.publishStop taken
  | stopPanic => exact silencing.stopPanic taken
  | panicOutput raises => exact silencing.panicOutput orderly taken
  | panicDone => exact silencing.panicDone taken
  | stopRefresh => exact silencing.stopRefresh clear orderly taken
  | _ => cases taken

/-- A step is a step of a source, of the worker, or of a call. -/
theorem step_cases (taken : step plan transport action = some next) :
    transport.sourceStep plan action = some next ∨
      transport.workerStep plan action = some next ∨
        transport.apiStep plan action = some next := by
  unfold step at taken
  cases ofSource : transport.sourceStep plan action with
  | some reached =>
      rw [ofSource] at taken
      exact Or.inl taken
  | none =>
      rw [ofSource, Option.orElse_none] at taken
      cases ofWorker : transport.workerStep plan action with
      | some reached =>
          rw [ofWorker] at taken
          exact Or.inr (Or.inl taken)
      | none =>
          rw [ofWorker, Option.orElse_none] at taken
          exact Or.inr (Or.inr taken)

/-- One desired note. -/
def oneNote : Dict MidiNoteKey (Fin 128) := middleC

/-- A run that ends quiet and idle with an output that sounds. -/
theorem exists_sounding {plan : TransportPlan} {steps : List Step} {output : UUID}
    (isOutput : output ∈ plan.outputIds)
    (sounds : (run (step plan) (initial plan) steps).any (fun transport =>
      decide (transport.quiet = true ∧ transport.workerIdle = true ∧
        (transport.outputs output).isSilent = false)) = true) :
    ∃ transport, run (step plan) (initial plan) steps = some transport ∧
      transport.quiet = true ∧ transport.workerIdle = true ∧
        ¬ ∀ output ∈ plan.outputIds, (transport.outputs output).desired = Dict.empty := by
  rcases (Option.any_eq_true _ _).mp sounds with ⟨transport, reached, holds⟩
  rcases of_decide_eq_true holds with ⟨quiet, idle, loud⟩
  refine ⟨transport, reached, quiet, idle, ?_⟩
  intro silent
  rw [OutputState.isSilent, silent output isOutput] at loud
  cases loud

/-- Two sources, the first of which drives an output. -/
def twoSources : TransportPlan where
  sourceIds := [1, 2]
  outputIds := [3]
  clock := fun _ => some 1
  isAudio := fun _ => false
  clock_mem := by simp

/-- The first source pauses while the second one plays, which panics nothing,
and then the second one alone is stopped. -/
def pauseThenStopOther : List Step := [
  .play 1, .play 2, .checkState 1, .presentFrame 1, .popCommand, .stamp,
  .drive (.publish oneNote 1), .enqueue, .finishCommand, .pauseCall (some 1), .pauseSource,
  .pauseRefresh, .stopCall (some 2), .haltSource, .joinSource, .publishStop, .stopPanic,
  .stopRefresh, .popCommand, .finishCommand]

theorem paused_source_sounds :
    ∃ transport, run (step twoSources) (initial twoSources) pauseThenStopOther = some transport ∧
      transport.quiet = true ∧ transport.workerIdle = true ∧
        ¬ ∀ output ∈ twoSources.outputIds, (transport.outputs output).desired = Dict.empty :=
  exists_sounding (List.mem_singleton_self 3) (by decide +kernel)

end Transport
end Runtime
end Synesthesia
