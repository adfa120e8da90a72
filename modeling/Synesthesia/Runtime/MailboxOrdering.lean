import Synesthesia.Foundation.Runs
import Synesthesia.Foundation.Thinning
import Synesthesia.Runtime.GraphWorker

namespace Synesthesia
namespace Runtime

open Foundation Contracts Nodes

/-!
# The order of the graph worker's mailbox

What the worker executes for a source is what was published for it without
some ticks, each superseded by something newer of the same source.  The laws
of the mailbox are read off this relation.
-/

variable {Frame : Type}

namespace GraphCommand

/-- A command of the given source. -/
def isOf (source : UUID) (command : GraphCommand Frame) : Bool :=
  decide (command.sourceNodeId = source)

/-- What takes the place of an older pending tick: a newer tick, or a reset
other than the end of the source. -/
def supersedes : GraphCommand Frame → Bool
  | tick _ _ => true
  | reset _ reason => decide (reason ≠ .sourceEnded)

/-- A tick with something newer behind it that takes its place. -/
def Superseded (command : GraphCommand Frame) (newer : List (GraphCommand Frame)) : Prop :=
  command.isTick = true ∧ ∃ other ∈ newer, other.supersedes = true

theorem Superseded.grows {command : GraphCommand Frame} {newer : List (GraphCommand Frame)}
    (superseded : command.Superseded newer) (last : GraphCommand Frame) :
    command.Superseded (newer ++ [last]) := by
  rcases superseded with ⟨isTick, other, member, supersedes⟩
  exact ⟨isTick, other, List.mem_append_left _ member, supersedes⟩

theorem superseded_of_last {command last : GraphCommand Frame} (isTick : command.isTick = true)
    (supersedes : last.supersedes = true) (more : List (GraphCommand Frame)) :
    command.Superseded (more ++ [last]) :=
  ⟨isTick, last, List.mem_append_right _ (List.mem_singleton_self last), supersedes⟩

theorem isTickOf_eq (source : UUID) (command : GraphCommand Frame) :
    command.isTickOf source = (command.isOf source && command.isTick) := by
  cases command with
  | tick other frame => exact (Bool.and_true _).symm
  | reset other reason => simp [isTickOf, isTick]

end GraphCommand

open GraphCommand

/-! ## The commands of one source -/

/-- A publication goes behind the last command of its source, in place of a tick. -/
theorem replacePending_own {source : UUID} {frame : Frame} (commands : List (GraphCommand Frame)) :
    match replacePending source frame commands with
    | none => commands.filter (isOf source) = []
    | some (placed, _) =>
        (∃ front old, commands.filter (isOf source) = front ++ [.tick source old] ∧
          placed.filter (isOf source) = front ++ [.tick source frame]) ∨
        ∃ front reason, commands.filter (isOf source) = front ++ [.reset source reason] ∧
          placed.filter (isOf source) = front ++ [.reset source reason, .tick source frame] := by
  induction commands with
  | nil => rfl
  | cons command rest ih =>
      rw [replacePending]
      cases later : replacePending source frame rest with
      | some result =>
          rw [later] at ih
          by_cases own : command.isOf source = true
          · rw [List.filter_cons, if_pos own]
            simp only [List.filter_cons, if_pos own]
            rcases ih with ⟨front, old, before, after⟩ |
              ⟨front, reason, before, after⟩
            · exact Or.inl ⟨command :: front, old, by rw [before]; rfl, by rw [after]; rfl⟩
            · exact Or.inr ⟨command :: front, reason, by rw [before]; rfl, by rw [after]; rfl⟩
          · rw [List.filter_cons, if_neg own]
            simp only [List.filter_cons, if_neg own]
            exact ih
      | none =>
          rw [later] at ih
          have none_behind : rest.filter (isOf source) = [] := ih
          have isOwn : (GraphCommand.tick source frame).isOf source = true := decide_eq_true rfl
          cases command with
          | reset other reason =>
              simp only [placeBeside]
              by_cases same : other = source
              · subst same
                rw [if_pos rfl]
                right
                refine ⟨[], reason, ?_, ?_⟩
                · simp [isOf, sourceNodeId, none_behind]
                · simp [isOf, sourceNodeId, none_behind]
              · rw [if_neg same]
                simp [isOf, sourceNodeId, same, none_behind]
          | tick other old =>
              simp only [placeBeside]
              by_cases same : other = source
              · subst same
                rw [if_pos rfl]
                left
                refine ⟨[], old, ?_, ?_⟩
                · simp [isOf, sourceNodeId, none_behind]
                · simp [isOf, sourceNodeId, none_behind]
              · rw [if_neg same]
                simp [isOf, sourceNodeId, same, none_behind]

/-- What is pending of a source after a publication: what was pending, without
a last tick, and the new tick. -/
theorem publishFrame_own (source : UUID) (frame : Frame) (commands : List (GraphCommand Frame)) :
    ∃ front, (publishFrame source frame commands).1.filter (isOf source) =
        front ++ [.tick source frame] ∧
      ((∃ old, commands.filter (isOf source) = front ++ [.tick source old]) ∨
        commands.filter (isOf source) = front ∧
          (front = [] ∨ ∃ others reason, front = others ++ [.reset source reason])) := by
  have placing := @replacePending_own Frame source frame commands
  unfold publishFrame
  cases found : replacePending source frame commands with
  | none =>
      rw [found] at placing
      refine ⟨[], ?_, Or.inr ⟨placing, Or.inl rfl⟩⟩
      simp [List.filter_append, show commands.filter (isOf source) = [] from placing, isOf,
        sourceNodeId]
  | some result =>
      rw [found] at placing
      rcases placing with ⟨front, old, before, after⟩ | ⟨front, reason, before, after⟩
      · exact ⟨front, after, Or.inl ⟨old, before⟩⟩
      · refine ⟨front ++ [.reset source reason], ?_, Or.inr ⟨before, Or.inr ⟨front, reason, rfl⟩⟩⟩
        rw [Option.getD_some, after, List.append_assoc]
        rfl

theorem publishReset_own (source : UUID) (reason : ResetReason)
    (commands : List (GraphCommand Frame)) :
    (publishReset source reason commands).filter (isOf source) =
      (if reason = .sourceEnded then commands.filter (isOf source)
        else (commands.filter (isOf source)).filter (fun command => !command.isTick)) ++
        [.reset source reason] := by
  have isOwn : (GraphCommand.reset source reason : GraphCommand Frame).isOf source = true :=
    decide_eq_true rfl
  rw [publishReset, List.filter_append, List.filter_cons, if_pos isOwn, List.filter_nil]
  congr 1
  split_ifs
  · rfl
  · rw [List.filter_filter, List.filter_filter]
    refine List.filter_congr ?_
    intro command _
    rw [isTickOf_eq]
    cases command.isOf source <;> cases command.isTick <;> rfl

/-- A reset leaves the commands of the other sources as they were. -/
theorem publishReset_filter (source : UUID) (reason : ResetReason)
    (commands : List (GraphCommand Frame)) (keep : GraphCommand Frame → Bool)
    (others : ∀ command, command.sourceNodeId = source → keep command = false) :
    (publishReset source reason commands).filter keep = commands.filter keep := by
  have dropsReset : keep (.reset source reason) = false := others _ rfl
  rw [publishReset, List.filter_append, List.filter_cons, dropsReset]
  simp only [Bool.false_eq_true, if_false, List.filter_nil, List.append_nil]
  split_ifs
  · rfl
  · rw [List.filter_filter]
    refine List.filter_congr ?_
    intro command _
    cases kept : keep command with
    | false => rfl
    | true =>
        have foreign : command.sourceNodeId ≠ source := by
          intro same
          rw [others command same] at kept
          cases kept
        cases command with
        | tick other frame => exact congrArg not (decide_eq_false foreign)
        | reset other reason => rfl

namespace Mailbox

/-! ## The laws -/

/-- The last reset published for the source was its end. -/
def awaitsReset (source : UUID) (published : List (GraphCommand Frame)) : Bool :=
  published.foldl (fun awaits command =>
    match command with
    | .tick _ _ => awaits
    | .reset other reason =>
        if other = source then decide (reason = .sourceEnded) else awaits) false

/-- A source publishes no frame between its end and its next reset. -/
def Serialized (mailbox : Mailbox Frame) : Step Frame → Prop
  | .publish source _ => awaitsReset source mailbox.published = false
  | _ => True

/-- The source that a step is for; the steps of the worker are for none. -/
def Step.source? : Step Frame → Option UUID
  | .publish source _ => some source
  | .resetSource source _ => some source
  | .pop => none
  | .finish => none

/-- The commands of a source in the order in which the worker takes them: those
that it has taken and those that are pending. -/
def taken (mailbox : Mailbox Frame) (source : UUID) : List (GraphCommand Frame) :=
  (mailbox.executed ++ mailbox.commands).filter (isOf source)

/-- What was published for a source, in order. -/
def publishedFor (mailbox : Mailbox Frame) (source : UUID) : List (GraphCommand Frame) :=
  mailbox.published.filter (isOf source)

/-- What the mailbox promises to one source.

* `subsequence`: the worker executes the commands of the source in the order of
  their publication.
* `resets`: no reset is lost.
* `drains`: the worker alone executes everything that is pending.
* `aroundReset`: what is published before a reset runs before it, what is
  published after it runs after it.
* `newest`: the newest tick is lost to a later reset of the source only.
* `undisturbed`: the steps of the other sources leave its commands alone.
* `single`: at most one of its ticks is pending; the one in execution is the
  second slot of the mailbox. -/
structure Laws (mailbox : Mailbox Frame) (source : UUID) : Prop where
  subsequence : (mailbox.executed.filter (isOf source)).Sublist (mailbox.publishedFor source)
  resets : (mailbox.taken source).filter (fun command => !command.isTick) =
    (mailbox.publishedFor source).filter (fun command => !command.isTick)
  drains : ∃ steps drained, (∀ action ∈ steps, action = .pop ∨ action = .finish) ∧
    run step mailbox steps = some drained ∧ drained.commands = [] ∧
    drained.executed = mailbox.executed ++ mailbox.commands
  aroundReset : ∀ before reason after,
    mailbox.publishedFor source = before ++ .reset source reason :: after →
      ∃ earlier later, mailbox.taken source = earlier ++ .reset source reason :: later ∧
        earlier.Sublist before ∧ later.Sublist after ∧
        earlier.filter (fun command => !command.isTick) =
          before.filter (fun command => !command.isTick)
  newest : ∀ before frame after,
    mailbox.publishedFor source = before ++ .tick source frame :: after →
      (∀ newer ∈ after, newer.supersedes = false) →
        ∃ earlier, mailbox.taken source = earlier ++ .tick source frame :: after ∧
          earlier.Sublist before
  undisturbed : ∀ action next other, step mailbox action = some next →
    action.source? = some other → other ≠ source →
      next.commands.filter (isOf source) = mailbox.commands.filter (isOf source)
  single : (mailbox.commands.filter (isTickOf source)).length ≤ 1 ∧ mailbox.occupancy source ≤ 2

/-! ## The invariant -/

/-- A tick is the last pending command of its source, unless the source has
ended. -/
structure TickLast (mailbox : Mailbox Frame) (source : UUID) : Prop where
  one : ((mailbox.commands.filter (isOf source)).filter isTick).length ≤ 1
  last : awaitsReset source mailbox.published = false →
    ∀ command ∈ (mailbox.commands.filter (isOf source)).dropLast, command.isTick = false

structure Ordered (mailbox : Mailbox Frame) : Prop where
  retains : ∀ source, Thins Superseded (mailbox.publishedFor source) (mailbox.taken source)
  tickLast : ∀ source, mailbox.TickLast source

theorem isOf_of_ne {source other : UUID} (different : other ≠ source)
    (command : GraphCommand Frame) (own : command.sourceNodeId = other) :
    command.isOf source = false :=
  decide_eq_false (own ▸ different)

theorem awaitsReset_tick (source other : UUID) (frame : Frame)
    (published : List (GraphCommand Frame)) :
    awaitsReset source (published ++ [.tick other frame]) = awaitsReset source published := by
  rw [awaitsReset, List.foldl_append]
  rfl

theorem awaitsReset_reset (source other : UUID) (reason : ResetReason)
    (published : List (GraphCommand Frame)) :
    awaitsReset source (published ++ [.reset other reason]) =
      if other = source then decide (reason = .sourceEnded) else awaitsReset source published := by
  rw [awaitsReset, List.foldl_append]
  rfl

/-- A new last command that lets go of some pending ticks keeps the relation
between what is published and what is taken. -/
theorem retains_supersede {published executed pending fewer : List (GraphCommand Frame)}
    {last : GraphCommand Frame} (supersedes : last.supersedes = true)
    (retains : Thins Superseded published (executed ++ pending))
    (drops : Thins (fun command _ => command.isTick = true) pending fewer) :
    Thins Superseded (published ++ [last]) (executed ++ (fewer ++ [last])) := by
  rw [← List.append_assoc]
  refine Thins.supersede ?_ ?_ retains (drops.append_left executed)
  · intro command newer superseded
    exact superseded.grows last
  · intro command _ isTick more
    exact superseded_of_last isTick supersedes more

theorem ordered_initial : (initial : Mailbox Frame).Ordered where
  retains := fun _ => .nil
  tickLast := fun _ => ⟨Nat.zero_le 1, fun _ _ member => nomatch member⟩

variable {mailbox : Mailbox Frame}

theorem Ordered.publish (ordered : mailbox.Ordered) {source : UUID}
    (frame : Frame) (serialized : awaitsReset source mailbox.published = false) :
    (mailbox.publish source frame).Ordered := by
  have foreign : ∀ other, source ≠ other →
      (mailbox.publish source frame).commands.filter (isOf other) =
        mailbox.commands.filter (isOf other) := by
    intro other different
    exact publishFrame_filter source frame mailbox.commands _ (isOf_of_ne different)
  have isOwn : (GraphCommand.tick source frame).isOf source = true := decide_eq_true rfl
  rcases publishFrame_own source frame mailbox.commands with ⟨front, placed, before⟩
  have ownPlaced : (mailbox.publish source frame).commands.filter (isOf source) =
      front ++ [.tick source frame] := placed
  constructor
  · intro other
    have retains := ordered.retains other
    unfold publishedFor taken at retains ⊢
    rw [List.filter_append] at retains ⊢
    by_cases same : source = other
    · subst same
      rw [ownPlaced]
      simp only [Mailbox.publish, List.filter_append, List.filter_cons, if_pos isOwn,
        List.filter_nil]
      refine retains_supersede rfl retains ?_
      rcases before with ⟨old, before⟩ | ⟨before, _⟩
      · rw [before]
        have dropsOld : Thins (fun command _ => command.isTick = true)
            [GraphCommand.tick source old] [] := .drop rfl .nil
        simpa using dropsOld.append_left front
      · rw [before]
        exact Thins.refl front
    · rw [foreign other same]
      simp only [Mailbox.publish, List.filter_append, List.filter_cons,
        isOf_of_ne same (.tick source frame) rfl, Bool.false_eq_true, if_false, List.filter_nil,
        List.append_nil]
      exact retains
  · intro other
    by_cases same : source = other
    · subst same
      have noTicks : ∀ command ∈ front, command.isTick = false := by
        have last := (ordered.tickLast source).last serialized
        rcases before with ⟨old, before⟩ | ⟨before, nothing | ⟨others, reason, isReset⟩⟩
        · rw [before, List.dropLast_concat] at last
          exact last
        · rw [nothing]
          exact fun _ member => nomatch member
        · rw [before, isReset, List.dropLast_concat] at last
          rw [isReset]
          intro command member
          rcases List.mem_append.mp member with earlier | reset
          · exact last command earlier
          · rw [List.mem_singleton.mp reset]
            rfl
      refine ⟨?_, ?_⟩
      · rw [ownPlaced, List.filter_append, List.filter_eq_nil_iff.mpr (by simpa using noTicks),
          List.nil_append]
        exact List.length_filter_le isTick [GraphCommand.tick source frame]
      · rw [ownPlaced, List.dropLast_concat]
        exact fun _ => noTicks
    · refine ⟨?_, ?_⟩
      · rw [foreign other same]
        exact (ordered.tickLast other).one
      · rw [foreign other same]
        intro awaits
        refine (ordered.tickLast other).last ?_
        rwa [← awaitsReset_tick other source frame]

theorem Ordered.resetSource (ordered : mailbox.Ordered)
    (source : UUID) (reason : ResetReason) : (mailbox.resetSource source reason).Ordered := by
  have foreign : ∀ other, source ≠ other →
      (mailbox.resetSource source reason).commands.filter (isOf other) =
        mailbox.commands.filter (isOf other) := by
    intro other different
    exact publishReset_filter source reason mailbox.commands _ (isOf_of_ne different)
  have isOwn : (GraphCommand.reset source reason : GraphCommand Frame).isOf source = true :=
    decide_eq_true rfl
  have ownPlaced : (mailbox.resetSource source reason).commands.filter (isOf source) = _ :=
    publishReset_own source reason mailbox.commands
  constructor
  · intro other
    have retains := ordered.retains other
    unfold publishedFor taken at retains ⊢
    rw [List.filter_append] at retains ⊢
    by_cases same : source = other
    · subst same
      rw [ownPlaced]
      simp only [Mailbox.resetSource, List.filter_append, List.filter_cons, if_pos isOwn,
        List.filter_nil]
      by_cases ended : reason = .sourceEnded
      · rw [if_pos ended, ← List.append_assoc]
        exact retains.concat (fun command newer superseded => superseded.grows _)
      · rw [if_neg ended]
        refine retains_supersede (decide_eq_true ended) retains (Thins.of_filter _ _ ?_)
        intro command _ isTick
        simpa using isTick
    · rw [foreign other same]
      simp only [Mailbox.resetSource, List.filter_append, List.filter_cons,
        isOf_of_ne same (.reset source reason) rfl, Bool.false_eq_true, if_false, List.filter_nil,
        List.append_nil]
      exact retains
  · intro other
    by_cases same : source = other
    · subst same
      have own := ordered.tickLast source
      by_cases ended : reason = .sourceEnded
      · refine ⟨?_, ?_⟩
        · rw [ownPlaced, if_pos ended, List.filter_append]
          simpa [isTick] using own.one
        · intro awaits
          rw [Mailbox.resetSource, awaitsReset_reset, if_pos rfl, decide_eq_true ended] at awaits
          cases awaits
      · have noTicks : ∀ command ∈ (mailbox.commands.filter (isOf source)).filter
            (fun command => !command.isTick), command.isTick = false := by
          intro command member
          simpa using (List.mem_filter.mp member).2
        refine ⟨?_, ?_⟩
        · rw [ownPlaced, if_neg ended, List.filter_append,
            List.filter_eq_nil_iff.mpr (by simpa using noTicks)]
          simp [isTick]
        · rw [ownPlaced, if_neg ended, List.dropLast_concat]
          exact fun _ => noTicks
    · refine ⟨?_, ?_⟩
      · rw [foreign other same]
        exact (ordered.tickLast other).one
      · rw [foreign other same]
        intro awaits
        refine (ordered.tickLast other).last ?_
        rw [Mailbox.resetSource, awaitsReset_reset, if_neg same] at awaits
        exact awaits

/-- The worker takes the first command and leaves the rest as it is. -/
theorem Ordered.pop (ordered : mailbox.Ordered)
    {command : GraphCommand Frame} {rest : List (GraphCommand Frame)}
    (pending : mailbox.commands = command :: rest) (executing : Option (GraphCommand Frame)) :
    Ordered { mailbox with
      commands := rest
      executing := executing
      executed := mailbox.executed ++ [command] } := by
  constructor
  · intro source
    have retains := ordered.retains source
    unfold publishedFor taken at retains ⊢
    rw [pending] at retains
    simpa using retains
  · intro source
    rcases ordered.tickLast source with ⟨one, last⟩
    rw [pending, List.filter_cons] at one last
    by_cases own : command.isOf source = true
    · rw [if_pos own] at one last
      refine ⟨?_, ?_⟩
      · refine le_trans ?_ one
        exact List.Sublist.length_le (List.Sublist.filter _ (List.sublist_cons_self _ _))
      · intro awaits other member
        refine last awaits other ?_
        have behind : rest.filter (isOf source) ≠ [] := by
          intro nothing
          rw [show rest.filter (isOf source) = [] from nothing] at member
          cases member
        rw [List.dropLast_cons_of_ne_nil behind]
        exact List.mem_cons_of_mem _ member
    · rw [if_neg own] at one last
      exact ⟨one, last⟩

theorem Ordered.step {mailbox next : Mailbox Frame} {action : Step Frame}
    (ordered : mailbox.Ordered) (serialized : mailbox.Serialized action)
    (taken : mailbox.step action = some next) : next.Ordered := by
  cases action with
  | publish source frame =>
      cases taken
      exact ordered.publish frame serialized
  | resetSource source reason =>
      cases taken
      exact ordered.resetSource source reason
  | pop =>
      simp only [Mailbox.step] at taken
      split at taken
      · rename_i command rest _ pending
        cases taken
        exact ordered.pop pending (some command)
      · cases taken
  | finish =>
      rcases Option.map_eq_some_iff.mp taken with ⟨command, _, rfl⟩
      exact ⟨ordered.retains, fun source =>
        ⟨(ordered.tickLast source).one, (ordered.tickLast source).last⟩⟩

/-! ## What the invariant says -/

/-- The worker alone executes everything that is pending, in order. -/
theorem exists_drained (mailbox : Mailbox Frame) :
    ∃ steps drained, (∀ action ∈ steps, action = Step.pop ∨ action = Step.finish) ∧
      run Mailbox.step mailbox steps = some drained ∧ drained.commands = [] ∧
      drained.executed = mailbox.executed ++ mailbox.commands := by
  have fromIdle : ∀ (commands : List (GraphCommand Frame)) (idle : Mailbox Frame),
      idle.commands = commands → idle.executing = none →
        ∃ steps drained, (∀ action ∈ steps, action = Step.pop ∨ action = Step.finish) ∧
          run Mailbox.step idle steps = some drained ∧ drained.commands = [] ∧
          drained.executed = idle.executed ++ idle.commands := by
    intro commands
    induction commands with
    | nil =>
        intro idle empty _
        exact ⟨[], idle, nofun, rfl, empty, by rw [empty, List.append_nil]⟩
    | cons command rest ih =>
        intro idle pending resting
        rcases ih
          { idle with commands := rest, executing := none, executed := idle.executed ++ [command] }
          rfl rfl with ⟨steps, drained, workers, reached, empty, executed⟩
        refine ⟨.pop :: .finish :: steps, drained, ?_, ?_, empty, ?_⟩
        · intro action member
          rcases List.mem_cons.mp member with rfl | member
          · exact Or.inl rfl
          · rcases List.mem_cons.mp member with rfl | member
            · exact Or.inr rfl
            · exact workers action member
        · refine run_cons_eq_some.mpr ⟨{ idle with
            commands := rest
            executing := some command
            executed := idle.executed ++ [command] }, ?_, run_cons_eq_some.mpr ⟨_, rfl, reached⟩⟩
          simp only [Mailbox.step, resting, pending]
        · rw [executed, pending]
          simp
  cases busy : mailbox.executing with
  | none => exact fromIdle mailbox.commands mailbox rfl busy
  | some command =>
      rcases fromIdle mailbox.commands { mailbox with executing := none } rfl rfl with
        ⟨steps, drained, workers, reached, empty, executed⟩
      refine ⟨.finish :: steps, drained, ?_, ?_, empty, executed⟩
      · intro action member
        rcases List.mem_cons.mp member with rfl | member
        · exact Or.inr rfl
        · exact workers action member
      · refine run_cons_eq_some.mpr ⟨_, ?_, reached⟩
        simp only [Mailbox.step, busy, Option.map_some]

/-- A step for one source leaves the commands of the others alone. -/
theorem step_undisturbed {mailbox next : Mailbox Frame} {action : Step Frame}
    {source other : UUID} (taken : mailbox.step action = some next)
    (isFor : action.source? = some other) (different : other ≠ source) :
    next.commands.filter (isOf source) = mailbox.commands.filter (isOf source) := by
  cases action with
  | publish changed frame =>
      cases taken
      cases isFor
      exact publishFrame_filter other frame mailbox.commands _ (isOf_of_ne different)
  | resetSource changed reason =>
      cases taken
      cases isFor
      exact publishReset_filter other reason mailbox.commands _ (isOf_of_ne different)
  | pop => cases isFor
  | finish => cases isFor

theorem Ordered.laws (ordered : mailbox.Ordered) (source : UUID) :
    mailbox.Laws source := by
  have retains := ordered.retains source
  have isTickOf_filter : ∀ commands : List (GraphCommand Frame),
      commands.filter (isTickOf source) = (commands.filter (isOf source)).filter isTick := by
    intro commands
    rw [List.filter_filter]
    refine List.filter_congr ?_
    intro command _
    rw [isTickOf_eq, Bool.and_comm]
  have one : (mailbox.commands.filter (isTickOf source)).length ≤ 1 := by
    rw [isTickOf_filter]
    exact (ordered.tickLast source).one
  refine ⟨?_, ?_, exists_drained mailbox, ?_, ?_, ?_, one, ?_⟩
  · refine List.Sublist.trans ?_ retains.sublist
    rw [taken, List.filter_append]
    exact List.sublist_append_left _ _
  · refine retains.filter_eq _ ?_
    intro command newer superseded
    rw [superseded.1]
    rfl
  · intro before reason after split
    rw [split] at retains
    have firm : ¬ (GraphCommand.reset source reason : GraphCommand Frame).Superseded after :=
      fun superseded => nomatch superseded.1
    rcases retains.split firm with ⟨earlier, later, taken, front, back⟩
    refine ⟨earlier, later, taken, front.sublist, back.sublist, front.filter_eq _ ?_⟩
    intro command newer superseded
    rw [superseded.1]
    rfl
  · intro before frame after split nothingNewer
    rw [split] at retains
    have firm : ∀ (command : GraphCommand Frame) newer, newer ⊆ after →
        ¬ command.Superseded newer := by
      intro command newer within superseded
      rcases superseded.2 with ⟨other, member, supersedes⟩
      rw [nothingNewer other (within member)] at supersedes
      cases supersedes
    rcases retains.split (firm _ after (List.Subset.refl after)) with
      ⟨earlier, later, taken, front, back⟩
    refine ⟨earlier, ?_, front.sublist⟩
    rw [taken, back.eq_of_firm firm]
  · intro action next other taken isFor different
    exact step_undisturbed taken isFor different
  · have executing : (mailbox.executing.toList.filter (isTickOf source)).length ≤ 1 :=
      (List.length_filter_le _ _).trans (by cases mailbox.executing <;> simp)
    rw [occupancy]
    omega

/-- The command that a call of a producer publishes. -/
def Step.call : Step Frame → List (GraphCommand Frame)
  | .publish source frame => [.tick source frame]
  | .resetSource source reason => [.reset source reason]
  | .pop => []
  | .finish => []

/-- What was published is the log of the calls of `publish` and `reset_source`. -/
theorem published_eq_calls {steps : List (Step Frame)}
    (reached : run step initial steps = some mailbox) :
    mailbox.published = steps.flatMap Step.call := by
  refine (run_records published (fun published action => published ++ action.call) ?_
    reached).trans List.flatMap_eq_foldl.symm
  intro mailbox action next taken
  cases action with
  | publish source frame =>
      cases taken
      rfl
  | resetSource source reason =>
      cases taken
      rfl
  | pop =>
      rw [Step.call, List.append_nil]
      simp only [step] at taken
      split at taken
      · cases taken
        rfl
      · cases taken
  | finish =>
      rcases Option.map_eq_some_iff.mp taken with ⟨command, executing, rfl⟩
      exact (List.append_nil _).symm

/-- In every run in which no source publishes between its end and its next
reset, the mailbox keeps its promises to every source. -/
theorem mailbox_ordering (steps : List (Step Frame)) (mailbox : Mailbox Frame)
    (reached : run step initial steps = some mailbox)
    (serialized : Meets step Serialized initial steps) (source : UUID) : mailbox.Laws source := by
  have ordered : mailbox.Ordered := run_invariant
    (fun _ _ _ ordered permitted taken => Ordered.step ordered permitted taken)
    ordered_initial serialized reached
  exact ordered.laws source

instance (mailbox : Mailbox Frame) : (action : Step Frame) → Decidable (mailbox.Serialized action)
  | .publish _ _ => inferInstanceAs (Decidable (_ = _))
  | .resetSource _ _ | .pop | .finish => isTrue trivial

/-- Two sources whose frames and resets meet in the mailbox. -/
def twoSources : List (Step Nat) := [
  .publish 1 0, .publish 2 0, .publish 1 1, .resetSource 1 .sourceRestarted, .publish 1 2, .pop,
  .resetSource 2 .sourceEnded, .finish, .pop]

theorem mailbox_ordering_twoSources :
    ∃ mailbox, run step (initial : Mailbox Nat) twoSources = some mailbox ∧
      mailbox.Laws 1 ∧ mailbox.Laws 2 := by
  have runs : (run step (initial : Mailbox Nat) twoSources).isSome := by decide +kernel
  rcases Option.isSome_iff_exists.mp runs with ⟨mailbox, reached⟩
  have serialized : Meets step Serialized (initial : Mailbox Nat) twoSources := by decide +kernel
  exact ⟨mailbox, reached, mailbox_ordering twoSources mailbox reached serialized 1,
    mailbox_ordering twoSources mailbox reached serialized 2⟩

end Mailbox

end Runtime
end Synesthesia
