import Synesthesia.Nodes.Base

namespace Synesthesia
namespace Runtime

open Foundation Contracts Nodes

/-!
# The mailbox of the graph worker

`LatestFrameGraphWorker.publish` and `reset_source` of
`runtime/engine_body.py`.  The mailbox keeps at most one pending tick a source:
a newer frame takes the place of the pending one.
-/

variable {Frame : Type}

inductive GraphCommand (Frame : Type) where
  | tick (sourceNodeId : UUID) (frame : Frame)
  | reset (sourceNodeId : UUID) (reason : ResetReason)
deriving DecidableEq

namespace GraphCommand

def sourceNodeId : GraphCommand Frame → UUID
  | tick source _ => source
  | reset source _ => source

/-- A pending tick of the given source. -/
def isTickOf (source : UUID) : GraphCommand Frame → Bool
  | tick other _ => decide (other = source)
  | reset _ _ => false

def isTick : GraphCommand Frame → Bool
  | tick _ _ => true
  | reset _ _ => false

end GraphCommand

/-- Put a frame next to a command of its source: behind a reset, in place of a
tick.  The frame that lost its place comes second. -/
def placeBeside (source : UUID) (frame : Frame) (rest : List (GraphCommand Frame)) :
    GraphCommand Frame → Option (List (GraphCommand Frame) × Option Frame)
  | .reset other reason =>
      if other = source then some (.reset other reason :: .tick source frame :: rest, none)
      else none
  | .tick other old =>
      if other = source then some (.tick source frame :: rest, some old) else none

/-- Put a frame next to the newest command of its source; `none` when there is
no command of the source. -/
def replacePending (source : UUID) (frame : Frame) :
    List (GraphCommand Frame) → Option (List (GraphCommand Frame) × Option Frame)
  | [] => none
  | command :: rest =>
      match replacePending source frame rest with
      | some (placed, dropped) => some (command :: placed, dropped)
      | none => placeBeside source frame rest command

/-- `publish`, and the frame that it dropped. -/
def publishFrame (source : UUID) (frame : Frame) (commands : List (GraphCommand Frame)) :
    List (GraphCommand Frame) × Option Frame :=
  (replacePending source frame commands).getD (commands ++ [.tick source frame], none)

/-- `reset_source`: only the end of a source leaves its pending tick alone. -/
def publishReset (source : UUID) (reason : ResetReason) (commands : List (GraphCommand Frame)) :
    List (GraphCommand Frame) :=
  (if reason = .sourceEnded then commands
    else commands.filter (fun command => !command.isTickOf source)) ++ [.reset source reason]

/-- The mailbox with the command that the worker executes.  `published` and
`executed` record what went in and what the worker has taken. -/
structure Mailbox (Frame : Type) where
  commands : List (GraphCommand Frame)
  executing : Option (GraphCommand Frame)
  droppedBySource : UUID → Nat
  published : List (GraphCommand Frame)
  executed : List (GraphCommand Frame)

namespace Mailbox

def initial : Mailbox Frame := ⟨[], none, fun _ => 0, [], []⟩

inductive Step (Frame : Type) where
  | publish (source : UUID) (frame : Frame)
  | resetSource (source : UUID) (reason : ResetReason)
  | pop
  | finish

def publish (mailbox : Mailbox Frame) (source : UUID) (frame : Frame) : Mailbox Frame :=
  let placed := publishFrame source frame mailbox.commands
  { mailbox with
    commands := placed.1
    droppedBySource := if placed.2.isSome then
        Function.update mailbox.droppedBySource source (mailbox.droppedBySource source + 1)
      else mailbox.droppedBySource
    published := mailbox.published ++ [.tick source frame] }

def resetSource (mailbox : Mailbox Frame) (source : UUID) (reason : ResetReason) :
    Mailbox Frame :=
  { mailbox with
    commands := publishReset source reason mailbox.commands
    published := mailbox.published ++ [.reset source reason] }

/-- The worker takes commands from the front, one at a time. -/
def step (mailbox : Mailbox Frame) : Step Frame → Option (Mailbox Frame)
  | .publish source frame => some (mailbox.publish source frame)
  | .resetSource source reason => some (mailbox.resetSource source reason)
  | .pop =>
      match mailbox.executing, mailbox.commands with
      | none, command :: rest =>
          some { mailbox with
            commands := rest
            executing := some command
            executed := mailbox.executed ++ [command] }
      | _, _ => none
  | .finish => mailbox.executing.map (fun _ => { mailbox with executing := none })

/-- The occupancy of `mailbox_metrics`. -/
def occupancy (mailbox : Mailbox Frame) (source : UUID) : Nat :=
  (mailbox.executing.toList.filter (GraphCommand.isTickOf source)).length +
    (mailbox.commands.filter (GraphCommand.isTickOf source)).length

end Mailbox

/-! ## What a publication changes -/

variable {source : UUID} {frame : Frame}

theorem replacePending_perm {commands placed : List (GraphCommand Frame)} {dropped : Option Frame}
    (found : replacePending source frame commands = some (placed, dropped)) :
    (placed ++ dropped.toList.map (GraphCommand.tick source)).Perm
      (.tick source frame :: commands) := by
  induction commands generalizing placed dropped with
  | nil => cases found
  | cons command rest ih =>
      rw [replacePending] at found
      cases later : replacePending source frame rest with
      | some result =>
          rcases result with ⟨restPlaced, restDropped⟩
          rw [later] at found
          cases found
          exact ((ih later).cons command).trans (List.Perm.swap _ _ _)
      | none =>
          rw [later] at found
          cases command with
          | reset other reason =>
              simp only [placeBeside] at found
              split_ifs at found
              cases found
              simpa using List.Perm.swap (GraphCommand.tick source frame) (.reset other reason) rest
          | tick other old =>
              simp only [placeBeside] at found
              split_ifs at found with same
              cases found
              subst same
              simp only [Option.toList_some, List.map_cons, List.map_nil, List.cons_append]
              exact (List.perm_append_singleton _ rest).cons _

/-- A publication adds its tick and removes at most the tick that it drops. -/
theorem publishFrame_perm (source : UUID) (frame : Frame) (commands : List (GraphCommand Frame)) :
    ((publishFrame source frame commands).1 ++
      (publishFrame source frame commands).2.toList.map (GraphCommand.tick source)).Perm
      (.tick source frame :: commands) := by
  unfold publishFrame
  cases found : replacePending source frame commands with
  | none =>
      simp only [Option.getD_none, Option.toList_none, List.map_nil, List.append_nil]
      exact List.perm_append_singleton _ commands
  | some result => exact replacePending_perm found

variable {commands : List (GraphCommand Frame)}

theorem mem_publishFrame
    {command : GraphCommand Frame} (member : command ∈ (publishFrame source frame commands).1) :
    command = .tick source frame ∨ command ∈ commands :=
  List.mem_cons.mp ((publishFrame_perm source frame commands).mem_iff.mp
    (List.mem_append_left _ member))

/-- The commands of the other sources keep their order. -/
theorem replacePending_filter {commands placed : List (GraphCommand Frame)} {dropped : Option Frame}
    (found : replacePending source frame commands = some (placed, dropped))
    (keep : GraphCommand Frame → Bool) (others : ∀ command, command.sourceNodeId = source →
      keep command = false) : placed.filter keep = commands.filter keep := by
  induction commands generalizing placed dropped with
  | nil => cases found
  | cons command rest ih =>
      rw [replacePending] at found
      cases later : replacePending source frame rest with
      | some result =>
          rcases result with ⟨restPlaced, restDropped⟩
          rw [later] at found
          cases found
          rw [List.filter_cons, List.filter_cons, ih later]
      | none =>
          rw [later] at found
          have dropsTick : keep (.tick source frame) = false := others _ rfl
          cases command with
          | reset other reason =>
              simp only [placeBeside] at found
              split_ifs at found
              cases found
              simp [List.filter_cons, dropsTick]
          | tick other old =>
              simp only [placeBeside] at found
              split_ifs at found with same
              cases found
              have dropsOld : keep (.tick other old) = false := others _ same
              simp [dropsTick, dropsOld]

theorem publishFrame_filter (source : UUID) (frame : Frame)
    (commands : List (GraphCommand Frame)) (keep : GraphCommand Frame → Bool)
    (others : ∀ command, command.sourceNodeId = source → keep command = false) :
    (publishFrame source frame commands).1.filter keep = commands.filter keep := by
  unfold publishFrame
  cases found : replacePending source frame commands with
  | none =>
      have dropsTick : keep (.tick source frame) = false := others _ rfl
      simp [dropsTick]
  | some result => exact replacePending_filter found keep others

theorem mem_publishReset {reason : ResetReason}
    {command : GraphCommand Frame}
    (member : command ∈ publishReset source reason commands) :
    command = .reset source reason ∨ command ∈ commands := by
  unfold publishReset at member
  rcases List.mem_append.mp member with before | here
  · right
    split_ifs at before
    · exact before
    · exact (List.mem_filter.mp before).1
  · exact Or.inl (List.mem_singleton.mp here)

/-- Only the end of a source leaves its pending tick in the mailbox. -/
theorem not_mem_publishReset {reason : ResetReason}
    (drops : reason ≠ .sourceEnded) :
    GraphCommand.tick source frame ∉ publishReset source reason commands := by
  intro member
  rw [publishReset, if_neg drops] at member
  rcases List.mem_append.mp member with before | here
  · have kept := (List.mem_filter.mp before).2
    simp [GraphCommand.isTickOf] at kept
  · cases List.mem_singleton.mp here

end Runtime
end Synesthesia
