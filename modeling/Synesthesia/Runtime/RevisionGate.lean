import Mathlib
import Synesthesia.Runtime.EngineProcess

namespace Synesthesia
namespace Runtime

open Foundation Contracts

/-!
# The revision gate of the child

A command that names a revision is executed exactly when the child has that
revision, and refused otherwise.  The gate makes no exception for a panic, so a
panic is only sure to pass when its sender knew the child's revision.
-/

namespace EngineProcess

/-- The commands on their way to a child of the given revision: until the next
activation, whatever was sent in a settled state names this revision. -/
def Foreseen (graphRevision : Option Nat) : List EngineRequest → Prop
  | [] => True
  | request :: rest =>
      (request.settled = true → ∀ command revision,
        request.command = .bound command revision → revision = graphRevision) ∧
      if request.command.isActivation then ∀ later ∈ rest, later.settled = false
      else Foreseen graphRevision rest

variable {graphRevision : Option Nat}

theorem foreseen_of_unsettled {commands : List EngineRequest}
    (unsettled : ∀ request ∈ commands, request.settled = false) :
    Foreseen graphRevision commands := by
  induction commands with
  | nil => trivial
  | cons request rest ih =>
      have later := fun other member => unsettled other (List.mem_cons_of_mem request member)
      refine ⟨?_, ?_⟩
      · intro settled
        rw [unsettled request List.mem_cons_self] at settled
        cases settled
      · split_ifs
        · exact later
        · exact ih later

/-- A further command keeps what is foreseen, if it is not marked as settled
without reason. -/
theorem foreseen_append {commands : List EngineRequest}
    {request : EngineRequest} (foreseen : Foreseen graphRevision commands)
    (settles : request.settled = true →
      (∀ command revision, request.command = .bound command revision →
        revision = graphRevision) ∧ ∀ earlier ∈ commands, earlier.command.isActivation = false) :
    Foreseen graphRevision (commands ++ [request]) := by
  induction commands with
  | nil =>
      refine ⟨fun settled => (settles settled).1, ?_⟩
      split_ifs
      · intro later impossible
        cases impossible
      · trivial
  | cons first rest ih =>
      refine ⟨foreseen.1, ?_⟩
      have onward := foreseen.2
      by_cases activation : first.command.isActivation = true
      · rw [if_pos activation] at onward ⊢
        intro later member
        rcases List.mem_append.mp member with earlier | last
        · exact onward later earlier
        · rw [List.mem_singleton.mp last]
          apply Bool.eq_false_iff.mpr
          intro settled
          have none := (settles settled).2 first List.mem_cons_self
          rw [activation] at none
          cases none
      · rw [if_neg activation] at onward ⊢
        apply ih onward
        intro settled
        exact ⟨(settles settled).1, fun earlier member =>
          (settles settled).2 earlier (List.mem_cons_of_mem first member)⟩

/-- What the gate has decided so far, and will decide on what was foreseen. -/
structure Gated (process : EngineProcess) : Prop where
  decided : ∀ entry ∈ process.dispatched, ∀ command revision,
    entry.request.command = .bound command revision →
      (entry.Executes ↔ revision = entry.before.graphRevision) ∧
        (revision ≠ entry.before.graphRevision → entry.Refuses) ∧
        (entry.request.settled = true → entry.Executes)
  foreseen : ∀ server ∈ process.server, Foreseen server.graphRevision process.commands

/-- Whatever a command does, the engine body has been given it. -/
theorem handle_executed (server : EngineServer) (command : EngineCommand)
    (outcome : EngineOutcome) :
    (server.handle command outcome).1.executed = server.executed ++ [command] := by
  rw [EngineServer.handle.eq_def]
  cases classifyRemoteError outcome with
  | some kind => rfl
  | none =>
      cases command with
      | activateGraph revision =>
          dsimp only
          split_ifs <;> rfl
      | _ => rfl

variable {server : EngineServer}

/-- A command of the child's revision is handed to the engine body. -/
theorem dispatch_executed {request : EngineRequest}
    {command : BoundCommand} (outcome : EngineOutcome)
    (bound : request.command = .bound command server.graphRevision) :
    (server.dispatch request outcome).1.executed = server.executed ++ [request.command] := by
  have passes : server.validatesGraphRevision request.command = true := by
    rw [bound, EngineServer.validatesGraphRevision, decide_eq_true_eq]
  rw [EngineServer.dispatch, if_pos passes, handle_executed]

/-- A command of another revision is answered as stale. -/
theorem dispatch_of_stale {request : EngineRequest}
    {command : BoundCommand} {revision : Option Nat} (outcome : EngineOutcome)
    (bound : request.command = .bound command revision)
    (stale : revision ≠ server.graphRevision) :
    server.dispatch request outcome =
      (server, ⟨request.requestId, server.graphRevision, .failed .staleRevision⟩) := by
  have fails : ¬ server.validatesGraphRevision request.command = true := by
    rw [bound, EngineServer.validatesGraphRevision, decide_eq_true_eq]
    exact stale
  rw [EngineServer.dispatch, if_neg fails]

/-- The revision changes with an activation alone. -/
theorem dispatch_graphRevision {request : EngineRequest}
    {outcome : EngineOutcome} (other : request.command.isActivation = false) :
    (server.dispatch request outcome).1.graphRevision = server.graphRevision := by
  rw [EngineServer.dispatch]
  split_ifs
  · rw [EngineServer.handle.eq_def]
    cases classifyRemoteError outcome with
    | some kind => rfl
    | none =>
        cases shape : request.command with
        | activateGraph revision =>
            rw [shape] at other
            cases other
        | _ => rfl
  · rfl

theorem Gated.request {process : EngineProcess} (gated : process.Gated) {command : EngineCommand}
    (names : ∀ bound revision, command = .bound bound revision →
      revision = process.client.graphRevision) : (process.request command).Gated := by
  refine ⟨gated.decided, ?_⟩
  intro server alive
  apply foreseen_append (gated.foreseen server alive)
  intro settled
  rcases of_decide_eq_true settled with ⟨_, ⟨known, running, agrees⟩, quiet⟩
  refine ⟨?_, quiet⟩
  intro bound revision same
  have equal : known = server := Option.some.inj (running.symm.trans alive)
  rw [names bound revision same, ← agrees, equal]

theorem Gated.childDispatches {process : EngineProcess} (gated : process.Gated)
    {request : EngineRequest} {rest : List EngineRequest}
    (alive : process.server = some server) (queued : process.commands = request :: rest)
    (outcome : EngineOutcome) :
    ({ process with
      server := some (server.dispatch request outcome).1
      commands := rest
      responses := process.responses ++ [(server.dispatch request outcome).2]
      dispatched := process.dispatched ++ [⟨request, server, (server.dispatch request outcome).1,
        (server.dispatch request outcome).2⟩] } : EngineProcess).Gated := by
  have foreseen := gated.foreseen server alive
  rw [queued] at foreseen
  constructor
  · intro entry member command revision bound
    rcases List.mem_append.mp member with earlier | last
    · exact gated.decided entry earlier command revision bound
    · rw [List.mem_singleton.mp last] at bound ⊢
      have shape : request.command = .bound command revision := bound
      by_cases fresh : revision = server.graphRevision
      · subst fresh
        have executes := dispatch_executed outcome shape
        exact ⟨iff_of_true executes rfl, fun stale => absurd rfl stale, fun _ => executes⟩
      · have refused := dispatch_of_stale outcome shape fresh
        have kept : (server.dispatch request outcome).1.executed ≠
            server.executed ++ [request.command] := by
          rw [refused]
          simp
        refine ⟨iff_of_false kept fresh, fun _ => ?_, fun settled => ?_⟩
        · exact ⟨congrArg Prod.fst refused, congrArg Prod.snd refused⟩
        · exact absurd (foreseen.1 settled command revision shape) fresh
  · intro next same
    cases same
    have onward := foreseen.2
    by_cases activation : request.command.isActivation = true
    · rw [if_pos activation] at onward
      exact foreseen_of_unsettled onward
    · rw [if_neg activation] at onward
      rw [dispatch_graphRevision (Bool.not_eq_true _ ▸ activation)]
      exact onward

/-- No command names a revision that its client does not know. -/
theorem names_of_unbound {command : EngineCommand}
    (unbound : ∀ bound revision, command ≠ .bound bound revision) :
    ∀ bound revision, command = .bound bound revision → revision = graphRevision :=
  fun bound revision same => absurd same (unbound bound revision)

theorem Gated.step {process next : EngineProcess} {action : ProcessAction}
    (gated : process.Gated) (taken : process.step action = some next) : next.Gated := by
  cases action with
  | start =>
      simp only [EngineProcess.step, Option.ite_none_left_eq_some, Option.some.injEq] at taken
      rw [← taken.2]
      apply Gated.request
      · refine ⟨gated.decided, ?_⟩
        intro server _
        trivial
      · exact names_of_unbound (fun _ _ impossible => by cases impossible)
  | activate graphRevision =>
      simp only [EngineProcess.step, Option.ite_none_left_eq_some, Option.some.injEq] at taken
      exact taken.2 ▸ gated.request (names_of_unbound (fun _ _ impossible => by cases impossible))
  | command command =>
      simp only [EngineProcess.step, Option.ite_none_left_eq_some, Option.some.injEq] at taken
      rw [← taken.2]
      apply gated.request
      intro bound revision same
      exact (EngineCommand.bound.inj same).2.symm
  | ping =>
      simp only [EngineProcess.step, Option.ite_none_left_eq_some, Option.some.injEq] at taken
      exact taken.2 ▸ gated.request (names_of_unbound (fun _ _ impossible => by cases impossible))
  | queryDeviceCatalogue forceRefresh =>
      simp only [EngineProcess.step, Option.ite_none_left_eq_some, Option.some.injEq] at taken
      exact taken.2 ▸ gated.request (names_of_unbound (fun _ _ impossible => by cases impossible))
  | shutdown =>
      simp only [EngineProcess.step, Option.ite_none_left_eq_some, Option.some.injEq] at taken
      exact taken.2 ▸ gated.request (names_of_unbound (fun _ _ impossible => by cases impossible))
  | childDispatches outcome =>
      cases alive : process.server with
      | none => simp [EngineProcess.step, alive] at taken
      | some server =>
          cases queued : process.commands with
          | nil => simp [EngineProcess.step, alive, queued] at taken
          | cons request rest =>
              simp only [EngineProcess.step, alive, queued, Option.ite_none_right_eq_some,
                Option.some.injEq] at taken
              exact taken.2 ▸ gated.childDispatches alive queued outcome
  | childDies =>
      rw [EngineProcess.step, Option.some.injEq] at taken
      subst taken
      exact ⟨gated.decided, fun server impossible => by cases impossible⟩
  | close =>
      rw [EngineProcess.step, Option.some.injEq] at taken
      subst taken
      exact ⟨gated.decided, fun server impossible => by cases impossible⟩
  | disconnects =>
      simp only [EngineProcess.step, Option.ite_none_right_eq_some, Option.some.injEq] at taken
      exact taken.2 ▸ ⟨gated.decided, gated.foreseen⟩
  | responseArrives =>
      cases arrives : process.responses with
      | nil => simp [EngineProcess.step, arrives] at taken
      | cons response rest =>
          simp only [EngineProcess.step, arrives, Option.some.injEq] at taken
          exact taken ▸ ⟨gated.decided, gated.foreseen⟩
  | callerResumes requestId =>
      rcases answer : process.client.answered.find? (·.1.requestId = requestId) with
        _ | ⟨request, response⟩
      · simp [EngineProcess.step, answer] at taken
      · simp only [EngineProcess.step, answer, Option.some.injEq] at taken
        exact taken ▸ ⟨gated.decided, gated.foreseen⟩
  | timesOut requestId =>
      simp only [EngineProcess.step, Option.ite_none_right_eq_some, Option.some.injEq] at taken
      exact taken.2 ▸ ⟨gated.decided, gated.foreseen⟩
  | heartbeatArrives =>
      simp only [EngineProcess.step, Option.ite_none_right_eq_some, Option.some.injEq] at taken
      exact taken.2 ▸ ⟨gated.decided, gated.foreseen⟩
  | heartbeatOverdue =>
      simp only [EngineProcess.step, Option.ite_none_right_eq_some, Option.some.injEq] at taken
      exact taken.2 ▸ ⟨gated.decided, gated.foreseen⟩

end EngineProcess

end Runtime
end Synesthesia
