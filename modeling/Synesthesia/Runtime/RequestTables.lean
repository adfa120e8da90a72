import Synesthesia.Runtime.RequestThreads

namespace Synesthesia
namespace Runtime

open Foundation

/-!
# The requests of the engine process and of its threads

The engine process takes a request, its answer and its timeout in one step each.
The threads reach the table of pending requests in one of the steps that these
consist of, and it lists the same requests.
-/

variable {name : Nat → String} {client next : RequestClient} {process after : EngineProcess}

/-- The table lists the requests that wait, under their names. -/
def Lists (name : Nat → String) (client : RequestClient) (process : EngineProcess) : Prop :=
  ∀ requestId, name requestId ∈ client.pending.keys ↔
    requestId ∈ process.client.pending.map EngineRequest.requestId

/-- What the step of a thread is in the engine process; one that leaves the
table alone is none. -/
inductive TableMove (name : Nat → String) (client : RequestClient) (process : EngineProcess) :
    RequestAction → EngineProcess → Prop
  | request {call : Nat} (command : EngineCommand)
      (named : (client.calls call).requestId = name process.client.requests) :
      TableMove name client process (.register call) (process.request command)
  | answer {reader : Nat} {reply : Reply} {response : EngineResponse} {after : EngineProcess}
      (version : reply.protocolVersion = engineProtocolVersion)
      (first : process.responses.head? = some response)
      (named : reply.requestId = name response.requestId)
      (arrives : process.step .responseArrives = some after) :
      TableMove name client process (.receive reader (.reply reply)) after
  | timeout {call requestId : Nat} {after : EngineProcess}
      (named : (client.calls call).requestId = name requestId)
      (late : process.step (.timesOut requestId) = some after) :
      TableMove name client process (.deregister call) after
  | disconnect {worker : Worker} {after : EngineProcess}
      (gone : process.step .disconnects = some after) :
      TableMove name client process (.drain worker) after

/-- A request leaves both tables. -/
theorem Lists.remove (injective : Function.Injective name) (lists : Lists name client process)
    {requestId : Nat}
    (fewer : ∀ key, key ∈ next.pending.keys ↔ key ∈ client.pending.keys ∧ key ≠ name requestId)
    (filtered : after.client.pending =
      process.client.pending.filter (·.requestId ≠ requestId)) : Lists name next after := by
  intro other
  rw [fewer, lists, injective.ne_iff, filtered]
  simp only [List.mem_map, List.mem_filter, decide_eq_true_eq]
  constructor
  · rintro ⟨⟨request, member, rfl⟩, different⟩
    exact ⟨request, ⟨member, different⟩, rfl⟩
  · rintro ⟨request, ⟨member, different⟩, rfl⟩
    exact ⟨⟨request, member, rfl⟩, different⟩

theorem lists_step (injective : Function.Injective name) (lists : Lists name client process)
    {action : RequestAction} (move : TableMove name client process action after)
    (taken : client.step action = some next) : Lists name next after := by
  cases move with
  | @request call command named =>
      simp only [RequestClient.step, RequestClient.register] at taken
      split at taken
      · cases taken
        intro other
        change _ ∈ (client.pending.insert _ _).keys ↔ _
        rw [Dict.mem_keys_insert, named, injective.eq_iff, lists, EngineProcess.request,
          List.map_append, List.mem_append, or_comm]
        simp
      · cases taken
  | @answer reader reply response _ version first named arrives =>
      rcases List.head?_eq_some_iff.mp first with ⟨rest, responses⟩
      simp only [EngineProcess.step, responses, Option.some.injEq] at arrives
      subst arrives
      simp only [RequestClient.step, RequestClient.receive, version, ne_eq, not_true_eq_false,
        if_false] at taken
      split at taken
      · split at taken
        next unknown =>
          cases taken
          rw [Dict.get?_eq_none, named] at unknown
          refine lists.remove injective (fun key => ?_) rfl
          exact (and_iff_left_of_imp (ne_of_mem_of_not_mem · unknown)).symm
        next call found =>
          cases taken
          exact lists.remove injective (fun key => named ▸ Dict.mem_keys_erase) rfl
      · cases taken
  | @timeout call requestId _ named late =>
      simp only [EngineProcess.step, Option.ite_none_right_eq_some, Option.some.injEq] at late
      have erased : next.pending = client.pending.erase (name requestId) := by
        simp only [RequestClient.step, RequestClient.deregister, named] at taken
        split at taken <;> cases taken <;> rfl
      rw [← late.2]
      refine lists.remove injective (fun key => ?_) rfl
      rw [erased, Dict.mem_keys_erase]
  | disconnect gone =>
      simp only [EngineProcess.step, Option.ite_none_right_eq_some, Option.some.injEq] at gone
      simp only [RequestClient.step, RequestClient.drain] at taken
      split at taken
      · cases taken
        rw [← gone.2]
        exact fun _ => iff_of_false List.not_mem_nil List.not_mem_nil
      · cases taken

end Runtime
end Synesthesia
