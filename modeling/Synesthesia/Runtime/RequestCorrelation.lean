import Synesthesia.Runtime.RequestThreads

namespace Synesthesia
namespace Runtime

open Foundation

/-!
# Request correlation

A request leaves the table once: its answer takes it out, a failing client takes
it out, or its own caller does.  What took it out decides what its caller is
given, so no two requests share an answer and every failed one has its error.
Only an exception of a send that the caller does not handle leaves a finished
request behind.
-/

/-! ## The invariant -/

/-- The phases of a caller whose request may be in the table. -/
def RequestPhase.Tabled : RequestPhase → Prop
  | .registered _ => True
  | .waiting => True
  | .sendFailed _ => True
  | .timedOut => True
  | _ => False

/-- The phases of a caller whose request has not been in the table. -/
def RequestPhase.Fresh : RequestPhase → Prop
  | .idle => True
  | .checked _ => True
  | _ => False

theorem RequestPhase.not_fresh_of_tabled {phase : RequestPhase} (tabled : phase.Tabled) :
    ¬ phase.Fresh := by
  intro fresh
  cases phase with
  | idle => exact tabled
  | checked connection => exact tabled
  | _ => exact fresh

/-- A request ends with the answer to itself, or with a timeout or a
disconnection. -/
def EngineCall.Ends (call : EngineCall) (outcome : RequestOutcome) : Prop :=
  (∃ reply, call.pending.response = some reply ∧ reply.requestId = call.requestId ∧
    outcome = interpret call.responseType reply) ∨
  (∃ message, outcome = .raised (.timeoutError message)) ∨
  ∃ message, outcome = .raised (.runtimeError message)

namespace RequestClient

/-- What holds of the record of a caller, given the table and the threads that
wake callers. -/
structure CallLaw (client : RequestClient) (call : Nat) (value : EngineCall) : Prop where
  tabled : ∀ id, client.pending.get? id = some call →
    value.requestId = id ∧ value.removal = none ∧ value.phase.Tabled
  fresh : value.phase.Fresh → value.removal = none ∧ value.pending = ⟨false, none, none⟩
  issued : value.phase ≠ .idle → value.requestId ∈ client.issued
  answered : ∀ reply, value.removal = some (.answered reply) → reply.requestId = value.requestId
  response : ∀ reply, value.pending.response = some reply → value.removal = some (.answered reply)
  error : ∀ message, value.pending.error = some message → value.removal = some (.failed message)
  event : value.pending.event = true → value.pending.response ≠ none ∨ value.pending.error ≠ none
  delivering : ∀ reader reply, client.readers reader = .delivering call reply →
    value.removal = some (.answered reply)
  failing : ∀ worker message remaining,
    client.drains worker = some (.failing message remaining) → call ∈ remaining →
      value.removal = some (.failed message)
  owed : ∀ message, value.removal = some (.failed message) →
    (value.pending.error = some message ∧ value.pending.event = true) ∨
    ∃ worker remaining, client.drains worker = some (.failing message remaining) ∧
      call ∈ remaining
  finished : ∀ outcome, value.phase = .finished outcome → value.Ends outcome
  callers : value.phase ≠ .disconnected → client.drains (.caller call) = none

/-- Every caller is in order, and no two have the same identifier. -/
structure Correlated (client : RequestClient) : Prop where
  law : ∀ call, client.CallLaw call (client.calls call)
  distinct : ∀ first second, (client.calls first).phase ≠ .idle →
    (client.calls second).phase ≠ .idle →
    (client.calls first).requestId = (client.calls second).requestId → first = second
  reading : ∀ reader, client.readers reader ≠ .ended →
    client.drains (.reader reader) = none ∧ reader < client.nextConnection
  unopened : ∀ reader, client.nextConnection ≤ reader → client.drains (.reader reader) = none

variable {client other : RequestClient} {call : Nat}

theorem callLaw_idle (issued : List String) :
    ({ initial with issued := issued } : RequestClient).CallLaw call EngineCall.idle where
  tabled := fun _ found => (by cases found)
  fresh := fun _ => ⟨rfl, rfl⟩
  issued := fun busy => absurd rfl busy
  answered := fun _ removed => (by cases removed)
  response := fun _ stored => (by cases stored)
  error := fun _ stored => (by cases stored)
  event := fun set => (by cases set)
  delivering := fun _ _ held => (by cases held)
  failing := fun _ _ _ held => (by cases held)
  owed := fun _ removed => (by cases removed)
  finished := fun _ ended => (by cases ended)
  callers := fun _ => rfl

theorem correlated_initial : Correlated initial where
  law := fun _ => callLaw_idle []
  distinct := fun _ _ busy => absurd rfl busy
  reading := fun _ alive => absurd rfl alive
  unopened := fun _ _ => rfl

/-! ## Small changes -/

/-- The flags of the client do not matter. -/
theorem Correlated.congr (correlated : Correlated client) (pending : other.pending = client.pending)
    (calls : other.calls = client.calls) (readers : other.readers = client.readers)
    (drains : other.drains = client.drains) (issued : other.issued = client.issued)
    (connections : other.nextConnection = client.nextConnection) : Correlated other := by
  rcases client with ⟨_, _, _, _, _, _, _, _, _, _, _, _⟩
  rcases other with ⟨_, _, _, _, _, _, _, _, _, _, _, _⟩
  dsimp only at pending calls readers drains issued connections
  subst pending calls readers drains issued connections
  refine ⟨?_, correlated.distinct, correlated.reading, correlated.unopened⟩
  intro call
  have law := correlated.law call
  exact ⟨law.tabled, law.fresh, law.issued, law.answered, law.response, law.error, law.event,
    law.delivering, law.failing, law.owed, law.finished, law.callers⟩

theorem setCall_calls (client : RequestClient) (call other : Nat) (value : EngineCall) :
    (client.setCall call value).calls other =
      if other = call then value else client.calls other :=
  Function.update_apply _ _ _ _

theorem CallLaw.setCall {value changed : EngineCall} {changedCall : Nat}
    (law : client.CallLaw call value) : (client.setCall changedCall changed).CallLaw call value :=
  ⟨law.tabled, law.fresh, law.issued, law.answered, law.response, law.error, law.event,
    law.delivering, law.failing, law.owed, law.finished, law.callers⟩

variable {value : EngineCall}

/-- The record of a caller may change to any that is in order. -/
theorem Correlated.setCall (correlated : Correlated client)
    (law : client.CallLaw call value)
    (apart : ∀ other, other ≠ call → (client.calls other).phase ≠ .idle →
      (client.calls other).requestId ≠ value.requestId) :
    Correlated (client.setCall call value) where
  law := by
    intro holder
    rw [setCall_calls]
    split_ifs with same
    · rw [same]
      exact law.setCall
    · exact (correlated.law holder).setCall
  distinct := by
    intro first second
    rw [setCall_calls, setCall_calls]
    split_ifs with isFirst isSecond isSecond
    · exact fun _ _ _ => isFirst.trans isSecond.symm
    · exact fun _ busy same => absurd same.symm (apart second isSecond busy)
    · exact fun busy _ same => absurd same (apart first isFirst busy)
    · exact correlated.distinct first second
  reading := correlated.reading
  unopened := correlated.unopened

/-- A caller that keeps its identifier stays apart from the others. -/
theorem Correlated.apart (correlated : Correlated client)
    (busy : (client.calls call).phase ≠ .idle) (holder : Nat) (different : holder ≠ call)
    (holderBusy : (client.calls holder).phase ≠ .idle) :
    (client.calls holder).requestId ≠ (client.calls call).requestId :=
  fun same => different (correlated.distinct holder call holderBusy busy same)

/-- A caller goes on to another phase. -/
theorem Correlated.setPhase (correlated : Correlated client) {phase : RequestPhase}
    (busy : (client.calls call).phase ≠ .idle)
    (isFresh : phase.Fresh → (client.calls call).phase.Fresh)
    (isTabled : ∀ id, client.pending.get? id = some call → phase.Tabled)
    (ends : ∀ outcome, phase = .finished outcome → (client.calls call).Ends outcome)
    (drained : phase ≠ .disconnected → client.drains (.caller call) = none) :
    Correlated (client.setPhase call phase) := by
  have law := correlated.law call
  refine correlated.setCall ⟨?_, fun now => law.fresh (isFresh now), fun _ => law.issued busy,
    law.answered, law.response, law.error, law.event, law.delivering, law.failing, law.owed, ends,
    drained⟩ (correlated.apart busy)
  intro id found
  exact ⟨(law.tabled id found).1, (law.tabled id found).2.1, isTabled id found⟩

/-- A request may be taken out of the table. -/
theorem Correlated.erase (correlated : Correlated client) (id : String) :
    Correlated { client with pending := client.pending.erase id } := by
  refine ⟨?_, correlated.distinct, correlated.reading, correlated.unopened⟩
  intro call
  have law := correlated.law call
  refine ⟨?_, law.fresh, law.issued, law.answered, law.response, law.error, law.event,
    law.delivering, law.failing, law.owed, law.finished, law.callers⟩
  intro other found
  rw [Dict.get?_erase] at found
  split_ifs at found
  exact law.tabled other found

/-- Without the entry under its identifier, a caller is not in the table. -/
theorem Correlated.not_tabled_of_erase (correlated : Correlated client) (id : String) :
    (client.pending.erase (client.calls call).requestId).get? id ≠ some call := by
  intro found
  rw [Dict.get?_erase] at found
  split_ifs at found with same
  exact same ((correlated.law call).tabled id found).1.symm

variable {reader : Nat}

/-- A reader goes on. -/
theorem Correlated.setReader (correlated : Correlated client)
    {phase : ResponseReader}
    (opened : phase ≠ .ended →
      client.drains (.reader reader) = none ∧ reader < client.nextConnection)
    (holds : ∀ call reply, phase = .delivering call reply →
      (client.calls call).removal = some (.answered reply)) :
    Correlated (client.setReader reader phase) := by
  refine ⟨?_, correlated.distinct, ?_, correlated.unopened⟩
  · intro call
    have law := correlated.law call
    refine ⟨law.tabled, law.fresh, law.issued, law.answered, law.response, law.error, law.event,
      ?_, law.failing, law.owed, law.finished, law.callers⟩
    intro holder reply
    simp only [RequestClient.setReader, Function.update_apply]
    split_ifs
    · exact holds call reply
    · exact law.delivering holder reply
  · intro holder
    simp only [RequestClient.setReader, Function.update_apply]
    split_ifs with same
    · intro alive
      rw [same]
      exact opened alive
    · exact correlated.reading holder

/-- The workers that may begin to drain the table. -/
def MayDrain (client : RequestClient) : Worker → Prop
  | .caller call => (client.calls call).phase = .disconnected
  | .reader reader => client.readers reader = .ended ∧ reader < client.nextConnection
  | .lifecycle _ => True

variable {worker : Worker}

/-- A worker that fails no requests may begin to, and one that has failed all of
its requests is done. -/
theorem Correlated.setDrain (correlated : Correlated client)
    {draining : Option Draining} (may : draining ≠ none → client.MayDrain worker)
    (nothing : ∀ message remaining, client.drains worker = some (.failing message remaining) →
      remaining = [])
    (begins : ∀ message remaining, draining ≠ some (.failing message remaining)) :
    Correlated (client.setDrain worker draining) := by
  refine ⟨?_, correlated.distinct, ?_, ?_⟩
  · intro call
    have law := correlated.law call
    refine ⟨law.tabled, law.fresh, law.issued, law.answered, law.response, law.error, law.event,
      law.delivering, ?_, ?_, law.finished, ?_⟩
    · intro holder message remaining
      simp only [RequestClient.setDrain, Function.update_apply]
      split_ifs
      · exact fun held => absurd held (begins message remaining)
      · exact law.failing holder message remaining
    · intro message removed
      rcases law.owed message removed with done | ⟨holder, remaining, held, member⟩
      · exact Or.inl done
      · refine Or.inr ⟨holder, remaining, ?_, member⟩
        simp only [RequestClient.setDrain, Function.update_apply]
        split_ifs with same
        · rw [same] at held
          rw [nothing message remaining held] at member
          cases member
        · exact held
    · intro notDisconnected
      simp only [RequestClient.setDrain, Function.update_apply]
      split_ifs with same
      · cases draining with
        | none => rfl
        | some value =>
            have allowed := may (Option.some_ne_none value)
            rw [← same] at allowed
            exact absurd allowed notDisconnected
      · exact law.callers notDisconnected
  · intro reader alive
    have before := correlated.reading reader alive
    refine ⟨?_, before.2⟩
    simp only [RequestClient.setDrain, Function.update_apply]
    split_ifs with same
    · cases draining with
      | none => rfl
      | some value =>
          have allowed := may (Option.some_ne_none value)
          rw [← same] at allowed
          exact absurd allowed.1 alive
    · exact before.1
  · intro reader unopened
    simp only [RequestClient.setDrain, Function.update_apply]
    split_ifs with same
    · cases draining with
      | none => rfl
      | some value =>
          have allowed := may (Option.some_ne_none value)
          rw [← same] at allowed
          exact absurd unopened (Nat.not_le.mpr allowed.2)
    · exact correlated.unopened reader unopened

theorem Correlated.mark (correlated : Correlated client) (message : String)
    (may : client.MayDrain worker) (idle : client.drains worker = none) :
    Correlated (client.mark worker message) := by
  rw [RequestClient.mark]
  split_ifs
  · exact correlated
  · have flagged : Correlated { client with
        connectionState := .crashed, lastError := some message } :=
      correlated.congr rfl rfl rfl rfl rfl rfl
    refine flagged.setDrain (fun _ => ?_) ?_ ?_
    · cases worker with
      | caller call => exact may
      | reader reader => exact may
      | lifecycle thread => trivial
    · intro other remaining held
      exact absurd (idle.symm.trans held) (by simp)
    · intro other remaining impossible
      cases impossible

/-! ## The steps of a caller -/

theorem Correlated.refreshLiveness (correlated : Correlated client) (exited : Option String)
    (overdue : Bool) : Correlated (client.refreshLiveness exited overdue) ∧
      (client.refreshLiveness exited overdue).calls = client.calls ∧
      (client.refreshLiveness exited overdue).issued = client.issued := by
  have process : Correlated (client.checkProcess exited) ∧
      (client.checkProcess exited).calls = client.calls ∧
      (client.checkProcess exited).issued = client.issued := by
    unfold RequestClient.checkProcess
    split
    · split_ifs
      · exact ⟨correlated, rfl, rfl⟩
      · exact ⟨correlated.congr rfl rfl rfl rfl rfl rfl, rfl, rfl⟩
    · exact ⟨correlated, rfl, rfl⟩
  rw [RequestClient.refreshLiveness, RequestClient.checkHeartbeat]
  split_ifs
  · exact ⟨process.1.congr rfl rfl rfl rfl rfl rfl, process.2⟩
  · exact process

/-- A new request is refused with the error of the connection. -/
theorem entryPhase_finished {outcome : RequestOutcome}
    (refused : client.entryPhase = .finished outcome) :
    ∃ message, outcome = .raised (.runtimeError message) := by
  unfold RequestClient.entryPhase at refused
  split_ifs at refused
  · cases refused
    exact ⟨_, rfl⟩
  · split at refused
    · cases refused
      exact ⟨_, rfl⟩
    · cases refused
      exact ⟨_, rfl⟩
  · split at refused
    · cases refused
      exact ⟨_, rfl⟩
    · cases refused

/-- A new request with an identifier of its own. -/
theorem Correlated.begun (correlated : Correlated client) {requestId : String}
    (idle : (client.calls call).phase = .idle) (unused : requestId ∉ client.issued)
    (names : value.requestId = requestId) (untaken : value.removal = none)
    (empty : value.pending = ⟨false, none, none⟩)
    (ends : ∀ outcome, value.phase = .finished outcome → value.Ends outcome) :
    Correlated ({ client with issued := requestId :: client.issued }.setCall call value) := by
  have old := correlated.law call
  have isFresh : (client.calls call).phase.Fresh := by
    rw [idle]
    trivial
  have wasUntaken := (old.fresh isFresh).1
  have issued : Correlated { client with issued := requestId :: client.issued } := by
    refine ⟨?_, correlated.distinct, correlated.reading, correlated.unopened⟩
    intro holder
    have law := correlated.law holder
    exact ⟨law.tabled, law.fresh, fun busy => List.mem_cons_of_mem _ (law.issued busy),
      law.answered, law.response, law.error, law.event, law.delivering, law.failing, law.owed,
      law.finished, law.callers⟩
  refine issued.setCall ⟨?_, fun _ => ⟨untaken, empty⟩, ?_, ?_, ?_, ?_, ?_, ?_, ?_, ?_, ends, ?_⟩ ?_
  · intro id found
    have impossible := (old.tabled id found).2.2
    rw [idle] at impossible
    exact impossible.elim
  · exact fun _ => names ▸ List.mem_cons_self
  · intro reply removed
    rw [untaken] at removed
    cases removed
  · intro reply stored
    rw [empty] at stored
    cases stored
  · intro message stored
    rw [empty] at stored
    cases stored
  · intro set
    rw [empty] at set
    cases set
  · intro reader reply held
    have taken := old.delivering reader reply held
    rw [wasUntaken] at taken
    cases taken
  · intro worker message remaining held member
    have taken := old.failing worker message remaining held member
    rw [wasUntaken] at taken
    cases taken
  · intro message removed
    rw [untaken] at removed
    cases removed
  · intro _
    refine old.callers ?_
    rw [idle]
    rintro ⟨⟩
  · intro holder _ busy same
    rw [names] at same
    exact unused (same ▸ (correlated.law holder).issued busy)

theorem correlated_begin (correlated : Correlated client)
    {requestId commandName responseType : String} {exited : Option String} {overdue : Bool}
    (taken : client.begin call requestId commandName responseType exited overdue = some other) :
    Correlated other := by
  rw [RequestClient.begin] at taken
  split_ifs at taken with allowed
  cases taken
  rcases correlated.refreshLiveness exited overdue with ⟨live, calls, issued⟩
  refine live.begun ?_ ?_ rfl rfl rfl ?_
  · rw [calls]
    exact allowed.1
  · rw [issued]
    exact allowed.2
  · exact fun outcome refused => Or.inr (Or.inr (entryPhase_finished refused))

/-- A caller puts its request into the table. -/
theorem correlated_register (correlated : Correlated client)
    (taken : client.register call = some other) : Correlated other := by
  rw [RequestClient.register] at taken
  cases phase : (client.calls call).phase with
  | checked connection =>
      rw [phase] at taken
      cases taken
      have old := correlated.law call
      have isFresh : (client.calls call).phase.Fresh := by
        rw [phase]
        trivial
      have moved : Correlated (client.setPhase call (.registered connection)) := by
        refine correlated.setPhase ?_ False.elim (fun _ _ => trivial) ?_ ?_
        · rw [phase]
          rintro ⟨⟩
        · rintro outcome ⟨⟩
        · intro _
          refine old.callers ?_
          rw [phase]
          rintro ⟨⟩
      refine ⟨?_, moved.distinct, moved.reading, moved.unopened⟩
      intro holder
      have law := moved.law holder
      refine ⟨?_, law.fresh, law.issued, law.answered, law.response, law.error, law.event,
        law.delivering, law.failing, law.owed, law.finished, law.callers⟩
      intro id found
      have entered : (client.pending.insert (client.calls call).requestId call).get? id =
        some holder := found
      rw [Dict.get?_insert] at entered
      split_ifs at entered with same
      · cases entered
        have value := (setCall_calls client call call
          { client.calls call with phase := .registered connection }).trans (if_pos rfl)
        refine ⟨(congrArg EngineCall.requestId value).trans same.symm,
          (congrArg EngineCall.removal value).trans (old.fresh isFresh).1, ?_⟩
        have nowRegistered := congrArg EngineCall.phase value
        exact nowRegistered ▸ trivial
      · exact law.tabled id entered
  | _ =>
      rw [phase] at taken
      cases taken

/-- No send raises an exception that its caller does not handle. -/
def HandlesSend (_ : RequestClient) : RequestAction → Prop
  | .send _ (some (.other _)) => False
  | _ => True

variable (correlated : Correlated client)
include correlated

theorem correlated_send {failure : Option SendFailure}
    (handled : client.HandlesSend (.send call failure))
    (taken : client.send call failure = some other) : Correlated other := by
  rw [RequestClient.send] at taken
  cases phase : (client.calls call).phase with
  | registered connection =>
      rw [phase] at taken
      have old := correlated.law call
      have moves : ∀ next : RequestPhase, next.Tabled → ¬ next.Fresh →
          (∀ outcome, next ≠ .finished outcome) → next ≠ .disconnected →
            Correlated (client.setPhase call next) := by
        intro next isTabled notFresh notFinished _
        refine correlated.setPhase ?_ (fun fresh => absurd fresh notFresh) (fun _ _ => isTabled)
          (fun outcome ended => absurd ended (notFinished outcome)) ?_
        · rw [phase]
          rintro ⟨⟩
        · intro _
          refine old.callers ?_
          rw [phase]
          rintro ⟨⟩
      cases failure with
      | none =>
          dsimp only at taken
          split_ifs at taken
          cases taken
          exact moves .waiting trivial id (fun _ => by rintro ⟨⟩) (by rintro ⟨⟩)
      | some failure =>
          cases taken
          cases failure with
          | other error => exact handled.elim
          | _ => exact moves (.sendFailed _) trivial id (fun _ => by rintro ⟨⟩) (by rintro ⟨⟩)
  | _ =>
      rw [phase] at taken
      cases taken

/-- A caller whose request is no longer in the table goes on, or whose request
may stay there. -/
theorem Correlated.advance {before phase : RequestPhase}
    (now : (client.calls call).phase = before) (wasBusy : before ≠ .idle)
    (wasAlone : before ≠ .disconnected) (notFresh : ¬ phase.Fresh)
    (isTabled : before.Tabled → phase.Tabled)
    (ends : ∀ outcome, phase = .finished outcome → (client.calls call).Ends outcome) :
    Correlated (client.setPhase call phase) := by
  have old := correlated.law call
  refine correlated.setPhase (by rw [now]; exact wasBusy) (fun fresh => absurd fresh notFresh)
    ?_ ends ?_
  · intro id found
    exact isTabled (now ▸ (old.tabled id found).2.2)
  · intro _
    exact old.callers (by rw [now]; exact wasAlone)

theorem correlated_deregister (taken : client.deregister call = some other) : Correlated other := by
  rw [RequestClient.deregister] at taken
  have erased := correlated.erase (client.calls call).requestId
  have gone := fun id => @Correlated.not_tabled_of_erase client call correlated id
  have old := correlated.law call
  have leaves : ∀ before phase : RequestPhase, (client.calls call).phase = before →
      before ≠ .idle → before ≠ .disconnected → ¬ phase.Fresh →
      (∀ outcome, phase ≠ .finished outcome) →
      Correlated ({ client with pending := client.pending.erase (client.calls call).requestId
        }.setPhase call phase) := by
    intro before phase now busy alone notFresh unfinished
    refine erased.setPhase (by rw [now]; exact busy) (fun fresh => absurd fresh notFresh)
      (fun id found => absurd found (gone id))
      (fun outcome ended => absurd ended (unfinished outcome))
      (fun _ => old.callers (by rw [now]; exact alone))
  cases phase : (client.calls call).phase with
  | sendFailed message =>
      rw [phase] at taken
      cases taken
      exact leaves _ _ phase (by rintro ⟨⟩) (by rintro ⟨⟩) id (fun _ => by rintro ⟨⟩)
  | timedOut =>
      rw [phase] at taken
      cases taken
      exact leaves _ _ phase (by rintro ⟨⟩) (by rintro ⟨⟩) id (fun _ => by rintro ⟨⟩)
  | _ =>
      rw [phase] at taken
      cases taken

omit correlated in
theorem setPhase_mark (client : RequestClient) (worker : Worker) (message : String)
    (phase : RequestPhase) :
    (client.mark worker message).setPhase call phase =
      (client.setPhase call phase).mark worker message := by
  unfold RequestClient.mark
  split_ifs with early other other
  · rfl
  · exact absurd early other
  · exact absurd other early
  · rfl

omit correlated in
theorem setReader_mark (client : RequestClient) (worker : Worker) (message : String)
    (reader : Nat) (phase : ResponseReader) :
    (client.mark worker message).setReader reader phase =
      (client.setReader reader phase).mark worker message := by
  unfold RequestClient.mark
  split_ifs with early other other
  · rfl
  · exact absurd early other
  · exact absurd other early
  · rfl

theorem correlated_reportSend (taken : client.reportSend call = some other) : Correlated other := by
  rw [RequestClient.reportSend] at taken
  cases phase : (client.calls call).phase with
  | deregistered message =>
      rw [phase] at taken
      cases taken
      rw [setPhase_mark]
      have old := correlated.law call
      have idle := old.callers (by rw [phase]; rintro ⟨⟩)
      have moved : Correlated (client.setPhase call .disconnected) := by
        refine correlated.setPhase (by rw [phase]; rintro ⟨⟩) False.elim ?_ (by rintro _ ⟨⟩)
          (fun different => absurd rfl different)
        intro id found
        have tabled := (old.tabled id found).2.2
        rw [phase] at tabled
        exact tabled
      refine moved.mark _ ?_ idle
      exact congrArg EngineCall.phase ((setCall_calls client call call _).trans (if_pos rfl))
  | _ =>
      rw [phase] at taken
      cases taken

theorem correlated_raiseSend (taken : client.raiseSend call = some other) : Correlated other := by
  rw [RequestClient.raiseSend] at taken
  cases phase : (client.calls call).phase with
  | disconnected =>
      cases idle : client.drains (.caller call) with
      | none =>
          rw [phase, idle] at taken
          cases taken
          have old := correlated.law call
          refine correlated.setPhase (by rw [phase]; rintro ⟨⟩) False.elim ?_ ?_ (fun _ => idle)
          · intro id found
            have tabled := (old.tabled id found).2.2
            rw [phase] at tabled
            exact tabled
          · rintro outcome ⟨⟩
            exact Or.inr (Or.inr ⟨_, rfl⟩)
      | some draining =>
          rw [phase, idle] at taken
          cases taken
  | _ =>
      rw [phase] at taken
      cases taken

omit correlated in
/-- A caller that was woken up has its answer or its error. -/
theorem CallLaw.ends_conclude (law : client.CallLaw call value)
    (event : value.pending.event = true) : value.Ends value.conclude := by
  rw [EngineCall.conclude]
  cases failed : value.pending.error with
  | some message => exact Or.inr (Or.inr ⟨message, rfl⟩)
  | none =>
      cases answered : value.pending.response with
      | none =>
          rcases law.event event with given | raised
          · exact absurd answered given
          · exact absurd failed raised
      | some reply =>
          exact Or.inl ⟨reply, answered, law.answered reply (law.response reply answered), rfl⟩

omit correlated in
/-- A request that was woken up is no longer in the table. -/
theorem CallLaw.not_tabled_of_event (law : client.CallLaw call value)
    (event : value.pending.event = true) (id : String) : client.pending.get? id ≠ some call := by
  intro found
  have untaken := (law.tabled id found).2.1
  rcases law.event event with given | raised
  · rcases Option.ne_none_iff_exists'.mp given with ⟨reply, stored⟩
    rw [law.response reply stored] at untaken
    cases untaken
  · rcases Option.ne_none_iff_exists'.mp raised with ⟨message, stored⟩
    rw [law.error message stored] at untaken
    cases untaken

theorem correlated_wake (taken : client.wake call = some other) : Correlated other := by
  rw [RequestClient.wake] at taken
  cases phase : (client.calls call).phase with
  | waiting =>
      rw [phase] at taken
      dsimp only at taken
      split_ifs at taken with event
      cases taken
      have old := correlated.law call
      refine correlated.setPhase (by rw [phase]; rintro ⟨⟩) False.elim ?_ ?_ ?_
      · exact fun id found => absurd found (old.not_tabled_of_event event id)
      · rintro outcome ⟨⟩
        exact old.ends_conclude event
      · exact fun _ => old.callers (by rw [phase]; rintro ⟨⟩)
  | _ =>
      rw [phase] at taken
      cases taken

theorem correlated_expire (taken : client.expire call = some other) : Correlated other := by
  rw [RequestClient.expire] at taken
  cases phase : (client.calls call).phase with
  | waiting =>
      rw [phase] at taken
      dsimp only at taken
      split_ifs at taken
      cases taken
      exact correlated.advance phase (by rintro ⟨⟩) (by rintro ⟨⟩) id (fun _ => trivial)
        (by rintro _ ⟨⟩)
  | _ =>
      rw [phase] at taken
      cases taken

theorem correlated_reportTimeout
    (taken : client.reportTimeout call = some other) : Correlated other := by
  rw [RequestClient.reportTimeout] at taken
  cases phase : (client.calls call).phase with
  | expired =>
      rw [phase] at taken
      cases taken
      have moved : Correlated (client.setPhase call .reported) :=
        correlated.advance phase (by rintro ⟨⟩) (by rintro ⟨⟩) id id (by rintro _ ⟨⟩)
      exact moved.congr rfl rfl rfl rfl rfl rfl
  | _ =>
      rw [phase] at taken
      cases taken

theorem correlated_raiseTimeout
    (taken : client.raiseTimeout call = some other) : Correlated other := by
  rw [RequestClient.raiseTimeout] at taken
  cases phase : (client.calls call).phase with
  | reported =>
      rw [phase] at taken
      cases taken
      refine correlated.advance phase (by rintro ⟨⟩) (by rintro ⟨⟩) id id ?_
      rintro outcome ⟨⟩
      exact Or.inr (Or.inl ⟨_, rfl⟩)
  | _ =>
      rw [phase] at taken
      cases taken

/-! ## The steps of readers -/

/-- A reader that ends may fail the pending requests. -/
theorem Correlated.endsReader (message : String)
    (alive : client.readers reader = .reading) :
    Correlated ((client.mark (.reader reader) message).setReader reader .ended) := by
  rw [setReader_mark]
  have before := correlated.reading reader (by rw [alive]; rintro ⟨⟩)
  have ended : Correlated (client.setReader reader .ended) :=
    correlated.setReader (fun notEnded => absurd rfl notEnded) (by rintro _ _ ⟨⟩)
  exact ended.mark message ⟨Function.update_self .., before.2⟩ before.1

/-- A request that is taken out of the table for its answer. -/
theorem Correlated.answer {reply : Reply}
    (found : client.pending.get? reply.requestId = some call) :
    Correlated ({ client with pending := client.pending.erase reply.requestId }.setCall call
      { client.calls call with removal := some (.answered reply) }) := by
  have old := correlated.law call
  rcases old.tabled _ found with ⟨own, untaken, tabled⟩
  have busy : (client.calls call).phase ≠ .idle := by
    intro idle
    rw [idle] at tabled
    exact tabled
  have erased := correlated.erase reply.requestId
  refine erased.setCall ⟨?_, ?_, fun _ => old.issued busy, ?_, ?_, ?_, old.event, ?_, ?_, ?_, ?_,
    old.callers⟩ (correlated.apart busy)
  · intro id stays
    rw [← own] at stays
    exact absurd stays (correlated.not_tabled_of_erase id)
  · exact fun fresh => absurd fresh (RequestPhase.not_fresh_of_tabled tabled)
  · rintro given ⟨⟩
    exact own.symm
  · intro given stored
    have taken := old.response given stored
    rw [untaken] at taken
    cases taken
  · intro message stored
    have taken := old.error message stored
    rw [untaken] at taken
    cases taken
  · intro holder given held
    have taken := old.delivering holder given held
    rw [untaken] at taken
    cases taken
  · intro worker message remaining held member
    have taken := old.failing worker message remaining held member
    rw [untaken] at taken
    cases taken
  · rintro message ⟨⟩
  · intro outcome finished
    exact old.finished outcome finished

theorem correlated_receive {raw : RawResponse}
    (taken : client.receive reader raw = some other) : Correlated other := by
  rw [RequestClient.receive.eq_def] at taken
  cases alive : client.readers reader with
  | reading =>
      rw [alive] at taken
      dsimp only at taken
      cases raw with
      | unsupported typeName =>
          cases taken
          exact correlated.endsReader _ alive
      | reply reply =>
          dsimp only at taken
          split_ifs at taken
          · cases taken
            exact correlated.endsReader _ alive
          · cases found : client.pending.get? reply.requestId with
            | none =>
                rw [found] at taken
                cases taken
                exact correlated
            | some call =>
                rw [found] at taken
                cases taken
                have before := correlated.reading reader (by rw [alive]; rintro ⟨⟩)
                refine (correlated.answer found).setReader (fun _ => before) ?_
                rintro holder given ⟨⟩
                exact congrArg EngineCall.removal
                  ((setCall_calls _ call call _).trans (if_pos rfl))
  | _ =>
      rw [alive] at taken
      cases taken

theorem correlated_deliver (taken : client.deliver reader = some other) : Correlated other := by
  rw [RequestClient.deliver] at taken
  cases holds : client.readers reader with
  | delivering call reply =>
      rw [holds] at taken
      cases taken
      have old := correlated.law call
      have removed := old.delivering reader reply holds
      have before := correlated.reading reader (by rw [holds]; rintro ⟨⟩)
      have busy : ¬ (client.calls call).phase.Fresh := by
        intro fresh
        have untaken := (old.fresh fresh).1
        rw [removed] at untaken
        cases untaken
      have started : (client.calls call).phase ≠ .idle := by
        intro idle
        rw [idle] at busy
        exact busy trivial
      have given : Correlated (client.setCall call { client.calls call with
          pending :=
            { (client.calls call).pending with response := some reply, event := true } }) := by
        refine correlated.setCall ⟨old.tabled, fun fresh => absurd fresh busy,
          fun _ => old.issued started, old.answered, ?_, old.error, fun _ => Or.inl (by rintro ⟨⟩),
          old.delivering, old.failing, ?_, ?_, old.callers⟩ (correlated.apart started)
        · rintro same ⟨⟩
          exact removed
        · intro message failed
          dsimp only at failed
          rw [removed] at failed
          cases failed
        · intro outcome finished
          rcases old.finished outcome finished with ⟨first, stored, own, isOutcome⟩ | late
          · have same := old.response first stored
            rw [removed] at same
            cases same
            exact Or.inl ⟨reply, rfl, own, isOutcome⟩
          · exact Or.inr late
      exact given.setReader (fun _ => before) (by rintro _ _ ⟨⟩)
  | _ =>
      rw [holds] at taken
      cases taken

variable {message : String}

theorem correlated_endReader
    (taken : client.endReader reader message = some other) : Correlated other := by
  rw [RequestClient.endReader] at taken
  cases alive : client.readers reader with
  | reading =>
      rw [alive] at taken
      cases taken
      exact correlated.endsReader _ alive
  | _ =>
      rw [alive] at taken
      cases taken

/-! ## The steps of workers -/

theorem correlated_dispose {thread : Nat}
    (taken : client.dispose thread = some other) : Correlated other := by
  rw [RequestClient.dispose] at taken
  cases idle : client.drains (.lifecycle thread) with
  | none =>
      rw [idle] at taken
      cases taken
      have flagged : Correlated { client with
          readerStop := true
          connection := none
          openConnections := client.openConnections.filter
            (fun connection => decide (client.connection ≠ some connection)) } :=
        correlated.congr rfl rfl rfl rfl rfl rfl
      refine flagged.setDrain (fun _ => trivial) ?_ (by rintro _ _ ⟨⟩)
      intro message remaining held
      exact absurd (idle.symm.trans held) (by simp)
  | some draining =>
      rw [idle] at taken
      cases taken

omit correlated in
/-- The drained requests are those of the table. -/
theorem mem_drained :
    (∃ id, client.pending.get? id = some call) ↔ call ∈ client.pending.entries.map Prod.snd := by
  constructor
  · rintro ⟨id, found⟩
    exact List.mem_map.mpr ⟨(id, call), Dict.mem_of_get? found, rfl⟩
  · intro member
    rcases List.mem_map.mp member with ⟨⟨id, holder⟩, listed, rfl⟩
    exact ⟨id, Dict.get?_of_mem listed⟩

omit correlated in
/-- A worker that goes on with its drain leaves the idle ones idle. -/
theorem idle_setDrain {worker holder : Worker} (draining : Draining) {before : Draining}
    (busy : client.drains worker = some before)
    (idle : client.drains holder = none) :
    (client.setDrain worker (some draining)).drains holder = none := by
  simp only [RequestClient.setDrain, Function.update_apply]
  split_ifs with same
  · rw [same, busy] at idle
    cases idle
  · exact idle

theorem correlated_drain (taken : client.drain worker = some other) : Correlated other := by
  rw [RequestClient.drain] at taken
  cases marked : client.drains worker with
  | none =>
      rw [marked] at taken
      cases taken
  | some draining =>
      cases draining with
      | failing message remaining =>
          rw [marked] at taken
          cases taken
      | marked message =>
          rw [marked] at taken
          cases taken
          have stays := fun (holder : Worker) (idle : client.drains holder = none) =>
            idle_setDrain (.failing message (client.pending.entries.map Prod.snd)) marked idle
          have elsewhere : ∀ holder text remaining,
              client.drains holder = some (.failing text remaining) → holder ≠ worker := by
            rintro holder text remaining held rfl
            rw [marked] at held
            cases held
          refine ⟨?_, ?_, fun reader alive => ⟨stays _ (correlated.reading reader alive).1,
            (correlated.reading reader alive).2⟩, fun reader opened =>
              stays _ (correlated.unopened reader opened)⟩
          · intro holder
            have old := correlated.law holder
            dsimp only [RequestClient.setDrain]
            split_ifs with member
            · rcases mem_drained.mpr member with ⟨id, found⟩
              rcases old.tabled id found with ⟨own, untaken, tabled⟩
              refine ⟨fun _ found => (by cases found), ?_, old.issued, fun _ => (by rintro ⟨⟩), ?_,
                ?_, old.event, ?_, ?_, ?_, old.finished, fun alone => stays _ (old.callers alone)⟩
              · exact fun fresh => absurd fresh (RequestPhase.not_fresh_of_tabled tabled)
              · intro reply stored
                rw [old.response reply stored] at untaken
                cases untaken
              · intro text stored
                rw [old.error text stored] at untaken
                cases untaken
              · intro reader reply held
                rw [old.delivering reader reply held] at untaken
                cases untaken
              · intro failing text remaining held inside
                simp only [Function.update_apply] at held
                split_ifs at held
                · cases held
                  rfl
                · rw [old.failing failing text remaining held inside] at untaken
                  cases untaken
              · rintro text ⟨⟩
                exact Or.inr ⟨worker, _, Function.update_self .., member⟩
            · refine ⟨fun _ found => (by cases found), old.fresh, old.issued, old.answered,
                old.response, old.error, old.event, old.delivering, ?_, ?_, old.finished,
                fun alone => stays _ (old.callers alone)⟩
              · intro failing text remaining held inside
                simp only [Function.update_apply] at held
                split_ifs at held
                · cases held
                  exact absurd inside member
                · exact old.failing failing text remaining held inside
              · intro text removed
                rcases old.owed text removed with done | ⟨failing, remaining, held, inside⟩
                · exact Or.inl done
                · refine Or.inr ⟨failing, remaining, ?_, inside⟩
                  exact
                    (Function.update_of_ne (elsewhere failing text remaining held) _ _).trans held
          · intro first second firstBusy secondBusy same
            have phases : ∀ holder, ((if holder ∈ client.pending.entries.map Prod.snd then
                { client.calls holder with removal := some (.failed message) }
                else client.calls holder) : EngineCall).phase = (client.calls holder).phase ∧
                ((if holder ∈ client.pending.entries.map Prod.snd then
                { client.calls holder with removal := some (.failed message) }
                else client.calls holder) : EngineCall).requestId =
                  (client.calls holder).requestId := by
              intro holder
              split_ifs
              · exact ⟨rfl, rfl⟩
              · exact ⟨rfl, rfl⟩
            dsimp only [RequestClient.setDrain] at firstBusy secondBusy same
            rw [(phases first).1] at firstBusy
            rw [(phases second).1] at secondBusy
            rw [(phases first).2, (phases second).2] at same
            exact correlated.distinct first second firstBusy secondBusy same

theorem correlated_failNext (taken : client.failNext worker = some other) : Correlated other := by
  rw [RequestClient.failNext.eq_def] at taken
  cases held : client.drains worker with
  | none =>
      rw [held] at taken
      cases taken
  | some draining =>
      rw [held] at taken
      cases draining with
      | marked message => cases taken
      | failing message remaining =>
          cases remaining with
          | nil =>
              cases taken
              refine correlated.setDrain (fun some => absurd rfl some) ?_ (by rintro _ _ ⟨⟩)
              intro text remaining same
              rw [held] at same
              cases same
              rfl
          | cons call rest =>
              cases taken
              have old := correlated.law call
              have removed := old.failing worker message _ held List.mem_cons_self
              have notFresh : ¬ (client.calls call).phase.Fresh := by
                intro fresh
                have untaken := (old.fresh fresh).1
                rw [removed] at untaken
                cases untaken
              have started : (client.calls call).phase ≠ .idle := by
                intro idle
                rw [idle] at notFresh
                exact notFresh trivial
              have failed : Correlated (client.setCall call { client.calls call with pending :=
                  { (client.calls call).pending with error := some message, event := true } }) := by
                refine correlated.setCall ⟨old.tabled, fun fresh => absurd fresh notFresh,
                  fun _ => old.issued started, old.answered, old.response, ?_,
                  fun _ => Or.inr (by rintro ⟨⟩), old.delivering, old.failing, ?_, old.finished,
                  old.callers⟩ (correlated.apart started)
                · rintro text ⟨⟩
                  exact removed
                · intro text same
                  have equal := Option.some.inj (removed.symm.trans same)
                  cases equal
                  exact Or.inl ⟨rfl, rfl⟩
              have stays := fun (holder : Worker) (idle : client.drains holder = none) =>
                idle_setDrain (.failing message rest) held idle
              refine ⟨?_, failed.distinct, fun reader alive => ⟨stays _ (correlated.reading reader
                alive).1, (correlated.reading reader alive).2⟩, fun reader opened =>
                  stays _ (correlated.unopened reader opened)⟩
              intro holder
              have law := failed.law holder
              refine ⟨law.tabled, law.fresh, law.issued, law.answered, law.response, law.error,
                law.event, law.delivering, ?_, ?_, law.finished,
                fun alone => stays _ (law.callers alone)⟩
              · intro failing text remaining now inside
                simp only [RequestClient.setDrain, Function.update_apply] at now
                split_ifs at now
                · cases now
                  exact law.failing worker message _ held (List.mem_cons_of_mem _ inside)
                · exact law.failing failing text remaining now inside
              · intro text taken
                rcases law.owed text taken with done | ⟨failing, remaining, now, inside⟩
                · exact Or.inl done
                · by_cases same : failing = worker
                  · subst same
                    have equal := Option.some.inj (held.symm.trans now)
                    cases equal
                    rcases List.mem_cons.mp inside with isCall | later
                    · rw [isCall]
                      have value := (setCall_calls client call call { client.calls call with
                        pending := { (client.calls call).pending with
                          error := some message, event := true } }).trans (if_pos rfl)
                      exact Or.inl ⟨congrArg (fun record => record.pending.error) value,
                        congrArg (fun record => record.pending.event) value⟩
                    · exact Or.inr ⟨failing, rest, Function.update_self .., later⟩
                  · exact Or.inr ⟨failing, remaining, (Function.update_of_ne same _ _).trans now,
                      inside⟩

/-! ## Every run -/

theorem correlated_start (taken : client.start = some other) :
    Correlated other := by
  rw [RequestClient.start] at taken
  split_ifs at taken
  cases taken
  have opened : Correlated { client with
      connectionState := .starting
      lastError := none
      readerStop := false
      connection := some client.nextConnection
      openConnections := client.nextConnection :: client.openConnections
      nextConnection := client.nextConnection + 1 } := by
    refine ⟨?_, correlated.distinct, ?_, ?_⟩
    · intro call
      have law := correlated.law call
      exact ⟨law.tabled, law.fresh, law.issued, law.answered, law.response, law.error, law.event,
        law.delivering, law.failing, law.owed, law.finished, law.callers⟩
    · intro reader alive
      have before := correlated.reading reader alive
      exact ⟨before.1, Nat.lt_succ_of_lt before.2⟩
    · exact fun reader unopened => correlated.unopened reader (Nat.le_of_succ_le unopened)
  refine opened.setReader (fun _ => ⟨?_, Nat.lt_succ_self _⟩) (by rintro _ _ ⟨⟩)
  exact correlated.unopened client.nextConnection le_rfl

theorem correlated_lifecycle (change : LifecycleChange) :
    Correlated (change.apply client) := by
  cases change with
  | heartbeat =>
      rw [LifecycleChange.apply]
      split_ifs
      · exact correlated.congr rfl rfl rfl rfl rfl rfl
      · exact correlated
  | crashed message =>
      rw [LifecycleChange.apply]
      split_ifs
      · exact correlated
      · exact correlated.congr rfl rfl rfl rfl rfl rfl
  | restarting =>
      rw [LifecycleChange.apply]
      split_ifs
      · exact correlated
      · exact correlated.congr rfl rfl rfl rfl rfl rfl
  | _ => exact correlated.congr rfl rfl rfl rfl rfl rfl

omit correlated

theorem correlated_step (client : RequestClient) (action : RequestAction) (other : RequestClient)
    (correlated : Correlated client) (handles : client.HandlesSend action)
    (taken : client.step action = some other) : Correlated other := by
  cases action with
  | begin call requestId commandName responseType exited overdue =>
      exact correlated_begin correlated taken
  | register call => exact correlated_register correlated taken
  | send call failure => exact correlated_send correlated handles taken
  | deregister call => exact correlated_deregister correlated taken
  | reportSend call => exact correlated_reportSend correlated taken
  | raiseSend call => exact correlated_raiseSend correlated taken
  | wake call => exact correlated_wake correlated taken
  | expire call => exact correlated_expire correlated taken
  | reportTimeout call => exact correlated_reportTimeout correlated taken
  | raiseTimeout call => exact correlated_raiseTimeout correlated taken
  | receive reader raw => exact correlated_receive correlated taken
  | deliver reader => exact correlated_deliver correlated taken
  | endReader reader message => exact correlated_endReader correlated taken
  | dispose thread => exact correlated_dispose correlated taken
  | drain worker => exact correlated_drain correlated taken
  | failNext worker => exact correlated_failNext correlated taken
  | start => exact correlated_start correlated taken
  | lifecycle change =>
      cases taken
      exact correlated_lifecycle correlated change

/-! ## Waking the failed callers -/

/-- The caller was failed and woken up. -/
def Woken (client : RequestClient) (message : String) (call : Nat) : Prop :=
  (client.calls call).pending.error = some message ∧ (client.calls call).pending.event = true

/-- A worker that fails requests fails all of them and goes on. -/
theorem failNext_run {remaining : List Nat}
    (held : client.drains worker = some (.failing message remaining)) :
    ∃ next, run step client (List.replicate (remaining.length + 1) (.failNext worker)) = some next ∧
      next.drains worker = none ∧
      (∀ call, (next.calls call).phase = (client.calls call).phase) ∧
      ∀ call, call ∈ remaining ∨ client.Woken message call → next.Woken message call := by
  induction remaining generalizing client with
  | nil =>
      refine ⟨client.setDrain worker none, run_cons_eq_some.mpr ⟨_, ?_, rfl⟩,
        Function.update_self .., fun _ => rfl, ?_⟩
      · simp only [step, failNext, held]
      · rintro call (impossible | woken)
        · cases impossible
        · exact woken
  | cons first rest ih =>
      let failed := (client.setCall first { client.calls first with pending :=
        { (client.calls first).pending with error := some message, event := true } }).setDrain
          worker (some (.failing message rest))
      have taken : client.step (.failNext worker) = some failed := by
        simp only [step, failNext, held, failed]
      have calls : ∀ call, failed.calls call = if call = first then
          { client.calls first with pending :=
            { (client.calls first).pending with error := some message, event := true } }
          else client.calls call :=
        fun call => setCall_calls client first call _
      have onward : failed.drains worker = some (.failing message rest) := Function.update_self ..
      rcases ih onward with
        ⟨next, reached, idle, phases, woken⟩
      refine ⟨next, run_cons_eq_some.mpr ⟨failed, taken, reached⟩, idle, ?_, ?_⟩
      · intro call
        rw [phases call, calls call]
        split_ifs with same
        · rw [same]
        · rfl
      · intro call member
        refine woken call ?_
        by_cases same : call = first
        · right
          rw [Woken, calls call, if_pos same]
          exact ⟨rfl, rfl⟩
        · rcases member with listed | before
          · exact Or.inl ((List.mem_cons.mp listed).resolve_left same)
          · right
            rw [Woken, calls call, if_neg same]
            exact before

/-! ## Every request can finish -/

/-- The steps of a caller. -/
def ByCaller (call : Nat) : RequestAction → Prop
  | .register caller => caller = call
  | .send caller _ => caller = call
  | .deregister caller => caller = call
  | .reportSend caller => caller = call
  | .raiseSend caller => caller = call
  | .wake caller => caller = call
  | .expire caller => caller = call
  | .reportTimeout caller => caller = call
  | .raiseTimeout caller => caller = call
  | .drain worker => worker = .caller call
  | .failNext worker => worker = .caller call
  | _ => False

/-- A caller finishes by steps of its own. -/
def Finishes (client : RequestClient) (call : Nat) : Prop :=
  ∃ actions, (∀ action ∈ actions, ByCaller call action) ∧
    ∃ next outcome, run step client actions = some next ∧
      (next.calls call).phase = .finished outcome

theorem Finishes.cons {action : RequestAction} (finishes : Finishes other call)
    (taken : client.step action = some other) (own : ByCaller call action) :
    Finishes client call := by
  rcases finishes with ⟨actions, allOwn, next, outcome, reached, finished⟩
  refine ⟨action :: actions, ?_, next, outcome, run_cons_eq_some.mpr ⟨other, taken, reached⟩,
    finished⟩
  intro chosen member
  rcases List.mem_cons.mp member with same | later
  · exact same ▸ own
  · exact allOwn chosen later

theorem finishes_of_finished {outcome : RequestOutcome}
    (finished : (client.calls call).phase = .finished outcome) : Finishes client call :=
  ⟨[], fun _ member => (by cases member), client, outcome, rfl, finished⟩

theorem setPhase_phase (client : RequestClient) (call : Nat) (phase : RequestPhase) :
    ((client.setPhase call phase).calls call).phase = phase :=
  congrArg EngineCall.phase ((setCall_calls client call call _).trans (if_pos rfl))

theorem finishes_of_reported (phase : (client.calls call).phase = .reported) :
    Finishes client call := by
  have taken : client.step (.raiseTimeout call) = some (client.setPhase call
      (.finished (.raised (.timeoutError (client.lastError.getD "None"))))) := by
    simp only [step, raiseTimeout, phase]
  exact (finishes_of_finished (setPhase_phase client call _)).cons taken rfl

theorem finishes_of_expired (phase : (client.calls call).phase = .expired) :
    Finishes client call := by
  rcases reached : client.reportTimeout call with _ | next
  · simp only [reportTimeout, phase] at reached
    cases reached
  · have taken : client.step (.reportTimeout call) = some next := reached
    simp only [reportTimeout, phase, Option.some.injEq] at reached
    refine (finishes_of_reported ?_).cons taken rfl
    rw [← reached]
    exact setPhase_phase _ call .reported

theorem finishes_of_timedOut (phase : (client.calls call).phase = .timedOut) :
    Finishes client call := by
  rcases reached : client.deregister call with _ | next
  · simp only [deregister, phase] at reached
    cases reached
  · have taken : client.step (.deregister call) = some next := reached
    simp only [deregister, phase, Option.some.injEq] at reached
    refine (finishes_of_expired ?_).cons taken rfl
    rw [← reached]
    exact setPhase_phase _ call .expired

theorem finishes_of_waiting (phase : (client.calls call).phase = .waiting) :
    Finishes client call := by
  by_cases event : (client.calls call).pending.event = true
  · have taken : client.step (.wake call) = some (client.setPhase call
        (.finished (client.calls call).conclude)) := by
      simp only [step, wake, phase, event, if_true]
    exact (finishes_of_finished (setPhase_phase client call _)).cons taken rfl
  · have taken : client.step (.expire call) = some (client.setPhase call .timedOut) := by
      simp only [step, expire, phase, event, if_false, Bool.false_eq_true]
    exact (finishes_of_timedOut (setPhase_phase client call .timedOut)).cons taken rfl

/-- A caller that has marked the client fails the others before it raises. -/
theorem finishes_of_disconnected (phase : (client.calls call).phase = .disconnected) :
    Finishes client call := by
  have raises : ∀ client : RequestClient, (client.calls call).phase = .disconnected →
      client.drains (.caller call) = none → Finishes client call := by
    intro client phase idle
    have taken : client.step (.raiseSend call) = some (client.setPhase call
        (.finished (.raised (.runtimeError "Engine process disconnected")))) := by
      simp only [step, raiseSend, phase, idle]
    exact (finishes_of_finished (setPhase_phase client call _)).cons taken rfl
  have fails : ∀ client : RequestClient, (client.calls call).phase = .disconnected →
      ∀ message remaining, client.drains (.caller call) = some (.failing message remaining) →
        Finishes client call := by
    intro client phase message remaining held
    rcases failNext_run held with ⟨next, reached, idle, phases, _⟩
    rcases raises next ((phases call).trans phase) idle with
      ⟨actions, own, final, outcome, onward, finished⟩
    refine ⟨_, ?_, final, outcome, run_append_eq_some.mpr ⟨next, reached, onward⟩, finished⟩
    intro action member
    rcases List.mem_append.mp member with first | later
    · rw [List.eq_of_mem_replicate first]
      rfl
    · exact own action later
  cases draining : client.drains (.caller call) with
  | none => exact raises client phase draining
  | some drain =>
      cases drain with
      | failing message remaining => exact fails client phase message remaining draining
      | marked message =>
          rcases reached : client.drain (.caller call) with _ | next
          · simp only [RequestClient.drain, draining] at reached
            cases reached
          · have taken : client.step (.drain (.caller call)) = some next := reached
            simp only [RequestClient.drain, draining, Option.some.injEq] at reached
            refine (fails next ?_ message (client.pending.entries.map Prod.snd) ?_).cons taken rfl
            · rw [← reached]
              dsimp only [RequestClient.setDrain]
              split_ifs
              · exact phase
              · exact phase
            · rw [← reached]
              exact Function.update_self ..

theorem finishes_of_deregistered
    (phase : (client.calls call).phase = .deregistered message) : Finishes client call := by
  have taken : client.step (.reportSend call) = some ((client.mark (.caller call)
      ("Engine command send failed: " ++ message)).setPhase call .disconnected) := by
    simp only [step, reportSend, phase]
  exact (finishes_of_disconnected (setPhase_phase _ call .disconnected)).cons taken rfl

theorem finishes_of_sendFailed
    (phase : (client.calls call).phase = .sendFailed message) : Finishes client call := by
  rcases reached : client.deregister call with _ | next
  · simp only [deregister, phase] at reached
    cases reached
  · have taken : client.step (.deregister call) = some next := reached
    simp only [deregister, phase, Option.some.injEq] at reached
    have onward : (next.calls call).phase = .deregistered message := by
      rw [← reached]
      exact setPhase_phase _ call (.deregistered message)
    exact (finishes_of_deregistered onward).cons taken rfl

/-- However the send of a registered request returns, its caller finishes. -/
theorem finishes_of_registered {connection : Nat}
    (phase : (client.calls call).phase = .registered connection) : Finishes client call := by
  have taken : client.step (.send call (some (.osError ""))) =
      some (client.setPhase call (.sendFailed "")) := by
    simp only [step, send, phase, SendFailure.phase]
  exact (finishes_of_sendFailed (setPhase_phase client call (.sendFailed ""))).cons taken rfl

theorem finishes_of_checked {connection : Nat}
    (phase : (client.calls call).phase = .checked connection) : Finishes client call := by
  rcases reached : client.register call with _ | next
  · simp only [register, phase] at reached
    cases reached
  · have taken : client.step (.register call) = some next := reached
    simp only [register, phase, Option.some.injEq] at reached
    have onward : (next.calls call).phase = .registered connection := by
      rw [← reached]
      exact setPhase_phase _ call (.registered connection)
    exact (finishes_of_registered onward).cons taken rfl

/-- No caller that has begun waits for another thread for ever. -/
theorem finishes_of_begun (begun : (client.calls call).phase ≠ .idle) : Finishes client call := by
  cases phase : (client.calls call).phase with
  | idle => exact absurd phase begun
  | checked connection => exact finishes_of_checked phase
  | registered connection => exact finishes_of_registered phase
  | waiting => exact finishes_of_waiting phase
  | sendFailed message => exact finishes_of_sendFailed phase
  | deregistered message => exact finishes_of_deregistered phase
  | disconnected => exact finishes_of_disconnected phase
  | timedOut => exact finishes_of_timedOut phase
  | expired => exact finishes_of_expired phase
  | reported => exact finishes_of_reported phase
  | finished outcome => exact finishes_of_finished phase

/-! ## What holds in every state -/

/-- Requests and answers belong together, no finished request stays registered,
and whoever drains the table fails every request in it. -/
structure CorrelatesRequests (client : RequestClient) : Prop where
  ends : ∀ call outcome, (client.calls call).phase = .finished outcome →
    (client.calls call).Ends outcome
  own : ∀ call reply, (client.calls call).pending.response = some reply →
    reply.requestId = (client.calls call).requestId
  once : ∀ first second reply, (client.calls first).pending.response = some reply →
    (client.calls second).pending.response = some reply → first = second
  unregistered : ∀ id call, client.pending.get? id = some call →
    (∀ outcome, (client.calls call).phase ≠ .finished outcome) ∧
      (client.calls call).phase ≠ .expired ∧ (client.calls call).phase ≠ .reported
  drained : ∀ worker next, client.drain worker = some next →
    ∀ id call, client.pending.get? id = some call →
      ∃ message, (next.calls call).removal = some (.failed message)
  failed : ∀ call message, (client.calls call).removal = some (.failed message) →
    client.Woken message call ∨ ∃ worker next, (∃ count,
      run step client (List.replicate count (.failNext worker)) = some next) ∧
        next.Woken message call
  failedEnds : ∀ call message outcome, (client.calls call).removal = some (.failed message) →
    (client.calls call).phase = .finished outcome →
      (∃ text, outcome = .raised (.timeoutError text)) ∨
        ∃ text, outcome = .raised (.runtimeError text)
  finishes : ∀ call, (client.calls call).phase ≠ .idle → Finishes client call

theorem drain_removal (taken : client.drain worker = some other) {id : String}
    (found : client.pending.get? id = some call) :
    ∃ message, (other.calls call).removal = some (.failed message) := by
  rw [RequestClient.drain] at taken
  cases marked : client.drains worker with
  | none =>
      rw [marked] at taken
      cases taken
  | some draining =>
      cases draining with
      | failing message remaining =>
          rw [marked] at taken
          cases taken
      | marked message =>
          rw [marked] at taken
          cases taken
          refine ⟨message, ?_⟩
          have member := mem_drained.mp ⟨id, found⟩
          exact congrArg EngineCall.removal (if_pos member)

theorem Correlated.correlates (correlated : Correlated client) : client.CorrelatesRequests where
  ends := fun call => (correlated.law call).finished
  own := fun call reply stored =>
    (correlated.law call).answered reply ((correlated.law call).response reply stored)
  once := by
    intro first second reply inFirst inSecond
    have busy : ∀ call, (client.calls call).pending.response = some reply →
        (client.calls call).phase ≠ .idle := by
      intro call stored idle
      have isFresh : (client.calls call).phase.Fresh := by
        rw [idle]
        trivial
      rw [((correlated.law call).fresh isFresh).2] at stored
      cases stored
    have owns : ∀ call, (client.calls call).pending.response = some reply →
        reply.requestId = (client.calls call).requestId := fun call stored =>
      (correlated.law call).answered reply ((correlated.law call).response reply stored)
    exact correlated.distinct first second (busy first inFirst) (busy second inSecond)
      ((owns first inFirst).symm.trans (owns second inSecond))
  unregistered := by
    intro id call found
    have tabled := ((correlated.law call).tabled id found).2.2
    refine ⟨?_, ?_, ?_⟩
    · intro outcome phase
      rw [phase] at tabled
      exact tabled
    · intro phase
      rw [phase] at tabled
      exact tabled
    · intro phase
      rw [phase] at tabled
      exact tabled
  drained := fun _ _ taken _ _ found => drain_removal taken found
  failed := by
    intro call message removed
    rcases (correlated.law call).owed message removed with done | ⟨worker, remaining, held, member⟩
    · exact Or.inl done
    · rcases failNext_run held with ⟨next, reached, _, _, woken⟩
      exact Or.inr ⟨worker, next, ⟨_, reached⟩, woken call (Or.inl member)⟩
  failedEnds := by
    intro call message outcome removed phase
    rcases (correlated.law call).finished outcome phase with ⟨reply, stored, _⟩ | late | cut
    · rw [(correlated.law call).response reply stored] at removed
      cases removed
    · exact Or.inl late
    · exact Or.inr cut
  finishes := fun _ begun => finishes_of_begun begun

/-- In every interleaving in which all exceptions of sends are handled, requests
and answers belong together. -/
theorem requests_correlate {actions : List RequestAction} {client : RequestClient}
    (handles : Meets step HandlesSend initial actions)
    (reached : run step initial actions = some client) : client.CorrelatesRequests :=
  (run_invariant correlated_step correlated_initial handles reached).correlates

/-! ## An exception that is not handled -/

/-- Two requests, one of which is answered after the other one has timed out,
and a third that waits when the channel closes: the reader drains the table. -/
def lateAnswer : List RequestAction :=
  [.start, .begin 0 "a" "Ping" "Pong" none false, .register 0, .send 0 none,
    .begin 1 "b" "Ping" "Pong" none false, .register 1, .send 1 none, .expire 0,
    .receive 0 (.reply ⟨"b", engineProtocolVersion, .answer "Pong"⟩), .deregister 0, .deliver 0,
    .wake 1, .receive 0 (.reply ⟨"a", engineProtocolVersion, .answer "Pong"⟩), .reportTimeout 0,
    .raiseTimeout 0, .begin 2 "c" "Ping" "Pong" none false, .register 2, .send 2 none,
    .endReader 0 "EOF", .drain (.reader 0), .failNext (.reader 0), .failNext (.reader 0), .wake 2]

theorem handles_lateAnswer : Meets step HandlesSend initial lateAnswer :=
  ⟨trivial, trivial, trivial, trivial, trivial, trivial, trivial, trivial, trivial, trivial,
    trivial, trivial, trivial, trivial, trivial, trivial, trivial, trivial, trivial, trivial,
    trivial, trivial, trivial, trivial⟩

theorem requests_correlate_lateAnswer :
    ∃ client, run step initial lateAnswer = some client ∧
      (client.calls 1).phase =
        .finished (.returned ⟨"b", engineProtocolVersion, .answer "Pong"⟩) ∧
      (client.calls 2).phase =
        .finished (.raised (.runtimeError "Engine response channel closed: EOF")) ∧
      client.CorrelatesRequests :=
  ⟨_, rfl, rfl, rfl, requests_correlate handles_lateAnswer rfl⟩

/-- The pickle of a command is too large for the connection. -/
def largeCommand : List RequestAction :=
  [.start, .begin 0 "a" "ActivateGraph" "GraphActivationAcknowledged" none false, .register 0,
    .send 0 (some (.other (.valueError "pickle too large")))]

/-- The request has finished with the exception of its send, and stays
registered. -/
theorem large_command_stays :
    ¬ ∀ (actions : List RequestAction) (client : RequestClient),
      run step initial actions = some client → client.CorrelatesRequests := by
  intro always
  have reached : ∃ client, run step initial largeCommand = some client ∧
      client.pending.get? "a" = some 0 ∧
      (client.calls 0).phase = .finished (.raised (.valueError "pickle too large")) :=
    ⟨_, rfl, rfl, rfl⟩
  rcases reached with ⟨client, ran, stays, finished⟩
  exact ((always largeCommand client ran).unregistered "a" 0 stays).1 _ finished

end RequestClient
end Runtime
end Synesthesia
