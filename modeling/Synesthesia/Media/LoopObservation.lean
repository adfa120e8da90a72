import Synesthesia.Foundation.Runs
import Synesthesia.Media.SeekObservation

namespace Synesthesia
namespace Media

open Foundation

/-!
# Loop boundaries and the frames behind them

Behind a loop signal the presentation thread serves the staged head, and then
the restarted pass without the frames that the head has served.  The
observation keeps everything that the decode thread has put, and for each
boundary what has been presented behind it.
-/

/-- What has been presented since a loop signal.  `pass` has put the signal;
`start` counts what the decode thread had put up to it. -/
structure Stretch where
  pass : Pass
  start : Nat
  shown : List DecodedVideoFrame

/-- A stretch that the next loop or end signal has closed. -/
structure Boundary where
  recording : Recording
  shown : List DecodedVideoFrame
  enqueued : List DecodedVideoFrame

/-- The frames of a stretch of the queue, and what follows when no signal ends
it. -/
def framesUntilSignal (future : List DecodedVideoFrame) :
    List DecodeItem → List DecodedVideoFrame
  | [] => future
  | .frame _ frame :: rest => frame :: framesUntilSignal future rest
  | .loop _ :: _ => []
  | .finish _ :: _ => []

/-- A service with its loop boundaries.  `stretch` is open from a loop signal
to the next signal, seek, or end of the threads. -/
structure Looped where
  service : VideoSourceService
  history : List DecodeItem
  stretch : Option Stretch
  boundaries : List Boundary

namespace Looped

open VideoSourceService

variable (configuration : Configuration)

def initial (recording : Recording) : Looped :=
  ⟨VideoSourceService.initial recording, [], none, []⟩

/-- The boundary that a signal closes. -/
def closed (looped : Looped) : List Boundary :=
  looped.stretch.toList.map (fun stretch => {
    recording := looped.service.recording
    shown := stretch.shown
    enqueued := framesUntilSignal [] (looped.history.drop stretch.start) })

/-- What a step of the presentation thread adds. -/
def observePresent (looped : Looped) (next : VideoSourceService) (choice : Choice) : Looped :=
  match looped.service.presenter.phase, looped.service.decodeQueue with
  | .claiming, _ =>
      { looped with
        service := next
        stretch := if looped.service.seekGeneration ≠ looped.service.appliedSeekGeneration then none
          else looped.stretch }
  | .receiving, .loop pass :: rest =>
      { looped with
        service := next
        stretch := some ⟨pass, looped.history.length - rest.length, []⟩
        boundaries := looped.boundaries ++ looped.closed }
  | .receiving, .finish _ :: _ =>
      { looped with
        service := next
        stretch := none
        boundaries := looped.boundaries ++ looped.closed }
  | .publishing held, _ =>
      { looped with
        service := next
        stretch := if choice = .raise then looped.stretch
          else looped.stretch.map (fun stretch =>
            { stretch with shown := stretch.shown ++ [held.frame] }) }
  | _, _ => { looped with service := next }

def observe (looped : Looped) (next : VideoSourceService) : Step → Looped
  | .call _ =>
      { looped with
        service := next
        stretch := if next.seekGeneration = looped.service.seekGeneration then looped.stretch
          else none }
  | .caller _ =>
      match looped.service.caller with
      | .joining _ => { looped with service := next, stretch := none }
      | _ => { looped with service := next }
  | .decode _ =>
      { looped with
        service := next
        history := looped.history ++ next.decodeQueue.drop looped.service.decodeQueue.length }
  | .present choice => looped.observePresent next choice
  | .head _ => { looped with service := next }

def step (looped : Looped) (action : Step) : Option Looped :=
  (VideoSourceService.step configuration looped.service action).map
    (fun next => looped.observe next action)

/-! ## The conditions on a step -/

/-- The decode attempt raises, or finds no frame. -/
def AttemptFails (service : VideoSourceService) (choice : Choice) : Prop :=
  match service.decoder.phase with
  | .opening => choice = .raise
  | .decoding pass => choice = .raise ∨
      pass.rest = [] ∧ pass.sourceFrameIndex = 0 ∧ pass.framesDecoded = 0
  | _ => False

/-- A decode attempt fails only in a pass that no loop signal has restarted. -/
def AttemptsSettled (looped : Looped) (choice : Choice) : Prop :=
  AttemptFails looped.service choice → looped.stretch.isNone = true ∧
    ∀ item ∈ looped.service.decodeQueue,
      match item with
      | .loop pass => pass.seekGeneration ≠ looped.service.seekGeneration
      | _ => True

/-- A loop signal comes from a pass that honours the newest seek, no seek waits
for its first frame, and the staged head is whole or empty. -/
def TakesWhole (service : VideoSourceService) (pass : Pass) : Prop :=
  service.appliedSeekGeneration = service.seekGeneration →
    pass.seekGeneration = service.seekGeneration ∧ service.seekFilterPts = none ∧
      (service.heads.getD service.headQueue [] = [] ∨
        service.recording.headFrameBudget.any (fun budget =>
          decide (service.heads.getD service.headQueue [] =
            stagedHead configuration service.recording budget)) = true)

/-- The event of a seek is set before the decode thread honours the seek. -/
def SetsInTime (service : VideoSourceService) : Prop :=
  service.caller = .seeking →
    service.decoder.pass.seekGeneration ≠ service.seekGeneration ∨
      service.decoder.phase = .consuming

def KeepsBoundaries (looped : Looped) : Step → Prop
  | .decode choice => looped.AttemptsSettled choice
  | .present _ =>
      match looped.service.presenter.phase with
      | .restarting pass => TakesWhole configuration looped.service pass
      | _ => True
  | .caller _ => SetsInTime looped.service
  | _ => True

instance (service : VideoSourceService) (choice : Choice) :
    Decidable (AttemptFails service choice) :=
  decidable_of_iff ((match service.decoder.phase with
    | .opening => decide (choice = .raise)
    | .decoding pass => decide (choice = .raise ∨
        pass.rest = [] ∧ pass.sourceFrameIndex = 0 ∧ pass.framesDecoded = 0)
    | _ => false) = true) (by
      unfold AttemptFails
      cases service.decoder.phase <;> simp)

instance (looped : Looped) (choice : Choice) : Decidable (looped.AttemptsSettled choice) :=
  decidable_of_iff (AttemptFails looped.service choice → looped.stretch.isNone = true ∧
    looped.service.decodeQueue.all (fun item => match item with
      | .loop pass => decide (pass.seekGeneration ≠ looped.service.seekGeneration)
      | _ => true) = true) (by
      unfold AttemptsSettled
      refine imp_congr_right (fun _ => and_congr_right (fun _ => ?_))
      rw [List.all_eq_true]
      refine forall₂_congr (fun item _ => ?_)
      cases item <;> simp)

instance (service : VideoSourceService) (pass : Pass) :
    Decidable (TakesWhole configuration service pass) :=
  inferInstanceAs (Decidable (_ → _ ∧ _ ∧ _))

instance (service : VideoSourceService) : Decidable (SetsInTime service) :=
  inferInstanceAs (Decidable (_ → _ ∨ _))

instance (looped : Looped) (action : Step) :
    Decidable (looped.KeepsBoundaries configuration action) :=
  decidable_of_iff ((match action, looped.service.presenter.phase with
    | .decode choice, _ => decide (looped.AttemptsSettled choice)
    | .present _, .restarting pass => decide (TakesWhole configuration looped.service pass)
    | .caller _, _ => decide (SetsInTime looped.service)
    | _, _ => true) = true) (by
      unfold KeepsBoundaries
      cases action <;> cases looped.service.presenter.phase <;> simp)

end Looped
end Media
end Synesthesia
