import Synesthesia.Foundation.Runs
import Synesthesia.Media.VideoSourceService

namespace Synesthesia
namespace Media

open Foundation

/-!
# Seeks and the frames they wait for

A seek is carried by an event that the decode thread consumes, a generation
that the presentation thread claims, a filter that the first passing frame
clears, and a queue that is emptied in between.  The observation remembers
which target each presented frame had to answer.
-/

def DecodeItem.pass : DecodeItem → Pass
  | frame pass _ => pass
  | loop pass => pass
  | finish pass => pass

theorem Put.item_pass (pass : Pass) (put : Put) : (put.item pass).pass = pass := by
  cases put <;> rfl

/-- The seek that the pass of an item honours. -/
def DecodeItem.seekGeneration (item : DecodeItem) : Nat := item.pass.seekGeneration

/-- The frame that the presentation thread has in its hands. -/
def PresentPhase.held : PresentPhase → Option Held
  | filtering held => some held
  | waiting held => some held
  | timing held => some held
  | presenting held => some held
  | publishing held => some held
  | _ => none

/-- The target lies before the end of the region. -/
def Recording.contains (recording : Recording) (targetS : ℚ) : Bool :=
  recording.regionEndS.all (fun endS => decide (targetS < endS))

/-- A presented frame with the claimed generation, the anchor of the timeline
and the targets that waited for it. -/
structure Presented where
  recording : Recording
  pass : Pass
  frame : DecodedVideoFrame
  applied : Nat
  anchorS : Option ℚ
  claimed : Option ℚ
  owed : Option ℚ

/-- A service with its unanswered seeks.  `claimed` is the target of the last
seek that was applied, until a frame is presented; `parked` the target of a
seek of a source that is not playing, and `owed` the same after the source has
been set playing. -/
structure Observed where
  service : VideoSourceService
  claimed : Option ℚ
  parked : Option ℚ
  owed : Option ℚ
  presented : List Presented

namespace Observed

open VideoSourceService

variable (configuration : Configuration)

def initial (recording : Recording) : Observed :=
  ⟨VideoSourceService.initial recording, none, none, none, []⟩

/-- What a call adds: a seek parks its target, a resumed source owes it. -/
def observeCall (observed : Observed) (next : VideoSourceService) : Observed :=
  let service := observed.service
  if service.seekGeneration < next.seekGeneration then
    { observed with
      service := next
      parked := if service.state = .playing then none else some next.seekTargetS
      owed := none }
  else if service.state = .paused ∧ next.state = .playing then
    { observed with service := next, parked := none, owed := observed.parked }
  else { observed with service := next }

/-- What the end of a join adds: a start applies a pending seek, and every
other call drops it. -/
def observeErrand (observed : Observed) (next : VideoSourceService) : Errand → Observed
  | .start _ =>
      { observed with
        service := next
        claimed :=
          if observed.service.seekEvent = true ∧
              observed.service.recording.contains observed.service.seekTargetS = true then
            some observed.service.seekTargetS
          else none
        parked := none
        owed := observed.parked }
  | _ => { observed with service := next, claimed := none, parked := none, owed := none }

/-- What a step of the presentation thread adds. -/
def observePresent (observed : Observed) (next : VideoSourceService) (choice : Choice) :
    Observed :=
  let service := observed.service
  match service.presenter.phase with
  | .claiming =>
      if service.seekGeneration ≠ service.appliedSeekGeneration then
        { observed with service := next, claimed := some service.seekTargetS }
      else { observed with service := next }
  | .publishing held =>
      if choice = .raise then { observed with service := next }
      else
        { service := next
          claimed := none
          parked := observed.parked
          owed := none
          presented := observed.presented ++ [{
            recording := service.recording
            pass := held.pass
            frame := held.frame
            applied := service.appliedSeekGeneration
            anchorS := service.firstPtsS
            claimed := observed.claimed
            owed := observed.owed }] }
  | _ => { observed with service := next }

def observe (observed : Observed) (next : VideoSourceService) : Step → Observed
  | .call _ => observed.observeCall next
  | .caller _ =>
      match observed.service.caller with
      | .joining errand => observed.observeErrand next errand
      | _ => { observed with service := next }
  | .present choice => observed.observePresent next choice
  | _ => { observed with service := next }

def step (observed : Observed) (action : Step) : Option Observed :=
  (VideoSourceService.step configuration observed.service action).map
    (fun next => observed.observe next action)

/-! ## The conditions on a step -/

/-- Below the target of the last seek. -/
def isFiltered (filter : Option ℚ) (frame : DecodedVideoFrame) : Bool :=
  filter.any (fun limit => decide (frame.ptsSeconds < limit))

/-- What the decode thread puts after a seek has been applied, but from a pass
that does not honour it, is dropped: cleared, or below the filter. -/
def PutsDropped (service : VideoSourceService) : Prop :=
  service.decoder.pass.seekGeneration < service.appliedSeekGeneration →
    service.presenter.phase = .clearing ∨
      match service.decoder.phase with
      | .offering (.frame frame _) => isFiltered service.seekFilterPts frame = true
      | .offering .loop => False
      | _ => True

/-- A decode attempt raises only when no seek waits for a frame of its pass. -/
def RaisesSettled (observed : Observed) : Prop :=
  let generation := observed.service.decoder.pass.seekGeneration
  generation ≤ observed.service.appliedSeekGeneration ∧
    (generation = observed.service.appliedSeekGeneration → observed.claimed = none)

/-- The presentation thread takes nothing of a pass whose seek it has not
claimed, and clears nothing of the pass whose seek it has claimed. -/
def TakesClaimed (service : VideoSourceService) : Prop :=
  match service.presenter.phase, service.decodeQueue with
  | .clearing, item :: _ => item.isEnd = false →
      item.seekGeneration < service.appliedSeekGeneration
  | .receiving, item :: _ => item.isEnd = false →
      item.seekGeneration ≤ service.appliedSeekGeneration
  | _, _ => True

/-- A seek leaves no straggler of an earlier pass above its target. -/
def SeeksAbove (service : VideoSourceService) (sourceTimeS : ℚ) : Prop :=
  service.presenter.phase ≠ .clearing →
    (∀ item ∈ service.decodeQueue, item.seekGeneration < service.appliedSeekGeneration →
      match item with
      | .frame _ frame => frame.ptsSeconds < clampTarget service.recording sourceTimeS
      | _ => True) ∧
    match service.presenter.phase with
    | .filtering held => held.pass.seekGeneration < service.appliedSeekGeneration →
        held.frame.ptsSeconds < clampTarget service.recording sourceTimeS
    | _ => True

/-- A paused source whose seek the decode thread has consumed is resumed when
the presentation thread has claimed the seek, or is about to. -/
def ResumesClaimed (service : VideoSourceService) : Prop :=
  service.state = .paused → service.seekEvent = false →
    service.seekGeneration = service.appliedSeekGeneration ∨
      service.presenter.phase ∈ [PresentPhase.looping, .claiming, .exited]

/-- A start finds the event of a parked seek still set. -/
def StartsSeeking (observed : Observed) : Prop :=
  match observed.service.caller with
  | .joining (.start _) => observed.parked.isSome = true → observed.service.seekEvent = true
  | _ => True

def HonoursSeeks (observed : Observed) : Step → Prop
  | .decode choice => PutsDropped observed.service ∧ (choice = .raise → observed.RaisesSettled)
  | .present _ => TakesClaimed observed.service
  | .call .play => ResumesClaimed observed.service
  | .call .resume => ResumesClaimed observed.service
  | .call (.seek sourceTimeS) => SeeksAbove observed.service sourceTimeS
  | .caller _ => observed.StartsSeeking
  | _ => True

instance (service : VideoSourceService) : Decidable (PutsDropped service) := by
  unfold PutsDropped
  split <;> infer_instance

instance (observed : Observed) : Decidable observed.RaisesSettled :=
  inferInstanceAs (Decidable (_ ∧ _))

instance (service : VideoSourceService) : Decidable (TakesClaimed service) := by
  unfold TakesClaimed
  split <;> infer_instance

instance (service : VideoSourceService) (sourceTimeS : ℚ) :
    Decidable (SeeksAbove service sourceTimeS) := by
  have items : ∀ item : DecodeItem, Decidable
      (item.seekGeneration < service.appliedSeekGeneration →
        match item with
        | .frame _ frame => frame.ptsSeconds < clampTarget service.recording sourceTimeS
        | _ => True) := by
    intro item
    cases item <;> infer_instance
  unfold SeeksAbove
  split <;> infer_instance

instance (service : VideoSourceService) : Decidable (ResumesClaimed service) :=
  inferInstanceAs (Decidable (_ → _ → _ ∨ _))

instance (observed : Observed) : Decidable observed.StartsSeeking := by
  unfold StartsSeeking
  split <;> infer_instance

instance (observed : Observed) (action : Step) : Decidable (observed.HonoursSeeks action) := by
  unfold HonoursSeeks
  split <;> infer_instance

/-! ## What a presented frame owes -/

/-- The frame is the first one of the pass that starts at the target, and the
timeline is anchored at it. -/
def Presented.answers (configuration : Configuration) (presented : Presented) (targetS : ℚ) :
    Prop :=
  presented.recording.contains targetS = true →
    ∀ first rest, passFrames configuration presented.recording targetS = first :: rest →
      presented.pass.startS = targetS ∧ presented.frame = first ∧
        presented.anchorS = some first.ptsSeconds

end Observed
end Media
end Synesthesia
