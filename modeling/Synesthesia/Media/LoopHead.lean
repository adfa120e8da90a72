import Mathlib
import Synesthesia.Media.LoopStream

namespace Synesthesia
namespace Media

open Foundation

/-!
# The staged head

The frames of a boundary come from the staged head first, and then from the
restarted pass without the frames that the head has shown.  Both are the same
frames, numbered upwards, so that the largest number shown from the head tells
the repeated frames from the new ones.
-/

/-! ## Frames numbered upwards -/

/-- The number of the last frame. -/
def lastIndex (frames : List DecodedVideoFrame) : Option Nat :=
  frames.getLast?.map DecodedVideoFrame.sourceFrameIndex

def Ascending (frames : List DecodedVideoFrame) : Prop :=
  frames.Pairwise (fun earlier later => earlier.sourceFrameIndex < later.sourceFrameIndex)

variable {frames head shown received : List DecodedVideoFrame} {frame : DecodedVideoFrame}

theorem lastIndex_concat (frames : List DecodedVideoFrame) (frame : DecodedVideoFrame) :
    lastIndex (frames ++ [frame]) = some frame.sourceFrameIndex := by
  rw [lastIndex, List.getLast?_concat]
  rfl

theorem Ascending.of_front (ascending : Ascending frames) (front : shown <+: frames) :
    Ascending shown :=
  List.Pairwise.sublist front.sublist ascending

/-- A later frame has a larger number than the last of the earlier ones. -/
theorem Ascending.lastIndex_lt (ascending : Ascending (head ++ [frame])) :
    ∀ headUpto ∈ lastIndex head, headUpto < frame.sourceFrameIndex := by
  intro headUpto isLast
  unfold lastIndex at isLast
  rcases Option.map_eq_some_iff.mp isLast with ⟨last, isFrame, isIndex⟩
  have member : last ∈ head := List.mem_of_getLast? isFrame
  rw [← isIndex]
  exact (List.pairwise_append.mp ascending).2.2 last member frame (List.mem_singleton_self _)

/-- A frame of the head has at most the number of its last one. -/
theorem Ascending.le_lastIndex (ascending : Ascending head) (member : frame ∈ head) :
    ∃ headUpto, lastIndex head = some headUpto ∧ frame.sourceFrameIndex ≤ headUpto := by
  rcases List.eq_nil_or_concat head with empty | ⟨front, last, isHead⟩
  · rw [empty] at member
    cases member
  · rw [List.concat_eq_append] at isHead
    subst isHead
    refine ⟨last.sourceFrameIndex, lastIndex_concat front last, ?_⟩
    rcases List.mem_append.mp member with earlier | isLast
    · exact ((List.pairwise_append.mp ascending).2.2 frame earlier last
        (List.mem_singleton_self _)).le
    · rw [List.mem_singleton.mp isLast]

theorem ascending_openedFrames (configuration : Configuration) (recording : Recording)
    (startS : ℚ) : Ascending (VideoSourceService.openedFrames configuration recording startS) := by
  unfold VideoSourceService.openedFrames
  split_ifs
  · exact RegionPass.handed_pairwise startS (recording.frames startS) 0
  · exact List.Pairwise.nil

/-! ## What has been shown of a boundary -/

/-- The frame between the queue and the callback. -/
def PresentPhase.holding (phase : PresentPhase) : List DecodedVideoFrame :=
  phase.held.toList.map Held.frame

/-- The head is being served; nothing has been received. -/
structure Serves (frames shown : List DecodedVideoFrame) (service : VideoSourceService) :
    Prop where
  usingHead : service.presenter.usingHead = true
  captured : service.presenter.capturedHead < service.heads.length
  rest : shown ++ service.presenter.phase.holding ++
    service.heads.getD service.presenter.capturedHead [] <+: frames
  upto : service.presenter.headUpto = lastIndex shown

/-- The restarted pass is being received.  Up to the length of the head its
frames repeat what has been shown. -/
structure Follows (frames shown received : List DecodedVideoFrame)
    (service : VideoSourceService) : Prop where
  usingHead : service.presenter.usingHead = false
  shows : ∃ head, head <+: frames ∧ service.presenter.headUpto = lastIndex head ∧
    (received.length ≤ head.length ∧ service.presenter.phase.holding = [] ∧ shown = head ∨
      head.length ≤ received.length ∧ shown ++ service.presenter.phase.holding = received)

variable {service next : VideoSourceService}

/-- All that is shown is in the frames of the pass. -/
theorem Follows.front (follows : Follows frames shown received service)
    (isPrefix : received <+: frames) : shown <+: frames := by
  rcases follows.shows with ⟨head, front, _, ⟨_, _, isHead⟩ | ⟨_, isReceived⟩⟩
  · rw [isHead]
    exact front
  · rw [← isReceived] at isPrefix
    exact (List.prefix_append shown _).trans isPrefix

theorem Serves.front (serves : Serves frames shown service) : shown <+: frames := by
  have rest := serves.rest
  rw [List.append_assoc] at rest
  exact (List.prefix_append shown _).trans rest

/-- A step of another thread keeps the captured head. -/
theorem Serves.of_heads (serves : Serves frames shown service)
    (presenter : next.presenter = service.presenter) (heads : service.heads <+: next.heads) :
    Serves frames shown next := by
  have captured : next.presenter.capturedHead < next.heads.length := by
    rw [presenter]
    exact serves.captured.trans_le heads.length_le
  have same : next.heads.getD next.presenter.capturedHead [] =
      service.heads.getD service.presenter.capturedHead [] := by
    rw [presenter]
    rcases heads with ⟨added, grown⟩
    rw [← grown, List.getD_append _ _ _ _ serves.captured]
  refine ⟨by rw [presenter]; exact serves.usingHead, captured, ?_, ?_⟩
  · rw [same, presenter]
    exact serves.rest
  · rw [presenter]
    exact serves.upto

theorem Follows.of_presenter (follows : Follows frames shown received service)
    (presenter : next.presenter = service.presenter) : Follows frames shown received next := by
  refine ⟨?_, ?_⟩
  · rw [presenter]
    exact follows.usingHead
  · rw [presenter]
    exact follows.shows

/-- When the whole pass has been received, the whole pass has been shown. -/
theorem Follows.complete (follows : Follows frames shown frames service)
    (free : service.presenter.phase.holding = []) : shown = frames := by
  rcases follows.shows with ⟨head, front, _, ⟨longer, _, isHead⟩ | ⟨_, isReceived⟩⟩
  · rw [isHead]
    exact front.eq_of_length_le longer
  · rw [free, List.append_nil] at isReceived
    exact isReceived

/-- The next frame of the pass repeats the head exactly when the head is
longer than what has been received. -/
theorem Follows.receives (follows : Follows frames shown received service)
    (ascending : Ascending frames) (isPrefix : received ++ [frame] <+: frames)
    (free : service.presenter.phase.holding = [])
    (presenter : next.presenter = { service.presenter with phase := next.presenter.phase })
    (repeated : service.presenter.isDuplicate frame = true → next.presenter.phase.holding = [])
    (fresh : service.presenter.isDuplicate frame = false →
      next.presenter.phase.holding = [frame]) :
    Follows frames shown (received ++ [frame]) next := by
  have usingHead : next.presenter.usingHead = service.presenter.usingHead := by rw [presenter]
  have headUpto : next.presenter.headUpto = service.presenter.headUpto := by rw [presenter]
  rcases follows.shows with ⟨head, front, upto, shows⟩
  refine ⟨usingHead.trans follows.usingHead, head, front, headUpto.trans upto, ?_⟩
  by_cases shorter : received.length < head.length
  · -- the frame is one of those that the head has shown
    have within : received ++ [frame] <+: head := by
      refine List.prefix_of_prefix_length_le isPrefix front ?_
      rw [List.length_append, List.length_singleton]
      exact shorter
    have member : frame ∈ head :=
      within.subset (List.mem_append_right _ (List.mem_singleton_self _))
    have duplicate : service.presenter.isDuplicate frame = true := by
      rcases (ascending.of_front front).le_lastIndex member with ⟨last, isLast, bound⟩
      rw [Presenter.isDuplicate, upto, isLast, Option.any_some]
      exact decide_eq_true bound
    refine Or.inl ⟨within.length_le, repeated duplicate, ?_⟩
    rcases shows with ⟨_, _, isHead⟩ | ⟨longer, _⟩
    · exact isHead
    · exact absurd longer (not_le.mpr shorter)
  · have longer := not_lt.mp shorter
    have received_front : received <+: frames := (List.prefix_append received _).trans isPrefix
    have isReceived : shown = received := by
      rcases shows with ⟨bound, _, isHead⟩ | ⟨_, isReceived⟩
      · have sameLength := le_antisymm bound longer
        rw [isHead]
        exact (List.prefix_of_prefix_length_le front received_front longer).eq_of_length
          sameLength.symm
      · rw [free, List.append_nil] at isReceived
        exact isReceived
    have fresher : service.presenter.isDuplicate frame = false := by
      have earlier : head <+: received :=
        List.prefix_of_prefix_length_le front received_front longer
      rw [Presenter.isDuplicate, upto]
      cases last : lastIndex head with
      | none => rfl
      | some headUpto =>
          have isPair : Ascending (head ++ [frame]) := by
            refine List.Pairwise.sublist ?_ (ascending.of_front isPrefix)
            exact List.Sublist.append earlier.sublist (List.Sublist.refl _)
          have bound := isPair.lastIndex_lt headUpto last
          rw [Option.any_some]
          exact decide_eq_false (not_le.mpr bound)
    refine Or.inr ⟨?_, ?_⟩
    · rw [List.length_append]
      exact longer.trans (Nat.le_add_right _ _)
    · rw [isReceived, fresh fresher]

end Media
end Synesthesia
