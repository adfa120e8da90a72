import Mathlib

namespace Synesthesia
namespace Media

/-!
# The region pass

`media/region_pass.py`.  One pass over the region of a file discards the frames
before its start, stops after its end, and hands every N-th frame of the region
to its consumer.  Times are exact.
-/

/-- A frame of the container: its time, when it has a usable timestamp, and
whether its image converts. -/
structure VideoFrame where
  ptsSeconds : Option ℚ
  converts : Bool
deriving DecidableEq

structure DecodedVideoFrame where
  sourceFrameIndex : Nat
  ptsSeconds : ℚ
deriving DecidableEq

/-- `_convert_frame`; `none` when it raises. -/
def convertFrame (frame : VideoFrame) (sourceFrameIndex : Nat) : Option DecodedVideoFrame :=
  match frame.ptsSeconds with
  | none => none
  | some ptsSeconds => if frame.converts then some ⟨sourceFrameIndex, ptsSeconds⟩ else none

/-- Where a frame lies; without a timestamp it counts as inside. -/
inductive Place where
  | before
  | inside
  | past
deriving DecidableEq

def placeOf (startS : ℚ) (endS : Option ℚ) (frame : VideoFrame) : Place :=
  match frame.ptsSeconds with
  | none => .inside
  | some ptsSeconds =>
      if ptsSeconds < startS then .before
      else if endS.any (fun endS => decide (endS < ptsSeconds)) then .past
      else .inside

/-- A pass between two frames.  `source_frame_index` counts the frames of the
region so far, as `frames_in_range` does. -/
structure RegionPass where
  startS : ℚ
  framesDecoded : Nat
  sourceFrameIndex : Nat
  rest : List VideoFrame
deriving DecidableEq

/-- What the loop body of `run_region_pass` does with the next frame. -/
inductive PassEvent where
  | ended (pass : RegionPass)
  | skip (pass : RegionPass)
  | hand (frame : DecodedVideoFrame) (pass : RegionPass)

namespace RegionPass

def begin (startS : ℚ) (frames : List VideoFrame) : RegionPass := ⟨startS, 0, 0, frames⟩

/-- One frame of the pass, after its check for an interruption. -/
def next (endS : Option ℚ) (everyNth : Nat) (pass : RegionPass) : PassEvent :=
  match pass.rest with
  | [] => .ended pass
  | frame :: rest =>
      let seen := { pass with framesDecoded := pass.framesDecoded + 1, rest := rest }
      match placeOf pass.startS endS frame with
      | .before => .skip seen
      | .past => .ended seen
      | .inside =>
          let counted := { seen with sourceFrameIndex := pass.sourceFrameIndex + 1 }
          if pass.sourceFrameIndex % everyNth = 0 then
            match convertFrame frame pass.sourceFrameIndex with
            | some decoded => .hand decoded counted
            | none => .skip counted
          else .skip counted

/-- The frames that the rest of a pass hands over when nothing interrupts it. -/
def handed (startS : ℚ) (endS : Option ℚ) (everyNth : Nat) :
    Nat → List VideoFrame → List DecodedVideoFrame
  | _, [] => []
  | sourceFrameIndex, frame :: rest =>
      match placeOf startS endS frame with
      | .before => handed startS endS everyNth sourceFrameIndex rest
      | .past => []
      | .inside =>
          (if sourceFrameIndex % everyNth = 0 then (convertFrame frame sourceFrameIndex).toList
            else []) ++ handed startS endS everyNth (sourceFrameIndex + 1) rest

/-- What is still to be handed over. -/
def remaining (endS : Option ℚ) (everyNth : Nat) (pass : RegionPass) : List DecodedVideoFrame :=
  handed pass.startS endS everyNth pass.sourceFrameIndex pass.rest

variable {endS : Option ℚ} {everyNth : Nat} {pass : RegionPass}

/-- What an event hands over, and what is still to be handed over after it. -/
def remainingFrom (endS : Option ℚ) (everyNth : Nat) : PassEvent → List DecodedVideoFrame
  | .ended _ => []
  | .skip after => after.remaining endS everyNth
  | .hand decoded after => decoded :: after.remaining endS everyNth

theorem remainingFrom_next (endS : Option ℚ) (everyNth : Nat) (pass : RegionPass) :
    remainingFrom endS everyNth (pass.next endS everyNth) = pass.remaining endS everyNth := by
  rcases pass with ⟨startS, framesDecoded, sourceFrameIndex, rest⟩
  cases rest with
  | nil => rfl
  | cons frame rest =>
      rw [remaining, handed, next]
      dsimp only
      cases placeOf startS endS frame with
      | before => rfl
      | past => rfl
      | inside =>
          dsimp only
          split_ifs
          · cases convertFrame frame sourceFrameIndex with
            | none => rfl
            | some decoded => rfl
          · rfl

theorem remaining_over {last : RegionPass} (isNext : pass.next endS everyNth = .ended last) :
    pass.remaining endS everyNth = [] := by
  rw [← remainingFrom_next, isNext, remainingFrom]

theorem remaining_skip {after : RegionPass} (isNext : pass.next endS everyNth = .skip after) :
    pass.remaining endS everyNth = after.remaining endS everyNth := by
  rw [← remainingFrom_next, isNext, remainingFrom]

theorem remaining_hand {decoded : DecodedVideoFrame} {after : RegionPass}
    (isNext : pass.next endS everyNth = .hand decoded after) :
    pass.remaining endS everyNth = decoded :: after.remaining endS everyNth := by
  rw [← remainingFrom_next, isNext, remainingFrom]

/-- The frames of a pass are numbered upwards, and none lies before its start. -/
theorem mem_handed {startS : ℚ} {frames : List VideoFrame} {sourceFrameIndex : Nat}
    {decoded : DecodedVideoFrame}
    (member : decoded ∈ handed startS endS everyNth sourceFrameIndex frames) :
    sourceFrameIndex ≤ decoded.sourceFrameIndex ∧ startS ≤ decoded.ptsSeconds := by
  induction frames generalizing sourceFrameIndex with
  | nil => cases member
  | cons frame rest ih =>
      rw [handed] at member
      cases place : placeOf startS endS frame with
      | before =>
          rw [place] at member
          exact ih member
      | past =>
          rw [place] at member
          cases member
      | inside =>
          rw [place] at member
          rcases List.mem_append.mp member with here | later
          · split_ifs at here
            · have converted := Option.mem_toList.mp here
              unfold convertFrame at converted
              unfold placeOf at place
              cases time : frame.ptsSeconds with
              | none =>
                  rw [time] at converted
                  cases converted
              | some ptsSeconds =>
                  rw [time] at converted place
                  simp only at converted place
                  split_ifs at converted
                  split_ifs at place with early
                  cases converted
                  exact ⟨le_rfl, not_lt.mp early⟩
            · cases here
          · have following := ih later
            exact ⟨Nat.le_of_succ_le following.1, following.2⟩

theorem handed_pairwise (startS : ℚ) (frames : List VideoFrame) (sourceFrameIndex : Nat) :
    (handed startS endS everyNth sourceFrameIndex frames).Pairwise
      (fun earlier later => earlier.sourceFrameIndex < later.sourceFrameIndex) := by
  induction frames generalizing sourceFrameIndex with
  | nil => exact List.Pairwise.nil
  | cons frame rest ih =>
      rw [handed]
      cases placeOf startS endS frame with
      | before => exact ih sourceFrameIndex
      | past => exact List.Pairwise.nil
      | inside =>
          refine List.pairwise_append.mpr ⟨?_, ih (sourceFrameIndex + 1), ?_⟩
          · split_ifs
            · cases convertFrame frame sourceFrameIndex with
              | none => exact List.Pairwise.nil
              | some decoded => exact List.pairwise_singleton _ decoded
            · exact List.Pairwise.nil
          · intro earlier here later follows
            split_ifs at here
            · have converted := Option.mem_toList.mp here
              unfold convertFrame at converted
              have isIndex : earlier.sourceFrameIndex = sourceFrameIndex := by
                cases time : frame.ptsSeconds with
                | none =>
                    rw [time] at converted
                    cases converted
                | some ptsSeconds =>
                    rw [time] at converted
                    simp only at converted
                    split_ifs at converted
                    cases converted
                    rfl
              rw [isIndex]
              exact (mem_handed follows).1
            · cases here

end RegionPass
end Media
end Synesthesia
