import Synesthesia.Media.VideoSourceService

namespace Synesthesia
namespace Media

/-!
# Two consumers of one pass

`run_region_pass` with its hooks.  The live thread takes every frame that the
pass hands over; the head thread stops the pass once it holds its budget.  Both
see the same frames, which is what the filter at the loop boundary rests on.
-/

/-! ## The pass and its hooks -/

structure RegionPassOutcome where
  framesDecoded : Nat
  framesInRange : Nat
  skippedBySelection : Nat
  framesPresented : Nat
  interrupted : Bool
deriving DecidableEq, Repr

/-- The hooks of a pass, over the state of their owner. -/
structure PassHooks (Owner : Type) where
  consume : Owner → DecodedVideoFrame → Owner × Bool
  interrupted : Owner → Bool

/-- The counters of the loop in `run_region_pass`, and the selected frames that
it has reported to `on_frame_failed`. -/
structure PassCounters where
  framesDecoded : Nat
  framesInRange : Nat
  skippedBySelection : Nat
  framesPresented : Nat
  sourceFrameIndex : Nat
  failed : List Nat
deriving DecidableEq, Repr

namespace PassCounters

def initial : PassCounters := ⟨0, 0, 0, 0, 0, []⟩

def outcome (counters : PassCounters) (interrupted : Bool) : RegionPassOutcome where
  framesDecoded := counters.framesDecoded
  framesInRange := counters.framesInRange
  skippedBySelection := counters.skippedBySelection
  framesPresented := counters.framesPresented
  interrupted := interrupted

end PassCounters

section Pass

variable {Owner : Type} (hooks : PassHooks Owner) (startS : ℚ) (endS : Option ℚ) (everyNth : Nat)

/-- How a pass returns: its outcome, the frames that failed, and its owner. -/
structure PassReturn (Owner : Type) where
  outcome : RegionPassOutcome
  failed : List Nat
  owner : Owner

def PassCounters.finish {Owner : Type} (counters : PassCounters) (interrupted : Bool)
    (owner : Owner) : PassReturn Owner :=
  ⟨counters.outcome interrupted, counters.failed, owner⟩

/-- The loop of `run_region_pass` over the frames that the container decodes. -/
def passLoop (counters : PassCounters) (owner : Owner) : List VideoFrame → PassReturn Owner
  | [] => counters.finish false owner
  | frame :: rest =>
      let decodedOne := { counters with framesDecoded := counters.framesDecoded + 1 }
      if hooks.interrupted owner then decodedOne.finish true owner
      else
        match placeOf startS endS frame with
        | .before => passLoop decodedOne owner rest
        | .past => decodedOne.finish false owner
        | .inside =>
            let counted := { decodedOne with framesInRange := counters.framesInRange + 1 }
            let onward := { counted with sourceFrameIndex := counters.sourceFrameIndex + 1 }
            if counters.sourceFrameIndex % everyNth = 0 then
              match convertFrame frame counters.sourceFrameIndex with
              | none =>
                  passLoop { onward with failed := counters.failed ++ [counters.sourceFrameIndex] }
                    owner rest
              | some decoded =>
                  let presented := counters.framesPresented + 1
                  match hooks.consume owner decoded with
                  | (owner, false) =>
                      ({ counted with framesPresented := presented }).finish true owner
                  | (owner, true) =>
                      passLoop { onward with framesPresented := presented } owner rest
            else
              passLoop { onward with skippedBySelection := counters.skippedBySelection + 1 } owner
                rest

/-- `run_region_pass`. -/
def runRegionPass (owner : Owner) (frames : List VideoFrame) : PassReturn Owner :=
  passLoop hooks startS endS everyNth PassCounters.initial owner frames

/-! ## What a consumer is handed -/

/-- The consumer takes frames until it refuses to go on. -/
def feed (owner : Owner) : List DecodedVideoFrame → Owner
  | [] => owner
  | decoded :: rest =>
      match hooks.consume owner decoded with
      | (owner, false) => owner
      | (owner, true) => feed owner rest

variable {hooks startS endS everyNth}

/-- An uninterrupted pass feeds its consumer the frames of the region. -/
theorem owner_passLoop (uninterrupted : ∀ owner, hooks.interrupted owner = false)
    (frames : List VideoFrame) (counters : PassCounters) (owner : Owner) :
    (passLoop hooks startS endS everyNth counters owner frames).owner =
      feed hooks owner
        (RegionPass.handed startS endS everyNth counters.sourceFrameIndex frames) := by
  induction frames generalizing counters owner with
  | nil => rfl
  | cons frame rest ih =>
      rw [passLoop, RegionPass.handed]
      dsimp only
      rw [if_neg (by rw [uninterrupted]; exact Bool.false_ne_true)]
      cases placeOf startS endS frame with
      | before => exact ih _ owner
      | past => rfl
      | inside =>
          dsimp only
          by_cases selected : counters.sourceFrameIndex % everyNth = 0
          · rw [if_pos selected, if_pos selected]
            cases convertFrame frame counters.sourceFrameIndex with
            | none => exact ih _ owner
            | some decoded =>
                dsimp only [Option.toList_some, List.singleton_append, feed]
                rcases hooks.consume owner decoded with ⟨next, goesOn⟩
                cases goesOn with
                | false => rfl
                | true => exact ih _ next
          · rw [if_neg selected, if_neg selected, ih]
            rfl

end Pass

/-! ## The frames of a region -/

section Handed

variable {startS : ℚ} {endS : Option ℚ} {everyNth : Nat}

theorem sourceFrameIndex_of_convertFrame {frame : VideoFrame} {sourceFrameIndex : Nat}
    {decoded : DecodedVideoFrame} (converted : convertFrame frame sourceFrameIndex = some decoded) :
    decoded.sourceFrameIndex = sourceFrameIndex ∧ frame.ptsSeconds = some decoded.ptsSeconds := by
  unfold convertFrame at converted
  cases time : frame.ptsSeconds with
  | none =>
      rw [time] at converted
      cases converted
  | some ptsSeconds =>
      rw [time] at converted
      simp only at converted
      split_ifs at converted
      cases converted
      exact ⟨rfl, rfl⟩

/-- A frame of the region is selected and does not lie after its end. -/
theorem handed_selected {frames : List VideoFrame} {sourceFrameIndex : Nat}
    {decoded : DecodedVideoFrame}
    (member : decoded ∈ RegionPass.handed startS endS everyNth sourceFrameIndex frames) :
    everyNth ∣ decoded.sourceFrameIndex ∧ ∀ limit, endS = some limit →
      decoded.ptsSeconds ≤ limit := by
  induction frames generalizing sourceFrameIndex with
  | nil => cases member
  | cons frame rest ih =>
      rw [RegionPass.handed] at member
      cases place : placeOf startS endS frame with
      | before =>
          rw [place] at member
          exact ih member
      | past =>
          rw [place] at member
          cases member
      | inside =>
          rw [place] at member
          rcases List.mem_append.mp member with here | later
          · split_ifs at here with selected
            · rcases sourceFrameIndex_of_convertFrame (Option.mem_toList.mp here) with ⟨index, time⟩
              refine ⟨index ▸ Nat.dvd_of_mod_eq_zero selected, ?_⟩
              rintro limit rfl
              unfold placeOf at place
              rw [time] at place
              by_contra late
              rw [not_le] at late
              simp only [Option.any_some, late, decide_true, if_true] at place
              split_ifs at place
            · cases here
          · exact ih later

/-- A selected frame of the region that converts is handed over, unless a frame
past the end of the region comes before it. -/
theorem mem_handed_of_converts {before after : List VideoFrame} {frame : VideoFrame}
    {sourceFrameIndex : Nat} {decoded : DecodedVideoFrame}
    (reached : ∀ earlier ∈ before, placeOf startS endS earlier ≠ .past)
    (inside : placeOf startS endS frame = .inside)
    (converted : convertFrame frame (sourceFrameIndex +
      before.countP (fun earlier => decide (placeOf startS endS earlier = .inside))) = some decoded)
    (selected : everyNth ∣ decoded.sourceFrameIndex) :
    decoded ∈ RegionPass.handed startS endS everyNth sourceFrameIndex
      (before ++ frame :: after) := by
  induction before generalizing sourceFrameIndex with
  | nil =>
      have index := (sourceFrameIndex_of_convertFrame converted).1
      rw [List.countP_nil, Nat.add_zero] at converted index
      rw [List.nil_append, RegionPass.handed, inside]
      dsimp only
      rw [if_pos (Nat.mod_eq_zero_of_dvd (index ▸ selected)), converted]
      exact List.mem_cons_self
  | cons earlier rest ih =>
      have onward := fun other member => reached other (List.mem_cons_of_mem earlier member)
      rw [List.cons_append, RegionPass.handed]
      cases place : placeOf startS endS earlier with
      | before =>
          refine ih onward ?_
          rwa [List.countP_cons_of_neg (by simp [place])] at converted
      | past => exact absurd place (reached earlier List.mem_cons_self)
      | inside =>
          refine List.mem_append_right _ (ih onward ?_)
          rwa [List.countP_cons_of_pos (by simp [place]), Nat.add_comm _ 1, ← Nat.add_assoc]
            at converted

end Handed

/-! ## The live thread and the head thread -/

/-- The live consumer, as long as nothing stops its queue. -/
def liveHooks : PassHooks (List DecodedVideoFrame) where
  consume received decoded := (received ++ [decoded], true)
  interrupted _ := false

/-- The queue of one staging and the count beside it. -/
structure HeadStage where
  staged : List DecodedVideoFrame
  stagedCount : Nat
deriving DecidableEq

def HeadStage.empty : HeadStage := ⟨[], 0⟩

/-- The consumer of `_head_loop`, as long as the source is not stopped. -/
def headHooks (budget : Nat) : PassHooks HeadStage where
  consume stage decoded :=
    (⟨stage.staged ++ [decoded], stage.stagedCount + 1⟩, decide (stage.stagedCount + 1 < budget))
  interrupted _ := false

theorem feed_liveHooks (received frames : List DecodedVideoFrame) :
    feed liveHooks received frames = received ++ frames := by
  induction frames generalizing received with
  | nil => exact (List.append_nil received).symm
  | cons decoded rest ih =>
      exact (ih (received ++ [decoded])).trans (List.append_cons ..).symm

/-- The head takes what its budget has left. -/
theorem feed_headHooks {budget : Nat} {stage : HeadStage} (left : stage.stagedCount < budget)
    (frames : List DecodedVideoFrame) :
    (feed (headHooks budget) stage frames).staged =
      stage.staged ++ frames.take (budget - stage.stagedCount) := by
  induction frames generalizing stage with
  | nil => rw [feed, List.take_nil, List.append_nil]
  | cons decoded rest ih =>
      have split : budget - stage.stagedCount = budget - (stage.stagedCount + 1) + 1 := by omega
      rw [feed, split, List.take_succ_cons]
      by_cases further : stage.stagedCount + 1 < budget
      · simp only [headHooks, further, decide_true]
        exact (ih further).trans (List.append_cons ..).symm
      · have none : budget - (stage.stagedCount + 1) = 0 := by omega
        simp only [headHooks, further, decide_false, none, List.take_zero]

/-- The frames that a live pass receives. -/
def liveFrames (startS : ℚ) (endS : Option ℚ) (everyNth : Nat) (frames : List VideoFrame) :
    List DecodedVideoFrame :=
  (runRegionPass liveHooks startS endS everyNth [] frames).owner

/-- The frames that the head thread stages. -/
def headFrames (startS : ℚ) (endS : Option ℚ) (everyNth budget : Nat) (frames : List VideoFrame) :
    List DecodedVideoFrame :=
  (runRegionPass (headHooks budget) startS endS everyNth HeadStage.empty frames).owner.staged

theorem liveFrames_eq (startS : ℚ) (endS : Option ℚ) (everyNth : Nat) (frames : List VideoFrame) :
    liveFrames startS endS everyNth frames = RegionPass.handed startS endS everyNth 0 frames := by
  rw [liveFrames, runRegionPass, owner_passLoop fun _ => rfl, feed_liveHooks]
  rfl

/-- The first frame is staged before the budget is looked at. -/
theorem feed_headHooks_zero (frames : List DecodedVideoFrame) :
    (feed (headHooks 0) HeadStage.empty frames).staged = frames.take 1 := by
  cases frames <;> rfl

theorem headFrames_eq (startS : ℚ) (endS : Option ℚ) (everyNth budget : Nat)
    (frames : List VideoFrame) :
    headFrames startS endS everyNth budget frames =
      (RegionPass.handed startS endS everyNth 0 frames).take (max budget 1) := by
  rw [headFrames, runRegionPass, owner_passLoop fun _ => rfl]
  cases budget with
  | zero => exact feed_headHooks_zero _
  | succ budget =>
      rw [feed_headHooks (Nat.succ_pos budget), max_eq_left (Nat.succ_pos budget)]
      rfl

/-- The head stages the first frames of the live pass, each under its number
in the region; the numbers are selected and the frames lie in the region. -/
theorem headFrames_mirror_live (frames : List VideoFrame) (startS : ℚ) (endS : Option ℚ)
    (everyNth budget : Nat) (positive : 1 ≤ budget) :
    headFrames startS endS everyNth budget frames =
        (liveFrames startS endS everyNth frames).take
          (min budget (liveFrames startS endS everyNth frames).length) ∧
      (liveFrames startS endS everyNth frames).Pairwise
        (fun earlier later => earlier.sourceFrameIndex < later.sourceFrameIndex) ∧
      ∀ decoded ∈ liveFrames startS endS everyNth frames,
        everyNth ∣ decoded.sourceFrameIndex ∧ startS ≤ decoded.ptsSeconds ∧
          ∀ limit, endS = some limit → decoded.ptsSeconds ≤ limit := by
  rw [headFrames_eq, max_eq_left positive, liveFrames_eq, ← List.take_eq_take_min]
  refine ⟨rfl, RegionPass.handed_pairwise startS frames 0, fun decoded member => ?_⟩
  exact ⟨(handed_selected member).1, (RegionPass.mem_handed member).2, (handed_selected member).2⟩

/-- Frames at 0, 1 and 2 seconds, one without a timestamp, one whose image does
not convert, and one past the third second. -/
def shortFile : List VideoFrame :=
  [⟨some 0, true⟩, ⟨some 1, true⟩, ⟨none, true⟩, ⟨some (3 / 2), false⟩, ⟨some 2, true⟩,
    ⟨some 4, true⟩]

/-- A live pass over the region from the first to the third second receives the
frames of seconds 1 and 2, and a budget of one stages the former. -/
theorem headFrames_mirror_live_short :
    liveFrames 1 (some 3) 1 shortFile = [⟨0, 1⟩, ⟨3, 2⟩] ∧
      headFrames 1 (some 3) 1 1 shortFile = [⟨0, 1⟩] := by
  have live : liveFrames 1 (some 3) 1 shortFile = [⟨0, 1⟩, ⟨3, 2⟩] := by decide +kernel
  have mirrors := (headFrames_mirror_live shortFile 1 (some 3) 1 1 le_rfl).1
  rw [live] at mirrors
  exact ⟨live, mirrors⟩

/-- The head thread of the service stages the head of the region pass over the
frames that its container decodes. -/
theorem stagedHead_eq_headFrames (configuration : Configuration) (recording : Recording)
    (budget : Nat) :
    VideoSourceService.stagedHead configuration recording budget =
      headFrames recording.regionStartS recording.regionEndS
        configuration.processEveryNthFrame budget
        (recording.frames recording.regionStartS) := by
  rw [headFrames_eq]
  rfl

end Media
end Synesthesia
