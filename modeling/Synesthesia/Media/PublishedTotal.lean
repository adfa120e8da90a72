import Synesthesia.Media.HeadMirror

namespace Synesthesia
namespace Media

/-!
# The published total

A source resolves its region from the configured loop and the metadata of its
file, and derives from it the number of frames that a pass will present.  Times
are exact; `int` of a number that is not negative is its floor.
-/

/-! ## The resolved region -/

/-- What `inspect_video` reports about time. -/
structure VideoMetadata where
  durationS : Option ℚ
  averageRate : Option ℚ
  frameCount : Option Nat
deriving DecidableEq, Repr

/-- `-(-count // every)`: the quotient rounded up. -/
def ceilDiv (count every : Nat) : Nat := (-(-(count : Int) / (every : Int))).toNat

/-- A positive frame count. -/
def VideoMetadata.usableCount (metadata : VideoMetadata) : Option Nat :=
  metadata.frameCount.filter (fun count => decide (0 < count))

/-- `_total_processed_index`. -/
def totalProcessedIndex (metadata : VideoMetadata) (every : Nat) (regionStartS : ℚ)
    (regionEndS : Option ℚ) : Option Nat :=
  match regionEndS with
  | none => metadata.usableCount.map (fun count => ceilDiv count (max 1 every))
  | some regionEndS =>
      let span := max 0 (regionEndS - regionStartS)
      if span ≤ 0 then some 0
      else
        match metadata.usableCount with
        | some count =>
            match metadata.durationS.filter (fun durationS => decide (0 < durationS)) with
            | none => some (ceilDiv count (max 1 every))
            | some durationS =>
                let regionFrames := max 0 (span / durationS) * count
                some (⌊regionFrames⌋.toNat / max 1 every)
        | none =>
            match metadata.durationS,
              metadata.averageRate.filter (fun rate => decide (rate ≠ 0)) with
            | some _, some averageRate =>
                let count := ⌊max 0 span * averageRate⌋.toNat / max 1 every
                if 0 < count then some count else none
            | _, _ => none

/-- The loop that the node is configured with; an end of zero means the end of
the file. -/
structure LoopSettings where
  loop : Bool
  loopStartS : ℚ
  loopEndS : ℚ
  processEveryNthFrame : Nat
  loopStartS_nonneg : 0 ≤ loopStartS
  loopEndS_nonneg : 0 ≤ loopEndS
  positive : 1 ≤ processEveryNthFrame

/-- What `_resolve_region` commits.  The error names the configured start and
the duration that it misses. -/
structure ResolvedRegion where
  regionStartS : ℚ
  regionEndS : Option ℚ
  regionError : Option (ℚ × ℚ)
  totalIndex : Option Nat
  headFrameBudget : Option Int
deriving DecidableEq, Repr

/-- The end of the region before the start is compared with it. -/
def clampedEnd (metadata : VideoMetadata) (settings : LoopSettings) : Option ℚ :=
  let wanted := if 0 < settings.loopEndS then some settings.loopEndS else metadata.durationS
  match metadata.durationS, wanted with
  | some durationS, some endS => some (min endS durationS)
  | _, _ => wanted

def clampedStart (metadata : VideoMetadata) (settings : LoopSettings) : ℚ :=
  match metadata.durationS with
  | some durationS => min settings.loopStartS durationS
  | none => settings.loopStartS

/-- The region that is played: a start that is not before the end falls back
to the beginning of the file. -/
def playedRegion (metadata : VideoMetadata) (settings : LoopSettings) : ℚ × Option ℚ :=
  match clampedEnd metadata settings with
  | none => (clampedStart metadata settings, none)
  | some endS =>
      if endS ≤ clampedStart metadata settings then
        (0, if endS ≤ 0 then none else some endS)
      else (clampedStart metadata settings, some endS)

/-- The frames that the loop head may hold. -/
def headFrameBudget (metadata : VideoMetadata) (settings : LoopSettings) (startS : ℚ)
    (endS : Option ℚ) : Option Int :=
  match settings.loop, metadata.averageRate.filter (fun rate => decide (0 < rate)), endS with
  | true, some averageRate, some endS =>
      let regionFrames :=
        ⌊max 0 (endS - startS) * averageRate / (settings.processEveryNthFrame : ℚ)⌋
      if 1 ≤ regionFrames then some (min ⌊averageRate⌋ (max 2 regionFrames)) else none
  | _, _, _ => none

/-- `_resolve_region`. -/
def resolveRegion (metadata : VideoMetadata) (settings : LoopSettings) : ResolvedRegion :=
  let region := playedRegion metadata settings
  {
    regionStartS := region.1
    regionEndS := region.2
    regionError := (metadata.durationS.filter (fun durationS =>
      decide (durationS ≤ settings.loopStartS))).map (fun durationS =>
        (settings.loopStartS, durationS))
    totalIndex := totalProcessedIndex metadata settings.processEveryNthFrame region.1 region.2
    headFrameBudget := headFrameBudget metadata settings region.1 region.2
  }

/-! ## Files of a constant rate -/

/-- A file whose frames follow each other at a constant rate from zero on. -/
structure ConstantRate where
  frameCount : Nat
  rate : ℚ
  frameCount_pos : 0 < frameCount
  rate_pos : 0 < rate

namespace ConstantRate

variable (file : ConstantRate)

def durationS : ℚ := file.frameCount / file.rate

/-- The metadata that describes the file exactly. -/
def metadata : VideoMetadata where
  durationS := some file.durationS
  averageRate := some file.rate
  frameCount := some file.frameCount

def frame (index : Nat) : VideoFrame := ⟨some (index / file.rate), true⟩

/-- The frames that the container yields from a keyframe on. -/
def framesFrom (keyframe : Nat) : List VideoFrame :=
  (List.range' keyframe (file.frameCount - keyframe)).map file.frame

end ConstantRate

/-! ## How many frames a region hands over -/

section Counting

variable {startS : ℚ} {endS : Option ℚ} {everyNth : Nat}

/-- Frames before the region are discarded. -/
theorem handed_before {front : List VideoFrame}
    (before : ∀ frame ∈ front, placeOf startS endS frame = .before) (index : Nat)
    (rest : List VideoFrame) :
    RegionPass.handed startS endS everyNth index (front ++ rest) =
      RegionPass.handed startS endS everyNth index rest := by
  induction front with
  | nil => rfl
  | cons frame front ih =>
      rcases List.forall_mem_cons.mp before with ⟨first, others⟩
      rw [List.cons_append, RegionPass.handed, first]
      exact ih others

/-- A frame past the region ends it. -/
theorem handed_past {frames : List VideoFrame}
    (past : ∀ frame ∈ frames, placeOf startS endS frame = .past) (index : Nat) :
    RegionPass.handed startS endS everyNth index frames = [] := by
  cases frames with
  | nil => rfl
  | cons frame rest => rw [RegionPass.handed, past frame List.mem_cons_self]

/-- How many of so many numbers from an index on are selected. -/
def selectedCount (everyNth index : Nat) : Nat → Nat
  | 0 => 0
  | count + 1 =>
      (if index % everyNth = 0 then 1 else 0) + selectedCount everyNth (index + 1) count

/-- Of the frames in the region the selected ones are handed over. -/
theorem length_handed_inside {middle : List VideoFrame}
    (inside : ∀ frame ∈ middle, placeOf startS endS frame = .inside ∧
      ∀ index, (convertFrame frame index).isSome) (index : Nat) {rest : List VideoFrame}
    (past : ∀ frame ∈ rest, placeOf startS endS frame = .past) :
    (RegionPass.handed startS endS everyNth index (middle ++ rest)).length =
      selectedCount everyNth index middle.length := by
  induction middle generalizing index with
  | nil =>
      rw [List.nil_append, handed_past past]
      rfl
  | cons frame middle ih =>
      rcases List.forall_mem_cons.mp inside with ⟨⟨first, converts⟩, others⟩
      rw [List.cons_append, RegionPass.handed, first, List.length_cons, selectedCount]
      dsimp only
      rw [List.length_append, ih others (index + 1)]
      congr 1
      split_ifs
      · rcases Option.isSome_iff_exists.mp (converts index) with ⟨decoded, converted⟩
        rw [converted]
        rfl
      · rfl

theorem selectedCount_succ (everyNth index count : Nat) :
    selectedCount everyNth index (count + 1) =
      selectedCount everyNth index count + if (index + count) % everyNth = 0 then 1 else 0 := by
  induction count generalizing index with
  | zero => simp [selectedCount]
  | succ count ih =>
      have onward : index + 1 + count = index + (count + 1) := by omega
      rw [selectedCount, ih (index + 1), onward, selectedCount, Nat.add_assoc]

/-- From zero on the quotient rounded up. -/
theorem selectedCount_zero (positive : 1 ≤ everyNth) (count : Nat) :
    selectedCount everyNth 0 count = (count + (everyNth - 1)) / everyNth := by
  induction count with
  | zero => rw [selectedCount, Nat.zero_add, Nat.div_eq_of_lt (Nat.sub_lt positive Nat.one_pos)]
  | succ count ih =>
      have next : count + 1 + (everyNth - 1) = count + (everyNth - 1) + 1 := by omega
      have whole : count + (everyNth - 1) + 1 = count + everyNth := by omega
      rw [selectedCount_succ, ih, next, Nat.succ_div, whole, Nat.zero_add]
      congr 1
      have multiple : everyNth ∣ count + everyNth ↔ count % everyNth = 0 := by
        rw [← Nat.dvd_iff_mod_eq_zero]
        exact (Nat.dvd_add_iff_left (dvd_refl everyNth)).symm
      simp only [multiple]

end Counting

namespace ConstantRate

variable {file : ConstantRate} {startS endS : ℚ}

theorem placeOf_before {index : Nat} (early : index < ⌈startS * file.rate⌉₊) :
    placeOf startS (some endS) (file.frame index) = .before := by
  have earlier : (index : ℚ) / file.rate < startS :=
    (div_lt_iff₀ file.rate_pos).mpr (Nat.lt_ceil.mp early)
  simp only [placeOf, frame, earlier, if_true]

theorem placeOf_inside {index : Nat} (nonneg : 0 ≤ endS) (late : ⌈startS * file.rate⌉₊ ≤ index)
    (soon : index ≤ ⌊endS * file.rate⌋₊) :
    placeOf startS (some endS) (file.frame index) = .inside := by
  have notBefore : ¬ (index : ℚ) / file.rate < startS :=
    not_lt.mpr ((le_div_iff₀ file.rate_pos).mpr (Nat.ceil_le.mp late))
  have notPast : ¬ endS < (index : ℚ) / file.rate :=
    not_lt.mpr ((div_le_iff₀ file.rate_pos).mpr
      ((Nat.le_floor_iff (mul_nonneg nonneg file.rate_pos.le)).mp soon))
  simp only [placeOf, frame, notBefore, notPast, if_false, Option.any_some, decide_false,
    Bool.false_eq_true]

theorem placeOf_past {index : Nat} (ordered : startS < endS)
    (late : ⌊endS * file.rate⌋₊ < index) :
    placeOf startS (some endS) (file.frame index) = .past := by
  have past : endS < (index : ℚ) / file.rate :=
    (lt_div_iff₀ file.rate_pos).mpr (Nat.lt_of_floor_lt late)
  have notBefore : ¬ (index : ℚ) / file.rate < startS :=
    not_lt.mpr (ordered.trans past).le
  simp only [placeOf, frame, notBefore, past, if_false, Option.any_some, decide_true, if_true]

/-- The frames of a region: those from the first one at or after its start to
the last one at or before its end. -/
def framesInRegion (file : ConstantRate) (startS endS : ℚ) : Nat :=
  min file.frameCount (⌊endS * file.rate⌋₊ + 1) - ⌈startS * file.rate⌉₊

/-- The frames before, in and after a region. -/
theorem framesFrom_split (endS : ℚ) {keyframe : Nat} (early : keyframe ≤ ⌈startS * file.rate⌉₊)
    (within : ⌈startS * file.rate⌉₊ ≤ file.frameCount) :
    file.framesFrom keyframe =
      (List.range' keyframe (⌈startS * file.rate⌉₊ - keyframe)).map file.frame ++
        ((List.range' ⌈startS * file.rate⌉₊ (file.framesInRegion startS endS)).map file.frame ++
          (List.range' (⌈startS * file.rate⌉₊ + file.framesInRegion startS endS)
            (file.frameCount - (⌈startS * file.rate⌉₊ + file.framesInRegion startS endS))).map
              file.frame) := by
  have inside : file.framesInRegion startS endS ≤ file.frameCount - ⌈startS * file.rate⌉₊ :=
    Nat.sub_le_sub_right (min_le_left _ _) _
  have first : keyframe + (⌈startS * file.rate⌉₊ - keyframe) = ⌈startS * file.rate⌉₊ := by omega
  have whole : file.frameCount - keyframe = (⌈startS * file.rate⌉₊ - keyframe) +
      (file.framesInRegion startS endS +
        (file.frameCount - (⌈startS * file.rate⌉₊ + file.framesInRegion startS endS))) := by
    omega
  rw [← List.map_append, ← List.map_append, List.range'_append_1, framesFrom, whole,
    ← List.range'_append_1 (s := keyframe), first]

/-- A pass hands over every N-th frame of its region, whatever keyframe the
seek has landed on. -/
theorem length_liveFrames {everyNth : Nat} (positive : 1 ≤ everyNth) (nonneg : 0 ≤ startS)
    (ordered : startS < endS) (within : ⌈startS * file.rate⌉₊ ≤ file.frameCount) {keyframe : Nat}
    (sought : (keyframe : ℚ) / file.rate ≤ startS) :
    (liveFrames startS (some endS) everyNth (file.framesFrom keyframe)).length =
      (file.framesInRegion startS endS + (everyNth - 1)) / everyNth := by
  have early : keyframe ≤ ⌈startS * file.rate⌉₊ := by
    have below : (keyframe : ℚ) ≤ startS * file.rate := (div_le_iff₀ file.rate_pos).mp sought
    exact_mod_cast below.trans (Nat.le_ceil _)
  have counted : file.framesInRegion startS endS =
    min file.frameCount (⌊endS * file.rate⌋₊ + 1) - ⌈startS * file.rate⌉₊ := rfl
  rw [liveFrames_eq, framesFrom_split endS early within, handed_before,
    length_handed_inside, List.length_map, List.length_range', selectedCount_zero positive]
  · intro frame member
    rcases List.mem_map.mp member with ⟨index, isIndex, rfl⟩
    have bounds := List.mem_range'_1.mp isIndex
    exact ⟨placeOf_inside (nonneg.trans ordered.le) bounds.1 (by omega), fun _ => rfl⟩
  · intro frame member
    rcases List.mem_map.mp member with ⟨index, isIndex, rfl⟩
    have bounds := List.mem_range'_1.mp isIndex
    exact placeOf_past ordered (by omega)
  · intro frame member
    rcases List.mem_map.mp member with ⟨index, isIndex, rfl⟩
    have bounds := List.mem_range'_1.mp isIndex
    exact placeOf_before (by omega)

end ConstantRate

/-! ## The region of an exactly described file -/

section Region

variable (file : ConstantRate) (settings : LoopSettings)

theorem ConstantRate.durationS_pos : 0 < file.durationS :=
  div_pos (Nat.cast_pos.mpr file.frameCount_pos) file.rate_pos

/-- A region of an exactly described file is a segment of the file. -/
theorem playedRegion_segment :
    ∃ endS, (playedRegion file.metadata settings).2 = some endS ∧
      0 ≤ (playedRegion file.metadata settings).1 ∧
      (playedRegion file.metadata settings).1 < endS ∧ endS ≤ file.durationS := by
  have duration := file.durationS_pos
  obtain ⟨endS, isEnd, positive, within⟩ : ∃ endS, clampedEnd file.metadata settings = some endS ∧
      0 < endS ∧ endS ≤ file.durationS := by
    rw [clampedEnd]
    split_ifs with given
    · exact ⟨_, rfl, lt_min given duration, min_le_right _ _⟩
    · exact ⟨_, rfl, lt_min duration duration, min_le_right _ _⟩
  have isStart : 0 ≤ clampedStart file.metadata settings :=
    le_min settings.loopStartS_nonneg duration.le
  rw [playedRegion, isEnd]
  dsimp only
  split_ifs with misplaced empty
  · exact absurd positive (not_lt.mpr empty)
  · exact ⟨endS, rfl, le_rfl, positive, within⟩
  · exact ⟨endS, rfl, isStart, not_le.mp misplaced, within⟩

/-- The total of a segment is the whole number of selections in its length. -/
theorem totalProcessedIndex_segment {startS endS : ℚ} (ordered : startS < endS) {every : Nat}
    (positive : 1 ≤ every) :
    totalProcessedIndex file.metadata every startS (some endS) =
      some (⌊(endS - startS) * file.rate⌋₊ / every) := by
  have span : 0 < endS - startS := sub_pos.mpr ordered
  have duration := file.durationS_pos
  have counted : file.metadata.usableCount = some file.frameCount := by
    simp [VideoMetadata.usableCount, ConstantRate.metadata, file.frameCount_pos]
  have timed : file.metadata.durationS.filter (fun durationS => decide (0 < durationS)) =
      some file.durationS := by
    simp [ConstantRate.metadata, duration]
  have frames : max 0 ((endS - startS) / file.durationS) * file.frameCount =
      (endS - startS) * file.rate := by
    have count : (file.frameCount : ℚ) ≠ 0 := Nat.cast_ne_zero.mpr file.frameCount_pos.ne'
    have rate := file.rate_pos.ne'
    rw [max_eq_right (div_pos span duration).le, ConstantRate.durationS]
    field_simp
  rw [totalProcessedIndex]
  dsimp only
  rw [max_eq_right span.le, if_neg (not_le.mpr span), counted, timed]
  dsimp only
  rw [frames, Int.floor_toNat, max_eq_right positive]

end Region

/-! ## When the total agrees with a pass -/

/-- The frames that one pass over the resolved region presents. -/
def presentedInPass (file : ConstantRate) (settings : LoopSettings) (keyframe : Nat) : Nat :=
  (liveFrames (resolveRegion file.metadata settings).regionStartS
    (resolveRegion file.metadata settings).regionEndS settings.processEveryNthFrame
    (file.framesFrom keyframe)).length

/-- The published total is the number of frames of the pass, so that the
processed index reaches it with the last frame and not before. -/
def TotalMeetsPass (file : ConstantRate) (settings : LoopSettings) (keyframe : Nat) : Prop :=
  (resolveRegion file.metadata settings).totalIndex =
      some (presentedInPass file settings keyframe) ∧
    ∀ processedIndex ≤ presentedInPass file settings keyframe,
      (resolveRegion file.metadata settings).totalIndex = some processedIndex ↔
        processedIndex = presentedInPass file settings keyframe

/-- The frame periods of the region are whole selections, and the region ends
with the file or its two cut periods make up a whole one. -/
def WholeSelections (file : ConstantRate) (startS : ℚ) (endS : ℚ) (everyNth : Nat) : Prop :=
  everyNth ∣ ⌊(endS - startS) * file.rate⌋₊ ∧
    (endS = file.durationS ∨
      1 ≤ Int.fract (endS * file.rate) + (⌈startS * file.rate⌉ - startS * file.rate))

/-- The whole part of a difference, from the whole numbers between. -/
theorem floor_sub_eq (start finish : ℚ) :
    ⌊finish - start⌋ = ⌊finish⌋ - ⌈start⌉ +
      if 1 ≤ Int.fract finish + (⌈start⌉ - start) then 1 else 0 := by
  have split : finish - start =
      ((⌊finish⌋ - ⌈start⌉ : ℤ) : ℚ) + (Int.fract finish + (⌈start⌉ - start)) := by
    rw [Int.fract]
    push_cast
    ring
  have lower : 0 ≤ Int.fract finish + (⌈start⌉ - start) :=
    add_nonneg (Int.fract_nonneg finish) (sub_nonneg.mpr (Int.le_ceil start))
  have upper : Int.fract finish + (⌈start⌉ - start) < 2 := by
    linarith [Int.fract_lt_one finish, Int.ceil_lt_add_one start]
  rw [split, Int.floor_intCast_add]
  congr 1
  split_ifs with whole
  · rw [Int.floor_eq_iff]
    exact ⟨by exact_mod_cast whole, by norm_num; exact upper⟩
  · rw [Int.floor_eq_zero_iff]
    exact ⟨lower, not_le.mp whole⟩

/-- One more frame than whole periods lies in a region whose cut periods do
not make up a whole one. -/
theorem framesInRegion_eq {file : ConstantRate} {startS endS : ℚ} (nonneg : 0 ≤ startS)
    (ordered : startS < endS) (within : endS ≤ file.durationS) :
    file.framesInRegion startS endS = ⌊(endS - startS) * file.rate⌋₊ +
      if endS = file.durationS ∨
          1 ≤ Int.fract (endS * file.rate) + (⌈startS * file.rate⌉ - startS * file.rate)
        then 0 else 1 := by
  have rate := file.rate_pos
  have start : 0 ≤ startS * file.rate := mul_nonneg nonneg rate.le
  have span : 0 ≤ (endS - startS) * file.rate := mul_nonneg (sub_nonneg.mpr ordered.le) rate.le
  have finish : 0 ≤ endS * file.rate := mul_nonneg (nonneg.trans ordered.le) rate.le
  have firstFrame := Int.natCast_ceil_eq_ceil start
  have lastFrame := Int.natCast_floor_eq_floor finish
  have periods := Int.natCast_floor_eq_floor span
  rw [sub_mul, floor_sub_eq] at periods
  rw [ConstantRate.framesInRegion, sub_mul]
  by_cases toEnd : endS = file.durationS
  · have whole : endS * file.rate = file.frameCount := by
      rw [toEnd, ConstantRate.durationS, div_mul_cancel₀ _ rate.ne']
    rw [if_pos (Or.inl toEnd)]
    rw [whole, Int.fract_natCast, zero_add, Int.floor_natCast,
      if_neg (not_le.mpr (sub_lt_iff_lt_add'.mpr (Int.ceil_lt_add_one _)))] at periods
    rw [whole, Nat.floor_natCast]
    omega
  · have before : endS * file.rate < file.frameCount :=
      (lt_div_iff₀ rate).mp (lt_of_le_of_ne within toEnd)
    have below : ⌊endS * file.rate⌋₊ < file.frameCount := (Nat.floor_lt finish).mpr before
    simp only [toEnd, false_or]
    split_ifs at periods ⊢ <;> omega

/-- A quotient rounded down is the one rounded up at multiples only. -/
theorem div_eq_ceil_iff {every count : Nat} (positive : 1 ≤ every) :
    count / every = (count + (every - 1)) / every ↔ every ∣ count := by
  have split := Nat.div_add_mod' count every
  have remainder : every ∣ count ↔ count % every < 1 := by
    rw [Nat.dvd_iff_mod_eq_zero, Nat.lt_one_iff]
  rw [remainder, eq_comm, Nat.div_eq_iff positive]
  constructor
  · rintro ⟨_, below⟩
    omega
  · intro none
    exact ⟨by omega, by omega⟩

/-- The total meets a pass over a segment when its periods are whole selections. -/
theorem total_eq_presented_iff {file : ConstantRate} {startS endS : ℚ} {everyNth : Nat}
    (positive : 1 ≤ everyNth) (nonneg : 0 ≤ startS) (ordered : startS < endS)
    (within : endS ≤ file.durationS) :
    ⌊(endS - startS) * file.rate⌋₊ / everyNth =
        (file.framesInRegion startS endS + (everyNth - 1)) / everyNth ↔
      WholeSelections file startS endS everyNth := by
  rw [WholeSelections, framesInRegion_eq nonneg ordered within]
  split_ifs with whole
  · rw [Nat.add_zero, div_eq_ceil_iff positive]
    exact (and_iff_left whole).symm
  · have further : ⌊(endS - startS) * file.rate⌋₊ + 1 + (everyNth - 1) =
        ⌊(endS - startS) * file.rate⌋₊ + everyNth := by omega
    rw [further, Nat.add_div_right _ positive]
    constructor
    · intro impossible
      exact absurd impossible (Nat.lt_succ_self _).ne
    · intro both
      exact absurd both.2 whole

/-- The total is never too large, and too small by at most one. -/
theorem total_le_presented {file : ConstantRate} {startS endS : ℚ} {everyNth : Nat}
    (positive : 1 ≤ everyNth) (nonneg : 0 ≤ startS) (ordered : startS < endS)
    (within : endS ≤ file.durationS) :
    ⌊(endS - startS) * file.rate⌋₊ / everyNth ≤
        (file.framesInRegion startS endS + (everyNth - 1)) / everyNth ∧
      (file.framesInRegion startS endS + (everyNth - 1)) / everyNth ≤
        ⌊(endS - startS) * file.rate⌋₊ / everyNth + 1 := by
  rw [framesInRegion_eq nonneg ordered within, ← Nat.add_div_right _ positive]
  constructor
  · exact Nat.div_le_div_right (by omega)
  · apply Nat.div_le_div_right
    split_ifs <;> omega

/-- The region of the settings is whole selections long. -/
def RegionIsWhole (file : ConstantRate) (settings : LoopSettings) : Prop :=
  ∃ endS, (playedRegion file.metadata settings).2 = some endS ∧
    WholeSelections file (playedRegion file.metadata settings).1 endS settings.processEveryNthFrame

/-- The published total meets the pass exactly when the region is whole
selections long. -/
theorem totalMeetsPass_iff (file : ConstantRate) (settings : LoopSettings) (keyframe : Nat)
    (sought : (keyframe : ℚ) / file.rate ≤ (playedRegion file.metadata settings).1) :
    TotalMeetsPass file settings keyframe ↔ RegionIsWhole file settings := by
  rcases playedRegion_segment file settings with ⟨endS, isEnd, nonneg, ordered, within⟩
  have inFile : ⌈(playedRegion file.metadata settings).1 * file.rate⌉₊ ≤ file.frameCount := by
    apply Nat.ceil_le.mpr
    exact (le_div_iff₀ file.rate_pos).mp (ordered.le.trans within)
  have presented : presentedInPass file settings keyframe =
      (file.framesInRegion (playedRegion file.metadata settings).1 endS +
        (settings.processEveryNthFrame - 1)) / settings.processEveryNthFrame := by
    rw [← ConstantRate.length_liveFrames settings.positive nonneg ordered inFile sought, ← isEnd]
    rfl
  have total : (resolveRegion file.metadata settings).totalIndex =
      some (⌊(endS - (playedRegion file.metadata settings).1) * file.rate⌋₊ /
        settings.processEveryNthFrame) := by
    rw [← totalProcessedIndex_segment file ordered settings.positive, ← isEnd]
    rfl
  have isWhole : RegionIsWhole file settings ↔
      WholeSelections file (playedRegion file.metadata settings).1 endS
        settings.processEveryNthFrame := by
    constructor
    · rintro ⟨other, isOther, whole⟩
      rw [isEnd, Option.some.injEq] at isOther
      rw [isOther]
      exact whole
    · exact fun whole => ⟨endS, isEnd, whole⟩
  rw [isWhole, ← total_eq_presented_iff settings.positive nonneg ordered within, TotalMeetsPass,
    total, presented, Option.some.injEq]
  constructor
  · exact And.left
  · intro same
    refine ⟨same, fun processedIndex _ => ?_⟩
    rw [same, Option.some.injEq, eq_comm]

/-- Ten frames a second for a second, of which every third is selected. -/
def tenFrames : ConstantRate := ⟨10, 10, by norm_num, by norm_num⟩

/-- The bounds that stand for the whole file. -/
theorem unsetBound_nonneg : (0 : ℚ) ≤ 0 := le_rfl

def everyThird : LoopSettings :=
  ⟨true, 0, 0, 3, unsetBound_nonneg, unsetBound_nonneg, by norm_num⟩

/-- The whole file, every third frame selected. -/
theorem totalMeetsPass_iff_tenFrames :
    TotalMeetsPass tenFrames everyThird 0 ↔ RegionIsWhole tenFrames everyThird :=
  totalMeetsPass_iff tenFrames everyThird 0 (by decide +kernel)

/-- Four frames are presented and three are published. -/
theorem total_misses_pass :
    ¬ ∀ (file : ConstantRate) (settings : LoopSettings) (keyframe : Nat),
      (keyframe : ℚ) / file.rate ≤ (playedRegion file.metadata settings).1 →
        TotalMeetsPass file settings keyframe := by
  intro claimed
  have meets := (claimed tenFrames everyThird 0 (by decide +kernel)).1
  revert meets
  decide +kernel

end Media
end Synesthesia
