import Synesthesia.Media.DecodeEffect
import Synesthesia.Media.SeekObservation

namespace Synesthesia
namespace Media

open Foundation

/-!
# The frames of a seek on their way

What the decode thread has decoded for a seek and the presentation thread has
not presented yet is in transit: in the hands of one of the two threads, or in
the queue.  Until the first frame is presented, the first item in transit is
the first frame of the pass that starts at the target.
-/

/-! ## In transit -/

/-- The item that the decode thread is putting. -/
def Decoder.hands (decoder : Decoder) : List DecodeItem :=
  match decoder.phase with
  | .putting put => [put.item decoder.pass]
  | .offering put => [put.item decoder.pass]
  | _ => []

/-- The frame that the presentation thread holds, as it was in the queue. -/
def PresentPhase.hands (phase : PresentPhase) : List DecodeItem :=
  match phase.held with
  | some held => [.frame held.pass held.frame]
  | none => []

/-- A frame or a loop signal of a pass that honours the seek. -/
def DecodeItem.isOf (generation : Nat) (item : DecodeItem) : Bool :=
  decide (item.seekGeneration = generation) && !item.isEnd

theorem isOf_iff {generation : Nat} {item : DecodeItem} :
    item.isOf generation = true ↔ item.seekGeneration = generation ∧ item.isEnd = false := by
  rw [DecodeItem.isOf, Bool.and_eq_true, decide_eq_true_eq, Bool.not_eq_true']

theorem isOf_of_ne {generation : Nat} {item : DecodeItem}
    (other : item.seekGeneration ≠ generation) : item.isOf generation = false := by
  rw [DecodeItem.isOf, decide_eq_false other]
  rfl

namespace VideoSourceService

open DecodeItem

/-- Oldest first. -/
def transit (service : VideoSourceService) : List DecodeItem :=
  service.presenter.phase.hands ++ service.decodeQueue ++ service.decoder.hands

/-- The decode thread has put nothing of its pass yet, or is about to begin the
pass at the target. -/
def Fresh (configuration : Configuration) (service : VideoSourceService) (targetS : ℚ) : Prop :=
  match service.decoder.phase with
  | .looping => service.seekEvent = true ∨ service.passStartS = targetS
  | .beginning => service.seekEvent = true ∨ service.passStartS = targetS
  | .reading => True
  | .consuming => service.decoder.pass.startS = targetS
  | .opening => service.decoder.pass.startS = targetS
  | .decoding regionPass => service.decoder.pass.startS = targetS ∧
      regionPass.remaining service.recording.regionEndS configuration.processEveryNthFrame =
        passFrames configuration service.recording targetS
  | .returned _ => service.seekEvent = true
  | .deciding _ => service.seekEvent = true
  | .putting _ => False
  | .offering _ => False
  | .exited => True

/-- The first item in transit that honours the seek is the first frame of the
pass at the target; when there is none, that pass is still to begin. -/
def Leads (configuration : Configuration) (service : VideoSourceService) (generation : Nat)
    (targetS : ℚ) (first : DecodedVideoFrame) : Prop :=
  match service.transit.filter (isOf generation) with
  | [] => service.decoder.pass.seekGeneration = generation → service.Fresh configuration targetS
  | item :: _ => ∃ pass : Pass, item = .frame pass first ∧ pass.startS = targetS

/-- What `Leads` is about: a target inside the region whose pass has frames. -/
def Begins (configuration : Configuration) (recording : Recording) (targetS : ℚ)
    (first : DecodedVideoFrame) : Prop :=
  recording.contains targetS = true ∧
    ∃ rest, passFrames configuration recording targetS = first :: rest

variable {configuration : Configuration} {service next : VideoSourceService} {generation : Nat}
  {targetS : ℚ} {first : DecodedVideoFrame}

variable (leads : service.Leads configuration generation targetS first)
include leads

/-- A step that moves nothing of the seek. -/
theorem Leads.of_transit (transit : next.transit.filter (isOf generation) =
      service.transit.filter (isOf generation))
    (fresh : (service.decoder.pass.seekGeneration = generation →
        service.Fresh configuration targetS) →
      next.decoder.pass.seekGeneration = generation → next.Fresh configuration targetS) :
    next.Leads configuration generation targetS first := by
  unfold Leads at leads ⊢
  rw [transit]
  cases waiting : service.transit.filter (isOf generation) with
  | nil =>
      rw [waiting] at leads
      exact fresh leads
  | cons item rest =>
      rw [waiting] at leads
      exact leads

/-- The decode thread takes up a new item. -/
theorem Leads.of_append {item : DecodeItem} (transit : next.transit = service.transit ++ [item])
    (isFirst : service.transit.filter (isOf generation) = [] → isOf generation item = true →
      (service.decoder.pass.seekGeneration = generation → service.Fresh configuration targetS) →
        ∃ pass : Pass, item = .frame pass first ∧ pass.startS = targetS)
    (ofAnother : isOf generation item = false →
      (service.decoder.pass.seekGeneration = generation → service.Fresh configuration targetS) →
        next.decoder.pass.seekGeneration = generation → next.Fresh configuration targetS) :
    next.Leads configuration generation targetS first := by
  unfold Leads at leads ⊢
  rw [transit, List.filter_append]
  cases waiting : service.transit.filter (isOf generation) with
  | nil =>
      rw [waiting] at leads
      cases isOfSeek : isOf generation item with
      | true =>
          rw [List.filter_cons_of_pos isOfSeek]
          exact isFirst waiting isOfSeek leads
      | false =>
          rw [List.filter_cons_of_neg (by rw [isOfSeek]; decide)]
          exact ofAnother isOfSeek leads
  | cons earlier rest =>
      rw [waiting] at leads
      exact leads

/-- The presentation thread lets go of an item that is not of the seek. -/
theorem Leads.of_drop {item : DecodeItem} (transit : service.transit = item :: next.transit)
    (ofAnother : isOf generation item = false) (decoder : next.decoder = service.decoder)
    (fresh : service.Fresh configuration targetS → next.Fresh configuration targetS) :
    next.Leads configuration generation targetS first := by
  refine leads.of_transit ?_ ?_
  · rw [transit, List.filter_cons_of_neg (by rw [ofAnother]; decide)]
  · intro was isOfSeek
    rw [decoder] at isOfSeek
    exact fresh (was isOfSeek)

omit leads in
/-- Nothing of a seek that no pass honours yet is in transit. -/
theorem leads_of_none (none : service.transit.filter (isOf generation) = [])
    (other : service.decoder.pass.seekGeneration ≠ generation) :
    service.Leads configuration generation targetS first := by
  unfold Leads
  rw [none]
  exact fun isOfSeek => absurd isOfSeek other

/-! ## The decode thread -/

omit leads in
theorem transit_of_decoder (hands : next.decoder.hands = service.decoder.hands)
    (queue : next.decodeQueue = service.decodeQueue)
    (presenter : next.presenter = service.presenter) : next.transit = service.transit := by
  unfold transit
  rw [hands, queue, presenter]

/-- The thread moves from one point without an item to another. -/
theorem Leads.of_decoder (empty : service.decoder.hands = []) (hands : next.decoder.hands = [])
    (queue : next.decodeQueue = service.decodeQueue)
    (presenter : next.presenter = service.presenter)
    (fresh : (service.decoder.pass.seekGeneration = generation →
        service.Fresh configuration targetS) →
      next.decoder.pass.seekGeneration = generation → next.Fresh configuration targetS) :
    next.Leads configuration generation targetS first := by
  refine leads.of_transit ?_ fresh
  rw [transit_of_decoder (hands.trans empty.symm) queue presenter]

omit leads in
theorem transit_of_hands (empty : service.decoder.hands = [])
    (queue : next.decodeQueue = service.decodeQueue)
    (presenter : next.presenter = service.presenter) :
    next.transit = service.transit ++ next.decoder.hands := by
  unfold transit
  rw [empty, queue, presenter, List.append_nil]

/-- A failed attempt of a pass that does not honour the seek. -/
theorem Leads.decodeFailed (empty : service.decoder.hands = [])
    (settled : (service.decoder.pass.seekGeneration = generation →
      service.Fresh configuration targetS) → service.decoder.pass.seekGeneration ≠ generation) :
    (decodeFailed configuration service).Leads configuration generation targetS first := by
  rcases decodeFailed_shape configuration service with
    ⟨state, failures, phase, shape, _, again | ending⟩
  · rw [shape]
    refine leads.of_decoder empty ?_ rfl rfl ?_
    · rw [Decoder.hands, again]
    · exact fun fresh isOfSeek => absurd isOfSeek (settled fresh)
  · have grown : (VideoSourceService.decodeFailed configuration service).transit =
        service.transit ++ [.finish service.decoder.pass] := by
      rw [shape]
      refine (transit_of_hands empty ?_ ?_).trans ?_
      · rfl
      · rfl
      · simp only [Decoder.hands, ending]
        rfl
    refine leads.of_append grown ?_ ?_
    · intro _ isOfSeek
      cases (isOf_iff.mp isOfSeek).2
    · rw [shape]
      exact fun _ fresh isOfSeek => absurd isOfSeek (settled fresh)

omit leads in
/-- A pass that is over has handed over all its frames. -/
theorem not_honours_of_over (begins : Begins configuration service.recording targetS first)
    {pass last : RegionPass} (phase : service.decoder.phase = .decoding pass)
    (isOver : IsOver configuration service pass last)
    (fresh : service.decoder.pass.seekGeneration = generation →
      service.Fresh configuration targetS) :
    service.decoder.pass.seekGeneration ≠ generation := by
  intro isOfSeek
  have begun := fresh isOfSeek
  have exhausted : pass.remaining service.recording.regionEndS
      configuration.processEveryNthFrame = [] := by
    rcases isOver with ⟨exhausted, _⟩ | ⟨_, isNext⟩
    · rw [RegionPass.remaining, exhausted]
      rfl
    · exact RegionPass.remaining_over isNext
  simp only [Fresh, phase] at begun
  rcases begins.2 with ⟨rest, frames⟩
  rw [exhausted, frames] at begun
  cases begun.2

/-- The thread hands over the first frame of the pass at the target. -/
theorem Leads.hand (begins : Begins configuration service.recording targetS first)
    {pass rest : RegionPass} (phase : service.decoder.phase = .decoding pass)
    {frame : DecodedVideoFrame}
    (isNext : pass.next service.recording.regionEndS configuration.processEveryNthFrame =
      .hand frame rest) :
    (service.setDecodePhase (.putting (.frame frame rest))).Leads configuration generation targetS
      first := by
  have empty : service.decoder.hands = [] := by rw [Decoder.hands, phase]
  refine leads.of_append (transit_of_hands empty rfl rfl) ?_ ?_
  · intro _ isOfSeek fresh
    have begun := fresh (isOf_iff.mp isOfSeek).1
    simp only [Fresh, phase] at begun
    rcases begun with ⟨starts, remaining⟩
    rcases begins.2 with ⟨others, frames⟩
    rw [RegionPass.remaining_hand isNext, frames] at remaining
    cases remaining
    exact ⟨service.decoder.pass, rfl, starts⟩
  · intro ofAnother _ isOfSeek
    cases ofAnother.symm.trans (isOf_iff.mpr ⟨isOfSeek, rfl⟩)

/-- The thread begins to put a signal; the seek is not honoured yet, or it
waits. -/
theorem Leads.signal {passedAny : Bool} (phase : service.decoder.phase = .deciding passedAny)
    (settled : service.seekEvent = false) {put : Put} {passStartS : ℚ} :
    Leads configuration { service.setDecodePhase (.putting put) with passStartS := passStartS }
      generation targetS first := by
  have empty : service.decoder.hands = [] := by rw [Decoder.hands, phase]
  have unsought : (service.decoder.pass.seekGeneration = generation →
      service.Fresh configuration targetS) →
        service.decoder.pass.seekGeneration ≠ generation := by
    intro fresh isOfSeek
    have seeks := fresh isOfSeek
    simp only [Fresh, phase] at seeks
    cases seeks.symm.trans settled
  refine leads.of_append (transit_of_hands empty rfl rfl) ?_
    (fun _ fresh isOfSeek => absurd isOfSeek (unsought fresh))
  intro _ isOfSeek fresh
  have honours := (isOf_iff.mp isOfSeek).1
  rw [DecodeItem.seekGeneration, Put.item_pass] at honours
  exact absurd honours (unsought fresh)

omit leads in
/-- Nothing is put of a pass that is still to begin. -/
theorem not_honours_of_put {put : Put}
    (phase : service.decoder.phase = .putting put ∨ service.decoder.phase = .offering put)
    (fresh : service.decoder.pass.seekGeneration = generation →
      service.Fresh configuration targetS) :
    service.decoder.pass.seekGeneration ≠ generation := by
  intro isOfSeek
  have begun := fresh isOfSeek
  rcases phase with puts | offers
  · simp only [Fresh, puts] at begun
  · simp only [Fresh, offers] at begun

/-- A step that changes the phase of the thread only. -/
theorem Leads.turn (begins : Begins configuration service.recording targetS first)
    (running : service.stopEvent = false) {after : DecodePhase}
    (turns : DecodeTurns configuration service service.decoder.phase after) :
    (service.setDecodePhase after).Leads configuration generation targetS first := by
  generalize phase : service.decoder.phase = current at turns
  cases turns with
  | stop stopped elsewhere => cases running.symm.trans stopped
  | begin running =>
      refine leads.of_decoder (by rw [Decoder.hands, phase]) rfl rfl rfl ?_
      intro fresh isOfSeek
      have begun := fresh isOfSeek
      simp only [Fresh, phase] at begun
      exact begun
  | skip isNext =>
      refine leads.of_decoder (by rw [Decoder.hands, phase]) rfl rfl rfl ?_
      intro fresh isOfSeek
      have begun := fresh isOfSeek
      simp only [Fresh, phase] at begun
      exact ⟨begun.1, (RegionPass.remaining_skip isNext).symm.trans begun.2⟩
  | hand isNext => exact leads.hand begins phase isNext
  | @offer put running =>
      have hands : (service.setDecodePhase (.offering put)).decoder.hands =
          service.decoder.hands := by
        rw [Decoder.hands, Decoder.hands, phase]
        rfl
      refine leads.of_transit (congrArg _ (transit_of_decoder hands rfl rfl)) ?_
      exact fun fresh isOfSeek => (not_honours_of_put (Or.inl phase) fresh isOfSeek).elim
  | @retry put =>
      have hands : (service.setDecodePhase (.putting put)).decoder.hands =
          service.decoder.hands := by
        rw [Decoder.hands, Decoder.hands, phase]
        rfl
      refine leads.of_transit (congrArg _ (transit_of_decoder hands rfl rfl)) ?_
      exact fun fresh isOfSeek => (not_honours_of_put (Or.inr phase) fresh isOfSeek).elim
  | returned running =>
      refine leads.of_decoder (by rw [Decoder.hands, phase]) rfl rfl rfl ?_
      intro fresh isOfSeek
      have begun := fresh isOfSeek
      simp only [Fresh, phase] at begun
      exact begun
  | seek seeks =>
      exact leads.of_decoder (by rw [Decoder.hands, phase]) rfl rfl rfl
        (fun _ _ => Or.inl seeks)
  | finish settled => exact leads.signal phase settled

/-- A pass at the target opens and has its frames to put. -/
theorem Leads.open (phase : service.decoder.phase = .opening)
    (fresh : service.decoder.pass.startS = targetS → next.Fresh configuration targetS)
    (hands : next.decoder.hands = []) (queue : next.decodeQueue = service.decodeQueue)
    (presenter : next.presenter = service.presenter)
    (generations : next.decoder.pass.seekGeneration = service.decoder.pass.seekGeneration) :
    next.Leads configuration generation targetS first := by
  refine leads.of_decoder (by rw [Decoder.hands, phase]) hands queue presenter ?_
  intro starts isOfSeek
  have begun := starts (generations.symm.trans isOfSeek)
  simp only [Fresh, phase] at begun
  exact fresh begun

theorem Leads.decodeStep (begins : Begins configuration service.recording targetS first)
    (running : service.stopEvent = false)
    (reads : service.seekGeneration = generation → service.seekTargetS = targetS)
    {choice : Choice}
    (raises : choice = .raise → service.decoder.pass.seekGeneration ≠ generation)
    (taken : decodeStep configuration service choice = some next) :
    next.Leads configuration generation targetS first := by
  rcases decodeStep_cases taken with ⟨current, phase, decodes⟩
  cases decodes with
  | turn turns => exact leads.turn begins running (phase ▸ turns)
  | seek seeks =>
      exact leads.of_decoder (by rw [Decoder.hands, phase]) rfl rfl rfl (fun _ _ => trivial)
  | begin settled =>
      refine leads.of_decoder (by rw [Decoder.hands, phase]) rfl rfl rfl ?_
      intro fresh isOfSeek
      have begun := fresh isOfSeek
      simp only [Fresh, phase, settled] at begun
      exact begun.resolve_left Bool.false_ne_true
  | read =>
      exact leads.of_decoder (by rw [Decoder.hands, phase]) rfl rfl rfl
        (fun _ isOfSeek => reads isOfSeek)
  | consume =>
      refine leads.of_decoder (by rw [Decoder.hands, phase]) rfl rfl rfl ?_
      intro fresh isOfSeek
      have begun := fresh isOfSeek
      simp only [Fresh, phase] at begun
      exact begun
  | beyond ends =>
      refine leads.open phase ?_ rfl rfl rfl rfl
      intro starts
      have inside := begins.1
      rw [← starts, Recording.contains] at inside
      cases isEnd : service.recording.regionEndS with
      | none =>
          rw [isEnd] at ends
          cases ends
      | some endS =>
          rw [isEnd] at ends inside
          exact absurd (of_decide_eq_true inside) (not_lt.mpr (of_decide_eq_true ends))
  | raised decodes isRaise =>
      refine leads.decodeFailed ?_ (fun _ => raises isRaise)
      rw [Decoder.hands, phase]
      rcases decodes with rfl | ⟨pass, rfl⟩ <;> rfl
  | opened inside =>
      refine leads.open phase ?_ rfl rfl rfl rfl
      rintro rfl
      exact ⟨rfl, rfl⟩
  | unfound isOver nothing =>
      exact leads.decodeFailed (by rw [Decoder.hands, phase])
        (not_honours_of_over begins phase isOver)
  | ended isOver =>
      exact leads.of_decoder (by rw [Decoder.hands, phase]) rfl rfl rfl (fun fresh isOfSeek =>
        (not_honours_of_over begins phase isOver fresh isOfSeek).elim)
  | interrupted stops =>
      rw [running, Bool.false_or] at stops
      exact leads.of_decoder (by rw [Decoder.hands, phase]) rfl rfl rfl (fun _ _ => stops)
  | cut stopped => cases running.symm.trans stopped
  | @put put =>
      have hands : service.decoder.hands = [put.item service.decoder.pass] := by
        rw [Decoder.hands, phase]
      refine leads.of_transit ?_ ?_
      · unfold transit
        rw [hands]
        cases put with
        | frame decoded rest => simp [putDone, setDecodePhase, Decoder.hands]
        | loop => simp [putDone, setDecodePhase, Decoder.hands]
        | finish => simp [putDone, setDecodePhase, Decoder.hands]
      · intro fresh isOfSeek
        refine absurd ?_ (not_honours_of_put (Or.inr phase) fresh)
        cases put <;> exact isOfSeek
  | loop settled passed => exact leads.signal phase settled

end VideoSourceService
end Media
end Synesthesia
