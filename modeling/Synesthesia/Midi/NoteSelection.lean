import Synesthesia.Contracts.RuntimeValues
import Synesthesia.Foundation.Exceptions
import Synesthesia.Foundation.SortByKey

namespace Synesthesia
namespace Midi

open Contracts
open Foundation

/-!
# Note selection

The mapping nodes propose notes with strengths, possibly several times and in
any order.  The selection merges the proposals of a note, keeps the strongest
notes and turns their strengths into velocities.  Strengths are exact
rationals; only finite strengths are proposed.
-/

/-! ## Notes and states -/

theorem toNat_lt_succ {value : Int} {bound : Nat} (below : value ≤ bound) :
    value.toNat < bound + 1 :=
  Nat.lt_succ_of_le (Int.toNat_le.mpr below)

/-- `MidiNoteKey(channel, note)`. -/
def makeNoteKey (channel note : Int) : Except PyError MidiNoteKey :=
  if channelValid : 0 ≤ channel ∧ channel ≤ (15 : Nat) then
    if noteValid : 0 ≤ note ∧ note ≤ (127 : Nat) then
      .ok {
        channel := ⟨channel.toNat, toNat_lt_succ channelValid.2⟩
        note := ⟨note.toNat, toNat_lt_succ noteValid.2⟩
      }
    else
      .error (.valueError "MIDI note must be in the range 0..127")
  else
    .error (.valueError "MIDI channel must be in the range 0..15")

/-- A key is made from its own channel and note, and from nothing else. -/
theorem makeNoteKey_eq_ok {channel note : Int} {key : MidiNoteKey} :
    makeNoteKey channel note = .ok key ↔
      channel = (key.channel.val : Int) ∧ note = (key.note.val : Int) := by
  rcases key with ⟨⟨channelIndex, channelBound⟩, ⟨noteIndex, noteBound⟩⟩
  constructor
  · intro made
    rw [makeNoteKey] at made
    split_ifs at made with channelValid noteValid
    simp only [Except.ok.injEq, MidiNoteKey.mk.injEq, Fin.mk.injEq] at made
    dsimp only
    exact ⟨by omega, by omega⟩
  · rintro ⟨rfl, rfl⟩
    dsimp only
    rw [makeNoteKey,
      dif_pos ⟨Int.natCast_nonneg _, Int.ofNat_le.mpr (Nat.le_of_lt_succ channelBound)⟩,
      dif_pos ⟨Int.natCast_nonneg _, Int.ofNat_le.mpr (Nat.le_of_lt_succ noteBound)⟩]
    simp

/-- An entry with a checked velocity. -/
def activeEntry (entry : MidiNoteKey × Int) (legal : 1 ≤ entry.2 ∧ entry.2 ≤ (127 : Nat)) :
    MidiNoteKey × Fin 128 :=
  (entry.1, ⟨entry.2.toNat, toNat_lt_succ legal.2⟩)

theorem activeEntry_ne_zero (entry : MidiNoteKey × Int)
    (legal : 1 ≤ entry.2 ∧ entry.2 ≤ (127 : Nat)) : (activeEntry entry legal).2 ≠ 0 := by
  intro zero
  have silent : entry.2.toNat = 0 := congrArg Fin.val zero
  omega

/-- `MidiStateFrame(notes, context, source_node_id)`: every velocity is checked. -/
def makeStateFrame (notes : Dict MidiNoteKey Int) (context : FrameContext) (sourceNodeId : UUID) :
    Except PyError MidiStateFrame :=
  if legal : ∀ entry ∈ notes.entries, 1 ≤ entry.2 ∧ entry.2 ≤ (127 : Nat) then
    .ok {
      notes := ⟨notes.entries.pmap activeEntry legal, by
        rw [List.map_pmap]
        simpa only [activeEntry, List.pmap_eq_map] using notes.nodup⟩
      context := context
      sourceNodeId := sourceNodeId
      active := by
        intro entry member
        rcases List.mem_pmap.mp member with ⟨stored, isStored, rfl⟩
        exact activeEntry_ne_zero stored (legal stored isStored)
    }
  else
    .error (.valueError "active MIDI note velocities must be in the range 1..127")

/-! ## The selection -/

abbrev Candidate := Int × ℚ

/-- One pass of the loop over the candidates. -/
def mergeCandidate (strengths : Dict Int ℚ) (candidate : Candidate) : Except PyError (Dict Int ℚ) :=
  if ¬ (0 ≤ candidate.1 ∧ candidate.1 ≤ 127) then
    .error (.valueError "Candidate MIDI note must be in the range 0..127")
  else if ¬ (0 ≤ candidate.2 ∧ candidate.2 ≤ 1) then
    .error (.valueError "Candidate strength must be finite and normalized to 0..1")
  else
    .ok (strengths.insert candidate.1
      (max ((strengths.get? candidate.1).getD 0) candidate.2))

/-- The strongest notes first, and the lower of two equally strong ones. -/
def rank (candidate : Candidate) : ℚ ×ₗ ℤ := toLex (-candidate.2, candidate.1)

/-- A strength on the velocity range, rounded half up. -/
def velocityFor (minimumVelocity maximumVelocity : Int) (strength : ℚ) : Int :=
  min maximumVelocity
    (minimumVelocity + ⌊strength * ((maximumVelocity - minimumVelocity : Int) : ℚ) + 1 / 2⌋)

/-- The order of the items of the result: by channel, note and velocity. -/
def itemRank (item : MidiNoteKey × Int) : ℕ ×ₗ ℕ ×ₗ ℤ :=
  toLex (item.1.channel.val, toLex (item.1.note.val, item.2))

def selectMidiNotes (candidates : List Candidate)
    (channel maximumPolyphony minimumVelocity maximumVelocity : Int) :
    Except PyError (Dict MidiNoteKey Int) := do
  if ¬ (0 ≤ channel ∧ channel ≤ 15) then
    throw (.valueError "MIDI channel must be in the range 0..15")
  if maximumPolyphony < 1 then
    throw (.valueError "maximum_polyphony must be at least 1")
  if ¬ (1 ≤ minimumVelocity ∧ minimumVelocity ≤ maximumVelocity ∧ maximumVelocity ≤ 127) then
    throw (.valueError "Velocity range must satisfy 1 <= minimum <= maximum <= 127")
  let strengths ← candidates.foldlM mergeCandidate Dict.empty
  let strongest := (sortByKey rank strengths.entries).take maximumPolyphony.toNat
  let selected ← strongest.mapM (fun candidate => do
    let key ← makeNoteKey channel candidate.1
    return (key, velocityFor minimumVelocity maximumVelocity candidate.2))
  return Dict.ofEntries (sortByKey itemRank (Dict.ofEntries selected).entries)

/-! ## What is selected -/

/-- A proposal that the selection accepts. -/
def Normalized (candidate : Candidate) : Prop :=
  (0 ≤ candidate.1 ∧ candidate.1 ≤ 127) ∧ 0 ≤ candidate.2 ∧ candidate.2 ≤ 1

def candidateNotes (candidates : List Candidate) : Finset Int :=
  (candidates.map Prod.fst).toFinset

/-- A proposal for the note raises its strength. -/
def raiseStrength (note : Int) (best : ℚ) (candidate : Candidate) : ℚ :=
  if candidate.1 = note then max best candidate.2 else best

/-- The largest strength that is proposed for a note. -/
def maximumStrength (candidates : List Candidate) (note : Int) : ℚ :=
  candidates.foldl (raiseStrength note) 0

/-- The first note is preferred: it is stronger, or as strong and lower. -/
def Precedes (candidates : List Candidate) (first second : Int) : Prop :=
  maximumStrength candidates second < maximumStrength candidates first ∨
    maximumStrength candidates first = maximumStrength candidates second ∧ first < second

instance (candidates : List Candidate) (first second : Int) :
    Decidable (Precedes candidates first second) :=
  inferInstanceAs (Decidable (_ ∨ _))

/-- The candidate notes that are preferred to a note. -/
def preferred (candidates : List Candidate) (note : Int) : Finset Int :=
  (candidateNotes candidates).filter (fun other => Precedes candidates other note)

theorem mem_preferred {candidates : List Candidate} {note other : Int} :
    other ∈ preferred candidates note ↔
      other ∈ candidateNotes candidates ∧ Precedes candidates other note := by
  rw [preferred, Finset.mem_filter]

section Strength

variable {candidates : List Candidate}

theorem le_foldl_strength {note : Int} (candidates : List Candidate) (best : ℚ) :
    best ≤ candidates.foldl (raiseStrength note) best := by
  induction candidates generalizing best with
  | nil => exact le_rfl
  | cons candidate rest ih =>
      apply le_trans _ (ih _)
      rw [raiseStrength]
      split_ifs
      · exact le_max_left _ _
      · exact le_rfl

theorem strength_le_foldl {candidate : Candidate} (member : candidate ∈ candidates) (best : ℚ) :
    candidate.2 ≤ candidates.foldl (raiseStrength candidate.1) best := by
  induction candidates generalizing best with
  | nil => cases member
  | cons first rest ih =>
      rcases List.mem_cons.mp member with rfl | later
      · rw [List.foldl_cons, raiseStrength, if_pos rfl]
        exact le_trans (le_max_right _ _) (le_foldl_strength rest _)
      · exact ih later _

theorem foldl_strength_mem (note : Int) (candidates : List Candidate) (best : ℚ) :
    candidates.foldl (raiseStrength note) best = best ∨
      (note, candidates.foldl (raiseStrength note) best) ∈ candidates := by
  induction candidates generalizing best with
  | nil => exact Or.inl rfl
  | cons candidate rest ih =>
      rw [List.foldl_cons]
      rcases ih (raiseStrength note best candidate) with unchanged | member
      · rw [unchanged, raiseStrength]
        split_ifs with own
        · rcases max_choice best candidate.2 with kept | raised
          · exact Or.inl kept
          · rw [raised, ← own]
            exact Or.inr List.mem_cons_self
        · exact Or.inl rfl
      · exact Or.inr (List.mem_cons_of_mem _ member)

/-- The merged strength is the greatest of the proposed ones. -/
theorem maximumStrength_isGreatest (normalized : ∀ candidate ∈ candidates, Normalized candidate)
    {note : Int} (proposed : note ∈ candidateNotes candidates) :
    IsGreatest {strength | (note, strength) ∈ candidates} (maximumStrength candidates note) := by
  have upper : ∀ strength, (note, strength) ∈ candidates →
      strength ≤ maximumStrength candidates note :=
    fun strength member => strength_le_foldl member 0
  refine ⟨?_, fun strength member => upper strength member⟩
  rcases foldl_strength_mem note candidates 0 with zero | member
  · rcases List.mem_map.mp (List.mem_toFinset.mp proposed) with ⟨candidate, member, rfl⟩
    have least : candidate.2 = maximumStrength candidates candidate.1 := by
      apply le_antisymm (upper candidate.2 member)
      rw [maximumStrength, zero]
      exact (normalized candidate member).2.1
    rw [Set.mem_ofPred_eq, ← least]
    exact member
  · exact member

/-- The merged strength does not depend on order or repetition. -/
theorem maximumStrength_congr {others : List Candidate}
    (normalized : ∀ candidate ∈ candidates, Normalized candidate)
    (same : ∀ candidate, candidate ∈ others ↔ candidate ∈ candidates)
    {note : Int} (proposed : note ∈ candidateNotes candidates) :
    maximumStrength others note = maximumStrength candidates note := by
  have alsoNormalized : ∀ candidate ∈ others, Normalized candidate :=
    fun candidate member => normalized candidate ((same candidate).mp member)
  have alsoProposed : note ∈ candidateNotes others := by
    rcases List.mem_map.mp (List.mem_toFinset.mp proposed) with ⟨candidate, member, rfl⟩
    exact List.mem_toFinset.mpr (List.mem_map_of_mem ((same candidate).mpr member))
  have first := maximumStrength_isGreatest alsoNormalized alsoProposed
  simp only [same] at first
  exact first.unique (maximumStrength_isGreatest normalized proposed)

end Strength

/-! ## The merged strengths -/

/-- The dictionary after an accepted candidate. -/
def merged (strengths : Dict Int ℚ) (candidate : Candidate) : Dict Int ℚ :=
  strengths.insert candidate.1 (max ((strengths.get? candidate.1).getD 0) candidate.2)

theorem foldlM_mergeCandidate {candidates : List Candidate}
    (normalized : ∀ candidate ∈ candidates, Normalized candidate) (strengths : Dict Int ℚ) :
    candidates.foldlM mergeCandidate strengths = .ok (candidates.foldl merged strengths) := by
  induction candidates generalizing strengths with
  | nil => rfl
  | cons candidate rest ih =>
      rcases List.forall_mem_cons.mp normalized with ⟨⟨inNotes, inStrengths⟩, others⟩
      have accepted : mergeCandidate strengths candidate = .ok (merged strengths candidate) := by
        rw [mergeCandidate, if_neg (not_not.mpr inNotes), if_neg (not_not.mpr inStrengths)]
        rfl
      rw [List.foldlM_cons, accepted]
      exact ih others _

theorem mem_keys_foldl_merged {candidates : List Candidate} {strengths : Dict Int ℚ} {note : Int} :
    note ∈ (candidates.foldl merged strengths).keys ↔
      note ∈ strengths.keys ∨ note ∈ candidates.map Prod.fst := by
  induction candidates generalizing strengths with
  | nil => simp
  | cons candidate rest ih =>
      rw [List.foldl_cons, ih, merged, Dict.mem_keys_insert, List.map_cons,
        List.mem_cons]
      tauto

theorem getD_foldl_merged (candidates : List Candidate) (strengths : Dict Int ℚ) (note : Int) :
    ((candidates.foldl merged strengths).get? note).getD 0 =
      candidates.foldl (raiseStrength note) ((strengths.get? note).getD 0) := by
  induction candidates generalizing strengths with
  | nil => rfl
  | cons candidate rest ih =>
      rw [List.foldl_cons, List.foldl_cons, ih, merged, Dict.get?_insert]
      congr 1
      rw [raiseStrength]
      by_cases own : candidate.1 = note
      · subst own
        rw [if_pos rfl, if_pos rfl, Option.getD_some]
      · rw [if_neg (Ne.symm own), if_neg own]

/-- The strengths by note once every candidate is merged. -/
def strengthsOf (candidates : List Candidate) : Dict Int ℚ :=
  candidates.foldl merged Dict.empty

theorem mem_strengthsOf {candidates : List Candidate} {note : Int} {strength : ℚ} :
    (note, strength) ∈ (strengthsOf candidates).entries ↔
      note ∈ candidateNotes candidates ∧ strength = maximumStrength candidates note := by
  have keys : note ∈ (strengthsOf candidates).keys ↔ note ∈ candidateNotes candidates := by
    rw [strengthsOf, mem_keys_foldl_merged, candidateNotes, List.mem_toFinset]
    exact or_iff_right List.not_mem_nil
  have stored : ((strengthsOf candidates).get? note).getD 0 = maximumStrength candidates note :=
    getD_foldl_merged candidates Dict.empty note
  constructor
  · intro member
    have found := Dict.get?_of_mem member
    rw [found, Option.getD_some] at stored
    exact ⟨keys.mp (List.mem_map_of_mem member), stored⟩
  · rintro ⟨proposed, rfl⟩
    rcases Option.isSome_iff_exists.mp (((strengthsOf candidates).get?_isSome note).mpr
      (keys.mpr proposed)) with ⟨strength, found⟩
    rw [found, Option.getD_some] at stored
    rw [← stored]
    exact Dict.mem_of_get? found

theorem keys_strengthsOf (candidates : List Candidate) :
    (strengthsOf candidates).keys.toFinset = candidateNotes candidates := by
  ext note
  rw [List.mem_toFinset]
  constructor
  · intro member
    rcases List.mem_map.mp member with ⟨⟨stored, strength⟩, isStored, rfl⟩
    exact (mem_strengthsOf.mp isStored).1
  · intro proposed
    exact List.mem_map_of_mem (f := Prod.fst) (mem_strengthsOf.mpr ⟨proposed, rfl⟩)

/-! ## Ranking -/

theorem rank_injective : Function.Injective rank := by
  rintro ⟨leftNote, leftStrength⟩ ⟨rightNote, rightStrength⟩ same
  have parts := congrArg ofLex same
  simp only [rank, ofLex_toLex, Prod.mk.injEq, neg_inj] at parts
  rw [parts.1, parts.2]

theorem rank_lt_rank {left right : Candidate} :
    rank left < rank right ↔
      right.2 < left.2 ∨ left.2 = right.2 ∧ left.1 < right.1 := by
  rw [rank, rank, Prod.Lex.toLex_lt_toLex, neg_lt_neg_iff, neg_inj]

theorem nodup_map_rank (candidates : List Candidate) :
    ((strengthsOf candidates).entries.map rank).Nodup :=
  (List.Nodup.of_map Prod.fst (strengthsOf candidates).nodup).map rank_injective

/-- As many merged notes rank before a note as are preferred to it. -/
theorem countP_rank (candidates : List Candidate) (note : Int) :
    (strengthsOf candidates).entries.countP (fun other =>
        decide (rank other < rank (note, maximumStrength candidates note))) =
      (preferred candidates note).card := by
  have distinct := (strengthsOf candidates).nodup.sublist ((List.filter_sublist (p := fun other =>
    decide (rank other < rank (note, maximumStrength candidates note)))).map Prod.fst)
  rw [List.countP_eq_length_filter, ← List.length_map (f := Prod.fst),
    ← List.toFinset_card_of_nodup distinct]
  congr 1
  ext other
  simp only [List.mem_toFinset, List.mem_map, List.mem_filter, decide_eq_true_eq, rank_lt_rank,
    mem_preferred, Precedes]
  constructor
  · rintro ⟨⟨stored, strength⟩, ⟨isStored, before⟩, rfl⟩
    rcases mem_strengthsOf.mp isStored with ⟨proposed, rfl⟩
    exact ⟨proposed, before⟩
  · rintro ⟨proposed, before⟩
    exact ⟨(other, maximumStrength candidates other),
      ⟨mem_strengthsOf.mpr ⟨proposed, rfl⟩, before⟩, rfl⟩

/-- The notes that are kept, with their strengths, best first. -/
def strongest (candidates : List Candidate) (count : Nat) : List Candidate :=
  (sortByKey rank (strengthsOf candidates).entries).take count

theorem mem_strongest {candidates : List Candidate} {count : Nat} {note : Int} {strength : ℚ} :
    (note, strength) ∈ strongest candidates count ↔
      note ∈ candidateNotes candidates ∧ (preferred candidates note).card < count ∧
        strength = maximumStrength candidates note := by
  rw [strongest, mem_take_sortByKey (nodup_map_rank candidates), mem_strengthsOf]
  constructor
  · rintro ⟨⟨proposed, rfl⟩, few⟩
    exact ⟨proposed, countP_rank candidates note ▸ few, rfl⟩
  · rintro ⟨proposed, few, rfl⟩
    exact ⟨⟨proposed, rfl⟩, (countP_rank candidates note).symm ▸ few⟩

theorem length_strongest (candidates : List Candidate) (count : Nat) :
    (strongest candidates count).length = min count (candidateNotes candidates).card := by
  rw [strongest, List.length_take, (sortByKey_perm _ _).length_eq, ← keys_strengthsOf,
    List.toFinset_card_of_nodup (strengthsOf candidates).keys_nodup, Dict.keys, List.length_map]

theorem strongest_nodup (candidates : List Candidate) (count : Nat) :
    ((strongest candidates count).map Prod.fst).Nodup := by
  have sorted := ((sortByKey_perm rank (strengthsOf candidates).entries).map Prod.fst).nodup_iff.mpr
    (strengthsOf candidates).nodup
  exact sorted.sublist ((List.take_sublist _ _).map Prod.fst)

/-- What is kept does not depend on order or repetition. -/
theorem strongest_congr {candidates others : List Candidate}
    (normalized : ∀ candidate ∈ candidates, Normalized candidate)
    (same : ∀ candidate, candidate ∈ others ↔ candidate ∈ candidates) (count : Nat) :
    strongest others count = strongest candidates count := by
  have sameNotes : candidateNotes others = candidateNotes candidates := by
    ext note
    simp only [candidateNotes, List.mem_toFinset, List.mem_map, same]
  have distinct : ∀ given : List Candidate, (strengthsOf given).entries.Nodup :=
    fun given => List.Nodup.of_map Prod.fst (strengthsOf given).nodup
  have rearranged : (strengthsOf others).entries.Perm (strengthsOf candidates).entries := by
    rw [List.perm_ext_iff_of_nodup (distinct others) (distinct candidates)]
    rintro ⟨note, strength⟩
    rw [mem_strengthsOf, mem_strengthsOf, sameNotes]
    apply and_congr_right
    intro proposed
    rw [maximumStrength_congr normalized same proposed]
  rw [strongest, strongest, sortByKey_eq_of_perm rearranged]
  exact fun left _ right _ equal => rank_injective equal

/-! ## The resulting map -/

/-- An item of the result. -/
def item (channel : Fin 16) (minimumVelocity maximumVelocity : Int) (candidate : Candidate) :
    MidiNoteKey × Int :=
  (⟨channel, ⟨candidate.1.toNat % 128, Nat.mod_lt _ (Nat.succ_pos 127)⟩⟩,
    velocityFor minimumVelocity maximumVelocity candidate.2)

theorem item_note {channel : Fin 16} {minimumVelocity maximumVelocity : Int} {candidate : Candidate}
    (valid : 0 ≤ candidate.1 ∧ candidate.1 ≤ 127) :
    ((item channel minimumVelocity maximumVelocity candidate).1.note.val : Int) = candidate.1 := by
  rw [item]
  dsimp only
  omega

theorem mapM_makeNoteKey (channel : Fin 16) (minimumVelocity maximumVelocity : Int)
    {kept : List Candidate} (valid : ∀ candidate ∈ kept, 0 ≤ candidate.1 ∧ candidate.1 ≤ 127) :
    kept.mapM (fun candidate => do
        let key ← makeNoteKey (channel.val : Int) candidate.1
        return (key, velocityFor minimumVelocity maximumVelocity candidate.2)) =
      .ok (kept.map (item channel minimumVelocity maximumVelocity)) := by
  induction kept with
  | nil => rfl
  | cons candidate rest ih =>
      rcases List.forall_mem_cons.mp valid with ⟨first, others⟩
      have made : makeNoteKey (channel.val : Int) candidate.1 =
          .ok (item channel minimumVelocity maximumVelocity candidate).1 :=
        makeNoteKey_eq_ok.mpr ⟨rfl, (item_note first).symm⟩
      rw [List.mapM_cons, made, ih others]
      rfl

section Selection

variable {candidates : List Candidate}
  (normalized : ∀ candidate ∈ candidates, Normalized candidate)

include normalized in
theorem strongest_valid (count : Nat) :
    ∀ candidate ∈ strongest candidates count, 0 ≤ candidate.1 ∧ candidate.1 ≤ 127 := by
  rintro ⟨note, strength⟩ member
  have proposed := (mem_strongest.mp member).1
  rcases List.mem_map.mp (List.mem_toFinset.mp proposed) with ⟨candidate, isCandidate, rfl⟩
  exact (normalized candidate isCandidate).1

include normalized in
theorem items_nodup (channel : Fin 16) (minimumVelocity maximumVelocity : Int) (count : Nat) :
    (((strongest candidates count).map (item channel minimumVelocity maximumVelocity)).map
      Prod.fst).Nodup := by
  rw [List.map_map]
  apply List.Nodup.map_on _ (List.Nodup.of_map Prod.fst (strongest_nodup candidates count))
  intro left isLeft right isRight same
  have sameNote : left.1 = right.1 := by
    rw [← item_note (strongest_valid normalized count left isLeft),
      ← item_note (strongest_valid normalized count right isRight)]
    exact congrArg (fun key : MidiNoteKey => (key.note.val : Int)) same
  exact List.inj_on_of_nodup_map (strongest_nodup candidates count) isLeft isRight sameNote

/-- The result of a selection with valid arguments. -/
def selection (candidates : List Candidate) (channel : Fin 16)
    (count : Nat) (minimumVelocity maximumVelocity : Int) : Dict MidiNoteKey Int :=
  Dict.ofEntries (sortByKey itemRank (Dict.ofEntries
    ((strongest candidates count).map (item channel minimumVelocity maximumVelocity))).entries)

include normalized in
theorem selectMidiNotes_eq_ok {channel : Fin 16}
    {maximumPolyphony minimumVelocity maximumVelocity : Int} (positive : 1 ≤ maximumPolyphony)
    (range : 1 ≤ minimumVelocity ∧ minimumVelocity ≤ maximumVelocity ∧ maximumVelocity ≤ 127) :
    selectMidiNotes candidates (channel.val : Int) maximumPolyphony minimumVelocity
        maximumVelocity =
      .ok (selection candidates channel maximumPolyphony.toNat minimumVelocity
        maximumVelocity) := by
  have channelValid : 0 ≤ (channel.val : Int) ∧ (channel.val : Int) ≤ 15 := by omega
  rw [selectMidiNotes, if_neg (not_not.mpr channelValid), if_neg (not_lt.mpr positive),
    if_neg (not_not.mpr range)]
  have kept := mapM_makeNoteKey channel minimumVelocity maximumVelocity
    (strongest_valid normalized maximumPolyphony.toNat)
  exact bind_eq_ok.mpr ⟨_, foldlM_mergeCandidate normalized Dict.empty,
    bind_eq_ok.mpr ⟨_, kept, rfl⟩⟩

include normalized in
theorem selection_entries (channel : Fin 16) (count : Nat) (minimumVelocity maximumVelocity : Int) :
    (selection candidates channel count minimumVelocity maximumVelocity).entries =
      sortByKey itemRank
        ((strongest candidates count).map (item channel minimumVelocity maximumVelocity)) := by
  have distinct := items_nodup normalized channel minimumVelocity maximumVelocity count
  rw [selection, Dict.ofEntries_entries distinct, Dict.ofEntries_entries]
  exact (((sortByKey_perm itemRank _).map Prod.fst).nodup_iff.mpr distinct)

include normalized in
theorem mem_selection {channel : Fin 16} {count : Nat} {minimumVelocity maximumVelocity : Int}
    {key : MidiNoteKey} {velocity : Int} :
    (key, velocity) ∈
        (selection candidates channel count minimumVelocity maximumVelocity).entries ↔
      key.channel = channel ∧ (key.note.val : Int) ∈ candidateNotes candidates ∧
        (preferred candidates key.note.val).card < count ∧
        velocity = velocityFor minimumVelocity maximumVelocity
          (maximumStrength candidates key.note.val) := by
  rw [selection_entries normalized, mem_sortByKey, List.mem_map]
  constructor
  · rintro ⟨⟨note, strength⟩, kept, same⟩
    have sameNote : (key.note.val : Int) = note :=
      (congrArg (fun entry : MidiNoteKey × Int => (entry.1.note.val : Int)) same).symm.trans
        (item_note (strongest_valid normalized count _ kept))
    rcases mem_strongest.mp kept with ⟨proposed, few, rfl⟩
    rw [sameNote]
    exact ⟨congrArg (fun entry => entry.1.channel) same.symm, proposed, few,
      congrArg Prod.snd same.symm⟩
  · rintro ⟨rfl, proposed, few, rfl⟩
    refine ⟨_, mem_strongest.mpr ⟨proposed, few, rfl⟩, Prod.ext ?_ rfl⟩
    rcases key with ⟨channel, ⟨note, bound⟩⟩
    simp only [item, Int.toNat_natCast, Nat.mod_eq_of_lt bound]

end Selection

/-! ## Velocities -/

section Velocity

variable {minimumVelocity maximumVelocity : Int} (ordered : minimumVelocity ≤ maximumVelocity)

include ordered in
theorem minimum_le_velocityFor {strength : ℚ} (nonneg : 0 ≤ strength) :
    minimumVelocity ≤ velocityFor minimumVelocity maximumVelocity strength := by
  have span : (0 : ℚ) ≤ ((maximumVelocity - minimumVelocity : Int) : ℚ) := by
    exact_mod_cast sub_nonneg.mpr ordered
  have raised : 0 ≤ ⌊strength * ((maximumVelocity - minimumVelocity : Int) : ℚ) + 1 / 2⌋ :=
    Int.floor_nonneg.mpr (by positivity)
  exact le_min ordered (by omega)

theorem velocityFor_le_maximum (strength : ℚ) :
    velocityFor minimumVelocity maximumVelocity strength ≤ maximumVelocity :=
  min_le_left _ _

include ordered in
theorem velocityFor_mono {weaker stronger : ℚ} (below : weaker ≤ stronger) :
    velocityFor minimumVelocity maximumVelocity weaker ≤
      velocityFor minimumVelocity maximumVelocity stronger := by
  have span : (0 : ℚ) ≤ ((maximumVelocity - minimumVelocity : Int) : ℚ) := by
    exact_mod_cast sub_nonneg.mpr ordered
  rw [velocityFor, velocityFor]
  gcongr

theorem velocityFor_one : velocityFor minimumVelocity maximumVelocity 1 = maximumVelocity := by
  have whole : ⌊1 * ((maximumVelocity - minimumVelocity : Int) : ℚ) + 1 / 2⌋ =
      maximumVelocity - minimumVelocity := by
    rw [one_mul, Int.floor_intCast_add]
    norm_num
  rw [velocityFor, whole]
  exact min_eq_left (by omega)

end Velocity

/-! ## The selection as a whole -/

/-- The map holds the strongest notes, with velocities that follow their
strengths, and is the note map of a state. -/
structure SelectsStrongest (candidates : List Candidate)
    (channel maximumPolyphony minimumVelocity maximumVelocity : Int)
    (notes : Dict MidiNoteKey Int) : Prop where
  chosen : ∀ key, key ∈ notes.keys ↔
    (key.channel.val : Int) = channel ∧ (key.note.val : Int) ∈ candidateNotes candidates ∧
      ((preferred candidates key.note.val).card : Int) < maximumPolyphony
  counted : (notes.keys.length : Int) = min maximumPolyphony (candidateNotes candidates).card
  mapped : ∀ key velocity, notes.get? key = some velocity →
    velocity = velocityFor minimumVelocity maximumVelocity
      (maximumStrength candidates key.note.val)
  inRange : ∀ key velocity, notes.get? key = some velocity →
    minimumVelocity ≤ velocity ∧ velocity ≤ maximumVelocity
  monotone : ∀ weaker lower stronger higher, notes.get? weaker = some lower →
    notes.get? stronger = some higher →
    maximumStrength candidates weaker.note.val ≤ maximumStrength candidates stronger.note.val →
    lower ≤ higher
  full : ∀ key velocity, notes.get? key = some velocity →
    maximumStrength candidates key.note.val = 1 → velocity = maximumVelocity
  legal : ∀ context sourceNodeId, ∃ state, makeStateFrame notes context sourceNodeId = .ok state

theorem makeStateFrame_of_legal {notes : Dict MidiNoteKey Int}
    (legal : ∀ entry ∈ notes.entries, 1 ≤ entry.2 ∧ entry.2 ≤ (127 : Nat))
    (context : FrameContext) (sourceNodeId : UUID) :
    ∃ state, makeStateFrame notes context sourceNodeId = .ok state := by
  rw [makeStateFrame, dif_pos legal]
  exact ⟨_, rfl⟩

section Whole

variable {candidates : List Candidate}
  (normalized : ∀ candidate ∈ candidates, Normalized candidate)
  {channel : Fin 16} {maximumPolyphony minimumVelocity maximumVelocity : Int}
  (positive : 1 ≤ maximumPolyphony)
  (range : 1 ≤ minimumVelocity ∧ minimumVelocity ≤ maximumVelocity ∧ maximumVelocity ≤ 127)

include normalized in
theorem maximumStrength_nonneg {note : Int} (proposed : note ∈ candidateNotes candidates) :
    0 ≤ maximumStrength candidates note :=
  (normalized _ (maximumStrength_isGreatest normalized proposed).1).2.1

include normalized positive range in
theorem selection_selectsStrongest :
    SelectsStrongest candidates channel.val maximumPolyphony minimumVelocity maximumVelocity
      (selection candidates channel maximumPolyphony.toNat minimumVelocity maximumVelocity) := by
  have stored : ∀ key velocity,
      (selection candidates channel maximumPolyphony.toNat minimumVelocity maximumVelocity).get?
          key = some velocity →
        (key.note.val : Int) ∈ candidateNotes candidates ∧
          velocity = velocityFor minimumVelocity maximumVelocity
            (maximumStrength candidates key.note.val) := by
    intro key velocity found
    rcases (mem_selection normalized).mp (Dict.mem_of_get? found) with ⟨_, proposed, _, own⟩
    exact ⟨proposed, own⟩
  have bounded : ∀ key velocity,
      (selection candidates channel maximumPolyphony.toNat minimumVelocity maximumVelocity).get?
          key = some velocity → minimumVelocity ≤ velocity ∧ velocity ≤ maximumVelocity := by
    intro key velocity found
    rcases stored key velocity found with ⟨proposed, rfl⟩
    exact ⟨minimum_le_velocityFor range.2.1 (maximumStrength_nonneg normalized proposed),
      velocityFor_le_maximum _⟩
  refine {
    chosen := ?_
    counted := ?_
    mapped := fun key velocity found => (stored key velocity found).2
    inRange := bounded
    monotone := ?_
    full := ?_
    legal := ?_
  }
  · intro key
    constructor
    · intro member
      rcases List.mem_map.mp member with ⟨⟨other, velocity⟩, isEntry, rfl⟩
      rcases (mem_selection normalized).mp isEntry with ⟨own, proposed, few, _⟩
      dsimp only
      exact ⟨congrArg (fun index : Fin 16 => (index.val : Int)) own, proposed, by omega⟩
    · rintro ⟨own, proposed, few⟩
      have sameChannel : key.channel = channel := Fin.ext (by omega)
      exact List.mem_map_of_mem (f := Prod.fst)
        ((mem_selection normalized).mpr ⟨sameChannel, proposed, by omega, rfl⟩)
  · rw [Dict.keys, selection_entries normalized, List.length_map,
      (sortByKey_perm itemRank _).length_eq, List.length_map, length_strongest]
    omega
  · intro weaker lower stronger higher lowerFound higherFound below
    rw [(stored weaker lower lowerFound).2, (stored stronger higher higherFound).2]
    exact velocityFor_mono range.2.1 below
  · intro key velocity found strength
    rw [(stored key velocity found).2, strength, velocityFor_one]
  · intro context sourceNodeId
    apply makeStateFrame_of_legal
    rintro ⟨key, velocity⟩ member
    have within := bounded key velocity (Dict.get?_of_mem member)
    dsimp only
    omega

end Whole

/-- The selection keeps the notes that come first by strength, whatever the
order and repetition of the candidates, and maps them onto the velocities. -/
theorem selectMidiNotes_strongest (candidates : List Candidate)
    (channel maximumPolyphony minimumVelocity maximumVelocity : Int)
    (normalized : ∀ candidate ∈ candidates, Normalized candidate)
    (channelValid : 0 ≤ channel ∧ channel ≤ 15) (positive : 1 ≤ maximumPolyphony)
    (range : 1 ≤ minimumVelocity ∧ minimumVelocity ≤ maximumVelocity ∧ maximumVelocity ≤ 127) :
    ∃ notes, selectMidiNotes candidates channel maximumPolyphony minimumVelocity
        maximumVelocity = .ok notes ∧
      SelectsStrongest candidates channel maximumPolyphony minimumVelocity maximumVelocity
        notes ∧
      ∀ others : List Candidate, (∀ candidate, candidate ∈ others ↔ candidate ∈ candidates) →
        selectMidiNotes others channel maximumPolyphony minimumVelocity maximumVelocity =
          .ok notes := by
  obtain ⟨index, rfl⟩ : ∃ index : Fin 16, channel = (index.val : Int) :=
    ⟨⟨channel.toNat, by omega⟩, by simp only [Int.toNat_of_nonneg channelValid.1]⟩
  refine ⟨_, selectMidiNotes_eq_ok normalized positive range,
    selection_selectsStrongest normalized positive range, ?_⟩
  intro others same
  have alsoNormalized : ∀ candidate ∈ others, Normalized candidate :=
    fun candidate member => normalized candidate ((same candidate).mp member)
  rw [selectMidiNotes_eq_ok alsoNormalized positive range, selection, selection,
    strongest_congr normalized same]

/-- Two voices of three proposed notes: the repeated note takes its larger
strength and loses the tie against the lower one. -/
theorem selectMidiNotes_strongest_twoVoices :
    ∃ notes, selectMidiNotes [(60, 1 / 2), (62, 1), (60, 3 / 4), (50, 3 / 4)] 3 2 1 127 =
        .ok notes ∧
      SelectsStrongest [(60, 1 / 2), (62, 1), (60, 3 / 4), (50, 3 / 4)] 3 2 1 127 notes ∧
      ∀ others : List Candidate,
        (∀ candidate, candidate ∈ others ↔
          candidate ∈ [((60 : Int), (1 / 2 : ℚ)), (62, 1), (60, 3 / 4), (50, 3 / 4)]) →
        selectMidiNotes others 3 2 1 127 = .ok notes := by
  refine selectMidiNotes_strongest _ 3 2 1 127 ?_ (by decide) (by decide) (by decide)
  intro candidate member
  simp only [List.mem_cons, List.not_mem_nil, or_false] at member
  rcases member with rfl | rfl | rfl | rfl <;> norm_num [Normalized]

end Midi
end Synesthesia
