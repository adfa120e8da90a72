import Synesthesia.Foundation.Runs
import Synesthesia.Midi.DebugSynth

namespace Synesthesia
namespace Midi

open Foundation Contracts

/-!
# Voice allocation of the debug synth

A snapshot never wants more notes than there are voices, and no two active
voices hold the same key.  So while a wanted key has no voice, some voice is
free or holds a key that is not wanted.
-/

/-! ## Snapshots -/

/-- A snapshot with no more notes than voices and no silent note. -/
structure DesiredSnapshot.Capped (desired : DesiredSnapshot) (maxVoices : Nat) : Prop where
  fits : desired.velocityByKey.keys.length ≤ maxVoices
  sounding : ∀ entry ∈ desired.velocityByKey.entries, 0 < entry.2

theorem capped_silent (panicGeneration maxVoices : Nat) :
    (DesiredSnapshot.silent panicGeneration).Capped maxVoices :=
  ⟨Nat.zero_le _, nofun⟩

theorem flat_injective : Function.Injective MidiNoteKey.flat := by
  intro first second same
  have firstNote := first.note.isLt
  have secondNote := second.note.isLt
  unfold MidiNoteKey.flat at same
  have channel : first.channel = second.channel := by
    apply Fin.ext
    omega
  have note : first.note = second.note := by
    apply Fin.ext
    omega
  cases first
  cases second
  cases channel
  cases note
  rfl

theorem flatNotes_nodup (notes : Dict MidiNoteKey (Fin 128)) :
    ((flatNotes notes).map Prod.fst).Nodup := by
  have keys : (flatNotes notes).map Prod.fst = notes.keys.map MidiNoteKey.flat := by
    simp [flatNotes, Dict.keys]
  rw [keys]
  exact notes.keys_nodup.map flat_injective

/-- The loudest notes are some of the notes, at most as many as there are voices. -/
theorem loudest_spec (maxVoices : Nat) (notes : List (Int × Nat)) :
    (loudest maxVoices notes).Subperm notes ∧ (loudest maxVoices notes).length ≤ maxVoices := by
  unfold loudest
  split_ifs with tooMany
  · constructor
    · exact (List.take_sublist _ _).subperm.trans (sortByKey_perm _ notes).subperm
    · exact List.length_take_le _ _
  · exact ⟨List.Subperm.refl notes, Nat.le_of_not_lt tooMany⟩

theorem capped_ofNotes (maxVoices : Nat) (notes : Dict MidiNoteKey (Fin 128))
    (active : ∀ entry ∈ notes.entries, entry.2 ≠ 0) (panicGeneration : Nat) :
    (DesiredSnapshot.ofNotes maxVoices notes panicGeneration).Capped maxVoices := by
  rcases loudest_spec maxVoices (flatNotes notes) with ⟨some_, few⟩
  have sorted := sortByKey_perm Prod.fst (loudest maxVoices (flatNotes notes))
  have distinct : ((sortByKey Prod.fst (loudest maxVoices (flatNotes notes))).map
      Prod.fst).Nodup := by
    rcases sorted.subperm.trans some_ with ⟨other, perm, sub⟩
    exact (perm.map Prod.fst).nodup_iff.mp ((flatNotes_nodup notes).sublist (sub.map Prod.fst))
  have entries : (DesiredSnapshot.ofNotes maxVoices notes panicGeneration).velocityByKey.entries =
      sortByKey Prod.fst (loudest maxVoices (flatNotes notes)) :=
    Dict.ofEntries_entries distinct
  constructor
  · rw [Dict.keys, entries, List.length_map, sorted.length_eq]
    exact few
  · intro entry member
    rw [entries] at member
    have isNote : entry ∈ flatNotes notes := some_.subset (sorted.mem_iff.mp member)
    rcases List.mem_map.mp isNote with ⟨note, isEntry, rfl⟩
    have positive := active note isEntry
    exact Nat.pos_of_ne_zero (fun zero => positive (Fin.ext zero))

/-! ## Active keys -/

theorem mem_activeKeys {voices : List Voice} {key : Int} :
    key ∈ activeKeys voices ↔ ∃ voice ∈ voices, voice.isActive = true ∧ voice.key = key := by
  simp [activeKeys, and_assoc]

theorem activeKeys_append (front back : List Voice) :
    activeKeys (front ++ back) = activeKeys front ++ activeKeys back := by
  rw [activeKeys, List.filter_append, List.map_append]
  rfl

theorem activeKeys_cons (voice : Voice) (rest : List Voice) :
    activeKeys (voice :: rest) =
      if voice.isActive = true then voice.key :: activeKeys rest else activeKeys rest := by
  rw [activeKeys, List.filter_cons]
  split_ifs
  · rfl
  · rfl

/-- When every voice is active, every voice has an active key. -/
theorem activeKeys_length {voices : List Voice} (active : ∀ voice ∈ voices, voice.isActive = true) :
    (activeKeys voices).length = voices.length := by
  rw [activeKeys, List.length_map, List.filter_eq_self.mpr active]

/-- A map that keeps the keys of active voices and wakes none thins the keys. -/
theorem activeKeys_map_sublist {change : Voice → Voice} (voices : List Voice)
    (keeps : ∀ voice ∈ voices, (change voice).isActive = true →
      voice.isActive = true ∧ (change voice).key = voice.key) :
    (activeKeys (voices.map change)).Sublist (activeKeys voices) := by
  induction voices with
  | nil => exact List.Sublist.refl _
  | cons voice rest ih =>
      have onward := ih (fun other member =>
        keeps other (List.mem_cons_of_mem _ member))
      rw [List.map_cons, activeKeys_cons, activeKeys_cons]
      by_cases active : (change voice).isActive = true
      · rcases keeps voice List.mem_cons_self active with ⟨before, same⟩
        rw [if_pos active, if_pos before, same]
        exact onward.cons_cons _
      · rw [if_neg active]
        split_ifs
        · exact onward.cons _
        · exact onward

/-! ## Selecting a voice -/

variable {byKey : Dict Int Nat}

/-- The selected voice is replaceable. -/
theorem selectFrom_some {good : Nat → Prop} {index found : Nat}
    {selected : Option (Nat × Voice)} {voices : List Voice}
    (soFar : ∀ chosen best, selected = some (chosen, best) → good chosen)
    (ahead : ∀ offset voice, voices[offset]? = some voice →
      voice.isReplaceable byKey = true → good (index + offset))
    (chosen : selectFrom byKey index selected voices = some found) : good found := by
  induction voices generalizing index selected with
  | nil =>
      rcases Option.map_eq_some_iff.mp chosen with ⟨⟨other, best⟩, isSelected, rfl⟩
      exact soFar other best isSelected
  | cons voice rest ih =>
      have onward : ∀ offset other, rest[offset]? = some other →
          other.isReplaceable byKey = true → good (index + 1 + offset) := by
        intro offset other isOther replaceable
        rw [Nat.add_assoc, Nat.add_comm 1 offset]
        exact ahead (offset + 1) other isOther replaceable
      have here : voice.isReplaceable byKey = true → good index := ahead 0 voice rfl
      unfold selectFrom at chosen
      split_ifs at chosen with inactive wanted
      · cases chosen
        exact here (by simp [Voice.isReplaceable, Voice.isActive, inactive])
      · exact ih soFar onward chosen
      · have replaceable : voice.isReplaceable byKey = true := by
          rw [ne_eq, not_not] at wanted
          simp [Voice.isReplaceable, wanted]
        have hereToo : ∀ other best, some (index, voice) = some (other, best) → good other := by
          intro other best same
          cases same
          exact here replaceable
        cases selected with
        | none => exact ih hereToo onward chosen
        | some best =>
            simp only at chosen
            split_ifs at chosen
            · exact ih hereToo onward chosen
            · exact ih soFar onward chosen

/-- Where no voice is selected, none is replaceable. -/
theorem selectFrom_none {index : Nat} {selected : Option (Nat × Voice)}
    {voices : List Voice} (missing : selectFrom byKey index selected voices = none) :
    selected = none ∧ ∀ voice ∈ voices, voice.isReplaceable byKey = false := by
  induction voices generalizing index selected with
  | nil =>
      rw [selectFrom, Option.map_eq_none_iff] at missing
      exact ⟨missing, fun _ member => nomatch member⟩
  | cons voice rest ih =>
      unfold selectFrom at missing
      split_ifs at missing with inactive wanted
      · rcases ih missing with ⟨nothing, others⟩
        refine ⟨nothing, ?_⟩
        intro other member
        rcases List.mem_cons.mp member with rfl | behind
        · simp [Voice.isReplaceable, Voice.isActive, inactive, wanted]
        · exact others other behind
      · cases selected with
        | none => cases (ih missing).1
        | some best =>
            simp only at missing
            split_ifs at missing
            · cases (ih missing).1
            · cases (ih missing).1

/-! ## Letting a note enter -/

/-- The state of the pool while notes enter: an active voice sounds a wanted key
or releases an unwanted one, and every wanted key has a voice or is still to
enter. -/
structure Entering (desired : DesiredSnapshot) (pending : List (Int × Nat))
    (voices : List Voice) : Prop where
  distinct : (activeKeys voices).Nodup
  settled : ∀ voice ∈ voices, voice.isActive = true →
    (voice.key ∈ desired.velocityByKey.keys ↔ voice.stage ≠ .release)
  covered : ∀ key ∈ desired.velocityByKey.keys,
    key ∈ activeKeys voices ∨ key ∈ pending.map Prod.fst
  pendingDistinct : (pending.map Prod.fst).Nodup
  pendingWanted : ∀ key ∈ pending.map Prod.fst, key ∈ desired.velocityByKey.keys
  apart : ∀ key ∈ pending.map Prod.fst, key ∉ activeKeys voices

variable {desired : DesiredSnapshot}

/-- A voice with a wanted key is not replaceable, unless it is free. -/
theorem not_wanted_of_replaceable {maxVoices : Nat} {voice : Voice}
    (capped : desired.Capped maxVoices) (active : voice.isActive = true)
    (replaceable : voice.isReplaceable desired.velocityByKey = true) :
    voice.key ∉ desired.velocityByKey.keys := by
  intro wanted
  rcases Option.isSome_iff_exists.mp ((Dict.get?_isSome _ _).mpr wanted) with ⟨velocity, found⟩
  have sounding := capped.sounding _ (Dict.mem_of_get? found)
  rw [Voice.isReplaceable, active, found] at replaceable
  simp only [Bool.not_true, Option.getD_some, Bool.false_or, decide_eq_true_eq] at replaceable
  exact absurd replaceable (Nat.ne_of_gt sounding)

theorem wanted_of_not_replaceable {voice : Voice}
    (firm : voice.isReplaceable desired.velocityByKey = false) :
    voice.isActive = true ∧ voice.key ∈ desired.velocityByKey.keys := by
  unfold Voice.isReplaceable at firm
  rw [Bool.or_eq_false_iff] at firm
  refine ⟨by simpa using firm.1, ?_⟩
  rw [← Dict.get?_isSome]
  cases found : desired.velocityByKey.get? voice.key with
  | none => simp [found] at firm
  | some velocity => rfl

/-- While a wanted key has no voice, some voice is replaceable. -/
theorem Entering.exists_replaceable {voices : List Voice}
    {note : Int × Nat} {rest : List (Int × Nat)}
    (entering : Entering desired (note :: rest) voices)
    (fits : desired.velocityByKey.keys.length ≤ voices.length) :
    ∃ index, selectVoice desired voices = .ok index := by
  cases chosen : selectFrom desired.velocityByKey 0 none voices with
  | some index => exact ⟨index, by rw [selectVoice, chosen]⟩
  | none =>
      exfalso
      have firm := (selectFrom_none chosen).2
      have count := activeKeys_length (fun voice member =>
        (wanted_of_not_replaceable (firm voice member)).1)
      have isPending : note.1 ∈ (note :: rest).map Prod.fst := List.mem_cons_self
      -- all voices and the entering key have distinct wanted keys
      have within : note.1 :: activeKeys voices ⊆ desired.velocityByKey.keys := by
        intro key member
        rcases List.mem_cons.mp member with rfl | held
        · exact entering.pendingWanted _ isPending
        · rcases mem_activeKeys.mp held with ⟨voice, isVoice, _, rfl⟩
          exact (wanted_of_not_replaceable (firm voice isVoice)).2
      have distinct : (note.1 :: activeKeys voices).Nodup :=
        List.nodup_cons.mpr ⟨entering.apart _ isPending, entering.distinct⟩
      have tooMany := (List.subperm_of_subset distinct within).length_le
      rw [List.length_cons, count] at tooMany
      omega

/-- The replaced voice gives its place to the entering note. -/
theorem Entering.enter {maxVoices : Nat} {voices : List Voice}
    {note : Int × Nat} {rest : List (Int × Nat)} {index : Nat} {entered : Voice}
    (entering : Entering desired (note :: rest) voices) (capped : desired.Capped maxVoices)
    (chosen : selectVoice desired voices = .ok index) (isKey : entered.key = note.1)
    (isAttack : entered.stage = .attack) : Entering desired rest (voices.set index entered) := by
  have selected : selectFrom desired.velocityByKey 0 none voices = some index := by
    unfold selectVoice at chosen
    split at chosen
    · rename_i found isFound
      cases chosen
      exact isFound
    · cases chosen
  have ahead : ∀ offset voice, voices[offset]? = some voice →
      voice.isReplaceable desired.velocityByKey = true →
        ∃ other, voices[0 + offset]? = some other ∧
          other.isReplaceable desired.velocityByKey = true := by
    intro offset voice isVoice replaceable
    rw [Nat.zero_add]
    exact ⟨voice, isVoice, replaceable⟩
  rcases @selectFrom_some desired.velocityByKey (fun found => ∃ voice, voices[found]? = some voice ∧
      voice.isReplaceable desired.velocityByKey = true) 0 index none voices
      (fun _ _ absent => nomatch absent) ahead selected with ⟨old, isOld, replaceable⟩
  rcases List.getElem?_eq_some_iff.mp isOld with ⟨inRange, isOld⟩
  have split : voices = voices.take index ++ old :: voices.drop (index + 1) := by
    rw [← isOld, List.getElem_cons_drop, List.take_append_drop]
  have replaced : voices.set index entered =
      voices.take index ++ entered :: voices.drop (index + 1) :=
    List.set_eq_take_append_cons_drop.trans (if_pos inRange)
  rw [replaced]
  generalize voices.take index = front at split
  generalize voices.drop (index + 1) = back at split
  subst split
  have enteredActive : entered.isActive = true := by
    simp [Voice.isActive, isAttack]
  have keys : activeKeys (front ++ entered :: back) =
      activeKeys front ++ note.1 :: activeKeys back := by
    rw [activeKeys_append, activeKeys_cons, if_pos enteredActive, isKey]
  have oldKeys : (activeKeys front ++ activeKeys back).Sublist
      (activeKeys (front ++ old :: back)) := by
    rw [activeKeys_append, activeKeys_cons]
    split_ifs
    · exact (List.sublist_cons_self _ _).append_left _
    · exact List.Sublist.refl _
  have isPending : note.1 ∈ (note :: rest).map Prod.fst := List.mem_cons_self
  have notHeld : note.1 ∉ activeKeys front ++ activeKeys back :=
    fun held => entering.apart _ isPending (oldKeys.subset held)
  have pendingDistinct := List.nodup_cons.mp entering.pendingDistinct
  refine ⟨?_, ?_, ?_, pendingDistinct.2, ?_, ?_⟩
  · rw [keys, List.nodup_middle]
    exact List.nodup_cons.mpr ⟨notHeld, entering.distinct.sublist oldKeys⟩
  · intro voice member active
    rcases List.mem_append.mp member with inFront | inBack
    · exact entering.settled voice (List.mem_append_left _ inFront) active
    · rcases List.mem_cons.mp inBack with rfl | behind
      · rw [isKey, isAttack]
        exact iff_of_true (entering.pendingWanted _ isPending) nofun
      · exact entering.settled voice
          (List.mem_append_right _ (List.mem_cons_of_mem _ behind)) active
  · intro key wanted
    rw [keys]
    rcases entering.covered key wanted with held | isLeft
    · left
      rw [activeKeys_append, activeKeys_cons] at held
      split_ifs at held with oldActive
      · have other : key ≠ old.key :=
          fun same => not_wanted_of_replaceable capped oldActive replaceable (same ▸ wanted)
        simpa [other, or_assoc, or_comm, or_left_comm] using Or.inr held
      · rcases List.mem_append.mp held with inFront | inBack
        · exact List.mem_append_left _ inFront
        · exact List.mem_append_right _ (List.mem_cons_of_mem _ inBack)
    · rcases List.mem_cons.mp isLeft with rfl | later
      · exact Or.inl (List.mem_append_right _ List.mem_cons_self)
      · exact Or.inr later
  · intro key member
    exact entering.pendingWanted key (List.mem_cons_of_mem _ member)
  · intro key member held
    rw [keys] at held
    rcases List.mem_append.mp held with inFront | inBack
    · exact entering.apart key (List.mem_cons_of_mem _ member)
        (oldKeys.subset (List.mem_append_left _ inFront))
    · rcases List.mem_cons.mp inBack with rfl | behind
      · exact pendingDistinct.1 member
      · exact entering.apart key (List.mem_cons_of_mem _ member)
          (oldKeys.subset (List.mem_append_right _ behind))

/-- Every pending note finds a voice. -/
theorem Entering.enterNotes {maxVoices : Nat}
    (capped : desired.Capped maxVoices) {pending : List (Int × Nat)} (ageCounter : Nat)
    {voices : List Voice} (entering : Entering desired pending voices)
    (size : voices.length = maxVoices) :
    ∃ age entered, Midi.enterNotes desired pending (ageCounter, voices) = .ok (age, entered) ∧
      entered.length = maxVoices ∧ Entering desired [] entered := by
  induction pending generalizing ageCounter voices with
  | nil => exact ⟨ageCounter, voices, rfl, size, entering⟩
  | cons note rest ih =>
      rcases note with ⟨key, velocity⟩
      rcases entering.exists_replaceable (size ▸ capped.fits) with ⟨index, chosen⟩
      have onward : Entering desired rest (voices.set index
          ⟨key, key % 128, velocity / 127, 0, .attack, ageCounter + 1⟩) :=
        entering.enter capped chosen rfl rfl
      have sizeOnward : (voices.set index ⟨key, key % 128, velocity / 127, 0, .attack,
          ageCounter + 1⟩).length = maxVoices := by
        rw [List.length_set, size]
      rcases ih (ageCounter + 1) onward sizeOnward with
        ⟨age, entered, finished, final⟩
      refine ⟨age, entered, ?_, final⟩
      rw [Midi.enterNotes, chosen]
      exact finished

/-! ## Reconciling -/

/-- A held voice after `_reconcile` has updated or released it. -/
def heldVoice (byKey : Dict Int Nat) (voice : Voice) : Voice :=
  if voice.stage = .inactive then voice
  else
    match byKey.get? voice.key with
    | none => { voice with stage := .release }
    | some velocity => { voice with
        velocity := velocity / 127
        stage := if voice.stage = .release then .attack else voice.stage }

/-- All notes of a capped snapshot sound. -/
theorem Capped.filter_sounding {maxVoices : Nat}
    (capped : desired.Capped maxVoices) :
    desired.velocityByKey.filter (fun entry => decide (0 < entry.2)) = desired.velocityByKey :=
  Dict.filter_eq_self (fun entry member => decide_eq_true (capped.sounding entry member))

/-- No held voice lacks a velocity that it needs. -/
theorem updateHeld_eq {voices : List Voice} {voice : Voice}
    (member : voice ∈ voices) :
    updateHeld byKey (diffMidiStates (activeKeys voices) byKey).removed voice =
      .ok (heldVoice byKey voice) := by
  unfold updateHeld heldVoice
  by_cases inactive : voice.stage = .inactive
  · rw [if_pos inactive, if_pos inactive]
  rw [if_neg inactive, if_neg inactive]
  by_cases removed : voice.key ∈ (diffMidiStates (activeKeys voices) byKey).removed
  · rw [if_pos removed, (Dict.get?_eq_none _ _).mpr (mem_removed.mp removed).2]
  · rw [if_neg removed]
    have active : voice.isActive = true := decide_eq_true inactive
    have held : voice.key ∈ activeKeys voices := mem_activeKeys.mpr ⟨voice, member, active, rfl⟩
    have wanted : voice.key ∈ byKey.keys := by
      by_contra unwanted
      exact removed (mem_removed.mpr ⟨held, unwanted⟩)
    rcases Option.isSome_iff_exists.mp ((Dict.get?_isSome _ _).mpr wanted) with ⟨velocity, found⟩
    rw [found]

theorem mapM_updateHeld (byKey : Dict Int Nat) (removed : List Int) (voices : List Voice)
    (each : ∀ voice ∈ voices, updateHeld byKey removed voice = .ok (heldVoice byKey voice)) :
    voices.mapM (updateHeld byKey removed) = .ok (voices.map (heldVoice byKey)) := by
  induction voices with
  | nil => rfl
  | cons voice rest ih =>
      rw [List.mapM_cons, each voice List.mem_cons_self,
        ih (fun other member => each other (List.mem_cons_of_mem _ member))]
      rfl

theorem heldVoice_isActive (byKey : Dict Int Nat) (voice : Voice) :
    (heldVoice byKey voice).isActive = voice.isActive := by
  unfold heldVoice Voice.isActive
  cases stage : voice.stage with
  | inactive => simp [stage]
  | _ => cases byKey.get? voice.key <;> simp

theorem heldVoice_key (byKey : Dict Int Nat) (voice : Voice) :
    (heldVoice byKey voice).key = voice.key := by
  unfold heldVoice
  by_cases inactive : voice.stage = .inactive
  · rw [if_pos inactive]
  · rw [if_neg inactive]
    cases byKey.get? voice.key with
    | none => rfl
    | some velocity => rfl

theorem activeKeys_map_heldVoice (byKey : Dict Int Nat) (voices : List Voice) :
    activeKeys (voices.map (heldVoice byKey)) = activeKeys voices := by
  induction voices with
  | nil => rfl
  | cons voice rest ih =>
      rw [List.map_cons, activeKeys_cons, activeKeys_cons, heldVoice_isActive, heldVoice_key,
        ih]

/-- An active held voice is releasing exactly when its key is not wanted. -/
theorem heldVoice_stage {voice : Voice} (active : voice.isActive = true) :
    voice.key ∈ byKey.keys ↔ (heldVoice byKey voice).stage ≠ .release := by
  have awake : voice.stage ≠ .inactive := of_decide_eq_true active
  rw [← Dict.get?_isSome]
  unfold heldVoice
  rw [if_neg awake]
  cases byKey.get? voice.key with
  | none => simp
  | some velocity =>
      by_cases releasing : voice.stage = .release
      · simp [releasing]
      · simp [releasing]

/-- `_reconcile` gives every wanted key a voice and releases the others. -/
theorem reconcile_spec (ageCounter : Nat) {voices : List Voice}
    (capped : desired.Capped voices.length) (distinct : (activeKeys voices).Nodup) :
    ∃ age reconciled, reconcile desired ageCounter voices = .ok (age, reconciled) ∧
      reconciled.length = voices.length ∧ Entering desired [] reconciled := by
  have entering : Entering desired
      (diffMidiStates (activeKeys voices) desired.velocityByKey).added
      (voices.map (heldVoice desired.velocityByKey)) := by
    refine ⟨?_, ?_, ?_, ?_, ?_, ?_⟩
    · rw [activeKeys_map_heldVoice]
      exact distinct
    · intro voice member active
      rcases List.mem_map.mp member with ⟨before, _, rfl⟩
      rw [heldVoice_isActive] at active
      rw [heldVoice_key]
      exact heldVoice_stage active
    · intro key wanted
      rw [activeKeys_map_heldVoice, mem_added_keys]
      by_cases held : key ∈ activeKeys voices
      · exact Or.inl held
      · exact Or.inr ⟨wanted, held⟩
    · exact desired.velocityByKey.nodup.sublist (List.filter_sublist.map Prod.fst)
    · intro key member
      exact (mem_added_keys.mp member).1
    · intro key member
      rw [activeKeys_map_heldVoice]
      exact (mem_added_keys.mp member).2
  have size : (voices.map (heldVoice desired.velocityByKey)).length = voices.length :=
    List.length_map _
  rcases Entering.enterNotes capped ageCounter entering size with
    ⟨age, entered, finished, final⟩
  refine ⟨age, entered, ?_, final⟩
  have held := mapM_updateHeld desired.velocityByKey
    (diffMidiStates (activeKeys voices) desired.velocityByKey).removed voices
    (fun voice member => updateHeld_eq member)
  simp only [reconcile, Capped.filter_sounding capped, held]
  exact finished

/-! ## Every run -/

namespace DebugSynth

structure Sound (synth : DebugSynth) : Prop where
  size : synth.voices.length = synth.configuration.maxVoices
  distinct : (activeKeys synth.voices).Nodup
  capped : synth.desired.Capped synth.configuration.maxVoices

theorem sound_initial (configuration : SynthConfiguration) : (initial configuration).Sound := by
  refine ⟨List.length_replicate, ?_, capped_silent _ _⟩
  have none_active : activeKeys (initial configuration).voices = [] := by
    rw [activeKeys, List.map_eq_nil_iff, List.filter_eq_nil_iff]
    intro voice member
    rw [List.eq_of_mem_replicate member]
    decide
  rw [none_active]
  exact List.nodup_nil

/-- A rendered voice keeps its key or ends. -/
theorem renderVoice_keeps (ramps : EnvelopeRamps) (voice : Voice)
    (active : (renderVoice ramps voice).isActive = true) :
    voice.isActive = true ∧ (renderVoice ramps voice).key = voice.key := by
  unfold renderVoice at active ⊢
  cases stage : voice.stage with
  | inactive => simp [stage, Voice.isActive] at active
  | sustain => exact ⟨by simp [Voice.isActive, stage], rfl⟩
  | attack => exact ⟨by simp [Voice.isActive, stage], rfl⟩
  | release =>
      rw [stage] at active
      simp only at active ⊢
      split_ifs at active ⊢
      · cases active
      · exact ⟨by simp [Voice.isActive, stage], rfl⟩

/-- A callback on a sound synth returns a sound synth. -/
theorem Sound.callback {synth : DebugSynth} (sound : synth.Sound) (ramps : EnvelopeRamps)
    (frames : Nat) (shape : List Nat) :
    ∃ next, synth.callback ramps frames shape = .ok next ∧ next.Sound := by
  unfold DebugSynth.callback
  split_ifs
  · exact ⟨synth, rfl, sound⟩
  · exact ⟨synth, rfl, sound⟩
  · refine ⟨_, rfl, ?_, ?_, sound.capped⟩
    · rw [List.length_map, sound.size]
    · exact sound.distinct.sublist (activeKeys_map_sublist _ nofun)
  · rcases reconcile_spec synth.ageCounter (sound.size ▸ sound.capped)
      sound.distinct with ⟨age, reconciled, finished, size, entered⟩
    rw [finished]
    refine ⟨_, rfl, ?_, ?_, sound.capped⟩
    · rw [List.length_map, size, sound.size]
    · exact entered.distinct.sublist
        (activeKeys_map_sublist _ (fun voice _ => renderVoice_keeps ramps voice))

theorem Sound.step {ramps : EnvelopeRamps} {synth next : DebugSynth} {action : Step}
    (sound : synth.Sound) (taken : synth.step ramps action = some next) : next.Sound := by
  cases action with
  | update state =>
      cases taken
      unfold DebugSynth.update
      split_ifs
      · exact sound
      · exact sound
      · exact sound
      · exact ⟨sound.size, sound.distinct, capped_silent _ _⟩
      · exact ⟨sound.size, sound.distinct, capped_ofNotes _ _ state.active _⟩
  | panic publishGeneration =>
      cases taken
      exact ⟨sound.size, sound.distinct, capped_silent _ _⟩
  | close =>
      cases taken
      unfold DebugSynth.close
      split_ifs
      · exact sound
      · exact ⟨sound.size, sound.distinct, capped_silent _ _⟩
  | callback frames shape =>
      rcases sound.callback ramps frames shape with ⟨reached, finished, reachedSound⟩
      simp only [DebugSynth.step, finished, Except.toOption, Option.some.injEq] at taken
      exact taken ▸ reachedSound

/-- In every state that updates, panics and callbacks reach, no two active
voices hold one key; a reconciliation gives every desired key exactly one
active voice, which is not releasing, and releases all others; and no callback
raises. -/
theorem voices_sound (ramps : EnvelopeRamps) (configuration : SynthConfiguration)
    (steps : List Step) (synth : DebugSynth)
    (reached : run (step ramps) (initial configuration) steps = some synth) :
    (activeKeys synth.voices).Nodup ∧
      (∃ age reconciled,
        reconcile synth.desired synth.ageCounter synth.voices = .ok (age, reconciled) ∧
          (∀ key ∈ synth.desired.velocityByKey.keys, (activeKeys reconciled).count key = 1) ∧
          ∀ voice ∈ reconciled, voice.isActive = true →
            (voice.key ∈ synth.desired.velocityByKey.keys ↔ voice.stage ≠ .release)) ∧
      ∀ frames shape, ∃ next, synth.callback ramps frames shape = .ok next := by
  have sound : synth.Sound := run_invariant
    (fun _ _ _ sound _ taken => Sound.step sound taken) (sound_initial configuration)
    (show Meets _ (fun _ _ => True) _ _ from meets_of_forall (fun _ _ => trivial) _ steps) reached
  refine ⟨sound.distinct, ?_, ?_⟩
  · rcases reconcile_spec synth.ageCounter (sound.size ▸ sound.capped)
      sound.distinct with ⟨age, reconciled, finished, _, entered⟩
    refine ⟨age, reconciled, finished, ?_, entered.settled⟩
    intro key wanted
    rcases entered.covered key wanted with held | pending
    · exact List.count_eq_one_of_mem entered.distinct held
    · cases pending
  · intro frames shape
    rcases sound.callback ramps frames shape with ⟨next, finished, _⟩
    exact ⟨next, finished⟩

/-- A state with two notes, of which the louder gets the voice. -/
def twoNotes : MidiStateFrame where
  notes := ⟨[(⟨0, 60⟩, 90), (⟨1, 60⟩, 100)], by decide⟩
  context := FrameContext.first 1 1
  sourceNodeId := 1
  active := by decide

theorem voices_sound_twoNotes :
    ∃ synth, run (step oneVoice.ramps) (initial oneVoice)
        [.update twoNotes, .callback 4 [4, 2]] = some synth ∧
      activeKeys synth.voices = [188] ∧ (activeKeys synth.voices).Nodup := by
  have runs : (run (step oneVoice.ramps) (initial oneVoice)
      [.update twoNotes, .callback 4 [4, 2]]).any
        (fun synth => decide (activeKeys synth.voices = [188])) = true := by decide +kernel
  rcases (Option.any_eq_true _ _).mp runs with ⟨synth, reached, held⟩
  exact ⟨synth, reached, of_decide_eq_true held,
    (voices_sound oneVoice.ramps oneVoice _ synth reached).1⟩

end DebugSynth

end Midi
end Synesthesia
