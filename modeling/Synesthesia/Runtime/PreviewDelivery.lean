import Mathlib
import Synesthesia.Runtime.PreviewBroker

namespace Synesthesia
namespace Runtime

open Foundation Contracts

/-!
# Delivery of previews within the process

What is published never depends on the polls.  What is delivered does: a poll
between the bump of a generation and the reset of the cursors compares the new
generation's sequences with the old generation's cursors.
-/

variable {Content : Type*}

namespace PreviewBroker

/-! ## What is published -/

/-- The numbering of the published previews, and where the retained ones come from. -/
structure Publishes (broker : PreviewBroker Content) : Prop where
  stamped : ∀ key, ∀ preview ∈ broker.published key,
    preview.submitted = preview.generation ∧ preview.generation ≤ broker.generation ∧
      1 ≤ preview.sequence
  converting : ∀ generation submitted now publications,
    broker.conversion = .converting generation submitted now publications →
      submitted = generation
  rising : ∀ key, (broker.published key).Pairwise
    (fun earlier later => earlier.generation ≤ later.generation ∧
      (earlier.generation = later.generation → earlier.sequence < later.sequence))
  counted : ∀ key, ∀ preview ∈ broker.published key,
    preview.generation = broker.generation → preview.sequence ≤ broker.sequences key
  latest : ∀ key preview, broker.retained key = some preview →
    preview ∈ broker.published key ∧ broker.cleared ≤ preview.generation ∧
      (preview.generation = broker.generation → preview.sequence = broker.sequences key) ∧
      (preview.generation = broker.generation ∨
        key.family = .image ∧ ∃ reset ∈ broker.resets, reset.transportCleared = false)
  resetting : ∀ reset ∈ broker.resets, reset.generation ≤ broker.generation ∧
    (reset.transportCleared = true → reset.generation ≤ broker.cleared)
  bounded : broker.returned ≤ broker.cleared ∧ broker.cleared ≤ broker.generation

theorem publishes_initial : (initial : PreviewBroker Content).Publishes where
  stamped := fun key preview impossible => by cases impossible
  converting := fun _ _ _ _ impossible => by cases impossible
  rising := fun key => List.Pairwise.nil
  counted := fun key preview impossible => by cases impossible
  latest := fun key preview impossible => by cases impossible
  resetting := fun reset impossible => by cases impossible
  bounded := ⟨Nat.le_refl 0, Nat.le_refl 0⟩

section Publishes

variable {broker : PreviewBroker Content} (publishes : broker.Publishes)
include publishes

/-- Two published previews of one port, generation and sequence are one. -/
theorem Publishes.unique {key : PreviewKey}
    {first second : Preview Content} (one : first ∈ broker.published key)
    (other : second ∈ broker.published key) (generation : first.generation = second.generation)
    (sequence : first.sequence = second.sequence) : first = second := by
  have apart : ∀ earlier later : Preview Content,
      (earlier.generation ≤ later.generation ∧
        (earlier.generation = later.generation → earlier.sequence < later.sequence)) →
      earlier.generation = later.generation → earlier.sequence ≠ later.sequence :=
    fun earlier later rises same => (rises.2 same).ne
  have agree : ∀ left ∈ broker.published key, ∀ right ∈ broker.published key,
      left.generation = right.generation → left.sequence = right.sequence → left = right := by
    apply List.Pairwise.forall_of_forall_of_flip
    · exact fun preview _ _ _ => rfl
    · apply (publishes.rising key).imp
      intro earlier later rises same equal
      exact absurd equal (apart earlier later rises same)
    · apply (publishes.rising key).imp
      intro earlier later rises same equal
      exact absurd equal.symm (apart earlier later rises same.symm)
  exact agree first one second other generation sequence

/-- What the threads do outside the broker changes nothing here. -/
theorem Publishes.transport {next : PreviewBroker Content}
    (published : next.published = broker.published) (sequences : next.sequences = broker.sequences)
    (retained : next.retained = broker.retained) (generation : next.generation = broker.generation)
    (resets : next.resets = broker.resets) (cleared : next.cleared = broker.cleared)
    (returned : next.returned = broker.returned)
    (converting : ∀ generation submitted now publications,
      next.conversion = .converting generation submitted now publications →
        submitted = generation) : next.Publishes := by
  constructor
  · rw [published, generation]
    exact publishes.stamped
  · exact converting
  · rw [published]
    exact publishes.rising
  · rw [published, generation, sequences]
    exact publishes.counted
  · rw [published, generation, sequences, retained, resets, cleared]
    exact publishes.latest
  · rw [resets, generation, cleared]
    exact publishes.resetting
  · rw [returned, cleared, generation]
    exact publishes.bounded

theorem Publishes.collect (job : PreviewJob Content) (now : ℚ) :
    (broker.collect job now).Publishes := by
  rw [PreviewBroker.collect]
  split_ifs with current
  · refine publishes.transport rfl rfl rfl rfl rfl rfl rfl ?_
    intro generation submitted moment publications converting
    cases converting
    exact current
  · refine publishes.transport rfl rfl rfl rfl rfl rfl rfl ?_
    intro _ _ _ _ impossible
    cases impossible

/-- A bump starts every numbering anew. -/
theorem Publishes.bump (targets : List PreviewTarget) :
    (broker.bump targets).Publishes := by
  constructor
  · intro key preview member
    have stamped := publishes.stamped key preview member
    exact ⟨stamped.1, Nat.le_succ_of_le stamped.2.1, stamped.2.2⟩
  · exact publishes.converting
  · exact publishes.rising
  · intro key preview member same
    have older := (publishes.stamped key preview member).2.1
    have current : preview.generation = broker.generation + 1 := same
    omega
  · intro key preview retained
    have image : (if key.family = .image then broker.retained key else none) = some preview :=
      retained
    split_ifs at image
    have before := publishes.latest key preview image
    refine ⟨before.1, before.2.1, ?_, Or.inr ⟨‹_›, ?_⟩⟩
    · intro same
      have older := (publishes.stamped key preview before.1).2.1
      have current : preview.generation = broker.generation + 1 := same
      omega
    · exact ⟨_, List.mem_append_right _ List.mem_cons_self, rfl⟩
  · intro reset member
    rcases List.mem_append.mp member with earlier | last
    · have before := publishes.resetting reset earlier
      exact ⟨Nat.le_succ_of_le before.1, before.2⟩
    · rw [List.mem_singleton.mp last]
      exact ⟨Nat.le_refl _, fun impossible => by cases impossible⟩
  · exact ⟨publishes.bounded.1, Nat.le_succ_of_le publishes.bounded.2⟩

/-- An emptied transport keeps no preview of an older generation. -/
theorem Publishes.clearTransport {place : Nat}
    {reset : PreviewReset} (stands : broker.resets[place]? = some reset) :
    (broker.clearTransport place reset).Publishes := by
  have resetting := publishes.resetting reset (List.mem_of_getElem? stands)
  constructor
  · exact publishes.stamped
  · exact publishes.converting
  · exact publishes.rising
  · exact publishes.counted
  · intro key preview retained
    have other : (if key.family = .image then none else broker.retained key) = some preview :=
      retained
    split_ifs at other with image
    have before := publishes.latest key preview other
    have current : preview.generation = broker.generation :=
      before.2.2.2.resolve_right (fun older => image older.1)
    refine ⟨before.1, ?_, before.2.2.1, Or.inl current⟩
    exact max_le before.2.1 (current ▸ resetting.1)
  · intro entry member
    rcases List.mem_or_eq_of_mem_set member with earlier | changed
    · have before := publishes.resetting entry earlier
      exact ⟨before.1, fun done => (before.2 done).trans (le_max_left _ _)⟩
    · rw [changed]
      exact ⟨resetting.1, fun _ => le_max_right _ _⟩
  · exact ⟨publishes.bounded.1.trans (le_max_left _ _), max_le publishes.bounded.2 resetting.1⟩

/-- A reset that returns has emptied the transport before. -/
theorem Publishes.resetCursors {place : Nat}
    {reset : PreviewReset} (stands : broker.resets[place]? = some reset)
    (cleared : reset.transportCleared = true) : (broker.resetCursors place reset).Publishes := by
  have resetting := publishes.resetting reset (List.mem_of_getElem? stands)
  constructor
  · exact publishes.stamped
  · exact publishes.converting
  · exact publishes.rising
  · exact publishes.counted
  · intro key preview retained
    have before := publishes.latest key preview retained
    refine ⟨before.1, before.2.1, before.2.2.1, ?_⟩
    rcases before.2.2.2 with current | ⟨image, older, member, waits⟩
    · exact Or.inl current
    · refine Or.inr ⟨image, older, ?_, waits⟩
      rcases List.mem_iff_getElem?.mp member with ⟨other, found⟩
      refine List.mem_eraseIdx_iff_getElem?.mpr ⟨other, ?_, found⟩
      intro same
      rw [same, stands] at found
      cases found
      rw [cleared] at waits
      cases waits
  · intro entry member
    exact publishes.resetting entry (List.mem_of_mem_eraseIdx member)
  · exact ⟨max_le publishes.bounded.1 (resetting.2 cleared), publishes.bounded.2⟩

omit publishes

section Publish

variable [DecidableEq Content]

/-- A publication takes the next number of its port in the current generation. -/
theorem Publishes.publishTarget (publishes : broker.Publishes) {submitted : Nat}
    (stamped : submitted = broker.generation) (now : ℚ) (target : PreviewTarget)
    (observed : Observed Content) :
    (broker.publishTarget submitted now target observed).Publishes := by
  rw [PreviewBroker.publishTarget]
  dsimp only
  split_ifs with early unchanged
  · exact publishes
  · exact publishes
  have changed : ∀ key, ∀ preview ∈ Function.update broker.published target.key
      (broker.published target.key ++ [⟨broker.sequences target.key + 1, observed.tickIndex,
        observed.content, broker.generation, submitted⟩]) key,
      preview ∈ broker.published key ∨ key = target.key ∧
        preview = ⟨broker.sequences target.key + 1, observed.tickIndex, observed.content,
          broker.generation, submitted⟩ := by
    intro key preview member
    by_cases same : key = target.key
    · rw [same, Function.update_self] at member
      rcases List.mem_append.mp member with earlier | last
      · exact Or.inl (same ▸ earlier)
      · exact Or.inr ⟨same, List.mem_singleton.mp last⟩
    · rw [Function.update_of_ne same] at member
      exact Or.inl member
  constructor
  · intro key preview member
    rcases changed key preview member with earlier | ⟨_, new⟩
    · exact publishes.stamped key preview earlier
    · rw [new]
      exact ⟨stamped, Nat.le_refl _, Nat.succ_pos _⟩
  · exact publishes.converting
  · intro key
    by_cases same : key = target.key
    · dsimp only
      rw [same, Function.update_self, List.pairwise_append]
      refine ⟨publishes.rising target.key, List.pairwise_singleton _ _, ?_⟩
      intro earlier member later last
      rw [List.mem_singleton.mp last]
      refine ⟨(publishes.stamped target.key earlier member).2.1, ?_⟩
      intro current
      exact Nat.lt_succ_of_le (publishes.counted target.key earlier member current)
    · dsimp only
      rw [Function.update_of_ne same]
      exact publishes.rising key
  · intro key preview member current
    dsimp only
    rcases changed key preview member with earlier | ⟨own, new⟩
    · have before := publishes.counted key preview earlier current
      by_cases same : key = target.key
      · rw [same, Function.update_self]
        exact (same ▸ before).trans (Nat.le_succ _)
      · rw [Function.update_of_ne same]
        exact before
    · rw [own, new, Function.update_self]
  · intro key preview retained
    dsimp only at retained ⊢
    by_cases same : key = target.key
    · rw [same, Function.update_self, Option.some.injEq] at retained
      rw [same, ← retained, Function.update_self, Function.update_self]
      exact ⟨List.mem_append_right _ List.mem_cons_self, publishes.bounded.2, fun _ => rfl,
        Or.inl rfl⟩
    · rw [Function.update_of_ne same] at retained ⊢
      rw [Function.update_of_ne same]
      exact publishes.latest key preview retained
  · exact publishes.resetting
  · exact publishes.bounded

theorem publishTarget_generation (broker : PreviewBroker Content) (submitted : Nat) (now : ℚ)
    (target : PreviewTarget) (observed : Observed Content) :
    (broker.publishTarget submitted now target observed).generation = broker.generation := by
  rw [PreviewBroker.publishTarget]
  dsimp only
  split_ifs <;> rfl

theorem Publishes.publishAll (publishes : broker.Publishes) {submitted : Nat}
    (stamped : submitted = broker.generation) (now : ℚ)
    (publications : List (PreviewTarget × Observed Content)) :
    (broker.publishAll submitted now publications).Publishes := by
  induction publications generalizing broker with
  | nil => exact publishes
  | cons publication rest ih =>
      rw [PreviewBroker.publishAll]
      apply ih (publishes.publishTarget stamped now _ _)
      rw [publishTarget_generation]
      exact stamped

theorem Publishes.publish (publishes : broker.Publishes) {generation submitted : Nat} {now : ℚ}
    {publications : List (PreviewTarget × Observed Content)}
    (converting : broker.conversion = .converting generation submitted now publications) :
    (broker.publish generation submitted now publications).Publishes := by
  rw [PreviewBroker.publish]
  split_ifs with current
  · have all := publishes.publishAll
      ((publishes.converting _ _ _ _ converting).trans current) now publications
    refine all.transport rfl rfl rfl rfl rfl rfl rfl ?_
    intro _ _ _ _ impossible
    cases impossible
  · refine publishes.transport rfl rfl rfl rfl rfl rfl rfl ?_
    intro _ _ _ _ impossible
    cases impossible

end Publish

end Publishes

/-! ## What is delivered -/

/-- The cursor of a port once the poll that is under way has stored its batch. -/
def cursorAfter (broker : PreviewBroker Content) (key : PreviewKey) : Nat :=
  match broker.polling with
  | none => broker.cursors key
  | some batch => ((batch key).map Preview.sequence).getD (broker.cursors key)

/-- The cursors stand at what was delivered of the current generation. -/
structure Delivers (broker : PreviewBroker Content) : Prop where
  delivered : ∀ key, ∀ preview ∈ broker.delivered key, preview ∈ broker.published key
  once : ∀ key, (broker.delivered key).Nodup
  quiet : broker.resets ≠ [] → ∀ key, ∀ preview ∈ broker.delivered key,
    preview.generation < broker.generation
  behind : broker.resets = [] → ∀ key, ∀ preview ∈ broker.delivered key,
    preview.generation = broker.generation → preview.sequence ≤ broker.cursorAfter key
  reached : broker.resets = [] → ∀ key, broker.cursorAfter key ≠ 0 →
    ∃ preview ∈ broker.delivered key, preview.generation = broker.generation ∧
      preview.sequence = broker.cursorAfter key

theorem delivers_initial : (initial : PreviewBroker Content).Delivers where
  delivered := fun key preview impossible => by cases impossible
  once := fun key => List.nodup_nil
  quiet := fun impossible => absurd rfl impossible
  behind := fun _ key preview impossible => by cases impossible
  reached := fun _ key impossible => absurd rfl impossible

section Delivers

variable {broker : PreviewBroker Content}

/-- Publications and the conversion worker leave the deliveries alone. -/
theorem Delivers.transport (delivers : broker.Delivers) {next : PreviewBroker Content}
    (published : ∀ key, broker.published key ⊆ next.published key)
    (delivered : next.delivered = broker.delivered) (cursors : next.cursors = broker.cursors)
    (polling : next.polling = broker.polling) (generation : next.generation = broker.generation)
    (resets : next.resets = broker.resets) : next.Delivers := by
  have after : next.cursorAfter = broker.cursorAfter := by
    funext key
    rw [cursorAfter, cursorAfter, polling, cursors]
  constructor
  · intro key preview member
    rw [delivered] at member
    exact published key (delivers.delivered key preview member)
  · rw [delivered]
    exact delivers.once
  · rw [resets, delivered, generation]
    exact delivers.quiet
  · rw [resets, delivered, generation, after]
    exact delivers.behind
  · rw [resets, delivered, generation, after]
    exact delivers.reached

/-- Whatever was delivered is of an older generation after a bump. -/
theorem Delivers.bump (delivers : broker.Delivers) (publishes : broker.Publishes)
    (targets : List PreviewTarget) : (broker.bump targets).Delivers := by
  have resetting : (broker.bump targets).resets ≠ [] := List.append_ne_nil_of_right_ne_nil _
    (List.cons_ne_nil _ _)
  refine ⟨delivers.delivered, delivers.once, ?_, fun none => absurd none resetting,
    fun none => absurd none resetting⟩
  intro _ key preview member
  have published := delivers.delivered key preview member
  exact Nat.lt_succ_of_le (publishes.stamped key preview published).2.1

theorem Delivers.clearTransport (delivers : broker.Delivers) {place : Nat}
    {reset : PreviewReset} (stands : broker.resets[place]? = some reset) :
    (broker.clearTransport place reset).Delivers := by
  have before : broker.resets ≠ [] := List.ne_nil_of_mem (List.mem_of_getElem? stands)
  have resetting : (broker.clearTransport place reset).resets ≠ [] := by
    intro none
    have length : (broker.resets.set place ⟨reset.generation, true⟩).length = 0 :=
      congrArg List.length none
    rw [List.length_set] at length
    exact before (List.length_eq_zero_iff.mp length)
  exact ⟨delivers.delivered, delivers.once, fun _ => delivers.quiet before,
    fun none => absurd none resetting, fun none => absurd none resetting⟩

/-- Fresh cursors have nothing of the current generation behind them. -/
theorem Delivers.resetCursors (delivers : broker.Delivers) {place : Nat}
    {reset : PreviewReset} (stands : broker.resets[place]? = some reset)
    (free : broker.polling = none) : (broker.resetCursors place reset).Delivers := by
  have before : broker.resets ≠ [] := List.ne_nil_of_mem (List.mem_of_getElem? stands)
  have zero : ∀ key, (broker.resetCursors place reset).cursorAfter key = 0 := by
    intro key
    change (match broker.polling with
      | none => 0
      | some batch => ((batch key).map Preview.sequence).getD 0) = 0
    rw [free]
  refine ⟨delivers.delivered, delivers.once, fun _ => delivers.quiet before, ?_, ?_⟩
  · intro _ key preview member current
    exact absurd current (delivers.quiet before key preview member).ne
  · intro _ key moved
    exact absurd (zero key) moved

variable {preview : Preview Content} {key : PreviewKey} {family : PreviewFamily}

theorem news_eq_some :
    broker.news family key = some preview ↔
      key.family = family ∧ broker.retained key = some preview ∧
        broker.cursors key < preview.sequence := by
  rw [news]
  split_ifs with own
  · rw [Option.filter_eq_some_iff, decide_eq_true_eq]
    exact ⟨fun found => ⟨own, found⟩, fun found => found.2⟩
  · exact iff_of_false (fun impossible => by cases impossible) (fun found => own found.1)

/-- Without a reset under way, what is retained is of the current generation. -/
theorem Publishes.current (publishes : broker.Publishes) (settled : broker.resets = [])
    (retained : broker.retained key = some preview) :
    preview.generation = broker.generation := by
  rcases (publishes.latest key preview retained).2.2.2 with current | ⟨_, reset, member, _⟩
  · exact current
  · rw [settled] at member
    cases member

/-- A poll outside of resets delivers what was not delivered before. -/
theorem Delivers.pollReads (delivers : broker.Delivers) (publishes : broker.Publishes)
    (settled : broker.resets = []) (free : broker.polling = none) (family : PreviewFamily) :
    (broker.pollReads family).Delivers := by
  have before : ∀ key, broker.cursorAfter key = broker.cursors key := by
    intro key
    rw [cursorAfter, free]
  have after : ∀ key, (broker.pollReads family).cursorAfter key =
      ((broker.news family key).map Preview.sequence).getD (broker.cursors key) := fun key => rfl
  have added : ∀ key, (broker.pollReads family).delivered key =
      broker.delivered key ++ (broker.news family key).toList := fun key => rfl
  constructor
  · intro key preview member
    rw [added] at member
    rcases List.mem_append.mp member with earlier | new
    · exact delivers.delivered key preview earlier
    · have found := news_eq_some.mp (Option.mem_toList.mp new)
      exact (publishes.latest key preview found.2.1).1
  · intro key
    rw [added]
    cases news : broker.news family key with
    | none =>
        rw [Option.toList_none, List.append_nil]
        exact delivers.once key
    | some preview =>
        rw [Option.toList_some, List.nodup_append]
        refine ⟨delivers.once key, List.nodup_singleton _, ?_⟩
        intro earlier member other new same
        have found := news_eq_some.mp news
        have preceding := delivers.behind settled key earlier member
        rw [same, List.mem_singleton.mp new] at preceding
        have passed := preceding (publishes.current settled found.2.1)
        rw [before key] at passed
        exact absurd found.2.2 passed.not_gt
  · exact fun resetting => absurd settled resetting
  · intro _ key preview member current
    rw [added] at member
    rw [after]
    cases news : broker.news family key with
    | none =>
        rw [news, Option.toList_none, List.append_nil] at member
        have passed := delivers.behind settled key preview member current
        rw [before key] at passed
        exact passed
    | some newer =>
        rw [news] at member
        rcases List.mem_append.mp member with earlier | new
        · have passed := delivers.behind settled key preview earlier current
          rw [before key] at passed
          exact passed.trans (news_eq_some.mp news).2.2.le
        · rw [List.mem_singleton.mp new]
          exact Nat.le_refl _
  · intro _ key moved
    rw [after] at moved ⊢
    rw [added]
    cases news : broker.news family key with
    | none =>
        rw [news] at moved
        rcases delivers.reached settled key (by rw [before key]; exact moved) with
          ⟨preview, member, current, same⟩
        rw [before key] at same
        exact ⟨preview, List.mem_append_left _ member, current, same⟩
    | some newer =>
        refine ⟨newer, List.mem_append_right _ List.mem_cons_self, ?_, rfl⟩
        exact publishes.current settled (news_eq_some.mp news).2.1

/-- The next poll has the latest preview, be it now or before. -/
theorem Delivers.latest_of_pollReads (delivers : broker.Delivers)
    (publishes : broker.Publishes) (settled : broker.resets = []) (free : broker.polling = none)
    (retained : broker.retained key = some preview) :
    preview ∈ (broker.pollReads key.family).delivered key := by
  have added : (broker.pollReads key.family).delivered key =
      broker.delivered key ++ (broker.news key.family key).toList := rfl
  have latest := publishes.latest key preview retained
  have current := publishes.current settled retained
  rw [added, List.mem_append]
  by_cases behind : broker.cursors key < preview.sequence
  · exact Or.inr (Option.mem_toList.mpr (news_eq_some.mpr ⟨rfl, retained, behind⟩))
  have positive := (publishes.stamped key preview latest.1).2.2
  have cursor : broker.cursorAfter key = broker.cursors key := by
    rw [cursorAfter, free]
  have moved : broker.cursorAfter key ≠ 0 := by
    omega
  rcases delivers.reached settled key moved with ⟨served, member, same, sequence⟩
  have listed := delivers.delivered key served member
  have counted := publishes.counted key served listed same
  have numbered := latest.2.2.1 current
  have equal : served = preview :=
    publishes.unique listed latest.1 (same.trans current.symm) (by omega)
  exact Or.inl (equal ▸ member)

/-- What a poll adds is no older than any reset that has returned. -/
theorem Publishes.recent_of_pollReads (publishes : broker.Publishes)
    (member : preview ∈ (broker.pollReads family).delivered key) :
    preview ∈ broker.delivered key ∨ broker.returned ≤ preview.generation := by
  rcases List.mem_append.mp member with earlier | new
  · exact Or.inl earlier
  · have found := news_eq_some.mp (Option.mem_toList.mp new)
    exact Or.inr (publishes.bounded.1.trans (publishes.latest key preview found.2.1).2.1)

theorem Delivers.pollStores (delivers : broker.Delivers)
    {batch : PreviewKey → Option (Preview Content)} (held : broker.polling = some batch) :
    (broker.pollStores batch).Delivers := by
  have after : (broker.pollStores batch).cursorAfter = broker.cursorAfter := by
    funext key
    rw [cursorAfter, cursorAfter, held]
    rfl
  refine ⟨delivers.delivered, delivers.once, delivers.quiet, ?_, ?_⟩
  · rw [after]
    exact delivers.behind
  · rw [after]
    exact delivers.reached

section Publish

variable [DecidableEq Content]

theorem Delivers.publishTarget (delivers : broker.Delivers) (submitted : Nat) (now : ℚ)
    (target : PreviewTarget) (observed : Observed Content) :
    (broker.publishTarget submitted now target observed).Delivers := by
  rw [PreviewBroker.publishTarget]
  dsimp only
  split_ifs
  · exact delivers
  · exact delivers
  · refine delivers.transport ?_ rfl rfl rfl rfl rfl
    intro key
    by_cases same : key = target.key
    · dsimp only
      rw [same, Function.update_self]
      exact List.subset_append_left _ _
    · dsimp only
      rw [Function.update_of_ne same]
      exact List.Subset.refl _

theorem Delivers.publish (delivers : broker.Delivers) (generation submitted : Nat) (now : ℚ)
    (publications : List (PreviewTarget × Observed Content)) :
    (broker.publish generation submitted now publications).Delivers := by
  have all : (broker.publishAll submitted now publications).Delivers := by
    induction publications generalizing broker with
    | nil => exact delivers
    | cons publication rest ih =>
        rw [PreviewBroker.publishAll]
        exact ih (delivers.publishTarget submitted now _ _)
  rw [PreviewBroker.publish]
  split_ifs
  · exact all.transport (fun _ => List.Subset.refl _) rfl rfl rfl rfl rfl
  · exact delivers.transport (fun _ => List.Subset.refl _) rfl rfl rfl rfl rfl

end Publish

end Delivers

/-! ## Every interleaving -/

/-- No poll reads between the bump of a generation and the reset of the cursors. -/
def PollsSettled (broker : PreviewBroker Content) : PreviewAction Content → Prop
  | .pollReads _ => broker.resets = []
  | _ => True

section Runs

variable [DecidableEq Content] {broker next : PreviewBroker Content}

theorem step_publishes {action : PreviewAction Content}
    (publishes : broker.Publishes) (taken : broker.step action = some next) : next.Publishes := by
  cases step_cases taken with
  | submit => exact publishes.transport rfl rfl rfl rfl rfl rfl rfl publishes.converting
  | workerTakes =>
      refine publishes.transport rfl rfl rfl rfl rfl rfl rfl ?_
      intro _ _ _ _ impossible
      cases impossible
  | workerCollects now => exact publishes.collect _ now
  | conversionRaises =>
      refine publishes.transport rfl rfl rfl rfl rfl rfl rfl ?_
      intro _ _ _ _ impossible
      cases impossible
  | workerPublishes converting => exact publishes.publish converting
  | bump targets => exact publishes.bump targets
  | clearTransport stands => exact publishes.clearTransport stands
  | resetCursors stands cleared => exact publishes.resetCursors stands cleared
  | pollReads => exact publishes.transport rfl rfl rfl rfl rfl rfl rfl publishes.converting
  | pollStores => exact publishes.transport rfl rfl rfl rfl rfl rfl rfl publishes.converting

theorem step_delivers {action : PreviewAction Content}
    (delivers : broker.Delivers) (publishes : broker.Publishes)
    (settled : PollsSettled broker action) (taken : broker.step action = some next) :
    next.Delivers := by
  cases step_cases taken with
  | submit => exact delivers.transport (fun _ => List.Subset.refl _) rfl rfl rfl rfl rfl
  | workerTakes => exact delivers.transport (fun _ => List.Subset.refl _) rfl rfl rfl rfl rfl
  | workerCollects now =>
      rw [collect]
      split_ifs
      · exact delivers.transport (fun _ => List.Subset.refl _) rfl rfl rfl rfl rfl
      · exact delivers.transport (fun _ => List.Subset.refl _) rfl rfl rfl rfl rfl
  | conversionRaises =>
      exact delivers.transport (fun _ => List.Subset.refl _) rfl rfl rfl rfl rfl
  | workerPublishes => exact delivers.publish _ _ _ _
  | bump targets => exact delivers.bump publishes targets
  | clearTransport stands => exact delivers.clearTransport stands
  | resetCursors stands _ free => exact delivers.resetCursors stands free
  | pollReads family free => exact delivers.pollReads publishes settled free family
  | pollStores held => exact delivers.pollStores held

/-- What a poll takes along, if it is the next one. -/
theorem pollReads_of_step {family : PreviewFamily}
    (taken : broker.step (.pollReads family) = some next) :
    broker.polling = none ∧ next = broker.pollReads family := by
  cases step_cases taken with
  | pollReads _ free => exact ⟨free, rfl⟩

/-- In every interleaving in which no poll reads between a bump of the
generation and the reset of its cursors: the sequences of a port increase
within a generation, nothing is delivered twice, no job of an older generation
is published, the next poll has the latest preview of each of its ports, and
what it adds is no older than the last activation or clear that returned. -/
theorem delivered_in_process {actions : List (PreviewAction Content)}
    {final : PreviewBroker Content} (reached : run step initial actions = some final)
    (settled : Meets step PollsSettled initial actions) :
    (∀ key, (final.published key).Pairwise (fun earlier later =>
      earlier.generation = later.generation → earlier.sequence < later.sequence)) ∧
    (∀ key, (final.delivered key).Nodup) ∧
    (∀ key, ∀ preview ∈ final.published key, preview.submitted = preview.generation) ∧
    ∀ family next, final.step (.pollReads family) = some next →
      (PollsSettled final (.pollReads family) → ∀ key preview, key.family = family →
        final.retained key = some preview → preview ∈ next.delivered key) ∧
      ∀ key, ∀ preview ∈ next.delivered key,
        preview ∈ final.delivered key ∨ final.returned ≤ preview.generation := by
  have initially : (initial : PreviewBroker Content).Publishes ∧
      (initial : PreviewBroker Content).Delivers := ⟨publishes_initial, delivers_initial⟩
  have preserved : ∀ (broker : PreviewBroker Content) (action : PreviewAction Content)
      (next : PreviewBroker Content), broker.Publishes ∧ broker.Delivers →
      PollsSettled broker action → broker.step action = some next →
      next.Publishes ∧ next.Delivers := by
    intro broker action next both quiet taken
    exact ⟨step_publishes both.1 taken, step_delivers both.2 both.1 quiet taken⟩
  have kept : final.Publishes ∧ final.Delivers :=
    run_invariant preserved initially settled reached
  refine ⟨?_, kept.2.once, ?_, ?_⟩
  · intro key
    exact (kept.1.rising key).imp (fun rises => rises.2)
  · intro key preview member
    exact (kept.1.stamped key preview member).1
  · intro family next taken
    rcases pollReads_of_step taken with ⟨free, polled⟩
    subst polled
    refine ⟨?_, fun key preview member => kept.1.recent_of_pollReads member⟩
    intro quiet key preview own retained
    subst own
    exact kept.2.latest_of_pollReads kept.1 quiet free retained

instance (broker : PreviewBroker Content) (action : PreviewAction Content) :
    Decidable (PollsSettled broker action) := by
  cases action <;> unfold PollsSettled <;> infer_instance

end Runs

/-! ## A poll between the bump and the cursors -/

/-- A visualizer and the port of its notes. -/
def notesKey : PreviewKey := ⟨.note, 1, "notes"⟩

def notesTarget : PreviewTarget := ⟨notesKey, 0⟩

/-- One chord on the visualizer. -/
def chordTick : PreviewKey → Option (Observed Nat) :=
  fun key => if key = notesKey then some ⟨60, 4⟩ else none

/-- An activation bumps the generation, and the worker publishes a tick of it. -/
def publishedChord : List (PreviewAction Nat) :=
  [.bump [notesTarget], .submit 1 chordTick, .workerTakes, .workerCollects 0, .workerPublishes]

/-- What a poll hands out of the chord. -/
structure DeliverySummary where
  retained : Option (Preview Nat)
  delivered : List (Preview Nat)
  returned : Nat
deriving DecidableEq

def deliverySummary (broker : PreviewBroker Nat) : DeliverySummary :=
  ⟨broker.retained notesKey, broker.delivered notesKey, broker.returned⟩

def chordPreview : Preview Nat := ⟨1, 4, 60, 1, 1⟩

/-- The activation returns before the client polls. -/
def polledAfterReset : List (PreviewAction Nat) :=
  publishedChord ++ [.resetAdvances 0, .resetAdvances 0, .pollReads .note, .pollStores]

theorem delivered_in_process_of_polledAfterReset :
    ∃ final, run step initial polledAfterReset = some final ∧
      deliverySummary final = ⟨some chordPreview, [chordPreview], 1⟩ ∧
      (∀ key, (final.published key).Pairwise (fun earlier later =>
        earlier.generation = later.generation → earlier.sequence < later.sequence)) ∧
      (∀ key, (final.delivered key).Nodup) := by
  have left : (run step initial polledAfterReset).map deliverySummary =
      some ⟨some chordPreview, [chordPreview], 1⟩ := by
    decide +kernel
  rcases Option.map_eq_some_iff.mp left with ⟨final, reached, summarized⟩
  have process := delivered_in_process reached (by decide +kernel)
  exact ⟨final, reached, summarized, process.1, process.2.1⟩

/-- The client polls while the activation is still to reset the cursors, and
once more afterwards. -/
def polledDuringReset : List (PreviewAction Nat) :=
  publishedChord ++ [.pollReads .note, .pollStores, .resetAdvances 0, .resetAdvances 0,
    .pollReads .note, .pollStores]

/-- The reset forgets that the chord was delivered. -/
theorem poll_before_reset_delivers_twice :
    ∃ final, run step initial polledDuringReset = some final ∧
      final.delivered notesKey = [chordPreview, chordPreview] ∧
      ¬(final.delivered notesKey).Nodup := by
  have left : (run step initial polledDuringReset).map deliverySummary =
      some ⟨some chordPreview, [chordPreview, chordPreview], 1⟩ := by
    decide +kernel
  rcases Option.map_eq_some_iff.mp left with ⟨final, reached, summarized⟩
  injection summarized with _ delivered _
  refine ⟨final, reached, delivered, ?_⟩
  rw [delivered]
  decide

end PreviewBroker

end Runtime
end Synesthesia
