import Mathlib
import Synesthesia.Runtime.PreviewChannel

namespace Synesthesia
namespace Runtime

open Foundation Contracts

/-!
# Convergence of note and value previews

A pulled preview is sent once.  It reaches the client if its stamp is current
when it is pulled and the client handles it after it adopted the activation;
an older event is harmless as long as the client has still to clear when it
keeps it, or holds another revision when it compares.
-/

variable {Content : Type*}

namespace PreviewBroker

/-! ## What the workers may change -/

/-- The notes and values in the broker are the latest published ones. -/
def Keeps (broker : PreviewBroker Content) : Prop :=
  ∀ key, key.family ≠ .image → broker.retained key = broker.latestPublished key

/-- What a step of a worker leaves alone; it notifies of what it retains. -/
structure WorksFrom (broker next : PreviewBroker Content) : Prop where
  generation : next.generation = broker.generation
  cursors : next.cursors = broker.cursors
  polling : next.polling = broker.polling
  resets : next.resets = broker.resets
  delivered : next.delivered = broker.delivered
  dirty : broker.dirty = true → next.dirty = true
  notified : next.dirty = true ∨ next.retained = broker.retained

theorem WorksFrom.refl (broker : PreviewBroker Content) : broker.WorksFrom broker :=
  ⟨rfl, rfl, rfl, rfl, rfl, fun dirty => dirty, Or.inr rfl⟩

theorem WorksFrom.trans {first second third : PreviewBroker Content}
    (earlier : first.WorksFrom second) (later : second.WorksFrom third) :
    first.WorksFrom third := by
  refine ⟨later.generation.trans earlier.generation, later.cursors.trans earlier.cursors,
    later.polling.trans earlier.polling, later.resets.trans earlier.resets,
    later.delivered.trans earlier.delivered, fun dirty => later.dirty (earlier.dirty dirty), ?_⟩
  rcases later.notified with dirty | same
  · exact Or.inl dirty
  · rcases earlier.notified with dirty | before
    · exact Or.inl (later.dirty dirty)
    · exact Or.inr (same.trans before)

theorem WorksFrom.cursorAfter {broker next : PreviewBroker Content} (works : broker.WorksFrom next)
    (key : PreviewKey) : next.cursorAfter key = broker.cursorAfter key := by
  rw [PreviewBroker.cursorAfter, PreviewBroker.cursorAfter, works.polling, works.cursors]

/-- Nothing is published of a generation that has just begun. -/
theorem Keeps.bump {broker : PreviewBroker Content} (publishes : broker.Publishes)
    (targets : List PreviewTarget) : (broker.bump targets).Keeps := by
  intro key family
  have forgotten : (broker.bump targets).retained key = none := if_neg family
  have listed : (broker.bump targets).published = broker.published := rfl
  have counted : (broker.bump targets).generation = broker.generation + 1 := rfl
  have none : (broker.published key).filter
      (fun preview => preview.generation = (broker.bump targets).generation) = [] := by
    apply List.filter_eq_nil_iff.mpr
    intro preview member
    have older := (publishes.stamped key preview member).2.1
    rw [counted, decide_eq_true_eq]
    omega
  rw [forgotten, latestPublished, listed, none]
  rfl

section Publish

variable [DecidableEq Content] {broker : PreviewBroker Content}

/-- A publication is the latest of its port. -/
theorem Keeps.publishTarget (keeps : broker.Keeps) (submitted : Nat) (now : ℚ)
    (target : PreviewTarget) (observed : Observed Content) :
    (broker.publishTarget submitted now target observed).Keeps := by
  rw [PreviewBroker.publishTarget]
  dsimp only
  split_ifs
  · exact keeps
  · exact keeps
  · intro key family
    rw [latestPublished]
    dsimp only
    by_cases same : key = target.key
    · rw [same, Function.update_self, Function.update_self, List.filter_append,
        List.filter_cons_of_pos (by simp), List.filter_nil, List.getLast?_concat]
    · rw [Function.update_of_ne same, Function.update_of_ne same]
      exact keeps key family

theorem Keeps.publishAll (keeps : broker.Keeps) (submitted : Nat) (now : ℚ)
    (publications : List (PreviewTarget × Observed Content)) :
    (broker.publishAll submitted now publications).Keeps := by
  induction publications generalizing broker with
  | nil => exact keeps
  | cons publication rest ih =>
      rw [PreviewBroker.publishAll]
      exact ih (keeps.publishTarget submitted now _ _)

end Publish

end PreviewBroker

/-! ## The invariant of both processes -/

/-- The child is between bumping the generation and announcing the revision. -/
def ActivationPhase.isExecuting : ActivationPhase → Bool
  | .executing _ _ => true
  | _ => false

/-- The client has adopted the last activation. -/
def ActivationPhase.isAdopted : ActivationPhase → Bool
  | .idle => true
  | .requested _ => true
  | _ => false

/-- The revision that the publisher read. -/
def PublisherPhase.stamp : PublisherPhase Content → Option Nat
  | .idle => none
  | .stamped graphRevision _ => some graphRevision
  | .shipping event _ => some event.graphRevision

/-- The families that the publisher has still to pull. -/
def PublisherPhase.families : PublisherPhase Content → List PreviewFamily
  | .idle => []
  | .stamped _ families => families
  | .shipping _ families => families

/-- The event in the publisher's hand. -/
def PublisherPhase.held : PublisherPhase Content → List (PreviewEvent Content)
  | .shipping event _ => [event]
  | _ => []

namespace PreviewChannel

/-- The events on their way into what the client retains. -/
def shipped (channel : PreviewChannel Content) : List (PreviewEvent Content) :=
  channel.accepted.toList ++ channel.events ++ channel.publisher.held

/-- How far the client is behind the child. -/
def Agrees (channel : PreviewChannel Content) : Prop :=
  match channel.activation with
  | .idle => channel.client.graphRevision = channel.announced ∧
      channel.clearedGeneration = channel.broker.generation
  | .requested _ => channel.client.graphRevision = channel.announced ∧
      channel.clearedGeneration = channel.broker.generation
  | .executing _ _ => channel.client.graphRevision = channel.announced ∧
      channel.clearedGeneration < channel.broker.generation
  | .answered graphRevision activated =>
      channel.announced =
        (if activated then some graphRevision else channel.client.graphRevision) ∧
      channel.clearedGeneration < channel.broker.generation
  | .cleared graphRevision activated =>
      channel.announced =
        (if activated then some graphRevision else channel.client.graphRevision) ∧
      channel.clearedGeneration = channel.broker.generation

/-- What was pulled of the current generation is on its way or retained. -/
structure Converges (channel : PreviewChannel Content) : Prop where
  publishes : channel.broker.Publishes
  delivers : channel.broker.Delivers
  keeps : channel.broker.Keeps
  agrees : channel.Agrees
  settled : channel.activation.isExecuting = false → channel.broker.resets = []
  noticed : ∀ key preview, key.family ≠ .image → channel.broker.retained key = some preview →
    channel.broker.dirty = true ∨ key.family ∈ channel.publisher.families ∨
      channel.broker.resets = [] ∧ preview.sequence ≤ channel.broker.cursorAfter key
  pulled : ∀ event ∈ channel.shipped, event.generation ≤ channel.broker.generation ∧
    (event.generation = channel.broker.generation →
      channel.activation.isExecuting = false ∧ channel.announced = some event.graphRevision ∧
      ∀ key preview, event.previews key = some preview →
        preview ∈ channel.broker.delivered key ∧ preview.generation = channel.broker.generation)
  accepted : ∀ event ∈ channel.accepted, event.generation = channel.broker.generation →
    channel.clearedGeneration = channel.broker.generation
  held : channel.clearedGeneration = channel.broker.generation → ∀ key preview,
    channel.client.retained key = some preview →
      preview ∈ channel.broker.delivered key ∧ preview.generation = channel.broker.generation
  carried : channel.broker.resets = [] → ∀ key, channel.broker.cursorAfter key ≠ 0 →
    (channel.clearedGeneration = channel.broker.generation ∧ ∃ preview,
      channel.client.retained key = some preview ∧
        preview.sequence = channel.broker.cursorAfter key) ∨
    ∃ event ∈ channel.shipped, event.generation = channel.broker.generation ∧ ∃ preview,
      event.previews key = some preview ∧ preview.sequence = channel.broker.cursorAfter key

section Converges

variable {channel : PreviewChannel Content}

/-! ## The workers and the activation -/

variable (converges : channel.Converges)
include converges

theorem Converges.work {next : PreviewBroker Content}
    (works : channel.broker.WorksFrom next) (keeps : next.Keeps) (publishes : next.Publishes)
    (delivers : next.Delivers) : ({ channel with broker := next }).Converges := by
  constructor
  · exact publishes
  · exact delivers
  · exact keeps
  · have before := converges.agrees
    unfold Agrees at before ⊢
    dsimp only
    rw [works.generation]
    exact before
  · intro returned
    exact works.resets.trans (converges.settled returned)
  · intro key preview family retained
    dsimp only at retained ⊢
    rcases works.notified with dirty | same
    · exact Or.inl dirty
    · rw [same] at retained
      rw [works.resets, works.cursorAfter]
      rcases converges.noticed key preview family retained with dirty | waits
      · exact Or.inl (works.dirty dirty)
      · exact Or.inr waits
  · dsimp only
    rw [works.generation, works.delivered]
    exact converges.pulled
  · dsimp only
    rw [works.generation]
    exact converges.accepted
  · dsimp only
    rw [works.generation, works.delivered]
    exact converges.held
  · intro settled key moved
    dsimp only at settled moved ⊢
    rw [works.resets] at settled
    rw [works.cursorAfter] at moved ⊢
    rw [works.generation]
    exact converges.carried settled key moved

/-- A change of the phase within which nothing else moves. -/
theorem Converges.phase {activation : ActivationPhase}
    (agrees : ({ channel with activation := activation }).Agrees)
    (executing : activation.isExecuting = channel.activation.isExecuting) :
    ({ channel with activation := activation }).Converges := by
  constructor
  · exact converges.publishes
  · exact converges.delivers
  · exact converges.keeps
  · exact agrees
  · dsimp only
    rw [executing]
    exact converges.settled
  · exact converges.noticed
  · intro event member
    dsimp only
    rw [executing]
    exact converges.pulled event member
  · exact converges.accepted
  · exact converges.held
  · exact converges.carried

variable {graphRevision : Nat}

/-- A new generation has nothing on its way. -/
theorem Converges.bump (requested : channel.activation = .requested graphRevision)
    (targets : Option (List PreviewTarget)) :
    (channel.activationBumps graphRevision targets).Converges := by
  have agrees := converges.agrees
  rw [Agrees, requested] at agrees
  have newer : (channel.activationBumps graphRevision targets).broker.generation =
      channel.broker.generation + 1 := rfl
  constructor
  · exact converges.publishes.bump _
  · exact converges.delivers.bump converges.publishes _
  · exact PreviewBroker.Keeps.bump converges.publishes _
  · exact ⟨agrees.1, Nat.lt_succ_of_le agrees.2.le⟩
  · intro impossible
    cases impossible
  · intro key preview family retained
    have none : (channel.activationBumps graphRevision targets).broker.retained key = none :=
      if_neg family
    rw [none] at retained
    cases retained
  · intro event member
    have before := (converges.pulled event member).1
    rw [newer]
    refine ⟨Nat.le_succ_of_le before, ?_⟩
    intro same
    omega
  · intro event member same
    have before := (converges.pulled event (List.mem_append_left _
      (List.mem_append_left _ (Option.mem_toList.mpr member)))).1
    rw [newer] at same
    omega
  · intro same
    have before : channel.clearedGeneration = channel.broker.generation + 1 := same
    have now := agrees.2
    omega
  · intro settled
    exact absurd settled (List.append_ne_nil_of_right_ne_nil _ (List.cons_ne_nil _ _))

/-- The transport keeps no notes and no values. -/
theorem Converges.clearTransport
    (executing : channel.activation.isExecuting = true) {reset : PreviewReset}
    (stands : channel.broker.resets[0]? = some reset) :
    ({ channel with broker := channel.broker.clearTransport 0 reset }).Converges := by
  have resetting : channel.broker.resets ≠ [] :=
    List.ne_nil_of_mem (List.mem_of_getElem? stands)
  have others : ∀ key : PreviewKey, key.family ≠ .image →
      (channel.broker.clearTransport 0 reset).retained key = channel.broker.retained key :=
    fun key family => if_neg family
  constructor
  · exact converges.publishes.clearTransport stands
  · exact converges.delivers.clearTransport stands
  · intro key family
    exact (others key family).trans (converges.keeps key family)
  · exact converges.agrees
  · exact fun returned => by cases executing.symm.trans returned
  · intro key preview family retained
    dsimp only at retained
    rw [others key family] at retained
    rcases converges.noticed key preview family retained with dirty | waits | ⟨none, _⟩
    · exact Or.inl dirty
    · exact Or.inr (Or.inl waits)
    · exact absurd none resetting
  · exact converges.pulled
  · exact converges.accepted
  · exact converges.held
  · intro settled
    have length := congrArg List.length settled
    rw [PreviewBroker.clearTransport, List.length_set] at length
    exact absurd (List.length_eq_zero_iff.mp length) resetting

theorem Converges.resetCursors
    (executing : channel.activation.isExecuting = true) {reset : PreviewReset}
    (stands : channel.broker.resets[0]? = some reset) (cleared : reset.transportCleared = true)
    (free : channel.broker.polling = none) :
    ({ channel with broker := channel.broker.resetCursors 0 reset }).Converges := by
  have resetting : channel.broker.resets ≠ [] :=
    List.ne_nil_of_mem (List.mem_of_getElem? stands)
  constructor
  · exact converges.publishes.resetCursors stands cleared
  · exact converges.delivers.resetCursors stands free
  · exact converges.keeps
  · exact converges.agrees
  · exact fun returned => by cases executing.symm.trans returned
  · intro key preview family retained
    rcases converges.noticed key preview family retained with dirty | waits | ⟨none, _⟩
    · exact Or.inl dirty
    · exact Or.inr (Or.inl waits)
    · exact absurd none resetting
  · exact converges.pulled
  · exact converges.accepted
  · exact converges.held
  · intro _ key moved
    have zero : (channel.broker.resetCursors 0 reset).cursorAfter key = 0 := by
      rw [PreviewBroker.cursorAfter, PreviewBroker.resetCursors]
      dsimp only
      rw [free]
    exact absurd zero moved

variable {activated : Bool}

/-- No event of the generation is on its way before its revision is announced. -/
theorem Converges.answer (executing : channel.activation = .executing graphRevision activated)
    (settled : channel.broker.resets = []) :
    (channel.activationAnswers graphRevision activated).Converges := by
  have agrees := converges.agrees
  rw [Agrees, executing] at agrees
  have older : ∀ event ∈ channel.shipped, event.generation < channel.broker.generation := by
    intro event member
    have before := converges.pulled event member
    refine lt_of_le_of_ne before.1 ?_
    intro same
    have returned := (before.2 same).1
    rw [executing] at returned
    cases returned
  constructor
  · exact converges.publishes
  · exact converges.delivers
  · exact converges.keeps
  · refine ⟨?_, agrees.2⟩
    change (if activated then some graphRevision else channel.announced) =
      if activated then some graphRevision else channel.client.graphRevision
    rw [agrees.1]
  · exact fun _ => settled
  · exact converges.noticed
  · intro event member
    have before := older event member
    exact ⟨before.le, fun same => absurd same before.ne⟩
  · exact converges.accepted
  · exact converges.held
  · intro _ key moved
    rcases converges.carried settled key moved with kept | ⟨event, member, same, _⟩
    · exact Or.inl kept
    · exact absurd same (older event member).ne

/-- The client starts anew, and what it is to retain is on its way. -/
theorem Converges.clear (answered : channel.activation = .answered graphRevision activated) :
    (channel.clientClears graphRevision activated).Converges := by
  have agrees := converges.agrees
  rw [Agrees, answered] at agrees
  have returned : channel.activation.isExecuting = false := by
    rw [answered]
    rfl
  constructor
  · exact converges.publishes
  · exact converges.delivers
  · exact converges.keeps
  · exact ⟨agrees.1, rfl⟩
  · exact fun _ => converges.settled returned
  · exact converges.noticed
  · intro event member
    have before := converges.pulled event member
    exact ⟨before.1, fun same => ⟨rfl, (before.2 same).2⟩⟩
  · exact fun _ _ _ => rfl
  · intro _ key preview impossible
    cases impossible
  · intro settled key moved
    rcases converges.carried settled key moved with ⟨same, _⟩ | waits
    · exact absurd same agrees.2.ne
    · exact Or.inr waits

theorem Converges.adopt (cleared : channel.activation = .cleared graphRevision activated) :
    (channel.clientAdopts graphRevision activated).Converges := by
  have agrees := converges.agrees
  rw [Agrees, cleared] at agrees
  have returned : channel.activation.isExecuting = false := by
    rw [cleared]
    rfl
  constructor
  · exact converges.publishes
  · exact converges.delivers
  · exact converges.keeps
  · exact ⟨agrees.1.symm, agrees.2⟩
  · exact fun _ => converges.settled returned
  · exact converges.noticed
  · intro event member
    have before := converges.pulled event member
    exact ⟨before.1, fun same => ⟨rfl, (before.2 same).2⟩⟩
  · exact converges.accepted
  · exact converges.held
  · exact converges.carried

/-! ## The publisher -/

/-- The publisher goes to pull both families. -/
theorem Converges.read (idle : channel.publisher = .idle)
    (announced : channel.announced = some graphRevision) :
    channel.publisherReads.Converges := by
  have pulls : channel.publisherReads.publisher.families = [.note, .value] := by
    rw [publisherReads, announced]
    rfl
  have shipped : channel.publisherReads.shipped = channel.shipped := by
    rw [PreviewChannel.shipped, PreviewChannel.shipped, publisherReads, announced, idle]
    rfl
  have publishes : channel.publisherReads.broker.Publishes :=
    converges.publishes.transport rfl rfl rfl rfl rfl rfl rfl converges.publishes.converting
  have delivers : channel.publisherReads.broker.Delivers :=
    converges.delivers.transport (fun _ => List.Subset.refl _) rfl rfl rfl rfl rfl
  constructor
  · exact publishes
  · exact delivers
  · exact converges.keeps
  · exact converges.agrees
  · exact converges.settled
  · intro key preview family _
    refine Or.inr (Or.inl ?_)
    rw [pulls]
    cases found : key.family with
    | image => exact absurd found family
    | note => exact List.mem_cons_self
    | value => exact List.mem_cons_of_mem _ List.mem_cons_self
  · rw [shipped]
    exact converges.pulled
  · exact converges.accepted
  · exact converges.held
  · rw [shipped]
    exact converges.carried

theorem Converges.store {batch : PreviewKey → Option (Preview Content)}
    (held : channel.broker.polling = some batch) :
    ({ channel with broker := channel.broker.pollStores batch }).Converges := by
  have after : ∀ key,
      (channel.broker.pollStores batch).cursorAfter key = channel.broker.cursorAfter key := by
    intro key
    rw [PreviewBroker.cursorAfter, PreviewBroker.cursorAfter, held]
    rfl
  constructor
  · exact converges.publishes.transport rfl rfl rfl rfl rfl rfl rfl converges.publishes.converting
  · exact converges.delivers.pollStores held
  · exact converges.keeps
  · exact converges.agrees
  · exact converges.settled
  · intro key preview family retained
    dsimp only
    rw [after]
    exact converges.noticed key preview family retained
  · exact converges.pulled
  · exact converges.accepted
  · exact converges.held
  · intro settled key moved
    dsimp only at moved ⊢
    rw [after] at moved ⊢
    exact converges.carried settled key moved

theorem Converges.put {event : PreviewEvent Content}
    {rest : List PreviewFamily} (shipping : channel.publisher = .shipping event rest) :
    (channel.publisherPuts event rest).Converges := by
  have families : (channel.publisherPuts event rest).publisher.families =
      channel.publisher.families := by
    rw [shipping, publisherPuts]
    dsimp only
    split_ifs with done
    · rw [done]
      rfl
    · rfl
  have shipped : (channel.publisherPuts event rest).shipped = channel.shipped := by
    rw [PreviewChannel.shipped, PreviewChannel.shipped, shipping, publisherPuts]
    dsimp only
    split_ifs
    · exact (List.append_nil _).trans (List.append_assoc _ _ _).symm
    · exact (List.append_nil _).trans (List.append_assoc _ _ _).symm
  constructor
  · exact converges.publishes
  · exact converges.delivers
  · exact converges.keeps
  · exact converges.agrees
  · exact converges.settled
  · rw [families]
    exact converges.noticed
  · rw [shipped]
    exact converges.pulled
  · exact converges.accepted
  · exact converges.held
  · rw [shipped]
    exact converges.carried

end Converges

end PreviewChannel

/-! ## The client -/

namespace PreviewClient

end PreviewClient

namespace PreviewChannel

/-- The publisher starts when a revision is announced and pulls under the
announced one while no activation is executed.  The client handles an event of
the current generation after it adopted the activation, and keeps what it
accepted of an older one before it clears. -/
def Ordered (channel : PreviewChannel Content) : ChannelAction Content → Prop
  | .publisherReads => channel.announced ≠ none
  | .publisherPolls =>
      channel.activation.isExecuting = false ∧ channel.announced = channel.publisher.stamp
  | .clientHandles => ∀ event ∈ channel.events.head?,
      event.generation = channel.broker.generation → channel.activation.isAdopted = true
  | .clientRetains => ∀ event ∈ channel.accepted,
      event.generation = channel.broker.generation ∨
        channel.clearedGeneration < channel.broker.generation
  | _ => True

section Handle

variable {channel : PreviewChannel Content} {event : PreviewEvent Content}
  {rest : List (PreviewEvent Content)}

/-- The channel after a step of the event thread. -/
def handled (channel : PreviewChannel Content) (rest : List (PreviewEvent Content))
    (accepted : Option (PreviewEvent Content)) (client : PreviewClient Content) :
    PreviewChannel Content :=
  { channel with
    events := rest
    accepted := accepted
    client := client }

/-- A step that leaves nothing behind. -/
theorem Converges.handle (converges : channel.Converges)
    {taken : Option (PreviewEvent Content)} {client : PreviewClient Content}
    (fewer : (channel.handled rest taken client).shipped ⊆ channel.shipped)
    (revision : client.graphRevision = channel.client.graphRevision)
    (accepted : ∀ event ∈ taken, event.generation = channel.broker.generation →
      channel.clearedGeneration = channel.broker.generation)
    (held : channel.clearedGeneration = channel.broker.generation → ∀ key preview,
      client.retained key = some preview → preview ∈ channel.broker.delivered key ∧
        preview.generation = channel.broker.generation)
    (carried : channel.broker.resets = [] → ∀ key, channel.broker.cursorAfter key ≠ 0 →
      (channel.clearedGeneration = channel.broker.generation ∧ ∃ preview,
        client.retained key = some preview ∧
          preview.sequence = channel.broker.cursorAfter key) ∨
      ∃ other ∈ (channel.handled rest taken client).shipped,
        other.generation = channel.broker.generation ∧ ∃ preview,
          other.previews key = some preview ∧
            preview.sequence = channel.broker.cursorAfter key) :
    (channel.handled rest taken client).Converges := by
  constructor
  · exact converges.publishes
  · exact converges.delivers
  · exact converges.keeps
  · have agrees := converges.agrees
    unfold Agrees at agrees ⊢
    rw [handled]
    dsimp only
    rw [revision]
    exact agrees
  · exact converges.settled
  · exact converges.noticed
  · exact fun other member => converges.pulled other (fewer member)
  · exact accepted
  · exact held
  · exact carried

/-- An adopted client holds the announced revision and has cleared. -/
theorem Agrees.of_isAdopted (agrees : channel.Agrees)
    (adopted : channel.activation.isAdopted = true) :
    channel.client.graphRevision = channel.announced ∧
      channel.clearedGeneration = channel.broker.generation := by
  unfold Agrees at agrees
  cases found : channel.activation with
  | idle =>
      rw [found] at agrees
      exact agrees
  | requested graphRevision =>
      rw [found] at agrees
      exact agrees
  | executing graphRevision activated =>
      rw [found] at adopted
      cases adopted
  | answered graphRevision activated =>
      rw [found] at adopted
      cases adopted
  | cleared graphRevision activated =>
      rw [found] at adopted
      cases adopted

/-- The check of the first event in the queue. -/
theorem Converges.check (converges : channel.Converges) (free : channel.accepted = none)
    (first : channel.events = event :: rest)
    (ordered : event.generation = channel.broker.generation →
      channel.activation.isAdopted = true) :
    (channel.handled rest (channel.client.handleAsyncEvent event) channel.client).Converges := by
  have before : channel.shipped = event :: (rest ++ channel.publisher.held) := by
    rw [shipped, free, first]
    rfl
  by_cases different : some event.graphRevision ≠ channel.client.graphRevision
  · have dropped : channel.client.handleAsyncEvent event = none := if_pos different
    have older : event.generation ≠ channel.broker.generation := by
      intro current
      have announced := ((converges.pulled event (before ▸ List.mem_cons_self)).2 current).2.1
      have agrees := converges.agrees.of_isAdopted (ordered current)
      exact different (announced.symm.trans agrees.1.symm)
    rw [dropped]
    refine converges.handle ?_ rfl (fun _ impossible => by cases impossible) converges.held ?_
    · rw [before]
      exact List.subset_cons_self _ _
    · intro settled key moved
      rcases converges.carried settled key moved with kept | ⟨other, member, current, kept⟩
      · exact Or.inl kept
      · rw [before] at member
        rcases List.mem_cons.mp member with own | later
        · rw [own] at current
          exact absurd current older
        · exact Or.inr ⟨other, later, current, kept⟩
  · have accepted : channel.client.handleAsyncEvent event = some event := if_neg different
    have same : (channel.handled rest (some event) channel.client).shipped = channel.shipped :=
      before.symm
    rw [accepted]
    refine converges.handle (same ▸ List.Subset.refl _) rfl ?_ converges.held ?_
    · intro other taken current
      rw [← Option.some.inj taken] at current
      exact (converges.agrees.of_isAdopted (ordered current)).2
    · rw [same]
      exact converges.carried

section Retain

variable (accepted : channel.accepted = some event)
include accepted

end Retain

end Handle

/-! ## Every delivery order -/

section Runs

variable [DecidableEq Content]

instance (channel : PreviewChannel Content) (action : ChannelAction Content) :
    Decidable (Ordered channel action) := by
  cases action <;> unfold Ordered <;> infer_instance

end Runs

/-! ## An event that overtakes its response -/

end PreviewChannel

end Runtime
end Synesthesia
