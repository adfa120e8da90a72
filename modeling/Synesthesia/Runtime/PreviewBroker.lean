import Mathlib
import Synesthesia.Contracts.RuntimeValues
import Synesthesia.Foundation.Runs

namespace Synesthesia
namespace Runtime

open Foundation Contracts

/-!
# The preview broker and its polling client

The graph worker hands the latest tick to a conversion worker, which publishes
a numbered preview for each due port; the client polls behind cursors.  The
broker, the transport and the cursors have a lock each, so an activation takes
three steps: it bumps the generation, clears the transport and resets the
cursors.
-/

/-- The three kinds of previews; only images are kept in the transport. -/
inductive PreviewFamily where
  | image
  | note
  | value
deriving DecidableEq

/-- The port that a preview belongs to, within its family. -/
structure PreviewKey where
  family : PreviewFamily
  ownerId : UUID
  sourcePortId : String
deriving DecidableEq

structure PreviewTarget where
  key : PreviewKey
  intervalS : ℚ

variable {Content : Type*}

/-- What a tick leaves on a target's source, already converted for display. -/
structure Observed (Content : Type*) where
  content : Content
  tickIndex : Nat

/-- A published preview.  As history it carries the generation of the broker
that published it and the one under which its tick was submitted. -/
structure Preview (Content : Type*) where
  sequence : Nat
  tickIndex : Nat
  content : Content
  generation : Nat
  submitted : Nat
deriving DecidableEq

/-- One completed tick, stamped with a generation. -/
structure PreviewJob (Content : Type*) where
  generation : Nat
  result : PreviewKey → Option (Observed Content)

/-- The conversion worker, between taking a job and publishing it. -/
inductive ConversionPhase (Content : Type*) where
  | idle
  | taken (job : PreviewJob Content)
  | converting (generation submitted : Nat) (now : ℚ)
      (publications : List (PreviewTarget × Observed Content))

/-- An activation or a clear on its way from the bump of the generation to the
reset of the cursors. -/
structure PreviewReset where
  generation : Nat
  transportCleared : Bool

/-- The previews of the engine body.  `retained` holds the notes and values of
the broker and the images of the transport, `polling` what a poll that holds
the cursor lock has read, and `dirty` is what the dirty notifier sets.  The
last four fields are history: what was published and delivered of each port,
and the newest generation whose reset has cleared the transport, and has
returned. -/
structure PreviewBroker (Content : Type*) where
  generation : Nat
  targets : List PreviewTarget
  sequences : PreviewKey → Nat
  lastPublished : PreviewKey → Option ℚ
  lastContent : PreviewKey → Option Content
  retained : PreviewKey → Option (Preview Content)
  pending : Option (PreviewJob Content)
  conversion : ConversionPhase Content
  cursors : PreviewKey → Nat
  polling : Option (PreviewKey → Option (Preview Content))
  resets : List PreviewReset
  dirty : Bool
  published : PreviewKey → List (Preview Content)
  delivered : PreviewKey → List (Preview Content)
  cleared : Nat
  returned : Nat

namespace PreviewBroker

def initial : PreviewBroker Content where
  generation := 0
  targets := []
  sequences := fun _ => 0
  lastPublished := fun _ => none
  lastContent := fun _ => none
  retained := fun _ => none
  pending := none
  conversion := .idle
  cursors := fun _ => 0
  polling := none
  resets := []
  dirty := false
  published := fun _ => []
  delivered := fun _ => []
  cleared := 0
  returned := 0

/-! ## Publication -/

/-- A target's interval has passed since its last publication. -/
def isDue (broker : PreviewBroker Content) (now : ℚ) (target : PreviewTarget) : Bool :=
  match broker.lastPublished target.key with
  | none => true
  | some previous => target.intervalS ≤ now - previous + 1 / 1000000000000

/-- What the due targets show. -/
def duePublications (broker : PreviewBroker Content) (job : PreviewJob Content) (now : ℚ) :
    List (PreviewTarget × Observed Content) :=
  (broker.targets.filter (broker.isDue now)).filterMap
    (fun target => (job.result target.key).map (fun observed => (target, observed)))

/-- Compare the job's generation and collect what is to be converted. -/
def collect (broker : PreviewBroker Content) (job : PreviewJob Content) (now : ℚ) :
    PreviewBroker Content :=
  if job.generation = broker.generation then
    let publications := broker.duePublications job now
    { broker with
      conversion := .converting broker.generation job.generation now publications }
  else { broker with conversion := .idle }

section Publish

variable [DecidableEq Content]

/-- Publish one port, unless it is not due any more or shows what it showed. -/
def publishTarget (broker : PreviewBroker Content) (submitted : Nat) (now : ℚ)
    (target : PreviewTarget) (observed : Observed Content) : PreviewBroker Content :=
  let key := target.key
  if broker.isDue now target = false then broker
  else if key.family ≠ .image ∧ broker.lastContent key = some observed.content then broker
  else
    let preview : Preview Content := ⟨broker.sequences key + 1, observed.tickIndex,
      observed.content, broker.generation, submitted⟩
    { broker with
      retained := Function.update broker.retained key (some preview)
      sequences := Function.update broker.sequences key preview.sequence
      lastPublished := Function.update broker.lastPublished key (some now)
      lastContent := Function.update broker.lastContent key (some observed.content)
      dirty := true
      published := Function.update broker.published key (broker.published key ++ [preview]) }

def publishAll (broker : PreviewBroker Content) (submitted : Nat) (now : ℚ) :
    List (PreviewTarget × Observed Content) → PreviewBroker Content
  | [] => broker
  | (target, observed) :: rest =>
      (broker.publishTarget submitted now target observed).publishAll submitted now rest

/-- Publish what was converted, if the generation has not moved on meanwhile. -/
def publish (broker : PreviewBroker Content) (generation submitted : Nat) (now : ℚ)
    (publications : List (PreviewTarget × Observed Content)) : PreviewBroker Content :=
  if generation = broker.generation then
    { broker.publishAll submitted now publications with conversion := .idle }
  else { broker with conversion := .idle }

end Publish

/-! ## Activations, clears and polls -/

/-- Install targets under a new generation and forget everything in the broker. -/
def bump (broker : PreviewBroker Content) (targets : List PreviewTarget) :
    PreviewBroker Content :=
  { broker with
    generation := broker.generation + 1
    targets := targets
    sequences := fun _ => 0
    lastPublished := fun _ => none
    lastContent := fun _ => none
    retained := fun key => if key.family = .image then broker.retained key else none
    resets := broker.resets ++ [⟨broker.generation + 1, false⟩] }

/-- The reset at this place empties the transport. -/
def clearTransport (broker : PreviewBroker Content) (place : Nat) (reset : PreviewReset) :
    PreviewBroker Content :=
  { broker with
    retained := fun key => if key.family = .image then none else broker.retained key
    cleared := max broker.cleared reset.generation
    resets := broker.resets.set place ⟨reset.generation, true⟩ }

/-- The reset at this place resets the cursors and returns. -/
def resetCursors (broker : PreviewBroker Content) (place : Nat) (reset : PreviewReset) :
    PreviewBroker Content :=
  { broker with
    cursors := fun _ => 0
    returned := max broker.returned reset.generation
    resets := broker.resets.eraseIdx place }

/-- What lies beyond the cursors, of one family. -/
def news (broker : PreviewBroker Content) (family : PreviewFamily) (key : PreviewKey) :
    Option (Preview Content) :=
  if key.family = family then
    (broker.retained key).filter (fun preview => broker.cursors key < preview.sequence)
  else none

/-- A poll takes the cursor lock and reads the news. -/
def pollReads (broker : PreviewBroker Content) (family : PreviewFamily) :
    PreviewBroker Content :=
  { broker with
    polling := some (broker.news family)
    delivered := fun key => broker.delivered key ++ (broker.news family key).toList }

/-- The poll moves its cursors and releases the lock. -/
def pollStores (broker : PreviewBroker Content)
    (batch : PreviewKey → Option (Preview Content)) : PreviewBroker Content :=
  { broker with
    polling := none
    cursors := fun key => ((batch key).map Preview.sequence).getD (broker.cursors key) }

end PreviewBroker

inductive PreviewAction (Content : Type*) where
  /-- A tick is submitted; its stamp was read from the broker, maybe earlier. -/
  | submit (generation : Nat) (result : PreviewKey → Option (Observed Content))
  | workerTakes
  | workerCollects (now : ℚ)
  /-- A conversion raises. -/
  | conversionRaises
  | workerPublishes
  /-- An activation with its targets, or a clear without any. -/
  | bump (targets : List PreviewTarget)
  /-- The reset at this place clears the transport, then resets the cursors. -/
  | resetAdvances (place : Nat)
  | pollReads (family : PreviewFamily)
  | pollStores

namespace PreviewBroker

variable [DecidableEq Content]

/-- One step of a thread. -/
def step (broker : PreviewBroker Content) :
    PreviewAction Content → Option (PreviewBroker Content)
  | .submit generation result =>
      if generation ≤ broker.generation then
        some { broker with pending := some ⟨generation, result⟩ }
      else none
  | .workerTakes =>
      match broker.conversion, broker.pending with
      | .idle, some job => some { broker with pending := none, conversion := .taken job }
      | _, _ => none
  | .workerCollects now =>
      match broker.conversion with
      | .taken job => some (broker.collect job now)
      | _ => none
  | .conversionRaises =>
      match broker.conversion with
      | .converting _ _ _ _ => some { broker with conversion := .idle }
      | _ => none
  | .workerPublishes =>
      match broker.conversion with
      | .converting generation submitted now publications =>
          some (broker.publish generation submitted now publications)
      | _ => none
  | .bump targets => some (broker.bump targets)
  | .resetAdvances place =>
      match broker.resets[place]? with
      | none => none
      | some reset =>
          if reset.transportCleared then
            if broker.polling.isSome then none else some (broker.resetCursors place reset)
          else some (broker.clearTransport place reset)
  | .pollReads family => if broker.polling.isSome then none else some (broker.pollReads family)
  | .pollStores =>
      match broker.polling with
      | none => none
      | some batch => some (broker.pollStores batch)

/-- What each action does, where it is possible. -/
inductive Takes (broker : PreviewBroker Content) :
    PreviewAction Content → PreviewBroker Content → Prop
  | submit {generation : Nat} (result : PreviewKey → Option (Observed Content))
      (known : generation ≤ broker.generation) :
      Takes broker (.submit generation result) { broker with pending := some ⟨generation, result⟩ }
  | workerTakes {job : PreviewJob Content} (idle : broker.conversion = .idle)
      (waits : broker.pending = some job) :
      Takes broker .workerTakes { broker with pending := none, conversion := .taken job }
  | workerCollects {job : PreviewJob Content} (now : ℚ) (taken : broker.conversion = .taken job) :
      Takes broker (.workerCollects now) (broker.collect job now)
  | conversionRaises {generation submitted : Nat} {now : ℚ}
      {publications : List (PreviewTarget × Observed Content)}
      (converting : broker.conversion = .converting generation submitted now publications) :
      Takes broker .conversionRaises { broker with conversion := .idle }
  | workerPublishes {generation submitted : Nat} {now : ℚ}
      {publications : List (PreviewTarget × Observed Content)}
      (converting : broker.conversion = .converting generation submitted now publications) :
      Takes broker .workerPublishes (broker.publish generation submitted now publications)
  | bump (targets : List PreviewTarget) : Takes broker (.bump targets) (broker.bump targets)
  | clearTransport {place : Nat} {reset : PreviewReset}
      (stands : broker.resets[place]? = some reset) (first : reset.transportCleared = false) :
      Takes broker (.resetAdvances place) (broker.clearTransport place reset)
  | resetCursors {place : Nat} {reset : PreviewReset}
      (stands : broker.resets[place]? = some reset) (cleared : reset.transportCleared = true)
      (free : broker.polling = none) :
      Takes broker (.resetAdvances place) (broker.resetCursors place reset)
  | pollReads (family : PreviewFamily) (free : broker.polling = none) :
      Takes broker (.pollReads family) (broker.pollReads family)
  | pollStores {batch : PreviewKey → Option (Preview Content)}
      (held : broker.polling = some batch) :
      Takes broker .pollStores (broker.pollStores batch)

theorem step_cases {broker next : PreviewBroker Content} {action : PreviewAction Content}
    (taken : broker.step action = some next) : broker.Takes action next := by
  rw [step.eq_def] at taken
  cases action with
  | submit generation result =>
      rw [Option.ite_none_right_eq_some, Option.some.injEq] at taken
      exact taken.2 ▸ .submit result taken.1
  | workerTakes =>
      dsimp only at taken
      split at taken
      next job idle waits =>
        cases taken
        exact .workerTakes idle waits
      · cases taken
  | workerCollects now =>
      dsimp only at taken
      split at taken
      next job collecting =>
        cases taken
        exact .workerCollects now collecting
      · cases taken
  | conversionRaises =>
      dsimp only at taken
      split at taken
      next converting =>
        cases taken
        exact .conversionRaises converting
      · cases taken
  | workerPublishes =>
      dsimp only at taken
      split at taken
      next converting =>
        cases taken
        exact .workerPublishes converting
      · cases taken
  | bump targets =>
      cases taken
      exact .bump targets
  | resetAdvances place =>
      dsimp only at taken
      split at taken
      · cases taken
      next reset stands =>
        split_ifs at taken with cleared held
        · cases taken
          exact .resetCursors stands cleared (Option.not_isSome_iff_eq_none.mp held)
        · cases taken
          exact .clearTransport stands (Bool.not_eq_true _ ▸ cleared)
  | pollReads family =>
      rw [Option.ite_none_left_eq_some, Option.some.injEq] at taken
      exact taken.2 ▸ .pollReads family (Option.not_isSome_iff_eq_none.mp taken.1)
  | pollStores =>
      dsimp only at taken
      split at taken
      · cases taken
      next batch held =>
        cases taken
        exact .pollStores held

end PreviewBroker

end Runtime
end Synesthesia
