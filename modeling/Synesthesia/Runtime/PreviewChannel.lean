import Mathlib
import Synesthesia.Runtime.PreviewDelivery

namespace Synesthesia
namespace Runtime

open Foundation Contracts

/-!
# Note and value previews between the processes

The child's publisher pulls what lies beyond the body's cursors and puts it
into the event queue, stamped with the revision that it read beforehand.  The
client compares the stamp with the revision that it learns from the response to
an activation, and that response travels through the pipe.  The revision is
compared outside the lock under which the previews are kept.
-/

variable {Content : Type*}

/-- The note or value previews of one pull.  As history it carries the
generation that they were pulled from. -/
structure PreviewEvent (Content : Type*) where
  graphRevision : Nat
  previews : PreviewKey → Option (Preview Content)
  generation : Nat

/-- The publisher, between reading the revision and its last put. -/
inductive PublisherPhase (Content : Type*) where
  | idle
  | stamped (graphRevision : Nat) (families : List PreviewFamily)
  | shipping (event : PreviewEvent Content) (families : List PreviewFamily)

/-- The activation that the client waits for: its command in the pipe, the
child that executes it, its response in the pipe, and the client that has
cleared its previews but not adopted the revision. -/
inductive ActivationPhase where
  | idle
  | requested (graphRevision : Nat)
  | executing (graphRevision : Nat) (activated : Bool)
  | answered (graphRevision : Nat) (activated : Bool)
  | cleared (graphRevision : Nat) (activated : Bool)
deriving DecidableEq

/-- What the client holds: `_note_previews` and `_value_previews`, and the
revision of the last activation that it knows to be accepted. -/
structure PreviewClient (Content : Type*) where
  retained : PreviewKey → Option (Preview Content)
  graphRevision : Option Nat

/-- Both processes and what is under way between them.  `announced` is the
revision that the publisher stamps, `accepted` the event between its check and
the lock, and `clearedGeneration` is history: the generation that the client
cleared its previews for. -/
structure PreviewChannel (Content : Type*) where
  broker : PreviewBroker Content
  announced : Option Nat
  publisher : PublisherPhase Content
  events : List (PreviewEvent Content)
  accepted : Option (PreviewEvent Content)
  activation : ActivationPhase
  client : PreviewClient Content
  clearedGeneration : Nat

inductive ChannelAction (Content : Type*) where
  /-- The graph worker or the conversion worker takes a step. -/
  | engineWorks (action : PreviewAction Content)
  | clientRequests (graphRevision : Nat)
  /-- The graph carries targets, or it is rejected and the engine stops. -/
  | activationBumps (targets : Option (List PreviewTarget))
  /-- The activation raises before it touches the previews. -/
  | activationRaises
  | activationResets
  | activationAnswers
  | clientClears
  | clientAdopts
  | publisherReads
  | publisherPolls
  | publisherStores
  | publisherPuts
  | clientHandles
  | clientRetains

/-- The steps of the workers. -/
def PreviewAction.works : PreviewAction Content → Bool
  | .submit _ _ => true
  | .workerTakes => true
  | .workerCollects _ => true
  | .conversionRaises => true
  | .workerPublishes => true
  | .bump _ => false
  | .resetAdvances _ => false
  | .pollReads _ => false
  | .pollStores => false

/-- The latest preview that the broker published of a port in its generation. -/
def PreviewBroker.latestPublished (broker : PreviewBroker Content) (key : PreviewKey) :
    Option (Preview Content) :=
  ((broker.published key).filter
    (fun preview => preview.generation = broker.generation)).getLast?

namespace PreviewClient

/-- Keep a preview where none is held or the held one has a lower sequence. -/
def retain (held new : Option (Preview Content)) : Option (Preview Content) :=
  match held, new with
  | held, none => held
  | none, some preview => some preview
  | some previous, some preview =>
      if previous.sequence < preview.sequence then some preview else some previous

/-- `_handle_async_event` for notes and values, up to the preview lock. -/
def handleAsyncEvent (client : PreviewClient Content) (event : PreviewEvent Content) :
    Option (PreviewEvent Content) :=
  if some event.graphRevision ≠ client.graphRevision then none else some event

/-- What it does under the lock. -/
def retainAll (client : PreviewClient Content) (event : PreviewEvent Content) :
    PreviewClient Content :=
  { client with retained := fun key => retain (client.retained key) (event.previews key) }

end PreviewClient

namespace PreviewChannel

def initial : PreviewChannel Content where
  broker := .initial
  announced := none
  publisher := .idle
  events := []
  accepted := none
  activation := .idle
  client := ⟨fun _ => none, none⟩
  clearedGeneration := 0

/-! ## The publisher -/

/-- Clear the wake event and read the revision; without one there is nothing to
publish. -/
def publisherReads (channel : PreviewChannel Content) : PreviewChannel Content :=
  { channel with
    broker := { channel.broker with dirty := false }
    publisher :=
      match channel.announced with
      | none => .idle
      | some graphRevision => .stamped graphRevision [.note, .value] }

/-- Pull a family into an event, behind the cursors of the body. -/
def publisherPolls (channel : PreviewChannel Content) (graphRevision : Nat)
    (family : PreviewFamily) (rest : List PreviewFamily) : PreviewChannel Content :=
  { channel with
    broker := channel.broker.pollReads family
    publisher := .shipping
      ⟨graphRevision, channel.broker.news family, channel.broker.generation⟩ rest }

/-- Put the event; one without previews changes nothing for the client. -/
def publisherPuts (channel : PreviewChannel Content) (event : PreviewEvent Content)
    (rest : List PreviewFamily) : PreviewChannel Content :=
  { channel with
    events := channel.events ++ [event]
    publisher := if rest = [] then .idle else .stamped event.graphRevision rest }

/-! ## Activations -/

/-- The body takes over new targets, or clears its previews as it stops. -/
def activationBumps (channel : PreviewChannel Content) (graphRevision : Nat)
    (targets : Option (List PreviewTarget)) : PreviewChannel Content :=
  { channel with
    broker := channel.broker.bump (targets.getD [])
    activation := .executing graphRevision targets.isSome }

/-- Tell the publisher about an accepted revision, and answer. -/
def activationAnswers (channel : PreviewChannel Content) (graphRevision : Nat)
    (activated : Bool) : PreviewChannel Content :=
  { channel with
    announced := if activated then some graphRevision else channel.announced
    activation := .answered graphRevision activated }

/-- Whatever the outcome, the client forgets what it retained. -/
def clientClears (channel : PreviewChannel Content) (graphRevision : Nat)
    (activated : Bool) : PreviewChannel Content :=
  { channel with
    client := { channel.client with retained := fun _ => none }
    activation := .cleared graphRevision activated
    clearedGeneration := channel.broker.generation }

def clientAdopts (channel : PreviewChannel Content) (graphRevision : Nat)
    (activated : Bool) : PreviewChannel Content :=
  { channel with
    client :=
      { channel.client with
        graphRevision := if activated then some graphRevision else channel.client.graphRevision }
    activation := .idle }

section Step

variable [DecidableEq Content]

/-- One step of a thread of either process. -/
def step (channel : PreviewChannel Content) :
    ChannelAction Content → Option (PreviewChannel Content)
  | .engineWorks action =>
      if action.works then
        (channel.broker.step action).map (fun broker => { channel with broker := broker })
      else none
  | .clientRequests graphRevision =>
      if channel.activation = .idle then
        some { channel with activation := .requested graphRevision }
      else none
  | .activationBumps targets =>
      match channel.activation with
      | .requested graphRevision => some (channel.activationBumps graphRevision targets)
      | _ => none
  | .activationRaises =>
      match channel.activation with
      | .requested _ => some { channel with activation := .idle }
      | _ => none
  | .activationResets =>
      match channel.activation with
      | .executing _ _ =>
          (channel.broker.step (.resetAdvances 0)).map
            (fun broker => { channel with broker := broker })
      | _ => none
  | .activationAnswers =>
      match channel.activation with
      | .executing graphRevision activated =>
          if channel.broker.resets = [] then
            some (channel.activationAnswers graphRevision activated)
          else none
      | _ => none
  | .clientClears =>
      match channel.activation with
      | .answered graphRevision activated => some (channel.clientClears graphRevision activated)
      | _ => none
  | .clientAdopts =>
      match channel.activation with
      | .cleared graphRevision activated => some (channel.clientAdopts graphRevision activated)
      | _ => none
  | .publisherReads =>
      match channel.publisher with
      | .idle => some channel.publisherReads
      | _ => none
  | .publisherPolls =>
      match channel.publisher with
      | .stamped graphRevision (family :: rest) =>
          if channel.broker.polling.isSome then none
          else some (channel.publisherPolls graphRevision family rest)
      | _ => none
  | .publisherStores =>
      match channel.publisher, channel.broker.polling with
      | .shipping _ _, some batch =>
          some { channel with broker := channel.broker.pollStores batch }
      | _, _ => none
  | .publisherPuts =>
      match channel.publisher with
      | .shipping event rest =>
          if channel.broker.polling.isSome then none else some (channel.publisherPuts event rest)
      | _ => none
  | .clientHandles =>
      match channel.accepted, channel.events with
      | none, event :: rest =>
          some { channel with
            events := rest
            accepted := channel.client.handleAsyncEvent event }
      | _, _ => none
  | .clientRetains =>
      channel.accepted.map fun event =>
        { channel with
          accepted := none
          client := channel.client.retainAll event }

end Step

/-- Nothing is under way and nobody has anything to do. -/
structure Quiescent (channel : PreviewChannel Content) : Prop where
  unnotified : channel.broker.dirty = false
  published : channel.publisher = .idle
  handled : channel.events = []
  retained : channel.accepted = none
  adopted : channel.activation = .idle

end PreviewChannel

end Runtime
end Synesthesia
