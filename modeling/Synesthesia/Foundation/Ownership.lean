import Mathlib

namespace Synesthesia
namespace Foundation

/-!
# Owned resources

Objects that are created, used and closed are known by a reference, and
several parts of a program may hold the same reference.  A ledger keeps the
objects and the events of their lives in order.  Its law is linear: a part
that owns a resource closes it, once, and nothing happens to a closed resource.

`Owns` states that law for the list of all owned references at one moment.
Every operation has one lemma, which says how the list changes.
-/

variable {Value Use : Type*}

inductive LedgerEvent (Use : Type*) where
  | created (resource : Nat)
  | used (resource : Nat) (use : Use)
  | closed (resource : Nat)
deriving DecidableEq

def LedgerEvent.resource : LedgerEvent Use → Nat
  | created resource => resource
  | used resource _ => resource
  | closed resource => resource

/-- The objects by reference, and what has happened to them. -/
structure Ledger (Value Use : Type*) where
  values : List Value
  events : List (LedgerEvent Use)

namespace Ledger

def empty : Ledger Value Use := ⟨[], []⟩

def read (ledger : Ledger Value Use) (resource : Nat) : Option Value := ledger.values[resource]?

/-- Replace the object behind a reference. -/
def write (ledger : Ledger Value Use) (resource : Nat) (value : Value) : Ledger Value Use :=
  { ledger with values := ledger.values.set resource value }

/-- A new object under a reference that was never used. -/
def allocate (ledger : Ledger Value Use) (value : Value) : Ledger Value Use × Nat :=
  (⟨ledger.values ++ [value], ledger.events ++ [.created ledger.values.length]⟩,
    ledger.values.length)

/-- Change the object behind a reference. -/
def modify (ledger : Ledger Value Use) (resource : Nat) (change : Value → Value) :
    Ledger Value Use :=
  { ledger with values := ledger.values.modify resource change }

def use (ledger : Ledger Value Use) (kind : Use) (change : Value → Value) (resource : Nat) :
    Ledger Value Use :=
  { ledger.modify resource change with events := ledger.events ++ [.used resource kind] }

/-- Record uses of resources whose objects are already changed. -/
def recordUses (ledger : Ledger Value Use) (kind : Use) (resources : List Nat) :
    Ledger Value Use :=
  { ledger with events := ledger.events ++ resources.map (fun resource => .used resource kind) }

def close (ledger : Ledger Value Use) (change : Value → Value) (resource : Nat) :
    Ledger Value Use :=
  { ledger.modify resource change with events := ledger.events ++ [.closed resource] }

/-! ## Reading -/

@[simp] theorem read_use_self (ledger : Ledger Value Use) (kind : Use) (change : Value → Value)
    (resource : Nat) :
    (ledger.use kind change resource).read resource = (ledger.read resource).map change := by
  simp [read, use, modify]

theorem read_use_of_ne {ledger : Ledger Value Use} {kind : Use} {change : Value → Value}
    {resource other : Nat} (different : other ≠ resource) :
    (ledger.use kind change resource).read other = ledger.read other := by
  simp [read, use, modify, Ne.symm different]

theorem read_close_of_ne {ledger : Ledger Value Use} {change : Value → Value}
    {resource other : Nat} (different : other ≠ resource) :
    (ledger.close change resource).read other = ledger.read other := by
  simp [read, close, modify, Ne.symm different]

theorem read_lt {ledger : Ledger Value Use} {resource : Nat} {value : Value}
    (found : ledger.read resource = some value) : resource < ledger.values.length :=
  (List.getElem?_eq_some_iff.mp found).1

@[simp] theorem read_allocate_self (ledger : Ledger Value Use) (value : Value) :
    (ledger.allocate value).1.read (ledger.allocate value).2 = some value := by
  simp [read, allocate]

theorem read_allocate {ledger : Ledger Value Use} {resource : Nat} {old : Value} (value : Value)
    (found : ledger.read resource = some old) :
    (ledger.allocate value).1.read resource = some old := by
  have within := read_lt found
  rw [read, allocate, List.getElem?_append_left within]
  exact found

/-- The resource was created and is not closed. -/
def IsOpen (ledger : Ledger Value Use) (resource : Nat) : Prop :=
  .created resource ∈ ledger.events ∧ .closed resource ∉ ledger.events

/-- Nothing happens to a resource that was closed, a second closing included. -/
def Disciplined (ledger : Ledger Value Use) : Prop :=
  ledger.events.Pairwise (fun earlier later => earlier ≠ .closed later.resource)

/-- The open resources are those of the list, each owned once. -/
structure Owns (ledger : Ledger Value Use) (owned : List Nat) : Prop where
  distinct : owned.Nodup
  exactly : ∀ resource, resource ∈ owned ↔ ledger.IsOpen resource
  disciplined : ledger.Disciplined
  counted : ∀ event ∈ ledger.events, event.resource < ledger.values.length

/-! ## Events are never forgotten -/

/-- One ledger continues another. -/
def Extends (later earlier : Ledger Value Use) : Prop := earlier.events <+: later.events

theorem Extends.refl (ledger : Ledger Value Use) : ledger.Extends ledger := List.prefix_rfl

theorem Extends.trans {first second third : Ledger Value Use} (onward : third.Extends second)
    (before : second.Extends first) : third.Extends first :=
  List.IsPrefix.trans before onward

theorem Extends.mem {later earlier : Ledger Value Use} (extended : later.Extends earlier)
    {event : LedgerEvent Use} (member : event ∈ earlier.events) : event ∈ later.events :=
  extended.subset member

theorem foldl_extends {Item : Type*} {change : Ledger Value Use → Item → Ledger Value Use}
    (each : ∀ ledger item, (change ledger item).Extends ledger) (items : List Item)
    (ledger : Ledger Value Use) : (items.foldl change ledger).Extends ledger := by
  induction items generalizing ledger with
  | nil => exact Extends.refl ledger
  | cons item rest ih =>
      exact (ih (change ledger item)).trans (each ledger item)

/-- One ledger continues another, and everything that it adds has a property. -/
def Adds (property : LedgerEvent Use → Prop) (earlier later : Ledger Value Use) : Prop :=
  ∃ added, later.events = earlier.events ++ added ∧ ∀ event ∈ added, property event

namespace Adds

variable {property other : LedgerEvent Use → Prop} {first second third : Ledger Value Use}

theorem refl (ledger : Ledger Value Use) : ledger.Adds property ledger :=
  ⟨[], (List.append_nil _).symm, fun _ impossible => absurd impossible List.not_mem_nil⟩

theorem single {event : LedgerEvent Use} (events : second.events = first.events ++ [event])
    (holds : property event) : first.Adds property second := by
  refine ⟨[event], events, ?_⟩
  intro added member
  rw [List.mem_singleton.mp member]
  exact holds

theorem trans (before : first.Adds property second) (after : second.Adds property third) :
    first.Adds property third := by
  rcases before with ⟨early, earlyEvents, earlyHold⟩
  rcases after with ⟨late, lateEvents, lateHold⟩
  refine ⟨early ++ late, by rw [lateEvents, earlyEvents, List.append_assoc], ?_⟩
  intro event member
  rcases List.mem_append.mp member with isEarly | isLate
  · exact earlyHold event isEarly
  · exact lateHold event isLate

theorem mono (adds : first.Adds property second) (weaker : ∀ event, property event → other event) :
    first.Adds other second := by
  rcases adds with ⟨added, events, hold⟩
  exact ⟨added, events, fun event member => weaker event (hold event member)⟩

theorem foldl {Item : Type*} {change : Ledger Value Use → Item → Ledger Value Use}
    {items : List Item} (each : ∀ item ∈ items, ∀ ledger, Adds property ledger (change ledger item))
    (ledger : Ledger Value Use) : ledger.Adds property (items.foldl change ledger) := by
  induction items generalizing ledger with
  | nil => exact refl ledger
  | cons item rest ih =>
      exact (each item List.mem_cons_self ledger).trans
        (ih (fun other member => each other (List.mem_cons_of_mem _ member))
          (change ledger item))

end Adds

/-! ## The operations and the law -/

theorem owns_empty : (empty : Ledger Value Use).Owns [] :=
  ⟨List.nodup_nil, fun resource => by simp [IsOpen, empty], List.Pairwise.nil, by simp [empty]⟩

namespace Owns

variable {ledger other : Ledger Value Use} {owned : List Nat}

/-- The order of the owners does not matter. -/
theorem perm {rearranged : List Nat} (owns : ledger.Owns owned) (same : owned.Perm rearranged) :
    ledger.Owns rearranged :=
  ⟨same.nodup_iff.mp owns.distinct,
    fun resource => same.mem_iff.symm.trans (owns.exactly resource), owns.disciplined,
    owns.counted⟩

/-- Only the events and the number of the objects matter. -/
theorem congr (owns : ledger.Owns owned) (events : other.events = ledger.events)
    (count : other.values.length = ledger.values.length) : other.Owns owned := by
  refine ⟨owns.distinct, ?_, ?_, ?_⟩
  · intro resource
    rw [owns.exactly resource, IsOpen, IsOpen, events]
  · rw [Disciplined, events]
    exact owns.disciplined
  · rw [events, count]
    exact owns.counted

variable {resource : Nat}

theorem closed_of_mem (owns : ledger.Owns owned) (member : resource ∈ owned) :
    .closed resource ∉ ledger.events :=
  ((owns.exactly resource).mp member).2

/-- Two ledgers with the same owners have the same resources open. -/
theorem isOpen_iff (first : ledger.Owns owned) (second : other.Owns owned) (resource : Nat) :
    other.IsOpen resource ↔ ledger.IsOpen resource :=
  (second.exactly resource).symm.trans (first.exactly resource)

theorem lt_of_mem (owns : ledger.Owns owned) (member : resource ∈ owned) :
    resource < ledger.values.length :=
  owns.counted _ ((owns.exactly resource).mp member).1

theorem disciplined_append {event : LedgerEvent Use} (disciplined : ledger.Disciplined)
    (stillOpen : .closed event.resource ∉ ledger.events) :
    (ledger.events ++ [event]).Pairwise (fun earlier later => earlier ≠ .closed later.resource) :=
      by
  refine List.pairwise_append.mpr ⟨disciplined, List.pairwise_singleton _ _, ?_⟩
  intro earlier member later isLast
  rw [List.mem_singleton.mp isLast]
  intro same
  exact stillOpen (same ▸ member)

theorem recordUses {kind : Use} {resources : List Nat} (owns : ledger.Owns owned)
    (each : ∀ resource ∈ resources, resource ∈ owned) :
    (ledger.recordUses kind resources).Owns owned := by
  refine ⟨owns.distinct, ?_, ?_, ?_⟩
  · intro resource
    rw [owns.exactly resource]
    simp [IsOpen, Ledger.recordUses]
  · refine List.pairwise_append.mpr ⟨owns.disciplined, ?_, ?_⟩
    · rw [List.pairwise_map]
      exact List.pairwise_of_forall (fun _ _ same => by cases same)
    · intro earlier member later isUse
      rcases List.mem_map.mp isUse with ⟨resource, used, rfl⟩
      intro same
      exact owns.closed_of_mem (each resource used) (same ▸ member)
  · intro event member
    rcases List.mem_append.mp member with before | isUse
    · exact owns.counted event before
    · rcases List.mem_map.mp isUse with ⟨resource, used, rfl⟩
      exact owns.lt_of_mem (each resource used)

theorem use {kind : Use} {change : Value → Value} (owns : ledger.Owns owned)
    (member : resource ∈ owned) : (ledger.use kind change resource).Owns owned := by
  have each : ∀ used ∈ [resource], used ∈ owned := by
    intro used isResource
    rw [List.mem_singleton.mp isResource]
    exact member
  exact (owns.recordUses each).congr rfl (List.length_modify _ _ _)

/-- Operations that keep the owners, one after another. -/
theorem foldl {Item : Type*} {change : Ledger Value Use → Item → Ledger Value Use}
    {items : List Item} (each : ∀ item ∈ items, ∀ ledger : Ledger Value Use, ledger.Owns owned →
      (change ledger item).Owns owned) (owns : ledger.Owns owned) :
    (items.foldl change ledger).Owns owned := by
  induction items generalizing ledger with
  | nil => exact owns
  | cons item rest ih =>
      exact ih (fun other member => each other (List.mem_cons_of_mem _ member))
        (each item List.mem_cons_self ledger owns)

theorem exists_read (owns : ledger.Owns owned) (member : resource ∈ owned) :
    ∃ value, ledger.read resource = some value :=
  ⟨_, List.getElem?_eq_getElem (owns.lt_of_mem member)⟩

/-- A closed resource leaves the list. -/
theorem close {change : Value → Value} {rest : List Nat}
    (owns : ledger.Owns (resource :: rest)) : (ledger.close change resource).Owns rest := by
  have stillOpen := owns.closed_of_mem List.mem_cons_self
  rcases List.nodup_cons.mp owns.distinct with ⟨absent, distinct⟩
  refine ⟨distinct, ?_, disciplined_append owns.disciplined stillOpen, ?_⟩
  · intro other
    have before := owns.exactly other
    rw [List.mem_cons, IsOpen] at before
    simp only [IsOpen, Ledger.close, List.mem_append, List.mem_singleton, reduceCtorEq, or_false,
      LedgerEvent.closed.injEq, not_or]
    constructor
    · intro member
      rcases before.mp (Or.inr member) with ⟨created, notClosed⟩
      exact ⟨created, notClosed, fun same => absent (same ▸ member)⟩
    · rintro ⟨created, notClosed, different⟩
      exact (before.mpr ⟨created, notClosed⟩).resolve_left different
  · intro event member
    rw [Ledger.close, Ledger.modify, List.length_modify]
    rcases List.mem_append.mp member with earlier | isClosing
    · exact owns.counted event earlier
    · rw [List.mem_singleton.mp isClosing]
      exact owns.lt_of_mem List.mem_cons_self

/-- A new object has a new owner. -/
theorem allocate (owns : ledger.Owns owned) (value : Value) :
    (ledger.allocate value).1.Owns ((ledger.allocate value).2 :: owned) := by
  have unused : ∀ event ∈ ledger.events, event.resource ≠ ledger.values.length :=
    fun event member => ne_of_lt (owns.counted event member)
  have fresh : ledger.values.length ∉ owned := fun member =>
    unused _ ((owns.exactly _).mp member).1 rfl
  have neverClosed : .closed ledger.values.length ∉ ledger.events := fun member =>
    unused _ member rfl
  refine ⟨List.nodup_cons.mpr ⟨fresh, owns.distinct⟩, ?_,
    disciplined_append owns.disciplined neverClosed, ?_⟩
  · intro resource
    rw [List.mem_cons, owns.exactly resource]
    simp only [IsOpen, Ledger.allocate, List.mem_append, List.mem_singleton, reduceCtorEq,
      or_false, LedgerEvent.created.injEq]
    constructor
    · rintro (same | ⟨created, notClosed⟩)
      · exact ⟨Or.inr same, same ▸ neverClosed⟩
      · exact ⟨Or.inl created, notClosed⟩
    · rintro ⟨created | same, notClosed⟩
      · exact Or.inr ⟨created, notClosed⟩
      · exact Or.inl same
  · intro event member
    rw [Ledger.allocate, List.length_append, List.length_singleton]
    rcases List.mem_append.mp member with earlier | isCreation
    · exact Nat.lt_succ_of_lt (owns.counted event earlier)
    · rw [List.mem_singleton.mp isCreation]
      exact Nat.lt_succ_self _

/-- Closing resources one after another, whatever else happens to each before. -/
theorem closeAll {dispose : Ledger Value Use → Nat → Ledger Value Use} {closing rest : List Nat}
    (each : ∀ (ledger : Ledger Value Use) (resource : Nat) (others : List Nat),
      ledger.Owns (resource :: others) → (dispose ledger resource).Owns others)
    (owns : ledger.Owns (closing ++ rest)) : (closing.foldl dispose ledger).Owns rest := by
  induction closing generalizing ledger with
  | nil => exact owns
  | cons resource closing ih =>
      exact ih (each ledger resource (closing ++ rest) owns)

/-- An owned resource that nobody owns any more was closed. -/
theorem closed_of_disowned {later : Ledger Value Use} {remaining : List Nat}
    (owns : ledger.Owns owned) (member : resource ∈ owned) (afterwards : later.Owns remaining)
    (absent : resource ∉ remaining) (extended : later.Extends ledger) :
    .closed resource ∈ later.events := by
  by_contra notClosed
  have created := extended.mem ((owns.exactly resource).mp member).1
  exact absent ((afterwards.exactly resource).mpr ⟨created, notClosed⟩)

end Owns

end Ledger
end Foundation
end Synesthesia
