import Synesthesia.Foundation.Exceptions
import Synesthesia.Foundation.UnionFind
import Synesthesia.Nodes.ExecutionContract

namespace Synesthesia
namespace Graph

open Foundation Contracts Nodes

/-!
# Groups of type variables

`_TypeGroups` of `graph/compiler.py`: a union-find over the type variables of
the nodes whose roots carry the types that connections attach to a group, the
types that its variables admit and their defaults.  A set of types is a finite
set here; a group without an entry admits every type.
-/

/-- A type variable belongs to a node; roots are chosen in the order of these
pairs. -/
abbrev VariableKey := UUID ×ₗ String

def variableKey (nodeId : UUID) (name : String) : VariableKey := toLex (nodeId, name)

def allPortTypes : List PortType :=
  [.image, .channel, .float, .int, .bool, .color, .matrix, .midiState, .string, .scalarArray,
    .imageArray, .channelArray]

/-- The only member of a set with one member. -/
def onlyMember (types : Finset PortType) : Option PortType :=
  allPortTypes.find? (fun portType => decide (types = {portType}))

/-- The types whose mixture is a float. -/
def numericTypes : Finset PortType := {.int, .float}

structure TypeGroups where
  parent : Dict VariableKey VariableKey
  candidates : Dict VariableKey (Finset PortType)
  allowed : Dict VariableKey (Finset PortType)
  defaults : Dict VariableKey (Finset PortType)

namespace TypeGroups

def empty : TypeGroups := ⟨Dict.empty, Dict.empty, Dict.empty, Dict.empty⟩

/-- The set stored for a key of a dictionary of sets. -/
def setAt (sets : Dict VariableKey (Finset PortType)) (key : VariableKey) : Finset PortType :=
  (sets.get? key).getD ∅

/-- `add`. -/
def add (groups : TypeGroups) (key : VariableKey) (allowedTypes : Finset PortType)
    (defaultType : Option PortType) : TypeGroups where
  parent := if key ∈ groups.parent.keys then groups.parent else groups.parent.insert key key
  candidates := groups.candidates
  allowed :=
    if allowedTypes = ∅ then groups.allowed
    else
      match groups.allowed.get? key with
      | none => groups.allowed.insert key allowedTypes
      | some current => groups.allowed.insert key (current ∩ allowedTypes)
  defaults :=
    match defaultType with
    | none => groups.defaults
    | some portType =>
        groups.defaults.insert key (insert portType (setAt groups.defaults key))

/-- `find`, with the groups after the compression of the path. -/
def find (groups : TypeGroups) (key : VariableKey) : Except PyError (VariableKey × TypeGroups) :=
  match findRoot groups.parent.entries.length groups.parent key with
  | none => .error (.keyError (ofLex key).2)
  | some (root, parent) => .ok (root, { groups with parent := parent })

/-- The admitted types of two groups together. -/
def mergeAllowed (left right : Option (Finset PortType)) : Option (Finset PortType) :=
  match left, right with
  | none, none => none
  | none, some right => some right
  | some left, none => some left
  | some left, some right => some (left ∩ right)

/-- Put one root below another, which takes over its sets. -/
def merge (groups : TypeGroups) (root child : VariableKey) : TypeGroups where
  parent := groups.parent.insert child root
  candidates :=
    (groups.candidates.erase child).insert root
      (setAt groups.candidates root ∪ setAt groups.candidates child)
  allowed :=
    let popped := (groups.allowed.erase root).erase child
    match mergeAllowed (groups.allowed.get? root) (groups.allowed.get? child) with
    | none => popped
    | some merged => popped.insert root merged
  defaults :=
    let popped := (groups.defaults.erase root).erase child
    let merged := setAt groups.defaults root ∪ setAt groups.defaults child
    if merged = ∅ then popped else popped.insert root merged

/-- `union`. -/
def union (groups : TypeGroups) (left right : VariableKey) : Except PyError TypeGroups := do
  let (leftRoot, groups) ← groups.find left
  let (rightRoot, groups) ← groups.find right
  if leftRoot = rightRoot then
    return groups
  else
    return groups.merge (min leftRoot rightRoot) (max leftRoot rightRoot)

/-- `constrain`. -/
def constrain (groups : TypeGroups) (key : VariableKey) (valueType : PortType) :
    Except PyError TypeGroups := do
  let (root, groups) ← groups.find key
  return { groups with
    candidates := groups.candidates.insert root (insert valueType (setAt groups.candidates root)) }

/-- Whether all candidates are admitted. -/
def admits (allowed : Option (Finset PortType)) (candidates : Finset PortType) : Bool :=
  match allowed with
  | none => true
  | some allowed => decide (candidates ⊆ allowed)

/-- The type of a group from its sets. -/
def settle (candidates : Finset PortType) (allowed : Option (Finset PortType))
    (defaults : Finset PortType) : Option PortType :=
  if ¬ admits allowed candidates then none
  else if candidates = ∅ then
    match onlyMember defaults with
    | none => none
    | some default => if admits allowed {default} then some default else none
  else
    match onlyMember candidates with
    | some only => some only
    | none => if candidates ⊆ numericTypes then some .float else none

/-- `resolve`: a later `find` of the same key finds the same root. -/
def resolve (groups : TypeGroups) (key : VariableKey) :
    Except PyError (Option PortType × TypeGroups) := do
  let (root, groups) ← groups.find key
  return (settle (setAt groups.candidates root) (groups.allowed.get? root)
    (setAt groups.defaults root), groups)

/-- The candidates that a report names. -/
def clash (candidates : Finset PortType) (allowed : Option (Finset PortType)) : Finset PortType :=
  if ¬ admits allowed candidates then
    let refused := candidates \ allowed.getD ∅
    if refused = ∅ then candidates else refused
  else if candidates.card ≤ 1 ∨ candidates ⊆ numericTypes then ∅
  else candidates

/-- `incompatible_candidates`. -/
def incompatibleCandidates (groups : TypeGroups) (key : VariableKey) :
    Except PyError (Finset PortType × TypeGroups) := do
  let (root, groups) ← groups.find key
  return (clash (setAt groups.candidates root) (groups.allowed.get? root), groups)

end TypeGroups

/-! ## The meaning of the groups -/

/-- A type variable as it is declared: an empty set admits every type. -/
structure DeclaredVariable where
  key : VariableKey
  allowedTypes : Finset PortType
  defaultType : Option PortType

/-- What is said about type variables: their declarations, which of them are
linked and which concrete types are attached to them. -/
structure TypeFacts where
  declared : List DeclaredVariable
  links : List (VariableKey × VariableKey)
  attached : List (VariableKey × PortType)

namespace TypeFacts

variable (facts : TypeFacts)

/-- The concrete types attached to the component of a variable. -/
def concrete (key : VariableKey) : Set PortType :=
  { portType | ∃ source, (source, portType) ∈ facts.attached ∧ Linked facts.links source key }

/-- The types that all variables of the component admit. -/
def admitted (key : VariableKey) : Set PortType :=
  { portType | ∀ symbol ∈ facts.declared, Linked facts.links symbol.key key →
    symbol.allowedTypes ≠ ∅ → portType ∈ symbol.allowedTypes }

/-- The defaults of the variables of the component. -/
def defaults (key : VariableKey) : Set PortType :=
  { portType | ∃ symbol ∈ facts.declared, Linked facts.links symbol.key key ∧
    symbol.defaultType = some portType }

/-- The component has this type: the only concrete one, a float for integers
and floats, or the only default where nothing is attached. -/
def HasType (key : VariableKey) (portType : PortType) : Prop :=
  (facts.concrete key = {portType} ∧ facts.concrete key ⊆ facts.admitted key) ∨
    (facts.concrete key = {.int, .float} ∧ facts.concrete key ⊆ facts.admitted key ∧
      portType = .float) ∨
    (facts.concrete key = ∅ ∧ facts.defaults key = {portType} ∧ portType ∈ facts.admitted key)

/-- A concrete type is not admitted, or two of them have no common type. -/
def Conflicting (key : VariableKey) : Prop :=
  ¬ facts.concrete key ⊆ facts.admitted key ∨
    ∃ first ∈ facts.concrete key, ∃ second ∈ facts.concrete key,
      first ≠ second ∧ first ∉ ({.int, .float} : Set PortType)

end TypeFacts

namespace TypeFacts

/-- A further variable is declared. -/
def declare (facts : TypeFacts) (symbol : DeclaredVariable) : TypeFacts :=
  { facts with declared := facts.declared ++ [symbol] }

/-- Two variables are linked. -/
def link (facts : TypeFacts) (left right : VariableKey) : TypeFacts :=
  { facts with links := facts.links ++ [(left, right)] }

/-- A concrete type is attached to a variable. -/
def attach (facts : TypeFacts) (key : VariableKey) (portType : PortType) : TypeFacts :=
  { facts with attached := facts.attached ++ [(key, portType)] }

def nothing : TypeFacts := ⟨[], [], []⟩

end TypeFacts

/-! ## The declarations -/

/-- A group does not admit a type. -/
def Refuses (groups : TypeGroups) (key : VariableKey) (portType : PortType) : Prop :=
  ∃ allowed, groups.allowed.get? key = some allowed ∧ portType ∉ allowed

/-- A declared variable does not admit a type. -/
def RefusedBy (facts : TypeFacts) (key : VariableKey) (portType : PortType) : Prop :=
  ∃ symbol ∈ facts.declared, symbol.key = key ∧ symbol.allowedTypes ≠ ∅ ∧
    portType ∉ symbol.allowedTypes

/-- A declared variable has a type as its default. -/
def DefaultsTo (facts : TypeFacts) (key : VariableKey) (portType : PortType) : Prop :=
  ∃ symbol ∈ facts.declared, symbol.key = key ∧ symbol.defaultType = some portType

/-- Before anything is linked every variable is a group of its own. -/
structure Declares (groups : TypeGroups) (facts : TypeFacts) : Prop where
  unlinked : facts.links = []
  unattached : facts.attached = []
  known : ∀ key, key ∈ groups.parent.keys ↔ ∃ symbol ∈ facts.declared, symbol.key = key
  single : ∀ key ∈ groups.parent.keys, groups.parent.get? key = some key
  candidates : groups.candidates = Dict.empty
  refused : ∀ key portType, Refuses groups key portType ↔ RefusedBy facts key portType
  defaults : ∀ key portType, portType ∈ TypeGroups.setAt groups.defaults key ↔
    DefaultsTo facts key portType

theorem declares_empty : Declares TypeGroups.empty TypeFacts.nothing := by
  refine ⟨rfl, rfl, ?_, ?_, rfl, ?_, ?_⟩
  · intro key
    simp [TypeGroups.empty, TypeFacts.nothing]
  · intro key impossible
    cases impossible
  · intro key portType
    simp [Refuses, RefusedBy, TypeGroups.empty, TypeFacts.nothing]
  · intro key portType
    simp [TypeGroups.setAt, DefaultsTo, TypeGroups.empty, TypeFacts.nothing]

theorem setAt_insert (sets : Dict VariableKey (Finset PortType)) (key other : VariableKey)
    (types : Finset PortType) :
    TypeGroups.setAt (sets.insert key types) other =
      if other = key then types else TypeGroups.setAt sets other := by
  rw [TypeGroups.setAt, Dict.get?_insert]
  split_ifs <;> rfl

theorem setAt_erase (sets : Dict VariableKey (Finset PortType)) (key other : VariableKey) :
    TypeGroups.setAt (sets.erase key) other =
      if other = key then ∅ else TypeGroups.setAt sets other := by
  rw [TypeGroups.setAt, Dict.get?_erase]
  split_ifs <;> rfl

section Declaring

variable {groups : TypeGroups} {facts : TypeFacts} (symbol : DeclaredVariable)

theorem refusedBy_declare (key : VariableKey) (portType : PortType) :
    RefusedBy (facts.declare symbol) key portType ↔ RefusedBy facts key portType ∨
      (symbol.key = key ∧ symbol.allowedTypes ≠ ∅ ∧ portType ∉ symbol.allowedTypes) := by
  simp only [RefusedBy, TypeFacts.declare, List.mem_append, List.mem_singleton, or_and_right,
    exists_or, exists_eq_left]

theorem defaultsTo_declare (key : VariableKey) (portType : PortType) :
    DefaultsTo (facts.declare symbol) key portType ↔ DefaultsTo facts key portType ∨
      (symbol.key = key ∧ symbol.defaultType = some portType) := by
  simp only [DefaultsTo, TypeFacts.declare, List.mem_append, List.mem_singleton, or_and_right,
    exists_or, exists_eq_left]

theorem refuses_add (key : VariableKey) (portType : PortType) :
    Refuses (groups.add symbol.key symbol.allowedTypes symbol.defaultType) key portType ↔
      Refuses groups key portType ∨
        (symbol.key = key ∧ symbol.allowedTypes ≠ ∅ ∧ portType ∉ symbol.allowedTypes) := by
  by_cases free : symbol.allowedTypes = ∅
  · simp [Refuses, TypeGroups.add, free]
  · by_cases same : key = symbol.key
    · subst same
      cases stored : groups.allowed.get? symbol.key with
      | none => simp [Refuses, TypeGroups.add, free, stored]
      | some current =>
          simp only [Refuses, TypeGroups.add, free, stored, if_false, Dict.get?_insert_self,
            Option.some.injEq, exists_eq_left', Finset.mem_inter]
          tauto
    · have different : symbol.key ≠ key := Ne.symm same
      cases stored : groups.allowed.get? symbol.key with
      | none => simp [Refuses, TypeGroups.add, free, stored, Dict.get?_insert, same, different]
      | some current =>
          simp [Refuses, TypeGroups.add, free, stored, Dict.get?_insert, same, different]

theorem defaults_add (key : VariableKey) (portType : PortType) :
    portType ∈ TypeGroups.setAt
        (groups.add symbol.key symbol.allowedTypes symbol.defaultType).defaults key ↔
      portType ∈ TypeGroups.setAt groups.defaults key ∨
        (symbol.key = key ∧ symbol.defaultType = some portType) := by
  cases given : symbol.defaultType with
  | none => simp [TypeGroups.add]
  | some default =>
      simp only [TypeGroups.add, setAt_insert]
      by_cases same : key = symbol.key
      · subst same
        simp only [if_true, Finset.mem_insert, true_and, Option.some.injEq]
        tauto
      · have different : symbol.key ≠ key := Ne.symm same
        simp [same, different]

/-- `add` declares a variable. -/
theorem Declares.add (declares : Declares groups facts) :
    Declares (groups.add symbol.key symbol.allowedTypes symbol.defaultType)
      (facts.declare symbol) := by
  have keys : ∀ key, key ∈ (groups.add symbol.key symbol.allowedTypes
      symbol.defaultType).parent.keys ↔ key = symbol.key ∨ key ∈ groups.parent.keys := by
    intro key
    simp only [TypeGroups.add]
    split_ifs with present
    · constructor
      · exact Or.inr
      · rintro (rfl | member)
        · exact present
        · exact member
    · exact Dict.mem_keys_insert
  refine ⟨declares.unlinked, declares.unattached, ?_, ?_, declares.candidates, ?_, ?_⟩
  · intro key
    rw [keys, declares.known]
    simp only [TypeFacts.declare, List.mem_append, List.mem_singleton, or_and_right, exists_or,
      exists_eq_left]
    rw [or_comm, eq_comm]
  · intro key member
    simp only [TypeGroups.add] at member ⊢
    split_ifs at member ⊢ with present
    · exact declares.single key member
    · rw [Dict.get?_insert]
      split_ifs with same
      · rw [same]
      · exact declares.single key ((Dict.mem_keys_insert.mp member).resolve_left same)
  · intro key portType
    rw [refuses_add, refusedBy_declare, declares.refused]
  · intro key portType
    rw [defaults_add, defaultsTo_declare, declares.defaults]

end Declaring

/-! ## The links -/

/-- Every root carries what the facts say about its component. -/
structure Tracks (groups : TypeGroups) (facts : TypeFacts) (root : VariableKey → VariableKey) :
    Prop where
  rooted : Rooted groups.parent root
  known : ∀ key, key ∈ groups.parent.keys ↔ ∃ symbol ∈ facts.declared, symbol.key = key
  attached_known : ∀ entry ∈ facts.attached, entry.1 ∈ groups.parent.keys
  separates : Separates groups.parent.keys root facts.links
  candidates : ∀ portType, Gathers groups.parent.keys root
    (fun key => portType ∈ TypeGroups.setAt groups.candidates key)
    (fun key => (key, portType) ∈ facts.attached)
  refused : ∀ portType, Gathers groups.parent.keys root
    (fun key => Refuses groups key portType) (fun key => RefusedBy facts key portType)
  defaults : ∀ portType, Gathers groups.parent.keys root
    (fun key => portType ∈ TypeGroups.setAt groups.defaults key)
    (fun key => DefaultsTo facts key portType)

theorem linked_nil {Key : Type*} [LinearOrder Key] {left right : Key} :
    Linked [] left right ↔ left = right := by
  constructor
  · intro linked
    induction linked with
    | rel left right impossible => cases impossible
    | refl key => rfl
    | symm left right _ ih => exact ih.symm
    | trans left middle right _ _ first second => exact first.trans second
  · rintro rfl
    exact Linked.refl left

/-- A key that is its own root holds what it brings itself. -/
theorem gathers_id {Key : Type*} [LinearOrder Key] {keys : List Key} {holds brings : Key → Prop}
    (same : ∀ key, holds key ↔ brings key) : Gathers keys id holds brings := by
  intro key known
  rw [id, same]
  constructor
  · exact fun brought => ⟨key, known, brought, rfl⟩
  · rintro ⟨source, _, brought, rfl⟩
    exact brought

theorem Declares.tracks {groups : TypeGroups} {facts : TypeFacts}
    (declares : Declares groups facts) : Tracks groups facts id := by
  refine ⟨⟨declares.single, fun _ _ => le_refl _, ?_, fun _ _ => rfl⟩, declares.known, ?_, ?_, ?_,
    ?_, ?_⟩
  · intro key parent found
    have member : key ∈ groups.parent.keys := by
      rw [← groups.parent.get?_isSome, found]
      rfl
    rw [declares.single key member, Option.some.injEq] at found
    subst found
    exact ⟨member, le_refl _, rfl⟩
  · rw [declares.unattached]
    exact List.forall_mem_nil _
  · intro left _ right _
    rw [declares.unlinked, linked_nil, id, id]
  · intro portType
    apply gathers_id
    intro key
    rw [declares.candidates, declares.unattached]
    simp [TypeGroups.setAt]
  · exact fun portType => gathers_id (fun key => declares.refused key portType)
  · exact fun portType => gathers_id (fun key => declares.defaults key portType)

section Tracking

variable {groups : TypeGroups} {facts : TypeFacts} {root : VariableKey → VariableKey}

/-- `find` returns the root and only shortens the ways. -/
theorem Tracks.find (tracks : Tracks groups facts root) {key : VariableKey}
    (member : key ∈ groups.parent.keys) :
    ∃ parent, groups.find key = .ok (root key, { groups with parent := parent }) ∧
      parent.keys = groups.parent.keys ∧ Tracks { groups with parent := parent } facts root := by
  rcases tracks.rooted.findRoot_length member with ⟨parent, result, rooted, sameKeys⟩
  refine ⟨parent, ?_, sameKeys, rooted, ?_, ?_, ?_, ?_, ?_, ?_⟩
  · rw [TypeGroups.find, result]
  all_goals dsimp only; rw [sameKeys]
  · exact tracks.known
  · exact tracks.attached_known
  · exact tracks.separates
  · exact tracks.candidates
  · exact tracks.refused
  · exact tracks.defaults

/-- `constrain` attaches a type to a variable. -/
theorem Tracks.constrain (tracks : Tracks groups facts root) {key : VariableKey}
    (member : key ∈ groups.parent.keys) (valueType : PortType) :
    ∃ constrained, groups.constrain key valueType = .ok constrained ∧
      constrained.parent.keys = groups.parent.keys ∧
      Tracks constrained (facts.attach key valueType) root := by
  rcases tracks.find member with ⟨parent, found, sameKeys, compressed⟩
  refine ⟨{ groups with
      parent := parent
      candidates := groups.candidates.insert (root key)
        (insert valueType (TypeGroups.setAt groups.candidates (root key))) }, ?_, sameKeys,
    compressed.rooted, compressed.known, ?_, compressed.separates, ?_, compressed.refused,
    compressed.defaults⟩
  · rw [TypeGroups.constrain, found]
    rfl
  · intro entry attached
    rcases List.mem_append.mp attached with old | new
    · exact compressed.attached_known entry old
    · rw [List.mem_singleton.mp new]
      exact sameKeys ▸ member
  · intro portType
    by_cases same : portType = valueType
    · subst same
      apply (compressed.candidates portType).bring (sameKeys ▸ member)
      · intro source
        simp [TypeFacts.attach]
      · intro other
        dsimp only
        rw [setAt_insert]
        split_ifs with isRoot
        · simp [isRoot]
        · simp [isRoot]
    · intro other otherKnown
      have before := compressed.candidates portType other otherKnown
      dsimp only at before ⊢
      rw [setAt_insert]
      simp only [TypeFacts.attach, List.mem_append, List.mem_singleton, Prod.mk.injEq, same,
        and_false, or_false]
      rw [← before]
      split_ifs with isRoot
      · simp [isRoot, same]
      · exact Iff.rfl

variable {target child : VariableKey}

theorem refuses_merge (different : target ≠ child)
    (portType : PortType) :
    (Refuses (groups.merge target child) target portType ↔
      Refuses groups target portType ∨ Refuses groups child portType) ∧
    ∀ key, key ≠ target → key ≠ child →
      (Refuses (groups.merge target child) key portType ↔ Refuses groups key portType) := by
  constructor
  · cases atTarget : groups.allowed.get? target <;> cases atChild : groups.allowed.get? child <;>
      simp [Refuses, TypeGroups.merge, TypeGroups.mergeAllowed, atTarget, atChild,
        Dict.get?_erase, different]
    tauto
  · intro key notTarget notChild
    cases atTarget : groups.allowed.get? target <;> cases atChild : groups.allowed.get? child <;>
      simp [Refuses, TypeGroups.merge, TypeGroups.mergeAllowed, atTarget, atChild,
        Dict.get?_erase, Dict.get?_insert, notTarget, notChild]

theorem defaults_merge (different : target ≠ child)
    (portType : PortType) :
    (portType ∈ TypeGroups.setAt (groups.merge target child).defaults target ↔
      portType ∈ TypeGroups.setAt groups.defaults target ∨
        portType ∈ TypeGroups.setAt groups.defaults child) ∧
    ∀ key, key ≠ target → key ≠ child →
      (portType ∈ TypeGroups.setAt (groups.merge target child).defaults key ↔
        portType ∈ TypeGroups.setAt groups.defaults key) := by
  rw [← Finset.mem_union]
  by_cases nothing : TypeGroups.setAt groups.defaults target ∪
      TypeGroups.setAt groups.defaults child = ∅
  · simp only [TypeGroups.merge, nothing, if_true, setAt_erase, different, if_false]
    refine ⟨trivial, ?_⟩
    intro key notTarget notChild
    rw [if_neg notChild, if_neg notTarget]
  · simp only [TypeGroups.merge, nothing, if_false, setAt_insert, setAt_erase, if_true]
    refine ⟨trivial, ?_⟩
    intro key notTarget notChild
    rw [if_neg notTarget, if_neg notChild, if_neg notTarget]

theorem candidates_merge (portType : PortType) :
    (portType ∈ TypeGroups.setAt (groups.merge target child).candidates target ↔
      portType ∈ TypeGroups.setAt groups.candidates target ∨
        portType ∈ TypeGroups.setAt groups.candidates child) ∧
    ∀ key, key ≠ target → key ≠ child →
      (portType ∈ TypeGroups.setAt (groups.merge target child).candidates key ↔
        portType ∈ TypeGroups.setAt groups.candidates key) := by
  rw [← Finset.mem_union]
  simp only [TypeGroups.merge, setAt_insert, setAt_erase, if_true]
  refine ⟨trivial, ?_⟩
  intro key notTarget notChild
  rw [if_neg notTarget, if_neg notChild]

/-- Merging the roots of two variables links the variables. -/
theorem Tracks.merge (tracks : Tracks groups facts root) {left right : VariableKey}
    (leftKnown : left ∈ groups.parent.keys) (rightKnown : right ∈ groups.parent.keys)
    (smaller : target < child)
    (ends : root left = target ∧ root right = child ∨ root left = child ∧ root right = target) :
    Tracks (groups.merge target child) (facts.link left right)
      (Rooted.joinedRoot root target child) := by
  have fixed : ∀ key ∈ groups.parent.keys,
      groups.parent.get? (root key) = some (root key) ∧ root key ∈ groups.parent.keys :=
    fun key known => ⟨tracks.rooted.root_fixed key known, tracks.rooted.root_mem known⟩
  have atTarget : groups.parent.get? target = some target ∧ target ∈ groups.parent.keys := by
    rcases ends with ⟨same, _⟩ | ⟨_, same⟩
    · exact same ▸ fixed left leftKnown
    · exact same ▸ fixed right rightKnown
  have atChild : groups.parent.get? child = some child ∧ child ∈ groups.parent.keys := by
    rcases ends with ⟨_, same⟩ | ⟨same, _⟩
    · exact same ▸ fixed right rightKnown
    · exact same ▸ fixed left leftKnown
  have targetFixed := tracks.rooted.self_root target atTarget.1
  have childFixed := tracks.rooted.self_root child atChild.1
  have sameKeys : (groups.merge target child).parent.keys = groups.parent.keys :=
    Rooted.keys_redirect atChild.2
  refine ⟨tracks.rooted.join smaller atTarget.1 atChild.1, ?_, ?_, ?_, ?_, ?_, ?_⟩
  all_goals rw [sameKeys]
  · exact tracks.known
  · exact tracks.attached_known
  · exact tracks.separates.join leftKnown rightKnown ends
  · intro portType
    exact (tracks.candidates portType).join atTarget.2 targetFixed atChild.2 childFixed
      (candidates_merge portType).1 (candidates_merge portType).2
  · intro portType
    exact (tracks.refused portType).join atTarget.2 targetFixed atChild.2 childFixed
      (refuses_merge smaller.ne portType).1 (refuses_merge smaller.ne portType).2
  · intro portType
    exact (tracks.defaults portType).join atTarget.2 targetFixed atChild.2 childFixed
      (defaults_merge smaller.ne portType).1 (defaults_merge smaller.ne portType).2

/-- `union` links two variables. -/
theorem Tracks.union (tracks : Tracks groups facts root) {left right : VariableKey}
    (leftKnown : left ∈ groups.parent.keys) (rightKnown : right ∈ groups.parent.keys) :
    ∃ united joined, groups.union left right = .ok united ∧
      united.parent.keys = groups.parent.keys ∧ Tracks united (facts.link left right) joined := by
  rcases tracks.find leftKnown with ⟨leftParent, foundLeft, leftKeys, leftTracks⟩
  have rightKnown' : right ∈ leftParent.keys := leftKeys ▸ rightKnown
  rcases leftTracks.find rightKnown' with ⟨parent, foundRight, rightKeys, compressed⟩
  have leftKnown' : left ∈ parent.keys := rightKeys ▸ leftKeys ▸ leftKnown
  have rightKnown'' : right ∈ parent.keys := rightKeys ▸ rightKnown'
  by_cases same : root left = root right
  · refine ⟨{ groups with parent := parent }, root, ?_, rightKeys.trans leftKeys,
      compressed.rooted, compressed.known, compressed.attached_known,
      compressed.separates.redundant leftKnown' rightKnown'' same, compressed.candidates,
      compressed.refused, compressed.defaults⟩
    rw [TypeGroups.union, foundLeft]
    change (({ groups with parent := leftParent } : TypeGroups).find right >>= _) = _
    rw [foundRight]
    exact if_pos same
  · have smaller : min (root left) (root right) < max (root left) (root right) :=
      min_lt_max.mpr same
    have ends : root left = min (root left) (root right) ∧
          root right = max (root left) (root right) ∨
        root left = max (root left) (root right) ∧
          root right = min (root left) (root right) := by
      rcases le_total (root left) (root right) with below | above
      · exact Or.inl ⟨(min_eq_left below).symm, (max_eq_right below).symm⟩
      · exact Or.inr ⟨(max_eq_left above).symm, (min_eq_right above).symm⟩
    have merged := compressed.merge leftKnown' rightKnown'' smaller ends
    refine ⟨_, _, ?_, ?_, merged⟩
    · rw [TypeGroups.union, foundLeft]
      change (({ groups with parent := leftParent } : TypeGroups).find right >>= _) = _
      rw [foundRight]
      exact if_neg same
    · refine (Rooted.keys_redirect ?_).trans (rightKeys.trans leftKeys)
      rcases ends with ⟨_, isChild⟩ | ⟨isChild, _⟩
      · exact isChild ▸ compressed.rooted.root_mem rightKnown''
      · exact isChild ▸ compressed.rooted.root_mem leftKnown'

end Tracking

/-! ## The answers -/

theorem mem_allPortTypes (portType : PortType) : portType ∈ allPortTypes := by
  cases portType <;> decide

variable {types : Finset PortType}

theorem onlyMember_eq_some {portType : PortType} :
    onlyMember types = some portType ↔ types = {portType} := by
  rw [onlyMember]
  constructor
  · intro found
    simpa using List.find?_some found
  · intro single
    have listed : (allPortTypes.find? (fun portType => decide (types = {portType}))).isSome :=
      List.find?_isSome.mpr ⟨portType, mem_allPortTypes portType, by simpa using single⟩
    rcases Option.isSome_iff_exists.mp listed with ⟨other, found⟩
    have same : types = {other} := by simpa using List.find?_some found
    rw [single, Finset.singleton_inj] at same
    rw [found, same]

theorem onlyMember_eq_none :
    onlyMember types = none ↔ ∀ portType, types ≠ {portType} := by
  rw [Option.eq_none_iff_forall_ne_some]
  simp only [ne_eq, onlyMember_eq_some]

/-- Two numbers that are not the same type are both number types. -/
theorem eq_numericTypes (numeric : types ⊆ numericTypes)
    (nonempty : types ≠ ∅) (several : ∀ portType, types ≠ {portType}) :
    types = numericTypes := by
  rw [numericTypes, ← Finset.coe_subset, Finset.coe_pair, Set.subset_pair_iff_eq] at numeric
  rw [numericTypes]
  rcases numeric with none | int | float | both
  · exact absurd (Finset.coe_eq_empty.mp none) nonempty
  · exact absurd (Finset.coe_eq_singleton.mp int) (several .int)
  · exact absurd (Finset.coe_eq_singleton.mp float) (several .float)
  · rwa [← Finset.coe_inj, Finset.coe_pair]

theorem numericTypes_ne_singleton (portType : PortType) : numericTypes ≠ {portType} := by
  cases portType <;> decide

namespace TypeGroups

variable {candidates : Finset PortType} {allowed : Option (Finset PortType)}
  {defaults : Finset PortType}

/-- `settle` by the three ways to have a type. -/
theorem settle_eq_some {portType : PortType} :
    settle candidates allowed defaults = some portType ↔
      (candidates = {portType} ∧ admits allowed candidates = true) ∨
        (candidates = numericTypes ∧ admits allowed candidates = true ∧ portType = .float) ∨
        (candidates = ∅ ∧ defaults = {portType} ∧ admits allowed {portType} = true) := by
  have mixed : numericTypes ≠ ∅ := by decide
  by_cases admitted : admits allowed candidates = true
  · rw [settle, if_neg (not_not.mpr admitted)]
    by_cases nothing : candidates = ∅
    · subst nothing
      rw [if_pos rfl]
      have empty : ∀ portType, ¬ (∅ : Finset PortType) = {portType} :=
        fun portType => (Finset.singleton_ne_empty portType).symm
      cases only : onlyMember defaults with
      | none =>
          have several := onlyMember_eq_none.mp only
          simp [empty, mixed.symm, several]
      | some default =>
          rw [onlyMember_eq_some] at only
          subst only
          by_cases fits : admits allowed {default} = true
          · simp only [fits, if_true, Option.some.injEq, empty, false_and, mixed.symm, false_or,
              true_and, Finset.singleton_inj]
            constructor
            · rintro rfl
              exact ⟨rfl, fits⟩
            · exact And.left
          · simp only [fits, empty, false_and, mixed.symm, false_or, true_and,
              Finset.singleton_inj]
            constructor
            · intro impossible
              cases impossible
            · rintro ⟨rfl, admits⟩
              exact absurd admits fits
    · rw [if_neg nothing]
      cases only : onlyMember candidates with
      | some single =>
          rw [onlyMember_eq_some] at only
          subst only
          have notMixed : ¬ ({single} : Finset PortType) = numericTypes :=
            (numericTypes_ne_singleton single).symm
          simp [admitted, notMixed]
      | none =>
          have several := onlyMember_eq_none.mp only
          by_cases numeric : candidates ⊆ numericTypes
          · have both := eq_numericTypes numeric nothing several
            subst both
            simp only [numeric, several, admitted, mixed, if_true, Option.some.injEq,
              false_and, true_and, false_or, or_false]
            exact eq_comm
          · have notMixed : candidates ≠ numericTypes := by
              rintro rfl
              exact numeric (Finset.Subset.refl _)
            simp [numeric, several, notMixed, nothing]
  · have kept : candidates ≠ ∅ := by
      rintro rfl
      apply admitted
      cases allowed <;> simp [admits]
    rw [settle, if_pos admitted]
    simp [admitted, kept]

end TypeGroups

/-- What the sets of a root say, in terms of the facts. -/
structure Answers (candidates : Finset PortType) (allowed : Option (Finset PortType))
    (defaults : Finset PortType) (facts : TypeFacts) (key : VariableKey) : Prop where
  concrete : (candidates : Set PortType) = facts.concrete key
  admits_iff : ∀ types : Finset PortType,
    TypeGroups.admits allowed types = true ↔ (types : Set PortType) ⊆ facts.admitted key
  defaults : (defaults : Set PortType) = facts.defaults key

section Answers

variable {candidates : Finset PortType} {allowed : Option (Finset PortType)}
  {defaults : Finset PortType} {facts : TypeFacts} {key : VariableKey}

theorem numeric_coe : ({.int, .float} : Set PortType) = (numericTypes : Set PortType) := by
  rw [numericTypes, Finset.coe_pair]

theorem Answers.settle (answers : Answers candidates allowed defaults facts key)
    (portType : PortType) :
    TypeGroups.settle candidates allowed defaults = some portType ↔
      facts.HasType key portType := by
  rw [TypeGroups.settle_eq_some, TypeFacts.HasType, ← answers.concrete, ← answers.defaults,
    ← answers.admits_iff, numeric_coe, Finset.coe_inj, Finset.coe_eq_singleton,
    Finset.coe_eq_singleton, Finset.coe_eq_empty, answers.admits_iff {portType},
    Finset.coe_singleton, Set.singleton_subset_iff]

theorem Answers.clash (answers : Answers candidates allowed defaults facts key) :
    TypeGroups.clash candidates allowed ≠ ∅ ↔ facts.Conflicting key := by
  rw [TypeFacts.Conflicting, ← answers.concrete, ← answers.admits_iff, numeric_coe]
  by_cases admitted : TypeGroups.admits allowed candidates = true
  · rw [TypeGroups.clash, if_neg (not_not.mpr admitted)]
    simp only [admitted, not_true, false_or, Finset.mem_coe]
    by_cases fine : candidates.card ≤ 1 ∨ candidates ⊆ numericTypes
    · rw [if_pos fine]
      refine iff_of_false (not_not.mpr rfl) ?_
      rintro ⟨first, isFirst, second, isSecond, different, notNumeric⟩
      rcases fine with few | numeric
      · exact different (Finset.card_le_one.mp few first isFirst second isSecond)
      · exact notNumeric (numeric isFirst)
    · rw [if_neg fine]
      rw [not_or, not_le, Finset.not_subset] at fine
      rcases fine with ⟨several, first, isFirst, notNumeric⟩
      rcases Finset.exists_mem_ne several first with ⟨second, isSecond, different⟩
      refine iff_of_true (Finset.ne_empty_of_mem isFirst) ?_
      exact ⟨first, isFirst, second, isSecond, different.symm, notNumeric⟩
  · rw [TypeGroups.clash, if_pos admitted]
    have kept : candidates ≠ ∅ := by
      rintro rfl
      apply admitted
      cases allowed <;> simp [TypeGroups.admits]
    refine iff_of_true ?_ (Or.inl admitted)
    dsimp only
    split_ifs with refused
    · exact kept
    · exact refused

end Answers

section Tracking

variable {groups : TypeGroups} {facts : TypeFacts} {root : VariableKey → VariableKey}
  (tracks : Tracks groups facts root)
include tracks

theorem refusedBy_known {portType : PortType}
    (source : VariableKey) (refused : RefusedBy facts source portType) :
    source ∈ groups.parent.keys := by
  rcases refused with ⟨symbol, declared, same, _⟩
  exact (tracks.known source).mpr ⟨symbol, declared, same⟩

theorem defaultsTo_known {portType : PortType}
    (source : VariableKey) (default : DefaultsTo facts source portType) :
    source ∈ groups.parent.keys := by
  rcases default with ⟨symbol, declared, same, _⟩
  exact (tracks.known source).mpr ⟨symbol, declared, same⟩

variable {key : VariableKey}

/-- The sets at the root of a variable say what the facts say about it. -/
theorem Tracks.answers (member : key ∈ groups.parent.keys) :
    Answers (TypeGroups.setAt groups.candidates (root key)) (groups.allowed.get? (root key))
      (TypeGroups.setAt groups.defaults (root key)) facts key := by
  have refused : ∀ portType, Refuses groups (root key) portType ↔
      portType ∉ facts.admitted key := by
    intro portType
    rw [(tracks.refused portType).linked tracks.separates (refusedBy_known tracks) member]
    simp only [RefusedBy, TypeFacts.admitted, Set.mem_ofPred_eq]
    push Not
    constructor
    · rintro ⟨source, ⟨symbol, declared, rfl, restricted, outside⟩, linked⟩
      exact ⟨symbol, declared, linked, restricted, outside⟩
    · rintro ⟨symbol, declared, linked, restricted, outside⟩
      exact ⟨symbol.key, ⟨symbol, declared, rfl, restricted, outside⟩, linked⟩
  refine ⟨?_, ?_, ?_⟩
  · ext portType
    rw [Finset.mem_coe, (tracks.candidates portType).linked tracks.separates
      (fun source attached => tracks.attached_known _ attached) member]
    rfl
  · intro types
    have admitted : TypeGroups.admits (groups.allowed.get? (root key)) types = true ↔
        ∀ portType ∈ types, ¬ Refuses groups (root key) portType := by
      cases stored : groups.allowed.get? (root key) with
      | none => simp [TypeGroups.admits, Refuses, stored]
      | some allowed =>
          simp [TypeGroups.admits, Refuses, stored, Finset.subset_iff]
    rw [admitted]
    simp only [refused, not_not]
    rfl
  · ext portType
    rw [Finset.mem_coe, (tracks.defaults portType).linked tracks.separates
      (defaultsTo_known tracks) member]
    simp only [DefaultsTo, TypeFacts.defaults, Set.mem_ofPred_eq]
    constructor
    · rintro ⟨source, ⟨symbol, declared, rfl, default⟩, linked⟩
      exact ⟨symbol, declared, linked, default⟩
    · rintro ⟨symbol, declared, linked, default⟩
      exact ⟨symbol.key, ⟨symbol, declared, rfl, default⟩, linked⟩

/-- `resolve` answers with the type of the component. -/
theorem Tracks.resolve (member : key ∈ groups.parent.keys) :
    ∃ answer resolved, groups.resolve key = .ok (answer, resolved) ∧
      resolved.parent.keys = groups.parent.keys ∧ Tracks resolved facts root ∧
      ∀ portType, answer = some portType ↔ facts.HasType key portType := by
  rcases tracks.find member with ⟨parent, found, sameKeys, compressed⟩
  refine ⟨_, _, ?_, sameKeys, compressed, (tracks.answers member).settle⟩
  rw [TypeGroups.resolve, found]
  rfl

/-- `incompatible_candidates` names something exactly for a conflict. -/
theorem Tracks.incompatibleCandidates (member : key ∈ groups.parent.keys) :
    ∃ named resolved, groups.incompatibleCandidates key = .ok (named, resolved) ∧
      resolved.parent.keys = groups.parent.keys ∧ Tracks resolved facts root ∧
      (named ≠ ∅ ↔ facts.Conflicting key) := by
  rcases tracks.find member with ⟨parent, found, sameKeys, compressed⟩
  refine ⟨_, _, ?_, sameKeys, compressed, (tracks.answers member).clash⟩
  rw [TypeGroups.incompatibleCandidates, found]
  rfl

end Tracking

end Graph
end Synesthesia
