import Synesthesia.Foundation.Dict

namespace Synesthesia
namespace Foundation

/-!
# Union-find on a dictionary of parents

Every key points to a key that is not larger, and a root points to itself.
Finding the root of a key lets all keys on the way point to it; of two roots
that are joined the smaller one stays a root.  What the operations keep is
stated with the map that sends every key to its root.
-/

variable {Key : Type*}

/-! ## Keys that are linked -/

/-- Two keys are linked by a chain of pairs, in either direction. -/
def Linked (links : List (Key × Key)) : Key → Key → Prop :=
  Relation.EqvGen (fun left right => (left, right) ∈ links)

section Linked

variable {links : List (Key × Key)}

theorem Linked.refl (key : Key) : Linked links key key := Relation.EqvGen.refl key

theorem Linked.symm {left right : Key} (linked : Linked links left right) :
    Linked links right left :=
  Relation.EqvGen.symm _ _ linked

theorem Linked.trans {left middle right : Key} (first : Linked links left middle)
    (second : Linked links middle right) : Linked links left right :=
  Relation.EqvGen.trans _ _ _ first second

theorem linked_of_mem {left right : Key} (member : (left, right) ∈ links) :
    Linked links left right :=
  Relation.EqvGen.rel _ _ member

theorem Linked.mono {more : List (Key × Key)} (subset : ∀ link ∈ links, link ∈ more)
    {left right : Key} (linked : Linked links left right) : Linked more left right :=
  Relation.EqvGen.mono (fun _ _ member => subset _ member) _ _ linked

/-- One further link joins the keys on both of its sides. -/
theorem linked_append {first second left right : Key} :
    Linked (links ++ [(first, second)]) left right ↔
      Linked links left right ∨ (Linked links left first ∧ Linked links second right) ∨
        (Linked links left second ∧ Linked links first right) := by
  constructor
  · intro linked
    induction linked with
    | rel left right member =>
        rcases List.mem_append.mp member with old | new
        · exact Or.inl (linked_of_mem old)
        · cases List.mem_singleton.mp new
          exact Or.inr (Or.inl ⟨Linked.refl _, Linked.refl _⟩)
    | refl key => exact Or.inl (Linked.refl key)
    | symm left right _ ih =>
        rcases ih with old | ⟨toFirst, toRight⟩ | ⟨toSecond, toRight⟩
        · exact Or.inl old.symm
        · exact Or.inr (Or.inr ⟨toRight.symm, toFirst.symm⟩)
        · exact Or.inr (Or.inl ⟨toRight.symm, toSecond.symm⟩)
    | trans left middle right _ _ leftHypothesis rightHypothesis =>
        rcases leftHypothesis with old | ⟨toFirst, toMiddle⟩ | ⟨toSecond, toMiddle⟩ <;>
          rcases rightHypothesis with later | ⟨fromFirst, toRight⟩ | ⟨fromSecond, toRight⟩
        · exact Or.inl (old.trans later)
        · exact Or.inr (Or.inl ⟨old.trans fromFirst, toRight⟩)
        · exact Or.inr (Or.inr ⟨old.trans fromSecond, toRight⟩)
        · exact Or.inr (Or.inl ⟨toFirst, toMiddle.trans later⟩)
        · exact Or.inr (Or.inl ⟨toFirst, toRight⟩)
        · exact Or.inl (toFirst.trans toRight)
        · exact Or.inr (Or.inr ⟨toSecond, toMiddle.trans later⟩)
        · exact Or.inl (toSecond.trans toRight)
        · exact Or.inr (Or.inr ⟨toSecond, toRight⟩)
  · have kept : ∀ {left right : Key}, Linked links left right →
        Linked (links ++ [(first, second)]) left right := fun linked =>
      linked.mono (fun _ member => List.mem_append_left _ member)
    have new : Linked (links ++ [(first, second)]) first second :=
      linked_of_mem (List.mem_append_right _ (List.mem_singleton.mpr rfl))
    rintro (old | ⟨toFirst, toRight⟩ | ⟨toSecond, toRight⟩)
    · exact kept old
    · exact ((kept toFirst).trans new).trans (kept toRight)
    · exact ((kept toSecond).trans new.symm).trans (kept toRight)

end Linked

/-! ## The map to the roots -/

section Roots

variable [LinearOrder Key]

/-- Follow the parents to a root, at most as many as the first argument says,
and let the keys on the way point to it. -/
def findRoot : Nat → Dict Key Key → Key → Option (Key × Dict Key Key)
  | 0, _, _ => none
  | fuel + 1, parents, key =>
      match parents.get? key with
      | none => none
      | some parent =>
          if parent = key then some (parent, parents)
          else
            match findRoot fuel parents parent with
            | none => none
            | some (root, compressed) => some (root, compressed.insert key root)

/-- The parents lead every key to its root. -/
structure Rooted (parents : Dict Key Key) (root : Key → Key) : Prop where
  root_fixed : ∀ key ∈ parents.keys, parents.get? (root key) = some (root key)
  root_le : ∀ key ∈ parents.keys, root key ≤ key
  parent_root : ∀ key parent, parents.get? key = some parent →
    parent ∈ parents.keys ∧ parent ≤ key ∧ root parent = root key
  self_root : ∀ key, parents.get? key = some key → root key = key

namespace Rooted

variable {parents : Dict Key Key} {root : Key → Key}

theorem root_mem (rooted : Rooted parents root) {key : Key} (known : key ∈ parents.keys) :
    root key ∈ parents.keys := by
  rw [← parents.get?_isSome, rooted.root_fixed key known]
  rfl

theorem root_root (rooted : Rooted parents root) {key : Key} (known : key ∈ parents.keys) :
    root (root key) = root key :=
  rooted.self_root _ (rooted.root_fixed key known)

/-- A key that is known keeps its place when it is assigned. -/
theorem keys_redirect {key target : Key} (known : key ∈ parents.keys) :
    (parents.insert key target).keys = parents.keys := by
  have kept : ∀ entries : List (Key × Key), key ∈ entries.map Prod.fst →
      (Dict.assign key target entries).map Prod.fst = entries.map Prod.fst := by
    intro entries
    induction entries with
    | nil => exact fun absent => absurd absent List.not_mem_nil
    | cons entry rest ih =>
        rcases entry with ⟨other, old⟩
        intro member
        by_cases same : other = key
        · rw [Dict.assign, if_pos same, List.map_cons, List.map_cons, same]
        · have later := (List.mem_cons.mp member).resolve_left (Ne.symm same)
          rw [Dict.assign, if_neg same, List.map_cons, List.map_cons, ih later]
  exact kept parents.entries known

/-- A key may point to its root at once. -/
theorem compress (rooted : Rooted parents root) {key : Key} (known : key ∈ parents.keys) :
    Rooted (parents.insert key (root key)) root := by
  refine ⟨?_, ?_, ?_, ?_⟩
  · intro other member
    rw [keys_redirect known] at member
    have fixed := rooted.root_fixed other member
    rw [Dict.get?_insert]
    split_ifs with same
    · rw [same] at fixed ⊢
      rw [rooted.self_root key fixed]
    · exact fixed
  · intro other member
    rw [keys_redirect known] at member
    exact rooted.root_le other member
  · intro other parent found
    rw [keys_redirect known]
    rw [Dict.get?_insert] at found
    split_ifs at found with same
    · cases found
      subst same
      exact ⟨rooted.root_mem known, rooted.root_le other known, rooted.root_root known⟩
    · exact rooted.parent_root other parent found
  · intro other found
    rw [Dict.get?_insert] at found
    split_ifs at found with same
    · rw [same] at found ⊢
      exact Option.some.inj found
    · exact rooted.self_root other found

/-- The keys that are smaller than the given one. -/
def below (parents : Dict Key Key) (key : Key) : List Key :=
  parents.keys.filter (fun other => decide (other < key))

omit [LinearOrder Key] in
theorem length_filter_lt {keys : List Key} {small large : Key → Bool}
    (inside : ∀ key, small key = true → large key = true) {witness : Key}
    (member : witness ∈ keys) (isLarge : large witness = true)
    (notSmall : small witness = false) :
    (keys.filter small).length < (keys.filter large).length := by
  have sublist : (keys.filter small).Sublist (keys.filter large) :=
    List.monotone_filter_right keys inside
  rcases Nat.lt_or_ge (keys.filter small).length (keys.filter large).length with less | more
  · exact less
  · have same := sublist.eq_of_length_le more
    have listed : witness ∈ keys.filter small :=
      same ▸ List.mem_filter.mpr ⟨member, isLarge⟩
    rw [(List.mem_filter.mp listed).2] at notSmall
    cases notSmall

/-- With fuel for every smaller key the root is found, and only the way to the
roots gets shorter. -/
theorem findRoot_spec (rooted : Rooted parents root) (fuel : Nat) {key : Key}
    (known : key ∈ parents.keys) (enough : (below parents key).length < fuel) :
    ∃ compressed, findRoot fuel parents key = some (root key, compressed) ∧
      Rooted compressed root ∧ compressed.keys = parents.keys := by
  induction fuel generalizing key with
  | zero => exact absurd enough (Nat.not_lt_zero _)
  | succ fuel ih =>
      rcases Option.isSome_iff_exists.mp ((parents.get?_isSome key).mpr known) with
        ⟨parent, found⟩
      rcases rooted.parent_root key parent found with ⟨parentKnown, smaller, sameRoot⟩
      by_cases isRoot : parent = key
      · subst isRoot
        refine ⟨parents, ?_, rooted, rfl⟩
        rw [findRoot, found]
        simp only [if_true]
        rw [rooted.self_root parent found]
      · have less : parent < key := lt_of_le_of_ne smaller isRoot
        have fewer : (below parents parent).length < (below parents key).length := by
          refine length_filter_lt ?_ parentKnown ?_ ?_
          · intro other small
            exact decide_eq_true (lt_trans (of_decide_eq_true small) less)
          · exact decide_eq_true less
          · exact decide_eq_false (lt_irrefl parent)
        rcases ih parentKnown (by omega) with
          ⟨compressed, result, compressedRooted, sameKeys⟩
        refine ⟨compressed.insert key (root key), ?_, ?_, ?_⟩
        · rw [findRoot, found]
          simp only [if_neg isRoot, result, sameRoot]
        · exact compressedRooted.compress (sameKeys ▸ known)
        · rw [keys_redirect (sameKeys ▸ known), sameKeys]

/-- As many steps as there are keys are enough. -/
theorem findRoot_length (rooted : Rooted parents root) {key : Key} (known : key ∈ parents.keys) :
    ∃ compressed, findRoot parents.entries.length parents key = some (root key, compressed) ∧
      Rooted compressed root ∧ compressed.keys = parents.keys := by
  apply rooted.findRoot_spec _ known
  have fewer : (below parents key).length <
      (parents.keys.filter (fun _ => true)).length :=
    length_filter_lt (fun _ _ => rfl) known rfl (decide_eq_false (lt_irrefl key))
  rwa [List.filter_true, Dict.keys, List.length_map] at fewer

/-! ## Joining two roots -/

/-- The roots after one of them has been put below another. -/
def joinedRoot (root : Key → Key) (target child : Key) (key : Key) : Key :=
  if root key = child then target else root key

theorem join (rooted : Rooted parents root) {target child : Key} (smaller : target < child)
    (targetRoot : parents.get? target = some target)
    (childRoot : parents.get? child = some child) :
    Rooted (parents.insert child target) (joinedRoot root target child) := by
  have childKnown : child ∈ parents.keys := by
    rw [← parents.get?_isSome, childRoot]
    rfl
  have targetKnown : target ∈ parents.keys := by
    rw [← parents.get?_isSome, targetRoot]
    rfl
  have different : target ≠ child := ne_of_lt smaller
  have targetFixed := rooted.self_root target targetRoot
  have childFixed := rooted.self_root child childRoot
  refine ⟨?_, ?_, ?_, ?_⟩
  · intro key member
    rw [keys_redirect childKnown] at member
    rw [joinedRoot]
    split_ifs with isChild
    · rw [Dict.get?_insert_of_ne _ different, targetRoot]
    · rw [Dict.get?_insert_of_ne _ isChild, rooted.root_fixed key member]
  · intro key member
    rw [keys_redirect childKnown] at member
    have below := rooted.root_le key member
    rw [joinedRoot]
    split_ifs with isChild
    · exact le_trans smaller.le (isChild ▸ below)
    · exact below
  · intro key parent found
    rw [keys_redirect childKnown]
    rw [Dict.get?_insert] at found
    split_ifs at found with isChild
    · cases found
      subst isChild
      refine ⟨targetKnown, smaller.le, ?_⟩
      rw [joinedRoot, joinedRoot, if_pos childFixed, targetFixed, if_neg different]
    · rcases rooted.parent_root key parent found with ⟨known, less, same⟩
      refine ⟨known, less, ?_⟩
      rw [joinedRoot, joinedRoot, same]
  · intro key found
    rw [Dict.get?_insert] at found
    split_ifs at found with isChild
    · exact absurd (Option.some.inj found) (isChild ▸ different)
    · rw [joinedRoot, rooted.self_root key found, if_neg isChild]

end Rooted

end Roots

/-! ## Roots and links -/

/-- Keys have the same root exactly when they are linked. -/
def Separates (keys : List Key) (root : Key → Key) (links : List (Key × Key)) : Prop :=
  ∀ left ∈ keys, ∀ right ∈ keys, root left = root right ↔ Linked links left right

section Separates

variable {keys : List Key} {root : Key → Key} {links : List (Key × Key)}

/-- A link between keys with the same root joins nothing. -/
theorem Separates.redundant (separates : Separates keys root links) {first second : Key}
    (firstKnown : first ∈ keys) (secondKnown : second ∈ keys)
    (same : root first = root second) :
    Separates keys root (links ++ [(first, second)]) := by
  intro left leftKnown right rightKnown
  rw [linked_append, ← separates left leftKnown right rightKnown,
    ← separates left leftKnown first firstKnown, ← separates second secondKnown right rightKnown,
    ← separates left leftKnown second secondKnown, ← separates first firstKnown right rightKnown]
  constructor
  · exact Or.inl
  · rintro (equal | ⟨toFirst, toRight⟩ | ⟨toSecond, toRight⟩)
    · exact equal
    · exact (toFirst.trans same).trans toRight
    · exact (toSecond.trans same.symm).trans toRight

/-- Joining the roots of two keys links the keys. -/
theorem Separates.join [LinearOrder Key] (separates : Separates keys root links)
    {first second : Key}
    (firstKnown : first ∈ keys) (secondKnown : second ∈ keys) {target child : Key}
    (ends : root first = target ∧ root second = child ∨
      root first = child ∧ root second = target) :
    Separates keys (Rooted.joinedRoot root target child) (links ++ [(first, second)]) := by
  intro left leftKnown right rightKnown
  rw [linked_append, ← separates left leftKnown right rightKnown,
    ← separates left leftKnown first firstKnown, ← separates second secondKnown right rightKnown,
    ← separates left leftKnown second secondKnown, ← separates first firstKnown right rightKnown,
    Rooted.joinedRoot, Rooted.joinedRoot]
  rcases ends with ⟨atFirst, atSecond⟩ | ⟨atFirst, atSecond⟩ <;> rw [atFirst, atSecond] <;>
    split_ifs <;> grind

end Separates

/-! ## What is gathered at the roots -/

/-- A root holds what one of its keys brings. -/
def Gathers (keys : List Key) (root : Key → Key) (holds brings : Key → Prop) : Prop :=
  ∀ key ∈ keys, holds (root key) ↔ ∃ source ∈ keys, brings source ∧ root source = root key

section Gathers

variable {keys : List Key} {root : Key → Key} {holds brings after : Key → Prop}

/-- Of two joined roots the one that stays holds what both held. -/
theorem Gathers.join [LinearOrder Key] (gathers : Gathers keys root holds brings)
    {target child : Key}
    (targetKnown : target ∈ keys) (targetFixed : root target = target)
    (childKnown : child ∈ keys) (childFixed : root child = child)
    (merged : after target ↔ holds target ∨ holds child)
    (others : ∀ key, key ≠ target → key ≠ child → (after key ↔ holds key)) :
    Gathers keys (Rooted.joinedRoot root target child) after brings := by
  have atTarget := gathers target targetKnown
  have atChild := gathers child childKnown
  rw [targetFixed] at atTarget
  rw [childFixed] at atChild
  have joined : after target ↔
      ∃ source ∈ keys, brings source ∧ Rooted.joinedRoot root target child source = target := by
    rw [merged, atTarget, atChild]
    constructor
    · rintro (⟨source, known, brought, same⟩ | ⟨source, known, brought, same⟩)
      · refine ⟨source, known, brought, ?_⟩
        rw [Rooted.joinedRoot, same, ite_self]
      · refine ⟨source, known, brought, ?_⟩
        rw [Rooted.joinedRoot, if_pos same]
    · rintro ⟨source, known, brought, same⟩
      rw [Rooted.joinedRoot] at same
      split_ifs at same with isChild
      · exact Or.inr ⟨source, known, brought, isChild⟩
      · exact Or.inl ⟨source, known, brought, same⟩
  intro key known
  by_cases moved : Rooted.joinedRoot root target child key = target
  · rw [moved]
    exact joined
  · have notChild : root key ≠ child := by
      intro isChild
      exact moved (if_pos isChild)
    have stays : Rooted.joinedRoot root target child key = root key := if_neg notChild
    rw [stays] at moved ⊢
    rw [others _ moved notChild, gathers key known]
    constructor
    · rintro ⟨source, sourceKnown, brought, same⟩
      refine ⟨source, sourceKnown, brought, ?_⟩
      rw [Rooted.joinedRoot, same, if_neg notChild]
    · rintro ⟨source, sourceKnown, brought, same⟩
      rw [Rooted.joinedRoot] at same
      split_ifs at same with isChild
      · exact absurd same.symm moved
      · exact ⟨source, sourceKnown, brought, same⟩

/-- A key brings something new to its root. -/
theorem Gathers.bring (gathers : Gathers keys root holds brings) {more : Key → Prop} {key : Key}
    (known : key ∈ keys) (added : ∀ source, more source ↔ brings source ∨ source = key)
    (held : ∀ other, after other ↔ holds other ∨ other = root key) :
    Gathers keys root after more := by
  intro other otherKnown
  rw [held, gathers other otherKnown]
  constructor
  · rintro (⟨source, sourceKnown, brought, same⟩ | same)
    · exact ⟨source, sourceKnown, (added source).mpr (Or.inl brought), same⟩
    · exact ⟨key, known, (added key).mpr (Or.inr rfl), same.symm⟩
  · rintro ⟨source, sourceKnown, brought, same⟩
    rcases (added source).mp brought with old | new
    · exact Or.inl ⟨source, sourceKnown, old, same⟩
    · exact Or.inr (new ▸ same.symm)

/-- In terms of links: a root holds what a linked key brings. -/
theorem Gathers.linked (gathers : Gathers keys root holds brings) {links : List (Key × Key)}
    (separates : Separates keys root links) (inside : ∀ key, brings key → key ∈ keys)
    {key : Key} (known : key ∈ keys) :
    holds (root key) ↔ ∃ source, brings source ∧ Linked links source key := by
  rw [gathers key known]
  constructor
  · rintro ⟨source, sourceKnown, brought, same⟩
    exact ⟨source, brought, (separates source sourceKnown key known).mp same⟩
  · rintro ⟨source, brought, linked⟩
    have sourceKnown := inside source brought
    exact ⟨source, sourceKnown, brought, (separates source sourceKnown key known).mpr linked⟩

end Gathers

end Foundation
end Synesthesia
