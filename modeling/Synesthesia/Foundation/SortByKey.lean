import Mathlib

namespace Synesthesia
namespace Foundation

/-!
# Stable sorting by a key

`sorted(items, key=...)` of the modelled language: the result is ordered by
the key, is a rearrangement of the items, and keeps the order of items with
equal keys.
-/

variable {Item Key : Type*} [LinearOrder Key]

/-- Items ordered by their keys. -/
abbrev KeyLE (key : Item → Key) (left right : Item) : Prop := key left ≤ key right

instance (key : Item → Key) : Std.Total (KeyLE key) := ⟨fun _ _ => le_total _ _⟩

instance (key : Item → Key) : IsTrans Item (KeyLE key) :=
  ⟨fun _ _ _ first second => le_trans first second⟩

def sortByKey (key : Item → Key) (items : List Item) : List Item :=
  items.insertionSort (KeyLE key)

theorem sortByKey_perm (key : Item → Key) (items : List Item) :
    (sortByKey key items).Perm items :=
  List.perm_insertionSort _ _

@[simp] theorem mem_sortByKey (key : Item → Key) {items : List Item} {item : Item} :
    item ∈ sortByKey key items ↔ item ∈ items :=
  (sortByKey_perm key items).mem_iff

theorem sortByKey_pairwise (key : Item → Key) (items : List Item) :
    (sortByKey key items).Pairwise (KeyLE key) :=
  List.pairwise_insertionSort _ _

/-- Items that are already in order are left alone. -/
theorem sortByKey_of_pairwise {key : Item → Key} {items : List Item}
    (ordered : items.Pairwise (KeyLE key)) : sortByKey key items = items :=
  List.Pairwise.insertionSort_eq ordered

/-- Sorted items stay sorted under a change that keeps their keys. -/
theorem sortByKey_map_sortByKey {Other : Type*} {key : Item → Key} {otherKey : Other → Key}
    {change : Item → Other} (kept : ∀ item, otherKey (change item) = key item)
    (items : List Item) :
    sortByKey otherKey ((sortByKey key items).map change) = (sortByKey key items).map change := by
  apply sortByKey_of_pairwise
  apply List.pairwise_map.mpr
  apply (sortByKey_pairwise key items).imp
  intro left right ordered
  rw [KeyLE, kept left, kept right]
  exact ordered

@[simp] theorem sortByKey_sortByKey (key : Item → Key) (items : List Item) :
    sortByKey key (sortByKey key items) = sortByKey key items :=
  sortByKey_of_pairwise (sortByKey_pairwise key items)

/-- The items with one given key come out in their original order. -/
theorem sortByKey_filter_eq [DecidableEq Key] (key : Item → Key) (value : Key)
    (items : List Item) :
    (sortByKey key items).filter (fun item => decide (key item = value)) =
      items.filter (fun item => decide (key item = value)) := by
  have same : (items.filter (fun item => decide (key item = value))).Pairwise (KeyLE key) := by
    rw [List.pairwise_iff_forall_sublist]
    intro left right pair
    have left_key := List.mem_filter.mp (pair.subset (by simp : left ∈ [left, right]))
    have right_key := List.mem_filter.mp (pair.subset (by simp : right ∈ [left, right]))
    simp only [decide_eq_true_eq] at left_key right_key
    exact le_of_eq (left_key.2.trans right_key.2.symm)
  have kept := (List.sublist_insertionSort same List.filter_sublist).filter
    (fun item => decide (key item = value))
  rw [List.filter_filter, show (fun item => decide (key item = value) && decide (key item = value))
    = (fun item => decide (key item = value)) by funext item; simp] at kept
  exact (kept.eq_of_length
    (((sortByKey_perm key items).filter _).length_eq.symm)).symm

/-! ## Items with distinct keys -/

section Distinct

variable {key : Item → Key} {items : List Item}

/-- Items with distinct keys have one order. -/
theorem sortByKey_eq_of_perm {others : List Item} (same : items.Perm others)
    (distinct : ∀ left ∈ items, ∀ right ∈ items, key left = key right → left = right) :
    sortByKey key items = sortByKey key others := by
  have sorted : (sortByKey key items).Perm (sortByKey key others) :=
    (sortByKey_perm key items).trans (same.trans (sortByKey_perm key others).symm)
  refine List.Perm.eq_of_pairwise ?_ (sortByKey_pairwise key items)
    (sortByKey_pairwise key others) sorted
  intro left right isLeft isRight before after
  have leftItem := (mem_sortByKey key).mp isLeft
  have rightItem := same.mem_iff.mpr ((mem_sortByKey key).mp isRight)
  exact distinct left leftItem right rightItem (le_antisymm before after)

/-- Distinct keys come out strictly increasing. -/
theorem sortByKey_pairwise_lt (distinct : (items.map key).Nodup) :
    (sortByKey key items).Pairwise (fun left right => key left < key right) := by
  have apart : ((sortByKey key items).map key).Nodup :=
    ((sortByKey_perm key items).map key).nodup_iff.mpr distinct
  exact ((sortByKey_pairwise key items).and (List.pairwise_map.mp apart)).imp
    fun ordered => lt_of_le_of_ne ordered.1 ordered.2

/-- The first items of an increasing list are those with few smaller ones. -/
theorem mem_take_iff (increasing : items.Pairwise (fun left right => key left < key right))
    {item : Item} {count : Nat} :
    item ∈ items.take count ↔
      item ∈ items ∧ items.countP (fun other => decide (key other < key item)) < count := by
  induction items generalizing count with
  | nil => simp
  | cons first rest ih =>
      rw [List.pairwise_cons] at increasing
      cases count with
      | zero => simp
      | succ count =>
          rw [List.take_succ_cons, List.mem_cons, List.mem_cons, List.countP_cons,
            ih increasing.2]
          by_cases isFirst : item = first
          · subst isFirst
            have none : rest.countP (fun other => decide (key other < key item)) = 0 := by
              rw [List.countP_eq_zero]
              intro other member
              rw [decide_eq_true_eq, not_lt]
              exact le_of_lt (increasing.1 other member)
            simp [none]
          · constructor
            · rintro (same | ⟨member, few⟩)
              · exact absurd same isFirst
              · rw [if_pos (decide_eq_true (increasing.1 item member))]
                exact ⟨Or.inr member, Nat.succ_lt_succ few⟩
            · rintro ⟨same | member, few⟩
              · exact absurd same isFirst
              · rw [if_pos (decide_eq_true (increasing.1 item member))] at few
                exact Or.inr ⟨member, Nat.lt_of_succ_lt_succ few⟩

/-- The first items of the sorted list, told from the items as they were. -/
theorem mem_take_sortByKey (distinct : (items.map key).Nodup) {item : Item} {count : Nat} :
    item ∈ (sortByKey key items).take count ↔
      item ∈ items ∧ items.countP (fun other => decide (key other < key item)) < count := by
  rw [mem_take_iff (sortByKey_pairwise_lt distinct), mem_sortByKey,
    (sortByKey_perm key items).countP_eq]

end Distinct

/-- A list with an item that passes a test has a last such item. -/
theorem exists_last_split {items : List Item} {test : Item → Prop}
    (some : ∃ item ∈ items, test item) :
    ∃ before last after, items = before ++ last :: after ∧ test last ∧
      ∀ later ∈ after, ¬ test later := by
  induction items with
  | nil =>
      rcases some with ⟨item, member, _⟩
      cases member
  | cons first rest ih =>
      by_cases further : ∃ item ∈ rest, test item
      · rcases ih further with ⟨before, last, after, rfl, passes, quiet⟩
        exact ⟨first :: before, last, after, rfl, passes, quiet⟩
      · push Not at further
        rcases some with ⟨item, member, passes⟩
        rcases List.mem_cons.mp member with rfl | inRest
        · exact ⟨[], item, rest, rfl, passes, further⟩
        · exact absurd passes (further item inRest)

end Foundation
end Synesthesia
