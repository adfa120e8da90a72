import Mathlib

namespace Synesthesia
namespace Foundation

/-!
# Lists with some items left out

A queue that coalesces hands on less than was put into it.  `Thins allowed`
relates what was put in to what is left when each missing item was allowed to
go in view of the items behind it.
-/

variable {Item : Type*}

inductive Thins (allowed : Item → List Item → Prop) : List Item → List Item → Prop
  | nil : Thins allowed [] []
  | keep (item : Item) {items kept : List Item} (rest : Thins allowed items kept) :
      Thins allowed (item :: items) (item :: kept)
  | drop {item : Item} {items kept : List Item} (may : allowed item items)
      (rest : Thins allowed items kept) : Thins allowed (item :: items) kept

namespace Thins

variable {allowed loose : Item → List Item → Prop}

theorem refl (items : List Item) : Thins allowed items items := by
  induction items with
  | nil => exact .nil
  | cons item rest ih => exact .keep item ih

variable {items kept : List Item}

theorem sublist (thins : Thins allowed items kept) :
    kept.Sublist items := by
  induction thins with
  | nil => exact .slnil
  | keep item _ ih => exact ih.cons_cons item
  | drop _ _ ih => exact ih.cons _

/-- Items that may not go all stay, in their order. -/
theorem filter_eq (thins : Thins allowed items kept) (stays : Item → Bool)
    (firm : ∀ item rest, allowed item rest → stays item = false) :
    kept.filter stays = items.filter stays := by
  induction thins with
  | nil => rfl
  | keep item _ ih =>
      rw [List.filter_cons, List.filter_cons, ih]
  | drop may _ ih =>
      rw [ih, List.filter_cons, firm _ _ may]
      rfl

/-- A filter thins a list when all that it leaves out may go. -/
theorem of_filter (stays : Item → Bool) (items : List Item)
    (may : ∀ item rest, stays item = false → allowed item rest) :
    Thins allowed items (items.filter stays) := by
  induction items with
  | nil => exact .nil
  | cons item rest ih =>
      rw [List.filter_cons]
      cases kept : stays item with
      | true => exact .keep item ih
      | false => exact .drop (may item rest kept) ih

/-- The front of a list stays while its back is thinned. -/
theorem append_left (front : List Item)
    (thins : Thins allowed items kept) : Thins allowed (front ++ items) (front ++ kept) := by
  induction front with
  | nil => exact thins
  | cons item rest ih => exact .keep item ih

/-- A new last item may let go of items that were kept before. -/
theorem supersede {items kept fewer : List Item} {last : Item}
    (grows : ∀ item rest, allowed item rest → allowed item (rest ++ [last]))
    (may : ∀ item rest, loose item rest → ∀ more, allowed item (more ++ [last]))
    (thins : Thins allowed items kept) (again : Thins loose kept fewer) :
    Thins allowed (items ++ [last]) (fewer ++ [last]) := by
  induction thins generalizing fewer with
  | nil =>
      cases again
      exact refl [last]
  | keep item _ ih =>
      cases again with
      | keep _ rest => exact .keep item (ih rest)
      | drop loosely rest => exact .drop (may _ _ loosely _) (ih rest)
  | drop allowedBefore _ ih =>
      exact .drop (grows _ _ allowedBefore) (ih again)

/-- A new last item that lets go of nothing. -/
theorem concat {last : Item}
    (grows : ∀ item rest, allowed item rest → allowed item (rest ++ [last]))
    (thins : Thins allowed items kept) : Thins allowed (items ++ [last]) (kept ++ [last]) :=
  supersede grows (fun _ _ never => (never : False).elim) thins (refl kept)

/-- What is left is cut at an item that may not go. -/
theorem split {before after kept : List Item} {item : Item} (firm : ¬ allowed item after)
    (thins : Thins allowed (before ++ item :: after) kept) :
    ∃ earlier later, kept = earlier ++ item :: later ∧
      Thins (fun other rest => allowed other (rest ++ item :: after)) before earlier ∧
      Thins allowed after later := by
  induction before generalizing kept with
  | nil =>
      cases thins with
      | keep _ rest => exact ⟨[], _, rfl, .nil, rest⟩
      | drop may _ => exact absurd may firm
  | cons head tail ih =>
      cases thins with
      | keep _ rest =>
          rcases ih rest with ⟨earlier, later, rfl, front, back⟩
          exact ⟨head :: earlier, later, rfl, .keep head front, back⟩
      | drop may rest =>
          rcases ih rest with ⟨earlier, later, rfl, front, back⟩
          exact ⟨earlier, later, rfl, .drop may front, back⟩

/-- Nothing goes when nothing may go. -/
theorem eq_of_firm (thins : Thins allowed items kept)
    (firm : ∀ item rest, rest ⊆ items → ¬ allowed item rest) : kept = items := by
  induction thins with
  | nil => rfl
  | keep item _ ih =>
      rw [ih (fun other rest within =>
        firm other rest (List.Subset.trans within (List.subset_cons_self _ _)))]
  | drop may _ _ => exact absurd may (firm _ _ (List.subset_cons_self _ _))

end Thins
end Foundation
end Synesthesia
