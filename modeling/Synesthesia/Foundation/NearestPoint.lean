import Mathlib

namespace Synesthesia
namespace Foundation

/-!
# Nearest points

Projections onto a set of points of an ordered group.  A target is clamped
between optional bounds, rounded to a grid, or replaced by a listed point; each
step keeps the nearest point of the set nearest, because what it moves to lies
between the target and every point that is left.
-/

section Group

variable {α : Type*} [AddCommGroup α] [LinearOrder α] [IsOrderedAddMonoid α]

/-- A point of the set that no other point of it is closer to the target than. -/
structure IsNearestIn (points : Set α) (target nearest : α) : Prop where
  mem : nearest ∈ points
  le : ∀ point ∈ points, |nearest - target| ≤ |point - target|

namespace IsNearestIn

variable {points smaller : Set α} {target nearest : α}

theorem self (member : target ∈ points) : IsNearestIn points target target where
  mem := member
  le := by
    intro point _
    rw [sub_self, abs_zero]
    exact abs_nonneg _

/-- A point of the set is its own nearest one. -/
theorem eq_of_mem (near : IsNearestIn points target nearest) (member : target ∈ points) :
    nearest = target := by
  have closest := near.le target member
  rw [sub_self, abs_zero] at closest
  exact sub_eq_zero.mp (abs_eq_zero.mp (le_antisymm closest (abs_nonneg _)))

/-- The distance to a point splits at whatever lies between. -/
theorem abs_sub_of_mem_uIcc {left middle right : α} (between : middle ∈ Set.uIcc left right) :
    |right - left| = |right - middle| + |middle - left| := by
  rcases Set.mem_uIcc.mp between with ⟨above, below⟩ | ⟨above, below⟩
  · rw [abs_of_nonneg (sub_nonneg.mpr (above.trans below)), abs_of_nonneg (sub_nonneg.mpr below),
      abs_of_nonneg (sub_nonneg.mpr above), sub_add_sub_cancel]
  · rw [abs_of_nonpos (sub_nonpos.mpr (above.trans below)), abs_of_nonpos (sub_nonpos.mpr above),
      abs_of_nonpos (sub_nonpos.mpr below), neg_sub, neg_sub, neg_sub, add_comm,
      sub_add_sub_cancel]

/-- Moving the target towards every point of the set first loses nothing. -/
theorem of_between (via : α) (between : ∀ point ∈ points, via ∈ Set.uIcc target point)
    (near : IsNearestIn points via nearest) : IsNearestIn points target nearest where
  mem := near.mem
  le := by
    intro point member
    calc |nearest - target| ≤ |nearest - via| + |via - target| := abs_sub_le _ _ _
      _ ≤ |point - via| + |via - target| := by
        have closer := near.le point member
        gcongr
      _ = |point - target| := (abs_sub_of_mem_uIcc (between point member)).symm

/-- Nor is a point between two others farther than both of them. -/
theorem abs_sub_le_max {left middle right : α} (between : middle ∈ Set.uIcc left right) :
    |middle - target| ≤ max |left - target| |right - target| := by
  have within : ∀ {low high : α}, low ≤ middle → middle ≤ high →
      |middle - target| ≤ max |low - target| |high - target| := by
    intro low high above below
    refine abs_le_max_abs_abs ?_ ?_
    · exact sub_le_sub_right above target
    · exact sub_le_sub_right below target
  rcases Set.mem_uIcc.mp between with ⟨above, below⟩ | ⟨above, below⟩
  · exact within above below
  · rw [max_comm]
    exact within above below

/-- The nearest point of a set, moved towards every point of a part of it. -/
theorem restrict {via : α} (near : IsNearestIn points target nearest)
    (subset : smaller ⊆ points) (member : via ∈ smaller)
    (between : ∀ point ∈ smaller, via ∈ Set.uIcc nearest point) :
    IsNearestIn smaller target via where
  mem := member
  le := by
    intro point inside
    calc |via - target| ≤ max |nearest - target| |point - target| :=
          abs_sub_le_max (between point inside)
      _ = |point - target| := max_eq_right (near.le point (subset inside))

end IsNearestIn

end Group

/-! ## Bounds that may be absent -/

section Clamp

variable {α : Type*} [LinearOrder α]

/-- The points between the bounds that are there. -/
def between (lower upper : Option α) : Set α :=
  {point | (∀ bound ∈ lower, bound ≤ point) ∧ ∀ bound ∈ upper, point ≤ bound}

theorem mem_between {lower upper : Option α} {point : α} :
    point ∈ between lower upper ↔
      (∀ bound ∈ lower, bound ≤ point) ∧ ∀ bound ∈ upper, point ≤ bound :=
  Iff.rfl

def raiseTo (lower : Option α) (target : α) : α :=
  match lower with
  | none => target
  | some bound => max target bound

def lowerTo (upper : Option α) (target : α) : α :=
  match upper with
  | none => target
  | some bound => min target bound

/-- Raise a target to the lower bound, then lower it to the upper one. -/
def clampBetween (lower upper : Option α) (target : α) : α :=
  lowerTo upper (raiseTo lower target)

theorem clampBetween_mem {lower upper : Option α} {target : α}
    (ordered : ∀ low ∈ lower, ∀ high ∈ upper, low ≤ high) :
    clampBetween lower upper target ∈ between lower upper := by
  cases lower with
  | none =>
      cases upper with
      | none => simp [mem_between]
      | some high => simp [mem_between, clampBetween, lowerTo]
  | some low =>
      cases upper with
      | none => simp [mem_between, clampBetween, lowerTo, raiseTo]
      | some high =>
          simpa [mem_between, clampBetween, lowerTo, raiseTo] using ordered low rfl high rfl

theorem raiseTo_mem_uIcc {lower : Option α} {target point : α}
    (above : ∀ bound ∈ lower, bound ≤ point) : raiseTo lower target ∈ Set.uIcc target point := by
  cases lower with
  | none => exact Set.left_mem_uIcc
  | some low =>
      rcases le_total low target with under | beyond
      · simp [raiseTo, under]
      · simp only [raiseTo, max_eq_right beyond]
        exact Set.mem_uIcc.mpr (Or.inl ⟨beyond, above low rfl⟩)

theorem lowerTo_mem_uIcc {upper : Option α} {target point : α}
    (below : ∀ bound ∈ upper, point ≤ bound) : lowerTo upper target ∈ Set.uIcc target point := by
  cases upper with
  | none => exact Set.left_mem_uIcc
  | some high =>
      rcases le_total target high with under | beyond
      · simp [lowerTo, under]
      · simp only [lowerTo, min_eq_right beyond]
        exact Set.mem_uIcc.mpr (Or.inr ⟨below high rfl, beyond⟩)

/-- Clamping moves towards every point between the bounds. -/
theorem clampBetween_mem_uIcc {lower upper : Option α} {point : α} (target : α)
    (inside : point ∈ between lower upper) :
    clampBetween lower upper target ∈ Set.uIcc target point :=
  Set.uIcc_subset_uIcc_right (raiseTo_mem_uIcc inside.1) (lowerTo_mem_uIcc inside.2)

theorem clampBetween_of_mem {lower upper : Option α} {target : α}
    (member : target ∈ between lower upper) : clampBetween lower upper target = target := by
  have moved := clampBetween_mem_uIcc target member
  rwa [Set.uIcc_self, Set.mem_singleton_iff] at moved

end Clamp

section ClampNearest

variable {α : Type*} [AddCommGroup α] [LinearOrder α] [IsOrderedAddMonoid α]
  {lower upper : Option α} {points : Set α} {target nearest : α}

/-- Clamping first does not change what is nearest between the bounds. -/
theorem IsNearestIn.of_clampBetween (inside : points ⊆ between lower upper)
    (near : IsNearestIn points (clampBetween lower upper target) nearest) :
    IsNearestIn points target nearest :=
  near.of_between _ (fun _ member => clampBetween_mem_uIcc target (inside member))

theorem isNearestIn_clampBetween (ordered : ∀ low ∈ lower, ∀ high ∈ upper, low ≤ high) :
    IsNearestIn (between lower upper) target (clampBetween lower upper target) :=
  IsNearestIn.of_clampBetween subset_rfl (IsNearestIn.self (clampBetween_mem ordered))

end ClampNearest

/-! ## Grids -/

section Grid

variable {k : Type*} [Field k] [LinearOrder k] [IsStrictOrderedRing k]

/-- Scaling and shifting the points scales the distances. -/
theorem IsNearestIn.affine {points : Set k} {origin step target nearest : k} (positive : 0 < step)
    (near : IsNearestIn points ((target - origin) / step) nearest) :
    IsNearestIn ((fun point => origin + point * step) '' points) target
      (origin + nearest * step) where
  mem := Set.mem_image_of_mem _ near.mem
  le := by
    have scaled : ∀ point : k, |origin + point * step - target| =
        |point - (target - origin) / step| * step := by
      intro point
      have factored : origin + point * step - target =
          (point - (target - origin) / step) * step := by
        field_simp
        ring
      rw [factored, abs_mul, abs_of_pos positive]
    rintro moved ⟨point, member, rfl⟩
    rw [scaled, scaled]
    exact mul_le_mul_of_nonneg_right (near.le point member) positive.le

variable [FloorRing k]

/-- Rounding half up picks a nearest integer. -/
theorem isNearestIn_floor_add_half (target : k) :
    IsNearestIn (Set.range (Int.cast : ℤ → k)) target ⌊target + 1 / 2⌋ where
  mem := Set.mem_range_self _
  le := by
    rintro point ⟨integer, rfl⟩
    have lower := Int.floor_le (target + 1 / 2)
    have upper := Int.lt_floor_add_one (target + 1 / 2)
    rcases lt_trichotomy integer ⌊target + 1 / 2⌋ with below | same | above
    · have gap : (integer : k) + 1 ≤ ⌊target + 1 / 2⌋ := by exact_mod_cast below
      refine le_trans (abs_le.mpr ⟨?_, ?_⟩) (neg_le_abs ((integer : k) - target))
      · linarith
      · linarith
    · rw [same]
    · have gap : (⌊target + 1 / 2⌋ : k) + 1 ≤ integer := by exact_mod_cast above
      refine le_trans (abs_le.mpr ⟨?_, ?_⟩) (le_abs_self ((integer : k) - target))
      · linarith
      · linarith

/-- The nearest integer, clamped, is nearest among the integers between the bounds. -/
theorem isNearestIn_clampBetween_floor {lower upper : Option ℤ} (target : k)
    (ordered : ∀ low ∈ lower, ∀ high ∈ upper, low ≤ high) :
    IsNearestIn (Int.cast '' between lower upper) target
      (clampBetween lower upper ⌊target + 1 / 2⌋ : ℤ) := by
  refine (isNearestIn_floor_add_half target).restrict (Set.image_subset_range _ _)
    (Set.mem_image_of_mem _ (clampBetween_mem ordered)) ?_
  rintro point ⟨integer, inside, rfl⟩
  have moved := clampBetween_mem_uIcc ⌊target + 1 / 2⌋ inside
  rcases Set.mem_uIcc.mp moved with ⟨above, below⟩ | ⟨above, below⟩
  · exact Set.mem_uIcc.mpr (Or.inl ⟨by exact_mod_cast above, by exact_mod_cast below⟩)
  · exact Set.mem_uIcc.mpr (Or.inr ⟨by exact_mod_cast above, by exact_mod_cast below⟩)

end Grid
end Foundation
end Synesthesia
