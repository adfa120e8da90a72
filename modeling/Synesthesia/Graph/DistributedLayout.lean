import Synesthesia.Graph.TidyLayout

namespace Synesthesia
namespace Graph

open Foundation Contracts

/-!
# Distributed layouts

`distribute_boxes` of `graph/layout.py` walks along the boxes with a cursor and
leaves one gap behind each of them.  The two axes differ in the coordinates
alone.
-/

inductive DistributionAxis where
  | horizontal
  | vertical
deriving DecidableEq

namespace LayoutBox

def start : DistributionAxis → LayoutBox → ℚ
  | .horizontal, box => box.x
  | .vertical, box => box.y

def extent : DistributionAxis → LayoutBox → ℚ
  | .horizontal, box => box.width
  | .vertical, box => box.height

/-- `right` or `bottom`. -/
def finish (axis : DistributionAxis) (box : LayoutBox) : ℚ := box.start axis + box.extent axis

/-- The box with another start on the axis. -/
def startAt : DistributionAxis → ℚ → LayoutBox → LayoutBox
  | .horizontal, place, box => { box with x := place }
  | .vertical, place, box => { box with y := place }

def position (box : LayoutBox) : ℚ × ℚ := (box.x, box.y)

def moveTo (box : LayoutBox) (position : ℚ × ℚ) : LayoutBox :=
  { box with x := position.1, y := position.2 }

end LayoutBox

/-- The order of the boxes on an axis. -/
def axisRank (axis : DistributionAxis) (box : LayoutBox) : ℚ ×ₗ ℕ :=
  toLex (box.start axis, box.nodeId)

/-- The loop with its cursor. -/
def placeAlong (axis : DistributionAxis) (gap : ℚ) : ℚ → List LayoutBox → List (UUID × ℚ × ℚ)
  | _, [] => []
  | cursor, box :: rest =>
      (box.nodeId, (box.startAt axis cursor).position) ::
        placeAlong axis gap (cursor + (box.extent axis + gap)) rest

def startOf (axis : DistributionAxis) (ordered : List LayoutBox) : ℚ :=
  (ordered.head?.map (LayoutBox.start axis)).getD 0

/-- What is left between the ends when the boxes are taken off, for each gap. -/
def commonGap (axis : DistributionAxis) (ordered : List LayoutBox) : ℚ :=
  let finish := (ordered.getLast?.map (LayoutBox.finish axis)).getD 0
  (finish - startOf axis ordered - (ordered.map (LayoutBox.extent axis)).sum) /
    (ordered.length - 1)

def distributeBoxes (boxes : List LayoutBox) (axis : DistributionAxis) :
    Except PyError (Dict UUID (ℚ × ℚ)) :=
  if boxes.length < 3 then
    .error (.valueError "Distribution requires at least three nodes")
  else
    let ordered := sortByKey (axisRank axis) boxes
    .ok (Dict.ofEntries (placeAlong axis (commonGap axis ordered) (startOf axis ordered) ordered))

/-- The boxes at their new places. -/
def moveBoxes (places : Dict UUID (ℚ × ℚ)) (boxes : List LayoutBox) : List LayoutBox :=
  boxes.map (fun box => box.moveTo ((places.get? box.nodeId).getD box.position))

/-! ## The boxes after the loop -/

section Spread

variable {axis : DistributionAxis} {gap : ℚ}

/-- The boxes where the loop puts them. -/
def spread (axis : DistributionAxis) (gap : ℚ) : ℚ → List LayoutBox → List LayoutBox
  | _, [] => []
  | cursor, box :: rest =>
      box.startAt axis cursor :: spread axis gap (cursor + (box.extent axis + gap)) rest

@[simp] theorem start_startAt (place : ℚ) (box : LayoutBox) :
    (box.startAt axis place).start axis = place := by
  cases axis <;> rfl

@[simp] theorem extent_startAt (place : ℚ) (box : LayoutBox) :
    (box.startAt axis place).extent axis = box.extent axis := by
  cases axis <;> rfl

@[simp] theorem nodeId_startAt (place : ℚ) (box : LayoutBox) :
    (box.startAt axis place).nodeId = box.nodeId := by
  cases axis <;> rfl

theorem startAt_startAt (place other : ℚ) (box : LayoutBox) :
    (box.startAt axis other).startAt axis place = box.startAt axis place := by
  cases axis <;> rfl

theorem moveTo_position_startAt (place : ℚ) (box : LayoutBox) :
    box.moveTo (box.startAt axis place).position = box.startAt axis place := by
  cases axis <;> rfl

theorem map_fst_placeAlong (cursor : ℚ) (boxes : List LayoutBox) :
    (placeAlong axis gap cursor boxes).map Prod.fst = identifiers boxes := by
  induction boxes generalizing cursor with
  | nil => rfl
  | cons box rest ih =>
      rw [placeAlong, List.map_cons, ih]
      rfl

/-- What no start changes, the loop does not change. -/
theorem map_spread {Value : Type*} {read : LayoutBox → Value}
    (kept : ∀ place box, read (box.startAt axis place) = read box) (cursor : ℚ)
    (boxes : List LayoutBox) : (spread axis gap cursor boxes).map read = boxes.map read := by
  induction boxes generalizing cursor with
  | nil => rfl
  | cons box rest ih =>
      rw [spread, List.map_cons, ih, kept, List.map_cons]

/-- The loop does with the moved boxes what it did with the boxes. -/
theorem placeAlong_spread (cursor : ℚ) (boxes : List LayoutBox) :
    placeAlong axis gap cursor (spread axis gap cursor boxes) =
      placeAlong axis gap cursor boxes := by
  induction boxes generalizing cursor with
  | nil => rfl
  | cons box rest ih =>
      rw [spread, placeAlong, placeAlong, extent_startAt, ih, nodeId_startAt,
        startAt_startAt]

/-- The last box ends behind all boxes and the gaps between them. -/
theorem finish_spread (cursor : ℚ) (boxes : List LayoutBox) {last : LayoutBox}
    (isLast : (spread axis gap cursor boxes).getLast? = some last) :
    last.finish axis =
      cursor + (boxes.map (LayoutBox.extent axis)).sum + gap * (boxes.length - 1) := by
  induction boxes generalizing cursor with
  | nil => cases isLast
  | cons box rest ih =>
      rw [List.map_cons, List.sum_cons, List.length_cons]
      cases rest with
      | nil =>
          have same : box.startAt axis cursor = last := Option.some.inj isLast
          rw [← same, LayoutBox.finish, start_startAt, extent_startAt]
          simp
      | cons next rest =>
          rw [spread, spread, List.getLast?_cons_cons, ← spread] at isLast
          rw [ih _ isLast]
          push_cast
          ring

/-- Boxes that never step back stay in their order. -/
theorem spread_sorted (cursor : ℚ) {boxes : List LayoutBox}
    (forward : ∀ box ∈ boxes, 0 < box.extent axis + gap) :
    (∀ box ∈ spread axis gap cursor boxes, cursor ≤ box.start axis) ∧
      (spread axis gap cursor boxes).Pairwise (KeyLE (axisRank axis)) := by
  induction boxes generalizing cursor with
  | nil => exact ⟨fun _ member => absurd member List.not_mem_nil, .nil⟩
  | cons box rest ih =>
      rw [List.forall_mem_cons] at forward
      rcases ih (cursor + (box.extent axis + gap)) forward.2 with
        ⟨behind, sorted⟩
      have ahead : ∀ later ∈ spread axis gap (cursor + (box.extent axis + gap)) rest,
          cursor < later.start axis := by
        intro later member
        linarith [behind later member, forward.1]
      refine ⟨?_, List.pairwise_cons.mpr ⟨?_, sorted⟩⟩
      · rw [spread, List.forall_mem_cons, start_startAt]
        exact ⟨le_rfl, fun later member => (ahead later member).le⟩
      · intro later member
        refine (Prod.Lex.toLex_lt_toLex.mpr (Or.inl ?_)).le
        rw [start_startAt]
        exact ahead later member

/-- Moving the boxes to the places of the loop spreads them. -/
theorem moveBoxes_placeAlong {boxes : List LayoutBox} (distinct : (identifiers boxes).Nodup)
    (cursor : ℚ) :
    moveBoxes (Dict.ofEntries (placeAlong axis gap cursor boxes)) boxes =
      spread axis gap cursor boxes := by
  have found : ∀ entry ∈ placeAlong axis gap cursor boxes,
      (Dict.ofEntries (placeAlong axis gap cursor boxes)).get? entry.1 = some entry.2 := by
    intro entry member
    apply Dict.get?_of_mem
    rw [Dict.ofEntries_entries ((map_fst_placeAlong cursor boxes).symm ▸ distinct)]
    exact member
  generalize Dict.ofEntries (placeAlong axis gap cursor boxes) = places at found
  clear distinct
  induction boxes generalizing cursor with
  | nil => rfl
  | cons box rest ih =>
      rw [placeAlong, List.forall_mem_cons] at found
      have later := ih (cursor + (box.extent axis + gap)) found.2
      rw [moveBoxes] at later ⊢
      rw [List.map_cons, later, found.1, Option.getD_some, moveTo_position_startAt, spread]

end Spread

/-! ## The whole distribution -/

/-- The boxes keep what is across the axis, a common gap lies between neighbours,
and the first box starts and the last one ends where it did. -/
structure Distributed (axis : DistributionAxis) (gap : ℚ) (ordered moved : List LayoutBox) :
    Prop where
  across : List.Forall₂ (fun box other => other = box.startAt axis (other.start axis))
    ordered moved
  gaps : moved.IsChain (fun box next => next.start axis = box.finish axis + gap)
  first : moved.head?.map (LayoutBox.start axis) = ordered.head?.map (LayoutBox.start axis)
  last : moved.getLast?.map (LayoutBox.finish axis) = ordered.getLast?.map (LayoutBox.finish axis)

section Distribution

variable {axis : DistributionAxis} {gap : ℚ}

theorem spread_across (cursor : ℚ) (boxes : List LayoutBox) :
    List.Forall₂ (fun box other => other = box.startAt axis (other.start axis)) boxes
      (spread axis gap cursor boxes) := by
  induction boxes generalizing cursor with
  | nil => exact .nil
  | cons box rest ih =>
      exact .cons (by rw [start_startAt]) (ih _)

theorem spread_gaps (cursor : ℚ) (boxes : List LayoutBox) :
    (spread axis gap cursor boxes).IsChain
      (fun box next => next.start axis = box.finish axis + gap) := by
  induction boxes generalizing cursor with
  | nil => exact .nil
  | cons box rest ih =>
      have later := ih (cursor + (box.extent axis + gap))
      cases rest with
      | nil => exact .singleton _
      | cons next rest =>
          refine .cons_cons ?_ later
          rw [start_startAt, LayoutBox.finish, start_startAt, extent_startAt, add_assoc]

theorem head?_spread (boxes : List LayoutBox) :
    (spread axis gap (startOf axis boxes) boxes).head?.map (LayoutBox.start axis) =
      boxes.head?.map (LayoutBox.start axis) := by
  cases boxes with
  | nil => rfl
  | cons box rest => exact congrArg some (start_startAt _ _)

theorem startOf_spread (boxes : List LayoutBox) :
    startOf axis (spread axis gap (startOf axis boxes) boxes) = startOf axis boxes :=
  congrArg (fun start => start.getD 0) (head?_spread boxes)

theorem length_spread (cursor : ℚ) (boxes : List LayoutBox) :
    (spread axis gap cursor boxes).length = boxes.length :=
  (spread_across cursor boxes).length_eq.symm

/-- With the common gap the last box ends where it did. -/
theorem getLast?_spread {boxes : List LayoutBox} (several : 2 ≤ boxes.length) :
    (spread axis (commonGap axis boxes) (startOf axis boxes) boxes).getLast?.map
        (LayoutBox.finish axis) = boxes.getLast?.map (LayoutBox.finish axis) := by
  have gaps : (boxes.length : ℚ) - 1 ≠ 0 := by
    have more : (2 : ℚ) ≤ boxes.length := Nat.ofNat_le_cast.mpr several
    linarith
  have nonempty : boxes ≠ [] := List.ne_nil_of_length_pos (by omega)
  have movedNonempty : spread axis (commonGap axis boxes) (startOf axis boxes) boxes ≠ [] := by
    apply List.ne_nil_of_length_pos
    rw [length_spread]
    omega
  have isLast := List.getLast?_eq_some_getLast movedNonempty
  rw [isLast, Option.map_some, finish_spread _ boxes isLast, commonGap, div_mul_cancel₀ _ gaps,
    List.getLast?_eq_some_getLast nonempty, Option.map_some, Option.getD_some]
  congr 1
  ring

/-- The moved boxes have the same common gap. -/
theorem commonGap_spread {boxes : List LayoutBox} (several : 2 ≤ boxes.length) :
    commonGap axis (spread axis (commonGap axis boxes) (startOf axis boxes) boxes) =
      commonGap axis boxes := by
  conv_lhs => rw [commonGap]
  rw [startOf_spread, getLast?_spread several, map_spread extent_startAt, length_spread]
  rfl

/-- Moved boxes that never step back are sorted as they were. -/
theorem sortByKey_moved {boxes ordered : List LayoutBox} (same : ordered.Perm boxes)
    (distinct : (identifiers ordered).Nodup) {places : Dict UUID (ℚ × ℚ)} {cursor : ℚ}
    (moved : moveBoxes places ordered = spread axis gap cursor ordered)
    (forward : ∀ box ∈ ordered, 0 < box.extent axis + gap) :
    sortByKey (axisRank axis) (moveBoxes places boxes) = spread axis gap cursor ordered := by
  have movedSame : (spread axis gap cursor ordered).Perm (moveBoxes places boxes) := by
    rw [← moved]
    exact same.map _
  have apart : (identifiers (spread axis gap cursor ordered)).Nodup := by
    rw [identifiers, map_spread nodeId_startAt]
    exact distinct
  rw [← sortByKey_eq_of_perm movedSame]
  · exact sortByKey_of_pairwise (spread_sorted cursor forward).2
  · intro left isLeft right isRight equal
    exact List.inj_on_of_nodup_map apart isLeft isRight
      (congrArg (fun rank => (ofLex rank).2) equal)

/-- For all boxes with distinct nodes, three or more: the distribution returns a
place for every node and distributes the boxes; and unless a box would step back
behind its neighbour, distributing the moved boxes again changes nothing. -/
theorem distributeBoxes_spec {boxes : List LayoutBox} (enough : 3 ≤ boxes.length)
    (distinct : (identifiers boxes).Nodup) (axis : DistributionAxis) :
    ∃ places, distributeBoxes boxes axis = .ok places ∧
      places.keys = identifiers (sortByKey (axisRank axis) boxes) ∧
      Distributed axis (commonGap axis (sortByKey (axisRank axis) boxes))
        (sortByKey (axisRank axis) boxes)
        (moveBoxes places (sortByKey (axisRank axis) boxes)) ∧
      ((∀ box ∈ boxes,
          0 < box.extent axis + commonGap axis (sortByKey (axisRank axis) boxes)) →
        distributeBoxes (moveBoxes places boxes) axis = .ok places) := by
  have sorted := sortByKey_perm (axisRank axis) boxes
  have returned : distributeBoxes boxes axis = _ := if_neg (not_lt.mpr enough)
  dsimp only at returned
  have orderedDistinct : (identifiers (sortByKey (axisRank axis) boxes)).Nodup :=
    (sorted.map LayoutBox.nodeId).nodup_iff.mpr distinct
  have several : 2 ≤ (sortByKey (axisRank axis) boxes).length := by
    rw [sorted.length_eq]
    omega
  generalize sortByKey (axisRank axis) boxes = ordered at *
  have moved : _ = spread axis (commonGap axis ordered) (startOf axis ordered) ordered :=
    moveBoxes_placeAlong orderedDistinct _
  refine ⟨_, returned, ?_, ?_, ?_⟩
  · rw [Dict.keys, Dict.ofEntries_entries ((map_fst_placeAlong _ _).symm ▸ orderedDistinct),
      map_fst_placeAlong]
  · rw [moved]
    exact ⟨spread_across _ _, spread_gaps _ _, head?_spread _, getLast?_spread several⟩
  · intro forward
    have again := sortByKey_moved sorted orderedDistinct moved
      (fun box member => forward box (sorted.mem_iff.mp member))
    refine (if_neg ?_).trans ?_
    · rw [moveBoxes, List.length_map]
      exact not_lt.mpr enough
    · dsimp only
      rw [again, commonGap_spread several, startOf_spread, placeAlong_spread]

end Distribution

def rowOfBoxes : List LayoutBox := [⟨2, 20, 0, 30, 10⟩, ⟨1, 0, 0, 10, 10⟩, ⟨3, 90, 5, 10, 10⟩]

theorem distributeBoxes_spec_rowOfBoxes :
    ∃ places, distributeBoxes rowOfBoxes .horizontal = .ok places ∧
      distributeBoxes (moveBoxes places rowOfBoxes) .horizontal = .ok places := by
  have enough : 3 ≤ rowOfBoxes.length := by decide
  have distinct : (identifiers rowOfBoxes).Nodup := by decide
  have forward : ∀ box ∈ rowOfBoxes, 0 < box.extent .horizontal +
      commonGap .horizontal (sortByKey (axisRank .horizontal) rowOfBoxes) := by decide +kernel
  rcases distributeBoxes_spec enough distinct .horizontal with ⟨places, returned, _, _, again⟩
  exact ⟨places, returned, again forward⟩

end Graph
end Synesthesia
