import Synesthesia.Foundation.Exceptions
import Synesthesia.Foundation.Floats
import Synesthesia.Foundation.LongestPath
import Synesthesia.Graph.Compiler

namespace Synesthesia
namespace Graph

open Foundation Contracts

/-!
# The tidy layout

`tidy_boxes` of `graph/layout.py` puts the boxes of selected nodes into
columns, each box into the column of the longest path to it.  Every sum and
product of coordinates passes through `rounding`, which is `PyFloat.nearest` for
the doubles of the source.  The sets of the source are lists without
repetitions; every iteration over one of them is sorted.
-/

structure LayoutBox where
  nodeId : UUID
  x : ℚ
  y : ℚ
  width : ℚ
  height : ℚ
deriving DecidableEq

/-! ## The selected subgraph -/

/-- The sets `outgoing`, as pairs, and the dictionary `indegree`. -/
structure Wiring where
  outgoing : List (UUID × UUID)
  indegree : UUID → Nat

def Wiring.empty : Wiring := ⟨[], fun _ => 0⟩

/-- One pass of the loop over the connections. -/
def wire (selected : List UUID) (wiring : Wiring) (connection : ConnectionModel) : Wiring :=
  let source := connection.sourceNodeId
  let destination := connection.destinationNodeId
  if source ∉ selected ∨ destination ∉ selected ∨ (source, destination) ∈ wiring.outgoing then
    wiring
  else
    ⟨wiring.outgoing ++ [(source, destination)],
      Function.update wiring.indegree destination (wiring.indegree destination + 1)⟩

/-! ## The sweep -/

/-- The dictionaries and lists of the sweep. -/
structure Sweep where
  levels : UUID → Nat
  indegree : UUID → Nat
  ready : List UUID
  visited : List UUID

/-- What a visit does with one destination of the node. -/
def relax (node : UUID) (sweep : Sweep) (destination : UUID) : Sweep :=
  let indegree := Function.update sweep.indegree destination (sweep.indegree destination - 1)
  {
    levels := Function.update sweep.levels destination
      (max (sweep.levels destination) (sweep.levels node + 1))
    indegree := indegree
    ready := if indegree destination = 0 then sortByKey id (sweep.ready ++ [destination])
      else sweep.ready
    visited := sweep.visited
  }

/-- Visit the first ready node. -/
def visit (outgoing : List (UUID × UUID)) (sweep : Sweep) (node : UUID) (ready : List UUID) :
    Sweep :=
  (successors outgoing node).foldl (relax node)
    { sweep with ready := ready, visited := sweep.visited ++ [node] }

/-- The `while` loop, with as many visits as the first argument allows. -/
def sweepReady (outgoing : List (UUID × UUID)) : Nat → Sweep → Sweep
  | 0, sweep => sweep
  | fuel + 1, sweep =>
      match sweep.ready with
      | [] => sweep
      | node :: ready => sweepReady outgoing fuel (visit outgoing sweep node ready)

def Sweep.initial (selected : List UUID) (wiring : Wiring) : Sweep where
  levels := fun _ => 0
  indegree := wiring.indegree
  ready := sortByKey id (selected.filter (fun node => decide (wiring.indegree node = 0)))
  visited := []

/-! ## Columns -/

/-- The order of the boxes of a column. -/
def boxRank (box : LayoutBox) : ℚ ×ₗ ℚ ×ₗ ℕ := toLex (box.y, toLex (box.x, box.nodeId))

section Placing

variable (rounding : ℚ → ℚ)

/-- The boxes of a column, one below the other. -/
def placeLayer (x verticalGap : ℚ) : ℚ → List LayoutBox → List (UUID × ℚ × ℚ)
  | _, [] => []
  | cursorY, box :: rest => (box.nodeId, x, cursorY) ::
      placeLayer x verticalGap (rounding (cursorY + rounding (box.height + verticalGap))) rest

def layer (boxes : List LayoutBox) (levels : UUID → Nat) (level : Nat) : List LayoutBox :=
  sortByKey boxRank (boxes.filter (fun box => decide (levels box.nodeId = level)))

/-- The abscissa of a column. -/
def columnX (originX columnWidth : ℚ) (level : Nat) : ℚ :=
  rounding (originX + rounding (level * columnWidth))

/-- The places of all boxes, column by column. -/
def placeLayers (boxes : List LayoutBox) (levels : UUID → Nat)
    (originX originY columnWidth verticalGap : ℚ) (columns : Nat) : List (UUID × ℚ × ℚ) :=
  (List.range columns).flatMap (fun level : Nat =>
    placeLayer rounding (columnX rounding originX columnWidth level) verticalGap originY
      (layer boxes levels level))

def tidyBoxes (boxes : List LayoutBox) (connections : List ConnectionModel)
    (horizontalGap verticalGap : ℚ) : Except PyError (Dict UUID (ℚ × ℚ)) :=
  if boxes.length < 2 then
    .error (.valueError "Tidy selection requires at least two nodes")
  else
    let byId := Dict.ofEntries (boxes.map (fun box => (box.nodeId, box)))
    let selected := byId.keys
    let wiring := connections.foldl (wire selected) Wiring.empty
    let swept := sweepReady wiring.outgoing selected.length (Sweep.initial selected wiring)
    if swept.visited.length ≠ selected.length then
      .error (.valueError "Tidy selection requires an acyclic selected subgraph")
    else
      let originX := (boxes.map LayoutBox.x).min?.getD 0
      let originY := (boxes.map LayoutBox.y).min?.getD 0
      let maximumWidth := (boxes.map LayoutBox.width).max?.getD 0
      let columns := (selected.map swept.levels).max?.getD 0 + 1
      .ok (Dict.ofEntries (placeLayers rounding (byId.entries.map Prod.snd) swept.levels originX
        originY (rounding (maximumWidth + horizontalGap)) verticalGap columns))

end Placing

/-! ## What is connected -/

section Wiring

variable {selected : List UUID}

/-- The connections between selected nodes. -/
def Internal (selected : List UUID) (connections : List ConnectionModel)
    (source destination : UUID) : Prop :=
  (source ∈ selected ∧ destination ∈ selected) ∧ ∃ connection ∈ connections,
    connection.sourceNodeId = source ∧ connection.destinationNodeId = destination

/-- The wiring holds the connections so far, each pair once and counted. -/
structure Wired (selected : List UUID) (connections : List ConnectionModel) (wiring : Wiring) :
    Prop where
  nodup : wiring.outgoing.Nodup
  mem_iff : ∀ source destination, (source, destination) ∈ wiring.outgoing ↔
    Internal selected connections source destination
  counted : ∀ node, wiring.indegree node = incomingCount wiring.outgoing node

theorem internal_append {connections : List ConnectionModel} {connection : ConnectionModel}
    {source destination : UUID} :
    Internal selected (connections ++ [connection]) source destination ↔
      Internal selected connections source destination ∨
        (source ∈ selected ∧ destination ∈ selected) ∧ connection.sourceNodeId = source ∧
          connection.destinationNodeId = destination := by
  simp only [Internal, List.mem_append, List.mem_singleton, or_and_right, exists_or,
    exists_eq_left, and_or_left]

theorem Wired.wire {connections : List ConnectionModel} {wiring : Wiring}
    (wired : Wired selected connections wiring) (connection : ConnectionModel) :
    Wired selected (connections ++ [connection]) (wire selected wiring connection) := by
  rw [Graph.wire]
  by_cases skipped : connection.sourceNodeId ∉ selected ∨ connection.destinationNodeId ∉ selected ∨
      (connection.sourceNodeId, connection.destinationNodeId) ∈ wiring.outgoing
  · rw [if_pos skipped]
    refine ⟨wired.nodup, fun source destination => ?_, wired.counted⟩
    rw [wired.mem_iff, internal_append]
    refine ⟨Or.inl, ?_⟩
    rintro (before | ⟨⟨isSource, isDestination⟩, rfl, rfl⟩)
    · exact before
    · rcases skipped with outside | outside | present
      · exact absurd isSource outside
      · exact absurd isDestination outside
      · exact (wired.mem_iff _ _).mp present
  · rw [if_neg skipped]
    push Not at skipped
    rcases skipped with ⟨isSource, isDestination, fresh⟩
    refine ⟨?_, fun source destination => ?_, fun node => ?_⟩
    · exact List.nodup_append.mpr ⟨wired.nodup, List.nodup_singleton _,
        fun old isOld new isNew same => fresh (List.mem_singleton.mp isNew ▸ same ▸ isOld)⟩
    · rw [List.mem_append, List.mem_singleton, wired.mem_iff, internal_append, Prod.mk.injEq]
      apply or_congr_right
      constructor
      · rintro ⟨rfl, rfl⟩
        exact ⟨⟨isSource, isDestination⟩, rfl, rfl⟩
      · rintro ⟨_, rfl, rfl⟩
        exact ⟨rfl, rfl⟩
    · dsimp only
      rw [incomingCount, List.filter_append, List.length_append, List.filter_singleton]
      by_cases here : node = connection.destinationNodeId
      · subst here
        rw [Function.update_self, wired.counted, incomingCount]
        simp
      · rw [Function.update_of_ne here, wired.counted, incomingCount]
        simp [Ne.symm here]

theorem wired_foldl (selected : List UUID) (connections : List ConnectionModel) :
    Wired selected connections (connections.foldl (wire selected) Wiring.empty) := by
  induction connections using List.reverseRecOn with
  | nil =>
      refine ⟨List.nodup_nil, fun source destination => ?_, fun node => rfl⟩
      constructor
      · intro impossible
        cases impossible
      · rintro ⟨_, _, impossible, _⟩
        cases impossible
  | append_singleton connections connection ih =>
      rw [List.foldl_append]
      exact ih.wire connection

end Wiring

/-! ## The sweep as a topological sort with levels -/

section Sweep

variable {outgoing : List (UUID × UUID)} {node : UUID}

/-- Counts and ready nodes are those of the library's sort. -/
theorem foldl_relax_release (node : UUID) (destinations : List UUID) (sweep : Sweep) :
    (destinations.foldl (relax node) sweep).indegree =
        (release destinations sweep.indegree sweep.ready).1 ∧
      (destinations.foldl (relax node) sweep).ready =
        (release destinations sweep.indegree sweep.ready).2 ∧
      (destinations.foldl (relax node) sweep).visited = sweep.visited := by
  induction destinations generalizing sweep with
  | nil => exact ⟨rfl, rfl, rfl⟩
  | cons destination rest ih =>
      rw [List.foldl_cons, release]
      exact ih (relax node sweep destination)

/-- The levels of the destinations are raised above the node. -/
theorem foldl_relax_levels {destinations : List UUID} (distinct : destinations.Nodup)
    (noLoop : node ∉ destinations) (sweep : Sweep) (other : UUID) :
    (destinations.foldl (relax node) sweep).levels other =
      if other ∈ destinations then max (sweep.levels other) (sweep.levels node + 1)
      else sweep.levels other := by
  induction destinations generalizing sweep with
  | nil => simp
  | cons destination rest ih =>
      rcases List.nodup_cons.mp distinct with ⟨fresh, restDistinct⟩
      rw [List.mem_cons, not_or] at noLoop
      have level : (relax node sweep destination).levels node = sweep.levels node :=
        Function.update_of_ne noLoop.1 _ _
      rw [List.foldl_cons, ih restDistinct noLoop.2, level]
      by_cases here : other = destination
      · subst here
        rw [if_neg fresh, if_pos List.mem_cons_self]
        exact Function.update_self _ _ _
      · have same : (relax node sweep destination).levels other = sweep.levels other :=
          Function.update_of_ne here _ _
        rw [same]
        simp only [List.mem_cons, here, false_or]

/-- The invariant of the sweep: a topological sort, with levels. -/
structure Swept (selected : List UUID) (outgoing : List (UUID × UUID)) (sweep : Sweep) : Prop where
  sorted : Visited selected outgoing sweep.indegree sweep.ready sweep.visited
  layered : Layered (fun earlier later => (earlier, later) ∈ outgoing) sweep.levels sweep.visited

theorem Swept.visit {selected : List UUID} (distinct : outgoing.Nodup)
    (inside : ∀ edge ∈ outgoing, edge.2 ∈ selected) {sweep : Sweep} {ready : List UUID}
    (swept : Swept selected outgoing sweep) (isReady : sweep.ready = node :: ready) :
    Swept selected outgoing (visit outgoing sweep node ready) := by
  have sorted := swept.sorted
  rw [isReady] at sorted
  have settled : ∀ visited ∈ sweep.visited ++ [node], (node, visited) ∉ outgoing :=
    fun _ member => sorted.not_edge member
  have noLoop : node ∉ successors outgoing node := by
    rw [mem_successors]
    exact settled node (List.mem_append_right _ (List.mem_singleton_self node))
  rcases foldl_relax_release node (successors outgoing node)
    { sweep with ready := ready, visited := sweep.visited ++ [node] } with
    ⟨indegree, isReleased, visited⟩
  have levels := foldl_relax_levels (nodup_successors distinct node) noLoop
    { sweep with ready := ready, visited := sweep.visited ++ [node] }
  refine ⟨?_, ?_⟩
  · rw [Graph.visit, indegree, isReleased, visited]
    exact sorted.next distinct inside
  · rw [Graph.visit, visited]
    apply swept.layered.visit settled
    · intro other next
      rw [levels other, if_pos (mem_successors.mpr next)]
    · intro other apart
      rw [levels other, if_neg (mem_successors.not.mpr apart)]

theorem Swept.sweepReady {selected : List UUID} (distinct : outgoing.Nodup)
    (inside : ∀ edge ∈ outgoing, edge.2 ∈ selected) (fuel : Nat) {sweep : Sweep}
    (swept : Swept selected outgoing sweep) :
    Swept selected outgoing (sweepReady outgoing fuel sweep) := by
  induction fuel generalizing sweep with
  | zero => exact swept
  | succ fuel ih =>
      rw [Graph.sweepReady]
      cases isReady : sweep.ready with
      | nil => exact swept
      | cons node ready => exact ih (swept.visit distinct inside isReady)

/-- The sweep visits nodes as the library's sort does. -/
theorem sweepReady_visitReady (outgoing : List (UUID × UUID)) (fuel : Nat) (sweep : Sweep) :
    (sweepReady outgoing fuel sweep).indegree =
        (visitReady outgoing fuel sweep.indegree sweep.ready sweep.visited).1 ∧
      (sweepReady outgoing fuel sweep).ready =
        (visitReady outgoing fuel sweep.indegree sweep.ready sweep.visited).2.1 ∧
      (sweepReady outgoing fuel sweep).visited =
        (visitReady outgoing fuel sweep.indegree sweep.ready sweep.visited).2.2 := by
  induction fuel generalizing sweep with
  | zero => exact ⟨rfl, rfl, rfl⟩
  | succ fuel ih =>
      rw [sweepReady]
      cases isReady : sweep.ready with
      | nil => exact ⟨rfl, isReady, rfl⟩
      | cons node ready =>
          rcases foldl_relax_release node (successors outgoing node)
            { sweep with ready := ready, visited := sweep.visited ++ [node] } with
            ⟨indegree, isReleased, visited⟩
          have onward := ih (visit outgoing sweep node ready)
          rw [visit, indegree, isReleased, visited] at onward
          exact onward

variable {selected : List UUID} {connections : List ConnectionModel} {wiring : Wiring}

/-- The sweep of a wired selection is the sort of its edges. -/
theorem Wired.sweep_sorted (wired : Wired selected connections wiring)
    (nodup : selected.Nodup) :
    Visited selected wiring.outgoing
      (sweepReady wiring.outgoing selected.length (Sweep.initial selected wiring)).indegree []
      (sweepReady wiring.outgoing selected.length (Sweep.initial selected wiring)).visited := by
  have inside : ∀ edge ∈ wiring.outgoing, edge.2 ∈ selected :=
    fun edge member => ((wired.mem_iff edge.1 edge.2).mp member).1.2
  have counts : wiring.indegree = incomingCount wiring.outgoing := funext wired.counted
  rcases sweepReady_visitReady wiring.outgoing selected.length (Sweep.initial selected wiring) with
    ⟨indegree, _, visited⟩
  have sorted := topologicalSort_visited nodup wired.nodup inside
  rw [topologicalSort_finishes nodup wired.nodup inside] at sorted
  rw [indegree, visited, Sweep.initial, counts]
  exact sorted

/-- The levels of the sweep of a wired selection. -/
theorem Wired.sweep_layered (wired : Wired selected connections wiring)
    (nodup : selected.Nodup) :
    Layered (Internal selected connections)
      (sweepReady wiring.outgoing selected.length (Sweep.initial selected wiring)).levels
      (sweepReady wiring.outgoing selected.length (Sweep.initial selected wiring)).visited := by
  have inside : ∀ edge ∈ wiring.outgoing, edge.2 ∈ selected :=
    fun edge member => ((wired.mem_iff edge.1 edge.2).mp member).1.2
  have initial : Swept selected wiring.outgoing (Sweep.initial selected wiring) := by
    refine ⟨⟨fun node => ?_, ?_, fun node => ?_⟩, layered_nil⟩
    · simp [Sweep.initial, wired.counted, incomingCount]
    · rw [Sweep.initial, List.nil_append, (sortByKey_perm _ _).nodup_iff]
      exact nodup.filter _
    · simp [Sweep.initial]
  have layered := (initial.sweepReady wired.nodup inside selected.length).layered
  simp only [wired.mem_iff] at layered
  exact layered

/-- All selected nodes are visited exactly when no path returns to its start. -/
theorem Wired.visited_all_iff (wired : Wired selected connections wiring)
    (nodup : selected.Nodup) :
    (sweepReady wiring.outgoing selected.length (Sweep.initial selected wiring)).visited.length =
        selected.length ↔
      ¬ ∃ node, Relation.TransGen (Internal selected connections) node node := by
  have sorted := wired.sweep_sorted nodup
  have order := sorted.nodup
  rw [List.append_nil] at order
  have known : ∀ node, node ∈ (sweepReady wiring.outgoing selected.length
      (Sweep.initial selected wiring)).visited → node ∈ selected :=
    fun node member => ((sorted.zero_iff node).mp (List.mem_append_left _ member)).1
  have included := List.subperm_of_subset order known
  constructor
  · rintro all ⟨node, cycle⟩
    have same := included.perm_of_length_le all.ge
    refine (wired.sweep_layered nodup).acyclic ?_ node cycle
    intro earlier later next
    exact same.mem_iff.mpr next.1.1
  · intro acyclic
    by_contra missing
    have short := lt_of_le_of_ne included.length_le missing
    obtain ⟨left, isNode, unvisited⟩ : ∃ left ∈ selected, left ∉ (sweepReady wiring.outgoing
        selected.length (Sweep.initial selected wiring)).visited := by
      by_contra allVisited
      push Not at allVisited
      exact absurd (List.subperm_of_subset nodup allVisited).length_le (not_le.mpr short)
    apply acyclic
    have cycle := sorted.exists_cycle
      (fun edge member => ((wired.mem_iff edge.1 edge.2).mp member).1.1) isNode unvisited
    simp only [wired.mem_iff] at cycle
    exact cycle

end Sweep

/-! ## Placing one column -/

section Layer

variable {rounding : ℚ → ℚ} {x verticalGap cursorY : ℚ} {column : List LayoutBox}

theorem map_fst_placeLayer (x verticalGap cursorY : ℚ) (column : List LayoutBox) :
    (placeLayer rounding x verticalGap cursorY column).map Prod.fst =
      column.map LayoutBox.nodeId := by
  induction column generalizing cursorY with
  | nil => rfl
  | cons box rest ih =>
      rw [placeLayer, List.map_cons, ih, List.map_cons]

/-- A column keeps its abscissa. -/
theorem fst_of_mem_placeLayer {id : UUID} {place : ℚ × ℚ}
    (member : (id, place) ∈ placeLayer rounding x verticalGap cursorY column) : place.1 = x := by
  induction column generalizing cursorY with
  | nil => cases member
  | cons box rest ih =>
      rcases List.mem_cons.mp member with here | later
      · cases here
        rfl
      · exact ih later

/-- Boxes with distinct identifiers are told by them. -/
theorem box_ext {boxes : List LayoutBox} (distinct : (boxes.map LayoutBox.nodeId).Nodup)
    {left right : LayoutBox} (isLeft : left ∈ boxes) (isRight : right ∈ boxes)
    (same : left.nodeId = right.nodeId) : left = right :=
  List.inj_on_of_nodup_map distinct isLeft isRight same

/-- What the rounding may do to a column that takes no more room than this. -/
structure Tall (rounding : ℚ → ℚ) (verticalGap extent slack : ℚ) : Prop where
  accurate : ∀ value, |value| ≤ extent → |rounding value - value| ≤ slack
  notNegative : 0 ≤ verticalGap
  gap : 2 * slack ≤ verticalGap

variable {extent slack : ℚ} (tall : Tall rounding verticalGap extent slack)

include tall in
/-- The next box begins below a box, within what is left of the room. -/
theorem Tall.next {height rest : ℚ} (high : 0 < height) (others : 0 ≤ rest)
    (fits : |cursorY| + (height + 2 * verticalGap + rest) ≤ extent) :
    cursorY + height ≤ rounding (cursorY + rounding (height + verticalGap)) ∧
      |rounding (cursorY + rounding (height + verticalGap))| + rest ≤ extent := by
  have free := tall.notNegative
  have gap := tall.gap
  have cursor := abs_le.mp (le_refl |cursorY|)
  have room : 0 ≤ extent := by linarith [abs_nonneg cursorY]
  have zero : 0 ≤ slack := (abs_nonneg _).trans (tall.accurate 0 (by rwa [abs_zero]))
  have step := abs_le.mp (tall.accurate (height + verticalGap) (by
    rw [abs_of_pos (by linarith)]
    linarith))
  have moved := abs_le.mp (tall.accurate (cursorY + rounding (height + verticalGap)) (by
    rw [abs_le]
    constructor <;> linarith [step.1, step.2, cursor.1, cursor.2]))
  refine ⟨by linarith [step.1, moved.1], ?_⟩
  have bound : |rounding (cursorY + rounding (height + verticalGap))| ≤
      |cursorY| + (height + 2 * verticalGap) := by
    rw [abs_le]
    constructor <;> linarith [step.1, step.2, moved.1, moved.2, cursor.1, cursor.2]
  linarith

/-- The room that boxes take below one another. -/
def room (verticalGap : ℚ) (boxes : List LayoutBox) : ℚ :=
  (boxes.map (fun box => box.height + 2 * verticalGap)).sum

theorem room_nonneg (notNegative : 0 ≤ verticalGap) (heights : ∀ box ∈ column, 0 < box.height) :
    0 ≤ room verticalGap column := by
  apply List.sum_nonneg
  intro taken member
  rcases List.mem_map.mp member with ⟨box, isBox, rfl⟩
  linarith [heights box isBox]

include tall in
/-- A column goes down from its start. -/
theorem le_of_mem_placeLayer (heights : ∀ box ∈ column, 0 < box.height)
    (fits : |cursorY| + room verticalGap column ≤ extent) {id : UUID} {place : ℚ × ℚ}
    (member : (id, place) ∈ placeLayer rounding x verticalGap cursorY column) :
    cursorY ≤ place.2 := by
  induction column generalizing cursorY with
  | nil => cases member
  | cons box rest ih =>
      rcases List.forall_mem_cons.mp heights with ⟨high, others⟩
      have next := tall.next high (room_nonneg tall.notNegative others) fits
      rcases List.mem_cons.mp member with here | later
      · cases here
        exact le_rfl
      · linarith [ih others next.2 later, next.1]

include tall in
/-- A box of a column lies wholly above the boxes that follow it. -/
theorem placeLayer_below (heights : ∀ box ∈ column, 0 < box.height)
    (fits : |cursorY| + room verticalGap column ≤ extent)
    (increasing : column.Pairwise (fun left right => boxRank left < boxRank right))
    (distinct : (column.map LayoutBox.nodeId).Nodup) {upper lower : LayoutBox}
    (isUpper : upper ∈ column) (isLower : lower ∈ column) (before : boxRank upper < boxRank lower)
    {upperPlace lowerPlace : ℚ × ℚ}
    (upperPlaced : (upper.nodeId, upperPlace) ∈ placeLayer rounding x verticalGap cursorY column)
    (lowerPlaced : (lower.nodeId, lowerPlace) ∈ placeLayer rounding x verticalGap cursorY column) :
    upperPlace.2 + upper.height ≤ lowerPlace.2 := by
  induction column generalizing cursorY with
  | nil => cases isUpper
  | cons box rest ih =>
      rcases List.forall_mem_cons.mp heights with ⟨high, others⟩
      have next := tall.next high (room_nonneg tall.notNegative others) fits
      rcases List.pairwise_cons.mp increasing with ⟨least, restIncreasing⟩
      rw [List.map_cons, List.nodup_cons] at distinct
      have placedLater : ∀ other ∈ rest, ∀ place,
          (other.nodeId, place) ∈ placeLayer rounding x verticalGap cursorY (box :: rest) →
            (other.nodeId, place) ∈ placeLayer rounding x verticalGap
              (rounding (cursorY + rounding (box.height + verticalGap))) rest := by
        intro other isOther place placed
        rcases List.mem_cons.mp placed with here | later
        · have same : other.nodeId = box.nodeId := congrArg Prod.fst here
          exact absurd (same ▸ List.mem_map_of_mem isOther) distinct.1
        · exact later
      have isRest : lower ∈ rest := by
        rcases List.mem_cons.mp isLower with here | later
        · rcases List.mem_cons.mp isUpper with same | upperLater
          · rw [here, same] at before
            exact absurd before (lt_irrefl _)
          · rw [here] at before
            exact absurd before (lt_asymm (least upper upperLater))
        · exact later
      have lowerLater := placedLater lower isRest lowerPlace lowerPlaced
      rcases List.mem_cons.mp isUpper with here | upperLater
      · subst here
        have isFirst : upperPlace = (x, cursorY) := by
          rcases List.mem_cons.mp upperPlaced with first | later
          · exact congrArg Prod.snd first
          · have inRest := List.mem_map_of_mem (f := Prod.fst) later
            rw [map_fst_placeLayer] at inRest
            exact absurd inRest distinct.1
        rw [isFirst]
        exact next.1.trans (le_of_mem_placeLayer tall others next.2 lowerLater)
      · exact ih others next.2 restIncreasing distinct.2 upperLater isRest
          (placedLater upper upperLater upperPlace upperPlaced) lowerLater

end Layer

/-! ## Placing all columns -/

section Layers

variable {boxes : List LayoutBox} (distinct : (boxes.map LayoutBox.nodeId).Nodup)
  {levels : UUID → Nat}

theorem mem_layer {level : Nat} {box : LayoutBox} :
    box ∈ layer boxes levels level ↔ box ∈ boxes ∧ levels box.nodeId = level := by
  rw [layer, mem_sortByKey, List.mem_filter, decide_eq_true_eq]

include distinct in
theorem nodup_layer (level : Nat) :
    ((layer boxes levels level).map LayoutBox.nodeId).Nodup := by
  rw [layer, ((sortByKey_perm _ _).map _).nodup_iff]
  exact distinct.sublist (List.filter_sublist.map _)

/-- Ranks differ where identifiers do. -/
theorem nodeId_of_boxRank {left right : LayoutBox} (same : boxRank left = boxRank right) :
    left.nodeId = right.nodeId :=
  congrArg (fun rank : ℚ ×ₗ ℚ ×ₗ ℕ => (ofLex (ofLex rank).2).2) same

include distinct in
theorem layer_increasing (level : Nat) :
    (layer boxes levels level).Pairwise (fun left right => boxRank left < boxRank right) := by
  apply sortByKey_pairwise_lt
  have some : (boxes.map boxRank).Nodup := by
    apply List.Nodup.map_on _ (List.Nodup.of_map _ distinct)
    intro left isLeft right isRight same
    exact box_ext distinct isLeft isRight (nodeId_of_boxRank same)
  exact some.sublist (List.filter_sublist.map _)

variable {rounding : ℚ → ℚ} {originX originY columnWidth verticalGap : ℚ} {columns : Nat}

theorem mem_placeLayers {id : UUID} {place : ℚ × ℚ} :
    (id, place) ∈ placeLayers rounding boxes levels originX originY columnWidth verticalGap
        columns ↔
      ∃ level < columns, (id, place) ∈ placeLayer rounding
        (columnX rounding originX columnWidth level) verticalGap originY
        (layer boxes levels level) := by
  simp only [placeLayers, List.mem_flatMap, List.mem_range]

/-- A place belongs to the column of its level. -/
theorem level_of_placeLayer {id : UUID} {place : ℚ × ℚ} {level : Nat}
    (member : (id, place) ∈ placeLayer rounding (columnX rounding originX columnWidth level)
      verticalGap originY (layer boxes levels level)) :
        ∃ box ∈ boxes, box.nodeId = id ∧ levels id = level := by
  have inLayer := List.mem_map_of_mem (f := Prod.fst) member
  rw [map_fst_placeLayer] at inLayer
  rcases List.mem_map.mp inLayer with ⟨box, isBox, same⟩
  rcases mem_layer.mp isBox with ⟨isMember, isLevel⟩
  exact ⟨box, isMember, same, (congrArg levels same).symm.trans isLevel⟩

include distinct in
/-- Every box is placed once. -/
theorem nodup_placeLayers :
    ((placeLayers rounding boxes levels originX originY columnWidth verticalGap columns).map
      Prod.fst).Nodup := by
  rw [placeLayers, List.map_flatMap, List.nodup_flatMap]
  refine ⟨fun level _ => ?_, ?_⟩
  · rw [map_fst_placeLayer]
    exact nodup_layer distinct level
  · apply List.nodup_range.pairwise_of_forall_ne
    intro left _ right _ different
    rw [Function.onFun, List.disjoint_left]
    intro id inLeft inRight
    rcases List.mem_map.mp inLeft with ⟨⟨_, leftPlace⟩, leftMember, rfl⟩
    rcases List.mem_map.mp inRight with ⟨⟨_, rightPlace⟩, rightMember, same⟩
    dsimp only at same
    subst same
    rcases level_of_placeLayer leftMember with ⟨_, _, _, leftLevel⟩
    rcases level_of_placeLayer rightMember with ⟨_, _, _, rightLevel⟩
    exact different (leftLevel.symm.trans rightLevel)

/-- The places of a box are in its own column. -/
theorem mem_placeLayers_iff (bounded : ∀ box ∈ boxes, levels box.nodeId < columns)
    {id : UUID} {place : ℚ × ℚ} :
    (id, place) ∈ placeLayers rounding boxes levels originX originY columnWidth verticalGap
        columns ↔
      (id, place) ∈ placeLayer rounding (columnX rounding originX columnWidth (levels id))
        verticalGap originY (layer boxes levels (levels id)) := by
  rw [mem_placeLayers]
  constructor
  · rintro ⟨level, _, member⟩
    rcases level_of_placeLayer member with ⟨_, _, _, rfl⟩
    exact member
  · intro member
    rcases level_of_placeLayer member with ⟨box, isBox, rfl, _⟩
    exact ⟨levels box.nodeId, bounded box isBox, member⟩

/-- Every box has a place. -/
theorem exists_place (originX originY columnWidth verticalGap : ℚ)
    (bounded : ∀ box ∈ boxes, levels box.nodeId < columns) {box : LayoutBox}
    (isBox : box ∈ boxes) :
    ∃ place, (box.nodeId, place) ∈
      placeLayers rounding boxes levels originX originY columnWidth verticalGap columns := by
  have inLayer : box.nodeId ∈ (placeLayer rounding
      (columnX rounding originX columnWidth (levels box.nodeId)) verticalGap originY
      (layer boxes levels (levels box.nodeId))).map Prod.fst := by
    rw [map_fst_placeLayer]
    exact List.mem_map_of_mem (mem_layer.mpr ⟨isBox, rfl⟩)
  rcases List.mem_map.mp inLayer with ⟨⟨id, place⟩, member, same⟩
  dsimp only at same
  subst same
  exact ⟨place, (mem_placeLayers_iff bounded).mpr member⟩

end Layers

/-! ## The layout as a whole -/

section Whole

variable {rounding : ℚ → ℚ} {boxes : List LayoutBox} {connections : List ConnectionModel}
  {horizontalGap verticalGap : ℚ}

def identifiers (boxes : List LayoutBox) : List UUID := boxes.map LayoutBox.nodeId

/-- The sweep over the selected boxes. -/
def tidySweep (boxes : List LayoutBox) (connections : List ConnectionModel) : Sweep :=
  sweepReady (connections.foldl (wire (identifiers boxes)) Wiring.empty).outgoing
    (identifiers boxes).length
    (Sweep.initial (identifiers boxes) (connections.foldl (wire (identifiers boxes)) Wiring.empty))

def originX (boxes : List LayoutBox) : ℚ := (boxes.map LayoutBox.x).min?.getD 0

def originY (boxes : List LayoutBox) : ℚ := (boxes.map LayoutBox.y).min?.getD 0

def maximumWidth (boxes : List LayoutBox) : ℚ := (boxes.map LayoutBox.width).max?.getD 0

def columnCount (boxes : List LayoutBox) (levels : UUID → Nat) : Nat :=
  ((identifiers boxes).map levels).max?.getD 0 + 1

/-- A path of the selected subgraph returns to its start. -/
def HasCycle (boxes : List LayoutBox) (connections : List ConnectionModel) : Prop :=
  ∃ node, Relation.TransGen (Internal (identifiers boxes) connections) node node

/-- The abscissa of a column of the layout. -/
def tidyX (rounding : ℚ → ℚ) (boxes : List LayoutBox) (horizontalGap : ℚ) : Nat → ℚ :=
  columnX rounding (originX boxes) (rounding (maximumWidth boxes + horizontalGap))

/-- The places of the boxes of an acyclic selection. -/
def tidyPlaces (rounding : ℚ → ℚ) (boxes : List LayoutBox) (connections : List ConnectionModel)
    (horizontalGap verticalGap : ℚ) : List (UUID × ℚ × ℚ) :=
  placeLayers rounding boxes (tidySweep boxes connections).levels (originX boxes) (originY boxes)
    (rounding (maximumWidth boxes + horizontalGap)) verticalGap
    (columnCount boxes (tidySweep boxes connections).levels)

variable (enough : 2 ≤ boxes.length) (distinct : (identifiers boxes).Nodup)

include enough distinct in
theorem tidyBoxes_eq : tidyBoxes rounding boxes connections horizontalGap verticalGap =
    if (tidySweep boxes connections).visited.length ≠ (identifiers boxes).length then
      .error (.valueError "Tidy selection requires an acyclic selected subgraph")
    else
      .ok (Dict.ofEntries (tidyPlaces rounding boxes connections horizontalGap verticalGap)) := by
  have distinctKeys : ((boxes.map (fun box => (box.nodeId, box))).map Prod.fst).Nodup := by
    rw [List.map_map]
    exact distinct
  have keys : (Dict.ofEntries (boxes.map (fun box => (box.nodeId, box)))).keys =
      identifiers boxes := by
    rw [Dict.keys, Dict.ofEntries_entries distinctKeys, List.map_map]
    rfl
  have values : (Dict.ofEntries (boxes.map (fun box => (box.nodeId, box)))).entries.map Prod.snd =
      boxes := by
    rw [Dict.ofEntries_entries distinctKeys, List.map_map]
    exact List.map_id boxes
  rw [tidyBoxes, if_neg (not_lt.mpr enough)]
  dsimp only
  rw [keys, values]
  rfl

include enough distinct in
theorem tidyBoxes_eq_error_iff :
    (∃ error, tidyBoxes rounding boxes connections horizontalGap verticalGap = .error error) ↔
      HasCycle boxes connections := by
  have visited := (wired_foldl (identifiers boxes) connections).visited_all_iff distinct
  rw [tidyBoxes_eq enough distinct, HasCycle, ← not_iff_not, ← visited]
  by_cases all : (tidySweep boxes connections).visited.length = (identifiers boxes).length
  · rw [if_neg (not_not.mpr all)]
    refine iff_of_true ?_ all
    rintro ⟨error, impossible⟩
    cases impossible
  · rw [if_pos all]
    exact iff_of_false (not_not.mpr ⟨_, rfl⟩) all

/-- Two placed boxes do not overlap. -/
def Apart (left right : LayoutBox) (leftPlace rightPlace : ℚ × ℚ) : Prop :=
  leftPlace.1 + left.width ≤ rightPlace.1 ∨ rightPlace.1 + right.width ≤ leftPlace.1 ∨
    leftPlace.2 + left.height ≤ rightPlace.2 ∨ rightPlace.2 + right.height ≤ leftPlace.2

/-- Every box is placed once, in the column of the longest path to it. -/
structure Columned (rounding : ℚ → ℚ) (boxes : List LayoutBox)
    (connections : List ConnectionModel) (horizontalGap : ℚ) (result : Dict UUID (ℚ × ℚ)) :
    Prop where
  placed : result.keys.Perm (identifiers boxes)
  column : ∀ box ∈ boxes, ∃ level, ∃ y,
    IsLongestPath (Internal (identifiers boxes) connections) level box.nodeId ∧
      result.get? box.nodeId = some (tidyX rounding boxes horizontalGap level, y)

/-- Connections go to the right, boxes do not overlap, and columns keep the order
of their boxes. -/
structure Tidied (boxes : List LayoutBox) (connections : List ConnectionModel)
    (result : Dict UUID (ℚ × ℚ)) : Prop where
  rightward : ∀ source ∈ boxes, ∀ destination ∈ boxes,
    Internal (identifiers boxes) connections source.nodeId destination.nodeId →
    ∀ left right, result.get? source.nodeId = some left →
      result.get? destination.nodeId = some right →
      left.1 + source.width ≤ right.1 ∧ left.1 < right.1
  apart : ∀ left ∈ boxes, ∀ right ∈ boxes, left ≠ right → ∀ leftPlace rightPlace,
    result.get? left.nodeId = some leftPlace → result.get? right.nodeId = some rightPlace →
    Apart left right leftPlace rightPlace
  downward : ∀ upper ∈ boxes, ∀ lower ∈ boxes, ∀ level,
    IsLongestPath (Internal (identifiers boxes) connections) level upper.nodeId →
    IsLongestPath (Internal (identifiers boxes) connections) level lower.nodeId →
    boxRank upper < boxRank lower → ∀ upperPlace lowerPlace,
    result.get? upper.nodeId = some upperPlace → result.get? lower.nodeId = some lowerPlace →
    upperPlace.2 < lowerPlace.2

theorem width_le_maximumWidth {box : LayoutBox} (isBox : box ∈ boxes) :
    box.width ≤ maximumWidth boxes := by
  have member : box.width ∈ boxes.map LayoutBox.width := List.mem_map_of_mem isBox
  rw [maximumWidth]
  cases largest : (boxes.map LayoutBox.width).max? with
  | none =>
      rw [List.max?_eq_none_iff.mp largest] at member
      cases member
  | some width => exact (List.max?_eq_some_iff.mp largest).2 box.width member

theorem level_lt_columnCount (levels : UUID → Nat) :
    ∀ box ∈ boxes, levels box.nodeId < columnCount boxes levels := by
  intro box isBox
  exact Nat.lt_succ_of_le (List.le_max?_getD_of_mem
    (List.mem_map_of_mem (List.mem_map_of_mem isBox)))

include distinct in
/-- The levels of an acyclic selection are the longest paths. -/
theorem isLongestPath_tidySweep (acyclic : ¬ HasCycle boxes connections) (node : UUID) :
    IsLongestPath (Internal (identifiers boxes) connections)
      ((tidySweep boxes connections).levels node) node := by
  have wired := wired_foldl (identifiers boxes) connections
  have all := (wired.visited_all_iff distinct).mpr acyclic
  have sorted := wired.sweep_sorted distinct
  have order := sorted.nodup
  rw [List.append_nil] at order
  have included := List.subperm_of_subset order (fun node member =>
    ((sorted.zero_iff node).mp (List.mem_append_left _ member)).1)
  apply (wired.sweep_layered distinct).isLongestPath
  intro earlier later next
  exact (included.perm_of_length_le all.ge).mem_iff.mpr next.1.1

/-- The gaps leave room for the rounding, which is off by no more than `slack`
within the extent of the layout. -/
structure Roomy (rounding : ℚ → ℚ) (boxes : List LayoutBox) (connections : List ConnectionModel)
    (horizontalGap verticalGap extent slack : ℚ) : Prop where
  accurate : ∀ value, |value| ≤ extent → |rounding value - value| ≤ slack
  horizontal : 5 * slack ≤ horizontalGap
  vertical : 2 * slack ≤ verticalGap
  wide : |originX boxes| + columnCount boxes (tidySweep boxes connections).levels *
    (maximumWidth boxes + 2 * horizontalGap) ≤ extent
  high : |originY boxes| + room verticalGap boxes ≤ extent

section Places

variable (sizes : ∀ box ∈ boxes, 0 < box.width ∧ 0 < box.height)
  (horizontal : 0 ≤ horizontalGap) (vertical : 0 ≤ verticalGap) {extent slack : ℚ}
  (roomy : Roomy rounding boxes connections horizontalGap verticalGap extent slack)

include sizes horizontal roomy in
/-- Columns further right begin right of the boxes of earlier columns. -/
theorem tidyX_right {box : LayoutBox} (isBox : box ∈ boxes) {left right : Nat}
    (before : left < right)
    (bounded : right < columnCount boxes (tidySweep boxes connections).levels) :
    tidyX rounding boxes horizontalGap left + box.width ≤
      tidyX rounding boxes horizontalGap right := by
  have fits := width_le_maximumWidth isBox
  have thick := (sizes box isBox).1
  have wide := roomy.wide
  have gap := roomy.horizontal
  have several : (right : ℚ) + 1 ≤ columnCount boxes (tidySweep boxes connections).levels := by
    exact_mod_cast bounded
  unfold tidyX
  generalize (columnCount boxes (tidySweep boxes connections).levels : ℚ) = columns at wide several
  generalize maximumWidth boxes = width at fits wide ⊢
  have natural : (0 : ℚ) ≤ right := Nat.cast_nonneg right
  have spread : ((right : ℚ) + 1) * (width + 2 * horizontalGap) ≤
      columns * (width + 2 * horizontalGap) :=
    mul_le_mul_of_nonneg_right several (by linarith)
  have origin := abs_le.mp (le_refl |originX boxes|)
  have some : 0 ≤ (right : ℚ) * (width + 2 * horizontalGap) := by
    apply mul_nonneg natural
    linarith
  have zero : 0 ≤ slack := (abs_nonneg _).trans (roomy.accurate 0 (by
    rw [abs_zero]
    linarith [abs_nonneg (originX boxes)]))
  have stride := abs_le.mp (roomy.accurate (width + horizontalGap) (by
    rw [abs_of_pos (by linarith)]
    linarith [abs_nonneg (originX boxes)]))
  -- the abscissa of a column is off by two roundings
  have near : ∀ level : Nat, level ≤ right →
      |columnX rounding (originX boxes) (rounding (width + horizontalGap)) level -
        (originX boxes + level * rounding (width + horizontalGap))| ≤ 2 * slack := by
    intro level inside
    have count : (level : ℚ) ≤ right := by exact_mod_cast inside
    have lower : 0 ≤ (level : ℚ) * rounding (width + horizontalGap) :=
      mul_nonneg (Nat.cast_nonneg level) (by linarith [stride.1])
    have upper : (level : ℚ) * rounding (width + horizontalGap) ≤
        right * (width + 2 * horizontalGap) :=
      mul_le_mul count (by linarith [stride.2]) (by linarith [stride.1]) natural
    have offset := abs_le.mp (roomy.accurate (level * rounding (width + horizontalGap)) (by
      rw [abs_of_nonneg lower]
      linarith [abs_nonneg (originX boxes)]))
    have placed := abs_le.mp (roomy.accurate
      (originX boxes + rounding (level * rounding (width + horizontalGap))) (by
        rw [abs_le]
        constructor <;> linarith [offset.1, offset.2, origin.1, origin.2]))
    rw [columnX, abs_le]
    constructor <;> linarith [offset.1, offset.2, placed.1, placed.2]
  have leftNear := abs_le.mp (near left before.le)
  have rightNear := abs_le.mp (near right le_rfl)
  have next : ((left : ℚ) + 1) * rounding (width + horizontalGap) ≤
      right * rounding (width + horizontalGap) :=
    mul_le_mul_of_nonneg_right (by exact_mod_cast before) (by linarith [stride.1])
  linarith [leftNear.2, rightNear.1, stride.1]

include distinct in
theorem get?_tidyPlaces {id : UUID} {place : ℚ × ℚ} :
    (Dict.ofEntries (tidyPlaces rounding boxes connections horizontalGap verticalGap)).get? id =
        some place ↔
      (id, place) ∈ placeLayer rounding
        (tidyX rounding boxes horizontalGap ((tidySweep boxes connections).levels id))
        verticalGap (originY boxes)
        (layer boxes (tidySweep boxes connections).levels
          ((tidySweep boxes connections).levels id)) := by
  have entries : (Dict.ofEntries (tidyPlaces rounding boxes connections horizontalGap
      verticalGap)).entries =
        tidyPlaces rounding boxes connections horizontalGap verticalGap :=
    Dict.ofEntries_entries (nodup_placeLayers distinct)
  rw [tidyX, ← mem_placeLayers_iff (level_lt_columnCount _)]
  constructor
  · intro found
    have member := Dict.mem_of_get? found
    rw [entries] at member
    exact member
  · intro member
    apply Dict.get?_of_mem
    rw [entries]
    exact member

include sizes in
theorem heights_layer (levels : UUID → Nat) (level : Nat) :
    ∀ box ∈ layer boxes levels level, 0 < box.height :=
  fun box member => (sizes box (mem_layer.mp member).1).2

include sizes vertical in
/-- A column takes no more room than all boxes. -/
theorem room_layer_le (levels : UUID → Nat) (level : Nat) :
    room verticalGap (layer boxes levels level) ≤ room verticalGap boxes := by
  have same : room verticalGap (layer boxes levels level) =
      room verticalGap (boxes.filter (fun box => decide (levels box.nodeId = level))) :=
    ((sortByKey_perm _ _).map _).sum_eq
  rw [same]
  refine (List.filter_sublist.map _).sum_le_sum ?_
  intro taken member
  rcases List.mem_map.mp member with ⟨box, isBox, rfl⟩
  linarith [(sizes box isBox).2]

include distinct sizes vertical roomy in
/-- In one column the boxes keep the order of their ranks. -/
theorem tidyPlaces_below {upper lower : LayoutBox} (isUpper : upper ∈ boxes)
    (isLower : lower ∈ boxes)
    (same : (tidySweep boxes connections).levels upper.nodeId =
      (tidySweep boxes connections).levels lower.nodeId)
    (before : boxRank upper < boxRank lower) {upperPlace lowerPlace : ℚ × ℚ}
    (upperFound : (Dict.ofEntries (tidyPlaces rounding boxes connections horizontalGap
      verticalGap)).get? upper.nodeId = some upperPlace)
    (lowerFound : (Dict.ofEntries (tidyPlaces rounding boxes connections horizontalGap
      verticalGap)).get? lower.nodeId = some lowerPlace) :
    upperPlace.2 + upper.height ≤ lowerPlace.2 := by
  have upperPlaced := (get?_tidyPlaces distinct).mp upperFound
  have lowerPlaced := (get?_tidyPlaces distinct).mp lowerFound
  rw [same] at upperPlaced
  have fits := (add_le_add_right (room_layer_le sizes vertical
    (tidySweep boxes connections).levels ((tidySweep boxes connections).levels lower.nodeId))
    |originY boxes|).trans roomy.high
  exact placeLayer_below ⟨roomy.accurate, vertical, roomy.vertical⟩ (heights_layer sizes _ _) fits
    (layer_increasing distinct _) (nodup_layer distinct _) (mem_layer.mpr ⟨isUpper, same⟩)
    (mem_layer.mpr ⟨isLower, rfl⟩) before upperPlaced lowerPlaced

include distinct in
/-- The abscissa of a box is that of the column of its level. -/
theorem tidyPlaces_column {id : UUID} {place : ℚ × ℚ}
    (found : (Dict.ofEntries (tidyPlaces rounding boxes connections horizontalGap
      verticalGap)).get? id = some place) :
    place.1 = tidyX rounding boxes horizontalGap ((tidySweep boxes connections).levels id) :=
  fst_of_mem_placeLayer ((get?_tidyPlaces distinct).mp found)

include distinct in
theorem keys_tidyPlaces :
    (Dict.ofEntries (tidyPlaces rounding boxes connections horizontalGap verticalGap)).keys.Perm
      (identifiers boxes) := by
  rw [List.perm_ext_iff_of_nodup (Dict.keys_nodup _) distinct]
  intro id
  rw [← Dict.get?_isSome]
  constructor
  · intro isKey
    rcases Option.isSome_iff_exists.mp isKey with ⟨place, found⟩
    rcases level_of_placeLayer ((get?_tidyPlaces distinct).mp found) with ⟨box, isBox, rfl, _⟩
    exact List.mem_map_of_mem isBox
  · intro isIdentifier
    rcases List.mem_map.mp isIdentifier with ⟨box, isBox, rfl⟩
    rcases exists_place (originX boxes) (originY boxes)
      (rounding (maximumWidth boxes + horizontalGap)) verticalGap
      (level_lt_columnCount (tidySweep boxes connections).levels) isBox with ⟨place, placed⟩
    exact Option.isSome_iff_exists.mpr ⟨place, (get?_tidyPlaces distinct).mpr
      ((mem_placeLayers_iff (level_lt_columnCount _)).mp placed)⟩

include distinct in
theorem columned_tidyPlaces (acyclic : ¬ HasCycle boxes connections) :
    Columned rounding boxes connections horizontalGap
      (Dict.ofEntries (tidyPlaces rounding boxes connections horizontalGap verticalGap)) := by
  refine ⟨keys_tidyPlaces distinct, ?_⟩
  intro box isBox
  have isKey : (Dict.ofEntries (tidyPlaces rounding boxes connections horizontalGap
      verticalGap)).get? box.nodeId |>.isSome := by
    rw [Dict.get?_isSome, (keys_tidyPlaces distinct).mem_iff]
    exact List.mem_map_of_mem isBox
  rcases Option.isSome_iff_exists.mp isKey with ⟨⟨x, y⟩, found⟩
  have column := tidyPlaces_column distinct found
  dsimp only at column
  exact ⟨_, y, isLongestPath_tidySweep distinct acyclic box.nodeId, column ▸ found⟩

include distinct sizes horizontal vertical roomy in
theorem tidied_tidyPlaces (acyclic : ¬ HasCycle boxes connections) :
    Tidied boxes connections
      (Dict.ofEntries (tidyPlaces rounding boxes connections horizontalGap verticalGap)) := by
  have longest := isLongestPath_tidySweep distinct acyclic
  have bounded : ∀ box ∈ boxes, _ < columnCount boxes _ :=
    level_lt_columnCount (tidySweep boxes connections).levels
  refine {
    rightward := ?_
    apart := ?_
    downward := ?_
  }
  · intro source isSource destination isDestination next left right leftFound rightFound
    have before := (longest source.nodeId).lt (longest destination.nodeId) next
    have wide := (sizes source isSource).1
    have further := tidyX_right sizes horizontal roomy isSource before
      (bounded destination isDestination)
    rw [tidyPlaces_column distinct leftFound, tidyPlaces_column distinct rightFound]
    exact ⟨further, by linarith⟩
  · intro left isLeft right isRight different leftPlace rightPlace leftFound rightFound
    have leftColumn := tidyPlaces_column distinct leftFound
    have rightColumn := tidyPlaces_column distinct rightFound
    rcases lt_trichotomy ((tidySweep boxes connections).levels left.nodeId)
      ((tidySweep boxes connections).levels right.nodeId) with before | same | after
    · refine Or.inl ?_
      rw [leftColumn, rightColumn]
      exact tidyX_right sizes horizontal roomy isLeft before (bounded right isRight)
    · have ranks : boxRank left ≠ boxRank right := fun equal =>
        different (box_ext distinct isLeft isRight (nodeId_of_boxRank equal))
      rcases lt_or_gt_of_ne ranks with above | below
      · exact Or.inr (Or.inr (Or.inl (tidyPlaces_below distinct sizes vertical roomy isLeft
          isRight same above leftFound rightFound)))
      · exact Or.inr (Or.inr (Or.inr (tidyPlaces_below distinct sizes vertical roomy isRight
          isLeft same.symm below rightFound leftFound)))
    · refine Or.inr (Or.inl ?_)
      rw [leftColumn, rightColumn]
      exact tidyX_right sizes horizontal roomy isRight after (bounded left isLeft)
  · intro upper isUpper lower isLower level upperLevel lowerLevel before upperPlace lowerPlace
      upperFound lowerFound
    have same := ((longest upper.nodeId).unique upperLevel).trans
      ((longest lower.nodeId).unique lowerLevel).symm
    have below := tidyPlaces_below distinct sizes vertical roomy isUpper isLower same before
      upperFound lowerFound
    linarith [(sizes upper isUpper).2]

end Places

end Whole

/-! ## The order of boxes and connections -/

section Order

variable {boxes others : List LayoutBox} {connections otherConnections : List ConnectionModel}

theorem sortByKey_id_perm {left right : List UUID} (same : left.Perm right) :
    sortByKey id left = sortByKey id right :=
  sortByKey_eq_of_perm same fun _ _ _ _ equal => equal

theorem successors_perm {left right : List (UUID × UUID)} (same : left.Perm right) (node : UUID) :
    successors left node = successors right node := by
  rw [successors, successors, sortByKey_id_perm ((same.filter _).map _)]

/-- The sweep looks at edges only through successors. -/
theorem sweepReady_congr {left right : List (UUID × UUID)}
    (same : ∀ node, successors left node = successors right node) (fuel : Nat) (sweep : Sweep) :
    sweepReady left fuel sweep = sweepReady right fuel sweep := by
  induction fuel generalizing sweep with
  | zero => rfl
  | succ fuel ih =>
      rw [sweepReady, sweepReady]
      cases sweep.ready with
      | nil => rfl
      | cons node ready =>
          dsimp only
          rw [visit, visit, same node]
          exact ih _

theorem internal_perm (sameBoxes : others.Perm boxes)
    (sameConnections : otherConnections.Perm connections) (source destination : UUID) :
    Internal (identifiers others) otherConnections source destination ↔
      Internal (identifiers boxes) connections source destination := by
  simp only [Internal, identifiers, (sameBoxes.map LayoutBox.nodeId).mem_iff,
    sameConnections.mem_iff]

theorem tidySweep_perm (sameBoxes : others.Perm boxes)
    (sameConnections : otherConnections.Perm connections) :
    tidySweep others otherConnections = tidySweep boxes connections := by
  have wired := wired_foldl (identifiers boxes) connections
  have otherWired := wired_foldl (identifiers others) otherConnections
  have sameIdentifiers : (identifiers others).Perm (identifiers boxes) := sameBoxes.map _
  have sameEdges := (List.perm_ext_iff_of_nodup otherWired.nodup wired.nodup).mpr fun edge => by
    rw [otherWired.mem_iff, wired.mem_iff, internal_perm sameBoxes sameConnections]
  have sameDegrees : (otherConnections.foldl (wire (identifiers others)) Wiring.empty).indegree =
      (connections.foldl (wire (identifiers boxes)) Wiring.empty).indegree := by
    funext node
    rw [otherWired.counted, wired.counted, incomingCount, incomingCount,
      (sameEdges.filter _).length_eq]
  have sameReady : Sweep.initial (identifiers others)
        (otherConnections.foldl (wire (identifiers others)) Wiring.empty) =
      Sweep.initial (identifiers boxes)
        (connections.foldl (wire (identifiers boxes)) Wiring.empty) := by
    rw [Sweep.initial, Sweep.initial, sameDegrees, sortByKey_id_perm (sameIdentifiers.filter _)]
  rw [tidySweep, tidySweep, sweepReady_congr (successors_perm sameEdges), sameReady,
    sameIdentifiers.length_eq]

theorem max?_perm {Value : Type} [LinearOrder Value] {left right : List Value}
    (same : left.Perm right) : left.max? = right.max? := by
  apply Option.ext
  intro value
  rw [List.max?_eq_some_iff, List.max?_eq_some_iff]
  simp only [same.mem_iff]

theorem min?_perm {Value : Type} [LinearOrder Value] {left right : List Value}
    (same : left.Perm right) : left.min? = right.min? := by
  apply Option.ext
  intro value
  rw [List.min?_eq_some_iff, List.min?_eq_some_iff]
  simp only [same.mem_iff]

theorem layer_perm (sameBoxes : others.Perm boxes) (distinct : (identifiers boxes).Nodup)
    (levels : UUID → Nat) : layer others levels = layer boxes levels := by
  funext level
  rw [layer, layer]
  apply sortByKey_eq_of_perm (sameBoxes.filter _)
  intro left isLeft right isRight equal
  exact box_ext distinct (sameBoxes.mem_iff.mp (List.mem_of_mem_filter isLeft))
    (sameBoxes.mem_iff.mp (List.mem_of_mem_filter isRight)) (nodeId_of_boxRank equal)

/-- The layout does not depend on the order of boxes and connections. -/
theorem tidyBoxes_perm (enough : 2 ≤ boxes.length) (distinct : (identifiers boxes).Nodup)
    (sameBoxes : others.Perm boxes) (sameConnections : otherConnections.Perm connections)
    (horizontalGap verticalGap : ℚ) :
    tidyBoxes rounding others otherConnections horizontalGap verticalGap =
      tidyBoxes rounding boxes connections horizontalGap verticalGap := by
  have sameIdentifiers : (identifiers others).Perm (identifiers boxes) := sameBoxes.map _
  have samePlaces : tidyPlaces rounding others otherConnections horizontalGap verticalGap =
      tidyPlaces rounding boxes connections horizontalGap verticalGap := by
    rw [tidyPlaces, tidyPlaces, tidySweep_perm sameBoxes sameConnections, placeLayers, placeLayers,
      layer_perm sameBoxes distinct, originX, originX, originY, originY, maximumWidth,
      maximumWidth, columnCount, columnCount, min?_perm (sameBoxes.map LayoutBox.x),
      min?_perm (sameBoxes.map LayoutBox.y), max?_perm (sameBoxes.map LayoutBox.width),
      max?_perm (sameIdentifiers.map _)]
  rw [tidyBoxes_eq (sameBoxes.length_eq ▸ enough) (sameIdentifiers.nodup_iff.mpr distinct),
    tidyBoxes_eq enough distinct, tidySweep_perm sameBoxes sameConnections, samePlaces,
    sameIdentifiers.length_eq]

end Order

/-- The tidy layout fails exactly on a cycle of the selection; otherwise it puts
every box into the column of the longest path to it, apart from the others where
the gaps leave room for the rounding, and the order of the arguments does not
change it. -/
theorem tidyBoxes_correct (rounding : ℚ → ℚ) (boxes : List LayoutBox)
    (connections : List ConnectionModel) (horizontalGap verticalGap : ℚ)
    (enough : 2 ≤ boxes.length) (distinct : (identifiers boxes).Nodup)
    (sizes : ∀ box ∈ boxes, 0 < box.width ∧ 0 < box.height) (horizontal : 0 ≤ horizontalGap)
    (vertical : 0 ≤ verticalGap) :
    ((∃ error, tidyBoxes rounding boxes connections horizontalGap verticalGap = .error error) ↔
        HasCycle boxes connections) ∧
      (¬ HasCycle boxes connections → ∃ result,
        tidyBoxes rounding boxes connections horizontalGap verticalGap = .ok result ∧
          Columned rounding boxes connections horizontalGap result ∧
          ∀ extent slack,
            Roomy rounding boxes connections horizontalGap verticalGap extent slack →
              Tidied boxes connections result) ∧
      ∀ others otherConnections, others.Perm boxes → otherConnections.Perm connections →
        tidyBoxes rounding others otherConnections horizontalGap verticalGap =
          tidyBoxes rounding boxes connections horizontalGap verticalGap := by
  refine ⟨tidyBoxes_eq_error_iff enough distinct, fun acyclic => ?_,
    fun others otherConnections sameBoxes sameConnections =>
      tidyBoxes_perm enough distinct sameBoxes sameConnections horizontalGap verticalGap⟩
  refine ⟨_, ?_, columned_tidyPlaces distinct acyclic, fun extent slack roomy =>
    tidied_tidyPlaces distinct sizes horizontal vertical roomy acyclic⟩
  have all : (tidySweep boxes connections).visited.length = (identifiers boxes).length :=
    ((wired_foldl (identifiers boxes) connections).visited_all_iff distinct).mpr acyclic
  rw [tidyBoxes_eq enough distinct, if_neg (not_not.mpr all)]

/-- Exact arithmetic needs no room. -/
theorem roomy_id (boxes : List LayoutBox) (connections : List ConnectionModel)
    {horizontalGap verticalGap : ℚ} (horizontal : 0 ≤ horizontalGap) (vertical : 0 ≤ verticalGap) :
    ∃ extent, Roomy id boxes connections horizontalGap verticalGap extent 0 :=
  ⟨max _ _, fun value _ => by simp, by linarith, by linarith, le_max_left _ _, le_max_right _ _⟩

/-- A chain of seven boxes as wide as the double nearest to 4.3. -/
def chainOfBoxes : List LayoutBox :=
  (List.range 7).map (fun index => ⟨index + 1, 0, 0, PyFloat.nearest (43 / 10), 5⟩)

def chainConnections : List ConnectionModel :=
  (List.range 6).map (fun index => ⟨index + 11, index + 1, "out", index + 2, "in"⟩)

/-- The chain in doubles, with the default gaps. -/
theorem tidyBoxes_correct_chain :
    ∃ result, tidyBoxes PyFloat.nearest chainOfBoxes chainConnections 96 48 = .ok result ∧
      Columned PyFloat.nearest chainOfBoxes chainConnections 96 result ∧
      Tidied chainOfBoxes chainConnections result := by
  have correct := tidyBoxes_correct PyFloat.nearest chainOfBoxes chainConnections 96 48
    (by decide) (by decide) (by decide +kernel) (by norm_num) (by norm_num)
  have succeeds :
      (tidyBoxes PyFloat.nearest chainOfBoxes chainConnections 96 48).isOk = true := by
    decide +kernel
  have acyclic : ¬ HasCycle chainOfBoxes chainConnections := by
    rw [← correct.1]
    rintro ⟨error, failed⟩
    rw [failed] at succeeds
    cases succeeds
  rcases correct.2.1 acyclic with ⟨result, tidied, columned, whenRoomy⟩
  refine ⟨result, tidied, columned, whenRoomy (2 ^ 20) (2 ^ (20 - 53 : ℤ)) ?_⟩
  refine ⟨fun value small => PyFloat.abs_nearest_sub_le small, by norm_num, by norm_num, ?_, ?_⟩
  · decide +kernel
  · decide +kernel

/-- The same chain without gaps: the abscissa of the last box is rounded down and
the one before it up, and the two overlap. -/
theorem tidied_boxes_overlap :
    ∃ result, tidyBoxes PyFloat.nearest chainOfBoxes chainConnections 0 0 = .ok result ∧
      ∃ left ∈ chainOfBoxes, ∃ right ∈ chainOfBoxes, left ≠ right ∧
        ∃ leftPlace rightPlace, result.get? left.nodeId = some leftPlace ∧
          result.get? right.nodeId = some rightPlace ∧
          ¬ Apart left right leftPlace rightPlace := by
  let width := PyFloat.nearest (43 / 10)
  have placed : (tidyBoxes PyFloat.nearest chainOfBoxes chainConnections 0 0).toOption.map
      (fun result => (result.get? 6, result.get? 7)) =
        some (some (PyFloat.nearest (5 * width), 0), some (PyFloat.nearest (6 * width), 0)) := by
    decide +kernel
  rcases tidied : tidyBoxes PyFloat.nearest chainOfBoxes chainConnections 0 0 with error | result
  · rw [tidied] at placed
    cases placed
  · rw [tidied] at placed
    have both := Prod.mk.inj (Option.some.inj placed)
    refine ⟨result, rfl, ⟨6, 0, 0, width, 5⟩, by decide +kernel, ⟨7, 0, 0, width, 5⟩,
      by decide +kernel, by decide +kernel, _, _, both.1, both.2, ?_⟩
    unfold Apart
    decide +kernel

end Graph
end Synesthesia
