import Synesthesia.Foundation.LongestPath

namespace Synesthesia
namespace Foundation

/-!
# Nodes that a topological sort leaves out

The sort visits a node after all its predecessors.  What it leaves out are the
nodes of the cycles and those that a cycle leads to.
-/

variable {Node : Type*} [LinearOrder Node] {nodes : List Node} {edges : List (Node × Node)}
  {count : Node → Nat} {ready order : List Node}

/-! ## Predecessors stand first -/

/-- Every predecessor of a node stands before it. -/
def PredecessorsFirst (edges : List (Node × Node)) (order : List Node) : Prop :=
  ∀ before node after, order = before ++ node :: after →
    ∀ earlier, (earlier, node) ∈ edges → earlier ∈ before

omit [LinearOrder Node] in
theorem PredecessorsFirst.append {node : Node} (first : PredecessorsFirst edges order)
    (visited : ∀ earlier, (earlier, node) ∈ edges → earlier ∈ order) :
    PredecessorsFirst edges (order ++ [node]) := by
  intro before other after split earlier isEdge
  rcases List.eq_nil_or_concat after with rfl | ⟨initial, last, rfl⟩
  · rcases List.append_inj' split rfl with ⟨rfl, same⟩
    cases same
    exact visited earlier isEdge
  · have regrouped : order ++ [node] = (before ++ other :: initial) ++ [last] := by
      rw [split]
      simp
    rcases List.append_inj' regrouped rfl with ⟨inner, _⟩
    exact first before other initial inner earlier isEdge

/-- Nodes that are visited or ready have visited predecessors only. -/
theorem Visited.predecessor_mem {node earlier : Node}
    (visited : Visited nodes edges count ready order) (known : node ∈ order ++ ready)
    (isEdge : (earlier, node) ∈ edges) : earlier ∈ order := by
  have zero := ((visited.zero_iff node).mp known).2
  rw [visited.count_eq, List.length_eq_zero_iff, List.filter_eq_nil_iff] at zero
  by_contra fresh
  exact zero (earlier, node) isEdge (decide_eq_true ⟨rfl, fresh⟩)

theorem visitReady_predecessorsFirst (distinct : edges.Nodup)
    (inside : ∀ edge ∈ edges, edge.2 ∈ nodes) (fuel : Nat) (count : Node → Nat)
    (ready order : List Node) (visited : Visited nodes edges count ready order)
    (first : PredecessorsFirst edges order) :
    PredecessorsFirst edges (visitReady edges fuel count ready order).2.2 := by
  induction fuel generalizing count ready order with
  | zero => exact first
  | succ fuel ih =>
      cases ready with
      | nil => exact first
      | cons node ready =>
          apply ih _ _ _ (visited.next distinct inside)
          apply first.append
          intro earlier isEdge
          exact visited.predecessor_mem (List.mem_append_right _ List.mem_cons_self) isEdge

theorem topologicalSort_predecessorsFirst (nodesDistinct : nodes.Nodup)
    (distinct : edges.Nodup) (inside : ∀ edge ∈ edges, edge.2 ∈ nodes) :
    PredecessorsFirst edges (topologicalSort nodes edges).2.2 := by
  apply visitReady_predecessorsFirst distinct inside
  · exact incomingCount_visited nodesDistinct
  · intro before node after split
    simp at split

/-- Positions grow along an edge to a visited node. -/
theorem PredecessorsFirst.idxOf_lt {earlier later : Node} (first : PredecessorsFirst edges order)
    (member : later ∈ order) (isEdge : (earlier, later) ∈ edges) :
    earlier ∈ order ∧ order.idxOf earlier < order.idxOf later := by
  rcases List.eq_append_cons_of_mem member with ⟨before, after, split, fresh⟩
  have isBefore := first before later after split earlier isEdge
  rw [split]
  refine ⟨List.mem_append_left _ isBefore, ?_⟩
  rw [List.idxOf_append_of_mem isBefore, List.idxOf_append_of_notMem fresh]
  exact Nat.lt_of_lt_of_le (List.idxOf_lt_length_of_mem isBefore) (Nat.le_add_right _ _)

/-- The nodes on a path to a visited node are visited, at growing positions. -/
theorem PredecessorsFirst.path_lt {earlier later : Node} (first : PredecessorsFirst edges order)
    (member : later ∈ order)
    (path : Relation.TransGen (fun earlier later => (earlier, later) ∈ edges) earlier later) :
    earlier ∈ order ∧ order.idxOf earlier < order.idxOf later := by
  induction path using Relation.TransGen.head_induction_on with
  | single isEdge => exact first.idxOf_lt member isEdge
  | head isEdge _ ih =>
      rcases first.idxOf_lt ih.1 isEdge with ⟨isVisited, before⟩
      exact ⟨isVisited, before.trans ih.2⟩

/-! ## Behind a cycle -/

/-- The node lies on a cycle, or a cycle leads to it. -/
def BehindCycle {Node : Type*} (edge : Node → Node → Prop) (node : Node) : Prop :=
  ∃ first, Relation.TransGen edge first first ∧ Relation.ReflTransGen edge first node

theorem PredecessorsFirst.not_behindCycle {node : Node} (first : PredecessorsFirst edges order)
    (member : node ∈ order) :
    ¬ BehindCycle (fun earlier later => (earlier, later) ∈ edges) node := by
  rintro ⟨start, cycle, leads⟩
  have visited : start ∈ order := by
    rcases Relation.reflTransGen_iff_eq_or_transGen.mp leads with same | path
    · exact same ▸ member
    · exact (first.path_lt member path).1
  exact lt_irrefl _ (first.path_lt visited cycle).2

/-- A finished sort leaves out exactly the nodes on or behind a cycle. -/
theorem topologicalSort_leaves_out (nodesDistinct : nodes.Nodup) (distinct : edges.Nodup)
    (sources : ∀ edge ∈ edges, edge.1 ∈ nodes) (inside : ∀ edge ∈ edges, edge.2 ∈ nodes)
    {node : Node} (isNode : node ∈ nodes) :
    node ∉ (topologicalSort nodes edges).2.2 ↔
      BehindCycle (fun earlier later => (earlier, later) ∈ edges) node := by
  constructor
  · intro unvisited
    have visited := topologicalSort_visited nodesDistinct distinct inside
    rw [topologicalSort_finishes nodesDistinct distinct inside] at visited
    exact visited.exists_cycle_before sources isNode unvisited
  · intro behind member
    exact (topologicalSort_predecessorsFirst nodesDistinct distinct inside).not_behindCycle member
      behind

end Foundation
end Synesthesia
