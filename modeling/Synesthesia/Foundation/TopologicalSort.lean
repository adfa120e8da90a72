import Mathlib
import Synesthesia.Foundation.SortByKey

namespace Synesthesia
namespace Foundation

/-!
# Topological sorting by counting predecessors

Nodes without unvisited predecessors wait in a sorted list.  A step visits the
first of them and lowers the count of each of its successors; a successor whose
count reaches zero joins the waiting nodes.  Nodes on or behind a cycle are
never visited.  The edges of a graph are a list without repetitions.
-/

variable {Node : Type*} [LinearOrder Node]

def successors (edges : List (Node × Node)) (node : Node) : List Node :=
  sortByKey id ((edges.filter (fun edge => decide (edge.1 = node))).map Prod.snd)

/-- Lower the counts of some nodes; those that reach zero become ready. -/
def release : List Node → (Node → Nat) → List Node → (Node → Nat) × List Node
  | [], count, ready => (count, ready)
  | node :: rest, count, ready =>
      let count := Function.update count node (count node - 1)
      release rest count (if count node = 0 then sortByKey id (ready ++ [node]) else ready)

/-- Visit ready nodes, at most as many as the first argument says. -/
def visitReady (edges : List (Node × Node)) :
    Nat → (Node → Nat) → List Node → List Node → (Node → Nat) × List Node × List Node
  | 0, count, ready, order => (count, ready, order)
  | _ + 1, count, [], order => (count, [], order)
  | fuel + 1, count, node :: ready, order =>
      let (count, ready) := release (successors edges node) count ready
      visitReady edges fuel count ready (order ++ [node])

def incomingCount (edges : List (Node × Node)) (node : Node) : Nat :=
  (edges.filter (fun edge => decide (edge.2 = node))).length

/-- The counts at the end, the nodes left waiting, and the order. -/
def topologicalSort (nodes : List Node) (edges : List (Node × Node)) :
    (Node → Nat) × List Node × List Node :=
  visitReady edges nodes.length (incomingCount edges)
    (sortByKey id (nodes.filter (fun node => decide (incomingCount edges node = 0)))) []

/-! ## One visit -/

theorem mem_successors {edges : List (Node × Node)} {node successor : Node} :
    successor ∈ successors edges node ↔ (node, successor) ∈ edges := by
  simp only [successors, mem_sortByKey, List.mem_map, List.mem_filter, decide_eq_true_eq]
  constructor
  · rintro ⟨⟨_, _⟩, ⟨member, rfl⟩, rfl⟩
    exact member
  · intro member
    exact ⟨(node, successor), ⟨member, rfl⟩, rfl⟩

theorem nodup_successors {edges : List (Node × Node)} (distinct : edges.Nodup) (node : Node) :
    (successors edges node).Nodup := by
  rw [successors, (sortByKey_perm _ _).nodup_iff]
  refine (distinct.filter _).map_on ?_
  rintro ⟨left, leftEnd⟩ leftMember ⟨right, rightEnd⟩ rightMember same
  have leftSource := of_decide_eq_true (List.mem_filter.mp leftMember).2
  have rightSource := of_decide_eq_true (List.mem_filter.mp rightMember).2
  simp only at leftSource rightSource same
  rw [leftSource, rightSource, same]

theorem release_count {released : List Node} (distinct : released.Nodup) (count : Node → Nat)
    (ready : List Node) (node : Node) :
    (release released count ready).1 node =
      if node ∈ released then count node - 1 else count node := by
  induction released generalizing count ready with
  | nil => simp [release]
  | cons first rest ih =>
      rcases List.nodup_cons.mp distinct with ⟨fresh, restDistinct⟩
      rw [release, ih restDistinct]
      by_cases same : node = first
      · subst same
        rw [if_neg fresh, if_pos List.mem_cons_self, Function.update_self]
      · rw [Function.update_of_ne same]
        simp only [List.mem_cons, same, false_or]

theorem release_ready {released : List Node} (distinct : released.Nodup) (count : Node → Nat)
    (ready : List Node) :
    (release released count ready).2.Perm
      (ready ++ released.filter (fun node => decide (count node - 1 = 0))) := by
  induction released generalizing count ready with
  | nil => simp [release]
  | cons first rest ih =>
      rcases List.nodup_cons.mp distinct with ⟨fresh, restDistinct⟩
      have unchanged : rest.filter (fun node =>
          decide (Function.update count first (count first - 1) node - 1 = 0)) =
          rest.filter (fun node => decide (count node - 1 = 0)) := by
        apply List.filter_congr
        intro node member
        have different : node ≠ first := by
          rintro rfl
          exact fresh member
        rw [Function.update_of_ne different]
      rw [release]
      refine (ih restDistinct _ _).trans ?_
      rw [unchanged, Function.update_self]
      by_cases zero : count first - 1 = 0
      · rw [if_pos zero, List.filter_cons, if_pos (decide_eq_true zero)]
        refine ((sortByKey_perm id (ready ++ [first])).append_right _).trans ?_
        rw [List.append_assoc, List.singleton_append]
      · rw [if_neg zero, List.filter_cons, if_neg (by simpa using zero)]

/-! ## The invariant of the visits -/

/-- Every count is the number of edges from nodes not visited yet; the nodes of
count zero are exactly those that are visited or ready. -/
structure Visited (nodes : List Node) (edges : List (Node × Node)) (count : Node → Nat)
    (ready order : List Node) : Prop where
  count_eq : ∀ node, count node =
    (edges.filter (fun edge => decide (edge.2 = node ∧ edge.1 ∉ order))).length
  nodup : (order ++ ready).Nodup
  zero_iff : ∀ node, node ∈ order ++ ready ↔ node ∈ nodes ∧ count node = 0

/-- Leaving out one further source lowers the count exactly when there is an edge. -/
theorem count_after_visit {edges : List (Node × Node)} (distinct : edges.Nodup)
    {order : List Node} {visited : Node} (fresh : visited ∉ order) (node : Node) :
    (edges.filter (fun edge => decide (edge.2 = node ∧ edge.1 ∉ order))).length =
      (edges.filter (fun edge => decide (edge.2 = node ∧ edge.1 ∉ order ++ [visited]))).length +
        if (visited, node) ∈ edges then 1 else 0 := by
  induction edges with
  | nil => simp
  | cons edge rest ih =>
      rcases edge with ⟨source, destination⟩
      rcases List.nodup_cons.mp distinct with ⟨newEdge, restDistinct⟩
      have onward := ih restDistinct
      by_cases same : (visited, node) = (source, destination)
      · cases same
        have absent : (visited, node) ∉ rest := newEdge
        rw [if_neg absent, Nat.add_zero] at onward
        have counted : (node = node ∧ visited ∉ order) := ⟨rfl, fresh⟩
        rw [List.filter_cons, if_pos (decide_eq_true counted), List.filter_cons,
          if_neg (by simp), if_pos List.mem_cons_self, List.length_cons, onward]
      · have onlyRest : (visited, node) ∈ (source, destination) :: rest ↔
            (visited, node) ∈ rest := by
          rw [List.mem_cons, or_iff_right same]
        have keeps : (destination = node ∧ source ∉ order ++ [visited]) ↔
            (destination = node ∧ source ∉ order) := by
          simp only [List.mem_append, List.mem_singleton, not_or]
          constructor
          · rintro ⟨ends, unvisited, _⟩
            exact ⟨ends, unvisited⟩
          · rintro ⟨ends, unvisited⟩
            refine ⟨ends, unvisited, ?_⟩
            intro isVisited
            exact same (by rw [isVisited, ends])
        simp only [onlyRest, List.filter_cons, keeps]
        split
        · simp only [List.length_cons, onward]
          omega
        · exact onward

variable {nodes : List Node}

theorem Visited.next {edges : List (Node × Node)} (distinct : edges.Nodup)
    (inside : ∀ edge ∈ edges, edge.2 ∈ nodes) {count : Node → Nat} {node : Node}
    {ready order : List Node} (visited : Visited nodes edges count (node :: ready) order) :
    Visited nodes edges (release (successors edges node) count ready).1
      (release (successors edges node) count ready).2 (order ++ [node]) := by
  have released := nodup_successors distinct node
  have fresh : node ∉ order := by
    intro member
    exact (List.nodup_append.mp visited.nodup).2.2 node member node List.mem_cons_self rfl
  have counted : ∀ other, count other =
      (edges.filter (fun edge => decide (edge.2 = other ∧ edge.1 ∉ order ++ [node]))).length +
        if other ∈ successors edges node then 1 else 0 := by
    intro other
    rw [visited.count_eq other, count_after_visit distinct fresh other]
    simp only [mem_successors]
  have positive : ∀ other ∈ successors edges node, 0 < count other := by
    intro other member
    rw [counted other, if_pos member]
    omega
  have after : ∀ other, (release (successors edges node) count ready).1 other =
      (edges.filter (fun edge =>
        decide (edge.2 = other ∧ edge.1 ∉ order ++ [node]))).length := by
    intro other
    rw [release_count released, counted other]
    split <;> omega
  have reordered : (order ++ [node] ++ (release (successors edges node) count ready).2).Perm
      (order ++ node :: ready ++
        (successors edges node).filter (fun other => decide (count other - 1 = 0))) := by
    refine ((release_ready released count ready).append_left _).trans ?_
    simp
  refine ⟨after, ?_, ?_⟩
  · rw [reordered.nodup_iff, List.nodup_append]
    refine ⟨visited.nodup, released.filter _, ?_⟩
    intro old oldMember new newMember same
    have zero := ((visited.zero_iff old).mp oldMember).2
    have more := positive new (List.mem_filter.mp newMember).1
    rw [← same] at more
    omega
  · intro other
    rw [reordered.mem_iff, List.mem_append, visited.zero_iff other, List.mem_filter,
      decide_eq_true_eq, release_count released]
    by_cases member : other ∈ successors edges node
    · have more := positive other member
      rw [if_pos member]
      constructor
      · rintro (⟨known, zero⟩ | ⟨_, zero⟩)
        · omega
        · exact ⟨inside _ (mem_successors.mp member), zero⟩
      · rintro ⟨_, zero⟩
        exact Or.inr ⟨member, zero⟩
    · rw [if_neg member]
      simp [member]

theorem visitReady_visited {edges : List (Node × Node)}
    (distinct : edges.Nodup) (inside : ∀ edge ∈ edges, edge.2 ∈ nodes) (fuel : Nat)
    (count : Node → Nat) (ready order : List Node)
    (visited : Visited nodes edges count ready order) :
    Visited nodes edges (visitReady edges fuel count ready order).1
      (visitReady edges fuel count ready order).2.1
      (visitReady edges fuel count ready order).2.2 := by
  induction fuel generalizing count ready order with
  | zero => exact visited
  | succ fuel ih =>
      cases ready with
      | nil => exact visited
      | cons node ready => exact ih _ _ _ (visited.next distinct inside)

/-- The counts that the sort starts with, before any visit. -/
theorem incomingCount_visited {edges : List (Node × Node)}
    (nodesDistinct : nodes.Nodup) :
    Visited nodes edges (incomingCount edges)
      (sortByKey id (nodes.filter (fun node => decide (incomingCount edges node = 0)))) [] := by
  refine ⟨?_, ?_, ?_⟩
  · intro node
    simp [incomingCount]
  · rw [List.nil_append, (sortByKey_perm _ _).nodup_iff]
    exact nodesDistinct.filter _
  · intro node
    simp

/-- The sort keeps the invariant from the counts it starts with. -/
theorem topologicalSort_visited {edges : List (Node × Node)}
    (nodesDistinct : nodes.Nodup) (distinct : edges.Nodup)
    (inside : ∀ edge ∈ edges, edge.2 ∈ nodes) :
    Visited nodes edges (topologicalSort nodes edges).1 (topologicalSort nodes edges).2.1
      (topologicalSort nodes edges).2.2 :=
  visitReady_visited distinct inside _ _ _ _ (incomingCount_visited nodesDistinct)

theorem visitReady_length (edges : List (Node × Node)) (fuel : Nat) (count : Node → Nat)
    (ready order : List Node) :
    (visitReady edges fuel count ready order).2.1 = [] ∨
      (visitReady edges fuel count ready order).2.2.length = order.length + fuel := by
  induction fuel generalizing count ready order with
  | zero => exact Or.inr rfl
  | succ fuel ih =>
      cases ready with
      | nil => exact Or.inl rfl
      | cons node ready =>
          rcases ih (release (successors edges node) count ready).1
            (release (successors edges node) count ready).2 (order ++ [node]) with done | long
          · exact Or.inl done
          · right
            rw [visitReady, long, List.length_append, List.length_singleton]
            omega

/-- As many visits as there are nodes are enough: none is left waiting. -/
theorem topologicalSort_finishes {edges : List (Node × Node)}
    (nodesDistinct : nodes.Nodup) (distinct : edges.Nodup)
    (inside : ∀ edge ∈ edges, edge.2 ∈ nodes) : (topologicalSort nodes edges).2.1 = [] := by
  have visited := topologicalSort_visited nodesDistinct distinct inside
  rcases visitReady_length edges nodes.length (incomingCount edges)
    (sortByKey id (nodes.filter (fun node => decide (incomingCount edges node = 0)))) [] with
    done | long
  · exact done
  · have all : ((topologicalSort nodes edges).2.2 ++ (topologicalSort nodes edges).2.1).length ≤
        nodes.length :=
      (List.subperm_of_subset visited.nodup
        (fun node member => ((visited.zero_iff node).mp member).1)).length_le
    have order : (topologicalSort nodes edges).2.2.length = nodes.length := by
      rw [topologicalSort, long, List.length_nil, Nat.zero_add]
    rw [List.length_append, order] at all
    exact List.eq_nil_of_length_eq_zero (by omega)

/-- The order repeats no node and contains only nodes of the graph. -/
theorem nodup_topologicalSort {edges : List (Node × Node)}
    (nodesDistinct : nodes.Nodup) (distinct : edges.Nodup)
    (inside : ∀ edge ∈ edges, edge.2 ∈ nodes) :
    (topologicalSort nodes edges).2.2.Nodup ∧
      ∀ node ∈ (topologicalSort nodes edges).2.2, node ∈ nodes := by
  have visited := topologicalSort_visited nodesDistinct distinct inside
  refine ⟨(List.nodup_append.mp visited.nodup).1, ?_⟩
  intro node member
  exact ((visited.zero_iff node).mp (List.mem_append_left _ member)).1

/-! ## Listings of the same graph -/

section Listings

variable {edges otherEdges : List (Node × Node)}

theorem sortByKey_id_perm {items others : List Node} (same : items.Perm others) :
    sortByKey id items = sortByKey id others :=
  sortByKey_eq_of_perm same fun _ _ _ _ equal => equal

theorem successors_perm (same : edges.Perm otherEdges) (node : Node) :
    successors edges node = successors otherEdges node :=
  sortByKey_id_perm ((same.filter _).map _)

theorem incomingCount_perm (same : edges.Perm otherEdges) :
    incomingCount edges = incomingCount otherEdges := by
  funext node
  exact (same.filter _).length_eq

theorem visitReady_perm (same : edges.Perm otherEdges) (fuel : Nat) (count : Node → Nat)
    (ready order : List Node) :
    visitReady edges fuel count ready order = visitReady otherEdges fuel count ready order := by
  induction fuel generalizing count ready order with
  | zero => rfl
  | succ fuel ih =>
      cases ready with
      | nil => rfl
      | cons node rest =>
          rw [visitReady, visitReady, successors_perm same]
          exact ih _ _ _

/-- The order is that of the graph: how its nodes and edges are listed does
not matter. -/
theorem topologicalSort_perm {nodes others : List Node} (same : nodes.Perm others)
    (sameEdges : edges.Perm otherEdges) :
    topologicalSort nodes edges = topologicalSort others otherEdges := by
  rw [topologicalSort, topologicalSort, incomingCount_perm sameEdges, same.length_eq,
    sortByKey_id_perm (same.filter _)]
  exact visitReady_perm sameEdges _ _ _ _

end Listings

end Foundation
end Synesthesia
