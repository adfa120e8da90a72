import Synesthesia.Foundation.TopologicalSort

namespace Synesthesia
namespace Foundation

/-!
# Longest paths of acyclic graphs

A topological sweep that raises every successor above the visited node ends
with the length of the longest path to each node.  Where the sweep cannot
visit all nodes, the graph has a cycle.
-/

/-! ## Paths and their lengths -/

section Paths

variable {Node : Type*} (edge : Node → Node → Prop)

/-- A path of some length leads to a node. -/
inductive PathTo : Nat → Node → Prop
  | start (node : Node) : PathTo 0 node
  | step {length : Nat} {earlier later : Node} (path : PathTo length earlier)
      (next : edge earlier later) : PathTo (length + 1) later

/-- No path to the node is longer. -/
structure IsLongestPath (length : Nat) (node : Node) : Prop where
  path : PathTo edge length node
  longest : ∀ other, PathTo edge other node → other ≤ length

variable {edge}

theorem IsLongestPath.unique {left right : Nat} {node : Node}
    (first : IsLongestPath edge left node) (second : IsLongestPath edge right node) :
    left = right :=
  le_antisymm (second.longest left first.path) (first.longest right second.path)

/-- The longest path grows along an edge. -/
theorem IsLongestPath.lt {left right : Nat} {earlier later : Node}
    (first : IsLongestPath edge left earlier) (second : IsLongestPath edge right later)
    (next : edge earlier later) : left < right :=
  second.longest _ (first.path.step next)

end Paths

/-! ## Levels -/

section Levels

variable {Node : Type*} {edge : Node → Node → Prop} {levels raised : Node → Nat}
  {order : List Node}

/-- The levels after some visits: a node is just above the highest visited
node that has an edge to it. -/
structure Layered (edge : Node → Node → Prop) (levels : Node → Nat) (order : List Node) :
    Prop where
  above : ∀ earlier ∈ order, ∀ later, edge earlier later → levels earlier < levels later
  reached : ∀ node, levels node = 0 ∨
    ∃ earlier ∈ order, edge earlier node ∧ levels node = levels earlier + 1

theorem layered_nil : Layered edge (fun _ => 0) [] where
  above := List.forall_mem_nil _
  reached := fun _ => Or.inl rfl

/-- A visit raises the successors of a node above it; it must not raise nodes
that have been visited. -/
theorem Layered.visit {node : Node} (layered : Layered edge levels order)
    (settled : ∀ visited ∈ order ++ [node], ¬ edge node visited)
    (raises : ∀ other, edge node other → raised other = max (levels other) (levels node + 1))
    (others : ∀ other, ¬ edge node other → raised other = levels other) :
    Layered edge raised (order ++ [node]) := by
  have kept : ∀ visited ∈ order ++ [node], raised visited = levels visited :=
    fun visited member => others visited (settled visited member)
  have higher : ∀ other, levels other ≤ raised other := by
    intro other
    by_cases next : edge node other
    · rw [raises other next]
      exact le_max_left _ _
    · rw [others other next]
  have last : node ∈ order ++ [node] := List.mem_append_right _ (List.mem_singleton_self node)
  refine ⟨?_, ?_⟩
  · intro earlier member later next
    rw [kept earlier member]
    rcases List.mem_append.mp member with before | isNode
    · exact (layered.above earlier before later next).trans_le (higher later)
    · rw [List.mem_singleton.mp isNode] at next ⊢
      rw [raises later next]
      exact Nat.lt_of_succ_le (le_max_right _ _)
  · intro other
    by_cases next : edge node other
    · rw [raises other next]
      rcases max_choice (levels other) (levels node + 1) with unchanged | above
      · rw [unchanged]
        rcases layered.reached other with zero | ⟨earlier, before, toOther, level⟩
        · exact Or.inl zero
        · refine Or.inr ⟨earlier, List.mem_append_left _ before, toOther, ?_⟩
          rw [kept earlier (List.mem_append_left _ before), level]
      · rw [above]
        exact Or.inr ⟨node, last, next, by rw [kept node last]⟩
    · rw [others other next]
      rcases layered.reached other with zero | ⟨earlier, before, toOther, level⟩
      · exact Or.inl zero
      · refine Or.inr ⟨earlier, List.mem_append_left _ before, toOther, ?_⟩
        rw [kept earlier (List.mem_append_left _ before), level]

variable (layered : Layered edge levels order)
  (complete : ∀ earlier later, edge earlier later → earlier ∈ order)

include layered complete in
/-- Once every node with an edge is visited the levels are the longest paths. -/
theorem Layered.isLongestPath (node : Node) : IsLongestPath edge (levels node) node := by
  have leads : ∀ level node, levels node = level → PathTo edge level node := by
    intro level
    induction level with
    | zero => exact fun node _ => PathTo.start node
    | succ level ih =>
        intro node isLevel
        rcases layered.reached node with zero | ⟨earlier, _, next, above⟩
        · omega
        · exact (ih earlier (by omega)).step next
  refine ⟨leads _ node rfl, ?_⟩
  intro other path
  induction path with
  | start node => exact Nat.zero_le _
  | step path next ih =>
      exact Nat.succ_le_of_lt (ih.trans_lt
        (layered.above _ (complete _ _ next) _ next))

include layered complete in
/-- Levels grow along paths, so no path returns to its start. -/
theorem Layered.acyclic (node : Node) : ¬ Relation.TransGen edge node node := by
  have grows : ∀ first last, Relation.TransGen edge first last → levels first < levels last := by
    intro first last path
    induction path with
    | single next => exact layered.above _ (complete _ _ next) _ next
    | tail _ next ih =>
        exact ih.trans (layered.above _ (complete _ _ next) _ next)
  exact fun cycle => (grows node node cycle).ne rfl

end Levels

/-! ## Cycles -/

/-- Where every node of a finite set has a predecessor in it, there is a cycle
through one of them. -/
theorem exists_cycle {Node : Type*} {edge : Node → Node → Prop} (nodes : List Node)
    (nonempty : nodes ≠ []) (preceded : ∀ node ∈ nodes, ∃ earlier ∈ nodes, edge earlier node) :
    ∃ node ∈ nodes, Relation.TransGen edge node node := by
  by_contra acyclic
  let between : {node // node ∈ nodes} → {node // node ∈ nodes} → Prop :=
    fun left right => Relation.TransGen edge left.1 right.1
  have transitive : IsTrans _ between := ⟨fun _ _ _ first second => first.trans second⟩
  have irreflexive : Std.Irrefl between := ⟨fun node cycle => acyclic ⟨node.1, node.2, cycle⟩⟩
  have finite : Finite {node // node ∈ nodes} := List.finite_toSet nodes
  have founded : WellFounded between := Finite.wellFounded_of_trans_of_irrefl between
  rcases List.exists_mem_of_ne_nil nodes nonempty with ⟨node, member⟩
  rcases founded.has_min Set.univ ⟨⟨node, member⟩, Set.mem_univ _⟩ with ⟨first, _, minimal⟩
  rcases preceded first.1 first.2 with ⟨earlier, isNode, next⟩
  exact minimal ⟨earlier, isNode⟩ (Set.mem_univ _) (Relation.TransGen.single next)

section Sweep

variable {Node : Type*} [LinearOrder Node] {nodes : List Node} {edges : List (Node × Node)}
  {count : Node → Nat} {ready order : List Node}

/-- A ready node has no edge to a node that is visited or ready. -/
theorem Visited.not_edge {node visitedNode : Node}
    (visited : Visited nodes edges count (node :: ready) order)
    (settled : visitedNode ∈ order ++ [node]) : (node, visitedNode) ∉ edges := by
  intro member
  have fresh : node ∉ order := by
    intro earlier
    exact (List.nodup_append.mp visited.nodup).2.2 node earlier node List.mem_cons_self rfl
  have known : visitedNode ∈ order ++ node :: ready := by
    rcases List.mem_append.mp settled with before | isNode
    · exact List.mem_append_left _ before
    · rw [List.mem_singleton.mp isNode]
      exact List.mem_append_right _ List.mem_cons_self
  have zero := ((visited.zero_iff visitedNode).mp known).2
  rw [visited.count_eq, List.length_eq_zero_iff, List.filter_eq_nil_iff] at zero
  exact zero (node, visitedNode) member (decide_eq_true ⟨rfl, fresh⟩)

/-- A finished sort that leaves out a node has met a cycle that leads to it. -/
theorem Visited.exists_cycle_before (visited : Visited nodes edges count [] order)
    (inside : ∀ edge ∈ edges, edge.1 ∈ nodes) {left : Node} (isNode : left ∈ nodes)
    (unvisited : left ∉ order) :
    ∃ node, Relation.TransGen (fun earlier later => (earlier, later) ∈ edges) node node ∧
      Relation.ReflTransGen (fun earlier later => (earlier, later) ∈ edges) node left := by
  classical
  let leads := fun node => Relation.ReflTransGen (fun earlier later => (earlier, later) ∈ edges)
    node left
  have remaining : ∀ node, node ∈ nodes.filter (fun node => decide (node ∉ order ∧ leads node)) ↔
      node ∈ nodes ∧ node ∉ order ∧ leads node := by
    intro node
    rw [List.mem_filter, decide_eq_true_eq]
  have preceded : ∀ node ∈ nodes.filter (fun node => decide (node ∉ order ∧ leads node)),
      ∃ earlier ∈ nodes.filter (fun node => decide (node ∉ order ∧ leads node)),
        (earlier, node) ∈ edges := by
    intro node member
    rcases (remaining node).mp member with ⟨isMember, isUnvisited, path⟩
    have positive : count node ≠ 0 := by
      intro zero
      have known := (visited.zero_iff node).mpr ⟨isMember, zero⟩
      rw [List.append_nil] at known
      exact isUnvisited known
    rw [visited.count_eq, Ne, List.length_eq_zero_iff, List.filter_eq_nil_iff] at positive
    push Not at positive
    rcases positive with ⟨⟨source, destination⟩, isEdge, counted⟩
    rcases of_decide_eq_true counted with ⟨rfl, isOpen⟩
    exact ⟨source, (remaining source).mpr ⟨inside _ isEdge, isOpen, path.head isEdge⟩, isEdge⟩
  rcases Foundation.exists_cycle _ (List.ne_nil_of_mem ((remaining left).mpr
    ⟨isNode, unvisited, Relation.ReflTransGen.refl⟩)) preceded with ⟨node, member, returns⟩
  exact ⟨node, returns, ((remaining node).mp member).2.2⟩

/-- A finished sort that leaves out a node has met a cycle. -/
theorem Visited.exists_cycle (visited : Visited nodes edges count [] order)
    (inside : ∀ edge ∈ edges, edge.1 ∈ nodes) {left : Node} (isNode : left ∈ nodes)
    (unvisited : left ∉ order) :
    ∃ node, Relation.TransGen (fun earlier later => (earlier, later) ∈ edges) node node := by
  rcases visited.exists_cycle_before inside isNode unvisited with ⟨node, returns, _⟩
  exact ⟨node, returns⟩

end Sweep

end Foundation
end Synesthesia
