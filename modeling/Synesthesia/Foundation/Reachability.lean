import Mathlib

namespace Synesthesia
namespace Foundation

/-!
# Reachability with a stack of pending nodes

Every node that is found for the first time is pushed once, so a number of
steps that counts the roots and all possible new nodes empties the stack.  The
nodes found are then exactly those that a path from a root leads to.
-/

variable {Node : Type*}

/-- Take a pending node and push those of its neighbours that are new. -/
def explore [DecidableEq Node] (next : Node → List Node) :
    Nat → List Node → List Node → List Node × List Node
  | 0, reachable, pending => (reachable, pending)
  | _ + 1, reachable, [] => (reachable, [])
  | fuel + 1, reachable, node :: pending =>
      let fresh := (next node).dedup.filter (fun neighbour => decide (neighbour ∉ reachable))
      explore next fuel (reachable ++ fresh) (fresh ++ pending)

/-- What is found has its neighbours found too, unless it is still pending; and
a path leads to it. -/
structure Explored (next : Node → List Node) (roots reachable pending : List Node) : Prop where
  roots_found : ∀ root ∈ roots, root ∈ reachable
  pending_found : ∀ node ∈ pending, node ∈ reachable
  closed : ∀ node ∈ reachable, node ∉ pending → ∀ neighbour ∈ next node, neighbour ∈ reachable
  path : ∀ node ∈ reachable, ∃ root ∈ roots,
    Relation.ReflTransGen (fun earlier later => later ∈ next earlier) root node

theorem explored_roots (next : Node → List Node) (roots : List Node) :
    Explored next roots roots roots := by
  refine ⟨fun _ => id, fun _ => id, ?_, ?_⟩
  · intro node member notPending
    exact absurd member notPending
  · intro node member
    exact ⟨node, member, Relation.ReflTransGen.refl⟩

variable [DecidableEq Node]

theorem Explored.step {next : Node → List Node} {roots reachable pending : List Node}
    {node : Node} (explored : Explored next roots reachable (node :: pending)) :
    Explored next roots
      (reachable ++ (next node).dedup.filter (fun neighbour => decide (neighbour ∉ reachable)))
      ((next node).dedup.filter (fun neighbour => decide (neighbour ∉ reachable)) ++ pending) := by
  have nodeFound := explored.pending_found node List.mem_cons_self
  refine ⟨?_, ?_, ?_, ?_⟩
  · intro root member
    exact List.mem_append_left _ (explored.roots_found root member)
  · intro found member
    rcases List.mem_append.mp member with isFresh | before
    · exact List.mem_append_right _ isFresh
    · exact List.mem_append_left _ (explored.pending_found found (List.mem_cons_of_mem _ before))
  · intro found member notPending neighbour isNext
    have settled : found ∈ reachable := by
      rcases List.mem_append.mp member with old | isFresh
      · exact old
      · exact absurd (List.mem_append_left _ isFresh) notPending
    by_cases known : neighbour ∈ reachable
    · exact List.mem_append_left _ known
    · by_cases same : found = node
      · apply List.mem_append_right
        rw [List.mem_filter, List.mem_dedup]
        exact ⟨same ▸ isNext, decide_eq_true known⟩
      · refine absurd (explored.closed found settled ?_ neighbour isNext) known
        intro waiting
        rcases List.mem_cons.mp waiting with here | later
        · exact same here
        · exact notPending (List.mem_append_right _ later)
  · intro found member
    rcases List.mem_append.mp member with old | isFresh
    · exact explored.path found old
    · rcases explored.path node nodeFound with ⟨root, isRoot, leads⟩
      have isNext := List.mem_dedup.mp (List.mem_filter.mp isFresh).1
      exact ⟨root, isRoot, leads.tail isNext⟩

theorem explore_explored {next : Node → List Node} (fuel : Nat)
    {roots reachable pending : List Node} (explored : Explored next roots reachable pending) :
    Explored next roots (explore next fuel reachable pending).1
      (explore next fuel reachable pending).2 := by
  induction fuel generalizing reachable pending with
  | zero => exact explored
  | succ fuel ih =>
      cases pending with
      | nil => exact explored
      | cons node pending => exact ih explored.step

/-- The nodes of a list that have not been found yet. -/
def unfound (nodes reachable : List Node) : List Node :=
  nodes.dedup.filter (fun node => decide (node ∉ reachable))

/-- What is newly found leaves the nodes that have not been found. -/
theorem length_unfound {nodes reachable fresh : List Node} (distinct : fresh.Nodup)
    (inside : ∀ node ∈ fresh, node ∈ nodes ∧ node ∉ reachable) :
    fresh.length + (unfound nodes (reachable ++ fresh)).length ≤
      (unfound nodes reachable).length := by
  rw [← List.length_append]
  refine (List.subperm_of_subset ?_ ?_).length_le
  · rw [List.nodup_append]
    refine ⟨distinct, (List.nodup_dedup nodes).filter _, ?_⟩
    intro left leftMember right rightMember same
    have notFound := of_decide_eq_true (List.mem_filter.mp rightMember).2
    exact notFound (List.mem_append_right _ (same ▸ leftMember))
  · intro node member
    rw [unfound, List.mem_filter, List.mem_dedup, decide_eq_true_eq]
    rcases List.mem_append.mp member with isFresh | rest
    · exact inside node isFresh
    · rcases List.mem_filter.mp rest with ⟨isNode, notFound⟩
      refine ⟨List.mem_dedup.mp isNode, ?_⟩
      intro found
      exact of_decide_eq_true notFound (List.mem_append_left _ found)

theorem explore_finishes {next : Node → List Node} {nodes : List Node}
    (inside : ∀ node, ∀ neighbour ∈ next node, neighbour ∈ nodes) (fuel : Nat)
    (reachable pending : List Node)
    (enough : pending.length + (unfound nodes reachable).length ≤ fuel) :
    (explore next fuel reachable pending).2 = [] := by
  induction fuel generalizing reachable pending with
  | zero => exact List.eq_nil_of_length_eq_zero (show pending.length = 0 by omega)
  | succ fuel ih =>
      cases pending with
      | nil => rfl
      | cons node pending =>
          apply ih
          have fewer : _ ≤ (unfound nodes reachable).length := length_unfound
            ((List.nodup_dedup (next node)).filter
              (fun neighbour => decide (neighbour ∉ reachable)))
            (fun neighbour member => ⟨inside node neighbour
              (List.mem_dedup.mp (List.mem_filter.mp member).1),
              of_decide_eq_true (List.mem_filter.mp member).2⟩)
          rw [List.length_append]
          rw [List.length_cons] at enough
          omega

/-- Explore from the roots; the list bounds the nodes that can be found. -/
def reachableFrom (next : Node → List Node) (nodes roots : List Node) : List Node :=
  (explore next (roots.length + nodes.length) roots roots).1

theorem mem_reachableFrom {next : Node → List Node} {nodes roots : List Node}
    (inside : ∀ node, ∀ neighbour ∈ next node, neighbour ∈ nodes) {node : Node} :
    node ∈ reachableFrom next nodes roots ↔ ∃ root ∈ roots,
      Relation.ReflTransGen (fun earlier later => later ∈ next earlier) root node := by
  have explored : Explored next roots _ _ :=
    explore_explored (roots.length + nodes.length) (explored_roots next roots)
  have finished : (explore next (roots.length + nodes.length) roots roots).2 = [] := by
    apply explore_finishes inside
    have few : (unfound nodes roots).length ≤ nodes.length :=
      Nat.le_trans (List.length_filter_le _ _) (List.dedup_sublist nodes).length_le
    omega
  rw [finished] at explored
  constructor
  · exact explored.path node
  · rintro ⟨root, isRoot, leads⟩
    induction leads with
    | refl => exact explored.roots_found root isRoot
    | tail _ isNext found => exact explored.closed _ found List.not_mem_nil _ isNext

end Foundation
end Synesthesia
