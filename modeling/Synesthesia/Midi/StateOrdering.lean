import Mathlib

namespace Synesthesia
namespace Midi

/-!
# Ordering of desired states against panics

`midi/state_ordering.py`: the rejection rule that the output service and the
debug synth share.  Generation 0 is not ordered by the engine and never stale.
-/

/-- The watermark of the most recent panic. -/
structure StateOrdering where
  staleUptoGeneration : Nat
deriving DecidableEq, Repr

def StateOrdering.recordPanic (ordering : StateOrdering) (publishGeneration : Nat) :
    StateOrdering :=
  ⟨max ordering.staleUptoGeneration publishGeneration⟩

def StateOrdering.isStale (ordering : StateOrdering) (publishGeneration : Nat) : Bool :=
  decide (0 < publishGeneration ∧ publishGeneration ≤ ordering.staleUptoGeneration)

end Midi
end Synesthesia
