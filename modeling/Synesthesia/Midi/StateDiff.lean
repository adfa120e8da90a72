import Synesthesia.Foundation.Dict

namespace Synesthesia
namespace Midi

open Foundation

/-!
# Difference of two desired states

`midi/state_diff.py`: the one set difference that the output service, the
export and the debug synth share.  A key in both states is unchanged, whatever
its velocity.
-/

variable {Key Velocity : Type*} [DecidableEq Key]

/-- The keys that leave, in the previous order, and the notes that enter, in
the current order. -/
structure MidiStateDiff (Key Velocity : Type*) where
  removed : List Key
  added : List (Key × Velocity)
deriving DecidableEq, Repr

/-- The previous state contributes its keys only. -/
def diffMidiStates (previous : List Key) (current : Dict Key Velocity) :
    MidiStateDiff Key Velocity where
  removed := previous.filter (fun key => decide (key ∉ current.keys))
  added := current.entries.filter (fun entry => decide (entry.1 ∉ previous))

theorem mem_removed {previous : List Key} {current : Dict Key Velocity} {key : Key} :
    key ∈ (diffMidiStates previous current).removed ↔ key ∈ previous ∧ key ∉ current.keys := by
  simp [diffMidiStates]

theorem mem_added_keys {previous : List Key} {current : Dict Key Velocity} {key : Key} :
    key ∈ (diffMidiStates previous current).added.map Prod.fst ↔
      key ∈ current.keys ∧ key ∉ previous := by
  simp only [diffMidiStates, Dict.keys, List.mem_map, List.mem_filter, decide_eq_true_eq]
  constructor
  · rintro ⟨entry, ⟨member, absent⟩, rfl⟩
    exact ⟨⟨entry, member, rfl⟩, absent⟩
  · rintro ⟨⟨entry, member, rfl⟩, absent⟩
    exact ⟨entry, ⟨member, absent⟩, rfl⟩

end Midi
end Synesthesia
