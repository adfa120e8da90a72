import Mathlib

namespace Synesthesia
namespace Foundation

/-- The exceptions of the modelled language that its programs raise or let
escape, each with its message. -/
inductive PyError where
  | valueError (message : String)
  | typeError (message : String)
  | overflowError (message : String)
  | runtimeError (message : String)
  | timeoutError (message : String)
  | keyError (message : String)
  | osError (message : String)
deriving DecidableEq, Repr

/-! ## Sequences of computations that may fail -/

section Sequences

variable {Failure Value Result : Type} {computation : Except Failure Value}
  {continuation : Value → Except Failure Result}

theorem bind_eq_ok {result : Result} :
    (computation >>= continuation) = .ok result ↔
      ∃ value, computation = .ok value ∧ continuation value = .ok result := by
  cases computation with
  | error failure =>
      constructor
      · intro impossible
        cases impossible
      · rintro ⟨value, impossible, _⟩
        cases impossible
  | ok value =>
      constructor
      · exact fun finished => ⟨value, rfl, finished⟩
      · rintro ⟨other, same, finished⟩
        cases same
        exact finished

theorem map_eq_ok {change : Value → Result} {result : Result} :
    computation.map change = .ok result ↔
      ∃ value, computation = .ok value ∧ change value = result := by
  cases computation with
  | error failure =>
      constructor
      · intro impossible
        cases impossible
      · rintro ⟨_, impossible, _⟩
        cases impossible
  | ok value =>
      constructor
      · intro same
        cases same
        exact ⟨value, rfl, rfl⟩
      · rintro ⟨_, same, changed⟩
        cases same
        exact congrArg _ changed

/-- Where every step returns, the steps over a list return the results in order. -/
theorem mapM_eq_ok {Item : Type} {step : Item → Except Failure Result} {items : List Item}
    (returns : ∀ item ∈ items, ∃ result, step item = .ok result) :
    ∃ results, items.mapM step = .ok results ∧
      ∀ result, result ∈ results ↔ ∃ item ∈ items, step item = .ok result := by
  induction items with
  | nil => exact ⟨[], rfl, fun result => by simp⟩
  | cons item rest ih =>
      rcases returns item List.mem_cons_self with ⟨first, stepped⟩
      rcases ih (fun other member => returns other (List.mem_cons_of_mem _ member))
        with ⟨results, ran, listed⟩
      refine ⟨first :: results, ?_, ?_⟩
      · rw [List.mapM_cons, stepped, ran]
        rfl
      · intro result
        rw [List.mem_cons, listed]
        constructor
        · rintro (rfl | ⟨other, member, isResult⟩)
          · exact ⟨item, List.mem_cons_self, stepped⟩
          · exact ⟨other, List.mem_cons_of_mem _ member, isResult⟩
        · rintro ⟨other, member, isResult⟩
          rcases List.mem_cons.mp member with rfl | inRest
          · rw [stepped] at isResult
            exact Or.inl (Except.ok.inj isResult).symm
          · exact Or.inr ⟨other, inRest, isResult⟩

/-! ## Failures of a kind -/

/-- The computation fails, and its failure is of the given kind. -/
def FailsWith (kind : Failure → Prop) (computation : Except Failure Value) : Prop :=
  ∃ failure, computation = .error failure ∧ kind failure

section Kinds

variable {kind : Failure → Prop}

/-- Every failure of the computation is of the given kind. -/
def FailsOnlyWith (kind : Failure → Prop) (computation : Except Failure Value) : Prop :=
  ∀ failure, computation = .error failure → kind failure

theorem FailsOnlyWith.exists_ok (only : FailsOnlyWith kind computation)
    (safe : ¬ FailsWith kind computation) : ∃ value, computation = .ok value := by
  cases computation with
  | ok value => exact ⟨value, rfl⟩
  | error failure => exact absurd ⟨failure, rfl, only failure rfl⟩ safe

end Kinds

end Sequences

/-! ## Two computations side by side -/

/-- Either both computations raise, or both return and the values are related. -/
structure AgreeBy {Failure Value Other : Type} (related : Value → Other → Prop)
    (computation : Except Failure Value) (other : Except Failure Other) : Prop where
  raises : (∃ failure, other = .error failure) ↔ ∃ failure, computation = .error failure
  returns : ∀ value otherValue, computation = .ok value → other = .ok otherValue →
    related value otherValue

section Agreement

variable {Failure Value Other Result OtherResult : Type} {related : Value → Other → Prop}
  {computation : Except Failure Value} {other : Except Failure Other}

theorem agreeBy_ok {value : Value} {otherValue : Other} (alike : related value otherValue) :
    AgreeBy related (.ok value : Except Failure Value) (.ok otherValue) := by
  refine ⟨by simp, ?_⟩
  intro first second isFirst isSecond
  cases isFirst
  cases isSecond
  exact alike

theorem agreeBy_refl (computation : Except Failure Value) : AgreeBy Eq computation computation := by
  refine ⟨Iff.rfl, ?_⟩
  intro value otherValue returned otherReturned
  exact Except.ok.inj (returned.symm.trans otherReturned)

/-- What returns on one side returns on the other. -/
theorem AgreeBy.exists_ok (agree : AgreeBy related computation other) {value : Value}
    (returned : computation = .ok value) :
    ∃ otherValue, other = .ok otherValue ∧ related value otherValue := by
  cases isOther : other with
  | error failure =>
      rcases agree.raises.mp ⟨failure, isOther⟩ with ⟨_, raised⟩
      rw [returned] at raised
      cases raised
  | ok otherValue => exact ⟨otherValue, rfl, agree.returns value otherValue returned isOther⟩

/-- Computations that agree are continued alike. -/
theorem AgreeBy.bind {results : Result → OtherResult → Prop}
    {continuation : Value → Except Failure Result}
    {otherContinuation : Other → Except Failure OtherResult}
    (agree : AgreeBy related computation other)
    (continues : ∀ value otherValue, computation = .ok value → related value otherValue →
      AgreeBy results (continuation value) (otherContinuation otherValue)) :
    AgreeBy results (computation >>= continuation) (other >>= otherContinuation) := by
  cases isFirst : computation with
  | error failure =>
      rcases agree.raises.mpr ⟨failure, isFirst⟩ with ⟨otherFailure, raised⟩
      rw [raised]
      refine ⟨⟨fun _ => ⟨failure, rfl⟩, fun _ => ⟨otherFailure, rfl⟩⟩, ?_⟩
      intro value otherValue impossible
      cases impossible
  | ok value =>
      rcases agree.exists_ok isFirst with ⟨otherValue, isOther, alike⟩
      rw [isOther]
      exact continues value otherValue isFirst alike

theorem AgreeBy.map {results : Result → OtherResult → Prop} {change : Value → Result}
    {otherChange : Other → OtherResult} (agree : AgreeBy related computation other)
    (changed : ∀ value otherValue, related value otherValue →
      results (change value) (otherChange otherValue)) :
    AgreeBy results (computation.map change) (other.map otherChange) := by
  have continued : AgreeBy results (computation >>= fun value => pure (change value))
      (other >>= fun value => pure (otherChange value)) :=
    agree.bind (fun value otherValue _ alike => agreeBy_ok (changed value otherValue alike))
  rw [bind_pure_comp, bind_pure_comp] at continued
  exact continued

end Agreement

end Foundation
end Synesthesia
