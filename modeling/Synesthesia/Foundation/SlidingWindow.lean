import Mathlib

namespace Synesthesia
namespace Foundation

/-!
# Windows over a history

A component that keeps its last inputs is told by the end of its history: the
inputs since the last reset, the last input that did not fit, or the last
input of another kind.  The first part is the bounded queue in which such
components keep them, the second the end of a history itself.
-/

/-! ## Bounded queues -/

/-- `collections.deque`: a queue that may have a largest length. -/
structure Deque (Item : Type*) where
  items : List Item
  maxlen : Option Nat
  bounded : ∀ limit, maxlen = some limit → items.length ≤ limit

namespace Deque

variable {Item : Type*}

/-- `deque(maxlen=maxlen)`. -/
def empty (maxlen : Option Nat) : Deque Item := ⟨[], maxlen, fun _ _ => Nat.zero_le _⟩

/-- The last items that a largest length allows. -/
def allowed (maxlen : Option Nat) (items : List Item) : List Item :=
  match maxlen with
  | none => items
  | some limit => items.rtake limit

theorem length_allowed_le {maxlen : Option Nat} {limit : Nat} (same : maxlen = some limit)
    (items : List Item) : (allowed maxlen items).length ≤ limit := by
  rw [same, allowed, List.rtake, List.length_drop]
  omega

/-- An item is added at the end; a full queue loses its first one. -/
def append (deque : Deque Item) (item : Item) : Deque Item :=
  ⟨allowed deque.maxlen (deque.items ++ [item]), deque.maxlen,
    fun _ same => length_allowed_le same _⟩

def clear (deque : Deque Item) : Deque Item := empty deque.maxlen

@[simp] theorem items_empty (maxlen : Option Nat) : (empty maxlen : Deque Item).items = [] := rfl

@[simp] theorem maxlen_empty (maxlen : Option Nat) :
    (empty maxlen : Deque Item).maxlen = maxlen := rfl

@[simp] theorem items_clear (deque : Deque Item) : deque.clear.items = [] := rfl

@[simp] theorem maxlen_clear (deque : Deque Item) : deque.clear.maxlen = deque.maxlen := rfl

@[simp] theorem maxlen_append (deque : Deque Item) (item : Item) :
    (deque.append item).maxlen = deque.maxlen := rfl

/-- The last items of a longer list are among the last items and the new one. -/
theorem rtake_rtake_append (items : List Item) (item : Item) (limit : Nat) :
    (items.rtake limit ++ [item]).rtake limit = (items ++ [item]).rtake limit := by
  cases limit with
  | zero => rw [List.rtake_zero, List.rtake_zero]
  | succ limit =>
      rw [List.rtake_concat_succ, List.rtake_concat_succ, List.rtake, List.rtake, List.rtake,
        List.drop_drop, List.length_drop]
      congr 2
      omega

/-- The first of the last items is as far from the end as they are many. -/
theorem head?_rtake {items : List Item} {limit : Nat} (positive : 1 ≤ limit)
    (enough : limit ≤ items.length) :
    (items.rtake limit).head? = items.reverse[limit - 1]? := by
  rw [List.rtake, List.head?_drop, List.getElem?_reverse (by omega)]
  congr 1
  omega

theorem length_rtake (items : List Item) (limit : Nat) :
    (items.rtake limit).length = min limit items.length := by
  rw [List.rtake, List.length_drop]
  omega

/-- A queue of the last items stays one. -/
theorem items_append_of_rtake {deque : Deque Item} {limit : Nat} {items : List Item}
    (maxlen : deque.maxlen = some limit) (last : deque.items = items.rtake limit) (item : Item) :
    (deque.append item).items = (items ++ [item]).rtake limit := by
  have kept : (deque.append item).items = allowed deque.maxlen (deque.items ++ [item]) := rfl
  rw [kept, maxlen, last]
  exact rtake_rtake_append items item limit

end Deque

/-! ## The end of a history -/

inductive HistoryEvent (Input Reason : Type*) where
  | input (input : Input)
  | reset (reason : Reason)

section Stretch

variable {Input Reason Key : Type*} [DecidableEq Key] (key : Input → Key) (fits : Input → Prop)

/-- The history ends with these inputs, which all fit and have one key. -/
structure IsStretch (history : List (HistoryEvent Input Reason)) (stretch : List Input) : Prop where
  ending : stretch.map HistoryEvent.input <:+ history
  fitting : ∀ input ∈ stretch, fits input
  alike : ∀ first ∈ stretch, ∀ second ∈ stretch, key first = key second

/-- No longer list of inputs is a stretch. -/
def IsLongestStretch (history : List (HistoryEvent Input Reason)) (stretch : List Input) : Prop :=
  IsStretch key fits history stretch ∧
    ∀ other, IsStretch key fits history other → other.length ≤ stretch.length

variable {key fits} {history : List (HistoryEvent Input Reason)} {stretch : List Input}
  {input : Input}

omit [DecidableEq Key] in
theorem isStretch_nil : IsStretch key fits history [] where
  ending := List.nil_suffix
  fitting := List.forall_mem_nil _
  alike := List.forall_mem_nil _

omit [DecidableEq Key] in
/-- Nothing before a reset belongs to a stretch. -/
theorem IsStretch.eq_nil_of_reset {reason : Reason}
    (isStretch : IsStretch key fits (history ++ [.reset reason]) stretch) :
    stretch = [] := by
  rcases List.suffix_concat_iff.mp isStretch.ending with empty | ⟨front, split, _⟩
  · exact List.map_eq_nil_iff.mp empty
  · rcases List.map_eq_append_iff.mp split with ⟨_, last, _, _, isLast⟩
    rcases List.map_eq_singleton_iff.mp isLast with ⟨_, _, impossible⟩
    cases impossible

omit [DecidableEq Key] in
/-- A stretch that ends with an input is a stretch before it. -/
theorem IsStretch.eq_nil_or_append
    (isStretch : IsStretch key fits (history ++ [.input input]) stretch) :
    stretch = [] ∨ ∃ front, stretch = front ++ [input] ∧ IsStretch key fits history front := by
  rcases List.suffix_concat_iff.mp isStretch.ending with empty | ⟨front, split, isSuffix⟩
  · exact Or.inl (List.map_eq_nil_iff.mp empty)
  · rcases List.map_eq_append_iff.mp split with ⟨before, last, rfl, rfl, isLast⟩
    rcases List.map_eq_singleton_iff.mp isLast with ⟨value, rfl, same⟩
    cases same
    refine Or.inr ⟨before, rfl, isSuffix, ?_, ?_⟩
    · exact fun value member => isStretch.fitting value (List.mem_append_left _ member)
    · exact fun first isFirst second isSecond => isStretch.alike first
        (List.mem_append_left _ isFirst) second (List.mem_append_left _ isSecond)

omit [DecidableEq Key] in
/-- A stretch whose inputs have the key of a further fitting input goes on. -/
theorem IsStretch.append (isStretch : IsStretch key fits history stretch) (fitting : fits input)
    (same : ∀ earlier ∈ stretch, key earlier = key input) :
    IsStretch key fits (history ++ [.input input]) (stretch ++ [input]) := by
  have toLast : ∀ member ∈ stretch ++ [input], key member = key input := by
    intro member isMember
    rcases List.mem_append.mp isMember with earlier | last
    · exact same member earlier
    · rw [List.mem_singleton.mp last]
  refine ⟨?_, ?_, ?_⟩
  · rw [List.map_append]
    exact List.suffix_concat_iff.mpr (Or.inr ⟨_, rfl, isStretch.ending⟩)
  · intro member isMember
    rcases List.mem_append.mp isMember with earlier | last
    · exact isStretch.fitting member earlier
    · rw [List.mem_singleton.mp last]
      exact fitting
  · intro first isFirst second isSecond
    rw [toLast first isFirst, toLast second isSecond]

omit [DecidableEq Key] in
/-- Every stretch is an end of the longest one. -/
theorem IsLongestStretch.isSuffix {other : List Input}
    (longest : IsLongestStretch key fits history stretch)
    (isStretch : IsStretch key fits history other) : other <:+ stretch := by
  have suffix := List.suffix_of_suffix_length_le isStretch.ending longest.1.ending
    (by simpa using longest.2 other isStretch)
  rcases suffix with ⟨front, split⟩
  rcases List.map_eq_append_iff.mp split.symm with ⟨before, after, rfl, _, same⟩
  rw [← List.map_injective_iff.mpr (fun _ _ equal => HistoryEvent.input.inj equal) same]
  exact List.suffix_append before after

/-! ## The longest stretch, event by event -/

variable [DecidablePred fits]

variable (key) in
omit [DecidablePred fits] in
/-- The stretch that an input of a key goes on with. -/
def carriedOn (stretch : List Input) (input : Input) : List Input :=
  if stretch.getLast?.map key = some (key input) then stretch else []

variable (key fits) in
/-- The longest stretch after a further event. -/
def extend (stretch : List Input) : HistoryEvent Input Reason → List Input
  | .reset _ => []
  | .input input => if fits input then carriedOn key stretch input ++ [input] else []

variable (key fits) in
def stretchOf (history : List (HistoryEvent Input Reason)) : List Input :=
  history.foldl (extend key fits) []

theorem stretchOf_append (history : List (HistoryEvent Input Reason))
    (event : HistoryEvent Input Reason) :
    stretchOf key fits (history ++ [event]) =
      extend key fits (stretchOf key fits history) event := by
  rw [stretchOf, List.foldl_append]
  rfl

/-- One event keeps the longest stretch the longest. -/
theorem IsLongestStretch.extend (longest : IsLongestStretch key fits history stretch)
    (event : HistoryEvent Input Reason) :
    IsLongestStretch key fits (history ++ [event]) (extend key fits stretch event) := by
  cases event with
  | reset reason =>
      refine ⟨isStretch_nil, fun other isStretch => ?_⟩
      rw [isStretch.eq_nil_of_reset]
      exact Nat.zero_le _
  | input input =>
      rw [Foundation.extend, carriedOn]
      split_ifs with fitting same
      · have keys : ∀ earlier ∈ stretch, key earlier = key input := by
          rcases Option.map_eq_some_iff.mp same with ⟨last, isLast, lastKey⟩
          intro earlier member
          rw [longest.1.alike earlier member last (List.mem_of_getLast? isLast), lastKey]
        refine ⟨longest.1.append fitting keys, fun other isStretch => ?_⟩
        rcases isStretch.eq_nil_or_append with rfl | ⟨front, rfl, isFront⟩
        · exact Nat.zero_le _
        · rw [List.length_append, List.length_append]
          exact Nat.add_le_add_right (longest.2 front isFront) _
      · refine ⟨isStretch_nil.append fitting (List.forall_mem_nil _), fun other isStretch => ?_⟩
        rcases isStretch.eq_nil_or_append with rfl | ⟨front, rfl, isFront⟩
        · exact Nat.zero_le _
        · -- a nonempty front would end as the longest stretch does, with the key of the input
          have empty : front = [] := by
            by_contra nonempty
            have last := (longest.isSuffix isFront).getLast nonempty
            have isLast := List.getLast?_eq_some_getLast
              ((longest.isSuffix isFront).ne_nil nonempty)
            apply same
            rw [isLast, Option.map_some, ← last]
            exact congrArg some (isStretch.alike _
              (List.mem_append_left _ (List.getLast_mem nonempty)) input
              (List.mem_append_right _ (List.mem_singleton_self input)))
          rw [empty]
      · refine ⟨isStretch_nil, fun other isStretch => ?_⟩
        rcases isStretch.eq_nil_or_append with rfl | ⟨front, rfl, _⟩
        · exact le_rfl
        · exact absurd (isStretch.fitting input
            (List.mem_append_right _ (List.mem_singleton_self input))) fitting

variable (key fits) in
theorem stretchOf_isLongest (history : List (HistoryEvent Input Reason)) :
    IsLongestStretch key fits history (stretchOf key fits history) := by
  induction history using List.reverseRecOn with
  | nil =>
      refine ⟨isStretch_nil, fun other isStretch => ?_⟩
      have empty := List.suffix_nil.mp isStretch.ending
      rw [List.map_eq_nil_iff.mp empty]
      exact Nat.zero_le _
  | append_singleton history event ih =>
      rw [stretchOf_append]
      exact ih.extend event

/-! ## A queue that remembers a stretch -/

section Remembers

variable {Item Signature : Type*} [DecidableEq Signature] (item : Input → Item)
  (signatureOf : Input → Signature) (limit : Input → Nat)

/-- The queue holds the last items of a stretch, as many as its inputs allow. -/
structure Remembers (stretch : List Input) (signature : Option Signature) (queue : Deque Item) :
    Prop where
  forgotten : stretch = [] → signature = none ∧ queue.items = []
  remembered : ∀ last, stretch.getLast? = some last → signature = some (signatureOf last) ∧
    queue.maxlen = some (limit last) ∧ queue.items = (stretch.map item).rtake (limit last)

/-- What the inputs of a stretch have in common. -/
def windowKey (input : Input) : Signature × Nat := (signatureOf input, limit input)

variable {item signatureOf limit} {signature : Option Signature} {queue : Deque Item}

omit [DecidableEq Signature] in
theorem remembers_nil (empty : queue.items = []) :
    Remembers item signatureOf limit [] none queue where
  forgotten := fun _ => ⟨rfl, empty⟩
  remembered := by
    intro last impossible
    cases impossible

namespace Remembers

variable (remembers : Remembers item signatureOf limit stretch signature queue)
include remembers

/-- The stretch goes on exactly when signature and length are those of the input. -/
theorem carriedOn_eq (input : Input) :
    carriedOn (windowKey signatureOf limit) stretch input =
      if signature = some (signatureOf input) ∧ queue.maxlen = some (limit input) then stretch
      else [] := by
  rw [carriedOn]
  cases isLast : stretch.getLast? with
  | none =>
      rw [(remembers.forgotten (List.getLast?_eq_none_iff.mp isLast)).1]
      simp
  | some last =>
      rcases remembers.remembered last isLast with ⟨rfl, sized, _⟩
      simp [sized, windowKey]

/-- A stretch that goes on has its last items in the queue. -/
theorem items_carriedOn
    (same : signature = some (signatureOf input)) (sized : queue.maxlen = some (limit input)) :
    queue.items =
      ((carriedOn (windowKey signatureOf limit) stretch input).map item).rtake (limit input) := by
  rw [remembers.carriedOn_eq input, if_pos ⟨same, sized⟩]
  cases isLast : stretch.getLast? with
  | none =>
      rw [(remembers.forgotten (List.getLast?_eq_none_iff.mp isLast)).1] at same
      cases same
  | some last =>
      rcases remembers.remembered last isLast with ⟨_, lastSized, items⟩
      rw [items, Option.some.inj (lastSized.symm.trans sized)]

/-- A stretch that ends here leaves nothing for the queue. -/
theorem carriedOn_eq_nil
    (changed : ¬ (signature = some (signatureOf input) ∧ queue.maxlen = some (limit input))) :
    carriedOn (windowKey signatureOf limit) stretch input = [] := by
  rw [remembers.carriedOn_eq input, if_neg changed]

end Remembers

omit [DecidableEq Signature] in
/-- The input joins the queue that holds the stretch before it. -/
theorem remembers_append {front : List Input} (sized : queue.maxlen = some (limit input))
    (items : queue.items = (front.map item).rtake (limit input)) :
    Remembers item signatureOf limit (front ++ [input]) (some (signatureOf input))
      (queue.append (item input)) where
  forgotten := fun impossible => absurd impossible (List.append_ne_nil_of_right_ne_nil _
    (List.cons_ne_nil _ _))
  remembered := by
    intro last isLast
    rw [List.getLast?_concat, Option.some.injEq] at isLast
    subst isLast
    refine ⟨rfl, sized, ?_⟩
    rw [Deque.items_append_of_rtake sized items, List.map_append]
    rfl

end Remembers

end Stretch

end Foundation
end Synesthesia
