import Synesthesia.Nodes.Temporal

namespace Synesthesia
namespace Nodes

open Foundation Contracts

/-!
# What the remembering nodes tell of their history

A history is a sequence of ticks and resets.  The inputs that a node still
remembers are the last ones of the longest stretch at the end of its history:
ticks that fit into the memory and agree in signature and queue length.
-/

/-! ## The buffer -/

/-- A tick of the buffer; its port carries array elements and its capacity is
a checked parameter. -/
structure BufferTick where
  value : ArrayItem
  capacity : Nat
  context : FrameContext

namespace BufferTick

def inputs (tick : BufferTick) : Dict String RuntimeValue :=
  Dict.ofEntries [("value", arrayItemValue tick.value)]

def parameters (tick : BufferTick) : Dict String ParameterValue :=
  Dict.ofEntries [("capacity", .int tick.capacity)]

def signature (tick : BufferTick) : BufferSignature := bufferSignature tick.value

/-- The tick stays within the memory limit. -/
def Fits (tick : BufferTick) : Prop :=
  (bufferItemBytes tick.value * tick.capacity : Int) ≤ bufferMemoryLimitBytes

instance : DecidablePred Fits := fun _ => inferInstanceAs (Decidable (_ ≤ _))

/-- What the ticks of a stretch agree in. -/
def key : BufferTick → BufferSignature × Nat := windowKey signature capacity

end BufferTick

abbrev BufferEvent := HistoryEvent BufferTick ResetReason

namespace BufferRuntime

def tick (runtime : BufferRuntime) (tick : BufferTick) :
    BufferRuntime × Except NodeFailure (Dict String RuntimeValue) :=
  runtime.process tick.inputs tick.parameters tick.context

def handle (runtime : BufferRuntime) : BufferEvent → BufferRuntime
  | .input input => (runtime.tick input).1
  | .reset reason => runtime.reset reason

/-- The runtime of a node after a history. -/
def after (nodeId : UUID) (history : List BufferEvent) : BufferRuntime :=
  history.foldl handle (create nodeId)

theorem after_append (nodeId : UUID) (history : List BufferEvent) (event : BufferEvent) :
    after nodeId (history ++ [event]) = (after nodeId history).handle event := by
  rw [after, List.foldl_append]
  rfl

theorem tick_eq_keep (runtime : BufferRuntime) (input : BufferTick) :
    runtime.tick input = runtime.keep input.value input.capacity := by
  rcases input with ⟨value, capacity, context⟩
  cases value <;> rfl

/-- The buffer holds the end of a stretch. -/
def Holds (stretch : List BufferTick) (runtime : BufferRuntime) : Prop :=
  Remembers BufferTick.value BufferTick.signature BufferTick.capacity stretch runtime.signature
    runtime.values

theorem holds_clearLocked (runtime : BufferRuntime) : Holds [] runtime.clearLocked :=
  remembers_nil rfl

variable {runtime : BufferRuntime} {stretch : List BufferTick}

/-- The queue for a tick holds what the stretch goes on with. -/
theorem receive_eq_ok (holds : Holds stretch runtime) (input : BufferTick) :
    ∃ received, runtime.receive input.capacity input.signature = .ok received ∧
      received.signature = some input.signature ∧
      received.values.maxlen = some input.capacity ∧
      received.values.items =
        ((carriedOn BufferTick.key stretch input).map BufferTick.value).rtake input.capacity := by
  have sameLength : some (input.capacity : Int) = runtime.values.maxlen.map Int.ofNat ↔
      runtime.values.maxlen = some input.capacity := by
    cases runtime.values.maxlen with
    | none => simp
    | some length => simp [eq_comm]
  rw [receive]
  by_cases same : runtime.signature = some input.signature ∧
      runtime.values.maxlen = some input.capacity
  · rw [if_neg (not_or.mpr ⟨not_not.mpr (sameLength.mpr same.2), not_not.mpr same.1.symm⟩)]
    exact ⟨runtime, rfl, same.1, same.2, holds.items_carriedOn same.1 same.2⟩
  · have changed : some (input.capacity : Int) ≠ runtime.values.maxlen.map Int.ofNat ∨
        some input.signature ≠ runtime.signature := by
      rw [Ne, sameLength, ← not_and_or]
      exact fun both => same ⟨both.2.symm, both.1⟩
    rw [if_pos changed, makeDeque_natCast]
    refine ⟨_, rfl, rfl, rfl, ?_⟩
    rw [BufferTick.key, holds.carriedOn_eq_nil same]
    simp

variable {input : BufferTick}

/-- A tick that does not fit reports it and forgets everything. -/
theorem keep_of_not_fits (large : ¬ input.Fits) :
    (runtime.keep input.value input.capacity).2 =
        .error (.expected "buffer_memory_limit"
          "Buffer estimated retained memory exceeds its 256 MiB safety limit"
          (some (memoryDetails (bufferItemBytes input.value * input.capacity)
            bufferMemoryLimitBytes))) ∧
      Holds [] (runtime.keep input.value input.capacity).1 := by
  rw [keep, if_pos (not_le.mp large)]
  exact ⟨rfl, holds_clearLocked _⟩

/-- A tick that fits outputs the end of its stretch. -/
theorem keep_of_fits (holds : Holds stretch runtime) (fits : input.Fits)
    (alike : ∀ earlier ∈ carriedOn BufferTick.key stretch input ++ [input],
      earlier.signature = input.signature) :
    (∃ array, (runtime.keep input.value input.capacity).2 =
        .ok (Dict.ofEntries [("values", .array array)]) ∧
      array.itemType = input.value.portType ∧
      array.values = ((carriedOn BufferTick.key stretch input ++ [input]).map
        BufferTick.value).rtake input.capacity) ∧
      Holds (carriedOn BufferTick.key stretch input ++ [input])
        (runtime.keep input.value input.capacity).1 := by
  have sameQueue : Holds stretch { runtime with
      capacity := input.capacity
      estimatedRetainedBytes := bufferItemBytes input.value * input.capacity } := holds
  rcases receive_eq_ok sameQueue input with ⟨received, accepted, signed, sized, items⟩
  have homogeneous : ∀ value ∈ (received.values.append input.value).items,
      value.portType = input.value.portType := by
    rw [Deque.items_append_of_rtake sized items]
    intro value member
    rw [← List.map_singleton (f := BufferTick.value), ← List.map_append] at member
    rcases List.mem_map.mp (List.mem_of_mem_drop member) with ⟨earlier, isEarlier, rfl⟩
    exact portType_of_bufferSignature (alike earlier isEarlier)
  rcases makeValueArray_of_alike homogeneous with ⟨array, made, itemType, values⟩
  rw [keep, if_neg (not_lt.mpr fits), show bufferSignature input.value = input.signature from rfl,
    accepted]
  dsimp only
  rw [made]
  refine ⟨⟨array, rfl, itemType, ?_⟩, ?_⟩
  · rw [values, Deque.items_append_of_rtake sized items, List.map_append]
    rfl
  · rw [Holds, signed]
    exact remembers_append sized items

theorem carriedOn_alike (history : List BufferEvent) (fits : input.Fits) :
    IsLongestStretch BufferTick.key BufferTick.Fits (history ++ [.input input])
        (carriedOn BufferTick.key (stretchOf BufferTick.key BufferTick.Fits history) input ++
          [input]) ∧
      ∀ earlier ∈ carriedOn BufferTick.key
          (stretchOf BufferTick.key BufferTick.Fits history) input ++ [input],
        earlier.signature = input.signature := by
  have longest := stretchOf_isLongest BufferTick.key BufferTick.Fits
    (history ++ [.input input])
  rw [stretchOf_append, extend, if_pos fits] at longest
  refine ⟨longest, fun earlier member => ?_⟩
  exact congrArg Prod.fst (longest.1.alike earlier member input
    (List.mem_append_right _ (List.mem_singleton_self input)))

/-- Every history leaves the end of its longest stretch in the buffer. -/
theorem holds_after (nodeId : UUID) (history : List BufferEvent) :
    Holds (stretchOf BufferTick.key BufferTick.Fits history) (after nodeId history) := by
  induction history using List.reverseRecOn with
  | nil => exact remembers_nil rfl
  | append_singleton history event ih =>
      rw [stretchOf_append, after_append]
      cases event with
      | reset reason => exact holds_clearLocked _
      | input input =>
          rw [handle, tick_eq_keep, extend]
          by_cases fits : input.Fits
          · rw [if_pos fits]
            exact (keep_of_fits ih fits (carriedOn_alike history fits).2).2
          · rw [if_neg fits]
            exact (keep_of_not_fits fits).2

/-- A tick outputs the last values of the longest stretch that it ends. -/
theorem tick_after (nodeId : UUID) (history : List BufferEvent)
    (fits : input.Fits) :
    ∃ stretch array,
      IsLongestStretch BufferTick.key BufferTick.Fits (history ++ [.input input]) stretch ∧
      ((after nodeId history).tick input).2 = .ok (Dict.ofEntries [("values", .array array)]) ∧
      array.itemType = input.value.portType ∧
      array.values = (stretch.map BufferTick.value).rtake input.capacity := by
  rcases carriedOn_alike history fits with ⟨longest, alike⟩
  rcases (keep_of_fits (holds_after nodeId history) fits alike).1 with
    ⟨array, output, itemType, values⟩
  exact ⟨_, array, longest, (congrArg Prod.snd (tick_eq_keep _ input)).trans output, itemType,
    values⟩

end BufferRuntime

/-! ## The delayed image -/

/-- A tick of the delay; its delay and its memory limit are checked parameters. -/
structure HoldTick where
  image : ImageFrame
  delayFrames : Nat
  memoryLimitMb : Nat
  context : FrameContext
  positive : 1 ≤ delayFrames

namespace HoldTick

def inputs (tick : HoldTick) : Dict String RuntimeValue :=
  Dict.ofEntries [("image", .image tick.image)]

def parameters (tick : HoldTick) : Dict String ParameterValue :=
  Dict.ofEntries [("delay_frames", .int tick.delayFrames),
    ("memory_limit_mb", .int tick.memoryLimitMb)]

def signature (tick : HoldTick) : FrameSignature := frameSignature tick.image

/-- The tick stays within its memory limit. -/
def Fits (tick : HoldTick) : Prop :=
  (nbytes tick.image.data * tick.delayFrames : Int) ≤ tick.memoryLimitMb * mebibyte

instance : DecidablePred Fits := fun _ => inferInstanceAs (Decidable (_ ≤ _))

/-- What the ticks of a stretch agree in. -/
def key : HoldTick → FrameSignature × Nat := windowKey signature delayFrames

end HoldTick

abbrev HoldEvent := HistoryEvent HoldTick ResetReason

/-- The image a number of positions back in a stretch, or no data. -/
def delayed (stretch : List HoldTick) (delayFrames : Nat) : RuntimeValue :=
  match stretch.reverse[delayFrames]? with
  | none => .noData
  | some earlier => .image earlier.image

namespace HoldImageRuntime

def tick (runtime : HoldImageRuntime) (tick : HoldTick) :
    HoldImageRuntime × Except NodeFailure (Dict String RuntimeValue) :=
  runtime.process tick.inputs tick.parameters tick.context

def handle (runtime : HoldImageRuntime) : HoldEvent → HoldImageRuntime
  | .input input => (runtime.tick input).1
  | .reset reason => runtime.reset reason

/-- The runtime of a node after a history. -/
def after (nodeId : UUID) (history : List HoldEvent) : HoldImageRuntime :=
  history.foldl handle (create nodeId)

theorem after_append (nodeId : UUID) (history : List HoldEvent) (event : HoldEvent) :
    after nodeId (history ++ [event]) = (after nodeId history).handle event := by
  rw [after, List.foldl_append]
  rfl

theorem tick_eq_hold (runtime : HoldImageRuntime) (input : HoldTick) :
    runtime.tick input = runtime.hold input.image input.delayFrames input.memoryLimitMb := rfl

/-- The queue holds the end of a stretch and has the length of the last delay. -/
structure Holds (stretch : List HoldTick) (runtime : HoldImageRuntime) : Prop where
  remembers : Remembers HoldTick.image HoldTick.signature HoldTick.delayFrames stretch
    runtime.signature runtime.history
  sized : runtime.delayFrames < 1 ∧ runtime.signature = none ∨
    1 ≤ runtime.delayFrames ∧ runtime.history.maxlen = some runtime.delayFrames.toNat

theorem holds_create (nodeId : UUID) : Holds [] (create nodeId) where
  remembers := remembers_nil rfl
  sized := Or.inl ⟨Int.zero_lt_one, rfl⟩

variable {runtime : HoldImageRuntime} {stretch : List HoldTick}

theorem Holds.clearLocked (holds : Holds stretch runtime) : Holds [] runtime.clearLocked where
  remembers := remembers_nil rfl
  sized := holds.sized.imp (fun unset => ⟨unset.1, rfl⟩) id

/-- A queue of the wanted length that holds what a stretch goes on with. -/
structure Ready (stretch : List HoldTick) (input : HoldTick) (runtime : HoldImageRuntime) :
    Prop where
  delay : runtime.delayFrames = input.delayFrames
  signed : runtime.signature = some input.signature
  sized : runtime.history.maxlen = some input.delayFrames
  items : runtime.history.items =
    ((carriedOn HoldTick.key stretch input).map HoldTick.image).rtake input.delayFrames

theorem prepare_eq_ok (holds : Holds stretch runtime) (input : HoldTick) (limit estimated : Int) :
    ∃ ready, runtime.prepare input.image input.delayFrames limit estimated = (ready, .ok ()) ∧
      Ready stretch input ready := by
  have signature : frameSignature input.image = input.signature := rfl
  rw [prepare, changeDelay]
  by_cases sameDelay : runtime.delayFrames = input.delayFrames
  · have sized : runtime.history.maxlen = some input.delayFrames := by
      rcases holds.sized with ⟨unset, _⟩ | ⟨_, sized⟩
      · have := input.positive
        omega
      · rw [sized, sameDelay, Int.toNat_natCast]
    rw [if_neg (not_not.mpr sameDelay)]
    refine ⟨_, rfl, ?_⟩
    rw [signature, changeSignature]
    by_cases same : runtime.signature = some input.signature
    · rw [if_neg (not_not.mpr same)]
      exact ⟨rfl, same, sized, holds.remembers.items_carriedOn same sized⟩
    · rw [if_pos same]
      refine ⟨rfl, rfl, sized, ?_⟩
      rw [HoldTick.key, holds.remembers.carriedOn_eq_nil fun both => same both.1]
      simp [HoldImageRuntime.clearLocked]
  · have changed : ¬ (runtime.signature = some input.signature ∧
        runtime.history.maxlen = some input.delayFrames) := by
      rintro ⟨signed, sized⟩
      rcases holds.sized with ⟨_, unsigned⟩ | ⟨positive, lastSized⟩
      · rw [unsigned] at signed
        cases signed
      · have lengths := Option.some.inj (lastSized.symm.trans sized)
        omega
    rw [if_pos sameDelay, makeDeque_natCast]
    refine ⟨_, rfl, ?_⟩
    rw [signature, changeSignature, if_pos (by simp [HoldImageRuntime.clearLocked])]
    refine ⟨rfl, rfl, rfl, ?_⟩
    rw [HoldTick.key, holds.remembers.carriedOn_eq_nil changed]
    simp [HoldImageRuntime.clearLocked]

/-- An image one position further back is an image of the stretch before. -/
theorem delayed_append (front : List HoldTick) (input : HoldTick) :
    delayed (front ++ [input]) input.delayFrames =
      match (front.map HoldTick.image).reverse[input.delayFrames - 1]? with
      | none => .noData
      | some image => .image image := by
  have split : input.delayFrames = input.delayFrames - 1 + 1 := by
    have := input.positive
    omega
  rw [delayed, List.reverse_append, split, List.reverse_singleton, List.singleton_append,
    List.getElem?_cons_succ, ← List.map_reverse, List.getElem?_map, Nat.add_sub_cancel]
  cases front.reverse[input.delayFrames - 1]? <;> rfl

variable {input : HoldTick}

/-- The image that is a delay behind leaves the queue and goes to the output. -/
theorem shift_eq_ok (ready : Ready stretch input runtime) :
    (runtime.shift input.image input.delayFrames).2 = .ok (Dict.ofEntries
        [("image", delayed (carriedOn HoldTick.key stretch input ++ [input]) input.delayFrames)]) ∧
      Holds (carriedOn HoldTick.key stretch input ++ [input])
        (runtime.shift input.image input.delayFrames).1 := by
  have positive := input.positive
  have kept : Holds (carriedOn HoldTick.key stretch input ++ [input])
      { runtime with history := runtime.history.append input.image } := by
    refine ⟨?_, Or.inr ⟨?_, ?_⟩⟩
    · dsimp only
      rw [ready.signed]
      exact remembers_append ready.sized ready.items
    · dsimp only
      rw [ready.delay]
      exact_mod_cast positive
    · dsimp only
      rw [ready.delay, Deque.maxlen_append, ready.sized, Int.toNat_natCast]
  rw [shift, ready.items, Deque.length_rtake, delayed_append]
  by_cases full : input.delayFrames ≤
      ((carriedOn HoldTick.key stretch input).map HoldTick.image).length
  · rw [if_pos (by rw [min_eq_left full]), Deque.head?_rtake positive full]
    have within : input.delayFrames - 1 <
        ((carriedOn HoldTick.key stretch input).map HoldTick.image).reverse.length := by
      rw [List.length_reverse]
      omega
    rw [List.getElem?_eq_getElem within]
    exact ⟨rfl, kept⟩
  · rw [if_neg (by omega), List.getElem?_eq_none (by rw [List.length_reverse]; omega)]
    exact ⟨rfl, kept⟩

/-- A tick that does not fit reports it and forgets everything. -/
theorem hold_of_not_fits (holds : Holds stretch runtime) (large : ¬ input.Fits) :
    (runtime.hold input.image input.delayFrames input.memoryLimitMb).2 =
        .error (.expected "hold_image_memory_limit"
          "Hold Image estimated retained memory exceeds memory_limit_mb"
          (some (memoryDetails (nbytes input.image.data * input.delayFrames)
            (input.memoryLimitMb * mebibyte)))) ∧
      Holds [] (runtime.hold input.image input.delayFrames input.memoryLimitMb).1 ∧
      (runtime.hold input.image input.delayFrames input.memoryLimitMb).1.history.items = [] := by
  rcases prepare_eq_ok holds input (input.memoryLimitMb * mebibyte)
    (nbytes input.image.data * input.delayFrames) with ⟨readied, prepared, ready⟩
  rw [hold, prepared]
  dsimp only
  rw [if_pos (not_le.mp large)]
  refine ⟨rfl, ⟨remembers_nil rfl, Or.inr ⟨?_, ?_⟩⟩, rfl⟩
  · exact ready.delay ▸ Int.ofNat_le.mpr input.positive
  · rw [HoldImageRuntime.clearLocked, ready.delay, Deque.maxlen_clear, ready.sized,
      Int.toNat_natCast]

/-- A tick that fits outputs the image of its stretch that is a delay behind. -/
theorem hold_of_fits (holds : Holds stretch runtime) (fits : input.Fits) :
    (runtime.hold input.image input.delayFrames input.memoryLimitMb).2 = .ok (Dict.ofEntries
        [("image", delayed (carriedOn HoldTick.key stretch input ++ [input]) input.delayFrames)]) ∧
      Holds (carriedOn HoldTick.key stretch input ++ [input])
        (runtime.hold input.image input.delayFrames input.memoryLimitMb).1 := by
  rcases prepare_eq_ok holds input (input.memoryLimitMb * mebibyte)
    (nbytes input.image.data * input.delayFrames) with ⟨readied, prepared, ready⟩
  rw [hold, prepared]
  dsimp only
  rw [if_neg (not_lt.mpr fits)]
  exact shift_eq_ok ready

/-- Every history leaves the end of its longest stretch in the queue. -/
theorem holds_after (nodeId : UUID) (history : List HoldEvent) :
    Holds (stretchOf HoldTick.key HoldTick.Fits history) (after nodeId history) := by
  induction history using List.reverseRecOn with
  | nil => exact holds_create nodeId
  | append_singleton history event ih =>
      rw [stretchOf_append, after_append]
      cases event with
      | reset reason => exact ih.clearLocked
      | input input =>
          rw [handle, tick_eq_hold, extend]
          by_cases fits : input.Fits
          · rw [if_pos fits]
            exact (hold_of_fits ih fits).2
          · rw [if_neg fits]
            exact (hold_of_not_fits ih fits).2.1

/-- A tick outputs the image that is a delay behind in the longest stretch
that it ends. -/
theorem tick_after (nodeId : UUID) (history : List HoldEvent)
    (fits : input.Fits) :
    ∃ stretch, IsLongestStretch HoldTick.key HoldTick.Fits (history ++ [.input input]) stretch ∧
      ((after nodeId history).tick input).2 =
        .ok (Dict.ofEntries [("image", delayed stretch input.delayFrames)]) := by
  have longest := stretchOf_isLongest HoldTick.key HoldTick.Fits (history ++ [.input input])
  rw [stretchOf_append, extend, if_pos fits] at longest
  exact ⟨_, longest, (hold_of_fits (holds_after nodeId history) fits).1⟩

/-- As many images as an event may leave behind. -/
def retainable : HoldEvent → Nat
  | .input input => input.delayFrames
  | .reset _ => 0

/-- The queue never holds more images than the last delay. -/
theorem length_history_le (nodeId : UUID) (history : List HoldEvent) (event : HoldEvent) :
    (after nodeId (history ++ [event])).history.items.length ≤ retainable event := by
  rw [after_append]
  cases event with
  | reset reason => exact le_rfl
  | input input =>
      rw [handle, tick_eq_hold, retainable]
      by_cases fits : input.Fits
      · have holds := (hold_of_fits (holds_after nodeId history) fits).2
        rcases holds.remembers.remembered input List.getLast?_concat with ⟨_, _, items⟩
        rw [items, Deque.length_rtake]
        exact min_le_left _ _
      · rw [(hold_of_not_fits (holds_after nodeId history) fits).2.2]
        exact Nat.zero_le _

end HoldImageRuntime

/-! ## Both nodes -/

/-- What the buffer outputs at the end of a history. -/
structure BufferEquals (nodeId : UUID) (history : List BufferEvent) (input : BufferTick) :
    Prop where
  output : input.Fits → ∃ stretch array,
    IsLongestStretch BufferTick.key BufferTick.Fits (history ++ [.input input]) stretch ∧
    ((BufferRuntime.after nodeId history).tick input).2 =
      .ok (Dict.ofEntries [("values", .array array)]) ∧
    array.itemType = input.value.portType ∧
    array.values = (stretch.map BufferTick.value).rtake input.capacity
  limit : ¬ input.Fits → ∃ message details,
    ((BufferRuntime.after nodeId history).tick input).2 =
      .error (.expected "buffer_memory_limit" message details)

/-- What the delay outputs at the end of a history. -/
structure HoldEquals (nodeId : UUID) (history : List HoldEvent) (input : HoldTick) : Prop where
  output : input.Fits → ∃ stretch,
    IsLongestStretch HoldTick.key HoldTick.Fits (history ++ [.input input]) stretch ∧
    ((HoldImageRuntime.after nodeId history).tick input).2 =
      .ok (Dict.ofEntries [("image", delayed stretch input.delayFrames)])
  limit : ¬ input.Fits → ∃ message details,
    ((HoldImageRuntime.after nodeId history).tick input).2 =
      .error (.expected "hold_image_memory_limit" message details)

/-- After every history the nodes output the ends of their longest stretches,
and the delay never retains more images than its delay. -/
theorem windows_equal_history (nodeId : UUID) :
    (∀ history input, BufferEquals nodeId history input) ∧
      (∀ history input, HoldEquals nodeId history input) ∧
      ∀ history event, (HoldImageRuntime.after nodeId (history ++ [event])).history.items.length ≤
        HoldImageRuntime.retainable event := by
  refine ⟨fun history input => ⟨?_, fun large => ?_⟩, fun history input => ⟨?_, fun large => ?_⟩,
    HoldImageRuntime.length_history_le nodeId⟩
  · exact BufferRuntime.tick_after nodeId history
  · rw [BufferRuntime.tick_eq_keep, (BufferRuntime.keep_of_not_fits large).1]
    exact ⟨_, _, rfl⟩
  · exact HoldImageRuntime.tick_after nodeId history
  · rw [HoldImageRuntime.tick_eq_hold,
      (HoldImageRuntime.hold_of_not_fits (HoldImageRuntime.holds_after nodeId history) large).1]
    exact ⟨_, _, rfl⟩

end Nodes
end Synesthesia
