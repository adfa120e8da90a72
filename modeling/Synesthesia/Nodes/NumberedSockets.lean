import Synesthesia.Nodes.ExecutionContract

namespace Synesthesia
namespace Nodes

open Foundation Contracts

/-!
# Numbered sockets

The identifier of a socket of a family is its prefix and a decimal numeral, so
a socket and its index determine each other.  The sockets that a contract
lists are sockets that it finds, and each has a type.
-/

/-! ## Numerals -/

section Numerals

theorem isDigit_bounds {character : Char} (digit : character.isDigit = true) :
    48 ≤ character.toNat ∧ character.toNat ≤ 57 :=
  Char.isDigit_iff_toNat.mp digit

theorem digitChar_of_isDigit {character : Char} (digit : character.isDigit = true) :
    Nat.digitChar (character.toNat - 48) = character := by
  have bounds := isDigit_bounds digit
  apply Char.toNat_inj.mp
  rw [Nat.toNat_digitChar_of_lt_ten (by omega)]
  omega

variable {value : Nat}

/-- A positive number is written without a leading zero. -/
theorem head_toDigits (positive : 1 ≤ value) :
    ∃ first rest, Nat.toDigits 10 value = first :: rest ∧ first ≠ '0' := by
  induction value using Nat.strongRecOn with
  | ind value ih =>
      by_cases small : value < 10
      · refine ⟨value.digitChar, [], Nat.toDigits_of_lt_base small, ?_⟩
        rw [Ne, Nat.digitChar_eq_zero]
        omega
      · rcases ih (value / 10) (by omega) (by omega) with
          ⟨first, rest, written, nonzero⟩
        refine ⟨first, rest ++ [(value % 10).digitChar], ?_, nonzero⟩
        rw [Nat.toDigits_of_base_le (by omega) (by omega), written, List.cons_append]

theorem numeral_toDigits (positive : 1 ≤ value) :
    VariadicInputSpec.numeral? (Nat.toDigits 10 value) = some value := by
  rcases head_toDigits positive with ⟨first, rest, written, nonzero⟩
  have digits : (first :: rest).all Char.isDigit = true := by
    rw [List.all_eq_true, ← written]
    exact fun character member => Nat.isDigit_of_mem_toDigits (by omega) (by omega) member
  rw [written, VariadicInputSpec.numeral?, if_pos ⟨nonzero, digits⟩, ← written]
  exact congrArg some Nat.ofDigitChars_ten_toDigits

/-- Digits behind a positive number write the number that they continue to. -/
theorem toDigits_append_digits {characters : List Char}
    (digits : ∀ character ∈ characters, character.isDigit = true)
    (positive : 1 ≤ value) :
    Nat.toDigits 10 value ++ characters = Nat.toDigits 10
      (characters.foldl (fun value digit => 10 * value + (digit.toNat - 48)) value) := by
  induction characters generalizing value with
  | nil => simp
  | cons character rest ih =>
      have digit := digits character List.mem_cons_self
      have bounds := isDigit_bounds digit
      have written : Nat.toDigits 10 value ++ [character] =
          Nat.toDigits 10 (10 * value + (character.toNat - 48)) := by
        have small : character.toNat - 48 < 10 := by omega
        rw [← Nat.toDigits_append_toDigits (by omega) positive small,
          Nat.toDigits_of_lt_base small, digitChar_of_isDigit digit]
      calc Nat.toDigits 10 value ++ character :: rest
          = (Nat.toDigits 10 value ++ [character]) ++ rest := by simp
        _ = Nat.toDigits 10 (10 * value + (character.toNat - 48)) ++ rest := by rw [written]
        _ = _ := ih
            (fun other member => digits other (List.mem_cons_of_mem _ member)) (by omega)

theorem toDigits_of_numeral {characters : List Char}
    (read : VariadicInputSpec.numeral? characters = some value) :
    Nat.toDigits 10 value = characters ∧ 1 ≤ value := by
  cases characters with
  | nil => cases read
  | cons first rest =>
      rw [VariadicInputSpec.numeral?] at read
      split_ifs at read with wellFormed
      rcases wellFormed with ⟨nonzero, digits⟩
      rw [List.all_eq_true] at digits
      have digit := digits first List.mem_cons_self
      have bounds := isDigit_bounds digit
      have positive : 1 ≤ first.toNat - 48 := by
        have different : first.toNat ≠ 48 := by
          intro zero
          exact nonzero (Char.toNat_inj.mp zero)
        omega
      have continued := toDigits_append_digits
        (fun other member => digits other (List.mem_cons_of_mem _ member)) positive
      rw [Nat.toDigits_of_lt_base (by omega), digitChar_of_isDigit digit] at continued
      have sameValue : rest.foldl (fun value digit => 10 * value + (digit.toNat - 48))
          (first.toNat - 48) = value := by
        have folded := Option.some.inj read
        rw [List.foldl_cons, Nat.mul_zero, Nat.zero_add] at folded
        exact folded
      rw [sameValue] at continued
      refine ⟨continued.symm, ?_⟩
      by_contra zero
      have isZero : value = 0 := by omega
      rw [isZero, Nat.toDigits_zero] at continued
      exact nonzero (List.head_eq_of_cons_eq continued)

end Numerals

/-! ## Sockets of a family -/

namespace VariadicInputSpec

variable {family : VariadicInputSpec}

theorem toList_port_id (index : Nat) :
    (family.port index).id.toList = (family.idPrefix ++ "_").toList ++ Nat.toDigits 10 index := by
  rw [port, String.toList_append, Nat.toString_eq_repr, Nat.toList_repr]

/-- The index of a socket is read from its identifier. -/
theorem index_port {index : Nat} (positive : 1 ≤ index) :
    family.index (family.port index).id = some index := by
  rw [VariadicInputSpec.index, toList_port_id,
    if_pos (List.isPrefixOf_iff_prefix.mpr (List.prefix_append _ _)),
    List.drop_left]
  exact numeral_toDigits positive

/-- An identifier with an index is that of its socket. -/
theorem port_id_of_index {portId : String} {index : Nat}
    (read : family.index portId = some index) : (family.port index).id = portId ∧ 1 ≤ index := by
  rw [VariadicInputSpec.index] at read
  split_ifs at read with isPrefix
  rcases toDigits_of_numeral read with ⟨written, positive⟩
  rcases List.isPrefixOf_iff_prefix.mp isPrefix with ⟨rest, split⟩
  refine ⟨?_, positive⟩
  rw [← split, List.drop_left] at written
  rw [← String.toList_inj, toList_port_id, written, split]

end VariadicInputSpec

/-! ## Ports that exist have a type -/

namespace NodeExecutionContract

variable {ρ : Type} {definition : NodeExecutionContract ρ}

theorem find?_id {Item : Type} {identify : Item → String} {items : List Item} {item : Item}
    (distinct : (items.map identify).Nodup) (member : item ∈ items) :
    items.find? (fun other => decide (identify other = identify item)) = some item := by
  induction items with
  | nil => cases member
  | cons first rest ih =>
      rw [List.map_cons, List.nodup_cons] at distinct
      rcases List.mem_cons.mp member with rfl | inRest
      · rw [List.find?_cons_of_pos (by simp)]
      · have different : identify first ≠ identify item := by
          intro same
          exact distinct.1 (same ▸ List.mem_map_of_mem inRest)
        rw [List.find?_cons_of_neg (by simpa using different)]
        exact ih distinct.2 inRest

variable {port : InputPortSpec} {portId : String}

/-- The socket found for an identifier has it. -/
theorem input_id (found : definition.input portId = some port) : port.id = portId := by
  rw [input] at found
  cases fixed : definition.inputs.find? (fun port => decide (port.id = portId)) with
  | some other =>
      rw [fixed] at found
      cases found
      simpa using List.find?_some fixed
  | none =>
      rw [fixed] at found
      cases variadic : definition.variadicInput with
      | none =>
          rw [variadic] at found
          cases found
      | some family =>
          rw [variadic] at found
          rcases Option.map_eq_some_iff.mp found with ⟨index, read, rfl⟩
          exact (VariadicInputSpec.port_id_of_index read).1

theorem input_fixed (constructed : definition.Constructed)
    (member : port ∈ definition.inputs) : definition.input port.id = some port := by
  rw [input, find?_id constructed.inputs_unique member]

variable {family : VariadicInputSpec}

theorem input_family {index : Nat}
    (constructed : definition.Constructed) (variadic : definition.variadicInput = some family)
    (positive : 1 ≤ index) :
    definition.input (family.port index).id = some (family.port index) := by
  have absent : definition.inputs.find?
      (fun port => decide (port.id = (family.port index).id)) = none := by
    rw [List.find?_eq_none]
    intro port member same
    have fixed := constructed.input_fixed family variadic port member
    rw [of_decide_eq_true same, VariadicInputSpec.index_port positive] at fixed
    cases fixed
  rw [input, absent, variadic]
  simp only [VariadicInputSpec.index_port positive, Option.map_some]

theorem one_le_firstFree (taken : List Nat) (fuel index : Nat) (positive : 1 ≤ index) :
    1 ≤ firstFree taken fuel index := by
  induction fuel generalizing index with
  | zero => exact positive
  | succ fuel ih =>
      rw [firstFree]
      split
      · exact ih (index + 1) (by omega)
      · exact positive

/-- The sockets for some indices are found by their identifiers. -/
theorem input_of_mem_append {indexes : List Nat}
    (constructed : definition.Constructed)
    (variadic : definition.variadicInput = some family)
    (positive : ∀ index ∈ indexes, 1 ≤ index)
    (member : port ∈ definition.inputs ++ (sortByKey id indexes.dedup).map family.port) :
    definition.input port.id = some port := by
  rcases List.mem_append.mp member with fixed | numbered
  · exact input_fixed constructed fixed
  · rcases List.mem_map.mp numbered with ⟨index, listed, rfl⟩
    exact input_family constructed variadic
      (positive index (List.mem_dedup.mp ((mem_sortByKey _).mp listed)))

variable {connectedPortIds : List String}

/-- The indices that a family needs and those of its connected sockets. -/
theorem one_le_indexes :
    ∀ index ∈ List.range' 1 family.minimumCount ++ connectedPortIds.filterMap family.index,
      1 ≤ index := by
  intro index member
  rcases List.mem_append.mp member with needed | connected
  · exact (List.mem_range'_1.mp needed).1
  · rcases List.mem_filterMap.mp connected with ⟨portId, _, read⟩
    exact (VariadicInputSpec.port_id_of_index read).2

/-- A listed socket is found by its identifier. -/
theorem input_of_mem_inputPorts (constructed : definition.Constructed)
    (member : port ∈ definition.inputPorts connectedPortIds) :
    definition.input port.id = some port := by
  rw [inputPorts] at member
  cases variadic : definition.variadicInput with
  | none =>
      rw [variadic] at member
      exact input_fixed constructed member
  | some family =>
      rw [variadic] at member
      exact input_of_mem_append constructed variadic one_le_indexes member

theorem input_of_mem_inputPortsWithNext (constructed : definition.Constructed)
    (member : port ∈ definition.inputPortsWithNext connectedPortIds) :
    definition.input port.id = some port := by
  rw [inputPortsWithNext] at member
  cases variadic : definition.variadicInput with
  | none =>
      rw [variadic] at member
      exact input_fixed constructed member
  | some family =>
      rw [variadic] at member
      refine input_of_mem_append constructed variadic ?_ member
      intro index listed
      split at listed
      · rcases List.mem_append.mp listed with known | next
        · exact one_le_indexes index known
        · rw [List.mem_singleton.mp next]
          exact one_le_firstFree _ _ _ le_rfl
      · exact one_le_indexes index listed

/-- A connected socket is listed. -/
theorem mem_inputPorts_of_connected
    (connected : portId ∈ connectedPortIds) (socket : (definition.input portId).isSome = true) :
    ∃ port ∈ definition.inputPorts connectedPortIds, port.id = portId := by
  rcases Option.isSome_iff_exists.mp socket with ⟨port, found⟩
  have same := input_id found
  refine ⟨port, ?_, same⟩
  rw [input] at found
  rw [inputPorts]
  cases variadic : definition.variadicInput with
  | none =>
      rw [variadic] at found
      cases fixed : definition.inputs.find? (fun port => decide (port.id = portId)) with
      | none =>
          rw [fixed] at found
          cases found
      | some other =>
          rw [fixed] at found
          cases found
          exact List.mem_of_find?_eq_some fixed
  | some family =>
      rw [variadic] at found
      cases fixed : definition.inputs.find? (fun port => decide (port.id = portId)) with
      | none =>
          rw [fixed] at found
          rcases Option.map_eq_some_iff.mp found with ⟨index, read, rfl⟩
          refine List.mem_append_right _ (List.mem_map_of_mem ((mem_sortByKey _).mpr
            (List.mem_dedup.mpr (List.mem_append_right _ ?_))))
          exact List.mem_filterMap.mpr ⟨portId, connected, read⟩
      | some other =>
          rw [fixed] at found
          cases found
          exact List.mem_append_left _ (List.mem_of_find?_eq_some fixed)

/-- The sockets without the next free one are among those with it. -/
theorem inputPorts_subset_inputPortsWithNext (connectedPortIds : List String) :
    definition.inputPorts connectedPortIds ⊆ definition.inputPortsWithNext connectedPortIds := by
  intro port member
  rw [inputPorts] at member
  rw [inputPortsWithNext]
  cases variadic : definition.variadicInput with
  | none =>
      rw [variadic] at member
      exact member
  | some family =>
      rw [variadic] at member
      rcases List.mem_append.mp member with fixed | numbered
      · exact List.mem_append_left _ fixed
      · rcases List.mem_map.mp numbered with ⟨index, listed, rfl⟩
        have known := List.mem_dedup.mp ((mem_sortByKey _).mp listed)
        refine List.mem_append_right _ (List.mem_map_of_mem ((mem_sortByKey _).mpr
          (List.mem_dedup.mpr ?_)))
        split
        · exact List.mem_append_left _ known
        · exact known

/-- A socket that exists has a type. -/
theorem portType_input
    (found : definition.input portId = some port) (parameters : Dict String ParameterValue) :
    ∃ expression, definition.portType portId false parameters = .ok expression := by
  rw [portType]
  cases definition.portTypeResolver with
  | some resolver => exact ⟨_, rfl⟩
  | none =>
      rw [found]
      exact ⟨port.valueType, rfl⟩

theorem portType_output {port : OutputPortSpec}
    (found : definition.output portId = some port) (parameters : Dict String ParameterValue) :
    ∃ expression, definition.portType portId true parameters = .ok expression := by
  rw [portType]
  cases definition.portTypeResolver with
  | some resolver => exact ⟨_, rfl⟩
  | none =>
      rw [found]
      exact ⟨port.valueType, rfl⟩

theorem output_of_mem {port : OutputPortSpec} (constructed : definition.Constructed)
    (member : port ∈ definition.outputs) : definition.output port.id = some port :=
  find?_id constructed.outputs_unique member

end NodeExecutionContract

end Nodes
end Synesthesia
