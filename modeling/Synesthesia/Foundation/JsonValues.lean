import Synesthesia.Foundation.Dict
import Synesthesia.Foundation.Floats
import Synesthesia.Foundation.SortByKey

namespace Synesthesia
namespace Foundation

/-!
# JSON values

JSON as the modelled language holds it: integers have any size, floats may be
infinite or a NaN, and an object is a list of fields of which the first one
with a key counts.  The encoder may write the fields of every object in the
order of their keys.
-/

inductive JsonValue where
  | null
  | bool (value : Bool)
  | int (value : Int)
  | float (value : PyFloat)
  | str (text : String)
  | list (items : List JsonValue)
  | object (fields : List (String × JsonValue))

abbrev JsonObject := List (String × JsonValue)

/-! ## Objects -/

section Objects

variable {Value : Type*}

/-- `setdefault`: add a field unless there is one. -/
def setDefault (key : String) (value : Value) (fields : List (String × Value)) :
    List (String × Value) :=
  if (Dict.lookup key fields).isSome then fields else fields ++ [(key, value)]

/-- `pop` without its result: remove a field. -/
def popField (key : String) (fields : List (String × Value)) : List (String × Value) :=
  fields.filter (fun field => field.1 ≠ key)

variable {key other : String}

theorem lookup_assign_of_ne (different : other ≠ key) (value : Value)
    (fields : List (String × Value)) :
    Dict.lookup other (Dict.assign key value fields) = Dict.lookup other fields := by
  rw [Dict.lookup_assign, if_neg different]

theorem lookup_append_of_ne (different : other ≠ key) (value : Value)
    (fields : List (String × Value)) :
    Dict.lookup other (fields ++ [(key, value)]) = Dict.lookup other fields := by
  induction fields with
  | nil => exact if_neg (fun same => different same.symm)
  | cons field rest ih =>
      rw [List.cons_append, Dict.lookup.eq_def, Dict.lookup.eq_def other (field :: rest)]
      dsimp only
      rw [ih]

theorem lookup_setDefault_of_ne (different : other ≠ key) (value : Value)
    (fields : List (String × Value)) :
    Dict.lookup other (setDefault key value fields) = Dict.lookup other fields := by
  rw [setDefault]
  split_ifs
  · rfl
  · exact lookup_append_of_ne different value fields

theorem lookup_popField_of_ne (different : other ≠ key)
    (fields : List (String × Value)) :
    Dict.lookup other (popField key fields) = Dict.lookup other fields := by
  rw [popField]
  induction fields with
  | nil => rfl
  | cons field rest ih =>
      by_cases popped : field.1 = key
      · rw [List.filter_cons_of_neg (by simpa using popped), ih, Dict.lookup,
          if_neg (fun same => different (same.symm.trans popped))]
      · rw [List.filter_cons_of_pos (by simpa using popped), Dict.lookup, Dict.lookup,
          ih]

/-- The fields are the expected ones, in any order. -/
def sameKeys (expected : List String) (fields : List (String × Value)) : Bool :=
  fields.all (fun field => field.1 ∈ expected) &&
    expected.all (fun key => (Dict.lookup key fields).isSome)

theorem lookup_eq_head? (key : String) (fields : List (String × Value)) :
    Dict.lookup key fields =
      ((fields.filter (fun field => decide (field.1 = key))).head?).map Prod.snd := by
  induction fields with
  | nil => rfl
  | cons field rest ih =>
      rcases field with ⟨other, value⟩
      rw [Dict.lookup]
      by_cases same : other = key
      · rw [if_pos same, List.filter_cons_of_pos (by simpa using same)]
        rfl
      · rw [if_neg same, List.filter_cons_of_neg (by simpa using same), ih]

/-- Sorting the fields changes no lookup. -/
theorem lookup_sortByKey (key : String) (fields : List (String × Value)) :
    Dict.lookup key (sortByKey Prod.fst fields) = Dict.lookup key fields := by
  rw [lookup_eq_head?, lookup_eq_head?, sortByKey_filter_eq]

theorem sameKeys_sortByKey (expected : List String) (fields : List (String × Value)) :
    sameKeys expected (sortByKey Prod.fst fields) = sameKeys expected fields := by
  have every : (sortByKey Prod.fst fields).all (fun field => field.1 ∈ expected) =
      fields.all (fun field => field.1 ∈ expected) := by
    rw [Bool.eq_iff_iff, List.all_eq_true, List.all_eq_true]
    simp only [mem_sortByKey]
  rw [sameKeys, sameKeys, every]
  simp only [lookup_sortByKey]

/-- A lookup commutes with a change of all values. -/
theorem lookup_map {Other : Type*} (change : Value → Other) (key : String)
    (fields : List (String × Value)) :
    Dict.lookup key (fields.map (fun field => (field.1, change field.2))) =
      (Dict.lookup key fields).map change := by
  induction fields with
  | nil => rfl
  | cons field rest ih =>
      rcases field with ⟨other, value⟩
      rw [List.map_cons, Dict.lookup, Dict.lookup, ih]
      split_ifs
      · rfl
      · rfl

/-- Fields that are in order stay in order when their values change. -/
theorem sortByKey_map_of_sorted {Other : Type*} (change : Value → Other)
    (fields : List (String × Value)) :
    sortByKey Prod.fst ((sortByKey Prod.fst fields).map (fun field => (field.1, change field.2))) =
      (sortByKey Prod.fst fields).map (fun field => (field.1, change field.2)) :=
  sortByKey_map_sortByKey (fun _ => rfl) fields

/-- A dictionary with its keys in order. -/
def sortDict (dict : Dict String Value) : Dict String Value where
  entries := sortByKey Prod.fst dict.entries
  nodup := ((sortByKey_perm Prod.fst dict.entries).map Prod.fst).nodup_iff.mpr dict.nodup

@[simp] theorem get?_sortDict (dict : Dict String Value) (key : String) :
    (sortDict dict).get? key = dict.get? key :=
  lookup_sortByKey key dict.entries

end Objects

/-! ## Lists with their indices -/

section Enumerate

variable {Item Value Failure : Type*} {values : List Value} {items : List Item}

theorem exists_left_of_forall₂ {related : Item → Value → Prop}
    (paired : List.Forall₂ related items values) {value : Value}
    (member : value ∈ values) : ∃ item ∈ items, related item value := by
  induction paired with
  | nil => cases member
  | cons first rest ih =>
      rcases List.mem_cons.mp member with same | later
      · exact ⟨_, List.mem_cons_self, same ▸ first⟩
      · rcases ih later with ⟨item, listed, found⟩
        exact ⟨item, List.mem_cons_of_mem _ listed, found⟩

/-- Decode the items in order, each with its index; the first failure ends it. -/
def decodeFrom (decode : Item → Nat → Except Failure Value) :
    Nat → List Item → Except Failure (List Value)
  | _, [] => .ok []
  | index, item :: rest =>
      match decode item index with
      | .error failure => .error failure
      | .ok value =>
          match decodeFrom decode (index + 1) rest with
          | .error failure => .error failure
          | .ok values => .ok (value :: values)

variable {decode : Item → Nat → Except Failure Value}

/-- Items that all decode. -/
theorem decodeFrom_map {Source : Type*}
    {encode : Source → Item} {result : Source → Value} {sources : List Source}
    (decodes : ∀ source ∈ sources, ∀ index, decode (encode source) index = .ok (result source))
    (start : Nat) : decodeFrom decode start (sources.map encode) = .ok (sources.map result) := by
  induction sources generalizing start with
  | nil => rfl
  | cons source rest ih =>
      rw [List.map_cons, decodeFrom, decodes source List.mem_cons_self,
        ih (fun other member => decodes other (List.mem_cons_of_mem _ member))]
      rfl

variable {start : Nat}

theorem decodeFrom_cons_eq_ok {item : Item} {rest : List Item} :
    decodeFrom decode start (item :: rest) = .ok values ↔
      ∃ value others, decode item start = .ok value ∧
        decodeFrom decode (start + 1) rest = .ok others ∧ values = value :: others := by
  rw [decodeFrom]
  constructor
  · intro decoded
    cases first : decode item start with
    | error failure =>
        rw [first] at decoded
        cases decoded
    | ok value =>
        rw [first] at decoded
        dsimp only at decoded
        cases others : decodeFrom decode (start + 1) rest with
        | error failure =>
            rw [others] at decoded
            cases decoded
        | ok tail =>
            rw [others] at decoded
            cases decoded
            exact ⟨value, tail, rfl, rfl, rfl⟩
  · rintro ⟨value, others, first, later, same⟩
    rw [first, later, same]

/-- The results are those of the items, in their order. -/
theorem forall₂_of_decodeFrom (decoded : decodeFrom decode start items = .ok values) :
    List.Forall₂ (fun item value => ∃ index, decode item index = .ok value) items values := by
  induction items generalizing start values with
  | nil =>
      cases decoded
      exact List.Forall₂.nil
  | cons item rest ih =>
      rcases decodeFrom_cons_eq_ok.mp decoded with ⟨value, others, first, later, same⟩
      rw [same]
      exact List.Forall₂.cons ⟨start, first⟩ (ih later)

/-- Whatever comes out was decoded. -/
theorem exists_of_decodeFrom (decoded : decodeFrom decode start items = .ok values)
    {value : Value} (member : value ∈ values) :
    ∃ item ∈ items, ∃ index, decode item index = .ok value :=
  exists_left_of_forall₂ (forall₂_of_decodeFrom decoded) member

theorem length_of_decodeFrom
    (decoded : decodeFrom decode start items = .ok values) : values.length = items.length :=
  (forall₂_of_decodeFrom decoded).length_eq.symm

end Enumerate

namespace JsonValue

/-! ## Key order -/

mutual

/-- The value as `sort_keys=True` writes it. -/
def sorted : JsonValue → JsonValue
  | null => null
  | bool value => bool value
  | int value => int value
  | float value => float value
  | str text => str text
  | list items => list (sortedItems items)
  | object fields => object (sortByKey Prod.fst (sortedFields fields))

def sortedItems : List JsonValue → List JsonValue
  | [] => []
  | item :: rest => item.sorted :: sortedItems rest

def sortedFields : List (String × JsonValue) → List (String × JsonValue)
  | [] => []
  | (key, value) :: rest => (key, value.sorted) :: sortedFields rest

end

theorem sortedItems_eq_map (items : List JsonValue) : sortedItems items = items.map sorted := by
  induction items with
  | nil => rfl
  | cons item rest ih => rw [sortedItems, ih, List.map_cons]

theorem sortedFields_eq_map (fields : List (String × JsonValue)) :
    sortedFields fields = fields.map (fun field => (field.1, field.2.sorted)) := by
  induction fields with
  | nil => rfl
  | cons field rest ih =>
      rw [sortedFields, ih, List.map_cons]

@[simp] theorem sorted_list (items : List JsonValue) :
    (list items).sorted = list (items.map sorted) := by
  rw [sorted, sortedItems_eq_map]

theorem sorted_object (fields : List (String × JsonValue)) :
    (object fields).sorted =
      object (sortByKey Prod.fst (fields.map (fun field => (field.1, field.2.sorted)))) := by
  rw [sorted, sortedFields_eq_map]

/-- The fields of a sorted object are the sorted fields. -/
theorem lookup_sorted (key : String) (fields : List (String × JsonValue)) :
    Dict.lookup key
        (sortByKey Prod.fst (fields.map (fun field => (field.1, field.2.sorted)))) =
      (Dict.lookup key fields).map sorted := by
  rw [lookup_sortByKey, lookup_map]

theorem sameKeys_sorted (expected : List String) (fields : List (String × JsonValue)) :
    sameKeys expected
        (sortByKey Prod.fst (fields.map (fun field => (field.1, field.2.sorted)))) =
      sameKeys expected fields := by
  rw [sameKeys_sortByKey, sameKeys, sameKeys, List.all_map]
  congr 1
  apply List.all_congr rfl
  intro key
  rw [lookup_map, Option.isSome_map]

/-! ## Nesting -/

mutual

/-- How deep lists and objects are nested. -/
def nesting : JsonValue → Nat
  | null => 0
  | bool _ => 0
  | int _ => 0
  | float _ => 0
  | str _ => 0
  | list items => nestingItems items + 1
  | object fields => nestingFields fields + 1

def nestingItems : List JsonValue → Nat
  | [] => 0
  | item :: rest => max item.nesting (nestingItems rest)

def nestingFields : List (String × JsonValue) → Nat
  | [] => 0
  | (_, value) :: rest => max value.nesting (nestingFields rest)

end

theorem nestingItems_le_iff {items : List JsonValue} {limit : Nat} :
    nestingItems items ≤ limit ↔ ∀ item ∈ items, item.nesting ≤ limit := by
  induction items with
  | nil => simp [nestingItems]
  | cons item rest ih => simp [nestingItems, ih]

theorem nestingFields_le_iff {fields : List (String × JsonValue)} {limit : Nat} :
    nestingFields fields ≤ limit ↔ ∀ field ∈ fields, field.2.nesting ≤ limit := by
  induction fields with
  | nil => simp [nestingFields]
  | cons field rest ih =>
      rcases field with ⟨key, value⟩
      rw [nestingFields, max_le_iff, ih, List.forall_mem_cons]

mutual

/-- The order of the fields changes no nesting. -/
theorem nesting_sorted_le : (value : JsonValue) → value.sorted.nesting ≤ value.nesting
  | null => Nat.le_refl 0
  | bool _ => Nat.le_refl 0
  | int _ => Nat.le_refl 0
  | float _ => Nat.le_refl 0
  | str _ => Nat.le_refl 0
  | list items => by
      rw [sorted_list, nesting, nesting]
      apply Nat.succ_le_succ
      apply nestingItems_le_iff.mpr
      intro sortedItem member
      rcases List.mem_map.mp member with ⟨item, listed, same⟩
      rw [← same]
      exact nesting_sorted_le_items items item listed
  | object fields => by
      rw [sorted_object, nesting, nesting]
      apply Nat.succ_le_succ
      apply nestingFields_le_iff.mpr
      intro sortedField member
      rcases List.mem_map.mp ((mem_sortByKey _).mp member) with ⟨field, listed, same⟩
      rw [← same]
      exact nesting_sorted_le_fields fields field listed

theorem nesting_sorted_le_items : (items : List JsonValue) →
    ∀ item ∈ items, item.sorted.nesting ≤ nestingItems items
  | [] => fun item impossible => absurd impossible List.not_mem_nil
  | first :: rest => fun item member => by
      rw [nestingItems]
      rcases List.mem_cons.mp member with same | later
      · rw [same]
        exact (nesting_sorted_le first).trans (le_max_left _ _)
      · exact (nesting_sorted_le_items rest item later).trans (le_max_right _ _)

theorem nesting_sorted_le_fields : (fields : List (String × JsonValue)) →
    ∀ field ∈ fields, field.2.sorted.nesting ≤ nestingFields fields
  | [] => fun field impossible => absurd impossible List.not_mem_nil
  | (key, value) :: rest => fun field member => by
      rw [nestingFields]
      rcases List.mem_cons.mp member with same | later
      · rw [same]
        exact (nesting_sorted_le value).trans (le_max_left _ _)
      · exact (nesting_sorted_le_fields rest field later).trans (le_max_right _ _)

end

/-! A change of a field nests no deeper than its value and the other fields. -/

section Updates

variable {fields : JsonObject} {limit : Nat} {key : String} {value : JsonValue}

theorem nesting_of_lookup (bounded : nestingFields fields ≤ limit)
    (found : Dict.lookup key fields = some value) : value.nesting ≤ limit :=
  nestingFields_le_iff.mp bounded (key, value) (Dict.mem_of_lookup found)

theorem nestingFields_assign_le (shallow : value.nesting ≤ limit)
    (bounded : nestingFields fields ≤ limit) :
    nestingFields (Dict.assign key value fields) ≤ limit := by
  induction fields with
  | nil => exact max_le shallow (Nat.zero_le limit)
  | cons entry rest ih =>
      rcases entry with ⟨other, old⟩
      rw [nestingFields, max_le_iff] at bounded
      rw [Dict.assign]
      split_ifs
      · exact max_le shallow bounded.2
      · exact max_le bounded.1 (ih bounded.2)

theorem nestingFields_setDefault_le (shallow : value.nesting ≤ limit)
    (bounded : nestingFields fields ≤ limit) :
    nestingFields (setDefault key value fields) ≤ limit := by
  rw [setDefault]
  split_ifs
  · exact bounded
  · apply nestingFields_le_iff.mpr
    intro entry member
    rcases List.mem_append.mp member with old | new
    · exact nestingFields_le_iff.mp bounded entry old
    · rw [List.mem_singleton.mp new]
      exact shallow

theorem nestingFields_popField_le (bounded : nestingFields fields ≤ limit) :
    nestingFields (popField key fields) ≤ limit := by
  apply nestingFields_le_iff.mpr
  intro entry member
  exact nestingFields_le_iff.mp bounded entry (List.mem_filter.mp member).1

end Updates

mutual

/-- No number is infinite or a NaN. -/
def isFinite : JsonValue → Bool
  | float value => value.isFinite
  | list items => itemsFinite items
  | object fields => fieldsFinite fields
  | _ => true

def itemsFinite : List JsonValue → Bool
  | [] => true
  | item :: rest => item.isFinite && itemsFinite rest

def fieldsFinite : List (String × JsonValue) → Bool
  | [] => true
  | (_, value) :: rest => value.isFinite && fieldsFinite rest

end

theorem itemsFinite_iff {items : List JsonValue} :
    itemsFinite items = true ↔ ∀ item ∈ items, item.isFinite = true := by
  induction items with
  | nil => simp [itemsFinite]
  | cons item rest ih => simp [itemsFinite, ih]

theorem fieldsFinite_iff {fields : List (String × JsonValue)} :
    fieldsFinite fields = true ↔ ∀ field ∈ fields, field.2.isFinite = true := by
  induction fields with
  | nil => simp [fieldsFinite]
  | cons field rest ih =>
      rcases field with ⟨key, value⟩
      rw [fieldsFinite, Bool.and_eq_true, ih, List.forall_mem_cons]

mutual

/-- Values with the same structure. -/
def same : JsonValue → JsonValue → Bool
  | null, null => true
  | bool left, bool right => left = right
  | int left, int right => left = right
  | float left, float right => left = right
  | str left, str right => left = right
  | list left, list right => sameItems left right
  | object left, object right => sameFields left right
  | _, _ => false

def sameItems : List JsonValue → List JsonValue → Bool
  | [], [] => true
  | left :: lefts, right :: rights => left.same right && sameItems lefts rights
  | _, _ => false

def sameFields : List (String × JsonValue) → List (String × JsonValue) → Bool
  | [], [] => true
  | (leftKey, left) :: lefts, (rightKey, right) :: rights =>
      decide (leftKey = rightKey) && left.same right && sameFields lefts rights
  | _, _ => false

end

end JsonValue

/-! ## The library that reads and writes them -/

/-- How reading a text fails. -/
inductive JsonFailure where
  | decodeError (message : String) (line column : Nat)
  | recursionError
  | valueError (message : String)
deriving DecidableEq

/-- `dumps` with the settings of its caller, and `loads`. -/
structure JsonLibrary where
  dumps : JsonValue → Except PyError String
  loads : String → Except JsonFailure JsonValue

/-- Written with sorted keys and a final newline, a value is read back. -/
def JsonLibrary.RoundTrips (library : JsonLibrary) (value : JsonValue) : Prop :=
  ∃ text, library.dumps value = .ok text ∧ library.loads (text ++ "\n") = .ok value.sorted

/-- What `dumps` writes has no infinite number or NaN, and `loads` reads it back. -/
def JsonLibrary.Faithful (library : JsonLibrary) (value : JsonValue) : Prop :=
  ∀ text, library.dumps value = .ok text →
    value.isFinite = true ∧ library.loads (text ++ "\n") = .ok value.sorted

end Foundation
end Synesthesia
