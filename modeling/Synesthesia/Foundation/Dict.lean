import Mathlib

namespace Synesthesia
namespace Foundation

/-!
# Insertion-ordered dictionaries

The association lists of Mathlib put a new key in front.  A dictionary of the
modelled language keeps the position of a key that is assigned again and
appends a new key at the end, and this order is observable: it decides the
order of messages and of execution.  Distinctness of the keys is a field, so
every dictionary that can be built has it.
-/

/-- A finite map that remembers the order in which its keys were first set. -/
structure Dict (Key Value : Type*) where
  entries : List (Key × Value)
  nodup : (entries.map Prod.fst).Nodup

namespace Dict

variable {Key Value : Type*}

instance [DecidableEq Key] [DecidableEq Value] : DecidableEq (Dict Key Value) :=
  fun left right => decidable_of_iff (left.entries = right.entries) (by
    cases left; cases right; simp)

variable {left right : Dict Key Value}

@[ext] theorem ext (same : left.entries = right.entries) :
    left = right := by
  cases left; cases right; simpa using same

def empty : Dict Key Value := ⟨[], List.nodup_nil⟩

def keys (dict : Dict Key Value) : List Key := dict.entries.map Prod.fst

theorem keys_nodup (dict : Dict Key Value) : dict.keys.Nodup := dict.nodup

@[simp] theorem keys_empty : (empty : Dict Key Value).keys = [] := rfl

variable [DecidableEq Key]

/-- The value stored for a key in a plain list of entries. -/
def lookup (key : Key) : List (Key × Value) → Option Value
  | [] => none
  | (other, value) :: rest => if other = key then some value else lookup key rest

def get? (dict : Dict Key Value) (key : Key) : Option Value := lookup key dict.entries

@[simp] theorem get?_empty (key : Key) : (empty : Dict Key Value).get? key = none := rfl

theorem lookup_isSome (key : Key) (entries : List (Key × Value)) :
    (lookup key entries).isSome ↔ key ∈ entries.map Prod.fst := by
  induction entries with
  | nil => simp [lookup]
  | cons entry rest ih =>
      by_cases same : entry.1 = key
      · simp [lookup, same]
      · have different : ¬ key = entry.1 := fun equal => same equal.symm
        simp [lookup, same, different, ih]

theorem get?_isSome (dict : Dict Key Value) (key : Key) :
    (dict.get? key).isSome ↔ key ∈ dict.keys :=
  lookup_isSome key dict.entries

theorem get?_eq_none (dict : Dict Key Value) (key : Key) :
    dict.get? key = none ↔ key ∉ dict.keys := by
  rw [← dict.get?_isSome key]
  cases dict.get? key <;> simp

variable {entries : List (Key × Value)} {value : Value} {key : Key}

theorem mem_of_lookup (found : lookup key entries = some value) : (key, value) ∈ entries := by
  induction entries with
  | nil => cases found
  | cons entry rest ih =>
      by_cases same : entry.1 = key
      · simp only [lookup, same, if_true, Option.some.injEq] at found
        exact List.mem_cons.mpr (Or.inl (by rw [← same, ← found]))
      · simp only [lookup, same, if_false] at found
        exact List.mem_cons_of_mem _ (ih found)

theorem mem_of_get? {dict : Dict Key Value}
    (found : dict.get? key = some value) : (key, value) ∈ dict.entries :=
  mem_of_lookup found

/-- An entry is found by its key. -/
theorem get?_of_mem {dict : Dict Key Value}
    (member : (key, value) ∈ dict.entries) : dict.get? key = some value := by
  rcases dict with ⟨entries, distinct⟩
  induction entries with
  | nil => cases member
  | cons entry rest ih =>
      rcases entry with ⟨other, old⟩
      rw [List.map_cons, List.nodup_cons] at distinct
      rcases List.mem_cons.mp member with same | later
      · cases same
        exact if_pos rfl
      · have different : other ≠ key := by
          rintro rfl
          exact distinct.1 (List.mem_map.mpr ⟨_, later, rfl⟩)
        exact (if_neg different).trans (ih distinct.2 later)

/-- Assign a key: in place when it is present, at the end otherwise. -/
def assign (key : Key) (value : Value) : List (Key × Value) → List (Key × Value)
  | [] => [(key, value)]
  | (other, old) :: rest =>
      if other = key then (key, value) :: rest else (other, old) :: assign key value rest

theorem mem_keys_assign {key other : Key} :
    other ∈ (assign key value entries).map Prod.fst ↔
      other = key ∨ other ∈ entries.map Prod.fst := by
  induction entries with
  | nil => simp [assign]
  | cons entry rest ih =>
      by_cases same : entry.1 = key
      · simp [assign, same]
      · rw [assign, if_neg same, List.map_cons, List.mem_cons, ih,
          List.map_cons, List.mem_cons]
        tauto

theorem nodup_assign (key : Key) (value : Value)
    (distinct : (entries.map Prod.fst).Nodup) :
    ((assign key value entries).map Prod.fst).Nodup := by
  induction entries with
  | nil => simp [assign]
  | cons entry rest ih =>
      rw [List.map_cons, List.nodup_cons] at distinct
      by_cases same : entry.1 = key
      · rw [assign, if_pos same, List.map_cons, List.nodup_cons]
        exact ⟨same ▸ distinct.1, distinct.2⟩
      · rw [assign, if_neg same, List.map_cons, List.nodup_cons]
        refine ⟨?_, ih distinct.2⟩
        rw [mem_keys_assign]
        rintro (equal | member)
        · exact same equal
        · exact distinct.1 member

def insert (dict : Dict Key Value) (key : Key) (value : Value) : Dict Key Value :=
  ⟨assign key value dict.entries, nodup_assign key value dict.nodup⟩

theorem mem_keys_insert {dict : Dict Key Value} {key other : Key} :
    other ∈ (dict.insert key value).keys ↔ other = key ∨ other ∈ dict.keys :=
  mem_keys_assign

theorem lookup_assign (key other : Key) (value : Value) (entries : List (Key × Value)) :
    lookup other (assign key value entries) =
      if other = key then some value else lookup other entries := by
  induction entries with
  | nil => simp [assign, lookup, eq_comm]
  | cons entry rest ih =>
      by_cases same : entry.1 = key
      · subst same
        by_cases equal : other = entry.1
        · simp [assign, lookup, equal]
        · simp [assign, lookup, equal, Ne.symm equal]
      · rw [assign, if_neg same]
        by_cases found : entry.1 = other
        · subst found
          simp [lookup, same]
        · simp only [lookup, found, if_false, ih]

@[simp] theorem get?_insert_self (dict : Dict Key Value) (key : Key) (value : Value) :
    (dict.insert key value).get? key = some value := by
  simp [get?, insert, lookup_assign]

theorem get?_insert_of_ne {dict : Dict Key Value} {key other : Key} (value : Value)
    (different : other ≠ key) : (dict.insert key value).get? other = dict.get? other := by
  simp [get?, insert, lookup_assign, different]

/-- Assigning the value that a key has changes nothing. -/
theorem insert_of_get? {dict : Dict Key Value}
    (found : dict.get? key = some value) : dict.insert key value = dict := by
  have kept : ∀ entries : List (Key × Value), lookup key entries = some value →
      assign key value entries = entries := by
    intro entries
    induction entries with
    | nil => exact fun _ => by simp_all [lookup]
    | cons entry rest ih =>
        rcases entry with ⟨other, old⟩
        intro stored
        by_cases same : other = key
        · rw [lookup, if_pos same, Option.some.injEq] at stored
          rw [assign, if_pos same, same, stored]
        · rw [lookup, if_neg same] at stored
          rw [assign, if_neg same, ih stored]
  exact ext (kept dict.entries found)

/-- Keep the entries that pass a test, in order. -/
def filter (dict : Dict Key Value) (keep : Key × Value → Bool) : Dict Key Value where
  entries := dict.entries.filter keep
  nodup := dict.nodup.sublist (List.filter_sublist.map Prod.fst)

omit [DecidableEq Key] in
/-- A test that every entry passes keeps the dictionary. -/
theorem filter_eq_self {dict : Dict Key Value} {keep : Key × Value → Bool}
    (kept : ∀ entry ∈ dict.entries, keep entry = true) : dict.filter keep = dict :=
  ext (List.filter_eq_self.mpr kept)

/-- An entry is found after a filter when it passes the test. -/
theorem get?_filter (dict : Dict Key Value) (keep : Key × Value → Bool) (key : Key) :
    (dict.filter keep).get? key = (dict.get? key).filter (fun value => keep (key, value)) := by
  cases found : dict.get? key with
  | none =>
      rw [get?_eq_none] at found
      rw [Option.filter_none, get?_eq_none]
      intro member
      rcases List.mem_map.mp member with ⟨entry, kept, same⟩
      exact found (same ▸ List.mem_map_of_mem (List.mem_filter.mp kept).1)
  | some value =>
      have member := mem_of_get? found
      by_cases passes : keep (key, value) = true
      · rw [Option.filter_some, if_pos passes]
        exact get?_of_mem (List.mem_filter.mpr ⟨member, passes⟩)
      · rw [Option.filter_some, if_neg passes, get?_eq_none]
        intro kept
        rcases List.mem_map.mp kept with ⟨entry, isKept, same⟩
        rcases List.mem_filter.mp isKept with ⟨listed, passed⟩
        rcases entry with ⟨other, otherValue⟩
        cases same
        have equal := Option.some.inj (found.symm.trans (get?_of_mem listed))
        rw [← equal] at passed
        exact passes passed

/-- Remove a key, keeping the order of the others. -/
def erase (dict : Dict Key Value) (key : Key) : Dict Key Value :=
  dict.filter (fun entry => decide (entry.1 ≠ key))

theorem mem_keys_erase {dict : Dict Key Value} {key other : Key} :
    other ∈ (dict.erase key).keys ↔ other ∈ dict.keys ∧ other ≠ key := by
  simp only [keys, erase, filter, List.mem_map, List.mem_filter, decide_eq_true_eq]
  constructor
  · rintro ⟨entry, ⟨member, different⟩, rfl⟩
    exact ⟨⟨entry, member, rfl⟩, different⟩
  · rintro ⟨⟨entry, member, rfl⟩, different⟩
    exact ⟨entry, ⟨member, different⟩, rfl⟩

theorem get?_erase (dict : Dict Key Value) (key other : Key) :
    (dict.erase key).get? other = if other = key then none else dict.get? other := by
  rw [erase, get?_filter]
  by_cases same : other = key
  · rw [if_pos same]
    cases dict.get? other <;> simp [same]
  · rw [if_neg same]
    cases dict.get? other <;> simp [same]

theorem get?_insert (dict : Dict Key Value) (key other : Key) (value : Value) :
    (dict.insert key value).get? other = if other = key then some value else dict.get? other :=
  lookup_assign key other value dict.entries

/-- Assigning a key twice assigns it the second value. -/
theorem insert_insert (dict : Dict Key Value) (key : Key) (first second : Value) :
    (dict.insert key first).insert key second = dict.insert key second := by
  have assigned : ∀ entries : List (Key × Value),
      assign key second (assign key first entries) = assign key second entries := by
    intro entries
    induction entries with
    | nil => simp [assign]
    | cons entry rest ih =>
        rcases entry with ⟨other, old⟩
        by_cases same : other = key
        · rw [assign, if_pos same, assign, if_pos rfl, assign, if_pos same]
        · rw [assign, if_neg same, assign, if_neg same, assign, if_neg same, ih]
  exact ext (assigned dict.entries)

/-- A new key can be removed again. -/
theorem erase_insert {dict : Dict Key Value}
    (absent : dict.get? key = none) : (dict.insert key value).erase key = dict := by
  have removed : ∀ entries : List (Key × Value), key ∉ entries.map Prod.fst →
      (assign key value entries).filter (fun entry => decide (entry.1 ≠ key)) = entries := by
    intro entries
    induction entries with
    | nil => exact fun _ => by simp [assign]
    | cons entry rest ih =>
        rcases entry with ⟨other, old⟩
        intro fresh
        rw [List.map_cons, List.mem_cons, not_or] at fresh
        rw [assign, if_neg (Ne.symm fresh.1), List.filter_cons,
          if_pos (decide_eq_true (Ne.symm fresh.1)), ih fresh.2]
  exact ext (removed dict.entries ((get?_eq_none dict key).mp absent))

/-- Dictionaries that agree at every key have the same entries, in some order. -/
theorem perm_of_get? (agree : ∀ key, left.get? key = right.get? key) :
    left.entries.Perm right.entries := by
  have distinct : ∀ dict : Dict Key Value, dict.entries.Nodup := fun dict =>
    List.Nodup.of_map Prod.fst dict.nodup
  refine (List.perm_ext_iff_of_nodup (distinct left) (distinct right)).mpr ?_
  rintro ⟨key, value⟩
  constructor
  · intro member
    exact mem_of_get? (agree key ▸ get?_of_mem member)
  · intro member
    exact mem_of_get? ((agree key).symm ▸ get?_of_mem member)

/-- The values at some keys and those at the others are all values. -/
theorem values_split (dict : Dict Key Value) (keys : List Key) :
    (dict.entries.map Prod.snd).Perm
      ((dict.filter (fun entry => decide (entry.1 ∉ keys))).entries.map Prod.snd ++
        (dict.filter (fun entry => decide (entry.1 ∈ keys))).entries.map Prod.snd) := by
  rw [← List.map_append]
  apply List.Perm.map
  refine ((List.filter_append_perm (fun entry : Key × Value =>
    decide (entry.1 ∉ keys)) _).symm).trans ?_
  simp [filter]

/-- Dictionaries that agree at some keys have the same values there. -/
theorem values_at_perm {keys : List Key}
    (agree : ∀ key ∈ keys, left.get? key = right.get? key) :
    ((left.filter (fun entry => decide (entry.1 ∈ keys))).entries.map Prod.snd).Perm
      ((right.filter (fun entry => decide (entry.1 ∈ keys))).entries.map Prod.snd) := by
  apply List.Perm.map
  have distinct : ∀ dict : Dict Key Value, dict.entries.Nodup := fun dict =>
    List.Nodup.of_map Prod.fst dict.nodup
  refine (List.perm_ext_iff_of_nodup ((distinct left).filter _) ((distinct right).filter _)).mpr ?_
  rintro ⟨key, value⟩
  simp only [List.mem_filter, decide_eq_true_eq]
  constructor
  · rintro ⟨member, isKey⟩
    exact ⟨mem_of_get? (agree key isKey ▸ get?_of_mem member), isKey⟩
  · rintro ⟨member, isKey⟩
    exact ⟨mem_of_get? ((agree key isKey).symm ▸ get?_of_mem member), isKey⟩

theorem foldl_erase_entries (keys : List Key) (dict : Dict Key Value) :
    (keys.foldl erase dict).entries =
      dict.entries.filter (fun entry => decide (entry.1 ∉ keys)) := by
  induction keys generalizing dict with
  | nil => simp
  | cons key rest ih =>
      rw [List.foldl_cons, ih, erase, filter, List.filter_filter]
      apply List.filter_congr
      intro entry _
      simp only [List.mem_cons, not_or, ← Bool.decide_and, and_comm]

/-- Build a dictionary from entries in order; a repeated key keeps its first
position and its last value. -/
def ofEntries (entries : List (Key × Value)) : Dict Key Value :=
  entries.foldl (fun dict entry => dict.insert entry.1 entry.2) empty

theorem mem_assign {entry : Key × Value} (member : entry ∈ assign key value entries) :
    entry = (key, value) ∨ entry ∈ entries := by
  induction entries with
  | nil => exact Or.inl (List.mem_singleton.mp member)
  | cons first rest ih =>
      rw [assign] at member
      split_ifs at member
      · rcases List.mem_cons.mp member with same | later
        · exact Or.inl same
        · exact Or.inr (List.mem_cons_of_mem _ later)
      · rcases List.mem_cons.mp member with same | later
        · exact Or.inr (same ▸ List.mem_cons_self)
        · rcases ih later with assigned | kept
          · exact Or.inl assigned
          · exact Or.inr (List.mem_cons_of_mem _ kept)

/-- A built dictionary holds entries that it was built from. -/
theorem mem_of_mem_ofEntries {entry : Key × Value}
    (member : entry ∈ (ofEntries entries).entries) : entry ∈ entries := by
  have onward : ∀ (rest : List (Key × Value)) (dict : Dict Key Value),
      entry ∈ (rest.foldl (fun dict entry => dict.insert entry.1 entry.2) dict).entries →
        entry ∈ dict.entries ∨ entry ∈ rest := by
    intro rest
    induction rest with
    | nil => exact fun dict => Or.inl
    | cons first rest ih =>
        intro dict later
        rcases ih (dict.insert first.1 first.2) later with inserted | further
        · rcases mem_assign inserted with same | kept
          · exact Or.inr (same ▸ List.mem_cons_self)
          · exact Or.inl kept
        · exact Or.inr (List.mem_cons_of_mem _ further)
  exact (onward entries empty member).resolve_left List.not_mem_nil

/-- A new key goes to the end. -/
theorem assign_of_not_mem (value : Value)
    (new : key ∉ entries.map Prod.fst) : assign key value entries = entries ++ [(key, value)] := by
  induction entries with
  | nil => rfl
  | cons entry rest ih =>
      rw [List.map_cons, List.mem_cons, not_or] at new
      rw [assign, if_neg (Ne.symm new.1), ih new.2, List.cons_append]

/-- Entries with distinct keys are kept as they are. -/
theorem ofEntries_entries
    (distinct : (entries.map Prod.fst).Nodup) : (ofEntries entries).entries = entries := by
  have onward : ∀ (rest : List (Key × Value)) (dict : Dict Key Value),
      ((dict.entries ++ rest).map Prod.fst).Nodup →
        (rest.foldl (fun dict entry => dict.insert entry.1 entry.2) dict).entries =
          dict.entries ++ rest := by
    intro rest
    induction rest with
    | nil => exact fun dict _ => (List.append_nil _).symm
    | cons entry rest ih =>
        intro dict distinctAll
        have new : entry.1 ∉ dict.entries.map Prod.fst := by
          rw [List.map_append, List.map_cons, List.nodup_middle] at distinctAll
          exact fun member =>
            (List.nodup_cons.mp distinctAll).1 (List.mem_append_left _ member)
        have inserted : (dict.insert entry.1 entry.2).entries = dict.entries ++ [entry] :=
          assign_of_not_mem entry.2 new
        rw [List.foldl_cons, ih, inserted, List.append_assoc]
        · rfl
        · rw [inserted, List.append_assoc]
          exact distinctAll
  exact onward entries empty distinct

theorem mem_keys_ofEntries :
    key ∈ (ofEntries entries).keys ↔ key ∈ entries.map Prod.fst := by
  have onward : ∀ (rest : List (Key × Value)) (dict : Dict Key Value),
      key ∈ (rest.foldl (fun dict entry => dict.insert entry.1 entry.2) dict).keys ↔
        key ∈ dict.keys ∨ key ∈ rest.map Prod.fst := by
    intro rest
    induction rest with
    | nil => simp
    | cons entry rest ih =>
        intro dict
        rw [List.foldl_cons, ih, mem_keys_insert, List.map_cons, List.mem_cons]
        tauto
  rw [ofEntries, onward]
  simp

/-- Where the entries of a key agree, it is found with their value. -/
theorem get?_ofEntries (member : (key, value) ∈ entries)
    (agree : ∀ other, (key, other) ∈ entries → other = value) :
    (ofEntries entries).get? key = some value := by
  have present : key ∈ (ofEntries entries).keys :=
    mem_keys_ofEntries.mpr (List.mem_map_of_mem member)
  rcases Option.isSome_iff_exists.mp ((get?_isSome _ _).mpr present) with ⟨other, found⟩
  rw [found, agree other (mem_of_mem_ofEntries (mem_of_get? found))]

/-! ## Values that know their keys -/

/-- Every value is stored under its own key. -/
def Keyed (identify : Value → Key) (dict : Dict Key Value) : Prop :=
  ∀ entry ∈ dict.entries, identify entry.2 = entry.1

section Keyed

variable {identify : Value → Key} {dict : Dict Key Value}

omit [DecidableEq Key] in
theorem keyed_empty : Keyed identify (empty : Dict Key Value) :=
  List.forall_mem_nil _

theorem Keyed.insert (keyed : Keyed identify dict) {key : Key} {value : Value}
    (own : identify value = key) : Keyed identify (dict.insert key value) := by
  intro entry member
  rcases mem_assign member with same | kept
  · rw [same]
    exact own
  · exact keyed entry kept

omit [DecidableEq Key] in
theorem Keyed.filter (keyed : Keyed identify dict) (keep : Key × Value → Bool) :
    Keyed identify (dict.filter keep) :=
  fun entry member => keyed entry (List.mem_filter.mp member).1

theorem Keyed.erase (keyed : Keyed identify dict) (key : Key) :
    Keyed identify (dict.erase key) :=
  keyed.filter _

theorem Keyed.get? (keyed : Keyed identify dict) {key : Key} {value : Value}
    (found : dict.get? key = some value) : identify value = key :=
  keyed (key, value) (mem_of_get? found)

end Keyed

end Dict
end Foundation
end Synesthesia
