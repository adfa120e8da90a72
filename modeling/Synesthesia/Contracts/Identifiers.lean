import Synesthesia.Contracts.RuntimeValues

namespace Synesthesia
namespace Contracts

open Foundation

/-!
# Reading identifiers

`UUID(text)` of the standard library: decorations are removed, 32 characters
must be left, and these must be a hexadecimal integer to `int`, which allows
for more than digits.
-/

/-- An identifier has 128 bits. -/
abbrev Identifier := Fin (2 ^ 128)

instance identifiers128 : NeZero (2 ^ 128) := ⟨by decide⟩

instance identifiersLawful : LawfulBEq Identifier := inferInstance

/-! ## Text -/

/-- The text without the occurrences of a pattern, of which `skip` characters
are still to be passed over. -/
def removeFrom (pattern : List Char) : Nat → List Char → List Char
  | _, [] => []
  | skip + 1, _ :: rest => removeFrom pattern skip rest
  | 0, character :: rest =>
      if pattern.isPrefixOf (character :: rest) then removeFrom pattern (pattern.length - 1) rest
      else character :: removeFrom pattern 0 rest

/-- `text.replace(pattern, "")`. -/
def removeAll (pattern text : List Char) : List Char := removeFrom pattern 0 text

/-- `text.strip(...)` with a test for the characters to strip. -/
def stripWhere (test : Char → Bool) (text : List Char) : List Char :=
  (((text.dropWhile test).reverse).dropWhile test).reverse

def isBrace (character : Char) : Bool := character.toNat = 123 ∨ character.toNat = 125

def isSpace (character : Char) : Bool :=
  character.toNat = 32 ∨ 9 ≤ character.toNat ∧ character.toNat ≤ 13

/-! ## Hexadecimal integers -/

def hexDigit? (character : Char) : Option Nat :=
  if '0'.toNat ≤ character.toNat ∧ character.toNat ≤ '9'.toNat then
    some (character.toNat - '0'.toNat)
  else if 'a'.toNat ≤ character.toNat ∧ character.toNat ≤ 'f'.toNat then
    some (character.toNat - 'a'.toNat + 10)
  else if 'A'.toNat ≤ character.toNat ∧ character.toNat ≤ 'F'.toNat then
    some (character.toNat - 'A'.toNat + 10)
  else none

/-- Digits with single underscores between them. -/
def hexDigits? (value : Nat) : Bool → List Char → Option Nat
  | afterDigit, [] => if afterDigit then some value else none
  | afterDigit, character :: rest =>
      if character = '_' then
        if afterDigit then hexDigits? value false rest else none
      else
        match hexDigit? character with
        | none => none
        | some digit => hexDigits? (16 * value + digit) true rest

def dropSign : List Char → List Char
  | '+' :: rest => rest
  | text => text

/-- One underscore may follow the radix. -/
def dropRadix : List Char → List Char
  | '0' :: 'x' :: '_' :: rest => rest
  | '0' :: 'X' :: '_' :: rest => rest
  | '0' :: 'x' :: rest => rest
  | '0' :: 'X' :: rest => rest
  | text => text

/-- `int(text, 16)` of a text without minus signs. -/
def intOfHex? (text : List Char) : Option Nat :=
  hexDigits? 0 false (dropRadix (dropSign (stripWhere isSpace text)))

def identifier? (value : Nat) : Option Identifier :=
  if small : value < 2 ^ 128 then some ⟨value, small⟩ else none

/-- `UUID(text)`. -/
def parseUuid (text : String) : Option Identifier :=
  let named := removeAll "uuid:".toList (removeAll "urn:".toList text.toList)
  let hex := removeAll ['-'] (stripWhere isBrace named)
  if hex.length ≠ 32 then none else (intOfHex? hex).bind identifier?

/-! ## What is written is read back -/

/-- The characters that identifiers are written with. -/
def IsHexDigit (character : Char) : Prop := ∃ digit < 16, character = Nat.digitChar digit

theorem hexDigit?_digitChar {digit : Nat} (small : digit < 16) :
    hexDigit? (Nat.digitChar digit) = some digit := by
  interval_cases digit <;> rfl

theorem IsHexDigit.plain {character : Char} (hexadecimal : IsHexDigit character) :
    character ≠ 'u' ∧ character ≠ '-' ∧ character ≠ '_' ∧ character ≠ '+' ∧ character ≠ 'x' ∧
      character ≠ 'X' ∧ isBrace character = false ∧ isSpace character = false := by
  rcases hexadecimal with ⟨digit, small, same⟩
  subst same
  interval_cases digit <;> decide

/-- The digits of a number in base 16. -/
theorem exists_toDigits (value : Nat) :
    ∃ digits : List Nat, Nat.toDigits 16 value = digits.map Nat.digitChar ∧
      (∀ digit ∈ digits, digit < 16) ∧
      digits.foldl (fun sum digit => 16 * sum + digit) 0 = value := by
  induction value using Nat.strong_induction_on with
  | _ value ih =>
      rw [Nat.toDigits_eq_if (by decide)]
      split_ifs with small
      · refine ⟨[value], rfl, ?_, by simp⟩
        intro digit member
        rw [List.mem_singleton.mp member]
        exact small
      · have smaller : value / 16 < value := Nat.div_lt_self (by omega) (by decide)
        rcases ih _ smaller with ⟨digits, written, bounded, summed⟩
        refine ⟨digits ++ [value % 16], ?_, ?_, ?_⟩
        · rw [written, List.map_append]
          rfl
        · intro digit member
          rcases List.mem_append.mp member with earlier | last
          · exact bounded digit earlier
          · rw [List.mem_singleton.mp last]
            exact Nat.mod_lt _ (by decide)
        · rw [List.foldl_append, summed]
          exact Nat.div_add_mod value 16

theorem hexDigits?_map {digits : List Nat} (bounded : ∀ digit ∈ digits, digit < 16) (value : Nat)
    (after : Bool) (started : after = true ∨ digits ≠ []) :
    hexDigits? value after (digits.map Nat.digitChar) =
      some (digits.foldl (fun sum digit => 16 * sum + digit) value) := by
  induction digits generalizing value after with
  | nil =>
      have afterDigit := started.resolve_right (fun nonempty => nonempty rfl)
      rw [List.map_nil, hexDigits?, if_pos afterDigit]
      rfl
  | cons digit rest ih =>
      have small := bounded digit List.mem_cons_self
      have plain := IsHexDigit.plain ⟨digit, small, rfl⟩
      rw [List.map_cons, hexDigits?, if_neg plain.2.2.1, hexDigit?_digitChar small]
      exact ih (fun other member => bounded other (List.mem_cons_of_mem _ member))
        _ true (Or.inl rfl)

/-- The 32 digits of an identifier. -/
theorem hexText_digits (id : Identifier) :
    ∃ digits : List Nat, (hexText 32 id.val).toList = digits.map Nat.digitChar ∧
      (∀ digit ∈ digits, digit < 16) ∧ digits.length = 32 ∧
      digits.foldl (fun sum digit => 16 * sum + digit) 0 = id.val := by
  rcases exists_toDigits id.val with ⟨digits, written, bounded, summed⟩
  have short : (Nat.toDigits 16 id.val).length ≤ 32 :=
    Nat.toDigits_length 16 id.val 32 (by decide) (by have := id.isLt; norm_num at this ⊢; omega)
  have length : digits.length = (Nat.toDigits 16 id.val).length := by
    rw [written, List.length_map]
  have zeros : ∀ count sum, (List.replicate count 0).foldl
      (fun sum digit => 16 * sum + digit) sum = 16 ^ count * sum := by
    intro count
    induction count with
    | zero => simp
    | succ count ih =>
        intro sum
        rw [List.replicate_succ, List.foldl_cons, ih, Nat.add_zero, pow_succ,
          Nat.mul_assoc]
  refine ⟨List.replicate (32 - digits.length) 0 ++ digits, ?_, ?_, ?_, ?_⟩
  · rw [hexText, String.toList_ofList, List.map_append, List.map_replicate, ← written, length]
    rfl
  · intro digit member
    rcases List.mem_append.mp member with zero | own
    · rw [List.eq_of_mem_replicate zero]
      decide
    · exact bounded digit own
  · rw [List.length_append, List.length_replicate]
    omega
  · rw [List.foldl_append, zeros, Nat.mul_zero, summed]

/-! ### The decorations -/

/-- A pattern whose first character does not occur is not found. -/
theorem removeAll_of_not_mem {first : Char} {pattern text : List Char} (absent : first ∉ text) :
    removeAll (first :: pattern) text = text := by
  unfold removeAll
  induction text with
  | nil => rfl
  | cons character rest ih =>
      rw [List.mem_cons, not_or] at absent
      have different : (first :: pattern).isPrefixOf (character :: rest) = false := by
        rw [List.isPrefixOf]
        simp [absent.1]
      rw [removeFrom, different, ih absent.2]
      rfl

/-- A single character is filtered out. -/
theorem removeAll_singleton (character : Char) (text : List Char) :
    removeAll [character] text = text.filter (fun other => other ≠ character) := by
  unfold removeAll
  induction text with
  | nil => rfl
  | cons other rest ih =>
      rw [removeFrom, List.length_singleton, ih]
      by_cases same : other = character
      · simp [same]
      · simp [same, Ne.symm same]

theorem stripWhere_of_forall {test : Char → Bool} {text : List Char}
    (kept : ∀ character ∈ text, test character = false) : stripWhere test text = text := by
  have whole : ∀ characters : List Char, (∀ character ∈ characters, test character = false) →
      characters.dropWhile test = characters := by
    intro characters every
    cases characters with
    | nil => rfl
    | cons first rest =>
        have stays := every first List.mem_cons_self
        rw [List.dropWhile_cons, stays]
        rfl
  rw [stripWhere, whole text kept, whole _ (fun character member =>
    kept character (List.mem_reverse.mp member)), List.reverse_reverse]

theorem dropSign_of_forall {text : List Char} (unsigned : ∀ character ∈ text, character ≠ '+') :
    dropSign text = text := by
  unfold dropSign
  split
  · exact absurd rfl (unsigned _ List.mem_cons_self)
  · rfl

theorem dropRadix_of_forall {text : List Char}
    (plain : ∀ character ∈ text, character ≠ 'x' ∧ character ≠ 'X') : dropRadix text = text := by
  have second : ∀ {first other : Char} {rest : List Char}, text = first :: other :: rest →
      other ≠ 'x' ∧ other ≠ 'X' := by
    intro first other rest same
    exact plain other (same ▸ List.mem_cons_of_mem _ List.mem_cons_self)
  unfold dropRadix
  split
  · exact absurd rfl (second rfl).1
  · exact absurd rfl (second rfl).2
  · exact absurd rfl (second rfl).1
  · exact absurd rfl (second rfl).2
  · rfl

/-! ### The round trip -/

/-- The five groups of a written identifier. -/
theorem toList_uuidText (id : Nat) :
    (uuidText id).toList =
      (hexText 32 id).toList.take 8 ++ '-' :: (((hexText 32 id).toList.drop 8).take 4 ++
        '-' :: (((hexText 32 id).toList.drop 12).take 4 ++
          '-' :: (((hexText 32 id).toList.drop 16).take 4 ++
            '-' :: (hexText 32 id).toList.drop 20))) := by
  rw [uuidText, String.toList_intercalate]
  simp [List.intercalate]

theorem groups_append (characters : List Char) :
    characters.take 8 ++ ((characters.drop 8).take 4 ++ ((characters.drop 12).take 4 ++
      ((characters.drop 16).take 4 ++ characters.drop 20))) = characters := by
  have fourth : (characters.drop 16).take 4 ++ characters.drop 20 = characters.drop 16 := by
    rw [← List.drop_drop (i := 4) (j := 16), List.take_append_drop]
  have third : (characters.drop 12).take 4 ++ characters.drop 16 = characters.drop 12 := by
    rw [← List.drop_drop (i := 4) (j := 12), List.take_append_drop]
  have second : (characters.drop 8).take 4 ++ characters.drop 12 = characters.drop 8 := by
    rw [← List.drop_drop (i := 4) (j := 8), List.take_append_drop]
  rw [fourth, third, second, List.take_append_drop]

/-- A written identifier is read back. -/
theorem parseUuid_uuidText (id : Identifier) : parseUuid (uuidText id.val) = some id := by
  rcases hexText_digits id with ⟨digits, written, bounded, length, summed⟩
  have hexadecimal : ∀ character ∈ digits.map Nat.digitChar, IsHexDigit character := by
    intro character member
    rcases List.mem_map.mp member with ⟨digit, listed, same⟩
    exact ⟨digit, bounded digit listed, same.symm⟩
  have grouped : ∀ character ∈ (uuidText id.val).toList,
      IsHexDigit character ∨ character = '-' := by
    intro character member
    have part : ∀ {start count : Nat},
        character ∈ ((digits.map Nat.digitChar).drop start).take count →
        IsHexDigit character ∨ character = '-' := fun inside =>
      Or.inl (hexadecimal character (List.mem_of_mem_drop (List.mem_of_mem_take inside)))
    rw [toList_uuidText, written] at member
    simp only [List.mem_append, List.mem_cons] at member
    rcases member with inside | dash | inside | dash | inside | dash | inside | dash | inside
    · exact Or.inl (hexadecimal character (List.mem_of_mem_take inside))
    · exact Or.inr dash
    · exact part inside
    · exact Or.inr dash
    · exact part inside
    · exact Or.inr dash
    · exact part inside
    · exact Or.inr dash
    · exact Or.inl (hexadecimal character (List.mem_of_mem_drop inside))
  have unnamed : 'u' ∉ (uuidText id.val).toList := by
    intro member
    rcases grouped _ member with digit | dash
    · exact digit.plain.1 rfl
    · exact absurd dash (by decide)
  have braceless : ∀ character ∈ (uuidText id.val).toList, isBrace character = false := by
    intro character member
    rcases grouped character member with digit | dash
    · exact digit.plain.2.2.2.2.2.2.1
    · rw [dash]
      decide
  have named : removeAll "uuid:".toList (removeAll "urn:".toList (uuidText id.val).toList) =
      (uuidText id.val).toList := by
    rw [show "urn:".toList = 'u' :: "rn:".toList from rfl,
      show "uuid:".toList = 'u' :: "uid:".toList from rfl, removeAll_of_not_mem unnamed,
      removeAll_of_not_mem unnamed]
  have undashed : removeAll ['-'] (uuidText id.val).toList = digits.map Nat.digitChar := by
    have whole : ∀ part : List Char, (∀ character ∈ part, character ∈ digits.map Nat.digitChar) →
        part.filter (fun other => other ≠ '-') = part := by
      intro part inside
      apply List.filter_eq_self.mpr
      intro character member
      exact decide_eq_true (hexadecimal character (inside character member)).plain.2.1
    have group : ∀ start count, (((digits.map Nat.digitChar).drop start).take count).filter
        (fun other => other ≠ '-') = ((digits.map Nat.digitChar).drop start).take count :=
      fun start count => whole _ (fun character member =>
        List.mem_of_mem_drop (List.mem_of_mem_take member))
    have dash : ∀ rest : List Char, ('-' :: rest).filter (fun other => other ≠ '-') =
        rest.filter (fun other => other ≠ '-') :=
      fun rest => List.filter_cons_of_neg (by decide)
    rw [removeAll_singleton, toList_uuidText, written, List.filter_append,
      whole _ (fun character member => List.mem_of_mem_take member), dash, List.filter_append,
      group, dash, List.filter_append, group, dash, List.filter_append, group, dash,
      whole _ (fun character member => List.mem_of_mem_drop member), groups_append]
  have hexadecimals : intOfHex? (digits.map Nat.digitChar) = some id.val := by
    have spaceless : stripWhere isSpace (digits.map Nat.digitChar) = digits.map Nat.digitChar :=
      stripWhere_of_forall (fun character member =>
        (hexadecimal character member).plain.2.2.2.2.2.2.2)
    have unsigned : dropSign (digits.map Nat.digitChar) = digits.map Nat.digitChar :=
      dropSign_of_forall (fun character member => (hexadecimal character member).plain.2.2.2.1)
    have plain : dropRadix (digits.map Nat.digitChar) = digits.map Nat.digitChar :=
      dropRadix_of_forall (fun character member =>
        ⟨(hexadecimal character member).plain.2.2.2.2.1,
          (hexadecimal character member).plain.2.2.2.2.2.1⟩)
    have nonempty : digits ≠ [] := by
      intro empty
      rw [empty] at length
      cases length
    rw [intOfHex?, spaceless, unsigned, plain, hexDigits?_map bounded 0 false (Or.inr nonempty),
      summed]
  rw [parseUuid, named, stripWhere_of_forall braceless, undashed, List.length_map, length,
    hexadecimals]
  exact dif_pos id.isLt

end Contracts
end Synesthesia
