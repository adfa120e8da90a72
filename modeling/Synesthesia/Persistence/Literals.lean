import Synesthesia.Contracts.RuntimeValues
import Synesthesia.Foundation.JsonValues

namespace Synesthesia
namespace Persistence

open Foundation Contracts

/-!
# The literal codec

Parameters, settings and UI state are literals.  A colour and a matrix have a
structured form in JSON, all other literals are their own.
-/

inductive LiteralValue where
  | absent
  | bool (value : Bool)
  | int (value : Int)
  | float (value : PyFloat)
  | str (text : String)
  | color (value : ColorValue)
  | matrix (value : NumericMatrix)
deriving DecidableEq

/-- A failure to decode, before its consumer translates it. -/
structure LiteralDecodeError where
  kind : String
  message : String
  path : String
deriving DecidableEq

def LiteralDecodeError.text (error : LiteralDecodeError) : String :=
  error.kind ++ " at " ++ error.path ++ ": " ++ error.message

/-! ## Encoding -/

def colorToData (color : ColorValue) : JsonObject :=
  [("$type", .str "COLOR"), ("r", .float (.finite color.r)), ("g", .float (.finite color.g)),
    ("b", .float (.finite color.b)), ("a", .float (.finite color.a))]

def literalToData : LiteralValue → JsonValue
  | .absent => .null
  | .bool value => .bool value
  | .int value => .int value
  | .float value => .float value
  | .str text => .str text
  | .color value => .object (colorToData value)
  | .matrix value =>
      .list (value.rows.map (fun row => .list (row.map (fun entry => .float (.finite entry)))))

/-- The literals in the order of their keys. -/
def literalMappingToData (values : Dict String LiteralValue) : JsonObject :=
  (sortByKey Prod.fst values.entries).map (fun entry => (entry.1, literalToData entry.2))

/-! ## Decoding -/

/-- A finite number, widened to a float. -/
def number (value : JsonValue) (path : String) : Except LiteralDecodeError ℚ :=
  match value with
  | .int value =>
      match PyFloat.ofInt value with
      | .ok (.finite result) => .ok result
      | _ => .error ⟨"invalid_number", "Expected finite number", path⟩
  | .float (.finite result) => .ok result
  | .float _ => .error ⟨"invalid_number", "Expected finite number", path⟩
  | _ => .error ⟨"invalid_type", "Expected number", path⟩

/-- The constructor of a colour. -/
def makeColor (r g b a : ℚ) : Except PyError ColorValue :=
  if normalized : ∀ component ∈ [r, g, b, a], 0 ≤ component ∧ component ≤ 1 then
    .ok ⟨r, g, b, a, normalized⟩
  else
    .error (.valueError "color components must be finite and normalized to the range 0..1")

/-- The constructor of a matrix of finite numbers. -/
def makeMatrix : List (List ℚ) → Except PyError NumericMatrix
  | [] => .error (.valueError "numeric matrix must contain at least one row")
  | first :: rest =>
      if positive : 0 < first.length then
        if equal : ∀ row ∈ first :: rest, row.length = first.length then
          .ok ⟨first :: rest, ⟨first.length, positive, equal⟩, List.cons_ne_nil first rest⟩
        else .error (.valueError "numeric matrix rows must have equal lengths")
      else .error (.valueError "numeric matrix rows must not be empty")

/-- The message of an exception. -/
def errorMessage : PyError → String
  | .valueError message => message
  | .typeError message => message
  | .overflowError message => message
  | .runtimeError message => message
  | .timeoutError message => message
  | .keyError message => message
  | .osError message => message

def entryPath (path : String) (index : Nat) : String := path ++ "[" ++ toString index ++ "]"

def numericRow (path : String) (row : JsonValue) (index : Nat) :
    Except LiteralDecodeError (List ℚ) :=
  match row with
  | .list items =>
      decodeFrom (fun item column => number item (entryPath (entryPath path index) column)) 0 items
  | _ => .error ⟨"invalid_type", "Expected JSON array", entryPath path index⟩

def numericMatrix (rows : List JsonValue) (path : String) :
    Except LiteralDecodeError NumericMatrix :=
  match decodeFrom (numericRow path) 0 rows with
  | .error error => .error error
  | .ok parsed =>
      match makeMatrix parsed with
      | .error error => .error ⟨"invalid_literal", errorMessage error, path⟩
      | .ok matrix => .ok matrix

def colorKeys : List String := ["$type", "r", "g", "b", "a"]

/-- A component of a colour; the keys have been compared before. -/
def colorComponent (fields : JsonObject) (path key : String) : Except LiteralDecodeError ℚ :=
  number ((Dict.lookup key fields).getD .null) (path ++ "." ++ key)

def colorComponents (fields : JsonObject) (path : String) :
    Except LiteralDecodeError (ℚ × ℚ × ℚ × ℚ) := do
  let r ← colorComponent fields path "r"
  let g ← colorComponent fields path "g"
  let b ← colorComponent fields path "b"
  let a ← colorComponent fields path "a"
  return (r, g, b, a)

/-- Every failure is reported for the colour. -/
def colorValue (fields : JsonObject) (path : String) : Except LiteralDecodeError ColorValue :=
  match colorComponents fields path with
  | .error error => .error ⟨"invalid_literal", error.text, path⟩
  | .ok (r, g, b, a) =>
      match makeColor r g b a with
      | .error error => .error ⟨"invalid_literal", errorMessage error, path⟩
      | .ok color => .ok color

def literalValue (value : JsonValue) (path : String) : Except LiteralDecodeError LiteralValue :=
  match value with
  | .null => .ok .absent
  | .bool value => .ok (.bool value)
  | .int value => .ok (.int value)
  | .str text => .ok (.str text)
  | .float (.finite value) => .ok (.float (.finite value))
  | .float _ => .error ⟨"invalid_literal", "Expected a finite JSON literal", path⟩
  | .list rows => (numericMatrix rows path).map .matrix
  | .object fields =>
      if sameKeys colorKeys fields = false then
        .error ⟨"invalid_literal", "Expected a finite JSON literal", path⟩
      else
        match Dict.lookup "$type" fields with
        | some (.str "COLOR") => (colorValue fields path).map .color
        | _ => .error ⟨"invalid_literal", "Unknown structured literal type", path ++ ".$type"⟩

def literalField (path : String) (field : String × JsonValue) :
    Except LiteralDecodeError (String × LiteralValue) :=
  (literalValue field.2 (path ++ "." ++ field.1)).map (fun literal => (field.1, literal))

def literalMapping (value : JsonValue) (path : String) :
    Except LiteralDecodeError (Dict String LiteralValue) :=
  match value with
  | .object fields =>
      (decodeFrom (fun field _ => literalField path field) 0 fields).map Dict.ofEntries
  | _ => .error ⟨"invalid_type", "Expected JSON object", path⟩

/-! ## Round trip -/

/-- A literal without an infinite number or a NaN. -/
def LiteralValue.IsFinite : LiteralValue → Prop
  | .float value => value.isFinite = true
  | _ => True

theorem makeColor_components (color : ColorValue) :
    makeColor color.r color.g color.b color.a = .ok color := by
  rw [makeColor, dif_pos color.normalized]

theorem makeMatrix_rows (matrix : NumericMatrix) : makeMatrix matrix.rows = .ok matrix := by
  rcases matrix with ⟨rows, ⟨width, positive, equal⟩, nonempty⟩
  cases rows with
  | nil => exact absurd rfl nonempty
  | cons first rest =>
      have length : first.length = width := equal first List.mem_cons_self
      have same : ∀ row ∈ first :: rest, row.length = first.length :=
        fun row member => (equal row member).trans length.symm
      rw [makeMatrix, dif_pos (length ▸ positive), dif_pos same]

theorem numericMatrix_rows (matrix : NumericMatrix) (path : String) :
    numericMatrix (matrix.rows.map (fun row =>
      .list (row.map (fun entry => .float (.finite entry))))) path = .ok matrix := by
  have row : ∀ row ∈ matrix.rows, ∀ index, numericRow path
      (.list (row.map (fun entry => .float (.finite entry)))) index = .ok (id row) := by
    intro row _ index
    rw [numericRow, decodeFrom_map (fun entry _ column => rfl), List.map_id']
    rfl
  rw [numericMatrix, decodeFrom_map row, List.map_id]
  dsimp only
  rw [makeMatrix_rows]

theorem sameKeys_colorToData (color : ColorValue) :
    sameKeys colorKeys (colorToData color) = true := rfl

theorem lookup_type_colorToData (color : ColorValue) :
    Dict.lookup "$type" (colorToData color) = some (.str "COLOR") := rfl

theorem colorValue_colorToData (color : ColorValue) (path : String) :
    colorValue (sortByKey Prod.fst
      ((colorToData color).map (fun field => (field.1, field.2.sorted)))) path = .ok color := by
  have component : ∀ key number, Dict.lookup key (colorToData color) =
      some (.float (.finite number)) → colorComponent (sortByKey Prod.fst
        ((colorToData color).map (fun field => (field.1, field.2.sorted)))) path key =
          .ok number := by
    intro key number found
    rw [colorComponent, JsonValue.lookup_sorted, found]
    rfl
  have components : colorComponents (sortByKey Prod.fst
      ((colorToData color).map (fun field => (field.1, field.2.sorted)))) path =
        .ok (color.r, color.g, color.b, color.a) := by
    rw [colorComponents, component "r" color.r rfl, component "g" color.g rfl,
      component "b" color.b rfl, component "a" color.a rfl]
    rfl
  rw [colorValue, components]
  dsimp only
  rw [makeColor_components]

theorem literalValue_literalToData {literal : LiteralValue} (finite : literal.IsFinite)
    (path : String) : literalValue (literalToData literal).sorted path = .ok literal := by
  cases literal with
  | absent => rfl
  | bool value => rfl
  | int value => rfl
  | str text => rfl
  | float value =>
      cases value with
      | finite value => rfl
      | infinite negative => cases finite
      | nan => cases finite
  | color value =>
      rw [literalToData, JsonValue.sorted_object, literalValue, JsonValue.sameKeys_sorted,
        sameKeys_colorToData, JsonValue.lookup_sorted, lookup_type_colorToData,
        colorValue_colorToData]
      rfl
  | matrix value =>
      have rows : (value.rows.map (fun row =>
          JsonValue.list (row.map (fun entry => .float (.finite entry))))).map JsonValue.sorted =
            value.rows.map (fun row => .list (row.map (fun entry => .float (.finite entry)))) := by
        rw [List.map_map]
        apply List.map_congr_left
        intro row _
        rw [Function.comp_apply, JsonValue.sorted_list, List.map_map]
        rfl
      rw [literalToData, JsonValue.sorted_list, rows, literalValue, numericMatrix_rows]
      rfl

/-- Encoded literals are read back, in the order of their keys. -/
theorem literalMapping_literalMappingToData {values : Dict String LiteralValue}
    (finite : ∀ entry ∈ values.entries, entry.2.IsFinite) (path : String) :
    literalMapping (JsonValue.object (literalMappingToData values)).sorted path =
      .ok (sortDict values) := by
  have mapped : (literalMappingToData values).map
      (fun field : String × JsonValue => (field.1, field.2.sorted)) =
        (sortByKey Prod.fst values.entries).map
          (fun entry => (entry.1, (literalToData entry.2).sorted)) := by
    rw [literalMappingToData, List.map_map]
    rfl
  have field : ∀ entry ∈ sortByKey Prod.fst values.entries, ∀ index : Nat,
      (fun (field : String × JsonValue) (_ : Nat) => literalField path field)
        (entry.1, (literalToData entry.2).sorted) index = .ok (id entry) := by
    intro entry member index
    have single := literalValue_literalToData (finite entry ((mem_sortByKey _).mp member))
      (path ++ "." ++ entry.1)
    dsimp only
    rw [literalField, single]
    rfl
  rw [JsonValue.sorted_object, mapped,
    sortByKey_map_of_sorted (fun value => (literalToData value).sorted), literalMapping,
    decodeFrom_map field, List.map_id]
  exact congrArg Except.ok (Dict.ext (Dict.ofEntries_entries (sortDict values).nodup))

end Persistence
end Synesthesia
