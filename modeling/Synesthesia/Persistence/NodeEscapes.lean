import Synesthesia.Persistence.MigrationEscapes
import Synesthesia.Persistence.RoundTrip

namespace Synesthesia
namespace Persistence

open Foundation Contracts

/-!
# What escapes from the decoding of a node

A node of an older version is migrated before its fields are checked.  A deep
copy may not fit the stack, a migration may convert an integer that no float
holds, and the error for an unsupported version writes that version out.
-/

/-! ## Node migrations -/

variable {parameters : JsonObject}

section Walker

variable {interpreter : Interpreter} {typeId : String} {migrations : List (Nat × NodeMigration)}
  {data : JsonObject}

variable {remaining version : Nat}

end Walker

/-! ## Checks that raise the loader's own error only -/

variable {value : JsonValue}

theorem expectList_eq_ok {path : String} {items : List JsonValue} :
    expectList value path = .ok items ↔ value = .list items := by
  constructor
  · intro accepted
    cases value with
    | list there =>
        cases accepted
        rfl
    | _ => cases accepted
  · exact fun same => same ▸ rfl

section Nodes

variable {interpreter : Interpreter} {registry : NodeRegistry} {typeId path : String}
  {definition : RegisteredNode} {data : JsonObject} {version : Nat}

end Nodes

end Persistence
end Synesthesia
