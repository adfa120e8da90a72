import Synesthesia.Contracts.Identifiers
import Synesthesia.Persistence.Literals

namespace Synesthesia
namespace Persistence

open Foundation Contracts

/-!
# Snapshots of a document

The immutable values of `graph/model.py` with everything that a graph file
records.  What their constructors check are fields.
-/

structure NodeModel where
  id : Identifier
  typeId : String
  implementationVersion : Nat
  parameters : Dict String LiteralValue
  position : PyFloat × PyFloat
  size : Option (PyFloat × PyFloat)
  userLabel : Option String
  collapsed : Bool
  uiState : Dict String LiteralValue
  versioned : 1 ≤ implementationVersion

structure ConnectionModel where
  id : Identifier
  sourceNodeId : Identifier
  sourcePortId : String
  destinationNodeId : Identifier
  destinationPortId : String
  uiState : Dict String LiteralValue

inductive GroupKind where
  | group
  | comment
deriving DecidableEq

def GroupKind.text : GroupKind → String
  | .group => "GROUP"
  | .comment => "COMMENT"

/-- `#RRGGBB`. -/
def isRgbColor (color : String) : Bool :=
  match color.toList with
  | '#' :: digits => digits.length = 6 && digits.all (fun digit => (hexDigit? digit).isSome)
  | _ => false

/-- A group has a finite place, a positive size and a colour. -/
structure GroupModel where
  id : Identifier
  kind : GroupKind
  title : String
  text : String
  position : ℚ × ℚ
  size : ℚ × ℚ
  color : String
  size_pos : 0 < size.1 ∧ 0 < size.2
  color_rgb : isRgbColor color = true

/-- The constructor of a group with a finite place and size. -/
def makeGroup (id : Identifier) (kind : GroupKind) (title text : String) (position size : ℚ × ℚ)
    (color : String) : Except PyError GroupModel :=
  if positive : 0 < size.1 ∧ 0 < size.2 then
    if rgb : isRgbColor color = true then
      .ok ⟨id, kind, title, text, position, size, color, positive, rgb⟩
    else .error (.valueError "Group color must use #RRGGBB format")
  else .error (.valueError "Group size must be positive")

theorem makeGroup_fields (group : GroupModel) :
    makeGroup group.id group.kind group.title group.text group.position group.size group.color =
      .ok group := by
  rw [makeGroup, dif_pos group.size_pos, dif_pos group.color_rgb]

structure GraphSnapshot where
  documentId : Identifier
  revision : Nat
  nodes : List NodeModel
  connections : List ConnectionModel
  documentSettings : Dict String LiteralValue
  groups : List GroupModel

end Persistence
end Synesthesia
