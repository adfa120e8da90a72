import Synesthesia.Graph.ListingOrder
import Synesthesia.Persistence.DocumentIntegrity

namespace Synesthesia
namespace Persistence

open Foundation Contracts

/-!
# The snapshot that is compiled

The compiler reads less of a snapshot than is edited and saved.  What it gets of
a document has distinct identifiers, whatever was called on the document.
-/

def LiteralValue.parameter? : LiteralValue → Option ParameterValue
  | .absent => none
  | .bool value => some (.bool value)
  | .int value => some (.int value)
  | .float value => some (.float value)
  | .str text => some (.string text)
  | .color value => some (.color value)
  | .matrix value => some (.matrix value)

def NodeModel.compiled (node : NodeModel) : Graph.NodeModel where
  id := node.id
  typeId := node.typeId
  implementationVersion := node.implementationVersion
  parameters := Dict.ofEntries
    (node.parameters.entries.map (fun entry => (entry.1, entry.2.parameter?)))

def ConnectionModel.compiled (connection : ConnectionModel) : Graph.ConnectionModel where
  id := connection.id
  sourceNodeId := connection.sourceNodeId
  sourcePortId := connection.sourcePortId
  destinationNodeId := connection.destinationNodeId
  destinationPortId := connection.destinationPortId

def GraphSnapshot.compiled (snapshot : GraphSnapshot) : Graph.GraphSnapshot where
  documentId := snapshot.documentId
  revision := snapshot.revision
  nodes := snapshot.nodes.map NodeModel.compiled
  connections := snapshot.connections.map ConnectionModel.compiled

namespace GraphDocument

variable {document final : GraphDocument}

theorem Consistent.distinctIds (consistent : document.Consistent) :
    Graph.DistinctIds document.snapshot.compiled where
  nodes := by
    have distinct := (nodup_map_values consistent.nodes).map Fin.val_injective
    rw [List.map_map] at distinct
    rw [GraphSnapshot.compiled, List.map_map]
    exact distinct
  connections := by
    have distinct := (nodup_map_values consistent.connections).map Fin.val_injective
    rw [List.map_map] at distinct
    rw [GraphSnapshot.compiled, List.map_map]
    exact distinct

/-- What is compiled after any calls has distinct identifiers. -/
theorem distinctIds_of_run {snapshot : GraphSnapshot} (attached : Attached snapshot)
    (restored : fromSnapshot snapshot = .ok document) {actions : List Edit}
    (reached : Foundation.run step document actions = some final) :
    Graph.DistinctIds final.snapshot.compiled := by
  have consistent := consistent_fromSnapshot attached restored
  have kept : final.Consistent :=
    run_invariant (fun _ _ _ kept _ taken => kept.step taken) consistent
      (meets_of_forall (fun _ _ => trivial) _ actions) reached
  exact kept.distinctIds

end GraphDocument

end Persistence
end Synesthesia
