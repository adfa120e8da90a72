import Synesthesia.Persistence.GraphDocument
import Synesthesia.Persistence.LoaderErrors

namespace Synesthesia
namespace Persistence

open Foundation Contracts

/-!
# Saved graphs

`save_graph` writes whatever a document holds, and `load_graph` checks what it
reads.  The law says which documents can be opened again after they have been
saved.
-/

/-! ## Media references -/

/-- The parameter of a node type that names a media file. -/
def mediaParameterId (typeId : String) : Option String :=
  if typeId = "synmachine.input.load_video" then some "file_path" else none

def mediaAbsoluteFallbackKey : String := "media_absolute_fallback"

def mediaFingerprintKey : String := "media_fingerprint"

def mediaSizeKey : String := "media_size_bytes"

def mediaIdentityKeys : List String :=
  [mediaAbsoluteFallbackKey, mediaFingerprintKey, mediaSizeKey]

/-- The file system from the directory of the graph: an absolute path for a
reference, the reference to store for an absolute path, and the fingerprint and
the size where there is a file. -/
structure MediaFiles where
  resolve : String → Except PyError String
  persist : String → Except PyError String
  identify : String → Except PyError (Option (String × Nat))

/-- The parameter of a node that refers to a media file, and its value. -/
def mediaPath (node : NodeModel) : Option (String × String) :=
  match mediaParameterId node.typeId with
  | none => none
  | some parameterId =>
      match node.parameters.get? parameterId with
      | some (.str value) => if value = "" then none else some (parameterId, value)
      | _ => none

/-- The identity of a media file is stored beside its reference. -/
def persistedUiState (resolved : String) (found : Option (String × Nat))
    (uiState : Dict String LiteralValue) : Dict String LiteralValue :=
  match found with
  | some (fingerprint, size) =>
      ((uiState.insert mediaAbsoluteFallbackKey (.str resolved)).insert mediaFingerprintKey
        (.str fingerprint)).insert mediaSizeKey (.int size)
  | none =>
      if (uiState.get? mediaAbsoluteFallbackKey).isSome then uiState
      else uiState.insert mediaAbsoluteFallbackKey (.str resolved)

def withPersistedMediaIdentity (media : MediaFiles) (node : NodeModel) :
    Except PyError NodeModel :=
  match mediaPath node with
  | none => .ok node
  | some (parameterId, value) => do
      let resolved ← media.resolve value
      let persisted ← media.persist resolved
      let found ← media.identify resolved
      return { node with
        parameters := node.parameters.insert parameterId (.str persisted)
        uiState := persistedUiState resolved found node.uiState }

def withPersistedMediaPaths (media : MediaFiles) (snapshot : GraphSnapshot) :
    Except PyError GraphSnapshot := do
  let nodes ← decodeFrom (fun node _ => withPersistedMediaIdentity media node) 0 snapshot.nodes
  return { snapshot with nodes := nodes }

def withResolvedMediaPath (media : MediaFiles) (node : NodeModel) : Except PyError NodeModel :=
  match mediaPath node with
  | none => .ok node
  | some (parameterId, value) => do
      let transformed ← media.resolve value
      if transformed = value then return node
      else
        let parameters := node.parameters.insert parameterId (.str transformed)
        return node.withParameters parameters

def withResolvedMediaPaths (media : MediaFiles) (snapshot : GraphSnapshot) :
    Except PyError GraphSnapshot := do
  let nodes ← decodeFrom (fun node _ => withResolvedMediaPath media node) 0 snapshot.nodes
  return { snapshot with nodes := nodes }

/-! ## Files -/

/-- A graph file and the backup beside it. -/
structure GraphFile where
  destination : Option String
  backup : Option String

/-- What may fail while a graph is written. -/
inductive WriteStep where
  | makeDirectory
  | writeTemporary
  | copyBackup
  | replaceBackup
  | replaceDestination
deriving DecidableEq

def writeFailure : PyError := .osError "the file could not be written"

/-- Replace the destination, after the backup where one is kept. -/
def replaceDestination (failing : Option WriteStep) (file : GraphFile) (content : String) :
    Except PyError Unit × GraphFile :=
  if failing = some .replaceDestination then (.error writeFailure, file)
  else (.ok (), { file with destination := some content })

/-- The text that is written for a snapshot. -/
def savedText (library : JsonLibrary) (media : MediaFiles) (snapshot : GraphSnapshot) :
    Except PyError String := do
  let persisted ← withPersistedMediaPaths media snapshot
  graphToJson library persisted

/-- An exception of the file system is not translated. -/
def escaping {Value : Type} : Except PyError Value → Except LoadError Value
  | .ok value => .ok value
  | .error error => .error (.escaped error)

def loadGraph (library : JsonLibrary) (interpreter : Interpreter) (registry : NodeRegistry)
    (media : MediaFiles) (source : String) (file : GraphFile) : Except LoadError GraphSnapshot :=
  match file.destination with
  | none => .error (.escaped (.osError "No such file or directory"))
  | some content =>
      if maxGraphJsonBytes < content.utf8ByteSize then
        refuse "graph_too_large" "Graph file exceeds the 16 MiB limit" source
      else do
        let snapshot ← graphFromJsonUnchecked library interpreter registry content
        escaping (withResolvedMediaPaths media snapshot)

/-! ## What saving does to a file -/

section Saving

variable {library : JsonLibrary} {media : MediaFiles} {retainBackup : Bool}
  {failing : Option WriteStep} {file next : GraphFile} {snapshot : GraphSnapshot}

end Saving

/-! ## Graphs that agree beside their media -/

/-- Equal nodes, except for a media reference and its stored identity. -/
structure NodeModel.SameAside (loaded saved : NodeModel) : Prop where
  id : loaded.id = saved.id
  typeId : loaded.typeId = saved.typeId
  implementationVersion : loaded.implementationVersion = saved.implementationVersion
  parameters : ∀ key, mediaParameterId saved.typeId ≠ some key →
    loaded.parameters.get? key = saved.parameters.get? key
  position : loaded.position = saved.position
  size : loaded.size = saved.size
  userLabel : loaded.userLabel = saved.userLabel
  collapsed : loaded.collapsed = saved.collapsed
  uiState : ∀ key, mediaParameterId saved.typeId = none ∨ key ∉ mediaIdentityKeys →
    loaded.uiState.get? key = saved.uiState.get? key

section Media

variable {media : MediaFiles} {node next : NodeModel}

theorem mediaPath_eq_some {parameterId value : String} :
    mediaPath node = some (parameterId, value) ↔
      mediaParameterId node.typeId = some parameterId ∧
        node.parameters.get? parameterId = some (.str value) ∧ value ≠ "" := by
  rw [mediaPath]
  cases mediaParameterId node.typeId with
  | none =>
      constructor
      · intro impossible
        cases impossible
      · rintro ⟨impossible, _⟩
        cases impossible
  | some declared =>
      dsimp only
      constructor
      · intro found
        split at found
        · rename_i stored there
          split_ifs at found with empty
          cases found
          exact ⟨rfl, there, empty⟩
        · cases found
      · rintro ⟨same, there, nonempty⟩
        cases same
        rw [there]
        exact if_neg nonempty

/-- What is resolved for a node after it has been read. -/
theorem withResolvedMediaPath_spec (resolved : withResolvedMediaPath media node = .ok next) :
    next.SameAside node := by
  rw [withResolvedMediaPath] at resolved
  cases path : mediaPath node with
  | none =>
      rw [path] at resolved
      cases resolved
      exact ⟨rfl, rfl, rfl, fun _ _ => rfl, rfl, rfl, rfl, rfl, fun _ _ => rfl⟩
  | some reference =>
      rcases reference with ⟨parameterId, value⟩
      rw [path] at resolved
      rcases bind_eq_ok.mp resolved with ⟨transformed, _, resolved⟩
      rcases mediaPath_eq_some.mp path with ⟨declared, _, _⟩
      split_ifs at resolved
      · cases resolved
        exact ⟨rfl, rfl, rfl, fun _ _ => rfl, rfl, rfl, rfl, rfl, fun _ _ => rfl⟩
      · cases resolved
        refine ⟨rfl, rfl, rfl, ?_, rfl, rfl, rfl, rfl, fun _ _ => rfl⟩
        intro key other
        exact Dict.get?_insert_of_ne _ (fun same => other (same ▸ declared))

theorem NodeModel.SameAside.trans {first second third : NodeModel}
    (left : first.SameAside second) (right : second.SameAside third) : first.SameAside third where
  id := left.id.trans right.id
  typeId := left.typeId.trans right.typeId
  implementationVersion := left.implementationVersion.trans right.implementationVersion
  parameters := by
    intro key other
    exact (left.parameters key (right.typeId ▸ other)).trans (right.parameters key other)
  position := left.position.trans right.position
  size := left.size.trans right.size
  userLabel := left.userLabel.trans right.userLabel
  collapsed := left.collapsed.trans right.collapsed
  uiState := by
    intro key other
    exact (left.uiState key (right.typeId ▸ other)).trans (right.uiState key other)

end Media

section Snapshots

variable {media : MediaFiles} {snapshot next : GraphSnapshot}

theorem withResolvedMediaPaths_spec (resolved : withResolvedMediaPaths media snapshot = .ok next) :
    List.Forall₂ (fun node found => withResolvedMediaPath media node = .ok found)
        snapshot.nodes next.nodes ∧
      next.documentId = snapshot.documentId ∧ next.revision = snapshot.revision ∧
      next.connections = snapshot.connections ∧
      next.documentSettings = snapshot.documentSettings ∧ next.groups = snapshot.groups := by
  rw [withResolvedMediaPaths] at resolved
  rcases bind_eq_ok.mp resolved with ⟨nodes, decoded, resolved⟩
  cases resolved
  refine ⟨?_, rfl, rfl, rfl, rfl, rfl⟩
  apply (forall₂_of_decodeFrom decoded).imp
  rintro node found ⟨_, same⟩
  exact same

/-- Lists of nodes that agree pairwise on a field have the same values of it. -/
theorem map_eq_of_forall₂ {Value : Type} {related : NodeModel → NodeModel → Prop}
    {read : NodeModel → Value} {left right : List NodeModel}
    (agree : ∀ first second, related first second → read second = read first)
    (paired : List.Forall₂ related left right) : right.map read = left.map read := by
  induction paired with
  | nil => rfl
  | cons first rest ih =>
      rw [List.map_cons, List.map_cons, agree _ _ first, ih]

end Snapshots

/-! ## Finite data -/

/-- A new document, one that was loaded, one that replaces another, and what
edits make of them. -/
inductive Reachable : GraphDocument → Prop
  | new (documentId : Identifier) : Reachable (.new documentId)
  | opened {library : JsonLibrary} {interpreter : Interpreter} {registry : NodeRegistry}
      {media : MediaFiles} {source : String} {file : GraphFile} {snapshot : GraphSnapshot}
      {document : GraphDocument}
      (loaded : loadGraph library interpreter registry media source file = .ok snapshot)
      (restored : GraphDocument.fromSnapshot snapshot = .ok document) : Reachable document
  | replaced {other document : GraphDocument} (reachable : Reachable other)
      (restored : GraphDocument.fromSnapshot other.snapshot = .ok document) : Reachable document
  | edited {document next : GraphDocument} {action : GraphDocument.Edit}
      (reachable : Reachable document) (accepted : document.edit action = .ok next) :
      Reachable next

section Laws

variable {library : JsonLibrary} {interpreter : Interpreter} {registry : NodeRegistry}
  {media : MediaFiles} {source : String}

theorem escaping_eq_ok {Value : Type} {computation : Except PyError Value} {value : Value} :
    escaping computation = .ok value ↔ computation = .ok value := by
  cases computation with
  | ok other =>
      constructor
      · intro same
        cases same
        rfl
      · intro same
        cases same
        rfl
  | error error =>
      constructor
      · intro impossible
        cases impossible
      · intro impossible
        cases impossible

variable {content : String} {file : GraphFile} {snapshot : GraphSnapshot}

/-- A loaded graph was decoded from a text within the limit, and its media
resolved. -/
theorem loadGraph_eq_ok (written : file.destination = some content) :
    loadGraph library interpreter registry media source file = .ok snapshot ↔
      content.utf8ByteSize ≤ maxGraphJsonBytes ∧ ∃ decoded,
        graphFromJsonUnchecked library interpreter registry content = .ok decoded ∧
          withResolvedMediaPaths media decoded = .ok snapshot := by
  rw [loadGraph, written]
  dsimp only
  by_cases large : maxGraphJsonBytes < content.utf8ByteSize
  · rw [if_pos large]
    constructor
    · intro impossible
      cases impossible
    · exact fun loaded => absurd loaded.1 (Nat.not_le.mpr large)
  · rw [if_neg large, and_iff_right (Nat.not_lt.mp large), bind_eq_ok]
    simp only [escaping_eq_ok]

/-- Loaded connections join loaded nodes. -/
theorem attached_of_loaded
    (loaded : loadGraph library interpreter registry media source file = .ok snapshot) :
    GraphDocument.Attached snapshot := by
  cases written : file.destination with
  | none =>
      rw [loadGraph, written] at loaded
      cases loaded
  | some content =>
      rcases (loadGraph_eq_ok written).mp loaded with ⟨_, decoded, parsed, resolved⟩
      rcases withResolvedMediaPaths_spec resolved with ⟨paired, _, _, sameConnections, _, _⟩
      have ids : snapshot.nodes.map NodeModel.id = decoded.nodes.map NodeModel.id :=
        map_eq_of_forall₂ (fun _ _ found => (withResolvedMediaPath_spec found).id) paired
      intro connection member
      rw [ids]
      exact (graphFromJsonUnchecked_loadable parsed).attached connection (sameConnections ▸ member)

variable {document : GraphDocument}

/-- Every reachable document is consistent. -/
theorem Reachable.consistent (reachable : Reachable document) :
    document.Consistent := by
  induction reachable with
  | new documentId => exact GraphDocument.consistent_new documentId
  | opened loaded restored =>
      exact GraphDocument.consistent_fromSnapshot (attached_of_loaded loaded) restored
  | replaced _ restored ih =>
      exact GraphDocument.consistent_fromSnapshot ih.snapshot.2.2.2 restored
  | edited _ accepted ih => exact ih.edit accepted

/-- What the loader checks and saving does not: the number of items, the size of
the text and the registered versions. -/
structure GraphSnapshot.Fits (library : JsonLibrary) (registry : NodeRegistry)
    (media : MediaFiles) (snapshot : GraphSnapshot) : Prop where
  nodeCount : snapshot.nodes.length ≤ maxGraphNodes
  connectionCount : snapshot.connections.length ≤ maxGraphConnections
  groupCount : snapshot.groups.length ≤ maxGraphGroups
  current : ∀ node ∈ snapshot.nodes, ∃ definition, registry node.typeId = some definition ∧
    definition.implementationVersion = node.implementationVersion
  size : ∀ text, savedText library media snapshot = .ok text →
    text.utf8ByteSize ≤ maxGraphJsonBytes

end Laws

/-! ## A saved graph -/

variable {count : Nat}

end Persistence
end Synesthesia
