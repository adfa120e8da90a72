import Synesthesia.Foundation.Runs
import Synesthesia.Foundation.Dict
import Synesthesia.Foundation.Bytes
import Synesthesia.Foundation.SortByKey
import Synesthesia.Foundation.StandardMidiFile
import Synesthesia.Midi.Smf
import Synesthesia.Midi.SmfTiming
import Synesthesia.Midi.SmfTotality
import Synesthesia.Midi.SmfRoundTrip
import Synesthesia.Contracts.RuntimeValues
import Synesthesia.Midi.StateDiff
import Synesthesia.Runtime.MidiExport
import Synesthesia.Runtime.ExportBalance
import Synesthesia.Nodes.Parameters
import Synesthesia.Nodes.Base
import Synesthesia.Runtime.ExecutionPlan
import Synesthesia.Runtime.Scheduler
import Synesthesia.Runtime.SchedulerPanic
import Synesthesia.Midi.OutputService
import Synesthesia.Midi.OutputOrdering
import Synesthesia.Foundation.Reachability
import Synesthesia.Foundation.TopologicalSort
import Synesthesia.Graph.Compiler
import Synesthesia.Graph.CompiledPlan
import Synesthesia.Runtime.ClockIsolation
import Synesthesia.Media.VideoSource
import Synesthesia.Runtime.GraphWorker
import Synesthesia.Runtime.Transport
import Synesthesia.Runtime.TransportSilence
import Synesthesia.Foundation.Thinning
import Synesthesia.Runtime.MailboxOrdering
import Synesthesia.Midi.DebugSynth
import Synesthesia.Midi.VoiceAllocation
import Synesthesia.Nodes.GenerateAudio
import Synesthesia.Nodes.AudioWatermark
import Synesthesia.Midi.Receiver
import Synesthesia.Midi.ReceiverSimulation
import Synesthesia.Midi.OutputFreshness
import Synesthesia.Media.RegionPass
import Synesthesia.Media.VideoSourceService
import Synesthesia.Media.WorkerLiveness
import Synesthesia.Media.SeekObservation
import Synesthesia.Media.SeekStream
import Synesthesia.Media.SeekOrder
import Synesthesia.Media.SeekCorrectness
import Synesthesia.Media.LoopObservation
import Synesthesia.Media.LoopStream
import Synesthesia.Media.LoopBoundary
import Synesthesia.Runtime.FailureContainment
import Synesthesia.Runtime.StaticCache
import Synesthesia.Media.CameraSource
import Synesthesia.Media.CameraPause
import Synesthesia.Foundation.Ownership
import Synesthesia.Runtime.EngineFacade
import Synesthesia.Runtime.RuntimeOwnership
import Synesthesia.Runtime.EngineBody
import Synesthesia.Runtime.ActivationSteps
import Synesthesia.Runtime.BodyOwnership
import Synesthesia.Runtime.PlaybackSource
import Synesthesia.Runtime.AutoResume
import Synesthesia.Runtime.ActivationAtomicity
import Synesthesia.Runtime.EngineProcess
import Synesthesia.Runtime.RevisionGate
import Synesthesia.Runtime.PreviewSlot
import Synesthesia.Runtime.PreviewSeqlock
import Synesthesia.Runtime.PreviewBroker
import Synesthesia.Runtime.PreviewDelivery
import Synesthesia.Runtime.PreviewChannel
import Synesthesia.Runtime.PreviewConvergence
import Synesthesia.Ui.EngineBridge
import Synesthesia.Ui.LatestActivation
import Synesthesia.Ui.TransportTasks
import Synesthesia.Ui.AutosaveController
import Synesthesia.Ui.AutosaveFlight
import Synesthesia.Ui.AutosaveRecords
import Synesthesia.Ui.AutosaveCleanup
import Synesthesia.Foundation.JsonValues
import Synesthesia.Contracts.Identifiers
import Synesthesia.Persistence.Literals
import Synesthesia.Persistence.Schemas
import Synesthesia.Persistence.NodeMigrations
import Synesthesia.Persistence.Snapshot
import Synesthesia.Persistence.GraphIo
import Synesthesia.Persistence.RoundTrip
import Synesthesia.Persistence.MigrationEscapes
import Synesthesia.Persistence.NodeEscapes
import Synesthesia.Persistence.LoaderErrors
import Synesthesia.Persistence.GraphDocument
import Synesthesia.Persistence.SavedGraphs
import Synesthesia.Persistence.MigrationStructure
import Synesthesia.Persistence.DocumentStatements
import Synesthesia.Persistence.DocumentIntegrity
import Synesthesia.Persistence.CompilerSnapshot
import Synesthesia.Persistence.AtomicWrite
import Synesthesia.Foundation.UndoHistory
import Synesthesia.Persistence.DocumentContent
import Synesthesia.Ui.GraphCommands
import Synesthesia.Ui.CommandInverses
import Synesthesia.Ui.CommandUndo
import Synesthesia.Ui.UndoExactness
import Synesthesia.Runtime.RequestThreads
import Synesthesia.Runtime.RequestTables
import Synesthesia.Runtime.RequestCorrelation
import Synesthesia.Foundation.UnionFind
import Synesthesia.Foundation.SlidingWindow
import Synesthesia.Foundation.LongestPath
import Synesthesia.Foundation.NearestPoint
import Synesthesia.Nodes.ExecutionContract
import Synesthesia.Nodes.SanitizedValues
import Synesthesia.Nodes.Scanline
import Synesthesia.Nodes.ScanlinePosition
import Synesthesia.Nodes.Temporal
import Synesthesia.Nodes.TemporalHistory
import Synesthesia.Graph.TypeGroups
import Synesthesia.Graph.Validation
import Synesthesia.Graph.TidyLayout
import Synesthesia.Midi.NoteSelection
import Synesthesia.Media.HeadMirror
import Synesthesia.Media.PublishedTotal
import Synesthesia.Persistence.Clipboard
import Synesthesia.Persistence.ClipboardTransfer
import Synesthesia.Ui.LiteralEdits
import Synesthesia.Foundation.CycleNodes
import Synesthesia.Graph.Reduction
import Synesthesia.Graph.CycleReports
import Synesthesia.Nodes.NumberedSockets
import Synesthesia.Graph.PortDeclarations
import Synesthesia.Graph.TypeInference
import Synesthesia.Graph.TypeRenaming
import Synesthesia.Graph.MaximalRemainder
import Synesthesia.Graph.CompiledBindings
import Synesthesia.Graph.ValidAnalysis
import Synesthesia.Graph.WellFormedPlan
import Synesthesia.Runtime.TickLocality
import Synesthesia.Runtime.TypedCalls
import Synesthesia.Runtime.TickEquations
import Synesthesia.Graph.TypeReports
import Synesthesia.Graph.ListingOrder
import Synesthesia.Graph.ListedCompilation
import Synesthesia.Graph.ConnectionQueries
import Synesthesia.Graph.DistributedLayout
