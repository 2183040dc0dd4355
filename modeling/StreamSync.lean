import StreamSync.ProtocolRoundTrip
import StreamSync.Lib.Lanes
import StreamSync.VideoQueueScope
import StreamSync.ReassemblyOnce
import StreamSync.FragmentEndToEnd
import StreamSync.HeartbeatTimeout
import StreamSync.CaptureTimestamps
import StreamSync.AuthLocality
import StreamSync.HeartbeatExchange
import StreamSync.HandoffRoundTrip
import StreamSync.TwoViewAllOrNothing
import StreamSync.HeartbeatRecovery
import StreamSync.AnnexBVerdicts
import StreamSync.LiveTwoViewTicks
import StreamSync.PersistentBootstrap
import StreamSync.QuadIncremental
import StreamSync.ContinuousIdentity
import StreamSync.DecodeCacheBound
import StreamSync.FeedProgress
import StreamSync.ReassemblyRejection
import StreamSync.PersistentStreamEnd
import StreamSync.SliceHeader
import StreamSync.ParameterSets
import StreamSync.HeartbeatCadence
import StreamSync.ReplySize
import StreamSync.AuthenticatedChanges
import StreamSync.TimeoutSweep
import StreamSync.TimeoutSweepExact
import StreamSync.TimeoutAtomicity
import StreamSync.ProtocolExactLength
import StreamSync.ProtocolBuffers
import StreamSync.ProgramOutput
import StreamSync.PreviewOutput
import StreamSync.PreviewSlots
import StreamSync.DecodeSources
import StreamSync.PreviewLoop
import StreamSync.ProgramOutputSource
import StreamSync.PreviewMemory
import StreamSync.PreviewReuse
import StreamSync.PreviewLabels
import StreamSync.RttOffsetHull
import StreamSync.RttOffsetSoundness
import StreamSync.Lib.StableSort
import StreamSync.JitterBufferExact
import StreamSync.SelectionArithmetic
import StreamSync.ClockOffsetCompensation
import StreamSync.LateFrameMutation
import StreamSync.Lib.LineText
import StreamSync.ConfigLines
import StreamSync.ServerConfigFile
import StreamSync.ClientConfigFile
import StreamSync.ConfigTokens
import StreamSync.Lib.JsonString
import StreamSync.JsonLines
import StreamSync.LogRecords
import StreamSync.HandoffCanonical
import StreamSync.NamedPipeHandoff
import StreamSync.NalAgreement
import StreamSync.Lib.Words
import StreamSync.ControlResponse
import StreamSync.Lib.StoppingRun
import StreamSync.OperatorWrapper
import StreamSync.OperatorWrapperRuns
import StreamSync.SnapshotRetention
import StreamSync.BoundedLagLookup
import StreamSync.Lib.PipeReading
import StreamSync.RawvideoReading
import StreamSync.OneShotDecode
import StreamSync.DecodedFrameSizes
import StreamSync.Lib.Raster
import StreamSync.TwoViewComposition
import StreamSync.QuadCanvas
import StreamSync.QuadScaling
import StreamSync.LiveTwoViewAccounting
import StreamSync.Lib.Stretching
import StreamSync.BgrConversion
import StreamSync.Lib.TextSlices
import StreamSync.PipePath
import StreamSync.Lib.Table
import StreamSync.AuthVideoReceive
import StreamSync.AuthVideoReceiveRuns
import StreamSync.AuthVideoReceiveStops
import StreamSync.ConcurrentHandoff
import StreamSync.ConcurrentQueue
import StreamSync.ConcurrentAnswers
import StreamSync.ConcurrentHandoffRuns
import StreamSync.ConcurrentReport
import StreamSync.ConcurrentShutdown
import StreamSync.Lib.PipeMessages
import StreamSync.ControlPipe
import StreamSync.Lib.Effect
import StreamSync.ControlledPreview
import StreamSync.HandoffWatch
import StreamSync.ControlledPreviewSlots
import StreamSync.ControlledPreviewRuns
import StreamSync.ControlledPreviewCommands
import StreamSync.OperatorConsole
import StreamSync.OperatorConsoleRuns
import StreamSync.OperatorConsoleAgreement
