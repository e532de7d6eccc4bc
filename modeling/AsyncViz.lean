import AsyncViz.Lib.Transition
import AsyncViz.Lib.Dict
import AsyncViz.Lib.BoundedRing
import AsyncViz.Runtime.Clock
import AsyncViz.Runtime.Events
import AsyncViz.Lib.AsyncioQueue
import AsyncViz.Runtime.Queue.Channel
import AsyncViz.Runtime.Queue.EventQueue
import AsyncViz.Runtime.Queue.Transport
import AsyncViz.Runtime.Queue.Conservation
import AsyncViz.Runtime.Lineage.Tracker
import AsyncViz.Runtime.Tasks.Models
import AsyncViz.Runtime.Tasks.Registry
import AsyncViz.Runtime.State.Reconciliation
import AsyncViz.Runtime.State.Reducers
import AsyncViz.Runtime.State.Store
import AsyncViz.Runtime.Replay.Completeness
import AsyncViz.Runtime.Queue.Ordering
import AsyncViz.Dashboard.Pipeline
import AsyncViz.Dashboard.Ordering
import AsyncViz.Dashboard.Snapshot
import AsyncViz.Runtime.Replay.Buffer
import AsyncViz.Frontend.Sequencing
import AsyncViz.Dashboard.Handshake
import AsyncViz.Runtime.Timeline.Engine
import AsyncViz.Runtime.Metrics.Aggregator
import AsyncViz.Runtime.Warnings.Manager
import AsyncViz.Frontend.Reducers
import AsyncViz.Frontend.Session
import AsyncViz.Dashboard.Projection
import AsyncViz.Dashboard.Streaming
import AsyncViz.Lib.Forest
import AsyncViz.Runtime.Lineage.Coherence
import AsyncViz.Runtime.Tasks.Calls
import AsyncViz.Runtime.Tasks.Representation
import AsyncViz.Runtime.Lineage.Roots
import AsyncViz.Runtime.Tasks.RootCover
import AsyncViz.Runtime.State.Lifecycle
import AsyncViz.Runtime.Metrics.Agreement
import AsyncViz.Lib.Regroup
import AsyncViz.Runtime.Timeline.Reconstruction
import AsyncViz.Lib.Bisect
import AsyncViz.Lib.SortedLog
import AsyncViz.Replay.Recording
import AsyncViz.Replay.Seek
import AsyncViz.Replay.StateLoader
import AsyncViz.Replay.Models
import AsyncViz.Replay.SeekRuntime
import AsyncViz.Replay.Playback
import AsyncViz.Replay.Continuity
import AsyncViz.Lib.Lru
import AsyncViz.Replay.SeekCoordinator
import AsyncViz.Replay.PathIndependence
import AsyncViz.Runtime.Warnings.Announcements
import AsyncViz.Dashboard.Masking
import AsyncViz.Replay.Scheduler
import AsyncViz.Replay.Control.Models
import AsyncViz.Replay.Control.Calls
import AsyncViz.Replay.Control.Phases
import AsyncViz.Replay.Control.Barriers
import AsyncViz.Replay.Control.Renumbering
import AsyncViz.Replay.Control.Rejection
import AsyncViz.Replay.Loader
import AsyncViz.Replay.Recorder.Writer
import AsyncViz.Replay.Recorder.Log
import AsyncViz.Replay.Recorder.Crash
import AsyncViz.Replay.Recorder.Restarts
import AsyncViz.Replay.Recorder.RuntimeRecorder
import AsyncViz.Replay.Recorder.Accounting
import AsyncViz.Replay.Recorder.Recovery
import AsyncViz.Replay.Pacing
import AsyncViz.Replay.ExactSeek
import AsyncViz.Runtime.Resilience.CircuitBreaker
import AsyncViz.Runtime.Resilience.BreakerRuns
import AsyncViz.Runtime.Resilience.FailureManager
import AsyncViz.Runtime.Resilience.ModeAgreement
import AsyncViz.Instrumentation.Semaphore
import AsyncViz.Instrumentation.Queue
import AsyncViz.Instrumentation.Executor
import AsyncViz.Instrumentation.ExecutorAccounting
import AsyncViz.Instrumentation.Gather
import AsyncViz.Instrumentation.GatherAccounting
import AsyncViz.Runtime.Warnings.Bookkeeping
import AsyncViz.Runtime.Warnings.Blocking.Emitter
import AsyncViz.Runtime.Warnings.Blocking.Lifecycle
import AsyncViz.Runtime.Warnings.Blocking.Feed
import AsyncViz.Instrumentation.QueueMetrics.Engine
import AsyncViz.Instrumentation.QueueMetrics.Pressure
import AsyncViz.Instrumentation.QueueMetrics.Rebuild
import AsyncViz.Instrumentation.QueueMetrics.Runs
import AsyncViz.Lib.Json.Text
import AsyncViz.Lib.Json.RoundTrip
import AsyncViz.Lib.Json.Fuel
import AsyncViz.Lib.Json.Canonical
import AsyncViz.Replay.Format.Frame
import AsyncViz.Replay.Format.Codec
import AsyncViz.Replay.Format.RoundTrip
import AsyncViz.Lib.Tiling
import AsyncViz.Runtime.Timeline.Reduction
import AsyncViz.Runtime.Timeline.Tiling
import AsyncViz.Frontend.TimelineProjection
import AsyncViz.Runtime.Replay.StateReplay
import AsyncViz.Frontend.QueuePressureStore
import AsyncViz.Instrumentation.QueueMetrics.Emissions
import AsyncViz.Frontend.QueuePressureProjection
import AsyncViz.Frontend.BlockingWarningStore
import AsyncViz.Runtime.Warnings.Blocking.Telling
import AsyncViz.Frontend.BlockingWarningProjection
import AsyncViz.Lib.Grouping
import AsyncViz.Runtime.Monitoring.Blocking.Detector
import AsyncViz.Runtime.Monitoring.Blocking.Windows
import AsyncViz.Lib.Smoothing
import AsyncViz.Runtime.Backpressure.Detector
import AsyncViz.Runtime.Backpressure.Adaptive
import AsyncViz.Runtime.Backpressure.Sampling
import AsyncViz.Runtime.Backpressure.Controller
import AsyncViz.Runtime.Backpressure.ResetRuns
import AsyncViz.Frontend.Lifecycle
import AsyncViz.Frontend.Live.Engine
import AsyncViz.Frontend.Live.Delivery
import AsyncViz.Frontend.SegmentCulling
import AsyncViz.Frontend.DependencyLayout
import AsyncViz.Frontend.DependencyLayers
import AsyncViz.Lib.Streak
import AsyncViz.Runtime.Monitoring.Blocking.Escalation
import AsyncViz.Runtime.Backpressure.PriorityQueue
import AsyncViz.Runtime.Metrics.RateRuns
import AsyncViz.Replay.SeekLanding
import AsyncViz.Replay.WindowedFrames
import AsyncViz.Lib.Json.Bytes
import AsyncViz.Lib.Lines
import AsyncViz.Replay.Recorder.TailRepair
import AsyncViz.Replay.Format.Readers
import AsyncViz.Replay.Format.Isolation
import AsyncViz.Replay.Control.ClockRuns
import AsyncViz.Frontend.TaskIndex
import AsyncViz.Frontend.WarningCounts
import AsyncViz.Frontend.Virtualization.CacheSoundness
import AsyncViz.Replay.Speed.Dispatch
import AsyncViz.Replay.Speed.Drift
import AsyncViz.Runtime.Warnings.Blocking.Memory
import AsyncViz.Runtime.Warnings.Escalation
import AsyncViz.Runtime.Warnings.GroupDetector
import AsyncViz.Replay.RelativeSeeks
import AsyncViz.Runtime.Shutdown.Coordinator
import AsyncViz.Runtime.Shutdown.Lifecycle
import AsyncViz.Instrumentation.Tasks.Patcher
import AsyncViz.Instrumentation.Tasks.Transparency
import AsyncViz.Lib.Buckets
import AsyncViz.Runtime.Events.Bus
import AsyncViz.Runtime.Events.Delivery
import AsyncViz.Runtime.Monitoring.EventLoop.Cadence
