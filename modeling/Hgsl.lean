import Hgsl.Lib.Trace
import Hgsl.Lib.SerialOrder
import Hgsl.Lib.Ring
import Hgsl.Lib.Fifo
import Hgsl.Lib.RecordRing
import Hgsl.Lib.Bytes
import Hgsl.Lib.Once
import Hgsl.Lib.RefCount
import Hgsl.Lib.OrderedSet
import Hgsl.Timestamp
import Hgsl.DrawQueue.Basic
import Hgsl.DrawQueue.Machine
import Hgsl.DrawQueue.Effects
import Hgsl.DrawQueue.RingInvariant
import Hgsl.DrawQueue.Ownership
import Hgsl.DrawQueue.LosslessFifo
import Hgsl.DrawQueue.LinearTime
import Hgsl.DrawQueue.Detach
import Hgsl.DrawQueue.AllOrNothing
import Hgsl.Submission.Numbering
import Hgsl.Doorbell.Ring
import Hgsl.Doorbell.RingFifo
import Hgsl.Doorbell.HardReset
import Hgsl.Doorbell.Message
import Hgsl.Doorbell.ContextIssue
import Hgsl.Doorbell.IndirectBuffer
import Hgsl.Doorbell.QueueIssue
import Hgsl.Doorbell.Ibdesc
import Hgsl.Doorbell.FailedSend
import Hgsl.Rpc.Pool
import Hgsl.Rpc.Effects
import Hgsl.Rpc.Exclusive
import Hgsl.Rpc.Pairing
import Hgsl.Rpc.Parcel
import Hgsl.Rpc.ReadBounds
import Hgsl.Rpc.RoundTrip
import Hgsl.Events.Group
import Hgsl.Events.ExactlyOnce
import Hgsl.Events.Processed
import Hgsl.Events.Readings
import Hgsl.Dispatch.Jobs
import Hgsl.Context.Table
import Hgsl.Context.Lifetime
import Hgsl.Sync.Timeline
import Hgsl.Sync.Stages
import Hgsl.Sync.Signalling
import Hgsl.Sync.Wakeup
import Hgsl.Sync.Registry
import Hgsl.Sync.Retire
import Hgsl.Sync.Recycling
import Hgsl.Sync.TimelineIds
import Hgsl.Sync.SyncObject
import Hgsl.Sync.Conservation
import Hgsl.DrawQueue.Pass
import Hgsl.Submission.Generation
import Hgsl.Memory.Nodes
import Hgsl.Client.Release
import Hgsl.Memory.Machine
import Hgsl.Memory.Ownership
import Hgsl.Memory.Steps
import Hgsl.Memory.Records
import Hgsl.Lib.Ledger
import Hgsl.Memory.Accounting
import Hgsl.Events.Queued
import Hgsl.DrawQueue.UserLists
import Hgsl.Memory.FreeUnmap
import Hgsl.Ipcq.Queue
import Hgsl.Ipcq.Drain
import Hgsl.Ipcq.Termination
import Hgsl.Sync.Hsync
import Hgsl.Sync.HsyncFini
import Hgsl.Sync.HsyncFences
import Hgsl.Sync.TimelineObject
import Hgsl.Sync.SignalsOnce
import Hgsl.Context.Shadow
import Hgsl.Context.ShadowCleanup
import Hgsl.Context.Create
import Hgsl.Context.CreateReplies
import Hgsl.Context.FailedCreate
import Hgsl.Doorbell.Encoding
import Hgsl.Lib.SearchTree
import Hgsl.Memory.Lookup
import Hgsl.Memory.UserRanges
import Hgsl.Iommu.Alignment
import Hgsl.Iommu.Disjoint
import Hgsl.Lib.Custody
import Hgsl.Memory.Acquisition
import Hgsl.Memory.SharedBuffer
import Hgsl.Memory.SharedBufferBalance
import Hgsl.Rpc.CreateChannel
import Hgsl.Ipcq.Export
import Hgsl.Lib.Program
import Hgsl.Rpc.EntryPoints
import Hgsl.Rpc.NoLeak
import Hgsl.Memory.CacheMaintenance
import Hgsl.Rpc.Profiler
import Hgsl.Memory.PageArray
