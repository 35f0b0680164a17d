import Ct07.Lib.Run
import Ct07.Lib.Component
import Ct07.Lib.Chain
import Ct07.Lib.TailQueue
import Ct07.Lib.Ring
import Ct07.Lib.Word
import Ct07.Lib.TwoRanges
import Ct07.Lib.ByteStream
import Ct07.Lib.Ledger
import Ct07.Lib.LockDiscipline
import Ct07.Lib.LockOrder
import Ct07.Lib.Monitor
import Ct07.Lib.SharedLock
import Ct07.Lib.VersionedCell
import Ct07.Lib.Publication
import Ct07.Lib.ScopedStorage
import Ct07.Lib.PointerGraph
import Ct07.Lib.CheckedMemory
import Ct07.Lib.CountedCopy
import Ct07.Lib.PrefixCodec
import Ct07.Lib.RecordArray
import Ct07.Lib.Tlv
import Ct07.Lib.CString
import Ct07.Lib.LatestValue
import Ct07.Lib.Recency
import Ct07.Ril.Commands
import Ct07.Ril.EntryPoints
import Ct07.Ril.Selection
import Ct07.Ril.Pending
import Ct07.Ril.ChannelQueue
import Ct07.Ril.Queuing
import Ct07.Ril.Dispatch
import Ct07.Ril.Mutexes
import Ct07.Ril.Exclusion
import Ct07.Ril.Context
import Ct07.Ril.ThreadPid
import Ct07.Mal.Frame
import Ct07.Mal.Routing
import Ct07.Mal.Dispatch
import Ct07.Mal.Answers
import Ct07.Mal.Attribution
import Ct07.Mal.FrameBounds
import Ct07.Mal.AnswerCodec
import Ct07.Mal.Session
import Ct07.Radio.Rwlock
import Ct07.Radio.Registration
import Ct07.Radio.DataCalls
import Ct07.Radio.Unsol
import Ct07.Radio.Nitz
import Ct07.Radio.PendingUnsol
import Ct07.Radio.Reply
import Ct07.Radio.DataCallResult
import Ct07.Radio.DataInterface
import Ct07.Radio.Fcp
import Ct07.Radio.FcpTemplate
import Ct07.Radio.IccIo
import Ct07.Radio.IccPassThrough
import Ct07.Radio.Capability
import Ct07.Radio.CapabilityCache
import Ct07.Radio.CapabilityShared
import Ct07.Radio.StringLifetime
import Ct07.Radio.RegState
import Ct07.Radio.CallInfo
import Ct07.Radio.CurrentCalls
import Ct07.Radio.InfoRecords
import Ct07.Radio.ListAnswers
import Ct07.Radio.AttachApn
import Ct07.Radio.PayloadMemory
import Ct07.Radio.Payload
import Ct07.Radio.PayloadBuilt
import Ct07.Radio.PayloadOwnership
import Ct07.Radio.PayloadGivenUp
import Ct07.Radio.PayloadCopy
import Ct07.Radio.Readback
import Ct07.Radio.InitialAttach
import Ct07.Radio.OperatorNumeric
import Ct07.Event.Timers
import Ct07.Event.JobQueue
import Ct07.Event.ProxyFifo
import Ct07.Event.ProxyWorkers
import Ct07.Event.WakeLock
import Ct07.Event.WakeTimeout
import Ct07.Ril.Acknowledgement
import Ct07.Ril.Conversation
import Ct07.Ril.Deadlock
import Ct07.Sap.Queue
import Ct07.Sap.Requests
import Ct07.Sap.PendingQueue
import Ct07.Sap.Ownership
import Ct07.Sap.Completeness
import Ct07.Sap.Response
import Ct07.Sap.Sockets
import Ct07.Radio.SignalStrength
import Ct07.Radio.HexPdu
import Ct07.Event.WatchTable
import Ct07.Event.NextTimeout
import Ct07.Event.EventLoop
import Ct07.Event.Startup
import Ct07.Camera.Yv12
import Ct07.Camera.Parameters
import Ct07.Bluetooth.BdAddr
import Ct07.Bluetooth.Controller
