import Unseen.Machine
import Unseen.Nonce
import Unseen.Crypto
import Unseen.Wire
import Unseen.Send
import Unseen.Receive
import Unseen.Channel
import Unseen.SessionStore
import Unseen.Filename
import Unseen.FileTransfer
import Unseen.Session
import Unseen.SessionStep
import Unseen.SessionFrames
import Unseen.Offline
import Unseen.Serialization
import Unseen.InboundChain
import Unseen.Termination
import Unseen.TerminatedRuns
import Unseen.FrameProgress
import Unseen.PeerReconnecting
import Unseen.RestoredPage
import Unseen.Buffer
import Unseen.Codec
import Unseen.OrderedMap
import Unseen.Registry
import Unseen.Server
import Unseen.Occupancy
import Unseen.ServerMoves
import Unseen.RoomStates
import Unseen.Admission
import Unseen.Relay
import Unseen.FilePage
import Unseen.SentFiles
import Unseen.SenderMoves
import Unseen.SendingWorker
import Unseen.SenderIsolation
import Unseen.Segmentation
import Unseen.ReceivedFiles
import Unseen.TransferSlot
import Unseen.FileWorkers
import Unseen.FileFidelity
import Unseen.WebLocks
import Unseen.OpfsSweep
import Unseen.MessageSize
import Unseen.Markdown
import Unseen.MarkdownRequests
import Unseen.PromiseChain
import Unseen.OutboundSerializer
import Unseen.RekeySends
import Unseen.History
import Unseen.Standing
import Unseen.SessionMoves
import Unseen.ResumeAcks
import Unseen.ReconnectBudget
import Unseen.Unicode
import Unseen.Json
import Unseen.JsonRecord
import Unseen.EnvelopeCodec
import Unseen.SessionMaterial
import Unseen.TokenBucket
import Unseen.IpKey
import Unseen.IpLimiter
import Unseen.IdleBuckets
import Unseen.SanitizedFilename
import Unseen.Loop
import Unseen.MarkdownBounds
import Unseen.MarkdownText
import Unseen.MarkdownLosses
import Unseen.MarkdownOffset
import Unseen.MarkdownHeadings
import Unseen.Sweep
import Unseen.CreditWindow
import Unseen.FlowControl
import Unseen.CounterAllocation
import Unseen.MessageLog
import Unseen.ServerLog
import Unseen.ReceiverIsolation
import Unseen.Freshness
import Unseen.StaticFiles
import Unseen.StoredText
import Unseen.ClientAddress
import Unseen.ClientBudget
import Unseen.RenderAst
