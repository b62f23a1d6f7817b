import XgenLink.Core.LinkedList
import XgenLink.Lib.Chain
import XgenLink.Memory.Mempool
import XgenLink.Memory.TieredPool
import XgenLink.Proofs.AckRangeRelease
import XgenLink.Proofs.AckSoundness
import XgenLink.Proofs.AckWindows
import XgenLink.Proofs.AllocatorAccounting
import XgenLink.Proofs.AuthenticMesh
import XgenLink.Proofs.BlockPools
import XgenLink.Proofs.ByteStreams
import XgenLink.Proofs.ControlScope
import XgenLink.Proofs.DeadlineInTime
import XgenLink.Proofs.DecoderAgreement
import XgenLink.Proofs.DeliverOnce
import XgenLink.Proofs.EndToEnd
import XgenLink.Proofs.ErrorDetection
import XgenLink.Proofs.ExtensionPolicy
import XgenLink.Proofs.FeedbackFits
import XgenLink.Proofs.Forwarding
import XgenLink.Proofs.FragmentTiling
import XgenLink.Proofs.FrameArrival
import XgenLink.Proofs.FrameReads
import XgenLink.Proofs.FrameRoundTrip
import XgenLink.Proofs.HonestReassembly
import XgenLink.Proofs.HopBound
import XgenLink.Proofs.HostileFragments
import XgenLink.Proofs.InOrderEndToEnd
import XgenLink.Proofs.Interfaces
import XgenLink.Proofs.LinkedCells
import XgenLink.Proofs.NumberShift
import XgenLink.Proofs.PeerRule
import XgenLink.Proofs.QueueAgreement
import XgenLink.Proofs.QueueIndex
import XgenLink.Proofs.ReassemblyBudget
import XgenLink.Proofs.ReplayExact
import XgenLink.Proofs.ReservedFrames
import XgenLink.Proofs.Retransmission
import XgenLink.Proofs.RetryBudget
import XgenLink.Proofs.RouteMap
import XgenLink.Proofs.RttFeed
import XgenLink.Proofs.SackAgreement
import XgenLink.Proofs.ScopedExchange
import XgenLink.Proofs.SecurityParse
import XgenLink.Proofs.SenderCustody
import XgenLink.Proofs.SentFrames
import XgenLink.Proofs.SharedWindow
import XgenLink.Proofs.TieredPools
import XgenLink.Proofs.TimeoutArithmetic
import XgenLink.Proofs.TimerFiring
import XgenLink.Proofs.TransactionalSend
import XgenLink.Proofs.WholeMessages
import XgenLink.Proofs.ZeroCopySend
import XgenLink.Transport.ReliableMemory
import XgenLink.Wire.Crc
import XgenLink.Wire.ExtStream
import XgenLink.Wire.ExtValues
