import Osdlp.Library.GoBackN
import Osdlp.Library.Blocks
import Osdlp.Library.Octets
import Osdlp.Library.Run
import Osdlp.Library.PacketStream
import Osdlp.Library.SeqNum
import Osdlp.Library.ShiftRegister
import Osdlp.Library.Traced
import Osdlp.Library.Stalling
import Osdlp.Library.PrefixCode
import Osdlp.Library.Tally
import Osdlp.Model.Farm
import Osdlp.Interface.Fifo
import Osdlp.Interface.ClcwEvents
import Osdlp.Interface.HandlerRules
import Osdlp.Interface.FopMoves
import Osdlp.Interface.FopRun
import Osdlp.Interface.FopAside
import Osdlp.Interface.FopRelease
import Osdlp.Interface.FopEffects
import Osdlp.Interface.FopOutcomes
import Osdlp.Interface.Cop1
import Osdlp.Interface.FarmStep
import Osdlp.Interface.SentQueue
import Osdlp.Model.Fop
import Osdlp.Model.TcFrame
import Osdlp.Model.TcReceive
import Osdlp.Model.TcTransmit
import Osdlp.Model.Spp
import Osdlp.Model.Tm
import Osdlp.Model.TmTransmit
import Osdlp.Model.TmReceive
import Osdlp.Interface.TmFrame
import Osdlp.Interface.CrcRegister
import Osdlp.Interface.TmCodec
import Osdlp.Interface.TcCodec
import Osdlp.Interface.SppCodec
import Osdlp.Interface.Reentrant
import Osdlp.Interface.TcSegments
import Osdlp.Interface.TcRequests
import Osdlp.Interface.TcReads
import Osdlp.Interface.TcCopies
import Osdlp.Interface.TmSending
import Osdlp.Interface.TmStores
import Osdlp.Interface.TmOffers
import Osdlp.Interface.TmResuming
import Osdlp.Interface.TmReceiving
import Osdlp.Interface.TmNoStuffing
import Osdlp.Interface.TmStuffing
import Osdlp.Interface.TmResidue
import Osdlp.Interface.TmCalls
import Osdlp.Interface.TmAccess
import Osdlp.Analysis.FarmFlags
import Osdlp.Analysis.FarmAcceptance
import Osdlp.Analysis.FarmWindow
import Osdlp.Analysis.InOrderDelivery
import Osdlp.Analysis.ReceiveAck
import Osdlp.Analysis.ReportJudgement
import Osdlp.Analysis.ClcwRepetition
import Osdlp.Analysis.SentMirror
import Osdlp.Analysis.WaitingFrame
import Osdlp.Analysis.WindowLimit
import Osdlp.Analysis.TransmissionLimit
import Osdlp.Analysis.TimerGuard
import Osdlp.Analysis.TcFrameRoundTrip
import Osdlp.Analysis.TcSegmentation
import Osdlp.Analysis.TcSlices
import Osdlp.Analysis.Configurations
import Osdlp.Analysis.TmFrameRoundTrip
import Osdlp.Analysis.TmRoundTrip
import Osdlp.Analysis.TmLoss
import Osdlp.Analysis.TmPacking
import Osdlp.Analysis.TmPointers
import Osdlp.Analysis.TmExtraction
import Osdlp.Analysis.WaitReport
import Osdlp.Analysis.Suspension
import Osdlp.Analysis.TransmitAtomic
import Osdlp.Analysis.TmBurst
import Osdlp.Analysis.ReceiveBounds
import Osdlp.Analysis.TmBounds
import Osdlp.Analysis.TmTermination
import Osdlp.Analysis.Retransmission
import Osdlp.Analysis.CrcEquivalence
import Osdlp.Analysis.SppRoundTrip
import Osdlp.Analysis.FarmCommands
import Osdlp.Analysis.Reassembly
import Osdlp.Analysis.FrameCounters
import Osdlp.Analysis.TmResumption
import Osdlp.Analysis.TmAcceptance
import Osdlp.Analysis.SignalReports
import Osdlp.Analysis.DirectiveRetransmission
import Osdlp.Analysis.LowerLayerRejection
import Osdlp.Analysis.Acknowledgement
import Osdlp.Interface.FopRetries
import Osdlp.Analysis.RetransmissionRequests
import Osdlp.Analysis.Recovery
import Osdlp.Interface.Session
import Osdlp.Analysis.SessionOpening
import Osdlp.Analysis.SessionDelivery
import Osdlp.Library.ErrorDetection
import Osdlp.Analysis.ErrorDetection
import Osdlp.Analysis.MasterChannel
import Osdlp.Analysis.TmMultiplexing
import Osdlp.Analysis.Restart
import Osdlp.Analysis.UplinkFrames
import Osdlp.Analysis.UplinkServices
import Osdlp.Analysis.SpacePackets
import Osdlp.Analysis.ControlWords
import Osdlp.Analysis.Duplex
import Osdlp.Library.RingBuffer
import Osdlp.Model.QueueUtil
import Osdlp.Analysis.QueueRefinement
