import PStream.Lib.Forest
import PStream.Lib.Monads
import PStream.Lib.Numbers
import PStream.Lib.List
import PStream.Lib.Tiling
import PStream.Protocol
import PStream.StreamTree.Basic
import PStream.StreamTree.Methods
import PStream.StreamTree.Frame
import PStream.StreamTree.WellFormed
import PStream.Wire.ByteOrder
import PStream.Wire.Codec
import PStream.Wire.Frames
import PStream.Wire.Parsers
import PStream.Wire.RoundTrip
import PStream.StreamsMap
import PStream.Wire.Ack
import PStream.Wire.AckBlocks
import PStream.Wire.AckRoundTrip
import PStream.Unpacker
import PStream.Ackhandler.Received
import PStream.Ackhandler.Sent
import PStream.Ackhandler.SentInvariant
import PStream.StreamFrameSorter.Basic
import PStream.StreamFrameSorter.Reassembly
import PStream.Flowcontrol.Controller
import PStream.Flowcontrol.Manager
import PStream.StreamFramer.Basic
import PStream.Flowcontrol.SendWindow
import PStream.Flowcontrol.ReceiveWindow
import PStream.Congestion.Olia
import PStream.Congestion.OliaBounds
import PStream.Congestion.OliaFloor
import PStream.Ackhandler.StopWaiting
import PStream.PacketNumberInference
import PStream.PacketNumberGenerator
import PStream.Handshake.CryptoSetup
import PStream.Handshake.HandshakeMessage
import PStream.StreamTree.Traversal
import PStream.StreamsMap.RoundRobin
import PStream.Lib.RunningMin
import PStream.Wire.Ufloat16
import PStream.Scheduler.LowLatency
import PStream.Session.PathsFrame
import PStream.StreamFramer.Retransmission
import PStream.Scheduler.ChoosePaths
import PStream.StreamFramer.NewData
import PStream.Wire.PublicHeader
import PStream.Crypto.CertCompression
import PStream.Handshake.ConnectionParameters
import PStream.Client
import PStream.Packer.Runs
import PStream.Server
