import Mathlib.Algebra.Group.Nat.Defs
import Mathlib.Data.Nat.Basic

/-!
# Protocol types and constants

The numeric types of `internal/protocol` and the handful of constants the modelled code reads.
Go's fixed-width unsigned types are Lean's `UIntN` of the same width, so that every `+`, `-` and
conversion wraps exactly where the Go code wraps; `VersionNumber` and `Perspective` are Go `int`s,
and only their order and two values matter.

`GetPacketNumberLength` is here too, since both ACK-style frames choose the width of their largest
acknowledged packet number with it.
-/

set_option autoImplicit false

namespace PStream

/-- `protocol.PacketNumber` is a `uint64`. -/
abbrev PacketNumber := UInt64

/-- `protocol.StreamID` is a `uint32`. -/
abbrev StreamID := UInt32

/-- `protocol.PathID` is a `uint8`. -/
abbrev PathID := UInt8

/-- `protocol.ByteCount` is a `uint64`. -/
abbrev ByteCount := UInt64

/-- `protocol.VersionNumber` is an `int`. -/
abbrev VersionNumber := Int

/-- `protocol.PacketNumberLen` is a `uint8`; only 1, 2, 4 and 6 are lengths, 0 means "not set". -/
abbrev PacketNumberLen := UInt8

/-- The two ends of a connection (`protocol.PerspectiveServer` is 1, `PerspectiveClient` 2). -/
inductive Perspective where
  | server
  | client
  deriving DecidableEq, Repr

/-- `protocol.EncryptionLevel`, an `int` enumeration in this order. -/
inductive EncryptionLevel where
  | Unspecified
  | Unencrypted
  | Secure
  | ForwardSecure
  deriving DecidableEq, Repr

/-- The `int` value of an encryption level, which the code compares. -/
def EncryptionLevel.toNat : EncryptionLevel → Nat
  | .Unspecified => 0
  | .Unencrypted => 1
  | .Secure => 2
  | .ForwardSecure => 3

namespace Protocol

def PacketNumberLenInvalid : PacketNumberLen := 0
def PacketNumberLen1 : PacketNumberLen := 1
def PacketNumberLen2 : PacketNumberLen := 2
def PacketNumberLen4 : PacketNumberLen := 4
def PacketNumberLen6 : PacketNumberLen := 6

/-- For when the version does not matter. -/
def VersionWhatever : VersionNumber := 0
def Version39 : VersionNumber := 39
def VersionMP : VersionNumber := 512

def InitialPathID : PathID := 0

/-- The default stream weight of the dependency tree (HTTP/2's 16, zero-indexed). -/
def DefaultStreamWeight : UInt8 := 15

def MaxPacketSize : ByteCount := 1350

/-- The stream-level window for sending until the peer's handshake says otherwise, `1 << 14`. -/
def InitialStreamFlowControlWindow : ByteCount := 16384

/-- The connection-level window for sending until the peer's handshake says otherwise,
`1 << 14`. -/
def InitialConnectionFlowControlWindow : ByteCount := 16384

/-- The stream-level window for receiving a server announces, `(1 << 10) * 32`. -/
def ReceiveStreamFlowControlWindow : ByteCount := 32768

/-- The connection-level window for receiving a server announces, `(1 << 10) * 48`. -/
def ReceiveConnectionFlowControlWindow : ByteCount := 49152

/-- The largest `ByteCount`, `math.MaxUint64`. -/
def MaxByteCount : ByteCount := 0xFFFFFFFFFFFFFFFF

/-- The number of gaps a stream's `streamFrameSorter` keeps before it refuses data. -/
def MaxStreamFrameSorterGaps : Nat := 2500

def DefaultMaxCongestionWindow : Nat := 2500

/-- The congestion window a sender starts from, in packets. -/
def InitialCongestionWindow : Nat := 32

/-- The maximum segment size of Linux TCP, which the congestion controllers count packets in. -/
def DefaultTCPMSS : ByteCount := 1460

/-- The number of ACK ranges a `receivedPacketHistory` tracks before it refuses a packet. -/
def MaxTrackedReceivedAckRanges : Nat := DefaultMaxCongestionWindow

/-- The number of sent packets a `sentPacketHandler` keeps for retransmission. -/
def MaxTrackedSentPackets : Nat := 2 * DefaultMaxCongestionWindow

/-- The number of skipped packet numbers kept for the optimistic-ACK defence. -/
def MaxTrackedSkippedPackets : Nat := 10

/-- The average period in which one packet number is skipped against optimistic ACKs. -/
def SkipPacketAveragePeriodLength : PacketNumber := 500

/-- The most parameters a crypto message may have. -/
def CryptoMaxParams : UInt32 := 128

/-- The longest value of a parameter of a crypto message. -/
def CryptoParameterMaxLength : UInt32 := 4000

/-- The number of packets without retransmittable frames sent in a row before one must have some. -/
def MaxNonRetransmittablePackets : Nat := 19

def MaxStreamsPerConnection : Nat := 100

def MaxIncomingDynamicStreamsPerConnection : Nat := 100

/-- The absolute slack a peer gets above `MaxIncomingDynamicStreamsPerConnection`. -/
def MaxStreamsMinimumIncrement : Nat := 10

/-- How far below the highest peer-opened stream a new peer stream may lie. -/
def MaxNewStreamIDDelta : StreamID := 4 * 100

end Protocol

open Protocol

/-- The smallest length that holds `packetNumber` (`protocol.GetPacketNumberLength`).  Anything
of 2^32 or more gets six bytes, also when it does not fit into them. -/
def GetPacketNumberLength (packetNumber : PacketNumber) : PacketNumberLen :=
  if packetNumber < 1 <<< (PacketNumberLen1.toUInt64 * 8) then PacketNumberLen1
  else if packetNumber < 1 <<< (PacketNumberLen2.toUInt64 * 8) then PacketNumberLen2
  else if packetNumber < 1 <<< (PacketNumberLen4.toUInt64 * 8) then PacketNumberLen4
  else PacketNumberLen6

theorem getPacketNumberLength_cases (p : PacketNumber) :
    (p.toNat < 2 ^ 8 ∧ GetPacketNumberLength p = 1) ∨
    (2 ^ 8 ≤ p.toNat ∧ p.toNat < 2 ^ 16 ∧ GetPacketNumberLength p = 2) ∨
    (2 ^ 16 ≤ p.toNat ∧ p.toNat < 2 ^ 32 ∧ GetPacketNumberLength p = 4) ∨
    (2 ^ 32 ≤ p.toNat ∧ GetPacketNumberLength p = 6) := by
  have h8 : (1 : UInt64) <<< (PacketNumberLen1.toUInt64 * 8) = 256 := by decide
  have h16 : (1 : UInt64) <<< (PacketNumberLen2.toUInt64 * 8) = 65536 := by decide
  have h32 : (1 : UInt64) <<< (PacketNumberLen4.toUInt64 * 8) = 4294967296 := by decide
  simp only [GetPacketNumberLength, h8, h16, h32, UInt64.lt_iff_toNat_lt]
  split_ifs <;> simp_all [PacketNumberLen1, PacketNumberLen2, PacketNumberLen4,
    PacketNumberLen6]

/-- The four lengths `GetPacketNumberLength` chooses from. -/
theorem getPacketNumberLength_mem (p : PacketNumber) :
    let len := GetPacketNumberLength p
    len = 1 ∨ len = 2 ∨ len = 4 ∨ len = 6 := by
  rcases getPacketNumberLength_cases p with ⟨-, h⟩ | ⟨-, -, h⟩ | ⟨-, -, h⟩ | ⟨-, h⟩ <;> simp [h]

/-- A packet number below 2^48 fits the length `GetPacketNumberLength` chooses for it. -/
theorem toNat_lt_getPacketNumberLength {p : PacketNumber} (h48 : p.toNat < 2 ^ 48) :
    p.toNat < 2 ^ (8 * (GetPacketNumberLength p).toNat) := by
  rcases getPacketNumberLength_cases p with ⟨hp, h⟩ | ⟨-, hp, h⟩ | ⟨-, hp, h⟩ | ⟨-, h⟩ <;>
    simpa [h] using by omega

/-- `protocol.GetPacketNumberLengthForPublicHeader`: the length for a packet number sent while
`leastUnacked` is the oldest packet not yet acknowledged.  Never one byte; six bytes from a
distance of 2^31 on, also when the distance does not fit into them. -/
def GetPacketNumberLengthForPublicHeader (packetNumber leastUnacked : PacketNumber) :
    PacketNumberLen :=
  let diff : UInt64 := packetNumber - leastUnacked
  if diff < 2 <<< (PacketNumberLen2.toUInt64 * 8 - 2) then PacketNumberLen2
  else if diff < 2 <<< (PacketNumberLen4.toUInt64 * 8 - 2) then PacketNumberLen4
  else PacketNumberLen6

theorem getPacketNumberLengthForPublicHeader_cases (packetNumber leastUnacked : PacketNumber) :
    ((packetNumber - leastUnacked).toNat < 2 ^ 15 ∧
      GetPacketNumberLengthForPublicHeader packetNumber leastUnacked = 2) ∨
    (2 ^ 15 ≤ (packetNumber - leastUnacked).toNat ∧ (packetNumber - leastUnacked).toNat < 2 ^ 31 ∧
      GetPacketNumberLengthForPublicHeader packetNumber leastUnacked = 4) ∨
    (2 ^ 31 ≤ (packetNumber - leastUnacked).toNat ∧
      GetPacketNumberLengthForPublicHeader packetNumber leastUnacked = 6) := by
  have h15 : (2 : UInt64) <<< (PacketNumberLen2.toUInt64 * 8 - 2) = 32768 := by decide
  have h31 : (2 : UInt64) <<< (PacketNumberLen4.toUInt64 * 8 - 2) = 2147483648 := by decide
  simp only [GetPacketNumberLengthForPublicHeader, h15, h31, UInt64.lt_iff_toNat_lt]
  split_ifs <;> simp_all [PacketNumberLen2, PacketNumberLen4, PacketNumberLen6]

end PStream
