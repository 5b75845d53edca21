import PStream.Wire.Frames

/-!
# The parsers of the frames of `internal/wire`, but ACK and CLOSE_PATH

Each `ParseXFrame` reads its frame from a `bytes.Reader` whose next byte is the frame's type byte,
as `packetUnpacker.Unpack` calls it.  A failure carries the text of Go's error: a `qerr` error
reads `Code: message`, an `io` error `EOF` or `unexpected EOF`.

The parsed frame has the fields of the Go struct the parser fills in; the others keep their zero
value (the `PacketNumber` and `PacketNumberLen` of a STOP_WAITING frame, for one).  The address a
PATHS frame carries comes back as a string, formatted as Go's `net.IP.String` and
`strconv.FormatUint` format an IPv4 address and a port.
-/

set_option autoImplicit false

namespace PStream
namespace Wire

open Utils

/-- `ParsePingFrame`. -/
def ParsePingFrame (_ : VersionNumber) : Parser PingFrame := do
  let _ ← ReadByte
  pure {}

/-- `ParseGoawayFrame`. -/
def ParseGoawayFrame (version : VersionNumber) : Parser GoawayFrame := do
  let o := GetByteOrder version
  let _ ← ReadByte
  let errorCode ← o.ReadUint32
  let lastGoodStream ← o.ReadUint32
  let reasonPhraseLen ← o.ReadUint16
  if reasonPhraseLen > Protocol.MaxPacketSize.toUInt16 then
    throw "InvalidGoawayData: reason phrase too long"
  let reasonPhrase ← ReadFull reasonPhraseLen.toNat
  pure { ErrorCode := errorCode, LastGoodStream := lastGoodStream, ReasonPhrase := reasonPhrase }

/-- `ParseConnectionCloseFrame`. -/
def ParseConnectionCloseFrame (version : VersionNumber) : Parser ConnectionCloseFrame := do
  let o := GetByteOrder version
  let _ ← ReadByte
  let errorCode ← o.ReadUint32
  let reasonPhraseLen ← o.ReadUint16
  if reasonPhraseLen > Protocol.MaxPacketSize.toUInt16 then
    throw "InvalidConnectionCloseData: reason phrase too long"
  let reasonPhrase ← ReadFull reasonPhraseLen.toNat
  pure { ErrorCode := errorCode, ReasonPhrase := reasonPhrase }

/-- `ParseRstStreamFrame`. -/
def ParseRstStreamFrame (version : VersionNumber) : Parser RstStreamFrame := do
  let o := GetByteOrder version
  let _ ← ReadByte
  let sid ← o.ReadUint32
  let byteOffset ← o.ReadUint64
  let errorCode ← o.ReadUint32
  pure { StreamID := sid, ByteOffset := byteOffset, ErrorCode := errorCode }

/-- `ParseWindowUpdateFrame`. -/
def ParseWindowUpdateFrame (version : VersionNumber) : Parser WindowUpdateFrame := do
  let o := GetByteOrder version
  let _ ← ReadByte
  let sid ← o.ReadUint32
  let byteOffset ← o.ReadUint64
  pure { StreamID := sid, ByteOffset := byteOffset }

/-- `ParseBlockedFrame`. -/
def ParseBlockedFrame (version : VersionNumber) : Parser BlockedFrame := do
  let _ ← ReadByte
  let sid ← (GetByteOrder version).ReadUint32
  pure { StreamID := sid }

/-- `ParseStopWaitingFrame`, for the packet number and its length in the public header.  The
frame only gets its `LeastUnacked`. -/
def ParseStopWaitingFrame (packetNumber : PacketNumber) (packetNumberLen : PacketNumberLen)
    (version : VersionNumber) : Parser StopWaitingFrame := do
  let _ ← ReadByte
  let leastUnackedDelta ← (GetByteOrder version).ReadUintN packetNumberLen
  if leastUnackedDelta ≥ packetNumber then
    throw "InvalidStopWaitingData: invalid LeastUnackedDelta"
  pure { LeastUnacked := packetNumber - leastUnackedDelta, PacketNumberLen := 0, PacketNumber := 0 }

/-- `n` calls of `r.ReadByte()`. -/
def readBytes : Nat → Parser (List UInt8)
  | 0 => pure []
  | n + 1 => do
    let b ← ReadByte
    let bs ← readBytes n
    pure (b :: bs)

/-- `ParseAddAddressFrame`: an IPv4 address comes back as `net.IPv4`, its 16-byte form. -/
def ParseAddAddressFrame (version : VersionNumber) : Parser AddAddressFrame := do
  let _ ← ReadByte
  let ipv ← ReadByte
  let ip ← if ipv = 4 then do
      let a ← ReadByte
      let b ← ReadByte
      let c ← ReadByte
      let d ← ReadByte
      pure (IPv4 a b c d)
    else if ipv = 6 then readBytes 16
    else throw ErrUnknownIPVersion
  let port ← (GetByteOrder version).ReadUint16
  pure { IPVersion := ipv, Addr := { IP := ip, Port := port.toNat } }

/-- `ParseStreamFrame`.  Without a data length, the rest of the packet is the data. -/
def ParseStreamFrame (version : VersionNumber) : Parser StreamFrame := do
  let o := GetByteOrder version
  let typeByte ← ReadByte
  let FinBit := typeByte &&& 0x40 > 0
  let DataLenPresent := typeByte &&& 0x20 > 0
  let offsetLen := (typeByte &&& 0x1c) >>> 2
  let offsetLen := if offsetLen ≠ 0 then offsetLen + 1 else offsetLen
  let streamIDLen := (typeByte &&& 0x3) + 1
  let sid ← o.ReadUintN streamIDLen
  let offset ← o.ReadUintN offsetLen
  let dataLen : UInt16 ← if DataLenPresent then o.ReadUint16 else pure 0
  if dataLen > Protocol.MaxPacketSize.toUInt16 then
    throw "InvalidStreamData: data len too large"
  let dataLen ← if DataLenPresent then pure dataLen else do
    let n ← ReadLen
    pure n.toUInt16
  let data ← if dataLen ≠ 0 then ReadFull dataLen.toNat else pure []
  let frame : StreamFrame :=
    { StreamID := sid.toUInt32, FinBit, DataLenPresent, Offset := offset, Data := data }
  if frame.Offset + frame.DataLen < frame.Offset then
    throw "InvalidStreamData: data overflows maximum offset"
  if !frame.FinBit ∧ frame.DataLen = 0 then throw "EmptyStreamFrameNoFin"
  pure frame

namespace PathsFrame

def ErrTooManyPaths : String := "PathsFrame: more paths than the maximum enabled"
def ErrTooManyIPs : String := "PathsFrame: more IPs than paths"

/-- `net.IPv4(a, b, c, d).String()`: dotted decimal. -/
def ipv4String (a b c d : UInt8) : String := s!"{a}.{b}.{c}.{d}"

/-- The loop of `ParsePathsFrame` over the paths still to read: the path ID, the RTT in
microseconds, and the IPv4 address and port when the frame carries addresses. -/
def parsePathsLoop (o : ByteOrder) : Nat → PathsFrame → Parser PathsFrame
  | 0, f => pure f
  | k + 1, f => do
    let pathID ← ReadByte
    let remoteRTT ← o.ReadUfloat16
    let f := { f with PathIDs := f.PathIDs ++ [pathID],
                      RemoteRTTs := f.RemoteRTTs ++ [remoteRTT.toInt64 * 1000] }
    let f ← if f.NumIPs > 0 then do
        let a ← ReadByte
        let b ← ReadByte
        let c ← ReadByte
        let d ← ReadByte
        let port ← o.ReadUint16
        pure { f with RemoteAddrsIP := f.RemoteAddrsIP ++ [ipv4String a b c d],
                      RemoteAddrsPort := f.RemoteAddrsPort ++ [toString port.toNat] }
      else pure f
    parsePathsLoop o k f

end PathsFrame

open PathsFrame in
/-- `ParsePathsFrame`. -/
def ParsePathsFrame (version : VersionNumber) : Parser PathsFrame := do
  let _ ← ReadByte
  let maxNum ← ReadByte
  let num ← ReadByte
  if num > maxNum then throw ErrTooManyPaths
  let numip ← ReadByte
  if numip > num then throw ErrTooManyIPs
  parsePathsLoop (GetByteOrder version) num.toNat
    { MaxNumPaths := maxNum, NumPaths := num, NumIPs := numip, PathIDs := [], RemoteRTTs := [],
      RemoteAddrsIP := [], RemoteAddrsPort := [] }

end Wire
end PStream
