import PStream.Unpacker
import PStream.StreamFramer.Basic
import PStream.PacketNumberGenerator
import PStream.Handshake.ConnectionParameters

/-!
# The packet packer

`packetPacker` (packet_packer.go) builds the packets a path sends.  It holds the control frames
the session queues, and for each path one STOP_WAITING and one ACK frame; `QueueControlFrame`
puts a frame into its slot or at the end of the queue.

* `PackPacket` and its two variants for one path and one stream send the crypto stream first
  when it has data.  Otherwise they stamp the path's STOP_WAITING frame with the packet's number
  and length, and either send the ping at the head of the queue alone, or let
  `composeNextPacket…` fill the packet: the path's STOP_WAITING and ACK frames, control frames
  from the end of the queue while they fit, then STREAM frames, whose BLOCKED frames join the
  queue.  The three variants differ only in how they pop STREAM frames, an argument `pop` here.
* `PackAckPacket`, `PackConnectionClose` and `PackHandshakeRetransmission` send a packet of given
  frames.  `writeAndSealPacket` writes the header and the frames, refuses a packet over
  `MaxPacketSize`, seals it and takes the packet number off the path's generator.

The crypto setup is an argument: its sealers, and the diversification nonce.  A sealer adds
`Overhead` bytes to what it seals; Go seals the payload in place and keeps `Overhead` bytes after
it, which is the sealer's output when it adds that many, so a `Sealer` carries that as a field.
A write that does not return (Go's panic) is `none`, as in the writers.

The results:
* `composeNextPacketWith_spec`: what `composeNextPacket…` does with the queue, exactly.  The frames
  it takes come off the end of the queue, in that order, and nothing else leaves it; the frames
  before them stay, and the BLOCKED frames of the pop join them.
* `composeNextPacketWith_fits`: under no overflow, the frames but the STREAM frames fit
  `maxFrameSize`, the last frame left in the queue is one that did not, and the STREAM frames get
  the room left and two bytes.
* A ping at the head of the queue goes alone.  With a STOP_WAITING frame queued for the path that
  is a packet of one frame and a STOP_WAITING frame, which is not sent, so `PackPing` loses its ping
  (`PackPing_stopWaiting_drops_ping`); without one, the path's ACK frame slot is emptied all the
  same and a queued ACK frame is dropped unsent (`PackPacketWith_ping_clears_ack`).
* Each function that packs has a spec lemma saying all it can do; `PStream.Packer.Runs` puts them
  together over runs of calls.
-/

set_option autoImplicit false

namespace PStream

open Wire Protocol ExceptOption

/-- The bytes a packet below forward-secure encryption leaves free. -/
def Protocol.NonForwardSecurePacketSizeReduction : ByteCount := 50

/-! ## What the packer asks of frames, the crypto setup and the path -/

/-- `frame.MinLength(version)` through the `wire.Frame` interface.  Only a STOP_WAITING frame
without a packet number length and an ADD_ADDRESS frame of an unknown IP version fail. -/
def Frame.MinLength (f : Frame) (version : VersionNumber) : Except String ByteCount :=
  match f with
  | .ack f => pure (f.MinLength version)
  | .stopWaiting f => f.MinLength version
  | .rstStream f => pure (f.MinLength version)
  | .connectionClose f => pure (f.MinLength version)
  | .goaway f => pure (f.MinLength version)
  | .windowUpdate f => pure (f.MinLength version)
  | .blocked f => pure (f.MinLength version)
  | .ping f => pure (f.MinLength version)
  | .addAddress f => f.MinLength version
  | .closePath f => pure (f.MinLength version)
  | .paths f => pure (f.MinLength version)
  | .stream f => pure (f.MinLength version)

/-- The bytes `MinLength` counts for a frame, as a number; none for a frame it refuses. -/
def Frame.size (version : VersionNumber) (f : Frame) : Nat :=
  match f.MinLength version with
  | .ok l => l.toNat
  | .error _ => 0

/-- `ackhandler.IsFrameRetransmittable`: every frame but a STOP_WAITING and an ACK frame. -/
def Frame.IsFrameRetransmittable : Frame → Bool
  | .stopWaiting _ => false
  | .ack _ => false
  | _ => true

/-- A `handshake.Sealer`.  `Seal` takes the payload, the packet number and the header as
associated data. -/
structure Sealer where
  Overhead : Nat
  Seal : List UInt8 → PacketNumber → List UInt8 → List UInt8
  /-- What the packer keeps of a sealed packet is the payload's length and `Overhead` more. -/
  length_Seal : ∀ src packetNumber associatedData,
    (Seal src packetNumber associatedData).length = src.length + Overhead

/-- What the packer reads of the `handshake.CryptoSetup`. -/
structure cryptoSetup where
  GetSealer : EncryptionLevel × Sealer
  GetSealerForCryptoStream : EncryptionLevel × Sealer
  GetSealerWithEncryptionLevel : EncryptionLevel → Except String Sealer
  DiversificationNonce : List UInt8

/-- The fields of a `path` the packer reads and changes.  `handshakeComplete` is
`pth.sess != nil && pth.sess.handshakeComplete`. -/
structure path where
  pathID : PathID
  handshakeComplete : Bool
  sentPacketHandler : Ackhandler.SentPacketHandler
  packetNumberGenerator : PacketNumberGenerator
  leastUnacked : PacketNumber

/-- `path.SetLeastUnacked`. -/
def path.SetLeastUnacked (pth : path) (leastUnacked : PacketNumber) : path :=
  { pth with leastUnacked }

/-! ## The crypto stream and the BLOCKED frames of the framer -/

namespace streamFramer

/-- `HasCryptoStreamFrame`: the crypto stream, stream 1, has data to send.  The map opens the
crypto stream when the session starts; a stream just opened has none. -/
def HasCryptoStreamFrame (f : streamFramer) : Bool :=
  match f.streams 1 with
  | some cs => cs.lenOfDataForWriting > 0
  | none => false

/-- `PopCryptoStreamFrame`: a STREAM frame of the crypto stream at its write offset, with as much
data as fits `maxLen` after the frame's header. -/
def PopCryptoStreamFrame (f : streamFramer) (maxLen : ByteCount) :
    streamFramer × Option StreamFrame :=
  if !f.HasCryptoStreamFrame then (f, none) else
  match f.streams 1 with
  | none => (f, none)
  | some cs =>
    let frame : StreamFrame :=
      { StreamID := 1, FinBit := false, DataLenPresent := false, Offset := cs.writeOffset,
        Data := [] }
    let frameHeaderBytes := frame.MinLength VersionWhatever
    let (cs, data) := cs.getDataForWriting (maxLen - frameHeaderBytes)
    ({ f with streams := Function.update f.streams 1 (some cs) },
      some { frame with Data := data.getD [] })

end streamFramer

/-! ## The packer -/

structure packetPacker where
  connectionID : ConnectionID
  perspective : Perspective
  version : VersionNumber
  cryptoSetup : cryptoSetup
  connectionParameters : Handshake.connectionParametersManager
  streamFramer : streamFramer
  controlFrames : List Frame
  stopWaiting : PathID → Option StopWaitingFrame
  ackFrame : PathID → Option AckFrame

def newPacketPacker (connectionID : ConnectionID) (cryptoSetup : cryptoSetup)
    (connectionParameters : Handshake.connectionParametersManager) (streamFramer : streamFramer)
    (perspective : Perspective) (version : VersionNumber) : packetPacker where
  connectionID := connectionID
  perspective := perspective
  version := version
  cryptoSetup := cryptoSetup
  connectionParameters := connectionParameters
  streamFramer := streamFramer
  controlFrames := []
  stopWaiting := fun _ => none
  ackFrame := fun _ => none

structure packedPacket where
  number : PacketNumber
  raw : List UInt8
  frames : List Frame
  encryptionLevel : EncryptionLevel

/-- `fs[len(fs)-1].DataLenPresent = false`: the last STREAM frame takes the rest of the packet. -/
def omitLastDataLen (fs : List StreamFrame) : List StreamFrame :=
  fs.dropLast ++ (fs.getLast?.map fun f => { f with DataLenPresent := false }).toList

namespace packetPacker

section Packing

variable (ParseIP : String → Option IP) (now : Int) (rand : Option UInt16)

/-- `QueueControlFrame`: a STOP_WAITING or an ACK frame replaces the path's, any other frame goes
to the end of the queue. -/
def QueueControlFrame (p : packetPacker) (frame : Frame) (pth : path) : packetPacker :=
  match frame with
  | .stopWaiting f => { p with stopWaiting := Function.update p.stopWaiting pth.pathID (some f) }
  | .ack f => { p with ackFrame := Function.update p.ackFrame pth.pathID (some f) }
  | f => { p with controlFrames := p.controlFrames ++ [f] }

def getPublicHeader (p : packetPacker) (encLevel : EncryptionLevel) (pth : path) : PublicHeader :=
  let pnum := pth.packetNumberGenerator.Peek
  let packetNumberLen := GetPacketNumberLengthForPublicHeader pnum pth.leastUnacked
  let publicHeader : PublicHeader :=
    { ConnectionID := p.connectionID
      PacketNumber := pnum
      PacketNumberLen := packetNumberLen
      TruncateConnectionID := p.connectionParameters.TruncateConnectionID }
  let publicHeader :=
    if p.perspective = .server ∧ encLevel = .Secure then
      { publicHeader with DiversificationNonce := p.cryptoSetup.DiversificationNonce }
    else publicHeader
  let publicHeader :=
    if p.perspective = .client ∧ encLevel ≠ .ForwardSecure then
      { publicHeader with VersionFlag := true, VersionNumber := p.version }
    else publicHeader
  -- in case of doubt, never truncate the connection ID of a multipath packet
  if pth.handshakeComplete ∧ p.version ≥ VersionMP then
    { publicHeader with MultipathFlag := true, PathID := pth.pathID, TruncateConnectionID := false }
  else publicHeader

/-- `writeAndSealPacket`: the header and the payload, sealed, at most `MaxPacketSize` bytes with
the sealer's overhead; the path's generator then hands out the packet number. -/
def writeAndSealPacket (p : packetPacker) (publicHeader : PublicHeader) (payloadFrames : List Frame)
    (sealer : Sealer) (pth : path) : ExceptT String Option (List UInt8 × path) := do
  let header ← publicHeader.Write p.version p.perspective
  let payload ← writeFrames ParseIP p.version now payloadFrames
  if header.length + payload.length + sealer.Overhead > MaxPacketSize.toNat then
    throw "PacketPacker BUG: packet too large"
  let raw := header ++ sealer.Seal payload publicHeader.PacketNumber header
  let (num, packetNumberGenerator) := pth.packetNumberGenerator.Pop rand
  let pth := { pth with packetNumberGenerator }
  if num ≠ publicHeader.PacketNumber then
    throw "packetPacker BUG: Peeked and Popped packet numbers do not match"
  pure (raw, pth)

/-- `canSendData`: a client sends STREAM frames from the secure level on, a server only
forward-secure. -/
def canSendData (p : packetPacker) (encLevel : EncryptionLevel) : Bool :=
  if p.perspective = .client then encLevel.toNat ≥ EncryptionLevel.Secure.toNat
  else encLevel = .ForwardSecure

/-- The loop of `composeNextPacket…` over the control frames, with the queue read from its end: it
takes the last frame while it fits after `payloadLength` bytes.  It returns the length then, the
frames taken in the order they were taken, and the rest, still read from the end. -/
def packControlFrames (version : VersionNumber) (maxFrameSize : ByteCount) :
    ByteCount → List Frame → Except String (ByteCount × List Frame × List Frame)
  | payloadLength, [] => pure (payloadLength, [], [])
  | payloadLength, frame :: rest => do
    let minLength ← frame.MinLength version
    if payloadLength + minLength > maxFrameSize then pure (payloadLength, [], frame :: rest)
    else
      let (payloadLength, taken, left) ←
        packControlFrames version maxFrameSize (payloadLength + minLength) rest
      pure (payloadLength, frame :: taken, left)

/-- The path's STOP_WAITING and ACK frames, which "will always fit", and their length. -/
def slotFrames (p : packetPacker) (pth : path) : Except String (List Frame × ByteCount) := do
  let (payloadFrames, payloadLength) ← match p.stopWaiting pth.pathID with
    | none => pure ([], 0)
    | some f => do
      let l ← (Frame.stopWaiting f).MinLength p.version
      pure ([Frame.stopWaiting f], l)
  match p.ackFrame pth.pathID with
  | none => pure (payloadFrames, payloadLength)
  | some f => do
    let l ← (Frame.ack f).MinLength p.version
    pure (payloadFrames ++ [Frame.ack f], payloadLength + l)

/-- `composeNextPacket`, `composeNextPacketOfStream` and `composeNextPacketOfPath`, which differ
only in the call that pops the STREAM frames, `pop`. -/
def composeNextPacketWith
    (pop : PStream.streamFramer → ByteCount → PStream.streamFramer × List StreamFrame)
    (p : packetPacker) (maxFrameSize : ByteCount) (canSendStreamFrames : Bool) (pth : path) :
    Except String (List Frame × packetPacker) := do
  let (payloadFrames, payloadLength) ← p.slotFrames pth
  let (payloadLength, taken, left) ←
    packControlFrames p.version maxFrameSize payloadLength p.controlFrames.reverse
  let payloadFrames := payloadFrames ++ taken
  let p := { p with controlFrames := left.reverse }
  if payloadLength > maxFrameSize then
    throw s!"Packet Packer BUG: packet payload ({payloadLength}) too large ({maxFrameSize})"
  if !canSendStreamFrames then return (payloadFrames, p)
  -- two bytes more: the last STREAM frame goes without its data length
  let maxFrameSize := maxFrameSize + 2
  let (framer, fs) := pop p.streamFramer (maxFrameSize - payloadLength)
  let payloadFrames := payloadFrames ++ (omitLastDataLen fs).map Frame.stream
  -- the loop over `PopBlockedFrame` empties the framer's queue into the packer's, in order
  pure (payloadFrames,
    { p with
      streamFramer := { framer with blockedFrameQueue := [] }
      controlFrames := p.controlFrames ++ framer.blockedFrameQueue.map Frame.blocked })

def composeNextPacket (ids : List StreamID) (p : packetPacker) (maxFrameSize : ByteCount)
    (canSendStreamFrames : Bool) (pth : path) : Except String (List Frame × packetPacker) :=
  p.composeNextPacketWith (fun f n => f.PopStreamFrames n ids) maxFrameSize canSendStreamFrames pth

def composeNextPacketOfStream (p : packetPacker) (maxFrameSize : ByteCount)
    (canSendStreamFrames : Bool) (pth : path) (streamID : StreamID) :
    Except String (List Frame × packetPacker) :=
  p.composeNextPacketWith (fun f n => f.PopStreamFramesOfOneStream n streamID) maxFrameSize
    canSendStreamFrames pth

def composeNextPacketOfPath (streamIDs : List StreamID) (pathScheduler : String)
    (ids : List StreamID) (p : packetPacker) (maxFrameSize : ByteCount)
    (canSendStreamFrames : Bool) (pth : path) : Except String (List Frame × packetPacker) :=
  p.composeNextPacketWith
    (fun f n => f.PopStreamFramesOfPath n pth.pathID streamIDs pathScheduler ids)
    maxFrameSize canSendStreamFrames pth

/-- The path's STOP_WAITING frame, stamped with the number and length of the packet's header. -/
def stampStopWaiting (p : packetPacker) (publicHeader : PublicHeader) (pth : path) : packetPacker :=
  match p.stopWaiting pth.pathID with
  | none => p
  | some f =>
    { p with
      stopWaiting := Function.update p.stopWaiting pth.pathID
        (some { f with PacketNumber := publicHeader.PacketNumber
                       PacketNumberLen := publicHeader.PacketNumberLen }) }

/-- `packCryptoPacket`: one STREAM frame of the crypto stream, fifty bytes short of a packet. -/
def packCryptoPacket (p : packetPacker) (pth : path) :
    ExceptT String Option (Option packedPacket × packetPacker × path) := do
  let (encLevel, sealer) := p.cryptoSetup.GetSealerForCryptoStream
  let publicHeader := p.getPublicHeader encLevel pth
  let publicHeaderLength ← liftM (publicHeader.GetLength p.perspective)
  let maxLen := MaxPacketSize - sealer.Overhead.toUInt64 - NonForwardSecurePacketSizeReduction -
    publicHeaderLength
  let (framer, frame) := p.streamFramer.PopCryptoStreamFrame maxLen
  -- only called with data on the crypto stream, so the frame is there
  let frame ← liftM frame
  let frames := [Frame.stream frame]
  let p := { p with streamFramer := framer }
  let (raw, pth) ← p.writeAndSealPacket ParseIP now rand publicHeader frames sealer pth
  pure (some { number := publicHeader.PacketNumber, raw, frames, encryptionLevel := encLevel },
    p, pth)

/-- The payload of `PackPacket…` after the header of `maxSize` bytes less: the ping at the head of
the queue alone, or what `composeNextPacket…` puts together. -/
def nextPayload (pop : PStream.streamFramer → ByteCount → PStream.streamFramer × List StreamFrame)
    (p : packetPacker) (maxSize : ByteCount) (canSendStreamFrames : Bool) (pth : path) :
    Except String (List Frame × packetPacker) :=
  match p.controlFrames with
  | .ping f :: rest => pure ([Frame.ping f], { p with controlFrames := rest })
  | _ => p.composeNextPacketWith pop maxSize canSendStreamFrames pth

/-- `PackPacket`, `PackPacketOfPath` and `PackPacketOfStream`, which differ only in the call
of `composeNextPacket…`.  No packet is `none`. -/
def PackPacketWith
    (pop : PStream.streamFramer → ByteCount → PStream.streamFramer × List StreamFrame)
    (p : packetPacker) (pth : path) :
    ExceptT String Option (Option packedPacket × packetPacker × path) := do
  if p.streamFramer.HasCryptoStreamFrame then return ← p.packCryptoPacket ParseIP now rand pth
  let (encLevel, sealer) := p.cryptoSetup.GetSealer
  let publicHeader := p.getPublicHeader encLevel pth
  let publicHeaderLength ← liftM (publicHeader.GetLength p.perspective)
  let p := p.stampStopWaiting publicHeader pth
  let (payloadFrames, p) ←
    liftM (p.nextPayload pop (MaxPacketSize - sealer.Overhead.toUInt64 - publicHeaderLength)
      (p.canSendData encLevel) pth)
  -- nothing to send, or only a STOP_WAITING frame
  if payloadFrames.length = 0 then return (none, p, pth)
  if payloadFrames.length = 1 ∧ (p.stopWaiting pth.pathID).isSome then return (none, p, pth)
  let p := { p with stopWaiting := Function.update p.stopWaiting pth.pathID none,
                    ackFrame := Function.update p.ackFrame pth.pathID none }
  let (raw, pth) ← p.writeAndSealPacket ParseIP now rand publicHeader payloadFrames sealer pth
  pure (some { number := publicHeader.PacketNumber, raw, frames := payloadFrames,
               encryptionLevel := encLevel }, p, pth)

def PackPacket (ids : List StreamID) (p : packetPacker) (pth : path) :
    ExceptT String Option (Option packedPacket × packetPacker × path) :=
  p.PackPacketWith ParseIP now rand (fun f n => f.PopStreamFrames n ids) pth

def PackPacketOfPath (streamIDs : List StreamID) (pathScheduler : String) (ids : List StreamID)
    (p : packetPacker) (pth : path) :
    ExceptT String Option (Option packedPacket × packetPacker × path) :=
  p.PackPacketWith ParseIP now rand
    (fun f n => f.PopStreamFramesOfPath n pth.pathID streamIDs pathScheduler ids) pth

def PackPacketOfStream (p : packetPacker) (pth : path) (streamID : StreamID) :
    ExceptT String Option (Option packedPacket × packetPacker × path) :=
  p.PackPacketWith ParseIP now rand (fun f n => f.PopStreamFramesOfOneStream n streamID) pth

/-- `PackPing`: the ping at the head of the queue, then `PackPacket`. -/
def PackPing (ids : List StreamID) (p : packetPacker) (pf : PingFrame) (pth : path) :
    ExceptT String Option (Option packedPacket × packetPacker × path) :=
  let pth := pth.SetLeastUnacked pth.sentPacketHandler.GetLeastUnacked
  let p := { p with controlFrames := Frame.ping pf :: p.controlFrames }
  p.PackPacket ParseIP now rand ids pth

/-- `PackAckPacket`: the path's ACK frame, and its STOP_WAITING frame stamped, both taken. -/
def PackAckPacket (p : packetPacker) (pth : path) :
    ExceptT String Option (packedPacket × packetPacker × path) := do
  let some ack := p.ackFrame pth.pathID | throw "packet packer BUG: no ack frame queued"
  let (encLevel, sealer) := p.cryptoSetup.GetSealer
  let ph := p.getPublicHeader encLevel pth
  let (frames, p) := match p.stopWaiting pth.pathID with
    | none => ([Frame.ack ack], p)
    | some f =>
      ([Frame.ack ack, Frame.stopWaiting
          { f with PacketNumber := ph.PacketNumber, PacketNumberLen := ph.PacketNumberLen }],
        { p with stopWaiting := Function.update p.stopWaiting pth.pathID none })
  let p := { p with ackFrame := Function.update p.ackFrame pth.pathID none }
  let (raw, pth) ← p.writeAndSealPacket ParseIP now rand ph frames sealer pth
  pure ({ number := ph.PacketNumber, raw, frames, encryptionLevel := encLevel }, p, pth)

/-- `PackConnectionClose`: a packet of the CONNECTION_CLOSE frame only. -/
def PackConnectionClose (p : packetPacker) (ccf : ConnectionCloseFrame) (pth : path) :
    ExceptT String Option (packedPacket × path) := do
  let frames := [Frame.connectionClose ccf]
  let (encLevel, sealer) := p.cryptoSetup.GetSealer
  let ph := p.getPublicHeader encLevel pth
  let (raw, pth) ← p.writeAndSealPacket ParseIP now rand ph frames sealer pth
  pure ({ number := ph.PacketNumber, raw, frames, encryptionLevel := encLevel }, pth)

/-- `PackHandshakeRetransmission` of a packet sent at `encryptionLevel` with `frames`: those
frames after the path's STOP_WAITING frame, stamped, at the packet's level. -/
def PackHandshakeRetransmission (p : packetPacker) (encryptionLevel : EncryptionLevel)
    (frames : List Frame) (pth : path) :
    ExceptT String Option (packedPacket × packetPacker × path) := do
  if encryptionLevel = .ForwardSecure then
    throw
      "PacketPacker BUG: forward-secure encrypted handshake packets don't need special treatment"
  let sealer ← liftM (p.cryptoSetup.GetSealerWithEncryptionLevel encryptionLevel)
  let some f := p.stopWaiting pth.pathID
    | throw "PacketPacker BUG: Handshake retransmissions must contain a StopWaitingFrame"
  let ph := p.getPublicHeader encryptionLevel pth
  let frames := Frame.stopWaiting
    { f with PacketNumber := ph.PacketNumber, PacketNumberLen := ph.PacketNumberLen } :: frames
  let p := { p with stopWaiting := Function.update p.stopWaiting pth.pathID none }
  let (raw, pth) ← p.writeAndSealPacket ParseIP now rand ph frames sealer pth
  pure ({ number := ph.PacketNumber, raw, frames, encryptionLevel }, p, pth)

end Packing

/-! ## A server's packer

The inputs the examples run on: a sealer that adds a 12-byte tag, the crypto setup of a
forward-secure connection, a framer with no streams, a server's packer for the multipath version,
and the initial path after the handshake. -/

def tagSealer : Sealer where
  Overhead := 12
  Seal src _ _ := src ++ List.replicate 12 0
  length_Seal _ _ _ := by simp

def forwardSecureSetup : PStream.cryptoSetup where
  GetSealer := (.ForwardSecure, tagSealer)
  GetSealerForCryptoStream := (.Unencrypted, tagSealer)
  GetSealerWithEncryptionLevel _ := .ok tagSealer
  DiversificationNonce := []

def idleFramer : PStream.streamFramer where
  streams _ := none
  flowControlManager := Flowcontrol.NewFlowControlManager
    (Flowcontrol.NewConnectionParamatersManager 16384 16384)
  retransmissionQueue := []
  blockedFrameQueue := []

def serverPacker : packetPacker :=
  newPacketPacker 0x1234 forwardSecureSetup
    (Handshake.NewConnectionParamatersManager .server 16384 16384 30) idleFramer .server VersionMP

def initialPath : path where
  pathID := InitialPathID
  handshakeComplete := true
  sentPacketHandler := Ackhandler.NewSentPacketHandler
  packetNumberGenerator := newPacketNumberGenerator 500
  leastUnacked := 1

/-- Three WINDOW_UPDATE frames of 13 bytes each. -/
def windowUpdates : List Frame :=
  [.windowUpdate ⟨3, 100⟩, .windowUpdate ⟨5, 200⟩, .windowUpdate ⟨7, 300⟩]

def updatesPacker : packetPacker := { serverPacker with controlFrames := windowUpdates }

/-- The server's packer with a STOP_WAITING frame queued for the initial path. -/
def stopWaitingPacker : packetPacker :=
  serverPacker.QueueControlFrame (.stopWaiting ⟨1, 0, 0⟩) initialPath

/-- The server's packer with an ACK frame queued for the initial path, and then a ping. -/
def pingAckPacker : packetPacker :=
  let acked := serverPacker.QueueControlFrame (.ack ⟨InitialPathID, 5, 1, [], 0, 0⟩) initialPath
  acked.QueueControlFrame (.ping ⟨⟩) initialPath

/-- A framer with no STREAM frame to give. -/
def popNone (f : PStream.streamFramer) (_ : ByteCount) : PStream.streamFramer × List StreamFrame :=
  (f, [])

/-! ## The header -/

section Header

variable (p : packetPacker) (encLevel : EncryptionLevel) (pth : path)

@[simp] theorem getPublicHeader_PacketNumber :
    (p.getPublicHeader encLevel pth).PacketNumber = pth.packetNumberGenerator.Peek := by
  unfold getPublicHeader
  split_ifs <;> rfl

@[simp] theorem getPublicHeader_PacketNumberLen :
    (p.getPublicHeader encLevel pth).PacketNumberLen =
      GetPacketNumberLengthForPublicHeader pth.packetNumberGenerator.Peek pth.leastUnacked := by
  unfold getPublicHeader
  split_ifs <;> rfl

@[simp] theorem getPublicHeader_ResetFlag : (p.getPublicHeader encLevel pth).ResetFlag = false := by
  unfold getPublicHeader
  split_ifs <;> rfl

@[simp] theorem getPublicHeader_ConnectionID :
    (p.getPublicHeader encLevel pth).ConnectionID = p.connectionID := by
  unfold getPublicHeader
  split_ifs <;> rfl

/-- Once a connection is forward secure, its packets have no version flag. -/
theorem getPublicHeader_ForwardSecure_VersionFlag :
    (p.getPublicHeader .ForwardSecure pth).VersionFlag = false := by
  unfold getPublicHeader
  split_ifs <;> simp_all

/-- A client's packets carry their connection ID whole. -/
theorem getPublicHeader_TruncateConnectionID
    (h : p.connectionParameters.perspective = .client) :
    (p.getPublicHeader encLevel pth).TruncateConnectionID = false := by
  unfold getPublicHeader
  split_ifs <;> simp [Handshake.connectionParametersManager.TruncateConnectionID, h]

/-- Only a client sets the version flag. -/
theorem getPublicHeader_VersionFlag (h : (p.getPublicHeader encLevel pth).VersionFlag = true) :
    p.perspective = .client := by
  unfold getPublicHeader at h
  split_ifs at h with h1 h2 h3 <;> simp_all

/-- The length of a header the packer builds is always known: it is no reset, a server sets no
version flag, and the packet number takes two, four or six bytes. -/
theorem GetLength_getPublicHeader :
    ∃ n, (p.getPublicHeader encLevel pth).GetLength p.perspective = .ok n := by
  have hlen := getPacketNumberLengthForPublicHeader_cases pth.packetNumberGenerator.Peek
    pth.leastUnacked
  have hserver : ¬ ((p.getPublicHeader encLevel pth).VersionFlag = true ∧
      p.perspective = .server) := by
    rintro ⟨hv, hs⟩
    rw [getPublicHeader_VersionFlag p encLevel pth hv] at hs
    cases hs
  simp only [PublicHeader.GetLength, getPublicHeader_ResetFlag, getPublicHeader_PacketNumberLen]
  -- past the two refusals, each length is a `pure`
  rcases hlen with ⟨-, h⟩ | ⟨-, -, h⟩ | ⟨-, h⟩ <;>
    simp [h, hserver, PacketNumberLen1, PacketNumberLen2, PacketNumberLen4, PacketNumberLen6] <;>
    split <;> exact ⟨_, rfl⟩

end Header

/-! ## Writing and sealing -/

section Seal

variable {ParseIP : String → Option IP} {now : Int} {rand : Option UInt16} {p : packetPacker}
  {ph : PublicHeader} {frames : List Frame} {sealer : Sealer} {pth pth' : path} {raw : List UInt8}

/-- A packet written is its header and its sealed payload, within `MaxPacketSize`, and the path's
generator has handed out its number. -/
theorem writeAndSealPacket_spec
    (h : Returns (p.writeAndSealPacket ParseIP now rand ph frames sealer pth) (raw, pth')) :
    ∃ header payload, Returns (ph.Write p.version p.perspective) header ∧
      Returns (writeFrames ParseIP p.version now frames) payload ∧
      header.length + payload.length + sealer.Overhead ≤ MaxPacketSize.toNat ∧
      raw = header ++ sealer.Seal payload ph.PacketNumber header ∧
      pth' = { pth with packetNumberGenerator := (pth.packetNumberGenerator.Pop rand).2 } := by
  unfold writeAndSealPacket at h
  obtain ⟨header, hheader, h⟩ := returns_bind.1 h
  obtain ⟨payload, hpayload, h⟩ := returns_bind.1 h
  dsimp only at h
  -- the two refusals throw; past them the packet is returned
  split at h
  · simp at h
  rename_i hfit
  split at h
  · simp at h
  simp only [returns_pure, Prod.mk.injEq] at h
  obtain ⟨rfl, rfl⟩ := h
  exact ⟨header, payload, hheader, hpayload, Nat.le_of_not_gt hfit, rfl, rfl⟩

theorem length_writeAndSealPacket
    (h : Returns (p.writeAndSealPacket ParseIP now rand ph frames sealer pth) (raw, pth')) :
    raw.length ≤ MaxPacketSize.toNat := by
  obtain ⟨header, payload, -, -, hfit, rfl, -⟩ := writeAndSealPacket_spec h
  rw [List.length_append, sealer.length_Seal]
  omega

end Seal

/-! ## Composing a packet -/

/-- The path's STOP_WAITING and ACK frames, in the order `composeNextPacket…` sends them. -/
def slotsOf (p : packetPacker) (pathID : PathID) : List Frame :=
  (p.stopWaiting pathID).toList.map Frame.stopWaiting ++ (p.ackFrame pathID).toList.map Frame.ack

section Compose

variable {version : VersionNumber} {maxFrameSize : ByteCount}

theorem size_of_MinLength {f : Frame} {l : ByteCount} (h : f.MinLength version = .ok l) :
    f.size version = l.toNat := by
  simp [Frame.size, h]

/-- The loop takes a prefix of the queue read from its end, and leaves the rest. -/
theorem packControlFrames_append {len len' : ByteCount} {q taken left : List Frame}
    (h : packControlFrames version maxFrameSize len q = .ok (len', taken, left)) :
    q = taken ++ left := by
  induction q generalizing len len' taken left with
  | nil =>
    simp only [packControlFrames, pure, Except.pure, Except.ok.injEq, Prod.mk.injEq] at h
    obtain ⟨-, rfl, rfl⟩ := h
    rfl
  | cons f rest ih =>
    obtain ⟨l, -, h⟩ := ExceptOption.bind_eq_ok.1 h
    split at h
    · -- the last frame does not fit: the loop stops
      simp only [pure, Except.pure, Except.ok.injEq, Prod.mk.injEq] at h
      obtain ⟨-, rfl, rfl⟩ := h
      rfl
    · obtain ⟨⟨len₁, taken₁, left₁⟩, hrest, h⟩ := ExceptOption.bind_eq_ok.1 h
      simp only [pure, Except.pure, Except.ok.injEq, Prod.mk.injEq] at h
      obtain ⟨-, rfl, rfl⟩ := h
      rw [ih hrest, List.cons_append]

/-- Without overflow the loop counts the bytes of the frames it takes, stops at the first frame
that does not fit, and, from a length within `maxFrameSize`, stays within it. -/
theorem packControlFrames_length {len len' : ByteCount} {q taken left : List Frame}
    (hm : maxFrameSize.toNat < 2 ^ 62) (hlen : len.toNat < 2 ^ 63)
    (hsmall : ∀ f ∈ q, f.size version < 2 ^ 62)
    (h : packControlFrames version maxFrameSize len q = .ok (len', taken, left)) :
    len'.toNat = len.toNat + (taken.map (Frame.size version)).sum ∧
      (taken ≠ [] → len'.toNat ≤ maxFrameSize.toNat) ∧
      ∀ f ∈ left.head?, maxFrameSize.toNat < len'.toNat + f.size version := by
  induction q generalizing len len' taken left with
  | nil =>
    simp only [packControlFrames, pure, Except.pure, Except.ok.injEq, Prod.mk.injEq] at h
    obtain ⟨rfl, rfl, rfl⟩ := h
    simp
  | cons f rest ih =>
    obtain ⟨l, hl, h⟩ := ExceptOption.bind_eq_ok.1 h
    have hsize := size_of_MinLength hl
    have hf := hsmall f List.mem_cons_self
    -- the sum of the two does not wrap
    have hsum : (len + l).toNat = len.toNat + l.toNat := by
      rw [UInt64.toNat_add]
      exact Nat.mod_eq_of_lt (by omega)
    split at h
    · rename_i hgt
      simp only [pure, Except.pure, Except.ok.injEq, Prod.mk.injEq] at h
      obtain ⟨rfl, rfl, rfl⟩ := h
      have : maxFrameSize.toNat < len.toNat + l.toNat := by
        rw [← hsum]
        exact UInt64.lt_iff_toNat_lt.1 hgt
      simp [hsize, this]
    · rename_i hle
      have hle : len.toNat + l.toNat ≤ maxFrameSize.toNat := by
        rw [← hsum]
        exact UInt64.le_iff_toNat_le.1 (UInt64.not_lt.1 hle)
      obtain ⟨⟨len₁, taken₁, left₁⟩, hrest, h⟩ := ExceptOption.bind_eq_ok.1 h
      simp only [pure, Except.pure, Except.ok.injEq, Prod.mk.injEq] at h
      obtain ⟨rfl, rfl, rfl⟩ := h
      obtain ⟨hcount, hfit, hstop⟩ :=
        ih (by omega) (fun g hg => hsmall g (List.mem_cons_of_mem f hg)) hrest
      refine ⟨?_, fun _ => ?_, hstop⟩
      · rw [hcount, hsum, List.map_cons, List.sum_cons, hsize]
        omega
      · -- either the rest took a frame and stayed within, or it took none
        by_cases hnil : taken₁ = []
        · subst hnil
          rw [hcount, hsum]
          simpa using hle
        · exact hfit hnil

/-- The path's STOP_WAITING and ACK frames come first, and count what `MinLength` says. -/
theorem slotFrames_spec {p : packetPacker} {pth : path} {frames : List Frame} {len : ByteCount}
    (h : p.slotFrames pth = .ok (frames, len)) :
    frames = p.slotsOf pth.pathID ∧ ((∀ f ∈ p.slotsOf pth.pathID, f.size p.version < 2 ^ 62) →
      len.toNat = (frames.map (Frame.size p.version)).sum) := by
  rcases hs : p.stopWaiting pth.pathID with _ | sw <;>
    rcases ha : p.ackFrame pth.pathID with _ | a <;>
    simp only [slotFrames, hs, ha, pure_bind] at h
  case none.none =>
    simp only [ExceptOption.pure_eq_ok, Prod.mk.injEq] at h
    obtain ⟨rfl, rfl⟩ := h
    simp [slotsOf, hs, ha]
  case none.some =>
    obtain ⟨l, hl, h⟩ := ExceptOption.bind_eq_ok.1 h
    simp only [ExceptOption.pure_eq_ok, Prod.mk.injEq] at h
    obtain ⟨rfl, rfl⟩ := h
    simp [slotsOf, hs, ha, size_of_MinLength hl]
  case some.none =>
    obtain ⟨l, hl, h⟩ := ExceptOption.bind_eq_ok.1 h
    simp only [ExceptOption.pure_eq_ok, Prod.mk.injEq] at h
    obtain ⟨rfl, rfl⟩ := h
    simp [slotsOf, hs, ha, size_of_MinLength hl]
  case some.some =>
    obtain ⟨l₁, hl₁, h⟩ := ExceptOption.bind_eq_ok.1 h
    obtain ⟨l₂, hl₂, h⟩ := ExceptOption.bind_eq_ok.1 h
    simp only [ExceptOption.pure_eq_ok, Prod.mk.injEq] at h
    obtain ⟨rfl, rfl⟩ := h
    refine ⟨by simp [slotsOf, hs, ha], fun hsmall => ?_⟩
    -- the two lengths add up without wrapping
    have h₁ := hsmall (.stopWaiting sw) (by simp [slotsOf, hs])
    have h₂ := hsmall (.ack a) (by simp [slotsOf, ha])
    rw [size_of_MinLength hl₁] at h₁
    rw [size_of_MinLength hl₂] at h₂
    simp only [List.map_append, List.map_cons, List.map_nil, List.sum_append, List.sum_cons,
      List.sum_nil, size_of_MinLength hl₁, size_of_MinLength hl₂, UInt64.toNat_add]
    omega

theorem sum_slotsOf_lt {p : packetPacker} {pathID : PathID}
    (hsmall : ∀ f ∈ p.slotsOf pathID, f.size p.version < 2 ^ 62) :
    ((p.slotsOf pathID).map (Frame.size p.version)).sum < 2 ^ 63 := by
  rcases hs : p.stopWaiting pathID with _ | sw <;> rcases ha : p.ackFrame pathID with _ | a <;>
    simp only [slotsOf, hs, ha] at hsmall ⊢ <;> simp at hsmall ⊢ <;> omega

variable {pop : PStream.streamFramer → ByteCount → PStream.streamFramer × List StreamFrame}
  {p p' : packetPacker} {pth : path} {canSendStreamFrames : Bool} {payloadFrames : List Frame}

/-- What `composeNextPacket…` does, step by step: the slots, the loop, the check of the length,
and the STREAM frames with the BLOCKED frames of their pop. -/
theorem composeNextPacketWith_cases
    (h : p.composeNextPacketWith pop maxFrameSize canSendStreamFrames pth =
      .ok (payloadFrames, p')) :
    ∃ slots slotLength payloadLength taken left,
      p.slotFrames pth = .ok (slots, slotLength) ∧
      packControlFrames p.version maxFrameSize slotLength p.controlFrames.reverse =
        .ok (payloadLength, taken, left) ∧
      payloadLength ≤ maxFrameSize ∧
      (canSendStreamFrames = false →
        payloadFrames = slots ++ taken ∧ p' = { p with controlFrames := left.reverse }) ∧
      (canSendStreamFrames = true → ∀ framer fs,
        pop p.streamFramer (maxFrameSize + 2 - payloadLength) = (framer, fs) →
        payloadFrames = slots ++ taken ++ (omitLastDataLen fs).map Frame.stream ∧
        p' = { p with
          streamFramer := { framer with blockedFrameQueue := [] }
          controlFrames := left.reverse ++ framer.blockedFrameQueue.map Frame.blocked }) := by
  unfold composeNextPacketWith at h
  obtain ⟨⟨slots, slotLength⟩, hslots, h⟩ := ExceptOption.bind_eq_ok.1 h
  obtain ⟨⟨payloadLength, taken, left⟩, hloop, h⟩ := ExceptOption.bind_eq_ok.1 h
  dsimp only at h
  split at h
  · exact absurd h (by simp [bind, Except.bind, throw, throwThe, MonadExceptOf.throw])
  rename_i hfit
  refine ⟨slots, slotLength, payloadLength, taken, left, hslots, hloop, UInt64.not_lt.1 hfit,
    ?_, ?_⟩
  · rintro rfl
    simp only [Bool.not_false, if_true, ExceptOption.pure_eq_ok, Prod.mk.injEq] at h
    obtain ⟨rfl, rfl⟩ := h
    exact ⟨rfl, rfl⟩
  · rintro rfl framer fs hpop
    simp only [Bool.not_true, Bool.false_eq_true, if_false, hpop, ExceptOption.pure_eq_ok,
      Prod.mk.injEq] at h
    obtain ⟨rfl, rfl⟩ := h
    exact ⟨rfl, rfl⟩

/-- `composeNextPacket…` loses and repeats no control frame: the frames it sends come off the end
of the queue, after the path's STOP_WAITING and ACK frames and before the STREAM frames; the
frames before them stay in the queue, and the BLOCKED frames of the pop join them. -/
theorem composeNextPacketWith_spec
    (h : p.composeNextPacketWith pop maxFrameSize canSendStreamFrames pth =
      .ok (payloadFrames, p')) :
    ∃ taken kept, p.controlFrames = kept ++ taken.reverse ∧
      (canSendStreamFrames = false →
        payloadFrames = p.slotsOf pth.pathID ++ taken ∧ p' = { p with controlFrames := kept }) ∧
      (canSendStreamFrames = true → ∃ n framer fs, pop p.streamFramer n = (framer, fs) ∧
        payloadFrames = p.slotsOf pth.pathID ++ taken ++ (omitLastDataLen fs).map Frame.stream ∧
        p' = { p with
          streamFramer := { framer with blockedFrameQueue := [] }
          controlFrames := kept ++ framer.blockedFrameQueue.map Frame.blocked }) := by
  obtain ⟨slots, slotLength, payloadLength, taken, left, hslots, hloop, -, hquiet, hstreams⟩ :=
    composeNextPacketWith_cases h
  obtain ⟨rfl, -⟩ := slotFrames_spec hslots
  have hqueue : p.controlFrames = left.reverse ++ taken.reverse := by
    rw [← List.reverse_append, ← packControlFrames_append hloop, List.reverse_reverse]
  refine ⟨taken, left.reverse, hqueue, hquiet, fun hcan => ?_⟩
  rcases hpop : pop p.streamFramer (maxFrameSize + 2 - payloadLength) with ⟨framer, fs⟩
  exact ⟨_, framer, fs, hpop, hstreams hcan framer fs hpop⟩

/-- Of three WINDOW_UPDATE frames, thirty bytes take the last two, in that order, and leave the
first. -/
theorem composeNextPacketWith_spec_windowUpdates :
    updatesPacker.composeNextPacketWith popNone 30 false initialPath =
        .ok ([.windowUpdate ⟨7, 300⟩, .windowUpdate ⟨5, 200⟩],
          { updatesPacker with controlFrames := [.windowUpdate ⟨3, 100⟩] }) ∧
      ∃ taken kept, updatesPacker.controlFrames = kept ++ taken.reverse ∧
        (false = false →
          [.windowUpdate ⟨7, 300⟩, .windowUpdate ⟨5, 200⟩] =
              updatesPacker.slotsOf initialPath.pathID ++ taken ∧
            { updatesPacker with controlFrames := [.windowUpdate ⟨3, 100⟩] } =
              { updatesPacker with controlFrames := kept }) ∧
        (false = true → ∃ n framer fs, popNone updatesPacker.streamFramer n = (framer, fs) ∧
          [.windowUpdate ⟨7, 300⟩, .windowUpdate ⟨5, 200⟩] =
              updatesPacker.slotsOf initialPath.pathID ++ taken ++
                (omitLastDataLen fs).map Frame.stream ∧
            { updatesPacker with controlFrames := [.windowUpdate ⟨3, 100⟩] } =
              { updatesPacker with
                streamFramer := { framer with blockedFrameQueue := [] }
                controlFrames := kept ++ framer.blockedFrameQueue.map Frame.blocked }) := by
  have h : updatesPacker.composeNextPacketWith popNone 30 false initialPath =
      .ok ([.windowUpdate ⟨7, 300⟩, .windowUpdate ⟨5, 200⟩],
        { updatesPacker with controlFrames := [.windowUpdate ⟨3, 100⟩] }) := rfl
  exact ⟨h, composeNextPacketWith_spec h⟩

/-- With frames whose lengths do not wrap, what `composeNextPacket…` sends before the STREAM
frames fits `maxFrameSize`, the frame it leaves at the end of the queue is one that does not fit
after them, and the STREAM frames are popped for the room left and the two bytes the last of them
saves. -/
theorem composeNextPacketWith_fits (hm : maxFrameSize.toNat < 2 ^ 62)
    (hsmall : ∀ f ∈ p.slotsOf pth.pathID ++ p.controlFrames, f.size p.version < 2 ^ 62)
    (h : p.composeNextPacketWith pop maxFrameSize canSendStreamFrames pth =
      .ok (payloadFrames, p')) :
    ∃ taken kept, p.controlFrames = kept ++ taken.reverse ∧
      ((p.slotsOf pth.pathID ++ taken).map (Frame.size p.version)).sum ≤ maxFrameSize.toNat ∧
      (∀ f ∈ kept.getLast?, maxFrameSize.toNat <
        ((p.slotsOf pth.pathID ++ taken).map (Frame.size p.version)).sum + f.size p.version) ∧
      (canSendStreamFrames = true → ∃ n framer fs, pop p.streamFramer n = (framer, fs) ∧
        n.toNat + ((p.slotsOf pth.pathID ++ taken).map (Frame.size p.version)).sum =
          maxFrameSize.toNat + 2 ∧
        payloadFrames =
          p.slotsOf pth.pathID ++ taken ++ (omitLastDataLen fs).map Frame.stream) := by
  obtain ⟨slots, slotLength, payloadLength, taken, left, hslots, hloop, hfit, -, hstreams⟩ :=
    composeNextPacketWith_cases h
  have hslotSmall : ∀ f ∈ p.slotsOf pth.pathID, f.size p.version < 2 ^ 62 :=
    fun f hf => hsmall f (List.mem_append_left _ hf)
  obtain ⟨rfl, hslotLength⟩ := slotFrames_spec hslots
  have hslotLength := hslotLength hslotSmall
  have hslotBound := sum_slotsOf_lt hslotSmall
  obtain ⟨hcount, -, hstop⟩ := packControlFrames_length hm (by omega)
    (fun f hf => hsmall f (List.mem_append_right _ (List.mem_reverse.1 hf))) hloop
  have hqueue : p.controlFrames = left.reverse ++ taken.reverse := by
    rw [← List.reverse_append, ← packControlFrames_append hloop, List.reverse_reverse]
  -- the length the packer counted is the sum of the frames' lengths
  have hsum : payloadLength.toNat =
      ((p.slotsOf pth.pathID ++ taken).map (Frame.size p.version)).sum := by
    rw [hcount, hslotLength, List.map_append, List.sum_append]
  have hle : payloadLength.toNat ≤ maxFrameSize.toNat := UInt64.le_iff_toNat_le.1 hfit
  refine ⟨taken, left.reverse, hqueue, hsum ▸ hle, ?_, fun hcan => ?_⟩
  · intro f hf
    rw [List.getLast?_reverse] at hf
    rw [← hsum]
    exact hstop f hf
  · rcases hpop : pop p.streamFramer (maxFrameSize + 2 - payloadLength) with ⟨framer, fs⟩
    refine ⟨_, framer, fs, hpop, ?_, (hstreams hcan framer fs hpop).1⟩
    have hroom : (maxFrameSize + 2).toNat = maxFrameSize.toNat + 2 := by
      rw [UInt64.toNat_add]
      exact Nat.mod_eq_of_lt (by simp; omega)
    rw [UInt64.toNat_sub_of_le _ _ (UInt64.le_iff_toNat_le.2 (by omega)), hroom, ← hsum]
    omega

/-- The two frames taken count 26 of the thirty bytes, and the third would take 39. -/
theorem composeNextPacketWith_fits_windowUpdates :
    ((30 : ByteCount).toNat < 2 ^ 62 ∧
      (∀ f ∈ updatesPacker.slotsOf initialPath.pathID ++ updatesPacker.controlFrames,
        f.size updatesPacker.version < 2 ^ 62) ∧
      updatesPacker.composeNextPacketWith popNone 30 false initialPath =
        .ok ([.windowUpdate ⟨7, 300⟩, .windowUpdate ⟨5, 200⟩],
          { updatesPacker with controlFrames := [.windowUpdate ⟨3, 100⟩] })) ∧
    ∃ taken kept, updatesPacker.controlFrames = kept ++ taken.reverse ∧
      ((updatesPacker.slotsOf initialPath.pathID ++ taken).map
          (Frame.size updatesPacker.version)).sum ≤ (30 : ByteCount).toNat ∧
      (∀ f ∈ kept.getLast?, (30 : ByteCount).toNat <
        ((updatesPacker.slotsOf initialPath.pathID ++ taken).map
          (Frame.size updatesPacker.version)).sum + f.size updatesPacker.version) ∧
      (false = true → ∃ n framer fs, popNone updatesPacker.streamFramer n = (framer, fs) ∧
        n.toNat + ((updatesPacker.slotsOf initialPath.pathID ++ taken).map
          (Frame.size updatesPacker.version)).sum = (30 : ByteCount).toNat + 2 ∧
        [.windowUpdate ⟨7, 300⟩, .windowUpdate ⟨5, 200⟩] =
          updatesPacker.slotsOf initialPath.pathID ++ taken ++
            (omitLastDataLen fs).map Frame.stream) := by
  have hm : (30 : ByteCount).toNat < 2 ^ 62 := by decide
  have hsmall : ∀ f ∈ updatesPacker.slotsOf initialPath.pathID ++ updatesPacker.controlFrames,
      f.size updatesPacker.version < 2 ^ 62 := by decide
  have h : updatesPacker.composeNextPacketWith popNone 30 false initialPath =
      .ok ([.windowUpdate ⟨7, 300⟩, .windowUpdate ⟨5, 200⟩],
        { updatesPacker with controlFrames := [.windowUpdate ⟨3, 100⟩] }) := rfl
  exact ⟨⟨hm, hsmall, h⟩, composeNextPacketWith_fits hm hsmall h⟩

end Compose

/-! ## Packing a packet -/

section Stamp

variable (p : packetPacker) (ph : PublicHeader) (pth : path)

@[simp] theorem perspective_stampStopWaiting :
    (p.stampStopWaiting ph pth).perspective = p.perspective := by
  unfold stampStopWaiting; split <;> rfl

@[simp] theorem controlFrames_stampStopWaiting :
    (p.stampStopWaiting ph pth).controlFrames = p.controlFrames := by
  unfold stampStopWaiting; split <;> rfl

@[simp] theorem ackFrame_stampStopWaiting : (p.stampStopWaiting ph pth).ackFrame = p.ackFrame := by
  unfold stampStopWaiting; split <;> rfl

@[simp] theorem streamFramer_stampStopWaiting :
    (p.stampStopWaiting ph pth).streamFramer = p.streamFramer := by
  unfold stampStopWaiting; split <;> rfl

theorem stopWaiting_stampStopWaiting (id : PathID) :
    (p.stampStopWaiting ph pth).stopWaiting id =
      if id = pth.pathID then
        (p.stopWaiting id).map fun f =>
          { f with PacketNumber := ph.PacketNumber, PacketNumberLen := ph.PacketNumberLen }
      else p.stopWaiting id := by
  unfold stampStopWaiting
  split
  · rename_i hs
    split_ifs with h <;> simp [h, hs]
  · rename_i hs
    split_ifs with h <;> simp [h, hs, Function.update_of_ne]

theorem canSendData_stampStopWaiting (encLevel : EncryptionLevel) :
    (p.stampStopWaiting ph pth).canSendData encLevel = p.canSendData encLevel := by
  simp [canSendData]

end Stamp

section Pack

variable {ParseIP : String → Option IP} {now : Int} {rand : Option UInt16}
  {pop : PStream.streamFramer → ByteCount → PStream.streamFramer × List StreamFrame}
  {p p' : packetPacker} {pth pth' : path}

theorem nextPayload_ping {maxSize : ByteCount} {canSendStreamFrames : Bool} (f : PingFrame)
    (rest : List Frame) (hq : p.controlFrames = .ping f :: rest) :
    p.nextPayload pop maxSize canSendStreamFrames pth =
      .ok ([.ping f], { p with controlFrames := rest }) := by
  simp only [nextPayload, hq]
  rfl

/-- What `PackAckPacket` sends: the path's ACK frame, and its STOP_WAITING frame stamped when
there is one; both slots are then empty. -/
theorem PackAckPacket_spec {pk : packedPacket} {encLevel : EncryptionLevel} {sealer : Sealer}
    (hsealer : p.cryptoSetup.GetSealer = (encLevel, sealer))
    (h : Returns (p.PackAckPacket ParseIP now rand pth) (pk, p', pth')) :
    ∃ ack, p.ackFrame pth.pathID = some ack ∧
      pk.number = (p.getPublicHeader encLevel pth).PacketNumber ∧
      Returns (p'.writeAndSealPacket ParseIP now rand (p.getPublicHeader encLevel pth) pk.frames
        sealer pth) (pk.raw, pth') ∧
      match p.stopWaiting pth.pathID with
      | none => pk.frames = [.ack ack] ∧
          p' = { p with ackFrame := Function.update p.ackFrame pth.pathID none }
      | some f => pk.frames = [.ack ack, .stopWaiting
            { f with PacketNumber := (p.getPublicHeader encLevel pth).PacketNumber
                     PacketNumberLen := (p.getPublicHeader encLevel pth).PacketNumberLen }] ∧
          p' = { p with stopWaiting := Function.update p.stopWaiting pth.pathID none,
                        ackFrame := Function.update p.ackFrame pth.pathID none } := by
  unfold PackAckPacket at h
  rcases ha : p.ackFrame pth.pathID with _ | ack
  · simp [ha] at h
  simp only [ha, hsealer] at h
  refine ⟨ack, rfl, ?_⟩
  rcases hs : p.stopWaiting pth.pathID with _ | f <;> simp only [hs] at h ⊢
  all_goals
    obtain ⟨⟨raw, pth₁⟩, hwrite, h⟩ := returns_bind.1 h
    simp only [returns_pure, Prod.mk.injEq] at h
    obtain ⟨rfl, rfl, rfl⟩ := h
    exact ⟨rfl, hwrite, rfl, rfl⟩

/-- `PackConnectionClose` sends the CONNECTION_CLOSE frame alone and leaves the packer as it
was. -/
theorem PackConnectionClose_spec {pk : packedPacket} {ccf : ConnectionCloseFrame}
    {encLevel : EncryptionLevel} {sealer : Sealer}
    (hsealer : p.cryptoSetup.GetSealer = (encLevel, sealer))
    (h : Returns (p.PackConnectionClose ParseIP now rand ccf pth) (pk, pth')) :
    pk.number = (p.getPublicHeader encLevel pth).PacketNumber ∧ pk.frames = [.connectionClose ccf] ∧
      Returns (p.writeAndSealPacket ParseIP now rand (p.getPublicHeader encLevel pth) pk.frames
        sealer pth) (pk.raw, pth') := by
  unfold PackConnectionClose at h
  simp only [hsealer] at h
  obtain ⟨⟨raw, pth₁⟩, hwrite, h⟩ := returns_bind.1 h
  simp only [returns_pure, Prod.mk.injEq] at h
  obtain ⟨rfl, rfl⟩ := h
  exact ⟨rfl, rfl, hwrite⟩

/-- What `PackHandshakeRetransmission` sends: the path's STOP_WAITING frame, stamped, before the
frames to retransmit, below forward-secure encryption; the slot is then empty. -/
theorem PackHandshakeRetransmission_spec {pk : packedPacket} {encryptionLevel : EncryptionLevel}
    {frames : List Frame}
    (h : Returns (p.PackHandshakeRetransmission ParseIP now rand encryptionLevel frames pth)
      (pk, p', pth')) :
    ∃ sealer f, p.cryptoSetup.GetSealerWithEncryptionLevel encryptionLevel = .ok sealer ∧
      p.stopWaiting pth.pathID = some f ∧
      pk.number = (p.getPublicHeader encryptionLevel pth).PacketNumber ∧
      pk.frames = .stopWaiting
        { f with PacketNumber := (p.getPublicHeader encryptionLevel pth).PacketNumber
                 PacketNumberLen := (p.getPublicHeader encryptionLevel pth).PacketNumberLen } ::
        frames ∧
      p' = { p with stopWaiting := Function.update p.stopWaiting pth.pathID none } ∧
      Returns (p'.writeAndSealPacket ParseIP now rand (p.getPublicHeader encryptionLevel pth)
        pk.frames sealer pth) (pk.raw, pth') := by
  unfold PackHandshakeRetransmission at h
  rcases hs : p.stopWaiting pth.pathID with _ | f
  · -- without a STOP_WAITING frame the retransmission is refused
    simp only [hs] at h
    split at h
    · simp at h
    obtain ⟨_, -, h⟩ := returns_bind.1 h
    simp at h
  simp only [hs] at h
  split at h
  · simp at h
  obtain ⟨sealer, hsealer, h⟩ := returns_bind.1 h
  rw [returns_liftExcept] at hsealer
  obtain ⟨⟨raw, pth₁⟩, hwrite, h⟩ := returns_bind.1 h
  simp only [returns_pure, Prod.mk.injEq] at h
  obtain ⟨rfl, rfl, rfl⟩ := h
  exact ⟨sealer, f, hsealer, rfl, rfl, rfl, rfl, hwrite⟩

/-- `packCryptoPacket` sends one STREAM frame and changes only the framer. -/
theorem packCryptoPacket_spec {pk : Option packedPacket} {encLevel : EncryptionLevel}
    {sealer : Sealer}
    (hsealer : p.cryptoSetup.GetSealerForCryptoStream = (encLevel, sealer))
    (h : Returns (p.packCryptoPacket ParseIP now rand pth) (pk, p', pth')) :
    ∃ framer frame raw, p' = { p with streamFramer := framer } ∧
      pk = some { number := (p.getPublicHeader encLevel pth).PacketNumber, raw,
                  frames := [.stream frame], encryptionLevel := encLevel } ∧
      Returns (p'.writeAndSealPacket ParseIP now rand (p.getPublicHeader encLevel pth)
        [.stream frame] sealer pth) (raw, pth') := by
  unfold packCryptoPacket at h
  simp only [hsealer] at h
  obtain ⟨len, -, h⟩ := returns_bind.1 h
  obtain ⟨frame, -, h⟩ := returns_bind.1 h
  obtain ⟨⟨raw, pth₁⟩, hwrite, h⟩ := returns_bind.1 h
  simp only [returns_pure, Prod.mk.injEq] at h
  obtain ⟨rfl, rfl, rfl⟩ := h
  exact ⟨_, frame, raw, rfl, rfl, hwrite⟩

/-- What `PackPacket…` can do: send the crypto stream; or stamp the STOP_WAITING frame, take a
payload, and send nothing when it is empty or only that frame; or send it and empty the path's
slots. -/
theorem PackPacketWith_cases {pk : Option packedPacket} {encLevel : EncryptionLevel}
    {sealer : Sealer} (hsealer : p.cryptoSetup.GetSealer = (encLevel, sealer))
    (h : Returns (p.PackPacketWith ParseIP now rand pop pth) (pk, p', pth')) :
    (p.streamFramer.HasCryptoStreamFrame = true ∧
      Returns (p.packCryptoPacket ParseIP now rand pth) (pk, p', pth')) ∨
    (p.streamFramer.HasCryptoStreamFrame = false ∧ ∃ len payloadFrames p₁,
      (p.getPublicHeader encLevel pth).GetLength p.perspective = .ok len ∧
      (p.stampStopWaiting (p.getPublicHeader encLevel pth) pth).nextPayload pop
        (MaxPacketSize - sealer.Overhead.toUInt64 - len) (p.canSendData encLevel) pth =
          .ok (payloadFrames, p₁) ∧
      ((pk = none ∧ p' = p₁ ∧ pth' = pth ∧
          (payloadFrames = [] ∨ (payloadFrames.length = 1 ∧ (p₁.stopWaiting pth.pathID).isSome))) ∨
        (payloadFrames ≠ [] ∧ ¬ (payloadFrames.length = 1 ∧ (p₁.stopWaiting pth.pathID).isSome) ∧
          ∃ raw, pk = some
              { number := (p.getPublicHeader encLevel pth).PacketNumber, raw,
                frames := payloadFrames, encryptionLevel := encLevel } ∧
            p' = { p₁ with stopWaiting := Function.update p₁.stopWaiting pth.pathID none,
                           ackFrame := Function.update p₁.ackFrame pth.pathID none } ∧
            Returns (p'.writeAndSealPacket ParseIP now rand (p.getPublicHeader encLevel pth)
              payloadFrames sealer pth) (raw, pth')))) := by
  unfold PackPacketWith at h
  split at h
  · rename_i hcrypto
    exact .inl ⟨hcrypto, by simpa using h⟩
  rename_i hcrypto
  refine .inr ⟨by simpa using hcrypto, ?_⟩
  simp only [hsealer] at h
  obtain ⟨len, hlen, h⟩ := returns_bind.1 h
  obtain ⟨⟨payloadFrames, p₁⟩, hpayload, h⟩ := returns_bind.1 h
  rw [returns_liftExcept] at hlen hpayload
  rw [canSendData_stampStopWaiting] at hpayload
  refine ⟨len, payloadFrames, p₁, hlen, hpayload, ?_⟩
  dsimp only at h
  -- the two ways to send nothing, then the packet
  split at h
  · rename_i hnil
    simp only [returns_pure, Prod.mk.injEq] at h
    obtain ⟨rfl, rfl, rfl⟩ := h
    exact .inl ⟨rfl, rfl, rfl, .inl (List.length_eq_zero_iff.1 hnil)⟩
  rename_i hnil
  split at h
  · rename_i hsw
    simp only [returns_pure, Prod.mk.injEq] at h
    obtain ⟨rfl, rfl, rfl⟩ := h
    exact .inl ⟨rfl, rfl, rfl, .inr hsw⟩
  rename_i hsw
  obtain ⟨⟨raw, pth₁⟩, hwrite, h⟩ := returns_bind.1 h
  simp only [returns_pure, Prod.mk.injEq] at h
  obtain ⟨rfl, rfl, rfl⟩ := h
  exact .inr ⟨fun h => hnil (by simp [h]), hsw, raw, rfl, rfl, hwrite⟩

/-- `PackPing` with a STOP_WAITING frame queued for the path sends nothing, and the ping is gone:
the queue is as it was before the call.  The ping goes alone, and one frame with a STOP_WAITING
frame queued counts as nothing to send. -/
theorem PackPing_stopWaiting_drops_ping {ids : List StreamID} {pf : PingFrame}
    (hcrypto : p.streamFramer.HasCryptoStreamFrame = false)
    (hsw : (p.stopWaiting pth.pathID).isSome) :
    ∃ p', Returns (p.PackPing ParseIP now rand ids pf pth)
        (none, p', pth.SetLeastUnacked pth.sentPacketHandler.GetLeastUnacked) ∧
      p'.controlFrames = p.controlFrames := by
  let pth₀ := pth.SetLeastUnacked pth.sentPacketHandler.GetLeastUnacked
  let p₀ : packetPacker := { p with controlFrames := Frame.ping pf :: p.controlFrames }
  let ph := p₀.getPublicHeader p.cryptoSetup.GetSealer.1 pth₀
  obtain ⟨len, hlen⟩ := GetLength_getPublicHeader p₀ p.cryptoSetup.GetSealer.1 pth₀
  refine ⟨{ p₀.stampStopWaiting ph pth₀ with controlFrames := p.controlFrames }, ?_, rfl⟩
  unfold PackPing PackPacket PackPacketWith
  rw [if_neg (by simpa using hcrypto)]
  unfold Returns
  rw [run_bind_of_returns (returns_liftExcept.2 hlen)]
  dsimp only
  rw [run_bind_of_returns (returns_liftExcept.2 (nextPayload_ping pf p.controlFrames (by simp)))]
  -- one frame, and a STOP_WAITING frame queued: nothing goes out
  rw [if_neg (by simp),
    if_pos ⟨rfl, by simp [stopWaiting_stampStopWaiting, hsw, path.SetLeastUnacked]⟩]
  rfl

theorem PackPing_stopWaiting_drops_ping_queued :
    (stopWaitingPacker.streamFramer.HasCryptoStreamFrame = false ∧
      (stopWaitingPacker.stopWaiting initialPath.pathID).isSome) ∧
    ∃ p', Returns (stopWaitingPacker.PackPing (fun _ => none) 0 none [] ⟨⟩ initialPath)
        (none, p', initialPath.SetLeastUnacked initialPath.sentPacketHandler.GetLeastUnacked) ∧
      p'.controlFrames = stopWaitingPacker.controlFrames := by
  have hcrypto : stopWaitingPacker.streamFramer.HasCryptoStreamFrame = false := rfl
  have hsw : (stopWaitingPacker.stopWaiting initialPath.pathID).isSome := rfl
  exact ⟨⟨hcrypto, hsw⟩, PackPing_stopWaiting_drops_ping hcrypto hsw⟩

/-- A packet `PackPacket…` sends with a ping at the head of the queue holds the ping alone, and
only goes out with no STOP_WAITING frame queued; the path's ACK frame slot is emptied all the
same, so an ACK frame queued for the path is dropped unsent. -/
theorem PackPacketWith_ping_clears_ack {pk : packedPacket} {pf : PingFrame} {rest : List Frame}
    (hcrypto : p.streamFramer.HasCryptoStreamFrame = false)
    (hq : p.controlFrames = .ping pf :: rest)
    (h : Returns (p.PackPacketWith ParseIP now rand pop pth) (some pk, p', pth')) :
    pk.frames = [.ping pf] ∧ p.stopWaiting pth.pathID = none ∧ p'.ackFrame pth.pathID = none ∧
      p'.controlFrames = rest := by
  rcases hsealer : p.cryptoSetup.GetSealer with ⟨encLevel, sealer⟩
  rcases PackPacketWith_cases hsealer h with ⟨hc, -⟩ |
    ⟨-, len, payloadFrames, p₁, -, hpayload, hsend⟩
  · rw [hcrypto] at hc
    cases hc
  rw [nextPayload_ping pf rest (by simp [hq])] at hpayload
  simp only [Except.ok.injEq, Prod.mk.injEq] at hpayload
  obtain ⟨rfl, rfl⟩ := hpayload
  rcases hsend with ⟨hnone, -⟩ | ⟨-, hsw, raw, hpk, rfl, -⟩
  · cases hnone
  simp only [Option.some.injEq] at hpk
  subst hpk
  -- the packet went out, so no STOP_WAITING frame was queued
  have hnone : p.stopWaiting pth.pathID = none := by
    simpa [stopWaiting_stampStopWaiting] using hsw
  exact ⟨rfl, hnone, by simp, rfl⟩

/-- The ACK frame queued before the ping does not go out, and its slot is empty after. -/
theorem PackPacketWith_ping_clears_ack_queued :
    ∃ pk p' pth',
      (pingAckPacker.streamFramer.HasCryptoStreamFrame = false ∧
        pingAckPacker.controlFrames = [.ping ⟨⟩] ∧
        Returns (pingAckPacker.PackPacketWith (fun _ => none) 0 none popNone initialPath)
          (some pk, p', pth')) ∧
      (pingAckPacker.ackFrame initialPath.pathID).isSome ∧
      pk.frames = [.ping ⟨⟩] ∧ pingAckPacker.stopWaiting initialPath.pathID = none ∧
      p'.ackFrame initialPath.pathID = none ∧ p'.controlFrames = [] := by
  obtain ⟨pk, p', pth', h⟩ : ∃ pk p' pth',
      Returns (pingAckPacker.PackPacketWith (fun _ => none) 0 none popNone initialPath)
        (some pk, p', pth') := ⟨_, _, _, rfl⟩
  have hcrypto : pingAckPacker.streamFramer.HasCryptoStreamFrame = false := rfl
  have hq : pingAckPacker.controlFrames = [.ping ⟨⟩] := rfl
  exact ⟨pk, p', pth', ⟨hcrypto, hq, h⟩, rfl, PackPacketWith_ping_clears_ack hcrypto hq h⟩

end Pack

end packetPacker

end PStream
