import PStream.Wire.AckRoundTrip
import PStream.Wire.RoundTrip

/-!
# The packet unpacker, against the packer's payloads

`packetUnpacker.Unpack` opens a packet with the AEAD and reads its frames one after another: a zero
byte is padding, and every other type byte names the parser of its frame by its bits (`1xxxxxxx` a
STREAM frame, `01xxxxxx` an ACK frame) or as a whole byte (0x01 to 0x07, and MP-QUIC's 0x10 to
0x12).  A parser's error is wrapped into a `qerr` error of the frame's code.  The packer writes a
payload as the `Write`s of its frames, one after another (`writeAndSealPacket`).

`Unpack_writeFrames` reads back a payload the packer writes: the frames come back in their order,
each as `Frame.received` says.  That needs of the frames what `Frame.Sendable` lists, that the
payload fit a packet, and that only the last frame may be a STREAM frame without a data length,
whose data is the rest of the packet.

The AEAD is an argument: `Open` is the decryption the unpacker calls, with its encryption level.
The loop of `Unpack` runs while bytes are left; `unpackLoop` runs it with one turn of fuel per
byte, and each turn reads at least one.
-/

set_option autoImplicit false

namespace PStream

open Wire Utils Utils.ByteOrder ExceptOption

/-! ## `qerr` errors -/

/-- The `qerr.ErrorCode`s the unpacker returns. -/
inductive ErrorCode where
  | InvalidFrameData
  | InvalidRstStreamData
  | InvalidConnectionCloseData
  | InvalidGoawayData
  | InvalidAckData
  | DecryptionFailure
  | InvalidStreamData
  | MissingPayload
  | InvalidWindowUpdateData
  | InvalidBlockedData
  | InvalidStopWaitingData
  | UnencryptedStreamData
  deriving DecidableEq, Repr

/-- `ErrorCode.String`, the generated name of each code. -/
def ErrorCode.String : ErrorCode → String
  | .InvalidFrameData => "InvalidFrameData"
  | .InvalidRstStreamData => "InvalidRstStreamData"
  | .InvalidConnectionCloseData => "InvalidConnectionCloseData"
  | .InvalidGoawayData => "InvalidGoawayData"
  | .InvalidAckData => "InvalidAckData"
  | .DecryptionFailure => "DecryptionFailure"
  | .InvalidStreamData => "InvalidStreamData"
  | .MissingPayload => "MissingPayload"
  | .InvalidWindowUpdateData => "InvalidWindowUpdateData"
  | .InvalidBlockedData => "InvalidBlockedData"
  | .InvalidStopWaitingData => "InvalidStopWaitingData"
  | .UnencryptedStreamData => "UnencryptedStreamData"

/-- `qerr.Error(code, message).Error()`. -/
def qerrError (code : ErrorCode) (message : String) : String :=
  code.String ++ ": " ++ message

/-- A parser whose error is wrapped as `qerr.Error(code, err.Error())`. -/
def wrapErr {α : Type} (code : ErrorCode) (p : Parser α) : Parser α := fun bs =>
  match p bs with
  | .error e => .error (qerrError code e)
  | .ok r => .ok r

theorem wrapErr_ok {α : Type} {code : ErrorCode} {p : Parser α} {bs rest : List UInt8} {a : α}
    (h : p bs = .ok (a, rest)) : wrapErr code p bs = .ok (a, rest) := by
  simp [wrapErr, h]

/-! ## Frames -/

/-- A `wire.Frame` of one of the types the packer sends. -/
inductive Frame where
  | ack (f : AckFrame)
  | stopWaiting (f : StopWaitingFrame)
  | rstStream (f : RstStreamFrame)
  | connectionClose (f : ConnectionCloseFrame)
  | goaway (f : GoawayFrame)
  | windowUpdate (f : WindowUpdateFrame)
  | blocked (f : BlockedFrame)
  | ping (f : PingFrame)
  | addAddress (f : AddAddressFrame)
  | closePath (f : ClosePathFrame)
  | paths (f : PathsFrame)
  | stream (f : StreamFrame)

/-- `frame.Write(b, version)`.  An ACK frame's is at time `now`, a PATHS frame's with the address
parser `ParseIP`. -/
def Frame.Write (ParseIP : String → Option IP) (version : VersionNumber) (now : Int) :
    Frame → ExceptT String Option (List UInt8)
  | .ack f => f.Write version now
  | .stopWaiting f => f.Write version
  | .rstStream f => pure (f.Write version)
  | .connectionClose f => liftM (f.Write version)
  | .goaway f => pure (f.Write version)
  | .windowUpdate f => pure (f.Write version)
  | .blocked f => pure (f.Write version)
  | .ping f => pure (f.Write version)
  | .addAddress f => liftM (f.Write version)
  | .closePath f => f.Write version
  | .paths f => f.Write ParseIP version
  | .stream f => f.Write version

/-- The loop of `writeAndSealPacket` over the payload: each frame's bytes after the last one's,
and the first error. -/
def writeFrames (ParseIP : String → Option IP) (version : VersionNumber) (now : Int) :
    List Frame → ExceptT String Option (List UInt8)
  | [] => pure []
  | f :: fs => do
    let bytes ← f.Write ParseIP version now
    let rest ← writeFrames ParseIP version now fs
    pure (bytes ++ rest)

/-! ## The unpacker -/

section Unpack

variable (version : VersionNumber) (packetNumber : PacketNumber)
  (packetNumberLen : PacketNumberLen) (encryptionLevel : EncryptionLevel)

/-- The body of the loop of `Unpack` for a frame whose type byte, not padding, is next: the
parser its bits name, its error wrapped in the frame's code. -/
def parseFrame (typeByte : UInt8) : Parser Frame :=
  if typeByte &&& 0x80 = 0x80 then do
    let frame ← wrapErr .InvalidStreamData (ParseStreamFrame version)
    if frame.StreamID ≠ 1 ∧ encryptionLevel.toNat ≤ EncryptionLevel.Unencrypted.toNat then
      throw (qerrError .UnencryptedStreamData
        ("received unencrypted stream data on stream " ++ toString frame.StreamID))
    pure (.stream frame)
  else if typeByte &&& 0xc0 = 0x40 then
    Frame.ack <$> wrapErr .InvalidAckData (ParseAckFrame version)
  else if typeByte &&& 0xe0 = 0x20 then throw "unimplemented: CONGESTION_FEEDBACK"
  else if typeByte = 0x01 then
    Frame.rstStream <$> wrapErr .InvalidRstStreamData (ParseRstStreamFrame version)
  else if typeByte = 0x02 then
    Frame.connectionClose <$>
      wrapErr .InvalidConnectionCloseData (ParseConnectionCloseFrame version)
  else if typeByte = 0x03 then
    Frame.goaway <$> wrapErr .InvalidGoawayData (ParseGoawayFrame version)
  else if typeByte = 0x04 then
    Frame.windowUpdate <$> wrapErr .InvalidWindowUpdateData (ParseWindowUpdateFrame version)
  else if typeByte = 0x05 then
    Frame.blocked <$> wrapErr .InvalidBlockedData (ParseBlockedFrame version)
  else if typeByte = 0x06 then
    Frame.stopWaiting <$> wrapErr .InvalidStopWaitingData
      (ParseStopWaitingFrame packetNumber packetNumberLen version)
  else if typeByte = 0x07 then Frame.ping <$> ParsePingFrame version
  else if typeByte = 0x10 then Frame.addAddress <$> ParseAddAddressFrame version
  else if typeByte = 0x11 then Frame.closePath <$> ParseClosePathFrame version
  else if typeByte = 0x12 then Frame.paths <$> ParsePathsFrame version
  else throw (qerrError .InvalidFrameData
    ("unknown type byte 0x" ++ String.ofList (Nat.toDigits 16 typeByte.toNat)))

/-- `for r.Len() > 0`, with one turn of fuel for each byte. -/
def unpackLoop : Nat → List UInt8 → Except String (List Frame)
  | 0, _ => .ok []
  | _ + 1, [] => .ok []
  | fuel + 1, typeByte :: rest =>
    if typeByte = 0x0 then unpackLoop fuel rest
    else match parseFrame version packetNumber packetNumberLen encryptionLevel typeByte
        (typeByte :: rest) with
      | .error e => .error e
      | .ok (frame, rest) => (frame :: ·) <$> unpackLoop fuel rest

end Unpack

/-- An `unpackedPacket`. -/
structure UnpackedPacket where
  encryptionLevel : EncryptionLevel
  frames : List Frame

/-- `packetUnpacker.Unpack`, with `Open` the AEAD's decryption of the payload for the packet
number and the public header. -/
def Unpack (version : VersionNumber)
    (Open : List UInt8 → PacketNumber → List UInt8 → Except String (List UInt8 × EncryptionLevel))
    (publicHeaderBinary : List UInt8) (packetNumber : PacketNumber)
    (packetNumberLen : PacketNumberLen) (data : List UInt8) : Except String UnpackedPacket :=
  match Open data packetNumber publicHeaderBinary with
  | .error e => .error (qerrError .DecryptionFailure e)
  | .ok (decrypted, encryptionLevel) =>
    if decrypted.length = 0 then .error ErrorCode.MissingPayload.String
    else match unpackLoop version packetNumber packetNumberLen encryptionLevel decrypted.length
        decrypted with
      | .error e => .error e
      | .ok frames => .ok { encryptionLevel, frames }

/-! ## What comes back -/

/-- What the unpacker gives back of a frame the packer wrote: an ACK and a CLOSE_PATH frame with
the ranges written, a STOP_WAITING frame with `LeastUnacked` from the packet number, an
ADD_ADDRESS frame with its address in 16-byte form, a PATHS frame with its RTTs rounded and its
addresses reformatted; any other frame as it was. -/
def Frame.received (ParseIP : String → Option IP) (now : Int) : Frame → Frame
  | .ack f => .ack (f.received now)
  | .stopWaiting f => .stopWaiting f.received
  | .addAddress f => .addAddress f.received
  | .closePath f => .closePath f.received
  | .paths f => .paths (f.received ParseIP)
  | f => f

/-- What the round trip needs of a frame the packer sends in the packet `packetNumber` of
length `packetNumberLen`, sealed at `encryptionLevel`: ranges the parsers accept, a STOP_WAITING
frame of this packet that acknowledges something, no more paths than the maximum, a STREAM
frame whose data does not end past 2^64 and, but for the crypto stream, is encrypted. -/
def Frame.Sendable (packetNumber : PacketNumber) (packetNumberLen : PacketNumberLen)
    (encryptionLevel : EncryptionLevel) : Frame → Prop
  | .ack f => RangesWellFormed f.LargestAcked f.LowestAcked f.AckRanges
  | .stopWaiting f =>
    f.PacketNumber = packetNumber ∧ f.PacketNumberLen = packetNumberLen ∧ 0 < f.LeastUnacked
  | .closePath f => RangesWellFormed f.LargestAcked f.LowestAcked f.AckRanges
  | .paths f => f.NumPaths ≤ f.MaxNumPaths
  | .stream f => f.Offset.toNat + f.Data.length < 2 ^ 64 ∧
    (f.StreamID ≠ 1 → EncryptionLevel.Unencrypted.toNat < encryptionLevel.toNat)
  | _ => True

/-- A STREAM frame without a data length, whose data is the rest of the packet. -/
def Frame.OpenEnded : Frame → Bool
  | .stream f => !f.DataLenPresent
  | _ => false

/-- A PATHS frame's bytes start with its type byte. -/
theorem PathsFrame.write_head {ParseIP : String → Option IP} {f : PathsFrame}
    {version : VersionNumber} {bs : List UInt8} (hw : Returns (f.Write ParseIP version) bs) :
    ∃ tail, bs = 0x12 :: tail := by
  unfold PathsFrame.Write at hw
  split_ifs at hw
  all_goals try exact absurd hw not_returns_throw
  obtain ⟨paths, -, hw⟩ := returns_bind.1 hw
  exact ⟨_, (returns_pure.1 hw).symm⟩

section RoundTrip

variable {ParseIP : String → Option IP} {version : VersionNumber} {now : Int}
  {packetNumber : PacketNumber} {packetNumberLen : PacketNumberLen}
  {encryptionLevel : EncryptionLevel}

/-- A frame type byte that is not a bit pattern of its own: the parser is the one of that byte. -/
theorem parseFrame_of_single {b : UInt8} (h80 : b &&& 0x80 = 0) (hc0 : b &&& 0xc0 = 0)
    (he0 : b &&& 0xe0 ≠ 0x20) :
    parseFrame version packetNumber packetNumberLen encryptionLevel b =
      if b = 0x01 then
        Frame.rstStream <$> wrapErr .InvalidRstStreamData (ParseRstStreamFrame version)
      else if b = 0x02 then
        Frame.connectionClose <$>
          wrapErr .InvalidConnectionCloseData (ParseConnectionCloseFrame version)
      else if b = 0x03 then
        Frame.goaway <$> wrapErr .InvalidGoawayData (ParseGoawayFrame version)
      else if b = 0x04 then
        Frame.windowUpdate <$> wrapErr .InvalidWindowUpdateData (ParseWindowUpdateFrame version)
      else if b = 0x05 then
        Frame.blocked <$> wrapErr .InvalidBlockedData (ParseBlockedFrame version)
      else if b = 0x06 then
        Frame.stopWaiting <$> wrapErr .InvalidStopWaitingData
          (ParseStopWaitingFrame packetNumber packetNumberLen version)
      else if b = 0x07 then Frame.ping <$> ParsePingFrame version
      else if b = 0x10 then Frame.addAddress <$> ParseAddAddressFrame version
      else if b = 0x11 then Frame.closePath <$> ParseClosePathFrame version
      else if b = 0x12 then Frame.paths <$> ParsePathsFrame version
      else throw (qerrError .InvalidFrameData
        ("unknown type byte 0x" ++ String.ofList (Nat.toDigits 16 b.toNat))) := by
  rw [parseFrame, if_neg (by rw [h80]; decide), if_neg (by rw [hc0]; decide), if_neg he0]

/-- Each frame the packer writes is read back by the parser its type byte names, which is not
padding. -/
theorem parseFrame_Write {fr : Frame} {bs : List UInt8}
    (hw : Returns (fr.Write ParseIP version now) bs)
    (hs : fr.Sendable packetNumber packetNumberLen encryptionLevel) (hlen : bs.length ≤ 1350)
    (rest : List UInt8) (hlast : fr.OpenEnded = true → rest = []) :
    ∃ typeByte tail, bs = typeByte :: tail ∧ typeByte ≠ 0 ∧
      parseFrame version packetNumber packetNumberLen encryptionLevel typeByte (bs ++ rest) =
        .ok (fr.received ParseIP now, rest) := by
  cases fr with
  | ack f =>
    have hround := ParseAckFrame_Write version now rest f hw hs
    obtain ⟨-, _, _, -, -, rfl⟩ := AckFrame.write_spec hw
    obtain ⟨h80, hc0, -⟩ := AckFrame.typeByte_decode f
    refine ⟨f.typeByte, _, rfl, fun h0 => by simp [h0] at hc0, ?_⟩
    rw [parseFrame, if_neg h80, if_pos hc0]
    exact Parser.map_ok (wrapErr_ok hround)
  | stream f =>
    obtain ⟨-, _, _, hbs, -, -⟩ := StreamFrame.write_spec hw
    obtain ⟨h80, -⟩ := StreamFrame.typeByte_decode f
    refine ⟨f.typeByte, _, hbs, fun h0 => by simp [h0] at h80, ?_⟩
    have hround := ParseStreamFrame_Write version rest f hw hlen hs.1
      (fun h => hlast (by simp [Frame.OpenEnded, h]))
    have henc : ¬ (f.StreamID ≠ 1 ∧
        encryptionLevel.toNat ≤ EncryptionLevel.Unencrypted.toNat) := fun h => by
      have := hs.2 h.1
      omega
    rw [parseFrame, if_pos h80, Parser.bind_ok (wrapErr_ok hround), if_neg henc]
    rfl
  | stopWaiting f =>
    have hround := ParseStopWaitingFrame_Write version rest f hw hs.2.2
    obtain ⟨-, _, rfl, -⟩ := StopWaitingFrame.write_spec hw
    obtain ⟨hpn, hpnl, -⟩ := hs
    refine ⟨0x06, _, rfl, by decide, ?_⟩
    have hsel : parseFrame version packetNumber packetNumberLen encryptionLevel 0x06 =
        Frame.stopWaiting <$> wrapErr .InvalidStopWaitingData
          (ParseStopWaitingFrame packetNumber packetNumberLen version) := by
      rw [parseFrame_of_single (by decide) (by decide) (by decide)]
      simp
    rw [hsel, ← hpn, ← hpnl]
    exact Parser.map_ok (wrapErr_ok hround)
  | rstStream f =>
    obtain rfl := returns_pure.mp hw
    refine ⟨0x01, _, rfl, by decide, ?_⟩
    rw [parseFrame_of_single (by decide) (by decide) (by decide), if_pos rfl]
    exact Parser.map_ok (wrapErr_ok (ParseRstStreamFrame_Write version rest f))
  | connectionClose f =>
    rw [Frame.Write, returns_liftExcept] at hw
    have hround := ParseConnectionCloseFrame_Write version rest f hw hlen
    unfold ConnectionCloseFrame.Write at hw
    split_ifs at hw
    cases hw
    refine ⟨0x02, _, rfl, by decide, ?_⟩
    have hsel : parseFrame version packetNumber packetNumberLen encryptionLevel 0x02 =
        Frame.connectionClose <$>
          wrapErr .InvalidConnectionCloseData (ParseConnectionCloseFrame version) := by
      rw [parseFrame_of_single (by decide) (by decide) (by decide)]
      simp
    rw [hsel]
    exact Parser.map_ok (wrapErr_ok hround)
  | goaway f =>
    obtain rfl := returns_pure.mp hw
    refine ⟨0x03, _, rfl, by decide, ?_⟩
    have hsel : parseFrame version packetNumber packetNumberLen encryptionLevel 0x03 =
        Frame.goaway <$> wrapErr .InvalidGoawayData (ParseGoawayFrame version) := by
      rw [parseFrame_of_single (by decide) (by decide) (by decide)]
      simp
    rw [hsel]
    exact Parser.map_ok (wrapErr_ok (ParseGoawayFrame_Write version rest f hlen))
  | windowUpdate f =>
    obtain rfl := returns_pure.mp hw
    refine ⟨0x04, _, rfl, by decide, ?_⟩
    have hsel : parseFrame version packetNumber packetNumberLen encryptionLevel 0x04 =
        Frame.windowUpdate <$>
          wrapErr .InvalidWindowUpdateData (ParseWindowUpdateFrame version) := by
      rw [parseFrame_of_single (by decide) (by decide) (by decide)]
      simp
    rw [hsel]
    exact Parser.map_ok (wrapErr_ok (ParseWindowUpdateFrame_Write version rest f))
  | blocked f =>
    obtain rfl := returns_pure.mp hw
    refine ⟨0x05, _, rfl, by decide, ?_⟩
    have hsel : parseFrame version packetNumber packetNumberLen encryptionLevel 0x05 =
        Frame.blocked <$> wrapErr .InvalidBlockedData (ParseBlockedFrame version) := by
      rw [parseFrame_of_single (by decide) (by decide) (by decide)]
      simp
    rw [hsel]
    exact Parser.map_ok (wrapErr_ok (ParseBlockedFrame_Write version rest f))
  | ping f =>
    obtain rfl := returns_pure.mp hw
    refine ⟨0x07, _, rfl, by decide, ?_⟩
    have hsel : parseFrame version packetNumber packetNumberLen encryptionLevel 0x07 =
        Frame.ping <$> ParsePingFrame version := by
      rw [parseFrame_of_single (by decide) (by decide) (by decide)]
      simp
    rw [hsel]
    exact Parser.map_ok (ParsePingFrame_Write version rest f)
  | addAddress f =>
    rw [Frame.Write, returns_liftExcept] at hw
    have hround := ParseAddAddressFrame_Write version rest f hw
    obtain ⟨_, rfl, -⟩ := AddAddressFrame.write_spec hw
    refine ⟨0x10, _, rfl, by decide, ?_⟩
    have hsel : parseFrame version packetNumber packetNumberLen encryptionLevel 0x10 =
        Frame.addAddress <$> ParseAddAddressFrame version := by
      rw [parseFrame_of_single (by decide) (by decide) (by decide)]
      simp
    rw [hsel]
    exact Parser.map_ok hround
  | closePath f =>
    have hround := ParseClosePathFrame_Write version rest f hw hs
    obtain ⟨-, _, _, -, -, rfl⟩ := ClosePathFrame.write_spec hw
    refine ⟨0x11, _, rfl, by decide, ?_⟩
    have hsel : parseFrame version packetNumber packetNumberLen encryptionLevel 0x11 =
        Frame.closePath <$> ParseClosePathFrame version := by
      rw [parseFrame_of_single (by decide) (by decide) (by decide)]
      simp
    rw [hsel]
    exact Parser.map_ok hround
  | paths f =>
    have hround := ParsePathsFrame_Write ParseIP version rest f hw hs
    obtain ⟨_, rfl⟩ := PathsFrame.write_head hw
    refine ⟨0x12, _, rfl, by decide, ?_⟩
    have hsel : parseFrame version packetNumber packetNumberLen encryptionLevel 0x12 =
        Frame.paths <$> ParsePathsFrame version := by
      rw [parseFrame_of_single (by decide) (by decide) (by decide)]
      simp
    rw [hsel]
    exact Parser.map_ok hround

/-- What `writeFrames` writes for a frame and the ones after it. -/
theorem writeFrames_cons_spec {f : Frame} {fs : List Frame} {bs : List UInt8}
    (hw : Returns (writeFrames ParseIP version now (f :: fs)) bs) :
    ∃ b bs', Returns (f.Write ParseIP version now) b ∧
      Returns (writeFrames ParseIP version now fs) bs' ∧ bs = b ++ bs' := by
  rw [writeFrames, returns_bind] at hw
  obtain ⟨b, hb, hw⟩ := hw
  rw [returns_bind] at hw
  obtain ⟨bs', hbs', hw⟩ := hw
  exact ⟨b, bs', hb, hbs', (returns_pure.mp hw).symm⟩

/-- The loop of `Unpack` reads back the frames of a payload the packer wrote, one turn for each
frame: the induction follows the frames, and each turn is `parseFrame_Write`. -/
theorem unpackLoop_writeFrames :
    ∀ (fs : List Frame) (bs : List UInt8), Returns (writeFrames ParseIP version now fs) bs →
      (∀ f ∈ fs, f.Sendable packetNumber packetNumberLen encryptionLevel) →
      (∀ f ∈ fs.dropLast, f.OpenEnded = false) → bs.length ≤ 1350 →
      fs.length ≤ bs.length ∧ ∀ fuel, fs.length ≤ fuel →
        unpackLoop version packetNumber packetNumberLen encryptionLevel fuel bs =
          .ok (fs.map (Frame.received ParseIP now))
  | [], bs, hw, _, _, _ => by
    obtain rfl := returns_pure.mp hw
    refine ⟨le_refl _, fun fuel _ => ?_⟩
    cases fuel <;> rfl
  | f :: fs, bs, hw, hs, hlast, hlen => by
    obtain ⟨b, bs', hb, hbs', rfl⟩ := writeFrames_cons_spec hw
    rw [List.length_append] at hlen
    -- only the last frame may take the rest of the packet
    have hopen : f.OpenEnded = true → bs' = [] := by
      intro h
      cases fs with
      | nil => exact returns_pure.mp hbs' |>.symm
      | cons g gs => simp [hlast f (by simp)] at h
    obtain ⟨tb, tail, rfl, h0, hparse⟩ :=
      parseFrame_Write hb (hs f List.mem_cons_self) (by omega) bs' hopen
    obtain ⟨hlen', ih⟩ := unpackLoop_writeFrames fs bs' hbs'
      (fun g hg => hs g (List.mem_cons_of_mem _ hg))
      (fun g hg => hlast g (by
        cases fs with
        | nil => simp at hg
        | cons _ _ => exact List.mem_cons_of_mem _ hg)) (by omega)
    refine ⟨by simp; omega, fun fuel hfuel => ?_⟩
    obtain ⟨k, rfl⟩ : ∃ k, fuel = k + 1 := ⟨fuel - 1, by simp at hfuel; omega⟩
    rw [List.cons_append] at hparse
    simp only [List.cons_append, unpackLoop, h0, if_false, hparse]
    rw [ih k (by simp at hfuel; omega)]
    rfl

/-- A payload of the packer's frames, opened by an AEAD that inverts the packer's `Seal`, unpacks
into its frames, in their order, each as `Frame.received` says. -/
theorem Unpack_writeFrames
    (Open : List UInt8 → PacketNumber → List UInt8 → Except String (List UInt8 × EncryptionLevel))
    (publicHeaderBinary data : List UInt8) (fs : List Frame) {payload : List UInt8}
    (hw : Returns (writeFrames ParseIP version now fs) payload)
    (hopen : Open data packetNumber publicHeaderBinary = .ok (payload, encryptionLevel))
    (hne : fs ≠ []) (hlen : payload.length ≤ 1350)
    (hs : ∀ f ∈ fs, f.Sendable packetNumber packetNumberLen encryptionLevel)
    (hlast : ∀ f ∈ fs.dropLast, f.OpenEnded = false) :
    Unpack version Open publicHeaderBinary packetNumber packetNumberLen data =
      .ok { encryptionLevel, frames := fs.map (Frame.received ParseIP now) } := by
  obtain ⟨hcount, hloop⟩ := unpackLoop_writeFrames fs payload hw hs hlast hlen
  have hpos : payload.length ≠ 0 := by
    have := List.length_pos_iff.mpr hne
    omega
  simp only [Unpack, hopen, hpos, if_false, hloop payload.length hcount]

/-- An ACK frame with two ranges, a PING frame and a STREAM frame that ends the packet, opened at
the forward-secure level. -/
theorem Unpack_writeFrames_ack_ping_stream :
    Unpack Protocol.VersionMP (fun d _ _ => .ok (d, .ForwardSecure)) [] 7 1
        [0x60, 20, 0, 0, 1, 6, 5, 7, 0, 0x07, 0xc0, 5, 104, 105] =
      .ok { encryptionLevel := .ForwardSecure,
            frames := [Frame.ack ⟨0, 20, 3, [⟨15, 20⟩, ⟨3, 9⟩], 0, 0⟩, .ping {},
              .stream ⟨5, true, false, 0, [104, 105]⟩].map (Frame.received (fun _ => none) 0) } :=
  @Unpack_writeFrames (fun _ => none) Protocol.VersionMP 0 7 1 .ForwardSecure
    (fun d _ _ => .ok (d, .ForwardSecure)) [] [0x60, 20, 0, 0, 1, 6, 5, 7, 0, 0x07, 0xc0, 5, 104, 105]
    [Frame.ack ⟨0, 20, 3, [⟨15, 20⟩, ⟨3, 9⟩], 0, 0⟩, .ping {},
      .stream ⟨5, true, false, 0, [104, 105]⟩]
    [0x60, 20, 0, 0, 1, 6, 5, 7, 0, 0x07, 0xc0, 5, 104, 105] (by rfl) rfl (by simp) (by decide)
    (by
      simp only [List.mem_cons, List.not_mem_nil, or_false, forall_eq_or_imp, forall_eq]
      exact ⟨⟨by decide, by decide, by decide, by decide, by decide⟩, trivial,
        by decide, fun _ => by decide⟩)
    (by simp [Frame.OpenEnded])

/-- Without the bound on LargestAcked the round trip fails: the 48-bit field drops the top bit of
2^48, the receiver reads LargestAcked 0 below LowestAcked and rejects the frame. -/
theorem Unpack_writeFrames_largestAcked_overflow :
    Returns (writeFrames (fun _ => none) Protocol.VersionMP 0 [.ack ⟨0, 2^48, 2^48, [], 0, 0⟩])
        [0x4c, 0, 0, 0, 0, 0, 0, 0, 0, 1, 0] ∧
      Unpack Protocol.VersionMP (fun d _ _ => .ok (d, .ForwardSecure)) [] 7 1
          [0x4c, 0, 0, 0, 0, 0, 0, 0, 0, 1, 0] =
        .error "InvalidAckData: AckFrame: ACK frame contains invalid ACK ranges" :=
  ⟨rfl, rfl⟩

end RoundTrip

end PStream
