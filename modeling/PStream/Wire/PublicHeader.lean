import PStream.Wire.Codec
import PStream.Lib.Monads

/-!
# The public header

Every packet starts with a public header: a byte of flags, then the fields the flags announce,
each present or not according to the flags and to who sends the packet.

| bits of the first byte | field that follows                                   |
| ---------------------- | ---------------------------------------------------- |
| `0x08` set             | the connection ID, 8 bytes, always little endian     |
| `0x01` set             | the version tag, 4 bytes, only in a client's packet  |
| `0x04` set             | the diversification nonce, 32 bytes, from a server   |
| `0x40` set             | the path ID of multipath QUIC, 1 byte                |
| `0x30`                 | the length of the packet number, 1, 2, 4 or 6 bytes  |

A reset packet (`0x02`) and a server's packet with the version flag, a version negotiation
packet, have no packet number; the latter lists the versions the server supports instead.
The packet number is written in the byte order of the session's version, and read in that of
the version the packet carries, if it carries one.

The round trip is the last section: a header that is neither a reset nor a version negotiation
packet, with its fields as the flags can announce them, is written, is as long as `GetLength`
says, and is parsed back, its packet number cut to its length.  The parser is cut into the
commented sections of the source, one lemma each, and the proof runs through them in order.  A
version travels as a tag of three decimal digits, `Q039`, so a version number outside
`0 ≤ v < 1000` does not come back; and a receiver that does not know the version yet,
`VersionUnknown`, refuses a packet that does not carry one.
-/

set_option autoImplicit false

namespace PStream

/-- `protocol.ConnectionID` is a `uint64`. -/
abbrev ConnectionID := UInt64

namespace Protocol

/-- The version a server knows for a packet of no session. -/
def VersionUnknown : VersionNumber := -2

/-- `VersionNumberToTag` maps the version 39 to the tag `Q039`: the hundreds, tens and ones of
the `uint32` of the version, as ASCII digits, in the three bytes above the `Q`. -/
def VersionNumberToTag (vn : VersionNumber) : UInt32 :=
  let v : UInt32 := UInt32.ofInt vn
  'Q'.val + ((v / 100 % 10 + '0'.val) <<< 8) + ((v / 10 % 10 + '0'.val) <<< 16) +
    ((v % 10 + '0'.val) <<< 24)

/-- `VersionTagToNumber`, in the `uint32` arithmetic of the source; the `VersionNumber` of a
`uint32` is its value. -/
def VersionTagToNumber (v : UInt32) : VersionNumber :=
  let hundreds : UInt32 := ((v >>> 8) &&& (0xff : UInt32)) - '0'.val
  let tens : UInt32 := ((v >>> 16) &&& (0xff : UInt32)) - '0'.val
  let ones : UInt32 := ((v >>> 24) &&& (0xff : UInt32)) - '0'.val
  (hundreds * 100 + tens * 10 + ones).toNat

theorem toNat_ofInt_of_lt {x : Int} (h0 : 0 ≤ x) (h1 : x < 2 ^ 32) :
    (UInt32.ofInt x).toNat = x.toNat := by
  rw [UInt32.ofInt, UInt32.toNat_ofNat', Int.emod_eq_of_lt h0 h1]
  omega

/-- The three digits of a tag come back from their bytes. -/
theorem tag_digits {a b c : UInt32} (ha : a.toNat < 10) (hb : b.toNat < 10) (hc : c.toNat < 10) :
    let t := 'Q'.val + ((a + '0'.val) <<< 8) + ((b + '0'.val) <<< 16) + ((c + '0'.val) <<< 24)
    ((t >>> 8) &&& (0xff : UInt32)) - '0'.val = a ∧ ((t >>> 16) &&& (0xff : UInt32)) - '0'.val = b ∧
      ((t >>> 24) &&& (0xff : UInt32)) - '0'.val = c := by
  have hQ : 'Q'.val.toNat = 81 := rfl
  have h0 : '0'.val.toNat = 48 := rfl
  have hmask : ∀ x : UInt32, (x &&& (0xff : UInt32)).toNat = x.toNat % 256 := fun x => by
    rw [UInt32.toNat_and]
    exact Nat.and_two_pow_sub_one_eq_mod x.toNat 8
  intro t
  -- each digit sits in a byte of its own, with nothing carried into the next
  refine ⟨?_, ?_, ?_⟩ <;> apply UInt32.toNat_inj.mp <;>
    simp only [t, UInt32.toNat_sub, hmask, UInt32.toNat_shiftRight, UInt32.toNat_shiftLeft,
      UInt32.toNat_add, hQ, h0, Nat.shiftLeft_eq, Nat.shiftRight_eq_div_pow, UInt32.reduceToNat,
      Nat.reduceMod, Nat.reducePow] <;> omega

/-- A version of at most three digits comes back from its tag. -/
theorem VersionTagToNumber_VersionNumberToTag {vn : Int} (h0 : 0 ≤ vn) (h1 : vn < 1000) :
    VersionTagToNumber (VersionNumberToTag vn) = vn := by
  have hv := toNat_ofInt_of_lt h0 (by omega)
  generalize hw : UInt32.ofInt vn = v at hv
  have hd : ∀ k : UInt32, k.toNat ≠ 0 → (v / k % 10).toNat < 10 := fun k _ => by
    rw [UInt32.toNat_mod, UInt32.toNat_div]
    exact Nat.mod_lt _ (by decide)
  obtain ⟨ha, hb, hc⟩ := tag_digits (hd 100 (by decide)) (hd 10 (by decide))
    (by rw [UInt32.toNat_mod]; exact Nat.mod_lt _ (by decide) : (v % 10).toNat < 10)
  simp only [VersionTagToNumber, VersionNumberToTag, hw, ha, hb, hc]
  simp only [UInt32.toNat_add, UInt32.toNat_mul, UInt32.toNat_div, UInt32.toNat_mod,
    UInt32.reduceToNat]
  -- the digits add up to the version, a natural number below 1000
  refine (congrArg (Nat.cast : Nat → Int) ?_).trans (Int.toNat_of_nonneg h0)
  have h : v.toNat < 1000 := by omega
  simp (disch := omega) only [Nat.mod_eq_of_lt]
  omega

example : VersionNumberToTag 39 = 0x39333051 := by decide
example : VersionTagToNumber (VersionNumberToTag 1000) = 0 := by decide

end Protocol

namespace Wire

open Protocol Utils Utils.ByteOrder ExceptOption

def ErrPacketWithUnknownVersion : String :=
  "PublicHeader: Received a packet without version number, that we don't know the version for"
def errResetAndVersionFlagSet : String :=
  "PublicHeader: Reset Flag and Version Flag should not be set at the same time"
def errReceivedTruncatedConnectionID : String :=
  "InvalidPacketHeader: receiving packets with truncated ConnectionID is not supported"
def errInvalidConnectionID : String := "InvalidPacketHeader: connection ID cannot be 0"
def errGetLengthNotForVersionNegotiation : String :=
  "PublicHeader: GetLength cannot be called for VersionNegotiation packets"
/-- The error `GetLength` shares with the STOP_WAITING frame. -/
def errPacketNumberLenNotSet : String := "StopWaitingFrame: PacketNumberLen not set"

/-- The public header of a packet, with the zero values of Go as defaults.  `Raw`, which the
callers fill in after parsing, is left out. -/
structure PublicHeader where
  ConnectionID : ConnectionID := 0
  PathID : PathID := 0
  VersionFlag : Bool := false
  ResetFlag : Bool := false
  TruncateConnectionID : Bool := false
  MultipathFlag : Bool := false
  PacketNumberLen : PacketNumberLen := 0
  PacketNumber : PacketNumber := 0
  /-- The version a client sends. -/
  VersionNumber : VersionNumber := 0
  /-- The versions a server sends. -/
  SupportedVersions : List PStream.VersionNumber := []
  DiversificationNonce : List UInt8 := []
  deriving DecidableEq, Repr

namespace PublicHeader

/-- Whether the header has a packet number: not a reset, and not a server's packet with the
version flag. -/
def hasPacketNumber (h : PublicHeader) (packetSentBy : Perspective) : Bool :=
  if h.ResetFlag then false
  else if h.VersionFlag ∧ packetSentBy = .server then false
  else true

/-- The byte of public flags `Write` builds. -/
def publicFlagByte (h : PublicHeader) (pers : Perspective) : UInt8 :=
  let b : UInt8 := 0x00
  let b := if h.VersionFlag then b ||| 0x01 else b
  let b := if h.ResetFlag then b ||| 0x02 else b
  let b := if !h.TruncateConnectionID then b ||| 0x08 else b
  let b := if h.DiversificationNonce.length > 0 then b ||| 0x04 else b
  -- the packet number length bits only if a packet number will be written
  let b := if h.hasPacketNumber pers then
      if h.PacketNumberLen = PacketNumberLen1 then b ||| 0x00
      else if h.PacketNumberLen = PacketNumberLen2 then b ||| 0x10
      else if h.PacketNumberLen = PacketNumberLen4 then b ||| 0x20
      else if h.PacketNumberLen = PacketNumberLen6 then b ||| 0x30
      else b
    else b
  if h.MultipathFlag then b ||| 0x40 else b

/-- The packet number in `PacketNumberLen` bytes, in the byte order of the version; six bytes
take the number cut to 48 bits. -/
def writePacketNumber (h : PublicHeader) (version : PStream.VersionNumber) :
    ExceptT String Option (List UInt8) :=
  let o := GetByteOrder version
  if h.PacketNumberLen = PacketNumberLen1 then pure [h.PacketNumber.toUInt8]
  else if h.PacketNumberLen = PacketNumberLen2 then pure (o.WriteUint16 h.PacketNumber.toUInt16)
  else if h.PacketNumberLen = PacketNumberLen4 then pure (o.WriteUint32 h.PacketNumber.toUInt32)
  else if h.PacketNumberLen = PacketNumberLen6 then
    (o.WriteUint48 (h.PacketNumber &&& (((1 : UInt64) <<< 48) - 1)) : Option _)
  else throw "PublicHeader: PacketNumberLen not set"

/-- `PublicHeader.Write`.  The last error comes after the rest of the header went into Go's
buffer, which the packer then drops with the packet. -/
def Write (h : PublicHeader) (version : PStream.VersionNumber) (pers : Perspective) :
    ExceptT String Option (List UInt8) := do
  if h.VersionFlag ∧ h.ResetFlag then throw errResetAndVersionFlagSet
  if h.DiversificationNonce.length > 0 ∧ h.DiversificationNonce.length ≠ 32 then
    throw "invalid diversification nonce length"
  let written := h.publicFlagByte pers ::
    ((if !h.TruncateConnectionID then littleEndian.WriteUint64 h.ConnectionID else []) ++
      (if h.VersionFlag ∧ pers = .client then
        littleEndian.WriteUint32 (VersionNumberToTag h.VersionNumber) else []) ++
      (if h.DiversificationNonce.length > 0 then h.DiversificationNonce else []) ++
      (if h.MultipathFlag then [h.PathID] else []))
  -- a server's packet with the version flag has nothing else
  if !h.hasPacketNumber pers then return written
  let packetNumber ← h.writePacketNumber version
  pure (written ++ packetNumber)

/-- `GetLength`, for every packet but a version negotiation. -/
def GetLength (h : PublicHeader) (pers : Perspective) : Except String ByteCount := do
  if h.VersionFlag ∧ h.ResetFlag then throw errResetAndVersionFlagSet
  if h.VersionFlag ∧ pers = .server then throw errGetLengthNotForVersionNegotiation
  let length : ByteCount := 1
  let length ← if h.hasPacketNumber pers then
      if h.PacketNumberLen ≠ PacketNumberLen1 ∧ h.PacketNumberLen ≠ PacketNumberLen2 ∧
          h.PacketNumberLen ≠ PacketNumberLen4 ∧ h.PacketNumberLen ≠ PacketNumberLen6 then
        throw errPacketNumberLenNotSet
      else pure (length + h.PacketNumberLen.toUInt64)
    else pure length
  let length := if !h.TruncateConnectionID then length + 8 else length
  -- the version number of a client's packet
  let length := if h.VersionFlag then length + 4 else length
  let length := length + h.DiversificationNonce.length.toUInt64
  pure (if h.MultipathFlag then length + 1 else length)

end PublicHeader

namespace PublicHeader

/-- The flags `Write` sets in a header with a packet number of one of the four lengths. -/
theorem publicFlagByte_decode {h : PublicHeader} {pers : Perspective} (hreset : h.ResetFlag = false)
    (hpn : h.hasPacketNumber pers = true)
    (hlen : h.PacketNumberLen = 1 ∨ h.PacketNumberLen = 2 ∨ h.PacketNumberLen = 4 ∨
      h.PacketNumberLen = 6) :
    let b := h.publicFlagByte pers
    decide (b &&& 0x02 > 0) = false ∧ decide (b &&& 0x01 > 0) = h.VersionFlag ∧
      decide (b &&& 0x08 = 0) = h.TruncateConnectionID ∧
      decide (b &&& 0x04 > 0) = decide (h.DiversificationNonce.length > 0) ∧
      decide (b &&& 0x40 > 0) = h.MultipathFlag ∧
      (b &&& 0x30 = 0x30 ↔ h.PacketNumberLen = 6) ∧ (b &&& 0x30 = 0x20 ↔ h.PacketNumberLen = 4) ∧
      (b &&& 0x30 = 0x10 ↔ h.PacketNumberLen = 2) ∧ (b &&& 0x30 = 0x00 ↔ h.PacketNumberLen = 1) := by
  -- each flag, each length: the byte is a constant
  rcases hlen with hl | hl | hl | hl <;>
    cases hv : h.VersionFlag <;> cases ht : h.TruncateConnectionID <;>
    cases hm : h.MultipathFlag <;> by_cases hn : h.DiversificationNonce.length > 0 <;>
    simp only [publicFlagByte, hreset, hpn, hv, ht, hm, hn, hl, PacketNumberLen1, PacketNumberLen2,
      PacketNumberLen4, PacketNumberLen6, if_true, if_false, Bool.not_true, Bool.not_false,
      Bool.false_eq_true, decide_true, decide_false] <;>
    decide

end PublicHeader

/-! ## Parsing -/

/-- The first byte: the flags, the check that a packet of an unknown version carries one, the
check that a client's connection ID is whole, and the packet number length. -/
def parsePublicFlags (packetSentBy : Perspective) (version : VersionNumber) (publicFlagByte : UInt8) :
    Except String PublicHeader := do
  let header : PublicHeader :=
    { ResetFlag := publicFlagByte &&& 0x02 > 0, VersionFlag := publicFlagByte &&& 0x01 > 0 }
  if version = VersionUnknown ∧ !(header.VersionFlag || header.ResetFlag) then
    throw ErrPacketWithUnknownVersion
  let header := { header with TruncateConnectionID := publicFlagByte &&& 0x08 = 0 }
  if header.TruncateConnectionID ∧ packetSentBy = .client then
    throw errReceivedTruncatedConnectionID
  let header := if header.hasPacketNumber packetSentBy then
      let bits := publicFlagByte &&& 0x30
      if bits = 0x30 then { header with PacketNumberLen := PacketNumberLen6 }
      else if bits = 0x20 then { header with PacketNumberLen := PacketNumberLen4 }
      else if bits = 0x10 then { header with PacketNumberLen := PacketNumberLen2 }
      else if bits = 0x00 then { header with PacketNumberLen := PacketNumberLen1 }
      else header
    else header
  pure { header with MultipathFlag := publicFlagByte &&& 0x40 > 0 }

/-- The connection ID, always little endian, which may not be 0. -/
def parseConnectionID (header : PublicHeader) : Parser PublicHeader :=
  if !header.TruncateConnectionID then do
    let connID ← littleEndian.ReadUint64
    let header := { header with ConnectionID := connID }
    if header.ConnectionID = 0 then throw errInvalidConnectionID
    pure header
  else pure header

/-- The nonce of a server's packet; one with the version or the reset flag has none, whatever
its flags say. -/
def parseDiversificationNonce (packetSentBy : Perspective) (publicFlagByte : UInt8)
    (header : PublicHeader) : Parser PublicHeader :=
  if packetSentBy = .server ∧ publicFlagByte &&& 0x04 > 0 then
    if !header.VersionFlag ∧ !header.ResetFlag then do
      let nonce ← ReadFull 32
      pure { header with DiversificationNonce := nonce }
    else pure header
  else pure header

/-- The loop of a version negotiation packet: version tags, until a read fails.  Each pass reads
four bytes, so `fuel`, one pass per byte left and one more, is never what stops it. -/
def supportedVersionsLoop : Nat → List VersionNumber → Parser (List VersionNumber)
  | 0, versions => pure versions
  | fuel + 1, versions => fun bs =>
    match littleEndian.ReadUint32 bs with
    | .ok (versionTag, bs') =>
      supportedVersionsLoop fuel (versions ++ [VersionTagToNumber versionTag]) bs'
    | .error _ => .ok (versions, bs)

/-- The versions of a version negotiation packet, four bytes each. -/
def parseSupportedVersions (header : PublicHeader) : Parser PublicHeader := do
  let n ← ReadLen
  if n % 4 ≠ 0 then throw "InvalidVersionNegotiationPacket"
  let versions ← supportedVersionsLoop (n + 1) []
  pure { header with SupportedVersions := versions }

/-- The version of a client's packet, which has the version flag and not the reset flag. -/
def parseVersionNumber (header : PublicHeader) : Parser PublicHeader :=
  if !header.ResetFlag ∧ header.VersionFlag then do
    let versionTag ← littleEndian.ReadUint32
    pure { header with VersionNumber := VersionTagToNumber versionTag }
  else pure header

def parsePathID (header : PublicHeader) : Parser PublicHeader :=
  if header.MultipathFlag then do
    let pathID ← ReadByte
    pure { header with PathID := pathID }
  else pure { header with PathID := 0 }

def parsePacketNumber (packetSentBy : Perspective) (version : VersionNumber)
    (header : PublicHeader) : Parser PublicHeader :=
  if header.hasPacketNumber packetSentBy then do
    let packetNumber ← (GetByteOrder version).ReadUintN header.PacketNumberLen
    pure { header with PacketNumber := packetNumber }
  else pure header

/-- `ParsePublicHeader`, for a packet the peer `packetSentBy` sent in a session of the version
`version`; its steps are the commented sections of the source. -/
def ParsePublicHeader (packetSentBy : Perspective) (version : VersionNumber) :
    Parser PublicHeader := do
  let publicFlagByte ← ReadByte
  let header ← StateT.lift (parsePublicFlags packetSentBy version publicFlagByte)
  let header ← parseConnectionID header
  let header ← parseDiversificationNonce packetSentBy publicFlagByte header
  if !header.ResetFlag ∧ header.VersionFlag ∧ packetSentBy = .server then
    -- a version negotiation packet, which has no packet number
    parseSupportedVersions header
  else
  let header ← parseVersionNumber header
  -- a client's packet number is read in the version it sends
  let version := if !header.ResetFlag ∧ header.VersionFlag then header.VersionNumber else version
  let header ← parsePathID header
  parsePacketNumber packetSentBy version header

/-- `PeekConnectionID`: the connection ID, with the input left as it was. -/
def PeekConnectionID (packetSentBy : Perspective) : Parser ConnectionID := fun b => do
  let (publicFlagByte, rest) ← ReadByte b
  let truncateConnectionID := publicFlagByte &&& 0x08 = 0
  if truncateConnectionID ∧ packetSentBy = .client then throw errReceivedTruncatedConnectionID
  if !truncateConnectionID then
    let (connID, _) ← littleEndian.ReadUint64 rest
    pure (connID, b)
  else pure (0, b)

/-! ## The round trip -/

section RoundTrip

variable {h : PublicHeader} {pers : Perspective}

/-- The flags of a header that has a packet number of one of the four lengths come back from its
first byte, and pass the checks on them. -/
theorem parsePublicFlags_publicFlagByte {version : VersionNumber} (hreset : h.ResetFlag = false)
    (hpn : h.hasPacketNumber pers = true)
    (hlen : h.PacketNumberLen = 1 ∨ h.PacketNumberLen = 2 ∨ h.PacketNumberLen = 4 ∨
      h.PacketNumberLen = 6)
    (hclient : pers = .client → h.TruncateConnectionID = false)
    (hknown : h.VersionFlag = false → version ≠ VersionUnknown) :
    parsePublicFlags pers version (h.publicFlagByte pers) =
      .ok { VersionFlag := h.VersionFlag, TruncateConnectionID := h.TruncateConnectionID,
            MultipathFlag := h.MultipathFlag, PacketNumberLen := h.PacketNumberLen } := by
  obtain ⟨hr, hv, ht, -, hm, h6, h4, h2, h1⟩ := PublicHeader.publicFlagByte_decode hreset hpn hlen
  have hvs : ¬ (h.VersionFlag = true ∧ pers = .server) := fun ⟨hvf, hs⟩ => by
    simp [PublicHeader.hasPacketNumber, hreset, hvf, hs] at hpn
  -- the first check: a packet of an unknown version must carry one
  have hcheck1 : ¬ (version = VersionUnknown ∧ (!(h.VersionFlag || false)) = true) := by
    cases hvf : h.VersionFlag
    · exact fun hc => hknown hvf hc.1
    · simp
  -- the second: a client's connection ID is whole
  have hcheck2 : ¬ (h.TruncateConnectionID = true ∧ pers = .client) :=
    fun hc => by simp [hclient hc.2] at hc
  simp only [parsePublicFlags, hr, hv, ht, hm, PublicHeader.hasPacketNumber, hvs, hcheck1,
    hcheck2, Bool.false_eq_true, if_false, if_true]
  rcases hlen with hl | hl | hl | hl <;> simp [h6, h4, h2, h1, hl, PacketNumberLen1,
    PacketNumberLen2, PacketNumberLen4, PacketNumberLen6] <;> rfl

/-! ### The fields, one step of the parser each -/

theorem lift_ok {α : Type} (a : α) (s : List UInt8) :
    (StateT.lift (Except.ok a : Except String α) : Parser α) s = .ok (a, s) := rfl

/-- A connection ID that is not truncated comes back, and passes the check that it is not 0. -/
theorem parseConnectionID_written {hdr : PublicHeader} {t : Bool} (ht : hdr.TruncateConnectionID = t)
    (hc0 : hdr.ConnectionID = 0) {c : ConnectionID} (hc : t = false → c ≠ 0) (rest : List UInt8) :
    parseConnectionID hdr ((if !t then littleEndian.WriteUint64 c else []) ++ rest) =
      .ok ({ hdr with ConnectionID := if t then 0 else c }, rest) := by
  obtain ⟨c0, p, v, r, tr, m, l, n, vn, sv, dn⟩ := hdr
  simp only at ht hc0
  subst ht hc0
  cases tr
  · simp only [parseConnectionID, Bool.not_false, if_true]
    rw [Parser.bind_ok (ReadUint64_WriteUint64 _ _ _)]
    simp [hc rfl]
  · rfl

/-- The nonce of a server's packet comes back whole. -/
theorem parseDiversificationNonce_written {hdr : PublicHeader} {flag : UInt8} {nonce : List UInt8}
    (hflag : decide (flag &&& 0x04 > 0) = decide (nonce.length > 0))
    (hn0 : hdr.DiversificationNonce = [])
    (hnonce : nonce = [] ∨
      pers = .server ∧ hdr.VersionFlag = false ∧ hdr.ResetFlag = false ∧ nonce.length = 32)
    (rest : List UInt8) :
    parseDiversificationNonce pers flag hdr ((if nonce.length > 0 then nonce else []) ++ rest) =
      .ok ({ hdr with DiversificationNonce := nonce }, rest) := by
  obtain ⟨c0, p, v, r, tr, m, l, n, vn, sv, dn⟩ := hdr
  simp only at hn0 hnonce
  subst hn0
  rcases hnonce with rfl | ⟨hs, hv, hr, hl⟩
  · -- no nonce: its flag is clear
    have hclear : ¬ flag &&& 0x04 > 0 := by simpa using hflag
    simp [parseDiversificationNonce, hclear]
  · have hset : flag &&& 0x04 > 0 := by simpa [hl] using hflag
    have hread : ReadFull 32 (nonce ++ rest) = .ok (nonce, rest) := hl ▸ ReadFull_append nonce rest
    subst hs hv hr
    simp only [parseDiversificationNonce, hset, hl, and_self, if_true, Bool.not_false,
      show (32 : Nat) > 0 by decide]
    rw [Parser.bind_ok hread]
    rfl

/-- The version a client writes comes back when it has at most three digits. -/
theorem parseVersionNumber_written {hdr : PublicHeader} {v : Bool} (hv : hdr.VersionFlag = v)
    (hr : hdr.ResetFlag = false) (hv0 : hdr.VersionNumber = 0) {vn : VersionNumber}
    (hvn : v = true → pers = .client ∧ 0 ≤ vn ∧ vn < 1000) (rest : List UInt8) :
    parseVersionNumber hdr
        ((if v = true ∧ pers = .client then littleEndian.WriteUint32 (VersionNumberToTag vn)
          else []) ++ rest) =
      .ok ({ hdr with VersionNumber := if v then vn else 0 }, rest) := by
  obtain ⟨c0, p, vf, r, tr, m, l, n, vn0, sv, dn⟩ := hdr
  simp only at hv hr hv0
  subst hv hr hv0
  cases vf
  · rfl
  · obtain ⟨hc, h0, h1⟩ := hvn rfl
    subst hc
    simp only [parseVersionNumber, Bool.not_false, and_self, if_true]
    rw [Parser.bind_ok (ReadUint32_WriteUint32 _ _ _),
      VersionTagToNumber_VersionNumberToTag h0 h1]
    rfl

/-- The path ID of a multipath packet comes back; any other packet is on path 0. -/
theorem parsePathID_written {hdr : PublicHeader} {m : Bool} (hm : hdr.MultipathFlag = m)
    (p : PathID) (rest : List UInt8) :
    parsePathID hdr ((if m then [p] else []) ++ rest) =
      .ok ({ hdr with PathID := if m then p else 0 }, rest) := by
  cases m
  · simp only [parsePathID, hm, Bool.false_eq_true, if_false, List.nil_append]
    rfl
  · simp only [parsePathID, hm, if_true, List.singleton_append]
    rw [Parser.bind_ok (ReadByte_cons _ _)]
    rfl

theorem parsePacketNumber_written {hdr : PublicHeader} {version : VersionNumber}
    {pn rest : List UInt8} {x : PacketNumber} (hpn : hdr.hasPacketNumber pers = true)
    (hread : (GetByteOrder version).ReadUintN hdr.PacketNumberLen (pn ++ rest) = .ok (x, rest)) :
    parsePacketNumber pers version hdr (pn ++ rest) = .ok ({ hdr with PacketNumber := x }, rest) := by
  simp only [parsePacketNumber, hpn, if_true]
  rw [Parser.bind_ok hread]
  rfl

/-- The packet number goes out in `PacketNumberLen` bytes, which `ReadUintN` reads back modulo
their width. -/
theorem writePacketNumber_spec
    (hlen : h.PacketNumberLen = 1 ∨ h.PacketNumberLen = 2 ∨ h.PacketNumberLen = 4 ∨
      h.PacketNumberLen = 6) (version : VersionNumber) :
    ∃ pn, Returns (h.writePacketNumber version) pn ∧ pn.length = h.PacketNumberLen.toNat ∧
      ∀ rest, (GetByteOrder version).ReadUintN h.PacketNumberLen (pn ++ rest) =
        .ok (UInt64.ofNat (h.PacketNumber.toNat % 2 ^ (8 * h.PacketNumberLen.toNat)), rest) := by
  rcases hlen with hl | hl | hl | hl <;> rw [hl]
  · refine ⟨[h.PacketNumber.toUInt8], by simp [PublicHeader.writePacketNumber, hl,
      PacketNumberLen1, Returns], rfl, fun rest => ReadUintN_one _ _ rest⟩
  · refine ⟨_, by simp [PublicHeader.writePacketNumber, hl, PacketNumberLen1, PacketNumberLen2,
      Returns], by simp, fun rest => ReadUintN_WriteUint16 _ _ rest⟩
  · refine ⟨_, by simp [PublicHeader.writePacketNumber, hl, PacketNumberLen1, PacketNumberLen2,
      PacketNumberLen4, Returns], by simp, fun rest => ReadUintN_WriteUint32 _ _ rest⟩
  · -- six bytes: the number cut to 48 bits, which is what the reader gets back
    have hcut := toNat_and_mask48 h.PacketNumber
    have hfits : (h.PacketNumber &&& (((1 : UInt64) <<< 48) - 1)).toNat < 2 ^ 48 := by
      rw [hcut]
      exact Nat.mod_lt _ (by decide)
    have h48 := WriteUint48_eq_some (o := GetByteOrder version) hfits
    refine ⟨(GetByteOrder version).putBytes 6 (h.PacketNumber &&& (((1 : UInt64) <<< 48) - 1)), ?_,
      by simp, fun rest => ?_⟩
    · simp only [PublicHeader.writePacketNumber, hl, PacketNumberLen1, PacketNumberLen2,
        PacketNumberLen4, PacketNumberLen6]
      exact returns_liftOption.2 h48
    · rw [ReadUintN_WriteUint48 _ h48 rest]
      congr
      apply UInt64.toNat_inj.mp
      rw [hcut, UInt64.toNat_ofNat', show (6 : UInt8).toNat = 6 from rfl]
      omega

/-! ### The header -/

/-- A header that is not a reset and has a packet number, with a nonce of 32 bytes or none, is
written: its flags, the fields they announce, and its packet number. -/
theorem Write_returns {version : VersionNumber} (hreset : h.ResetFlag = false)
    (hpn : h.hasPacketNumber pers = true)
    (hnonce : h.DiversificationNonce = [] ∨ h.DiversificationNonce.length = 32)
    {pn : List UInt8} (hw : Returns (h.writePacketNumber version) pn) :
    Returns (h.Write version pers) (h.publicFlagByte pers ::
      ((if !h.TruncateConnectionID then littleEndian.WriteUint64 h.ConnectionID else []) ++
        (if h.VersionFlag ∧ pers = .client then
          littleEndian.WriteUint32 (VersionNumberToTag h.VersionNumber) else []) ++
        (if h.DiversificationNonce.length > 0 then h.DiversificationNonce else []) ++
        (if h.MultipathFlag then [h.PathID] else [])) ++ pn) := by
  have hcheck1 : ¬ (h.VersionFlag = true ∧ h.ResetFlag = true) := by simp [hreset]
  have hcheck2 : ¬ (h.DiversificationNonce.length > 0 ∧ h.DiversificationNonce.length ≠ 32) := by
    rcases hnonce with hn | hn <;> simp [hn]
  simp only [PublicHeader.Write, hcheck1, hcheck2, hpn, if_false, Bool.not_true,
    Bool.false_eq_true]
  exact returns_bind.2 ⟨pn, hw, returns_pure.2 rfl⟩

/-- `GetLength` counts what `Write` puts out: the flags, the packet number, and each field the
flags announce. -/
theorem toNat_GetLength (hreset : h.ResetFlag = false)
    (hvs : ¬ (h.VersionFlag = true ∧ pers = .server))
    (hlen : h.PacketNumberLen = 1 ∨ h.PacketNumberLen = 2 ∨ h.PacketNumberLen = 4 ∨
      h.PacketNumberLen = 6) (hnonce : h.DiversificationNonce.length ≤ 32) :
    ∃ l, h.GetLength pers = .ok l ∧ l.toNat = 1 + h.PacketNumberLen.toNat +
      (if h.TruncateConnectionID then 0 else 8) + (if h.VersionFlag then 4 else 0) +
      h.DiversificationNonce.length + (if h.MultipathFlag then 1 else 0) := by
  have hpn : h.hasPacketNumber pers = true := by
    simp [PublicHeader.hasPacketNumber, hreset, hvs]
  have hcheck : ¬ (h.PacketNumberLen ≠ PacketNumberLen1 ∧ h.PacketNumberLen ≠ PacketNumberLen2 ∧
      h.PacketNumberLen ≠ PacketNumberLen4 ∧ h.PacketNumberLen ≠ PacketNumberLen6) := by
    rcases hlen with hl | hl | hl | hl <;> simp [hl, PacketNumberLen1, PacketNumberLen2,
      PacketNumberLen4, PacketNumberLen6]
  have hl6 : h.PacketNumberLen.toNat ≤ 6 := by
    rcases hlen with hl | hl | hl | hl <;> rw [hl] <;> decide
  simp only [PublicHeader.GetLength, hreset, hvs, hpn, hcheck, Bool.false_eq_true, and_false,
    if_false, if_true]
  refine ⟨_, rfl, ?_⟩
  -- every sum is far below `2 ^ 64`
  cases h.TruncateConnectionID <;> cases h.VersionFlag <;> cases h.MultipathFlag <;>
    simp [UInt64.toNat_add, UInt8.toNat_toUInt64] <;> omega

/-- What `ParsePublicHeader` recovers from a header `Write` wrote: the flags and the fields they
announce, the packet number cut to its length; a field that is not there is zero. -/
def PublicHeader.received (h : PublicHeader) : PublicHeader where
  ConnectionID := if h.TruncateConnectionID then 0 else h.ConnectionID
  PathID := if h.MultipathFlag then h.PathID else 0
  VersionFlag := h.VersionFlag
  TruncateConnectionID := h.TruncateConnectionID
  MultipathFlag := h.MultipathFlag
  PacketNumberLen := h.PacketNumberLen
  PacketNumber := UInt64.ofNat (h.PacketNumber.toNat % 2 ^ (8 * h.PacketNumberLen.toNat))
  VersionNumber := if h.VersionFlag then h.VersionNumber else 0
  DiversificationNonce := h.DiversificationNonce

/-- A header that is neither a reset nor a version negotiation packet, with a packet number of
one of the four lengths, a connection ID that is not 0 and is whole in a client's packet, a nonce
of 32 bytes in a server's packet or none, and the version of the session, of at most three
digits, if it has the version flag, is written, is as long as `GetLength` says, and is parsed
back.  The parser needs the version of the session, or one of the same byte order, only for a
packet without the version flag, and it may not be `VersionUnknown` then. -/
theorem ParsePublicHeader_Write {version version' : VersionNumber}
    (hreset : h.ResetFlag = false) (hnvn : ¬ (h.VersionFlag = true ∧ pers = .server))
    (hlen : h.PacketNumberLen = 1 ∨ h.PacketNumberLen = 2 ∨ h.PacketNumberLen = 4 ∨
      h.PacketNumberLen = 6)
    (hconn : h.TruncateConnectionID = false → h.ConnectionID ≠ 0)
    (hclient : pers = .client → h.TruncateConnectionID = false)
    (hnonce : h.DiversificationNonce = [] ∨ pers = .server ∧ h.DiversificationNonce.length = 32)
    (hversion : h.VersionFlag = true → h.VersionNumber = version ∧ 0 ≤ version ∧ version < 1000)
    (hparse : h.VersionFlag = false →
      version' ≠ VersionUnknown ∧ GetByteOrder version' = GetByteOrder version) :
    ∃ bs, Returns (h.Write version pers) bs ∧ h.GetLength pers = .ok bs.length.toUInt64 ∧
      ∀ rest, ParsePublicHeader pers version' (bs ++ rest) = .ok (h.received, rest) := by
  have hpn : h.hasPacketNumber pers = true := by
    simp [PublicHeader.hasPacketNumber, hreset, hnvn]
  obtain ⟨pn, hpnw, hpnlen, hpnread⟩ := writePacketNumber_spec hlen version
  refine ⟨_, Write_returns hreset hpn (hnonce.imp_right And.right) hpnw, ?_, fun rest => ?_⟩
  · have hnonce32 : h.DiversificationNonce.length ≤ 32 := by
      rcases hnonce with hn0 | ⟨-, hl⟩ <;> simp [*]
    obtain ⟨l, hl, hltoNat⟩ := toNat_GetLength hreset hnvn hlen hnonce32
    rw [hl]
    congr 1
    apply UInt64.toNat_inj.mp
    rw [hltoNat, Nat.toUInt64_eq, UInt64.toNat_ofNat']
    -- field by field; a server's packet has no version, so four bytes go with the flag alone
    have e1 : (if (!h.TruncateConnectionID) = true then littleEndian.WriteUint64 h.ConnectionID
        else []).length = if h.TruncateConnectionID then 0 else 8 := by
      cases h.TruncateConnectionID <;> simp
    have e2 : (if h.VersionFlag = true ∧ pers = .client then
        littleEndian.WriteUint32 (VersionNumberToTag h.VersionNumber) else []).length =
        if h.VersionFlag then 4 else 0 := by
      cases hv : h.VersionFlag
      · simp
      · cases pers
        · exact absurd ⟨hv, rfl⟩ hnvn
        · simp
    have e3 : (if h.DiversificationNonce.length > 0 then h.DiversificationNonce else []).length =
        h.DiversificationNonce.length := by
      split_ifs with hpos
      · rfl
      · simp only [List.length_nil]
        omega
    have e4 : (if h.MultipathFlag = true then [h.PathID] else []).length =
        if h.MultipathFlag then 1 else 0 := by
      cases h.MultipathFlag <;> simp
    have hl6 : h.PacketNumberLen.toNat ≤ 6 := by
      rcases hlen with hl | hl | hl | hl <;> rw [hl] <;> decide
    simp only [List.length_cons, List.length_append, e1, e2, e3, e4, hpnlen]
    split_ifs <;> omega
  · obtain ⟨-, -, -, hn, -⟩ := PublicHeader.publicFlagByte_decode hreset hpn hlen
    have hflags := parsePublicFlags_publicFlagByte hreset hpn hlen hclient
      (fun hv => (hparse hv).1)
    simp only [List.cons_append, List.append_assoc]
    rw [ParsePublicHeader, Parser.bind_ok (ReadByte_cons _ _)]
    dsimp only
    rw [hflags, Parser.bind_ok (lift_ok _ _),
      Parser.bind_ok (parseConnectionID_written (t := h.TruncateConnectionID) ?_ ?_ hconn _)]
    rotate_left
    · rfl
    · rfl
    dsimp only
    -- a server's packet has no version and a client's no nonce, so the two read in either order
    have hswap : ∀ x : List UInt8,
        (if h.VersionFlag = true ∧ pers = .client then
          littleEndian.WriteUint32 (VersionNumberToTag h.VersionNumber) else []) ++
          ((if h.DiversificationNonce.length > 0 then h.DiversificationNonce else []) ++ x) =
        (if h.DiversificationNonce.length > 0 then h.DiversificationNonce else []) ++
          ((if h.VersionFlag = true ∧ pers = .client then
            littleEndian.WriteUint32 (VersionNumberToTag h.VersionNumber) else []) ++ x) := by
      intro x
      rcases hnonce with hn0 | ⟨hs, -⟩
      · simp [hn0]
      · simp [hs]
    rw [hswap, Parser.bind_ok (parseDiversificationNonce_written hn ?_ ?_ _)]
    rotate_left
    · rfl
    · rcases hnonce with hn0 | ⟨hs, hl⟩
      · exact .inl hn0
      · exact .inr ⟨hs, by simpa [hs] using hnvn, rfl, hl⟩
    dsimp only
    -- not a version negotiation packet
    rw [if_neg (by simpa using hnvn)]
    have hvn : h.VersionFlag = true → pers = .client ∧ 0 ≤ h.VersionNumber ∧ h.VersionNumber < 1000 :=
      fun hv => by
        obtain ⟨hvv, h0, h1⟩ := hversion hv
        cases pers
        · exact absurd ⟨hv, rfl⟩ hnvn
        · exact ⟨rfl, hvv ▸ h0, hvv ▸ h1⟩
    rw [Parser.bind_ok (parseVersionNumber_written (v := h.VersionFlag) ?_ ?_ ?_ hvn _)]
    rotate_left
    · rfl
    · rfl
    · rfl
    dsimp only
    rw [Parser.bind_ok (parsePathID_written (m := h.MultipathFlag) ?_ _ _)]
    rotate_left
    · rfl
    dsimp only
    -- the packet number is read in the byte order it was written in
    generalize hX : (if (!false) = true ∧ h.VersionFlag = true then
      (if h.VersionFlag = true then h.VersionNumber else 0) else version') = X
    have horder : GetByteOrder X = GetByteOrder version := by
      subst hX
      cases hv : h.VersionFlag
      · simp [(hparse hv).2]
      · simp [(hversion hv).1]
    have hread := hpnread rest
    rw [← horder] at hread
    rw [parsePacketNumber_written ?_ ?_]
    · rfl
    · simpa [PublicHeader.hasPacketNumber, hreset] using hpn
    · exact hread

end RoundTrip

/-- A client's packet of version 1000 on connection 1, with packet number 1 in one byte. -/
def version1000Header : PublicHeader :=
  { ConnectionID := 1, VersionFlag := true, PacketNumberLen := 1, PacketNumber := 1,
    VersionNumber := 1000 }

/-- A client's packet without the version, on connection 1, with packet number 1 in one byte. -/
def noVersionHeader : PublicHeader :=
  { ConnectionID := 1, PacketNumberLen := 1, PacketNumber := 1 }

/-- Two headers the round trip leaves out.  A client's header of version 1000 is written with
the tag `Q000`, and comes back as version 0; a header without the version flag, written in a
session whose version is `VersionUnknown`, is refused when parsed in it. -/
theorem ParsePublicHeader_Write_outside :
    (Returns (version1000Header.Write 1000 .client)
        [0x09, 1, 0, 0, 0, 0, 0, 0, 0, 0x51, 0x30, 0x30, 0x30, 1] ∧
      (ParsePublicHeader .client 1000
        [0x09, 1, 0, 0, 0, 0, 0, 0, 0, 0x51, 0x30, 0x30, 0x30, 1]).map (·.1.VersionNumber) = .ok 0) ∧
    (Returns (noVersionHeader.Write VersionUnknown .client) [0x08, 1, 0, 0, 0, 0, 0, 0, 0, 1] ∧
      ParsePublicHeader .client VersionUnknown [0x08, 1, 0, 0, 0, 0, 0, 0, 0, 1] =
        .error ErrPacketWithUnknownVersion) :=
  ⟨⟨rfl, by decide⟩, ⟨rfl, by decide⟩⟩

/-- The first packet of a client of version 39, on path 1 with a packet number cut to two
bytes, as a server that knows no session for it parses it. -/
def clientHelloHeader : PublicHeader :=
  { ConnectionID := 0x1234, PathID := 1, VersionFlag := true, MultipathFlag := true,
    PacketNumberLen := 2, PacketNumber := 0x10203, VersionNumber := 39 }

theorem ParsePublicHeader_Write_clientHello :
    ∃ bs, Returns (clientHelloHeader.Write 39 .client) bs ∧
      clientHelloHeader.GetLength .client = .ok bs.length.toUInt64 ∧
      ∀ rest, ParsePublicHeader .client VersionUnknown (bs ++ rest) =
        .ok (clientHelloHeader.received, rest) :=
  ParsePublicHeader_Write rfl (by decide) (.inr (.inl rfl)) (fun _ => by decide) (fun _ => rfl)
    (.inl rfl) (fun _ => ⟨rfl, by decide, by decide⟩) (fun hv => absurd hv (by decide))

end Wire

end PStream
