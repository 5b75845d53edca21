import PStream.Wire.ByteOrder
import PStream.Lib.Monads

/-!
# The frames of `internal/wire`, but ACK and CLOSE_PATH

Each frame is a structure with the fields of its Go struct, a `Write` that returns the bytes it
appends to the buffer, and the `MinLength` the packer reserves for it.  A `Write` that can fail
returns `ExceptT String Option`: an error carries Go's text, `none` is a panic (an index out of
range, or an integer writer given a value too wide for it).  Go's `Write` may have appended bytes
before it returns an error; every caller then throws the buffer away, so those bytes are not
modelled.

Strings of Go (reason phrases) are byte lists.  A `time.Duration` is an `Int64` of nanoseconds.
`net.IP` is a byte slice with the conversions of Go's `net` package; parsing an IP address from a
string is left to the caller as a function, since it is Go's library and not this repository.

Every frame here writes exactly the `MinLength` it announces (plus its data, for a STREAM frame)
but the PATHS frame: `PathsFrame.MinLength` counts three bytes of header where `Write` writes four,
three bytes per path where a client writes nine, and wraps at 256.
`PathsFrame.minLength_lt_write_length` shows that a successful write of a PATHS frame always
outruns its `MinLength`.
-/

set_option autoImplicit false

namespace PStream
namespace Wire

open Utils ExceptOption

/-! ## `net.IP` -/

/-- A `net.IP`: 4 bytes, or 16 bytes for IPv6 and IPv4-mapped addresses. -/
abbrev IP := List UInt8

/-- `net.IPv4(a, b, c, d)`: the 16-byte IPv4-mapped form. -/
def IPv4 (a b c d : UInt8) : IP := [0, 0, 0, 0, 0, 0, 0, 0, 0, 0, 0xff, 0xff, a, b, c, d]

/-- `ip.To4()`. -/
def IP.To4 (ip : IP) : Option IP :=
  if ip.length = 4 then some ip
  else if ip.length = 16 ∧ ip.take 10 = List.replicate 10 0 ∧ ip[10]? = some 0xff ∧
      ip[11]? = some 0xff then some (ip.drop 12)
  else none

/-- `ip.To16()`. -/
def IP.To16 (ip : IP) : Option IP :=
  match ip with
  | [a, b, c, d] => some (IPv4 a b c d)
  | _ => if ip.length = 16 then some ip else none

theorem IP.length_To4 {ip ip4 : IP} (h : ip.To4 = some ip4) : ip4.length = 4 := by
  unfold IP.To4 at h
  split_ifs at h with h4 h16
  · cases h
    exact h4
  · cases h
    simp [h16.1]

theorem IP.length_To16 {ip ip16 : IP} (h : ip.To16 = some ip16) : ip16.length = 16 := by
  unfold IP.To16 at h
  split at h
  · cases h
    rfl
  · split_ifs at h with h16
    cases h
    exact h16

/-- `strconv.ParseUint(s, 10, 16)`: decimal digits only, at most 65535.  The error reports the
first thing that goes wrong, reading from the left: a character that is not a digit, or a value
that no longer fits. -/
def ParseUint16 (s : String) : Except String UInt64 :=
  let err (what : String) := "strconv.ParseUint: parsing \"" ++ s ++ "\": " ++ what
  let rec go : List Char → Nat → Except String UInt64
    | [], n => .ok n.toUInt64
    | c :: cs, n =>
      if c.isDigit then
        let n := n * 10 + (c.toNat - '0'.toNat)
        if n > 65535 then .error (err "value out of range") else go cs n
      else .error (err "invalid syntax")
  if s.isEmpty then .error (err "invalid syntax") else go s.toList 0

/-! ## The frames that always write what they announce -/

/-- A PING frame. -/
structure PingFrame where
  deriving DecidableEq, Repr

def PingFrame.Write (_ : PingFrame) (_ : VersionNumber) : List UInt8 := [0x07]

def PingFrame.MinLength (_ : PingFrame) (_ : VersionNumber) : ByteCount := 1

/-- A GOAWAY frame. -/
structure GoawayFrame where
  ErrorCode : UInt32
  LastGoodStream : StreamID
  ReasonPhrase : List UInt8
  deriving DecidableEq, Repr

def GoawayFrame.Write (f : GoawayFrame) (version : VersionNumber) : List UInt8 :=
  let o := GetByteOrder version
  [0x03] ++ o.WriteUint32 f.ErrorCode ++ o.WriteUint32 f.LastGoodStream ++
    o.WriteUint16 f.ReasonPhrase.length.toUInt16 ++ f.ReasonPhrase

def GoawayFrame.MinLength (f : GoawayFrame) (_ : VersionNumber) : ByteCount :=
  (1 + 4 + 4 + 2 + f.ReasonPhrase.length).toUInt64

/-- A CONNECTION_CLOSE frame. -/
structure ConnectionCloseFrame where
  ErrorCode : UInt32
  ReasonPhrase : List UInt8
  deriving DecidableEq, Repr

def ConnectionCloseFrame.MinLength (f : ConnectionCloseFrame) (_ : VersionNumber) : ByteCount :=
  1 + 4 + 2 + f.ReasonPhrase.length.toUInt64

def ConnectionCloseFrame.Write (f : ConnectionCloseFrame) (version : VersionNumber) :
    Except String (List UInt8) :=
  let o := GetByteOrder version
  if f.ReasonPhrase.length > 65535 then .error "ConnectionFrame: ReasonPhrase too long"
  else .ok ([0x02] ++ o.WriteUint32 f.ErrorCode ++
    o.WriteUint16 f.ReasonPhrase.length.toUInt16 ++ f.ReasonPhrase)

/-- A RST_STREAM frame. -/
structure RstStreamFrame where
  StreamID : StreamID
  ByteOffset : ByteCount
  ErrorCode : UInt32
  deriving DecidableEq, Repr

def RstStreamFrame.Write (f : RstStreamFrame) (version : VersionNumber) : List UInt8 :=
  let o := GetByteOrder version
  [0x01] ++ o.WriteUint32 f.StreamID ++ o.WriteUint64 f.ByteOffset ++ o.WriteUint32 f.ErrorCode

def RstStreamFrame.MinLength (_ : RstStreamFrame) (_ : VersionNumber) : ByteCount := 1 + 4 + 8 + 4

/-- A WINDOW_UPDATE frame. -/
structure WindowUpdateFrame where
  StreamID : StreamID
  ByteOffset : ByteCount
  deriving DecidableEq, Repr

def WindowUpdateFrame.Write (f : WindowUpdateFrame) (version : VersionNumber) : List UInt8 :=
  let o := GetByteOrder version
  [0x04] ++ o.WriteUint32 f.StreamID ++ o.WriteUint64 f.ByteOffset

def WindowUpdateFrame.MinLength (_ : WindowUpdateFrame) (_ : VersionNumber) : ByteCount := 1 + 4 + 8

/-- A BLOCKED frame. -/
structure BlockedFrame where
  StreamID : StreamID
  deriving DecidableEq, Repr

def BlockedFrame.Write (f : BlockedFrame) (version : VersionNumber) : List UInt8 :=
  [0x05] ++ (GetByteOrder version).WriteUint32 f.StreamID

def BlockedFrame.MinLength (_ : BlockedFrame) (_ : VersionNumber) : ByteCount := 1 + 4

/-- A STOP_WAITING frame.  `PacketNumber` is that of the packet it is sent in. -/
structure StopWaitingFrame where
  LeastUnacked : PacketNumber
  PacketNumberLen : PacketNumberLen
  PacketNumber : PacketNumber
  deriving DecidableEq, Repr

def StopWaitingFrame.Write (f : StopWaitingFrame) (version : VersionNumber) :
    ExceptT String Option (List UInt8) := do
  if f.PacketNumber = 0 then throw "StopWaitingFrame: PacketNumber not set"
  else if f.LeastUnacked > f.PacketNumber then
    throw "StopWaitingFrame: LeastUnacked can't be greater than the packet number"
  else
  let o := GetByteOrder version
  let leastUnackedDelta : UInt64 := f.PacketNumber - f.LeastUnacked
  let delta ← if f.PacketNumberLen = Protocol.PacketNumberLen1 then
      pure [leastUnackedDelta.toUInt8]
    else if f.PacketNumberLen = Protocol.PacketNumberLen2 then
      pure (o.WriteUint16 leastUnackedDelta.toUInt16)
    else if f.PacketNumberLen = Protocol.PacketNumberLen4 then
      pure (o.WriteUint32 leastUnackedDelta.toUInt32)
    else if f.PacketNumberLen = Protocol.PacketNumberLen6 then
      (o.WriteUint48 (leastUnackedDelta &&& (((1 : UInt64) <<< 48) - 1)) : Option _)
    else throw "StopWaitingFrame: PacketNumberLen not set"
  pure ([0x06] ++ delta)

def StopWaitingFrame.MinLength (f : StopWaitingFrame) (_ : VersionNumber) :
    Except String ByteCount :=
  if f.PacketNumberLen = Protocol.PacketNumberLenInvalid then
    .error "StopWaitingFrame: PacketNumberLen not set"
  else .ok (1 + f.PacketNumberLen.toUInt64)

/-- A `net.UDPAddr`; the zone of an IPv6 address is not written. -/
structure UDPAddr where
  IP : IP
  Port : Int
  deriving DecidableEq, Repr

/-- An ADD_ADDRESS frame. -/
structure AddAddressFrame where
  IPVersion : UInt8
  Addr : UDPAddr
  deriving DecidableEq, Repr

def errInconsistentAddrIPVersion : String := "internal inconsistency: Addr does not match IP version"
def ErrUnknownIPVersion : String := "AddAddressFrame: unknown IP version"

def AddAddressFrame.Write (f : AddAddressFrame) (version : VersionNumber) :
    Except String (List UInt8) := do
  let addr ← if f.IPVersion = 4 then
      match f.Addr.IP.To4 with
      | some ip => pure ip
      | none => throw errInconsistentAddrIPVersion
    else if f.IPVersion = 6 then
      match f.Addr.IP.To16 with
      | some ip => pure ip
      | none => throw errInconsistentAddrIPVersion
    else throw ErrUnknownIPVersion
  pure ([0x10, f.IPVersion] ++ addr ++
    (GetByteOrder version).WriteUint16 (UInt16.ofInt f.Addr.Port))

def AddAddressFrame.MinLength (f : AddAddressFrame) (_ : VersionNumber) :
    Except String ByteCount :=
  if f.IPVersion = 4 then .ok (1 + 1 + 4 + 2)
  else if f.IPVersion = 6 then .ok (1 + 1 + 16 + 2)
  else .error ErrUnknownIPVersion

/-- A STREAM frame. -/
structure StreamFrame where
  StreamID : StreamID
  FinBit : Bool
  DataLenPresent : Bool
  Offset : ByteCount
  Data : List UInt8
  deriving DecidableEq, Repr

namespace StreamFrame

def calculateStreamIDLength (f : StreamFrame) : UInt8 :=
  if f.StreamID < (1 : UInt32) <<< 8 then 1
  else if f.StreamID < (1 : UInt32) <<< 16 then 2
  else if f.StreamID < (1 : UInt32) <<< 24 then 3
  else 4

def getOffsetLength (f : StreamFrame) : ByteCount :=
  if f.Offset = 0 then 0
  else if f.Offset < (1 : ByteCount) <<< 16 then 2
  else if f.Offset < (1 : ByteCount) <<< 24 then 3
  else if f.Offset < (1 : ByteCount) <<< 32 then 4
  else if f.Offset < (1 : ByteCount) <<< 40 then 5
  else if f.Offset < (1 : ByteCount) <<< 48 then 6
  else if f.Offset < (1 : ByteCount) <<< 56 then 7
  else 8

def DataLen (f : StreamFrame) : ByteCount := f.Data.length.toUInt64

def MinLength (f : StreamFrame) (_ : VersionNumber) : ByteCount :=
  1 + f.calculateStreamIDLength.toUInt64 + f.getOffsetLength + if f.DataLenPresent then 2 else 0

/-- The type byte `Write` builds, `1FDOOOSS`: the FIN bit, the data length bit, the offset length
less one and the stream ID length less one. -/
def typeByte (f : StreamFrame) : UInt8 :=
  let offsetLength := f.getOffsetLength
  let streamIDLen := f.calculateStreamIDLength
  let typeByte : UInt8 := 0x80
  let typeByte := if f.FinBit then typeByte ^^^ 0x40 else typeByte
  let typeByte := if f.DataLenPresent then typeByte ^^^ 0x20 else typeByte
  let typeByte := if offsetLength > 0 then typeByte ^^^ (offsetLength.toUInt8 - 1) <<< 2
    else typeByte
  typeByte ^^^ (streamIDLen - 1)

def errInvalidStreamIDLen : String := "StreamFrame: Invalid StreamID length"
def errInvalidOffsetLen : String := "StreamFrame: Invalid offset length"

/-- The `switch streamIDLen` of `Write`. -/
def writeStreamID (f : StreamFrame) (o : ByteOrder) : ExceptT String Option (List UInt8) :=
  let streamIDLen := f.calculateStreamIDLength
  if streamIDLen = 1 then pure [f.StreamID.toUInt8]
  else if streamIDLen = 2 then pure (o.WriteUint16 f.StreamID.toUInt16)
  else if streamIDLen = 3 then (o.WriteUint24 f.StreamID : Option _)
  else if streamIDLen = 4 then pure (o.WriteUint32 f.StreamID)
  else throw errInvalidStreamIDLen

/-- The `switch offsetLength` of `Write`. -/
def writeOffset (f : StreamFrame) (o : ByteOrder) : ExceptT String Option (List UInt8) :=
  let offsetLength := f.getOffsetLength
  if offsetLength = 0 then pure []
  else if offsetLength = 2 then pure (o.WriteUint16 f.Offset.toUInt16)
  else if offsetLength = 3 then (o.WriteUint24 f.Offset.toUInt32 : Option _)
  else if offsetLength = 4 then pure (o.WriteUint32 f.Offset.toUInt32)
  else if offsetLength = 5 then (o.WriteUint40 f.Offset : Option _)
  else if offsetLength = 6 then (o.WriteUint48 f.Offset : Option _)
  else if offsetLength = 7 then (o.WriteUint56 f.Offset : Option _)
  else if offsetLength = 8 then pure (o.WriteUint64 f.Offset)
  else throw errInvalidOffsetLen

def Write (f : StreamFrame) (version : VersionNumber) : ExceptT String Option (List UInt8) := do
  if f.Data.length = 0 ∧ !f.FinBit then
    throw "StreamFrame: attempting to write empty frame without FIN"
  else
  let o := GetByteOrder version
  let sid ← f.writeStreamID o
  let off ← f.writeOffset o
  let dataLen := if f.DataLenPresent then o.WriteUint16 f.Data.length.toUInt16 else []
  pure ([f.typeByte] ++ sid ++ off ++ dataLen ++ f.Data)

end StreamFrame

/-! ## The PATHS frame -/

/-- A PATHS frame: the paths of the connection, their smoothed RTTs, and on a client the local
address of each path. -/
structure PathsFrame where
  MaxNumPaths : UInt8
  NumPaths : UInt8
  NumIPs : UInt8
  PathIDs : List PathID
  RemoteRTTs : List Int64
  RemoteAddrsIP : List String
  RemoteAddrsPort : List String
  deriving DecidableEq, Repr

namespace PathsFrame

/-- The body of the loop of `Write` for path `i`: its ID, its RTT in microseconds, and when the
frame carries addresses, the IPv4 address and the port. -/
def writePath (ParseIP : String → Option IP) (f : PathsFrame) (o : ByteOrder) (i : Nat)
    (pathID : PathID) : ExceptT String Option (List UInt8) := do
  let rtt ← (f.RemoteRTTs[i]? : Option _)
  let head := [pathID] ++ o.WriteUfloat16 (rtt / 1000).toUInt64
  if f.NumIPs > 0 then
    let addr ← (f.RemoteAddrsIP[i]? : Option _)
    let some ip := (ParseIP addr).bind IP.To4 | throw errInconsistentAddrIPVersion
    let portStr ← (f.RemoteAddrsPort[i]? : Option _)
    let port ← (ParseUint16 portStr : Except String _)
    pure (head ++ ip ++ o.WriteUint16 port.toUInt16)
  else pure head

/-- `for i := 0; i < len(f.PathIDs); i++`, from path `i` on. -/
def writePaths (ParseIP : String → Option IP) (f : PathsFrame) (o : ByteOrder) :
    Nat → List PathID → ExceptT String Option (List UInt8)
  | _, [] => pure []
  | i, p :: ps => do
    let bs ← f.writePath ParseIP o i p
    let rest ← f.writePaths ParseIP o (i + 1) ps
    pure (bs ++ rest)

def ErrPathsNumber : String := "PathsFrame: number of paths advertised and # of paths do not match"
def ErrIPsNumber : String := "PathsFrame: number of IPs and number of paths do not match"
def ErrMissingRTT : String :=
  "PathsFrame: number of paths IDs and number of remote RTTs do not match"
def ErrMissingAddrsIP : String :=
  "PathsFrame: number of paths IDs and number of remote addresses IP do not match"
def ErrMissingAddrsPort : String :=
  "PathsFrame: number of paths IDs and number of remote addresses Port do not match"

def Write (ParseIP : String → Option IP) (f : PathsFrame) (version : VersionNumber) :
    ExceptT String Option (List UInt8) := do
  if f.NumPaths.toNat ≠ f.PathIDs.length then throw ErrPathsNumber
  else if f.NumPaths ≠ f.NumIPs ∧ f.NumIPs ≠ 0 then throw ErrIPsNumber
  else if f.PathIDs.length ≠ f.RemoteRTTs.length then throw ErrMissingRTT
  else if f.PathIDs.length ≠ f.RemoteAddrsIP.length ∧ f.RemoteAddrsIP.length ≠ 0 then
    throw ErrMissingAddrsIP
  else if f.PathIDs.length ≠ f.RemoteAddrsPort.length ∧ f.RemoteAddrsPort.length ≠ 0 then
    throw ErrMissingAddrsPort
  else do
    let paths ← f.writePaths ParseIP (GetByteOrder version) 0 f.PathIDs
    pure ([0x12, f.MaxNumPaths, f.NumPaths, f.NumIPs] ++ paths)

/-- `1 + 1 + 1 + (3 * f.NumPaths)`, computed in `uint8`. -/
def MinLength (f : PathsFrame) (_ : VersionNumber) : ByteCount :=
  (1 + 1 + 1 + 3 * f.NumPaths).toUInt64

/-- The bytes one path takes: its ID and RTT, and the address and port on a client. -/
def entryLength (f : PathsFrame) : Nat := if f.NumIPs > 0 then 9 else 3

theorem length_writePath {ParseIP : String → Option IP} {f : PathsFrame} {o : ByteOrder}
    {i : Nat} {p : PathID} {bs : List UInt8} (h : Returns (f.writePath ParseIP o i p) bs) :
    bs.length = f.entryLength := by
  unfold writePath at h
  obtain ⟨rtt, -, h⟩ := returns_bind.1 h
  unfold entryLength
  split_ifs at h ⊢ with hips
  · obtain ⟨addr, -, h⟩ := returns_bind.1 h
    split at h
    · next ip hip =>
      obtain ⟨portStr, -, h⟩ := returns_bind.1 h
      obtain ⟨port, -, rfl⟩ := returns_map.1 h
      have hip4 : ip.length = 4 := IP.length_To4 (Option.bind_eq_some_iff.1 hip).choose_spec.2
      simp [hip4]
    · exact absurd h not_returns_throw
  · obtain rfl := returns_pure.1 h
    simp

theorem length_writePaths {ParseIP : String → Option IP} {f : PathsFrame} {o : ByteOrder} :
    ∀ {i : Nat} {ps : List PathID} {bs : List UInt8}, Returns (f.writePaths ParseIP o i ps) bs →
      bs.length = ps.length * f.entryLength
  | _, [], bs, h => by
    obtain rfl := returns_pure.1 h
    simp
  | i, p :: ps, bs, h => by
    obtain ⟨b, hb, h⟩ := returns_bind.1 h
    obtain ⟨rest, hrest, h⟩ := returns_bind.1 h
    obtain rfl := returns_pure.1 h
    rw [List.length_append, length_writePath hb, length_writePaths hrest, List.length_cons,
      Nat.add_one_mul, Nat.add_comm]

theorem length_Write {ParseIP : String → Option IP} {f : PathsFrame} {version : VersionNumber}
    {bs : List UInt8} (h : Returns (f.Write ParseIP version) bs) :
    f.NumPaths.toNat = f.PathIDs.length ∧ bs.length = 4 + f.PathIDs.length * f.entryLength := by
  unfold Write at h
  split_ifs at h with h1 h2 h3 h4 h5
  any_goals exact absurd h not_returns_throw
  obtain ⟨paths, hpaths, h⟩ := returns_bind.1 h
  obtain rfl := returns_pure.1 h
  refine ⟨not_not.1 h1, ?_⟩
  rw [List.length_append, length_writePaths hpaths]
  rfl

/-- A successful write of a PATHS frame is always longer than the `MinLength` the packer
reserved for it. -/
theorem minLength_lt_write_length {ParseIP : String → Option IP} {f : PathsFrame}
    {version : VersionNumber} {bs : List UInt8} (h : Returns (f.Write ParseIP version) bs) :
    (f.MinLength version).toNat < bs.length := by
  obtain ⟨hnum, hlen⟩ := length_Write h
  -- `MinLength` is `3 + 3 * NumPaths` reduced mod 256, each path writes at least 3 bytes
  have hmin : (f.MinLength version).toNat ≤ 3 + 3 * f.NumPaths.toNat := by
    simp only [MinLength, UInt8.toNat_toUInt64, UInt8.toNat_add, UInt8.toNat_mul,
      UInt8.reduceToNat]
    omega
  have hentry : 3 ≤ f.entryLength := by unfold entryLength; split_ifs <;> omega
  have := Nat.mul_le_mul_left f.PathIDs.length hentry
  omega

/-- A server's PATHS frame for its one path: seven bytes written, six reserved. -/
theorem minLength_lt_write_length_server :
    Returns ((⟨255, 1, 0, [0], [0], [], []⟩ : PathsFrame).Write (fun _ => none)
      Protocol.VersionMP) [0x12, 255, 1, 0, 0, 0, 0] ∧
    ((⟨255, 1, 0, [0], [0], [], []⟩ : PathsFrame).MinLength Protocol.VersionMP).toNat <
      [(0x12 : UInt8), 255, 1, 0, 0, 0, 0].length :=
  have h : Returns ((⟨255, 1, 0, [0], [0], [], []⟩ : PathsFrame).Write (fun _ => none)
      Protocol.VersionMP) [0x12, 255, 1, 0, 0, 0, 0] := rfl
  ⟨h, minLength_lt_write_length h⟩

end PathsFrame

end Wire
end PStream
