import PStream.Wire.Parsers
import PStream.Wire.Codec

/-!
# Reading back a written frame

Each frame's parser, run on the bytes its `Write` produced followed by anything else, returns the
frame and leaves the rest untouched.  A frame comes back exactly as it was written, but for what
its encoding cannot carry:

* a STOP_WAITING frame carries `LeastUnacked` as its distance below the packet number, in as many
  bytes as the packet number has, so only that distance modulo `2 ^ (8 * len)` comes back
  (`StopWaitingFrame.received`);
* an ADD_ADDRESS frame comes back with its address in 16-byte form and its port as the 16 bits the
  writer kept (`AddAddressFrame.received`);
* a PATHS frame comes back with its RTTs rounded by `ufloat16` and each address and port as Go
  formats them (`PathsFrame.received`).

The only side condition beyond a successful `Write` is the packet's size: a reason phrase or the
data of a STREAM frame longer than `MaxPacketSize` is refused by the parser, and no frame of a
packet is that long.
-/

set_option autoImplicit false

namespace PStream
namespace Wire

open Utils Utils.ByteOrder ExceptOption

/-! ## Lengths that fit into the packet -/

/-- A length within a packet survives the `uint16` of its length field. -/
theorem toNat_toUInt16_of_le {n : Nat} (h : n ≤ 1350) : n.toUInt16.toNat = n := by
  simp only [Nat.toUInt16_eq, UInt16.toNat_ofNat']
  omega

/-- A length within a packet passes the parsers' check against `MaxPacketSize`. -/
theorem not_toUInt16_gt_maxPacketSize {n : Nat} (h : n ≤ 1350) :
    ¬ n.toUInt16 > Protocol.MaxPacketSize.toUInt16 := by
  simp only [Protocol.MaxPacketSize, gt_iff_lt, UInt16.lt_iff_toNat_lt, Nat.toUInt16_eq,
    UInt16.toNat_ofNat']
  simp
  omega

/-- A reason phrase read back with its length field. -/
theorem ReadFull_toUInt16 (l rest : List UInt8) (h : l.length ≤ 1350) :
    ReadFull l.length.toUInt16.toNat (l ++ rest) = .ok (l, rest) := by
  rw [toNat_toUInt16_of_le h]
  exact ReadFull_append l rest

/-! ## Frames that come back unchanged -/

section
variable (version : VersionNumber) (rest : List UInt8)

theorem ParsePingFrame_Write (f : PingFrame) :
    ParsePingFrame version (f.Write version ++ rest) = .ok (f, rest) :=
  rfl

theorem ParseRstStreamFrame_Write (f : RstStreamFrame) :
    ParseRstStreamFrame version (f.Write version ++ rest) = .ok (f, rest) := by
  simp only [ParseRstStreamFrame, RstStreamFrame.Write, List.append_assoc, List.cons_append,
    List.nil_append]
  rw [Parser.bind_ok (ReadByte_cons _ _), Parser.bind_ok (ReadUint32_WriteUint32 _ _ _),
    Parser.bind_ok (ReadUint64_WriteUint64 _ _ _), Parser.bind_ok (ReadUint32_WriteUint32 _ _ _)]
  rfl

theorem ParseWindowUpdateFrame_Write (f : WindowUpdateFrame) :
    ParseWindowUpdateFrame version (f.Write version ++ rest) = .ok (f, rest) := by
  simp only [ParseWindowUpdateFrame, WindowUpdateFrame.Write, List.append_assoc, List.cons_append,
    List.nil_append]
  rw [Parser.bind_ok (ReadByte_cons _ _), Parser.bind_ok (ReadUint32_WriteUint32 _ _ _),
    Parser.bind_ok (ReadUint64_WriteUint64 _ _ _)]
  rfl

theorem ParseBlockedFrame_Write (f : BlockedFrame) :
    ParseBlockedFrame version (f.Write version ++ rest) = .ok (f, rest) := by
  simp only [ParseBlockedFrame, BlockedFrame.Write, List.cons_append, List.nil_append]
  rw [Parser.bind_ok (ReadByte_cons _ _), Parser.bind_ok (ReadUint32_WriteUint32 _ _ _)]
  rfl

theorem ParseGoawayFrame_Write (f : GoawayFrame) (hlen : (f.Write version).length ≤ 1350) :
    ParseGoawayFrame version (f.Write version ++ rest) = .ok (f, rest) := by
  have hphrase : f.ReasonPhrase.length ≤ 1350 := by
    simp only [GoawayFrame.Write, List.length_append, List.length_cons, List.length_nil,
      length_WriteUint32, length_WriteUint16] at hlen
    omega
  simp only [ParseGoawayFrame, GoawayFrame.Write, List.append_assoc, List.cons_append,
    List.nil_append]
  rw [Parser.bind_ok (ReadByte_cons _ _), Parser.bind_ok (ReadUint32_WriteUint32 _ _ _),
    Parser.bind_ok (ReadUint32_WriteUint32 _ _ _), Parser.bind_ok (ReadUint16_WriteUint16 _ _ _),
    if_neg (not_toUInt16_gt_maxPacketSize hphrase),
    Parser.bind_ok (ReadFull_toUInt16 _ _ hphrase)]
  rfl

theorem ParseConnectionCloseFrame_Write (f : ConnectionCloseFrame) {bs : List UInt8}
    (hw : f.Write version = .ok bs) (hlen : bs.length ≤ 1350) :
    ParseConnectionCloseFrame version (bs ++ rest) = .ok (f, rest) := by
  unfold ConnectionCloseFrame.Write at hw
  split_ifs at hw
  cases hw
  have hphrase : f.ReasonPhrase.length ≤ 1350 := by
    simp only [List.length_append, List.length_cons, List.length_nil, length_WriteUint32,
      length_WriteUint16] at hlen
    omega
  simp only [ParseConnectionCloseFrame, List.append_assoc, List.cons_append, List.nil_append]
  rw [Parser.bind_ok (ReadByte_cons _ _), Parser.bind_ok (ReadUint32_WriteUint32 _ _ _),
    Parser.bind_ok (ReadUint16_WriteUint16 _ _ _),
    if_neg (not_toUInt16_gt_maxPacketSize hphrase),
    Parser.bind_ok (ReadFull_toUInt16 _ _ hphrase)]
  rfl

end

/-! ## STOP_WAITING -/

namespace StopWaitingFrame

/-- What `ParseStopWaitingFrame` recovers from a frame sent in a packet of its own number and
packet number length: `LeastUnacked` from its distance below the packet number, cut to the packet
number length.  The other two fields are not read. -/
def received (f : StopWaitingFrame) : StopWaitingFrame :=
  { LeastUnacked := f.PacketNumber - UInt64.ofNat
      ((f.PacketNumber - f.LeastUnacked).toNat % 2 ^ (8 * f.PacketNumberLen.toNat))
    PacketNumberLen := 0
    PacketNumber := 0 }

/-- A frame that is written has `LeastUnacked` below its packet number and carries the distance
between them in `PacketNumberLen` bytes, which `ReadUintN` reads back modulo their width. -/
theorem write_spec {f : StopWaitingFrame} {version : VersionNumber} {bs : List UInt8}
    (hw : Returns (f.Write version) bs) :
    f.LeastUnacked ≤ f.PacketNumber ∧ ∃ delta, bs = 0x06 :: delta ∧ ∀ rest,
      (GetByteOrder version).ReadUintN f.PacketNumberLen (delta ++ rest) =
        .ok (UInt64.ofNat ((f.PacketNumber - f.LeastUnacked).toNat %
          2 ^ (8 * f.PacketNumberLen.toNat)), rest) := by
  unfold StopWaitingFrame.Write at hw
  split_ifs at hw with h0 hgt h1 h2 h4 h6
  all_goals try exact absurd hw not_returns_throw
  -- one case per packet number length
  all_goals
    refine ⟨UInt64.not_lt.1 hgt, ?_⟩
    obtain ⟨delta, hd, h⟩ := returns_bind.1 hw
    obtain rfl := returns_pure.1 h
    refine ⟨delta, rfl, fun rest => ?_⟩
  · obtain rfl := returns_pure.1 hd
    rw [h1]
    exact ReadUintN_one _ _ rest
  · obtain rfl := returns_pure.1 hd
    rw [h2]
    exact ReadUintN_WriteUint16 _ _ rest
  · obtain rfl := returns_pure.1 hd
    rw [h4]
    exact ReadUintN_WriteUint32 _ _ rest
  · rw [h6]
    refine (ReadUintN_WriteUint48 _ (returns_liftOption.1 hd) rest).trans ?_
    have hmask : (f.PacketNumber - f.LeastUnacked &&& (((1 : UInt64) <<< 48) - 1)) =
        UInt64.ofNat ((f.PacketNumber - f.LeastUnacked).toNat % 2 ^ 48) := by
      apply UInt64.toNat_inj.mp
      rw [toNat_and_mask48, UInt64.toNat_ofNat']
      omega
    rw [hmask]
    rfl

/-- When the distance to the packet number fits into the packet number length, `LeastUnacked`
comes back whole. -/
theorem received_leastUnacked {f : StopWaitingFrame}
    (h : (f.PacketNumber - f.LeastUnacked).toNat < 2 ^ (8 * f.PacketNumberLen.toNat)) :
    f.received.LeastUnacked = f.LeastUnacked := by
  simp only [received, Nat.mod_eq_of_lt h, UInt64.ofNat_toNat]
  grind

/-- Conversely, `LeastUnacked` comes back only when the distance fits. -/
theorem received_leastUnacked_iff {f : StopWaitingFrame} (hle : f.LeastUnacked ≤ f.PacketNumber) :
    f.received.LeastUnacked = f.LeastUnacked ↔
      (f.PacketNumber - f.LeastUnacked).toNat < 2 ^ (8 * f.PacketNumberLen.toNat) := by
  refine ⟨fun heq => ?_, received_leastUnacked⟩
  have hd := UInt64.toNat_sub_of_le _ _ hle
  have hle' := UInt64.le_iff_toNat_le.1 hle
  have hsub := congrArg UInt64.toNat heq
  simp only [received] at hsub
  -- the distance read back is the distance modulo the width; it gives `LeastUnacked` back only
  -- when it is the whole distance
  set d := (f.PacketNumber - f.LeastUnacked).toNat
  have hmod : d % 2 ^ (8 * f.PacketNumberLen.toNat) ≤ d := Nat.mod_le _ _
  have hX : (UInt64.ofNat (d % 2 ^ (8 * f.PacketNumberLen.toNat))).toNat =
      d % 2 ^ (8 * f.PacketNumberLen.toNat) := by
    rw [UInt64.toNat_ofNat', Nat.mod_eq_of_lt (lt_of_le_of_lt hmod (UInt64.toNat_lt _))]
  rw [UInt64.toNat_sub_of_le _ _ (UInt64.le_iff_toNat_le.2 (by omega)), hX] at hsub
  exact (Nat.mod_eq_iff_lt (Nat.two_pow_pos _).ne').1 (by omega)

/-- A frame with `LeastUnacked` at most its packet number, which is not 0, is written for every
length a public header has. -/
theorem write_returns {f : StopWaitingFrame} (version : VersionNumber) (h0 : f.PacketNumber ≠ 0)
    (hle : f.LeastUnacked ≤ f.PacketNumber)
    (hlen : f.PacketNumberLen = 2 ∨ f.PacketNumberLen = 4 ∨ f.PacketNumberLen = 6) :
    ∃ bs, Returns (f.Write version) bs := by
  unfold StopWaitingFrame.Write
  rw [if_neg h0, if_neg (UInt64.not_lt.2 hle)]
  rcases hlen with h | h | h
  · simp [h, Protocol.PacketNumberLen1, Protocol.PacketNumberLen2, Returns]
  · simp [h, Protocol.PacketNumberLen1, Protocol.PacketNumberLen2, Protocol.PacketNumberLen4,
      Returns]
  · -- six bytes: the distance is masked to 48 bits first, so `WriteUint48` takes it
    have hw := ByteOrder.WriteUint48_eq_some (o := GetByteOrder version)
      (i := f.PacketNumber - f.LeastUnacked &&& (((1 : UInt64) <<< 48) - 1))
      (by rw [toNat_and_mask48]; exact Nat.mod_lt _ (Nat.two_pow_pos 48))
    simp [h, Protocol.PacketNumberLen1, Protocol.PacketNumberLen2, Protocol.PacketNumberLen4,
      Protocol.PacketNumberLen6, hw, Returns]
    exact ⟨_, rfl⟩

end StopWaitingFrame

theorem ParseStopWaitingFrame_Write (version : VersionNumber) (rest : List UInt8)
    (f : StopWaitingFrame) {bs : List UInt8} (hw : Returns (f.Write version) bs)
    (hlu : 0 < f.LeastUnacked) :
    ParseStopWaitingFrame f.PacketNumber f.PacketNumberLen version (bs ++ rest) =
      .ok (f.received, rest) := by
  obtain ⟨hle, delta, rfl, hread⟩ := StopWaitingFrame.write_spec hw
  -- the distance read back is at most the distance written, which is below the packet number
  have hlt : ¬ UInt64.ofNat ((f.PacketNumber - f.LeastUnacked).toNat %
      2 ^ (8 * f.PacketNumberLen.toNat)) ≥ f.PacketNumber := by
    rw [ge_iff_le, UInt64.le_iff_toNat_le, UInt64.toNat_ofNat', UInt64.toNat_sub_of_le _ _ hle,
      not_le]
    have h1 := Nat.mod_le (f.PacketNumber.toNat - f.LeastUnacked.toNat)
      (2 ^ (8 * f.PacketNumberLen.toNat))
    have h2 := Nat.mod_le ((f.PacketNumber.toNat - f.LeastUnacked.toNat) %
      2 ^ (8 * f.PacketNumberLen.toNat)) (2 ^ 64)
    have h3 : 0 < f.LeastUnacked.toNat := UInt64.lt_iff_toNat_lt.1 hlu
    have h4 := UInt64.le_iff_toNat_le.1 hle
    omega
  simp only [ParseStopWaitingFrame, List.cons_append]
  rw [Parser.bind_ok (ReadByte_cons _ _), Parser.bind_ok (hread rest), if_neg hlt]
  rfl

/-! ## ADD_ADDRESS -/

/-- An IPv4 address in either form has the 16-byte form `net.IPv4` builds from its 4 bytes. -/
theorem IP.To16_of_To4 {ip : IP} {a b c d : UInt8} (h : ip.To4 = some [a, b, c, d]) :
    ip.To16 = some (IPv4 a b c d) := by
  unfold IP.To4 at h
  split_ifs at h with h4 h16
  · cases h
    rfl
  · obtain ⟨hlen, hzero, h10, h11⟩ := h16
    have hprefix : ip.take 12 = [0, 0, 0, 0, 0, 0, 0, 0, 0, 0, 0xff, 0xff] := by
      rw [List.take_add_one, List.take_add_one, hzero, h10, h11]
      rfl
    have hip : ip = IPv4 a b c d := by
      rw [← List.take_append_drop 12 ip, hprefix, Option.some.inj h]
      rfl
    unfold IP.To16
    split
    · simp at hlen
    · rw [if_pos hlen, hip]

theorem readBytes_append (l rest : List UInt8) :
    readBytes l.length (l ++ rest) = .ok (l, rest) := by
  induction l with
  | nil => rfl
  | cons b bs ih =>
    simp only [readBytes, List.length_cons, List.cons_append]
    rw [Parser.bind_ok (ReadByte_cons _ _), Parser.bind_ok ih]
    rfl

namespace AddAddressFrame

/-- What `ParseAddAddressFrame` gives back: the address in its 16-byte form, and the 16 bits of
the port the writer kept. -/
def received (f : AddAddressFrame) : AddAddressFrame :=
  { IPVersion := f.IPVersion
    Addr := { IP := f.Addr.IP.To16.getD [], Port := (UInt16.ofInt f.Addr.Port).toNat } }

theorem write_spec {f : AddAddressFrame} {version : VersionNumber} {bs : List UInt8}
    (hw : f.Write version = .ok bs) :
    ∃ addr, bs = [0x10, f.IPVersion] ++ addr ++
        (GetByteOrder version).WriteUint16 (UInt16.ofInt f.Addr.Port) ∧
      (f.IPVersion = 4 ∧ f.Addr.IP.To4 = some addr ∨
        f.IPVersion = 6 ∧ f.Addr.IP.To16 = some addr) := by
  unfold AddAddressFrame.Write at hw
  split_ifs at hw with h4 h6
  · split at hw
    · next ip hip =>
      cases hw
      exact ⟨ip, rfl, .inl ⟨h4, hip⟩⟩
    · cases hw
  · split at hw
    · next ip hip =>
      cases hw
      exact ⟨ip, rfl, .inr ⟨h6, hip⟩⟩
    · cases hw
  · cases hw

end AddAddressFrame

theorem ParseAddAddressFrame_Write (version : VersionNumber) (rest : List UInt8)
    (f : AddAddressFrame) {bs : List UInt8} (hw : f.Write version = .ok bs) :
    ParseAddAddressFrame version (bs ++ rest) = .ok (f.received, rest) := by
  obtain ⟨addr, rfl, ⟨h4, hip⟩ | ⟨h6, hip⟩⟩ := AddAddressFrame.write_spec hw
  · -- IPv4: four bytes, read back into the 16-byte form
    obtain ⟨a, b, c, d, rfl⟩ : ∃ a b c d, addr = [a, b, c, d] := by
      have := IP.length_To4 hip
      match addr, this with
      | [a, b, c, d], _ => exact ⟨a, b, c, d, rfl⟩
    simp only [ParseAddAddressFrame, List.cons_append, List.nil_append, h4, pure_bind]
    rw [Parser.bind_ok (ReadByte_cons _ _), Parser.bind_ok (ReadByte_cons _ _), if_pos rfl,
      Parser.bind_ok (ReadByte_cons _ _), Parser.bind_ok (ReadByte_cons _ _),
      Parser.bind_ok (ReadByte_cons _ _), Parser.bind_ok (ReadByte_cons _ _),
      Parser.bind_ok (ReadUint16_WriteUint16 _ _ _)]
    simp [AddAddressFrame.received, IP.To16_of_To4 hip, h4]
  · -- IPv6: sixteen bytes
    have hlen := IP.length_To16 hip
    simp only [ParseAddAddressFrame, List.append_assoc, List.cons_append, List.nil_append, h6]
    rw [Parser.bind_ok (ReadByte_cons _ _), Parser.bind_ok (ReadByte_cons _ _), if_neg (by decide),
      if_pos rfl, ← hlen, Parser.bind_ok (readBytes_append _ _),
      Parser.bind_ok (ReadUint16_WriteUint16 _ _ _)]
    simp [AddAddressFrame.received, hip, h6]

/-! ## STREAM

The type byte carries the lengths of the stream ID and the offset, so the parser reads each field
in the width the writer chose.  A frame without a data length takes the rest of the packet as its
data, so it comes back whole only as the last frame of the packet. -/

namespace StreamFrame

theorem calculateStreamIDLength_cases (f : StreamFrame) :
    f.calculateStreamIDLength = 1 ∧ f.StreamID.toNat < 2 ^ 8 ∨
    f.calculateStreamIDLength = 2 ∧ f.StreamID.toNat < 2 ^ 16 ∨
    f.calculateStreamIDLength = 3 ∧ f.StreamID.toNat < 2 ^ 24 ∨
    f.calculateStreamIDLength = 4 := by
  unfold calculateStreamIDLength
  split_ifs with h1 h2 h3 <;> simp_all [UInt32.lt_iff_toNat_lt]

theorem getOffsetLength_cases (f : StreamFrame) :
    f.getOffsetLength = 0 ∧ f.Offset = 0 ∨
    f.getOffsetLength = 2 ∧ f.Offset.toNat < 2 ^ 16 ∨
    f.getOffsetLength = 3 ∧ f.Offset.toNat < 2 ^ 24 ∨
    f.getOffsetLength = 4 ∧ f.Offset.toNat < 2 ^ 32 ∨
    f.getOffsetLength = 5 ∧ f.Offset.toNat < 2 ^ 40 ∨
    f.getOffsetLength = 6 ∧ f.Offset.toNat < 2 ^ 48 ∨
    f.getOffsetLength = 7 ∧ f.Offset.toNat < 2 ^ 56 ∨
    f.getOffsetLength = 8 := by
  unfold getOffsetLength
  split_ifs with h0 h2 h3 h4 h5 h6 h7 <;> simp_all [UInt64.lt_iff_toNat_lt]

/-- The fields of the type byte, as `ParseStreamFrame` decodes them. -/
theorem typeByte_decode (f : StreamFrame) :
    f.typeByte &&& 0x80 = 0x80 ∧ (f.typeByte &&& 0x40 > 0 ↔ f.FinBit = true) ∧
      (f.typeByte &&& 0x20 > 0 ↔ f.DataLenPresent = true) ∧
      (if (f.typeByte &&& 0x1c) >>> 2 ≠ 0 then ((f.typeByte &&& 0x1c) >>> 2) + 1
        else (f.typeByte &&& 0x1c) >>> 2) = f.getOffsetLength.toUInt8 ∧
      (f.typeByte &&& 0x3) + 1 = f.calculateStreamIDLength := by
  have hol := getOffsetLength_cases f
  have hsl := calculateStreamIDLength_cases f
  unfold typeByte
  generalize f.getOffsetLength = ol at *
  generalize f.calculateStreamIDLength = sl at *
  generalize f.FinBit = fin
  generalize f.DataLenPresent = dlp
  -- eight offset lengths, four stream ID lengths and the two flags: a check of one byte each
  rcases hol with ⟨rfl, -⟩ | ⟨rfl, -⟩ | ⟨rfl, -⟩ | ⟨rfl, -⟩ | ⟨rfl, -⟩ | ⟨rfl, -⟩ | ⟨rfl, -⟩ | rfl <;>
  rcases hsl with ⟨rfl, -⟩ | ⟨rfl, -⟩ | ⟨rfl, -⟩ | rfl <;>
  cases fin <;> cases dlp <;> decide

theorem writeStreamID_spec {f : StreamFrame} {o : ByteOrder} {bs : List UInt8}
    (h : Returns (f.writeStreamID o) bs) (rest : List UInt8) :
    o.ReadUintN f.calculateStreamIDLength (bs ++ rest) = .ok (f.StreamID.toUInt64, rest) := by
  unfold writeStreamID at h
  rcases calculateStreamIDLength_cases f with ⟨hl, hlt⟩ | ⟨hl, hlt⟩ | ⟨hl, hlt⟩ | hl <;>
    simp [hl, WriteUint24] at h ⊢
  · subst h
    rw [show [f.StreamID.toUInt8] = o.putBytes 1 f.StreamID.toUInt64 by simp [putBytes_one]]
    exact ReadUintN_of_putBytes o (n := 1) (by decide) (by simp; omega) rest
  · subst h
    exact ReadUintN_of_putBytes o (n := 2) (by decide) (by simp; omega) rest
  · obtain ⟨-, rfl⟩ := h
    exact ReadUintN_of_putBytes o (n := 3) (by decide) (by simp; omega) rest
  · subst h
    exact ReadUintN_of_putBytes o (n := 4) (by decide) (by simp) rest

theorem writeOffset_spec {f : StreamFrame} {o : ByteOrder} {bs : List UInt8}
    (h : Returns (f.writeOffset o) bs) (rest : List UInt8) :
    o.ReadUintN f.getOffsetLength.toUInt8 (bs ++ rest) = .ok (f.Offset, rest) := by
  unfold writeOffset at h
  rcases getOffsetLength_cases f with ⟨hl, hlt⟩ | ⟨hl, hlt⟩ | ⟨hl, hlt⟩ | ⟨hl, hlt⟩ | ⟨hl, hlt⟩ |
      ⟨hl, hlt⟩ | ⟨hl, hlt⟩ | hl <;>
    simp [hl, WriteUint24, WriteUint40, WriteUint48, WriteUint56] at h ⊢
  · subst h
    rw [hlt]
    rfl
  · subst h
    exact ReadUintN_of_putBytes o (n := 2) (by decide) (by simp; omega) rest
  · obtain ⟨-, rfl⟩ := h
    exact ReadUintN_of_putBytes o (n := 3) (by decide) (by simp; omega) rest
  · subst h
    exact ReadUintN_of_putBytes o (n := 4) (by decide) (by simp; omega) rest
  · obtain ⟨-, rfl⟩ := h
    exact ReadUintN_putBytes_of_lt o (n := 5) (by decide) hlt rest
  · obtain ⟨-, rfl⟩ := h
    exact ReadUintN_putBytes_of_lt o (n := 6) (by decide) hlt rest
  · obtain ⟨-, rfl⟩ := h
    exact ReadUintN_putBytes_of_lt o (n := 7) (by decide) hlt rest
  · subst h
    exact ReadUintN_putBytes_of_lt o (n := 8) (by decide) f.Offset.toNat_lt rest

theorem write_spec {f : StreamFrame} {version : VersionNumber} {bs : List UInt8}
    (hw : Returns (f.Write version) bs) :
    (0 < f.Data.length ∨ f.FinBit = true) ∧ ∃ sidBytes offBytes,
      bs = f.typeByte :: (sidBytes ++ offBytes ++
        ((if f.DataLenPresent then (GetByteOrder version).WriteUint16 f.Data.length.toUInt16
          else []) ++ f.Data)) ∧
      Returns (f.writeStreamID (GetByteOrder version)) sidBytes ∧
      Returns (f.writeOffset (GetByteOrder version)) offBytes := by
  unfold Write at hw
  by_cases hempty : f.Data.length = 0 ∧ !f.FinBit
  · rw [if_pos hempty] at hw
    exact absurd hw not_returns_throw
  rw [if_neg hempty] at hw
  obtain ⟨sb, hsb, hw⟩ := returns_bind.1 hw
  obtain ⟨ob, hob, hw⟩ := returns_bind.1 hw
  obtain rfl := returns_pure.1 hw
  refine ⟨?_, sb, ob, by simp, hsb, hob⟩
  cases hfin : f.FinBit
  · simp only [hfin, Bool.not_false, and_true] at hempty
    omega
  · exact .inr rfl

theorem mk_eq_self {f : StreamFrame} {fin dlp : Bool} {data : List UInt8} (hfin : f.FinBit = fin)
    (hdlp : f.DataLenPresent = dlp) (hdata : f.Data = data) :
    StreamFrame.mk f.StreamID fin dlp f.Offset data = f := by
  subst hfin hdlp hdata
  rfl

end StreamFrame

open StreamFrame in
theorem ParseStreamFrame_Write (version : VersionNumber) (rest : List UInt8) (f : StreamFrame)
    {bs : List UInt8} (hw : Returns (f.Write version) bs) (hlen : bs.length ≤ 1350)
    (hoff : f.Offset.toNat + f.Data.length < 2 ^ 64)
    (hlast : f.DataLenPresent = false → rest = []) :
    ParseStreamFrame version (bs ++ rest) = .ok (f, rest) := by
  obtain ⟨hne, sb, ob, rfl, hsb, hob⟩ := write_spec hw
  obtain ⟨-, hfin, hdlp, hol, hsl⟩ := typeByte_decode f
  have hdata : f.Data.length ≤ 1350 := by
    simp only [List.length_cons, List.length_append] at hlen
    omega
  -- the data comes back whole, and passes the two checks after it
  have hnil16 : UInt16.ofNat f.Data.length = 0 ↔ f.Data = [] := by
    rw [← List.length_eq_zero_iff, ← UInt16.toNat_inj, UInt16.toNat_ofNat', UInt16.toNat_zero]
    omega
  have hnil64 : UInt64.ofNat f.Data.length = 0 ↔ f.Data = [] := by
    rw [← List.length_eq_zero_iff, ← UInt64.toNat_inj, UInt64.toNat_ofNat', UInt64.toNat_zero]
    omega
  have hread : ReadFull (f.Data.length % 65536) (f.Data ++ rest) = .ok (f.Data, rest) := by
    rw [Nat.mod_eq_of_lt (by omega)]
    exact ReadFull_append f.Data rest
  have hnoov : ¬ f.Offset + UInt64.ofNat f.Data.length < f.Offset := by
    rw [UInt64.lt_iff_toNat_lt, UInt64.toNat_add, UInt64.toNat_ofNat',
      Nat.mod_eq_of_lt (a := f.Data.length) (by omega), Nat.mod_eq_of_lt hoff]
    omega
  simp only [ParseStreamFrame, List.cons_append, List.append_assoc]
  rw [Parser.bind_ok (ReadByte_cons _ _)]
  simp only [hsl, hol]
  rw [Parser.bind_ok (writeStreamID_spec hsb _), Parser.bind_ok (writeOffset_spec hob _)]
  cases hd : f.DataLenPresent
  · -- no data length: the frame is the last one, and its data is what is left of the packet
    obtain rfl := hlast hd
    simp [hdlp, hd, hfin, Protocol.MaxPacketSize]
    rw [Parser.bind_ok (rfl : ReadLen f.Data = .ok (f.Data.length, f.Data))]
    by_cases hnil : f.Data = []
    · have hf : f.FinBit = true := by simpa [hnil] using hne
      simp [hnil16.2 hnil, StreamFrame.DataLen, hf]
      exact ⟨mk_eq_self hf hd hnil, hnil⟩
    · have hread' : ReadFull (f.Data.length % 65536) f.Data = .ok (f.Data, []) := by
        simpa using hread
      simp [hnil16, hnil, StreamFrame.DataLen]
      rw [Parser.bind_ok hread']
      simp [hnoov, hnil64, hnil]
      exact mk_eq_self rfl hd rfl
  · simp [hdlp, hd, hfin, Protocol.MaxPacketSize]
    rw [Parser.bind_ok (ReadUint16_WriteUint16 _ _ _)]
    have hmax : ¬ 1350 < UInt16.ofNat f.Data.length := by
      rw [UInt16.lt_iff_toNat_lt, UInt16.toNat_ofNat']
      simp
      omega
    by_cases hnil : f.Data = []
    · have hf : f.FinBit = true := by simpa [hnil] using hne
      simp [hnil16.2 hnil, StreamFrame.DataLen, hf]
      exact ⟨mk_eq_self hf hd hnil, hnil⟩
    · simp [hmax, hnil16, hnil, StreamFrame.DataLen]
      rw [Parser.bind_ok hread]
      simp [hnoov, hnil64, hnil]
      exact mk_eq_self rfl hd rfl

/-! ## PATHS -/

namespace PathsFrame

/-- An RTT after the round trip through `ufloat16` microseconds. -/
def receivedRTT (rtt : Int64) : Int64 :=
  (ufloat16Value (ufloat16Bits (rtt / 1000).toUInt64)).toInt64 * 1000

/-- An address after the round trip: the IPv4 address `ParseIP` finds in it, printed as
`net.IP.String` prints one. -/
def receivedIP (ParseIP : String → Option IP) (addr : String) : String :=
  match (ParseIP addr).bind IP.To4 with
  | some [a, b, c, d] => ipv4String a b c d
  | _ => ""

/-- A port after the round trip: the 16 bits `strconv.ParseUint` finds in it, in decimal. -/
def receivedPort (port : String) : String :=
  match ParseUint16 port with
  | .ok p => toString p.toUInt16.toNat
  | .error _ => ""

/-- What `ParsePathsFrame` gives back: the RTTs rounded, and the addresses and ports, if the
frame carries any, in Go's formatting. -/
def received (ParseIP : String → Option IP) (f : PathsFrame) : PathsFrame :=
  { f with
    RemoteRTTs := f.RemoteRTTs.map receivedRTT
    RemoteAddrsIP := if f.NumIPs > 0 then f.RemoteAddrsIP.map (receivedIP ParseIP) else []
    RemoteAddrsPort := if f.NumIPs > 0 then f.RemoteAddrsPort.map receivedPort else [] }

/-- The frame the parser's loop has built after the first `i` paths. -/
def receivedUpTo (ParseIP : String → Option IP) (f : PathsFrame) (i : Nat) : PathsFrame :=
  { f with
    PathIDs := f.PathIDs.take i
    RemoteRTTs := (f.RemoteRTTs.take i).map receivedRTT
    RemoteAddrsIP := if f.NumIPs > 0 then (f.RemoteAddrsIP.take i).map (receivedIP ParseIP) else []
    RemoteAddrsPort := if f.NumIPs > 0 then (f.RemoteAddrsPort.take i).map receivedPort else [] }

/-- One round of the parser's loop reads back path `i`. -/
theorem writePath_step {ParseIP : String → Option IP} {f : PathsFrame} {o : ByteOrder} {i : Nat}
    {p : PathID} {bs : List UInt8} (h : Returns (f.writePath ParseIP o i p) bs)
    (hp : f.PathIDs[i]? = some p) (k : Nat) (rest : List UInt8) :
    parsePathsLoop o (k + 1) (f.receivedUpTo ParseIP i) (bs ++ rest) =
      parsePathsLoop o k (f.receivedUpTo ParseIP (i + 1)) rest := by
  unfold writePath at h
  obtain ⟨rtt, hrtt, h⟩ := returns_bind.1 h
  rw [returns_liftOption] at hrtt
  simp only [parsePathsLoop]
  by_cases hips : f.NumIPs > 0
  · rw [if_pos hips] at h
    obtain ⟨addr, haddr, h⟩ := returns_bind.1 h
    rw [returns_liftOption] at haddr
    split at h
    · next ip hip =>
      obtain ⟨portStr, hportStr, h⟩ := returns_bind.1 h
      rw [returns_liftOption] at hportStr
      obtain ⟨port, hport, rfl⟩ := returns_map.1 h
      rw [returns_liftExcept] at hport
      obtain ⟨a, b, c, d, rfl⟩ : ∃ a b c d, ip = [a, b, c, d] := by
        have := IP.length_To4 (Option.bind_eq_some_iff.1 hip).choose_spec.2
        match ip, this with
        | [a, b, c, d], _ => exact ⟨a, b, c, d, rfl⟩
      have hnum : (f.receivedUpTo ParseIP i).NumIPs > 0 := hips
      simp only [List.append_assoc, List.cons_append, List.nil_append]
      rw [Parser.bind_ok (ReadByte_cons _ _), Parser.bind_ok (ReadUfloat16_WriteUfloat16 _ _ _),
        if_pos hnum, Parser.bind_ok (ReadByte_cons _ _), Parser.bind_ok (ReadByte_cons _ _),
        Parser.bind_ok (ReadByte_cons _ _), Parser.bind_ok (ReadByte_cons _ _),
        Parser.bind_ok (ReadUint16_WriteUint16 _ _ _), Parser.bind_ok (Parser.pure_run _ _)]
      congr 1
      simp [receivedUpTo, List.take_add_one, hp, hrtt, haddr, hportStr, receivedIP, hip,
        receivedPort, hport, hips, receivedRTT]
    · exact absurd h not_returns_throw
  · rw [if_neg hips] at h
    obtain rfl := returns_pure.1 h
    have hnum : ¬ (f.receivedUpTo ParseIP i).NumIPs > 0 := hips
    simp only [List.cons_append, List.nil_append]
    rw [Parser.bind_ok (ReadByte_cons _ _), Parser.bind_ok (ReadUfloat16_WriteUfloat16 _ _ _),
      if_neg hnum, Parser.bind_ok (Parser.pure_run _ _)]
    congr 1
    simp [receivedUpTo, List.take_add_one, hp, hrtt, hips, receivedRTT]

/-- The parser's loop reads back the paths the writer's loop wrote from path `i` on. -/
theorem parsePathsLoop_writePaths {ParseIP : String → Option IP} {f : PathsFrame} {o : ByteOrder}
    (rest : List UInt8) :
    ∀ (ps : List PathID) (i : Nat) (bs : List UInt8), f.PathIDs.drop i = ps →
      Returns (f.writePaths ParseIP o i ps) bs →
      parsePathsLoop o ps.length (f.receivedUpTo ParseIP i) (bs ++ rest) =
        .ok (f.receivedUpTo ParseIP (i + ps.length), rest)
  | [], i, bs, _, h => by
    obtain rfl := returns_pure.1 h
    rfl
  | p :: ps, i, bs, hdrop, h => by
    obtain ⟨b, hb, h⟩ := returns_bind.1 h
    obtain ⟨bs', hbs', h⟩ := returns_bind.1 h
    obtain rfl := returns_pure.1 h
    have hp : f.PathIDs[i]? = some p := by
      rw [← List.head?_drop, hdrop]
      rfl
    have hdrop' : f.PathIDs.drop (i + 1) = ps := by
      rw [← List.drop_drop, hdrop]
      rfl
    rw [List.length_cons, List.append_assoc, writePath_step hb hp,
      parsePathsLoop_writePaths rest ps (i + 1) bs' hdrop' hbs', Nat.add_assoc, Nat.add_comm 1]

theorem receivedUpTo_length {ParseIP : String → Option IP} {f : PathsFrame}
    (hrtt : f.PathIDs.length = f.RemoteRTTs.length)
    (hip : f.RemoteAddrsIP.length ≤ f.PathIDs.length)
    (hport : f.RemoteAddrsPort.length ≤ f.PathIDs.length) :
    f.receivedUpTo ParseIP f.PathIDs.length = f.received ParseIP := by
  simp only [receivedUpTo, received, List.take_of_length_le (Nat.le_of_eq hrtt.symm),
    List.take_of_length_le hip, List.take_of_length_le hport, List.take_length]

end PathsFrame

open PathsFrame in
theorem ParsePathsFrame_Write (ParseIP : String → Option IP) (version : VersionNumber)
    (rest : List UInt8) (f : PathsFrame) {bs : List UInt8}
    (hw : Returns (f.Write ParseIP version) bs) (hmax : f.NumPaths ≤ f.MaxNumPaths) :
    ParsePathsFrame version (bs ++ rest) = .ok (f.received ParseIP, rest) := by
  unfold Write at hw
  split_ifs at hw with h1 h2 h3 h4 h5
  all_goals try exact absurd hw not_returns_throw
  obtain ⟨paths, hpaths, hw⟩ := returns_bind.1 hw
  obtain rfl := returns_pure.1 hw
  -- the writer sends addresses for every path or for none
  have hips : ¬ f.NumIPs > f.NumPaths := by
    rcases not_and_or.1 h2 with h | h <;> rw [not_not] at h <;> simp [h]
  have hloop := parsePathsLoop_writePaths rest f.PathIDs 0 paths rfl hpaths
  have hinit : f.receivedUpTo ParseIP 0 =
      { MaxNumPaths := f.MaxNumPaths, NumPaths := f.NumPaths, NumIPs := f.NumIPs, PathIDs := [],
        RemoteRTTs := [], RemoteAddrsIP := [], RemoteAddrsPort := [] } := by
    simp [receivedUpTo]
  simp only [ParsePathsFrame, List.cons_append, List.nil_append]
  rw [Parser.bind_ok (ReadByte_cons _ _), Parser.bind_ok (ReadByte_cons _ _),
    Parser.bind_ok (ReadByte_cons _ _), if_neg (UInt8.not_lt.2 hmax),
    Parser.bind_ok (ReadByte_cons _ _), if_neg hips, ← hinit, not_not.1 h1, hloop, Nat.zero_add,
    receivedUpTo_length (not_not.1 h3) (by omega) (by omega)]

end Wire
end PStream
