import PStream.Wire.PublicHeader
import PStream.Crypto.CertCompression

/-!
# The packets that carry no frames

Two packets of the protocol are a public header and no frames.

* A server that does not speak the version a client offers answers with a **version negotiation
  packet** (`ComposeVersionNegotiation`): a header with the version flag and the client's
  connection ID, and then the versions the server speaks, four bytes each.
* An end that cannot go on with a connection answers with a **public reset**
  (`WritePublicReset`): a header with the reset flag, and then a handshake message of tag `PRST`
  with the nonce proof under `RNON` and the packet number that was rejected under `RSEQ`.

Both are read by `ParsePublicHeader`, and the message of a public reset then by
`ParsePublicReset`.  `ParsePublicHeader_ComposeVersionNegotiation` and
`ParsePublicHeader_WritePublicReset` say that the receiver reads back what was sent, whatever the
version of its session, and that a packet for the connection ID 0 is refused, as every header with
that connection ID is.  The client then picks, of its own versions, the first the server named
(`ChooseSupportedVersion`).
-/

set_option autoImplicit false

namespace PStream

namespace Protocol

def VersionUnsupported : VersionNumber := -1

/-- `IsSupportedVersion`: whether `v` is one of `supported`. -/
def IsSupportedVersion (supported : List VersionNumber) (v : VersionNumber) : Bool :=
  supported.any fun t => t == v

@[simp] theorem IsSupportedVersion_iff (supported : List VersionNumber) (v : VersionNumber) :
    IsSupportedVersion supported v = true ↔ v ∈ supported := by
  simp [IsSupportedVersion]

/-- `ChooseSupportedVersion`: the first of `ours`, in our order of preference, that `theirs`
holds. -/
def ChooseSupportedVersion : List VersionNumber → List VersionNumber → VersionNumber
  | [], _ => VersionUnsupported
  | ourVer :: ours, theirs =>
    if theirs.any fun theirVer => ourVer == theirVer then ourVer
    else ChooseSupportedVersion ours theirs

/-- `ChooseSupportedVersion` is the first of `ours` that `theirs` holds. -/
theorem ChooseSupportedVersion_eq_find? (ours theirs : List VersionNumber) :
    ChooseSupportedVersion ours theirs =
      (ours.find? fun ourVer => theirs.any fun theirVer => ourVer == theirVer).getD
        VersionUnsupported := by
  induction ours with
  | nil => rfl
  | cons ourVer ours ih =>
    -- the first of ours is taken exactly when theirs holds it
    cases h : theirs.any fun theirVer => ourVer == theirVer
    · simp only [ChooseSupportedVersion, List.find?_cons, h, Bool.false_eq_true, if_false, ih]
    · simp only [ChooseSupportedVersion, List.find?_cons, h, if_true, Option.getD_some]

/-- A version chosen is one of ours and one of theirs. -/
theorem ChooseSupportedVersion_mem {ours theirs : List VersionNumber}
    (h : ChooseSupportedVersion ours theirs ≠ VersionUnsupported) :
    ChooseSupportedVersion ours theirs ∈ ours ∧ ChooseSupportedVersion ours theirs ∈ theirs := by
  rw [ChooseSupportedVersion_eq_find?] at h ⊢
  cases hfind : ours.find? (fun ourVer => theirs.any fun theirVer => ourVer == theirVer) with
  | none => rw [hfind] at h; exact absurd rfl h
  | some v =>
    have hv := List.find?_some hfind
    simp only [List.any_eq_true, beq_iff_eq] at hv
    obtain ⟨w, hw, rfl⟩ := hv
    exact ⟨List.mem_of_find?_eq_some hfind, hw⟩

/-- `ChooseSupportedVersion` chooses the first of ours that theirs holds, or
`VersionUnsupported` when theirs holds none of ours. -/
theorem ChooseSupportedVersion_spec (ours theirs : List VersionNumber) :
    (∃ pre post, ours = pre ++ ChooseSupportedVersion ours theirs :: post ∧
        ChooseSupportedVersion ours theirs ∈ theirs ∧ ∀ w ∈ pre, w ∉ theirs) ∨
      (ChooseSupportedVersion ours theirs = VersionUnsupported ∧ ∀ w ∈ ours, w ∉ theirs) := by
  have hany : ∀ w, (theirs.any fun theirVer => w == theirVer) = true ↔ w ∈ theirs := by
    intro w
    simp only [List.any_beq, List.contains_iff_mem]
  rw [ChooseSupportedVersion_eq_find?]
  cases hfind : ours.find? (fun ourVer => theirs.any fun theirVer => ourVer == theirVer) with
  | none =>
    right
    exact ⟨rfl, fun w hw hmem => List.find?_eq_none.mp hfind w hw ((hany w).mpr hmem)⟩
  | some v =>
    left
    obtain ⟨hv, pre, post, hours, hpre⟩ := List.find?_eq_some_iff_append.mp hfind
    refine ⟨pre, post, hours, (hany v).mp hv, fun w hw hmem => ?_⟩
    have := hpre w hw
    rw [(hany w).mpr hmem] at this
    exact absurd this (by decide)

end Protocol

namespace Handshake

def TagPRST : Tag := 'P'.val + 'R'.val <<< 8 + 'S'.val <<< 16 + 'T'.val <<< 24
def TagRSEQ : Tag := 'R'.val + 'S'.val <<< 8 + 'E'.val <<< 16 + 'Q'.val <<< 24
def TagRNON : Tag := 'R'.val + 'N'.val <<< 8 + 'O'.val <<< 16 + 'N'.val <<< 24

end Handshake

namespace Wire

open Protocol Utils Utils.ByteOrder Handshake

/-- `ComposeVersionNegotiation`.  An error of `Write` is only logged, and the versions go after
whatever it wrote; the header here is one it writes whole. -/
def ComposeVersionNegotiation (connectionID : ConnectionID) (versions : List VersionNumber) :
    List UInt8 :=
  let responsePublicHeader : PublicHeader :=
    { ConnectionID := connectionID, PacketNumber := 1, VersionFlag := true }
  let fullReply := match (responsePublicHeader.Write VersionWhatever .server).run with
    | some (.ok written) => written
    | _ => []
  fullReply ++ versions.flatMap fun v => littleEndian.WriteUint32 (VersionNumberToTag v)

/-- A `PublicReset`. -/
structure PublicReset where
  RejectedPacketNumber : PacketNumber
  Nonce : UInt64
  deriving DecidableEq, Repr

/-- `WritePublicReset`: the flags `0x0a` are the reset flag and a whole connection ID, and the
message is written by hand, its two values eight bytes each. -/
def WritePublicReset (connectionID : ConnectionID) (rejectedPacketNumber : PacketNumber)
    (nonceProof : UInt64) : List UInt8 :=
  [0x0a] ++ littleEndian.WriteUint64 connectionID ++ littleEndian.WriteUint32 TagPRST ++
    littleEndian.WriteUint32 2 ++ littleEndian.WriteUint32 TagRNON ++ littleEndian.WriteUint32 8 ++
    littleEndian.WriteUint32 TagRSEQ ++ littleEndian.WriteUint32 16 ++
    littleEndian.WriteUint64 nonceProof ++ littleEndian.WriteUint64 rejectedPacketNumber

/-- `ParsePublicReset`, on what follows the public header. -/
def ParsePublicReset : Parser PublicReset := do
  let msg ← ParseHandshakeMessage
  if msg.Tag ≠ TagPRST then throw "wrong public reset tag"
  let some rseq := msg.Data.lookup TagRSEQ | throw "RSEQ missing"
  if rseq.length ≠ 8 then throw "invalid RSEQ tag"
  let some rnon := msg.Data.lookup TagRNON | throw "RNON missing"
  if rnon.length ≠ 8 then throw "invalid RNON tag"
  pure { RejectedPacketNumber := Crypto.littleEndianUint64 rseq,
         Nonce := Crypto.littleEndianUint64 rnon }

/-- A parser that fails on its first step fails with that error. -/
theorem Parser.bind_error {α β : Type} {p : Parser α} {f : α → Parser β} {s : List UInt8}
    {e : String} (h : p s = .error e) : (p >>= f) s = .error e := by
  simp only [bind, StateT.bind, h, Except.bind]

/-- A whole connection ID comes back, and is refused if it is 0. -/
theorem parseConnectionID_WriteUint64 {hdr : PublicHeader} (ht : hdr.TruncateConnectionID = false)
    (c : ConnectionID) (rest : List UInt8) :
    parseConnectionID hdr (littleEndian.WriteUint64 c ++ rest) =
      if c = 0 then .error errInvalidConnectionID else .ok ({ hdr with ConnectionID := c }, rest) := by
  simp only [parseConnectionID, ht, Bool.not_false, if_true]
  rw [Parser.bind_ok (ReadUint64_WriteUint64 _ _ _)]
  by_cases hc : c = 0
  · simp only [hc, if_true]
    rfl
  · simp only [hc, if_false]
    rfl

/-- A packet whose flags announce no nonce has none read, whoever sent it. -/
theorem parseDiversificationNonce_noNonce (packetSentBy : Perspective) {publicFlagByte : UInt8}
    (hflag : ¬ publicFlagByte &&& 0x04 > 0) (hdr : PublicHeader) (rest : List UInt8) :
    parseDiversificationNonce packetSentBy publicFlagByte hdr rest = .ok (hdr, rest) := by
  simp only [parseDiversificationNonce, hflag, and_false, if_false]
  rfl

section VersionNegotiation

/-! ### The version negotiation packet -/

theorem ComposeVersionNegotiation_eq (connectionID : ConnectionID) (versions : List VersionNumber) :
    ComposeVersionNegotiation connectionID versions = 0x09 :: (littleEndian.WriteUint64 connectionID ++
      versions.flatMap fun v => littleEndian.WriteUint32 (VersionNumberToTag v)) := by
  have hflags : ({ ConnectionID := connectionID, PacketNumber := 1, VersionFlag := true } :
      PublicHeader).publicFlagByte .server = 0x09 := by
    simp +decide [PublicHeader.publicFlagByte, PublicHeader.hasPacketNumber]
  simp [ComposeVersionNegotiation, PublicHeader.Write, PublicHeader.hasPacketNumber, hflags]

/-- The loop reads back every version of at most three digits, and stops at the end. -/
theorem supportedVersionsLoop_written {versions : List VersionNumber}
    (hv : ∀ v ∈ versions, 0 ≤ v ∧ v < 1000) :
    ∀ (fuel : Nat) (acc : List VersionNumber), versions.length < fuel →
      supportedVersionsLoop fuel acc
          (versions.flatMap fun v => littleEndian.WriteUint32 (VersionNumberToTag v)) =
        .ok (acc ++ versions, []) := by
  induction versions with
  | nil =>
    rintro (_ | fuel) acc hfuel
    · exact absurd hfuel (Nat.lt_irrefl 0)
    · simp only [List.flatMap_nil, List.append_nil]
      rfl
  | cons v vs ih =>
    rintro (_ | fuel) acc hfuel
    · exact absurd hfuel (Nat.not_lt_zero _)
    · obtain ⟨hv0, hv1⟩ := hv v List.mem_cons_self
      have hread := ReadUint32_WriteUint32 littleEndian (VersionNumberToTag v)
        (vs.flatMap fun v => littleEndian.WriteUint32 (VersionNumberToTag v))
      simp only [List.flatMap_cons, supportedVersionsLoop, hread]
      rw [ih (fun v' hv' => hv v' (List.mem_cons_of_mem v hv')) fuel _
        (by simp only [List.length_cons] at hfuel; omega),
        VersionTagToNumber_VersionNumberToTag hv0 hv1, List.append_assoc, List.singleton_append]

/-- A client reads back the bytes of a version negotiation packet, in a session of any version:
the flags `0x09`, the connection ID, which is refused if it is 0, and the versions, of at most
three digits each. -/
theorem ParsePublicHeader_versionNegotiationBytes (version : VersionNumber)
    (connectionID : ConnectionID) {versions : List VersionNumber}
    (hv : ∀ v ∈ versions, 0 ≤ v ∧ v < 1000) :
    ParsePublicHeader .server version (0x09 :: (littleEndian.WriteUint64 connectionID ++
        versions.flatMap fun v => littleEndian.WriteUint32 (VersionNumberToTag v))) =
      if connectionID = 0 then .error errInvalidConnectionID
      else .ok
        ({ ConnectionID := connectionID, VersionFlag := true, SupportedVersions := versions }, []) := by
  have hflags : parsePublicFlags .server version 0x09 = .ok { VersionFlag := true } := by
    simp +decide [parsePublicFlags]
  have hconn := parseConnectionID_WriteUint64
    (rfl : ({ VersionFlag := true } : PublicHeader).TruncateConnectionID = false) connectionID
    (versions.flatMap fun v => littleEndian.WriteUint32 (VersionNumberToTag v))
  simp only [ParsePublicHeader]
  rw [Parser.bind_ok (ReadByte_cons _ _), hflags, Parser.bind_ok (lift_ok _ _)]
  by_cases hc : connectionID = 0
  · rw [if_pos hc] at hconn ⊢
    exact Parser.bind_error hconn
  · rw [if_neg hc] at hconn ⊢
    rw [Parser.bind_ok hconn, Parser.bind_ok (parseDiversificationNonce_noNonce _ (by decide) _ _)]
    simp only [Bool.not_false, and_true, if_true]
    -- the versions are the rest of the packet, four bytes each
    have hlen : (versions.flatMap fun v => littleEndian.WriteUint32 (VersionNumberToTag v)).length =
        4 * versions.length := by
      simp [List.length_flatMap, length_WriteUint32, Nat.mul_comm]
    simp only [parseSupportedVersions]
    rw [Parser.bind_ok (show ReadLen _ = .ok (_, _) from rfl), hlen, if_neg (by omega),
      Parser.bind_ok (supportedVersionsLoop_written hv _ [] (by omega)), List.nil_append]
    rfl

/-- A client reads the version negotiation packet of a server back, in a session of any
version: the connection ID and the versions, of at most three digits each, come back, and a
packet for the connection ID 0 is refused. -/
theorem ParsePublicHeader_ComposeVersionNegotiation (version : VersionNumber)
    (connectionID : ConnectionID) {versions : List VersionNumber}
    (hv : ∀ v ∈ versions, 0 ≤ v ∧ v < 1000) :
    ParsePublicHeader .server version (ComposeVersionNegotiation connectionID versions) =
      if connectionID = 0 then .error errInvalidConnectionID
      else .ok
        ({ ConnectionID := connectionID, VersionFlag := true, SupportedVersions := versions }, []) := by
  rw [ComposeVersionNegotiation_eq]
  exact ParsePublicHeader_versionNegotiationBytes version connectionID hv

/-- The versions a server of this implementation speaks come back. -/
theorem ParsePublicHeader_ComposeVersionNegotiation_supported :
    ParsePublicHeader .server Version39 (ComposeVersionNegotiation 0x1234 [VersionMP, Version39]) =
      .ok ({ ConnectionID := 0x1234, VersionFlag := true,
             SupportedVersions := [VersionMP, Version39] }, []) := by
  have h := ParsePublicHeader_ComposeVersionNegotiation Version39 0x1234
    (by decide : ∀ v ∈ [VersionMP, Version39], 0 ≤ v ∧ v < 1000)
  rwa [if_neg (by decide)] at h

end VersionNegotiation

section PublicReset

/-! ### The public reset -/

variable (nonceProof rejectedPacketNumber : UInt64)

/-- The index and the values of the message of a public reset, as `Write` would put them out for
the map of its two values. -/
theorem writeEntries_publicReset :
    HandshakeMessage.writeEntries
        (((∅ : AList fun _ : Tag => List UInt8).insert TagRSEQ
          (littleEndian.WriteUint64 rejectedPacketNumber)).insert TagRNON
          (littleEndian.WriteUint64 nonceProof)) [TagRNON, TagRSEQ] 0 =
      (littleEndian.WriteUint32 TagRNON ++ littleEndian.WriteUint32 8 ++
          (littleEndian.WriteUint32 TagRSEQ ++ littleEndian.WriteUint32 16 ++ []),
        littleEndian.WriteUint64 nonceProof ++ (littleEndian.WriteUint64 rejectedPacketNumber ++ [])) := by
  simp only [writeEntries_cons, valueOf, AList.lookup_insert, Option.getD_some,
    AList.lookup_insert_ne (show TagRSEQ ≠ TagRNON by decide), length_WriteUint64]
  rfl

/-- The message of a public reset is read back: the rejected packet number and the nonce
proof. -/
theorem ParsePublicReset_written (rest : List UInt8) :
    ParsePublicReset (littleEndian.WriteUint32 TagPRST ++ littleEndian.WriteUint32 2 ++
        littleEndian.WriteUint32 TagRNON ++ littleEndian.WriteUint32 8 ++
        littleEndian.WriteUint32 TagRSEQ ++ littleEndian.WriteUint32 16 ++
        littleEndian.WriteUint64 nonceProof ++ littleEndian.WriteUint64 rejectedPacketNumber ++
        rest) =
      .ok ({ RejectedPacketNumber := rejectedPacketNumber, Nonce := nonceProof }, rest) := by
  have hentries := parseEntries_writeEntries
    (((∅ : AList fun _ : Tag => List UInt8).insert TagRSEQ
      (littleEndian.WriteUint64 rejectedPacketNumber)).insert TagRNON
      (littleEndian.WriteUint64 nonceProof)) rest [TagRNON, TagRSEQ] 0 ∅ (by
        simp [valueOf, AList.lookup_insert_ne (show TagRSEQ ≠ TagRNON by decide),
          -AList.insert_empty, length_WriteUint64, CryptoParameterMaxLength])
  rw [writeEntries_publicReset] at hentries
  simp only [List.append_nil] at hentries
  -- the message: its tag, two entries, the index of sixteen bytes and the two values
  have hmsg := calc ParseHandshakeMessage (littleEndian.WriteUint32 TagPRST ++
        (littleEndian.WriteUint32 2 ++ ((littleEndian.WriteUint32 TagRNON ++
          littleEndian.WriteUint32 8 ++ (littleEndian.WriteUint32 TagRSEQ ++
            littleEndian.WriteUint32 16)) ++ ((littleEndian.WriteUint64 nonceProof ++
              littleEndian.WriteUint64 rejectedPacketNumber) ++ rest))))
      _ = _ := by
        simp only [ParseHandshakeMessage]
        rw [Parser.bind_ok (readUint32_append _ _ (length_WriteUint32 ..)),
          Parser.bind_ok (readUint32_append _ _ (length_WriteUint32 ..)),
          littleEndianUint32_WriteUint32, littleEndianUint32_WriteUint32, if_neg (by decide),
          show ((2 : UInt32) * 8).toNat = (littleEndian.WriteUint32 TagRNON ++
            littleEndian.WriteUint32 8 ++ (littleEndian.WriteUint32 TagRSEQ ++
              littleEndian.WriteUint32 16)).length by simp,
          Parser.bind_ok (ReadFull_append _ _), show (2 : UInt32).toNat = [TagRNON, TagRSEQ].length
            from rfl, Parser.bind_ok hentries]
  simp only [List.append_assoc] at hmsg
  simp only [ParsePublicReset, List.append_assoc]
  rw [Parser.bind_ok hmsg]
  -- both values are there, eight bytes each
  simp [valueOf, AList.lookup_insert_ne (show TagRSEQ ≠ TagRNON by decide),
    AList.lookup_insert_ne (show TagRNON ≠ TagRSEQ by decide), -AList.insert_empty,
    length_WriteUint64, Crypto.littleEndianUint64_WriteUint64]

/-- The message of a public reset follows its flags and its connection ID. -/
theorem drop_WritePublicReset (connectionID : ConnectionID) :
    (WritePublicReset connectionID rejectedPacketNumber nonceProof).drop 9 =
      littleEndian.WriteUint32 TagPRST ++ littleEndian.WriteUint32 2 ++
        littleEndian.WriteUint32 TagRNON ++ littleEndian.WriteUint32 8 ++
        littleEndian.WriteUint32 TagRSEQ ++ littleEndian.WriteUint32 16 ++
        littleEndian.WriteUint64 nonceProof ++ littleEndian.WriteUint64 rejectedPacketNumber := by
  simp only [WritePublicReset, List.append_assoc, List.cons_append, List.nil_append,
    List.drop_succ_cons, List.drop_left' (length_WriteUint64 _ _)]

theorem WritePublicReset_eq_cons (connectionID : ConnectionID) :
    WritePublicReset connectionID rejectedPacketNumber nonceProof =
      0x0a :: (littleEndian.WriteUint64 connectionID ++
        (WritePublicReset connectionID rejectedPacketNumber nonceProof).drop 9) := by
  rw [drop_WritePublicReset]
  simp only [WritePublicReset, List.append_assoc, List.cons_append, List.nil_append]

/-- The message of a public reset is read back, with nothing left over. -/
theorem ParsePublicReset_WritePublicReset (connectionID : ConnectionID) :
    ParsePublicReset ((WritePublicReset connectionID rejectedPacketNumber nonceProof).drop 9) =
      .ok ({ RejectedPacketNumber := rejectedPacketNumber, Nonce := nonceProof }, []) := by
  simpa [drop_WritePublicReset] using ParsePublicReset_written nonceProof rejectedPacketNumber []

/-- The header of a public reset is read back by either end, in a session of any version: the
reset flag and the connection ID, which is refused if it is 0; the message is left. -/
theorem parseHeader_WritePublicReset (packetSentBy : Perspective) (version : VersionNumber)
    (connectionID : ConnectionID) :
    ParsePublicHeader packetSentBy version
        (WritePublicReset connectionID rejectedPacketNumber nonceProof) =
      if connectionID = 0 then .error errInvalidConnectionID
      else .ok ({ ConnectionID := connectionID, ResetFlag := true },
        (WritePublicReset connectionID rejectedPacketNumber nonceProof).drop 9) := by
  have hflags : parsePublicFlags packetSentBy version 0x0a = .ok { ResetFlag := true } := by
    cases packetSentBy <;> simp +decide [parsePublicFlags]
  have hconn := parseConnectionID_WriteUint64
    (rfl : ({ ResetFlag := true } : PublicHeader).TruncateConnectionID = false) connectionID
    ((WritePublicReset connectionID rejectedPacketNumber nonceProof).drop 9)
  nth_rewrite 1 [WritePublicReset_eq_cons]
  simp only [ParsePublicHeader]
  rw [Parser.bind_ok (ReadByte_cons _ _), hflags, Parser.bind_ok (lift_ok _ _)]
  by_cases hc : connectionID = 0
  · rw [if_pos hc] at hconn ⊢
    exact Parser.bind_error hconn
  · rw [if_neg hc] at hconn ⊢
    rw [Parser.bind_ok hconn, Parser.bind_ok (parseDiversificationNonce_noNonce _ (by decide) _ _)]
    -- not a version negotiation packet; no version, no path ID and no packet number
    simp only [Bool.not_true, Bool.false_eq_true, false_and, if_false]
    rfl

/-- Either end reads a public reset back, in a session of any version: the header has the reset
flag and the connection ID, which is refused if it is 0, and what follows it is the message
with the rejected packet number and the nonce proof. -/
theorem ParsePublicHeader_WritePublicReset (packetSentBy : Perspective) (version : VersionNumber)
    (connectionID : ConnectionID) :
    ParsePublicHeader packetSentBy version
        (WritePublicReset connectionID rejectedPacketNumber nonceProof) =
      (if connectionID = 0 then .error errInvalidConnectionID
        else .ok ({ ConnectionID := connectionID, ResetFlag := true },
          (WritePublicReset connectionID rejectedPacketNumber nonceProof).drop 9)) ∧
    ParsePublicReset ((WritePublicReset connectionID rejectedPacketNumber nonceProof).drop 9) =
      .ok ({ RejectedPacketNumber := rejectedPacketNumber, Nonce := nonceProof }, []) :=
  ⟨parseHeader_WritePublicReset nonceProof rejectedPacketNumber packetSentBy version connectionID,
    ParsePublicReset_WritePublicReset nonceProof rejectedPacketNumber connectionID⟩

end PublicReset

end Wire

end PStream
