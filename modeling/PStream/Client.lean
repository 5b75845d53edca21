import PStream.Wire.SpecialPackets

/-!
# The packets a client reads itself

`client.handlePacket` (client.go) reads every packet that arrives for a client before its
session does.  It parses the public header in the version the client speaks, drops a packet for
another connection, and then

* closes the session on a public reset that came from the session's address for the session's
  connection ID, and ignores any other;
* ignores a version negotiation packet once one was handled or once the server took the version
  the client offered, and otherwise switches to the version it prefers of those the server named
  (`handlePacketWithVersionFlag`), with a new connection ID and a new session;
* takes the first packet without the version flag as the sign that the server took the offered
  version, and hands every such packet to the session.

The session, the connections and the channels are left out of the model; what `handlePacket`
does to them is the list of `Action`s it returns.

Over every run of packets a client closes `versionNegotiationChan` once at most, which Go needs
since closing a closed channel panics, and handles one version negotiation packet at most, after
which it speaks a version of its own list (`run_versionNegotiation`).  A server's version
negotiation packet makes a fresh client switch to the first of its versions the server speaks
(`handlePacket_ComposeVersionNegotiation`), and a public reset for its connection closes its
session when it comes from the session's address (`handlePacket_WritePublicReset`).
-/

set_option autoImplicit false

namespace PStream

open Protocol Wire Utils Utils.ByteOrder

/-- What `client.handlePacket` does besides changing the client. -/
inductive Action where
  /-- `close(c.versionNegotiationChan)`: the server took the version the client offered. -/
  | closeVersionNegotiationChan
  /-- `c.session.closeRemote`, for a public reset of that packet number. -/
  | closeRemote (rejectedPacketNumber : PacketNumber)
  /-- `c.session.Close(err)`. -/
  | closeSession (err : String)
  /-- `createNewSession` in the version chosen, with the versions the server named; the old
  session is closed. -/
  | newSession (version : VersionNumber) (negotiatedVersions : List VersionNumber)
  /-- `c.session.handlePacket`: the header and the data after it. -/
  | handOver (hdr : PublicHeader) (data : List UInt8)
  deriving DecidableEq, Repr

/-- What `handlePacket` reads and changes of a `client`: its connection ID and version, the two
flags of version negotiation, and of its `Config` the versions, in its order of preference, and
whether it asked for truncated connection IDs. -/
structure client where
  connectionID : ConnectionID
  version : VersionNumber
  versionNegotiated : Bool
  receivedVersionNegotiationPacket : Bool
  versions : List VersionNumber
  requestConnectionIDTruncation : Bool
  deriving DecidableEq, Repr

/-- A packet that arrives for the client: its bytes, whether it came from the session's remote
address, and the connection ID `utils.GenerateConnectionID` would give next. -/
structure receivedRawPacket where
  data : List UInt8
  fromRemoteAddr : Bool
  nextConnectionID : ConnectionID
  deriving DecidableEq, Repr

/-- The actions of version negotiation: a new session in another version, or the session closed
because no version fits. -/
def Action.switchesVersion : Action → Bool
  | .newSession .. => true
  | .closeSession _ => true
  | _ => false

/-- `qerr.InvalidVersion`, an error code, whose text is its name. -/
def InvalidVersion : String := "InvalidVersion"

namespace client

/-- `handlePacketWithVersionFlag`.  A packet that names the version the client offered is
ignored; otherwise the flag is set before the version is chosen, so it stays set when no version
fits. -/
def handlePacketWithVersionFlag (c : client) (hdr : PublicHeader)
    (nextConnectionID : ConnectionID) : client × List Action :=
  if hdr.SupportedVersions.any fun v => v == c.version then (c, [])
  else
    let c := { c with receivedVersionNegotiationPacket := true }
    let newVersion := ChooseSupportedVersion c.versions hdr.SupportedVersions
    if newVersion = VersionUnsupported then (c, [.closeSession InvalidVersion])
    else ({ c with version := newVersion, connectionID := nextConnectionID },
      [.newSession newVersion hdr.SupportedVersions])

/-- The part of `handlePacket` after the checks of the connection ID, for a packet that is not a
public reset. -/
def handleNonReset (c : client) (hdr : PublicHeader) (rest : List UInt8)
    (nextConnectionID : ConnectionID) : client × List Action :=
  -- delayed or duplicated version negotiation packets
  if (c.receivedVersionNegotiationPacket || c.versionNegotiated) ∧ hdr.VersionFlag then (c, [])
  else
    -- the first packet without the version flag: the server took the version offered
    let (c, closed) := if !hdr.VersionFlag ∧ !c.versionNegotiated then
        ({ c with versionNegotiated := true }, [Action.closeVersionNegotiationChan])
      else (c, [])
    if hdr.VersionFlag then
      let (c, acts) := c.handlePacketWithVersionFlag hdr nextConnectionID
      (c, closed ++ acts)
    else (c, closed ++ [.handOver hdr rest])

/-- `handlePacket`. -/
def handlePacket (c : client) (p : receivedRawPacket) : client × List Action :=
  match ParsePublicHeader .server c.version p.data with
  | .error _ => (c, [])
  | .ok (hdr, rest) =>
    if hdr.TruncateConnectionID ∧ !c.requestConnectionIDTruncation then (c, [])
    else if !hdr.TruncateConnectionID ∧ hdr.ConnectionID ≠ c.connectionID then (c, [])
    else if hdr.ResetFlag then
      -- a public reset from elsewhere may be an attacker's
      if !p.fromRemoteAddr ∨ hdr.ConnectionID ≠ c.connectionID then (c, [])
      else match ParsePublicReset rest with
        | .error _ => (c, [])
        | .ok (pr, _) => (c, [.closeRemote pr.RejectedPacketNumber])
    else c.handleNonReset hdr rest p.nextConnectionID

/-- The client and what it did after it read `packets` in turn. -/
def run (c : client) : List receivedRawPacket → client × List Action
  | [] => (c, [])
  | p :: packets =>
    let (c', acts) := c.handlePacket p
    let (c'', acts') := run c' packets
    (c'', acts ++ acts')

/-! ### What a run can do -/

/-- What a client can have done between `c` and `c'` with the actions `acts`: its versions stay,
`versionNegotiationChan` was closed exactly when the flag `versionNegotiated` was set, a version
negotiation packet was handled only before either flag was set and sets one, and the version it
speaks changed only there, to one of its own versions. -/
structure Negotiates (c c' : client) (acts : List Action) : Prop where
  versions : c'.versions = c.versions
  closes : acts.count .closeVersionNegotiationChan + c.versionNegotiated.toNat =
    c'.versionNegotiated.toNat
  switches : acts.countP Action.switchesVersion +
      (c.receivedVersionNegotiationPacket || c.versionNegotiated).toNat ≤
    (c'.receivedVersionNegotiationPacket || c'.versionNegotiated).toNat
  version : acts.countP Action.switchesVersion = 0 → c'.version = c.version
  version_mem : c'.version = c.version ∨ c'.version ∈ c.versions

/-- Actions that touch neither the channel nor the version, with the client as it was. -/
theorem Negotiates.quiet (c : client) {acts : List Action}
    (hclose : acts.count .closeVersionNegotiationChan = 0)
    (hswitch : acts.countP Action.switchesVersion = 0) : Negotiates c c acts where
  versions := rfl
  closes := by rw [hclose, Nat.zero_add]
  switches := by rw [hswitch, Nat.zero_add]
  version _ := rfl
  version_mem := Or.inl rfl

theorem Negotiates.trans {c₁ c₂ c₃ : client} {acts₁ acts₂ : List Action}
    (h₁ : Negotiates c₁ c₂ acts₁) (h₂ : Negotiates c₂ c₃ acts₂) :
    Negotiates c₁ c₃ (acts₁ ++ acts₂) where
  versions := h₂.versions.trans h₁.versions
  closes := by
    have := h₁.closes
    have := h₂.closes
    rw [List.count_append]
    omega
  switches := by
    have := h₁.switches
    have := h₂.switches
    rw [List.countP_append]
    omega
  version h := by
    rw [List.countP_append] at h
    rw [h₂.version (by omega), h₁.version (by omega)]
  version_mem := by
    rcases h₂.version_mem with h | h
    · rw [h]
      exact h₁.version_mem
    · rw [h₁.versions] at h
      exact Or.inr h

/-- A version negotiation packet handled before either flag is set sets one, and leaves the
client in a version of its own list if it does not close the session. -/
theorem handlePacketWithVersionFlag_negotiates (c : client) (hdr : PublicHeader)
    (nextConnectionID : ConnectionID) (hreceived : c.receivedVersionNegotiationPacket = false)
    (hnegotiated : c.versionNegotiated = false) :
    Negotiates c (c.handlePacketWithVersionFlag hdr nextConnectionID).1
      (c.handlePacketWithVersionFlag hdr nextConnectionID).2 := by
  unfold handlePacketWithVersionFlag
  split
  · exact Negotiates.quiet c rfl rfl
  · dsimp only
    split
    · -- no version fits: the session is closed, and the version stays
      exact ⟨rfl, by simp [hnegotiated], by simp [hreceived, hnegotiated, Action.switchesVersion],
        fun h => by simp [Action.switchesVersion] at h, Or.inl rfl⟩
    · rename_i hfits
      exact ⟨rfl, by simp [hnegotiated], by simp [hreceived, hnegotiated, Action.switchesVersion],
        fun h => by simp [Action.switchesVersion] at h, Or.inr (ChooseSupportedVersion_mem hfits).1⟩

theorem handleNonReset_negotiates (c : client) (hdr : PublicHeader) (rest : List UInt8)
    (nextConnectionID : ConnectionID) :
    Negotiates c (c.handleNonReset hdr rest nextConnectionID).1
      (c.handleNonReset hdr rest nextConnectionID).2 := by
  unfold handleNonReset
  split
  · exact Negotiates.quiet c rfl rfl
  · rename_i hfresh
    cases hv : hdr.VersionFlag
    · -- handed to the session, after the channel is closed if the flag was not set yet
      cases hn : c.versionNegotiated
      · simp only [Bool.not_false, and_self, if_true, Bool.false_eq_true, if_false]
        exact ⟨rfl, by simp [hn], by simp [Action.switchesVersion, Bool.toNat_le], fun _ => rfl,
          Or.inl rfl⟩
      · simp only [Bool.not_true, and_false, if_false, Bool.false_eq_true, List.nil_append]
        exact Negotiates.quiet c (by simp) (by simp [Action.switchesVersion])
    · -- a version negotiation packet, read only before either flag is set
      simp only [hv, and_true, Bool.or_eq_true, not_or] at hfresh
      simp only [Bool.not_true, if_true]
      exact handlePacketWithVersionFlag_negotiates c hdr nextConnectionID
        (by simpa using hfresh.1) (by simpa using hfresh.2)

theorem handlePacket_negotiates (c : client) (p : receivedRawPacket) :
    Negotiates c (c.handlePacket p).1 (c.handlePacket p).2 := by
  unfold handlePacket
  split
  · exact Negotiates.quiet c rfl rfl
  · split
    · exact Negotiates.quiet c rfl rfl
    · split
      · exact Negotiates.quiet c rfl rfl
      · split
        · -- a public reset changes nothing of version negotiation
          split
          · exact Negotiates.quiet c rfl rfl
          · split
            · exact Negotiates.quiet c rfl rfl
            · exact Negotiates.quiet c (by simp) (by simp [Action.switchesVersion])
        · exact handleNonReset_negotiates c _ _ _

theorem run_cons (c : client) (p : receivedRawPacket) (packets : List receivedRawPacket) :
    c.run (p :: packets) = (((c.handlePacket p).1.run packets).1,
      (c.handlePacket p).2 ++ ((c.handlePacket p).1.run packets).2) := rfl

theorem run_negotiates (c : client) :
    ∀ packets, Negotiates c (c.run packets).1 (c.run packets).2
  | [] => Negotiates.quiet c rfl rfl
  | p :: packets => by
    rw [run_cons]
    exact (handlePacket_negotiates c p).trans (run_negotiates _ packets)

/-- Over every run of packets, a client closes `versionNegotiationChan` once at most, and
handles one version negotiation packet at most; its version changes only there, to one of its
own versions. -/
theorem run_versionNegotiation (c : client) (packets : List receivedRawPacket) :
    (c.run packets).2.count .closeVersionNegotiationChan ≤ 1 ∧
      (c.run packets).2.countP Action.switchesVersion ≤ 1 ∧
      Negotiates c (c.run packets).1 (c.run packets).2 := by
  have h := run_negotiates c packets
  have hclose := h.closes
  have hswitch := h.switches
  have hb₁ := Bool.toNat_le (c.run packets).1.versionNegotiated
  have hb₂ := Bool.toNat_le
    ((c.run packets).1.receivedVersionNegotiationPacket || (c.run packets).1.versionNegotiated)
  exact ⟨by omega, by omega, h⟩

/-! ### The packets of a server -/

/-- A client that reads a packet as a public reset for a whole connection ID closes its session
exactly when the reset names its connection ID and came from the session's address. -/
theorem handlePacket_of_publicReset (c : client) {p : receivedRawPacket} {cid : ConnectionID}
    {rest r : List UInt8} {pr : PublicReset}
    (hheader : ParsePublicHeader .server c.version p.data =
      .ok ({ ConnectionID := cid, ResetFlag := true }, rest))
    (hreset : ParsePublicReset rest = .ok (pr, r)) :
    c.handlePacket p = (c, if p.fromRemoteAddr ∧ cid = c.connectionID then
      [.closeRemote pr.RejectedPacketNumber] else []) := by
  unfold handlePacket
  rw [hheader]
  dsimp only
  -- the connection ID, then the address
  by_cases hc : cid = c.connectionID
  · cases p.fromRemoteAddr <;> simp [hc, hreset]
  · simp [hc]

/-- A public reset closes the session exactly when it names the client's connection ID, which is
not 0, and comes from the session's address; any other changes nothing. -/
theorem handlePacket_WritePublicReset (c : client) (connectionID : ConnectionID)
    (rejectedPacketNumber nonceProof : UInt64) (fromRemoteAddr : Bool)
    (nextConnectionID : ConnectionID) :
    c.handlePacket ⟨WritePublicReset connectionID rejectedPacketNumber nonceProof, fromRemoteAddr,
        nextConnectionID⟩ =
      (c, if fromRemoteAddr ∧ connectionID = c.connectionID ∧ connectionID ≠ 0 then
        [.closeRemote rejectedPacketNumber] else []) := by
  have hheader := parseHeader_WritePublicReset nonceProof rejectedPacketNumber .server c.version
    connectionID
  by_cases h0 : connectionID = 0
  · rw [if_pos h0] at hheader
    unfold handlePacket
    rw [hheader]
    simp [h0]
  rw [if_neg h0] at hheader
  rw [handlePacket_of_publicReset c hheader
    (ParsePublicReset_WritePublicReset nonceProof rejectedPacketNumber connectionID)]
  simp [h0]

/-- A client that offered a version the server does not speak reads the server's version
negotiation packet before either flag is set: it switches, with a new connection ID, to the first
of its own versions the server speaks, or closes the session if there is none. -/
theorem handlePacket_ComposeVersionNegotiation (c : client) {serverVersions : List VersionNumber}
    (hv : ∀ v ∈ serverVersions, 0 ≤ v ∧ v < 1000) (hcid : c.connectionID ≠ 0)
    (hoffered : IsSupportedVersion serverVersions c.version = false)
    (hreceived : c.receivedVersionNegotiationPacket = false)
    (hnegotiated : c.versionNegotiated = false) (fromRemoteAddr : Bool)
    (nextConnectionID : ConnectionID) :
    c.handlePacket ⟨ComposeVersionNegotiation c.connectionID serverVersions, fromRemoteAddr,
        nextConnectionID⟩ =
      if ChooseSupportedVersion c.versions serverVersions = VersionUnsupported then
        ({ c with receivedVersionNegotiationPacket := true }, [.closeSession InvalidVersion])
      else
        ({ c with receivedVersionNegotiationPacket := true,
                  version := ChooseSupportedVersion c.versions serverVersions,
                  connectionID := nextConnectionID },
          [.newSession (ChooseSupportedVersion c.versions serverVersions) serverVersions]) := by
  have hheader := ParsePublicHeader_versionNegotiationBytes c.version c.connectionID hv
  rw [if_neg hcid] at hheader
  rw [ComposeVersionNegotiation_eq]
  -- the server's list does not hold the version offered
  have hany : (serverVersions.any fun v => v == c.version) = false := hoffered
  unfold handlePacket
  simp only [hheader, Bool.false_eq_true, false_and, if_false, ne_eq, not_true_eq_false,
    and_false]
  simp only [handleNonReset, hreceived, hnegotiated, Bool.or_false, Bool.false_eq_true, and_true,
    if_false, Bool.not_true, false_and, if_true, List.nil_append]
  simp only [handlePacketWithVersionFlag, hany, Bool.false_eq_true, if_false]
  split <;> simp [hnegotiated]

/-- Version negotiation between a server that speaks `serverVersions` and a fresh client that
offered a version the server does not speak.  After the client read the server's packet, it
speaks the first version of its own list that the server speaks, in a new session; or the server
speaks none of them, and the client closed the session. -/
theorem versionNegotiation_agrees (c : client) {serverVersions : List VersionNumber}
    (hv : ∀ v ∈ serverVersions, 0 ≤ v ∧ v < 1000) (hcid : c.connectionID ≠ 0)
    (hoffered : IsSupportedVersion serverVersions c.version = false)
    (hreceived : c.receivedVersionNegotiationPacket = false)
    (hnegotiated : c.versionNegotiated = false) (fromRemoteAddr : Bool)
    (nextConnectionID : ConnectionID) :
    let r := c.handlePacket ⟨ComposeVersionNegotiation c.connectionID serverVersions,
      fromRemoteAddr, nextConnectionID⟩
    (IsSupportedVersion serverVersions r.1.version = true ∧
        (∃ pre post, c.versions = pre ++ r.1.version :: post ∧
          ∀ w ∈ pre, IsSupportedVersion serverVersions w = false) ∧
        r.2 = [.newSession r.1.version serverVersions]) ∨
      ((∀ w ∈ c.versions, IsSupportedVersion serverVersions w = false) ∧
        r.2 = [.closeSession InvalidVersion]) := by
  intro r
  have hr : r = _ := handlePacket_ComposeVersionNegotiation c hv hcid hoffered hreceived
    hnegotiated fromRemoteAddr nextConnectionID
  rcases ChooseSupportedVersion_spec c.versions serverVersions with
    ⟨pre, post, hours, hmem, hpre⟩ | ⟨hnone, hall⟩
  · -- the version chosen is the server's, so it is not `VersionUnsupported`
    have hne : ChooseSupportedVersion c.versions serverVersions ≠ VersionUnsupported := by
      intro heq
      have := (hv _ hmem).1
      rw [heq] at this
      exact absurd this (by decide)
    rw [if_neg hne] at hr
    left
    rw [hr]
    refine ⟨(IsSupportedVersion_iff _ _).mpr hmem, ⟨pre, post, hours, fun w hw => ?_⟩, rfl⟩
    exact Bool.eq_false_iff.mpr fun h => hpre w hw ((IsSupportedVersion_iff _ _).mp h)
  · rw [if_pos hnone] at hr
    right
    rw [hr]
    exact ⟨fun w hw => Bool.eq_false_iff.mpr fun h => hall w hw ((IsSupportedVersion_iff _ _).mp h),
      rfl⟩

/-- A client that prefers the multipath version and then version 39, and offered version 40 to
a server that speaks 39, 38 and 37, switches to 39. -/
theorem versionNegotiation_agrees_version39 :
    let c : client := ⟨0x1234, 40, false, false, [VersionMP, Version39], false⟩
    let r := c.handlePacket ⟨ComposeVersionNegotiation c.connectionID [39, 38, 37], true, 0x5678⟩
    (IsSupportedVersion [39, 38, 37] r.1.version = true ∧
        (∃ pre post, c.versions = pre ++ r.1.version :: post ∧
          ∀ w ∈ pre, IsSupportedVersion [39, 38, 37] w = false) ∧
        r.2 = [.newSession r.1.version [39, 38, 37]]) ∨
      ((∀ w ∈ c.versions, IsSupportedVersion [39, 38, 37] w = false) ∧
        r.2 = [.closeSession InvalidVersion]) :=
  versionNegotiation_agrees ⟨0x1234, 40, false, false, [VersionMP, Version39], false⟩
    (by decide : ∀ v ∈ ([39, 38, 37] : List VersionNumber), 0 ≤ v ∧ v < 1000) (by decide)
    (by decide) rfl rfl true 0x5678

end client

end PStream
