import Mathlib.Data.List.AList
import PStream.Client
import PStream.Packer.Basic

/-!
# The packets a server reads

`server.handlePacket` (server.go) reads every packet that arrives at a server.  It peeks at the
connection ID, looks the connection up in `sessions`, and parses the public header in the version
of the connection's session, if it has one.  Then it

* drops a late packet for a closed session, whose entry is `nil` until a timer deletes it;
* answers a packet without the version flag for a connection it does not know with a public
  reset, and one that offers a version it does not speak with a version negotiation packet, if
  the packet is long enough to be a first packet;
* creates a session for a connection it does not know, in the version the packet offers, and
  hands every packet on to the connection's session.

The sessions themselves, the connections and the channels are left out: a session is the version
it speaks, and what the server does to them is the list of `Action`s it returns.  The goroutines
`handlePacket` and `removeConnection` start are part of the state, since they are what may later
close a session or delete its entry.

Over every run, a connection ID goes through the life `Lifecycle.next` describes: a session is
created only for a connection the server does not know and only in a version it speaks, packets go
only to the session of the connection their header names, and an entry is deleted only after its
session closed (`run_follows_lifecycle`).  With a client, version negotiation ends with a session
on either side in the same version (`versionNegotiation_establishes`), a server that forgot a
connection resets the client (`forgottenConnection_resets_client`), and it does so in answer to a
packet of nine bytes with a packet of 49 (`handlePacket_unknownConnection_reset`).
-/

set_option autoImplicit false

namespace PStream

open Protocol Wire Utils Utils.ByteOrder ExceptOption

namespace Protocol

/-- `ClientHelloMinimumSize`: the minimum size the server expects an inchoate CHLO to have. -/
def ClientHelloMinimumSize : Nat := 1024

end Protocol

/-- `qerr.Error(qerr.InvalidPacketHeader, msg)`, as its `Error()` prints it. -/
def qerrInvalidPacketHeader (msg : String) : String := "InvalidPacketHeader: " ++ msg

/-- What a server keeps of its connections: of its `Config` the versions it speaks, the map
`sessions` from connection ID to the version of the connection's session, or `none` for the
`nil` a closed session leaves, and the goroutines that are still waiting: for each session, the
one that calls `removeConnection` with the ID it was given once the session's `run` returns, and
for each call of `removeConnection`, the `time.AfterFunc` that deletes the entry. -/
structure server where
  versions : List VersionNumber
  sessions : AList fun _ : ConnectionID => Option VersionNumber
  running : List ConnectionID
  timers : List ConnectionID

namespace server

/-- A server that serves no connection yet, as `ListenAddr` sets it up. -/
def new (versions : List VersionNumber) : server := ⟨versions, ∅, [], []⟩

/-- A packet that arrives at the server: its bytes, and what `s.newSession` would return for it,
`nil` or an error. -/
structure receivedRawPacket where
  data : List UInt8
  newSessionError : Option String
  deriving DecidableEq, Repr

/-- What the server does besides changing its map and its goroutines. -/
inductive Action where
  /-- `pconn.WriteTo(data, remoteAddr)`: a packet back to where the packet came from. -/
  | writeTo (data : List UInt8)
  /-- `s.newSession` for the connection in the version, stored in `sessions`. -/
  | newSession (connectionID : ConnectionID) (version : VersionNumber)
  /-- `session.handlePacket`: the header and the data after it go to the connection's session. -/
  | handOver (connectionID : ConnectionID) (hdr : PublicHeader) (data : List UInt8)
  /-- `removeConnection`: the session's `run` returned, and its entry is set to `nil`. -/
  | removeConnection (id : ConnectionID)
  /-- The timer of `removeConnection` fired, and the entry is deleted. -/
  | deleteSession (id : ConnectionID)
  deriving DecidableEq, Repr

/-- The connection an action is about; a packet written is about none. -/
def Action.connection? : Action → Option ConnectionID
  | .writeTo _ => none
  | .newSession id _ => some id
  | .handOver id _ _ => some id
  | .removeConnection id => some id
  | .deleteSession id => some id

/-- The part of `handlePacket` after the header was parsed, for a connection whose entry is
`session`. -/
def handleHeader (s : server) (p : receivedRawPacket) (connID : ConnectionID)
    (session : Option (Option VersionNumber)) (hdr : PublicHeader) (rest : List UInt8) :
    server × List Action × Option String :=
  -- a public reset is only logged
  if hdr.ResetFlag then (s, [], none)
  -- an old packet, sent before the version was negotiated
  else if session.isSome ∧ hdr.VersionFlag ∧ !IsSupportedVersion s.versions hdr.VersionNumber then
    (s, [], none)
  else if hdr.VersionFlag ∧ !IsSupportedVersion s.versions hdr.VersionNumber then
    -- `hdr.Raw` is what the parser read
    if p.data.length < ClientHelloMinimumSize + (p.data.length - rest.length) then
      (s, [], some "dropping small packet with unknown version")
    else (s, [.writeTo (ComposeVersionNegotiation hdr.ConnectionID s.versions)], none)
  else if session.isNone then
    let version := hdr.VersionNumber
    if !IsSupportedVersion s.versions version then
      (s, [], some "Server BUG: negotiated version not supported")
    else match p.newSessionError with
      | some err => (s, [], some err)
      | none =>
        -- the goroutine that waits for the session to end removes the ID of the header
        ({ s with sessions := s.sessions.insert connID (some version),
                  running := hdr.ConnectionID :: s.running },
          [.newSession connID version, .handOver connID hdr rest], none)
  else (s, [.handOver connID hdr rest], none)

/-- `handlePacket`: the server afterwards, what it did, and the error it returns, which `serve`
only logs. -/
def handlePacket (s : server) (p : receivedRawPacket) : server × List Action × Option String :=
  match PeekConnectionID .client p.data with
  | .error err => (s, [], some (qerrInvalidPacketHeader err))
  | .ok (connID, _) =>
    let session := s.sessions.lookup connID
    -- a late packet for a closed session
    if session = some none then (s, [], none)
    else
      let version := session.join.getD VersionUnknown
      match ParsePublicHeader .client version p.data with
      | .error err =>
        -- the client speaks a version the server no longer knows of, or made up
        if err = ErrPacketWithUnknownVersion then
          (s, [.writeTo (WritePublicReset connID 0 0)], none)
        else (s, [], some (qerrInvalidPacketHeader err))
      | .ok (hdr, rest) => s.handleHeader p connID session hdr rest

/-- `removeConnection`: the entry becomes `nil`, and a timer will delete it. -/
def removeConnection (s : server) (id : ConnectionID) : server :=
  { s with sessions := s.sessions.insert id none, timers := id :: s.timers }

/-- What the runtime does next: `serve` reads a packet, the `run` of a session returns, or a timer
fires. -/
inductive Event where
  | packet (p : receivedRawPacket)
  | sessionReturned (id : ConnectionID)
  | timerFired (id : ConnectionID)
  deriving DecidableEq, Repr

/-- One event.  Only a goroutine that is waiting can return or fire; it then leaves the pool. -/
def step (s : server) : Event → server × List Action
  | .packet p => ((s.handlePacket p).1, (s.handlePacket p).2.1)
  | .sessionReturned id =>
    if id ∈ s.running then
      ({ s.removeConnection id with running := s.running.erase id }, [.removeConnection id])
    else (s, [])
  | .timerFired id =>
    if id ∈ s.timers then
      ({ s with sessions := s.sessions.erase id, timers := s.timers.erase id },
        [.deleteSession id])
    else (s, [])

/-- The server and what it did after the events `es`, in turn. -/
def run (s : server) : List Event → server × List Action
  | [] => (s, [])
  | e :: es =>
    let (s', acts) := s.step e
    let (s'', acts') := s'.run es
    (s'', acts ++ acts')

section ConnectionID

variable {header h' : PublicHeader} {bs bs' : List UInt8}

theorem parsePublicFlags_client {version : VersionNumber} {b : UInt8} {header : PublicHeader}
    (h : parsePublicFlags .client version b = .ok header) :
    header.TruncateConnectionID = false ∧ ¬ b &&& 0x08 = 0 := by
  have ht : ¬ b &&& 0x08 = 0 := by
    intro ht
    simp only [parsePublicFlags, ht, decide_true, true_and] at h
    split_ifs at h <;> simp [bind, Except.bind, throw, throwThe, MonadExceptOf.throw] at h
  refine ⟨?_, ht⟩
  simp only [parsePublicFlags, ht, decide_false] at h
  split_ifs at h <;>
    simp [bind, Except.bind, throw, throwThe, MonadExceptOf.throw, pure, Except.pure] at h <;>
    rw [← h]

theorem ConnectionID_parseDiversificationNonce {pers : Perspective} {flags : UInt8}
    (h : parseDiversificationNonce pers flags header bs = .ok (h', bs')) :
    h'.ConnectionID = header.ConnectionID := by
  unfold parseDiversificationNonce at h
  split_ifs at h
  · obtain ⟨_, _, -, h⟩ := Parser.ok_of_bind_ok h
    cases h
    rfl
  all_goals cases h; rfl

theorem ConnectionID_parseVersionNumber (h : parseVersionNumber header bs = .ok (h', bs')) :
    h'.ConnectionID = header.ConnectionID := by
  unfold parseVersionNumber at h
  split_ifs at h
  · obtain ⟨_, _, -, h⟩ := Parser.ok_of_bind_ok h
    cases h
    rfl
  · cases h
    rfl

theorem ConnectionID_parsePathID (h : parsePathID header bs = .ok (h', bs')) :
    h'.ConnectionID = header.ConnectionID := by
  unfold parsePathID at h
  split_ifs at h
  · obtain ⟨_, _, -, h⟩ := Parser.ok_of_bind_ok h
    cases h
    rfl
  · cases h
    rfl

theorem ConnectionID_parsePacketNumber {pers : Perspective} {version : VersionNumber}
    (h : parsePacketNumber pers version header bs = .ok (h', bs')) :
    h'.ConnectionID = header.ConnectionID := by
  unfold parsePacketNumber at h
  split_ifs at h
  · obtain ⟨_, _, -, h⟩ := Parser.ok_of_bind_ok h
    cases h
    rfl
  · cases h
    rfl

theorem ParsePublicHeader_client_ConnectionID {version : VersionNumber} {data rest : List UInt8}
    {hdr : PublicHeader} (h : ParsePublicHeader .client version data = .ok (hdr, rest)) :
    ∃ b bs bs', data = b :: bs ∧ ¬ b &&& 0x08 = 0 ∧
      littleEndian.ReadUint64 bs = .ok (hdr.ConnectionID, bs') := by
  simp only [ParsePublicHeader] at h
  obtain ⟨b, bs, hb, hflags⟩ := Parser.ok_of_bind_ok h
  obtain ⟨flags, s₁, hlift, hconn⟩ := Parser.ok_of_bind_ok hflags
  obtain ⟨h₁, s₂, hconn, hnonce⟩ := Parser.ok_of_bind_ok hconn
  obtain ⟨h₂, s₃, hnonce, hrest⟩ := Parser.ok_of_bind_ok hnonce
  -- the byte of flags, then the flags it holds
  have hdata : data = b :: bs := by
    cases data with
    | nil => cases hb
    | cons x xs => simp only [ReadByte_cons, Except.ok.injEq, Prod.mk.injEq] at hb; rw [hb.1, hb.2]
  have hpf : parsePublicFlags .client version b = .ok flags ∧ s₁ = bs := by
    cases hp : parsePublicFlags .client version b with
    | error e => simp [StateT.lift, hp, bind, Except.bind] at hlift
    | ok f => simp [StateT.lift, hp, bind, Except.bind, pure, Except.pure] at hlift; simp [hlift]
  obtain ⟨htrunc, hwhole⟩ := parsePublicFlags_client hpf.1
  rw [hpf.2] at hconn
  -- the connection ID, which is not 0
  simp only [parseConnectionID, htrunc, Bool.not_false, if_true] at hconn
  obtain ⟨cid, s', hread, hconn⟩ := Parser.ok_of_bind_ok hconn
  have hcid : h₁.ConnectionID = cid := by
    split_ifs at hconn
    · obtain ⟨_, _, hthrow, -⟩ := Parser.ok_of_bind_ok hconn
      cases hthrow
    · rw [Parser.pure_run] at hconn
      simp only [Except.ok.injEq, Prod.mk.injEq] at hconn
      rw [← hconn.1]
  -- a client's packet is no version negotiation packet
  simp only [reduceCtorEq, and_false, if_false] at hrest
  obtain ⟨h₃, s₄, hver, hrest⟩ := Parser.ok_of_bind_ok hrest
  obtain ⟨h₄, s₅, hpath, hpn⟩ := Parser.ok_of_bind_ok hrest
  refine ⟨b, bs, s', hdata, hwhole, ?_⟩
  rw [ConnectionID_parsePacketNumber hpn, ConnectionID_parsePathID hpath,
    ConnectionID_parseVersionNumber hver, ConnectionID_parseDiversificationNonce hnonce, hcid]
  exact hread

theorem PeekConnectionID_client {data d : List UInt8} {connID : ConnectionID}
    (h : PeekConnectionID .client data = .ok (connID, d)) :
    ∃ b bs bs', data = b :: bs ∧ ¬ b &&& 0x08 = 0 ∧
      littleEndian.ReadUint64 bs = .ok (connID, bs') := by
  cases data with
  | nil => cases h
  | cons b bs =>
    simp only [PeekConnectionID, ReadByte_cons, and_true, bind, Except.bind] at h
    by_cases ht : b &&& 0x08 = 0
    · -- a truncated connection ID is refused
      simp [ht, throw, throwThe, MonadExceptOf.throw] at h
    · simp only [ht, if_false, decide_false, Bool.not_false, if_true] at h
      cases hread : littleEndian.ReadUint64 bs with
      | error e => simp [hread] at h
      | ok r =>
        simp only [hread, pure, Except.pure, Except.ok.injEq, Prod.mk.injEq] at h
        exact ⟨b, bs, r.2, rfl, ht, by rw [← h.1, hread]⟩

/-- The ID a client's packet is looked up under is the one its header is parsed with. -/
theorem ConnectionID_of_PeekConnectionID {data d rest : List UInt8} {connID : ConnectionID}
    {version : VersionNumber} {hdr : PublicHeader}
    (hpeek : PeekConnectionID .client data = .ok (connID, d))
    (hparse : ParsePublicHeader .client version data = .ok (hdr, rest)) :
    hdr.ConnectionID = connID := by
  obtain ⟨b, bs, bs', rfl, -, hread⟩ := PeekConnectionID_client hpeek
  obtain ⟨b', cs, cs', hdata, -, hread'⟩ := ParsePublicHeader_client_ConnectionID hparse
  obtain ⟨-, rfl⟩ := List.cons.inj hdata
  rw [hread] at hread'
  simp only [Except.ok.injEq, Prod.mk.injEq] at hread'
  exact hread'.1.symm

end ConnectionID

section Cases

variable {s s' : server} {p : receivedRawPacket} {acts : List Action} {err : Option String}

theorem handleHeader_cases {connID : ConnectionID} {session : Option (Option VersionNumber)}
    {hdr : PublicHeader} {rest : List UInt8} (hclosed : session ≠ some none)
    (h : s.handleHeader p connID session hdr rest = (s', acts, err)) :
    (s' = s ∧ acts = []) ∨
    (s' = s ∧ acts = [.writeTo (ComposeVersionNegotiation hdr.ConnectionID s.versions)]) ∨
    (∃ v, session = some (some v) ∧ s' = s ∧ acts = [.handOver connID hdr rest]) ∨
    (session = none ∧ hdr.VersionNumber ∈ s.versions ∧
      s' = { s with sessions := s.sessions.insert connID (some hdr.VersionNumber),
                    running := hdr.ConnectionID :: s.running } ∧
      acts = [.newSession connID hdr.VersionNumber, .handOver connID hdr rest]) := by
  unfold handleHeader at h
  dsimp only at h
  split_ifs at h with hreset hold hunsupported hsmall hnone hbug
  -- a reset, an old packet, or a first packet too small to be answered
  · cases h
    exact .inl ⟨rfl, rfl⟩
  · cases h
    exact .inl ⟨rfl, rfl⟩
  · cases h
    exact .inl ⟨rfl, rfl⟩
  · cases h
    exact .inr (.inl ⟨rfl, rfl⟩)
  · cases h
    exact .inl ⟨rfl, rfl⟩
  · split at h
    · cases h
      exact .inl ⟨rfl, rfl⟩
    · -- a new session, in the version the packet offers
      cases h
      refine .inr (.inr (.inr ⟨Option.isNone_iff_eq_none.mp hnone, ?_, rfl, rfl⟩))
      simpa using hbug
  · -- the connection's session
    cases h
    rcases session with _ | _ | v
    · exact absurd rfl hnone
    · exact absurd rfl hclosed
    · exact .inr (.inr (.inl ⟨v, rfl, rfl, rfl⟩))

/-- Everything `handlePacket` can do: nothing, answer the packet, hand it to the session of the
connection its header names, or create that session first, in a version the server speaks, for a
connection it does not know.  Every error leaves the server as it was. -/
theorem handlePacket_cases (h : s.handlePacket p = (s', acts, err)) :
    (s' = s ∧ acts = []) ∨
    (s' = s ∧ ∃ data, acts = [.writeTo data]) ∨
    (∃ id v hdr rest, s.sessions.lookup id = some (some v) ∧ hdr.ConnectionID = id ∧
      s' = s ∧ acts = [.handOver id hdr rest]) ∨
    (∃ id hdr rest, s.sessions.lookup id = none ∧ hdr.ConnectionID = id ∧
      hdr.VersionNumber ∈ s.versions ∧
      s' = { s with sessions := s.sessions.insert id (some hdr.VersionNumber),
                    running := id :: s.running } ∧
      acts = [.newSession id hdr.VersionNumber, .handOver id hdr rest]) := by
  unfold handlePacket at h
  split at h
  · cases h
    exact .inl ⟨rfl, rfl⟩
  rename_i connID d hpeek
  dsimp only at h
  split_ifs at h with hclosed
  · cases h
    exact .inl ⟨rfl, rfl⟩
  split at h
  · -- a header that does not parse: a public reset for a packet of an unknown version
    split_ifs at h
    · cases h
      exact .inr (.inl ⟨rfl, _, rfl⟩)
    · cases h
      exact .inl ⟨rfl, rfl⟩
  rename_i hdr rest hparse
  have hcid := ConnectionID_of_PeekConnectionID hpeek hparse
  rcases handleHeader_cases hclosed h with
    ⟨rfl, rfl⟩ | ⟨rfl, rfl⟩ | ⟨v, hv, rfl, rfl⟩ | ⟨hv, hmem, rfl, rfl⟩
  · exact .inl ⟨rfl, rfl⟩
  · exact .inr (.inl ⟨rfl, _, rfl⟩)
  · exact .inr (.inr (.inl ⟨connID, v, hdr, rest, hv, hcid, rfl, rfl⟩))
  · refine .inr (.inr (.inr ⟨connID, hdr, rest, hv, hcid, hmem, ?_, rfl⟩))
    rw [hcid]

end Cases

end server

/-! ## The life of a connection -/

/-- What a connection ID is to a server: unknown, served by a session in a version, or closed,
its entry `nil` until the timer deletes it. -/
inductive Lifecycle where
  | unknown
  | serving (version : VersionNumber)
  | closed
  deriving DecidableEq, Repr

namespace Lifecycle

/-- How the life of the connection `id` goes on with an action about it: a session in a version
of `versions` for an unknown connection, packets whose header names the connection for its
session, the end of the session, and the deletion of its entry.  Anything else is a fault. -/
def next (versions : List VersionNumber) (id : ConnectionID) :
    Lifecycle → server.Action → Option Lifecycle
  | .unknown, .newSession _ v => if v ∈ versions then some (.serving v) else none
  | .serving v, .handOver _ hdr _ => if hdr.ConnectionID = id then some (.serving v) else none
  | .serving _, .removeConnection _ => some .closed
  | .closed, .deleteSession _ => some .unknown
  | _, _ => none

/-- The life after the actions `acts`, or `none` if one of them is a fault. -/
def follows (versions : List VersionNumber) (id : ConnectionID) (l : Lifecycle)
    (acts : List server.Action) : Option Lifecycle :=
  acts.foldlM (fun l a => l.next versions id a) l

end Lifecycle

namespace server

/-- The life of the connection `id` the map of `s` records. -/
def lifecycle (s : server) (id : ConnectionID) : Lifecycle :=
  match s.sessions.lookup id with
  | none => .unknown
  | some none => .closed
  | some (some v) => .serving v

/-- What the server keeps true: every session speaks a version the server speaks, a session's
goroutine waits exactly while the session is in the map, and a timer exactly while a `nil` is,
one of each per connection. -/
structure Inv (s : server) : Prop where
  supported : ∀ id v, s.sessions.lookup id = some (some v) → v ∈ s.versions
  mem_running : ∀ id, id ∈ s.running ↔ ∃ v, s.sessions.lookup id = some (some v)
  mem_timers : ∀ id, id ∈ s.timers ↔ s.sessions.lookup id = some none
  nodup_running : s.running.Nodup
  nodup_timers : s.timers.Nodup

theorem Inv.new (versions : List VersionNumber) : (new versions).Inv where
  supported _ _ h := by simp [server.new] at h
  mem_running _ := by simp [server.new]
  mem_timers _ := by simp [server.new]
  nodup_running := List.nodup_nil
  nodup_timers := List.nodup_nil

/-- What a stretch of a run from `s` to `s'` with the actions `acts` keeps: the invariant, the
versions, and for every connection, a life that goes from the one `s` records to the one `s'`
records. -/
structure Follows (s s' : server) (acts : List Action) : Prop where
  inv : s'.Inv
  versions : s'.versions = s.versions
  follows : ∀ id, (s.lifecycle id).follows s.versions id
    (acts.filter fun a => a.connection? = some id) = some (s'.lifecycle id)

theorem Follows.trans {s₁ s₂ s₃ : server} {acts₁ acts₂ : List Action}
    (h₁ : Follows s₁ s₂ acts₁) (h₂ : Follows s₂ s₃ acts₂) :
    Follows s₁ s₃ (acts₁ ++ acts₂) where
  inv := h₂.inv
  versions := h₂.versions.trans h₁.versions
  follows id := by
    rw [List.filter_append, Lifecycle.follows, List.foldlM_append]
    have h := h₁.follows id
    rw [Lifecycle.follows] at h
    rw [h, Option.bind_eq_bind, Option.bind_some, ← h₁.versions]
    exact h₂.follows id

/-- A stretch whose actions are all about the connection `id` leaves the life of every other
connection, whose entry it does not touch, as it was. -/
theorem follows_of_ne {s s' : server} {acts : List Action} {id id' : ConnectionID}
    (hacts : ∀ a ∈ acts, a.connection? = some id) (hid : id ≠ id')
    (hlookup : s'.sessions.lookup id' = s.sessions.lookup id') :
    (s.lifecycle id').follows s.versions id' (acts.filter fun a => a.connection? = some id') =
      some (s'.lifecycle id') := by
  rw [List.filter_eq_nil_iff.mpr fun a ha => by simp [hacts a ha, hid]]
  simp [Lifecycle.follows, lifecycle, hlookup]

section Steps

variable {s : server} (hs : s.Inv)
include hs

/-- Actions about no connection change no life. -/
theorem Follows.quiet {acts : List Action} (hacts : ∀ a ∈ acts, a.connection? = none) :
    Follows s s acts where
  inv := hs
  versions := rfl
  follows id := by
    rw [List.filter_eq_nil_iff.mpr fun a ha => by simp [hacts a ha]]
    rfl

/-- A packet for a session goes on to the session of the connection its header names. -/
theorem Follows.handOver {id : ConnectionID} {v : VersionNumber} {hdr : PublicHeader}
    {rest : List UInt8} (hv : s.sessions.lookup id = some (some v)) (hcid : hdr.ConnectionID = id) :
    Follows s s [.handOver id hdr rest] where
  inv := hs
  versions := rfl
  follows id' := by
    by_cases hid : id = id'
    · subst hid
      simp [Action.connection?, lifecycle, hv, Lifecycle.follows, Lifecycle.next, hcid]
    · simp [Action.connection?, hid, Lifecycle.follows]

/-- A new session, in a version the server speaks, for a connection it does not know. -/
theorem Follows.newSession {id : ConnectionID} {hdr : PublicHeader} {rest : List UInt8}
    (hnone : s.sessions.lookup id = none) (hcid : hdr.ConnectionID = id)
    (hmem : hdr.VersionNumber ∈ s.versions) :
    Follows s { s with sessions := s.sessions.insert id (some hdr.VersionNumber),
                       running := id :: s.running }
      [.newSession id hdr.VersionNumber, .handOver id hdr rest] := by
  -- the connection was neither served nor closed, so no goroutine waits for it
  have hrun : id ∉ s.running := fun h => by
    obtain ⟨v, hv⟩ := (hs.mem_running id).mp h
    rw [hnone] at hv
    cases hv
  have htimer : id ∉ s.timers := fun h => by
    rw [hs.mem_timers id, hnone] at h
    cases h
  refine ⟨⟨fun id' v hv => ?_, fun id' => ?_, fun id' => ?_,
    List.nodup_cons.mpr ⟨hrun, hs.nodup_running⟩, hs.nodup_timers⟩, rfl, fun id' => ?_⟩
  · by_cases hid : id' = id
    · subst hid
      simp only [AList.lookup_insert, Option.some.injEq] at hv
      exact hv ▸ hmem
    · rw [AList.lookup_insert_ne hid] at hv
      exact hs.supported id' v hv
  · by_cases hid : id' = id
    · subst hid
      simp
    · simp [AList.lookup_insert_ne hid, hid, hs.mem_running id']
  · by_cases hid : id' = id
    · subst hid
      simp [htimer]
    · simp [AList.lookup_insert_ne hid, hs.mem_timers id']
  · by_cases hid : id = id'
    · subst hid
      simp [Action.connection?, lifecycle, hnone, Lifecycle.follows, Lifecycle.next, hcid, hmem]
    · exact follows_of_ne (by simp [Action.connection?]) hid (AList.lookup_insert_ne (Ne.symm hid))

theorem Follows.handlePacket (p : receivedRawPacket) :
    Follows s (s.handlePacket p).1 (s.handlePacket p).2.1 := by
  rcases hp : s.handlePacket p with ⟨s', acts, err⟩
  rcases handlePacket_cases hp with ⟨rfl, rfl⟩ | ⟨rfl, d, rfl⟩ |
    ⟨id, v, hdr, rest, hv, hcid, rfl, rfl⟩ | ⟨id, hdr, rest, hnone, hcid, hmem, rfl, rfl⟩
  · exact Follows.quiet hs (by simp)
  · exact Follows.quiet hs (by simp [Action.connection?])
  · exact Follows.handOver hs hv hcid
  · exact Follows.newSession hs hnone hcid hmem

/-- The end of a session closes its connection, and starts the timer that deletes the entry. -/
theorem Follows.sessionReturned (id : ConnectionID) :
    Follows s (s.step (.sessionReturned id)).1 (s.step (.sessionReturned id)).2 := by
  simp only [step]
  split_ifs with hrun
  · obtain ⟨v, hv⟩ := (hs.mem_running id).mp hrun
    have htimer : id ∉ s.timers := fun h => by
      rw [hs.mem_timers id, hv] at h
      cases h
    refine ⟨⟨fun id' v' hv' => ?_, fun id' => ?_, fun id' => ?_, hs.nodup_running.erase id,
      List.nodup_cons.mpr ⟨htimer, hs.nodup_timers⟩⟩, rfl, fun id' => ?_⟩
    · by_cases hid : id' = id
      · subst hid
        simp [removeConnection] at hv'
      · simp only [removeConnection, AList.lookup_insert_ne hid] at hv'
        exact hs.supported id' v' hv'
    · by_cases hid : id' = id
      · subst hid
        simp [removeConnection, hs.nodup_running.mem_erase_iff]
      · simp [removeConnection, hs.nodup_running.mem_erase_iff, hid, AList.lookup_insert_ne hid,
          hs.mem_running id']
    · by_cases hid : id' = id
      · subst hid
        simp [removeConnection]
      · simp [removeConnection, hid, AList.lookup_insert_ne hid, hs.mem_timers id']
    · by_cases hid : id = id'
      · subst hid
        simp [Action.connection?, lifecycle, hv, removeConnection, Lifecycle.follows,
          Lifecycle.next]
      · exact follows_of_ne (by simp [Action.connection?]) hid
          (AList.lookup_insert_ne (Ne.symm hid))
  · exact Follows.quiet hs (by simp)

/-- The timer deletes the entry of a closed connection, which the server then no longer knows. -/
theorem Follows.timerFired (id : ConnectionID) :
    Follows s (s.step (.timerFired id)).1 (s.step (.timerFired id)).2 := by
  simp only [step]
  split_ifs with htimer
  · have hnil := (hs.mem_timers id).mp htimer
    refine ⟨⟨fun id' v' hv' => ?_, fun id' => ?_, fun id' => ?_, hs.nodup_running,
      hs.nodup_timers.erase id⟩, rfl, fun id' => ?_⟩
    · by_cases hid : id' = id
      · subst hid
        simp at hv'
      · rw [AList.lookup_erase_ne hid] at hv'
        exact hs.supported id' v' hv'
    · by_cases hid : id' = id
      · subst hid
        simp only [AList.lookup_erase, reduceCtorEq, exists_false, iff_false]
        rw [hs.mem_running _, hnil]
        simp
      · simp [AList.lookup_erase_ne hid, hs.mem_running id']
    · by_cases hid : id' = id
      · subst hid
        simp [hs.nodup_timers.mem_erase_iff]
      · simp [hs.nodup_timers.mem_erase_iff, hid, AList.lookup_erase_ne hid, hs.mem_timers id']
    · by_cases hid : id = id'
      · subst hid
        simp [Action.connection?, lifecycle, hnil, Lifecycle.follows, Lifecycle.next]
      · exact follows_of_ne (by simp [Action.connection?]) hid
          (AList.lookup_erase_ne (Ne.symm hid))
  · exact Follows.quiet hs (by simp)

theorem Follows.step (e : Event) : Follows s (s.step e).1 (s.step e).2 := by
  cases e with
  | packet p => exact Follows.handlePacket hs p
  | sessionReturned id => exact Follows.sessionReturned hs id
  | timerFired id => exact Follows.timerFired hs id

end Steps

theorem run_cons (s : server) (e : Event) (es : List Event) :
    s.run (e :: es) = (((s.step e).1.run es).1, (s.step e).2 ++ ((s.step e).1.run es).2) := rfl

theorem Follows.run :
    ∀ (es : List Event) {s : server}, s.Inv → Follows s (s.run es).1 (s.run es).2
  | [], s, hs => Follows.quiet hs fun a ha => by simp [server.run] at ha
  | e :: es, s, hs => by
    rw [run_cons]
    have hstep := Follows.step hs e
    exact hstep.trans (Follows.run es hstep.inv)

/-- Over every run from a server that keeps its invariant, such as a new one, the invariant holds,
and every connection lives the life `Lifecycle.next` describes: a session is created only for a
connection the server does not know and only in a version it speaks, every packet handed over
goes to the connection's session and has a header that names the connection, a session ends
only while it serves, and an entry is deleted only after its session ended. -/
theorem run_follows_lifecycle (s : server) (hs : s.Inv) (es : List Event) :
    (s.run es).1.Inv ∧ ∀ id, (s.lifecycle id).follows s.versions id
      ((s.run es).2.filter fun a => a.connection? = some id) = some ((s.run es).1.lifecycle id) :=
  ⟨(Follows.run es hs).inv, (Follows.run es hs).follows⟩

/-- A new server creates a session for a client's first packet, which then ends, and forgets the
connection when the timer fires. -/
theorem run_follows_lifecycle_new :
    let es : List Event := [.packet ⟨[0x09] ++ littleEndian.WriteUint64 0x5678 ++
      littleEndian.WriteUint32 (VersionNumberToTag VersionMP) ++ [1], none⟩,
      .sessionReturned 0x5678, .timerFired 0x5678]
    (new [VersionMP]).Inv ∧ (((new [VersionMP]).run es).1.Inv ∧
      ∀ id, ((new [VersionMP]).lifecycle id).follows [VersionMP] id
        (((new [VersionMP]).run es).2.filter fun a => a.connection? = some id) =
          some (((new [VersionMP]).run es).1.lifecycle id)) :=
  ⟨Inv.new _, run_follows_lifecycle (new [VersionMP]) (Inv.new _) _⟩

/-! ## Answers to a client -/

section Answers

variable {s : server} {p : receivedRawPacket}

/-- The header a client writes starts with its flags and its connection ID, when it is whole. -/
theorem Write_head {h : PublicHeader} {version : VersionNumber} {pers : Perspective}
    {w : List UInt8} (htrunc : h.TruncateConnectionID = false)
    (hw : Returns (h.Write version pers) w) :
    ∃ tail, w = h.publicFlagByte pers :: (littleEndian.WriteUint64 h.ConnectionID ++ tail) := by
  unfold PublicHeader.Write at hw
  -- the two refusals throw
  by_cases h1 : h.VersionFlag = true ∧ h.ResetFlag = true
  · rw [if_pos h1] at hw
    obtain ⟨_, hthrow, -⟩ := returns_bind.1 hw
    exact absurd hthrow not_returns_throw
  rw [if_neg h1] at hw
  dsimp only at hw
  by_cases h2 : h.DiversificationNonce.length > 0 ∧ h.DiversificationNonce.length ≠ 32
  · rw [if_pos h2] at hw
    obtain ⟨_, hthrow, -⟩ := returns_bind.1 hw
    exact absurd hthrow not_returns_throw
  rw [if_neg h2] at hw
  simp only [htrunc, Bool.not_false, if_true, List.append_assoc] at hw
  -- with or without a packet number after the fields
  cases hpn : h.hasPacketNumber pers
  · simp only [hpn, Bool.not_false, if_true, returns_pure] at hw
    exact ⟨_, hw.symm⟩
  · simp only [hpn, Bool.not_true, Bool.false_eq_true, if_false] at hw
    obtain ⟨pn, -, hw⟩ := returns_bind.1 hw
    rw [returns_pure] at hw
    exact ⟨_, by rw [← hw, List.cons_append, List.append_assoc]⟩

/-- `PeekConnectionID` finds the connection ID of every client's packet that parses. -/
theorem PeekConnectionID_of_ParsePublicHeader {version : VersionNumber} {hdr : PublicHeader}
    {rest : List UInt8} (hparse : ParsePublicHeader .client version p.data = .ok (hdr, rest)) :
    PeekConnectionID .client p.data = .ok (hdr.ConnectionID, p.data) := by
  obtain ⟨b, bs, bs', hdata, hwhole, hread⟩ := ParsePublicHeader_client_ConnectionID hparse
  rw [hdata]
  simp [PeekConnectionID, hwhole, hread, bind, Except.bind, pure, Except.pure]

/-- A packet for a connection the server does not know is parsed in no version, and what follows
depends on its header alone. -/
theorem handlePacket_of_unknown {hdr : PublicHeader} {rest : List UInt8}
    (hparse : ParsePublicHeader .client VersionUnknown p.data = .ok (hdr, rest))
    (hnone : s.sessions.lookup hdr.ConnectionID = none) :
    s.handlePacket p = s.handleHeader p hdr.ConnectionID none hdr rest := by
  unfold handlePacket
  rw [PeekConnectionID_of_ParsePublicHeader hparse]
  simp [hnone, hparse]

/-- A packet without the version and the reset flag, for a connection the server does not know,
is answered with a public reset for its connection ID, whatever follows the ID. -/
theorem handlePacket_unknownConnection {b : UInt8} (cid : ConnectionID) (rest : List UInt8)
    (newSessionError : Option String) (hversion : b &&& 0x01 = 0) (hreset : b &&& 0x02 = 0)
    (hwhole : ¬ b &&& 0x08 = 0) (hnone : s.sessions.lookup cid = none) :
    s.handlePacket ⟨b :: (littleEndian.WriteUint64 cid ++ rest), newSessionError⟩ =
      (s, [.writeTo (WritePublicReset cid 0 0)], none) := by
  have hpeek : PeekConnectionID .client (b :: (littleEndian.WriteUint64 cid ++ rest)) =
      .ok (cid, b :: (littleEndian.WriteUint64 cid ++ rest)) := by
    simp [PeekConnectionID, hwhole, ReadUint64_WriteUint64, bind, Except.bind, pure, Except.pure]
  -- a packet of no version for a connection of no version
  have hflags : parsePublicFlags .client VersionUnknown b = .error ErrPacketWithUnknownVersion := by
    simp [parsePublicFlags, hversion, hreset, bind, Except.bind, throw, throwThe,
      MonadExceptOf.throw]
  have hparse : ParsePublicHeader .client VersionUnknown
      (b :: (littleEndian.WriteUint64 cid ++ rest)) = .error ErrPacketWithUnknownVersion := by
    simp only [ParsePublicHeader]
    rw [Parser.bind_ok (ReadByte_cons _ _)]
    exact Parser.bind_error (by simp [StateT.lift, hflags, bind, Except.bind])
  unfold handlePacket
  simp only [hpeek, hnone, reduceCtorEq, if_false, Option.join_none, Option.getD_none, hparse,
    if_true]

/-- A server answers every packet without the version and the reset flag, for a connection it
does not know, with a public reset of 49 bytes, sent to wherever the packet says it came from.
Nine bytes draw it, from any address: more than five times as many bytes go back as came in.
Only the version negotiation packet waits for a packet as long as a first packet. -/
theorem handlePacket_unknownConnection_reset {b : UInt8} (cid : ConnectionID) (rest : List UInt8)
    (newSessionError : Option String) (hversion : b &&& 0x01 = 0) (hreset : b &&& 0x02 = 0)
    (hwhole : ¬ b &&& 0x08 = 0) (hnone : s.sessions.lookup cid = none) :
    s.handlePacket ⟨b :: (littleEndian.WriteUint64 cid ++ rest), newSessionError⟩ =
        (s, [.writeTo (WritePublicReset cid 0 0)], none) ∧
      (WritePublicReset cid 0 0).length = 49 :=
  ⟨handlePacket_unknownConnection cid rest newSessionError hversion hreset hwhole hnone,
    by simp [WritePublicReset, length_WriteUint32, length_WriteUint64]⟩

/-- Nine bytes to a new server, and 49 back. -/
theorem handlePacket_unknownConnection_reset_nineBytes :
    (0x08 :: (littleEndian.WriteUint64 0x1234 ++ [])).length = 9 ∧
      (0x08 : UInt8) &&& 0x01 = 0 ∧ (0x08 : UInt8) &&& 0x02 = 0 ∧ ¬ (0x08 : UInt8) &&& 0x08 = 0 ∧
      (new [Version39]).sessions.lookup 0x1234 = none ∧
      ((new [Version39]).handlePacket ⟨0x08 :: (littleEndian.WriteUint64 0x1234 ++ []), none⟩ =
          (new [Version39], [.writeTo (WritePublicReset 0x1234 0 0)], none) ∧
        (WritePublicReset 0x1234 0 0).length = 49) :=
  ⟨rfl, by decide, by decide, by decide, rfl,
    handlePacket_unknownConnection_reset 0x1234 [] none (by decide) (by decide) (by decide) rfl⟩

/-- A server that forgot a connection, because it restarted or because its timer deleted the
entry, resets the client at the client's next packet.  The client's packer writes a packet of a
forward-secure connection without the version flag and with its whole connection ID; the server
answers it with a public reset for that connection ID, and the client, reading it from the
server's address, closes its session for the rejected packet number 0. -/
theorem forgottenConnection_resets_client (s : server) (c : client)
    {ParseIP : String → Option IP} {now : Int} {rand : Option UInt16} {p : packetPacker}
    {pth pth' : path} {frames : List Frame} {sealer : Sealer} {raw : List UInt8}
    (hparams : p.connectionParameters.perspective = .client)
    (hpacked : Returns (p.writeAndSealPacket ParseIP now rand
      (p.getPublicHeader .ForwardSecure pth) frames sealer pth) (raw, pth'))
    (hforgotten : s.sessions.lookup p.connectionID = none)
    (hcid : c.connectionID = p.connectionID) (hcid0 : p.connectionID ≠ 0)
    (newSessionError : Option String) (nextConnectionID : ConnectionID) :
    s.handlePacket ⟨raw, newSessionError⟩ =
        (s, [.writeTo (WritePublicReset p.connectionID 0 0)], none) ∧
      c.handlePacket ⟨WritePublicReset p.connectionID 0 0, true, nextConnectionID⟩ =
        (c, [.closeRemote 0]) := by
  obtain ⟨header, payload, hheader, -, -, rfl, -⟩ :=
    packetPacker.writeAndSealPacket_spec hpacked
  have htrunc := packetPacker.getPublicHeader_TruncateConnectionID p .ForwardSecure pth hparams
  obtain ⟨tail, rfl⟩ := Write_head htrunc hheader
  -- the flags of the packet: no version, no reset, a whole connection ID
  have hpn : (p.getPublicHeader .ForwardSecure pth).hasPacketNumber p.perspective = true := by
    simp [PublicHeader.hasPacketNumber, packetPacker.getPublicHeader_ForwardSecure_VersionFlag]
  have hlen : (p.getPublicHeader .ForwardSecure pth).PacketNumberLen = 1 ∨
      (p.getPublicHeader .ForwardSecure pth).PacketNumberLen = 2 ∨
      (p.getPublicHeader .ForwardSecure pth).PacketNumberLen = 4 ∨
      (p.getPublicHeader .ForwardSecure pth).PacketNumberLen = 6 := by
    rcases getPacketNumberLengthForPublicHeader_cases pth.packetNumberGenerator.Peek
      pth.leastUnacked with ⟨-, h⟩ | ⟨-, -, h⟩ | ⟨-, h⟩ <;> simp [h]
  obtain ⟨hr, hv, ht, -⟩ := PublicHeader.publicFlagByte_decode
    (packetPacker.getPublicHeader_ResetFlag p .ForwardSecure pth) hpn hlen
  rw [packetPacker.getPublicHeader_ForwardSecure_VersionFlag] at hv
  rw [htrunc] at ht
  have hversion :
      (p.getPublicHeader .ForwardSecure pth).publicFlagByte p.perspective &&& 0x01 = 0 := by
    simpa [UInt8.pos_iff_ne_zero] using hv
  have hreset :
      (p.getPublicHeader .ForwardSecure pth).publicFlagByte p.perspective &&& 0x02 = 0 := by
    simpa [UInt8.pos_iff_ne_zero] using hr
  have hwhole :
      ¬ (p.getPublicHeader .ForwardSecure pth).publicFlagByte p.perspective &&& 0x08 = 0 := by
    simpa using ht
  rw [packetPacker.getPublicHeader_ConnectionID] at hheader ⊢
  refine ⟨?_, ?_⟩
  · -- the server knows no session for the connection
    rw [List.cons_append, List.append_assoc]
    exact handlePacket_unknownConnection _ _ _ hversion hreset hwhole hforgotten
  · -- the client reads the reset for its own connection, from the server's address
    have hheader := parseHeader_WritePublicReset 0 0 .server c.version p.connectionID
    rw [if_neg hcid0] at hheader
    rw [client.handlePacket_of_publicReset c hheader
      (ParsePublicReset_WritePublicReset 0 0 p.connectionID)]
    simp [hcid]

/-- A client's packer of the multipath version, on connection `0x1234`, whose connection is
forward secure. -/
def clientPacker : packetPacker :=
  newPacketPacker 0x1234 packetPacker.forwardSecureSetup
    (Handshake.NewConnectionParamatersManager .client 16384 16384 30) packetPacker.idleFramer .client
    VersionMP

/-- The client's first packet on its initial path, with no frames, reaches a new server. -/
theorem forgottenConnection_resets_client_initialPath :
    clientPacker.connectionParameters.perspective = .client ∧
      Returns (clientPacker.writeAndSealPacket (fun _ => none) 0 none
          (clientPacker.getPublicHeader .ForwardSecure packetPacker.initialPath) []
          packetPacker.tagSealer packetPacker.initialPath)
        ([0x58, 0x34, 0x12, 0, 0, 0, 0, 0, 0, 0, 0, 1] ++ List.replicate 12 0,
          { packetPacker.initialPath with
            packetNumberGenerator := (packetPacker.initialPath.packetNumberGenerator.Pop none).2 }) ∧
      (new [VersionMP]).sessions.lookup clientPacker.connectionID = none ∧
      (⟨0x1234, VersionMP, true, false, [VersionMP], false⟩ : client).connectionID =
        clientPacker.connectionID ∧ clientPacker.connectionID ≠ 0 ∧
      ((new [VersionMP]).handlePacket
          ⟨[0x58, 0x34, 0x12, 0, 0, 0, 0, 0, 0, 0, 0, 1] ++ List.replicate 12 0, none⟩ =
          (new [VersionMP], [.writeTo (WritePublicReset clientPacker.connectionID 0 0)], none) ∧
        (⟨0x1234, VersionMP, true, false, [VersionMP], false⟩ : client).handlePacket
            ⟨WritePublicReset clientPacker.connectionID 0 0, true, 0x5678⟩ =
          (⟨0x1234, VersionMP, true, false, [VersionMP], false⟩, [.closeRemote 0])) :=
  by
    have hpacked : Returns (clientPacker.writeAndSealPacket (fun _ => none) 0 none
          (clientPacker.getPublicHeader .ForwardSecure packetPacker.initialPath) []
          packetPacker.tagSealer packetPacker.initialPath)
        ([0x58, 0x34, 0x12, 0, 0, 0, 0, 0, 0, 0, 0, 1] ++ List.replicate 12 0,
          { packetPacker.initialPath with
            packetNumberGenerator := (packetPacker.initialPath.packetNumberGenerator.Pop none).2 }) :=
      rfl
    exact ⟨rfl, hpacked, rfl, rfl, by decide,
      forgottenConnection_resets_client (new [VersionMP])
        ⟨0x1234, VersionMP, true, false, [VersionMP], false⟩ rfl hpacked rfl rfl (by decide) none
        0x5678⟩

/-- Version negotiation, from the client's first packet to a session on either side.  A fresh
client offers a version the server does not speak, in a packet the server reads with the version
flag, the client's connection ID and that version, and as long as a first packet must be.  The
server answers with a version negotiation packet and keeps no state.  The client reads it from the
server's address and switches to the first of its versions the server speaks, under a new
connection ID.  The server reads the client's next packet, with that ID and that version, and
creates a session for it in that version: both ends speak the same version. -/
theorem versionNegotiation_establishes (s : server) (c : client)
    (hv : ∀ v ∈ s.versions, 0 ≤ v ∧ v < 1000) (hcid : c.connectionID ≠ 0)
    (hreceived : c.receivedVersionNegotiationPacket = false)
    (hnegotiated : c.versionNegotiated = false)
    (hoffered : IsSupportedVersion s.versions c.version = false)
    (hcommon : ChooseSupportedVersion c.versions s.versions ≠ VersionUnsupported)
    (hunknown : s.sessions.lookup c.connectionID = none)
    {hello : List UInt8} {hdr : PublicHeader} {rest : List UInt8}
    (hparse : ParsePublicHeader .client VersionUnknown hello = .ok (hdr, rest))
    (hflags : hdr.ResetFlag = false ∧ hdr.VersionFlag = true)
    (hsent : hdr.ConnectionID = c.connectionID ∧ hdr.VersionNumber = c.version)
    (hlong : ClientHelloMinimumSize + (hello.length - rest.length) ≤ hello.length)
    (nextConnectionID : ConnectionID) (hnext : s.sessions.lookup nextConnectionID = none)
    {hello' : List UInt8} {hdr' : PublicHeader} {rest' : List UInt8}
    (hparse' : ParsePublicHeader .client VersionUnknown hello' = .ok (hdr', rest'))
    (hflags' : hdr'.ResetFlag = false ∧ hdr'.VersionFlag = true)
    (hsent' : hdr'.ConnectionID = nextConnectionID ∧
      hdr'.VersionNumber = ChooseSupportedVersion c.versions s.versions)
    (newSessionError : Option String) :
    s.handlePacket ⟨hello, newSessionError⟩ =
        (s, [.writeTo (ComposeVersionNegotiation c.connectionID s.versions)], none) ∧
      (c.handlePacket ⟨ComposeVersionNegotiation c.connectionID s.versions, true,
          nextConnectionID⟩).1.version = ChooseSupportedVersion c.versions s.versions ∧
      (c.handlePacket ⟨ComposeVersionNegotiation c.connectionID s.versions, true,
          nextConnectionID⟩).1.connectionID = nextConnectionID ∧
      (s.handlePacket ⟨hello', none⟩).2.1 = [.newSession nextConnectionID
        (ChooseSupportedVersion c.versions s.versions), .handOver nextConnectionID hdr' rest'] := by
  have hchosen : IsSupportedVersion s.versions (ChooseSupportedVersion c.versions s.versions) :=
    (IsSupportedVersion_iff _ _).mpr (ChooseSupportedVersion_mem hcommon).2
  have hc := client.handlePacket_ComposeVersionNegotiation c hv hcid hoffered hreceived hnegotiated
    true nextConnectionID
  rw [if_neg hcommon] at hc
  refine ⟨?_, by rw [hc], by rw [hc], ?_⟩
  · -- the server answers the version offered with its own, if the packet is long enough
    rw [handlePacket_of_unknown hparse (hsent.1 ▸ hunknown)]
    have hsize : ¬ hello.length < ClientHelloMinimumSize + (hello.length - rest.length) := by
      omega
    simp [handleHeader, hflags, hsent, hoffered, hsize]
  · -- the next packet offers a version the server speaks
    rw [handlePacket_of_unknown hparse' (hsent'.1 ▸ hnext)]
    simp [handleHeader, hflags', hsent', hchosen]

/-- A client preferring the multipath version offers version 40 to a server of the multipath
version and version 39, and they settle on the multipath version. -/
theorem versionNegotiation_establishes_multipath :
    let s := new [VersionMP, Version39]
    let c : client := ⟨0x1234, 40, false, false, [VersionMP, Version39], false⟩
    let hello : List UInt8 := [0x09] ++ littleEndian.WriteUint64 0x1234 ++
      littleEndian.WriteUint32 (VersionNumberToTag 40) ++ [1] ++ List.replicate 1024 0
    let hello' : List UInt8 := [0x09] ++ littleEndian.WriteUint64 0x5678 ++
      littleEndian.WriteUint32 (VersionNumberToTag VersionMP) ++ [1]
    let hdr : PublicHeader :=
      { ConnectionID := 0x1234, VersionFlag := true, PacketNumberLen := 1, PacketNumber := 1,
        VersionNumber := 40 }
    let hdr' : PublicHeader :=
      { ConnectionID := 0x5678, VersionFlag := true, PacketNumberLen := 1, PacketNumber := 1,
        VersionNumber := VersionMP }
    ParsePublicHeader .client VersionUnknown hello = .ok (hdr, List.replicate 1024 0) ∧
      ParsePublicHeader .client VersionUnknown hello' = .ok (hdr', []) ∧
      (s.handlePacket ⟨hello, none⟩ =
          (s, [.writeTo (ComposeVersionNegotiation c.connectionID s.versions)], none) ∧
        (c.handlePacket ⟨ComposeVersionNegotiation c.connectionID s.versions, true,
            0x5678⟩).1.version = ChooseSupportedVersion c.versions s.versions ∧
        (c.handlePacket ⟨ComposeVersionNegotiation c.connectionID s.versions, true,
            0x5678⟩).1.connectionID = 0x5678 ∧
        (s.handlePacket ⟨hello', none⟩).2.1 = [.newSession 0x5678
          (ChooseSupportedVersion c.versions s.versions), .handOver 0x5678 hdr' []]) :=
  ⟨rfl, rfl, versionNegotiation_establishes (new [VersionMP, Version39])
    ⟨0x1234, 40, false, false, [VersionMP, Version39], false⟩ (by decide) (by decide) rfl rfl
    (by decide) (by decide) rfl rfl ⟨rfl, rfl⟩ ⟨rfl, rfl⟩
    (by simp only [List.append_eq, List.nil_append, List.length_append, List.length_replicate,
      List.length_cons, List.length_nil,
      length_WriteUint64, length_WriteUint32, ClientHelloMinimumSize]; omega) 0x5678 rfl rfl
    ⟨rfl, rfl⟩
    ⟨rfl, rfl⟩ none⟩

end Answers

end server

end PStream
