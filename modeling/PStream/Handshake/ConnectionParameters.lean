import PStream.Flowcontrol.Controller
import PStream.StreamsMap
import PStream.Handshake.HandshakeMessage
import PStream.Lib.Monads
import PStream.Wire.PublicHeader

/-!
# Negotiating the connection parameters

`connectionParametersManager` (connection_parameters_manager.go) holds what the two ends of a
connection settle in the handshake: the flow control windows each may send into, the limits on
streams, the idle timeout and, on a server, whether the client asked for its connection ID to be
left out of the public header.  The exchange is one message each way.  The client puts its
`GetHelloMap` into the CHLO, the server reads it with `SetFromMap` and answers with its own
`GetHelloMap` in the SHLO, and the client reads that with `SetFromMap`.

* `SetFromMap` takes the tags one after another, each with the block of `setFromTag` or
  `setWindowFromTag`, and returns on the first one that fails.  Go changes the manager in place,
  so a call that fails keeps what the tags before the failing one changed: the model runs in
  `EStateM`, whose errors carry the state.
* The windows the flow controllers read are the parent structure, the
  `Flowcontrol.ConnectionParametersManager` of those modules, and the limit the streams map reads
  is `toStreamsMapParameters`.

What the exchange settles is `exchange_agrees`: each side's send windows are the other's receive
windows, and the idle timeout is the smaller of the two, cut to whole seconds on the way.  The
client cuts the server's answer to whole seconds once more, so the two agree on the timeout exactly
when the server's is a whole number of seconds.
-/

set_option autoImplicit false

namespace PStream
namespace Handshake

open Protocol Utils Utils.ByteOrder

/-- `time.Duration` in nanoseconds.  No value here leaves the `int64` range: the largest is a
`uint32` number of seconds. -/
abbrev Duration := Int

def Second : Duration := 1000000000

def TagTCID : Tag := 'T'.val + 'C'.val <<< 8 + 'I'.val <<< 16 + 'D'.val <<< 24
def TagMSPC : Tag := 'M'.val + 'S'.val <<< 8 + 'P'.val <<< 16 + 'C'.val <<< 24
def TagMIDS : Tag := 'M'.val + 'I'.val <<< 8 + 'D'.val <<< 16 + 'S'.val <<< 24
def TagICSL : Tag := 'I'.val + 'C'.val <<< 8 + 'S'.val <<< 16 + 'L'.val <<< 24
def TagCFCW : Tag := 'C'.val + 'F'.val <<< 8 + 'C'.val <<< 16 + 'W'.val <<< 24
def TagSFCW : Tag := 'S'.val + 'F'.val <<< 8 + 'C'.val <<< 16 + 'W'.val <<< 24

/-- The tags and values of a handshake message, a Go `map[Tag][]byte`. -/
abbrev TagMap := AList fun _ : Tag => List UInt8

/-- `ErrMalformedTag`, the text of a `qerr.Error` of code `InvalidCryptoMessageParameter`. -/
def ErrMalformedTag : String := "InvalidCryptoMessageParameter: malformed Tag value"

def ErrFlowControlRenegotiationNotSupported : String :=
  "InvalidCryptoMessageParameter: renegotiation of flow control parameters not supported"

/-- `utils.MinUint32`. -/
def MinUint32 (a b : UInt32) : UInt32 := if a < b then a else b

/-- `utils.MinDuration`. -/
def MinDuration (a b : Duration) : Duration := if a > b then b else a

/-- A `connectionParametersManager`: the windows the flow controllers read, and what else it
negotiates.  Its `version` is read by none of its methods, and its mutex is left out. -/
structure connectionParametersManager extends Flowcontrol.ConnectionParametersManager where
  perspective : Perspective
  flowControlNegotiated : Bool
  truncateConnectionID : Bool
  maxStreamsPerConnection : UInt32
  maxIncomingDynamicStreamsPerConnection : UInt32
  idleConnectionStateLifetime : Duration
  deriving DecidableEq, Repr

/-- `NewConnectionParamatersManager`: the windows of `Flowcontrol.NewConnectionParamatersManager`,
and the same stream limits on both sides. -/
def NewConnectionParamatersManager (pers : Perspective)
    (maxReceiveStreamFlowControlWindow maxReceiveConnectionFlowControlWindow : ByteCount)
    (idleTimeout : Duration) : connectionParametersManager where
  toConnectionParametersManager := Flowcontrol.NewConnectionParamatersManager
    maxReceiveStreamFlowControlWindow maxReceiveConnectionFlowControlWindow
  perspective := pers
  flowControlNegotiated := false
  truncateConnectionID := false
  maxStreamsPerConnection := MaxStreamsPerConnection.toUInt32
  maxIncomingDynamicStreamsPerConnection := MaxStreamsPerConnection.toUInt32
  idleConnectionStateLifetime := idleTimeout

/-- `utils.LittleEndian.ReadUint32(bytes.NewBuffer(value))`: a value of fewer than four bytes is
a malformed tag, and bytes after the fourth are not looked at. -/
def readTagValue {σ : Type} (value : List UInt8) : EStateM String σ UInt32 :=
  match littleEndian.ReadUint32 value with
  | .ok (v, _) => pure v
  | .error _ => throw ErrMalformedTag

namespace connectionParametersManager

def negotiateMaxStreamsPerConnection (clientValue : UInt32) : UInt32 :=
  MinUint32 clientValue MaxStreamsPerConnection.toUInt32

def negotiateMaxIncomingDynamicStreamsPerConnection (clientValue : UInt32) : UInt32 :=
  MinUint32 clientValue MaxIncomingDynamicStreamsPerConnection.toUInt32

def negotiateIdleConnectionStateLifetime (h : connectionParametersManager)
    (clientValue : Duration) : Duration :=
  MinDuration clientValue h.idleConnectionStateLifetime

/-- A block `if value, ok := params[tag]; ok { ... }` of `SetFromMap`: the value of a tag that is
there is read as a `uint32` and goes into the manager by `update`. -/
def setFromTag (params : TagMap) (tag : Tag)
    (update : UInt32 → connectionParametersManager → connectionParametersManager) :
    EStateM String connectionParametersManager Unit :=
  match params.lookup tag with
  | none => pure ()
  | some value => do
    let clientValue ← readTagValue value
    modify (update clientValue)

/-- The block of a flow control window, which is refused once the windows are negotiated. -/
def setWindowFromTag (params : TagMap) (tag : Tag)
    (update : UInt32 → connectionParametersManager → connectionParametersManager) :
    EStateM String connectionParametersManager Unit :=
  match params.lookup tag with
  | none => pure ()
  | some value => do
    if (← get).flowControlNegotiated then throw ErrFlowControlRenegotiationNotSupported
    let window ← readTagValue value
    modify (update window)

/-- The first block of `SetFromMap`: a server reads whether the client wants its connection ID
left out. -/
def setTruncateConnectionID (params : TagMap) : EStateM String connectionParametersManager Unit := do
  if (← get).perspective = .server then
    setFromTag params TagTCID fun clientValue h => { h with truncateConnectionID := clientValue = 0 }

/-- `SetFromMap`. -/
def SetFromMap (params : TagMap) : EStateM String connectionParametersManager Unit := do
  setTruncateConnectionID params
  setFromTag params TagMSPC fun clientValue h =>
    { h with maxStreamsPerConnection := negotiateMaxStreamsPerConnection clientValue }
  setFromTag params TagMIDS fun clientValue h =>
    { h with
      maxIncomingDynamicStreamsPerConnection :=
        negotiateMaxIncomingDynamicStreamsPerConnection clientValue }
  setFromTag params TagICSL fun clientValue h =>
    { h with
      idleConnectionStateLifetime :=
        h.negotiateIdleConnectionStateLifetime (clientValue.toNat * Second) }
  setWindowFromTag params TagSFCW fun window h =>
    { h with sendStreamFlowControlWindow := window.toUInt64 }
  setWindowFromTag params TagCFCW fun window h =>
    { h with sendConnectionFlowControlWindow := window.toUInt64 }
  if (params.lookup TagCFCW).isSome || (params.lookup TagSFCW).isSome then
    modify fun h => { h with flowControlNegotiated := true }

/-- `GetHelloMap`: the receive windows and the idle timeout in whole seconds, each cut to 32
bits, the stream limit, and the protocol's limit of incoming streams. -/
def GetHelloMap (h : connectionParametersManager) : TagMap :=
  let sfcw := littleEndian.WriteUint32 h.receiveStreamFlowControlWindow.toUInt32
  let cfcw := littleEndian.WriteUint32 h.receiveConnectionFlowControlWindow.toUInt32
  let mspc := littleEndian.WriteUint32 h.maxStreamsPerConnection
  let mids := littleEndian.WriteUint32 MaxIncomingDynamicStreamsPerConnection.toUInt32
  let icsl := littleEndian.WriteUint32 (UInt32.ofInt (h.idleConnectionStateLifetime.tdiv Second))
  ((((((∅ : TagMap).insert TagICSL icsl).insert TagMSPC mspc).insert TagMIDS mids).insert
    TagCFCW cfcw).insert TagSFCW sfcw)

/-- `GetMaxOutgoingStreams`. -/
def GetMaxOutgoingStreams (h : connectionParametersManager) : UInt32 :=
  h.maxIncomingDynamicStreamsPerConnection

/-- `TruncateConnectionID`: a client never leaves its connection ID out. -/
def TruncateConnectionID (h : connectionParametersManager) : Bool :=
  if h.perspective = .client then false else h.truncateConnectionID

/-- What the streams map reads of the manager. -/
def toStreamsMapParameters (h : connectionParametersManager) : ConnectionParameters :=
  ⟨h.maxIncomingDynamicStreamsPerConnection⟩

/-- The tags `GetHelloMap` sets. -/
def helloTags : List Tag := [TagICSL, TagMSPC, TagMIDS, TagCFCW, TagSFCW]

theorem MinUint32_le_right (a b : UInt32) : MinUint32 a b ≤ b := by
  unfold MinUint32
  split
  · exact UInt32.le_of_lt ‹_›
  · exact UInt32.le_refl b

theorem MinDuration_eq_min (a b : Int) : MinDuration a b = min a b := by
  unfold MinDuration
  split
  · rename_i h
    exact (Int.min_eq_right (Int.le_of_lt h)).symm
  · rename_i h
    exact (Int.min_eq_left (Int.not_lt.mp h)).symm

open EStateM

section Blocks

/-! ### One block of `SetFromMap` -/

variable (params : TagMap) (tag : Tag)
  (update : UInt32 → connectionParametersManager → connectionParametersManager)
  (s : connectionParametersManager)

theorem readTagValue_WriteUint32 {σ : Type} (x : UInt32) (t : σ) :
    (readTagValue (littleEndian.WriteUint32 x) : EStateM String σ UInt32) t = .ok x t := by
  have h := ReadUint32_WriteUint32 littleEndian x []
  rw [List.append_nil] at h
  simp only [readTagValue, h]
  rfl

theorem setFromTag_none (hl : params.lookup tag = none) :
    setFromTag params tag update s = .ok () s := by
  simp only [setFromTag, hl]
  rfl

theorem setFromTag_WriteUint32 {x : UInt32}
    (hl : params.lookup tag = some (littleEndian.WriteUint32 x)) :
    setFromTag params tag update s = .ok () (update x s) := by
  simp only [setFromTag, hl]
  rw [bind_apply_of_ok (readTagValue_WriteUint32 x s)]
  rfl

theorem setWindowFromTag_none (hl : params.lookup tag = none) :
    setWindowFromTag params tag update s = .ok () s := by
  simp only [setWindowFromTag, hl]
  rfl

/-- A window's block refuses its tag once the windows are negotiated. -/
theorem setWindowFromTag_negotiated {value : List UInt8} (hl : params.lookup tag = some value)
    (hneg : s.flowControlNegotiated = true) :
    setWindowFromTag params tag update s = .error ErrFlowControlRenegotiationNotSupported s := by
  simp only [setWindowFromTag, hl]
  rw [bind_apply_of_ok (show (get : EStateM String _ _) s = .ok s s from rfl)]
  simp only [hneg, ↓reduceIte]
  rfl

/-- Before the windows are negotiated, a window's block is a tag's block. -/
theorem setWindowFromTag_unnegotiated {value : List UInt8} (hl : params.lookup tag = some value)
    (hneg : s.flowControlNegotiated = false) :
    setWindowFromTag params tag update s =
      (readTagValue value >>= fun v => modify (update v)) s := by
  simp only [setWindowFromTag, hl]
  rw [bind_apply_of_ok (show (get : EStateM String _ _) s = .ok s s from rfl)]
  simp only [hneg, Bool.false_eq_true, ↓reduceIte]

theorem setWindowFromTag_WriteUint32 {x : UInt32}
    (hl : params.lookup tag = some (littleEndian.WriteUint32 x))
    (hneg : s.flowControlNegotiated = false) :
    setWindowFromTag params tag update s = .ok () (update x s) := by
  rw [setWindowFromTag_unnegotiated params tag update s hl hneg,
    bind_apply_of_ok (readTagValue_WriteUint32 x s)]
  rfl

theorem setTruncateConnectionID_server {x : UInt32} (hs : s.perspective = .server)
    (hl : params.lookup TagTCID = some (littleEndian.WriteUint32 x)) :
    setTruncateConnectionID params s = .ok () { s with truncateConnectionID := decide (x = 0) } := by
  simp only [setTruncateConnectionID]
  rw [bind_apply_of_ok (show (get : EStateM String _ _) s = .ok s s from rfl), if_pos hs]
  exact setFromTag_WriteUint32 _ _ _ _ hl

theorem setTruncateConnectionID_none (hl : params.lookup TagTCID = none) :
    setTruncateConnectionID params s = .ok () s := by
  simp only [setTruncateConnectionID]
  rw [bind_apply_of_ok (show (get : EStateM String _ _) s = .ok s s from rfl)]
  split
  · exact setFromTag_none _ _ _ _ hl
  · rfl

theorem setTruncateConnectionID_client (hs : s.perspective = .client) :
    setTruncateConnectionID params s = .ok () s := by
  simp only [setTruncateConnectionID]
  rw [bind_apply_of_ok (show (get : EStateM String _ _) s = .ok s s from rfl)]
  simp only [hs, reduceCtorEq, ↓reduceIte]
  rfl

end Blocks

section Exchange

/-! ### The exchange of hello messages -/

variable (o : connectionParametersManager)

@[simp] theorem lookup_GetHelloMap_ICSL : o.GetHelloMap.lookup TagICSL =
    some (littleEndian.WriteUint32 (UInt32.ofInt (o.idleConnectionStateLifetime.tdiv Second))) := by
  simp [GetHelloMap, AList.lookup_insert_ne, -AList.insert_empty, show TagICSL ≠ TagSFCW by decide,
    show TagICSL ≠ TagCFCW by decide, show TagICSL ≠ TagMIDS by decide,
    show TagICSL ≠ TagMSPC by decide]

@[simp] theorem lookup_GetHelloMap_MSPC :
    o.GetHelloMap.lookup TagMSPC = some (littleEndian.WriteUint32 o.maxStreamsPerConnection) := by
  simp [GetHelloMap, AList.lookup_insert_ne, show TagMSPC ≠ TagSFCW by decide,
    show TagMSPC ≠ TagCFCW by decide, show TagMSPC ≠ TagMIDS by decide]

@[simp] theorem lookup_GetHelloMap_MIDS : o.GetHelloMap.lookup TagMIDS =
    some (littleEndian.WriteUint32 MaxIncomingDynamicStreamsPerConnection.toUInt32) := by
  simp [GetHelloMap, AList.lookup_insert_ne, show TagMIDS ≠ TagSFCW by decide,
    show TagMIDS ≠ TagCFCW by decide]

@[simp] theorem lookup_GetHelloMap_CFCW : o.GetHelloMap.lookup TagCFCW =
    some (littleEndian.WriteUint32 o.receiveConnectionFlowControlWindow.toUInt32) := by
  simp [GetHelloMap, AList.lookup_insert_ne, show TagCFCW ≠ TagSFCW by decide]

@[simp] theorem lookup_GetHelloMap_SFCW : o.GetHelloMap.lookup TagSFCW =
    some (littleEndian.WriteUint32 o.receiveStreamFlowControlWindow.toUInt32) := by
  simp [GetHelloMap]

/-- Reading a message that carries the hello of `o`, on a manager whose windows are not
negotiated yet: every tag is taken, the windows become `o`'s receive windows cut to 32 bits, and
they are negotiated. -/
theorem SetFromMap_GetHelloMap {params : TagMap} {s s₁ : connectionParametersManager}
    (hhello : ∀ t ∈ helloTags, params.lookup t = o.GetHelloMap.lookup t)
    (htcid : setTruncateConnectionID params s = .ok () s₁)
    (hneg : s₁.flowControlNegotiated = false) :
    SetFromMap params s = .ok () { s₁ with
      maxStreamsPerConnection := negotiateMaxStreamsPerConnection o.maxStreamsPerConnection
      maxIncomingDynamicStreamsPerConnection := negotiateMaxIncomingDynamicStreamsPerConnection
        MaxIncomingDynamicStreamsPerConnection.toUInt32
      idleConnectionStateLifetime := s₁.negotiateIdleConnectionStateLifetime
        ((UInt32.ofInt (o.idleConnectionStateLifetime.tdiv Second)).toNat * Second)
      sendStreamFlowControlWindow := o.receiveStreamFlowControlWindow.toUInt32.toUInt64
      sendConnectionFlowControlWindow := o.receiveConnectionFlowControlWindow.toUInt32.toUInt64
      flowControlNegotiated := true } := by
  have hI := hhello TagICSL (by simp [helloTags])
  have hM := hhello TagMSPC (by simp [helloTags])
  have hD := hhello TagMIDS (by simp [helloTags])
  have hC := hhello TagCFCW (by simp [helloTags])
  have hS := hhello TagSFCW (by simp [helloTags])
  simp only [lookup_GetHelloMap_ICSL, lookup_GetHelloMap_MSPC, lookup_GetHelloMap_MIDS,
    lookup_GetHelloMap_CFCW, lookup_GetHelloMap_SFCW] at hI hM hD hC hS
  unfold SetFromMap
  rw [bind_apply_of_ok htcid, bind_apply_of_ok (setFromTag_WriteUint32 _ _ _ _ hM),
    bind_apply_of_ok (setFromTag_WriteUint32 _ _ _ _ hD),
    bind_apply_of_ok (setFromTag_WriteUint32 _ _ _ _ hI),
    bind_apply_of_ok (setWindowFromTag_WriteUint32 _ _ _ _ hS ?neg),
    bind_apply_of_ok (setWindowFromTag_WriteUint32 _ _ _ _ hC ?neg')]
  · simp only [hC, Option.isSome_some, Bool.true_or, ↓reduceIte]
    rfl
  · exact hneg
  · exact hneg

/-- A timeout's whole seconds, as `GetHelloMap` sends them and `SetFromMap` reads them back. -/
theorem toNat_ofInt_tdiv_Second {x : Duration} (h0 : 0 ≤ x) (h1 : x.tdiv Second < 2 ^ 32) :
    ((UInt32.ofInt (x.tdiv Second)).toNat : Int) = x.tdiv Second := by
  have hq : 0 ≤ x.tdiv Second := Int.tdiv_nonneg h0 (by decide)
  rw [Protocol.toNat_ofInt_of_lt hq h1, Int.toNat_of_nonneg hq]

/-- The client's reading of a timeout `m` no longer than its own `a` cut to whole seconds: `m`
cut to whole seconds, which fit 32 bits whenever those of `a` do. -/
theorem MinDuration_tdiv_Second {m a : Int} (hm : 0 ≤ m) (ha : 0 ≤ a)
    (hma : m ≤ a.tdiv Second * Second) (h1 : a.tdiv Second < 2 ^ 32) :
    m.tdiv Second < 2 ^ 32 ∧ MinDuration (m.tdiv Second * Second) a = m.tdiv Second * Second := by
  rw [MinDuration_eq_min, Int.tdiv_eq_ediv_of_nonneg hm]
  rw [Int.tdiv_eq_ediv_of_nonneg ha] at hma h1
  simp only [Second] at *
  have hle : m / 1000000000 * 1000000000 ≤ a := by omega
  exact ⟨by omega, min_eq_left hle⟩

theorem tdiv_Second_mul_eq_iff (m : Duration) : m.tdiv Second * Second = m ↔ Second ∣ m :=
  ⟨fun h => ⟨m.tdiv Second, by rw [Int.mul_comm]; exact h.symm⟩, Int.tdiv_mul_cancel⟩

/-- The handshake between a client and a server made by `NewConnectionParamatersManager`.  The
server reads a CHLO that carries the client's hello, and the client reads an SHLO that carries
the server's hello after that.  Both calls succeed, each side may send into the windows the other
receives with, both stream limits agree, and the idle timeout is the smaller of the two cut to
whole seconds.  The client cuts the server's answer to whole seconds once more, so the two agree on
it exactly when the server's is a whole number of seconds. -/
theorem exchange_agrees {maxRS maxRC maxRS' maxRC' : ByteCount} {idleClient idleServer : Duration}
    (hclient : 0 ≤ idleClient) (hseconds : idleClient.tdiv Second < 2 ^ 32)
    (hserver : 0 ≤ idleServer) {chlo : TagMap}
    (hchlo : ∀ t ∈ helloTags, chlo.lookup t =
      (NewConnectionParamatersManager .client maxRS maxRC idleClient).GetHelloMap.lookup t)
    (htcid : chlo.lookup TagTCID = none ∨
      chlo.lookup TagTCID = some (littleEndian.WriteUint32 0)) :
    ∃ server, SetFromMap chlo
        (NewConnectionParamatersManager .server maxRS' maxRC' idleServer) = .ok () server ∧
      server.TruncateConnectionID = (chlo.lookup TagTCID).isSome ∧
      server.idleConnectionStateLifetime = min (idleClient.tdiv Second * Second) idleServer ∧
      ∀ shlo : TagMap, (∀ t ∈ helloTags, shlo.lookup t = server.GetHelloMap.lookup t) →
      ∃ client, SetFromMap shlo
          (NewConnectionParamatersManager .client maxRS maxRC idleClient) = .ok () client ∧
        client.sendStreamFlowControlWindow = server.receiveStreamFlowControlWindow ∧
        client.sendConnectionFlowControlWindow = server.receiveConnectionFlowControlWindow ∧
        server.sendStreamFlowControlWindow = client.receiveStreamFlowControlWindow ∧
        server.sendConnectionFlowControlWindow = client.receiveConnectionFlowControlWindow ∧
        client.maxStreamsPerConnection = server.maxStreamsPerConnection ∧
        client.GetMaxOutgoingStreams = server.GetMaxOutgoingStreams ∧
        client.idleConnectionStateLifetime =
          server.idleConnectionStateLifetime.tdiv Second * Second ∧
        (client.idleConnectionStateLifetime = server.idleConnectionStateLifetime ↔
          Second ∣ server.idleConnectionStateLifetime) := by
  -- the server's first block takes the connection ID tag, if there is one
  obtain ⟨s₁, hs₁, rfl⟩ : ∃ s₁, setTruncateConnectionID chlo
        (NewConnectionParamatersManager .server maxRS' maxRC' idleServer) = .ok () s₁ ∧
      s₁ = { NewConnectionParamatersManager .server maxRS' maxRC' idleServer with
        truncateConnectionID := (chlo.lookup TagTCID).isSome } := by
    rcases htcid with hl | hl
    · exact ⟨_, setTruncateConnectionID_none _ _ hl, by rw [hl]; rfl⟩
    · exact ⟨_, setTruncateConnectionID_server _ _ rfl hl, by rw [hl]; rfl⟩
  have hidle : MinDuration (((UInt32.ofInt (idleClient.tdiv Second)).toNat : Int) * Second)
      idleServer = min (idleClient.tdiv Second * Second) idleServer := by
    rw [MinDuration_eq_min, toNat_ofInt_tdiv_Second hclient hseconds]
  refine ⟨_, SetFromMap_GetHelloMap _ hchlo hs₁ rfl, rfl, hidle, fun shlo hshlo => ?_⟩
  refine ⟨_, SetFromMap_GetHelloMap _ hshlo (setTruncateConnectionID_client _ _ rfl) rfl, ?_⟩
  -- the timeout the server settled on, and what the client makes of it
  set m := min (idleClient.tdiv Second * Second) idleServer
  have hm0 : 0 ≤ m :=
    le_min (Int.mul_nonneg (Int.tdiv_nonneg hclient (by decide)) (by decide)) hserver
  obtain ⟨hm1, hmin⟩ := MinDuration_tdiv_Second hm0 hclient (min_le_left _ _) hseconds
  refine ⟨rfl, rfl, rfl, rfl, rfl, rfl, ?_, ?_⟩
  · simp only [NewConnectionParamatersManager, negotiateIdleConnectionStateLifetime]
    rw [hidle, toNat_ofInt_tdiv_Second hm0 hm1, hmin]
  · simp only [NewConnectionParamatersManager, negotiateIdleConnectionStateLifetime]
    rw [hidle, toNat_ofInt_tdiv_Second hm0 hm1, hmin]
    exact tdiv_Second_mul_eq_iff m

/-- A client that offers a minute and a server that allows thirty and a half seconds: the server
settles on its own timeout, the client on thirty seconds. -/
theorem exchange_agrees_halfSecond :
    ∃ server, SetFromMap (NewConnectionParamatersManager .client 0 0 (60 * Second)).GetHelloMap
        (NewConnectionParamatersManager .server 0 0 (30 * Second + Second / 2)) = .ok () server ∧
      server.idleConnectionStateLifetime = 30 * Second + Second / 2 ∧
      ∃ client, SetFromMap server.GetHelloMap
          (NewConnectionParamatersManager .client 0 0 (60 * Second)) = .ok () client ∧
        client.idleConnectionStateLifetime = 30 * Second := by
  obtain ⟨server, hs, -, hidle, hshlo⟩ := @exchange_agrees 0 0 0 0 (60 * Second)
    (30 * Second + Second / 2) (by decide) (by decide) (by decide) _ (fun _ _ => rfl)
    (Or.inl (by decide))
  obtain ⟨client, hc, -, -, -, -, -, -, hcidle, -⟩ := hshlo _ (fun _ _ => rfl)
  have hserver : server.idleConnectionStateLifetime = 30 * Second + Second / 2 := by
    rw [hidle]
    decide
  refine ⟨server, hs, hserver, client, hc, ?_⟩
  rw [hcidle, hserver]
  decide

end Exchange

end connectionParametersManager

end Handshake
end PStream
