import PStream.Protocol

/-!
# Flow controllers

A `flowController` (internal/flowcontrol/flow_controller.go) keeps the books of one stream, or of
the connection as a whole (stream 0), in both directions.

* Sending: the bytes sent, and `sendWindow`, the offset up to which the peer allows data.  Until
  the peer's first WINDOW_UPDATE arrives `sendWindow` is 0, and the window is the one the
  handshake announced (`getSendWindow`).
* Receiving: the bytes read, the highest offset received, and `receiveWindow`, the offset up to
  which this side lets the peer send.  Once the reader has consumed half of the increment,
  `MaybeUpdateWindow` moves the window to `bytesRead + receiveWindowIncrement`; an update due
  within two round trips of the last one first doubles the increment, up to
  `maxReceiveWindowIncrement`.

The controller's pointers to the connection parameters, the RTT statistics and the remote RTTs
are arguments of the methods that read them; the clock is one of them too (`Clock`).
-/

set_option autoImplicit false

namespace PStream.Flowcontrol

/-- The windows the `ConnectionParametersManager` holds: those the peer allows this side to send
into, and those this side allows the peer. -/
structure ConnectionParametersManager where
  sendStreamFlowControlWindow : ByteCount
  sendConnectionFlowControlWindow : ByteCount
  receiveStreamFlowControlWindow : ByteCount
  receiveConnectionFlowControlWindow : ByteCount
  maxReceiveStreamFlowControlWindow : ByteCount
  maxReceiveConnectionFlowControlWindow : ByteCount
  deriving DecidableEq, Repr

/-- `NewConnectionParamatersManager`: the peer may send into the initial windows until its
handshake message says otherwise. -/
def NewConnectionParamatersManager (maxReceiveStreamFlowControlWindow
    maxReceiveConnectionFlowControlWindow : ByteCount) : ConnectionParametersManager where
  sendStreamFlowControlWindow := Protocol.InitialStreamFlowControlWindow
  sendConnectionFlowControlWindow := Protocol.InitialConnectionFlowControlWindow
  receiveStreamFlowControlWindow := Protocol.ReceiveStreamFlowControlWindow
  receiveConnectionFlowControlWindow := Protocol.ReceiveConnectionFlowControlWindow
  maxReceiveStreamFlowControlWindow := maxReceiveStreamFlowControlWindow
  maxReceiveConnectionFlowControlWindow := maxReceiveConnectionFlowControlWindow

/-- What `maybeAdjustWindowIncrement` reads of the world, in nanoseconds: `time.Now()`, the
path's smoothed RTT, and the RTTs the peer reported for its paths. -/
structure Clock where
  now : ℕ
  smoothedRTT : ℕ
  remoteRTTs : List ℕ
  deriving DecidableEq, Repr

/-- The fields of a `flowController`.  `lastWindowUpdateTime` is `none` for Go's zero
`time.Time`. -/
structure flowController where
  streamID : StreamID
  contributesToConnection : Bool
  bytesSent : ByteCount
  sendWindow : ByteCount
  bytesRetrans : ByteCount
  lastWindowUpdateTime : Option ℕ
  bytesRead : ByteCount
  highestReceived : ByteCount
  receiveWindow : ByteCount
  receiveWindowIncrement : ByteCount
  maxReceiveWindowIncrement : ByteCount
  deriving DecidableEq, Repr

def ErrReceivedSmallerByteOffset : String := "Received a smaller byte offset"

/-- `newFlowController`: the connection (stream 0) starts from the connection's receive window,
a stream from the stream's. -/
def newFlowController (streamID : StreamID) (contributesToConnection : Bool)
    (connectionParameters : ConnectionParametersManager) : flowController :=
  let receiveWindow :=
    if streamID = 0 then connectionParameters.receiveConnectionFlowControlWindow
    else connectionParameters.receiveStreamFlowControlWindow
  let maxReceiveWindowIncrement :=
    if streamID = 0 then connectionParameters.maxReceiveConnectionFlowControlWindow
    else connectionParameters.maxReceiveStreamFlowControlWindow
  { streamID, contributesToConnection, bytesSent := 0, sendWindow := 0, bytesRetrans := 0
    lastWindowUpdateTime := none, bytesRead := 0, highestReceived := 0, receiveWindow
    receiveWindowIncrement := receiveWindow, maxReceiveWindowIncrement }

namespace flowController

variable (connectionParameters : ConnectionParametersManager) (c : flowController)

/-! ## Sending -/

/-- The window the peer allows: the handshake's until the first WINDOW_UPDATE, then the
update's. -/
def getSendWindow : ByteCount :=
  if c.sendWindow = 0 then
    if c.streamID = 0 then connectionParameters.sendConnectionFlowControlWindow
    else connectionParameters.sendStreamFlowControlWindow
  else c.sendWindow

def AddBytesSent (n : ByteCount) : flowController := { c with bytesSent := c.bytesSent + n }

def AddBytesRetrans (n : ByteCount) : flowController :=
  { c with bytesRetrans := c.bytesRetrans + n }

/-- `UpdateSendWindow`: the controller, and whether the window moved. -/
def UpdateSendWindow (newOffset : ByteCount) : flowController × Bool :=
  if newOffset > c.sendWindow then ({ c with sendWindow := newOffset }, true) else (c, false)

/-- What may still be sent; 0, rather than an underflow, when more was sent than the window
allows. -/
def SendWindowSize : ByteCount :=
  let sendWindow := c.getSendWindow connectionParameters
  if c.bytesSent > sendWindow then 0 else sendWindow - c.bytesSent

def SendWindowOffset : ByteCount := c.getSendWindow connectionParameters

/-! ## Receiving -/

/-- `UpdateHighestReceived` of a stream: the controller, how far the highest offset moved, and
the error of an offset below it. -/
def UpdateHighestReceived (byteOffset : ByteCount) :
    flowController × ByteCount × Option String :=
  if byteOffset = c.highestReceived then (c, 0, none)
  else if byteOffset > c.highestReceived then
    ({ c with highestReceived := byteOffset }, byteOffset - c.highestReceived, none)
  else (c, 0, some ErrReceivedSmallerByteOffset)

/-- `IncrementHighestReceived` of the connection. -/
def IncrementHighestReceived (increment : ByteCount) : flowController :=
  { c with highestReceived := c.highestReceived + increment }

/-- `AddBytesRead`: the first bytes read count as a window update, so that auto-tuning already
works for the first real one. -/
def AddBytesRead (now : ℕ) (n : ByteCount) : flowController :=
  { c with
    lastWindowUpdateTime := if c.bytesRead = 0 then some now else c.lastWindowUpdateTime
    bytesRead := c.bytesRead + n }

/-- `maybeAdjustWindowIncrement`: double the increment, up to its maximum, when the last update
is less than two round trips old. -/
def maybeAdjustWindowIncrement (clock : Clock) : flowController :=
  match c.lastWindowUpdateTime with
  | none => c
  | some lastWindowUpdateTime =>
    let rtt := clock.smoothedRTT
    if rtt = 0 then c
    else
      let timeSinceLastWindowUpdate := clock.now - lastWindowUpdateTime
      let maxRemoteRTT := clock.remoteRTTs.foldl max 0
      if timeSinceLastWindowUpdate ≥ 2 * max rtt maxRemoteRTT then c
      else
        { c with
          receiveWindowIncrement :=
            min (2 * c.receiveWindowIncrement) c.maxReceiveWindowIncrement }

/-- `MaybeUpdateWindow`: the controller, whether an update is due, the new increment (0 when it
did not change), and the window's offset. -/
def MaybeUpdateWindow (clock : Clock) : flowController × Bool × ByteCount × ByteCount :=
  let diff := c.receiveWindow - c.bytesRead
  -- Chromium implements the same threshold
  if diff < c.receiveWindowIncrement / 2 then
    let oldWindowIncrement := c.receiveWindowIncrement
    let c' := c.maybeAdjustWindowIncrement clock
    let newWindowIncrement :=
      if c'.receiveWindowIncrement ≠ oldWindowIncrement then c'.receiveWindowIncrement else 0
    let receiveWindow := c'.bytesRead + c'.receiveWindowIncrement
    ({ c' with lastWindowUpdateTime := some clock.now, receiveWindow }, true, newWindowIncrement,
      receiveWindow)
  else (c, false, c.receiveWindowIncrement, c.receiveWindow)

/-- `EnsureMinimumWindowIncrement` of the connection: raise the increment to `inc`, up to its
maximum, and switch auto-tuning off for the next update. -/
def EnsureMinimumWindowIncrement (inc : ByteCount) : flowController :=
  if inc > c.receiveWindowIncrement then
    { c with
      receiveWindowIncrement := min inc c.maxReceiveWindowIncrement
      lastWindowUpdateTime := none }
  else c

def CheckFlowControlViolation : Bool := c.highestReceived > c.receiveWindow

/-! ## What each method leaves of the send side -/

@[simp] theorem AddBytesSent_bytesSent (n : ByteCount) :
    (c.AddBytesSent n).bytesSent = c.bytesSent + n := rfl

@[simp] theorem AddBytesSent_sendWindow (n : ByteCount) :
    (c.AddBytesSent n).sendWindow = c.sendWindow := rfl

@[simp] theorem AddBytesSent_streamID (n : ByteCount) :
    (c.AddBytesSent n).streamID = c.streamID := rfl

@[simp] theorem AddBytesSent_contributesToConnection (n : ByteCount) :
    (c.AddBytesSent n).contributesToConnection = c.contributesToConnection := rfl

@[simp] theorem UpdateSendWindow_bytesSent (newOffset : ByteCount) :
    (c.UpdateSendWindow newOffset).1.bytesSent = c.bytesSent := by
  by_cases h : newOffset > c.sendWindow <;> simp [UpdateSendWindow, h]

@[simp] theorem UpdateSendWindow_streamID (newOffset : ByteCount) :
    (c.UpdateSendWindow newOffset).1.streamID = c.streamID := by
  by_cases h : newOffset > c.sendWindow <;> simp [UpdateSendWindow, h]

@[simp] theorem UpdateSendWindow_contributesToConnection (newOffset : ByteCount) :
    (c.UpdateSendWindow newOffset).1.contributesToConnection = c.contributesToConnection := by
  by_cases h : newOffset > c.sendWindow <;> simp [UpdateSendWindow, h]

/-- `SendWindowSize` in numbers: the window less what was sent, cut at 0. -/
theorem toNat_SendWindowSize :
    (c.SendWindowSize connectionParameters).toNat =
      (c.SendWindowOffset connectionParameters).toNat - c.bytesSent.toNat := by
  simp only [SendWindowSize, SendWindowOffset]
  split
  · rename_i h
    have := UInt64.lt_iff_toNat_lt.mp h
    simp only [UInt64.toNat_zero]
    omega
  · rename_i h
    rw [UInt64.toNat_sub_of_le _ _ (UInt64.not_lt.mp h)]

/-! ## What each method leaves of the receive side -/

/-- `UpdateHighestReceived` raises the highest offset to the new one if that is higher, and keeps
the rest of the controller. -/
theorem UpdateHighestReceived_fst (byteOffset : ByteCount) :
    (c.UpdateHighestReceived byteOffset).1 =
      { c with
        highestReceived :=
          if c.highestReceived < byteOffset then byteOffset else c.highestReceived } := by
  by_cases heq : byteOffset = c.highestReceived
  · subst heq
    simp [UpdateHighestReceived]
  · by_cases hlt : c.highestReceived < byteOffset <;> simp [UpdateHighestReceived, heq, hlt]

theorem toNat_highestReceived_UpdateHighestReceived (byteOffset : ByteCount) :
    (c.UpdateHighestReceived byteOffset).1.highestReceived.toNat =
      max c.highestReceived.toNat byteOffset.toNat := by
  rw [UpdateHighestReceived_fst]
  dsimp only
  split_ifs with hlt
  · have := UInt64.lt_iff_toNat_lt.mp hlt
    omega
  · have := UInt64.not_lt.mp hlt
    have := UInt64.le_iff_toNat_le.mp this
    omega

/-- The increment is how far the highest offset moved. -/
theorem UpdateHighestReceived_increment (byteOffset : ByteCount) :
    (c.UpdateHighestReceived byteOffset).2.1 =
      (c.UpdateHighestReceived byteOffset).1.highestReceived - c.highestReceived := by
  rw [UpdateHighestReceived_fst]
  by_cases heq : byteOffset = c.highestReceived
  · subst heq
    simp [UpdateHighestReceived]
  · by_cases hlt : c.highestReceived < byteOffset <;> simp [UpdateHighestReceived, heq, hlt]

theorem UpdateHighestReceived_error (byteOffset : ByteCount) :
    (c.UpdateHighestReceived byteOffset).2.2 =
      if byteOffset < c.highestReceived then some ErrReceivedSmallerByteOffset else none := by
  by_cases heq : byteOffset = c.highestReceived
  · subst heq
    simp [UpdateHighestReceived]
  · by_cases hlt : c.highestReceived < byteOffset
    · simp [UpdateHighestReceived, heq, hlt, UInt64.not_lt.mpr (UInt64.le_of_lt hlt)]
    · have hgt : byteOffset < c.highestReceived :=
        UInt64.lt_of_le_of_ne (UInt64.not_lt.mp hlt) heq
      simp [UpdateHighestReceived, heq, hlt, hgt]

/-- Auto-tuning either keeps the controller or doubles its increment, up to the maximum. -/
theorem maybeAdjustWindowIncrement_cases (clock : Clock) :
    c.maybeAdjustWindowIncrement clock = c ∨
      c.maybeAdjustWindowIncrement clock =
        { c with
          receiveWindowIncrement :=
            min (2 * c.receiveWindowIncrement) c.maxReceiveWindowIncrement } := by
  simp only [maybeAdjustWindowIncrement]
  split
  · exact .inl rfl
  · split_ifs
    · exact .inl rfl
    · exact .inl rfl
    · exact .inr rfl

/-- `MaybeUpdateWindow` either keeps the controller, or, with less than half an increment left,
moves the window to the bytes read plus the increment, which auto-tuning may have doubled. -/
theorem MaybeUpdateWindow_cases (clock : Clock) :
    (c.MaybeUpdateWindow clock).1 = c ∨
      c.receiveWindow - c.bytesRead < c.receiveWindowIncrement / 2 ∧
      ∃ increment, (increment = c.receiveWindowIncrement ∨
          increment = min (2 * c.receiveWindowIncrement) c.maxReceiveWindowIncrement) ∧
        (c.MaybeUpdateWindow clock).1 =
          { c with
            receiveWindowIncrement := increment
            lastWindowUpdateTime := some clock.now
            receiveWindow := c.bytesRead + increment } := by
  by_cases hdiff : c.receiveWindow - c.bytesRead < c.receiveWindowIncrement / 2
  · refine .inr ⟨hdiff, ?_⟩
    simp only [MaybeUpdateWindow, hdiff, if_true]
    rcases maybeAdjustWindowIncrement_cases c clock with h | h <;> rw [h]
    · exact ⟨_, .inl rfl, rfl⟩
    · exact ⟨_, .inr rfl, rfl⟩
  · exact .inl (by simp [MaybeUpdateWindow, hdiff])

/-- `EnsureMinimumWindowIncrement` either keeps the controller or raises its increment, up to the
maximum. -/
theorem EnsureMinimumWindowIncrement_cases (inc : ByteCount) :
    c.EnsureMinimumWindowIncrement inc = c ∨
      c.receiveWindowIncrement < inc ∧
        c.EnsureMinimumWindowIncrement inc =
          { c with
            receiveWindowIncrement := min inc c.maxReceiveWindowIncrement
            lastWindowUpdateTime := none } := by
  simp only [EnsureMinimumWindowIncrement]
  split_ifs with h
  · exact .inr ⟨h, rfl⟩
  · exact .inl rfl

end flowController

end PStream.Flowcontrol
