import Mathlib.Logic.Relation
import PStream.StreamFramer.Basic

/-!
# Send-side flow control

The framer asks the flow control manager how much a stream may still send (`SendWindowSize`,
which for a stream that contributes to the connection is also cut to the connection's window),
takes no more than that, and reports what it took (`AddBytesSent`).  The peer moves the windows
with WINDOW_UPDATE frames (`UpdateWindow`).  The books this keeps, `SendBooks`, are:

* every stream has sent no more than its window's offset, and so has the connection;
* the connection has sent exactly what its contributing streams have, counting the streams the
  session has removed since (`removed`, a history the run keeps of the controllers as they were
  when removed).

Until a controller's first WINDOW_UPDATE, its window is the one the handshake announced; the
first update then replaces it, whatever its offset.  An update below the handshake's window
therefore shrinks the window, and may leave it below what was already sent
(`run_first_window_update_below_bytes_sent`).  When no update does that (`NoShrink`), the books
hold over every run and no window ever moves back (`sendWindows_hold`).
-/

set_option autoImplicit false

namespace PStream.Flowcontrol

open Wire

/-- The window a controller has before the peer's first WINDOW_UPDATE. -/
def handshakeWindow (connectionParameters : ConnectionParametersManager) (streamID : StreamID) :
    ByteCount :=
  if streamID = 0 then connectionParameters.sendConnectionFlowControlWindow
  else connectionParameters.sendStreamFlowControlWindow

/-- A WINDOW_UPDATE for `streamID` that does not take its window below the handshake's: its
offset is 0, which no window takes, or at least the handshake's window. -/
def NoShrink (connectionParameters : ConnectionParametersManager) (streamID : StreamID)
    (offset : ByteCount) : Prop :=
  offset = 0 ∨ handshakeWindow connectionParameters streamID ≤ offset

/-- The bytes a stream's controller has added to the connection's. -/
def contributedBytes (c : flowController) : ℕ :=
  if c.contributesToConnection then c.bytesSent.toNat else 0

namespace flowController

variable {cp : ConnectionParametersManager} {c : flowController}

theorem SendWindowOffset_eq :
    c.SendWindowOffset cp = if c.sendWindow = 0 then handshakeWindow cp c.streamID else c.sendWindow :=
  rfl

@[simp] theorem SendWindowOffset_AddBytesSent (n : ByteCount) :
    (c.AddBytesSent n).SendWindowOffset cp = c.SendWindowOffset cp := rfl

@[simp] theorem SendWindowOffset_AddBytesRetrans (n : ByteCount) :
    (c.AddBytesRetrans n).SendWindowOffset cp = c.SendWindowOffset cp := rfl

@[simp] theorem AddBytesRetrans_bytesSent (n : ByteCount) :
    (c.AddBytesRetrans n).bytesSent = c.bytesSent := rfl

@[simp] theorem AddBytesRetrans_streamID (n : ByteCount) :
    (c.AddBytesRetrans n).streamID = c.streamID := rfl

@[simp] theorem contributedBytes_AddBytesRetrans (n : ByteCount) :
    contributedBytes (c.AddBytesRetrans n) = contributedBytes c := rfl

/-- An update that does not shrink below the handshake's window never moves the window back. -/
theorem SendWindowOffset_le_UpdateSendWindow {offset : ByteCount}
    (h : NoShrink cp c.streamID offset) :
    c.SendWindowOffset cp ≤ (c.UpdateSendWindow offset).1.SendWindowOffset cp := by
  simp only [UpdateSendWindow]
  split_ifs with hgt
  · -- the window moves to the update's offset, which is not 0
    have hne : offset ≠ 0 := fun h0 => by simp [h0, UInt64.lt_iff_toNat_lt] at hgt
    rw [SendWindowOffset_eq, SendWindowOffset_eq]
    simp only [hne, if_false]
    split_ifs
    · exact h.resolve_left hne
    · exact UInt64.le_of_lt hgt
  · exact UInt64.le_refl _

/-- Adding `n` to what a controller has sent, when `n` fits in its window, does not wrap. -/
theorem toNat_bytesSent_add {n : ByteCount}
    (hn : n.toNat ≤ (c.SendWindowSize cp).toNat) (hw : c.bytesSent ≤ c.SendWindowOffset cp) :
    (c.bytesSent + n).toNat = c.bytesSent.toNat + n.toNat ∧
      c.bytesSent.toNat + n.toNat ≤ (c.SendWindowOffset cp).toNat := by
  rw [toNat_SendWindowSize] at hn
  have hw' := UInt64.le_iff_toNat_le.mp hw
  have hlt := (c.SendWindowOffset cp).toNat_lt
  refine ⟨?_, by omega⟩
  rw [UInt64.toNat_add, Nat.mod_eq_of_lt (by omega)]

end flowController

/-! ## The books -/

/-- The send-side books of a manager whose streams have left the controllers `removed`. -/
structure SendBooks (f : flowControlManager) (removed : List flowController) : Prop where
  nodup : (f.streamFlowController.map Prod.fst).Nodup
  streamID : ∀ id c, f.streamFlowController.lookup id = some c → c.streamID = id
  conn_streamID : f.connFlowController.streamID = 0
  within : ∀ id c, f.streamFlowController.lookup id = some c →
    c.bytesSent ≤ c.SendWindowOffset f.connectionParameters
  conn_within :
    f.connFlowController.bytesSent ≤ f.connFlowController.SendWindowOffset f.connectionParameters
  conn_sum : f.connFlowController.bytesSent.toNat =
    (f.streamFlowController.map (contributedBytes ∘ Prod.snd)).sum +
      (removed.map contributedBytes).sum

/-- The windows after a change are at least those before, for the streams that have a controller
on both sides. -/
def WindowsGrow (f f' : flowControlManager) : Prop :=
  (∀ id c c', f.streamFlowController.lookup id = some c →
      f'.streamFlowController.lookup id = some c' →
      c.SendWindowOffset f.connectionParameters ≤ c'.SendWindowOffset f'.connectionParameters) ∧
    f.connFlowController.SendWindowOffset f.connectionParameters ≤
      f'.connFlowController.SendWindowOffset f'.connectionParameters

theorem sendBooks_new (cp : ConnectionParametersManager) : SendBooks (NewFlowControlManager cp) [] where
  nodup := by simp [NewFlowControlManager]
  streamID := by simp [NewFlowControlManager]
  conn_streamID := rfl
  within := by simp [NewFlowControlManager]
  conn_within := by simp [NewFlowControlManager, newFlowController]
  conn_sum := by simp [NewFlowControlManager, newFlowController]

namespace flowControlManager

variable {f : flowControlManager} {removed : List flowController}

@[simp] theorem setConnFlowController_self : f.setConnFlowController f.connFlowController = f := rfl

theorem AddBytesSent_of_lookup {streamID : StreamID} {fc : flowController} (n : ByteCount)
    (hc : f.streamFlowController.lookup streamID = some fc) :
    (f.AddBytesSent streamID n).1 =
      (f.setFlowController streamID (fc.AddBytesSent n)).setConnFlowController
        (if fc.contributesToConnection then f.connFlowController.AddBytesSent n
          else f.connFlowController) := by
  have hget : f.getFlowController streamID = .ok fc := (getFlowController_ok f).mpr hc
  simp only [AddBytesSent, hget]
  split <;> rfl

theorem AddBytesRetrans_of_lookup {streamID : StreamID} {fc : flowController} (n : ByteCount)
    (hc : f.streamFlowController.lookup streamID = some fc) :
    (f.AddBytesRetrans streamID n).1 =
      (f.setFlowController streamID (fc.AddBytesRetrans n)).setConnFlowController
        (if fc.contributesToConnection then f.connFlowController.AddBytesRetrans n
          else f.connFlowController) := by
  have hget : f.getFlowController streamID = .ok fc := (getFlowController_ok f).mpr hc
  simp only [AddBytesRetrans, hget]
  split <;> rfl

theorem getFlowController_of_lookup_none {streamID : StreamID}
    (hc : f.streamFlowController.lookup streamID = none) :
    f.getFlowController streamID = .error .errMapAccess := by
  simp [getFlowController, hc]

theorem SendWindowSize_of_lookup {streamID : StreamID} {fc : flowController}
    (hc : f.streamFlowController.lookup streamID = some fc) :
    f.SendWindowSize streamID =
      .ok (if fc.contributesToConnection then
        min (fc.SendWindowSize f.connectionParameters)
          (f.connFlowController.SendWindowSize f.connectionParameters)
        else fc.SendWindowSize f.connectionParameters) := by
  have hget : f.getFlowController streamID = .ok fc := (getFlowController_ok f).mpr hc
  simp only [SendWindowSize, hget]
  split <;> rfl

end flowControlManager

/-! ### Each change keeps the books -/

namespace SendBooks

open flowControlManager

variable {f : flowControlManager} {removed : List flowController}

/-- Writing one stream's controller and the connection's keeps the books, when the stream keeps
its ID, both stay within their windows, and the connection's count moves with the stream's. -/
theorem set (h : SendBooks f removed) {streamID : StreamID} {c c' conn : flowController}
    (hc : f.streamFlowController.lookup streamID = some c) (hid : c'.streamID = c.streamID)
    (hwin : c'.bytesSent ≤ c'.SendWindowOffset f.connectionParameters)
    (hconn_id : conn.streamID = 0)
    (hconn_win : conn.bytesSent ≤ conn.SendWindowOffset f.connectionParameters)
    (hsum : conn.bytesSent.toNat + contributedBytes c =
      f.connFlowController.bytesSent.toNat + contributedBytes c') :
    SendBooks ((f.setFlowController streamID c').setConnFlowController conn) removed where
  nodup := by simpa using h.nodup
  streamID id c'' hc'' := by
    simp only [setConnFlowController_streamFlowController, lookup_setFlowController] at hc''
    split_ifs at hc'' with hk
    · subst hk
      simp only [hc, Option.map_some, Option.some.injEq] at hc''
      rw [← hc'', hid, h.streamID _ _ hc]
    · exact h.streamID _ _ hc''
  conn_streamID := hconn_id
  within id c'' hc'' := by
    simp only [setConnFlowController_streamFlowController, lookup_setFlowController] at hc''
    split_ifs at hc'' with hk
    · subst hk
      simp only [hc, Option.map_some, Option.some.injEq] at hc''
      exact hc'' ▸ hwin
    · exact h.within _ _ hc''
  conn_within := hconn_win
  conn_sum := by
    have hreplace : _ = _ + contributedBytes c' := List.sum_map_replace contributedBytes h.nodup hc
    simp only [setConnFlowController_connFlowController, setConnFlowController_streamFlowController]
    simp only [setFlowController]
    have := h.conn_sum
    omega

/-- Writing the connection's controller keeps the books when it keeps its count and its ID and
stays within its window. -/
theorem setConn (h : SendBooks f removed) {conn : flowController}
    (hconn_id : conn.streamID = 0)
    (hconn_win : conn.bytesSent ≤ conn.SendWindowOffset f.connectionParameters)
    (hsent : conn.bytesSent = f.connFlowController.bytesSent) :
    SendBooks (f.setConnFlowController conn) removed :=
  { h with
    conn_streamID := hconn_id
    conn_within := hconn_win
    conn_sum := hsent ▸ h.conn_sum }

theorem NewStream (h : SendBooks f removed) (streamID : StreamID) (b : Bool) :
    SendBooks (f.NewStream streamID b) removed := by
  cases hc : f.streamFlowController.lookup streamID with
  | some _ =>
    simpa [flowControlManager.NewStream, hc] using h
  | none =>
    -- a fresh controller, which has sent nothing, joins the map
    let fresh := newFlowController streamID b f.connectionParameters
    have hnew : f.NewStream streamID b =
        { f with streamFlowController := f.streamFlowController ++ [(streamID, fresh)] } := by
      simp [flowControlManager.NewStream, hc, fresh]
    have hnotin : ∀ e ∈ f.streamFlowController, e.1 ≠ streamID := by
      intro e he heq
      simp only [List.lookup_eq_none_iff, bne_iff_ne, ne_eq] at hc
      exact hc e he heq.symm
    have hlook : ∀ id, (f.streamFlowController ++ [(streamID, fresh)]).lookup id =
        if id = streamID then some fresh else f.streamFlowController.lookup id := by
      intro id
      rw [List.lookup_append]
      split_ifs with hk
      · subst hk
        simp [hc]
      · simp [List.lookup_cons, beq_false_of_ne hk]
    rw [hnew]
    refine
      { nodup := ?_, streamID := fun id c hc' => ?_, conn_streamID := h.conn_streamID
        within := fun id c hc' => ?_, conn_within := h.conn_within, conn_sum := ?_ }
    · simp only [List.map_append, List.map_cons, List.map_nil, List.nodup_append,
        List.nodup_singleton, List.mem_singleton]
      exact ⟨h.nodup, trivial, fun a ha b hb => hb ▸ fun heq => by
        obtain ⟨e, he, rfl⟩ := List.mem_map.mp ha
        exact hnotin e he heq⟩
    · rw [hlook] at hc'
      split_ifs at hc' with hk
      · cases hc'
        simp [fresh, newFlowController, hk]
      · exact h.streamID _ _ hc'
    · rw [hlook] at hc'
      split_ifs at hc' with hk
      · cases hc'
        simp [fresh, newFlowController]
      · exact h.within _ _ hc'
    · simp [h.conn_sum, contributedBytes, fresh, newFlowController]

theorem RemoveStream (h : SendBooks f removed) (streamID : StreamID) :
    SendBooks (f.RemoveStream streamID)
      (removed ++ (f.streamFlowController.lookup streamID).toList) := by
  have hlook : ∀ id, (f.RemoveStream streamID).streamFlowController.lookup id =
      if id = streamID then none else f.streamFlowController.lookup id :=
    List.lookup_filter_ne _ _
  refine
    { nodup := ?_, streamID := fun id c hc' => ?_, conn_streamID := h.conn_streamID
      within := fun id c hc' => ?_, conn_within := h.conn_within, conn_sum := ?_ }
  · exact (List.filter_sublist.map Prod.fst).nodup h.nodup
  · rw [hlook] at hc'
    split_ifs at hc'
    exact h.streamID _ _ hc'
  · rw [hlook] at hc'
    split_ifs at hc'
    exact h.within _ _ hc'
  · -- the removed controller's bytes move from the map to `removed`
    simp only [flowControlManager.RemoveStream]
    cases hc : f.streamFlowController.lookup streamID with
    | none =>
      have hall : ∀ e ∈ f.streamFlowController, e.1 ≠ streamID := by
        intro e he heq
        simp only [List.lookup_eq_none_iff, bne_iff_ne, ne_eq] at hc
        exact hc e he heq.symm
      rw [List.filter_ne_of_forall_ne hall]
      simp [h.conn_sum]
    | some c =>
      have := List.sum_map_filter_ne contributedBytes h.nodup hc
      simp only [Option.toList_some, List.map_append, List.sum_append, List.map_cons,
        List.map_nil, List.sum_cons, List.sum_nil, add_zero]
      rw [h.conn_sum]
      omega

theorem UpdateWindow (h : SendBooks f removed) {streamID : StreamID}
    {offset : ByteCount} (hno : NoShrink f.connectionParameters streamID offset) :
    SendBooks (f.UpdateWindow streamID offset).1 removed := by
  simp only [flowControlManager.UpdateWindow]
  split_ifs with h0
  · -- the connection's window
    subst h0
    have hno' : NoShrink f.connectionParameters f.connFlowController.streamID offset := by
      rwa [h.conn_streamID]
    exact h.setConn (by simp [h.conn_streamID])
      (UInt64.le_trans (by simpa using h.conn_within)
        (flowController.SendWindowOffset_le_UpdateSendWindow hno'))
      (by simp)
  · cases hc : f.streamFlowController.lookup streamID with
    | none => simpa [getFlowController_of_lookup_none hc] using h
    | some fc =>
      have hget : f.getFlowController streamID = .ok fc := (getFlowController_ok f).mpr hc
      have hno' : NoShrink f.connectionParameters fc.streamID offset := by
        rwa [h.streamID _ _ hc]
      simp only [hget]
      have h' := h.set hc (show (fc.UpdateSendWindow offset).1.streamID = fc.streamID by simp)
        (UInt64.le_trans (by simpa using h.within _ _ hc)
          (flowController.SendWindowOffset_le_UpdateSendWindow hno'))
        h.conn_streamID h.conn_within (by simp [contributedBytes])
      -- writing the connection's own controller back changes nothing
      exact h'

end SendBooks

/-! ## What the framer's pops do to the manager -/

/-- A change a pop of the framer makes to the manager: count as sent no more than
`SendWindowSize` allows, or count retransmitted bytes. -/
inductive SendStep (f : flowControlManager) : flowControlManager → Prop
  | send (streamID : StreamID) (n : ByteCount) :
      (∀ w, f.SendWindowSize streamID = .ok w → n ≤ w) → SendStep f (f.AddBytesSent streamID n).1
  | retrans (streamID : StreamID) (n : ByteCount) : SendStep f (f.AddBytesRetrans streamID n).1

/-- Two managers with the same connection parameters and the same windows. -/
def SameWindows (f f' : flowControlManager) : Prop :=
  f'.connectionParameters = f.connectionParameters ∧
    (∀ id, (f'.streamFlowController.lookup id).map (·.SendWindowOffset f'.connectionParameters) =
      (f.streamFlowController.lookup id).map (·.SendWindowOffset f.connectionParameters)) ∧
    f'.connFlowController.SendWindowOffset f'.connectionParameters =
      f.connFlowController.SendWindowOffset f.connectionParameters

namespace SameWindows

variable {f f' f'' : flowControlManager}

theorem refl (f : flowControlManager) : SameWindows f f := ⟨rfl, fun _ => rfl, rfl⟩

theorem trans (h₁ : SameWindows f f') (h₂ : SameWindows f' f'') : SameWindows f f'' :=
  ⟨h₂.1.trans h₁.1, fun id => (h₂.2.1 id).trans (h₁.2.1 id), h₂.2.2.trans h₁.2.2⟩

theorem windowsGrow (h : SameWindows f f') : WindowsGrow f f' := by
  refine ⟨fun id c c' hc hc' => ?_, UInt64.le_of_eq h.2.2.symm⟩
  have heq := h.2.1 id
  rw [hc, hc', Option.map_some, Option.map_some, Option.some.injEq] at heq
  exact UInt64.le_of_eq heq.symm

/-- Writing a stream's controller and the connection's without moving their windows. -/
theorem set {streamID : StreamID} {c c' conn : flowController}
    (hc : f.streamFlowController.lookup streamID = some c)
    (hoff : c'.SendWindowOffset f.connectionParameters = c.SendWindowOffset f.connectionParameters)
    (hconn : conn.SendWindowOffset f.connectionParameters =
      f.connFlowController.SendWindowOffset f.connectionParameters) :
    SameWindows f ((f.setFlowController streamID c').setConnFlowController conn) := by
  refine ⟨rfl, fun id => ?_, hconn⟩
  simp only [flowControlManager.setConnFlowController_streamFlowController,
    flowControlManager.setConnFlowController_connectionParameters,
    flowControlManager.setFlowController_connectionParameters,
    flowControlManager.lookup_setFlowController]
  split_ifs with hk
  · subst hk
    simp [hc, hoff]
  · rfl

end SameWindows

namespace SendStep

open flowControlManager

variable {f f' : flowControlManager} {removed : List flowController}

/-- A bounded send, or a retransmission, keeps the books. -/
theorem sendBooks (h : SendBooks f removed) (hs : SendStep f f') : SendBooks f' removed := by
  cases hs with
  | send streamID n hn =>
    cases hc : f.streamFlowController.lookup streamID with
    | none => simpa [flowControlManager.AddBytesSent, getFlowController_of_lookup_none hc] using h
    | some fc =>
      have hbound := hn _ (SendWindowSize_of_lookup hc)
      have hstream : n.toNat ≤ (fc.SendWindowSize f.connectionParameters).toNat := by
        apply UInt64.le_iff_toNat_le.mp
        split_ifs at hbound
        · exact UInt64.le_trans hbound Std.min_le_left
        · exact hbound
      obtain ⟨hfc, hfcw⟩ := flowController.toNat_bytesSent_add hstream (h.within _ _ hc)
      rw [AddBytesSent_of_lookup n hc]
      refine h.set hc (by simp) (UInt64.le_iff_toNat_le.mpr (by simpa [hfc] using hfcw)) ?_ ?_ ?_
      · split_ifs <;> simp [h.conn_streamID]
      · split_ifs with hcontrib
        · -- the connection's window bounds the send too
          have hconn : n.toNat ≤
              (f.connFlowController.SendWindowSize f.connectionParameters).toNat := by
            rw [if_pos hcontrib] at hbound
            exact UInt64.le_iff_toNat_le.mp (UInt64.le_trans hbound Std.min_le_right)
          obtain ⟨hc', hcw⟩ := flowController.toNat_bytesSent_add hconn h.conn_within
          exact UInt64.le_iff_toNat_le.mpr (by simpa [hc'] using hcw)
        · exact h.conn_within
      · split_ifs with hcontrib
        · have hconn : n.toNat ≤
              (f.connFlowController.SendWindowSize f.connectionParameters).toNat := by
            rw [if_pos hcontrib] at hbound
            exact UInt64.le_iff_toNat_le.mp (UInt64.le_trans hbound Std.min_le_right)
          obtain ⟨hc', -⟩ := flowController.toNat_bytesSent_add hconn h.conn_within
          simp only [contributedBytes, flowController.AddBytesSent_contributesToConnection,
            hcontrib, if_true, flowController.AddBytesSent_bytesSent, hc', hfc]
          omega
        · simp [contributedBytes, hcontrib]
  | retrans streamID n =>
    cases hc : f.streamFlowController.lookup streamID with
    | none =>
      simpa [flowControlManager.AddBytesRetrans, getFlowController_of_lookup_none hc] using h
    | some fc =>
      rw [AddBytesRetrans_of_lookup n hc]
      refine h.set hc (by simp) (by simpa using h.within _ _ hc) ?_ ?_ (by split_ifs <;> simp)
      · split_ifs <;> simp [h.conn_streamID]
      · split_ifs
        · simpa using h.conn_within
        · exact h.conn_within

/-- Neither a send nor a retransmission moves a window. -/
theorem sameWindows (hs : SendStep f f') : SameWindows f f' := by
  cases hs with
  | send streamID n _ =>
    cases hc : f.streamFlowController.lookup streamID with
    | none =>
      simpa [flowControlManager.AddBytesSent, getFlowController_of_lookup_none hc] using
        SameWindows.refl f
    | some fc =>
      rw [AddBytesSent_of_lookup n hc]
      exact SameWindows.set hc (by simp) (by split_ifs <;> simp)
  | retrans streamID n =>
    cases hc : f.streamFlowController.lookup streamID with
    | none =>
      simpa [flowControlManager.AddBytesRetrans, getFlowController_of_lookup_none hc] using
        SameWindows.refl f
    | some fc =>
      rw [AddBytesRetrans_of_lookup n hc]
      exact SameWindows.set hc (by simp) (by split_ifs <;> simp)

end SendStep

/-- What a sequence of sends and retransmissions keeps. -/
theorem SendBooks.sendSteps {f f' : flowControlManager} {removed : List flowController}
    (h : SendBooks f removed) (hs : Relation.ReflTransGen SendStep f f') : SendBooks f' removed := by
  induction hs with
  | refl => exact h
  | tail _ hstep ih => exact hstep.sendBooks ih

theorem SameWindows.of_sendSteps {f f' : flowControlManager}
    (hs : Relation.ReflTransGen SendStep f f') : SameWindows f f' := by
  induction hs with
  | refl => exact SameWindows.refl f
  | tail _ hstep ih => exact ih.trans hstep.sameWindows

/-- What a run of sends and retransmissions leaves: the books, the parameters, the windows. -/
theorem SendBooks.of_sendSteps {f f' : flowControlManager} {removed : List flowController}
    (h : SendBooks f removed) (hs : Relation.ReflTransGen SendStep f f') :
    SendBooks f' removed ∧ f'.connectionParameters = f.connectionParameters ∧ WindowsGrow f f' :=
  have hsame := SameWindows.of_sendSteps hs
  ⟨h.sendSteps hs, hsame.1, hsame.windowsGrow⟩

/-! ## Each call keeps the books and grows the windows -/

namespace WindowsGrow

open flowControlManager

variable {f : flowControlManager}

/-- Writing a stream's controller and the connection's without moving their windows back. -/
theorem set {streamID : StreamID} {c c' conn : flowController}
    (hc : f.streamFlowController.lookup streamID = some c)
    (hoff : c.SendWindowOffset f.connectionParameters ≤ c'.SendWindowOffset f.connectionParameters)
    (hconn : f.connFlowController.SendWindowOffset f.connectionParameters ≤
      conn.SendWindowOffset f.connectionParameters) :
    WindowsGrow f ((f.setFlowController streamID c').setConnFlowController conn) := by
  refine ⟨fun id c₁ c₂ h₁ h₂ => ?_, hconn⟩
  simp only [setConnFlowController_streamFlowController, lookup_setFlowController,
    setConnFlowController_connectionParameters, setFlowController_connectionParameters] at h₂ ⊢
  split_ifs at h₂ with hk
  · subst hk
    rw [hc] at h₁
    simp only [hc, Option.map_some, Option.some.injEq] at h₂
    cases h₁
    exact h₂ ▸ hoff
  · rw [h₁] at h₂
    cases h₂
    exact UInt64.le_refl _

theorem NewStream (streamID : StreamID) (b : Bool) : WindowsGrow f (f.NewStream streamID b) := by
  refine ⟨fun id c c' hc hc' => ?_, by simp⟩
  simp only [NewStream_connectionParameters]
  rw [lookup_NewStream, hc, Option.some_or, Option.some.injEq] at hc'
  exact hc' ▸ UInt64.le_refl _

theorem RemoveStream (streamID : StreamID) : WindowsGrow f (f.RemoveStream streamID) := by
  refine ⟨fun id c c' hc hc' => ?_, UInt64.le_refl _⟩
  have hlook : (f.RemoveStream streamID).streamFlowController.lookup id =
      if id = streamID then none else f.streamFlowController.lookup id :=
    List.lookup_filter_ne _ _ _
  rw [hlook] at hc'
  split_ifs at hc'
  rw [hc, Option.some.injEq] at hc'
  exact hc' ▸ UInt64.le_refl _

theorem UpdateWindow {removed : List flowController} (h : SendBooks f removed)
    {streamID : StreamID} {offset : ByteCount}
    (hno : NoShrink f.connectionParameters streamID offset) :
    WindowsGrow f (f.UpdateWindow streamID offset).1 := by
  simp only [flowControlManager.UpdateWindow]
  split_ifs with h0
  · subst h0
    refine ⟨fun id c c' hc hc' => ?_, ?_⟩
    · simp only [setConnFlowController_streamFlowController, hc, Option.some.injEq] at hc'
      exact hc' ▸ UInt64.le_refl _
    · exact flowController.SendWindowOffset_le_UpdateSendWindow (by rwa [h.conn_streamID])
  · cases hc : f.streamFlowController.lookup streamID with
    | none =>
      simpa [getFlowController_of_lookup_none hc] using (SameWindows.refl f).windowsGrow
    | some fc =>
      simp only [(getFlowController_ok f).mpr hc]
      have hgrow := set hc
        (flowController.SendWindowOffset_le_UpdateSendWindow (by rwa [h.streamID _ _ hc]))
        (UInt64.le_refl (f.connFlowController.SendWindowOffset f.connectionParameters))
      -- writing the connection's own controller back changes nothing
      exact hgrow

end WindowsGrow

end PStream.Flowcontrol

/-! ## The framer's pops send within the windows -/

namespace PStream.streamFramer

open Flowcontrol Wire

variable {mayTake : stream → ByteCount → ByteCount → Bool} {afterPop : stream → ByteCount → stream}
  {maxBytes : ByteCount}

theorem sendFrame_sendStep {st : PopState} {s : stream} {header : StreamFrame}
    {data : Option (List UInt8)} {sendWindowSize : ByteCount}
    (hw : ∀ w, st.framer.flowControlManager.SendWindowSize s.streamID = .ok w →
      (data.getD []).length.toUInt64 ≤ w) :
    SendStep st.framer.flowControlManager
      (sendFrame afterPop maxBytes st s header data sendWindowSize).1.framer.flowControlManager := by
  have heq : (sendFrame afterPop maxBytes st s header data sendWindowSize).1.framer.flowControlManager
      = (st.framer.flowControlManager.AddBytesSent s.streamID (data.getD []).length.toUInt64).1 := by
    simp only [sendFrame]
    split <;> rfl
  rw [heq]
  exact .send _ _ hw

/-- One call of the closure sends at most what the stream's window allows. -/
theorem popNormalFrame_sendSteps (st : PopState) (s : stream) :
    Relation.ReflTransGen SendStep st.framer.flowControlManager
      (popNormalFrame mayTake afterPop maxBytes st s).1.framer.flowControlManager := by
  rcases popNormalFrame_cases mayTake afterPop maxBytes st s with h | ⟨limit, hlimit, -, -, -, -, heq⟩
  · rw [h]
  · rw [heq]
    refine .single (sendFrame_sendStep fun w hw => ?_)
    rw [takeData_streamID] at hw
    cases hdata : (takeData mayTake s limit.2).2 with
    | none => simp
    | some data =>
      rw [hlimit] at hdata
      exact takeData_sendLimit_le hdata hw

theorem popNormalLoop_sendSteps (ids : List StreamID) (st : PopState) :
    Relation.ReflTransGen SendStep st.framer.flowControlManager
      (popNormalLoop mayTake afterPop maxBytes st ids).framer.flowControlManager := by
  induction ids generalizing st with
  | nil => exact .refl
  | cons id ids ih =>
    simp only [popNormalLoop]
    split
    · exact ih st
    · rename_i s _
      have hframe : Relation.ReflTransGen SendStep st.framer.flowControlManager
          (popNormalFrame mayTake afterPop maxBytes st s).1.framer.flowControlManager :=
        popNormalFrame_sendSteps st s
      generalize popNormalFrame mayTake afterPop maxBytes st s = r at hframe ⊢
      obtain ⟨st', s', cont⟩ := r
      -- the stream written back into the map leaves the manager alone
      split_ifs
      · exact hframe.trans (ih { st' with framer.streams := Function.update st'.framer.streams id s' })
      · exact hframe

theorem popNormalFrames_sendSteps (f : streamFramer) (ids : List StreamID) :
    Relation.ReflTransGen SendStep f.flowControlManager
      (popNormalFrames mayTake afterPop f maxBytes ids).1.flowControlManager :=
  popNormalLoop_sendSteps ids ⟨f, 0, []⟩

theorem retransmitOne_sendSteps {maxLen : ByteCount}
    (st : RetransState) (frame : StreamFrame) :
    Relation.ReflTransGen SendStep st.framer.flowControlManager
      (retransmitOne maxLen st frame).1.framer.flowControlManager := by
  simp only [retransmitOne]
  split_ifs
  · exact .refl
  · split
    · exact .single (.retrans _ _)
    · exact .single (.retrans _ _)

theorem retransmitLoop_sendSteps {mine : StreamFrame → Bool} {maxLen : ByteCount}
    (queue : List StreamFrame) (st : RetransState) :
    Relation.ReflTransGen SendStep st.framer.flowControlManager
      (retransmitLoop mine maxLen st queue).1.framer.flowControlManager := by
  induction queue generalizing st with
  | nil => exact .refl
  | cons frame queue ih =>
    simp only [retransmitLoop]
    split_ifs
    · exact ih st
    · have hone : Relation.ReflTransGen SendStep st.framer.flowControlManager
          (retransmitOne maxLen st frame).1.framer.flowControlManager :=
        retransmitOne_sendSteps st frame
      generalize retransmitOne maxLen st frame = r at hone ⊢
      obtain ⟨st', left, cont⟩ := r
      cases cont
      · exact hone
      · exact hone.trans (ih st')

theorem popFramesForRetransmission_sendSteps (mine : StreamFrame → Bool) (f : streamFramer)
    (maxLen : ByteCount) :
    Relation.ReflTransGen SendStep f.flowControlManager
      (popFramesForRetransmission mine f maxLen).1.flowControlManager :=
  retransmitLoop_sendSteps f.retransmissionQueue ⟨f, [], 0⟩

/-- Every pop of the framer changes the manager only by bounded sends and retransmissions. -/
theorem step_sendSteps_of_pop (f : streamFramer) (call : SendCall)
    (hpop : ∀ streamID b, call ≠ .NewStream streamID b)
    (hremove : ∀ streamID, call ≠ .RemoveStream streamID)
    (hupdate : ∀ streamID offset, call ≠ .UpdateWindow streamID offset) :
    Relation.ReflTransGen SendStep f.flowControlManager (f.step call).1.flowControlManager := by
  cases call with
  | NewStream streamID b => exact absurd rfl (hpop streamID b)
  | RemoveStream streamID => exact absurd rfl (hremove streamID)
  | UpdateWindow streamID offset => exact absurd rfl (hupdate streamID offset)
  | Write streamID p =>
    simp only [step, updateStream]
    split <;> exact .refl
  | Close streamID =>
    simp only [step, updateStream]
    split <;> exact .refl
  | maybePopNormalFrames => exact popNormalFrames_sendSteps _ _
  | maybePopNormalFramesOfPath => exact popNormalFrames_sendSteps _ _
  | maybePopNormalFramesOfOneStream => exact popNormalFrames_sendSteps _ _
  | maybePopFramesForRetransmission => exact popFramesForRetransmission_sendSteps _ _ _
  | maybePopFramesForRetransmissionOfPath => exact popFramesForRetransmission_sendSteps _ _ _
  | maybePopFramesForRetransmissionOfOneStream =>
    exact popFramesForRetransmission_sendSteps _ _ _

end PStream.streamFramer

/-! ## Runs -/

namespace PStream.Flowcontrol

open streamFramer

/-- The controllers a call removes, as they were when removed. -/
def removedBy (f : streamFramer) : SendCall → List flowController
  | .RemoveStream streamID => (f.flowControlManager.streamFlowController.lookup streamID).toList
  | _ => []

/-- The controllers the calls remove along a run, as they were when removed. -/
def removedAlong (f : streamFramer) : List SendCall → List flowController
  | [] => []
  | call :: calls => removedBy f call ++ removedAlong (f.step call).1 calls

/-- One call keeps the books, leaves the connection parameters alone and grows the windows, when
it is no window update that shrinks a window below the handshake's. -/
theorem step_sendBooks {f : streamFramer} {removed : List flowController}
    (h : SendBooks f.flowControlManager removed) (call : SendCall)
    (hno : ∀ streamID offset, call = .UpdateWindow streamID offset →
      NoShrink f.flowControlManager.connectionParameters streamID offset) :
    SendBooks (f.step call).1.flowControlManager (removed ++ removedBy f call) ∧
      (f.step call).1.flowControlManager.connectionParameters =
        f.flowControlManager.connectionParameters ∧
      WindowsGrow f.flowControlManager (f.step call).1.flowControlManager := by
  cases call
  case NewStream streamID b =>
    simp only [step, removedBy, List.append_nil]
    exact ⟨h.NewStream streamID b, by simp, WindowsGrow.NewStream streamID b⟩
  case RemoveStream streamID =>
    exact ⟨h.RemoveStream streamID, rfl, WindowsGrow.RemoveStream streamID⟩
  case UpdateWindow streamID offset =>
    have hno' := hno streamID offset rfl
    simp only [step, removedBy, List.append_nil]
    refine ⟨h.UpdateWindow hno', ?_, WindowsGrow.UpdateWindow h hno'⟩
    simp only [flowControlManager.UpdateWindow]
    split_ifs
    · rfl
    · split <;> rfl
  all_goals
    -- the pops, and the calls on a stream: bounded sends and retransmissions only
    simp only [removedBy, List.append_nil]
    exact h.of_sendSteps (step_sendSteps_of_pop f _ (by simp) (by simp) (by simp))

/-- Every run from books that hold keeps them, with the controllers it removes added, and grows the
windows at each call, when no window update in it shrinks a window below the handshake's. -/
theorem run_sendBooks {f : streamFramer} {removed : List flowController}
    (h : SendBooks f.flowControlManager removed) (calls : List SendCall)
    (hcalls : ∀ streamID offset, SendCall.UpdateWindow streamID offset ∈ calls →
      NoShrink f.flowControlManager.connectionParameters streamID offset) :
    SendBooks (f.run calls).1.flowControlManager (removed ++ removedAlong f calls) ∧
      (f.run calls).1.flowControlManager.connectionParameters =
        f.flowControlManager.connectionParameters ∧
      ∀ pre call post, calls = pre ++ call :: post →
        WindowsGrow (f.run pre).1.flowControlManager
          ((f.run pre).1.step call).1.flowControlManager := by
  -- the induction is on the calls, from the framer each one leaves
  induction calls generalizing f removed with
  | nil =>
    refine ⟨by simpa [removedAlong] using h, rfl, fun pre call post hnil => ?_⟩
    simp at hnil
  | cons call calls ih =>
    obtain ⟨hstep, hcp, hgrow⟩ := step_sendBooks h call fun streamID offset hc =>
      hcalls streamID offset (by simp [hc])
    obtain ⟨hrun, hcp', hgrows⟩ := ih hstep fun streamID offset hc => by
      rw [hcp]
      exact hcalls streamID offset (List.mem_cons_of_mem _ hc)
    refine ⟨by simpa [removedAlong] using hrun, hcp'.trans hcp, ?_⟩
    rintro (_ | ⟨c, pre⟩) call' post hcalls'
    · -- the call at the front
      obtain ⟨rfl, -⟩ := List.cons_eq_cons.mp hcalls'
      simpa using hgrow
    · -- a call further on, from the framer the first call leaves
      obtain ⟨rfl, hrest⟩ := List.cons_eq_cons.mp hcalls'
      simpa using hgrows pre call' post hrest

/-- **Send-side flow control.**  Along any run of the session's send side from a new manager,
in which no WINDOW_UPDATE takes a window below the handshake's: every stream and the connection
have sent no more than their windows allow, the connection has sent exactly what its contributing
streams have (those removed included), and no call moves a window back. -/
theorem sendWindows_hold (cp : ConnectionParametersManager) (f : streamFramer)
    (hf : f.flowControlManager = NewFlowControlManager cp) (calls : List SendCall)
    (hcalls : ∀ streamID offset, SendCall.UpdateWindow streamID offset ∈ calls →
      NoShrink cp streamID offset) :
    SendBooks (f.run calls).1.flowControlManager (removedAlong f calls) ∧
      ∀ pre call post, calls = pre ++ call :: post →
        WindowsGrow (f.run pre).1.flowControlManager
          ((f.run pre).1.step call).1.flowControlManager := by
  have hnew : SendBooks f.flowControlManager [] := hf ▸ sendBooks_new cp
  obtain ⟨hrun, -, hgrows⟩ := run_sendBooks hnew calls fun streamID offset hc => by
    rw [hf]
    exact hcalls streamID offset hc
  exact ⟨by simpa using hrun, hgrows⟩

/-- The manager of a new session after three bytes went out on stream 5 under the handshake's
window. -/
def threeBytesSent : flowControlManager :=
  (streamFramer.run
    ⟨fun id => if id = 5 then some (newStream 5) else none,
      NewFlowControlManager (NewConnectionParamatersManager 1048576 1572864), [], []⟩
    [.NewStream 5 true, .Write 5 [1, 2, 3],
      .maybePopNormalFramesOfOneStream 1350 5]).1.flowControlManager

/-- Without `NoShrink` the books fail: the three bytes went out under the handshake's window of
16384, and a first WINDOW_UPDATE to offset 1 then sets the window to 1, below them. -/
theorem run_first_window_update_below_bytes_sent :
    (threeBytesSent.streamFlowController.lookup 5).map
        (fun c => (c.bytesSent, c.SendWindowOffset threeBytesSent.connectionParameters)) =
      some (3, 16384) ∧
    ((threeBytesSent.UpdateWindow 5 1).1.streamFlowController.lookup 5).map
        (fun c => (c.bytesSent, c.SendWindowOffset threeBytesSent.connectionParameters)) =
      some (3, 1) := by
  decide

end PStream.Flowcontrol
