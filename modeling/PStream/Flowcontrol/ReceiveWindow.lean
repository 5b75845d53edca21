import Mathlib.Algebra.Order.BigOperators.Group.List
import Mathlib.Algebra.Order.Group.Nat
import Mathlib.Logic.Relation
import Mathlib.Tactic.Abel
import PStream.Flowcontrol.Manager

/-!
# Receive-side flow control over runs

The session drives the receive side of the `flowControlManager` with six calls (`ReceiveCall`):
streams are opened and removed, STREAM and RST_STREAM frames report offsets
(`UpdateHighestReceived`, `ResetStream`), the application reads (`AddBytesRead`), and the window
updates to send are collected (`GetWindowUpdates`).  `receiveAll` makes the calls in turn and
stops at the first error, after which the session closes.

The books this keeps:

* the connection has received what its contributing streams have, those removed included, and
  has read what they have read (`ReceiveBooks`);
* every stream's highest offset is the highest one it was given (`receiveAll_highestReceived`),
  so STREAM and RST_STREAM frames may arrive in any order (`receiveAll_perm`);
* a frame fails with `FlowControlReceivedTooMuchData` exactly when it takes its stream or the
  connection past its window;
* windows only grow, and an increment stays within the larger of its start and its maximum.

The windows only grow if no maximum increment is below the window it starts from: a window update
then sets a window below what the peer was allowed before, and the peer's next frame within the
old window is an error (`receiveAll_window_shrinks`).  The window arithmetic is the code's, in
`ByteCount`: the results that compare offsets are proved for runs whose offsets add up to less
than `2 ^ 62`, where nothing wraps.
-/

set_option autoImplicit false

namespace PStream.Flowcontrol

/-- The calls the session makes on the receive side of the manager. -/
inductive ReceiveCall where
  | NewStream (streamID : StreamID) (contributesToConnection : Bool)
  | RemoveStream (streamID : StreamID)
  | UpdateHighestReceived (streamID : StreamID) (byteOffset : ByteCount)
  | ResetStream (streamID : StreamID) (byteOffset : ByteCount)
  | AddBytesRead (now : ℕ) (streamID : StreamID) (n : ByteCount)
  | GetWindowUpdates (clock : Clock) (force : Bool) (order : List StreamID)

namespace flowControlManager

/-- One call: the manager after it, and the error it returned. -/
def receive (f : flowControlManager) : ReceiveCall → flowControlManager × Option Error
  | .NewStream streamID b => (f.NewStream streamID b, none)
  | .RemoveStream streamID => (f.RemoveStream streamID, none)
  | .UpdateHighestReceived streamID byteOffset => f.UpdateHighestReceived streamID byteOffset
  | .ResetStream streamID byteOffset => f.ResetStream streamID byteOffset
  | .AddBytesRead now streamID n => f.AddBytesRead now streamID n
  | .GetWindowUpdates clock force order => ((f.GetWindowUpdates clock force order).1, none)

/-- The calls in turn, up to the first that returns an error. -/
def receiveAll (f : flowControlManager) : List ReceiveCall → flowControlManager × Option Error
  | [] => (f, none)
  | call :: calls =>
    match f.receive call with
    | (f, none) => f.receiveAll calls
    | (f, some err) => (f, some err)

@[simp] theorem receiveAll_nil (f : flowControlManager) : f.receiveAll [] = (f, none) := rfl

theorem receiveAll_cons_of_none {f f' : flowControlManager} {call : ReceiveCall}
    (h : f.receive call = (f', none)) (calls : List ReceiveCall) :
    f.receiveAll (call :: calls) = f'.receiveAll calls := by
  simp [receiveAll, h]

/-- A run that ends without an error made its first call without one. -/
theorem receive_of_receiveAll_cons {f : flowControlManager} {call : ReceiveCall}
    {calls : List ReceiveCall} (h : (f.receiveAll (call :: calls)).2 = none) :
    f.receive call = ((f.receive call).1, none) ∧
      f.receiveAll (call :: calls) = (f.receive call).1.receiveAll calls := by
  generalize hr : f.receive call = r at h
  obtain ⟨f', err⟩ := r
  cases err with
  | none => exact ⟨rfl, receiveAll_cons_of_none hr calls⟩
  | some err => simp [receiveAll, hr] at h

/-- A run without an error is its first part and then the rest from where that ended. -/
theorem receiveAll_append {f : flowControlManager} {pre : List ReceiveCall}
    (post : List ReceiveCall) (h : (f.receiveAll pre).2 = none) :
    f.receiveAll (pre ++ post) = (f.receiveAll pre).1.receiveAll post := by
  induction pre generalizing f with
  | nil => rfl
  | cons call pre ih =>
    obtain ⟨hcall, hrun⟩ := receive_of_receiveAll_cons h
    rw [List.cons_append, receiveAll_cons_of_none hcall, ih (by rwa [hrun] at h), hrun]

theorem receiveAll_append_of_none {f : flowControlManager} {pre post : List ReceiveCall}
    (h : (f.receiveAll (pre ++ post)).2 = none) : (f.receiveAll pre).2 = none := by
  induction pre generalizing f with
  | nil => rfl
  | cons call pre ih =>
    rw [List.cons_append] at h
    obtain ⟨hcall, hrun⟩ := receive_of_receiveAll_cons h
    rw [receiveAll_cons_of_none hcall]
    exact ih (by rwa [hrun] at h)

/-- What every call keeps, whatever it returns, holds after every run. -/
theorem receiveAll_of_receive {P : flowControlManager → Prop}
    (hstep : ∀ f call, P f → P (f.receive call).1) {f : flowControlManager} (hf : P f)
    (calls : List ReceiveCall) : P (f.receiveAll calls).1 := by
  induction calls generalizing f with
  | nil => exact hf
  | cons call calls ih =>
    have hone := hstep f call hf
    simp only [receiveAll]
    generalize f.receive call = r at hone
    obtain ⟨f', err⟩ := r
    cases err with
    | none => exact ih hone
    | some err => exact hone

/-! ## What each receive method does -/

variable (f : flowControlManager)

/-- `checkAndAccount` writes the stream's controller back, and adds the increment to the
connection when the stream contributes and is within its window. -/
theorem checkAndAccount_fst (streamID : StreamID) (byteOffset : ByteCount) (fc : flowController)
    (increment : ByteCount) :
    (f.checkAndAccount streamID byteOffset fc increment).1 =
      if fc.CheckFlowControlViolation = false ∧ fc.contributesToConnection = true then
        (f.setFlowController streamID fc).setConnFlowController
          (f.connFlowController.IncrementHighestReceived increment)
      else f.setFlowController streamID fc := by
  simp only [checkAndAccount]
  by_cases hconn :
      (f.connFlowController.IncrementHighestReceived increment).CheckFlowControlViolation = true <;>
    cases fc.CheckFlowControlViolation <;> cases fc.contributesToConnection <;> simp [hconn]

theorem checkAndAccount_streamFlowController (streamID : StreamID) (byteOffset : ByteCount)
    (fc : flowController) (increment : ByteCount) :
    (f.checkAndAccount streamID byteOffset fc increment).1.streamFlowController =
      (f.setFlowController streamID fc).streamFlowController := by
  rw [checkAndAccount_fst]
  split <;> rfl

/-- `checkAndAccount` fails when the stream or, for a contributing stream, the connection is past
its window. -/
theorem checkAndAccount_snd_eq_none (streamID : StreamID) (byteOffset : ByteCount)
    (fc : flowController) (increment : ByteCount) :
    (f.checkAndAccount streamID byteOffset fc increment).2 = none ↔
      fc.CheckFlowControlViolation = false ∧
        (fc.contributesToConnection = true →
          (f.connFlowController.IncrementHighestReceived increment).CheckFlowControlViolation =
            false) := by
  simp only [checkAndAccount]
  by_cases hconn :
      (f.connFlowController.IncrementHighestReceived increment).CheckFlowControlViolation = true <;>
    cases fc.CheckFlowControlViolation <;> cases fc.contributesToConnection <;> simp [hconn]

/-- The only error `checkAndAccount` returns is `FlowControlReceivedTooMuchData`. -/
theorem checkAndAccount_snd_eq_some {streamID : StreamID} {byteOffset : ByteCount}
    {fc : flowController} {increment : ByteCount} {err : Error}
    (h : (f.checkAndAccount streamID byteOffset fc increment).2 = some err) :
    ∃ msg, err = .FlowControlReceivedTooMuchData msg := by
  simp only [checkAndAccount] at h
  split_ifs at h <;> simp at h <;> exact ⟨_, h.symm⟩

theorem UpdateHighestReceived_of_lookup {streamID : StreamID} {c : flowController}
    (hc : f.streamFlowController.lookup streamID = some c) (byteOffset : ByteCount) :
    f.UpdateHighestReceived streamID byteOffset =
      f.checkAndAccount streamID byteOffset (c.UpdateHighestReceived byteOffset).1
        (c.UpdateHighestReceived byteOffset).2.1 := by
  simp only [UpdateHighestReceived, getFlowController, hc]

/-- `ResetStream` below the highest offset is `StreamDataAfterTermination`, and otherwise what
`UpdateHighestReceived` does. -/
theorem ResetStream_of_lookup {streamID : StreamID} {c : flowController}
    (hc : f.streamFlowController.lookup streamID = some c) (byteOffset : ByteCount) :
    f.ResetStream streamID byteOffset =
      if byteOffset < c.highestReceived then (f, some .StreamDataAfterTermination)
      else f.UpdateHighestReceived streamID byteOffset := by
  rw [UpdateHighestReceived_of_lookup f hc]
  have herr := c.UpdateHighestReceived_error byteOffset
  simp only [ResetStream, getFlowController, hc]
  generalize c.UpdateHighestReceived byteOffset = r at herr ⊢
  obtain ⟨fc, increment, err⟩ := r
  dsimp only at herr ⊢
  subst herr
  by_cases hlt : byteOffset < c.highestReceived <;> simp [hlt]

theorem AddBytesRead_of_lookup {streamID : StreamID} {c : flowController}
    (hc : f.streamFlowController.lookup streamID = some c) (now : ℕ) (n : ByteCount) :
    f.AddBytesRead now streamID n =
      (if c.contributesToConnection then
        (f.setFlowController streamID (c.AddBytesRead now n)).setConnFlowController
          (f.connFlowController.AddBytesRead now n)
      else f.setFlowController streamID (c.AddBytesRead now n), none) := by
  simp only [AddBytesRead, getFlowController, hc]
  split <;> rfl

/-- A frame or a read on a stream without a controller is `errMapAccess`. -/
theorem receive_of_lookup_none {streamID : StreamID}
    (hc : f.streamFlowController.lookup streamID = none) :
    (∀ byteOffset, f.UpdateHighestReceived streamID byteOffset = (f, some .errMapAccess)) ∧
      (∀ byteOffset, f.ResetStream streamID byteOffset = (f, some .errMapAccess)) ∧
      ∀ now n, f.AddBytesRead now streamID n = (f, some .errMapAccess) := by
  simp [UpdateHighestReceived, ResetStream, AddBytesRead, getFlowController, hc]

end flowControlManager

/-! ## Collecting window updates -/

open flowControlManager

/-- What collecting window updates does to the manager, one controller at a time: a stream's
window moves, the connection's increment is raised, or the connection's window moves. -/
inductive WindowStep : flowControlManager → flowControlManager → Prop
  | stream (f : flowControlManager) (id : StreamID) (c : flowController) (clock : Clock)
      (hc : f.streamFlowController.lookup id = some c) :
      WindowStep f (f.setFlowController id (c.MaybeUpdateWindow clock).1)
  | connIncrement (f : flowControlManager) (inc : ByteCount) :
      WindowStep f
        (f.setConnFlowController (f.connFlowController.EnsureMinimumWindowIncrement inc))
  | conn (f : flowControlManager) (clock : Clock) :
      WindowStep f (f.setConnFlowController (f.connFlowController.MaybeUpdateWindow clock).1)

theorem windowUpdateOfStream_windowSteps (clock : Clock) (force : Bool)
    (st : flowControlManager × List WindowUpdate) (id : StreamID) :
    Relation.ReflTransGen WindowStep st.1 (windowUpdateOfStream clock force st id).1 := by
  obtain ⟨f, res⟩ := st
  simp only [windowUpdateOfStream]
  split
  · exact .refl
  · rename_i c hc
    have hstream := WindowStep.stream f id c clock hc
    generalize c.MaybeUpdateWindow clock = r at hstream ⊢
    obtain ⟨fc, necessary, newIncrement, offset⟩ := r
    dsimp only at hstream ⊢
    split_ifs
    · exact .tail (.single hstream) (.connIncrement _ _)
    · exact .single hstream
    · exact .single hstream

theorem GetWindowUpdates_windowSteps (f : flowControlManager) (clock : Clock) (force : Bool)
    (order : List StreamID) :
    Relation.ReflTransGen WindowStep f (f.GetWindowUpdates clock force order).1 := by
  -- the loop over the streams, by induction on the order they are visited in
  have hloop : ∀ (st : flowControlManager × List WindowUpdate),
      Relation.ReflTransGen WindowStep st.1 (order.foldl (windowUpdateOfStream clock force) st).1 := by
    induction order with
    | nil => exact fun _ => .refl
    | cons id order ih => exact fun st => (windowUpdateOfStream_windowSteps clock force st id).trans (ih _)
  have hstreams := hloop (f, [])
  simp only [GetWindowUpdates]
  generalize order.foldl (windowUpdateOfStream clock force) (f, []) = r at hstreams ⊢
  obtain ⟨f', res⟩ := r
  have hconn := WindowStep.conn f' clock
  generalize f'.connFlowController.MaybeUpdateWindow clock = r at hconn ⊢
  obtain ⟨conn, necessary, newIncrement, offset⟩ := r
  dsimp only at hconn ⊢
  split_ifs
  · exact hstreams.tail hconn
  · exact hstreams.tail hconn

/-! ## What the books count -/

/-- What a stream has put into the connection's books: the bytes received and the bytes read, if
it contributes. -/
def receivedBytes (c : flowController) : ByteCount :=
  if c.contributesToConnection then c.highestReceived else 0

def readBytes (c : flowController) : ByteCount :=
  if c.contributesToConnection then c.bytesRead else 0

namespace ReceiveCall

/-- The offset a call reports, as a number: at most what it adds to the bytes received. -/
def given : ReceiveCall → ℕ
  | .UpdateHighestReceived _ byteOffset | .ResetStream _ byteOffset => byteOffset.toNat
  | _ => 0

/-- The controllers a call removes, as they were when removed. -/
def removed (f : flowControlManager) : ReceiveCall → List flowController
  | .RemoveStream streamID => (f.streamFlowController.lookup streamID).toList
  | _ => []

/-- A read stays within what its stream has received. -/
def readWithin (f : flowControlManager) : ReceiveCall → Bool
  | .AddBytesRead _ streamID n =>
    match f.streamFlowController.lookup streamID with
    | some c => c.bytesRead.toNat + n.toNat ≤ c.highestReceived.toNat
    | none => true
  | _ => true

/-- A STREAM or RST_STREAM frame's offset. -/
def isFrame : ReceiveCall → Bool
  | .UpdateHighestReceived _ _ | .ResetStream _ _ => true
  | _ => false

/-- The offsets a call gives stream `streamID`. -/
def offsetsTo (streamID : StreamID) : ReceiveCall → List ByteCount
  | .UpdateHighestReceived s byteOffset | .ResetStream s byteOffset =>
    if s = streamID then [byteOffset] else []
  | _ => []

end ReceiveCall

namespace flowControlManager

/-- The controllers the calls remove, as they were when removed. -/
def removedAlong (f : flowControlManager) : List ReceiveCall → List flowController
  | [] => []
  | call :: calls => call.removed f ++ (f.receive call).1.removedAlong calls

/-- Every read along the calls stays within what its stream has received. -/
def readsWithin (f : flowControlManager) : List ReceiveCall → Bool
  | [] => true
  | call :: calls => call.readWithin f && (f.receive call).1.readsWithin calls

/-- A run's reads are within what was received if those of a longer run are. -/
theorem readsWithin_of_append {f : flowControlManager} {pre post : List ReceiveCall}
    (h : f.readsWithin (pre ++ post) = true) : f.readsWithin pre = true := by
  induction pre generalizing f with
  | nil => rfl
  | cons call pre ih =>
    simp only [List.cons_append, readsWithin, Bool.and_eq_true] at h ⊢
    exact ⟨h.1, ih h.2⟩

end flowControlManager

/-- A stream has read no more than it received, and received no more than its window allows. -/
structure Credit (c : flowController) : Prop where
  read_le : c.bytesRead ≤ c.highestReceived
  received_le : c.highestReceived ≤ c.receiveWindow

/-- A controller's increment is within its maximum, and the maximum within `2 ^ 62`. -/
structure Tuned (c : flowController) : Prop where
  increment_le : c.receiveWindowIncrement ≤ c.maxReceiveWindowIncrement
  max_le : c.maxReceiveWindowIncrement.toNat ≤ 2 ^ 62

/-- Parameters whose windows start within their maxima, and whose maxima are within `2 ^ 62`. -/
structure TunedParameters (cp : ConnectionParametersManager) : Prop where
  stream_le : cp.receiveStreamFlowControlWindow ≤ cp.maxReceiveStreamFlowControlWindow
  connection_le : cp.receiveConnectionFlowControlWindow ≤ cp.maxReceiveConnectionFlowControlWindow
  stream_max : cp.maxReceiveStreamFlowControlWindow.toNat ≤ 2 ^ 62
  connection_max : cp.maxReceiveConnectionFlowControlWindow.toNat ≤ 2 ^ 62

theorem TunedParameters.credit_tuned_new {cp : ConnectionParametersManager}
    (hcp : TunedParameters cp) (streamID : StreamID) (b : Bool) :
    Credit (newFlowController streamID b cp) ∧ Tuned (newFlowController streamID b cp) := by
  refine ⟨⟨by simp [newFlowController], ?_⟩, ⟨?_, ?_⟩⟩
  · simp only [newFlowController]
    exact UInt64.zero_le
  · simp only [newFlowController]
    split_ifs
    exacts [hcp.connection_le, hcp.stream_le]
  · simp only [newFlowController]
    split_ifs
    exacts [hcp.connection_max, hcp.stream_max]

namespace flowController

variable (c : flowController) (clock : Clock)

/-- `MaybeUpdateWindow` moves only the window, the increment and the time of the last update. -/
theorem MaybeUpdateWindow_eq : ∃ window increment time,
    (c.MaybeUpdateWindow clock).1 =
      { c with
        receiveWindow := window, receiveWindowIncrement := increment
        lastWindowUpdateTime := time } := by
  rcases c.MaybeUpdateWindow_cases clock with h | ⟨-, increment, -, h⟩ <;> rw [h]
  · exact ⟨_, _, _, rfl⟩
  · exact ⟨_, _, _, rfl⟩

/-- `EnsureMinimumWindowIncrement` moves only the increment and the time of the last update. -/
theorem EnsureMinimumWindowIncrement_eq (inc : ByteCount) : ∃ increment time,
    c.EnsureMinimumWindowIncrement inc =
      { c with receiveWindowIncrement := increment, lastWindowUpdateTime := time } := by
  rcases c.EnsureMinimumWindowIncrement_cases inc with h | ⟨-, h⟩ <;> rw [h]
  · exact ⟨_, _, rfl⟩
  · exact ⟨_, _, rfl⟩

/-- A window update never moves a tuned window back: with less than half an increment left, the
bytes read plus an increment at least as large as before is past the old window.  Nothing wraps
while the bytes read and the maximum are small. -/
theorem receiveWindow_le_MaybeUpdateWindow {c : flowController} (ht : Tuned c)
    (hread : c.bytesRead.toNat < 2 ^ 62) (hwindow : c.bytesRead ≤ c.receiveWindow) :
    c.receiveWindow ≤ (c.MaybeUpdateWindow clock).1.receiveWindow := by
  rcases c.MaybeUpdateWindow_cases clock with h | ⟨hdiff, increment, hinc, h⟩ <;> rw [h]
  · exact UInt64.le_refl _
  have hmax := UInt64.le_iff_toNat_le.mp ht.increment_le
  -- the new increment, in numbers: at least the old one, and within the maximum
  have hincrement : c.receiveWindowIncrement.toNat ≤ increment.toNat ∧
      increment.toNat ≤ 2 ^ 62 := by
    rcases hinc with rfl | rfl
    · exact ⟨Nat.le_refl _, by have := ht.max_le; omega⟩
    · rw [UInt64.toNat_min, UInt64.toNat_mul]
      have := ht.max_le
      simp only [UInt64.reduceToNat]
      omega
  have hdiff' := UInt64.lt_iff_toNat_lt.mp hdiff
  rw [UInt64.toNat_sub_of_le _ _ hwindow, UInt64.toNat_div] at hdiff'
  rw [UInt64.le_iff_toNat_le, UInt64.toNat_add]
  simp only [UInt64.reduceToNat] at hdiff' ⊢
  omega

theorem CheckFlowControlViolation_eq_false {c : flowController} :
    c.CheckFlowControlViolation = false ↔ c.highestReceived ≤ c.receiveWindow := by
  simp [CheckFlowControlViolation, UInt64.not_lt]

end flowController

theorem Tuned.MaybeUpdateWindow {c : flowController} (ht : Tuned c) (clock : Clock) :
    Tuned (c.MaybeUpdateWindow clock).1 := by
  rcases c.MaybeUpdateWindow_cases clock with h | ⟨-, increment, hinc, h⟩ <;> rw [h]
  · exact ht
  · refine ⟨?_, ht.max_le⟩
    rcases hinc with rfl | rfl
    exacts [ht.increment_le, Std.min_le_right]

theorem Tuned.EnsureMinimumWindowIncrement {c : flowController} (ht : Tuned c)
    (inc : ByteCount) : Tuned (c.EnsureMinimumWindowIncrement inc) := by
  rcases c.EnsureMinimumWindowIncrement_cases inc with h | ⟨-, h⟩ <;> rw [h]
  · exact ht
  · exact ⟨Std.min_le_right, ht.max_le⟩

/-! ## The books -/

/-- The receive books after a run: `removed` holds the controllers of the streams removed, as they
were, and `given` bounds the offsets reported so far.

* The connection has received and read what its contributing streams have, removed ones included.
* Every stream has read no more than it received, and received no more than its window.
* Every increment is within its maximum. -/
structure ReceiveBooks (f : flowControlManager) (removed : List flowController) (given : ℕ) :
    Prop where
  nodup : (f.streamFlowController.map Prod.fst).Nodup
  conn_received : f.connFlowController.highestReceived = f.total receivedBytes removed
  conn_read : f.connFlowController.bytesRead = f.total readBytes removed
  credit : ∀ e ∈ f.streamFlowController, Credit e.2
  removed_read_le : ∀ c ∈ removed, c.bytesRead ≤ c.highestReceived
  conn_credit : f.connFlowController.highestReceived ≤ f.connFlowController.receiveWindow
  total_le : f.total (fun c => c.highestReceived.toNat) removed ≤ given
  tuned : ∀ e ∈ f.streamFlowController, Tuned e.2
  conn_tuned : Tuned f.connFlowController
  parameters : TunedParameters f.connectionParameters

theorem receiveBooks_new {cp : ConnectionParametersManager} (hcp : TunedParameters cp) :
    ReceiveBooks (NewFlowControlManager cp) [] 0 where
  nodup := by simp [NewFlowControlManager]
  conn_received := by
    simp [NewFlowControlManager, newFlowController, flowControlManager.total]
  conn_read := by simp [NewFlowControlManager, newFlowController, flowControlManager.total]
  credit := by simp [NewFlowControlManager]
  removed_read_le := by simp
  conn_credit := (hcp.credit_tuned_new 0 false).1.received_le
  total_le := by simp [NewFlowControlManager, flowControlManager.total]
  tuned := by simp [NewFlowControlManager]
  conn_tuned := (hcp.credit_tuned_new 0 false).2
  parameters := hcp

namespace ReceiveBooks

variable {f : flowControlManager} {removed : List flowController} {given : ℕ}

theorem toNat_highestReceived_le (h : ReceiveBooks f removed given)
    {e : StreamID × flowController} (he : e ∈ f.streamFlowController) :
    e.2.highestReceived.toNat ≤ given := by
  have hmem := List.mem_map_of_mem (f := (fun c => c.highestReceived.toNat) ∘ Prod.snd) he
  have hle := List.le_sum_of_mem hmem
  have htotal := h.total_le
  simp only [flowControlManager.total] at htotal
  simp only [Function.comp] at hle
  omega

/-- A total of numbers over the controllers grows with its terms. -/
theorem total_le_total {g g' : flowController → ℕ}
    (hlive : ∀ e ∈ f.streamFlowController, g e.2 ≤ g' e.2) (hremoved : ∀ c ∈ removed, g c ≤ g' c) :
    f.total g removed ≤ f.total g' removed :=
  Nat.add_le_add (List.sum_le_sum fun e he => hlive e he) (List.sum_le_sum hremoved)

/-- A total of words whose numbers add up to less than `2 ^ 64` does not wrap. -/
theorem toNat_total (g : flowController → ByteCount)
    (hsmall : f.total (fun c => (g c).toNat) removed < 2 ^ 64) :
    (f.total g removed).toNat = f.total (fun c => (g c).toNat) removed := by
  simp only [flowControlManager.total, Function.comp_def] at hsmall ⊢
  have hlive := UInt64.toNat_sum_of_lt (f.streamFlowController.map fun e => g e.2)
    (by simp only [List.map_map, Function.comp_def]; omega)
  have hremoved := UInt64.toNat_sum_of_lt (removed.map g)
    (by simp only [List.map_map, Function.comp_def]; omega)
  simp only [List.map_map, Function.comp_def] at hlive hremoved
  rw [UInt64.toNat_add, hlive, hremoved, Nat.mod_eq_of_lt hsmall]

/-- Below `2 ^ 62` nothing wraps: the connection has received and read, in numbers, what its
streams have, and read no more than it received. -/
theorem toNat_conn (h : ReceiveBooks f removed given) (hg : given < 2 ^ 62) :
    f.connFlowController.highestReceived.toNat =
        f.total (fun c => (receivedBytes c).toNat) removed ∧
      f.connFlowController.bytesRead.toNat = f.total (fun c => (readBytes c).toNat) removed ∧
      f.total (fun c => (readBytes c).toNat) removed ≤
        f.total (fun c => (receivedBytes c).toNat) removed ∧
      f.total (fun c => (receivedBytes c).toNat) removed ≤ given := by
  have hreceived : ∀ c : flowController, (receivedBytes c).toNat ≤ c.highestReceived.toNat := by
    intro c
    simp only [receivedBytes]
    split <;> simp
  have hread : ∀ c : flowController, c.bytesRead ≤ c.highestReceived →
      (readBytes c).toNat ≤ (receivedBytes c).toNat := by
    intro c hc
    simp only [readBytes, receivedBytes]
    split
    · exact UInt64.le_iff_toNat_le.mp hc
    · exact Nat.le_refl _
  have hle_given : f.total (fun c => (receivedBytes c).toNat) removed ≤ given :=
    (total_le_total (fun e _ => hreceived e.2) fun c _ => hreceived c).trans h.total_le
  have hread_le : f.total (fun c => (readBytes c).toNat) removed ≤
      f.total (fun c => (receivedBytes c).toNat) removed :=
    total_le_total (fun e he => hread e.2 (h.credit e he).read_le)
      fun c hc => hread c (h.removed_read_le c hc)
  refine ⟨?_, ?_, hread_le, hle_given⟩
  · rw [h.conn_received, toNat_total _ (by omega)]
  · rw [h.conn_read, toNat_total _ (by omega)]

open flowControlManager

/-- Writing a stream's controller and the connection's keeps the books when both stay in credit
and tuned, and the connection's counts move with the stream's. -/
theorem set (h : ReceiveBooks f removed given) {streamID : StreamID} {c c' conn : flowController}
    (hc : f.streamFlowController.lookup streamID = some c) (hcredit : Credit c')
    (htuned : Tuned c')
    (hreceived : conn.highestReceived + receivedBytes c =
      f.connFlowController.highestReceived + receivedBytes c')
    (hread : conn.bytesRead + readBytes c = f.connFlowController.bytesRead + readBytes c')
    (hconn_credit : conn.highestReceived ≤ conn.receiveWindow) (hconn_tuned : Tuned conn)
    {given' : ℕ} (htotal : given + c'.highestReceived.toNat ≤ given' + c.highestReceived.toNat) :
    ReceiveBooks ((f.setFlowController streamID c').setConnFlowController conn) removed given' where
  nodup := by simpa using h.nodup
  conn_received := by
    have hsum := f.total_setFlowController receivedBytes h.nodup hc c' removed
    refine add_right_cancel (b := receivedBytes c) ?_
    rw [setConnFlowController_connFlowController, total_setConnFlowController, hreceived,
      h.conn_received, hsum]
  conn_read := by
    have hsum := f.total_setFlowController readBytes h.nodup hc c' removed
    refine add_right_cancel (b := readBytes c) ?_
    rw [setConnFlowController_connFlowController, total_setConnFlowController, hread,
      h.conn_read, hsum]
  credit e he := by
    rcases f.mem_setFlowController he with heq | he'
    · exact heq ▸ hcredit
    · exact h.credit e he'
  removed_read_le := h.removed_read_le
  conn_credit := hconn_credit
  total_le := by
    have hsum := f.total_setFlowController (fun c => c.highestReceived.toNat) h.nodup hc c' removed
    have htotal' := h.total_le
    rw [total_setConnFlowController]
    omega
  tuned e he := by
    rcases f.mem_setFlowController he with heq | he'
    · exact heq ▸ htuned
    · exact h.tuned e he'
  conn_tuned := hconn_tuned
  parameters := by simpa using h.parameters

/-- Writing the connection's controller keeps the books when its counts stay and it stays in credit
and tuned. -/
theorem setConn (h : ReceiveBooks f removed given) {conn : flowController}
    (hreceived : conn.highestReceived = f.connFlowController.highestReceived)
    (hread : conn.bytesRead = f.connFlowController.bytesRead)
    (hconn_credit : conn.highestReceived ≤ conn.receiveWindow) (hconn_tuned : Tuned conn) :
    ReceiveBooks (f.setConnFlowController conn) removed given where
  nodup := h.nodup
  conn_received := hreceived.trans h.conn_received
  conn_read := hread.trans h.conn_read
  credit := h.credit
  removed_read_le := h.removed_read_le
  conn_credit := hconn_credit
  total_le := h.total_le
  tuned := h.tuned
  conn_tuned := hconn_tuned
  parameters := h.parameters

theorem NewStream (h : ReceiveBooks f removed given) (streamID : StreamID) (b : Bool) :
    ReceiveBooks (f.NewStream streamID b) removed given := by
  obtain ⟨hcredit, htuned⟩ := h.parameters.credit_tuned_new streamID b
  -- the new controller has received and read nothing
  have hfresh : (newFlowController streamID b f.connectionParameters).highestReceived = 0 ∧
      (newFlowController streamID b f.connectionParameters).bytesRead = 0 := ⟨rfl, rfl⟩
  refine
    { nodup := f.nodup_NewStream h.nodup streamID b
      conn_received := ?_, conn_read := ?_, credit := fun e he => ?_
      removed_read_le := h.removed_read_le, conn_credit := by simpa using h.conn_credit
      total_le := ?_, tuned := fun e he => ?_, conn_tuned := by simpa using h.conn_tuned
      parameters := by simpa using h.parameters }
  · rw [NewStream_connFlowController, total_NewStream _ _ _ _ _ (by simp [receivedBytes, hfresh])]
    exact h.conn_received
  · rw [NewStream_connFlowController, total_NewStream _ _ _ _ _ (by simp [readBytes, hfresh])]
    exact h.conn_read
  · rcases f.mem_NewStream he with he' | rfl
    exacts [h.credit e he', hcredit]
  · rw [total_NewStream _ _ _ _ _ (by simp [hfresh])]
    exact h.total_le
  · rcases f.mem_NewStream he with he' | rfl
    exacts [h.tuned e he', htuned]

theorem RemoveStream (h : ReceiveBooks f removed given) (streamID : StreamID) :
    ReceiveBooks (f.RemoveStream streamID)
      (removed ++ (f.streamFlowController.lookup streamID).toList) given where
  nodup := f.nodup_RemoveStream h.nodup streamID
  conn_received := by
    rw [RemoveStream_connFlowController, total_RemoveStream _ _ h.nodup]
    exact h.conn_received
  conn_read := by
    rw [RemoveStream_connFlowController, total_RemoveStream _ _ h.nodup]
    exact h.conn_read
  credit e he := h.credit e (f.mem_RemoveStream he)
  removed_read_le c hc := by
    rcases List.mem_append.mp hc with hc | hc
    · exact h.removed_read_le c hc
    · -- the controller removed was one of the streams'
      cases hlook : f.streamFlowController.lookup streamID with
      | none => simp [hlook] at hc
      | some c' =>
        simp only [hlook, Option.toList_some, List.mem_singleton] at hc
        exact hc ▸ (h.credit _ (f.mem_of_lookup hlook)).read_le
  conn_credit := h.conn_credit
  total_le := by
    rw [total_RemoveStream _ _ h.nodup]
    exact h.total_le
  tuned e he := h.tuned e (f.mem_RemoveStream he)
  conn_tuned := h.conn_tuned
  parameters := h.parameters

/-- A frame's offset that takes neither its stream nor the connection past its window keeps the
books, with the offset added to those reported. -/
theorem frame (h : ReceiveBooks f removed given) {streamID : StreamID} {c : flowController}
    (hc : f.streamFlowController.lookup streamID = some c) (byteOffset : ByteCount)
    (hnone : (f.UpdateHighestReceived streamID byteOffset).2 = none) :
    ReceiveBooks (f.UpdateHighestReceived streamID byteOffset).1 removed
      (given + byteOffset.toNat) := by
  rw [UpdateHighestReceived_of_lookup f hc] at hnone ⊢
  obtain ⟨hstream, hconn⟩ := (f.checkAndAccount_snd_eq_none _ _ _ _).mp hnone
  have hmem := f.mem_of_lookup hc
  have hcredit₀ : Credit c := h.credit _ hmem
  have htuned₀ : Tuned c := h.tuned _ hmem
  -- the controller after the frame: the highest offset raised, the rest kept
  have hraised := c.UpdateHighestReceived_fst byteOffset
  have hmax := c.toNat_highestReceived_UpdateHighestReceived byteOffset
  have hcredit : Credit (c.UpdateHighestReceived byteOffset).1 := by
    refine ⟨?_, flowController.CheckFlowControlViolation_eq_false.mp hstream⟩
    rw [UInt64.le_iff_toNat_le, hmax, hraised]
    have := UInt64.le_iff_toNat_le.mp hcredit₀.read_le
    dsimp only
    omega
  have htuned : Tuned (c.UpdateHighestReceived byteOffset).1 := by
    rw [hraised]
    exact ⟨htuned₀.increment_le, htuned₀.max_le⟩
  have htotal : given + (c.UpdateHighestReceived byteOffset).1.highestReceived.toNat ≤
      given + byteOffset.toNat + c.highestReceived.toNat := by
    rw [hmax]
    omega
  rw [checkAndAccount_fst]
  by_cases hcontrib : c.contributesToConnection = true
  · have hcontrib' : (c.UpdateHighestReceived byteOffset).1.contributesToConnection = true := by
      rw [hraised]
      exact hcontrib
    rw [if_pos ⟨hstream, hcontrib'⟩]
    have hconn_credit := flowController.CheckFlowControlViolation_eq_false.mp (hconn hcontrib')
    refine h.set hc hcredit htuned ?_ ?_ hconn_credit ⟨h.conn_tuned.1, h.conn_tuned.2⟩ htotal
    · -- the connection gains what the stream's highest offset moved by
      simp only [receivedBytes, hcontrib, hcontrib', if_true,
        flowController.IncrementHighestReceived, flowController.UpdateHighestReceived_increment]
      rw [add_assoc, sub_add_cancel]
    · rw [hraised]
      simp [readBytes, flowController.IncrementHighestReceived]
  · have hcontrib' : (c.UpdateHighestReceived byteOffset).1.contributesToConnection = false := by
      rw [hraised]
      simpa using hcontrib
    rw [if_neg (by simp [hcontrib'])]
    have hreceived : f.connFlowController.highestReceived + receivedBytes c =
        f.connFlowController.highestReceived +
          receivedBytes (c.UpdateHighestReceived byteOffset).1 := by
      simp [receivedBytes, hcontrib, hcontrib']
    have hread : f.connFlowController.bytesRead + readBytes c =
        f.connFlowController.bytesRead + readBytes (c.UpdateHighestReceived byteOffset).1 := by
      simp [readBytes, hcontrib, hcontrib']
    exact h.set hc hcredit htuned hreceived hread h.conn_credit h.conn_tuned htotal

/-- A read within what its stream received keeps the books. -/
theorem AddBytesRead (h : ReceiveBooks f removed given) {streamID : StreamID}
    {c : flowController} (hc : f.streamFlowController.lookup streamID = some c) (now : ℕ)
    (n : ByteCount) (hread : c.bytesRead.toNat + n.toNat ≤ c.highestReceived.toNat) :
    ReceiveBooks (f.AddBytesRead now streamID n).1 removed given := by
  rw [AddBytesRead_of_lookup f hc]
  have hmem := f.mem_of_lookup hc
  have hcredit₀ : Credit c := h.credit _ hmem
  have htuned₀ : Tuned c := h.tuned _ hmem
  have hsum : (c.bytesRead + n).toNat = c.bytesRead.toNat + n.toNat := by
    have := c.highestReceived.toNat_lt
    rw [UInt64.toNat_add, Nat.mod_eq_of_lt (by omega)]
  have hcredit : Credit (c.AddBytesRead now n) := by
    refine ⟨?_, hcredit₀.received_le⟩
    simp only [flowController.AddBytesRead]
    rw [UInt64.le_iff_toNat_le, hsum]
    exact hread
  have htuned : Tuned (c.AddBytesRead now n) := ⟨htuned₀.increment_le, htuned₀.max_le⟩
  have htotal : given + (c.AddBytesRead now n).highestReceived.toNat ≤
      given + c.highestReceived.toNat := Nat.le_refl _
  dsimp only
  split
  · rename_i hcontrib
    have hreceived : (f.connFlowController.AddBytesRead now n).highestReceived + receivedBytes c =
        f.connFlowController.highestReceived + receivedBytes (c.AddBytesRead now n) := rfl
    -- the connection reads what the stream reads
    have hread' : (f.connFlowController.AddBytesRead now n).bytesRead + readBytes c =
        f.connFlowController.bytesRead + readBytes (c.AddBytesRead now n) := by
      simp only [readBytes, flowController.AddBytesRead, hcontrib, if_true]
      ac_rfl
    exact h.set hc hcredit htuned hreceived hread' h.conn_credit
      ⟨h.conn_tuned.increment_le, h.conn_tuned.max_le⟩ htotal
  · rename_i hcontrib
    have hreceived : f.connFlowController.highestReceived + receivedBytes c =
        f.connFlowController.highestReceived + receivedBytes (c.AddBytesRead now n) := rfl
    have hread' : f.connFlowController.bytesRead + readBytes c =
        f.connFlowController.bytesRead + readBytes (c.AddBytesRead now n) := by
      simp [readBytes, flowController.AddBytesRead, hcontrib]
    exact h.set hc hcredit htuned hreceived hread' h.conn_credit h.conn_tuned htotal

/-- Collecting a window update keeps the books while nothing wraps: windows only grow, so what was
within them stays within. -/
theorem windowStep (h : ReceiveBooks f removed given) (hg : given < 2 ^ 62)
    {f' : flowControlManager} (hs : WindowStep f f') : ReceiveBooks f' removed given := by
  cases hs with
  | stream id c clock hc =>
    have hmem := f.mem_of_lookup hc
    have hcredit₀ : Credit c := h.credit _ hmem
    have htuned₀ : Tuned c := h.tuned _ hmem
    have hsmall : c.bytesRead.toNat < 2 ^ 62 := by
      have hread := UInt64.le_iff_toNat_le.mp hcredit₀.read_le
      have hreceived : c.highestReceived.toNat ≤ given := h.toNat_highestReceived_le hmem
      omega
    have hwindow := c.receiveWindow_le_MaybeUpdateWindow clock htuned₀ hsmall
      (UInt64.le_trans hcredit₀.read_le hcredit₀.received_le)
    have htuned := htuned₀.MaybeUpdateWindow clock
    obtain ⟨window, increment, time, heq⟩ := c.MaybeUpdateWindow_eq clock
    rw [heq] at hwindow htuned ⊢
    have hcredit : Credit
        { c with
          receiveWindow := window, receiveWindowIncrement := increment
          lastWindowUpdateTime := time } :=
      ⟨hcredit₀.read_le, UInt64.le_trans hcredit₀.received_le hwindow⟩
    exact h.set hc hcredit htuned (by simp [receivedBytes]) (by simp [readBytes]) h.conn_credit
      h.conn_tuned (Nat.le_refl _)
  | connIncrement inc =>
    have htuned := h.conn_tuned.EnsureMinimumWindowIncrement inc
    obtain ⟨increment, time, heq⟩ := f.connFlowController.EnsureMinimumWindowIncrement_eq inc
    rw [heq] at htuned ⊢
    exact h.setConn rfl rfl h.conn_credit htuned
  | conn clock =>
    -- the connection has read no more than it received, in numbers
    obtain ⟨hreceived, hread, hread_le, hle⟩ := h.toNat_conn hg
    have hcredit := UInt64.le_iff_toNat_le.mp h.conn_credit
    have hwindow := f.connFlowController.receiveWindow_le_MaybeUpdateWindow clock h.conn_tuned
      (by omega) (by rw [UInt64.le_iff_toNat_le]; omega)
    have htuned := h.conn_tuned.MaybeUpdateWindow clock
    obtain ⟨window, increment, time, heq⟩ := f.connFlowController.MaybeUpdateWindow_eq clock
    rw [heq] at hwindow htuned ⊢
    exact h.setConn rfl rfl (UInt64.le_trans h.conn_credit hwindow) htuned

theorem windowSteps (h : ReceiveBooks f removed given) (hg : given < 2 ^ 62)
    {f' : flowControlManager} (hs : Relation.ReflTransGen WindowStep f f') :
    ReceiveBooks f' removed given := by
  induction hs with
  | refl => exact h
  | tail _ hstep ih => exact ih.windowStep hg hstep

/-- Every call that returns no error keeps the books, with what it removes and reports added. -/
theorem receive (h : ReceiveBooks f removed given) (call : ReceiveCall)
    (hg : given + call.given < 2 ^ 62) (hread : call.readWithin f = true)
    (hnone : (f.receive call).2 = none) :
    ReceiveBooks (f.receive call).1 (removed ++ call.removed f) (given + call.given) := by
  cases call with
  | NewStream streamID b =>
    simpa [flowControlManager.receive, ReceiveCall.removed, ReceiveCall.given] using
      h.NewStream streamID b
  | RemoveStream streamID =>
    simpa [flowControlManager.receive, ReceiveCall.removed, ReceiveCall.given] using
      h.RemoveStream streamID
  | UpdateHighestReceived streamID byteOffset =>
    simp only [flowControlManager.receive, ReceiveCall.removed, ReceiveCall.given,
      List.append_nil] at hnone ⊢
    cases hc : f.streamFlowController.lookup streamID with
    | none => simp [(f.receive_of_lookup_none hc).1] at hnone
    | some c => exact h.frame hc byteOffset hnone
  | ResetStream streamID byteOffset =>
    simp only [flowControlManager.receive, ReceiveCall.removed, ReceiveCall.given,
      List.append_nil] at hnone ⊢
    cases hc : f.streamFlowController.lookup streamID with
    | none => simp [(f.receive_of_lookup_none hc).2.1] at hnone
    | some c =>
      -- below the highest offset the reset fails; otherwise it is a frame
      rw [f.ResetStream_of_lookup hc] at hnone ⊢
      by_cases hlt : byteOffset < c.highestReceived
      · rw [if_pos hlt] at hnone
        simp at hnone
      · rw [if_neg hlt] at hnone ⊢
        exact h.frame hc byteOffset hnone
  | AddBytesRead now streamID n =>
    simp only [flowControlManager.receive, ReceiveCall.removed, ReceiveCall.given,
      List.append_nil, Nat.add_zero] at hnone ⊢
    cases hc : f.streamFlowController.lookup streamID with
    | none => simp [(f.receive_of_lookup_none hc).2.2] at hnone
    | some c =>
      simp only [ReceiveCall.readWithin, hc, decide_eq_true_eq] at hread
      exact h.AddBytesRead hc now n hread
  | GetWindowUpdates clock force order =>
    simp only [flowControlManager.receive, ReceiveCall.removed, ReceiveCall.given,
      List.append_nil, Nat.add_zero] at hg ⊢
    exact h.windowSteps hg (GetWindowUpdates_windowSteps f clock force order)

/-- Every run without an error keeps the books, with what it removes and reports added. -/
theorem receiveAll (h : ReceiveBooks f removed given) (calls : List ReceiveCall)
    (hg : given + (calls.map ReceiveCall.given).sum < 2 ^ 62)
    (hread : f.readsWithin calls = true) (hnone : (f.receiveAll calls).2 = none) :
    ReceiveBooks (f.receiveAll calls).1 (removed ++ f.removedAlong calls)
      (given + (calls.map ReceiveCall.given).sum) := by
  -- the induction is on the calls, from the manager each one leaves
  induction calls generalizing f removed given with
  | nil => simpa [removedAlong] using h
  | cons call calls ih =>
    obtain ⟨hcall, hrun⟩ := receive_of_receiveAll_cons hnone
    simp only [readsWithin, Bool.and_eq_true] at hread
    simp only [List.map_cons, List.sum_cons] at hg ⊢
    have hstep := h.receive call (by omega) hread.1 (by rw [hcall])
    have hrest := ih hstep (by omega) hread.2 (by rwa [hrun] at hnone)
    rw [hrun]
    simpa [removedAlong, List.append_assoc, Nat.add_assoc] using hrest

end ReceiveBooks

/-! ## Windows only grow -/

/-- No window moved back: neither those of the streams still there nor the connection's. -/
def ReceiveWindowsGrow (f f' : flowControlManager) : Prop :=
  (∀ id c c', f.streamFlowController.lookup id = some c →
    f'.streamFlowController.lookup id = some c' → c.receiveWindow ≤ c'.receiveWindow) ∧
    f.connFlowController.receiveWindow ≤ f'.connFlowController.receiveWindow

namespace ReceiveWindowsGrow

variable {f f' f'' : flowControlManager}

theorem refl (f : flowControlManager) : ReceiveWindowsGrow f f :=
  ⟨fun _ c c' hc hc' => by rw [hc, Option.some.injEq] at hc'; exact hc' ▸ UInt64.le_refl _,
    UInt64.le_refl _⟩

theorem trans (h₁ : ReceiveWindowsGrow f f') (h₂ : ReceiveWindowsGrow f' f'')
    (hkeep : ∀ id c, f.streamFlowController.lookup id = some c →
      ∃ c', f'.streamFlowController.lookup id = some c') :
    ReceiveWindowsGrow f f'' := by
  refine ⟨fun id c c'' hc hc'' => ?_, UInt64.le_trans h₁.2 h₂.2⟩
  obtain ⟨c', hc'⟩ := hkeep id c hc
  exact UInt64.le_trans (h₁.1 id c c' hc hc') (h₂.1 id c' c'' hc' hc'')

/-- Writing a stream's controller and the connection's with windows no smaller. -/
theorem set {streamID : StreamID} {c c' conn : flowController}
    (hc : f.streamFlowController.lookup streamID = some c)
    (hwindow : c.receiveWindow ≤ c'.receiveWindow)
    (hconn : f.connFlowController.receiveWindow ≤ conn.receiveWindow) :
    ReceiveWindowsGrow f ((f.setFlowController streamID c').setConnFlowController conn) := by
  refine ⟨fun id c₁ c₂ h₁ h₂ => ?_, hconn⟩
  simp only [flowControlManager.setConnFlowController_streamFlowController,
    flowControlManager.lookup_setFlowController] at h₂
  split_ifs at h₂ with hid
  · subst hid
    rw [hc] at h₁
    rw [hc] at h₂
    cases h₁
    cases h₂
    exact hwindow
  · rw [h₁, Option.some.injEq] at h₂
    exact h₂ ▸ UInt64.le_refl _

theorem NewStream (streamID : StreamID) (b : Bool) :
    ReceiveWindowsGrow f (f.NewStream streamID b) := by
  refine ⟨fun id c c' hc hc' => ?_, by simp⟩
  rw [flowControlManager.lookup_NewStream, hc, Option.some_or, Option.some.injEq] at hc'
  exact hc' ▸ UInt64.le_refl _

theorem RemoveStream (streamID : StreamID) :
    ReceiveWindowsGrow f (f.RemoveStream streamID) := by
  refine ⟨fun id c c' hc hc' => ?_, UInt64.le_refl _⟩
  rw [flowControlManager.lookup_RemoveStream] at hc'
  split_ifs at hc'
  rw [hc, Option.some.injEq] at hc'
  exact hc' ▸ UInt64.le_refl _

/-- A frame moves no window, whether or not it fails. -/
theorem UpdateHighestReceived {streamID : StreamID} {c : flowController}
    (hc : f.streamFlowController.lookup streamID = some c) (byteOffset : ByteCount) :
    ReceiveWindowsGrow f (f.UpdateHighestReceived streamID byteOffset).1 := by
  have hwindow : c.receiveWindow ≤ (c.UpdateHighestReceived byteOffset).1.receiveWindow := by
    rw [c.UpdateHighestReceived_fst]
    exact UInt64.le_refl _
  rw [flowControlManager.UpdateHighestReceived_of_lookup f hc,
    flowControlManager.checkAndAccount_fst]
  split
  · exact set hc hwindow (UInt64.le_refl _)
  · exact set hc hwindow (UInt64.le_refl (f.connFlowController.receiveWindow))

end ReceiveWindowsGrow

/-- A step of collecting window updates leaves every stream there. -/
theorem WindowStep.lookup_isSome {f f' : flowControlManager} (hs : WindowStep f f')
    {id : StreamID} {c : flowController} (hc : f.streamFlowController.lookup id = some c) :
    ∃ c', f'.streamFlowController.lookup id = some c' ∧ c'.highestReceived = c.highestReceived ∧
      c'.contributesToConnection = c.contributesToConnection := by
  cases hs with
  | stream id' c₀ clock hc₀ =>
    rw [lookup_setFlowController]
    split_ifs with hid
    · subst hid
      rw [hc₀] at hc
      cases hc
      obtain ⟨window, increment, time, heq⟩ := c.MaybeUpdateWindow_eq clock
      exact ⟨_, by rw [hc₀, Option.map_some], by rw [heq], by rw [heq]⟩
    · exact ⟨c, hc, rfl, rfl⟩
  | connIncrement inc => exact ⟨c, hc, rfl, rfl⟩
  | conn clock => exact ⟨c, hc, rfl, rfl⟩

theorem windowSteps_lookup_isSome {f f' : flowControlManager}
    (hs : Relation.ReflTransGen WindowStep f f') {id : StreamID} {c : flowController}
    (hc : f.streamFlowController.lookup id = some c) :
    ∃ c', f'.streamFlowController.lookup id = some c' ∧ c'.highestReceived = c.highestReceived ∧
      c'.contributesToConnection = c.contributesToConnection := by
  induction hs with
  | refl => exact ⟨c, hc, rfl, rfl⟩
  | tail _ hstep ih =>
    obtain ⟨c₁, hc₁, hh₁, hb₁⟩ := ih
    obtain ⟨c₂, hc₂, hh₂, hb₂⟩ := hstep.lookup_isSome hc₁
    exact ⟨c₂, hc₂, hh₂.trans hh₁, hb₂.trans hb₁⟩

namespace ReceiveBooks

open flowControlManager

variable {f : flowControlManager} {removed : List flowController} {given : ℕ}

theorem windowsGrow_windowStep (h : ReceiveBooks f removed given) (hg : given < 2 ^ 62)
    {f' : flowControlManager} (hs : WindowStep f f') : ReceiveWindowsGrow f f' := by
  cases hs with
  | stream id c clock hc =>
    have hmem := f.mem_of_lookup hc
    have hcredit₀ : Credit c := h.credit _ hmem
    have hsmall : c.bytesRead.toNat < 2 ^ 62 := by
      have hread := UInt64.le_iff_toNat_le.mp hcredit₀.read_le
      have hreceived : c.highestReceived.toNat ≤ given := h.toNat_highestReceived_le hmem
      omega
    exact ReceiveWindowsGrow.set hc
      (c.receiveWindow_le_MaybeUpdateWindow clock (h.tuned _ hmem) hsmall
        (UInt64.le_trans hcredit₀.read_le hcredit₀.received_le))
      (UInt64.le_refl _)
  | connIncrement inc =>
    obtain ⟨increment, time, heq⟩ := f.connFlowController.EnsureMinimumWindowIncrement_eq inc
    refine ⟨fun id c c' hc hc' => ?_, by
      rw [setConnFlowController_connFlowController, heq]
      exact UInt64.le_refl _⟩
    rw [setConnFlowController_streamFlowController, hc, Option.some.injEq] at hc'
    exact hc' ▸ UInt64.le_refl _
  | conn clock =>
    obtain ⟨hreceived, hread, hread_le, hle⟩ := h.toNat_conn hg
    have hcredit := UInt64.le_iff_toNat_le.mp h.conn_credit
    refine ⟨fun id c c' hc hc' => ?_,
      f.connFlowController.receiveWindow_le_MaybeUpdateWindow clock h.conn_tuned (by omega)
        (by rw [UInt64.le_iff_toNat_le]; omega)⟩
    rw [setConnFlowController_streamFlowController, hc, Option.some.injEq] at hc'
    exact hc' ▸ UInt64.le_refl _

theorem windowsGrow_windowSteps (h : ReceiveBooks f removed given) (hg : given < 2 ^ 62)
    {f' : flowControlManager} (hs : Relation.ReflTransGen WindowStep f f') :
    ReceiveWindowsGrow f f' := by
  induction hs with
  | refl => exact ReceiveWindowsGrow.refl f
  | @tail f₁ f₂ hsteps hstep ih =>
    exact ih.trans ((h.windowSteps hg hsteps).windowsGrow_windowStep hg hstep)
      fun id c hc => (windowSteps_lookup_isSome hsteps hc).imp fun _ hc' => hc'.1

/-- From books that hold, no call moves a window back, whether or not it fails. -/
theorem windowsGrow_receive (h : ReceiveBooks f removed given) (hg : given < 2 ^ 62)
    (call : ReceiveCall) : ReceiveWindowsGrow f (f.receive call).1 := by
  cases call with
  | NewStream streamID b => exact ReceiveWindowsGrow.NewStream streamID b
  | RemoveStream streamID => exact ReceiveWindowsGrow.RemoveStream streamID
  | UpdateHighestReceived streamID byteOffset =>
    simp only [flowControlManager.receive]
    cases hc : f.streamFlowController.lookup streamID with
    | none =>
      rw [(f.receive_of_lookup_none hc).1]
      exact ReceiveWindowsGrow.refl f
    | some c => exact ReceiveWindowsGrow.UpdateHighestReceived hc byteOffset
  | ResetStream streamID byteOffset =>
    simp only [flowControlManager.receive]
    cases hc : f.streamFlowController.lookup streamID with
    | none =>
      rw [(f.receive_of_lookup_none hc).2.1]
      exact ReceiveWindowsGrow.refl f
    | some c =>
      rw [f.ResetStream_of_lookup hc]
      split_ifs
      · exact ReceiveWindowsGrow.refl f
      · exact ReceiveWindowsGrow.UpdateHighestReceived hc byteOffset
  | AddBytesRead now streamID n =>
    simp only [flowControlManager.receive]
    cases hc : f.streamFlowController.lookup streamID with
    | none =>
      rw [(f.receive_of_lookup_none hc).2.2]
      exact ReceiveWindowsGrow.refl f
    | some c =>
      rw [AddBytesRead_of_lookup f hc]
      dsimp only
      split
      · exact ReceiveWindowsGrow.set hc (UInt64.le_refl _) (UInt64.le_refl _)
      · exact ReceiveWindowsGrow.set hc (UInt64.le_refl _)
          (UInt64.le_refl (f.connFlowController.receiveWindow))
  | GetWindowUpdates clock force order =>
    exact h.windowsGrow_windowSteps hg (GetWindowUpdates_windowSteps f clock force order)

/-! ## When a frame is too much -/

/-- A STREAM frame on a known stream fails with `FlowControlReceivedTooMuchData` exactly when its
offset takes the stream past its window, or, for a contributing stream, the connection's new total
past the connection's window; in numbers, since nothing wraps below `2 ^ 62`. -/
theorem UpdateHighestReceived_tooMuchData_iff (h : ReceiveBooks f removed given)
    {streamID : StreamID} {c : flowController}
    (hc : f.streamFlowController.lookup streamID = some c) (byteOffset : ByteCount)
    (hg : given + byteOffset.toNat < 2 ^ 62) :
    (∃ msg, (f.UpdateHighestReceived streamID byteOffset).2 =
        some (.FlowControlReceivedTooMuchData msg)) ↔
      c.receiveWindow.toNat < max c.highestReceived.toNat byteOffset.toNat ∨
        c.contributesToConnection = true ∧
          f.connFlowController.receiveWindow.toNat < f.connFlowController.highestReceived.toNat +
            (max c.highestReceived.toNat byteOffset.toNat - c.highestReceived.toNat) := by
  rw [UpdateHighestReceived_of_lookup f hc]
  have hraised := c.UpdateHighestReceived_fst byteOffset
  have hmax := c.toNat_highestReceived_UpdateHighestReceived byteOffset
  -- the stream's check, in numbers
  have hstream : (c.UpdateHighestReceived byteOffset).1.CheckFlowControlViolation = false ↔
      max c.highestReceived.toNat byteOffset.toNat ≤ c.receiveWindow.toNat := by
    rw [flowController.CheckFlowControlViolation_eq_false, UInt64.le_iff_toNat_le, hmax, hraised]
  -- the connection's check, in numbers: the new total does not wrap
  have hconn : (f.connFlowController.IncrementHighestReceived
        (c.UpdateHighestReceived byteOffset).2.1).CheckFlowControlViolation = false ↔
      f.connFlowController.highestReceived.toNat +
          (max c.highestReceived.toNat byteOffset.toNat - c.highestReceived.toNat) ≤
        f.connFlowController.receiveWindow.toNat := by
    obtain ⟨hreceived, -, -, hle⟩ := h.toNat_conn (by omega)
    have hle_raised : c.highestReceived ≤ (c.UpdateHighestReceived byteOffset).1.highestReceived := by
      rw [UInt64.le_iff_toNat_le, hmax]
      omega
    have hinc : (c.UpdateHighestReceived byteOffset).2.1.toNat =
        max c.highestReceived.toNat byteOffset.toNat - c.highestReceived.toNat := by
      rw [c.UpdateHighestReceived_increment, UInt64.toNat_sub_of_le _ _ hle_raised, hmax]
    rw [flowController.CheckFlowControlViolation_eq_false, UInt64.le_iff_toNat_le]
    simp only [flowController.IncrementHighestReceived]
    rw [UInt64.toNat_add, hinc, Nat.mod_eq_of_lt (by omega)]
  have hcontrib : (c.UpdateHighestReceived byteOffset).1.contributesToConnection =
      c.contributesToConnection := by
    rw [hraised]
  have hnone := f.checkAndAccount_snd_eq_none streamID byteOffset
    (c.UpdateHighestReceived byteOffset).1 (c.UpdateHighestReceived byteOffset).2.1
  rw [hstream, hconn, hcontrib] at hnone
  constructor
  · rintro ⟨msg, hmsg⟩
    -- one of the two checks failed
    rw [hmsg] at hnone
    by_contra hok
    push Not at hok
    exact absurd (hnone.mpr ⟨hok.1, fun hb => hok.2 hb⟩) (by simp)
  · intro hcond
    cases herr : (f.checkAndAccount streamID byteOffset (c.UpdateHighestReceived byteOffset).1
        (c.UpdateHighestReceived byteOffset).2.1).2 with
    | none =>
      obtain ⟨hok, hok_conn⟩ := hnone.mp herr
      rcases hcond with hcond | ⟨hb, hcond⟩
      · omega
      · have := hok_conn hb
        omega
    | some err =>
      obtain ⟨msg, rfl⟩ := f.checkAndAccount_snd_eq_some herr
      exact ⟨msg, rfl⟩

end ReceiveBooks

/-! ## The highest offset each stream was given -/

open flowControlManager

/-- A frame on a known stream raises that stream's highest offset to the frame's, if higher, and
leaves every other stream's. -/
theorem UpdateHighestReceived_lookup {f : flowControlManager} {streamID : StreamID}
    {c₀ : flowController} (hc₀ : f.streamFlowController.lookup streamID = some c₀)
    (byteOffset : ByteCount) {id : StreamID} {c : flowController}
    (hc : f.streamFlowController.lookup id = some c) :
    ∃ c', (f.UpdateHighestReceived streamID byteOffset).1.streamFlowController.lookup id = some c' ∧
      c'.contributesToConnection = c.contributesToConnection ∧
      c'.highestReceived.toNat =
        (((ReceiveCall.UpdateHighestReceived streamID byteOffset).offsetsTo id).map
          UInt64.toNat).foldl max c.highestReceived.toNat := by
  rw [UpdateHighestReceived_of_lookup f hc₀, checkAndAccount_streamFlowController,
    lookup_setFlowController]
  by_cases hid : id = streamID
  · subst hid
    rw [hc₀] at hc
    cases hc
    refine ⟨_, by rw [if_pos rfl, hc₀, Option.map_some], by rw [c₀.UpdateHighestReceived_fst], ?_⟩
    simp [ReceiveCall.offsetsTo, c₀.toNat_highestReceived_UpdateHighestReceived]
  · refine ⟨c, by rw [if_neg hid, hc], rfl, ?_⟩
    simp [ReceiveCall.offsetsTo, Ne.symm hid]

/-- A call without an error keeps every stream it does not remove, with its contribution, and
raises its highest offset to the highest one the call gives it. -/
theorem receive_highestReceived {f : flowControlManager} {call : ReceiveCall}
    (hnone : (f.receive call).2 = none) {id : StreamID} {c : flowController}
    (hc : f.streamFlowController.lookup id = some c) (hcall : call ≠ .RemoveStream id) :
    ∃ c', (f.receive call).1.streamFlowController.lookup id = some c' ∧
      c'.contributesToConnection = c.contributesToConnection ∧
      c'.highestReceived.toNat =
        ((call.offsetsTo id).map UInt64.toNat).foldl max c.highestReceived.toNat := by
  cases call with
  | NewStream streamID b =>
    refine ⟨c, ?_, rfl, rfl⟩
    rw [receive, lookup_NewStream, hc, Option.some_or]
  | RemoveStream streamID =>
    have hid : id ≠ streamID := fun heq => hcall (heq ▸ rfl)
    exact ⟨c, by rw [receive, lookup_RemoveStream, if_neg hid, hc], rfl, rfl⟩
  | UpdateHighestReceived streamID byteOffset =>
    simp only [receive] at hnone ⊢
    cases hc₀ : f.streamFlowController.lookup streamID with
    | none => simp [(f.receive_of_lookup_none hc₀).1] at hnone
    | some c₀ => exact UpdateHighestReceived_lookup hc₀ byteOffset hc
  | ResetStream streamID byteOffset =>
    simp only [receive] at hnone ⊢
    cases hc₀ : f.streamFlowController.lookup streamID with
    | none => simp [(f.receive_of_lookup_none hc₀).2.1] at hnone
    | some c₀ =>
      rw [f.ResetStream_of_lookup hc₀] at hnone ⊢
      by_cases hlt : byteOffset < c₀.highestReceived
      · rw [if_pos hlt] at hnone
        simp at hnone
      · rw [if_neg hlt]
        exact UpdateHighestReceived_lookup hc₀ byteOffset hc
  | AddBytesRead now streamID n =>
    simp only [receive] at hnone ⊢
    cases hc₀ : f.streamFlowController.lookup streamID with
    | none => simp [(f.receive_of_lookup_none hc₀).2.2] at hnone
    | some c₀ =>
      -- a read moves no offset received
      rw [AddBytesRead_of_lookup f hc₀]
      dsimp only
      split
      all_goals
        try rw [setConnFlowController_streamFlowController]
        rw [lookup_setFlowController]
        by_cases hid : id = streamID
        · subst hid
          rw [hc₀] at hc
          cases hc
          exact ⟨c.AddBytesRead now n, by rw [if_pos rfl, hc₀, Option.map_some], rfl, rfl⟩
        · exact ⟨c, by rw [if_neg hid, hc], rfl, rfl⟩
  | GetWindowUpdates clock force order =>
    obtain ⟨c', hc', hh, hb⟩ :=
      windowSteps_lookup_isSome (GetWindowUpdates_windowSteps f clock force order) hc
    exact ⟨c', hc', hb, by simp [ReceiveCall.offsetsTo, hh]⟩

/-- **Each stream's highest offset is the highest it was given.**  Along a run without an error
that does not remove it, a stream keeps its controller and its contribution, and its highest
offset becomes the highest of the offsets the run gives it and the one it had. -/
theorem receiveAll_highestReceived {f : flowControlManager} {calls : List ReceiveCall}
    (hnone : (f.receiveAll calls).2 = none) {id : StreamID} {c : flowController}
    (hc : f.streamFlowController.lookup id = some c)
    (hremove : ∀ call ∈ calls, call ≠ .RemoveStream id) :
    ∃ c', (f.receiveAll calls).1.streamFlowController.lookup id = some c' ∧
      c'.contributesToConnection = c.contributesToConnection ∧
      c'.highestReceived.toNat =
        ((calls.flatMap (·.offsetsTo id)).map UInt64.toNat).foldl max c.highestReceived.toNat := by
  induction calls generalizing f c with
  | nil => exact ⟨c, hc, rfl, rfl⟩
  | cons call calls ih =>
    obtain ⟨hcall, hrun⟩ := receive_of_receiveAll_cons hnone
    obtain ⟨c₁, hc₁, hb₁, hh₁⟩ :=
      receive_highestReceived (by rw [hcall]) hc (hremove call List.mem_cons_self)
    obtain ⟨c₂, hc₂, hb₂, hh₂⟩ := ih (by rwa [hrun] at hnone) hc₁
      fun call' hcall' => hremove call' (List.mem_cons_of_mem _ hcall')
    refine ⟨c₂, by rw [hrun]; exact hc₂, hb₂.trans hb₁, ?_⟩
    rw [hh₂, hh₁, List.flatMap_cons, List.map_append, List.foldl_append]

/-! ## Frames in any order -/

/-- A frame without an error keeps the streams, and what the connection has received beyond what
its streams contribute. -/
theorem UpdateHighestReceived_frame {f : flowControlManager}
    (hnodup : (f.streamFlowController.map Prod.fst).Nodup) {streamID : StreamID}
    {c : flowController} (hc : f.streamFlowController.lookup streamID = some c)
    (byteOffset : ByteCount) (hnone : (f.UpdateHighestReceived streamID byteOffset).2 = none) :
    (f.UpdateHighestReceived streamID byteOffset).1.streamFlowController.map Prod.fst =
        f.streamFlowController.map Prod.fst ∧
      (f.UpdateHighestReceived streamID byteOffset).1.connFlowController.highestReceived -
          (f.UpdateHighestReceived streamID byteOffset).1.total receivedBytes [] =
        f.connFlowController.highestReceived - f.total receivedBytes [] := by
  rw [UpdateHighestReceived_of_lookup f hc] at hnone ⊢
  obtain ⟨hstream, -⟩ := (f.checkAndAccount_snd_eq_none _ _ _ _).mp hnone
  refine ⟨by rw [checkAndAccount_streamFlowController, keys_setFlowController], ?_⟩
  have hsum := f.total_setFlowController receivedBytes hnodup hc
    (c.UpdateHighestReceived byteOffset).1 []
  have hcontrib : (c.UpdateHighestReceived byteOffset).1.contributesToConnection =
      c.contributesToConnection := by
    rw [c.UpdateHighestReceived_fst]
  rw [checkAndAccount_fst]
  by_cases hb : c.contributesToConnection = true
  · -- the connection gains what the stream's contribution gains
    rw [if_pos ⟨hstream, hcontrib ▸ hb⟩]
    simp only [total_setConnFlowController, setConnFlowController_connFlowController,
      flowController.IncrementHighestReceived]
    rw [eq_sub_of_add_eq hsum]
    simp only [receivedBytes, hb, hcontrib, if_true, c.UpdateHighestReceived_increment]
    abel
  · rw [if_neg (by simp [hcontrib, hb])]
    simp only [receivedBytes, hb, hcontrib, Bool.false_eq_true, if_false, add_zero] at hsum
    rw [setFlowController_connFlowController, hsum]

/-- Frames without an error keep the streams, and what the connection has received beyond what
its streams contribute. -/
theorem receiveAll_frames {f : flowControlManager}
    (hnodup : (f.streamFlowController.map Prod.fst).Nodup) {calls : List ReceiveCall}
    (hframes : ∀ call ∈ calls, call.isFrame = true) (hnone : (f.receiveAll calls).2 = none) :
    (f.receiveAll calls).1.streamFlowController.map Prod.fst =
        f.streamFlowController.map Prod.fst ∧
      (f.receiveAll calls).1.connFlowController.highestReceived -
          (f.receiveAll calls).1.total receivedBytes [] =
        f.connFlowController.highestReceived - f.total receivedBytes [] := by
  induction calls generalizing f with
  | nil => exact ⟨rfl, rfl⟩
  | cons call calls ih =>
    obtain ⟨hcall, hrun⟩ := receive_of_receiveAll_cons hnone
    -- one frame, by the frame lemma; a frame on an unknown stream fails
    have hone : (f.receive call).1.streamFlowController.map Prod.fst =
          f.streamFlowController.map Prod.fst ∧
        (f.receive call).1.connFlowController.highestReceived -
            (f.receive call).1.total receivedBytes [] =
          f.connFlowController.highestReceived - f.total receivedBytes [] := by
      have hframe := hframes call List.mem_cons_self
      have hnone₁ : (f.receive call).2 = none := by rw [hcall]
      cases call with
      | UpdateHighestReceived streamID byteOffset =>
        simp only [receive] at hnone₁ ⊢
        cases hc : f.streamFlowController.lookup streamID with
        | none => simp [(f.receive_of_lookup_none hc).1] at hnone₁
        | some c => exact UpdateHighestReceived_frame hnodup hc byteOffset hnone₁
      | ResetStream streamID byteOffset =>
        simp only [receive] at hnone₁ ⊢
        cases hc : f.streamFlowController.lookup streamID with
        | none => simp [(f.receive_of_lookup_none hc).2.1] at hnone₁
        | some c =>
          rw [f.ResetStream_of_lookup hc] at hnone₁ ⊢
          by_cases hlt : byteOffset < c.highestReceived
          · rw [if_pos hlt] at hnone₁
            simp at hnone₁
          · rw [if_neg hlt] at hnone₁ ⊢
            exact UpdateHighestReceived_frame hnodup hc byteOffset hnone₁
      | _ => simp [ReceiveCall.isFrame] at hframe
    obtain ⟨hkeys, hconn⟩ := hone
    obtain ⟨hkeys', hconn'⟩ := ih (hkeys ▸ hnodup)
      (fun call' hcall' => hframes call' (List.mem_cons_of_mem _ hcall')) (by rwa [hrun] at hnone)
    rw [hrun]
    exact ⟨hkeys'.trans hkeys, hconn'.trans hconn⟩

/-- **Frames may arrive in any order.**  Two runs of the same STREAM and RST_STREAM frames, in
two orders, that both end without an error leave every stream, and the connection, with the same
count of bytes received. -/
theorem receiveAll_perm {f : flowControlManager}
    (hnodup : (f.streamFlowController.map Prod.fst).Nodup) {calls calls' : List ReceiveCall}
    (hperm : calls.Perm calls') (hframes : ∀ call ∈ calls, call.isFrame = true)
    (hnone : (f.receiveAll calls).2 = none) (hnone' : (f.receiveAll calls').2 = none) :
    (∀ id, ((f.receiveAll calls).1.streamFlowController.lookup id).map (·.highestReceived) =
        ((f.receiveAll calls').1.streamFlowController.lookup id).map (·.highestReceived)) ∧
      (f.receiveAll calls).1.connFlowController.highestReceived =
        (f.receiveAll calls').1.connFlowController.highestReceived := by
  have hframes' : ∀ call ∈ calls', call.isFrame = true :=
    fun call hcall => hframes call (hperm.mem_iff.mpr hcall)
  have hremove : ∀ calls : List ReceiveCall, (∀ call ∈ calls, call.isFrame = true) →
      ∀ id, ∀ call ∈ calls, call ≠ .RemoveStream id := by
    intro calls hframes id call hcall heq
    simpa [heq, ReceiveCall.isFrame] using hframes call hcall
  obtain ⟨hkeys, hconn⟩ := receiveAll_frames hnodup hframes hnone
  obtain ⟨hkeys', hconn'⟩ := receiveAll_frames hnodup hframes' hnone'
  -- every stream ends with the highest of its offsets, whatever their order
  have hstreams : ∀ id,
      ((f.receiveAll calls).1.streamFlowController.lookup id).map
          (fun c => (c.highestReceived, c.contributesToConnection)) =
        ((f.receiveAll calls').1.streamFlowController.lookup id).map
          (fun c => (c.highestReceived, c.contributesToConnection)) := by
    intro id
    cases hc : f.streamFlowController.lookup id with
    | none =>
      have hnot := List.lookup_eq_none_iff_not_mem_keys.mp hc
      rw [List.lookup_eq_none_iff_not_mem_keys.mpr (hkeys ▸ hnot),
        List.lookup_eq_none_iff_not_mem_keys.mpr (hkeys' ▸ hnot)]
    | some c =>
      obtain ⟨c₁, hc₁, hb₁, hh₁⟩ :=
        receiveAll_highestReceived hnone hc (hremove calls hframes id)
      obtain ⟨c₂, hc₂, hb₂, hh₂⟩ :=
        receiveAll_highestReceived hnone' hc (hremove calls' hframes' id)
      have hperm_offsets :
          ((calls.flatMap (·.offsetsTo id)).map UInt64.toNat).foldl max c.highestReceived.toNat =
            ((calls'.flatMap (·.offsetsTo id)).map UInt64.toNat).foldl max
              c.highestReceived.toNat :=
        ((hperm.flatMap_right (·.offsetsTo id)).map UInt64.toNat).foldl_eq _
      rw [hc₁, hc₂, Option.map_some, Option.map_some, Option.some.injEq, Prod.mk.injEq,
        hb₁, hb₂]
      exact ⟨UInt64.toNat_inj.mp (by rw [hh₁, hh₂, hperm_offsets]), rfl⟩
  refine ⟨fun id => ?_, ?_⟩
  · have := congrArg (Option.map Prod.fst) (hstreams id)
    rw [Option.map_map, Option.map_map] at this
    exact this
  · -- the connection has received what its streams contribute, plus the same constant
    have htotal : (f.receiveAll calls).1.total receivedBytes [] =
        (f.receiveAll calls').1.total receivedBytes [] := by
      simp only [total, List.map_nil, List.sum_nil, add_zero]
      refine List.sum_map_eq_of_lookup receivedBytes (hkeys.trans hkeys'.symm) (hkeys ▸ hnodup)
        fun id => ?_
      have := congrArg (Option.map fun p : ByteCount × Bool => if p.2 = true then p.1 else 0)
        (hstreams id)
      rw [Option.map_map, Option.map_map] at this
      exact this
    have := hconn.trans hconn'.symm
    rw [htotal] at this
    exact sub_left_injective this

/-! ## Increments stay within bounds -/

/-- An increment within the larger of the one its controller started with and its maximum. -/
def IncrementBounded (cp : ConnectionParametersManager) (c : flowController) : Prop :=
  c.receiveWindowIncrement.toNat ≤
    max (newFlowController c.streamID false cp).receiveWindowIncrement.toNat
      c.maxReceiveWindowIncrement.toNat

/-- Every controller of the manager keeps its increment within bounds. -/
def IncrementsBounded (f : flowControlManager) : Prop :=
  (∀ e ∈ f.streamFlowController, IncrementBounded f.connectionParameters e.2) ∧
    IncrementBounded f.connectionParameters f.connFlowController

namespace IncrementBounded

variable {cp : ConnectionParametersManager} {c : flowController}

theorem MaybeUpdateWindow (h : IncrementBounded cp c) (clock : Clock) :
    IncrementBounded cp (c.MaybeUpdateWindow clock).1 := by
  rcases c.MaybeUpdateWindow_cases clock with heq | ⟨-, increment, hinc, heq⟩ <;> rw [heq]
  · exact h
  · rcases hinc with rfl | rfl
    · exact h
    · -- a doubled increment is cut at the maximum
      simp only [IncrementBounded, UInt64.toNat_min]
      omega

theorem EnsureMinimumWindowIncrement (h : IncrementBounded cp c) (inc : ByteCount) :
    IncrementBounded cp (c.EnsureMinimumWindowIncrement inc) := by
  rcases c.EnsureMinimumWindowIncrement_cases inc with heq | ⟨-, heq⟩ <;> rw [heq]
  · exact h
  · simp only [IncrementBounded, UInt64.toNat_min]
    omega

end IncrementBounded

namespace IncrementsBounded

variable {f : flowControlManager}

theorem new (cp : ConnectionParametersManager) : IncrementsBounded (NewFlowControlManager cp) :=
  ⟨by simp [NewFlowControlManager], le_max_left _ _⟩

theorem set (h : IncrementsBounded f) {streamID : StreamID} {c' conn : flowController}
    (hc' : IncrementBounded f.connectionParameters c')
    (hconn : IncrementBounded f.connectionParameters conn) :
    IncrementsBounded ((f.setFlowController streamID c').setConnFlowController conn) := by
  refine ⟨fun e he => ?_, hconn⟩
  rcases f.mem_setFlowController he with heq | he'
  · exact heq ▸ hc'
  · exact h.1 e he'

theorem setConn (h : IncrementsBounded f) {conn : flowController}
    (hconn : IncrementBounded f.connectionParameters conn) :
    IncrementsBounded (f.setConnFlowController conn) :=
  ⟨h.1, hconn⟩

theorem windowStep (h : IncrementsBounded f) {f' : flowControlManager} (hs : WindowStep f f') :
    IncrementsBounded f' := by
  cases hs with
  | stream id c clock hc => exact h.set ((h.1 _ (f.mem_of_lookup hc)).MaybeUpdateWindow clock) h.2
  | connIncrement inc => exact h.setConn (h.2.EnsureMinimumWindowIncrement inc)
  | conn clock => exact h.setConn (h.2.MaybeUpdateWindow clock)

theorem UpdateHighestReceived (h : IncrementsBounded f) {streamID : StreamID}
    {c : flowController} (hc : f.streamFlowController.lookup streamID = some c)
    (byteOffset : ByteCount) :
    IncrementsBounded (f.UpdateHighestReceived streamID byteOffset).1 := by
  -- a frame moves no increment
  have hraised : IncrementBounded f.connectionParameters (c.UpdateHighestReceived byteOffset).1 := by
    rw [c.UpdateHighestReceived_fst]
    exact h.1 _ (f.mem_of_lookup hc)
  rw [UpdateHighestReceived_of_lookup f hc, checkAndAccount_fst]
  split
  · exact h.set hraised h.2
  · exact h.set hraised h.2

theorem windowSteps (h : IncrementsBounded f) {f' : flowControlManager}
    (hs : Relation.ReflTransGen WindowStep f f') : IncrementsBounded f' := by
  induction hs with
  | refl => exact h
  | tail _ hstep ih => exact ih.windowStep hstep

/-- Every call keeps the increments within bounds, whatever it returns. -/
theorem receive (h : IncrementsBounded f) (call : ReceiveCall) :
    IncrementsBounded (f.receive call).1 := by
  cases call with
  | NewStream streamID b =>
    simp only [flowControlManager.receive]
    refine ⟨fun e he => ?_, by simpa using h.2⟩
    rw [NewStream_connectionParameters]
    rcases f.mem_NewStream he with he' | rfl
    · exact h.1 e he'
    · -- a new controller starts from its own increment
      exact le_max_left _ _
  | RemoveStream streamID => exact ⟨fun e he => h.1 e (f.mem_RemoveStream he), h.2⟩
  | UpdateHighestReceived streamID byteOffset =>
    simp only [flowControlManager.receive]
    cases hc : f.streamFlowController.lookup streamID with
    | none => rw [(f.receive_of_lookup_none hc).1]; exact h
    | some c => exact h.UpdateHighestReceived hc byteOffset
  | ResetStream streamID byteOffset =>
    simp only [flowControlManager.receive]
    cases hc : f.streamFlowController.lookup streamID with
    | none => rw [(f.receive_of_lookup_none hc).2.1]; exact h
    | some c =>
      rw [f.ResetStream_of_lookup hc]
      split_ifs
      · exact h
      · exact h.UpdateHighestReceived hc byteOffset
  | AddBytesRead now streamID n =>
    simp only [flowControlManager.receive]
    cases hc : f.streamFlowController.lookup streamID with
    | none => rw [(f.receive_of_lookup_none hc).2.2]; exact h
    | some c =>
      have hread : IncrementBounded f.connectionParameters (c.AddBytesRead now n) :=
        h.1 _ (f.mem_of_lookup hc)
      rw [AddBytesRead_of_lookup f hc]
      dsimp only
      split
      · exact h.set hread h.2
      · exact h.set hread h.2
  | GetWindowUpdates clock force order =>
    exact h.windowSteps (GetWindowUpdates_windowSteps f clock force order)

/-- **Increments stay within bounds**, along every run from a new manager, with any parameters:
every increment is within the larger of the one it started with and its maximum. -/
theorem receiveAll (cp : ConnectionParametersManager) (calls : List ReceiveCall) :
    IncrementsBounded ((NewFlowControlManager cp).receiveAll calls).1 :=
  receiveAll_of_receive (fun _ call h => h.receive call) (new cp) calls

end IncrementsBounded

/-! ## Runs from a new manager -/

/-- **Receive-side flow control.**  Take parameters whose windows start within their maxima, of at
most `2 ^ 62`, and a run from a new manager that ends without an error, whose offsets add up to
less than `2 ^ 62` and in which no read goes past what its stream received.  Then the connection
has received, in numbers, what its contributing streams have, those removed included; every
stream and the connection are within their windows; every increment is within its maximum; and
no call moved a window back. -/
theorem receiveWindows_hold (cp : ConnectionParametersManager) (hcp : TunedParameters cp)
    (calls : List ReceiveCall) (hg : (calls.map ReceiveCall.given).sum < 2 ^ 62)
    (hread : (NewFlowControlManager cp).readsWithin calls = true)
    (hnone : ((NewFlowControlManager cp).receiveAll calls).2 = none) :
    ((NewFlowControlManager cp).receiveAll calls).1.connFlowController.highestReceived.toNat =
        ((NewFlowControlManager cp).receiveAll calls).1.total (fun c => (receivedBytes c).toNat)
          ((NewFlowControlManager cp).removedAlong calls) ∧
      (∀ e ∈ ((NewFlowControlManager cp).receiveAll calls).1.streamFlowController,
        e.2.highestReceived ≤ e.2.receiveWindow ∧
          e.2.receiveWindowIncrement ≤ e.2.maxReceiveWindowIncrement) ∧
      ((NewFlowControlManager cp).receiveAll calls).1.connFlowController.highestReceived ≤
        ((NewFlowControlManager cp).receiveAll calls).1.connFlowController.receiveWindow ∧
      ∀ pre call post, calls = pre ++ call :: post →
        ReceiveWindowsGrow ((NewFlowControlManager cp).receiveAll pre).1
          (((NewFlowControlManager cp).receiveAll pre).1.receive call).1 := by
  have hbooks := (receiveBooks_new hcp).receiveAll calls (by simpa using hg) hread hnone
  rw [List.nil_append, Nat.zero_add] at hbooks
  refine ⟨(hbooks.toNat_conn hg).1, fun e he => ⟨(hbooks.credit e he).received_le,
    (hbooks.tuned e he).increment_le⟩, hbooks.conn_credit, ?_⟩
  -- the books after the calls before, and the call next
  rintro pre call post rfl
  have hpre : ((pre.map ReceiveCall.given).sum) < 2 ^ 62 := by
    simp only [List.map_append, List.map_cons, List.sum_append, List.sum_cons] at hg
    omega
  have hbooks_pre := (receiveBooks_new hcp).receiveAll pre (by simpa using hpre)
    (readsWithin_of_append hread) (receiveAll_append_of_none hnone)
  rw [Nat.zero_add] at hbooks_pre
  exact hbooks_pre.windowsGrow_receive hpre call

/-- The manager of a session whose largest stream window, 10000 bytes, is below the 32768 bytes a
stream's window starts from. -/
def smallMaximumWindow : flowControlManager :=
  NewFlowControlManager (NewConnectionParamatersManager 10000 1572864)

/-- Without `TunedParameters` a window moves back: stream 5 has read 20768 of the 32768 bytes its
window allows, and the next update, soon after its first read, cuts the increment to the maximum
of 10000 and sets the window to 30768, as it tells the peer.  The peer's next frame, within the
window it had, is then an error. -/
theorem receiveAll_window_shrinks :
    ((smallMaximumWindow.receiveAll [.NewStream 5 true, .UpdateHighestReceived 5 20768,
        .AddBytesRead 0 5 20768]).1.streamFlowController.lookup 5).map (·.receiveWindow) =
      some 32768 ∧
    ((smallMaximumWindow.receiveAll [.NewStream 5 true, .UpdateHighestReceived 5 20768,
        .AddBytesRead 0 5 20768]).1.GetWindowUpdates ⟨1, 100, []⟩ false [5]).2 =
      [⟨5, 30768⟩] ∧
    ((smallMaximumWindow.receiveAll [.NewStream 5 true, .UpdateHighestReceived 5 20768,
        .AddBytesRead 0 5 20768, .GetWindowUpdates ⟨1, 100, []⟩ false [5]]).1.streamFlowController.lookup
        5).map (·.receiveWindow) =
      some 30768 ∧
    (smallMaximumWindow.receiveAll [.NewStream 5 true, .UpdateHighestReceived 5 20768,
        .AddBytesRead 0 5 20768, .GetWindowUpdates ⟨1, 100, []⟩ false [5],
        .UpdateHighestReceived 5 32768]).2 =
      some (.FlowControlReceivedTooMuchData
        "Received 32768 bytes on stream 5, allowed 30768 bytes") := by
  decide

end PStream.Flowcontrol
