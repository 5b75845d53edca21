import PStream.Packer.Basic

/-!
# The packer over a run of calls

The session calls the packer again and again: it queues control frames, and asks for packets of
every kind, on one path or another.  `run` follows a sequence of such calls, each with the clock
and the random draw of its moment, and collects the packets sent, with their path; the session
closes the connection on an error, so a run ends there.

Two things hold the run together.

* `QueueInv`: the queue holds no STOP_WAITING and no ACK frame, since `QueueControlFrame` puts those
  into the path's slots; a run keeps it as long as the frames handed over for a handshake
  retransmission are the retransmittable ones, which the sent packet handler strips them to.
* Each call that packs on a path, `Packs`: the packet it sends takes the path's STOP_WAITING and ACK
  frames out of their slots and no other, and carries that STOP_WAITING frame stamped with its
  own number.

`run_accounts` puts them together over a whole run: every STOP_WAITING frame sent carries the
number of its packet, which the receiver needs to read its delta; a path sends no more ACK and no
more STOP_WAITING frames than were queued for it, so none goes out twice; and no packet exceeds
`MaxPacketSize`.
-/

set_option autoImplicit false

namespace PStream

open Wire Protocol ExceptOption

def Frame.isAck : Frame → Bool
  | .ack _ => true
  | _ => false

def Frame.isStopWaiting : Frame → Bool
  | .stopWaiting _ => true
  | _ => false

@[simp] theorem Frame.isAck_ack (f : AckFrame) : (Frame.ack f).isAck = true := rfl

@[simp] theorem Frame.isAck_stopWaiting (f : StopWaitingFrame) :
    (Frame.stopWaiting f).isAck = false := rfl

@[simp] theorem Frame.isStopWaiting_stopWaiting (f : StopWaitingFrame) :
    (Frame.stopWaiting f).isStopWaiting = true := rfl

@[simp] theorem Frame.isStopWaiting_ack (f : AckFrame) : (Frame.ack f).isStopWaiting = false := rfl

theorem Frame.isAck_eq_false {f : Frame} (h : f.IsFrameRetransmittable) : f.isAck = false := by
  cases f with
  | ack => simp [Frame.IsFrameRetransmittable] at h
  | _ => rfl

theorem Frame.isStopWaiting_eq_false {f : Frame} (h : f.IsFrameRetransmittable) :
    f.isStopWaiting = false := by
  cases f with
  | stopWaiting => simp [Frame.IsFrameRetransmittable] at h
  | _ => rfl

theorem countP_isAck_eq_zero {fs : List Frame} (h : ∀ f ∈ fs, f.IsFrameRetransmittable) :
    fs.countP Frame.isAck = 0 :=
  List.countP_eq_zero.2 fun f hf => by simp [Frame.isAck_eq_false (h f hf)]

theorem countP_isStopWaiting_eq_zero {fs : List Frame} (h : ∀ f ∈ fs, f.IsFrameRetransmittable) :
    fs.countP Frame.isStopWaiting = 0 :=
  List.countP_eq_zero.2 fun f hf => by simp [Frame.isStopWaiting_eq_false (h f hf)]

/-- Every STOP_WAITING frame of the packet carries the packet's number. -/
def packedPacket.Stamped (pk : packedPacket) : Prop :=
  ∀ f, Frame.stopWaiting f ∈ pk.frames → f.PacketNumber = pk.number

theorem packedPacket.stamped_of_retransmittable {pk : packedPacket}
    (h : ∀ f ∈ pk.frames, f.IsFrameRetransmittable) : pk.Stamped := by
  intro f hf
  simpa [Frame.IsFrameRetransmittable] using h _ hf

namespace packetPacker

/-! ## The queue and the slots -/

/-- The queue holds no STOP_WAITING and no ACK frame. -/
def QueueInv (p : packetPacker) : Prop := ∀ f ∈ p.controlFrames, f.IsFrameRetransmittable

theorem queueInv_newPacketPacker (connectionID : ConnectionID) (cryptoSetup : PStream.cryptoSetup)
    (connectionParameters : Handshake.connectionParametersManager)
    (streamFramer : PStream.streamFramer)
    (perspective : Perspective) (version : VersionNumber) :
    QueueInv (newPacketPacker connectionID cryptoSetup connectionParameters streamFramer
      perspective version) := by
  simp [QueueInv, newPacketPacker]

@[simp] theorem countP_slotsOf_isAck (p : packetPacker) (id : PathID) :
    (p.slotsOf id).countP Frame.isAck = (p.ackFrame id).isSome.toNat := by
  rcases hs : p.stopWaiting id with _ | f <;> rcases ha : p.ackFrame id with _ | a <;>
    simp [slotsOf, hs, ha, List.countP_cons]

@[simp] theorem countP_slotsOf_isStopWaiting (p : packetPacker) (id : PathID) :
    (p.slotsOf id).countP Frame.isStopWaiting = (p.stopWaiting id).isSome.toNat := by
  rcases hs : p.stopWaiting id with _ | f <;> rcases ha : p.ackFrame id with _ | a <;>
    simp [slotsOf, hs, ha, List.countP_cons]

/-- What one call that packs on the path `pathID` does: the queue keeps its invariant, the packet
sent is stamped and fits, each STOP_WAITING and ACK frame it sends leaves the path's slot, and the
other paths' slots stay as they were. -/
structure Packs (pathID : PathID) (p : packetPacker) (pk : Option packedPacket)
    (p' : packetPacker) : Prop where
  queue : QueueInv p'
  stamped : ∀ q ∈ pk, q.Stamped
  fits : ∀ q ∈ pk, q.raw.length ≤ MaxPacketSize.toNat
  acks : (pk.map fun q => q.frames.countP Frame.isAck).getD 0 + (p'.ackFrame pathID).isSome.toNat ≤
    (p.ackFrame pathID).isSome.toNat
  stopWaitings : (pk.map fun q => q.frames.countP Frame.isStopWaiting).getD 0 +
      (p'.stopWaiting pathID).isSome.toNat ≤ (p.stopWaiting pathID).isSome.toNat
  ackFrame_ne : ∀ id, id ≠ pathID → p'.ackFrame id = p.ackFrame id
  stopWaiting_ne : ∀ id, id ≠ pathID → p'.stopWaiting id = p.stopWaiting id

/-- `Packs` reads of the packer before the call only its slots. -/
theorem Packs.of_slots {pathID : PathID} {p p₀ p' : packetPacker} {pk : Option packedPacket}
    (h : Packs pathID p₀ pk p') (hack : p₀.ackFrame = p.ackFrame)
    (hsw : p₀.stopWaiting = p.stopWaiting) : Packs pathID p pk p' where
  queue := h.queue
  stamped := h.stamped
  fits := h.fits
  acks := hack ▸ h.acks
  stopWaitings := hsw ▸ h.stopWaitings
  ackFrame_ne id hid := hack ▸ h.ackFrame_ne id hid
  stopWaiting_ne id hid := hsw ▸ h.stopWaiting_ne id hid

/-! ## Each call that packs -/

section Calls

variable {ParseIP : String → Option IP} {now : Int} {rand : Option UInt16}
  {pop : PStream.streamFramer → ByteCount → PStream.streamFramer × List StreamFrame}
  {p p' : packetPacker} {pth pth' : path}

/-- The payload `PackPacket…` takes is the path's slots or nothing, then retransmittable frames;
it leaves the slots and the invariant of the queue. -/
theorem nextPayload_frames {maxSize : ByteCount} {canSendStreamFrames : Bool}
    {payloadFrames : List Frame} {p₁ : packetPacker} (hq : QueueInv p)
    (h : p.nextPayload pop maxSize canSendStreamFrames pth = .ok (payloadFrames, p₁)) :
    QueueInv p₁ ∧ p₁.stopWaiting = p.stopWaiting ∧ p₁.ackFrame = p.ackFrame ∧
      ∃ pre rest, payloadFrames = pre ++ rest ∧ (pre = [] ∨ pre = p.slotsOf pth.pathID) ∧
        ∀ f ∈ rest, f.IsFrameRetransmittable := by
  unfold nextPayload at h
  split at h
  · -- the ping alone
    rename_i f rest hq'
    simp only [ExceptOption.pure_eq_ok, Prod.mk.injEq] at h
    obtain ⟨rfl, rfl⟩ := h
    refine ⟨fun g hg => hq g (by simp [hq', hg]), rfl, rfl, [], [.ping f], rfl, .inl rfl, ?_⟩
    simp [Frame.IsFrameRetransmittable]
  · obtain ⟨slots, slotLength, payloadLength, taken, left, hslots, hloop, -, hquiet, hstreams⟩ :=
      composeNextPacketWith_cases h
    obtain ⟨rfl, -⟩ := slotFrames_spec hslots
    have hsplit := packControlFrames_append hloop
    have htaken : ∀ f ∈ taken, f.IsFrameRetransmittable := fun f hf =>
      hq f (List.mem_reverse.1 (hsplit ▸ List.mem_append_left _ hf))
    have hleft : ∀ f ∈ left.reverse, f.IsFrameRetransmittable := fun f hf =>
      hq f (List.mem_reverse.1 (hsplit ▸ List.mem_append_right _ (List.mem_reverse.1 hf)))
    cases canSendStreamFrames with
    | false =>
      obtain ⟨rfl, rfl⟩ := hquiet rfl
      exact ⟨hleft, rfl, rfl, p.slotsOf pth.pathID, taken, rfl, .inr rfl, htaken⟩
    | true =>
      rcases hpop : pop p.streamFramer (maxSize + 2 - payloadLength) with ⟨framer, fs⟩
      obtain ⟨rfl, rfl⟩ := hstreams rfl framer fs hpop
      refine ⟨?_, rfl, rfl, p.slotsOf pth.pathID, taken ++ (omitLastDataLen fs).map Frame.stream,
        by rw [List.append_assoc], .inr rfl, ?_⟩
      · intro f hf
        rcases List.mem_append.1 hf with hf | hf
        · exact hleft f hf
        · obtain ⟨b, -, rfl⟩ := List.mem_map.1 hf
          rfl
      · intro f hf
        rcases List.mem_append.1 hf with hf | hf
        · exact htaken f hf
        · obtain ⟨g, -, rfl⟩ := List.mem_map.1 hf
          rfl

theorem packCryptoPacket_packs {pk : Option packedPacket} (hq : QueueInv p)
    (h : Returns (p.packCryptoPacket ParseIP now rand pth) (pk, p', pth')) :
    Packs pth.pathID p pk p' := by
  rcases hsealer : p.cryptoSetup.GetSealerForCryptoStream with ⟨encLevel, sealer⟩
  obtain ⟨framer, frame, raw, rfl, rfl, hwrite⟩ := packCryptoPacket_spec hsealer h
  refine ⟨hq, ?_, ?_, ?_, ?_, fun _ _ => rfl, fun _ _ => rfl⟩
  · rintro q ⟨⟩
    exact packedPacket.stamped_of_retransmittable (by simp [Frame.IsFrameRetransmittable])
  · rintro q ⟨⟩
    exact length_writeAndSealPacket hwrite
  · simp [Frame.isAck]
  · simp [Frame.isStopWaiting]

theorem PackPacketWith_packs {pk : Option packedPacket} (hq : QueueInv p)
    (h : Returns (p.PackPacketWith ParseIP now rand pop pth) (pk, p', pth')) :
    Packs pth.pathID p pk p' := by
  rcases hsealer : p.cryptoSetup.GetSealer with ⟨encLevel, sealer⟩
  rcases PackPacketWith_cases hsealer h with ⟨-, hcrypto⟩ |
    ⟨-, len, payloadFrames, p₁, -, hpayload, hsend⟩
  · exact packCryptoPacket_packs hq hcrypto
  set ph := p.getPublicHeader encLevel pth
  obtain ⟨hq₁, hsw₁, hack₁, pre, rest, rfl, hpre, hrest⟩ :=
    nextPayload_frames (by simpa [QueueInv] using hq) hpayload
  simp only [ackFrame_stampStopWaiting] at hack₁
  -- the stamp changes no slot but the path's, and not whether it is filled
  have hswSome : ((p.stampStopWaiting ph pth).stopWaiting pth.pathID).isSome =
      (p.stopWaiting pth.pathID).isSome := by
    simp [stopWaiting_stampStopWaiting]
  have hswNe : ∀ id, id ≠ pth.pathID → (p.stampStopWaiting ph pth).stopWaiting id =
      p.stopWaiting id := fun id hid => by
    simp [stopWaiting_stampStopWaiting, hid]
  rcases hsend with ⟨rfl, rfl, -, -⟩ | ⟨-, -, raw, rfl, rfl, hwrite⟩
  · -- nothing sent: the slots are as they were
    refine ⟨hq₁, by simp, by simp, ?_, ?_, fun id _ => by rw [hack₁], fun id hid => ?_⟩
    · simp [hack₁]
    · simp [hsw₁, hswSome]
    · rw [hsw₁, hswNe id hid]
  · have hpreAck : pre.countP Frame.isAck ≤ (p.ackFrame pth.pathID).isSome.toNat := by
      rcases hpre with rfl | rfl <;> simp
    have hpreSw : pre.countP Frame.isStopWaiting ≤ (p.stopWaiting pth.pathID).isSome.toNat := by
      rcases hpre with rfl | rfl
      · simp
      · rw [countP_slotsOf_isStopWaiting, hswSome]
    refine ⟨by simpa [QueueInv] using hq₁, ?_, ?_, ?_, ?_, fun id hid => ?_, fun id hid => ?_⟩
    · -- a STOP_WAITING frame sent is the one of the slot, stamped with this packet's number
      rintro q ⟨⟩ f hf
      rcases List.mem_append.1 hf with hf | hf
      · rcases hpre with rfl | rfl
        · cases hf
        · rcases hs : p.stopWaiting pth.pathID with _ | g <;>
            simp [slotsOf, stopWaiting_stampStopWaiting, hs] at hf
          rw [hf]
      · simpa [Frame.IsFrameRetransmittable] using hrest _ hf
    · rintro q ⟨⟩
      exact length_writeAndSealPacket hwrite
    · simp only [Option.map_some, Option.getD_some, List.countP_append,
        countP_isAck_eq_zero hrest, Function.update_self, Option.isSome_none, Bool.toNat_false]
      omega
    · simp only [Option.map_some, Option.getD_some, List.countP_append,
        countP_isStopWaiting_eq_zero hrest, Function.update_self, Option.isSome_none,
        Bool.toNat_false]
      omega
    · simp [Function.update_of_ne hid, hack₁]
    · simp [Function.update_of_ne hid, hsw₁, hswNe id hid]

theorem PackPing_packs {ids : List StreamID} {pf : PingFrame} {pk : Option packedPacket}
    (hq : QueueInv p) (h : Returns (p.PackPing ParseIP now rand ids pf pth) (pk, p', pth')) :
    Packs pth.pathID p pk p' := by
  have hq₀ : QueueInv { p with controlFrames := Frame.ping pf :: p.controlFrames } := by
    intro f hf
    rcases List.mem_cons.1 hf with rfl | hf
    · rfl
    · exact hq f hf
  exact (PackPacketWith_packs hq₀ h).of_slots rfl rfl

theorem PackAckPacket_packs {pk : packedPacket} (hq : QueueInv p)
    (h : Returns (p.PackAckPacket ParseIP now rand pth) (pk, p', pth')) :
    Packs pth.pathID p (some pk) p' := by
  rcases hsealer : p.cryptoSetup.GetSealer with ⟨encLevel, sealer⟩
  obtain ⟨ack, hack, hnumber, hwrite, hframes⟩ := PackAckPacket_spec hsealer h
  have hfits : pk.raw.length ≤ MaxPacketSize.toNat := length_writeAndSealPacket hwrite
  rcases hs : p.stopWaiting pth.pathID with _ | f <;> rw [hs] at hframes <;>
    obtain ⟨hframes, rfl⟩ := hframes
  · refine ⟨hq, ?_, by simpa using hfits, ?_, ?_, fun id hid => ?_, fun _ _ => rfl⟩
    · rintro q ⟨⟩ g hg
      simp [hframes] at hg
    · simp [hframes, hack, List.countP_cons]
    · simp [hframes, hs]
    · simp [Function.update_of_ne hid]
  · refine ⟨hq, ?_, by simpa using hfits, ?_, ?_, fun id hid => ?_, fun id hid => ?_⟩
    · rintro q ⟨⟩ g hg
      simp only [hframes, List.mem_cons, Frame.stopWaiting.injEq, reduceCtorEq, List.not_mem_nil,
        or_false, false_or] at hg
      rw [hg, hnumber]
    · simp [hframes, hack, List.countP_cons]
    · simp [hframes, hs, List.countP_cons]
    · simp [Function.update_of_ne hid]
    · simp [Function.update_of_ne hid]

theorem PackConnectionClose_packs {ccf : ConnectionCloseFrame} {pk : packedPacket}
    (hq : QueueInv p) (h : Returns (p.PackConnectionClose ParseIP now rand ccf pth) (pk, pth')) :
    Packs pth.pathID p (some pk) p := by
  rcases hsealer : p.cryptoSetup.GetSealer with ⟨encLevel, sealer⟩
  obtain ⟨-, hframes, hwrite⟩ := PackConnectionClose_spec hsealer h
  refine ⟨hq, ?_, by simpa using length_writeAndSealPacket hwrite, ?_, ?_, fun _ _ => rfl,
    fun _ _ => rfl⟩
  · rintro q ⟨⟩
    exact packedPacket.stamped_of_retransmittable (by simp [hframes, Frame.IsFrameRetransmittable])
  · simp [hframes, Frame.isAck]
  · simp [hframes, Frame.isStopWaiting]

theorem PackHandshakeRetransmission_packs {encryptionLevel : EncryptionLevel} {frames : List Frame}
    {pk : packedPacket} (hq : QueueInv p) (hframes : ∀ f ∈ frames, f.IsFrameRetransmittable)
    (h : Returns (p.PackHandshakeRetransmission ParseIP now rand encryptionLevel frames pth)
      (pk, p', pth')) :
    Packs pth.pathID p (some pk) p' := by
  obtain ⟨sealer, f, -, hs, hnumber, hpk, rfl, hwrite⟩ := PackHandshakeRetransmission_spec h
  refine ⟨hq, ?_, by simpa using length_writeAndSealPacket hwrite, ?_, ?_, fun _ _ => rfl,
    fun id hid => by simp [Function.update_of_ne hid]⟩
  · rintro q ⟨⟩ g hg
    rw [hpk] at hg
    rcases List.mem_cons.1 hg with hg | hg
    · simp only [Frame.stopWaiting.injEq] at hg
      rw [hg, hnumber]
    · simpa [Frame.IsFrameRetransmittable] using hframes _ hg
  · simp [hpk, countP_isAck_eq_zero hframes]
  · simp [hpk, countP_isStopWaiting_eq_zero hframes, hs, List.countP_cons]

end Calls

/-! ## Runs -/

/-- A call of the session on the packer, with the path it passes. -/
inductive PackerCall where
  | QueueControlFrame (frame : Frame) (pth : path)
  | PackPacket (ids : List StreamID) (pth : path)
  | PackPacketOfPath (streamIDs : List StreamID) (pathScheduler : String) (ids : List StreamID)
      (pth : path)
  | PackPacketOfStream (pth : path) (streamID : StreamID)
  | PackPing (ids : List StreamID) (pf : PingFrame) (pth : path)
  | PackAckPacket (pth : path)
  | PackConnectionClose (ccf : ConnectionCloseFrame) (pth : path)
  | PackHandshakeRetransmission (encryptionLevel : EncryptionLevel) (frames : List Frame)
      (pth : path)

namespace PackerCall

def pth : PackerCall → path
  | .QueueControlFrame _ pth => pth
  | .PackPacket _ pth => pth
  | .PackPacketOfPath _ _ _ pth => pth
  | .PackPacketOfStream pth _ => pth
  | .PackPing _ _ pth => pth
  | .PackAckPacket pth => pth
  | .PackConnectionClose _ pth => pth
  | .PackHandshakeRetransmission _ _ pth => pth

/-- The call queues an ACK frame for the path `id`. -/
def queuesAck (id : PathID) : PackerCall → Bool
  | .QueueControlFrame (.ack _) pth => pth.pathID = id
  | _ => false

/-- The call queues a STOP_WAITING frame for the path `id`. -/
def queuesStopWaiting (id : PathID) : PackerCall → Bool
  | .QueueControlFrame (.stopWaiting _) pth => pth.pathID = id
  | _ => false

/-- A handshake retransmission hands over only retransmittable frames. -/
def Stripped : PackerCall → Prop
  | .PackHandshakeRetransmission _ frames _ => ∀ f ∈ frames, f.IsFrameRetransmittable
  | _ => True

end PackerCall

section Run

variable (ParseIP : String → Option IP)

/-- One call at time `now` with the random draw `rand`: the packet it sends, if any, and the
packer after it. -/
def step (p : packetPacker) (now : Int) (rand : Option UInt16) :
    PackerCall → ExceptT String Option (Option packedPacket × packetPacker)
  | .QueueControlFrame frame pth => pure (none, p.QueueControlFrame frame pth)
  | .PackPacket ids pth => (fun r => (r.1, r.2.1)) <$> p.PackPacket ParseIP now rand ids pth
  | .PackPacketOfPath streamIDs pathScheduler ids pth =>
    (fun r => (r.1, r.2.1)) <$> p.PackPacketOfPath ParseIP now rand streamIDs pathScheduler ids pth
  | .PackPacketOfStream pth streamID =>
    (fun r => (r.1, r.2.1)) <$> p.PackPacketOfStream ParseIP now rand pth streamID
  | .PackPing ids pf pth => (fun r => (r.1, r.2.1)) <$> p.PackPing ParseIP now rand ids pf pth
  | .PackAckPacket pth => (fun r => (some r.1, r.2.1)) <$> p.PackAckPacket ParseIP now rand pth
  | .PackConnectionClose ccf pth =>
    (fun r => (some r.1, p)) <$> p.PackConnectionClose ParseIP now rand ccf pth
  | .PackHandshakeRetransmission encryptionLevel frames pth =>
    (fun r => (some r.1, r.2.1)) <$>
      p.PackHandshakeRetransmission ParseIP now rand encryptionLevel frames pth

/-- The calls in turn, each with its time and random draw: the packets sent, with their paths,
and the packer after them.  A call that fails ends the run, as the session closes then. -/
def run (p : packetPacker) :
    List (PackerCall × Int × Option UInt16) → List (PathID × packedPacket) × packetPacker
  | [] => ([], p)
  | (call, now, rand) :: calls =>
    match (p.step ParseIP now rand call).run with
    | some (.ok (pk, p')) =>
      let (sent, p'') := run p' calls
      ((pk.map fun pk => (call.pth.pathID, pk)).toList ++ sent, p'')
    | _ => ([], p)

end Run

/-- The frames of a kind the packets sent on the path `id` hold. -/
def sentCount (count : Frame → Bool) (id : PathID) (sent : List (PathID × packedPacket)) : Nat :=
  (sent.map fun x => if x.1 = id then x.2.frames.countP count else 0).sum

/-- What a run from `p` to `p'` that sent `sent` keeps: the queue's invariant, stamped packets
within `MaxPacketSize`, and for every path no more ACK and STOP_WAITING frames sent and left in
the slot than were queued or in the slot before. -/
structure Accounts (p : packetPacker) (calls : List PackerCall)
    (sent : List (PathID × packedPacket)) (p' : packetPacker) : Prop where
  queue : QueueInv p'
  stamped : ∀ x ∈ sent, x.2.Stamped
  fits : ∀ x ∈ sent, x.2.raw.length ≤ MaxPacketSize.toNat
  acks : ∀ id, sentCount Frame.isAck id sent + (p'.ackFrame id).isSome.toNat ≤
    calls.countP (PackerCall.queuesAck id) + (p.ackFrame id).isSome.toNat
  stopWaitings : ∀ id, sentCount Frame.isStopWaiting id sent + (p'.stopWaiting id).isSome.toNat ≤
    calls.countP (PackerCall.queuesStopWaiting id) + (p.stopWaiting id).isSome.toNat

namespace Accounts

variable {p p₁ p₂ : packetPacker} {calls calls₁ calls₂ : List PackerCall}
  {sent sent₁ sent₂ : List (PathID × packedPacket)}

theorem sentCount_append (count : Frame → Bool) (id : PathID) :
    sentCount count id (sent₁ ++ sent₂) = sentCount count id sent₁ + sentCount count id sent₂ := by
  simp [sentCount]

/-- A run that sends nothing and changes nothing keeps the accounts, whatever the calls. -/
theorem skip (hq : QueueInv p) : Accounts p calls [] p where
  queue := hq
  stamped := by simp
  fits := by simp
  acks id := by simp [sentCount]
  stopWaitings id := by simp [sentCount]

theorem trans (h₁ : Accounts p calls₁ sent₁ p₁) (h₂ : Accounts p₁ calls₂ sent₂ p₂) :
    Accounts p (calls₁ ++ calls₂) (sent₁ ++ sent₂) p₂ where
  queue := h₂.queue
  stamped x hx := (List.mem_append.1 hx).elim (h₁.stamped x) (h₂.stamped x)
  fits x hx := (List.mem_append.1 hx).elim (h₁.fits x) (h₂.fits x)
  acks id := by
    have := h₁.acks id
    have := h₂.acks id
    rw [sentCount_append, List.countP_append]
    omega
  stopWaitings id := by
    have := h₁.stopWaitings id
    have := h₂.stopWaitings id
    rw [sentCount_append, List.countP_append]
    omega

end Accounts

/-- A call that packs and queues nothing keeps the accounts: what it sends on its path leaves that
path's slots. -/
theorem Packs.accounts {p p' : packetPacker} {pk : Option packedPacket} {call : PackerCall}
    (h : Packs call.pth.pathID p pk p') (hack : ∀ id, call.queuesAck id = false)
    (hsw : ∀ id, call.queuesStopWaiting id = false) :
    Accounts p [call] ((pk.map fun q => (call.pth.pathID, q)).toList) p' where
  queue := h.queue
  stamped x hx := by
    cases pk with
    | none => cases hx
    | some q =>
      simp only [Option.map_some, Option.toList_some, List.mem_singleton] at hx
      exact hx ▸ h.stamped q rfl
  fits x hx := by
    cases pk with
    | none => cases hx
    | some q =>
      simp only [Option.map_some, Option.toList_some, List.mem_singleton] at hx
      exact hx ▸ h.fits q rfl
  acks id := by
    -- the path's own slot pays for what the packet sent; the others stay
    by_cases hid : id = call.pth.pathID
    · subst hid
      have := h.acks
      cases pk <;> simp_all [sentCount]
    · have hne : call.pth.pathID ≠ id := Ne.symm hid
      cases pk <;> simp [sentCount, hne, h.ackFrame_ne id hid, hack id]
  stopWaitings id := by
    by_cases hid : id = call.pth.pathID
    · subst hid
      have := h.stopWaitings
      cases pk <;> simp_all [sentCount]
    · have hne : call.pth.pathID ≠ id := Ne.symm hid
      cases pk <;> simp [sentCount, hne, h.stopWaiting_ne id hid, hsw id]

section RunAccounts

variable {ParseIP : String → Option IP}

theorem QueueControlFrame_accounts {p : packetPacker} {frame : Frame} {pth : path}
    (hq : QueueInv p) :
    Accounts p [.QueueControlFrame frame pth] [] (p.QueueControlFrame frame pth) := by
  cases frame
  case stopWaiting f =>
    refine ⟨hq, by simp, by simp, fun id => by simp [sentCount, QueueControlFrame,
      PackerCall.queuesAck], fun id => ?_⟩
    by_cases hid : id = pth.pathID
    · subst hid
      simp [sentCount, QueueControlFrame, PackerCall.queuesStopWaiting]
    · simp [sentCount, QueueControlFrame, PackerCall.queuesStopWaiting, hid, Ne.symm hid]
  case ack f =>
    refine ⟨hq, by simp, by simp, fun id => ?_, fun id => by simp [sentCount, QueueControlFrame,
      PackerCall.queuesStopWaiting]⟩
    by_cases hid : id = pth.pathID
    · subst hid
      simp [sentCount, QueueControlFrame, PackerCall.queuesAck]
    · simp [sentCount, QueueControlFrame, PackerCall.queuesAck, hid, Ne.symm hid]
  -- any other frame joins the end of the queue
  all_goals
    refine ⟨fun g hg => ?_, by simp, by simp,
      fun id => by simp [sentCount, QueueControlFrame, PackerCall.queuesAck],
      fun id => by simp [sentCount, QueueControlFrame, PackerCall.queuesStopWaiting]⟩
    rcases List.mem_append.1 hg with hg | hg
    · exact hq g hg
    · rw [List.mem_singleton.1 hg]
      rfl

/-- One call keeps the accounts. -/
theorem step_accounts {p p' : packetPacker} {now : Int} {rand : Option UInt16} {call : PackerCall}
    {pk : Option packedPacket} (hq : QueueInv p) (hc : call.Stripped)
    (h : Returns (p.step ParseIP now rand call) (pk, p')) :
    Accounts p [call] ((pk.map fun q => (call.pth.pathID, q)).toList) p' := by
  cases call with
  | QueueControlFrame frame pth =>
    simp only [step, returns_pure, Prod.mk.injEq] at h
    obtain ⟨rfl, rfl⟩ := h
    exact QueueControlFrame_accounts hq
  | PackPacket ids pth =>
    obtain ⟨⟨pk₁, p₁, pth₁⟩, hpack, hr⟩ := returns_map.1 h
    cases hr
    refine Packs.accounts ?_ (fun _ => rfl) (fun _ => rfl)
    exact PackPacketWith_packs hq hpack
  | PackPacketOfPath streamIDs pathScheduler ids pth =>
    obtain ⟨⟨pk₁, p₁, pth₁⟩, hpack, hr⟩ := returns_map.1 h
    cases hr
    refine Packs.accounts ?_ (fun _ => rfl) (fun _ => rfl)
    exact PackPacketWith_packs hq hpack
  | PackPacketOfStream pth streamID =>
    obtain ⟨⟨pk₁, p₁, pth₁⟩, hpack, hr⟩ := returns_map.1 h
    cases hr
    refine Packs.accounts ?_ (fun _ => rfl) (fun _ => rfl)
    exact PackPacketWith_packs hq hpack
  | PackPing ids pf pth =>
    obtain ⟨⟨pk₁, p₁, pth₁⟩, hpack, hr⟩ := returns_map.1 h
    cases hr
    refine Packs.accounts ?_ (fun _ => rfl) (fun _ => rfl)
    exact PackPing_packs hq hpack
  | PackAckPacket pth =>
    obtain ⟨⟨pk₁, p₁, pth₁⟩, hpack, hr⟩ := returns_map.1 h
    cases hr
    refine Packs.accounts ?_ (fun _ => rfl) (fun _ => rfl)
    exact PackAckPacket_packs hq hpack
  | PackConnectionClose ccf pth =>
    obtain ⟨⟨pk₁, pth₁⟩, hpack, hr⟩ := returns_map.1 h
    cases hr
    refine Packs.accounts ?_ (fun _ => rfl) (fun _ => rfl)
    exact PackConnectionClose_packs hq hpack
  | PackHandshakeRetransmission encryptionLevel frames pth =>
    obtain ⟨⟨pk₁, p₁, pth₁⟩, hpack, hr⟩ := returns_map.1 h
    cases hr
    refine Packs.accounts ?_ (fun _ => rfl) (fun _ => rfl)
    exact PackHandshakeRetransmission_packs hq hc hpack

/-- Over any run from a packer whose queue holds no STOP_WAITING or ACK frame, with handshake
retransmissions of retransmittable frames: every STOP_WAITING frame sent carries the number of its
packet, no packet exceeds `MaxPacketSize`, and no path sends more ACK or STOP_WAITING frames than
were queued for it or waited in its slot. -/
theorem run_accounts {p : packetPacker} {calls : List (PackerCall × Int × Option UInt16)}
    (hq : QueueInv p) (hcalls : ∀ c ∈ calls, c.1.Stripped) :
    Accounts p (calls.map Prod.fst) (p.run ParseIP calls).1 (p.run ParseIP calls).2 := by
  induction calls generalizing p with
  | nil => exact Accounts.skip hq
  | cons c calls ih =>
    obtain ⟨call, now, rand⟩ := c
    have hc := hcalls _ List.mem_cons_self
    have hrest := fun c hc => hcalls c (List.mem_cons_of_mem _ hc)
    -- one step, then the rest of the run from where it left the packer
    rcases hstep : (p.step ParseIP now rand call).run with _ | (e | ⟨pk, p₁⟩) <;>
      simp only [run, hstep]
    · exact Accounts.skip hq
    · exact Accounts.skip hq
    · have h₁ := step_accounts hq hc hstep
      exact h₁.trans (ih h₁.queue hrest)

/-- An ACK frame queued, an ACK packet, and then a ping on the initial path. -/
def ackThenPing : List (PackerCall × Int × Option UInt16) :=
  [(.QueueControlFrame (.ack ⟨InitialPathID, 5, 1, [], 0, 0⟩) initialPath, 0, none),
    (.PackAckPacket initialPath, 0, none), (.PackPing [] ⟨⟩ initialPath, 1, none)]

theorem run_accounts_ackThenPing :
    QueueInv serverPacker ∧ (∀ c ∈ ackThenPing, c.1.Stripped) ∧
      Accounts serverPacker (ackThenPing.map Prod.fst)
        (serverPacker.run (fun _ => none) ackThenPing).1
        (serverPacker.run (fun _ => none) ackThenPing).2 := by
  have hq : QueueInv serverPacker := queueInv_newPacketPacker _ _ _ _ _ _
  have hcalls : ∀ c ∈ ackThenPing, c.1.Stripped := by
    simp [ackThenPing, PackerCall.Stripped]
  exact ⟨hq, hcalls, run_accounts hq hcalls⟩

end RunAccounts

end packetPacker

end PStream
