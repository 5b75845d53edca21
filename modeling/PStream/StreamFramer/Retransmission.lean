import PStream.StreamFramer.Basic

/-!
# Retransmission pops lose and duplicate nothing

The three `maybePopFramesForRetransmission…` take frames off the retransmission queue while they
fit the packet, and split the first one that does not.  The ones for a path or a stream pass over
the frames of other streams, and take the others out of the middle of the queue.

A frame's bytes are tagged with their stream and offset (`StreamFrame.bytes`), and a FIN with the
stream and the offset it ends at (`StreamFrame.finEnd`).  The pops move these between the frames
they return and the queue they leave, and neither lose nor copy any (`RetransmissionPop`,
`retransmissionPops_exact`).  Both are measures that marking a frame with its data length and
splitting it keep, so one lemma, `flatMap_retransmitLoop`, proves both.
-/

set_option autoImplicit false

namespace PStream
namespace Wire
namespace StreamFrame

/-- The bytes `data` from `offset` on, each with its stream and offset. -/
def bytesFrom (streamID : PStream.StreamID) :
    ByteCount → List UInt8 → List (PStream.StreamID × ByteCount × UInt8)
  | _, [] => []
  | offset, b :: bs => (streamID, offset, b) :: bytesFrom streamID (offset + 1) bs

/-- The bytes a frame carries, each with its stream and its offset in the stream. -/
def bytes (f : StreamFrame) : List (PStream.StreamID × ByteCount × UInt8) :=
  bytesFrom f.StreamID f.Offset f.Data

/-- Where a frame with the FIN bit ends its stream. -/
def finEnd (f : StreamFrame) : Option (PStream.StreamID × ByteCount) :=
  if f.FinBit then some (f.StreamID, f.Offset + f.DataLen) else none

theorem bytesFrom_append (streamID : PStream.StreamID) :
    ∀ (offset : ByteCount) (l₁ l₂ : List UInt8),
      bytesFrom streamID offset (l₁ ++ l₂) =
        bytesFrom streamID offset l₁ ++ bytesFrom streamID (offset + l₁.length.toUInt64) l₂
  | offset, [], l₂ => by simp [bytesFrom]
  | offset, b :: l₁, l₂ => by
    rw [List.cons_append, bytesFrom, bytesFrom, bytesFrom_append streamID (offset + 1) l₁ l₂,
      List.cons_append]
    congr 3
    rw [List.length_cons, Nat.toUInt64_eq, Nat.toUInt64_eq, UInt64.ofNat_add, UInt64.add_assoc,
      UInt64.add_comm 1]
    rfl

end StreamFrame
end Wire

namespace streamFramer

open Wire

/-- The two parts of a split carry the bytes of the frame between them, the second keeps its FIN,
and the first has exactly `n` bytes and the frame's header. -/
theorem maybeSplitOffFrame_spec {frame splitFrame rest : StreamFrame} {n : ByteCount}
    (h : maybeSplitOffFrame frame n = some (splitFrame, rest)) :
    splitFrame.bytes ++ rest.bytes = frame.bytes ∧ splitFrame.finEnd = none ∧
      rest.finEnd = frame.finEnd ∧ splitFrame.StreamID = frame.StreamID ∧
      rest.StreamID = frame.StreamID ∧ splitFrame.DataLen = n ∧
      splitFrame.MinLength Protocol.VersionWhatever = frame.MinLength Protocol.VersionWhatever := by
  unfold maybeSplitOffFrame at h
  split_ifs at h with hn
  cases h
  -- `n` is below the data length, so the first part has exactly `n` bytes
  have hlt : n.toNat < frame.Data.length := by
    have h1 := UInt64.lt_iff_toNat_lt.mp (UInt64.not_le.mp hn)
    rw [StreamFrame.DataLen, Nat.toUInt64_eq, UInt64.toNat_ofNat'] at h1
    exact lt_of_lt_of_le h1 (Nat.mod_le _ _)
  have htake : (frame.Data.take n.toNat).length.toUInt64 = n := by
    rw [List.length_take, Nat.min_eq_left hlt.le, Nat.toUInt64_eq, UInt64.ofNat_toNat]
  refine ⟨?_, ?_, ?_, rfl, rfl, htake, rfl⟩
  · rw [StreamFrame.bytes, StreamFrame.bytes, StreamFrame.bytes]
    dsimp only
    conv_rhs => rw [← List.take_append_drop n.toNat frame.Data]
    rw [StreamFrame.bytesFrom_append, htake]
  · rfl
  · unfold StreamFrame.finEnd
    dsimp only
    split
    · rw [StreamFrame.DataLen, StreamFrame.DataLen, List.length_drop, UInt64.add_assoc]
      congr 2
      rw [Nat.toUInt64_eq, Nat.toUInt64_eq]
      nth_rewrite 1 [← UInt64.ofNat_toNat (x := n)]
      rw [← UInt64.ofNat_add, Nat.add_sub_cancel' hlt.le]
    · rfl

/-! ## One frame -/

/-- The three ways `retransmitOne` can go: the header does not fit and the frame stays, marked
as carrying its length; the data does not fit and its first bytes are split off; or the whole
frame goes. -/
theorem retransmitOne_cases (maxLen : ByteCount) (st : RetransState) (frame : StreamFrame) :
    let frame' := { frame with DataLenPresent := true }
    let currentLen := st.currentLen + frame'.MinLength Protocol.VersionWhatever
    (currentLen ≥ maxLen ∧ retransmitOne maxLen st frame = (st, some frame', false)) ∨
    (¬ currentLen ≥ maxLen ∧ ∃ splitFrame rest,
      maybeSplitOffFrame frame' (maxLen - currentLen) = some (splitFrame, rest) ∧
      retransmitOne maxLen st frame = (⟨addBytesRetrans st.framer splitFrame, st.res ++ [splitFrame],
        currentLen + splitFrame.DataLen⟩, some rest, false)) ∨
    (¬ currentLen ≥ maxLen ∧ maybeSplitOffFrame frame' (maxLen - currentLen) = none ∧
      retransmitOne maxLen st frame = (⟨addBytesRetrans st.framer frame', st.res ++ [frame'],
        currentLen + frame'.DataLen⟩, none, true)) := by
  intro frame' currentLen
  unfold retransmitOne
  dsimp only
  split_ifs with hfit
  · exact .inl ⟨hfit, rfl⟩
  · rcases hs : maybeSplitOffFrame frame' (maxLen - currentLen) with _ | ⟨splitFrame, rest⟩
    · exact .inr (.inr ⟨hfit, rfl, rfl⟩)
    · exact .inr (.inl ⟨hfit, splitFrame, rest, rfl, rfl⟩)

section RetransmitOne

variable {β : Type} (g : StreamFrame → List β)
  (hmark : ∀ frame : StreamFrame, g { frame with DataLenPresent := true } = g frame)
  (hsplit : ∀ frame splitFrame rest n, maybeSplitOffFrame frame n = some (splitFrame, rest) →
    g splitFrame ++ g rest = g frame)

include hmark hsplit in
/-- What one frame leaves, in the frames popped and in its place in the queue, carries what the
frame carried, for any measure `g` that marking and splitting keep. -/
theorem flatMap_retransmitOne (maxLen : ByteCount) (st : RetransState) (frame : StreamFrame) :
    ((retransmitOne maxLen st frame).1.res ++ (retransmitOne maxLen st frame).2.1.toList).flatMap g =
      (st.res ++ [frame]).flatMap g := by
  rcases retransmitOne_cases maxLen st frame with ⟨-, h⟩ | ⟨-, sp, rp, hs, h⟩ | ⟨-, -, h⟩ <;>
    rw [h] <;> simp only [List.flatMap_append, List.flatMap_cons, List.flatMap_nil,
      List.append_nil, Option.toList_some, Option.toList_none]
  · rw [hmark]
  · rw [List.append_assoc, hsplit _ _ _ _ hs, hmark]
  · rw [hmark]

end RetransmitOne

/-- The frames one frame leaves are of its stream. -/
theorem streamID_retransmitOne (maxLen : ByteCount) (st : RetransState) (frame : StreamFrame) :
    (∀ fr ∈ (retransmitOne maxLen st frame).1.res, fr ∈ st.res ∨ fr.StreamID = frame.StreamID) ∧
      ∀ fr ∈ (retransmitOne maxLen st frame).2.1, fr.StreamID = frame.StreamID := by
  rcases retransmitOne_cases maxLen st frame with ⟨-, h⟩ | ⟨-, sp, rp, hs, h⟩ | ⟨-, -, h⟩ <;>
    rw [h]
  · exact ⟨fun fr h => .inl h, fun fr h => by cases h; rfl⟩
  · obtain ⟨-, -, -, hsp, hrp, -⟩ := maybeSplitOffFrame_spec hs
    refine ⟨fun fr h => ?_, fun fr h => by cases h; exact hrp⟩
    rcases List.mem_append.mp h with h | h
    · exact .inl h
    · rw [List.mem_singleton.mp h, hsp]
      exact .inr rfl
  · refine ⟨fun fr h => ?_, fun fr h => absurd h (Option.not_mem_none _)⟩
    rcases List.mem_append.mp h with h | h
    · exact .inl h
    · rw [List.mem_singleton.mp h]
      exact .inr rfl

/-- Only a frame that went whole lets the loop go on. -/
theorem retransmitOne_continue {maxLen : ByteCount} {st : RetransState} {frame : StreamFrame}
    (h : (retransmitOne maxLen st frame).2.2 = true) : (retransmitOne maxLen st frame).2.1 = none := by
  rcases retransmitOne_cases maxLen st frame with ⟨-, h'⟩ | ⟨-, sp, rp, hs, h'⟩ | ⟨-, -, h'⟩ <;>
    rw [h'] at h ⊢
  · cases h
  · cases h

/-- What frames take in a packet: their headers and their data. -/
def framesLen (frames : List StreamFrame) : ByteCount :=
  (frames.map fun frame => frame.MinLength Protocol.VersionWhatever + frame.DataLen).sum

theorem framesLen_append_singleton (frames : List StreamFrame) (frame : StreamFrame) :
    framesLen (frames ++ [frame]) =
      framesLen frames + (frame.MinLength Protocol.VersionWhatever + frame.DataLen) := by
  simp only [framesLen, List.map_append, List.map_cons, List.map_nil, List.sum_append,
    List.sum_cons, List.sum_nil, UInt64.add_zero]

theorem le_of_maybeSplitOffFrame_eq_none {frame : StreamFrame} {n : ByteCount}
    (h : maybeSplitOffFrame frame n = none) : frame.DataLen ≤ n := by
  unfold maybeSplitOffFrame at h
  split_ifs at h with hn
  exact hn

/-- The length the loop counts is that of the frames it popped, and stays within `maxLen`. -/
theorem currentLen_retransmitOne {maxLen : ByteCount} {st : RetransState} (frame : StreamFrame)
    (hlen : st.currentLen = framesLen st.res) (hle : st.currentLen ≤ maxLen) :
    (retransmitOne maxLen st frame).1.currentLen = framesLen (retransmitOne maxLen st frame).1.res ∧
      (retransmitOne maxLen st frame).1.currentLen ≤ maxLen := by
  rcases retransmitOne_cases maxLen st frame with ⟨-, h⟩ | ⟨hfit, sp, rp, hs, h⟩ | ⟨hfit, hs, h⟩ <;>
    rw [h]
  · exact ⟨hlen, hle⟩
  · -- the part split off fills the room left exactly
    obtain ⟨-, -, -, -, -, hdata, hmin⟩ := maybeSplitOffFrame_spec hs
    refine ⟨?_, ?_⟩
    · rw [framesLen_append_singleton, hmin, hlen, UInt64.add_assoc]
    · dsimp only
      rw [hdata, UInt64.add_comm, UInt64.sub_add_cancel]
      exact UInt64.le_refl _
  · -- the whole frame fits the room left
    have hd := le_of_maybeSplitOffFrame_eq_none hs
    refine ⟨by rw [framesLen_append_singleton, hlen, UInt64.add_assoc], ?_⟩
    dsimp only
    rw [ge_iff_le, UInt64.not_le] at hfit
    have hlt := UInt64.lt_iff_toNat_lt.mp hfit
    have hd' := UInt64.le_iff_toNat_le.mp hd
    rw [UInt64.toNat_sub_of_le _ _ (UInt64.le_of_lt hfit)] at hd'
    have hmax := maxLen.toNat_lt
    rw [UInt64.le_iff_toNat_le, UInt64.toNat_add, Nat.mod_eq_of_lt (by omega)]
    omega

/-! ## The loop -/

section Loop

variable (mine : StreamFrame → Bool) (maxLen : ByteCount)

theorem retransmitLoop_cons_of_not_mine {frame : StreamFrame} (h : mine frame = false)
    (st : RetransState) (queue : List StreamFrame) :
    retransmitLoop mine maxLen st (frame :: queue) =
      ((retransmitLoop mine maxLen st queue).1, frame :: (retransmitLoop mine maxLen st queue).2) := by
  simp only [retransmitLoop, h, Bool.not_false, if_true]

theorem retransmitLoop_cons_of_mine {frame : StreamFrame} (h : mine frame = true)
    (st : RetransState) (queue : List StreamFrame) :
    retransmitLoop mine maxLen st (frame :: queue) =
      if (retransmitOne maxLen st frame).2.2 then
        retransmitLoop mine maxLen (retransmitOne maxLen st frame).1 queue
      else ((retransmitOne maxLen st frame).1, (retransmitOne maxLen st frame).2.1.toList ++ queue) := by
  rcases hr : retransmitOne maxLen st frame with ⟨st', left, _ | _⟩ <;>
    simp only [retransmitLoop, h, Bool.not_true, Bool.false_eq_true, if_false, hr, if_true]

/-- Every frame popped is one of the selected streams. -/
theorem streamID_retransmitLoop : ∀ (st : RetransState) (queue : List StreamFrame),
    ∀ fr ∈ (retransmitLoop mine maxLen st queue).1.res,
      fr ∈ st.res ∨ ∃ frame ∈ queue, mine frame = true ∧ fr.StreamID = frame.StreamID
  | st, [] => fun fr h => .inl h
  | st, frame :: queue => by
    intro fr hfr
    cases hm : mine frame
    · rw [retransmitLoop_cons_of_not_mine mine maxLen hm] at hfr
      rcases streamID_retransmitLoop st queue fr hfr with h | ⟨g, hg, hmg, hid⟩
      · exact .inl h
      · exact .inr ⟨g, List.mem_cons_of_mem _ hg, hmg, hid⟩
    · have hone := (streamID_retransmitOne maxLen st frame).1
      rw [retransmitLoop_cons_of_mine mine maxLen hm] at hfr
      split_ifs at hfr with hcont
      · rcases streamID_retransmitLoop _ queue fr hfr with h | ⟨g, hg, hmg, hid⟩
        · rcases hone fr h with h | h
          · exact .inl h
          · exact .inr ⟨frame, List.mem_cons_self, hm, h⟩
        · exact .inr ⟨g, List.mem_cons_of_mem _ hg, hmg, hid⟩
      · rcases hone fr hfr with h | h
        · exact .inl h
        · exact .inr ⟨frame, List.mem_cons_self, hm, h⟩

/-- The loop keeps its count of the length of the frames popped, within `maxLen`. -/
theorem currentLen_retransmitLoop : ∀ (st : RetransState) (queue : List StreamFrame),
    st.currentLen = framesLen st.res → st.currentLen ≤ maxLen →
      (retransmitLoop mine maxLen st queue).1.currentLen =
          framesLen (retransmitLoop mine maxLen st queue).1.res ∧
        (retransmitLoop mine maxLen st queue).1.currentLen ≤ maxLen
  | st, [], hlen, hle => ⟨hlen, hle⟩
  | st, frame :: queue, hlen, hle => by
    cases hm : mine frame
    · rw [retransmitLoop_cons_of_not_mine mine maxLen hm]
      exact currentLen_retransmitLoop st queue hlen hle
    · obtain ⟨hlen', hle'⟩ := currentLen_retransmitOne frame hlen hle
      rw [retransmitLoop_cons_of_mine mine maxLen hm]
      split_ifs
      · exact currentLen_retransmitLoop _ queue hlen' hle'
      · exact ⟨hlen', hle'⟩

/-- The queue left: the frames passed over before the loop stopped, in their order, then the rest
of the queue, its first frame possibly marked or cut. -/
theorem retransmitLoop_queue : ∀ (st : RetransState) (queue : List StreamFrame),
    ∃ A B B', queue = A ++ B ∧
      (retransmitLoop mine maxLen st queue).2 = A.filter (fun frame => !mine frame) ++ B' ∧
      (B' = B ∨ ∃ x y rest, B = x :: rest ∧ B' = y :: rest ∧ y.StreamID = x.StreamID)
  | st, [] => ⟨[], [], [], rfl, rfl, .inl rfl⟩
  | st, frame :: queue => by
    cases hm : mine frame
    · -- passed over: it joins the frames before the stop
      obtain ⟨A, B, B', hq, hq', hB⟩ := retransmitLoop_queue st queue
      refine ⟨frame :: A, B, B', by rw [hq, List.cons_append], ?_, hB⟩
      rw [retransmitLoop_cons_of_not_mine mine maxLen hm, hq', List.filter_cons, hm]
      rfl
    · rw [retransmitLoop_cons_of_mine mine maxLen hm]
      split_ifs with hcont
      · -- popped whole: it leaves the queue
        obtain ⟨A, B, B', hq, hq', hB⟩ := retransmitLoop_queue (retransmitOne maxLen st frame).1 queue
        refine ⟨frame :: A, B, B', by rw [hq, List.cons_append], ?_, hB⟩
        rw [hq', List.filter_cons, hm]
        rfl
      · -- the loop stops here: the frame stays, marked or cut
        obtain ⟨y, hy⟩ : ∃ y, (retransmitOne maxLen st frame).2.1 = some y := by
          rcases retransmitOne_cases maxLen st frame with ⟨-, h⟩ | ⟨-, sp, rp, -, h⟩ | ⟨-, -, h⟩ <;>
            rw [h] at hcont ⊢
          · exact ⟨_, rfl⟩
          · exact ⟨_, rfl⟩
          · exact absurd rfl hcont
        have hid := (streamID_retransmitOne maxLen st frame).2 y (by rw [hy]; rfl)
        refine ⟨[], frame :: queue, y :: queue, rfl, ?_, .inr ⟨frame, y, queue, rfl, rfl, hid⟩⟩
        rw [hy]
        rfl

variable {β : Type} (g : StreamFrame → List β)
  (hmark : ∀ frame : StreamFrame, g { frame with DataLenPresent := true } = g frame)
  (hsplit : ∀ frame splitFrame rest n, maybeSplitOffFrame frame n = some (splitFrame, rest) →
    g splitFrame ++ g rest = g frame)

include hmark hsplit in
/-- The frames popped and the queue left carry, together, what the queue carried. -/
theorem flatMap_retransmitLoop : ∀ (st : RetransState) (queue : List StreamFrame),
    ((retransmitLoop mine maxLen st queue).1.res ++ (retransmitLoop mine maxLen st queue).2).flatMap g
      |>.Perm ((st.res ++ queue).flatMap g)
  | st, [] => by simp [retransmitLoop]
  | st, frame :: queue => by
    cases hm : mine frame
    · -- a frame passed over keeps its place
      rw [retransmitLoop_cons_of_not_mine mine maxLen hm]
      have ih := flatMap_retransmitLoop st queue
      simp only [List.flatMap_append, List.flatMap_cons] at ih ⊢
      exact (List.perm_append_comm_assoc _ _ _).trans
        ((ih.append_left _).trans (List.perm_append_comm_assoc _ _ _))
    · have hone := flatMap_retransmitOne g hmark hsplit maxLen st frame
      rw [retransmitLoop_cons_of_mine mine maxLen hm]
      split_ifs with hcont
      · -- the frame went whole: the rest of the loop starts from it
        have ih := flatMap_retransmitLoop (retransmitOne maxLen st frame).1 queue
        rw [retransmitOne_continue hcont, Option.toList_none, List.append_nil] at hone
        refine ih.trans (List.Perm.of_eq ?_)
        rw [List.flatMap_append, hone, List.flatMap_append, List.flatMap_append,
          List.flatMap_cons, List.flatMap_cons, List.flatMap_nil, List.append_nil, List.append_assoc]
      · apply List.Perm.of_eq
        rw [← List.append_assoc, List.flatMap_append, hone, List.flatMap_append, List.flatMap_append,
          List.flatMap_cons, List.flatMap_cons, List.flatMap_nil, List.append_nil, List.append_assoc]

end Loop

/-! ## The three pops -/

/-- What a retransmission pop over `queue` within `maxLen` gives, for the frames `mine` selects.
The frames popped and the queue left carry every byte of the queue once, at its offset, and
every FIN once, at its end.  The frames popped are of selected streams.  The queue left keeps the
frames passed over in their order, then the rest of the queue with at most its first frame
changed.  And `currentLen` is the length of the frames popped, within `maxLen`. -/
structure RetransmissionPop (mine : StreamFrame → Bool) (maxLen : ByteCount)
    (queue res queue' : List StreamFrame) (currentLen : ByteCount) : Prop where
  bytes_perm : ((res ++ queue').flatMap StreamFrame.bytes).Perm (queue.flatMap StreamFrame.bytes)
  finEnds_perm : ((res ++ queue').flatMap fun frame => frame.finEnd.toList).Perm
    (queue.flatMap fun frame => frame.finEnd.toList)
  streamID_res : ∀ fr ∈ res, ∃ frame ∈ queue, mine frame = true ∧ fr.StreamID = frame.StreamID
  queue_left : ∃ A B B', queue = A ++ B ∧ queue' = A.filter (fun frame => !mine frame) ++ B' ∧
    (B' = B ∨ ∃ x y rest, B = x :: rest ∧ B' = y :: rest ∧ y.StreamID = x.StreamID)
  currentLen_eq : currentLen = framesLen res
  currentLen_le : currentLen ≤ maxLen

theorem popFramesForRetransmission_spec (mine : StreamFrame → Bool) (f : streamFramer)
    (maxLen : ByteCount) :
    RetransmissionPop mine maxLen f.retransmissionQueue (f.popFramesForRetransmission mine maxLen).2.1
      (f.popFramesForRetransmission mine maxLen).1.retransmissionQueue
      (f.popFramesForRetransmission mine maxLen).2.2 := by
  have hbytes := flatMap_retransmitLoop mine maxLen StreamFrame.bytes (fun _ => rfl)
    (fun _ _ _ _ hs => (maybeSplitOffFrame_spec hs).1) ⟨f, [], 0⟩ f.retransmissionQueue
  have hfins := flatMap_retransmitLoop mine maxLen (fun frame => frame.finEnd.toList) (fun _ => rfl)
    (fun _ _ _ _ hs => by rw [(maybeSplitOffFrame_spec hs).2.1, (maybeSplitOffFrame_spec hs).2.2.1]; rfl)
    ⟨f, [], 0⟩ f.retransmissionQueue
  have hids := streamID_retransmitLoop mine maxLen ⟨f, [], 0⟩ f.retransmissionQueue
  have hqueue := retransmitLoop_queue mine maxLen ⟨f, [], 0⟩ f.retransmissionQueue
  have hlen := currentLen_retransmitLoop mine maxLen ⟨f, [], 0⟩ f.retransmissionQueue rfl
    UInt64.zero_le
  unfold popFramesForRetransmission
  rcases h : retransmitLoop mine maxLen ⟨f, [], 0⟩ f.retransmissionQueue with ⟨st, queue⟩
  rw [h] at hbytes hfins hids hqueue hlen
  exact ⟨hbytes, hfins, fun fr hfr => (hids fr hfr).resolve_left List.not_mem_nil, hqueue, hlen.1,
    hlen.2⟩

theorem retransmissionPops_exact (f : streamFramer) (maxLen : ByteCount)
    (streamIDs : List StreamID) (streamID : StreamID) :
    let all := f.maybePopFramesForRetransmission maxLen
    let ofPath := f.maybePopFramesForRetransmissionOfPath maxLen streamIDs
    let ofStream := f.maybePopFramesForRetransmissionOfOneStream maxLen streamID
    RetransmissionPop (fun _ => true) maxLen f.retransmissionQueue all.2.1
        all.1.retransmissionQueue all.2.2 ∧
      RetransmissionPop (fun frame => streamIDs.contains frame.StreamID) maxLen f.retransmissionQueue
        ofPath.2.1 ofPath.1.retransmissionQueue ofPath.2.2 ∧
      (∀ frame ∈ ofPath.2.1, frame.StreamID ∈ streamIDs) ∧
      RetransmissionPop (fun frame => frame.StreamID = streamID) maxLen f.retransmissionQueue
        ofStream.2.1 ofStream.1.retransmissionQueue ofStream.2.2 ∧
      ∀ frame ∈ ofStream.2.1, frame.StreamID = streamID := by
  intro all ofPath ofStream
  have hpath := popFramesForRetransmission_spec (fun frame => streamIDs.contains frame.StreamID) f
    maxLen
  have hstream := popFramesForRetransmission_spec (fun frame => frame.StreamID = streamID) f maxLen
  refine ⟨popFramesForRetransmission_spec _ f maxLen, hpath, fun fr hfr => ?_, hstream,
    fun fr hfr => ?_⟩
  · obtain ⟨frame, -, hmine, hid⟩ := hpath.streamID_res fr hfr
    rw [hid]
    exact List.contains_iff_mem.mp hmine
  · obtain ⟨frame, -, hmine, hid⟩ := hstream.streamID_res fr hfr
    rw [hid]
    exact of_decide_eq_true hmine

end streamFramer
end PStream
