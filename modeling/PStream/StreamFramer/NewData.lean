import PStream.StreamFramer.Basic

/-!
# New data goes out once, in order

A stream's bytes reach the wire only through `getDataForWriting`, which the closure of the three
`maybePopNormalFrames…` calls with the room left in the packet.  Over a run of the session's send
side in which each `Write` on a stream starts once the framer has taken every byte of the one
before, the frames the pops make for the stream hold the bytes written to it in order, each
starting where the one before ended, with at most one FIN, on the last frame, once every byte
written is out; each fits the room of the pop that makes it (`normalFrames_sent_once`).

The invariant that carries this over a run is `Sending`: what the frames so far carry, followed by
what the stream still holds, is what was written, the frames follow each other up to the stream's
write offset, and a FIN, once sent, was the last frame and came after everything.

The stream's contract asks that Writes on one stream not overlap, and `Write` waits until the
framer has taken all of its bytes or its deadline passes.  Without a deadline a run therefore
starts a `Write` on a stream only once the stream holds no data for writing
(`WritesSynchronized`).  A `Write` that returns at its deadline, though, reports no byte written
while the framer may have sent some of them, and leaves the rest with the stream; the next `Write`
puts its own bytes in their place, and the rest never go out (`normalFrames_lost_after_deadline`).
A Go slice holds fewer than 2^63 bytes.  Offsets are `ByteCount`s, and add up as the source's do,
modulo 2^64.
-/

set_option autoImplicit false

namespace PStream

open Wire

namespace stream

/-- The bytes waiting to be sent, `dataForWriting`. -/
def pending (s : stream) : List UInt8 := s.dataForWriting.getD []

/-- The bytes `Write(p)` hands to the stream: all of `p`, unless it fails at once.  They are what it
reports written unless it returns at its deadline. -/
def bytesWritten (s : stream) (p : List UInt8) : List UInt8 :=
  if s.resetLocally ∨ s.err.isSome ∨ s.finishedWriting then [] else p

/-- `getDataForWriting` hands out the first of the pending bytes and moves the write offset past
them; nothing else of the stream changes. -/
theorem getDataForWriting_spec (s : stream) (maxBytes : ByteCount) :
    ((s.getDataForWriting maxBytes).2.getD []) ++ (s.getDataForWriting maxBytes).1.pending =
        s.pending ∧
      (s.getDataForWriting maxBytes).1.writeOffset =
        s.writeOffset + ((s.getDataForWriting maxBytes).2.getD []).length.toUInt64 ∧
      (s.getDataForWriting maxBytes).1 =
        { s with dataForWriting := (s.getDataForWriting maxBytes).1.dataForWriting
                 writeOffset := (s.getDataForWriting maxBytes).1.writeOffset } := by
  simp only [getDataForWriting]
  split
  · rename_i dataForWriting _ hdata
    split
    · simp [pending, hdata]
    · simp [pending, hdata]
  · simp [pending]

theorem Write_fields (s : stream) (p : List UInt8) :
    (s.Write p).1.streamID = s.streamID ∧ (s.Write p).1.finishedWriting = s.finishedWriting := by
  unfold Write
  split_ifs <;> exact ⟨rfl, rfl⟩

end stream

/-- The calls of a run that writes to the stream `id` and pops its new data: any but a
retransmission pop, and any but the removal of the stream. -/
def SendCall.keepsStream (id : StreamID) : SendCall → Bool
  | .RemoveStream streamID => streamID != id
  | .maybePopFramesForRetransmission _ => false
  | .maybePopFramesForRetransmissionOfPath _ _ => false
  | .maybePopFramesForRetransmissionOfOneStream _ _ => false
  | _ => true

/-- The budget of a pop of new data. -/
def SendCall.maxBytes? : SendCall → Option ByteCount
  | .maybePopNormalFrames maxBytes _ => some maxBytes
  | .maybePopNormalFramesOfPath maxBytes _ _ _ => some maxBytes
  | .maybePopNormalFramesOfOneStream maxBytes _ => some maxBytes
  | _ => none

namespace streamFramer

/-! ## Frames that follow each other -/

/-- The frames follow each other from the offset `a`, each starting where the one before ended,
up to `b`, in `ByteCount` arithmetic. -/
def Consecutive : ByteCount → List StreamFrame → ByteCount → Prop
  | a, [], b => a = b
  | a, f :: fs, b => f.Offset = a ∧ Consecutive (a + f.DataLen) fs b

theorem Consecutive.snoc {a b : ByteCount} {fs : List StreamFrame} {f : StreamFrame}
    (h : Consecutive a fs b) (hf : f.Offset = b) : Consecutive a (fs ++ [f]) (b + f.DataLen) := by
  induction fs generalizing a with
  | nil =>
    have hab : a = b := h
    subst hab
    exact ⟨hf, rfl⟩
  | cons g fs ih => exact ⟨h.1, ih h.2⟩

/-- Where the frames end: past all of their bytes. -/
theorem Consecutive.end_eq {a b : ByteCount} {fs : List StreamFrame} (h : Consecutive a fs b) :
    b = a + (fs.flatMap (·.Data)).length.toUInt64 := by
  induction fs generalizing a with
  | nil =>
    have hab : a = b := h
    rw [← hab]
    simp
  | cons f fs ih =>
    rw [ih h.2, List.flatMap_cons, List.length_append, UInt64.add_assoc]
    exact congrArg (a + ·) (UInt64.ofNat_add _ _).symm

/-- The last of the frames ends at `b`. -/
theorem Consecutive.last_end {a b : ByteCount} {fs : List StreamFrame} {f : StreamFrame}
    (h : Consecutive a (fs ++ [f]) b) : f.Offset + f.DataLen = b := by
  induction fs generalizing a with
  | nil => exact h.1 ▸ h.2
  | cons g fs ih => exact ih h.2

/-! ## What a stream has sent -/

/-- What holds of the stream `s` after the bytes `W` were written to it and the frames `E` went
out for it. -/
structure Sending (W : List UInt8) (E : List StreamFrame) (s : stream) : Prop where
  err : s.err = none
  resetLocally : s.resetLocally = false
  /-- The frames carry the first of the bytes written, the stream holds the rest. -/
  data : E.flatMap (·.Data) ++ s.pending = W
  consecutive : Consecutive 0 E s.writeOffset
  noFin : s.finSent = false → ∀ f ∈ E, f.FinBit = false
  /-- A FIN went out on the last frame, once the stream was closed and had no data left. -/
  fin : s.finSent = true → s.finishedWriting = true ∧ s.dataForWriting = none ∧
    ∃ E' f, E = E' ++ [f] ∧ f.FinBit = true ∧ ∀ f' ∈ E', f'.FinBit = false
  /-- The bytes still held are those of one `Write`, so fewer than 2^63. -/
  short : s.pending.length < 2 ^ 63

theorem sending_newStream (streamID : StreamID) : Sending [] [] (newStream streamID) where
  err := rfl
  resetLocally := rfl
  data := rfl
  consecutive := rfl
  noFin _ _ h := absurd h List.not_mem_nil
  fin h := absurd h Bool.false_ne_true
  short := Nat.two_pow_pos 63

/-- A `Write` started once the one before returned hands its bytes to the stream. -/
theorem Sending.write {W : List UInt8} {E : List StreamFrame} {s : stream} (h : Sending W E s)
    (hnone : s.dataForWriting = none) {p : List UInt8} (hp : p.length < 2 ^ 63) :
    Sending (W ++ s.bytesWritten p) E (s.Write p).1 := by
  have hpending : s.pending = [] := by rw [stream.pending, hnone]; rfl
  by_cases hfin : s.finishedWriting = true
  · -- a write on a closed stream hands over nothing
    have hw : s.Write p = (s, some s!"write on closed stream {s.streamID}") := by
      simp [stream.Write, h.err, h.resetLocally, hfin]
    rw [hw, stream.bytesWritten, if_pos (.inr (.inr hfin)), List.append_nil]
    exact h
  by_cases hp0 : p = []
  · have hw : s.Write p = (s, none) := by simp [stream.Write, h.err, h.resetLocally, hfin, hp0]
    rw [hw, hp0, stream.bytesWritten]
    simpa using h
  have hw : s.Write p = ({ s with dataForWriting := some p }, none) := by
    simp [stream.Write, h.err, h.resetLocally, hfin, hp0]
  have hwritten : s.bytesWritten p = p := by simp [stream.bytesWritten, h.err, h.resetLocally, hfin]
  -- the stream is not closed, so its FIN has not gone out
  have hsent : s.finSent = false := by
    cases hs : s.finSent
    · rfl
    · exact absurd (h.fin hs).1 hfin
  rw [hw, hwritten]
  refine ⟨h.err, h.resetLocally, ?_, h.consecutive, fun _ => h.noFin hsent, fun hs => ?_, hp⟩
  · rw [← h.data, hpending, List.append_nil]
    rfl
  · exact absurd hs (by simp [hsent])

/-- A `Write` that starts while the bytes of one that returned at its deadline are still with the
stream puts its own bytes in their place. -/
theorem Sending.write_pending {W : List UInt8} {E : List StreamFrame} {s : stream} (h : Sending W E s)
    (hopen : s.finishedWriting = false) {p : List UInt8} (hp0 : p ≠ []) (hp : p.length < 2 ^ 63) :
    Sending (E.flatMap (·.Data) ++ p) E (s.Write p).1 := by
  have hw : s.Write p = ({ s with dataForWriting := some p }, none) := by
    simp [stream.Write, h.err, h.resetLocally, hopen, hp0]
  -- the stream is not closed, so its FIN has not gone out
  have hsent : s.finSent = false := by
    cases hs : s.finSent
    · rfl
    · exact absurd (h.fin hs).1 (by simp [hopen])
  rw [hw]
  exact ⟨h.err, h.resetLocally, rfl, h.consecutive, fun _ => h.noFin hsent,
    fun hs => absurd hs (by simp [hsent]), hp⟩

theorem Sending.close {W : List UInt8} {E : List StreamFrame} {s : stream} (h : Sending W E s) :
    Sending W E s.Close :=
  ⟨h.err, h.resetLocally, h.data, h.consecutive, h.noFin, fun hs => ⟨rfl, (h.fin hs).2⟩, h.short⟩

/-- The closure changes nothing else of a stream than its volume for the path. -/
theorem Sending.pathVolume {W : List UInt8} {E : List StreamFrame} {s : stream}
    (h : Sending W E s) (v : PathID → ℚ) : Sending W E { s with pathVolume := v } :=
  ⟨h.err, h.resetLocally, h.data, h.consecutive, h.noFin, h.fin, h.short⟩

/-- At most one of the frames carries a FIN. -/
theorem Sending.length_filter_finBit_le {W : List UInt8} {E : List StreamFrame} {s : stream}
    (h : Sending W E s) : (E.filter (·.FinBit)).length ≤ 1 := by
  cases hsent : s.finSent
  · rw [List.filter_eq_nil_iff.mpr fun f hf => by simp [h.noFin hsent f hf]]
    exact Nat.zero_le 1
  · obtain ⟨-, -, E', f, rfl, hf, hE'⟩ := h.fin hsent
    rw [List.filter_append, List.filter_eq_nil_iff.mpr fun f' hf' => by simp [hE' f' hf']]
    simp [hf]

/-- A frame with a FIN is the last one, and ends past every byte written. -/
theorem Sending.finBit_last {W : List UInt8} {E : List StreamFrame} {s : stream}
    (h : Sending W E s) {fr : StreamFrame} (hfr : fr ∈ E) (hfin : fr.FinBit = true) :
    E.getLast? = some fr ∧ fr.Offset + fr.DataLen = W.length.toUInt64 := by
  -- a FIN among the frames means the stream has sent its FIN
  have hsent : s.finSent = true := by
    cases hs : s.finSent
    · rw [h.noFin hs fr hfr] at hfin
      cases hfin
    · rfl
  obtain ⟨-, hnone, E', f, hE, -, hE'⟩ := h.fin hsent
  have hf : fr = f := by
    rw [hE, List.mem_append, List.mem_singleton] at hfr
    rcases hfr with hfr | hfr
    · rw [hE' fr hfr] at hfin
      cases hfin
    · exact hfr
  subst hf
  -- the stream holds nothing more, so the frames carry all that was written
  have hW : E.flatMap (·.Data) = W := by
    rw [← h.data, stream.pending, hnone, Option.getD_none, List.append_nil]
  have hcons := h.consecutive
  rw [hE] at hcons
  refine ⟨by rw [hE, List.getLast?_concat], ?_⟩
  rw [hcons.last_end, h.consecutive.end_eq, hW, UInt64.zero_add]

/-! ## One call of the closure -/

section PopNormalFrame

variable {mayTake : stream → ByteCount → ByteCount → Bool} {afterPop : stream → ByteCount → stream}
  {maxBytes maxLen : ByteCount} {st : PopState} {s : stream}

/-- What the closure takes from a stream changes it as `getDataForWriting` does. -/
theorem takeData_spec (mayTake : stream → ByteCount → ByteCount → Bool) (s : stream)
    (maxLen : ByteCount) :
    ((takeData mayTake s maxLen).2.getD []) ++ (takeData mayTake s maxLen).1.pending =
        s.pending ∧
      (takeData mayTake s maxLen).1.writeOffset =
        s.writeOffset + ((takeData mayTake s maxLen).2.getD []).length.toUInt64 ∧
      (takeData mayTake s maxLen).1 =
        { s with dataForWriting := (takeData mayTake s maxLen).1.dataForWriting
                 writeOffset := (takeData mayTake s maxLen).1.writeOffset } := by
  simp only [takeData]
  split
  · exact s.getDataForWriting_spec maxLen
  · simp

/-- Nothing is taken from a stream with no data for writing. -/
theorem takeData_of_none (hnone : s.dataForWriting = none) :
    takeData mayTake s maxLen = (s, none) := by
  have hlen : s.lenOfDataForWriting = 0 := by simp [stream.lenOfDataForWriting, hnone]
  simp [takeData, hlen]

/-- When the closure takes nothing, the stream is as it was. -/
theorem takeData_fst_of_snd (h : (takeData mayTake s maxLen).2 = none) :
    (takeData mayTake s maxLen).1 = s := by
  revert h
  simp only [takeData, stream.getDataForWriting]
  split
  · split
    · split <;> simp
    · simp
  · simp

/-- The room the closure leaves for data is at most the room left in the packet. -/
theorem sendLimit_snd_le (fcm : Flowcontrol.flowControlManager) (s : stream) (maxLen : ByteCount) :
    (sendLimit fcm s maxLen).2 ≤ maxLen := by
  simp only [sendLimit]
  split
  · exact Std.min_le_left
  · exact UInt64.le_refl _

@[simp] theorem sendFrame_res (st : PopState) (s : stream) (header : StreamFrame)
    (data : Option (List UInt8)) (w : ByteCount) :
    (sendFrame afterPop maxBytes st s header data w).1.res =
      st.res ++ [{ header with FinBit := s.shouldSendFin, Data := data.getD [] }] := rfl

@[simp] theorem sendFrame_streams (st : PopState) (s : stream) (header : StreamFrame)
    (data : Option (List UInt8)) (w : ByteCount) :
    (sendFrame afterPop maxBytes st s header data w).1.framer.streams = st.framer.streams := rfl

theorem sendFrame_stream (st : PopState) (s : stream) (header : StreamFrame)
    (data : Option (List UInt8)) (w : ByteCount) :
    (sendFrame afterPop maxBytes st s header data w).2.1 =
      afterPop (if s.shouldSendFin then s.sentFin else s) (data.getD []).length.toUInt64 := rfl

theorem sendFrame_currentLen (st : PopState) (s : stream) (header : StreamFrame)
    (data : Option (List UInt8)) (w : ByteCount) :
    (sendFrame afterPop maxBytes st s header data w).1.currentLen =
      st.currentLen + (header.MinLength Protocol.VersionWhatever + (data.getD []).length.toUInt64) :=
  rfl

/-- One call of the closure leaves the state and the stream alone, or sends the frame `sendFrame`
builds from what it takes. -/
theorem popNormalFrame_skip_or_send (mayTake : stream → ByteCount → ByteCount → Bool)
    (afterPop : stream → ByteCount → stream) (maxBytes : ByteCount) (st : PopState) (s : stream) :
    (∃ cont, popNormalFrame mayTake afterPop maxBytes st s = (st, s, cont)) ∨
      ∃ limit : ByteCount × ByteCount,
        limit = sendLimit st.framer.flowControlManager s
          (maxBytes - st.currentLen - (headerFor s).MinLength Protocol.VersionWhatever) ∧
        ¬ st.currentLen + (headerFor s).MinLength Protocol.VersionWhatever > maxBytes ∧
        ((takeData mayTake s limit.2).2.isSome ∨ (takeData mayTake s limit.2).1.shouldSendFin) ∧
        popNormalFrame mayTake afterPop maxBytes st s =
          sendFrame afterPop maxBytes st (takeData mayTake s limit.2).1 (headerFor s)
            (takeData mayTake s limit.2).2 limit.1 := by
  simp only [popNormalFrame]
  split_ifs with h1 h2 h3 h4
  · exact .inl ⟨_, rfl⟩
  · exact .inl ⟨_, rfl⟩
  · exact .inl ⟨_, rfl⟩
  · rw [takeData_fst_of_snd (Option.isNone_iff_eq_none.mp h4.1)]
    exact .inl ⟨_, rfl⟩
  · refine .inr ⟨_, rfl, h2, ?_, rfl⟩
    rw [not_and_or, Option.isNone_iff_eq_none, not_not] at h4
    rcases h4 with h4 | h4
    · exact .inl (Option.ne_none_iff_isSome.mp h4)
    · exact .inr h4

theorem takeData_finishedWriting (mayTake : stream → ByteCount → ByteCount → Bool) (s : stream)
    (maxLen : ByteCount) : (takeData mayTake s maxLen).1.finishedWriting = s.finishedWriting := by
  rw [(takeData_spec mayTake s maxLen).2.2]

/-- The closure keeps the identity of the stream it is given, and whether it is closed. -/
theorem stream_popNormalFrame (hafter : ∀ t n, ∃ v, afterPop t n = { t with pathVolume := v }) :
    (popNormalFrame mayTake afterPop maxBytes st s).2.1.streamID = s.streamID ∧
      (popNormalFrame mayTake afterPop maxBytes st s).2.1.finishedWriting = s.finishedWriting := by
  rcases popNormalFrame_skip_or_send mayTake afterPop maxBytes st s with ⟨_, h⟩ | ⟨_, -, -, -, h⟩
  · rw [h]
    exact ⟨rfl, rfl⟩
  · rw [h, sendFrame_stream]
    obtain ⟨v, hv⟩ := hafter (if (takeData mayTake s _).1.shouldSendFin then
      (takeData mayTake s _).1.sentFin else (takeData mayTake s _).1) _
    rw [hv]
    split <;> exact ⟨takeData_streamID, takeData_finishedWriting ..⟩

theorem streams_popNormalFrame :
    (popNormalFrame mayTake afterPop maxBytes st s).1.framer.streams = st.framer.streams := by
  rcases popNormalFrame_skip_or_send mayTake afterPop maxBytes st s with ⟨_, h⟩ | ⟨_, -, -, -, h⟩
  · rw [h]
  · rw [h, sendFrame_streams]

/-- A frame out of the closure keeps `Sending`: its data is what `getDataForWriting` handed out,
it starts at the stream's write offset, and it carries the FIN when nothing is left to send on a
closed stream. -/
theorem Sending.sendFrame {W : List UInt8} {E : List StreamFrame} (h : Sending W E s)
    (hafter : ∀ t n, ∃ v, afterPop t n = { t with pathVolume := v })
    (hemit : (takeData mayTake s maxLen).2.isSome ∨ (takeData mayTake s maxLen).1.shouldSendFin)
    (w : ByteCount) :
    Sending W (E ++ [{ headerFor s with FinBit := (takeData mayTake s maxLen).1.shouldSendFin
                                        Data := (takeData mayTake s maxLen).2.getD [] }])
      (streamFramer.sendFrame afterPop maxBytes st (takeData mayTake s maxLen).1 (headerFor s)
        (takeData mayTake s maxLen).2 w).2.1 := by
  -- a stream that sent its FIN has nothing left, so nothing goes out of it
  have hsent : s.finSent = false := by
    cases hs : s.finSent
    · rfl
    · rw [takeData_of_none (h.fin hs).2.1] at hemit
      simp [stream.shouldSendFin, hs] at hemit
  obtain ⟨hdata, hoff, heq⟩ := takeData_spec mayTake s maxLen
  generalize takeData mayTake s maxLen = taken at hdata hoff heq hemit ⊢
  obtain ⟨t, d⟩ := taken
  dsimp only at hdata hoff heq hemit ⊢
  have ht : t.err = s.err ∧ t.resetLocally = s.resetLocally ∧ t.finSent = s.finSent ∧
      t.finishedWriting = s.finishedWriting := by
    rw [heq]
    exact ⟨rfl, rfl, rfl, rfl⟩
  -- the frame follows `E` and carries what was taken
  have hcons : Consecutive 0
      (E ++ [{ headerFor s with FinBit := t.shouldSendFin, Data := d.getD [] }]) t.writeOffset := by
    rw [hoff]
    exact h.consecutive.snoc rfl
  have hdata' : (E ++ [{ headerFor s with FinBit := t.shouldSendFin, Data := d.getD [] }]).flatMap
      (fun f : StreamFrame => f.Data) ++ t.pending = W := by
    rw [← h.data, ← hdata]
    simp
  have hshort : t.pending.length < 2 ^ 63 := by
    have hlen := congrArg List.length hdata
    rw [List.length_append] at hlen
    have := h.short
    omega
  rw [sendFrame_stream]
  obtain ⟨v, hv⟩ := hafter (if t.shouldSendFin then t.sentFin else t) (d.getD []).length.toUInt64
  rw [hv]
  apply Sending.pathVolume
  by_cases hfin : t.shouldSendFin = true
  · -- the FIN goes out with this frame
    rw [if_pos hfin]
    have hfw : t.finishedWriting = true ∧ t.dataForWriting = none := by
      simp only [stream.shouldSendFin, Bool.and_eq_true, Bool.not_eq_true',
        Option.isNone_iff_eq_none] at hfin
      exact ⟨hfin.1.1.1, hfin.2⟩
    refine ⟨by rw [← h.err]; exact ht.1, by rw [← h.resetLocally]; exact ht.2.1, hdata', hcons,
      fun hf => absurd hf (by simp [stream.sentFin]), fun _ => ⟨hfw.1, hfw.2, E, _, rfl, hfin,
        h.noFin hsent⟩, hshort⟩
  · rw [if_neg hfin]
    have hfin' : t.shouldSendFin = false := by simpa using hfin
    refine ⟨by rw [← h.err]; exact ht.1, by rw [← h.resetLocally]; exact ht.2.1, hdata', hcons,
      fun _ f hf => ?_, fun hs => absurd (ht.2.2.1 ▸ hs) (by simp [hsent]), hshort⟩
    rcases List.mem_append.mp hf with hf | hf
    · exact h.noFin hsent f hf
    · rw [List.mem_singleton.mp hf]
      exact hfin'

/-! ## The room of a pop -/

/-- A STREAM frame's header takes at most 15 bytes. -/
theorem toNat_MinLength_le (f : StreamFrame) (v : VersionNumber) : (f.MinLength v).toNat ≤ 15 := by
  have h1 : f.calculateStreamIDLength.toUInt64.toNat ≤ 4 := by
    unfold StreamFrame.calculateStreamIDLength
    split_ifs <;> decide
  have h2 : f.getOffsetLength.toNat ≤ 8 := by
    unfold StreamFrame.getOffsetLength
    split_ifs <;> decide
  have h3 : (if f.DataLenPresent then (2 : ByteCount) else 0).toNat ≤ 2 := by
    split_ifs <;> decide
  unfold StreamFrame.MinLength
  simp only [UInt64.toNat_add, UInt64.toNat_one]
  omega

/-- The room a pop has used is within its budget, unless the budget is within 16 bytes of 2^64,
where the source's sums of lengths could wrap. -/
def PopBudget (maxBytes : ByteCount) (st : PopState) : Prop :=
  st.currentLen.toNat ≤ maxBytes.toNat ∨ 2 ^ 64 - 16 ≤ maxBytes.toNat

/-- A frame's header and data fit in `maxBytes`. -/
def FitsBudget (maxBytes : ByteCount) (f : StreamFrame) : Prop :=
  (f.MinLength Protocol.VersionWhatever).toNat + f.DataLen.toNat ≤ maxBytes.toNat

/-- The arithmetic of one frame: a header of `h` bytes that passes the check of the closure after
`c` bytes, and data of `n` bytes within the room left, keep the room used within the budget `m`,
and fit in it when the data is that of one Go slice. -/
theorem budget_step {c h n m : ByteCount} (hb : c.toNat ≤ m.toNat ∨ 2 ^ 64 - 16 ≤ m.toNat)
    (hh : h.toNat ≤ 15) (hchk : ¬ c + h > m) (hn : n ≤ m - c - h) :
    ((c + (h + n)).toNat ≤ m.toNat ∨ 2 ^ 64 - 16 ≤ m.toNat) ∧
      (n.toNat < 2 ^ 63 → h.toNat + n.toNat ≤ m.toNat) := by
  by_cases hm : 2 ^ 64 - 16 ≤ m.toNat
  · exact ⟨.inr hm, fun _ => by omega⟩
  have hc : c.toNat ≤ m.toNat := hb.resolve_right hm
  -- below `2 ^ 64 - 16` no sum of the closure wraps
  have hchk' : c.toNat + h.toNat ≤ m.toNat := by
    simp only [gt_iff_lt, UInt64.lt_iff_toNat_lt, UInt64.toNat_add, not_lt] at hchk
    rwa [Nat.mod_eq_of_lt (by omega)] at hchk
  have hcm : c ≤ m := UInt64.le_iff_toNat_le.mpr hc
  have hhm : h ≤ m - c := UInt64.le_iff_toNat_le.mpr (by rw [UInt64.toNat_sub_of_le _ _ hcm]; omega)
  rw [UInt64.le_iff_toNat_le, UInt64.toNat_sub_of_le _ _ hhm, UInt64.toNat_sub_of_le _ _ hcm] at hn
  refine ⟨.inl ?_, fun _ => by omega⟩
  rw [UInt64.toNat_add, UInt64.toNat_add, Nat.mod_eq_of_lt (by omega : h.toNat + n.toNat < 2 ^ 64),
    Nat.mod_eq_of_lt (by omega)]
  omega

/-- The data the closure takes fits the room left in the packet. -/
theorem length_takeData_le {fcm : Flowcontrol.flowControlManager} {limit : ByteCount × ByteCount}
    (hlimit : limit = sendLimit fcm s maxLen) :
    ((takeData mayTake s limit.2).2.getD []).length.toUInt64 ≤ maxLen := by
  cases hd : (takeData mayTake s limit.2).2 with
  | none => exact UInt64.zero_le
  | some data =>
    exact UInt64.le_trans (takeData_length_le hd) (hlimit ▸ sendLimit_snd_le fcm s maxLen)

theorem popBudget_popNormalFrame (hb : PopBudget maxBytes st) :
    PopBudget maxBytes (popNormalFrame mayTake afterPop maxBytes st s).1 := by
  rcases popNormalFrame_skip_or_send mayTake afterPop maxBytes st s with
    ⟨_, h⟩ | ⟨limit, hlimit, hchk, -, h⟩
  · rw [h]
    exact hb
  · rw [h]
    unfold PopBudget
    rw [sendFrame_currentLen]
    exact (budget_step hb (toNat_MinLength_le _ _) hchk (length_takeData_le hlimit)).1

end PopNormalFrame

/-! ## A pop -/

/-- The map holds each stream under its own ID. -/
def WellKeyed (streams : StreamID → Option stream) : Prop :=
  ∀ k s, streams k = some s → s.streamID = k

/-- What the loop of a pop keeps for the stream `id`, closed or not (`closed`) when the pop began:
the map is keyed by stream IDs, the stream is in it and `Sending`, and every frame the pop made for
it fits the budget and carries a FIN only if the stream was closed. -/
structure LoopInv (id : StreamID) (W : List UInt8) (E : List StreamFrame) (maxBytes : ByteCount)
    (closed : Bool) (st : PopState) : Prop where
  keyed : WellKeyed st.framer.streams
  sending : ∃ s, st.framer.streams id = some s ∧ s.finishedWriting = closed ∧
    Sending W (E ++ st.res.filter (·.StreamID = id)) s
  budget : PopBudget maxBytes st
  fits : ∀ f ∈ st.res, f.StreamID = id → FitsBudget maxBytes f ∧ (f.FinBit = true → closed = true)

/-- The state after the closure ran on the stream at `k`, with that stream written back. -/
def writeBack (k : StreamID) (r : PopState × stream × Bool) : PopState :=
  { r.1 with framer.streams := Function.update r.1.framer.streams k (some r.2.1) }

section Loop

variable {mayTake : stream → ByteCount → ByteCount → Bool} {afterPop : stream → ByteCount → stream}
  {maxBytes : ByteCount} {id : StreamID} {W : List UInt8} {E : List StreamFrame} {closed : Bool}
  {st : PopState} {k : StreamID} {t : stream}

/-- An iteration that sends nothing leaves the invariant as it was. -/
theorem LoopInv.writeBack_skip (h : LoopInv id W E maxBytes closed st)
    (ht : st.framer.streams k = some t) (cont : Bool) :
    LoopInv id W E maxBytes closed (writeBack k (st, t, cont)) := by
  have hst : Function.update st.framer.streams k (some t) = st.framer.streams := by
    rw [← ht]
    exact Function.update_eq_self _ _
  obtain ⟨hkeyed, hsending, hb, hfits⟩ := h
  refine ⟨?_, ?_, hb, hfits⟩
  · simp only [writeBack, hst]
    exact hkeyed
  · simp only [writeBack, hst]
    exact hsending

/-- A frame for another stream leaves the stream `id` alone. -/
theorem LoopInv.send_other (h : LoopInv id W E maxBytes closed st)
    (ht : st.framer.streams k = some t) (hkid : k ≠ id) {t' : stream} {d : Option (List UInt8)}
    {w : ByteCount}
    (hkeyed' : WellKeyed (writeBack k (sendFrame afterPop maxBytes st t' (headerFor t) d w)).framer.streams)
    (hb' : PopBudget maxBytes (sendFrame afterPop maxBytes st t' (headerFor t) d w).1) :
    LoopInv id W E maxBytes closed (writeBack k (sendFrame afterPop maxBytes st t' (headerFor t) d w)) := by
  obtain ⟨hkeyed, ⟨s, hs, hclosed, hsend⟩, -, hfits⟩ := h
  have hne : (headerFor t).StreamID ≠ id := by
    show t.streamID ≠ id
    rw [hkeyed k t ht]
    exact hkid
  refine ⟨hkeyed', ⟨s, ?_, hclosed, ?_⟩, hb', ?_⟩
  · simp only [writeBack, sendFrame_streams]
    rw [Function.update_of_ne (Ne.symm hkid)]
    exact hs
  · simpa [writeBack, hne] using hsend
  · intro f hf hfid
    simp only [writeBack, sendFrame_res, List.mem_append, List.mem_singleton] at hf
    rcases hf with hf | rfl
    · exact hfits f hf hfid
    · exact absurd hfid hne

/-- A frame for the stream `id` keeps its invariant, fits, and carries a FIN only on a closed
stream. -/
theorem LoopInv.send_self (hafter : ∀ t n, ∃ v, afterPop t n = { t with pathVolume := v })
    (h : LoopInv id W E maxBytes closed st) (hs : st.framer.streams id = some t)
    {limit : ByteCount × ByteCount}
    (hlimit : limit = sendLimit st.framer.flowControlManager t
      (maxBytes - st.currentLen - (headerFor t).MinLength Protocol.VersionWhatever))
    (hchk : ¬ st.currentLen + (headerFor t).MinLength Protocol.VersionWhatever > maxBytes)
    (hemit : (takeData mayTake t limit.2).2.isSome ∨ (takeData mayTake t limit.2).1.shouldSendFin)
    (hkeyed' : WellKeyed (writeBack id (sendFrame afterPop maxBytes st (takeData mayTake t limit.2).1
      (headerFor t) (takeData mayTake t limit.2).2 limit.1)).framer.streams)
    (hfw : (sendFrame afterPop maxBytes st (takeData mayTake t limit.2).1 (headerFor t)
      (takeData mayTake t limit.2).2 limit.1).2.1.finishedWriting = t.finishedWriting) :
    LoopInv id W E maxBytes closed (writeBack id (sendFrame afterPop maxBytes st
      (takeData mayTake t limit.2).1 (headerFor t) (takeData mayTake t limit.2).2 limit.1)) := by
  obtain ⟨hkeyed, ⟨s, hs', hclosed, hsend⟩, hb, hfits⟩ := h
  rw [hs] at hs'
  cases hs'
  have hsid : (headerFor t).StreamID = id := hkeyed id t hs
  have hsend' :=
    @Sending.sendFrame mayTake afterPop maxBytes limit.2 st t W _ hsend hafter hemit limit.1
  obtain ⟨hdata, -, -⟩ := takeData_spec mayTake t limit.2
  have hstep := budget_step hb (toNat_MinLength_le (headerFor t) Protocol.VersionWhatever) hchk
    (@length_takeData_le mayTake _ _ _ _ hlimit)
  refine ⟨hkeyed', ⟨_, by simp [writeBack], hfw.trans hclosed, ?_⟩, ?_, ?_⟩
  · simpa [writeBack, hsid] using hsend'
  · unfold PopBudget
    exact hstep.1
  intro f hf hfid
  simp only [writeBack, sendFrame_res, List.mem_append, List.mem_singleton] at hf
  rcases hf with hf | rfl
  · exact hfits f hf hfid
  refine ⟨hstep.2 ?_, fun hfin => ?_⟩
  · -- what is taken is part of one Go slice
    have hlen := congrArg List.length hdata
    rw [List.length_append] at hlen
    have := hsend.short
    have hd : ((takeData mayTake t limit.2).2.getD []).length.toUInt64.toNat =
        ((takeData mayTake t limit.2).2.getD []).length :=
      UInt64.toNat_ofNat_of_lt' (by change _ < 2 ^ 64; omega)
    rw [hd]
    omega
  · have hfin' : (takeData mayTake t limit.2).1.finishedWriting = true := by
      simp only [stream.shouldSendFin, Bool.and_eq_true] at hfin
      exact hfin.1.1.1
    rw [← hclosed, ← takeData_finishedWriting mayTake t limit.2]
    exact hfin'

/-- One iteration of the loop keeps its invariant. -/
theorem LoopInv.iterate (hafter : ∀ t n, ∃ v, afterPop t n = { t with pathVolume := v })
    (h : LoopInv id W E maxBytes closed st) (ht : st.framer.streams k = some t) :
    LoopInv id W E maxBytes closed (writeBack k (popNormalFrame mayTake afterPop maxBytes st t)) := by
  rcases popNormalFrame_skip_or_send mayTake afterPop maxBytes st t with
    ⟨cont, hr⟩ | ⟨limit, hlimit, hchk, hemit, hr⟩
  · rw [hr]
    exact h.writeBack_skip ht cont
  obtain ⟨hsid, hfw⟩ : (popNormalFrame mayTake afterPop maxBytes st t).2.1.streamID = t.streamID ∧
      (popNormalFrame mayTake afterPop maxBytes st t).2.1.finishedWriting = t.finishedWriting :=
    stream_popNormalFrame hafter
  have hb' : PopBudget maxBytes (popNormalFrame mayTake afterPop maxBytes st t).1 :=
    popBudget_popNormalFrame h.budget
  -- the stream written back keeps its key
  have hkeyed' :
      WellKeyed (writeBack k (popNormalFrame mayTake afterPop maxBytes st t)).framer.streams := by
    intro k' t' h'
    simp only [writeBack, streams_popNormalFrame] at h'
    by_cases hk : k' = k
    · subst hk
      rw [Function.update_self] at h'
      cases h'
      rw [hsid, h.keyed k' t ht]
    · rw [Function.update_of_ne hk] at h'
      exact h.keyed k' t' h'
  rw [hr] at hkeyed' hb' hfw ⊢
  by_cases hkid : k = id
  · subst hkid
    exact h.send_self hafter ht hlimit hchk hemit hkeyed' hfw
  · exact h.send_other ht hkid hkeyed' hb'

/-- The loop over the streams keeps its invariant. -/
theorem LoopInv.popNormalLoop (hafter : ∀ t n, ∃ v, afterPop t n = { t with pathVolume := v }) :
    ∀ (ids : List StreamID) {st : PopState}, LoopInv id W E maxBytes closed st →
      LoopInv id W E maxBytes closed (streamFramer.popNormalLoop mayTake afterPop maxBytes st ids)
  | [], _, h => h
  | k :: ids, st, h => by
    rw [streamFramer.popNormalLoop]
    split
    · exact LoopInv.popNormalLoop hafter ids h
    · rename_i t ht
      have h' : LoopInv id W E maxBytes closed
          (writeBack k (popNormalFrame mayTake afterPop maxBytes st t)) := h.iterate hafter ht
      generalize popNormalFrame mayTake afterPop maxBytes st t = r at h' ⊢
      obtain ⟨st', t', cont⟩ := r
      dsimp only
      split_ifs
      · exact LoopInv.popNormalLoop hafter ids h'
      · exact h'

end Loop

/-! ## A call, and a run -/

theorem streams_updateStream (f : streamFramer) (k k' : StreamID) (g : stream → stream) :
    (f.updateStream k g).streams k' = if k' = k then (f.streams k).map g else f.streams k' := by
  unfold updateStream
  split
  · rename_i h
    split_ifs with hk
    · rw [hk, h]
      rfl
    · rfl
  · rename_i s h
    split_ifs with hk
    · rw [hk]
      dsimp only
      rw [Function.update_self, h]
      rfl
    · exact Function.update_of_ne hk _ _

theorem WellKeyed.updateStream {f : streamFramer} (h : WellKeyed f.streams) (k : StreamID)
    {g : stream → stream} (hg : ∀ t, (g t).streamID = t.streamID) :
    WellKeyed (f.updateStream k g).streams := by
  intro k' t' ht'
  rw [streams_updateStream] at ht'
  split_ifs at ht' with hk
  · obtain ⟨t, ht, rfl⟩ := Option.map_eq_some_iff.mp ht'
    rw [hg, h k t ht, hk]
  · exact h k' t' ht'

/-- The bytes a call writes to the stream `id`: those its `Write` hands over. -/
def writtenBy (id : StreamID) (f : streamFramer) : SendCall → List UInt8
  | .Write streamID p =>
    if streamID = id then ((f.streams id).map (·.bytesWritten p)).getD [] else []
  | _ => []

/-- The bytes the calls write to the stream `id`, in order. -/
def written (id : StreamID) : streamFramer → List SendCall → List UInt8
  | _, [] => []
  | f, call :: calls => writtenBy id f call ++ written id (f.step call).1 calls

/-- Every `Write` on the stream `id` starts once the framer has taken every byte of the one before,
that is once the stream holds no data for writing: no `Write` returned at its deadline with bytes
left. -/
def WritesSynchronized (id : StreamID) (f : streamFramer) (calls : List SendCall) : Prop :=
  ∀ pre p post, calls = pre ++ .Write id p :: post →
    ∀ s, (f.run pre).1.streams id = some s → s.dataForWriting = none

theorem run_cons_snd (f : streamFramer) (call : SendCall) (calls : List SendCall) :
    (f.run (call :: calls)).2 = (f.step call).2 ++ ((f.step call).1.run calls).2 := rfl

theorem run_append_snd (f : streamFramer) (pre post : List SendCall) :
    (f.run (pre ++ post)).2 = (f.run pre).2 ++ ((f.run pre).1.run post).2 := by
  induction pre generalizing f with
  | nil => rfl
  | cons c pre ih => rw [List.cons_append, run_cons_snd, run_cons_snd, ih, List.append_assoc]; rfl

theorem written_append (id : StreamID) (f : streamFramer) (pre post : List SendCall) :
    written id f (pre ++ post) = written id f pre ++ written id (f.run pre).1 post := by
  induction pre generalizing f with
  | nil => rfl
  | cons c pre ih => rw [List.cons_append, written, written, ih, List.append_assoc]; rfl

/-- A pop of new data writes nothing and is no `Write`. -/
theorem SendCall.pop_keepsStream {c : SendCall} (hc : c.maxBytes?.isSome) (id : StreamID) :
    c.keepsStream id = true ∧ (∀ p, c ≠ .Write id p) ∧ ∀ f, writtenBy id f c = [] := by
  cases c <;> simp_all [SendCall.maxBytes?, SendCall.keepsStream, writtenBy]

/-- Whether a call may start: a `Write` on `id` only once the stream holds no data for writing. -/
def writeReady (id : StreamID) (f : streamFramer) : SendCall → Bool
  | .Write streamID _ => streamID != id || (f.streams id).all (·.dataForWriting.isNone)
  | _ => true

/-- `WritesSynchronized`, checked call by call along the run. -/
def writesSynchronized (id : StreamID) : streamFramer → List SendCall → Bool
  | _, [] => true
  | f, call :: calls => writeReady id f call && writesSynchronized id (f.step call).1 calls

section Call

variable {id : StreamID} {f : streamFramer} {s : stream} {W : List UInt8} {E : List StreamFrame}

theorem writeReady_iff (c : SendCall) : writeReady id f c = true ↔
    ∀ p, c = .Write id p → ∀ s, f.streams id = some s → s.dataForWriting = none := by
  cases c with
  | Write streamID p =>
    by_cases hid : streamID = id
    · subst hid
      cases hs : f.streams streamID <;> simp [writeReady, hs]
    · simp [writeReady, hid]
  | _ => simp [writeReady]

theorem WritesSynchronized.tail {c : SendCall} {calls : List SendCall}
    (h : WritesSynchronized id f (c :: calls)) : WritesSynchronized id (f.step c).1 calls :=
  fun pre p post hcalls => h (c :: pre) p post (by rw [hcalls]; rfl)

theorem WritesSynchronized.of_append {pre post : List SendCall}
    (h : WritesSynchronized id f (pre ++ post)) : WritesSynchronized id f pre :=
  fun pre' p post' hpre => h pre' p (post' ++ post) (by rw [hpre, List.append_assoc, List.cons_append])

theorem writesSynchronized_cons {c : SendCall} {calls : List SendCall} :
    WritesSynchronized id f (c :: calls) ↔
      (∀ p, c = .Write id p → ∀ s, f.streams id = some s → s.dataForWriting = none) ∧
        WritesSynchronized id (f.step c).1 calls := by
  constructor
  · intro h
    exact ⟨fun p hc => h [] p calls (by rw [hc]; rfl), h.tail⟩
  · rintro ⟨hhead, htail⟩ (_ | ⟨c', pre⟩) p post hcalls
    · -- the Write is this call
      exact hhead p (List.cons.inj hcalls).1
    · obtain ⟨rfl, hrest⟩ := List.cons.inj hcalls
      exact htail pre p post hrest

/-- The check decides `WritesSynchronized`. -/
theorem writesSynchronized_iff : ∀ (f : streamFramer) (calls : List SendCall),
    writesSynchronized id f calls = true ↔ WritesSynchronized id f calls
  | f, [] => by
    simp only [writesSynchronized, true_iff]
    intro pre p post h
    simp at h
  | f, c :: calls => by
    rw [writesSynchronized, Bool.and_eq_true, writeReady_iff, writesSynchronized_iff,
      writesSynchronized_cons]

instance (id : StreamID) (f : streamFramer) (calls : List SendCall) :
    Decidable (WritesSynchronized id f calls) :=
  decidable_of_iff _ (writesSynchronized_iff f calls)

/-- What a call does for the stream `id`: the map stays keyed and the stream `Sending`, it is
closed only if it was or the call closes it, and the frames it gets carry a FIN only if it was
closed, and fit the budget of the call. -/
def StepSending (id : StreamID) (f : streamFramer) (s : stream) (W : List UInt8)
    (E : List StreamFrame) (c : SendCall) : Prop :=
  WellKeyed (f.step c).1.streams ∧ ∃ s', (f.step c).1.streams id = some s' ∧
    Sending (W ++ writtenBy id f c) (E ++ (f.step c).2.filter (·.StreamID = id)) s' ∧
    (s'.finishedWriting = true → s.finishedWriting = true ∨ c = .Close id) ∧
    ∀ fr ∈ (f.step c).2, fr.StreamID = id →
      (fr.FinBit = true → s.finishedWriting = true) ∧
      ∀ maxBytes, c.maxBytes? = some maxBytes → FitsBudget maxBytes fr

/-- A call that neither touches the map nor pops anything. -/
theorem stepSending_of_streams (hkeyed : WellKeyed f.streams) (hs : f.streams id = some s)
    (h : Sending W E s) {c : SendCall} (hstreams : (f.step c).1.streams = f.streams)
    (hout : (f.step c).2 = []) (hw : writtenBy id f c = []) : StepSending id f s W E c := by
  refine ⟨hstreams ▸ hkeyed, s, hstreams ▸ hs, ?_, fun hf => .inl hf, ?_⟩
  · rw [hw, hout, List.append_nil, List.filter_nil, List.append_nil]
    exact h
  · rw [hout]
    exact fun fr hfr => absurd hfr List.not_mem_nil

/-- A pop of new data, with the closure `mayTake` and `afterPop`. -/
theorem stepSending_of_pop {mayTake : stream → ByteCount → ByteCount → Bool}
    {afterPop : stream → ByteCount → stream}
    (hafter : ∀ t n, ∃ v, afterPop t n = { t with pathVolume := v })
    (hkeyed : WellKeyed f.streams) (hs : f.streams id = some s) (h : Sending W E s)
    {c : SendCall} {maxBytes : ByteCount} {ids : List StreamID}
    (hstep : f.step c = popNormalFrames mayTake afterPop f maxBytes ids)
    (hmax : c.maxBytes? = some maxBytes) (hw : writtenBy id f c = []) :
    StepSending id f s W E c := by
  obtain ⟨hk, ⟨s', hs', hfw, hsend⟩, -, hfits⟩ := LoopInv.popNormalLoop hafter ids
    (⟨hkeyed, ⟨s, hs, rfl, by simpa using h⟩, .inl (Nat.zero_le _),
      fun _ h => absurd h List.not_mem_nil⟩ :
      LoopInv id W E maxBytes s.finishedWriting ⟨f, 0, []⟩)
  rw [StepSending, hstep, hw, List.append_nil]
  refine ⟨hk, s', hs', hsend, fun hf => .inl (hfw ▸ hf), fun fr hfr hid => ⟨(hfits fr hfr hid).2, ?_⟩⟩
  intro m hm
  rw [hmax, Option.some.injEq] at hm
  exact hm ▸ (hfits fr hfr hid).1

theorem afterPop_id (t : stream) (n : ByteCount) :
    ∃ v, (fun s _ => s : stream → ByteCount → stream) t n = { t with pathVolume := v } :=
  ⟨t.pathVolume, rfl⟩

theorem afterPop_lowerPathVolume (pathID : PathID) (t : stream) (n : ByteCount) :
    ∃ v, lowerPathVolume pathID t n = { t with pathVolume := v } := ⟨_, rfl⟩

/-- Every call a run may make keeps the stream `id` sending its new data in order. -/
theorem stepSending (hkeyed : WellKeyed f.streams) (hs : f.streams id = some s)
    (h : Sending W E s) {c : SendCall} (hc : c.keepsStream id = true)
    (hsync : ∀ p, c = .Write id p → s.dataForWriting = none)
    (hlen : ∀ p, c = .Write id p → p.length < 2 ^ 63) : StepSending id f s W E c := by
  cases c with
  | NewStream streamID b => exact stepSending_of_streams hkeyed hs h rfl rfl rfl
  | UpdateWindow streamID offset => exact stepSending_of_streams hkeyed hs h rfl rfl rfl
  | RemoveStream streamID =>
    have hne : streamID ≠ id := by simpa [SendCall.keepsStream] using hc
    refine ⟨fun k t ht => ?_, s, ?_, by simpa [writtenBy, step] using h, fun hf => .inl hf, ?_⟩
    · simp only [step] at ht
      by_cases hk : k = streamID
      · rw [hk, Function.update_self] at ht
        cases ht
      · rw [Function.update_of_ne hk] at ht
        exact hkeyed k t ht
    · simp only [step]
      rw [Function.update_of_ne (Ne.symm hne)]
      exact hs
    · exact fun fr hfr => absurd hfr List.not_mem_nil
  | Write streamID p =>
    by_cases hid : streamID = id
    · subst hid
      refine ⟨hkeyed.updateStream streamID fun t => (stream.Write_fields t p).1, (s.Write p).1,
        by simp [step, streams_updateStream, hs], ?_, fun hf => .inl ?_,
        fun fr hfr => absurd hfr List.not_mem_nil⟩
      · simpa [writtenBy, step, hs] using h.write (hsync p rfl) (hlen p rfl)
      · rwa [(stream.Write_fields s p).2] at hf
    · refine ⟨hkeyed.updateStream streamID fun t => (stream.Write_fields t p).1, s, ?_,
        by simpa [writtenBy, step, hid] using h, fun hf => .inl hf,
        fun fr hfr => absurd hfr List.not_mem_nil⟩
      simp only [step]
      rw [streams_updateStream, if_neg (Ne.symm hid)]
      exact hs
  | Close streamID =>
    by_cases hid : streamID = id
    · subst hid
      refine ⟨hkeyed.updateStream streamID fun t => rfl, s.Close,
        by simp [step, streams_updateStream, hs], by simpa [writtenBy, step, hs] using h.close,
        fun _ => .inr rfl, fun fr hfr => absurd hfr List.not_mem_nil⟩
    · refine ⟨hkeyed.updateStream streamID fun t => rfl, s, ?_,
        by simpa [writtenBy, step, hid] using h, fun hf => .inl hf,
        fun fr hfr => absurd hfr List.not_mem_nil⟩
      simp only [step]
      rw [streams_updateStream, if_neg (Ne.symm hid)]
      exact hs
  | maybePopNormalFrames maxBytes ids => exact stepSending_of_pop afterPop_id hkeyed hs h rfl rfl rfl
  | maybePopNormalFramesOfPath maxBytes pathID pathScheduler ids =>
    exact stepSending_of_pop (afterPop_lowerPathVolume pathID) hkeyed hs h rfl rfl rfl
  | maybePopNormalFramesOfOneStream maxBytes streamID =>
    exact stepSending_of_pop afterPop_id hkeyed hs h rfl rfl rfl
  | maybePopFramesForRetransmission _ => simp [SendCall.keepsStream] at hc
  | maybePopFramesForRetransmissionOfPath _ _ => simp [SendCall.keepsStream] at hc
  | maybePopFramesForRetransmissionOfOneStream _ _ => simp [SendCall.keepsStream] at hc

end Call

/-- Over a run of calls that keep the stream `id`, with its Writes synchronized and short, the
stream stays `Sending` what the run wrote and the frames the run popped for it, and it is closed
only if it was or the run closes it. -/
theorem run_sending (id : StreamID) : ∀ (calls : List SendCall) (f : streamFramer) (s : stream)
    (W : List UInt8) (E : List StreamFrame), WellKeyed f.streams → f.streams id = some s →
    Sending W E s → (∀ c ∈ calls, c.keepsStream id = true) → WritesSynchronized id f calls →
    (∀ p, SendCall.Write id p ∈ calls → p.length < 2 ^ 63) →
    WellKeyed (f.run calls).1.streams ∧ ∃ s', (f.run calls).1.streams id = some s' ∧
      Sending (W ++ written id f calls) (E ++ (f.run calls).2.filter (·.StreamID = id)) s' ∧
      (s'.finishedWriting = true → s.finishedWriting = true ∨ SendCall.Close id ∈ calls)
  | [], f, s, W, E, hkeyed, hs, h, _, _, _ =>
    ⟨hkeyed, s, hs, by simpa [written, run] using h, fun hf => .inl hf⟩
  | c :: calls, f, s, W, E, hkeyed, hs, h, hcalls, hsync, hlen => by
    -- the first call keeps the stream sending; the rest of the run starts from there
    obtain ⟨hkeyed₁, s₁, hs₁, h₁, hclosed₁, -⟩ := stepSending hkeyed hs h
      (hcalls c List.mem_cons_self) (fun p hc => hsync [] p calls (by rw [hc]; rfl) s hs)
      (fun p hc => hlen p (hc ▸ List.mem_cons_self))
    obtain ⟨hkeyed', s', hs', h', hclosed'⟩ := run_sending id calls (f.step c).1 s₁ _ _ hkeyed₁
      hs₁ h₁ (fun c' hc' => hcalls c' (List.mem_cons_of_mem c hc')) hsync.tail
      (fun p hp => hlen p (List.mem_cons_of_mem c hp))
    refine ⟨hkeyed', s', hs', ?_, fun hf => ?_⟩
    · simpa only [written, run_cons_snd, List.filter_append, List.append_assoc] using h'
    · rcases hclosed' hf with hf₁ | hmem
      · rcases hclosed₁ hf₁ with hf₀ | rfl
        · exact .inl hf₀
        · exact .inr List.mem_cons_self
      · exact .inr (List.mem_cons_of_mem c hmem)

/-- `run_sending` from a new stream: it ends `Sending` what the run wrote and popped for it, and
closed only if the run closed it. -/
theorem run_sending_newStream {f : streamFramer} {id : StreamID} {calls : List SendCall}
    (hkeyed : WellKeyed f.streams)
    (hnew : ∃ v, f.streams id = some { newStream id with pathVolume := v })
    (hcalls : ∀ c ∈ calls, c.keepsStream id = true) (hsync : WritesSynchronized id f calls)
    (hlen : ∀ p, SendCall.Write id p ∈ calls → p.length < 2 ^ 63) :
    WellKeyed (f.run calls).1.streams ∧ ∃ s', (f.run calls).1.streams id = some s' ∧
      Sending (written id f calls) ((f.run calls).2.filter (·.StreamID = id)) s' ∧
      (s'.finishedWriting = true → SendCall.Close id ∈ calls) := by
  obtain ⟨v, hnew⟩ := hnew
  obtain ⟨hk, s', hs', hsend, hclosed⟩ := run_sending id calls f _ [] [] hkeyed hnew
    ((sending_newStream id).pathVolume v) hcalls hsync hlen
  rw [List.nil_append, List.nil_append] at hsend
  -- a new stream is open, so only a `Close` of the run can have closed it
  exact ⟨hk, s', hs', hsend, fun hf => (hclosed hf).resolve_left Bool.false_ne_true⟩

/-- Over any run of the send side that writes to a new stream `id`, with any volumes for the
paths, and pops its new data, the frames popped for `id` follow each other from offset 0 and
carry a prefix of the bytes written, at most one of them has a FIN, and that one is the last and
ends past every byte written.  A frame of a pop gets a FIN only after a `Close`, and fits the
room of the pop. -/
theorem normalFrames_sent_once (f : streamFramer) (id : StreamID) (calls : List SendCall)
    (hkeyed : WellKeyed f.streams)
    (hnew : ∃ v, f.streams id = some { newStream id with pathVolume := v })
    (hcalls : ∀ c ∈ calls, c.keepsStream id = true) (hsync : WritesSynchronized id f calls)
    (hlen : ∀ p, SendCall.Write id p ∈ calls → p.length < 2 ^ 63) :
    let frames := (f.run calls).2.filter (·.StreamID = id)
    (∃ o, Consecutive 0 frames o) ∧ frames.flatMap (·.Data) <+: written id f calls ∧
      (frames.filter (·.FinBit)).length ≤ 1 ∧
      (∀ fr ∈ frames, fr.FinBit = true →
        frames.getLast? = some fr ∧ fr.Offset + fr.DataLen = (written id f calls).length.toUInt64) ∧
      ∀ pre c post, calls = pre ++ c :: post → ∀ fr ∈ ((f.run pre).1.step c).2, fr.StreamID = id →
        (fr.FinBit = true → SendCall.Close id ∈ pre) ∧
        ∀ maxBytes, c.maxBytes? = some maxBytes → FitsBudget maxBytes fr := by
  intro frames
  obtain ⟨-, s', -, hsend, -⟩ := run_sending_newStream hkeyed hnew hcalls hsync hlen
  refine ⟨⟨_, hsend.consecutive⟩, ⟨s'.pending, hsend.data⟩, hsend.length_filter_finBit_le,
    fun fr hfr hfin => hsend.finBit_last hfr hfin, fun pre c post hsplit => ?_⟩
  -- the run up to the call keeps the stream sending, and the call's own step does the rest
  rw [hsplit] at hcalls hsync hlen
  obtain ⟨hkeyed₀, s₀, hs₀, h₀, hclosed₀⟩ := run_sending_newStream hkeyed hnew
    (fun c' hc' => hcalls c' (List.mem_append_left _ hc'))
    hsync.of_append (fun p hp => hlen p (List.mem_append_left _ hp))
  have hc : c ∈ pre ++ c :: post := List.mem_append_right _ List.mem_cons_self
  obtain ⟨-, -, -, -, -, hframes⟩ := stepSending hkeyed₀ hs₀ h₀ (hcalls c hc)
    (fun p hw => hsync pre p post (by rw [hw]) s₀ hs₀) (fun p hw => hlen p (hw ▸ hc))
  intro fr hfr hid
  exact ⟨fun hfin => hclosed₀ ((hframes fr hfr hid).1 hfin), (hframes fr hfr hid).2⟩

/-- A new session with stream 5 open and nothing written to it. -/
def framerOfStream5 : streamFramer :=
  ⟨fun id => if id = 5 then some (newStream 5) else none,
    Flowcontrol.NewFlowControlManager (Flowcontrol.NewConnectionParamatersManager 1048576 1572864),
    [], []⟩

/-- Three bytes written to stream 5 and popped, then the stream closed and popped again. -/
def writeThenClose : List SendCall :=
  [.NewStream 5 true, .Write 5 [1, 2, 3], .maybePopNormalFramesOfOneStream 1350 5, .Close 5,
    .maybePopNormalFramesOfOneStream 1350 5]

theorem wellKeyed_framerOfStream5 : WellKeyed framerOfStream5.streams := by
  intro k s h
  simp only [framerOfStream5] at h
  split_ifs at h with hk
  cases h
  exact hk.symm

theorem normalFrames_sent_once_writeThenClose :
    let frames := (framerOfStream5.run writeThenClose).2.filter (·.StreamID = 5)
    (∃ o, Consecutive 0 frames o) ∧ frames.flatMap (·.Data) <+: written 5 framerOfStream5 writeThenClose ∧
      (frames.filter (·.FinBit)).length ≤ 1 ∧
      (∀ fr ∈ frames, fr.FinBit = true → frames.getLast? = some fr ∧
        fr.Offset + fr.DataLen = (written 5 framerOfStream5 writeThenClose).length.toUInt64) ∧
      ∀ pre c post, writeThenClose = pre ++ c :: post →
        ∀ fr ∈ ((framerOfStream5.run pre).1.step c).2, fr.StreamID = 5 →
        (fr.FinBit = true → SendCall.Close 5 ∈ pre) ∧
        ∀ maxBytes, c.maxBytes? = some maxBytes → FitsBudget maxBytes fr :=
  normalFrames_sent_once framerOfStream5 5 writeThenClose wellKeyed_framerOfStream5 ⟨_, rfl⟩
    (by decide) (by decide) (by simp [writeThenClose])

/-- Bytes that start as `p` do are no prefix of `a ++ p` when `a` starts otherwise. -/
theorem not_prefix_append_of_head? {D p a : List UInt8} (hD : D ≠ []) (hDp : D <+: p)
    (ha : a ≠ []) (hhead : p.head? ≠ a.head?) : ¬ D <+: a ++ p := by
  rintro ⟨t', ht'⟩
  obtain ⟨t, ht⟩ := hDp
  apply hhead
  rw [← ht, List.head?_append_of_ne_nil _ hD, ← List.head?_append_of_ne_nil _ ha, ← ht',
    List.head?_append_of_ne_nil _ hD]

/-- A `Write` that returns at its deadline reports no byte written, though the framer may have
taken some of its bytes, and it leaves the rest with the stream, where the next `Write` puts its
own in their place.  So after any run that writes to a new stream `id` and leaves it holding bytes
of a `Write`, a `Write` of bytes that start otherwise, followed by a pop that sends some of them,
makes the frames for `id` carry what is not a prefix of the bytes written: the bytes left are never
sent. -/
theorem normalFrames_lost_after_deadline (f : streamFramer) (id : StreamID) (pre : List SendCall)
    (hkeyed : WellKeyed f.streams)
    (hnew : ∃ v, f.streams id = some { newStream id with pathVolume := v })
    (hcalls : ∀ c ∈ pre, c.keepsStream id = true) (hsync : WritesSynchronized id f pre)
    (hlen : ∀ p, SendCall.Write id p ∈ pre → p.length < 2 ^ 63)
    {s : stream} (hs : (f.run pre).1.streams id = some s) (hwaiting : s.pending ≠ [])
    (hopen : s.finishedWriting = false) {p : List UInt8} (hp : p ≠ []) (hplen : p.length < 2 ^ 63)
    (hfirst : p.head? ≠ s.pending.head?) {c : SendCall} (hpop : c.maxBytes?.isSome)
    (hsent : ((((f.run pre).1.step (.Write id p)).1.step c).2.filter (·.StreamID = id)).flatMap
      (·.Data) ≠ []) :
    let calls := pre ++ [.Write id p, c]
    ¬ ((f.run calls).2.filter (·.StreamID = id)).flatMap (·.Data) <+: written id f calls := by
  intro calls
  obtain ⟨hkeyed₀, s₀, hs₀, h₀, -⟩ := run_sending_newStream hkeyed hnew hcalls hsync hlen
  rw [Option.some.inj (hs₀.symm.trans hs)] at h₀
  set E := (f.run pre).2.filter (·.StreamID = id) with hE
  set f₁ := ((f.run pre).1.step (.Write id p)).1 with hf₁
  set D := ((f₁.step c).2.filter (·.StreamID = id)).flatMap (·.Data) with hD
  -- the Write puts its bytes in the place of those left, and the pop sends the first of them
  have hs₁ : f₁.streams id = some (s.Write p).1 := by simp [hf₁, step, streams_updateStream, hs]
  obtain ⟨hkeeps, hnotWrite, hnothing⟩ := SendCall.pop_keepsStream hpop id
  obtain ⟨-, s₂, -, h₂, -⟩ := stepSending
    (hkeyed₀.updateStream id fun t => (stream.Write_fields t p).1) hs₁ (h₀.write_pending hopen hp hplen)
    hkeeps (fun q hq => absurd hq (hnotWrite q)) (fun q hq => absurd hq (hnotWrite q))
  have hDp : D <+: p := by
    have hdata := h₂.data
    rw [hnothing, List.append_nil, List.flatMap_append, List.append_assoc] at hdata
    exact ⟨_, List.append_cancel_left hdata⟩
  -- what the Writes handed over: the bytes of the run, and then all of `p`
  have hwritten : written id f calls = E.flatMap (·.Data) ++ s.pending ++ p := by
    have hp' : s.bytesWritten p = p := by simp [stream.bytesWritten, h₀.err, h₀.resetLocally, hopen]
    rw [written_append, h₀.data, written, written, hnothing, written]
    simp [writtenBy, hs, hp']
  have hframes : ((f.run calls).2.filter (·.StreamID = id)).flatMap (·.Data) =
      E.flatMap (·.Data) ++ D := by
    simp [calls, run_append_snd, hE, hD, hf₁, step, run]
  rw [hwritten, hframes, List.append_assoc, List.prefix_append_right_inj]
  exact not_prefix_append_of_head? hsent hDp hwaiting hfirst

/-- Three bytes written to stream 5, of which a pop of five bytes takes one; the `Write` returns at
its deadline, and a `Write` of the byte 7 and a pop follow. -/
theorem normalFrames_lost_after_deadline_stream5 :
    let pre : List SendCall :=
      [.NewStream 5 true, .Write 5 [1, 2, 3], .maybePopNormalFramesOfOneStream 5 5]
    let calls := pre ++ [.Write 5 [7], .maybePopNormalFramesOfOneStream 1350 5]
    ¬ ((framerOfStream5.run calls).2.filter (·.StreamID = 5)).flatMap (·.Data) <+:
      written 5 framerOfStream5 calls :=
  normalFrames_lost_after_deadline framerOfStream5 5 _ wellKeyed_framerOfStream5 ⟨_, rfl⟩
    (by decide) (by decide) (by simp) rfl (by decide) rfl (by decide) (by decide) (by decide) rfl
    (by decide)

end streamFramer

end PStream
