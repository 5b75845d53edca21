import PStream.StreamsMap

/-!
# Round-robin iteration over the open streams

`RoundRobinIterate` gives the crypto and header streams, 1 and 3, to its closure first, and then
walks `openStreams` once around, starting at `roundRobinIndex` and skipping 1 and 3.  The
framer's closures change the framer as they go, so a closure here carries a state of its own.

* `RoundRobinIterate_isSome`: where `openStreams` has as many entries as the map, the walk never
  indexes it out of range.
* `roundRobinIterate_resumes_before_next`: the cursor moves on by one for each stream served, but
  the walk also passes over streams 1 and 3, which stand in `openStreams` like any other.  On a
  server whose client opened the streams 1, 3, 5 and 7, a call that stops after serving stream 5
  leaves the cursor at position 1.  The next call therefore serves stream 5 first again, where the
  round robin would go on with stream 7.
-/

set_option autoImplicit false

namespace PStream
namespace StreamsMap

variable {S σ : Type}

/-- `iterateFunc`, for a closure that carries the state `σ`. -/
def iterateFuncWith (m : StreamsMap S) (id : StreamID) (fn : S → σ → (Bool × Option String) × σ)
    (st : σ) : (Bool × Option String) × σ :=
  match m.lookup id with
  | none => ((true, some errMapAccess), st)
  | some s => fn s st

/-- A closure without a state of its own is one whose state does not change. -/
theorem iterateFunc_eq_iterateFuncWith (m : StreamsMap S) (id : StreamID)
    (fn : S → Bool × Option String) :
    m.iterateFunc id fn = (m.iterateFuncWith id (fun s (_ : Unit) => (fn s, ())) ()).1 := by
  simp only [iterateFunc, iterateFuncWith]
  cases m.lookup id <;> rfl

/-- The first loop of `RoundRobinIterate`, over the streams `ids`: `some err` ends the call with
`err`, after an error other than `errMapAccess` or when the closure stops; `none` goes on. -/
def priorityLoop (m : StreamsMap S) (fn : S → σ → (Bool × Option String) × σ) :
    List StreamID → σ → Option (Option String) × σ
  | [], st => (none, st)
  | id :: ids, st =>
    match m.iterateFuncWith id fn st with
    | ((cont, err), st) =>
      if err.isSome ∧ err ≠ some errMapAccess then (some err, st)
      else if !cont then (some none, st)
      else m.priorityLoop fn ids st

/-- The second loop of `RoundRobinIterate` at iteration `i`, with `k` iterations left and the
cursor at `roundRobinIndex`: the cursor, the error, and the closure's state.  The stream at
position `(i + startIndex) % numStreams` is served unless it is stream 1 or 3, and only a served
stream moves the cursor.  An index past `openStreams` panics. -/
def roundRobinLoop (m : StreamsMap S) (fn : S → σ → (Bool × Option String) × σ)
    (numStreams startIndex : UInt32) :
    Nat → UInt32 → UInt32 → σ → Option (UInt32 × Option String × σ)
  | 0, _, roundRobinIndex, st => some (roundRobinIndex, none, st)
  | k + 1, i, roundRobinIndex, st =>
    match m.openStreams[((i + startIndex) % numStreams).toNat]? with
    | none => none
    | some streamID =>
      if streamID = 1 ∨ streamID = 3 then
        m.roundRobinLoop fn numStreams startIndex k (i + 1) roundRobinIndex st
      else
        match m.iterateFuncWith streamID fn st with
        | ((_, some e), st) => some (roundRobinIndex, some e, st)
        | ((cont, none), st) =>
          let roundRobinIndex := (roundRobinIndex + 1) % numStreams
          if cont then m.roundRobinLoop fn numStreams startIndex k (i + 1) roundRobinIndex st
          else some (roundRobinIndex, none, st)

/-- `RoundRobinIterate`: the map with its new cursor, and the error the call returns. -/
def RoundRobinIterate (m : StreamsMap S) (fn : S → σ → (Bool × Option String) × σ) (st : σ) :
    Option ((StreamsMap S × Option String) × σ) :=
  let numStreams := m.streams.length.toUInt32
  let startIndex := m.roundRobinIndex
  match m.priorityLoop fn [1, 3] st with
  | (some err, st) => some ((m, err), st)
  | (none, st) =>
    (m.roundRobinLoop fn numStreams startIndex numStreams.toNat 0 startIndex st).map
      fun (roundRobinIndex, err, st) => (({ m with roundRobinIndex }, err), st)

/-! ## The walk stays inside `openStreams` -/

/-- Every position the walk reads lies inside `openStreams` when the list is as long as the bound
the positions are taken modulo. -/
theorem roundRobinLoop_isSome (m : StreamsMap S) (fn : S → σ → (Bool × Option String) × σ)
    {numStreams : UInt32} (startIndex : UInt32) (hlen : m.openStreams.length = numStreams.toNat) :
    ∀ (k : Nat) (i roundRobinIndex : UInt32) (st : σ), (k = 0 ∨ 0 < numStreams.toNat) →
      (m.roundRobinLoop fn numStreams startIndex k i roundRobinIndex st).isSome
  | 0, _, _, _, _ => rfl
  | k + 1, i, roundRobinIndex, st, hk => by
    have hpos : 0 < numStreams.toNat := hk.resolve_left (Nat.succ_ne_zero k)
    -- the position is taken modulo the length of the list
    have hlt : ((i + startIndex) % numStreams).toNat < m.openStreams.length := by
      rw [UInt32.toNat_mod, hlen]
      exact Nat.mod_lt _ hpos
    have hrec := fun i' rr' st' => roundRobinLoop_isSome m fn startIndex hlen k i' rr' st' (.inr hpos)
    rw [roundRobinLoop, List.getElem?_eq_getElem hlt]
    simp only
    split_ifs
    · exact hrec _ _ _
    · split
      · rfl
      · split_ifs
        · exact hrec _ _ _
        · rfl

/-- A map whose open list is as long as the map, with fewer than `2 ^ 32` streams, is iterated
without an index out of range. -/
theorem RoundRobinIterate_isSome (m : StreamsMap S) (fn : S → σ → (Bool × Option String) × σ)
    (st : σ) (hlen : m.openStreams.length = m.streams.length) (hsmall : m.streams.length < 2 ^ 32) :
    (m.RoundRobinIterate fn st).isSome := by
  have hnum : m.streams.length.toUInt32.toNat = m.streams.length := by
    rw [Nat.toUInt32_eq, UInt32.toNat_ofNat', Nat.mod_eq_of_lt hsmall]
  simp only [RoundRobinIterate]
  split
  · rfl
  · rw [Option.isSome_map]
    refine roundRobinLoop_isSome m fn _ (hlen.trans hnum.symm) _ _ _ _ ?_
    omega

/-! ## The cursor lags behind the walk -/

/-- A closure that records the ID of every stream it is given, and stops after `last`. -/
def logUntil (last : StreamID) (s : StreamID) (log : List StreamID) :
    (Bool × Option String) × List StreamID :=
  ((s != last, none), log ++ [s])

set_option synthInstance.maxSize 512 in
/-- A server whose client's first frame is for stream 7 opens the streams 1, 3, 5 and 7.  A call
that stops after serving stream 5, the one at position 2, leaves the cursor at position 1, since
it skipped streams 1 and 3 without moving it.  The next call serves 1 and 3, and then stream 5
first once more, before stream 7. -/
theorem roundRobinIterate_resumes_before_next :
    ((newStreamsMapTree .server ⟨100⟩ (newStreamTree StreamID)).GetOrOpenStream idStreamEnv
        7).bind (fun r =>
      (r.1.RoundRobinIterate (logUntil 5) []).bind fun r₁ =>
        (r₁.1.1.RoundRobinIterate (logUntil 0) []).map fun r₂ =>
          (r.1.openStreams, r.1.roundRobinIndex, r₁.1.2, r₁.2, r₁.1.1.roundRobinIndex, r₂.1.2,
            r₂.2)) =
      some ([1, 3, 5, 7], 0, none, [1, 3, 5], 1, none, [1, 3, 5, 7]) := by
  decide +kernel

end StreamsMap
end PStream
