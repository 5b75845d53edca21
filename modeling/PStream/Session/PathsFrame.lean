import Mathlib.Data.List.AList
import PStream.Wire.Parsers
import PStream.Wire.Codec

/-!
# The PATHS branch of `handleFramesNew`

A PATHS frame tells the peer the paths of the connection and their smoothed RTTs.  A client's
frame also carries the local address of each path; a server's carries none (`NumIPs = 0`).
`handleFramesNew` records each RTT in `remoteRTTs` and marks a path whose RTT is at least 30
minutes as potentially failed.  A server then creates the paths it does not have yet
(`createPathsFromRemotePathsFrame`).

The parser accepts more than the writers send, and the branch trusts the frame in two places.

* A frame without addresses has no `RemoteAddrsIP` (`ParsePathsFrame_parsed`), and the server's
  `createPathsFromRemotePathsFrame` reads `RemoteAddrsIP[0]` of it all the same: every such frame
  with a path makes a server panic.
* The mark reads `s.paths` at the peer's path ID before any path is created.  An RTT of 30
  minutes or more for a path the session does not have is a nil dereference, on either side.  A
  client reports one hour for each of its potentially failed paths.

`handlePathsFrame_panics` proves both, and `handlePathsFrame_isSome` that there is no other
panic.
-/

set_option autoImplicit false

namespace PStream
open Utils Protocol

namespace Wire
namespace PathsFrame

/-! ## What the parser accepts -/

/-- The shape of a frame `ParsePathsFrame` accepts: one path ID and one RTT per path, and an
address and a port for every path or for none, as `NumIPs` says. -/
structure Parsed (f : PathsFrame) : Prop where
  length_PathIDs : f.PathIDs.length = f.NumPaths.toNat
  length_RemoteRTTs : f.RemoteRTTs.length = f.NumPaths.toNat
  addrs_of_numIPs_eq_zero : f.NumIPs = 0 → f.RemoteAddrsIP = [] ∧ f.RemoteAddrsPort = []
  length_addrs : 0 < f.NumIPs →
    f.RemoteAddrsIP.length = f.NumPaths.toNat ∧ f.RemoteAddrsPort.length = f.NumPaths.toNat

/-- The loop keeps the counts of the frame and adds one entry to each list per path, to the
address lists only when the frame carries addresses. -/
theorem parsePathsLoop_shape {o : ByteOrder} :
    ∀ {k : Nat} {f f' : PathsFrame} {bs rest : List UInt8},
      parsePathsLoop o k f bs = .ok (f', rest) →
      f'.NumPaths = f.NumPaths ∧ f'.NumIPs = f.NumIPs ∧
        f'.PathIDs.length = f.PathIDs.length + k ∧ f'.RemoteRTTs.length = f.RemoteRTTs.length + k ∧
        (f.NumIPs = 0 → f'.RemoteAddrsIP = f.RemoteAddrsIP ∧ f'.RemoteAddrsPort = f.RemoteAddrsPort) ∧
        (0 < f.NumIPs → f'.RemoteAddrsIP.length = f.RemoteAddrsIP.length + k ∧
          f'.RemoteAddrsPort.length = f.RemoteAddrsPort.length + k)
  | 0, f, f', bs, rest, h => by
    rw [parsePathsLoop, Parser.pure_run] at h
    cases h
    simp
  | k + 1, f, f', bs, rest, h => by
    rw [parsePathsLoop] at h
    obtain ⟨pathID, bs₁, -, h⟩ := Parser.ok_of_bind_ok h
    obtain ⟨rtt, bs₂, -, h⟩ := Parser.ok_of_bind_ok h
    dsimp only at h
    split_ifs at h with hip
    · -- a frame with addresses: the IPv4 address and the port of the path follow
      obtain ⟨_, bs₃, -, h⟩ := Parser.ok_of_bind_ok h
      obtain ⟨_, bs₄, -, h⟩ := Parser.ok_of_bind_ok h
      obtain ⟨_, bs₅, -, h⟩ := Parser.ok_of_bind_ok h
      obtain ⟨_, bs₆, -, h⟩ := Parser.ok_of_bind_ok h
      obtain ⟨_, bs₇, -, h⟩ := Parser.ok_of_bind_ok h
      obtain ⟨_, bs₈, hpure, h⟩ := Parser.ok_of_bind_ok h
      rw [Parser.pure_run] at hpure
      cases hpure
      obtain ⟨hn, hip', hids, hrtts, -, haddrs⟩ := parsePathsLoop_shape h
      simp only [List.length_append, List.length_singleton] at hids hrtts haddrs
      refine ⟨hn, hip', by omega, by omega, fun h0 => ?_, fun _ => ?_⟩
      · rw [h0] at hip
        exact absurd hip (by decide)
      have := haddrs hip
      omega
    · obtain ⟨_, bs₃, hpure, h⟩ := Parser.ok_of_bind_ok h
      rw [Parser.pure_run] at hpure
      cases hpure
      obtain ⟨hn, hip', hids, hrtts, haddrs, -⟩ := parsePathsLoop_shape h
      simp only [List.length_append, List.length_singleton] at hids hrtts
      exact ⟨hn, hip', by omega, by omega, haddrs, fun h0 => absurd h0 hip⟩

theorem ParsePathsFrame_parsed {version : VersionNumber} {bs rest : List UInt8} {f : PathsFrame}
    (h : ParsePathsFrame version bs = .ok (f, rest)) : f.Parsed := by
  rw [ParsePathsFrame] at h
  obtain ⟨_, bs₁, -, h⟩ := Parser.ok_of_bind_ok h
  obtain ⟨maxNum, bs₂, -, h⟩ := Parser.ok_of_bind_ok h
  obtain ⟨num, bs₃, -, h⟩ := Parser.ok_of_bind_ok h
  dsimp only at h
  split_ifs at h with hmax
  · obtain ⟨_, _, hthrow, -⟩ := Parser.ok_of_bind_ok h
    cases hthrow
  obtain ⟨numip, bs₄, -, h⟩ := Parser.ok_of_bind_ok h
  split_ifs at h with hip
  · obtain ⟨_, _, hthrow, -⟩ := Parser.ok_of_bind_ok h
    cases hthrow
  -- the loop starts from empty lists and runs once for each of the `num` paths
  obtain ⟨hn, hip', hids, hrtts, haddrs, hlen⟩ := parsePathsLoop_shape h
  simp only [List.length_nil, Nat.zero_add] at hids hrtts hlen
  have hnumip : f.NumIPs = numip := hip'
  refine ⟨by rw [hids, hn], by rw [hrtts, hn], fun h0 => haddrs (hnumip ▸ h0), fun h0 => ?_⟩
  rw [hn]
  exact hlen (hnumip ▸ h0)

end PathsFrame
end Wire

namespace Session

open Wire

/-! ## The handler -/

/-- What the PATHS branch reads and writes of a path: whether it is potentially failed, and for a
path it creates, the RTT (`time.Duration`, in nanoseconds) and bandwidth it starts with and the
remote address it sends to. -/
structure PathEntry where
  potentiallyFailed : Bool
  smoothedRTT : Int64
  bandwidth : UInt64
  remoteIP : String
  remotePort : Int
  deriving DecidableEq, Repr

/-- The session state the PATHS branch touches: `s.paths`, `s.openPaths` and `s.remoteRTTs`. -/
structure PathsState where
  paths : AList fun _ : PathID => PathEntry
  openPaths : List PathID
  remoteRTTs : AList fun _ : PathID => Int64

/-- The loop of the PATHS case over the paths from `i`, `k` of them left.  Indexing past a list
and calling `potentiallyFailed.Set` on the nil path of an unknown ID panic (`none`). -/
def remoteRTTsLoop (f : PathsFrame) : Nat → Nat → PathsState → Option PathsState
  | 0, _, st => some st
  | k + 1, i, st => do
    let pathID ← f.PathIDs[i]?
    let remoteRTT ← f.RemoteRTTs[i]?
    let st := { st with remoteRTTs := st.remoteRTTs.insert pathID remoteRTT }
    if remoteRTT ≥ 30 * 60 * 1000000000 then
      let pth ← st.paths.lookup pathID
      remoteRTTsLoop f k (i + 1)
        { st with paths := st.paths.insert pathID { pth with potentiallyFailed := true } }
    else remoteRTTsLoop f k (i + 1) st

/-- The loop of `createPathsFromRemotePathsFrame` from the path `i`, `k` of them left: the state
it leaves, and the error it returns.  A path that exists is passed over; a new one gets the RTT
and bandwidth the source sets for its IP. -/
def createPathsLoop (pers : Perspective) (f : PathsFrame) :
    Nat → Nat → PathsState → Option (PathsState × Option String)
  | 0, _, st => some (st, none)
  | k + 1, i, st => do
    let pathID ← f.PathIDs[i]?
    let remoteIP ← f.RemoteAddrsIP[i]?
    let remotePort ← f.RemoteAddrsPort[i]?
    match remotePort.toInt? with
    | none => some (st, some "error parsing port")
    | some port =>
      if pathID ∈ st.paths then createPathsLoop pers f k (i + 1) st
      else if pers = .client ∧ pathID % 2 ≠ 0 then some (st, some "server tries to create odd pathID")
      else if pers = .server ∧ pathID % 2 = 0 then some (st, some "client tries to create even pathID")
      else
        let (rtt, bandwidth) : Int64 × UInt64 :=
          if remoteIP = "10.0.0.1" then (1000000, 1 * 1048576)
          else if remoteIP = "10.0.1.1" then (1000000, 20 * 1048576)
          else (0, 0)
        let pth : PathEntry := ⟨false, rtt, bandwidth, remoteIP, port⟩
        createPathsLoop pers f k (i + 1)
          { st with paths := st.paths.insert pathID pth, openPaths := st.openPaths ++ [pathID] }

/-- `createPathsFromRemotePathsFrame`, which runs over `frame.PathIDs`. -/
def createPathsFromRemotePathsFrame (pers : Perspective) (f : PathsFrame) (st : PathsState) :
    Option (PathsState × Option String) :=
  createPathsLoop pers f f.PathIDs.length 0 st

/-- The PATHS case of `handleFramesNew` on a session of perspective `pers`; `none` is a panic.  The
error of `createPathsFromRemotePathsFrame` is dropped, as in the source. -/
def handlePathsFrame (pers : Perspective) (st : PathsState) (f : PathsFrame) :
    Option PathsState := do
  let st ← remoteRTTsLoop f f.NumPaths.toNat 0 st
  if pers = .server then
    let (st, _) ← createPathsFromRemotePathsFrame pers f st
    pure st
  else pure st

/-! ## The panics -/

/-- The loop panics by the path `j` when that path has an RTT of 30 minutes or more and the
session does not have it. -/
theorem remoteRTTsLoop_eq_none {f : PathsFrame} {j : Nat} {pathID : PathID} {rtt : Int64}
    (hid : f.PathIDs[j]? = some pathID) (hrtt : f.RemoteRTTs[j]? = some rtt)
    (hfail : 30 * 60 * 1000000000 ≤ rtt) :
    ∀ (k i : Nat) (st : PathsState), i ≤ j → j < i + k → pathID ∉ st.paths →
      remoteRTTsLoop f k i st = none
  | 0, i, st, hij, hjk, _ => absurd hjk (by omega)
  | k + 1, i, st, hij, hjk, hmiss => by
    rw [remoteRTTsLoop]
    cases hi : f.PathIDs[i]? with
    | none => rfl
    | some id =>
      cases hr : f.RemoteRTTs[i]? with
      | none => rfl
      | some r =>
        simp only [Option.bind_eq_bind, Option.bind_some]
        rcases Nat.lt_or_ge i j with hlt | hge
        · -- a path before `j`: the loop goes on, and `pathID` is still missing
          split_ifs with hr30
          · cases hl : st.paths.lookup id with
            | none => rfl
            | some pth =>
              rw [Option.bind_some]
              have hne : pathID ≠ id := by
                rintro rfl
                exact hmiss (AList.lookup_isSome.mp (by rw [hl]; rfl))
              refine remoteRTTsLoop_eq_none hid hrtt hfail k (i + 1) _ (by omega) (by omega) ?_
              rw [AList.mem_insert, not_or]
              exact ⟨hne, hmiss⟩
          · exact remoteRTTsLoop_eq_none hid hrtt hfail k (i + 1) _ (by omega) (by omega) hmiss
        · -- the path `j` itself: its RTT marks it, and it is not there
          obtain rfl : i = j := by omega
          rw [hi, Option.some.injEq] at hid
          rw [hr, Option.some.injEq] at hrtt
          subst hid hrtt
          rw [if_pos hfail, AList.lookup_eq_none.mpr hmiss]
          rfl

/-- Path creation reads an address for a path: without addresses it panics. -/
theorem createPathsLoop_eq_none_of_addrs_nil (pers : Perspective) {f : PathsFrame}
    (hip : f.RemoteAddrsIP = []) (k : Nat) {i : Nat} (hi : i < f.PathIDs.length) (st : PathsState) :
    createPathsLoop pers f (k + 1) i st = none := by
  rw [createPathsLoop, List.getElem?_eq_getElem hi, hip, List.getElem?_nil]
  rfl

theorem createPathsFromRemotePathsFrame_eq_none (pers : Perspective) {f : PathsFrame}
    (hip : f.RemoteAddrsIP = []) (hne : 0 < f.PathIDs.length) (st : PathsState) :
    createPathsFromRemotePathsFrame pers f st = none := by
  obtain ⟨k, hk⟩ : ∃ k, f.PathIDs.length = k + 1 := ⟨_, (Nat.succ_pred_eq_of_pos hne).symm⟩
  rw [createPathsFromRemotePathsFrame, hk]
  exact createPathsLoop_eq_none_of_addrs_nil pers hip k (by omega) st

theorem handlePathsFrame_panics {version : VersionNumber} {bs rest : List UInt8} {f : PathsFrame}
    (hparse : ParsePathsFrame version bs = .ok (f, rest)) :
    (∀ st, 0 < f.NumPaths → f.NumIPs = 0 → handlePathsFrame .server st f = none) ∧
    ∀ pers st (j : Nat) pathID rtt, f.PathIDs[j]? = some pathID → f.RemoteRTTs[j]? = some rtt →
      30 * 60 * 1000000000 ≤ rtt → pathID ∉ st.paths → handlePathsFrame pers st f = none := by
  have hf := PathsFrame.ParsePathsFrame_parsed hparse
  refine ⟨fun st hnum hip => ?_, fun pers st j pathID rtt hid hrtt hfail hmiss => ?_⟩
  · -- whatever the first loop does, the server's path creation reads an address that is not there
    have hne : 0 < f.PathIDs.length := by
      rw [hf.length_PathIDs]
      simpa using UInt8.lt_iff_toNat_lt.mp hnum
    rw [handlePathsFrame]
    cases hloop : remoteRTTsLoop f f.NumPaths.toNat 0 st with
    | none => rfl
    | some st' =>
      simp only [Option.bind_eq_bind, Option.bind_some,
        createPathsFromRemotePathsFrame_eq_none .server (hf.addrs_of_numIPs_eq_zero hip).1 hne]
      rfl
  · -- the first loop reaches the path `j` unless it panics before
    have hj : j < f.NumPaths.toNat := by
      rw [← hf.length_PathIDs]
      exact (List.getElem?_eq_some_iff.mp hid).1
    rw [handlePathsFrame, remoteRTTsLoop_eq_none hid hrtt hfail _ 0 st (Nat.zero_le j) (by omega) hmiss]
    rfl

/-! ## No other panic -/

/-- The loop completes when the lists are long enough and every path of a high RTT is there; the
marks do not change which paths there are. -/
theorem remoteRTTsLoop_isSome {f : PathsFrame} :
    ∀ (k i : Nat) (st : PathsState), i + k ≤ f.PathIDs.length → i + k ≤ f.RemoteRTTs.length →
      (∀ (j : Nat) pathID rtt, i ≤ j → f.PathIDs[j]? = some pathID → f.RemoteRTTs[j]? = some rtt →
        30 * 60 * 1000000000 ≤ rtt → pathID ∈ st.paths) →
      (remoteRTTsLoop f k i st).isSome
  | 0, _, _, _, _, _ => rfl
  | k + 1, i, st, hids, hrtts, hmarked => by
    have hi : f.PathIDs[i]? = some f.PathIDs[i] := List.getElem?_eq_getElem (by omega)
    have hr : f.RemoteRTTs[i]? = some f.RemoteRTTs[i] := List.getElem?_eq_getElem (by omega)
    rw [remoteRTTsLoop, hi, hr]
    simp only [Option.bind_eq_bind, Option.bind_some]
    have hrest : ∀ st' : PathsState, (∀ id, id ∈ st'.paths ↔ id ∈ st.paths) →
        (remoteRTTsLoop f k (i + 1) st').isSome := fun st' hkeys =>
      remoteRTTsLoop_isSome k (i + 1) st' (by omega) (by omega) fun j id rtt hj hid hrtt hfail =>
        (hkeys id).mpr (hmarked j id rtt (by omega) hid hrtt hfail)
    split_ifs with hfail
    · -- the path of a high RTT is there, and marking it keeps the keys
      have hmem := hmarked i _ _ (Nat.le_refl i) hi hr hfail
      obtain ⟨pth, hpth⟩ := Option.isSome_iff_exists.mp (AList.lookup_isSome.mpr hmem)
      rw [hpth, Option.bind_some]
      refine hrest _ fun id => ?_
      rw [AList.mem_insert]
      exact ⟨fun h => h.elim (fun h => h ▸ hmem) (fun h => h), Or.inr⟩
    · exact hrest _ fun _ => Iff.rfl

/-- Path creation completes when there is an address and a port for each path. -/
theorem createPathsLoop_isSome (pers : Perspective) {f : PathsFrame} :
    ∀ (k i : Nat) (st : PathsState), i + k ≤ f.PathIDs.length → i + k ≤ f.RemoteAddrsIP.length →
      i + k ≤ f.RemoteAddrsPort.length → (createPathsLoop pers f k i st).isSome
  | 0, _, _, _, _, _ => rfl
  | k + 1, i, st, hids, hips, hports => by
    have hrest := fun st' =>
      createPathsLoop_isSome pers (f := f) k (i + 1) st' (by omega) (by omega) (by omega)
    rw [createPathsLoop, List.getElem?_eq_getElem (show i < f.PathIDs.length by omega),
      List.getElem?_eq_getElem (show i < f.RemoteAddrsIP.length by omega),
      List.getElem?_eq_getElem (show i < f.RemoteAddrsPort.length by omega)]
    simp only [Option.bind_eq_bind, Option.bind_some]
    -- every branch returns an error or goes on to the next path
    split
    · rfl
    · split_ifs <;> first | rfl | exact hrest _

/-- The two panics are the only ones: the branch completes when every path of a high RTT is there,
and a server gets addresses with any path. -/
theorem handlePathsFrame_isSome {version : VersionNumber} {bs rest : List UInt8} {f : PathsFrame}
    (hparse : ParsePathsFrame version bs = .ok (f, rest)) (pers : Perspective) (st : PathsState)
    (hmarked : ∀ (j : Nat) pathID rtt, f.PathIDs[j]? = some pathID → f.RemoteRTTs[j]? = some rtt →
      30 * 60 * 1000000000 ≤ rtt → pathID ∈ st.paths)
    (haddrs : pers = .server → f.NumIPs = 0 → f.NumPaths = 0) :
    (handlePathsFrame pers st f).isSome := by
  have hf := PathsFrame.ParsePathsFrame_parsed hparse
  obtain ⟨st', hst'⟩ := Option.isSome_iff_exists.mp (remoteRTTsLoop_isSome f.NumPaths.toNat 0 st
    (by rw [hf.length_PathIDs]; omega) (by rw [hf.length_RemoteRTTs]; omega)
    fun j id rtt _ => hmarked j id rtt)
  rw [handlePathsFrame, hst']
  simp only [Option.bind_eq_bind, Option.bind_some]
  split_ifs with hpers
  · -- the server reads an address for each path: there are as many, or no path at all
    have hlen : f.PathIDs.length ≤ f.RemoteAddrsIP.length ∧
        f.PathIDs.length ≤ f.RemoteAddrsPort.length := by
      by_cases h0 : f.NumIPs = 0
      · rw [hf.length_PathIDs, haddrs hpers h0]
        exact ⟨Nat.zero_le _, Nat.zero_le _⟩
      · obtain ⟨hip, hport⟩ := hf.length_addrs (UInt8.pos_iff_ne_zero.mpr h0)
        rw [hf.length_PathIDs, hip, hport]
        exact ⟨Nat.le_refl _, Nat.le_refl _⟩
    obtain ⟨r, hr⟩ := Option.isSome_iff_exists.mp
      (createPathsLoop_isSome pers (f := f) f.PathIDs.length 0 st' (by omega) (by omega) (by omega))
    rw [createPathsFromRemotePathsFrame, hr]
    rfl
  · rfl

theorem handlePathsFrame_panics_silentPath :
    let f : PathsFrame := ⟨255, 1, 0, [1], [0], [], []⟩
    ParsePathsFrame VersionMP [0x12, 0xFF, 0x01, 0x00, 0x01, 0x00, 0x00] = .ok (f, []) ∧
      (∀ st, 0 < f.NumPaths → f.NumIPs = 0 → handlePathsFrame .server st f = none) ∧
      ∀ pers st (j : Nat) pathID rtt, f.PathIDs[j]? = some pathID → f.RemoteRTTs[j]? = some rtt →
        30 * 60 * 1000000000 ≤ rtt → pathID ∉ st.paths → handlePathsFrame pers st f = none :=
  have h : ParsePathsFrame VersionMP [0x12, 0xFF, 0x01, 0x00, 0x01, 0x00, 0x00] =
      .ok (⟨255, 1, 0, [1], [0], [], []⟩, []) := by decide
  ⟨h, handlePathsFrame_panics h⟩

end Session
end PStream
