import Mathlib.Data.List.Infix
import PStream.StreamFrameSorter.Basic
import PStream.Lib.Tiling

/-!
# Reassembly is exact

Fix the stream's bytes `D`.  Every frame pushed carries the bytes of `D` at its offset; a frame
without data is pushed with its FIN bit at the end of `D`.  Then the sorter keeps `Invariant`:

* every queued frame sits at its own offset, carries `D`'s bytes from there and lies outside the
  gaps (`Placed`);
* from the read position on, stretches tiled by queued frames (`Tiling.Tiles`) alternate with the
  gaps, the last of which ends at `MaxByteCount` (`Tiling.Interleaved`).

`Push` keeps it and removes exactly the frame's bytes from the gaps; `Pop` keeps it and returns
the bytes of `D` at the read position.
-/

set_option autoImplicit false

namespace PStream

open Wire Tiling

namespace ByteInterval

/-- Where a gap starts, as a number. -/
@[simp] def lo (g : ByteInterval) : ℕ := g.Start.toNat

/-- Where a gap ends, as a number. -/
@[simp] def hi (g : ByteInterval) : ℕ := g.End.toNat

end ByteInterval

namespace streamFrameSorter

/-- The bytes the gaps miss. -/
def InGaps (gaps : List ByteInterval) (n : ℕ) : Prop :=
  InIntervals ByteInterval.lo ByteInterval.hi gaps n

/-- The queued frames, by offset as a number. -/
def queuedAt (queuedFrames : ByteCount → Option StreamFrame) (n : ℕ) : Option StreamFrame :=
  queuedFrames n.toUInt64

@[simp] theorem toNat_MaxByteCount : Protocol.MaxByteCount.toNat = 2 ^ 64 - 1 := rfl

theorem toNat_add_of_lt {a b : UInt64} (h : a.toNat + b.toNat < 2 ^ 64) :
    (a + b).toNat = a.toNat + b.toNat := by
  rw [UInt64.toNat_add, Nat.mod_eq_of_lt h]

theorem toNat_DataLen {f : StreamFrame} (h : f.Data.length < 2 ^ 64) :
    f.DataLen.toNat = f.Data.length := by
  rw [StreamFrame.DataLen, UInt64.toNat_ofNat', Nat.mod_eq_of_lt h]

/-- Setting one offset of the map changes the numbered view at that offset only. -/
theorem queuedAt_update {q : ByteCount → Option StreamFrame} {u : ByteCount}
    {v : Option StreamFrame} {n : ℕ} (hn : n < 2 ^ 64) :
    queuedAt (Function.update q u v) n = if n = u.toNat then v else queuedAt q n := by
  unfold queuedAt
  by_cases h : n = u.toNat
  · subst h
    simp
  · have hne : n.toUInt64 ≠ u := by
      intro h'
      apply h
      rw [← h', Nat.toUInt64_eq, UInt64.toNat_ofNat']
      exact (Nat.mod_eq_of_lt hn).symm
    simp [Function.update_of_ne hne, h]

/-- A frame queued at `k` sits at its own offset, carries the stream's bytes from there and lies in
no gap; if it has no data, it is a FIN frame at the end of the stream. -/
structure Placed (D : List UInt8) (gaps : List ByteInterval) (k : ByteCount) (f : StreamFrame) :
    Prop where
  offset : f.Offset = k
  carries : f.Data <+: D.drop k.toNat
  received : ∀ n, k.toNat ≤ n → n < k.toNat + f.Data.length → ¬ InGaps gaps n
  fin : f.Data = [] → f.FinBit ∧ k.toNat = D.length

/-- What the sorter keeps true of the stream `D`. -/
structure Invariant (D : List UInt8) (s : streamFrameSorter) : Prop where
  placed : ∀ k f, s.queuedFrames k = some f → Placed D s.gaps k f
  readPosition_le : s.readPosition.toNat ≤ D.length
  tiled : Interleaved (Tiles (queuedAt s.queuedFrames) fun f => f.Data.length)
    ByteInterval.lo ByteInterval.hi s.readPosition.toNat s.gaps Protocol.MaxByteCount.toNat

/-! ## Placed frames -/

section Placed

variable {D : List UInt8} {gaps : List ByteInterval} {k : ByteCount} {f : StreamFrame}

/-- A placed frame ends inside the stream. -/
theorem Placed.end_le (h : Placed D gaps k f) : k.toNat + f.Data.length ≤ D.length := by
  have hlen := h.carries.length_le
  rw [List.length_drop] at hlen
  by_cases hk : k.toNat ≤ D.length
  · omega
  · have hnil : f.Data = [] := List.eq_nil_of_length_eq_zero (by omega)
    have := (h.fin hnil).2
    omega

/-- Removing bytes from the gaps keeps a frame placed. -/
theorem Placed.mono {gaps' : List ByteInterval} (h : Placed D gaps k f)
    (hgaps : ∀ n, InGaps gaps' n → InGaps gaps n) : Placed D gaps' k f :=
  ⟨h.offset, h.carries, fun n hkn hnk hn => h.received n hkn hnk (hgaps n hn), h.fin⟩

end Placed

/-! ## The first loop -/

section FindGap

variable {start «end» : ByteCount}

/-- The gap the first loop stops at: the gaps before it end before the frame starts, and the frame
reaches into it or touches its end. -/
theorem findGap_ok {gaps before after : List ByteInterval} {gap : ByteInterval}
    (h : findGap start «end» gaps = .ok (before, gap, after)) :
    gaps = before ++ gap :: after ∧ (∀ g ∈ before, g.End < start) ∧
      gap.Start < «end» ∧ start ≤ gap.End := by
  induction gaps generalizing before with
  | nil => simp [findGap] at h
  | cons g gs ih =>
    unfold findGap at h
    split_ifs at h with hdup hhit
    · cases h
      exact ⟨rfl, by simp, hhit⟩
    · cases hrest : findGap start «end» gs with
      | error e => simp [hrest, Except.map] at h
      | ok r =>
        obtain ⟨before', gap', after'⟩ := r
        simp only [hrest, Except.map, Except.ok.injEq, Prod.mk.injEq] at h
        obtain ⟨rfl, rfl, rfl⟩ := h
        obtain ⟨hgs, hbefore, hgap⟩ := ih hrest
        have hg : g.End < start :=
          UInt64.not_le.mp fun hle => hhit ⟨UInt64.not_le.mp hdup, hle⟩
        refine ⟨by simp [hgs], ?_, hgap⟩
        intro g' hg'
        rcases List.mem_cons.mp hg' with rfl | hg'
        exacts [hg, hbefore g' hg']

/-- The errors of the first loop: a frame that ends before the gap it reaches is a duplicate, and
the loop finds no gap only if every gap ends before the frame starts. -/
theorem findGap_error {gaps : List ByteInterval} {e : String}
    (h : findGap start «end» gaps = .error e) :
    (e = errDuplicateStreamData ∧ ∃ before gap after, gaps = before ++ gap :: after ∧
        (∀ g ∈ before, g.End < start) ∧ «end» ≤ gap.Start) ∨
      ∀ g ∈ gaps, g.End < start := by
  induction gaps with
  | nil => simp
  | cons g gs ih =>
    unfold findGap at h
    split_ifs at h with hdup hhit
    · cases h
      exact .inl ⟨rfl, [], g, gs, rfl, by simp, hdup⟩
    · have hg : g.End < start :=
        UInt64.not_le.mp fun hle => hhit ⟨UInt64.not_le.mp hdup, hle⟩
      cases hrest : findGap start «end» gs with
      | ok r => simp [hrest, Except.map] at h
      | error e' =>
        simp only [hrest, Except.map, Except.error.injEq] at h
        subst h
        rcases ih hrest with ⟨rfl, before, gap, after, hgs, hbefore, hend⟩ | hall
        · refine .inl ⟨rfl, g :: before, gap, after, by simp [hgs], ?_, hend⟩
          intro g' hg'
          rcases List.mem_cons.mp hg' with rfl | hg'
          exacts [hg, hbefore g' hg']
        · refine .inr fun g' hg' => ?_
          rcases List.mem_cons.mp hg' with rfl | hg'
          exacts [hg, hall g' hg']

end FindGap

/-! ## The second loop -/

section FindEndGap

/-- Gaps in order, each non-empty. -/
def Ordered (gaps : List ByteInterval) : Prop :=
  gaps.Pairwise (fun g g' => g.End.toNat ≤ g'.Start.toNat) ∧
    ∀ g ∈ gaps, g.Start.toNat < g.End.toNat

theorem Ordered.tail {g : ByteInterval} {gaps : List ByteInterval} (h : Ordered (g :: gaps)) :
    Ordered gaps :=
  ⟨(List.pairwise_cons.mp h.1).2, fun g' hg' => h.2 g' (List.mem_cons_of_mem _ hg')⟩

/-- In ordered gaps, every gap before `g` ends before `g` starts. -/
theorem Ordered.end_le_start {covered tail : List ByteInterval} {g : ByteInterval}
    (h : Ordered (covered ++ g :: tail)) : ∀ c ∈ covered, c.End.toNat ≤ g.Start.toNat := by
  intro c hc
  exact List.pairwise_append.mp h.1 |>.2.2 c hc g (List.mem_cons_self ..)

variable {«end» : ByteCount}

/-- What the second loop does, from `endGap₀` with the gaps `rest` after it.  It steps over the
gaps `covered` (none, or `endGap₀` and the ones after it that the frame passes entirely) and stops
at `endGap`, with `tail` after it.  It only forgets frames queued from the end of `endGap₀` up to
the end of `endGap`.  Either the frame ends inside `endGap`, which stays in the list; or the frame
reaches the end of `endGap` but not the start of the next gap, and `endGap` is gone unless it is
`gap`. -/
theorem findEndGap_spec {q : ByteCount → Option StreamFrame} {endGap₀ : ByteInterval}
    {endGapAt : EndGapAt} {rest : List ByteInterval} {scan : EndGapScan}
    (hscan : findEndGap «end» q endGap₀ endGapAt rest = scan) (hord : Ordered (endGap₀ :: rest))
    (hreach : ∃ r ∈ endGap₀ :: rest, «end» < r.End) :
    ∃ covered tail, endGap₀ :: rest = covered ++ scan.endGap :: tail ∧ scan.err = none ∧
      (∀ k f, scan.queuedFrames k = some f → q k = some f) ∧
      (∀ k, k.toNat < endGap₀.End.toNat ∨ scan.endGap.End.toNat ≤ k.toNat →
        scan.queuedFrames k = q k) ∧
      (covered ≠ [] → endGap₀.End ≤ «end» ∧ scan.endGap.Start < «end») ∧
      ((«end» < scan.endGap.End ∧ scan.endGapAt = (if covered = [] then endGapAt else .next) ∧
          scan.following = keep scan.endGap scan.endGapAt tail) ∨
        (scan.endGap.End ≤ «end» ∧
          scan.endGapAt = (if covered = [] ∧ endGapAt = .gap then .gap else .removed) ∧
          scan.following = tail ∧ ∃ n t, tail = n :: t ∧ «end» ≤ n.Start)) := by
  induction rest generalizing q endGap₀ endGapAt with
  | nil =>
    -- only `endGap₀` is left, so the frame ends inside it
    have hlt : «end» < endGap₀.End := by simpa using hreach
    have hnot : ¬ «end» ≥ endGap₀.End := UInt64.not_le.mpr hlt
    simp only [findEndGap, hnot, if_false] at hscan
    subst hscan
    exact ⟨[], [], rfl, rfl, fun _ _ h => h, fun _ _ => rfl, by simp, .inl ⟨hlt, by simp, rfl⟩⟩
  | cons n rest ih =>
    by_cases hreached : «end» ≥ endGap₀.End
    · by_cases hstop : «end» ≤ n.Start
      · -- the frame ends before the next gap: stop at `endGap₀`
        simp only [findEndGap, hreached, hstop, if_true] at hscan
        subst hscan
        refine ⟨[], n :: rest, rfl, rfl, fun _ _ h => h, fun _ _ => rfl, by simp, .inr ?_⟩
        exact ⟨hreached, by simp, rfl, n, rest, rfl, hstop⟩
      · -- step on to `n`, forgetting the frame queued where `endGap₀` ends
        simp only [findEndGap, hreached, hstop, if_true, if_false] at hscan
        have hreach' : ∃ r ∈ n :: rest, «end» < r.End := by
          obtain ⟨r, hr, hlt⟩ := hreach
          rcases List.mem_cons.mp hr with rfl | hr
          · exact absurd hreached (UInt64.not_le.mpr hlt)
          · exact ⟨r, hr, hlt⟩
        obtain ⟨covered, tail, hsplit, herr, hsub, hsame, hcov, hcase⟩ :=
          ih hscan hord.tail hreach'
        have hn : n.Start < «end» := UInt64.not_le.mp hstop
        have hen : endGap₀.End.toNat ≤ n.Start.toNat :=
          List.rel_of_pairwise_cons hord.1 (List.mem_cons_self ..)
        have hnn : n.Start.toNat < n.End.toNat := hord.2 n (by simp)
        have hnend : n.End.toNat ≤ scan.endGap.End.toNat := by
          rcases covered with _ | ⟨c, covered⟩
          · simp only [List.nil_append, List.cons.injEq] at hsplit
            rw [← hsplit.1]
          · simp only [List.cons_append, List.cons.injEq] at hsplit
            obtain ⟨rfl, hsplit⟩ := hsplit
            have hord' : Ordered ((n :: covered) ++ scan.endGap :: tail) := by
              rw [List.cons_append, ← hsplit]
              exact hord.tail
            have := hord'.end_le_start n (List.mem_cons_self ..)
            have := hord'.2 scan.endGap (by simp)
            omega
        refine ⟨endGap₀ :: covered, tail, by rw [hsplit]; rfl, herr, ?_, ?_, ?_, ?_⟩
        · intro k f hk
          have h1 := hsub k f hk
          by_cases hke : k = endGap₀.End
          · simp [hke] at h1
          · rwa [Function.update_of_ne hke] at h1
        · intro k hk
          have hne : k ≠ endGap₀.End := by
            intro hke
            subst hke
            omega
          rw [hsame k (by omega), Function.update_of_ne hne]
        · intro _
          refine ⟨hreached, ?_⟩
          rcases covered with _ | ⟨c, covered⟩
          · simp only [List.nil_append, List.cons.injEq] at hsplit
            rw [← hsplit.1]
            exact hn
          · exact (hcov (List.cons_ne_nil _ _)).2
        · simpa using hcase
    · -- the frame ends inside `endGap₀`
      simp only [findEndGap, hreached, if_false] at hscan
      subst hscan
      refine ⟨[], n :: rest, rfl, rfl, fun _ _ h => h, fun _ _ => rfl, by simp, .inl ?_⟩
      exact ⟨UInt64.not_le.mp hreached, by simp, rfl⟩

end FindEndGap

/-! ## The closing case analysis

Whatever branch `fillGap` takes, what is left of `gap` before the frame and of `endGap` after it
stay, and the gaps in between go. -/

section FillGap

variable {start «end» : ByteCount} {gap endGap : ByteInterval} {tail : List ByteInterval}

/-- The part of `gap` before the frame, if any. -/
def gapBefore (gap : ByteInterval) (start : ByteCount) : List ByteInterval :=
  if start = gap.Start then [] else [⟨gap.Start, start⟩]

/-- A frame that ends inside `endGap`, which is still in the list. -/
theorem fillGap_inside {endGapAt : EndGapAt} (hend : «end» < endGap.End)
    (hat : endGapAt = .gap ∧ endGap = gap ∨ endGapAt = .next ∧ gap.End ≤ «end») :
    fillGap start «end» gap endGap endGapAt (keep endGap endGapAt tail) =
      gapBefore gap start ++ ⟨«end», endGap.End⟩ :: tail := by
  have hne : «end» ≠ endGap.End := UInt64.ne_of_lt hend
  rcases hat with ⟨rfl, rfl⟩ | ⟨rfl, hgap⟩
  · by_cases hs : start = endGap.Start
    · have hlt : ¬ «end» ≥ endGap.End := UInt64.not_le.mpr hend
      simp [fillGap, gapBefore, keep, setEndGapStart, hs, hend, hlt]
    · simp [fillGap, gapBefore, keep, hs, hne]
  · by_cases hs : start = gap.Start
    · simp [fillGap, gapBefore, keep, setEndGapStart, hs, hend, hgap]
    · simp [fillGap, gapBefore, keep, setEndGapStart, hs, hne]

/-- A frame cut at the end of `endGap`, which is `gap` or gone. -/
theorem fillGap_atEnd {endGapAt : EndGapAt}
    (hat : endGapAt = .gap ∧ endGap = gap ∨ endGapAt = .removed ∧ gap.End ≤ endGap.End) :
    fillGap start endGap.End gap endGap endGapAt tail = gapBefore gap start ++ tail := by
  rcases hat with ⟨rfl, rfl⟩ | ⟨rfl, hgap⟩
  · by_cases hs : start = endGap.Start
    · simp [fillGap, gapBefore, hs]
    · simp [fillGap, gapBefore, hs]
  · by_cases hs : start = gap.Start
    · simp [fillGap, gapBefore, hs, hgap]
    · simp [fillGap, gapBefore, hs]

end FillGap

/-! ## The tiling after a push -/

section Fill

variable {Q Q' : ℕ → Option StreamFrame} {b : ℕ} {gap endGap : ByteInterval}
  {after covered tail : List ByteInterval} {start «end» : ByteCount}

/-- After a frame `[start, end)` has filled what it covers from `gap` to `endGap`, the stretch
before `gap`, the frame and the stretch after `endGap` join up around what is left of the two
gaps. -/
theorem interleaved_fill
    (hold : Interleaved (Tiles Q fun f => f.Data.length) ByteInterval.lo ByteInterval.hi b
      (covered ++ endGap :: tail) Protocol.MaxByteCount.toNat)
    (hsplit : gap :: after = covered ++ endGap :: tail)
    (hQ : ∀ k, k < 2 ^ 64 → k < gap.Start.toNat ∨ endGap.End.toNat ≤ k → Q' k = Q k)
    (hframe : Tiles Q' (fun f => f.Data.length) start.toNat «end».toNat)
    (hstart : gap.Start.toNat ≤ start.toNat) (hend : «end».toNat ≤ endGap.End.toNat)
    (hbreak : «end» = endGap.End → ∃ n t, tail = n :: t) :
    Interleaved (Tiles Q' fun f => f.Data.length) ByteInterval.lo ByteInterval.hi b
      (gapBefore gap start ++ (if «end» < endGap.End then [⟨«end», endGap.End⟩] else []) ++ tail)
      Protocol.MaxByteCount.toNat := by
  have hT : ∀ x y, Tiles Q (fun f => f.Data.length) x y → x ≤ y := fun _ _ h => h.le
  have hbnd := hold.bounds hT
  have hge : endGap.End.toNat ≤ 2 ^ 64 - 1 := by simpa using (hbnd endGap (by simp)).2
  obtain ⟨c, hcov, heg⟩ := interleaved_append.mp hold
  obtain ⟨hceg, -, hrest⟩ := heg
  -- the stretch before `gap` is the one before the first gap the loop saw
  have hpre : Tiles Q (fun f => f.Data.length) b gap.Start.toNat := by
    rcases covered with _ | ⟨c', covered⟩
    · simp only [List.nil_append, List.cons.injEq] at hsplit
      rw [hsplit.1, interleaved_nil.mp hcov]
      exact hceg
    · simp only [List.cons_append, List.cons.injEq] at hsplit
      rw [hsplit.1]
      exact hcov.1
  have hgap : gap.Start.toNat ≤ 2 ^ 64 - 1 := by
    have hmem : gap ∈ covered ++ endGap :: tail := by rw [← hsplit]; simp
    have h1 := (hbnd gap hmem).2
    have h2 := hold.lo_lt_hi gap hmem
    simp only [ByteInterval.lo, ByteInterval.hi, toNat_MaxByteCount] at h1 h2
    omega
  have hpre' : Tiles Q' (fun f => f.Data.length) b gap.Start.toNat :=
    hpre.congr fun k _ hk => hQ k (by omega) (.inl hk)
  have hrest' : Interleaved (Tiles Q' fun f => f.Data.length) ByteInterval.lo ByteInterval.hi
      endGap.End.toNat tail Protocol.MaxByteCount.toNat :=
    hrest.imp hT fun x y hx hy hxy =>
      hxy.congr fun k hk hky => hQ k (by simp at hy; omega) (.inr (by simp at hx; omega))
  -- what is left of `endGap` after the frame, if anything
  by_cases he : «end» < endGap.End
  · have he' : «end».toNat < endGap.End.toNat := UInt64.lt_iff_toNat_lt.mp he
    by_cases hs : start = gap.Start
    · subst hs
      simpa [gapBefore, he] using ⟨hpre'.trans hframe, he', hrest'⟩
    · have hs' : gap.Start.toNat < start.toNat := by
        have : start.toNat ≠ gap.Start.toNat := fun h => hs (UInt64.toNat_inj.mp h)
        omega
      simpa [gapBefore, hs, he] using ⟨hpre', hs', hframe, he', hrest'⟩
  · have hee : «end» = endGap.End := UInt64.toNat_inj.mp (by
      have := UInt64.not_lt.mp he
      have := UInt64.le_iff_toNat_le.mp this
      omega)
    obtain ⟨n, t, rfl⟩ := hbreak hee
    obtain ⟨hn, hnlt, ht⟩ := hrest'
    have hjoin : Tiles Q' (fun f => f.Data.length) start.toNat n.Start.toNat := by
      rw [← hee] at hn
      exact hframe.trans hn
    by_cases hs : start = gap.Start
    · subst hs
      simpa [gapBefore, he] using ⟨hpre'.trans hjoin, hnlt, ht⟩
    · have hs' : gap.Start.toNat < start.toNat := by
        have : start.toNat ≠ gap.Start.toNat := fun h => hs (UInt64.toNat_inj.mp h)
        omega
      simpa [gapBefore, hs, he] using ⟨hpre', hs', hjoin, hnlt, ht⟩

end Fill

/-! ## The gaps after a push -/

section GapSet

theorem inGaps_append {l₁ l₂ : List ByteInterval} {n : ℕ} :
    InGaps (l₁ ++ l₂) n ↔ InGaps l₁ n ∨ InGaps l₂ n :=
  inIntervals_append

theorem inGaps_gapBefore {gap : ByteInterval} {start : ByteCount} {n : ℕ} :
    InGaps (gapBefore gap start) n ↔
      start ≠ gap.Start ∧ gap.Start.toNat ≤ n ∧ n < start.toNat := by
  unfold gapBefore
  split_ifs with h <;> simp [InGaps, h]

theorem inGaps_endGapAfter {endGap : ByteInterval} {«end» : ByteCount} {n : ℕ} :
    InGaps (if «end» < endGap.End then [⟨«end», endGap.End⟩] else []) n ↔
      «end» < endGap.End ∧ «end».toNat ≤ n ∧ n < endGap.End.toNat := by
  split_ifs with h <;> simp [InGaps, h]

/-- The gaps from `gap` to `endGap` lie between `gap`'s start and `endGap`'s end, and cover
both. -/
theorem inGaps_span {gap endGap : ByteInterval} {after covered tail : List ByteInterval} {n : ℕ}
    (hord : Ordered (gap :: after)) (hsplit : gap :: after = covered ++ endGap :: tail) :
    (InGaps (covered ++ [endGap]) n → gap.Start.toNat ≤ n ∧ n < endGap.End.toNat) ∧
      (gap.Start.toNat ≤ n ∧ n < gap.End.toNat → InGaps (covered ++ [endGap]) n) ∧
      (endGap.Start.toNat ≤ n ∧ n < endGap.End.toNat → InGaps (covered ++ [endGap]) n) := by
  have hord' : Ordered (covered ++ endGap :: tail) := hsplit ▸ hord
  have hgap : gap ∈ covered ++ [endGap] := by
    rcases covered with _ | ⟨c, covered⟩
    · simp only [List.nil_append, List.cons.injEq] at hsplit
      simp [hsplit.1]
    · simp only [List.cons_append, List.cons.injEq] at hsplit
      simp [hsplit.1]
  refine ⟨?_, fun hn => ⟨gap, hgap, hn⟩, fun hn => ⟨endGap, by simp, hn⟩⟩
  rintro ⟨g, hg, hlo, hhi⟩
  have hmem : g ∈ gap :: after := by
    rw [hsplit]
    rcases List.mem_append.mp hg with hg | hg
    · exact List.mem_append_left _ hg
    · simp only [List.mem_singleton] at hg
      simp [hg]
  -- `g` starts no earlier than `gap`
  have hfrom : gap.Start.toNat ≤ g.Start.toNat := by
    rcases List.mem_cons.mp hmem with rfl | hg'
    · exact Nat.le_refl _
    · have h1 := List.rel_of_pairwise_cons hord.1 hg'
      have h2 := hord.2 gap (List.mem_cons_self ..)
      omega
  -- and ends no later than `endGap`
  have hto : g.End.toNat ≤ endGap.End.toNat := by
    rcases List.mem_append.mp hg with hg | hg
    · have h1 := hord'.end_le_start g hg
      have h2 := hord'.2 endGap (by simp)
      omega
    · simp only [List.mem_singleton] at hg
      rw [hg]
  simp only [ByteInterval.lo, ByteInterval.hi] at hlo hhi
  omega

/-- What the gaps miss after a push: what they missed before, but for the bytes `[start₁, e₀)` of
the frame.  The frame was cut to `[start, end)` inside the gaps from `gap` to `endGap`; the gaps
before `gap` end before it and the gaps after `endGap` start after it. -/
theorem inGaps_fill {before after covered tail : List ByteInterval} {gap endGap : ByteInterval}
    {start₁ e₀ : ℕ} {start «end» : ByteCount} (hord : Ordered (gap :: after))
    (hsplit : gap :: after = covered ++ endGap :: tail)
    (hbefore : ∀ g ∈ before, g.End.toNat < start₁)
    (htail : ∀ g ∈ tail, e₀ ≤ g.Start.toNat)
    (hstart : start.toNat = max start₁ gap.Start.toNat) (hstart₁ : start₁ ≤ gap.End.toNat)
    (hend : «end».toNat = min e₀ endGap.End.toNat) (he₀ : endGap.Start.toNat < e₀) (n : ℕ) :
    InGaps (before ++ gapBefore gap start ++
        (if «end» < endGap.End then [⟨«end», endGap.End⟩] else []) ++ tail) n ↔
      InGaps (before ++ (covered ++ [endGap]) ++ tail) n ∧ ¬ (start₁ ≤ n ∧ n < e₀) := by
  obtain ⟨hspan, hgap, heg⟩ := inGaps_span (n := n) hord hsplit
  have hne : start ≠ gap.Start ↔ start.toNat ≠ gap.Start.toNat := not_congr UInt64.toNat_inj.symm
  have hlt : «end» < endGap.End ↔ «end».toNat < endGap.End.toNat := UInt64.lt_iff_toNat_lt
  have hgapne := hord.2 gap (List.mem_cons_self ..)
  have hb : InGaps before n → n < start₁ := by
    rintro ⟨g, hg, -, hhi⟩
    have := hbefore g hg
    simp only [ByteInterval.hi] at hhi
    omega
  have ht : InGaps tail n → e₀ ≤ n := by
    rintro ⟨g, hg, hlo, -⟩
    have := htail g hg
    simp only [ByteInterval.lo] at hlo
    omega
  generalize covered ++ [endGap] = middle at hspan hgap heg
  rw [inGaps_append, inGaps_append, inGaps_append, inGaps_gapBefore, inGaps_endGapAfter,
    inGaps_append, inGaps_append, hne, hlt]
  simp only [or_assoc]
  constructor
  · rintro (hbn | hmid | hend' | htn)
    · exact ⟨.inl hbn, by have := hb hbn; omega⟩
    · exact ⟨.inr (.inl (hgap (by omega))), by omega⟩
    · exact ⟨.inr (.inl (heg (by omega))), by omega⟩
    · exact ⟨.inr (.inr htn), by have := ht htn; omega⟩
  · rintro ⟨hbn | hmid | htn, hframe⟩
    · exact .inl hbn
    · have := hspan hmid
      by_cases hn : n < start₁
      · exact .inr (.inl (by omega))
      · exact .inr (.inr (.inl (by omega)))
    · exact .inr (.inr (.inr htn))

end GapSet

/-! ## Cutting a frame to the gaps -/

section Cut

variable {gap endGap : ByteInterval} {frame : StreamFrame} {«end» : ByteCount}

theorem cutHead_offset :
    (cutHead gap frame).Offset.toNat = max frame.Offset.toNat gap.Start.toNat := by
  simp only [cutHead]
  split_ifs with h
  · have hlt := UInt64.lt_iff_toNat_lt.mp h
    have hsub := UInt64.toNat_sub_of_le _ _ (UInt64.le_of_lt h)
    rw [toNat_add_of_lt (by rw [hsub]; have := gap.Start.toNat_lt; omega), hsub]
    omega
  · have := UInt64.le_iff_toNat_le.mp (UInt64.not_lt.mp h)
    omega

theorem cutHead_data :
    (cutHead gap frame).Data = frame.Data.drop (gap.Start.toNat - frame.Offset.toNat) := by
  simp only [cutHead]
  split_ifs with h
  · simp [UInt64.toNat_sub_of_le _ _ (UInt64.le_of_lt h)]
  · have := UInt64.le_iff_toNat_le.mp (UInt64.not_lt.mp h)
    simp [show gap.Start.toNat - frame.Offset.toNat = 0 by omega]

theorem cutTail_offset : (cutTail endGap frame «end»).1.Offset = frame.Offset := by
  simp only [cutTail]
  split_ifs <;> rfl

theorem cutTail_end : (cutTail endGap frame «end»).2.toNat = min «end».toNat endGap.End.toNat := by
  simp only [cutTail]
  split_ifs with h
  · have hlt := UInt64.lt_iff_toNat_lt.mp h
    have hcut := UInt64.toNat_sub_of_le _ _ (UInt64.le_of_lt h)
    have hle : «end» - endGap.End ≤ «end» := by
      rw [UInt64.le_iff_toNat_le, hcut]
      omega
    rw [UInt64.toNat_sub_of_le _ _ hle, hcut]
    omega
  · have := UInt64.le_iff_toNat_le.mp (UInt64.not_lt.mp h)
    show «end».toNat = _
    omega

/-- The tail cut keeps the bytes up to the end of `endGap`. -/
theorem cutTail_data (hlen : frame.Offset.toNat + frame.Data.length = «end».toNat)
    (hle : frame.Offset.toNat ≤ endGap.End.toNat) :
    (cutTail endGap frame «end»).1.Data =
      frame.Data.take (endGap.End.toNat - frame.Offset.toNat) := by
  have hL : frame.DataLen.toNat = frame.Data.length :=
    toNat_DataLen (by have := «end».toNat_lt; omega)
  simp only [cutTail]
  split_ifs with h
  · have h' := UInt64.lt_iff_toNat_lt.mp h
    have hcut : («end» - endGap.End).toNat = «end».toNat - endGap.End.toNat :=
      UInt64.toNat_sub_of_le _ _ (UInt64.le_of_lt h)
    have hlenle : «end» - endGap.End ≤ frame.DataLen := by
      rw [UInt64.le_iff_toNat_le, hcut, hL]
      omega
    simp only [UInt64.toNat_sub_of_le _ _ hlenle, hcut, hL]
    congr 1
    omega
  · have := UInt64.le_iff_toNat_le.mp (UInt64.not_lt.mp h)
    show frame.Data = _
    exact (List.take_of_length_le (by omega)).symm

/-- A piece of a frame that carries the stream's bytes carries them too. -/
theorem carries_drop_take {D : List UInt8} (h : frame.Data <+: D.drop frame.Offset.toNat)
    (a b : ℕ) : (frame.Data.drop a).take b <+: D.drop (frame.Offset.toNat + a) := by
  rw [← List.drop_drop]
  exact (List.take_prefix _ _).trans (h.drop a)

end Cut

/-! ## Facts of the invariant -/

section Facts

variable {D : List UInt8} {s : streamFrameSorter}

theorem Invariant.ordered (hinv : Invariant D s) : Ordered s.gaps :=
  ⟨hinv.tiled.pairwise fun _ _ h => h.le, hinv.tiled.lo_lt_hi⟩

/-- Below `MaxByteCount`, the gaps run up to it. -/
theorem Invariant.exists_end_max (hD : D.length < 2 ^ 64 - 1) (hinv : Invariant D s) :
    ∃ g ∈ s.gaps, g.End.toNat = 2 ^ 64 - 1 := by
  have := hinv.readPosition_le
  simpa using hinv.tiled.exists_hi_eq (by simp; omega)

/-- A frame that lies between the gaps before `gap` and the start of `gap` is in no gap. -/
theorem not_inGaps_between {gaps before after : List ByteInterval} {gap : ByteInterval}
    {a b n : ℕ} (hord : Ordered gaps) (hgaps : gaps = before ++ gap :: after)
    (hbefore : ∀ g ∈ before, g.End.toNat < a) (hb : b ≤ gap.Start.toNat) (han : a ≤ n)
    (hnb : n < b) : ¬ InGaps gaps n := by
  rintro ⟨g, hg, hlo, hhi⟩
  simp only [ByteInterval.lo, ByteInterval.hi] at hlo hhi
  rw [hgaps] at hg hord
  rcases List.mem_append.mp hg with hg | hg
  · have := hbefore g hg
    omega
  · rcases List.mem_cons.mp hg with rfl | hg
    · omega
    · have h1 := List.rel_of_pairwise_cons (List.pairwise_append.mp hord.1).2.1 hg
      have h2 := hord.2 gap (by simp)
      omega

end Facts

/-! ## One push -/

section PushFrame

variable {D : List UInt8} {s s' : streamFrameSorter} {frame : StreamFrame} {err : Option String}

/-- Where a frame may start without overwriting a frame with data: where no frame with data is
queued, or right after a received byte. -/
def Fresh (s : streamFrameSorter) (o : ByteCount) : Prop :=
  (∀ f, s.queuedFrames o = some f → f.Data = []) ∨ (0 < o.toNat ∧ ¬ InGaps s.gaps (o.toNat - 1))

/-- A frame that carries the stream's bytes ends inside the stream. -/
theorem end_le_of_carries (hcarry : frame.Data <+: D.drop frame.Offset.toNat)
    (hne : frame.Data ≠ []) : frame.Offset.toNat + frame.Data.length ≤ D.length := by
  have hlen := hcarry.length_le
  rw [List.length_drop] at hlen
  have := List.length_pos_iff.mpr hne
  omega

/-- The end of a frame inside a short stream, as a number. -/
theorem toNat_end (hD : D.length < 2 ^ 64 - 1) (hcarry : frame.Data <+: D.drop frame.Offset.toNat)
    (hne : frame.Data ≠ []) :
    (frame.Offset + frame.DataLen).toNat = frame.Offset.toNat + frame.Data.length := by
  have := end_le_of_carries hcarry hne
  rw [toNat_add_of_lt (by rw [toNat_DataLen (by omega)]; omega), toNat_DataLen (by omega)]

/-- The first loop finds a gap, or the frame lies in no gap. -/
theorem findGap_of_invariant (hD : D.length < 2 ^ 64 - 1) (hinv : Invariant D s)
    {«end» : ByteCount} {e : String} (hlt : frame.Offset.toNat < «end».toNat)
    (hend : «end».toNat ≤ D.length) (hfg : findGap frame.Offset «end» s.gaps = .error e) :
    e = errDuplicateStreamData ∧
      ∀ n, frame.Offset.toNat ≤ n → n < «end».toNat → ¬ InGaps s.gaps n := by
  rcases findGap_error hfg with ⟨rfl, before, gap, after, hgaps, hbefore, hdup⟩ | hall
  · exact ⟨rfl, fun n h1 h2 => not_inGaps_between hinv.ordered hgaps
      (fun g hg => UInt64.lt_iff_toNat_lt.mp (hbefore g hg))
      (UInt64.le_iff_toNat_le.mp hdup) h1 h2⟩
  · -- the last gap runs to `MaxByteCount`, past the frame
    obtain ⟨g, hg, hmax⟩ := hinv.exists_end_max hD
    have := UInt64.lt_iff_toNat_lt.mp (hall g hg)
    omega

/-- Where the second loop stops, against the gap it started from: at that gap, or after it. -/
theorem endGap_of_split {gap endGap : ByteInterval} {after covered tail : List ByteInterval}
    (hord : Ordered (gap :: after)) (hsplit : gap :: after = covered ++ endGap :: tail) :
    (covered = [] ∧ endGap = gap ∧ after = tail) ∨
      (covered ≠ [] ∧ gap.End.toNat ≤ endGap.Start.toNat) := by
  rcases covered with _ | ⟨c, covered⟩
  · simp only [List.nil_append, List.cons.injEq] at hsplit
    exact .inl ⟨rfl, hsplit.1.symm, hsplit.2⟩
  · simp only [List.cons_append, List.cons.injEq] at hsplit
    obtain ⟨rfl, hsplit⟩ := hsplit
    have hord' : Ordered ((gap :: covered) ++ endGap :: tail) := by
      rw [List.cons_append, ← hsplit]
      exact hord
    exact .inr ⟨List.cons_ne_nil _ _, hord'.end_le_start gap (List.mem_cons_self ..)⟩

/-- The gaps the closing case analysis leaves, in the two ways the second loop can stop. -/
theorem fillGap_of_scan {gap : ByteInterval} {after covered tail : List ByteInterval}
    {scan : EndGapScan} {start «end» end' : ByteCount} (hord : Ordered (gap :: after))
    (hsplit : gap :: after = covered ++ scan.endGap :: tail)
    (hcov : covered ≠ [] → gap.End ≤ «end» ∧ scan.endGap.Start < «end»)
    (hcase : («end» < scan.endGap.End ∧
          scan.endGapAt = (if covered = [] then .gap else .next) ∧
          scan.following = keep scan.endGap scan.endGapAt tail) ∨
        (scan.endGap.End ≤ «end» ∧
          scan.endGapAt = (if covered = [] ∧ EndGapAt.gap = .gap then .gap else .removed) ∧
          scan.following = tail ∧ ∃ n t, tail = n :: t ∧ «end» ≤ n.Start))
    (hend' : end'.toNat = min «end».toNat scan.endGap.End.toNat) :
    fillGap start end' gap scan.endGap scan.endGapAt scan.following =
      gapBefore gap start ++
        (if end' < scan.endGap.End then [⟨end', scan.endGap.End⟩] else []) ++ tail := by
  have hwhere := endGap_of_split hord hsplit
  rcases hcase with ⟨hlt, hat, hfol⟩ | ⟨hle, hat, hfol, -⟩
  · -- the frame ends inside `endGap`
    have hlt' := UInt64.lt_iff_toNat_lt.mp hlt
    have hend : end' = «end» := UInt64.toNat_inj.mp (by omega)
    subst hend
    have hat' : scan.endGapAt = .gap ∧ scan.endGap = gap ∨
        scan.endGapAt = .next ∧ gap.End ≤ end' := by
      rcases hwhere with ⟨hnil, heq, -⟩ | ⟨hne, -⟩
      · exact .inl ⟨by simp [hat, hnil], heq⟩
      · exact .inr ⟨by simp [hat, hne], (hcov hne).1⟩
    rw [hfol, fillGap_inside hlt hat']
    simp [hlt]
  · -- the frame is cut at the end of `endGap`
    have hle' := UInt64.le_iff_toNat_le.mp hle
    have hend : end' = scan.endGap.End := UInt64.toNat_inj.mp (by omega)
    subst hend
    have hat' : scan.endGapAt = .gap ∧ scan.endGap = gap ∨
        scan.endGapAt = .removed ∧ gap.End ≤ scan.endGap.End := by
      rcases hwhere with ⟨hnil, heq, -⟩ | ⟨hne, hgap⟩
      · exact .inl ⟨by simp [hat, hnil], heq⟩
      · refine .inr ⟨by simp [hat, hne], UInt64.le_iff_toNat_le.mpr ?_⟩
        have := hord.2 scan.endGap (by rw [hsplit]; simp)
        omega
    rw [hfol, fillGap_atEnd hat']
    simp

/-- The gaps the second loop leaves after `endGap` start after the frame's end. -/
theorem tail_start_of_scan {covered tail : List ByteInterval} {endGap : ByteInterval}
    {«end» : ByteCount} (hord : Ordered (covered ++ endGap :: tail))
    (hstop : «end» < endGap.End ∨ ∃ n t, tail = n :: t ∧ «end» ≤ n.Start) :
    ∀ g ∈ tail, «end».toNat ≤ g.Start.toNat := by
  intro g hg
  have hafter := List.rel_of_pairwise_cons (List.pairwise_append.mp hord.1).2.1 hg
  rcases hstop with hlt | ⟨n, t, rfl, hn⟩
  · have := UInt64.lt_iff_toNat_lt.mp hlt
    omega
  · have hn' := UInt64.le_iff_toNat_le.mp hn
    rcases List.mem_cons.mp hg with rfl | hg
    · exact hn'
    · have h2 := List.rel_of_pairwise_cons
        (List.pairwise_cons.mp (List.pairwise_append.mp hord.1).2.1).2 hg
      have h3 := hord.2 n (by simp)
      omega

/-- The frame cut to the gaps keeps a byte.  It could only lose them all by starting at the end
of `gap`, in front of a received stretch; but a frame with data is queued where that stretch
starts, and a frame that starts there does not reach this loop. -/
theorem cut_nonempty {Q : ℕ → Option StreamFrame} {b : ℕ} {gap endGap : ByteInterval}
    {after covered tail : List ByteInterval} {o e : ℕ}
    (hI : Interleaved (Tiles Q fun f => f.Data.length) ByteInterval.lo ByteInterval.hi b
      (gap :: after) Protocol.MaxByteCount.toNat)
    (hwhere : (covered = [] ∧ endGap = gap ∧ after = tail) ∨
      (covered ≠ [] ∧ gap.End.toNat ≤ endGap.Start.toNat))
    (hstop : e < endGap.End.toNat ∨ ∃ n t, tail = n :: t ∧ e ≤ n.Start.toNat)
    (hfresh : o = gap.End.toNat → ∀ x, Q o = some x → x.Data = [])
    (ho : o < e) (hgs : gap.Start.toNat < e) (hge : o ≤ gap.End.toNat)
    (hegne : endGap.Start.toNat < endGap.End.toNat) :
    max o gap.Start.toNat < min e endGap.End.toNat := by
  have hgapne := hI.2.1
  simp only [ByteInterval.lo, ByteInterval.hi] at hgapne
  rcases hwhere with ⟨-, rfl, rfl⟩ | ⟨-, h⟩
  · rcases hstop with hlt | ⟨n, t, rfl, hn⟩
    · omega
    · -- the frame would start where `endGap` ends, in front of the stretch up to `n`
      by_contra hcontra
      have ho' : o = endGap.End.toNat := by omega
      obtain ⟨x, hx, hxpos, -⟩ := hI.2.2.1.head (by simp; omega)
      simp [hfresh ho' x (ho' ▸ hx)] at hxpos
  · omega

/-- The gaps after a push: the gaps before `gap`, what is left of `gap` before the frame and of
`endGap` after it, and the gaps after `endGap`.  They miss what the gaps missed before, but for
the frame's bytes. -/
theorem inGaps_push {gaps before after covered tail : List ByteInterval}
    {gap endGap : ByteInterval} {o e : ℕ} {start «end» : ByteCount}
    (hgaps : gaps = before ++ gap :: after) (hord : Ordered (gap :: after))
    (hsplit : gap :: after = covered ++ endGap :: tail)
    (hbefore : ∀ g ∈ before, g.End.toNat < o) (htail : ∀ g ∈ tail, e ≤ g.Start.toNat)
    (hstart : start.toNat = max o gap.Start.toNat) (hge : o ≤ gap.End.toNat)
    (hend : «end».toNat = min e endGap.End.toNat) (heg : endGap.Start.toNat < e) (n : ℕ) :
    InGaps (before ++ (gapBefore gap start ++
        (if «end» < endGap.End then [⟨«end», endGap.End⟩] else []) ++ tail)) n ↔
      InGaps gaps n ∧ ¬ (o ≤ n ∧ n < e) := by
  have h := inGaps_fill hord hsplit hbefore htail hstart hge hend heg n
  rw [hgaps, hsplit]
  simpa only [List.append_assoc, List.singleton_append, List.cons_append, List.nil_append]
    using h

/-- One push of a frame that carries the stream's bytes, from where no frame with data is queued:
it is accepted, or it was a duplicate, or the gaps overflowed.  Either way the gaps have lost
exactly the frame's bytes.  Unless they overflowed the invariant holds again; if they did, no
frame was queued. -/
theorem pushFrame_spec (hD : D.length < 2 ^ 64 - 1) (hinv : Invariant D s)
    (hcarry : frame.Data <+: D.drop frame.Offset.toNat) (hne : frame.Data ≠ [])
    (hfresh : Fresh s frame.Offset) (hpush : s.pushFrame frame = (s', err)) :
    (err = none ∨ err = some errDuplicateStreamData ∨
        err = some errTooManyGapsInReceivedStreamData) ∧
      s'.readPosition = s.readPosition ∧
      (∀ n, InGaps s'.gaps n ↔ InGaps s.gaps n ∧
        ¬ (frame.Offset.toNat ≤ n ∧ n < frame.Offset.toNat + frame.Data.length)) ∧
      (err = some errTooManyGapsInReceivedStreamData →
        ∀ k f, s'.queuedFrames k = some f → s.queuedFrames k = some f) ∧
      (err ≠ some errTooManyGapsInReceivedStreamData → Invariant D s') := by
  have hpos := List.length_pos_iff.mpr hne
  have hendD := end_le_of_carries hcarry hne
  have hendNat := toNat_end hD hcarry hne
  have hord := hinv.ordered
  simp only [pushFrame] at hpush
  generalize frame.Offset + frame.DataLen = «end» at hpush hendNat
  cases hfg : findGap frame.Offset «end» s.gaps with
  | error e =>
    -- a duplicate: nothing changes, and the frame's bytes were in no gap
    simp only [hfg, Prod.mk.injEq] at hpush
    obtain ⟨rfl, rfl⟩ := hpush
    obtain ⟨rfl, hout⟩ := findGap_of_invariant hD hinv (by omega) (by omega) hfg
    refine ⟨.inr (.inl rfl), rfl, fun n => ⟨fun hn => ⟨hn, ?_⟩, And.left⟩,
      fun _ _ _ => id,
      fun _ => hinv⟩
    rintro ⟨h1, h2⟩
    exact hout n h1 (by omega) hn
  | ok r =>
    obtain ⟨before, gap, after⟩ := r
    obtain ⟨hgaps, hbefore, hgs, hge⟩ := findGap_ok hfg
    have hgs' := UInt64.lt_iff_toNat_lt.mp hgs
    have hge' := UInt64.le_iff_toNat_le.mp hge
    simp only [hfg] at hpush
    obtain ⟨b, hIbefore, hI⟩ := interleaved_append.mp (hgaps ▸ hinv.tiled)
    have hordg : Ordered (gap :: after) := by
      rw [hgaps] at hord
      exact ⟨(List.pairwise_append.mp hord.1).2.1,
        fun g hg => hord.2 g (List.mem_append_right _ hg)⟩
    have hgapne := hordg.2 gap (List.mem_cons_self ..)
    have hreach : ∃ r ∈ gap :: after, «end» < r.End := by
      obtain ⟨g, hg, hmax⟩ := hinv.exists_end_max hD
      rw [hgaps] at hg
      rcases List.mem_append.mp hg with hg | hg
      · have := UInt64.lt_iff_toNat_lt.mp (hbefore g hg)
        omega
      · exact ⟨g, hg, UInt64.lt_iff_toNat_lt.mpr (by omega)⟩
    generalize hscan : findEndGap «end» s.queuedFrames gap .gap after = scan at hpush
    obtain ⟨covered, tail, hsplit, herr, hsub, hsame, hcov, hcase⟩ :=
      findEndGap_spec hscan hordg hreach
    simp only [herr] at hpush
    generalize hcut : cutTail scan.endGap (cutHead gap frame) «end» = r at hpush
    obtain ⟨frame', end'⟩ := r
    -- the frame cut to the gaps is `[start, end')`, with `start = max offset gap.Start`
    -- and `end' = min end endGap.End`
    have hoff : frame'.Offset = (cutHead gap frame).Offset := by
      have h : (cutTail scan.endGap (cutHead gap frame) «end»).1.Offset =
          (cutHead gap frame).Offset := cutTail_offset
      rwa [hcut] at h
    have hend' : end'.toNat = min «end».toNat scan.endGap.End.toNat := by
      have h : (cutTail scan.endGap (cutHead gap frame) «end»).2.toNat =
          min «end».toNat scan.endGap.End.toNat := cutTail_end
      rwa [hcut] at h
    have hstart : frame'.Offset.toNat = max frame.Offset.toNat gap.Start.toNat := by
      rw [hoff, cutHead_offset]
    have hwhere := endGap_of_split hordg hsplit
    have hegne := hordg.2 scan.endGap (by rw [hsplit]; simp)
    have hstop : «end» < scan.endGap.End ∨ ∃ n t, tail = n :: t ∧ «end» ≤ n.Start :=
      hcase.imp And.left fun h => h.2.2.2
    have hnonempty : frame'.Offset.toNat < end'.toNat := by
      rw [hstart, hend']
      refine cut_nonempty hI hwhere (hstop.imp UInt64.lt_iff_toNat_lt.mp
        fun ⟨n, t, htl, hn⟩ => ⟨n, t, htl, UInt64.le_iff_toNat_le.mp hn⟩) ?_ (by omega) hgs'
        hge' hegne
      intro ho x hx
      have hq : s.queuedFrames frame.Offset = some x := by simpa [queuedAt] using hx
      rcases hfresh with hnil | ⟨hpos₀, hgap⟩
      · exact hnil x hq
      · exact absurd ⟨gap, by rw [hgaps]; simp, by simp; omega, by simp; omega⟩ hgap
    have hdata : frame'.Data = (frame.Data.drop (gap.Start.toNat - frame.Offset.toNat)).take
        (scan.endGap.End.toNat - frame'.Offset.toNat) := by
      have hlen : (cutHead gap frame).Offset.toNat + (cutHead gap frame).Data.length =
          «end».toNat := by
        rw [cutHead_offset, cutHead_data, List.length_drop]
        omega
      have h : (cutTail scan.endGap (cutHead gap frame) «end»).1.Data =
          (cutHead gap frame).Data.take
            (scan.endGap.End.toNat - (cutHead gap frame).Offset.toNat) :=
        cutTail_data hlen (by rw [cutHead_offset]; omega)
      rw [hcut, cutHead_data] at h
      rw [h, hoff]
    have hlen' : frame'.Data.length = end'.toNat - frame'.Offset.toNat := by
      rw [hdata, List.length_take, List.length_drop]
      omega
    have hcarry' : frame'.Data <+: D.drop frame'.Offset.toNat := by
      have h := carries_drop_take hcarry (gap.Start.toNat - frame.Offset.toNat)
        (scan.endGap.End.toNat - frame'.Offset.toNat)
      rwa [← hdata, show frame.Offset.toNat + (gap.Start.toNat - frame.Offset.toNat) =
        frame'.Offset.toNat by omega] at h
    -- the gaps lose exactly the frame's bytes, whether or not they then overflow
    generalize hfill : fillGap frame'.Offset end' gap scan.endGap scan.endGapAt scan.following =
      filled at hpush
    rw [fillGap_of_scan hordg hsplit hcov hcase hend'] at hfill
    have htail : ∀ g ∈ tail, frame.Offset.toNat + frame.Data.length ≤ g.Start.toNat := by
      rw [← hendNat]
      exact tail_start_of_scan (hsplit ▸ hordg) hstop
    have hgapset := inGaps_push hgaps hordg hsplit
      (fun g hg => UInt64.lt_iff_toNat_lt.mp (hbefore g hg)) htail hstart hge'
      (by rw [hend', hendNat]) (by
        rcases hwhere with ⟨-, heq, -⟩ | ⟨hne', -⟩
        · rw [heq]
          omega
        · have := UInt64.lt_iff_toNat_lt.mp (hcov hne').2
          omega)
    rw [hfill] at hgapset
    simp only at hpush
    split_ifs at hpush with hcount
    · -- too many gaps: the gaps have changed, but the frame is not queued
      simp only [Prod.mk.injEq] at hpush
      obtain ⟨rfl, rfl⟩ := hpush
      exact ⟨.inr (.inr rfl), rfl, hgapset, fun _ => hsub, fun h => absurd rfl h⟩
    · simp only [Prod.mk.injEq] at hpush
      obtain ⟨rfl, rfl⟩ := hpush
      refine ⟨.inl rfl, rfl, hgapset, fun h => by simp at h,
        fun _ => ⟨?_, hinv.readPosition_le, ?_⟩⟩
      · -- the frames: the new one is placed, the others were
        intro k f hk
        dsimp only at hk
        by_cases hkk : k = frame'.Offset
        · subst hkk
          simp only [Function.update_self, Option.some.injEq] at hk
          subst hk
          refine ⟨rfl, hcarry', fun n h1 h2 hn => ((hgapset n).mp hn).2 ⟨by omega, by omega⟩,
            fun hnil => ?_⟩
          simp [hnil] at hlen'
          omega
        · rw [Function.update_of_ne hkk] at hk
          exact (hinv.placed k f (hsub k f hk)).mono fun n hn => ((hgapset n).mp hn).1
      · -- the tiling: the stretches before `gap` and after `endGap` are untouched
        have hQ : ∀ k, k < 2 ^ 64 → k < gap.Start.toNat ∨ scan.endGap.End.toNat ≤ k →
            queuedAt (Function.update scan.queuedFrames frame'.Offset (some frame')) k =
              queuedAt s.queuedFrames k := by
          intro k hk hout
          rw [queuedAt_update hk, if_neg (by omega)]
          unfold queuedAt
          apply hsame
          rw [Nat.toUInt64_eq, UInt64.toNat_ofNat', Nat.mod_eq_of_lt hk]
          omega
        have hframeT : Tiles (queuedAt (Function.update scan.queuedFrames frame'.Offset
            (some frame'))) (fun f => f.Data.length) frame'.Offset.toNat end'.toNat := by
          have h := @Tiles.single StreamFrame
            (queuedAt (Function.update scan.queuedFrames frame'.Offset (some frame')))
            (fun f => f.Data.length) frame'.Offset.toNat frame'
            (by rw [queuedAt_update frame'.Offset.toNat_lt, if_pos rfl]) (by omega)
          have hsum : frame'.Offset.toNat + (end'.toNat - frame'.Offset.toNat) = end'.toNat := by
            omega
          rwa [hlen', hsum] at h
        have hb : b ≤ gap.Start.toNat := hI.1.le
        refine interleaved_append.mpr ⟨b, ?_, ?_⟩
        · exact hIbefore.imp (fun _ _ h => h.le) fun x y hx hy hxy =>
            hxy.congr fun k _ hky => hQ k (by omega) (.inl (by omega))
        · rw [hsplit] at hI
          rw [← hfill]
          refine interleaved_fill hI hsplit hQ hframeT (by rw [hstart]; omega) (by omega)
            fun heq => ?_
          rcases hstop with hlt | ⟨n, t, htl, -⟩
          · have := UInt64.lt_iff_toNat_lt.mp hlt
            have := congrArg UInt64.toNat heq
            omega
          · exact ⟨n, t, htl⟩

/-- A FIN frame without data queued at the end of the stream leaves every tiling as it was: no
queued frame with data reaches the end of the stream. -/
theorem Invariant.tiled_update_end (hinv : Invariant D s) {u : ByteCount}
    {v : Option StreamFrame} (hu : u.toNat = D.length) :
    Interleaved (Tiles (queuedAt (Function.update s.queuedFrames u v)) fun f => f.Data.length)
      ByteInterval.lo ByteInterval.hi s.readPosition.toNat s.gaps Protocol.MaxByteCount.toNat := by
  refine hinv.tiled.imp (fun _ _ h => h.le) fun x y _ hy hxy => hxy.congr fun k hk hky => ?_
  have hk64 : k < 2 ^ 64 := by simp at hy; omega
  obtain ⟨k', x', -, hk'k, hkk', hx'⟩ := hxy.exists_piece hk hky
  have hk'64 : k' < 2 ^ 64 := by omega
  have hplaced := hinv.placed _ _ hx'
  have hend := hplaced.end_le
  rw [Nat.toUInt64_eq, UInt64.toNat_ofNat', Nat.mod_eq_of_lt hk'64] at hend
  rw [queuedAt_update hk64, if_neg (by omega)]

/-- `Push` of a frame that carries the stream's bytes, where a frame without data and with its FIN
bit is pushed at the end of the stream. -/
theorem Push_spec (hD : D.length < 2 ^ 64 - 1) (hinv : Invariant D s)
    (hcarry : frame.Data <+: D.drop frame.Offset.toNat)
    (hfin : frame.Data = [] → frame.FinBit → frame.Offset.toNat = D.length)
    (hpush : s.Push frame = (s', err)) :
    (err = none ∨ err = some errDuplicateStreamData ∨ err = some errEmptyStreamData ∨
        err = some errTooManyGapsInReceivedStreamData) ∧
      s'.readPosition = s.readPosition ∧
      (∀ n, InGaps s'.gaps n ↔ InGaps s.gaps n ∧
        ¬ (frame.Offset.toNat ≤ n ∧ n < frame.Offset.toNat + frame.Data.length)) ∧
      (err = some errTooManyGapsInReceivedStreamData →
        ∀ k f, s'.queuedFrames k = some f → s.queuedFrames k = some f) ∧
      (err ≠ some errTooManyGapsInReceivedStreamData → Invariant D s') := by
  have hL : frame.Data.length < 2 ^ 64 := by
    have := hcarry.length_le
    rw [List.length_drop] at this
    omega
  unfold Push at hpush
  by_cases h0 : frame.DataLen = 0
  · -- no data: a FIN frame is queued as it is
    have hnil : frame.Data = [] := by
      have := toNat_DataLen hL
      rw [h0] at this
      exact List.eq_nil_of_length_eq_zero (by simpa using this.symm)
    rw [if_pos h0] at hpush
    by_cases hf : frame.FinBit
    · simp only [hf, if_true, Prod.mk.injEq] at hpush
      obtain ⟨rfl, rfl⟩ := hpush
      refine ⟨.inl rfl, rfl, fun n => by simp [hnil], fun h => by simp at h,
        fun _ => ⟨fun k f hk => ?_, hinv.readPosition_le, hinv.tiled_update_end (hfin hnil hf)⟩⟩
      dsimp only at hk
      by_cases hkk : k = frame.Offset
      · subst hkk
        simp only [Function.update_self, Option.some.injEq] at hk
        subst hk
        exact ⟨rfl, by simp [hnil], fun n h1 h2 => by simp [hnil] at h2; omega,
          fun _ => ⟨hf, hfin hnil hf⟩⟩
      · rw [Function.update_of_ne hkk] at hk
        exact hinv.placed k f hk
    · simp only [hf, Bool.false_eq_true, if_false, Prod.mk.injEq] at hpush
      obtain ⟨rfl, rfl⟩ := hpush
      exact ⟨.inr (.inr (.inl rfl)), rfl, fun n => by simp [hnil],
        fun _ _ _ => id, fun _ => hinv⟩
  · have hne : frame.Data ≠ [] := by
      intro hnil
      apply h0
      simp [StreamFrame.DataLen, hnil]
    have hendD := end_le_of_carries hcarry hne
    have hpos := List.length_pos_iff.mpr hne
    rw [if_neg h0] at hpush
    cases hq : s.queuedFrames frame.Offset with
    | none =>
      simp only [hq] at hpush
      obtain ⟨herr, hrest⟩ := pushFrame_spec hD hinv hcarry hne
        (.inl fun f hf => by simp [hq] at hf) hpush
      refine ⟨?_, hrest⟩
      rcases herr with h | h | h
      exacts [.inl h, .inr (.inl h), .inr (.inr (.inr h))]
    | some oldFrame =>
      -- a frame queued at the same offset holds the frame's first bytes
      have hold := hinv.placed _ _ hq
      have holdne : oldFrame.Data ≠ [] := by
        intro hnil
        have := (hold.fin hnil).2
        omega
      have holdL : oldFrame.Data.length < 2 ^ 64 := by
        have := hold.end_le
        omega
      simp only [hq] at hpush
      by_cases hdup : frame.DataLen ≤ oldFrame.DataLen
      · -- a duplicate
        rw [if_pos hdup, Prod.mk.injEq] at hpush
        obtain ⟨rfl, rfl⟩ := hpush
        have hle : frame.Data.length ≤ oldFrame.Data.length := by
          rw [← toNat_DataLen hL, ← toNat_DataLen holdL]
          exact UInt64.le_iff_toNat_le.mp hdup
        refine ⟨.inr (.inl rfl), rfl, fun n => ⟨fun hn => ⟨hn, ?_⟩, And.left⟩,
          fun _ _ _ => id, fun _ => hinv⟩
        rintro ⟨h1, h2⟩
        exact hold.received n h1 (by omega) hn
      · -- a longer duplicate: push what follows the queued frame
        rw [if_neg hdup] at hpush
        have hlt : oldFrame.Data.length < frame.Data.length := by
          rw [← toNat_DataLen hL, ← toNat_DataLen holdL]
          exact UInt64.lt_iff_toNat_lt.mp (UInt64.not_le.mp hdup)
        have holdpos := List.length_pos_iff.mpr holdne
        have hoff : (frame.Offset + oldFrame.DataLen).toNat =
            frame.Offset.toNat + oldFrame.Data.length := by
          rw [toNat_add_of_lt (by rw [toNat_DataLen holdL]; omega), toNat_DataLen holdL]
        obtain ⟨herr, hrp, hgaps, hsub, hinv'⟩ := pushFrame_spec hD hinv
          (by
            simp only [hoff, toNat_DataLen holdL, ← List.drop_drop]
            exact hcarry.drop _)
          (by simp [toNat_DataLen holdL]; omega)
          (.inr ⟨by simp only [hoff]; omega, hold.received _
            (by simp only [hoff]; omega) (by simp only [hoff]; omega)⟩) hpush
        refine ⟨?_, hrp, fun n => ?_, hsub, hinv'⟩
        · rcases herr with h | h | h
          exacts [.inl h, .inr (.inl h), .inr (.inr (.inr h))]
        · -- the queued frame's bytes were received already
          rw [hgaps n]
          simp only [hoff, toNat_DataLen holdL, List.length_drop]
          constructor
          · rintro ⟨hn, hnot⟩
            refine ⟨hn, fun ⟨h1, h2⟩ => hnot ⟨?_, by omega⟩⟩
            by_contra h3
            exact hold.received n h1 (by omega) hn
          · rintro ⟨hn, hnot⟩
            exact ⟨hn, fun ⟨h1, h2⟩ => hnot ⟨by omega, by omega⟩⟩

/-- Why a run must not overflow the gaps: a `Push` that fails with
`errTooManyGapsInReceivedStreamData` has already cut its bytes out of the gaps, but queues nothing.
A byte of the frame that was missing before is then outside every gap, and no queued frame holds
it, so the gaps no longer tell which bytes are missing and `Pop` has nothing that could return it. -/
theorem Push_tooManyGaps_loses_bytes (hD : D.length < 2 ^ 64 - 1) (hinv : Invariant D s)
    (hcarry : frame.Data <+: D.drop frame.Offset.toNat)
    (hfin : frame.Data = [] → frame.FinBit → frame.Offset.toNat = D.length)
    (hpush : s.Push frame = (s', some errTooManyGapsInReceivedStreamData)) {n : Nat}
    (hn : frame.Offset.toNat ≤ n ∧ n < frame.Offset.toNat + frame.Data.length)
    (hmissing : InGaps s.gaps n) :
    ¬ InGaps s'.gaps n ∧ ∀ k f, s'.queuedFrames k = some f →
      ¬ (k.toNat ≤ n ∧ n < k.toNat + f.Data.length) := by
  obtain ⟨-, -, hgaps, hqueued, -⟩ := Push_spec hD hinv hcarry hfin hpush
  refine ⟨fun hn' => ((hgaps n).mp hn').2 hn, fun k f hf ⟨hk, hkn⟩ => ?_⟩
  -- the frame was queued before the call, so its bytes were not in the gaps then
  exact (hinv.placed k f (hqueued rfl k f hf)).received n hk hkn hmissing

end PushFrame

/-! ## One pop -/

section Pop

variable {D : List UInt8} {s s' : streamFrameSorter} {out : Option StreamFrame}

/-- Below the stream's end, the read position is before the first gap, and is received unless it
is that gap's start. -/
theorem Invariant.first_gap (hD : D.length < 2 ^ 64 - 1) (hinv : Invariant D s) :
    ∃ g gs, s.gaps = g :: gs ∧
      Tiles (queuedAt s.queuedFrames) (fun f => f.Data.length) s.readPosition.toNat
        g.Start.toNat ∧
      Interleaved (Tiles (queuedAt s.queuedFrames) fun f => f.Data.length) ByteInterval.lo
        ByteInterval.hi g.End.toNat gs Protocol.MaxByteCount.toNat := by
  have hrp := hinv.readPosition_le
  have htiled := hinv.tiled
  rcases hgaps : s.gaps with _ | ⟨g, gs⟩
  · rw [hgaps] at htiled
    simp at htiled
    omega
  · rw [hgaps] at htiled
    exact ⟨g, gs, rfl, htiled.1, htiled.2.2⟩

/-- The frame queued at the read position has data exactly when the byte there was received. -/
theorem Invariant.head_data_iff (hD : D.length < 2 ^ 64 - 1) (hinv : Invariant D s) :
    (∃ f, s.Head = some f ∧ f.Data ≠ []) ↔ ¬ InGaps s.gaps s.readPosition.toNat := by
  obtain ⟨g, gs, hgaps, hfirst, hrest⟩ := hinv.first_gap hD
  constructor
  · rintro ⟨f, hf, hne⟩ hin
    have hpos := List.length_pos_iff.mpr hne
    exact (hinv.placed _ _ hf).received _ (Nat.le_refl _) (by omega) hin
  · intro hnot
    have hlt : s.readPosition.toNat < g.Start.toNat := by
      have hle := hfirst.le
      have hgne := hinv.ordered.2 g (by simp [hgaps])
      by_contra h
      exact hnot ⟨g, by simp [hgaps], by simp; omega, by simp; omega⟩
    obtain ⟨x, hx, hpos, -⟩ := hfirst.head hlt
    refine ⟨x, by simpa [Head, queuedAt] using hx, fun hnil => ?_⟩
    simp [hnil] at hpos

/-- `Pop` returns the frame at the read position, which carries the stream's bytes there, and
moves the read position past them; with nothing there, it changes nothing. -/
theorem Pop_spec (hD : D.length < 2 ^ 64 - 1) (hinv : Invariant D s) (hpop : s.Pop = (s', out)) :
    Invariant D s' ∧ s'.gaps = s.gaps ∧
      ((out = none ∧ s' = s) ∨
        ∃ f, out = some f ∧ f.Offset = s.readPosition ∧
          f.Data <+: D.drop s.readPosition.toNat ∧
          s'.readPosition.toNat = s.readPosition.toNat + f.Data.length) := by
  unfold Pop at hpop
  cases hh : s.Head with
  | none =>
    simp only [hh, Prod.mk.injEq] at hpop
    obtain ⟨rfl, rfl⟩ := hpop
    exact ⟨hinv, rfl, .inl ⟨rfl, rfl⟩⟩
  | some f =>
    simp only [hh, Prod.mk.injEq] at hpop
    obtain ⟨rfl, rfl⟩ := hpop
    have hplaced := hinv.placed _ _ hh
    have hend := hplaced.end_le
    have hrp : (s.readPosition + f.DataLen).toNat = s.readPosition.toNat + f.Data.length := by
      rw [toNat_add_of_lt (by rw [toNat_DataLen (by omega)]; omega), toNat_DataLen (by omega)]
    refine ⟨⟨fun k g hk => ?_, by simp only [hrp]; omega, ?_⟩, rfl,
      .inr ⟨f, rfl, hplaced.offset, hplaced.carries, hrp⟩⟩
    · dsimp only at hk
      by_cases hkk : k = f.Offset
      · simp [hkk] at hk
      · rw [Function.update_of_ne hkk] at hk
        exact hinv.placed k g hk
    · -- the tiling now starts after the frame, whose entry is gone
      obtain ⟨g, gs, hgaps, hfirst, hrest⟩ := hinv.first_gap hD
      have hgne := hinv.ordered.2 g (by simp [hgaps])
      have hMax := (hinv.tiled.bounds (fun _ _ h => h.le)) g (by simp [hgaps])
      simp only [ByteInterval.hi, toNat_MaxByteCount] at hMax
      have hQ : ∀ k, s.readPosition.toNat < k → k < 2 ^ 64 →
          queuedAt (Function.update s.queuedFrames f.Offset none) k =
            queuedAt s.queuedFrames k := by
        intro k hk hk64
        rw [queuedAt_update hk64, if_neg (by rw [hplaced.offset]; omega)]
      -- the frame queued at the read position is the first piece of the first stretch
      have hhead : ∀ x, queuedAt s.queuedFrames s.readPosition.toNat = some x → x = f := by
        intro x hx
        have : s.Head = some x := by simpa [Head, queuedAt] using hx
        rw [hh] at this
        exact (Option.some.inj this).symm
      have hfirst' : Tiles (queuedAt (Function.update s.queuedFrames f.Offset none))
          (fun f => f.Data.length) (s.readPosition.toNat + f.Data.length) g.Start.toNat := by
        by_cases hnil : f.Data = []
        · -- a FIN frame without data: the first stretch is empty
          have heq : s.readPosition.toNat = g.Start.toNat := by
            by_contra hne
            obtain ⟨x, hx, hpos, -⟩ := hfirst.head (by have := hfirst.le; omega)
            rw [hhead x hx, hnil] at hpos
            simp at hpos
          simpa [hnil, heq] using Tiles.refl _
        · have hpos := List.length_pos_iff.mpr hnil
          have hlt : s.readPosition.toNat < g.Start.toNat := by
            by_contra h
            have := hfirst.le
            exact hplaced.received s.readPosition.toNat (Nat.le_refl _) (by omega)
              ⟨g, by simp [hgaps], by simp; omega, by simp; omega⟩
          obtain ⟨x, hx, -, hx'⟩ := hfirst.head hlt
          rw [hhead x hx] at hx'
          exact hx'.congr fun k hk hkg => hQ k (by omega) (by omega)
      show Interleaved _ _ _ (s.readPosition + f.DataLen).toNat s.gaps _
      rw [hrp, hgaps]
      have hle := hfirst.le
      refine ⟨hfirst', hgne, hrest.imp (fun _ _ h => h.le) fun x y hx hy hxy =>
        hxy.congr fun k hk hky => hQ k (by omega) (by simp at hy; omega)⟩

end Pop

/-! ## Whole runs -/

section Run

variable {D : List UInt8} {R : ℕ → Prop} {s s' : streamFrameSorter} {P : List StreamFrame}

/-- The bytes that some frame pushed by the calls carried. -/
def Received (calls : List Call) (n : ℕ) : Prop :=
  ∃ f ∈ pushed calls, f.Offset.toNat ≤ n ∧ n < f.Offset.toNat + f.Data.length

/-- The frames follow each other from `a`, each starting where the one before ended, up to `b`. -/
def Contiguous : ℕ → List StreamFrame → ℕ → Prop
  | a, [], b => a = b
  | a, f :: fs, b => f.Offset.toNat = a ∧ Contiguous (a + f.Data.length) fs b

theorem Contiguous.snoc {a b : ℕ} {fs : List StreamFrame} {f : StreamFrame}
    (h : Contiguous a fs b) (hf : f.Offset.toNat = b) :
    Contiguous a (fs ++ [f]) (b + f.Data.length) := by
  induction fs generalizing a with
  | nil =>
    have hab : a = b := h
    subst hab
    exact ⟨hf, rfl⟩
  | cons g fs ih => exact ⟨h.1, ih h.2⟩

/-- What a run keeps true, having received the bytes `received` and popped the frames `popped`:
the sorter's invariant, gaps that miss exactly the bytes not received, and popped frames that
follow each other from the start of the stream and hold its bytes up to the read position. -/
structure Reassembled (D : List UInt8) (received : ℕ → Prop) (s : streamFrameSorter)
    (popped : List StreamFrame) : Prop where
  invariant : Invariant D s
  gaps : ∀ n < 2 ^ 64 - 1, InGaps s.gaps n ↔ ¬ received n
  data : popped.flatMap (·.Data) = D.take s.readPosition.toNat
  contiguous : Contiguous 0 popped s.readPosition.toNat

theorem Reassembled.congr {R' : ℕ → Prop} (h : Reassembled D R s P) (hR : ∀ n, R n ↔ R' n) :
    Reassembled D R' s P :=
  ⟨h.invariant, fun n hn => (h.gaps n hn).trans (not_congr (hR n)), h.data, h.contiguous⟩

theorem reassembled_new :
    Reassembled D (fun _ => False) newStreamFrameSorter [] := by
  refine ⟨⟨fun k f hk => by simp [newStreamFrameSorter] at hk, by simp [newStreamFrameSorter],
    ?_⟩, fun n hn => ?_, by simp [newStreamFrameSorter], rfl⟩
  · simp only [newStreamFrameSorter, interleaved_cons, interleaved_nil, ByteInterval.lo,
      ByteInterval.hi]
    refine ⟨Tiles.refl _, ?_, ?_⟩ <;> simp
  · simp [InGaps, newStreamFrameSorter]
    omega

/-- A push that does not overflow the gaps adds the frame's bytes to those received. -/
theorem Reassembled.push (hD : D.length < 2 ^ 64 - 1) (h : Reassembled D R s P)
    {frame : StreamFrame} {err : Option String}
    (hcarry : frame.Data <+: D.drop frame.Offset.toNat)
    (hfin : frame.Data = [] → frame.FinBit → frame.Offset.toNat = D.length)
    (hpush : s.Push frame = (s', err)) (herr : err ≠ some errTooManyGapsInReceivedStreamData) :
    (err = none ∨ err = some errDuplicateStreamData ∨ err = some errEmptyStreamData) ∧
      Reassembled D (fun n => R n ∨
        (frame.Offset.toNat ≤ n ∧ n < frame.Offset.toNat + frame.Data.length)) s' P := by
  obtain ⟨hres, hrp, hgaps, -, hinv'⟩ := Push_spec hD h.invariant hcarry hfin hpush
  replace hinv' := hinv' herr
  refine ⟨?_, ⟨hinv', fun n hn => ?_, hrp ▸ h.data, hrp ▸ h.contiguous⟩⟩
  · rcases hres with h1 | h1 | h1 | h1
    exacts [.inl h1, .inr (.inl h1), .inr (.inr h1), absurd h1 herr]
  · rw [hgaps n, h.gaps n hn, not_or]

/-- A pop appends to the popped frames the stream's bytes at the read position. -/
theorem Reassembled.pop (hD : D.length < 2 ^ 64 - 1) (h : Reassembled D R s P)
    {out : Option StreamFrame} (hpop : s.Pop = (s', out)) :
    Reassembled D R s' (P ++ out.toList) := by
  obtain ⟨hinv', hgaps, hout⟩ := Pop_spec hD h.invariant hpop
  rcases hout with ⟨rfl, rfl⟩ | ⟨f, rfl, hoff, hcarry, hrp⟩
  · simpa using h
  · refine ⟨hinv', fun n hn => hgaps ▸ h.gaps n hn, ?_, ?_⟩
    · simp only [Option.toList_some, List.flatMap_append, List.flatMap_cons, List.flatMap_nil,
        List.append_nil, h.data, hrp, List.take_add]
      congr 1
      exact List.prefix_iff_eq_take.mp hcarry
    · rw [hrp]
      exact h.contiguous.snoc (by rw [hoff])

/-- Every run of calls keeps what it received and popped in step with the stream. -/
theorem Reassembled.run (hD : D.length < 2 ^ 64 - 1) (calls : List Call)
    (h : Reassembled D R s P)
    (hcarry : ∀ f ∈ pushed calls, f.Data <+: D.drop f.Offset.toNat)
    (hfin : ∀ f ∈ pushed calls, f.Data = [] → f.FinBit → f.Offset.toNat = D.length)
    (herr : errTooManyGapsInReceivedStreamData ∉ (run s calls).errors) :
    (∀ e ∈ (run s calls).errors, e = errDuplicateStreamData ∨ e = errEmptyStreamData) ∧
      Reassembled D (fun n => R n ∨ Received calls n) (run s calls).sorter
        (P ++ (run s calls).popped) := by
  induction calls generalizing R s P with
  | nil =>
    refine ⟨by simp [run], ?_⟩
    simpa [run] using h.congr fun n => by simp [Received, pushed]
  | cons call calls ih =>
    cases call with
    | push frame =>
      generalize hpush : s.Push frame = r
      obtain ⟨s', err⟩ := r
      simp only [run, hpush, List.mem_append] at herr ⊢
      have herr' : err ≠ some errTooManyGapsInReceivedStreamData := by
        rintro rfl
        exact herr (.inl (by simp))
      obtain ⟨hres, hstep⟩ := h.push hD (hcarry frame (by simp [pushed]))
        (hfin frame (by simp [pushed])) hpush herr'
      obtain ⟨herrs, hrun⟩ := ih hstep (fun f hf => hcarry f (by simp [pushed, hf]))
        (fun f hf => hfin f (by simp [pushed, hf])) (fun h' => herr (.inr h'))
      refine ⟨fun e he => ?_, hrun.congr fun n => ?_⟩
      · rcases he with he | he
        · rcases hres with rfl | rfl | rfl <;> simp at he <;> simp [he]
        · exact herrs e he
      · simp only [Received, pushed, List.mem_cons]
        constructor
        · rintro ((hR | hf) | ⟨f, hf, hn⟩)
          exacts [.inl hR, .inr ⟨frame, .inl rfl, hf⟩, .inr ⟨f, .inr hf, hn⟩]
        · rintro (hR | ⟨f, rfl | hf, hn⟩)
          exacts [.inl (.inl hR), .inl (.inr hn), .inr ⟨f, hf, hn⟩]
    | pop =>
      generalize hpop : s.Pop = r
      obtain ⟨s', out⟩ := r
      simp only [run, hpop] at herr ⊢
      obtain ⟨herrs, hrun⟩ := ih (h.pop hD hpop) (fun f hf => hcarry f (by simpa [pushed] using hf))
        (fun f hf => hfin f (by simpa [pushed] using hf)) herr
      refine ⟨herrs, ?_⟩
      simpa [Received, pushed] using hrun

end Run

/-! ## Reassembly is exact -/

/-- For a stream `D` shorter than `MaxByteCount`, let every pushed frame carry `D`'s bytes at its
offset, and a frame without data be a FIN frame at `D`'s end.  After any calls in which no push
overflowed the gaps:

* the frames popped follow each other from offset 0 and hold `D`'s bytes up to the read position,
  all of which were received;
* `Push` failed only on duplicate or empty frames;
* the gaps are ordered, non-empty, and miss exactly the bytes below `MaxByteCount` not received;
* `Head` has data exactly when the byte at the read position was received, and a frame without
  data it returns is the FIN frame at `D`'s end. -/
theorem run_reassembles (D : List UInt8) (hD : D.length < Protocol.MaxByteCount.toNat)
    (calls : List Call)
    (hcarry : ∀ f ∈ pushed calls, f.Data <+: D.drop f.Offset.toNat)
    (hfin : ∀ f ∈ pushed calls, f.Data = [] → f.FinBit → f.Offset.toNat = D.length)
    (hgaps : errTooManyGapsInReceivedStreamData ∉ (run newStreamFrameSorter calls).errors) :
    let o := run newStreamFrameSorter calls
    o.popped.flatMap (·.Data) = D.take o.sorter.readPosition.toNat ∧
      Contiguous 0 o.popped o.sorter.readPosition.toNat ∧
      (∀ n < o.sorter.readPosition.toNat, Received calls n) ∧
      (∀ e ∈ o.errors, e = errDuplicateStreamData ∨ e = errEmptyStreamData) ∧
      Ordered o.sorter.gaps ∧
      (∀ n < Protocol.MaxByteCount.toNat, InGaps o.sorter.gaps n ↔ ¬ Received calls n) ∧
      ((∃ f, o.sorter.Head = some f ∧ f.Data ≠ []) ↔
        Received calls o.sorter.readPosition.toNat) ∧
      (∀ f, o.sorter.Head = some f → f.Data = [] →
        f.FinBit ∧ o.sorter.readPosition.toNat = D.length) := by
  intro o
  rw [toNat_MaxByteCount] at hD ⊢
  obtain ⟨herrs, hrun⟩ := reassembled_new.run hD calls hcarry hfin hgaps
  have hres : Reassembled D (Received calls) o.sorter o.popped := by
    have h := hrun.congr fun n => (show False ∨ Received calls n ↔ Received calls n by simp)
    simpa only [List.nil_append] using h
  have hinv := hres.invariant
  have hrp := hinv.readPosition_le
  refine ⟨hres.data, hres.contiguous, fun n hn => ?_, herrs, hinv.ordered, hres.gaps, ?_,
    fun f hf hnil => (hinv.placed _ _ hf).fin hnil⟩
  · -- the gaps all start at or after the read position
    by_contra hnot
    obtain ⟨g, hg, hlo, -⟩ := (hres.gaps n (by omega)).mpr hnot
    have := ((hinv.tiled.bounds fun _ _ h => h.le) g hg).1
    simp only [ByteInterval.lo] at hlo this
    omega
  · rw [hinv.head_data_iff hD, hres.gaps _ (by omega), not_not]

/-- Two overlapping frames pushed out of order come out as the stream, once. -/
theorem run_reassembles_overlap :
    (run newStreamFrameSorter [.push ⟨1, false, true, 1, [20, 30]⟩,
        .push ⟨1, false, true, 0, [10, 20]⟩, .pop, .pop]).popped.flatMap (·.Data) =
      [10, 20, 30] :=
  (run_reassembles [10, 20, 30] (by decide) _ (by decide) (by decide) (by decide)).1.trans
    (by decide)

/-- A FIN frame without data at an offset whose data is already queued replaces that frame: the
bytes stay received, `Pop` returns the empty FIN frame, and `Head` then has nothing at the
received read position. -/
theorem run_fin_frame_overwrites_data :
    (run newStreamFrameSorter [.push ⟨1, false, true, 0, [10, 20]⟩,
        .push ⟨1, true, true, 0, []⟩, .pop]).popped = [⟨1, true, true, 0, []⟩] ∧
      (run newStreamFrameSorter [.push ⟨1, false, true, 0, [10, 20]⟩,
        .push ⟨1, true, true, 0, []⟩, .pop]).sorter.readPosition = 0 ∧
      (run newStreamFrameSorter [.push ⟨1, false, true, 0, [10, 20]⟩,
        .push ⟨1, true, true, 0, []⟩, .pop]).sorter.gaps = [⟨2, Protocol.MaxByteCount⟩] ∧
      (run newStreamFrameSorter [.push ⟨1, false, true, 0, [10, 20]⟩,
        .push ⟨1, true, true, 0, []⟩, .pop]).sorter.Head = none := by
  decide

end streamFrameSorter

end PStream
