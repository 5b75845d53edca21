import Mathlib.Data.List.Basic

/-!
# Readers that hand out what they have in chunks

A Go `io.Reader` asked to fill a buffer of `n` items may hand out fewer, with no error: all the
caller learns is how many it got.  A `Chunking` says how many a reader hands out, from how many
were asked for and how many it has left.  It may hand out neither more than was asked for nor
more than it has, and at least one whenever both are positive.  Once it has nothing left, a
request that is not empty returns the reader's final error (`io.EOF` at a clean end).  The
contract lets a reader return that error already with the read that hands out its last items,
which is what `compress/zlib` does: `eofWithLast`.

`fill` is the buffer after the call.  Go's buffers come from `make`, so the places a short read
did not reach keep the zero value.

* `full` hands out as much as it can, which is what `io.ReadFull` would make of any reader:
  `read_full_append` reads the next `n` items whenever there are `n` of them, with the final
  error if they are the last and the reader says so with them.
* `oneByte` hands out one item per call, which every reader is allowed to do:
  `read_oneByte_cons`.
-/

set_option autoImplicit false

namespace Reader

variable {α ε : Type}

/-- How a reader chunks: asked for `n` items with `m` left, it hands out `size n m` of them. -/
structure Chunking where
  size : Nat → Nat → Nat
  size_le_requested : ∀ n m, size n m ≤ n
  size_le_available : ∀ n m, size n m ≤ m
  size_pos : ∀ n m, 0 < n → 0 < m → 0 < size n m
  /-- Whether the read that hands out the last items returns the final error with them. -/
  eofWithLast : Bool

namespace Chunking

/-- `Read(p)` with `len(p) = n` on a reader that has `s` left and ends with the error `e`: the
items handed out, what is left, and the error returned. -/
def read (c : Chunking) (e : ε) (n : Nat) (s : List α) : List α × List α × Option ε :=
  (s.take (c.size n s.length), s.drop (c.size n s.length),
    if 0 < n ∧ (s = [] ∨ c.eofWithLast = true ∧ s.length ≤ c.size n s.length) then some e
    else none)

/-- The reader that hands out as much as it can. -/
def full (eofWithLast : Bool) : Chunking where
  size n m := min n m
  size_le_requested _ _ := Nat.min_le_left _ _
  size_le_available _ _ := Nat.min_le_right _ _
  size_pos _ _ hn hm := Nat.lt_min.mpr ⟨hn, hm⟩
  eofWithLast := eofWithLast

/-- The reader that hands out one item per call. -/
def oneByte : Chunking where
  size n m := min 1 (min n m)
  size_le_requested _ _ := Nat.le_trans (Nat.min_le_right _ _) (Nat.min_le_left _ _)
  size_le_available _ _ := Nat.le_trans (Nat.min_le_right _ _) (Nat.min_le_right _ _)
  size_pos _ _ hn hm := Nat.lt_min.mpr ⟨Nat.one_pos, Nat.lt_min.mpr ⟨hn, hm⟩⟩
  eofWithLast := false

variable (c : Chunking) (e : ε)

/-- An empty buffer reads nothing and no error. -/
@[simp] theorem read_zero (s : List α) : c.read e 0 s = ([], s, none) := by
  have h0 : c.size 0 s.length = 0 := Nat.le_zero.mp (c.size_le_requested 0 _)
  simp [read, h0]

/-- The full reader reads the next `n` items whenever there are `n` of them, and returns the final
error with them if they are the last and it says so. -/
theorem read_full_append (eofWithLast : Bool) (l s : List α) :
    (full eofWithLast).read e l.length (l ++ s) =
      (l, s, if 0 < l.length ∧ eofWithLast = true ∧ s = [] then some e else none) := by
  have hsize : (full eofWithLast).size l.length (l ++ s).length = l.length := by
    simp [full]
  -- a request that is not empty finds the reader empty only if `s` is the end
  have hcond : (0 < l.length ∧ (l ++ s = [] ∨
      (full eofWithLast).eofWithLast = true ∧ (l ++ s).length ≤ l.length)) ↔
      (0 < l.length ∧ eofWithLast = true ∧ s = []) := by
    refine ⟨fun ⟨hn, h⟩ => ⟨hn, ?_⟩, fun ⟨hn, hb, hs⟩ => ⟨hn, .inr ⟨hb, by simp [hs]⟩⟩⟩
    rcases h with hnil | ⟨hb, hlen⟩
    · exact absurd (List.append_eq_nil_iff.mp hnil).1 (List.ne_nil_of_length_pos hn)
    · simp only [List.length_append] at hlen
      exact ⟨hb, List.eq_nil_of_length_eq_zero (by omega)⟩
  simp only [read, hsize, List.take_left', List.drop_left']
  rw [if_congr hcond rfl rfl]

/-- The one-byte reader hands out the next item to any request that is not empty. -/
theorem read_oneByte_cons {n : Nat} (hn : 0 < n) (a : α) (s : List α) :
    oneByte.read e n (a :: s) = ([a], s, none) := by
  have hsize : oneByte.size n (a :: s).length = 1 := by
    simp only [oneByte, List.length_cons]
    omega
  simp only [read, hsize]
  simp [oneByte]

end Chunking

/-- The buffer of `n` items after a read that handed out `got`: the places it did not reach keep
the zero value. -/
def fill [Zero α] (n : Nat) (got : List α) : List α := got ++ List.replicate (n - got.length) 0

@[simp] theorem fill_length_self [Zero α] (got : List α) : fill got.length got = got := by
  simp [fill]

theorem length_fill [Zero α] {n : Nat} {got : List α} (h : got.length ≤ n) :
    (fill n got).length = n := by
  simp only [fill, List.length_append, List.length_replicate]
  omega

end Reader
