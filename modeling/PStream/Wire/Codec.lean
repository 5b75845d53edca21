import PStream.Lib.Numbers
import PStream.Wire.ByteOrder

/-!
# Reading back what was written

The readers of `internal/utils` undo its writers: `ReadUintN` of the `n` bytes `putBytes` writes
returns the value modulo `2 ^ (8 * n)`, in either byte order (`ReadUintN_putBytes`), and the fixed
readers of 16, 32 and 64 bits return the value itself.  The little-endian loop puts each byte
above the ones read before it, the big-endian one below them; either way the bytes do not
overlap, so the exclusive or of the loop is a sum (`Nat.two_pow_mul_add_eq_xor`).

`Parser.bind_ok` runs the rest of a parser after a step that succeeded; the round trips of the
frames are chains of it.
-/

set_option autoImplicit false

namespace PStream
namespace Utils

/-- After a step that succeeds, a parser goes on with its result and the rest of the input. -/
theorem Parser.bind_ok {α β : Type} {p : Parser α} {f : α → Parser β} {s s' : List UInt8} {a : α}
    (h : p s = .ok (a, s')) : (p >>= f) s = f a s' := by
  simp only [bind, StateT.bind, h, Except.bind]

/-- A parser that succeeds took its first step with success, and went on from there. -/
theorem Parser.ok_of_bind_ok {α β : Type} {p : Parser α} {f : α → Parser β} {s s' : List UInt8}
    {b : β} (h : (p >>= f) s = .ok (b, s')) : ∃ a s₁, p s = .ok (a, s₁) ∧ f a s₁ = .ok (b, s') := by
  simp only [bind, StateT.bind, Except.bind] at h
  cases hp : p s with
  | error e =>
    rw [hp] at h
    cases h
  | ok r =>
    rw [hp] at h
    exact ⟨r.1, r.2, rfl, h⟩

/-- A parser that succeeds, with its result mapped. -/
theorem Parser.map_ok {α β : Type} {p : Parser α} {f : α → β} {s s' : List UInt8} {a : α}
    (h : p s = .ok (a, s')) : (f <$> p) s = .ok (f a, s') := by
  simp only [Functor.map, StateT.map, h]
  rfl

@[simp] theorem Parser.pure_run {α : Type} (a : α) (s : List UInt8) :
    (pure a : Parser α) s = .ok (a, s) :=
  rfl

@[simp] theorem ReadByte_cons (b : UInt8) (bs : List UInt8) : ReadByte (b :: bs) = .ok (b, bs) :=
  rfl

theorem ReadFull_append (l rest : List UInt8) : ReadFull l.length (l ++ rest) = .ok (l, rest) := by
  simp [ReadFull]

namespace ByteOrder

/-- Byte `j` of `v`, from the least significant one. -/
theorem toNat_byte (v : UInt64) {j : Nat} (hj : j < 8) :
    ((v >>> (8 * j).toUInt64).toUInt8).toNat = v.toNat / 2 ^ (8 * j) % 2 ^ 8 := by
  rw [UInt64.toNat_toUInt8, UInt64.toNat_shiftRight, Nat.shiftRight_eq_div_pow]
  congr 3
  simp only [Nat.toUInt64_eq, UInt64.toNat_ofNat']
  omega

/-- Byte `j` of `v` shifted back to its place. -/
theorem toNat_goShl_byte (v : UInt64) {j : Nat} (hj : j < 8) :
    (goShl ((v >>> (8 * j).toUInt64).toUInt8).toUInt64 (8 * j)).toNat =
      2 ^ (8 * j) * (v.toNat / 2 ^ (8 * j) % 2 ^ 8) := by
  have hlt : 8 * j < 64 := by omega
  have hbound : 2 ^ (8 * j) * (v.toNat / 2 ^ (8 * j) % 2 ^ 8) < 2 ^ 64 :=
    calc 2 ^ (8 * j) * (v.toNat / 2 ^ (8 * j) % 2 ^ 8) < 2 ^ (8 * j) * 2 ^ 8 :=
          Nat.mul_lt_mul_of_pos_left (Nat.mod_lt _ (Nat.two_pow_pos 8)) (Nat.two_pow_pos _)
      _ = 2 ^ (8 * j + 8) := by rw [Nat.pow_add]
      _ ≤ 2 ^ 64 := Nat.pow_le_pow_right (by decide) (by omega)
  have hs : (8 * j).toUInt64.toNat % 64 = 8 * j := by
    simp only [Nat.toUInt64_eq, UInt64.toNat_ofNat']
    omega
  rw [goShl, if_pos hlt, UInt64.toNat_shiftLeft, UInt8.toNat_toUInt64, toNat_byte v hj,
    Nat.shiftLeft_eq, hs, Nat.mul_comm, Nat.mod_eq_of_lt hbound]

/-- Adding byte `i` of `v` to the `i` bytes below it. -/
theorem toNat_xor_byte (v res : UInt64) {i : Nat} (hi : i < 8)
    (hres : res.toNat = v.toNat % 2 ^ (8 * i)) :
    (res ^^^ goShl ((v >>> (8 * i).toUInt64).toUInt8).toUInt64 (8 * i)).toNat =
      v.toNat % 2 ^ (8 * (i + 1)) := by
  have hlt : res.toNat < 2 ^ (8 * i) := hres ▸ Nat.mod_lt _ (Nat.two_pow_pos _)
  rw [UInt64.toNat_xor, toNat_goShl_byte v hi, Nat.xor_comm,
    ← Nat.two_pow_mul_add_eq_xor _ hlt, hres, Nat.mul_add_one, Nat.pow_add, Nat.mod_mul]
  omega

theorem readUintLoop_littleEndian (len : UInt8) (v : UInt64) (rest : List UInt8) :
    ∀ (k i : Nat) (res : UInt64), i + k ≤ 8 → res.toNat = v.toNat % 2 ^ (8 * i) →
      littleEndian.readUintLoop len k res i.toUInt8
        ((List.range' i k).map (fun j => (v >>> (8 * j).toUInt64).toUInt8) ++ rest) =
      .ok (UInt64.ofNat (v.toNat % 2 ^ (8 * (i + k))), rest)
  | 0, i, res, _, hres => by
    rw [readUintLoop, Nat.add_zero, ← hres, UInt64.ofNat_toNat]
    rfl
  | k + 1, i, res, hik, hres => by
    rw [List.range'_succ, List.map_cons, List.cons_append, readUintLoop]
    simp only [ReadByte, bind, StateT.bind, Except.bind]
    have hi : i < 8 := by omega
    have hshift : (i.toUInt8 * 8).toNat = 8 * i := by
      have h8 : (8 : UInt8).toNat = 8 := rfl
      simp only [UInt8.toNat_mul, Nat.toUInt8_eq, UInt8.toNat_ofNat', h8]
      omega
    have hnext : i.toUInt8 + 1 = (i + 1).toUInt8 := by
      simp only [Nat.toUInt8_eq, UInt8.ofNat_add, UInt8.ofNat_one]
    rw [hshift, hnext, readUintLoop_littleEndian len v rest k (i + 1) _ (by omega)
      (toNat_xor_byte v res hi hres), Nat.add_right_comm, Nat.add_assoc]

/-- Adding byte `k` of `v` below the bytes above it, as the big-endian loop does. -/
theorem toNat_xor_byte_high (v res : UInt64) {n k : Nat} (hk : k < n) (hn : n ≤ 8)
    (hres : res.toNat = v.toNat % 2 ^ (8 * n) / 2 ^ (8 * (k + 1)) * 2 ^ (8 * (k + 1))) :
    (res ^^^ goShl ((v >>> (8 * k).toUInt64).toUInt8).toUInt64 (8 * k)).toNat =
      v.toNat % 2 ^ (8 * n) / 2 ^ (8 * k) * 2 ^ (8 * k) := by
  have hk8 : k < 8 := by omega
  generalize hM : v.toNat % 2 ^ (8 * n) = M at hres
  have hbyte : v.toNat / 2 ^ (8 * k) % 2 ^ 8 = M / 2 ^ (8 * k) % 2 ^ 8 := by
    rw [← hM]
    exact Nat.div_byte_mod_eq v.toNat hk
  have hpow : 2 ^ (8 * (k + 1)) = 2 ^ (8 * k) * 2 ^ 8 := by rw [Nat.mul_add_one, Nat.pow_add]
  have hlow : 2 ^ (8 * k) * (M / 2 ^ (8 * k) % 2 ^ 8) < 2 ^ (8 * (k + 1)) := by
    rw [hpow]
    exact Nat.mul_lt_mul_of_pos_left (Nat.mod_lt _ (Nat.two_pow_pos 8)) (Nat.two_pow_pos _)
  -- the bytes above `k` and byte `k` make up the value down to byte `k`
  have hsplit : M / 2 ^ (8 * k) * 2 ^ (8 * k) =
      2 ^ (8 * (k + 1)) * (M / 2 ^ (8 * (k + 1))) + 2 ^ (8 * k) * (M / 2 ^ (8 * k) % 2 ^ 8) := by
    have h := Nat.div_add_mod (M / 2 ^ (8 * k)) (2 ^ 8)
    rw [Nat.div_div_eq_div_mul, ← hpow] at h
    calc M / 2 ^ (8 * k) * 2 ^ (8 * k)
        = (2 ^ 8 * (M / 2 ^ (8 * (k + 1))) + M / 2 ^ (8 * k) % 2 ^ 8) * 2 ^ (8 * k) := by rw [h]
      _ = _ := by
        rw [hpow, Nat.add_mul]
        congr 1 <;> ac_rfl
  rw [UInt64.toNat_xor, toNat_goShl_byte v hk8, hbyte, hres, Nat.mul_comm _ (2 ^ (8 * (k + 1))),
    ← Nat.two_pow_mul_add_eq_xor _ hlow, hsplit]

theorem readUintLoop_bigEndian {n : Nat} (hn : n ≤ 8) (v : UInt64) (rest : List UInt8) :
    ∀ (k : Nat) (res : UInt64), k ≤ n →
      res.toNat = v.toNat % 2 ^ (8 * n) / 2 ^ (8 * k) * 2 ^ (8 * k) →
      bigEndian.readUintLoop n.toUInt8 k res (n - k).toUInt8
        (((List.range k).map fun j => (v >>> (8 * j).toUInt64).toUInt8).reverse ++ rest) =
      .ok (UInt64.ofNat (v.toNat % 2 ^ (8 * n)), rest)
  | 0, res, _, hres => by
    rw [Nat.mul_zero, Nat.pow_zero, Nat.div_one, Nat.mul_one] at hres
    rw [readUintLoop, List.range_zero, List.map_nil, List.reverse_nil, List.nil_append, ← hres,
      UInt64.ofNat_toNat]
    rfl
  | k + 1, res, hk, hres => by
    rw [List.range_succ, List.map_append, List.reverse_append, List.map_singleton,
      List.reverse_singleton, List.singleton_append, List.cons_append, readUintLoop]
    simp only [ReadByte, bind, StateT.bind, Except.bind]
    have hshift : ((n.toUInt8 - 1 - (n - (k + 1)).toUInt8) * 8).toNat = 8 * k := by
      have h8 : (8 : UInt8).toNat = 8 := rfl
      have h1 : (1 : UInt8).toNat = 1 := rfl
      simp only [UInt8.toNat_mul, UInt8.toNat_sub, Nat.toUInt8_eq, UInt8.toNat_ofNat', h8, h1]
      omega
    have hnext : (n - (k + 1)).toUInt8 + 1 = (n - k).toUInt8 := by
      have h1 : (1 : UInt8).toNat = 1 := rfl
      rw [← UInt8.toNat_inj]
      simp only [UInt8.toNat_add, Nat.toUInt8_eq, UInt8.toNat_ofNat', h1]
      omega
    rw [hshift, hnext]
    exact readUintLoop_bigEndian hn v rest k _ (by omega) (toNat_xor_byte_high v res hk hn hres)

/-- `ReadUintN` reads back the low `n` bytes `putBytes` writes, in either order. -/
theorem ReadUintN_putBytes (o : ByteOrder) {n : Nat} (hn : n ≤ 8) (v : UInt64)
    (rest : List UInt8) :
    o.ReadUintN n.toUInt8 (o.putBytes n v ++ rest) =
      .ok (UInt64.ofNat (v.toNat % 2 ^ (8 * n)), rest) := by
  have hlen : n.toUInt8.toNat = n := by
    simp only [Nat.toUInt8_eq, UInt8.toNat_ofNat']
    omega
  cases o with
  | littleEndian =>
    have h := readUintLoop_littleEndian n.toUInt8 v rest n 0 0 (by omega)
      (by rw [Nat.mul_zero, Nat.pow_zero, Nat.mod_one]; rfl)
    rw [Nat.zero_add, List.range'_eq_map_range] at h
    simpa [ReadUintN, putBytes, hlen] using h
  | bigEndian =>
    have h := readUintLoop_bigEndian hn v rest n 0 (Nat.le_refl n) (by simp)
    rw [Nat.sub_self] at h
    simpa [ReadUintN, putBytes, hlen] using h

/-- A value below `2 ^ (8 * n)` comes back whole. -/
theorem ReadUintN_putBytes_of_lt (o : ByteOrder) {n : Nat} (hn : n ≤ 8) {v : UInt64}
    (hv : v.toNat < 2 ^ (8 * n)) (rest : List UInt8) :
    o.ReadUintN n.toUInt8 (o.putBytes n v ++ rest) = .ok (v, rest) := by
  rw [ReadUintN_putBytes o hn, Nat.mod_eq_of_lt hv, UInt64.ofNat_toNat]

theorem ReadUint16_WriteUint16 (o : ByteOrder) (x : UInt16) (rest : List UInt8) :
    o.ReadUint16 (o.WriteUint16 x ++ rest) = .ok (x, rest) := by
  have h := o.ReadUintN_putBytes_of_lt (n := 2) (by decide) (v := x.toUInt64)
    (by simpa using x.toNat_lt) rest
  rw [ReadUint16, WriteUint16]
  refine (Parser.bind_ok h).trans ?_
  simp

theorem ReadUint32_WriteUint32 (o : ByteOrder) (x : UInt32) (rest : List UInt8) :
    o.ReadUint32 (o.WriteUint32 x ++ rest) = .ok (x, rest) := by
  have h := o.ReadUintN_putBytes_of_lt (n := 4) (by decide) (v := x.toUInt64)
    (by simpa using x.toNat_lt) rest
  rw [ReadUint32, WriteUint32]
  refine (Parser.bind_ok h).trans ?_
  simp

theorem ReadUint64_WriteUint64 (o : ByteOrder) (x : UInt64) (rest : List UInt8) :
    o.ReadUint64 (o.WriteUint64 x ++ rest) = .ok (x, rest) :=
  o.ReadUintN_putBytes_of_lt (n := 8) (by decide) x.toNat_lt rest

/-- `ReadUintN` reads back any value whose low `n` bytes were written. -/
theorem ReadUintN_of_putBytes (o : ByteOrder) {n : Nat} (hn : n ≤ 8) {w v : UInt64}
    (hv : w.toNat % 2 ^ (8 * n) = v.toNat) (rest : List UInt8) :
    o.ReadUintN n.toUInt8 (o.putBytes n w ++ rest) = .ok (v, rest) := by
  rw [ReadUintN_putBytes o hn, hv, UInt64.ofNat_toNat]

theorem putBytes_one (o : ByteOrder) (v : UInt64) : o.putBytes 1 v = [v.toUInt8] := by
  cases o <;> simp [putBytes]

theorem WriteUint48_spec {o : ByteOrder} {v : UInt64} {bs : List UInt8}
    (h : o.WriteUint48 v = some bs) : v.toNat < 2 ^ 48 ∧ bs = o.putBytes 6 v := by
  unfold WriteUint48 at h
  split_ifs at h with hv
  cases h
  simp only [ge_iff_le, UInt64.le_iff_toNat_le, not_le] at hv
  exact ⟨hv, rfl⟩

/-- The mask `1 << 48 - 1` that the 48-bit fields are cut to. -/
theorem toNat_and_mask48 (v : UInt64) :
    (v &&& (((1 : UInt64) <<< 48) - 1)).toNat = v.toNat % 2 ^ 48 := by
  have hmask : ((((1 : UInt64) <<< 48) - 1)).toNat = 2 ^ 48 - 1 := by decide
  rw [UInt64.toNat_and, hmask, Nat.and_two_pow_sub_one_eq_mod]

/-! The four widths of a packet number, each read back modulo its width. -/

theorem ReadUintN_one (o : ByteOrder) (v : UInt64) (rest : List UInt8) :
    o.ReadUintN 1 ([v.toUInt8] ++ rest) = .ok (UInt64.ofNat (v.toNat % 2 ^ 8), rest) := by
  rw [← putBytes_one]
  exact ReadUintN_putBytes o (n := 1) (by decide) v rest

theorem ReadUintN_WriteUint16 (o : ByteOrder) (v : UInt64) (rest : List UInt8) :
    o.ReadUintN 2 (o.WriteUint16 v.toUInt16 ++ rest) =
      .ok (UInt64.ofNat (v.toNat % 2 ^ 16), rest) := by
  have h := ReadUintN_putBytes o (n := 2) (by decide) v.toUInt16.toUInt64 rest
  simp only [UInt16.toNat_toUInt64, UInt64.toNat_toUInt16, Nat.mod_mod] at h
  exact h

theorem ReadUintN_WriteUint32 (o : ByteOrder) (v : UInt64) (rest : List UInt8) :
    o.ReadUintN 4 (o.WriteUint32 v.toUInt32 ++ rest) =
      .ok (UInt64.ofNat (v.toNat % 2 ^ 32), rest) := by
  have h := ReadUintN_putBytes o (n := 4) (by decide) v.toUInt32.toUInt64 rest
  simp only [UInt32.toNat_toUInt64, UInt64.toNat_toUInt32, Nat.mod_mod] at h
  exact h

theorem ReadUintN_WriteUint48 (o : ByteOrder) {v : UInt64} {bs : List UInt8}
    (h : o.WriteUint48 v = some bs) (rest : List UInt8) :
    o.ReadUintN 6 (bs ++ rest) = .ok (v, rest) := by
  obtain ⟨hv, rfl⟩ := WriteUint48_spec h
  exact ReadUintN_putBytes_of_lt o (n := 6) (by decide) hv rest

/-- The `ufloat16` reader reads the two bytes the writer wrote and decodes them. -/
theorem ReadUfloat16_WriteUfloat16 (o : ByteOrder) (v : UInt64) (rest : List UInt8) :
    o.ReadUfloat16 (o.WriteUfloat16 v ++ rest) = .ok (ufloat16Value (ufloat16Bits v), rest) := by
  rw [ReadUfloat16, WriteUfloat16, Parser.bind_ok (o.ReadUint16_WriteUint16 _ rest)]
  rfl

end ByteOrder

end Utils
end PStream
