import PStream.Protocol

/-!
# Byte orders, buffers and readers

`internal/utils` writes integers in one of two byte orders, chosen by the version: little endian
before QUIC 39, big endian from then on.  A write appends bytes to a `bytes.Buffer`; here it
returns the bytes it appends.  The writers of 24, 40, 48 and 56 bits panic on a value that does
not fit, so they return an `Option`.

A `bytes.Reader` is the list of bytes not yet read, and a parser is a state transformer over it
that fails with the text of Go's error (`io.EOF` when the input runs out).

The QUIC `ufloat16` of `float16.go` is here too, since both of its directions go through the byte
order.
-/

set_option autoImplicit false

namespace PStream
namespace Utils

/-- The two implementations of `utils.ByteOrder`. -/
inductive ByteOrder where
  | littleEndian
  | bigEndian
  deriving DecidableEq, Repr

/-- `GetByteOrder`: values are big endian from QUIC 39 on. -/
def GetByteOrder (v : VersionNumber) : ByteOrder :=
  if v < Protocol.Version39 then .littleEndian else .bigEndian

/-- Go's `x << s` on a `uint64`, which is zero for a shift of 64 or more. -/
def goShl (x : UInt64) (s : Nat) : UInt64 := if s < 64 then x <<< s.toUInt64 else 0

theorem toNat_goShl_one {s : Nat} (hs : s < 64) : (goShl 1 s).toNat = 2 ^ s := by
  have hs64 : s.toUInt64.toNat % 64 = s := by
    rw [Nat.toUInt64_eq, UInt64.toNat_ofNat', Nat.mod_eq_of_lt (show s < 2 ^ 64 by omega),
      Nat.mod_eq_of_lt hs]
  rw [goShl, if_pos hs, UInt64.toNat_shiftLeft, UInt64.toNat_one, hs64, Nat.one_shiftLeft,
    Nat.mod_eq_of_lt (Nat.pow_lt_pow_right (by omega) hs)]

namespace ByteOrder

/-- The low `n` bytes of `i` in the order `o`: `uint8(i >> 8(n-1)), ..., uint8(i)` in big
endian, the reverse in little endian.  Every `WriteUintN` of the source is this list. -/
def putBytes (o : ByteOrder) (n : Nat) (i : UInt64) : List UInt8 :=
  let le := (List.range n).map fun k => (i >>> (8 * k).toUInt64).toUInt8
  match o with
  | .littleEndian => le
  | .bigEndian => le.reverse

def WriteUint16 (o : ByteOrder) (i : UInt16) : List UInt8 := o.putBytes 2 i.toUInt64

def WriteUint24 (o : ByteOrder) (i : UInt32) : Option (List UInt8) :=
  if i ≥ (1 : UInt32) <<< 24 then none else some (o.putBytes 3 i.toUInt64)

def WriteUint32 (o : ByteOrder) (i : UInt32) : List UInt8 := o.putBytes 4 i.toUInt64

def WriteUint40 (o : ByteOrder) (i : UInt64) : Option (List UInt8) :=
  if i ≥ (1 : UInt64) <<< 40 then none else some (o.putBytes 5 i)

def WriteUint48 (o : ByteOrder) (i : UInt64) : Option (List UInt8) :=
  if i ≥ (1 : UInt64) <<< 48 then none else some (o.putBytes 6 i)

def WriteUint56 (o : ByteOrder) (i : UInt64) : Option (List UInt8) :=
  if i ≥ (1 : UInt64) <<< 56 then none else some (o.putBytes 7 i)

def WriteUint64 (o : ByteOrder) (i : UInt64) : List UInt8 := o.putBytes 8 i

@[simp] theorem length_putBytes (o : ByteOrder) (n : Nat) (i : UInt64) :
    (o.putBytes n i).length = n := by
  cases o <;> simp [putBytes]

@[simp] theorem length_WriteUint16 (o : ByteOrder) (i : UInt16) : (o.WriteUint16 i).length = 2 :=
  length_putBytes ..

@[simp] theorem length_WriteUint32 (o : ByteOrder) (i : UInt32) : (o.WriteUint32 i).length = 4 :=
  length_putBytes ..

@[simp] theorem length_WriteUint64 (o : ByteOrder) (i : UInt64) : (o.WriteUint64 i).length = 8 :=
  length_putBytes ..

theorem WriteUint24_eq_some {o : ByteOrder} {i : UInt32} (h : i.toNat < 2 ^ 24) :
    o.WriteUint24 i = some (o.putBytes 3 i.toUInt64) := by
  have : ¬ i ≥ (1 : UInt32) <<< 24 := by
    simp only [ge_iff_le, UInt32.le_iff_toNat_le, not_le]
    exact h
  simp [WriteUint24, this]

theorem WriteUint48_eq_some {o : ByteOrder} {i : UInt64} (h : i.toNat < 2 ^ 48) :
    o.WriteUint48 i = some (o.putBytes 6 i) := by
  have : ¬ i ≥ (1 : UInt64) <<< 48 := by
    simp only [ge_iff_le, UInt64.le_iff_toNat_le, not_le]
    exact h
  simp [WriteUint48, this]

theorem WriteUint40_eq_some {o : ByteOrder} {i : UInt64} (h : i.toNat < 2 ^ 40) :
    o.WriteUint40 i = some (o.putBytes 5 i) := by
  have : ¬ i ≥ (1 : UInt64) <<< 40 := by
    simp only [ge_iff_le, UInt64.le_iff_toNat_le, not_le]
    exact h
  simp [WriteUint40, this]

theorem WriteUint56_eq_some {o : ByteOrder} {i : UInt64} (h : i.toNat < 2 ^ 56) :
    o.WriteUint56 i = some (o.putBytes 7 i) := by
  have : ¬ i ≥ (1 : UInt64) <<< 56 := by
    simp only [ge_iff_le, UInt64.le_iff_toNat_le, not_le]
    exact h
  simp [WriteUint56, this]

end ByteOrder

/-! ## The QUIC `ufloat16` -/

/-- `((1 << 12) - 1) << 30`, the largest value the format holds. -/
def uFloat16MaxValue : UInt64 := (((1 : UInt64) <<< 12) - 1) <<< 30

/-- The 16 bits `writeUfloat16` writes for `value`.  The loop of the source, over the offsets
16, 8, 4, 2, 1, is a binary search for the highest set bit. -/
def ufloat16Bits (value : UInt64) : UInt16 :=
  if value < (1 : UInt64) <<< 12 then value.toUInt16
  else if value ≥ uFloat16MaxValue then 0xFFFF
  else
    let (exponent, value) := ([16, 8, 4, 2, 1] : List UInt16).foldl
      (fun (acc : UInt16 × UInt64) offset =>
        if acc.2 ≥ goShl 1 (11 + offset : UInt16).toNat then (acc.1 + offset, acc.2 >>> offset.toUInt64)
        else acc)
      (0, value)
    value.toUInt16 + (exponent <<< 11)

/-- `writeUfloat16`. -/
def ByteOrder.WriteUfloat16 (o : ByteOrder) (value : UInt64) : List UInt8 :=
  o.WriteUint16 (ufloat16Bits value)

@[simp] theorem ByteOrder.length_WriteUfloat16 (o : ByteOrder) (value : UInt64) :
    (o.WriteUfloat16 value).length = 2 :=
  ByteOrder.length_WriteUint16 ..

/-- The value `readUfloat16` decodes from the 16 bits `val`. -/
def ufloat16Value (val : UInt16) : UInt64 :=
  let res := val.toUInt64
  if res < (1 : UInt64) <<< 12 then res
  else
    let exponent := (val >>> 11) - 1
    (res - (exponent.toUInt64 <<< 11)) <<< exponent.toUInt64

/-! ## Readers -/

/-- A parser over a `bytes.Reader`: the input not read yet is the state, and a failure carries the
text of Go's error. -/
abbrev Parser := StateT (List UInt8) (Except String)

/-- `r.ReadByte()`. -/
def ReadByte : Parser UInt8 := fun bs =>
  match bs with
  | [] => .error "EOF"
  | b :: bs => .ok (b, bs)

/-- `r.Len()`: the number of bytes not read yet. -/
def ReadLen : Parser Nat := fun bs => .ok (bs.length, bs)

/-- `io.ReadFull(r, make([]byte, n))`. -/
def ReadFull (n : Nat) : Parser (List UInt8) := fun bs =>
  if n ≤ bs.length then .ok (bs.take n, bs.drop n)
  else if bs = [] then .error "EOF" else .error "unexpected EOF"

namespace ByteOrder

/-- The loop of `ReadUintN`: byte `i` of `length` is shifted to its place and xor-ed in. -/
def readUintLoop (o : ByteOrder) (length : UInt8) : Nat → UInt64 → UInt8 → Parser UInt64
  | 0, res, _ => pure res
  | k + 1, res, i => do
    let bt ← ReadByte
    let shift : UInt8 := match o with
      | .bigEndian => (length - 1 - i) * 8
      | .littleEndian => i * 8
    readUintLoop o length k (res ^^^ goShl bt.toUInt64 shift.toNat) (i + 1)

/-- `ReadUintN(b, length)`: the loop runs `length` times. -/
def ReadUintN (o : ByteOrder) (length : UInt8) : Parser UInt64 :=
  o.readUintLoop length length.toNat 0 0

/-- `ReadUint16`, which reads the two bytes `ReadUintN(b, 2)` reads and adds them up the same
way. -/
def ReadUint16 (o : ByteOrder) : Parser UInt16 := do
  let v ← o.ReadUintN 2
  pure v.toUInt16

def ReadUint32 (o : ByteOrder) : Parser UInt32 := do
  let v ← o.ReadUintN 4
  pure v.toUInt32

def ReadUint64 (o : ByteOrder) : Parser UInt64 := o.ReadUintN 8

/-- `readUfloat16`. -/
def ReadUfloat16 (o : ByteOrder) : Parser UInt64 := do
  let val ← o.ReadUint16
  pure (ufloat16Value val)

end ByteOrder

end Utils
end PStream
