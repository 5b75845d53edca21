import Mathlib.Data.List.AList
import PStream.Wire.Codec
import PStream.Lib.List

/-!
# Handshake messages

A crypto handshake message is a tag and a map from tags to byte strings.  `HandshakeMessage.Write`
puts out the tag, the number of entries as a `uint16` followed by two zero bytes, an index of the
tags in ascending order each with the end offset of its value, and then the values;
`ParseHandshakeMessage` reads the count as one `uint32`, the index, and each value's length as
the difference of consecutive end offsets.

* `ParseHandshakeMessage_Write`: for every message of at most `CryptoMaxParams` entries whose
  values are at most `CryptoParameterMaxLength` bytes long, parsing what `Write` puts out gives the
  tag back and a map with the same value under every tag.  The count and the two zero bytes read
  as the count (`readUint32_count`); the index and the values are read entry by entry, each
  value's length coming back as the difference of two running sums (`parseEntries_writeEntries`);
  and inserting the entries in index order rebuilds the map (`lookup_foldl_insert`).

A Go map is an `AList`, so its keys are distinct by construction.  Its values are compared as byte
strings: a `nil` value comes back as an empty one.
-/

set_option autoImplicit false

namespace PStream

namespace Handshake

open Protocol Utils Utils.ByteOrder

/-- `handshake.Tag`, a `uint32`. -/
abbrev Tag := UInt32

/-- A `HandshakeMessage`. -/
structure HandshakeMessage where
  Tag : Tag
  Data : AList fun _ : Handshake.Tag => List UInt8

/-- `binary.LittleEndian.Uint32` of a four-byte slice: the first byte is the least significant. -/
def littleEndianUint32 (b : List UInt8) : UInt32 :=
  (b.getD 0 0).toUInt32 ||| (b.getD 1 0).toUInt32 <<< 8 ||| (b.getD 2 0).toUInt32 <<< 16 |||
    (b.getD 3 0).toUInt32 <<< 24

/-- `io.ReadFull(r, slice4)` and `binary.LittleEndian.Uint32(slice4)`. -/
def readUint32 : Parser UInt32 := do
  let slice4 ← ReadFull 4
  pure (littleEndianUint32 slice4)

/-- The loop of `ParseHandshakeMessage` over the index, with the end of the last value read:
each entry is a tag and the end offset of its value, which is read from the stream. -/
def parseEntries : List UInt8 → Nat → UInt32 → (AList fun _ : Tag => List UInt8) →
    Parser (AList fun _ : Tag => List UInt8)
  | _, 0, _, resultMap => pure resultMap
  | index, n + 1, dataStart, resultMap => do
    let tag := littleEndianUint32 (index.take 4)
    let dataEnd := littleEndianUint32 ((index.drop 4).take 4)
    let dataLen := dataEnd - dataStart
    if dataLen > CryptoParameterMaxLength then
      throw "CryptoInvalidValueLength: value too long"
    let data ← ReadFull dataLen.toNat
    parseEntries (index.drop 8) n dataEnd (resultMap.insert tag data)

/-- `ParseHandshakeMessage`.  `qerr.CryptoTooManyEntries` is an error code, whose text is its
name. -/
def ParseHandshakeMessage : Parser HandshakeMessage := do
  let messageTag ← readUint32
  let nPairs ← readUint32
  if nPairs > CryptoMaxParams then throw "CryptoTooManyEntries"
  let index ← ReadFull (nPairs * 8).toNat
  let resultMap ← parseEntries index nPairs.toNat 0 ∅
  pure { Tag := messageTag, Data := resultMap }

namespace HandshakeMessage

/-- `getTagsSorted`: the tags of the map in ascending order. -/
def getTagsSorted (h : HandshakeMessage) : List Handshake.Tag :=
  h.Data.keys.mergeSort fun a b => decide (a ≤ b)

/-- The loop of `Write` over the sorted tags, with the offset reached: the index entries and the
values it writes.  The index goes into the space left for it before the values. -/
def writeEntries (data : AList fun _ : Handshake.Tag => List UInt8) :
    List Handshake.Tag → UInt32 → List UInt8 × List UInt8
  | [], _ => ([], [])
  | t :: ts, offset =>
    let v := (data.lookup t).getD []
    let offset := offset + v.length.toUInt32
    let later := writeEntries data ts offset
    (littleEndian.WriteUint32 t ++ littleEndian.WriteUint32 offset ++ later.1, v ++ later.2)

/-- `HandshakeMessage.Write`. -/
def Write (h : HandshakeMessage) : List UInt8 :=
  let entries := writeEntries h.Data h.getTagsSorted 0
  littleEndian.WriteUint32 h.Tag ++ littleEndian.WriteUint16 h.Data.keys.length.toUInt16 ++
    littleEndian.WriteUint16 0 ++ entries.1 ++ entries.2

end HandshakeMessage

/-! ## Four bytes read back as a `uint32` -/

/-- A byte shifted left by at most 24 bits stays inside the `uint32`. -/
theorem toNat_toUInt32_shiftLeft (b : UInt8) {k : UInt32} (hk : k.toNat ≤ 24) :
    (b.toUInt32 <<< k).toNat = 2 ^ k.toNat * b.toNat := by
  have hlt : 2 ^ k.toNat * b.toNat < 2 ^ 32 := calc
    2 ^ k.toNat * b.toNat < 2 ^ k.toNat * 2 ^ 8 :=
        Nat.mul_lt_mul_of_pos_left b.toNat_lt (Nat.two_pow_pos _)
    _ = 2 ^ (k.toNat + 8) := (Nat.pow_add ..).symm
    _ ≤ 2 ^ 32 := Nat.pow_le_pow_right (by decide) (by omega)
  rw [UInt32.toNat_shiftLeft, UInt8.toNat_toUInt32, Nat.shiftLeft_eq,
    Nat.mod_eq_of_lt (by omega : k.toNat < 32), Nat.mul_comm, Nat.mod_eq_of_lt hlt]

/-- The value of four bytes, the first the least significant: the bytes do not overlap, so the
ors are sums. -/
theorem toNat_littleEndianUint32 (b0 b1 b2 b3 : UInt8) :
    (littleEndianUint32 [b0, b1, b2, b3]).toNat =
      b0.toNat + 2 ^ 8 * b1.toNat + 2 ^ 16 * b2.toNat + 2 ^ 24 * b3.toNat := by
  have h0 := b0.toNat_lt
  have h1 := b1.toNat_lt
  have h2 := b2.toNat_lt
  simp only [littleEndianUint32, List.getD_cons_zero, List.getD_cons_succ, UInt32.toNat_or,
    UInt8.toNat_toUInt32, toNat_toUInt32_shiftLeft _ (by decide : (8 : UInt32).toNat ≤ 24),
    toNat_toUInt32_shiftLeft _ (by decide : (16 : UInt32).toNat ≤ 24),
    toNat_toUInt32_shiftLeft _ (by decide : (24 : UInt32).toNat ≤ 24), UInt32.reduceToNat]
  rw [Nat.or_two_pow_mul_eq_add _ h0, Nat.or_two_pow_mul_eq_add (m := 16) _ (by omega),
    Nat.or_two_pow_mul_eq_add (m := 24) _ (by omega)]

theorem putBytes_two (v : UInt64) : littleEndian.putBytes 2 v =
    [(v >>> (8 * 0).toUInt64).toUInt8, (v >>> (8 * 1).toUInt64).toUInt8] := rfl

theorem putBytes_four (v : UInt64) : littleEndian.putBytes 4 v =
    [(v >>> (8 * 0).toUInt64).toUInt8, (v >>> (8 * 1).toUInt64).toUInt8,
      (v >>> (8 * 2).toUInt64).toUInt8, (v >>> (8 * 3).toUInt64).toUInt8] := rfl

@[simp] theorem littleEndianUint32_WriteUint32 (x : UInt32) :
    littleEndianUint32 (littleEndian.WriteUint32 x) = x := by
  apply UInt32.toNat_inj.mp
  have hx := x.toNat_lt
  rw [WriteUint32, putBytes_four, toNat_littleEndianUint32, toNat_byte _ (j := 0) (by decide),
    toNat_byte _ (j := 1) (by decide), toNat_byte _ (j := 2) (by decide),
    toNat_byte _ (j := 3) (by decide), UInt32.toNat_toUInt64]
  omega

/-- The count `Write` puts out as a `uint16`, followed by two zero bytes, reads as one `uint32`. -/
theorem littleEndianUint32_count (n : UInt16) :
    littleEndianUint32 (littleEndian.WriteUint16 n ++ littleEndian.WriteUint16 0) = n.toUInt32 := by
  apply UInt32.toNat_inj.mp
  have hn := n.toNat_lt
  rw [WriteUint16, WriteUint16, putBytes_two, putBytes_two, List.cons_append, List.cons_append,
    List.nil_append, toNat_littleEndianUint32]
  -- the bytes of the zero are zero
  simp only [toNat_byte _ (j := 0) (by decide), toNat_byte _ (j := 1) (by decide),
    UInt16.toNat_toUInt64, UInt16.toNat_toUInt32, UInt16.toNat_zero, Nat.zero_div, Nat.zero_mod]
  omega

theorem readUint32_append (l rest : List UInt8) (hl : l.length = 4) :
    readUint32 (l ++ rest) = .ok (littleEndianUint32 l, rest) := by
  rw [readUint32, ← hl, Parser.bind_ok (ReadFull_append l rest)]
  rfl

/-! ## The entries -/

section Entries

variable (data : AList fun _ : Tag => List UInt8)

/-- The value `Write` puts out for a tag: a tag with no value, or a `nil` one, writes nothing. -/
def valueOf (t : Tag) : List UInt8 := (data.lookup t).getD []

theorem writeEntries_cons (t : Tag) (ts : List Tag) (offset : UInt32) :
    HandshakeMessage.writeEntries data (t :: ts) offset =
      let offset' := offset + (valueOf data t).length.toUInt32
      (littleEndian.WriteUint32 t ++ littleEndian.WriteUint32 offset' ++
          (HandshakeMessage.writeEntries data ts offset').1,
        valueOf data t ++ (HandshakeMessage.writeEntries data ts offset').2) :=
  rfl

/-- The index holds eight bytes a tag. -/
theorem length_writeEntries_fst :
    ∀ (ts : List Tag) (offset : UInt32), (HandshakeMessage.writeEntries data ts offset).1.length =
      8 * ts.length
  | [], _ => rfl
  | t :: ts, offset => by
    rw [writeEntries_cons, List.length_append, List.length_append, length_WriteUint32,
      length_WriteUint32, length_writeEntries_fst ts, List.length_cons]
    omega

/-- The index entry of a tag and the end offset of its value, and the entries after it. -/
theorem index_entry (t offset : Tag) (later : List UInt8) :
    let index := littleEndian.WriteUint32 t ++ littleEndian.WriteUint32 offset ++ later
    littleEndianUint32 (index.take 4) = t ∧ littleEndianUint32 ((index.drop 4).take 4) = offset ∧
      index.drop 8 = later := by
  simp only [List.append_assoc]
  refine ⟨?_, ?_, ?_⟩
  · rw [List.take_left' (length_WriteUint32 ..), littleEndianUint32_WriteUint32]
  · rw [List.drop_left' (length_WriteUint32 ..), List.take_left' (length_WriteUint32 ..),
      littleEndianUint32_WriteUint32]
  · rw [← List.append_assoc, List.drop_left' (by simp)]

/-- The parser's loop reads back what the writer's loop puts out for the tags `ts` from any
offset: each value's length comes back as the difference of its end offset and the one before,
which the `uint32` subtraction undoes even where the offsets wrap, and each value is inserted
under its tag. -/
theorem parseEntries_writeEntries (rest : List UInt8) :
    ∀ (ts : List Tag) (offset : UInt32) (m : AList fun _ : Tag => List UInt8),
      (∀ t ∈ ts, (valueOf data t).length ≤ CryptoParameterMaxLength.toNat) →
      parseEntries (HandshakeMessage.writeEntries data ts offset).1 ts.length offset m
          ((HandshakeMessage.writeEntries data ts offset).2 ++ rest) =
        .ok (ts.foldl (fun m t => m.insert t (valueOf data t)) m, rest)
  | [], _, m, _ => rfl
  | t :: ts, offset, m, hlen => by
    have hv : (valueOf data t).length ≤ CryptoParameterMaxLength.toNat := hlen t List.mem_cons_self
    have hmax : CryptoParameterMaxLength.toNat = 4000 := rfl
    -- the length of the value, as the `uint32` the parser computes
    have hdiff : offset + (valueOf data t).length.toUInt32 - offset =
        (valueOf data t).length.toUInt32 := by
      rw [UInt32.add_comm]
      exact UInt32.add_sub_cancel _ _
    have hlenNat : (valueOf data t).length.toUInt32.toNat = (valueOf data t).length := by
      rw [Nat.toUInt32_eq, UInt32.toNat_ofNat', Nat.mod_eq_of_lt (by omega)]
    have hfits : ¬ (valueOf data t).length.toUInt32 > CryptoParameterMaxLength := by
      rw [gt_iff_lt, UInt32.lt_iff_toNat_lt, hlenNat]
      omega
    obtain ⟨htag, hend, hlater⟩ := index_entry t (offset + (valueOf data t).length.toUInt32)
      (HandshakeMessage.writeEntries data ts (offset + (valueOf data t).length.toUInt32)).1
    have hread : ReadFull (valueOf data t).length.toUInt32.toNat (valueOf data t ++
        ((HandshakeMessage.writeEntries data ts (offset + (valueOf data t).length.toUInt32)).2 ++
          rest)) = .ok (valueOf data t,
        (HandshakeMessage.writeEntries data ts (offset + (valueOf data t).length.toUInt32)).2 ++
          rest) := by
      rw [hlenNat]
      exact ReadFull_append _ _
    simp only [writeEntries_cons, parseEntries, List.length_cons, List.foldl_cons,
      List.append_assoc] at htag hend hlater ⊢
    rw [htag, hend, hlater, hdiff, if_neg hfits, Parser.bind_ok hread]
    exact parseEntries_writeEntries rest ts _ _ fun t' ht' => hlen t' (List.mem_cons_of_mem t ht')

end Entries

/-! ## The round trip -/


/-- **Handshake messages round-trip.**  For every message of at most `CryptoMaxParams` entries
whose values are at most `CryptoParameterMaxLength` bytes long, and whatever follows it on the
stream, `ParseHandshakeMessage` reads back what `Write` puts out: the same tag and a map with the
same value under every tag, and it stops where the message ends. -/
theorem ParseHandshakeMessage_Write (h : HandshakeMessage) (rest : List UInt8)
    (hn : h.Data.keys.length ≤ CryptoMaxParams.toNat)
    (hv : ∀ e ∈ h.Data.entries, e.2.length ≤ CryptoParameterMaxLength.toNat) :
    ∃ h' : HandshakeMessage, ParseHandshakeMessage (h.Write ++ rest) = .ok (h', rest) ∧
      h'.Tag = h.Tag ∧ ∀ t, h'.Data.lookup t = h.Data.lookup t := by
  have hmax : CryptoMaxParams.toNat = 128 := rfl
  have hperm : h.getTagsSorted.Perm h.Data.keys := List.mergeSort_perm _ _
  -- every tag written has a value within bounds
  have hlen : ∀ t ∈ h.getTagsSorted, (valueOf h.Data t).length ≤ CryptoParameterMaxLength.toNat := by
    intro t ht
    obtain ⟨v, hl⟩ := Option.isSome_iff_exists.mp
      (AList.lookup_isSome.mpr (AList.mem_keys.mpr (hperm.subset ht)))
    rw [valueOf, hl, Option.getD_some]
    exact hv ⟨t, v⟩ (AList.mem_lookup_iff.mp hl)
  -- the count reads back as the number of entries
  have hcount : (h.Data.keys.length.toUInt16.toUInt32).toNat = h.getTagsSorted.length := by
    rw [UInt16.toNat_toUInt32, Nat.toUInt16_eq, UInt16.toNat_ofNat', hperm.length_eq,
      Nat.mod_eq_of_lt (by omega)]
  have hfew : ¬ h.Data.keys.length.toUInt16.toUInt32 > CryptoMaxParams := by
    rw [gt_iff_lt, UInt32.lt_iff_toNat_lt, hcount, hperm.length_eq]
    omega
  have hindex : (h.Data.keys.length.toUInt16.toUInt32 * 8).toNat =
      (HandshakeMessage.writeEntries h.Data h.getTagsSorted 0).1.length := by
    simp only [length_writeEntries_fst, UInt32.toNat_mul, hcount, UInt32.reduceToNat]
    rw [Nat.mod_eq_of_lt (by rw [hperm.length_eq]; omega), Nat.mul_comm]
  refine ⟨⟨h.Tag, h.getTagsSorted.foldl (fun m t => m.insert t (valueOf h.Data t)) ∅⟩,
    ?_, rfl, fun t => ?_⟩
  · simp only [ParseHandshakeMessage, HandshakeMessage.Write, List.append_assoc]
    rw [Parser.bind_ok (readUint32_append _ _ (length_WriteUint32 ..)),
      littleEndianUint32_WriteUint32, ← List.append_assoc (littleEndian.WriteUint16 _),
      Parser.bind_ok (readUint32_append _ _ (by simp)), littleEndianUint32_count, if_neg hfew,
      hindex, Parser.bind_ok (ReadFull_append _ _), hcount,
      Parser.bind_ok (parseEntries_writeEntries h.Data rest _ 0 ∅ hlen)]
    rfl
  · -- the tags written are those of the map, and a tag with a value writes that value
    rw [AList.lookup_foldl_insert, AList.lookup_empty]
    by_cases ht : t ∈ h.Data.keys
    · obtain ⟨v, hl⟩ := Option.isSome_iff_exists.mp (AList.lookup_isSome.mpr (AList.mem_keys.mpr ht))
      rw [if_pos (hperm.mem_iff.mpr ht), valueOf, hl, Option.getD_some]
    · rw [if_neg (mt hperm.mem_iff.mp ht), AList.lookup_eq_none.mpr (mt AList.mem_keys.mp ht)]

/-- A client hello with a version and an empty server name comes back. -/
theorem ParseHandshakeMessage_Write_clientHello :
    let chlo : HandshakeMessage :=
      { Tag := 0x4F4C4843
        Data := AList.insert (β := fun _ : Tag => List UInt8) 0x494E53 []
          (AList.insert 0x524556 [0x51, 0x30, 0x33, 0x39] ∅) }
    ∃ h' : HandshakeMessage, ParseHandshakeMessage (chlo.Write ++ []) = .ok (h', []) ∧
      h'.Tag = chlo.Tag ∧ ∀ t, h'.Data.lookup t = chlo.Data.lookup t :=
  ParseHandshakeMessage_Write _ [] (by decide) (by decide)

end Handshake

end PStream
