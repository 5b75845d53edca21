import PStream.Lib.Reader
import PStream.Handshake.HandshakeMessage

/-!
# Certificate chain compression

A server sends its certificate chain as a list of entries, one per certificate, ended by a zero
byte.  A certificate the client has cached is sent as its hash, one that lies in a common set the
client named is sent as the set's hash and its index in the set, and every other one is sent
compressed.  The compressed certificates follow the list, each as its length in four bytes and
its bytes, in one zlib stream.  Its preset dictionary is made of the certificates that are not
compressed, the last first, followed by `certDictZlib`.

zlib is a codec that loses nothing, `Zlib`, and its reader hands out what it inflates in the
chunks of a `Reader.Chunking`.  The common sets and `certDictZlib` are the tables of
`cert_sets.go` and `cert_dict.go`, which are parameters here.

The decoder parses the entry list back, with an empty certificate in the place of each compressed
one (`entryLoop_entryBytes`), and rebuilds the same dictionary from it
(`buildZlibDictForEntries_restored`).  It then reads each length and each certificate with a
single `Read` of the zlib reader, and puts the certificate in the next compressed place
(`placeCert_restored`).  A reader that fills each buffer brings the chain back
(`decompressChain_compressChain_full`), unless it returns its final error with its last bytes, as
`compress/zlib` does, and the last certificate sent compressed is empty.  A reader may hand out less, though, and the decoder does
not look at how much it got.  A reader that hands out one byte at a time gives the first
compressed certificate a length from its length's low byte and a body made of the next byte and
zeros, so a chain whose first compressed certificate has a byte that is not zero never comes
back.
-/

set_option autoImplicit false

namespace PStream
namespace Crypto

open Utils Utils.ByteOrder Reader Handshake

/-! ## The entries -/

/-- `entryType`: how a certificate of the chain is sent. -/
inductive entryType where
  | entryCompressed
  | entryCached
  | entryCommon
  deriving DecidableEq, Repr

/-- The byte an `entryType` is written as. -/
def entryType.toUInt8 : entryType → UInt8
  | .entryCompressed => 1
  | .entryCached => 2
  | .entryCommon => 3

/-- `entryType(entryTypeByte)` as the switch of `decompressChain` sees it: any other byte is an
unknown type. -/
def entryType.ofUInt8 (b : UInt8) : Option entryType :=
  if b = 1 then some .entryCompressed
  else if b = 2 then some .entryCached
  else if b = 3 then some .entryCommon
  else none

/-- `entry`: a certificate's type, with the hash of its set and its index there if it is common,
or its own hash if it is cached. -/
structure entry where
  t : entryType
  h : UInt64 := 0
  i : UInt32 := 0
  deriving DecidableEq, Repr

/-- `certSet`: a common set of certificates. -/
abbrev certSet := List (List UInt8)

/-- `findCertInSet`: the index of the first certificate of the set equal to `cert`; a negative
value means it is not there. -/
def certSet.findCertInSet (s : certSet) (cert : List UInt8) : Int :=
  match s.idxOf? cert with
  | some i => i
  | none => -1

/-- `certSets`: the common sets this side knows, by hash.  A certificate is found in a set by a
`uint32` index, so no set holds `2^32` certificates. -/
structure CertSets where
  lookup : UInt64 → Option certSet
  length_lt : ∀ h set, lookup h = some set → set.length < 2 ^ 32

/-- `HashCert`: the 64-bit FNV-1a hash of a certificate. -/
def HashCert (cert : List UInt8) : UInt64 :=
  cert.foldl (fun h b => (h ^^^ b.toUInt64) * 1099511628211) 14695981039346656037

example : HashCert [] = 0xcbf29ce484222325 ∧ HashCert [97] = 0xaf63dc4c8601ec8c := by decide

/-- `binary.LittleEndian.Uint64` of an eight-byte slice, which reads it as
`utils.LittleEndian.ReadUint64` reads it off a reader. -/
def littleEndianUint64 (b : List UInt8) : UInt64 :=
  match littleEndian.ReadUint64 b with
  | .ok (v, _) => v
  | .error _ => 0

/-- `splitHashes`: the hashes of a CCS or CCRT tag, eight bytes each. -/
def splitHashes (hashes : List UInt8) : Except String (List UInt64) :=
  if hashes.length % 8 ≠ 0 then .error "expected a multiple of 8 bytes for CCS / CCRT hashes"
  else
    .ok ((List.range (hashes.length / 8)).map fun i =>
      littleEndianUint64 ((hashes.drop (i * 8)).take 8))

/-- The loop of `buildEntries` over the client's common sets: the first set that this side
knows and that holds the certificate, with the certificate's index in it. -/
def findInSets (certSets : CertSets) (cert : List UInt8) : List UInt64 → Option (UInt64 × Int)
  | [] => none
  | setHash :: setHashes =>
    match certSets.lookup setHash with
    -- We don't have this set
    | none => findInSets certSets cert setHashes
    | some set =>
      let pos := certSet.findCertInSet set cert
      if pos ≥ 0 then some (setHash, pos) else findInSets certSets cert setHashes

/-- The entry `buildEntries` makes for a certificate whose hash is `chainHash`. -/
def buildEntry (certSets : CertSets) (cachedHashes setHashes : List UInt64) (cert : List UInt8)
    (chainHash : UInt64) : entry :=
  if chainHash ∈ cachedHashes then { t := .entryCached, h := chainHash }
  else
    match findInSets certSets cert setHashes with
    | some (setHash, pos) => { t := .entryCommon, h := setHash, i := pos.toNat.toUInt32 }
    | none => { t := .entryCompressed }

/-- `buildEntries`. -/
def buildEntries (certSets : CertSets) (chain : List (List UInt8))
    (chainHashes cachedHashes setHashes : List UInt64) : List entry :=
  List.zipWith (buildEntry certSets cachedHashes setHashes) chain chainHashes

/-- `buildZlibDictForEntries`: the certificates that are not sent compressed, the last first,
and then `certDictZlib`. -/
def buildZlibDictForEntries (certDictZlib : List UInt8) (entries : List entry)
    (chain : List (List UInt8)) : List UInt8 :=
  (((entries.zip chain).filter fun p => p.1.t ≠ .entryCompressed).reverse.flatMap Prod.snd) ++
    certDictZlib

/-! ## zlib -/

/-- `compress/zlib` with a preset dictionary, as a codec that loses nothing: `compress dict data`
is what `zlib.NewWriterLevelDict(w, flate.BestCompression, dict)` writes for `data` up to its
`Close`, and `inflate dict r` is the error `zlib.NewReaderDict(r, dict)` fails with, or the bytes
its reader hands out and the error it returns once they are all read. -/
structure Zlib where
  compress : List UInt8 → List UInt8 → List UInt8
  inflate : List UInt8 → List UInt8 → Except String (List UInt8 × String)
  inflate_compress : ∀ dict data, inflate dict (compress dict data) = .ok (data, "EOF")

/-! ## Compression -/

/-- What `compressChain` writes for an entry: its type, then the hash of a cached certificate,
or the hash of the set and the index of a common one. -/
def entryBytes (e : entry) : List UInt8 :=
  e.t.toUInt8 ::
    match e.t with
    | .entryCached => littleEndian.WriteUint64 e.h
    | .entryCommon => littleEndian.WriteUint64 e.h ++ littleEndian.WriteUint32 e.i
    | .entryCompressed => []

/-- The certificates of the chain that are sent compressed. -/
def compressedCerts (entries : List entry) (chain : List (List UInt8)) : List (List UInt8) :=
  ((entries.zip chain).filter fun p => p.1.t = .entryCompressed).map Prod.snd

/-- The four bytes of a certificate's length, the least significant first. -/
def lenBytes (lenCert : Nat) : List UInt8 :=
  [(lenCert &&& 0xff).toUInt8, ((lenCert >>> 8) &&& 0xff).toUInt8,
    ((lenCert >>> 16) &&& 0xff).toUInt8, ((lenCert >>> 24) &&& 0xff).toUInt8]

/-- `totalUncompressedLen`, which the loop over the entries adds up: four bytes and the length of
each compressed certificate. -/
def totalUncompressedLen (entries : List entry) (chain : List (List UInt8)) : Nat :=
  ((compressedCerts entries chain).map fun cert => 4 + cert.length).sum

/-- What goes into the zlib stream: each compressed certificate, after its length. -/
def uncompressedData (certs : List (List UInt8)) : List UInt8 :=
  certs.flatMap fun cert => lenBytes cert.length ++ cert

/-- `compressChain`.  The zlib writer is made with `flate.BestCompression`, a valid level, so
making it never fails. -/
def compressChain (z : Zlib) (certSets : CertSets) (certDictZlib : List UInt8)
    (chain : List (List UInt8)) (pCommonSetHashes pCachedHashes : List UInt8) :
    Except String (List UInt8) := do
  let cachedHashes ← splitHashes pCachedHashes
  let setHashes ← splitHashes pCommonSetHashes
  let chainHashes := chain.map HashCert
  let entries := buildEntries certSets chain chainHashes cachedHashes setHashes
  let res := entries.flatMap entryBytes ++ [0]
  if totalUncompressedLen entries chain > 0 then
    let dict := buildZlibDictForEntries certDictZlib entries chain
    pure (res ++ littleEndian.WriteUint32 (totalUncompressedLen entries chain).toUInt32 ++
      z.compress dict (uncompressedData (compressedCerts entries chain)))
  else pure res

/-! ## Decompression -/

/-- What the loop of `decompressChain` over the entry list has built: the chain, with an empty
certificate in each compressed place, the entries, `numCerts` and `hasCompressedCerts`. -/
structure EntryLoop where
  chain : List (List UInt8)
  entries : List entry
  numCerts : Nat
  hasCompressedCerts : Bool
  deriving DecidableEq, Repr

/-- The loop of `decompressChain` over the entry list.  Each turn reads a byte, so
`data.length + 1` turns are never used up. -/
def entryLoop (certSets : CertSets) : Nat → EntryLoop → Parser EntryLoop
  | 0, st => pure st
  | fuel + 1, st => fun r =>
    match r with
    -- `ReadByte` returns a zero with `io.EOF`, and the zero ends the loop before the error is
    -- looked at
    | [] => .ok (st, [])
    | entryTypeByte :: r =>
      if entryTypeByte = 0 then .ok (st, r)
      else
        let st := { st with numCerts := st.numCerts + 1 }
        match entryType.ofUInt8 entryTypeByte with
        | some .entryCached => .error "unexpected cached certificate"
        | some .entryCommon => (do
            let h ← littleEndian.ReadUint64
            let i ← littleEndian.ReadUint32
            match certSets.lookup h with
            | none => throw "unknown certSet"
            | some set =>
              if i ≥ set.length.toUInt32 then throw "certificate not found in certSet"
              else
                entryLoop certSets fuel { st with
                  entries := st.entries ++ [({ t := .entryCommon, h := h, i := i } : entry)]
                  chain := st.chain ++ [set.getD i.toNat []] }) r
        | some .entryCompressed =>
          entryLoop certSets fuel { st with
            hasCompressedCerts := true
            entries := st.entries ++ [({ t := .entryCompressed } : entry)]
            chain := st.chain ++ [[]] } r
        | none => .error "unknown entryType"

/-- The innermost loop of `decompressChain`: the first entry from `certIndex` on that is
compressed gets the certificate, and `certIndex` moves past it. -/
def placeCert (cert : List UInt8) (chain : List (List UInt8)) :
    List entry → Nat → Except String (List (List UInt8) × Nat)
  | [], _ => .error "CertCompression BUG: no element to save uncompressed certificate"
  | e :: entries, certIndex =>
    if e.t = .entryCompressed then .ok (chain.set certIndex cert, certIndex + 1)
    else placeCert cert chain entries (certIndex + 1)

/-- One turn of the loop over the inflated certificates: a `Read` into a buffer of four bytes for
the length, and one into a buffer of that length for the certificate, which fails only if it
handed out less than the length together with an error.  The certificate, its length and what is
left of the stream. -/
def readCert (c : Chunking) (gzErr : String) (gz : List UInt8) :
    Except String (List UInt8 × UInt32 × List UInt8) :=
  match c.read gzErr 4 gz with
  | (_, _, some err) => .error err
  | (lenBytes, gz, none) =>
    let certLen := littleEndianUint32 (fill 4 lenBytes)
    match c.read gzErr certLen.toNat gz with
    | (got, gz, some err) =>
      if got.length.toUInt32 ≠ certLen then .error err else .ok (fill certLen.toNat got, certLen, gz)
    | (got, gz, none) => .ok (fill certLen.toNat got, certLen, gz)

/-- The loop of `decompressChain` over the inflated certificates, read from the zlib reader `gz`
that chunks as `c` and ends with `gzErr`.  Each turn reads a byte of the stream or fails, so
`gz.length + 1` turns are never used up. -/
def certLoop (c : Chunking) (gzErr : String) (entries : List entry) (uncompressedLength : UInt32) :
    Nat → List UInt8 → List (List UInt8) → Nat → UInt32 → Except String (List (List UInt8))
  | 0, _, chain, _, _ => .ok chain
  | fuel + 1, gz, chain, certIndex, totalLength =>
    if totalLength < uncompressedLength then do
      let (cert, certLen, gz) ← readCert c gzErr gz
      let (chain, certIndex) ← placeCert cert chain (entries.drop certIndex) certIndex
      certLoop c gzErr entries uncompressedLength fuel gz chain certIndex (totalLength + (4 + certLen))
    else .ok chain

/-- `decompressChain`, with a zlib reader that chunks as `c`. -/
def decompressChain (z : Zlib) (c : Chunking) (certSets : CertSets) (certDictZlib : List UInt8)
    (data : List UInt8) : Except String (List (List UInt8)) := do
  let (st, r) ← entryLoop certSets (data.length + 1) ⟨[], [], 0, false⟩ data
  if st.numCerts = 0 then pure []
  else if st.hasCompressedCerts then
    let (uncompressedLength, r) ← littleEndian.ReadUint32 r
    let zlibDict := buildZlibDictForEntries certDictZlib st.entries st.chain
    let (gz, gzErr) ← z.inflate zlibDict r
    certLoop c gzErr st.entries uncompressedLength (gz.length + 1) gz st.chain 0 0
  else pure st.chain

/-! ## What the decoder rebuilds -/

/-- What the entry loop puts in the chain for a certificate sent as `e`: an empty certificate
in the place of a compressed one, which the zlib stream fills in later, and the certificate
itself otherwise. -/
def restoredCert (e : entry) (cert : List UInt8) : List UInt8 :=
  if e.t = .entryCompressed then [] else cert

/-- The entries `compressChain` builds when the client has cached nothing. -/
def sentEntries (certSets : CertSets) (chain : List (List UInt8)) (setHashes : List UInt64) :
    List entry :=
  buildEntries certSets chain (chain.map HashCert) [] setHashes

/-- An entry the decoder rebuilds `cert` from: a compressed one, or one that names a known set
and an index at which the set holds `cert`. -/
def Decodable (certSets : CertSets) (e : entry) (cert : List UInt8) : Prop :=
  e = { t := .entryCompressed } ∨
    e.t = .entryCommon ∧ ∃ set, certSets.lookup e.h = some set ∧ e.i.toNat < set.length ∧
      set.getD e.i.toNat [] = cert

section Entries

variable (certSets : CertSets)

theorem findCertInSet_spec {s : certSet} {cert : List UInt8}
    (hpos : 0 ≤ certSet.findCertInSet s cert) :
    (certSet.findCertInSet s cert).toNat < s.length ∧
      s.getD (certSet.findCertInSet s cert).toNat [] = cert := by
  unfold certSet.findCertInSet at hpos ⊢
  cases h : s.idxOf? cert with
  | none => simp [h] at hpos
  | some i =>
    obtain ⟨hi, heq, -⟩ := List.idxOf?_eq_some_iff.mp h
    simp [hi, heq]

/-- A set `findInSets` picks is known and holds the certificate at the index it gives. -/
theorem findInSets_spec {cert : List UInt8} {h : UInt64} {pos : Int} :
    ∀ {setHashes : List UInt64}, findInSets certSets cert setHashes = some (h, pos) →
      ∃ set, certSets.lookup h = some set ∧ pos.toNat < set.length ∧ set.getD pos.toNat [] = cert
  | [], hfind => by simp [findInSets] at hfind
  | setHash :: setHashes, hfind => by
    unfold findInSets at hfind
    cases hl : certSets.lookup setHash with
    | none =>
      rw [hl] at hfind
      exact findInSets_spec hfind
    | some set =>
      rw [hl] at hfind
      dsimp only at hfind
      split_ifs at hfind with hpos
      · cases hfind
        exact ⟨set, hl, findCertInSet_spec hpos⟩
      · exact findInSets_spec hfind

/-- With no cached hashes, every entry `buildEntry` makes can be decoded. -/
theorem buildEntry_decodable (setHashes : List UInt64) (cert : List UInt8) (chainHash : UInt64) :
    Decodable certSets (buildEntry certSets [] setHashes cert chainHash) cert := by
  unfold buildEntry
  rw [if_neg List.not_mem_nil]
  cases hfind : findInSets certSets cert setHashes with
  | none => exact .inl rfl
  | some found =>
    obtain ⟨h, pos⟩ := found
    obtain ⟨set, hl, hlt, hget⟩ := findInSets_spec certSets hfind
    have hsmall := certSets.length_lt h set hl
    -- the index fits in the `uint32` it is sent as
    have hi : pos.toNat.toUInt32.toNat = pos.toNat := by
      rw [Nat.toUInt32_eq, UInt32.toNat_ofNat', Nat.mod_eq_of_lt (by omega)]
    exact .inr ⟨rfl, set, hl, by rw [hi]; exact hlt, by rw [hi]; exact hget⟩

theorem sentEntries_decodable (setHashes : List UInt64) :
    ∀ chain : List (List UInt8),
      List.Forall₂ (Decodable certSets) (sentEntries certSets chain setHashes) chain
  | [] => .nil
  | cert :: chain =>
    .cons (buildEntry_decodable certSets setHashes cert (HashCert cert))
      (sentEntries_decodable setHashes chain)

/-- One turn of the entry loop reads back an entry it can decode. -/
theorem entryLoop_entryBytes_cons {e : entry} {cert : List UInt8} (he : Decodable certSets e cert)
    (fuel : Nat) (st : EntryLoop) (r : List UInt8) :
    entryLoop certSets (fuel + 1) st (entryBytes e ++ r) =
      entryLoop certSets fuel
        { chain := st.chain ++ [restoredCert e cert], entries := st.entries ++ [e],
          numCerts := st.numCerts + 1,
          hasCompressedCerts := st.hasCompressedCerts || decide (e.t = .entryCompressed) } r := by
  rcases he with rfl | ⟨ht, set, hl, hlt, hget⟩
  · simp only [restoredCert, decide_true, Bool.or_true]
    rfl
  · obtain ⟨t, h, i⟩ := e
    simp only at ht hl hlt hget
    subst ht
    have hsmall := certSets.length_lt h set hl
    have hfound : ¬ i ≥ set.length.toUInt32 := by
      rw [ge_iff_le, UInt32.le_iff_toNat_le, Nat.toUInt32_eq, UInt32.toNat_ofNat',
        Nat.mod_eq_of_lt hsmall]
      omega
    have hbytes : entryBytes { t := .entryCommon, h := h, i := i } ++ r =
        3 :: (littleEndian.WriteUint64 h ++ (littleEndian.WriteUint32 i ++ r)) := by
      simp [entryBytes, entryType.toUInt8]
    rw [hbytes]
    simp only [entryLoop]
    rw [Parser.bind_ok (ReadUint64_WriteUint64 _ _ _), Parser.bind_ok (ReadUint32_WriteUint32 _ _ _)]
    have h3 : entryType.ofUInt8 3 = some .entryCommon := rfl
    simp only [hl, hfound, if_false, restoredCert, hget, h3, show (3 : UInt8) ≠ 0 by decide,
      reduceCtorEq, decide_false, Bool.or_false]

/-- The entry loop reads back every entry it can decode, up to the zero that ends the list. -/
theorem entryLoop_entryBytes {es : List entry} {chain : List (List UInt8)}
    (h : List.Forall₂ (Decodable certSets) es chain) :
    ∀ (fuel : Nat) (st : EntryLoop) (rest : List UInt8), es.length < fuel →
      entryLoop certSets fuel st (es.flatMap entryBytes ++ 0 :: rest) =
        .ok ({ chain := st.chain ++ List.zipWith restoredCert es chain,
               entries := st.entries ++ es, numCerts := st.numCerts + es.length,
               hasCompressedCerts := st.hasCompressedCerts ||
                 es.any fun e => decide (e.t = .entryCompressed) }, rest) := by
  induction h with
  | nil =>
    rintro (_ | fuel) st rest hfuel
    · cases hfuel
    · simp only [List.flatMap_nil, List.nil_append, List.zipWith_nil_left, List.append_nil,
        List.length_nil, Nat.add_zero, List.any_nil, Bool.or_false]
      rfl
  | @cons e cert es chain he _ ih =>
    rintro (_ | fuel) st rest hfuel
    · cases hfuel
    · rw [List.flatMap_cons, List.append_assoc, entryLoop_entryBytes_cons certSets he,
        ih fuel _ rest (by simp at hfuel; omega)]
      simp only [List.append_assoc, List.singleton_append, List.zipWith_cons_cons,
        List.length_cons, List.any_cons, Bool.or_assoc]
      congr 3
      omega

end Entries

/-! ## The compressed places -/

@[simp] theorem compressedCerts_cons (e : entry) (es : List entry) (cert : List UInt8)
    (chain : List (List UInt8)) :
    compressedCerts (e :: es) (cert :: chain) =
      if e.t = .entryCompressed then cert :: compressedCerts es chain
      else compressedCerts es chain := by
  by_cases he : e.t = .entryCompressed <;> simp [compressedCerts, he]

@[simp] theorem uncompressedData_cons (cert : List UInt8) (certs : List (List UInt8)) :
    uncompressedData (cert :: certs) = lenBytes cert.length ++ cert ++ uncompressedData certs :=
  List.flatMap_cons

/-- Every certificate puts at least its length in the stream. -/
theorem uncompressedData_eq_nil {certs : List (List UInt8)} :
    uncompressedData certs = [] ↔ certs = [] := by
  cases certs with
  | nil => exact iff_of_true rfl rfl
  | cons cert certs => simp [lenBytes]

/-- The decoder's chain differs from the sender's only in the compressed places, which the
dictionary leaves out. -/
theorem filter_zip_restoredCert : ∀ (es : List entry) (chain : List (List UInt8)),
    ((es.zip (List.zipWith restoredCert es chain)).filter fun p => p.1.t ≠ .entryCompressed) =
      (es.zip chain).filter fun p => p.1.t ≠ .entryCompressed
  | [], _ => rfl
  | _ :: _, [] => rfl
  | e :: es, cert :: chain => by
    have ih := filter_zip_restoredCert es chain
    by_cases he : e.t = .entryCompressed
    · simpa [he] using ih
    · simpa [he, restoredCert] using ih

/-- The decoder builds the dictionary the sender built. -/
theorem buildZlibDictForEntries_restored (certDictZlib : List UInt8) (es : List entry)
    (chain : List (List UInt8)) :
    buildZlibDictForEntries certDictZlib es (List.zipWith restoredCert es chain) =
      buildZlibDictForEntries certDictZlib es chain := by
  rw [buildZlibDictForEntries, buildZlibDictForEntries, filter_zip_restoredCert]

/-- With nothing compressed, the decoder's chain is the sender's. -/
theorem zipWith_restoredCert_of_compressedCerts_nil :
    ∀ {es : List entry} {chain : List (List UInt8)}, es.length = chain.length →
      compressedCerts es chain = [] → List.zipWith restoredCert es chain = chain
  | [], [], _, _ => rfl
  | e :: es, cert :: chain, hlen, h => by
    by_cases he : e.t = .entryCompressed
    · simp [he] at h
    · simp only [compressedCerts_cons, he, if_false] at h
      simp [restoredCert, he,
        zipWith_restoredCert_of_compressedCerts_nil (by simpa using hlen) h]
  | [], _ :: _, hlen, _ | _ :: _, [], hlen, _ => by simp at hlen

/-- The entry loop has seen a compressed certificate exactly when one is sent compressed. -/
theorem any_compressed_eq :
    ∀ {es : List entry} {chain : List (List UInt8)}, es.length = chain.length →
      (es.any fun e => decide (e.t = .entryCompressed)) = !(compressedCerts es chain).isEmpty
  | [], [], _ => rfl
  | e :: es, cert :: chain, hlen => by
    have ih := any_compressed_eq (by simpa using hlen : es.length = chain.length)
    by_cases he : e.t = .entryCompressed <;> simp [he, ih]
  | [], _ :: _, hlen | _ :: _, [], hlen => by simp at hlen

/-- The first compressed place: the decoder's chain has an empty certificate there and the
sender's the first compressed certificate, and `placeCert` puts what it is given there, after
the certificates before it, which it leaves as they are. -/
theorem placeCert_restored (x : List UInt8) {c : List UInt8} {more : List (List UInt8)} :
    ∀ (pre : List (List UInt8)) {es : List entry} {chain : List (List UInt8)},
      es.length = chain.length → compressedCerts es chain = c :: more →
      ∃ mid rest chain', chain = mid ++ c :: chain' ∧ rest.length = chain'.length ∧
        compressedCerts rest chain' = more ∧ es.drop (mid.length + 1) = rest ∧
        List.zipWith restoredCert es chain = mid ++ [] :: List.zipWith restoredCert rest chain' ∧
        placeCert x (pre ++ List.zipWith restoredCert es chain) es pre.length =
          .ok (pre ++ mid ++ x :: List.zipWith restoredCert rest chain', pre.length + mid.length + 1)
  | _, [], [], _, h => by simp [compressedCerts] at h
  | pre, e :: es, cert :: chain, hlen, h => by
    have hlen' : es.length = chain.length := by simpa using hlen
    by_cases he : e.t = .entryCompressed
    · -- the first entry is the compressed one
      simp only [compressedCerts_cons, he, if_true, List.cons.injEq] at h
      obtain ⟨rfl, rfl⟩ := h
      refine ⟨[], es, chain, rfl, hlen', rfl, rfl, by simp [restoredCert, he], ?_⟩
      simp [placeCert, he, restoredCert, List.set_append_right]
    · -- a certificate that is not compressed comes back as it is; look further on
      simp only [compressedCerts_cons, he, if_false] at h
      obtain ⟨mid, rest, chain', rfl, hrest, hmore, hdrop, hzip, hplace⟩ :=
        placeCert_restored x (pre ++ [cert]) hlen' h
      refine ⟨cert :: mid, rest, chain', rfl, hrest, hmore, by simpa using hdrop, ?_, ?_⟩
      · simp [restoredCert, he, hzip]
      · have hchain : pre ++ List.zipWith restoredCert (e :: es) (cert :: (mid ++ c :: chain')) =
            pre ++ [cert] ++ List.zipWith restoredCert es (mid ++ c :: chain') := by
          simp [restoredCert, he]
        rw [hchain, placeCert, if_neg he]
        simpa [Nat.add_assoc, Nat.add_comm 1] using hplace
  | _, [], _ :: _, hlen, _ | _, _ :: _, [], hlen, _ => by simp at hlen

/-- A `placeCert` that succeeds sets one place at or after `certIndex`, and moves past it. -/
theorem placeCert_ok {x : List UInt8} {chain : List (List UInt8)} :
    ∀ {es : List entry} {j : Nat} {chain' : List (List UInt8)} {j' : Nat},
      placeCert x chain es j = .ok (chain', j') → ∃ k, j ≤ k ∧ chain' = chain.set k x ∧ j' = k + 1
  | [], _, _, _, h => by simp [placeCert] at h
  | e :: es, j, chain', j', h => by
    unfold placeCert at h
    split_ifs at h
    · cases h
      exact ⟨j, Nat.le_refl j, rfl, rfl⟩
    · obtain ⟨k, hk, hset, hj⟩ := placeCert_ok h
      exact ⟨k, by omega, hset, hj⟩

/-! ## Reading the inflated stream -/

/-- The four bytes of a length read back as the length, cut to 32 bits. -/
theorem toNat_littleEndianUint32_lenBytes (lenCert : Nat) :
    (littleEndianUint32 (lenBytes lenCert)).toNat = lenCert % 2 ^ 32 := by
  rw [lenBytes, toNat_littleEndianUint32]
  simp only [Nat.toUInt8_eq, UInt8.toNat_ofNat', Nat.and_two_pow_sub_one_eq_mod _ 8,
    Nat.shiftRight_eq_div_pow]
  omega

/-- A reader that fills each buffer hands out the length and then the certificate.  One that
returns its final error with its last bytes fails the read of the length when the certificate is
empty and the last of the stream; the read of a certificate that is not empty checks its length
first. -/
theorem readCert_full (eofWithLast : Bool) (gzErr : String) (cert rest : List UInt8)
    (hlen : cert.length < 2 ^ 32) :
    readCert (.full eofWithLast) gzErr (lenBytes cert.length ++ cert ++ rest) =
      if eofWithLast = true ∧ cert = [] ∧ rest = [] then .error gzErr
      else .ok (cert, cert.length.toUInt32, rest) := by
  have hcertLen : littleEndianUint32 (lenBytes cert.length) = cert.length.toUInt32 := by
    apply UInt32.toNat_inj.mp
    rw [toNat_littleEndianUint32_lenBytes, Nat.toUInt32_eq, UInt32.toNat_ofNat']
  have hread : (cert.length.toUInt32).toNat = cert.length := by
    rw [Nat.toUInt32_eq, UInt32.toNat_ofNat', Nat.mod_eq_of_lt hlen]
  rw [readCert, List.append_assoc,
    show (4 : Nat) = (lenBytes cert.length).length from rfl, Chunking.read_full_append]
  by_cases hend : eofWithLast = true ∧ cert = [] ∧ rest = []
  · -- the four bytes of the length are the last of the stream
    obtain ⟨hb, rfl, rfl⟩ := hend
    simp [hb, lenBytes]
  · have hfirst : ¬ (0 < (lenBytes cert.length).length ∧ eofWithLast = true ∧ cert ++ rest = []) :=
      fun ⟨_, hb, hnil⟩ => hend ⟨hb, List.append_eq_nil_iff.mp hnil⟩
    rw [if_neg hfirst, if_neg hend]
    dsimp only
    rw [fill_length_self, hcertLen, hread, Chunking.read_full_append]
    split_ifs <;> simp [fill_length_self]

/-- A reader that hands out a byte at a time gives the length's low byte as the length, and a
certificate of that length made of the length's second byte and zeros: only a certificate of
zeros comes back as it was sent. -/
theorem readCert_oneByte (gzErr : String) (cert rest : List UInt8) :
    ∃ got certLen gz, readCert .oneByte gzErr (lenBytes cert.length ++ cert ++ rest) =
      .ok (got, certLen, gz) ∧ (got = cert → ∀ b ∈ cert, b = 0) := by
  set L := cert.length with hL
  -- the bytes of the length, the low one first
  obtain ⟨b0, b1, b2, b3, hbytes⟩ : ∃ b0 b1 b2 b3, lenBytes L = [b0, b1, b2, b3] :=
    ⟨_, _, _, _, rfl⟩
  have hb0 : b0.toNat = L % 256 := by
    simp only [lenBytes, List.cons.injEq] at hbytes
    rw [← hbytes.1, Nat.toUInt8_eq, UInt8.toNat_ofNat', Nat.and_two_pow_sub_one_eq_mod _ 8]
    omega
  have hb1 : L < 256 → b1 = 0 := by
    intro hsmall
    simp only [lenBytes, List.cons.injEq] at hbytes
    rw [← hbytes.2.1, Nat.shiftRight_eq_div_pow, Nat.div_eq_of_lt (by omega)]
    rfl
  have hlow : (littleEndianUint32 (fill 4 [b0])).toNat = L % 256 := by
    rw [show fill 4 [b0] = [b0, 0, 0, 0] from rfl, toNat_littleEndianUint32, hb0]
    simp
  rw [readCert, hbytes, List.append_assoc, List.cons_append, Chunking.read_oneByte_cons _ (by decide)]
  dsimp only
  rw [hlow]
  rcases Nat.eq_zero_or_pos (L % 256) with h0 | hpos
  · -- the length reads as zero, and so does the certificate
    rw [h0, Chunking.read_zero]
    refine ⟨_, _, _, rfl, ?_⟩
    intro hgot
    have hnil : cert = [] := by simpa [fill] using hgot.symm
    simp [hnil]
  · rw [List.cons_append, List.cons_append, Chunking.read_oneByte_cons _ hpos]
    refine ⟨_, _, _, rfl, ?_⟩
    intro hgot b hb
    have hlen : (fill (L % 256) [b1]).length = L % 256 := length_fill (by simp only [List.length_singleton]; omega)
    rw [hgot, ← hL] at hlen
    -- the certificate came back, so its length is below 256 and the second byte is zero
    have hb1' := hb1 (by omega)
    rw [← hgot] at hb
    simp only [fill, List.mem_append, List.mem_singleton, List.mem_replicate] at hb
    rcases hb with rfl | ⟨-, rfl⟩
    · exact hb1'
    · rfl

/-- The loop over the inflated certificates never touches a place before `certIndex`. -/
theorem certLoop_getElem?_of_lt (c : Chunking) (gzErr : String) (entries : List entry)
    (U : UInt32) {k : Nat} :
    ∀ {fuel : Nat} {gz : List UInt8} {chain : List (List UInt8)} {j : Nat} {tot : UInt32}
      {chain' : List (List UInt8)}, k < j →
      certLoop c gzErr entries U fuel gz chain j tot = .ok chain' → chain'[k]? = chain[k]?
  | 0, _, _, _, _, _, _, h => by cases h; rfl
  | fuel + 1, gz, chain, j, tot, chain', hk, h => by
    rw [certLoop] at h
    split_ifs at h
    · cases hread : readCert c gzErr gz with
      | error err => simp [hread, bind, Except.bind] at h
      | ok read =>
        obtain ⟨cert, certLen, gz'⟩ := read
        cases hplace : placeCert cert chain (entries.drop j) j with
        | error err => simp [hread, hplace, bind, Except.bind] at h
        | ok placed =>
          obtain ⟨chain₁, j₁⟩ := placed
          simp only [hread, hplace, bind, Except.bind] at h
          obtain ⟨k₁, hjk, rfl, rfl⟩ := placeCert_ok hplace
          rw [certLoop_getElem?_of_lt c gzErr entries U (by omega) h,
            List.getElem?_set_ne (by omega)]
    · cases h
      rfl

/-- A reader that fills each buffer gives every compressed place its certificate, as long as the
sum of the lengths is what `uncompressedLength` says and fits its 32 bits, unless it returns its
final error with its last bytes and the last certificate is empty. -/
theorem certLoop_full (eofWithLast : Bool) (gzErr : String) (entries : List entry) (U : UInt32) :
    ∀ (more : List (List UInt8)) (fuel j : Nat) (pre chain : List (List UInt8)) (tot : UInt32),
      more.length < fuel → pre.length = j → (entries.drop j).length = chain.length →
      compressedCerts (entries.drop j) chain = more →
      tot.toNat + (more.map fun cert => 4 + cert.length).sum = U.toNat →
      certLoop (.full eofWithLast) gzErr entries U fuel (uncompressedData more)
        (pre ++ List.zipWith restoredCert (entries.drop j) chain) j tot =
        if eofWithLast = true ∧ more.getLast? = some [] then .error gzErr else .ok (pre ++ chain)
  | _, 0, _, _, _, _, hfuel, _, _, _, _ => absurd hfuel (Nat.not_lt_zero _)
  | [], fuel + 1, j, pre, chain, tot, _, _, hlen, hmore, htot => by
    have hstop : ¬ tot < U := by
      rw [UInt32.lt_iff_toNat_lt]
      simp only [List.map_nil, List.sum_nil, Nat.add_zero] at htot
      omega
    rw [certLoop, if_neg hstop, zipWith_restoredCert_of_compressedCerts_nil hlen hmore]
    simp
  | cert :: more, fuel + 1, j, pre, chain, tot, hfuel, hpre, hlen, hmore, htot => by
    subst hpre
    have hU := U.toNat_lt
    simp only [List.map_cons, List.sum_cons] at htot
    have hgo : tot < U := by
      rw [UInt32.lt_iff_toNat_lt]
      omega
    have hcert : cert.length < 2 ^ 32 := by omega
    rw [certLoop, if_pos hgo, uncompressedData_cons, readCert_full eofWithLast gzErr cert _ hcert]
    simp only [uncompressedData_eq_nil]
    by_cases hend : eofWithLast = true ∧ cert = [] ∧ more = []
    · -- the last certificate is empty, and its length ends the stream
      obtain ⟨hb, rfl, rfl⟩ := hend
      simp [hb, bind, Except.bind]
    rw [if_neg hend]
    -- the last certificate is the last of `more`, unless this one is the last
    have hlast : (eofWithLast = true ∧ (cert :: more).getLast? = some []) ↔
        (eofWithLast = true ∧ more.getLast? = some []) := by
      cases more with
      | nil => simpa using fun hb hc => hend ⟨hb, hc, rfl⟩
      | cons c more => rw [List.getLast?_cons_cons]
    rw [if_congr hlast rfl rfl]
    obtain ⟨mid, rest, chain', rfl, hrest, hmore', hdrop, -, hplace⟩ :=
      placeCert_restored cert pre hlen hmore
    have hdrop' : entries.drop (pre.length + mid.length + 1) = rest := by
      rw [Nat.add_assoc, ← List.drop_drop, hdrop]
    -- the running total stays below `2^32`, so it adds up without wrapping
    have h4 : (4 + cert.length.toUInt32).toNat = 4 + cert.length := by
      rw [UInt32.toNat_add, Nat.toUInt32_eq, UInt32.toNat_ofNat', Nat.mod_eq_of_lt hcert]
      simp only [UInt32.reduceToNat]
      omega
    have htot' : (tot + (4 + cert.length.toUInt32)).toNat + (more.map fun c => 4 + c.length).sum =
        U.toNat := by
      rw [UInt32.toNat_add, h4, Nat.mod_eq_of_lt (by omega)]
      omega
    have hnext := certLoop_full eofWithLast gzErr entries U more fuel (pre.length + mid.length + 1)
      (pre ++ mid ++ [cert]) chain' (tot + (4 + cert.length.toUInt32)) (by simpa using hfuel)
      (by simp [Nat.add_assoc]) (by rw [hdrop', hrest]) (by rw [hdrop', hmore']) htot'
    simp only [bind, Except.bind, hplace]
    rw [hdrop'] at hnext
    simpa using hnext

/-! ## The round trip -/

theorem splitHashes_nil : splitHashes [] = .ok [] := rfl

theorem littleEndianUint64_WriteUint64 (h : UInt64) :
    littleEndianUint64 (littleEndian.WriteUint64 h) = h := by
  have hread := ReadUint64_WriteUint64 littleEndian h []
  rw [List.append_nil] at hread
  simp [littleEndianUint64, hread]

/-- The hashes a client sends, eight bytes each, are split back into the same hashes. -/
theorem splitHashes_flatMap (setHashes : List UInt64) :
    splitHashes (setHashes.flatMap littleEndian.WriteUint64) = .ok setHashes := by
  have hlen : (setHashes.flatMap littleEndian.WriteUint64).length = 8 * setHashes.length := by
    induction setHashes with
    | nil => rfl
    | cons h hs ih => simp [ih, length_WriteUint64]; omega
  -- the slice at `i` is the `i`-th hash, written
  have hslices : ∀ hs : List UInt64, ((List.range hs.length).map fun i =>
      littleEndianUint64 (((hs.flatMap littleEndian.WriteUint64).drop (i * 8)).take 8)) = hs := by
    intro hs
    induction hs with
    | nil => rfl
    | cons h hs ih =>
      rw [List.length_cons, List.range_succ_eq_map, List.map_cons, List.map_map]
      rw [List.cons.injEq]
      refine ⟨?_, ?_⟩
      · simp [List.take_left' (length_WriteUint64 _ _), littleEndianUint64_WriteUint64]
      · conv_rhs => rw [← ih]
        refine List.map_congr_left fun i _ => ?_
        have hdrop : (Nat.succ i) * 8 = (littleEndian.WriteUint64 h).length + i * 8 := by
          rw [length_WriteUint64, Nat.succ_mul]
          omega
        simp only [Function.comp_apply, List.flatMap_cons, hdrop, List.drop_length_add_append]
  rw [splitHashes, hlen, if_neg (by omega), Nat.mul_div_cancel_left _ (by decide), hslices]

theorem length_le_length_flatMap_entryBytes :
    ∀ es : List entry, es.length ≤ (es.flatMap entryBytes).length
  | [] => Nat.le_refl 0
  | e :: es => by
    have := length_le_length_flatMap_entryBytes es
    simp only [List.length_cons, List.flatMap_cons, List.length_append, entryBytes]
    omega

theorem length_le_length_uncompressedData :
    ∀ certs : List (List UInt8), certs.length ≤ (uncompressedData certs).length
  | [] => Nat.le_refl 0
  | cert :: certs => by
    have := length_le_length_uncompressedData certs
    simp only [List.length_cons, uncompressedData_cons, List.length_append]
    simp [lenBytes]
    omega

theorem totalUncompressedLen_pos_iff {entries : List entry} {chain : List (List UInt8)} :
    0 < totalUncompressedLen entries chain ↔ compressedCerts entries chain ≠ [] := by
  unfold totalUncompressedLen
  cases compressedCerts entries chain with
  | nil => simp
  | cons cert certs => simp only [List.map_cons, List.sum_cons, ne_eq, reduceCtorEq,
      not_false_eq_true, iff_true]; omega

/-- The compressed certificates are some of the chain's. -/
theorem totalUncompressedLen_le :
    ∀ (entries : List entry) (chain : List (List UInt8)),
      totalUncompressedLen entries chain ≤ (chain.map fun cert => 4 + cert.length).sum
  | [], _ => Nat.zero_le _
  | _ :: _, [] => Nat.le_refl 0
  | e :: es, cert :: chain => by
    have ih := totalUncompressedLen_le es chain
    unfold totalUncompressedLen at ih ⊢
    by_cases he : e.t = .entryCompressed
    · simp only [compressedCerts_cons, he, if_true, List.map_cons, List.sum_cons]
      omega
    · simp only [compressedCerts_cons, he, if_false, List.map_cons, List.sum_cons]
      omega

section Chain

variable (z : Zlib) (certSets : CertSets) (certDictZlib : List UInt8) (chain : List (List UInt8))
  (setHashes : List UInt64)

/-- The decoder reads back what `compressChain` writes for a client that has cached nothing, up
to the loop over the inflated certificates: the entries, with an empty certificate in each
compressed place, and the zlib stream of the compressed certificates. -/
theorem decompressChain_compressChain_eq (c : Chunking) :
    ∃ data, compressChain z certSets certDictZlib chain
        (setHashes.flatMap littleEndian.WriteUint64) [] = .ok data ∧
      decompressChain z c certSets certDictZlib data =
        if compressedCerts (sentEntries certSets chain setHashes) chain = [] then .ok chain
        else
          certLoop c "EOF" (sentEntries certSets chain setHashes)
            (totalUncompressedLen (sentEntries certSets chain setHashes) chain).toUInt32
            ((uncompressedData (compressedCerts (sentEntries certSets chain setHashes) chain)).length + 1)
            (uncompressedData (compressedCerts (sentEntries certSets chain setHashes) chain))
            (List.zipWith restoredCert (sentEntries certSets chain setHashes) chain) 0 0 := by
  have hcompress : compressChain z certSets certDictZlib chain
      (setHashes.flatMap littleEndian.WriteUint64) [] =
      .ok (let es := sentEntries certSets chain setHashes
        if totalUncompressedLen es chain > 0 then
          es.flatMap entryBytes ++ [0] ++
            littleEndian.WriteUint32 (totalUncompressedLen es chain).toUInt32 ++
            z.compress (buildZlibDictForEntries certDictZlib es chain)
              (uncompressedData (compressedCerts es chain))
        else es.flatMap entryBytes ++ [0]) := by
    simp only [compressChain, sentEntries, splitHashes_nil, splitHashes_flatMap, bind, Except.bind]
    split_ifs with hpos
    · simp only [hpos, ↓reduceIte]
      rfl
    · simp only [hpos, ↓reduceIte]
      rfl
  have hdec := sentEntries_decodable certSets setHashes chain
  have hlen := hdec.length_eq
  set es := sentEntries certSets chain setHashes with hes
  have hentries := length_le_length_flatMap_entryBytes es
  refine ⟨_, hcompress, ?_⟩
  by_cases hcerts : compressedCerts es chain = []
  · -- nothing compressed: the chain is all in the entry list
    have hzero : ¬ totalUncompressedLen es chain > 0 := by
      rw [gt_iff_lt, totalUncompressedLen_pos_iff]
      exact not_not.mpr hcerts
    have hany : (es.any fun e => decide (e.t = .entryCompressed)) = false := by
      rw [any_compressed_eq hlen, hcerts]
      rfl
    rw [if_neg hzero, if_pos hcerts, decompressChain, entryLoop_entryBytes certSets hdec _ _ []
      (by simp only [List.length_append, List.length_cons, List.length_nil]; omega)]
    simp only [bind, Except.bind, hany, Bool.false_or, List.nil_append, Nat.zero_add,
      Bool.false_eq_true, ↓reduceIte]
    split_ifs with hnum
    · rw [List.eq_nil_of_length_eq_zero (hlen ▸ hnum : chain.length = 0)]
      rfl
    · rw [zipWith_restoredCert_of_compressedCerts_nil hlen hcerts]
      rfl
  · -- the rest of the certificates are in the zlib stream after the list
    have hpos : totalUncompressedLen es chain > 0 := totalUncompressedLen_pos_iff.mpr hcerts
    have hnum : ¬ es.length = 0 := by
      intro h0
      rw [List.eq_nil_of_length_eq_zero h0] at hcerts
      exact hcerts rfl
    have hany : (es.any fun e => decide (e.t = .entryCompressed)) = true := by
      rw [any_compressed_eq hlen]
      simpa using hcerts
    rw [if_pos hpos, if_neg hcerts, decompressChain, List.append_assoc, List.append_assoc,
      List.singleton_append, entryLoop_entryBytes certSets hdec _ _ _
        (by simp only [List.length_append, List.length_cons]; omega)]
    simp only [bind, Except.bind, hany, Bool.false_or, List.nil_append, Nat.zero_add, hnum,
      ↓reduceIte]
    rw [ReadUint32_WriteUint32]
    simp only [buildZlibDictForEntries_restored, z.inflate_compress]

/-- A zlib reader that fills every buffer brings the chain back: the certificates of a common
set come back from the set, and all others byte for byte, as long as the certificates' lengths,
with four bytes added for each, sum up to less than `2^32`.  The one exception is a reader that
returns its final error with its last bytes, as `compress/zlib` does, when the last certificate
sent compressed is empty: the read of its length fails. -/
theorem decompressChain_compressChain_full (eofWithLast : Bool)
    (hsum : (chain.map fun cert => 4 + cert.length).sum < 2 ^ 32) :
    ∃ data, compressChain z certSets certDictZlib chain
        (setHashes.flatMap littleEndian.WriteUint64) [] = .ok data ∧
      decompressChain z (.full eofWithLast) certSets certDictZlib data =
        if eofWithLast = true ∧
            (compressedCerts (sentEntries certSets chain setHashes) chain).getLast? = some []
        then .error "EOF" else .ok chain := by
  obtain ⟨data, hcompress, hdecompress⟩ :=
    decompressChain_compressChain_eq z certSets certDictZlib chain setHashes (.full eofWithLast)
  refine ⟨data, hcompress, ?_⟩
  rw [hdecompress]
  by_cases hcerts : compressedCerts (sentEntries certSets chain setHashes) chain = []
  · -- nothing was compressed, so no read fails
    rw [if_pos hcerts, hcerts, if_neg (by simp)]
  · rw [if_neg hcerts]
    set es := sentEntries certSets chain setHashes
    have hlen := (sentEntries_decodable certSets setHashes chain).length_eq
    have htotal := totalUncompressedLen_le es chain
    have hU : 0 + ((compressedCerts es chain).map fun cert => 4 + cert.length).sum =
        (totalUncompressedLen es chain).toUInt32.toNat := by
      rw [Nat.toUInt32_eq, UInt32.toNat_ofNat', Nat.mod_eq_of_lt (by omega), Nat.zero_add]
      rfl
    have hloop := certLoop_full eofWithLast "EOF" es _ (compressedCerts es chain) _ 0 [] chain 0
      (Nat.lt_succ_of_le (length_le_length_uncompressedData _)) rfl (by simpa using hlen) rfl hU
    simpa using hloop

/-- A zlib reader that hands out one byte at a time breaks the round trip: the first compressed
certificate comes back as a list of zeros of its length's low byte, with the length's second byte
in front, so a chain whose first compressed certificate has a byte that is not zero never comes
back. -/
theorem decompressChain_compressChain_oneByte {c : List UInt8} {more : List (List UInt8)}
    (hfirst : compressedCerts (sentEntries certSets chain setHashes) chain = c :: more)
    (hc : ∃ b ∈ c, b ≠ 0) :
    ∃ data, compressChain z certSets certDictZlib chain
        (setHashes.flatMap littleEndian.WriteUint64) [] = .ok data ∧
      decompressChain z .oneByte certSets certDictZlib data ≠ .ok chain := by
  obtain ⟨data, hcompress, hdecompress⟩ :=
    decompressChain_compressChain_eq z certSets certDictZlib chain setHashes .oneByte
  refine ⟨data, hcompress, ?_⟩
  rw [hdecompress, if_neg (by simp [hfirst]), hfirst]
  intro hok
  obtain ⟨b, hb, hb0⟩ := hc
  have hlen := (sentEntries_decodable certSets setHashes chain).length_eq
  obtain ⟨got, certLen, gz, hread, hzeros⟩ := readCert_oneByte "EOF" c (uncompressedData more)
  obtain ⟨mid, rest, chain', hchain, -, -, -, hzip, hplace⟩ :=
    placeCert_restored got [] hlen hfirst
  -- the first compressed place is where the sender's chain has `c`
  have hat : chain[mid.length]? = some c := by simp [hchain]
  by_cases hU : (0 : UInt32) < (totalUncompressedLen (sentEntries certSets chain setHashes) chain).toUInt32
  · -- the loop runs, and its first turn puts `got` in that place for good
    rw [certLoop, if_pos hU, uncompressedData_cons, hread] at hok
    simp only [bind, Except.bind, List.drop_zero, List.nil_append, List.length_nil] at hok hplace
    rw [hplace] at hok
    have hkeep := certLoop_getElem?_of_lt .oneByte "EOF" _ _ (k := mid.length)
      (by omega) hok
    rw [hat] at hkeep
    simp only [List.getElem?_append_right (Nat.le_refl _), Nat.sub_self,
      List.getElem?_cons_zero, Option.some.injEq] at hkeep
    exact hb0 (hzeros hkeep.symm b hb)
  · -- the total wrapped to zero: the loop does not run and the place stays empty
    rw [certLoop, if_neg hU] at hok
    have hempty := congrArg (fun l => l[mid.length]?) (Except.ok.inj hok)
    simp only [hzip, hat, List.getElem?_append_right (Nat.le_refl _), Nat.sub_self,
      List.getElem?_cons_zero, Option.some.injEq] at hempty
    rw [← hempty] at hb
    exact List.not_mem_nil hb

end Chain

/-- A zlib that stores the data as it is, which loses nothing. -/
def storedZlib : Zlib where
  compress _ data := data
  inflate _ r := .ok (r, "EOF")
  inflate_compress _ _ := rfl

/-- No common sets. -/
def noCertSets : CertSets where
  lookup _ := none
  length_lt _ _ h := by cases h

/-- One common set, of hash `7`, that holds one certificate. -/
def oneCertSet : CertSets where
  lookup h := if h = 7 then some [[9, 9]] else none
  length_lt h set hset := by
    split at hset
    · cases hset
      decide
    · cases hset

/-- A chain of a certificate from the common set and one that is not in it, read back by a
reader that returns its final error with its last bytes. -/
theorem decompressChain_compressChain_full_commonSet :
    ∃ data, compressChain storedZlib oneCertSet [] [[9, 9], [1, 2, 3]]
        ([7].flatMap littleEndian.WriteUint64) [] = .ok data ∧
      decompressChain storedZlib (.full true) oneCertSet [] data = .ok [[9, 9], [1, 2, 3]] := by
  obtain ⟨data, hcompress, hdecompress⟩ :=
    decompressChain_compressChain_full storedZlib oneCertSet [] [[9, 9], [1, 2, 3]] [7] true
      (by decide)
  exact ⟨data, hcompress, hdecompress.trans (if_neg (by decide))⟩

/-- A chain of one empty certificate: the read of its length hands out the last bytes of the
stream, and with them the final error. -/
example : (compressChain storedZlib noCertSets [] [[]] [] []).toOption.map
    (decompressChain storedZlib (.full true) noCertSets []) = some (.error "EOF") := by decide

/-- A chain of one certificate, the byte `1`, which comes back as the byte `0`. -/
theorem decompressChain_compressChain_oneByte_single :
    ∃ data, compressChain storedZlib noCertSets [] [[1]] ([].flatMap littleEndian.WriteUint64) [] =
        .ok data ∧
      decompressChain storedZlib .oneByte noCertSets [] data ≠ .ok [[1]] :=
  decompressChain_compressChain_oneByte storedZlib noCertSets [] [[1]] [] rfl
    ⟨1, List.mem_singleton_self 1, by decide⟩

example : (compressChain storedZlib noCertSets [] [[1]] [] []).toOption.map
    (decompressChain storedZlib .oneByte noCertSets []) = some (.ok [[0]]) := by decide

end Crypto
end PStream
