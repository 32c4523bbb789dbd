import Ombre.Lib.Codec
import Ombre.Serialization.Varint
import Ombre.Basic.Types

/-!
# The binary archive

`binary_archive<false>` (reading) and `binary_archive<true>` (writing) of
`serialization/binary_archive.h`, and `do_serialize_container` of
`serialization/container.h`: the fields the formats of transactions and
blocks are made of.

A read past the end of the stream (`get`, `read`) sets `failbit`, every field
checks `good()` after it and `serialize` ends with `check_stream_state`, so
such a read fails the whole parse: here it is a reader that returns `none`.
A varint is read through an `istreambuf_iterator`, which never touches the
stream's state, and `serialize_uvarint` drops what `read_varint` returns
("XXX handle failure"): a varint cut by the end of the input, padded with a
zero byte or too wide for its type still gives the value assembled so far.

Each reader reads back what its writer wrote, whatever follows
(`reads_serializeContainer` and the others). A count is written as a varint of
a `size_t`, so a container's round trip needs fewer than `2 ^ 64` elements;
the lemmas take the bound on the bytes written, which holds of any blob a
`std::string` can hold.
-/

namespace Ombre

open Codec

namespace BinaryArchive

variable {α : Type}

/-! ## Integers and blobs -/

/-- The value of bytes taken lowest first. -/
def leValue : List UInt8 → ℕ
  | [] => 0
  | b :: bs => b.toNat + 256 * leValue bs

/-- `serialize_uint(v, width)`, reading. -/
def serializeUint (width : ℕ) : Reader ℕ := leValue <$> readBytes width

/-- `serialize_uint(v)`, writing: `width = sizeof(T)` bytes, lowest first. -/
def writeUint : ℕ → ℕ → List UInt8
  | 0, _ => []
  | width + 1, v => v.toUInt8 :: writeUint width (v >>> 8)

/-- `serialize_int` of a `uint8_t`: variant tags, the `type` of a ring
signature, the bytes of `extra`. -/
def serializeInt8 : Reader UInt8 := UInt8.ofNat <$> serializeUint 1

def writeInt8 (v : UInt8) : List UInt8 := writeUint 1 v.toNat

/-- `serialize_int` of a `uint32_t`: the nonce, the number of bulletproofs. -/
def serializeInt32 : Reader UInt32 := UInt32.ofNat <$> serializeUint 4

def writeInt32 (v : UInt32) : List UInt8 := writeUint 4 v.toNat

/-- `serialize_uvarint(v)`, reading a `T` of `bits` bits. -/
def serializeUvarint (bits : ℕ) : Reader ℕ := fun s =>
  let (_, write, rest) := readVarint bits s
  some (write, rest)

/-- `VARINT_FIELD` of a `uint64_t` or a `size_t`. -/
def serializeVarint64 : Reader UInt64 := UInt64.ofNat <$> serializeUvarint 64

def writeVarint64 (v : UInt64) : List UInt8 := writeVarint v.toNat

/-- `VARINT_FIELD` of a `uint8_t`: the versions of a block. -/
def serializeVarint8 : Reader UInt8 := UInt8.ofNat <$> serializeUvarint 8

def writeVarint8 (v : UInt8) : List UInt8 := writeVarint v.toNat

/-- `serialize_blob` of a POD of `n` bytes, reading: `stream_.read`. -/
def serializePod (n : ℕ) : Reader (Pod n) := fun s =>
  if h : n ≤ s.length then some (⟨s.take n, by simp [h]⟩, s.drop n) else none

/-! ## Containers -/

/-- `do_serialize_container`, reading: the count, refused when it announces
more elements than bytes are left (`remaining_bytes() < cnt`), then the
elements. -/
def serializeContainer (elem : Reader α) : Reader (List α) := do
  let cnt ← serializeUvarint 64
  let rem ← remaining
  require (cnt ≤ rem)
  readMany elem cnt

/-- `do_serialize_container`, writing. -/
def writeContainer (w : α → List UInt8) (v : List α) : List UInt8 :=
  writeVarint v.length ++ (v.map w).flatten

/-- A row of POD values whose count the format does not store. -/
def writePods {n : ℕ} (v : List (Pod n)) : List UInt8 := (v.map Pod.bytes).flatten

/-! ## Reading back what was written -/

section RoundTrip

theorem leValue_writeUint : ∀ (width v : ℕ), leValue (writeUint width v) = v % 256 ^ width
  | 0, v => by simp [writeUint, leValue, Nat.mod_one]
  | width + 1, v => by
    have hlow : v.toUInt8.toNat = v % 256 := by simp
    have hhigh : v >>> 8 = v / 256 := by rw [Nat.shiftRight_eq_div_pow]
    rw [writeUint, leValue, leValue_writeUint width, hlow, hhigh, Nat.pow_succ', Nat.mod_mul]

theorem leValue_lt : ∀ bs : List UInt8, leValue bs < 256 ^ bs.length
  | [] => by simp [leValue]
  | b :: bs => by
    have hb := b.toNat_lt
    have ih := leValue_lt bs
    rw [leValue, List.length_cons, Nat.pow_succ]
    omega

theorem leValue_append : ∀ a b : List UInt8, leValue (a ++ b) = leValue a + 256 ^ a.length * leValue b
  | [], b => by simp [leValue]
  | x :: a, b => by
    rw [List.cons_append, leValue, leValue, leValue_append a b, List.length_cons, Nat.pow_succ]
    ring

@[simp] theorem length_writeUint : ∀ width v, (writeUint width v).length = width
  | 0, _ => rfl
  | width + 1, v => by rw [writeUint, List.length_cons, length_writeUint width]

/-- Bytes are written back as they were read: `leValue` loses nothing. -/
theorem writeUint_leValue : ∀ bs : List UInt8, writeUint bs.length (leValue bs) = bs
  | [] => rfl
  | b :: bs => by
    have hb := b.toNat_lt
    have hlow : (b.toNat + 256 * leValue bs).toUInt8 = b := by
      apply UInt8.toNat_inj.mp
      rw [Nat.toUInt8_eq, UInt8.toNat_ofNat']
      omega
    have hhigh : (b.toNat + 256 * leValue bs) >>> 8 = leValue bs := by
      rw [Nat.shiftRight_eq_div_pow]
      omega
    rw [List.length_cons, leValue, writeUint, hlow, hhigh, writeUint_leValue bs]

theorem leValue_injective {a b : List UInt8} (hlen : a.length = b.length)
    (h : leValue a = leValue b) : a = b :=
  calc a = writeUint a.length (leValue a) := (writeUint_leValue a).symm
    _ = writeUint b.length (leValue b) := by rw [hlen, h]
    _ = b := writeUint_leValue b

theorem writeUint_zero : ∀ width, writeUint width 0 = List.replicate width 0
  | 0 => rfl
  | width + 1 => by rw [writeUint, Nat.zero_shiftRight, writeUint_zero width]; rfl

/-- The low bytes of a wide write are the narrower write. -/
theorem take_writeUint : ∀ (m n v : ℕ), (writeUint (m + n) v).take m = writeUint m v
  | 0, _, _ => by rw [List.take_zero, writeUint]
  | m + 1, n, v => by
    rw [Nat.add_right_comm, writeUint, writeUint, List.take_succ_cons, take_writeUint m n]

theorem reads_serializeUint {width v : ℕ} (h : v < 256 ^ width) :
    Reads (serializeUint width) v (writeUint width v) := by
  have := (reads_readBytes (writeUint width v)).map leValue
  rwa [leValue_writeUint, Nat.mod_eq_of_lt h, length_writeUint] at this

theorem reads_serializeInt8 (v : UInt8) : Reads serializeInt8 v (writeInt8 v) := by
  have := (reads_serializeUint (show v.toNat < 256 ^ 1 from v.toNat_lt)).map UInt8.ofNat
  rwa [UInt8.ofNat_toNat] at this

theorem reads_serializeInt32 (v : UInt32) : Reads serializeInt32 v (writeInt32 v) := by
  have := (reads_serializeUint (show v.toNat < 256 ^ 4 from v.toNat_lt)).map UInt32.ofNat
  rwa [UInt32.ofNat_toNat] at this

theorem reads_serializeUvarint {bits i : ℕ} (h : i < 2 ^ bits) :
    Reads (serializeUvarint bits) i (writeVarint i) := by
  intro rest
  simp only [serializeUvarint, StateT.run, readVarint_writeVarint h]

theorem reads_serializeVarint64 (v : UInt64) : Reads serializeVarint64 v (writeVarint64 v) := by
  have := (reads_serializeUvarint (show v.toNat < 2 ^ 64 from v.toNat_lt)).map UInt64.ofNat
  rwa [UInt64.ofNat_toNat] at this

theorem reads_serializeVarint8 (v : UInt8) : Reads serializeVarint8 v (writeVarint8 v) := by
  have := (reads_serializeUvarint (show v.toNat < 2 ^ 8 from v.toNat_lt)).map UInt8.ofNat
  rwa [UInt8.ofNat_toNat] at this

theorem reads_serializePod {n : ℕ} (p : Pod n) : Reads (serializePod n) p p.bytes := by
  obtain ⟨bs, rfl⟩ := p
  intro rest
  simp [serializePod, StateT.run]

theorem reads_writePods {n : ℕ} (v : List (Pod n)) :
    Reads (readMany (serializePod n) v.length) v (writePods v) :=
  Reads.readMany v fun p _ => reads_serializePod p

/-- A container reads back elements that each read back, when their count fits
a `size_t`. -/
theorem reads_serializeContainer_of_length_lt {elem : Reader α} {w : α → List UInt8} {v : List α}
    (hw : ∀ x, w x ≠ []) (helem : ∀ x ∈ v, Reads elem x (w x)) (hv : v.length < 2 ^ 64) :
    Reads (serializeContainer elem) v (writeContainer w v) := by
  have hcount : v.length ≤ (v.map w).flatten.length := length_le_length_flatten hw v
  intro rest
  -- the count passes `remaining_bytes() < cnt`: each element takes a byte at least
  have hrem : v.length ≤ ((v.map w).flatten ++ rest).length := by
    rw [List.length_append]
    omega
  rw [writeContainer, List.append_assoc, serializeContainer, StateT.run_bind,
    reads_serializeUvarint hv]
  simp only [Option.bind_eq_bind, Option.bind_some, StateT.run_bind, run_remaining,
    run_require hrem]
  exact Reads.readMany v helem rest

/-- A container reads back the elements it wrote when each element does and
their count fits a `size_t`; the elements' bytes are fewer than the container's. -/
theorem reads_serializeContainer {elem : Reader α} {w : α → List UInt8} {v : List α}
    (hw : ∀ x, w x ≠ []) (helem : ∀ x ∈ v, (w x).length < 2 ^ 64 → Reads elem x (w x))
    (hlen : (writeContainer w v).length < 2 ^ 64) :
    Reads (serializeContainer elem) v (writeContainer w v) := by
  have hcount : v.length ≤ (v.map w).flatten.length := length_le_length_flatten hw v
  have hv : v.length < 2 ^ 64 := by
    simp only [writeContainer, List.length_append] at hlen
    omega
  refine reads_serializeContainer_of_length_lt hw (fun x hx => helem x hx (Nat.lt_of_le_of_lt ?_ hlen)) hv
  have hsub : (w x).length ≤ (v.map w).flatten.length :=
    (List.sublist_flatten_of_mem (List.mem_map_of_mem hx)).length_le
  simp only [writeContainer, List.length_append]
  omega

end RoundTrip

/-! ## Writers -/

section Writers

theorem writeInt8_eq (v : UInt8) : writeInt8 v = [v] := by
  simp [writeInt8, writeUint]

theorem Pod.bytes_ne_nil {n : ℕ} (p : Pod (n + 1)) : p.bytes ≠ [] :=
  List.ne_nil_of_length_pos (by rw [p.length_eq]; omega)

theorem writeInt8_ne_nil (v : UInt8) : writeInt8 v ≠ [] := by simp [writeInt8_eq]

theorem writeVarint64_ne_nil (v : UInt64) : writeVarint64 v ≠ [] := writeVarint_ne_nil _

theorem writeContainer_ne_nil (w : α → List UInt8) (v : List α) : writeContainer w v ≠ [] := by
  simp [writeContainer, writeVarint_ne_nil]

theorem length_writePods {n : ℕ} (v : List (Pod n)) : (writePods v).length = n * v.length := by
  induction v with
  | nil => rfl
  | cons p v ih => simp [writePods] at ih ⊢; rw [ih, p.length_eq, Nat.mul_succ]; omega

end Writers

/-! ## What a read leaves -/

section Shrinks

theorem shrinks_serializeUvarint (bits : ℕ) : Shrinks (serializeUvarint bits) := by
  intro s x rest h
  simp only [serializeUvarint, StateT.run, Option.some.injEq, Prod.mk.injEq] at h
  rw [← h.2]
  exact length_readVarintLoop_le bits s 0 0 0

theorem shrinks_serializeInt8 : Shrinks serializeInt8 :=
  (shrinks_readBytes 1).map leValue |>.map UInt8.ofNat

theorem shrinks_serializePod (n : ℕ) : Shrinks (serializePod n) := by
  intro s x rest h
  simp only [serializePod, StateT.run] at h
  split at h
  · simp only [Option.some.injEq, Prod.mk.injEq] at h
    rw [← h.2, List.length_drop]
    omega
  · exact absurd h (by simp)

theorem Shrinks.serializeContainer {elem : Reader α} (h : Shrinks elem) :
    Shrinks (serializeContainer elem) :=
  (shrinks_serializeUvarint 64).bind fun _ => shrinks_remaining.bind fun _ =>
    shrinks_require.bind fun _ => h.readMany _

/-- A container reads no more elements than there are bytes: its count is
checked against the bytes left. -/
theorem length_le_of_serializeContainer {elem : Reader α} {s rest : List UInt8} {xs : List α}
    (h : (serializeContainer elem).run s = some (xs, rest)) : xs.length ≤ s.length := by
  simp only [serializeContainer, StateT.run_bind, Option.bind_eq_bind, Option.bind_eq_some_iff,
    run_remaining, Option.bind_some] at h
  obtain ⟨⟨cnt, s₁⟩, hcnt, ⟨u, s₂⟩, hreq, hmany⟩ := h
  have hs₁ : s₁.length ≤ s.length := shrinks_serializeUvarint 64 s cnt s₁ hcnt
  -- `require` passed, so the count is at most the bytes left
  have hle : cnt ≤ s₁.length := by
    by_contra hgt
    simp [require, hgt, StateT.run, failure, StateT.failure] at hreq
  have hs₂ : s₂ = s₁ := by
    rw [run_require hle, Option.some.injEq, Prod.mk.injEq] at hreq
    exact hreq.2.symm
  rw [length_of_readMany (hs₂ ▸ hmany)]
  omega

end Shrinks

/-- `serialize_uvarint` reads a one-byte varint padded with a zero byte as the
byte alone: `read_varint`'s `EVARINT_REPRESENT` is dropped. -/
theorem run_serializeUvarint_padded {bits : ℕ} (hbits : 7 < bits) {v : UInt8} (hv : v < 0x80)
    (rest : List UInt8) :
    (serializeUvarint bits).run ((v ||| 0x80) :: 0 :: rest) = (serializeUvarint bits).run (v :: rest) := by
  simp only [serializeUvarint, StateT.run, readVarint_padded hbits hv, readVarint_single hbits hv]

end BinaryArchive

end Ombre
