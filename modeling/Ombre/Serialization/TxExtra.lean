import Ombre.Serialization.BinaryArchive

/-!
# The fields of `extra`

`tx_extra_field` of `cryptonote_basic/tx_extra.h`, the variant of the seven
kinds of field a transaction's `extra` holds, with its binary serializer,
`parse_tx_extra` and `remove_field_from_tx_extra` of
`cryptonote_format_utils.cpp`, and the `std::string` serializer of
`serialization/string.h` the fields are built from.

A padding is read up to the end of the stream, so it reads back only as the
last field; a merge-mining tag is a string read again by an archive of its own,
which must reach that string's end.
-/

namespace Ombre

open Codec BinaryArchive

/-! ## Strings -/

/-- `do_serialize(std::string)`, reading: the size as a varint of a `size_t`,
refused when more than the bytes left, then the bytes. -/
def serializeString : Reader (List UInt8) := do
  let size ← serializeUvarint 64
  let rem ← remaining
  require (size ≤ rem)
  readBytes size

/-- `do_serialize(std::string)`, writing. -/
def writeString (str : List UInt8) : List UInt8 := writeVarint str.length ++ str

/-! ## The fields -/

/-- `TX_EXTRA_PADDING_MAX_COUNT` -/
def txExtraPaddingMaxCount : ℕ := 255

/-- `TX_EXTRA_NONCE_MAX_COUNT` -/
def txExtraNonceMaxCount : ℕ := 255

/-- `TX_EXTRA_TAG_PADDING` -/
def txExtraTagPadding : UInt8 := 0x00

/-- `TX_EXTRA_TAG_PUBKEY` -/
def txExtraTagPubkey : UInt8 := 0x01

/-- `TX_EXTRA_NONCE` -/
def txExtraNonce : UInt8 := 0x02

/-- `TX_EXTRA_MERGE_MINING_TAG` -/
def txExtraMergeMiningTag : UInt8 := 0x03

/-- `TX_EXTRA_TAG_ADDITIONAL_PUBKEYS` -/
def txExtraTagAdditionalPubkeys : UInt8 := 0x04

/-- `TX_EXTRA_UNIFORM_PAYMENT_ID` -/
def txExtraUniformPaymentId : UInt8 := 0x05

/-- `TX_EXTRA_MYSTERIOUS_MINERGATE_TAG` -/
def txExtraMysteriousMinergateTag : UInt8 := 0xDE

/-- `tx_extra_field`, in the order of the variant's types: `tx_extra_padding`
(its `size` counts the tag), `tx_extra_pub_key`, `tx_extra_nonce`,
`tx_extra_merge_mining_tag` (a `size_t` depth and a Merkle root),
`tx_extra_additional_pub_keys`, `tx_extra_uniform_payment_id` (a blob of 40
bytes) and `tx_extra_mysterious_minergate`. -/
inductive TxExtraField where
  | padding (size : ℕ)
  | pubKey (pubKey : PublicKey)
  | nonce (nonce : List UInt8)
  | mergeMiningTag (depth : UInt64) (merkleRoot : Hash)
  | additionalPubKeys (data : List PublicKey)
  | uniformPaymentId (pid : Pod 40)
  | mysteriousMinergate (data : List UInt8)
deriving DecidableEq

/-- The `type()` of a `tx_extra_field`, which `remove_field_from_tx_extra`
compares with the type it is given. -/
inductive TxExtraFieldType where
  | padding
  | pubKey
  | nonce
  | mergeMiningTag
  | additionalPubKeys
  | uniformPaymentId
  | mysteriousMinergate
deriving DecidableEq

namespace TxExtraField

def type : TxExtraField → TxExtraFieldType
  | padding _ => .padding
  | pubKey _ => .pubKey
  | nonce _ => .nonce
  | mergeMiningTag _ _ => .mergeMiningTag
  | additionalPubKeys _ => .additionalPubKeys
  | uniformPaymentId _ => .uniformPaymentId
  | mysteriousMinergate _ => .mysteriousMinergate

end TxExtraField

/-! ## Reading -/

/-- The loop of `tx_extra_padding::do_serialize`, reading, at `size`: past
`TX_EXTRA_PADDING_MAX_COUNT` it fails; at the end of the stream it stops;
otherwise it reads a byte, which must be zero. -/
def readPadding (size : ℕ) (s : List UInt8) : Option (ℕ × List UInt8) :=
  if size ≤ txExtraPaddingMaxCount then
    match s with
    | [] => some (size, [])
    | zero :: rest => if zero ≠ 0 then none else readPadding (size + 1) rest
  else none

/-- `tx_extra_padding::do_serialize`, reading: `size` starts at 1 for the tag. -/
def serializeTxExtraPadding : Reader ℕ := fun s => readPadding 1 s

/-- `tx_extra_nonce::do_serialize`, reading: a string of at most
`TX_EXTRA_NONCE_MAX_COUNT` bytes. -/
def serializeTxExtraNonce : Reader (List UInt8) := do
  let nonce ← serializeString
  require (nonce.length ≤ txExtraNonceMaxCount)
  pure nonce

/-- `serialize_helper` of `tx_extra_merge_mining_tag`: the depth, then the
Merkle root. -/
def serializeMergeMiningHelper : Reader (UInt64 × Hash) := do
  let depth ← serializeVarint64
  let merkleRoot ← serializePod 32
  pure (depth, merkleRoot)

/-- `tx_extra_merge_mining_tag::do_serialize`, reading: a string, which
`serialization::serialize` reads with the helper up to its end. -/
def serializeTxExtraMergeMiningTag : Reader (UInt64 × Hash) := do
  let field ← serializeString
  match readAll serializeMergeMiningHelper field with
  | some r => pure r
  | none => failure

/-- The variant serializer of `tx_extra_field`, reading: the tag, then the
field of the type `VARIANT_TAG` gives that tag; an unknown tag sets
`failbit`. -/
def serializeTxExtraField : Reader TxExtraField := do
  let tag ← serializeInt8
  if tag = txExtraTagPadding then TxExtraField.padding <$> serializeTxExtraPadding
  else if tag = txExtraTagPubkey then TxExtraField.pubKey <$> serializePod 32
  else if tag = txExtraNonce then TxExtraField.nonce <$> serializeTxExtraNonce
  else if tag = txExtraMergeMiningTag then
    (fun r => TxExtraField.mergeMiningTag r.1 r.2) <$> serializeTxExtraMergeMiningTag
  else if tag = txExtraTagAdditionalPubkeys then
    TxExtraField.additionalPubKeys <$> serializeContainer (serializePod 32)
  else if tag = txExtraUniformPaymentId then TxExtraField.uniformPaymentId <$> serializePod 40
  else if tag = txExtraMysteriousMinergateTag then
    TxExtraField.mysteriousMinergate <$> serializeString
  else failure

/-- The loop of `parse_tx_extra` over a stream that is not at its end: a
field, then, unless the stream is at its end, the next. `fuel` bounds the
number of fields; the length of the stream is enough, as each field reads at
least its tag. -/
def parseTxExtraLoop : ℕ → List UInt8 → Option (List TxExtraField)
  | 0, _ => none
  | fuel + 1, s =>
    match serializeTxExtraField.run s with
    | none => none
    | some (field, rest) =>
      if rest = [] then some [field]
      else (field :: ·) <$> parseTxExtraLoop fuel rest

/-- `parse_tx_extra(tx_extra, tx_extra_fields)`: the fields, or `none` when one
fails to read. The closing `check_stream_state` holds once the loop has read
the stream to its end. -/
def parseTxExtra (txExtra : List UInt8) : Option (List TxExtraField) :=
  if txExtra = [] then some [] else parseTxExtraLoop txExtra.length txExtra

/-! ## Writing -/

/-- The variant serializer of `tx_extra_field`, writing into a stream that is
good: the tag, then the field. Returns the bytes written and whether the field
was written; a padding longer than `TX_EXTRA_PADDING_MAX_COUNT` writes only the
tag, and a nonce is written before its size is checked. -/
def writeTxExtraField : TxExtraField → List UInt8 × Bool
  | .padding size =>
    if txExtraPaddingMaxCount < size then (writeInt8 txExtraTagPadding, false)
    else (writeInt8 txExtraTagPadding ++ List.replicate (size - 1) 0, true)
  | .pubKey pubKey => (writeInt8 txExtraTagPubkey ++ pubKey.bytes, true)
  | .nonce nonce =>
    (writeInt8 txExtraNonce ++ writeString nonce, decide (nonce.length ≤ txExtraNonceMaxCount))
  | .mergeMiningTag depth merkleRoot =>
    (writeInt8 txExtraMergeMiningTag ++ writeString (writeVarint64 depth ++ merkleRoot.bytes), true)
  | .additionalPubKeys data =>
    (writeInt8 txExtraTagAdditionalPubkeys ++ writeContainer Pod.bytes data, true)
  | .uniformPaymentId pid => (writeInt8 txExtraUniformPaymentId ++ pid.bytes, true)
  | .mysteriousMinergate data => (writeInt8 txExtraMysteriousMinergateTag ++ writeString data, true)

/-- `do_serialize(ar, field)` into an output stream, the result not looked at:
a good stream receives what the field writes and fails with it, a failed
stream receives nothing. The stream is its bytes and whether it is good. -/
def TxExtraField.writeTo (out : List UInt8 × Bool) (field : TxExtraField) : List UInt8 × Bool :=
  if out.2 then (out.1 ++ (writeTxExtraField field).1, (writeTxExtraField field).2) else out

/-- Fields serialized one after another into one binary archive. -/
def writeTxExtraFields (fields : List TxExtraField) : List UInt8 × Bool :=
  fields.foldl TxExtraField.writeTo ([], true)

/-! ## Removing a field -/

/-- The loop of `remove_field_from_tx_extra`: read a field, write it to the
new archive unless it has the type removed, and stop at the end of the
stream. -/
def removeFieldLoop (type : TxExtraFieldType) :
    ℕ → List UInt8 → List UInt8 × Bool → Option (List UInt8 × Bool)
  | 0, _, _ => none
  | fuel + 1, s, out =>
    match serializeTxExtraField.run s with
    | none => none
    | some (field, rest) =>
      let out := if field.type ≠ type then field.writeTo out else out
      if rest = [] then some out else removeFieldLoop type fuel rest out

/-- `remove_field_from_tx_extra(tx_extra, type)`: whether it succeeded, and
`tx_extra` after it: the bytes the new archive received, or, when a field
fails to read, `tx_extra` as it was. -/
def removeFieldFromTxExtra (txExtra : List UInt8) (type : TxExtraFieldType) : Bool × List UInt8 :=
  if txExtra = [] then (true, txExtra)
  else match removeFieldLoop type txExtra.length txExtra ([], true) with
    | none => (false, txExtra)
    | some out => (true, out.1)

/-! ## Fields that read back -/

namespace TxExtraField

/-- A field the writer stores and the reader gives back: a padding of 1 to
`TX_EXTRA_PADDING_MAX_COUNT` bytes, a nonce of at most
`TX_EXTRA_NONCE_MAX_COUNT` bytes, and a vector or a string whose size fits a
`size_t`. -/
def Storable : TxExtraField → Prop
  | padding size => 1 ≤ size ∧ size ≤ txExtraPaddingMaxCount
  | pubKey _ => True
  | nonce n => n.length ≤ txExtraNonceMaxCount
  | mergeMiningTag _ _ => True
  | additionalPubKeys data => data.length < 2 ^ 64
  | uniformPaymentId _ => True
  | mysteriousMinergate data => data.length < 2 ^ 64

def isPadding : TxExtraField → Bool
  | padding _ => true
  | _ => false

end TxExtraField

/-- A padding, if there is one, is the last field: it reads to the end of the
stream. -/
def PaddingLast : List TxExtraField → Prop
  | [] => True
  | f :: fs => fs = [] ∨ (f.isPadding = false ∧ PaddingLast fs)

/-- Fields that `parse_tx_extra` reads back from their serialization. -/
structure TxExtraWellFormed (fields : List TxExtraField) : Prop where
  storable : ∀ f ∈ fields, f.Storable
  paddingLast : PaddingLast fields

theorem PaddingLast.filter (p : TxExtraField → Bool) :
    ∀ {fields : List TxExtraField}, PaddingLast fields → PaddingLast (fields.filter p)
  | [], _ => trivial
  | f :: fs, h => by
    rw [List.filter_cons]
    rcases h with rfl | ⟨hf, h⟩
    · split <;> simp [PaddingLast]
    · have ih := PaddingLast.filter p h
      split
      · exact .inr ⟨hf, ih⟩
      · exact ih

theorem TxExtraWellFormed.filter {fields : List TxExtraField} (h : TxExtraWellFormed fields)
    (p : TxExtraField → Bool) : TxExtraWellFormed (fields.filter p) :=
  ⟨fun f hf => h.storable f (List.mem_of_mem_filter hf), h.paddingLast.filter p⟩

/-! ## Reading back what was written -/

section RoundTrip

theorem reads_serializeString {str : List UInt8} (h : str.length < 2 ^ 64) :
    Reads serializeString str (writeString str) := by
  intro rest
  have hrem : str.length ≤ (str ++ rest).length := by
    rw [List.length_append]
    omega
  rw [writeString, List.append_assoc, serializeString, StateT.run_bind, reads_serializeUvarint h]
  simp only [Option.bind_eq_bind, Option.bind_some, StateT.run_bind, run_remaining, run_require hrem]
  exact reads_readBytes str rest

theorem reads_serializeTxExtraNonce {nonce : List UInt8} (h : nonce.length ≤ txExtraNonceMaxCount) :
    Reads serializeTxExtraNonce nonce (writeString nonce) :=
  (reads_serializeString (by unfold txExtraNonceMaxCount at h; omega)).bind_of_nil
    ((reads_require h).bind_nil (reads_pure nonce))

/-- The string of a merge-mining tag is at most ten bytes of depth and the
Merkle root, and is read to its end by the helper. -/
theorem reads_serializeTxExtraMergeMiningTag (depth : UInt64) (merkleRoot : Hash) :
    Reads serializeTxExtraMergeMiningTag (depth, merkleRoot)
      (writeString (writeVarint64 depth ++ merkleRoot.bytes)) := by
  have hdepth : (writeVarint64 depth).length ≤ 10 :=
    length_writeVarint_le 9 depth.toNat (Nat.lt_of_lt_of_le depth.toNat_lt (by decide))
  have hlen : (writeVarint64 depth ++ merkleRoot.bytes).length < 2 ^ 64 := by
    rw [List.length_append, merkleRoot.length_eq]
    omega
  have hhelper : readAll serializeMergeMiningHelper (writeVarint64 depth ++ merkleRoot.bytes) =
      some (depth, merkleRoot) :=
    readAll_of_reads ((reads_serializeVarint64 depth).bind (reads_serializePod merkleRoot).bind_pure)
  refine (reads_serializeString hlen).bind_of_nil ?_
  rw [hhelper]
  exact reads_pure _

/-- A padding's zero bytes, up to the end of the stream, read back as its
size. -/
theorem readPadding_replicate : ∀ (k size : ℕ), size + k ≤ txExtraPaddingMaxCount →
    readPadding size (List.replicate k 0) = some (size + k, [])
  | 0, size, h => by
    rw [List.replicate_zero, readPadding, if_pos (by omega)]
    rfl
  | k + 1, size, h => by
    rw [List.replicate_succ, readPadding, if_pos (by omega)]
    simp only [ne_eq, not_true_eq_false, ↓reduceIte]
    have hsize : size + 1 + k = size + (k + 1) := by omega
    rw [readPadding_replicate k (size + 1) (by omega), hsize]

theorem writeTxExtraField_snd {f : TxExtraField} (hf : f.Storable) : (writeTxExtraField f).2 = true := by
  cases f with
  | padding size =>
    have : ¬txExtraPaddingMaxCount < size := Nat.not_lt.mpr hf.2
    simp [writeTxExtraField, this]
  | nonce n => simpa [writeTxExtraField, TxExtraField.Storable] using hf
  | _ => rfl

theorem writeTxExtraField_ne_nil (f : TxExtraField) : (writeTxExtraField f).1 ≠ [] := by
  cases f with
  | padding size =>
    by_cases h : txExtraPaddingMaxCount < size <;> simp [writeTxExtraField, h, writeInt8_eq]
  | _ => simp [writeTxExtraField, writeInt8_eq]

/-- A field other than a padding reads back whatever follows it. -/
theorem reads_serializeTxExtraField {f : TxExtraField} (hf : f.Storable) (hp : f.isPadding = false) :
    Reads serializeTxExtraField f (writeTxExtraField f).1 := by
  rw [serializeTxExtraField]
  cases f with
  | padding size => simp [TxExtraField.isPadding] at hp
  | pubKey pubKey =>
    refine (reads_serializeInt8 txExtraTagPubkey).bind ?_
    rw [if_neg (by decide), if_pos rfl]
    exact (reads_serializePod pubKey).map _
  | nonce nonce =>
    refine (reads_serializeInt8 txExtraNonce).bind ?_
    rw [if_neg (by decide), if_neg (by decide), if_pos rfl]
    exact (reads_serializeTxExtraNonce (show nonce.length ≤ txExtraNonceMaxCount from hf)).map _
  | mergeMiningTag depth merkleRoot =>
    refine (reads_serializeInt8 txExtraMergeMiningTag).bind ?_
    rw [if_neg (by decide), if_neg (by decide), if_neg (by decide), if_pos rfl]
    exact (reads_serializeTxExtraMergeMiningTag depth merkleRoot).map _
  | additionalPubKeys data =>
    refine (reads_serializeInt8 txExtraTagAdditionalPubkeys).bind ?_
    rw [if_neg (by decide), if_neg (by decide), if_neg (by decide), if_neg (by decide), if_pos rfl]
    exact (reads_serializeContainer_of_length_lt (fun k => Pod.bytes_ne_nil k)
      (fun k _ => reads_serializePod k) (show data.length < 2 ^ 64 from hf)).map _
  | uniformPaymentId pid =>
    refine (reads_serializeInt8 txExtraUniformPaymentId).bind ?_
    rw [if_neg (by decide), if_neg (by decide), if_neg (by decide), if_neg (by decide),
      if_neg (by decide), if_pos rfl]
    exact (reads_serializePod pid).map _
  | mysteriousMinergate data =>
    refine (reads_serializeInt8 txExtraMysteriousMinergateTag).bind ?_
    rw [if_neg (by decide), if_neg (by decide), if_neg (by decide), if_neg (by decide),
      if_neg (by decide), if_neg (by decide), if_pos rfl]
    exact (reads_serializeString (show data.length < 2 ^ 64 from hf)).map _

/-- A padding reads back when nothing follows it. -/
theorem run_serializeTxExtraField_padding {size : ℕ} (h : (TxExtraField.padding size).Storable) :
    serializeTxExtraField.run (writeTxExtraField (.padding size)).1 = some (.padding size, []) := by
  obtain ⟨h1, h2⟩ := h
  have htag := reads_serializeInt8 txExtraTagPadding (List.replicate (size - 1) 0)
  have hpad : serializeTxExtraPadding.run (List.replicate (size - 1) 0) = some (size, []) := by
    show readPadding 1 (List.replicate (size - 1) 0) = some (size, [])
    rw [readPadding_replicate (size - 1) 1 (by omega), Nat.add_sub_cancel' h1]
  rw [writeTxExtraField, if_neg (Nat.not_lt.mpr h2), serializeTxExtraField, StateT.run_bind, htag]
  simp only [Option.bind_eq_bind, Option.bind_some, if_true]
  rw [StateT.run_map, hpad]
  rfl

theorem foldl_writeTo_of_storable : ∀ (fields : List TxExtraField) (out : List UInt8),
    (∀ f ∈ fields, f.Storable) →
      fields.foldl TxExtraField.writeTo (out, true) =
        (out ++ (fields.map fun f => (writeTxExtraField f).1).flatten, true)
  | [], out, _ => by simp
  | f :: fs, out, h => by
    have hf := writeTxExtraField_snd (h f List.mem_cons_self)
    rw [List.foldl_cons, TxExtraField.writeTo, if_pos rfl, hf,
      foldl_writeTo_of_storable fs _ fun g hg => h g (List.mem_cons_of_mem f hg)]
    simp

/-- Any field reads back when nothing follows it. -/
theorem run_serializeTxExtraField_last {f : TxExtraField} (hf : f.Storable) :
    serializeTxExtraField.run (writeTxExtraField f).1 = some (f, []) := by
  cases hpad : f.isPadding
  · have := reads_serializeTxExtraField hf hpad []
    rwa [List.append_nil] at this
  · cases f <;> simp [TxExtraField.isPadding] at hpad
    exact run_serializeTxExtraField_padding hf

/-- The loop of `parse_tx_extra` reads back the fields laid end to end, with
fuel for one turn a field. -/
theorem parseTxExtraLoop_write : ∀ (fields : List TxExtraField) (fuel : ℕ), TxExtraWellFormed fields →
    fields ≠ [] → fields.length ≤ fuel →
      parseTxExtraLoop fuel (fields.map fun f => (writeTxExtraField f).1).flatten = some fields
  | [], _, _, hne, _ => absurd rfl hne
  | f :: fs, 0, _, _, hfuel => absurd hfuel (by simp)
  | f :: fs, fuel + 1, hwf, _, hfuel => by
    have hf := hwf.storable f List.mem_cons_self
    rw [List.map_cons, List.flatten_cons, parseTxExtraLoop]
    by_cases hfs : fs = []
    · -- the last field, which may be a padding
      subst hfs
      simp only [List.map_nil, List.flatten_nil, List.append_nil, run_serializeTxExtraField_last hf,
        ↓reduceIte]
    · -- a field other than a padding, and the fields after it
      obtain ⟨hp, hlast⟩ := hwf.paddingLast.resolve_left hfs
      have hrest : (fs.map fun f => (writeTxExtraField f).1).flatten ≠ [] := by
        obtain ⟨g, gs, rfl⟩ := List.exists_cons_of_ne_nil hfs
        simp [writeTxExtraField_ne_nil g]
      have hwf' : TxExtraWellFormed fs :=
        ⟨fun g hg => hwf.storable g (List.mem_cons_of_mem f hg), hlast⟩
      rw [reads_serializeTxExtraField hf hp]
      simp only [hrest, ↓reduceIte]
      rw [parseTxExtraLoop_write fs fuel hwf' hfs (by simpa using hfuel)]
      rfl

/-- Well-formed fields serialized one after another are all written, and
`parse_tx_extra` gives them back. -/
theorem parseTxExtra_writeTxExtraFields {fields : List TxExtraField} (h : TxExtraWellFormed fields) :
    (writeTxExtraFields fields).2 = true ∧ parseTxExtra (writeTxExtraFields fields).1 = some fields := by
  rw [writeTxExtraFields, foldl_writeTo_of_storable fields [] h.storable, List.nil_append]
  refine ⟨rfl, ?_⟩
  by_cases hne : fields = []
  · subst hne
    rfl
  have hbytes : (fields.map fun f => (writeTxExtraField f).1).flatten ≠ [] := by
    obtain ⟨g, gs, rfl⟩ := List.exists_cons_of_ne_nil hne
    simp [writeTxExtraField_ne_nil g]
  rw [parseTxExtra, if_neg hbytes]
  exact parseTxExtraLoop_write fields _ h hne (length_le_length_flatten writeTxExtraField_ne_nil fields)

end RoundTrip

/-! ## What a parse gives -/

section Parse

/-- The padding loop from `size` reads the rest of the stream, and gives a size
from `size` to `TX_EXTRA_PADDING_MAX_COUNT`. -/
theorem readPadding_spec : ∀ {s : List UInt8} {size n : ℕ} {rest : List UInt8},
    readPadding size s = some (n, rest) → rest = [] ∧ size ≤ n ∧ n ≤ txExtraPaddingMaxCount
  | [], size, n, rest, h => by
    rw [readPadding] at h
    split at h
    · simp only [Option.some.injEq, Prod.mk.injEq] at h
      obtain ⟨rfl, rfl⟩ := h
      exact ⟨rfl, le_rfl, by assumption⟩
    · exact absurd h (by simp)
  | zero :: s, size, n, rest, h => by
    rw [readPadding] at h
    split at h
    · split at h
      · exact absurd h (by simp)
      · obtain ⟨hrest, hle, hmax⟩ := readPadding_spec h
        exact ⟨hrest, by omega, hmax⟩
    · exact absurd h (by simp)

theorem shrinks_serializeString : Shrinks serializeString :=
  (shrinks_serializeUvarint 64).bind fun _ => shrinks_remaining.bind fun _ =>
    shrinks_require.bind fun _ => shrinks_readBytes _

/-- A string read is no longer than the stream it was read from. -/
theorem length_le_of_serializeString {s rest str : List UInt8} (h : serializeString.run s = some (str, rest)) :
    str.length ≤ s.length := by
  simp only [serializeString, StateT.run_bind, Option.bind_eq_bind, Option.bind_eq_some_iff] at h
  obtain ⟨⟨size, s₁⟩, h₁, ⟨rem, s₂⟩, h₂, ⟨u, s₃⟩, h₃, h₄⟩ := h
  calc str.length ≤ s₃.length := length_le_of_readBytes h₄
    _ ≤ s₂.length := shrinks_require _ _ _ h₃
    _ ≤ s₁.length := shrinks_remaining _ _ _ h₂
    _ ≤ s.length := shrinks_serializeUvarint 64 _ _ _ h₁

theorem shrinks_serializeTxExtraNonce : Shrinks serializeTxExtraNonce :=
  shrinks_serializeString.bind fun _ => shrinks_require.bind fun _ => shrinks_pure _

/-- A nonce read is at most `TX_EXTRA_NONCE_MAX_COUNT` bytes. -/
theorem length_le_of_serializeTxExtraNonce {s rest nonce : List UInt8}
    (h : serializeTxExtraNonce.run s = some (nonce, rest)) : nonce.length ≤ txExtraNonceMaxCount := by
  simp only [serializeTxExtraNonce, StateT.run_bind, Option.bind_eq_bind, Option.bind_eq_some_iff] at h
  obtain ⟨⟨str, s₁⟩, -, ⟨u, s₂⟩, hreq, hpure⟩ := h
  simp only [StateT.run_pure, Option.pure_def, Option.some.injEq, Prod.mk.injEq] at hpure
  rw [← hpure.1]
  by_contra hgt
  simp [require, hgt, StateT.run, failure, StateT.failure] at hreq

theorem shrinks_serializeTxExtraMergeMiningTag : Shrinks serializeTxExtraMergeMiningTag := by
  refine shrinks_serializeString.bind fun field => ?_
  split
  · exact shrinks_pure _
  · exact shrinks_failure

/-- A field read from a stream shorter than `2 ^ 64` is storable, leaves no
more of the stream, and a padding leaves none of it. -/
theorem storable_of_run_serializeTxExtraField {s rest : List UInt8} {f : TxExtraField}
    (h : serializeTxExtraField.run s = some (f, rest)) (hs : s.length < 2 ^ 64) :
    f.Storable ∧ rest.length ≤ s.length ∧ (f.isPadding = true → rest = []) := by
  rw [serializeTxExtraField, StateT.run_bind, Option.bind_eq_bind, Option.bind_eq_some_iff] at h
  obtain ⟨⟨tag, s₁⟩, htag, h⟩ := h
  dsimp only at h
  have hs₁ : s₁.length ≤ s.length := shrinks_serializeInt8 _ _ _ htag
  -- one case a tag, each read by the reader of its field
  rcases run_ite_eq h with ⟨-, h⟩ | ⟨-, h⟩
  · obtain ⟨size, hsize, rfl⟩ := exists_of_run_map h
    obtain ⟨hrest, hle, hmax⟩ := readPadding_spec hsize
    exact ⟨⟨hle, hmax⟩, by rw [hrest]; exact Nat.zero_le _, fun _ => hrest⟩
  rcases run_ite_eq h with ⟨-, h⟩ | ⟨-, h⟩
  · obtain ⟨k, hk, rfl⟩ := exists_of_run_map h
    exact ⟨trivial, (shrinks_serializePod 32 _ _ _ hk).trans hs₁, by simp [TxExtraField.isPadding]⟩
  rcases run_ite_eq h with ⟨-, h⟩ | ⟨-, h⟩
  · obtain ⟨nonce, hn, rfl⟩ := exists_of_run_map h
    exact ⟨length_le_of_serializeTxExtraNonce hn, (shrinks_serializeTxExtraNonce _ _ _ hn).trans hs₁,
      by simp [TxExtraField.isPadding]⟩
  rcases run_ite_eq h with ⟨-, h⟩ | ⟨-, h⟩
  · obtain ⟨r, hr, rfl⟩ := exists_of_run_map h
    exact ⟨trivial, (shrinks_serializeTxExtraMergeMiningTag _ _ _ hr).trans hs₁,
      by simp [TxExtraField.isPadding]⟩
  rcases run_ite_eq h with ⟨-, h⟩ | ⟨-, h⟩
  · obtain ⟨data, hd, rfl⟩ := exists_of_run_map h
    have hlen := length_le_of_serializeContainer hd
    exact ⟨show data.length < 2 ^ 64 by omega,
      (Shrinks.serializeContainer (shrinks_serializePod 32) _ _ _ hd).trans hs₁, by simp [TxExtraField.isPadding]⟩
  rcases run_ite_eq h with ⟨-, h⟩ | ⟨-, h⟩
  · obtain ⟨pid, hp, rfl⟩ := exists_of_run_map h
    exact ⟨trivial, (shrinks_serializePod 40 _ _ _ hp).trans hs₁, by simp [TxExtraField.isPadding]⟩
  rcases run_ite_eq h with ⟨-, h⟩ | ⟨-, h⟩
  · obtain ⟨data, hd, rfl⟩ := exists_of_run_map h
    have hlen := length_le_of_serializeString hd
    exact ⟨show data.length < 2 ^ 64 by omega, (shrinks_serializeString _ _ _ hd).trans hs₁,
      by simp [TxExtraField.isPadding]⟩
  · -- an unknown tag fails
    exact absurd h (by simp [StateT.run, failure, StateT.failure])

/-- What the loop of `parse_tx_extra` reads from a stream shorter than
`2 ^ 64` is well formed, and not empty. -/
theorem parseTxExtraLoop_wellFormed : ∀ {fuel : ℕ} {s : List UInt8} {fields : List TxExtraField},
    parseTxExtraLoop fuel s = some fields → s.length < 2 ^ 64 → TxExtraWellFormed fields ∧ fields ≠ []
  | 0, s, fields, h, _ => absurd h (by simp [parseTxExtraLoop])
  | fuel + 1, s, fields, h, hs => by
    rw [parseTxExtraLoop] at h
    split at h
    · exact absurd h (by simp)
    rename_i field rest hrun
    obtain ⟨hf, hlen, hpad⟩ := storable_of_run_serializeTxExtraField hrun hs
    split at h
    · -- the stream ends after this field
      simp only [Option.some.injEq] at h
      subst h
      exact ⟨⟨by simpa using hf, .inl rfl⟩, List.cons_ne_nil _ _⟩
    · -- more fields follow, so this one is not a padding
      rename_i hrest
      rw [Option.map_eq_map, Option.map_eq_some_iff] at h
      obtain ⟨fs, hfs, rfl⟩ := h
      obtain ⟨hwf, hne⟩ := parseTxExtraLoop_wellFormed hfs (by omega)
      have hp : field.isPadding = false := by
        cases hq : field.isPadding
        · rfl
        · exact absurd (hpad hq) hrest
      refine ⟨⟨?_, .inr ⟨hp, hwf.paddingLast⟩⟩, List.cons_ne_nil _ _⟩
      intro g hg
      rcases List.mem_cons.mp hg with rfl | hg
      · exact hf
      · exact hwf.storable g hg

end Parse

/-! ## Removing a field -/

section Remove

/-- The loop of `remove_field_from_tx_extra` reads what the loop of
`parse_tx_extra` reads, and writes the fields of the other types in order. -/
theorem removeFieldLoop_eq (type : TxExtraFieldType) :
    ∀ (fuel : ℕ) (s : List UInt8) (out : List UInt8 × Bool),
      removeFieldLoop type fuel s out =
        (parseTxExtraLoop fuel s).map fun fields =>
          (fields.filter fun f => decide (f.type ≠ type)).foldl TxExtraField.writeTo out
  | 0, _, _ => rfl
  | fuel + 1, s, out => by
    rw [removeFieldLoop, parseTxExtraLoop]
    rcases serializeTxExtraField.run s with _ | ⟨field, rest⟩
    · rfl
    dsimp only
    by_cases hrest : rest = []
    · rw [if_pos hrest, if_pos hrest, Option.map_some, List.filter_cons, List.filter_nil]
      by_cases htype : field.type ≠ type
      · rw [if_pos htype, decide_eq_true htype, if_pos rfl]
        rfl
      · rw [if_neg htype, decide_eq_false htype]
        rfl
    · -- the rest of the stream, from the stream the field left behind
      rw [if_neg hrest, if_neg hrest, removeFieldLoop_eq type fuel rest, Option.map_eq_map, Option.map_map]
      congr 1
      funext fields
      simp only [Function.comp, List.filter_cons]
      by_cases htype : field.type ≠ type
      · rw [if_pos htype, decide_eq_true htype, if_pos rfl, List.foldl_cons]
      · rw [if_neg htype, decide_eq_false htype]
        rfl

end Remove

/-- **The fields of `extra`.** Well-formed fields serialized one after another
are all written, and `parse_tx_extra` gives them back in order. On an `extra`
that `parse_tx_extra` reads, `remove_field_from_tx_extra` succeeds, and the
bytes it leaves parse as the fields read without those of the type removed. -/
theorem txExtra_fields_roundTrip :
    (∀ fields : List TxExtraField, TxExtraWellFormed fields →
      (writeTxExtraFields fields).2 = true ∧ parseTxExtra (writeTxExtraFields fields).1 = some fields) ∧
    (∀ (txExtra : List UInt8) (fields : List TxExtraField) (type : TxExtraFieldType),
      txExtra.length < 2 ^ 64 → parseTxExtra txExtra = some fields →
      ∃ bytes, removeFieldFromTxExtra txExtra type = (true, bytes) ∧
        parseTxExtra bytes = some (fields.filter fun f => decide (f.type ≠ type))) := by
  refine ⟨fun fields h => parseTxExtra_writeTxExtraFields h, ?_⟩
  intro txExtra fields type hlen hparse
  by_cases hnil : txExtra = []
  · -- nothing to read: no fields, and nothing written
    subst hnil
    rw [parseTxExtra, if_pos rfl, Option.some.injEq] at hparse
    subst hparse
    exact ⟨[], by rw [removeFieldFromTxExtra, if_pos rfl], rfl⟩
  rw [parseTxExtra, if_neg hnil] at hparse
  obtain ⟨hwf, -⟩ := parseTxExtraLoop_wellFormed hparse hlen
  refine ⟨(writeTxExtraFields (fields.filter fun f => decide (f.type ≠ type))).1, ?_,
    (parseTxExtra_writeTxExtraFields (hwf.filter _)).2⟩
  rw [removeFieldFromTxExtra, if_neg hnil, removeFieldLoop_eq, hparse]
  rfl

/-- A nonce and a padding of three bytes read back; and removing the nonces
from the bytes of a nonce `07` and a padding of three bytes leaves bytes that
parse as the padding. -/
theorem txExtra_fields_roundTrip_nonce :
    ((writeTxExtraFields [.nonce [1, 2], .padding 3]).2 = true ∧
      parseTxExtra (writeTxExtraFields [.nonce [1, 2], .padding 3]).1 = some [.nonce [1, 2], .padding 3]) ∧
    ∃ bytes, removeFieldFromTxExtra [0x02, 0x01, 0x07, 0x00, 0x00, 0x00] .nonce = (true, bytes) ∧
      parseTxExtra bytes =
        some ([TxExtraField.nonce [7], .padding 3].filter fun f => decide (f.type ≠ .nonce)) :=
  ⟨txExtra_fields_roundTrip.1 _
      ⟨fun f hf => by
        rcases List.mem_pair.mp hf with rfl | rfl
        · show [1, 2].length ≤ txExtraNonceMaxCount
          decide
        · show 1 ≤ 3 ∧ 3 ≤ txExtraPaddingMaxCount
          decide,
        .inr ⟨rfl, .inl rfl⟩⟩,
    txExtra_fields_roundTrip.2 [0x02, 0x01, 0x07, 0x00, 0x00, 0x00] [.nonce [7], .padding 3] .nonce
      (by decide) (by decide)⟩

end Ombre
