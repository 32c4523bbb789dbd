import Ombre.Serialization.BinaryArchive
import Ombre.Basic.Config

/-!
# Transactions and blocks on the wire

The `do_serialize` of the types of `cryptonote_basic.h` and `ringct/rctTypes.h`
on the binary archive: for each type a reader (`serialize…`) and a writer
(`write…`, in `Option` where the shared code returns `false` when writing).

Reading goes into an existing object: a field the format does not carry keeps
the value it had. Only `transaction` and the two halves of `rctSig` leave
fields of the model unread, so only their readers take the object read into.
The other readers overwrite every field of the model (`PREPARE_CUSTOM_VECTOR_SERIALIZATION`
resizes a vector whose entries are then read whole), and return a new value.
-/

namespace Ombre

open Codec BinaryArchive

/-! ## Outputs and inputs -/

def serializeTxoutToScript : Reader TxoutToScript := do
  let keys ← serializeContainer (serializePod 32)
  let script ← serializeContainer serializeInt8
  pure ⟨keys, script⟩

def writeTxoutToScript (t : TxoutToScript) : List UInt8 :=
  writeContainer Pod.bytes t.keys ++ writeContainer writeInt8 t.script

def serializeTxinGen : Reader TxinGen := TxinGen.mk <$> serializeVarint64

def writeTxinGen (i : TxinGen) : List UInt8 := writeVarint64 i.height

def serializeTxinToScript : Reader TxinToScript := do
  let prev ← serializePod 32
  let prevout ← serializeVarint64
  let sigset ← serializeContainer serializeInt8
  pure ⟨prev, prevout, sigset⟩

def writeTxinToScript (i : TxinToScript) : List UInt8 :=
  i.prev.bytes ++ writeVarint64 i.prevout ++ writeContainer writeInt8 i.sigset

def serializeTxinToScripthash : Reader TxinToScripthash := do
  let prev ← serializePod 32
  let prevout ← serializeVarint64
  let script ← serializeTxoutToScript
  let sigset ← serializeContainer serializeInt8
  pure ⟨prev, prevout, script, sigset⟩

def writeTxinToScripthash (i : TxinToScripthash) : List UInt8 :=
  i.prev.bytes ++ writeVarint64 i.prevout ++ writeTxoutToScript i.script ++
    writeContainer writeInt8 i.sigset

/-- `txin_to_key`; the offsets are `uint64_t` elements, which a container
writes as varints. -/
def serializeTxinToKey : Reader TxinToKey := do
  let amount ← serializeVarint64
  let keyOffsets ← serializeContainer serializeVarint64
  let kImage ← serializePod 32
  pure ⟨amount, keyOffsets, kImage⟩

def writeTxinToKey (i : TxinToKey) : List UInt8 :=
  writeVarint64 i.amount ++ writeContainer writeVarint64 i.keyOffsets ++ i.kImage.bytes

/-- The variant serializer of `txin_v`, reading: the tag, then the input of the
type that `VARIANT_TAG` gives that tag, in the order of the variant's types;
an unknown tag sets `failbit`. -/
def serializeTxinV : Reader TxinV := do
  let tag ← serializeInt8
  if tag = 0xff then TxinV.gen <$> serializeTxinGen
  else if tag = 0x0 then TxinV.toScript <$> serializeTxinToScript
  else if tag = 0x1 then TxinV.toScripthash <$> serializeTxinToScripthash
  else if tag = 0x2 then TxinV.toKey <$> serializeTxinToKey
  else failure

def writeTxinV : TxinV → List UInt8
  | .gen i => writeInt8 0xff ++ writeTxinGen i
  | .toScript i => writeInt8 0x0 ++ writeTxinToScript i
  | .toScripthash i => writeInt8 0x1 ++ writeTxinToScripthash i
  | .toKey i => writeInt8 0x2 ++ writeTxinToKey i

/-- `txout_target_v`; `txout_to_scripthash` and `txout_to_key` are blobs
(`BLOB_SERIALIZER`). -/
def serializeTxoutTargetV : Reader TxoutTargetV := do
  let tag ← serializeInt8
  if tag = 0x0 then TxoutTargetV.toScript <$> serializeTxoutToScript
  else if tag = 0x1 then (fun h => TxoutTargetV.toScripthash ⟨h⟩) <$> serializePod 32
  else if tag = 0x2 then (fun k => TxoutTargetV.toKey ⟨k⟩) <$> serializePod 32
  else failure

def writeTxoutTargetV : TxoutTargetV → List UInt8
  | .toScript t => writeInt8 0x0 ++ writeTxoutToScript t
  | .toScripthash t => writeInt8 0x1 ++ t.hash.bytes
  | .toKey t => writeInt8 0x2 ++ t.key.bytes

def serializeTxOut : Reader TxOut := do
  let amount ← serializeVarint64
  let target ← serializeTxoutTargetV
  pure ⟨amount, target⟩

def writeTxOut (o : TxOut) : List UInt8 := writeVarint64 o.amount ++ writeTxoutTargetV o.target

/-- `transaction_prefix::do_serialize`, reading: a version outside
`1..MAX_TRANSACTION_VERSION` is refused. -/
def serializeTransactionPrefix : Reader TransactionPrefix := do
  let version ← serializeVarint64
  require (¬(version = 0 ∨ version > maxTransactionVersion))
  let unlockTime ← serializeVarint64
  let vin ← serializeContainer serializeTxinV
  let vout ← serializeContainer serializeTxOut
  let extra ← serializeContainer serializeInt8
  pure ⟨version, unlockTime, vin, vout, extra⟩

def writeTransactionPrefix (p : TransactionPrefix) : Option (List UInt8) :=
  if p.version = 0 ∨ p.version > maxTransactionVersion then none
  else
    some (writeVarint64 p.version ++ writeVarint64 p.unlockTime ++ writeContainer writeTxinV p.vin ++
      writeContainer writeTxOut p.vout ++ writeContainer writeInt8 p.extra)

/-! ## Ring signatures of version 1 -/

/-- `transaction::get_signature_size(tx_in)` -/
def getSignatureSize : TxinV → ℕ
  | .toKey i => i.keyOffsets.length
  | _ => 0

/-- `do_serialize` of a `std::vector<crypto::signature>` of `cnt` entries,
reading: refused when fewer bytes are left than `cnt * sizeof(crypto::signature)`
(a `size_t` product), then the signatures one after the other. -/
def serializeSignatureVector (cnt : ℕ) : Reader (List Signature) := do
  let rem ← remaining
  require (cnt * 64 % 2 ^ 64 ≤ rem)
  readMany (serializePod 64) cnt

/-- The `signatures` of a version 1 transaction, reading. `signatures` is first
resized to one entry per input and each entry to its input's signature size,
so the checks the shared code makes against those sizes pass when reading. -/
def serializeSignatures (vin : List TxinV) : Reader (List (List Signature)) :=
  vin.mapM fun i => serializeSignatureVector (getSignatureSize i)

/-- The `signatures` of a version 1 transaction, writing. With no signatures at
all (`signatures_not_expected`) every input must take none; otherwise each
input has an entry of its signature size. -/
def writeSignatures (vin : List TxinV) (signatures : List (List Signature)) : Option (List UInt8) :=
  if signatures.isEmpty then
    if vin.all fun i => getSignatureSize i = 0 then some [] else none
  else if vin.length ≠ signatures.length then none
  else if (vin.zip signatures).all fun (i, s) => getSignatureSize i = s.length then
    some (signatures.map writePods).flatten
  else none

/-! ## RingCT -/

def serializeEcdhTuple : Reader EcdhTuple := do
  let mask ← serializePod 32
  let amount ← serializePod 32
  pure ⟨mask, amount⟩

def writeEcdhTuple (e : EcdhTuple) : List UInt8 := e.mask.bytes ++ e.amount.bytes

/-- `outPk[i].mask` -/
def serializeCtKey : Reader CtKey := CtKey.mk <$> serializePod 32

def writeCtKey (k : CtKey) : List UInt8 := k.mask.bytes

def serializeRangeSig : Reader RangeSig := do
  let asig ← serializePod 4128
  let ci ← serializePod 2048
  pure ⟨asig, ci⟩

def writeRangeSig (r : RangeSig) : List UInt8 := r.asig.bytes ++ r.ci.bytes

/-- `Bulletproof::do_serialize`, reading: refused unless `L` is not empty and
as long as `R`. -/
def serializeBulletproof : Reader Bulletproof := do
  let a1 ← serializePod 32
  let s ← serializePod 32
  let t1 ← serializePod 32
  let t2 ← serializePod 32
  let taux ← serializePod 32
  let mu ← serializePod 32
  let l ← serializeContainer (serializePod 32)
  let r ← serializeContainer (serializePod 32)
  let a ← serializePod 32
  let b ← serializePod 32
  let t ← serializePod 32
  require (¬(l.isEmpty ∨ l.length ≠ r.length))
  pure ⟨a1, s, t1, t2, taux, mu, l, r, a, b, t⟩

def writeBulletproof (p : Bulletproof) : Option (List UInt8) :=
  if p.l.isEmpty ∨ p.l.length ≠ p.r.length then none
  else
    some (p.a1.bytes ++ p.s.bytes ++ p.t1.bytes ++ p.t2.bytes ++ p.taux.bytes ++ p.mu.bytes ++
      writeContainer Pod.bytes p.l ++ writeContainer Pod.bytes p.r ++ p.a.bytes ++ p.b.bytes ++
      p.t.bytes)

/-- `n_bulletproof_max_amounts(proof)`: `2 ^ (L.size() - 6)` for `L` of 6 to 10
entries as long as `R`, else 0. -/
def nBulletproofMaxAmountsOf (proof : Bulletproof) : ℕ :=
  if proof.l.length < 6 then 0
  else if proof.l.length ≠ proof.r.length then 0
  else if proof.l.length > 6 + 4 then 0
  else 1 <<< (proof.l.length - 6)

/-- The loop of `n_bulletproof_max_amounts(proofs)`, with `n` counted so far. -/
def nBulletproofMaxAmountsLoop : List Bulletproof → ℕ → ℕ
  | [], n => n
  | proof :: proofs, n =>
    let n2 := nBulletproofMaxAmountsOf proof
    if ¬(n2 < 4294967295 - n) then 0
    else if n2 = 0 then 0
    else nBulletproofMaxAmountsLoop proofs (n + n2)

/-- `n_bulletproof_max_amounts(proofs)` -/
def nBulletproofMaxAmounts (proofs : List Bulletproof) : ℕ := nBulletproofMaxAmountsLoop proofs 0

/-- One `mgSig` as `serialize_rctsig_prunable` stores it: `rows` rows of
`width` keys, with no sizes, then `cc`. -/
def serializeMgSig (rows width : ℕ) : Reader MgSig := do
  let ss ← readMany (readMany (serializePod 32) width) rows
  let cc ← serializePod 32
  pure ⟨ss, cc⟩

def writeMgSig (rows width : ℕ) (m : MgSig) : Option (List UInt8) :=
  if m.ss.length ≠ rows then none
  else if m.ss.any fun row => row.length ≠ width then none
  else some ((m.ss.map writePods).flatten ++ m.cc.bytes)

/-- `rctSigBase::serialize_rctsig_base(ar, inputs, outputs)`, reading into `rv`. -/
def serializeRctsigBase (rv : RctSig) (inputs outputs : ℕ) : Reader RctSig := do
  let type ← serializeInt8
  if type = rctTypeNull then pure { rv with type := type }
  else do
    require (type = rctTypeFull ∨ type = rctTypeSimple ∨ type = rctTypeBulletproof)
    let txnFee ← serializeVarint64
    let pseudoOuts ← (if type = rctTypeSimple then readMany (serializePod 32) inputs
      else pure rv.pseudoOuts)
    let ecdhInfo ← readMany serializeEcdhTuple outputs
    let outPk ← readMany serializeCtKey outputs
    pure { rv with
      type := type, txnFee := txnFee, pseudoOuts := pseudoOuts, ecdhInfo := ecdhInfo, outPk := outPk }

def writeRctsigBase (rv : RctSig) (inputs outputs : ℕ) : Option (List UInt8) :=
  if rv.type = rctTypeNull then some (writeInt8 rv.type)
  else if ¬(rv.type = rctTypeFull ∨ rv.type = rctTypeSimple ∨ rv.type = rctTypeBulletproof) then none
  else if rv.type = rctTypeSimple ∧ rv.pseudoOuts.length ≠ inputs then none
  else if rv.ecdhInfo.length ≠ outputs then none
  else if rv.outPk.length ≠ outputs then none
  else
    some (writeInt8 rv.type ++ writeVarint64 rv.txnFee ++
      (if rv.type = rctTypeSimple then writePods rv.pseudoOuts else []) ++
      (rv.ecdhInfo.map writeEcdhTuple).flatten ++ (rv.outPk.map writeCtKey).flatten)

/-- The number of `mgSig`s of a type: one per input for simple and bulletproof
signatures, one for a full one. -/
def mgElements (type : UInt8) (inputs : ℕ) : ℕ :=
  if type = rctTypeSimple ∨ type = rctTypeBulletproof then inputs else 1

/-- The width of a row of an `mgSig`: `mg_ss2_elements`. -/
def mgSs2Elements (type : UInt8) (inputs : ℕ) : ℕ :=
  (if type = rctTypeSimple ∨ type = rctTypeBulletproof then 1 else inputs) + 1

/-- The bulletproofs of `serialize_rctsig_prunable`, reading into `p`: their
`uint32_t` count, refused above the number of outputs, the bulletproofs, and a
check that they cover the outputs. -/
def serializeBulletproofs (p : RctSigPrunable) (outputs : ℕ) : Reader RctSigPrunable := do
  let nbp ← serializeInt32
  require (¬nbp.toNat > outputs)
  let bulletproofs ← readMany serializeBulletproof nbp.toNat
  require (¬nBulletproofMaxAmounts bulletproofs < outputs)
  pure { p with bulletproofs := bulletproofs }

def writeBulletproofs (p : RctSigPrunable) (outputs : ℕ) : Option (List UInt8) :=
  -- `uint32_t nbp = bulletproofs.size()`
  let nbp := UInt32.ofNat p.bulletproofs.length
  if nbp.toNat > outputs then none
  else do
    let bulletproofs ← (p.bulletproofs.take nbp.toNat).mapM writeBulletproof
    if nBulletproofMaxAmounts p.bulletproofs < outputs then none
    else some (writeInt32 nbp ++ bulletproofs.flatten)

/-- The range signatures of `serialize_rctsig_prunable`, reading into `p`: one
per output. -/
def serializeRangeSigs (p : RctSigPrunable) (outputs : ℕ) : Reader RctSigPrunable := do
  let rangeSigs ← readMany serializeRangeSig outputs
  pure { p with rangeSigs := rangeSigs }

def writeRangeSigs (p : RctSigPrunable) (outputs : ℕ) : Option (List UInt8) :=
  if p.rangeSigs.length ≠ outputs then none
  else some (p.rangeSigs.map writeRangeSig).flatten

/-- `rctSigPrunable::serialize_rctsig_prunable(ar, type, inputs, outputs, mixin)`,
reading into `p`: the bulletproofs or the range signatures, the `mgSig`s of
`mixin + 1` rows (a `size_t` sum) and, for bulletproofs, the pseudo outputs. -/
def serializeRctsigPrunable (p : RctSigPrunable) (type : UInt8) (inputs outputs : ℕ)
    (mixin : UInt64) : Reader RctSigPrunable :=
  if type = rctTypeNull then pure p
  else do
    require (type = rctTypeFull ∨ type = rctTypeSimple ∨ type = rctTypeBulletproof)
    let p ← (if type = rctTypeBulletproof then serializeBulletproofs p outputs
      else serializeRangeSigs p outputs)
    let mgs ← readMany (serializeMgSig (mixin + 1).toNat (mgSs2Elements type inputs))
      (mgElements type inputs)
    let pseudoOuts ← (if type = rctTypeBulletproof then readMany (serializePod 32) inputs
      else pure p.pseudoOuts)
    pure { p with mgs := mgs, pseudoOuts := pseudoOuts }

def writeRctsigPrunable (p : RctSigPrunable) (type : UInt8) (inputs outputs : ℕ)
    (mixin : UInt64) : Option (List UInt8) :=
  if type = rctTypeNull then some []
  else if ¬(type = rctTypeFull ∨ type = rctTypeSimple ∨ type = rctTypeBulletproof) then none
  else do
    let proofs ← (if type = rctTypeBulletproof then writeBulletproofs p outputs
      else writeRangeSigs p outputs)
    if p.mgs.length ≠ mgElements type inputs then none
    else do
      let mgs ← p.mgs.mapM (writeMgSig (mixin + 1).toNat (mgSs2Elements type inputs))
      if type = rctTypeBulletproof ∧ p.pseudoOuts.length ≠ inputs then none
      else
        some (proofs ++ mgs.flatten ++ if type = rctTypeBulletproof then writePods p.pseudoOuts else [])

/-! ## Transactions and blocks -/

/-- The `mixin` `transaction::do_serialize` passes: `key_offsets.size() - 1` of
the first input when it is a `txin_to_key`, in `size_t` (an empty ring gives
`SIZE_MAX`, and `mixin + 1` rows wraps to none), else 0. -/
def rctMixin : List TxinV → UInt64
  | TxinV.toKey i :: _ => i.keyOffsets.length.toUInt64 - 1
  | _ => 0

/-- `transaction::do_serialize`, reading into `tx`: the prefix, then for
version 1 the signatures and for later versions, when there are inputs, the
ring signature's base and, unless its type is null, its prunable part. -/
def serializeTransaction (tx : Transaction) : Reader Transaction := do
  let pfx ← serializeTransactionPrefix
  if pfx.version = 1 then do
    let signatures ← serializeSignatures pfx.vin
    pure { tx with toTransactionPrefix := pfx, signatures := signatures }
  else if pfx.vin.isEmpty then pure { tx with toTransactionPrefix := pfx }
  else do
    let rv ← serializeRctsigBase tx.rctSignatures pfx.vin.length pfx.vout.length
    if rv.type = rctTypeNull then pure { tx with toTransactionPrefix := pfx, rctSignatures := rv }
    else do
      let p ← serializeRctsigPrunable rv.p rv.type pfx.vin.length pfx.vout.length (rctMixin pfx.vin)
      pure { tx with toTransactionPrefix := pfx, rctSignatures := { rv with p := p } }

/-- `transaction::do_serialize`, writing. -/
def writeTransaction (tx : Transaction) : Option (List UInt8) := do
  let pfx ← writeTransactionPrefix tx.toTransactionPrefix
  if tx.version = 1 then do
    let signatures ← writeSignatures tx.vin tx.signatures
    pure (pfx ++ signatures)
  else if tx.vin.isEmpty then pure pfx
  else do
    let base ← writeRctsigBase tx.rctSignatures tx.vin.length tx.vout.length
    if tx.rctSignatures.type = rctTypeNull then pure (pfx ++ base)
    else do
      let p ← writeRctsigPrunable tx.rctSignatures.p tx.rctSignatures.type tx.vin.length
        tx.vout.length (rctMixin tx.vin)
      pure (pfx ++ base ++ p)

def serializeBlockHeader : Reader BlockHeader := do
  let majorVersion ← serializeVarint8
  let minorVersion ← serializeVarint8
  let timestamp ← serializeVarint64
  let prevId ← serializePod 32
  let nonce ← serializeInt32
  pure ⟨majorVersion, minorVersion, timestamp, prevId, nonce⟩

def writeBlockHeader (h : BlockHeader) : List UInt8 :=
  writeVarint8 h.majorVersion ++ writeVarint8 h.minorVersion ++ writeVarint64 h.timestamp ++
    h.prevId.bytes ++ writeInt32 h.nonce

/-- `block::do_serialize`, reading into `b`: the header, the miner transaction
(read into `b`'s) and the hashes of the other transactions. -/
def serializeBlock (b : Block) : Reader Block := do
  let header ← serializeBlockHeader
  let minerTx ← serializeTransaction b.minerTx
  let txHashes ← serializeContainer (serializePod 32)
  pure ⟨header, minerTx, txHashes⟩

def writeBlock (b : Block) : Option (List UInt8) := do
  let minerTx ← writeTransaction b.minerTx
  pure (writeBlockHeader b.toBlockHeader ++ minerTx ++ writeContainer Pod.bytes b.txHashes)

/-- `parse_binary(blob, v)`: `serialize` reads into `v` and then checks that
the stream is good and at its end (`check_stream_state`). -/
def parseBinary {α : Type} (serialize : α → Reader α) (blob : List UInt8) (v : α) : Option α :=
  readAll (serialize v) blob

/-- `transaction::set_null()`, which the constructor calls. -/
def Transaction.setNull (tx : Transaction) : Transaction :=
  { tx with
    version := 1, unlockTime := 0, vin := [], vout := [], extra := [], signatures := []
    rctSignatures := { tx.rctSignatures with type := rctTypeNull } }

end Ombre
