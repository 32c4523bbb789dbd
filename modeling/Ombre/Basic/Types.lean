import Mathlib

/-!
# Transactions and blocks

The data model of `cryptonote_basic.h` and `ringct/rctTypes.h`, field by field.
Integer fields keep their C++ widths (`size_t` and `uint64_t` are `UInt64`,
`uint8_t` is `UInt8`, the block nonce is `UInt32`); the POD types of
`crypto.h` (`hash`, `key_image`, `public_key`, `signature`) and `rct::key` are
byte strings of a fixed width, `Pod n`, which carries its width as a field.

Only the fields that are serialized or read by a modelled function are kept.
The cached hashes of `transaction` and `block`, the ring-signature scratch
fields of `rctSigBase` (`message`, `mixRing`), the key images of `mgSig`
(`II`), the commitments of a bulletproof (`V`), `ecdhTuple::senderPk` and the
`dest` half of `outPk` are rebuilt from other data and never serialized, so
they are left out.
-/

namespace Ombre

/-- A byte string of the fixed width `n`: the POD types of `crypto.h` and
`rct::key`. -/
structure Pod (n : ℕ) where
  bytes : List UInt8
  length_eq : bytes.length = n
deriving DecidableEq

namespace Pod

/-- The all-zero value (`null_hash`, `null_pkey`, a value-initialised key). -/
def zero (n : ℕ) : Pod n := ⟨List.replicate n 0, by simp⟩

/-- The value whose first byte is `b` and whose other bytes are zero. -/
def ofByte (n : ℕ) (b : UInt8) : Pod (n + 1) := ⟨b :: List.replicate n 0, by simp⟩

instance (n : ℕ) : Inhabited (Pod n) := ⟨zero n⟩

/-- `==` on 32-byte values is equality; named once so that every test of
membership among hashes and key images uses this one proof. -/
instance podLawfulBEq32 : LawfulBEq (Pod 32) := inferInstance

/-- `epee::string_tools::pod_to_hex`: two lower-case hex digits per byte. -/
def toHex {n : ℕ} (p : Pod n) : String :=
  String.join (p.bytes.map fun b => String.ofList [Nat.digitChar (b.toNat / 16), Nat.digitChar (b.toNat % 16)])

end Pod

/-- `crypto::hash` -/
abbrev Hash := Pod 32
/-- `crypto::key_image` -/
abbrev KeyImage := Pod 32
/-- `crypto::public_key` -/
abbrev PublicKey := Pod 32
/-- `crypto::signature`: the scalars `c` and `r`. -/
abbrev Signature := Pod 64
/-- `rct::key` -/
abbrev RctKey := Pod 32

/-- `null_hash` -/
def nullHash : Hash := Pod.zero 32

/-! ## Outputs and inputs -/

/-- `txout_to_script` -/
structure TxoutToScript where
  keys : List PublicKey
  script : List UInt8
deriving DecidableEq, Inhabited

/-- `txout_to_scripthash` -/
structure TxoutToScripthash where
  hash : Hash
deriving DecidableEq, Inhabited

/-- `txout_to_key` -/
structure TxoutToKey where
  key : PublicKey
deriving DecidableEq, Inhabited

/-- `txout_target_v`, in the order of the C++ variant. -/
inductive TxoutTargetV where
  | toScript (t : TxoutToScript)
  | toScripthash (t : TxoutToScripthash)
  | toKey (t : TxoutToKey)
deriving DecidableEq, Inhabited

/-- `tx_out` -/
structure TxOut where
  amount : UInt64
  target : TxoutTargetV
deriving DecidableEq, Inhabited

/-- `txin_gen`: the coinbase input, naming the height of its block. -/
structure TxinGen where
  height : UInt64
deriving DecidableEq, Inhabited

/-- `txin_to_script` -/
structure TxinToScript where
  prev : Hash
  prevout : UInt64
  sigset : List UInt8
deriving DecidableEq, Inhabited

/-- `txin_to_scripthash` -/
structure TxinToScripthash where
  prev : Hash
  prevout : UInt64
  script : TxoutToScript
  sigset : List UInt8
deriving DecidableEq, Inhabited

/-- `txin_to_key`: a ring of earlier outputs, by relative offsets, and the key
image that marks the real one as spent. -/
structure TxinToKey where
  amount : UInt64
  keyOffsets : List UInt64
  kImage : KeyImage
deriving DecidableEq, Inhabited

/-- `txin_v`, in the order of the C++ variant. -/
inductive TxinV where
  | gen (i : TxinGen)
  | toScript (i : TxinToScript)
  | toScripthash (i : TxinToScripthash)
  | toKey (i : TxinToKey)
deriving DecidableEq, Inhabited

namespace TxinV

/-- The key image of a `txin_to_key` input. -/
def keyImage? : TxinV → Option KeyImage
  | toKey i => some i.kImage
  | _ => none

/-- `in.type() == typeid(txin_to_key)` -/
def isToKey : TxinV → Bool
  | toKey _ => true
  | _ => false

/-- `in.type() == typeid(txin_gen)` -/
def isGen : TxinV → Bool
  | gen _ => true
  | _ => false

end TxinV

/-! ## Ring signatures -/

/-- `rct::ecdhTuple`, without the unserialized `senderPk`. -/
structure EcdhTuple where
  mask : RctKey
  amount : RctKey
deriving DecidableEq, Inhabited

/-- The serialized half of an `outPk` entry, `ctkey::mask`. -/
structure CtKey where
  mask : RctKey
deriving DecidableEq, Inhabited

/-- `rct::rangeSig`: a Borromean signature and its 64 commitments, both
serialized as opaque blobs (`BLOB_SERIALIZER(rct::boroSig)`,
`BLOB_SERIALIZER(rct::key64)`). -/
structure RangeSig where
  asig : Pod 4128
  ci : Pod 2048
deriving DecidableEq, Inhabited

/-- `rct::Bulletproof`, without the commitments `V`, which are restored from
`outPk`. -/
structure Bulletproof where
  a1 : RctKey
  s : RctKey
  t1 : RctKey
  t2 : RctKey
  taux : RctKey
  mu : RctKey
  l : List RctKey
  r : List RctKey
  a : RctKey
  b : RctKey
  t : RctKey
deriving DecidableEq, Inhabited

/-- `rct::mgSig`, without the key images `II`, which are restored from the
inputs. -/
structure MgSig where
  ss : List (List RctKey)
  cc : RctKey
deriving DecidableEq, Inhabited

/-- `RCTTypeNull` -/
def rctTypeNull : UInt8 := 0
/-- `RCTTypeFull` -/
def rctTypeFull : UInt8 := 1
/-- `RCTTypeSimple` -/
def rctTypeSimple : UInt8 := 2
/-- `RCTTypeBulletproof` -/
def rctTypeBulletproof : UInt8 := 3

/-- `rct::rctSigBase` -/
structure RctSigBase where
  type : UInt8
  txnFee : UInt64
  pseudoOuts : List RctKey
  ecdhInfo : List EcdhTuple
  outPk : List CtKey
deriving DecidableEq, Inhabited

/-- `rct::rctSigPrunable` -/
structure RctSigPrunable where
  rangeSigs : List RangeSig
  bulletproofs : List Bulletproof
  mgs : List MgSig
  pseudoOuts : List RctKey
deriving DecidableEq, Inhabited

/-- `rct::rctSig` -/
structure RctSig extends RctSigBase where
  p : RctSigPrunable
deriving DecidableEq, Inhabited

/-- The value of a freshly constructed `rctSig`: type `RCTTypeNull`, everything
else empty. -/
def RctSig.null : RctSig :=
  { type := rctTypeNull, txnFee := 0, pseudoOuts := [], ecdhInfo := [], outPk := [],
    p := { rangeSigs := [], bulletproofs := [], mgs := [], pseudoOuts := [] } }

/-! ## Transactions and blocks -/

/-- `transaction_prefix` -/
structure TransactionPrefix where
  version : UInt64
  unlockTime : UInt64
  vin : List TxinV
  vout : List TxOut
  extra : List UInt8
deriving DecidableEq, Inhabited

/-- `transaction` -/
structure Transaction extends TransactionPrefix where
  signatures : List (List Signature)
  rctSignatures : RctSig
deriving DecidableEq, Inhabited

namespace Transaction

/-- The key images of the `txin_to_key` inputs, in input order. -/
def keyImages (tx : Transaction) : List KeyImage :=
  tx.vin.filterMap TxinV.keyImage?

/-- `is_coinbase`: exactly one input, a `txin_gen`. -/
def isCoinbase (tx : Transaction) : Bool :=
  match tx.vin with
  | [i] => i.isGen
  | _ => false

end Transaction

/-- `block_header` -/
structure BlockHeader where
  majorVersion : UInt8
  minorVersion : UInt8
  timestamp : UInt64
  prevId : Hash
  nonce : UInt32
deriving DecidableEq, Inhabited

/-- `block` -/
structure Block extends BlockHeader where
  minerTx : Transaction
  txHashes : List Hash
deriving DecidableEq, Inhabited

/-- `get_block_height`: the height named by the coinbase input, 0 when the
miner transaction is not a single `txin_gen`. -/
def getBlockHeight (b : Block) : UInt64 :=
  match b.minerTx.vin with
  | [TxinV.gen g] => g.height
  | _ => 0

end Ombre
