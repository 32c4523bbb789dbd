import Ombre.DB.Ops

/-!
# The transaction pool

`tx_memory_pool` of `tx_pool.cpp`. The pool keeps each transaction twice: as a
row of the pool tables of the store (`txpool_meta` and `txpool_blob`, by hash),
and as an entry of `m_txs_by_fee_and_receive_time`, the set ordered by fee per
byte that `take_tx` and `prune` walk. `m_spent_key_images` maps each key image
to the hashes of the pool transactions that spend it.

`add_tx` checks a transaction and stores it in all three places; a transaction
`kept_by_block` (one that comes back from a block) skips the checks that only
protect the network (fee, size, double spend against the pool) and is kept even
when its inputs no longer check out. `take_tx` removes a transaction for a
block; `prune` evicts the cheapest transactions not kept by a block once the
pool is over its size.

The checks that read the chain (`check_fee`, `check_tx_outputs`,
`check_tx_inputs`) are supplied by the caller as `PoolChecks`. A stored blob is
the transaction it encodes, so reading it back always succeeds.
-/

namespace Ombre

/-- `txpool_tx_meta_t`, the fields the pool reads back. -/
structure TxPoolMeta where
  blobSize : UInt64
  fee : UInt64
  keptByBlock : Bool
deriving DecidableEq, Inhabited

/-- `tx_by_fee_and_receive_time_entry`: `((fee / (double)blob_size, receive_time), id)`.
The fee per byte is kept as its numerator and denominator. -/
structure SortedEntry where
  fee : UInt64
  blobSize : UInt64
  receiveTime : UInt64
  id : Hash
deriving DecidableEq, Inhabited

/-- The fee per byte of `a` is above that of `b`, compared exactly. -/
def SortedEntry.feeAbove (a b : SortedEntry) : Bool :=
  b.fee.toNat * a.blobSize.toNat < a.fee.toNat * b.blobSize.toNat

/-- `txCompare`: the greater fee per byte first, then the earlier receive time.
Two entries with the same key and different hashes each compare below the
other, as in the source. -/
def txCompare (a b : SortedEntry) : Bool :=
  if a.feeAbove b then true
  else if b.feeAbove a then false
  else if a.receiveTime < b.receiveTime then true
  else if a.receiveTime > b.receiveTime then false
  else a.id ≠ b.id

/-- `sorted_tx_container::emplace`: insert before the first entry the new one
compares below; an equivalent entry already there blocks the insertion. -/
def emplaceSorted (e : SortedEntry) : List SortedEntry → List SortedEntry
  | [] => [e]
  | x :: xs =>
    if txCompare e x then e :: x :: xs
    else if txCompare x e then x :: emplaceSorted e xs
    else x :: xs

/-- The checks of `add_tx` that read the chain: `Blockchain::check_fee`,
`Blockchain::check_tx_outputs` and `Blockchain::check_tx_inputs`. -/
structure PoolChecks where
  checkFee : Transaction → UInt64 → UInt64 → Bool
  checkTxOutputs : Transaction → Bool
  checkTxInputs : Transaction → Bool

/-- `check_inputs_types_supported`: every input is a `txin_to_key`. -/
def checkInputsTypesSupported (tx : Transaction) : Bool := tx.vin.all TxinV.isToKey

/-- `TRANSACTION_SIZE_LIMIT` -/
def transactionSizeLimit : UInt64 := 300 * 1024

/-- The state of `tx_memory_pool`. `txs` holds the pool tables of the store,
one row `(hash, meta, tx)` per transaction. -/
structure TxPool where
  txs : List (Hash × TxPoolMeta × Transaction)
  sorted : List SortedEntry
  spentKeyImages : List (KeyImage × List Hash)
  timedOut : List Hash
  maxSize : UInt64
  size : UInt64
deriving Inhabited

namespace TxPool

/-! ## The pool tables and the key images -/

/-- `txpool_has_tx`, which `have_tx` reads. -/
def haveTx (pool : TxPool) (id : Hash) : Bool := pool.txs.any fun r => r.1 = id

/-- `get_txpool_tx_meta` with `get_txpool_tx_blob`. -/
def getTxpoolTx (pool : TxPool) (id : Hash) : Option (TxPoolMeta × Transaction) :=
  (pool.txs.find? fun r => r.1 = id).map Prod.snd

/-- `add_txpool_tx`: `none` when the hash has a row already (`MDB_KEYEXIST`). -/
def addTxpoolTx (pool : TxPool) (id : Hash) (txMeta : TxPoolMeta) (tx : Transaction) :
    Option TxPool :=
  if pool.haveTx id then none else some { pool with txs := pool.txs ++ [(id, txMeta, tx)] }

/-- `remove_txpool_tx`: a missing row is not an error. -/
def removeTxpoolTx (pool : TxPool) (id : Hash) : TxPool :=
  { pool with txs := pool.txs.filter fun r => r.1 ≠ id }

/-- The hashes spending `k` in `m_spent_key_images`, empty when `k` has no entry. -/
def keyImageSet (ski : List (KeyImage × List Hash)) (k : KeyImage) : List Hash :=
  ((ski.find? fun e => e.1 = k).map Prod.snd).getD []

/-- Set the hashes spending `k`; an empty set erases the entry. -/
def setKeyImageSet (ski : List (KeyImage × List Hash)) (k : KeyImage) (ids : List Hash) :
    List (KeyImage × List Hash) :=
  ski.filter (fun e => e.1 ≠ k) ++ if ids.isEmpty then [] else [(k, ids)]

/-- `insert_key_images`: record `id` under the key image of each input. A
transaction not kept by a block may only use key images no pool transaction
uses. Stops with `false` at an input that is not a `txin_to_key`, at a key
image taken by another transaction, or at one `id` is already recorded under;
what it recorded before stays. -/
def insertKeyImages (id : Hash) (keptByBlock : Bool) :
    List TxinV → List (KeyImage × List Hash) → Bool × List (KeyImage × List Hash)
  | [], ski => (true, ski)
  | .toKey txin :: rest, ski =>
    let set := keyImageSet ski txin.kImage
    if !(keptByBlock || set.isEmpty) then (false, ski)
    else if id ∈ set then (false, ski)
    else insertKeyImages id keptByBlock rest (setKeyImageSet ski txin.kImage (set ++ [id]))
  | _ :: _, ski => (false, ski)

/-- `remove_transaction_keyimages`: drop `id` from the entry of the key image
of each input, erasing an entry left empty. Stops with `false` at an input
that is not a `txin_to_key`, or at a key image whose entry is missing, empty,
or without `id`. -/
def removeKeyImages (id : Hash) :
    List TxinV → List (KeyImage × List Hash) → Bool × List (KeyImage × List Hash)
  | [], ski => (true, ski)
  | .toKey txin :: rest, ski =>
    match ski.find? fun e => e.1 = txin.kImage with
    | none => (false, ski)
    | some (_, set) =>
      if set.isEmpty then (false, ski)
      else if id ∉ set then (false, ski)
      else removeKeyImages id rest (setKeyImageSet ski txin.kImage (set.erase id))
  | _ :: _, ski => (false, ski)

/-- `have_tx_keyimges_as_spent`: some input's key image is used by a pool
transaction. -/
def haveTxKeyimgesAsSpent (pool : TxPool) (tx : Transaction) : Bool :=
  tx.keyImages.any fun k => (pool.spentKeyImages.find? fun e => e.1 = k).isSome

/-! ## Taking and pruning -/

/-- `take_tx`: remove the transaction with hash `id` for a block, returning it
with its meta; `none`, changing nothing, when it is not in the sorted set or has
no row. -/
def takeTx (p : Primitives) (pool : TxPool) (id : Hash) :
    Option (Transaction × TxPoolMeta) × TxPool :=
  match pool.sorted.find? fun e => e.id = id with
  | none => (none, pool)
  | some e =>
    match pool.getTxpoolTx id with
    | none => (none, pool)
    | some (txMeta, tx) =>
      let pool := { pool.removeTxpoolTx id with size := pool.size - txMeta.blobSize }
      -- the result of `remove_transaction_keyimages` is not read
      let ski := (removeKeyImages (p.getTransactionHash tx) tx.vin pool.spentKeyImages).2
      (some (tx, txMeta), { pool with spentKeyImages := ski, sorted := pool.sorted.erase e })

/-- The loop of `prune`, over the sorted set from its last entry up to, but not
including, its first: stop once the pool fits in `bytes` or at an entry with
no row, skip the transactions kept by a block, evict the others. -/
def pruneLoop (p : Primitives) (blobSizeOf : Transaction → UInt64) (bytes : UInt64) :
    List SortedEntry → TxPool → TxPool
  | [], pool => pool
  | e :: es, pool =>
    if pool.size ≤ bytes then pool
    else match pool.getTxpoolTx e.id with
      | none => pool
      | some (txMeta, tx) =>
        if txMeta.keptByBlock then pruneLoop p blobSizeOf bytes es pool
        else
          let pool := { pool.removeTxpoolTx e.id with size := pool.size - blobSizeOf tx }
          let ski := (removeKeyImages (p.getTransactionHash tx) tx.vin pool.spentKeyImages).2
          pruneLoop p blobSizeOf bytes es
            { pool with spentKeyImages := ski, sorted := pool.sorted.erase e }

/-- `prune(bytes)`: evict until the pool fits in `bytes` (`m_txpool_max_size`
when `bytes` is 0). -/
def prune (p : Primitives) (blobSizeOf : Transaction → UInt64) (bytes : UInt64) (pool : TxPool) :
    TxPool :=
  let bytes := if bytes = 0 then pool.maxSize else bytes
  pruneLoop p blobSizeOf bytes (pool.sorted.drop 1).reverse pool

/-! ## Adding -/

/-- The storing part of `add_tx` once the checks passed: the row, the key
images and the sorted entry, then the size and a `prune`. A row already there,
or key images `insert_key_images` refuses, end it with `false`, keeping what
was written before. -/
def storeTx (p : Primitives) (blobSizeOf : Transaction → UInt64) (tx : Transaction)
    (txMeta : TxPoolMeta) (entry : SortedEntry) (pool : TxPool) : Bool × TxPool :=
  match pool.addTxpoolTx (p.getTransactionHash tx) txMeta tx with
  | none => (false, pool)
  | some pool =>
    match insertKeyImages (p.getTransactionHash tx) txMeta.keptByBlock tx.vin pool.spentKeyImages with
    | (false, ski) => (false, { pool with spentKeyImages := ski })
    | (true, ski) =>
      let pool := { pool with spentKeyImages := ski, sorted := emplaceSorted entry pool.sorted }
      let pool := { pool with size := pool.size + txMeta.blobSize }
      (true, pool.prune p blobSizeOf pool.maxSize)

/-- `add_tx(tx, id, blob_size, tvc, kept_by_block, relayed, do_not_relay)`:
check the transaction and store it, received at `now`. A transaction whose
inputs fail `check_tx_inputs` is stored only when kept by a block; one whose
inputs pass first has any row under its hash removed. -/
def addTx (p : Primitives) (blobSizeOf : Transaction → UInt64) (checks : PoolChecks)
    (tx : Transaction) (id : Hash) (blobSize : UInt64) (keptByBlock : Bool) (now : UInt64)
    (pool : TxPool) : Bool × TxPool :=
  let fee := tx.rctSignatures.txnFee
  let txMeta : TxPoolMeta := ⟨blobSize, fee, keptByBlock⟩
  let entry : SortedEntry := ⟨fee, blobSize, now, id⟩
  -- v0 never accepted
  if tx.version = 0 then (false, pool)
  else if !keptByBlock && id ∈ pool.timedOut then (false, pool)
  else if !checkInputsTypesSupported tx then (false, pool)
  else if !keptByBlock && !checks.checkFee tx blobSize fee then (false, pool)
  else if !keptByBlock && blobSize > transactionSizeLimit then (false, pool)
  else if !keptByBlock && pool.haveTxKeyimgesAsSpent tx then (false, pool)
  else if !checks.checkTxOutputs tx then (false, pool)
  else if !checks.checkTxInputs tx then
    -- a transaction that was valid in a block may become valid again
    if keptByBlock then storeTx p blobSizeOf tx txMeta entry pool else (false, pool)
  else storeTx p blobSizeOf tx txMeta entry (pool.removeTxpoolTx (p.getTransactionHash tx))

/-- `add_tx(tx, tvc, kept_by_block, relayed, do_not_relay)`: the hash and the
blob size are those of the transaction; an empty blob is refused. -/
def addTxOf (p : Primitives) (blobSizeOf : Transaction → UInt64) (checks : PoolChecks)
    (tx : Transaction) (keptByBlock : Bool) (now : UInt64) (pool : TxPool) : Bool × TxPool :=
  if blobSizeOf tx = 0 then (false, pool)
  else addTx p blobSizeOf checks tx (p.getTransactionHash tx) (blobSizeOf tx) keptByBlock now pool

end TxPool

end Ombre
