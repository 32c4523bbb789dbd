import Ombre.Basic.Config

/-!
# The stored chain

The tables of `BlockchainLMDB` as the generic `BlockchainDB` layer sees them,
with the read accessors the consensus code calls. A table of rows keyed by a
dense integer (`m_blocks`, `m_block_info`) is a list indexed by that integer; a
hash-keyed table is a list of its rows. Blobs are kept as the values they
encode: the store serialises a block or a transaction on `put` and parses it
back on `get`, and the model does not re-parse.

The block blob, its info row and its entry in `m_block_heights` are written and
deleted together by `add_block` and `remove_block`, so they are one row
`ChainEntry` here; `get_block_height` finds the row by hash, which is unique
because `add_block` refuses a hash already present.
-/

namespace Ombre

/-- `mdb_block_info`: one row of `m_block_info`; `bi_height` is the row's
index. -/
structure MdbBlockInfo where
  timestamp : UInt64
  coins : UInt64
  size : UInt64
  diff : UInt64
  hash : Hash
deriving DecidableEq, Inhabited

/-- A stored block: its blob (`m_blocks`) with its info row. -/
structure ChainEntry where
  block : Block
  info : MdbBlockInfo
deriving DecidableEq, Inhabited

/-- `txindex`: the row of `m_tx_indices` for one transaction hash. -/
structure TxIndex where
  key : Hash
  txId : ℕ
  unlockTime : UInt64
  blockId : ℕ
deriving DecidableEq, Inhabited

/-- `outkey`: one row of `m_output_amounts` for an amount; its position among
the rows of that amount is `amount_index`. -/
structure OutKey where
  amount : UInt64
  amountIndex : ℕ
  outputId : ℕ
  pubkey : PublicKey
  unlockTime : UInt64
  height : ℕ
  commitment : RctKey
deriving DecidableEq, Inhabited

/-- `outtx`: one row of `m_output_txs`, by global output index. -/
structure OutTx where
  outputId : ℕ
  txHash : Hash
  localIndex : ℕ
deriving DecidableEq, Inhabited

/-- The tables of the store. `hfVersions` is `m_hf_versions`, written by the
hard-fork tracker through `set_hard_fork_version`. Row ids and counters
(`tx_id`, `output_id`, `amount_index`, heights) are natural numbers: they count
rows of a table and never come near `2^64`. -/
structure BlockchainDB where
  chain : List ChainEntry
  txIndices : List TxIndex
  txs : List (ℕ × Transaction)
  txOutputs : List (ℕ × List ℕ)
  outputTxs : List OutTx
  outputAmounts : List OutKey
  spentKeys : List KeyImage
  hfVersions : List (ℕ × UInt8)
deriving DecidableEq, Inhabited

/-- The exceptions the store throws, by class (`BLOCK_EXISTS`, `BLOCK_DNE`, ...),
each with its message. `runtimeError` is the `std::runtime_error` of the
generic layer. -/
inductive DbError where
  | blockExists (msg : String)
  | blockDne (msg : String)
  | blockParentDne (msg : String)
  | txExists (msg : String)
  | txDne (msg : String)
  | outputDne (msg : String)
  | keyImageExists (msg : String)
  | dbError (msg : String)
  | runtimeError (msg : String)
deriving DecidableEq, Repr

namespace BlockchainDB

/-- The store holding nothing, after `reset`. -/
def empty : BlockchainDB :=
  { chain := [], txIndices := [], txs := [], txOutputs := [], outputTxs := [],
    outputAmounts := [], spentKeys := [], hfVersions := [] }

variable (db : BlockchainDB)

/-- `height`: the number of stored blocks. -/
def height : ℕ := db.chain.length

/-- The info rows, in height order. -/
def blockInfo : List MdbBlockInfo := db.chain.map ChainEntry.info

/-- `get_block_timestamp`; read in range at every modelled call site. -/
def getBlockTimestamp (h : ℕ) : UInt64 :=
  ((db.blockInfo[h]?).map MdbBlockInfo.timestamp).getD 0

/-- `get_block_cumulative_difficulty` -/
def getBlockCumulativeDifficulty (h : ℕ) : UInt64 :=
  ((db.blockInfo[h]?).map MdbBlockInfo.diff).getD 0

/-- `get_block_already_generated_coins` -/
def getBlockAlreadyGeneratedCoins (h : ℕ) : UInt64 :=
  ((db.blockInfo[h]?).map MdbBlockInfo.coins).getD 0

/-- `get_block_size` -/
def getBlockSize (h : ℕ) : UInt64 :=
  ((db.blockInfo[h]?).map MdbBlockInfo.size).getD 0

/-- `top_block_hash`: the hash of the top block, `null_hash` for the empty
store. -/
def topBlockHash : Hash :=
  (db.chain.getLast?.map fun e => e.info.hash).getD nullHash

/-- `get_block_height`: the height of the block with hash `h`, if stored. -/
def getBlockHeight (h : Hash) : Option ℕ :=
  db.chain.findIdx? fun e => e.info.hash = h

/-- `block_exists` -/
def blockExists (h : Hash) : Bool := (db.getBlockHeight h).isSome

/-- `get_block_hash_from_height` -/
def getBlockHashFromHeight (h : ℕ) : Hash :=
  ((db.blockInfo[h]?).map MdbBlockInfo.hash).getD nullHash

/-- `tx_exists` -/
def txExists (h : Hash) : Bool := db.txIndices.any fun t => t.key = h

/-- `has_key_image` -/
def hasKeyImage (k : KeyImage) : Bool := k ∈ db.spentKeys

/-- `get_tx_count`: the number of rows of `m_txs`. -/
def getTxCount : ℕ := db.txs.length

/-- `num_outputs`: the number of rows of `m_output_txs`. -/
def numOutputs : ℕ := db.outputTxs.length

/-- `get_tx(h, tx)`: the stored transaction with hash `h`. -/
def findTx (h : Hash) : Option Transaction := do
  let t ← db.txIndices.find? fun t => t.key = h
  let e ← db.txs.find? fun e => e.1 = t.txId
  pure e.2

/-- `get_tx(h)`, the overload that throws when the transaction is not stored. -/
def getTx (h : Hash) : Except DbError Transaction :=
  match db.findTx h with
  | some tx => pure tx
  | none => throw (.txDne ("tx with hash " ++ h.toHex ++ " not found in db"))

/-- `get_tx_amount_output_indices`: the stored array, empty when absent. -/
def getTxAmountOutputIndices (txId : ℕ) : List ℕ :=
  ((db.txOutputs.find? fun e => e.1 = txId).map Prod.snd).getD []

/-- The number of rows of `m_output_amounts` for one amount, the next
`amount_index` of that amount. -/
def numOutputsOfAmount (amount : UInt64) : ℕ :=
  db.outputAmounts.countP fun o => o.amount = amount

/-- `mdb_strerror(MDB_NOTFOUND)`, the text the store appends to a failed lookup. -/
def mdbNotFound : String := "MDB_NOTFOUND: No matching key/data pair found"

/-- `get_block_from_height` -/
def getBlockFromHeight (h : ℕ) : Except DbError Block :=
  match db.chain[h]? with
  | some e => pure e.block
  | none => throw (.blockDne ("Attempt to get block from height " ++ toString h ++
      " failed -- block not in db"))

/-- `get_top_block`: the top block, or a value-initialised block when the store
is empty. -/
def getTopBlock : Block := (db.chain.getLast?.map ChainEntry.block).getD default

/-- `get_hard_fork_version` -/
def getHardForkVersion (h : ℕ) : Except DbError UInt8 :=
  match db.hfVersions.find? fun e => e.1 = h with
  | some e => pure e.2
  | none => throw (.dbError ("Error attempting to retrieve a hard fork version at height " ++
      toString h ++ " from the db: " ++ mdbNotFound))

/-- `set_hard_fork_version`: record the version of a height, overwriting an
earlier record. -/
def setHardForkVersion (h : ℕ) (v : UInt8) : BlockchainDB :=
  { db with hfVersions := db.hfVersions.filter (fun e => e.1 ≠ h) ++ [(h, v)] }

end BlockchainDB

end Ombre
