import Ombre.Pool.TxPool
import Ombre.Core.Reward
import Ombre.Core.TimestampWindow
import Ombre.DB.HardFork

/-!
# Adding a block to the main chain

`Blockchain` of `blockchain.cpp`: the store, the hard-fork tracker, the pool,
the alternative blocks and the checkpoints, with the two operations that move
the main chain by one block. `handle_block_to_main_chain` checks a block on top
of the chain, takes its transactions out of the pool and hands everything to
`BlockchainDB::add_block`; on every failure it puts the transactions it took
back into the pool. `pop_block_from_blockchain` removes the top block and puts
its transactions back into the pool.

What the node computes with cryptography or in floating point (hashes, the
proof-of-work hash, the ring-signature checks of `check_tx_inputs`, the key
derivations of the coinbase check, the fee rule, the Poisson test of a reorg)
is a field of `Node`; every result proved about these functions holds for every
`Node`. The checks are pure reads of the state, so their order among
themselves does not matter; their order against the writes is the source's.
-/

namespace Ombre

/-! ## Networks and fork features -/

/-- `network_type`, without `FAKECHAIN`, for which `get_fork_v` asserts. -/
inductive NetworkType where
  | mainnet
  | testnet
  | stagenet
deriving DecidableEq, Inhabited

/-- `hard_fork_feature` -/
inductive HardForkFeature where
  | powCnHeavy
  | powCnGpu
  | devFundV2
  | devFundV3
  | fixedFee
  | diffV2
  | ringsizeInc
  | ringsizeIncReq
  | bulletproofs
  | bulletproofsReq
  | strictTxSemantics
  | uniformIds
  | uniformIdsReq
deriving DecidableEq, Inhabited

/-- `hardfork_conf::FORK_ID_DISABLED` -/
def forkIdDisabled : UInt8 := 0xff

/-- The row of `FORK_CONFIG` for a feature: the version enabling it on
mainnet, testnet and stagenet. -/
def forkConfig : HardForkFeature → UInt8 × UInt8 × UInt8
  | .diffV2 => (2, 2, 1)
  | .powCnHeavy => (3, 3, 1)
  | .devFundV2 => (4, 4, 1)
  | _ => (forkIdDisabled, forkIdDisabled, 1)

/-- `get_fork_v` -/
def getForkV (nt : NetworkType) (ft : HardForkFeature) : UInt8 :=
  match nt with
  | .mainnet => (forkConfig ft).1
  | .testnet => (forkConfig ft).2.1
  | .stagenet => (forkConfig ft).2.2

/-- `Blockchain::check_hard_fork_feature` at the version in force `version`. -/
def checkHardForkFeature (nt : NetworkType) (version : UInt8) (ft : HardForkFeature) : Bool :=
  getForkV nt ft ≠ forkIdDisabled && version ≥ getForkV nt ft

/-! ## What the node computes outside the model -/

/-- The computations of the node that the model takes as given. -/
structure Node where
  p : Primitives
  nettype : NetworkType
  emission : Emission
  /-- the size of the blob of a transaction (`get_object_blobsize`) -/
  blobSize : Transaction → UInt64
  /-- `get_block_longhash`, the proof-of-work hash -/
  getBlockLonghash : Block → Hash
  /-- `crypto::check_key` -/
  checkKey : PublicKey → Bool
  /-- `Blockchain::check_tx_inputs` against the store, at the version in force -/
  checkTxInputs : BlockchainDB → UInt8 → Transaction → Bool
  /-- `Blockchain::check_fee(tx, blob_size, fee)` -/
  checkFee : BlockchainDB → Transaction → UInt64 → UInt64 → Bool
  /-- The dev-fund key of each output index of a coinbase, derived from the
  transaction public key of its extra: `none` when the key is missing or
  `generate_key_derivation` fails; `none` at an index where
  `derive_public_key` fails. -/
  devOutputKeys : Transaction → Option (ℕ → Option PublicKey)
  /-- `calc_poisson_ln(delta_t / DIFFICULTY_TARGET, k) < POISSON_LOG_P_REJECT` -/
  poissonReject : UInt64 → ℕ → Bool

/-! ## Checks of transactions and of the coinbase -/

/-- `Blockchain::check_tx_outputs`: every amount is 0, every key is a valid
point, and bulletproofs are present exactly for the bulletproof type and
allowed, or required, by the fork in force. -/
def checkTxOutputs (n : Node) (version : UInt8) (tx : Transaction) : Bool :=
  let hasBulletproofs := tx.rctSignatures.type = rctTypeBulletproof
  if tx.vout.any fun o => o.amount ≠ 0 then false
  else if tx.vout.any (fun o => match o.target with
      | .toKey t => !n.checkKey t.key
      | _ => false) then false
  else if (hasBulletproofs && tx.rctSignatures.p.bulletproofs.isEmpty) ||
      (!hasBulletproofs && !tx.rctSignatures.p.bulletproofs.isEmpty) then false
  else if hasBulletproofs && !checkHardForkFeature n.nettype version .bulletproofs then false
  else if !hasBulletproofs && checkHardForkFeature n.nettype version .bulletproofsReq then false
  else true

/-- `check_outs_overflow`: the running sum of the output amounts never wraps. -/
def checkOutsOverflow (tx : Transaction) : Bool :=
  (tx.vout.foldl (fun (acc : Option UInt64) o => acc.bind fun money =>
    if money > o.amount + money then none else some (money + o.amount)) (some 0)).isSome

/-- `Blockchain::prevalidate_miner_transaction`: a single `txin_gen` naming the
height, no ringct data, the unlock time of mined money, no overflow. -/
def prevalidateMinerTransaction (b : Block) (height : ℕ) : Bool :=
  match b.minerTx.vin with
  | [.gen g] =>
    b.minerTx.rctSignatures.type = rctTypeNull && g.height = height.toUInt64 &&
      b.minerTx.unlockTime = height.toUInt64 + cryptonoteMinedMoneyUnlockWindow &&
      checkOutsOverflow b.minerTx
  | _ => false

/-- The output loop of `validate_miner_transaction_v2`: the money paid to the
dev fund (outputs to the derived dev key) and to the miner; `none` at an index
whose key cannot be derived, an output not to a key, or an amount of 0. -/
def minerOutputsMoney (devKey : ℕ → Option PublicKey) :
    List (TxOut × ℕ) → UInt64 × UInt64 → Option (UInt64 × UInt64)
  | [], acc => some acc
  | (o, i) :: rest, (minerMoney, devMoney) =>
    match devKey i, o.target with
    | some pk, .toKey t =>
      if o.amount = 0 then none
      else if t.key = pk then minerOutputsMoney devKey rest (minerMoney, devMoney + o.amount)
      else minerOutputsMoney devKey rest (minerMoney + o.amount, devMoney)
    | _, _ => none

/-- `get_last_n_blocks_sizes`: the sizes of the last `count` stored blocks. -/
def getLastNBlocksSizes (db : BlockchainDB) (count : ℕ) : List UInt64 :=
  Window.readRange db.getBlockSize (db.height - min db.height count) db.height

/-- `validate_miner_transaction_v2`: the coinbase of a block of
`cumulativeBlockSize` bytes paying `fee` in fees claims at most the reward,
and pays the dev fund its due. Returns the coins the block generates,
`miner_money - fee`, and whether it claims less than the full reward. -/
def validateMinerTransactionV2 (n : Node) (db : BlockchainDB) (version : UInt8) (b : Block)
    (height : ℕ) (cumulativeBlockSize fee alreadyGeneratedCoins : UInt64) : Option (UInt64 × Bool) := do
  let devKey ← n.devOutputKeys b.minerTx
  let (minerMoney, devMoney) ← minerOutputsMoney devKey b.minerTx.vout.zipIdx (0, 0)
  let baseReward ← getBlockReward n.emission (median (getLastNBlocksSizes db cryptonoteRewardBlocksWindow))
    cumulativeBlockSize alreadyGeneratedCoins height.toUInt64
  if baseReward + fee < minerMoney then none
  let devMoneyNeeded :=
    if checkHardForkFeature n.nettype version .devFundV2 then
      n.emission.devFundAmountV1 baseReward alreadyGeneratedCoins
    else n.emission.devFundAmountV0 baseReward alreadyGeneratedCoins
  if devMoney < devMoneyNeeded then none
  -- base reward calculation bug
  if ¬ minerMoney - fee ≤ baseReward then none
  some (minerMoney - fee, baseReward + fee ≠ minerMoney)

/-! ## The state -/

/-- `block_verification_context` -/
structure BlockVerificationContext where
  addedToMainChain : Bool
  verificationFailed : Bool
  markedAsOrphaned : Bool
  alreadyExists : Bool
  partialBlockReward : Bool
deriving DecidableEq, Inhabited

/-- `checkpoints::is_in_checkpoint_zone`: at or below the highest checkpoint. -/
def isInCheckpointZone (points : List (ℕ × Hash)) (height : ℕ) : Bool :=
  match (points.map Prod.fst).max? with
  | none => false
  | some top => height ≤ top

/-- `checkpoints::check_block`: whether the block passes, and whether its
height has a checkpoint. -/
def checkCheckpoint (points : List (ℕ × Hash)) (height : ℕ) (h : Hash) : Bool × Bool :=
  match points.find? fun c => c.1 = height with
  | none => (true, false)
  | some c => (c.2 = h, true)

/-- `checkpoints::is_alternative_block_allowed`: a fork may not reach below
the last checkpoint at or under the chain height. -/
def isAlternativeBlockAllowed (points : List (ℕ × Hash)) (blockchainHeight blockHeight : ℕ) : Bool :=
  if blockHeight = 0 then false
  else match ((points.filter fun c => c.1 ≤ blockchainHeight).map Prod.fst).max? with
    | none => true
    | some checkpointHeight => checkpointHeight < blockHeight

/-- The state of `Blockchain`. `alternativeChains` is `m_alternative_chains`
by block hash; `invalidBlocks` the keys of `m_invalid_blocks`. -/
structure Blockchain where
  db : BlockchainDB
  hardfork : HardFork
  pool : TxPool
  alternativeChains : List (Hash × BlockExtendedInfo)
  invalidBlocks : List Hash
  checkpoints : List (ℕ × Hash)

namespace Blockchain

/-- `DEFAULT_TXPOOL_MAX_SIZE` -/
def defaultTxpoolMaxSize : UInt64 := 648000000

/-- The node before its first block: an empty store and pool, the hard-fork
tracker of its network and its checkpoints. -/
def initial (hardfork : HardFork) (checkpoints : List (ℕ × Hash)) : Blockchain :=
  { db := .empty, hardfork, pool := ⟨[], [], [], [], defaultTxpoolMaxSize, 0⟩,
    alternativeChains := [], invalidBlocks := [], checkpoints }

variable (n : Node)

/-- `get_tail_id` -/
def getTailId (bc : Blockchain) : Hash := bc.db.topBlockHash

/-- `get_current_version_num` of the tracker. -/
def version (bc : Blockchain) : UInt8 := bc.hardfork.getCurrentVersionNum

/-- The checks `add_tx` makes against the current chain. -/
def poolChecks (bc : Blockchain) : PoolChecks :=
  ⟨n.checkFee bc.db, checkTxOutputs n bc.version, n.checkTxInputs bc.db bc.version⟩

/-- `have_block`: stored, alternative or known invalid. -/
def haveBlock (bc : Blockchain) (id : Hash) : Bool :=
  bc.db.blockExists id || (bc.alternativeChains.any fun e => e.1 = id) || id ∈ bc.invalidBlocks

/-- `add_block_as_invalid`: a hash already marked is not marked twice. -/
def addBlockAsInvalid (bc : Blockchain) (id : Hash) : Blockchain :=
  if id ∈ bc.invalidBlocks then bc else { bc with invalidBlocks := bc.invalidBlocks ++ [id] }

/-- `return_tx_to_pool`: `add_tx` of each transaction as kept by a block; a
transaction the pool refuses is dropped. -/
def returnTxToPool (now : UInt64) (txs : List Transaction) (bc : Blockchain) : Blockchain :=
  txs.foldl (fun bc tx =>
    { bc with pool := (bc.pool.addTxOf n.p n.blobSize (bc.poolChecks n) tx true now).2 }) bc

/-! ## `handle_block_to_main_chain` -/

/-- The accumulators of the loop over the block's transactions: the
transactions taken so far, `fee_summary` and `cumulative_block_size`. -/
structure TxLoop where
  txs : List Transaction
  feeSummary : UInt64
  cumulativeBlockSize : UInt64

/-- How the loop over the block's transactions ends: every transaction taken
and checked, or a failure, with the transactions taken so far (the failing one
included once taken) and whether the block is to be marked invalid. -/
inductive TxLoopResult where
  | ok (acc : TxLoop)
  | fail (acc : TxLoop) (invalid : Bool)

/-- The transactions taken, however the loop ends. -/
def TxLoopResult.txs : TxLoopResult → List Transaction
  | .ok acc => acc.txs
  | .fail acc _ => acc.txs

/-- The loop of `handle_block_to_main_chain` over `tx_hashes`: refuse a
transaction already stored or missing from the pool, take it, and check its
inputs. -/
def takeBlockTxs (db : BlockchainDB) (version : UInt8) :
    List Hash → TxLoop → TxPool → TxLoopResult × TxPool
  | [], acc, pool => (.ok acc, pool)
  | txId :: rest, acc, pool =>
    if db.txExists txId then (.fail acc false, pool)
    else match pool.takeTx n.p txId with
      | (none, pool) => (.fail acc false, pool)
      | (some (tx, txMeta), pool) =>
        -- the transaction is kept before it is checked
        let acc := { acc with txs := acc.txs ++ [tx] }
        if !n.checkTxInputs db version tx then (.fail acc true, pool)
        else takeBlockTxs db version rest
          { acc with feeSummary := acc.feeSummary + txMeta.fee,
                     cumulativeBlockSize := acc.cumulativeBlockSize + txMeta.blobSize } pool

/-- The coins generated up to the top block, `0` on an empty chain. -/
def alreadyGeneratedCoins (db : BlockchainDB) : UInt64 :=
  if db.height ≠ 0 then db.getBlockAlreadyGeneratedCoins (db.height - 1) else 0

/-- The coins generated up to a new block whose coinbase generates
`baseReward`: the sum, saturated at `MONEY_SUPPLY`. -/
def nextAlreadyGeneratedCoins (g baseReward : UInt64) : UInt64 :=
  if baseReward < moneySupply - g then g + baseReward else moneySupply

/-- The cumulative difficulty of a new top block checked against
`currentDiffic`: added to the top block's, if any. -/
def nextCumulativeDifficulty (db : BlockchainDB) (currentDiffic : UInt64) : UInt64 :=
  if db.height ≠ 0 then currentDiffic + db.getBlockCumulativeDifficulty (db.height - 1) else currentDiffic

/-- The end of `handle_block_to_main_chain` once the transactions are taken:
the coinbase check, then `add_block` with the block's size, cumulative
difficulty and generated coins. Every failure puts `txs` back into the pool. -/
def addTakenBlock (now : UInt64) (bl : Block) (currentDiffic : UInt64) (acc : TxLoop)
    (bvc : BlockVerificationContext) (bc : Blockchain) :
    Bool × BlockVerificationContext × Blockchain :=
  let g := alreadyGeneratedCoins bc.db
  match validateMinerTransactionV2 n bc.db bc.version bl bc.db.height acc.cumulativeBlockSize
      acc.feeSummary g with
  | none => (false, { bvc with verificationFailed := true }, bc.returnTxToPool n now acc.txs)
  | some (baseReward, partialReward) =>
    let bvc := { bvc with partialBlockReward := partialReward }
    let coins := nextAlreadyGeneratedCoins g baseReward
    -- a context failed on entry skips `add_block` and still reports success
    if bvc.verificationFailed then (true, { bvc with addedToMainChain := true }, bc)
    else match bc.db.addBlock n.p bc.hardfork bl acc.cumulativeBlockSize
        (nextCumulativeDifficulty bc.db currentDiffic) coins acc.txs with
    | .error (.keyImageExists _) =>
      (false, { bvc with verificationFailed := true }, bc.returnTxToPool n now acc.txs)
    | .error _ => (false, bvc, bc.returnTxToPool n now acc.txs)
    | .ok (db, hardfork, _) =>
      (true, { bvc with addedToMainChain := true }, { bc with db, hardfork })

/-- The part of `handle_block_to_main_chain` after the checks of the block
itself: take its transactions from the pool, then add it. A failure of the loop
puts back what it took, after marking the block invalid for a transaction
whose inputs fail. -/
def takeAndAddBlock (now : UInt64) (bl : Block) (id : Hash) (currentDiffic : UInt64)
    (bvc : BlockVerificationContext) (bc : Blockchain) : Bool × BlockVerificationContext × Blockchain :=
  match takeBlockTxs n bc.db bc.version bl.txHashes ⟨[], 0, n.blobSize bl.minerTx⟩ bc.pool with
  | (.fail acc invalid, pool) =>
    let bc := { bc with pool }
    let bc := if invalid then bc.addBlockAsInvalid id else bc
    (false, { bvc with verificationFailed := true }, bc.returnTxToPool n now acc.txs)
  | (.ok acc, pool) => addTakenBlock n now bl currentDiffic acc bvc { bc with pool }

/-- `Blockchain::handle_block_to_main_chain(bl, id, bvc)` at local time `now`:
the parent, the fork version, the timestamp, the proof of work, the
checkpoint and the coinbase are checked before any transaction is taken. -/
def handleBlockToMainChain (now : UInt64) (bl : Block) (id : Hash) (bvc : BlockVerificationContext)
    (bc : Blockchain) : Bool × BlockVerificationContext × Blockchain :=
  let failed := { bvc with verificationFailed := true }
  let height := bc.db.height
  if bl.prevId ≠ bc.getTailId then (false, bvc, bc)
  else if !bc.hardfork.check bl then (false, failed, bc)
  else if !checkBlockTimestamp bc.db now (checkHardForkFeature n.nettype bc.version .diffV2) bl then
    (false, failed, bc)
  else
    let currentDiffic := getDifficultyForNextBlock bc.db
    -- difficulty overhead
    if currentDiffic = 0 then (false, bvc, bc)
    else if !checkHash (n.getBlockLonghash bl) currentDiffic then (false, failed, bc)
    else if isInCheckpointZone bc.checkpoints height && !(checkCheckpoint bc.checkpoints height id).1 then
      (false, failed, bc)
    else if !prevalidateMinerTransaction bl height then (false, failed, bc)
    else takeAndAddBlock n now bl id currentDiffic bvc bc

/-! ## `pop_block_from_blockchain` -/

/-- `pop_block_from_blockchain`: pop the top block and return its transactions
to the pool, as kept by a block. An exception of `pop_block` is rethrown,
with the store left as it was. -/
def popBlockFromBlockchain (now : UInt64) (bc : Blockchain) : EStateM.Result DbError Blockchain Block :=
  match bc.db.popBlock n.p with
  | .error e => .error e bc
  | .ok (db, blk, txs) =>
    .ok blk (({ bc with db } : Blockchain).returnTxToPool n now (txs.filter fun tx => !tx.isCoinbase))

end Blockchain

end Ombre
