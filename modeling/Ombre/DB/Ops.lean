import Ombre.DB.HardFork
import Ombre.Lib.Except

/-!
# Adding and popping blocks

The write side of the store: `BlockchainDB::add_block`, `add_transaction`,
`pop_block` and `remove_transaction` of `blockchain_db.cpp`, over the table
operations of `BlockchainLMDB` (`add_spent_key`, `add_transaction_data`,
`add_output`, `remove_block`, `remove_tx_outputs`, ...).

`BlockchainLMDB::add_block` and `pop_block` run the generic operation inside a
write transaction and abort it on any exception, so a store that throws is left
as it was. In the model an operation returns the new store only on success;
the caller keeps the old one on an error.

Two paths of `add_transaction` do not throw but return early: an input that is
neither `txin_to_key` nor `txin_gen`, and a non-coinbase output with a nonzero
amount. Both remove the key images of the transaction's `txin_to_key` inputs
and leave the rest of the block to be added.
-/

namespace Ombre

/-- The hashing and commitment primitives the store calls: `get_block_hash`,
`get_transaction_hash` and `rct::zeroCommit`. -/
structure Primitives where
  getBlockHash : Block → Hash
  getTransactionHash : Transaction → Hash
  zeroCommit : UInt64 → RctKey

namespace BlockchainDB

/-! ## Tables -/

/-- `add_spent_key`: `MDB_NODUPDATA` refuses a key image already present. -/
def addSpentKey (kImage : KeyImage) (db : BlockchainDB) : Except DbError BlockchainDB :=
  if kImage ∈ db.spentKeys then
    throw (.keyImageExists "Attempting to add spent key image that's already in the db")
  else pure { db with spentKeys := db.spentKeys ++ [kImage] }

/-- `remove_spent_key`: a missing key image is ignored. -/
def removeSpentKey (kImage : KeyImage) (db : BlockchainDB) : BlockchainDB :=
  { db with spentKeys := db.spentKeys.erase kImage }

/-- `remove_spent_key` for each key image, in order. -/
def removeSpentKeys (kImages : List KeyImage) (db : BlockchainDB) : BlockchainDB :=
  kImages.foldl (fun db k => db.removeSpentKey k) db

theorem removeSpentKeys_eq (kImages : List KeyImage) (db : BlockchainDB) :
    db.removeSpentKeys kImages = { db with spentKeys := db.spentKeys.diff kImages } := by
  induction kImages generalizing db with
  | nil => rfl
  | cons k ks ih =>
    simp only [removeSpentKeys, List.foldl_cons] at ih ⊢
    rw [ih]
    simp [removeSpentKey]

/-- `add_transaction_data`: the index row and the blob of a transaction, under
the next `tx_id`. -/
def addTransactionData (tx : Transaction) (txHash : Hash) (db : BlockchainDB) :
    Except DbError (BlockchainDB × ℕ) :=
  let txId := db.getTxCount
  match db.txIndices.find? fun t => t.key = txHash with
  | some tip => throw (.txExists ("Attempting to add transaction that's already in the db (tx id " ++
      toString tip.txId ++ ")"))
  | none =>
    pure ({ db with
      txIndices := db.txIndices ++ [⟨txHash, txId, tx.unlockTime, db.height⟩]
      txs := db.txs ++ [(txId, tx)] }, txId)

/-- `add_output`: a ringct output (amount 0, to a key) under the next global
output index; returns its `amount_index`. -/
def addOutput (txHash : Hash) (txOutput : TxOut) (localIndex : ℕ) (unlockTime : UInt64)
    (commitment : RctKey) (db : BlockchainDB) : Except DbError (BlockchainDB × ℕ) :=
  if txOutput.amount ≠ 0 then throw (.dbError "RCT-non output")
  else match txOutput.target with
  | .toKey t =>
    let amountIndex := db.numOutputsOfAmount txOutput.amount
    pure ({ db with
      outputTxs := db.outputTxs ++ [⟨db.numOutputs, txHash, localIndex⟩]
      outputAmounts := db.outputAmounts ++
        [⟨txOutput.amount, amountIndex, db.numOutputs, t.key, unlockTime, db.height, commitment⟩] },
      amountIndex)
  | _ => throw (.dbError "Wrong output type: expected txout_to_key")

/-- `add_tx_amount_output_indices` -/
def addTxAmountOutputIndices (txId : ℕ) (amountOutputIndices : List ℕ) (db : BlockchainDB) :
    BlockchainDB :=
  { db with txOutputs := db.txOutputs ++ [(txId, amountOutputIndices)] }

/-- `BlockchainLMDB::add_block(blk, size, diff, coins, blk_hash)`: the block
blob, its info row and its height-by-hash row. The parent must be the top
block. -/
def addBlockEntry (blk : Block) (blockSize : UInt64) (cumulativeDifficulty : UInt64)
    (coinsGenerated : UInt64) (blkHash : Hash) (db : BlockchainDB) : Except DbError BlockchainDB :=
  let entry : ChainEntry :=
    ⟨blk, ⟨blk.timestamp, coinsGenerated, blockSize, cumulativeDifficulty, blkHash⟩⟩
  if db.blockExists blkHash then
    throw (.blockExists "Attempting to add block that's already in the db")
  else if db.height = 0 then pure { db with chain := db.chain ++ [entry] }
  else match db.getBlockHeight blk.prevId with
    | none => throw (.dbError ("Failed to get top block hash to check for new block's parent: " ++
        mdbNotFound))
    | some h =>
      if h ≠ db.height - 1 then throw (.blockParentDne "Top block is not new block's parent")
      else pure { db with chain := db.chain ++ [entry] }

/-- `remove_block`: the top block's rows. -/
def removeBlock (db : BlockchainDB) : Except DbError BlockchainDB :=
  if db.height = 0 then throw (.blockDne "Attempting to remove block from an empty blockchain")
  else pure { db with chain := db.chain.dropLast }

/-- `remove_output`: the rows of the output with `amount_index` `outIndex` of
`amount`, in `m_output_amounts` and in `m_output_txs`. -/
def removeOutput (amount : UInt64) (outIndex : ℕ) (db : BlockchainDB) :
    Except DbError BlockchainDB :=
  match db.outputAmounts.find? fun o => o.amount = amount ∧ o.amountIndex = outIndex with
  | none => throw (.outputDne
      "Attempting to get an output index by amount and amount index, but amount not found")
  | some ok =>
    match db.outputTxs.find? fun o => o.outputId = ok.outputId with
    | none => throw (.dbError "Unexpected: global output index not found in m_output_txs")
    | some ot => pure { db with outputTxs := db.outputTxs.erase ot, outputAmounts := db.outputAmounts.erase ok }

/-- `is_pseudo_rct` of `remove_tx_outputs`: a coinbase of version 2 or more,
whose outputs are stored as ringct outputs of amount 0. -/
def isPseudoRct (tx : Transaction) : Bool :=
  tx.version ≥ 2 && match tx.vin with
    | [TxinV.gen _] => true
    | _ => false

/-- `remove_tx_outputs`: remove the outputs of a transaction, last first. An
index past the stored array reads as 0. -/
def removeTxOutputs (txId : ℕ) (tx : Transaction) (db : BlockchainDB) :
    Except DbError BlockchainDB :=
  let amountOutputIndices := db.getTxAmountOutputIndices txId
  if amountOutputIndices.isEmpty && !tx.vout.isEmpty then
    throw (.dbError "tx has outputs, but no output indices found")
  else
    (List.range tx.vout.length).reverse.foldlM
      (fun db i =>
        let amount := if isPseudoRct tx then 0 else (tx.vout.getD i default).amount
        db.removeOutput amount (amountOutputIndices.getD i 0))
      db

/-- `remove_transaction_data`: the blob, the outputs, the output index array
and last the index row of a transaction. -/
def removeTransactionData (txHash : Hash) (tx : Transaction) (db : BlockchainDB) :
    Except DbError BlockchainDB :=
  match db.txIndices.find? fun t => t.key = txHash with
  | none => throw (.txDne "Attempting to remove transaction that isn't in the db")
  | some tip =>
    match db.txs.find? fun e => e.1 = tip.txId with
    | none => throw (.dbError ("Failed to locate tx for removal: " ++ mdbNotFound))
    | some e => do
      let db ← { db with txs := db.txs.erase e }.removeTxOutputs tip.txId tx
      -- a missing output index array is only logged
      let txOutputs := match db.txOutputs.find? fun o => o.1 = tip.txId with
        | some o => db.txOutputs.erase o
        | none => db.txOutputs
      pure { db with txOutputs, txIndices := db.txIndices.erase tip }

/-! ## Transactions and blocks -/

/-- The input loop of `add_transaction`: add the key image of each
`txin_to_key`, note a `txin_gen`, and stop at any other input. Returns the
store and, unless it stopped, whether the transaction is a coinbase. -/
def addInputs : List TxinV → Bool → BlockchainDB → Except DbError (BlockchainDB × Option Bool)
  | [], minerTx, db => pure (db, some minerTx)
  | .toKey i :: rest, minerTx, db => do addInputs rest minerTx (← db.addSpentKey i.kImage)
  | .gen _ :: rest, _, db => addInputs rest true db
  | _ :: _, _, db => pure (db, none)

/-- The output loop of `add_transaction`. A coinbase stores its outputs only
at version 2, as ringct outputs of amount 0 committed by `zeroCommit`; any
other transaction stores each output with its `outPk` mask, and stops at an
output with a nonzero amount. Returns the store and, unless it stopped, the
`amount_index` of each stored output. -/
def addOutputs (p : Primitives) (tx : Transaction) (txHash : Hash) (minerTx : Bool) :
    List (TxOut × ℕ) → List ℕ → BlockchainDB → Except DbError (BlockchainDB × Option (List ℕ))
  | [], indices, db => pure (db, some indices)
  | (o, i) :: rest, indices, db =>
    if minerTx then
      if tx.version ≠ 2 then addOutputs p tx txHash minerTx rest indices db
      else do
        let (db, idx) ← db.addOutput txHash { o with amount := 0 } i tx.unlockTime (p.zeroCommit o.amount)
        addOutputs p tx txHash minerTx rest (indices ++ [idx]) db
    else if o.amount ≠ 0 then pure (db, none)
    else do
      let mask := ((tx.rctSignatures.outPk[i]?).map CtKey.mask).getD default
      let (db, idx) ← db.addOutput txHash o i tx.unlockTime mask
      addOutputs p tx txHash minerTx rest (indices ++ [idx]) db

/-- `BlockchainDB::add_transaction`: the key images, the transaction, its
outputs and its output index array. `txHashPtr` is the hash the caller passes,
`none` for the coinbase, whose hash is computed. -/
def addTransaction (p : Primitives) (tx : Transaction) (txHashPtr : Option Hash)
    (db : BlockchainDB) : Except DbError BlockchainDB := do
  let txHash := txHashPtr.getD (p.getTransactionHash tx)
  match ← addInputs tx.vin false db with
  | (db, none) => pure (db.removeSpentKeys tx.keyImages)
  | (db, some minerTx) =>
    let (db, txId) ← db.addTransactionData tx txHash
    match ← addOutputs p tx txHash minerTx tx.vout.zipIdx [] db with
    | (db, none) => pure (db.removeSpentKeys tx.keyImages)
    | (db, some indices) => pure (db.addTxAmountOutputIndices txId indices)

/-- `BlockchainDB::add_block`: the coinbase, the transactions under the hashes
the block lists, the block's rows, and the hard-fork tracker's record of the
block. Returns the height below the block. -/
def addBlock (p : Primitives) (hf : HardFork) (blk : Block) (blockSize : UInt64)
    (cumulativeDifficulty coinsGenerated : UInt64) (txs : List Transaction) (db : BlockchainDB) :
    Except DbError (BlockchainDB × HardFork × ℕ) := do
  if blk.txHashes.length ≠ txs.length then throw (.runtimeError "Inconsistent tx/hashes sizes")
  let blkHash := p.getBlockHash blk
  let prevHeight := db.height
  let db ← db.addTransaction p blk.minerTx none
  let db ← (txs.zip blk.txHashes).foldlM (fun db th => db.addTransaction p th.1 (some th.2)) db
  let db ← db.addBlockEntry blk blockSize cumulativeDifficulty coinsGenerated blkHash
  let (_, hf, db) := hf.add db blk prevHeight
  pure (db, hf, prevHeight)

/-- `BlockchainDB::remove_transaction`: the key images, then the rest. -/
def removeTransaction (txHash : Hash) (db : BlockchainDB) : Except DbError BlockchainDB := do
  let tx ← db.getTx txHash
  (db.removeSpentKeys tx.keyImages).removeTransactionData txHash tx

/-- One turn of the loop of `pop_block`: read the transaction with hash `h`,
then remove it. -/
def popTransaction (acc : BlockchainDB × List Transaction) (h : Hash) :
    Except DbError (BlockchainDB × List Transaction) := do
  let tx ← acc.1.getTx h
  let db ← acc.1.removeTransaction h
  pure (db, acc.2 ++ [tx])

/-- `BlockchainDB::pop_block`: remove the top block, then its transactions in
reverse order, then its coinbase. Returns the block and the transactions. -/
def popBlock (p : Primitives) (db : BlockchainDB) :
    Except DbError (BlockchainDB × Block × List Transaction) := do
  let blk := db.getTopBlock
  let db ← db.removeBlock
  let (db, txs) ← blk.txHashes.reverse.foldlM popTransaction (db, [])
  let db ← db.removeTransaction (p.getTransactionHash blk.minerTx)
  pure (db, blk, txs)

/-! ## Frames

The bookkeeping of outputs and of hard-fork versions leaves alone the tables a
block's transactions are read back from.
-/

/-- `db'` agrees with `db` on the chain, the transactions, their index rows,
their output index arrays and the spent key images. -/
structure LedgerFrame (db db' : BlockchainDB) : Prop where
  chain : db'.chain = db.chain
  txs : db'.txs = db.txs
  txIndices : db'.txIndices = db.txIndices
  txOutputs : db'.txOutputs = db.txOutputs
  spentKeys : db'.spentKeys = db.spentKeys

theorem LedgerFrame.refl (db : BlockchainDB) : LedgerFrame db db := ⟨rfl, rfl, rfl, rfl, rfl⟩

theorem LedgerFrame.trans {db db' db'' : BlockchainDB} (h₁ : LedgerFrame db db')
    (h₂ : LedgerFrame db' db'') : LedgerFrame db db'' :=
  ⟨h₂.chain.trans h₁.chain, h₂.txs.trans h₁.txs, h₂.txIndices.trans h₁.txIndices,
    h₂.txOutputs.trans h₁.txOutputs, h₂.spentKeys.trans h₁.spentKeys⟩

variable {db db' : BlockchainDB}

theorem addOutput_frame {txHash : Hash} {o : TxOut} {i : ℕ} {u : UInt64} {c : RctKey} {idx : ℕ}
    (h : db.addOutput txHash o i u c = .ok (db', idx)) : LedgerFrame db db' := by
  unfold addOutput at h
  split at h
  · exact absurd h (Except.throw_ne_ok _ _)
  · split at h
    · simp only [Except.pure_ok_iff, Prod.mk.injEq] at h
      obtain ⟨rfl, -⟩ := h
      exact ⟨rfl, rfl, rfl, rfl, rfl⟩
    · exact absurd h (Except.throw_ne_ok _ _)

theorem addOutputs_frame (p : Primitives) (tx : Transaction) (txHash : Hash) (minerTx : Bool) :
    ∀ (outs : List (TxOut × ℕ)) (indices : List ℕ) (db db' : BlockchainDB) (r : Option (List ℕ)),
      addOutputs p tx txHash minerTx outs indices db = .ok (db', r) → LedgerFrame db db'
  | [], indices, db, db', r, h => by
    simp only [addOutputs, Except.pure_ok_iff, Prod.mk.injEq] at h
    exact h.1 ▸ LedgerFrame.refl db
  | (o, i) :: rest, indices, db, db', r, h => by
    simp only [addOutputs] at h
    split_ifs at h with hminer hversion hamount
    · exact addOutputs_frame p tx txHash minerTx rest indices db db' r h
    · obtain ⟨⟨db₁, idx⟩, hadd, hrest⟩ := (Except.bind_ok_iff' _ _ _).mp h
      exact (addOutput_frame hadd).trans (addOutputs_frame p tx txHash minerTx rest _ db₁ db' r hrest)
    · simp only [Except.pure_ok_iff, Prod.mk.injEq] at h
      exact h.1 ▸ LedgerFrame.refl db
    · obtain ⟨⟨db₁, idx⟩, hadd, hrest⟩ := (Except.bind_ok_iff' _ _ _).mp h
      exact (addOutput_frame hadd).trans (addOutputs_frame p tx txHash minerTx rest _ db₁ db' r hrest)

/-- The output loop stops early only for a transaction that is not a coinbase
and pays an output of nonzero amount. -/
theorem addOutputs_isSome (p : Primitives) (tx : Transaction) (txHash : Hash) (minerTx : Bool) :
    ∀ (outs : List (TxOut × ℕ)) (indices : List ℕ) (db db' : BlockchainDB) (r : Option (List ℕ)),
      (minerTx ∨ ∀ o ∈ outs, o.1.amount = 0) →
      addOutputs p tx txHash minerTx outs indices db = .ok (db', r) → r.isSome
  | [], indices, db, db', r, _, h => by
    simp only [addOutputs, Except.pure_ok_iff, Prod.mk.injEq] at h
    rw [← h.2]
    rfl
  | (o, i) :: rest, indices, db, db', r, hs, h => by
    have hs' : minerTx ∨ ∀ o ∈ rest, o.1.amount = 0 := by
      rcases hs with hm | hz
      · exact .inl hm
      · exact .inr fun o ho => hz o (List.mem_cons_of_mem _ ho)
    simp only [addOutputs] at h
    split_ifs at h with hminer hversion hamount
    · exact addOutputs_isSome p tx txHash minerTx rest indices db db' r hs' h
    · obtain ⟨⟨db₁, idx⟩, -, hrest⟩ := (Except.bind_ok_iff' _ _ _).mp h
      exact addOutputs_isSome p tx txHash minerTx rest _ db₁ db' r hs' hrest
    · rcases hs with hm | hz
      · simp [hm] at hminer
      · exact absurd (hz (o, i) List.mem_cons_self) hamount
    · obtain ⟨⟨db₁, idx⟩, -, hrest⟩ := (Except.bind_ok_iff' _ _ _).mp h
      exact addOutputs_isSome p tx txHash minerTx rest _ db₁ db' r hs' hrest

/-- A coinbase of a version other than 2 stores none of its outputs, and the
loop returns the indices it was given. -/
theorem addOutputs_of_version_ne (p : Primitives) (tx : Transaction) (txHash : Hash)
    (hv : tx.version ≠ 2) :
    ∀ (outs : List (TxOut × ℕ)) (indices : List ℕ) (db : BlockchainDB),
      addOutputs p tx txHash true outs indices db = pure (db, some indices)
  | [], _, _ => rfl
  | (o, i) :: rest, indices, db => by
    rw [addOutputs, if_pos rfl, if_pos hv]
    exact addOutputs_of_version_ne p tx txHash hv rest indices db

/-- `remove_tx_outputs` throws for a transaction with outputs whose output
index array is empty. -/
theorem removeTxOutputs_of_indices_nil {txId : ℕ} {tx : Transaction}
    (hidx : db.getTxAmountOutputIndices txId = []) (hout : tx.vout ≠ []) :
    db.removeTxOutputs txId tx = throw (.dbError "tx has outputs, but no output indices found") := by
  unfold removeTxOutputs
  rw [hidx, if_pos]
  simpa using hout

theorem removeOutput_frame {amount : UInt64} {outIndex : ℕ}
    (h : db.removeOutput amount outIndex = .ok db') : LedgerFrame db db' := by
  unfold removeOutput at h
  split at h
  · exact absurd h (Except.throw_ne_ok _ _)
  · split at h
    · exact absurd h (Except.throw_ne_ok _ _)
    · simp only [Except.pure_ok_iff] at h
      subst h
      exact ⟨rfl, rfl, rfl, rfl, rfl⟩

theorem removeTxOutputs_frame {txId : ℕ} {tx : Transaction}
    (h : db.removeTxOutputs txId tx = .ok db') : LedgerFrame db db' := by
  unfold removeTxOutputs at h
  dsimp only at h
  split at h
  · exact absurd h (Except.throw_ne_ok _ _)
  · exact Except.foldlM_invariant (LedgerFrame db) (fun _ _ _ hb hc => hb.trans (removeOutput_frame hc))
      _ db db' (LedgerFrame.refl db) h

theorem HardFork.add_frame (hf : HardFork) (db : BlockchainDB) (b : Block) (height : ℕ) :
    LedgerFrame db (hf.add db b height).2.2 := by
  unfold HardFork.add
  split
  · exact LedgerFrame.refl db
  · exact ⟨rfl, rfl, rfl, rfl, rfl⟩

/-- The replay loop of `reorganize_from_block_height` only writes the table of
fork versions. -/
theorem HardFork.addStoredBlocks_frame {hf hf' : HardFork} {lo hi : ℕ}
    (h : hf.addStoredBlocks db lo hi = .ok (hf', db')) : LedgerFrame db db' := by
  -- each block replayed through `add` keeps the frame
  refine Except.foldlM_invariant (fun acc => LedgerFrame db acc.2) (fun acc k c hacc hstep => ?_) _ _ _
    (LedgerFrame.refl db) h
  obtain ⟨b, -, hstep⟩ := (Except.bind_ok_iff' _ _ _).mp hstep
  simp only [Except.pure_ok_iff] at hstep
  rw [← hstep]
  exact hacc.trans (HardFork.add_frame acc.1 acc.2 b k)

/-- `reorganize_from_block_height` only writes the table of fork versions. -/
theorem HardFork.reorganizeFromBlockHeight_frame {hf hf' : HardFork} {height : ℕ} {r : Bool}
    (h : hf.reorganizeFromBlockHeight db height = .ok (r, hf', db')) : LedgerFrame db db' := by
  rcases hf.reorganizeFromBlockHeight_cases h with ⟨-, -, hdb⟩ | ⟨-, -, _, _, -, -, hloop⟩
  · exact hdb ▸ LedgerFrame.refl db
  · exact HardFork.addStoredBlocks_frame hloop

theorem HardFork.reorganizeFromChainHeight_frame {hf hf' : HardFork} {height : ℕ} {r : Bool}
    (h : hf.reorganizeFromChainHeight db height = .ok (r, hf', db')) : LedgerFrame db db' := by
  unfold HardFork.reorganizeFromChainHeight at h
  split at h
  · simp only [Except.pure_ok_iff, Prod.mk.injEq] at h
    obtain ⟨-, -, rfl⟩ := h
    exact LedgerFrame.refl db
  · exact HardFork.reorganizeFromBlockHeight_frame h

theorem addBlockEntry_ok {blk : Block} {bs cd cg : UInt64} {blkHash : Hash}
    (h : db.addBlockEntry blk bs cd cg blkHash = .ok db') :
    db' = { db with chain := db.chain ++ [⟨blk, ⟨blk.timestamp, cg, bs, cd, blkHash⟩⟩] } := by
  unfold addBlockEntry at h
  dsimp only at h
  split at h
  · exact absurd h (Except.throw_ne_ok _ _)
  · split at h
    · exact ((Except.pure_ok_iff _ _).mp h).symm
    · split at h
      · exact absurd h (Except.throw_ne_ok _ _)
      · split at h
        · exact absurd h (Except.throw_ne_ok _ _)
        · exact ((Except.pure_ok_iff _ _).mp h).symm

theorem removeBlock_ok (h : db.removeBlock = .ok db') : db' = { db with chain := db.chain.dropLast } := by
  unfold removeBlock at h
  split at h
  · exact absurd h (Except.throw_ne_ok _ _)
  · exact ((Except.pure_ok_iff _ _).mp h).symm

/-- A successful `add_block` ran each of its stages successfully: the
coinbase, the loop over the transactions, the block's rows, and the hard-fork
tracker, which only writes its own table. -/
theorem addBlock_ok {p : Primitives} {hf hf' : HardFork} {blk : Block} {bs cd cg : UInt64}
    {txs : List Transaction} {n : ℕ} (h : db.addBlock p hf blk bs cd cg txs = .ok (db', hf', n)) :
    blk.txHashes.length = txs.length ∧ n = db.height ∧
      ∃ db₁ db₂, db.addTransaction p blk.minerTx none = .ok db₁ ∧
        (txs.zip blk.txHashes).foldlM (fun db th => db.addTransaction p th.1 (some th.2)) db₁ =
          .ok db₂ ∧
        LedgerFrame { db₂ with chain := db₂.chain ++ [⟨blk, ⟨blk.timestamp, cg, bs, cd, p.getBlockHash blk⟩⟩] }
          db' := by
  unfold addBlock at h
  split at h
  · exact absurd h (Except.throw_ne_ok _ _)
  rename_i hlen
  obtain ⟨db₁, hminer, h⟩ := (Except.bind_ok_iff' _ _ _).mp h
  obtain ⟨db₂, hloop, h⟩ := (Except.bind_ok_iff' _ _ _).mp h
  obtain ⟨db₃, hentry, h⟩ := (Except.bind_ok_iff' _ _ _).mp h
  have hframe := HardFork.add_frame hf db₃ blk db.height
  generalize hf.add db₃ blk db.height = r at h hframe
  obtain ⟨_, hf'', db₄⟩ := r
  simp only [Except.pure_ok_iff, Prod.mk.injEq] at h
  obtain ⟨rfl, -, rfl⟩ := h
  obtain rfl := addBlockEntry_ok hentry
  exact ⟨not_not.mp hlen, rfl, db₁, db₂, hminer, hloop, hframe⟩

/-! ## The chain table -/

theorem addInputs_chain :
    ∀ (vin : List TxinV) (minerTx : Bool) (db db' : BlockchainDB) (r : Option Bool),
      addInputs vin minerTx db = .ok (db', r) → db'.chain = db.chain
  | [], minerTx, db, db', r, h => by
    simp only [addInputs, Except.pure_ok_iff, Prod.mk.injEq] at h
    rw [h.1]
  | .toKey i :: rest, minerTx, db, db', r, h => by
    obtain ⟨db₁, hadd, hrest⟩ := (Except.bind_ok_iff' _ _ _).mp h
    unfold addSpentKey at hadd
    split at hadd
    · exact absurd hadd (Except.throw_ne_ok _ _)
    · simp only [Except.pure_ok_iff] at hadd
      subst hadd
      have hchain := addInputs_chain rest minerTx _ db' r hrest
      exact hchain
  | .gen g :: rest, minerTx, db, db', r, h => addInputs_chain rest true db db' r h
  | .toScript i :: rest, minerTx, db, db', r, h => by
    simp only [addInputs, Except.pure_ok_iff, Prod.mk.injEq] at h
    rw [h.1]
  | .toScripthash i :: rest, minerTx, db, db', r, h => by
    simp only [addInputs, Except.pure_ok_iff, Prod.mk.injEq] at h
    rw [h.1]

/-- `add_transaction` leaves the chain table alone, whatever it stores. -/
theorem addTransaction_chain {p : Primitives} {tx : Transaction} {txHashPtr : Option Hash}
    (h : db.addTransaction p tx txHashPtr = .ok db') : db'.chain = db.chain := by
  unfold addTransaction at h
  obtain ⟨⟨db₁, r⟩, hin, h⟩ := (Except.bind_ok_iff' _ _ _).mp h
  have h₁ := addInputs_chain _ _ _ _ _ hin
  cases r with
  | none =>
    simp only [Except.pure_ok_iff] at h
    rw [← h, removeSpentKeys_eq]
    exact h₁
  | some minerTx =>
    obtain ⟨⟨db₂, txId⟩, hdata, h⟩ := (Except.bind_ok_iff' _ _ _).mp h
    have h₂ : db₂.chain = db₁.chain := by
      unfold addTransactionData at hdata
      split at hdata
      · exact absurd hdata (Except.throw_ne_ok _ _)
      · simp only [Except.pure_ok_iff, Prod.mk.injEq] at hdata
        rw [← hdata.1]
    obtain ⟨⟨db₃, idx⟩, hout, h⟩ := (Except.bind_ok_iff' _ _ _).mp h
    have h₃ := (addOutputs_frame _ _ _ _ _ _ _ _ _ hout).chain
    cases idx with
    | none =>
      simp only [Except.pure_ok_iff] at h
      rw [← h, removeSpentKeys_eq]
      exact h₃.trans (h₂.trans h₁)
    | some indices =>
      simp only [Except.pure_ok_iff] at h
      rw [← h]
      exact h₃.trans (h₂.trans h₁)

/-- `add_block` appends one row to the chain table: the block with its
timestamp, the generated coins, its size, its cumulative difficulty and its
hash. -/
theorem addBlock_chain_eq {p : Primitives} {hf hf' : HardFork} {blk : Block} {bs cd cg : UInt64}
    {txs : List Transaction} {n : ℕ} (h : db.addBlock p hf blk bs cd cg txs = .ok (db', hf', n)) :
    db'.chain = db.chain ++ [⟨blk, ⟨blk.timestamp, cg, bs, cd, p.getBlockHash blk⟩⟩] := by
  obtain ⟨-, -, db₁, db₂, hminer, hloop, hframe⟩ := addBlock_ok h
  have h₂ : db₂.chain = db₁.chain :=
    Except.foldlM_invariant (fun d => d.chain = db₁.chain)
      (fun _ _ _ hd hstep => (addTransaction_chain hstep).trans hd) _ _ _ rfl hloop
  rw [hframe.chain, h₂, addTransaction_chain hminer]

/-- **`add_block` appends exactly the block** to the chain table. -/
theorem addBlock_chain {p : Primitives} {hf hf' : HardFork} {blk : Block} {bs cd cg : UInt64}
    {txs : List Transaction} {n : ℕ} (h : db.addBlock p hf blk bs cd cg txs = .ok (db', hf', n)) :
    db'.chain.map ChainEntry.block = db.chain.map ChainEntry.block ++ [blk] := by
  rw [addBlock_chain_eq h]
  simp

/-- `remove_transaction` leaves the chain table alone. -/
theorem removeTransaction_chain {h : Hash} (hrm : db.removeTransaction h = .ok db') :
    db'.chain = db.chain := by
  unfold removeTransaction at hrm
  obtain ⟨tx, -, hrm⟩ := (Except.bind_ok_iff' _ _ _).mp hrm
  unfold removeTransactionData at hrm
  split at hrm
  · exact absurd hrm (Except.throw_ne_ok _ _)
  split at hrm
  · exact absurd hrm (Except.throw_ne_ok _ _)
  obtain ⟨db₁, hout, hrm⟩ := (Except.bind_ok_iff' _ _ _).mp hrm
  simp only [Except.pure_ok_iff] at hrm
  rw [← hrm]
  simpa [removeSpentKeys_eq] using (removeTxOutputs_frame hout).chain

/-- **`pop_block` removes exactly the top row** of the chain table. -/
theorem popBlock_chain {p : Primitives} {r : BlockchainDB × Block × List Transaction}
    (h : db.popBlock p = .ok r) : r.1.chain = db.chain.dropLast := by
  unfold popBlock at h
  obtain ⟨db₁, hremove, h⟩ := (Except.bind_ok_iff' _ _ _).mp h
  obtain ⟨⟨db₂, acc⟩, hloop, h⟩ := (Except.bind_ok_iff' _ _ _).mp h
  obtain ⟨db₃, hminer, h⟩ := (Except.bind_ok_iff' _ _ _).mp h
  simp only [Except.pure_ok_iff] at h
  subst h
  -- the loop over the transactions only removes transactions
  have h₂ : db₂.chain = db₁.chain := by
    refine Except.foldlM_invariant (fun acc => acc.1.chain = db₁.chain) (fun acc k c hacc hstep => ?_)
      _ _ _ rfl hloop
    obtain ⟨tx, -, hstep⟩ := (Except.bind_ok_iff' _ _ _).mp hstep
    obtain ⟨db', hrm, hstep⟩ := (Except.bind_ok_iff' _ _ _).mp hstep
    simp only [Except.pure_ok_iff] at hstep
    rw [← hstep]
    exact (removeTransaction_chain hrm).trans hacc
  rw [removeTransaction_chain hminer, h₂, removeBlock_ok hremove]

/-- `pop_block` throws on the empty chain. -/
theorem popBlock_height_ne_zero {p : Primitives} {r : BlockchainDB × Block × List Transaction}
    (h : db.popBlock p = .ok r) : db.height ≠ 0 := by
  intro h0
  unfold popBlock removeBlock at h
  rw [if_pos h0] at h
  exact Except.throw_ne_ok _ _ h

end BlockchainDB

end Ombre
