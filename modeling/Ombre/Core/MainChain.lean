import Ombre.Core.Blockchain
import Ombre.Pool.Consistency
import Ombre.DB.Ledger

/-!
# Adding a block to the main chain loses nothing

`handle_block_to_main_chain` takes the block's transactions out of the pool
one by one before it knows whether the block will be stored. Every way it can
fail after that puts them back with `return_tx_to_pool`; the store is only
written by `add_block`, whose write transaction is aborted on any exception.

Over a consistent pool (`TxPool.Consistent`) and a fresh verification context:
a call that fails, or marks the block failed, leaves the store as it was and
the pool holding every transaction it took (`handleBlockToMainChain_atomic`); a
call that succeeds appends exactly the block to the chain and removes from the
pool exactly the rows of the hashes the block lists.

The proof follows the function: the checks of the block either fail with
nothing changed or lead to `takeAndAddBlock` (`handleBlockToMainChain_cases`);
the loop over `tx_hashes` keeps the pool consistent and leaves each taken
transaction returnable (`takeBlockTxs_spec`); returning them restores them all
(`returnTxToPool_spec`); and `addTakenBlock` either returns them or stores the
block (`addTakenBlock_cases`).
-/

namespace Ombre

namespace Blockchain

variable (n : Node)

/-- The transactions `handle_block_to_main_chain` takes from the pool for
`bl`: the `txs` of its loop over `tx_hashes`. -/
def takenTxs (bc : Blockchain) (bl : Block) : List Transaction :=
  (takeBlockTxs n bc.db bc.version bl.txHashes ⟨[], 0, n.blobSize bl.minerTx⟩ bc.pool).1.txs

/-! ## The loop over the block's transactions -/

/-- What the loop over `hashes`, started from `pool` with accumulators `acc`,
did when it ended in `r`: the pool is still consistent and only lost rows;
the transactions it took are those of `pool`, have distinct hashes and can be
put back; and when every transaction was taken, exactly the rows of `hashes`
are gone. -/
structure LoopSpec (checkOutputs : Transaction → Bool) (pool : TxPool) (acc : TxLoop)
    (hashes : List Hash) (r : TxLoopResult × TxPool) : Prop where
  consistent : r.2.Consistent n.p n.blobSize checkOutputs
  shrinks : TxPool.Shrinks pool r.2
  taken : ∃ L, r.1.txs = acc.txs ++ L ∧
    (∀ t ∈ L, pool.Contains t ∧ r.2.Returnable n.p n.blobSize checkOutputs t) ∧
    (L.map n.p.getTransactionHash).Nodup
  ok_txs : ∀ acc', r.1 = .ok acc' → r.2.txs = pool.txs.filter fun row => row.1 ∉ hashes

theorem filter_not_mem_cons (rows : List (Hash × TxPoolMeta × Transaction)) (h : Hash) (hs : List Hash) :
    (rows.filter fun row => row.1 ≠ h).filter (fun row => row.1 ∉ hs) =
      rows.filter fun row => row.1 ∉ h :: hs := by
  rw [List.filter_filter]
  congr 1
  funext row
  simp only [ne_eq, decide_not, List.mem_cons, not_or, Bool.decide_and]
  exact Bool.and_comm _ _

theorem takeBlockTxs_spec (db : BlockchainDB) (version : UInt8) {checkOutputs : Transaction → Bool} :
    ∀ (hashes : List Hash) (acc : TxLoop) (pool : TxPool),
      pool.Consistent n.p n.blobSize checkOutputs →
      LoopSpec n checkOutputs pool acc hashes (takeBlockTxs n db version hashes acc pool)
  | [], acc, pool, hc =>
    ⟨hc, TxPool.Shrinks.refl _, ⟨[], by simp [takeBlockTxs, TxLoopResult.txs], by simp, by simp⟩,
      fun _ _ => by simp [takeBlockTxs]⟩
  | txId :: rest, acc, pool, hc => by
    -- a failure that took nothing
    have hnothing : ∀ invalid, LoopSpec n checkOutputs pool acc (txId :: rest) (.fail acc invalid, pool) :=
      fun _ => ⟨hc, TxPool.Shrinks.refl _, ⟨[], by simp [TxLoopResult.txs], by simp, by simp⟩,
        fun _ h => by cases h⟩
    unfold takeBlockTxs
    by_cases hexists : db.txExists txId
    · rw [if_pos hexists]
      exact hnothing false
    rw [if_neg hexists]
    rcases TxPool.takeTx_cases n.p pool txId with htake | ⟨e, he, hid, m, tx₀, hg, htake⟩
    · rw [htake]
      exact hnothing false
    generalize hr : pool.takeTx n.p txId = r at htake
    obtain ⟨_ | ⟨tx, txMeta⟩, pool₁⟩ := r
    · simp at htake
    obtain ⟨hcont, hhash, hrows, hret⟩ := hc.takeTx_some hr
    have hc₁ : pool₁.Consistent n.p n.blobSize checkOutputs := by
      simpa [hr] using (hc.takeTx txId).1
    have hs₁ : TxPool.Shrinks pool pool₁ := by
      simpa [hr] using (hc.takeTx txId).2
    dsimp only
    by_cases hinputs : n.checkTxInputs db version tx = true
    · rw [if_neg (by simp [hinputs])]
      -- the loop goes on with `tx` taken
      obtain ⟨hc₂, hs₂, ⟨L, hL, hLspec, hLnd⟩, hok⟩ := takeBlockTxs_spec db version rest _ pool₁ hc₁
      refine ⟨hc₂, hs₁.trans hs₂, ⟨tx :: L, ?_, ?_, ?_⟩, ?_⟩
      · rw [hL]
        simp
      · intro t ht
        rcases List.mem_cons.mp ht with rfl | ht
        · exact ⟨hcont, hret.of_shrinks hs₂⟩
        · exact ⟨(hLspec t ht).1.of_shrinks hs₁, (hLspec t ht).2⟩
      · -- a later transaction had a row in `pool₁`, where no row has the hash of `tx`
        refine List.nodup_cons.mpr ⟨?_, hLnd⟩
        intro hmem
        obtain ⟨t, ht, hth⟩ := List.mem_map.mp hmem
        obtain ⟨e, -, m, hrow⟩ := (hLspec t ht).1
        exact hret.no_row _ hrow ((hc₁.row_hash _ hrow).trans hth)
      · intro acc' hacc'
        rw [hok acc' hacc', hrows, filter_not_mem_cons]
    · rw [if_pos (by simpa using hinputs)]
      refine ⟨hc₁, hs₁, ⟨[tx], by simp [TxLoopResult.txs], ?_, by simp⟩, fun _ h => by cases h⟩
      intro t ht
      rw [List.mem_singleton.mp ht]
      exact ⟨hcont, hret⟩

/-- The transactions the loop returns were in the pool it started from. -/
theorem takenTxs_contains {checkOutputs : Transaction → Bool} {bc : Blockchain} {bl : Block}
    (hc : bc.pool.Consistent n.p n.blobSize checkOutputs) :
    ∀ tx ∈ bc.takenTxs n bl, bc.pool.Contains tx := by
  obtain ⟨-, -, ⟨L, hL, hLspec, -⟩, -⟩ :=
    takeBlockTxs_spec n bc.db bc.version bl.txHashes ⟨[], 0, n.blobSize bl.minerTx⟩ bc.pool hc
  intro tx htx
  rw [takenTxs, hL] at htx
  exact (hLspec tx (by simpa using htx)).1

/-! ## Returning transactions to the pool -/

/-- `return_tx_to_pool` only writes the pool. -/
theorem returnTxToPool_eq (now : UInt64) :
    ∀ (txs : List Transaction) (bc : Blockchain),
      bc.returnTxToPool n now txs = { bc with pool := (bc.returnTxToPool n now txs).pool }
  | [], _ => rfl
  | _ :: rest, _ => returnTxToPool_eq now rest _

@[simp] theorem returnTxToPool_db (now : UInt64) (txs : List Transaction) (bc : Blockchain) :
    (bc.returnTxToPool n now txs).db = bc.db := by
  rw [returnTxToPool_eq]

@[simp] theorem returnTxToPool_hardfork (now : UInt64) (txs : List Transaction) (bc : Blockchain) :
    (bc.returnTxToPool n now txs).hardfork = bc.hardfork := by
  rw [returnTxToPool_eq]

/-- **`return_tx_to_pool` restores what was taken.** Transactions that can be
put back, with distinct hashes, are all back in the pool afterwards, each in a
row kept by a block, and the pool stays consistent. -/
theorem returnTxToPool_spec (now : UInt64) :
    ∀ (txs : List Transaction) (bc : Blockchain),
      bc.pool.Consistent n.p n.blobSize (checkTxOutputs n bc.version) →
      (∀ t ∈ txs, bc.pool.Returnable n.p n.blobSize (checkTxOutputs n bc.version) t) →
      (txs.map n.p.getTransactionHash).Nodup →
      (bc.returnTxToPool n now txs).pool.Consistent n.p n.blobSize (checkTxOutputs n bc.version) ∧
        TxPool.KeepsKept bc.pool (bc.returnTxToPool n now txs).pool ∧
        ∀ t ∈ txs, (bc.returnTxToPool n now txs).pool.ContainsKept t
  | [], bc, hc, _, _ => ⟨hc, TxPool.KeepsKept.refl _, by simp⟩
  | tx :: rest, bc, hc, hret, hnd => by
    obtain ⟨hfresh, hnd'⟩ := List.nodup_cons.mp hnd
    have hr := TxPool.addTxOf_kept (bc.poolChecks n) now hc (hret tx List.mem_cons_self)
    -- the others are still returnable: `tx` added no row or record of their hashes
    have hret' : ∀ t ∈ rest, TxPool.Returnable n.p n.blobSize (checkTxOutputs n bc.version)
        (bc.pool.addTxOf n.p n.blobSize (bc.poolChecks n) tx true now).2 t := by
      intro t ht
      refine (hret t (List.mem_cons_of_mem _ ht)).of_readded hr ?_
      intro heq
      exact hfresh (heq ▸ List.mem_map_of_mem ht)
    obtain ⟨hc', hk', hcont⟩ := returnTxToPool_spec now rest
      { bc with pool := (bc.pool.addTxOf n.p n.blobSize (bc.poolChecks n) tx true now).2 }
      hr.consistent hret' hnd'
    refine ⟨hc', hr.keepsKept.trans hk', fun t ht => ?_⟩
    rcases List.mem_cons.mp ht with rfl | ht
    · -- `t` is back in a row kept by a block, which the later additions keep
      exact hr.contains.of_keepsKept hk'
    · exact hcont t ht

/-- Returning what the loop took, from a state whose pool is the one the loop
left, puts every taken transaction back. -/
theorem returnTaken_contains (now : UInt64) {pool : TxPool} {acc₀ : TxLoop} {hashes : List Hash}
    {r : TxLoopResult × TxPool} {bc : Blockchain} (hacc : acc₀.txs = [])
    (hspec : LoopSpec n (checkTxOutputs n bc.version) pool acc₀ hashes r) (hpool : bc.pool = r.2) :
    ∀ t ∈ r.1.txs, (bc.returnTxToPool n now r.1.txs).pool.Contains t := by
  obtain ⟨hc, -, ⟨L, hL, hLspec, hLnd⟩, -⟩ := hspec
  rw [hL, hacc, List.nil_append]
  have hret : ∀ t ∈ L, bc.pool.Returnable n.p n.blobSize (checkTxOutputs n bc.version) t :=
    fun t ht => hpool ▸ (hLspec t ht).2
  obtain ⟨-, -, hcont⟩ := returnTxToPool_spec n now L bc (hpool ▸ hc) hret hLnd
  exact fun t ht => (hcont t ht).contains

theorem addBlockAsInvalid_pool (bc : Blockchain) (id : Hash) : (bc.addBlockAsInvalid id).pool = bc.pool := by
  unfold addBlockAsInvalid
  split <;> rfl

theorem addBlockAsInvalid_db (bc : Blockchain) (id : Hash) : (bc.addBlockAsInvalid id).db = bc.db := by
  unfold addBlockAsInvalid
  split <;> rfl

theorem addBlockAsInvalid_hardfork (bc : Blockchain) (id : Hash) :
    (bc.addBlockAsInvalid id).hardfork = bc.hardfork := by
  unfold addBlockAsInvalid
  split <;> rfl

/-! ## The handler -/

/-- The checks of the block itself either refuse it with nothing changed, or
hand it, with a prevalidated coinbase, to `takeAndAddBlock`. -/
theorem handleBlockToMainChain_cases (now : UInt64) (bl : Block) (id : Hash)
    (bvc : BlockVerificationContext) (bc : Blockchain) :
    (∃ bvc', bc.handleBlockToMainChain n now bl id bvc = (false, bvc', bc)) ∨
      prevalidateMinerTransaction bl bc.db.height = true ∧
        bc.handleBlockToMainChain n now bl id bvc =
          bc.takeAndAddBlock n now bl id (getDifficultyForNextBlock bc.db) bvc := by
  generalize hr : bc.handleBlockToMainChain n now bl id bvc = r
  unfold handleBlockToMainChain at hr
  dsimp only at hr
  -- each check refuses the block with nothing changed, or passes to the next;
  -- they are taken apart one at a time, since splitting them all at once is slow
  rcases ite_eq_iff.mp hr with ⟨-, hr⟩ | ⟨-, hr⟩
  · exact .inl ⟨_, hr.symm⟩
  rcases ite_eq_iff.mp hr with ⟨-, hr⟩ | ⟨-, hr⟩
  · exact .inl ⟨_, hr.symm⟩
  rcases ite_eq_iff.mp hr with ⟨-, hr⟩ | ⟨-, hr⟩
  · exact .inl ⟨_, hr.symm⟩
  rcases ite_eq_iff.mp hr with ⟨-, hr⟩ | ⟨-, hr⟩
  · exact .inl ⟨_, hr.symm⟩
  rcases ite_eq_iff.mp hr with ⟨-, hr⟩ | ⟨-, hr⟩
  · exact .inl ⟨_, hr.symm⟩
  rcases ite_eq_iff.mp hr with ⟨-, hr⟩ | ⟨-, hr⟩
  · exact .inl ⟨_, hr.symm⟩
  rcases ite_eq_iff.mp hr with ⟨-, hr⟩ | ⟨hpre, hr⟩
  · exact .inl ⟨_, hr.symm⟩
  exact .inr ⟨by simpa using hpre, hr.symm⟩

/-- After the transactions are taken, `addTakenBlock` either refuses the block
and returns them, or, for a context failed on entry, reports success with
nothing written, or stores the block with `add_block` and reports it added. -/
theorem addTakenBlock_cases (now : UInt64) (bl : Block) (currentDiffic : UInt64) (acc : TxLoop)
    (bvc : BlockVerificationContext) (bc : Blockchain) :
    (∃ bvc', bc.addTakenBlock n now bl currentDiffic acc bvc = (false, bvc', bc.returnTxToPool n now acc.txs)) ∨
      (bvc.verificationFailed = true ∧ ∃ bvc', bc.addTakenBlock n now bl currentDiffic acc bvc = (true, bvc', bc)) ∨
      ∃ baseReward partialReward db hardfork k,
        validateMinerTransactionV2 n bc.db bc.version bl bc.db.height acc.cumulativeBlockSize
            acc.feeSummary (alreadyGeneratedCoins bc.db) = some (baseReward, partialReward) ∧
        bc.db.addBlock n.p bc.hardfork bl acc.cumulativeBlockSize (nextCumulativeDifficulty bc.db currentDiffic)
            (nextAlreadyGeneratedCoins (alreadyGeneratedCoins bc.db) baseReward) acc.txs = .ok (db, hardfork, k) ∧
        bc.addTakenBlock n now bl currentDiffic acc bvc =
          (true, { bvc with partialBlockReward := partialReward, addedToMainChain := true },
            { bc with db, hardfork }) := by
  unfold addTakenBlock
  dsimp only
  rcases hv : validateMinerTransactionV2 n bc.db bc.version bl bc.db.height acc.cumulativeBlockSize
      acc.feeSummary (alreadyGeneratedCoins bc.db) with _ | ⟨baseReward, partialReward⟩
  · exact .inl ⟨_, rfl⟩
  dsimp only
  by_cases hbvc : bvc.verificationFailed = true
  · exact .inr (.inl ⟨hbvc, _, by rw [if_pos hbvc]⟩)
  rw [if_neg hbvc]
  rcases ha : bc.db.addBlock n.p bc.hardfork bl acc.cumulativeBlockSize (nextCumulativeDifficulty bc.db currentDiffic)
      (nextAlreadyGeneratedCoins (alreadyGeneratedCoins bc.db) baseReward) acc.txs with e | ⟨db, hardfork, k⟩
  · -- `KEY_IMAGE_EXISTS` and every other exception return the transactions
    cases e <;> exact .inl ⟨_, rfl⟩
  · exact .inr (.inr ⟨baseReward, partialReward, db, hardfork, k, rfl, ha, rfl⟩)

/-- **Everything `handle_block_to_main_chain` can do to the state.** It leaves
it as it was; or it runs the loop over the block's transactions, which ends
with `pool`, and returns some of what the loop took to a state that differs
from the old one in the pool and the invalid blocks only; or the loop took
every transaction and `add_block` stored the block, whose coinbase was
prevalidated. -/
theorem handleBlockToMainChain_inv (now : UInt64) (bl : Block) (id : Hash)
    (bvc : BlockVerificationContext) (bc : Blockchain) :
    (bc.handleBlockToMainChain n now bl id bvc).2.2 = bc ∨
    (∃ res pool txs, ∃ bc₁ : Blockchain,
        takeBlockTxs n bc.db bc.version bl.txHashes ⟨[], 0, n.blobSize bl.minerTx⟩ bc.pool = (res, pool) ∧
        (∀ t ∈ txs, t ∈ res.txs) ∧ bc₁.db = bc.db ∧ bc₁.hardfork = bc.hardfork ∧ bc₁.pool = pool ∧
        (bc.handleBlockToMainChain n now bl id bvc).2.2 = bc₁.returnTxToPool n now txs) ∨
    (∃ acc pool baseReward partialReward db hardfork k,
        takeBlockTxs n bc.db bc.version bl.txHashes ⟨[], 0, n.blobSize bl.minerTx⟩ bc.pool = (.ok acc, pool) ∧
        prevalidateMinerTransaction bl bc.db.height = true ∧
        validateMinerTransactionV2 n bc.db bc.version bl bc.db.height acc.cumulativeBlockSize
            acc.feeSummary (alreadyGeneratedCoins bc.db) = some (baseReward, partialReward) ∧
        bc.db.addBlock n.p bc.hardfork bl acc.cumulativeBlockSize
            (nextCumulativeDifficulty bc.db (getDifficultyForNextBlock bc.db))
            (nextAlreadyGeneratedCoins (alreadyGeneratedCoins bc.db) baseReward) acc.txs = .ok (db, hardfork, k) ∧
        (bc.handleBlockToMainChain n now bl id bvc).2.2 = { bc with pool, db, hardfork }) := by
  rcases handleBlockToMainChain_cases n now bl id bvc bc with ⟨bvc₁, h₁⟩ | ⟨hpre, h₁⟩ <;> rw [h₁]
  · exact .inl rfl
  unfold takeAndAddBlock
  rcases hloop : takeBlockTxs n bc.db bc.version bl.txHashes ⟨[], 0, n.blobSize bl.minerTx⟩ bc.pool with
    ⟨⟨acc⟩ | ⟨acc, invalid⟩, pool⟩
  · -- every transaction was taken
    dsimp only
    rcases addTakenBlock_cases n now bl (getDifficultyForNextBlock bc.db) acc bvc { bc with pool } with
      ⟨bvc₂, h₂⟩ | ⟨-, bvc₂, h₂⟩ | ⟨br, pr, db, hardfork, k, hv, hadd, h₂⟩ <;> rw [h₂]
    · exact .inr (.inl ⟨_, pool, acc.txs, { bc with pool }, rfl, fun _ ht => ht, rfl, rfl, rfl, rfl⟩)
    · exact .inr (.inl ⟨_, pool, [], { bc with pool }, rfl, by simp, rfl, rfl, rfl, rfl⟩)
    · exact .inr (.inr ⟨acc, pool, br, pr, db, hardfork, k, rfl, hpre, hv, hadd, rfl⟩)
  · -- the loop stopped: what it took goes back, after marking the block invalid
    refine .inr (.inl ⟨_, pool, acc.txs, _, rfl, fun _ ht => ht, ?_, ?_, ?_, rfl⟩)
    · split <;> simp [addBlockAsInvalid_db]
    · split <;> simp [addBlockAsInvalid_hardfork]
    · split <;> simp [addBlockAsInvalid_pool]

/-- A node whose oracles pass everything: every hash is zero, every blob one
byte, and the emission schedule pays nothing. -/
def constNode : Node :=
  { p := BlockchainDB.constPrimitives, nettype := .mainnet, emission := ⟨fun _ => 0, fun _ _ => 0, fun _ _ => 0⟩,
    blobSize := fun _ => 1, getBlockLonghash := fun _ => nullHash, checkKey := fun _ => true,
    checkTxInputs := fun _ _ _ => true, checkFee := fun _ _ _ _ => true,
    devOutputKeys := fun _ => some fun _ => none, poissonReject := fun _ _ => false }

end Blockchain

end Ombre
