import Ombre.Core.AltChain
import Ombre.Core.MainChain

/-!
# Runs of the node

A run is any sequence of the calls the node makes on its `Blockchain`: a block
received through `add_new_block`, one of the functions `add_new_block` is
built from called on its own (`handle_block_to_main_chain`,
`pop_block_from_blockchain`, `switch_to_alternative_blockchain`), or a
transaction received by the pool. `Reachable` is every state a run reaches from
a node with nothing stored.

Every one of these calls is assembled from four operations: the handler of a
block on top of the main chain, the pop of the top block, the reorganisation of
the hard-fork tracker, and writes to the alternative and invalid blocks. A
property of the state that those four keep, and that `add_tx` keeps, holds all
along every run (`Preserved.reachable`). The reorganisation is taken apart
loop by loop; the recursion of `handle_alternative_block` through it goes by
induction on its fuel.

Two such properties are proved here. The store holds a chain of blocks with all
their transactions, so its spent key images are exactly the key images of the
inputs of the chain, none twice (`spentKeys_perm_keyImages`). The coins
generated up to each height never decrease and never exceed `MONEY_SUPPLY`, so
every caller of `get_block_reward` passes a value it can subtract from
`MONEY_SUPPLY` (`generatedCoins_in_range`).
-/

namespace Ombre

namespace Blockchain

open BlockchainDB TxPool

variable (n : Node)

/-! ## Runs -/

/-- One call of the node on its state. A reorganisation called on its own
stores the disconnected blocks through `handle_alternative_block`, with fuel of
its own for that recursion. -/
inductive Step : Blockchain → Blockchain → Prop
  | addNewBlock (fuel : ℕ) (now : UInt64) (bl : Block) (bvc : BlockVerificationContext)
      (bc : Blockchain) : Step bc (bc.addNewBlock n fuel now bl bvc).state
  | handleBlockToMainChain (now : UInt64) (bl : Block) (id : Hash) (bvc : BlockVerificationContext)
      (bc : Blockchain) : Step bc (bc.handleBlockToMainChain n now bl id bvc).2.2
  | popBlockFromBlockchain (now : UInt64) (bc : Blockchain) :
      Step bc (bc.popBlockFromBlockchain n now).state
  | switchToAlternativeBlockchain (fuel : ℕ) (now : UInt64) (altChain : List (Hash × BlockExtendedInfo))
      (discardDisconnectedChain : Bool) (bc : Blockchain) :
      Step bc (bc.switchToAlternativeBlockchain n now (handleAlternativeBlock n now fuel) altChain
        discardDisconnectedChain).state
  | addTx (now : UInt64) (tx : Transaction) (keptByBlock : Bool) (bc : Blockchain) :
      Step bc { bc with pool := (bc.pool.addTxOf n.p n.blobSize (bc.poolChecks n) tx keptByBlock now).2 }

/-- The states runs reach from the node with tracker `hardfork`, checkpoints
`checkpoints` and nothing stored. -/
inductive Reachable (hardfork : HardFork) (checkpoints : List (ℕ × Hash)) : Blockchain → Prop
  | initial : Reachable hardfork checkpoints (initial hardfork checkpoints)
  | step {bc bc' : Blockchain} : Reachable hardfork checkpoints bc → Step n bc bc' →
      Reachable hardfork checkpoints bc'

/-! ## Properties kept by every call -/

/-- `I` is kept by the four operations every call is built from, and by
`add_tx`. Each clause reads: a run of the operation from a state with `I` ends,
returning or throwing, in a state with `I`. -/
structure Preserved (I : Blockchain → Prop) : Prop where
  handleBlockToMainChain : ∀ {now bl id bvc bc r bvc' bc'},
    Blockchain.handleBlockToMainChain n now bl id bvc bc = (r, bvc', bc') → I bc → I bc'
  popBlockFromBlockchain : ∀ {now bc r}, Blockchain.popBlockFromBlockchain n now bc = r → I bc → I r.state
  reorganizeHardFork : ∀ {height bc r}, Blockchain.reorganizeHardFork height bc = r → I bc → I r.state
  frame : ∀ bc bc' : Blockchain, bc'.db = bc.db → bc'.hardfork = bc.hardfork → bc'.pool = bc.pool →
    I bc → I bc'
  addTx : ∀ now tx keptByBlock bc, I bc →
    I { bc with pool := (bc.pool.addTxOf n.p n.blobSize (bc.poolChecks n) tx keptByBlock now).2 }

/-- What `handle_alternative_block` can do to the state: leave it, store the
block among the alternative chains, or store it and switch to its chain. -/
theorem handleAlternativeBlock_state (now : UInt64) (fuel : ℕ) (b : Block) (id : Hash)
    (bvc : BlockVerificationContext) (bc : Blockchain) :
    (handleAlternativeBlock n now (fuel + 1) b id bvc bc).state = bc ∨
      ∃ altChain bei isCheckpoint,
        (handleAlternativeBlock n now (fuel + 1) b id bvc bc).state =
            { bc with alternativeChains := bc.alternativeChains ++ [(id, bei)] } ∨
          (handleAlternativeBlock n now (fuel + 1) b id bvc bc).state =
            (switchToAlternativeBlockchain n now (handleAlternativeBlock n now fuel) (altChain ++ [(id, bei)])
              isCheckpoint { bc with alternativeChains := bc.alternativeChains ++ [(id, bei)] }).state := by
  generalize hr : handleAlternativeBlock n now (fuel + 1) b id bvc bc = r
  unfold handleAlternativeBlock at hr
  dsimp only at hr
  -- the refusals and an orphan change nothing; the guards are taken apart one
  -- at a time, since splitting them all at once is slow
  rcases ite_eq_iff.mp hr with ⟨-, rfl⟩ | ⟨-, hr⟩
  · exact .inl rfl
  rcases ite_eq_iff.mp hr with ⟨-, rfl⟩ | ⟨-, hr⟩
  · exact .inl rfl
  rcases ite_eq_iff.mp hr with ⟨-, rfl⟩ | ⟨-, hr⟩
  · exact .inl rfl
  rcases ite_eq_iff.mp hr with ⟨-, rfl⟩ | ⟨-, hr⟩
  · exact .inl rfl
  rcases hc : checkAlternativeBlock n bc b id with (_ | _) | ⟨altChain, bei, isCheckpoint⟩ <;>
    rw [hc] at hr <;> dsimp only at hr
  · subst hr
    exact .inl rfl
  · subst hr
    exact .inl rfl
  -- a block already known changes nothing; a new one is stored first
  rcases ite_eq_iff.mp hr with ⟨-, rfl⟩ | ⟨-, hr⟩
  · exact .inl rfl
  refine .inr ⟨altChain, bei, isCheckpoint, ?_⟩
  rcases ite_eq_iff.mp hr with ⟨-, rfl⟩ | ⟨-, rfl⟩
  · -- the switch returns or throws, and the state is the switch's either way
    right
    split <;> rename_i hsw <;> rw [hsw] <;> rfl
  · exact .inl rfl

section Preserved

variable {n} {I : Blockchain → Prop}

theorem Preserved.markInvalid (hP : Preserved n I) {bc : Blockchain} (h : I bc) (id h' : Hash) :
    I ((bc.addBlockAsInvalid id).eraseAlternative h') :=
  hP.frame bc _ (addBlockAsInvalid_db bc id) (addBlockAsInvalid_hardfork bc id)
    (addBlockAsInvalid_pool bc id) h

theorem Preserved.popBlocksUntil (hP : Preserved n I) {now : UInt64} {stop : Blockchain → Bool} :
    ∀ {fuel : ℕ} {acc : List Block} {bc : Blockchain} {r : EStateM.Result DbError Blockchain (List Block)},
      Blockchain.popBlocksUntil n now stop fuel acc bc = r → I bc → I r.state
  | 0, _, _, _, hr, h => hr ▸ h
  | fuel + 1, acc, bc, r, hr, h => by
    subst hr
    unfold Blockchain.popBlocksUntil
    split
    · exact h
    split
    · rename_i hpop
      simpa using hP.popBlockFromBlockchain hpop h
    · rename_i b bc₁ hpop
      exact Preserved.popBlocksUntil hP rfl (by simpa using hP.popBlockFromBlockchain hpop h)

theorem Preserved.readdBlocks (hP : Preserved n I) (now : UInt64) :
    ∀ (bls : List Block) (bc : Blockchain), I bc → I (Blockchain.readdBlocks n now bls bc).2
  | [], _, h => h
  | bl :: rest, bc, h => by
    unfold Blockchain.readdBlocks
    rcases hr : bc.handleBlockToMainChain n now bl (n.p.getBlockHash bl) default with ⟨r, bvc, bc₁⟩
    have h₁ := hP.handleBlockToMainChain hr h
    dsimp only
    split
    · exact Preserved.readdBlocks hP now rest bc₁ h₁
    · exact h₁

theorem Preserved.rollbackBlockchainSwitching (hP : Preserved n I) {now : UInt64} {originalChain : List Block}
    {rollbackHeight : ℕ} {bc : Blockchain} {r : EStateM.Result DbError Blockchain Bool}
    (hr : bc.rollbackBlockchainSwitching n now originalChain rollbackHeight = r) (h : I bc) : I r.state := by
  subst hr
  unfold Blockchain.rollbackBlockchainSwitching
  split
  · exact h
  split
  · rename_i hpop
    simpa using hP.popBlocksUntil hpop h
  rename_i bc₁ hpop
  have h₁ : I bc₁ := by simpa using hP.popBlocksUntil hpop h
  split
  · rename_i hre
    simpa using hP.reorganizeHardFork hre h₁
  rename_i bc₂ hre
  have h₂ : I bc₂ := by simpa using hP.reorganizeHardFork hre h₁
  have h₃ := hP.readdBlocks now originalChain bc₂ h₂
  split
  · rename_i hreadd
    rw [hreadd] at h₃
    exact h₃
  rename_i bc₃ hreadd
  rw [hreadd] at h₃
  split
  · rename_i hre'
    simpa using hP.reorganizeHardFork hre' h₃
  · rename_i hre'
    simpa using hP.reorganizeHardFork hre' h₃

theorem Preserved.connectAltChain (hP : Preserved n I) (now : UInt64) (disconnectedChain : List Block)
    (splitHeight : ℕ) :
    ∀ (altChain : List (Hash × BlockExtendedInfo)) (bc : Blockchain), I bc →
      I (Blockchain.connectAltChain n now disconnectedChain splitHeight altChain bc).state
  | [], _, h => h
  | (hsh, bei) :: rest, bc, h => by
    unfold Blockchain.connectAltChain
    rcases hr : bc.handleBlockToMainChain n now bei.bl (n.p.getBlockHash bei.bl) default with ⟨r, bvc, bc₁⟩
    have h₁ := hP.handleBlockToMainChain hr h
    dsimp only
    split
    · exact Preserved.connectAltChain hP now disconnectedChain splitHeight rest bc₁ h₁
    split
    · rename_i hrb
      simpa using hP.rollbackBlockchainSwitching hrb h₁
    · rename_i bc₂ hrb
      have h₂ : I bc₂ := by simpa using hP.rollbackBlockchainSwitching hrb h₁
      -- the failing block and those after it are marked invalid and dropped
      exact List.foldlRecOn rest _ (hP.markInvalid h₂ _ hsh) fun bc hbc e _ => hP.markInvalid hbc e.1 e.1

/-- Pushing the disconnected blocks keeps what the handler of an alternative
block keeps. -/
theorem pushDisconnectedChain_invariant
    {handleAlt : Block → Hash → BlockVerificationContext → Blockchain →
      EStateM.Result DbError Blockchain (Bool × BlockVerificationContext)}
    (hA : ∀ {b id bvc bc r}, handleAlt b id bvc bc = r → I bc → I r.state) :
    ∀ (bls : List Block) (bc : Blockchain), I bc →
      I (Blockchain.pushDisconnectedChain n handleAlt bls bc).state
  | [], _, h => h
  | b :: rest, bc, h => by
    unfold Blockchain.pushDisconnectedChain
    split
    · rename_i hr
      simpa using hA hr h
    · rename_i bc₁ hr
      exact pushDisconnectedChain_invariant hA rest bc₁ (by simpa using hA hr h)

theorem Preserved.switchToAlternativeBlockchain (hP : Preserved n I) {now : UInt64}
    {handleAlt : Block → Hash → BlockVerificationContext → Blockchain →
      EStateM.Result DbError Blockchain (Bool × BlockVerificationContext)}
    (hA : ∀ {b id bvc bc r}, handleAlt b id bvc bc = r → I bc → I r.state)
    {altChain : List (Hash × BlockExtendedInfo)} {discardDisconnectedChain : Bool} {bc : Blockchain}
    {r : EStateM.Result DbError Blockchain Bool}
    (hr : bc.switchToAlternativeBlockchain n now handleAlt altChain discardDisconnectedChain = r)
    (h : I bc) : I r.state := by
  subst hr
  unfold Blockchain.switchToAlternativeBlockchain
  split
  swap
  · exact h
  dsimp only
  split
  · exact h
  -- the checks before popping change nothing
  split
  · exact h
  · exact h
  split
  · rename_i hpop
    simpa using hP.popBlocksUntil hpop h
  rename_i disconnected bc₁ hpop
  have h₁ : I bc₁ := by simpa using hP.popBlocksUntil hpop h
  have h₂ := hP.connectAltChain now disconnected bc₁.db.height altChain bc₁ h₁
  split
  · rename_i hconn
    rw [hconn] at h₂
    exact h₂
  · rename_i hconn
    rw [hconn] at h₂
    exact h₂
  rename_i bc₂ hconn
  rw [hconn] at h₂
  -- the disconnected blocks are pushed back unless discarded
  have h₃ : ∀ r', (if discardDisconnectedChain then .ok () bc₂
      else pushDisconnectedChain n handleAlt disconnected bc₂) = r' → I r'.state := by
    intro r' hr'
    subst hr'
    split
    · exact h₂
    · exact pushDisconnectedChain_invariant hA disconnected bc₂ h₂
  split
  · rename_i hpush
    simpa using h₃ _ hpush
  rename_i bc₃ hpush
  have h₄ : I (altChain.foldl (fun bc e => bc.eraseAlternative e.1) bc₃) :=
    List.foldlRecOn altChain _ (by simpa using h₃ _ hpush)
      fun bc hbc e _ => hP.frame bc _ rfl rfl rfl hbc
  split
  · rename_i hre
    simpa using hP.reorganizeHardFork hre h₄
  · rename_i hre
    simpa using hP.reorganizeHardFork hre h₄

theorem Preserved.handleAlternativeBlock (hP : Preserved n I) {now : UInt64} :
    ∀ {fuel : ℕ} {b : Block} {id : Hash} {bvc : BlockVerificationContext} {bc : Blockchain}
      {r : EStateM.Result DbError Blockchain (Bool × BlockVerificationContext)},
      Blockchain.handleAlternativeBlock n now fuel b id bvc bc = r → I bc → I r.state
  | 0, _, _, _, _, _, hr, h => hr ▸ h
  | fuel + 1, b, id, bvc, bc, r, hr, h => by
    subst hr
    rcases handleAlternativeBlock_state n now fuel b id bvc bc with hs | ⟨altChain, bei, isCheckpoint, hs | hs⟩ <;>
      rw [hs]
    · exact h
    · exact hP.frame bc _ rfl rfl rfl h
    · -- the block is stored, then the node reorganises onto its chain
      exact hP.switchToAlternativeBlockchain (Preserved.handleAlternativeBlock hP) rfl (hP.frame bc _ rfl rfl rfl h)

theorem Preserved.addNewBlock (hP : Preserved n I) (fuel : ℕ) (now : UInt64) (bl : Block)
    (bvc : BlockVerificationContext) (bc : Blockchain) (h : I bc) : I (bc.addNewBlock n fuel now bl bvc).state := by
  unfold Blockchain.addNewBlock
  dsimp only
  split_ifs
  · exact h
  · exact hP.handleAlternativeBlock rfl h
  · rcases hr : bc.handleBlockToMainChain n now bl (n.p.getBlockHash bl) bvc with ⟨r, bvc', bc'⟩
    exact hP.handleBlockToMainChain hr h

theorem Preserved.step (hP : Preserved n I) {bc bc' : Blockchain} (hs : Step n bc bc') (h : I bc) : I bc' := by
  cases hs with
  | addNewBlock fuel now bl bvc => exact hP.addNewBlock fuel now bl bvc bc h
  | handleBlockToMainChain now bl id bvc => exact hP.handleBlockToMainChain rfl h
  | popBlockFromBlockchain now => exact hP.popBlockFromBlockchain rfl h
  | switchToAlternativeBlockchain fuel now altChain discard =>
    exact hP.switchToAlternativeBlockchain (hP.handleAlternativeBlock) rfl h
  | addTx now tx keptByBlock => exact hP.addTx now tx keptByBlock bc h

/-- **Run lemma.** A property of the empty node kept by every operation holds
of every reachable state. -/
theorem Preserved.reachable (hP : Preserved n I) {hardfork : HardFork} {checkpoints : List (ℕ × Hash)}
    (h₀ : I (initial hardfork checkpoints)) {bc : Blockchain} (hr : Reachable n hardfork checkpoints bc) :
    I bc := by
  induction hr with
  | initial => exact h₀
  | step _ hs ih => exact hP.step hs ih

end Preserved

/-! ## No double spend

`add_transaction` stores a transaction whole when its inputs are all
`txin_to_key` or `txin_gen` and it pays amounts only from a `txin_gen`. The
coinbase of a block that passed `prevalidate_miner_transaction` is one, and so
is every transaction `add_tx` stores, whatever the fork in force: so every
block `add_block` is given is appended whole to the chain the store holds, and
`pop_block` removes it again. -/

theorem isStorable_of_checks (version : UInt8) (tx : Transaction)
    (hin : checkInputsTypesSupported tx = true) (hout : checkTxOutputs n version tx = true) :
    tx.isStorable = true := by
  -- the first check of `check_tx_outputs` is that every amount is 0
  have hzero : ∀ o ∈ tx.vout, o.amount = 0 := by
    simp only [checkTxOutputs] at hout
    split at hout
    · cases hout
    · rename_i hany
      simpa using hany
  simp only [checkInputsTypesSupported, List.all_eq_true] at hin
  simp only [Transaction.isStorable, Bool.and_eq_true, List.all_eq_true, Bool.or_eq_true,
    List.any_eq_true, decide_eq_true_eq]
  exact ⟨fun i hi => .inl (hin i hi), .inr hzero⟩

theorem isStorable_of_prevalidate {bl : Block} {height : ℕ}
    (h : prevalidateMinerTransaction bl height = true) : bl.minerTx.isStorable = true := by
  unfold prevalidateMinerTransaction at h
  split at h
  · rename_i g hvin
    simp [Transaction.isStorable, hvin, TxinV.isGen]
  · cases h

/-- The loop over the block's transactions only removes rows, and takes
transactions of rows. -/
theorem takeBlockTxs_rowsSatisfy {P : Transaction → Prop} (db : BlockchainDB) (version : UInt8) :
    ∀ (hashes : List Hash) (acc : TxLoop) (pool : TxPool), RowsSatisfy P pool → (∀ t ∈ acc.txs, P t) →
      RowsSatisfy P (takeBlockTxs n db version hashes acc pool).2 ∧
        ∀ t ∈ (takeBlockTxs n db version hashes acc pool).1.txs, P t
  | [], _, _, h, hacc => ⟨h, hacc⟩
  | txId :: rest, acc, pool, h, hacc => by
    unfold takeBlockTxs
    split
    · exact ⟨h, hacc⟩
    have htake : RowsSatisfy P (pool.takeTx n.p txId).2 ∧
        ∀ tx m, (pool.takeTx n.p txId).1 = some (tx, m) → P tx := h.takeTx txId
    split
    · rename_i pool₁ heq
      rw [heq] at htake
      exact ⟨htake.1, hacc⟩
    rename_i tx txMeta pool₁ heq
    rw [heq] at htake
    have hacc' : ∀ t ∈ acc.txs ++ [tx], P t := by
      intro t ht
      rcases List.mem_append.mp ht with ht | ht
      · exact hacc t ht
      · rw [List.mem_singleton.mp ht]
        exact htake.2 tx txMeta rfl
    dsimp only
    split
    · exact ⟨htake.1, hacc'⟩
    · exact takeBlockTxs_rowsSatisfy db version rest _ pool₁ htake.1 hacc'

theorem returnTxToPool_rowsSatisfy {P : Transaction → Prop}
    (hP : ∀ version tx, checkInputsTypesSupported tx = true → checkTxOutputs n version tx = true → P tx)
    (now : UInt64) :
    ∀ (txs : List Transaction) (bc : Blockchain), RowsSatisfy P bc.pool →
      RowsSatisfy P (bc.returnTxToPool n now txs).pool
  | [], _, h => h
  | tx :: rest, bc, h =>
    returnTxToPool_rowsSatisfy hP now rest _ (h.addTxOf _ (hP bc.version tx) true now)

/-- The store holds a chain of blocks with all their transactions, and the
pool only transactions `add_transaction` stores whole. -/
structure StoresChain (bc : Blockchain) : Prop where
  stores : ∃ chain, Stores n.p bc.db chain
  pool : RowsSatisfy (fun tx => tx.isStorable = true) bc.pool

theorem storesChain_initial (hardfork : HardFork) (checkpoints : List (ℕ × Hash)) :
    StoresChain n (initial hardfork checkpoints) :=
  ⟨⟨[], empty_stores n.p⟩, by simp [RowsSatisfy, initial]⟩

theorem storesChain_preserved : Preserved n (StoresChain n) where
  handleBlockToMainChain := by
    intro now bl id bvc bc r bvc' bc' hr h
    obtain rfl : bc' = (bc.handleBlockToMainChain n now bl id bvc).2.2 := by rw [hr]
    have hloop := takeBlockTxs_rowsSatisfy n bc.db bc.version bl.txHashes ⟨[], 0, n.blobSize bl.minerTx⟩
      bc.pool h.pool (by simp)
    rcases handleBlockToMainChain_inv n now bl id bvc bc with
      h' | ⟨res, pool, txs, bc₁, hl, -, hdb, -, hpool, h'⟩ | ⟨acc, pool, br, pr, db, hardfork, k, hl, hpre, -, hadd, h'⟩ <;>
      rw [h']
    · exact h
    · -- the store is as it was; the pool lost rows and got some back
      rw [hl] at hloop
      refine ⟨by simpa [hdb] using h.stores, ?_⟩
      exact returnTxToPool_rowsSatisfy n (isStorable_of_checks n) now txs bc₁ (hpool ▸ hloop.1)
    · -- `add_block` appended the block with the transactions the loop took
      rw [hl] at hloop
      obtain ⟨chain, hst⟩ := h.stores
      have hst' : Stores n.p db (chain ++ [⟨bl, acc.txs⟩]) ∧ k = bc.db.height :=
        addBlock_stores hst (isStorable_of_prevalidate hpre) hloop.2 hadd
      exact ⟨⟨_, hst'.1⟩, hloop.1⟩
  popBlockFromBlockchain := by
    intro now bc r hr h
    subst hr
    unfold Blockchain.popBlockFromBlockchain
    split
    · exact h
    rename_i db' blk txs hpop
    simp only [EStateM.Result.state_ok]
    obtain ⟨chain, hst⟩ := h.stores
    -- the empty chain cannot be popped
    rcases chain.eq_nil_or_concat with rfl | ⟨chain', s, rfl⟩
    · exact absurd hst.height_eq (by simpa using popBlock_height_ne_zero hpop)
    rw [List.concat_eq_append] at hst
    obtain ⟨hst', -, -⟩ := popBlock_stores hst hpop
    exact ⟨⟨chain', by simpa using hst'⟩, returnTxToPool_rowsSatisfy n (isStorable_of_checks n) now _ _ h.pool⟩
  reorganizeHardFork := by
    intro height bc r hr h
    subst hr
    unfold Blockchain.reorganizeHardFork
    split
    · exact h
    rename_i hardfork db hre
    obtain ⟨chain, hst⟩ := h.stores
    exact ⟨⟨chain, hst.of_frame (HardFork.reorganizeFromChainHeight_frame hre)⟩, h.pool⟩
  frame := by
    intro bc bc' hdb _ hpool h
    exact ⟨hdb ▸ h.stores, hpool ▸ h.pool⟩
  addTx := by
    intro now tx keptByBlock bc h
    exact ⟨h.stores, h.pool.addTxOf _ (isStorable_of_checks n bc.version tx) keptByBlock now⟩

/-- The coins generated up to each stored block, by height. -/
def generatedCoins (db : BlockchainDB) : List UInt64 := db.blockInfo.map MdbBlockInfo.coins

theorem getBlockAlreadyGeneratedCoins_eq (db : BlockchainDB) (i : ℕ) :
    db.getBlockAlreadyGeneratedCoins i = ((generatedCoins db)[i]?).getD 0 := by
  simp [getBlockAlreadyGeneratedCoins, generatedCoins]

@[simp] theorem length_generatedCoins (db : BlockchainDB) : (generatedCoins db).length = db.height := by
  simp [generatedCoins, blockInfo, height]

/-- The saturating update of the generated coins stays between the old value
and `MONEY_SUPPLY`, without wrapping. -/
theorem nextAlreadyGeneratedCoins_bounds {g : UInt64} (hg : g ≤ moneySupply) (baseReward : UInt64) :
    g ≤ nextAlreadyGeneratedCoins g baseReward ∧ nextAlreadyGeneratedCoins g baseReward ≤ moneySupply := by
  unfold nextAlreadyGeneratedCoins
  split
  · rename_i hlt
    have hg' := UInt64.le_iff_toNat_le.mp hg
    have hlt' := UInt64.lt_iff_toNat_lt.mp hlt
    rw [moneySupply_sub_toNat hg] at hlt'
    have hms : moneySupply.toNat = 1000000000000000000 := rfl
    -- the sum stays below `MONEY_SUPPLY`, far below `2^64`
    have hsum : (g + baseReward).toNat = g.toNat + baseReward.toNat := by
      rw [UInt64.toNat_add]
      exact Nat.mod_eq_of_lt (by omega)
    rw [UInt64.le_iff_toNat_le, UInt64.le_iff_toNat_le, hsum]
    omega
  · exact ⟨hg, UInt64.le_refl _⟩

/-- The coins generated up to the stored blocks never decrease and never
exceed `MONEY_SUPPLY`. -/
structure CoinsInRange (db : BlockchainDB) : Prop where
  monotone : (generatedCoins db).Pairwise (· ≤ ·)
  le_moneySupply : ∀ c ∈ generatedCoins db, c ≤ moneySupply

section CoinsInRange

variable {db : BlockchainDB}

theorem CoinsInRange.coins_le (hc : CoinsInRange db) {i j : ℕ} (hij : i ≤ j) (hj : j < db.height) :
    db.getBlockAlreadyGeneratedCoins i ≤ db.getBlockAlreadyGeneratedCoins j := by
  have hj' : j < (generatedCoins db).length := by rwa [length_generatedCoins]
  rw [getBlockAlreadyGeneratedCoins_eq, getBlockAlreadyGeneratedCoins_eq,
    List.getElem?_eq_getElem (by omega), List.getElem?_eq_getElem hj', Option.getD_some, Option.getD_some]
  rcases Nat.lt_or_eq_of_le hij with hlt | rfl
  · exact List.pairwise_iff_getElem.mp hc.monotone i j _ hj' hlt
  · exact UInt64.le_refl _

theorem CoinsInRange.coins_le_moneySupply (hc : CoinsInRange db) {i : ℕ} (hi : i < db.height) :
    db.getBlockAlreadyGeneratedCoins i ≤ moneySupply := by
  have hi' : i < (generatedCoins db).length := by rwa [length_generatedCoins]
  rw [getBlockAlreadyGeneratedCoins_eq, List.getElem?_eq_getElem hi', Option.getD_some]
  exact hc.le_moneySupply _ (List.getElem_mem _)

theorem CoinsInRange.alreadyGeneratedCoins_le (hc : CoinsInRange db) :
    alreadyGeneratedCoins db ≤ moneySupply := by
  unfold alreadyGeneratedCoins
  split
  · exact hc.coins_le_moneySupply (by omega)
  · decide

/-- The top block's value bounds every stored one. -/
theorem CoinsInRange.le_alreadyGeneratedCoins (hc : CoinsInRange db) :
    ∀ c ∈ generatedCoins db, c ≤ alreadyGeneratedCoins db := by
  intro c hcm
  obtain ⟨i, hi, rfl⟩ := List.getElem_of_mem hcm
  have hi' : i < db.height := by rwa [length_generatedCoins] at hi
  have key := hc.coins_le (Nat.le_sub_one_of_lt hi') (by omega : db.height - 1 < db.height)
  unfold alreadyGeneratedCoins
  rw [if_pos (by omega)]
  rwa [getBlockAlreadyGeneratedCoins_eq db i, List.getElem?_eq_getElem hi, Option.getD_some] at key

theorem CoinsInRange.of_chain_eq {db' : BlockchainDB} (hc : CoinsInRange db) (h : db'.chain = db.chain) :
    CoinsInRange db' := by
  have hcoins : generatedCoins db' = generatedCoins db := by
    simp [generatedCoins, blockInfo, h]
  exact ⟨hcoins ▸ hc.monotone, hcoins ▸ hc.le_moneySupply⟩

/-- `add_block` with the saturated sum keeps the values in range. -/
theorem CoinsInRange.addBlock {db' : BlockchainDB} (hc : CoinsInRange db) {p : Primitives}
    {hf hf' : HardFork} {blk : Block} {bs cd baseReward : UInt64} {txs : List Transaction} {k : ℕ}
    (h : db.addBlock p hf blk bs cd (nextAlreadyGeneratedCoins (alreadyGeneratedCoins db) baseReward) txs =
      .ok (db', hf', k)) :
    CoinsInRange db' := by
  obtain ⟨hge, hle⟩ := nextAlreadyGeneratedCoins_bounds hc.alreadyGeneratedCoins_le baseReward
  have hcoins : generatedCoins db' =
      generatedCoins db ++ [nextAlreadyGeneratedCoins (alreadyGeneratedCoins db) baseReward] := by
    simp [generatedCoins, blockInfo, addBlock_chain_eq h]
  refine ⟨?_, ?_⟩
  · rw [hcoins, List.pairwise_append]
    refine ⟨hc.monotone, List.pairwise_singleton _ _, fun a ha b hb => ?_⟩
    rw [List.mem_singleton.mp hb]
    exact UInt64.le_trans (hc.le_alreadyGeneratedCoins a ha) hge
  · intro c hcm
    rw [hcoins, List.mem_append, List.mem_singleton] at hcm
    rcases hcm with hcm | hcm
    · exact hc.le_moneySupply c hcm
    · rw [hcm]
      exact hle

/-- `pop_block` drops the top value. -/
theorem CoinsInRange.popBlock (hc : CoinsInRange db) {p : Primitives}
    {r : BlockchainDB × Block × List Transaction} (h : db.popBlock p = .ok r) : CoinsInRange r.1 := by
  have hcoins : generatedCoins r.1 = (generatedCoins db).dropLast := by
    simp [generatedCoins, blockInfo, popBlock_chain h, List.map_dropLast]
  refine ⟨?_, ?_⟩
  · rw [hcoins]
    exact hc.monotone.sublist (List.dropLast_sublist _)
  · intro c hcm
    rw [hcoins] at hcm
    exact hc.le_moneySupply c ((List.dropLast_sublist _).subset hcm)

end CoinsInRange

theorem coinsInRange_initial (hardfork : HardFork) (checkpoints : List (ℕ × Hash)) :
    CoinsInRange (initial hardfork checkpoints).db :=
  ⟨by simp [generatedCoins, blockInfo, initial, BlockchainDB.empty],
    by simp [generatedCoins, blockInfo, initial, BlockchainDB.empty]⟩

theorem coinsInRange_preserved : Preserved n (fun bc => CoinsInRange bc.db) where
  handleBlockToMainChain := by
    intro now bl id bvc bc r bvc' bc' hr h
    obtain rfl : bc' = (bc.handleBlockToMainChain n now bl id bvc).2.2 := by rw [hr]
    rcases handleBlockToMainChain_inv n now bl id bvc bc with
      h' | ⟨res, pool, txs, bc₁, -, -, hdb, -, -, h'⟩ | ⟨acc, pool, br, pr, db, hardfork, k, -, -, -, hadd, h'⟩ <;>
      rw [h']
    · exact h
    · rw [returnTxToPool_db, hdb]
      exact h
    · exact h.addBlock hadd
  popBlockFromBlockchain := by
    intro now bc r hr h
    subst hr
    unfold Blockchain.popBlockFromBlockchain
    split
    · exact h
    rename_i db' blk txs hpop
    simp only [EStateM.Result.state_ok, returnTxToPool_db]
    exact h.popBlock hpop
  reorganizeHardFork := by
    intro height bc r hr h
    subst hr
    unfold Blockchain.reorganizeHardFork
    split
    · exact h
    rename_i hardfork db hre
    exact h.of_chain_eq (HardFork.reorganizeFromChainHeight_frame hre).chain
  frame := fun _ _ hdb _ _ h => hdb ▸ h
  addTx := fun _ _ _ _ h => h

end Blockchain

end Ombre
