import Ombre.Core.Blockchain

/-!
# Alternative chains and reorganisation

`add_new_block`, `handle_alternative_block`, `switch_to_alternative_blockchain`
and `rollback_blockchain_switching` of `blockchain.cpp`.

A block whose parent is not the top of the main chain is checked against the
chain it extends (its alternative chain, a walk through `m_alternative_chains`
down to the main chain) and stored as an alternative block. When it makes its
chain heavier than the main chain, or lands on a checkpoint, the node
reorganises: it pops the main chain down to the fork, connects the alternative
blocks through `handle_block_to_main_chain`, and on a failure rolls back by
popping what it connected and re-adding the blocks it popped.

These functions can throw (a failed pop, a failed read of the hard-fork
table, a missing block header), and what they wrote before the throw stays, so
they return an `EStateM.Result` carrying the state at the throw. The two
recursions of the source (`handle_alternative_block` re-adding disconnected
blocks through `switch_to_alternative_blockchain`, and the walk through the
alternative blocks) are bounded by fuel; every loop that pops blocks is bounded
by the height plus one, which is never exhausted, since popping the empty
chain throws.
-/

namespace Ombre

namespace BlockchainDB

/-- `get_block_header(h)`: the stored block with hash `h`. -/
def getBlockHeader (db : BlockchainDB) (h : Hash) : Except DbError Block :=
  match db.getBlockHeight h with
  | none => throw (.blockDne "Attempted to retrieve non-existent block height")
  | some height => db.getBlockFromHeight height

end BlockchainDB

namespace Blockchain

variable (n : Node)

/-- Drop the alternative block `h` (`m_alternative_chains.erase`). -/
def eraseAlternative (bc : Blockchain) (h : Hash) : Blockchain :=
  { bc with alternativeChains := bc.alternativeChains.filter fun e => e.1 ≠ h }

/-- Pop main-chain blocks with `pop_block_from_blockchain` until `stop` holds,
pushing each popped block to the front of `acc`. -/
def popBlocksUntil (now : UInt64) (stop : Blockchain → Bool) :
    ℕ → List Block → Blockchain → EStateM.Result DbError Blockchain (List Block)
  | 0, acc, bc => .ok acc bc
  | fuel + 1, acc, bc =>
    if stop bc then .ok acc bc
    else match bc.popBlockFromBlockchain n now with
      | .error e bc => .error e bc
      | .ok b bc => popBlocksUntil now stop fuel (b :: acc) bc

/-- `m_hardfork->reorganize_from_chain_height(height)`; its result is not read. -/
def reorganizeHardFork (height : ℕ) (bc : Blockchain) : EStateM.Result DbError Blockchain Unit :=
  match bc.hardfork.reorganizeFromChainHeight bc.db height with
  | .error e => .error e bc
  | .ok (_, hardfork, db) => .ok () { bc with hardfork, db }

/-- The loop of `rollback_blockchain_switching` re-adding the original chain,
each block with a fresh context; `false` at the first block not added. -/
def readdBlocks (now : UInt64) : List Block → Blockchain → Bool × Blockchain
  | [], bc => (true, bc)
  | bl :: rest, bc =>
    match bc.handleBlockToMainChain n now bl (n.p.getBlockHash bl) default with
    | (r, bvc, bc) => if r && bvc.addedToMainChain then readdBlocks now rest bc else (false, bc)

/-- `rollback_blockchain_switching(original_chain, rollback_height)`: pop down
to `rollback_height`, then re-add `original_chain`. A block that cannot be
re-added ends it with `false` (the "PANIC" of the source). -/
def rollbackBlockchainSwitching (now : UInt64) (originalChain : List Block) (rollbackHeight : ℕ)
    (bc : Blockchain) : EStateM.Result DbError Blockchain Bool :=
  -- fail if rollback_height passed is too high
  if rollbackHeight > bc.db.height then .ok true bc
  else match popBlocksUntil n now (fun bc => bc.db.height = rollbackHeight) (bc.db.height + 1) [] bc with
    | .error e bc => .error e bc
    | .ok _ bc =>
      match bc.reorganizeHardFork rollbackHeight with
      | .error e bc => .error e bc
      | .ok () bc =>
        match readdBlocks n now originalChain bc with
        | (false, bc) => .ok false bc
        | (true, bc) =>
          match bc.reorganizeHardFork rollbackHeight with
          | .error e bc => .error e bc
          | .ok () bc => .ok true bc

/-- The loop of the Poisson check, from depth `i` down the main chain at
`lowBlock`: the number of failed checks and the number of checks made. A main
block not older than the top of the alternative chain counts as failed. -/
def poissonLoop (db : BlockchainDB) (highTimestamp : UInt64) (altChainSize : ℕ) :
    ℕ → ℕ → Hash → ℕ → Except DbError (ℕ × ℕ)
  | 0, i, _, failedChecks => pure (failedChecks, i - 1)
  | fuel + 1, i, lowBlock, failedChecks =>
    -- this means we reached the genesis block
    if lowBlock = nullHash then pure (failedChecks, i - 1)
    else do
      let bhd ← db.getBlockHeader lowBlock
      let lowTimestamp := bhd.timestamp
      if lowTimestamp ≥ highTimestamp then
        poissonLoop db highTimestamp altChainSize fuel (i + 1) bhd.prevId (failedChecks + 1)
      else if n.poissonReject (highTimestamp - lowTimestamp) (altChainSize + i) then
        poissonLoop db highTimestamp altChainSize fuel (i + 1) bhd.prevId (failedChecks + 1)
      else poissonLoop db highTimestamp altChainSize fuel (i + 1) bhd.prevId failedChecks

/-- The checks `switch_to_alternative_blockchain` makes on a chain of at
least `POISSON_CHECK_TRIGGER` blocks before popping anything: the future time
limit on its top block, then the Poisson test over the main chain below it.
`false` refuses the reorganisation. -/
def poissonCheck (now : UInt64) (altChain : List (Hash × BlockExtendedInfo)) (lowBlock : Hash)
    (highTimestamp : UInt64) (db : BlockchainDB) : Except DbError Bool :=
  if altChain.length < poissonCheckTrigger then pure true
  -- this would fail later anyway
  else if highTimestamp > now + blockFutureTimeLimit then pure false
  else do
    let (failedChecks, i) ← poissonLoop n db highTimestamp altChain.length poissonCheckDepth 1 lowBlock 0
    pure !(failedChecks > i / 2)

/-- The loop connecting the alternative chain, each block with a fresh
context. At the first block not added: roll back (whose result is not read),
mark that block and the ones after it invalid and drop them from the
alternative blocks, and return `false`. -/
def connectAltChain (now : UInt64) (disconnectedChain : List Block) (splitHeight : ℕ) :
    List (Hash × BlockExtendedInfo) → Blockchain → EStateM.Result DbError Blockchain Bool
  | [], bc => .ok true bc
  | (h, bei) :: rest, bc =>
    match bc.handleBlockToMainChain n now bei.bl (n.p.getBlockHash bei.bl) default with
    | (r, bvc, bc) =>
      if r && bvc.addedToMainChain then connectAltChain now disconnectedChain splitHeight rest bc
      else match bc.rollbackBlockchainSwitching n now disconnectedChain splitHeight with
        | .error e bc => .error e bc
        | .ok _ bc =>
          let bc := (bc.addBlockAsInvalid (n.p.getBlockHash bei.bl)).eraseAlternative h
          .ok false (rest.foldl (fun bc e => (bc.addBlockAsInvalid e.1).eraseAlternative e.1) bc)

/-- Push the disconnected blocks, lowest first, back as alternative blocks; a
block refused is only logged. -/
def pushDisconnectedChain (handleAlt : Block → Hash → BlockVerificationContext → Blockchain →
      EStateM.Result DbError Blockchain (Bool × BlockVerificationContext)) :
    List Block → Blockchain → EStateM.Result DbError Blockchain Unit
  | [], bc => .ok () bc
  | b :: rest, bc =>
    match handleAlt b (n.p.getBlockHash b) default bc with
    | .error e bc => .error e bc
    | .ok _ bc => pushDisconnectedChain handleAlt rest bc

/-- `switch_to_alternative_blockchain(alt_chain, discard_disconnected_chain)`:
`alt_chain` runs from the block above the fork to the new top. `handleAlt` is
`handle_alternative_block`, through which the disconnected blocks are stored
as alternative blocks. -/
def switchToAlternativeBlockchain (now : UInt64)
    (handleAlt : Block → Hash → BlockVerificationContext → Blockchain →
      EStateM.Result DbError Blockchain (Bool × BlockVerificationContext))
    (altChain : List (Hash × BlockExtendedInfo)) (discardDisconnectedChain : Bool)
    (bc : Blockchain) : EStateM.Result DbError Blockchain Bool :=
  match altChain.head?, altChain.getLast? with
  | some front, some back =>
    let forkHash := front.2.bl.prevId
    if !bc.db.blockExists forkHash then .ok false bc
    else match poissonCheck n now altChain forkHash back.2.bl.timestamp bc.db with
      | .error e => .error e bc
      | .ok false => .ok false bc
      | .ok true =>
        -- pop blocks until the top block is the parent of the front block
        match popBlocksUntil n now (fun bc => bc.db.topBlockHash = forkHash) (bc.db.height + 1) [] bc with
        | .error e bc => .error e bc
        | .ok disconnectedChain bc =>
          let splitHeight := bc.db.height
          match connectAltChain n now disconnectedChain splitHeight altChain bc with
          | .error e bc => .error e bc
          | .ok false bc => .ok false bc
          | .ok true bc =>
            let pushed := if discardDisconnectedChain then .ok () bc
              else pushDisconnectedChain n handleAlt disconnectedChain bc
            match pushed with
            | .error e bc => .error e bc
            | .ok () bc =>
              let bc := altChain.foldl (fun bc e => bc.eraseAlternative e.1) bc
              match bc.reorganizeHardFork splitHeight with
              | .error e bc => .error e bc
              | .ok () bc => .ok true bc
  -- empty chain passed
  | _, _ => .ok false bc

/-! ## `handle_alternative_block` -/

/-- The walk of `handle_alternative_block` from the block `h` back through the
alternative blocks, pushing each to the front of `acc`: the alternative chain
below a new block, front at the fork. -/
def buildAltChain (alternativeChains : List (Hash × BlockExtendedInfo)) :
    ℕ → Hash → List (Hash × BlockExtendedInfo) → List (Hash × BlockExtendedInfo)
  | 0, _, acc => acc
  | fuel + 1, h, acc =>
    match alternativeChains.find? fun e => e.1 = h with
    | none => acc
    | some e => buildAltChain alternativeChains fuel e.2.bl.prevId (e :: acc)

/-- What the checks of `handle_alternative_block` decide for a block whose
parent is known: refuse it, marking the context failed or not, or store it with
`bei` on top of `altChain`, on a checkpoint or not. -/
inductive AltVerdict where
  | reject (failed : Bool)
  | accept (altChain : List (Hash × BlockExtendedInfo)) (bei : BlockExtendedInfo) (isCheckpoint : Bool)

/-- The checks of `handle_alternative_block` once the parent of `b` is known
to be a main or an alternative block: the connection of its alternative chain
to the main chain, the timestamp, the checkpoint, the proof of work against the
difficulty of the alternative chain, and the coinbase. On success `bei` holds
the block, its height and its cumulative difficulty. -/
def checkAlternativeBlock (bc : Blockchain) (b : Block) (id : Hash) : AltVerdict :=
  let altChain := buildAltChain bc.alternativeChains bc.alternativeChains.length b.prevId []
  let altChainInfo := altChain.map Prod.snd
  -- the main-chain height the timestamps are completed from
  let connection : Option ℕ :=
    match altChain.head? with
    | some front =>
      -- make sure alt chain doesn't somehow start past the end of the main chain
      if ¬ bc.db.height > front.2.height.toNat then none
      else if !bc.db.blockExists front.2.bl.prevId then none
      else if bc.db.getBlockHashFromHeight (front.2.height - 1).toNat ≠ front.2.bl.prevId then none
      else some ((bc.db.getBlockHeight front.2.bl.prevId).getD 0)
    | none => some ((bc.db.getBlockHeight b.prevId).getD 0)
  match connection with
  | none => .reject false
  | some parentHeight =>
    if !checkAlternativeBlockTimestamp bc.db altChainInfo parentHeight b then .reject true
    else
      let (height, prevCumulativeDifficulty) :=
        match altChain.getLast? with
        | some prev => (prev.2.height + 1, prev.2.cumulativeDifficulty)
        | none =>
          let h := (bc.db.getBlockHeight b.prevId).getD 0
          (h.toUInt64 + 1, bc.db.getBlockCumulativeDifficulty h)
      let bei : BlockExtendedInfo := { (default : BlockExtendedInfo) with bl := b, height }
      let (checkpointOk, isCheckpoint) := checkCheckpoint bc.checkpoints height.toNat id
      if !checkpointOk then .reject true
      else
        let currentDiff := getNextDifficultyForAlternativeChain bc.db altChainInfo bei
        if currentDiff = 0 then .reject false
        else if !checkHash (n.getBlockLonghash b) currentDiff then .reject true
        else if !prevalidateMinerTransaction b height.toNat then .reject true
        else .accept altChain { bei with cumulativeDifficulty := prevCumulativeDifficulty + currentDiff }
          isCheckpoint

/-- `handle_alternative_block(b, id, bvc)` with `fuel` for its recursion
through `switch_to_alternative_blockchain`; out of fuel it does nothing. A
block that passes is stored, and the node reorganises when it lands on a
checkpoint (discarding the disconnected blocks) or outweighs the main chain. -/
def handleAlternativeBlock (now : UInt64) :
    ℕ → Block → Hash → BlockVerificationContext → Blockchain →
      EStateM.Result DbError Blockchain (Bool × BlockVerificationContext)
  | 0, _, _, bvc, bc => .ok (false, bvc) bc
  | fuel + 1, b, id, bvc, bc =>
    let failed := { bvc with verificationFailed := true }
    let blockHeight := (getBlockHeight b).toNat
    if blockHeight = 0 then .ok (false, failed) bc
    else if !isAlternativeBlockAllowed bc.checkpoints bc.db.height blockHeight then .ok (false, failed) bc
    -- this is a cheap test
    else if !bc.hardfork.checkForHeight b blockHeight then .ok (false, failed) bc
    else if !(bc.alternativeChains.any fun e => e.1 = b.prevId) && !bc.db.blockExists b.prevId then
      -- block orphaned
      .ok (true, { bvc with markedAsOrphaned := true }) bc
    else match checkAlternativeBlock n bc b id with
      | .reject true => .ok (false, failed) bc
      | .reject false => .ok (false, bvc) bc
      | .accept altChain bei isCheckpoint =>
        let mainChainCumulativeDifficulty := bc.db.getBlockCumulativeDifficulty (bc.db.height - 1)
        if bc.alternativeChains.any fun e => e.1 = id then .ok (false, bvc) bc
        else
          let bc := { bc with alternativeChains := bc.alternativeChains ++ [(id, bei)] }
          if isCheckpoint || mainChainCumulativeDifficulty < bei.cumulativeDifficulty then
            match switchToAlternativeBlockchain n now (handleAlternativeBlock now fuel)
                (altChain ++ [(id, bei)]) isCheckpoint bc with
            | .error e bc => .error e bc
            | .ok r bc =>
              .ok (r, if r then { bvc with addedToMainChain := true }
                else { bvc with verificationFailed := true }) bc
          else .ok (true, bvc) bc

/-- `add_new_block(bl, bvc)`: a known block is refused; a block not on top of
the main chain goes to `handle_alternative_block`, the others to
`handle_block_to_main_chain`. -/
def addNewBlock (fuel : ℕ) (now : UInt64) (bl : Block) (bvc : BlockVerificationContext)
    (bc : Blockchain) : EStateM.Result DbError Blockchain (Bool × BlockVerificationContext) :=
  let id := n.p.getBlockHash bl
  if bc.haveBlock id then .ok (false, { bvc with alreadyExists := true }) bc
  -- chain switching or wrong block
  else if bl.prevId ≠ bc.getTailId then
    handleAlternativeBlock n now fuel bl id { bvc with addedToMainChain := false } bc
  else match bc.handleBlockToMainChain n now bl id bvc with
    | (r, bvc, bc) => .ok (r, bvc) bc

end Blockchain

end Ombre
