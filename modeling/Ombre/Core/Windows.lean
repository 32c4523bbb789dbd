import Ombre.DB.State
import Ombre.Basic.Difficulty

/-!
# The windows of the main chain and of an alternative chain

A block is checked against the difficulty and the median timestamp of a window
of the blocks below it. `Blockchain` computes each window twice: once from the
stored chain, for a block on top of the main chain (`get_difficulty_for_next_block`,
`check_block_timestamp(b)`), and once from an alternative chain completed with
main-chain blocks, for a block on a fork (`get_next_difficulty_for_alternative_chain`,
`complete_timestamps_vector` followed by `check_block_timestamp(timestamps, b)`).

The difficulty windows agree: for an alternative chain forking above the main
block `f - 1`, the alternative computation is the main computation on the chain
`main[0, f) ++ alt` (`getNextDifficultyForAlternativeChain_eq`). The timestamp
windows do not always agree, see `Ombre.Core.TimestampWindow`.
-/

namespace Ombre

/-- `block_extended_info`: an alternative block with its height and the totals
after it. -/
structure BlockExtendedInfo where
  bl : Block
  height : UInt64
  blockCumulativeSize : UInt64
  cumulativeDifficulty : UInt64
  alreadyGeneratedCoins : UInt64
deriving DecidableEq, Inhabited

namespace BlockchainDB

/-- The (timestamp, cumulative difficulty) pairs of the stored chain, the only
data the two windows read. -/
def tsDiffs (db : BlockchainDB) : List (UInt64 × UInt64) :=
  db.blockInfo.map fun i => (i.timestamp, i.diff)

@[simp] theorem length_tsDiffs (db : BlockchainDB) : db.tsDiffs.length = db.height := by
  simp [tsDiffs, blockInfo, height]

theorem getBlockTimestamp_eq (db : BlockchainDB) (h : ℕ) :
    db.getBlockTimestamp h = (db.tsDiffs.map Prod.fst).getD h 0 := by
  simp only [getBlockTimestamp, tsDiffs, List.getD_eq_getElem?_getD, List.getElem?_map,
    Option.map_map]
  rfl

theorem getBlockCumulativeDifficulty_eq (db : BlockchainDB) (h : ℕ) :
    db.getBlockCumulativeDifficulty h = (db.tsDiffs.map Prod.snd).getD h 0 := by
  simp only [getBlockCumulativeDifficulty, tsDiffs, List.getD_eq_getElem?_getD,
    List.getElem?_map, Option.map_map]
  rfl

/-- The timestamps of the heights `[lo, hi)` of the stored chain. -/
theorem readRange_timestamp (db : BlockchainDB) {lo hi : ℕ} (h : hi ≤ db.height) :
    Window.readRange db.getBlockTimestamp lo hi =
      ((db.tsDiffs.take hi).drop lo).map Prod.fst := by
  have hfun : db.getBlockTimestamp = fun i => (db.tsDiffs.map Prod.fst).getD i 0 :=
    funext (getBlockTimestamp_eq db)
  rw [hfun, Window.readRange_getD _ _ (by simpa using h), ← List.map_take, ← List.map_drop]

/-- The cumulative difficulties of the heights `[lo, hi)` of the stored chain. -/
theorem readRange_cumulativeDifficulty (db : BlockchainDB) {lo hi : ℕ} (h : hi ≤ db.height) :
    Window.readRange db.getBlockCumulativeDifficulty lo hi =
      ((db.tsDiffs.take hi).drop lo).map Prod.snd := by
  have hfun : db.getBlockCumulativeDifficulty = fun i => (db.tsDiffs.map Prod.snd).getD i 0 :=
    funext (getBlockCumulativeDifficulty_eq db)
  rw [hfun, Window.readRange_getD _ _ (by simpa using h), ← List.map_take, ← List.map_drop]

end BlockchainDB

/-! ## The difficulty of the next block -/

/-- The first height of the difficulty window below height `height`: the last
`DIFFICULTY_BLOCKS_COUNT_V2` blocks, never the genesis block. -/
def difficultyWindowStart (height : ℕ) : ℕ :=
  let offset := height - min height difficultyBlocksCountV2
  if offset = 0 then offset + 1 else offset

/-- Away from genesis the window starts `DIFFICULTY_BLOCKS_COUNT_V2` below the
top; below that it starts at height 1. -/
theorem difficultyWindowStart_eq (height : ℕ) :
    difficultyWindowStart height = max 1 (height - difficultyBlocksCountV2) := by
  unfold difficultyWindowStart
  dsimp only
  split <;> omega

/-- The first main-chain height read for an alternative chain of `altLength`
blocks whose front is at height `stop`. -/
def altWindowStart (altLength stop : ℕ) : ℕ :=
  let mainChainCount := min (difficultyBlocksCountV2 - min difficultyBlocksCountV2 altLength) stop
  let mainChainStartOffset := stop - mainChainCount
  -- skip the genesis block
  if mainChainStartOffset = 0 then mainChainStartOffset + 1 else mainChainStartOffset

/-- For a short alternative chain the main-chain part starts where the window
of the spliced chain starts. -/
theorem altWindowStart_eq {k f : ℕ} (hk : k < difficultyBlocksCountV2) :
    altWindowStart k f = difficultyWindowStart (f + k) := by
  unfold altWindowStart difficultyWindowStart
  dsimp only
  split <;> split <;> omega

/-- `Blockchain::get_difficulty_for_next_block`. The cached branch of the
source is guarded by `timestamps.size() >= block_count` on the freshly
declared, empty local vector `timestamps`, so it is never taken; the window is
read from the store every time. -/
def getDifficultyForNextBlock (db : BlockchainDB) : UInt64 :=
  let height := db.height
  let offset := difficultyWindowStart height
  let timestamps := Window.readRange db.getBlockTimestamp offset height
  let difficulties := Window.readRange db.getBlockCumulativeDifficulty offset height
  nextDifficultyV1 timestamps difficulties difficultyTarget

/-- The (timestamp, cumulative difficulty) pairs of an alternative chain. -/
def altTsDiffs (altChain : List BlockExtendedInfo) : List (UInt64 × UInt64) :=
  altChain.map fun e => (e.bl.timestamp, e.cumulativeDifficulty)

/-- `Blockchain::get_next_difficulty_for_alternative_chain`: the difficulty for
the block `bei` on top of `altChain` (front at the fork, back at the parent of
`bei`). A short alternative chain is preceded by main-chain blocks below its
front; a long one contributes its last `DIFFICULTY_BLOCKS_COUNT_V2` blocks,
copied into the window from the back. The failed size check returns
`false`, that is difficulty 0. -/
def getNextDifficultyForAlternativeChain (db : BlockchainDB)
    (altChain : List BlockExtendedInfo) (bei : BlockExtendedInfo) : UInt64 :=
  let blockCount := difficultyBlocksCountV2
  if altChain.length < blockCount then
    let mainChainStopOffset := ((altChain.head?).map fun e => e.height.toNat).getD bei.height.toNat
    let mainChainStartOffset := altWindowStart altChain.length mainChainStopOffset
    let timestamps :=
      Window.readRange db.getBlockTimestamp mainChainStartOffset mainChainStopOffset
    let difficulties :=
      Window.readRange db.getBlockCumulativeDifficulty mainChainStartOffset mainChainStopOffset
    if altChain.length + timestamps.length ≤ blockCount then
      nextDifficultyV1 (timestamps ++ altChain.map fun e => e.bl.timestamp)
        (difficulties ++ altChain.map fun e => e.cumulativeDifficulty) difficultyTarget
    else 0
  else
    let filled := Window.fillBack blockCount (blockCount - 1) (List.replicate blockCount (0, 0)) 0
      (altTsDiffs altChain).reverse
    nextDifficultyV1 (filled.map Prod.fst) (filled.map Prod.snd) difficultyTarget

/-- The main computation reads the window starting at `difficultyWindowStart`
of the stored pairs. -/
theorem getDifficultyForNextBlock_eq (db : BlockchainDB) :
    getDifficultyForNextBlock db =
      nextDifficultyV1 ((db.tsDiffs.drop (difficultyWindowStart db.height)).map Prod.fst)
        ((db.tsDiffs.drop (difficultyWindowStart db.height)).map Prod.snd) difficultyTarget := by
  have htake : db.tsDiffs.take db.height = db.tsDiffs := List.take_of_length_le (by simp)
  simp only [getDifficultyForNextBlock, db.readRange_timestamp le_rfl,
    db.readRange_cumulativeDifficulty le_rfl, htake]

/-- For a short alternative chain, the main-chain part of the window followed by
the alternative chain is the window of the spliced chain, and it fits the
window size. -/
theorem short_window_eq (main alt : List (UInt64 × UInt64)) (f : ℕ) (hf : 1 ≤ f)
    (hfH : f ≤ main.length) (hk : alt.length < difficultyBlocksCountV2) :
    (main.take f).drop (altWindowStart alt.length f) ++ alt =
        (main.take f ++ alt).drop (difficultyWindowStart (f + alt.length)) ∧
      alt.length + (f - altWindowStart alt.length f) ≤ difficultyBlocksCountV2 := by
  have hlen : (main.take f).length = f := by simp; omega
  have hstart := difficultyWindowStart_eq (f + alt.length)
  rw [altWindowStart_eq hk, List.drop_append_of_le_length (by omega)]
  exact ⟨rfl, by omega⟩

/-- For a long alternative chain, the window of the spliced chain lies inside the
alternative chain. -/
theorem long_window_eq (main alt : List (UInt64 × UInt64)) (f : ℕ) (hf : 1 ≤ f)
    (hfH : f ≤ main.length) (hk : difficultyBlocksCountV2 ≤ alt.length) :
    (main.take f ++ alt).drop (difficultyWindowStart (f + alt.length)) =
      alt.drop (alt.length - difficultyBlocksCountV2) := by
  have hlen : (main.take f).length = f := by simp; omega
  have hlo : difficultyWindowStart (f + alt.length) =
      f + (alt.length - difficultyBlocksCountV2) := by
    rw [difficultyWindowStart_eq]
    have : 0 < difficultyBlocksCountV2 := by decide
    omega
  rw [hlo, List.drop_append, hlen, List.drop_of_length_le (by omega), List.nil_append,
    Nat.add_sub_cancel_left]

/-- **Main-chain and alternative-chain difficulty agree.** For an alternative
chain whose front sits at height `f ≥ 1` above the main block `f - 1` (and, when
it is empty, for a new block at height `f`), the alternative computation equals
the main computation on any store holding the chain `main[0, f) ++ alt`. -/
theorem getNextDifficultyForAlternativeChain_eq (db db' : BlockchainDB)
    (altChain : List BlockExtendedInfo) (bei : BlockExtendedInfo) (f : ℕ)
    (hf : 1 ≤ f) (hfH : f ≤ db.height)
    (hfront : ((altChain.head?).map fun e => e.height.toNat).getD bei.height.toNat = f)
    (hsplice : db'.tsDiffs = db.tsDiffs.take f ++ altTsDiffs altChain) :
    getNextDifficultyForAlternativeChain db altChain bei = getDifficultyForNextBlock db' := by
  have hheight : db'.height = f + altChain.length := by
    rw [← db'.length_tsDiffs, hsplice]
    simp [altTsDiffs]
    omega
  rw [getDifficultyForNextBlock_eq, hheight, hsplice]
  have hk : (altTsDiffs altChain).length = altChain.length := by simp [altTsDiffs]
  unfold getNextDifficultyForAlternativeChain
  dsimp only
  split
  · -- short alternative chain
    rename_i hshort
    obtain ⟨hwin, hsize⟩ := short_window_eq db.tsDiffs (altTsDiffs altChain) f hf
      (by simpa using hfH) (by omega)
    rw [hk] at hwin hsize
    simp only [hfront]
    rw [db.readRange_timestamp hfH, db.readRange_cumulativeDifficulty hfH,
      List.length_map, if_pos (by simp only [List.length_drop, List.length_take]; omega), ← hwin]
    simp [altTsDiffs, Function.comp_def]
  · -- long alternative chain
    rename_i hlong
    have hfill := Window.fillBack_reverse difficultyBlocksCountV2 (by decide) (0, 0)
      (altTsDiffs altChain) (by omega)
    rw [hfill, ← hk, ← long_window_eq db.tsDiffs (altTsDiffs altChain) f hf
      (by simpa using hfH) (by omega), hk]

/-- A main chain holding the genesis block only, stamped 0. -/
def genesisOnlyStore : BlockchainDB :=
  { BlockchainDB.empty with chain := [{ block := default, info := ⟨0, 0, 0, 1, default⟩ }] }

/-- The alternative chain of two blocks above genesis, stamped 100 and 200. -/
def twoBlockFork : List BlockExtendedInfo :=
  [{ bl := { (default : Block) with timestamp := 100 }, height := 1, blockCumulativeSize := 0,
      cumulativeDifficulty := 2, alreadyGeneratedCoins := 0 },
    { bl := { (default : Block) with timestamp := 200 }, height := 2, blockCumulativeSize := 0,
      cumulativeDifficulty := 3, alreadyGeneratedCoins := 0 }]

/-- The spliced chain genesis, 100, 200 as a main chain, each block one unit
of difficulty above its parent. -/
def twoBlockForkAsMain : BlockchainDB :=
  { BlockchainDB.empty with
    chain := genesisOnlyStore.chain ++ twoBlockFork.map fun e =>
      { block := e.bl, info := ⟨e.bl.timestamp, 0, 0, e.cumulativeDifficulty, default⟩ } }

theorem getNextDifficultyForAlternativeChain_eq_twoBlockFork :
    getNextDifficultyForAlternativeChain genesisOnlyStore twoBlockFork default =
      getDifficultyForNextBlock twoBlockForkAsMain :=
  getNextDifficultyForAlternativeChain_eq genesisOnlyStore twoBlockForkAsMain twoBlockFork default 1
    (by decide) (by decide) (by decide) (by decide)

end Ombre
