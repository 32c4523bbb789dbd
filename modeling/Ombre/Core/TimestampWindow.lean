import Ombre.Core.Windows

/-!
# The median-timestamp rule on the main chain and on a fork

A block on top of the main chain must not be older than the median of the last
`BLOCKCHAIN_TIMESTAMP_CHECK_WINDOW` stored timestamps, and the rule is waived
while the chain is shorter than the window (`check_block_timestamp(b)`). A
block on a fork is checked by `handle_alternative_block` against the median of
the timestamps of the whole alternative chain, completed from the main chain
below the fork by `complete_timestamps_vector`, which never reads the genesis
block (`check_block_timestamp(timestamps, b)`, with no waiver).

The two rules are not the same rule. Near genesis the fork rule takes a median
where the main rule takes none (`timestamp_rules_disagree_near_genesis`). They
agree once the spliced chain `main[0, f) ++ alt` is longer than the window and
the alternative chain is not (`checkAlternativeBlockTimestamp_eq`): both then
take the median of the same sixty timestamps, gathered in different orders.
-/

namespace Ombre

instance uint64LeTotal : Std.Total (α := UInt64) (· ≤ ·) := ⟨UInt64.le_total⟩
instance uint64LeTrans : IsTrans UInt64 (· ≤ ·) := ⟨fun _ _ _ => UInt64.le_trans⟩
instance uint64LeAntisymm : Std.Antisymm (α := UInt64) (· ≤ ·) := ⟨fun _ _ => UInt64.le_antisymm⟩

/-- `epee::misc_utils::median` on `uint64_t`: the middle element of the sorted
sample, or the wrapping average `(v[n - 1] + v[n]) / 2` of the two middle ones. -/
def median (v : List UInt64) : UInt64 :=
  Window.median (· ≤ ·) (fun a b => (a + b) / 2) 0 v

theorem median_perm {v w : List UInt64} (h : v.Perm w) : median v = median w :=
  Window.median_perm (· ≤ ·) _ _ h

/-- `Blockchain::check_block_timestamp(timestamps, b, median_ts)`: the block is
not older than the median of `timestamps`. -/
def checkBlockTimestampOf (timestamps : List UInt64) (b : Block) : Bool :=
  !(b.timestamp < median timestamps)

/-- `Blockchain::check_block_timestamp(b, median_ts)` for a block on top of the
stored chain. `adjustedTime` is `get_adjusted_time()`, the local clock;
`forkDiffV2` is `check_hard_fork_feature(FORK_DIFF_V2)`. -/
def checkBlockTimestamp (db : BlockchainDB) (adjustedTime : UInt64) (forkDiffV2 : Bool)
    (b : Block) : Bool :=
  let window :=
    if forkDiffV2 then blockchainTimestampCheckWindowV2 else blockchainTimestampCheckWindowV1
  if b.timestamp > adjustedTime + blockFutureTimeLimit then false
  -- not enough blocks for a proper median yet
  else if db.height < window then true
  else checkBlockTimestampOf (Window.readRange db.getBlockTimestamp (db.height - window) db.height) b

/-- `Blockchain::complete_timestamps_vector`: append main-chain timestamps from
`startTopHeight` downwards until the window is full, stopping above height
`stop_offset`, so the genesis block is never read. The flag is `false` when
`startTopHeight` is not a stored height. -/
def completeTimestampsVector (db : BlockchainDB) (startTopHeight : ℕ)
    (timestamps : List UInt64) : Bool × List UInt64 :=
  let windowSize := blockchainTimestampCheckWindowV2
  if timestamps.length ≥ windowSize then (true, timestamps)
  else
    let needElements := windowSize - timestamps.length
    if ¬ startTopHeight < db.height then (false, timestamps)
    else
      let stopOffset := if startTopHeight > needElements then startTopHeight - needElements else 0
      (true, timestamps ++ Window.readDown db.getBlockTimestamp stopOffset startTopHeight)

/-- The timestamps `handle_alternative_block` collects on its walk from the
parent of the new block down to the front of the alternative chain. -/
def altChainTimestamps (altChain : List BlockExtendedInfo) : List UInt64 :=
  (altChain.map fun e => e.bl.timestamp).reverse

/-- The median-timestamp check of `handle_alternative_block` for a block `b`
extending `altChain`; `parentHeight` is the main-chain height below the fork
(the height of the front's parent, or of `b`'s parent when `altChain` is
empty). The flag of `complete_timestamps_vector` is not read by the caller. -/
def checkAlternativeBlockTimestamp (db : BlockchainDB) (altChain : List BlockExtendedInfo)
    (parentHeight : ℕ) (b : Block) : Bool :=
  checkBlockTimestampOf (completeTimestampsVector db parentHeight (altChainTimestamps altChain)).2 b

namespace BlockchainDB

/-- The stored timestamps, in height order. -/
def timestamps (db : BlockchainDB) : List UInt64 := db.blockInfo.map MdbBlockInfo.timestamp

@[simp] theorem length_timestamps (db : BlockchainDB) : db.timestamps.length = db.height := by
  simp [timestamps, blockInfo, height]

theorem readRange_timestamps (db : BlockchainDB) {lo hi : ℕ} (h : hi ≤ db.height) :
    Window.readRange db.getBlockTimestamp lo hi = (db.timestamps.take hi).drop lo := by
  rw [db.readRange_timestamp h, List.map_drop, List.map_take]
  simp [tsDiffs, timestamps, Function.comp_def]

end BlockchainDB

/-- The main rule on a chain at least as long as the window reads its last sixty
timestamps. -/
theorem checkBlockTimestamp_of_long (db : BlockchainDB) (adjustedTime : UInt64)
    (forkDiffV2 : Bool) (b : Block) (hftl : b.timestamp ≤ adjustedTime + blockFutureTimeLimit)
    (hlong : 60 ≤ db.height) :
    checkBlockTimestamp db adjustedTime forkDiffV2 b =
      checkBlockTimestampOf (db.timestamps.drop (db.height - 60)) b := by
  have hwin : (if forkDiffV2 then blockchainTimestampCheckWindowV2
      else blockchainTimestampCheckWindowV1) = 60 := by split <;> rfl
  have htake : db.timestamps.take db.height = db.timestamps := List.take_of_length_le (by simp)
  simp only [checkBlockTimestamp, hwin, if_neg (UInt64.not_lt.mpr hftl),
    if_neg (not_lt.mpr hlong), db.readRange_timestamps le_rfl, htake]

/-- A full window is left as it is. -/
theorem completeTimestampsVector_of_full (db : BlockchainDB) (startTopHeight : ℕ)
    (timestamps : List UInt64) (h : 60 ≤ timestamps.length) :
    completeTimestampsVector db startTopHeight timestamps = (true, timestamps) :=
  if_pos h

/-- The fork rule with a short alternative chain above height `f - 1`: the
alternative timestamps, newest first, followed by the main timestamps of the
heights `[f + k - 60, f)`, newest first. -/
theorem completeTimestampsVector_of_short (db : BlockchainDB) (altChain : List BlockExtendedInfo)
    (f : ℕ) (hf : 1 ≤ f) (hfH : f ≤ db.height) (hk : altChain.length < 60)
    (hlong : 60 < f + altChain.length) :
    (completeTimestampsVector db (f - 1) (altChainTimestamps altChain)).2 =
      altChainTimestamps altChain ++
        ((db.timestamps.take f).drop (f + altChain.length - 60)).reverse := by
  have hlen : (altChainTimestamps altChain).length = altChain.length := by
    simp [altChainTimestamps]
  -- the loop stops above `stop_offset`, which is `f + k - 61` in both branches
  have hstop : (if f - 1 > 60 - altChain.length then f - 1 - (60 - altChain.length) else 0) + 1 =
      f + altChain.length - 60 := by
    split <;> omega
  have hdown := Window.readDown_eq_reverse db.getBlockTimestamp
    (if f - 1 > 60 - altChain.length then f - 1 - (60 - altChain.length) else 0) (f - 1)
    (by split <;> omega)
  rw [hstop, Nat.sub_add_cancel hf, db.readRange_timestamps hfH] at hdown
  simp only [completeTimestampsVector, blockchainTimestampCheckWindowV2, hlen,
    if_neg (show ¬ altChain.length ≥ 60 by omega), if_neg (not_not.mpr (show f - 1 < db.height by omega))]
  rw [hdown]

/-- Beyond the window the fork rule reads the timestamps of the heights
`[f + k - 60, f + k)` of the spliced chain `main[0, f) ++ alt`, in another
order. -/
theorem completeTimestampsVector_perm (db : BlockchainDB) (altChain : List BlockExtendedInfo)
    (f : ℕ) (hf : 1 ≤ f) (hfH : f ≤ db.height) (hk : altChain.length ≤ 60)
    (hlong : 60 < f + altChain.length) :
    (completeTimestampsVector db (f - 1) (altChainTimestamps altChain)).2.Perm
      ((db.timestamps.take f).drop (f + altChain.length - 60) ++
        altChain.map fun e => e.bl.timestamp) := by
  rcases Nat.lt_or_ge altChain.length 60 with hshort | hfull
  · -- the alternative chain is completed from the main chain
    rw [completeTimestampsVector_of_short db altChain f hf hfH hshort hlong, altChainTimestamps]
    exact ((List.reverse_perm _).append (List.reverse_perm _)).trans List.perm_append_comm
  · -- the alternative chain fills the window by itself
    have hnone : (db.timestamps.take f).drop (f + altChain.length - 60) = [] :=
      List.drop_of_length_le (by simp; omega)
    have hfull' : 60 ≤ (altChainTimestamps altChain).length := by
      simpa [altChainTimestamps] using hfull
    rw [completeTimestampsVector_of_full db _ _ hfull', hnone, List.nil_append]
    exact List.reverse_perm _

/-- **The rules agree beyond the window.** When the alternative chain has at
most `BLOCKCHAIN_TIMESTAMP_CHECK_WINDOW` blocks and the spliced chain
`main[0, f) ++ alt` has more, the fork rule accepts a block within the future
time limit exactly when the main rule would accept it on the spliced chain. -/
theorem checkAlternativeBlockTimestamp_eq (db db' : BlockchainDB)
    (altChain : List BlockExtendedInfo) (b : Block) (f : ℕ) (adjustedTime : UInt64)
    (forkDiffV2 : Bool) (hf : 1 ≤ f) (hfH : f ≤ db.height)
    (hsplice : db'.timestamps = db.timestamps.take f ++ altChain.map fun e => e.bl.timestamp)
    (hk : altChain.length ≤ 60) (hlong : 60 < f + altChain.length)
    (hftl : b.timestamp ≤ adjustedTime + blockFutureTimeLimit) :
    checkAlternativeBlockTimestamp db altChain (f - 1) b =
      checkBlockTimestamp db' adjustedTime forkDiffV2 b := by
  have hheight : db'.height = f + altChain.length := by
    rw [← db'.length_timestamps, hsplice]
    simp
    omega
  have hperm := completeTimestampsVector_perm db altChain f hf hfH hk hlong
  rw [checkBlockTimestamp_of_long db' adjustedTime forkDiffV2 b hftl (by omega), hheight, hsplice,
    List.drop_append_of_le_length (by simp; omega)]
  simp only [checkAlternativeBlockTimestamp, checkBlockTimestampOf, median_perm hperm]

/-- A long main chain: the genesis block and sixty more, all stamped 0. -/
def sixtyOneBlockStore : BlockchainDB :=
  { BlockchainDB.empty with chain := List.replicate 61 default }

/-- A one-block fork replacing the top of `sixtyOneBlockStore`. -/
def oneBlockFork : List BlockExtendedInfo :=
  [{ bl := { (default : Block) with timestamp := 100 }, height := 60, blockCumulativeSize := 0,
      cumulativeDifficulty := 0, alreadyGeneratedCoins := 0 }]

/-- `sixtyOneBlockStore` with its top block replaced by the fork. -/
def oneBlockForkAsMain : BlockchainDB :=
  { BlockchainDB.empty with
    chain := List.replicate 60 default ++ [{ block := default, info := { (default : MdbBlockInfo) with timestamp := 100 } }] }

theorem checkAlternativeBlockTimestamp_eq_oneBlockFork :
    checkAlternativeBlockTimestamp sixtyOneBlockStore oneBlockFork 59 default =
      checkBlockTimestamp oneBlockForkAsMain 0 true default :=
  checkAlternativeBlockTimestamp_eq sixtyOneBlockStore oneBlockForkAsMain oneBlockFork default 60 0 true
    (by decide) (by decide) (by decide) (by decide) (by decide) (by decide)

/-- **The rules disagree near genesis.** A block stamped 0 on top of the fork
`100, 200` above genesis is accepted by the main rule on the spliced chain of
height 3, where no median is taken, and rejected by the fork rule, which takes
the median 150 of the two fork timestamps. -/
theorem timestamp_rules_disagree_near_genesis :
    ¬ ∀ (db db' : BlockchainDB) (altChain : List BlockExtendedInfo) (b : Block) (f : ℕ)
      (adjustedTime : UInt64) (forkDiffV2 : Bool), 1 ≤ f → f ≤ db.height →
      db'.timestamps = db.timestamps.take f ++ altChain.map (fun e => e.bl.timestamp) →
      b.timestamp ≤ adjustedTime + blockFutureTimeLimit →
      (checkAlternativeBlockTimestamp db altChain (f - 1) b =
        checkBlockTimestamp db' adjustedTime forkDiffV2 b) := by
  intro h
  have hagree := h genesisOnlyStore twoBlockForkAsMain twoBlockFork default 1 0 true
    (by decide) (by decide) (by decide) (by decide)
  revert hagree
  decide

end Ombre
