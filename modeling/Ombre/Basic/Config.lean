import Ombre.Basic.Types

/-!
# Consensus constants

The constants of `cryptonote_config.h` that the modelled functions read, under
their C++ names in the project's case convention. `COIN_EMISSION_HEIGHT_INTERVAL`
and `PEAK_COIN_EMISSION_HEIGHT` are computed in `double` by the source; both
products are exact in binary floating point (`6 · 2629800 / 60` and
`4 · 31557600 / 60`), so they are written out as integers.
-/

namespace Ombre

/-- `MONEY_SUPPLY`: the total number of atomic units to be generated. -/
def moneySupply : UInt64 := 1000000000000000000
/-- `EMISSION_SPEED_FACTOR` -/
def emissionSpeedFactor : UInt64 := 21
/-- `FINAL_SUBSIDY`: the tail-emission floor of the base reward. -/
def finalSubsidy : UInt64 := 10000000000
/-- `GENESIS_BLOCK_REWARD` -/
def genesisBlockReward : UInt64 := 1000000000
/-- `COIN_EMISSION_HEIGHT_INTERVAL` -/
def coinEmissionHeightInterval : UInt64 := 262980
/-- `PEAK_COIN_EMISSION_HEIGHT` -/
def peakCoinEmissionHeight : UInt64 := 2103840
/-- `CRYPTONOTE_MINED_MONEY_UNLOCK_WINDOW` -/
def cryptonoteMinedMoneyUnlockWindow : UInt64 := 60
/-- `CRYPTONOTE_LOCKED_TX_ALLOWED_DELTA_BLOCKS` -/
def cryptonoteLockedTxAllowedDeltaBlocks : UInt64 := 1
/-- `CRYPTONOTE_COINBASE_BLOB_RESERVED_SIZE`: the bytes kept for the coinbase
when a block template is filled. -/
def cryptonoteCoinbaseBlobReservedSize : UInt64 := 600
/-- `CRYPTONOTE_REWARD_BLOCKS_WINDOW` -/
def cryptonoteRewardBlocksWindow : ℕ := 60
/-- `MAX_TRANSACTION_VERSION` -/
def maxTransactionVersion : UInt64 := 3
/-- `CRYPTONOTE_DISPLAY_DECIMAL_POINT`: the digits after the point an amount is
shown with, unless set otherwise. -/
def cryptonoteDisplayDecimalPoint : ℕ := 9

/-- `DIFFICULTY_BLOCKS_COUNT_V1 = DIFFICULTY_WINDOW_V1 + DIFFICULTY_LAG_V1` -/
def difficultyBlocksCountV1 : ℕ := 735
/-- `DIFFICULTY_BLOCKS_COUNT_V2 = DIFFICULTY_WINDOW_V2` -/
def difficultyBlocksCountV2 : ℕ := 93
/-- `DIFFICULTY_TARGET`, in seconds. -/
def difficultyTarget : UInt64 := 60
/-- `BLOCKCHAIN_TIMESTAMP_CHECK_WINDOW_V1` -/
def blockchainTimestampCheckWindowV1 : ℕ := 60
/-- `BLOCKCHAIN_TIMESTAMP_CHECK_WINDOW_V2` -/
def blockchainTimestampCheckWindowV2 : ℕ := 60
/-- `BLOCK_FUTURE_TIME_LIMIT`, in seconds. -/
def blockFutureTimeLimit : UInt64 := 60 * 24

/-- `CRYPTONOTE_BLOCK_GRANTED_FULL_REWARD_ZONE` -/
def cryptonoteBlockGrantedFullRewardZone : UInt64 := 300 * 1024
/-- `BLOCK_SIZE_GROWTH_FAVORED_ZONE` -/
def blockSizeGrowthFavoredZone : UInt64 := cryptonoteBlockGrantedFullRewardZone * 4

/-- `POISSON_CHECK_TRIGGER`: the reorganisation size from which the timestamps
of the alternative chain are tested. -/
def poissonCheckTrigger : ℕ := 10
/-- `POISSON_CHECK_DEPTH` -/
def poissonCheckDepth : ℕ := 60

/-- `MIN_MIXIN_V1` -/
def minMixinV1 : ℕ := 10
/-- `MIN_MIXIN_V2` -/
def minMixinV2 : ℕ := 10
/-- `MAX_MIXIN` -/
def maxMixin : ℕ := 240

end Ombre
