import Ombre.Basic.Difficulty

/-!
# The block reward

`get_block_reward` of `cryptonote_basic_impl.cpp`. The base reward follows a
schedule of intervals up to `PEAK_COIN_EMISSION_HEIGHT + COIN_EMISSION_HEIGHT_INTERVAL`
and is then the tail emission `(MONEY_SUPPLY - already_generated_coins) >> EMISSION_SPEED_FACTOR`,
floored at `FINAL_SUBSIDY` and rounded down to a multiple of `10^7`; a block
larger than the full-reward zone is paid a reduced reward, and a block larger
than twice the median size is refused.

The schedule before the tail and the two dev-fund amounts are computed by the
source in `double` and `float`; they are the fields of `Emission` here, so every
result below holds whatever values the floating-point code produces.

Once the coins generated so far do not exceed `MONEY_SUPPLY`, the subtraction
of the tail never wraps and the tail base reward is at most
`max FINAL_SUBSIDY ((MONEY_SUPPLY - g) >> EMISSION_SPEED_FACTOR)`
(`baseReward_le_of_tail`).

The penalty is exact: `div128_32` is long division (`div128By32_spec`), the
median truncated to 32 bits is the median when it is below `2 ^ 32`, and two
divisions by the median are one by its square, so a penalized block is paid
`base * (2M - S) * S / M ^ 2`, which is below the base and falls as the block
grows (`getBlockReward_penalty`).
-/

namespace Ombre

/-- The floating-point parts of the emission. -/
structure Emission where
  /-- `(uint64_t)(MONEY_SUPPLY * money_supply_pct)` for the interval number
  `height / COIN_EMISSION_HEIGHT_INTERVAL`. -/
  earlySupply : UInt64 → UInt64
  /-- `get_dev_fund_amount_v0(tx_total, already_generated_coins)` -/
  devFundAmountV0 : UInt64 → UInt64 → UInt64
  /-- `get_dev_fund_amount_v1(tx_total, already_generated_coins)` -/
  devFundAmountV1 : UInt64 → UInt64 → UInt64

/-- `round_factor` of `get_block_reward` -/
def rewardRoundFactor : UInt64 := 10000000

/-- The base reward of `get_block_reward`, before the size of the block is
looked at: the schedule, the `FINAL_SUBSIDY` floor (halved once all coins are
generated) and the rounding. -/
def baseReward (em : Emission) (alreadyGeneratedCoins height : UInt64) : UInt64 :=
  let base :=
    if height > 0 then
      if height < peakCoinEmissionHeight + coinEmissionHeightInterval then
        em.earlySupply (height / coinEmissionHeightInterval) >>> emissionSpeedFactor
      else (moneySupply - alreadyGeneratedCoins) >>> emissionSpeedFactor
    else genesisBlockReward
  let base :=
    if base < finalSubsidy then
      if moneySupply > alreadyGeneratedCoins then finalSubsidy else finalSubsidy / 2
    else base
  base / rewardRoundFactor * rewardRoundFactor

/-- `get_block_reward`: the reward of a block of `currentBlockSize` bytes when
the median size of the recent blocks is `medianSize`; `none` for a block above
twice the median. The penalty is computed with the 128-bit `mul128` and two
`div128_32` by the median truncated to 32 bits, as the source does. -/
def getBlockReward (em : Emission) (medianSize currentBlockSize alreadyGeneratedCoins height : UInt64) :
    Option UInt64 :=
  let base := baseReward em alreadyGeneratedCoins height
  -- make it soft
  let medianSize :=
    if medianSize < cryptonoteBlockGrantedFullRewardZone then cryptonoteBlockGrantedFullRewardZone
    else medianSize
  if currentBlockSize > 2 * medianSize then none
  else if currentBlockSize ≤
      (if medianSize < blockSizeGrowthFavoredZone then medianSize * 110 / 100 else medianSize) then
    some base
  else
    let multiplicand := (2 * medianSize - currentBlockSize) * currentBlockSize
    let (productLo, productHi) := mul128 base multiplicand
    let (rewardHi, rewardLo, _) := div128By32 productHi productLo medianSize.toUInt32
    let (_, rewardLo, _) := div128By32 rewardHi rewardLo medianSize.toUInt32
    some rewardLo

/-! ## The tail emission -/

/-- The schedule ends at `PEAK_COIN_EMISSION_HEIGHT + COIN_EMISSION_HEIGHT_INTERVAL`. -/
def IsTailHeight (height : UInt64) : Prop :=
  peakCoinEmissionHeight + coinEmissionHeightInterval ≤ height

instance (height : UInt64) : Decidable (IsTailHeight height) :=
  inferInstanceAs (Decidable (_ ≤ _))

theorem moneySupply_sub_toNat {g : UInt64} (hg : g ≤ moneySupply) :
    (moneySupply - g).toNat = moneySupply.toNat - g.toNat :=
  UInt64.toNat_sub_of_le _ _ hg

theorem div_le_self (a b : UInt64) : a / b ≤ a := by
  rw [UInt64.le_iff_toNat_le, UInt64.toNat_div]
  exact Nat.div_le_self _ _

theorem le_max_of_le_left {a b c : UInt64} (h : c ≤ a) : c ≤ max a b := by
  show c ≤ if a ≤ b then b else a
  split
  · exact UInt64.le_trans h ‹_›
  · exact h

theorem le_max_of_le_right {a b c : UInt64} (h : c ≤ b) : c ≤ max a b := by
  show c ≤ if a ≤ b then b else a
  split
  · exact h
  · exact UInt64.le_trans h (UInt64.le_of_lt (UInt64.not_le.mp ‹_›))

theorem toNat_max (a b : UInt64) : (max a b).toNat = max a.toNat b.toNat := by
  show (if a ≤ b then b else a).toNat = max a.toNat b.toNat
  split
  · rename_i h
    exact (max_eq_right (UInt64.le_iff_toNat_le.mp h)).symm
  · rename_i h
    exact (max_eq_left (Nat.le_of_lt (UInt64.lt_iff_toNat_lt.mp (UInt64.not_le.mp h)))).symm

theorem div_mul_le_self (a b : UInt64) : a / b * b ≤ a := by
  rw [UInt64.le_iff_toNat_le, UInt64.toNat_mul, UInt64.toNat_div]
  calc (a.toNat / b.toNat * b.toNat) % 2 ^ 64 ≤ a.toNat / b.toNat * b.toNat := Nat.mod_le _ _
    _ ≤ a.toNat := Nat.div_mul_le_self _ _

/-- Past the schedule the base reward is at most the larger of `FINAL_SUBSIDY`
and the tail emission, as the source computes it. -/
theorem baseReward_le_max (em : Emission) (g : UInt64) {height : UInt64} (htail : IsTailHeight height) :
    baseReward em g height ≤ max finalSubsidy ((moneySupply - g) >>> emissionSpeedFactor) := by
  have hpos : height > 0 := by
    unfold IsTailHeight at htail
    exact UInt64.lt_of_lt_of_le (by decide) htail
  have hnot : ¬ height < peakCoinEmissionHeight + coinEmissionHeightInterval :=
    UInt64.not_lt.mpr htail
  -- after the schedule the base is the tail emission, floored at the subsidy
  have hfloor : (if (moneySupply - g) >>> emissionSpeedFactor < finalSubsidy then
      (if moneySupply > g then finalSubsidy else finalSubsidy / 2)
      else (moneySupply - g) >>> emissionSpeedFactor) ≤
      max finalSubsidy ((moneySupply - g) >>> emissionSpeedFactor) := by
    split
    · split
      · exact le_max_of_le_left (UInt64.le_refl _)
      · exact le_max_of_le_left (div_le_self _ _)
    · exact le_max_of_le_right (UInt64.le_refl _)
  unfold baseReward
  simp only [hpos, hnot, if_true, if_false]
  exact UInt64.le_trans (div_mul_le_self _ _) hfloor

/-- **The tail base reward.** Past the schedule, with at most `MONEY_SUPPLY`
coins generated, `MONEY_SUPPLY - g` does not wrap, and the base reward is at
most the larger of `FINAL_SUBSIDY` and `(MONEY_SUPPLY - g) / 2^21` computed in
the integers. -/
theorem baseReward_le_of_tail (em : Emission) {g height : UInt64} (hg : g ≤ moneySupply)
    (htail : IsTailHeight height) :
    (baseReward em g height).toNat ≤
      max finalSubsidy.toNat ((moneySupply.toNat - g.toNat) / 2 ^ emissionSpeedFactor.toNat) := by
  have hle := UInt64.le_iff_toNat_le.mp (baseReward_le_max em g htail)
  have hshift : ((moneySupply - g) >>> emissionSpeedFactor).toNat =
      (moneySupply.toNat - g.toNat) / 2 ^ emissionSpeedFactor.toNat := by
    rw [UInt64.toNat_shiftRight, moneySupply_sub_toNat hg, Nat.shiftRight_eq_div_pow]
    rfl
  rwa [toNat_max, hshift] at hle

/-- The base reward is never zero: it is floored at `FINAL_SUBSIDY / 2` before
the rounding, which keeps a multiple of `10^7`. -/
theorem baseReward_pos (em : Emission) (g height : UInt64) : 0 < (baseReward em g height).toNat := by
  have hround : ∀ b : UInt64, 5000000000 ≤ b.toNat → 0 < (b / rewardRoundFactor * rewardRoundFactor).toNat := by
    intro b hb
    have hlt := b.toNat_lt
    rw [UInt64.toNat_mul, UInt64.toNat_div, show rewardRoundFactor.toNat = 10000000 from rfl,
      Nat.mod_eq_of_lt (by omega)]
    omega
  -- the floor at `FINAL_SUBSIDY`, halved once every coin is generated
  have hfloor : ∀ b : UInt64, 5000000000 ≤
      (if b < finalSubsidy then (if moneySupply > g then finalSubsidy else finalSubsidy / 2) else b).toNat := by
    intro b
    split
    · split <;> decide
    · rename_i h
      exact Nat.le_trans (by decide) (Nat.le_of_not_lt (fun h' => h (UInt64.lt_iff_toNat_lt.mpr h')))
  unfold baseReward
  exact hround _ (hfloor _)

/-- The base reward stays below `2 ^ 43`: every amount it starts from is a
64-bit value shifted right by `EMISSION_SPEED_FACTOR`, the genesis reward or
the floor. -/
theorem toNat_baseReward_lt (em : Emission) (g height : UInt64) : (baseReward em g height).toNat < 2 ^ 43 := by
  have hshift : ∀ x : UInt64, (x >>> emissionSpeedFactor).toNat < 2 ^ 43 := by
    intro x
    have hx := x.toNat_lt
    rw [UInt64.toNat_shiftRight, show emissionSpeedFactor.toNat % 64 = 21 from rfl, Nat.shiftRight_eq_div_pow]
    omega
  have hstart : ∀ b : UInt64, b.toNat < 2 ^ 43 →
      (if b < finalSubsidy then (if moneySupply > g then finalSubsidy else finalSubsidy / 2) else b).toNat <
        2 ^ 43 := by
    intro b hb
    split
    · split <;> decide
    · exact hb
  unfold baseReward
  refine Nat.lt_of_le_of_lt (UInt64.le_iff_toNat_le.mp (div_mul_le_self _ _)) (hstart _ ?_)
  split
  · split
    · exact hshift _
    · exact hshift _
  · decide

/-! ## The penalty -/

section Penalty

variable (em : Emission) (g height : UInt64)

/-- The sizes `get_block_reward` pays in full, as its comment states them: up
to `1.1` times the median below `BLOCK_SIZE_GROWTH_FAVORED_ZONE`, up to the
median from there on. -/
def PenaltyFree (median size : ℕ) : Prop :=
  if median < blockSizeGrowthFavoredZone.toNat then 100 * size ≤ 110 * median else size ≤ median

instance (median size : ℕ) : Decidable (PenaltyFree median size) :=
  inferInstanceAs (Decidable (if median < blockSizeGrowthFavoredZone.toNat then 100 * size ≤ 110 * median
    else size ≤ median))

theorem softMedian_eq (M : UInt64) :
    (if M < cryptonoteBlockGrantedFullRewardZone then cryptonoteBlockGrantedFullRewardZone else M) =
      max M cryptonoteBlockGrantedFullRewardZone := by
  show _ = if M ≤ cryptonoteBlockGrantedFullRewardZone then _ else M
  by_cases hlt : M < cryptonoteBlockGrantedFullRewardZone
  · rw [if_pos hlt, if_pos (UInt64.le_of_lt hlt)]
  · rw [if_neg hlt]
    split
    · exact UInt64.le_antisymm ‹_› (UInt64.not_lt.mp hlt)
    · rfl

/-- The threshold the source compares with, read in the integers. -/
theorem penaltyFree_iff {median : UInt64} (hM : median.toNat < 2 ^ 32) (S : UInt64) :
    S ≤ (if median < blockSizeGrowthFavoredZone then median * 110 / 100 else median) ↔
      PenaltyFree median.toNat S.toNat := by
  unfold PenaltyFree
  by_cases hz : median < blockSizeGrowthFavoredZone
  · have hz' : median.toNat < blockSizeGrowthFavoredZone.toNat := UInt64.lt_iff_toNat_lt.mp hz
    rw [if_pos hz, if_pos hz', UInt64.le_iff_toNat_le, UInt64.toNat_div, UInt64.toNat_mul]
    have h110 : median.toNat * (110 : UInt64).toNat % 2 ^ 64 = median.toNat * 110 := by
      rw [show (110 : UInt64).toNat = 110 from rfl]
      exact Nat.mod_eq_of_lt (by omega)
    rw [h110, show (100 : UInt64).toNat = 100 from rfl]
    omega
  · have hz' : ¬ median.toNat < blockSizeGrowthFavoredZone.toNat :=
      fun h => hz (UInt64.lt_iff_toNat_lt.mpr h)
    rw [if_neg hz, if_neg hz', UInt64.le_iff_toNat_le]

variable {em g height} {M S : UInt64}

theorem toNat_two_mul_of_lt {m : UInt64} (hm : m.toNat < 2 ^ 32) : (2 * m).toNat = 2 * m.toNat := by
  rw [UInt64.toNat_mul, show (2 : UInt64).toNat = 2 from rfl]
  exact Nat.mod_eq_of_lt (by omega)

theorem getBlockReward_eq_none_iff (hM : (max M cryptonoteBlockGrantedFullRewardZone).toNat < 2 ^ 32) :
    getBlockReward em M S g height = none ↔
      2 * (max M cryptonoteBlockGrantedFullRewardZone).toNat < S.toNat := by
  rw [← toNat_two_mul_of_lt hM, ← UInt64.lt_iff_toNat_lt]
  unfold getBlockReward
  dsimp only
  rw [softMedian_eq]
  by_cases hbig : S > 2 * max M cryptonoteBlockGrantedFullRewardZone
  · simpa [if_pos hbig] using hbig
  · simp only [if_neg hbig]
    split_ifs <;> simpa using hbig

theorem getBlockReward_of_penaltyFree (hM : (max M cryptonoteBlockGrantedFullRewardZone).toNat < 2 ^ 32)
    (hfree : PenaltyFree (max M cryptonoteBlockGrantedFullRewardZone).toNat S.toNat) :
    getBlockReward em M S g height = some (baseReward em g height) := by
  have hsmall : ¬ S > 2 * max M cryptonoteBlockGrantedFullRewardZone := by
    rw [gt_iff_lt, UInt64.lt_iff_toNat_lt, toNat_two_mul_of_lt hM]
    unfold PenaltyFree at hfree
    split at hfree <;> omega
  have hle := (penaltyFree_iff hM S).mpr hfree
  unfold getBlockReward
  dsimp only
  rw [softMedian_eq, if_neg hsmall, if_pos hle]

/-- `(2M - S) * S`, the multiplicand of the penalty, never exceeds `M ^ 2`, and
is below it off `S = M`. -/
theorem sub_mul_le_sq (M S : ℕ) : (2 * M - S) * S ≤ M ^ 2 := by
  rcases le_total S (2 * M) with h | h
  · zify [h]
    nlinarith [sq_nonneg ((M : ℤ) - S)]
  · rw [Nat.sub_eq_zero_of_le h, Nat.zero_mul]
    exact Nat.zero_le _

theorem sub_mul_lt_sq {M S : ℕ} (hMS : M < S) (hS : S ≤ 2 * M) : (2 * M - S) * S < M ^ 2 := by
  zify [hS]
  have : (0 : ℤ) < (S - M) ^ 2 := by
    have : (M : ℤ) < S := by exact_mod_cast hMS
    positivity
  nlinarith

/-- The reward of the penalty branch: the 128-bit product divided twice by the
median is the quotient by its square, and it fits in 64 bits. -/
theorem getBlockReward_of_penalty (hM : (max M cryptonoteBlockGrantedFullRewardZone).toNat < 2 ^ 32)
    (hpen : ¬ PenaltyFree (max M cryptonoteBlockGrantedFullRewardZone).toNat S.toNat)
    (hS : S.toNat ≤ 2 * (max M cryptonoteBlockGrantedFullRewardZone).toNat) :
    (getBlockReward em M S g height).map UInt64.toNat =
      some ((baseReward em g height).toNat * (2 * (max M cryptonoteBlockGrantedFullRewardZone).toNat -
        S.toNat) * S.toNat / (max M cryptonoteBlockGrantedFullRewardZone).toNat ^ 2) := by
  generalize hmed : max M cryptonoteBlockGrantedFullRewardZone = median at hM hpen hS
  have hzone : cryptonoteBlockGrantedFullRewardZone.toNat ≤ median.toNat := by
    rw [← hmed, ← UInt64.le_iff_toNat_le]
    exact le_max_of_le_right (UInt64.le_refl _)
  have hpos : 0 < median.toNat := Nat.lt_of_lt_of_le (by decide) hzone
  have hsmall : ¬ S > 2 * median := by
    rw [gt_iff_lt, UInt64.lt_iff_toNat_lt, toNat_two_mul_of_lt hM]
    omega
  have hnle := (penaltyFree_iff hM S).not.mpr hpen
  -- the multiplicand does not wrap: `(2M - S) * S ≤ M ^ 2 < 2 ^ 64`
  have hm : ((2 * median - S) * S).toNat = (2 * median.toNat - S.toNat) * S.toNat := by
    have hsub : (2 * median - S).toNat = 2 * median.toNat - S.toNat := by
      rw [UInt64.toNat_sub_of_le _ _ (UInt64.not_lt.mp hsmall), toNat_two_mul_of_lt hM]
    have hsq : median.toNat ^ 2 < 2 ^ 64 := by
      calc median.toNat ^ 2 < (2 ^ 32) ^ 2 := Nat.pow_lt_pow_left hM (by decide)
        _ = 2 ^ 64 := by rw [← Nat.pow_mul]
    rw [UInt64.toNat_mul, hsub]
    exact Nat.mod_eq_of_lt (Nat.lt_of_le_of_lt (sub_mul_le_sq _ _) hsq)
  have hdiv : median.toUInt32.toNat = median.toNat := by
    rw [UInt64.toNat_toUInt32]
    exact Nat.mod_eq_of_lt hM
  have hprod := mul128_spec (baseReward em g height) ((2 * median - S) * S)
  unfold getBlockReward
  dsimp only
  rw [softMedian_eq, hmed, if_neg hsmall, if_neg hnle]
  generalize mul128 (baseReward em g height) ((2 * median - S) * S) = p at hprod ⊢
  obtain ⟨hq1, -⟩ := div128By32_spec p.2 p.1 (hdiv ▸ hpos)
  generalize div128By32 p.2 p.1 median.toUInt32 = d1 at hq1 ⊢
  obtain ⟨hq2, -⟩ := div128By32_spec d1.1 d1.2.1 (hdiv ▸ hpos)
  generalize div128By32 d1.1 d1.2.1 median.toUInt32 = d2 at hq2 ⊢
  rw [hq1, hprod, hm, hdiv, Nat.div_div_eq_div_mul, ← Nat.pow_two] at hq2
  -- the quotient is at most the base, so its high word is zero
  have hle : (baseReward em g height).toNat * ((2 * median.toNat - S.toNat) * S.toNat) /
      median.toNat ^ 2 ≤ (baseReward em g height).toNat := by
    apply Nat.div_le_of_le_mul
    calc (baseReward em g height).toNat * ((2 * median.toNat - S.toNat) * S.toNat)
        ≤ (baseReward em g height).toNat * median.toNat ^ 2 := Nat.mul_le_mul_left _ (sub_mul_le_sq _ _)
      _ = median.toNat ^ 2 * (baseReward em g height).toNat := Nat.mul_comm _ _
  have hbase := (baseReward em g height).toNat_lt
  rw [← hq2] at hle
  have hhigh : d2.1.toNat = 0 := by
    by_contra hne
    have : 2 ^ 64 ≤ d2.1.toNat * 2 ^ 64 := Nat.le_mul_of_pos_left _ (Nat.pos_of_ne_zero hne)
    omega
  rw [Option.map_some, Nat.mul_assoc, ← hq2, hhigh, Nat.zero_mul, Nat.zero_add]

theorem PenaltyFree.mono {median S₁ S₂ : ℕ} (h : PenaltyFree median S₂) (hS : S₁ ≤ S₂) :
    PenaltyFree median S₁ := by
  unfold PenaltyFree at h ⊢
  split at h <;> split <;> omega

theorem lt_of_not_penaltyFree {median S : ℕ} (h : ¬ PenaltyFree median S) : median < S := by
  unfold PenaltyFree at h
  split at h <;> omega

/-- Above the median the penalized reward falls as the block grows. -/
theorem penalty_antitone (base : ℕ) {M S₁ S₂ : ℕ} (h₁ : M ≤ S₁) (h₁₂ : S₁ ≤ S₂) (h₂ : S₂ ≤ 2 * M) :
    base * (2 * M - S₂) * S₂ / M ^ 2 ≤ base * (2 * M - S₁) * S₁ / M ^ 2 := by
  apply Nat.div_le_div_right
  rw [Nat.mul_assoc, Nat.mul_assoc]
  apply Nat.mul_le_mul_left
  have hS₁ : S₁ ≤ 2 * M := Nat.le_trans h₁₂ h₂
  zify [h₂, hS₁]
  -- `(2M - S₂) S₂ - (2M - S₁) S₁ = (S₂ - S₁) (2M - S₁ - S₂)`
  have : (0 : ℤ) ≤ ((S₂ : ℤ) - S₁) * (S₁ + S₂ - 2 * M) := by
    apply mul_nonneg <;> omega
  nlinarith

/-- Off the median the penalized reward is below the base. -/
theorem penalty_lt_base {base M S : ℕ} (hb : 0 < base) (hMS : M < S) (hS : S ≤ 2 * M) :
    base * (2 * M - S) * S / M ^ 2 < base := by
  have hM : 0 < M ^ 2 := Nat.pow_pos (by omega)
  rw [Nat.div_lt_iff_lt_mul hM, Nat.mul_assoc]
  exact Nat.mul_lt_mul_of_pos_left (sub_mul_lt_sq hMS hS) hb

/-- The reward of a block `get_block_reward` accepts: the base when the size is
free of penalty, the penalized reward otherwise. -/
theorem toNat_of_getBlockReward_eq_some (hM : (max M cryptonoteBlockGrantedFullRewardZone).toNat < 2 ^ 32)
    {r : UInt64} (h : getBlockReward em M S g height = some r) :
    S.toNat ≤ 2 * (max M cryptonoteBlockGrantedFullRewardZone).toNat ∧
      r.toNat = if PenaltyFree (max M cryptonoteBlockGrantedFullRewardZone).toNat S.toNat then
        (baseReward em g height).toNat
      else (baseReward em g height).toNat * (2 * (max M cryptonoteBlockGrantedFullRewardZone).toNat -
        S.toNat) * S.toNat / (max M cryptonoteBlockGrantedFullRewardZone).toNat ^ 2 := by
  have hS : S.toNat ≤ 2 * (max M cryptonoteBlockGrantedFullRewardZone).toNat := by
    have hne : getBlockReward em M S g height ≠ none := by
      rw [h]
      exact Option.some_ne_none r
    rw [Ne, getBlockReward_eq_none_iff hM] at hne
    omega
  refine ⟨hS, ?_⟩
  split
  · rename_i hfree
    rw [getBlockReward_of_penaltyFree hM hfree, Option.some.injEq] at h
    rw [h]
  · rename_i hpen
    have hmap := congrArg (Option.map UInt64.toNat) h
    rw [getBlockReward_of_penalty hM hpen hS, Option.map_some, Option.some.injEq] at hmap
    exact hmap.symm

/-- The reward of a block is at most the base reward. -/
theorem toNat_le_baseReward (hM : (max M cryptonoteBlockGrantedFullRewardZone).toNat < 2 ^ 32)
    {r : UInt64} (h : getBlockReward em M S g height = some r) :
    r.toNat ≤ (baseReward em g height).toNat := by
  obtain ⟨hS, hr⟩ := toNat_of_getBlockReward_eq_some hM h
  rw [hr]
  split
  · exact Nat.le_refl _
  · rename_i hpen
    exact Nat.le_of_lt (penalty_lt_base (baseReward_pos em g height) (lt_of_not_penaltyFree hpen) hS)

/-- **The size penalty.** With the median raised to the full-reward zone and
below `2 ^ 32`, `get_block_reward` refuses exactly the blocks above twice the
median; it pays the base reward up to the penalty-free size and
`base * (2M - S) * S / M ^ 2`, below the base, past it; and the reward never
exceeds the base and does not grow with the size of the block. -/
theorem getBlockReward_penalty (em : Emission) (g height M : UInt64)
    (hM : (max M cryptonoteBlockGrantedFullRewardZone).toNat < 2 ^ 32) :
    (∀ S, getBlockReward em M S g height = none ↔
      2 * (max M cryptonoteBlockGrantedFullRewardZone).toNat < S.toNat) ∧
    (∀ S r, getBlockReward em M S g height = some r →
      (PenaltyFree (max M cryptonoteBlockGrantedFullRewardZone).toNat S.toNat → r = baseReward em g height) ∧
      (¬ PenaltyFree (max M cryptonoteBlockGrantedFullRewardZone).toNat S.toNat →
        r.toNat = (baseReward em g height).toNat * (2 * (max M cryptonoteBlockGrantedFullRewardZone).toNat -
          S.toNat) * S.toNat / (max M cryptonoteBlockGrantedFullRewardZone).toNat ^ 2 ∧
        r < baseReward em g height)) ∧
    (∀ S r, getBlockReward em M S g height = some r → r ≤ baseReward em g height) ∧
    (∀ S₁ S₂ r₁ r₂, S₁ ≤ S₂ → getBlockReward em M S₁ g height = some r₁ →
      getBlockReward em M S₂ g height = some r₂ → r₂ ≤ r₁) := by
  have hb := baseReward_pos em g height
  have hpart : ∀ S r, getBlockReward em M S g height = some r →
      (PenaltyFree (max M cryptonoteBlockGrantedFullRewardZone).toNat S.toNat → r = baseReward em g height) ∧
      (¬ PenaltyFree (max M cryptonoteBlockGrantedFullRewardZone).toNat S.toNat →
        r.toNat = (baseReward em g height).toNat * (2 * (max M cryptonoteBlockGrantedFullRewardZone).toNat -
          S.toNat) * S.toNat / (max M cryptonoteBlockGrantedFullRewardZone).toNat ^ 2 ∧
        r < baseReward em g height) := by
    intro S r h
    obtain ⟨hS, hr⟩ := toNat_of_getBlockReward_eq_some hM h
    constructor
    · intro hfree
      rw [if_pos hfree] at hr
      exact UInt64.toNat_inj.mp hr
    · intro hpen
      rw [if_neg hpen] at hr
      refine ⟨hr, UInt64.lt_iff_toNat_lt.mpr ?_⟩
      rw [hr]
      exact penalty_lt_base hb (lt_of_not_penaltyFree hpen) hS
  have hle : ∀ S r, getBlockReward em M S g height = some r → r ≤ baseReward em g height :=
    fun S r h => UInt64.le_iff_toNat_le.mpr (toNat_le_baseReward hM h)
  refine ⟨fun S => getBlockReward_eq_none_iff hM, hpart, hle, ?_⟩
  intro S₁ S₂ r₁ r₂ h₁₂ h₁ h₂
  by_cases hfree₁ : PenaltyFree (max M cryptonoteBlockGrantedFullRewardZone).toNat S₁.toNat
  · rw [(hpart S₁ r₁ h₁).1 hfree₁]
    exact hle S₂ r₂ h₂
  · -- a penalized size stays penalized above it
    have hpen₂ : ¬ PenaltyFree (max M cryptonoteBlockGrantedFullRewardZone).toNat S₂.toNat :=
      fun hfree₂ => hfree₁ (hfree₂.mono (UInt64.le_iff_toNat_le.mp h₁₂))
    rw [UInt64.le_iff_toNat_le, ((hpart S₁ r₁ h₁).2 hfree₁).1, ((hpart S₂ r₂ h₂).2 hpen₂).1]
    exact penalty_antitone _ (Nat.le_of_lt (lt_of_not_penaltyFree hfree₁))
      (UInt64.le_iff_toNat_le.mp h₁₂) (toNat_of_getBlockReward_eq_some hM h₂).1

/-- An emission whose floating-point parts are all zero. -/
def zeroEmission : Emission := ⟨fun _ => 0, fun _ _ => 0, fun _ _ => 0⟩

/-- At the genesis height, with a median below the full-reward zone, a block of
twice the zone and one byte more is refused. -/
theorem getBlockReward_penalty_zone :
    (max (0 : UInt64) cryptonoteBlockGrantedFullRewardZone).toNat < 2 ^ 32 ∧
      getBlockReward zeroEmission 0 614401 0 0 = none :=
  ⟨by decide, ((getBlockReward_penalty zeroEmission 0 0 0 (by decide)).1 614401).mpr (by decide)⟩

end Penalty

end Ombre
