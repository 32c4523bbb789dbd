import Ombre.Basic.Difficulty
import Ombre.Serialization.BinaryArchive

/-!
# What the proof of work and the difficulty compute

`check_hash` and `next_difficulty_v1` of `difficulty.cpp` against the
arithmetic they implement.

`check_hash` multiplies the hash, four 64-bit words, by the difficulty one word
at a time and keeps only the carries between the words. The carries are exact
(`cadd_iff`, `cadc_iff`), so the test is that the 256-bit product does not
reach `2 ^ 256` (`checkHash_iff`), the bound the header comment gives as
`2 ^ 192`.

`next_difficulty_v1` over a window of at most `DIFFICULTY_BLOCKS_COUNT_V1`
blocks at the target of `DIFFICULTY_TARGET` seconds never wraps its weighted
sum, never divides by zero, and computes the weighted-harmonic formula of its
comment (`nextDifficultyV1_eq`).
-/

namespace Ombre

open BinaryArchive

/-- A word read by `hashWord` is the little-endian value of its bytes. -/
theorem toNat_foldr_shiftLeft : ∀ bs : List UInt8, bs.length ≤ 8 →
    (bs.foldr (fun b (acc : UInt64) => (acc <<< 8) ||| b.toUInt64) 0).toNat = leValue bs
  | [], _ => rfl
  | b :: bs, h => by
    have ih := toNat_foldr_shiftLeft bs (by simp at h; omega)
    have hlt : leValue bs < 2 ^ 56 :=
      calc leValue bs < 256 ^ bs.length := leValue_lt bs
        _ ≤ 256 ^ 7 := Nat.pow_le_pow_right (by decide) (by simp at h; omega)
        _ = 2 ^ 56 := by norm_num
    have hb : b.toUInt64.toNat < 2 ^ 8 := by simpa using b.toNat_lt
    rw [List.foldr_cons, UInt64.toNat_or, UInt64.toNat_shiftLeft, ih,
      show (8 : UInt64).toNat % 64 = 8 from rfl, Nat.mod_eq_of_lt (by rw [Nat.shiftLeft_eq]; omega),
      ← Nat.shiftLeft_add_eq_or_of_lt hb, Nat.shiftLeft_eq, leValue]
    simp
    omega

theorem toNat_hashWord (h : Hash) (i : ℕ) :
    (hashWord h i).toNat = leValue ((h.bytes.drop (8 * i)).take 8) :=
  toNat_foldr_shiftLeft _ (by simp)

/-- The value of a hash from its four words, least significant first. -/
theorem leValue_hash (h : Hash) :
    leValue h.bytes = (hashWord h 0).toNat + 2 ^ 64 * ((hashWord h 1).toNat +
      2 ^ 64 * ((hashWord h 2).toNat + 2 ^ 64 * (hashWord h 3).toNat)) := by
  simp only [toNat_hashWord]
  have hlen := h.length_eq
  have split : ∀ (l : List UInt8) (n : ℕ), n + 8 ≤ l.length →
      leValue (l.drop n) = leValue ((l.drop n).take 8) + 2 ^ 64 * leValue (l.drop (n + 8)) := by
    intro l n hn
    conv_lhs => rw [← List.take_append_drop 8 (l.drop n)]
    rw [leValue_append, List.drop_drop, List.length_take, List.length_drop,
      Nat.min_eq_left (by omega), show (256 : ℕ) ^ 8 = 2 ^ 64 by norm_num]
  have hlast : (h.bytes.drop 24).take 8 = h.bytes.drop 24 := List.take_of_length_le (by simp; omega)
  rw [show leValue h.bytes = leValue (h.bytes.drop 0) by rw [List.drop_zero],
    split _ 0 (by omega), split _ 8 (by omega), split _ 16 (by omega)]
  simp only [Nat.reduceAdd, Nat.reduceMul, List.drop_zero, hlast]

theorem cadd_iff (a b : UInt64) : cadd a b = true ↔ 2 ^ 64 ≤ a.toNat + b.toNat := by
  rw [cadd, decide_eq_true_iff, add_lt_iff_carry]

/-- `cadc` is the carry out of `a + b + c`. -/
theorem cadc_iff (a b : UInt64) (c : Bool) :
    cadc a b c = true ↔ 2 ^ 64 ≤ a.toNat + b.toNat + c.toNat := by
  have ha := a.toNat_lt
  have hb := b.toNat_lt
  have hsum : (a + b).toNat = (a.toNat + b.toNat) % 2 ^ 64 := UInt64.toNat_add a b
  have hmax : (a + b == UInt64.ofNat (2 ^ 64 - 1)) = true ↔ (a.toNat + b.toNat) % 2 ^ 64 = 2 ^ 64 - 1 := by
    rw [beq_iff_eq, ← UInt64.toNat_inj, hsum]
    rfl
  cases c
  · simp only [cadc, Bool.false_and, Bool.or_false, decide_eq_true_iff, add_lt_iff_carry,
      Bool.toNat_false, Nat.add_zero]
  · simp only [cadc, Bool.true_and, Bool.or_eq_true, decide_eq_true_iff, add_lt_iff_carry,
      Bool.toNat_true, hmax]
    omega

/-- A carry bit characterised by its sum is that sum's carry. -/
theorem toNat_eq_div_of_carry_iff {c : Bool} {n : ℕ} (hn : n < 2 * 2 ^ 64) (h : c = true ↔ 2 ^ 64 ≤ n) :
    c.toNat = n / 2 ^ 64 := by
  cases c
  · have : n < 2 ^ 64 := by simpa using h
    rw [Bool.toNat_false]
    omega
  · have := h.mp rfl
    rw [Bool.toNat_true]
    omega

/-- **The proof-of-work test.** `check_hash` accepts a hash exactly when the hash,
read as a little-endian 256-bit integer, times the difficulty is below `2 ^ 256`. -/
theorem checkHash_iff (hash : Hash) (difficulty : UInt64) :
    checkHash hash difficulty = true ↔ leValue hash.bytes * difficulty.toNat < 2 ^ 256 := by
  -- the product, word by word: `w_i * d = H_i * 2^64 + L_i`
  have hprod : leValue hash.bytes * difficulty.toNat =
      (hashWord hash 0).toNat * difficulty.toNat + 2 ^ 64 * ((hashWord hash 1).toNat * difficulty.toNat) +
        2 ^ 128 * ((hashWord hash 2).toNat * difficulty.toNat) +
        2 ^ 192 * ((hashWord hash 3).toNat * difficulty.toNat) := by
    rw [leValue_hash]
    ring
  rw [hprod, ← mul128_spec, ← mul128_spec, ← mul128_spec, ← mul128_spec]
  unfold checkHash
  generalize mul128 (hashWord hash 0) difficulty = p0
  generalize mul128 (hashWord hash 1) difficulty = p1
  generalize mul128 (hashWord hash 2) difficulty = p2
  generalize mul128 (hashWord hash 3) difficulty = p3
  obtain ⟨L0, H0⟩ := p0
  obtain ⟨L1, H1⟩ := p1
  obtain ⟨L2, H2⟩ := p2
  obtain ⟨L3, H3⟩ := p3
  dsimp only
  have := L0.toNat_lt
  have := L1.toNat_lt
  have := L2.toNat_lt
  have := L3.toNat_lt
  have := H0.toNat_lt
  have := H1.toNat_lt
  have := H2.toNat_lt
  by_cases hH3 : H3 = 0
  · -- the three carries, from the second word up
    rw [if_neg (not_not.mpr hH3)]
    have h3 : H3.toNat = 0 := by rw [hH3]; rfl
    have hc1 := toNat_eq_div_of_carry_iff (by omega) (cadd_iff H0 L1)
    generalize cadd H0 L1 = c1 at hc1 ⊢
    have hc2 := toNat_eq_div_of_carry_iff (by have := Bool.toNat_le c1; omega) (cadc_iff H1 L2 c1)
    generalize cadc H1 L2 c1 = c2 at hc2 ⊢
    have hc3 := toNat_eq_div_of_carry_iff (by have := Bool.toNat_le c2; omega) (cadc_iff H2 L3 c2)
    generalize cadc H2 L3 c2 = c3 at hc3 ⊢
    -- the test passes exactly when no carry leaves the top word
    rw [Bool.not_eq_true', ← Bool.toNat_eq_zero]
    omega
  · rw [if_pos hH3]
    have : 1 ≤ H3.toNat := Nat.one_le_iff_ne_zero.mpr (fun h => hH3 (UInt64.toNat_inj.mp h))
    simp only [Bool.false_eq_true, false_iff, not_lt]
    omega

/-! ## `next_difficulty_v1` -/

/-- The solve time between the blocks `i - 1` and `i`, the difference of their
timestamps clamped to `[1, 10 T]`. -/
def clampedSolveTime (timestamps : List UInt64) (target : ℕ) (i : ℕ) : ℕ :=
  (max 1 (min ((timestamps.getD i 0).toNat - (timestamps.getD (i - 1) 0).toNat : ℤ)
    (10 * target))).toNat

/-- The weighted sum of the solve times of a window of `n` blocks, the `i`-th
weighted by `i`. -/
def weightedSolveTimes (timestamps : List UInt64) (target : ℕ) : ℕ :=
  ∑ i ∈ Finset.Ico 1 timestamps.length, i * clampedSolveTime timestamps target i

theorem toNat_timespanAt (timestamps : List UInt64) {target : UInt64} (hpos : 0 < target.toNat)
    (hT : 10 * target.toNat < 2 ^ 64) (i : ℕ) :
    (timespanAt timestamps target i).toNat = clampedSolveTime timestamps target.toNat i := by
  have h10 : (10 * target).toNat = 10 * target.toNat := by
    rw [UInt64.toNat_mul]
    exact Nat.mod_eq_of_lt hT
  unfold timespanAt clampedSolveTime
  dsimp only
  by_cases hback : timestamps.getD (i - 1) 0 ≥ timestamps.getD i 0
  · -- a timestamp going back counts as one second
    have hle := UInt64.le_iff_toNat_le.mp hback
    rw [if_pos hback, if_neg (by rw [gt_iff_lt, UInt64.lt_iff_toNat_lt, h10]; simp; omega)]
    simp only [UInt64.toNat_one]
    omega
  · have hlt := UInt64.lt_iff_toNat_lt.mp (UInt64.not_le.mp hback)
    have hsub : (timestamps.getD i 0 - timestamps.getD (i - 1) 0).toNat =
        (timestamps.getD i 0).toNat - (timestamps.getD (i - 1) 0).toNat :=
      UInt64.toNat_sub_of_le _ _ (UInt64.le_of_lt (UInt64.not_le.mp hback))
    rw [if_neg hback]
    split
    · rename_i hbig
      rw [gt_iff_lt, UInt64.lt_iff_toNat_lt, hsub, h10] at hbig
      rw [h10]
      omega
    · rename_i hsmall
      rw [gt_iff_lt, UInt64.lt_iff_toNat_lt, hsub, h10] at hsmall
      rw [hsub]
      omega

/-- A loop adding `i * f i` over `l` to an accumulator computes the sum when
the sum does not wrap. -/
theorem toNat_foldl_add_mul (f : ℕ → UInt64) :
    ∀ (l : List ℕ) (acc : UInt64), (∀ i ∈ l, i < 2 ^ 64) →
      acc.toNat + (l.map fun i => i * (f i).toNat).sum < 2 ^ 64 →
      (l.foldl (fun acc i => acc + i.toUInt64 * f i) acc).toNat =
        acc.toNat + (l.map fun i => i * (f i).toNat).sum
  | [], acc, _, _ => by simp
  | i :: l, acc, hl, hsum => by
    simp only [List.map_cons, List.sum_cons] at hsum
    have hi : i.toUInt64.toNat = i := by
      rw [Nat.toUInt64_eq, UInt64.toNat_ofNat']
      exact Nat.mod_eq_of_lt (hl i List.mem_cons_self)
    have hstep : (acc + i.toUInt64 * f i).toNat = acc.toNat + i * (f i).toNat := by
      rw [UInt64.toNat_add, UInt64.toNat_mul, hi, Nat.mod_eq_of_lt (by omega), Nat.mod_eq_of_lt (by omega)]
    rw [List.foldl_cons, toNat_foldl_add_mul f l _ (fun j hj => hl j (List.mem_cons_of_mem i hj))
      (by rw [hstep]; omega), hstep, List.map_cons, List.sum_cons]
    omega

theorem sum_Ico_eq_sum_range' (g : ℕ → ℕ) (n : ℕ) :
    ∑ i ∈ Finset.Ico 1 n, g i = ((List.range' 1 (n - 1)).map g).sum := by
  rw [Finset.sum_Ico_eq_sum_range, List.range'_eq_map_range, List.map_map]
  rfl

theorem clampedSolveTime_le (timestamps : List UInt64) {target : ℕ} (hpos : 0 < target) (i : ℕ) :
    clampedSolveTime timestamps target i ≤ 10 * target := by
  unfold clampedSolveTime
  omega

/-- The weighted solve times of a window of at most `DIFFICULTY_BLOCKS_COUNT_V1`
blocks at the target of 60 seconds stay far below `2 ^ 64`. -/
theorem weightedSolveTimes_lt (timestamps : List UInt64) (hN : timestamps.length ≤ difficultyBlocksCountV1) :
    weightedSolveTimes timestamps difficultyTarget.toNat < 2 ^ 40 := by
  have hT : difficultyTarget.toNat = 60 := rfl
  have hterm : ∀ x ∈ (List.range' 1 (timestamps.length - 1)).map
      (fun i => i * clampedSolveTime timestamps difficultyTarget.toNat i), x ≤ 735 * 600 := by
    intro x hx
    obtain ⟨i, hi, rfl⟩ := List.mem_map.mp hx
    have hi' := List.mem_range'_1.mp hi
    have hle := clampedSolveTime_le timestamps (show 0 < difficultyTarget.toNat by decide) i
    rw [hT] at hle ⊢
    unfold difficultyBlocksCountV1 at hN
    exact Nat.mul_le_mul (by omega) hle
  have hsum := List.sum_le_card_nsmul _ _ hterm
  rw [List.length_map, List.length_range', Nat.nsmul_eq_mul] at hsum
  unfold weightedSolveTimes
  rw [sum_Ico_eq_sum_range']
  unfold difficultyBlocksCountV1 at hN
  have : (timestamps.length - 1) * (735 * 600) ≤ 735 * (735 * 600) := Nat.mul_le_mul_right _ (by omega)
  omega

/-- **`next_difficulty_v1` on a window.** For a window of `n` timestamps with
`2 ≤ n ≤ DIFFICULTY_BLOCKS_COUNT_V1`, a cumulative difficulty that grew over it
and the target of `DIFFICULTY_TARGET` seconds: the weighted sum of the clamped
solve times does not wrap, the divisor is positive, and the difficulty is
`max 1 (W * ⌊(n + 1) / 2⌋ * T / max S ⌊T n / 2⌋)` when the work `W` times
`⌊(n + 1) / 2⌋ * T` fits in 64 bits, and 0 otherwise. -/
theorem nextDifficultyV1_eq (timestamps cumulativeDifficulties : List UInt64)
    (hn : 2 ≤ timestamps.length) (hN : timestamps.length ≤ difficultyBlocksCountV1)
    (hwork : cumulativeDifficulties.headD 0 < cumulativeDifficulties.getLastD 0) :
    (weightedTimespans timestamps difficultyTarget).toNat =
        weightedSolveTimes timestamps difficultyTarget.toNat ∧
      0 < max (weightedSolveTimes timestamps difficultyTarget.toNat)
        (difficultyTarget.toNat * timestamps.length / 2) ∧
      (nextDifficultyV1 timestamps cumulativeDifficulties difficultyTarget).toNat =
        if ((cumulativeDifficulties.getLastD 0).toNat - (cumulativeDifficulties.headD 0).toNat) *
            ((timestamps.length + 1) / 2) * difficultyTarget.toNat < 2 ^ 64 then
          max 1 (((cumulativeDifficulties.getLastD 0).toNat - (cumulativeDifficulties.headD 0).toNat) *
            ((timestamps.length + 1) / 2) * difficultyTarget.toNat /
            max (weightedSolveTimes timestamps difficultyTarget.toNat)
              (difficultyTarget.toNat * timestamps.length / 2))
        else 0 := by
  have hT : difficultyTarget.toNat = 60 := rfl
  have hN' : timestamps.length ≤ 735 := hN
  have hbound := weightedSolveTimes_lt timestamps hN
  -- the loop computes the weighted sum: no term and no partial sum wraps
  have hweighted : (weightedTimespans timestamps difficultyTarget).toNat =
      weightedSolveTimes timestamps difficultyTarget.toNat := by
    unfold weightedTimespans
    have hspan : ∀ i, (timespanAt timestamps difficultyTarget i).toNat =
        clampedSolveTime timestamps difficultyTarget.toNat i :=
      toNat_timespanAt timestamps (by decide) (by decide)
    unfold weightedSolveTimes at hbound ⊢
    rw [sum_Ico_eq_sum_range'] at hbound ⊢
    have hmap : (List.range' 1 (timestamps.length - 1)).map
        (fun i => i * (timespanAt timestamps difficultyTarget i).toNat) =
        (List.range' 1 (timestamps.length - 1)).map
          (fun i => i * clampedSolveTime timestamps difficultyTarget.toNat i) := by
      simp only [hspan]
    rw [toNat_foldl_add_mul _ _ 0 (fun i hi => by have := List.mem_range'_1.mp hi; omega)
      (by rw [hmap, UInt64.toNat_zero, Nat.zero_add]; omega), hmap]
    simp
  have hpos : 0 < max (weightedSolveTimes timestamps difficultyTarget.toNat)
      (difficultyTarget.toNat * timestamps.length / 2) := by
    rw [hT]
    omega
  refine ⟨hweighted, hpos, ?_⟩
  have hlen : timestamps.length.toUInt64.toNat = timestamps.length := by
    rw [Nat.toUInt64_eq, UInt64.toNat_ofNat']
    omega
  have htarget : ((timestamps.length.toUInt64 + 1) / 2 * difficultyTarget).toNat =
      (timestamps.length + 1) / 2 * difficultyTarget.toNat := by
    simp only [UInt64.toNat_mul, UInt64.toNat_div, UInt64.toNat_add, hlen, hT, UInt64.toNat_one,
      show (2 : UInt64).toNat = 2 from rfl]
    omega
  have hminimum : (difficultyTarget * timestamps.length.toUInt64 / 2).toNat =
      difficultyTarget.toNat * timestamps.length / 2 := by
    simp only [UInt64.toNat_mul, UInt64.toNat_div, hlen, hT, show (2 : UInt64).toNat = 2 from rfl]
    omega
  have htotal : (cumulativeDifficulties.getLastD 0 - cumulativeDifficulties.headD 0).toNat =
      (cumulativeDifficulties.getLastD 0).toNat - (cumulativeDifficulties.headD 0).toNat :=
    UInt64.toNat_sub_of_le _ _ (UInt64.le_of_lt hwork)
  -- the divisor: the weighted sum raised to the minimum timespan
  have hdivisor : ∀ w m : UInt64, (if w < m then m else w).toNat = max w.toNat m.toNat := by
    intro w m
    split
    · rename_i h
      exact (max_eq_right (Nat.le_of_lt (UInt64.lt_iff_toNat_lt.mp h))).symm
    · rename_i h
      exact (max_eq_left (Nat.le_of_not_lt (fun h' => h (UInt64.lt_iff_toNat_lt.mpr h')))).symm
  have hprod := mul128_spec (cumulativeDifficulties.getLastD 0 - cumulativeDifficulties.headD 0)
    ((timestamps.length.toUInt64 + 1) / 2 * difficultyTarget)
  rw [htotal, htarget, ← Nat.mul_assoc] at hprod
  have hcut : ¬ timestamps.length > difficultyBlocksCountV1 := by omega
  have hshort : ¬ timestamps.length ≤ 1 := by omega
  unfold nextDifficultyV1
  dsimp only
  rw [if_neg hcut, if_neg hcut, if_neg hshort]
  generalize mul128 (cumulativeDifficulties.getLastD 0 - cumulativeDifficulties.headD 0)
    ((timestamps.length.toUInt64 + 1) / 2 * difficultyTarget) = p at hprod
  obtain ⟨low, high⟩ := p
  dsimp only at hprod ⊢
  have hdiv := hdivisor (weightedTimespans timestamps difficultyTarget)
    (difficultyTarget * timestamps.length.toUInt64 / 2)
  rw [hweighted, hminimum] at hdiv
  generalize (if weightedTimespans timestamps difficultyTarget < difficultyTarget * timestamps.length.toUInt64 / 2
    then difficultyTarget * timestamps.length.toUInt64 / 2 else weightedTimespans timestamps difficultyTarget) = w
    at hdiv
  have hlow := low.toNat_lt
  by_cases hhigh : high = 0
  · have h0 : high.toNat = 0 := by rw [hhigh]; rfl
    rw [if_neg (not_not.mpr hhigh)]
    have hlow' : low.toNat = ((cumulativeDifficulties.getLastD 0).toNat - (cumulativeDifficulties.headD 0).toNat) *
        ((timestamps.length + 1) / 2) * difficultyTarget.toNat := by omega
    rw [← hlow', if_pos hlow]
    have hq : (low / w).toNat = low.toNat / max (weightedSolveTimes timestamps difficultyTarget.toNat)
        (difficultyTarget.toNat * timestamps.length / 2) := by
      rw [UInt64.toNat_div, hdiv]
    -- a quotient of zero is raised to one
    by_cases hzero : low / w = 0
    · have : (low / w).toNat = 0 := by rw [hzero]; rfl
      rw [if_pos hzero, ← hq, this]
      rfl
    · have : (low / w).toNat ≠ 0 := fun h => hzero (UInt64.toNat_inj.mp (by rw [h]; rfl))
      rw [if_neg hzero, ← hq]
      omega
  · have h1 : 1 ≤ high.toNat := Nat.one_le_iff_ne_zero.mpr (fun h => hhigh (UInt64.toNat_inj.mp h))
    rw [if_pos hhigh, if_neg (by omega)]
    rfl

/-- Two blocks a minute apart, over which the cumulative difficulty grew by 100. -/
theorem nextDifficultyV1_eq_twoBlocks :
    2 ≤ [(0 : UInt64), 60].length ∧ [(0 : UInt64), 60].length ≤ difficultyBlocksCountV1 ∧
      ([0, 100] : List UInt64).headD 0 < ([0, 100] : List UInt64).getLastD 0 ∧
      (nextDifficultyV1 [0, 60] [0, 100] difficultyTarget).toNat =
        if ((([0, 100] : List UInt64).getLastD 0).toNat - (([0, 100] : List UInt64).headD 0).toNat) *
            (([(0 : UInt64), 60].length + 1) / 2) * difficultyTarget.toNat < 2 ^ 64 then
          max 1 (((([0, 100] : List UInt64).getLastD 0).toNat - (([0, 100] : List UInt64).headD 0).toNat) *
            (([(0 : UInt64), 60].length + 1) / 2) * difficultyTarget.toNat /
            max (weightedSolveTimes [0, 60] difficultyTarget.toNat)
              (difficultyTarget.toNat * [(0 : UInt64), 60].length / 2))
        else 0 :=
  ⟨by decide, by decide, by decide,
    (nextDifficultyV1_eq [0, 60] [0, 100] (by decide) (by decide) (by decide)).2.2⟩

end Ombre
