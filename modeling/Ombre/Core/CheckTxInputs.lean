import Ombre.Core.Blockchain

/-!
# The rings of a transaction

`Blockchain::check_tx_inputs` with its `pmax_used_block_height` argument, with
`check_tx_input` and `scan_outputkeys_for_indexes`. Each input of a
transaction names a ring of earlier outputs of amount 0 by offsets, each
relative to the one before it; the outputs must be stored and unlocked, and
the call returns the height of the highest block holding one of them, which
the pool keeps to recheck the transaction once that block leaves the chain.

`absolute_output_offsets_to_relative`, the inverse conversion `construct_tx`
applies to the ring of each input, sorts the offsets and takes differences; on sorted offsets, and on
relative offsets whose running sum does not wrap, the two are inverse
(`outputOffsets_roundTrip`).

`scan_outputkeys_for_indexes` raises that height to the height of the last
output of each ring only (`checkTxInputs_maxUsedHeight`). The last is the
highest when the absolute offsets increase and the outputs of amount 0 were
stored in the order of their heights; the offsets increase unless their running
sum wraps past `2 ^ 64`, which no check rejects: relative offsets
`[20, 2^64 - 19, 1, ...]` name the outputs 20, 1, 2, ..., and the height kept
is that of the last of them, not that of output 20.

The checks of `check_tx_inputs` on the fields of `tx_extra` and the ring
signatures are supplied as `InputChecks`; they can only make it fail. The
`m_scan_table` cache of outputs fetched before is left out: it holds the same
rows of the store.
-/

namespace Ombre

namespace TxinV

/-- The `txin_to_key` of an input. -/
def toKey? : TxinV → Option TxinToKey
  | toKey i => some i
  | _ => none

end TxinV

/-! ## Offsets -/

/-- The running sums of `off` after `base`, in 64 bits. -/
def offsetSums (base : UInt64) : List UInt64 → List UInt64
  | [] => []
  | o :: off => (base + o) :: offsetSums (base + o) off

/-- `relative_output_offsets_to_absolute`: `res[i] += res[i - 1]` from the
second offset on. -/
def relativeOutputOffsetsToAbsolute (off : List UInt64) : List UInt64 := offsetSums 0 off

theorem length_offsetSums (base : UInt64) (off : List UInt64) :
    (offsetSums base off).length = off.length := by
  induction off generalizing base with
  | nil => rfl
  | cons o off ih => rw [offsetSums, List.length_cons, List.length_cons, ih]

/-- A running sum below `2 ^ 64` does not wrap at its first offset, and stays
below `2 ^ 64` from there on. -/
theorem toNat_add_of_offsetSum_lt {base o : UInt64} {off : List UInt64}
    (hsum : base.toNat + ((o :: off).map UInt64.toNat).sum < 2 ^ 64) :
    (base + o).toNat = base.toNat + o.toNat ∧ (base + o).toNat + (off.map UInt64.toNat).sum < 2 ^ 64 := by
  rw [List.map_cons, List.sum_cons] at hsum
  have hc : (base + o).toNat = base.toNat + o.toNat := toNat_add_of_lt (by omega)
  exact ⟨hc, by omega⟩

/-- When the running sum stays below `2 ^ 64`, every sum is at least `base`. -/
theorem le_of_mem_offsetSums (base : UInt64) (off : List UInt64)
    (hsum : base.toNat + (off.map UInt64.toNat).sum < 2 ^ 64) :
    ∀ a ∈ offsetSums base off, base.toNat ≤ a.toNat := by
  induction off generalizing base with
  | nil => simp [offsetSums]
  | cons o off ih =>
    obtain ⟨hc, hsum'⟩ := toNat_add_of_offsetSum_lt hsum
    intro a ha
    rcases List.mem_cons.mp ha with rfl | ha
    · omega
    · have := ih (base + o) hsum' a ha
      omega

/-- When the running sum stays below `2 ^ 64`, the last sum is the largest. -/
theorem le_getLast_of_mem_offsetSums (base : UInt64) (off : List UInt64)
    (hsum : base.toNat + (off.map UInt64.toNat).sum < 2 ^ 64) :
    ∀ a ∈ offsetSums base off, ∀ b, (offsetSums base off).getLast? = some b → a.toNat ≤ b.toNat := by
  induction off generalizing base with
  | nil => simp [offsetSums]
  | cons o off ih =>
    have hsum' := (toNat_add_of_offsetSum_lt hsum).2
    intro a ha b hb
    rw [offsetSums] at ha hb
    -- the last sum is the first when no offset follows, else the last of the tail
    cases htail : offsetSums (base + o) off with
    | nil =>
      rw [htail, List.getLast?_singleton, Option.some.injEq] at hb
      rw [htail, List.mem_singleton] at ha
      rw [ha, hb]
    | cons t ts =>
      rw [htail, List.getLast?_cons_cons, ← htail] at hb
      have hbmem : b ∈ offsetSums (base + o) off := List.mem_of_getLast? hb
      rcases List.mem_cons.mp ha with rfl | ha
      · exact le_of_mem_offsetSums (base + o) off hsum' b hbmem
      · exact ih (base + o) hsum' a ha b hb

/-- Each element less the one before it, the first less `prev`. -/
def differences (prev : UInt64) : List UInt64 → List UInt64
  | [] => []
  | x :: xs => (x - prev) :: differences x xs

/-- The loop `for (i = res.size() - 1; i != 0; i--) res[i] -= res[i - 1]`, from
index `i` down to `1`. -/
def subtractPrevious (res : List UInt64) : ℕ → List UInt64
  | 0 => res
  | i + 1 => subtractPrevious (res.set (i + 1) (res.getD (i + 1) 0 - res.getD i 0)) i

/-- `absolute_output_offsets_to_relative`: the offsets sorted, then each less
the one before it. -/
def absoluteOutputOffsetsToRelative (off : List UInt64) : List UInt64 :=
  if off.length = 0 then off
  else
    let res := off.mergeSort (fun a b => decide (a ≤ b))
    subtractPrevious res (res.length - 1)

theorem length_subtractPrevious (res : List UInt64) (i : ℕ) :
    (subtractPrevious res i).length = res.length := by
  induction i generalizing res with
  | zero => rfl
  | succ i ih => rw [subtractPrevious, ih, List.length_set]

/-- The loop runs from the back, so each offset it rewrites is less the one
before it as it was before the loop. -/
theorem getElem?_subtractPrevious (i : ℕ) :
    ∀ res : List UInt64, i < res.length → ∀ j,
      (subtractPrevious res i)[j]? =
        if 0 < j ∧ j ≤ i then res[j]?.map (· - res.getD (j - 1) 0) else res[j]? := by
  induction i with
  | zero =>
    intro res _ j
    rw [subtractPrevious, if_neg (by omega)]
  | succ i ih =>
    intro res hi j
    rw [subtractPrevious, ih _ (by rw [List.length_set]; omega)]
    by_cases hj : 0 < j ∧ j ≤ i
    · have hne : i + 1 ≠ j - 1 := by omega
      rw [if_pos hj, if_pos (by omega), List.getElem?_set_ne (by omega),
        List.getD_eq_getElem?_getD, List.getElem?_set_ne hne, ← List.getD_eq_getElem?_getD]
    · rw [if_neg hj]
      by_cases hji : j = i + 1
      · subst hji
        have hlt : i < res.length := by omega
        rw [if_pos (by omega), List.getElem?_set_self hi, Nat.add_sub_cancel]
        simp only [List.getD_eq_getElem?_getD, List.getElem?_eq_getElem hi, List.getElem?_eq_getElem hlt,
          Option.map_some, Option.getD_some]
      · rw [if_neg (by omega), List.getElem?_set_ne (Ne.symm hji)]

theorem getElem?_differences (prev : UInt64) (l : List UInt64) (j : ℕ) :
    (differences prev l)[j]? = l[j]?.map (· - (prev :: l).getD j 0) := by
  induction l generalizing prev j with
  | nil => rfl
  | cons x xs ih =>
    cases j with
    | zero => rfl
    | succ j => rw [differences, List.getElem?_cons_succ, ih, List.getElem?_cons_succ, List.getD_cons_succ]

/-- The backward loop over the whole list computes the differences, the first
offset less nothing. -/
theorem subtractPrevious_eq_differences (l : List UInt64) :
    subtractPrevious l (l.length - 1) = differences 0 l := by
  cases l with
  | nil => rfl
  | cons x xs =>
    apply List.ext_getElem?
    intro j
    rw [getElem?_subtractPrevious _ _ (by simp) j, getElem?_differences]
    cases j with
    | zero => simp
    | succ j =>
      rw [List.getD_cons_succ, List.length_cons, Nat.add_sub_cancel, Nat.add_sub_cancel]
      by_cases hj : j + 1 ≤ xs.length
      · rw [if_pos ⟨Nat.succ_pos j, hj⟩]
      · rw [if_neg (fun h => hj h.2), List.getElem?_eq_none (by simp; omega), Option.map_none]

theorem offsetSums_differences (base : UInt64) (l : List UInt64) :
    offsetSums base (differences base l) = l := by
  induction l generalizing base with
  | nil => rfl
  | cons x xs ih => rw [differences, offsetSums, UInt64.add_comm base, UInt64.sub_add_cancel, ih]

theorem differences_offsetSums (base : UInt64) (off : List UInt64) :
    differences base (offsetSums base off) = off := by
  induction off generalizing base with
  | nil => rfl
  | cons o off ih => rw [offsetSums, differences, UInt64.add_comm base, UInt64.add_sub_cancel, ih]

/-- Running sums that do not wrap never decrease. -/
theorem pairwise_offsetSums (base : UInt64) (off : List UInt64)
    (hsum : base.toNat + (off.map UInt64.toNat).sum < 2 ^ 64) :
    (offsetSums base off).Pairwise (· ≤ ·) := by
  induction off generalizing base with
  | nil => exact List.Pairwise.nil
  | cons o off ih =>
    have hsum' := (toNat_add_of_offsetSum_lt hsum).2
    rw [offsetSums, List.pairwise_cons]
    refine ⟨fun a ha => ?_, ih (base + o) hsum'⟩
    exact UInt64.le_iff_toNat_le.mpr (le_of_mem_offsetSums (base + o) off hsum' a ha)

/-- On sorted offsets the sort changes nothing, and the result is the differences. -/
theorem absoluteOutputOffsetsToRelative_of_pairwise {v : List UInt64} (hv : v.Pairwise (· ≤ ·)) :
    absoluteOutputOffsetsToRelative v = differences 0 v := by
  unfold absoluteOutputOffsetsToRelative
  split
  · rename_i h
    rw [List.length_eq_zero_iff.mp h]
    rfl
  · rw [List.mergeSort_of_pairwise (hv.imp fun h => decide_eq_true h), subtractPrevious_eq_differences]

theorem outputOffsets_roundTrip :
    (∀ v : List UInt64, v.Pairwise (· ≤ ·) →
      relativeOutputOffsetsToAbsolute (absoluteOutputOffsetsToRelative v) = v) ∧
    (∀ r : List UInt64, (∀ k, ((r.take k).map UInt64.toNat).sum ≤ 2 ^ 64 - 1) →
      absoluteOutputOffsetsToRelative (relativeOutputOffsetsToAbsolute r) = r) := by
  constructor
  · intro v hv
    rw [absoluteOutputOffsetsToRelative_of_pairwise hv, relativeOutputOffsetsToAbsolute,
      offsetSums_differences]
  · intro r hr
    have hsum : (0 : UInt64).toNat + (r.map UInt64.toNat).sum < 2 ^ 64 := by
      have htotal := hr r.length
      rw [List.take_length] at htotal
      rw [UInt64.toNat_zero, Nat.zero_add]
      omega
    rw [relativeOutputOffsetsToAbsolute,
      absoluteOutputOffsetsToRelative_of_pairwise (pairwise_offsetSums 0 r hsum), differences_offsetSums]

theorem outputOffsets_roundTrip_ring :
    ([3, 7, 7, 20] : List UInt64).Pairwise (· ≤ ·) ∧
      relativeOutputOffsetsToAbsolute (absoluteOutputOffsetsToRelative [3, 7, 7, 20]) = [3, 7, 7, 20] ∧
    (∀ k, ((([3, 4, 0, 13] : List UInt64).take k).map UInt64.toNat).sum ≤ 2 ^ 64 - 1) ∧
      absoluteOutputOffsetsToRelative (relativeOutputOffsetsToAbsolute [3, 4, 0, 13]) = [3, 4, 0, 13] := by
  have hsorted : ([3, 7, 7, 20] : List UInt64).Pairwise (· ≤ ·) := by decide
  have hsums : ∀ k, ((([3, 4, 0, 13] : List UInt64).take k).map UInt64.toNat).sum ≤ 2 ^ 64 - 1 := by
    intro k
    calc ((([3, 4, 0, 13] : List UInt64).take k).map UInt64.toNat).sum
        ≤ (([3, 4, 0, 13] : List UInt64).map UInt64.toNat).sum :=
          ((List.take_sublist k _).map _).sum_le_sum (fun _ _ => Nat.zero_le _)
      _ ≤ 2 ^ 64 - 1 := by decide
  exact ⟨hsorted, outputOffsets_roundTrip.1 _ hsorted, hsums, outputOffsets_roundTrip.2 _ hsums⟩

/-! ## The outputs of a ring -/

namespace BlockchainDB

variable (db : BlockchainDB)

/-- `get_output_key(0, index)`: the `outkey` row of amount 0 at `index`;
`OUTPUT_DNE` when there is none. -/
def getOutputKey (index : UInt64) : Option OutKey :=
  db.outputAmounts.find? fun o => o.amount = 0 ∧ o.amountIndex = index.toNat

/-- `get_output_key(0, offsets, outputs, true)`: the rows at the offsets, up
to the first that is missing (`allow_partial`). -/
def getOutputKeys : List UInt64 → List OutKey
  | [] => []
  | i :: is =>
    match db.getOutputKey i with
    | none => []
    | some o => o :: getOutputKeys is

/-- `is_tx_spendtime_unlocked`, in 64 bits. -/
def isTxSpendtimeUnlocked (unlockTime : UInt64) : Bool :=
  UInt64.ofNat db.height - 1 + cryptonoteLockedTxAllowedDeltaBlocks ≥ unlockTime

/-- The height of the block holding the output the last offset of a ring names,
0 when there is none. -/
def lastRingMemberHeight (txin : TxinToKey) : ℕ :=
  (((relativeOutputOffsetsToAbsolute txin.keyOffsets).getLast?.bind db.getOutputKey).map
    OutKey.height).getD 0

/-- The outputs of amount 0 were stored in the order of their heights. -/
def HeightsMonotone : Prop :=
  ∀ o ∈ db.outputAmounts, ∀ o' ∈ db.outputAmounts, o.amount = 0 → o'.amount = 0 →
    o.amountIndex ≤ o'.amountIndex → o.height ≤ o'.height

variable {db}

theorem getOutputKey_spec {index : UInt64} {o : OutKey} (h : db.getOutputKey index = some o) :
    o ∈ db.outputAmounts ∧ o.amount = 0 ∧ o.amountIndex = index.toNat := by
  have hfound := List.find?_some h
  simp only [decide_eq_true_eq] at hfound
  exact ⟨List.mem_of_find?_eq_some h, hfound⟩

/-- When every offset is found, the rows are those of the offsets, in order. -/
theorem forall₂_getOutputKeys :
    ∀ {offsets : List UInt64}, (db.getOutputKeys offsets).length = offsets.length →
      List.Forall₂ (fun i o => db.getOutputKey i = some o) offsets (db.getOutputKeys offsets)
  | [], _ => List.Forall₂.nil
  | i :: is, h => by
    rw [getOutputKeys] at h ⊢
    cases hi : db.getOutputKey i with
    | none => simp [hi] at h
    | some o =>
      simp only [hi, List.length_cons, Nat.add_right_cancel_iff] at h
      exact List.Forall₂.cons hi (forall₂_getOutputKeys h)

end BlockchainDB

/-- The last of two lists related entry by entry by a partial function is the
image of the last of the first. -/
theorem getLast?_of_forall₂ {α β : Type} {f : α → Option β} :
    ∀ {l₁ : List α} {l₂ : List β}, List.Forall₂ (fun a b => f a = some b) l₁ l₂ →
      l₂.getLast? = l₁.getLast?.bind f
  | [], [], _ => rfl
  | [a], [b], .cons hab .nil => by rw [List.getLast?_singleton, List.getLast?_singleton, Option.bind_some, hab]
  | a :: a' :: as, b :: b' :: bs, .cons _ h => by
    rw [List.getLast?_cons_cons, List.getLast?_cons_cons]
    exact getLast?_of_forall₂ h

/-! ## The checks -/

namespace Blockchain

open BlockchainDB

variable (db : BlockchainDB)

/-- The loop of `scan_outputkeys_for_indexes` over the outputs of a ring of
`size` outputs, from the output `count`, with `outputs_visitor::handle_output`
of `check_tx_input`: each output must be unlocked and gives its key and
commitment; at the last, `*pmax_related_block_height` rises to its height. -/
def scanOutputs (size : ℕ) : ℕ → ℕ → List OutKey → Option (List (PublicKey × RctKey) × ℕ)
  | _, maxHeight, [] => some ([], maxHeight)
  | count, maxHeight, o :: os =>
    if db.isTxSpendtimeUnlocked o.unlockTime then
      let maxHeight := if count + 1 = size ∧ maxHeight < o.height then o.height else maxHeight
      (scanOutputs size (count + 1) maxHeight os).map fun r => ((o.pubkey, o.commitment) :: r.1, r.2)
    else none

/-- `scan_outputkeys_for_indexes` with the visitor of `check_tx_input`. -/
def scanOutputkeysForIndexes (txin : TxinToKey) (maxHeight : ℕ) :
    Option (List (PublicKey × RctKey) × ℕ) :=
  if txin.keyOffsets.isEmpty then none
  else
    let absoluteOffsets := relativeOutputOffsetsToAbsolute txin.keyOffsets
    let outputs := db.getOutputKeys absoluteOffsets
    if absoluteOffsets.length ≠ outputs.length then none
    else scanOutputs db absoluteOffsets.length 0 maxHeight outputs

/-- `check_tx_input`: the keys of the ring, one per offset; a version 1
transaction would also need one signature per key, and none is passed. -/
def checkTxInput (txVersion : UInt64) (txin : TxinToKey) (maxHeight : ℕ) :
    Option (List (PublicKey × RctKey) × ℕ) :=
  match scanOutputkeysForIndexes db txin maxHeight with
  | none => none
  | some (outputKeys, maxHeight) =>
    if txin.keyOffsets.length ≠ outputKeys.length then none
    else if txVersion = 1 ∧ outputKeys.length ≠ 0 then none
    else some (outputKeys, maxHeight)

/-- The loop of `check_tx_inputs` over the inputs: each must be a
`txin_to_key` with a ring, whose key image the chain has not spent and whose
ring `check_tx_input` accepts. -/
def checkInputsLoop (txVersion : UInt64) :
    List TxinV → ℕ → Option (List (List (PublicKey × RctKey)) × ℕ)
  | [], maxHeight => some ([], maxHeight)
  | .toKey txin :: rest, maxHeight =>
    if txin.keyOffsets.isEmpty then none
    else if db.hasKeyImage txin.kImage then none
    else
      match checkTxInput db txVersion txin maxHeight with
      | none => none
      | some (pubkeys, maxHeight) =>
        (checkInputsLoop txVersion rest maxHeight).map fun r => (pubkeys :: r.1, r.2)
  | _ :: _, _ => none

/-- The ring sizes of `check_tx_inputs`: the mixin of an input is its ring size
less one in `size_t`, so an empty ring counts as `SIZE_MAX`; none may exceed
`MAX_MIXIN`, the lowest may not be below the minimum of the fork, and under
strict semantics all must be equal. -/
def checkRingSizes (nt : NetworkType) (hfVersion : UInt8) (tx : Transaction) : Bool :=
  let mixins := (tx.vin.filterMap TxinV.toKey?).map fun i => (UInt64.ofNat i.keyOffsets.length - 1).toNat
  let lowestMixin := mixins.foldl min (2 ^ 64 - 1)
  let highestMixin := mixins.foldl max 0
  let minMixin := if checkHardForkFeature nt hfVersion .ringsizeIncReq then minMixinV2 else minMixinV1
  mixins.all (· ≤ maxMixin) && minMixin ≤ lowestMixin &&
    !(checkHardForkFeature nt hfVersion .strictTxSemantics && highestMixin ≠ lowestMixin)

/-- The sorted-inputs check of strict semantics: each key image compares below
the one before it, byte by byte as `memcmp` does. -/
def keyImagesSorted : List KeyImage → Bool
  | a :: b :: rest => decide (b.bytes < a.bytes) && keyImagesSorted (b :: rest)
  | _ => true

/-- What `check_tx_inputs` computes outside the model: the checks of strict
semantics on the fields of `tx_extra` (one public key, at most one field of
additional keys and one uniform payment id, which `FORK_UNIFORM_IDS_REQ`
requires), whose parse keeps the fields read before a failure; and
`expand_transaction_2` with the ring signatures over the keys of the rings. -/
structure InputChecks where
  extraFields : Transaction → Bool
  ringSignatures : Transaction → List (List (PublicKey × RctKey)) → Bool

/-- `Blockchain::check_tx_inputs(tx, tvc, pmax_used_block_height)`: the height
it leaves in `*pmax_used_block_height` when it returns true. -/
def checkTxInputs (checks : InputChecks) (nt : NetworkType) (hfVersion : UInt8) (tx : Transaction) :
    Option ℕ :=
  if !checkRingSizes nt hfVersion tx then none
  else if checkHardForkFeature nt hfVersion .strictTxSemantics &&
      !(checks.extraFields tx && keyImagesSorted tx.keyImages) then none
  else if tx.version > 2 || tx.version < 2 then none
  else
    match checkInputsLoop db tx.version tx.vin 0 with
    | none => none
    | some (pubkeys, maxHeight) => if checks.ringSignatures tx pubkeys then some maxHeight else none

/-! ## What a successful check leaves -/

section Spec

variable {db}

/-- The scan over the outputs of a ring from the output `count` on: every
output must be unlocked, and the maximum rises to the height of the last. -/
theorem scanOutputs_eq : ∀ (os : List OutKey) (count maxHeight : ℕ),
    scanOutputs db (count + os.length) count maxHeight os =
      if os.all fun o => db.isTxSpendtimeUnlocked o.unlockTime then
        some (os.map fun o => (o.pubkey, o.commitment),
          (os.getLast?.map fun o => max maxHeight o.height).getD maxHeight)
      else none
  | [], count, maxHeight => by simp [scanOutputs]
  | o :: os, count, maxHeight => by
    rw [show count + (o :: os).length = count + 1 + os.length by simp; omega, scanOutputs, List.all_cons]
    by_cases hu : db.isTxSpendtimeUnlocked o.unlockTime
    · dsimp only
      rw [if_pos hu, hu, Bool.true_and, scanOutputs_eq os (count + 1)]
      split
      · -- the maximum rises at this output exactly when no output follows it
        cases os with
        | nil => simp [← max_def_lt]
        | cons o' os => simp [List.getLast?_cons_cons]
      · rfl
    · rw [if_neg hu, Bool.eq_false_iff.mpr hu, Bool.false_and, if_neg Bool.false_ne_true]

/-- A member of the first of two lists related entry by entry has a partner in
the second. -/
theorem exists_of_forall₂ {α β : Type} {R : α → β → Prop} :
    ∀ {l₁ : List α} {l₂ : List β}, List.Forall₂ R l₁ l₂ → ∀ a ∈ l₁, ∃ b ∈ l₂, R a b
  | _, _, .nil => by simp
  | _, _, .cons hab h => by
    intro a ha
    rcases List.mem_cons.mp ha with rfl | ha
    · exact ⟨_, List.mem_cons_self, hab⟩
    · obtain ⟨b, hb, hr⟩ := exists_of_forall₂ h a ha
      exact ⟨b, List.mem_cons_of_mem _ hb, hr⟩

/-- What the scan of one ring ensures: every output it names is stored and
unlocked, and the maximum rises to the height of the last. -/
theorem scanOutputkeysForIndexes_spec {txin : TxinToKey} {maxHeight : ℕ}
    {r : List (PublicKey × RctKey) × ℕ} (h : scanOutputkeysForIndexes db txin maxHeight = some r) :
    (∀ a ∈ relativeOutputOffsetsToAbsolute txin.keyOffsets,
      ∃ o, db.getOutputKey a = some o ∧ db.isTxSpendtimeUnlocked o.unlockTime = true) ∧
    r.2 = max maxHeight (db.lastRingMemberHeight txin) := by
  unfold scanOutputkeysForIndexes at h
  split at h
  · simp at h
  set offsets := relativeOutputOffsetsToAbsolute txin.keyOffsets with hoffsets
  dsimp only at h
  split at h
  · simp at h
  rename_i hlen
  have hlen : (db.getOutputKeys offsets).length = offsets.length := (not_not.mp hlen).symm
  have hpairs := forall₂_getOutputKeys hlen
  rw [← hlen, ← Nat.zero_add (db.getOutputKeys offsets).length, scanOutputs_eq] at h
  split at h
  · rename_i hall
    rw [Option.some.injEq] at h
    subst h
    have hlast := getLast?_of_forall₂ hpairs
    refine ⟨fun a ha => ?_, ?_⟩
    · obtain ⟨o, ho, hao⟩ := exists_of_forall₂ hpairs a ha
      exact ⟨o, hao, List.all_eq_true.mp hall o ho⟩
    · rw [lastRingMemberHeight, ← hoffsets, ← hlast]
      cases db.getOutputKeys offsets |>.getLast? <;> simp
  · simp at h

theorem checkTxInput_spec {txVersion : UInt64} {txin : TxinToKey} {maxHeight : ℕ}
    {r : List (PublicKey × RctKey) × ℕ} (h : checkTxInput db txVersion txin maxHeight = some r) :
    (∀ a ∈ relativeOutputOffsetsToAbsolute txin.keyOffsets,
      ∃ o, db.getOutputKey a = some o ∧ db.isTxSpendtimeUnlocked o.unlockTime = true) ∧
    r.2 = max maxHeight (db.lastRingMemberHeight txin) := by
  unfold checkTxInput at h
  split at h
  · simp at h
  rename_i r' hscan
  split_ifs at h
  rw [Option.some.injEq] at h
  subst h
  exact scanOutputkeysForIndexes_spec hscan

/-- The height of the last output of the ring of an input, 0 for an input that
is not a `txin_to_key`. -/
def inputLastHeight (db : BlockchainDB) (i : TxinV) : ℕ :=
  (i.toKey?.map db.lastRingMemberHeight).getD 0

/-- What the loop over the inputs ensures: every input is a `txin_to_key`
whose outputs are stored and unlocked, and the maximum is the largest height of
the last output of a ring. The induction follows the inputs. -/
theorem checkInputsLoop_spec (txVersion : UInt64) :
    ∀ (vin : List TxinV) (maxHeight : ℕ) (r : List (List (PublicKey × RctKey)) × ℕ),
      checkInputsLoop db txVersion vin maxHeight = some r →
      (∀ i ∈ vin, ∃ txin, i = .toKey txin ∧ ∀ a ∈ relativeOutputOffsetsToAbsolute txin.keyOffsets,
        ∃ o, db.getOutputKey a = some o ∧ db.isTxSpendtimeUnlocked o.unlockTime = true) ∧
      r.2 = (vin.map (inputLastHeight db)).foldl max maxHeight
  | [], maxHeight, r, h => by
    rw [checkInputsLoop, Option.some.injEq] at h
    subst h
    simp
  | .toKey txin :: rest, maxHeight, r, h => by
    rw [checkInputsLoop] at h
    split_ifs at h
    split at h
    · simp at h
    rename_i pubkeys maxHeight' hinput
    obtain ⟨hring, hmax⟩ := checkTxInput_spec hinput
    have hmax : maxHeight' = max maxHeight (db.lastRingMemberHeight txin) := hmax
    obtain ⟨r', hrest, rfl⟩ := Option.map_eq_some_iff.mp h
    obtain ⟨hrings, hmax'⟩ := checkInputsLoop_spec txVersion rest maxHeight' r' hrest
    refine ⟨?_, ?_⟩
    · intro i hi
      rcases List.mem_cons.mp hi with rfl | hi
      · exact ⟨txin, rfl, hring⟩
      · exact hrings i hi
    · rw [List.map_cons, List.foldl_cons, hmax', hmax]
      rfl
  | .gen _ :: _, _, _, h => by simp [checkInputsLoop] at h
  | .toScript _ :: _, _, _, h => by simp [checkInputsLoop] at h
  | .toScripthash _ :: _, _, _, h => by simp [checkInputsLoop] at h

theorem le_foldl_max : ∀ (l : List ℕ) (init : ℕ), init ≤ l.foldl max init ∧ ∀ x ∈ l, x ≤ l.foldl max init
  | [], init => by simp
  | y :: l, init => by
    obtain ⟨hinit, hmem⟩ := le_foldl_max l (max init y)
    refine ⟨le_trans (le_max_left init y) hinit, fun x hx => ?_⟩
    rcases List.mem_cons.mp hx with rfl | hx
    · exact le_trans (le_max_right init x) hinit
    · exact hmem x hx

theorem checkTxInputs_maxUsedHeight {checks : InputChecks} {nt : NetworkType} {hfVersion : UInt8}
    {tx : Transaction} {h : ℕ} (hok : checkTxInputs db checks nt hfVersion tx = some h) :
    (∀ i ∈ tx.vin, ∃ txin, i = .toKey txin ∧ ∀ a ∈ relativeOutputOffsetsToAbsolute txin.keyOffsets,
      ∃ o, db.getOutputKey a = some o ∧ db.isTxSpendtimeUnlocked o.unlockTime = true) ∧
    h = (tx.vin.map (inputLastHeight db)).foldl max 0 ∧
    (db.HeightsMonotone → (∀ txin, .toKey txin ∈ tx.vin → (txin.keyOffsets.map UInt64.toNat).sum < 2 ^ 64) →
      ∀ txin, .toKey txin ∈ tx.vin → ∀ a ∈ relativeOutputOffsetsToAbsolute txin.keyOffsets,
        ∀ o, db.getOutputKey a = some o → o.height ≤ h) := by
  unfold checkTxInputs at hok
  split_ifs at hok
  split at hok
  · simp at hok
  rename_i pubkeys maxHeight hloop
  split_ifs at hok
  rw [Option.some.injEq] at hok
  subst hok
  obtain ⟨hrings, hmax⟩ := checkInputsLoop_spec tx.version tx.vin 0 _ hloop
  refine ⟨hrings, hmax, fun hmono hsum txin htxin a ha o ho => ?_⟩
  -- the last offset of the ring names the output of largest index, hence of largest height
  obtain ⟨b, hb⟩ := List.getLast?_isSome.mpr (List.ne_nil_of_mem ha) |> Option.isSome_iff_exists.mp
  obtain ⟨t, ht, hring⟩ := hrings _ htxin
  obtain rfl : txin = t := TxinV.toKey.inj ht
  obtain ⟨ob, hob, -⟩ := hring b (List.mem_of_getLast? hb)
  have hab := le_getLast_of_mem_offsetSums 0 txin.keyOffsets (by simpa using hsum _ htxin) a ha b hb
  obtain ⟨hoMem, hoAmount, hoIndex⟩ := getOutputKey_spec ho
  obtain ⟨hobMem, hobAmount, hobIndex⟩ := getOutputKey_spec hob
  have hheight : o.height ≤ ob.height := hmono o hoMem ob hobMem hoAmount hobAmount (by omega)
  have hlast : inputLastHeight db (.toKey txin) = ob.height := by
    simp [inputLastHeight, TxinV.toKey?, lastRingMemberHeight, hb, hob]
  have hle := (le_foldl_max (tx.vin.map (inputLastHeight db)) 0).2 _ (List.mem_map_of_mem htxin)
  rw [hlast] at hle
  omega

/-- A ring of eleven outputs whose relative offsets wrap: `20, 2^64 - 19, 1, ..., 1`
name the outputs 20, 1, 2, ..., 10. -/
def wrappedRing : TxinToKey := ⟨0, 20 :: 18446744073709551597 :: List.replicate 9 1, default⟩

def wrappedRingTx : Transaction := { (default : Transaction) with version := 2, vin := [.toKey wrappedRing] }

/-- Outputs 1 to 10 in block 1 and output 20 in block 3. -/
def ringStore : BlockchainDB :=
  { BlockchainDB.empty with
    outputAmounts := (List.range 10).map (fun i => ⟨0, i + 1, i + 1, default, 0, 1, default⟩) ++
      [⟨0, 20, 20, default, 0, 3, default⟩] }

/-- Signatures and `tx_extra` that pass. -/
def acceptingChecks : InputChecks := ⟨fun _ => true, fun _ _ => true⟩

theorem checkTxInputs_maxUsedHeight_wrapped :
    checkTxInputs ringStore acceptingChecks .mainnet 1 wrappedRingTx = some 1 ∧
      1 = (wrappedRingTx.vin.map (inputLastHeight ringStore)).foldl max 0 ∧
      (20 : UInt64) ∈ relativeOutputOffsetsToAbsolute wrappedRing.keyOffsets ∧
      (ringStore.getOutputKey 20).map OutKey.height = some 3 :=
  have hok : checkTxInputs ringStore acceptingChecks .mainnet 1 wrappedRingTx = some 1 := by decide
  ⟨hok, (checkTxInputs_maxUsedHeight hok).2.1, by decide, by decide⟩

end Spec

end Blockchain

end Ombre
