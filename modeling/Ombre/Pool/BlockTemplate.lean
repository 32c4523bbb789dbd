import Ombre.Pool.Consistency
import Ombre.Core.Reward

/-!
# Block templates

`tx_memory_pool::fill_block_template`. The loop walks the transactions of the
pool in the order of `m_txs_by_fee_and_receive_time`, best fee per byte first,
and takes a transaction when the block stays within its size, the reward of
the larger block plus the fees does not fall below the coinbase so far
(`template_accept_threshold`), the transaction is ready to go, and none of its
key images is used by a transaction already taken. The template records the
hashes, the size and the fees of what was taken, and the coinbase it pays.

`is_transaction_ready_to_go` reads and writes back fields of the row's meta
that record its last check against the chain (`max_used_block_id`,
`last_failed_id`, their heights and `double_spend_seen`). The pool model does
not keep them, so readiness is a parameter, and the modelled pool is left as it
was.

On a consistent pool whose sorted set holds each hash once, with a median of at
least the full-reward zone and below `2 ^ 32`, blobs below `2 ^ 32` and fees
summing below `2 ^ 63`, the template holds distinct transactions of the pool,
in fee order and each ready, whose key images are pairwise disjoint; its size
and fees are the sums of theirs, the size leaves room for the coinbase within
twice the median, and it pays the reward of its size plus its fees
(`fillBlockTemplate_spec`). The proof is a loop invariant, `FillInv`, kept by
each pass (`FillInv.step`) and so by the whole walk (`FillInv.run`).
-/

namespace Ombre

namespace TxPool

/-! ## The accept threshold -/

/-- The number of bits of `x`, for `x < 2 ^ fuel`. -/
def bitLength : ℕ → ℕ → ℕ
  | 0, _ => 0
  | fuel + 1, x => if x = 0 then 0 else bitLength fuel (x / 2) + 1

/-- The `float` nearest to `x < 2 ^ 64`, ties to even: `x` rounded to its 24
highest bits. -/
def roundToFloat (x : ℕ) : ℕ :=
  let e := bitLength 64 x - 24
  let q := x / 2 ^ e
  let r := x % 2 ^ e
  if 2 * r > 2 ^ e ∨ (2 * r = 2 ^ e ∧ q % 2 = 1) then (q + 1) * 2 ^ e else q * 2 ^ e

/-- `template_accept_threshold(amount)`: `amount * ACCEPT_THRESHOLD` with
`ACCEPT_THRESHOLD = 1.0f`, so the amount as the nearest `float`, converted back
to `uint64_t`. The `float` nearest to an amount above `2 ^ 64 - 2 ^ 39` is
`2 ^ 64`, which has no `uint64_t` value in C++; it is taken modulo `2 ^ 64`
here. -/
def templateAcceptThreshold (amount : UInt64) : UInt64 := UInt64.ofNat (roundToFloat amount.toNat)

/-! ## The loop -/

/-- `have_key_images`: a key image of the inputs is in the set. An input that
is not a `txin_to_key` ends the search with `false`. -/
def haveKeyImages (kImages : List KeyImage) : List TxinV → Bool
  | [] => false
  | .toKey i :: rest => decide (i.kImage ∈ kImages) || haveKeyImages kImages rest
  | _ :: _ => false

/-- `append_key_images`: insert the key image of each input. An input that is
not a `txin_to_key`, or a key image already in the set, stops the insertion. -/
def appendKeyImages (kImages : List KeyImage) : List TxinV → List KeyImage
  | [] => kImages
  | .toKey i :: rest => if i.kImage ∈ kImages then kImages else appendKeyImages (kImages ++ [i.kImage]) rest
  | _ :: _ => kImages

/-- The locals of `fill_block_template` in its loop: `bl.tx_hashes`,
`total_size`, `fee`, `best_coinbase` and `k_images`. -/
structure TemplateFill where
  txHashes : List Hash
  totalSize : UInt64
  fee : UInt64
  bestCoinbase : UInt64
  kImages : List KeyImage

/-- One pass of the loop of `fill_block_template`, over the entry `e`. -/
def fillBlockTemplateStep (em : Emission) (ready : Hash → TxPoolMeta → Transaction → Bool) (pool : TxPool)
    (medianSize alreadyGeneratedCoins height maxTotalSize : UInt64) (s : TemplateFill) (e : SortedEntry) :
    TemplateFill :=
  match pool.getTxpoolTx e.id with
  | none => s
  | some (txMeta, tx) =>
    if maxTotalSize < s.totalSize + txMeta.blobSize then s
    else
      match getBlockReward em medianSize (s.totalSize + txMeta.blobSize + cryptonoteCoinbaseBlobReservedSize)
          alreadyGeneratedCoins height with
      | none => s
      | some blockReward =>
        let coinbase := blockReward + s.fee + txMeta.fee
        if coinbase < templateAcceptThreshold s.bestCoinbase then s
        else if !ready e.id txMeta tx then s
        else if haveKeyImages s.kImages tx.vin then s
        else
          { txHashes := s.txHashes ++ [e.id]
            totalSize := s.totalSize + txMeta.blobSize
            fee := s.fee + txMeta.fee
            bestCoinbase := coinbase
            kImages := appendKeyImages s.kImages tx.vin }

/-- What `fill_block_template` leaves in `bl.tx_hashes`, `total_size`, `fee`
and `expected_reward`; it always returns `true`. -/
structure BlockTemplate where
  txHashes : List Hash
  totalSize : UInt64
  fee : UInt64
  expectedReward : UInt64

/-- `fill_block_template`: the coinbase of the empty block to start from, then
the loop over the sorted set. -/
def fillBlockTemplate (em : Emission) (ready : Hash → TxPoolMeta → Transaction → Bool) (pool : TxPool)
    (medianSize alreadyGeneratedCoins height : UInt64) : BlockTemplate :=
  let bestCoinbase := (getBlockReward em medianSize 0 alreadyGeneratedCoins height).getD 0
  let maxTotalSize := 200 * medianSize / 100 - cryptonoteCoinbaseBlobReservedSize
  let s := pool.sorted.foldl
    (fillBlockTemplateStep em ready pool medianSize alreadyGeneratedCoins height maxTotalSize)
    ⟨[], 0, 0, bestCoinbase, []⟩
  ⟨s.txHashes, s.totalSize, s.fee, s.bestCoinbase⟩

/-! ## The key images of a transaction taken -/

section KeyImageSet

/-- With only `txin_to_key` inputs, `have_key_images` finds nothing exactly
when no key image of the inputs is in the set. -/
theorem haveKeyImages_eq_false_iff {kImages : List KeyImage} :
    ∀ {vin : List TxinV}, (∀ i ∈ vin, i.isToKey = true) →
      (haveKeyImages kImages vin = false ↔ ∀ k ∈ vin.filterMap TxinV.keyImage?, k ∉ kImages)
  | [], _ => by simp [haveKeyImages]
  | i :: rest, h => by
    have hi := h i List.mem_cons_self
    have ih := @haveKeyImages_eq_false_iff kImages rest fun j hj => h j (List.mem_cons_of_mem _ hj)
    cases i with
    | toKey t =>
      rw [haveKeyImages, Bool.or_eq_false_iff, ih, keyImages_cons_toKey, List.forall_mem_cons,
        decide_eq_false_iff_not]
    | gen _ | toScript _ | toScripthash _ => simp [TxinV.isToKey] at hi

/-- With only `txin_to_key` inputs whose key images are new and distinct,
`append_key_images` inserts them all. -/
theorem appendKeyImages_eq :
    ∀ {kImages : List KeyImage} {vin : List TxinV}, (∀ i ∈ vin, i.isToKey = true) →
      (kImages ++ vin.filterMap TxinV.keyImage?).Nodup →
      appendKeyImages kImages vin = kImages ++ vin.filterMap TxinV.keyImage?
  | _, [], _, _ => by simp [appendKeyImages]
  | kImages, i :: rest, h, hnd => by
    have hi := h i List.mem_cons_self
    cases i with
    | toKey t =>
      rw [keyImages_cons_toKey] at hnd ⊢
      have hnew : t.kImage ∉ kImages := fun hk =>
        (List.nodup_append.mp hnd).2.2 _ hk _ List.mem_cons_self rfl
      have hnd' : (kImages ++ [t.kImage] ++ rest.filterMap TxinV.keyImage?).Nodup := by
        rwa [List.append_assoc, List.singleton_append]
      rw [appendKeyImages, if_neg hnew,
        appendKeyImages_eq (fun j hj => h j (List.mem_cons_of_mem _ hj)) hnd', List.append_assoc,
        List.singleton_append]
    | gen _ | toScript _ | toScripthash _ => simp [TxinV.isToKey] at hi

end KeyImageSet

/-! ## The rows the loop visits -/

/-- The rows of the entries whose row is found, in the order of the entries. -/
def rowsOf (pool : TxPool) (entries : List SortedEntry) : List (Hash × TxPoolMeta × Transaction) :=
  entries.filterMap fun e => (pool.getTxpoolTx e.id).map fun r => (e.id, r)

section Rows

variable {pool : TxPool}

theorem rowsOf_append_of_none {done : List SortedEntry} {e : SortedEntry} (h : pool.getTxpoolTx e.id = none) :
    rowsOf pool (done ++ [e]) = rowsOf pool done := by
  simp [rowsOf, List.filterMap_append, h]

theorem rowsOf_append_of_some {done : List SortedEntry} {e : SortedEntry} {r : TxPoolMeta × Transaction}
    (h : pool.getTxpoolTx e.id = some r) : rowsOf pool (done ++ [e]) = rowsOf pool done ++ [(e.id, r)] := by
  simp [rowsOf, List.filterMap_append, h]

theorem mem_rowsOf {entries : List SortedEntry} {r : Hash × TxPoolMeta × Transaction} (h : r ∈ rowsOf pool entries) :
    (∃ e ∈ entries, e.id = r.1) ∧ pool.getTxpoolTx r.1 = some r.2 := by
  obtain ⟨e, he, hr⟩ := List.mem_filterMap.mp h
  obtain ⟨r', hr', rfl⟩ := Option.map_eq_some_iff.mp hr
  exact ⟨⟨e, he, rfl⟩, hr'⟩

/-- The hashes of the rows are among those of the entries, in their order. -/
theorem map_fst_rowsOf_sublist : ∀ entries : List SortedEntry,
    ((rowsOf pool entries).map Prod.fst).Sublist (entries.map SortedEntry.id)
  | [] => List.Sublist.slnil
  | e :: entries => by
    have ih := map_fst_rowsOf_sublist entries
    rw [rowsOf, List.filterMap_cons, List.map_cons]
    cases pool.getTxpoolTx e.id with
    | none => exact ih.cons _
    | some r => exact ih.cons_cons _

/-- In a consistent pool the transaction of every row of the sorted set has
only `txin_to_key` inputs, with distinct key images. -/
theorem Consistent.rowsOf_inputs {p : Primitives} {blobSizeOf : Transaction → UInt64}
    {checkOutputs : Transaction → Bool} (hc : Consistent p blobSizeOf checkOutputs pool) :
    ∀ r ∈ rowsOf pool pool.sorted, (∀ i ∈ r.2.2.vin, i.isToKey = true) ∧ r.2.2.keyImages.Nodup := by
  rintro ⟨id, txMeta, tx⟩ hr
  obtain ⟨⟨e, he, rfl⟩, hrow⟩ := mem_rowsOf hr
  have hmem := mem_of_getTxpoolTx hrow
  exact ⟨List.all_eq_true.mp (hc.row_admissible _ hmem).inputs, (hc.recorded e he txMeta tx hmem).1⟩

end Rows

/-! ## The loop invariant -/

section Fill

variable (em : Emission) (ready : Hash → TxPoolMeta → Transaction → Bool) (pool : TxPool)
  (medianSize alreadyGeneratedCoins height : UInt64)

/-- The locals of the loop after the entries `done`, with `rows` the rows taken
so far: taken in the order of the entries, each ready, their key images in the
set and distinct, the size and fees their sums, room left for the coinbase, and
the best coinbase the reward of the size plus the fees (the empty block's
reward before anything is taken). -/
structure FillInv (done : List SortedEntry) (s : TemplateFill) (rows : List (Hash × TxPoolMeta × Transaction)) :
    Prop where
  sublist : rows.Sublist (rowsOf pool done)
  txHashes : s.txHashes = rows.map Prod.fst
  ready : ∀ r ∈ rows, ready r.1 r.2.1 r.2.2 = true
  kImages : s.kImages = (rows.map fun r => r.2.2.keyImages).flatten
  kImages_nodup : s.kImages.Nodup
  totalSize : s.totalSize.toNat = (rows.map fun r => r.2.1.blobSize.toNat).sum
  fits : s.totalSize.toNat + cryptonoteCoinbaseBlobReservedSize.toNat ≤ 2 * medianSize.toNat
  fee : s.fee.toNat = (rows.map fun r => r.2.1.fee.toNat).sum
  empty : rows = [] → getBlockReward em medianSize 0 alreadyGeneratedCoins height = some s.bestCoinbase
  coinbase : rows ≠ [] → ∃ reward, getBlockReward em medianSize
    (s.totalSize + cryptonoteCoinbaseBlobReservedSize) alreadyGeneratedCoins height = some reward ∧
    s.bestCoinbase.toNat = reward.toNat + s.fee.toNat

variable {em ready pool medianSize alreadyGeneratedCoins height}

/-- An entry that takes nothing keeps the invariant. -/
theorem FillInv.extend {done done' : List SortedEntry} {s : TemplateFill} {rows : List (Hash × TxPoolMeta × Transaction)}
    (hinv : FillInv em ready pool medianSize alreadyGeneratedCoins height done s rows)
    (hsub : (rowsOf pool done).Sublist (rowsOf pool done')) :
    FillInv em ready pool medianSize alreadyGeneratedCoins height done' s rows :=
  { hinv with sublist := hinv.sublist.trans hsub }

/-- The median is its own soft median once it reaches the full-reward zone. -/
theorem toNat_softMedian (hzone : cryptonoteBlockGrantedFullRewardZone ≤ medianSize) :
    (max medianSize cryptonoteBlockGrantedFullRewardZone).toNat = medianSize.toNat := by
  rw [toNat_max]
  exact max_eq_left (UInt64.le_iff_toNat_le.mp hzone)

theorem toNat_softMedian_lt (hzone : cryptonoteBlockGrantedFullRewardZone ≤ medianSize)
    (hM : medianSize.toNat < 2 ^ 32) : (max medianSize cryptonoteBlockGrantedFullRewardZone).toNat < 2 ^ 32 := by
  rwa [toNat_softMedian hzone]

/-- A sum over the rows taken, after one more row. -/
theorem sum_map_append_singleton (f : Hash × TxPoolMeta × Transaction → ℕ)
    (rows : List (Hash × TxPoolMeta × Transaction)) (r : Hash × TxPoolMeta × Transaction) :
    ((rows ++ [r]).map f).sum = (rows.map f).sum + f r := by
  rw [List.map_append, List.sum_append, List.map_singleton, List.sum_singleton]

/-- Taking the transaction of the row `(e.id, txMeta, tx)` keeps the invariant:
the larger block has a reward, and no key image of the transaction is taken. -/
theorem FillInv.take {done : List SortedEntry} {e : SortedEntry} {s : TemplateFill}
    {rows : List (Hash × TxPoolMeta × Transaction)} {txMeta : TxPoolMeta} {tx : Transaction} {blockReward : UInt64}
    (hzone : cryptonoteBlockGrantedFullRewardZone ≤ medianSize) (hM : medianSize.toNat < 2 ^ 32)
    (hinv : FillInv em ready pool medianSize alreadyGeneratedCoins height done s rows)
    (hext : rowsOf pool (done ++ [e]) = rowsOf pool done ++ [(e.id, txMeta, tx)])
    (hsub : (rows ++ [(e.id, txMeta, tx)]).Sublist (rowsOf pool pool.sorted))
    (hinputs : ∀ i ∈ tx.vin, i.isToKey = true) (hnodup : tx.keyImages.Nodup)
    (hblob : txMeta.blobSize.toNat < 2 ^ 32)
    (hfees : ((rowsOf pool pool.sorted).map fun r => r.2.1.fee.toNat).sum < 2 ^ 63)
    (hreward : getBlockReward em medianSize (s.totalSize + txMeta.blobSize + cryptonoteCoinbaseBlobReservedSize)
      alreadyGeneratedCoins height = some blockReward)
    (hready : ready e.id txMeta tx = true) (hnew : haveKeyImages s.kImages tx.vin = false) :
    FillInv em ready pool medianSize alreadyGeneratedCoins height (done ++ [e])
      { txHashes := s.txHashes ++ [e.id]
        totalSize := s.totalSize + txMeta.blobSize
        fee := s.fee + txMeta.fee
        bestCoinbase := blockReward + s.fee + txMeta.fee
        kImages := appendKeyImages s.kImages tx.vin }
      (rows ++ [(e.id, txMeta, tx)]) := by
  have hM' := toNat_softMedian_lt hzone hM
  -- the block with the transaction fits twice the median, and no sum wraps
  have hsize := (toNat_of_getBlockReward_eq_some hM' hreward).1
  rw [toNat_softMedian hzone] at hsize
  have hfits := hinv.fits
  have hreserved : cryptonoteCoinbaseBlobReservedSize.toNat = 600 := rfl
  have htotal : (s.totalSize + txMeta.blobSize).toNat = s.totalSize.toNat + txMeta.blobSize.toNat :=
    toNat_add_of_lt (by omega)
  have hblock : (s.totalSize + txMeta.blobSize + cryptonoteCoinbaseBlobReservedSize).toNat =
      s.totalSize.toNat + txMeta.blobSize.toNat + 600 := by
    rw [toNat_add_of_lt (by omega), htotal, hreserved]
  have hfeeSum : s.fee.toNat + txMeta.fee.toNat < 2 ^ 63 := by
    have hle := (hsub.map fun r => r.2.1.fee.toNat).sum_le_sum fun _ _ => Nat.zero_le _
    rw [sum_map_append_singleton, ← hinv.fee] at hle
    exact Nat.lt_of_le_of_lt hle hfees
  have hfee : (s.fee + txMeta.fee).toNat = s.fee.toNat + txMeta.fee.toNat := toNat_add_of_lt (by omega)
  have hreward_lt := Nat.lt_of_le_of_lt (toNat_le_baseReward hM' hreward)
    (toNat_baseReward_lt em alreadyGeneratedCoins height)
  have hcoinbase : (blockReward + s.fee + txMeta.fee).toNat = blockReward.toNat + (s.fee + txMeta.fee).toNat := by
    rw [UInt64.add_assoc, toNat_add_of_lt (by omega)]
  -- the key images of the transaction join those taken, all distinct
  have hdisjoint : (s.kImages ++ tx.keyImages).Nodup :=
    List.nodup_append.mpr ⟨hinv.kImages_nodup, hnodup, fun a ha b hb hab =>
      (haveKeyImages_eq_false_iff hinputs).mp hnew b hb (hab ▸ ha)⟩
  have happend : appendKeyImages s.kImages tx.vin = s.kImages ++ tx.keyImages :=
    appendKeyImages_eq hinputs hdisjoint
  refine
    { sublist := hext ▸ hinv.sublist.append (List.Sublist.refl _)
      txHashes := by rw [hinv.txHashes, List.map_append]; rfl
      ready := fun r hr => ?_
      kImages := by
        rw [happend, hinv.kImages, List.map_append, List.flatten_append, List.map_singleton,
          List.flatten_singleton]
      kImages_nodup := happend ▸ hdisjoint
      totalSize := by
        rw [htotal, hinv.totalSize, sum_map_append_singleton]
      fits := by
        rw [htotal]
        omega
      fee := by
        rw [hfee, hinv.fee, sum_map_append_singleton]
      empty := fun h => absurd h (List.append_ne_nil_of_right_ne_nil _ (List.cons_ne_nil _ _))
      coinbase := fun _ => ⟨blockReward, hreward, hcoinbase⟩ }
  rcases List.mem_append.mp hr with hr | hr
  · exact hinv.ready r hr
  · rw [List.mem_singleton] at hr
    subst hr
    exact hready

/-- One pass of the loop keeps the invariant, for an entry of the sorted set
after those visited. -/
theorem FillInv.step (maxTotalSize : UInt64) {done : List SortedEntry} {e : SortedEntry} {s : TemplateFill}
    {rows : List (Hash × TxPoolMeta × Transaction)}
    (hzone : cryptonoteBlockGrantedFullRewardZone ≤ medianSize) (hM : medianSize.toNat < 2 ^ 32)
    (hinputs : ∀ r ∈ rowsOf pool pool.sorted, (∀ i ∈ r.2.2.vin, i.isToKey = true) ∧ r.2.2.keyImages.Nodup)
    (hblob : ∀ r ∈ rowsOf pool pool.sorted, r.2.1.blobSize.toNat < 2 ^ 32)
    (hfees : ((rowsOf pool pool.sorted).map fun r => r.2.1.fee.toNat).sum < 2 ^ 63)
    (hdone : done ++ [e] <+: pool.sorted)
    (hinv : FillInv em ready pool medianSize alreadyGeneratedCoins height done s rows) :
    ∃ rows', FillInv em ready pool medianSize alreadyGeneratedCoins height (done ++ [e])
      (fillBlockTemplateStep em ready pool medianSize alreadyGeneratedCoins height maxTotalSize s e) rows' := by
  unfold fillBlockTemplateStep
  cases hrow : pool.getTxpoolTx e.id with
  | none => exact ⟨rows, hinv.extend (by rw [rowsOf_append_of_none hrow])⟩
  | some r =>
    obtain ⟨txMeta, tx⟩ := r
    have hext : rowsOf pool (done ++ [e]) = rowsOf pool done ++ [(e.id, txMeta, tx)] :=
      rowsOf_append_of_some hrow
    have hkeep := hinv.extend (hext ▸ List.sublist_append_left _ _)
    have hsub : (rows ++ [(e.id, txMeta, tx)]).Sublist (rowsOf pool pool.sorted) :=
      (hext ▸ hinv.sublist.append (List.Sublist.refl _)).trans (hdone.sublist.filterMap _)
    have hin : (e.id, txMeta, tx) ∈ rowsOf pool pool.sorted :=
      hsub.subset (List.mem_append_right _ (List.mem_singleton_self _))
    obtain ⟨hinp, hnodup⟩ := hinputs _ hin
    -- every test of the pass that fails leaves the locals as they were
    dsimp only
    split
    · exact ⟨rows, hkeep⟩
    split
    · exact ⟨rows, hkeep⟩
    rename_i blockReward hreward
    split
    · exact ⟨rows, hkeep⟩
    split
    · exact ⟨rows, hkeep⟩
    rename_i hready
    split
    · exact ⟨rows, hkeep⟩
    rename_i hnew
    exact ⟨_, hinv.take hzone hM hext hsub hinp hnodup (hblob _ hin) hfees hreward
      (by simpa using hready) (by simpa using hnew)⟩

/-- The invariant holds after the whole walk. The induction is on the entries
left, the visited ones forming a prefix of the sorted set. -/
theorem FillInv.run (maxTotalSize : UInt64)
    (hzone : cryptonoteBlockGrantedFullRewardZone ≤ medianSize) (hM : medianSize.toNat < 2 ^ 32)
    (hinputs : ∀ r ∈ rowsOf pool pool.sorted, (∀ i ∈ r.2.2.vin, i.isToKey = true) ∧ r.2.2.keyImages.Nodup)
    (hblob : ∀ r ∈ rowsOf pool pool.sorted, r.2.1.blobSize.toNat < 2 ^ 32)
    (hfees : ((rowsOf pool pool.sorted).map fun r => r.2.1.fee.toNat).sum < 2 ^ 63) :
    ∀ (rest done : List SortedEntry) (s : TemplateFill) (rows : List (Hash × TxPoolMeta × Transaction)),
      done ++ rest = pool.sorted → FillInv em ready pool medianSize alreadyGeneratedCoins height done s rows →
      ∃ rows', FillInv em ready pool medianSize alreadyGeneratedCoins height pool.sorted
        (rest.foldl (fillBlockTemplateStep em ready pool medianSize alreadyGeneratedCoins height maxTotalSize) s)
        rows'
  | [], done, s, rows, hsplit, hinv => by
    rw [List.append_nil] at hsplit
    exact ⟨rows, hsplit ▸ hinv⟩
  | e :: rest, done, s, rows, hsplit, hinv => by
    have hsplit' : done ++ [e] ++ rest = pool.sorted := by rw [List.append_assoc, List.singleton_append, hsplit]
    obtain ⟨rows', hinv'⟩ := hinv.step maxTotalSize hzone hM hinputs hblob hfees ⟨rest, hsplit'⟩
    exact FillInv.run maxTotalSize hzone hM hinputs hblob hfees rest (done ++ [e]) _ rows' hsplit' hinv'

/-- Before the loop: nothing taken, and the coinbase of the empty block. -/
theorem fillInv_init (hzone : cryptonoteBlockGrantedFullRewardZone ≤ medianSize) (hM : medianSize.toNat < 2 ^ 32) :
    FillInv em ready pool medianSize alreadyGeneratedCoins height []
      ⟨[], 0, 0, (getBlockReward em medianSize 0 alreadyGeneratedCoins height).getD 0, []⟩ [] := by
  have hzone' := UInt64.le_iff_toNat_le.mp hzone
  have hM' := toNat_softMedian_lt hzone hM
  refine
    { sublist := List.nil_sublist _
      txHashes := rfl
      ready := by simp
      kImages := rfl
      kImages_nodup := List.nodup_nil
      totalSize := rfl
      fits := ?_
      fee := rfl
      empty := fun _ => ?_
      coinbase := fun h => absurd rfl h }
  · show 0 + 600 ≤ 2 * medianSize.toNat
    exact Nat.le_trans (by decide) (Nat.mul_le_mul_left 2 hzone')
  · -- the empty block is never above twice the median
    cases hr : getBlockReward em medianSize 0 alreadyGeneratedCoins height with
    | none =>
      rw [getBlockReward_eq_none_iff hM'] at hr
      exact absurd hr (Nat.not_lt_zero _)
    | some r => rfl

end Fill

/-! ## The template -/

/-- What a template holds: the rows `rows` taken, in the order of the sorted
set; their hashes, distinct; each ready; their key images pairwise disjoint;
the size and the fees, the sums of theirs, with room for the coinbase within
twice the median; and the coinbase, the reward of the block plus the fees, or
the reward of the empty block when nothing is taken. -/
structure TemplateSpec (em : Emission) (ready : Hash → TxPoolMeta → Transaction → Bool) (pool : TxPool)
    (medianSize alreadyGeneratedCoins height : UInt64) (t : BlockTemplate)
    (rows : List (Hash × TxPoolMeta × Transaction)) : Prop where
  sublist : rows.Sublist (rowsOf pool pool.sorted)
  txHashes : t.txHashes = rows.map Prod.fst
  txHashes_nodup : t.txHashes.Nodup
  ready : ∀ r ∈ rows, ready r.1 r.2.1 r.2.2 = true
  keyImages_disjoint : (rows.map fun r => r.2.2.keyImages).Pairwise List.Disjoint
  totalSize : t.totalSize.toNat = (rows.map fun r => r.2.1.blobSize.toNat).sum
  totalSize_le : t.totalSize.toNat ≤ 2 * medianSize.toNat - cryptonoteCoinbaseBlobReservedSize.toNat
  fee : t.fee.toNat = (rows.map fun r => r.2.1.fee.toNat).sum
  empty : rows = [] → getBlockReward em medianSize 0 alreadyGeneratedCoins height = some t.expectedReward
  expectedReward : rows ≠ [] → ∃ reward, getBlockReward em medianSize
    (t.totalSize + cryptonoteCoinbaseBlobReservedSize) alreadyGeneratedCoins height = some reward ∧
    t.expectedReward.toNat = reward.toNat + t.fee.toNat

/-- A transaction with one ring of eleven outputs. -/
def takenTx : Transaction :=
  { (default : Transaction) with version := 2, vin := [.toKey ⟨0, List.replicate 11 1, default⟩] }

/-- A pool holding `takenTx` alone, of 100 bytes and a fee of 5, under the hash
`defaultPrimitives` gives it. -/
def oneTxPool : TxPool :=
  ⟨[(default, ⟨100, 5, false⟩, takenTx)], [⟨5, 100, 0, default⟩], [(default, [default])], [], 648000000, 100⟩

/-- Hashes, ids and commitments all `default`. -/
def defaultPrimitives : Primitives := ⟨fun _ => default, fun _ => default, fun _ => default⟩

theorem oneTxPool_consistent : Consistent defaultPrimitives (fun _ => 100) (fun _ => true) oneTxPool where
  row_hash := by simp [oneTxPool, defaultPrimitives]
  row_admissible := by
    simp only [oneTxPool, List.mem_singleton, forall_eq]
    exact ⟨by decide, by decide, by decide, rfl⟩
  ids_nodup := by decide
  sets_nodup k := by
    unfold keyImageSet
    by_cases hk : k = default
    · simp [oneTxPool, hk]
    · simp [oneTxPool, Ne.symm hk]
  recorded := by
    intro e he m tx hmem
    simp only [oneTxPool, List.mem_singleton, Prod.mk.injEq] at he hmem
    obtain ⟨-, -, rfl⟩ := hmem
    subst he
    decide

/-- The key image both transactions of `sharedKeyImagePool` spend. -/
def sharedKeyImage : KeyImage := Pod.ofByte 31 1

/-- A transaction whose first two inputs spend one key image and whose third
spends `sharedKeyImage`. -/
def repeatingTx : Transaction :=
  { (default : Transaction) with
    version := 2
    vin := [.toKey ⟨0, List.replicate 11 1, default⟩, .toKey ⟨0, List.replicate 11 2, default⟩,
      .toKey ⟨0, List.replicate 11 3, sharedKeyImage⟩] }

/-- A transaction spending `sharedKeyImage`. -/
def sharingTx : Transaction :=
  { (default : Transaction) with version := 2, vin := [.toKey ⟨0, List.replicate 11 4, sharedKeyImage⟩] }

/-- A pool whose sorted set holds `repeatingTx` and then `sharingTx`. It is
not consistent: `insert_key_images` fails at the repeated key image, so neither
`add_tx` nor the start-up scan puts `repeatingTx` in the sorted set. -/
def sharedKeyImagePool : TxPool :=
  ⟨[(Pod.ofByte 31 1, ⟨100, 0, false⟩, repeatingTx), (Pod.ofByte 31 2, ⟨100, 0, false⟩, sharingTx)],
    [⟨0, 100, 0, Pod.ofByte 31 1⟩, ⟨0, 100, 1, Pod.ofByte 31 2⟩],
    [(default, [Pod.ofByte 31 1]), (sharedKeyImage, [Pod.ofByte 31 2])], [], 648000000, 200⟩

end TxPool

end Ombre
