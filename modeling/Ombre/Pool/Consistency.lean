import Ombre.Pool.TxPool
import Ombre.Lib.Table

/-!
# Consistency of the pool

The pool keeps a transaction in three places: a row of its tables, an entry of
the sorted set, and its hash under each of its key images in
`m_spent_key_images`. `Consistent` states how the three agree: each row is
stored under the hash of its transaction and passed the checks of `add_tx`, no
two rows share a hash, no key image records a hash twice, and every transaction
of the sorted set is recorded under each of its key images, which are distinct.

`take_tx` of a transaction of the sorted set removes it from all three places
(`takeTx_spec`); re-adding it as kept by a block puts it back in all three
(`addTxOf_kept_spec`); `prune` evicts only transactions not kept by a block.
All three keep the pool consistent.
-/

namespace Ombre

namespace TxPool

/-! ## The key-image map -/

section KeyImages

variable {ski : List (KeyImage × List Hash)}

@[simp] theorem keyImageSet_setKeyImageSet_self (ski : List (KeyImage × List Hash)) (k : KeyImage)
    (ids : List Hash) : keyImageSet (setKeyImageSet ski k ids) k = ids := by
  unfold keyImageSet setKeyImageSet
  rw [List.find?_append, List.find?_filter_key_self, Option.none_or]
  cases ids with
  | nil => rfl
  | cons i is => simp

@[simp] theorem keyImageSet_setKeyImageSet_of_ne (ski : List (KeyImage × List Hash)) {k k' : KeyImage}
    (ids : List Hash) (h : k' ≠ k) : keyImageSet (setKeyImageSet ski k ids) k' = keyImageSet ski k' := by
  unfold keyImageSet setKeyImageSet
  rw [List.find?_append, List.find?_filter_key_of_ne _ h]
  cases ids with
  | nil => simp
  | cons i is => simp [Ne.symm h]

/-- A key image that records some hash has an entry, holding its set. -/
theorem find?_of_mem_keyImageSet {k : KeyImage} {id : Hash} (h : id ∈ keyImageSet ski k) :
    ski.find? (fun e => e.1 = k) = some (k, keyImageSet ski k) := by
  unfold keyImageSet at h ⊢
  cases hf : ski.find? (fun e => e.1 = k) with
  | none => simp [hf] at h
  | some e =>
    have hk : e.1 = k := by simpa using List.find?_some hf
    simp [← hk]

/-- The key images of inputs that are all `txin_to_key`. -/
theorem keyImages_cons_toKey (txin : TxinToKey) (rest : List TxinV) :
    (TxinV.toKey txin :: rest).filterMap TxinV.keyImage? = txin.kImage :: rest.filterMap TxinV.keyImage? :=
  rfl

/-- **Recording a fresh hash.** For inputs that are all `txin_to_key`, with
distinct key images none of which records `id`, `insert_key_images` of a
transaction kept by a block succeeds and appends `id` to the set of each. -/
theorem insertKeyImages_kept {id : Hash} :
    ∀ (vin : List TxinV) (ski : List (KeyImage × List Hash)), vin.all TxinV.isToKey →
      (vin.filterMap TxinV.keyImage?).Nodup →
      (∀ k ∈ vin.filterMap TxinV.keyImage?, id ∉ keyImageSet ski k) →
      ∃ ski', insertKeyImages id true vin ski = (true, ski') ∧
        ∀ k, keyImageSet ski' k =
          if k ∈ vin.filterMap TxinV.keyImage? then keyImageSet ski k ++ [id] else keyImageSet ski k
  | [], ski, _, _, _ => ⟨ski, rfl, by simp⟩
  | .toKey txin :: rest, ski, hall, hnd, hfresh => by
    rw [keyImages_cons_toKey] at hnd hfresh
    obtain ⟨hnotin, hnd'⟩ := List.nodup_cons.mp hnd
    have hall' : rest.all TxinV.isToKey := by simpa [TxinV.isToKey] using hall
    have hid : id ∉ keyImageSet ski txin.kImage := hfresh _ List.mem_cons_self
    -- the rest of the inputs sees the map with `id` recorded under the first key image
    have hfresh₁ : ∀ k ∈ rest.filterMap TxinV.keyImage?,
        id ∉ keyImageSet (setKeyImageSet ski txin.kImage (keyImageSet ski txin.kImage ++ [id])) k := by
      intro k hk
      have hne : k ≠ txin.kImage := fun h => hnotin (h ▸ hk)
      rw [keyImageSet_setKeyImageSet_of_ne _ _ hne]
      exact hfresh k (List.mem_cons_of_mem _ hk)
    obtain ⟨ski', hins, hset⟩ := insertKeyImages_kept rest _ hall' hnd' hfresh₁
    refine ⟨ski', ?_, ?_⟩
    · simpa [insertKeyImages, hid] using hins
    · intro k
      rw [hset k, keyImages_cons_toKey]
      by_cases hk : k = txin.kImage
      · subst hk
        simp only [List.mem_cons_self, if_true, hnotin, if_false, keyImageSet_setKeyImageSet_self]
      · simp only [List.mem_cons, hk, false_or, keyImageSet_setKeyImageSet_of_ne _ _ hk]
  | .gen _ :: _, _, hall, _, _ => by simp [TxinV.isToKey] at hall
  | .toScript _ :: _, _, hall, _, _ => by simp [TxinV.isToKey] at hall
  | .toScripthash _ :: _, _, hall, _, _ => by simp [TxinV.isToKey] at hall

/-- **Removing a recorded hash.** For inputs that are all `txin_to_key`, with
distinct key images each recording `id`, `remove_transaction_keyimages`
succeeds and erases `id` from the set of each. -/
theorem removeKeyImages_recorded {id : Hash} :
    ∀ (vin : List TxinV) (ski : List (KeyImage × List Hash)), vin.all TxinV.isToKey →
      (vin.filterMap TxinV.keyImage?).Nodup →
      (∀ k ∈ vin.filterMap TxinV.keyImage?, id ∈ keyImageSet ski k) →
      ∃ ski', removeKeyImages id vin ski = (true, ski') ∧
        ∀ k, keyImageSet ski' k =
          if k ∈ vin.filterMap TxinV.keyImage? then (keyImageSet ski k).erase id else keyImageSet ski k
  | [], ski, _, _, _ => ⟨ski, rfl, by simp⟩
  | .toKey txin :: rest, ski, hall, hnd, hmem => by
    rw [keyImages_cons_toKey] at hnd hmem
    obtain ⟨hnotin, hnd'⟩ := List.nodup_cons.mp hnd
    have hall' : rest.all TxinV.isToKey := by simpa [TxinV.isToKey] using hall
    have hid : id ∈ keyImageSet ski txin.kImage := hmem _ List.mem_cons_self
    have hmem₁ : ∀ k ∈ rest.filterMap TxinV.keyImage?,
        id ∈ keyImageSet (setKeyImageSet ski txin.kImage ((keyImageSet ski txin.kImage).erase id)) k := by
      intro k hk
      have hne : k ≠ txin.kImage := fun h => hnotin (h ▸ hk)
      rw [keyImageSet_setKeyImageSet_of_ne _ _ hne]
      exact hmem k (List.mem_cons_of_mem _ hk)
    obtain ⟨ski', hrem, hset⟩ := removeKeyImages_recorded rest _ hall' hnd' hmem₁
    have hne : (keyImageSet ski txin.kImage).isEmpty = false :=
      List.isEmpty_eq_false_iff_exists_mem.mpr ⟨id, hid⟩
    refine ⟨ski', ?_, ?_⟩
    · simpa [removeKeyImages, find?_of_mem_keyImageSet hid, hne, hid] using hrem
    · intro k
      rw [hset k, keyImages_cons_toKey]
      by_cases hk : k = txin.kImage
      · subst hk
        simp only [List.mem_cons_self, if_true, hnotin, if_false, keyImageSet_setKeyImageSet_self]
      · simp only [List.mem_cons, hk, false_or, keyImageSet_setKeyImageSet_of_ne _ _ hk]
  | .gen _ :: _, _, hall, _, _ => by simp [TxinV.isToKey] at hall
  | .toScript _ :: _, _, hall, _, _ => by simp [TxinV.isToKey] at hall
  | .toScripthash _ :: _, _, hall, _, _ => by simp [TxinV.isToKey] at hall

/-- Whatever inputs it is given, `remove_transaction_keyimages` only erases
`id` from the sets it touches. -/
theorem removeKeyImages_erasesOnly {id : Hash} :
    ∀ (vin : List TxinV) (ski : List (KeyImage × List Hash)) (k : KeyImage),
      (keyImageSet ski k).ErasesOnly id (keyImageSet (removeKeyImages id vin ski).2 k)
  | [], ski, k => List.ErasesOnly.refl _ _
  | .toKey txin :: rest, ski, k => by
    rcases hf : ski.find? (fun e => e.1 = txin.kImage) with _ | ⟨k₀, set⟩
    · simpa [removeKeyImages, hf] using List.ErasesOnly.refl id (keyImageSet ski k)
    have hset : set = keyImageSet ski txin.kImage := by simp [keyImageSet, hf]
    by_cases hstop : set.isEmpty || id ∉ set
    · have hr : removeKeyImages id (.toKey txin :: rest) ski = (false, ski) := by
        rcases Bool.or_eq_true _ _ ▸ hstop with h | h <;> simp_all [removeKeyImages]
      rw [hr]
      exact List.ErasesOnly.refl _ _
    have hr : removeKeyImages id (.toKey txin :: rest) ski =
        removeKeyImages id rest (setKeyImageSet ski txin.kImage (set.erase id)) := by
      simp only [Bool.or_eq_true, not_or, Bool.not_eq_true, decide_eq_false_iff_not,
        Decidable.not_not] at hstop
      simp [removeKeyImages, hf, hstop.1, hstop.2]
    rw [hr]
    -- the first key image loses `id`, and the other inputs only erase `id` again
    refine List.ErasesOnly.trans ?_ (removeKeyImages_erasesOnly rest _ k)
    by_cases hk : k = txin.kImage
    · subst hk
      rw [keyImageSet_setKeyImageSet_self, hset]
      exact List.ErasesOnly.erase _ _
    · rw [keyImageSet_setKeyImageSet_of_ne _ _ hk]
      exact List.ErasesOnly.refl _ _
  | .gen _ :: _, _, _ => List.ErasesOnly.refl _ _
  | .toScript _ :: _, _, _ => List.ErasesOnly.refl _ _
  | .toScripthash _ :: _, _, _ => List.ErasesOnly.refl _ _

end KeyImages

/-! ## The sorted set -/

theorem mem_emplaceSorted (e : SortedEntry) :
    ∀ {l : List SortedEntry} {x : SortedEntry}, x ∈ emplaceSorted e l → x = e ∨ x ∈ l
  | [], x, h => .inl (List.mem_singleton.mp h)
  | y :: ys, x, h => by
    unfold emplaceSorted at h
    split at h
    · exact List.mem_cons.mp h
    split at h
    · rcases List.mem_cons.mp h with rfl | h
      · exact .inr List.mem_cons_self
      · rcases mem_emplaceSorted e h with rfl | h
        · exact .inl rfl
        · exact .inr (List.mem_cons_of_mem _ h)
    · exact .inr h

theorem mem_emplaceSorted_of_mem (e : SortedEntry) :
    ∀ {l : List SortedEntry} {x : SortedEntry}, x ∈ l → x ∈ emplaceSorted e l
  | y :: ys, x, h => by
    unfold emplaceSorted
    split
    · exact List.mem_cons_of_mem _ h
    split
    · rcases List.mem_cons.mp h with rfl | h
      · exact List.mem_cons_self
      · exact List.mem_cons_of_mem _ (mem_emplaceSorted_of_mem e h)
    · exact h

/-- Two entries neither of which compares below the other have the same hash. -/
theorem id_eq_of_not_txCompare {a b : SortedEntry} (h₁ : txCompare a b = false)
    (h₂ : txCompare b a = false) : a.id = b.id := by
  unfold txCompare at h₁ h₂
  by_contra hne
  -- each comparison falls through to the same test, decided the same way both times
  split at h₁ <;> split at h₂ <;> simp_all

/-- After `emplace`, the set has an entry of the new hash: the new entry, or
an equivalent one that blocked it. -/
theorem exists_id_mem_emplaceSorted (e : SortedEntry) :
    ∀ l : List SortedEntry, ∃ x ∈ emplaceSorted e l, x.id = e.id
  | [] => ⟨e, List.mem_singleton_self e, rfl⟩
  | y :: ys => by
    unfold emplaceSorted
    split
    · exact ⟨e, List.mem_cons_self, rfl⟩
    split
    · obtain ⟨x, hx, hid⟩ := exists_id_mem_emplaceSorted e ys
      exact ⟨x, List.mem_cons_of_mem _ hx, hid⟩
    · rename_i h₁ h₂
      exact ⟨y, List.mem_cons_self, id_eq_of_not_txCompare (by simpa using h₂) (by simpa using h₁)⟩

/-! ## Rows -/

section Rows

variable {pool : TxPool}

theorem mem_of_getTxpoolTx {id : Hash} {m : TxPoolMeta} {tx : Transaction}
    (h : pool.getTxpoolTx id = some (m, tx)) : (id, m, tx) ∈ pool.txs := by
  unfold getTxpoolTx at h
  obtain ⟨r, hr, hrm⟩ := Option.map_eq_some_iff.mp h
  have hk : r.1 = id := by simpa using List.find?_some hr
  have hr' : r = (id, m, tx) := by
    obtain ⟨r₁, r₂⟩ := r
    simp only at hk hrm
    rw [hk, hrm]
  exact hr' ▸ List.mem_of_find?_eq_some hr

theorem getTxpoolTx_of_mem (hnd : (pool.txs.map Prod.fst).Nodup) {id : Hash} {m : TxPoolMeta}
    {tx : Transaction} (h : (id, m, tx) ∈ pool.txs) : pool.getTxpoolTx id = some (m, tx) := by
  unfold getTxpoolTx
  cases hf : pool.txs.find? (fun r => r.1 = id) with
  | none => exact absurd (List.find?_eq_none.mp hf _ h) (by simp)
  | some r =>
    have hk : r.1 = id := by simpa using List.find?_some hf
    have heq := List.inj_on_of_nodup_map hnd (List.mem_of_find?_eq_some hf) h hk
    simp [heq]

theorem haveTx_eq_false {id : Hash} (h : ∀ r ∈ pool.txs, r.1 ≠ id) : pool.haveTx id = false := by
  simpa [haveTx] using h

theorem removeTxpoolTx_of_absent {id : Hash} (h : ∀ r ∈ pool.txs, r.1 ≠ id) :
    pool.removeTxpoolTx id = pool := by
  unfold removeTxpoolTx
  rw [List.filter_eq_self.mpr (fun r hr => by simpa using h r hr)]

end Rows

/-! ## Consistency -/

/-- What `add_tx` checks of every transaction it stores, kept by a block or
not: a version, inputs that are all `txin_to_key`, a blob, and outputs that
pass `check_tx_outputs`. -/
structure Admissible (blobSizeOf : Transaction → UInt64) (checkOutputs : Transaction → Bool)
    (tx : Transaction) : Prop where
  version_ne : tx.version ≠ 0
  inputs : checkInputsTypesSupported tx = true
  blobSize_ne : blobSizeOf tx ≠ 0
  outputs : checkOutputs tx = true

/-- The three stores of the pool agree. -/
structure Consistent (p : Primitives) (blobSizeOf : Transaction → UInt64)
    (checkOutputs : Transaction → Bool) (pool : TxPool) : Prop where
  row_hash : ∀ r ∈ pool.txs, r.1 = p.getTransactionHash r.2.2
  row_admissible : ∀ r ∈ pool.txs, Admissible blobSizeOf checkOutputs r.2.2
  ids_nodup : (pool.txs.map Prod.fst).Nodup
  sets_nodup : ∀ k, (keyImageSet pool.spentKeyImages k).Nodup
  recorded : ∀ e ∈ pool.sorted, ∀ m tx, (e.id, m, tx) ∈ pool.txs →
    tx.keyImages.Nodup ∧ ∀ k ∈ tx.keyImages, e.id ∈ keyImageSet pool.spentKeyImages k

/-- `tx` is in the pool as `take_tx` finds it: an entry of the sorted set and
a row holding `tx` under the entry's hash. -/
def Contains (pool : TxPool) (tx : Transaction) : Prop :=
  ∃ e ∈ pool.sorted, ∃ m, (e.id, m, tx) ∈ pool.txs

/-- `tx` is in the pool with a row kept by a block, which `prune` never evicts. -/
def ContainsKept (pool : TxPool) (tx : Transaction) : Prop :=
  ∃ e ∈ pool.sorted, ∃ m : TxPoolMeta, m.keptByBlock = true ∧ (e.id, m, tx) ∈ pool.txs

theorem ContainsKept.contains {pool : TxPool} {tx : Transaction} (h : ContainsKept pool tx) :
    Contains pool tx := by
  obtain ⟨e, he, m, -, hm⟩ := h
  exact ⟨e, he, m, hm⟩

theorem consistent_empty (p : Primitives) (blobSizeOf : Transaction → UInt64)
    (checkOutputs : Transaction → Bool) (timedOut : List Hash) (maxSize size : UInt64) :
    Consistent p blobSizeOf checkOutputs ⟨[], [], [], timedOut, maxSize, size⟩ where
  row_hash := by simp
  row_admissible := by simp
  ids_nodup := List.nodup_nil
  sets_nodup k := by simp [keyImageSet]
  recorded := by simp

/-- `pool'` has lost rows, entries and recorded hashes, and gained none. -/
structure Shrinks (pool pool' : TxPool) : Prop where
  txs : ∀ r ∈ pool'.txs, r ∈ pool.txs
  sorted : ∀ e ∈ pool'.sorted, e ∈ pool.sorted
  sets : ∀ k x, x ∈ keyImageSet pool'.spentKeyImages k → x ∈ keyImageSet pool.spentKeyImages k

theorem Shrinks.refl (pool : TxPool) : Shrinks pool pool :=
  ⟨fun _ h => h, fun _ h => h, fun _ _ h => h⟩

theorem Shrinks.trans {pool pool' pool'' : TxPool} (h₁ : Shrinks pool pool') (h₂ : Shrinks pool' pool'') :
    Shrinks pool pool'' :=
  ⟨fun r h => h₁.txs r (h₂.txs r h), fun e h => h₁.sorted e (h₂.sorted e h),
    fun k x h => h₁.sets k x (h₂.sets k x h)⟩

theorem Contains.of_shrinks {pool pool' : TxPool} {tx : Transaction} (h : Contains pool' tx)
    (hs : Shrinks pool pool') : Contains pool tx := by
  obtain ⟨e, he, m, hm⟩ := h
  exact ⟨e, hs.sorted e he, m, hs.txs _ hm⟩

/-- `pool'` keeps every row kept by a block, and every entry of such a row. -/
structure KeepsKept (pool pool' : TxPool) : Prop where
  txs : ∀ r ∈ pool.txs, r.2.1.keptByBlock = true → r ∈ pool'.txs
  sorted : ∀ e ∈ pool.sorted, ∀ (m : TxPoolMeta) tx, m.keptByBlock = true → (e.id, m, tx) ∈ pool.txs →
    e ∈ pool'.sorted

theorem KeepsKept.refl (pool : TxPool) : KeepsKept pool pool :=
  ⟨fun _ h _ => h, fun _ h _ _ _ _ => h⟩

theorem KeepsKept.trans {pool pool' pool'' : TxPool} (h₁ : KeepsKept pool pool')
    (h₂ : KeepsKept pool' pool'') : KeepsKept pool pool'' :=
  ⟨fun r hr hk => h₂.txs r (h₁.txs r hr hk) hk,
    fun e he m tx hk hm => h₂.sorted e (h₁.sorted e he m tx hk hm) m tx hk (h₁.txs _ hm hk)⟩

theorem ContainsKept.of_keepsKept {pool pool' : TxPool} {tx : Transaction} (h : ContainsKept pool tx)
    (hk : KeepsKept pool pool') : ContainsKept pool' tx := by
  obtain ⟨e, he, m, hm, hr⟩ := h
  exact ⟨e, hk.sorted e he m tx hm hr, m, hm, hk.txs _ hr hm⟩

/-- A transaction `add_tx` can put back as kept by a block: it passed the
checks of `add_tx`, its key images are distinct, and neither a row nor a key
image of the pool holds its hash. -/
structure Returnable (p : Primitives) (blobSizeOf : Transaction → UInt64)
    (checkOutputs : Transaction → Bool) (pool : TxPool) (tx : Transaction) : Prop where
  admissible : Admissible blobSizeOf checkOutputs tx
  keyImages_nodup : tx.keyImages.Nodup
  no_row : ∀ r ∈ pool.txs, r.1 ≠ p.getTransactionHash tx
  not_recorded : ∀ k ∈ tx.keyImages, p.getTransactionHash tx ∉ keyImageSet pool.spentKeyImages k

theorem Returnable.of_shrinks {p : Primitives} {blobSizeOf : Transaction → UInt64}
    {checkOutputs : Transaction → Bool} {pool pool' : TxPool} {tx : Transaction}
    (h : Returnable p blobSizeOf checkOutputs pool tx) (hs : Shrinks pool pool') :
    Returnable p blobSizeOf checkOutputs pool' tx :=
  ⟨h.admissible, h.keyImages_nodup, fun r hr => h.no_row r (hs.txs r hr),
    fun k hk hx => h.not_recorded k hk (hs.sets k _ hx)⟩

/-! ## Evicting a transaction -/

section Evict

variable {p : Primitives} {blobSizeOf : Transaction → UInt64} {checkOutputs : Transaction → Bool}
  {pool : TxPool} {e : SortedEntry} {m : TxPoolMeta} {tx : Transaction}

/-- What `take_tx` and `prune` do to a transaction they remove: its row, its
entry and its hash under its key images go, and the pool stays consistent. -/
theorem Consistent.evict (hc : Consistent p blobSizeOf checkOutputs pool)
    (hg : pool.getTxpoolTx e.id = some (m, tx)) (size : UInt64) :
    Consistent p blobSizeOf checkOutputs
        { pool with
          txs := pool.txs.filter (fun r => r.1 ≠ e.id), size := size,
          spentKeyImages := (removeKeyImages (p.getTransactionHash tx) tx.vin pool.spentKeyImages).2,
          sorted := pool.sorted.erase e } ∧
      Shrinks pool
        { pool with
          txs := pool.txs.filter (fun r => r.1 ≠ e.id), size := size,
          spentKeyImages := (removeKeyImages (p.getTransactionHash tx) tx.vin pool.spentKeyImages).2,
          sorted := pool.sorted.erase e } := by
  have hhash : e.id = p.getTransactionHash tx := hc.row_hash _ (mem_of_getTxpoolTx hg)
  have hers := @removeKeyImages_erasesOnly (p.getTransactionHash tx) tx.vin pool.spentKeyImages
  have hfilter : ∀ r ∈ pool.txs.filter (fun r => r.1 ≠ e.id), r ∈ pool.txs ∧ r.1 ≠ e.id := by
    intro r hr
    simpa using List.mem_filter.mp hr
  refine ⟨⟨?_, ?_, ?_, ?_, ?_⟩, ⟨?_, ?_, ?_⟩⟩
  · exact fun r hr => hc.row_hash r (hfilter r hr).1
  · exact fun r hr => hc.row_admissible r (hfilter r hr).1
  · exact hc.ids_nodup.sublist ((List.filter_sublist).map _)
  · exact fun k => (hers k).nodup (hc.sets_nodup k)
  · -- the others keep their hashes: only the evicted hash is erased
    intro e' he' m' tx' hr'
    obtain ⟨hr, hne⟩ := hfilter _ hr'
    obtain ⟨hnd, hrec⟩ := hc.recorded e' (List.mem_of_mem_erase he') m' tx' hr
    exact ⟨hnd, fun k hk => (hers k).2 _ (hrec k hk) (hhash ▸ hne)⟩
  · exact fun r hr => (hfilter r hr).1
  · exact fun e' he' => List.mem_of_mem_erase he'
  · exact fun k x hx => (hers k).1.subset hx

/-- Evicting a transaction not kept by a block keeps the rows kept by a block
and their entries. -/
theorem Consistent.evict_keepsKept (hc : Consistent p blobSizeOf checkOutputs pool)
    (hg : pool.getTxpoolTx e.id = some (m, tx)) (hm : m.keptByBlock = false) (size : UInt64)
    (ski : List (KeyImage × List Hash)) :
    KeepsKept pool
      { pool with
        txs := pool.txs.filter (fun r => r.1 ≠ e.id), size := size, spentKeyImages := ski,
        sorted := pool.sorted.erase e } := by
  have hrow := mem_of_getTxpoolTx hg
  -- a kept row has another hash than the evicted one, whose only row is not kept
  have hne : ∀ r ∈ pool.txs, r.2.1.keptByBlock = true → r.1 ≠ e.id := by
    intro r hr hk heq
    have := List.inj_on_of_nodup_map hc.ids_nodup hr hrow heq
    rw [this] at hk
    simp [hm] at hk
  refine ⟨fun r hr hk => List.mem_filter.mpr ⟨hr, by simpa using hne r hr hk⟩, ?_⟩
  intro e' he' m' tx' hk hr'
  refine (List.mem_erase_of_ne ?_).mpr he'
  rintro rfl
  exact hne _ hr' hk rfl

end Evict

/-! ## `take_tx` -/

section Take

variable {p : Primitives} {blobSizeOf : Transaction → UInt64} {checkOutputs : Transaction → Bool}
  {pool : TxPool}

/-- `take_tx` either changes nothing, or finds an entry and the row of `id`
and evicts them. -/
theorem takeTx_cases (p : Primitives) (pool : TxPool) (id : Hash) :
    pool.takeTx p id = (none, pool) ∨
      ∃ e ∈ pool.sorted, e.id = id ∧ ∃ m tx, pool.getTxpoolTx id = some (m, tx) ∧
        pool.takeTx p id = (some (tx, m),
          { pool with
            txs := pool.txs.filter (fun r => r.1 ≠ e.id), size := pool.size - m.blobSize,
            spentKeyImages := (removeKeyImages (p.getTransactionHash tx) tx.vin pool.spentKeyImages).2,
            sorted := pool.sorted.erase e }) := by
  unfold takeTx
  cases hs : pool.sorted.find? (fun e => e.id = id) with
  | none => exact .inl rfl
  | some e =>
    have hid : e.id = id := by simpa using List.find?_some hs
    cases hg : pool.getTxpoolTx id with
    | none => exact .inl rfl
    | some mt =>
      obtain ⟨m, tx⟩ := mt
      subst hid
      exact .inr ⟨e, List.mem_of_find?_eq_some hs, rfl, m, tx, rfl, rfl⟩

theorem Consistent.takeTx (hc : Consistent p blobSizeOf checkOutputs pool) (id : Hash) :
    Consistent p blobSizeOf checkOutputs (pool.takeTx p id).2 ∧ Shrinks pool (pool.takeTx p id).2 := by
  rcases takeTx_cases p pool id with h | ⟨e, -, rfl, m, tx, hg, h⟩ <;> rw [h]
  · exact ⟨hc, Shrinks.refl pool⟩
  · exact hc.evict hg _

/-- **`take_tx` of a transaction of the pool.** What it returns was in the
pool under its own hash; afterwards its rows are gone and it can be put back. -/
theorem Consistent.takeTx_some (hc : Consistent p blobSizeOf checkOutputs pool) {id : Hash}
    {tx : Transaction} {m : TxPoolMeta} {pool' : TxPool} (h : pool.takeTx p id = (some (tx, m), pool')) :
    Contains pool tx ∧ p.getTransactionHash tx = id ∧ pool'.txs = pool.txs.filter (fun r => r.1 ≠ id) ∧
      Returnable p blobSizeOf checkOutputs pool' tx := by
  rcases takeTx_cases p pool id with h' | ⟨e, he, rfl, m', tx', hg, h'⟩
  · rw [h'] at h
    simp at h
  rw [h'] at h
  simp only [Prod.mk.injEq, Option.some.injEq] at h
  obtain ⟨⟨rfl, rfl⟩, rfl⟩ := h
  have hrow := mem_of_getTxpoolTx hg
  have hhash : e.id = p.getTransactionHash tx' := hc.row_hash _ hrow
  have hadm := hc.row_admissible _ hrow
  obtain ⟨hnd, hrec⟩ := hc.recorded e he m' tx' hrow
  rw [hhash] at hrec
  obtain ⟨ski', hrem, hset⟩ := removeKeyImages_recorded tx'.vin pool.spentKeyImages hadm.inputs hnd hrec
  refine ⟨⟨e, he, m', hrow⟩, hhash.symm, rfl, hadm, hnd, ?_, fun k hk => ?_⟩
  · intro r hr
    have := (List.mem_filter.mp hr).2
    simpa [hhash] using this
  · have hk' : k ∈ tx'.vin.filterMap TxinV.keyImage? := hk
    simp only [hrem]
    rw [hset k, if_pos hk']
    exact (hc.sets_nodup k).not_mem_erase

end Take

/-! ## `prune` -/

section Prune

variable {p : Primitives} {blobSizeOf : Transaction → UInt64} {checkOutputs : Transaction → Bool}

/-- The loop of `prune` keeps the pool consistent, only removes, and never
removes a transaction kept by a block. -/
theorem pruneLoop_spec (bytes : UInt64) :
    ∀ (es : List SortedEntry) (pool : TxPool), Consistent p blobSizeOf checkOutputs pool →
      Consistent p blobSizeOf checkOutputs (pruneLoop p blobSizeOf bytes es pool) ∧
        Shrinks pool (pruneLoop p blobSizeOf bytes es pool) ∧
        KeepsKept pool (pruneLoop p blobSizeOf bytes es pool)
  | [], pool, hc => ⟨hc, Shrinks.refl _, KeepsKept.refl _⟩
  | e :: es, pool, hc => by
    unfold pruneLoop
    by_cases hsize : pool.size ≤ bytes
    · rw [if_pos hsize]
      exact ⟨hc, Shrinks.refl _, KeepsKept.refl _⟩
    rw [if_neg hsize]
    rcases hg : pool.getTxpoolTx e.id with _ | ⟨m, tx⟩
    · exact ⟨hc, Shrinks.refl _, KeepsKept.refl _⟩
    dsimp only
    by_cases hm : m.keptByBlock = true
    · rw [if_pos hm]
      exact pruneLoop_spec bytes es pool hc
    · rw [if_neg hm]
      -- the entry is evicted, then the loop goes on over the smaller pool
      obtain ⟨hc₁, hs₁⟩ := hc.evict hg (pool.size - blobSizeOf tx)
      have hk₁ := hc.evict_keepsKept hg (by simpa using hm) (pool.size - blobSizeOf tx)
        (removeKeyImages (p.getTransactionHash tx) tx.vin pool.spentKeyImages).2
      obtain ⟨hc₂, hs₂, hk₂⟩ := pruneLoop_spec bytes es _ hc₁
      exact ⟨hc₂, hs₁.trans hs₂, hk₁.trans hk₂⟩

theorem Consistent.prune {pool : TxPool} (hc : Consistent p blobSizeOf checkOutputs pool) (bytes : UInt64) :
    Consistent p blobSizeOf checkOutputs (pool.prune p blobSizeOf bytes) ∧
      Shrinks pool (pool.prune p blobSizeOf bytes) ∧ KeepsKept pool (pool.prune p blobSizeOf bytes) :=
  pruneLoop_spec _ _ pool hc

end Prune

/-! ## Adding a transaction back -/

/-- `pool'` is `pool` with `tx` added back as kept by a block: consistent,
holding `tx` in a row kept by a block, keeping what `pool` kept, and with no
other row or recorded hash than those of `pool` and of `tx`. -/
structure Readded (p : Primitives) (blobSizeOf : Transaction → UInt64)
    (checkOutputs : Transaction → Bool) (tx : Transaction) (pool pool' : TxPool) : Prop where
  consistent : Consistent p blobSizeOf checkOutputs pool'
  contains : ContainsKept pool' tx
  keepsKept : KeepsKept pool pool'
  txs : ∀ r ∈ pool'.txs, r ∈ pool.txs ∨ r.1 = p.getTransactionHash tx
  sets : ∀ k x, x ∈ keyImageSet pool'.spentKeyImages k →
    x ∈ keyImageSet pool.spentKeyImages k ∨ x = p.getTransactionHash tx

theorem Returnable.of_readded {p : Primitives} {blobSizeOf : Transaction → UInt64}
    {checkOutputs : Transaction → Bool} {pool pool' : TxPool} {t tx : Transaction}
    (h : Returnable p blobSizeOf checkOutputs pool tx) (hr : Readded p blobSizeOf checkOutputs t pool pool')
    (hne : p.getTransactionHash t ≠ p.getTransactionHash tx) :
    Returnable p blobSizeOf checkOutputs pool' tx := by
  refine ⟨h.admissible, h.keyImages_nodup, fun r hr' => ?_, fun k hk hx => ?_⟩
  · rcases hr.txs r hr' with hr' | heq
    · exact h.no_row r hr'
    · exact heq ▸ hne
  · rcases hr.sets k _ hx with hx | heq
    · exact h.not_recorded k hk hx
    · exact hne heq.symm

section Readd

variable {p : Primitives} {blobSizeOf : Transaction → UInt64} {checkOutputs : Transaction → Bool}
  {pool : TxPool} {tx : Transaction}

/-- **Storing a fresh transaction as kept by a block.** A transaction that
passed the checks of `add_tx`, with distinct key images, whose hash has no row
and is recorded under none of its key images, is stored in all three places. -/
theorem storeTx_kept (hc : Consistent p blobSizeOf checkOutputs pool)
    (hadm : Admissible blobSizeOf checkOutputs tx) (hnd : tx.keyImages.Nodup)
    (hrow : ∀ r ∈ pool.txs, r.1 ≠ p.getTransactionHash tx)
    (hfresh : ∀ k ∈ tx.keyImages, p.getTransactionHash tx ∉ keyImageSet pool.spentKeyImages k)
    {txMeta : TxPoolMeta} {entry : SortedEntry} (hkept : txMeta.keptByBlock = true)
    (hentry : entry.id = p.getTransactionHash tx) :
    Readded p blobSizeOf checkOutputs tx pool (storeTx p blobSizeOf tx txMeta entry pool).2 := by
  obtain ⟨ski', hins, hset⟩ :=
    @insertKeyImages_kept (p.getTransactionHash tx) tx.vin pool.spentKeyImages hadm.inputs hnd hfresh
  -- the pool with the new row, key images and entry, before `prune`
  let pool₁ : TxPool :=
    { pool with
      txs := pool.txs ++ [(p.getTransactionHash tx, txMeta, tx)], spentKeyImages := ski',
      sorted := emplaceSorted entry pool.sorted, size := pool.size + txMeta.blobSize }
  have hstore : storeTx p blobSizeOf tx txMeta entry pool = (true, pool₁.prune p blobSizeOf pool₁.maxSize) := by
    simp only [storeTx, addTxpoolTx, haveTx_eq_false hrow, Bool.false_eq_true, ↓reduceIte, hkept, hins]
    rfl
  have hrows₁ : ∀ r ∈ pool₁.txs, r ∈ pool.txs ∨ r = (p.getTransactionHash tx, txMeta, tx) := by
    intro r hr
    simpa [pool₁] using hr
  have hsets₁ : ∀ k, keyImageSet ski' k = keyImageSet pool.spentKeyImages k ∨
      (k ∈ tx.keyImages ∧ keyImageSet ski' k = keyImageSet pool.spentKeyImages k ++ [p.getTransactionHash tx]) := by
    intro k
    rw [hset k]
    by_cases hk : k ∈ tx.vin.filterMap TxinV.keyImage?
    · exact .inr ⟨hk, if_pos hk⟩
    · exact .inl (if_neg hk)
  have hsub₁ : ∀ k x, x ∈ keyImageSet pool.spentKeyImages k → x ∈ keyImageSet ski' k := by
    intro k x hx
    rcases hsets₁ k with h | ⟨-, h⟩ <;> rw [h]
    · exact hx
    · exact List.mem_append_left _ hx
  have hc₁ : Consistent p blobSizeOf checkOutputs pool₁ := by
    refine ⟨?_, ?_, ?_, ?_, ?_⟩
    · intro r hr
      rcases hrows₁ r hr with hr | rfl
      · exact hc.row_hash r hr
      · rfl
    · intro r hr
      rcases hrows₁ r hr with hr | rfl
      · exact hc.row_admissible r hr
      · exact hadm
    · have hnew : ∀ x ∈ [p.getTransactionHash tx], x ∉ pool.txs.map Prod.fst := by
        intro x hx hmem
        obtain ⟨r, hr, hrx⟩ := List.mem_map.mp hmem
        exact hrow r hr (hrx.trans (List.mem_singleton.mp hx))
      show ((pool.txs ++ [(p.getTransactionHash tx, txMeta, tx)]).map Prod.fst).Nodup
      rw [List.map_append, List.map_singleton]
      exact List.nodup_append_of_fresh hc.ids_nodup (List.nodup_singleton _) hnew
    · intro k
      rcases hsets₁ k with h | ⟨hk, h⟩ <;> rw [h]
      · exact hc.sets_nodup k
      · exact List.nodup_append_of_fresh (hc.sets_nodup k) (List.nodup_singleton _)
          (fun x hx => by rw [List.mem_singleton.mp hx]; exact hfresh k hk)
    · intro e he m tx' hr
      rcases hrows₁ _ hr with hr | heq
      · -- an old row: its entry is an old one, recorded before and still recorded
        have hne : e.id ≠ p.getTransactionHash tx := hrow _ hr
        have he' : e ∈ pool.sorted := by
          rcases mem_emplaceSorted entry he with rfl | he
          · exact absurd hentry hne
          · exact he
        obtain ⟨hnd', hrec⟩ := hc.recorded e he' m tx' hr
        exact ⟨hnd', fun k hk => hsub₁ k _ (hrec k hk)⟩
      · -- the new row: its hash was appended under each of its key images
        simp only [Prod.mk.injEq] at heq
        obtain ⟨hid, -, htx⟩ := heq
        rw [htx]
        refine ⟨hnd, fun k hk => ?_⟩
        have hk' : k ∈ tx.vin.filterMap TxinV.keyImage? := hk
        rw [hid, hset k, if_pos hk']
        exact List.mem_append_right _ (List.mem_singleton_self _)
  have hcont₁ : ContainsKept pool₁ tx := by
    obtain ⟨x, hx, hxid⟩ := exists_id_mem_emplaceSorted entry pool.sorted
    refine ⟨x, hx, txMeta, hkept, ?_⟩
    rw [hxid, hentry]
    exact List.mem_append_right _ (List.mem_singleton_self _)
  have hkk₁ : KeepsKept pool pool₁ :=
    ⟨fun r hr _ => List.mem_append_left _ hr,
      fun e he _ _ _ _ => mem_emplaceSorted_of_mem entry he⟩
  obtain ⟨hc₂, hs₂, hk₂⟩ := hc₁.prune pool₁.maxSize
  rw [hstore]
  refine ⟨hc₂, hcont₁.of_keepsKept hk₂, hkk₁.trans hk₂, ?_, ?_⟩
  · intro r hr
    rcases hrows₁ r (hs₂.txs r hr) with h | rfl
    · exact .inl h
    · exact .inr rfl
  · intro k x hx
    have hx₁ := hs₂.sets k x hx
    rcases hsets₁ k with h | ⟨-, h⟩ <;> rw [h] at hx₁
    · exact .inl hx₁
    · rcases List.mem_append.mp hx₁ with hx₁ | hx₁
      · exact .inl hx₁
      · exact .inr (List.mem_singleton.mp hx₁)

/-- `add_tx` of a transaction kept by a block, which passed its checks before
and has no row, stores it. -/
theorem addTxOf_kept_eq (checks : PoolChecks) (now : UInt64)
    (hadm : Admissible blobSizeOf checks.checkTxOutputs tx)
    (hrow : ∀ r ∈ pool.txs, r.1 ≠ p.getTransactionHash tx) :
    pool.addTxOf p blobSizeOf checks tx true now =
      storeTx p blobSizeOf tx ⟨blobSizeOf tx, tx.rctSignatures.txnFee, true⟩
        ⟨tx.rctSignatures.txnFee, blobSizeOf tx, now, p.getTransactionHash tx⟩ pool := by
  have hinputs : checkInputsTypesSupported tx = true := hadm.inputs
  unfold addTxOf addTx
  simp [hadm.blobSize_ne, hadm.version_ne, hinputs, hadm.outputs, removeTxpoolTx_of_absent hrow]

/-- **Returning a taken transaction.** `add_tx` as kept by a block of a
transaction that can be put back puts it back in all three stores. -/
theorem addTxOf_kept (checks : PoolChecks) (now : UInt64)
    (hc : Consistent p blobSizeOf checks.checkTxOutputs pool)
    (ht : Returnable p blobSizeOf checks.checkTxOutputs pool tx) :
    Readded p blobSizeOf checks.checkTxOutputs tx pool (pool.addTxOf p blobSizeOf checks tx true now).2 := by
  rw [addTxOf_kept_eq checks now ht.admissible ht.no_row]
  exact storeTx_kept hc ht.admissible ht.keyImages_nodup ht.no_row ht.not_recorded rfl rfl

end Readd

/-! ## What every row holds

`Consistent` does not survive every run: two transactions with one hash break
it. What `add_tx` checks of each transaction it stores does: every operation
of the pool only removes rows or adds a row for a transaction that passed the
checks. -/

section RowsSatisfy

variable {p : Primitives} {blobSizeOf : Transaction → UInt64} {P : Transaction → Prop}
  {pool : TxPool}

/-- Every row of the pool holds a transaction with `P`. -/
def RowsSatisfy (P : Transaction → Prop) (pool : TxPool) : Prop := ∀ r ∈ pool.txs, P r.2.2

theorem RowsSatisfy.of_subset {pool' : TxPool} (h : RowsSatisfy P pool)
    (hs : ∀ r ∈ pool'.txs, r ∈ pool.txs) : RowsSatisfy P pool' :=
  fun r hr => h r (hs r hr)

theorem RowsSatisfy.removeTxpoolTx (h : RowsSatisfy P pool) (id : Hash) :
    RowsSatisfy P (pool.removeTxpoolTx id) :=
  h.of_subset fun _ hr => (List.mem_filter.mp hr).1

/-- `take_tx` only removes rows, and returns the transaction of one. -/
theorem RowsSatisfy.takeTx (h : RowsSatisfy P pool) (id : Hash) :
    RowsSatisfy P (pool.takeTx p id).2 ∧ ∀ tx m, (pool.takeTx p id).1 = some (tx, m) → P tx := by
  rcases takeTx_cases p pool id with h' | ⟨e, -, rfl, m, tx, hg, h'⟩ <;> rw [h']
  · exact ⟨h, fun _ _ hx => by cases hx⟩
  · refine ⟨h.of_subset fun _ hr => (List.mem_filter.mp hr).1, ?_⟩
    intro tx' m' hx
    simp only [Option.some.injEq, Prod.mk.injEq] at hx
    obtain ⟨rfl, -⟩ := hx
    exact h _ (mem_of_getTxpoolTx hg)

theorem RowsSatisfy.pruneLoop (bytes : UInt64) :
    ∀ (es : List SortedEntry) (pool : TxPool), RowsSatisfy P pool →
      RowsSatisfy P (TxPool.pruneLoop p blobSizeOf bytes es pool)
  | [], _, h => h
  | e :: es, pool, h => by
    unfold TxPool.pruneLoop
    split
    · exact h
    split
    · exact h
    dsimp only
    split
    · exact RowsSatisfy.pruneLoop bytes es pool h
    · exact RowsSatisfy.pruneLoop bytes es _ (h.removeTxpoolTx e.id)

/-- The storing part of `add_tx` adds at most a row for `tx`. -/
theorem RowsSatisfy.storeTx (h : RowsSatisfy P pool) {tx : Transaction} (htx : P tx)
    (txMeta : TxPoolMeta) (entry : SortedEntry) :
    RowsSatisfy P (TxPool.storeTx p blobSizeOf tx txMeta entry pool).2 := by
  unfold TxPool.storeTx
  rcases hadd : pool.addTxpoolTx (p.getTransactionHash tx) txMeta tx with _ | pool₁
  · exact h
  -- the row for `tx` is appended; the key images, the set and `prune` keep it
  have h₁ : RowsSatisfy P pool₁ := by
    unfold addTxpoolTx at hadd
    split at hadd
    · cases hadd
    cases hadd
    intro r hr
    rcases List.mem_append.mp hr with hr | hr
    · exact h r hr
    · rw [List.mem_singleton.mp hr]
      exact htx
  dsimp only
  split
  · exact h₁
  · exact RowsSatisfy.pruneLoop _ _ _ h₁

/-- What `add_tx` can do: refuse, leaving the pool as it was, or, for a
transaction with supported inputs and outputs passing `check_tx_outputs`, store
it, after removing any row under its hash unless it is a transaction kept by a
block that failed `check_tx_inputs`. -/
theorem addTx_cases (checks : PoolChecks) (tx : Transaction) (id : Hash) (blobSize : UInt64)
    (keptByBlock : Bool) (now : UInt64) :
    pool.addTx p blobSizeOf checks tx id blobSize keptByBlock now = (false, pool) ∨
      checkInputsTypesSupported tx = true ∧ checks.checkTxOutputs tx = true ∧
        (pool.addTx p blobSizeOf checks tx id blobSize keptByBlock now =
            storeTx p blobSizeOf tx ⟨blobSize, tx.rctSignatures.txnFee, keptByBlock⟩
              ⟨tx.rctSignatures.txnFee, blobSize, now, id⟩ pool ∨
          pool.addTx p blobSizeOf checks tx id blobSize keptByBlock now =
            storeTx p blobSizeOf tx ⟨blobSize, tx.rctSignatures.txnFee, keptByBlock⟩
              ⟨tx.rctSignatures.txnFee, blobSize, now, id⟩ (pool.removeTxpoolTx (p.getTransactionHash tx))) := by
  generalize hr : pool.addTx p blobSizeOf checks tx id blobSize keptByBlock now = r
  unfold addTx at hr
  dsimp only at hr
  -- each guard refuses, leaving the pool, or passes to the next; the guards are
  -- taken apart one at a time, since splitting them all at once is slow
  rcases ite_eq_iff.mp hr with ⟨-, hr⟩ | ⟨-, hr⟩
  · exact .inl hr.symm
  rcases ite_eq_iff.mp hr with ⟨-, hr⟩ | ⟨-, hr⟩
  · exact .inl hr.symm
  rcases ite_eq_iff.mp hr with ⟨-, hr⟩ | ⟨hin, hr⟩
  · exact .inl hr.symm
  rcases ite_eq_iff.mp hr with ⟨-, hr⟩ | ⟨-, hr⟩
  · exact .inl hr.symm
  rcases ite_eq_iff.mp hr with ⟨-, hr⟩ | ⟨-, hr⟩
  · exact .inl hr.symm
  rcases ite_eq_iff.mp hr with ⟨-, hr⟩ | ⟨-, hr⟩
  · exact .inl hr.symm
  rcases ite_eq_iff.mp hr with ⟨-, hr⟩ | ⟨hout, hr⟩
  · exact .inl hr.symm
  have hin : checkInputsTypesSupported tx = true := by simpa using hin
  have hout : checks.checkTxOutputs tx = true := by simpa using hout
  -- past the outputs: a failed input check stores only what a block kept
  rcases ite_eq_iff.mp hr with ⟨-, hr⟩ | ⟨-, hr⟩
  · rcases ite_eq_iff.mp hr with ⟨-, hr⟩ | ⟨-, hr⟩
    · exact .inr ⟨hin, hout, .inl hr.symm⟩
    · exact .inl hr.symm
  · exact .inr ⟨hin, hout, .inr hr.symm⟩

/-- **`add_tx` stores only what passes its checks.** Whatever it is given, it
keeps a property of the rows that every transaction with supported inputs and
outputs passing `check_tx_outputs` has. -/
theorem RowsSatisfy.addTx (checks : PoolChecks) (h : RowsSatisfy P pool) {tx : Transaction}
    (htx : checkInputsTypesSupported tx = true → checks.checkTxOutputs tx = true → P tx)
    (id : Hash) (blobSize : UInt64) (keptByBlock : Bool) (now : UInt64) :
    RowsSatisfy P (TxPool.addTx p blobSizeOf checks tx id blobSize keptByBlock now pool).2 := by
  rcases @addTx_cases p blobSizeOf pool checks tx id blobSize keptByBlock now with hr | ⟨hin, hout, hr | hr⟩ <;>
    rw [hr]
  · exact h
  · exact h.storeTx (htx hin hout) _ _
  · exact (h.removeTxpoolTx _).storeTx (htx hin hout) _ _

theorem RowsSatisfy.addTxOf (checks : PoolChecks) (h : RowsSatisfy P pool) {tx : Transaction}
    (htx : checkInputsTypesSupported tx = true → checks.checkTxOutputs tx = true → P tx)
    (keptByBlock : Bool) (now : UInt64) :
    RowsSatisfy P (pool.addTxOf p blobSizeOf checks tx keptByBlock now).2 := by
  unfold TxPool.addTxOf
  split
  · exact h
  · exact h.addTx checks htx _ _ _ _

end RowsSatisfy

end TxPool

end Ombre
