import Ombre.DB.Ops
import Ombre.Lib.Table

/-!
# The stored transactions as a ledger

`TxLedger db txs keys` reads the transaction tables of the store as a list of
transactions in the order they were added: `m_txs` holds them under the dense
ids `0, 1, ...`, `m_tx_indices` holds one row per transaction with its hash
(`keys`) and id, `m_tx_outputs` one output index array per transaction, and the
spent key images are exactly the key images of the inputs of the stored
transactions, none twice.

`add_transaction` of a transaction it stores whole appends one transaction to
the ledger (`addTransaction_txLedger`); `remove_transaction` of the last one
removes it again (`TxLedger.of_removeTransaction`).
-/

namespace Ombre

/-- The transactions `add_transaction` stores whole: every input a
`txin_to_key` or a `txin_gen`, and every output of amount 0 unless an input is
a `txin_gen`. -/
def Transaction.isStorable (tx : Transaction) : Bool :=
  tx.vin.all (fun i => i.isToKey || i.isGen) &&
    (tx.vin.any TxinV.isGen || tx.vout.all fun o => o.amount = 0)

namespace BlockchainDB

/-- The transaction tables of `db` hold the transactions `txs`, with hashes
`keys`, in the order they were added. -/
structure TxLedger (db : BlockchainDB) (txs : List Transaction) (keys : List Hash) : Prop where
  txs_eq : db.txs = (List.range txs.length).zip txs
  keys_eq : db.txIndices.map TxIndex.key = keys
  ids_eq : db.txIndices.map TxIndex.txId = List.range txs.length
  outputIds_eq : db.txOutputs.map Prod.fst = List.range txs.length
  keys_nodup : keys.Nodup
  spentKeys_perm : db.spentKeys.Perm (txs.flatMap Transaction.keyImages)
  keyImages_nodup : (txs.flatMap Transaction.keyImages).Nodup

/-- The empty store is the empty ledger. -/
theorem empty_txLedger : TxLedger empty [] [] :=
  ⟨rfl, rfl, rfl, rfl, List.nodup_nil, List.Perm.refl _, List.nodup_nil⟩

theorem TxLedger.of_frame {db db' : BlockchainDB} {txs : List Transaction} {keys : List Hash}
    (h : TxLedger db txs keys) (hf : LedgerFrame db db') : TxLedger db' txs keys := by
  obtain ⟨h1, h2, h3, h4, h5, h6, h7⟩ := h
  exact ⟨hf.txs ▸ h1, hf.txIndices ▸ h2, hf.txIndices ▸ h3, hf.txOutputs ▸ h4, h5,
    hf.spentKeys ▸ h6, h7⟩

/-- The ledger does not read the chain table. -/
theorem TxLedger.setChain {db : BlockchainDB} {txs : List Transaction} {keys : List Hash}
    (h : TxLedger db txs keys) (c : List ChainEntry) : TxLedger { db with chain := c } txs keys :=
  ⟨h.txs_eq, h.keys_eq, h.ids_eq, h.outputIds_eq, h.keys_nodup, h.spentKeys_perm, h.keyImages_nodup⟩

theorem TxLedger.spentKeys_nodup {db : BlockchainDB} {txs : List Transaction} {keys : List Hash}
    (h : TxLedger db txs keys) : db.spentKeys.Nodup :=
  h.spentKeys_perm.nodup_iff.mpr h.keyImages_nodup

theorem TxLedger.getTxCount_eq {db : BlockchainDB} {txs : List Transaction} {keys : List Hash}
    (h : TxLedger db txs keys) : db.getTxCount = txs.length := by
  simp [getTxCount, h.txs_eq]

/-! ## Adding a transaction -/

/-- The key images of the `txin_to_key` inputs of a list of inputs. -/
theorem keyImages_eq (tx : Transaction) : tx.keyImages = tx.vin.filterMap TxinV.keyImage? := rfl

/-- The input loop over inputs that are all `txin_to_key` or `txin_gen` adds
their key images, each new and none twice, and notes whether one is a
`txin_gen`. -/
theorem addInputs_ok :
    ∀ (vin : List TxinV) (minerTx : Bool) (db db' : BlockchainDB) (r : Option Bool),
      (∀ i ∈ vin, i.isToKey ∨ i.isGen) → addInputs vin minerTx db = .ok (db', r) →
      r = some (minerTx || vin.any TxinV.isGen) ∧
        db' = { db with spentKeys := db.spentKeys ++ vin.filterMap TxinV.keyImage? } ∧
        (∀ k ∈ vin.filterMap TxinV.keyImage?, k ∉ db.spentKeys) ∧
        (vin.filterMap TxinV.keyImage?).Nodup
  | [], minerTx, db, db', r, _, h => by
    simp only [addInputs, Except.pure_ok_iff, Prod.mk.injEq] at h
    obtain ⟨rfl, rfl⟩ := h
    simp
  | .toKey i :: rest, minerTx, db, db', r, hs, h => by
    have hk : (TxinV.toKey i :: rest).filterMap TxinV.keyImage? =
        i.kImage :: rest.filterMap TxinV.keyImage? := rfl
    obtain ⟨db₁, hadd, hrest⟩ := (Except.bind_ok_iff' _ _ _).mp h
    unfold addSpentKey at hadd
    split at hadd
    · exact absurd hadd (Except.throw_ne_ok _ _)
    · rename_i hfresh
      simp only [Except.pure_ok_iff] at hadd
      subst hadd
      obtain ⟨hr, hdb, hnew, hnodup⟩ := addInputs_ok rest minerTx _ db' r
        (fun j hj => hs j (List.mem_cons_of_mem _ hj)) hrest
      rw [hk]
      refine ⟨by simpa [TxinV.isGen] using hr, by rw [hdb]; simp, ?_, ?_⟩
      · intro k hk
        rcases List.mem_cons.mp hk with rfl | hk
        · exact hfresh
        · exact fun hmem => hnew k hk (List.mem_append_left _ hmem)
      · exact List.nodup_cons.mpr
          ⟨fun hmem => hnew i.kImage hmem (List.mem_append_right _ (List.mem_singleton_self _)),
            hnodup⟩
  | .gen g :: rest, minerTx, db, db', r, hs, h => by
    have hk : (TxinV.gen g :: rest).filterMap TxinV.keyImage? = rest.filterMap TxinV.keyImage? := rfl
    obtain ⟨hr, hdb, hnew, hnodup⟩ := addInputs_ok rest true db db' r
      (fun j hj => hs j (List.mem_cons_of_mem _ hj)) h
    rw [hk]
    exact ⟨by simpa [TxinV.isGen] using hr, hdb, hnew, hnodup⟩
  | .toScript i :: rest, minerTx, db, db', r, hs, _ => by
    simp [TxinV.isToKey, TxinV.isGen] at hs
  | .toScripthash i :: rest, minerTx, db, db', r, hs, _ => by
    simp [TxinV.isToKey, TxinV.isGen] at hs

theorem addTransactionData_ok {db db' : BlockchainDB} {tx : Transaction} {txHash : Hash} {n : ℕ}
    (h : db.addTransactionData tx txHash = .ok (db', n)) :
    (∀ t ∈ db.txIndices, t.key ≠ txHash) ∧ n = db.getTxCount ∧
      db' = { db with
        txIndices := db.txIndices ++ [⟨txHash, db.getTxCount, tx.unlockTime, db.height⟩]
        txs := db.txs ++ [(db.getTxCount, tx)] } := by
  unfold addTransactionData at h
  split at h
  · exact absurd h (Except.throw_ne_ok _ _)
  · rename_i hnone
    simp only [Except.pure_ok_iff, Prod.mk.injEq] at h
    obtain ⟨rfl, rfl⟩ := h
    refine ⟨fun t ht hkey => ?_, rfl, rfl⟩
    exact List.find?_eq_none.mp hnone t ht (by simpa using hkey)

/-- Storing a transaction whole appends it, under its hash, to the ledger. -/
theorem addTransaction_txLedger {p : Primitives} {tx : Transaction} {txHashPtr : Option Hash}
    {db db' : BlockchainDB} {txs : List Transaction} {keys : List Hash}
    (hl : TxLedger db txs keys) (hs : tx.isStorable) (h : db.addTransaction p tx txHashPtr = .ok db') :
    TxLedger db' (txs ++ [tx]) (keys ++ [txHashPtr.getD (p.getTransactionHash tx)]) ∧
      db'.chain = db.chain := by
  simp only [Transaction.isStorable, Bool.and_eq_true, List.all_eq_true, Bool.or_eq_true,
    List.any_eq_true, decide_eq_true_eq] at hs
  obtain ⟨hvin, hout⟩ := hs
  unfold addTransaction at h
  obtain ⟨⟨db₁, r⟩, hin, h⟩ := (Except.bind_ok_iff' _ _ _).mp h
  obtain ⟨rfl, rfl, hnew, hnodup⟩ := addInputs_ok tx.vin false db db₁ r hvin hin
  obtain ⟨⟨db₂, n⟩, hdata, h⟩ := (Except.bind_ok_iff' _ _ _).mp h
  obtain ⟨hfresh, rfl, rfl⟩ := addTransactionData_ok hdata
  obtain ⟨⟨db₃, r'⟩, houts, h⟩ := (Except.bind_ok_iff' _ _ _).mp h
  have hframe := addOutputs_frame p tx _ _ _ _ _ _ _ houts
  have hsome := addOutputs_isSome p tx _ _ _ _ _ _ _ (by
    rcases hout with ⟨i, hi, hgen⟩ | hzero
    · exact .inl (by simpa using ⟨i, hi, hgen⟩)
    · exact .inr fun o ho => hzero o.1 (List.fst_mem_of_mem_zipIdx ho)) houts
  obtain ⟨indices, rfl⟩ := Option.isSome_iff_exists.mp hsome
  simp only [Except.pure_ok_iff] at h
  subst h
  have hcount : db.getTxCount = txs.length := hl.getTxCount_eq
  simp only [getTxCount] at hcount
  refine ⟨⟨?_, ?_, ?_, ?_, ?_, ?_, ?_⟩, hframe.chain⟩
  · simp only [addTxAmountOutputIndices, hframe.txs, getTxCount, hl.txs_eq,
      List.length_append, List.length_singleton, List.range_succ]
    rw [List.zip_append (by simp)]
    simp
  · simp [addTxAmountOutputIndices, hframe.txIndices, hl.keys_eq]
  · simp [addTxAmountOutputIndices, hframe.txIndices, hl.ids_eq, getTxCount, hcount, List.range_succ]
  · simp [addTxAmountOutputIndices, hframe.txOutputs, hl.outputIds_eq, getTxCount, hcount,
      List.range_succ]
  · refine List.nodup_append.mpr ⟨hl.keys_nodup, List.nodup_singleton _, ?_⟩
    intro k hk k' hk' heq
    rw [List.mem_singleton] at hk'
    rw [← hl.keys_eq, List.mem_map] at hk
    obtain ⟨t, ht, rfl⟩ := hk
    exact hfresh t ht (heq.trans hk')
  · simp only [addTxAmountOutputIndices, hframe.spentKeys, List.flatMap_append,
      List.flatMap_singleton]
    exact hl.spentKeys_perm.append_right _
  · rw [List.flatMap_append, List.flatMap_singleton]
    refine List.nodup_append_of_fresh hl.keyImages_nodup hnodup fun k hk hmem => ?_
    exact hnew k hk (hl.spentKeys_perm.mem_iff.mpr hmem)

/-- A coinbase of a version other than 2 is stored with an empty output index
array. -/
theorem addTransaction_txOutputs_of_version_ne {p : Primitives} {tx : Transaction} {g : TxinGen}
    {db db' : BlockchainDB} (hvin : tx.vin = [.gen g]) (hver : tx.version ≠ 2)
    (h : db.addTransaction p tx none = .ok db') :
    db'.txOutputs = db.txOutputs ++ [(db.getTxCount, [])] := by
  unfold addTransaction at h
  obtain ⟨⟨db₁, r⟩, hin, h⟩ := (Except.bind_ok_iff' _ _ _).mp h
  rw [hvin] at hin
  simp only [addInputs, Except.pure_ok_iff, Prod.mk.injEq] at hin
  obtain ⟨rfl, rfl⟩ := hin
  obtain ⟨⟨db₂, n⟩, hdata, h⟩ := (Except.bind_ok_iff' _ _ _).mp h
  obtain ⟨-, rfl, rfl⟩ := addTransactionData_ok hdata
  obtain ⟨⟨db₃, r'⟩, houts, h⟩ := (Except.bind_ok_iff' _ _ _).mp h
  rw [addOutputs_of_version_ne p tx _ hver, Except.pure_ok_iff, Prod.mk.injEq] at houts
  obtain ⟨rfl, rfl⟩ := houts
  simp only [Except.pure_ok_iff] at h
  subst h
  rfl

/-! ## Removing the last transaction -/

section Last

variable {db : BlockchainDB} {txs : List Transaction} {keys : List Hash} {tx : Transaction} {h : Hash}

/-- The index rows of a ledger whose last transaction has hash `h`. -/
theorem TxLedger.txIndices_concat (hl : TxLedger db (txs ++ [tx]) (keys ++ [h])) :
    ∃ rows r, db.txIndices = rows ++ [r] ∧ rows.map TxIndex.key = keys ∧
      rows.map TxIndex.txId = List.range txs.length ∧ r.key = h ∧ r.txId = txs.length := by
  have hids := hl.ids_eq
  rw [List.length_append, List.length_singleton, List.range_succ] at hids
  obtain ⟨rows, r, hsplit⟩ : ∃ rows r, db.txIndices = rows ++ [r] := by
    refine ⟨db.txIndices.dropLast, db.txIndices.getLast ?_, (List.dropLast_append_getLast _).symm⟩
    intro hnil
    simp [hnil] at hids
  have hkeys := hl.keys_eq
  rw [hsplit, List.map_append] at hkeys hids
  obtain ⟨hk, hk'⟩ := List.append_inj' hkeys rfl
  obtain ⟨hi, hi'⟩ := List.append_inj' hids rfl
  simp only [List.map_cons, List.map_nil, List.cons.injEq, and_true] at hk' hi'
  exact ⟨rows, r, hsplit, hk, hi, hk', hi'⟩

/-- The output index arrays of a ledger end with the array of its last
transaction. -/
theorem TxLedger.txOutputs_concat (hl : TxLedger db (txs ++ [tx]) (keys ++ [h])) :
    ∃ outs o, db.txOutputs = outs ++ [o] ∧ outs.map Prod.fst = List.range txs.length ∧
      o.1 = txs.length := by
  have hids := hl.outputIds_eq
  rw [List.length_append, List.length_singleton, List.range_succ] at hids
  obtain ⟨outs, o, hsplit⟩ : ∃ outs o, db.txOutputs = outs ++ [o] := by
    refine ⟨db.txOutputs.dropLast, db.txOutputs.getLast ?_, (List.dropLast_append_getLast _).symm⟩
    intro hnil
    simp [hnil] at hids
  rw [hsplit, List.map_append] at hids
  obtain ⟨hi, hi'⟩ := List.append_inj' hids rfl
  simp only [List.map_cons, List.map_nil, List.cons.injEq, and_true] at hi'
  exact ⟨outs, o, hsplit, hi, hi'⟩

theorem TxLedger.not_mem_keys (hl : TxLedger db (txs ++ [tx]) (keys ++ [h])) : h ∉ keys :=
  fun hh => (List.nodup_append.mp hl.keys_nodup).2.2 h hh h (List.mem_singleton_self _) rfl

/-- The index row found by the last hash is the last row; erasing it leaves the
rows of the shorter ledger. -/
theorem TxLedger.find?_txIndices_last (hl : TxLedger db (txs ++ [tx]) (keys ++ [h])) :
    ∃ r, db.txIndices.find? (fun t => t.key = h) = some r ∧ r.txId = txs.length ∧
      (db.txIndices.erase r).map TxIndex.key = keys ∧
      (db.txIndices.erase r).map TxIndex.txId = List.range txs.length := by
  obtain ⟨rows, r, hsplit, hk, hi, hrk, hri⟩ := hl.txIndices_concat
  have hnot := hl.not_mem_keys
  have hr : r ∉ rows := fun hr => hnot (hrk ▸ hk ▸ List.mem_map_of_mem hr)
  refine ⟨r, ?_, hri, ?_, ?_⟩
  · rw [hsplit]
    refine List.find?_concat_of_forall (fun y hy => ?_) (by simp [hrk])
    have hy' : y.key ∈ keys := hk ▸ List.mem_map_of_mem hy
    simp only [decide_eq_false_iff_not]
    exact fun hyh => hnot (hyh ▸ hy')
  · rw [hsplit, List.erase_concat_of_not_mem hr, hk]
  · rw [hsplit, List.erase_concat_of_not_mem hr, hi]

/-- The blob found by the last id is the last transaction; erasing it leaves
the blobs of the shorter ledger. -/
theorem TxLedger.find?_txs_last (hl : TxLedger db (txs ++ [tx]) (keys ++ [h])) :
    db.txs.find? (fun e => e.1 = txs.length) = some (txs.length, tx) ∧
      db.txs.erase (txs.length, tx) = (List.range txs.length).zip txs := by
  rw [hl.txs_eq, List.zip_range_concat]
  exact ⟨List.find?_zip_range_concat txs tx, List.erase_zip_range_concat txs tx⟩

/-- The output index array found by the last id is the last array. -/
theorem TxLedger.find?_txOutputs_last (hl : TxLedger db (txs ++ [tx]) (keys ++ [h])) :
    ∃ o, db.txOutputs.getLast? = some o ∧ db.txOutputs.find? (fun e => e.1 = txs.length) = some o ∧
      (db.txOutputs.erase o).map Prod.fst = List.range txs.length := by
  obtain ⟨outs, o, hsplit, hi, hoi⟩ := hl.txOutputs_concat
  have hlt : ∀ e ∈ outs, e.1 < txs.length := fun e he =>
    List.mem_range.mp (hi ▸ List.mem_map_of_mem he)
  have ho : o ∉ outs := fun ho => (hlt o ho).ne hoi
  refine ⟨o, by simp [hsplit], ?_, ?_⟩
  · rw [hsplit]
    exact List.find?_concat_of_forall (fun e he => by simpa using (hlt e he).ne) (by simp [hoi])
  · rw [hsplit, List.erase_concat_of_not_mem ho, hi]

/-- `get_tx` of the last hash of a ledger reads its last transaction. -/
theorem TxLedger.getTx_last (hl : TxLedger db (txs ++ [tx]) (keys ++ [h])) : db.getTx h = .ok tx := by
  obtain ⟨r, hfind, hri, -, -⟩ := hl.find?_txIndices_last
  simp [getTx, findTx, hfind, hri, hl.find?_txs_last.1]

/-- `remove_transaction` of the last hash of a ledger removes its last
transaction. -/
theorem TxLedger.of_removeTransaction {db' : BlockchainDB} (hl : TxLedger db (txs ++ [tx]) (keys ++ [h]))
    (hrm : db.removeTransaction h = .ok db') : TxLedger db' txs keys ∧ db'.chain = db.chain := by
  obtain ⟨r, hfind, hri, hkeys, hids⟩ := hl.find?_txIndices_last
  obtain ⟨hfindTx, heraseTx⟩ := hl.find?_txs_last
  obtain ⟨o, -, hfindOut, houts⟩ := hl.find?_txOutputs_last
  simp only [removeTransaction, hl.getTx_last, Except.bind_ok_iff', Except.ok.injEq,
    exists_eq_left', removeSpentKeys_eq, removeTransactionData, hfind, hri, hfindTx] at hrm
  obtain ⟨db₃, hout, hrm⟩ := hrm
  have hframe := removeTxOutputs_frame hout
  rw [hframe.txOutputs, hfindOut] at hrm
  simp only [Except.pure_ok_iff] at hrm
  subst hrm
  have hspent : db.spentKeys.Perm (txs.flatMap Transaction.keyImages ++ tx.keyImages) := by
    simpa using hl.spentKeys_perm
  refine ⟨⟨?_, ?_, ?_, ?_, ?_, ?_, ?_⟩, hframe.chain⟩
  · simpa [hframe.txs] using heraseTx
  · simpa [hframe.txIndices] using hkeys
  · simpa [hframe.txIndices] using hids
  · simpa using houts
  · exact (List.nodup_append.mp hl.keys_nodup).1
  · simpa [hframe.spentKeys] using List.perm_diff_of_perm_append hspent (List.Perm.refl _)
  · have := hl.keyImages_nodup
    rw [List.flatMap_append] at this
    exact (List.nodup_append.mp this).1

/-- `get_tx_amount_output_indices` of the last transaction of a ledger reads
the last output index array. -/
theorem TxLedger.getTxAmountOutputIndices_last {idx : List ℕ}
    (hl : TxLedger db (txs ++ [tx]) (keys ++ [h]))
    (hlast : db.txOutputs.getLast? = some (txs.length, idx)) :
    db.getTxAmountOutputIndices txs.length = idx := by
  obtain ⟨o, ho, hfind, -⟩ := hl.find?_txOutputs_last
  rw [hlast, Option.some.injEq] at ho
  simp [getTxAmountOutputIndices, hfind, ← ho]

/-- `remove_transaction` of the last transaction of a ledger throws when the
transaction has outputs but its output index array is empty. -/
theorem TxLedger.removeTransaction_of_indices_nil (hl : TxLedger db (txs ++ [tx]) (keys ++ [h]))
    (hidx : db.getTxAmountOutputIndices txs.length = []) (hout : tx.vout ≠ []) :
    db.removeTransaction h = .error (.dbError "tx has outputs, but no output indices found") := by
  obtain ⟨r, hfind, hri, -, -⟩ := hl.find?_txIndices_last
  simp only [removeTransaction, hl.getTx_last, Except.ok_bind, removeTransactionData,
    removeSpentKeys_eq, hfind, hri, hl.find?_txs_last.1]
  -- removing the spent keys and the blob leaves the output index arrays alone
  rw [removeTxOutputs_of_indices_nil ?_ hout, Except.throw_bind]
  · rfl
  · exact hidx

end Last

/-! ## Blocks -/

/-- A block with the transactions `add_block` receives for it. -/
structure StoredBlock where
  block : Block
  txs : List Transaction

namespace StoredBlock

/-- The coinbase, then the transactions, in the order they are stored. -/
def transactions (s : StoredBlock) : List Transaction := s.block.minerTx :: s.txs

/-- The hashes the transactions are stored under: the coinbase's own, then the
ones the block lists. -/
def hashes (p : Primitives) (s : StoredBlock) : List Hash :=
  p.getTransactionHash s.block.minerTx :: s.block.txHashes

end StoredBlock

/-- `db` stores the blocks of `chain`, in order, with their transactions. -/
structure Stores (p : Primitives) (db : BlockchainDB) (chain : List StoredBlock) : Prop where
  blocks_eq : db.chain.map ChainEntry.block = chain.map StoredBlock.block
  ledger : TxLedger db (chain.flatMap StoredBlock.transactions) (chain.flatMap (StoredBlock.hashes p))
  txs_length : ∀ s ∈ chain, s.txs.length = s.block.txHashes.length

theorem empty_stores (p : Primitives) : Stores p empty [] := ⟨rfl, empty_txLedger, by simp⟩

theorem Stores.height_eq {p : Primitives} {db : BlockchainDB} {chain : List StoredBlock}
    (hst : Stores p db chain) : db.height = chain.length := by
  simpa [height] using congrArg List.length hst.blocks_eq

theorem Stores.getTopBlock_eq {p : Primitives} {db : BlockchainDB} {chain : List StoredBlock}
    {s : StoredBlock} (hst : Stores p db (chain ++ [s])) : db.getTopBlock = s.block := by
  have hb := congrArg List.getLast? hst.blocks_eq
  rw [List.getLast?_map, List.map_append, List.map_singleton, List.getLast?_concat] at hb
  simp [getTopBlock, hb]

/-- Writes outside the chain and transaction tables keep what the store holds. -/
theorem Stores.of_frame {p : Primitives} {db db' : BlockchainDB} {chain : List StoredBlock}
    (hst : Stores p db chain) (hf : LedgerFrame db db') : Stores p db' chain := by
  refine ⟨?_, hst.ledger.of_frame hf, hst.txs_length⟩
  rw [hf.chain]
  exact hst.blocks_eq

/-- The loop of `add_block` over the block's transactions appends them to the
ledger. -/
theorem addTransactions_txLedger (p : Primitives) :
    ∀ (ps : List (Transaction × Hash)) (db db' : BlockchainDB) (txs : List Transaction)
      (keys : List Hash), TxLedger db txs keys → (∀ q ∈ ps, q.1.isStorable) →
      ps.foldlM (fun db th => db.addTransaction p th.1 (some th.2)) db = .ok db' →
      TxLedger db' (txs ++ ps.map Prod.fst) (keys ++ ps.map Prod.snd) ∧ db'.chain = db.chain
  | [], db, db', txs, keys, hl, _, h => by
    simp only [List.foldlM_nil, Except.pure_ok_iff] at h
    subst h
    simpa using hl
  | (tx, th) :: ps, db, db', txs, keys, hl, hs, h => by
    obtain ⟨db₁, hadd, hrest⟩ := Except.foldlM_cons_ok_iff.mp h
    obtain ⟨hl₁, hc₁⟩ := addTransaction_txLedger hl (hs (tx, th) List.mem_cons_self) hadd
    obtain ⟨hl', hc'⟩ := addTransactions_txLedger p ps db₁ db' _ _ hl₁
      (fun q hq => hs q (List.mem_cons_of_mem _ hq)) hrest
    refine ⟨by simpa using hl', hc'.trans hc₁⟩

/-- **`add_block` appends the block.** A block whose coinbase and transactions
are stored whole is appended, with its transactions, to the chain the store
holds. -/
theorem addBlock_stores {p : Primitives} {hf hf' : HardFork} {db db' : BlockchainDB}
    {chain : List StoredBlock} {s : StoredBlock} {bs cd cg : UInt64} {n : ℕ}
    (hst : Stores p db chain) (hminer : s.block.minerTx.isStorable)
    (htxs : ∀ tx ∈ s.txs, tx.isStorable)
    (h : db.addBlock p hf s.block bs cd cg s.txs = .ok (db', hf', n)) :
    Stores p db' (chain ++ [s]) ∧ n = db.height := by
  obtain ⟨hlen, rfl, db₁, db₂, hminerAdd, htxsAdd, hframe⟩ := addBlock_ok h
  obtain ⟨hl₁, hc₁⟩ := addTransaction_txLedger hst.ledger hminer hminerAdd
  obtain ⟨hl₂, hc₂⟩ := addTransactions_txLedger p _ db₁ db₂ _ _ hl₁
    (fun q hq => htxs q.1 (List.of_mem_zip hq).1) htxsAdd
  refine ⟨⟨?_, ?_, ?_⟩, rfl⟩
  · rw [hframe.chain]
    simp [hc₂, hc₁, hst.blocks_eq]
  · refine (TxLedger.of_frame ?_ hframe)
    have hfst : (s.txs.zip s.block.txHashes).map Prod.fst = s.txs := List.map_fst_zip (by omega)
    have hsnd : (s.txs.zip s.block.txHashes).map Prod.snd = s.block.txHashes :=
      List.map_snd_zip (by omega)
    rw [hfst, hsnd] at hl₂
    simpa [StoredBlock.transactions, StoredBlock.hashes] using hl₂.setChain _
  · intro t ht
    rcases List.mem_append.mp ht with ht | ht
    · exact hst.txs_length t ht
    · rw [List.mem_singleton.mp ht]
      exact hlen.symm

/-- The loop of `pop_block` over the block's transactions, last first, removes
them from the ledger and returns them in that order. -/
theorem popTransactions_txLedger (ps : List (Transaction × Hash)) :
    ∀ (db db' : BlockchainDB) (pre : List Transaction) (preKeys : List Hash)
      (acc acc' : List Transaction),
      TxLedger db (pre ++ ps.map Prod.fst) (preKeys ++ ps.map Prod.snd) →
      (ps.map Prod.snd).reverse.foldlM popTransaction (db, acc) = .ok (db', acc') →
      TxLedger db' pre preKeys ∧ acc' = acc ++ (ps.map Prod.fst).reverse ∧ db'.chain = db.chain := by
  induction ps using List.reverseRecOn with
  | nil =>
    intro db db' pre preKeys acc acc' hl h
    simp only [List.map_nil, List.reverse_nil, List.foldlM_nil, Except.pure_ok_iff,
      Prod.mk.injEq] at h
    obtain ⟨rfl, rfl⟩ := h
    simpa using hl
  | append_singleton ps q ih =>
    intro db db' pre preKeys acc acc' hl h
    obtain ⟨tx, th⟩ := q
    simp only [List.map_append, List.map_cons, List.map_nil, List.reverse_append,
      List.reverse_cons, List.reverse_nil, List.nil_append, List.singleton_append] at h
    obtain ⟨⟨db₁, acc₁⟩, hstep, hrest⟩ := Except.foldlM_cons_ok_iff.mp h
    simp only [List.map_append, List.map_cons, List.map_nil, ← List.append_assoc] at hl
    have hget := hl.getTx_last
    simp only [popTransaction, hget, Except.bind_ok_iff', Except.ok.injEq, exists_eq_left',
      Except.pure_ok_iff, Prod.mk.injEq] at hstep
    obtain ⟨db₂, hrm, rfl, rfl⟩ := hstep
    obtain ⟨hl₂, hc₂⟩ := hl.of_removeTransaction hrm
    obtain ⟨hl', hacc, hc'⟩ := ih db₂ db' pre preKeys _ acc' hl₂ hrest
    refine ⟨hl', by simp [hacc], hc'.trans hc₂⟩

/-- **`pop_block` of a stored block.** When it succeeds, `pop_block` returns the
top block and its transactions in reverse order, and the store holds the chain
without it. -/
theorem popBlock_stores {p : Primitives} {db db' : BlockchainDB} {chain : List StoredBlock}
    {s : StoredBlock} {b : Block} {txs : List Transaction}
    (hst : Stores p db (chain ++ [s])) (h : db.popBlock p = .ok (db', b, txs)) :
    Stores p db' chain ∧ b = s.block ∧ txs = s.txs.reverse := by
  have htop := hst.getTopBlock_eq
  have hlen := hst.txs_length s (by simp)
  unfold popBlock at h
  rw [htop] at h
  obtain ⟨db₁, hremove, h⟩ := (Except.bind_ok_iff' _ _ _).mp h
  obtain ⟨⟨db₂, acc⟩, hloop, h⟩ := (Except.bind_ok_iff' _ _ _).mp h
  obtain ⟨db₃, hminer, h⟩ := (Except.bind_ok_iff' _ _ _).mp h
  simp only [Except.pure_ok_iff, Prod.mk.injEq] at h
  obtain ⟨rfl, rfl, rfl⟩ := h
  rw [removeBlock_ok hremove] at hloop
  have hl := hst.ledger
  simp only [List.flatMap_append, List.flatMap_singleton, StoredBlock.transactions,
    StoredBlock.hashes] at hl
  have hfst : (s.txs.zip s.block.txHashes).map Prod.fst = s.txs := List.map_fst_zip (by omega)
  have hsnd : (s.txs.zip s.block.txHashes).map Prod.snd = s.block.txHashes := List.map_snd_zip (by omega)
  have hl' : TxLedger { db with chain := db.chain.dropLast }
      ((chain.flatMap StoredBlock.transactions ++ [s.block.minerTx]) ++
        (s.txs.zip s.block.txHashes).map Prod.fst)
      ((chain.flatMap (StoredBlock.hashes p) ++ [p.getTransactionHash s.block.minerTx]) ++
        (s.txs.zip s.block.txHashes).map Prod.snd) := by
    rw [hfst, hsnd]
    simpa only [List.append_assoc, List.singleton_append] using hl.setChain _
  rw [← hsnd] at hloop
  obtain ⟨hl₂, hacc, hc₂⟩ := popTransactions_txLedger _ _ db₂ _ _ [] acc hl' hloop
  obtain ⟨hl₃, hc₃⟩ := hl₂.of_removeTransaction hminer
  refine ⟨⟨?_, hl₃, fun t ht => hst.txs_length t (List.mem_append_left _ ht)⟩, rfl, ?_⟩
  · rw [hc₃, hc₂]
    have hb := hst.blocks_eq
    rw [List.map_append, List.map_singleton] at hb
    rw [List.map_dropLast, hb, List.dropLast_concat]
  · simpa [hfst] using hacc

/-- A block whose coinbase is not of version 2 and pays an output cannot be
popped again: `add_block` stores the coinbase with an empty output index array,
and `pop_block` throws in `remove_tx_outputs` when it reaches the coinbase. -/
theorem popBlock_throws_of_coinbase_version_ne {p : Primitives} {hf : HardFork}
    {db : BlockchainDB} {chain : List StoredBlock} {blk : Block} {g : TxinGen} {bs cd cg : UInt64}
    {r : BlockchainDB × HardFork × ℕ} (hst : Stores p db chain) (hvin : blk.minerTx.vin = [.gen g])
    (hver : blk.minerTx.version ≠ 2) (hout : blk.minerTx.vout ≠ [])
    (h : db.addBlock p hf blk bs cd cg [] = .ok r) :
    r.1.popBlock p = .error (.dbError "tx has outputs, but no output indices found") := by
  obtain ⟨db', hf', n⟩ := r
  obtain ⟨hlen, -, db₁, db₂, hminer, hloop, hframe⟩ := addBlock_ok h
  have hnil : blk.txHashes = [] := List.eq_nil_of_length_eq_zero hlen
  simp only [List.zip_nil_left, List.foldlM_nil, Except.pure_ok_iff] at hloop
  subst hloop
  have hs : blk.minerTx.isStorable := by simp [Transaction.isStorable, hvin, TxinV.isGen]
  obtain ⟨hst', -⟩ : Stores p db' (chain ++ [⟨blk, []⟩]) ∧ n = db.height :=
    addBlock_stores hst hs (by simp) h
  -- the coinbase is the last transaction of the ledger, with an empty output index array
  have hl := hst'.ledger
  simp only [List.flatMap_append, List.flatMap_singleton, StoredBlock.transactions,
    StoredBlock.hashes, hnil] at hl
  have hlast : db'.txOutputs.getLast? = some ((chain.flatMap StoredBlock.transactions).length, []) := by
    rw [hframe.txOutputs, addTransaction_txOutputs_of_version_ne hvin hver hminer,
      hst.ledger.getTxCount_eq]
    simp
  have hrm := (hl.setChain db'.chain.dropLast).removeTransaction_of_indices_nil
    (hl.getTxAmountOutputIndices_last hlast) hout
  have hheight : db'.height ≠ 0 := by simp [hst'.height_eq]
  -- `pop_block` removes the block's row and reaches the coinbase at once
  unfold popBlock
  simp only [hst'.getTopBlock_eq, hnil, removeBlock, hheight, if_false, List.reverse_nil,
    List.foldlM_nil, pure_bind]
  exact congrArg (· >>= _) hrm

/-- Hash and commitment functions that send everything to the zero value. -/
def constPrimitives : Primitives := ⟨fun _ => default, fun _ => default, fun _ => default⟩

/-- A tracker with the single fork of version 1 from height 0. -/
def singleForkTracker : HardFork :=
  { heights := [⟨1, 0, 0⟩], originalVersion := 1, windowSize := 1, windowSize_pos := by decide,
    versions := [], lastVersions := fun _ => 0, currentForkIndex := 0 }

/-- A first block whose coinbase is of version 1 and pays one output. -/
def coinbaseV1Block : Block :=
  { (default : Block) with
    majorVersion := 1, minorVersion := 1
    minerTx := { (default : Transaction) with
      version := 1, vin := [.gen ⟨0⟩], vout := [⟨1, .toKey default⟩] } }

theorem popBlock_throws_coinbaseV1Block :
    ∃ r, empty.addBlock constPrimitives singleForkTracker coinbaseV1Block 0 1 0 [] = .ok r ∧
      r.1.popBlock constPrimitives = .error (.dbError "tx has outputs, but no output indices found") := by
  obtain ⟨r, hr⟩ : ∃ r, empty.addBlock constPrimitives singleForkTracker coinbaseV1Block 0 1 0 [] =
      .ok r := ⟨_, rfl⟩
  exact ⟨r, hr, popBlock_throws_of_coinbase_version_ne (empty_stores _) rfl (by decide) (by simp [coinbaseV1Block]) hr⟩

end BlockchainDB

end Ombre
