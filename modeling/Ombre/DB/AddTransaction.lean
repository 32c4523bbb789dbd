import Ombre.DB.Ledger

/-!
# The early returns of `add_transaction`

`BlockchainDB::add_transaction` returns without throwing on two paths: at an
input that is neither a `txin_to_key` nor a `txin_gen`, and, for a transaction
that is not a coinbase, at an output with a nonzero amount. Both then call
`remove_spent_key` for the key image of every `txin_to_key` input of the
transaction, and nothing else, so neither leaves the store as it was:

* at an unsupported input, the key images of the inputs after it were never
  added, and `remove_spent_key` ignores a missing key image but removes one
  that an earlier transaction spent (`addTransaction_early_return`, first part);
* at a nonzero amount, the index row and the blob of the transaction, and the
  outputs stored before that one, stay (second part).

Neither path throws, so `add_block` carries on and commits the block.
-/

namespace Ombre

namespace BlockchainDB

/-- Removing the key images just appended gives back the key images before,
when none of them was there already. -/
theorem diff_append_cancel {S : List KeyImage} :
    ∀ {K : List KeyImage}, (∀ k ∈ K, k ∉ S) → (S ++ K).diff K = S
  | [], _ => by simp
  | k :: K, h => by
    have hk : k ∉ S := h k List.mem_cons_self
    rw [List.diff_cons, List.erase_append_right _ hk, List.erase_cons_head]
    exact diff_append_cancel fun k' hk' => h k' (List.mem_cons_of_mem _ hk')

/-- The input loop over accepted inputs whose key images are new and distinct
adds those key images in order, notes a `txin_gen`, and goes on with the
inputs after them. -/
theorem addInputs_append_of_fresh :
    ∀ (pre rest : List TxinV) (minerTx : Bool) (db : BlockchainDB),
      (∀ i ∈ pre, (i.isToKey || i.isGen) = true) → (pre.filterMap TxinV.keyImage?).Nodup →
      (∀ k ∈ pre.filterMap TxinV.keyImage?, k ∉ db.spentKeys) →
      addInputs (pre ++ rest) minerTx db =
        addInputs rest (minerTx || pre.any TxinV.isGen)
          { db with spentKeys := db.spentKeys ++ pre.filterMap TxinV.keyImage? }
  | [], rest, minerTx, db, _, _, _ => by
    simp only [List.nil_append, List.any_nil, Bool.or_false, List.filterMap_nil, List.append_nil]
  | .toKey i :: pre, rest, minerTx, db, hs, hnd, hfresh => by
    have hcons : (TxinV.toKey i :: pre).filterMap TxinV.keyImage? = i.kImage :: pre.filterMap TxinV.keyImage? :=
      rfl
    rw [hcons, List.nodup_cons] at hnd
    rw [hcons] at hfresh
    rw [hcons]
    have hk : i.kImage ∉ db.spentKeys := hfresh _ List.mem_cons_self
    -- the first key image is new, so `add_spent_key` appends it
    have hadd : db.addSpentKey i.kImage = pure { db with spentKeys := db.spentKeys ++ [i.kImage] } := by
      rw [addSpentKey, if_neg hk]
    have hfresh' : ∀ k ∈ pre.filterMap TxinV.keyImage?, k ∉ db.spentKeys ++ [i.kImage] := by
      intro k hkm hmem
      rcases List.mem_append.mp hmem with h | h
      · exact hfresh k (List.mem_cons_of_mem _ hkm) h
      · exact hnd.1 (List.mem_singleton.mp h ▸ hkm)
    show (do addInputs (pre ++ rest) minerTx (← db.addSpentKey i.kImage)) = _
    rw [hadd, pure_bind, addInputs_append_of_fresh pre rest minerTx _
      (fun j hj => hs j (List.mem_cons_of_mem _ hj)) hnd.2 hfresh']
    simp [TxinV.isGen]
  | .gen g :: pre, rest, minerTx, db, hs, hnd, hfresh => by
    have hcons : (TxinV.gen g :: pre).filterMap TxinV.keyImage? = pre.filterMap TxinV.keyImage? := rfl
    rw [hcons] at hnd hfresh ⊢
    show addInputs (pre ++ rest) true db = _
    rw [addInputs_append_of_fresh pre rest true db (fun j hj => hs j (List.mem_cons_of_mem _ hj)) hnd hfresh]
    simp [TxinV.isGen]
  | .toScript _ :: _, _, _, _, hs, _, _ => by simp [TxinV.isToKey, TxinV.isGen] at hs
  | .toScripthash _ :: _, _, _, _, hs, _, _ => by simp [TxinV.isToKey, TxinV.isGen] at hs

/-- `add_output` of an output to a key with amount 0 succeeds and adds one row
to `m_output_amounts`. -/
theorem addOutput_toKey {db : BlockchainDB} {txHash : Hash} {o : TxOut} {t : TxoutToKey}
    (hamount : o.amount = 0) (htarget : o.target = .toKey t) (i : ℕ) (u : UInt64) (c : RctKey) :
    ∃ db₁ idx, db.addOutput txHash o i u c = .ok (db₁, idx) ∧
      db₁.outputAmounts.length = db.outputAmounts.length + 1 := by
  unfold addOutput
  rw [if_neg (by simp [hamount]), htarget]
  exact ⟨_, _, rfl, by simp⟩

/-- The output loop of a transaction that is not a coinbase stores the outputs
to a key with amount 0 before an output with a nonzero amount, and stops
there. -/
theorem addOutputs_append_nonzero (p : Primitives) (tx : Transaction) (txHash : Hash) :
    ∀ (pre : List (TxOut × ℕ)) (o : TxOut) (i : ℕ) (post : List (TxOut × ℕ)) (indices : List ℕ)
      (db : BlockchainDB),
      (∀ q ∈ pre, q.1.amount = 0 ∧ ∃ t, q.1.target = .toKey t) → o.amount ≠ 0 →
      ∃ db', addOutputs p tx txHash false (pre ++ (o, i) :: post) indices db = .ok (db', none) ∧
        LedgerFrame db db' ∧ db'.outputAmounts.length = db.outputAmounts.length + pre.length
  | [], o, i, post, indices, db, _, ho => by
    refine ⟨db, ?_, LedgerFrame.refl db, rfl⟩
    rw [List.nil_append, addOutputs, if_neg Bool.false_ne_true, if_pos ho]
    rfl
  | (q, j) :: pre, o, i, post, indices, db, hs, ho => by
    obtain ⟨hq, t, ht⟩ : q.amount = 0 ∧ ∃ t, q.target = .toKey t := hs (q, j) List.mem_cons_self
    obtain ⟨db₁, idx, hadd, hlen₁⟩ := @addOutput_toKey db txHash q t hq ht j tx.unlockTime
      (((tx.rctSignatures.outPk[j]?).map CtKey.mask).getD default)
    obtain ⟨db', hrest, hframe, hlen⟩ := addOutputs_append_nonzero p tx txHash pre o i post
      (indices ++ [idx]) db₁ (fun q' hq' => hs q' (List.mem_cons_of_mem _ hq')) ho
    refine ⟨db', ?_, (addOutput_frame hadd).trans hframe, ?_⟩
    · rw [List.cons_append, addOutputs, if_neg Bool.false_ne_true, if_neg (not_not.mpr hq)]
      simp only [hadd, Except.ok_bind]
      exact hrest
    · rw [hlen, hlen₁, List.length_cons]
      omega

/-- **`add_transaction` does not undo what it did.** At an unsupported input,
after accepted inputs whose key images are new, `add_transaction` returns the
store with the key images of the inputs after it removed; at an output with a
nonzero amount, after outputs to a key with amount 0, it returns the store
with the transaction's index row, its blob and those outputs, and the key
images as before. -/
theorem addTransaction_early_return (p : Primitives) (tx : Transaction) (txHashPtr : Option Hash)
    (db : BlockchainDB) :
    (∀ pre bad post, tx.vin = pre ++ bad :: post →
      (∀ i ∈ pre, (i.isToKey || i.isGen) = true) → bad.isToKey = false → bad.isGen = false →
      (pre.filterMap TxinV.keyImage?).Nodup → (∀ k ∈ pre.filterMap TxinV.keyImage?, k ∉ db.spentKeys) →
      db.addTransaction p tx txHashPtr =
        .ok { db with spentKeys := db.spentKeys.diff (post.filterMap TxinV.keyImage?) }) ∧
    (∀ pre o post, tx.vout = pre ++ o :: post →
      (∀ i ∈ tx.vin, i.isToKey = true) → tx.keyImages.Nodup → (∀ k ∈ tx.keyImages, k ∉ db.spentKeys) →
      (∀ t ∈ db.txIndices, t.key ≠ txHashPtr.getD (p.getTransactionHash tx)) →
      (∀ q ∈ pre, q.amount = 0 ∧ ∃ t, q.target = .toKey t) → o.amount ≠ 0 →
      ∃ db', db.addTransaction p tx txHashPtr = .ok db' ∧
        db'.spentKeys = db.spentKeys ∧
        db'.txIndices = db.txIndices ++
          [⟨txHashPtr.getD (p.getTransactionHash tx), db.getTxCount, tx.unlockTime, db.height⟩] ∧
        db'.txs = db.txs ++ [(db.getTxCount, tx)] ∧
        db'.txOutputs = db.txOutputs ∧
        db'.outputAmounts.length = db.outputAmounts.length + pre.length) := by
  constructor
  · intro pre bad post hvin hs hkey hgen hnd hfresh
    -- the loop stops at `bad` with the key images of `pre` added
    have hbad : ∀ (m : Bool) (db₁ : BlockchainDB), addInputs (bad :: post) m db₁ = pure (db₁, none) := by
      intro m db₁
      cases bad with
      | toScript _ => rfl
      | toScripthash _ => rfl
      | toKey _ => simp [TxinV.isToKey] at hkey
      | gen _ => simp [TxinV.isGen] at hgen
    have hnone : bad.keyImage? = none := by
      cases bad with
      | toKey _ => simp [TxinV.isToKey] at hkey
      | gen _ | toScript _ | toScripthash _ => rfl
    have hkeys : tx.keyImages = pre.filterMap TxinV.keyImage? ++ post.filterMap TxinV.keyImage? := by
      rw [Transaction.keyImages, hvin, List.filterMap_append, List.filterMap_cons_none hnone]
    unfold addTransaction
    rw [hvin, addInputs_append_of_fresh pre (bad :: post) false db hs hnd hfresh, hbad]
    simp only [pure_bind, removeSpentKeys_eq, hkeys, List.diff_append,
      diff_append_cancel hfresh]
    rfl
  · intro pre o post hvout hs hnd hfresh hrow hpre ho
    -- every input is a `txin_to_key`: the loop adds every key image and finds no `txin_gen`
    have hsupp : ∀ i ∈ tx.vin, (i.isToKey || i.isGen) = true := fun i hi => by simp [hs i hi]
    have hgen : tx.vin.any TxinV.isGen = false := by
      refine List.any_eq_false.mpr fun i hi => ?_
      have h := hs i hi
      cases i with
      | gen _ => simp [TxinV.isToKey] at h
      | toScript _ | toScripthash _ | toKey _ => simp [TxinV.isGen]
    have hin : addInputs tx.vin false db =
        pure ({ db with spentKeys := db.spentKeys ++ tx.keyImages }, some false) := by
      have h := addInputs_append_of_fresh tx.vin [] false db hsupp hnd hfresh
      rw [List.append_nil, hgen] at h
      exact h
    -- the transaction's hash has no index row, so its row and blob are added
    have hfind : (db.txIndices.find? fun t => t.key = txHashPtr.getD (p.getTransactionHash tx)) = none :=
      List.find?_eq_none.mpr fun t ht => by simpa using hrow t ht
    have hzip : tx.vout.zipIdx = pre.zipIdx ++ (o, pre.length) :: post.zipIdx (pre.length + 1) := by
      rw [hvout, List.zipIdx_append, List.zipIdx_cons, Nat.zero_add]
    obtain ⟨db₃, hout, hframe, hlen⟩ := addOutputs_append_nonzero p tx (txHashPtr.getD (p.getTransactionHash tx))
      pre.zipIdx o pre.length (post.zipIdx (pre.length + 1)) []
      { db with spentKeys := db.spentKeys ++ tx.keyImages,
                txIndices := db.txIndices ++
                  [⟨txHashPtr.getD (p.getTransactionHash tx), db.getTxCount, tx.unlockTime, db.height⟩],
                txs := db.txs ++ [(db.getTxCount, tx)] }
      (fun q hq => hpre q.1 (List.fst_mem_of_mem_zipIdx hq)) ho
    refine ⟨db₃.removeSpentKeys tx.keyImages, ?_, ?_, ?_, ?_, ?_, ?_⟩
    · unfold addTransaction
      simp only [getTxCount, height] at hout
      simp only [hin, pure_bind, addTransactionData, hfind, hzip, getTxCount, height]
      rw [hout]
      rfl
    · rw [removeSpentKeys_eq, hframe.spentKeys]
      exact diff_append_cancel hfresh
    · rw [removeSpentKeys_eq, hframe.txIndices]
    · rw [removeSpentKeys_eq, hframe.txs]
    · rw [removeSpentKeys_eq, hframe.txOutputs]
    · rw [removeSpentKeys_eq, hlen, List.length_zipIdx]

/-- A store in which an earlier transaction spent the key image `default`. -/
def spentKeyStore : BlockchainDB := { empty with spentKeys := [default] }

/-- A transaction whose first input is a `txin_to_script`, followed by an
input spending the key image `default`. -/
def scriptInputTx : Transaction :=
  { (default : Transaction) with vin := [.toScript default, .toKey ⟨0, [0], default⟩] }

/-- A transaction spending one key image and paying one output of amount 1. -/
def paidOutputTx : Transaction :=
  { (default : Transaction) with vin := [.toKey ⟨0, [0], default⟩], vout := [⟨1, .toKey default⟩] }

/-- `add_transaction` of `scriptInputTx` removes the key image an earlier
transaction spent, and `add_transaction` of `paidOutputTx` into the empty store
keeps its index row and its blob. -/
theorem addTransaction_early_return_stores :
    spentKeyStore.addTransaction constPrimitives scriptInputTx none = .ok { spentKeyStore with spentKeys := [] } ∧
      ∃ db', empty.addTransaction constPrimitives paidOutputTx none = .ok db' ∧
        db'.spentKeys = [] ∧ db'.txIndices = [⟨default, 0, 0, 0⟩] ∧ db'.txs = [(0, paidOutputTx)] ∧
        db'.txOutputs = [] ∧ db'.outputAmounts.length = 0 :=
  ⟨(addTransaction_early_return constPrimitives scriptInputTx none spentKeyStore).1 [] (.toScript default)
      [.toKey ⟨0, [0], default⟩] rfl (by simp) rfl rfl (by simp) (by simp),
    (addTransaction_early_return constPrimitives paidOutputTx none empty).2 [] ⟨1, .toKey default⟩ [] rfl
      (by decide) (by decide) (by simp [empty]) (by simp [empty]) (by simp) (by decide)⟩

end BlockchainDB

end Ombre
