import Ombre.DB.State
import Ombre.Lib.Window
import Ombre.Lib.Table

/-!
# Finding where two chains split

The first step of synchronising two nodes. The node that asks sends
`NOTIFY_REQUEST_CHAIN` with the list `get_short_chain_history` builds: the
hashes of its blocks from the top down, the eleven topmost one by one, then
ever sparser (offsets `13, 17, 25, 41, ...` below the top), and last the
genesis block. The node that answers runs `find_blockchain_supplement`: it takes
the height of the first hash of the list that it holds as the split point and
replies with `NOTIFY_RESPONSE_CHAIN_ENTRY`, the hashes of its own chain from that
height up; the asking node checks the reply's heights in
`handle_response_chain_entry` before it requests the blocks.

Both functions read only the store. Heights are natural numbers, as in the
store's model, so the offsets of the history never wrap; the heights of the
reply are `uint64_t` on the wire.

When the two stores agree on the blocks they share (`SharedBlocksAgree`, which
holds unless two blocks have one hash), the split point is a height at which
both hold the same block, and it lies close below the last shared block: the
shared blocks above it, which the reply sends again, are fewer than half of the
asking node's blocks above it, and none at all when the chains part within the
asking node's last eleven blocks (`splitHeight_spec`). The reply passes the
asking node's checks.
-/

namespace Ombre

namespace Blockchain

/-- `BLOCKS_IDS_SYNCHRONIZING_DEFAULT_COUNT` -/
def blocksIdsSynchronizingDefaultCount : ℕ := 10000

/-- The loop of `get_short_chain_history` from its turn `i`: while the offset
`current_back_offset` is below the height `sz`, list the block that far below
the top (`get` reads it) and note whether it was the genesis block; the offset
grows by one for the first ten turns, then by `current_multiplier`, which
doubles each turn. -/
def shortChainHistoryLoop {α : Type} (get : ℕ → α) (sz i : ℕ) (currentMultiplier : ℕ+)
    (currentBackOffset : ℕ) (genesisIncluded : Bool) : List α × Bool :=
  if _h : currentBackOffset < sz then
    let genesisIncluded := genesisIncluded || sz - currentBackOffset == 0
    let rest :=
      if i < 10 then
        shortChainHistoryLoop get sz (i + 1) currentMultiplier (currentBackOffset + 1) genesisIncluded
      else
        shortChainHistoryLoop get sz (i + 1) (currentMultiplier * 2)
          (currentBackOffset + ↑(currentMultiplier * 2)) genesisIncluded
    (get (sz - currentBackOffset) :: rest.1, rest.2)
  else ([], genesisIncluded)
termination_by sz - currentBackOffset
decreasing_by
  · omega
  · have hpos := (currentMultiplier * 2).pos
    omega

/-- `Blockchain::get_short_chain_history`: the hashes the loop lists, then the
genesis block's unless the loop listed it; nothing for an empty store. -/
def getShortChainHistory (db : BlockchainDB) : List Hash :=
  let sz := db.height
  if sz = 0 then [] else
  let (ids, genesisIncluded) := shortChainHistoryLoop db.getBlockHashFromHeight sz 0 1 1 false
  if genesisIncluded then ids else ids ++ [db.getBlockHashFromHeight 0]

/-- `Blockchain::find_blockchain_supplement(qblock_ids, starter_offset)`: the
height of the first block of `qblock_ids` the store holds. It refuses an empty
list and one that does not end with the store's genesis block; on an empty
store, reading the genesis block throws `BLOCK_DNE`, a failure too. -/
def findBlockchainSupplementStart (db : BlockchainDB) (qblockIds : List Hash) : Option ℕ :=
  if qblockIds = [] then none
  else if db.height = 0 then none
  else if qblockIds.getLast? ≠ some (db.getBlockHashFromHeight 0) then none
  else qblockIds.findSome? db.getBlockHeight

/-- `Blockchain::find_blockchain_supplement(qblock_ids, hashes, start_height,
current_height)`: the hashes of the blocks from the split point up, at most
`BLOCKS_IDS_SYNCHRONIZING_DEFAULT_COUNT` of them, the split point and the
height. -/
def findBlockchainSupplement (db : BlockchainDB) (qblockIds : List Hash) :
    Option (List Hash × ℕ × ℕ) :=
  (findBlockchainSupplementStart db qblockIds).map fun startHeight =>
    let currentHeight := db.height
    (Window.readRange db.getBlockHashFromHeight startHeight
        (min currentHeight (startHeight + blocksIdsSynchronizingDefaultCount)),
      startHeight, currentHeight)

/-- `NOTIFY_RESPONSE_CHAIN_ENTRY::request` -/
structure ResponseChainEntry where
  startHeight : UInt64
  totalHeight : UInt64
  cumulativeDifficulty : UInt64
  mBlockIds : List Hash

/-- `Blockchain::find_blockchain_supplement(qblock_ids, resp)`, the reply of
`handle_request_chain`, with the cumulative difficulty of the top block. -/
def findBlockchainSupplementResp (db : BlockchainDB) (qblockIds : List Hash) :
    Option ResponseChainEntry :=
  (findBlockchainSupplement db qblockIds).map fun (hashes, startHeight, totalHeight) =>
    { startHeight := UInt64.ofNat startHeight, totalHeight := UInt64.ofNat totalHeight,
      cumulativeDifficulty := db.getBlockCumulativeDifficulty (db.height - 1),
      mBlockIds := hashes }

/-- The checks of `handle_response_chain_entry` before it reads the hashes of a
reply; the connection is dropped when one fails: an empty list, a list that
does not fit between `start_height` and `total_height`, or a last height
`start_height + size - 1` above `total_height`, all in `uint64_t`. -/
def responseChainEntryAccepted (arg : ResponseChainEntry) : Bool :=
  let size := UInt64.ofNat arg.mBlockIds.length
  !arg.mBlockIds.isEmpty &&
    !(arg.totalHeight < size || arg.startHeight > arg.totalHeight - size) &&
    !(arg.startHeight + size - 1 > arg.totalHeight)

/-- Two stores agree on the blocks they share: a hash both hold stands at one
height in both, with the same blocks below it. A block commits to its parent's
hash and, through its miner transaction, to its height, so two stores agree
unless two different blocks have one hash. -/
def SharedBlocksAgree (a b : BlockchainDB) : Prop :=
  ∀ i < a.height, ∀ j < b.height, a.getBlockHashFromHeight i = b.getBlockHashFromHeight j →
    i = j ∧ ∀ k ≤ i, a.getBlockHashFromHeight k = b.getBlockHashFromHeight k

instance (a b : BlockchainDB) : Decidable (SharedBlocksAgree a b) :=
  inferInstanceAs (Decidable (∀ i < a.height, ∀ j < b.height,
    a.getBlockHashFromHeight i = b.getBlockHashFromHeight j →
      i = j ∧ ∀ k ≤ i, a.getBlockHashFromHeight k = b.getBlockHashFromHeight k))

/-! ## The loop of `get_short_chain_history` -/

section Loop

variable {α : Type} (get : ℕ → α) (sz : ℕ)

theorem shortChainHistoryLoop_of_le {i : ℕ} {cm : ℕ+} {cbo : ℕ} (g : Bool) (h : sz ≤ cbo) :
    shortChainHistoryLoop get sz i cm cbo g = ([], g) := by
  rw [shortChainHistoryLoop, dif_neg (by omega)]

/-- An offset below the height never reads the genesis block. -/
theorem genesisIncluded_of_lt {cbo : ℕ} (g : Bool) (h : cbo < sz) : (g || sz - cbo == 0) = g := by
  simp only [beq_eq_false_iff_ne.mpr (by omega : sz - cbo ≠ 0), Bool.or_false]

/-- A turn below the height lists one block and never the genesis block. -/
theorem shortChainHistoryLoop_of_lt {i : ℕ} {cm : ℕ+} {cbo : ℕ} (g : Bool) (h : cbo < sz) :
    shortChainHistoryLoop get sz i cm cbo g =
      let rest := if i < 10 then shortChainHistoryLoop get sz (i + 1) cm (cbo + 1) g
        else shortChainHistoryLoop get sz (i + 1) (cm * 2) (cbo + ↑(cm * 2)) g
      (get (sz - cbo) :: rest.1, rest.2) := by
  rw [shortChainHistoryLoop, dif_pos h]
  simp only [genesisIncluded_of_lt sz g h]

/-- The loop never lists the genesis block: the offsets it reads stay below
the height. -/
theorem snd_shortChainHistoryLoop (i : ℕ) (cm : ℕ+) (cbo : ℕ) (g : Bool) :
    (shortChainHistoryLoop get sz i cm cbo g).2 = g := by
  induction i, cm, cbo, g using shortChainHistoryLoop.induct get sz with
  | case1 i cm cbo g h g' ih₁ ih₂ =>
    have hg : g' = g := genesisIncluded_of_lt sz g h
    rw [hg] at ih₁ ih₂
    rw [shortChainHistoryLoop_of_lt get sz g h]
    split
    · exact ih₁
    · exact ih₂
  | case2 i cm cbo g h => rw [shortChainHistoryLoop_of_le get sz g (by omega)]

/-- The loop lists what `get` reads at the heights it visits. -/
theorem fst_shortChainHistoryLoop (i : ℕ) (cm : ℕ+) (cbo : ℕ) (g : Bool) :
    (shortChainHistoryLoop get sz i cm cbo g).1 = (shortChainHistoryLoop id sz i cm cbo g).1.map get := by
  induction i, cm, cbo, g using shortChainHistoryLoop.induct get sz with
  | case1 i cm cbo g h g' ih₁ ih₂ =>
    have hg : g' = g := genesisIncluded_of_lt sz g h
    rw [hg] at ih₁ ih₂
    rw [shortChainHistoryLoop_of_lt get sz g h, shortChainHistoryLoop_of_lt id sz g h]
    split
    · simp only [ih₁, List.map_cons, id]
    · simp only [ih₂, List.map_cons, id]
  | case2 i cm cbo g h =>
    rw [shortChainHistoryLoop_of_le get sz g (by omega), shortChainHistoryLoop_of_le id sz g (by omega)]
    rfl

/-- The heights `get_short_chain_history` lists for a store of height `sz`:
those the loop visits, then the genesis block. -/
def historyHeights (sz : ℕ) : List ℕ := (shortChainHistoryLoop id sz 0 1 1 false).1 ++ [0]

/-- Where the loop stands at its turn `i`: the offset is one past the turn
while it grows by one, and `9 + 2 * current_multiplier` once it grows by the
multiplier. -/
def LadderInv (i : ℕ) (cm : ℕ+) (cbo : ℕ) : Prop :=
  (i < 10 ∧ cm = 1 ∧ cbo = i + 1) ∨ (10 ≤ i ∧ cbo = 9 + 2 * (cm : ℕ))

theorem LadderInv.next_of_lt {i : ℕ} {cm : ℕ+} {cbo : ℕ} (h : LadderInv i cm cbo) (hi : i < 10) :
    LadderInv (i + 1) cm (cbo + 1) := by
  obtain ⟨-, rfl, rfl⟩ | ⟨hi', -⟩ := h
  · by_cases hi9 : i + 1 < 10
    · exact Or.inl ⟨hi9, rfl, rfl⟩
    · exact Or.inr ⟨by omega, by simp only [PNat.one_coe]; omega⟩
  · omega

theorem LadderInv.next_of_ge {i : ℕ} {cm : ℕ+} {cbo : ℕ} (h : LadderInv i cm cbo) (hi : 10 ≤ i) :
    LadderInv (i + 1) (cm * 2) (cbo + ↑(cm * 2)) := by
  obtain ⟨hi', -⟩ | ⟨-, rfl⟩ := h
  · omega
  · refine Or.inr ⟨by omega, ?_⟩
    rw [PNat.mul_coe, PNat.val_ofNat]
    ring

/-- **The ladder of offsets.** Below a height `x`, the first height the loop
lists at or below `x` is less than half of its distance to the top below `x`,
and is `x` itself when `x` is among the eleven topmost heights; the genesis
block ends the list. -/
theorem find?_shortChainHistoryLoop {x : ℕ} (hx : x < sz) (i : ℕ) (cm : ℕ+) (cbo : ℕ) (g : Bool) :
    LadderInv i cm cbo → cbo < 2 * (sz - x) → (sz ≤ x + 11 → cbo ≤ sz - x) →
    ∃ y, ((shortChainHistoryLoop id sz i cm cbo g).1 ++ [0]).find? (fun h => decide (h ≤ x)) = some y ∧
      2 * (x - y) < sz - y ∧ (sz ≤ x + 11 → y = x) := by
  induction i, cm, cbo, g using shortChainHistoryLoop.induct id sz with
  | case1 i cm cbo g h g' ih₁ ih₂ =>
    intro hinv hlt hnear
    have hg : g' = g := genesisIncluded_of_lt sz g h
    rw [hg] at ih₁ ih₂
    rw [shortChainHistoryLoop_of_lt id sz g h]
    by_cases hle : sz - cbo ≤ x
    · -- the block `cbo` below the top is the first one at or below `x`
      refine ⟨sz - cbo, ?_, by omega, fun hsz => by omega⟩
      rw [List.cons_append, List.find?_cons_of_pos (by simpa using hle)]
      rfl
    · rw [List.cons_append, List.find?_cons_of_neg (by simpa using hle)]
      split
      case isTrue hi =>
        exact ih₁ (hinv.next_of_lt hi) (by omega) (fun hsz => by omega)
      case isFalse hi =>
        have hnext := hinv.next_of_ge (by omega)
        have hcbo : cbo = 9 + 2 * (cm : ℕ) := by
          rcases hinv with ⟨hi', -⟩ | ⟨-, hc⟩
          · omega
          · exact hc
        have hstep : ((cm * 2 : ℕ+) : ℕ) = 2 * (cm : ℕ) := by
          rw [PNat.mul_coe, PNat.val_ofNat, mul_comm]
        exact ih₂ hnext (by omega) (fun hsz => by omega)
  | case2 i cm cbo g h =>
    intro _ hlt hnear
    rw [shortChainHistoryLoop_of_le id sz g (by omega), List.nil_append,
      List.find?_cons_of_pos (by simp)]
    exact ⟨0, rfl, by omega, fun hsz => by omega⟩

theorem find?_historyHeights {sz x : ℕ} (hx : x < sz) :
    ∃ y, (historyHeights sz).find? (fun h => decide (h ≤ x)) = some y ∧
      2 * (x - y) < sz - y ∧ (sz ≤ x + 11 → y = x) :=
  find?_shortChainHistoryLoop sz hx 0 1 1 false (Or.inl ⟨by omega, rfl, rfl⟩) (by omega) (fun _ => by omega)

/-- Every height the loop lists is below the height of the store. -/
theorem lt_of_mem_shortChainHistoryLoop {h : ℕ} (i : ℕ) (cm : ℕ+) (cbo : ℕ) (g : Bool) :
    0 < cbo → h ∈ (shortChainHistoryLoop id sz i cm cbo g).1 → h < sz := by
  induction i, cm, cbo, g using shortChainHistoryLoop.induct id sz with
  | case1 i cm cbo g hlt g' ih₁ ih₂ =>
    intro hpos hmem
    have hg : g' = g := genesisIncluded_of_lt sz g hlt
    rw [hg] at ih₁ ih₂
    rw [shortChainHistoryLoop_of_lt id sz g hlt] at hmem
    rcases List.mem_cons.mp hmem with rfl | hmem
    · exact Nat.sub_lt (by omega) hpos
    · split at hmem
      · exact ih₁ (by omega) hmem
      · exact ih₂ (by omega) hmem
  | case2 i cm cbo g h =>
    intro _ hmem
    rw [shortChainHistoryLoop_of_le id sz g (by omega)] at hmem
    cases hmem

theorem lt_of_mem_historyHeights {sz h : ℕ} (hsz : 0 < sz) (hmem : h ∈ historyHeights sz) : h < sz := by
  rcases List.mem_append.mp hmem with hmem | hmem
  · exact lt_of_mem_shortChainHistoryLoop sz 0 1 1 false (by omega) hmem
  · rw [List.mem_singleton.mp hmem]
    exact hsz

end Loop

/-- The history of a nonempty store lists the hashes of its blocks at the
heights of `historyHeights`. -/
theorem getShortChainHistory_eq {db : BlockchainDB} (h : db.height ≠ 0) :
    getShortChainHistory db = (historyHeights db.height).map db.getBlockHashFromHeight := by
  have hloop := fst_shortChainHistoryLoop db.getBlockHashFromHeight db.height 0 1 1 false
  have hflag := snd_shortChainHistoryLoop db.getBlockHashFromHeight db.height 0 1 1 false
  unfold getShortChainHistory
  rw [if_neg h]
  dsimp only
  rw [hflag, if_neg Bool.false_ne_true, hloop, historyHeights, List.map_append]
  rfl

/-! ## Looking up the blocks of another store -/

theorem getBlockHashFromHeight_of_lt {db : BlockchainDB} {j : ℕ} (hj : j < db.chain.length) :
    db.getBlockHashFromHeight j = db.chain[j].info.hash := by
  simp [BlockchainDB.getBlockHashFromHeight, BlockchainDB.blockInfo, hj]

/-- `get_block_height` finds a block at a height holding its hash. -/
theorem getBlockHeight_eq_some {db : BlockchainDB} {h : Hash} {j : ℕ} (hj : db.getBlockHeight h = some j) :
    j < db.height ∧ db.getBlockHashFromHeight j = h := by
  obtain ⟨hlt, hp, -⟩ := List.findIdx?_eq_some_iff_getElem.mp hj
  refine ⟨hlt, ?_⟩
  rw [getBlockHashFromHeight_of_lt hlt]
  simpa using hp

/-- `get_block_height` finds every stored block. -/
theorem isSome_getBlockHeight {db : BlockchainDB} {j : ℕ} (hj : j < db.chain.length) :
    (db.getBlockHeight (db.getBlockHashFromHeight j)).isSome := by
  rw [BlockchainDB.getBlockHeight, List.findIdx?_isSome, List.any_eq_true]
  exact ⟨db.chain[j], List.getElem_mem hj, by simp [getBlockHashFromHeight_of_lt hj]⟩

/-- Height `h` of `a` holds a block that `b` holds at the same height. -/
def Shares (a b : BlockchainDB) (h : ℕ) : Bool :=
  decide (h < a.height ∧ h < b.height ∧ a.getBlockHashFromHeight h = b.getBlockHashFromHeight h)

theorem shares_iff {a b : BlockchainDB} {h : ℕ} : Shares a b h = true ↔
    h < a.height ∧ h < b.height ∧ a.getBlockHashFromHeight h = b.getBlockHashFromHeight h := by
  simp [Shares]

/-- A store holding blocks with the given hashes, and nothing else. -/
def hashChain (hashes : List Hash) : BlockchainDB :=
  { BlockchainDB.empty with
    chain := hashes.map fun h => ⟨default, { (default : MdbBlockInfo) with hash := h }⟩ }

/-- Sixteen blocks, the block at height `k` with hash `k`. -/
def sixteenBlocks : BlockchainDB := hashChain ((List.range 16).map fun k => Pod.ofByte 31 (UInt8.ofNat k))

/-- The five lowest blocks of `sixteenBlocks` and one of its own on top. -/
def forkAtFive : BlockchainDB :=
  hashChain ((List.range 5).map (fun k => Pod.ofByte 31 (UInt8.ofNat k)) ++ [Pod.ofByte 31 200])

theorem sharedBlocksAgree_forkAtFive : SharedBlocksAgree sixteenBlocks forkAtFive := by decide

theorem genesis_forkAtFive :
    sixteenBlocks.getBlockHashFromHeight 0 = forkAtFive.getBlockHashFromHeight 0 := by decide

/-- A reply whose hashes fit between its start height and the height, all below
`2 ^ 64`, passes the checks of `handle_response_chain_entry`. -/
theorem responseChainEntryAccepted_of_le {s bh : ℕ} {ids : List Hash} (cd : UInt64) (hne : ids ≠ [])
    (hsn : s + ids.length ≤ bh) (hbh : bh < 2 ^ 64) :
    responseChainEntryAccepted ⟨UInt64.ofNat s, UInt64.ofNat bh, cd, ids⟩ = true := by
  have hsize : UInt64.size = 2 ^ 64 := rfl
  have hn : 1 ≤ ids.length := List.length_pos_iff.mpr hne
  have hs : (UInt64.ofNat s).toNat = s := UInt64.toNat_ofNat_of_lt (by omega)
  have hb : (UInt64.ofNat bh).toNat = bh := UInt64.toNat_ofNat_of_lt (by omega)
  have hl : (UInt64.ofNat ids.length).toNat = ids.length := UInt64.toNat_ofNat_of_lt (by omega)
  -- none of the sums and differences of the checks wraps
  have hsub : (UInt64.ofNat bh - UInt64.ofNat ids.length).toNat = bh - ids.length := by
    rw [UInt64.toNat_sub_of_le _ _ (UInt64.le_iff_toNat_le.mpr (by omega)), hb, hl]
  have hsum : (UInt64.ofNat s + UInt64.ofNat ids.length).toNat = s + ids.length := by
    rw [UInt64.toNat_add, hs, hl, Nat.mod_eq_of_lt (by omega)]
  have hlast : (UInt64.ofNat s + UInt64.ofNat ids.length - 1).toNat = s + ids.length - 1 := by
    rw [UInt64.toNat_sub_of_le _ _ (UInt64.le_iff_toNat_le.mpr (by rw [hsum]; simp; omega)), hsum]
    rfl
  simp only [responseChainEntryAccepted, List.isEmpty_eq_false_iff.mpr hne, UInt64.lt_iff_toNat_lt, hb, hl,
    hs, hsub, hlast]
  simp only [Bool.not_false, Bool.true_and, Bool.and_eq_true, Bool.not_eq_true', Bool.or_eq_false_iff,
    decide_eq_false_iff_not, not_lt]
  omega

section Shared

variable {a b : BlockchainDB} (hagree : SharedBlocksAgree a b)
include hagree

/-- Below a shared block the two stores hold the same blocks. -/
theorem Shares.below {h k : ℕ} (hh : Shares a b h = true) (hk : k ≤ h) : Shares a b k = true := by
  obtain ⟨ha, hb, heq⟩ := shares_iff.mp hh
  have hbelow := (hagree h ha h hb heq).2
  exact shares_iff.mpr ⟨by omega, by omega, hbelow k hk⟩

/-- Looking a block of `a` up in `b` finds it at its own height exactly when
`b` holds it there. -/
theorem getBlockHeight_getBlockHashFromHeight {h : ℕ} (hh : h < a.height) :
    b.getBlockHeight (a.getBlockHashFromHeight h) = Option.guard (Shares a b) h := by
  cases hfind : b.getBlockHeight (a.getBlockHashFromHeight h) with
  | none =>
    -- a block `b` holds at height `h` would have been found
    have hnot : Shares a b h = false := by
      rw [Bool.eq_false_iff]
      intro hs
      obtain ⟨-, hb, heq⟩ := shares_iff.mp hs
      have hsome : (b.getBlockHeight (b.getBlockHashFromHeight h)).isSome := isSome_getBlockHeight hb
      rw [← heq, hfind] at hsome
      cases hsome
    rw [Option.guard_eq_none_iff.mpr hnot]
  | some j =>
    obtain ⟨hj, heq⟩ := getBlockHeight_eq_some hfind
    obtain ⟨rfl, -⟩ := hagree h hh j hj heq.symm
    exact (Option.guard_pos (shares_iff.mpr ⟨hh, hj, heq.symm⟩)).symm

/-- `find_blockchain_supplement` on the history of `a` searches the heights of
the history for the first one `b` shares. -/
theorem findBlockchainSupplementStart_getShortChainHistory (ha : 0 < a.height) (hb : 0 < b.height)
    (hgenesis : a.getBlockHashFromHeight 0 = b.getBlockHashFromHeight 0) :
    findBlockchainSupplementStart b (getShortChainHistory a) = (historyHeights a.height).find? (Shares a b) := by
  have hlast : (getShortChainHistory a).getLast? = some (b.getBlockHashFromHeight 0) := by
    rw [getShortChainHistory_eq (by omega), historyHeights, List.map_append, List.getLast?_append]
    simp [hgenesis]
  have hne : getShortChainHistory a ≠ [] := fun h => by simp [h] at hlast
  rw [findBlockchainSupplementStart, if_neg hne, if_neg (by omega), hlast, if_neg (fun h => h rfl),
    getShortChainHistory_eq (by omega), List.findSome?_map]
  exact List.findSome?_eq_find? fun h hh =>
    getBlockHeight_getBlockHashFromHeight hagree (lt_of_mem_historyHeights ha hh)

/-- The genesis block is shared, so the search down the history finds a height. -/
theorem exists_find?_shares (ha : 0 < a.height) (hb : 0 < b.height)
    (hgenesis : a.getBlockHashFromHeight 0 = b.getBlockHashFromHeight 0) :
    ∃ s, (historyHeights a.height).find? (Shares a b) = some s := by
  obtain ⟨y, hy, -⟩ := find?_historyHeights ha
  obtain ⟨s, hs, -⟩ := List.find?_of_downwardClosed (fun h k hh hk => Shares.below hagree hh hk)
    (shares_iff.mpr ⟨ha, hb, hgenesis⟩) hy
  exact ⟨s, hs⟩

/-- **The split point.** Asked with the history of `a`, `find_blockchain_supplement`
of `b` succeeds at a height where both stores hold the same blocks from the
genesis block up. Below any block `x` the two share, the shared blocks above the
split point, which the reply sends again, are fewer than half of the blocks of
`a` above it, and there are none when `x` is among the eleven topmost heights
of `a`. -/
theorem findBlockchainSupplementStart_splitPoint (ha : 0 < a.height) (hb : 0 < b.height)
    (hgenesis : a.getBlockHashFromHeight 0 = b.getBlockHashFromHeight 0) :
    ∃ s, findBlockchainSupplementStart b (getShortChainHistory a) = some s ∧
      s < a.height ∧ s < b.height ∧
      (∀ k ≤ s, a.getBlockHashFromHeight k = b.getBlockHashFromHeight k) ∧
      ∀ x < a.height, x < b.height →
        (∀ k ≤ x, a.getBlockHashFromHeight k = b.getBlockHashFromHeight k) →
        2 * (x - s) < a.height - s ∧ (a.height ≤ x + 11 → x ≤ s) := by
  rw [findBlockchainSupplementStart_getShortChainHistory hagree ha hb hgenesis]
  obtain ⟨s, hs⟩ := exists_find?_shares hagree ha hb hgenesis
  obtain ⟨hsa, hsb, hseq⟩ := shares_iff.mp (List.find?_some hs)
  refine ⟨s, hs, hsa, hsb, (hagree s hsa s hsb hseq).2, ?_⟩
  intro x hxa hxb hbelow
  -- the first listed height at or below `x` bounds the search from below
  obtain ⟨y, hy, hbound, hnear⟩ := find?_historyHeights hxa
  obtain ⟨s', hs', hs'y⟩ := List.find?_of_downwardClosed (fun h k hh hk => Shares.below hagree hh hk)
    (shares_iff.mpr ⟨hxa, hxb, hbelow x le_rfl⟩) hy
  rw [hs, Option.some_inj] at hs'
  subst hs'
  rcases hs'y with hxs | rfl
  · exact ⟨by omega, fun _ => le_of_lt hxs⟩
  · exact ⟨hbound, fun hx => (hnear hx).ge⟩

omit hagree in
/-- `forkAtFive` shares five blocks with `sixteenBlocks`; asked with the history
of `sixteenBlocks`, it finds a split point. -/
theorem findBlockchainSupplementStart_splitPoint_forkAtFive :
    SharedBlocksAgree sixteenBlocks forkAtFive ∧
      ∃ s, findBlockchainSupplementStart forkAtFive (getShortChainHistory sixteenBlocks) = some s ∧
        s < sixteenBlocks.height ∧ s < forkAtFive.height ∧
        (∀ k ≤ s, sixteenBlocks.getBlockHashFromHeight k = forkAtFive.getBlockHashFromHeight k) ∧
        ∀ x < sixteenBlocks.height, x < forkAtFive.height →
          (∀ k ≤ x, sixteenBlocks.getBlockHashFromHeight k = forkAtFive.getBlockHashFromHeight k) →
          2 * (x - s) < sixteenBlocks.height - s ∧ (sixteenBlocks.height ≤ x + 11 → x ≤ s) := by
  exact ⟨sharedBlocksAgree_forkAtFive, findBlockchainSupplementStart_splitPoint sharedBlocksAgree_forkAtFive
    (by decide) (by decide) genesis_forkAtFive⟩

/-- **The reply is accepted.** Answering the history of `a`, `b` replies with
its hashes from the split point up, at most `BLOCKS_IDS_SYNCHRONIZING_DEFAULT_COUNT`
of them, the first a block that `a` holds at that height, and the reply passes
the checks of `handle_response_chain_entry`. -/
theorem findBlockchainSupplementResp_accepted (ha : 0 < a.height) (hb : 0 < b.height)
    (hgenesis : a.getBlockHashFromHeight 0 = b.getBlockHashFromHeight 0) (hsmall : b.height < 2 ^ 64) :
    ∃ s r, findBlockchainSupplementResp b (getShortChainHistory a) = some r ∧
      responseChainEntryAccepted r = true ∧
      r.startHeight.toNat = s ∧ r.totalHeight.toNat = b.height ∧
      r.mBlockIds = Window.readRange b.getBlockHashFromHeight s
        (min b.height (s + blocksIdsSynchronizingDefaultCount)) ∧
      r.mBlockIds.head? = some (a.getBlockHashFromHeight s) := by
  obtain ⟨s, hs⟩ := exists_find?_shares hagree ha hb hgenesis
  obtain ⟨hsa, hsb, hseq⟩ := shares_iff.mp (List.find?_some hs)
  have hstart := (findBlockchainSupplementStart_getShortChainHistory hagree ha hb hgenesis).trans hs
  have hN : blocksIdsSynchronizingDefaultCount = 10000 := rfl
  set hi := min b.height (s + blocksIdsSynchronizingDefaultCount) with hhi
  -- the reply lists at least the block at the split point
  have hcount : hi - s = (hi - s - 1) + 1 := by omega
  have hhead : (Window.readRange b.getBlockHashFromHeight s hi).head? = some (b.getBlockHashFromHeight s) := by
    rw [Window.readRange, hcount, List.range'_succ, List.map_cons, List.head?_cons]
  have hne : Window.readRange b.getBlockHashFromHeight s hi ≠ [] := fun h => by simp [h] at hhead
  refine ⟨s, ⟨UInt64.ofNat s, UInt64.ofNat b.height, b.getBlockCumulativeDifficulty (b.height - 1),
    Window.readRange b.getBlockHashFromHeight s hi⟩, ?_, ?_, UInt64.toNat_ofNat_of_lt (by
      rw [show UInt64.size = 2 ^ 64 from rfl]; omega), UInt64.toNat_ofNat_of_lt (by
      rw [show UInt64.size = 2 ^ 64 from rfl]; omega), rfl, by rw [hhead, hseq]⟩
  · rw [findBlockchainSupplementResp, findBlockchainSupplement, hstart]
    rfl
  · exact responseChainEntryAccepted_of_le _ hne (by rw [Window.length_readRange]; omega) hsmall

omit hagree in
/-- The reply of `forkAtFive` to the history of `sixteenBlocks` is accepted. -/
theorem findBlockchainSupplementResp_accepted_forkAtFive :
    SharedBlocksAgree sixteenBlocks forkAtFive ∧
      ∃ s r, findBlockchainSupplementResp forkAtFive (getShortChainHistory sixteenBlocks) = some r ∧
        responseChainEntryAccepted r = true ∧
        r.startHeight.toNat = s ∧ r.totalHeight.toNat = forkAtFive.height ∧
        r.mBlockIds = Window.readRange forkAtFive.getBlockHashFromHeight s
          (min forkAtFive.height (s + blocksIdsSynchronizingDefaultCount)) ∧
        r.mBlockIds.head? = some (sixteenBlocks.getBlockHashFromHeight s) := by
  exact ⟨sharedBlocksAgree_forkAtFive, findBlockchainSupplementResp_accepted sharedBlocksAgree_forkAtFive
    (by decide) (by decide) genesis_forkAtFive (by decide)⟩

end Shared

end Blockchain

end Ombre
