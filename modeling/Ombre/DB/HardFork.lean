import Ombre.DB.State
import Ombre.Lib.Except
import Ombre.Lib.Tally

/-!
# The hard-fork tracker

`HardFork` of `hardfork.cpp`: the list of scheduled forks, a window of the
votes (`minor_version`) of the most recent blocks, and the index of the fork in
force. A block is accepted when its `major_version` is the version in force and
it votes for at least that version; after each block the tracker moves to the
newest fork whose threshold of votes is met. The version in force at each
height is recorded in the store's `m_hf_versions` table.

The counters `last_versions[v]` are a field of their own, updated as the
source updates them: `add` decrements the counter of each vote it drops and
increments the one of the vote it pushes, and the rescans clear them and count
the votes they read (`Tally.incr`, `Tally.decr`). That they stay equal to the
number of votes in the window is a property of the runs, not of the type.
-/

namespace Ombre

/-- `HardFork::Params`, without the activation time, which only `add_fork` and
`get_state` read. -/
structure HardForkParams where
  version : UInt8
  height : ℕ
  threshold : UInt8
deriving DecidableEq, Inhabited

/-- `get_block_vote`: a minor version of 0 counts as a vote for version 1. -/
def getBlockVote (b : Block) : UInt8 := if b.minorVersion = 0 then 1 else b.minorVersion

/-- `get_block_version` -/
def getBlockVersion (b : Block) : UInt8 := b.majorVersion

/-- The state of `HardFork`. The constructor refuses a window of size 0. -/
@[ext] structure HardFork where
  heights : List HardForkParams
  originalVersion : UInt8
  windowSize : ℕ
  windowSize_pos : 0 < windowSize
  versions : List UInt8
  lastVersions : UInt8 → ℕ
  currentForkIndex : ℕ

/-- What `add_fork` lets into the schedule: versions other than 0, versions and
heights strictly increasing, thresholds at most 100. -/
def ForkSchedule (heights : List HardForkParams) : Prop :=
  (∀ p ∈ heights, p.version ≠ 0 ∧ p.threshold ≤ 100) ∧
    heights.Pairwise fun p q => p.version < q.version ∧ p.height < q.height

namespace HardFork

variable (hf : HardFork)

/-- `heights[i]` -/
def params (i : ℕ) : HardForkParams := hf.heights.getD i default

/-- `get_current_version_num` -/
def getCurrentVersionNum : UInt8 := (hf.params hf.currentForkIndex).version

/-- `get_effective_version`: a vote is capped at the newest scheduled version. -/
def getEffectiveVersion (votingVersion : UInt8) : UInt8 :=
  match hf.heights.getLast? with
  | some p => if votingVersion > p.version then p.version else votingVersion
  | none => votingVersion

/-- `do_check` -/
def doCheck (blockVersion votingVersion : UInt8) : Bool :=
  blockVersion = hf.getCurrentVersionNum && votingVersion ≥ hf.getCurrentVersionNum

/-- `check`: the cheap test of `handle_block_to_main_chain`. -/
def check (b : Block) : Bool := hf.doCheck (getBlockVersion b) (getBlockVote b)

/-- The loop of `get_voted_fork_index` over the forks above the one in force,
newest first, accumulating the votes for each fork and the newer ones. -/
def votedForkIndexFrom (height : ℕ) : List ℕ → ℕ → Option ℕ
  | [], _ => none
  | n :: ns, accumulatedVotes =>
    let p := hf.params n
    let accumulatedVotes := accumulatedVotes + hf.lastVersions p.version
    let threshold := (hf.windowSize * p.threshold.toNat + 99) / 100
    if height ≥ p.height ∧ accumulatedVotes ≥ threshold then some n
    else votedForkIndexFrom height ns accumulatedVotes

/-- `get_voted_fork_index`: the newest fork above the one in force that is
scheduled by `height` and has enough votes, else the one in force. -/
def getVotedForkIndex (height : ℕ) : ℕ :=
  (hf.votedForkIndexFrom height
    (List.range' (hf.currentForkIndex + 1) (hf.heights.length - 1 - hf.currentForkIndex)).reverse
    0).getD hf.currentForkIndex

/-- `do_check_for_height`: the test `handle_alternative_block` applies, against
the fork the votes select at `height`. -/
def checkForHeight (b : Block) (height : ℕ) : Bool :=
  let p := hf.params (hf.getVotedForkIndex height)
  getBlockVersion b = p.version && getBlockVote b ≥ p.version

/-- The window update of `add`: `while (versions.size() >= window_size)` the
oldest vote leaves the window and its counter is decremented; then `v` is
pushed and its counter incremented. -/
def pushVote (v : UInt8) : HardFork :=
  let dropped := hf.versions.length + 1 - hf.windowSize
  { hf with
    versions := hf.versions.drop dropped ++ [v]
    lastVersions := Tally.incr ((hf.versions.take dropped).foldl Tally.decr hf.lastVersions) v }

/-- `voted = get_voted_fork_index(height); if (voted > current_fork_index)
current_fork_index = voted;`, as `add` and both rescans end. -/
def updateForkIndex (height : ℕ) : HardFork :=
  let voted := hf.getVotedForkIndex height
  if voted > hf.currentForkIndex then { hf with currentForkIndex := voted } else hf

/-- `add(block, height)`: record the version in force at `height`, push the
block's vote into the window and move to a newly voted fork. Returns `false`,
changing nothing, for a block that fails `do_check`. -/
def add (db : BlockchainDB) (b : Block) (height : ℕ) : Bool × HardFork × BlockchainDB :=
  if !hf.doCheck (getBlockVersion b) (getBlockVote b) then (false, hf, db)
  else
    let db := db.setHardForkVersion height hf.getCurrentVersionNum
    let hf' := hf.pushVote (hf.getEffectiveVersion (getBlockVote b))
    (true, hf'.updateForkIndex (height + 1), db)

/-- The loop `for (h = lo; h < hi; ++h)` of the rescans: the effective vote of
each stored block from `lo` up to `hi`. -/
def readVotes (db : BlockchainDB) (lo hi : ℕ) : Except DbError (List UInt8) :=
  (List.range' lo (hi - lo)).mapM fun h => do
    let b ← db.getBlockFromHeight h
    pure (hf.getEffectiveVersion (getBlockVote b))

/-- The window cleared (`versions.clear()`, every `last_versions[n] = 0`) and
refilled with `votes`, each counted, with the fork in force set to `i`. -/
def rebuildWindow (votes : List UInt8) (i : ℕ) : HardFork :=
  { hf with versions := votes, lastVersions := votes.foldl Tally.incr fun _ => 0, currentForkIndex := i }

/-- `start_version` of `reorganize_from_block_height`: the original version at
height 0, else the version stored for `height`. -/
def startVersionAt (db : BlockchainDB) (height : ℕ) : Except DbError UInt8 :=
  if height = 0 then pure hf.originalVersion else db.getHardForkVersion height

/-- The loop of `reorganize_from_block_height` that steps the fork in force
down to the newest one not above `startVersion`. -/
def lowerForkIndex (startVersion : UInt8) : ℕ → ℕ
  | 0 => 0
  | n + 1 => if (hf.params (n + 1)).version > startVersion then lowerForkIndex startVersion n else n + 1

/-- The last loop of `reorganize_from_block_height`: `add` of each stored block
from `lo` up to `hi`, whatever `add` returns. -/
def addStoredBlocks (db : BlockchainDB) (lo hi : ℕ) : Except DbError (HardFork × BlockchainDB) :=
  (List.range' lo (hi - lo)).foldlM
    (fun (acc : HardFork × BlockchainDB) h => do
      let b ← acc.2.getBlockFromHeight h
      let (_, hf', db') := acc.1.add acc.2 b h
      pure (hf', db'))
    (hf, db)

/-- `reorganize_from_block_height`: rebuild the window from the stored votes up
to `height`, restore the fork in force at `height` and replay `add` for the
stored blocks above it. -/
def reorganizeFromBlockHeight (db : BlockchainDB) (height : ℕ) :
    Except DbError (Bool × HardFork × BlockchainDB) := do
  if height ≥ db.height then return (false, hf, db)
  let rescanHeight := if height ≥ hf.windowSize - 1 then height - (hf.windowSize - 1) else 0
  let startVersion ← hf.startVersionAt db height
  let votes ← hf.readVotes db rescanHeight (height + 1)
  let hf' := hf.rebuildWindow votes (hf.lowerForkIndex startVersion hf.currentForkIndex)
  let (hf', db) ← (hf'.updateForkIndex (height + 1)).addStoredBlocks db (height + 1) db.height
  return (true, hf', db)

/-- `reorganize_from_chain_height` -/
def reorganizeFromChainHeight (db : BlockchainDB) (height : ℕ) :
    Except DbError (Bool × HardFork × BlockchainDB) :=
  if height = 0 then pure (false, hf, db) else hf.reorganizeFromBlockHeight db (height - 1)

/-- The loop of `rescan_from_block_height` that moves up from the first fork
to the first of version `lastv`, stopping at the newest. -/
def findForkIndex (lastv : UInt8) : List HardForkParams → ℕ
  | p :: q :: ps => if p.version ≠ lastv then findForkIndex lastv (q :: ps) + 1 else 0
  | _ => 0

/-- `rescan_from_block_height`: rebuild the window from the votes of every
stored block from `height` up, and take the fork in force from the version
stored for the top block. The store is only read. -/
def rescanFromBlockHeight (db : BlockchainDB) (height : ℕ) : Except DbError (Bool × HardFork) := do
  if height ≥ db.height then return (false, hf)
  let votes ← hf.readVotes db height db.height
  let lastv ← db.getHardForkVersion (db.height - 1)
  return (true, (hf.rebuildWindow votes (findForkIndex lastv hf.heights)).updateForkIndex db.height)

/-- `rescan_from_chain_height` -/
def rescanFromChainHeight (db : BlockchainDB) (height : ℕ) : Except DbError (Bool × HardFork) :=
  if height = 0 then pure (false, hf) else hf.rescanFromBlockHeight db (height - 1)

/-- The schedule of `init`: the forks added, or, when none was, a placeholder
fork of the original version at height 0, to avoid special cases. -/
def initHeights : List HardForkParams :=
  if hf.heights.isEmpty then [⟨hf.originalVersion, 0, 0⟩] else hf.heights

/-- `init`: put a fork of the original version at height 0 into an empty
schedule, clear the window and rebuild it from the store: by replaying every
block when the store has no fork version at height 0 (then writing the original
version there as the flag that this is done), else from the votes of the last
`window_size` blocks. -/
def init (db : BlockchainDB) : Except DbError (HardFork × BlockchainDB) := do
  let hf := ({ hf with heights := hf.initHeights } : HardFork).rebuildWindow [] 0
  match db.getHardForkVersion 0 with
  | .error _ =>
    let (_, hf, db) ← hf.reorganizeFromChainHeight db 1
    pure (hf, db.setHardForkVersion 0 hf.originalVersion)
  | .ok _ =>
    let height := if db.height > hf.windowSize then db.height - (hf.windowSize - 1) else 1
    let (_, hf) ← hf.rescanFromChainHeight db height
    pure (hf, db)

/-- `get(height)`: the version stored for a height below the top, the version
in force for the next block, and 255 above it, where the source asserts. -/
def get (db : BlockchainDB) (height : ℕ) : Except DbError UInt8 :=
  if height > db.height then pure 255
  else if height = db.height then pure hf.getCurrentVersionNum
  else db.getHardForkVersion height

/-! ## What each update changes -/

section Updates

variable (v : UInt8) (height : ℕ) {db : BlockchainDB} {b : Block}

@[simp] theorem heights_pushVote : (hf.pushVote v).heights = hf.heights := rfl

@[simp] theorem originalVersion_pushVote : (hf.pushVote v).originalVersion = hf.originalVersion := rfl

@[simp] theorem windowSize_pushVote : (hf.pushVote v).windowSize = hf.windowSize := rfl

@[simp] theorem currentForkIndex_pushVote : (hf.pushVote v).currentForkIndex = hf.currentForkIndex := rfl

@[simp] theorem heights_updateForkIndex : (hf.updateForkIndex height).heights = hf.heights := by
  simp only [updateForkIndex]; split <;> rfl

@[simp] theorem originalVersion_updateForkIndex :
    (hf.updateForkIndex height).originalVersion = hf.originalVersion := by
  simp only [updateForkIndex]; split <;> rfl

@[simp] theorem windowSize_updateForkIndex : (hf.updateForkIndex height).windowSize = hf.windowSize := by
  simp only [updateForkIndex]; split <;> rfl

@[simp] theorem versions_updateForkIndex : (hf.updateForkIndex height).versions = hf.versions := by
  simp only [updateForkIndex]; split <;> rfl

@[simp] theorem lastVersions_updateForkIndex :
    (hf.updateForkIndex height).lastVersions = hf.lastVersions := by
  simp only [updateForkIndex]; split <;> rfl

/-- The fork in force only moves up, to the voted one. -/
theorem currentForkIndex_updateForkIndex :
    (hf.updateForkIndex height).currentForkIndex = max hf.currentForkIndex (hf.getVotedForkIndex height) := by
  simp only [updateForkIndex]
  split
  · exact (max_eq_right (Nat.le_of_lt ‹_›)).symm
  · exact (max_eq_left (Nat.le_of_not_lt ‹_›)).symm

theorem add_of_doCheck (h : hf.doCheck (getBlockVersion b) (getBlockVote b) = true) :
    hf.add db b height = (true, (hf.pushVote (hf.getEffectiveVersion (getBlockVote b))).updateForkIndex (height + 1),
      db.setHardForkVersion height hf.getCurrentVersionNum) := by
  simp [add, h]

theorem add_of_not_doCheck (h : hf.doCheck (getBlockVersion b) (getBlockVote b) = false) :
    hf.add db b height = (false, hf, db) := by
  simp [add, h]

/-- `add` keeps the schedule, the original version and the window size. -/
theorem add_params : (hf.add db b height).2.1.heights = hf.heights ∧
    (hf.add db b height).2.1.originalVersion = hf.originalVersion ∧
    (hf.add db b height).2.1.windowSize = hf.windowSize := by
  cases h : hf.doCheck (getBlockVersion b) (getBlockVote b)
  · simp [add_of_not_doCheck _ _ h]
  · simp [add_of_doCheck _ _ h]

end Updates

section Reorganize

variable {db db' : BlockchainDB} {height : ℕ}

/-- `reorganize_from_block_height` returns at or above the top with nothing
changed, or rebuilds the window from the votes of the last `window_size`
blocks up to `height` and replays the stored blocks above it. -/
theorem reorganizeFromBlockHeight_cases {r : Bool} {hf' : HardFork}
    (h : hf.reorganizeFromBlockHeight db height = .ok (r, hf', db')) :
    (r = false ∧ hf' = hf ∧ db' = db) ∨
    (height < db.height ∧ r = true ∧ ∃ startVersion votes,
      hf.startVersionAt db height = .ok startVersion ∧
      hf.readVotes db (height + 1 - hf.windowSize) (height + 1) = .ok votes ∧
      ((hf.rebuildWindow votes (hf.lowerForkIndex startVersion hf.currentForkIndex)).updateForkIndex
        (height + 1)).addStoredBlocks db (height + 1) db.height = .ok (hf', db')) := by
  unfold reorganizeFromBlockHeight at h
  split at h
  · simp only [Except.pure_ok_iff, Prod.mk.injEq] at h
    exact .inl ⟨h.1.symm, h.2.1.symm, h.2.2.symm⟩
  · -- `rescan_height` is `height - (window_size - 1)` clamped at 0
    have hrescan : (if height ≥ hf.windowSize - 1 then height - (hf.windowSize - 1) else 0) =
        height + 1 - hf.windowSize := by
      have := hf.windowSize_pos
      split <;> omega
    dsimp only at h
    rw [hrescan] at h
    obtain ⟨startVersion, hsv, h⟩ := (Except.bind_ok_iff' _ _ _).mp h
    obtain ⟨votes, hv, h⟩ := (Except.bind_ok_iff' _ _ _).mp h
    obtain ⟨⟨hf'', db''⟩, hloop, h⟩ := (Except.bind_ok_iff' _ _ _).mp h
    simp only [Except.pure_ok_iff, Prod.mk.injEq] at h
    obtain ⟨rfl, rfl, rfl⟩ := h
    exact .inr ⟨by omega, rfl, startVersion, votes, hsv, hv, hloop⟩

/-- `reorganize_from_block_height` below the top, when the version at `height`
and the votes up to it are read and the stored blocks above are replayed. -/
theorem reorganizeFromBlockHeight_of_ok {startVersion : UInt8} {votes : List UInt8} {hf' : HardFork}
    (hlt : height < db.height) (hsv : hf.startVersionAt db height = .ok startVersion)
    (hv : hf.readVotes db (height + 1 - hf.windowSize) (height + 1) = .ok votes)
    (hloop : ((hf.rebuildWindow votes (hf.lowerForkIndex startVersion hf.currentForkIndex)).updateForkIndex
        (height + 1)).addStoredBlocks db (height + 1) db.height = .ok (hf', db')) :
    hf.reorganizeFromBlockHeight db height = .ok (true, hf', db') := by
  have hrescan : (if height ≥ hf.windowSize - 1 then height - (hf.windowSize - 1) else 0) =
      height + 1 - hf.windowSize := by
    have := hf.windowSize_pos
    split <;> omega
  unfold reorganizeFromBlockHeight
  rw [if_neg (by omega)]
  dsimp only
  rw [hrescan, hsv, Except.ok_bind, hv, Except.ok_bind, hloop, Except.ok_bind]
  rfl

end Reorganize

end HardFork

end Ombre
