import Ombre.Lib.OrderedIndex

/-!
# The peer list

`peerlist_manager` of `p2p/net_peerlist.h`: a white list of the peers this node
has been connected to and a gray list of peers it has heard of, each a
`peers_indexed` container, unique by address and ordered by the time the peer
was last seen (`MultiIndex`). Addresses are `epee`'s `network_address`, of
which IPv4 is the one kind (`net/net_utils_base.h`, `net/local_ip.h`).

A run is a list of calls (`PeerlistCall`) made from a manager as constructed,
with both lists empty.
-/

namespace Ombre

/-- `ipv4_network_address` -/
structure Ipv4NetworkAddress where
  ip : UInt32
  port : UInt16
  deriving DecidableEq, Repr

/-- `network_address`: empty (a null `self`) or an IPv4 address. Two
addresses are one key of an index ordered by `network_address::less` when
neither is less than the other: both empty, or IPv4 with one `ip` and one
`port`, which is equality here. -/
inductive NetworkAddress where
  | none
  | ipv4 (a : Ipv4NetworkAddress)
  deriving DecidableEq, Repr

/-- `__builtin_bswap32` -/
def bswap32 (x : UInt32) : UInt32 :=
  (x <<< (24 : UInt32)) ||| ((x &&& (0xff00 : UInt32)) <<< (8 : UInt32)) |||
    ((x >>> (8 : UInt32)) &&& (0xff00 : UInt32)) ||| (x >>> (24 : UInt32))

/-- `bits_to_mask(bits)`: `bits` ones at the high end, in little endian. -/
def bitsToMask (bits : UInt32) : UInt32 := bswap32 (((1 <<< bits) - 1) <<< (32 - bits))

/-- `ipv4_net_range` -/
structure Ipv4NetRange where
  address : UInt32
  netmask : UInt32

/-- The ranges `is_ip_local` checks, in the byte order of `m_ip`:
10.0.0.0/8, 192.168.0.0/16 and 172.16.0.0/12. -/
def localRanges : List Ipv4NetRange :=
  [⟨0x0000000a, bitsToMask 8⟩, ⟨0x0000a8c0, bitsToMask 16⟩, ⟨0x000010ac, bitsToMask 12⟩]

/-- `is_ip_local(ip)` -/
def isIpLocal (ip : UInt32) : Bool := localRanges.any fun r => ip &&& r.netmask == r.address

/-- `is_ip_loopback(ip)`: 127.0.0.0/8. -/
def isIpLoopback (ip : UInt32) : Bool := ip &&& 0x000000ff == 0x0000007f

namespace NetworkAddress

/-- `network_address::is_loopback()` -/
def isLoopback : NetworkAddress → Bool
  | none => false
  | ipv4 a => isIpLoopback a.ip

/-- `network_address::is_local()` -/
def isLocal : NetworkAddress → Bool
  | none => false
  | ipv4 a => isIpLocal a.ip

end NetworkAddress

example : NetworkAddress.isLocal (.ipv4 ⟨0x0101a8c0, 18080⟩) = true := by decide
example : NetworkAddress.isLocal (.ipv4 ⟨0x010020ac, 18080⟩) = false := by decide
example : NetworkAddress.isLoopback (.ipv4 ⟨0x0100007f, 18080⟩) = true := by decide

/-- `peerlist_entry` -/
structure PeerlistEntry where
  adr : NetworkAddress
  id : UInt64
  lastSeen : ℤ
  deriving DecidableEq, Repr

/-- `P2P_LOCAL_WHITE_PEERLIST_LIMIT` -/
def p2pLocalWhitePeerlistLimit : ℕ := 1000

/-- `P2P_LOCAL_GRAY_PEERLIST_LIMIT` -/
def p2pLocalGrayPeerlistLimit : ℕ := 5000

/-- `peers_indexed`: `by_addr` unique on the address, `by_time` ordered on
`last_seen`. -/
abbrev PeersIndexed := MultiIndex PeerlistEntry.adr PeerlistEntry.lastSeen

/-- `peerlist_manager`, with the two lists the calls below touch. -/
structure PeerlistManager where
  peersWhite : PeersIndexed
  peersGray : PeersIndexed
  allowLocalIp : Bool

namespace PeerlistManager

/-- A manager as constructed: both lists empty. The constructor leaves
`m_allow_local_ip` unset, so it may hold either value. -/
def empty (allowLocalIp : Bool) : PeerlistManager := ⟨.empty, .empty, allowLocalIp⟩

variable (pl : PeerlistManager)

/-- `init(allow_local_ip)` -/
def init (allowLocalIp : Bool) : PeerlistManager := { pl with allowLocalIp }

/-- `is_host_allowed(address)` -/
def isHostAllowed (address : NetworkAddress) : Bool :=
  -- never allow loopback ip
  if address.isLoopback then false
  else if !pl.allowLocalIp && address.isLocal then false
  else true

/-- `trim_gray_peerlist()` -/
def trimGrayPeerlist : PeerlistManager :=
  { pl with peersGray := pl.peersGray.trim p2pLocalGrayPeerlistLimit }

/-- `append_with_peer_white(ple)`: a new address is inserted and the white
list trimmed (`trim_white_peerlist`), a known one replaced; then the address
leaves the gray list. -/
def appendWithPeerWhite (ple : PeerlistEntry) : PeerlistManager :=
  if !pl.isHostAllowed ple.adr then pl
  else
    { pl with
      peersWhite := pl.peersWhite.upsert ple p2pLocalWhitePeerlistLimit
      peersGray := pl.peersGray.eraseKey ple.adr }

/-- `append_with_peer_gray(ple)`: nothing for an address on the white list;
otherwise a new address is inserted and the gray list trimmed, a known one
replaced. -/
def appendWithPeerGray (ple : PeerlistEntry) : PeerlistManager :=
  if !pl.isHostAllowed ple.adr then pl
  -- find in white list
  else if (pl.peersWhite.find ple.adr).isSome then pl
  else { pl with peersGray := pl.peersGray.upsert ple p2pLocalGrayPeerlistLimit }

/-- `set_peer_just_seen(peer, addr)`, at the time `now` that `time(NULL)` gives. -/
def setPeerJustSeen (peer : UInt64) (addr : NetworkAddress) (now : ℤ) : PeerlistManager :=
  pl.appendWithPeerWhite ⟨addr, peer, now⟩

/-- `merge_peerlist(outer_bs)` -/
def mergePeerlist (outerBs : List PeerlistEntry) : PeerlistManager :=
  (outerBs.foldl appendWithPeerGray pl).trimGrayPeerlist

/-- `remove_from_peer_gray(pe)` -/
def removeFromPeerGray (pe : PeerlistEntry) : PeerlistManager :=
  { pl with peersGray := pl.peersGray.eraseKey pe.adr }

/-- `get_random_gray_peer(pe)` with `crypto::rand<size_t>()` giving `r`: the
entry `r % size` places before the newest, or none from an empty list. -/
def getRandomGrayPeer (r : ℕ) : Option PeerlistEntry :=
  let gray := pl.peersGray.entries
  if gray.isEmpty then none
  else gray[gray.length - 1 - r % gray.length]?

end PeerlistManager

/-- The calls a run of the peer list makes. -/
inductive PeerlistCall where
  | init (allowLocalIp : Bool)
  | appendWithPeerWhite (ple : PeerlistEntry)
  | appendWithPeerGray (ple : PeerlistEntry)
  | setPeerJustSeen (peer : UInt64) (addr : NetworkAddress) (now : ℤ)
  | mergePeerlist (outerBs : List PeerlistEntry)
  | removeFromPeerGray (pe : PeerlistEntry)
  | getRandomGrayPeer (r : ℕ)

namespace PeerlistManager

/-- The manager after one call; `get_random_gray_peer` only reads. -/
def step (pl : PeerlistManager) : PeerlistCall → PeerlistManager
  | .init allowLocalIp => pl.init allowLocalIp
  | .appendWithPeerWhite ple => pl.appendWithPeerWhite ple
  | .appendWithPeerGray ple => pl.appendWithPeerGray ple
  | .setPeerJustSeen peer addr now => pl.setPeerJustSeen peer addr now
  | .mergePeerlist outerBs => pl.mergePeerlist outerBs
  | .removeFromPeerGray pe => pl.removeFromPeerGray pe
  | .getRandomGrayPeer _ => pl

/-- The manager after a list of calls. -/
def run (pl : PeerlistManager) (calls : List PeerlistCall) : PeerlistManager :=
  calls.foldl step pl

/-! The lists and the flag after each call. Proofs rewrite with these and do not
leave them to unfolding: the kernel, comparing a trimmed list with the list
before it, would run the trim's arithmetic on the limit. -/

section Fields

variable (pl : PeerlistManager) {a : NetworkAddress} {b : Bool} {pe : PeerlistEntry}

@[simp] theorem allowLocalIp_init : (pl.init b).allowLocalIp = b := by rw [init]

@[simp] theorem peersWhite_trimGrayPeerlist : pl.trimGrayPeerlist.peersWhite = pl.peersWhite := by
  rw [trimGrayPeerlist]

@[simp] theorem peersGray_trimGrayPeerlist :
    pl.trimGrayPeerlist.peersGray = pl.peersGray.trim p2pLocalGrayPeerlistLimit := by
  rw [trimGrayPeerlist]

@[simp] theorem allowLocalIp_trimGrayPeerlist : pl.trimGrayPeerlist.allowLocalIp = pl.allowLocalIp := by
  rw [trimGrayPeerlist]

@[simp] theorem peersWhite_removeFromPeerGray : (pl.removeFromPeerGray pe).peersWhite = pl.peersWhite := by
  rw [removeFromPeerGray]

@[simp] theorem peersGray_removeFromPeerGray :
    (pl.removeFromPeerGray pe).peersGray = pl.peersGray.eraseKey pe.adr := by
  rw [removeFromPeerGray]

@[simp] theorem allowLocalIp_removeFromPeerGray :
    (pl.removeFromPeerGray pe).allowLocalIp = pl.allowLocalIp := by
  rw [removeFromPeerGray]

theorem appendWithPeerWhite_of_not_allowed (h : pl.isHostAllowed pe.adr = false) :
    pl.appendWithPeerWhite pe = pl := by
  rw [appendWithPeerWhite, h, Bool.not_false, if_pos rfl]

theorem peersWhite_appendWithPeerWhite (h : pl.isHostAllowed pe.adr = true) :
    (pl.appendWithPeerWhite pe).peersWhite = pl.peersWhite.upsert pe p2pLocalWhitePeerlistLimit := by
  rw [appendWithPeerWhite, h, Bool.not_true, if_neg Bool.false_ne_true]

theorem peersGray_appendWithPeerWhite (h : pl.isHostAllowed pe.adr = true) :
    (pl.appendWithPeerWhite pe).peersGray = pl.peersGray.eraseKey pe.adr := by
  rw [appendWithPeerWhite, h, Bool.not_true, if_neg Bool.false_ne_true]

@[simp] theorem allowLocalIp_appendWithPeerWhite :
    (pl.appendWithPeerWhite pe).allowLocalIp = pl.allowLocalIp := by
  unfold appendWithPeerWhite
  split <;> rfl

@[simp] theorem allowLocalIp_appendWithPeerGray :
    (pl.appendWithPeerGray pe).allowLocalIp = pl.allowLocalIp := by
  unfold appendWithPeerGray
  split
  · rfl
  · split <;> rfl

/-- Whether an address is allowed depends on the manager only through its flag. -/
theorem isHostAllowed_congr {pl' : PeerlistManager} (h : pl'.allowLocalIp = pl.allowLocalIp) :
    pl'.isHostAllowed a = pl.isHostAllowed a := by
  simp only [isHostAllowed, h]

end Fields

end PeerlistManager

end Ombre
